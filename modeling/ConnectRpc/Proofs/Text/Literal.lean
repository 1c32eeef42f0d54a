import ConnectRpc.Bytes
import ConnectRpc.Proofs.Text.LineBreaks

/-!
# Quoted texts as string literals

A quoted text stands in generated code as a string literal. Such literals are read in two steps:
first how far the literal goes, where all that matters of a backslash is that the character behind
it closes nothing (`literalBody?`), then what its escapes stand for (`evaluate?`). The reader knows
more literals than are ever written: those between three marks, continued lines, octal escapes,
escapes that mean nothing, and characters by name, for whatever table of names.

Both steps go through a quoted text character by character (`QuotedChar.inside?_append`,
`QuotedChar.evaluate?_append`). Main statement: a quoted text is one literal, on one line, whose
value is the text, and nothing that the quoted text begins with is a literal (`quote_isLiteral`).

Characters are code points that are no surrogates, and so an escape that gives a surrogate has no
value here. Line ends are line feeds, as reading a source leaves them.
-/

namespace ConnectRpc.Text

/-! ## How far a literal goes -/

/-- String literals stand between apostrophes or between double quotes. -/
def isQuoteMark (c : Char) : Bool := c == '\'' || c == '"'

/-- What stands in front of the closing marks, and what follows these. The character behind a
backslash closes nothing; between single marks a line ends only behind a backslash. -/
def inside? (close : List Char) : List Char → Option (List Char × List Char)
  | [] => none
  | '\\' :: c :: rest => (inside? close rest).map fun found => ('\\' :: c :: found.1, found.2)
  | c :: rest =>
    if close.isPrefixOf (c :: rest) then some ([], (c :: rest).drop close.length)
    else if c = '\n' ∧ close.length = 1 then none
    else (inside? close rest).map fun found => (c :: found.1, found.2)

/-- The text between the marks of the literal that stands here, and what follows the literal. -/
def literalBody? : List Char → Option (List Char × List Char)
  | [] => none
  | q :: rest =>
    if isQuoteMark q then
      if [q, q].isPrefixOf rest then inside? [q, q, q] (rest.drop 2) else inside? [q] rest
    else none

/-! ## What a literal stands for -/

/-- The characters that stand for one character behind a backslash, and for which. -/
def escapedChars : List (Char × Char) :=
  [('\\', '\\'), ('\'', '\''), ('"', '"'), ('a', '\x07'), ('b', '\x08'), ('f', '\x0C'),
   ('n', '\n'), ('r', '\r'), ('t', '\t'), ('v', '\x0B')]

/-- The number that digits spell to a base of at most sixteen. -/
def numberIn? (base : Nat) (digits : List Char) : Option Nat :=
  digits.foldlM (fun n c => (Bytes.hexValue? c).map (base * n + ·)) 0

/-- The character whose code the digits spell, if there is one of this code. -/
def codePoint? (base : Nat) (digits : List Char) : Option Char :=
  (numberIn? base digits).bind fun code =>
    if code.isValidChar then some (Char.ofNat code) else none

/-- A character by its name between braces, behind `\N`, and the length of the escape. -/
def namedEscape? (named : String → Option Char) : List Char → Option (List Char × Nat)
  | '\x7b' :: rest =>
    match cutAt '\x7d' rest with
    | (name, some _) => (named (String.ofList name)).map fun c => ([c], name.length + 3)
    | _ => none
  | _ => none

/-- Up to three octal digits at the front. -/
def octalDigits (cs : List Char) : List Char :=
  (cs.takeWhile fun c => '0' ≤ c && c ≤ '7').take 3

/-- The escape behind a backslash: the characters that it stands for, and how many it has itself. An
escape that means nothing stands for itself with its backslash. -/
def escape? (named : String → Option Char) : List Char → Option (List Char × Nat)
  | [] => none
  | c :: rest =>
    if c = '\n' then some ([], 1)
    else if c = 'N' then namedEscape? named rest
    else
      match codeMarks.lookup c, octalDigits (c :: rest), escapedChars.lookup c with
      | some width, _, _ =>
        if (rest.take width).length = width then
          (codePoint? 16 (rest.take width)).map fun d => ([d], width + 1)
        else none
      | none, d :: more, _ =>
        (codePoint? 8 (d :: more)).map fun e => ([e], (d :: more).length)
      | none, [], some d => some ([d], 1)
      | none, [], none => some (['\\', c], 1)

/-- What the text between the marks of a literal stands for. -/
def evaluate? (named : String → Option Char) : List Char → Option (List Char)
  | [] => some []
  | '\\' :: rest =>
    (escape? named rest).bind fun found =>
      (evaluate? named (rest.drop found.2)).map (found.1 ++ ·)
  | c :: rest => (evaluate? named rest).map (c :: ·)
termination_by cs => cs.length
decreasing_by
  · simp only [List.length_drop, List.length_cons]
    omega
  · simp

/-- The value of the string literal that stands here, and what follows the literal. -/
def readLiteral? (named : String → Option Char) (cs : List Char) :
    Option (List Char × List Char) :=
  (literalBody? cs).bind fun found => (evaluate? named found.1).map fun value => (value, found.2)

/-! ## Between quotes -/

section

variable {q c : Char} {text : List Char}

theorem inside?_cons_of_ne (hbackslash : c ≠ '\\') (hquote : c ≠ q) (hfeed : c ≠ '\n')
    (rest : List Char) :
    inside? [q] (c :: rest) = (inside? [q] rest).map fun found => (c :: found.1, found.2) := by
  rw [inside?]
  · simp [Ne.symm hquote, hfeed]
  · intro _ _ heq _
    exact absurd heq hbackslash

theorem inside?_close (hq : q ≠ '\\') (rest : List Char) :
    inside? [q] (q :: rest) = some ([], rest) := by
  rw [inside?]
  · simp
  · intro _ _ heq _
    exact absurd heq hq

/-- Characters that are neither backslash nor closing mark nor line feed stand between the marks. -/
theorem inside?_append (h : ∀ c ∈ text, c ≠ '\\' ∧ c ≠ q ∧ c ≠ '\n') (rest : List Char) :
    inside? [q] (text ++ rest) =
      (inside? [q] rest).map fun found => (text ++ found.1, found.2) := by
  induction text with
  | nil => simp
  | cons c more ih =>
    obtain ⟨⟨hbackslash, hquote, hfeed⟩, hmore⟩ := List.forall_mem_cons.mp h
    rw [List.cons_append, inside?_cons_of_ne hbackslash hquote hfeed, ih hmore, Option.map_map]
    rfl

theorem ne_of_mem_hexPadded (hq : isQuoteMark q = true) {width n : Nat} :
    ∀ c ∈ hexPadded width n, c ≠ '\\' ∧ c ≠ q ∧ c ≠ '\n' := by
  have hdigits : ∀ digit < 16, Nat.digitChar digit ≠ '\\' ∧
      isQuoteMark (Nat.digitChar digit) = false ∧ Nat.digitChar digit ≠ '\n' := by decide
  intro c hc
  obtain ⟨digit, hdigit, rfl⟩ := exists_of_mem_hexPadded hc
  obtain ⟨hbackslash, hmark, hfeed⟩ := hdigits digit hdigit
  refine ⟨hbackslash, ?_, hfeed⟩
  rintro rfl
  rw [hq] at hmark
  cases hmark

/-- A character as it is written between quotes does not end the literal. -/
theorem QuotedChar.inside?_append (h : QuotedChar q c text) (hq : isQuoteMark q = true)
    (rest : List Char) :
    inside? [q] (text ++ rest) =
      (inside? [q] rest).map fun found => (text ++ found.1, found.2) := by
  cases h with
  | self => rfl
  | letter => rfl
  | plain _ hquote hbackslash hfeed => exact inside?_cons_of_ne hbackslash hquote hfeed rest
  | code =>
    rw [List.cons_append, List.cons_append, inside?,
      Text.inside?_append (ne_of_mem_hexPadded hq), Option.map_map]
    rfl

end

/-! ## Escapes -/

theorem numberIn?_concat (base : Nat) (digits : List Char) (c : Char) :
    numberIn? base (digits ++ [c]) =
      (numberIn? base digits).bind fun n => (Bytes.hexValue? c).map (base * n + ·) := by
  rw [numberIn?, List.foldlM_append]
  simp [numberIn?]

theorem hexValue?_digitChar {digit : Nat} (h : digit < 16) :
    Bytes.hexValue? (Nat.digitChar digit) = some digit := by
  have hall : ∀ digit < 16, Bytes.hexValue? (Nat.digitChar digit) = some digit := by decide
  exact hall digit h

theorem numberIn?_toDigits (n : Nat) : numberIn? 16 (Nat.toDigits 16 n) = some n := by
  induction n using Nat.strongRecOn with
  | ind n ih =>
    rw [Nat.toDigits_eq_if (by decide)]
    split
    · next hsmall => simp [numberIn?, hexValue?_digitChar hsmall]
    · next hlarge =>
      rw [numberIn?_concat, ih (n / 16) (by omega), hexValue?_digitChar (by omega)]
      simp only [Option.bind_some, Option.map_some]
      congr 1
      omega

theorem numberIn?_zeros_append (base k : Nat) (digits : List Char) :
    numberIn? base (List.replicate k '0' ++ digits) = numberIn? base digits := by
  have hzero : Bytes.hexValue? '0' = some 0 := by decide
  induction k with
  | zero => rfl
  | succ k ih =>
    rw [List.replicate_succ, List.cons_append, ← ih]
    simp [numberIn?, hzero]

theorem codePoint?_hexPadded (width : Nat) (c : Char) :
    codePoint? 16 (hexPadded width c.toNat) = some c := by
  rw [codePoint?, hexPadded, numberIn?_zeros_append, numberIn?_toDigits, Option.bind_some,
    if_pos (show c.toNat.isValidChar from c.valid), Char.ofNat_toNat]

section

variable (named : String → Option Char)

theorem evaluate?_backslash (rest : List Char) :
    evaluate? named ('\\' :: rest) =
      (escape? named rest).bind fun found =>
        (evaluate? named (rest.drop found.2)).map (found.1 ++ ·) := by
  rw [evaluate?]

theorem evaluate?_cons_of_ne {c : Char} (h : c ≠ '\\') (rest : List Char) :
    evaluate? named (c :: rest) = (evaluate? named rest).map (c :: ·) := by
  rw [evaluate?]
  exact fun heq => h heq

theorem escape?_of_mem_escapedChars {e c : Char} (h : (e, c) ∈ escapedChars) (rest : List Char) :
    escape? named (e :: rest) = some ([c], 1) := by
  simp only [escapedChars, List.mem_cons, Prod.mk.injEq, List.not_mem_nil, or_false] at h
  rcases h with ⟨rfl, rfl⟩ | ⟨rfl, rfl⟩ | ⟨rfl, rfl⟩ | ⟨rfl, rfl⟩ | ⟨rfl, rfl⟩ | ⟨rfl, rfl⟩ |
    ⟨rfl, rfl⟩ | ⟨rfl, rfl⟩ | ⟨rfl, rfl⟩ | ⟨rfl, rfl⟩ <;> rfl

theorem width_pos_of_mem_codeMarks {mark : Char} {width : Nat} (h : (mark, width) ∈ codeMarks) :
    0 < width := by
  have hall : ∀ entry ∈ codeMarks, 0 < entry.2 := by decide
  exact hall _ h

theorem escape?_code {mark c : Char} {width : Nat} (h : (mark, width) ∈ codeMarks)
    (hcode : c.toNat < 16 ^ width) (rest : List Char) :
    escape? named (mark :: hexPadded width c.toNat ++ rest) = some ([c], width + 1) := by
  have hlength := length_hexPadded (width_pos_of_mem_codeMarks h) hcode
  have hmark : codeMarks.lookup mark = some width ∧ mark ≠ '\n' ∧ mark ≠ 'N' := by
    simp only [codeMarks, List.mem_cons, Prod.mk.injEq, List.not_mem_nil, or_false] at h
    rcases h with ⟨rfl, rfl⟩ | ⟨rfl, rfl⟩ | ⟨rfl, rfl⟩ <;> decide
  obtain ⟨hwidth, hfeed, hname⟩ := hmark
  have htake : (hexPadded width c.toNat ++ rest).take width = hexPadded width c.toNat :=
    List.take_left' hlength
  rw [List.cons_append, escape?, if_neg hfeed, if_neg hname, hwidth]
  simp only [htake, hlength, if_true, codePoint?_hexPadded, Option.map_some]

/-- A character as it is written between quotes evaluates to the character. -/
theorem QuotedChar.evaluate?_append {q c : Char} {text : List Char} (h : QuotedChar q c text)
    (hq : isQuoteMark q = true) (rest : List Char) :
    evaluate? named (text ++ rest) = (evaluate? named rest).map (c :: ·) := by
  cases h with
  | self h =>
    have hself : (c, c) ∈ escapedChars := by
      rcases h with rfl | rfl
      · rcases (by simpa [isQuoteMark] using hq : c = '\'' ∨ c = '"') with rfl | rfl <;> decide
      · decide
    rw [List.cons_append, evaluate?_backslash, List.singleton_append,
      escape?_of_mem_escapedChars named hself]
    rfl
  | @letter e h =>
    have hescaped : (e, c) ∈ escapedChars := by
      have hsub : quotedLetters ⊆ escapedChars := by decide
      exact hsub h
    rw [List.cons_append, evaluate?_backslash, List.singleton_append,
      escape?_of_mem_escapedChars named hescaped]
    rfl
  | plain _ _ hbackslash => exact evaluate?_cons_of_ne named hbackslash rest
  | code h hcode =>
    have hlength := length_hexPadded (width_pos_of_mem_codeMarks h) hcode
    rw [List.cons_append, evaluate?_backslash, escape?_code named h hcode, Option.bind_some,
      List.cons_append, List.drop_succ_cons, List.drop_left' hlength]
    rfl

end

/-! ## Quoted texts -/

section

variable {q : Char} (hq : isQuoteMark q = true)

include hq

theorem inside?_flatMap_quoteChar (cs rest : List Char) :
    inside? [q] (cs.flatMap (quoteChar q) ++ rest) =
      (inside? [q] rest).map fun found => (cs.flatMap (quoteChar q) ++ found.1, found.2) := by
  induction cs with
  | nil => simp
  | cons c more ih =>
    rw [List.flatMap_cons, List.append_assoc, (quotedChar_quoteChar q c).inside?_append hq, ih,
      Option.map_map]
    simp [Function.comp_def]

theorem evaluate?_flatMap_quoteChar (named : String → Option Char) (cs : List Char) :
    evaluate? named (cs.flatMap (quoteChar q)) = some cs := by
  induction cs with
  | nil => rw [List.flatMap_nil, evaluate?]
  | cons c more ih =>
    rw [List.flatMap_cons, (quotedChar_quoteChar q c).evaluate?_append named hq, ih]
    rfl

theorem ne_backslash_of_isQuoteMark : q ≠ '\\' := by
  rintro rfl
  cases hq

/-- What is written between quotes does not begin with the quote. -/
theorem QuotedChar.head?_ne {c : Char} {text : List Char} (h : QuotedChar q c text)
    (rest : List Char) : (text ++ rest).head? ≠ some q := by
  have hbackslash : some '\\' ≠ some q := by
    simpa using (ne_backslash_of_isQuoteMark hq).symm
  cases h with
  | self => exact hbackslash
  | letter => exact hbackslash
  | plain _ hquote => simpa using hquote
  | code => exact hbackslash

theorem head?_flatMap_quoteChar_append {cs : List Char} (hne : cs ≠ []) (rest : List Char) :
    (cs.flatMap (quoteChar q) ++ rest).head? ≠ some q := by
  cases cs with
  | nil => exact absurd rfl hne
  | cons c more =>
    rw [List.flatMap_cons, List.append_assoc]
    exact (quotedChar_quoteChar q c).head?_ne hq _

/-- A mark opens a literal between single marks unless it is doubled. -/
theorem literalBody?_cons {rest : List Char} (h : ¬ [q, q] <+: rest) :
    literalBody? (q :: rest) = inside? [q] rest := by
  rw [literalBody?, if_pos hq, if_neg (by simpa using h)]

/-- A literal that is closed stays so whatever follows. -/
theorem inside?_append_of_some {cs body rest : List Char}
    (h : inside? [q] cs = some (body, rest)) (more : List Char) :
    inside? [q] (cs ++ more) = some (body, rest ++ more) := by
  fun_induction inside? [q] cs generalizing body rest with
  | case1 => cases h
  | case2 c cs ih =>
    obtain ⟨found, hfound, heq⟩ := Option.map_eq_some_iff.mp h
    obtain ⟨rfl, rfl⟩ := Prod.mk.inj heq
    rw [List.cons_append, List.cons_append, inside?, ih hfound]
    rfl
  | case3 c cs _ hclose =>
    obtain rfl : q = c := by simpa using hclose
    obtain ⟨rfl, rfl⟩ := Prod.mk.inj (Option.some.inj h)
    exact inside?_close (ne_backslash_of_isQuoteMark hq) (cs ++ more)
  | case4 => cases h
  | case5 c cs hpair hclose hfeed ih =>
    obtain ⟨found, hfound, heq⟩ := Option.map_eq_some_iff.mp h
    obtain ⟨rfl, rfl⟩ := Prod.mk.inj heq
    have hquote : c ≠ q := fun heq => hclose (by simp [heq])
    have hbackslash : c ≠ '\\' := by
      -- A backslash would stand at the very end, where nothing is closed.
      rintro rfl
      cases cs with
      | nil => cases hfound
      | cons d cs => exact hpair d cs rfl rfl
    rw [List.cons_append, inside?_cons_of_ne hbackslash hquote (by simpa using hfeed), ih hfound]
    rfl

end

theorem isQuoteMark_quoteFor (cs : List Char) : isQuoteMark (quoteFor cs) = true := by
  rcases quoteFor_cases cs with h | h <;> rw [h] <;> rfl

/-- A quoted text is a literal whatever follows it, but for a third mark behind an empty one. -/
theorem literalBody?_quoteChars_append {cs rest : List Char}
    (h : cs = [] → rest.head? ≠ some '\'') :
    literalBody? (quoteChars cs ++ rest) =
      some (cs.flatMap (quoteChar (quoteFor cs)), rest) := by
  have hq := isQuoteMark_quoteFor cs
  have hsingle : ¬ [quoteFor cs, quoteFor cs] <+:
      cs.flatMap (quoteChar (quoteFor cs)) ++ quoteFor cs :: rest := by
    intro hbegins
    by_cases hcs : cs = []
    · subst hcs
      obtain ⟨more, hmore⟩ := hbegins
      refine h rfl ?_
      have hrest : rest = '\'' :: more := (List.cons.inj hmore).2.symm
      rw [hrest, List.head?_cons]
    · obtain ⟨more, hmore⟩ := hbegins
      exact head?_flatMap_quoteChar_append hq hcs _ (by rw [← hmore]; rfl)
  rw [quoteChars, List.append_assoc, List.cons_append, List.singleton_append,
    literalBody?_cons hq hsingle, inside?_flatMap_quoteChar hq,
    inside?_close (ne_backslash_of_isQuoteMark hq)]
  simp

/-- What a quoted text begins with is no literal, unless it is all of it: the closing mark is
missing, and a literal that were closed before would be so in the whole text. -/
theorem literalBody?_take_quoteChars {cs : List Char} {n : Nat} (hn : n < (quoteChars cs).length) :
    literalBody? ((quoteChars cs).take n) = none := by
  have hq := isQuoteMark_quoteFor cs
  generalize hbody : cs.flatMap (quoteChar (quoteFor cs)) = body at hn
  cases n with
  | zero => rfl
  | succ m =>
    have hm : m ≤ body.length := by
      rw [quoteChars, hbody] at hn
      simp only [List.length_append, List.length_cons, List.length_nil] at hn
      omega
    have htake : (quoteChars cs).take (m + 1) = quoteFor cs :: body.take m := by
      rw [quoteChars, hbody, List.cons_append, List.take_succ_cons,
        List.take_append_of_le_length hm]
    have hsingle : ¬ [quoteFor cs, quoteFor cs] <+: body.take m := by
      intro hbegins
      obtain ⟨more, hmore⟩ := hbegins.trans (List.take_prefix m body)
      have hcs : cs ≠ [] := by
        rintro rfl
        rw [← hbody] at hmore
        cases hmore
      have hhead := head?_flatMap_quoteChar_append hq hcs []
      rw [List.append_nil, hbody, ← hmore] at hhead
      exact hhead rfl
    rw [htake, literalBody?_cons hq hsingle, Option.eq_none_iff_forall_ne_some]
    rintro ⟨inside, rest⟩ hclosed
    have hwhole := inside?_append_of_some hq hclosed (body.drop m ++ [quoteFor cs])
    rw [← List.append_assoc, List.take_append_drop, ← hbody, inside?_flatMap_quoteChar hq,
      inside?_close (ne_backslash_of_isQuoteMark hq)] at hwhole
    have hrest := (Prod.mk.inj (Option.some.inj hwhole)).2
    simp at hrest

/-- **A quoted text is the literal of the text.** It is on one line; what it begins with is no
literal, so that its last character is the one that ends it; and whatever follows it, the literal
read there is the quoted text, and its value is the text. The two marks of the empty text have to be
followed by something else than a third one, and so they are wherever a text is quoted in a unit. -/
theorem quote_isLiteral (named : String → Option Char) (s : String) :
    OneLine (quote s) ∧
    readLiteral? named (quote s).toList = some (s.toList, []) ∧
    (∀ n < (quote s).toList.length, literalBody? ((quote s).toList.take n) = none) ∧
    ∀ rest : List Char, (s = "" → rest.head? ≠ some '\'') →
      readLiteral? named ((quote s).toList ++ rest) = some (s.toList, rest) := by
  have hread : ∀ rest : List Char, (s = "" → rest.head? ≠ some '\'') →
      readLiteral? named ((quote s).toList ++ rest) = some (s.toList, rest) := by
    intro rest hrest
    rw [readLiteral?, quote, String.toList_ofList,
      literalBody?_quoteChars_append fun hs => hrest (String.toList_eq_nil_iff.mp hs),
      Option.bind_some, evaluate?_flatMap_quoteChar (isQuoteMark_quoteFor s.toList)]
    rfl
  refine ⟨oneLine_quote s, ?_, ?_, hread⟩
  · simpa using hread [] (by simp)
  · intro n hn
    rw [quote, String.toList_ofList] at hn ⊢
    exact literalBody?_take_quoteChars hn

/-- A text with an apostrophe, as it stands in a call. -/
theorem quote_isLiteral_apostrophe :
    readLiteral? (fun _ => none) "\"it's\", request_data".toList =
      some ("it's".toList, ", request_data".toList) := by
  have hread := (quote_isLiteral (fun _ => none) "it's").2.2.2 ", request_data".toList (by decide)
  have hquote : quote "it's" = "\"it's\"" := by decide +kernel
  rwa [hquote] at hread

end ConnectRpc.Text
