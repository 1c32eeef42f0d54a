import ConnectRpc.Proofs.Json.Writing
import ConnectRpc.Proofs.Number.Digits
import ConnectRpc.Proofs.Number.Shortest
import Mathlib.Data.List.DropRight

/-!
# The grammar of JSON texts

Which texts are JSON, as rules over characters (`Derives`, `IsDocument`): one rule for each
alternative of the grammar, numbers and strings by rules of their own. Blanks may stand around every
value, name, comma, colon and bracket.

What the writer puts into a text at the leaves of a value is according to these rules: strings
(`isString_stringText`), whole numbers (`isNumber_intText`) and, of the numbers of the format
binary64, those that are finite (`isNumber_floatText`).
-/

namespace ConnectRpc.Json

open Number

/-! ## Numbers -/

/-- Digits without a leading zero. -/
inductive IsWhole : List Char → Prop
  | zero : IsWhole ['0']
  | positive {first : Char} {rest : List Char} (hfirst : isAsciiDigit first = true)
      (hzero : first ≠ '0') (hrest : ∀ c ∈ rest, isAsciiDigit c = true) : IsWhole (first :: rest)

/-- Digits, at least one. -/
def IsDigits (cs : List Char) : Prop := cs ≠ [] ∧ ∀ c ∈ cs, isAsciiDigit c = true

/-- The part behind the point, which may be missing. -/
inductive IsFraction : List Char → Prop
  | none : IsFraction []
  | some {digits : List Char} (hdigits : IsDigits digits) : IsFraction ('.' :: digits)

/-- The power of ten, which may be missing. -/
inductive IsExponent : List Char → Prop
  | none : IsExponent []
  | some {letter : Char} {sign digits : List Char} (hletter : letter = 'e' ∨ letter = 'E')
      (hsign : sign = [] ∨ sign = ['+'] ∨ sign = ['-']) (hdigits : IsDigits digits) :
      IsExponent (letter :: sign ++ digits)

/-- A number without a sign before it. -/
inductive IsMagnitude : List Char → Prop
  | mk {whole fraction exponent : List Char} (hwhole : IsWhole whole)
      (hfraction : IsFraction fraction) (hexponent : IsExponent exponent) :
      IsMagnitude (whole ++ fraction ++ exponent)

inductive IsNumber : List Char → Prop
  | unsigned {cs : List Char} (h : IsMagnitude cs) : IsNumber cs
  | minus {cs : List Char} (h : IsMagnitude cs) : IsNumber ('-' :: cs)

/-! ## Strings -/

def IsHexDigit (c : Char) : Prop :=
  isAsciiDigit c = true ∨ c ∈ ['a', 'b', 'c', 'd', 'e', 'f', 'A', 'B', 'C', 'D', 'E', 'F']

instance (c : Char) : Decidable (IsHexDigit c) := inferInstanceAs (Decidable (_ ∨ _))

/-- What may stand between the quotes of a string. -/
inductive IsQuoted : List Char → Prop
  | nil : IsQuoted []
  | plain {c : Char} {rest : List Char} (hcontrol : 0x20 ≤ c.toNat) (hquote : c ≠ '"')
      (hbackslash : c ≠ '\\') (hrest : IsQuoted rest) : IsQuoted (c :: rest)
  | escape {c : Char} {rest : List Char} (hletter : c ∈ escapeLetters) (hrest : IsQuoted rest) :
      IsQuoted ('\\' :: c :: rest)
  | codePoint {a b c d : Char} {rest : List Char} (ha : IsHexDigit a) (hb : IsHexDigit b)
      (hc : IsHexDigit c) (hd : IsHexDigit d) (hrest : IsQuoted rest) :
      IsQuoted ('\\' :: 'u' :: a :: b :: c :: d :: rest)

inductive IsString : List Char → Prop
  | mk {cs : List Char} (h : IsQuoted cs) : IsString ('"' :: cs ++ ['"'])

/-! ## Values -/

/-- Characters that mean nothing between the parts of a text. -/
def AreBlank (cs : List Char) : Prop := ∀ c ∈ cs, isBlank c = true

/-- The parts of a text that are made up of others. -/
inductive Part where
  | value
  /-- A value with blanks around it. -/
  | padded
  | elements
  | member
  | members

/-- The characters are a part of the kind. -/
inductive Derives : Part → List Char → Prop
  | null : Derives .value "null".toList
  | bool (b : Bool) : Derives .value (if b then "true" else "false").toList
  | number {cs : List Char} (h : IsNumber cs) : Derives .value cs
  | string {cs : List Char} (h : IsString cs) : Derives .value cs
  | emptyArray {blank : List Char} (h : AreBlank blank) : Derives .value ('[' :: blank ++ [']'])
  | array {cs : List Char} (h : Derives .elements cs) : Derives .value ('[' :: cs ++ [']'])
  | emptyObject {blank : List Char} (h : AreBlank blank) :
      Derives .value ('\x7b' :: blank ++ ['\x7d'])
  | object {cs : List Char} (h : Derives .members cs) : Derives .value ('\x7b' :: cs ++ ['\x7d'])
  | padded {before cs after : List Char} (hbefore : AreBlank before) (h : Derives .value cs)
      (hafter : AreBlank after) : Derives .padded (before ++ cs ++ after)
  | lastElement {cs : List Char} (h : Derives .padded cs) : Derives .elements cs
  | moreElements {cs rest : List Char} (h : Derives .padded cs) (hrest : Derives .elements rest) :
      Derives .elements (cs ++ ',' :: rest)
  | member {before name after value : List Char} (hbefore : AreBlank before) (hname : IsString name)
      (hafter : AreBlank after) (hvalue : Derives .padded value) :
      Derives .member (before ++ name ++ after ++ ':' :: value)
  | lastMember {cs : List Char} (h : Derives .member cs) : Derives .members cs
  | moreMembers {cs rest : List Char} (h : Derives .member cs) (hrest : Derives .members rest) :
      Derives .members (cs ++ ',' :: rest)

/-- The text is a JSON text. -/
def IsDocument (text : String) : Prop := Derives .padded text.toList

/-! ## Written strings -/

/-- The escape of a control character has four digits. -/
theorem escape_of_control : ∀ n < 0x20, (Text.hexPadded 4 n).length = 4 ∧
    (Text.hexPadded 4 n).all (fun c => IsHexDigit c) = true := by
  decide +kernel

theorem isQuoted_stringChar (c : Char) {rest : List Char} (hrest : IsQuoted rest) :
    IsQuoted (stringChar c ++ rest) := by
  have hwritten := writtenChar_stringChar c
  generalize stringChar c = cs at hwritten
  cases hwritten with
  | plain hprintable hquote hbackslash => exact .plain hprintable hquote hbackslash hrest
  | letter hletter _ => exact .escape hletter hrest
  | codePoint hcontrol =>
    obtain ⟨hlength, hdigits⟩ := escape_of_control c.toNat hcontrol
    obtain ⟨w, x, y, z, heq⟩ := List.length_eq_four.mp hlength
    rw [heq] at hdigits ⊢
    simp only [List.all_cons, Bool.and_eq_true, decide_eq_true_eq] at hdigits
    obtain ⟨hw, hx, hy, hz, -⟩ := hdigits
    exact .codePoint hw hx hy hz hrest

/-- A written string is a string. -/
theorem isString_stringText (cs : List Char) : IsString (stringText cs) := by
  refine .mk ?_
  induction cs with
  | nil => exact .nil
  | cons c cs ih =>
    rw [List.flatMap_cons]
    exact isQuoted_stringChar c ih

/-! ## Written numbers -/

theorem isDigits_toDigits (n : Nat) : IsDigits (Nat.toDigits 10 n) :=
  ⟨Nat.toDigits_ne_nil, isAsciiDigit_of_mem_toDigits⟩

theorem isWhole_toDigits (n : Nat) : IsWhole (Nat.toDigits 10 n) := by
  have hdigits := isDigits_toDigits n
  cases heq : Nat.toDigits 10 n with
  | nil => exact absurd heq hdigits.1
  | cons first rest =>
    rw [heq] at hdigits
    obtain ⟨hfirst, hrest⟩ := List.forall_mem_cons.mp hdigits.2
    by_cases hzero : first = '0'
    · rw [hzero] at heq ⊢
      rw [(toDigits_eq_cons_zero_iff.mp heq).2]
      exact .zero
    · exact .positive hfirst hzero hrest

theorem IsWhole.isMagnitude {cs : List Char} (h : IsWhole cs) : IsMagnitude cs := by
  simpa only [List.append_nil] using IsMagnitude.mk h .none .none

theorem IsMagnitude.isNumber {cs : List Char} (h : IsMagnitude cs) (negative : Prop)
    [Decidable negative] : IsNumber ((if negative then ['-'] else []) ++ cs) := by
  split
  · exact .minus h
  · exact .unsigned h

/-- A whole number is written as a number. -/
theorem isNumber_intText (i : Int) : IsNumber (intText i).toList := by
  rw [toList_intText]
  exact (isWhole_toDigits i.natAbs).isMagnitude.isNumber _

/-- Digits of which the first is not zero. -/
structure AreSignificant (cs : List Char) : Prop where
  digits : IsDigits cs
  unpadded : cs.head? ≠ some '0'

/-- They are a whole number, and stay one if digits are put behind them. -/
theorem AreSignificant.isWhole_append {cs more : List Char} (h : AreSignificant cs)
    (hmore : ∀ c ∈ more, isAsciiDigit c = true) : IsWhole (cs ++ more) := by
  obtain ⟨⟨hne, hdigits⟩, hunpadded⟩ := h
  cases cs with
  | nil => exact absurd rfl hne
  | cons first rest =>
    obtain ⟨hfirst, hrest⟩ := List.forall_mem_cons.mp hdigits
    exact .positive hfirst (fun hzero => hunpadded (congrArg some hzero))
      (List.forall_mem_append.mpr ⟨hrest, hmore⟩)

/-- So are the first of them. -/
theorem AreSignificant.take {cs : List Char} (h : AreSignificant cs) {n : Nat} (hn : n ≠ 0) :
    AreSignificant (cs.take n) := by
  obtain ⟨⟨hne, hdigits⟩, hunpadded⟩ := h
  refine ⟨⟨?_, fun c hc => hdigits c (List.mem_of_mem_take hc)⟩, ?_⟩
  · simp [hn, hne]
  · rwa [List.head?_take, if_neg hn]

/-- Without the zeros at their end the digits of a number other than zero are significant. -/
theorem areSignificant_dropZeros {n : Nat} (hn : n ≠ 0) (e : Int) :
    AreSignificant (dropZeros (Nat.toDigits 10 n) e).1 := by
  have hkept : (dropZeros (Nat.toDigits 10 n) e).1 =
      (Nat.toDigits 10 n).rdropWhile (· == '0') := rfl
  have hfirst := head?_toDigits_ne_zero hn
  have hne : (Nat.toDigits 10 n).rdropWhile (· == '0') ≠ [] := by
    intro hnil
    rw [List.rdropWhile_eq_nil_iff] at hnil
    cases hdigits : Nat.toDigits 10 n with
    | nil => exact Nat.toDigits_ne_nil hdigits
    | cons first rest =>
      rw [hdigits] at hnil hfirst
      exact hfirst (congrArg some (beq_iff_eq.mp (hnil first List.mem_cons_self)))
  obtain ⟨zeros, hsplit⟩ := List.rdropWhile_prefix (· == '0') (Nat.toDigits 10 n)
  rw [hkept]
  refine ⟨⟨hne, fun c hc => @isAsciiDigit_of_mem_toDigits n c ?_⟩, ?_⟩
  · rw [← hsplit]
    exact List.mem_append_left _ hc
  · rwa [← List.head?_append_of_ne_nil _ hne, hsplit]

theorem isAsciiDigit_of_mem_replicate (n : Nat) :
    ∀ c ∈ List.replicate n '0', isAsciiDigit c = true :=
  fun _ hc => List.eq_of_mem_replicate hc ▸ rfl

theorem isDigits_zero : IsDigits ['0'] := ⟨by simp, by simp [isAsciiDigit]⟩

/-- One digit before the point and the others, if there are any, behind it. -/
theorem exists_mantissa {first : Char} {rest : List Char} (h : AreSignificant (first :: rest)) :
    ∃ fraction, IsWhole [first] ∧ IsFraction fraction ∧
      (if rest = [] then [first] else first :: '.' :: rest) = [first] ++ fraction := by
  obtain ⟨hfirst, hrest⟩ := List.forall_mem_cons.mp h.digits.2
  have hwhole : IsWhole [first] :=
    .positive hfirst (fun hzero => h.unpadded (congrArg some hzero)) (by simp)
  by_cases hnone : rest = []
  · exact ⟨[], hwhole, .none, if_pos hnone⟩
  · exact ⟨'.' :: rest, hwhole, .some ⟨hnone, hrest⟩, if_neg hnone⟩

theorem isExponent_shown (shift : Int) :
    IsExponent ('e' :: (if shift < 0 then '-' else '+') ::
      (List.replicate (2 - (Nat.toDigits 10 shift.natAbs).length) '0' ++
        Nat.toDigits 10 shift.natAbs)) := by
  have hdigits := isDigits_toDigits shift.natAbs
  have hsign : [if shift < 0 then '-' else '+'] = [] ∨
      [if shift < 0 then '-' else '+'] = ['+'] ∨ [if shift < 0 then '-' else '+'] = ['-'] := by
    split <;> simp
  exact .some (.inl rfl) hsign ⟨by simp [hdigits.1],
    List.forall_mem_append.mpr ⟨isAsciiDigit_of_mem_replicate _, hdigits.2⟩⟩

/-- Digits and a power of ten are written as a number. -/
theorem isMagnitude_decimalChars {digits : List Char} (h : AreSignificant digits) (e : Int) :
    IsMagnitude (decimalChars digits e) := by
  obtain ⟨hne, hdigits⟩ := h.digits
  dsimp only [decimalChars]
  generalize hpoint : (digits.length : Int) + e = point
  split
  · split
    · -- the point stands before the digits
      have hfraction : IsDigits (List.replicate (-point).toNat '0' ++ digits) :=
        ⟨by simp [hne], List.forall_mem_append.mpr ⟨isAsciiDigit_of_mem_replicate _, hdigits⟩⟩
      simpa using IsMagnitude.mk .zero (.some hfraction) .none
    · split
      · -- the point stands behind them
        have hwhole := h.isWhole_append
          (isAsciiDigit_of_mem_replicate (point.toNat - digits.length))
        simpa using IsMagnitude.mk hwhole (.some isDigits_zero) .none
      · -- the point stands between them
        next hpositive hshort =>
        have hwhole := (h.take (show point.toNat ≠ 0 by omega)).isWhole_append
          (List.forall_mem_nil _)
        have hfraction : IsDigits (digits.drop point.toNat) :=
          ⟨by simpa using hshort, fun c hc => hdigits c (List.mem_of_mem_drop hc)⟩
        simpa using IsMagnitude.mk hwhole (.some hfraction) .none
  · obtain ⟨first, rest, rfl⟩ := List.exists_cons_of_ne_nil hne
    obtain ⟨fraction, hwhole, hfraction, hmantissa⟩ := exists_mantissa h
    have hnumber := IsMagnitude.mk hwhole hfraction (isExponent_shown (point - 1))
    rw [← hmantissa] at hnumber
    cases rest with
    | nil => exact hnumber
    | cons second rest =>
      rw [if_neg (List.cons_ne_nil _ _)] at hnumber
      simpa only [List.append_assoc, List.cons_append] using hnumber

/-- The written form of a finite number without its sign. -/
theorem isMagnitude_magnitudeChars {s : Nat} {e : Int} (h : Binary64.InNormalForm s e) :
    IsMagnitude (magnitudeChars s e) := by
  unfold magnitudeChars
  split
  · exact .mk .zero (.some isDigits_zero) .none
  · next hs =>
    have hne := shortest_ne_zero h hs
    cases hshortest : shortest s e with
    | mk n e' =>
      rw [hshortest] at hne
      exact isMagnitude_decimalChars (areSignificant_dropZeros hne e') _

/-- A finite number of the format binary64 is written as a number. -/
theorem isNumber_floatText {x : Binary64} (h : x.isFinite = true) : IsNumber (floatText x) := by
  cases x with
  | nan => cases h
  | infinite negative => cases h
  | finite negative s e normal =>
    have htext : floatText (.finite negative s e normal) =
        (if negative then ['-'] else []) ++ magnitudeChars s e := String.toList_ofList
    rw [htext]
    exact (isMagnitude_magnitudeChars normal).isNumber (negative = true)

end ConnectRpc.Json
