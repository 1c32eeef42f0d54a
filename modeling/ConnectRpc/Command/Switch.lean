import ConnectRpc.Text.DigitChars
import ConnectRpc.Text.Pieces
import ConnectRpc.Text.Quoted

/-!
# Switches of the command line

A switch is spelled with one dash and a letter, or with two dashes and a word that may be cut short
as long as it stays the beginning of one switch only. The value of a long switch may follow after an
equals sign; that of a short one follows the letter at once, and letters of switches without a value
may share a dash.

* `Switch`: the switches, their spellings, and which of them take a value.
* `Item.ofArgument`: what one argument of the command line is, as it stands there alone.
* `Written.bundle`: the switches that share one argument.
-/

namespace ConnectRpc.Command

/-- What can be switched on or set. -/
inductive Switch where
  | help
  | outputDir
  | baseUrl
  | clientSuffix
  | runtimeModule
  | verbose
  deriving DecidableEq, Repr

namespace Switch

/-- The spellings of a switch. -/
def spellings : Switch → List String
  | .help => ["-h", "--help"]
  | .outputDir => ["-o", "--output-dir"]
  | .baseUrl => ["--base-url"]
  | .clientSuffix => ["--client-suffix"]
  | .runtimeModule => ["--runtime-module"]
  | .verbose => ["-v", "--verbose"]

/-- The switches, in the order in which they are listed. -/
def all : List Switch := [.help, .outputDir, .baseUrl, .clientSuffix, .runtimeModule, .verbose]

/-- How messages name a switch. -/
def label (s : Switch) : String := Text.joinText "/" s.spellings

/-- A value belongs to the switch. -/
def takesValue : Switch → Bool
  | .help | .verbose => false
  | .outputDir | .baseUrl | .clientSuffix | .runtimeModule => true

/-- Every spelling with its switch. -/
def table : List (String × Switch) := all.flatMap fun s => s.spellings.map (·, s)

/-- The switch of a spelling. -/
def ofSpelling? (spelling : String) : Option Switch := table.lookup spelling

/-- The switch of a letter. -/
def ofLetter? (letter : Char) : Option Switch := ofSpelling? (String.ofList ['-', letter])

/-- The spellings with two dashes that begin with some text. -/
def beginningWith (text : List Char) : List (String × Switch) :=
  table.filter fun entry => text.isPrefixOf entry.1.toList

end Switch

/-- Why a command line is refused. -/
inductive Rejection where
  | ambiguous (argument : String) (candidates : List String)
  | noValue (s : Switch)
  | unusedValue (s : Switch) (value : String)
  | noSchema
  | unrecognized (arguments : List String)
  deriving DecidableEq, Repr

/-- The wording of a rejection. -/
def Rejection.message : Rejection → String
  | .ambiguous argument candidates =>
    "ambiguous option: " ++ argument ++ " could match " ++ Text.joinText ", " candidates
  | .noValue s => "argument " ++ s.label ++ ": expected one argument"
  | .unusedValue s value =>
    "argument " ++ s.label ++ ": ignored explicit argument " ++ Text.quote value
  | .noSchema => "the following arguments are required: schema"
  | .unrecognized arguments => "unrecognized arguments: " ++ Text.joinText " " arguments

/-! ## Single arguments -/

/-- A switch as it is written: by its letter or by its word, with what is joined to it. -/
structure Written where
  switch : Switch
  byLetter : Bool
  joined : Option (List Char)
  deriving DecidableEq, Repr

/-- What an argument is. -/
inductive Item where
  /-- A value of its own. -/
  | operand (text : String)
  /-- Two dashes: all that follow are operands. -/
  | separator
  | switch (w : Written)
  /-- It looks like a switch but is none. -/
  | unknown (text : String)
  deriving DecidableEq, Repr

/-- The characters are decimal digits, at least one of them. -/
def isDigits (cs : List Char) : Bool :=
  !cs.isEmpty && cs.all fun c => (Text.decimalValue? c).isSome

/-- The characters, which follow a dash, make it a negative number: digits, or a point between
digits and possibly none before it. A line feed may end them. -/
def isMagnitude (cs : List Char) : Bool :=
  let body := if cs.getLast? = some '\n' then cs.dropLast else cs
  match Text.cutAt '.' body with
  | (digits, none) => isDigits digits
  | (whole, some fraction) => (whole.isEmpty || isDigits whole) && isDigits fraction

/-- An argument that begins with a dash and spells no switch in full. -/
def Item.unspelled (argument : String) : Item :=
  let cs := argument.toList
  if isMagnitude (cs.drop 1) || cs.contains ' ' then .operand argument else .unknown argument

/-- An argument that begins with two dashes, cut at its equals sign. -/
def Item.ofLong (argument : String) (word : List Char) (joined : Option (List Char)) :
    Except Rejection Item :=
  match Switch.beginningWith word with
  | [] => .ok (.unspelled argument)
  | [(_, s)] => .ok (.switch ⟨s, false, joined⟩)
  | candidates => .error (.ambiguous argument (candidates.map (·.1)))

/-- An argument that begins with one dash and a letter. -/
def Item.ofShort (argument : String) (letter : Char) (joined : List Char) : Item :=
  match Switch.ofLetter? letter with
  | some s => .switch ⟨s, true, some joined⟩
  | none => .unspelled argument

/-- What an argument is, if all of it or all before its equals sign spells a switch. -/
def Item.spelled? (argument : String) : Option Item :=
  let byLetter := argument.toList[1]? != some '-'
  match Switch.ofSpelling? argument with
  | some s => some (.switch ⟨s, byLetter, none⟩)
  | none =>
    match Text.cutAt '=' argument.toList with
    | (_, none) => none
    | (word, some joined) =>
      (Switch.ofSpelling? (String.ofList word)).map fun s => .switch ⟨s, byLetter, some joined⟩

/-- What an argument is. -/
def Item.ofArgument (argument : String) : Except Rejection Item :=
  match argument.toList with
  | ['-', '-'] => .ok .separator
  | '-' :: next :: rest =>
    match Item.spelled? argument with
    | some item => .ok item
    | none =>
      if next = '-' then
        let (word, joined) := Text.cutAt '=' argument.toList
        Item.ofLong argument word joined
      else .ok (.ofShort argument next rest)
  | _ => .ok (.operand argument)

/-! ## Switches that share an argument -/

/-- The switches of one argument: some without values and a last one, with its value if that is
joined to it. -/
structure Bundle where
  flags : List Switch
  last : Switch
  value : Option String
  deriving DecidableEq, Repr

/-- The bundle of a switch and the characters joined to its letter. -/
def Bundle.ofLetters (s : Switch) : List Char → Except Rejection Bundle
  | [] => .ok ⟨[], s, none⟩
  | letter :: rest =>
    if s.takesValue then .ok ⟨[], s, some (String.ofList (letter :: rest))⟩
    else
      match Switch.ofLetter? letter with
      | none => .error (.unusedValue s (String.ofList (letter :: rest)))
      | some s' => (ofLetters s' rest).map fun b => { b with flags := s :: b.flags }

/-- The switches of one argument. -/
def Written.bundle (w : Written) : Except Rejection Bundle :=
  match w.joined with
  | none => .ok ⟨[], w.switch, none⟩
  | some joined =>
    if w.byLetter && !joined.isEmpty then Bundle.ofLetters w.switch joined
    else if w.switch.takesValue then .ok ⟨[], w.switch, some (String.ofList joined)⟩
    else .error (.unusedValue w.switch (String.ofList joined))

end ConnectRpc.Command
