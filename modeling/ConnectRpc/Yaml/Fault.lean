import ConnectRpc.Text.Point

/-!
# Faults of YAML texts

Why a YAML text has no value. Most faults are violations of the language, and they are all one to
whoever reads a schema; the others arise where a scalar is given a type that its text does not fit.
-/

namespace ConnectRpc.Yaml

/-- Why a YAML text has no value. -/
inductive Fault where
  /-- The text, its tags or its structure violate the language. -/
  | malformed
  /-- A character's number lies beyond the last code point. -/
  | noSuchCharacter
  /-- A character's number is too large even to be looked up. -/
  | hugeCharacter
  /-- A whole number has more decimal digits than a reader takes. -/
  | numeralTooLong (digits : Nat)
  /-- A text spells no whole number in its base. -/
  | notAnInteger (base : Nat) (text : List Text.Point)
  /-- A text spells no floating-point number. -/
  | notAFloat (text : List Text.Point)
  /-- A floating-point number in base sixty has too many places. -/
  | hugeFloat
  /-- A date or time of day has a part that is out of its range. -/
  | dateOutOfRange (reason : String)
  /-- A text is none of the words for booleans. -/
  | notABoolean
  /-- A numeral has no digits. -/
  | emptyNumeral
  /-- A text has not the form of a timestamp. -/
  | notATimestamp
  /-- A timestamp is given as a mapping. -/
  | timestampOfMapping
  /-- A mapping stands for its own default value. -/
  | endlessDefault
  deriving DecidableEq, Repr

end ConnectRpc.Yaml
