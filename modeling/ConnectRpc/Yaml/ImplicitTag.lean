import ConnectRpc.Text.Pattern
import ConnectRpc.Text.Point

/-!
# Types of nodes

Every node has a type: the one its tag names, or one that follows from its form. A plain scalar that
looks like a boolean, a number, null, a date, or one of the two marks of mappings has that type. One
that is the indicator of a node's property has a type that no reader knows; any other is a text.

* `Kind.ofTag`: the type that a tag names.
* `Kind.ofPlain`: the type of a plain scalar without a tag.
-/

namespace ConnectRpc.Yaml

open Text (Pattern)

/-- The type of a node. -/
inductive Kind where
  | null
  | bool
  | int
  | float
  | binary
  | timestamp
  | text
  | sequence
  | mapping
  | set
  /-- A sequence of mappings with one entry each, read as pairs. -/
  | pairs
  /-- The mark of an entry whose value is merged into the mapping. -/
  | merge
  /-- The mark of an entry that stands for the mapping where a scalar is asked for. -/
  | default
  /-- A type that no reader knows. -/
  | unknown
  deriving DecidableEq, Repr

namespace Kind

/-- The start of the tags of all types that are known. -/
def tagPrefix : String := "tag:yaml.org,2002:"

/-- The tags of the types that are known, without their common start. -/
def names : List (String × Kind) :=
  [("null", .null), ("bool", .bool), ("int", .int), ("float", .float), ("binary", .binary),
   ("timestamp", .timestamp), ("str", .text), ("seq", .sequence), ("map", .mapping), ("set", .set),
   ("omap", .pairs), ("pairs", .pairs), ("merge", .merge), ("value", .default)]

/-- The type that a tag names. -/
def ofTag (tag : String) : Kind :=
  ((names.find? fun entry => tagPrefix ++ entry.1 == tag).map (·.2)).getD .unknown

/-! ## Looks of plain scalars -/

/-- A decimal digit. -/
def digit : Pattern := .one fun c => '0' ≤ c && c ≤ '9'

/-- A digit in octal. -/
def octalOrGap : Pattern := Pattern.oneOf "01234567_"

/-- A decimal digit or an underscore. -/
def digitOrGap : Pattern := .one fun c => ('0' ≤ c && c ≤ '9') || c == '_'

/-- A decimal digit that is not zero. -/
def leadingDigit : Pattern := .one fun c => '1' ≤ c && c ≤ '9'

/-- A sign or nothing. -/
def sign : Pattern := .optional (Pattern.oneOf "+-")

/-- Places in base sixty behind colons. -/
def sixtieths : Pattern :=
  .plus (.sequence [.literal ":", .optional (Pattern.oneOf "012345"), digit])

/-- One or two digits. -/
def oneOrTwoDigits : Pattern := .sequence [digit, .optional digit]

/-- Two digits. -/
def twoDigits : Pattern := .sequence [digit, digit]

/-- The look of booleans. -/
def boolLook : Pattern :=
  .anyText ["yes", "Yes", "YES", "no", "No", "NO", "true", "True", "TRUE", "false", "False",
    "FALSE", "on", "On", "ON", "off", "Off", "OFF"]

/-- An exponent with its sign, or nothing. -/
def exponentLook : Pattern :=
  .optional (.sequence [.oneOf "eE", .oneOf "+-", .plus digit])

/-- The look of floating-point numbers. -/
def floatLook : Pattern :=
  .anyOf [
    .sequence [sign, digit, .star digitOrGap, .literal ".", .star digitOrGap, exponentLook],
    .sequence [.literal ".", digit, .star digitOrGap, exponentLook],
    .sequence [sign, digit, .star digitOrGap, sixtieths, .literal ".", .star digitOrGap],
    .sequence [sign, .literal ".", .anyText ["inf", "Inf", "INF"]],
    .sequence [.literal ".", .anyText ["nan", "NaN", "NAN"]]]

/-- The look of integers. -/
def intLook : Pattern :=
  .anyOf [
    .sequence [sign, .literal "0b", .plus (.oneOf "01_")],
    .sequence [sign, .literal "0", .plus octalOrGap],
    .sequence [sign, .alt (.literal "0") (.sequence [leadingDigit, .star digitOrGap])],
    .sequence [sign, .literal "0x", .plus (.oneOf "0123456789abcdefABCDEF_")],
    .sequence [sign, leadingDigit, .star digitOrGap, sixtieths]]

/-- The look of null. -/
def nullLook : Pattern := .anyText ["~", "null", "Null", "NULL", ""]

/-- The look of a time zone. -/
def zoneLook : Pattern :=
  .alt (.literal "Z")
    (.sequence [.oneOf "+-", oneOrTwoDigits, .optional (.sequence [.literal ":", twoDigits])])

/-- The look of a time of day, with what separates it from the date. -/
def timeLook : Pattern :=
  .sequence [.alt (.oneOf "Tt") (.plus (.oneOf " \t")), oneOrTwoDigits, .literal ":", twoDigits,
    .literal ":", twoDigits, .optional (.sequence [.literal ".", .star digit]),
    .optional (.sequence [.star (.oneOf " \t"), zoneLook])]

/-- The look of a date without a time of day. -/
def dateLook : Pattern :=
  .sequence [digit, digit, digit, digit, .literal "-", twoDigits, .literal "-", twoDigits]

/-- The look of a date with a time of day. -/
def momentLook : Pattern :=
  .sequence [digit, digit, digit, digit, .literal "-", oneOrTwoDigits, .literal "-", oneOrTwoDigits,
    timeLook]

/-- The looks of the types that a plain scalar may have, besides a text. -/
def looks : List (Pattern × Kind) :=
  [(boolLook, .bool), (floatLook, .float), (intLook, .int), (.literal "<<", .merge),
   (nullLook, .null), (.alt dateLook momentLook, .timestamp), (.literal "=", .default),
   (.oneOf "!&*", .unknown)]

/-- A text has a look also if one line feed follows it, though not if it is that line feed alone. -/
def hasLook (look : Pattern) (cs : List Char) : Bool :=
  look.accepts cs ||
    (cs.getLast? == some '\n' && cs.length != 1 && look.accepts cs.dropLast)

/-- The type of a plain scalar without a tag; one with half a character is a text. -/
def ofPlain (text : List Text.Point) : Kind :=
  match Text.chars? text with
  | some cs => ((looks.find? fun entry => hasLook entry.1 cs).map (·.2)).getD .text
  | none => .text

end Kind

end ConnectRpc.Yaml
