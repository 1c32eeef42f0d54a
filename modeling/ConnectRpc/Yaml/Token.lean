import ConnectRpc.Text.Point
import ConnectRpc.Yaml.Fault

/-!
# Tokens of YAML texts

What a YAML text is made of: indicators, scalars with their text resolved, and the marks that
indentation implies. A list of tokens ends with `streamEnd`, or with the fault that stopped its
reading.
-/

namespace ConnectRpc.Yaml

/-- A directive. -/
inductive Directive where
  | version (major minor : Nat)
  | handle (handle replacement : String)
  /-- A directive of another name, which means nothing. -/
  | other
  deriving DecidableEq, Repr

/-- A tag as it is written. -/
structure TagText where
  /-- The handle, which a directive may have given a replacement. -/
  handle : Option String
  suffix : String
  deriving DecidableEq, Repr

/-- A token. -/
inductive Token where
  | directive (d : Directive)
  | documentStart
  | documentEnd
  | streamEnd
  | sequenceStart
  | mappingStart
  /-- A sequence or mapping that indentation opened is closed by it. -/
  | blockEnd
  | flowSequenceStart
  | flowSequenceEnd
  | flowMappingStart
  | flowMappingEnd
  | sequenceEntry
  | flowEntry
  | key
  | value
  | alias (name : String)
  | anchor (name : String)
  | tag (tag : TagText)
  /-- A scalar; a plain one stands without quotes and indicators. -/
  | scalar (text : List Text.Point) (isPlain : Bool)
  | fault (f : Fault)
  deriving DecidableEq, Repr

end ConnectRpc.Yaml
