import ConnectRpc.Schema.Source
import ConnectRpc.Yaml.Construction

/-!
# The loader of YAML texts

The reader of this library as a loader of schema files.

* `load`: the document of a text. Violations of the language are told apart from the faults of
  scalars that do not fit their types.
-/

namespace ConnectRpc.Yaml

/-- What to tell about a fault that is no violation of the language. -/
def Fault.reason : Fault → String
  | .malformed => "the text violates the language"
  | .noSuchCharacter => "chr() arg not in range(0x110000)"
  | .hugeCharacter => "the number of a character is too large"
  | .numeralTooLong digits => Number.tooLongText digits
  | .notAnInteger base text =>
    "invalid literal for int() with base " ++ Number.natText base ++ ": " ++
      String.ofList ((Text.quotePoints text).toList.take 200)
  | .notAFloat text => "could not convert string to float: " ++ Text.quotePoints text
  | .hugeFloat => "a number in base sixty has too many places"
  | .dateOutOfRange reason => reason
  | .notABoolean => "the text is no word for a boolean"
  | .emptyNumeral => "a numeral has no digits"
  | .notATimestamp => "the text has not the form of a timestamp"
  | .timestampOfMapping => "a timestamp is given as a mapping"
  | .endlessDefault => "a mapping stands for its own default value"

/-- The document of a YAML text. -/
def load : Schema.YamlLoader Part := fun cs =>
  match document cs with
  | .ok part? => .value part?
  | .error .malformed => .malformed Fault.malformed.reason
  | .error f => .failed f.reason

end ConnectRpc.Yaml
