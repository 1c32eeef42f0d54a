/-!
# Messages about schemas

The message types of compiled schemas and of requests to a generator. Only what matters for telling
well-formed octets from others is recorded: which members are messages, and which are lists of
numbers that may be packed into one run of octets. The first are read into, the second are checked.
-/

namespace ConnectRpc.Protobuf

/-- A message type, by what it describes. -/
inductive MessageType where
  | fileSet
  | request
  | file
  | message
  | extensionRange
  | extensionRangeOptions
  | field
  | choice
  | enum
  | enumValue
  | service
  | method
  | fileOptions
  | messageOptions
  | fieldOptions
  | choiceOptions
  | enumOptions
  | enumValueOptions
  | serviceOptions
  | methodOptions
  /-- An option that no compiler knew. -/
  | strangeOption
  | sourceInfo
  | location
  /-- A message none of whose members are messages or lists of numbers. -/
  | simple
  deriving DecidableEq, Repr

/-- What a member with a length holds. -/
inductive Role where
  | message (type : MessageType)
  | numbers
  deriving DecidableEq, Repr

namespace MessageType

/-- The members that are messages or lists of numbers, by their numbers. -/
def members : MessageType → List (Nat × Role)
  | .fileSet => [(1, .message .file)]
  | .request => [(3, .message .simple), (15, .message .file), (17, .message .file)]
  | .file =>
    [(4, .message .message), (5, .message .enum), (6, .message .service), (7, .message .field),
     (8, .message .fileOptions), (9, .message .sourceInfo), (10, .numbers), (11, .numbers)]
  | .message =>
    [(2, .message .field), (3, .message .message), (4, .message .enum),
     (5, .message .extensionRange), (6, .message .field), (7, .message .messageOptions),
     (8, .message .choice), (9, .message .simple)]
  | .extensionRange => [(3, .message .extensionRangeOptions)]
  | .extensionRangeOptions =>
    [(2, .message .simple), (50, .message .simple), (999, .message .strangeOption)]
  | .field => [(8, .message .fieldOptions)]
  | .choice => [(2, .message .choiceOptions)]
  | .enum => [(2, .message .enumValue), (3, .message .enumOptions), (4, .message .simple)]
  | .enumValue => [(3, .message .enumValueOptions)]
  | .service => [(2, .message .method), (3, .message .serviceOptions)]
  | .method => [(4, .message .methodOptions)]
  | .fileOptions => [(50, .message .simple), (999, .message .strangeOption)]
  | .messageOptions => [(12, .message .simple), (999, .message .strangeOption)]
  | .fieldOptions =>
    [(19, .numbers), (20, .message .simple), (21, .message .simple), (22, .message .simple),
     (999, .message .strangeOption)]
  | .choiceOptions => [(1, .message .simple), (999, .message .strangeOption)]
  | .enumOptions => [(7, .message .simple), (999, .message .strangeOption)]
  | .enumValueOptions =>
    [(2, .message .simple), (4, .message .simple), (999, .message .strangeOption)]
  | .serviceOptions => [(34, .message .simple), (999, .message .strangeOption)]
  | .methodOptions => [(35, .message .simple), (999, .message .strangeOption)]
  | .strangeOption => [(2, .message .simple)]
  | .sourceInfo => [(1, .message .location)]
  | .location => [(1, .numbers), (2, .numbers)]
  | .simple => []

/-- What the member of a number holds, if it is a message or a list of numbers. -/
def role? (type : MessageType) (number : Nat) : Option Role := type.members.lookup number

end MessageType

end ConnectRpc.Protobuf
