/-!
# Notices

Remarks on what a run does, each with a level and the part of the program that makes it. A run shows
the notices at its threshold and above.
-/

namespace ConnectRpc

/-- How much a notice matters. -/
inductive Level where
  | debug
  | info
  | warning
  deriving DecidableEq, Repr

namespace Level

/-- The word for a level. -/
def text : Level → String
  | .debug => "DEBUG"
  | .info => "INFO"
  | .warning => "WARNING"

/-- The place of a level among the levels. -/
def rank : Level → Nat
  | .debug => 0
  | .info => 1
  | .warning => 2

/-- The threshold of a run that was asked to say more, a number of times. -/
def ofVerbosity : Nat → Level
  | 0 => .warning
  | 1 => .info
  | _ => .debug

end Level

/-- A remark. -/
structure Notice where
  level : Level
  /-- The part of the program that makes it. -/
  source : String
  text : String
  deriving DecidableEq, Repr

/-- The line that shows a notice. -/
def Notice.line (n : Notice) : String := n.level.text ++ " " ++ n.source ++ ": " ++ n.text

/-- The notices at a threshold and above, as lines. -/
def Notice.shown (threshold : Level) (notices : List Notice) : List String :=
  (notices.filter fun n => threshold.rank ≤ n.level.rank).map Notice.line

end ConnectRpc
