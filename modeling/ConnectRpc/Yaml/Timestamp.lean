import ConnectRpc.Number.Numeral
import ConnectRpc.Yaml.Cursor
import ConnectRpc.Yaml.Fault

/-!
# Timestamps in YAML texts

A timestamp is a date of the common calendar, with or without a time of day, and with the latter
perhaps a zone. The form is checked first, then the zone, then the date from the year on, then the
time of day.

* `timestamp`: the fault of a text that is no timestamp.
-/

namespace ConnectRpc.Yaml

/-- A zone: the distance from the zero meridian, in minutes. -/
structure Zone where
  isWest : Bool
  minutes : Nat
  deriving DecidableEq, Repr

/-- The parts of a timestamp. -/
structure Timestamp where
  year : Nat
  month : Nat
  day : Nat
  /-- Hour, minute and second. -/
  time : Option (Nat × Nat × Nat)
  zone : Option Zone
  deriving DecidableEq, Repr

namespace Timestamp

/-! ## Form -/

/-- The number that one to `most` digits spell, at least `least` of them, and what is behind. -/
def number? (least most : Nat) (cs : List Char) : Option (Nat × List Char) :=
  let digits := (cs.take most).takeWhile Number.isAsciiDigit
  if digits.length < least then none
  else some (Number.digitsValue digits, cs.drop digits.length)

/-- What is behind a character. -/
def behind? (c : Char) : List Char → Option (List Char)
  | d :: rest => if d = c then some rest else none
  | [] => none

/-- What is behind the separator of date and time: a letter or blanks. -/
def behindSeparator? : List Char → Option (List Char)
  | [] => none
  | c :: rest =>
    if c = 'T' ∨ c = 't' then some rest
    else if isSpaceOrTab c then some (rest.dropWhile isSpaceOrTab)
    else none

/-- What is behind a fraction of a second, if there is one. -/
def dropFraction : List Char → List Char
  | '.' :: rest => rest.dropWhile Number.isAsciiDigit
  | cs => cs

/-- The text ends here, but for one line feed. -/
def isEnd (cs : List Char) : Bool := cs.isEmpty || cs == ['\n']

/-- Reads the zone at the end of a timestamp. -/
def zone? (cs : List Char) : Option (Option Zone) :=
  if isEnd cs then some none
  else
    match cs.dropWhile isSpaceOrTab with
    | 'Z' :: rest => if isEnd rest then some (some ⟨false, 0⟩) else none
    | c :: rest => do
      if c ≠ '+' ∧ c ≠ '-' then none
      let (hours, rest) ← number? 1 2 rest
      if isEnd rest then return some ⟨c = '-', 60 * hours⟩
      let (minutes, rest) ← number? 2 2 (← behind? ':' rest)
      if isEnd rest then return some ⟨c = '-', 60 * hours + minutes⟩ else none
    | [] => none

/-- Reads the form of a timestamp. -/
def ofChars? (cs : List Char) : Option Timestamp := do
  let (year, cs) ← number? 4 4 cs
  let (month, cs) ← number? 1 2 (← behind? '-' cs)
  let (day, cs) ← number? 1 2 (← behind? '-' cs)
  if isEnd cs then return ⟨year, month, day, none, none⟩
  let (hour, cs) ← number? 1 2 (← behindSeparator? cs)
  let (minute, cs) ← number? 2 2 (← behind? ':' cs)
  let (second, cs) ← number? 2 2 (← behind? ':' cs)
  return ⟨year, month, day, some (hour, minute, second), ← zone? (dropFraction cs)⟩

/-! ## Ranges -/

/-- A leap year of the common calendar. -/
def isLeap (year : Nat) : Bool := year % 4 = 0 && (year % 100 ≠ 0 || year % 400 = 0)

/-- The number of days of a month. -/
def daysOf (year month : Nat) : Nat :=
  if month = 2 then if isLeap year then 29 else 28
  else if month = 4 ∨ month = 6 ∨ month = 9 ∨ month = 11 then 30
  else 31

/-- The words for a zone that is a day or more away. -/
def zoneText (z : Zone) : String :=
  let minutes : Int := if z.isWest then -z.minutes else z.minutes
  let seconds := 60 * (minutes % 1440).toNat
  "datetime.timedelta(days=" ++ Number.intText (minutes / 1440) ++
    (if seconds = 0 then "" else ", seconds=" ++ Number.natText seconds) ++ ")"

/-- The first part of a timestamp that is out of its range. -/
def outOfRange? (t : Timestamp) : Option String :=
  let zoneFault :=
    t.zone.bind fun z =>
      if z.minutes < 1440 then none
      else some ("offset must be a timedelta strictly between -timedelta(hours=24) and " ++
        "timedelta(hours=24), not " ++ zoneText z ++ ".")
  let dateFault :=
    if t.year = 0 then some "year 0 is out of range"
    else if t.month = 0 ∨ 12 < t.month then some "month must be in 1..12"
    else if t.day = 0 ∨ daysOf t.year t.month < t.day then some "day is out of range for month"
    else none
  let timeFault :=
    t.time.bind fun (hour, minute, second) =>
      if 23 < hour then some "hour must be in 0..23"
      else if 59 < minute then some "minute must be in 0..59"
      else if 59 < second then some "second must be in 0..59"
      else none
  zoneFault <|> dateFault <|> timeFault

end Timestamp

/-- The text of a timestamp. -/
def timestamp (text : List Text.Point) : Except Fault Unit :=
  match (Text.chars? text).bind Timestamp.ofChars? with
  | none => .error .notATimestamp
  | some t =>
    match t.outOfRange? with
    | some reason => .error (.dateOutOfRange reason)
    | none => .ok ()

end ConnectRpc.Yaml
