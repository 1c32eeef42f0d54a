import ConnectRpc.Number.Binary64

/-!
# The shortest decimal that reads back

Every finite binary64 number is the nearest one to a whole interval of reals: half-way to its
neighbours on both sides, ends included when its significand is even. Its shortest decimal is, on
the coarsest decimal grid that has a point in that interval, the point nearest to the number. The
grids are tried from one digit to seventeen, and on each only the two neighbours of the number.

* `shortest`: digits and a power of ten.
* `Binary64.text`: the written form. Positional from 10^-4 up to 10^16, always with a point;
  otherwise one digit before the point and an exponent of at least two digits with its sign.
-/

namespace ConnectRpc.Number

/-- A positive real and the ends of the interval of reals that round to it, as numerators over one
denominator; `closed` when the ends belong to the interval. -/
structure Rounding where
  value : Nat
  low : Nat
  high : Nat
  denominator : Nat
  closed : Bool

/-- The interval that rounds to `significand * 2 ^ exponent`. Below a power of two the neighbour is
only half as far away. -/
def Rounding.of (significand : Nat) (exponent : Int) : Rounding :=
  let below :=
    if significand = Binary64.leastNormal ∧ Binary64.leastExponent < exponent then 1 else 2
  let quarter := Nat.pow 2 (exponent - 2).toNat
  { value := 4 * significand * quarter
    low := (4 * significand - below) * quarter
    high := (4 * significand + 2) * quarter
    denominator := Nat.pow 2 (2 - exponent).toNat
    closed := significand % 2 == 0 }

/-- A decimal grid point `n * 10 ^ g` against a numerator: both sides as natural numbers. -/
def gridSides (denominator n : Nat) (g : Int) (numerator : Nat) : Nat × Nat :=
  (n * Nat.pow 10 g.toNat * denominator, numerator * Nat.pow 10 (-g).toNat)

/-- The grid point lies in the interval. -/
def Rounding.holds (r : Rounding) (n : Nat) (g : Int) : Bool :=
  let (p, low) := gridSides r.denominator n g r.low
  let (_, high) := gridSides r.denominator n g r.high
  if r.closed then low ≤ p && p ≤ high else low < p && p < high

/-- The number's lower neighbour on the grid `10 ^ g`. -/
def Rounding.floorOn (r : Rounding) (g : Int) : Nat :=
  r.value * Nat.pow 10 (-g).toNat / (Nat.pow 10 g.toNat * r.denominator)

/-- Of the number's two neighbours on the grid, the nearest that lies in the interval; a tie goes to
the even one. -/
def Rounding.pointOn? (r : Rounding) (g : Int) : Option Nat :=
  let n := r.floorOn g
  match r.holds n g, r.holds (n + 1) g with
  | true, false => some n
  | false, true => some (n + 1)
  | false, false => none
  | true, true =>
    let (p, v) := gridSides r.denominator n g r.value
    let (p', _) := gridSides r.denominator (n + 1) g r.value
    if v - p < p' - v then some n
    else if p' - v < v - p then some (n + 1)
    else if n % 2 = 0 then some n else some (n + 1)

/-- The number is at least `10 ^ k`. -/
def Rounding.atLeast (r : Rounding) (k : Int) : Bool :=
  Nat.pow 10 k.toNat * r.denominator ≤ r.value * Nat.pow 10 (-k).toNat

/-- The greatest `k` with `10 ^ k` not above the number, found next to its binary logarithm. -/
def Rounding.decade (r : Rounding) : Int :=
  let guess := ((Nat.log2 r.value : Int) - (Nat.log2 r.denominator : Int)) * 30103 / 100000
  ([guess + 2, guess + 1, guess, guess - 1].find? r.atLeast).getD (guess - 2)

/-- Digits and a power of ten: the shortest decimal that reads back as
`significand * 2 ^ exponent`. -/
def shortest (significand : Nat) (exponent : Int) : Nat × Int :=
  let r := Rounding.of significand exponent
  let decade := r.decade
  let found := (List.range 17).findSome? fun (k : Nat) =>
    (r.pointOn? (decade - k)).map fun n => (n, decade - k)
  found.getD (0, 0)

/-- Moves trailing zeros of the digits into the power of ten. -/
def dropZeros (digits : List Char) (exponent : Int) : List Char × Int :=
  let kept := (digits.reverse.dropWhile (· == '0')).reverse
  (kept, exponent + (digits.length - kept.length : Nat))

/-- The written form of `digits * 10 ^ exponent`, where the digits are not empty and end in no
zero. -/
def decimalChars (digits : List Char) (exponent : Int) : List Char :=
  let point : Int := digits.length + exponent
  if -4 < point ∧ point ≤ 16 then
    if point ≤ 0 then '0' :: '.' :: List.replicate (-point).toNat '0' ++ digits
    else if digits.length ≤ point.toNat then
      digits ++ List.replicate (point.toNat - digits.length) '0' ++ ['.', '0']
    else digits.take point.toNat ++ '.' :: digits.drop point.toNat
  else
    let shown := (point - 1).natAbs
    let sign := if point - 1 < 0 then '-' else '+'
    let exponentDigits := Nat.toDigits 10 shown
    let mantissa :=
      match digits with
      | [d] => [d]
      | d :: rest => d :: '.' :: rest
      | [] => []
    mantissa ++ 'e' :: sign :: List.replicate (2 - exponentDigits.length) '0' ++ exponentDigits

/-- The written form of a finite number without its sign. -/
def magnitudeChars (significand : Nat) (exponent : Int) : List Char :=
  if significand = 0 then ['0', '.', '0']
  else
    let (n, e) := shortest significand exponent
    let (digits, e) := dropZeros (Nat.toDigits 10 n) e
    decimalChars digits e

/-- The written form of a number. -/
def Binary64.text : Binary64 → String
  | .nan => "nan"
  | .infinite false => "inf"
  | .infinite true => "-inf"
  | .finite negative s e _ =>
    String.ofList ((if negative then ['-'] else []) ++ magnitudeChars s e)

end ConnectRpc.Number
