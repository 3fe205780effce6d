import ConfigScope.Decimal.Binary64

/-!
# Shortest decimals

The decimal text of a double: the fewest digits that read back as the same
double, and among those the digits nearest to it.
-/

namespace ConfigScope

/-- The number `digits * 10 ^ exponent`. -/
structure Decimal where
  digits : Nat
  exponent : Int
  deriving DecidableEq

namespace Decimal

def ratioLe (a b c d : Nat) : Bool :=
  a * d ≤ c * b

def powerOfTen (e : Int) : Nat × Nat :=
  if 0 ≤ e then (Nat.pow 10 e.toNat, 1) else (1, Nat.pow 10 (-e).toNat)

/-- The reals that are rounded to a double: two bounds, over one denominator, and whether the bounds
themselves are. -/
structure Interval where
  low : Nat
  high : Nat
  den : Nat
  closed : Bool

/-- Below the least mantissa of a binade the next double is only half as far away. -/
def Interval.of (x : Binary64) : Interval :=
  let (up, down) := Binary64.powerOfTwo (x.exponent - 2)
  let below := if x.mantissa = Nat.pow 2 52 ∧ x.exponent > -1074 then 1 else 2
  ⟨(4 * x.mantissa - below) * up, (4 * x.mantissa + 2) * up, down, x.mantissa % 2 = 0⟩

def Interval.contains (i : Interval) (d : Decimal) : Bool :=
  let (up, down) := powerOfTen d.exponent
  let num := d.digits * up
  if i.closed then ratioLe i.low i.den num down && ratioLe num down i.high i.den
  else !ratioLe num down i.low i.den && !ratioLe i.high i.den num down

/-- The number of decimal digits before the point of a fraction; not positive below one tenth. -/
def magnitude (num den : Nat) : Int :=
  -- 30103 / 100000 is a little more than log 2, and the estimate is at most one off
  let guess : Int := (((num.log2 : Int) - den.log2) * 30103) / 100000
  let atLeast (k : Int) : Bool := ratioLe (powerOfTen k).1 (powerOfTen k).2 num den
  if atLeast (guess + 1) then guess + 2
  else if atLeast guess then guess + 1
  else if atLeast (guess - 1) then guess
  else guess - 1

/-- The neighbours of a double among the decimals with a given last place. -/
def neighbours (num den : Nat) (place : Int) : Decimal × Decimal :=
  let (up, down) := powerOfTen place
  let below := num * down / (den * up)
  (⟨below, place⟩, ⟨below + 1, place⟩)

/-- The nearer of the two neighbours that is in the interval; of two as near, the even one. -/
def nearest? (num den : Nat) (i : Interval) (place : Int) : Option Decimal :=
  let (a, b) := neighbours num den place
  let (up, down) := powerOfTen place
  -- twice the value against the sum of the neighbours
  let twice := 2 * num * down
  let middle := (2 * a.digits + 1) * up * den
  match i.contains a, i.contains b with
  | true, false => some a
  | false, true => some b
  | true, true =>
    if twice < middle then some a
    else if middle < twice then some b
    else if a.digits % 2 = 0 then some a else some b
  | false, false => none

/-- Tries one digit, then two, and so on; seventeen always suffice. -/
def search (num den : Nat) (i : Interval) (size : Int) (digits : Nat) : Nat → Option Decimal
  | 0 => none
  | tries + 1 =>
    match nearest? num den i (size - digits) with
    | some d => some d
    | none => search num den i size (digits + 1) tries

/-- Moves trailing zeros into the exponent. -/
def stripZeros (digits : Nat) (exponent : Int) : Nat → Decimal
  | 0 => ⟨digits, exponent⟩
  | tries + 1 =>
    if digits ≠ 0 ∧ digits % 10 = 0 then stripZeros (digits / 10) (exponent + 1) tries
    else ⟨digits, exponent⟩

def shortest (x : Binary64) : Decimal :=
  if x.mantissa = 0 then ⟨0, 0⟩
  else
    let (num, den) := x.ratio
    match search num den (.of x) (magnitude num den) 1 17 with
    | some d => stripZeros d.digits d.exponent 18
    | none => ⟨0, 0⟩

/-- Numbers from `10 ^ -5` up to `10 ^ 16` are written out, with at least one digit after the point;
all others with an exponent, whose sign is always written. -/
def render (d : Decimal) : String :=
  let digits := (Nat.toDigits 10 d.digits)
  let size : Int := digits.length + d.exponent
  if 0 ≤ d.exponent ∧ size ≤ 16 then
    String.ofList (digits ++ List.replicate d.exponent.toNat '0') ++ ".0"
  else if 0 < size ∧ size ≤ 16 then
    String.ofList (digits.take size.toNat) ++ "." ++ String.ofList (digits.drop size.toNat)
  else if -5 < size ∧ size ≤ 0 then
    "0." ++ String.ofList (List.replicate (-size).toNat '0' ++ digits)
  else
    let power := size - 1
    let mark := if 0 ≤ power then "e+" else "e-"
    let exponent := mark ++ toString power.natAbs
    match digits with
    | [d] => String.ofList [d] ++ exponent
    | d :: rest => String.ofList [d] ++ "." ++ String.ofList rest ++ exponent
    | [] => exponent

end Decimal

end ConfigScope
