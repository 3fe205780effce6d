import ConfigScope.Decimal.Shortest
import ConfigScope.Json.Token

/-!
# The value of a number

A whole number that fits into 64 bits is kept as it is. Every other number is
a double: as many digits as 64 bits hold are taken, the rest only count
towards the power of ten, and the product or quotient of the two is rounded.
-/

namespace ConfigScope.Json

inductive Number where
  | integer (value : Int)
  | decimal (negative : Bool) (value : Decimal)
  deriving DecidableEq

namespace Numeral

def maxWord : Nat := Nat.pow 2 64 - 1

/-- Takes digits as long as the number fits into a word, and gives back the others. -/
def takeDigits (n : Nat) : List Nat → Nat × List Nat
  | [] => (n, [])
  | d :: rest => if n * 10 + d ≤ maxWord then takeDigits (n * 10 + d) rest else (n, d :: rest)

/-- The power of ten nearest to which a double is, for exponents up to 308. -/
def power (e : Nat) : Binary64 :=
  (Binary64.ofRatio? (Nat.pow 10 e) 1).getD .zero

def scaleUp? (x : Binary64) (e : Nat) : Option Binary64 :=
  if e ≤ 308 then x.mul? (power e)
  else if x.isZero then some x
  else none

/-- Divides by at most `10 ^ 308` at a time. -/
def scaleDown (x : Binary64) (e : Nat) : Binary64 :=
  if h : e ≤ 308 then (x.div? (power e)).getD .zero
  else if x.isZero then x
  else scaleDown ((x.div? (power 308)).getD .zero) (e - 308)
termination_by e

def scale? (significand : Nat) (e : Int) : Option Binary64 := do
  let x ← Binary64.ofRatio? significand 1
  if 0 ≤ e then scaleUp? x e.toNat else return scaleDown x (-e).toNat

def digitsValue (digits : List Nat) : Nat :=
  digits.foldl (fun n d => n * 10 + d) 0

/-- The double of a number whose digits make up `significand * 10 ^ place`. An exponent beyond 31
bits counts as infinite. -/
def double? (significand : Nat) (place : Int) : Option Exponent → Option Binary64
  | none => scale? significand place
  | some e =>
    let power := digitsValue e.digits
    if power > Nat.pow 2 31 - 1 then
      if significand ≠ 0 ∧ !e.negative then none else some .zero
    else scale? significand (if e.negative then place - power else place + power)

/-- The value of a numeral, unless it is too large for a double. -/
def value? (n : Numeral) : Option Number :=
  let (significand, rest) := takeDigits 0 n.whole
  if rest = [] ∧ n.fraction = [] ∧ n.exponent = none then
    if !n.negative then some (.integer significand)
    else if 0 < significand ∧ significand ≤ Nat.pow 2 63 then some (.integer (-significand))
    else (Binary64.ofRatio? significand 1).map fun x => .decimal true (Decimal.shortest x)
  else
    let (significand, dropped) := takeDigits significand n.fraction
    let place : Int := rest.length - (n.fraction.length - dropped.length : Nat)
    (double? significand place n.exponent).map fun x => .decimal n.negative (Decimal.shortest x)

end Numeral

namespace Number

def render : Number → String
  | integer value => toString value
  | decimal negative value => (if negative then "-" else "") ++ value.render

end Number

end ConfigScope.Json
