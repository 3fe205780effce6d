/-!
# Double precision numbers

A finite double is a mantissa of at most 53 bits times a power of two. It is
kept as that pair, so that rounding is a computation on natural numbers.
-/

namespace ConfigScope

/-- The number `mantissa * 2 ^ exponent`. -/
structure Binary64 where
  mantissa : Nat
  exponent : Int
  deriving DecidableEq

namespace Binary64

def zero : Binary64 := ⟨0, -1074⟩

/-- The quotient to the nearest whole number; a half goes to the even one. -/
def roundDiv (num den : Nat) : Nat :=
  let q := num / den
  let r := num % den
  if 2 * r < den then q
  else if den < 2 * r then q + 1
  else q + q % 2

def powerOfTwo (e : Int) : Nat × Nat :=
  if 0 ≤ e then (Nat.pow 2 e.toNat, 1) else (1, Nat.pow 2 (-e).toNat)

/-- The least exponent at which the mantissa of `num / den` has no more than 53 bits. -/
def fittingExponent (num den : Nat) : Int :=
  let e : Int := (num.log2 : Int) - den.log2 - 52
  let (up, down) := powerOfTwo e
  let e := if num * down < den * up * Nat.pow 2 52 then e - 1 else e
  max e (-1074)

/-- The double nearest to a fraction, unless it is too large. -/
def ofRatio? (num den : Nat) : Option Binary64 :=
  if num = 0 then some zero
  else
    let e := fittingExponent num den
    let (up, down) := powerOfTwo e
    let m := roundDiv (num * down) (den * up)
    let (m, e) := if m = Nat.pow 2 53 then (Nat.pow 2 52, e + 1) else (m, e)
    if e > 971 then none else some ⟨m, e⟩

def ratio (x : Binary64) : Nat × Nat :=
  let (up, down) := powerOfTwo x.exponent
  (x.mantissa * up, down)

def mul? (x y : Binary64) : Option Binary64 :=
  ofRatio? (x.ratio.1 * y.ratio.1) (x.ratio.2 * y.ratio.2)

def div? (x y : Binary64) : Option Binary64 :=
  ofRatio? (x.ratio.1 * y.ratio.2) (x.ratio.2 * y.ratio.1)

def isZero (x : Binary64) : Bool :=
  x.mantissa == 0

end Binary64

end ConfigScope
