/-!
# Binary floating point

Numbers with a binary point as a 64-bit format holds them, in exact arithmetic: a mantissa below
`2 ^ 53` times a power of two.  A decimal numeral denotes the nearest of them; a tie goes to the
even mantissa.

Results:

* `roundDiv`: a quotient rounded to the nearest integer, ties to even.
* `Binary64.nearest`: the value of a decimal numeral.
-/

namespace MailSchedule.Decimal

/-- The power of a base with a whole exponent, and one for a negative exponent. -/
def power (base : Nat) (e : Int) : Nat := base.pow e.toNat

/-- The integer nearest to `n / d`; a tie goes to the even one. -/
def roundDiv (n d : Nat) : Nat :=
  let q := n / d
  let twice := 2 * (n % d)
  if twice < d then q else if d < twice then q + 1 else if q % 2 = 0 then q else q + 1

/-- The values of the format.  A finite value is `mantissa * 2 ^ exponent`. -/
inductive Binary64
  | finite (negative : Bool) (mantissa : Nat) (exponent : Int)
  | infinite (negative : Bool)
  | nan
  deriving DecidableEq, Repr, Inhabited

namespace Binary64

/-- The mantissa has 53 bits. -/
def mantissaBits : Nat := 53

/-- The bound of the mantissa. -/
def mantissaBound : Nat := Nat.pow 2 mantissaBits

/-- The least mantissa that has all its bits. -/
def leastFull : Nat := Nat.pow 2 (mantissaBits - 1)

/-- The least exponent: the grid is no finer than `2 ^ minExponent`. -/
def minExponent : Int := -1074

/-- The largest exponent of a finite value. -/
def maxExponent : Int := 971

/-- `n / d` in units of `2 ^ q`, rounded. -/
def inUnits (n d : Nat) (q : Int) : Nat :=
  roundDiv (n * power 2 (-q)) (d * power 2 q)

/-- The value nearest to `n / d`: the finest of three neighbouring grids on which the mantissa
fits. -/
def ofRatio (negative : Bool) (n d : Nat) : Binary64 :=
  let low := max ((Nat.log2 n : Int) - Nat.log2 d - mantissaBits) minExponent
  let fits (q : Int) : Bool := inUnits n d q < mantissaBound
  let q := if fits low then low else if fits (low + 1) then low + 1 else low + 2
  if maxExponent < q then .infinite negative else .finite negative (inUnits n d q) q

/-- The value nearest to `digits * 10 ^ exponent`.  A numeral far outside the range of the format
is decided by the position of its leading digit. -/
def nearest (negative : Bool) (digits : Nat) (exponent : Int) : Binary64 :=
  if digits = 0 then .finite negative 0 0
  else
    let magnitude := ((Nat.toDigits 10 digits).length : Int) + exponent
    if 400 < magnitude then .infinite negative
    else if magnitude < -400 then .finite negative 0 0
    else ofRatio negative (digits * power 10 exponent) (power 10 (-exponent))

/-- Whether the value is a zero of either sign. -/
def isZero : Binary64 → Bool
  | .finite _ 0 _ => true
  | _ => false

end Binary64

end MailSchedule.Decimal
