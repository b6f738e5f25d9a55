import MailSchedule.Decimal.Binary64

/-!
# Shortest decimals

The text of a binary floating-point value: the fewest decimal digits that read back as the value,
and of those the nearest to it.

Results:

* `shortestDigits`: the digits and the place of the decimal point.
* `Binary64.text`: the written form; values from `0.0001` up to sixteen places before the point are
  written in full, others with an exponent.
-/

namespace MailSchedule.Decimal

/-- How many decimal digits `n` has. -/
def digitCount (n : Nat) : Nat := (Nat.toDigits 10 n).length

/-- The place of the leading digit of `n / d`: the `e` with `10 ^ e ≤ n / d < 10 ^ (e + 1)`. -/
def leadingPlace (n d : Nat) : Int :=
  if d ≤ n then (digitCount (n / d) : Int) - 1
  else -(digitCount ((d + n - 1) / n - 1) : Int)

/-- A positive value `mantissa * 2 ^ exponent` with the reals that round to it, all in units of a
quarter of the grid: `low`, `value` and `high` over the common denominator `unit`. -/
structure Interval where
  low : Nat
  value : Nat
  high : Nat
  unit : Nat
  /-- The ends round to the value when its mantissa is even. -/
  closed : Bool

/-- The interval of a positive value.  Below a power of two the grid is twice as fine. -/
def Interval.of (mantissa : Nat) (exponent : Int) : Interval :=
  let scale := power 2 exponent
  let below := if mantissa = Binary64.leastFull && Binary64.minExponent < exponent then 1 else 2
  { low := (4 * mantissa - below) * scale
    value := 4 * mantissa * scale
    high := (4 * mantissa + 2) * scale
    unit := 4 * power 2 (-exponent)
    closed := mantissa % 2 = 0 }

/-- Whether `c * 10 ^ place` rounds to the value. -/
def Interval.contains (i : Interval) (c : Nat) (place : Int) : Bool :=
  let x := c * power 10 place * i.unit
  let scale := power 10 (-place)
  if i.closed then i.low * scale ≤ x && x ≤ i.high * scale
  else i.low * scale < x && x < i.high * scale

/-- The neighbours of the value among the multiples of `10 ^ place` that round to it; of two, the
nearer one, and the even one if both are as near. -/
def Interval.pick? (i : Interval) (place : Int) : Option Nat :=
  let step := power 10 place * i.unit
  let scaled := i.value * power 10 (-place)
  let below := scaled / step
  let excess := 2 * (scaled - below * step)
  let nearer :=
    if excess < step || (excess = step && below % 2 = 0) then [below, below + 1]
    else [below + 1, below]
  nearer.find? fun c => i.contains c place

/-- Looks for a multiple of `10 ^ place`, with `tries` further digits allowed. -/
def Interval.search (i : Interval) : Nat → Int → Nat × Int
  | 0, place => ((i.pick? place).getD 0, place)
  | tries + 1, place =>
    match i.pick? place with
    | some c => (c, place)
    | none => Interval.search i tries (place - 1)

/-- Removes trailing zeros from digits given in reverse. -/
def dropZeros : List Char → List Char
  | '0' :: rest => dropZeros rest
  | cs => cs

/-- The fewest digits that read back as a positive value, and where the decimal point stands: the
value is `0.DIGITS` times `10 ^ point`. -/
def shortestDigits (mantissa : Nat) (exponent : Int) : List Char × Int :=
  let i := Interval.of mantissa exponent
  let (c, place) := i.search 17 (leadingPlace i.value i.unit)
  let ds := Nat.toDigits 10 c
  ((dropZeros ds.reverse).reverse, (ds.length : Int) + place)

/-- Digits with the decimal point in its place, at least one digit on either side. -/
def positional (ds : List Char) (point : Int) : List Char :=
  if point ≤ 0 then '0' :: '.' :: List.replicate (-point).toNat '0' ++ ds
  else
    let k := point.toNat
    if ds.length ≤ k then ds ++ List.replicate (k - ds.length) '0' ++ ['.', '0']
    else ds.take k ++ '.' :: ds.drop k

/-- Digits with an exponent of at least two digits and a sign. -/
def scientific (ds : List Char) (point : Int) : List Char :=
  let e := point - 1
  let size := Nat.toDigits 10 e.natAbs
  ds.take 1 ++ (if ds.length ≤ 1 then [] else '.' :: ds.drop 1) ++
    'e' :: (if e < 0 then '-' else '+') :: (if size.length < 2 then '0' :: size else size)

/-- The written form of a positive value. -/
def positiveText (mantissa : Nat) (exponent : Int) : List Char :=
  let (ds, point) := shortestDigits mantissa exponent
  if -4 < point && point ≤ 16 then positional ds point else scientific ds point

/-- The sign of a negative value. -/
def signText (negative : Bool) : String := if negative then "-" else ""

/-- The written form of a value. -/
def Binary64.text : Binary64 → String
  | .nan => "nan"
  | .infinite negative => signText negative ++ "inf"
  | .finite negative 0 _ => signText negative ++ "0.0"
  | .finite negative m e => signText negative ++ String.ofList (positiveText m e)

end MailSchedule.Decimal
