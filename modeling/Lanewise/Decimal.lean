/-!
# Decimal numbers

A decimal number is kept as the number of double precision that is nearest to it. Its text has the
fewest digits that still read back as that number, and among those the nearest ones.

The digits are found in exact arithmetic. The reals that read back as a number lie between the
middles to its two neighbours; on the grid of each number of digits, only the two points next to the
number have to be tried.
-/

namespace Lanewise

/-- A number of double precision, by its bits. -/
structure Decimal where
  bits : UInt64
deriving DecidableEq, Repr

namespace Decimal

/-- Whether the sign is a minus. Zero has a sign as well. -/
def isNegative (d : Decimal) : Bool :=
  d.bits >>> 63 = 1

/-- The bits of the exponent. -/
def exponentField (d : Decimal) : Nat :=
  ((d.bits >>> 52) &&& 0x7ff).toNat

/-- The bits of the fraction. -/
def fraction (d : Decimal) : Nat :=
  (d.bits &&& 0xfffffffffffff).toNat

/-- The size of a finite number in units of a power of two. -/
def significand (d : Decimal) : Nat :=
  if d.exponentField = 0 then d.fraction else 0x10000000000000 + d.fraction

/-- The exponent of the power of two that is the unit of the significand. -/
def binaryExponent (d : Decimal) : Int :=
  (max d.exponentField 1 : Nat) - 1075

/-- Whether the neighbour towards zero is only half as far away as the other one. -/
def isNarrowBelow (d : Decimal) : Bool :=
  d.fraction = 0 && d.exponentField > 1

/-- A power of a base. A negative exponent counts as zero. -/
def power (base : Nat) (exponent : Int) : Nat :=
  Nat.pow base exponent.toNat

/-- How `a` units of a power of ten compare with `b` units of a power of two. -/
def compareUnits (a : Nat) (tens : Int) (b : Nat) (twos : Int) : Ordering :=
  compare (a * power 10 tens * power 2 (-twos)) (b * power 2 twos * power 10 (-tens))

/-- Whether so many units of a power of ten read back as the size of a number. The ends of the
interval belong to it when the significand is even. -/
def readsBack (d : Decimal) (digits : Nat) (tens : Int) : Bool :=
  let low := 4 * d.significand - (if d.isNarrowBelow then 1 else 2)
  let above := compareUnits digits tens low (d.binaryExponent - 2)
  let below := compareUnits digits tens (4 * d.significand + 2) (d.binaryExponent - 2)
  if d.significand % 2 = 0 then above ≠ .lt && below ≠ .gt else above = .gt && below = .lt

/-- The size of a number in units of a power of ten, rounded down. -/
def wholeUnits (d : Decimal) (tens : Int) : Nat :=
  (d.significand * power 2 d.binaryExponent * power 10 (-tens))
    / (power 2 (-d.binaryExponent) * power 10 tens)

/-- The least power of ten above the size of a number, as its exponent. -/
def magnitude (d : Decimal) : Int :=
  let above (tens : Int) := compareUnits 1 tens d.significand d.binaryExponent = .gt
  ((List.range 633).map fun (i : Nat) => (i : Int) - 323).find? (fun tens => above tens) |>.getD 309

/-- The digits that read back as a number on the grid of a power of ten. Of two hits the nearer one
counts, and halfway between them the even one. -/
def digitsOnGrid? (d : Decimal) (tens : Int) : Option Nat :=
  let low := d.wholeUnits tens
  match d.readsBack low tens, d.readsBack (low + 1) tens with
  | false, false => none
  | true, false => some low
  | false, true => some (low + 1)
  | true, true =>
    match compareUnits (2 * low + 1) tens (2 * d.significand) d.binaryExponent with
    | .gt => some low
    | .lt => some (low + 1)
    | .eq => some (if low % 2 = 0 then low else low + 1)

/-- Digits without the zeros at their end, with the power of ten that makes up for them. -/
def dropZeros (digits : Nat) (tens : Int) : Nat × Int :=
  if h : digits ≠ 0 ∧ digits % 10 = 0 then
    have : digits / 10 < digits := Nat.div_lt_self (by omega) (by decide)
    dropZeros (digits / 10) (tens + 1)
  else (digits, tens)
termination_by digits

/-- The shortest digits of a finite number other than zero, with their power of ten. Seventeen
digits are enough for all; were they not, the exact digits would stand in. -/
def shortest (d : Decimal) : Nat × Int :=
  let grids := (List.range 17).map fun (n : Nat) => d.magnitude - (n + 1 : Nat)
  match grids.findSome? fun tens => (d.digitsOnGrid? tens).map (·, tens) with
  | some (digits, tens) => dropZeros digits tens
  | none =>
    dropZeros (d.significand * power 2 d.binaryExponent * power 5 (-d.binaryExponent))
      (min 0 d.binaryExponent)

/-- An exponent with its sign and at least two digits. -/
def exponentText (exponent : Int) : String :=
  (if exponent < 0 then "-" else "+")
    ++ String.ofList ((Nat.toDigits 10 exponent.natAbs).leftpad 2 '0')

/-- The text of digits in units of a power of ten. The point is in its place when at most sixteen
digits stand before it, and when fewer than four zeros stand between it and the first digit; else
the text has an exponent. -/
def layout (digits : Nat) (tens : Int) : String :=
  let chars := Nat.toDigits 10 digits
  let point := chars.length + tens
  if point ≤ -4 ∨ 16 < point then
    let fraction := if chars.length = 1 then [] else '.' :: chars.tail
    String.ofList (chars.take 1 ++ fraction) ++ "e" ++ exponentText (point - 1)
  else if point ≤ 0 then
    "0." ++ String.ofList (List.replicate (-point).toNat '0' ++ chars)
  else if 0 ≤ tens then
    String.ofList (chars ++ List.replicate tens.toNat '0') ++ ".0"
  else
    String.ofList (chars.take point.toNat) ++ "." ++ String.ofList (chars.drop point.toNat)

/-- The text of the size of a number. -/
def sizeText (d : Decimal) : String :=
  if d.exponentField = 0x7ff then "inf"
  else if d.significand = 0 then "0.0"
  else layout d.shortest.1 d.shortest.2

/-- The text of a number. -/
def toString (d : Decimal) : String :=
  if d.exponentField = 0x7ff ∧ d.fraction ≠ 0 then "nan"
  else (if d.isNegative then "-" else "") ++ d.sizeText

instance : ToString Decimal := ⟨toString⟩

end Decimal

end Lanewise
