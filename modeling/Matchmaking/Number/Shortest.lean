/-!
# Shortest decimal text of a binary fraction

A double-precision number is written with the coarsest decimal that reads back as the same number.
The search runs over powers of ten, coarsest first, in exact arithmetic: a number stands for an
interval of reals, and of the multiples of a power of ten beside the number one must lie in it.
-/

namespace Matchmaking.Number

/-- A positive number `mantissa · 2 ^ exponent`, and whether the next number below it is only half
as far away as the next one above. -/
structure Binary where
  mantissa : Nat
  exponent : Int
  narrowBelow : Bool

/-- A decimal `coefficient · 10 ^ exponent`. -/
structure Decimal where
  coefficient : Nat
  exponent : Int
  deriving DecidableEq, Repr

/-- The magnitude of a finite number other than zero, from its bits. -/
def Binary.ofBits (bits : Nat) : Binary :=
  let fraction : Nat := bits % Nat.pow 2 52
  let biased : Nat := bits / Nat.pow 2 52 % Nat.pow 2 11
  if biased = 0 then ⟨fraction, -1074, false⟩
  else ⟨Nat.pow 2 52 + fraction, (biased : Int) - 1075, fraction = 0 && 1 < biased⟩

/-- The multiple of `10 ^ place` nearest to the number, if one of its two neighbouring multiples is
read back as the number. Distances are compared in quarters of a unit of the mantissa; the ends of
the interval count if the mantissa is even; of two equally near multiples the even one is taken. -/
def Binary.multiple? (b : Binary) (place : Int) : Option Nat :=
  let e := b.exponent - 2
  let unit := Nat.pow 2 e.toNat * Nat.pow 10 (-place).toNat
  let step := Nat.pow 2 (-e).toNat * Nat.pow 10 place.toNat
  let value := 4 * b.mantissa * unit
  let low := value - (if b.narrowBelow then 1 else 2) * unit
  let high := value + 2 * unit
  let inside (n : Nat) : Bool :=
    if b.mantissa % 2 = 0 then low ≤ n * step && n * step ≤ high
    else low < n * step && n * step < high
  let below := value / step
  let above := below + 1
  match inside below && below != 0, inside above with
  | true, true =>
    let down := value - below * step
    let up := above * step - value
    if down < up || (down = up && below % 2 = 0) then some below else some above
  | true, false => some below
  | false, true => some above
  | false, false => none

/-- The first power of ten from `place` down that has a fitting multiple, with that multiple. -/
def Binary.coarsest (b : Binary) : (steps : Nat) → (place : Int) → Decimal
  | 0, place => ⟨b.mantissa, place⟩
  | steps + 1, place =>
    match b.multiple? place with
    | some n => ⟨n, place⟩
    | none => b.coarsest steps (place - 1)

/-- The shortest decimal that reads back as the number. -/
def Binary.shortest (b : Binary) : Decimal := b.coarsest 640 309

/-- The range of decimal exponents that are written positionally. -/
structure DecimalLayout where
  least : Int
  greatest : Int

/-- The digits of a decimal: with a point, and at least one digit on either side of it, if the
first digit's place is within the layout's range; else with an exponent after the digits. -/
def DecimalLayout.render (layout : DecimalLayout) (d : Decimal) : String :=
  let ds := Nat.toDigits 10 d.coefficient
  let lead : Int := d.exponent + ds.length - 1
  if layout.least ≤ lead ∧ lead ≤ layout.greatest then
    if 0 ≤ d.exponent then
      String.ofList (ds ++ List.replicate d.exponent.toNat '0' ++ ['.', '0'])
    else if 0 ≤ lead then
      String.ofList (ds.take (lead.toNat + 1) ++ ['.'] ++ ds.drop (lead.toNat + 1))
    else String.ofList (['0', '.'] ++ List.replicate (-lead - 1).toNat '0' ++ ds)
  else
    let fraction := match ds.tail with
      | [] => []
      | rest => '.' :: rest
    String.ofList (ds.take 1 ++ fraction) ++ "e" ++ (if lead < 0 then "-" else "+") ++
      toString lead.natAbs

/-- The layout of numbers in documents: positional from `0.00001` to below ten to the sixteenth. -/
def documentLayout : DecimalLayout := ⟨-5, 15⟩

/-- The text of a finite number; a zero keeps its sign. -/
def floatText (x : Float) : String :=
  let bits := x.toBits.toNat
  let sign := if bits / Nat.pow 2 63 = 1 then "-" else ""
  if bits % Nat.pow 2 63 = 0 then sign ++ "0.0"
  else sign ++ documentLayout.render (Binary.ofBits bits).shortest

end Matchmaking.Number
