/-!
Doubles as decimals. A finite double is the nearest one to a whole interval of reals;
`shortestDigits` finds the fewest decimal digits that name a point of that interval, and of those
the point nearest to the double. `fixed` writes a given number of places, correctly rounded.
-/

namespace MutationTesting.Decimal

/-- A finite positive double as `mantissa * 2 ^ exponent`. -/
structure Binary where
  mantissa : Nat
  exponent : Int
  deriving DecidableEq

/-- The bit of a normal mantissa that is not stored, two to the power of 52. -/
def leadingBit : Nat := 4503599627370496

/-- The magnitude of a finite double. -/
def Binary.ofBits (bits : UInt64) : Binary :=
  let fraction : Nat := bits.toNat % leadingBit
  let biased : Nat := bits.toNat / leadingBit % 2048
  if biased = 0 then ⟨fraction, -1074⟩ else ⟨fraction + leadingBit, (biased : Int) - 1075⟩

/-- `digits * 10 ^ exponent`. -/
structure Digits where
  digits : Nat
  exponent : Int
  deriving DecidableEq

/-- The fraction `n * 2 ^ e`, as numerator and denominator. -/
def scaled2 (n : Nat) (e : Int) : Nat × Nat :=
  if 0 ≤ e then (n <<< e.toNat, 1) else (n, 1 <<< (-e).toNat)

/-- The fraction `n * 10 ^ e`. -/
def scaled10 (n : Nat) (e : Int) : Nat × Nat :=
  if 0 ≤ e then (n * Nat.pow 10 e.toNat, 1) else (n, Nat.pow 10 (-e).toNat)

def fractionLt (a b : Nat × Nat) : Bool := a.1 * b.2 < b.1 * a.2

def fractionLe (a b : Nat × Nat) : Bool := a.1 * b.2 ≤ b.1 * a.2

/-- The reals that round to a double, as fractions; the ends belong to it iff its mantissa is even.
-/
structure Interval where
  low : Nat × Nat
  high : Nat × Nat
  closed : Bool

/-- Below a power of two the neighbours are half as far apart. -/
def Binary.interval (x : Binary) : Interval :=
  let low :=
    if x.mantissa = leadingBit ∧ -1074 < x.exponent then
      scaled2 (4 * x.mantissa - 1) (x.exponent - 2)
    else scaled2 (2 * x.mantissa - 1) (x.exponent - 1)
  ⟨low, scaled2 (2 * x.mantissa + 1) (x.exponent - 1), x.mantissa % 2 = 0⟩

def Interval.contains (i : Interval) (p : Nat × Nat) : Bool :=
  if i.closed then fractionLe i.low p && fractionLe p i.high
  else fractionLt i.low p && fractionLt p i.high

/-- The nearer of two neighbours of `x`; at equal distance the one with an even last digit. -/
def nearer (x : Nat × Nat) (lower upper : Nat) (exponent : Int) : Nat :=
  let l := scaled10 lower exponent
  let u := scaled10 upper exponent
  -- `x - l` against `u - x`, over the common denominator
  let left := x.1 * l.2 * u.2 * 2
  let right := (l.1 * u.2 + u.1 * l.2) * x.2
  if left < right then lower
  else if right < left then upper
  else if lower % 2 = 0 then lower else upper

/-- The two neighbours of `x` on the grid of multiples of `10 ^ exponent`, if one is in the
interval. -/
def onGrid (x : Nat × Nat) (i : Interval) (exponent : Int) : Option Digits :=
  let unit := scaled10 1 exponent
  let lower := x.1 * unit.2 / (x.2 * unit.1)
  let upper := lower + 1
  let lowerIn := 0 < lower && i.contains (scaled10 lower exponent)
  let upperIn := i.contains (scaled10 upper exponent)
  if lowerIn && upperIn then some ⟨nearer x lower upper exponent, exponent⟩
  else if lowerIn then some ⟨lower, exponent⟩
  else if upperIn then some ⟨upper, exponent⟩
  else none

/-- Tries finer and finer grids. -/
def firstGrid (x : Nat × Nat) (i : Interval) : Nat → Int → Digits
  | 0, exponent => ⟨x.1 / x.2, exponent⟩
  | tries + 1, exponent =>
    match onGrid x i exponent with
    | some found => found
    | none => firstGrid x i tries (exponent - 1)

/-- The power of ten at or just above the leading digit of `p / q`. -/
def magnitude (p q : Nat) : Int :=
  ((Nat.toDigits 10 p).length : Int) - ((Nat.toDigits 10 q).length : Int) + 1

/-- Drops zeros at the end. -/
def Digits.trim : Nat → Digits → Digits
  | 0, d => d
  | n + 1, d =>
    if d.digits % 10 = 0 ∧ 0 < d.digits then Digits.trim n ⟨d.digits / 10, d.exponent + 1⟩ else d

/-- The fewest digits that read back as the positive double `x`, nearest to it. -/
def shortestDigits (x : Binary) : Digits :=
  let value := scaled2 x.mantissa x.exponent
  (firstGrid value x.interval 22 (magnitude value.1 value.2)).trim 400

/-- Numbers from `10 ^ -5` up to `10 ^ 16` are written positionally with a point, others with an
exponent of a sign and at least two digits. -/
def Digits.write (d : Digits) : String :=
  let text := toString d.digits
  let count : Int := text.length
  let point := count + d.exponent
  if 0 ≤ d.exponent ∧ point ≤ 16 then
    text ++ String.ofList (List.replicate d.exponent.toNat '0') ++ ".0"
  else if 0 < point ∧ point ≤ 16 then
    (text.take point.toNat).toString ++ "." ++ (text.drop point.toNat).toString
  else if -5 < point ∧ point ≤ 0 then
    "0." ++ String.ofList (List.replicate (-point).toNat '0') ++ text
  else
    let power := point - 1
    let digits := toString power.natAbs
    (text.take 1).toString ++ (if count = 1 then "" else "." ++ (text.drop 1).toString) ++ "e"
      ++ (if power < 0 then "-" else "+") ++ (if digits.length = 1 then "0" ++ digits else digits)

/-- The shortest decimal that reads back as the double; a double that is not finite is `null`. -/
def shortest (x : Float) : String :=
  let bits := x.toBits
  let sign := if bits.toNat / leadingBit / 2048 = 1 then "-" else ""
  let magnitude := Binary.ofBits bits
  if bits.toNat / leadingBit % 2048 = 2047 then "null"
  else if magnitude.mantissa = 0 then sign ++ "0.0"
  else sign ++ (shortestDigits magnitude).write

/-- The quotient rounded to a whole number, a half to the even neighbour. -/
def roundQuotient (p q : Nat) : Nat :=
  let whole := p / q
  let rest := p % q
  if 2 * rest < q then whole
  else if q < 2 * rest then whole + 1
  else if whole % 2 = 0 then whole else whole + 1

/-- A finite double that is not negative, with `places` digits after the point. -/
def fixed (places : Nat) (x : Float) : String :=
  let b := Binary.ofBits x.toBits
  let value := scaled2 b.mantissa b.exponent
  let units := roundQuotient (value.1 * Nat.pow 10 places) value.2
  let whole := toString (units / Nat.pow 10 places)
  let part := toString (units % Nat.pow 10 places)
  if places = 0 then whole
  else whole ++ "." ++ String.ofList (List.replicate (places - part.length) '0') ++ part

end MutationTesting.Decimal
