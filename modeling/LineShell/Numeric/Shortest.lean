import LineShell.Numeric.Binary

/-!
# The fewest digits that tell a number apart

A 53-bit number stands for all reals that round to it. Of the decimals in that interval
`shortest?` takes one with the fewest digits, and of those the nearest to the number.

For one digit, two digits, … the two neighbours of the number on that decimal grid are tested;
if any point of a grid lies in the interval, one of the two neighbours does, and seventeen
digits are always enough.
-/

namespace LineShell.Numeric

/-- The decimal number `digits · 10 ^ scale`. -/
structure Decimal where
  digits : Nat
  scale : Int
deriving DecidableEq, Repr

/-- The same decimal with up to `n` zeros at the end of its digits moved to the scale. -/
def Decimal.trim : Nat → Decimal → Decimal
  | 0, d => d
  | n + 1, d => if d.digits % 10 = 0 then trim n ⟨d.digits / 10, d.scale + 1⟩ else d

namespace Binary

/-! ### Comparing with decimals -/

/-- Whether `a · 2 ^ e ≤ d · 10 ^ s`. -/
def leDecimal (a : Nat) (e : Int) (d : Nat) (s : Int) : Bool :=
  a * Nat.pow 2 e.toNat * Nat.pow 10 (-s).toNat ≤ d * Nat.pow 10 s.toNat * Nat.pow 2 (-e).toNat

/-- Whether `d · 10 ^ s ≤ a · 2 ^ e`. -/
def geDecimal (a : Nat) (e : Int) (d : Nat) (s : Int) : Bool :=
  d * Nat.pow 10 s.toNat * Nat.pow 2 (-e).toNat ≤ a * Nat.pow 2 e.toNat * Nat.pow 10 (-s).toNat

/-- How many digits stand before the decimal point; for a number below one, minus the number of
zeros right after it. -/
def magnitude (b : Binary) : Int :=
  let guess : Int := (b.exponent + 52) * 30103 / 100000
  if geDecimal b.mantissa b.exponent 1 (guess + 1) then guess + 2
  else if geDecimal b.mantissa b.exponent 1 guess then guess + 1
  else guess

/-- The largest multiple of `10 ^ s` that is not above the number, in units of `10 ^ s`. -/
def floorAt (b : Binary) (s : Int) : Nat :=
  (b.num * Nat.pow 10 (-s).toNat) / (b.den * Nat.pow 10 s.toNat)

/-! ### The interval of a number -/

/-- Whether a decimal rounds to the number. The interval runs half a step down and half a step
up, where the step below a power of two is only half as long; its ends belong to it exactly when
the mantissa is even. Four times the mantissa keeps the ends whole. -/
def covers (b : Binary) (d : Decimal) : Bool :=
  let e := b.exponent - 2
  let low := 4 * b.mantissa - (if b.mantissa = Nat.pow 2 52 then 1 else 2)
  let high := 4 * b.mantissa + 2
  let closed := b.mantissa % 2 = 0
  leDecimal low e d.digits d.scale && geDecimal high e d.digits d.scale &&
    (closed || !(geDecimal low e d.digits d.scale || leDecimal high e d.digits d.scale))

/-- The better of the two neighbours of the number among the multiples of `10 ^ s`, if one of
them rounds to it. -/
def candidate? (b : Binary) (s : Int) : Option Decimal :=
  let below : Decimal := ⟨b.floorAt s, s⟩
  let above : Decimal := ⟨b.floorAt s + 1, s⟩
  match b.covers below, b.covers above with
  | false, false => none
  | true, false => some below
  | false, true => some above
  | true, true =>
    -- twice the number against the sum of both neighbours
    let sum := below.digits + above.digits
    let twice := 2 * b.mantissa
    if !geDecimal twice b.exponent sum s then some below
    else if !leDecimal twice b.exponent sum s then some above
    else if below.digits % 2 = 0 then some below else some above

/-- The first grid with a hit, from `k` digits on. -/
def search (b : Binary) (magnitude : Int) : Nat → Nat → Option Decimal
  | 0, _ => none
  | fuel + 1, k =>
    match b.candidate? (magnitude - k) with
    | some d => some (d.trim k)
    | none => search b magnitude fuel (k + 1)

/-- A decimal with the fewest digits that rounds to the number, and of those the nearest; none
for zero, which has no digits. -/
def shortest? (b : Binary) : Option Decimal :=
  if b.mantissa = 0 then none else search b b.magnitude 17 1

end Binary

end LineShell.Numeric
