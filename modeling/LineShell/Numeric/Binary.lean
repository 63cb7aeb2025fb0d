import LineShell.Text.Layout

/-!
# Binary numbers of 53 bits

Non-negative numbers `m · 2 ^ e` with a mantissa of at most 53 bits: what is left of an exact
quotient after rounding it to the nearest such number, a tie going to the even mantissa. The
exponent is unbounded, so nothing overflows. Everything is computed in `Nat`.

A number is written either with a fixed number of decimal places (`fixed`) or, in
`Numeric.Shortest`, with as few digits as tell it apart.
-/

namespace LineShell.Numeric

/-- The quotient rounded to the nearest whole number, a half going to the even one. -/
def divEven (num den : Nat) : Nat :=
  let q := num / den
  let r := num % den
  if 2 * r < den then q else if den < 2 * r then q + 1 else if q % 2 = 0 then q else q + 1

/-- The number `mantissa · 2 ^ exponent`. -/
structure Binary where
  mantissa : Nat
  exponent : Int
deriving DecidableEq, Repr

namespace Binary

def num (b : Binary) : Nat := b.mantissa * Nat.pow 2 b.exponent.toNat

def den (b : Binary) : Nat := Nat.pow 2 (-b.exponent).toNat

/-- A quotient divided by `2 ^ e`, as a fraction. -/
def scaled (num den : Nat) (e : Int) : Nat × Nat :=
  (num * Nat.pow 2 (-e).toNat, den * Nat.pow 2 e.toNat)

/-- The 53-bit number nearest to a quotient. -/
def nearest (num den : Nat) : Binary :=
  if num = 0 then ⟨0, 0⟩
  else
    let guess : Int := (Nat.log2 num : Int) - (Nat.log2 den : Int) - 52
    let (a, b) := scaled num den guess
    let e := if a / b < Nat.pow 2 52 then guess - 1 else guess
    let (a, b) := scaled num den e
    let m := divEven a b
    if m = Nat.pow 2 53 then ⟨Nat.pow 2 52, e + 1⟩ else ⟨m, e⟩

def add (x y : Binary) : Binary := nearest (x.num * y.den + y.num * x.den) (x.den * y.den)

def scale (k : Nat) (x : Binary) : Binary := nearest (k * x.num) x.den

/-! ### Fixed places -/

/-- The text of `n / 10 ^ places` with exactly that many decimal places. -/
def placed (places n : Nat) : String :=
  if places = 0 then toString n
  else toString (n / Nat.pow 10 places) ++ "." ++ Text.padZeros places (n % Nat.pow 10 places)

/-- The number with a fixed number of decimal places, correctly rounded, a tie going to even. -/
def fixed (places : Nat) (b : Binary) : String :=
  placed places (divEven (b.num * Nat.pow 10 places) b.den)

end Binary

end LineShell.Numeric
