/-
Finite binary64 numbers as exact triples, with correct rounding of quotients and the shortest
decimal that reads back. All arithmetic is on naturals and integers.
-/

namespace Scaffold

/-- The number `mantissa * 2 ^ exponent`, negated when `negative` holds. The mantissa has at most
53 bits, and 53 of them unless the exponent is the least one. -/
structure Binary64 where
  negative : Bool
  mantissa : Nat
  exponent : Int
deriving DecidableEq, Repr

namespace Binary64

def minExponent : Int := -1074

def maxExponent : Int := 971

def zero (negative : Bool) : Binary64 :=
  ⟨negative, 0, minExponent⟩

def isZero (x : Binary64) : Bool :=
  x.mantissa == 0

/-- `b ^ n` in the numerator for a natural `n`, in the denominator for a negative one. -/
def power (b : Nat) (n : Int) : Nat × Nat :=
  if 0 ≤ n then (Nat.pow b n.toNat, 1) else (1, Nat.pow b (-n).toNat)

/-- The quotient rounded to the nearest natural, a half to the even neighbour. -/
def roundDiv (num den : Nat) : Nat :=
  let q := num / den
  let r := num % den
  if 2 * r < den then q
  else if 2 * r > den then q + 1
  else if q % 2 = 0 then q else q + 1

/-- The greatest `e` at which `num / den` has a mantissa of 53 bits, but not below the least
exponent. -/
def exponentOf (num den : Nat) : Int :=
  let estimate : Int := (num.log2 : Int) - den.log2 - 52
  let (up, down) := power 2 estimate
  let exact := if num * down < Nat.pow 2 52 * (den * up) then estimate - 1 else estimate
  max exact minExponent

/-- The number nearest to `num / den`, a tie to the even mantissa; `none` beyond the range. -/
def ofQuotient? (negative : Bool) (num den : Nat) : Option Binary64 :=
  if num = 0 then some (zero negative)
  else
    let e := exponentOf num den
    let (up, down) := power 2 e
    let m := roundDiv (num * down) (den * up)
    let (m, e) := if m = Nat.pow 2 53 then (Nat.pow 2 52, e + 1) else (m, e)
    if e > maxExponent then none else some ⟨negative, m, e⟩

/-- The absolute value as a quotient. -/
def quotient (x : Binary64) : Nat × Nat :=
  let (up, down) := power 2 x.exponent
  (x.mantissa * up, down)

def ofNat? (n : Nat) : Option Binary64 :=
  ofQuotient? false n 1

/-- The number nearest to `digits * 10 ^ exponent`. Exponents so far out that the result is zero
or out of range for every 64-bit `digits` are cut short. -/
def ofDecimal? (negative : Bool) (digits : Nat) (exponent : Int) : Option Binary64 :=
  if digits = 0 then some (zero negative)
  else
    let width : Int := (Nat.toDigits 10 digits).length
    if exponent + width > 400 then none
    else if exponent + width < -400 then some (zero negative)
    else
      let (up, down) := power 10 exponent
      ofQuotient? negative (digits * up) down

def mul? (x y : Binary64) : Option Binary64 :=
  let (a, b) := x.quotient
  let (c, d) := y.quotient
  ofQuotient? (x.negative != y.negative) (a * c) (b * d)

/-- The quotient by a number other than zero, rounded; `none` beyond the range. -/
def div? (x y : Binary64) : Option Binary64 :=
  let (a, b) := x.quotient
  let (c, d) := y.quotient
  if c = 0 then none else ofQuotient? (x.negative != y.negative) (a * d) (b * c)

def neg (x : Binary64) : Binary64 :=
  { x with negative := !x.negative }

/-- The value `0.d₁d₂… * 10 ^ point`. -/
structure Digits where
  digits : List Char
  point : Int
deriving DecidableEq, Repr

/-- The least `k` with `num / den < 10 ^ k`, for a quotient above zero. -/
def decimalPoint (num den : Nat) : Int :=
  if den ≤ num then (Nat.toDigits 10 (num / den)).length
  else
    match (List.range 400).find? fun j => den ≤ num * Nat.pow 10 j with
    | some j => 1 - (j : Int)
    | none => 0

/-- The multiple of `10 ^ unit` next to `mid / den` that lies between `low / den` and `high / den`,
ends included iff `closed`; of two such the nearer, of two equally near the even one. -/
def gridPoint? (closed : Bool) (low mid high den : Nat) (unit : Int) : Option Nat :=
  let (up, down) := power 10 unit
  let inside := fun c : Nat =>
    let value := c * up * den
    if closed then low * down ≤ value && value ≤ high * down
    else low * down < value && value < high * down
  let below := mid * down / (den * up)
  match inside below, inside (below + 1) with
  | false, false => none
  | true, false => some below
  | false, true => some (below + 1)
  | true, true => some (roundDiv (mid * down) (den * up))

/-- The digits of `c * 10 ^ unit` without the zeros at the end. -/
def digitsOf (c : Nat) (unit : Int) : Digits :=
  let ds := Nat.toDigits 10 c
  ⟨(ds.reverse.dropWhile (· == '0')).reverse, ds.length + unit⟩

/-- The fewest digits that read back as the number, and of those the nearest to it. -/
def shortest (x : Binary64) : Digits :=
  let narrow := x.mantissa == Nat.pow 2 52 && x.exponent != minExponent
  let (up, den) := power 2 (x.exponent - 2)
  let mid := 4 * x.mantissa * up
  let low := (4 * x.mantissa - (if narrow then 1 else 2)) * up
  let high := (4 * x.mantissa + 2) * up
  let point := decimalPoint mid den
  let hit := (List.range 17).findSome? fun n =>
    let unit := point - (n + 1 : Nat)
    (gridPoint? (x.mantissa % 2 == 0) low mid high den unit).map (digitsOf · unit)
  hit.getD ⟨[], 0⟩

end Binary64
end Scaffold
