import SensorFrames.Number.Double

/-!
The shortest decimal text of a double: of all decimals that round to it, one with the fewest
digits, and of those the nearest; of two that are equally near, the one with the even last digit.
Decimal exponents from -5 to 15 are written with a point, the others with an exponent.
-/

set_option autoImplicit false

namespace SensorFrames.Double

structure Decimal where
  digits : Nat
  exponent : Int
deriving DecidableEq, Inhabited, Repr

/-- A double as a multiple of a quarter of its unit, with the ends of the interval that rounds to
it, on a common scale with the multiples of `10 ^ exponent`: all four are naturals. -/
structure Grid where
  value : Nat
  low : Nat
  high : Nat
  step : Nat
deriving Repr

def grid (d : Double) (exponent : Int) : Grid :=
  let m := d.significand
  let quarter := d.power - 2
  let scale := twoTo quarter.toNat * tenTo (-exponent).toNat
  let below := if m = twoTo fractionBits ∧ leastPower < d.power then 1 else 2
  { value := 4 * m * scale
    low := (4 * m - below) * scale
    high := (4 * m + 2) * scale
    step := twoTo (-quarter).toNat * tenTo exponent.toNat }

/-- The interval has its ends when the significand is even, for then they round to the double. -/
def Grid.holds (g : Grid) (closed : Bool) (n : Nat) : Bool :=
  let x := n * g.step
  if closed then decide (g.low ≤ x) && decide (x ≤ g.high)
  else decide (g.low < x) && decide (x < g.high)

def Grid.nearest? (g : Grid) (closed : Bool) : Option Nat :=
  let n := g.value / g.step
  match g.holds closed n, g.holds closed (n + 1) with
  | true, true =>
    let below := g.value - n * g.step
    let above := (n + 1) * g.step - g.value
    if below < above ∨ (below = above ∧ n % 2 = 0) then some n else some (n + 1)
  | true, false => some n
  | false, true => some (n + 1)
  | false, false => none

/-- A power of ten that is not below the double, in exponents of ten. -/
def decimalBound (d : Double) : Int :=
  ((d.significand.log2 : Int) + d.power + 1) * 30103 / 100000 + 1

/-- The multiples of `10 ^ e` are tried for falling `e`. Above the size of the double there is only
zero, which is outside the interval, and a power of ten, which is also a multiple of the next. -/
def shortest (d : Double) : Decimal :=
  let closed := d.significand % 2 == 0
  let found := (List.range 20).findSome? fun (i : Nat) =>
    let e := d.decimalBound - i
    ((d.grid e).nearest? closed).map fun n => ⟨n, e⟩
  found.getD default

def leastPlain : Int := -5

def greatestPlain : Int := 15

def zeros (n : Nat) : List Char := List.replicate n '0'

/-- `digits` are the figures of the number and `exponent` is that of the first of them. -/
def plainText (digits : List Char) (exponent : Int) : List Char :=
  if exponent < 0 then '0' :: '.' :: zeros (-exponent - 1).toNat ++ digits
  else
    let whole := exponent.toNat + 1
    let places := if digits.length ≤ whole then ['0'] else digits.drop whole
    digits.take whole ++ zeros (whole - digits.length) ++ '.' :: places

def scientificText (digits : List Char) (exponent : Int) : List Char :=
  let mantissa := match digits with
    | first :: rest => first :: if rest.isEmpty then [] else '.' :: rest
    | [] => []
  let sign := if exponent < 0 then '-' else '+'
  mantissa ++ 'e' :: sign :: Nat.toDigits 10 exponent.natAbs

def text (d : Double) : String :=
  let sign := if d.isNegative then ['-'] else []
  if d.isZero then String.ofList (sign ++ ['0', '.', '0'])
  else
    let short := d.shortest
    let all := Nat.toDigits 10 short.digits
    let exponent := short.exponent + all.length - 1
    let digits := (all.reverse.dropWhile (· == '0')).reverse
    let size := if leastPlain ≤ exponent ∧ exponent ≤ greatestPlain then plainText digits exponent
      else scientificText digits exponent
    String.ofList (sign ++ size)

end SensorFrames.Double
