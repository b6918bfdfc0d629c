import Multipath.Decimal.Binary
/-!
# The fewest digits that read back

A decimal reads back to a double when it lies in the interval of numbers nearer to that double than
to its neighbours, the ends included when the mantissa is even. `shortest` finds the decimal with the
fewest digits in that interval, and of those the nearest to the double; all arithmetic is exact.
-/

namespace Multipath.Decimal

/-- A positive decimal `digits * 10 ^ exponent`, and the power of ten just above it. -/
structure Digits where
  digits : Nat
  exponent : Int
  deriving DecidableEq, Repr

/-- What is taken of two decimals at the same distance. -/
inductive Tie where
  | up
  /-- The one whose last digit is even. -/
  | even
  deriving DecidableEq, Repr

structure Ratio where
  num : Nat
  den : Nat
  deriving DecidableEq, Repr

namespace Ratio

/-- `mantissa * base ^ exponent`. -/
def scaled (mantissa base : Nat) : Int → Ratio
  | .ofNat e => ⟨mantissa * Nat.pow base e, 1⟩
  | .negSucc e => ⟨mantissa, Nat.pow base (e + 1)⟩

def times (a b : Ratio) : Ratio := ⟨a.num * b.num, a.den * b.den⟩

def plus (a b : Ratio) : Ratio := ⟨a.num * b.den + b.num * a.den, a.den * b.den⟩

def below (a b : Ratio) : Bool := a.num * b.den < b.num * a.den

def atMost (a b : Ratio) : Bool := a.num * b.den ≤ b.num * a.den

def floor (a : Ratio) : Nat := a.num / a.den

end Ratio

/-- The numbers that read back to one double. -/
structure Interval where
  low : Ratio
  high : Ratio
  closed : Bool
  deriving Repr

namespace Interval

/-- Half of the gap to either neighbour of `mantissa * 2 ^ exponent`, in quarters of a unit. -/
def around (mantissa : Nat) (exponent : Int) (narrowBelow : Bool) : Interval :=
  { low := .scaled (4 * mantissa - if narrowBelow then 1 else 2) 2 (exponent - 2)
    high := .scaled (4 * mantissa + 2) 2 (exponent - 2)
    closed := mantissa % 2 = 0 }

def holds (i : Interval) (x : Ratio) : Bool :=
  if i.closed then i.low.atMost x && x.atMost i.high else i.low.below x && x.below i.high

end Interval

/-- How many places of ten the whole part of a ratio has, below `1` counted down from `0`: the least
`k` with `x < 10 ^ k`, looked for upwards from an estimate. -/
def magnitude (x : Ratio) : Nat → Int → Int
  | 0, k => k
  | fuel + 1, k => if x.below (.scaled 1 10 k) then k else magnitude x fuel (k + 1)

/-- The better of the two decimals `n` and `n + 1` on the grid `10 ^ exponent`, if one of them is in
the interval. -/
def onGrid (tie : Tie) (i : Interval) (x : Ratio) (exponent : Int) : Option Digits :=
  let grid := Ratio.scaled 1 10 exponent
  let n := (x.times ⟨grid.den, grid.num⟩).floor
  let down := i.holds (grid.times ⟨n, 1⟩) && n ≠ 0
  let up := i.holds (grid.times ⟨n + 1, 1⟩)
  let middle := grid.times ⟨2 * n + 1, 2⟩
  match down, up with
  | false, false => none
  | true, false => some ⟨n, exponent⟩
  | false, true => some ⟨n + 1, exponent⟩
  | true, true =>
    let upper := if x.below middle then false
      else if middle.below x then true
      else match tie with
        | .up => true
        | .even => n % 2 = 1
    some ⟨if upper then n + 1 else n, exponent⟩

/-- Trailing zeros of the digits go into the exponent. -/
def Digits.strip : Nat → Digits → Digits
  | 0, d => d
  | fuel + 1, d =>
    if d.digits % 10 = 0 && d.digits ≠ 0 then Digits.strip fuel ⟨d.digits / 10, d.exponent + 1⟩ else d

/-- The first grid, from coarse to fine, that has a decimal in the interval. -/
def search (tie : Tie) (i : Interval) (x : Ratio) (top : Int) (fuel places : Nat) : Digits :=
  match fuel with
  | 0 => ⟨x.floor, 0⟩
  | fuel + 1 =>
    match onGrid tie i x (top - places) with
    | some d => d
    | none => search tie i x top fuel (places + 1)

/-- The fewest digits that read back to the positive double `mantissa * 2 ^ exponent`. Seventeen
always do. -/
def shortest (tie : Tie) (mantissa : Nat) (exponent : Int) (narrowBelow : Bool) : Digits :=
  let x := Ratio.scaled mantissa 2 exponent
  let bits := (mantissa.log2 : Int) + exponent
  let top := magnitude x 4 (bits * 30103 / 100000)
  (search tie (.around mantissa exponent narrowBelow) x top 18 1).strip 20

end Multipath.Decimal
