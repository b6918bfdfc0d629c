import Multipath.Decimal.Shortest
/-!
# Laying digits out

A `Layout` holds every decision of a decimal format that is not about which digits to write: when the
point is written in place and when an exponent is, what is added to a whole number, which of two
equally near decimals is taken, and the words for the values that have no digits.

`fixed` is the other way to write a double: rounded to a set number of places, a half going to the
even neighbour, the sign kept on zero.
-/

namespace Multipath.Decimal

structure Layout where
  /-- Whether a number whose first digit stands for this power of ten is written without an exponent. -/
  inPlace : Int → Bool
  /-- Added to a number without a point. -/
  wholeEnding : String
  tie : Tie
  undefined : String
  infinite : String
  negativeInfinite : String

/-- No exponent and no ending: the way numbers stand in messages. -/
def Layout.plain : Layout where
  inPlace := fun _ => true
  wholeEnding := ""
  tie := .up
  undefined := "NaN"
  infinite := "inf"
  negativeInfinite := "-inf"

def zeros (n : Nat) : String := String.ofList (List.replicate n '0')

/-- `digits * 10 ^ exponent` with its point in place. -/
def Digits.inPlace (d : Digits) (wholeEnding : String) : String :=
  let text := toString d.digits
  match d.exponent with
  | .ofNat e => text ++ zeros e ++ wholeEnding
  | .negSucc e =>
    let places := e + 1
    if places < text.length then
      (text.take (text.length - places)).toString ++ "." ++ (text.drop (text.length - places)).toString
    else "0." ++ zeros (places - text.length) ++ text

/-- The first digit, the others after a point, and a signed exponent. -/
def Digits.withExponent (d : Digits) : String :=
  let text := toString d.digits
  let power := d.exponent + (text.length - 1 : Nat)
  let tail := (text.drop 1).toString
  let sign := if power < 0 then "-" else "+"
  (text.take 1).toString ++ (if tail = "" then "" else "." ++ tail) ++ "e" ++ sign ++
    toString power.natAbs

def Layout.render (layout : Layout) (x : Float) : String :=
  let b := Binary.ofFloat x
  match b with
  | .undefined => layout.undefined
  | .infinite negative => if negative then layout.negativeInfinite else layout.infinite
  | .finite negative mantissa exponent =>
    let body :=
      if mantissa = 0 then "0" ++ layout.wholeEnding
      else
        let d := shortest layout.tie mantissa exponent b.narrowBelow
        if layout.inPlace (d.exponent + ((toString d.digits).length - 1 : Nat)) then
          d.inPlace layout.wholeEnding
        else d.withExponent
    if negative then "-" ++ body else body

/-- The whole number nearest to `num / den`, a half going to the even one. -/
def nearest (r : Ratio) : Nat :=
  let n := r.floor
  let rest := 2 * (r.num % r.den)
  if rest < r.den then n
  else if r.den < rest then n + 1
  else if n % 2 = 0 then n else n + 1

/-- A double rounded to `places` decimals. -/
def fixed (places : Nat) (x : Float) : String :=
  match Binary.ofFloat x with
  | .undefined => "NaN"
  | .infinite negative => if negative then "-inf" else "inf"
  | .finite negative mantissa exponent =>
    let units := nearest ((Ratio.scaled mantissa 2 exponent).times ⟨Nat.pow 10 places, 1⟩)
    let text := toString units
    let text := zeros (places + 1 - text.length) ++ text
    let body :=
      if places = 0 then text
      else (text.take (text.length - places)).toString ++ "." ++
        (text.drop (text.length - places)).toString
    if negative then "-" ++ body else body

end Multipath.Decimal
