/-!
# Reading numbers

A decimal is read as a whole number times a power of ten and rounded once, to the nearest double. A
power that is out of every double's reach is decided by the number of places alone, so that an
exponent of any length is read at once.
-/

namespace Multipath.Decimal

/-- The double nearest to `digits * 10 ^ exponent`. -/
def toDouble (digits : Nat) (exponent : Int) : Float :=
  let top := (digits.log2 * 30103 / 100000 : Nat) + exponent
  if digits = 0 then 0.0
  else if 400 < top then Float.ofBits 0x7ff0000000000000
  else if top < -400 then 0.0
  else Float.ofScientific digits (exponent < 0) exponent.natAbs

def digitValue (c : Char) : Nat :=
  if c.isDigit then c.toNat - '0'.toNat
  else if 'a' ≤ c && c ≤ 'f' then c.toNat - 'a'.toNat + 10
  else c.toNat - 'A'.toNat + 10

def valueOf (base : Nat) (digits : List Char) : Nat :=
  digits.foldl (fun n c => n * base + digitValue c) 0

/-- A sign in front, if there is one: whether it is a minus, and the rest. -/
def splitSign : List Char → Bool × List Char
  | '+' :: rest => (false, rest)
  | '-' :: rest => (true, rest)
  | rest => (false, rest)

def signed (negative : Bool) (x : Float) : Float := if negative then -x else x

/-- The number written by whole digits, digits after the point and an exponent. -/
def ofParts (negative : Bool) (whole fraction : List Char) (exponent : Int) : Float :=
  signed negative (toDouble (valueOf 10 (whole ++ fraction)) (exponent - fraction.length))

/-- A whole number with an optional sign, at least one digit, and nothing else. -/
def exponent? (cs : List Char) : Option Int :=
  let (negative, digits) := splitSign cs
  if digits.isEmpty || !digits.all Char.isDigit then none
  else
    let n : Int := valueOf 10 digits
    some (if negative then -n else n)

/-- A decimal as people type it: an optional sign; then a word for infinity or for an undefined
number, in any case of letters, or digits with at most one point among them and an optional
exponent. -/
def number? (text : String) : Option Float :=
  let (negative, body) := splitSign text.toList
  let word := String.ofList (body.map Char.toLower)
  if word = "inf" || word = "infinity" then some (signed negative (Float.ofBits 0x7ff0000000000000))
  else if word = "nan" then some (Float.ofBits 0x7ff8000000000000)
  else
    let whole := body.takeWhile Char.isDigit
    let rest := body.dropWhile Char.isDigit
    let (fraction, rest) := match rest with
      | '.' :: tail => (tail.takeWhile Char.isDigit, tail.dropWhile Char.isDigit)
      | tail => ([], tail)
    if whole.isEmpty && fraction.isEmpty then none
    else match rest with
      | [] => some (ofParts negative whole fraction 0)
      | c :: tail =>
        if c = 'e' || c = 'E' then (exponent? tail).map (ofParts negative whole fraction)
        else none

/-- A natural number below `bound`, with an optional plus. -/
def natural? (bound : Nat) (text : String) : Option Nat :=
  let digits := match text.toList with
    | '+' :: rest => rest
    | rest => rest
  if digits.isEmpty || !digits.all Char.isDigit then none
  else
    let n := valueOf 10 digits
    if n < bound then some n else none

end Multipath.Decimal
