import Multipath.Decimal.Reading
import Multipath.Toml.Node
/-!
# Unquoted values

What a run of characters without an opening quote stands for: a truth value, a whole number in one of
four bases, a number with a fraction or an exponent, or a date or time. A run that is none of these is
refused. Digits may be grouped by single underscores that stand between digits.

What is only shaped like a whole number is not refused but read as `Node.beyond`, like a number too
large for every type: a mark of another base without digits, and a group with other characters in it.
-/

namespace Multipath.Toml

def isHex (c : Char) : Bool := c.isDigit || ('a' ≤ c && c ≤ 'f') || ('A' ≤ c && c ≤ 'F')

/-- The digits of a group, without the underscores between them. -/
def ungroup (isDigit : Char → Bool) : List Char → Option (List Char)
  | [] => none
  | [c] => if isDigit c then some [c] else none
  | c :: '_' :: rest => if isDigit c then (ungroup isDigit rest).map (c :: ·) else none
  | c :: rest => if isDigit c then (ungroup isDigit rest).map (c :: ·) else none

/-- Decimal digits without a leading zero. -/
def wholeDigits? (cs : List Char) : Option (List Char) := do
  let digits ← ungroup Char.isDigit cs
  if digits.head? = some '0' && digits.length ≠ 1 then none else some digits

/-- A whole number that some number type holds. -/
def Node.ofInteger (n : Int) : Node :=
  if -(Int.pow 2 127) ≤ n && n < Int.pow 2 128 then .integer n else .beyond

/-- Behind the mark of a base. -/
def based? (base : Nat) (isDigit : Char → Bool) (cs : List Char) : Option Node :=
  if cs = [] then some .beyond
  else (ungroup isDigit cs).map fun digits => .ofInteger (Decimal.valueOf base digits)

/-- Every underscore has a digit of some base on both sides; `behindDigit` says whether one stands right
before the text. -/
def grouped (behindDigit : Bool) : List Char → Bool
  | [] => true
  | '_' :: rest => behindDigit && rest.head?.any isHex && grouped false rest
  | c :: rest => grouped (isHex c) rest

/-- Starts as grouped digits do, and goes on with characters that are not digits, quotes and tabs among
them. -/
def isRagged (cs : List Char) : Bool :=
  cs.head? ≠ some '0' && (cs.dropWhile Char.isDigit).head? = some '_' && grouped false cs &&
    cs.all fun c => !(c = '.' || c = 'e' || c = 'E' || c = ' ')

/-- A whole number: decimal with an optional sign, or unsigned with the mark of another base. -/
def integer? : List Char → Option Node
  | '0' :: 'x' :: rest => based? 16 isHex rest
  | '0' :: 'o' :: rest => based? 8 (fun c => '0' ≤ c && c ≤ '7') rest
  | '0' :: 'b' :: rest => based? 2 (fun c => c = '0' || c = '1') rest
  | cs =>
    let (negative, body) := Decimal.splitSign cs
    match wholeDigits? body with
    | some digits =>
      let n : Int := Decimal.valueOf 10 digits
      some (.ofInteger (if negative then -n else n))
    | none => if isRagged body then some .beyond else none

/-- The digits of an exponent as a number. -/
def power? (cs : List Char) : Option Int := do
  let (negative, body) := Decimal.splitSign cs
  let n : Int := Decimal.valueOf 10 (← ungroup Char.isDigit body)
  some (if negative then -n else n)

/-- A number that no double is large enough for is beyond the number types. -/
def Node.ofReal (x : Float) : Node := if x.isInf then .beyond else .real x

/-- A number with a fraction, an exponent or both, or one of the words for infinity and for an
undefined number. -/
def real? (cs : List Char) : Option Node :=
  let (negative, body) := Decimal.splitSign cs
  let isPower (c : Char) : Bool := c = 'e' || c = 'E'
  if body = ['i', 'n', 'f'] then
    some (.real (Decimal.signed negative (Float.ofBits 0x7ff0000000000000)))
  else if body = ['n', 'a', 'n'] then some (.real (Float.ofBits 0x7ff8000000000000))
  else
    let mantissa := body.takeWhile (!isPower ·)
    let whole := mantissa.takeWhile (· ≠ '.')
    let fraction := mantissa.dropWhile (· ≠ '.')
    let power := body.dropWhile (!isPower ·)
    if fraction.isEmpty && power.isEmpty then none
    else do
      let whole ← wholeDigits? whole
      let fraction ← match fraction with
        | [] => some []
        | _ :: digits => ungroup Char.isDigit digits
      let power ← match power with
        | [] => some 0
        | _ :: digits => power? digits
      some (.ofReal (Decimal.ofParts negative whole fraction power))

def two? (a b : Char) : Option Nat :=
  if a.isDigit && b.isDigit then some (Decimal.valueOf 10 [a, b]) else none

def daysIn (year month : Nat) : Nat :=
  if month = 2 then
    if year % 4 = 0 && (year % 100 ≠ 0 || year % 400 = 0) then 29 else 28
  else if month = 4 || month = 6 || month = 9 || month = 11 then 30
  else 31

/-- A day of the calendar, as `YYYY-MM-DD`. -/
def isDate : List Char → Bool
  | [y₁, y₂, y₃, y₄, '-', m₁, m₂, '-', d₁, d₂] =>
    match two? y₁ y₂, two? y₃ y₄, two? m₁ m₂, two? d₁ d₂ with
    | some century, some year, some month, some day =>
      1 ≤ month && month ≤ 12 && 1 ≤ day && day ≤ daysIn (century * 100 + year) month
    | _, _, _, _ => false
  | _ => false

def hourMinute? (h₁ h₂ m₁ m₂ : Char) : Bool :=
  match two? h₁ h₂, two? m₁ m₂ with
  | some hour, some minute => hour ≤ 23 && minute ≤ 59
  | _, _ => false

/-- What may follow the seconds or the minutes: the distance from universal time. -/
def isOffset : List Char → Bool
  | ['Z'] | ['z'] => true
  | [sign, h₁, h₂, ':', m₁, m₂] => (sign = '+' || sign = '-') && hourMinute? h₁ h₂ m₁ m₂
  | _ => false

/-- The rest after a time of day `HH:MM`, `HH:MM:SS` or `HH:MM:SS.fff`. -/
def afterTime? : List Char → Option (List Char)
  | h₁ :: h₂ :: ':' :: m₁ :: m₂ :: rest =>
    if hourMinute? h₁ h₂ m₁ m₂ then
      match rest with
      | ':' :: s₁ :: s₂ :: rest =>
        if (two? s₁ s₂).any (· ≤ 60) then
          match rest with
          | '.' :: c :: rest => if c.isDigit then some (rest.dropWhile Char.isDigit) else none
          | rest => some rest
        else none
      | rest => some rest
    else none
  | _ => none

def isTime (cs : List Char) : Bool := afterTime? cs = some []

/-- A time of day that may have an offset. -/
def isZonedTime (cs : List Char) : Bool :=
  match afterTime? cs with
  | none => false
  | some rest => rest.isEmpty || isOffset rest

/-- A date, a time, or a date and a time with a `T` or a blank between them. -/
def isMoment (cs : List Char) : Bool :=
  isDate cs || isTime cs ||
    (isDate (cs.take 10) && match cs.drop 10 with
      | c :: time => (c = 'T' || c = 't' || c = ' ') && isZonedTime time
      | [] => false)

/-- What a run stands for. -/
def scalar? (cs : List Char) : Option Node :=
  if cs = ['t', 'r', 'u', 'e'] then some (.flag true)
  else if cs = ['f', 'a', 'l', 's', 'e'] then some (.flag false)
  else if isMoment cs then some .moment
  else (integer? cs).or (real? cs)

end Multipath.Toml
