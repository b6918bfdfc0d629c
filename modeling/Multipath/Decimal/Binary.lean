/-!
# The exact value of a double

A finite double is a sign, a whole number `m` and a power of two `q`: its value is `m * 2 ^ q`.
Everything that is written in decimal starts from these three.

`orderKey` places every double in one line, negative zero just below zero, and is what "lower score"
means.
-/

namespace Multipath.Decimal

inductive Binary where
  | undefined
  | infinite (negative : Bool)
  | finite (negative : Bool) (mantissa : Nat) (exponent : Int)
  deriving DecidableEq, Repr

namespace Binary

/-- The value of a bit pattern: one sign bit, eleven of exponent, fifty-two of fraction. -/
def ofBits (bits : Nat) : Binary :=
  let negative := decide (Nat.pow 2 63 ≤ bits)
  let field : Nat := bits / Nat.pow 2 52 % Nat.pow 2 11
  let fraction : Nat := bits % Nat.pow 2 52
  if field = 2047 then
    if fraction = 0 then .infinite negative else .undefined
  else if field = 0 then .finite negative fraction (-1074)
  else .finite negative (Nat.pow 2 52 + fraction) ((field : Int) - 1075)

def ofFloat (x : Float) : Binary := ofBits x.toBits.toNat

/-- The neighbour below is only half as far away as the one above. -/
def narrowBelow : Binary → Bool
  | .finite _ mantissa exponent => mantissa = Nat.pow 2 52 && exponent ≠ -1074
  | _ => false

end Binary

/-- Place of a double in the line of all doubles: by value, `-0.0` just below `0.0`, undefined ones
above every number. -/
def orderKey (x : Float) : Int :=
  let bits := x.toBits.toNat
  if bits < Nat.pow 2 63 then (bits : Int) else -1 - ((bits - Nat.pow 2 63 : Nat) : Int)

end Multipath.Decimal
