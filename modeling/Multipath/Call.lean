import Multipath.Clock
/-!
# Calls

A call passes through four phases, has an identity that no other call shares, and asks its transport
to rebuild circuits by ticket: the call, the circuit and the number of the attempt.
-/

namespace Multipath

/-- Stage of a call, by the time since it started. -/
inductive Phase where
  | establishment
  | warmup
  | relaxed
  | strict
  deriving DecidableEq, Repr

namespace Phase

def all : List Phase := [.establishment, .warmup, .relaxed, .strict]

def name : Phase → String
  | .establishment => "establishment"
  | .warmup => "warmup"
  | .relaxed => "relaxed"
  | .strict => "strict"

def position : Phase → Nat
  | .establishment => 0
  | .warmup => 1
  | .relaxed => 2
  | .strict => 3

/-- The network had time to settle, so quality decides over circuits. -/
def settled : Phase → Bool
  | .establishment | .warmup => false
  | .relaxed | .strict => true

instance : LT Phase := ⟨fun a b => a.position < b.position⟩

instance (a b : Phase) : Decidable (a < b) := inferInstanceAs (Decidable (a.position < b.position))

end Phase

structure CallId where
  text : String
  deriving DecidableEq, Repr

namespace CallId

/-- The digits of an identity: no `I`, `L`, `O` or `U`, which read like others. -/
def alphabet : String := "0123456789ABCDEFGHJKMNPQRSTVWXYZ"

/-- `n` in base 32, in exactly `width` digits, the last ones if it has more. -/
def digits (width n : Nat) : List Char :=
  (List.range width).reverse.map fun i => alphabet.toList.getD (n / Nat.pow 32 i % 32) '0'

/-- The identity made at a time in milliseconds with 80 random bits. -/
def make (milliseconds random : Nat) : CallId :=
  ⟨String.ofList (digits 26 (milliseconds % Nat.pow 2 48 * Nat.pow 2 80 + random % Nat.pow 2 80))⟩

end CallId

/-- One rebuild attempt of one circuit in one call. -/
structure Ticket where
  call : CallId
  circuit : Nat
  epoch : Nat
  deriving DecidableEq, Repr

inductive Outcome where
  | rebuilt
  | failed
  deriving DecidableEq, Repr

inductive Refusal where
  | noSuchCircuit (index count : Nat)
  | noCircuits (count : Nat)
  | staleRebuild (circuit epoch current : Nat)
  | callEnded (call : String)
  | foreignCall (ticketCall call : String)
  | invalidSettings (reason : String)
  deriving DecidableEq, Repr

def Refusal.message : Refusal → String
  | .noSuchCircuit index count =>
    s!"Circuit index {index} out of range (circuit count: {count})"
  | .noCircuits count => s!"Invalid circuit count {count}: at least one circuit is required"
  | .staleRebuild circuit epoch current =>
    s!"Stale rebuild completion for circuit {circuit}: epoch {epoch}, current epoch {current}"
  | .callEnded call => s!"Call {call} has ended"
  | .foreignCall ticketCall call => s!"Rebuild ticket belongs to call {ticketCall}, not {call}"
  | .invalidSettings reason => s!"Invalid scheduler configuration: {reason}"

end Multipath
