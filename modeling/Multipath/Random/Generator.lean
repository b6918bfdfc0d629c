import Multipath.Random.Keystream
/-!
# Random draws

A generator is a key and the number of draws taken from its stream. The key is spread from one seed
word by a linear recurrence whose states are folded to 32 bits. A draw takes one pair of words, keeps
its 52 high bits as the fraction of a double between 1 and 2, and subtracts 1; so it lies in `[0, 1)`.
-/

namespace Multipath.Random

def nextState (state : UInt64) : UInt64 := state * 6364136223846793005 + 11634580027462260723

/-- A state folded to 32 bits and rotated right by its five top bits. -/
def fold (state : UInt64) : UInt32 :=
  let x := (((state >>> 18) ^^^ state) >>> 27).toUInt32
  let n := (state >>> 59).toUInt32
  if n = 0 then x else (x >>> n) ||| (x <<< (32 - n))

/-- Four words from four states, and the state reached. -/
def spread (state : UInt64) : Row × UInt64 :=
  let s₁ := nextState state
  let s₂ := nextState s₁
  let s₃ := nextState s₂
  let s₄ := nextState s₃
  (⟨fold s₁, fold s₂, fold s₃, fold s₄⟩, s₄)

def Key.ofSeed (seed : UInt64) : Key :=
  let (first, state) := spread seed
  ⟨first, (spread state).1⟩

/-- A key and how many draws were taken. -/
structure Generator where
  key : Key
  drawn : Nat
  deriving DecidableEq, Repr

namespace Generator

def ofSeed (seed : UInt64) : Generator := ⟨.ofSeed seed, 0⟩

/-- Sixty-four random bits as a double in `[0, 1)`. -/
def toUnit (bits : UInt64) : Float :=
  Float.ofBits ((0x3ff0000000000000 : UInt64) ||| (bits >>> 12)) - 1.0

def unit (g : Generator) : Float × Generator := (toUnit (g.key.pair g.drawn), ⟨g.key, g.drawn + 1⟩)

/-- A draw from `[0, high)`, for a `high` that no product of it with a number below 1 rounds to. -/
def below (g : Generator) (high : Float) : Float × Generator :=
  let (u, g) := g.unit
  (u * high + 0.0, g)

end Generator

end Multipath.Random
