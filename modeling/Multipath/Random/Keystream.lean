/-!
# The keystream

The stream of a key is the output of a block function at the block numbers 0, 1, 2, …. A block is a
square of four rows of four words: fixed constants, eight words of key, the block number in two words,
and two zero words. Twelve rounds of additions, exclusive ors and rotations mix the square, first down
its columns and then down its diagonals, and the square that went in is added at the end.
-/

namespace Multipath.Random

structure Row where
  a : UInt32
  b : UInt32
  c : UInt32
  d : UInt32
  deriving DecidableEq, Repr

namespace Row

def add (x y : Row) : Row := ⟨x.a + y.a, x.b + y.b, x.c + y.c, x.d + y.d⟩

/-- Exclusive or, then every word rotated left by `n` of its 32 bits. -/
def mix (x y : Row) (n : UInt32) : Row :=
  let turn (w : UInt32) : UInt32 := (w <<< n) ||| (w >>> (32 - n))
  ⟨turn (x.a ^^^ y.a), turn (x.b ^^^ y.b), turn (x.c ^^^ y.c), turn (x.d ^^^ y.d)⟩

/-- The words moved `n` places to the front, the first ones going to the end. -/
def shift (x : Row) : Nat → Row
  | 0 => x
  | n + 1 => shift ⟨x.b, x.c, x.d, x.a⟩ n

def word (x : Row) : Nat → UInt32
  | 0 => x.a
  | 1 => x.b
  | 2 => x.c
  | _ => x.d

end Row

structure Square where
  top : Row
  upper : Row
  lower : Row
  bottom : Row
  deriving DecidableEq, Repr

namespace Square

/-- One round down the columns. -/
def round (s : Square) : Square :=
  let top := s.top.add s.upper
  let bottom := s.bottom.mix top 16
  let lower := s.lower.add bottom
  let upper := s.upper.mix lower 12
  let top := top.add upper
  let bottom := bottom.mix top 8
  let lower := lower.add bottom
  let upper := upper.mix lower 7
  ⟨top, upper, lower, bottom⟩

/-- Diagonals become columns. -/
def slant (s : Square) : Square := ⟨s.top, s.upper.shift 1, s.lower.shift 2, s.bottom.shift 3⟩

/-- Columns become diagonals again. -/
def unslant (s : Square) : Square := ⟨s.top, s.upper.shift 3, s.lower.shift 2, s.bottom.shift 1⟩

/-- `n` times a round on the columns and one on the diagonals. -/
def rounds : Nat → Square → Square
  | 0, s => s
  | n + 1, s => rounds n s.round.slant.round.unslant

def add (s t : Square) : Square :=
  ⟨s.top.add t.top, s.upper.add t.upper, s.lower.add t.lower, s.bottom.add t.bottom⟩

/-- Word `i` of the square, row by row. -/
def word (s : Square) (i : Nat) : UInt32 :=
  match i / 4 with
  | 0 => s.top.word (i % 4)
  | 1 => s.upper.word (i % 4)
  | 2 => s.lower.word (i % 4)
  | _ => s.bottom.word (i % 4)

end Square

structure Key where
  first : Row
  second : Row
  deriving DecidableEq, Repr

namespace Key

/-- The square of a block before it is mixed. -/
def square (key : Key) (block : UInt64) : Square where
  top := ⟨0x61707865, 0x3320646e, 0x79622d32, 0x6b206574⟩
  upper := key.first
  lower := key.second
  bottom := ⟨block.toUInt32, (block >>> 32).toUInt32, 0, 0⟩

def block (key : Key) (block : UInt64) : Square :=
  let s := key.square block
  (s.rounds 6).add s

/-- The `n`-th pair of words of the stream as one number, the first word its low half. -/
def pair (key : Key) (n : Nat) : UInt64 :=
  let s := key.block (UInt64.ofNat (n / 8))
  let i := n % 8 * 2
  (s.word i).toUInt64 ||| ((s.word (i + 1)).toUInt64 <<< 32)

end Key

end Multipath.Random
