import Multipath.Toml.Scalar
/-!
# Quoted texts

There are two quotes, and each comes single, on one line, or threefold, over lines. Between double
quotes a backslash starts an escape; between apostrophes every character stands for itself. Control
characters other than the tab are refused. A function here starts behind the opening quote and gives
the characters and the rest of the input behind the closing one.
-/

namespace Multipath.Toml

/-- A reader takes something from the front of its input. -/
abbrev Reader (α : Type) := List Char → Option (α × List Char)

/-- Stands for itself in a text on one line. -/
def isPlain (c : Char) : Bool := c = '\t' || (32 ≤ c.toNat && c.toNat ≠ 127)

def isBlank (c : Char) : Bool := c = ' ' || c = '\t'

/-- The character of an escape that is one letter long. -/
def shortEscape? (c : Char) : Option Char :=
  if c = 'b' then some (Char.ofNat 8)
  else if c = 't' then some '\t'
  else if c = 'n' then some '\n'
  else if c = 'f' then some (Char.ofNat 12)
  else if c = 'r' then some '\r'
  else if c = 'e' then some (Char.ofNat 27)
  else if c = '"' || c = '\\' then some c
  else none

/-- The character with a number in base 16. -/
def codePoint? (digits : List Char) : Option Char :=
  let n := Decimal.valueOf 16 digits
  if digits.all isHex && n.isValidChar then some (Char.ofNat n) else none

/-- One more character in front. -/
def push (c : Char) (r : Option (List Char × List Char)) : Option (List Char × List Char) :=
  r.map fun (text, rest) => (c :: text, rest)

def basic : Reader (List Char)
  | [] => none
  | '"' :: rest => some ([], rest)
  | '\\' :: 'x' :: a :: b :: rest => (codePoint? [a, b]).bind fun c => push c (basic rest)
  | '\\' :: 'u' :: a :: b :: c :: d :: rest =>
    (codePoint? [a, b, c, d]).bind fun c => push c (basic rest)
  | '\\' :: 'U' :: a :: b :: c :: d :: e :: f :: g :: h :: rest =>
    (codePoint? [a, b, c, d, e, f, g, h]).bind fun c => push c (basic rest)
  | '\\' :: c :: rest => (shortEscape? c).bind fun c => push c (basic rest)
  | c :: rest => if isPlain c then push c (basic rest) else none

def literal : Reader (List Char)
  | [] => none
  | '\x27' :: rest => some ([], rest)
  | c :: rest => if isPlain c then push c (literal rest) else none

/-- Up to two quotes right behind a threefold closing quote belong to the text. -/
def closing (quote : Char) : List Char → List Char × List Char
  | a :: b :: rest =>
    if a = quote && b = quote then ([a, b], rest)
    else if a = quote then ([a], b :: rest)
    else ([], a :: b :: rest)
  | [a] => if a = quote then ([a], []) else ([], [a])
  | [] => ([], [])

def lineEnds (cs : List Char) : Bool :=
  match cs.dropWhile isBlank with
  | '\n' :: _ => true
  | '\r' :: '\n' :: _ => true
  | _ => false

/-- Double quotes over lines. While `skipping`, blanks and line ends are passed over: so it is after a
backslash at the end of a line. -/
def multiBasic (skipping : Bool) : Reader (List Char)
  | [] => none
  | '"' :: '"' :: '"' :: rest => some (closing '"' rest)
  | '\\' :: 'x' :: a :: b :: rest =>
    (codePoint? [a, b]).bind fun c => push c (multiBasic false rest)
  | '\\' :: 'u' :: a :: b :: c :: d :: rest =>
    (codePoint? [a, b, c, d]).bind fun c => push c (multiBasic false rest)
  | '\\' :: 'U' :: a :: b :: c :: d :: e :: f :: g :: h :: rest =>
    (codePoint? [a, b, c, d, e, f, g, h]).bind fun c => push c (multiBasic false rest)
  | '\\' :: c :: rest =>
    if lineEnds (c :: rest) then multiBasic true (c :: rest)
    else (shortEscape? c).bind fun c => push c (multiBasic false rest)
  | '\r' :: '\n' :: rest =>
    if skipping then multiBasic true rest else push '\n' (multiBasic false rest)
  | c :: rest =>
    if skipping && (isBlank c || c = '\n') then multiBasic true rest
    else if c = '\n' || isPlain c then push c (multiBasic false rest)
    else none

def multiLiteral : Reader (List Char)
  | [] => none
  | '\x27' :: '\x27' :: '\x27' :: rest => some (closing '\x27' rest)
  | '\r' :: '\n' :: rest => push '\n' (multiLiteral rest)
  | c :: rest => if c = '\n' || isPlain c then push c (multiLiteral rest) else none

/-- The line end right behind a threefold opening quote is not part of the text. -/
def dropLineEnd : List Char → List Char
  | '\n' :: rest => rest
  | '\r' :: '\n' :: rest => rest
  | rest => rest

def quoted : Reader Node
  | '"' :: '"' :: '"' :: rest => asText (multiBasic false (dropLineEnd rest))
  | '"' :: rest => asText (basic rest)
  | '\x27' :: '\x27' :: '\x27' :: rest => asText (multiLiteral (dropLineEnd rest))
  | '\x27' :: rest => asText (literal rest)
  | _ => none
where
  asText (r : Option (List Char × List Char)) : Option (Node × List Char) :=
    r.map fun (text, rest) => (.text (String.ofList text), rest)

end Multipath.Toml
