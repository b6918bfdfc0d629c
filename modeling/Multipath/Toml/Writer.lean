import Multipath.Decimal.Layout
import Multipath.Toml.Statement
/-!
# Writing documents

Statements are written one to a line with bare keys and a blank on either side of the equals sign; a
header has an empty line above it. A list of more than one item has one item to a line, indented by
four blanks and followed by a comma. A number with a fraction is written with the fewest digits that
read back and always has a point.
-/

namespace Multipath.Toml

/-- Every number has a point, none an exponent. -/
def layout : Decimal.Layout where
  inPlace := fun _ => true
  wholeEnding := ".0"
  tie := .up
  undefined := "nan"
  infinite := "inf"
  negativeInfinite := "-inf"

def renderList : List String → String
  | [] => "[]"
  | [item] => "[" ++ item ++ "]"
  | items => "[\n" ++ String.join (items.map fun item => "    " ++ item ++ ",\n") ++ "]"

/-- A value that settings can have. -/
inductive Item where
  | integer (n : Nat)
  | real (x : Float)
  | flag (b : Bool)
  | reals (xs : List Float)
  deriving DecidableEq

def Item.render : Item → String
  | integer n => toString n
  | real x => layout.render x
  | flag b => if b then "true" else "false"
  | reals xs => renderList (xs.map layout.render)

/-- What a written item is read as. -/
def Item.node : Item → Node
  | integer n => .integer n
  | real x => .real x
  | flag b => .flag b
  | reals xs => .array (xs.map .real)

def renderPairs (pairs : List (String × Item)) : String :=
  String.join (pairs.map fun (key, item) => key ++ " = " ++ item.render ++ "\n")

def renderSection (name : String) (pairs : List (String × Item)) : String :=
  "\n[" ++ name ++ "]\n" ++ renderPairs pairs

end Multipath.Toml
