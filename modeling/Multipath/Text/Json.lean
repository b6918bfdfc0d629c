import Multipath.Decimal.Layout
/-!
# JSON text

Values with their members in order, and the text of a value spread over lines: two blanks for each
level, an empty list or object closed at once. A number is written with the fewest digits that read
back, in place from `0.00001` up to below `10 ^ 16` and with an exponent beyond; a number that has no
digits is `null`.
-/

namespace Multipath

inductive Json where
  | null
  | flag (b : Bool)
  | count (n : Nat)
  | real (x : Float)
  | text (s : String)
  | list (items : List Json)
  | object (members : List (String × Json))

namespace Json

/-- An optional value, `null` when there is none. -/
def optional {α : Type} (f : α → Json) (x : Option α) : Json := x.elim null f

def layout : Decimal.Layout where
  inPlace := fun e => -5 ≤ e && e < 16
  wholeEnding := ".0"
  tie := .even
  undefined := "null"
  infinite := "null"
  negativeInfinite := "null"

/-- The four digits of a character below `0x10000` in base 16. -/
def hex4 (n : Nat) : String :=
  let digits := Nat.toDigits 16 n
  Decimal.zeros (4 - digits.length) ++ String.ofList digits

def escape (c : Char) : String :=
  if c = '"' then "\\\""
  else if c = '\\' then "\\\\"
  else if c = '\n' then "\\n"
  else if c = '\r' then "\\r"
  else if c = '\t' then "\\t"
  else if c.toNat = 8 then "\\b"
  else if c.toNat = 12 then "\\f"
  else if c.toNat < 32 then "\\u" ++ hex4 c.toNat
  else c.toString

def quote (s : String) : String :=
  "\"" ++ String.join (s.toList.map escape) ++ "\""

def indent (depth : Nat) : String := "\n" ++ String.ofList (List.replicate (2 * depth) ' ')

/-- Items between an opening and a closing mark, one to a line. -/
def block (opening closing : String) (depth : Nat) (items : List String) : String :=
  match items with
  | [] => opening ++ closing
  | _ =>
    opening ++ String.intercalate "," (items.map (indent (depth + 1) ++ ·)) ++ indent depth ++ closing

mutual

def render (depth : Nat) : Json → String
  | null => "null"
  | flag b => if b then "true" else "false"
  | count n => toString n
  | real x => layout.render x
  | text s => quote s
  | list items => block "[" "]" depth (renderItems (depth + 1) items)
  | object members => block "\x7b" "\x7d" depth (renderMembers (depth + 1) members)

def renderItems (depth : Nat) : List Json → List String
  | [] => []
  | item :: rest => item.render depth :: renderItems depth rest

def renderMembers (depth : Nat) : List (String × Json) → List String
  | [] => []
  | (key, value) :: rest =>
    (quote key ++ ": " ++ value.render depth) :: renderMembers depth rest

end

end Json

end Multipath
