import Multipath.Toml.Quoted
/-!
# Statements

A document is written as statements, one to a line: a header that opens a table, a doubled header that
opens one more table of a list, and a key with its value. Blanks, empty lines and comments may stand
between statements and between the items of a list, and inside braces also around an equals sign.
-/

namespace Multipath.Toml

inductive Statement where
  | header (path : List String)
  | element (path : List String)
  | assign (path : List String) (value : Node)

def skipBlank (cs : List Char) : List Char := cs.dropWhile isBlank

/-- Passes over blanks, line ends and comments, starting inside a comment or outside. -/
def skipTrivia (inComment : Bool) : List Char → List Char
  | [] => []
  | c :: rest =>
    if inComment && isPlain c then skipTrivia true rest
    else if isBlank c || c = '\n' then skipTrivia false rest
    else if c = '\r' && rest.head? = some '\n' then skipTrivia false rest
    else if c = '#' && !inComment then skipTrivia true rest
    else c :: rest

/-- The rest of a line behind a statement: blanks and a comment, then the end of the line or of the
document. -/
def lineEnd (cs : List Char) : Option (List Char) :=
  let rest := match skipBlank cs with
    | '#' :: rest => rest.dropWhile isPlain
    | rest => rest
  match rest with
  | [] => some []
  | '\n' :: rest => some rest
  | '\r' :: '\n' :: rest => some rest
  | _ => none

def isBare (c : Char) : Bool := c.isAlphanum || c = '_' || c = '-'

/-- One name of a key, bare or quoted on one line. -/
def name : Reader String
  | '"' :: rest => (basic rest).map fun (cs, rest) => (String.ofList cs, rest)
  | '\x27' :: rest => (literal rest).map fun (cs, rest) => (String.ofList cs, rest)
  | cs =>
    let bare := cs.takeWhile isBare
    if bare.isEmpty then none else some (String.ofList bare, cs.dropWhile isBare)

/-- How many names a key may have. -/
def maxNames : Nat := 80

/-- Names with points between them, at most as many as the limit. -/
def dottedKey : Nat → Reader (List String)
  | 0, _ => none
  | limit + 1, cs => do
    let (first, rest) ← name cs
    match skipBlank rest with
    | '.' :: rest =>
      let (others, rest) ← dottedKey limit (skipBlank rest)
      some (first :: others, rest)
    | rest => some ([first], rest)

def key : Reader (List String) := dottedKey maxNames

/-- Items with commas between them, or behind each, up to a closing mark. -/
def items {α : Type} (item : Reader α) (close : Char) : Nat → Reader (List α)
  | 0, _ => none
  | fuel + 1, cs =>
    match skipTrivia false cs with
    | [] => none
    | c :: rest =>
      if c = close then some ([], rest)
      else do
        let (first, rest) ← item (c :: rest)
        match skipTrivia false rest with
        | ',' :: rest =>
          let (others, rest) ← items item close fuel rest
          some (first :: others, rest)
        | c :: rest => if c = close then some ([first], rest) else none
        | [] => none

/-- A list up to its closing mark; every item takes at least one character. -/
def listOf {α : Type} (item : Reader α) (close : Char) : Reader (List α) :=
  fun cs => items item close (cs.length + 1) cs

/-- A key, an equals sign and a value, with what `gap` passes over around the sign. -/
def pair (gap : List Char → List Char) (value : Reader Node) : Reader (List String × Node) :=
  fun cs => do
    let (path, rest) ← key cs
    match gap rest with
    | '=' :: rest =>
      let (node, rest) ← value (gap rest)
      some ((path, node), rest)
    | _ => none

/-- Belongs to an unquoted value, wherever in it. -/
def inRun (c : Char) : Bool :=
  !(isBlank c || c = '\n' || c = '\r' || c = '#' || c = ',' || c = '=' || c = '[' || c = ']' ||
    c = '\x7b' || c = '\x7d')

/-- The next thing behind blanks is one more part of an unquoted value. -/
def goesOn (cs : List Char) : Bool :=
  (skipBlank cs).head?.any fun c => inRun c && !(c = '.' || c = '"' || c = '\x27')

/-- The characters of an unquoted value, with the blanks between its parts, and the rest. -/
def unquoted : List Char → List Char × List Char
  | [] => ([], [])
  | c :: rest =>
    if inRun c || isBlank c && goesOn rest then
      let (more, rest) := unquoted rest
      (c :: more, rest)
    else ([], c :: rest)

/-- A value that is neither a list nor a table. -/
def flat : Reader Node := fun cs =>
  match quoted cs with
  | some r => some r
  | none =>
    let (text, rest) := unquoted cs
    (scalar? text).map (·, rest)

/-- A value with at most `depth` lists and tables inside each other. -/
def value : Nat → Reader Node
  | 0 => flat
  | depth + 1 => fun cs =>
    match cs with
    | '[' :: rest => (listOf (value depth) ']' rest).map fun (nodes, rest) => (.array nodes, rest)
    | '\x7b' :: rest => do
      let (pairs, rest) ← listOf (pair (skipTrivia false) (value depth)) '\x7d' rest
      let entries ← Table.ofPairs pairs
      some (.table .inline entries, rest)
    | cs => flat cs

/-- How deep lists and inline tables may be nested. -/
def maxDepth : Nat := 80

def statement : Reader Statement
  | '[' :: '[' :: rest => do
    let (path, rest) ← key (skipBlank rest)
    match rest with
    | ']' :: ']' :: rest => some (.element path, rest)
    | _ => none
  | '[' :: rest => do
    let (path, rest) ← key (skipBlank rest)
    match rest with
    | ']' :: rest => some (.header path, rest)
    | _ => none
  | cs => (pair skipBlank (value maxDepth) cs).map fun ((path, node), rest) => (.assign path node, rest)

/-- The statements up to the end of the document. -/
def statementsOf : Nat → List Char → Option (List Statement)
  | 0, _ => none
  | fuel + 1, cs =>
    match skipTrivia false cs with
    | [] => some []
    | cs => do
      let (first, rest) ← statement cs
      let others ← statementsOf fuel (← lineEnd rest)
      some (first :: others)

/-- A mark of the byte order at the start of a text is not part of it. -/
def dropMark : List Char → List Char
  | '\uFEFF' :: rest => rest
  | rest => rest

/-- The statements of a text; every statement takes at least one character. -/
def statements? (text : String) : Option (List Statement) :=
  let cs := dropMark text.toList
  statementsOf (cs.length + 1) cs

/-- The table that statements make, from a table and the section that is open. -/
def Table.run : List Statement → List String → Table → Option Table
  | [], _, t => some t
  | .header path :: rest, _, t => do run rest path (← t.openHeader path giveHeader)
  | .element path :: rest, _, t => do run rest path (← t.openHeader path extend)
  | .assign path node :: rest, current, t => do
    run rest current (← inSection (define path node) current t)

def parse? (text : String) : Option Table := do Table.run (← statements? text) [] []

end Multipath.Toml
