/-!
# Documents as trees

A document is a table of named nodes. Tables remember how they came to be, because that decides
whether they may still grow: a table with its own header is closed to dotted keys, one that was only
implied by a longer header may still get its own until a dotted key passes it, and an inline table is
closed for good.

There are two ways into a document: `inSection` is the way of a header, and `define` the way of a
dotted key.
-/

namespace Multipath.Toml

/-- How a table came to be. -/
inductive Origin where
  | inline
  /-- By its own header. -/
  | header
  /-- On the way to a table with a longer header. -/
  | implied
  /-- On the way to a dotted key. A header may go through it but not name it. -/
  | dotted
  deriving DecidableEq, Repr

inductive Node where
  | text (s : String)
  | integer (n : Int)
  | real (x : Float)
  | flag (b : Bool)
  /-- A date, a time, or both. Nothing here reads one, so only its place is kept. -/
  | moment
  /-- Written as a number is, but no number type holds it. It is an error to look at it. -/
  | beyond
  | array (items : List Node)
  | table (origin : Origin) (entries : List (String × Node))
  /-- Tables of one name, each with its own header, in order. -/
  | tables (elements : List (List (String × Node)))

/-- Entries in the order of their first mention. -/
abbrev Table := List (String × Node)

namespace Node

mutual

/-- Nothing in the node is beyond the number types. -/
def readable : Node → Bool
  | beyond => false
  | array items => readableAll items
  | table _ entries => readableEntries entries
  | tables elements => readableTables elements
  | _ => true

def readableAll : List Node → Bool
  | [] => true
  | node :: rest => node.readable && readableAll rest

def readableEntries : List (String × Node) → Bool
  | [] => true
  | (_, node) :: rest => node.readable && readableEntries rest

def readableTables : List (List (String × Node)) → Bool
  | [] => true
  | entries :: rest => readableEntries entries && readableTables rest

end

end Node

namespace Table

def replace (t : Table) (key : String) (node : Node) : Table :=
  t.map fun entry => if entry.1 = key then (key, node) else entry

def put (key : String) (node : Node) (t : Table) : Option Table :=
  if (t.lookup key).isSome then none else some (t ++ [(key, node)])

/-- A dotted key gets its value. The tables on its way have no header of their own, and are from then
on tables of dotted keys. It may go through the last table of a list, but adds no name to that table
itself. -/
def define : List String → Node → Table → Option Table
  | [], _, _ => none
  | [key], node, t => put key node t
  | key :: path, node, t =>
    match t.lookup key with
    | none => do
      let inner ← define path node []
      some (t ++ [(key, .table .dotted inner)])
    | some (.table origin entries) => do
      if origin = .implied || origin = .dotted then
        let inner ← define path node entries
        some (t.replace key (.table .dotted inner))
      else none
    | some (.tables elements) => do
      if path.length = 1 then none
      else
        let inner ← define path node (← elements.getLast?)
        some (t.replace key (.tables (elements.dropLast ++ [inner])))
    | some _ => none

/-- Changes the table that a header names. The way to it is through every table but an inline one, and
through a list of tables at its last one. -/
def inSection (change : Table → Option Table) : List String → Table → Option Table
  | [], t => change t
  | key :: path, t =>
    match t.lookup key with
    | none => do
      let inner ← inSection change path []
      some (t ++ [(key, .table .implied inner)])
    | some (.table origin entries) => do
      if origin = .inline then none
      else
        let inner ← inSection change path entries
        some (t.replace key (.table origin inner))
    | some (.tables elements) => do
      let inner ← inSection change path (← elements.getLast?)
      some (t.replace key (.tables (elements.dropLast ++ [inner])))
    | some _ => none

/-- The table under a name gets its header, once. -/
def giveHeader (key : String) (t : Table) : Option Table :=
  match t.lookup key with
  | none => some (t ++ [(key, .table .header [])])
  | some (.table .implied entries) => some (t.replace key (.table .header entries))
  | some _ => none

/-- One more table in the list under a name. -/
def extend (key : String) (t : Table) : Option Table :=
  match t.lookup key with
  | none => some (t ++ [(key, .tables [[]])])
  | some (.tables elements) => some (t.replace key (.tables (elements ++ [[]])))
  | some _ => none

/-- The last name of a header is the one that `change` is about. -/
def openHeader (path : List String) (change : String → Table → Option Table) (t : Table) :
    Option Table := do
  let key ← path.getLast?
  inSection (change key) path.dropLast t

def ofPairs (pairs : List (List String × Node)) : Option Table :=
  pairs.foldlM (fun t (path, node) => define path node t) []

end Table

end Multipath.Toml
