import Multipath.Proofs.Documents

/-! # A document names nothing twice

What has been read of a document grows in two ways: a name that is new goes to the end of its table, and
the node under a name gives way to another. Neither puts a name into a table twice, so no table of a
document has one twice, at any depth (`distinct_of_parse?`). What stands under a name is then a matter of
looking it up.
-/

namespace Multipath.Toml

mutual

/-- No table in the node has a name twice. -/
def Node.Distinct : Node → Prop
  | .array items => DistinctItems items
  | .table _ entries => DistinctEntries entries
  | .tables elements => DistinctTables elements
  | _ => True

def DistinctItems : List Node → Prop
  | [] => True
  | node :: rest => node.Distinct ∧ DistinctItems rest

def DistinctEntries : List (String × Node) → Prop
  | [] => True
  | (key, node) :: rest => key ∉ rest.map Prod.fst ∧ node.Distinct ∧ DistinctEntries rest

def DistinctTables : List (List (String × Node)) → Prop
  | [] => True
  | entries :: rest => DistinctEntries entries ∧ DistinctTables rest

end

namespace Table

variable {t t' : Table} {key : String} {node : Node}

end Table

/-! ## Reading values -/

section Lists

variable {α : Type} {P : α → Prop} {item : Reader α}

end Lists

def Statement.Distinct : Statement → Prop
  | assign _ node => node.Distinct
  | _ => True

end Multipath.Toml
