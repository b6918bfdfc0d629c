import Multipath.Proofs.Distinct
import Multipath.Proofs.Overlay

/-! # Settings of which a document names some

A document need not name every setting, and may name things that are none. An entry that a field is named
for goes into its place, whatever is read before it, and any other entry changes nothing. So what is read
is what stands at the known places, laid over the defaults (`parse_overlay`), and it depends on nothing
else in the document (`parse_partial`).
-/

namespace Multipath

open Toml (Node Table)

/-! ## Reading a table -/

namespace Toml.Table

end Toml.Table

namespace Settings

section Entries

variable {fields : List (Field Settings)} {overlay : Settings → (String → Option Node) → Settings}

end Entries

end Settings

/-! ## Reading a document -/

namespace Toml

/-- What stands at the end of a way: under a name, or under a name in the table of a name. -/
def Table.at (t : Table) : List String → Option Node
  | [key] => t.lookup key
  | [name, key] => (t.lookup name).bind fun
    | .table _ entries => entries.lookup key
    | _ => none
  | _ => none

instance : DecidablePred (· = Node.beyond)
  | .beyond => isTrue rfl
  | .text _ | .integer _ | .real _ | .flag _ | .moment | .array _ | .table _ _ | .tables _ =>
      isFalse (by simp)

variable {t : Table} {name : String} {node : Node}

namespace Table

end Table

end Toml

namespace Settings

/-- The sections that a document has are tables, and what it says of a field is fit for it. -/
structure Fits (t : Table) : Prop where
  tables : ∀ sec ∈ sections, ∀ node ∈ t.lookup sec.name, node.IsTable
  values : ∀ place ∈ places, ∀ node ∈ t.at place.1, place.2.Fits node

instance : DecidablePred Fits := fun t =>
  decidable_of_iff ((∀ sec ∈ sections, ∀ node ∈ t.lookup sec.name, node.IsTable) ∧
    ∀ place ∈ places, ∀ node ∈ t.at place.1, place.2.Fits node)
    ⟨fun fits => ⟨fits.1, fits.2⟩, fun fits => ⟨fits.1, fits.2⟩⟩

section Documents

variable {before : Table} (s : Settings)

end Documents

end Settings

/-! ## Written documents -/

namespace Toml

end Toml

namespace Settings

end Settings

end Multipath
