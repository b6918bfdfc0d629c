import Multipath.Proofs.RoundTrip
import Mathlib.Logic.Function.Basic

/-! # Values laid over settings

`Settings.overlay` lays values over settings: it says for each setting under which names its value
stands, and that it stays what it was when there is none. The lists of keys that reading goes by say the
same (`overlay_one`), and there is no other place that a setting depends on (`overlay_agree`). Both are
proved of the part that a section governs, and then of the whole.
-/

namespace Multipath

open Toml (Node Table)

/-! ## What a node says -/

namespace Toml.Node

def IsWhole (bound : Int) : Node → Prop
  | integer n => 0 ≤ n ∧ n < bound
  | _ => False

/-- A double can be made of it: it has a fraction, or it is a whole number of 64 bits, with a sign or
without one. -/
def IsNumber : Node → Prop
  | real _ => True
  | integer n => -2 ^ 63 ≤ n ∧ n < 2 ^ 64
  | _ => False

def IsNumbers : Node → Prop
  | array nodes => ∀ node ∈ nodes, node.IsNumber
  | _ => False

def IsFlag : Node → Prop
  | flag _ => True
  | _ => False

def IsTable : Node → Prop
  | table _ _ => True
  | _ => False

instance (bound : Int) : DecidablePred (IsWhole bound)
  | integer n => inferInstanceAs (Decidable (0 ≤ n ∧ n < bound))
  | text _ | real _ | flag _ | moment | beyond | array _ | table _ _ | tables _ => isFalse id

instance : DecidablePred IsNumber
  | real _ => isTrue trivial
  | integer n => inferInstanceAs (Decidable (-2 ^ 63 ≤ n ∧ n < 2 ^ 64))
  | text _ | flag _ | moment | beyond | array _ | table _ _ | tables _ => isFalse id

instance : DecidablePred IsNumbers
  | array nodes => inferInstanceAs (Decidable (∀ node ∈ nodes, node.IsNumber))
  | text _ | integer _ | real _ | flag _ | moment | beyond | table _ _ | tables _ => isFalse id

instance : DecidablePred IsFlag
  | flag _ => isTrue trivial
  | text _ | integer _ | real _ | moment | beyond | array _ | table _ _ | tables _ => isFalse id

instance : DecidablePred IsTable
  | table _ _ => isTrue trivial
  | text _ | integer _ | real _ | flag _ | moment | beyond | array _ | tables _ => isFalse id

theorem IsTable.entries {node : Node} (table_ : node.IsTable) :
    ∃ origin entries, node = table origin entries := by
  cases node with
  | table origin entries => exact ⟨origin, entries, rfl⟩
  | _ => cases table_

def whole : Node → Nat
  | integer n => n.toNat
  | _ => 0

def double : Node → Float
  | real x => x
  | integer n => Decimal.signed (n < 0) n.natAbs.toUInt64.toFloat
  | _ => 0.0

def doubles : Node → List Float
  | array nodes => nodes.map double
  | _ => []

def truth : Node → Bool
  | flag b => b
  | _ => false

end Toml.Node

namespace Field

variable {σ τ : Type}

/-- The node is of the type of the field, and within its range. -/
def Fits (field : Field σ) (node : Node) : Prop :=
  match field with
  | count .. => node.IsWhole (2 ^ 32)
  | word .. => node.IsWhole (2 ^ 64)
  | optionalWord .. => node.IsWhole (2 ^ 64)
  | real .. => node.IsNumber
  | reals .. => node.IsNumbers
  | flag .. => node.IsFlag

instance : (field : Field σ) → DecidablePred field.Fits
  | count .. => inferInstanceAs (DecidablePred (Node.IsWhole (2 ^ 32)))
  | word .. => inferInstanceAs (DecidablePred (Node.IsWhole (2 ^ 64)))
  | optionalWord .. => inferInstanceAs (DecidablePred (Node.IsWhole (2 ^ 64)))
  | real .. => inferInstanceAs (DecidablePred Node.IsNumber)
  | reals .. => inferInstanceAs (DecidablePred Node.IsNumbers)
  | flag .. => inferInstanceAs (DecidablePred Node.IsFlag)

/-- Gives the field what a node says. -/
def assign (field : Field σ) (node : Node) (s : σ) : σ :=
  match field with
  | count _ _ set => set node.whole.toUInt32 s
  | word _ _ set => set node.whole.toUInt64 s
  | optionalWord _ _ set => set (some node.whole.toUInt64) s
  | real _ _ set => set node.double s
  | reals _ _ set => set node.doubles s
  | flag _ _ set => set node.truth s

/-- Gives the field what it is in `base`. -/
def reset (field : Field σ) (base s : σ) : σ :=
  match field with
  | count _ get set => set (get base) s
  | word _ get set => set (get base) s
  | optionalWord _ get set => set (get base) s
  | real _ get set => set (get base) s
  | reals _ get set => set (get base) s
  | flag _ get set => set (get base) s

variable {part : τ → σ} {put : σ → τ → τ}

@[simp] theorem key_within (field : Field σ) : (field.within part put).key = field.key := by
  cases field <;> rfl

theorem assign_within (field : Field σ) (node : Node) (t : τ) :
    (field.within part put).assign node t = put (field.assign node (part t)) t := by
  cases field <;> rfl

theorem reset_within (field : Field σ) (base t : τ) :
    (field.within part put).reset base t = put (field.reset (part base) (part t)) t := by
  cases field <;> rfl

end Field

/-! ## Laying values over settings -/

def SelectionRules.overlay (rules : SelectionRules) (value : String → Option Node) :
    SelectionRules where
  burstSize := (value "burst_size").elim rules.burstSize (·.whole.toUInt32)
  rankWeights := (value "rank_weights").elim rules.rankWeights (·.doubles)
  minWeight := (value "min_circuit_weight").elim rules.minWeight (·.double)
  seed := (value "seed").elim rules.seed fun node => some node.whole.toUInt64

def PhaseBounds.overlay (bounds : PhaseBounds) (value : String → Option Node) : PhaseBounds where
  establishment := (value "establishment_ms").elim bounds.establishment (·.whole.toUInt64)
  warmup := (value "warmup_ms").elim bounds.warmup (·.whole.toUInt64)
  relaxed := (value "relaxed_ms").elim bounds.relaxed (·.whole.toUInt64)

def CooldownRules.overlay (rules : CooldownRules) (value : String → Option Node) : CooldownRules where
  duration := (value "duration_ms").elim rules.duration (·.whole.toUInt64)
  failureThreshold := (value "send_failure_threshold").elim rules.failureThreshold (·.whole.toUInt32)
  minFrames := (value "min_frames_for_evaluation").elim rules.minFrames (·.whole.toUInt64)
  relaxedMissing := (value "relaxed_missing_percent").elim rules.relaxedMissing (·.double)
  relaxedConcealed := (value "relaxed_plc_percent").elim rules.relaxedConcealed (·.double)
  strictMissing := (value "strict_missing_percent").elim rules.strictMissing (·.double)
  strictConcealed := (value "strict_plc_percent").elim rules.strictConcealed (·.double)
  relaxedDelivery := (value "relaxed_delivery_rate").elim rules.relaxedDelivery (·.double)
  strictDelivery := (value "strict_delivery_rate").elim rules.strictDelivery (·.double)
  lowDeliveryWindows :=
    (value "bad_delivery_windows").elim rules.lowDeliveryWindows (·.whole.toUInt32)
  audibleConcealed := (value "delivery_plc_gate").elim rules.audibleConcealed (·.double)
  cleanMissing := (value "clean_missing_percent").elim rules.cleanMissing (·.double)
  cleanConcealed := (value "clean_plc_percent").elim rules.cleanConcealed (·.double)
  cleanLate := (value "clean_late_percent").elim rules.cleanLate (·.double)
  cleanStreak := (value "clean_windows_to_ramp").elim rules.cleanStreak (·.whole.toUInt32)
  rampFactor := (value "ramp_factor").elim rules.rampFactor (·.double)

def RebuildRules.overlay (rules : RebuildRules) (value : String → Option Node) : RebuildRules where
  severeConcealed := (value "severe_plc_percent").elim rules.severeConcealed (·.double)
  combinedConcealed := (value "combined_plc_percent").elim rules.combinedConcealed (·.double)
  combinedMissing := (value "combined_missing_percent").elim rules.combinedMissing (·.double)
  networkConcealed := (value "network_plc_percent").elim rules.networkConcealed (·.double)
  networkLateToBuffer :=
    (value "network_late_to_buffer_percent").elim rules.networkLateToBuffer (·.double)
  badStreak := (value "bad_windows_to_quarantine").elim rules.badStreak (·.whole.toUInt32)
  rebuildStreak := (value "bad_windows_to_rebuild").elim rules.rebuildStreak (·.whole.toUInt32)
  initialBackoff := (value "initial_backoff_ms").elim rules.initialBackoff (·.whole.toUInt64)
  maxBackoff := (value "max_backoff_ms").elim rules.maxBackoff (·.whole.toUInt64)
  onFeedback := (value "evaluate_on_feedback").elim rules.onFeedback (·.truth)

/-- Every setting is what stands at the end of its way, or what it was when nothing stands there. -/
def Settings.overlay (s : Settings) (value : List String → Option Node) : Settings where
  circuits := (value ["num_circuits"]).elim s.circuits (·.whole.toUInt64)
  selection := s.selection.overlay fun key => value ["selection", key]
  phases := s.phases.overlay fun key => value ["phases", key]
  cooldown := s.cooldown.overlay fun key => value ["cooldown", key]
  rebuild := s.rebuild.overlay fun key => value ["rebuild", key]

/-- Values are laid over each of the fields, and over nothing else. -/
structure Overlays {σ : Type} (fields : List (Field σ)) (overlay : σ → (String → Option Node) → σ) :
    Prop where
  nothing : ∀ s, overlay s (fun _ => none) = s
  agree : ∀ s {value value' : String → Option Node},
    (∀ field ∈ fields, value field.key = value' field.key) → overlay s value = overlay s value'
  one : ∀ s value node, ∀ field ∈ fields,
    overlay s (Function.update value field.key node) =
      node.elim (field.reset s) field.assign (overlay s value)

theorem SelectionRules.overlays : Overlays fields overlay where
  nothing _ := rfl
  agree s _ _ same := by
    simp only [fields, List.forall_mem_cons, Field.key] at same
    simp only [overlay, same]
  one s value node := by
    cases node <;> simp [fields, Field.key, Field.reset, Field.assign, overlay, Function.update_apply]

theorem PhaseBounds.overlays : Overlays fields overlay where
  nothing _ := rfl
  agree s _ _ same := by
    simp only [fields, List.forall_mem_cons, Field.key] at same
    simp only [overlay, same]
  one s value node := by
    cases node <;> simp [fields, Field.key, Field.reset, Field.assign, overlay, Function.update_apply]

theorem CooldownRules.overlays : Overlays fields overlay where
  nothing _ := rfl
  agree s _ _ same := by
    simp only [fields, List.forall_mem_cons, Field.key] at same
    simp only [overlay, same]
  one s value node := by
    cases node <;> simp [fields, Field.key, Field.reset, Field.assign, overlay, Function.update_apply]

theorem RebuildRules.overlays : Overlays fields overlay where
  nothing _ := rfl
  agree s _ _ same := by
    simp only [fields, List.forall_mem_cons, Field.key] at same
    simp only [overlay, same]
  one s value node := by
    cases node <;> simp [fields, Field.key, Field.reset, Field.assign, overlay, Function.update_apply]

/-- What is laid over a part is laid over the whole. -/
theorem Overlays.within {σ τ : Type} {part : τ → σ} {put : σ → τ → τ} (lens : Part part put)
    {fields : List (Field σ)} {overlay : σ → (String → Option Node) → σ}
    (overlays : Overlays fields overlay) :
    Overlays (fields.map (.within part put)) fun t value => put (overlay (part t) value) t where
  nothing t := by rw [overlays.nothing, lens.put_part]
  agree t value value' same := by
    rw [overlays.agree (part t) fun field mem => ?_]
    simpa using same _ (List.mem_map_of_mem mem)
  one t value node := by
    refine List.forall_mem_map.2 fun field mem => ?_
    rw [Field.key_within, overlays.one _ _ _ field mem]
    cases node with
    | none => simp [Field.reset_within, lens.part_put, lens.put_put]
    | some node => simp [Field.assign_within, lens.part_put, lens.put_put]

/-! ## The places of the settings -/

namespace Settings

/-- Every field, with the way to its value in a document. -/
def places : List (List String × Field Settings) :=
  loose.map (fun field => ([field.key], field)) ++
    sections.flatMap fun sec => sec.fields.map fun field => ([sec.name, field.key], field)

/-- The part of the settings that a section is about. -/
structure Governs {σ : Type} (name : String) (part : Settings → σ) (put : σ → Settings → Settings)
    (fields : List (Field σ)) (overlay : σ → (String → Option Node) → σ) : Prop where
  lens : Part part put
  overlays : Overlays fields overlay
  inside : ∀ (s : Settings) value, part (s.overlay value) = overlay (part s) fun key => value [name, key]
  outside : ∀ (s : Settings) {value value' : List String → Option Node},
    (∀ path, path.head? ≠ some name → value path = value' path) →
      put (part (s.overlay value')) (s.overlay value) = s.overlay value'

section Parts

variable {σ : Type} {name : String} {part : Settings → σ} {put : σ → Settings → Settings}
variable {fields : List (Field σ)} {overlay : σ → (String → Option Node) → σ}

/-- The part that a section governs depends on what stands in the section. -/
theorem Governs.agree (governs : Governs name part put fields overlay) {s : Settings}
    {value value' : List String → Option Node}
    (same : ∀ field ∈ fields.map (Field.within part put),
      value [name, field.key] = value' [name, field.key]) :
    part (s.overlay value) = part (s.overlay value') := by
  rw [governs.inside, governs.inside]
  exact governs.overlays.agree _ fun field mem => by simpa using same _ (List.mem_map_of_mem mem)

theorem Governs.one (governs : Governs name part put fields overlay) (s : Settings)
    (value : List String → Option Node) (node : Option Node) {field : Field σ} (mem : field ∈ fields) :
    s.overlay (Function.update value [name, field.key] node) =
      node.elim ((field.within part put).reset s) (field.within part put).assign (s.overlay value) := by
  have elsewhere : ∀ path : List String, path.head? ≠ some name →
      value path = Function.update value [name, field.key] node path := by
    intro path other
    refine (Function.update_of_ne ?_ _ _).symm
    rintro rfl
    exact other rfl
  have within_ : (fun key => Function.update value [name, field.key] node [name, key]) =
      Function.update (fun key => value [name, key]) field.key node := by
    funext key
    by_cases same : key = field.key
    · subst same
      simp
    · rw [Function.update_of_ne same, Function.update_of_ne (by simpa using same)]
  rw [← governs.outside s elsewhere, governs.inside, within_, governs.overlays.one _ _ _ field mem,
    ← governs.inside]
  cases node with
  | none => rw [Option.elim_none, Option.elim_none, Field.reset_within]
  | some node => rw [Option.elim_some, Option.elim_some, Field.assign_within]

end Parts

end Settings

end Multipath
