import Multipath.Settings.Basic
import Multipath.Text.Json
import Multipath.Toml.Writer
/-!
# Settings files

`Settings.loose` and `Settings.sections` list every key of a settings file with the place of its value
in the settings. Reading and writing both go by these lists. A key that is missing leaves its default,
in a section that is there as in one that is not, and a key that is not listed is passed over, as long
as it holds no number that is beyond all number types. A section may also be written as a list of its
values in the order of its keys.
-/

namespace Multipath

/-- A key and the place of its value. -/
inductive Field (σ : Type) where
  | count (key : String) (get : σ → UInt32) (set : UInt32 → σ → σ)
  | word (key : String) (get : σ → UInt64) (set : UInt64 → σ → σ)
  | optionalWord (key : String) (get : σ → Option UInt64) (set : Option UInt64 → σ → σ)
  | real (key : String) (get : σ → Float) (set : Float → σ → σ)
  | reals (key : String) (get : σ → List Float) (set : List Float → σ → σ)
  | flag (key : String) (get : σ → Bool) (set : Bool → σ → σ)

namespace Field

variable {σ τ : Type}

def key : Field σ → String
  | count key _ _ | word key _ _ | optionalWord key _ _ | real key _ _ | reals key _ _
  | flag key _ _ => key

def within (part : τ → σ) (put : σ → τ → τ) : Field σ → Field τ
  | count key get set => .count key (get ∘ part) fun x t => put (set x (part t)) t
  | word key get set => .word key (get ∘ part) fun x t => put (set x (part t)) t
  | optionalWord key get set => .optionalWord key (get ∘ part) fun x t => put (set x (part t)) t
  | real key get set => .real key (get ∘ part) fun x t => put (set x (part t)) t
  | reals key get set => .reals key (get ∘ part) fun x t => put (set x (part t)) t
  | flag key get set => .flag key (get ∘ part) fun x t => put (set x (part t)) t

def natural? (bound : Nat) : Toml.Node → Option Nat
  | .integer n => if 0 ≤ n && n < bound then some n.toNat else none
  | _ => none

/-- A number with a fraction, or a whole one of at most 64 bits. -/
def real? : Toml.Node → Option Float
  | .real x => some x
  | .integer n =>
    if -(Int.pow 2 63) ≤ n && n < UInt64.size then
      some (Decimal.signed (n < 0) n.natAbs.toUInt64.toFloat)
    else none
  | _ => none

/-- Puts the value of a node into its place, if it is of the field's type. -/
def read (field : Field σ) (node : Toml.Node) (s : σ) : Option σ :=
  match field with
  | count _ _ set => (natural? UInt32.size node).map fun n => set n.toUInt32 s
  | word _ _ set => (natural? UInt64.size node).map fun n => set n.toUInt64 s
  | optionalWord _ _ set => (natural? UInt64.size node).map fun n => set (some n.toUInt64) s
  | real _ _ set => (real? node).map fun x => set x s
  | reals _ _ set =>
    match node with
    | .array nodes => (nodes.mapM real?).map fun xs => set xs s
    | _ => none
  | flag _ _ set =>
    match node with
    | .flag b => some (set b s)
    | _ => none

/-- The key and its value, unless there is none to write. -/
def item (field : Field σ) (s : σ) : Option (String × Toml.Item) :=
  match field with
  | count key get _ => some (key, .integer (get s).toNat)
  | word key get _ => some (key, .integer (get s).toNat)
  | optionalWord key get _ => (get s).map fun n => (key, .integer n.toNat)
  | real key get _ => some (key, .real (get s))
  | reals key get _ => some (key, .reals (get s))
  | flag key get _ => some (key, .flag (get s))

def items (fields : List (Field σ)) (s : σ) : List (String × Toml.Item) :=
  fields.filterMap (·.item s)

end Field

structure Section where
  name : String
  fields : List (Field Settings)

def SelectionRules.fields : List (Field SelectionRules) := [
  .count "burst_size" (·.burstSize) fun x r => { r with burstSize := x },
  .reals "rank_weights" (·.rankWeights) fun x r => { r with rankWeights := x },
  .real "min_circuit_weight" (·.minWeight) fun x r => { r with minWeight := x },
  .optionalWord "seed" (·.seed) fun x r => { r with seed := x }]

def PhaseBounds.fields : List (Field PhaseBounds) := [
  .word "establishment_ms" (·.establishment) fun x r => { r with establishment := x },
  .word "warmup_ms" (·.warmup) fun x r => { r with warmup := x },
  .word "relaxed_ms" (·.relaxed) fun x r => { r with relaxed := x }]

def CooldownRules.fields : List (Field CooldownRules) := [
  .word "duration_ms" (·.duration) fun x r => { r with duration := x },
  .count "send_failure_threshold" (·.failureThreshold) fun x r => { r with failureThreshold := x },
  .word "min_frames_for_evaluation" (·.minFrames) fun x r => { r with minFrames := x },
  .real "relaxed_missing_percent" (·.relaxedMissing) fun x r => { r with relaxedMissing := x },
  .real "relaxed_plc_percent" (·.relaxedConcealed) fun x r => { r with relaxedConcealed := x },
  .real "strict_missing_percent" (·.strictMissing) fun x r => { r with strictMissing := x },
  .real "strict_plc_percent" (·.strictConcealed) fun x r => { r with strictConcealed := x },
  .real "relaxed_delivery_rate" (·.relaxedDelivery) fun x r => { r with relaxedDelivery := x },
  .real "strict_delivery_rate" (·.strictDelivery) fun x r => { r with strictDelivery := x },
  .count "bad_delivery_windows" (·.lowDeliveryWindows) fun x r => { r with lowDeliveryWindows := x },
  .real "delivery_plc_gate" (·.audibleConcealed) fun x r => { r with audibleConcealed := x },
  .real "clean_missing_percent" (·.cleanMissing) fun x r => { r with cleanMissing := x },
  .real "clean_plc_percent" (·.cleanConcealed) fun x r => { r with cleanConcealed := x },
  .real "clean_late_percent" (·.cleanLate) fun x r => { r with cleanLate := x },
  .count "clean_windows_to_ramp" (·.cleanStreak) fun x r => { r with cleanStreak := x },
  .real "ramp_factor" (·.rampFactor) fun x r => { r with rampFactor := x }]

def RebuildRules.fields : List (Field RebuildRules) := [
  .real "severe_plc_percent" (·.severeConcealed) fun x r => { r with severeConcealed := x },
  .real "combined_plc_percent" (·.combinedConcealed) fun x r => { r with combinedConcealed := x },
  .real "combined_missing_percent" (·.combinedMissing) fun x r => { r with combinedMissing := x },
  .real "network_plc_percent" (·.networkConcealed) fun x r => { r with networkConcealed := x },
  .real "network_late_to_buffer_percent" (·.networkLateToBuffer)
    fun x r => { r with networkLateToBuffer := x },
  .count "bad_windows_to_quarantine" (·.badStreak) fun x r => { r with badStreak := x },
  .count "bad_windows_to_rebuild" (·.rebuildStreak) fun x r => { r with rebuildStreak := x },
  .word "initial_backoff_ms" (·.initialBackoff) fun x r => { r with initialBackoff := x },
  .word "max_backoff_ms" (·.maxBackoff) fun x r => { r with maxBackoff := x },
  .flag "evaluate_on_feedback" (·.onFeedback) fun x r => { r with onFeedback := x }]

namespace Settings

/-- The keys above all sections. -/
def loose : List (Field Settings) := [
  .word "num_circuits" (·.circuits) fun x s => { s with circuits := x }]

def sections : List Section := [
  ⟨"selection", SelectionRules.fields.map (.within (·.selection) fun r s => { s with selection := r })⟩,
  ⟨"phases", PhaseBounds.fields.map (.within (·.phases) fun r s => { s with phases := r })⟩,
  ⟨"cooldown", CooldownRules.fields.map (.within (·.cooldown) fun r s => { s with cooldown := r })⟩,
  ⟨"rebuild", RebuildRules.fields.map (.within (·.rebuild) fun r s => { s with rebuild := r })⟩]

inductive TextFault where
  /-- It is no document. -/
  | malformed
  /-- A value is not of the type of its key. -/
  | unfit (key : String)
  deriving DecidableEq, Repr

def TextFault.message : TextFault → String
  | malformed => "not a well-formed settings document"
  | unfit key => s!"invalid value for {key}"

/-- One entry of a table whose keys are listed. -/
def readEntry (fields : List (Field Settings)) (s : Settings) (entry : String × Toml.Node) :
    Except TextFault Settings :=
  match fields.find? (·.key = entry.1) with
  | some field => (field.read entry.2 s).elim (.error (.unfit entry.1)) .ok
  | none => if entry.2.readable then .ok s else .error (.unfit entry.1)

/-- Values without their keys, in the order of the keys. -/
def readInOrder : List (Field Settings) → List Toml.Node → Settings → Except TextFault Settings
  | field :: fields, node :: nodes, s =>
    match field.read node s with
    | some s => readInOrder fields nodes s
    | none => .error (.unfit field.key)
  | _, _, s => .ok s

/-- A section as it may be written: a table, or a list of values. A date in its place names none of
its keys. -/
def readSection (sec : Section) (node : Toml.Node) (s : Settings) : Except TextFault Settings :=
  match node with
  | .table _ entries => entries.foldlM (readEntry sec.fields) s
  | .array nodes => readInOrder sec.fields nodes s
  | .moment => .ok s
  | _ => .error (.unfit sec.name)

/-- One entry of the document. -/
def readTop (s : Settings) (entry : String × Toml.Node) : Except TextFault Settings :=
  match sections.find? (·.name = entry.1) with
  | some sec => readSection sec entry.2 s
  | none => readEntry loose s entry

def ofDocument (document : Toml.Table) : Except TextFault Settings :=
  document.foldlM readTop {}

def parse (text : String) : Except TextFault Settings :=
  match Toml.parse? text with
  | some document => ofDocument document
  | none => .error .malformed

def render (s : Settings) : String :=
  Toml.renderPairs (Field.items loose s) ++
    String.join (sections.map fun sec => Toml.renderSection sec.name (Field.items sec.fields s))

def toJson (s : Settings) : Json :=
  .object ((Field.items loose s).map member ++
    sections.map fun sec => (sec.name, .object ((Field.items sec.fields s).map member)))
where
  member : String × Toml.Item → String × Json
    | (key, .integer n) => (key, .count n)
    | (key, .real x) => (key, .real x)
    | (key, .flag b) => (key, .flag b)
    | (key, .reals xs) => (key, .list (xs.map .real))

end Settings

end Multipath
