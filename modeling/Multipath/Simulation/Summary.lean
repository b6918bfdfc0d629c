import Multipath.Circuit.View
import Multipath.Simulation.Run
/-!
# The report of a simulated call

A report is written as a table for people or as one JSON value. Both give a line to each circuit, the
number of events of each kind, and how the rebuilds went; the single events follow when the scenario
asks for them. When an event happened in wall-clock time is not known to the simulation, so the words
for it are passed in.
-/

namespace Multipath.Simulation

/-- One more of a kind, in the order of the names. -/
def countKind (kind : String) : List (String × Nat) → List (String × Nat)
  | [] => [(kind, 1)]
  | (other, n) :: rest =>
    if kind = other then (other, n + 1) :: rest
    else if kind < other then (kind, 1) :: (other, n) :: rest
    else (other, n) :: countKind kind rest

def column (width : Nat) (text : String) : String :=
  String.ofList (List.replicate (width - text.length) ' ') ++ text

namespace CircuitSummary

/-- Where the circuit stands at the end of the call, in a word. -/
def standing (c : CircuitSummary) : String :=
  if c.view.health.rebuilding then "rebuild"
  else if c.view.health.quarantined then "quarant"
  else if c.view.cooling then "cooldown"
  else "ok"

def cells (c : CircuitSummary) : List String := [
  toString c.view.circuit,
  toString c.tally.selected,
  toString c.tally.sendFailures,
  toString c.tally.lost,
  column 5 (Decimal.fixed 1 (c.loss * 100.0)) ++ "%",
  Decimal.fixed 1 c.view.health.score,
  column 6 (Decimal.fixed 0 (c.view.health.weight * 100.0)) ++ "%",
  c.standing]

def toJson (c : CircuitSummary) : Json := .object [
  ("circuit", .count c.view.circuit),
  ("selected", .count c.tally.selected),
  ("send_failures", .count c.tally.sendFailures),
  ("lost", .count c.tally.lost),
  ("loss", .real c.loss),
  ("reconnects", .count c.reconnects),
  ("health", .object c.view.snapshot)]

end CircuitSummary

namespace Report

def eventCounts (report : Report) : List (String × Nat) :=
  report.events.foldl (fun counts event => countKind event.kind counts) []

def shown (report : Report) : List Event := if report.showEvents then report.events else []

def widths : List Nat := [3, 8, 7, 6, 6, 6, 7, 9]

def headings : List String := ["#", "selected", "sendErr", "lost", "loss", "score", "weight", "state"]

def row (cells : List String) : String :=
  String.intercalate " " ((widths.zip cells).map fun (width, cell) => column width cell)

def lines (report : Report) (time : String) : List String :=
  [s!"call {report.call.text}  {report.seconds}s  {report.frames} frames  phase={report.finalPhase.name}",
    row headings] ++
  report.circuits.map (fun c => row c.cells) ++
  (if report.eventCounts.isEmpty then []
    else "events:" :: report.eventCounts.map fun (kind, n) => s!"  {kind}: {n}") ++
  [s!"rebuilds: {report.rebuilt} ok, {report.failed} failed, {report.discarded} discarded"] ++
  report.shown.map fun event => s!"  {time} {event.kind} circuit={event.circuit}"

def toText (report : Report) (time : String) : String :=
  String.join ((report.lines time).map (· ++ "\n"))

def toJson (report : Report) (time : String) : Json := .object <|
  [("call_id", .text report.call.text),
    ("duration_secs", .count report.seconds),
    ("frames", .count report.frames),
    ("final_phase", .text report.finalPhase.name),
    ("circuits", .list (report.circuits.map CircuitSummary.toJson)),
    ("event_counts", .object (report.eventCounts.map fun (kind, n) => (kind, .count n))),
    ("rebuilds", .object [
      ("rebuilt", .count report.rebuilt),
      ("failed", .count report.failed),
      ("discarded", .count report.discarded)])] ++
  if report.shown.isEmpty then []
  else [("events", .list (report.shown.map fun event => .object (("at", .text time) :: event.members)))]

end Report

/-! The count of a kind is the number of its events. -/

def countOf (kind : String) (counts : List (String × Nat)) : Nat := (counts.lookup kind).getD 0

theorem countOf_cons (kind other : String) (n : Nat) (rest : List (String × Nat)) :
    countOf kind ((other, n) :: rest) = if other = kind then n else countOf kind rest := by
  by_cases same : other = kind
  · simp [countOf, same]
  · have unequal : (kind == other) = false := by simpa using Ne.symm same
    simp [countOf, List.lookup_cons, unequal, same]

theorem countOf_of_not_mem {kind : String} {counts : List (String × Nat)}
    (new : ∀ item ∈ counts, item.1 ≠ kind) : countOf kind counts = 0 := by
  induction counts with
  | nil => rfl
  | cons item rest ih =>
      rw [countOf_cons, if_neg (new item List.mem_cons_self)]
      exact ih fun item' mem => new item' (List.mem_cons_of_mem _ mem)

/-- Kinds in the order of their names, each once. -/
def Ascending (counts : List (String × Nat)) : Prop := counts.Pairwise fun a b => a.1 < b.1

theorem mem_countKind {kind : String} {counts : List (String × Nat)} {item : String × Nat}
    (mem : item ∈ countKind kind counts) : item.1 = kind ∨ ∃ item' ∈ counts, item'.1 = item.1 := by
  induction counts with
  | nil =>
      rw [List.mem_singleton.1 mem]
      exact .inl rfl
  | cons first rest ih =>
      obtain ⟨other, n⟩ := first
      unfold countKind at mem
      split at mem
      · rename_i same
        rcases List.mem_cons.1 mem with rfl | later
        · exact .inl same.symm
        · exact .inr ⟨item, List.mem_cons_of_mem _ later, rfl⟩
      · split at mem
        · rcases List.mem_cons.1 mem with rfl | later
          · exact .inl rfl
          · exact .inr ⟨item, later, rfl⟩
        · rcases List.mem_cons.1 mem with rfl | later
          · exact .inr ⟨_, List.mem_cons_self, rfl⟩
          · exact (ih later).imp_right fun ⟨item', mem', same⟩ =>
              ⟨item', List.mem_cons_of_mem _ mem', same⟩

theorem ascending_countKind {counts : List (String × Nat)} (ascending : Ascending counts)
    (kind : String) : Ascending (countKind kind counts) := by
  induction counts with
  | nil => exact List.pairwise_singleton ..
  | cons first rest ih =>
      obtain ⟨other, n⟩ := first
      obtain ⟨above, rest_⟩ := List.pairwise_cons.1 ascending
      unfold countKind
      split
      · exact List.pairwise_cons.2 ⟨above, rest_⟩
      · rename_i unequal
        split
        · rename_i below
          refine List.pairwise_cons.2 ⟨fun item mem => ?_, ascending⟩
          rcases List.mem_cons.1 mem with rfl | later
          · exact below
          · exact String.lt_trans below (above item later)
        · rename_i unbelow
          refine List.pairwise_cons.2 ⟨fun item mem => ?_, ih rest_⟩
          rcases mem_countKind mem with same | ⟨item', mem', same⟩
          · rw [same]
            exact Std.lt_of_le_of_ne (String.not_lt.1 unbelow) (Ne.symm unequal)
          · rw [← same]
            exact above item' mem'

theorem countOf_countKind {counts : List (String × Nat)} (ascending : Ascending counts)
    (kind kind' : String) :
    countOf kind (countKind kind' counts) = countOf kind counts + if kind' = kind then 1 else 0 := by
  induction counts with
  | nil =>
      have none_ : countOf kind [] = 0 := rfl
      rw [countKind, countOf_cons, none_, Nat.zero_add]
  | cons first rest ih =>
      obtain ⟨other, n⟩ := first
      obtain ⟨above, rest_⟩ := List.pairwise_cons.1 ascending
      unfold countKind
      split
      · rename_i same
        subst same
        simp only [countOf_cons]
        split <;> rfl
      · rename_i unequal
        split
        · rename_i below
          have new : ∀ item ∈ (other, n) :: rest, item.1 ≠ kind' := by
            intro item mem same
            rcases List.mem_cons.1 mem with rfl | later
            · exact unequal same.symm
            · have further : kind' < item.1 := String.lt_trans below (above item later)
              exact String.lt_irrefl kind' (same ▸ further)
          rw [countOf_cons]
          split
          · rename_i same
            rw [← same, countOf_of_not_mem new]
          · rfl
        · rw [countOf_cons, countOf_cons, ih rest_]
          split
          · rename_i same
            rw [if_neg (same ▸ unequal), Nat.add_zero]
          · rfl

namespace Report

/-- How many events of a kind there were. -/
def told (report : Report) (kind : String) : Nat := report.events.countP fun e => e.kind = kind

theorem countOf_eventCounts (report : Report) (kind : String) :
    countOf kind report.eventCounts = report.told kind := by
  have counted : ∀ (events : List Event) (counts : List (String × Nat)), Ascending counts →
      countOf kind (events.foldl (fun counts event => countKind event.kind counts) counts) =
        countOf kind counts + events.countP fun e => e.kind = kind := by
    intro events
    induction events with
    | nil => exact fun _ _ => rfl
    | cons e rest ih =>
        intro counts ascending
        rw [List.foldl_cons, ih _ (ascending_countKind ascending e.kind),
          countOf_countKind ascending, List.countP_cons, Nat.add_assoc]
        simp only [decide_eq_true_eq, Nat.add_comm]
  exact (counted report.events [] .nil).trans (Nat.zero_add _)

end Report

end Multipath.Simulation
