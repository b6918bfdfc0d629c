import Multipath.Proofs.Runs

/-! # The history of a ramp

The weight of a circuit grows with its clean windows. Windows are not told as events, so the history of
a ramp has marks of its own: the windows that were judged, the growth that they gave, and whatever made
the ramp start over. `Run.marks` reads them off the moves of a run.

A history has `Earned` a streak when its last windows were that many clean ones and nothing but growth
lies between them. A streak can be older than its ramp after a lapse: a circuit was rescued that was
not cooling down, or the clock ran round and a cooldown that was over began anew. The ramp goes on from
either with whatever was counted before. In a `Mended` history it has started over since.
-/

namespace Multipath

/-- What bears on the ramp of one circuit. -/
inductive Mark where
  | window (clean : Bool)
  /-- The window before this mark let the weight grow. -/
  | grew
  /-- A cooldown began, a quarantine was left, or a new path came up. -/
  | restart
  /-- Forced back into service, out of a running cooldown or not. -/
  | rescued (cooling : Bool)
  /-- A cooldown that was over runs again. -/
  | revived
  deriving DecidableEq, Repr

/-- A clean window, or growth. -/
def Mark.clean : Mark → Bool
  | window true | grew => true
  | _ => false

def Mark.lapse : Mark → Bool
  | rescued false | revived => true
  | _ => false

/-- The last `n` windows were clean, and the ramp has not started over since the first of them. -/
def Earned (marks : List Mark) (n : Nat) : Prop :=
  ∃ older recent, marks = older ++ recent ∧ (∀ m ∈ recent, m.clean = true) ∧
    n ≤ recent.count (.window true)

/-- Every lapse was followed by a restart. -/
def Mended (marks : List Mark) : Prop :=
  ∀ older m since, marks = older ++ m :: since → m.lapse = true → .restart ∈ since

/-- Whenever the weight grew, as many windows had been clean. -/
def Honest (n : Nat) (marks : List Mark) : Prop :=
  ∀ past since, marks = past ++ .grew :: since → Mended past → Earned past n

namespace Earned

variable {marks : List Mark} {n : Nat}

theorem zero (marks : List Mark) : Earned marks 0 :=
  ⟨marks, [], by simp, by simp, Nat.zero_le _⟩

theorem mono {m : Nat} (earned : Earned marks n) (le : m ≤ n) : Earned marks m := by
  obtain ⟨older, recent, split, clean, enough⟩ := earned
  exact ⟨older, recent, split, clean, Nat.le_trans le enough⟩

theorem window (earned : Earned marks n) : Earned (marks ++ [.window true]) (n + 1) := by
  obtain ⟨older, recent, rfl, clean, enough⟩ := earned
  refine ⟨older, recent ++ [.window true], by simp, ?_, ?_⟩
  · simpa [or_imp, forall_and, Mark.clean] using clean
  · have counted : (recent ++ [Mark.window true]).count (.window true) =
        recent.count (.window true) + 1 := by simp
    omega

theorem grew (earned : Earned marks n) : Earned (marks ++ [.grew]) n := by
  obtain ⟨older, recent, rfl, clean, enough⟩ := earned
  refine ⟨older, recent ++ [.grew], by simp, ?_, by simpa using enough⟩
  simpa [or_imp, forall_and, Mark.clean] using clean

/-- The clean windows can be counted from the end. -/
theorem iff_count :
    Earned marks n ↔ n ≤ (marks.reverse.takeWhile Mark.clean).count (.window true) := by
  constructor
  · rintro ⟨older, recent, rfl, clean, enough⟩
    have first : ∀ m ∈ recent.reverse, m.clean = true := by simpa using clean
    rw [List.reverse_append, List.takeWhile_append_of_pos first, List.count_append,
      List.count_reverse]
    omega
  · intro enough
    refine ⟨(marks.reverse.dropWhile Mark.clean).reverse, (marks.reverse.takeWhile Mark.clean).reverse,
      ?_, ?_, ?_⟩
    · rw [← List.reverse_append, List.takeWhile_append_dropWhile, List.reverse_reverse]
    · intro m mem
      exact List.all_eq_true.1 List.all_takeWhile m (List.mem_reverse.1 mem)
    · rwa [List.count_reverse]

instance : Decidable (Earned marks n) := decidable_of_iff _ iff_count.symm

end Earned

namespace Mended

variable {marks new : List Mark}

/-- What has no restart in it mends nothing. -/
theorem of_append (mended : Mended (marks ++ new)) (plain : .restart ∉ new) : Mended marks := by
  intro older m since split lapse
  have mem : .restart ∈ since ++ new := mended older m (since ++ new) (by simp [split]) lapse
  exact (List.mem_append.1 mem).resolve_right plain

theorem cons_iff {m : Mark} :
    Mended (m :: marks) ↔ (m.lapse = true → .restart ∈ marks) ∧ Mended marks := by
  constructor
  · intro mended
    refine ⟨mended [] m marks rfl, fun older m' since split => ?_⟩
    exact mended (m :: older) m' since (by rw [split, List.cons_append])
  · rintro ⟨first, rest⟩ older m' since split
    cases older with
    | nil =>
        simp only [List.nil_append, List.cons.injEq] at split
        obtain ⟨rfl, rfl⟩ := split
        exact first
    | cons m older =>
        simp only [List.cons_append, List.cons.injEq] at split
        exact rest older m' since split.2

instance decidable : (marks : List Mark) → Decidable (Mended marks)
  | [] => isTrue fun older m since split => by simp at split
  | _ :: marks =>
      have := decidable marks
      decidable_of_iff _ cons_iff.symm

theorem not_of_lapse {m : Mark} (lapse : m.lapse = true) : ¬ Mended (marks ++ [m]) := by
  intro mended
  have mem : Mark.restart ∈ [] := mended marks m [] rfl lapse
  exact List.not_mem_nil mem

end Mended

namespace Honest

variable {marks new : List Mark} {n : Nat}

theorem nil : Honest n [] := by
  intro past since split
  simp at split

theorem append (honest : Honest n marks) (plain : .grew ∉ new) : Honest n (marks ++ new) := by
  intro past since split mended
  -- The growth lies among the new marks, or among the old ones.
  rcases List.append_eq_append_iff.1 split with ⟨mid, -, later⟩ | ⟨mid, earlier, later⟩
  · rw [later] at plain
    simp at plain
  · cases mid with
    | nil =>
        rw [List.nil_append] at later
        rw [← later] at plain
        simp at plain
    | cons m mid =>
        simp only [List.cons_append, List.cons.injEq] at later
        obtain ⟨rfl, -⟩ := later
        exact honest past mid earlier mended

theorem grew (honest : Honest n marks) (earned : Mended marks → Earned marks n) :
    Honest n (marks ++ [.grew]) := by
  intro past since split mended
  rcases List.append_eq_append_iff.1 split with ⟨mid, rfl, later⟩ | ⟨mid, earlier, later⟩
  · cases mid with
    | nil =>
        rw [List.append_nil] at mended ⊢
        exact earned mended
    | cons m mid => simp at later
  · cases mid with
    | nil =>
        rw [List.append_nil] at earlier
        subst earlier
        exact earned mended
    | cons m mid =>
        simp only [List.cons_append, List.cons.injEq] at later
        obtain ⟨rfl, -⟩ := later
        exact honest past mid earlier mended

end Honest

/-! ## Marks of a run -/

/-- What an event marks; `cooling` is whether a cooldown of its circuit was running before. -/
def Event.mark? (cooling : Bool) : Event → Option Mark
  | cooldownTriggered .. | quarantineReleased _ | rebuildSucceeded .. => some .restart
  | rescued _ => some (.rescued cooling)
  | quarantined .. | rebuildRequested .. | rebuildDeferred _ | rebuildFailed .. => none

/-- What events mark for one circuit. -/
def Event.marks (c : Nat) (cooling : Bool) (events : List Event) : List Mark :=
  (events.filter (·.circuit = c)).filterMap (Event.mark? cooling)

def Notice.grows : Notice → Bool
  | rampGrew .. => true
  | _ => false

namespace Turn

def grows (t : Turn) : Bool := t.notices.any Notice.grows

def growth (t : Turn) : List Mark := if t.grows then [.grew] else []

def marks (t : Turn) (cooling : Bool) : List Mark := t.events.filterMap (Event.mark? cooling)

end Turn

namespace Scene

/-- The window of a report, if it is judged. -/
def window (scene : Scene) (report : PeerReport) (h : Health) : List Mark :=
  if scene.phase.settled && decide (scene.minFrames ≤ report.received) then
    [.window ((h.takeReport report).clean scene.settings.cooldown)]
  else []

/-- The marks of a report: its window comes before what is made of it. -/
def reportMarks (scene : Scene) (report : PeerReport) (h : Health) : List Mark :=
  let t := scene.feedback report h
  scene.window report h ++ t.growth ++ t.marks (h.cooling scene.now)

end Scene

namespace Scheduler

def cools (s : Scheduler) (now : Instant) (c : Nat) : Bool :=
  s.circuits[c]?.any (·.cooling now)

def feedbackMarks (s : Scheduler) (now : Instant) (c : Nat) : List (Nat × PeerReport) → List Mark
  | [] => []
  | (circuit, report) :: rest =>
      let own :=
        if circuit = c then s.circuits[c]?.elim [] ((s.scene now c).reportMarks report) else []
      let s := (s.act now circuit "update_from_receiver_feedback" (·.feedback report)).1
      own ++ s.feedbackMarks now c rest

/-- Only feedback opens windows. -/
def marks (s : Scheduler) (now : Instant) (c : Nat) : Operation → List Mark
  | .feedback reports => s.feedbackMarks now c reports
  | .lateness percents =>
      s.feedbackMarks now c (percents.map fun (circuit, late) => (circuit, .lateOnly late))
  | operation => Event.marks c (s.cools now c) (Notice.events (s.step now operation).notices)

end Scheduler

def Transition.marks (c : Nat) (t : Transition) : List Mark :=
  match t.move with
  | .advance _ =>
      if !t.before.scheduler.cools t.before.now c && t.after.scheduler.cools t.after.now c then
        [.revived]
      else []
  | .ask operation => t.before.scheduler.marks t.before.now c operation

def Run.marks (c : Nat) (r : Run) : List Mark := r.transitions.flatMap (Transition.marks c)

/-! ## How marks go together -/

namespace Event

variable {c : Nat} {cooling : Bool} {events : List Event}

theorem mark?_ne_grew (cooling : Bool) (e : Event) : e.mark? cooling ≠ some .grew := by
  cases e <;> simp [mark?]

theorem marks_of_ne (others : ∀ e ∈ events, e.circuit ≠ c) : marks c cooling events = [] := by
  rw [marks, filter_of_ne others, List.filterMap_nil]

theorem marks_of_eq (own : ∀ e ∈ events, e.circuit = c) :
    marks c cooling events = events.filterMap (mark? cooling) := by
  rw [marks, filter_of_eq own]

end Event

namespace Turn

variable {t : Turn} {next : Health → Turn}

theorem marks_plain (t : Turn) (cooling : Bool) : .grew ∉ t.marks cooling := by
  simp only [marks, List.mem_filterMap, not_exists, not_and]
  exact fun e _ => Event.mark?_ne_grew cooling e

theorem marks_andThen (cooling : Bool) :
    (t.andThen next).marks cooling = t.marks cooling ++ (next t.health).marks cooling := by
  simp only [marks, events_andThen, List.filterMap_append]

theorem grows_andThen (t : Turn) (next : Health → Turn) :
    (t.andThen next).grows = (t.grows || (next t.health).grows) :=
  List.any_append

theorem growth_andThen (still : (next t.health).grows = false) :
    (t.andThen next).growth = t.growth := by
  rw [growth, growth, grows_andThen, still, Bool.or_false]

end Turn

namespace Session

end Session

end Multipath
