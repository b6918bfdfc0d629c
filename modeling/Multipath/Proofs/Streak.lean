import Multipath.Proofs.Doubles
import Multipath.Proofs.Windows

/-! # What a turn does to a clean streak

The clean streak of a record is a number, and the rules that restart it are many. `Vouched` says when
the number can be relied on: while a cooldown runs it is zero, and below the full weight the history has
earned it.

A turn either starts the streak over or leaves the ramp as it was (`Turn.Spares`); only a window does
more. `Judged` is what it does: growth is earned, and the record is vouched for again.
-/

namespace Multipath

/-- The streak of a record is covered by its history. -/
structure Vouched (now : Instant) (h : Health) (marks : List Mark) : Prop where
  cooled : h.cooling now = true → h.cleanStreak = 0
  earned : 0.0 < h.weight → h.weight < 1.0 → Earned marks h.cleanStreak

theorem Vouched.of_restart {h : Health} (zero : h.cleanStreak = 0) (now : Instant)
    (marks : List Mark) : Vouched now h marks := by
  refine ⟨fun _ => zero, fun _ _ => ?_⟩
  rw [zero]
  exact .zero marks

/-! ## Turns that are no windows -/

namespace Turn

/-- The ramp is as it was, or the weight is gone with it. -/
structure Leaves (t : Turn) (h : Health) : Prop where
  quiet : ∀ cooling, t.marks cooling = []
  streak : t.health.cleanStreak = h.cleanStreak
  cooling : t.health.coolingUntil = h.coolingUntil
  weight : t.health.weight = h.weight ∨ t.health.weight = 0.0

/-- The streak starts over, or nothing happens to the ramp. -/
structure Spares (t : Turn) (h : Health) : Prop where
  still : t.grows = false
  streak : t.health.cleanStreak = 0 ∨ t.Leaves h

variable {t : Turn} {h : Health} {next : Health → Turn} {now : Instant} {marks : List Mark}

theorem Leaves.vouched (leaves : t.Leaves h) (vouched : Vouched now h marks) :
    Vouched now t.health marks := by
  have cooling : t.health.cooling now = h.cooling now := by
    simp only [Health.cooling, leaves.cooling]
  refine ⟨fun running => ?_, fun above below => ?_⟩
  · rw [leaves.streak]
    exact vouched.cooled (cooling ▸ running)
  · rw [leaves.streak]
    rcases leaves.weight with same | gone
    · rw [same] at above below
      exact vouched.earned above below
    · rw [gone] at above
      exact absurd above (by decide)

theorem Spares.vouched (spares : t.Spares h) {cooling : Bool}
    (vouched : Mended marks → Vouched now h marks)
    (mended : Mended (marks ++ t.marks cooling)) :
    Vouched now t.health (marks ++ t.marks cooling) := by
  rcases spares.streak with zero | leaves
  · exact .of_restart zero now _
  · rw [leaves.quiet, List.append_nil] at mended ⊢
    exact leaves.vouched (vouched mended)

theorem marks_of_quiet (quiet : t.events = []) (cooling : Bool) : t.marks cooling = [] := by
  rw [Turn.marks, quiet, List.filterMap_nil]

theorem Spares.restarts (still : t.grows = false) (zero : t.health.cleanStreak = 0) : t.Spares h :=
  ⟨still, .inl zero⟩

theorem Spares.quiet (still : t.grows = false) (quiet : ∀ cooling, t.marks cooling = [])
    (streak : t.health.cleanStreak = h.cleanStreak)
    (cooling : t.health.coolingUntil = h.coolingUntil) (weight : t.health.weight = h.weight) :
    t.Spares h :=
  ⟨still, .inr ⟨quiet, streak, cooling, .inl weight⟩⟩

theorem Leaves.andThen (first : t.Leaves h) (rest : (next t.health).Leaves t.health) :
    (t.andThen next).Leaves h := by
  refine ⟨fun cooling => ?_, rest.streak.trans first.streak, rest.cooling.trans first.cooling, ?_⟩
  · rw [marks_andThen, first.quiet, rest.quiet, List.append_nil]
  · rcases rest.weight with same | gone
    · exact first.weight.imp same.trans same.trans
    · exact .inr gone

theorem Spares.andThen (first : t.Spares h) (rest : (next t.health).Spares t.health) :
    (t.andThen next).Spares h := by
  refine ⟨?_, ?_⟩
  · rw [grows_andThen, first.still, rest.still, Bool.or_false]
  · rcases rest.streak with zero | leaves
    · exact .inl zero
    · rcases first.streak with zero | leaves'
      · exact .inl (leaves.streak.trans zero)
      · exact .inr (leaves'.andThen leaves)

end Turn

namespace Scene

variable (scene : Scene) (h : Health)

/-- A cooldown runs from the moment it begins. -/
theorem coolDown_cooling (lasts : 0 < scene.settings.cooldown.duration.toNat)
    (cause : CooldownCause) : (scene.coolDown cause h).health.cooling scene.now = true := by
  have later : scene.now < scene.now + millis scene.settings.cooldown.duration.toNat :=
    Nat.lt_add_of_pos_right (Nat.mul_pos lasts (by decide))
  simp [coolDown, Health.coolDown, Health.cooling, later]

theorem sendFailed_spares : (scene.sendFailed h).Spares h := by
  obtain ⟨failures, turn | turn⟩ := scene.sendFailed_outcome h
  · rw [turn]
    exact .restarts rfl rfl
  · rw [turn]
    exact .quiet rfl (fun _ => rfl) rfl rfl rfl

theorem quarantine_spares : (scene.quarantine h).Spares h :=
  ⟨rfl, .inr ⟨fun _ => rfl, rfl, rfl, .inr rfl⟩⟩

theorem countWindow_spares (lateToBuffer : Float) : (scene.countWindow lateToBuffer h).Spares h := by
  simp only [countWindow]
  generalize h.badWindow scene.settings.rebuild lateToBuffer = bad
  have kept : let h' := (h.countWindow scene.settings.rebuild bad).1
      h'.cleanStreak = h.cleanStreak ∧ h'.coolingUntil = h.coolingUntil ∧ h'.weight = h.weight :=
    ⟨rfl, rfl, rfl⟩
  generalize h.countWindow scene.settings.rebuild bad = window at kept ⊢
  obtain ⟨h', due⟩ := window
  obtain ⟨streak, cooling, weight⟩ := kept
  have seen : Turn.Spares { health := h', notices :=
      if bad then [.badWindow scene.circuit h'.badStreak h'.concealed h'.missing]
      else if 0 < h.badStreak then [.streakReset scene.circuit h.badStreak]
      else [] } h := by
    split
    · exact .quiet rfl (fun _ => rfl) streak cooling weight
    · split
      · exact .quiet rfl (fun _ => rfl) streak cooling weight
      · exact .quiet rfl (fun _ => rfl) streak cooling weight
  split
  · exact .quiet rfl (fun _ => rfl) rfl rfl rfl
  · split
    · exact seen.andThen (scene.quarantine_spares h')
    · exact seen

theorem requestRebuild_spares : (scene.requestRebuild h).Spares h := by
  unfold requestRebuild
  split
  · exact .quiet rfl (fun _ => rfl) rfl rfl rfl
  · exact .restarts rfl rfl

theorem checkQuarantine_spares : (scene.checkQuarantine h).Spares h := by
  unfold checkQuarantine
  split
  · exact .quiet rfl (fun _ => rfl) rfl rfl rfl
  · exact .restarts rfl rfl
  · exact scene.requestRebuild_spares h

theorem rebuilt_spares (epoch : Nat) : (scene.rebuilt epoch h).Spares h := .restarts rfl rfl

theorem rebuildFailed_spares : (scene.rebuildFailed h).Spares h := by
  unfold rebuildFailed
  split
  · exact ⟨rfl, .inr ⟨fun _ => rfl, rfl, rfl, .inr rfl⟩⟩
  · exact .quiet rfl (fun _ => rfl) rfl rfl rfl

/-- The verdict on a window cools the circuit down, or leaves the ramp alone. -/
theorem judge_cases (lasts : 0 < scene.settings.cooldown.duration.toNat) :
    let t := scene.judge h
    t.grows = false ∧
      (t.health.cleanStreak = 0 ∧ t.health.cooling scene.now = true ∨
        t.events = [] ∧ ∃ lowDeliveries, t.health = { h with lowDeliveries }) := by
  obtain ⟨lowDeliveries, judged⟩ := h.judge_health scene.settings.cooldown scene.phase
  simp only [judge]
  generalize h.judge scene.settings.cooldown scene.phase = verdict at judged ⊢
  obtain ⟨h', cause, low⟩ := verdict
  simp only at judged
  cases cause with
  | none => exact ⟨by cases low <;> rfl, .inr ⟨by cases low <;> rfl, lowDeliveries, judged⟩⟩
  | some cause =>
      cases running : h'.cooling scene.now with
      | true =>
          simp only [running, if_true]
          exact ⟨by cases low <;> rfl, .inr ⟨by cases low <;> rfl, lowDeliveries, judged⟩⟩
      | false =>
          simp only [Bool.false_eq_true, if_false]
          exact ⟨by cases low <;> rfl, .inl ⟨rfl, scene.coolDown_cooling h' lasts cause⟩⟩

end Scene

/-! ## Windows -/

/-- A window of the ramp below the full weight: the streak starts over, or it is one longer and the
weight grows once it is long enough. -/
theorem Health.ramp_cases (h : Health) (rules : CooldownRules) (below : ¬ 1.0 ≤ h.weight) :
    (h.clean rules = false ∧ h.ramp rules = ({ h with cleanStreak := 0 }, false)) ∨
    (h.clean rules = true ∧ ∃ weight, h.ramp rules =
      ({ h with cleanStreak := Counter.bump h.cleanStreak, weight },
        decide (rules.cleanStreak.toNat ≤ Counter.bump h.cleanStreak))) := by
  unfold ramp
  cases clean : h.clean rules with
  | false => exact .inl ⟨rfl, by simp [below]⟩
  | true =>
      right
      by_cases short : Counter.bump h.cleanStreak < rules.cleanStreak.toNat
      · exact ⟨rfl, h.weight, by simp [below, short]⟩
      · have long : rules.cleanStreak.toNat ≤ Counter.bump h.cleanStreak := Nat.le_of_not_lt short
        exact ⟨rfl, lesser (h.weight * rules.rampFactor) 1.0, by simp [below, short, long]⟩

/-- A turn after its window was marked: growth is earned, and the record is vouched for again. -/
structure Judged (n : Nat) (now : Instant) (marks : List Mark) (t : Turn) : Prop where
  earned : t.grows = true → Mended marks → Earned marks n
  vouched : ∀ cooling, Mended (marks ++ t.growth ++ t.marks cooling) →
    Vouched now t.health (marks ++ t.growth ++ t.marks cooling)

theorem Judged.andThen {n : Nat} {now : Instant} {marks : List Mark} {t : Turn}
    {next : Health → Turn} (judged : Judged n now marks t)
    (spares : (next t.health).Spares t.health) : Judged n now marks (t.andThen next) := by
  refine ⟨?_, fun cooling => ?_⟩
  · rw [Turn.grows_andThen, spares.still, Bool.or_false]
    exact judged.earned
  · rw [Turn.growth_andThen spares.still, Turn.marks_andThen, ← List.append_assoc]
    exact spares.vouched (judged.vouched cooling)

/-- Nothing was told before the turn. -/
theorem Judged.behind {n : Nat} {now : Instant} {marks : List Mark} {t : Turn}
    {next : Health → Turn} (still : t.grows = false) (quiet : t.events = [])
    (judged : Judged n now marks (next t.health)) : Judged n now marks (t.andThen next) := by
  have grows : (t.andThen next).grows = (next t.health).grows := by
    rw [Turn.grows_andThen, still, Bool.false_or]
  have growth : (t.andThen next).growth = (next t.health).growth := by
    rw [Turn.growth, grows, Turn.growth]
  refine ⟨fun grown => judged.earned (grows ▸ grown), fun cooling => ?_⟩
  rw [growth, Turn.marks_andThen, Turn.marks_of_quiet quiet, List.nil_append]
  exact judged.vouched cooling

theorem Turn.Spares.judged {n : Nat} {now : Instant} {marks : List Mark} {t : Turn} {h : Health}
    (spares : t.Spares h) (vouched : Mended marks → Vouched now h marks) : Judged n now marks t := by
  have ungrown : t.growth = [] := by simp [Turn.growth, spares.still]
  refine ⟨fun grows => ?_, fun cooling => ?_⟩
  · rw [spares.still] at grows
    cases grows
  · rw [ungrown, List.append_nil]
    exact spares.vouched vouched

namespace Scene

variable (scene : Scene) (h : Health) {marks : List Mark}

/-- Below its full weight, a circuit in service. -/
def Ramps : Prop := h.cooling scene.now = false ∧ 0.0 < h.weight ∧ h.weight < 1.0

theorem ramp_of_ramps (ramps : scene.Ramps h) {h' : Health} {grown : Bool}
    (ramped : h.ramp scene.settings.cooldown = (h', grown)) :
    (scene.ramp h).health = h' ∧ (scene.ramp h).grows = grown := by
  obtain ⟨running, above, below⟩ := ramps
  have run : (!h.cooling scene.now && decide (0.0 < h.weight) && decide (h.weight < 1.0)) = true := by
    simp [running, above, below]
  simp only [ramp, run, if_true, ramped]
  cases grown with
  | true => exact ⟨rfl, rfl⟩
  | false =>
      refine ⟨rfl, ?_⟩
      simp only [Turn.grows]
      split <;> rfl

theorem ramp_of_not_ramps (idle : ¬ scene.Ramps h) : scene.ramp h = { health := h } := by
  refine if_neg fun run => idle ?_
  simpa [Ramps, and_assoc] using run

/-- Nothing is at stake when the ramp is not run, since below its full weight the circuit cools down. -/
theorem ramp_judged_of_idle {n : Nat} {window : List Mark} (idle : ¬ scene.Ramps h)
    (cooled : Mended window → h.cooling scene.now = true → h.cleanStreak = 0) :
    Judged n scene.now window (scene.ramp h) := by
  rw [scene.ramp_of_not_ramps h idle]
  have spares : Turn.Spares { health := h } h := .quiet rfl (fun _ => rfl) rfl rfl rfl
  refine spares.judged fun mended => ⟨cooled mended, fun above below => ?_⟩
  have running : h.cooling scene.now = true := by simpa [Ramps, above, below] using idle
  rw [cooled mended running]
  exact .zero window

/-- One more clean window. -/
theorem ramp_judged_of_clean {weight : Float} {window : List Mark} (ramps : scene.Ramps h)
    (earned : Mended window → Earned window (Counter.bump h.cleanStreak))
    (ramped : h.ramp scene.settings.cooldown =
      ({ h with cleanStreak := Counter.bump h.cleanStreak, weight },
        decide (scene.settings.cooldown.cleanStreak.toNat ≤ Counter.bump h.cleanStreak))) :
    Judged (max 1 scene.settings.cooldown.cleanStreak.toNat) scene.now window (scene.ramp h) := by
  obtain ⟨health, grows⟩ := scene.ramp_of_ramps h ramps ramped
  refine ⟨fun grown mended => ?_, fun cooling mended => ?_⟩
  · rw [grows, decide_eq_true_eq] at grown
    have positive := Counter.bump_pos h.cleanStreak
    exact (earned mended).mono (by omega)
  · have none_ : (scene.ramp h).marks cooling = [] := Turn.marks_of_quiet (scene.ramp_quiet h) cooling
    rw [none_, List.append_nil] at mended ⊢
    rw [health]
    refine ⟨fun running => ?_, fun _ _ => ?_⟩
    · have out : h.cooling scene.now = true := running
      rw [ramps.1] at out
      cases out
    · unfold Turn.growth at mended ⊢
      split
      · rename_i grown
        rw [if_pos grown] at mended
        exact (earned (mended.of_append (by simp))).grew
      · rename_i ungrown
        rw [if_neg ungrown, List.append_nil] at mended
        rw [List.append_nil]
        exact earned mended

/-- A window in which the ramp has its say. -/
theorem ramp_judged (vouched : Mended marks → Vouched scene.now h marks) :
    Judged (max 1 scene.settings.cooldown.cleanStreak.toNat) scene.now
      (marks ++ [.window (h.clean scene.settings.cooldown)]) (scene.ramp h) := by
  have before : ∀ {clean : Bool}, Mended (marks ++ [.window clean]) → Mended marks :=
    fun mended => mended.of_append (by simp)
  by_cases ramps : scene.Ramps h
  · have below := Doubles.not_one_le_of_lt ramps.2.1 ramps.2.2
    rcases h.ramp_cases scene.settings.cooldown below with
      ⟨-, ramped⟩ | ⟨clean, weight, ramped⟩
    · obtain ⟨health, ungrown⟩ := scene.ramp_of_ramps h ramps ramped
      refine ⟨fun grown => ?_, fun _ _ => .of_restart ?_ _ _⟩
      · rw [ungrown] at grown
        cases grown
      · rw [health]
    · rw [clean]
      refine scene.ramp_judged_of_clean h ramps (fun mended => ?_) ramped
      have streak := (vouched (before mended)).earned ramps.2.1 ramps.2.2
      exact streak.window.mono (Nat.min_le_left ..)
  · exact scene.ramp_judged_of_idle h ramps fun mended => (vouched (before mended)).cooled

/-- The first two rules look at a window. -/
theorem judge_ramp_judged (lasts : 0 < scene.settings.cooldown.duration.toNat)
    (vouched : Mended marks → Vouched scene.now h marks) :
    Judged (max 1 scene.settings.cooldown.cleanStreak.toNat) scene.now
      (marks ++ [.window (h.clean scene.settings.cooldown)])
      ((scene.judge h).andThen scene.ramp) := by
  obtain ⟨still, ⟨zero, cooling⟩ | ⟨quiet, lowDeliveries, same⟩⟩ := scene.judge_cases h lasts
  · -- The cooldown has begun in this very window, so that the ramp is not run in it.
    have idle : scene.ramp (scene.judge h).health = { health := (scene.judge h).health } := by
      refine scene.ramp_of_not_ramps _ fun ramps => ?_
      rw [ramps.1] at cooling
      cases cooling
    refine ⟨fun grown => ?_, fun _ _ => .of_restart ?_ _ _⟩
    · rw [Turn.grows_andThen, still, idle] at grown
      cases grown
    · change (scene.ramp (scene.judge h).health).health.cleanStreak = 0
      rw [idle]
      exact zero
  · refine .behind still quiet ?_
    rw [same]
    exact scene.ramp_judged { h with lowDeliveries } fun mended =>
      ⟨(vouched mended).cooled, (vouched mended).earned⟩

/-- All rules look at a window. -/
theorem judgeWindow_judged (lasts : 0 < scene.settings.cooldown.duration.toNat)
    (vouched : Mended marks → Vouched scene.now h marks) :
    Judged (max 1 scene.settings.cooldown.cleanStreak.toNat) scene.now
      (marks ++ [.window (h.clean scene.settings.cooldown)]) (scene.judgeWindow h) := by
  refine scene.judgeWindow_turn h (scene.judge_ramp_judged h lasts vouched) ?_ ?_
  · exact fun t judged => judged.andThen (scene.countWindow_spares _ _)
  · exact fun t judged => judged.andThen (scene.checkQuarantine_spares _)

theorem feedback_judged (report : PeerReport) (lasts : 0 < scene.settings.cooldown.duration.toNat)
    (vouched : Mended marks → Vouched scene.now h marks) :
    Judged (max 1 scene.settings.cooldown.cleanStreak.toNat) scene.now
      (marks ++ scene.window report h) (scene.feedback report h) := by
  have taken : Mended marks → Vouched scene.now (h.takeReport report) marks :=
    fun mended => ⟨(vouched mended).cooled, (vouched mended).earned⟩
  simp only [feedback, window]
  split
  · exact scene.judgeWindow_judged (h.takeReport report) lasts taken
  · have spares : Turn.Spares { health := h.takeReport report } h :=
      .quiet rfl (fun _ => rfl) rfl rfl rfl
    rw [List.append_nil]
    exact spares.judged vouched

end Scene

end Multipath
