import Multipath.Proofs.Accepted
import Multipath.Proofs.Shares

/-! # What is demanded of settings

A demand says what has to hold and which flaw is reported when it does not. Every bound on a double is
demanded as such, so that an undefined number meets none of them. Settings are accepted when all demands
are met, and otherwise the flaw of the first one that is not is reported (`demands_met`).

The checks are compared with the demands part by part (`Answers`). Behind a part that has a flaw the
checks may say what they like (`Answers.append`): that the first rank is worth anything is asked of a
number, and whether it is one was asked before.
-/

namespace Multipath

structure Demand where
  met : Prop
  flaw : Flaw

/-- The flaw is that of a demand that is not met, behind demands that are. -/
def FirstUnmet (demands : List Demand) (flaw : Flaw) : Prop :=
  ∃ before d after, demands = before ++ d :: after ∧ (∀ e ∈ before, e.met) ∧ ¬ d.met ∧ d.flaw = flaw

namespace Demand

def share (key : String) (rate : Float) : Demand :=
  ⟨0.0 ≤ rate ∧ rate ≤ 1.0, .deliveryRate key rate⟩

def percentage (part key : String) (value : Float) : Demand :=
  ⟨0.0 ≤ value ∧ value ≤ 100.0, .percentage part key value⟩

end Demand

def SelectionRules.demands (rules : SelectionRules) : List Demand :=
  [⟨1 ≤ rules.burstSize.toNat, .emptyBurst⟩,
    ⟨rules.rankWeights ≠ [], .noRankWeights⟩] ++
  rules.rankWeights.map (fun w => ⟨w.isFinite = true ∧ 0.0 ≤ w, .rankWeight w⟩) ++
  [⟨∀ w ∈ rules.rankWeights.head?, 0.0 < w, .firstRankWeight⟩,
    ⟨0.0 < rules.minWeight ∧ rules.minWeight ≤ 1.0, .minWeight rules.minWeight⟩]

def PhaseBounds.demands (bounds : PhaseBounds) : List Demand :=
  [⟨bounds.establishment.toNat ≤ bounds.warmup.toNat ∧ bounds.warmup.toNat ≤ bounds.relaxed.toNat,
    .phaseOrder bounds.establishment bounds.warmup bounds.relaxed⟩]

def CooldownRules.demands (rules : CooldownRules) : List Demand :=
  [⟨1 ≤ rules.duration.toNat, .noCooldown⟩,
    ⟨1 ≤ rules.failureThreshold.toNat, .noFailureThreshold⟩,
    ⟨rules.rampFactor.isFinite = true ∧ 1.0 < rules.rampFactor, .rampFactor rules.rampFactor⟩,
    .share "relaxed_delivery_rate" rules.relaxedDelivery,
    .share "strict_delivery_rate" rules.strictDelivery,
    .percentage "cooldown" "relaxed_missing_percent" rules.relaxedMissing,
    .percentage "cooldown" "relaxed_plc_percent" rules.relaxedConcealed,
    .percentage "cooldown" "strict_missing_percent" rules.strictMissing,
    .percentage "cooldown" "strict_plc_percent" rules.strictConcealed,
    .percentage "cooldown" "delivery_plc_gate" rules.audibleConcealed,
    .percentage "cooldown" "clean_missing_percent" rules.cleanMissing,
    .percentage "cooldown" "clean_plc_percent" rules.cleanConcealed,
    .percentage "cooldown" "clean_late_percent" rules.cleanLate]

def RebuildRules.demands (rules : RebuildRules) : List Demand :=
  [⟨1 ≤ rules.badStreak.toNat, .noBadStreak⟩,
    ⟨1 ≤ rules.initialBackoff.toNat, .noBackoff⟩,
    ⟨rules.initialBackoff.toNat ≤ rules.maxBackoff.toNat,
      .backoffLimit rules.initialBackoff rules.maxBackoff⟩,
    .percentage "rebuild" "severe_plc_percent" rules.severeConcealed,
    .percentage "rebuild" "combined_plc_percent" rules.combinedConcealed,
    .percentage "rebuild" "combined_missing_percent" rules.combinedMissing,
    .percentage "rebuild" "network_plc_percent" rules.networkConcealed,
    .percentage "rebuild" "network_late_to_buffer_percent" rules.networkLateToBuffer]

/-- Everything that is demanded, in the order in which it is reported. -/
def Settings.demands (settings : Settings) : List Demand :=
  [⟨1 ≤ settings.circuits.toNat, .noCircuits⟩] ++ settings.selection.demands ++
    settings.phases.demands ++ settings.cooldown.demands ++ settings.rebuild.demands

/-! ## The first demand that is not met -/

section FirstUnmet

variable {demands others : List Demand} {d : Demand} {flaw : Flaw}

theorem firstUnmet_cons :
    FirstUnmet (d :: demands) flaw ↔ (¬ d.met ∧ d.flaw = flaw) ∨ (d.met ∧ FirstUnmet demands flaw) := by
  constructor
  · rintro ⟨before, e, after, split, met, unmet, told⟩
    cases before with
    | nil =>
        obtain ⟨rfl, -⟩ := List.cons.inj split
        exact .inl ⟨unmet, told⟩
    | cons first before =>
        obtain ⟨rfl, rfl⟩ := List.cons.inj split
        obtain ⟨first_, met⟩ := List.forall_mem_cons.1 met
        exact .inr ⟨first_, before, e, after, rfl, met, unmet, told⟩
  · rintro (⟨unmet, told⟩ | ⟨first, before, e, after, rfl, met, unmet, told⟩)
    · exact ⟨[], d, demands, rfl, nofun, unmet, told⟩
    · exact ⟨d :: before, e, after, rfl, List.forall_mem_cons.2 ⟨first, met⟩, unmet, told⟩

theorem not_firstUnmet_nil : ¬ FirstUnmet [] flaw := by
  rintro ⟨before, e, after, split, -⟩
  cases before <;> cases split

theorem firstUnmet_append :
    FirstUnmet (demands ++ others) flaw ↔
      FirstUnmet demands flaw ∨ ((∀ d ∈ demands, d.met) ∧ FirstUnmet others flaw) := by
  induction demands with
  | nil => simp [not_firstUnmet_nil]
  | cons d demands ih =>
      rw [List.cons_append, firstUnmet_cons, ih, firstUnmet_cons, List.forall_mem_cons]
      tauto

/-- All demands are met, or one of them is the first that is not. -/
theorem exists_firstUnmet : (∃ flaw, FirstUnmet demands flaw) ↔ ¬ ∀ d ∈ demands, d.met := by
  induction demands with
  | nil => simp [not_firstUnmet_nil]
  | cons d demands ih =>
      rw [List.forall_mem_cons, not_and_or, ← ih]
      constructor
      · rintro ⟨flaw, first⟩
        rcases firstUnmet_cons.1 first with ⟨unmet, -⟩ | ⟨-, later⟩
        · exact .inl unmet
        · exact .inr ⟨flaw, later⟩
      · rintro (unmet | ⟨flaw, later⟩)
        · exact ⟨d.flaw, firstUnmet_cons.2 (.inl ⟨unmet, rfl⟩)⟩
        · by_cases met : d.met
          · exact ⟨flaw, firstUnmet_cons.2 (.inr ⟨met, later⟩)⟩
          · exact ⟨d.flaw, firstUnmet_cons.2 (.inl ⟨met, rfl⟩)⟩

end FirstUnmet

/-! ## Bounds -/

section Bounds

open Doubles

variable {x y z : Float}

theorem count_ne_zero {n : UInt32} : (n != 0) = true ↔ 1 ≤ n.toNat := by
  rw [bne_iff_ne, Nat.one_le_iff_ne_zero, ne_eq, ne_eq, ← UInt32.toNat_inj]
  rfl

theorem word_ne_zero {n : UInt64} : (n != 0) = true ↔ 1 ≤ n.toNat := by
  rw [bne_iff_ne, Nat.one_le_iff_ne_zero, ne_eq, ne_eq, ← UInt64.toNat_inj]
  rfl

theorem within_iff : within x y z = true ↔ x ≤ z ∧ z ≤ y := by
  simp [within]

theorem isNaN_of_finite (finite : x.isFinite = true) : x.isNaN = false := by
  change (parts x).isFinite = true at finite
  change (parts x).isNaN = false
  cases found : parts x with
  | notANumber => simp [found, Float.Model.UnpackedFloat.isFinite] at finite
  | _ => rfl

theorem not_below_iff (hx : x.isNaN = false) (hy : y.isNaN = false) : ¬ x < y ↔ y ≤ x := by
  rw [lt_iff_not_le hx hy, not_not]

theorem not_atMost_iff (hx : x.isNaN = false) (hy : y.isNaN = false) : ¬ x ≤ y ↔ y < x :=
  (lt_iff_not_le hy hx).symm

end Bounds

/-! ## Checks and demands -/

/-- The first of some flaws is that of the first demand that is not met. -/
def Answers (flaws : List Flaw) (demands : List Demand) : Prop :=
  ∀ flaw, flaws.head? = some flaw ↔ FirstUnmet demands flaw

namespace Answers

variable {flaws flaws' : List Flaw} {demands demands' : List Demand}

theorem eq_nil_iff (answers : Answers flaws demands) : flaws = [] ↔ ∀ d ∈ demands, d.met := by
  rw [← List.head?_eq_none_iff, Option.eq_none_iff_forall_ne_some, ← not_iff_not, ← exists_firstUnmet]
  push Not
  exact exists_congr fun flaw => answers flaw

theorem nil : Answers [] [] := fun _ => iff_of_false nofun not_firstUnmet_nil

/-- One check, which goes by what is demanded. -/
theorem single {met : Prop} {flaw : Flaw} {fine : Bool} (same : fine = true ↔ met) :
    Answers (flaw.unless fine) [⟨met, flaw⟩] := by
  intro other
  rw [firstUnmet_cons]
  cases fine with
  | true => simp [Flaw.unless, ← same, not_firstUnmet_nil]
  | false => simp [Flaw.unless, ← same]

/-- Behind demands that are met come the others. -/
theorem append (answers : Answers flaws demands)
    (answers' : (∀ d ∈ demands, d.met) → Answers flaws' demands') :
    Answers (flaws ++ flaws') (demands ++ demands') := by
  intro flaw
  rw [firstUnmet_append, List.head?_append, Option.or_eq_some_iff, answers flaw, List.head?_eq_none_iff,
    answers.eq_nil_iff]
  exact or_congr_right (and_congr_right fun met => answers' met flaw)

theorem cons {met : Prop} {flaw : Flaw} {fine : Bool} (same : fine = true ↔ met)
    (answers : met → Answers flaws demands) :
    Answers (flaw.unless fine ++ flaws) (⟨met, flaw⟩ :: demands) :=
  append (single same) fun all => answers (all _ List.mem_cons_self)

theorem flatMap {α : Type} {xs : List α} {check : α → List Flaw} {demand : α → Demand}
    (answers : ∀ x ∈ xs, Answers (check x) [demand x]) :
    Answers (xs.flatMap check) (xs.map demand) := by
  induction xs with
  | nil => exact nil
  | cons x xs ih =>
      obtain ⟨first, later⟩ := List.forall_mem_cons.1 answers
      exact first.append fun _ => ih later

/-- Percentages are checked one after the other. -/
theorem percentages (part : String) (values : List (String × Float)) :
    Answers (Flaw.percentages part values) (values.map fun (key, x) => .percentage part key x) := by
  exact flatMap fun (key, x) _ => single within_iff

end Answers

/-! ## Part by part -/

open Answers

theorem SelectionRules.answers (rules : SelectionRules) : Answers rules.flaws rules.demands := by
  simp only [flaws, demands, List.append_assoc, List.cons_append, List.nil_append]
  refine cons count_ne_zero fun _ => cons ?ranked fun _ => append (flatMap fun w _ => single ?number)
    fun met => cons ?first fun _ => single ?least
  case ranked => simp
  case number =>
    rw [Bool.and_eq_true, Bool.not_eq_true', decide_eq_false_iff_not]
    exact and_congr_right fun finite => not_below_iff (isNaN_of_finite finite) rfl
  case first =>
    cases ranks : rules.rankWeights with
    | nil => simp
    | cons w rest =>
        -- The weights were found to be numbers before.
        have demand := met ⟨w.isFinite = true ∧ 0.0 ≤ w, .rankWeight w⟩
          (List.mem_map_of_mem (ranks ▸ List.mem_cons_self))
        simp [not_atMost_iff (isNaN_of_finite demand.1) (y := 0.0) rfl]
  case least => simp

theorem PhaseBounds.answers (bounds : PhaseBounds) : Answers bounds.flaws bounds.demands := by
  refine single ?_
  simp [UInt64.le_iff_toNat_le]

theorem CooldownRules.answers (rules : CooldownRules) : Answers rules.flaws rules.demands := by
  simp only [flaws, demands, List.append_assoc]
  refine cons word_ne_zero fun _ => cons count_ne_zero fun _ => cons ?factor fun _ =>
    cons within_iff fun _ => cons within_iff fun _ => percentages _ _
  rw [Bool.and_eq_true, Bool.not_eq_true', decide_eq_false_iff_not, and_comm]
  exact and_congr_right fun finite => not_atMost_iff (isNaN_of_finite finite) rfl

theorem RebuildRules.answers (rules : RebuildRules) : Answers rules.flaws rules.demands := by
  simp only [flaws, demands, List.append_assoc]
  refine cons count_ne_zero fun _ => cons word_ne_zero fun _ => cons ?limit fun _ => percentages _ _
  rw [decide_eq_true_eq, UInt64.le_iff_toNat_le]

namespace Settings

theorem answers (settings : Settings) : Answers settings.flaws settings.demands :=
  append (append (append (append (single word_ne_zero) fun _ => settings.selection.answers)
    fun _ => settings.phases.answers) fun _ => settings.cooldown.answers)
    fun _ => settings.rebuild.answers

theorem check_eq_error {settings : Settings} {flaw : Flaw} :
    settings.check = .error flaw ↔ settings.flaws.head? = some flaw := by
  unfold check
  cases settings.flaws with
  | nil => simp
  | cons first rest => simp

end Settings

/-- Settings that are not accepted build no scheduler. -/
theorem Scheduler.build_eq_error {settings : Settings} {call : CallId} {entropy : UInt64}
    {now : Instant} {refusal : Refusal} :
    build settings call entropy now = .error refusal ↔
      (settings.circuits.toNat = 0 ∧ refusal = .noCircuits 0) ∨
      (settings.circuits.toNat ≠ 0 ∧
        ∃ flaw, settings.check = .error flaw ∧ refusal = .invalidSettings flaw.message) := by
  have zero : settings.circuits = 0 ↔ settings.circuits.toNat = 0 := UInt64.toNat_inj.symm
  unfold build
  split
  · rename_i none_
    simp [zero.1 none_, eq_comm]
  · rename_i some_
    cases settings.check with
    | ok accepted => simp [mt zero.2 some_]
    | error flaw => simp [mt zero.2 some_, eq_comm]

/-- Settings are accepted when all demands are met, and otherwise the flaw of the first one that is not is
reported. A scheduler is built from exactly the settings that are accepted. Without circuits it is refused
for that alone, and otherwise for the same flaw. -/
theorem demands_met (settings : Settings) :
    (settings.check = .ok () ↔ ∀ d ∈ settings.demands, d.met) ∧
    (∀ flaw, settings.check = .error flaw ↔ FirstUnmet settings.demands flaw) ∧
    ∀ call entropy now,
      ((∃ built, Scheduler.build settings call entropy now = .ok built) ↔
        ∀ d ∈ settings.demands, d.met) ∧
      ∀ refusal, Scheduler.build settings call entropy now = .error refusal ↔
        (settings.circuits.toNat = 0 ∧ refusal = .noCircuits 0) ∨
        (settings.circuits.toNat ≠ 0 ∧ ∃ flaw, FirstUnmet settings.demands flaw ∧
          refusal = .invalidSettings flaw.message) := by
  have accepted : settings.check = .ok () ↔ ∀ d ∈ settings.demands, d.met :=
    Settings.check_eq_ok.trans settings.answers.eq_nil_iff
  have reported : ∀ flaw, settings.check = .error flaw ↔ FirstUnmet settings.demands flaw :=
    fun flaw => Settings.check_eq_error.trans (settings.answers flaw)
  refine ⟨accepted, reported, fun call entropy now => ⟨?_, fun refusal => ?_⟩⟩
  · rw [← accepted]
    constructor
    · rintro ⟨⟨scheduler, notices⟩, built⟩
      exact (Scheduler.build_eq_ok.1 built).1
    · exact fun fine => ⟨_, Scheduler.build_eq_ok.2 ⟨fine, rfl, rfl⟩⟩
  · rw [Scheduler.build_eq_error]
    simp only [reported]

/-- The first rank is told to be undefined, not to be worth nothing. -/
example : ({ selection := { rankWeights := [0.0 / 0.0], minWeight := 0.0 } } : Settings).check =
    .error (.rankWeight (0.0 / 0.0)) := by
  decide +kernel

end Multipath
