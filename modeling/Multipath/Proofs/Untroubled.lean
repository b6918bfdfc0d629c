import Multipath.Proofs.Extremes
import Multipath.Proofs.Traffic

/-! # A network without loss

Where nothing is lost no rule ever speaks. All its life a circuit stays `Clear`: every frame of it is
received, it keeps its full weight, and each window meets the limits at their ends, with nothing missing
where nothing may be below zero and all delivered where no floor is above one. Since every circuit may be
chosen none is rescued, and since no rebuild is asked for the worker has nothing to do. `Untroubled`
says this of a whole simulation, and every chore keeps it.
-/

namespace Multipath

/-- Any concealment at all is needed for a bad window. -/
structure RebuildRules.Tolerant (rules : RebuildRules) : Prop where
  severe : 0.0 < rules.severeConcealed
  combined : 0.0 < rules.combinedConcealed
  network : 0.0 < rules.networkConcealed

/-! ## One circuit -/

namespace Health

theorem badWindow_of_tolerant {rules : RebuildRules} (tolerant : rules.Tolerant) {h : Health}
    (concealed : h.concealed = 0.0) (lateToBuffer : Float) :
    h.badWindow rules lateToBuffer = false := by
  simp [badWindow, concealed, Doubles.not_le_zero_of_lt tolerant.severe,
    Doubles.not_le_zero_of_lt tolerant.combined, Doubles.not_le_zero_of_lt tolerant.network]

/-- Nothing has ever been held against a circuit. -/
structure Unmarked (h : Health) : Prop where
  baseline : h.baseline = 0
  cooling : h.coolingUntil = none
  weight : h.weight = 1.0
  quarantined : h.quarantined = false

/-- A window without loss. -/
structure Perfect (h : Health) : Prop where
  missing : h.missing = 0.0
  concealed : h.concealed = 0.0
  received : h.received = h.sent
  few : h.sent < UInt64.size

variable {h : Health}

theorem Unmarked.selectable (unmarked : h.Unmarked) (now : Instant) :
    h.selectable now = true := by
  simp only [Health.selectable, Health.cooling, unmarked.cooling, unmarked.weight]
  decide

/-- All that was sent was delivered. -/
theorem Unmarked.deliveryRate (unmarked : h.Unmarked) (perfect : h.Perfect) {minFrames : Nat}
    {rate : Float} (known : h.deliveryRate minFrames = some rate) : rate = 1.0 := by
  have sent : h.sentOnPath = h.sent := by simp [sentOnPath, unmarked.baseline]
  simp only [Health.deliveryRate, sent, perfect.received] at known
  split at known
  · cases known
  · rename_i enough
    simp only [Bool.or_eq_true, decide_eq_true_eq, not_or] at enough
    obtain ⟨m, e, pos, parts⟩ :=
      Doubles.parts_whole (Nat.pos_of_ne_zero enough.2) perfect.few
    rw [Doubles.div_self parts] at known
    exact (Option.some.inj known).symm

theorem Unmarked.judge {settings : Settings} (accepted : settings.check = .ok ())
    (unmarked : h.Unmarked) (perfect : h.Perfect) (phase : Phase) :
    (h.judge settings.cooldown phase).cause = none ∧
      (h.judge settings.cooldown phase).low = none := by
  unfold Health.judge
  cases limits : settings.cooldown.quality phase with
  | none => exact ⟨rfl, rfl⟩
  | some pair =>
      obtain ⟨missing, concealed⟩ := pair
      obtain ⟨low, low'⟩ := Settings.quality_bounds accepted limits
      simp only [perfect.missing, perfect.concealed, Doubles.not_lt_zero_of_le low,
        Doubles.not_lt_zero_of_le low', if_false]
      unfold judgeDelivery
      cases asked : settings.cooldown.delivery phase with
      | none => exact ⟨rfl, rfl⟩
      | some floor =>
          cases known : h.deliveryRate settings.cooldown.minFrames.toNat with
          | none => exact ⟨rfl, rfl⟩
          | some rate =>
              have met : floor ≤ rate :=
                unmarked.deliveryRate perfect known ▸ Settings.delivery_le_one accepted asked
              simp only [met, if_true, and_self]

end Health

/-- A report on a window without loss. -/
structure PeerReport.Flawless (report : PeerReport) (received : Nat) : Prop where
  missing : report.missing = 0.0
  concealed : report.concealed = 0.0
  received : report.received = received

namespace Scene

variable {scene : Scene} {h : Health}

/-- A turn that tells nothing, and after which nothing is held against the circuit. -/
structure Passes (t : Turn) (h : Health) : Prop where
  untold : t.events = []
  unmarked : t.health.Unmarked
  missing : t.health.missing = h.missing
  concealed : t.health.concealed = h.concealed
  received : t.health.received = h.received
  sent : t.health.sent = h.sent

theorem Passes.andThen {t : Turn} {next : Health → Turn} (first : Passes t h)
    (second : Passes (next t.health) t.health) : Passes (t.andThen next) h where
  untold := by rw [Turn.events_andThen, first.untold, second.untold]; rfl
  unmarked := second.unmarked
  missing := second.missing.trans first.missing
  concealed := second.concealed.trans first.concealed
  received := second.received.trans first.received
  sent := second.sent.trans first.sent

theorem Passes.perfect {t : Turn} (passes : Passes t h) (perfect : h.Perfect) : t.health.Perfect where
  missing := passes.missing.trans perfect.missing
  concealed := passes.concealed.trans perfect.concealed
  received := passes.received.trans (perfect.received.trans passes.sent.symm)
  few := passes.sent ▸ perfect.few

theorem judge_passes (accepted : scene.settings.check = .ok ()) (unmarked : h.Unmarked)
    (perfect : h.Perfect) : Passes (scene.judge h) h := by
  obtain ⟨cause, low⟩ := unmarked.judge accepted perfect scene.phase
  obtain ⟨lowDeliveries, same⟩ := h.judge_health scene.settings.cooldown scene.phase
  simp only [Scene.judge, cause, low, same]
  exact ⟨rfl, ⟨unmarked.baseline, unmarked.cooling, unmarked.weight, unmarked.quarantined⟩,
    rfl, rfl, rfl, rfl⟩

theorem ramp_passes (unmarked : h.Unmarked) : Passes (scene.ramp h) h := by
  have full : ¬ h.weight < 1.0 := by
    rw [unmarked.weight]
    decide
  simp only [Scene.ramp, full, decide_false, Bool.and_false, Bool.false_eq_true, if_false]
  exact ⟨rfl, unmarked, rfl, rfl, rfl, rfl⟩

theorem countWindow_passes (accepted : scene.settings.check = .ok ())
    (tolerant : scene.settings.rebuild.Tolerant) (unmarked : h.Unmarked) (perfect : h.Perfect)
    (lateToBuffer : Float) : Passes (scene.countWindow lateToBuffer h) h := by
  have good := Health.badWindow_of_tolerant tolerant perfect.concealed lateToBuffer
  have due : ¬ scene.settings.rebuild.badStreak.toNat ≤ 0 :=
    Nat.not_le.2 (Settings.badStreak_pos accepted)
  simp only [Scene.countWindow]
  split
  · exact ⟨rfl, unmarked, rfl, rfl, rfl, rfl⟩
  · simp only [good, Health.countWindow, Bool.false_eq_true, if_false, due, decide_false,
      Bool.false_and]
    refine ⟨?_, ⟨unmarked.baseline, unmarked.cooling, unmarked.weight, unmarked.quarantined⟩,
      rfl, rfl, rfl, rfl⟩
    simp only [Turn.events]
    split <;> rfl

theorem judgeWindow_passes (accepted : scene.settings.check = .ok ())
    (tolerant : scene.settings.rebuild.Tolerant) (unmarked : h.Unmarked) (perfect : h.Perfect) :
    Passes (scene.judgeWindow h) h := by
  have judged := judge_passes accepted unmarked perfect
  have ramped : Passes ((scene.judge h).andThen scene.ramp) h :=
    judged.andThen (ramp_passes judged.unmarked)
  simp only [judgeWindow]
  generalize (scene.judge h).andThen scene.ramp = t at ramped ⊢
  split
  · have counted : Passes (t.andThen fun h => scene.countWindow h.lateToBuffer h) h :=
      ramped.andThen (countWindow_passes accepted tolerant ramped.unmarked (ramped.perfect perfect) _)
    rw [counted.unmarked.quarantined]
    exact counted
  · rw [ramped.unmarked.quarantined]
    exact ramped

/-- A report on windows without loss. -/
theorem feedback_passes (accepted : scene.settings.check = .ok ())
    (tolerant : scene.settings.rebuild.Tolerant) (unmarked : h.Unmarked) {report : PeerReport}
    (perfect : (h.takeReport report).Perfect) :
    (scene.feedback report h).events = [] ∧ (scene.feedback report h).health.Unmarked ∧
      (scene.feedback report h).health.sent = h.sent := by
  have taken : (h.takeReport report).Unmarked :=
    ⟨unmarked.baseline, unmarked.cooling, unmarked.weight, unmarked.quarantined⟩
  simp only [Scene.feedback]
  split
  · have passes := judgeWindow_passes accepted tolerant taken perfect
    exact ⟨passes.untold, passes.unmarked, passes.sent⟩
  · exact ⟨rfl, taken, rfl⟩

end Scene

/-! ## All circuits of a call -/

namespace Scheduler

variable {s : Scheduler} {now : Instant}

theorem pick_of_selectable (nonempty : s.circuits ≠ [])
    (all : ∀ (c : Nat) (h : Health), s.circuits[c]? = some h → h.selectable now = true) :
    (s.pick now).2.1.circuits = s.circuits ∧ Notice.events (s.pick now).2.2 = [] := by
  rcases s.pick_cases now with ⟨-, he⟩ | ⟨-, -, -, he⟩ | ⟨-, -, he⟩
  · rw [he]
    exact ⟨rfl, rfl⟩
  · rw [he]
    exact ⟨rfl, rfl⟩
  · obtain ⟨h, rest, some_⟩ := List.exists_cons_of_ne_nil nonempty
    have may : s.ranked now ≠ [] := by
      intro none_
      have out := ranked_eq_nil.1 none_ 0 h (by rw [some_]; rfl)
      rw [all 0 h (by rw [some_]; rfl)] at out
      cases out
    obtain ⟨c, h, generator, -, -, chosen⟩ := choose_of_selectable may
    rw [he, chosen]
    exact ⟨rfl, rfl⟩

/-- What holds of every record after one circuit took its turn. -/
theorem act_records {P P' : Nat → Health → Prop}
    (records : ∀ (c : Nat) (h : Health), s.circuits[c]? = some h → P c h) (c : Nat)
    (operation : String) (turn : Scene → Health → Turn)
    (own : ∀ (scene : Scene) h, scene.settings = s.settings → P c h →
      P' c (turn scene h).health ∧ (turn scene h).events = [])
    (others : ∀ (j : Nat) h, j ≠ c → P j h → P' j h) :
    (∀ (j : Nat) (h : Health), (s.act now c operation turn).1.circuits[j]? = some h → P' j h) ∧
      Notice.events (s.act now c operation turn).2 = [] := by
  cases found : s.circuits[c]? with
  | none =>
      rw [act_of_stray found]
      refine ⟨fun j h there => others j h ?_ (records j h there), rfl⟩
      rintro rfl
      rw [found] at there
      cases there
  | some h =>
      obtain ⟨after, untold⟩ := own (s.scene now c) h rfl (records c h found)
      rw [act_of_found found]
      refine ⟨fun j h' there => ?_, untold⟩
      rw [apply_circuits, List.getElem?_set] at there
      split at there
      · rename_i here
        subst here
        split at there
        · cases there
          exact after
        · cases there
      · rename_i elsewhere
        exact others j h' (Ne.symm elsewhere) (records j h' there)

end Scheduler

namespace Simulation

/-! ## The network -/

/-- A path that loses nothing and has never been changed for another. -/
structure VirtualCircuit.Lossless (v : VirtualCircuit) : Prop where
  loss : (v.loss == 0.0) = true
  sendFailure : (v.sendFailure == 0.0) = true
  lostInWindow : v.lostInWindow = 0
  lastMissing : v.lastMissing = 0.0
  window : v.sentInWindow ≤ v.received
  reconnects : v.reconnects = 0

namespace VirtualCircuit.Lossless

variable {v : VirtualCircuit}

theorem missing (lossless : v.Lossless) (few : v.received < UInt64.size) : v.missing = 0.0 := by
  unfold VirtualCircuit.missing
  split
  · rename_i some_
    obtain ⟨m, e, pos, parts⟩ :=
      Doubles.parts_whole some_ (Nat.lt_of_le_of_lt lossless.window few)
    have none_ : (0 : Nat).toUInt64.toFloat * 100.0 = 0.0 := rfl
    rw [lossless.lostInWindow, none_]
    exact Doubles.zero_div parts
  · exact lossless.lastMissing

theorem deliver (lossless : v.Lossless) : (v.meet .delivered).Lossless where
  loss := lossless.loss
  sendFailure := lossless.sendFailure
  lostInWindow := lossless.lostInWindow
  lastMissing := lossless.lastMissing
  window := Nat.succ_le_succ lossless.window
  reconnects := lossless.reconnects

theorem closeWindow (lossless : v.Lossless) (few : v.received < UInt64.size) :
    v.closeWindow.Lossless where
  loss := lossless.loss
  sendFailure := lossless.sendFailure
  lostInWindow := rfl
  lastMissing := lossless.missing few
  window := Nat.zero_le _
  reconnects := lossless.reconnects

end VirtualCircuit.Lossless

namespace Network

theorem transmit_lossless {n : Network} {c : Nat} {v : VirtualCircuit}
    (found : n.circuits[c]? = some v) (lossless : v.Lossless) : (n.transmit c).1 = .delivered := by
  simp only [transmit, found, Random.Generator.unit_not_lt _ lossless.sendFailure,
    Random.Generator.unit_not_lt _ lossless.loss, if_false, decide_false, Bool.false_eq_true]

end Network

/-! ## A circuit and its path -/

/-- After `n` frames of the call nothing is held against a circuit, and all its frames arrived. -/
structure Clear (n : Nat) (h : Health) (v : VirtualCircuit) : Prop where
  unmarked : h.Unmarked
  lossless : v.Lossless
  received : v.received = h.sent
  few : h.sent ≤ n

namespace Clear

variable {n : Nat} {h : Health} {v : VirtualCircuit}

theorem lateToBuffer (clear : Clear n h v) (percent : Float) :
    Clear n { h with lateToBuffer := percent } v :=
  { clear with
    unmarked := ⟨clear.unmarked.baseline, clear.unmarked.cooling, clear.unmarked.weight,
      clear.unmarked.quarantined⟩ }

theorem sent (clear : Clear n h v) (room : n + 1 < UInt64.size) :
    Clear (n + 1) h.countSent (v.meet .delivered) := by
  have few := clear.few
  have next : h.countSent.sent = h.sent + 1 := Counter.nextTotal_of_lt (by omega)
  refine ⟨?_, clear.lossless.deliver, ?_, ?_⟩
  · exact ⟨clear.unmarked.baseline, clear.unmarked.cooling, clear.unmarked.weight,
      clear.unmarked.quarantined⟩
  · rw [next, ← clear.received]
    rfl
  · rw [next]
    exact Nat.succ_le_succ few

theorem mono (clear : Clear n h v) : Clear (n + 1) h v :=
  { clear with few := Nat.le_succ_of_le clear.few }

theorem closeWindow (clear : Clear n h v) (room : n < UInt64.size) : Clear n h v.closeWindow :=
  { clear with
    lossless := clear.lossless.closeWindow
      (clear.received ▸ Nat.lt_of_le_of_lt clear.few room) }

/-- The peer reports a window without loss. -/
theorem report (clear : Clear n h v) (room : n < UInt64.size) (jitter : Float) :
    (v.report jitter).Flawless v.received := by
  have missing := clear.lossless.missing (clear.received ▸ Nat.lt_of_le_of_lt clear.few room)
  refine ⟨missing, ?_, rfl⟩
  change v.missing * 0.8 = 0.0
  rw [missing]
  rfl

theorem perfect (clear : Clear n h v) (room : n < UInt64.size) {report : PeerReport}
    (flawless : report.Flawless v.received) : (h.takeReport report).Perfect :=
  ⟨flawless.missing, flawless.concealed, flawless.received.trans clear.received,
    Nat.lt_of_le_of_lt clear.few room⟩

end Clear

/-- Circuit `c` with this record is clear. -/
def ClearAt (n : Nat) (circuits : List VirtualCircuit) (c : Nat) (h : Health) : Prop :=
  ∀ v, circuits[c]? = some v → Clear n h v

theorem ClearAt.feedback {settings : Settings} (accepted : settings.check = .ok ())
    (tolerant : settings.rebuild.Tolerant) {n : Nat} (room : n < UInt64.size)
    {circuits : List VirtualCircuit} {c : Nat} {v : VirtualCircuit} (found : circuits[c]? = some v)
    {report : PeerReport} (flawless : report.Flawless v.received) {scene : Scene} {h : Health}
    (same : scene.settings = settings) (before : ClearAt n circuits c h) :
    ClearAt n circuits c (scene.feedback report h).health ∧
      (scene.feedback report h).events = [] := by
  have clear := before v found
  subst same
  obtain ⟨untold, unmarked, sent⟩ := Scene.feedback_passes accepted tolerant clear.unmarked
    (clear.perfect room flawless)
  refine ⟨fun v' found' => ?_, untold⟩
  obtain rfl : v = v' := Option.some.inj (found.symm.trans found')
  exact ⟨unmarked, clear.lossless, clear.received.trans sent.symm, sent ▸ clear.few⟩

theorem takeReports_clear {s : Scheduler} (accepted : s.settings.check = .ok ())
    (tolerant : s.settings.rebuild.Tolerant) {n : Nat} (room : n < UInt64.size)
    {circuits : List VirtualCircuit}
    (clear : ∀ (c : Nat) (h : Health), s.circuits[c]? = some h → ClearAt n circuits c h)
    (now : Instant) {reports : List (Nat × PeerReport)}
    (flawless : ∀ item ∈ reports, ∃ v, circuits[item.1]? = some v ∧ item.2.Flawless v.received) :
    (∀ (c : Nat) (h : Health), (s.takeReports now reports).1.circuits[c]? = some h →
        ClearAt n circuits c h) ∧
      Notice.events (s.takeReports now reports).2 = [] := by
  induction reports generalizing s with
  | nil => exact ⟨clear, rfl⟩
  | cons item rest ih =>
      obtain ⟨c, report⟩ := item
      obtain ⟨v, found, fine⟩ := flawless (c, report) List.mem_cons_self
      obtain ⟨clear₁, first⟩ := Scheduler.act_records clear c "update_from_receiver_feedback"
        (·.feedback report)
        (fun scene h same before => before.feedback accepted tolerant room found fine same)
        (fun j h _ before => before)
      have same : (s.act now c "update_from_receiver_feedback" (·.feedback report)).1.settings =
          s.settings :=
        (Scheduler.act_strides fun h _ => Scene.feedback_course _ report h).settings_eq
      obtain ⟨clear₂, others⟩ := ih (same ▸ accepted) (same ▸ tolerant) clear₁
        fun item mem => flawless item (List.mem_cons_of_mem _ mem)
      simp only [Scheduler.takeReports, Notice.events_append, first, others]
      exact ⟨clear₂, rfl⟩

/-! ## The whole simulation -/

/-- Nothing was ever told, and nothing awaits the worker. -/
structure Untold (w : Session) (st : State) (s : Scheduler) : Prop where
  live : Live w st s []
  idle : st.worker = {}
  untold : st.events = #[]
  unscathed : ∀ t ∈ st.tallies, t.sendFailures = 0 ∧ t.lost = 0

structure Untroubled (w : Session) (n : Nat) (st : State) (s : Scheduler) : Prop
    extends Untold w st s where
  clear : ∀ (c : Nat) (h : Health), s.circuits[c]? = some h →
    ClearAt n st.network.circuits c h

section Steps

variable {settings : Settings} {call : CallId} {w : Session} {st : State} {s : Scheduler}

theorem Untold.operate (untold : Untold w st s) (opened : w.Opened settings call)
    (operation : Operation) (silent : operation.answers = false)
    (nothing : Notice.events (s.step st.clock.reading operation).notices = []) :
    Untold w (st.operate operation).2
      { (s.step st.clock.reading operation).scheduler with pending := [] } := by
  have live := untold.live.operated operation silent
  have idle : s.inFlight = none := by
    have tickets := untold.live.tickets
    rw [untold.idle] at tickets
    simpa using tickets.symm
  -- Without an event no rebuild begins, so that no ticket comes to wait.
  have none_ : (s.step st.clock.reading operation).scheduler.pending = [] := by
    have events : ((⟨st.clock, s⟩ : Session).run [.ask operation]).events = [] := by
      rw [Session.run_cons_events]
      exact List.append_eq_nil_iff.2 ⟨nothing, rfl⟩
    have balanced : s.Balanced _ (s.step st.clock.reading operation).scheduler :=
      Session.run_balanced ⟨st.clock, s⟩ [.ask operation]
    have sum := (balanced (untold.live.kept opened)).2
    have load : (s.step st.clock.reading operation).scheduler.load = 0 := by
      rw [events] at sum
      simpa [Scheduler.load, idle, begun, outcomes] using sum.symm
    have slot : (s.step st.clock.reading operation).scheduler.inFlight.toList =
        s.inFlight.toList ++ (s.step st.clock.reading operation).scheduler.pending :=
      Scheduler.step_inFlight silent untold.live.handed
    rw [Scheduler.load, slot, List.length_eq_zero_iff] at load
    exact (List.append_eq_nil_iff.1 load).2
  rw [none_, List.append_nil] at live
  have same := untold.live.operate_eq operation
  refine ⟨live, ?_, ?_, ?_⟩
  · rw [same]
    exact untold.idle
  · rw [same]
    simp only [nothing, untold.untold]
    rfl
  · rw [same]
    exact untold.unscathed

theorem operate_network (st : State) (operation : Operation) :
    (st.operate operation).2.network = st.network := by
  unfold State.operate
  split <;> rfl

theorem blameLate_network (st : State) (reports : List (Nat × PeerReport)) :
    (st.blameLate reports).network = st.network := by
  induction reports generalizing st with
  | nil => rfl
  | cons item rest ih => exact (ih _).trans (operate_network st _)

theorem Untold.carry (untold : Untold w st s) {c : Nat}
    (delivered : (st.network.transmit c).1 = .delivered) : Untold w (st.carry c) s where
  live := untold.live.carry c
  idle := untold.idle
  untold := untold.untold
  unscathed := by
    intro t mem
    obtain ⟨j, found⟩ := List.mem_iff_getElem?.1 mem
    rw [State.carry, delivered, List.getElem?_modify] at found
    obtain ⟨t', before, rfl⟩ := Option.map_eq_some_iff.1 found
    have same := untold.unscathed t' (List.mem_of_getElem? before)
    split <;> exact same

namespace Untroubled

variable {n : Nat}

theorem paired (untroubled : Untroubled w n st s) {c : Nat} {h : Health}
    (found : s.circuits[c]? = some h) :
    ∃ v, st.network.circuits[c]? = some v ∧ Clear n h v := by
  have inside : c < st.network.circuits.length := by
    rw [untroubled.live.circuits]
    exact (List.getElem?_eq_some_iff.1 found).1
  have found' := List.getElem?_eq_getElem inside
  exact ⟨_, found', untroubled.clear c h found _ found'⟩

/-- An operation that leaves every circuit clear and tells nothing. -/
theorem operate (untroubled : Untroubled w n st s) (opened : w.Opened settings call)
    (operation : Operation) (silent : operation.answers = false)
    (clear : ∀ (c : Nat) (h : Health),
      (s.step st.clock.reading operation).scheduler.circuits[c]? = some h →
        ClearAt n st.network.circuits c h)
    (nothing : Notice.events (s.step st.clock.reading operation).notices = []) :
    ∃ s', Untroubled w n (st.operate operation).2 s' := by
  have untold := untroubled.toUntold.operate opened operation silent nothing
  refine ⟨_, untold, fun c h found => ?_⟩
  rw [untroubled.live.operate_eq]
  exact clear c h found

theorem pick (untroubled : Untroubled w n st s) (opened : w.Opened settings call) :
    ∃ c s', (st.operate .pick).1 = .circuit c ∧ c < s'.size ∧
      Untroubled w n (st.operate .pick).2 s' := by
  have range := untroubled.live.inRange opened
  have all : ∀ (c : Nat) (h : Health), s.circuits[c]? = some h →
      h.selectable st.clock.reading = true := by
    intro c h found
    obtain ⟨v, -, clear⟩ := untroubled.paired found
    exact clear.unmarked.selectable _
  obtain ⟨circuits, nothing⟩ := Scheduler.pick_of_selectable range.nonempty all
  obtain ⟨s', picked⟩ := untroubled.operate opened .pick rfl
    (fun c h found => untroubled.clear c h (circuits ▸ found)) nothing
  refine ⟨(s.pick st.clock.reading).1, s', ?_, ?_, picked⟩
  · rw [untroubled.live.operate_eq]
    rfl
  · rw [picked.live.size_eq opened, ← untroubled.live.size_eq opened]
    exact Scheduler.pick_lt range

theorem sendFrame (untroubled : Untroubled w n st s) (opened : w.Opened settings call)
    (room : n + 1 < UInt64.size) : ∃ s', Untroubled w (n + 1) st.sendFrame s' := by
  obtain ⟨c, s₁, answer, inside, picked⟩ := untroubled.pick opened
  have chosen : st.operate .pick = (.circuit c, (st.operate .pick).2) := Prod.ext answer rfl
  rw [State.sendFrame_eq chosen]
  generalize (st.operate .pick).2 = st₁ at picked ⊢
  obtain ⟨v, found, clear⟩ := picked.paired (List.getElem?_eq_getElem inside)
  have delivered := Network.transmit_lossless found clear.lossless
  have network : (st₁.carry c).network.circuits =
      st₁.network.circuits.modify c (·.meet .delivered) := by
    rw [State.carry, Network.transmit_circuits, delivered]
  have untold := picked.toUntold.carry delivered
  have own : ∀ h, ClearAt n st₁.network.circuits c h →
      ClearAt (n + 1) (st₁.carry c).network.circuits c h.countSent := by
    intro h before v' found'
    rw [network] at found'
    obtain ⟨v, found, rfl⟩ := found_of_modify found'
    simp only [if_true]
    exact (before v found).sent room
  have others : ∀ j h, j ≠ c → ClearAt n st₁.network.circuits j h →
      ClearAt (n + 1) (st₁.carry c).network.circuits j h := by
    intro j h elsewhere before v' found'
    rw [network] at found'
    obtain ⟨v, found, rfl⟩ := found_of_modify found'
    rw [if_neg (Ne.symm elsewhere)]
    exact (before v found).mono
  obtain ⟨clear', nothing⟩ := Scheduler.act_records picked.clear c "report_send_success"
    (fun _ h => { health := h.countSent }) (fun _ h _ before => ⟨own h before, rfl⟩) others
  rw [delivered, if_neg (by decide)]
  refine ⟨_, untold.operate opened (.sent c) rfl nothing, fun j h there => ?_⟩
  rw [untold.live.operate_eq]
  exact clear' j h there

theorem blameLate (untroubled : Untroubled w n st s) (opened : w.Opened settings call)
    (reports : List (Nat × PeerReport)) : ∃ s', Untroubled w n (st.blameLate reports) s' := by
  induction reports generalizing st s with
  | nil => exact ⟨s, untroubled⟩
  | cons item rest ih =>
      obtain ⟨c, report⟩ := item
      obtain ⟨clear, nothing⟩ := Scheduler.act_records untroubled.clear c "report_late_to_buffer"
        (fun _ h => { health := { h with lateToBuffer := report.late * 0.1 } })
        (fun _ h _ before => ⟨fun v found => (before v found).lateToBuffer _, rfl⟩)
        (fun j h _ before => before)
      obtain ⟨s₁, untroubled₁⟩ := untroubled.operate opened
        (.lateToBuffer c (report.late * 0.1)) rfl clear nothing
      exact ih untroubled₁

theorem closeWindows (untroubled : Untroubled w n st s) (room : n < UInt64.size) :
    Untroubled w n { st with network := st.network.feedback.2 } s where
  live := { untroubled.live with
    circuits := (List.length_map _).trans untroubled.live.circuits }
  idle := untroubled.idle
  untold := untroubled.untold
  unscathed := untroubled.unscathed
  clear := by
    intro c h there v' found'
    change (st.network.circuits.map VirtualCircuit.closeWindow)[c]? = some v' at found'
    rw [List.getElem?_map] at found'
    obtain ⟨v, found, rfl⟩ := Option.map_eq_some_iff.1 found'
    exact (untroubled.clear c h there v found).closeWindow room

theorem flawless (untroubled : Untroubled w n st s) (room : n < UInt64.size) {c : Nat}
    {report : PeerReport} (told : st.network.feedback.1[c]? = some report) :
    ∃ v, st.network.feedback.2.circuits[c]? = some v ∧ report.Flawless v.received := by
  obtain ⟨v, jitter, found, rfl⟩ := Network.reports_getElem? told
  have inside : c < s.size := by
    rw [← untroubled.live.circuits]
    exact (List.getElem?_eq_some_iff.1 found).1
  have clear := untroubled.clear c _ (List.getElem?_eq_getElem inside) v found
  refine ⟨v.closeWindow, ?_, clear.report room jitter⟩
  change (st.network.circuits.map VirtualCircuit.closeWindow)[c]? = _
  rw [List.getElem?_map, found]
  rfl

theorem giveFeedback (untroubled : Untroubled w n st s) (opened : w.Opened settings call)
    (tolerant : settings.rebuild.Tolerant) (room : n < UInt64.size) :
    ∃ s', Untroubled w n st.giveFeedback s' := by
  rw [State.giveFeedback_eq]
  generalize told : List.map _ st.network.feedback.1.zipIdx = reports
  have flawless : ∀ item ∈ reports,
      ∃ v, st.network.feedback.2.circuits[item.1]? = some v ∧ item.2.Flawless v.received := by
    intro item mem
    rw [← told] at mem
    obtain ⟨⟨report, c⟩, mem', rfl⟩ := List.mem_map.1 mem
    exact untroubled.flawless room (List.mem_zipIdx_iff_getElem?.1 mem')
  obtain ⟨s₁, blamed⟩ := (untroubled.closeWindows room).blameLate opened reports
  have network : (State.blameLate { st with network := st.network.feedback.2 } reports).network =
      st.network.feedback.2 := blameLate_network _ reports
  change ∃ s', Untroubled w n
    (State.operate (State.blameLate { st with network := st.network.feedback.2 } reports)
      (.feedback reports)).2 s'
  generalize State.blameLate { st with network := st.network.feedback.2 } reports = st₁
    at blamed network ⊢
  rw [← network] at flawless
  have same := blamed.live.settings_eq opened
  have accepted : s₁.settings.check = .ok () := same ▸ opened.accepted
  obtain ⟨clear, nothing⟩ := takeReports_clear accepted (same ▸ tolerant) room blamed.clear
    st₁.clock.reading flawless
  refine blamed.operate opened (.feedback reports) rfl clear ?_
  exact (Notice.events_append ..).trans (List.append_eq_nil_iff.2 ⟨nothing, rfl⟩)

/-- There is nothing else to be done between two frames. -/
theorem chore (untroubled : Untroubled w n st s) (opened : w.Opened settings call)
    (tolerant : settings.rebuild.Tolerant) (room : n < UInt64.size) {latency : Nat} {st' : State}
    (chore : State.Chore latency st st') : ∃ s', Untroubled w n st' s' := by
  cases chore with
  | report => exact untroubled.giveFeedback opened tolerant room
  | takeUp ticket rest free =>
      have waits : Transport.listening (ticket :: rest) = .listening [] :=
        congrArg SharedCall.transport untroubled.live.call
      cases waits
  | finish busy ready =>
      rw [untroubled.idle] at busy
      cases busy

theorem frame (untroubled : Untroubled w n st s) (opened : w.Opened settings call)
    (tolerant : settings.rebuild.Tolerant) (room : n + 1 < UInt64.size) (scenario : Scenario)
    (frame : Nat) : ∃ s', Untroubled w (n + 1) (st.frame scenario frame) s' := by
  refine State.frame_keeps (I := fun st => ∃ s', Untroubled w (n + 1) st s') ?_ ?_
  · rintro st st' chore ⟨s, untroubled⟩
    exact untroubled.chore opened tolerant room chore
  · obtain ⟨s', sent⟩ := untroubled.sendFrame opened room
    exact ⟨s', { sent with live := sent.live.tick frameMillis }⟩

theorem frames (untroubled : Untroubled w n st s) (opened : w.Opened settings call)
    (tolerant : settings.rebuild.Tolerant) (scenario : Scenario) (first k : Nat)
    (room : n + k < UInt64.size) : ∃ s', Untroubled w (n + k) (st.frames scenario first k) s' := by
  induction k generalizing st s n first with
  | zero => exact ⟨s, untroubled⟩
  | succ k ih =>
      obtain ⟨s₁, one⟩ := untroubled.frame opened tolerant (by omega) scenario first
      have sum : n + 1 + k = n + (k + 1) := by omega
      rw [← sum]
      exact ih one (first + 1) (by omega)

end Untroubled

end Steps

/-! ## The report -/

/-- Nothing is ever lost: all probabilities of a scenario that are given are zero. -/
structure Scenario.Lossless (scenario : Scenario) : Prop where
  loss : ∀ p ∈ scenario.loss, (p == 0.0) = true
  sendFailure : ∀ p ∈ scenario.sendFailure, (p == 0.0) = true

theorem getD_zero {all : List Float} (zero : ∀ p ∈ all, (p == 0.0) = true) (i : Nat) :
    (all.getD i 0.0 == 0.0) = true := by
  rw [List.getD_eq_getElem?_getD]
  cases found : all[i]? with
  | none => rfl
  | some p => exact zero p (List.mem_of_getElem? found)

theorem opening_untroubled (settings : Settings) {scenario : Scenario}
    (lossless : scenario.Lossless) (call : CallId) (entropy : UInt64) :
    Untroubled (session settings call entropy) 0 (opening settings scenario call entropy)
      (.fresh settings call entropy 0) where
  live := opening_live settings scenario call entropy
  idle := rfl
  untold := rfl
  unscathed := by
    intro t mem
    rw [List.eq_of_mem_replicate mem]
    exact ⟨rfl, rfl⟩
  clear := by
    intro c h there v found
    obtain rfl : h = .fresh settings.rebuild.initialBackoff.toNat :=
      List.eq_of_mem_replicate (List.mem_of_getElem? there)
    obtain ⟨i, -, rfl⟩ := List.mem_map.1 (List.mem_of_getElem? found)
    exact ⟨⟨rfl, rfl, rfl, rfl⟩,
      ⟨getD_zero lossless.loss i, getD_zero lossless.sendFailure i, rfl, rfl, Nat.le_refl 0, rfl⟩,
      rfl, Nat.le_refl 0⟩

/-- A report with nothing to tell. -/
structure Report.Blank (report : Report) : Prop where
  events : report.events = []
  weight : ∀ c ∈ report.circuits, c.view.health.weight = 1.0
  lost : ∀ c ∈ report.circuits, c.tally.lost = 0
  sendFailures : ∀ c ∈ report.circuits, c.tally.sendFailures = 0
  reconnects : ∀ c ∈ report.circuits, c.reconnects = 0
  rebuilt : report.rebuilt = 0
  failed : report.failed = 0
  discarded : report.discarded = 0

theorem Untroubled.renewals {w : Session} {n : Nat} {st : State} {s : Scheduler}
    (untroubled : Untroubled w n st s) : renewals st.network.circuits = 0 := by
  refine List.sum_eq_zero fun k mem => ?_
  obtain ⟨v, mem', rfl⟩ := List.mem_map.1 mem
  obtain ⟨c, inside, found⟩ := List.mem_iff_getElem.1 mem'
  have there : c < s.size := untroubled.live.circuits ▸ inside
  have clear := untroubled.clear c _ (List.getElem?_eq_getElem there) v
    (found ▸ List.getElem?_eq_getElem inside)
  exact clear.lossless.reconnects

theorem Report.Closes.blank {report : Report} {w : Session} {n : Nat} {st : State} {s : Scheduler}
    (closes : report.Closes st s) (untroubled : Untroubled w n st s) : report.Blank := by
  have load : s.load = 0 := by
    rw [Scheduler.load, ← untroubled.live.tickets, untroubled.idle]
    rfl
  have idle := untroubled.idle
  refine ⟨?_, ?_, ?_, ?_, ?_, ?_, ?_, ?_⟩
  · rw [closes.events, untroubled.untold]
  · intro c mem
    have shown : c.view.health ∈ s.circuits := by
      rw [← views_health s st.clock.reading, ← closes.views, List.map_map]
      exact List.mem_map_of_mem (f := CircuitView.health ∘ CircuitSummary.view) mem
    obtain ⟨i, found⟩ := List.mem_iff_getElem?.1 shown
    obtain ⟨v, -, clear⟩ := untroubled.paired found
    exact clear.unmarked.weight
  · intro c mem
    exact (untroubled.unscathed c.tally (closes.tallies ▸ List.mem_map_of_mem mem)).2
  · intro c mem
    exact (untroubled.unscathed c.tally (closes.tallies ▸ List.mem_map_of_mem mem)).1
  · have sum := closes.reconnects.2
    rw [untroubled.renewals, load, Nat.add_zero, Nat.le_zero, List.sum_eq_zero_iff] at sum
    exact fun c mem => sum _ (List.mem_map_of_mem mem)
  · rw [closes.rebuilt, idle]
  · rw [closes.failed, idle]
  · rw [closes.discarded, idle, load]

/-- A simulation in which nothing can be lost raises no alarm, whatever is drawn and however long it
lasts: no event is told, every circuit ends at its full weight, and no frame and no path is lost. -/
theorem nothing_told {settings : Settings} (accepted : settings.check = .ok ())
    (tolerant : settings.rebuild.Tolerant) {scenario : Scenario} (lossless : scenario.Lossless)
    (call : CallId) (entropy : UInt64) :
    ∃ report, run settings scenario call entropy = .ok report ∧
      report.circuits.map (·.view.circuit) = List.range settings.circuits.toNat ∧
      report.Blank := by
  have opened := session_opened accepted call entropy
  obtain ⟨s, untroubled⟩ := (opening_untroubled settings lossless call entropy).frames opened
    tolerant scenario 1 scenario.frames ((Nat.zero_add _).symm ▸ scenario.frames_lt)
  obtain ⟨report, ran, -, closes⟩ := run_closes accepted scenario call entropy untroubled.live
  exact ⟨report, ran, untroubled.live.size_eq opened ▸ closes.circuits, closes.blank untroubled⟩

/-- A minute with feedback at every frame, over two circuits that are judged from the start. -/
def calm : Scenario where
  seconds := 60
  loss := [0.0, -0.0]
  feedbackInterval := 20

theorem nothing_told_brisk :
    Settings.brisk.check = .ok () ∧ Settings.brisk.rebuild.Tolerant ∧ calm.Lossless ∧
      ∃ report, run .brisk calm ⟨"A"⟩ 0 = .ok report ∧
        report.circuits.map (·.view.circuit) = [0, 1] ∧ report.Blank := by
  have tolerant : Settings.brisk.rebuild.Tolerant := by
    constructor <;> decide
  have lossless : calm.Lossless := by
    constructor <;> decide
  exact ⟨rfl, tolerant, lossless, nothing_told rfl tolerant lossless ⟨"A"⟩ 0⟩

end Simulation

end Multipath
