import Mathlib.Data.List.Basic
import Multipath.Simulation.Network

/-! # What the peer measures

A network is used in three ways, and each use leaves an incident behind: what became of a frame, what
the peer reported, or whether a circuit got a new path. The counters of a circuit are two sums over these
incidents. Since the last new path the frames that arrived are summed up, and the same stretch is cut
into windows by the reports: a report tells of the last window in which the circuit carried a frame.

`Tells` is what the counters of one circuit say of its path. Every use keeps it, and the reports are read
off it.
-/

namespace Multipath.Simulation

inductive Use where
  | transmit (circuit : Nat)
  | feedback
  | reconnect (circuit : Nat)
  deriving DecidableEq

inductive Incident where
  | frame (circuit : Nat) (fate : Fate)
  | reported (reports : List PeerReport)
  | rebuilt (circuit : Nat) (succeeded : Bool)

namespace Incident

def meets (c : Nat) (fate : Fate) : Incident → Bool
  | frame circuit fate' => circuit = c && fate' = fate
  | _ => false

/-- The circuit has a new path. -/
def renews (c : Nat) : Incident → Bool
  | rebuilt circuit succeeded => circuit = c && succeeded
  | _ => false

/-- A window ends here. -/
def closes : Incident → Bool
  | reported _ => true
  | _ => false

end Incident

/-- Incidents, oldest first. -/
abbrev History := List Incident

namespace History

/-- Frames of a circuit that met this fate. -/
def count (c : Nat) (fate : Fate) (history : History) : Nat := history.countP (·.meets c fate)

/-- What has happened since the circuit got its path. -/
def path (c : Nat) (history : History) : History := (history.reverse.takeWhile (!·.renews c)).reverse

def windows (history : History) : List History := history.splitOnP Incident.closes

def carried (c : Nat) (window : History) : Nat := window.count c .lost + window.count c .delivered

/-- The percentage of frames that are missing at the end of some windows: that of the last one in which
the circuit carried a frame, and zero when there was none. -/
def missing (c : Nat) (windows : List History) : Float :=
  match (windows.filter (0 < carried c ·)).getLast? with
  | some window =>
      (window.count c .lost).toUInt64.toFloat * 100.0 / (carried c window).toUInt64.toFloat
  | none => 0.0

end History

namespace Network

def use (n : Network) : Use → Incident × Network
  | .transmit c => (.frame c (n.transmit c).1, (n.transmit c).2)
  | .feedback => (.reported n.feedback.1, n.feedback.2)
  | .reconnect c => (.rebuilt c (n.reconnect c).1, (n.reconnect c).2)

def run (n : Network) : List Use → History × Network
  | [] => ([], n)
  | u :: uses =>
      let (incident, n) := n.use u
      let (rest, n) := n.run uses
      (incident :: rest, n)

/-- Nothing has been done with the network. Its probabilities may be any. -/
def Unused (n : Network) : Prop :=
  ∀ v ∈ n.circuits, v = { loss := v.loss, sendFailure := v.sendFailure }

end Network

/-! ## One incident more -/

namespace History

variable {c : Nat} {history now : History} {incident : Incident} {closed : List History}

theorem exists_windows (history : History) : ∃ closed now, windows history = closed ++ [now] := by
  obtain none_ | ⟨closed, now, split⟩ := (windows history).eq_nil_or_concat
  · exact (List.splitOnP_ne_nil _ history none_).elim
  · exact ⟨closed, now, by rw [split, List.concat_eq_append]⟩

theorem windows_cons (first : Incident) (history : History) :
    windows (first :: history) =
      if first.closes then [] :: windows history else (windows history).modifyHead (first :: ·) :=
  List.splitOnP_cons_eq_if_modifyHead first history

/-- An incident that ends no window belongs to the last one. -/
theorem windows_concat (split : windows history = closed ++ [now])
    (inside : incident.closes = false) :
    windows (history ++ [incident]) = closed ++ [now ++ [incident]] := by
  induction history generalizing closed now with
  | nil =>
      have single : closed = [] ∧ now = [] := List.append_singleton_inj.1 (by rw [← split]; rfl)
      rw [single.1, single.2]
      exact List.splitOnP_eq_singleton (by simpa using inside)
  | cons first history ih =>
      obtain ⟨closed', now', rest⟩ := exists_windows history
      rw [windows_cons, rest] at split
      rw [List.cons_append, windows_cons, ih rest]
      by_cases ends : first.closes = true
      · rw [if_pos ends, ← List.cons_append] at split
        obtain ⟨rfl, rfl⟩ := List.append_singleton_inj.1 split
        rw [if_pos ends]
        rfl
      · rw [if_neg ends] at split ⊢
        cases closed' with
        | nil =>
            have only : [] ++ [first :: now'] = closed ++ [now] := split
            obtain ⟨rfl, rfl⟩ := List.append_singleton_inj.1 only
            rfl
        | cons oldest closed' =>
            have longer : ((first :: oldest) :: closed') ++ [now'] = closed ++ [now] := split
            obtain ⟨rfl, rfl⟩ := List.append_singleton_inj.1 longer
            rfl

theorem windows_close (history : History) (ends : incident.closes = true) :
    windows (history ++ [incident]) = windows history ++ [[]] := by
  rw [windows, List.splitOnP_append_cons history [] ends, List.splitOnP_nil]
  rfl

theorem path_concat (c : Nat) (history : History) (incident : Incident) :
    path c (history ++ [incident]) =
      if incident.renews c then [] else path c history ++ [incident] := by
  unfold path
  rw [List.reverse_append, List.reverse_singleton, List.singleton_append, List.takeWhile_cons]
  cases incident.renews c with
  | true => rfl
  | false => exact List.reverse_cons

theorem count_concat (c : Nat) (fate : Fate) (history : History) (incident : Incident) :
    count c fate (history ++ [incident]) =
      count c fate history + if incident.meets c fate then 1 else 0 := by
  simp [count, List.countP_append, List.countP_singleton]

theorem missing_concat (c : Nat) (closed : List History) (now : History) :
    missing c (closed ++ [now]) =
      if 0 < carried c now then
        (count c .lost now).toUInt64.toFloat * 100.0 / (carried c now).toUInt64.toFloat
      else missing c closed := by
  unfold missing
  rw [List.filter_append]
  by_cases carries : 0 < carried c now <;> simp [carries]

end History

/-! ## One circuit -/

/-- The counters are what the incidents of the path add up to. The windows of the path are closed ones, and
one that is still open. -/
def VirtualCircuit.Tells (c : Nat) (path : History) (v : VirtualCircuit) : Prop :=
  v.received = path.count c .delivered ∧
    ∃ closed now, path.windows = closed ++ [now] ∧
      v.sentInWindow = now.carried c ∧ v.lostInWindow = now.count c .lost ∧
      v.lastMissing = History.missing c closed

namespace VirtualCircuit.Tells

variable {c : Nat} {path : History} {v : VirtualCircuit}

theorem start {v : VirtualCircuit} (sent : v.sentInWindow = 0) (lost : v.lostInWindow = 0)
    (missing : v.lastMissing = 0.0) (received : v.received = 0) : v.Tells c [] :=
  ⟨received, [], [], List.splitOnP_nil, sent, lost, missing⟩

theorem lost_le_sent (tells : v.Tells c path) : v.lostInWindow ≤ v.sentInWindow := by
  obtain ⟨-, closed, now, -, sent, lost, -⟩ := tells
  rw [sent, lost]
  exact Nat.le_add_right _ _

theorem missing_eq (tells : v.Tells c path) : v.missing = History.missing c path.windows := by
  obtain ⟨-, closed, now, split, sent, lost, last⟩ := tells
  rw [split, History.missing_concat, VirtualCircuit.missing, sent, lost, last]

theorem frame (tells : v.Tells c path) (fate : Fate) :
    (v.meet fate).Tells c (path ++ [.frame c fate]) := by
  obtain ⟨received, closed, now, split, sent, lost, last⟩ := tells
  refine ⟨?_, closed, now ++ [.frame c fate], History.windows_concat split rfl, ?_, ?_, ?_⟩
  · rw [History.count_concat]
    cases fate <;> simp [meet, carry, Incident.meets, received]
  · rw [History.carried, History.count_concat, History.count_concat]
    cases fate <;> simp [meet, carry, Incident.meets, sent, History.carried]
    all_goals omega
  · rw [History.count_concat]
    cases fate <;> simp [meet, carry, Incident.meets, lost]
  · cases fate <;> exact last

/-- What happens elsewhere leaves the counters as they are. -/
theorem elsewhere {incident : Incident} (tells : v.Tells c path) (inside : incident.closes = false)
    (other : ∀ fate, incident.meets c fate = false) : v.Tells c (path ++ [incident]) := by
  obtain ⟨received, closed, now, split, sent, lost, last⟩ := tells
  refine ⟨?_, closed, now ++ [incident], History.windows_concat split inside, ?_, ?_, last⟩
  · simp [History.count_concat, other, received]
  · simp [History.carried, History.count_concat, other, sent]
  · simp [History.count_concat, other, lost]

theorem close (tells : v.Tells c path) (reports : List PeerReport) :
    v.closeWindow.Tells c (path ++ [.reported reports]) := by
  refine ⟨?_, path.windows, [], History.windows_close path rfl, rfl, rfl, tells.missing_eq⟩
  rw [History.count_concat]
  exact tells.1

end VirtualCircuit.Tells

/-! ## The network -/

namespace Network

/-- The counters of every circuit are what the incidents of its path add up to. -/
def Tells (history : History) (n : Network) : Prop :=
  ∀ (c : Nat) (v : VirtualCircuit), n.circuits[c]? = some v → v.Tells c (history.path c)

variable {n : Network} {history : History}

theorem tells_of_unused (unused : n.Unused) : n.Tells [] := by
  intro c v found
  have fresh := unused v (List.mem_of_getElem? found)
  rw [fresh]
  exact .start rfl rfl rfl rfl

theorem make_unused (loss sendFailure : List Float) (count : Nat) (rebuildSuccess : Float)
    (seed : UInt64) : (make loss sendFailure count rebuildSuccess seed).Unused := by
  intro v mem
  obtain ⟨i, -, rfl⟩ := List.mem_map.1 mem
  rfl

theorem Tells.transmit (tells : n.Tells history) (circuit : Nat) :
    (n.transmit circuit).2.Tells (history ++ [.frame circuit (n.transmit circuit).1]) := by
  intro c v found
  rw [transmit_circuits, List.getElem?_modify] at found
  obtain ⟨v, before, rfl⟩ := Option.map_eq_some_iff.1 found
  rw [History.path_concat, if_neg (by simp [Incident.renews])]
  split_ifs with same
  · subst same
    exact (tells circuit v before).frame _
  · exact (tells c v before).elsewhere rfl fun fate => by simp [Incident.meets, same]

theorem Tells.feedback (tells : n.Tells history) :
    n.feedback.2.Tells (history ++ [.reported n.feedback.1]) := by
  intro c v found
  have closed : (n.circuits.map VirtualCircuit.closeWindow)[c]? = some v := found
  rw [List.getElem?_map] at closed
  obtain ⟨v, before, rfl⟩ := Option.map_eq_some_iff.1 closed
  rw [History.path_concat, if_neg (by simp [Incident.renews])]
  exact (tells c v before).close _

theorem Tells.reconnect (tells : n.Tells history) (circuit : Nat) :
    (n.reconnect circuit).2.Tells (history ++ [.rebuilt circuit (n.reconnect circuit).1]) := by
  intro c v found
  obtain ⟨failed, same⟩ | ⟨loss, succeeded, -, renewed⟩ := n.reconnect_circuits circuit
  · rw [same] at found
    rw [failed, History.path_concat, if_neg (by simp [Incident.renews])]
    exact (tells c v found).elsewhere rfl fun _ => rfl
  · rw [renewed, List.getElem?_modify] at found
    obtain ⟨v, before, rfl⟩ := Option.map_eq_some_iff.1 found
    rw [succeeded, History.path_concat]
    by_cases own : circuit = c
    · rw [if_pos own, if_pos (by simp [Incident.renews, own])]
      exact .start rfl rfl rfl rfl
    · rw [if_neg own, if_neg (by simp [Incident.renews, own])]
      exact (tells c v before).elsewhere rfl fun _ => rfl

theorem Tells.use (tells : n.Tells history) (u : Use) :
    (n.use u).2.Tells (history ++ [(n.use u).1]) := by
  cases u with
  | transmit circuit => exact tells.transmit circuit
  | feedback => exact tells.feedback
  | reconnect circuit => exact tells.reconnect circuit

/-- A report is read off the counters. -/
theorem Tells.reports (tells : n.Tells history) {c : Nat} {report : PeerReport}
    (told : n.feedback.1[c]? = some report) :
    report.received = (history.path c).count c .delivered ∧
      report.missing = History.missing c (history.path c).windows := by
  obtain ⟨v, jitter, found, rfl⟩ := reports_getElem? told
  exact ⟨(tells c v found).1, (tells c v found).missing_eq⟩

/-- A use that concerns another circuit, or does not give a circuit its new path, leaves its record as it
is. -/
theorem use_elsewhere (n : Network) {u : Use} {c : Nat} (apart : u ≠ .transmit c) (open_ : u ≠ .feedback)
    (unrenewed : (n.use u).1.renews c = false) : (n.use u).2.circuits[c]? = n.circuits[c]? := by
  cases u with
  | transmit circuit =>
      have other : circuit ≠ c := fun same => apart (by rw [same])
      rw [Network.use, transmit_circuits, List.getElem?_modify_ne _ _ other]
  | feedback => exact (open_ rfl).elim
  | reconnect circuit =>
      obtain ⟨-, same⟩ | ⟨loss, succeeded, -, renewed⟩ := n.reconnect_circuits circuit
      · exact congrArg (·[c]?) same
      · have other : circuit ≠ c := by simpa [Network.use, Incident.renews, succeeded] using unrenewed
        rw [Network.use, renewed, List.getElem?_modify_ne _ _ other]

/-! ## Any number of uses -/

theorem Tells.run (tells : n.Tells history) (uses : List Use) :
    (n.run uses).2.Tells (history ++ (n.run uses).1) := by
  induction uses generalizing n history with
  | nil => simpa [Network.run] using tells
  | cons u uses ih =>
      have rest := ih (tells.use u)
      rwa [List.append_assoc] at rest

theorem use_length (n : Network) (u : Use) : (n.use u).2.circuits.length = n.circuits.length := by
  cases u with
  | transmit circuit => rw [Network.use, transmit_circuits, List.length_modify]
  | feedback => exact List.length_map _
  | reconnect circuit =>
      obtain ⟨-, same⟩ | ⟨loss, -, -, renewed⟩ := n.reconnect_circuits circuit
      · exact congrArg List.length same
      · rw [Network.use, renewed, List.length_modify]

theorem feedback_length (n : Network) : n.feedback.1.length = n.circuits.length := by
  have received := congrArg List.length (reports_received n.generator n.circuits)
  rw [List.length_map, List.length_map] at received
  exact received

/-- A report of a run is given by a network that the incidents before it led to. -/
theorem Tells.reported {uses : List Use} {past since : History} {reports : List PeerReport}
    (tells : n.Tells history) (split : (n.run uses).1 = past ++ .reported reports :: since) :
    ∃ n' : Network, n'.Tells (history ++ past) ∧ n'.circuits.length = n.circuits.length ∧
      reports = n'.feedback.1 := by
  induction uses generalizing n history past with
  | nil => simp [Network.run] at split
  | cons u uses ih =>
      have told : (n.use u).1 :: ((n.use u).2.run uses).1 = past ++ .reported reports :: since := split
      cases past with
      | nil =>
          obtain ⟨first, -⟩ := List.cons.inj told
          refine ⟨n, by rwa [List.append_nil], rfl, ?_⟩
          cases u with
          | feedback =>
              cases first
              rfl
          | _ => cases first
      | cons incident past =>
          obtain ⟨rfl, later⟩ := List.cons.inj told
          obtain ⟨n', tells', length, reports⟩ := ih (tells.use u) later
          rw [List.append_assoc] at tells'
          exact ⟨n', tells', length.trans (n.use_length u), reports⟩

/-- In every feedback message of a run each circuit has a report. It gives the frames that arrived on the
path in use, and what was missing in the last window of that path in which the circuit carried any. -/
theorem feedback_measures (unused : n.Unused) (uses : List Use) :
    let r := n.run uses
    (∀ (past : History) reports since, r.1 = past ++ .reported reports :: since →
      reports.length = n.circuits.length ∧
        ∀ c report, reports[c]? = some report →
          report.received = (past.path c).count c .delivered ∧
            report.missing = History.missing c (past.path c).windows) ∧
      (∀ v ∈ r.2.circuits, v.lostInWindow ≤ v.sentInWindow) ∧
      ∀ c u, u ≠ .transmit c → u ≠ .feedback → (r.2.use u).1.renews c = false →
        (r.2.use u).2.circuits[c]? = r.2.circuits[c]? := by
  intro r
  have tells : n.Tells [] := tells_of_unused unused
  refine ⟨fun past reports since split => ?_, fun v mem => ?_, fun c u => r.2.use_elsewhere⟩
  · obtain ⟨n', tells', length, rfl⟩ := tells.reported split
    exact ⟨n'.feedback_length.trans length, fun c report => tells'.reports⟩
  · obtain ⟨c, found⟩ := List.mem_iff_getElem?.1 mem
    exact (tells.run uses c v found).lost_le_sent

/-- Circuit 1 loses all its frames, and the peer repeats that while nothing is sent. Then the circuit gets a
new path in the middle of a window. -/
def lossy : List Use :=
  [.transmit 1, .transmit 0, .transmit 1, .feedback, .feedback, .transmit 1, .reconnect 1, .feedback]

theorem feedback_measures_lossy :
    let n := make [0.0, 1.0] [] 2 1.0 2
    let idle := n.run (lossy.take 4)
    let reports := idle.2.feedback.1
    n.Unused ∧
      (n.run lossy).1 = idle.1 ++ .reported reports :: (idle.2.feedback.2.run (lossy.drop 5)).1 ∧
      reports.map PeerReport.missing = [0.0, 100.0] ∧
      (n.run lossy).2.feedback.1.map PeerReport.missing = [0.0, 0.0] ∧
      ∀ c report, reports[c]? = some report →
        report.received = (idle.1.path c).count c .delivered ∧
          report.missing = History.missing c (idle.1.path c).windows := by
  intro n idle reports
  have unused : n.Unused := make_unused _ _ _ _ _
  have split : (n.run lossy).1 =
      idle.1 ++ .reported reports :: (idle.2.feedback.2.run (lossy.drop 5)).1 := rfl
  refine ⟨unused, split, by decide +kernel, by decide +kernel, ?_⟩
  exact ((feedback_measures unused lossy).1 _ _ _ split).2

end Network

end Multipath.Simulation
