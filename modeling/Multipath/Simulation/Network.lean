import Multipath.Circuit.Health
import Multipath.Random.Generator
/-!
# A network of virtual circuits

Each circuit fails local sends and loses frames with fixed probabilities. The peer's view of a window
is its loss, of which it conceals four fifths; a window without traffic repeats the last one. A
circuit that is rebuilt gets a fresh path: a loss drawn from the healthy range, and counters at zero.
-/

namespace Multipath.Simulation

inductive Fate where
  | sendFailed
  | lost
  | delivered
  deriving DecidableEq, Repr

structure VirtualCircuit where
  loss : Float := 0.0
  sendFailure : Float := 0.0
  /-- Frames sent since the last feedback message. -/
  sentInWindow : Nat := 0
  lostInWindow : Nat := 0
  /-- Missing percentage of the last window with traffic. -/
  lastMissing : Float := 0.0
  /-- Frames the peer received on the path in use. -/
  received : Nat := 0
  reconnects : Nat := 0
  deriving DecidableEq

structure Network where
  circuits : List VirtualCircuit
  generator : Random.Generator
  rebuildSuccess : Float

namespace VirtualCircuit

/-- A frame that was sent: lost or delivered. -/
def carry (c : VirtualCircuit) (lost : Bool) : VirtualCircuit :=
  if lost then
    { c with sentInWindow := c.sentInWindow + 1, lostInWindow := c.lostInWindow + 1 }
  else { c with sentInWindow := c.sentInWindow + 1, received := c.received + 1 }

/-- The missing percentage of the window, or of the last one that had traffic. -/
def missing (c : VirtualCircuit) : Float :=
  if 0 < c.sentInWindow then
    c.lostInWindow.toUInt64.toFloat * 100.0 / c.sentInWindow.toUInt64.toFloat
  else c.lastMissing

/-- The peer's report, with `jitter` percent of late frames besides those that loss makes late. -/
def report (c : VirtualCircuit) (jitter : Float) : PeerReport where
  late := jitter + c.missing * 0.2
  missing := c.missing
  concealed := c.missing * 0.8
  received := c.received

def closeWindow (c : VirtualCircuit) : VirtualCircuit :=
  { c with lastMissing := c.missing, sentInWindow := 0, lostInWindow := 0 }

def reconnect (c : VirtualCircuit) (loss : Float) : VirtualCircuit :=
  { c with
    loss
    sentInWindow := 0
    lostInWindow := 0
    lastMissing := 0.0
    received := 0
    reconnects := c.reconnects + 1 }

end VirtualCircuit

namespace Network

/-- Circuits with their probabilities; those that are not given are zero. -/
def make (loss sendFailure : List Float) (count : Nat) (rebuildSuccess : Float) (seed : UInt64) :
    Network where
  circuits := (List.range count).map fun i =>
    { loss := loss.getD i 0.0, sendFailure := sendFailure.getD i 0.0 }
  generator := .ofSeed seed
  rebuildSuccess

def setCircuit (n : Network) (circuit : Nat) (c : VirtualCircuit) : Network :=
  { n with circuits := n.circuits.set circuit c }

/-- One frame on a circuit: a draw for the send, and one for the loss if it went out. A circuit that
does not exist fails the send without a draw. -/
def transmit (n : Network) (circuit : Nat) : Fate × Network :=
  match n.circuits[circuit]? with
  | none => (.sendFailed, n)
  | some c =>
    let (draw, generator) := n.generator.unit
    let n := { n with generator }
    if draw < c.sendFailure then (.sendFailed, n)
    else
      let (draw, generator) := n.generator.unit
      let n := { n with generator }
      let lost := decide (draw < c.loss)
      (if lost then .lost else .delivered, n.setCircuit circuit (c.carry lost))

/-- Reports of circuits in order, each with a draw for its jitter. -/
def reports (generator : Random.Generator) :
    List VirtualCircuit → List PeerReport × Random.Generator
  | [] => ([], generator)
  | c :: rest =>
    let (jitter, generator) := generator.below 2.0
    let (others, generator) := reports generator rest
    (c.report jitter :: others, generator)

def feedback (n : Network) : List PeerReport × Network :=
  let (all, generator) := reports n.generator n.circuits
  (all, { n with circuits := n.circuits.map VirtualCircuit.closeWindow, generator })

/-- A circuit is torn down and built anew: a draw for the success, and one for the loss of the new
path, which stays below two in a hundred. -/
def reconnect (n : Network) (circuit : Nat) : Bool × Network :=
  let (draw, generator) := n.generator.unit
  let n := { n with generator }
  let succeeded := decide (draw < n.rebuildSuccess)
  match n.circuits[circuit]? with
  | none => (false, n)
  | some c =>
    if succeeded then
      let (loss, generator) := n.generator.below 0.02
      (true, { n with generator }.setCircuit circuit (c.reconnect loss))
    else (false, n)

end Network

/-! What becomes of the circuits, whatever is drawn. -/

/-- The circuit of a frame after the frame. -/
def VirtualCircuit.meet (c : VirtualCircuit) : Fate → VirtualCircuit
  | .sendFailed => c
  | .lost => c.carry true
  | .delivered => c.carry false

namespace Network

theorem setCircuit_circuits {n : Network} {circuit : Nat} {c : VirtualCircuit}
    (found : n.circuits[circuit]? = some c) (f : VirtualCircuit → VirtualCircuit) :
    (n.setCircuit circuit (f c)).circuits = n.circuits.modify circuit f := by
  obtain ⟨inside, rfl⟩ := List.getElem?_eq_some_iff.1 found
  refine List.ext_getElem? fun j => ?_
  rw [setCircuit, List.getElem?_modify]
  by_cases same : circuit = j
  · subst j
    simp [inside]
  · simp [same]

theorem transmit_circuits (n : Network) (circuit : Nat) :
    (n.transmit circuit).2.circuits = n.circuits.modify circuit (·.meet (n.transmit circuit).1) := by
  cases found : n.circuits[circuit]? with
  | none => simp [transmit, found, List.modify_eq_self (List.getElem?_eq_none_iff.1 found)]
  | some c =>
      have failed : n.circuits.modify circuit (·.meet .sendFailed) = n.circuits :=
        List.modify_id circuit n.circuits
      simp only [transmit, found]
      split
      · exact failed.symm
      · cases decide (n.generator.unit.2.unit.1 < c.loss) with
        | true => exact setCircuit_circuits (by exact found) (·.carry true)
        | false => exact setCircuit_circuits (by exact found) (·.carry false)

/-- The peer reports what it has received. -/
theorem reports_received (generator : Random.Generator) (circuits : List VirtualCircuit) :
    (reports generator circuits).1.map PeerReport.received =
      circuits.map VirtualCircuit.received := by
  induction circuits generalizing generator with
  | nil => rfl
  | cons c rest ih => exact congrArg (c.received :: ·) (ih _)

/-- Every report is of the circuit in its place. -/
theorem reports_getElem? {generator : Random.Generator} {circuits : List VirtualCircuit} {c : Nat}
    {report : PeerReport} (told : (reports generator circuits).1[c]? = some report) :
    ∃ v jitter, circuits[c]? = some v ∧ report = v.report jitter := by
  induction circuits generalizing generator c with
  | nil => simp [reports] at told
  | cons v rest ih =>
      cases c with
      | zero => exact ⟨v, _, rfl, (Option.some.inj told).symm⟩
      | succ c => exact ih told

theorem received_of_mem {n : Network} {circuit : Nat} {report : PeerReport}
    (mem : (circuit, report) ∈ n.feedback.1.zipIdx.map fun (report, circuit) => (circuit, report)) :
    ∃ c, n.circuits[circuit]? = some c ∧ report.received = c.received := by
  obtain ⟨⟨report', circuit'⟩, told, same⟩ := List.mem_map.1 mem
  cases same
  have found : n.feedback.1[circuit]? = some report := List.mem_zipIdx_iff_getElem?.1 told
  have received : (n.feedback.1.map PeerReport.received)[circuit]? =
      (n.circuits.map VirtualCircuit.received)[circuit]? :=
    congrArg (fun all => all[circuit]?) (reports_received n.generator n.circuits)
  rw [List.getElem?_map, List.getElem?_map, found] at received
  obtain ⟨c, found', same⟩ := Option.map_eq_some_iff.1 received.symm
  exact ⟨c, found', same.symm⟩

/-- A circuit that was built anew exists, and has a path of its own. -/
theorem reconnect_circuits (n : Network) (circuit : Nat) :
    ((n.reconnect circuit).1 = false ∧ (n.reconnect circuit).2.circuits = n.circuits) ∨
    ∃ loss, (n.reconnect circuit).1 = true ∧ circuit < n.circuits.length ∧
      (n.reconnect circuit).2.circuits = n.circuits.modify circuit (·.reconnect loss) := by
  cases found : n.circuits[circuit]? with
  | none => exact .inl (by simp [reconnect, found])
  | some c =>
      by_cases drawn : n.generator.unit.1 < n.rebuildSuccess
      · right
        refine ⟨(n.generator.unit.2.below 0.02).1, by simp [reconnect, found, drawn],
          (List.getElem?_eq_some_iff.1 found).1, ?_⟩
        simp only [reconnect, found, drawn, decide_true, if_true]
        exact setCircuit_circuits (by exact found) (·.reconnect _)
      · exact .inl (by simp [reconnect, found, drawn])

end Network

end Multipath.Simulation
