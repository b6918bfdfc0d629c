import Multipath.Scheduler.Basic
/-!
# The circuit for the next frame

While a call is being established every circuit is probed in turn. After that frames go out in bursts;
a burst ends early when its circuit may no longer be chosen. A new burst goes to one of the circuits
that may be chosen, ranked by score, by one draw against the weights of the ranks. When none may be
chosen the least bad circuit is forced back into service, so that a frame always has somewhere to go.
-/

namespace Multipath.Scheduler

abbrev Ranked := Health × Nat

/-- The order of the ranks: by score, and by number between equal scores. -/
def better (a b : Ranked) : Bool :=
  a.1.standing < b.1.standing || (a.1.standing = b.1.standing && a.2 ≤ b.2)

def best? : List Ranked → Option Ranked
  | [] => none
  | a :: rest => some (rest.foldl (fun b c => if better b c then b else c) a)

/-- The circuits that may be chosen, best first. -/
def ranked (s : Scheduler) (now : Instant) : List Ranked :=
  (s.circuits.zipIdx.filter (·.1.selectable now)).mergeSort better

/-- The circuit to force back into service. One that is being rebuilt only when there is no other. -/
def leastBad (s : Scheduler) : Nat :=
  let all := s.circuits.zipIdx
  match (best? (all.filter (!·.1.rebuilding))).or (best? all) with
  | some (_, circuit) => circuit
  | none => 0

/-- No cooldown any more, and the least weight. -/
def rescue (s : Scheduler) : Nat × Scheduler × List Notice :=
  let circuit := s.leastBad
  let minWeight := s.settings.selection.minWeight
  match s.circuits[circuit]? with
  | none => (circuit, s, [])
  | some h =>
    let h := { h with coolingUntil := none, weight := minWeight }
    (circuit, { s with circuits := s.circuits.set circuit h },
      [.rescue circuit h.score, .event (.rescued circuit)])

/-- A fresh choice. A draw is taken only when there are two circuits or more to choose from. -/
def choose (s : Scheduler) (now : Instant) : Nat × Scheduler × List Notice :=
  match s.ranked now with
  | [] => s.rescue
  | [(_, circuit)] => (circuit, s, [])
  | candidates =>
    let weights := normalizedWeights s.settings.selection.rankWeights (candidates.map (·.1.weight))
    let (draw, generator) := s.generator.unit
    let circuit := (candidates[pickWeighted weights draw]?).elim 0 (·.2)
    (circuit, { s with generator }, [])

def burstHolds (s : Scheduler) (now : Instant) : Bool :=
  s.circuits[s.burst.circuit]?.any (·.selectable now)

def pick (s : Scheduler) (now : Instant) : Nat × Scheduler × List Notice :=
  if s.phase now = .establishment then
    let circuit := (s.burst.circuit + 1) % s.size
    (circuit, { s with burst := (Burst.start circuit).spent }, [])
  else
    let burst := if s.burstHolds now then s.burst else s.burst.spent
    match burst.next? s.settings.selection.burstSize.toNat with
    | some burst => (burst.circuit, { s with burst }, [])
    | none =>
      let (circuit, s, notices) := s.choose now
      (circuit, { s with burst := .start circuit }, notices)

end Multipath.Scheduler
