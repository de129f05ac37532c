/-
# The bench

Where programs of the controller are run: stores of any make, a source of random bytes, a
clock that stands still, and an account of the counters that moved and the spans that
opened.
-/
import SecretKeeper.Controller.Effect
import SecretKeeper.Simulation.Memory

namespace SecretKeeper.Simulation

/-- A bench with stores in states `S`. -/
structure Bench (S : Type) where
  stores : S
  entropy : Entropy
  /-- The time, as it is written into a status. -/
  stamp : String := ""
  tally : Tally := .empty
  /-- The spans that opened, by name, with their fields. -/
  spans : Dict (Dict String) := ∅
  /-- The spans that have not closed yet, the innermost first. -/
  current : List String := []

namespace Bench

variable {S : Type}

/-- The bench with a clean account at another time. -/
def fresh (stamp : String) (b : Bench S) : Bench S :=
  { b with
    stamp := stamp
    entropy := b.entropy.restarted
    tally := .empty
    spans := ∅
    current := [] }

/-- A span opens. -/
def enter (span : String) (fields : List (String × String)) (b : Bench S) : Bench S :=
  { b with
    spans := b.spans.insert span (Std.ExtTreeMap.ofList fields)
    current := span :: b.current }

/-- The innermost span closes. -/
def leave (b : Bench S) : Bench S := { b with current := b.current.tail }

/-- A field of the innermost span gets a value. -/
def note (field value : String) (b : Bench S) : Bench S :=
  match b.current with
  | [] => b
  | span :: _ =>
    { b with spans := b.spans.insert span ((b.spans[span]?.getD ∅).insert field value) }

/-- The answer to a request that takes no time. -/
def atOnce {A : Type} (answer : A) (after : Bench S) : Program.Reply (Bench S) A :=
  { issued := after, delay := 0, answer := answer, after := after }

/-- Answers the requests of the controller. -/
def serve (stores : StoreServer S) : Program.Server controllerInterface (Bench S)
  | .store call, b =>
    let reply := stores call b.stores
    { queued := reply.queued
      issued := { b with stores := reply.issued }
      delay := reply.delay
      answer := reply.answer
      after := { b with stores := reply.after } }
  | .draw encoding length, b =>
    let (value, entropy) := b.entropy.generate encoding length
    atOnce value { b with entropy := entropy }
  | .now, b => atOnce b.stamp b
  | .count counter n, b => atOnce () { b with tally := b.tally.count counter n }
  | .observe, b => atOnce () { b with tally := b.tally.observe }
  | .enter span fields, b => atOnce () (b.enter span fields)
  | .leave, b => atOnce () b.leave
  | .note field value, b => atOnce () (b.note field value)

end Bench

end SecretKeeper.Simulation
