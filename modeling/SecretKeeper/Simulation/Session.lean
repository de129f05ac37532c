/-
# Sessions

A session takes the controller through one step after another: cycles and deliveries, and
the parts they are made of.  Between the steps it keeps the stores, the source of random
bytes and the backoffs.
-/
import SecretKeeper.Controller.Delivery
import SecretKeeper.Simulation.Bench

namespace SecretKeeper.Simulation

/-- One step. -/
inductive Step where
  | cycle (key : Key)
  /-- Delivers a claim, and hands an error to the error policy if `policy` is set. -/
  | deliver (claim : Claim) (policy : Bool)
  | advanceBackoff (key : String)
  | forgetBackoff (key : String)
  | poisonBackoff
  | reportSync (claim : Claim) (demand : Demand)
  | reportFailure (claim : Claim) (message : String)
  | create (claim : Claim) (demand : Demand)
  | update (existing : Secret) (demand : Demand)
  /-- A step for a claim whose spec is refused. -/
  | refuse (e : ValidationError)
  | call (call : StoreCall)
  | handle (claim : Claim) (e : DeliveryError)

/-- What the error policy decides. -/
abbrev Decision := Except BeyondCalendar Action

/-- What a step comes to. -/
inductive Result where
  | cycled (ending : Except CycleError Outcome)
  | delivered (action : Action)
  | undelivered (e : DeliveryError) (decision : Option Decision)
  | delay (seconds errorCount : Nat)
  | forgotten
  | poisoned
  | refused (e : ValidationError)
  | reported (written : Bool)
  | materialized (ending : Except CycleError Unit)
  | called (call : StoreCall) (answer : call.Answer)
  | handled (decision : Decision)

/-- A session with stores in states `S`. -/
structure Session (S : Type) where
  bench : Bench S
  settings : Settings := .standard
  /-- The time at which the error policy decides. -/
  clock : Instant
  backoffs : BackoffTable := .empty

namespace Session

variable {S : Type}

/-- Runs a program of the controller on the bench. -/
def run {α : Type} (stores : StoreServer S) (p : Controller α) (s : Session S) :
    α × Session S :=
  let (a, bench) := p.run (Bench.serve stores) s.bench
  (a, { s with bench := bench })

/-- Hands an error to the error policy. -/
def handle (stores : StoreServer S) (claim : Claim) (e : DeliveryError) (s : Session S) :
    Decision × Session S :=
  let ((decision, backoffs), s) :=
    s.run stores (Controller.handleError s.settings s.clock claim e s.backoffs)
  (decision, { s with backoffs := backoffs })

/-- Delivers a claim. -/
def deliver (stores : StoreServer S) (claim : Claim) (s : Session S) :
    Except DeliveryError Action × Session S :=
  let (result, backoffs, bench) :=
    Controller.deliver (Bench.serve stores) s.settings claim s.backoffs s.bench
  (result, { s with bench := bench, backoffs := backoffs })

/-- Takes one step. -/
def take (stores : StoreServer S) (step : Step) (s : Session S) : Result × Session S :=
  match step with
  | .cycle key =>
    let (ending, s) := s.run stores (Controller.cycle key)
    (.cycled ending, s)
  | .deliver claim policy =>
    match s.deliver stores claim with
    | (.ok action, s) => (.delivered action, s)
    | (.error e, s) =>
      if policy then
        let (decision, s) := s.handle stores claim e
        (.undelivered e (some decision), s)
      else (.undelivered e none, s)
  | .advanceBackoff key =>
    let ((seconds, errors), backoffs) :=
      s.backoffs.advance s.settings.backoffMinMinutes s.settings.backoffMaxMinutes key
    (.delay seconds errors, { s with backoffs := backoffs })
  | .forgetBackoff key => (.forgotten, { s with backoffs := s.backoffs.forget key })
  | .poisonBackoff => (.poisoned, { s with backoffs := .poisoned })
  | .reportSync claim demand =>
    let (written, s) := s.run stores (Controller.reportSync claim demand)
    (.reported written, s)
  | .reportFailure claim message =>
    let (written, s) := s.run stores (Controller.reportFailure claim message)
    (.reported written, s)
  | .create claim demand =>
    let (ending, s) := s.run stores (Controller.createSecret claim demand)
    (.materialized ending, s)
  | .update existing demand =>
    let (ending, s) := s.run stores (Controller.updateSecret existing demand)
    (.materialized ending, s)
  | .refuse e => (.refused e, s)
  | .call call =>
    let (answer, s) := s.run stores (Controller.call call)
    (.called call answer, s)
  | .handle claim e =>
    let (decision, s) := s.handle stores claim e
    (.handled decision, s)

end Session

end SecretKeeper.Simulation
