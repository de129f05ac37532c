/-
# What the controller asks for

Store calls, generated values, the time, and three requests that only keep account: a
counter moves, a duration is observed, and a field of the current span gets a value.
-/
import SecretKeeper.Metrics
import SecretKeeper.Program
import SecretKeeper.Store
import SecretKeeper.Value.Generator

namespace SecretKeeper

/-- A request of the controller. -/
inductive Effect where
  | store (call : StoreCall)
  /-- A fresh value of `length` characters. -/
  | draw (encoding : Encoding) (length : Nat)
  /-- The time, as it is written into a status. -/
  | now
  | count (counter : Counter) (n : Nat)
  /-- The duration of a cycle is observed. -/
  | observe
  /-- A span opens, with its first fields. -/
  | enter (span : String) (fields : List (String × String))
  /-- The current span closes. -/
  | leave
  /-- A field of the current span gets a value; without a span nothing happens. -/
  | note (field value : String)
deriving DecidableEq

namespace Effect

/-- What a request is answered with. -/
def Answer : Effect → Type
  | .store call => call.Answer
  | .draw _ _ => Except EntropyFailure String
  | .now => String
  | _ => Unit

end Effect

/-- The interface of the controller. -/
abbrev controllerInterface : Interface := ⟨Effect, Effect.Answer⟩

/-- A program of the controller. -/
abbrev Controller (α : Type) := Program controllerInterface α

namespace Controller

/-- Makes a store call. -/
def call (c : StoreCall) : Controller c.Answer :=
  Program.request (I := controllerInterface) (.store c)

/-- Draws a value. -/
def draw (encoding : Encoding) (length : Nat) : Controller (Except EntropyFailure String) :=
  Program.request (I := controllerInterface) (.draw encoding length)

/-- Reads the clock. -/
def now : Controller String := Program.request (I := controllerInterface) .now

/-- Moves a counter. -/
def count (counter : Counter) (n : Nat) : Controller Unit :=
  Program.request (I := controllerInterface) (.count counter n)

/-- Observes the duration of a cycle. -/
def observe : Controller Unit := Program.request (I := controllerInterface) .observe

/-- Opens a span. -/
def enter (span : String) (fields : List (String × String)) : Controller Unit :=
  Program.request (I := controllerInterface) (.enter span fields)

/-- Closes the current span. -/
def leave : Controller Unit := Program.request (I := controllerInterface) .leave

/-- Gives a field of the current span its value. -/
def note (field value : String) : Controller Unit :=
  Program.request (I := controllerInterface) (.note field value)

end Controller

end SecretKeeper
