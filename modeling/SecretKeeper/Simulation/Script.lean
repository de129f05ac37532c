/-
# A scripted API server

Answers requests from a list, one after the other, and keeps what was sent.  Once the list
is used up no request gets through.  Requests are sent by another party, so each of them
waits for its turn.
-/
import SecretKeeper.Api.Store
import SecretKeeper.Simulation.Memory

namespace SecretKeeper.Simulation

/-- What comes back for one request, after some milliseconds. -/
structure Scripted where
  exchange : Api.Exchange
  delay : Nat := 0

/-- What comes back for the requests that are still to come, and the requests so far. -/
structure Script where
  responses : List Scripted
  /-- The requests sent, the last one first. -/
  sent : List Api.Request := []

namespace Script

/-- What comes back once the list is used up. -/
def exhausted : Scripted := { exchange := .failed "no response scripted" }

/-- Answers a request. -/
def send (request : Api.Request) (s : Script) : Program.Reply Script Api.Exchange :=
  let response := s.responses.headD exhausted
  let after : Script := { responses := s.responses.tail, sent := request :: s.sent }
  { queued := true
    issued := after
    delay := response.delay
    answer := response.exchange
    after := after }

/-- Answers a store call by the requests that it makes under the name of `manager`. -/
def serve (manager : String) : StoreServer Script := fun call s =>
  match Api.Store.prepare manager call with
  | .error e => { issued := s, delay := 0, answer := .error e, after := s }
  | .ok request =>
    let reply := s.send request
    { queued := reply.queued
      issued := reply.issued
      delay := reply.delay
      answer := Api.Store.interpret call reply.answer
      after := reply.after }

/-- The requests sent, in order. -/
def requests (s : Script) : List Api.Request := s.sent.reverse

end Script

end SecretKeeper.Simulation
