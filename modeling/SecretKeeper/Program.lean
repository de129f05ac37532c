/-
# Programs that ask

A program is data: it is done, or it asks for something and goes on with the answer.  What
it may ask for, and what it is then answered with, is its interface.  Nothing else can
happen between two requests, so a program cut off at any moment has made the first few of
the requests that it would have made.

A server answers requests against a world.  `Program.run` follows a program to its end;
`Program.runWithin` gives it a limited time, which only the delays of the answers use up.
-/

namespace SecretKeeper

/-- The requests that a program may make, and the answers to them. -/
structure Interface where
  Request : Type
  Answer : Request → Type

/-- A program over an interface, with a result. -/
inductive Program (I : Interface) (α : Type) where
  | done (result : α)
  | ask (request : I.Request) (resume : I.Answer request → Program I α)

namespace Program

variable {I : Interface} {α β : Type}

/-! ## 1. Composition -/

/-- One program after the other. -/
def bind : Program I α → (α → Program I β) → Program I β
  | .done a, f => f a
  | .ask r resume, f => .ask r fun answer => (resume answer).bind f

instance : Monad (Program I) where
  pure := .done
  bind := bind

/-- The program that makes one request and gives its answer. -/
def request (r : I.Request) : Program I (I.Answer r) := .ask r .done

@[simp] theorem pure_eq (a : α) : (pure a : Program I α) = .done a := rfl

@[simp] theorem done_bind (a : α) (f : α → Program I β) :
    (Program.done a >>= f : Program I β) = f a := rfl

@[simp] theorem ask_bind (r : I.Request) (resume : I.Answer r → Program I α)
    (f : α → Program I β) :
    (Program.ask r resume >>= f : Program I β) = .ask r fun answer => resume answer >>= f :=
  rfl

/-! ## 2. Running -/

/-- The answer to one request, and how the world changes with it. -/
structure Reply (W A : Type) where
  /-- The request first waits for its turn, which takes no time but comes only while some is
  left. -/
  queued : Bool := false
  /-- The world once the request is made. -/
  issued : W
  /-- The milliseconds that pass before the request takes effect. -/
  delay : Nat
  answer : A
  /-- The world once the request is answered. -/
  after : W

/-- Answers every request of the interface, in any state of the world. -/
abbrev Server (I : Interface) (W : Type) := (r : I.Request) → W → Reply W (I.Answer r)

variable {W : Type}

/-- The result of a program, and the world that it leaves. -/
def run (serve : Server I W) : Program I α → W → α × W
  | .done a, w => (a, w)
  | .ask r resume, w =>
    let reply := serve r w
    (resume reply.answer).run serve reply.after

/-- The same within `budget` milliseconds: where the next delay exceeds what is left, the
program is cut off, and the request that it had just made does not take effect.  Once
nothing is left, a request that waits for its turn is not even made. -/
def runWithin (serve : Server I W) : Program I α → (budget : Nat) → W → Option α × W
  | .done a, _, w => (some a, w)
  | .ask r resume, budget, w =>
    let reply := serve r w
    if reply.queued && budget == 0 then (none, w)
    else if budget < reply.delay then (none, reply.issued)
    else (resume reply.answer).runWithin serve (budget - reply.delay) reply.after

theorem run_bind (serve : Server I W) (p : Program I α) (f : α → Program I β) (w : W) :
    (p >>= f : Program I β).run serve w =
      (f (p.run serve w).1).run serve (p.run serve w).2 := by
  induction p generalizing w with
  | done a => rfl
  | ask r resume ih => simp only [ask_bind, run, ih]

end Program

end SecretKeeper
