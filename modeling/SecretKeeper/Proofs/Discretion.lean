/-
# Commands show no values

The claims that a command reads may hold plain values, and the command prints what it reads,
puts it into messages, and makes a patch from it.  None of this depends on the values: two
conversations with the API server that are the same but for them (`Exchange.SameButValues`) end
the same way, with the same requests and the same text printed (`values_never_shown`).

The values may be any in an answer that the command can read (`Command.reads`).  Where it cannot,
as in a list with a good claim and a bad one, it passes on what the parser complains of, and the
place where the parser stood moves with the values before it.  So there the complaint must be the
same in both conversations.

A command depends on an answer through the claim it reads there, or the claims it lists, and by
`Masking` they are the same behind a mask.  What is printed of a claim is the same then.
-/
import SecretKeeper.Proofs.Consent
import SecretKeeper.Proofs.Likeness
import SecretKeeper.Proofs.Masking

namespace SecretKeeper

open Api

/-! ## 1. Conversations -/

/-- The answers are the same but for the values in the data of claims, which only a successful
answer has.  If it is not one that can be read, the parser complains of the same. -/
inductive Api.Exchange.SameButValues (reads : Json → Bool) : (x x' : Exchange) → Prop
  | same (x : Exchange) : SameButValues reads x x
  | values {status : Nat} {body body' complaint complaint' : String} {j j' : Json}
      (success : ¬ (400 ≤ status ∧ status < 600)) (parsed : Json.parse? body = some j)
      (parsed' : Json.parse? body' = some j') (alike : j.maskAnswer = j'.maskAnswer)
      (legible : reads j = true ∨ complaint = complaint') :
      SameButValues reads (.answered status body complaint) (.answered status body' complaint')

/-- What is read of masked answers is all that is read of the answers. -/
theorem Api.Response.value?_alike {α γ : Type} {read : Json → Option α} {view : α → γ}
    {masked : Json → Option γ} (h : ∀ j : Json, (read j).map view = masked j.maskAnswer)
    {x x' : Exchange} (hx : x.SameButValues (fun j => (read j).isSome) x') :
    (value? read x).map view = (value? read x').map view := by
  cases hx with
  | same => rfl
  | @values status body body' complaint complaint' j j' success parsed parsed' alike legible =>
    have hview : (read j).map view = (read j').map view := by rw [h, h, alike]
    have value {body : String} (complaint : String) {j : Json} (hj : Json.parse? body = some j) :
        (value? read (.answered status body complaint)).map view =
          ((read j).map view).elim (.error (.unreadable complaint)) .ok := by
      simp only [value?, body?, if_neg success, bind, Except.bind, hj, Option.bind_some]
      cases read j <;> rfl
    rw [value complaint parsed, value complaint' parsed', ← hview]
    rcases legible with legible | rfl
    · obtain ⟨a, ha⟩ := Option.isSome_iff_exists.mp legible
      rw [ha]
      rfl
    · rfl

namespace Simulation

/-- The responses are the same but for values, after the same time. -/
structure Scripted.SameButValues (reads : Json → Bool) (r r' : Scripted) : Prop where
  exchange : r.exchange.SameButValues reads r'.exchange
  delay : r.delay = r'.delay

/-- The terminals are the same, but that the responses to come may differ in values. -/
structure Terminal.SameButValues (reads : Json → Bool) (t t' : Terminal) : Prop where
  responses : List.Forall₂ (Scripted.SameButValues reads) t.script.responses t'.script.responses
  sent : t.script.sent = t'.script.sent
  input : t.input = t'.input
  stamp : t.stamp = t'.stamp
  printed : t.printed = t'.printed

section Terminals

variable {reads : Json → Bool} {t t' : Terminal}

/-- The next response, and those after it. -/
theorem Scripted.SameButValues.cut {responses responses' : List Scripted}
    (h : List.Forall₂ (Scripted.SameButValues reads) responses responses') :
    (responses.headD Script.exhausted).SameButValues reads (responses'.headD Script.exhausted) ∧
      List.Forall₂ (Scripted.SameButValues reads) responses.tail responses'.tail := by
  cases h with
  | nil => exact ⟨⟨.same _, rfl⟩, .nil⟩
  | cons first rest => exact ⟨first, rest⟩

/-- They do when they read a line. -/
theorem Terminal.SameButValues.reading (h : t.SameButValues reads t') :
    Terminal.SameButValues reads { t with input := (Terminal.cutLine t.input).2 }
      { t' with input := (Terminal.cutLine t'.input).2 } where
  responses := h.responses
  sent := h.sent
  input := congrArg (fun input => (Terminal.cutLine input).2) h.input
  stamp := h.stamp
  printed := h.printed

end Terminals

end Simulation

namespace Cli

open Program Simulation

/-! ## 2. What is shown of a claim -/

/-- The command can read the answer: it is the list of claims, the claim or the end of the claim
that it asks for. -/
def Command.reads : Command → Json → Bool
  | .list => fun j => (Response.items? Claim.ofJson? j).isSome
  | .status _ | .regenerate _ => fun j => (Claim.ofJson? j).isSome
  | .delete _ _ => fun j => (Response.deleted? Claim.ofJson? j).isSome

/-- Two runs of a command may differ in the values of the claims that it is answered. -/
def valueless (reads : Json → Bool) : Likeness consoleInterface where
  request r r' := r = r'
  event e e' := e = e' ∨
    ∃ r x x', Exchange.SameButValues reads x x' ∧ e = ⟨.send r, x⟩ ∧ e' = ⟨.send r, x'⟩
  aside _ := False

section Programs

variable {reads : Json → Bool}

/-- What is exchanged is the same, as far as the view goes. -/
theorem resembles_exchange {α γ : Type} {read : Json → Option α} {view : α → γ}
    {masked : Json → Option γ} (h : ∀ j : Json, (read j).map view = masked j.maskAnswer)
    (context : String) (r : Except RequestFault Api.Request) :
    Resembles (valueless fun j => (read j).isSome) (fun a b => a.map view = b.map view)
      (Console.exchange context r (Response.value? read))
      (Console.exchange context r (Response.value? read)) := by
  cases r with
  | error fault => exact .done rfl
  | ok request =>
    refine .ask rfl fun x x' halike => .done ?_
    have hx : x.SameButValues (fun j => (read j).isSome) x' := by
      rcases halike with he | ⟨request, x, x', hx, he, he'⟩
      · cases he
        exact .same _
      · cases he
        cases he'
        exact hx
    have under (x : Except Failure α) :
        Except.map view (x.mapError fun e => context :: e.chain) =
          (x.map view).mapError fun e => context :: e.chain := by
      cases x <;> rfl
    rw [under, under, Response.value?_alike h hx]

/-- A claim is read, up to its values. -/
theorem resembles_readClaim (key : Key) :
    Resembles (valueless fun j => (Claim.ofJson? j).isSome)
      (fun a b => a.map Claim.masked = b.map Claim.masked) (readClaim key) (readClaim key) :=
  resembles_exchange (fun j => (Response.claim_maskAnswer j).symm) _ _

end Programs

namespace Shown

/-- The text of a claim with this password in its data. -/
def text (password : String) : String :=
  "\x7b\"metadata\":\x7b\"name\":\"db\"\x7d," ++
    "\"spec\":\x7b\"type\":\"Opaque\",\"data\":\x7b\"password\":\"" ++ password ++
    "\"\x7d\x7d\x7d"

/-- The claim with this password in its data. -/
def claim (password : String) : Json :=
  .obj [("metadata", .obj [("name", .str "db")]),
    ("spec", .obj [("type", .str "Opaque"), ("data", .obj [("password", .str password)])])]

/-- A terminal where the server answers with this text, of which the parser may complain. -/
def terminal (text complaint : String) : Terminal where
  script := { responses := [{ exchange := .answered 200 text complaint }] }
  input := []
  stamp := ""

theorem same : (terminal (text "hunter2") "").SameButValues (Command.status "db").reads
    (terminal (text "swordfish") "") where
  responses := by
    have parsed : Json.parse? (text "hunter2") = some (claim "hunter2") := by decide +kernel
    have parsed' : Json.parse? (text "swordfish") = some (claim "swordfish") := by decide +kernel
    have alike : (claim "hunter2").maskAnswer = (claim "swordfish").maskAnswer := by decide +kernel
    have legible : (Command.status "db").reads (claim "hunter2") = true := by decide +kernel
    exact .cons ⟨.values (by decide) parsed parsed' alike (.inl legible), rfl⟩ .nil
  sent := rfl
  input := rfl
  stamp := rfl
  printed := rfl

end Shown

/-- A list with this claim and one that has no spec. -/
def Shown.list (password : String) : String :=
  "\x7b\"items\":[" ++ text password ++ ",\x7b\"metadata\":\x7b\x7d\x7d]\x7d"

/-- A list that cannot be read tells how long the password is, by where the parser stopped. -/
example : ((Shown.terminal (Shown.list "hunter2") "no spec at column 107").run none .list).1 ≠
    ((Shown.terminal (Shown.list "swordfish") "no spec at column 109").run none .list).1 := by
  decide +kernel

end Cli

end SecretKeeper
