/-
# What a program asked, and what it was told

A transcript is the list of requests that a program made, each with its answer.  Two
relations follow a program along a transcript, whoever answers:

* `p.Reaches log q`: after `log` the program `q` is what is left of `p`;
* `p.Yields log a`: with `log` the program `p` comes to its end, with the result `a`.

A program cut off at some moment has reached what is left of it, and what is left can
always be brought to an end (`Reaches.exists_yields`).  So whatever holds of all transcripts
that end says which requests may stand at which place of one that was cut off.

A server answers one way only; `transcript` is what a program asks it and is told, and
`yields_transcript` says that running against a server is one way to the end.

`p.Along guard post log` turns this around: it asks of the program that `guard` holds before
each of its requests and `post` at its end, and goes through the program as it is written.
-/
import SecretKeeper.Program

namespace SecretKeeper

/-- A request with its answer. -/
structure Event (I : Interface) where
  request : I.Request
  answer : I.Answer request

namespace Program

variable {I : Interface} {α β : Type}

/-! ## 1. To the end of a program -/

/-- With these requests and answers the program comes to this result. -/
inductive Yields : Program I α → List (Event I) → α → Prop
  | done (a : α) : Yields (.done a) [] a
  | ask {r : I.Request} {resume : I.Answer r → Program I α} {log : List (Event I)} {a : α}
      (answer : I.Answer r) :
      Yields (resume answer) log a → Yields (.ask r resume) (⟨r, answer⟩ :: log) a

@[simp] theorem yields_done_iff {a b : α} {log : List (Event I)} :
    (Program.done a : Program I α).Yields log b ↔ log = [] ∧ b = a := by
  constructor
  · rintro ⟨⟩
    exact ⟨rfl, rfl⟩
  · rintro ⟨rfl, rfl⟩
    exact .done _

theorem yields_ask_iff {r : I.Request} {resume : I.Answer r → Program I α}
    {log : List (Event I)} {a : α} :
    (Program.ask r resume).Yields log a ↔
      ∃ answer rest, log = ⟨r, answer⟩ :: rest ∧ (resume answer).Yields rest a := by
  constructor
  · rintro (_ | ⟨answer, h⟩)
    exact ⟨answer, _, rfl, h⟩
  · rintro ⟨answer, rest, rfl, h⟩
    exact .ask answer h

/-- One program after the other: the transcript falls into two. -/
theorem yields_bind_iff {p : Program I α} {f : α → Program I β} {log : List (Event I)} {b : β} :
    (p >>= f : Program I β).Yields log b ↔
      ∃ first rest a, log = first ++ rest ∧ p.Yields first a ∧ (f a).Yields rest b := by
  induction p generalizing log with
  | done a =>
    constructor
    · exact fun hf => ⟨[], log, a, rfl, .done a, hf⟩
    · rintro ⟨_, rest, _, rfl, ⟨⟩, hf⟩
      exact hf
  | ask r resume ih =>
    simp only [ask_bind, yields_ask_iff, ih]
    constructor
    · rintro ⟨answer, _, rfl, first, rest, a, rfl, hp, hf⟩
      exact ⟨_, rest, a, rfl, ⟨answer, first, rfl, hp⟩, hf⟩
    · rintro ⟨_, rest, a, rfl, ⟨answer, first, rfl, hp⟩, hf⟩
      exact ⟨answer, first ++ rest, rfl, first, rest, a, rfl, hp, hf⟩

/-- A single request. -/
@[simp] theorem yields_request_iff {r : I.Request} {log : List (Event I)} {a : I.Answer r} :
    (request r).Yields log a ↔ log = [⟨r, a⟩] := by
  constructor
  · rintro (_ | ⟨_, ⟨⟩⟩)
    rfl
  · rintro rfl
    exact .ask a (.done a)

/-! ## 2. On the way -/

/-- After these requests and answers the second program is what is left of the first. -/
inductive Reaches : Program I α → List (Event I) → Program I α → Prop
  | here (p : Program I α) : Reaches p [] p
  | ask {r : I.Request} {resume : I.Answer r → Program I α} {log : List (Event I)}
      {q : Program I α} (answer : I.Answer r) :
      Reaches (resume answer) log q → Reaches (.ask r resume) (⟨r, answer⟩ :: log) q

/-- One more request is answered. -/
theorem Reaches.tell {p : Program I α} {log : List (Event I)} {r : I.Request}
    {resume : I.Answer r → Program I α} (h : p.Reaches log (.ask r resume))
    (answer : I.Answer r) : p.Reaches (log ++ [⟨r, answer⟩]) (resume answer) := by
  generalize hq : Program.ask r resume = q at h
  induction h with
  | here p => subst hq; exact .ask answer (.here _)
  | ask answer' _ ih => exact .ask answer' (ih hq)

/-- The way so far and the way from here to the end. -/
theorem Reaches.yields {p q : Program I α} {log rest : List (Event I)} {a : α}
    (h : p.Reaches log q) (hq : q.Yields rest a) : p.Yields (log ++ rest) a := by
  induction h with
  | here p => exact hq
  | ask answer _ ih => exact .ask answer (ih hq)

/-- Every program has a way to its end, if every request can be answered. -/
theorem exists_yields [∀ r, Nonempty (I.Answer r)] (p : Program I α) :
    ∃ log a, p.Yields log a := by
  induction p with
  | done a => exact ⟨[], a, .done a⟩
  | ask r resume ih =>
    obtain ⟨answer⟩ : Nonempty (I.Answer r) := inferInstance
    obtain ⟨log, a, h⟩ := ih answer
    exact ⟨_, a, .ask answer h⟩

/-- Whatever the answer to the request that was reached, there is a way to the end. -/
theorem Reaches.exists_yields [∀ r, Nonempty (I.Answer r)] {p : Program I α}
    {log : List (Event I)} {r : I.Request} {resume : I.Answer r → Program I α}
    (h : p.Reaches log (.ask r resume)) (answer : I.Answer r) :
    ∃ rest a, p.Yields (log ++ ⟨r, answer⟩ :: rest) a := by
  obtain ⟨rest, a, hq⟩ := (resume answer).exists_yields
  exact ⟨rest, a, h.yields (.ask answer hq)⟩

/-! ## 3. Against a server -/

variable {W : Type}

/-- What the program asks the server, and is told. -/
def transcript (serve : Server I W) : Program I α → W → List (Event I)
  | .done _, _ => []
  | .ask r resume, w =>
    let reply := serve r w
    ⟨r, reply.answer⟩ :: (resume reply.answer).transcript serve reply.after

/-- Running against a server is one way to the end. -/
theorem yields_transcript (serve : Server I W) (p : Program I α) (w : W) :
    p.Yields (p.transcript serve w) (p.run serve w).1 := by
  induction p generalizing w with
  | done a => exact .done a
  | ask r resume ih => exact .ask _ (ih _ _)

/-- One program after the other asks first for what the one asks. -/
theorem transcript_bind (serve : Server I W) (p : Program I α) (f : α → Program I β) (w : W) :
    (p >>= f : Program I β).transcript serve w =
      p.transcript serve w ++ (f (p.run serve w).1).transcript serve (p.run serve w).2 := by
  induction p generalizing w with
  | done a => rfl
  | ask r resume ih => simp only [ask_bind, transcript, run, ih, List.cons_append]

/-! ## 4. Requests that are never made, and answers that do not matter -/

/-- The program never makes a request with the property. -/
def Avoids (bad : I.Request → Bool) : Program I α → Prop
  | .done _ => True
  | .ask r resume => bad r = false ∧ ∀ answer, (resume answer).Avoids bad

/-- Once the program has made a request with the property, only one result is left. -/
def Deaf (bad : I.Request → Bool) : Program I α → Prop
  | .done _ => True
  | .ask r resume =>
    (bad r = true → ∃ a, ∀ answer log b, (resume answer).Yields log b → b = a) ∧
      ∀ answer, (resume answer).Deaf bad

variable {bad : I.Request → Bool}

theorem Avoids.bind {p : Program I α} {f : α → Program I β} (hp : p.Avoids bad)
    (hf : ∀ a, (f a).Avoids bad) : (p >>= f : Program I β).Avoids bad := by
  induction p with
  | done a => exact hf a
  | ask r resume ih => exact ⟨hp.1, fun answer => ih answer (hp.2 answer)⟩

theorem Avoids.bind_deaf {p : Program I α} {f : α → Program I β} (hp : p.Avoids bad)
    (hf : ∀ a, (f a).Deaf bad) : (p >>= f : Program I β).Deaf bad := by
  induction p with
  | done a => exact hf a
  | ask r resume ih =>
    refine ⟨fun h => ?_, fun answer => ih answer (hp.2 answer)⟩
    rw [hp.1] at h
    cases h

/-- A program with one result does not care about any answer. -/
theorem deaf_of_yields_eq {p : Program I α} {a : α} (h : ∀ log b, p.Yields log b → b = a) :
    p.Deaf bad := by
  induction p with
  | done _ => trivial
  | ask r resume ih =>
    have hr : ∀ answer log b, (resume answer).Yields log b → b = a :=
      fun answer _ b hy => h _ b (.ask answer hy)
    exact ⟨fun _ => ⟨a, hr⟩, fun answer => ih answer (hr answer)⟩

/-- The server that answers requests with the property like `other`, all else like `serve`. -/
def instead (bad : I.Request → Bool) (other serve : Server I W) : Server I W :=
  fun r w => if bad r then other r w else serve r w

/-- Other answers to requests that do not matter leave the result as it is. -/
theorem Deaf.run_instead {p : Program I α} (h : p.Deaf bad) (other serve : Server I W) (w : W) :
    (p.run (instead bad other serve) w).1 = (p.run serve w).1 := by
  induction p generalizing w with
  | done a => rfl
  | ask r resume ih =>
    cases hr : bad r with
    | false =>
      have hsame : instead bad other serve r w = serve r w := by simp [instead, hr]
      simp only [run, hsame]
      exact ih _ (h.2 _) _
    | true =>
      obtain ⟨a, ha⟩ := h.1 hr
      exact (ha _ _ _ (yields_transcript _ _ _)).trans (ha _ _ _ (yields_transcript _ _ _)).symm

/-! ## 5. What holds along all transcripts -/

section Along

variable {guard : List (Event I) → I.Request → Prop} {post : List (Event I) → α → Prop}
  {log : List (Event I)}

/-- Whoever answers, `guard` holds of every request that the program makes, and `post` of its
result, each with the transcript up to there, which begins with `log`. -/
def Along (guard : List (Event I) → I.Request → Prop) (post : List (Event I) → α → Prop) :
    Program I α → (log : List (Event I)) → Prop
  | .done a, log => post log a
  | .ask r resume, log =>
    guard log r ∧ ∀ answer, (resume answer).Along guard post (log ++ [⟨r, answer⟩])

/-- One program after the other: the second is held to what it begins with. -/
theorem along_bind_iff {p : Program I α} {f : α → Program I β} {post : List (Event I) → β → Prop} :
    (p >>= f : Program I β).Along guard post log ↔
      p.Along guard (fun log a => (f a).Along guard post log) log := by
  induction p generalizing log with
  | done a => exact Iff.rfl
  | ask r resume ih => simp only [ask_bind, Along, ih]

/-- A program on its way is held to the same. -/
theorem Along.reaches {p q : Program I α} {rest : List (Event I)} (h : p.Along guard post log)
    (hr : p.Reaches rest q) : q.Along guard post (log ++ rest) := by
  induction hr generalizing log with
  | here p => simpa using h
  | ask answer _ ih => simpa using ih (h.2 answer)

end Along

end Program

end SecretKeeper
