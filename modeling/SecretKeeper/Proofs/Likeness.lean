/-
# Programs that do the same but for what does not matter

To say that a program does not depend on something, two runs of it are compared which differ in
just that.  What may differ is told by a `Likeness`: which requests count as alike, which of them
do so together with their answers, and which requests are an aside, so that one of two programs
may make them and the other need not.

Two programs resemble each other if they make requests that are alike, as long as they are
answered alike, but for asides (`Program.Resembles`).  That is a statement about programs, built
up along their parts by `Resembles.bind`.  Servers run in parallel if they answer alike requests
alike, in the same time, and an aside goes unnoticed (`Likeness.Parallel`).

Put together: programs that resemble each other, run against servers in parallel, come to related
results and leave the servers in parallel (`Resembles.run`), also in a limited time
(`Resembles.runWithin`).  Watching the servers shows that all that passes is alike
(`Parallel.watched`).
-/
import SecretKeeper.Proofs.Deadline

namespace SecretKeeper

/-- Two results that look the same both failed, in the same way, or both have a value. -/
theorem same_cases {ε α γ : Type} {view : α → γ} {a b : Except ε α}
    (h : a.map view = b.map view) :
    (∃ e, a = .error e ∧ b = .error e) ∨
      ∃ c c', a = .ok c ∧ b = .ok c' ∧ view c = view c' := by
  cases a with
  | error e =>
    cases b with
    | error e' => exact .inl ⟨e, rfl, congrArg Except.error (Except.error.inj h).symm⟩
    | ok c' => cases h
  | ok c =>
    cases b with
    | error e' => cases h
    | ok c' => exact .inr ⟨c, c', rfl, rfl, Except.ok.inj h⟩

/-- What two runs may differ in. -/
structure Likeness (I : Interface) where
  request : I.Request → I.Request → Prop
  event : Event I → Event I → Prop
  /-- The request may be made in one run alone. -/
  aside : I.Request → Prop

namespace Program

variable {I : Interface} {L : Likeness I} {α β γ δ : Type} {R : α → β → Prop} {Q : γ → δ → Prop}

/-! ## 1. Programs -/

/-- The programs make requests that are alike, as long as they are answered alike, and come to
related results. -/
inductive Resembles (L : Likeness I) (R : α → β → Prop) : Program I α → Program I β → Prop
  | done {a : α} {b : β} (h : R a b) : Resembles L R (.done a) (.done b)
  | ask {r r' : I.Request} {resume : I.Answer r → Program I α}
      {resume' : I.Answer r' → Program I β} (request : L.request r r')
      (rest : ∀ answer answer', L.event ⟨r, answer⟩ ⟨r', answer'⟩ →
        Resembles L R (resume answer) (resume' answer')) :
      Resembles L R (.ask r resume) (.ask r' resume')
  | left {r : I.Request} {resume : I.Answer r → Program I α} {p' : Program I β}
      (aside : L.aside r) (rest : ∀ answer, Resembles L R (resume answer) p') :
      Resembles L R (.ask r resume) p'
  | right {p : Program I α} {r' : I.Request} {resume' : I.Answer r' → Program I β}
      (aside : L.aside r') (rest : ∀ answer', Resembles L R p (resume' answer')) :
      Resembles L R p (.ask r' resume')

/-- One program after the other. -/
theorem Resembles.bind {p : Program I α} {p' : Program I β} {f : α → Program I γ}
    {f' : β → Program I δ} (hp : Resembles L R p p')
    (hf : ∀ a b, R a b → Resembles L Q (f a) (f' b)) :
    Resembles L Q (p >>= f : Program I γ) (p' >>= f' : Program I δ) := by
  induction hp with
  | done h => exact hf _ _ h
  | ask request _ ih => exact .ask request fun answer answer' h => ih answer answer' h
  | left aside _ ih => exact .left aside fun answer => ih answer
  | right aside _ ih => exact .right aside fun answer' => ih answer'

/-- Programs that come to the same are followed by programs that may use it. -/
theorem Resembles.bind_eq {p p' : Program I α} {f : α → Program I γ} {f' : α → Program I δ}
    (hp : Resembles L Eq p p') (hf : ∀ a, Resembles L Q (f a) (f' a)) :
    Resembles L Q (p >>= f : Program I γ) (p' >>= f' : Program I δ) := by
  refine hp.bind fun a b h => ?_
  rw [h]
  exact hf b

theorem resembles_pure (a : α) : Resembles L Eq (pure a : Program I α) (pure a) := .done rfl

/-- A program all of whose requests are alike to themselves, and say what they are answered, does
the same in both runs. -/
theorem resembles_self {p : Program I α} {other : I.Request → Bool} (h : p.Avoids other)
    (plain : ∀ r, other r = false →
      L.request r r ∧ ∀ answer answer', L.event ⟨r, answer⟩ ⟨r, answer'⟩ → answer = answer') :
    Resembles L Eq p p := by
  induction p with
  | done a => exact .done rfl
  | ask r resume ih =>
    obtain ⟨request, same⟩ := plain r h.1
    refine .ask request fun answer answer' halike => ?_
    obtain rfl := same answer answer' halike
    exact ih answer (h.2 answer)

/-- Programs that make nothing but asides need have nothing in common. -/
theorem resembles_asides {p : Program I α} {p' : Program I β} {plain : I.Request → Bool}
    (h : p.Avoids plain) (h' : p'.Avoids plain) (aside : ∀ r, plain r = false → L.aside r) :
    Resembles L (fun _ _ => True) p p' := by
  induction p with
  | done a =>
    induction p' with
    | done b => exact .done trivial
    | ask r' resume' ih' =>
      exact .right (aside r' h'.1) fun answer' => ih' answer' (h'.2 answer')
  | ask r resume ih => exact .left (aside r h.1) fun answer => ih answer (h.2 answer)

end Program

/-! ## 2. Servers -/

namespace Likeness

open Program

variable {I : Interface} {L : Likeness I} {W W' : Type} {serve : Server I W}
  {serve' : Server I W'} {same : W → W' → Prop}

/-- The replies are alike, take the same time, and leave worlds that are in step. -/
structure InStep (L : Likeness I) (same : W → W' → Prop) (r r' : I.Request)
    (reply : Reply W (I.Answer r)) (reply' : Reply W' (I.Answer r')) : Prop where
  queued : reply.queued = reply'.queued
  delay : reply.delay = reply'.delay
  event : L.event ⟨r, reply.answer⟩ ⟨r', reply'.answer⟩
  issued : same reply.issued reply'.issued
  after : same reply.after reply'.after

/-- A reply at once. -/
structure AtOnce {A : Type} (reply : Reply W A) : Prop where
  queued : reply.queued = false
  delay : reply.delay = 0

/-- Alike requests get alike replies, and an aside leaves the world in step with the other. -/
structure Parallel (L : Likeness I) (serve : Server I W) (serve' : Server I W')
    (same : W → W' → Prop) : Prop where
  reply : ∀ {r r' : I.Request} {w : W} {w' : W'}, same w w' → L.request r r' →
    L.InStep same r r' (serve r w) (serve' r' w')
  left : ∀ {r : I.Request} {w : W} {w' : W'}, same w w' → L.aside r →
    AtOnce (serve r w) ∧ same (serve r w).after w'
  right : ∀ {r : I.Request} {w : W} {w' : W'}, same w w' → L.aside r →
    AtOnce (serve' r w') ∧ same w (serve' r w').after

end Likeness

namespace Program

open Likeness

variable {I : Interface} {L : Likeness I} {α β : Type} {R : α → β → Prop} {W W' : Type}
  {serve : Server I W} {serve' : Server I W'} {same : W → W' → Prop}

/-- **Programs that resemble each other keep servers in parallel**, and come to related
results. -/
theorem Resembles.run {p : Program I α} {p' : Program I β} (h : Resembles L R p p')
    (m : L.Parallel serve serve' same) {w : W} {w' : W'} (hw : same w w') :
    R (p.run serve w).1 (p'.run serve' w').1 ∧ same (p.run serve w).2 (p'.run serve' w').2 := by
  induction h generalizing w w' with
  | done h => exact ⟨h, hw⟩
  | ask request _ ih =>
    have step := m.reply hw request
    exact ih _ _ step.event step.after
  | left aside _ ih => exact ih _ (m.left hw aside).2
  | right aside _ ih => exact ih _ (m.right hw aside).2

/-- A request that is answered at once does not count against the time. -/
theorem runWithin_of_atOnce {r : I.Request} {resume : I.Answer r → Program I α} {w : W}
    (h : AtOnce (serve r w)) (budget : Nat) :
    (Program.ask r resume).runWithin serve budget w =
      (resume (serve r w).answer).runWithin serve budget (serve r w).after := by
  simp [runWithin, h.queued, h.delay]

/-- The same in a limited time, where both are cut off or neither. -/
theorem Resembles.runWithin {p p' : Program I α} (h : Resembles L Eq p p')
    (m : L.Parallel serve serve' same) (budget : Nat) {w : W} {w' : W'} (hw : same w w') :
    (p.runWithin serve budget w).1 = (p'.runWithin serve' budget w').1 ∧
      same (p.runWithin serve budget w).2 (p'.runWithin serve' budget w').2 := by
  induction h generalizing budget w w' with
  | done h =>
    obtain rfl := h
    exact ⟨rfl, hw⟩
  | ask request _ ih =>
    have step := m.reply hw request
    simp only [Program.runWithin, ← step.queued, ← step.delay]
    split
    · exact ⟨rfl, hw⟩
    · split
      · exact ⟨rfl, step.issued⟩
      · exact ih _ _ step.event _ step.after
  | left aside _ ih =>
    obtain ⟨atOnce, hafter⟩ := m.left hw aside
    rw [runWithin_of_atOnce atOnce]
    exact ih _ _ hafter
  | right aside _ ih =>
    obtain ⟨atOnce, hafter⟩ := m.right hw aside
    rw [runWithin_of_atOnce atOnce]
    exact ih _ _ hafter

end Program

/-! ## 3. All that passes -/

namespace Likeness

open Program

variable {I : Interface} {L : Likeness I} {W W' X : Type} {serve : Server I W}
  {serve' : Server I W'} {same : W → W' → Prop} {view : Signal I → Option X}

/-- The view shows of every signal what must be the same in both runs, and nothing of an aside. -/
structure Views (L : Likeness I) (view : Signal I → Option X) : Prop where
  asked : ∀ {r r' : I.Request}, L.request r r' → view (.asked r) = view (.asked r')
  told : ∀ {e e' : Event I}, L.event e e' → view (.told e) = view (.told e')
  aside_asked : ∀ {r : I.Request}, L.aside r → view (.asked r) = none
  aside_told : ∀ {r : I.Request} (answer : I.Answer r), L.aside r → view (.told ⟨r, answer⟩) = none

/-- The worlds are in step, and what has passed looks the same. -/
def SameView (same : W → W' → Prop) (view : Signal I → Option X) (x : W × List (Signal I))
    (y : W' × List (Signal I)) : Prop :=
  same x.1 y.1 ∧ x.2.filterMap view = y.2.filterMap view

/-- Servers in parallel are so when they are watched, and what passes looks the same. -/
theorem Parallel.watched (m : L.Parallel serve serve' same) (v : L.Views view) :
    L.Parallel (watched serve) (watched serve') (SameView same view) where
  reply {r r' x y} h request := by
    have step := m.reply h.1 request
    have hseen := h.2
    refine ⟨step.queued, step.delay, step.event, ⟨step.issued, ?_⟩, step.after, ?_⟩
    · simp [Program.watched, List.filterMap_append, hseen, List.filterMap_cons, v.asked request]
    · simp [Program.watched, List.filterMap_append, hseen, List.filterMap_cons, v.asked request,
        v.told step.event]
  left {r x y} h aside := by
    obtain ⟨atOnce, hafter⟩ := m.left h.1 aside
    have hseen := h.2
    refine ⟨⟨atOnce.queued, atOnce.delay⟩, hafter, ?_⟩
    simp [Program.watched, List.filterMap_append, hseen, v.aside_asked aside,
      v.aside_told _ aside]
  right {r x y} h aside := by
    obtain ⟨atOnce, hafter⟩ := m.right h.1 aside
    have hseen := h.2
    refine ⟨⟨atOnce.queued, atOnce.delay⟩, hafter, ?_⟩
    simp [Program.watched, List.filterMap_append, hseen, v.aside_asked aside,
      v.aside_told _ aside]

end Likeness

end SecretKeeper
