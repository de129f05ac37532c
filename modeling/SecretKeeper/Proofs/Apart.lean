/-
# Cycles of different claims

Cycles for different keys share the stores and nothing else: each has its own random source,
its own clock, its own spans.  Their requests come in any order.

A cycle reads by its key, but it writes where the metadata of an object say, an object that it
has read or made.  So nothing keeps a cycle at its key but the stores, which hold every
object under its own namespace and name; `confined_cycle` says that this is enough, on
every path.

From there two facts carry the rest.  What a cycle comes to is decided by what is held under
its key, whatever else the stores hold (`Confined.run_agrees`); and a request of another
cycle leaves that as it is.  So the fate of a cycle, which is what it would come to if it were
left alone from now on, is the same after every turn of anybody (`fate_turn`).  Once all
cycles have ended, their fates are what they have come to, in whatever order they took
their turns; one after the other is one of the orders (`inTurn_eq_play`).
-/
import Mathlib.Logic.Function.Basic
import SecretKeeper.Proofs.Replay

namespace SecretKeeper.Controller

open Program Simulation

/-! ## 1. Stores that keep objects apart -/

/-- What stores hold under one key: a claim, a Secret, and whatever else they answer by. -/
structure Holding (X : Type) where
  claim : Option Claim
  secret : Option Secret
  rest : X

/-- Every object is held under its own namespace and name. -/
structure InPlace {X : Type} (held : Key → Holding X) : Prop where
  claims : ∀ (key : Key) (claim : Claim), (held key).claim = some claim →
    claim.metadata.place = key
  secrets : ∀ (key : Key) (secret : Secret), (held key).secret = some secret →
    secret.metadata.place = key

section Stores

variable {S X : Type}

/-- A call concerns what is held under the key of its object, and nothing else. -/
structure KeptApart (stores : StoreServer S) (held : S → Key → Holding X) : Prop where
  /-- What is held under the key decides the answer. -/
  answer : ∀ (call : StoreCall) {s s' : S}, held s call.place = held s' call.place →
    (stores call s).answer = (stores call s').answer
  /-- It also decides what is held there afterwards. -/
  after : ∀ (call : StoreCall) {s s' : S}, held s call.place = held s' call.place →
    held (stores call s).after call.place = held (stores call s').after call.place
  others : ∀ (call : StoreCall) (s : S) {key : Key}, key ≠ call.place →
    held (stores call s).after key = held s key
  claim_read : ∀ {key : Key} {s : S} {found : Option Claim},
    (stores (.readClaim key) s).answer = .ok found → (held s key).claim = found
  secret_read : ∀ {key : Key} {s : S} {found : Option Secret},
    (stores (.readSecret key) s).answer = .ok found → (held s key).secret = found
  placed : ∀ (call : StoreCall) {s : S}, InPlace (held s) → InPlace (held (stores call s).after)

end Stores

/-! ## 2. A cycle stays at its key -/

/-- An object that is read is that of the key. -/
def Fits (key : Key) : (r : Effect) → r.Answer → Prop
  | .store (.readClaim _), answer =>
    ∀ claim : Claim, answer = .ok (some claim) → claim.metadata.place = key
  | .store (.readSecret _), answer =>
    ∀ secret : Secret, answer = .ok (some secret) → secret.metadata.place = key
  | _, _ => True

/-- As long as what it reads is that of the key, the program makes no store call for another. -/
def Confined {α : Type} (key : Key) : Controller α → Prop
  | .done _ => True
  | .ask r resume =>
    (∀ call, r = .store call → call.place = key) ∧
      ∀ answer, Fits key r answer → Confined key (resume answer)

section Confined

variable {α β : Type} {key : Key}

theorem Confined.bind {p : Controller α} {f : α → Controller β} (hp : Confined key p)
    (hf : ∀ a, Confined key (f a)) : Confined key (p >>= f : Controller β) := by
  induction p with
  | done a => exact hf a
  | ask r resume ih => exact ⟨hp.1, fun answer fits => ih answer (hp.2 answer fits)⟩

theorem confined_call {call : StoreCall} (h : call.place = key) :
    Confined key (Controller.call call) :=
  ⟨fun _ hc => by cases hc; exact h, fun _ _ => trivial⟩

/-- What is not a store call does not leave the key. -/
theorem confined_request {r : Effect} (h : ∀ call, r ≠ .store call) :
    Confined key (request (I := controllerInterface) r) :=
  ⟨fun call hc => absurd hc (h call), fun _ _ => trivial⟩

theorem confined_draw (encoding : Encoding) (length : Nat) :
    Confined key (draw encoding length) :=
  confined_request (r := .draw encoding length) fun _ h => nomatch h

theorem confined_now : Confined key now := confined_request (r := .now) fun _ h => nomatch h

theorem confined_count (counter : Counter) (n : Nat) : Confined key (count counter n) :=
  confined_request (r := .count counter n) fun _ h => nomatch h

theorem confined_note (field value : String) : Confined key (note field value) :=
  confined_request (r := .note field value) fun _ h => nomatch h

theorem confined_drawAll (p : Policy) (keys : List String) (drawn : Dict Bytes) :
    Confined key (drawAll p keys drawn) := by
  induction keys generalizing drawn with
  | nil => trivial
  | cons k keys ih =>
    refine (confined_draw _ _).bind fun value => ?_
    cases value with
    | error e => trivial
    | ok value => exact ih _

theorem confined_materialize (demand : Demand) : Confined key (materialize demand) := by
  cases demand with
  | verbatim data => trivial
  | generated p =>
    refine (confined_drawAll p _ _).bind fun fields => ?_
    cases fields with
    | error e => trivial
    | ok fields => exact (confined_count _ _).bind fun _ => trivial

/-- A Secret is written under the key of what it was made from. -/
theorem place_writeCall {claim : Claim} {existing : Option Secret} (data : Dict Bytes)
    (hc : claim.metadata.place = key) (hs : ∀ old, existing = some old → old.metadata.place = key) :
    (writeCall claim existing data).place = key := by
  cases existing with
  | none => exact hc
  | some old => exact hs old rfl

theorem confined_write {claim : Claim} {existing : Option Secret} (demand : Demand)
    (hc : claim.metadata.place = key) (hs : ∀ old, existing = some old → old.metadata.place = key) :
    Confined key (write claim demand existing) := by
  cases existing <;>
  · refine (confined_materialize demand).bind fun made => ?_
    cases made with
    | error e => trivial
    | ok data =>
      refine (confined_call (place_writeCall data hc hs)).bind fun answer => ?_
      cases answer with
      | error e => trivial
      | ok _ => exact (confined_count _ _).bind fun _ => trivial

variable {claim : Claim} (hc : claim.metadata.place = key)

include hc

theorem confined_writeStatus (status : Status) : Confined key (writeStatus claim status) := by
  have written : Confined key (Controller.call (.writeStatus claim status)) := confined_call hc
  refine written.bind fun sent => ?_
  cases sent with
  | error e => exact (confined_count _ _).bind fun _ => trivial
  | ok _ => trivial

theorem confined_fail (e : CycleError) : Confined key (fail claim e) :=
  (confined_now.bind fun _ => confined_writeStatus hc _).bind fun _ => trivial

theorem confined_succeed (demand : Demand) (outcome : Outcome) :
    Confined key (succeed claim demand outcome) :=
  (confined_now.bind fun _ => confined_writeStatus hc _).bind fun _ => trivial

theorem confined_converge {existing : Option Secret} (demand : Demand)
    (hs : ∀ old, existing = some old → old.metadata.place = key) :
    Confined key (converge claim existing demand) := by
  -- either way the cycle reports, whatever comes between
  have reported : ∀ {next : Except CycleError Unit → Controller (Except CycleError Outcome)}
      (outcome : Outcome), (∀ e, next (.error e) = fail claim e) →
      next (.ok ()) = succeed claim demand outcome → ∀ result, Confined key (next result) := by
    intro next outcome failed succeeded result
    cases result with
    | error e =>
      rw [failed]
      exact confined_fail hc e
    | ok _ =>
      rw [succeeded]
      exact confined_succeed hc demand outcome
  have written := confined_write demand hc hs
  cases existing with
  | none => exact written.bind (reported .created (fun _ => rfl) rfl)
  | some old =>
    rw [converge]
    split
    · exact written.bind (reported .updated (fun _ => rfl) rfl)
    · split
      · trivial
      · exact confined_succeed hc demand .statusRepaired

theorem confined_settle {existing : Option Secret}
    (hs : ∀ old, existing = some old → old.metadata.place = key) :
    Confined key (settle claim existing) := by
  rw [settle]
  split
  · exact (confined_count _ _).bind fun _ => trivial
  · split
    · exact (confined_count _ _).bind fun _ => confined_fail hc _
    · exact confined_converge hc _ hs

omit hc in
theorem confined_noteClaim (claim : Claim) : Confined key (noteClaim claim) := by
  refine (confined_note _ _).bind fun _ => ?_
  split
  · trivial
  · refine (confined_note _ _).bind fun _ => ?_
    split
    · trivial
    · exact confined_note _ _

omit hc in
/-- **A cycle stays at its key**, as long as what it reads is that of the key. -/
theorem confined_cycle (key : Key) : Confined key (cycle key) := by
  refine ⟨fun _ h => by cases h; rfl, fun answer fits => ?_⟩
  match answer with
  | .error e => trivial
  | .ok none => trivial
  | .ok (some claim) =>
    have hc : claim.metadata.place = key := fits claim rfl
    refine (confined_noteClaim claim).bind fun _ => ?_
    refine ⟨fun _ h => by cases h; rfl, fun probe fits => ?_⟩
    cases probe with
    | error e => exact confined_fail hc _
    | ok existing => exact confined_settle hc fun old hold => fits old (by rw [hold])

end Confined

/-! ## 3. A cycle by itself -/

section Sharing

variable {S W X : Type} {stores : StoreServer S} {held : S → Key → Holding X}

/-- Store calls go to the stores, and all other requests to a world of the cycle's own. -/
def sharing (stores : StoreServer S) (own : Server controllerInterface W) :
    Server controllerInterface (S × W)
  | .store call, (s, w) =>
    let reply := stores call s
    { queued := reply.queued
      issued := (reply.issued, w)
      delay := reply.delay
      answer := reply.answer
      after := (reply.after, w) }
  | r, (s, w) =>
    let reply := own r w
    { queued := reply.queued
      issued := (s, reply.issued)
      delay := reply.delay
      answer := reply.answer
      after := (s, reply.after) }

variable (own : Server controllerInterface W) {x y : S × W} {key : Key} {α : Type}

/-- Only a store call can change what is held, and only under its key. -/
theorem KeptApart.sharing_others (apart : KeptApart stores held) {r : Effect}
    (h : ∀ call, r = .store call → call.place ≠ key) (x : S × W) :
    held (sharing stores own r x).after.1 key = held x.1 key := by
  cases r with
  | store call => exact apart.others call x.1 (h call rfl).symm
  | _ => rfl

theorem KeptApart.sharing_placed (apart : KeptApart stores held) (placed : InPlace (held x.1))
    (r : Effect) : InPlace (held (sharing stores own r x).after.1) := by
  cases r with
  | store call => exact apart.placed call placed
  | _ => exact placed

/-- What is read from stores where everything is in its place is in its place. -/
theorem KeptApart.fits (apart : KeptApart stores held) (placed : InPlace (held x.1)) {r : Effect}
    (h : ∀ call, r = .store call → call.place = key) :
    Fits key r (sharing stores own r x).answer := by
  cases r with
  | store call =>
    cases call with
    | readClaim k =>
      obtain rfl : k = key := h _ rfl
      exact fun claim ha => placed.claims k claim (apart.claim_read ha)
    | readSecret k =>
      obtain rfl : k = key := h _ rfl
      exact fun secret ha => placed.secrets k secret (apart.secret_read ha)
    | _ => trivial
  | _ => trivial

/-- To a cycle for the key these stores are the same, and so is the world of its own. -/
structure Agree (held : S → Key → Holding X) (key : Key) (x y : S × W) : Prop where
  held : held x.1 key = held y.1 key
  own : x.2 = y.2

/-- A request for the key is answered by what is held there, and so is what it leaves. -/
theorem Agree.asked (h : Agree held key x y) (apart : KeptApart stores held) {r : Effect}
    (at_key : ∀ call, r = .store call → call.place = key) :
    (sharing stores own r x).answer = (sharing stores own r y).answer ∧
      Agree held key (sharing stores own r x).after (sharing stores own r y).after := by
  obtain ⟨s, w⟩ := x
  obtain ⟨s', w'⟩ := y
  obtain rfl : w = w' := h.own
  cases r with
  | store call =>
    obtain rfl := at_key call rfl
    exact ⟨apart.answer call h.held, apart.after call h.held, rfl⟩
  | _ => exact ⟨rfl, h.held, rfl⟩

/-- **What a program comes to is decided by what is held under its key**: its result, what it
leaves there, and its own world. -/
theorem Confined.run_agrees (apart : KeptApart stores held) {p : Controller α}
    (hp : Confined key p) (placed : InPlace (held x.1)) (placed' : InPlace (held y.1))
    (h : Agree held key x y) :
    (p.run (sharing stores own) x).1 = (p.run (sharing stores own) y).1 ∧
      Agree held key (p.run (sharing stores own) x).2 (p.run (sharing stores own) y).2 := by
  induction p generalizing x y with
  | done a => exact ⟨rfl, h⟩
  | ask r resume ih =>
    obtain ⟨answer, left⟩ := h.asked own apart hp.1
    have fits := apart.fits own placed hp.1
    have rest := ih _ (hp.2 _ fits) (apart.sharing_placed own placed r)
      (apart.sharing_placed own placed' r) left
    simp only [run]
    rw [← answer]
    exact rest

end Sharing

/-! ## 4. Cycles that take turns -/

/-- A cycle on its way, with the world of its own. -/
structure Actor (W : Type) where
  rest : Controller (Except CycleError Outcome)
  own : W

/-- How the cycle has ended, if it has. -/
def Actor.result? {W : Type} (actor : Actor W) : Option (Except CycleError Outcome) :=
  match actor.rest with
  | .done result => some result
  | .ask _ _ => none

/-- Stores, and the cycles that share them. -/
structure Scene (ι S W : Type) where
  stores : S
  actors : ι → Actor W

namespace Scene

variable {ι S W X : Type} [DecidableEq ι]

/-- The cycles begin, one for every key. -/
def start (keys : ι → Key) (s : S) (worlds : ι → W) : Scene ι S W :=
  ⟨s, fun i => ⟨cycle (keys i), worlds i⟩⟩

/-- All cycles have ended. -/
def Finished (scene : Scene ι S W) : Prop := ∀ i, (scene.actors i).result?.isSome = true

/-- The stores, and the world of one of the cycles. -/
def world (scene : Scene ι S W) (i : ι) : S × W := (scene.stores, (scene.actors i).own)

/-- One cycle has come this far, and has left this world. -/
def moved (scene : Scene ι S W) (i : ι) (rest : Controller (Except CycleError Outcome))
    (w : S × W) : Scene ι S W :=
  ⟨w.1, Function.update scene.actors i ⟨rest, w.2⟩⟩

/-- One cycle makes its next request, if it has not ended. -/
def turn (serve : Server controllerInterface (S × W)) (scene : Scene ι S W) (i : ι) :
    Scene ι S W :=
  match (scene.actors i).rest with
  | .done _ => scene
  | .ask r resume =>
    let reply := serve r (scene.world i)
    scene.moved i (resume reply.answer) reply.after

/-- The cycles take turns. -/
def play (serve : Server controllerInterface (S × W)) (scene : Scene ι S W)
    (schedule : List ι) : Scene ι S W :=
  schedule.foldl (turn serve) scene

/-- The next request of a cycle. -/
def next (scene : Scene ι S W) (i : ι) : List (ι × Effect) :=
  match (scene.actors i).rest with
  | .done _ => []
  | .ask r _ => [(i, r)]

/-- The requests that are made when the cycles take turns. -/
def requests (serve : Server controllerInterface (S × W)) :
    Scene ι S W → List ι → List (ι × Effect)
  | _, [] => []
  | scene, i :: schedule => scene.next i ++ requests serve (scene.turn serve i) schedule

/-- One cycle runs to its end. -/
def finish (serve : Server controllerInterface (S × W)) (scene : Scene ι S W) (i : ι) :
    Scene ι S W :=
  let ended := (scene.actors i).rest.run serve (scene.world i)
  scene.moved i (.done ended.1) ended.2

/-- The cycles run to their ends one after the other. -/
def inTurn (serve : Server controllerInterface (S × W)) (scene : Scene ι S W)
    (order : List ι) : Scene ι S W :=
  order.foldl (finish serve) scene

section Turns

variable {serve : Server controllerInterface (S × W)} {scene : Scene ι S W}

theorem turn_done {i : ι} {result : Except CycleError Outcome}
    (h : (scene.actors i).rest = .done result) : scene.turn serve i = scene := by
  rw [turn, h]

theorem turn_ask {i : ι} {r : Effect} {resume : r.Answer → Controller (Except CycleError Outcome)}
    (h : (scene.actors i).rest = .ask r resume) :
    scene.turn serve i = scene.moved i (resume (serve r (scene.world i)).answer)
      (serve r (scene.world i)).after := by
  rw [turn, h]

theorem play_append (schedule more : List ι) :
    scene.play serve (schedule ++ more) = (scene.play serve schedule).play serve more :=
  List.foldl_append

@[simp] theorem moved_actors_self (i : ι) (rest : Controller (Except CycleError Outcome))
    (w : S × W) : (scene.moved i rest w).actors i = ⟨rest, w.2⟩ := Function.update_self ..

theorem moved_actors_of_ne {i j : ι} (h : j ≠ i) (rest : Controller (Except CycleError Outcome))
    (w : S × W) : (scene.moved i rest w).actors j = scene.actors j := Function.update_of_ne h ..

@[simp] theorem moved_moved (i : ι) (rest rest' : Controller (Except CycleError Outcome))
    (w w' : S × W) : (scene.moved i rest w).moved i rest' w' = scene.moved i rest' w' := by
  simp [moved]

theorem moved_world (i : ι) (rest : Controller (Except CycleError Outcome)) (w : S × W) :
    (scene.moved i rest w).world i = w := by simp [world, moved]

theorem moved_self (i : ι) : scene.moved i (scene.actors i).rest (scene.world i) = scene := by
  simp [moved, world]

/-- To run to the end is to take turns that nobody else comes between. -/
theorem finish_eq_play (scene : Scene ι S W) (i : ι) :
    ∃ n, scene.finish serve i = scene.play serve (List.replicate n i) := by
  generalize hp : (scene.actors i).rest = p
  induction p generalizing scene with
  | done result =>
    refine ⟨0, ?_⟩
    have hself : scene.moved i (scene.actors i).rest (scene.world i) = scene := moved_self i
    rw [hp] at hself
    rw [finish, hp]
    exact hself
  | ask r resume ih =>
    have hturn : scene.turn serve i = _ := turn_ask hp
    obtain ⟨n, hn⟩ := ih (serve r (scene.world i)).answer (scene.turn serve i)
      (by rw [hturn, moved_actors_self])
    refine ⟨n + 1, ?_⟩
    rw [List.replicate_succ]
    refine Eq.trans ?_ hn
    rw [finish, finish, hp, hturn, moved_actors_self, moved_world, moved_moved]
    rfl

/-- One after the other is one of the ways to take turns. -/
theorem inTurn_eq_play (scene : Scene ι S W) (order : List ι) :
    ∃ schedule, scene.inTurn serve order = scene.play serve schedule := by
  induction order generalizing scene with
  | nil => exact ⟨[], rfl⟩
  | cons i order ih =>
    obtain ⟨n, hn⟩ : ∃ n, scene.finish serve i = scene.play serve (List.replicate n i) :=
      finish_eq_play scene i
    obtain ⟨schedule, hs⟩ := ih (scene.finish serve i)
    refine ⟨List.replicate n i ++ schedule, ?_⟩
    rw [play_append, ← hn]
    exact hs

/-- A cycle that has ended stays as it is, whoever runs. -/
theorem result_finish {i j : ι} (h : (scene.actors j).result?.isSome = true) :
    ((scene.finish serve i).actors j).result?.isSome = true := by
  by_cases hj : j = i
  · subst hj
    simp [finish, Actor.result?]
  · rw [finish, moved_actors_of_ne hj]
    exact h

theorem result_inTurn {j : ι} {order : List ι}
    (h : j ∈ order ∨ (scene.actors j).result?.isSome = true) :
    ((scene.inTurn serve order).actors j).result?.isSome = true := by
  induction order generalizing scene with
  | nil => exact h.resolve_left List.not_mem_nil
  | cons i order ih =>
    refine ih ?_
    by_cases hj : j = i
    · subst hj
      exact .inr (by simp [finish, Actor.result?])
    · exact (h.imp (fun hm => (List.mem_cons.mp hm).resolve_left hj) result_finish)

/-- When each had its time, all have ended. -/
theorem finished_inTurn (scene : Scene ι S W) {order : List ι} (all : ∀ i, i ∈ order) :
    (scene.inTurn serve order).Finished := fun i => result_inTurn (.inl (all i))

end Turns

/-! ## 5. What becomes of a cycle -/

variable {stores : StoreServer S} {held : S → Key → Holding X}
  {own : Server controllerInterface W} {keys : ι → Key} {scene : Scene ι S W}

/-- All cycles are at their keys, and all objects in their places. -/
structure Orderly (held : S → Key → Holding X) (keys : ι → Key) (scene : Scene ι S W) : Prop where
  placed : InPlace (held scene.stores)
  confined : ∀ i, Confined (keys i) (scene.actors i).rest

omit [DecidableEq ι] in
theorem orderly_start {s : S} (placed : InPlace (held s)) (worlds : ι → W) :
    Orderly held keys (start keys s worlds) :=
  ⟨placed, fun i => confined_cycle (keys i)⟩

theorem Orderly.turn (h : Orderly held keys scene) (apart : KeptApart stores held) (i : ι) :
    Orderly held keys (scene.turn (sharing stores own) i) := by
  cases hp : (scene.actors i).rest with
  | done result => rwa [turn_done hp]
  | ask r resume =>
    have hi : Confined (keys i) (.ask r resume) := hp ▸ h.confined i
    rw [turn_ask hp]
    refine ⟨apart.sharing_placed (x := scene.world i) own h.placed r, fun j => ?_⟩
    by_cases hj : j = i
    · subst hj
      rw [moved_actors_self]
      exact hi.2 _ (apart.fits own h.placed hi.1)
    · rw [moved_actors_of_ne hj]
      exact h.confined j

/-- A turn leaves alone what is held under other keys. -/
theorem Orderly.held_turn (h : Orderly held keys scene) (apart : KeptApart stores held) {i : ι}
    {key : Key} (hne : keys i ≠ key) :
    held (scene.turn (sharing stores own) i).stores key = held scene.stores key := by
  cases hp : (scene.actors i).rest with
  | done result => rw [turn_done hp]
  | ask r resume =>
    have hi : Confined (keys i) (.ask r resume) := hp ▸ h.confined i
    rw [turn_ask hp]
    exact apart.sharing_others own (fun call hc => by rw [hi.1 call hc]; exact hne) _

theorem Orderly.held_play (h : Orderly held keys scene) (apart : KeptApart stores held)
    {key : Key} (hne : ∀ i, keys i ≠ key) (schedule : List ι) :
    held (scene.play (sharing stores own) schedule).stores key = held scene.stores key := by
  induction schedule generalizing scene with
  | nil => rfl
  | cons i schedule ih => exact (ih (h.turn apart i)).trans (h.held_turn apart (hne i))

/-- Every store call is for the key of the cycle that makes it. -/
theorem Orderly.place_eq (h : Orderly held keys scene) (apart : KeptApart stores held)
    {schedule : List ι} {i : ι} {call : StoreCall}
    (hm : (i, .store call) ∈ scene.requests (sharing stores own) schedule) :
    call.place = keys i := by
  induction schedule generalizing scene with
  | nil => cases hm
  | cons j schedule ih =>
    rcases List.mem_append.mp hm with hm | hm
    · cases hp : (scene.actors j).rest with
      | done result => simp [next, hp] at hm
      | ask r resume =>
        have hj : Confined (keys j) (.ask r resume) := hp ▸ h.confined j
        simp only [next, hp, List.mem_singleton, Prod.mk.injEq] at hm
        obtain ⟨rfl, hr⟩ := hm
        exact hj.1 call hr.symm
    · exact ih (h.turn apart j) hm

/-- What a cycle would come to if it were left alone from now on: its result, its own world,
and what is held under its key then. -/
def fate (stores : StoreServer S) (own : Server controllerInterface W)
    (held : S → Key → Holding X) (key : Key) (scene : Scene ι S W) (i : ι) :
    Except CycleError Outcome × W × Holding X :=
  let ended := (scene.actors i).rest.run (sharing stores own) (scene.world i)
  (ended.1, ended.2.2, held ended.2.1 key)

/-- **Nobody's turn changes what becomes of a cycle.** -/
theorem Orderly.fate_turn (h : Orderly held keys scene) (apart : KeptApart stores held)
    (distinct : Function.Injective keys) (i j : ι) :
    (scene.turn (sharing stores own) i).fate stores own held (keys j) j =
      scene.fate stores own held (keys j) j := by
  have left : Orderly held keys (scene.turn (sharing stores own) i) := h.turn apart i
  by_cases hj : j = i
  · subst hj
    cases hp : (scene.actors j).rest with
    | done result => rw [turn_done hp]
    | ask r resume =>
      rw [turn_ask hp, fate, fate, moved_actors_self, moved_world, hp]
      rfl
  · have same : held (scene.turn (sharing stores own) i).stores (keys j) =
        held scene.stores (keys j) :=
      h.held_turn apart fun he => hj (distinct he).symm
    have actor : (scene.turn (sharing stores own) i).actors j = scene.actors j := by
      cases hp : (scene.actors i).rest with
      | done result => rw [turn_done hp]
      | ask r resume => rw [turn_ask hp, moved_actors_of_ne hj]
    have agree : Agree held (keys j) ((scene.turn (sharing stores own) i).world j)
        (scene.world j) := ⟨same, congrArg Actor.own actor⟩
    obtain ⟨result, ended⟩ :=
      (h.confined j).run_agrees own apart left.placed h.placed agree
    simp only [fate, actor]
    rw [result, ended.held, ended.own]

theorem Orderly.fate_play (h : Orderly held keys scene) (apart : KeptApart stores held)
    (distinct : Function.Injective keys) (schedule : List ι) (j : ι) :
    (scene.play (sharing stores own) schedule).fate stores own held (keys j) j =
      scene.fate stores own held (keys j) j := by
  induction schedule generalizing scene with
  | nil => rfl
  | cons i schedule ih =>
    exact (ih (h.turn apart i)).trans (h.fate_turn apart distinct i j)

omit [DecidableEq ι] in
/-- Cycles that have ended with the same fate have come to the same. -/
theorem actor_eq_of_fate {other : Scene ι S W} {key : Key} {i : ι}
    (hs : (scene.actors i).result?.isSome = true) (ho : (other.actors i).result?.isSome = true)
    (h : scene.fate stores own held key i = other.fate stores own held key i) :
    scene.actors i = other.actors i ∧ held scene.stores key = held other.stores key := by
  have ended : ∀ actor : Actor W, actor.result?.isSome = true →
      ∃ result w, actor = ⟨.done result, w⟩ := by
    rintro ⟨rest, w⟩ hr
    cases rest with
    | done result => exact ⟨result, w, rfl⟩
    | ask r resume => cases hr
  obtain ⟨result, w, hactor⟩ := ended _ hs
  obtain ⟨result', w', hactor'⟩ := ended _ ho
  simp only [fate, world, hactor, hactor', run, Prod.mk.injEq] at h
  obtain ⟨rfl, rfl, hheld⟩ := h
  exact ⟨hactor.trans hactor'.symm, hheld⟩

/-- **Cycles of different claims do not interfere.**  The stores hold every object under its own
namespace and name; every cycle has a key of its own, and a world of its own for everything but
the stores.  Then, in whatever order the cycles make their requests:

* every store call is for the key of the cycle that makes it, and what is held under any other
  key stays as it was;
* they can all be brought to their ends;
* once all have ended, each has ended in the same way, has left its own world the same, and
  the stores hold the same claim and the same Secret under every key, as if the cycles had
  run one after the other, in any order. -/
theorem cycles_apart (apart : KeptApart stores held) (distinct : Function.Injective keys) {s : S}
    (placed : InPlace (held s)) (own : Server controllerInterface W) (worlds : ι → W)
    (schedule : List ι) :
    let serve := sharing stores own
    let played := (start keys s worlds).play serve schedule
    (∀ i call, (i, Effect.store call) ∈ (start keys s worlds).requests serve schedule →
      call.place = keys i) ∧
    (∀ key, (∀ i, keys i ≠ key) → held played.stores key = held s key) ∧
    ∀ order : List ι, (∀ i, i ∈ order) →
      let turned := (start keys s worlds).inTurn serve order
      (played.inTurn serve order).Finished ∧ turned.Finished ∧
      (played.Finished → played.actors = turned.actors ∧
        ∀ key, held played.stores key = held turned.stores key) := by
  intro serve played
  have orderly : Orderly held keys (start keys s worlds) := orderly_start placed worlds
  refine ⟨fun i call hm => orderly.place_eq apart hm,
    fun key hne => orderly.held_play apart hne schedule, fun order all => ?_⟩
  intro turned
  refine ⟨finished_inTurn played all, finished_inTurn _ all, fun finished => ?_⟩
  have ended : turned.Finished := finished_inTurn _ all
  obtain ⟨other, hother⟩ : ∃ other, turned = (start keys s worlds).play serve other :=
    inTurn_eq_play _ order
  have same : ∀ i, played.actors i = turned.actors i ∧
      held played.stores (keys i) = held turned.stores (keys i) := by
    intro i
    have fates : played.fate stores own held (keys i) i =
        turned.fate stores own held (keys i) i := by
      rw [hother]
      exact (orderly.fate_play apart distinct schedule i).trans
        (orderly.fate_play apart distinct other i).symm
    exact actor_eq_of_fate (finished i) (ended i) fates
  refine ⟨funext fun i => (same i).1, fun key => ?_⟩
  by_cases hkey : ∃ i, keys i = key
  · obtain ⟨i, rfl⟩ := hkey
    exact (same i).2
  · have hne : ∀ i, keys i ≠ key := fun i hi => hkey ⟨i, hi⟩
    rw [hother]
    exact (orderly.held_play apart hne schedule).trans (orderly.held_play apart hne other).symm

end Scene

/-! ## 6. In memory -/

/-- What is held in memory; the answers also depend on which calls are told to fail. -/
def holding (m : Memory) (key : Key) : Holding (StoreCall.Kind → Option StoreError) :=
  ⟨m.claims[key]?, m.secrets[key]?, m.faults⟩

section Holding

variable {m m' : Memory} {key : Key}

/-- What a call does that is not told to fail is decided by what is held under its key. -/
theorem act_agrees (call : StoreCall) (h : holding m call.place = holding m' call.place) :
    (m.act call).1 = (m'.act call).1 ∧
      holding (m.act call).2 call.place = holding (m'.act call).2 call.place := by
  obtain ⟨hclaim, hsecret, hfaults⟩ := Holding.mk.inj h
  cases call with
  | readClaim k => exact ⟨congrArg Except.ok hclaim, h⟩
  | readSecret k => exact ⟨congrArg Except.ok hsecret, h⟩
  | replaceSecret secret =>
    refine ⟨rfl, ?_⟩
    simp only [holding, Memory.act, StoreCall.place,
      Std.ExtTreeMap.getElem?_insert_self] at hclaim ⊢
    rw [hclaim, hfaults]
  | createSecret secret =>
    simp only [StoreCall.place] at hclaim hsecret
    have taken : m.secrets.contains secret.metadata.place =
        m'.secrets.contains secret.metadata.place := by
      rw [← Std.ExtTreeMap.isSome_getElem?_eq_contains, hsecret,
        Std.ExtTreeMap.isSome_getElem?_eq_contains]
    simp only [Memory.act, taken]
    split
    · exact ⟨rfl, h⟩
    · refine ⟨rfl, ?_⟩
      simp only [holding, StoreCall.place, Std.ExtTreeMap.getElem?_insert_self]
      rw [hclaim, hfaults]
  | writeStatus claim status =>
    simp only [StoreCall.place] at hclaim hsecret
    simp only [Memory.act, hclaim]
    split
    · exact ⟨rfl, h⟩
    · refine ⟨rfl, ?_⟩
      simp only [holding, StoreCall.place, Std.ExtTreeMap.getElem?_insert_self]
      rw [hsecret, hfaults]

/-- A call leaves alone what is held under other keys. -/
theorem act_others (call : StoreCall) (m : Memory) (h : key ≠ call.place) :
    holding (m.act call).2 key = holding m key := by
  cases call with
  | readClaim k => rfl
  | readSecret k => rfl
  | replaceSecret secret =>
    simp only [StoreCall.place] at h
    simp only [holding, Memory.act]
    rw [Keyed.getElem?_insert_of_ne h]
  | createSecret secret =>
    simp only [StoreCall.place] at h
    simp only [Memory.act]
    split
    · rfl
    · simp only [holding]
      rw [Keyed.getElem?_insert_of_ne h]
  | writeStatus claim status =>
    simp only [StoreCall.place] at h
    simp only [Memory.act]
    split
    · rfl
    · simp only [holding]
      rw [Keyed.getElem?_insert_of_ne h]

/-- A call puts what it writes in its place. -/
theorem act_placed (call : StoreCall) (placed : InPlace (holding m)) :
    InPlace (holding (m.act call).2) := by
  -- a Secret that is written is stored under its own place
  have secretPut : ∀ secret : Secret, InPlace (holding
      { m with secrets := m.secrets.insert secret.metadata.place secret }) := by
    intro secret
    exact ⟨placed.claims, Keyed.forall_insert placed.secrets rfl⟩
  cases call with
  | readClaim k => exact placed
  | readSecret k => exact placed
  | replaceSecret secret => exact secretPut secret
  | createSecret secret =>
    simp only [Memory.act]
    split
    · exact placed
    · exact secretPut secret
  | writeStatus claim status =>
    simp only [Memory.act]
    split
    · exact placed
    next stored hs =>
      exact ⟨Keyed.forall_insert placed.claims (placed.claims _ stored hs), placed.secrets⟩

/-- A call is told to fail, or acts; that it was made is written down beside what is held. -/
theorem serve_cases (call : StoreCall) (m : Memory) :
    (∃ e, m.faults call.kind = some e ∧ (Memory.serve call m).answer = .error e ∧
      holding (Memory.serve call m).after = holding m) ∨
    (m.faults call.kind = none ∧
      (Memory.serve call m).answer = ((m.logged call).act call).1 ∧
      (Memory.serve call m).after = ((m.logged call).act call).2) := by
  cases hf : m.faults call.kind with
  | some e =>
    refine .inl ⟨e, rfl, by simp only [Memory.serve, hf], ?_⟩
    simp only [Memory.serve, hf]
    rfl
  | none => exact .inr ⟨rfl, by simp only [Memory.serve, hf], by simp only [Memory.serve, hf]⟩

/-- **Stores in memory keep the objects of different keys apart.** -/
theorem memory_keptApart : KeptApart Memory.serve holding where
  answer call m m' h := by
    have hfaults : m.faults = m'.faults := congrArg Holding.rest h
    rcases serve_cases call m with ⟨e, hf, ha, -⟩ | ⟨hf, ha, -⟩ <;>
    rcases serve_cases call m' with ⟨e', hf', ha', -⟩ | ⟨hf', ha', -⟩ <;>
    rw [hfaults, hf'] at hf
    · obtain rfl := Option.some.inj hf
      rw [ha, ha']
    · cases hf
    · cases hf
    · rw [ha, ha']
      have logged : holding (m.logged call) call.place = holding (m'.logged call) call.place := h
      exact (act_agrees call logged).1
  after call m m' h := by
    have hfaults : m.faults = m'.faults := congrArg Holding.rest h
    rcases serve_cases call m with ⟨e, hf, -, ha⟩ | ⟨hf, -, ha⟩ <;>
    rcases serve_cases call m' with ⟨e', hf', -, ha'⟩ | ⟨hf', -, ha'⟩ <;>
    rw [hfaults, hf'] at hf
    · rw [ha, ha', h]
    · cases hf
    · cases hf
    · rw [ha, ha']
      have logged : holding (m.logged call) call.place = holding (m'.logged call) call.place := h
      exact (act_agrees call logged).2
  others call m key hne := by
    rcases serve_cases call m with ⟨-, -, -, ha⟩ | ⟨-, -, ha⟩
    · rw [ha]
    · rw [ha]
      exact act_others call (m.logged call) hne
  claim_read h := (Memory.readClaim_ok h).1
  secret_read h := (Memory.readSecret_ok h).1
  placed call m placed := by
    rcases serve_cases call m with ⟨-, -, -, ha⟩ | ⟨-, -, ha⟩
    · rw [ha]
      exact placed
    · rw [ha]
      exact act_placed (m := m.logged call) call placed

end Holding

/-! ## 7. Two passwords made at once -/

namespace Twins

/-- Two keys, one for each truth value. -/
def keys (i : Bool) : Key := ⟨"default", if i then "web" else "db"⟩

/-- Claims for a password. -/
def claim (i : Bool) : Claim where
  metadata := { ns := some "default", name := some (keys i).name }
  spec :=
    { type := "AutoGenerated"
      generation := some { dataKeys := ["password"], length := 8, encoding := "digits" } }

/-- Stores with both claims. -/
def stores : Memory where
  claims := ((∅ : Keyed Claim).insert (keys true) (claim true)).insert (keys false) (claim false)

/-- What each cycle has for itself. -/
def worlds (i : Bool) : Bench Unit where
  stores := ()
  entropy :=
    { stream := .cycle (if i then [4, 5, 6] else [1, 2, 3]) [], answers := 8, message := "" }

abbrev serve : Server controllerInterface (Memory × Bench Unit) :=
  sharing Memory.serve (Bench.serve nowhere)

/-- The cycles make their requests by turns. -/
def schedule : List Bool := (List.replicate 10 [false, true]).flatten

abbrev played : Scene Bool Memory (Bench Unit) :=
  (Scene.start keys stores worlds).play serve schedule

theorem distinct : Function.Injective keys := by
  unfold Function.Injective
  decide

theorem placed : InPlace (holding stores) where
  claims := Keyed.forall_insert (Keyed.forall_insert Keyed.forall_empty rfl) rfl
  secrets := Keyed.forall_empty

theorem finished : played.Finished := by
  unfold Scene.Finished
  decide +kernel

end Twins

/-- Two passwords that are made by turns are those that would be made one after the other. -/
theorem twins_apart :
    Twins.played.Finished ∧
    (∀ i, (Twins.played.actors i).result? = some (.ok .created)) ∧
    ∀ order ∈ [[false, true], [true, false]],
      let turned := (Scene.start Twins.keys Twins.stores Twins.worlds).inTurn Twins.serve order
      Twins.played.actors = turned.actors ∧
        ∀ key, holding Twins.played.stores key = holding turned.stores key := by
  refine ⟨Twins.finished, by decide +kernel, fun order horder => ?_⟩
  have all : ∀ i, i ∈ order := by
    simp only [List.mem_cons, List.not_mem_nil, or_false] at horder
    rcases horder with rfl | rfl <;> decide
  obtain ⟨-, -, ended⟩ := Scene.cycles_apart memory_keptApart Twins.distinct Twins.placed
    (Bench.serve nowhere) Twins.worlds Twins.schedule
  exact (ended order all).2.2 Twins.finished

end SecretKeeper.Controller
