/-
# Runs, and what can be said of their past

A run is what happens in a system step by step, each step keeping to a rule: what others may
do, which failures there are, whether cycles overlap.  Its moves are the history of it.

Three things hold of every run, whatever the rule.  What a cycle on its way was told is part of
the history (`Run.recorded`).  A Secret that the controller changes is the one that a cycle had
read, and is left with the data that this cycle has made (`Step.secret_cases`).  And a claim that
the controller changes gets a status that a cycle for it came to report (`Step.claim_cases`).
-/
import SecretKeeper.Proofs.Interleaving
import SecretKeeper.Proofs.Reporting

namespace SecretKeeper.Controller

open Program

/-! ## 1. Runs -/

/-- Which steps are allowed. -/
abbrev Rule := System → Move → System → Prop

/-- The rule allows all that happens from the first system to the last. -/
inductive Run (rule : Rule) (s : System) : List Move → System → Prop
  | here : Run rule s [] s
  | step {t u : System} {moves : List Move} {move : Move} (run : Run rule s moves t)
      (step : Step t move u) (kept : rule t move u) : Run rule s (moves ++ [move]) u

/-- No cycle for the key is on its way. -/
def System.Grounded (key : Key) (s : System) : Prop := ∀ f ∈ s.flights, f.key ≠ key

section Run

variable {rule : Rule} {key : Key} {s t : System} {moves : List Move}

theorem Run.sound (run : Run rule s moves t) (hs : s.Sound) : t.Sound := by
  induction run with
  | here => exact hs
  | step _ step _ ih => exact step.sound ih

theorem Run.reachable (run : Run rule s moves t) (past : Reachable s) : Reachable t := by
  induction run with
  | here => exact past
  | step _ step _ ih => exact ih.step step

/-- What holds at the beginning, and is kept by every step that the rule allows, holds at the
end. -/
theorem Run.keeps {P : System → Prop} (run : Run rule s moves t) (hs : s.Sound)
    (kept : ∀ t move u, t.Sound → Step t move u → rule t move u → P t → P u) (h : P s) : P t := by
  induction run with
  | here => exact h
  | step run step allowed ih => exact kept _ _ _ (run.sound hs) step allowed ih

/-- A run can be cut at any of its moves, which is a step that the rule allows. -/
theorem Run.cut (run : Run rule s moves t) {before after : List Move} {move : Move}
    (h : moves = before ++ move :: after) :
    ∃ u v, Run rule s before u ∧ Step u move v ∧ rule u move v ∧ Run rule v after t := by
  induction run generalizing after with
  | here => simp at h
  | step run step kept ih =>
    rcases concat_cut_cases h with ⟨rfl, rfl, rfl⟩ | ⟨rest, rfl, rfl⟩
    · exact ⟨_, _, run, step, kept, .here⟩
    · obtain ⟨u, v, first, cut, allowed, last⟩ := ih rfl
      exact ⟨u, v, first, cut, allowed, last.step step kept⟩

/-- Every move of a run is a step that the rule allows. -/
theorem Run.allowed (run : Run rule s moves t) {move : Move} (h : move ∈ moves) :
    ∃ before u v, Run rule s before u ∧ Step u move v ∧ rule u move v := by
  obtain ⟨before, after, h⟩ := List.append_of_mem h
  obtain ⟨u, v, first, step, kept, -⟩ := run.cut h
  exact ⟨before, u, v, first, step, kept⟩

/-- One run after the other; the second may keep to a stricter rule. -/
theorem Run.append {strict : Rule} {u : System} {more : List Move} (run : Run rule s moves t)
    (next : Run strict t more u) (weaker : ∀ s move s', strict s move s' → rule s move s') :
    Run rule s (moves ++ more) u := by
  induction next with
  | here => simpa using run
  | step _ step kept ih =>
    rw [← List.append_assoc]
    exact ih.step step (weaker _ _ _ kept)

end Run

/-! ## 2. Where a cycle comes from, and what it was told -/

/-- Where a cycle comes from that is on its way after a step. -/
inductive Flight.Since (s : System) (move : Move) (s' : System) : Flight → Prop
  | stayed {f : Flight} (h : f ∈ s.flights) : Since s move s' f
  | begun (key : Key) (h : move = .begun key) : Since s move s' (.start key)
  | told {key : Key} {log : List (Event controllerInterface)} {r : Effect} {answer : r.Answer}
      {resume : r.Answer → Controller (Except CycleError Outcome)}
      (there : ⟨key, log, .ask r resume⟩ ∈ s.flights)
      (h : move = .asked ⟨key, log, .ask r resume⟩ r answer)
      (answered : Cluster.Answers r s.cluster answer s'.cluster) :
      Since s move s' ⟨key, log ++ [⟨r, answer⟩], resume answer⟩

section Step

variable {s s' : System} {move : Move} {key : Key}

theorem Step.since (h : Step s move s') {f : Flight} (hf : f ∈ s'.flights) :
    f.Since s move s' := by
  cases h with
  | outside flights _ => exact .stayed hf
  | begun c flights key =>
    rcases List.mem_cons.mp hf with rfl | hf
    · exact .begun key rfl
    · exact .stayed hf
  | asked before after ha =>
    rcases List.mem_append.mp hf with hf | hf
    · exact .stayed (List.mem_append_left _ hf)
    · rcases List.mem_cons.mp hf with rfl | hf
      · exact .told (by simp) rfl ha
      · exact .stayed (by simp [hf])
  | dropped c before after g =>
    refine .stayed ?_
    rcases List.mem_append.mp hf with hf | hf
    · exact List.mem_append_left _ hf
    · exact List.mem_append_right _ (List.mem_cons_of_mem _ hf)

/-- Who asks is on its way, and is answered by the cluster. -/
theorem Step.answered {f : Flight} {r : Effect} {answer : r.Answer}
    (h : Step s (.asked f r answer) s') :
    f ∈ s.flights ∧ (∃ resume, f.rest = .ask r resume) ∧
      Cluster.Answers r s.cluster answer s'.cluster := by
  cases h with
  | asked before after ha => exact ⟨by simp, ⟨_, rfl⟩, ha⟩

/-- All that the cycle was told is among the moves. -/
def Flight.Recorded (moves : List Move) (f : Flight) : Prop :=
  ∀ (before after : List (Event controllerInterface)) (r : Effect) (answer : r.Answer),
    f.log = before ++ ⟨r, answer⟩ :: after →
      ∃ rest, Move.asked ⟨f.key, before, rest⟩ r answer ∈ moves

theorem Flight.Recorded.append {moves : List Move} {f : Flight} (h : f.Recorded moves)
    (more : List Move) : f.Recorded (moves ++ more) := by
  intro before after r answer hlog
  obtain ⟨rest, hm⟩ := h before after r answer hlog
  exact ⟨rest, List.mem_append_left _ hm⟩

/-- **What a cycle was told is part of the history**, if the cycle began with it. -/
theorem Run.recorded {rule : Rule} {moves : List Move} (run : Run rule s moves s')
    (grounded : s.Grounded key) : ∀ f ∈ s'.flights, f.key = key → f.Recorded moves := by
  induction run with
  | here => exact fun f hf hk => absurd hk (grounded f hf)
  | @step t u moves move run step _ ih =>
    intro f hf hk
    cases step.since hf with
    | stayed hf => exact (ih f hf hk).append _
    | begun k _ =>
      intro before after r answer hlog
      simp [Flight.start] at hlog
    | @told k log r answer resume there h _ =>
      intro before after r' answer' hlog
      rcases concat_cut_cases hlog with ⟨rfl, hlast, -⟩ | ⟨rest, -, hlog⟩
      · cases hlast
        refine ⟨.ask r resume, ?_⟩
        rw [h]
        exact List.mem_append_right _ (List.mem_singleton_self _)
      · obtain ⟨rest', hm⟩ := ih _ there hk before rest r' answer' hlog
        exact ⟨rest', List.mem_append_left _ hm⟩

/-- A cycle was told all that stands in its log. -/
theorem Flight.Recorded.asked {moves : List Move} {f : Flight} (h : f.Recorded moves)
    {r : Effect} {answer : r.Answer} (hm : ⟨r, answer⟩ ∈ f.log) :
    ∃ before rest, Move.asked ⟨f.key, before, rest⟩ r answer ∈ moves := by
  obtain ⟨before, after, hlog⟩ := List.append_of_mem hm
  obtain ⟨rest, hm⟩ := h before after r answer hlog
  exact ⟨before, rest, hm⟩

/-! ## 3. What a step of the controller changes -/

theorem mem_of_mem_outward {log : List (Event controllerInterface)}
    {e : Event controllerInterface} (h : e ∈ outward log) : e ∈ log := (List.mem_filter.mp h).1

theorem mem_of_outward_eq {log front rest : List (Event controllerInterface)}
    (h : outward log = front ++ rest) {e : Event controllerInterface} (he : e ∈ front) : e ∈ log :=
  mem_of_mem_outward (h ▸ List.mem_append_left _ he)

/-- A cycle that is over has taken one of its courses. -/
theorem Flight.Sound.course {c : Cluster} {f : Flight} {ending : Except CycleError Outcome}
    (h : f.Sound c) (hrest : f.rest = .done ending) : Course f.key (outward f.log) ending := by
  have hreaches := h.reaches
  rw [hrest] at hreaches
  have hyields : (cycle f.key).Yields (f.log ++ []) ending := hreaches.yields (.done _)
  rw [List.append_nil] at hyields
  exact cycle_course ⟨_, hyields, rfl⟩

/-- The cycle has read the claim and its Secret, a write is due, and these are the data that it
has made. -/
structure Flight.Ready (f : Flight) (claim : Claim) (existing : Option Secret) (demand : Demand)
    (drawn : List (Event controllerInterface)) (data : Dict Bytes) : Prop where
  due : Due claim existing demand
  made : Materialized demand drawn data
  log_eq : outward f.log = reads f.key claim existing ++ drawn

section Ready

variable {f : Flight} {claim : Claim} {existing : Option Secret} {demand : Demand}
  {drawn : List (Event controllerInterface)} {data : Dict Bytes}

theorem Flight.Ready.hasRead (h : f.Ready claim existing demand drawn data) :
    f.HasRead claim existing := Flight.hasRead_of_outward h.log_eq h.made

theorem Flight.Ready.read_mem (h : f.Ready claim existing demand drawn data)
    {e : Event controllerInterface} (he : e ∈ reads f.key claim existing) : e ∈ f.log :=
  mem_of_outward_eq h.log_eq he

theorem Flight.Ready.drawn_mem (h : f.Ready claim existing demand drawn data)
    {e : Event controllerInterface} (he : e ∈ drawn) : e ∈ f.log :=
  mem_of_mem_outward (by rw [h.log_eq]; exact List.mem_append_right _ he)

theorem Flight.HasRead.claim_mem (h : f.HasRead claim existing) :
    told (.readClaim f.key) (.ok (some claim)) ∈ f.log := by
  refine mem_of_mem_calls ?_
  rw [h]
  exact List.mem_cons_self

/-- A cycle has read one claim and one Secret. -/
theorem Flight.HasRead.unique {other : Claim} {probe : Option Secret}
    (h : f.HasRead claim existing) (h' : f.HasRead other probe) :
    claim = other ∧ existing = probe := by
  have heq := h.symm.trans h'
  simp only [reads, calls_told, calls_nil, List.cons.injEq, and_true] at heq
  obtain ⟨hclaim, hsecret⟩ := heq
  cases hclaim
  cases hsecret
  exact ⟨rfl, rfl⟩

theorem writeCall_inj {data' : Dict Bytes}
    (h : writeCall claim existing data = writeCall claim existing data') : data = data' := by
  cases existing <;>
  · injection h with h
    exact Option.some.inj (congrArg Secret.data h)

/-- What a rightful write finds, and what it leaves. -/
theorem Rightful.stored {c c' : Cluster} {call : StoreCall} (h : Rightful f c c' call) :
    ∃ claim existing data v, f.HasRead claim existing ∧ call = writeCall claim existing data ∧
      c.secrets[f.key]? = existing ∧
      c'.secrets[f.key]? = some ((written claim existing data).versioned v) := by
  cases h with
  | created read free there _ => exact ⟨_, none, _, _, read, rfl, free, there⟩
  | replaced read _ stored there _ => exact ⟨_, some _, _, _, read, rfl, stored, there⟩

end Ready

/-- **What the controller makes of a Secret.**  A step of the controller leaves the Secret as it
is, or it is the write of a cycle for that key: this cycle had read just that Secret, and its
data are stored now. -/
theorem Step.secret_cases (h : Step s move s') (key : Key) (hs : s.Sound)
    (ho : move ≠ .outside) :
    s'.cluster.secrets[key]? = s.cluster.secrets[key]? ∨
      ∃ f claim existing demand drawn data answer v,
        move = .asked f (.store (writeCall claim existing data)) answer ∧ f ∈ s.flights ∧
          f.key = key ∧ f.Ready claim existing demand drawn data ∧
          s.cluster.secrets[key]? = existing ∧
          s'.cluster.secrets[key]? = some ((written claim existing data).versioned v) := by
  by_cases hne : s'.cluster.secrets[key]? = s.cluster.secrets[key]?
  · exact .inl hne
  · refine .inr ?_
    cases h with
    | outside flights _ => exact absurd rfl ho
    | begun c flights k => exact absurd rfl hne
    | dropped c before after f => exact absurd rfl hne
    | @asked c c' k log r resume answer before after ha =>
      obtain ⟨call, value, rfl, hw, hacts⟩ := ha.acts_of_changed hne
      have hf : (⟨k, log, .ask (.store call) resume⟩ : Flight) ∈
          before ++ ⟨k, log, .ask (.store call) resume⟩ :: after := by simp
      have hr := (hs _ hf).rightful hacts hw
      obtain rfl := hr.key_eq_of_changed hne
      obtain ⟨claim, existing, demand, drawn, data, due, hm, hl, rfl⟩ :=
        write_of_reaches (hs _ hf).reaches hw
      have ready : Flight.Ready ⟨k, log, .ask (.store (writeCall claim existing data)) resume⟩
          claim existing demand drawn data := ⟨due, hm, hl⟩
      obtain ⟨claim', existing', data', v, read, hcall, hold, hnew⟩ := hr.stored
      obtain ⟨rfl, rfl⟩ := ready.hasRead.unique read
      obtain rfl := writeCall_inj hcall
      exact ⟨_, claim, existing, demand, drawn, data, answer, v, rfl, hf, rfl, ready, hold, hnew⟩

/-- What a write that is due leaves: what the cycle had read was there, and its data are. -/
theorem Flight.Ready.stores {f : Flight} {claim : Claim} {existing : Option Secret}
    {demand : Demand} {drawn : List (Event controllerInterface)} {data : Dict Bytes}
    {value : (writeCall claim existing data).Value}
    (ready : f.Ready claim existing demand drawn data) (hs : s.Sound)
    (step : Step s (.asked f (.store (writeCall claim existing data)) (.ok value)) s') :
    s.cluster.secrets[f.key]? = existing ∧
      ∃ ver, s'.cluster.secrets[f.key]? = some ((written claim existing data).versioned ver) := by
  obtain ⟨hf, ⟨resume, hrest⟩, answered⟩ := step.answered
  obtain ⟨k, log, rest⟩ := f
  obtain rfl : rest = _ := hrest
  have writes : (writeCall claim existing data).writesSecret = true := by cases existing <;> rfl
  obtain ⟨claim', existing', data', ver, read, hcall, hold, hnew⟩ :=
    ((hs _ hf).rightful answered.acts writes).stored
  obtain ⟨rfl, rfl⟩ := ready.hasRead.unique read
  obtain rfl := writeCall_inj hcall
  exact ⟨hold, ver, hnew⟩

/-- **What the controller makes of a claim.**  A step of the controller leaves the claim as it
is, or it is the report of a cycle for that key, whose status is stored now. -/
theorem Step.claim_cases (h : Step s move s') (key : Key) (hs : s.Sound)
    (ho : move ≠ .outside) :
    s'.cluster.claims[key]? = s.cluster.claims[key]? ∨
      ∃ f claim status answer stored,
        move = .asked f (.store (.writeStatus claim status)) answer ∧ f ∈ s.flights ∧
          f.key = key ∧ Reporting key (outward f.log) claim status ∧
          s.cluster.claims[key]? = some stored ∧
          s'.cluster.claims[key]? = some { stored with status := some status } := by
  cases h with
  | outside flights _ => exact absurd rfl ho
  | begun c flights k => exact .inl rfl
  | dropped c before after f => exact .inl rfl
  | @asked c c' k log r resume answer before after ha =>
    rcases ha.claims_cases with hc | ⟨claim, status, key', stored, rfl, hr⟩
    · exact .inl (by rw [hc])
    · have hf : (⟨k, log, .ask (.store (.writeStatus claim status)) resume⟩ : Flight) ∈
          before ++ ⟨k, log, .ask (.store (.writeStatus claim status)) resume⟩ :: after := by simp
      have reporting := report_of_reaches (hs _ hf).reaches
      have hk : claim.key? = some k :=
        (hs _ hf).claims k claim (mem_of_mem_outward reporting.claim_read)
      obtain rfl : key' = k := Option.some.inj (hr.key_eq.symm.trans hk)
      by_cases hkey : key = key'
      · subst hkey
        refine .inr ⟨_, claim, status, answer, stored, rfl, hf, rfl, reporting, hr.there, ?_⟩
        rw [hr.claims]
        exact Std.ExtTreeMap.getElem?_insert_self
      · exact .inl (by rw [hr.claims]; exact Keyed.getElem?_insert_of_ne hkey)

end Step

end SecretKeeper.Controller
