/-
# What a tally tells

A tally holds what has moved under the names by which it is published.  Two metrics would be
mixed up if they shared a name.  They do not (`Metric.name_injective`): the plain names differ,
a labelled one has a brace, which no plain one has, and the text of a label is escaped in a way
that can be undone.

So each metric of a tally tells just how far the requests that were answered have moved it,
in whatever order, and whatever else they have moved (`Tally.value_replay`).
-/
import SecretKeeper.Controller.Effect
import SecretKeeper.Proofs.Dict
import SecretKeeper.Proofs.Transcript
import Mathlib.Data.List.Nodup

namespace SecretKeeper

/-! ## 1. Names -/

namespace Metrics

/-- What stands for a character in the text of a label. -/
def escapeChar (c : Char) : List Char :=
  if c == '\\' then ['\\', '\\']
  else if c == '"' then ['\\', '"']
  else if c == '\n' then ['\\', 'n']
  else [c]

theorem toList_escapeLabel (s : String) :
    (escapeLabel s).toList = s.toList.flatMap escapeChar := String.toList_ofList

/-- The characters that a text of a label stands for. -/
def unescape : List Char → List Char
  | '\\' :: 'n' :: rest => '\n' :: unescape rest
  | '\\' :: c :: rest => c :: unescape rest
  | c :: rest => c :: unescape rest
  | [] => []

theorem unescape_escape (cs : List Char) : unescape (cs.flatMap escapeChar) = cs := by
  induction cs with
  | nil => rfl
  | cons c cs ih =>
    rw [List.flatMap_cons]
    by_cases hslash : c = '\\'
    · subst hslash
      simp [escapeChar, unescape, ih]
    · by_cases hquote : c = '"'
      · subst hquote
        simp [escapeChar, unescape, ih]
      · by_cases hline : c = '\n'
        · subst hline
          simp [escapeChar, unescape, ih]
        · simp [escapeChar, hslash, hquote, hline, unescape, ih]

/-- Different labels have different texts. -/
theorem escapeLabel_injective : Function.Injective escapeLabel := by
  intro a b h
  have hchars := congrArg (unescape ∘ String.toList) h
  simp only [Function.comp, toList_escapeLabel, unescape_escape] at hchars
  exact String.toList_inj.mp hchars

theorem labelled_injective (name label : String) :
    Function.Injective (labelled name label) := by
  intro a b h
  have htail := String.append_left_inj _ |>.mp h
  exact escapeLabel_injective (String.append_right_inj _ |>.mp htail)

/-- A name with a label has a brace. -/
theorem brace_mem_labelled (name label value : String) :
    '\x7b' ∈ (labelled name label value).toList := by
  simp [labelled]

end Metrics

/-- What is published: a counter, or the number of durations that were observed. -/
inductive Metric where
  | counter (c : Counter)
  | observations
deriving DecidableEq

namespace Metric

/-- The name of the metric in a tally. -/
def name : Metric → String
  | counter c => c.text
  | observations => Tally.duration ++ "_count"

/-- The metrics without a label. -/
def plain : List Metric :=
  [counter .reconciliations, counter .reconciliationErrors, counter .secretsCreated,
    counter .secretsUpdated, counter .ownershipSkips, counter .validationFailures,
    counter .valuesGenerated, counter .statusWriteFailures, observations]

/-- A metric has no label, or it is the requeues for a reason. -/
theorem plain_or_requeues (m : Metric) :
    m ∈ plain ∨ ∃ reason, m = counter (.requeues reason) := by
  cases m with
  | observations => exact .inl (by decide)
  | counter c =>
    cases c with
    | requeues reason => exact .inr ⟨reason, rfl⟩
    | _ => exact .inl (by decide)

theorem brace_not_mem_plain : ∀ m ∈ plain, '\x7b' ∉ m.name.toList := by decide

theorem name_requeues_ne {m : Metric} (h : m ∈ plain) (reason : String) :
    m.name ≠ (counter (.requeues reason)).name := by
  intro heq
  refine brace_not_mem_plain m h ?_
  rw [heq]
  exact Metrics.brace_mem_labelled _ _ _

/-- **Different metrics have different names.** -/
theorem name_injective : Function.Injective name := by
  intro m m' h
  have hnodup : (plain.map name).Nodup := by decide
  rcases plain_or_requeues m with hm | ⟨reason, rfl⟩
  · rcases plain_or_requeues m' with hm' | ⟨reason, rfl⟩
    · exact List.inj_on_of_nodup_map hnodup hm hm' h
    · exact absurd h (name_requeues_ne hm reason)
  · rcases plain_or_requeues m' with hm' | ⟨reason', rfl⟩
    · exact absurd h.symm (name_requeues_ne hm' reason)
    · rw [Metrics.labelled_injective _ _ h]

end Metric

/-! ## 2. Values -/

namespace Tally

/-- How far the metric has moved. -/
def value (t : Tally) (m : Metric) : Nat := t[m.name]?.getD 0

/-- A metric that moves leaves the others where they are. -/
theorem value_bump (t : Tally) (m other : Metric) (n : Nat) :
    (t.bump m.name n).value other = t.value other + if m = other then n else 0 := by
  unfold bump
  split
  next hn => simp [hn]
  next =>
    by_cases hm : m = other
    · subst hm
      simp [value]
    · have hne : other.name ≠ m.name := fun h => hm (Metric.name_injective h).symm
      simp [value, Dict.getElem?_insert_of_ne hne, hm]

end Tally

/-- How far the request moves the metric. -/
def Effect.moves (m : Metric) : Effect → Nat
  | .count c n => if .counter c = m then n else 0
  | .observe => if .observations = m then 1 else 0
  | _ => 0

/-- How far the metric has moved along the transcript. -/
def moved (m : Metric) : List (Event controllerInterface) → Nat
  | [] => 0
  | e :: log => e.request.moves m + moved m log

section Moved

variable {m : Metric} {log rest : List (Event controllerInterface)}

@[simp] theorem moved_nil : moved m [] = 0 := rfl

@[simp] theorem moved_cons (e : Event controllerInterface) :
    moved m (e :: log) = e.request.moves m + moved m log := rfl

@[simp] theorem moved_append : moved m (log ++ rest) = moved m log + moved m rest := by
  induction log with
  | nil => simp
  | cons e log ih => simp [ih, Nat.add_assoc]

/-- The order does not matter. -/
theorem moved_perm (h : log.Perm rest) : moved m log = moved m rest := by
  induction h with
  | nil => rfl
  | cons e _ ih => rw [moved_cons, moved_cons, ih]
  | swap e other log =>
    simp only [moved_cons]
    omega
  | trans _ _ ih ih' => exact ih.trans ih'

end Moved

namespace Tally

/-- The tally after a request was answered. -/
def after (t : Tally) (e : Event controllerInterface) : Tally :=
  match e.request with
  | .count c n => t.count c n
  | .observe => t.observe
  | _ => t

/-- The tally after these requests were answered. -/
def replay (t : Tally) (log : List (Event controllerInterface)) : Tally := log.foldl after t

theorem replay_append (t : Tally) (log rest : List (Event controllerInterface)) :
    t.replay (log ++ rest) = (t.replay log).replay rest := List.foldl_append

theorem value_after (t : Tally) (e : Event controllerInterface) (m : Metric) :
    (t.after e).value m = t.value m + e.request.moves m := by
  obtain ⟨r, answer⟩ := e
  cases r with
  | count c n => exact value_bump t (.counter c) m n
  | observe => exact value_bump t .observations m 1
  | _ => rfl

/-- **A tally tells how far each metric has moved.** -/
theorem value_replay (t : Tally) (log : List (Event controllerInterface)) (m : Metric) :
    (t.replay log).value m = t.value m + moved m log := by
  induction log generalizing t with
  | nil => rfl
  | cons e log ih =>
    calc ((t.after e).replay log).value m
        = (t.after e).value m + moved m log := ih (t.after e)
      _ = t.value m + (e.request.moves m + moved m log) := by
          rw [value_after, Nat.add_assoc]

end Tally

end SecretKeeper
