/-
# The backoff of a claim tells its history

A claim that keeps failing is tried again after delays that follow the Fibonacci numbers, in
minutes, up to a cap; a success starts them anew.  What stands in the table for a claim is thus
a matter of one number: how often the claim has failed, retryably, since it last succeeded
(`strikes`).  Nothing that happens to other claims matters, however it is mixed with it.

Both the registers of a sequence and the count of errors stop at the greatest number of their
width.  The closed form forgets that, so the registers are compared with it only up to that
number (`Backoff.Reaches`); a delay cannot tell the difference, since it stops there too.

The error policy and the delivery build the text under which a claim is entered in two ways.
The two are the same, and texts of different claims differ, for claims that have both a
namespace and a name, without a slash in them (`Key.text_injective`).
-/
import Mathlib.Data.Nat.Fib.Basic
import SecretKeeper.Controller.Delivery
import SecretKeeper.Proofs.Course
import SecretKeeper.Proofs.Dict
import SecretKeeper.Simulation.Bench

namespace SecretKeeper

/-! ## 1. One sequence of delays -/

namespace Backoff

variable {least most n : Nat} {b : Backoff}

/-- The least delay, in minutes: never less than one. -/
def floor (least : Nat) : Nat := max least 1

/-- The greatest delay, in minutes: never less than the least one. -/
def cap (least most : Nat) : Nat := max most (floor least)

/-- The delay after `n` earlier ones, in seconds. -/
def delay (least most n : Nat) : Nat :=
  min (60 * min (Nat.fib (n + 1) * floor least) (cap least most)) wordMax

/-- The sequence after `n` delays: its registers are the Fibonacci numbers, in units of the least
delay and up to the cap, as far as a word can tell. -/
structure Reaches (least most n : Nat) (b : Backoff) : Prop where
  previous : min b.previous wordMax =
    min (min (Nat.fib n * floor least) (cap least most)) wordMax
  current : min b.current wordMax =
    min (min (Nat.fib (n + 1) * floor least) (cap least most)) wordMax
  most_eq : b.most = cap least most

theorem reaches_start (least most : Nat) : Reaches least most 0 (start least most) where
  previous := by simp [start]
  current := by simp [start, floor, cap]
  most_eq := rfl

/-- **One more delay, one more Fibonacci number.** -/
theorem Reaches.next (h : Reaches least most n b) : Reaches least most (n + 1) b.next where
  previous := h.current
  current := by
    have hfib : Nat.fib (n + 1 + 1) * floor least =
        Nat.fib n * floor least + Nat.fib (n + 1) * floor least := by
      rw [Nat.fib_add_two, Nat.add_mul]
    have hprevious := h.previous
    have hcurrent := h.current
    rw [hfib]
    simp only [Backoff.next, h.most_eq]
    omega
  most_eq := h.most_eq

theorem Reaches.seconds_eq (h : Reaches least most n b) : b.seconds = delay least most n := by
  have hcurrent := h.current
  simp only [seconds, delay]
  omega

end Backoff

/-- The entry of a claim that failed `n` times in a row. -/
structure BackoffEntry.Reaches (least most n : Nat) (e : BackoffEntry) : Prop where
  backoff : Backoff.Reaches least most n e.backoff
  errorCount : e.errorCount = min n countMax

theorem BackoffEntry.reaches_start (least most : Nat) :
    Reaches least most 0 ⟨.start least most, 0⟩ := ⟨Backoff.reaches_start least most, by simp⟩

/-- One more failure: the delay that is due, and the entry after it. -/
theorem BackoffEntry.Reaches.advance {least most n : Nat} {e : BackoffEntry}
    (h : Reaches least most n e) :
    e.advance.1 = Backoff.delay least most n ∧ Reaches least most (n + 1) e.advance.2 := by
  refine ⟨h.backoff.seconds_eq, h.backoff.next, ?_⟩
  have hcount := h.errorCount
  simp only [BackoffEntry.advance, failed]
  omega

/-! ## 2. The text of a key -/

/-- No part of the key has a slash. -/
structure Key.Unslashed (key : Key) : Prop where
  ns : '/' ∉ key.ns.toList
  name : '/' ∉ key.name.toList

/-- Different keys have different texts. -/
theorem Key.text_injective {key other : Key} (hk : key.Unslashed) (ho : other.Unslashed)
    (h : key.text = other.text) : key = other := by
  have hchars : key.ns.toList ++ '/' :: key.name.toList =
      other.ns.toList ++ '/' :: other.name.toList := by
    simpa [Key.text] using congrArg String.toList h
  have unslashed : ∀ s : String, '/' ∉ s.toList → ∀ c ∈ s.toList, (c == '/') = false := by
    intro s hs c hc
    rw [beq_eq_false_iff_ne]
    rintro rfl
    exact hs hc
  obtain ⟨hns, -⟩ := Controller.append_cons_inj_of_unique hchars rfl
    (unslashed other.ns ho.ns) (unslashed other.name ho.name)
  rw [hns] at hchars
  have hname := (List.cons.inj (List.append_cancel_left hchars)).2
  obtain ⟨ns, name⟩ := key
  rw [Key.mk.injEq]
  exact ⟨String.toList_inj.mp hns, String.toList_inj.mp hname⟩

namespace Controller

open Program

variable {settings : Settings} {claim : Claim} {key other : Key} {e : DeliveryError}
  {now : Instant} {table : BackoffTable} {entries : Dict BackoffEntry}

/-- The error policy enters a claim under the text of its key. -/
theorem backoffKey_eq (hk : claim.key? = some key) : backoffKey claim = key.text := by
  obtain ⟨⟨name, _, ns, _⟩, _, _⟩ := claim
  cases ns with
  | none => cases hk
  | some ns =>
    cases name with
    | none => cases hk
    | some name =>
      cases hk
      rfl

/-! ## 3. Histories -/

/-- What may happen to a claim that bears on its backoff. -/
inductive Occasion where
  /-- A failure of the claim was handed to the error policy, at some time. -/
  | handled (claim : Claim) (e : DeliveryError) (now : Instant)
  /-- The claim was delivered, and this came of it. -/
  | delivered (claim : Claim) (result : Except DeliveryError Action)

namespace Occasion

/-- The claim that it happens to. -/
def subject : Occasion → Claim
  | .handled claim _ _ => claim
  | .delivered claim _ => claim

/-- A retryable failure of the claim of this key was handled. -/
def strikes (key : Key) : Occasion → Bool
  | .handled claim e _ => e.isRetryable && claim.key? == some key
  | .delivered _ _ => false

/-- A cycle for this key ended well. -/
def redeems (key : Key) : Occasion → Bool
  | .delivered claim (.ok _) => claim.key? == some key
  | _ => false

/-- The claim has a namespace and a name, without a slash in them. -/
def IsNamed (o : Occasion) : Prop := ∃ key, o.subject.key? = some key ∧ key.Unslashed

end Occasion

/-- The retryable failures of the claim of this key since its last success; the history has its
last occasion first. -/
def strikes (key : Key) (history : List Occasion) : Nat :=
  (history.takeWhile (!·.redeems key)).countP (·.strikes key)

/-- What the table comes to that begins empty, whoever serves the controller. -/
inductive Recorded (settings : Settings) : List Occasion → BackoffTable → Prop
  | start : Recorded settings [] .empty
  | handled {W : Type} {w' : W} {history : List Occasion} {table next : BackoffTable}
      {decision : Except BeyondCalendar Action} (serve : Server controllerInterface W) (w : W)
      (claim : Claim) (e : DeliveryError) (now : Instant)
      (past : Recorded settings history table)
      (h : (handleError settings now claim e table).run serve w = ((decision, next), w')) :
      Recorded settings (.handled claim e now :: history) next
  | delivered {W : Type} {w' : W} {history : List Occasion} {table next : BackoffTable}
      {result : Except DeliveryError Action} (serve : Server controllerInterface W) (w : W)
      (claim : Claim) (past : Recorded settings history table)
      (h : deliver serve settings claim table w = (result, next, w')) :
      Recorded settings (.delivered claim result :: history) next

section Strikes

variable {history : List Occasion} {o : Occasion}

theorem strikes_cons (key : Key) (o : Occasion) (history : List Occasion) :
    strikes key (o :: history) =
      if o.redeems key then 0 else strikes key history + if o.strikes key then 1 else 0 := by
  cases hr : o.redeems key with
  | true => simp [strikes, hr]
  | false => simp [strikes, hr, List.countP_cons]

/-- What is handled never counts as a success. -/
theorem strikes_handled (key : Key) (claim : Claim) (e : DeliveryError) (now : Instant)
    (history : List Occasion) :
    strikes key (.handled claim e now :: history) =
      strikes key history + if e.isRetryable && claim.key? == some key then 1 else 0 :=
  strikes_cons key _ history

theorem strikes_delivered_ok (key : Key) (claim : Claim) (action : Action)
    (history : List Occasion) :
    strikes key (.delivered claim (.ok action) :: history) =
      if claim.key? == some key then 0 else strikes key history := by
  rw [strikes_cons]
  rfl

theorem strikes_delivered_error (key : Key) (claim : Claim) (e : DeliveryError)
    (history : List Occasion) :
    strikes key (.delivered claim (.error e) :: history) = strikes key history :=
  strikes_cons key _ history

end Strikes

/-! ## 4. What the error policy and a delivery do to the table -/

/-- What the error policy decides, and the table after it, by whomever it is served. -/
theorem handleError_run {W : Type} (serve : Server controllerInterface W) (w : W) :
    ((handleError settings now claim e table).run serve w).1 =
      if e.isRetryable then
        let r := table.advance settings.backoffMinMinutes settings.backoffMaxMinutes
          (backoffKey claim)
        (match now.later? r.1.1 with
          | none => .error ⟨r.1.1⟩
          | some _ => .ok (.requeue r.1.1), r.2)
      else (.ok .awaitChange, table) := by
  cases he : e.isRetryable with
  | false =>
    simp only [handleError, he, run_bind]
    rfl
  | true =>
    simp only [handleError, he, run_bind, if_true]
    cases hd : now.later? (table.advance settings.backoffMinMinutes
        settings.backoffMaxMinutes (backoffKey claim)).1.1 with
    | none =>
      simp only [run_bind]
      rfl
    | some date =>
      simp only [run_bind]
      rfl

/-- A delivery that ends well drops the entry of its claim, and any other leaves the table as it
is. -/
theorem deliver_table {W : Type} {serve : Server controllerInterface W} {w w' : W}
    {next : BackoffTable} {result : Except DeliveryError Action}
    (hk : claim.key? = some key) (h : deliver serve settings claim table w = (result, next, w')) :
    next = match result with
      | .ok _ => table.forget key.text
      | .error _ => table := by
  unfold deliver at h
  split at h
  next hnone =>
    rw [hk] at hnone
    cases hnone
  next k hsome =>
    obtain rfl : key = k := Option.some.inj (hk.symm.trans hsome)
    simp only at h
    split at h <;> cases h <;> rfl

/-! ## 5. What the table holds -/

/-- The table holds an entry for just the keys that have failed since their last success, and
each tells how often. -/
structure Tallied (settings : Settings) (history : List Occasion)
    (entries : Dict BackoffEntry) : Prop where
  held : ∀ key : Key, key.Unslashed → strikes key history ≠ 0 →
    ∃ entry, entries[key.text]? = some entry ∧
      entry.Reaches settings.backoffMinMinutes settings.backoffMaxMinutes (strikes key history)
  only : ∀ text : String, text ∈ entries →
    ∃ key : Key, key.Unslashed ∧ text = key.text ∧ strikes key history ≠ 0

section Tallied

variable {history : List Occasion}

theorem Tallied.start (settings : Settings) : Tallied settings [] ∅ where
  held _ _ h := absurd rfl h
  only _ h := absurd h Std.ExtTreeMap.not_mem_empty

/-- What is entered for a key, or would be to begin with. -/
theorem Tallied.entry (h : Tallied settings history entries) (hk : key.Unslashed) :
    BackoffEntry.Reaches settings.backoffMinMinutes settings.backoffMaxMinutes
      (strikes key history) (entries[key.text]?.getD
        ⟨.start settings.backoffMinMinutes settings.backoffMaxMinutes, 0⟩) := by
  by_cases hs : strikes key history = 0
  · have habsent : entries[key.text]? = none := by
      refine Std.ExtTreeMap.getElem?_eq_none fun hmem => ?_
      obtain ⟨other, ho, htext, hne⟩ := h.only _ hmem
      obtain rfl := Key.text_injective hk ho htext
      exact hne hs
    rw [habsent, hs]
    exact BackoffEntry.reaches_start _ _
  · obtain ⟨entry, hentry, hreaches⟩ := h.held key hk hs
    rw [hentry]
    exact hreaches

/-- A history that comes to the same numbers is told by the same table. -/
theorem Tallied.congr {later : List Occasion} (h : Tallied settings history entries)
    (same : ∀ key, strikes key later = strikes key history) : Tallied settings later entries where
  held key hk hs := by
    rw [same] at hs ⊢
    exact h.held key hk hs
  only text ht := by
    obtain ⟨key, hk, rfl, hs⟩ := h.only text ht
    exact ⟨key, hk, rfl, by rwa [same]⟩

/-- **One more failure of one key.** -/
theorem Tallied.failed (h : Tallied settings history entries) (hk : key.Unslashed)
    {later : List Occasion} (struck : strikes key later = strikes key history + 1)
    (same : ∀ other, other ≠ key → strikes other later = strikes other history)
    {entry : BackoffEntry}
    (reaches : entry.Reaches settings.backoffMinMinutes settings.backoffMaxMinutes
      (strikes key history + 1)) : Tallied settings later (entries.insert key.text entry) where
  held other ho hs := by
    by_cases heq : other = key
    · subst heq
      exact ⟨entry, Std.ExtTreeMap.getElem?_insert_self, by rwa [struck]⟩
    · rw [same other heq] at hs ⊢
      have htext : other.text ≠ key.text := fun ht => heq (Key.text_injective ho hk ht)
      rw [Dict.getElem?_insert_of_ne htext]
      exact h.held other ho hs
  only text ht := by
    rw [Std.ExtTreeMap.mem_insert, Std.LawfulEqOrd.compare_eq_iff_eq] at ht
    rcases ht with rfl | ht
    · exact ⟨key, hk, rfl, by omega⟩
    · obtain ⟨other, ho, rfl, hs⟩ := h.only text ht
      by_cases heq : other = key
      · subst heq
        exact ⟨other, ho, rfl, by omega⟩
      · exact ⟨other, ho, rfl, by rwa [same other heq]⟩

/-- **A success of one key.** -/
theorem Tallied.redeemed (h : Tallied settings history entries) (hk : key.Unslashed)
    {later : List Occasion} (redeemed : strikes key later = 0)
    (same : ∀ other, other ≠ key → strikes other later = strikes other history) :
    Tallied settings later (entries.erase key.text) where
  held other ho hs := by
    have heq : other ≠ key := by
      rintro rfl
      exact hs redeemed
    rw [same other heq] at hs ⊢
    have htext : other.text ≠ key.text := fun ht => heq (Key.text_injective ho hk ht)
    rw [Dict.getElem?_erase_of_ne htext]
    exact h.held other ho hs
  only text ht := by
    rw [Std.ExtTreeMap.mem_erase, Ne, Std.LawfulEqOrd.compare_eq_iff_eq] at ht
    obtain ⟨hne, hmem⟩ := ht
    obtain ⟨other, ho, rfl, hs⟩ := h.only text hmem
    have heq : other ≠ key := by
      rintro rfl
      exact hne rfl
    exact ⟨other, ho, rfl, by rwa [same other heq]⟩

/-- What the error policy makes of a table that tells the history. -/
theorem Tallied.handled {W : Type} {serve : Server controllerInterface W} {w w' : W}
    {next : BackoffTable} {decision : Except BeyondCalendar Action}
    (h : Tallied settings history entries) (hk : claim.key? = some key) (hu : key.Unslashed)
    (hrun : (handleError settings now claim e (.usable entries)).run serve w =
      ((decision, next), w')) :
    ∃ later, next = .usable later ∧
      Tallied settings (.handled claim e now :: history) later := by
  have hresult := congrArg Prod.fst hrun
  rw [handleError_run] at hresult
  cases he : e.isRetryable with
  | false =>
    rw [he] at hresult
    obtain rfl := (Prod.mk.inj hresult).2
    exact ⟨entries, rfl, h.congr fun other => by simp [strikes_handled, he]⟩
  | true =>
    rw [he] at hresult
    obtain rfl := (Prod.mk.inj hresult).2
    rw [backoffKey_eq hk]
    refine ⟨_, rfl, h.failed hu ?_ (fun other hne => ?_) (h.entry hu).advance.2⟩
    · simp [strikes_handled, he, hk]
    · simp [strikes_handled, he, hk, Ne.symm hne]

theorem Tallied.delivered {W : Type} {serve : Server controllerInterface W} {w w' : W}
    {next : BackoffTable} {result : Except DeliveryError Action}
    (h : Tallied settings history entries) (hk : claim.key? = some key) (hu : key.Unslashed)
    (hrun : deliver serve settings claim (.usable entries) w = (result, next, w')) :
    ∃ later, next = .usable later ∧
      Tallied settings (.delivered claim result :: history) later := by
  have hnext := deliver_table hk hrun
  cases result with
  | error e => exact ⟨entries, hnext, h.congr fun other => strikes_delivered_error other claim e _⟩
  | ok action =>
    refine ⟨_, hnext, h.redeemed hu ?_ fun other hne => ?_⟩
    · simp [strikes_delivered_ok, hk]
    · simp [strikes_delivered_ok, hk, Ne.symm hne]

/-- **The table tells the history**, as long as all claims in it are named. -/
theorem Recorded.tallied (h : Recorded settings history table)
    (named : ∀ o ∈ history, o.IsNamed) :
    ∃ entries, table = .usable entries ∧ Tallied settings history entries := by
  induction h with
  | start => exact ⟨∅, rfl, .start settings⟩
  | handled serve w claim e now past hrun ih =>
    obtain ⟨⟨key, hk, hu⟩, hrest⟩ := List.forall_mem_cons.mp named
    obtain ⟨entries, rfl, tallied⟩ := ih hrest
    exact tallied.handled hk hu hrun
  | delivered serve w claim past hrun ih =>
    obtain ⟨⟨key, hk, hu⟩, hrest⟩ := List.forall_mem_cons.mp named
    obtain ⟨entries, rfl, tallied⟩ := ih hrest
    exact tallied.delivered hk hu hrun

end Tallied

/-! ## 6. The law -/

/-- **The backoffs follow the history.**  Failures of any kind are handled and deliveries end in
any way, of any named claims in any order.

* The table has an entry for just those keys that have failed retryably since their last success.
* A failure that is not retryable waits for the claim to change, and leaves the table as it is.
* A retryable failure of a claim that has failed `n` times since its last success is counted, and
  if the next attempt has a date, the claim is delivered again after
  `min (60 * min (fib (n + 1) * m) M) (2 ^ 64 - 1)` seconds, where `m` is the least delay in
  minutes, or one, and `M` the greatest one, or `m`. -/
theorem backoff_follows_history {history : List Occasion}
    (recorded : Recorded settings history table) (named : ∀ o ∈ history, o.IsNamed) :
    (∃ entries, table = .usable entries ∧ ∀ text : String, text ∈ entries ↔
      ∃ key : Key, key.Unslashed ∧ text = key.text ∧ strikes key history ≠ 0) ∧
    ∀ (claim : Claim) (key : Key) (e : DeliveryError) (now : Instant) (W : Type)
      (serve : Server controllerInterface W) (w : W), claim.key? = some key → key.Unslashed →
      let result := ((handleError settings now claim e table).run serve w).1
      let m := max settings.backoffMinMinutes 1
      let M := max settings.backoffMaxMinutes m
      let n := strikes key history
      let delay := min (60 * min (Nat.fib (n + 1) * m) M) (2 ^ 64 - 1)
      (e.isRetryable = false → result = (.ok .awaitChange, table)) ∧
      (e.isRetryable = true →
        ((now.later? delay).isSome = true → result.1 = .ok (.requeue delay)) ∧
        ∃ entries entry, result.2 = .usable entries ∧ entries[key.text]? = some entry ∧
          entry.errorCount = min (n + 1) (2 ^ 32 - 1)) := by
  obtain ⟨entries, rfl, tallied⟩ := recorded.tallied named
  refine ⟨⟨entries, rfl, fun text => ⟨tallied.only text, ?_⟩⟩, ?_⟩
  · rintro ⟨key, hk, rfl, hs⟩
    obtain ⟨entry, hentry, -⟩ := tallied.held key hk hs
    exact Std.ExtTreeMap.mem_iff_isSome_getElem?.mpr (by rw [hentry]; rfl)
  · intro claim key e now W serve w hk hu result m M n delay
    have hresult : result = _ := handleError_run serve w
    have hadvance := (tallied.entry hu).advance
    have hdelay : (BackoffTable.usable entries |>.advance settings.backoffMinMinutes
        settings.backoffMaxMinutes (backoffKey claim)).1.1 = delay := by
      rw [backoffKey_eq hk]
      exact hadvance.1
    refine ⟨fun he => by rw [hresult, he]; rfl, fun he => ⟨fun hdate => ?_, ?_⟩⟩
    · obtain ⟨date, hdate⟩ := Option.isSome_iff_exists.mp hdate
      rw [hresult, he]
      simp only [if_true, hdelay, hdate]
    · refine ⟨entries.insert key.text _, _, ?_, Std.ExtTreeMap.getElem?_insert_self,
        hadvance.2.errorCount⟩
      rw [hresult, he, backoffKey_eq hk]
      rfl

/-! ## 7. Two claims

One claim has failed twice, and once in a way that is not tried again; in between another claim
has failed and succeeded. -/

namespace Straining

def claimOf (name : String) : Claim where
  metadata := { ns := some "default", name := some name }
  spec := { type := "Opaque" }

def late : DeliveryError := .deadlineExceeded (.ofSeconds 30)

/-- Empty stores, and a source that never answers. -/
def bench : Simulation.Bench Simulation.Memory :=
  { stores := {}, entropy := ⟨.congruential 1, 0, "none", []⟩ }

abbrev serve : Server controllerInterface (Simulation.Bench Simulation.Memory) :=
  Simulation.Bench.serve Simulation.Memory.serve

def history : List Occasion :=
  [.handled (claimOf "db") late ⟨200, 0⟩, .delivered (claimOf "web") (.ok .awaitChange),
    .handled (claimOf "web") late ⟨100, 0⟩,
    .handled (claimOf "db") (.failed (.validation .missingPolicy)) ⟨60, 0⟩,
    .handled (claimOf "db") late ⟨0, 0⟩]

theorem exists_recorded : ∃ table, Recorded .standard history table := by
  have h : Recorded .standard [] .empty := .start
  have h := h.handled serve bench (claimOf "db") late ⟨0, 0⟩ rfl
  have h := h.handled serve bench (claimOf "db") (.failed (.validation .missingPolicy)) ⟨60, 0⟩ rfl
  have h := h.handled serve bench (claimOf "web") late ⟨100, 0⟩ rfl
  have h := h.delivered serve bench (claimOf "web") rfl
  have h := h.handled serve bench (claimOf "db") late ⟨200, 0⟩ rfl
  exact ⟨_, h⟩

theorem unslashed (name : String) (h : '/' ∉ name.toList) :
    (⟨"default", name⟩ : Key).Unslashed :=
  ⟨(by decide : '/' ∉ "default".toList), h⟩

theorem named : ∀ o ∈ history, o.IsNamed := by
  intro o ho
  simp only [history, List.mem_cons, List.not_mem_nil, or_false] at ho
  rcases ho with rfl | rfl | rfl | rfl | rfl
  · exact ⟨⟨"default", "db"⟩, rfl, unslashed "db" (by decide)⟩
  · exact ⟨⟨"default", "web"⟩, rfl, unslashed "web" (by decide)⟩
  · exact ⟨⟨"default", "web"⟩, rfl, unslashed "web" (by decide)⟩
  · exact ⟨⟨"default", "db"⟩, rfl, unslashed "db" (by decide)⟩
  · exact ⟨⟨"default", "db"⟩, rfl, unslashed "db" (by decide)⟩

end Straining

/-- The third failure of the first claim waits for two minutes, as its third Fibonacci number
says. -/
theorem third_failure_waits : ∃ table, Recorded .standard Straining.history table ∧
    ((handleError .standard ⟨300, 0⟩ (Straining.claimOf "db") Straining.late table).run
      Straining.serve Straining.bench).1.1 = .ok (.requeue 120) := by
  obtain ⟨table, recorded⟩ := Straining.exists_recorded
  obtain ⟨-, law⟩ := backoff_follows_history recorded Straining.named
  obtain ⟨-, hretry⟩ := law (Straining.claimOf "db") ⟨"default", "db"⟩ Straining.late ⟨300, 0⟩ _
    Straining.serve Straining.bench rfl (Straining.unslashed "db" (by decide))
  have hdelay : (Instant.later? ⟨300, 0⟩ 120).isSome = true := by decide
  exact ⟨table, recorded, (hretry rfl).1 hdelay⟩

end Controller

end SecretKeeper
