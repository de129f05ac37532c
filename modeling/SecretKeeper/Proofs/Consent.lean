/-
# No deletion without consent

Before a claim is deleted somebody is asked, unless the deletion was forced.  The answer is
whatever bytes come first on the input: the line up to its line feed, or all there is
(`FirstLine`).  It agrees if it is the UTF-8 form of one of five words with nothing but blanks
around it (`Agrees`); all else refuses, an input that is empty or no text among it.  What comes
after the first line is not looked at.

Without consent nothing is sent, and the command ends well.  With it one request is sent,
whatever comes back for it.  What it deletes is decided by its path, which is put together from
the namespace and the name as they are: where these are segments of a path it leads to that
claim and to nothing else.
-/
import SecretKeeper.Proofs.Targets
import SecretKeeper.Simulation.Terminal

namespace SecretKeeper

/-! ## 1. Texts -/

namespace Bytes

/-- Bytes are read as the text whose form they are. -/
theorem text?_eq_some_iff {bs : Bytes} {s : String} : text? bs = some s ↔ bs = utf8 s := by
  simp only [text?, String.fromUTF8?]
  constructor
  · intro h
    split at h
    · obtain rfl := Option.some.inj h
      rfl
    · cases h
  · rintro rfl
    have hvalid : (ByteArray.mk (utf8 s).toArray).IsValidUTF8 := s.isValidUTF8
    rw [dif_pos hvalid]
    rfl

end Bytes

namespace Text

/-- Blanks at either end make no difference to what is left without them. -/
theorem trim_surrounded {before after : String} (hbefore : ∀ c ∈ before.toList, isBlank c = true)
    (hafter : ∀ c ∈ after.toList, isBlank c = true) (s : String) :
    trim (before ++ s ++ after) = trim s := by
  have hback : after.toList.dropWhile isBlank = [] := List.dropWhile_eq_nil_iff.mpr hafter
  have hreversed : ∀ c ∈ after.toList.reverse, isBlank c = true :=
    fun c hc => hafter c (List.mem_reverse.mp hc)
  simp only [trim, String.toList_append, List.append_assoc]
  rw [List.dropWhile_append_of_pos hbefore, List.dropWhile_append]
  split
  next hempty => rw [hback, List.isEmpty_iff.mp hempty]
  next => rw [List.reverse_append, List.dropWhile_append_of_pos hreversed]

/-- A text is what is left of it, with blanks around. -/
theorem exists_surrounded (s : String) : ∃ before after : String,
    (∀ c ∈ before.toList, isBlank c = true) ∧ (∀ c ∈ after.toList, isBlank c = true) ∧
      s = before ++ trim s ++ after := by
  refine ⟨String.ofList (s.toList.takeWhile isBlank),
    String.ofList ((s.toList.dropWhile isBlank).reverse.takeWhile isBlank).reverse, ?_, ?_, ?_⟩
  · intro c hc
    rw [String.toList_ofList] at hc
    exact List.mem_takeWhile_imp hc
  · intro c hc
    rw [String.toList_ofList, List.mem_reverse] at hc
    exact List.mem_takeWhile_imp hc
  · rw [trim, ← String.ofList_append, ← String.ofList_append, List.append_assoc,
      ← List.reverse_append, List.takeWhile_append_dropWhile, List.reverse_reverse,
      List.takeWhile_append_dropWhile, String.ofList_toList]

end Text

namespace Cli

open Simulation Program Api

/-! ## 2. Answers -/

/-- The first line of an input: up to and with its first line feed, or all of it. -/
inductive FirstLine : (input line : Bytes) → Prop
  | ended {line rest : Bytes} (h : 10 ∉ line) : FirstLine (line ++ 10 :: rest) (line ++ [10])
  | whole {line : Bytes} (h : 10 ∉ line) : FirstLine line line

theorem firstLine_iff {input line : Bytes} :
    FirstLine input line ↔ (Terminal.cutLine input).1 = line := by
  have stays : ∀ {bs : Bytes}, 10 ∉ bs → ∀ b ∈ bs, (b != 10) = true := by
    intro bs h b hb
    exact bne_iff_ne.mpr fun heq => h (heq ▸ hb)
  constructor
  · intro h
    cases h with
    | ended h =>
      simp [Terminal.cutLine, List.takeWhile_append_of_pos (stays h),
        List.dropWhile_append_of_pos (stays h)]
    | whole h =>
      rw [Terminal.cutLine, List.takeWhile_eq_self_iff.mpr (stays h),
        List.dropWhile_eq_nil_iff.mpr (stays h), List.take_nil, List.append_nil]
  · rintro rfl
    have hfront : (10 : UInt8) ∉ input.takeWhile (· != 10) := by
      intro hmem
      simpa using List.mem_takeWhile_imp hmem
    have hsplit := List.takeWhile_append_dropWhile (p := (· != (10 : UInt8))) (l := input)
    cases hrest : input.dropWhile (· != 10) with
    | nil =>
      rw [hrest, List.append_nil] at hsplit
      rw [Terminal.cutLine, hrest, List.take_nil, List.append_nil, hsplit]
      exact .whole (hsplit ▸ hfront)
    | cons b rest =>
      have hb : b = 10 := by
        have h := List.head_dropWhile_not (· != (10 : UInt8)) (l := input) (by simp [hrest])
        simpa [hrest] using h
      rw [hrest, hb] at hsplit
      rw [Terminal.cutLine, hrest, hb]
      have ended : FirstLine (input.takeWhile (· != 10) ++ 10 :: rest) _ := .ended hfront
      rw [hsplit] at ended
      exact ended

/-- The line agrees: it is the UTF-8 form of a word that does, with blanks around it. -/
def Agrees (line : Bytes) : Prop :=
  ∃ answer ∈ ["y", "Y", "yes", "Yes", "YES"], ∃ before after : String,
    (∀ c ∈ before.toList, Text.isBlank c = true) ∧ (∀ c ∈ after.toList, Text.isBlank c = true) ∧
      line = Bytes.utf8 (before ++ answer ++ after)

theorem agrees_iff {line : Bytes} : Agrees line ↔ confirms line = true := by
  constructor
  · rintro ⟨answer, hanswer, before, after, hbefore, hafter, hline⟩
    have bare : ∀ answer ∈ confirmations, Text.trim answer = answer := by decide
    rw [confirms, Bytes.text?_eq_some_iff.mpr hline]
    show confirmations.contains (Text.trim (before ++ answer ++ after)) = true
    rw [Text.trim_surrounded hbefore hafter, bare answer hanswer]
    exact List.contains_iff_mem.mpr hanswer
  · intro h
    rw [confirms] at h
    split at h
    next s hs =>
      obtain ⟨before, after, hbefore, hafter, hsplit⟩ := Text.exists_surrounded s
      refine ⟨Text.trim s, List.contains_iff_mem.mp h, before, after, hbefore, hafter, ?_⟩
      rw [← hsplit]
      exact Bytes.text?_eq_some_iff.mp hs
    next => cases h

/-- The deletion was forced, or the first line of the input agrees to it. -/
def Consents (force : Bool) (input : Bytes) : Prop :=
  force = true ∨ ∃ line, FirstLine input line ∧ Agrees line

theorem consents_iff {force : Bool} {input : Bytes} :
    Consents force input ↔ (force || confirms (Terminal.cutLine input).1) = true := by
  rw [Bool.or_eq_true, ← agrees_iff, Consents]
  refine or_congr_right ⟨?_, fun h => ⟨_, firstLine_iff.mpr rfl, h⟩⟩
  rintro ⟨line, hline, h⟩
  rw [firstLine_iff.mp hline]
  exact h

/-! ## 3. The request -/

/-- The target is what the namespace and the name of the claim come to in a URI. -/
structure Addressed (key : Key) (target : Target) : Prop where
  named : key.name ≠ ""
  fits : (Resource.claims.objectPath key ++ "?").utf8ByteSize ≤ Uri.maxBytes
  valid : Uri.target? (Resource.claims.objectPath key ++ "?") = some target

/-- The request that deletes what is at the target. -/
def deletion (target : Target) : Api.Request where
  method := .delete
  target := target
  contentType := some .json
  body := some (.obj [])

section Deletion

variable {name : String} {ns : Option String} {key : Key} {target : Target}
  {request : Api.Request}

theorem Addressed.delete_eq (h : Addressed key target) :
    Api.Request.delete .claims key = .ok (deletion target) := by
  have hname : key.name.isEmpty = false := by simpa using h.named
  have htarget : Api.Request.targetOf (Resource.claims.objectPath key ++ "?") = .ok target := by
    rw [Api.Request.targetOf, if_neg (Nat.not_lt.mpr h.fits), h.valid]
  show (do
    Api.Request.checkName key.name
    let target ← Api.Request.targetOf (Resource.claims.objectPath key ++ "?")
    pure (deletion target) : Except RequestFault Api.Request) = _
  rw [htarget, Api.Request.checkName, hname]
  rfl

/-- Where the namespace and the name are segments of a path, the target leads to that claim. -/
theorem Addressed.leads (h : Addressed key target) (hns : IsSegment key.ns)
    (hname : IsSegment key.name) :
    target.path = "/apis/secrets.secret-claim.io/v1alpha1/namespaces/" ++ key.ns ++
        "/secretclaims/" ++ key.name ∧
      place? target.path = some ⟨.claims, key.ns, some key.name, none⟩ := by
  have hpath := inPath_objectPath_of_inPath .claims hns.inPath hname.inPath
  have htarget : Uri.target? (Resource.claims.objectPath key ++ "?" ++ "") =
      some ⟨Resource.claims.objectPath key, some ""⟩ :=
    Uri.target?_query hpath (List.forall_mem_nil _)
  rw [String.append_empty, h.valid] at htarget
  obtain rfl := Option.some.inj htarget
  refine ⟨?_, place?_objectPath_of_unbroken .claims hns.unbroken hname.unbroken⟩
  simp [Resource.objectPath, Resource.path, Resource.claims, String.append_assoc]

/-! ## 4. The command -/

/-- Printing sends nothing. -/
theorem sayLines_run_script (lines : List String) (t : Terminal) :
    ((Console.sayLines lines).run Terminal.serve t).2.script = t.script := by
  induction lines generalizing t with
  | nil => rfl
  | cons line lines ih =>
    rw [Console.sayLines, run_bind, ih]
    rfl

/-- A request that can be built is sent, once. -/
theorem exchange_run_script {α : Type} (f : Exchange → Except Failure α) (t : Terminal)
    (context : String) (request : Api.Request) :
    ((Console.exchange context (.ok request) f).run Terminal.serve t).2.script =
      (t.script.send request).after := rfl

theorem requests_send (request : Api.Request) (s : Script) :
    (s.send request).after.requests = s.requests ++ [request] := by
  simp [Script.send, Script.requests]

/-- What the command does once it knows whether to delete. -/
def proceed (key : Key) (agreed : Bool) : Console Ending :=
  if agreed then do
    match ← Console.exchange ("Failed to delete SecretClaim '" ++ key.text ++ "'")
        (Api.Request.delete .claims key)
        (Response.value? (Response.deleted? Claim.ofJson?)) with
    | .error e => pure (.error e)
    | .ok _ => do
      Console.sayLines ["✅ SecretClaim '" ++ key.text ++ "' deleted",
        "   The owned Secret is removed by garbage collection"]
      pure (.ok ())
  else do
    Console.sayLine "Deletion cancelled."
    pure (.ok ())

/-- The command asks, unless it is forced, and goes on. -/
theorem delete_eq (name : String) (ns : Option String) (force : Bool) :
    delete name ns force =
      (if force then pure true else confirm (keyOf name ns) : Console Bool) >>=
        proceed (keyOf name ns) := by
  cases force <;> rfl

/-- Asking sends nothing, and what it comes to is decided by the first line. -/
theorem asked_run (key : Key) (force : Bool) (t : Terminal) :
    ((if force then pure true else confirm key : Console Bool).run Terminal.serve t).1 =
        (force || confirms (Terminal.cutLine t.input).1) ∧
      ((if force then pure true else confirm key : Console Bool).run Terminal.serve t).2.script =
        t.script := by
  cases force <;> exact ⟨rfl, rfl⟩

/-- Without consent the command sends nothing and ends well. -/
theorem delete_run_of_refused {force : Bool} {t : Terminal} (h : ¬ Consents force t.input) :
    ((delete name ns force).run Terminal.serve t).2.script = t.script ∧
      ((delete name ns force).run Terminal.serve t).1 = .ok () := by
  have hrefused := Bool.eq_false_iff.mpr fun hagreed => h (consents_iff.mpr hagreed)
  obtain ⟨hagreed, hscript⟩ := asked_run (keyOf name ns) force t
  rw [delete_eq, run_bind, hagreed, hrefused]
  exact ⟨hscript, rfl⟩

/-- With consent the command sends its request, whatever comes back. -/
theorem delete_run_of_agreed {force : Bool} {t : Terminal}
    (built : Api.Request.delete .claims (keyOf name ns) = .ok request)
    (h : Consents force t.input) :
    ((delete name ns force).run Terminal.serve t).2.script = (t.script.send request).after := by
  obtain ⟨hagreed, hscript⟩ := asked_run (keyOf name ns) force t
  rw [delete_eq, run_bind, hagreed, consents_iff.mp h, proceed, if_pos rfl, run_bind, built]
  have hsent := exchange_run_script (Response.value? (Response.deleted? Claim.ofJson?))
    ((if force then pure true else confirm (keyOf name ns) : Console Bool).run Terminal.serve t).2
    ("Failed to delete SecretClaim '" ++ (keyOf name ns).text ++ "'") request
  rw [hscript] at hsent
  split
  · exact hsent
  · rw [run_bind]
    exact (sayLines_run_script _ _).trans hsent

/-- **No deletion without consent.**  The name of a claim and the namespace, if one is given, make
a target that a URI can have; the terminal has any bytes on its input and any answers of the
server in store.

* If the deletion is forced, or the first line of the input agrees, the command sends one request:
  the deletion at that target.
* If not, it sends none, and ends well.
* Where the namespace and the name are segments of a path, that target is the path of the claim
  of that name in that namespace, which is `default` if none is given. -/
theorem deleted_on_consent {name : String} {ns : Option String} {target : Target}
    (addressed : Addressed (keyOf name ns) target) (force : Bool) (t : Terminal) :
    let ran := t.run ns (.delete name force)
    (Consents force t.input →
      ran.2.script.requests = t.script.requests ++ [deletion target]) ∧
    (¬ Consents force t.input → ran.2.script.requests = t.script.requests ∧ ran.1 = .ok ()) ∧
    (IsSegment (ns.getD "default") → IsSegment name →
      target.path = "/apis/secrets.secret-claim.io/v1alpha1/namespaces/" ++ ns.getD "default" ++
          "/secretclaims/" ++ name ∧
        place? target.path = some ⟨.claims, ns.getD "default", some name, none⟩) := by
  refine ⟨fun agreed => ?_, fun refused => ?_, addressed.leads⟩
  · have hsent := delete_run_of_agreed addressed.delete_eq agreed
    exact (congrArg Script.requests hsent).trans (requests_send _ _)
  · have unsent : ((delete name ns force).run Terminal.serve t).2.script = t.script ∧
        ((delete name ns force).run Terminal.serve t).1 = .ok () := delete_run_of_refused refused
    exact ⟨congrArg Script.requests unsent.1, unsent.2⟩

end Deletion

/-! ## 5. A whispered yes -/

namespace Asked

/-- A terminal with these bytes on its input, where the server lets everything be deleted. -/
def terminal (input : Bytes) : Terminal where
  script := { responses := [{ exchange := .answered 200 "\x7b\"kind\":\"Status\"\x7d" "" }] }
  input := input
  stamp := ""

/-- Where the claim `db` is to be found. -/
def target : Target where
  path := "/apis/secrets.secret-claim.io/v1alpha1/namespaces/default/secretclaims/db"
  query := some ""

theorem addressed : Addressed (keyOf "db" none) target where
  named := by decide
  fits := by decide
  valid := by decide

end Asked

/-- A line with blanks and a carriage return around `yes` agrees, though what follows is no text;
a line that is no text refuses, though what follows would agree. -/
theorem whisper_heard :
    ((Asked.terminal [32, 121, 101, 115, 13, 10, 255]).run none
        (.delete "db" false)).2.script.requests = [deletion Asked.target] ∧
    ((Asked.terminal [255, 10, 121, 10]).run none (.delete "db" false)).2.script.requests = [] ∧
    ((Asked.terminal [255, 10, 121, 10]).run none (.delete "db" false)).1 = .ok () := by
  obtain ⟨sent, -⟩ :=
    deleted_on_consent Asked.addressed false (Asked.terminal [32, 121, 101, 115, 13, 10, 255])
  obtain ⟨-, unsent, -⟩ :=
    deleted_on_consent Asked.addressed false (Asked.terminal [255, 10, 121, 10])
  have agreed : Consents false [32, 121, 101, 115, 13, 10, 255] := consents_iff.mpr (by decide)
  have refused : ¬ Consents false [255, 10, 121, 10] := fun h =>
    absurd (consents_iff.mp h) (by decide)
  exact ⟨sent agreed, unsent refused⟩

end Cli

end SecretKeeper
