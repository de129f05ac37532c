/-
# Asking for new values

New values are asked for by a merge patch that names one field, the trigger of the generation
policy.  Merge patches go down an object member by member, so what such a patch changes is what
stands at that path, below it, or above it (`at?_merge_along_of_apart`).  A claim that has a
policy is left with all else as it was, in its JSON form too (`merge_triggerPatch`).

The command reads the claim first, and sends the patch only if the claim has a policy to change.
Before it does, it says which trigger it will set (`Announced`).
-/
import SecretKeeper.Cli.Commands
import SecretKeeper.Json.Merge
import SecretKeeper.Proofs.Course

namespace SecretKeeper

namespace Json

/-! ## 1. Members -/

theorem Members.lookup_remove_of_ne {name other : String} (h : other ≠ name) (m : Members) :
    (Members.remove name m).lookup other = m.lookup other := by
  induction m with
  | nil => rfl
  | cons p rest ih =>
    obtain ⟨n, j⟩ := p
    have ih : List.lookup other (rest.filter (·.1 != name)) = rest.lookup other := ih
    by_cases hn : n = name
    · subst hn
      have hother : (other == n) = false := by simpa using h
      simp [Members.remove, List.lookup_cons, hother, ih]
    · simp [Members.remove, hn, List.lookup_cons, ih]

theorem Members.lookup_set_self (name : String) (j : Json) (m : Members) :
    (Members.set name j m).lookup name = some j := by
  induction m with
  | nil => simp [Members.set]
  | cons p rest ih =>
    obtain ⟨n, old⟩ := p
    by_cases hn : n = name
    · simp [Members.set, hn]
    · have hname : (name == n) = false := by simpa using Ne.symm hn
      simp [Members.set, hn, List.lookup_cons, hname, ih]

theorem Members.lookup_set_of_ne {name other : String} (h : other ≠ name) (j : Json)
    (m : Members) : (Members.set name j m).lookup other = m.lookup other := by
  induction m with
  | nil =>
    have hother : (other == name) = false := by simpa using h
    simp [Members.set, List.lookup_cons, hother]
  | cons p rest ih =>
    obtain ⟨n, old⟩ := p
    by_cases hn : n = name
    · have hother : (other == n) = false := by simpa [hn] using h
      subst hn
      simp [Members.set, List.lookup_cons, hother, Members.lookup_remove_of_ne h]
    · simp only [Members.set, beq_iff_eq, hn, if_false, List.lookup_cons, ih]

theorem lookup_members (name : String) (j : Json) : j.members.lookup name = j.member? name := by
  cases j <;> rfl

/-! ## 2. A patch along a path -/

/-- What stands at a path of names. -/
def at? : (path : List String) → Json → Option Json
  | [], j => some j
  | name :: path, j => (j.member? name).bind (at? path)

/-- The patch that names one path, with this text for it. -/
def along : (path : List String) → (text : String) → Json
  | [], text => .str text
  | name :: path, text => .obj [(name, along path text)]

/-- Such a patch sets one member, by what is left of the path. -/
theorem merge_along_cons (name : String) (path : List String) (text : String) (j : Json) :
    j.merge (along (name :: path) text) =
      .obj (j.members.set name (((j.member? name).getD .null).merge (along path text))) := by
  cases path <;> simp [along, merge, mergeMembers, lookup_members]

/-- The text stands at the path afterwards, whatever the value was. -/
theorem at?_merge_along (path : List String) (text : String) (j : Json) :
    (j.merge (along path text)).at? path = some (.str text) := by
  induction path generalizing j with
  | nil => rfl
  | cons name path ih =>
    rw [merge_along_cons, at?, member?, Members.lookup_set_self]
    exact ih _

/-- **Nothing else is changed**: what stands at another path stands there still, unless one of
the paths leads to the other. -/
theorem at?_merge_along_of_apart {path other : List String} (text : String) (j : Json)
    (h : ¬ path <+: other) (h' : ¬ other <+: path) :
    (j.merge (along path text)).at? other = j.at? other := by
  induction path generalizing other j with
  | nil => exact absurd List.nil_prefix h
  | cons name path ih =>
    cases other with
    | nil => exact absurd List.nil_prefix h'
    | cons n other =>
      rw [merge_along_cons]
      by_cases hn : n = name
      · subst hn
        have apart : ¬ path <+: other := fun hp => h (by simpa using hp)
        have apart' : ¬ other <+: path := fun hp => h' (by simpa using hp)
        rw [at?, member?, Members.lookup_set_self, Option.bind_some, ih _ apart apart', at?]
        cases j.member? n with
        | some x => rfl
        | none =>
          -- no path leads into a member that is not there
          cases other with
          | nil => exact absurd List.nil_prefix apart'
          | cons => rfl
      · rw [at?, at?, member?, Members.lookup_set_of_ne hn, lookup_members]

end Json

/-! ## 3. The trigger of a claim -/

namespace Cli

/-- Where the trigger stands in a claim. -/
def triggerPath : List String := ["spec", "generation", "reconcileTrigger"]

theorem triggerPatch_eq (token : String) : triggerPatch token = .along triggerPath token := rfl

end Cli

/-- The claim with another trigger, if it has a policy. -/
def Claim.withTrigger (c : Claim) (token : String) : Claim :=
  { c with
    spec := { c.spec with
      generation := c.spec.generation.map fun g => { g with reconcileTrigger := token } } }

/-- **The patch sets the trigger** of a claim that has a policy, and leaves the rest as it is. -/
theorem Claim.merge_triggerPatch {c : Claim} {g : GenerationSpec} (h : c.spec.generation = some g)
    (token : String) : c.toJson.merge (Cli.triggerPatch token) = (c.withTrigger token).toJson := by
  obtain ⟨metadata, ⟨type, data, generation⟩, status⟩ := c
  obtain rfl : generation = some g := h
  have hpolicy : g.toJson.merge (.along ["reconcileTrigger"] token) =
      GenerationSpec.toJson { g with reconcileTrigger := token } := by
    rw [Json.merge_along_cons]
    simp [GenerationSpec.toJson, Json.members, Json.Members.set, Json.Members.remove, Json.along,
      Json.merge]
  have hspec : (ClaimSpec.toJson ⟨type, data, some g⟩).merge
      (.along ["generation", "reconcileTrigger"] token) =
        ClaimSpec.toJson ⟨type, data, some { g with reconcileTrigger := token }⟩ := by
    rw [Json.merge_along_cons]
    cases hdata : data.isEmpty <;>
      simp [ClaimSpec.toJson, hdata, Json.optional, Json.member?, Json.members, Json.Members.set,
        Json.Members.remove, List.lookup_cons, hpolicy]
  rw [Cli.triggerPatch_eq, Cli.triggerPath, Json.merge_along_cons]
  cases status <;>
    simp [Claim.toJson, Claim.withTrigger, Json.optional, Json.member?, Json.members,
      Json.Members.set, Json.Members.remove, List.lookup_cons, hspec]

/-! ## 4. Requests -/

/-- A computation that succeeds in two steps. -/
theorem exists_of_bind_ok {ε α β : Type} {r : Except ε α} {f : α → Except ε β} {b : β}
    (h : (r >>= f) = .ok b) : ∃ a, r = .ok a ∧ f a = .ok b := by
  cases r with
  | error e => cases h
  | ok a => exact ⟨a, rfl, h⟩

namespace Api.Request

variable {r : Resource} {key : Key} {request : Request}

theorem method_of_get (h : get r key = .ok request) : request.method = .get := by
  obtain ⟨_, -, h⟩ := exists_of_bind_ok h
  obtain ⟨target, -, h⟩ := exists_of_bind_ok h
  cases h
  rfl

/-- A patch carries its body, as a merge patch. -/
theorem eq_of_patch {manager : String} {sub : Option String} {body : Json}
    (h : patch r key sub manager body = .ok request) :
    request.method = .patch ∧ request.contentType = some .mergePatch ∧
      request.body = some body := by
  obtain ⟨_, -, h⟩ := exists_of_bind_ok h
  obtain ⟨_, -, h⟩ := exists_of_bind_ok h
  obtain ⟨target, -, h⟩ := exists_of_bind_ok h
  cases h
  exact ⟨rfl, rfl, rfl⟩

end Api.Request

/-! ## 5. The command -/

namespace Cli

open Program

section Regenerate

variable {name : String} {ns : Option String} {key : Key} {claim : Claim} {token context : String}
  {log before after : List (Event consoleInterface)} {ending : Ending}

/-- The text was printed. -/
abbrev said (text : String) : Event consoleInterface := ⟨.say text, ()⟩

/-- The request was sent, and this came back. -/
abbrev sent (request : Api.Request) (x : Api.Exchange) : Event consoleInterface :=
  ⟨.send request, x⟩

/-- A request was sent that does more than read. -/
def changes (e : Event consoleInterface) : Bool :=
  match e.request with
  | .send request => request.method != .get
  | _ => false

theorem sayLines_yields {lines : List String} {u : Unit}
    (h : (Console.sayLines lines).Yields log u) :
    log = lines.map fun line => said (line ++ "\n") := by
  induction lines generalizing log with
  | nil => exact (yields_done_iff.mp h).1
  | cons line lines ih =>
    obtain ⟨first, rest, _, rfl, hfirst, hrest⟩ := yields_bind_iff.mp h
    rw [yields_request_iff.mp hfirst, ih hrest]
    rfl

/-- What may come of an exchange: its request could not be built, or it was sent, and what came
back was refused or taken. -/
inductive Exchanged {α : Type} (r : Except Api.RequestFault Api.Request)
    (f : Api.Exchange → Except Api.Failure α) :
    List (Event consoleInterface) → Except (List String) α → Prop
  | unbuilt (e : List String) : Exchanged r f [] (.error e)
  | refused {request : Api.Request} (x : Api.Exchange) (e : List String)
      (built : r = .ok request) : Exchanged r f [sent request x] (.error e)
  | taken {request : Api.Request} {x : Api.Exchange} {a : α} (built : r = .ok request)
      (h : f x = .ok a) : Exchanged r f [sent request x] (.ok a)

theorem exchange_yields {α : Type} {r : Except Api.RequestFault Api.Request}
    {f : Api.Exchange → Except Api.Failure α} {result : Except (List String) α}
    (h : (Console.exchange context r f).Yields log result) : Exchanged r f log result := by
  cases r with
  | error fault =>
    obtain ⟨rfl, rfl⟩ := yields_done_iff.mp h
    exact .unbuilt _
  | ok request =>
    obtain ⟨first, rest, x, rfl, hsend, hdone⟩ := yields_bind_iff.mp h
    obtain ⟨rfl, rfl⟩ := yields_done_iff.mp hdone
    rw [yields_request_iff.mp hsend]
    cases hx : f x with
    | error e => exact .refused x _ rfl
    | ok a => exact .taken rfl hx

/-- What the command says of the trigger that it is about to set, having looked at the clock. -/
def announcement (key : Key) (claim : Claim) (stamp : String) : List (Event consoleInterface) :=
  [⟨.now, stamp⟩, said ("🔄 Regenerating SecretClaim '" ++ key.text ++ "'..." ++ "\n"),
    said ("   Previous trigger: " ++ claim.reconcileTrigger ++ "\n"),
    said ("   New trigger: " ++ triggerToken stamp ++ "\n")]

/-- The command has read a claim whose values are generated by a policy, and has said which
trigger it is about to set. -/
structure Announced (key : Key) (claim : Claim) (token : String)
    (log : List (Event consoleInterface)) : Prop where
  read : ∃ request x, Api.Request.get .claims key = .ok request ∧ sent request x ∈ log ∧
    Api.Response.value? Claim.ofJson? x = .ok claim
  generated : claim.spec.type = "AutoGenerated"
  policy : claim.spec.generation.isSome = true
  printed : said ("   New trigger: " ++ token ++ "\n") ∈ log
  reads : ∀ e ∈ log, changes e = false

theorem changes_get {get : Api.Request} (hget : Api.Request.get .claims key = .ok get)
    (x : Api.Exchange) : changes (sent get x) = false := by
  simp [changes, Api.Request.method_of_get hget]

theorem announced {get : Api.Request} {x : Api.Exchange}
    (hget : Api.Request.get .claims key = .ok get)
    (hx : Api.Response.value? Claim.ofJson? x = .ok claim) (hcan : canRegenerate claim = true)
    (stamp : String) :
    Announced key claim (triggerToken stamp) (sent get x :: announcement key claim stamp) := by
  obtain ⟨hgenerated, hpolicy⟩ := (Bool.and_eq_true _ _).mp hcan
  refine ⟨⟨get, x, hget, List.mem_cons_self, hx⟩, beq_iff_eq.mp hgenerated, hpolicy,
    by simp [announcement], List.forall_mem_cons.mpr ⟨changes_get hget x, ?_⟩⟩
  simp [announcement, changes]

/-- What the command sends: reads alone, or the patch as well that it has announced. -/
inductive Regeneration (key : Key) (log : List (Event consoleInterface)) : Prop
  | unchanging (h : ∀ e ∈ log, changes e = false)
  | patched {claim : Claim} {token : String} {front back : List (Event consoleInterface)}
      {patch : Api.Request} {x : Api.Exchange} (log_eq : log = front ++ sent patch x :: back)
      (announced : Announced key claim token front)
      (h : Api.Request.patch .claims key none fieldManager (triggerPatch token) = .ok patch)
      (silent : ∀ e ∈ back, changes e = false)

/-- **What the command may do**, whatever it is answered. -/
theorem regenerate_yields (h : (regenerate name ns).Yields log ending) :
    Regeneration (keyOf name ns) log := by
  obtain ⟨first, rest, found, rfl, hread, h⟩ := yields_bind_iff.mp h
  cases exchange_yields hread with
  | unbuilt e =>
    obtain ⟨rfl, -⟩ := yields_done_iff.mp h
    exact .unchanging (List.forall_mem_nil _)
  | refused x e hget =>
    obtain ⟨rfl, -⟩ := yields_done_iff.mp h
    exact .unchanging (List.forall_mem_singleton.mpr (changes_get hget x))
  | @taken get x claim hget hx =>
    cases hcan : canRegenerate claim with
    | false =>
      simp only [hcan, Bool.not_false, if_true] at h
      obtain ⟨rfl, -⟩ := yields_done_iff.mp h
      exact .unchanging (List.forall_mem_singleton.mpr (changes_get hget x))
    | true =>
      simp only [hcan, Bool.not_true, Bool.false_eq_true, if_false] at h
      obtain ⟨_, rest, stamp, rfl, hnow, h⟩ := yields_bind_iff.mp h
      obtain ⟨_, rest, _, rfl, hsay, h⟩ := yields_bind_iff.mp h
      obtain ⟨_, rest, result, rfl, hpatch, h⟩ := yields_bind_iff.mp h
      rw [yields_request_iff.mp hnow, sayLines_yields hsay]
      have announced := announced hget hx hcan stamp
      have silent : ∀ e ∈ rest, changes e = false := by
        cases result with
        | error e =>
          obtain ⟨rfl, -⟩ := yields_done_iff.mp h
          exact List.forall_mem_nil _
        | ok patched =>
          obtain ⟨_, _, _, rfl, hsay, hdone⟩ := yields_bind_iff.mp h
          obtain ⟨rfl, -⟩ := yields_done_iff.mp hdone
          rw [yields_request_iff.mp hsay]
          simp [changes]
      cases exchange_yields hpatch with
      | unbuilt e =>
        have reading : ∀ e ∈ sent get x :: announcement (keyOf name ns) claim stamp ++ rest,
            changes e = false := List.forall_mem_append.mpr ⟨announced.reads, silent⟩
        exact .unchanging reading
      | refused y e hbuilt => exact .patched rfl announced hbuilt silent
      | taken hbuilt => exact .patched rfl announced hbuilt silent

/-- **A request that changes something** is the patch of the trigger that was announced. -/
theorem regenerate_sends {request : Api.Request} {x : Api.Exchange}
    (h : (regenerate name ns).Yields log ending) (hlog : log = before ++ sent request x :: after)
    (hm : request.method ≠ .get) :
    ∃ claim token, Announced (keyOf name ns) claim token before ∧
      Api.Request.patch .claims (keyOf name ns) none fieldManager (triggerPatch token) =
        .ok request := by
  have hchanges : changes (sent request x) = true := by simpa [changes] using hm
  cases regenerate_yields h with
  | unchanging h =>
    rw [h (sent request x) (by simp [hlog])] at hchanges
    cases hchanges
  | @patched claim token front back patch y log_eq announced hbuilt silent =>
    obtain ⟨rfl, heq⟩ := Controller.append_cons_inj_of_unique (hlog.symm.trans log_eq) hchanges
      announced.reads silent
    cases heq
    exact ⟨claim, token, announced, hbuilt⟩

end Regenerate

end Cli

end SecretKeeper
