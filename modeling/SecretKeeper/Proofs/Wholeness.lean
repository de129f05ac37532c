/-
# A Secret is whole at every moment

While nobody but the controller writes the Secret of a claim, it is not there, or it holds all
that some version of the claim asks for and nothing else.  Users may edit, remove and make the
claim anew between any two requests; any call may fail, or be carried out and still be answered
with an error; random bytes may run out in the middle of a list of keys; and a cycle may be
dropped wherever it stands.

The reason is that data are complete before the one call that writes them, and that they are
made for the spec of the claim that the same cycle has read.  So no step mixes two versions, and
no step writes a part (`Flight.Ready.supplies`, `Flight.Ready.filled`).
-/
import SecretKeeper.Proofs.Generation
import SecretKeeper.Proofs.Run

namespace SecretKeeper.Controller

section Whole

variable {key : Key} {s s' : System} {move : Move} {moves : List Move}

/-- Nobody else writes the Secret under the key, and values come from the generator. -/
structure Alone (key : Key) (s : System) (move : Move) (s' : System) : Prop where
  spared : move = .outside → s'.cluster.secrets[key]? = s.cluster.secrets[key]?
  given : ∀ (f : Flight) (e : Encoding) (length : Nat) (answer : Except EntropyFailure String),
    move = .asked f (.draw e length) answer → Generator.Gives e length answer

/-- The cycle that has read the claim at `f` has since come to `g`, and has made the data there:
from that claim, and from what it has drawn itself, all of which is part of the history. -/
structure Flight.Supplies (f g : Flight) (moves : List Move) (claim : Claim) (demand : Demand)
    (data : Dict Bytes) : Prop where
  key_eq : g.key = f.key
  onward : f.log ++ [told (.readClaim f.key) (.ok (some claim))] <+: g.log
  recorded : g.Recorded moves
  ready : ∃ existing drawn, g.Ready claim existing demand drawn data

/-- The data of the Secret are all that a version of the claim asks for, which some cycle has
read and found valid, and which this same cycle has made them for. -/
def Whole (moves : List Move) (key : Key) (secret : Secret) : Prop :=
  ∃ (f g : Flight) (claim : Claim) (demand : Demand) (data : Dict Bytes),
    Move.asked f (.store (.readClaim key)) (.ok (some claim)) ∈ moves ∧ f.key = key ∧
      claim.spec.validate = .ok demand ∧ secret.data = some data ∧ claim.spec.Filled data ∧
      f.Supplies g moves claim demand data

theorem Flight.Supplies.append {f g : Flight} {claim : Claim} {demand : Demand} {data : Dict Bytes}
    (h : f.Supplies g moves claim demand data) (more : List Move) :
    f.Supplies g (moves ++ more) claim demand data where
  key_eq := h.key_eq
  onward := h.onward
  recorded := h.recorded.append more
  ready := h.ready

theorem Whole.append {secret : Secret} (h : Whole moves key secret) (more : List Move) :
    Whole (moves ++ more) key secret := by
  obtain ⟨f, g, claim, demand, data, hread, hk, valid, hdata, filled, supplies⟩ := h
  exact ⟨f, g, claim, demand, data, List.mem_append_left _ hread, hk, valid, hdata, filled,
    supplies.append more⟩

/-- A cycle that is about to write supplies the data, since it has read the claim. -/
theorem Flight.Ready.supplies {g : Flight} {claim : Claim} {existing : Option Secret}
    {demand : Demand} {drawn : List (Event controllerInterface)} {data : Dict Bytes}
    (ready : g.Ready claim existing demand drawn data) (recorded : g.Recorded moves) :
    ∃ f, Move.asked f (.store (.readClaim g.key)) (.ok (some claim)) ∈ moves ∧ f.key = g.key ∧
      f.Supplies g moves claim demand data := by
  have hread : told (.readClaim g.key) (.ok (some claim)) ∈ g.log :=
    ready.read_mem List.mem_cons_self
  obtain ⟨before, after, hlog⟩ := List.append_of_mem hread
  obtain ⟨rest, hmove⟩ := recorded before after _ _ hlog
  refine ⟨_, hmove, rfl, ⟨rfl, ⟨after, ?_⟩, recorded, ⟨existing, drawn, ready⟩⟩⟩
  rw [hlog, List.append_assoc]
  rfl

/-- The data that a cycle has made fill the spec of the claim that it has read. -/
theorem Flight.Ready.filled {f : Flight} {claim : Claim} {existing : Option Secret}
    {demand : Demand} {drawn : List (Event controllerInterface)} {data : Dict Bytes}
    (ready : f.Ready claim existing demand drawn data) (recorded : f.Recorded moves)
    (run : Run (Alone key) s moves s') : claim.spec.Filled data := by
  refine ready.made.filled ready.due.valid fun e length value hm => ?_
  obtain ⟨before, rest, hmove⟩ := recorded.asked (ready.drawn_mem hm)
  obtain ⟨_, _, _, _, _, alone⟩ := run.allowed hmove
  exact (alone.given _ e length (.ok value) rfl).fits

/-- **A Secret is whole at every moment.**  At first there is none, and no cycle for the key is
on its way.  Whatever happens then, as long as nobody else writes it, the Secret that is stored
holds as its data all that one version of the claim asks for, which a cycle has read and found
valid; and no other cycle had a part in them, as this one has drawn whatever is random in
them. -/
theorem secret_whole {secret : Secret} (past : Reachable s) (grounded : s.Grounded key)
    (absent : s.cluster.secrets[key]? = none) (run : Run (Alone key) s moves s')
    (stored : s'.cluster.secrets[key]? = some secret) : Whole moves key secret := by
  induction run generalizing secret with
  | here =>
    rw [absent] at stored
    cases stored
  | @step t u moves move run step alone ih =>
    by_cases ho : move = .outside
    · rw [alone.spared ho] at stored
      exact (ih stored).append _
    · rcases step.secret_cases key (run.sound past.sound) ho with
        hsame | ⟨f, claim, existing, demand, drawn, data, answer, v, -, hf, hk, ready, -, hnew⟩
      · rw [hsame] at stored
        exact (ih stored).append _
      · have recorded := run.recorded grounded f hf hk
        obtain ⟨g, hmove, hg, supplies⟩ := ready.supplies recorded
        rw [hk] at hmove hg
        obtain rfl : (written claim existing data).versioned v = secret :=
          Option.some.inj (hnew.symm.trans stored)
        have whole : Whole moves key ((written claim existing data).versioned v) :=
          ⟨g, f, claim, demand, data, hmove, hg, ready.due.valid, written_data,
            ready.filled recorded run, supplies⟩
        exact whole.append _

/-! ## A password -/

theorem Alone.begun (k : Key) : Alone key s (.begun k) s' := ⟨nofun, nofun⟩

theorem Alone.asked {f : Flight} {r : Effect} {answer : r.Answer}
    (h : ∀ e length, r ≠ .draw e length) : Alone key s (.asked f r answer) s' where
  spared h := nomatch h
  given f e length answer heq := by
    injection heq with _ hr _
    exact absurd hr (h e length)

theorem Alone.drawn {f : Flight} {e : Encoding} {length : Nat}
    {answer : Except EntropyFailure String} (h : Generator.Gives e length answer) :
    Alone key s (.asked f (.draw e length) answer) s' where
  spared h := nomatch h
  given f e length answer heq := by
    cases heq
    exact h

end Whole

namespace Password

def key : Key := ⟨"default", "db"⟩

/-- A claim for a password of eight digits. -/
def claim : Claim where
  metadata := { ns := some "default", name := some "db", uid := some "u1" }
  spec :=
    { type := "AutoGenerated"
      generation := some { dataKeys := ["password"], length := 8, encoding := "digits" } }

/-- A cluster with the claim. -/
def cluster : Cluster := Cluster.empty.putClaim key claim rfl

/-- Random bytes. -/
def entropy : Entropy := { stream := .cycle [1, 2, 3] [], answers := 8, message := "" }

/-- The password that they make. -/
theorem given : Generator.Gives (.ofName "digits") 8 (.ok "12312312") := by
  have hname : Encoding.ofName "digits" = .digits := by decide +kernel
  rw [hname]
  exact entropy.generate_gives .digits 8

/-- The Secret that is made of it. -/
def secret : Secret := .new claim ((∅ : Dict Bytes).insert "password" (Bytes.utf8 "12312312"))

end Password

/-- A cycle reads the claim, finds no Secret, draws the password and creates the Secret; then it
is dropped. -/
theorem exists_password : ∃ (s : System) (moves : List Move),
    Run (Alone Password.key) ⟨Password.cluster, []⟩ moves s ∧
      s.cluster.secrets[Password.key]? = some (Password.secret.versioned "1") := by
  have absent : Password.cluster.secrets[Password.key]? = none := Cluster.secret_empty _
  have h : Run (Alone Password.key) ⟨Password.cluster, []⟩ [] _ := .here
  have h := h.step (.begun Password.cluster [] Password.key) (.begun _)
  have h := h.step (.asked [] [] (.claim_read (Cluster.claim_putClaim _ rfl))) (.asked nofun)
  have h := h.step (.asked [] [] (.noted "claim.type" "AutoGenerated")) (.asked nofun)
  have h := h.step (.asked [] [] (.secret_missing absent)) (.asked nofun)
  have h := h.step (.asked [] [] (.drawn (.ok "12312312"))) (.drawn Password.given)
  have h := h.step (.asked [] [] (.counted .valuesGenerated 1)) (.asked nofun)
  have ha : Cluster.Answers (.store (.createSecret Password.secret)) Password.cluster (.ok ())
      (Password.cluster.putSecret Password.key Password.secret "1" rfl) :=
    .done (.createSecret rfl absent (by decide))
  have h := h.step (.asked [] [] ha) (.asked nofun)
  have h := h.step (.dropped _ [] [] _) ⟨nofun, nofun⟩
  exact ⟨_, _, h, Cluster.secret_putSecret _ "1" rfl⟩

/-- The password is all that the claim asks for. -/
theorem password_whole : ∃ (s : System) (moves : List Move),
    Run (Alone Password.key) ⟨Password.cluster, []⟩ moves s ∧
      s.cluster.secrets[Password.key]? = some (Password.secret.versioned "1") ∧
      Whole moves Password.key (Password.secret.versioned "1") := by
  obtain ⟨s, moves, run, stored⟩ := exists_password
  have grounded : System.Grounded Password.key ⟨Password.cluster, []⟩ := nofun
  exact ⟨s, moves, run, stored,
    secret_whole (.start Password.cluster) grounded (Cluster.secret_empty _) run stored⟩

end SecretKeeper.Controller
