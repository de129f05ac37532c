/-
# What is rendered is parsed again

The compact text of a value is parsed one character at a time, so the argument follows the state
of the reader: the text of a value leads from a state in which a value may start to one that
holds the value (`leads_render`), and the text of a string to one that holds the string, however
its characters are escaped (`leads_quote`).

Numbers and literal words do not say themselves where they end.  The state behind them is not
yet the one in which the value is complete; it becomes that state once a comma or a closing
bracket follows, or the end of the text (`Becomes`).

Not every value has a text that stands for it.  What is broken is written as null, a double may
come back as another one, and too many containers in each other are refused.  A value without
these is *plain* (`Json.Plain`), and plain values are all that claims are written in.
-/
import Mathlib.Data.List.TakeWhile
import Mathlib.Data.Nat.Digits.Defs
import SecretKeeper.Json.Reader
import SecretKeeper.Json.Writer
import SecretKeeper.Proofs.Codec

namespace SecretKeeper

/-- The value has a text that stands for it: nothing is broken, all numbers are integers of 64
bits, with a sign or without, and at most `room` containers stand in each other. -/
inductive Json.Plain : (room : Nat) → Json → Prop
  | null {room : Nat} : Plain room .null
  | bool {room : Nat} (b : Bool) : Plain room (.bool b)
  | int {room : Nat} {n : Int} (low : -2 ^ 63 ≤ n) (high : n < 2 ^ 64) : Plain room (.int n)
  | str {room : Nat} (s : String) : Plain room (.str s)
  | arr {room : Nat} {items : List Json} (each : ∀ j ∈ items, Plain room j) :
      Plain (room + 1) (.arr items)
  | obj {room : Nat} {members : Members} (each : ∀ p ∈ members, Plain room p.2) :
      Plain (room + 1) (.obj members)

/-! ## 1. Characters -/

namespace Text

theorem Hex.value?_digit {n : Nat} (h : n < 16) : Hex.value? (Hex.digit n) = some n := by
  have all : ∀ n < 16, Hex.value? (Hex.digit n) = some n := by decide
  exact all n h

namespace Units

/-- No character is half of a pair. -/
theorem not_half (c : Char) : isHigh c.toNat = false ∧ isLow c.toNat = false := by
  have h := c.valid
  simp only [UInt32.isValidChar, Nat.isValidChar] at h
  have hval : c.toNat = c.val.toNat := rfl
  simp only [isHigh, isLow, Bool.and_eq_false_iff, decide_eq_false_iff_not, hval]
  omega

/-- Whole characters, given last first, stand for themselves. -/
theorem charsBefore?_map_toNat (reversed done : List Char) :
    charsBefore? (reversed.map Char.toNat) done = some (reversed.reverse ++ done) := by
  induction reversed generalizing done with
  | nil => rfl
  | cons c rest ih =>
    cases rest with
    | nil => simp [charsBefore?, not_half c]
    | cons d rest =>
      have hrest := ih (c :: done)
      simp only [List.map_cons] at hrest
      simp [charsBefore?, not_half c, hrest]

theorem text?_toList (s : String) : text? (s.toList.reverse.map Char.toNat) = some s := by
  rw [text?, charsBefore?_map_toNat]
  simp

end Units

end Text

/-! ## 2. Integers -/

namespace Numeral

/-- Digits have no zero in front, unless the number is zero. -/
theorem head?_toDigits {n : Nat} (h : n ≠ 0) :
    ∃ c, (Nat.toDigits 10 n).head? = some c ∧ digit c ≠ 0 := by
  induction n using Nat.strongRecOn with
  | _ n ih =>
    rcases Nat.lt_or_ge n 10 with hn | hn
    · refine ⟨_, by rw [Nat.toDigits_of_lt_base hn]; rfl, ?_⟩
      have all : ∀ n < 10, n ≠ 0 → digit n.digitChar ≠ 0 := by decide
      exact all n hn h
    · obtain ⟨c, hc, hzero⟩ := ih (n / 10) (by omega) (by omega)
      exact ⟨c, by rw [Nat.toDigits_of_base_le (by omega) hn, List.head?_append, hc]; rfl, hzero⟩

theorem valueOf_toDigits (n : Nat) : valueOf ((Nat.toDigits 10 n).map digit) = n := by
  have h := Text.foldl_zeroPadded 0 n
  rw [Text.toList_zeroPadded, Nat.zero_sub, List.replicate_zero, List.nil_append] at h
  rw [valueOf, List.foldl_map]
  exact h

theorem isDigit_toDigits (n : Nat) : ∀ c ∈ Nat.toDigits 10 n, c.isDigit = true := fun _ hc =>
  Nat.isDigit_of_mem_toDigits (by omega) (by omega) hc

/-- The digits of a number are a numeral, with or without a sign. -/
theorem ofUnsigned?_toDigits (negative : Bool) (n : Nat) :
    ofUnsigned? negative (Nat.toDigits 10 n) =
      some ⟨negative, (Nat.toDigits 10 n).map digit, none, none⟩ := by
  have hsplit : splitDigits (Nat.toDigits 10 n) = ((Nat.toDigits 10 n).map digit, []) := by
    rw [splitDigits, List.takeWhile_eq_self_iff.mpr (isDigit_toDigits n),
      List.dropWhile_eq_nil_iff.mpr (isDigit_toDigits n)]
  have hne : ((Nat.toDigits 10 n).map digit).isEmpty = false := by simp [Nat.toDigits_ne_nil]
  have hzero : (decide (1 < ((Nat.toDigits 10 n).map digit).length) &&
      ((Nat.toDigits 10 n).map digit).head? == some 0) = false := by
    by_cases h : n = 0
    · subst h
      rfl
    · obtain ⟨c, hc, hdigit⟩ := head?_toDigits h
      rw [List.head?_map, hc]
      simp [hdigit]
  simp only [ofUnsigned?, hsplit, gt_iff_lt, hne, hzero, Bool.or_self]
  rfl

theorem ofChars?_toDigits (n : Nat) :
    ofChars? (Nat.toDigits 10 n) = ofUnsigned? false (Nat.toDigits 10 n) := by
  have digits := isDigit_toDigits n
  unfold ofChars?
  split
  next hsign =>
    rw [hsign] at digits
    cases digits '-' List.mem_cons_self
  next => rfl

theorem toList_toString (n : Int) :
    (toString n).toList = (if n < 0 then ['-'] else []) ++ Nat.toDigits 10 n.natAbs := by
  cases n with
  | ofNat n =>
    have hneg : ¬ Int.ofNat n < 0 := Int.not_lt.mpr (Int.natCast_nonneg n)
    rw [if_neg hneg]
    exact Nat.toList_repr
  | negSucc n =>
    rw [if_pos (Int.negSucc_lt_zero n)]
    show ("-" ++ Nat.repr (n + 1)).toList = _
    rw [String.toList_append, Nat.toList_repr]
    rfl

/-- **An integer of 64 bits reads as itself**, as an integer and not as a double. -/
theorem ofChars?_toString {n : Int} (low : -2 ^ 63 ≤ n) (high : n < 2 ^ 64) :
    ∃ x, ofChars? (toString n).toList = some x ∧ x.value? = some (.int n) := by
  rw [toList_toString]
  by_cases hneg : n < 0
  · rw [if_pos hneg]
    refine ⟨_, ofUnsigned?_toDigits true n.natAbs, ?_⟩
    have hfits : 0 < n.natAbs ∧ n.natAbs ≤ Nat.pow 2 63 := by
      have hpow : Nat.pow 2 63 = 2 ^ 63 := rfl
      omega
    have hvalue : -(n.natAbs : Int) = n := by omega
    simp only [value?, int?, valueOf_toDigits, Option.isSome_none, Bool.or_self,
      Bool.false_eq_true, if_false, if_true, if_pos hfits, hvalue]
  · rw [if_neg hneg, List.nil_append, ofChars?_toDigits]
    refine ⟨_, ofUnsigned?_toDigits false n.natAbs, ?_⟩
    have hfits : n.natAbs < Nat.pow 2 64 := by
      have hpow : Nat.pow 2 64 = 2 ^ 64 := rfl
      omega
    have hvalue : (n.natAbs : Int) = n := by omega
    simp only [value?, int?, valueOf_toDigits, Option.isSome_none, Bool.or_self,
      Bool.false_eq_true, if_false, if_pos hfits, hvalue]

end Numeral

namespace Json

namespace Reader

/-! ## 3. From one state to another -/

/-- The characters lead from one state to another. -/
def Leads (s : State) (cs : List Char) (t : State) : Prop := cs.foldlM State.step s = some t

namespace Leads

variable {s t u : State} {c : Char} {cs ds : List Char}

theorem nil (s : State) : Leads s [] s := rfl

theorem append (h : Leads s cs t) (h' : Leads t ds u) : Leads s (cs ++ ds) u := by
  rw [Leads, List.foldlM_append, h]
  exact h'

theorem cons (h : s.step c = some t) (h' : Leads t cs u) : Leads s (c :: cs) u := by
  rw [Leads, List.foldlM_cons, h]
  exact h'

theorem single (h : s.step c = some t) : Leads s [c] t := cons h (nil t)

end Leads

/-- The character may follow a value inside a container. -/
def isDelimiter (c : Char) : Bool := c == ',' || c == ']' || c == '\x7d'

theorem isDelimiter_cases {c : Char} (h : isDelimiter c = true) :
    c = ',' ∨ c = ']' ∨ c = '\x7d' := by
  simpa [isDelimiter, or_assoc] using h

/-- The state becomes the other one once it is seen that nothing of the last value is
missing. -/
structure Becomes (s t : State) : Prop where
  atEnd : s.complete? = some t
  before : ∀ c, isDelimiter c = true → s.step c = t.between? c

/-- The state waits for a value. -/
def Waits (s : State) : Prop := s.mode = .value ∨ s.mode = .firstItem

theorem Waits.step {s : State} (h : Waits s) {c : Char} (hspace : isSpace c = false)
    (hclose : c ≠ ']') : s.step c = State.open? s.stack c := by
  obtain ⟨stack, mode⟩ := s
  rcases h with h | h
  · obtain rfl : mode = .value := h
    simp [State.step, State.between?, hspace]
  · obtain rfl : mode = .firstItem := h
    simp [State.step, State.between?, hspace, hclose]

variable {stack : List Frame}

/-- A value that says itself where it ends is complete at once. -/
theorem becomes_put (stack : List Frame) (j : Json) :
    Becomes (.put stack j) (.put stack j) where
  atEnd := by rcases stack with _ | ⟨_ | _, _⟩ <;> rfl
  before c _ := by rcases stack with _ | ⟨_ | _, _⟩ <;> rfl

/-! ## 4. Strings -/

/-- Four hexadecimal digits are read as the number that they stand for. -/
theorem leads_padded (p : Pending) {n : Nat} (h : n < 0x20) :
    Leads ⟨stack, .code p 0 0⟩ (Text.Hex.padded 4 n) ⟨stack, .text (p.push n)⟩ := by
  have hhigh := Text.Hex.value?_digit (by omega : n / 16 % 16 < 16)
  have hlow := Text.Hex.value?_digit (by omega : n % 16 < 16)
  have hzero : Text.Hex.value? (Text.Hex.digit 0) = some 0 := rfl
  have hfirst : n / 16 / 16 / 16 % 16 = 0 := by omega
  have hsecond : n / 16 / 16 % 16 = 0 := by omega
  have hvalue : n / 16 % 16 * 16 + n % 16 = n := by omega
  simp [Leads, Text.Hex.padded, State.step, hfirst, hsecond, hzero, hhigh, hlow, hvalue]

/-- **A character is read however it is escaped.** -/
theorem leads_escapeChar (p : Pending) (c : Char) :
    Leads ⟨stack, .text p⟩ (escapeChar c) ⟨stack, .text (p.push c.toNat)⟩ := by
  unfold escapeChar
  split_ifs with hquote hslash hline hreturn htab hback hfeed hcontrol
  · rw [beq_iff_eq.mp hquote]; rfl
  · rw [beq_iff_eq.mp hslash]; rfl
  · rw [beq_iff_eq.mp hline]; rfl
  · rw [beq_iff_eq.mp hreturn]; rfl
  · rw [beq_iff_eq.mp htab]; rfl
  · rw [beq_iff_eq.mp hback]; rfl
  · rw [beq_iff_eq.mp hfeed]; rfl
  · exact .cons rfl (.cons rfl (leads_padded p hcontrol))
  · refine .single ?_
    simp [State.step, hquote, hslash, hcontrol]

theorem leads_escaped (stack : List Frame) (isName : Bool) (cs : List Char) (done : List Nat) :
    Leads ⟨stack, .text ⟨isName, done⟩⟩ (cs.flatMap escapeChar)
      ⟨stack, .text ⟨isName, cs.reverse.map Char.toNat ++ done⟩⟩ := by
  induction cs generalizing done with
  | nil => exact .nil _
  | cons c cs ih =>
    have h := (leads_escapeChar ⟨isName, done⟩ c).append (ih (c.toNat :: done))
    simpa using h

/-- A string between quotes is read, as a value or as the name of a member. -/
theorem leads_quote (isName : Bool) (s : String) {t : State}
    (hopen : t.step '"' = some ⟨stack, .text ⟨isName, []⟩⟩) :
    Leads t (quote s).toList (.putText stack ⟨isName, s.toList.reverse.map Char.toNat⟩) := by
  have h := leads_escaped stack isName s.toList []
  rw [List.append_nil] at h
  rw [quote, String.toList_ofList]
  exact ((Leads.single hopen).append h).append (.single rfl)

/-- The name of a member is read, and the colon after it. -/
theorem leads_name (done : List Entry) (last : Option String) {mode : Mode}
    (hmode : mode = .firstName ∨ mode = .name) (name : String) :
    Leads ⟨.members done last :: stack, mode⟩ ((quote name).toList ++ [':'])
      ⟨.members done (some name) :: stack, .value⟩ := by
  have hopen : State.step ⟨.members done last :: stack, mode⟩ '"' =
      some ⟨.members done last :: stack, .text ⟨true, []⟩⟩ := by
    rcases hmode with rfl | rfl <;> rfl
  have hput : State.putText (.members done last :: stack)
      ⟨true, name.toList.reverse.map Char.toNat⟩ =
        ⟨.members done (some name) :: stack, .colon⟩ := by
    simp only [State.putText, Text.Units.text?_toList]
    rfl
  exact (hput ▸ leads_quote true name hopen).append (.single rfl)

/-! ## 5. Numbers and words -/

theorem beq_of_isDigit {c d : Char} (h : c.isDigit = true) (hd : d.isDigit = false) :
    (c == d) = false :=
  beq_false_of_ne fun he => by
    rw [he, hd] at h
    cases h

theorem isSpace_of_isDigit {c : Char} (h : c.isDigit = true) : isSpace c = false := by
  simp only [isSpace, beq_of_isDigit h (d := ' ') rfl, beq_of_isDigit h (d := '\n') rfl,
    beq_of_isDigit h (d := '\t') rfl, beq_of_isDigit h (d := '\r') rfl, Bool.or_self]

theorem open?_number {c : Char} (h : c = '-' ∨ c.isDigit = true) :
    State.open? stack c = some ⟨stack, .number [c]⟩ := by
  rcases h with rfl | h
  · rfl
  · simp [State.open?, h, beq_of_isDigit h (d := '[') rfl, beq_of_isDigit h (d := '\x7b') rfl,
      beq_of_isDigit h (d := '"') rfl]

/-- The characters of a number or a word are gathered, the last one first. -/
theorem leads_gather {m : List Char → Mode} {cs : List Char}
    (h : ∀ c ∈ cs, ∀ done, State.step ⟨stack, m done⟩ c = some ⟨stack, m (c :: done)⟩)
    (done : List Char) : Leads ⟨stack, m done⟩ cs ⟨stack, m (cs.reverse ++ done)⟩ := by
  induction cs generalizing done with
  | nil => exact .nil _
  | cons c cs ih =>
    obtain ⟨hc, hcs⟩ := List.forall_mem_cons.mp h
    simpa using Leads.cons (hc done) (ih hcs (c :: done))

theorem becomes_number {done : List Char} {x : Numeral} {n : Int}
    (h : Numeral.ofChars? done.reverse = some x) (hn : x.value? = some (.int n)) :
    Becomes ⟨stack, .number done⟩ (.put stack (.int n)) := by
  have atEnd : State.complete? ⟨stack, .number done⟩ = some (.put stack (.int n)) := by
    simp [State.complete?, h, ofNumeral, hn, int]
  refine ⟨atEnd, fun c hc => ?_⟩
  have hnumber : isNumberChar c = false := by
    rcases isDelimiter_cases hc with rfl | rfl | rfl <;> rfl
  simp [State.step, hnumber, atEnd]

/-- An integer of 64 bits is read. -/
theorem leads_int {n : Int} (low : -2 ^ 63 ≤ n) (high : n < 2 ^ 64) {s : State} (hs : Waits s) :
    ∃ t, Leads s (toString n).toList t ∧ Becomes t (.put s.stack (.int n)) := by
  have chars : ∀ c ∈ (toString n).toList, c = '-' ∨ c.isDigit = true := by
    intro c hc
    rw [Numeral.toList_toString] at hc
    rcases List.mem_append.mp hc with hc | hc
    · split_ifs at hc
      · exact .inl (List.mem_singleton.mp hc)
      · cases hc
    · exact .inr (Numeral.isDigit_toDigits _ c hc)
  obtain ⟨x, hx, hvalue⟩ := Numeral.ofChars?_toString low high
  cases htext : (toString n).toList with
  | nil =>
    rw [htext] at hx
    cases hx
  | cons c cs =>
    rw [htext] at chars hx
    obtain ⟨hc, hcs⟩ := List.forall_mem_cons.mp chars
    have hspace : isSpace c = false := by
      rcases hc with rfl | hc
      · rfl
      · exact isSpace_of_isDigit hc
    have hclose : c ≠ ']' := by
      rintro rfl
      rcases hc with hc | hc <;> cases hc
    have hopen := (hs.step hspace hclose).trans (open?_number hc)
    have hnumber : ∀ d ∈ cs, ∀ done, State.step ⟨s.stack, .number done⟩ d =
        some ⟨s.stack, .number (d :: done)⟩ := by
      intro d hd done
      have hd' : isNumberChar d = true := by
        rcases hcs d hd with rfl | h
        · rfl
        · simp [isNumberChar, h]
      simp [State.step, hd']
    refine ⟨_, .cons hopen (leads_gather hnumber [c]), becomes_number ?_ hvalue⟩
    simpa using hx

/-- A literal word is read. -/
theorem leads_word (c : Char) (cs : List Char) {j : Json} {s : State} (hs : Waits s)
    (hc : State.open? s.stack c = some ⟨s.stack, .word [c]⟩) (hspace : isSpace c = false)
    (hclose : c ≠ ']') (hcs : cs.all Char.isLower = true)
    (hword : word? (c :: cs).reverse = some j) :
    ∃ t, Leads s (c :: cs) t ∧ Becomes t (.put s.stack j) := by
  have hletters : ∀ d ∈ cs, ∀ done, State.step ⟨s.stack, .word done⟩ d =
      some ⟨s.stack, .word (d :: done)⟩ := by
    intro d hd done
    simp [State.step, List.all_eq_true.mp hcs d hd]
  have atEnd : State.complete? ⟨s.stack, .word (cs.reverse ++ [c])⟩ = some (.put s.stack j) := by
    rw [List.reverse_cons] at hword
    simp [State.complete?, hword]
  refine ⟨_, .cons ((hs.step hspace hclose).trans hc) (leads_gather hletters [c]), atEnd, ?_⟩
  intro d hd
  have hlower : d.isLower = false := by
    rcases isDelimiter_cases hd with rfl | rfl | rfl <;> rfl
  simp [State.step, hlower, atEnd]

/-! ## 6. Containers -/

theorem putContainer_eq {stack : List Frame} (h : stack.length < depthLimit) (j : Json) :
    State.putContainer stack j = .put stack j := by
  have hdrop : stack.drop (depthLimit - 1) = [] := List.drop_eq_nil_of_le (by omega)
  rw [State.putContainer, hdrop]
  rfl

/-- The innermost container is a list, and ends. -/
theorem close_items (done : List Json) {mode : Mode} (hmode : mode = .after ∨ mode = .firstItem)
    (h : stack.length < depthLimit) :
    State.between? ⟨.items done :: stack, mode⟩ ']' = some (.put stack (.arr done.reverse)) := by
  have hclosed := congrArg some (putContainer_eq h (.arr done.reverse))
  rcases hmode with rfl | rfl
  · exact hclosed
  · exact hclosed

/-- The members as they are gathered while an object is read. -/
def gathered (members : Members) : List Entry := members.reverse.map fun p => (some p.1, p.2)

theorem object_gathered (members : Members) : object (gathered members) = .obj members := by
  have h : (members.map fun p => (some p.1, p.2)).mapM
      (fun (e : Entry) => e.1.map (·, e.2)) = some members := mapM_map fun _ _ => rfl
  rw [object, gathered, ← List.map_reverse, List.reverse_reverse, h]

/-- The innermost container is an object, and ends. -/
theorem close_members (members : Members) {last : Option String} {mode : Mode}
    (hmode : mode = .after ∨ mode = .firstName) (h : stack.length < depthLimit) :
    State.between? ⟨.members (gathered members) last :: stack, mode⟩ '\x7d' =
      some (.put stack (.obj members)) := by
  have hclosed := congrArg some
    ((congrArg (State.putContainer stack) (object_gathered members)).trans
      (putContainer_eq h (.obj members)))
  rcases hmode with rfl | rfl
  · exact hclosed
  · exact hclosed

/-- A list is read between its brackets. -/
theorem leads_arr {items : List Json} {s : State} (hs : Waits s)
    (hlength : s.stack.length < depthLimit)
    (inside : items ≠ [] → ∃ t, Leads ⟨.items [] :: s.stack, .firstItem⟩
      (",".intercalate (renderItems items)).toList t ∧
        Becomes t ⟨.items items.reverse :: s.stack, .after⟩) :
    ∃ t, Leads s (render (.arr items)).toList t ∧ Becomes t (.put s.stack (.arr items)) := by
  have hopen : s.step '[' = some ⟨.items [] :: s.stack, .firstItem⟩ := hs.step rfl (by decide)
  have closed : ∃ t, Leads ⟨.items [] :: s.stack, .firstItem⟩
      (",".intercalate (renderItems items)).toList t ∧
        t.step ']' = some (.put s.stack (.arr items)) := by
    cases items with
    | nil => exact ⟨_, .nil _, close_items [] (.inr rfl) hlength⟩
    | cons j rest =>
      obtain ⟨t, ht, hbecomes⟩ := inside (List.cons_ne_nil j rest)
      refine ⟨t, ht, (hbecomes.before ']' rfl).trans ?_⟩
      rw [close_items _ (.inl rfl) hlength, List.reverse_reverse]
  obtain ⟨t, ht, hclose⟩ := closed
  have htext : (render (.arr items)).toList =
      ['['] ++ (",".intercalate (renderItems items)).toList ++ [']'] := by simp [render]
  rw [htext]
  exact ⟨_, ((Leads.single hopen).append ht).append (.single hclose),
    becomes_put s.stack (.arr items)⟩

/-- An object is read between its braces. -/
theorem leads_obj {members : Members} {s : State} (hs : Waits s)
    (hlength : s.stack.length < depthLimit)
    (inside : members ≠ [] → ∃ t last, Leads ⟨.members [] none :: s.stack, .firstName⟩
      (",".intercalate (renderMembers members)).toList t ∧
        Becomes t ⟨.members (gathered members) last :: s.stack, .after⟩) :
    ∃ t, Leads s (render (.obj members)).toList t ∧
      Becomes t (.put s.stack (.obj members)) := by
  have hopen : s.step '\x7b' = some ⟨.members [] none :: s.stack, .firstName⟩ :=
    hs.step rfl (by decide)
  have closed : ∃ t, Leads ⟨.members [] none :: s.stack, .firstName⟩
      (",".intercalate (renderMembers members)).toList t ∧
        t.step '\x7d' = some (.put s.stack (.obj members)) := by
    cases members with
    | nil => exact ⟨_, .nil _, close_members [] (.inr rfl) hlength⟩
    | cons p rest =>
      obtain ⟨t, last, ht, hbecomes⟩ := inside (List.cons_ne_nil p rest)
      exact ⟨t, ht, (hbecomes.before '\x7d' rfl).trans (close_members _ (.inl rfl) hlength)⟩
  obtain ⟨t, ht, hclose⟩ := closed
  have htext : (render (.obj members)).toList =
      ['\x7b'] ++ (",".intercalate (renderMembers members)).toList ++ ['\x7d'] := by
    simp [render]
  rw [htext]
  exact ⟨_, ((Leads.single hopen).append ht).append (.single hclose),
    becomes_put s.stack (.obj members)⟩

-- Mutual as `render` is: a value, the items of a list behind an opening bracket or a comma, the
-- members of an object likewise.  The room that is left and the containers that are open add up.
mutual

/-- **The text of a plain value is read as the value**, wherever one may stand. -/
theorem leads_render : (j : Json) → {room : Nat} → j.Plain room → {s : State} → Waits s →
    s.stack.length + room ≤ depthLimit →
      ∃ t, Leads s (render j).toList t ∧ Becomes t (.put s.stack j)
  | .null, _, _, s, hs, _ =>
    leads_word 'n' ['u', 'l', 'l'] hs rfl rfl (by decide) rfl rfl
  | .bool true, _, _, s, hs, _ =>
    leads_word 't' ['r', 'u', 'e'] hs rfl rfl (by decide) rfl rfl
  | .bool false, _, _, s, hs, _ =>
    leads_word 'f' ['a', 'l', 's', 'e'] hs rfl rfl (by decide) rfl rfl
  | .num n, _, h, s, hs, _ => by
    cases h with
    | int low high => exact leads_int low high hs
  | .str x, _, _, s, hs, _ => by
    have hopen : s.step '"' = some ⟨s.stack, .text ⟨false, []⟩⟩ := hs.step rfl (by decide)
    have hput : State.putText s.stack ⟨false, x.toList.reverse.map Char.toNat⟩ =
        .put s.stack (.str x) := by
      simp only [State.putText, Text.Units.text?_toList]
      rfl
    exact ⟨_, leads_quote false x hopen, hput ▸ becomes_put s.stack (.str x)⟩
  | .arr items, _, h, s, hs, hroom => by
    cases h with
    | @arr room _ each =>
      refine leads_arr hs (by omega) fun hne => ?_
      have hinner : s.stack.length + 1 + room ≤ depthLimit := by omega
      simpa using leads_renderItems items hne each (s := ⟨.items [] :: s.stack, .firstItem⟩)
        (.inr rfl) rfl hinner
  | .obj members, _, h, s, hs, hroom => by
    cases h with
    | @obj room _ each =>
      refine leads_obj hs (by omega) fun hne => ?_
      have hinner : s.stack.length + 1 + room ≤ depthLimit := by omega
      simpa using leads_renderMembers members hne each (.inl rfl) [] none hinner
  | .broken, _, h, _, _, _ => by cases h

theorem leads_renderItems : (items : List Json) → items ≠ [] → {room : Nat} →
    (∀ j ∈ items, j.Plain room) → {s : State} → Waits s → {done : List Json} →
    {stack : List Frame} → s.stack = .items done :: stack → s.stack.length + room ≤ depthLimit →
      ∃ t, Leads s (",".intercalate (renderItems items)).toList t ∧
        Becomes t ⟨.items (items.reverse ++ done) :: stack, .after⟩
  | [], hne, _, _, _, _, _, _, _, _ => absurd rfl hne
  | [j], _, _, h, s, hs, done, stack, hstack, hroom => by
    obtain ⟨t, ht, hbecomes⟩ := leads_render j (h j List.mem_cons_self) hs hroom
    rw [hstack] at hbecomes
    exact ⟨t, by simpa [renderItems] using ht, hbecomes⟩
  | j :: k :: rest, _, _, h, s, hs, done, stack, hstack, hroom => by
    obtain ⟨hj, hrest⟩ := List.forall_mem_cons.mp h
    obtain ⟨t, ht, hbecomes⟩ := leads_render j hj hs hroom
    rw [hstack] at hbecomes hroom
    have hcomma : t.step ',' = some ⟨.items (j :: done) :: stack, .value⟩ :=
      hbecomes.before ',' rfl
    obtain ⟨u, hu, hu'⟩ := leads_renderItems (k :: rest) (List.cons_ne_nil k rest) hrest
      (s := ⟨.items (j :: done) :: stack, .value⟩) (.inl rfl) rfl hroom
    have hall := (ht.append (.single hcomma)).append hu
    refine ⟨u, ?_, by simpa using hu'⟩
    simpa [renderItems, String.intercalate_cons_cons] using hall

theorem leads_renderMembers : (members : Members) → members ≠ [] → {room : Nat} →
    (∀ p ∈ members, p.2.Plain room) → {mode : Mode} → mode = .firstName ∨ mode = .name →
    (done : List Entry) → (last : Option String) → {stack : List Frame} →
    stack.length + 1 + room ≤ depthLimit →
      ∃ t last', Leads ⟨.members done last :: stack, mode⟩
          (",".intercalate (renderMembers members)).toList t ∧
        Becomes t ⟨.members (gathered members ++ done) last' :: stack, .after⟩
  | [], hne, _, _, _, _, _, _, _, _ => absurd rfl hne
  | [(name, j)], _, _, h, _, hmode, done, last, stack, hroom => by
    have hj : Json.Plain _ j := h (name, j) List.mem_cons_self
    obtain ⟨t, ht, hbecomes⟩ := leads_render j hj
      (s := ⟨.members done (some name) :: stack, .value⟩) (.inl rfl) hroom
    refine ⟨t, some name, ?_, hbecomes⟩
    simpa [renderMembers] using (leads_name done last hmode name).append ht
  | (name, j) :: q :: rest, _, _, h, _, hmode, done, last, stack, hroom => by
    obtain ⟨hj, hrest⟩ := List.forall_mem_cons.mp h
    obtain ⟨t, ht, hbecomes⟩ := leads_render j hj
      (s := ⟨.members done (some name) :: stack, .value⟩) (.inl rfl) hroom
    have hcomma : t.step ',' =
        some ⟨.members ((some name, j) :: done) (some name) :: stack, .name⟩ :=
      hbecomes.before ',' rfl
    obtain ⟨u, last', hu, hu'⟩ := leads_renderMembers (q :: rest) (List.cons_ne_nil q rest) hrest
      (.inr rfl) ((some name, j) :: done) (some name) hroom
    have hall := (((leads_name done last hmode name).append ht).append
      (.single hcomma)).append hu
    refine ⟨u, last', ?_, by simpa [gathered] using hu'⟩
    simpa [renderMembers, String.intercalate_cons_cons] using hall

end

end Reader

open Reader in
/-- **What is rendered is parsed again**, as the value that it was. -/
theorem parse?_render {j : Json} (h : j.Plain depthLimit) : parse? j.render = some j := by
  obtain ⟨t, ht, hbecomes⟩ := leads_render j h (s := ⟨[], .value⟩) (.inl rfl) (by simp)
  have hall : j.render.toList.foldlM State.step ⟨[], .value⟩ = some t := ht
  simp [parse?, hall, State.result?, hbecomes.atEnd, State.put]

end Json

end SecretKeeper
