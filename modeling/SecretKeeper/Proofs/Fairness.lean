/-
# All values are equally likely

Two values of one length over one class of characters are made of equally many byte sequences.

Below the limit every character has as many bytes as any other, one in each round of the charset.
So the bytes of two characters can be exchanged, round by round (`Encoding.swapped`).  Doing this
at each accepted byte, with the characters that the two values have at that place, turns a sequence
that gives one value into one that gives the other (`Generator.prefix_exchange`), and doing it again
undoes it.  The rejected bytes stay where they are, and so do those that are never looked at: where
a chunk ends, and where the loop stops, does not matter.
-/
import Mathlib.Data.FinEnum
import Mathlib.Data.Fintype.Vector
import Mathlib.Logic.Equiv.Basic
import SecretKeeper.Proofs.Generation
import SecretKeeper.Proofs.Stream

namespace SecretKeeper

/-! ## 1. Exchanging two characters -/

namespace Encoding

variable {e : Encoding} {b : UInt8} {c d : Char}

theorem charAt_mem (e : Encoding) (b : UInt8) : e.charAt b ∈ e.charset := List.get_mem _ _

/-- The byte of the same round that stands for the character at place `i` of the charset. -/
def moved (e : Encoding) (b : UInt8) (i : Nat) : UInt8 :=
  UInt8.ofNat (b.toNat / e.size * e.size + i)

/-- A round of accepted bytes ends below the limit. -/
theorem round_lt_limit {i : Nat} (hb : e.accepts b = true) (hi : i < e.size) :
    b.toNat / e.size * e.size + i < e.limit := by
  obtain ⟨⟨q, hq⟩, -⟩ := e.limit_isGreatest.1
  have hb : b.toNat < e.size * q := by simpa [accepts, hq] using hb
  have hround : b.toNat / e.size + 1 ≤ q := Nat.div_lt_of_lt_mul hb
  have := Nat.mul_le_mul_right e.size hround
  rw [hq, Nat.mul_comm e.size q]
  rw [Nat.succ_mul] at this
  omega

theorem toNat_moved {i : Nat} (hb : e.accepts b = true) (hi : i < e.size) :
    (e.moved b i).toNat = b.toNat / e.size * e.size + i := by
  have hlt := round_lt_limit hb hi
  have hlimit := e.limit_isGreatest.1.2
  rw [moved, UInt8.toNat_ofNat']
  exact Nat.mod_eq_of_lt (by omega)

theorem accepts_moved {i : Nat} (hb : e.accepts b = true) (hi : i < e.size) :
    e.accepts (e.moved b i) = true := by
  rw [accepts, toNat_moved hb hi]
  exact decide_eq_true (round_lt_limit hb hi)

theorem charAt_moved {i : Nat} (hb : e.accepts b = true) (hi : i < e.size) :
    e.charAt (e.moved b i) = e.charset.get ⟨i, hi⟩ := by
  have hplace : (e.moved b i).toNat % e.size = i := by
    rw [toNat_moved hb hi, Nat.mul_comm, Nat.mul_add_mod, Nat.mod_eq_of_lt hi]
  simp only [charAt, hplace]

theorem moved_moved {i j : Nat} (hb : e.accepts b = true) (hi : i < e.size) :
    e.moved (e.moved b i) j = e.moved b j := by
  have hround : (e.moved b i).toNat / e.size = b.toNat / e.size := by
    rw [toNat_moved hb hi, Nat.mul_comm, Nat.mul_add_div e.size_pos, Nat.div_eq_of_lt hi,
      Nat.add_zero]
  rw [moved, hround, moved]

theorem idxOf_charAt (e : Encoding) (b : UInt8) : e.charset.idxOf (e.charAt b) = b.toNat % e.size :=
  e.nodup_charset.idxOf_getElem _ (Nat.mod_lt _ e.size_pos)

theorem moved_self (e : Encoding) (b : UInt8) : e.moved b (e.charset.idxOf (e.charAt b)) = b := by
  rw [idxOf_charAt, moved, Nat.div_add_mod', UInt8.ofNat_toNat]

/-- The byte with two characters exchanged. -/
def swapped (e : Encoding) (c d : Char) (b : UInt8) : UInt8 :=
  if e.accepts b then e.moved b (e.charset.idxOf (Equiv.swap c d (e.charAt b))) else b

theorem swapped_comm (e : Encoding) (c d : Char) : e.swapped c d = e.swapped d c := by
  funext b
  rw [swapped, swapped, Equiv.swap_comm]

section Swapped

variable (hc : c ∈ e.charset) (hd : d ∈ e.charset)

include hc hd

theorem idxOf_swap_lt (b : UInt8) : e.charset.idxOf (Equiv.swap c d (e.charAt b)) < e.size := by
  refine List.idxOf_lt_length_of_mem ?_
  rw [Equiv.swap_apply_def]
  split
  · exact hd
  · split
    · exact hc
    · exact e.charAt_mem b

theorem accepts_swapped (b : UInt8) : e.accepts (e.swapped c d b) = e.accepts b := by
  cases hb : e.accepts b with
  | false => rw [swapped, hb, if_neg Bool.false_ne_true, hb]
  | true =>
    rw [swapped, if_pos hb]
    exact accepts_moved hb (idxOf_swap_lt hc hd b)

theorem charAt_swapped (hb : e.accepts b = true) :
    e.charAt (e.swapped c d b) = Equiv.swap c d (e.charAt b) := by
  rw [swapped, if_pos hb, charAt_moved hb (idxOf_swap_lt hc hd b)]
  exact List.getElem_idxOf _

/-- Exchanging them again undoes it. -/
theorem swapped_swapped (b : UInt8) : e.swapped c d (e.swapped c d b) = b := by
  cases hb : e.accepts b with
  | false =>
    have hsame : e.swapped c d b = b := by rw [swapped, hb, if_neg Bool.false_ne_true]
    rw [hsame, hsame]
  | true =>
    have hb' : e.accepts (e.swapped c d b) = true := (accepts_swapped hc hd b).trans hb
    rw [swapped, if_pos hb', charAt_swapped hc hd hb, Equiv.swap_apply_self, swapped, if_pos hb,
      moved_moved hb (idxOf_swap_lt hc hd b), moved_self]

end Swapped

end Encoding

/-! ## 2. Exchanging two values -/

namespace Generator

open Encoding

variable {e : Encoding} {s t : List Char}

/-- The bytes with the characters of the two values exchanged, one after the other at each accepted
byte. -/
def exchange (e : Encoding) : (s t : List Char) → Bytes → Bytes
  | c :: s, d :: t, b :: bs =>
    if e.accepts b then e.swapped c d b :: exchange e s t bs
    else b :: exchange e (c :: s) (d :: t) bs
  | _ :: _, _ :: _, [] => []
  | [], _, bs => bs
  | _ :: _, [], bs => bs

@[simp] theorem exchange_nil_right (e : Encoding) (s : List Char) (bs : Bytes) :
    exchange e s [] bs = bs := by
  cases s <;> simp [exchange]

theorem length_exchange (e : Encoding) (s t : List Char) (bs : Bytes) :
    (exchange e s t bs).length = bs.length := by
  fun_induction exchange e s t bs with
  | case1 c s d t b bs hb ih => simp [ih]
  | case2 c s d t b bs hb ih => simp [ih]
  | case3 | case4 | case5 => rfl

theorem exchange_comm (e : Encoding) (s t : List Char) : exchange e s t = exchange e t s := by
  funext bs
  fun_induction exchange e s t bs with
  | case1 c s d t b bs hb ih => rw [exchange, if_pos hb, swapped_comm, ih]
  | case2 c s d t b bs hb ih => rw [exchange, if_neg hb, ih]
  | case3 => simp [exchange]
  | case4 => simp
  | case5 => simp [exchange]

/-- Exchanging them again undoes it. -/
theorem exchange_exchange (hs : ∀ c ∈ s, c ∈ e.charset) (ht : ∀ d ∈ t, d ∈ e.charset) (bs : Bytes) :
    exchange e s t (exchange e s t bs) = bs := by
  fun_induction exchange e s t bs with
  | case1 c s d t b bs hb ih =>
    obtain ⟨hc, hrest⟩ := List.forall_mem_cons.mp hs
    obtain ⟨hd, hrest'⟩ := List.forall_mem_cons.mp ht
    rw [exchange, if_pos ((accepts_swapped hc hd b).trans hb), swapped_swapped hc hd,
      ih hrest hrest']
  | case2 c s d t b bs hb ih => rw [exchange, if_neg hb, ih hs ht]
  | case3 => simp [exchange]
  | case4 => simp [exchange]
  | case5 => simp

/-- **Bytes that begin with one value begin with the other after the exchange.** -/
theorem prefix_exchange (hs : ∀ c ∈ s, c ∈ e.charset) (ht : ∀ d ∈ t, d ∈ e.charset)
    (hlength : s.length = t.length) {bs : Bytes} (h : s <+: bs.filterMap e.char?) :
    t <+: (exchange e s t bs).filterMap e.char? := by
  fun_induction exchange e s t bs with
  | case1 c s d t b bs hb ih =>
    obtain ⟨hc, hrest⟩ := List.forall_mem_cons.mp hs
    obtain ⟨hd, hrest'⟩ := List.forall_mem_cons.mp ht
    rw [List.filterMap_cons, char?_eq, if_pos hb, List.cons_prefix_cons] at h
    obtain ⟨rfl, h⟩ := h
    have hbegins := ih hrest hrest' (Nat.succ.inj hlength) h
    rw [List.filterMap_cons, char?_eq, if_pos ((accepts_swapped hc hd b).trans hb),
      charAt_swapped hc hd hb, Equiv.swap_apply_left]
    exact List.cons_prefix_cons.mpr ⟨rfl, hbegins⟩
  | case2 c s d t b bs hb ih =>
    rw [List.filterMap_cons, char?_eq, if_neg hb] at h ⊢
    exact ih hs ht hlength h
  | case3 c s d t =>
    cases List.prefix_nil.mp h
  | case4 t bs =>
    rw [List.length_eq_zero_iff.mp hlength.symm]
    exact List.nil_prefix
  | case5 => exact List.nil_prefix

/-! ## 3. The value that some bytes make -/

/-- The value that the generator makes of some bytes, in at most this number of chunks. -/
def made? (e : Encoding) (length chunks : Nat) (bytes : Bytes) : Option String :=
  match Entropy.generate? e length
    { stream := .cycle [] bytes, answers := chunks, message := "" } with
  | some (.ok value, _) => some value
  | _ => none

end Generator

/-- The stream begins with what is left of its round. -/
theorem ByteStream.take_round (all rest : Bytes) :
    ((ByteStream.cycle all rest).take rest.length).1 = rest := by
  induction rest with
  | nil => rfl
  | cons b rest ih => exact congrArg (b :: ·) ih

/-- Where some chunks are enough, there is a least number that is. -/
theorem ByteScript.Enough.exists_isLeast {s : ByteScript} {e : Encoding} {length n : Nat}
    (h : s.Enough e length n) : ∃ m ≤ n, IsLeast {m | s.Enough e length m} m := by
  classical
  exact ⟨Nat.find ⟨n, h⟩, Nat.find_le h, Nat.find_spec ⟨n, h⟩, fun k hk => Nat.find_le hk⟩

namespace Generator

variable {e : Encoding} {length chunks : Nat} {bytes : Bytes} {value : String}

/-- Bytes make the value that they begin with, once the rejected ones are left out. -/
theorem made?_eq_some_iff (hbytes : bytes.length = chunks * chunkSize length)
    (hvalue : value.length = length) :
    made? e length chunks bytes = some value ↔
      length ≤ maxLength ∧ value.toList <+: bytes.filterMap e.char? := by
  generalize hsource : ({ stream := .cycle [] bytes, answers := chunks, message := "" } : Entropy) =
    source
  have haccepted : source.script.accepted e length chunks = bytes.filter e.accepts := by
    have hchunk : source.script.chunk 0 (chunks * chunkSize length) = bytes := by
      rw [← hbytes, ← hsource]
      simp only [ByteScript.chunk, Nat.zero_add]
      exact (ByteStream.take_fst _ _).symm.trans (ByteStream.take_round [] bytes)
    rw [ByteScript.accepted, hchunk]
  have hchars : source.script.chars e length chunks = (bytes.filterMap e.char?).take length := by
    rw [ByteScript.chars, haccepted, e.filterMap_char?, List.map_take]
  have hbegins : value.toList <+: bytes.filterMap e.char? ↔
      value.toList = source.script.chars e length chunks := by
    rw [List.prefix_iff_eq_take, String.length_toList, hvalue, hchars]
  have goes : ∀ k < chunks, source.script.failure? k = none := by
    intro k hk
    rw [← hsource]
    exact if_pos hk
  have fails : source.script.failure? chunks = some ⟨""⟩ := by
    rw [← hsource]
    exact if_neg (Nat.lt_irrefl chunks)
  by_cases hlength : length ≤ maxLength
  · obtain ⟨answer, p, hrun, hmade⟩ := source.generate?_of_le hlength e
    have hfuel : source.answers + 1 = chunks + 1 := by rw [← hsource]
    rw [hfuel] at hrun
    rw [hbegins, made?, hsource, hmade]
    by_cases henough : source.script.Enough e length chunks
    · obtain ⟨m, hm, least⟩ := henough.exists_isLeast
      rw [ByteScript.generate_of_isLeast least (fun k hk => goes k (Nat.lt_of_lt_of_le hk hm))
        (Nat.le_succ_of_le hm)] at hrun
      cases hrun
      rw [← ByteScript.chars_eq_of_enough least.1 hm]
      constructor
      · intro h
        cases h
        exact ⟨hlength, String.toList_ofList⟩
      · rintro ⟨-, h⟩
        rw [← h, String.ofList_toList]
    · rw [ByteScript.generate_of_failure henough goes fails (Nat.lt_succ_self chunks)] at hrun
      cases hrun
      constructor
      · intro h
        cases h
      · rintro ⟨-, h⟩
        refine absurd ?_ henough
        rw [← ByteScript.length_chars_ge_iff, ← h, String.length_toList, hvalue]
  · rw [made?, Entropy.generate?, if_neg hlength]
    constructor
    · intro h
      cases h
    · rintro ⟨h, -⟩
      exact absurd h hlength

/-! ## 4. Fairness -/

/-- The byte sequences of so many chunks of which the generator makes the value. -/
def making (e : Encoding) (length chunks : Nat) (value : String) :
    Finset (List.Vector UInt8 (chunks * chunkSize length)) :=
  Finset.univ.filter fun bytes => made? e length chunks bytes.toList = some value

theorem mem_making {bytes : List.Vector UInt8 (chunks * chunkSize length)} :
    bytes ∈ making e length chunks value ↔ made? e length chunks bytes.toList = some value := by
  simp [making]

theorem card_making_ne_zero {bytes : List.Vector UInt8 (chunks * chunkSize length)}
    (h : made? e length chunks bytes.toList = some value) :
    (making e length chunks value).card ≠ 0 := Finset.card_ne_zero_of_mem (mem_making.mpr h)

/-- The exchange of two values, on byte sequences of one length. -/
def exchanging {s t : List Char} (hs : ∀ c ∈ s, c ∈ e.charset) (ht : ∀ d ∈ t, d ∈ e.charset)
    (n : Nat) : Equiv.Perm (List.Vector UInt8 n) :=
  Function.Involutive.toPerm
    (fun bytes => ⟨exchange e s t bytes.toList,
      (length_exchange e s t bytes.toList).trans bytes.toList_length⟩)
    fun bytes => Subtype.ext (exchange_exchange hs ht bytes.toList)

/-- **All values are equally likely.**  Any two values of one length over one class are made of
equally many byte sequences. -/
theorem card_making_eq {v w : String} (hv : Fits e length v) (hw : Fits e length w) (chunks : Nat) :
    (making e length chunks v).card = (making e length chunks w).card := by
  have hlength : v.toList.length = w.toList.length := by
    rw [String.length_toList, String.length_toList, hv.length_eq, hw.length_eq]
  refine Finset.card_equiv (exchanging hv.chars hw.chars _) fun bytes => ?_
  have hbytes : bytes.toList.length = chunks * chunkSize length := bytes.toList_length
  have hexchanged : (exchange e v.toList w.toList bytes.toList).length =
      chunks * chunkSize length := (length_exchange _ _ _ _).trans hbytes
  rw [mem_making, mem_making, made?_eq_some_iff hbytes hv.length_eq]
  refine Iff.trans ?_ (made?_eq_some_iff hexchanged hw.length_eq).symm
  refine and_congr_right fun _ => ⟨prefix_exchange hv.chars hw.chars hlength, fun h => ?_⟩
  -- the exchange undoes itself, and does not care which of the two values comes first
  have hback := prefix_exchange hw.chars hv.chars hlength.symm h
  rwa [exchange_comm e w.toList, exchange_exchange hv.chars hw.chars] at hback

/-- One chunk for eight digits, all zero bytes. -/
def zeroChunk : List.Vector UInt8 (1 * chunkSize 8) := ⟨List.replicate 16 0, rfl⟩

/-- Eight zeros can be made of one chunk, and no more easily than any other eight digits. -/
theorem zeros_no_likelier :
    Fits .digits 8 "00000000" ∧ Fits .digits 8 "31415926" ∧
      (making .digits 8 1 "00000000").card ≠ 0 ∧
      (making .digits 8 1 "00000000").card = (making .digits 8 1 "31415926").card := by
  have hzeros : Fits .digits 8 "00000000" := by decide
  have hdigits : Fits .digits 8 "31415926" := by decide
  have hmade : made? .digits 8 1 zeroChunk.toList = some "00000000" := by decide
  exact ⟨hzeros, hdigits, card_making_ne_zero hmade, card_making_eq hzeros hdigits 1⟩

end Generator

end SecretKeeper
