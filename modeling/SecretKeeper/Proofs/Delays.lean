/-
# The delays in closed form

The delays of a sequence are the Fibonacci numbers in units of the least delay, up to the cap, in
seconds as far as a word can tell (`delays_closed_form`).  The sequence itself knows two of them at
a time and forgets the true numbers once it has come to the cap, or to the greatest word, whichever
is first; that it has not lost its way by then is the invariant `Backoff.Reaches`.

From the closed form it is plain that delays never decrease and stay at the greatest one.  That
nothing overflows is about the registers: they are words, and stay words (`Backoff.Fits`).
-/
import SecretKeeper.Proofs.Backoff

namespace SecretKeeper.Backoff

variable {least most n k : Nat} {b : Backoff}

/-! ## 1. The sequence after some delays -/

/-- The delays of a sequence are what is due each time it has gone on. -/
theorem delays_eq (n : Nat) (b : Backoff) :
    b.delays n = (List.range n).map fun k => (next^[k] b).seconds := by
  induction n generalizing b with
  | zero => rfl
  | succ n ih =>
    rw [delays, ih, List.range_succ_eq_map, List.map_cons, List.map_map]
    rfl

theorem reaches_iterate (least most n : Nat) :
    Reaches least most n (next^[n] (start least most)) := by
  induction n with
  | zero => exact reaches_start least most
  | succ n ih =>
    rw [Function.iterate_succ_apply']
    exact ih.next

/-- **The delays are given by the closed form.** -/
theorem delays_start (least most n : Nat) :
    (start least most).delays n = (List.range n).map (delay least most) := by
  rw [delays_eq]
  exact List.map_congr_left fun k _ => (reaches_iterate least most k).seconds_eq

/-! ## 2. The greatest delay -/

/-- The greatest delay of a sequence, in seconds. -/
def ceiling (least most : Nat) : Nat := min (60 * cap least most) wordMax

theorem delay_le_ceiling (least most n : Nat) : delay least most n ≤ ceiling least most := by
  simp only [delay, ceiling]
  omega

theorem delay_mono (least most : Nat) : Monotone (delay least most) := by
  intro n k h
  have hfib : Nat.fib (n + 1) * floor least ≤ Nat.fib (k + 1) * floor least :=
    Nat.mul_le_mul_right _ (Nat.fib_mono (by omega))
  simp only [delay]
  omega

/-- A sequence stays at its greatest delay. -/
theorem delay_eq_ceiling_of_le (h : delay least most n = ceiling least most) (hle : n ≤ k) :
    delay least most k = ceiling least most :=
  Nat.le_antisymm (delay_le_ceiling least most k) (h ▸ delay_mono least most hle)

/-- In the end it gets there. -/
theorem exists_delay_eq_ceiling (least most : Nat) :
    ∃ n, delay least most n = ceiling least most := by
  have hfib := Nat.le_fib_add_one (cap least most + 1)
  have hfloor : 1 ≤ floor least := Nat.le_max_right _ _
  have hreached : cap least most ≤ Nat.fib (cap least most + 1) * floor least :=
    Nat.le_trans (by omega) (Nat.le_mul_of_pos_right _ hfloor)
  refine ⟨cap least most, ?_⟩
  simp only [delay, ceiling]
  omega

/-! ## 3. Words -/

/-- The registers and the cap of a sequence are words. -/
structure Fits (b : Backoff) : Prop where
  previous : b.previous ≤ wordMax
  current : b.current ≤ wordMax
  most : b.most ≤ wordMax

theorem fits_start (hleast : least ≤ wordMax) (hmost : most ≤ wordMax) :
    (start least most).Fits where
  previous := Nat.zero_le _
  current := Nat.max_le.mpr ⟨hleast, by decide⟩
  most := Nat.max_le.mpr ⟨hmost, Nat.max_le.mpr ⟨hleast, by decide⟩⟩

/-- The sum of two registers is a word again. -/
theorem Fits.next (h : b.Fits) : b.next.Fits where
  previous := h.current
  current := Nat.le_trans (Nat.min_le_left _ _) (Nat.min_le_right _ _)
  most := h.most

theorem Fits.iterate (h : b.Fits) (n : Nat) : (Backoff.next^[n] b).Fits := by
  induction n with
  | zero => exact h
  | succ n ih =>
    rw [Function.iterate_succ_apply']
    exact ih.next

theorem toNat_le_wordMax (w : UInt64) : w.toNat ≤ wordMax := Nat.le_pred_of_lt w.toNat_lt

/-! ## 4. The law -/

/-- **The delays in closed form.**  For bounds of 64 bits, `m` is the least delay in minutes, or
one, and `M` the greatest one, or `m`.

* Whatever the sequence holds at any time is a number of 64 bits.
* The delays are `min (60 * min (fib n * m) M) (2 ^ 64 - 1)`, for `n` from one on.
* They never decrease, never exceed the greatest of them, and stay at it. -/
theorem delays_closed_form (least most : UInt64) (n : Nat) :
    (Backoff.next^[n] (Backoff.start least.toNat most.toNat)).Fits ∧
    let m := max least.toNat 1
    let M := max most.toNat m
    let top := min (60 * M) (2 ^ 64 - 1)
    let b := Backoff.start least.toNat most.toNat
    b.delays n = (List.range n).map
      (fun k => min (60 * min (Nat.fib (k + 1) * m) M) (2 ^ 64 - 1)) ∧
    (b.delays n).Pairwise (fun delay later => delay ≤ later ∧ (delay = top → later = top)) ∧
    ∀ delay ∈ b.delays n, delay ≤ top := by
  refine ⟨(fits_start (toNat_le_wordMax _) (toNat_le_wordMax _)).iterate n, ?_⟩
  intro m M top b
  have hdelays : b.delays n = (List.range n).map (delay least.toNat most.toNat) :=
    delays_start _ _ n
  refine ⟨hdelays, ?_, ?_⟩
  · rw [hdelays, List.pairwise_map]
    refine List.pairwise_lt_range.imp fun hlt => ?_
    exact ⟨delay_mono _ _ hlt.le, fun h => delay_eq_ceiling_of_le h hlt.le⟩
  · intro d hd
    rw [hdelays] at hd
    obtain ⟨k, -, rfl⟩ := List.mem_map.mp hd
    exact delay_le_ceiling _ _ k

/-- Where the first delay is already beyond a word, it is the greatest word, and so are all. -/
theorem long_delays_closed :
    (start 9223372036854775807 18446744073709551615).delays 3 =
      [18446744073709551615, 18446744073709551615, 18446744073709551615] ∧
    (next^[3] (start 9223372036854775807 18446744073709551615)).Fits := by
  obtain ⟨fits, hdelays, -⟩ := delays_closed_form 9223372036854775807 18446744073709551615 3
  exact ⟨hdelays.trans (by decide), fits⟩

end SecretKeeper.Backoff
