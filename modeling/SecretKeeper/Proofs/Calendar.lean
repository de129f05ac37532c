/-
# Times that are written and read again

A time is written to whole seconds and read back as that second.  Two things have to fit.

The calendar: the day of a date is the day that the date was made from (`dayNumber_ofDay`).
Within an era of 400 years, which begin in March, the year is found by a division in which the
leap days are taken out first; that it is never off by one is arithmetic on the century
(`yearStart_le`, `le_yearEnd`).

The digits: a number that is padded with zeros reads as itself, if something follows that is no
digit (`digits?_zeroPadded`).
-/
import Mathlib.Tactic.IntervalCases
import SecretKeeper.Time.Reading

namespace SecretKeeper

/-! ## 1. The calendar -/

namespace Date

section Era

variable {day year : Nat} (h : day < 146097)
  (hy : year = (day - day / 1460 + day / 36524 - day / 146096) / 365)

include h hy

/-- An era has 400 years. -/
theorem year_lt : year < 400 := by omega

/-- The year has begun on the day. -/
theorem yearStart_le : 365 * year + year / 4 - year / 100 ≤ day := by
  have hleap : year / 100 ≤ 3 := by omega
  generalize hC : year / 100 = century at *
  interval_cases century <;> omega

/-- The year has not ended on the day. -/
theorem le_yearEnd : day ≤ 365 * year + year / 4 - year / 100 + 365 := by
  have hleap : year / 100 ≤ 3 := by omega
  generalize hC : year / 100 = century at *
  interval_cases century <;> omega

end Era

/-- The month of a year from March has begun on the day, and the months are counted from 3 to
14. -/
theorem monthStart_le {day : Nat} (h : day ≤ 365) :
    (5 * day + 2) / 153 ≤ 11 ∧ (153 * ((5 * day + 2) / 153) + 2) / 5 ≤ day ∧
      day < (153 * ((5 * day + 2) / 153) + 2) / 5 + 31 := by
  omega

/-- What the parts of a date are, for a day of a year of an era. -/
structure Parts (n : Int) (era : Int) (year day month : Nat) : Prop where
  shifted : n + 719468 = era * 146097 + (365 * year + year / 4 - year / 100 + day : Nat)
  year_lt : year < 400
  century : year / 100 ≤ 365 * year + year / 4
  month_le : month ≤ 11
  begun : (153 * month + 2) / 5 ≤ day
  ended : day < (153 * month + 2) / 5 + 31
  date : ofDay n =
    { year := year + era * 400 + (if month < 10 then 0 else 1)
      month := if month < 10 then month + 3 else month - 9
      day := day - (153 * month + 2) / 5 + 1 }

/-- Every day has such parts. -/
theorem exists_parts (n : Int) : ∃ era year day month, Parts n era year day month := by
  have hday : ((n + 719468) % 146097).toNat < 146097 := by omega
  generalize hd : ((n + 719468) % 146097).toNat = dayOfEra at hday
  generalize hy : (dayOfEra - dayOfEra / 1460 + dayOfEra / 36524 - dayOfEra / 146096) / 365 = year
  have hlt := year_lt hday hy.symm
  have hstart := yearStart_le hday hy.symm
  have hend := le_yearEnd hday hy.symm
  generalize hdoy : dayOfEra - (365 * year + year / 4 - year / 100) = dayOfYear
  have hdoy_le : dayOfYear ≤ 365 := by omega
  obtain ⟨hmonth, hbegun, hended⟩ := monthStart_le hdoy_le
  refine ⟨(n + 719468) / 146097, year, dayOfYear, (5 * dayOfYear + 2) / 153,
    ⟨by omega, hlt, by omega, hmonth, hbegun, hended, ?_⟩⟩
  simp only [ofDay, hd, hy, hdoy]
  generalize (5 * dayOfYear + 2) / 153 = month at *
  by_cases hm : month < 10
  · have hlate : ¬ month + 3 ≤ 2 := by omega
    simp only [hm, if_true, hlate, if_false]
  · have hearly : month - 9 ≤ 2 := by omega
    simp only [hm, if_false, hearly, if_true]

/-- **The day of a date** is the day that the date was made from. -/
theorem dayNumber_ofDay (n : Int) : (ofDay n).dayNumber = n := by
  obtain ⟨era, year, day, month, p⟩ := exists_parts n
  obtain ⟨shifted, year_lt, century, month_le, begun, ended, date⟩ := p
  rw [date]
  unfold dayNumber
  by_cases hm : month < 10
  · have hlate : ¬ month + 3 ≤ 2 := by omega
    have hmonth : (((month + 3 : Nat) : Int) + 9) % 12 = month := by omega
    have hera : ((year : Int) + era * 400 + 0) / 400 = era := by omega
    have hyear : (year : Int) + era * 400 + 0 - era * 400 = year := by omega
    simp only [hm, if_true, hlate, if_false, hmonth, hera, hyear]
    omega
  · have hearly : month - 9 ≤ 2 := by omega
    have hmonth : (((month - 9 : Nat) : Int) + 9) % 12 = month := by omega
    have hera : ((year : Int) + era * 400 + 1 - 1) / 400 = era := by omega
    have hyear : (year : Int) + era * 400 + 1 - 1 - era * 400 = year := by omega
    simp only [hm, if_false, hearly, if_true, hmonth, hera, hyear]
    omega

theorem isReal_ofDay (n : Int) : (ofDay n).isReal = true := by
  rw [isReal, dayNumber_ofDay]
  exact beq_self_eq_true _

/-- A date has a month from 1 to 12, and a day from 1 to 31. -/
theorem month_day_ofDay (n : Int) : (ofDay n).month ≤ 12 ∧ (ofDay n).day ≤ 31 := by
  obtain ⟨era, year, day, month, p⟩ := exists_parts n
  obtain ⟨-, -, -, month_le, begun, ended, date⟩ := p
  rw [date]
  constructor
  · dsimp only
    split <;> omega
  · dsimp only
    omega

end Date

/-! ## 2. Digits -/

namespace Text

/-- The characters of a padded number. -/
theorem toList_zeroPadded (width n : Nat) :
    (zeroPadded width n).toList =
      List.replicate (width - (Nat.toDigits 10 n).length) '0' ++ Nat.toDigits 10 n := by
  simp [zeroPadded, ← String.length_toList]

theorem isDigit_of_mem_zeroPadded {width n : Nat} {c : Char}
    (h : c ∈ (zeroPadded width n).toList) : c.isDigit = true := by
  rw [toList_zeroPadded] at h
  rcases List.mem_append.mp h with h | h
  · rw [List.eq_of_mem_replicate h]
    rfl
  · exact Nat.isDigit_of_mem_toDigits (by omega) (by omega) h

theorem zeroPadded_ne_nil (width n : Nat) : (zeroPadded width n).toList ≠ [] := by
  rw [toList_zeroPadded]
  exact List.append_ne_nil_of_right_ne_nil _ Nat.toDigits_ne_nil

theorem length_zeroPadded {width n : Nat} (hw : 0 < width) (h : n < 10 ^ width) :
    (zeroPadded width n).toList.length = width := by
  have hlength := (Nat.length_toDigits_le_iff (b := 10) (by omega) hw).mpr h
  rw [toList_zeroPadded, List.length_append, List.length_replicate]
  omega

/-- A padded number stands for the number. -/
theorem foldl_zeroPadded (width n : Nat) :
    (zeroPadded width n).toList.foldl (fun n c => n * 10 + (c.toNat - 48)) 0 = n := by
  have hfold : ∀ (cs : List Char) (start : Nat),
      cs.foldl (fun n c => n * 10 + (c.toNat - 48)) start = Nat.ofDigitChars 10 cs start := by
    intro cs start
    rw [Nat.ofDigitChars_eq_foldl]
    congr 1
    funext n c
    rw [Nat.mul_comm]
    rfl
  rw [hfold, toList_zeroPadded, Nat.ofDigitChars_append, Nat.ofDigitChars_replicate_zero,
    Nat.mul_zero, Nat.ofDigitChars_ten_toDigits]

end Text

namespace Instant.Reading

open Text

/-- Digits are read up to what is no digit. -/
theorem digits?_append {most : Nat} {ds rest : List Char} (all : ∀ c ∈ ds, c.isDigit = true)
    (some_digit : ds ≠ []) (fits : ds.length ≤ most)
    (stop : ∀ c, rest.head? = some c → c.isDigit = false) :
    digits? most (ds ++ rest) =
      some (ds.foldl (fun n c => n * 10 + (c.toNat - 48)) 0, rest) := by
  have hrest : (rest.take (most - ds.length)).takeWhile Char.isDigit = [] := by
    cases rest with
    | nil => simp
    | cons c rest =>
      cases most - ds.length with
      | zero => simp
      | succ k => simp [stop c rfl]
  have htaken : ((ds ++ rest).take most).takeWhile Char.isDigit = ds := by
    rw [List.take_append, List.take_of_length_le fits, List.takeWhile_append_of_pos all, hrest,
      List.append_nil]
  simp only [digits?, htaken, List.drop_left]
  rw [if_neg (by simpa using some_digit)]

/-- **A padded number reads as itself.** -/
theorem digits?_zeroPadded {most width n : Nat} {rest : List Char}
    (fits : (zeroPadded width n).toList.length ≤ most)
    (stop : ∀ c, rest.head? = some c → c.isDigit = false) :
    digits? most ((zeroPadded width n).toList ++ rest) = some (n, rest) := by
  rw [digits?_append (fun _ h => isDigit_of_mem_zeroPadded h) (zeroPadded_ne_nil width n) fits stop,
    foldl_zeroPadded]

/-- No blank stands in front of what begins with something else. -/
theorem unblank_of_head {cs : List Char} (h : ∀ c, cs.head? = some c → isBlank c = false) :
    unblank cs = cs := by
  cases cs with
  | nil => rfl
  | cons c cs => simp [unblank, h c rfl]

theorem isBlank_of_isDigit {c : Char} (h : c.isDigit = true) : isBlank c = false := by
  simp only [Char.isDigit, Bool.and_eq_true, decide_eq_true_eq, ge_iff_le,
    UInt32.le_iff_toNat_le] at h
  obtain ⟨hlow, hhigh⟩ := h
  have hlow : 48 ≤ c.toNat := hlow
  have hhigh : c.toNat ≤ 57 := hhigh
  simp only [isBlank, Bool.or_eq_false_iff, Bool.and_eq_false_iff, decide_eq_false_iff_not,
    beq_eq_false_iff_ne]
  omega

theorem unblank_zeroPadded (width n : Nat) (rest : List Char) :
    unblank ((zeroPadded width n).toList ++ rest) = (zeroPadded width n).toList ++ rest := by
  obtain ⟨c, cs, hcs⟩ := List.exists_cons_of_ne_nil (zeroPadded_ne_nil width n)
  have hdigit : c.isDigit = true := isDigit_of_mem_zeroPadded (by rw [hcs]; simp)
  rw [hcs]
  refine unblank_of_head fun d hd => ?_
  obtain rfl : c = d := by simpa using hd
  exact isBlank_of_isDigit hdigit

theorem pair?_zeroPadded {n : Nat} {rest : List Char} (h : n < 100)
    (stop : ∀ c, rest.head? = some c → c.isDigit = false) :
    pair? ((zeroPadded 2 n).toList ++ rest) = some (n, rest) := by
  rw [pair?, unblank_zeroPadded]
  exact digits?_zeroPadded (Nat.le_of_eq (length_zeroPadded (by omega) h)) stop

theorem year?_minus (cs : List Char) :
    year? ('-' :: cs) = (digits? cs.length cs).map fun (n, rest) => (-(n : Int), rest) := by
  have hunblank : unblank ('-' :: cs) = '-' :: cs :=
    unblank_of_head fun c hc => by cases hc; decide
  rw [year?, hunblank]
  rfl

theorem year?_plus (cs : List Char) :
    year? ('+' :: cs) = (digits? cs.length cs).map fun (n, rest) => ((n : Int), rest) := by
  have hunblank : unblank ('+' :: cs) = '+' :: cs :=
    unblank_of_head fun c hc => by cases hc; decide
  rw [year?, hunblank]
  rfl

theorem year?_digit {c : Char} (cs : List Char) (h : c.isDigit = true) :
    year? (c :: cs) = (digits? 4 (c :: cs)).map fun (n, rest) => ((n : Int), rest) := by
  have hunblank : unblank (c :: cs) = c :: cs :=
    unblank_of_head fun d hd => by cases hd; exact isBlank_of_isDigit h
  rw [year?, hunblank]
  split
  next heq =>
    obtain ⟨rfl, -⟩ := List.cons.inj heq
    cases h
  next heq =>
    obtain ⟨rfl, -⟩ := List.cons.inj heq
    cases h
  next => rfl

/-- A year reads as itself, with its sign if it has one. -/
theorem year?_yearText (y : Int) {rest : List Char}
    (stop : ∀ c, rest.head? = some c → c.isDigit = false) :
    year? ((Date.yearText y).toList ++ rest) = some (y, rest) := by
  by_cases hy : 0 ≤ y ∧ y ≤ 9999
  · rw [Date.yearText, if_pos hy]
    have hread : digits? 4 ((zeroPadded 4 y.toNat).toList ++ rest) = some (y.toNat, rest) :=
      digits?_zeroPadded (Nat.le_of_eq (length_zeroPadded (by omega) (by omega))) stop
    obtain ⟨c, cs, hcs⟩ := List.exists_cons_of_ne_nil (zeroPadded_ne_nil 4 y.toNat)
    have hdigit : c.isDigit = true := isDigit_of_mem_zeroPadded (by rw [hcs]; simp)
    rw [hcs, List.cons_append] at hread ⊢
    rw [year?_digit _ hdigit, hread]
    simp [Int.toNat_of_nonneg hy.1]
  · rw [Date.yearText, if_neg hy]
    have hread : digits? ((zeroPadded 4 y.natAbs).toList ++ rest).length
        ((zeroPadded 4 y.natAbs).toList ++ rest) = some (y.natAbs, rest) :=
      digits?_zeroPadded (by simp) stop
    by_cases hneg : y < 0
    · have hsign : -(y.natAbs : Int) = y := by omega
      have htext : "-".toList = ['-'] := rfl
      rw [if_pos hneg, String.toList_append, htext, List.append_assoc, List.cons_append,
        List.nil_append, year?_minus, hread]
      simp only [Option.map_some, hsign]
    · have hsign : (y.natAbs : Int) = y := by omega
      have htext : "+".toList = ['+'] := rfl
      rw [if_neg hneg, String.toList_append, htext, List.append_assoc, List.cons_append,
        List.nil_append, year?_plus, hread]
      simp only [Option.map_some, hsign]

/-! ## 3. Stamps -/

/-- The date and the time of a stamp are those of the instant. -/
theorem place?_stamp {t : Instant} (valid : t.isValid = true) :
    place? t.date (t.secondOfDay / 3600) (t.secondOfDay / 60 % 60)
        (t.secondOfDay % 60 + t.nanos / 1000000000) 0 =
      some ⟨t.secs, t.nanos / 1000000000 * 1000000000⟩ := by
  simp only [isValid, bounds, Bool.and_eq_true, decide_eq_true_eq, Bool.or_eq_true,
    beq_iff_eq] at valid
  obtain ⟨⟨⟨hlow, hhigh⟩, hnanos⟩, hleap⟩ := valid
  have hreal : t.date.isReal = true := Date.isReal_ofDay _
  have hday : t.date.dayNumber = t.secs / 86400 := Date.dayNumber_ofDay _
  have hsecond : t.secondOfDay = (t.secs % 86400).toNat := rfl
  generalize t.secondOfDay = second at *
  have hsplit : t.secs = t.secs / 86400 * 86400 + second := by omega
  have hsixty : t.secs % 60 = (second % 60 : Nat) := by omega
  have hlt : second < 86400 := by omega
  have hclock : second / 3600 * 3600 + second / 60 % 60 * 60 + second % 60 = second := by omega
  simp only [place?, hreal, hday, Bool.true_and, Bool.and_eq_true, decide_eq_true_eq,
    beq_iff_eq]
  by_cases hone : t.nanos < 1000000000
  · have hfraction : t.nanos / 1000000000 = 0 := by omega
    have hplain : ¬ second % 60 = 60 := by omega
    have hmin : min (second % 60) 59 = second % 60 := by omega
    rw [hfraction, Nat.add_zero, if_pos (by omega), if_neg hplain, hmin, hclock, ← hsplit]
    simp [ofParts?, isValid, bounds, hlow, hhigh]
  · have hfraction : t.nanos / 1000000000 = 1 := by omega
    have hlast : second % 60 = 59 := by omega
    have hmin : min (second % 60 + 1) 59 = second % 60 := by omega
    rw [hfraction, if_pos (by omega), if_pos (by omega), hmin, hclock, ← hsplit]
    have hend : t.secs % 60 = 59 := by omega
    simp [ofParts?, isValid, bounds, hlow, hhigh, hend]

/-- A sign that stands there is passed. -/
theorem after?_self {sign : Char} (h : isBlank sign = false) (cs : List Char) :
    after? sign (sign :: cs) = some cs := by
  have hunblank : unblank (sign :: cs) = sign :: cs :=
    unblank_of_head fun c hc => by cases hc; exact h
  simp [after?, hunblank]

/-- A sign is no digit. -/
theorem head?_sign {sign : Char} (h : sign.isDigit = false) (cs : List Char) :
    ∀ c, (sign :: cs).head? = some c → c.isDigit = false := by
  rintro c hc
  cases hc
  exact h

/-- The characters of a stamp. -/
theorem toList_stamp (t : Instant) :
    t.stamp.toList = (Date.yearText t.date.year).toList ++
      '-' :: ((zeroPadded 2 t.date.month).toList ++
      '-' :: ((zeroPadded 2 t.date.day).toList ++
      'T' :: ((zeroPadded 2 (t.secondOfDay / 3600)).toList ++
      ':' :: ((zeroPadded 2 (t.secondOfDay / 60 % 60)).toList ++
      ':' :: ((zeroPadded 2 (t.secondOfDay % 60 + t.nanos / 1000000000)).toList ++ ['Z']))))) := by
  simp [stamp, Date.text, clock]

end Instant.Reading

namespace Instant

open Reading Text

/-- The second of a time is a time. -/
theorem ofParts?_whole {t : Instant} (valid : t.isValid = true) :
    ofParts? t.secs (t.nanos / 1000000000 * 1000000000) =
      some ⟨t.secs, t.nanos / 1000000000 * 1000000000⟩ := by
  have hvalid : isValid ⟨t.secs, t.nanos / 1000000000 * 1000000000⟩ = true := by
    simp only [isValid, Bool.and_eq_true, decide_eq_true_eq, Bool.or_eq_true, beq_iff_eq] at valid ⊢
    omega
  simp only [ofParts?, hvalid, if_true]

/-- **A time reads back as its second.**  A leap second stays one. -/
theorem ofText?_stamp {t : Instant} (valid : t.isValid = true) :
    ofText? t.stamp = some ⟨t.secs, t.nanos / 1000000000 * 1000000000⟩ := by
  have hplace := place?_stamp valid
  obtain ⟨hmonth, hday⟩ := Date.month_day_ofDay t.dayNumber
  have hmonth : t.date.month < 100 := Nat.lt_of_le_of_lt hmonth (by decide)
  have hday : t.date.day < 100 := Nat.lt_of_le_of_lt hday (by decide)
  have hsecond : t.secondOfDay < 86400 := by
    unfold secondOfDay
    omega
  have hnanos : t.nanos < 2000000000 := by
    simp only [isValid, Bool.and_eq_true, decide_eq_true_eq] at valid
    exact valid.1.2
  have minus : ∀ cs, ∀ c, ('-' :: cs).head? = some c → c.isDigit = false := head?_sign rfl
  have colon : ∀ cs, ∀ c, (':' :: cs).head? = some c → c.isDigit = false := head?_sign rfl
  have zulu : ∀ c, ['Z'].head? = some c → c.isDigit = false := head?_sign rfl _
  have letterT : ∀ cs, ∀ c, ('T' :: cs).head? = some c → c.isDigit = false := head?_sign rfl
  have afterMinus : ∀ cs, after? '-' ('-' :: cs) = some cs := after?_self rfl
  have afterColon : ∀ cs, after? ':' (':' :: cs) = some cs := after?_self rfl
  have between : ∀ cs, betweenParts? ('T' :: cs) = some cs := fun _ => rfl
  have ending : nanos? ['Z'] = some (0, ['Z']) ∧ offset? (unblank ['Z']) = some (0, []) ∧
      (unblank []).isEmpty = true := by decide
  have whole : ofParts? (t.secs - 0) (t.nanos / 1000000000 * 1000000000) =
      some ⟨t.secs, t.nanos / 1000000000 * 1000000000⟩ := by
    rw [Int.sub_zero]
    exact ofParts?_whole valid
  rw [ofText?, instant?, toList_stamp]
  simp only [year?_yearText _ (minus _), afterMinus, afterColon, between, Option.bind_some,
    Option.bind_eq_bind, pair?_zeroPadded hmonth (minus _), pair?_zeroPadded hday (letterT _),
    pair?_zeroPadded (by omega : t.secondOfDay / 3600 < 100) (colon _),
    pair?_zeroPadded (by omega : t.secondOfDay / 60 % 60 < 100) (colon _),
    pair?_zeroPadded (by omega : t.secondOfDay % 60 + t.nanos / 1000000000 < 100) zulu,
    ending, hplace, whole, Bool.not_true, Bool.false_eq_true, if_false]

end Instant

end SecretKeeper
