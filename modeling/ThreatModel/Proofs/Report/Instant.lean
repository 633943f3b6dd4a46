import ThreatModel.Proofs.Number.Digits
import ThreatModel.Proofs.Text.Classes
import ThreatModel.Report.Instant

/-!
# Instants are read back from their texts

`Instant.ofText?_text` : the text of an instant is read as that instant, if the date is one of the
calendar and the time one of the day. The instants of a clock are such instants
(`Instant.wellFormed_ofNanoseconds`).

Reading moves an instant back by its offset from UTC, even if there is none, so a date goes through
its count of days; that this gives the date again is `Date.ofDays_toDays`. The numbers of a text
have zeros in front, and none of them takes a digit of what follows it (`Instant.number?_padded`).
-/

namespace ThreatModel

/-! ### Calendar -/

namespace Date

/-- The year of a date, if years began in March. -/
def marchYear (d : Date) : ℤ := if d.month ≤ 2 then d.year - 1 else d.year

/-- The days of such a year in front of a date. -/
def marchDay (d : Date) : ℕ := (153 * ((d.month + 9) % 12) + 2) / 5 + (d.day - 1)

theorem isValid_iff {d : Date} :
    d.isValid = true ↔
      1 ≤ d.month ∧ d.month ≤ 12 ∧ 1 ≤ d.day ∧ d.day ≤ daysInMonth d.year d.month := by
  simp [isValid, and_assoc]

theorem isLeapYear_iff {year : ℤ} :
    isLeapYear year = true ↔ year % 4 = 0 ∧ (year % 100 ≠ 0 ∨ year % 400 = 0) := by
  simp [isLeapYear]

theorem toDays_eq {d : Date} (h : 1 ≤ d.day) :
    d.toDays = 365 * d.marchYear + d.marchYear / 4 - d.marchYear / 100 + d.marchYear / 400 +
      d.marchDay := by
  simp only [toDays, marchYear, marchDay]
  omega

/-- Every month but the last one of such a year is followed by the next. -/
theorem marchDays_add_daysInMonth (year : ℤ) {month : ℕ} (h : 1 ≤ month) (h' : month ≤ 12)
    (hne : month ≠ 2) :
    (153 * ((month + 9) % 12) + 2) / 5 + daysInMonth year month =
      (153 * ((month + 9) % 12 + 1) + 2) / 5 := by
  have hall : ∀ month ≤ 12, 1 ≤ month → month ≠ 2 →
      (153 * ((month + 9) % 12) + 2) / 5 + (if [4, 6, 9, 11].contains month then 30 else 31) =
        (153 * ((month + 9) % 12 + 1) + 2) / 5 := by decide
  rw [daysInMonth, if_neg hne]
  exact hall month h' h hne

theorem daysInMonth_two (year : ℤ) :
    daysInMonth year 2 = if isLeapYear year then 29 else 28 := rfl

section

variable {d : Date} (h : d.isValid = true)

include h

theorem marchDay_bounds :
    (153 * ((d.month + 9) % 12) + 2) / 5 ≤ d.marchDay ∧
      d.marchDay < (153 * ((d.month + 9) % 12 + 1) + 2) / 5 := by
  obtain ⟨hlow, hhigh, hday, hlen⟩ := isValid_iff.1 h
  rw [marchDay]
  rcases eq_or_ne d.month 2 with hmonth | hne
  · rw [hmonth, daysInMonth_two] at hlen
    rw [hmonth]
    split_ifs at hlen <;> omega
  · have := marchDays_add_daysInMonth d.year hlow hhigh hne
    omega

/-- The last day before March is there in leap years only. -/
theorem marchDay_le :
    d.marchDay ≤ 364 ∨ d.marchDay = 365 ∧ isLeapYear (d.marchYear + 1) = true := by
  obtain ⟨hlow, hhigh, hday, hlen⟩ := isValid_iff.1 h
  rcases eq_or_ne d.month 2 with hmonth | hne
  · simp only [marchDay, marchYear, hmonth, le_refl, if_true, sub_add_cancel]
    rw [hmonth, daysInMonth_two] at hlen
    split_ifs at hlen with hleap
    · exact (Nat.lt_or_eq_of_le (show _ ≤ 365 by omega)).imp (by omega) (⟨·, hleap⟩)
    · omega
  · have := (marchDay_bounds h).2
    omega

/-- The month is found from the day. -/
theorem month_eq : (5 * d.marchDay + 2) / 153 = (d.month + 9) % 12 := by
  have := marchDay_bounds h
  omega

end

/-- Centuries, groups of four years, years and days inside four hundred years: the last year of four
is a day longer, but that of a century is so only in the last century. -/
structure InEra (c k j n : ℕ) : Prop where
  centuries : c < 4
  groups : k < 25
  years : j < 4
  days : n ≤ 364 ∨ n = 365 ∧ j = 3 ∧ (k = 24 → c = 3)

section

variable {c k j n : ℕ} (h : InEra c k j n)

include h

/-- The year is found from the day. -/
theorem yearOfEra_eq {e : ℕ} (he : e = 36524 * c + 1461 * k + 365 * j + n) :
    (e - e / 1460 + e / 36524 - e / 146096) / 365 = 100 * c + 4 * k + j := by
  obtain ⟨hc, hk, hj, hn⟩ := h
  have hgroups : e / 1460 = 25 * c + k + (24 * c + k + 365 * j + n) / 1460 := by omega
  rcases hn with hn | ⟨rfl, rfl, hlast⟩
  · have hcenturies : e / 36524 = c := by omega
    have hera : e / 146096 = 0 := by omega
    rw [hera, hcenturies, hgroups]
    omega
  · rcases Nat.lt_or_ge k 24 with hk' | hk'
    · have hcenturies : e / 36524 = c := by omega
      have hera : e / 146096 = 0 := by omega
      rw [hera, hcenturies, hgroups]
      omega
    · obtain rfl : k = 24 := by omega
      obtain rfl := hlast rfl
      rw [he]

/-- The date on a day of a year, four hundred years apart. -/
theorem ofDays_eq (q : ℤ) :
    ofDays (146097 * q + (36524 * c + 1461 * k + 365 * j + n : ℕ)) =
      let m := (5 * n + 2) / 153
      let month := if m < 10 then m + 3 else m - 9
      ⟨q * 400 + (100 * c + 4 * k + j : ℕ) + if month ≤ 2 then 1 else 0, month,
        n - (153 * m + 2) / 5 + 1⟩ := by
  have hyear := yearOfEra_eq h rfl
  obtain ⟨hc, hk, hj, hn⟩ := h
  have hdays : 365 * (100 * c + 4 * k + j) + (100 * c + 4 * k + j) / 4 -
      (100 * c + 4 * k + j) / 100 = 36524 * c + 1461 * k + 365 * j := by
    omega
  generalize he : 36524 * c + 1461 * k + 365 * j + n = e at hyear ⊢
  have hera : (146097 * q + (e : ℤ)) / 146097 = q := by omega
  have hrest : ((146097 * q + (e : ℤ)) % 146097).toNat = e := by omega
  have hday : e - (36524 * c + 1461 * k + 365 * j) = n := by omega
  simp only [ofDays, hera, hrest, hyear, hdays, hday]

end

/-- **A date is found from its count of days.** -/
theorem ofDays_toDays {d : Date} (h : d.isValid = true) : ofDays d.toDays = d := by
  obtain ⟨hlow, hhigh, hday, -⟩ := isValid_iff.1 h
  -- The year in its four hundred years: centuries, groups of four years, and years.
  obtain ⟨q, c, k, j, hc, hk, hj, hyear⟩ : ∃ (q : ℤ) (c k j : ℕ), c < 4 ∧ k < 25 ∧ j < 4 ∧
      d.marchYear = 400 * q + (100 * c + 4 * k + j : ℕ) :=
    ⟨d.marchYear / 400, (d.marchYear % 400 / 100).toNat, (d.marchYear % 100 / 4).toNat,
      (d.marchYear % 4).toNat, by omega, by omega, by omega, by omega⟩
  have hera : InEra c k j d.marchDay := by
    refine ⟨hc, hk, hj, (marchDay_le h).imp_right fun ⟨hn, hleap⟩ => ?_⟩
    rw [isLeapYear_iff, hyear] at hleap
    omega
  have hdays : d.toDays = 146097 * q + (36524 * c + 1461 * k + 365 * j + d.marchDay : ℕ) := by
    rw [toDays_eq hday, hyear]
    omega
  have hmonth : (if (d.month + 9) % 12 < 10 then (d.month + 9) % 12 + 3
      else (d.month + 9) % 12 - 9) = d.month := by
    split <;> omega
  have hdayOf : d.marchDay - (153 * ((d.month + 9) % 12) + 2) / 5 + 1 = d.day := by
    rw [marchDay]
    omega
  have hyearOf : q * 400 + (100 * c + 4 * k + j : ℕ) + (if d.month ≤ 2 then 1 else 0) = d.year := by
    rw [marchYear] at hyear
    split_ifs at hyear ⊢ <;> omega
  rw [hdays, ofDays_eq hera]
  simp only [month_eq h, hmonth, hdayOf, hyearOf]

/-- Every count of days has a year, four hundred years apart, and a day in it. -/
theorem exists_parts (n : ℤ) :
    ∃ (q : ℤ) (c k j l : ℕ), InEra c k j l ∧
      n = 146097 * q + (36524 * c + 1461 * k + 365 * j + l : ℕ) := by
  -- The last century is a day longer, and so is the last year of four.
  obtain ⟨e, he, hn⟩ : ∃ e : ℕ, e < 146097 ∧ n = 146097 * (n / 146097) + e :=
    ⟨(n % 146097).toNat, by omega, by omega⟩
  obtain ⟨c, f, hc, hf, he'⟩ : ∃ c f : ℕ, c < 4 ∧ (f < 36524 ∨ f = 36524 ∧ c = 3) ∧
      e = 36524 * c + f :=
    ⟨min (e / 36524) 3, e - 36524 * min (e / 36524) 3, by omega, by omega, by omega⟩
  obtain ⟨k, g, hk, hg, hf'⟩ : ∃ k g : ℕ, k < 25 ∧ g < 1461 ∧ f = 1461 * k + g :=
    ⟨f / 1461, f % 1461, by omega, by omega, by omega⟩
  obtain ⟨j, l, hj, hl, hg'⟩ : ∃ j l : ℕ, j < 4 ∧ (l < 365 ∨ l = 365 ∧ j = 3) ∧ g = 365 * j + l :=
    ⟨min (g / 365) 3, g - 365 * min (g / 365) 3, by omega, by omega, by omega⟩
  exact ⟨n / 146097, c, k, j, l, ⟨hc, hk, hj, by omega⟩, by omega⟩

/-- The last month of such a year ends with the year, and the others with the next one. -/
theorem isValid_ofDays (n : ℤ) : (ofDays n).isValid = true := by
  obtain ⟨q, c, k, j, l, hera, rfl⟩ := exists_parts n
  rw [ofDays_eq hera, isValid_iff]
  obtain ⟨hc, hk, hj, hl⟩ := hera
  dsimp only
  generalize hm : (5 * l + 2) / 153 = m
  have hm' : m < 12 := by omega
  generalize hmonth : (if m < 10 then m + 3 else m - 9) = month
  have hlow : 1 ≤ month ∧ month ≤ 12 ∧ (month + 9) % 12 = m := by
    split_ifs at hmonth <;> omega
  refine ⟨hlow.1, hlow.2.1, by omega, ?_⟩
  rcases eq_or_ne month 2 with rfl | hne
  · obtain rfl : m = 11 := by omega
    rw [daysInMonth_two, if_pos (le_refl 2)]
    split_ifs with hleap
    · omega
    · rw [isLeapYear_iff] at hleap
      omega
  · have := marchDays_add_daysInMonth
      (q * 400 + (100 * c + 4 * k + j : ℕ) + if month ≤ 2 then 1 else 0) hlow.1 hlow.2.1 hne
    rw [hlow.2.2] at this
    omega

theorem year_ofDays {n : ℤ} (hn : 0 ≤ n) :
    0 ≤ (ofDays n).year ∧ 365 * (ofDays n).year ≤ n + 365 := by
  obtain ⟨q, c, k, j, l, hera, rfl⟩ := exists_parts n
  rw [ofDays_eq hera]
  obtain ⟨hc, hk, hj, hl⟩ := hera
  dsimp only
  generalize (5 * l + 2) / 153 = m
  split_ifs <;> omega

end Date

/-! ### Texts -/

namespace Instant

variable {width n : ℕ} {r : List Char}

theorem isDigit_of_mem_padded {c : Char} (h : c ∈ padded width n) : c.isDigit = true := by
  rcases List.mem_append.1 h with h | h
  · rw [(List.mem_replicate.1 h).2]
    rfl
  · exact isDigit_of_mem_digitText h

theorem padded_ne_nil (width n : ℕ) : padded width n ≠ [] :=
  List.append_ne_nil_of_right_ne_nil _ (digitText_ne_nil n)

@[simp] theorem ofDigits_padded (width n : ℕ) : ofDigits (padded width n) = n := by
  rw [ofDigits_eq, padded, Nat.ofDigitChars_append, Nat.ofDigitChars_replicate_zero, Nat.mul_zero,
    ofDigitChars_digitText]

theorem length_padded (hw : 0 < width) (h : n < 10 ^ width) : (padded width n).length = width := by
  have := length_digitText_le hw h
  rw [padded, List.length_append, List.length_replicate]
  omega

/-- A digit stands in front of a number. -/
theorem exists_padded_eq (width n : ℕ) :
    ∃ c ds, padded width n = c :: ds ∧ c.isDigit = true := by
  obtain ⟨c, ds, h⟩ := List.exists_cons_of_ne_nil (padded_ne_nil width n)
  exact ⟨c, ds, h, isDigit_of_mem_padded (h ▸ List.mem_cons_self)⟩

theorem trimStart_padded (width n : ℕ) (r : List Char) :
    Text.trimStart (padded width n ++ r) = padded width n ++ r := by
  obtain ⟨c, ds, h, hc⟩ := exists_padded_eq width n
  rw [h, List.cons_append, Text.trimStart_cons_of_not_blank (Text.not_isBlank_of_isDigit hc)]

theorem takeWhile_padded (hr : ∀ c ∈ r.head?, c.isDigit = false) :
    (padded width n ++ r).takeWhile Char.isDigit = padded width n :=
  takeWhile_isDigit_append (fun _ => isDigit_of_mem_padded) hr

/-- A number is read back, whatever follows it. -/
theorem number?_padded (hw : 0 < width) (h : n < 10 ^ width) (r : List Char) :
    number? width (padded width n ++ r) = some (n, r) := by
  have hlen := length_padded hw h
  have htake : ((padded width n ++ r).take width).takeWhile Char.isDigit = padded width n := by
    rw [List.take_left' hlen]
    simpa using takeWhile_padded (r := [])
  simp only [number?, trimStart_padded, htake, List.isEmpty_iff, padded_ne_nil, if_false,
    ofDigits_padded, List.drop_left]

/-! ### Parts of an instant -/

theorem after?_cons {mark : Char} (h : Text.isBlank mark = false) (r : List Char) :
    after? mark (mark :: r) = some r := by
  rw [after?, Text.trimStart_cons_of_not_blank h]
  exact if_pos rfl

theorem signed_padded (hr : ∀ c ∈ r.head?, c.isDigit = false) (sign : ℕ → ℤ) :
    year?.signed (padded width n ++ r) sign = some (sign n, r) := by
  simp only [year?.signed, takeWhile_padded hr, List.isEmpty_iff, padded_ne_nil, if_false,
    ofDigits_padded, List.drop_left]

/-- A year of four digits is read without a sign. -/
theorem year?_padded (h : n < 10 ^ 4) (r : List Char) :
    year? (padded 4 n ++ r) = some ((n : ℤ), r) := by
  have hnumber := number?_padded (by decide) h r
  obtain ⟨c, ds, hds, hc⟩ := exists_padded_eq 4 n
  -- A sign is no digit.
  have hne {sign : Char} {l : List Char} (hsign : sign.isDigit = false) :
      c :: (ds ++ r) = sign :: l → False := by
    rintro ⟨rfl, -⟩
    rw [hc] at hsign
    cases hsign
  rw [year?, trimStart_padded]
  rw [hds, List.cons_append] at hnumber ⊢
  split
  · next he => exact (hne rfl he).elim
  · next he => exact (hne rfl he).elim
  · rw [hnumber]
    rfl

theorem year?_yearText (y : ℤ) (hr : ∀ c ∈ r.head?, c.isDigit = false) :
    year? (yearText y ++ r) = some (y, r) := by
  unfold yearText
  split_ifs with hneg hsmall
  · rw [List.cons_append, year?, Text.trimStart_cons_of_not_blank rfl]
    refine (signed_padded hr fun n : ℕ => -(n : ℤ)).trans ?_
    rw [show -(y.natAbs : ℤ) = y by omega]
  · rw [year?_padded (by omega), show (y.natAbs : ℤ) = y by omega]
  · rw [List.cons_append, year?, Text.trimStart_cons_of_not_blank rfl]
    refine (signed_padded hr fun n : ℕ => (n : ℤ)).trans ?_
    rw [show (y.natAbs : ℤ) = y by omega]

/-- Digits behind the point are the first digits of nine. -/
theorem fraction?_padded {k : ℕ} (hw : 0 < width) (hk : width + k = 9) (h : n < 10 ^ width)
    (hr : ∀ c ∈ r.head?, c.isDigit = false) :
    fraction? ('.' :: (padded width n ++ r)) = some (n * 10 ^ k, r) := by
  have hlen := length_padded hw h
  have htake : (padded width n).take 9 = padded width n := List.take_of_length_le (by omega)
  have hrest : 9 - width = k := by omega
  simp only [fraction?, takeWhile_padded hr, List.isEmpty_iff, padded_ne_nil, if_false, htake,
    ofDigits_padded, List.drop_left, Nat.pow_eq]
  rw [hlen, hrest]

theorem fraction?_fractionText (h : n < 10 ^ 9) (r : List Char) :
    fraction? (fractionText n ++ 'Z' :: r) = some (n, 'Z' :: r) := by
  have hr : ∀ c ∈ ('Z' :: r).head?, c.isDigit = false := by simp
  unfold fractionText
  split_ifs with hzero hmilli hmicro
  · rw [hzero]
    rfl
  · rw [List.cons_append, fraction?_padded (by decide) (show 3 + 6 = 9 from rfl) (by omega) hr,
      show n / 1000000 * 10 ^ 6 = n by omega]
  · rw [List.cons_append, fraction?_padded (by decide) (show 6 + 3 = 9 from rfl) (by omega) hr,
      show n / 1000 * 10 ^ 3 = n by omega]
  · rw [List.cons_append, fraction?_padded (by decide) (show 9 + 0 = 9 from rfl) h hr, pow_zero,
      Nat.mul_one]

/-! ### Instants -/

/-- A date of the calendar, not too far away, and a time of its day. -/
structure WellFormed (t : Instant) : Prop where
  date : t.date.isValid = true
  year : t.date.year.natAbs ≤ maxYear
  minute : t.minute < 1440
  second : t.second ≤ 60
  nanosecond : t.nanosecond < 10 ^ 9

theorem back_zero {t : Instant} (hdate : t.date.isValid = true) (hminute : t.minute < 1440) :
    back 0 t = t := by
  have hday : ((t.minute : ℤ) - 0) / 1440 = 0 := by omega
  have hrest : (((t.minute : ℤ) - 0) % 1440).toNat = t.minute := by omega
  simp only [back, hday, hrest, add_zero, Date.ofDays_toDays hdate]

theorem daysInMonth_le (year : ℤ) (month : ℕ) : Date.daysInMonth year month ≤ 31 := by
  unfold Date.daysInMonth
  split_ifs <;> decide

/-- **An instant is read back from its text.** -/
theorem ofText?_text {t : Instant} (h : t.WellFormed) : ofText? t.text = some t := by
  obtain ⟨hmonth, hmonth', hday, hday'⟩ := Date.isValid_iff.1 h.date
  have hlen := daysInMonth_le t.date.year t.date.month
  have hminute := h.minute
  have hsecond := h.second
  have hyear : ¬ maxYear < t.date.year.natAbs := Nat.not_lt.2 h.year
  have hnumber {n : ℕ} (hn : n < 100) (r : List Char) : number? 2 (padded 2 n ++ r) = some (n, r) :=
    number?_padded (by decide) hn r
  rw [text]
  simp only [List.append_assoc, List.cons_append]
  -- Each part is read, and leaves the next one.
  refine Option.bind_eq_some_iff.2 ⟨_, year?_yearText _ (by simp), ?_⟩
  refine Option.bind_eq_some_iff.2 ⟨_, after?_cons rfl _, ?_⟩
  refine Option.bind_eq_some_iff.2 ⟨_, hnumber (by omega) _, ?_⟩
  refine Option.bind_eq_some_iff.2 ⟨_, after?_cons rfl _, ?_⟩
  refine Option.bind_eq_some_iff.2 ⟨_, hnumber (by omega) _, ?_⟩
  refine Option.bind_eq_some_iff.2 ⟨_, rfl, ?_⟩
  refine Option.bind_eq_some_iff.2 ⟨_, hnumber (by omega) _, ?_⟩
  refine Option.bind_eq_some_iff.2 ⟨_, after?_cons rfl _, ?_⟩
  refine Option.bind_eq_some_iff.2 ⟨_, hnumber (by omega) _, ?_⟩
  refine Option.bind_eq_some_iff.2 ⟨_, after?_cons rfl _, ?_⟩
  refine Option.bind_eq_some_iff.2 ⟨_, hnumber (by omega) _, ?_⟩
  refine Option.bind_eq_some_iff.2 ⟨_, fraction?_fractionText h.nanosecond _, ?_⟩
  refine Option.bind_eq_some_iff.2 ⟨(0, []), rfl, ?_⟩
  have htime : 60 * (t.minute / 60) + t.minute % 60 = t.minute := Nat.div_add_mod _ _
  dsimp only
  rw [if_neg, htime]
  · exact congrArg some (back_zero h.date h.minute)
  · simp only [h.date, List.all_nil, Bool.not_true, Bool.false_or, Bool.or_false, Bool.or_eq_true,
      decide_eq_true_eq, not_or]
    omega

/-- **The instants of a clock with nanoseconds of 64 bits are such instants.** -/
theorem wellFormed_ofNanoseconds {n : ℤ} (h : n.natAbs < 2 ^ 63) :
    (ofNanoseconds n).WellFormed where
  date := Date.isValid_ofDays _
  year := by
    have hepoch : epoch.date.toDays = 719468 := by decide
    have hbounds := Date.year_ofDays (show 0 ≤ 719468 + n / 1000000000 / 86400 by omega)
    rw [ofNanoseconds, hepoch, maxYear]
    dsimp only
    omega
  minute := by
    dsimp only [ofNanoseconds]
    omega
  second := by
    dsimp only [ofNanoseconds]
    omega
  nanosecond := by
    dsimp only [ofNanoseconds]
    omega

end Instant

end ThreatModel
