/-
Moments that have a text. The text of a moment has room for the years from 1
to 9999, and the calendar is counted from the first of March, in eras of 400
years. So the bounds lie inside an era, and not at the end of one: year 1
begins in the tenth month of the first year of an era, and year 9999 ends
where the tenth month of the last year of another one would begin
(`year_bounds_iff`). In seconds that comes to two numbers
(`exists_isoText_iff`).
-/
import Colloquy.Timestamp

namespace Colloquy

namespace Date

/-- The year of an era that a day of the era lies in, both counted from zero. A
year of an era begins in March. -/
def yearInEra (day : Nat) : Nat :=
  (day - day / 1460 + day / 36524 - day / 146096) / 365

/-- Whether a day of an era comes after the end of December, so that the year
of the calendar is the next one. -/
def isNewYear (day : Nat) : Bool :=
  let year := yearInEra day
  let month := (5 * (day - (365 * year + year / 4 - year / 100)) + 2) / 153
  (if month < 10 then month + 3 else month - 9) ≤ 2

/-- The first year of an era has 365 days. -/
theorem yearInEra_eq_zero_iff {day : Nat} :
    yearInEra day = 0 ↔ day < 365 := by
  unfold yearInEra
  constructor
  · intro h
    by_cases hlong : day < 1460
    · omega
    · have hleap : 2 * (day / 1460) ≤ day / 2 := by omega
      have hcommon : day / 146096 ≤ day / 36524 :=
        Nat.div_le_div_left (by decide) (by decide)
      omega
  · intro h
    omega

/-- The last one begins with day 145731. -/
theorem yearInEra_eq_last_iff {day : Nat} (h : day < 146097) :
    yearInEra day ≤ 399 ∧ (yearInEra day = 399 ↔ 145731 ≤ day) := by
  unfold yearInEra
  by_cases hend : day = 146096
  · subst hend
    decide
  -- the days that are taken out for leap years are known near the end only
  have hera : day / 146096 = 0 := by omega
  by_cases hlate : 146000 ≤ day
  · have hleap : day / 1460 = 100 := by omega
    have hcommon : day / 36524 = 3 := by omega
    omega
  by_cases hlast : 144540 ≤ day
  · have hleap : day / 1460 = 99 := by omega
    have hcommon : day / 36524 = 3 := by omega
    omega
  · have hleap : day / 1460 ≤ 99 := by omega
    have hcommon : day / 36524 ≤ 3 := by omega
    omega

/-- In the first year of an era January begins with day 306. -/
theorem isNewYear_first {day : Nat} (h : yearInEra day = 0) :
    isNewYear day = true ↔ 306 ≤ day := by
  have hday := yearInEra_eq_zero_iff.1 h
  unfold isNewYear
  rw [h]
  simp only [decide_eq_true_eq]
  split <;> omega

/-- In the last one it begins with day 146037. -/
theorem isNewYear_last {day : Nat} (hday : day < 146097)
    (h : yearInEra day = 399) : isNewYear day = true ↔ 146037 ≤ day := by
  have hlast := (yearInEra_eq_last_iff hday).2.1 h
  unfold isNewYear
  rw [h]
  simp only [decide_eq_true_eq]
  split <;> omega

/-- The year of a date (`ofDays`), by the era that the day lies in and its
number there. -/
theorem year_ofDays (days : Int) :
    ∃ (era : Int) (day : Nat), days + 719468 = era * 146097 + day
      ∧ day < 146097
      ∧ (ofDays days).year
        = yearInEra day + era * 400 + if isNewYear day then 1 else 0 := by
  have hera := Int.fdiv_eq_ediv_of_nonneg (days + 719468)
    (show (0 : Int) ≤ 146097 by decide)
  refine ⟨(days + 719468).fdiv 146097,
    (days + 719468 - (days + 719468).fdiv 146097 * 146097).toNat, ?_, ?_, ?_⟩
  · rw [hera]
    omega
  · rw [hera]
    omega
  · unfold ofDays isNewYear yearInEra
    simp only [decide_eq_true_eq]

/-- Which days have a year from 1 to 9999 (`ofDays`). -/
theorem year_bounds_iff (days : Int) :
    (1 ≤ (ofDays days).year ∧ (ofDays days).year ≤ 9999)
      ↔ -719162 ≤ days ∧ days ≤ 2932896 := by
  obtain ⟨era, day, hdays, hday, hyear⟩ := year_ofDays days
  have hzero := @yearInEra_eq_zero_iff day
  obtain ⟨hmost, hlast⟩ := yearInEra_eq_last_iff hday
  have hfirstNew := @isNewYear_first day
  have hlastNew := isNewYear_last hday
  rw [hyear]
  cases hnew : isNewYear day with
  | true =>
      rw [hnew] at hfirstNew hlastNew
      simp only [if_true, true_iff] at hfirstNew hlastNew ⊢
      omega
  | false =>
      rw [hnew] at hfirstNew hlastNew
      simp only [Bool.false_eq_true, if_false, false_iff]
        at hfirstNew hlastNew ⊢
      omega

end Date

namespace Timestamp

/-- The moment lies in one of the years from 1 to 9999. -/
def IsDated (t : Timestamp) : Prop :=
  -62135596800 ≤ t.seconds ∧ t.seconds < 253402300800

/-- A moment has an `isoText` just if it `IsDated`. -/
theorem exists_isoText_iff {t : Timestamp} :
    (∃ text, t.isoText = .ok text) ↔ t.IsDated := by
  have hbounds := Date.year_bounds_iff (t.seconds.fdiv 86400)
  have hdays := Int.fdiv_eq_ediv_of_nonneg t.seconds
    (show (0 : Int) ≤ 86400 by decide)
  have hdated : t.IsDated ↔ 1 ≤ t.date.year ∧ t.date.year ≤ 9999 := by
    unfold IsDated date
    rw [hbounds, hdays]
    omega
  rw [hdated]
  have hgreatest : greatestYear = 2147483647 := by decide
  unfold isoText
  rw [hgreatest]
  dsimp only
  by_cases hgreat : 2147483647 < t.date.year
  · rw [if_pos hgreat]
    exact ⟨nofun, fun h => by omega⟩
  rw [if_neg hgreat]
  by_cases hout : t.date.year < 1 ∨ 9999 < t.date.year
  · rw [if_pos hout]
    exact ⟨nofun, fun h => by omega⟩
  · rw [if_neg hout]
    exact ⟨fun _ => by omega, fun _ => ⟨_, rfl⟩⟩

end Timestamp
end Colloquy
