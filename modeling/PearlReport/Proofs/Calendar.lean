import PearlReport.Time.Instant

/-! Every day has one date: the date of a day is valid, and the day of that date is the same day.
A year counted from March is found through its century, its four years and its place in these. -/

namespace PearlReport.Time

/-- A day of an era by its century, its four years, its year in these and its day of that year. Only
the last of four years has 366 days, and of the last ones of a century only that of the era. -/
theorem exists_dayOfEra_parts {e : Int} (h : 0 ≤ e ∧ e ≤ 146096) :
    ∃ c q u d : Int, (0 ≤ c ∧ c ≤ 3) ∧ (0 ≤ q ∧ q ≤ 24) ∧ (0 ≤ u ∧ u ≤ 3) ∧
      (0 ≤ d ∧ d ≤ 365) ∧ (d = 365 → u = 3 ∧ (q = 24 → c = 3)) ∧
      e = 36524 * c + 1461 * q + 365 * u + d := by
  obtain ⟨c, hc⟩ : ∃ c, c = if e = 146096 then 3 else e / 36524 := ⟨_, rfl⟩
  obtain ⟨r, hr⟩ : ∃ r, r = e - 36524 * c := ⟨_, rfl⟩
  have hcr : 0 ≤ c ∧ c ≤ 3 ∧ 0 ≤ r ∧ r ≤ 36524 ∧ (r = 36524 → c = 3) := by
    split at hc <;> omega
  obtain ⟨u, hu⟩ : ∃ u, u = if r % 1461 = 1460 then 3 else r % 1461 / 365 := ⟨_, rfl⟩
  refine ⟨c, r / 1461, u, r % 1461 - 365 * u, ?_, ?_, ?_, ?_, ?_, ?_⟩
  all_goals split at hu <;> omega

theorem yearOfEra_parts {c q u d e : Int} (hc : 0 ≤ c ∧ c ≤ 3) (hq : 0 ≤ q ∧ q ≤ 24)
    (hu : 0 ≤ u ∧ u ≤ 3) (hd : 0 ≤ d ∧ d ≤ 365) (hl : d = 365 → u = 3 ∧ (q = 24 → c = 3))
    (he : e = 36524 * c + 1461 * q + 365 * u + d) :
    (e - e / 1460 + e / 36524 - e / 146096) / 365 = 100 * c + 4 * q + u := by
  have h₁ : e / 146096 = if e = 146096 then 1 else 0 := by split <;> omega
  have h₂ : e / 36524 = if e = 146096 then 4 else c := by split <;> omega
  have h₃ : e / 1460 =
      25 * c + q + (if 1460 ≤ 24 * c + q + 365 * u + d then 1 else 0) := by split <;> omega
  rw [h₁, h₂, h₃]
  split <;> split <;> omega

theorem exists_yearOfEra {e : Int} (h : 0 ≤ e ∧ e ≤ 146096) :
    ∃ y d : Int, (e - e / 1460 + e / 36524 - e / 146096) / 365 = y ∧
      e - (365 * y + y / 4 - y / 100) = d ∧ (0 ≤ y ∧ y ≤ 399) ∧ (0 ≤ d ∧ d ≤ 365) ∧
      (d = 365 → (y + 1) % 4 = 0 ∧ ((y + 1) % 100 = 0 → (y + 1) % 400 = 0)) := by
  obtain ⟨c, q, u, d, hc, hq, hu, hd, hl, he⟩ := exists_dayOfEra_parts h
  have hy := yearOfEra_parts hc hq hu hd hl he
  have h₄ : (100 * c + 4 * q + u) / 4 = 25 * c + q := by clear hy hl he; omega
  have h₁₀₀ : (100 * c + 4 * q + u) / 100 = c := by clear hy hl he h₄; omega
  refine ⟨100 * c + 4 * q + u, d, hy, ?_, ?_, hd, ?_⟩
  · rw [h₄, h₁₀₀, he]
    clear hy hl he h
    omega
  · clear hy hl he h
    omega
  · intro hd'
    obtain ⟨hu', hq'⟩ := hl hd'
    subst hu'
    clear hy hl he h h₄ h₁₀₀
    by_cases h24 : q = 24
    · have hc' := hq' h24
      omega
    · omega

theorem dayOfMonth_bounds {d m : Int} (hd : 0 ≤ d ∧ d ≤ 365) (hm : m = (5 * d + 2) / 153) :
    (0 ≤ m ∧ m ≤ 11) ∧ 1 ≤ d - (153 * m + 2) / 5 + 1 ∧ d - (153 * m + 2) / 5 + 1 ≤ 31 ∧
      (m = 1 ∨ m = 3 ∨ m = 6 ∨ m = 8 → d - (153 * m + 2) / 5 + 1 ≤ 30) ∧
      (m = 11 → d - (153 * m + 2) / 5 + 1 ≤ 29 ∧
        (d - (153 * m + 2) / 5 + 1 = 29 → d = 365)) := by
  have hr : 0 ≤ m ∧ m ≤ 11 := by omega
  refine ⟨hr, ?_, ?_, ?_, ?_⟩
  all_goals omega

def Date.ofParts (era y d : Int) : Date :=
  let m := (5 * d + 2) / 153
  let month := if m < 10 then m + 3 else m - 9
  ⟨if month ≤ 2 then y + era * 400 + 1 else y + era * 400, month.toNat,
    (d - (153 * m + 2) / 5 + 1).toNat⟩

theorem Date.ofDays_parts (n : Int) :
    ∃ era y d : Int, Date.ofDays n = Date.ofParts era y d ∧
      n + 719468 = era * 146097 + (365 * y + y / 4 - y / 100 + d) ∧ (0 ≤ y ∧ y ≤ 399) ∧
      (0 ≤ d ∧ d ≤ 365) ∧
      (d = 365 → (y + 1) % 4 = 0 ∧ ((y + 1) % 100 = 0 → (y + 1) % 400 = 0)) := by
  have he : 0 ≤ (n + 719468) % 146097 ∧ (n + 719468) % 146097 ≤ 146096 := by omega
  obtain ⟨y, d, hy, hd, hyr, hdr, hl⟩ := exists_yearOfEra he
  refine ⟨(n + 719468) / 146097, y, d, ?_, by omega, hyr, hdr, hl⟩
  simp only [Date.ofDays, Date.ofParts, hy, hd]

theorem Date.ofParts_valid {era y d : Int} (hd : 0 ≤ d ∧ d ≤ 365)
    (hl : d = 365 → (y + 1) % 4 = 0 ∧ ((y + 1) % 100 = 0 → (y + 1) % 400 = 0)) :
    (Date.ofParts era y d).Valid := by
  obtain ⟨m, hm⟩ : ∃ m, m = (5 * d + 2) / 153 := ⟨_, rfl⟩
  obtain ⟨hmr, h₁, h₂, h₃, h₄⟩ := dayOfMonth_bounds hd hm
  simp only [Date.ofParts, Date.Valid, ← hm]
  refine ⟨by split <;> omega, by split <;> omega, by omega, ?_⟩
  by_cases hf : m = 11
  · subst hf
    have h29 : d = 365 → isLeap (y + era * 400 + 1) = true := by
      intro h
      have h4 := hl h
      simp only [isLeap, Bool.or_eq_true, Bool.and_eq_true, beq_iff_eq, bne_iff_ne]
      omega
    have h5 := h₄ rfl
    cases hleap : isLeap (y + era * 400 + 1) with
    | true => simp [daysInMonth, hleap]; omega
    | false => simp [daysInMonth, hleap]; simp [hleap] at h29; omega
  · simp only [daysInMonth]
    repeat' split
    all_goals omega

theorem Date.ofParts_toDays {era y d : Int} (hy : 0 ≤ y ∧ y ≤ 399) (hd : 0 ≤ d ∧ d ≤ 365) :
    (Date.ofParts era y d).toDays = era * 146097 + (365 * y + y / 4 - y / 100 + d) - 719468 := by
  obtain ⟨m, hm⟩ : ∃ m, m = (5 * d + 2) / 153 := ⟨_, rfl⟩
  obtain ⟨hmr, h₁, h₂, -, -⟩ := dayOfMonth_bounds hd hm
  simp only [Date.ofParts, Date.toDays, ← hm]
  by_cases hf : m < 10
  · have h3 : ¬ (m + 3).toNat ≤ 2 := by omega
    have h3' : ¬ m + 3 ≤ 2 := by omega
    have h3'' : 2 < (m + 3).toNat := by omega
    simp only [hf, if_true, h3, h3', h3'', if_false]
    omega
  · have h9 : (m - 9).toNat ≤ 2 := by omega
    have h9' : m - 9 ≤ 2 := by omega
    have h9'' : ¬ 2 < (m - 9).toNat := by omega
    simp only [hf, if_false, h9, h9', h9'', if_true]
    omega

theorem daysInMonth_le (year : Int) (month : Nat) : daysInMonth year month ≤ 31 := by
  simp only [daysInMonth]
  repeat' split
  all_goals omega

theorem Date.ofDays_valid (n : Int) : (Date.ofDays n).Valid := by
  obtain ⟨era, y, d, h, -, -, hd, hl⟩ := Date.ofDays_parts n
  exact h ▸ Date.ofParts_valid hd hl

theorem Date.ofDays_toDays (n : Int) : (Date.ofDays n).toDays = n := by
  obtain ⟨era, y, d, h, hn, hy, hd, -⟩ := Date.ofDays_parts n
  rw [h, Date.ofParts_toDays hy hd, ← hn, Int.add_sub_cancel]

end PearlReport.Time
