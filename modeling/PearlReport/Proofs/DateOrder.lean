import PearlReport.Proofs.Calendar

/-! The order of the calendar is the order of days. Days are counted by years that begin in March,
which no month runs across and whose last day is the leap day. -/

namespace PearlReport.Time

/-- The day on which a year counted from March begins. -/
def yearStart (y : Int) : Int := 365 * y + y / 4 - y / 100 + y / 400 - 719468

theorem yearStart_succ (y : Int) :
    yearStart (y + 1) = yearStart y + 365 + if isLeap (y + 1) then 1 else 0 := by
  have hleap : isLeap (y + 1) = true ↔
      (y + 1) % 4 = 0 ∧ (y + 1) % 100 ≠ 0 ∨ (y + 1) % 400 = 0 := by
    simp only [isLeap, Bool.or_eq_true, Bool.and_eq_true, beq_iff_eq, bne_iff_ne]
  simp only [yearStart, hleap]
  split <;> omega

theorem yearStart_mono {y z : Int} (h : y ≤ z) : yearStart y ≤ yearStart z := by
  simp only [yearStart]
  omega

namespace Date

def marchYear (d : Date) : Int := if d.month ≤ 2 then d.year - 1 else d.year

def marchMonth (d : Date) : Int := if 2 < d.month then (d.month : Int) - 3 else (d.month : Int) + 9

def dayOfYear (d : Date) : Int := (153 * d.marchMonth + 2) / 5 + d.day - 1

theorem toDays_eq (d : Date) : d.toDays = yearStart d.marchYear + d.dayOfYear := by
  have h (y : Int) : y / 400 * 146097 + (y % 400 * 365 + y % 400 / 4 - y % 400 / 100) - 719468 =
      yearStart y := by
    simp only [yearStart]
    omega
  rw [← h]
  simp only [toDays, marchYear, marchMonth, dayOfYear]
  omega

theorem march_cases (d : Date) :
    2 < d.month ∧ d.marchYear = d.year ∧ d.marchMonth = (d.month : Int) - 3 ∨
      d.month ≤ 2 ∧ d.marchYear = d.year - 1 ∧ d.marchMonth = (d.month : Int) + 9 := by
  simp only [marchYear, marchMonth]
  by_cases h : d.month ≤ 2
  · rw [if_pos h, if_neg (by omega)]
    exact .inr ⟨h, rfl, rfl⟩
  · rw [if_neg h, if_pos (by omega)]
    exact .inl ⟨by omega, rfl, rfl⟩

variable {a b d : Date}

theorem Valid.day_le (h : d.Valid) (hm : d.marchMonth ≤ 10) :
    (153 * d.marchMonth + 2) / 5 + d.day ≤ (153 * (d.marchMonth + 1) + 2) / 5 := by
  obtain ⟨h₁, h₂, h₃, h₄⟩ := h
  have hmonth := d.march_cases
  rw [daysInMonth, if_neg (by omega)] at h₄
  -- months of 30 and 31 days take turns but in July and August
  have hhalf : d.month ≤ 7 ∨ 8 ≤ d.month := by omega
  split at h₄ <;> rcases hhalf with hhalf | hhalf <;> omega

theorem Valid.toDays_bounds (h : d.Valid) :
    yearStart d.marchYear ≤ d.toDays ∧ d.toDays < yearStart (d.marchYear + 1) := by
  have hmonth := d.march_cases
  have hday := h.2.2.1
  rw [toDays_eq, yearStart_succ, dayOfYear]
  by_cases hm : d.marchMonth ≤ 10
  · have hle := h.day_le hm
    have hmr : 0 ≤ d.marchMonth := by have h₁ := h.1; omega
    split <;> omega
  · have hf : d.month = 2 ∧ d.marchMonth = 11 ∧ d.marchYear + 1 = d.year := by
      have h₂ := h.2.1
      omega
    have h₄ := h.2.2.2
    rw [daysInMonth, if_pos hf.1] at h₄
    rw [hf.2.1, hf.2.2]
    cases hleap : isLeap d.year <;> simp [hleap] at h₄ ⊢ <;> omega

def Before (a b : Date) : Prop :=
  a.year < b.year ∨ a.year = b.year ∧ (a.month < b.month ∨ a.month = b.month ∧ a.day < b.day)

theorem before_or_eq (a b : Date) : a.Before b ∨ a = b ∨ b.Before a := by
  have h : a = b ↔ a.year = b.year ∧ a.month = b.month ∧ a.day = b.day := by
    cases a
    cases b
    simp
  simp only [Before, h]
  omega

theorem Before.toDays_lt (hab : a.Before b) (ha : a.Valid) (hb : b.Valid) :
    a.toDays < b.toDays := by
  have hma := a.march_cases
  have hmb := b.march_cases
  have hbounds : a.month ≤ 12 ∧ 1 ≤ b.month ∧ b.month ≤ 12 := ⟨ha.2.1, hb.1, hb.2.1⟩
  have hy : a.marchYear < b.marchYear ∨ a.marchYear = b.marchYear ∧
      (a.marchMonth < b.marchMonth ∨ a.marchMonth = b.marchMonth ∧ a.day < b.day) := by
    simp only [Before] at hab
    omega
  rcases hy with hy | ⟨hy, hm | ⟨hm, hd⟩⟩
  · have hle := yearStart_mono (Int.add_one_le_of_lt hy)
    exact Int.lt_of_lt_of_le ha.toDays_bounds.2 (Int.le_trans hle hb.toDays_bounds.1)
  · have hle := ha.day_le (by omega)
    have hday := hb.2.2.1
    rw [toDays_eq, toDays_eq, hy, dayOfYear, dayOfYear]
    omega
  · rw [toDays_eq, toDays_eq, hy, dayOfYear, dayOfYear, hm]
    omega

theorem ofDays_before {m n : Int} (h : m < n) : (ofDays m).Before (ofDays n) := by
  rcases before_or_eq (ofDays m) (ofDays n) with hb | he | hb
  · exact hb
  · have hd := congrArg toDays he
    rw [ofDays_toDays, ofDays_toDays] at hd
    omega
  · have hd := hb.toDays_lt (ofDays_valid n) (ofDays_valid m)
    rw [ofDays_toDays, ofDays_toDays] at hd
    omega

theorem ofDays_year_mono {m n : Int} (h : m ≤ n) : (ofDays m).year ≤ (ofDays n).year := by
  rcases Int.lt_or_eq_of_le h with hlt | rfl
  · have hb := ofDays_before hlt
    simp only [Before] at hb
    omega
  · exact Int.le_refl _

end Date

end PearlReport.Time
