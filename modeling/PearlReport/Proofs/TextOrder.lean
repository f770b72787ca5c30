import PearlReport.Proofs.DateOrder
import PearlReport.Proofs.RoundTrip

/-! Order of time and order of texts. Numbers of fixed widths are ordered as their digits are, so
where years have four digits the texts of instants are ordered as the instants. -/

namespace PearlReport

namespace Decimal

theorem digitChar_lt {m n : Nat} (h : m % 10 < n % 10) : digitChar m < digitChar n := by
  have hdigits : ∀ r < 10, ∀ s < 10, r < s → Char.ofNat (48 + r) < Char.ofNat (48 + s) := by decide
  exact hdigits _ (Nat.mod_lt _ (by decide)) _ (Nat.mod_lt _ (by decide)) h

theorem padded_lt {width m n : Nat} (h : m < n) (hn : n < 10 ^ width) (xs ys : List Char) :
    padded width m ++ xs < padded width n ++ ys := by
  induction width generalizing m n xs ys with
  | zero =>
    rw [Nat.pow_zero] at hn
    omega
  | succ width ih =>
    rw [Nat.pow_succ] at hn
    rw [padded, padded, List.append_assoc, List.append_assoc, List.singleton_append,
      List.singleton_append]
    by_cases hten : m / 10 < n / 10
    · exact ih hten (by omega) _ _
    · -- the digits before the last one are the same
      have hsame : m / 10 = n / 10 := by omega
      rw [hsame]
      exact List.append_left_lt (List.cons_lt_cons_iff.2 (.inl (digitChar_lt (by omega))))

def columns : List (Nat × Char) → List Nat → List Char
  | (width, c) :: ps, n :: ns => padded width n ++ c :: columns ps ns
  | _, _ => []

theorem append_lt_cancel (as : List Char) {xs ys : List Char} (h : as ++ xs < as ++ ys) :
    xs < ys := by
  induction as with
  | nil => exact h
  | cons a as ih =>
    rcases List.cons_lt_cons_iff.1 h with ha | ⟨-, hs⟩
    · exact absurd ha (Char.lt_irrefl a)
    · exact ih hs

theorem lt_of_columns_lt {ps : List (Nat × Char)} {ns ms : List Nat}
    (hn : List.Forall₂ (fun p n => n < 10 ^ p.1) ps ns) (hlen : ms.length = ns.length)
    (h : columns ps ns < columns ps ms) : ns < ms := by
  induction hn generalizing ms with
  | nil =>
    cases ms with
    | nil => exact absurd h (List.not_lt_nil _)
    | cons m ms => cases hlen
  | cons hn _ ih =>
    rename_i p n ps ns _
    cases ms with
    | nil => cases hlen
    | cons m ms =>
      rw [columns, columns] at h
      rw [List.cons_lt_cons_iff]
      rcases Nat.lt_trichotomy n m with hlt | rfl | hgt
      · exact .inl hlt
      · refine .inr ⟨rfl, ih (Nat.succ.inj hlen) ?_⟩
        rcases List.cons_lt_cons_iff.1 (append_lt_cancel _ h) with hc | ⟨-, hs⟩
        · exact absurd hc (Char.lt_irrefl p.2)
        · exact hs
      · exact absurd h (List.lt_asymm (padded_lt hgt hn _ _))

end Decimal

namespace Time

namespace Instant

variable {a b c : Instant}

theorem compare_eq_lt : a.compare b = .lt ↔
    a.secs < b.secs ∨ a.secs = b.secs ∧ a.nanos < b.nanos := by
  rw [compare]
  repeat' split
  all_goals simp
  all_goals omega

theorem compare_eq_gt : a.compare b = .gt ↔ b.compare a = .lt := by
  rw [compare_eq_lt, compare]
  repeat' split
  all_goals simp
  all_goals omega

theorem compare_ne_gt : a.compare b ≠ .gt ↔
    a.secs < b.secs ∨ a.secs = b.secs ∧ a.nanos ≤ b.nanos := by
  rw [ne_eq, compare_eq_gt, compare_eq_lt]
  omega

theorem sort_pairwise (ts : List Instant) :
    (sort ts).Pairwise fun a b => a.compare b ≠ .gt := by
  have hle (a b : Instant) : (a.compare b != .gt) = true ↔
      a.secs < b.secs ∨ a.secs = b.secs ∧ a.nanos ≤ b.nanos := by
    rw [bne_iff_ne, compare_ne_gt]
  have htrans (a b c : Instant) (hab : (a.compare b != .gt) = true)
      (hbc : (b.compare c != .gt) = true) : (a.compare c != .gt) = true := by
    rw [hle] at hab hbc ⊢
    omega
  have htotal (a b : Instant) : (a.compare b != .gt || b.compare a != .gt) = true := by
    rw [Bool.or_eq_true, hle, hle]
    omega
  have hsorted : (sort ts).Pairwise fun a b => (a.compare b != .gt) = true :=
    List.pairwise_mergeSort htrans htotal ts
  exact hsorted.imp bne_iff_ne.1

def parts (t : Instant) : List Nat :=
  [t.date.year.toNat, t.date.month, t.date.day, t.hour, t.minute, t.second, t.millis]

def partColumns : List (Nat × Char) :=
  [(4, '-'), (2, '-'), (2, 'T'), (2, ':'), (2, ':'), (2, '.'), (3, 'Z')]

theorem write_columns {t : Instant} (h : t.FourDigitYear) :
    Layout.write t = Decimal.columns partColumns t.parts := by
  rw [Layout.write, Layout.yearText_plain h]
  rfl

theorem parts_small {t : Instant} (h : t.FourDigitYear) :
    List.Forall₂ (fun p n => n < 10 ^ p.1) partColumns t.parts := by
  obtain ⟨-, hy⟩ := h
  obtain ⟨-, hm, -, hd⟩ : t.date.Valid := Date.ofDays_valid _
  have hd31 := daysInMonth_le t.date.year t.date.month
  have hhour := t.hour_lt
  have hminute := t.minute_lt
  have hsecond := t.second_le
  have hmillis := t.millis_lt
  refine .cons ?_ (.cons ?_ (.cons ?_ (.cons ?_ (.cons ?_ (.cons ?_ (.cons ?_ .nil))))))
  all_goals
    simp only [Nat.reducePow]
    omega

theorem secs_eq (t : Instant) : t.secs = t.secs / 86400 * 86400 + t.secondOfDay := by
  simp only [secondOfDay]
  omega

/-- On one day the clock decides. A leap second shows as second 60, after all others of its minute. -/
theorem compare_of_clock_lt (hday : a.secs / 86400 = b.secs / 86400)
    (h : a.hour < b.hour ∨ a.hour = b.hour ∧ (a.minute < b.minute ∨ a.minute = b.minute ∧
      (a.second < b.second ∨ a.second = b.second ∧ a.millis < b.millis))) :
    a.compare b = .lt := by
  have ha := a.secs_eq
  have hb := b.secs_eq
  have hna := a.nanos_lt
  have hnb := b.nanos_lt
  have hsa := a.second_cases
  have hsb := b.second_cases
  rw [compare_eq_lt, ha, hb, hday]
  simp only [hour, minute, millis] at h
  omega

theorem compare_of_parts_lt (ha : a.FourDigitYear) (hb : b.FourDigitYear) (h : a.parts < b.parts) :
    a.compare b = .lt := by
  have hya := ha.1
  have hyb := hb.1
  simp only [parts, List.cons_lt_cons_iff, List.not_lt_nil, and_false, or_false] at h
  rcases Int.lt_trichotomy (a.secs / 86400) (b.secs / 86400) with hlt | heq | hgt
  · have hsa := a.secondOfDay_lt
    rw [compare_eq_lt, a.secs_eq, b.secs_eq]
    omega
  · have hdate : a.date = b.date := by rw [date, date, heq]
    rw [hdate] at h
    apply compare_of_clock_lt heq
    omega
  · -- a later day has a later date
    have hbefore : b.date.Before a.date := Date.ofDays_before hgt
    simp only [Date.Before] at hbefore
    omega

theorem compare_of_text_lt (ha : a.FourDigitYear) (hb : b.FourDigitYear) (h : a.text < b.text) :
    a.compare b = .lt := by
  rw [String.lt_iff, text, text, String.toList_ofList, String.toList_ofList, write_columns ha,
    write_columns hb] at h
  exact compare_of_parts_lt ha hb (Decimal.lt_of_columns_lt (parts_small ha) rfl h)

theorem text_le (ha : a.FourDigitYear) (hb : b.FourDigitYear) (h : a.compare b ≠ .gt) :
    a.text ≤ b.text := by
  rw [← String.not_lt]
  intro hlt
  exact h (compare_eq_gt.2 (compare_of_text_lt hb ha hlt))

end Instant

/-- Of instants whose years have four digits an earlier one or the same has a text that comes no
later, and a text that comes first is that of an earlier instant. So a list sorted by time, which
holds the same instants, has its texts in order, and they are the same texts. -/
theorem instants_ordered_as_texts :
    (∀ a b : Instant, a.FourDigitYear → b.FourDigitYear →
      (a.compare b ≠ .gt → a.text ≤ b.text) ∧ (a.text < b.text → a.compare b = .lt)) ∧
    ∀ ts : List Instant, (∀ t ∈ ts, t.FourDigitYear) →
      (Instant.sort ts).Pairwise (fun a b => a.compare b ≠ .gt) ∧ (Instant.sort ts).Perm ts ∧
      ((Instant.sort ts).map Instant.text).Pairwise (· ≤ ·) ∧
      ((Instant.sort ts).map Instant.text).Perm (ts.map Instant.text) := by
  constructor
  · intro a b ha hb
    exact ⟨Instant.text_le ha hb, Instant.compare_of_text_lt ha hb⟩
  · intro ts hts
    have hsorted := Instant.sort_pairwise ts
    have hperm : (Instant.sort ts).Perm ts := List.mergeSort_perm ts _
    refine ⟨hsorted, hperm, ?_, hperm.map Instant.text⟩
    rw [List.pairwise_map]
    refine hsorted.imp_of_mem ?_
    intro a b ha hb hab
    exact Instant.text_le (hts a (hperm.subset ha)) (hts b (hperm.subset hb)) hab

theorem instants_ordered_as_texts_leapSecond :
    let minute : Instant := ⟨1483228800, 0, by decide, by decide, by decide⟩
    let leap : Instant := ⟨1483228799, 1000000001, by decide, by decide, by decide⟩
    let second : Instant := ⟨1483228799, 999999999, by decide, by decide, by decide⟩
    leap.compare minute = .lt ∧ leap.text ≤ minute.text ∧ second.compare leap = .lt ∧
      ((Instant.sort [minute, leap, second]).map Instant.text).Pairwise (· ≤ ·) ∧
      ((Instant.sort [minute, leap, second]).map Instant.text).Perm
        ["2017-01-01T00:00:00.000Z", "2016-12-31T23:59:60.000Z", "2016-12-31T23:59:59.999Z"] := by
  intro minute leap second
  have hm : minute.FourDigitYear := by decide +kernel
  have hl : leap.FourDigitYear := by decide +kernel
  have hs : second.FourDigitYear := by decide +kernel
  have htexts : [minute, leap, second].map Instant.text =
      ["2017-01-01T00:00:00.000Z", "2016-12-31T23:59:60.000Z", "2016-12-31T23:59:59.999Z"] := by
    decide +kernel
  have hlt : second.text < leap.text := by decide +kernel
  obtain ⟨hpairs, hlists⟩ := instants_ordered_as_texts
  obtain ⟨-, -, hsorted, hperm⟩ := hlists [minute, leap, second] (by simp [hm, hl, hs])
  exact ⟨rfl, (hpairs leap minute hl hm).1 (by decide), (hpairs second leap hs hl).2 hlt, hsorted,
    htexts ▸ hperm⟩

end Time

end PearlReport
