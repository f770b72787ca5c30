import PearlReport.Proofs.DateOrder
import PearlReport.Proofs.RoundTrip

/-! The layout under its own reader. Signed years and short ones are read alike, so every instant
that exists is read again as itself, but for its part of a millisecond. -/

namespace PearlReport.Time

open PearlReport.Decimal (isDigit padded widened value)
open PearlReport.Outcome (ok_bind)

namespace Layout

theorem isBlank_digit {c : Char} (h : isDigit c = true) : Text.isBlank c = false := by
  simp only [isDigit, Bool.and_eq_true, decide_eq_true_eq] at h
  have h₁ : '0'.toNat ≤ c.toNat := h.1
  have h₂ : c.toNat ≤ '9'.toNat := h.2
  have h48 : '0'.toNat = 48 := rfl
  have h57 : '9'.toNat = 57 := rfl
  simp only [Text.isBlank, Bool.or_eq_false_iff, Bool.and_eq_false_iff, decide_eq_false_iff_not]
  omega

theorem trimStart_digits {ds : List Char} (hd : ∀ c ∈ ds, isDigit c = true) (hne : ds ≠ [])
    (rest : List Char) : Text.trimStart (ds ++ rest) = ds ++ rest := by
  obtain ⟨d, ds, rfl⟩ := List.exists_cons_of_ne_nil hne
  rw [Text.trimStart, List.cons_append, List.dropWhile_cons_of_neg]
  simp [isBlank_digit (hd d List.mem_cons_self)]

theorem number_digits {width : Nat} {ds : List Char} (hd : ∀ c ∈ ds, isDigit c = true)
    (hne : ds ≠ []) (hw : ds.length ≤ width) {c : Char} (hc : isDigit c = false)
    (rest : List Char) : number width (ds ++ c :: rest) = .ok (value ds, c :: rest) := by
  have ht : ((ds ++ c :: rest).takeWhile isDigit).take width = ds := by
    rw [List.takeWhile_append_of_pos hd, List.takeWhile_cons_of_neg (by simp [hc]),
      List.append_nil, List.take_of_length_le hw]
  have hdrop : (ds ++ c :: rest).drop ds.length = c :: rest := List.drop_left' rfl
  obtain ⟨d, ds, rfl⟩ := List.exists_cons_of_ne_nil hne
  rw [List.cons_append] at ht hdrop ⊢
  rw [number.eq_def, ht]
  simp only [hdrop]

theorem part_padded {low high n : Nat} (hn : low ≤ n ∧ n ≤ high) (h : n < 10 ^ 2) {c : Char}
    (hc : isDigit c = false) (rest : List Char) :
    part low high (padded 2 n ++ c :: rest) = .ok (n, c :: rest) := by
  have hd := Decimal.padded_isDigit 2 n
  have hne : padded 2 n ≠ [] := by simp [padded]
  rw [part, trimStart_digits hd hne,
    number_digits hd hne (Nat.le_of_eq (Decimal.padded_length 2 n)) hc, Decimal.padded_value_of_lt h]
  simp only [ok_bind]
  exact if_pos hn

theorem widened_digits (width n : Nat) (hw : 0 < width) :
    (∀ c ∈ widened width n, isDigit c = true) ∧ widened width n ≠ [] ∧
      value (widened width n) = n := by
  rw [widened]
  split
  · rename_i h
    refine ⟨Decimal.padded_isDigit width n, ?_, Decimal.padded_value_of_lt h⟩
    intro he
    have hlen := Decimal.padded_length width n
    rw [he] at hlen
    exact Nat.ne_of_lt hw hlen
  · exact ⟨Decimal.digits_isDigit n, Decimal.digits_ne_nil n, Decimal.digits_value n⟩

theorem year_written {y : Int} (h : -2147483648 ≤ y ∧ y ≤ 2147483647) (rest : List Char) :
    year (yearText y ++ '-' :: rest) = .ok (y, '-' :: rest) := by
  have hdash : isDigit '-' = false := by decide
  obtain ⟨hd, hne, hv⟩ := widened_digits 4 y.natAbs (by decide)
  -- after a sign as many digits are taken as there are
  have hsigned : number (widened 4 y.natAbs ++ '-' :: rest).length
      (widened 4 y.natAbs ++ '-' :: rest) = .ok (y.natAbs, '-' :: rest) := by
    rw [number_digits hd hne (by simp) hdash, hv]
  rw [yearText]
  split
  · rename_i hy
    have hn : y.toNat < 10 ^ 4 := by omega
    have hdp := Decimal.padded_isDigit 4 y.toNat
    have hnep : padded 4 y.toNat ≠ [] := by simp [padded]
    have hpos : (y.toNat : Int) = y := Int.toNat_of_nonneg hy.1
    have hnumber := number_digits hdp hnep (Nat.le_of_eq (Decimal.padded_length 4 _)) hdash rest
    obtain ⟨d, ds, he⟩ := List.exists_cons_of_ne_nil hnep
    have hdigit : isDigit d = true := hdp d (he ▸ List.mem_cons_self)
    rw [year.eq_def, trimStart_digits hdp hnep]
    split
    · rename_i hc
      rw [he] at hc
      exact absurd (List.cons.inj hc).1 (Decimal.isDigit_ne hdigit (by decide))
    · rename_i hc
      rw [he] at hc
      exact absurd (List.cons.inj hc).1 (Decimal.isDigit_ne hdigit (by decide))
    · rw [hnumber, Decimal.padded_value_of_lt hn]
      simp only [ok_bind, hpos]
      exact if_pos h
  · split
    · rename_i hy
      have htrim : Text.trimStart ('-' :: (widened 4 y.natAbs ++ '-' :: rest)) =
        '-' :: (widened 4 y.natAbs ++ '-' :: rest) := rfl
      have hneg : -(y.natAbs : Int) = y := by omega
      rw [List.cons_append, year, htrim]
      simp only [hsigned, ok_bind, hneg]
      exact if_pos h
    · rename_i hy
      have htrim : Text.trimStart ('+' :: (widened 4 y.natAbs ++ '-' :: rest)) =
        '+' :: (widened 4 y.natAbs ++ '-' :: rest) := rfl
      have hpos : (y.natAbs : Int) = y := by omega
      rw [List.cons_append, year, htrim]
      simp only [hsigned, ok_bind, hpos]
      exact if_pos h

theorem bytes_ge (cs : List Char) : cs.length ≤ Text.bytes cs := by
  have h : ∀ (cs : List Char) (n : Nat),
      n + cs.length ≤ cs.foldl (fun n c => n + c.utf8Size) n := by
    intro cs
    induction cs with
    | nil => exact fun n => Nat.le_refl n
    | cons c cs ih =>
      intro n
      have hc := c.utf8Size_pos
      have hcs := ih (n + c.utf8Size)
      rw [List.foldl_cons, List.length_cons]
      omega
  have h0 := h cs 0
  rwa [Nat.zero_add] at h0

theorem fraction_millis {ms : Nat} (h : ms < 1000) (rest : List Char) :
    fraction ('.' :: (padded 3 ms ++ rest)) = .ok (ms, rest) := by
  have hsize : ¬ Text.bytes (padded 3 ms ++ rest) < 3 := by
    have hlen := bytes_ge (padded 3 ms ++ rest)
    rw [List.length_append, Decimal.padded_length] at hlen
    omega
  have hvalue : value (padded 3 ms) = ms := Decimal.padded_value_of_lt h
  obtain ⟨a, b, c, hd, ha, hb, hc⟩ : ∃ a b c, padded 3 ms = [a, b, c] ∧
      isDigit a = true ∧ isDigit b = true ∧ isDigit c = true :=
    ⟨_, _, _, rfl, Decimal.digitChar_isDigit _, Decimal.digitChar_isDigit _,
      Decimal.digitChar_isDigit _⟩
  rw [hd] at hsize hvalue ⊢
  rw [fraction.eq_def]
  simp only [List.cons_append, List.nil_append, ha, hb, hc, hvalue] at hsize ⊢
  rw [if_neg hsize]
  rfl

theorem literal_here (c : Char) (cs : List Char) : literal c (c :: cs) = .ok cs := if_pos rfl

end Layout

theorem Instant.year_bounds (t : Instant) : -262143 ≤ t.date.year ∧ t.date.year ≤ 262142 := by
  obtain ⟨h₁, h₂⟩ := t.inRange
  have hfirst : Date.ofDays (firstSecond / 86400) = ⟨-262143, 1, 1⟩ := by decide +kernel
  have hlast : Date.ofDays (lastSecond / 86400) = ⟨262142, 12, 31⟩ := by decide +kernel
  have hlow := Date.ofDays_year_mono (Int.ediv_le_ediv (by decide : (0 : Int) < 86400) h₁)
  have hhigh := Date.ofDays_year_mono (Int.ediv_le_ediv (by decide : (0 : Int) < 86400) h₂)
  rw [hfirst] at hlow
  rw [hlast] at hhigh
  exact ⟨hlow, hhigh⟩

theorem Layout.read_write (t : Instant) : Layout.read t.text = .ok t.truncated := by
  have hyear := t.year_bounds
  obtain ⟨hm₁, hm₂, hd₁, hd₂⟩ : t.date.Valid := Date.ofDays_valid _
  have hd31 := daysInMonth_le t.date.year t.date.month
  have hhour := t.hour_lt
  have hminute := t.minute_lt
  have hsecond := t.second_le
  rw [read, Instant.text, String.toList_ofList, write]
  simp only [year_written (y := t.date.year) (by omega), ok_bind, literal_here]
  rw [part_padded (n := t.date.month) (by omega) (by omega) (by decide)]
  simp only [ok_bind, literal_here]
  rw [part_padded (n := t.date.day) (by omega) (by omega) (by decide)]
  simp only [ok_bind, literal_here]
  rw [part_padded (n := t.hour) (by omega) (by omega) (by decide)]
  simp only [ok_bind, literal_here]
  rw [part_padded (n := t.minute) (by omega) (by omega) (by decide)]
  simp only [ok_bind, literal_here]
  rw [part_padded (n := t.second) (by omega) (by omega) (by decide)]
  simp only [ok_bind, fraction_millis t.millis_lt, literal_here, List.isEmpty_nil, if_true]
  have hlocal := t.ofLocal?_clock
  rw [Instant.clock] at hlocal
  rw [hlocal]

theorem Instant.text_eq_iff {t u : Instant} : u.text = t.text ↔ u.truncated = t.truncated := by
  constructor
  · intro h
    have hu := Layout.read_write u
    rw [h, Layout.read_write t] at hu
    exact (Except.ok.inj hu).symm
  · intro h
    rw [← u.truncated_text, h, t.truncated_text]

/-- Every instant that exists, in whatever year, is read from its own text as itself without its part
of a millisecond, a leap second as a leap second. That is what its text says and all that it says, and
where the year has four digits it is also what RFC 3339 reads there. -/
theorem instant_read_everywhere {secs : Int} {nanos : Nat} {t : Instant}
    (h : Instant.ofUnix? secs nanos = some t) :
    (-262143 ≤ t.date.year ∧ t.date.year ≤ 262142) ∧
    Layout.read t.text = .ok t.truncated ∧
    (t.truncated.secs = secs ∧ t.truncated.nanos = nanos - nanos % 1000000 ∧
      (1000000000 ≤ t.truncated.nanos ↔ 1000000000 ≤ nanos)) ∧
    t.truncated.text = t.text ∧
    (∀ u : Instant, u.text = t.text ↔ u.truncated = t.truncated) ∧
    (t.FourDigitYear → Shape.instant.ofValue (.str t.text) = .ok t.truncated ∧
      ∀ doc, Json.Value.parse doc = .ok (.str t.text) →
        Shape.instant.parse doc = .ok t.truncated) := by
  obtain ⟨hsecs, hnanos⟩ : t.secs = secs ∧ t.nanos = nanos := by
    rw [Instant.ofUnix?] at h
    split at h
    · cases h
      exact ⟨rfl, rfl⟩
    · cases h
  have htruncated : t.truncated.nanos = t.nanos / 1000000 * 1000000 := rfl
  refine ⟨t.year_bounds, Layout.read_write t, ⟨hsecs, ?_, ?_⟩, t.truncated_text,
    fun u => Instant.text_eq_iff, fun hy => instant_read (Rfc3339.read_written hy)⟩
  · omega
  · omega

theorem instant_read_everywhere_last :
    ∃ t, Instant.ofUnix? 8210266876799 1999999999 = some t ∧
      t.text = "+262142-12-31T23:59:60.999Z" ∧
      Layout.read "+262142-12-31T23:59:60.999Z" = .ok t.truncated ∧
      t.truncated.nanos = 1999000000 := by
  let t : Instant := ⟨8210266876799, 1999999999, by decide, by decide, by decide⟩
  have ht : Instant.ofUnix? 8210266876799 1999999999 = some t := rfl
  have htext : t.text = "+262142-12-31T23:59:60.999Z" := by decide +kernel
  obtain ⟨-, hread, ⟨-, hnanos, -⟩, -⟩ := instant_read_everywhere ht
  exact ⟨t, ht, htext, htext ▸ hread, hnanos⟩

end PearlReport.Time
