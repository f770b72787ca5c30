import PearlReport.Proofs.Offset
import PearlReport.Shape.Value

/-! Instants in the one layout that is written, read again as RFC 3339. The two grammars meet exactly
where the year has four digits; then nothing is lost but the part of a millisecond. -/

namespace PearlReport.Time

open PearlReport.Decimal (isDigit padded)
open PearlReport.Outcome (error_bind mapError_ok)

/-- The instant without its part of a millisecond. -/
def Instant.truncated (t : Instant) : Instant where
  secs := t.secs
  nanos := t.nanos / 1000000 * 1000000
  inRange := t.inRange
  nanos_lt := by have h := t.nanos_lt; omega
  leap := fun h => t.leap (by omega)

namespace Instant

theorem secondOfDay_lt (t : Instant) : t.secondOfDay < 86400 := by
  simp only [secondOfDay]
  omega

theorem hour_lt (t : Instant) : t.hour < 24 := by
  have h := t.secondOfDay_lt
  simp only [hour]
  omega

theorem minute_lt (t : Instant) : t.minute < 60 := by
  simp only [minute]
  omega

theorem millis_lt (t : Instant) : t.millis < 1000 := by
  simp only [millis]
  omega

theorem second_cases (t : Instant) :
    (t.nanos < 1000000000 ∧ t.second = t.secondOfDay % 60 ∧ t.second < 60) ∨
      (1000000000 ≤ t.nanos ∧ t.secondOfDay % 60 = 59 ∧ t.second = 60) := by
  have hn := t.nanos_lt
  have hl := t.leap
  simp only [second, secondOfDay]
  by_cases h : t.nanos < 1000000000
  · exact Or.inl ⟨h, by omega⟩
  · have h59 := hl (by omega)
    exact Or.inr (by omega)

theorem second_le (t : Instant) : t.second ≤ 60 := by
  rcases t.second_cases with h | h <;> omega

theorem truncated_hour (t : Instant) : t.truncated.hour = t.hour := rfl
theorem truncated_minute (t : Instant) : t.truncated.minute = t.minute := rfl
theorem truncated_date (t : Instant) : t.truncated.date = t.date := rfl

theorem truncated_second (t : Instant) : t.truncated.second = t.second := by
  change t.secondOfDay % 60 + t.nanos / 1000000 * 1000000 / 1000000000 = _
  simp only [second]
  omega

theorem truncated_millis (t : Instant) : t.truncated.millis = t.millis := by
  change t.nanos / 1000000 * 1000000 % 1000000000 / 1000000 = _
  simp only [millis]
  omega

def clock (t : Instant) : Clock := ⟨t.hour, t.minute, t.second, t.millis * 1000000⟩

theorem truncated_localDate (t : Instant) : t.truncated.localDate 0 = t.date :=
  t.truncated.localDate_zero

theorem truncated_localClock (t : Instant) : t.truncated.localClock 0 = t.clock := by
  have hnanos : t.truncated.nanos % 1000000000 = t.millis * 1000000 := by
    change t.nanos / 1000000 * 1000000 % 1000000000 = _
    simp only [millis]
    omega
  rw [localClock_zero, truncated_hour, truncated_minute, truncated_second, hnanos, clock]

theorem ofLocal?_clock (t : Instant) : ofLocal? t.date t.clock 0 = some t.truncated := by
  have h := t.truncated.ofLocal?_local 0
  rwa [truncated_localDate, truncated_localClock, Int.mul_zero] at h

end Instant

namespace Layout

/-- A letter `d` stands for any digit and every other character for itself. -/
def fits : (pattern text : List Char) → Bool
  | [], [] => true
  | p :: ps, c :: cs => (if p = 'd' then Decimal.isDigit c else c == p) && fits ps cs
  | _, _ => false

def pattern : List Char := "dddd-dd-ddTdd:dd:dd.dddZ".toList

theorem fits_length {ps cs : List Char} (h : fits ps cs = true) : cs.length = ps.length := by
  induction ps generalizing cs with
  | nil =>
    cases cs with
    | nil => rfl
    | cons c cs => cases h
  | cons p ps ih =>
    cases cs with
    | nil => cases h
    | cons c cs =>
      rw [fits, Bool.and_eq_true] at h
      rw [List.length_cons, List.length_cons, ih h.2]

theorem fits_digits {ds : List Char} (h : ∀ c ∈ ds, isDigit c = true) (ps cs : List Char) :
    fits (List.replicate ds.length 'd' ++ ps) (ds ++ cs) = fits ps cs := by
  induction ds with
  | nil => rfl
  | cons d ds ih =>
    rw [List.length_cons, List.replicate_succ, List.cons_append, List.cons_append, fits,
      if_pos rfl, h d (List.mem_cons_self ..), Bool.true_and,
      ih fun c hc => h c (List.mem_cons_of_mem _ hc)]

theorem fits_padded (width n : Nat) (ps cs : List Char) :
    fits (List.replicate width 'd' ++ ps) (padded width n ++ cs) = fits ps cs := by
  have h := fits_digits (Decimal.padded_isDigit width n) ps cs
  rwa [Decimal.padded_length] at h

theorem fits_same {c : Char} (h : c ≠ 'd') (ps cs : List Char) :
    fits (c :: ps) (c :: cs) = fits ps cs := by
  rw [fits, if_neg h, beq_self_eq_true, Bool.true_and]

theorem yearText_plain {y : Int} (h : 0 ≤ y ∧ y ≤ 9999) : yearText y = padded 4 y.toNat :=
  if_pos h

theorem yearText_signed {y : Int} (h : ¬ (0 ≤ y ∧ y ≤ 9999)) :
    ∃ sign cs, yearText y = sign :: cs ∧ isDigit sign = false := by
  rw [yearText, if_neg h]
  by_cases hy : y < 0
  · exact ⟨'-', _, by rw [if_pos hy], by decide⟩
  · exact ⟨'+', _, by rw [if_neg hy], by decide⟩

theorem write_fits (t : Instant) :
    fits pattern (write t) = true ↔ 0 ≤ t.date.year ∧ t.date.year ≤ 9999 := by
  by_cases h : 0 ≤ t.date.year ∧ t.date.year ≤ 9999
  · have hp : pattern = List.replicate 4 'd' ++ '-' :: (List.replicate 2 'd' ++ '-' ::
        (List.replicate 2 'd' ++ 'T' :: (List.replicate 2 'd' ++ ':' :: (List.replicate 2 'd' ++
          ':' :: (List.replicate 2 'd' ++ '.' :: (List.replicate 3 'd' ++ ['Z'])))))) := by decide
    simp only [h, and_self, iff_true, write, yearText_plain h, hp, fits_padded]
    rw [fits_same (by decide), fits_padded, fits_same (by decide), fits_padded,
      fits_same (by decide), fits_padded, fits_same (by decide), fits_padded,
      fits_same (by decide), fits_padded, fits_same (by decide), fits_padded]
    decide
  · obtain ⟨sign, cs, hy, hs⟩ := yearText_signed h
    have hp : pattern = 'd' :: pattern.tail := by decide
    have hf : fits pattern (write t) = false := by
      rw [hp, write, hy, List.cons_append, fits, if_pos rfl, hs, Bool.false_and]
    rw [hf]
    exact ⟨fun e => absurd e (by decide), fun e => absurd e h⟩

end Layout

namespace Rfc3339

theorem tells_written {t : Instant} (h : 0 ≤ t.date.year ∧ t.date.year ≤ 9999) :
    Tells t.truncated 0 t.text.toList := by
  have hf : Fraction (t.millis * 1000000) ('.' :: padded 3 t.millis) := by
    have hv : Decimal.value (padded 3 t.millis) = t.millis := Decimal.padded_value_of_lt t.millis_lt
    refine .digits (by simp [padded]) (Decimal.padded_isDigit 3 _) ?_
    rw [hv, Decimal.padded_length]
    omega
  refine ⟨'T', '.' :: padded 3 t.millis, ['Z'], .inl rfl, ?_, .universal (.inl rfl), ?_⟩
  · rw [t.truncated_localClock]
    exact hf
  · rw [t.truncated_localClock, t.truncated_localDate, Instant.text, String.toList_ofList,
      Layout.write, Layout.yearText_plain h]
    rfl

theorem read_written {t : Instant} (h : 0 ≤ t.date.year ∧ t.date.year ≤ 9999) :
    read t.text = .ok t.truncated :=
  read_tells (tells_written h) (by decide) (t.truncated_localDate ▸ h)

theorem read_signed {t : Instant} (h : ¬ (0 ≤ t.date.year ∧ t.date.year ≤ 9999)) :
    ∃ flaw, read t.text = .error flaw := by
  obtain ⟨sign, cs, hy, hs⟩ := Layout.yearText_signed h
  by_cases hsize : t.text.utf8ByteSize < 19
  · exact ⟨.tooShort, by rw [read, if_pos hsize]; rfl⟩
  · refine ⟨.invalid, ?_⟩
    have hcs : ∃ rest, t.text.toList = sign :: rest := by
      rw [Instant.text, String.toList_ofList, Layout.write, hy]
      exact ⟨_, rfl⟩
    obtain ⟨rest, hrest⟩ := hcs
    have hdate : date (sign :: rest) = .error .invalid := by
      rw [date, digits, hs]
      rfl
    rw [read, if_neg hsize, hrest]
    change (date _ >>= fun x => _) = _
    rw [hdate, error_bind]

end Rfc3339

theorem Instant.truncated_text (t : Instant) : t.truncated.text = t.text := by
  simp only [Instant.text, Layout.write, Instant.truncated_date, Instant.truncated_hour,
    Instant.truncated_minute, Instant.truncated_second, Instant.truncated_millis]

theorem Instant.text_fits (t : Instant) :
    Layout.fits Layout.pattern t.text.toList = true ↔ 0 ≤ t.date.year ∧ t.date.year ≤ 9999 := by
  rw [Instant.text, String.toList_ofList]
  exact Layout.write_fits t

theorem Instant.text_laidOut (t : Instant) :
    Layout.fits Layout.pattern t.text.toList = true ∧ t.text.length = 24 ↔
      0 ≤ t.date.year ∧ t.date.year ≤ 9999 := by
  rw [t.text_fits]
  refine ⟨fun hf => hf.1, fun hy => ⟨hy, ?_⟩⟩
  exact Layout.fits_length (t.text_fits.2 hy)

theorem instant_ofValue (text : String) :
    Shape.instant.ofValue (.str text) = (Rfc3339.read text).mapError .badInstant := rfl

theorem Instant.ofValue_text {t : Instant} (hy : 0 ≤ t.date.year ∧ t.date.year ≤ 9999) :
    Shape.instant.ofValue (.str t.text) = .ok t.truncated := by
  rw [instant_ofValue, Rfc3339.read_written hy, mapError_ok]

theorem Instant.text_readable (t : Instant) :
    (∃ t', Shape.instant.ofValue (.str t.text) = .ok t') ↔
      0 ≤ t.date.year ∧ t.date.year ≤ 9999 := by
  constructor
  · rintro ⟨t', ht⟩
    by_contra hy
    obtain ⟨flaw, hflaw⟩ := Rfc3339.read_signed hy
    rw [instant_ofValue, hflaw] at ht
    cases ht
  · exact fun hy => ⟨t.truncated, ofValue_text hy⟩

theorem Instant.rewritten (t : Instant) :
    Shape.instant.write t = .str t.text ∧
    (Layout.fits Layout.pattern t.text.toList = true ∧ t.text.length = 24 ↔
      0 ≤ t.date.year ∧ t.date.year ≤ 9999) ∧
    ((∃ t', Shape.instant.ofValue (.str t.text) = .ok t') ↔
      0 ≤ t.date.year ∧ t.date.year ≤ 9999) ∧
    (0 ≤ t.date.year ∧ t.date.year ≤ 9999 →
      Shape.instant.ofValue (.str t.text) = .ok t.truncated ∧
      Shape.instant.write t.truncated = .str t.text) := by
  refine ⟨rfl, t.text_laidOut, t.text_readable, fun hy => ⟨ofValue_text hy, ?_⟩⟩
  rw [← t.truncated_text]
  rfl

/-- An instant read from any text is written in the layout of 24 characters, and can be read again,
exactly when its year in universal time has four digits. It is then read again without its part of a
millisecond and written as before. -/
theorem instant_rewritten_iff (text : String) (t : Instant) :
    Shape.instant.ofValue (.str text) = .ok t →
    Shape.instant.write t = .str t.text ∧
    (Layout.fits Layout.pattern t.text.toList = true ∧ t.text.length = 24 ↔
      0 ≤ t.date.year ∧ t.date.year ≤ 9999) ∧
    ((∃ t', Shape.instant.ofValue (.str t.text) = .ok t') ↔
      0 ≤ t.date.year ∧ t.date.year ≤ 9999) ∧
    (0 ≤ t.date.year ∧ t.date.year ≤ 9999 →
      Shape.instant.ofValue (.str t.text) = .ok t.truncated ∧
      Shape.instant.write t.truncated = .str t.text) :=
  fun _ => t.rewritten

theorem instant_rewritten_leapDay :
    ∃ t, Shape.instant.ofValue (.str "2016-02-28T23:30:00.1259-01:00") = .ok t ∧
      t.text = "2016-02-29T00:30:00.125Z" ∧
      Shape.instant.ofValue (.str t.text) = .ok t.truncated := by
  let t : Instant := ⟨1456705800, 125900000, by decide, by decide, by decide⟩
  have ht : Shape.instant.ofValue (.str "2016-02-28T23:30:00.1259-01:00") = .ok t := rfl
  have hy : 0 ≤ t.date.year ∧ t.date.year ≤ 9999 := by decide +kernel
  exact ⟨t, ht, by decide +kernel, ((instant_rewritten_iff _ t ht).2.2.2 hy).1⟩

/-- An hour before year 0 is in year -1, which has a sign and cannot be read again. -/
theorem instant_before_yearZero :
    ∃ t, Shape.instant.ofValue (.str "0000-01-01T00:00:00+01:00") = .ok t ∧
      t.text = "-0001-12-31T23:00:00.000Z" ∧
      Layout.fits Layout.pattern t.text.toList = false ∧
      Shape.instant.ofValue (.str t.text) = .error (.badInstant .invalid) := by
  let t : Instant := ⟨-62167222800, 0, by decide, by decide, by decide⟩
  have htext : t.text = "-0001-12-31T23:00:00.000Z" := by decide +kernel
  refine ⟨t, rfl, htext, by decide +kernel, ?_⟩
  rw [htext]
  rfl

end PearlReport.Time
