import PearlReport.Proofs.Agreement
import PearlReport.Proofs.Calendar
import PearlReport.Proofs.Decimal

/-! Instants as clocks of any offset show them, and the texts in which RFC 3339 tells them. Whatever
the offset, and in however many digits the part of a second is told, the text is read as the instant
itself. -/

namespace PearlReport.Time

open PearlReport.Decimal (isDigit padded value valueOnto)
open PearlReport.Outcome (ok_bind)

namespace Instant

def localSecs (t : Instant) (offset : Int) : Int := t.secs + 60 * offset

def localDate (t : Instant) (offset : Int) : Date := Date.ofDays (t.localSecs offset / 86400)

def localSecondOfDay (t : Instant) (offset : Int) : Nat := (t.localSecs offset % 86400).toNat

def localClock (t : Instant) (offset : Int) : Clock where
  hour := t.localSecondOfDay offset / 3600
  minute := t.localSecondOfDay offset / 60 % 60
  second := t.localSecondOfDay offset % 60 + t.nanos / 1000000000
  nanos := t.nanos % 1000000000

theorem localDate_zero (t : Instant) : t.localDate 0 = t.date := by
  rw [localDate, localSecs, Int.mul_zero, Int.add_zero, date]

theorem localClock_zero (t : Instant) :
    t.localClock 0 = ⟨t.hour, t.minute, t.second, t.nanos % 1000000000⟩ := by
  have hofDay : t.localSecondOfDay 0 = t.secondOfDay := by
    rw [localSecondOfDay, localSecs, Int.mul_zero, Int.add_zero, secondOfDay]
  rw [localClock, hofDay]
  rfl

theorem localClock_second (t : Instant) (offset : Int) :
    (t.localClock offset).second = (t.secs % 60).toNat + t.nanos / 1000000000 ∧
      (t.localClock offset).second ≤ 60 ∧
      ((t.localClock offset).second = 60 ↔ 1000000000 ≤ t.nanos) := by
  have hs : t.localSecondOfDay offset % 60 = (t.secs % 60).toNat := by
    simp only [localSecondOfDay, localSecs]
    omega
  have hn := t.nanos_lt
  have hl := t.leap
  change t.localSecondOfDay offset % 60 + t.nanos / 1000000000 = _ ∧
    t.localSecondOfDay offset % 60 + t.nanos / 1000000000 ≤ 60 ∧
    (t.localSecondOfDay offset % 60 + t.nanos / 1000000000 = 60 ↔ _)
  rw [hs]
  omega

theorem localClock_bounds (t : Instant) (offset : Int) :
    (t.localClock offset).hour < 24 ∧ (t.localClock offset).minute < 60 ∧
      (t.localClock offset).second ≤ 60 ∧ (t.localClock offset).nanos < 1000000000 := by
  refine ⟨?_, Nat.mod_lt _ (by decide), (t.localClock_second offset).2.1,
    Nat.mod_lt _ (by decide)⟩
  change t.localSecondOfDay offset / 3600 < 24
  simp only [localSecondOfDay]
  omega

theorem ofLocal?_local (t : Instant) (offset : Int) :
    ofLocal? (t.localDate offset) (t.localClock offset) (60 * offset) = some t := by
  obtain ⟨hsecond, -, hleap⟩ := t.localClock_second offset
  have hn := t.nanos_lt
  have hdays : (t.localDate offset).toDays = t.localSecs offset / 86400 := Date.ofDays_toDays _
  have hnanos : (t.localClock offset).nanos +
      (if (t.localClock offset).second = 60 then 1 else 0) * 1000000000 = t.nanos := by
    change t.nanos % 1000000000 + _ = t.nanos
    simp only [hleap]
    split <;> omega
  have hofDay : (t.localClock offset).hour * 3600 + (t.localClock offset).minute * 60 +
      (t.localClock offset).second - (if (t.localClock offset).second = 60 then 1 else 0) =
        t.localSecondOfDay offset := by
    simp only [hleap]
    simp only [localClock]
    split <;> omega
  have hsecs : t.localSecs offset / 86400 * 86400 + t.localSecondOfDay offset - 60 * offset =
      t.secs := by
    simp only [localSecondOfDay, localSecs]
    omega
  rw [ofLocal?, if_pos ⟨Date.ofDays_valid _, t.localClock_bounds offset⟩]
  simp only [hofDay, hnanos, hdays, hsecs]
  exact dif_pos ⟨t.inRange, t.nanos_lt, t.leap⟩

end Instant

namespace Rfc3339

/-- A part of a second of `nanos` billionths, told in full by any number of digits after a point.
Where there is nothing to tell the point may be missing. -/
inductive Fraction : (nanos : Nat) → List Char → Prop where
  | absent : Fraction 0 []
  | digits {nanos : Nat} {ds : List Char} : ds ≠ [] → (∀ c ∈ ds, isDigit c = true) →
      value ds * 10 ^ 9 = nanos * 10 ^ ds.length → Fraction nanos ('.' :: ds)

/-- Minutes ahead of universal time, or behind it, by two digits each for hours and minutes;
universal time has a letter of its own. -/
inductive Zone : (offset : Int) → List Char → Prop where
  | universal {c : Char} : c = 'Z' ∨ c = 'z' → Zone 0 [c]
  | ahead (minutes : Nat) :
      Zone minutes ('+' :: (padded 2 (minutes / 60) ++ ':' :: padded 2 (minutes % 60)))
  | behind (minutes : Nat) :
      Zone (-minutes) ('-' :: (padded 2 (minutes / 60) ++ ':' :: padded 2 (minutes % 60)))

def stamp (d : Date) (sep : Char) (c : Clock) (rest : List Char) : List Char :=
  padded 4 d.year.toNat ++ '-' :: (padded 2 d.month ++ '-' :: (padded 2 d.day ++
    sep :: (padded 2 c.hour ++ ':' :: (padded 2 c.minute ++ ':' :: (padded 2 c.second ++ rest)))))

/-- The text tells the instant by a clock `offset` minutes ahead of universal time. -/
def Tells (t : Instant) (offset : Int) (text : List Char) : Prop :=
  ∃ sep fraction zone, (sep = 'T' ∨ sep = 't' ∨ sep = ' ') ∧
    Fraction (t.localClock offset).nanos fraction ∧ Zone offset zone ∧
    text = stamp (t.localDate offset) sep (t.localClock offset) (fraction ++ zone)

theorem digits_append (seen : Nat) {ds : List Char} (h : ∀ c ∈ ds, isDigit c = true)
    (rest : List Char) :
    digits ds.length seen (ds ++ rest) = .ok (valueOnto seen ds, rest) := by
  induction ds generalizing seen with
  | nil => rfl
  | cons d ds ih =>
    rw [List.length_cons, List.cons_append, digits, if_pos (h d (List.mem_cons_self ..)),
      ih _ fun c hc => h c (List.mem_cons_of_mem _ hc), Decimal.valueOnto_cons]

theorem digits_padded {width n : Nat} (h : n < 10 ^ width) (rest : List Char) :
    digits width 0 (padded width n ++ rest) = .ok (n, rest) := by
  have hd := digits_append 0 (Decimal.padded_isDigit width n) rest
  rw [Decimal.padded_length] at hd
  rw [hd, ← value, Decimal.padded_value_of_lt h]

theorem literal_same (c : Char) (cs : List Char) : literal c (c :: cs) = .ok cs :=
  if_pos rfl

theorem date_written {d : Date} (hy : 0 ≤ d.year ∧ d.year ≤ 9999) (hd : d.Valid)
    (rest : List Char) :
    date (padded 4 d.year.toNat ++ '-' :: (padded 2 d.month ++ '-' :: (padded 2 d.day ++ rest))) =
      .ok (d, rest) := by
  have hm : d.month < 10 ^ 2 := by have h := hd.2.1; omega
  have hday : d.day < 10 ^ 2 := by
    have h := Nat.le_trans hd.2.2.2 (daysInMonth_le d.year d.month)
    omega
  have hyear : ((d.year.toNat : Nat) : Int) = d.year := Int.toNat_of_nonneg hy.1
  rw [date, digits_padded (by omega)]
  simp only [ok_bind, literal_same, digits_padded hm, digits_padded hday, hyear]
  exact if_pos hd

theorem value_take_nine {ds : List Char} {nanos : Nat} (hd : ∀ c ∈ ds, isDigit c = true)
    (hv : value ds * 10 ^ 9 = nanos * 10 ^ ds.length) :
    value ((ds ++ List.replicate 9 '0').take 9) = nanos := by
  obtain ⟨all, hall⟩ : ∃ all, all = ds ++ List.replicate 9 '0' := ⟨_, rfl⟩
  have hlen : all.length = ds.length + 9 := by rw [hall]; simp
  have hrest : (all.drop 9).length = ds.length := by rw [List.length_drop, hlen]; omega
  have hdigits : ∀ c ∈ all.drop 9, isDigit c = true := by
    intro c hc
    rcases List.mem_append.1 (hall ▸ List.mem_of_mem_drop hc) with h | h
    · exact hd c h
    · rw [List.eq_of_mem_replicate h]
      rfl
  -- as many digits as `ds` has are left after the first nine, and they do not count
  have hvalue : value (all.take 9) * 10 ^ ds.length + value (all.drop 9) =
      nanos * 10 ^ ds.length := by
    rw [← hv, ← hrest, ← Decimal.value_append, List.take_append_drop, hall, Decimal.value_append,
      Decimal.value_zeros, List.length_replicate, Nat.add_zero]
  have hlt : value (all.drop 9) < 10 ^ ds.length := hrest ▸ Decimal.value_lt hdigits
  have hpos : 0 < 10 ^ ds.length := Nat.pow_pos (by decide)
  rw [← hall]
  calc value (all.take 9)
      = (value (all.take 9) * 10 ^ ds.length + value (all.drop 9)) / 10 ^ ds.length := by
        rw [Nat.mul_comm, Nat.mul_add_div hpos, Nat.div_eq_of_lt hlt, Nat.add_zero]
    _ = nanos := by rw [hvalue, Nat.mul_div_cancel _ hpos]

theorem Fraction.read {nanos : Nat} {fs : List Char} (h : Fraction nanos fs) {c : Char}
    (hc : isDigit c = false) (hp : c ≠ '.') (cs : List Char) :
    fraction (fs ++ c :: cs) = .ok (nanos, c :: cs) := by
  cases h with
  | absent =>
    rw [List.nil_append, fraction]
    intro rest he
    exact hp (List.cons.inj he).1
  | digits hne hd hv =>
    rename_i ds
    have ht : (ds ++ c :: cs).takeWhile isDigit = ds := by
      rw [List.takeWhile_append_of_pos hd, List.takeWhile_cons_of_neg (by simp [hc]),
        List.append_nil]
    have hw : (ds ++ c :: cs).dropWhile isDigit = c :: cs := by
      rw [List.dropWhile_append_of_pos hd, List.dropWhile_cons_of_neg (by simp [hc])]
    rw [List.cons_append, fraction, ht, hw]
    split
    · exact absurd rfl hne
    · rw [value_take_nine hd hv]

theorem clock_written {c : Clock} (hh : c.hour < 24) (hm : c.minute < 60) (hs : c.second ≤ 60)
    {fs cs : List Char} (hf : fraction fs = .ok (c.nanos, cs)) :
    clock (padded 2 c.hour ++ ':' :: (padded 2 c.minute ++ ':' :: (padded 2 c.second ++ fs))) =
      .ok (c, cs) := by
  rw [clock, digits_padded (by omega)]
  simp only [ok_bind, literal_same]
  rw [digits_padded (by omega)]
  simp only [ok_bind, literal_same]
  rw [digits_padded (by omega)]
  simp only [ok_bind, hf]
  exact if_pos ⟨hh, hm, hs⟩

theorem offsetPart_padded {n : Nat} (h : n < 100) (rest : List Char) :
    offsetPart (padded 2 n ++ rest) = .ok (n, rest) := by
  have htwo : padded 2 n = [Decimal.digitChar (n / 10), Decimal.digitChar n] := rfl
  have hvalue : value [Decimal.digitChar (n / 10), Decimal.digitChar n] = n :=
    htwo ▸ Decimal.padded_value_of_lt h
  rw [htwo, List.cons_append, List.cons_append, offsetPart, Decimal.digitChar_isDigit,
    Decimal.digitChar_isDigit, Bool.true_and, if_pos rfl, hvalue, List.nil_append]

theorem offset_signed {sign : Char} (hs : sign = '+' ∨ sign = '-') {minutes : Nat}
    (h : minutes < 1440) :
    offset (sign :: (padded 2 (minutes / 60) ++ ':' :: padded 2 (minutes % 60))) =
      .ok (if sign = '+' then 60 * (minutes : Int) else -(60 * (minutes : Int)), []) := by
  have hz : ¬ (sign = 'Z' ∨ sign = 'z') := by rcases hs with rfl | rfl <;> decide
  have hs' : sign = '+' ∨ sign = '-' ∨ sign = '\u2212' := by
    rcases hs with rfl | rfl
    · exact .inl rfl
    · exact .inr (.inl rfl)
  have hm := offsetPart_padded (n := minutes % 60) (by omega) []
  have hsecs : ((minutes / 60 : Nat) : Int) * 3600 + ((minutes % 60 : Nat) : Int) * 60 =
      60 * (minutes : Int) := by omega
  rw [List.append_nil] at hm
  rw [offset, if_neg hz, if_pos hs', offsetPart_padded (by omega)]
  simp only [ok_bind, if_true, hm, hsecs]
  rw [if_pos (Nat.mod_lt _ (by decide))]

theorem Zone.read {minutes : Int} {zone : List Char} (h : Zone minutes zone)
    (hb : -1440 < minutes ∧ minutes < 1440) : offset zone = .ok (60 * minutes, []) := by
  cases h with
  | universal hc => rw [offset, if_pos hc]; rfl
  | ahead minutes => exact offset_signed (.inl rfl) (by omega)
  | behind minutes =>
    rw [offset_signed (.inr rfl) (by omega), if_neg (by decide), Int.mul_neg]

theorem Zone.begins {minutes : Int} {zone : List Char} (h : Zone minutes zone) :
    ∃ c cs, zone = c :: cs ∧ isDigit c = false ∧ c ≠ '.' := by
  cases h with
  | universal hc =>
    refine ⟨_, _, rfl, ?_⟩
    rcases hc with rfl | rfl <;> decide
  | ahead minutes => exact ⟨_, _, rfl, by decide⟩
  | behind minutes => exact ⟨_, _, rfl, by decide⟩

theorem length_le_size (cs : List Char) : cs.length ≤ (String.ofList cs).utf8ByteSize := by
  induction cs with
  | nil => simp
  | cons c cs ih =>
    have h : String.ofList (c :: cs) = String.singleton c ++ String.ofList cs := by simp
    have hc := c.utf8Size_pos
    rw [h, String.utf8ByteSize_append, String.utf8ByteSize_singleton, List.length_cons]
    omega

theorem stamp_length (d : Date) (sep : Char) (c : Clock) (rest : List Char) :
    (stamp d sep c rest).length = 19 + rest.length := by
  simp only [stamp, List.length_append, List.length_cons, Decimal.padded_length]
  omega

/-- Whatever the offset of the clock by which a text tells an instant, it is read as this instant. -/
theorem read_tells {t : Instant} {minutes : Int} {text : String} (h : Tells t minutes text.toList)
    (hb : -1440 < minutes ∧ minutes < 1440)
    (hy : 0 ≤ (t.localDate minutes).year ∧ (t.localDate minutes).year ≤ 9999) :
    read text = .ok t := by
  obtain ⟨sep, fs, zone, hsep, hf, hz, htext⟩ := h
  obtain ⟨c, cs, rfl, hc, hp⟩ := hz.begins
  obtain ⟨hhour, hminute, hsecond, -⟩ := t.localClock_bounds minutes
  have hsize : ¬ text.utf8ByteSize < 19 := by
    have hlen := length_le_size text.toList
    rw [String.ofList_toList, htext, stamp_length] at hlen
    omega
  have hlocal := t.ofLocal?_local minutes
  rw [read, if_neg hsize, htext, stamp]
  change (date _ >>= fun x => _) = _
  rw [date_written hy (Date.ofDays_valid _)]
  have hseparator (rest : List Char) : separator (sep :: rest) = .ok rest := if_pos hsep
  have hrange : ¬ (60 * minutes ≤ -86400 ∨ 86400 ≤ 60 * minutes) := by omega
  simp only [ok_bind, hseparator, clock_written hhour hminute hsecond (hf.read hc hp cs),
    hz.read hb, List.isEmpty_nil, Bool.not_true, Bool.false_eq_true, if_false, if_neg hrange,
    hlocal]

theorem exists_zone (minutes : Int) : ∃ zone, Zone minutes zone := by
  rcases Int.le_total 0 minutes with h | h
  · have hz := Zone.ahead minutes.toNat
    rw [Int.toNat_of_nonneg h] at hz
    exact ⟨_, hz⟩
  · have hz := Zone.behind (-minutes).toNat
    rw [Int.toNat_of_nonneg (Int.neg_nonneg_of_nonpos h), Int.neg_neg] at hz
    exact ⟨_, hz⟩

theorem exists_tells (t : Instant) (minutes : Int) : ∃ text, Tells t minutes text := by
  obtain ⟨zone, hz⟩ := exists_zone minutes
  have hn : (t.localClock minutes).nanos < 10 ^ 9 := (t.localClock_bounds minutes).2.2.2
  have hv := Decimal.padded_value_of_lt hn
  have hf : Fraction (t.localClock minutes).nanos ('.' :: padded 9 (t.localClock minutes).nanos) := by
    refine .digits (by simp [padded]) (Decimal.padded_isDigit 9 _) ?_
    rw [hv, Decimal.padded_length]
  exact ⟨_, 'T', _, zone, .inl rfl, hf, hz, rfl⟩

end Rfc3339

open PearlReport.Json (Value)

theorem instant_read {text : String} {t : Instant} (h : Rfc3339.read text = .ok t) :
    Shape.instant.ofValue (.str text) = .ok t ∧
      ∀ doc, Value.parse doc = .ok (.str text) → Shape.instant.parse doc = .ok t := by
  have hvalue : Shape.instant.ofValue (.str text) = .ok t := by
    change (Rfc3339.read text).mapError _ = _
    rw [h]
    rfl
  refine ⟨hvalue, ?_⟩
  intro doc hdoc
  have hparse := Shape.instant.parse_atom hdoc
  rw [← Outcome.toOption_eq_some, hparse]
  exact Outcome.toOption_eq_some.2 hvalue

/-- An instant has texts by the clock of every offset, and where the year of the clock has four
digits each of them is read as the instant, in a document or straight from its text. Two of its
texts, by whatever clocks, are read as equal instants and written alike. -/
theorem instant_read_at_offset (t : Instant) {minutes : Int}
    (hb : -1440 < minutes ∧ minutes < 1440)
    (hy : 0 ≤ (t.localDate minutes).year ∧ (t.localDate minutes).year ≤ 9999) :
    (∃ text : String, Rfc3339.Tells t minutes text.toList) ∧
    ∀ text : String, Rfc3339.Tells t minutes text.toList →
      Shape.instant.ofValue (.str text) = .ok t ∧
      (∀ doc, Value.parse doc = .ok (.str text) → Shape.instant.parse doc = .ok t) ∧
      ∀ (minutes' : Int) (text' : String), -1440 < minutes' ∧ minutes' < 1440 →
        0 ≤ (t.localDate minutes').year ∧ (t.localDate minutes').year ≤ 9999 →
        Rfc3339.Tells t minutes' text'.toList →
        ∃ u u', Shape.instant.ofValue (.str text) = .ok u ∧
          Shape.instant.ofValue (.str text') = .ok u' ∧ u' = u ∧
          Shape.instant.canonical u' = Shape.instant.canonical u := by
  constructor
  · obtain ⟨text, h⟩ := Rfc3339.exists_tells t minutes
    exact ⟨String.ofList text, by rwa [String.toList_ofList]⟩
  · intro text h
    obtain ⟨hvalue, hparse⟩ := instant_read (Rfc3339.read_tells h hb hy)
    refine ⟨hvalue, hparse, ?_⟩
    intro minutes' text' hb' hy' h'
    have hvalue' := (instant_read (Rfc3339.read_tells h' hb' hy')).1
    exact ⟨t, t, hvalue, hvalue', rfl, rfl⟩

theorem instant_read_at_offset_leapSecond :
    let t : Instant := ⟨1483228799, 1500000000, by decide, by decide, by decide⟩
    Shape.instant.ofValue (.str "2017-01-01 05:29:60.5+05:30") = .ok t ∧
    Shape.instant.parse "\"2017-01-01 05:29:60.5+05:30\"" = .ok t ∧
    Shape.instant.ofValue (.str "2016-12-31t00:00:60.5000000000-23:59") = .ok t := by
  intro t
  have hy : 0 ≤ (t.localDate 330).year ∧ (t.localDate 330).year ≤ 9999 := by decide +kernel
  have hy' : 0 ≤ (t.localDate (-1439)).year ∧ (t.localDate (-1439)).year ≤ 9999 := by
    decide +kernel
  have h : Rfc3339.Tells t 330 "2017-01-01 05:29:60.5+05:30".toList := by
    refine ⟨' ', ".5".toList, "+05:30".toList, by decide,
      .digits ?_ (List.all_eq_true.1 ?_) ?_, .ahead 330, ?_⟩ <;> decide +kernel
  have h' : Rfc3339.Tells t (-1439) "2016-12-31t00:00:60.5000000000-23:59".toList := by
    refine ⟨'t', ".5000000000".toList, "-23:59".toList, by decide,
      .digits ?_ (List.all_eq_true.1 ?_) ?_, .behind 1439, ?_⟩ <;> decide +kernel
  have hdoc : Value.parse "\"2017-01-01 05:29:60.5+05:30\"" =
      .ok (.str "2017-01-01 05:29:60.5+05:30") :=
    Json.Value.parse_eq_ok.2 ⟨.str "2017-01-01 05:29:60.5+05:30", by cbv, by decide, rfl⟩
  obtain ⟨hread, hparse, hother⟩ := (instant_read_at_offset t (by decide) hy).2 _ h
  obtain ⟨u, u', hu, hu', rfl, -⟩ := hother _ _ (by decide) hy' h'
  cases hread.symm.trans hu
  exact ⟨hread, hparse _ hdoc, hu'⟩

end PearlReport.Time
