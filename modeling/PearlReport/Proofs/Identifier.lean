import PearlReport.Uuid

/-! Identifiers read again. The hyphenated spelling in lower case, the one that is written, is read as
the identifier it was written for. -/

namespace PearlReport.Uuid

open PearlReport.Text (hexDigit hexValue? hexValue?_hexDigit)

theorem ofHyphenated?_groups {a b c d : List Char} (ha : a.length = 8) (hb : b.length = 4)
    (hc : c.length = 4) (hd : d.length = 4) (e : List Char) :
    ofHyphenated? (a ++ '-' :: (b ++ '-' :: (c ++ '-' :: (d ++ '-' :: e)))) =
      ofSimple? (a ++ b ++ c ++ d ++ e) := by
  have hfirst (rest : List Char) : (a ++ rest).drop 8 = rest ∧ (a ++ rest).take 8 = a :=
    ⟨List.drop_left' ha, List.take_left' ha⟩
  have hgroup {g : List Char} (hg : g.length = 4) (rest : List Char) :
      ('-' :: (g ++ rest)).drop 5 = rest ∧ (g ++ rest).take 4 = g := by
    have hdrop : (('-' :: g) ++ rest).drop 5 = rest := List.drop_left' (by simp [hg])
    exact ⟨hdrop, List.take_left' hg⟩
  simp only [ofHyphenated?, hfirst, hgroup hb, hgroup hc, hgroup hd, List.head?_cons,
    List.drop_succ_cons, List.drop_zero, and_self, if_true]

theorem mapM_hexValue? (ds : List (Fin 16)) :
    (ds.map fun d => hexDigit d.val).mapM hexValue? = some ds := by
  induction ds with
  | nil => rfl
  | cons d ds ih =>
    rw [List.map_cons, List.mapM_cons, ih, hexValue?_hexDigit]
    rfl

theorem ofSimple?_digits (u : Uuid) :
    ofSimple? (u.digits.map fun d => hexDigit d.val) = some u := by
  rw [ofSimple?, mapM_hexValue?]
  exact dif_pos u.size

theorem ofSimple?_hyphen (as bs : List Char) : ofSimple? (as ++ '-' :: bs) = none := by
  have hnone : (as ++ '-' :: bs).mapM hexValue? = none := by
    induction as with
    | nil => rfl
    | cons a as ih =>
      rw [List.cons_append, List.mapM_cons, ih]
      cases hexValue? a <;> rfl
  rw [ofSimple?, hnone]
  rfl

theorem unmarked_digit (d : Fin 16) (cs : List Char) :
    unmarked (hexDigit d.val :: cs) = (hexDigit d.val :: cs, 0) := by
  have hopen : ∀ d : Fin 16, hexDigit d.val ≠ '\x7b' ∧ (hexDigit d.val).toLower ≠ 'u' := by decide
  have hbraces : inBraces? (hexDigit d.val :: cs) = none := by
    rw [inBraces?]
    intro inner h
    exact (hopen d).1 (List.cons.inj h).1
  have hurn : afterUrn? (hexDigit d.val :: cs) = none := by
    rw [afterUrn?]
    apply if_neg
    intro h
    exact (hopen d).2 (List.cons.inj h).1
  rw [unmarked, hbraces, hurn]

theorem text_groups (u : Uuid) : ∃ a b c d e : List Char,
    u.text = a ++ '-' :: (b ++ '-' :: (c ++ '-' :: (d ++ '-' :: e))) ∧ a.length = 8 ∧ b.length = 4 ∧
    c.length = 4 ∧ d.length = 4 ∧ e.length = 12 ∧
    a ++ b ++ c ++ d ++ e = u.digits.map fun d => hexDigit d.val := by
  have hlen : (u.digits.map fun d => hexDigit d.val).length = 32 := by rw [List.length_map, u.size]
  rw [text]
  generalize (u.digits.map fun d => hexDigit d.val) = hs at hlen
  have hwhole : hs.take 8 ++ (hs.drop 8).take 4 ++ (hs.drop 12).take 4 ++ (hs.drop 16).take 4 ++
      hs.drop 20 = hs := by
    simp only [List.append_assoc]
    rw [← List.drop_drop (i := 4) (j := 16) (l := hs), List.take_append_drop,
      ← List.drop_drop (i := 4) (j := 12) (l := hs), List.take_append_drop,
      ← List.drop_drop (i := 4) (j := 8) (l := hs), List.take_append_drop, List.take_append_drop]
  refine ⟨_, _, _, _, _, rfl, ?_, ?_, ?_, ?_, ?_, hwhole⟩ <;> simp [hlen]

def lowerDigits : List Char :=
  ['0', '1', '2', '3', '4', '5', '6', '7', '8', '9', 'a', 'b', 'c', 'd', 'e', 'f']

/-- Thirty-two digits in lower case, in groups of 8, 4, 4, 4 and 12 with hyphens between. -/
def SpelledBy (u : Uuid) (name : String) : Prop :=
  ∃ a b c d e : List Char,
    name.toList = a ++ '-' :: (b ++ '-' :: (c ++ '-' :: (d ++ '-' :: e))) ∧ a.length = 8 ∧
    b.length = 4 ∧ c.length = 4 ∧ d.length = 4 ∧ e.length = 12 ∧
    (a ++ b ++ c ++ d ++ e).map some = u.digits.map fun d => lowerDigits[d.val]?

theorem spelledBy_text (u : Uuid) : u.SpelledBy (String.ofList u.text) := by
  have hlower : ∀ d : Fin 16, some (hexDigit d.val) = lowerDigits[d.val]? := by decide
  obtain ⟨a, b, c, d, e, htext, ha, hb, hc, hd, he, hwhole⟩ := u.text_groups
  refine ⟨a, b, c, d, e, ?_, ha, hb, hc, hd, he, ?_⟩
  · rw [String.toList_ofList, htext]
  · rw [hwhole, List.map_map]
    exact List.map_congr_left fun d _ => hlower d

theorem ofText?_text (u : Uuid) : ofText? u.text = some u := by
  have hdigits := ofSimple?_digits u
  obtain ⟨d, ds, hd⟩ : ∃ d ds, u.digits = d :: ds := by
    cases h : u.digits with
    | nil =>
      have hsize := u.size
      rw [h] at hsize
      cases hsize
    | cons d ds => exact ⟨d, ds, rfl⟩
  have hfirst : ∃ cs, u.text = hexDigit d.val :: cs := by
    rw [text, hd]
    exact ⟨_, rfl⟩
  obtain ⟨cs, hcs⟩ := hfirst
  have hunmarked : unmarked u.text = (u.text, 0) := by rw [hcs, unmarked_digit]
  obtain ⟨a, b, c, d, e, htext, ha, hb, hc, hd, -, hwhole⟩ := u.text_groups
  rw [ofText?, hunmarked]
  simp only [if_true]
  rw [htext, ofSimple?_hyphen, ofHyphenated?_groups ha hb hc hd, hwhole, hdigits]
  rfl

theorem read_text (u : Uuid) : read (String.ofList u.text) = .ok u := by
  rw [read, String.toList_ofList, ofText?_text]

end PearlReport.Uuid
