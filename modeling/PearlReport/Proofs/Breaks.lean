import PearlReport.Proofs.Written

/-! Printed documents have no carriage return, so unifying the breaks of their text leaves it as it
is: the canonical text of a document is its printed form, and reading it gives the document. -/

namespace PearlReport

open Decimal

namespace Text

theorem unify_other {c : Char} (h : c ≠ '\r') (cs : List Char) :
    unify (c :: cs) = c :: unify cs := by
  have hc : returnsToFeeds (c :: mergePairs cs) = c :: returnsToFeeds (mergePairs cs) := by
    rw [returnsToFeeds, List.map_cons, if_neg h]
    rfl
  rw [unify, mergePairs, hc]
  · rfl
  · exact fun _ hr _ => h hr

theorem unify_id {cs : List Char} (h : '\r' ∉ cs) : unify cs = cs := by
  induction cs with
  | nil => rfl
  | cons c cs ih =>
    rw [List.mem_cons, not_or] at h
    rw [unify_other (Ne.symm h.1), ih h.2]

end Text

namespace Json

theorem return_not_mem_escape (c : Char) : '\r' ∉ escape c := by
  rcases escape_cases c with ⟨e, hs, -, he⟩ | ⟨hn, he⟩ | ⟨-, -, hr, -, he⟩
  · have hne : '\r' ≠ e := by
      intro h
      rw [← h] at hs
      cases hs
    simp [he, hne]
  · have hhex : ∀ n < 0x20, '\r' ∉ ['\\', 'u', '0', '0', Text.hexDigit (n / 16),
        Text.hexDigit (n % 16)] := by decide
    rw [he]
    exact hhex _ hn
  · simp [he, hr.symm]

theorem return_not_mem_quote (s : String) : '\r' ∉ quote s := by
  simp [quote, return_not_mem_escape]

theorem return_not_mem_digits (n : Nat) : '\r' ∉ digits n := by
  intro h
  exact absurd (digits_isDigit n _ h) (by decide)

theorem return_not_mem_exponentText (e : Int) : '\r' ∉ Double.exponentText e := by
  rw [Double.exponentText]
  split <;> simp [return_not_mem_digits]

theorem return_not_mem_layOut (d : Double.Decimal) : '\r' ∉ Double.layOut d := by
  have hds := return_not_mem_digits d.digits
  rw [Double.layOut]
  split
  · simp [hds]
  split
  · simp [mt List.mem_of_mem_take hds, mt List.mem_of_mem_drop hds]
  split
  · simp [hds]
  · split
    · simp
    · rename_i h
      rw [h] at hds
      simp_all [return_not_mem_exponentText]
    · rename_i h
      rw [h] at hds
      simp_all [return_not_mem_exponentText]

theorem return_not_mem_float (bits : UInt64) : '\r' ∉ Double.text bits := by
  have hmagnitude : ∀ p : Double.Parts, '\r' ∉
      (if p.mantissa = 0 then ['0', '.', '0'] else Double.layOut (Double.shortest p)) := by
    intro p
    split
    · decide
    · exact return_not_mem_layOut _
  rw [Double.text]
  split
  · rw [List.mem_cons, not_or]
    exact ⟨by decide, hmagnitude _⟩
  · exact hmagnitude _

theorem return_not_mem_text (a : Atom) : '\r' ∉ a.text := by
  cases a with
  | null => decide
  | bool b => cases b <;> decide
  | num n =>
    cases n with
    | int n =>
      rw [Atom.text, Number.text, ofInt]
      split
      · simp [return_not_mem_digits]
      · exact return_not_mem_digits _
    | float bits => exact return_not_mem_float bits
  | str s => exact return_not_mem_quote s

theorem return_not_mem_newLine (level : Nat) : '\r' ∉ newLine level := by
  simp [newLine]

mutual
theorem return_not_mem_lines : (v : Value) → (level : Nat) → '\r' ∉ v.lines level
  | .atom a, _ => return_not_mem_text a
  | .arr [], _ => by simp [Value.lines]
  | .arr (v :: vs), level => by
    have h := return_not_mem_lines v (level + 1)
    have hs := return_not_mem_moreItems vs (level + 1)
    simp [Value.lines, return_not_mem_newLine, h, hs]
  | .obj [], _ => by simp [Value.lines]
  | .obj ((k, v) :: ms), level => by
    have h := return_not_mem_lines v (level + 1)
    have hs := return_not_mem_moreMembers ms (level + 1)
    simp [Value.lines, return_not_mem_newLine, return_not_mem_quote, h, hs]
theorem return_not_mem_moreItems :
    (vs : List Value) → (level : Nat) → '\r' ∉ Value.moreItems level vs
  | [], _ => by simp [Value.moreItems]
  | v :: vs, level => by
    have h := return_not_mem_lines v level
    have hs := return_not_mem_moreItems vs level
    simp [Value.moreItems, return_not_mem_newLine, h, hs]
theorem return_not_mem_moreMembers :
    (ms : List (String × Value)) → (level : Nat) → '\r' ∉ Value.moreMembers level ms
  | [], _ => by simp [Value.moreMembers]
  | (k, v) :: ms, level => by
    have h := return_not_mem_lines v level
    have hs := return_not_mem_moreMembers ms level
    simp [Value.moreMembers, return_not_mem_newLine, return_not_mem_quote, h, hs]
end

theorem Value.canonical_eq_pretty (v : Value) : v.canonical = v.pretty := by
  rw [Value.canonical, Value.pretty, Text.unifyBreaks, String.toList_ofList,
    Text.unify_id (return_not_mem_lines v 0)]

theorem Value.return_not_mem_canonical (v : Value) : '\r' ∉ v.canonical.toList := by
  rw [Value.canonical_eq_pretty, Value.pretty, String.toList_ofList]
  exact return_not_mem_lines v 0

theorem content?_canonical {v : Value} (h : v.Exact) :
    content? v.canonical.toList = some v := by
  rw [Value.canonical_eq_pretty, Value.pretty, String.toList_ofList]
  have hfuel : 2 * (v.lines 0).length ≤ 2 * (v.lines 0).length + 2 := by omega
  obtain ⟨d, hd, hc⟩ := parseValue_lines v h hfuel Closed.nil
  rw [List.append_nil] at hd
  have hparse : Doc.parse (v.lines 0) = d := by rw [Doc.parse, hd]
  have hskip : d.skip = .ok [] := by
    have hs := ((parse_sound (2 * (v.lines 0).length + 2)).1 (v.lines 0)).2
    rw [hd] at hs
    exact hs [] rfl
  rw [content?, hparse]
  simp only [hc, Option.bind_some]
  rw [Outcome.toOption_eq_some, Doc.onlyThen_eq_ok]
  exact ⟨rfl, [], hskip, rfl⟩

theorem Value.parse_canonical {v : Value} (he : v.Exact) (hd : v.Distinct)
    (hn : v.depth ≤ maxLevels) : Value.parse v.canonical = .ok v :=
  Value.parse_eq_ok.2 ⟨v, content?_canonical he, hn, v.gathered_of_distinct hd⟩

/-- Every document is written, and as it is printed: there is no carriage return in the text, so
that no break of it is changed. If its numbers are integers of the 64-bit ranges and its keys are
distinct, the text is read as that document, with every key in its place, and if it is nested too
deep for the reader it is refused. -/
theorem canonical_lossless (v : Value) :
    ∃ text, Shape.any.serializeText v = .ok text ∧ '\r' ∉ text.toList ∧ text = v.pretty ∧
      Text.unifyBreaks text = text ∧
      (v.Exact → v.Distinct →
        (v.depth ≤ maxLevels → Value.parse text = .ok v) ∧
        (maxLevels < v.depth → ∀ w, Value.parse text ≠ .ok w)) := by
  have hsame : Text.unifyBreaks v.pretty = v.pretty := v.canonical_eq_pretty
  refine ⟨v.canonical, Shape.any.serializeText_eq v, v.return_not_mem_canonical,
    v.canonical_eq_pretty, ?_, ?_⟩
  · rw [v.canonical_eq_pretty, hsame]
  · intro he hd
    refine ⟨Value.parse_canonical he hd, ?_⟩
    intro hdeep w hw
    obtain ⟨u, hu, hn, -⟩ := Value.parse_eq_ok.1 hw
    cases (content?_canonical he).symm.trans hu
    exact absurd hn (Nat.not_le.2 hdeep)

def breaksDoc : Value :=
  .obj [("\r\n", .arr [.str "\u2028\"\\\x00\r", .ofInt (-9223372036854775808),
    .ofInt 18446744073709551615, .arr []]), ("\n\r", .obj []), ("", .bool false)]

theorem canonical_lossless_breaks :
    breaksDoc.Exact ∧ breaksDoc.Distinct ∧ breaksDoc.depth ≤ maxLevels ∧
    ∃ text, Shape.any.serializeText breaksDoc = .ok text ∧ '\r' ∉ text.toList ∧
      Value.parse text = .ok breaksDoc := by
  have he : breaksDoc.Exact := by
    simp [breaksDoc, Value.Exact, Value.ExactItems, Value.ExactMembers, Value.ofInt, Atom.Exact,
      Number.Exact, Json.Exact]
  have hd : breaksDoc.Distinct := by
    simp [breaksDoc, Value.Distinct, Value.DistinctItems, Value.DistinctMembers, Value.ofInt]
  have hn : breaksDoc.depth ≤ maxLevels := by decide
  obtain ⟨text, htext, hreturn, -, -, hread⟩ := canonical_lossless breaksDoc
  exact ⟨he, hd, hn, text, htext, hreturn, (hread he hd).1 hn⟩

end Json

end PearlReport
