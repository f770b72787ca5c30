import PearlReport.Proofs.Placement
import PearlReport.Proofs.Token

/-! Printed documents are read back. The fuel that is needed is counted by the length of what is
printed: every second step of the parser takes a character. -/

namespace PearlReport.Json

namespace Value

mutual
def Exact : Value → Prop
  | .atom a => a.Exact
  | .arr vs => ExactItems vs
  | .obj ms => ExactMembers ms
def ExactItems : List Value → Prop
  | [] => True
  | v :: vs => v.Exact ∧ ExactItems vs
def ExactMembers : List (String × Value) → Prop
  | [] => True
  | m :: ms => m.2.Exact ∧ ExactMembers ms
end

theorem exactItems_iff (vs : List Value) : ExactItems vs ↔ ∀ v ∈ vs, v.Exact := by
  induction vs with
  | nil => simp [ExactItems]
  | cons v vs ih => simp only [ExactItems, ih, List.forall_mem_cons]

theorem exactMembers_iff (ms : List (String × Value)) :
    ExactMembers ms ↔ ∀ m ∈ ms, m.2.Exact := by
  induction ms with
  | nil => simp [ExactMembers]
  | cons m ms ih => simp only [ExactMembers, ih, List.forall_mem_cons]

end Value

@[simp] theorem skipSpace_newLine (level : Nat) (rest : List Char) :
    skipSpace (newLine level ++ rest) = skipSpace rest := by
  have hs : ∀ n : Nat, skipSpace (List.replicate n ' ' ++ rest) = skipSpace rest := by
    intro n
    induction n with
    | zero => rfl
    | succ n ih => exact ih
  exact hs (2 * level)

@[simp] theorem newLine_length (level : Nat) : (newLine level).length = 2 * level + 1 := by
  rw [newLine, List.length_cons, List.length_replicate]

def Opens (text : List Char) : Prop :=
  ∃ c cs, text = c :: cs ∧ isSpace c = false ∧ c ≠ ']'

theorem Opens.skipSpace_eq {text : List Char} (h : Opens text) : skipSpace text = text := by
  obtain ⟨c, cs, rfl, hs, -⟩ := h
  rw [skipSpace, List.dropWhile_cons, hs]
  rfl

theorem lines_opens {v : Value} (level : Nat) {rest : List Char} (hv : v.Exact)
    (hr : Closed rest) : Opens (v.lines level ++ rest) := by
  cases v with
  | atom a =>
    have hl := lex?_text hv hr
    rw [Value.lines]
    cases h : a.text ++ rest with
    | nil =>
      rw [h] at hl
      cases hl
    | cons c cs =>
      rw [h] at hl
      exact ⟨c, cs, rfl, (lex?_opening hl).1, (lex?_opening hl).2.2.1⟩
  | arr vs => cases vs with
    | nil => exact ⟨'[', _, rfl, rfl, by decide⟩
    | cons v vs => exact ⟨'[', _, rfl, rfl, by decide⟩
  | obj ms => cases ms with
    | nil => exact ⟨'\x7b', _, rfl, rfl, by decide⟩
    | cons m ms => exact ⟨'\x7b', _, rfl, rfl, by decide⟩

theorem closed_comma (rest : List Char) : Closed (',' :: rest) :=
  Closed.cons ⟨rfl, by decide, by decide, by decide⟩

theorem closed_newLine (level : Nat) (rest : List Char) : Closed (newLine level ++ rest) :=
  Closed.cons ⟨rfl, by decide, by decide, by decide⟩

theorem closed_moreItems (level outer : Nat) (vs : List Value) (rest : List Char) :
    Closed (Value.moreItems level vs ++ (newLine outer ++ rest)) := by
  cases vs with
  | nil => exact closed_newLine outer rest
  | cons v vs => exact closed_comma _

theorem closed_moreMembers (level outer : Nat) (ms : List (String × Value)) (rest : List Char) :
    Closed (Value.moreMembers level ms ++ (newLine outer ++ rest)) := by
  cases ms with
  | nil => exact closed_newLine outer rest
  | cons m ms => exact closed_comma _

variable {fuel : Nat} {d : Doc} {stop rest : Rest}

theorem parseValue_token {text : List Char} {t : Token} (h : Token.lex? text = some t) :
    parseValue (fuel + 1) text = (.token text t, t.stop?) := by
  cases text with
  | nil => cases h
  | cons c cs =>
    obtain ⟨hs, ha, -, ho⟩ := lex?_opening h
    have hskip : skipSpace (c :: cs) = c :: cs := by
      rw [skipSpace, List.dropWhile_cons, hs]
      rfl
    rw [parseValue, hskip]
    split
    · rename_i h'
      cases h'
    · rename_i h'
      cases h'
      exact absurd rfl ha
    · rename_i h'
      cases h'
      exact absurd rfl ho
    · rw [h]

theorem parseValue_array (body : List Char) :
    parseValue (fuel + 1) ('[' :: body) =
      (.array ('[' :: body) (parseItems fuel true body).1, (parseItems fuel true body).2) := rfl

theorem parseValue_object (body : List Char) :
    parseValue (fuel + 1) ('\x7b' :: body) =
      (.object ('\x7b' :: body) (parseMembers fuel true body).1,
        (parseMembers fuel true body).2) := rfl

theorem elementAt_contents {spot : List Char} {v : Value} {vs : List Value}
    (hv : ∃ d, parseValue fuel spot = (d, some stop) ∧ d.content? = some v)
    (hvs : ∃ items, parseItems fuel false stop = (items, some rest) ∧
      items.contents? = some vs) :
    ∃ items, elementAt fuel spot = (items, some rest) ∧ items.contents? = some (v :: vs) := by
  obtain ⟨d, hd, hc⟩ := hv
  obtain ⟨items, hi, hcs⟩ := hvs
  refine ⟨.next d items, ?_, ?_⟩
  · rw [elementAt, hd]
    simp only [hi]
  · rw [Items.contents?, hc, hcs]
    rfl

theorem Opens.skipSpace_newLine {text : List Char} (h : Opens text) (level : Nat) :
    skipSpace (newLine level ++ text) = text := by
  rw [Json.skipSpace_newLine, h.skipSpace_eq]

theorem parseItems_first {text : List Char} (h : Opens text) (level : Nat) :
    parseItems (fuel + 1) true (newLine level ++ text) = elementAt fuel text := by
  have hskip := h.skipSpace_newLine level
  obtain ⟨c, cs, rfl, hs, hc⟩ := h
  rw [parseItems_succ, hskip]
  split
  · rename_i h'
    cases h'
  · rename_i h'
    cases h'
    exact absurd rfl hc
  · rename_i h'
    cases h'
    rw [if_pos rfl]
  · rw [if_pos rfl]

theorem parseItems_next {text : List Char} (h : Opens text) (level : Nat) :
    parseItems (fuel + 1) false (',' :: (newLine level ++ text)) = elementAt fuel text := by
  have hskip := h.skipSpace_newLine level
  have hcomma : skipSpace (',' :: (newLine level ++ text)) = ',' :: (newLine level ++ text) := rfl
  obtain ⟨c, cs, rfl, hs, hc⟩ := h
  rw [parseItems_succ, hcomma]
  simp only [if_neg Bool.false_ne_true, hskip]
  split
  · rename_i h'
    cases h'
  · rename_i h'
    cases h'
    exact absurd rfl hc
  · rfl

theorem parseItems_end (level : Nat) (rest : Rest) :
    parseItems (fuel + 1) false (newLine level ++ ']' :: rest) =
      (.close (']' :: rest), some rest) := by
  have hskip : skipSpace (newLine level ++ ']' :: rest) = ']' :: rest := skipSpace_newLine level _
  rw [parseItems_succ, hskip]
  rfl

theorem memberAt_contents (key : String) {text : List Char} {v : Value}
    {ms : List (String × Value)}
    (hv : ∃ d, parseValue (fuel + 1) text = (d, some stop) ∧ d.content? = some v)
    (hms : ∃ members, parseMembers (fuel + 1) false stop = (members, some rest) ∧
      members.contents? = some ms) :
    ∃ members,
      memberAt (fuel + 1) (key.toList.flatMap escape ++ '"' :: ':' :: ' ' :: text) =
        (members, some rest) ∧ members.contents? = some ((key, v) :: ms) := by
  obtain ⟨d, hd, hc⟩ := hv
  obtain ⟨members, hm, hcs⟩ := hms
  have hblank : parseValue (fuel + 1) (' ' :: text) = parseValue (fuel + 1) text := by
    rw [parseValue, parseValue]
    rfl
  have hkey : afterKey (parseValue (fuel + 1)) (':' :: ' ' :: text) = (d, some stop) := by
    rw [← hd, ← hblank]
    rfl
  refine ⟨.next (.ok key) (':' :: ' ' :: text) d members, ?_, ?_⟩
  · rw [memberAt, scanString_quoted]
    simp only [memberAfter, hkey, hm]
  · rw [Members.contents?, hc, hcs]
    rfl

theorem skipSpace_key (key : String) (text : List Char) (level : Nat) :
    skipSpace (newLine level ++ (quote key ++ text)) =
      '"' :: (key.toList.flatMap escape ++ '"' :: text) := by
  rw [skipSpace_newLine]
  simp [quote, skipSpace, isSpace]

theorem parseMembers_first (key : String) (text : List Char) (level : Nat) :
    parseMembers (fuel + 1) true (newLine level ++ (quote key ++ text)) =
      memberAt fuel (key.toList.flatMap escape ++ '"' :: text) := by
  rw [parseMembers_succ, skipSpace_key]
  simp only [if_pos]

theorem parseMembers_next (key : String) (text : List Char) (level : Nat) :
    parseMembers (fuel + 1) false (',' :: (newLine level ++ (quote key ++ text))) =
      memberAt fuel (key.toList.flatMap escape ++ '"' :: text) := by
  have hcomma : skipSpace (',' :: (newLine level ++ (quote key ++ text))) =
      ',' :: (newLine level ++ (quote key ++ text)) := rfl
  rw [parseMembers_succ, hcomma]
  simp only [if_neg Bool.false_ne_true, skipSpace_key]

theorem parseMembers_end (level : Nat) (rest : Rest) :
    parseMembers (fuel + 1) false (newLine level ++ '\x7d' :: rest) =
      (.close ('\x7d' :: rest), some rest) := by
  have hskip : skipSpace (newLine level ++ '\x7d' :: rest) = '\x7d' :: rest :=
    skipSpace_newLine level _
  rw [parseMembers_succ, hskip]
  rfl

mutual
theorem parseValue_lines : (v : Value) → v.Exact → ∀ {level fuel : Nat} {rest : Rest},
    2 * (v.lines level).length ≤ fuel → Closed rest →
    ∃ d, parseValue fuel (v.lines level ++ rest) = (d, some rest) ∧ d.content? = some v
  | .atom a, ha, level, 0, rest, hf, hr => by
    have hl : Token.lex? (a.text ++ []) = _ := lex?_text ha Closed.nil
    rw [List.append_nil] at hl
    cases h : a.text with
    | nil =>
      rw [h] at hl
      cases hl
    | cons c cs =>
      rw [Value.lines, h, List.length_cons] at hf
      omega
  | .atom a, ha, level, fuel + 1, rest, hf, hr => by
    rw [Value.lines, parseValue_token (lex?_text ha hr)]
    exact ⟨_, rfl, rfl⟩
  | .arr [], _, level, fuel, rest, hf, hr => by
    obtain ⟨fuel, rfl⟩ : ∃ f, fuel = f + 2 := ⟨fuel - 2, by simp [Value.lines] at hf; omega⟩
    exact ⟨.array _ (.close _), rfl, rfl⟩
  | .arr (v :: vs), ⟨hv, hvs⟩, level, fuel, rest, hf, hr => by
    simp only [Value.lines, List.length_cons, List.length_append, newLine_length,
      List.length_nil] at hf
    obtain ⟨fuel, rfl⟩ : ∃ f, fuel = f + 2 := ⟨fuel - 2, by omega⟩
    have hclosed := closed_moreItems (level + 1) level vs (']' :: rest)
    have hd := parseValue_lines v hv (show 2 * (v.lines (level + 1)).length ≤ fuel by omega) hclosed
    have hds := parseItems_more vs hvs level rest
      (show 2 * (Value.moreItems (level + 1) vs).length + 1 ≤ fuel by omega)
    obtain ⟨items, hi, hc⟩ := elementAt_contents hd hds
    have htext : (Value.arr (v :: vs)).lines level ++ rest =
        '[' :: (newLine (level + 1) ++ (v.lines (level + 1) ++
          (Value.moreItems (level + 1) vs ++ (newLine level ++ ']' :: rest)))) := by
      simp [Value.lines]
    rw [htext, parseValue_array, parseItems_first (lines_opens _ hv hclosed), hi]
    exact ⟨_, rfl, by rw [Doc.content?, hc]; rfl⟩
  | .obj [], _, level, fuel, rest, hf, hr => by
    obtain ⟨fuel, rfl⟩ : ∃ f, fuel = f + 2 := ⟨fuel - 2, by simp [Value.lines] at hf; omega⟩
    exact ⟨.object _ (.close _), rfl, rfl⟩
  | .obj ((k, v) :: ms), ⟨hv, hms⟩, level, fuel, rest, hf, hr => by
    simp only [Value.lines, List.length_cons, List.length_append, newLine_length,
      List.length_nil] at hf
    obtain ⟨fuel, rfl⟩ : ∃ f, fuel = f + 3 := ⟨fuel - 3, by omega⟩
    have hclosed := closed_moreMembers (level + 1) level ms ('\x7d' :: rest)
    have hd := parseValue_lines v hv
      (show 2 * (v.lines (level + 1)).length ≤ fuel + 1 by omega) hclosed
    have hds := parseMembers_more ms hms level rest
      (show 2 * (Value.moreMembers (level + 1) ms).length + 1 ≤ fuel + 1 by omega)
    obtain ⟨members, hm, hc⟩ := memberAt_contents k hd hds
    have htext : (Value.obj ((k, v) :: ms)).lines level ++ rest =
        '\x7b' :: (newLine (level + 1) ++ (quote k ++ (':' :: ' ' :: (v.lines (level + 1) ++
          (Value.moreMembers (level + 1) ms ++ (newLine level ++ '\x7d' :: rest)))))) := by
      simp [Value.lines]
    rw [htext, parseValue_object, parseMembers_first, hm]
    exact ⟨_, rfl, by rw [Doc.content?, hc]; rfl⟩
theorem parseItems_more : (vs : List Value) → Value.ExactItems vs →
    ∀ (outer : Nat) (rest : Rest) {level fuel : Nat},
    2 * (Value.moreItems level vs).length + 1 ≤ fuel →
    ∃ items,
      parseItems fuel false (Value.moreItems level vs ++ (newLine outer ++ ']' :: rest)) =
        (items, some rest) ∧ items.contents? = some vs
  | [], _, outer, rest, level, 0, hf => by omega
  | [], _, outer, rest, level, fuel + 1, hf =>
    ⟨.close (']' :: rest), parseItems_end outer rest, rfl⟩
  | v :: vs, ⟨hv, hvs⟩, outer, rest, level, fuel, hf => by
    simp only [Value.moreItems, List.length_cons, List.length_append, newLine_length] at hf
    obtain ⟨fuel, rfl⟩ : ∃ f, fuel = f + 1 := ⟨fuel - 1, by omega⟩
    have hclosed := closed_moreItems level outer vs (']' :: rest)
    have hd := parseValue_lines v hv (show 2 * (v.lines level).length ≤ fuel by omega) hclosed
    have hds := parseItems_more vs hvs outer rest
      (show 2 * (Value.moreItems level vs).length + 1 ≤ fuel by omega)
    have htext : Value.moreItems level (v :: vs) ++ (newLine outer ++ ']' :: rest) =
        ',' :: (newLine level ++ (v.lines level ++
          (Value.moreItems level vs ++ (newLine outer ++ ']' :: rest)))) := by
      simp [Value.moreItems]
    rw [htext, parseItems_next (lines_opens _ hv hclosed)]
    exact elementAt_contents hd hds
theorem parseMembers_more : (ms : List (String × Value)) → Value.ExactMembers ms →
    ∀ (outer : Nat) (rest : Rest) {level fuel : Nat},
    2 * (Value.moreMembers level ms).length + 1 ≤ fuel →
    ∃ members,
      parseMembers fuel false (Value.moreMembers level ms ++ (newLine outer ++ '\x7d' :: rest)) =
        (members, some rest) ∧ members.contents? = some ms
  | [], _, outer, rest, level, 0, hf => by omega
  | [], _, outer, rest, level, fuel + 1, hf =>
    ⟨.close ('\x7d' :: rest), parseMembers_end outer rest, rfl⟩
  | (k, v) :: ms, ⟨hv, hms⟩, outer, rest, level, fuel, hf => by
    simp only [Value.moreMembers, List.length_cons, List.length_append, newLine_length] at hf
    obtain ⟨fuel, rfl⟩ : ∃ f, fuel = f + 2 := ⟨fuel - 2, by omega⟩
    have hclosed := closed_moreMembers level outer ms ('\x7d' :: rest)
    have hd := parseValue_lines v hv
      (show 2 * (v.lines level).length ≤ fuel + 1 by omega) hclosed
    have hds := parseMembers_more ms hms outer rest
      (show 2 * (Value.moreMembers level ms).length + 1 ≤ fuel + 1 by omega)
    have htext : Value.moreMembers level ((k, v) :: ms) ++ (newLine outer ++ '\x7d' :: rest) =
        ',' :: (newLine level ++ (quote k ++ (':' :: ' ' :: (v.lines level ++
          (Value.moreMembers level ms ++ (newLine outer ++ '\x7d' :: rest)))))) := by
      simp [Value.moreMembers]
    rw [htext, parseMembers_next]
    exact memberAt_contents k hd hds
end

end PearlReport.Json
