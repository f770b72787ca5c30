import PearlReport.Json.Doc
import PearlReport.Json.Printer
import PearlReport.Proofs.Decimal

/-! Printed atoms are read back as tokens: a string up to its closing quote, a number up to what can
not continue it. -/

namespace PearlReport.Json

open PearlReport.Decimal

theorem unit?_control {n : Nat} (h : n < 0x20) :
    unit? '0' '0' (Text.hexDigit (n / 16)) (Text.hexDigit (n % 16)) = some n := by
  have hall : ∀ n < 0x20,
      unit? '0' '0' (Text.hexDigit (n / 16)) (Text.hexDigit (n % 16)) = some n := by decide
  exact hall n h

theorem scanString_short {e d : Char} (he : e ≠ 'u') (hd : shortEscape? e = some d)
    (seen rest : List Char) :
    scanString ⟨seen, none, none⟩ ('\\' :: e :: rest) =
      scanString ⟨d :: seen, none, none⟩ rest := by
  rw [scanString.eq_def]
  simp only [Char.reduceEq, if_false, if_true, if_neg he, hd]
  rfl

theorem scanString_unit {a b c d : Char} {n : Nat} (hn : unit? a b c d = some n)
    (h : n < 0xd800) (seen rest : List Char) :
    scanString ⟨seen, none, none⟩ ('\\' :: 'u' :: a :: b :: c :: d :: rest) =
      scanString ⟨Char.ofNat n :: seen, none, none⟩ rest := by
  have ht : Scan.takeUnit ⟨seen, none, none⟩ n rest = ⟨Char.ofNat n :: seen, none, none⟩ := by
    have h₁ : ¬ (0xdc00 ≤ n ∧ n ≤ 0xdfff) := by omega
    have h₂ : ¬ (0xd800 ≤ n ∧ n ≤ 0xdbff) := by omega
    rw [Scan.takeUnit, if_neg h₁, if_neg h₂]
    rfl
  rw [scanString.eq_def]
  simp only [Char.reduceEq, if_false, if_true, hn, ht]

theorem scanString_plain {c : Char} (hq : c ≠ '"') (hb : c ≠ '\\') (hn : ¬ c.toNat < 0x20)
    (seen rest : List Char) :
    scanString ⟨seen, none, none⟩ (c :: rest) = scanString ⟨c :: seen, none, none⟩ rest := by
  rw [scanString.eq_def]
  simp only [if_neg hq, if_neg hb, if_neg hn]
  rfl

theorem escape_cases (c : Char) :
    (∃ e, shortEscape? e = some c ∧ e ≠ 'u' ∧ escape c = ['\\', e]) ∨
    (c.toNat < 0x20 ∧ escape c =
      ['\\', 'u', '0', '0', Text.hexDigit (c.toNat / 16), Text.hexDigit (c.toNat % 16)]) ∨
    (c ≠ '"' ∧ c ≠ '\\' ∧ c ≠ '\r' ∧ ¬ c.toNat < 0x20 ∧ escape c = [c]) := by
  by_cases h₁ : c = '"'
  · subst h₁
    exact .inl ⟨'"', rfl, by decide, rfl⟩
  by_cases h₂ : c = '\\'
  · subst h₂
    exact .inl ⟨'\\', rfl, by decide, rfl⟩
  by_cases h₃ : c = '\x08'
  · subst h₃
    exact .inl ⟨'b', rfl, by decide, rfl⟩
  by_cases h₄ : c = '\t'
  · subst h₄
    exact .inl ⟨'t', rfl, by decide, rfl⟩
  by_cases h₅ : c = '\n'
  · subst h₅
    exact .inl ⟨'n', rfl, by decide, rfl⟩
  by_cases h₆ : c = '\x0c'
  · subst h₆
    exact .inl ⟨'f', rfl, by decide, rfl⟩
  by_cases h₇ : c = '\r'
  · subst h₇
    exact .inl ⟨'r', rfl, by decide, rfl⟩
  have hrest : escape c = if c.toNat < 0x20 then
      ['\\', 'u', '0', '0', Text.hexDigit (c.toNat / 16), Text.hexDigit (c.toNat % 16)]
      else [c] := by
    rw [escape, if_neg h₁, if_neg h₂, if_neg h₃, if_neg h₄, if_neg h₅, if_neg h₆, if_neg h₇]
  by_cases hn : c.toNat < 0x20
  · exact .inr (.inl ⟨hn, by rw [hrest, if_pos hn]⟩)
  · exact .inr (.inr ⟨h₁, h₂, h₇, hn, by rw [hrest, if_neg hn]⟩)

theorem scanString_escape (c : Char) (seen rest : List Char) :
    scanString ⟨seen, none, none⟩ (escape c ++ rest) = scanString ⟨c :: seen, none, none⟩ rest := by
  rcases escape_cases c with ⟨e, hs, hu, he⟩ | ⟨hn, he⟩ | ⟨hq, hb, -, hn, he⟩
  · rw [he]
    exact scanString_short hu hs seen rest
  · have hunit := scanString_unit (unit?_control hn) (by omega) seen rest
    rw [Char.ofNat_toNat] at hunit
    rw [he]
    exact hunit
  · rw [he]
    exact scanString_plain hq hb hn seen rest

theorem scanString_escapes (cs seen rest : List Char) :
    scanString ⟨seen, none, none⟩ (cs.flatMap escape ++ '"' :: rest) =
      .whole (.str (String.ofList (seen.reverse ++ cs))) rest := by
  induction cs generalizing seen with
  | nil =>
    rw [List.flatMap_nil, List.nil_append, List.append_nil, scanString.eq_def]
    simp only [if_true]
    rfl
  | cons c cs ih =>
    rw [List.flatMap_cons, List.append_assoc, scanString_escape, ih, List.reverse_cons,
      List.append_assoc]
    rfl

theorem scanString_quoted (s : String) (rest : List Char) :
    scanString .start (s.toList.flatMap escape ++ '"' :: rest) = .whole (.str s) rest := by
  have h := scanString_escapes s.toList [] rest
  rwa [List.reverse_nil, List.nil_append, String.ofList_toList] at h

/-- Nothing that could continue a number. -/
def Closed (rest : List Char) : Prop :=
  ∀ c ∈ rest.head?, isDigit c = false ∧ c ≠ '.' ∧ c ≠ 'e' ∧ c ≠ 'E'

theorem Closed.nil : Closed [] := by
  intro c hc
  cases hc

theorem Closed.cons {c : Char} {rest : List Char}
    (h : isDigit c = false ∧ c ≠ '.' ∧ c ≠ 'e' ∧ c ≠ 'E') : Closed (c :: rest) := by
  intro d hd
  cases hd
  exact h

theorem takeWhile_isDigit {ds rest : List Char} (hd : ∀ c ∈ ds, isDigit c = true)
    (hr : Closed rest) :
    (ds ++ rest).takeWhile isDigit = ds ∧ (ds ++ rest).dropWhile isDigit = rest := by
  rw [List.takeWhile_append_of_pos hd, List.dropWhile_append_of_pos hd]
  cases rest with
  | nil => simp
  | cons c cs => simp [(hr c rfl).1]

theorem takeWhole_fits {s : Nat} {ds : List Char}
    (h : valueOnto s ds ≤ 18446744073709551615) : takeWhole s ds = (valueOnto s ds, 0) := by
  induction ds generalizing s with
  | nil => rfl
  | cons d ds ih =>
    rw [valueOnto_cons] at h ⊢
    have hroom : room s d = true := by
      have hge := valueOnto_ge (s * 10 + digitValue d) ds
      simp only [room, decide_eq_true_eq]
      omega
    rw [takeWhole, if_pos hroom, ih h]

def Exact (n : Int) : Prop := -9223372036854775808 ≤ n ∧ n ≤ 18446744073709551615

theorem number_digits {n : Nat} {negative : Bool}
    (h : if negative then 0 < n ∧ n ≤ 9223372036854775808 else n ≤ 18446744073709551615) :
    Digits.number ⟨negative, digits n, none, none⟩ =
      .ok (.int (if negative then -(n : Int) else n)) := by
  have hw : takeWhole 0 (digits n) = (n, 0) := by
    have hv : valueOnto 0 (digits n) = n := digits_value n
    rw [takeWhole_fits (by rw [hv]; cases negative <;> simp at h <;> omega), hv]
  cases negative with
  | false => simp [Digits.number, hw]
  | true =>
    rw [if_pos rfl] at h
    simp [Digits.number, hw, h]

theorem fractionToken_closed {negative : Bool} {ds rest : List Char} (h : Closed rest) :
    fractionToken negative ds rest = numberToken ⟨negative, ds, none, none⟩ [] rest := by
  cases rest with
  | nil => rfl
  | cons c cs =>
    obtain ⟨-, hp, he, hE⟩ := h c rfl
    rw [fractionToken]
    all_goals simp_all

theorem digitsToken_digits {n : Nat} {negative : Bool} {rest : List Char} (hr : Closed rest)
    (h : if negative then 0 < n ∧ n ≤ 9223372036854775808 else n ≤ 18446744073709551615) :
    digitsToken negative (digits n ++ rest) =
      .whole (.num (.int (if negative then -(n : Int) else n))) rest := by
  obtain ⟨ht, hd⟩ := takeWhile_isDigit (digits_isDigit n) hr
  rw [digitsToken, ht, hd]
  split
  · rename_i he
    exact absurd he (digits_ne_nil n)
  · rename_i d ds he
    cases digits_zero_alone he
  · rw [fractionToken_closed hr, numberToken, number_digits h]

def Number.Exact : Number → Prop
  | .int n => Json.Exact n
  | .float _ => False

/-- Atoms whose text is read back as them; what is left out are binary fractions. -/
def Atom.Exact : Atom → Prop
  | .num n => n.Exact
  | _ => True

theorem lex?_digits {c : Char} {cs : List Char} (h : isDigit c = true) :
    Token.lex? (c :: cs) = some (digitsToken false (c :: cs)) := by
  have hne : ∀ d : Char, isDigit d = false → c ≠ d := fun d => isDigit_ne h
  rw [Token.lex?, if_neg (hne _ rfl), if_neg (hne _ rfl), if_neg (hne _ rfl), if_neg (hne _ rfl),
    if_neg (hne _ rfl), if_pos h]

theorem lex?_ofInt {n : Int} {rest : List Char} (h : Exact n) (hr : Closed rest) :
    Token.lex? (ofInt n ++ rest) = some (.whole (.num (.int n)) rest) := by
  obtain ⟨hlow, hhigh⟩ := h
  rw [ofInt]
  split
  · rename_i hneg
    have hd : digitsToken true (digits n.natAbs ++ rest) = _ :=
      digitsToken_digits hr (by rw [if_pos rfl]; omega)
    have hn : -(n.natAbs : Int) = n := by omega
    rw [if_pos rfl, hn] at hd
    rw [List.cons_append, ← hd]
    rfl
  · rename_i hneg
    have hd : digitsToken false (digits n.natAbs ++ rest) = _ :=
      digitsToken_digits hr (by simp; omega)
    have hn : (n.natAbs : Int) = n := by omega
    rw [if_neg (by decide), hn] at hd
    rw [← hd]
    cases hds : digits n.natAbs with
    | nil => exact absurd hds (digits_ne_nil _)
    | cons c cs =>
      refine lex?_digits (digits_isDigit n.natAbs c ?_)
      rw [hds]
      exact List.mem_cons_self

theorem lex?_text {a : Atom} {rest : List Char} (ha : a.Exact) (hr : Closed rest) :
    Token.lex? (a.text ++ rest) = some (.whole a rest) := by
  cases a with
  | null => rfl
  | bool b => cases b <;> rfl
  | num n =>
    cases n with
    | int n => exact lex?_ofInt ha hr
    | float bits => cases ha
  | str s =>
    have hq : (Atom.str s).text ++ rest = '"' :: (s.toList.flatMap escape ++ '"' :: rest) := by
      simp [Atom.text, quote]
    rw [hq, Token.lex?, if_pos rfl, scanString_quoted]

theorem lex?_opening {c : Char} {cs : List Char} {t : Token} (h : Token.lex? (c :: cs) = some t) :
    isSpace c = false ∧ c ≠ '[' ∧ c ≠ ']' ∧ c ≠ '\x7b' := by
  by_cases hc : c = '"' ∨ c = 'n' ∨ c = 't' ∨ c = 'f' ∨ c = '-'
  · rcases hc with rfl | rfl | rfl | rfl | rfl <;> decide
  · simp only [not_or] at hc
    obtain ⟨h₁, h₂, h₃, h₄, h₅⟩ := hc
    rw [Token.lex?, if_neg h₁, if_neg h₂, if_neg h₃, if_neg h₄, if_neg h₅] at h
    split at h
    · rename_i hd
      have hne : ∀ d : Char, isDigit d = false → c ≠ d := fun d => isDigit_ne hd
      refine ⟨?_, hne _ rfl, hne _ rfl, hne _ rfl⟩
      simp [isSpace, hne ' ' rfl, hne '\n' rfl, hne '\t' rfl, hne '\r' rfl]
    · cases h

end PearlReport.Json
