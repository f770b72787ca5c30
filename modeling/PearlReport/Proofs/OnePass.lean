import PearlReport.Proofs.Breaks

/-! A text in one pass from left to right: its breaks, a carriage return with a line feed taken as
one, and its other characters. The two passes that unify breaks come to the same as one line feed for
each break found so. -/

namespace PearlReport.Text

inductive Break where
  | pair
  | carriageReturn
  | lineFeed

def Break.chars : Break → List Char
  | .pair => ['\r', '\n']
  | .carriageReturn => ['\r']
  | .lineFeed => ['\n']

inductive Piece where
  | lineBreak (b : Break)
  | plain (c : Char)

namespace Piece

def chars : Piece → List Char
  | .lineBreak b => b.chars
  | .plain c => [c]

def isBreak : Piece → Bool
  | .lineBreak _ => true
  | .plain _ => false

def unified : Piece → Char
  | .lineBreak _ => '\n'
  | .plain c => c

end Piece

def pieces : List Char → List Piece
  | [] => []
  | '\r' :: '\n' :: cs => .lineBreak .pair :: pieces cs
  | '\r' :: cs => .lineBreak .carriageReturn :: pieces cs
  | '\n' :: cs => .lineBreak .lineFeed :: pieces cs
  | c :: cs => .plain c :: pieces cs

variable {c : Char} {cs : List Char}

theorem pieces_return (h : cs.head? ≠ some '\n') :
    pieces ('\r' :: cs) = .lineBreak .carriageReturn :: pieces cs := by
  rw [pieces]
  rintro ds rfl
  exact h rfl

theorem pieces_plain (hr : c ≠ '\r') (hn : c ≠ '\n') (cs : List Char) :
    pieces (c :: cs) = .plain c :: pieces cs := by
  rw [pieces]
  · exact fun _ hc _ => hr hc
  · exact hr
  · exact hn

theorem pieces_induction {motive : List Char → Prop} (nil : motive [])
    (pair : ∀ cs, motive cs → motive ('\r' :: '\n' :: cs))
    (carriageReturn : ∀ cs, cs.head? ≠ some '\n' → motive cs → motive ('\r' :: cs))
    (lineFeed : ∀ cs, motive cs → motive ('\n' :: cs))
    (plain : ∀ c cs, c ≠ '\r' → c ≠ '\n' → motive cs → motive (c :: cs)) (cs : List Char) :
    motive cs := by
  induction cs using pieces.induct with
  | case1 => exact nil
  | case2 cs ih => exact pair cs ih
  | case3 cs hnot ih =>
    apply carriageReturn cs _ ih
    intro h
    obtain ⟨ds, rfl⟩ := List.head?_eq_some_iff.1 h
    exact hnot ds rfl
  | case4 cs ih => exact lineFeed cs ih
  | case5 c cs _ hr hn ih => exact plain c cs hr hn ih

theorem flatMap_pieces (cs : List Char) : (pieces cs).flatMap Piece.chars = cs := by
  induction cs using pieces_induction with
  | nil => rfl
  | pair cs ih =>
    rw [pieces, List.flatMap_cons, ih]
    rfl
  | carriageReturn cs h ih =>
    rw [pieces_return h, List.flatMap_cons, ih]
    rfl
  | lineFeed cs ih =>
    rw [pieces, List.flatMap_cons, ih]
    rfl
  | plain c cs hr hn ih =>
    rw [pieces_plain hr hn, List.flatMap_cons, ih]
    rfl

theorem plain_mem_pieces (h : .plain c ∈ pieces cs) : c ≠ '\r' ∧ c ≠ '\n' := by
  have hafter {b : Break} {ps : List Piece} (h : .plain c ∈ .lineBreak b :: ps) : .plain c ∈ ps :=
    (List.mem_cons.1 h).resolve_left nofun
  induction cs using pieces_induction with
  | nil => cases h
  | pair cs ih => exact ih (hafter h)
  | carriageReturn cs hnot ih =>
    rw [pieces_return hnot] at h
    exact ih (hafter h)
  | lineFeed cs ih =>
    rw [pieces] at h
    exact ih (hafter h)
  | plain d cs hr hn ih =>
    rw [pieces_plain hr hn] at h
    rcases List.mem_cons.1 h with hd | hmem
    · cases hd
      exact ⟨hr, hn⟩
    · exact ih hmem

/-- A pair begins at the end of the one text and ends in the other. -/
def PairBetween (cs ds : List Char) : Prop := cs.getLast? = some '\r' ∧ ds.head? = some '\n'

theorem PairBetween.cons {ds : List Char} (h : PairBetween cs ds) (c : Char) :
    PairBetween (c :: cs) ds := by
  refine ⟨?_, h.2⟩
  rw [List.getLast?_cons, h.1]
  rfl

theorem pieces_append {ds : List Char} (h : ¬ PairBetween cs ds) :
    pieces (cs ++ ds) = pieces cs ++ pieces ds := by
  induction cs using pieces_induction with
  | nil => rfl
  | pair cs ih =>
    have hcs := ih fun hp => h ((hp.cons _).cons _)
    rw [List.cons_append, List.cons_append, pieces, pieces, hcs, List.cons_append]
  | carriageReturn cs hnot ih =>
    have hcs := ih fun hp => h (hp.cons _)
    have hhead : (cs ++ ds).head? ≠ some '\n' := by
      cases cs with
      | nil => exact fun hn => h ⟨rfl, hn⟩
      | cons c cs => exact hnot
    rw [List.cons_append, pieces_return hhead, pieces_return hnot, hcs, List.cons_append]
  | lineFeed cs ih =>
    have hcs := ih fun hp => h (hp.cons _)
    rw [List.cons_append, pieces, pieces, hcs, List.cons_append]
  | plain c cs hr hn ih =>
    have hcs := ih fun hp => h (hp.cons _)
    rw [List.cons_append, pieces_plain hr hn, pieces_plain hr hn, hcs, List.cons_append]

theorem unify_return (h : cs.head? ≠ some '\n') : unify ('\r' :: cs) = '\n' :: unify cs := by
  rw [unify, mergePairs]
  · rfl
  · rintro ds - rfl
    exact h rfl

theorem unify_eq_map (cs : List Char) : unify cs = (pieces cs).map Piece.unified := by
  induction cs using pieces_induction with
  | nil => rfl
  | pair cs ih => exact congrArg ('\n' :: ·) ih
  | carriageReturn cs h ih =>
    rw [unify_return h, pieces_return h, ih]
    rfl
  | lineFeed cs ih =>
    rw [unify_other (by decide), pieces, ih]
    rfl
  | plain c cs hr hn ih =>
    rw [unify_other hr, pieces_plain hr hn, ih]
    rfl

theorem return_not_mem_unify (cs : List Char) : '\r' ∉ unify cs := by
  rw [unify_eq_map, List.mem_map]
  rintro ⟨p, hp, hr⟩
  cases p with
  | lineBreak b => cases hr
  | plain c => exact (plain_mem_pieces hp).1 hr

theorem count_unify (cs : List Char) : (unify cs).count '\n' = (pieces cs).countP Piece.isBreak := by
  rw [unify_eq_map, List.count, List.countP_map]
  apply List.countP_congr
  intro p hp
  cases p with
  | lineBreak b => exact iff_of_true rfl rfl
  | plain c =>
    have hn : c ≠ '\n' := (plain_mem_pieces hp).2
    simp [Piece.unified, Piece.isBreak, hn]

theorem unify_append {ds : List Char} (h : ¬ PairBetween cs ds) :
    unify (cs ++ ds) = unify cs ++ unify ds := by
  rw [unify_eq_map, unify_eq_map, unify_eq_map, pieces_append h, List.map_append]

theorem unify_append_pair (cs ds : List Char) :
    unify (cs ++ ['\r'] ++ '\n' :: ds) = unify cs ++ '\n' :: unify ds ∧
    unify (cs ++ ['\r']) ++ unify ('\n' :: ds) = unify cs ++ '\n' :: '\n' :: unify ds := by
  have hreturn (ds : List Char) : unify (cs ++ '\r' :: ds) = unify cs ++ unify ('\r' :: ds) :=
    unify_append fun hp => absurd hp.2 (by simp)
  have hfeed : unify ('\n' :: ds) = '\n' :: unify ds := unify_other (by decide) ds
  refine ⟨?_, ?_⟩
  · rw [List.append_assoc, List.singleton_append, hreturn]
    rfl
  · rw [hreturn, hfeed, List.append_assoc]
    rfl

theorem unify_append_iff (cs ds : List Char) :
    unify (cs ++ ds) = unify cs ++ unify ds ↔ ¬ PairBetween cs ds := by
  refine ⟨?_, unify_append⟩
  rintro h ⟨hr, hn⟩
  obtain ⟨cs, rfl⟩ := List.getLast?_eq_some_iff.1 hr
  obtain ⟨ds, rfl⟩ := List.head?_eq_some_iff.1 hn
  obtain ⟨hone, htwo⟩ := unify_append_pair cs ds
  rw [hone, htwo] at h
  have hlength := congrArg List.length h
  simp at hlength

/-- Unifying the breaks of a text writes each of its pieces in one pass: a line feed for a break, and
any other character as it is. So no carriage return is left, there are as many line feeds as the text
has breaks, and unifying again changes nothing. Two texts are unified as one where each is unified on
its own, but for a pair that joins them. -/
theorem unifyBreaks_in_one_pass (text : String) :
    (pieces text.toList).flatMap Piece.chars = text.toList ∧
    (unifyBreaks text).toList = (pieces text.toList).map Piece.unified ∧
    '\r' ∉ (unifyBreaks text).toList ∧
    (unifyBreaks text).toList.count '\n' = (pieces text.toList).countP Piece.isBreak ∧
    unifyBreaks (unifyBreaks text) = unifyBreaks text ∧
    ∀ more, unifyBreaks (text ++ more) = unifyBreaks text ++ unifyBreaks more ↔
      ¬ (text.toList.getLast? = some '\r' ∧ more.toList.head? = some '\n') := by
  have htext (s : String) : (unifyBreaks s).toList = unify s.toList := String.toList_ofList
  have hreturn := return_not_mem_unify text.toList
  refine ⟨flatMap_pieces _, ?_, ?_, ?_, ?_, ?_⟩
  · rw [htext, unify_eq_map]
  · rw [htext]
    exact hreturn
  · rw [htext, count_unify]
  · rw [unifyBreaks, htext, unify_id hreturn]
    rfl
  · intro more
    have happend := unify_append_iff text.toList more.toList
    rw [← String.toList_inj, String.toList_append, htext, htext, htext, String.toList_append]
    exact happend

example : unifyBreaks "\n\r\r\n\r\n\n\r" = "\n\n\n\n\n\n" := by decide

end PearlReport.Text
