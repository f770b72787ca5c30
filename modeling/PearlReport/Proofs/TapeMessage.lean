import PearlReport.Error
import PearlReport.Proofs.Outcome

/-! The message of tape failures scanned back. Its lines are the heading, one line for each failure
and the footing, and the first separator of a line ends the identifier of the tape, since no part of
the separator can start before its end. -/

namespace PearlReport

namespace Text

def linesOf (s : String) : List String := (s.toList.splitOn '\n').map String.ofList

theorem splitOn_ended {ls : List (List Char)} {rest : List Char} (h : ∀ l ∈ ls, '\n' ∉ l)
    (hr : '\n' ∉ rest) :
    (ls.flatMap (· ++ ['\n']) ++ rest).splitOn '\n' = ls ++ [rest] := by
  have hjoin : ls.flatMap (· ++ ['\n']) ++ rest = ['\n'].intercalate (ls ++ [rest]) := by
    clear h
    induction ls with
    | nil => simp
    | cons l ls ih =>
      rw [List.flatMap_cons, List.append_assoc, ih, List.cons_append,
        List.intercalate_cons_of_ne_nil (by simp)]
  have hlines : ∀ l ∈ ls ++ [rest], '\n' ∉ l := by
    intro l hl
    rcases List.mem_append.1 hl with hl | hl
    · exact h l hl
    · exact List.mem_singleton.1 hl ▸ hr
  rw [hjoin, List.splitOn_intercalate _ hlines (by simp)]

/-- The separator stands between `a` and `b`, and nowhere before. -/
def FirstAt (sep cs a b : List Char) : Prop :=
  cs = a ++ (sep ++ b) ∧ ∀ a' b', cs = a' ++ (sep ++ b') → a.length ≤ a'.length

def cut? (sep : List Char) : List Char → Option (List Char × List Char)
  | [] => if sep = [] then some ([], []) else none
  | c :: cs =>
    if sep <+: c :: cs then some ([], (c :: cs).drop sep.length)
    else (cut? sep cs).map fun p => (c :: p.1, p.2)

theorem FirstAt.nil {sep b : List Char} : FirstAt sep (sep ++ b) [] b :=
  ⟨rfl, fun _ _ _ => Nat.zero_le _⟩

theorem FirstAt.eq {sep cs a b a' b' : List Char} (h : FirstAt sep cs a b)
    (h' : FirstAt sep cs a' b') : a = a' ∧ b = b' := by
  have hlength : a.length = a'.length := Nat.le_antisymm (h.2 a' b' h'.1) (h'.2 a b h.1)
  obtain ⟨ha, hb⟩ := List.append_inj (h.1.symm.trans h'.1) hlength
  exact ⟨ha, List.append_cancel_left hb⟩

theorem firstAt_cons {sep cs a b : List Char} {c : Char} (h : ¬ sep <+: c :: cs) :
    FirstAt sep (c :: cs) a b ↔ ∃ a', a = c :: a' ∧ FirstAt sep cs a' b := by
  have hcons : ∀ a b, c :: cs = a ++ (sep ++ b) → ∃ a', a = c :: a' ∧ cs = a' ++ (sep ++ b) := by
    intro a b hab
    cases a with
    | nil => exact absurd ⟨b, hab.symm⟩ h
    | cons d a =>
      obtain ⟨rfl, hcs⟩ := List.cons.inj hab
      exact ⟨a, rfl, hcs⟩
  constructor
  · rintro ⟨hab, hfirst⟩
    obtain ⟨a, rfl, hcs⟩ := hcons a b hab
    refine ⟨a, rfl, hcs, ?_⟩
    rintro a' b' rfl
    exact Nat.le_of_succ_le_succ (hfirst (c :: a') b' rfl)
  · rintro ⟨a, rfl, hcs, hfirst⟩
    refine ⟨congrArg (c :: ·) hcs, ?_⟩
    intro a' b' hab
    obtain ⟨a', rfl, hcs'⟩ := hcons a' b' hab
    exact Nat.succ_le_succ (hfirst a' b' hcs')

theorem firstAt_here {sep a b b' : List Char} :
    some ([], b') = some (a, b) ↔ FirstAt sep (sep ++ b') a b := by
  constructor
  · intro hab
    cases hab
    exact .nil
  · intro hab
    obtain ⟨rfl, rfl⟩ := hab.eq .nil
    rfl

theorem cut?_eq_some {sep cs a b : List Char} :
    cut? sep cs = some (a, b) ↔ FirstAt sep cs a b := by
  induction cs generalizing a with
  | nil =>
    rw [cut?]
    split
    case isTrue h =>
      subst h
      exact firstAt_here
    case isFalse h =>
      constructor
      · exact nofun
      · rintro ⟨hab, -⟩
        simp_all
  | cons c cs ih =>
    rw [cut?]
    split
    case isTrue h =>
      obtain ⟨rest, hrest⟩ := h
      rw [← hrest, List.drop_left]
      exact firstAt_here
    case isFalse h =>
      rw [firstAt_cons h, Option.map_eq_some_iff]
      simp only [← ih]
      constructor
      · rintro ⟨⟨a', b'⟩, hcut, hab⟩
        cases hab
        exact ⟨a', rfl, hcut⟩
      · rintro ⟨a', rfl, hcut⟩
        exact ⟨(a', b), hcut, rfl⟩

/-- A separator whose first character does not come again in it cannot start in what stands before
it, be it only with its first part. -/
theorem firstAt_append {c : Char} {t a : List Char} (hc : c ∉ t) (h : ¬ c :: t <:+: a)
    (b : List Char) : FirstAt (c :: t) (a ++ (c :: t ++ b)) a b := by
  refine ⟨rfl, ?_⟩
  intro a' b' heq
  rcases List.append_eq_append_iff.1 heq with ⟨rest, rfl, -⟩ | ⟨rest, rfl, hrest⟩
  · simp
  -- now `a` is `a'` and a rest, at whose start the separator is said to stand
  cases rest with
  | nil => simp
  | cons d rest =>
    exfalso
    rcases List.append_eq_append_iff.1 hrest with ⟨more, hmore, -⟩ | ⟨left, hleft, hover⟩
    · exact h ⟨a', more, by rw [hmore, List.append_assoc]⟩
    · obtain ⟨rfl, ht⟩ : c = d ∧ t = rest ++ left := List.cons.inj hleft
      cases left with
      | nil =>
        rw [List.append_nil] at ht
        exact h ⟨a', [], by rw [ht, List.append_nil]⟩
      | cons e left =>
        obtain ⟨rfl, -⟩ := List.cons.inj hover
        exact hc (ht ▸ List.mem_append_right _ List.mem_cons_self)

end Text

namespace TapeFailures

def heading : String := "There are tape failures in BlackPearl:"

def separator : String := ", Error Message: "

def itemLine (f : TapeFailure) : String :=
  "Tape ID: " ++ f.tapeId ++ ", Error Message: " ++ f.errorMessage

def itemOf? (line : String) : Option TapeFailure :=
  let opening := "Tape ID: ".toList
  if opening <+: line.toList then
    (Text.cut? separator.toList (line.toList.drop opening.length)).map fun p =>
      ⟨String.ofList p.1, String.ofList p.2⟩
  else none

def scan? (message : String) : Option (List TapeFailure) :=
  match Text.linesOf message with
  | [] => none
  | first :: rest =>
    if first = heading ∧ rest.getLast? = some footer then rest.dropLast.mapM itemOf? else none

end TapeFailures

/-- A failure that stands on one line, and whose identifier holds no separator. -/
structure TapeFailure.Scannable (f : TapeFailure) : Prop where
  tapeId_line : '\n' ∉ f.tapeId.toList
  errorMessage_line : '\n' ∉ f.errorMessage.toList
  tapeId_plain : ¬ TapeFailures.separator.toList <:+: f.tapeId.toList

namespace TapeFailures

theorem itemLine_toList (f : TapeFailure) : (itemLine f).toList = "Tape ID: ".toList ++
    (f.tapeId.toList ++ (separator.toList ++ f.errorMessage.toList)) := by
  simp only [itemLine, separator, String.toList_append, List.append_assoc]

theorem firstAt_parts {f : TapeFailure} (h : f.Scannable) :
    Text.FirstAt separator.toList (f.tapeId.toList ++ (separator.toList ++ f.errorMessage.toList))
      f.tapeId.toList f.errorMessage.toList :=
  Text.firstAt_append (c := ',') (t := separator.toList.tail) (by decide) h.tapeId_plain
    f.errorMessage.toList

theorem itemOf?_itemLine {f : TapeFailure} (h : f.Scannable) : itemOf? (itemLine f) = some f := by
  rw [itemOf?, itemLine_toList, if_pos (List.prefix_append _ _), List.drop_left,
    Text.cut?_eq_some.2 (firstAt_parts h)]
  simp

theorem line_eq (f : TapeFailure) : (line f).toList = (itemLine f).toList ++ ['\n'] := by
  simp [line, itemLine]

theorem linesOf_message {fs : TapeFailures} (h : ∀ f ∈ fs.items, f.Scannable) :
    Text.linesOf fs.message = heading :: fs.items.map itemLine ++ [footer] := by
  have htext : fs.message.toList =
      (heading.toList :: fs.items.map fun f => (itemLine f).toList).flatMap (· ++ ['\n']) ++
        footer.toList := by
    have hheader : header.toList = heading.toList ++ ['\n'] := rfl
    simp only [message, String.toList_append, String.toList_join, List.flatMap_map, line_eq,
      List.flatMap_cons, hheader]
  have hplain : ∀ l ∈ heading.toList :: fs.items.map (fun f => (itemLine f).toList), '\n' ∉ l := by
    rw [List.forall_mem_cons, List.forall_mem_map]
    refine ⟨by decide, ?_⟩
    intro f hf
    obtain ⟨hid, hmessage, -⟩ := h f hf
    simp [itemLine, hid, hmessage]
  rw [Text.linesOf, htext, Text.splitOn_ended hplain (by decide)]
  simp

theorem mapM_itemOf? {items : List TapeFailure} (h : ∀ f ∈ items, f.Scannable) :
    (items.map itemLine).mapM itemOf? = some items := by
  induction items with
  | nil => rfl
  | cons f items ih =>
    rw [List.forall_mem_cons] at h
    rw [List.map_cons, List.mapM_cons, itemOf?_itemLine h.1, ih h.2]
    rfl

theorem scan?_message {fs : TapeFailures} (h : ∀ f ∈ fs.items, f.Scannable) :
    scan? fs.message = some fs.items := by
  rw [scan?, linesOf_message h]
  simp only [List.cons_append, List.getLast?_concat, List.dropLast_concat, and_self, if_true]
  exact mapM_itemOf? h

theorem ofList?_items (fs : TapeFailures) : ofList? fs.items = some fs := by
  obtain ⟨items, hne⟩ := fs
  cases items with
  | nil => exact absurd rfl hne
  | cons f items => rfl

/-- Failures that stand on one line each are told by a heading, a line for each in the order of the
report, and a footing. Each line, cut at its first separator, gives back its failure, so the message
gives back the list, and lists with the same message are the same. The message is what the failures
are displayed as, and the error that they make. -/
theorem message_scanned {fs : TapeFailures} (h : ∀ f ∈ fs.items, f.Scannable) :
    ofList? fs.items = some fs ∧
    Text.linesOf fs.message = "There are tape failures in BlackPearl:" ::
      fs.items.map (fun f => "Tape ID: " ++ f.tapeId ++ ", Error Message: " ++ f.errorMessage) ++
        ["To ignore this error use --force"] ∧
    (∀ f ∈ fs.items, ∃ cs,
      ("Tape ID: " ++ f.tapeId ++ ", Error Message: " ++ f.errorMessage).toList =
        "Tape ID: ".toList ++ cs ∧
      ∀ a b, Text.FirstAt ", Error Message: ".toList cs a b ↔
        a = f.tapeId.toList ∧ b = f.errorMessage.toList) ∧
    scan? fs.message = some fs.items ∧
    (∀ gs : TapeFailures, (∀ g ∈ gs.items, g.Scannable) → gs.message = fs.message →
      gs.items = fs.items) ∧
    toString fs = fs.message ∧ (Error.tapeFailures fs).message = fs.message := by
  refine ⟨ofList?_items fs, linesOf_message h, ?_, scan?_message h, ?_, rfl, rfl⟩
  · intro f hf
    have hfirst := firstAt_parts (h f hf)
    refine ⟨_, itemLine_toList f, ?_⟩
    intro a b
    constructor
    · exact fun hab => hab.eq hfirst
    · rintro ⟨rfl, rfl⟩
      exact hfirst
  · intro gs hg hsame
    have hscan := scan?_message hg
    rw [hsame, scan?_message h] at hscan
    exact (Option.some.inj hscan).symm

def quotingItems : List TapeFailure :=
  [⟨"T1, Error Message", " , Error Message: \r"⟩, ⟨"", "Tape ID: T2"⟩,
    ⟨"To ignore this error use --force", ""⟩]

def quoting : TapeFailures := ⟨quotingItems, by decide⟩

theorem message_scanned_quoting :
    (∀ f ∈ quoting.items, f.Scannable) ∧ scan? quoting.message = some quotingItems := by
  have h : ∀ f ∈ quoting.items, f.Scannable := by
    simp only [quoting, quotingItems, List.forall_mem_cons]
    exact ⟨⟨by decide, by decide, by decide +kernel⟩, ⟨by decide, by decide, by decide +kernel⟩,
      ⟨by decide, by decide, by decide +kernel⟩, nofun⟩
  obtain ⟨-, -, -, hscan, -⟩ := message_scanned h
  exact ⟨h, hscan⟩

end TapeFailures

end PearlReport
