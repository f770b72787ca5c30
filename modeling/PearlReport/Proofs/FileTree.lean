import PearlReport.Files
import PearlReport.Proofs.Outcome

/-! Files under change. A file that is written is found again under its path, and directories that
are made change the content of no file. -/

namespace PearlReport

def Path.Taken (path : String) : Prop :=
  path.toList.contains '\x00' = false ∧ path ≠ "" ∧ path.utf8ByteSize ≤ 4095

namespace FileTree

variable {t t' : FileTree} {l : Location} {path : String}

def contentAt (t : FileTree) (l : Location) : Option ByteArray :=
  match t.get? l with
  | some (.file content) => some content
  | _ => none

theorem contentAt_eq_some {content : ByteArray} :
    t.contentAt l = some content ↔ t.get? l = some (.file content) := by
  rw [contentAt]
  cases t.get? l with
  | none => simp
  | some e => cases e <;> simp

theorem get?_start (t : FileTree) (path : String) : t.get? (t.start path) = some .directory := by
  rw [start]
  split <;> simp [get?]

@[simp] theorem set_working (t : FileTree) (l : Location) (e : Entry) :
    (t.set l e).working = t.working := rfl

theorem get?_set_other {l' : Location} (h : l' ≠ l) (e : Entry) :
    (t.set l e).get? l' = t.get? l' := by
  simp [get?, set, h]

theorem get?_set_self (h : t.get? l ≠ some .directory) (e : Entry) :
    (t.set l e).get? l = some e := by
  rw [get?] at h ⊢
  by_cases hup : l <+: t.working
  · exact absurd (if_pos hup) h
  · rw [set_working, if_neg hup]
    exact if_pos rfl

theorem step_eq_ok {name : String} {l' : Location} : t.step l name = .ok l' ↔
    t.get? l = some .directory ∧ name.utf8ByteSize ≤ 255 ∧ l' = Path.advance l name := by
  rw [step]
  cases t.get? l with
  | none => simp
  | some e =>
    cases e with
    | file content => simp
    | directory =>
      by_cases hn : name.utf8ByteSize ≤ 255
      · simp [Nat.not_lt.2 hn, hn, eq_comm]
      · simp [Nat.lt_of_not_le hn, hn]

theorem foldlM_step_mono (h : ∀ l, t.get? l = some .directory → t'.get? l = some .directory)
    {names : List String} {start : Location} (hl : names.foldlM t.step start = .ok l) :
    names.foldlM t'.step start = .ok l := by
  induction names generalizing start with
  | nil => exact hl
  | cons name names ih =>
    rw [List.foldlM_cons] at hl ⊢
    obtain ⟨next, hnext, hrest⟩ := Outcome.bind_eq_ok.1 hl
    obtain ⟨hdir, hsize, rfl⟩ := step_eq_ok.1 hnext
    rw [step_eq_ok.2 ⟨h start hdir, hsize, rfl⟩, Outcome.ok_bind]
    exact ih hrest

theorem locate_eq_ok : t.locate path = .ok l ↔
    Path.Taken path ∧ (Path.names path).foldlM t.step (t.start path) = .ok l := by
  rw [locate, Path.Taken]
  cases path.toList.contains '\x00' with
  | true => simp
  | false =>
    by_cases hempty : path = ""
    · simp [hempty]
    · by_cases hlong : path.utf8ByteSize ≤ 4095
      · simp [hempty, hlong, Nat.not_lt.2 hlong]
      · simp [hempty, hlong, Nat.lt_of_not_le hlong]

theorem start_congr (h : t'.working = t.working) (path : String) : t'.start path = t.start path := by
  rw [start, start, h]

theorem locate_mono (hworking : t'.working = t.working)
    (h : ∀ l, t.get? l = some .directory → t'.get? l = some .directory)
    (hl : t.locate path = .ok l) : t'.locate path = .ok l := by
  obtain ⟨htaken, hnames⟩ := locate_eq_ok.1 hl
  refine locate_eq_ok.2 ⟨htaken, ?_⟩
  rw [start_congr hworking]
  exact foldlM_step_mono h hnames

theorem set_directory {l' : Location} (hdir : t.get? l' ≠ some .directory) (e : Entry)
    (hl : t.get? l = some .directory) : (t.set l' e).get? l = some .directory := by
  have hne : l ≠ l' := fun h => hdir (h ▸ hl)
  rw [get?_set_other hne]
  exact hl

theorem write_cases (t : FileTree) (device : Device) (path : String) (content : ByteArray) :
    (∃ l, t.locate path = .ok l ∧ t.get? l ≠ some .directory ∧
      t.write device path content = ⟨t.set l (.file content), .ok ()⟩) ∨
    ∃ e, t.write device path content = ⟨t, .error e⟩ ∨
      ∃ l n, t.locate path = .ok l ∧ t.get? l ≠ some .directory ∧ n < content.size ∧
        t.write device path content = ⟨t.set l (.file (content.extract 0 n)), .error e⟩ := by
  rw [write]
  cases t.locate path with
  | error e => exact .inr ⟨e, .inl rfl⟩
  | ok l =>
    by_cases hdir : t.get? l = some .directory
    · exact .inr ⟨.isDirectory, .inl (if_pos hdir)⟩
    · simp only [if_neg hdir]
      cases device.refusal? l with
      | some e => exact .inr ⟨e, .inl rfl⟩
      | none =>
        cases hcut : device.shortfall? content.size with
        | none => exact .inl ⟨l, rfl, hdir, rfl⟩
        | some cut =>
          obtain ⟨-, hroom⟩ := Option.filter_eq_some_iff.1 hcut
          exact .inr ⟨cut.2, .inr ⟨l, cut.1, rfl, hdir, of_decide_eq_true hroom, rfl⟩⟩

theorem write_sound {content : ByteArray} (hl : t.locate path = .ok l)
    (hdir : t.get? l ≠ some .directory) :
    t.write .sound path content = ⟨t.set l (.file content), .ok ()⟩ := by
  rw [write, hl]
  exact if_neg hdir

theorem set_found {content : ByteArray} (hl : t.locate path = .ok l)
    (hdir : t.get? l ≠ some .directory) :
    (t.set l (.file content)).locate path = .ok l ∧
      (t.set l (.file content)).contentAt l = some content ∧
      ∀ l', l' ≠ l → (t.set l (.file content)).contentAt l' = t.contentAt l' := by
  refine ⟨locate_mono (t.set_working l _) (fun _ => set_directory hdir _) hl, ?_, ?_⟩
  · exact contentAt_eq_some.2 (get?_set_self hdir _)
  · intro l' hne
    rw [contentAt, get?_set_other hne, contentAt]

/-- Directories have been made where nothing was, and nothing else has changed. -/
structure Grows (t t' : FileTree) : Prop where
  working : t'.working = t.working
  entries : ∀ l, t'.get? l = t.get? l ∨ t.get? l = none ∧ t'.get? l = some .directory

theorem Grows.refl (t : FileTree) : t.Grows t := ⟨rfl, fun _ => .inl rfl⟩

theorem Grows.trans {t₁ t₂ t₃ : FileTree} (h : t₁.Grows t₂) (h' : t₂.Grows t₃) : t₁.Grows t₃ := by
  refine ⟨h'.working.trans h.working, ?_⟩
  intro l
  rcases h.entries l with hl | ⟨hnone, hl⟩
  · rw [← hl]
    exact h'.entries l
  · rcases h'.entries l with hl' | ⟨hnone', -⟩
    · exact .inr ⟨hnone, hl'.trans hl⟩
    · rw [hl] at hnone'
      cases hnone'

theorem Grows.set (h : t.get? l = none) : t.Grows (t.set l .directory) := by
  have hdir : t.get? l ≠ some .directory := by simp [h]
  refine ⟨rfl, ?_⟩
  intro l'
  by_cases hl : l' = l
  · subst hl
    exact .inr ⟨h, get?_set_self hdir _⟩
  · exact .inl (get?_set_other hl _)

theorem Grows.kept (h : t.Grows t') {e : Entry} (hl : t.get? l = some e) : t'.get? l = some e := by
  rcases h.entries l with hl' | ⟨hnone, -⟩
  · rw [hl', hl]
  · rw [hl] at hnone
    cases hnone

theorem Grows.contentAt (h : t.Grows t') (l : Location) : t'.contentAt l = t.contentAt l := by
  rcases h.entries l with hl | ⟨hnone, hl⟩
  · rw [FileTree.contentAt, FileTree.contentAt, hl]
  · rw [FileTree.contentAt, FileTree.contentAt, hl, hnone]

theorem Grows.locate (h : t.Grows t') (hl : t.locate path = .ok l) : t'.locate path = .ok l :=
  locate_mono h.working (fun _ => h.kept) hl

end FileTree

end PearlReport
