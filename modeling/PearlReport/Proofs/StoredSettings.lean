import PearlReport.Proofs.Directories
import PearlReport.Proofs.Envelope
import PearlReport.Proofs.Paths
import PearlReport.Proofs.Payloads

/-! Settings in their file. What is saved is loaded again. An attempt to save that fails leaves what is
loaded as it was, unless the file was opened and then cut: that file is refused. -/

namespace PearlReport

open Json

namespace Settings

variable {t t' : FileTree} {device : Device} {directory : String} {s : Settings}

theorem names_path (directory : String) :
    Path.names (path directory) = Path.plainNames directory ++ ["config.json"] :=
  Path.names_join (by decide) (by decide) directory

theorem start_path (t : FileTree) (directory : String) :
    t.start (path directory) = t.start directory := by
  rw [FileTree.start, FileTree.start, path, Path.isAbsolute_join (by decide)]

theorem locate_path {l : Location} (h : t.locate (path directory) = .ok l) :
    ∃ above, l = above ++ ["config.json"] := by
  have hnames := (FileTree.locate_eq_ok.1 h).2
  rw [names_path, List.foldlM_append] at hnames
  obtain ⟨above, -, hlast⟩ := Outcome.bind_eq_ok.1 hnames
  rw [List.foldlM_cons] at hlast
  obtain ⟨l', hstep, hl⟩ := Outcome.bind_eq_ok.1 hlast
  obtain ⟨-, -, rfl⟩ := FileTree.step_eq_ok.1 hstep
  cases hl
  exact ⟨above, rfl⟩

theorem isDirectory_of_isThere (h : t.isThere (path directory) = true) :
    t.isDirectory (t.start directory) (Path.plainNames directory) = true := by
  rw [FileTree.isThere, FileTree.find] at h
  cases hl : t.locate (path directory) with
  | error e =>
    rw [hl] at h
    cases h
  | ok l =>
    have hnames := (FileTree.locate_eq_ok.1 hl).2
    rw [names_path, start_path] at hnames
    exact FileTree.isDirectory_of_foldlM hnames

theorem load_missing
    (h : t.isDirectory (t.start directory) (Path.plainNames directory) = false) :
    load t directory = .ok initial := by
  have hthere : t.isThere (path directory) = false := by
    rw [Bool.eq_false_iff] at h ⊢
    exact fun ht => h (isDirectory_of_isThere ht)
  rw [load, hthere]
  rfl

theorem parse_text (s : Settings) : shape.parse s.text = .ok s := by
  have hread := (shape.parse_canonical lossless (by decide) s fun _ h => nomatch h).2
  rw [Shape.canonical, Json.Value.canonical_eq_pretty] at hread
  exact hread

theorem load_of_find {content : ByteArray} {text : String}
    (hfind : t.find (path directory) = .ok (.file content))
    (htext : FileTree.decode content = .ok text) :
    load t directory =
      (shape.parse text).mapError fun c => .config (path directory ++ ": " ++ c.message) := by
  have hthere : t.isThere (path directory) = true := by rw [FileTree.isThere, hfind]
  have hread : t.readText (path directory) = .ok text := by
    rw [FileTree.readText, FileTree.readBytes, hfind]
    exact htext
  rw [load, hthere]
  simp only [hread]
  rfl

theorem find_of_contentAt {l : Location} {content : ByteArray}
    (hl : t.locate (path directory) = .ok l) (hc : t.contentAt l = some content) :
    t.find (path directory) = .ok (.file content) := by
  rw [FileTree.find, hl, Outcome.ok_bind, FileTree.contentAt_eq_some.1 hc]

theorem load_of_contentAt {l : Location} (hl : t.locate (path directory) = .ok l)
    (hc : t.contentAt l = some s.content) : load t directory = .ok s := by
  rw [load_of_find (find_of_contentAt hl hc) (FileTree.decode_toUTF8 _), parse_text]
  rfl

/-- The file can be written where its directory is there or can be made. -/
def Storable (t : FileTree) (directory : String) : Prop :=
  ∀ t₁, t.makePath .sound directory = ⟨t₁, .ok ()⟩ →
    ∀ content, ∃ t₂, t₁.write .sound (path directory) content = ⟨t₂, .ok ()⟩

/-- The device takes what the tree lets be written to the file. -/
def Takes (device : Device) (directory : String) : Prop :=
  ∀ (t : FileTree) (s : Settings),
    (t.write .sound (path directory) s.content).outcome = .ok () →
      (t.write device (path directory) s.content).outcome = .ok ()

/-- What a run may rely on before it and must leave after it. -/
structure Held (t : FileTree) (directory : String) (s : Settings) : Prop where
  loaded : load t directory = .ok s
  storable : Storable t directory

theorem held_of_contentAt {l : Location} (hl : t.locate (path directory) = .ok l)
    (hc : t.contentAt l = some s.content) : Held t directory s := by
  refine ⟨load_of_contentAt hl hc, ?_⟩
  intro t₁ hmake content
  have hgrows := FileTree.makePath_grows t .sound directory
  rw [hmake] at hgrows
  have hfile := hgrows.kept (FileTree.contentAt_eq_some.1 hc)
  exact ⟨_, FileTree.write_sound (hgrows.locate hl) (by rw [hfile]; exact nofun)⟩

theorem prepare_grows (t : FileTree) (device : Device) (directory : String) :
    t.Grows (prepare t device directory).files := by
  rw [prepare]
  cases t.isThere directory with
  | true => exact .refl t
  | false => exact FileTree.makePath_grows t device directory

theorem save_cases (s : Settings) (t : FileTree) (device : Device) (directory : String) :
    let made := prepare t device directory
    (∃ e, made.outcome = .error e ∧ s.save t device directory = made) ∨
    made.outcome = .ok () ∧
      s.save t device directory = made.files.write device (path directory) s.content := by
  intro made
  rw [save, Change.andThen]
  cases hmade : made.outcome with
  | error e => exact .inl ⟨e, rfl, rfl⟩
  | ok => exact .inr ⟨rfl, rfl⟩

/-- An attempt to save ends before the file is opened, having made directories at most, or it leaves
the file whole or cut. -/
theorem save_ends (s : Settings) (t : FileTree) (device : Device) (directory : String) :
    ∃ t₁, t.Grows t₁ ∧
      ((∃ e, s.save t device directory = ⟨t₁, .error e⟩) ∨
      ∃ l, t₁.locate (path directory) = .ok l ∧ t₁.get? l ≠ some .directory ∧
        (s.save t device directory = ⟨t₁.set l (.file s.content), .ok ()⟩ ∨
        ∃ n e, n < s.content.size ∧
          s.save t device directory = ⟨t₁.set l (.file (s.content.extract 0 n)), .error e⟩)) := by
  refine ⟨(prepare t device directory).files, prepare_grows t device directory, ?_⟩
  rcases s.save_cases t device directory with ⟨e, he, hsave⟩ | ⟨-, hsave⟩
  · exact .inl ⟨e, by rw [hsave, ← he]⟩
  · rw [hsave]
    rcases FileTree.write_cases (prepare t device directory).files device (path directory)
      s.content with ⟨l, hl, hdir, hwrite⟩ | ⟨e, hwrite | ⟨l, n, hl, hdir, hn, hwrite⟩⟩
    · exact .inr ⟨l, hl, hdir, .inl hwrite⟩
    · exact .inl ⟨e, hwrite⟩
    · exact .inr ⟨l, hl, hdir, .inr ⟨n, e, hn, hwrite⟩⟩

theorem save_written (h : (s.save t device directory).outcome = .ok ()) :
    ∃ l, (s.save t device directory).files.locate (path directory) = .ok l ∧
      (s.save t device directory).files.contentAt l = some s.content ∧
      ∀ l', l' ≠ l → (s.save t device directory).files.contentAt l' = t.contentAt l' := by
  obtain ⟨t₁, hgrows, ⟨e, hsave⟩ | ⟨l, hl, hdir, hsave | ⟨n, e, -, hsave⟩⟩⟩ :=
    s.save_ends t device directory
  · rw [hsave] at h
    cases h
  · obtain ⟨hl', hc, hother⟩ := FileTree.set_found hl hdir
    rw [hsave]
    exact ⟨l, hl', hc, fun l' hne => (hother l' hne).trans (hgrows.contentAt l')⟩
  · rw [hsave] at h
    cases h

theorem save_held (h : (s.save t device directory).outcome = .ok ()) :
    Held (s.save t device directory).files directory s := by
  obtain ⟨l, hl, hc, -⟩ := save_written h
  exact held_of_contentAt hl hc

theorem makePath_held {stored : Settings} {e : SystemError} (hheld : Held t directory stored)
    (h : (t.makePath device directory).outcome = .error e) :
    Held (t.makePath device directory).files directory stored := by
  constructor
  · rcases FileTree.makePath_unmade h with hsame | ⟨hbefore, hafter⟩
    · rw [hsame]
      exact hheld.loaded
    · have hstart := FileTree.start_congr (FileTree.makePath_grows t device directory).working directory
      rw [← hstart] at hafter
      rw [load_missing hafter, ← load_missing hbefore]
      exact hheld.loaded
  · intro t₁ hagain
    have hresumed := FileTree.makePath_resumed h (by rw [hagain])
    exact hheld.storable t₁ (hresumed.symm.trans hagain)

theorem save_failed {stored : Settings} {e : SystemError} (hheld : Held t directory stored)
    (htakes : Takes device directory) (h : (s.save t device directory).outcome = .error e) :
    Held (s.save t device directory).files directory stored ∧
    ∀ l, (s.save t device directory).files.contentAt l = t.contentAt l := by
  rcases s.save_cases t device directory with ⟨e', he, hsave⟩ | ⟨hmade, hsave⟩
  · rw [hsave]
    refine ⟨?_, (prepare_grows t device directory).contentAt⟩
    rw [prepare] at he ⊢
    cases hthere : t.isThere directory with
    | true =>
      rw [hthere] at he
      cases he
    | false =>
      rw [hthere] at he
      exact makePath_held hheld he
  · rw [hsave] at h ⊢
    have hrefused : (((prepare t device directory).files.write .sound (path directory)
        s.content).outcome ≠ .ok ()) := by
      intro hok
      rw [htakes _ s hok] at h
      cases h
    rcases FileTree.write_cases (prepare t device directory).files device (path directory)
      s.content with ⟨l, -, -, hwrite⟩ | ⟨e', hwrite | ⟨l, n, hl, hdir, -, -⟩⟩
    · rw [hwrite] at h
      cases h
    -- the tree does not let the file be written, so that nothing had to be made for it
    · rw [hwrite]
      rw [prepare] at hmade hrefused ⊢
      cases hthere : t.isThere directory with
      | true => exact ⟨hheld, fun _ => rfl⟩
      | false =>
        rw [hthere, if_neg Bool.false_ne_true] at hmade hrefused
        have hsound := FileTree.makePath_sound hmade
        obtain ⟨t₂, hok⟩ := hheld.storable (t.makePath device directory).files
          (by rw [hsound, ← hmade]) s.content
        rw [hok] at hrefused
        exact absurd rfl hrefused
    · rw [FileTree.write_sound hl hdir] at hrefused
      exact absurd rfl hrefused

end Settings

end PearlReport
