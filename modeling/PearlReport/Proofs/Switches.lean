import PearlReport.Proofs.Deletion
import PearlReport.Proofs.FileTree
import PearlReport.Proofs.Session

/-! Switches and what a run is seen to do. Whether it is verbose decides about standard error alone, by
the switch and by the stored setting, and whether failures are ignored about the deletion of a tape
alone. -/

namespace PearlReport

namespace FileTree

structure SameBut (t t' : FileTree) (l : Location) : Prop where
  working : t'.working = t.working
  entries : ∀ l', l' ≠ l → t'.get? l' = t.get? l'

/-- The path does not lead over the place, or it ends elsewhere and both trees have a file there. -/
def Avoids (t t' : FileTree) (l : Location) (path : String) : Prop :=
  l ∉ t.onTheWay path ∨
    t.locate path ≠ .ok l ∧ ∃ c c', t.get? l = some (.file c) ∧ t'.get? l = some (.file c')

variable {t t' : FileTree} {l : Location} {path : String}

theorem step_congr {name : String} (h : t'.get? l = t.get? l) : t'.step l name = t.step l name := by
  rw [step, step, h]

theorem foldlM_step_congr {names : List String} {start : Location}
    (hstart : t'.get? start = t.get? start)
    (h : ∀ l ∈ Path.along start names, t'.get? l = t.get? l) :
    names.foldlM t'.step start = names.foldlM t.step start ∧
      ∀ l, names.foldlM t.step start = .ok l → t'.get? l = t.get? l := by
  induction names generalizing start with
  | nil =>
    refine ⟨rfl, ?_⟩
    intro l hl
    cases hl
    exact hstart
  | cons name names ih =>
    rw [Path.along, List.forall_mem_cons] at h
    simp only [List.foldlM_cons, step_congr hstart]
    cases hstep : t.step start name with
    | error e => exact ⟨rfl, fun l hl => nomatch hl⟩
    | ok next =>
      obtain ⟨-, -, rfl⟩ := step_eq_ok.1 hstep
      exact ih h.1 h.2

theorem step_between_files (h : t.SameBut t' l)
    (hl : ∃ c c', t.get? l = some (.file c) ∧ t'.get? l = some (.file c')) : t'.step = t.step := by
  obtain ⟨c, c', hc, hc'⟩ := hl
  funext l' name
  by_cases hl' : l' = l
  · rw [hl', step, step, hc, hc']
  · exact step_congr (h.entries l' hl')

theorem locate_congr (hworking : t'.working = t.working)
    (h : (Path.names path).foldlM t'.step (t.start path) =
      (Path.names path).foldlM t.step (t.start path)) : t'.locate path = t.locate path := by
  rw [locate, locate, start_congr hworking, h]

theorem find_avoiding (h : t.SameBut t' l) (hp : t.Avoids t' l path) : t'.find path = t.find path := by
  have hfound : t'.locate path = t.locate path ∧
      ∀ l', t.locate path = .ok l' → t'.get? l' = t.get? l' := by
    rcases hp with hway | ⟨hend, hfiles⟩
    · have hstart : t'.get? (t.start path) = t.get? (t.start path) := by
        rw [← start_congr h.working, get?_start, start_congr h.working, get?_start]
      have halong : ∀ l' ∈ t.onTheWay path, t'.get? l' = t.get? l' := by
        intro l' hl'
        apply h.entries
        rintro rfl
        exact hway hl'
      obtain ⟨hfold, hlast⟩ := foldlM_step_congr hstart halong
      exact ⟨locate_congr h.working hfold, fun l' hl' => hlast l' (locate_eq_ok.1 hl').2⟩
    · refine ⟨locate_congr h.working (by rw [step_between_files h hfiles]), ?_⟩
      intro l' hl'
      apply h.entries
      rintro rfl
      exact hend hl'
  rw [find, find, hfound.1]
  cases hl : t.locate path with
  | error e => rfl
  | ok l' => simp only [Outcome.ok_bind, hfound.2 l' hl]

end FileTree

section

variable {i i' : Invocation} {w : World}

theorem World.delete_outcome_unforced (w : World) {failures : Option String}
    (h : ∀ path items, failures = some path → w.Lists path items → items = [])
    (force force' : Bool) (id : Uuid) :
    (w.delete force' id failures).outcome = (w.delete force id failures).outcome := by
  rw [World.delete, World.delete]
  cases hr : w.reported failures with
  | error e => rfl
  | ok items =>
    have hnone : items = [] := by
      cases failures with
      | none =>
        cases hr
        rfl
      | some path => exact h path items rfl (World.reported_eq_ok.1 hr)
    subst hnone
    rfl

theorem World.execute_outcome (w : World) (directory : String) {s s' : Settings} {r : Request}
    (h : s'.force = s.force ∨ ∀ id path items, r = .deleteTape id (some path) →
      w.Lists path items → items = []) :
    (w.execute directory s' r).outcome = (w.execute directory s r).outcome := by
  cases r with
  | query q input => rfl
  | config key value => rfl
  | deleteTape id failures =>
    rcases h with hforce | hnone
    · rw [World.execute, World.execute, hforce]
    · apply w.delete_outcome_unforced
      rintro path items rfl
      exact hnone id path items rfl

theorem Invocation.session_switched (hrequest : i'.request = i.request)
    (hdir : i'.configDir = i.configDir)
    (h : i'.force = i.force ∨ ∀ id path items, i.request = .deleteTape id (some path) →
      w.Lists path items → items = []) :
    (i'.session w).outcome = (i.session w).outcome := by
  have hstored : i'.stored w = i.stored w := by
    rw [Invocation.stored, Invocation.stored, hdir]
  cases hs : i.stored w with
  | error e =>
    rw [hs] at hstored
    rw [(Invocation.session_of_error hs).1, (Invocation.session_of_error hstored).1]
  | ok s =>
    obtain ⟨directory, hd, hl⟩ := Invocation.stored_eq_ok.1 hs
    rw [(Invocation.session_eq hd hl).1]
    rw [← hdir] at hd
    rw [(Invocation.session_eq hd hl).1, hrequest]
    apply w.execute_outcome directory
    rcases h with hforce | hnone
    · rw [Settings.withFlags, Settings.withFlags, hforce]
      exact .inl rfl
    · exact .inr hnone

theorem World.read_avoiding {t' : FileTree} {l : Location} {path : String}
    (h : w.files.SameBut t' l) (hp : Path.same path "-" = true ∨ w.files.Avoids t' l path) :
    ({ w with files := t' } : World).read path = w.read path := by
  rw [World.read, World.read]
  rcases hp with hstdin | havoids
  · rw [if_pos hstdin, if_pos hstdin]
  · simp only [FileTree.readText, FileTree.readBytes, FileTree.find_avoiding h havoids]

theorem World.execute_avoiding {t' : FileTree} {s s' : Settings} {r : Request} (directory : String)
    (hforce : s'.force = s.force) (hconfig : ∀ key value, r ≠ .config key value)
    (hread : ∀ path ∈ r.inputs, ({ w with files := t' } : World).read path = w.read path) :
    (({ w with files := t' } : World).execute directory s' r).outcome =
      (w.execute directory s r).outcome := by
  cases r with
  | config key value => exact absurd rfl (hconfig key value)
  | query q input =>
    have hinput := hread input List.mem_cons_self
    rw [World.execute, World.execute, World.answer, World.answer, hinput]
    cases w.read input <;> rfl
  | deleteTape id failures =>
    have hreported : ({ w with files := t' } : World).reported failures = w.reported failures := by
      cases failures with
      | none => rfl
      | some path =>
        have hpath := hread path List.mem_cons_self
        rw [World.reported, World.reported, hpath]
    rw [World.execute, World.execute, World.delete, World.delete, hforce, hreported]
    cases w.reported failures <;> rfl

/-- Whether a run is verbose: by the switch, or by the stored settings if there are any. -/
def Invocation.talks (i : Invocation) (w : World) : Bool :=
  i.verbose || (i.stored w).toOption.any Settings.verbose

theorem Log.noteAll_quiet (lines : List String) : (Log.new false).noteAll lines = .new false := by
  induction lines with
  | nil => rfl
  | cons line lines ih => exact ih

theorem Invocation.session_quiet (h : i.talks w = false) : (i.session w).log = .new false := by
  rw [Invocation.talks, Bool.or_eq_false_iff] at h
  rw [Invocation.session]
  cases hd : w.environment.settingsDirectory i.configDir with
  | error e => simp only [h.1]
  | ok directory =>
    simp only [Invocation.sessionIn]
    cases hs : Settings.load w.files directory with
    | error e => simp only [h.1]
    | ok s =>
      have hstored := Invocation.stored_eq_ok.2 ⟨directory, hd, hs⟩
      have hverbose : (s.withFlags i.verbose i.force).verbose = false := by
        rw [hstored] at h
        rw [Settings.withFlags, h.1, Bool.or_false]
        exact h.2
      simp only [hverbose, Log.noteAll_quiet]

theorem Session.finish_quiet {s : Session} (h : s.log = .new false) (hexit : (s.finish w).exit ≠ 2) :
    (s.finish w).stderr = "" := by
  rw [Session.finish] at hexit ⊢
  simp only [tell_outcome, h, Log.noteAll_quiet] at hexit ⊢
  cases hfull : w.full with
  | true =>
    rw [hfull] at hexit
    exact absurd rfl hexit
  | false => rfl

end

/-- The switch that makes a run verbose changes nothing of what it prints as its result, of how it ends
and of what it leaves in the files. Neither does the switch to ignore failures, unless a tape is to be
deleted and failures are reported; nor does the stored setting of the first, unless the run is about the
settings or reads their file. Where one of the two trees has no such file, the paths that lead over its
place are left out too, since there they differ by more than a setting. A run that is not verbose and prints its result prints nothing else. -/
theorem switches_unseen (i : Invocation) (w : World) :
    (∀ b, let r := ({ i with verbose := b } : Invocation).run w
      r.stdout = (i.run w).stdout ∧ r.exit = (i.run w).exit ∧ r.files = (i.run w).files) ∧
    (∀ b, (∀ id path items, i.request = .deleteTape id (some path) → w.Lists path items →
        items = []) →
      let r := ({ i with force := b } : Invocation).run w
      r.stdout = (i.run w).stdout ∧ r.exit = (i.run w).exit ∧ r.files = (i.run w).files) ∧
    (∀ (t' : FileTree) (l : Location) (s s' : Settings), w.files.SameBut t' l →
      i.stored w = .ok s → i.stored { w with files := t' } = .ok s' → s'.force = s.force →
      (∀ key value, i.request ≠ .config key value) →
      (∀ path ∈ i.request.inputs, Path.same path "-" = true ∨ w.files.Avoids t' l path) →
      let r := i.run { w with files := t' }
      r.stdout = (i.run w).stdout ∧ r.exit = (i.run w).exit) ∧
    (i.talks w = false → (i.run w).exit = 0 ∨ (i.run w).exit = 1 → (i.run w).stderr = "") := by
  have hswitched {i' : Invocation} (hrequest : i'.request = i.request)
      (hdir : i'.configDir = i.configDir)
      (h : i'.force = i.force ∨ ∀ id path items, i.request = .deleteTape id (some path) →
        w.Lists path items → items = []) :
      (i'.run w).stdout = (i.run w).stdout ∧ (i'.run w).exit = (i.run w).exit ∧
        (i'.run w).files = (i.run w).files := by
    have houtcome := Invocation.session_switched hrequest hdir h
    obtain ⟨hstdout, hexit⟩ := Invocation.run_seen (congrArg told houtcome) rfl
    exact ⟨hstdout, hexit, Invocation.run_files_switched hrequest hdir w⟩
  refine ⟨fun b => hswitched rfl rfl (.inl rfl), fun b h => hswitched rfl rfl (.inr h), ?_, ?_⟩
  · intro t' l s s' hsame hs hs' hforce hconfig hinputs
    obtain ⟨directory, hd, hl⟩ := Invocation.stored_eq_ok.1 hs
    obtain ⟨directory', hd', hl'⟩ := Invocation.stored_eq_ok.1 hs'
    cases Except.ok.inj (hd.symm.trans hd')
    have hread : ∀ path ∈ i.request.inputs,
        ({ w with files := t' } : World).read path = w.read path :=
      fun path hpath => World.read_avoiding hsame (hinputs path hpath)
    have houtcome : (i.session { w with files := t' }).outcome = (i.session w).outcome := by
      rw [(Invocation.session_eq hd hl).1, (Invocation.session_eq hd' hl').1]
      apply World.execute_avoiding directory _ hconfig hread
      simp only [Settings.withFlags, hforce]
    exact Invocation.run_seen (congrArg told houtcome) rfl
  · intro hquiet hexit
    apply Session.finish_quiet (Invocation.session_quiet hquiet)
    rw [← Invocation.run]
    rcases hexit with h | h <;> simp [h]

def settingsTree (settings : String) : FileTree :=
  ((FileTree.empty.set ["home"] .directory).set ["tapes.json"] (.file "null".toUTF8)).set
    ["home", "config.json"] (.file settings.toUTF8)

def settingsWorld (settings : String) : World :=
  ⟨settingsTree settings, .sound, .empty, ⟨some "home", none, none⟩, false, false⟩

def listingRun : Invocation := ⟨.query .tapes "tapes.json", false, false, none⟩

theorem settingsTree_sameBut (settings settings' : String) :
    (settingsTree settings).SameBut (settingsTree settings') ["home", "config.json"] := by
  refine ⟨rfl, ?_⟩
  intro l hl
  rw [settingsTree, settingsTree, FileTree.get?_set_other hl, FileTree.get?_set_other hl]

theorem switches_unseen_listing :
    listingRun.stored (settingsWorld "\x7b\x7d") = .ok ⟨false, false⟩ ∧
    listingRun.stored (settingsWorld "\x7b\"verbose\":true\x7d") = .ok ⟨true, false⟩ ∧
    (listingRun.run (settingsWorld "\x7b\"verbose\":true\x7d")).stdout =
      (listingRun.run (settingsWorld "\x7b\x7d")).stdout ∧
    (listingRun.run (settingsWorld "\x7b\x7d")).stderr = "" := by
  have hs : listingRun.stored (settingsWorld "\x7b\x7d") = .ok ⟨false, false⟩ :=
    Outcome.toOption_eq_some.1 (by decide +kernel)
  have hs' : listingRun.stored (settingsWorld "\x7b\"verbose\":true\x7d") = .ok ⟨true, false⟩ :=
    Outcome.toOption_eq_some.1 (by decide +kernel)
  obtain ⟨-, -, hstored, hquiet⟩ := switches_unseen listingRun (settingsWorld "\x7b\x7d")
  have havoids : ∀ path ∈ listingRun.request.inputs, Path.same path "-" = true ∨
      (settingsTree "\x7b\x7d").Avoids (settingsTree "\x7b\"verbose\":true\x7d")
        ["home", "config.json"] path := by
    intro path hpath
    cases List.mem_singleton.1 hpath
    exact .inr (.inl (by decide +kernel))
  obtain ⟨hstdout, -⟩ := hstored _ _ _ _ (settingsTree_sameBut _ _) hs hs' rfl nofun havoids
  have htalks : listingRun.talks (settingsWorld "\x7b\x7d") = false := by
    rw [Invocation.talks, hs]
    rfl
  refine ⟨hs, hs', hstdout, hquiet htalks ?_⟩
  rw [Invocation.run_exit]
  cases (listingRun.session (settingsWorld "\x7b\x7d")).outcome.isOk with
  | true => exact .inl rfl
  | false => exact .inr rfl

end PearlReport
