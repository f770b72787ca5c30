import PearlReport.Proofs.OneEnvelope

/-! What a run comes to once its settings are read: the outcome and the files of its request. -/

namespace PearlReport

def Invocation.stored (i : Invocation) (w : World) : Except Error Settings := do
  let directory ← w.environment.settingsDirectory i.configDir
  Settings.load w.files directory

theorem Invocation.stored_eq_ok {i : Invocation} {w : World} {s : Settings} :
    i.stored w = .ok s ↔ ∃ directory,
      w.environment.settingsDirectory i.configDir = .ok directory ∧
        Settings.load w.files directory = .ok s := by
  rw [Invocation.stored, Outcome.bind_eq_ok]

theorem Invocation.session_eq {i : Invocation} {w : World} {directory : String} {s : Settings}
    (hd : w.environment.settingsDirectory i.configDir = .ok directory)
    (hs : Settings.load w.files directory = .ok s) :
    let result := w.execute directory (s.withFlags i.verbose i.force) i.request
    (i.session w).outcome = result.outcome ∧ (i.session w).files = result.files := by
  rw [Invocation.session, hd]
  dsimp only
  rw [Invocation.sessionIn, hs]
  exact ⟨rfl, rfl⟩

theorem Invocation.session_of_error {i : Invocation} {w : World} {e : Error}
    (h : i.stored w = .error e) :
    (i.session w).outcome = .error e ∧ (i.session w).files = w.files := by
  rw [Invocation.stored] at h
  rw [Invocation.session]
  cases hd : w.environment.settingsDirectory i.configDir with
  | error e' =>
    rw [hd] at h
    cases h
    exact ⟨rfl, rfl⟩
  | ok directory =>
    rw [hd, Outcome.ok_bind] at h
    dsimp only
    rw [Invocation.sessionIn, h]
    exact ⟨rfl, rfl⟩

theorem Invocation.run_files (i : Invocation) (w : World) :
    (i.run w).files = (i.session w).files := by
  rw [Invocation.run, Session.finish]
  simp only [tell_outcome]
  cases w.full <;> rfl

theorem World.answer_files (w : World) (q : Query) (input : String) :
    (w.answer q input).files = w.files := by
  rw [World.answer]
  cases w.read input <;> rfl

theorem World.delete_files (w : World) (force : Bool) (id : Uuid) (failures : Option String) :
    (w.delete force id failures).files = w.files := by
  rw [World.delete]
  cases w.reported failures <;> rfl

theorem World.execute_files (w : World) (directory : String) (s s' : Settings) (r : Request) :
    (w.execute directory s r).files = (w.execute directory s' r).files := by
  cases r with
  | query q input => rfl
  | deleteTape id failures => exact (w.delete_files _ _ _).trans (w.delete_files _ _ _).symm
  | config key value => rfl

theorem Invocation.run_files_switched {i i' : Invocation} (hrequest : i'.request = i.request)
    (hdir : i'.configDir = i.configDir) (w : World) : (i'.run w).files = (i.run w).files := by
  have hstored : i'.stored w = i.stored w := by rw [stored, stored, hdir]
  rw [run_files, run_files]
  cases hs : i.stored w with
  | error e =>
    rw [hs] at hstored
    rw [(session_of_error hs).2, (session_of_error hstored).2]
  | ok s =>
    obtain ⟨directory, hd, hl⟩ := stored_eq_ok.1 hs
    rw [(session_eq hd hl).2]
    rw [← hdir] at hd
    rw [(session_eq hd hl).2, hrequest]
    exact w.execute_files _ _ _ _

theorem Invocation.run_seen {i i' : Invocation} {w w' : World}
    (h : told (i'.session w').outcome = told (i.session w).outcome) (hfull : w'.full = w.full) :
    (i'.run w').stdout = (i.run w).stdout ∧ (i'.run w').exit = (i.run w).exit := by
  obtain ⟨hexit, hstdout⟩ := finish_eq (i.session w) w
  obtain ⟨hexit', hstdout'⟩ := finish_eq (i'.session w') w'
  rw [Invocation.run, Invocation.run, hexit, hexit', hstdout, hstdout', h, hfull]
  exact ⟨rfl, rfl⟩

theorem World.read_stdin (w : World) : w.read "-" = (FileTree.decode w.stdin).mapError .io := by
  have hsame : Path.same "-" "-" = true := by decide +kernel
  rw [World.read, if_pos hsame]

theorem Invocation.query_outcome {i : Invocation} {q : Query} {input : String}
    (h : i.request = .query q input) (w : World) :
    (i.session w).outcome = (do
      let _ ← i.stored w
      let text ← w.read input
      q.report text) := by
  cases hs : i.stored w with
  | error e => exact (session_of_error hs).1
  | ok s =>
    obtain ⟨directory, hd, hl⟩ := stored_eq_ok.1 hs
    rw [(session_eq hd hl).1, h, World.execute, World.answer]
    cases w.read input <;> rfl

end PearlReport
