import PearlReport.Proofs.Session
import PearlReport.Proofs.StoredSettings

/-! Runs one after the other on the same files. Only a request to change a setting changes a file, it
changes the stored settings by that setting alone, and what one run has stored the next one loads. -/

namespace PearlReport

open Json

def Settings.keys : List String := ["verbose", "force"]

def Request.change? : Request → Option (String × Bool)
  | .config (some key) (some value) =>
    if key ∈ Settings.keys then (Settings.flag? value).map (key, ·) else none
  | _ => none

theorem Settings.flag?_eq_some {value : String} {b : Bool} :
    Settings.flag? value = some b ↔ value = if b then "true" else "false" := by
  rw [Settings.flag?]
  by_cases htrue : value = "true"
  · subst htrue
    cases b <;> simp
  · by_cases hfalse : value = "false"
    · subst hfalse
      cases b <;> simp
    · cases b <;> simp [htrue, hfalse]

theorem Request.change?_eq_some {r : Request} {key : String} {b : Bool} :
    r.change? = some (key, b) ↔ key ∈ Settings.keys ∧
      r = .config (some key) (some (if b then "true" else "false")) := by
  constructor
  · intro h
    rw [Request.change?.eq_def] at h
    split at h
    case h_1 k value =>
      split at h
      case isTrue hk =>
        obtain ⟨c, hc, hkb⟩ := Option.map_eq_some_iff.1 h
        cases hkb
        exact ⟨hk, by rw [Settings.flag?_eq_some.1 hc]⟩
      · cases h
    · cases h
  · rintro ⟨hk, rfl⟩
    rw [Request.change?, if_pos hk, Settings.flag?_eq_some.2 rfl]
    rfl

theorem Settings.mem_keys {key : String} : key ∈ Settings.keys ↔ key = "verbose" ∨ key = "force" := by
  simp [Settings.keys]

theorem Settings.get?_isSome (s : Settings) (key : String) :
    (s.get? key).isSome ↔ key ∈ Settings.keys := by
  rw [Settings.get?]
  by_cases hv : key = "verbose"
  · simp [hv, Settings.keys]
  · by_cases hf : key = "force"
    · simp [hf, Settings.keys]
    · simp [hv, hf, Settings.keys]

theorem Settings.set_cases (s : Settings) (key value : String) :
    ((Request.config (some key) (some value)).change? = none ∧ ∃ e, s.set key value = .error e) ∨
    ∃ b s', (Request.config (some key) (some value)).change? = some (key, b) ∧
      s.set key value = .ok s' ∧ s'.get? key = some b ∧
      ∀ other, other ≠ key → s'.get? other = s.get? other := by
  have hsome := s.get?_isSome key
  rw [Request.change?, Settings.set]
  by_cases hk : key ∈ Settings.keys
  · obtain ⟨old, hold⟩ := Option.isSome_iff_exists.1 (hsome.2 hk)
    rw [hold, if_pos hk]
    cases hb : Settings.flag? value with
    | none => exact .inl ⟨rfl, _, rfl⟩
    | some b =>
      refine .inr ⟨b, _, rfl, rfl, ?_, ?_⟩
      · rcases Settings.mem_keys.1 hk with rfl | rfl
        · rfl
        · rfl
      · intro other hother
        rcases Settings.mem_keys.1 hk with rfl | rfl
        · simp [Settings.get?, hother]
        · simp [Settings.get?, hother]
  · rw [Option.not_isSome_iff_eq_none.1 (mt hsome.1 hk), if_neg hk]
    exact .inl ⟨rfl, _, rfl⟩

structure Untouched (t t' : FileTree) (directory : String) (s : Settings) : Prop where
  held : Settings.Held t' directory s
  contents : ∀ l, t'.contentAt l = t.contentAt l

structure Changed (t t' : FileTree) (directory : String) (s : Settings) (key : String) (b : Bool) :
    Prop where
  held : ∃ s', Settings.Held t' directory s' ∧ s'.get? key = some b ∧
    ∀ other, other ≠ key → s'.get? other = s.get? other
  contents : ∃ l, t'.locate (Settings.path directory) = .ok l ∧
    ∀ l', l' ≠ l → t'.contentAt l' = t.contentAt l'

section

variable {w : World} {directory : String} {s : Settings}

theorem World.configure_step (hs : Settings.Held w.files directory s)
    (htakes : Settings.Takes w.device directory) (key value : String) :
    let result := w.configure directory (some key) (some value)
    Untouched w.files result.files directory s ∧
      ((Request.config (some key) (some value)).change? = none ∨ result.outcome.isOk = false) ∨
    ∃ b, (Request.config (some key) (some value)).change? = some (key, b) ∧
      result.outcome.isOk = true ∧ Changed w.files result.files directory s key b := by
  have hset := s.set_cases key value
  rw [World.configure, World.changeSetting, hs.loaded, Outcome.ok_bind]
  rcases hset with ⟨hchange, e, he⟩ | ⟨b, s', hchange, hs', hget, hother⟩
  · rw [he]
    exact .inl ⟨⟨hs, fun _ => rfl⟩, .inl hchange⟩
  · rw [hs']
    dsimp only
    cases hsave : (s'.save w.files w.device directory).outcome with
    | error e =>
      obtain ⟨hheld, hcontents⟩ := Settings.save_failed hs htakes hsave
      exact .inl ⟨⟨hheld, hcontents⟩, .inr rfl⟩
    | ok =>
      obtain ⟨l, hl, -, hcontents⟩ := Settings.save_written hsave
      exact .inr ⟨b, hchange, rfl, ⟨s', Settings.save_held hsave, hget, hother⟩, l, hl, hcontents⟩

end

structure Turn where
  invocation : Invocation
  device : Device
  stdin : ByteArray
  environment : Environment
  full : Bool
  colour : Bool

namespace Turn

def world (turn : Turn) (t : FileTree) : World :=
  ⟨t, turn.device, turn.stdin, turn.environment, turn.full, turn.colour⟩

def LooksIn (turn : Turn) (directory : String) : Prop :=
  turn.environment.settingsDirectory turn.invocation.configDir = .ok directory

def outcome (turn : Turn) (t : FileTree) : Except Error Report :=
  (turn.invocation.session (turn.world t)).outcome

def files (turn : Turn) (t : FileTree) : FileTree := (turn.invocation.run (turn.world t)).files

/-- The change that a run has stored. -/
def saved? (turn : Turn) (t : FileTree) : Option (String × Bool) :=
  if (turn.outcome t).isOk then turn.invocation.request.change? else none

def withSwitches (turn : Turn) (verbose force : Bool) : Turn :=
  { turn with invocation := { turn.invocation with verbose := verbose, force := force } }

section

variable {turn : Turn} {t : FileTree} {directory : String} {s : Settings}

theorem files_eq (hd : turn.LooksIn directory) (hs : Settings.load t directory = .ok s) :
    let result := (turn.world t).execute directory
      (s.withFlags turn.invocation.verbose turn.invocation.force) turn.invocation.request
    turn.outcome t = result.outcome ∧ turn.files t = result.files := by
  obtain ⟨houtcome, hfiles⟩ := Invocation.session_eq (w := turn.world t) hd hs
  exact ⟨houtcome, (turn.invocation.run_files _).trans hfiles⟩

theorem step (hd : turn.LooksIn directory) (htakes : Settings.Takes turn.device directory)
    (hs : Settings.Held t directory s) :
    turn.saved? t = none ∧ Untouched t (turn.files t) directory s ∨
    ∃ key b, turn.saved? t = some (key, b) ∧ Changed t (turn.files t) directory s key b := by
  obtain ⟨houtcome, hfiles⟩ := files_eq hd hs.loaded
  have huntouched : Untouched t t directory s := ⟨hs, fun _ => rfl⟩
  rw [saved?, houtcome, hfiles]
  cases turn.invocation.request with
  | query q input =>
    rw [World.execute, World.answer_files]
    exact .inl ⟨ite_self none, huntouched⟩
  | deleteTape id failures =>
    rw [World.execute, World.delete_files]
    exact .inl ⟨ite_self none, huntouched⟩
  | config key value =>
    rw [World.execute]
    cases key with
    | none => exact .inl ⟨ite_self none, huntouched⟩
    | some key =>
      cases value with
      | none => exact .inl ⟨ite_self none, huntouched⟩
      | some value =>
        rcases @World.configure_step (turn.world t) directory s hs htakes key value with
          ⟨hstill, hnone | herror⟩ | ⟨b, hchange, hok, hchanged⟩
        · refine .inl ⟨?_, hstill⟩
          rw [hnone, ite_self]
        · refine .inl ⟨?_, hstill⟩
          rw [herror, if_neg Bool.false_ne_true]
        · refine .inr ⟨key, b, ?_, hchanged⟩
          rw [hok, if_pos rfl, hchange]

theorem files_withSwitches (turn : Turn) (t : FileTree) (verbose force : Bool) :
    (turn.withSwitches verbose force).files t = turn.files t :=
  @Invocation.run_files_switched turn.invocation (turn.withSwitches verbose force).invocation rfl rfl
    (turn.world t)

end

end Turn

namespace History

def leave (turns : List Turn) (t : FileTree) : FileTree :=
  turns.foldl (fun t turn => turn.files t) t

def saves : List Turn → FileTree → List (String × Bool)
  | [], _ => []
  | turn :: turns, t => (turn.saved? t).toList ++ saves turns (turn.files t)

variable {turns : List Turn} {t : FileTree} {directory : String} {s : Settings}

theorem held (hd : ∀ turn ∈ turns, turn.LooksIn directory)
    (htakes : ∀ turn ∈ turns, Settings.Takes turn.device directory)
    (hs : Settings.Held t directory s) :
    ∃ s', Settings.Held (leave turns t) directory s' ∧
      ∀ key, s'.get? key = ((saves turns t).reverse.lookup key).or (s.get? key) := by
  -- what is held after one run is what the next one may rely on
  induction turns generalizing t s with
  | nil => exact ⟨s, hs, fun _ => rfl⟩
  | cons turn turns ih =>
    rw [List.forall_mem_cons] at hd htakes
    rw [leave, List.foldl_cons, ← leave, saves]
    rcases Turn.step hd.1 htakes.1 hs with ⟨hnone, hstill⟩ | ⟨key, b, hsaved, hchanged⟩
    · rw [hnone]
      exact ih hd.2 htakes.2 hstill.held
    · obtain ⟨s₁, hheld, hkey, hother⟩ := hchanged.held
      obtain ⟨s', hs', hlast⟩ := ih hd.2 htakes.2 hheld
      refine ⟨s', hs', ?_⟩
      intro k
      rw [hlast k, hsaved, Option.toList_some, List.singleton_append, List.reverse_cons,
        List.lookup_append, Option.or_assoc]
      congr 1
      by_cases hk : k = key
      · rw [hk, hkey, List.lookup_cons_self, Option.or]
      · rw [hother k hk, lookup_other (Ne.symm hk)]
        rfl

end History

/-- What holds of a run on a tree where the settings `s` are stored. -/
structure Turn.Respects (turn : Turn) (t : FileTree) (directory : String) (s : Settings) : Prop where
  change : (∃ l, (turn.files t).contentAt l ≠ t.contentAt l) →
    ∃ key value, key ∈ ["verbose", "force"] ∧ value ∈ ["true", "false"] ∧
      turn.invocation.request = .config (some key) (some value)
  saved : ∀ key b, turn.saved? t = some (key, b) →
    (∀ l, (turn.files t).contentAt l ≠ t.contentAt l →
      (turn.files t).locate (Settings.path directory) = .ok l) ∧
    ∃ s', Settings.load (turn.files t) directory = .ok s' ∧ s'.get? key = some b ∧
      ∀ other, other ≠ key → s'.get? other = s.get? other
  unsaved : turn.saved? t = none → Settings.load (turn.files t) directory = .ok s
  failed : (told (turn.outcome t)).status = .error →
    ∀ l, (turn.files t).contentAt l = t.contentAt l
  switches : ∀ verbose force, (turn.withSwitches verbose force).files t = turn.files t

theorem Turn.respects {turn : Turn} {t : FileTree} {directory : String} {s : Settings}
    (hd : turn.LooksIn directory) (htakes : Settings.Takes turn.device directory)
    (hs : Settings.Held t directory s) : turn.Respects t directory s := by
  have hstep := Turn.step hd htakes hs
  refine ⟨?_, ?_, ?_, ?_, turn.files_withSwitches t⟩
  · rintro ⟨l, hl⟩
    rcases hstep with ⟨-, hstill⟩ | ⟨key, b, hsaved, -⟩
    · exact absurd (hstill.contents l) hl
    · rw [saved?] at hsaved
      split at hsaved
      case isTrue =>
        obtain ⟨hkey, hrequest⟩ := Request.change?_eq_some.1 hsaved
        exact ⟨key, _, hkey, by cases b <;> simp, hrequest⟩
      case isFalse => cases hsaved
  · intro key b hsaved
    rcases hstep with ⟨hnone, -⟩ | ⟨key', b', hsaved', hchanged⟩
    · rw [hnone] at hsaved
      cases hsaved
    · rw [hsaved'] at hsaved
      cases hsaved
      obtain ⟨s', hheld, hkey, hother⟩ := hchanged.held
      obtain ⟨l, hl, hcontents⟩ := hchanged.contents
      refine ⟨?_, s', hheld.loaded, hkey, hother⟩
      intro l' hl'
      by_cases hne : l' = l
      · rw [hne]
        exact hl
      · exact absurd (hcontents l' hne) hl'
  · intro hnone
    rcases hstep with ⟨-, hstill⟩ | ⟨key, b, hsaved, -⟩
    · exact hstill.held.loaded
    · rw [hnone] at hsaved
      cases hsaved
  · intro herror
    rcases hstep with ⟨-, hstill⟩ | ⟨key, b, hsaved, -⟩
    · exact hstill.contents
    · rw [told_status] at herror
      rw [saved?] at hsaved
      split at hsaved
      case isTrue hok =>
        rw [hok] at herror
        cases herror
      case isFalse => cases hsaved

/-- In a history of runs that look for their settings in one directory, whose file is missing or
readable and can be written where that directory is there or can be made, on devices that write the
file wherever the tree lets them: every run changes no file but that of the settings, and that only by
the setting that it was asked to change; a run that is told as an error changes none. After all runs
each setting is the last that was stored, or what it was before them. -/
theorem history_settings {turns : List Turn} {t : FileTree} {directory : String} {s : Settings}
    (hd : ∀ turn ∈ turns, turn.LooksIn directory) (hl : Settings.load t directory = .ok s)
    (hw : Settings.Storable t directory)
    (htakes : ∀ turn ∈ turns, Settings.Takes turn.device directory) :
    (∀ before turn after, turns = before ++ turn :: after →
      ∃ s₁, Settings.load (History.leave before t) directory = .ok s₁ ∧
        turn.Respects (History.leave before t) directory s₁) ∧
    ∃ s', Settings.load (History.leave turns t) directory = .ok s' ∧
      ∀ key ∈ Settings.keys,
        s'.get? key = ((History.saves turns t).reverse.lookup key).or (s.get? key) := by
  constructor
  · rintro before turn after rfl
    rw [List.forall_mem_append, List.forall_mem_cons] at hd htakes
    obtain ⟨s₁, hs₁, -⟩ := History.held hd.1 htakes.1 ⟨hl, hw⟩
    exact ⟨s₁, hs₁.loaded, Turn.respects hd.2.1 htakes.2.1 hs₁⟩
  · obtain ⟨s', hs', hlast⟩ := History.held hd htakes ⟨hl, hw⟩
    exact ⟨s', hs'.loaded, fun key _ => hlast key⟩

def quietTurn (request : Request) (device : Device) (force full : Bool) : Turn :=
  ⟨⟨request, false, force, some "home/tool"⟩, device, ByteArray.empty, ⟨none, none, none⟩, full, false⟩

def narrow : Device := ⟨fun l => if l = ["home"] then some .noSpace else none, some (100, .noSpace)⟩

def someTurns : List Turn :=
  [quietTurn (.config (some "force") (some "false")) narrow false false,
    quietTurn (.config (some "verbose") (some "true")) .sound true false,
    quietTurn (.config (some "force") (some "yes")) .sound true false,
    quietTurn (.deleteTape Uuid.nil none) .sound true false,
    quietTurn (.config (some "force") (some "true")) narrow false true,
    quietTurn (.config (some "verbose") (some "false")) .sound false false]

theorem someTurns_storable : Settings.Storable FileTree.empty "home/tool" := by
  intro t₁ hmake content
  have hfiles : t₁ = (FileTree.empty.makePath .sound "home/tool").files := by rw [hmake]
  subst hfiles
  exact ⟨_, rfl⟩

theorem narrow_takes (directory : String) : Settings.Takes narrow directory := by
  intro t s hok
  have hshort : narrow.shortfall? s.content.size = none := by
    obtain ⟨verbose, force⟩ := s
    cases verbose <;> cases force <;> decide +kernel
  rcases FileTree.write_cases t .sound (Settings.path directory) s.content with
    ⟨l, hl, hdir, -⟩ | ⟨e, hwrite | ⟨l, n, -, -, -, hwrite⟩⟩
  · obtain ⟨l', rfl⟩ := Settings.locate_path hl
    have hplace : l' ++ ["config.json"] ≠ ["home"] := by
      intro h
      have hlast := congrArg List.getLast? h
      simp at hlast
    have hrefusal : narrow.refusal? (l' ++ ["config.json"]) = none := if_neg hplace
    simp only [FileTree.write, hl, if_neg hdir, hrefusal, hshort]
  · rw [hwrite] at hok
    cases hok
  · rw [hwrite] at hok
    cases hok

theorem history_settings_some :
    ∃ s', Settings.load (History.leave someTurns FileTree.empty) "home/tool" = .ok s' ∧
      s'.get? "verbose" = some false ∧ s'.get? "force" = some true := by
  have hturn : ∀ turn ∈ someTurns,
      turn.LooksIn "home/tool" ∧ (turn.device = .sound ∨ turn.device = narrow) := by
    intro turn h
    simp only [someTurns, List.mem_cons, List.not_mem_nil, or_false] at h
    rcases h with rfl | rfl | rfl | rfl | rfl | rfl <;> exact ⟨rfl, by simp [quietTurn]⟩
  have htakes : ∀ turn ∈ someTurns, Settings.Takes turn.device "home/tool" := by
    intro turn h
    rcases (hturn turn h).2 with hsound | hnarrow
    · rw [hsound]
      exact fun _ _ hok => hok
    · rw [hnarrow]
      exact narrow_takes _
  have hl : Settings.load FileTree.empty "home/tool" = .ok .initial :=
    Outcome.toOption_eq_some.1 (by decide +kernel)
  have hsaves : History.saves someTurns FileTree.empty =
      [("verbose", true), ("force", true), ("verbose", false)] := by decide +kernel
  obtain ⟨-, s', hs', hlast⟩ :=
    history_settings (fun turn h => (hturn turn h).1) hl someTurns_storable htakes
  rw [hsaves] at hlast
  exact ⟨s', hs', hlast "verbose" (by decide), hlast "force" (by decide)⟩

end PearlReport
