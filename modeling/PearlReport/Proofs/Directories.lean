import PearlReport.Proofs.FileTree

/-! Directories that are made. An attempt that fails leaves what it has made, but no directory at the
end of the path, and a later attempt comes to what it would have come to without the first. -/

namespace PearlReport

namespace FileTree

variable {t t' : FileTree} {device : Device} {l : Location} {path : String} {base : Location}
  {names : List String}

theorem isDirectory_iff : t.isDirectory base names = true ↔
    ∃ l, names.foldlM t.step base = .ok l ∧ t.get? l = some .directory := by
  rw [isDirectory]
  cases names.foldlM t.step base <;> simp

theorem makeDirectory_eq_ok : t.makeDirectory device base names = .ok t' ↔
    ∃ l, names.foldlM t.step base = .ok l ∧ t.get? l = none ∧ device.refusal? l = none ∧
      t' = t.set l .directory := by
  rw [makeDirectory, Outcome.bind_eq_ok]
  constructor
  · rintro ⟨l, hl, hset⟩
    refine ⟨l, hl, ?_⟩
    split at hset
    · cases hset
    · cases hset
    case h_3 hnone hrefusal => exact ⟨hnone, hrefusal, (Except.ok.inj hset).symm⟩
  · rintro ⟨l, hl, hnone, hrefusal, rfl⟩
    refine ⟨l, hl, ?_⟩
    rw [hnone, hrefusal]

theorem makeDirectory_made (h : t.makeDirectory device base names = .ok t') :
    t.Grows t' ∧ t'.isDirectory base names = true := by
  obtain ⟨l, hl, hnone, -, rfl⟩ := makeDirectory_eq_ok.1 h
  have hgrows := Grows.set hnone
  have hdir : t.get? l ≠ some .directory := by simp [hnone]
  refine ⟨hgrows, isDirectory_iff.2 ⟨l, ?_, get?_set_self hdir _⟩⟩
  exact foldlM_step_mono (fun _ => hgrows.kept) hl

theorem takeDirectory_cases (t : FileTree) (device : Device) (base : Location)
    (names : List String) :
    (t.isDirectory base names = true ∧ t.takeDirectory device base names = .nothing t) ∨
    (∃ t', t.makeDirectory device base names = .ok t' ∧
      t.takeDirectory device base names = ⟨t', .ok ()⟩) ∨
    (t.isDirectory base names = false ∧ ∃ e, t.makeDirectory device base names = .error e ∧
      t.takeDirectory device base names = ⟨t, .error e⟩) := by
  rw [takeDirectory]
  cases hd : t.isDirectory base names with
  | true => exact .inl ⟨rfl, rfl⟩
  | false =>
    cases hm : t.makeDirectory device base names with
    | ok t' => exact .inr (.inl ⟨t', rfl, rfl⟩)
    | error e => exact .inr (.inr ⟨rfl, e, rfl, rfl⟩)

theorem takeDirectory_grows (t : FileTree) (device : Device) (base : Location)
    (names : List String) : t.Grows (t.takeDirectory device base names).files := by
  rcases takeDirectory_cases t device base names with ⟨-, h⟩ | ⟨t', hm, h⟩ | ⟨-, e, -, h⟩
  · rw [h]
    exact .refl t
  · rw [h]
    exact (makeDirectory_made hm).1
  · rw [h]
    exact .refl t

theorem takeDirectory_made (h : (t.takeDirectory device base names).outcome = .ok ()) :
    (t.takeDirectory device base names).files.isDirectory base names = true := by
  rcases takeDirectory_cases t device base names with ⟨hd, ht⟩ | ⟨t', hm, ht⟩ | ⟨-, e, -, ht⟩
  · rw [ht]
    exact hd
  · rw [ht]
    exact (makeDirectory_made hm).2
  · rw [ht] at h
    cases h

theorem takeDirectory_error {e : SystemError}
    (h : (t.takeDirectory device base names).outcome = .error e) :
    (t.takeDirectory device base names).files = t ∧ t.isDirectory base names = false := by
  rcases takeDirectory_cases t device base names with ⟨-, ht⟩ | ⟨t', -, ht⟩ | ⟨hd, e, -, ht⟩
  · rw [ht] at h
    cases h
  · rw [ht] at h
    cases h
  · rw [ht]
    exact ⟨rfl, hd⟩

theorem takeDirectory_located (h : (t.takeDirectory device base names).outcome = .ok ()) :
    ∃ l, names.foldlM t.step base = .ok l := by
  rcases takeDirectory_cases t device base names with ⟨hd, -⟩ | ⟨t', hm, -⟩ | ⟨-, e, -, ht⟩
  · obtain ⟨l, hl, -⟩ := isDirectory_iff.1 hd
    exact ⟨l, hl⟩
  · obtain ⟨l, hl, -⟩ := makeDirectory_eq_ok.1 hm
    exact ⟨l, hl⟩
  · rw [ht] at h
    cases h

theorem takeDirectory_sound (h : (t.takeDirectory device base names).outcome = .ok ()) :
    t.takeDirectory .sound base names = t.takeDirectory device base names := by
  rcases takeDirectory_cases t device base names with ⟨hd, ht⟩ | ⟨t', hm, ht⟩ | ⟨-, e, -, ht⟩
  · rw [ht, takeDirectory, if_pos hd]
  · obtain ⟨l, hl, hnone, -, ht'⟩ := makeDirectory_eq_ok.1 hm
    have hsound : t.makeDirectory .sound base names = .ok t' :=
      makeDirectory_eq_ok.2 ⟨l, hl, hnone, rfl, ht'⟩
    have hnot : ¬ t.isDirectory base names = true := by
      intro hd
      obtain ⟨l', hl', hdir⟩ := isDirectory_iff.1 hd
      rw [hl] at hl'
      cases hl'
      rw [hnone] at hdir
      cases hdir
    rw [ht, takeDirectory, if_neg hnot, hsound]
    rfl
  · rw [ht] at h
    cases h

theorem misses_of_isDirectory (h : t.isDirectory base names = true) :
    t.misses device base names = false := by
  obtain ⟨l, hl, hdir⟩ := isDirectory_iff.1 h
  rw [misses, makeDirectory, hl, Outcome.ok_bind, hdir]
  rfl

theorem misses_sound (h : t.misses device base names = true) :
    t.misses .sound base names = true ∨ ∃ l, names.foldlM t.step base = .ok l := by
  rw [misses, makeDirectory] at h ⊢
  cases hl : names.foldlM t.step base with
  | error e =>
    rw [hl] at h
    exact .inl h
  | ok l => exact .inr ⟨l, rfl⟩

theorem not_misses_of_located (h : names.foldlM t.step base = .ok l) :
    t.misses .sound base names = false := by
  rw [misses, makeDirectory, h, Outcome.ok_bind]
  cases t.get? l <;> rfl

/-- What an operation that makes the directory under the names, and all those above it, does to every
tree with every device. -/
structure Makes (base : Location) (names : List String) (make : Device → FileTree → Change) :
    Prop where
  grows : ∀ device (t : FileTree), t.Grows (make device t).files
  idle : ∀ {device t}, t.isDirectory base names = true → make device t = .nothing t
  made : ∀ {device t}, t.get? base = some .directory → (make device t).outcome = .ok () →
    (make device t).files.isDirectory base names = true
  unmade : ∀ {device t e}, (make device t).outcome = .error e →
    (make device t).files.isDirectory base names = false
  sound : ∀ {device t}, (make device t).outcome = .ok () → make .sound t = make device t
  resumed : ∀ {device t e}, t.get? base = some .directory → (make device t).outcome = .error e →
    (make .sound (make device t).files).outcome = .ok () →
      make .sound (make device t).files = make .sound t

theorem makeBelow_cases (device : Device) (make : FileTree → Change) (t : FileTree) :
    makeBelow device base names make t = t.takeDirectory device base names ∨
    t.misses device base names = true ∧
      ((∃ e, (make t).outcome = .error e) ∧ makeBelow device base names make t = make t ∨
      (make t).outcome = .ok () ∧
        makeBelow device base names make t = (make t).files.takeDirectory device base names) := by
  rw [makeBelow]
  cases t.misses device base names with
  | false => exact .inl rfl
  | true =>
    rw [if_pos rfl, Change.andThen]
    cases (make t).outcome with
    | error e => exact .inr ⟨rfl, .inl ⟨⟨e, rfl⟩, rfl⟩⟩
    | ok => exact .inr ⟨rfl, .inr ⟨rfl, rfl⟩⟩

theorem makeBelow_of_misses {make : FileTree → Change} (h : t.misses device base names = true)
    (hok : (make t).outcome = .ok ()) :
    makeBelow device base names make t = (make t).files.takeDirectory device base names := by
  rw [makeBelow, if_pos h, Change.andThen, hok]

theorem makeBelow_idle {make : FileTree → Change} (h : make t = .nothing t) :
    makeBelow device base names make t = t.takeDirectory device base names := by
  rw [makeBelow, h]
  exact ite_self _

theorem makeBelow_located {make : FileTree → Change} (h : names.foldlM t.step base = .ok l) :
    makeBelow .sound base names make t = t.takeDirectory .sound base names := by
  rw [makeBelow, not_misses_of_located h, if_neg Bool.false_ne_true]

section

variable {above : List String} {make : Device → FileTree → Change} (hm : Makes base above make)
  (hbelow : ∀ (t : FileTree) (l : Location), names.foldlM t.step base = .ok l →
    t.isDirectory base above = true)

include hm hbelow

theorem makeBelow_unmade {e : SystemError}
    (h : (makeBelow device base names (make device) t).outcome = .error e) :
    (makeBelow device base names (make device) t).files.isDirectory base names = false := by
  rcases makeBelow_cases device (make device) t with ht | ⟨-, ⟨⟨e', he⟩, ht⟩ | ⟨-, ht⟩⟩
  · rw [ht] at h ⊢
    obtain ⟨hfiles, hd⟩ := takeDirectory_error h
    rw [hfiles]
    exact hd
  · rw [ht]
    have hnot := hm.unmade he
    rw [Bool.eq_false_iff] at hnot ⊢
    intro hd
    obtain ⟨l, hl, -⟩ := isDirectory_iff.1 hd
    exact hnot (hbelow _ l hl)
  · rw [ht] at h ⊢
    obtain ⟨hfiles, hd⟩ := takeDirectory_error h
    rw [hfiles]
    exact hd

theorem makeBelow_sound (h : (makeBelow device base names (make device) t).outcome = .ok ()) :
    makeBelow .sound base names (make .sound) t = makeBelow device base names (make device) t := by
  rcases makeBelow_cases device (make device) t with ht | ⟨hmisses, ⟨⟨e, he⟩, ht⟩ | ⟨hok, ht⟩⟩
  · rw [ht] at h ⊢
    obtain ⟨l, hl⟩ := takeDirectory_located h
    rw [makeBelow_located hl, takeDirectory_sound h]
  · rw [ht, he] at h
    cases h
  · rw [ht] at h ⊢
    rw [← takeDirectory_sound h]
    rcases misses_sound hmisses with hmisses' | ⟨l, hl⟩
    · have hsound := hm.sound hok
      rw [makeBelow_of_misses hmisses' (by rw [hsound]; exact hok), hsound]
    -- nothing is missing on the way, so that nothing has been made above
    · rw [makeBelow_located hl, hm.idle (hbelow t l hl)]
      rfl

theorem makeBelow_resumed {e : SystemError} (hbase : t.get? base = some .directory)
    (h : (makeBelow device base names (make device) t).outcome = .error e)
    (hagain : (makeBelow .sound base names (make .sound)
      (makeBelow device base names (make device) t).files).outcome = .ok ()) :
    makeBelow .sound base names (make .sound)
        (makeBelow device base names (make device) t).files =
      makeBelow .sound base names (make .sound) t := by
  rcases makeBelow_cases device (make device) t with ht | ⟨hmisses, ⟨⟨e', he⟩, ht⟩ | ⟨hok, ht⟩⟩
  -- nothing has been made, so the second attempt is on the same tree
  · rw [ht] at h
    rw [ht, (takeDirectory_error h).1]
  -- the directories above could not be made, so the second attempt makes them first
  · have hnot := hm.unmade he
    rw [Bool.eq_false_iff] at hnot
    rw [ht] at hagain ⊢
    rcases makeBelow_cases .sound (make .sound) (make device t).files with
      ht' | ⟨-, ⟨⟨e'', he'⟩, ht'⟩ | ⟨hok', ht'⟩⟩
    · rw [ht'] at hagain
      obtain ⟨l, hl⟩ := takeDirectory_located hagain
      exact absurd (hbelow _ l hl) hnot
    · rw [ht', he'] at hagain
      cases hagain
    · have hresumed := hm.resumed hbase he hok'
      rcases misses_sound hmisses with hmisses' | ⟨l, hl⟩
      · rw [hresumed] at hok'
        rw [ht', hresumed, makeBelow_of_misses hmisses' hok']
      · rw [hm.idle (hbelow t l hl)] at he
        cases he
  -- those above are there, so that the second attempt is again the last step of the first
  · rw [ht] at h
    have hfiles : (makeBelow device base names (make device) t).files = (make device t).files := by
      rw [ht]
      exact (takeDirectory_error h).1
    rw [hfiles, makeBelow_idle (hm.idle (hm.made hbase hok))]
    rcases misses_sound hmisses with hmisses' | ⟨l, hl⟩
    · have hsound := hm.sound hok
      rw [makeBelow_of_misses hmisses' (by rw [hsound]; exact hok), hsound]
    · rw [makeBelow_located hl, hm.idle (hbelow t l hl)]
      rfl

theorem makeBelow_makes : Makes base names fun device => makeBelow device base names (make device) where
  grows := by
    intro device t
    rcases makeBelow_cases device (make device) t with ht | ⟨-, ⟨-, ht⟩ | ⟨-, ht⟩⟩
    · rw [ht]
      exact takeDirectory_grows t device base names
    · rw [ht]
      exact hm.grows device t
    · rw [ht]
      exact (hm.grows device t).trans (takeDirectory_grows _ device base names)
  idle := by
    intro device t hd
    rw [makeBelow, misses_of_isDirectory hd, if_neg Bool.false_ne_true, takeDirectory, if_pos hd]
  made := by
    intro device t _ h
    rcases makeBelow_cases device (make device) t with ht | ⟨-, ⟨⟨e, he⟩, ht⟩ | ⟨-, ht⟩⟩
    · rw [ht] at h ⊢
      exact takeDirectory_made h
    · rw [ht, he] at h
      cases h
    · rw [ht] at h ⊢
      exact takeDirectory_made h
  unmade := makeBelow_unmade hm hbelow
  sound := makeBelow_sound hm hbelow
  resumed := makeBelow_resumed hm hbelow

end

theorem isDirectory_of_foldlM {name : String} (h : (names ++ [name]).foldlM t.step base = .ok l) :
    t.isDirectory base names = true := by
  rw [List.foldlM_append] at h
  obtain ⟨l', hl', hname⟩ := Outcome.bind_eq_ok.1 h
  rw [List.foldlM_cons] at hname
  obtain ⟨_, hstep, -⟩ := Outcome.bind_eq_ok.1 hname
  exact isDirectory_iff.2 ⟨l', hl', (step_eq_ok.1 hstep).1⟩

theorem nothing_makes (h : ∀ t : FileTree, t.get? base = some .directory →
    t.isDirectory base names = true) : Makes base names fun _ => .nothing where
  grows := fun _ => .refl
  idle := fun _ => rfl
  made := fun hbase _ => h _ hbase
  unmade := nofun
  sound := fun _ => rfl
  resumed := nofun

theorem makeAbove_makes (base : Location) (above : List String) :
    Makes base above.reverse fun device => makeAbove device base above := by
  induction above with
  | nil =>
    apply nothing_makes
    intro t hbase
    exact isDirectory_iff.2 ⟨base, rfl, hbase⟩
  | cons name above ih =>
    apply makeBelow_makes ih
    intro t l hl
    rw [List.reverse_cons] at hl
    exact isDirectory_of_foldlM hl

theorem foldlM_step_undotted {start : Location} (h : names.foldlM t.step start = .ok l) :
    (names.filter (· ≠ ".")).foldlM t.step start = .ok l := by
  induction names generalizing start with
  | nil => exact h
  | cons name names ih =>
    rw [List.foldlM_cons] at h
    obtain ⟨next, hstep, hrest⟩ := Outcome.bind_eq_ok.1 h
    by_cases hdot : name = "."
    · obtain ⟨-, -, hnext⟩ := step_eq_ok.1 hstep
      rw [Path.advance, if_pos hdot] at hnext
      subst hnext
      rw [List.filter_cons_of_neg (by simp [hdot])]
      exact ih hrest
    · rw [List.filter_cons_of_pos (by simp [hdot]), List.foldlM_cons, hstep]
      exact ih hrest

theorem foldlM_step_dots (hbase : t.get? base = some .directory) (h : ∀ name ∈ names, name = ".") :
    names.foldlM t.step base = .ok base := by
  induction names with
  | nil => rfl
  | cons name names ih =>
    rw [List.forall_mem_cons] at h
    have hstep : t.step base name = .ok base := by
      rw [h.1]
      exact step_eq_ok.2 ⟨hbase, by decide, rfl⟩
    rw [List.foldlM_cons, hstep]
    exact ih h.2

theorem makeNames_makes (base : Location) (names : List String) :
    Makes base names fun device => makeNames device base names := by
  simp only [makeNames]
  cases hnames : (names.filter (· ≠ ".")).reverse with
  | nil =>
    apply nothing_makes
    intro t hbase
    refine isDirectory_iff.2 ⟨base, foldlM_step_dots hbase ?_, hbase⟩
    simpa using hnames
  | cons last above =>
    apply makeBelow_makes (makeAbove_makes base above)
    intro t l hl
    have hsplit : names.filter (· ≠ ".") = above.reverse ++ [last] := by
      rw [← List.reverse_reverse (names.filter (· ≠ ".")), hnames, List.reverse_cons]
    have hundotted := foldlM_step_undotted hl
    rw [hsplit] at hundotted
    exact isDirectory_of_foldlM hundotted

theorem makePath_cases (path : String) :
    (∃ e, ∀ (t : FileTree) device, t.makePath device path = ⟨t, .error e⟩) ∨
    ∀ (t : FileTree) device,
      t.makePath device path = makeNames device (t.start path) (Path.plainNames path) t := by
  by_cases hnul : path.toList.contains '\x00'
  · exact .inl ⟨.nulInPath, fun t device => if_pos hnul⟩
  · by_cases hlong : 4095 < path.utf8ByteSize
    · exact .inl ⟨.nameTooLong, fun t device => by rw [makePath, if_neg hnul, if_pos hlong]⟩
    · exact .inr fun t device => by rw [makePath, if_neg hnul, if_neg hlong]

theorem makePath_grows (t : FileTree) (device : Device) (path : String) :
    t.Grows (t.makePath device path).files := by
  rcases makePath_cases path with ⟨e, he⟩ | hnames
  · rw [he]
    exact .refl t
  · rw [hnames]
    exact (makeNames_makes _ _).grows device t

/-- A failed attempt either has made nothing, or neither found nor left a directory there. -/
theorem makePath_unmade {e : SystemError} (h : (t.makePath device path).outcome = .error e) :
    (t.makePath device path).files = t ∨
    t.isDirectory (t.start path) (Path.plainNames path) = false ∧
      (t.makePath device path).files.isDirectory (t.start path) (Path.plainNames path) = false := by
  rcases makePath_cases path with ⟨e, he⟩ | hnames
  · rw [he]
    exact .inl rfl
  · rw [hnames] at h ⊢
    have hmakes := makeNames_makes (t.start path) (Path.plainNames path)
    refine .inr ⟨?_, hmakes.unmade h⟩
    rw [Bool.eq_false_iff]
    intro hd
    rw [hmakes.idle hd] at h
    cases h

theorem makePath_sound (h : (t.makePath device path).outcome = .ok ()) :
    t.makePath .sound path = t.makePath device path := by
  rcases makePath_cases path with ⟨e, he⟩ | hnames
  · rw [he, he]
  · rw [hnames] at h ⊢
    rw [hnames]
    exact (makeNames_makes _ _).sound h

theorem makePath_resumed {e : SystemError} (h : (t.makePath device path).outcome = .error e)
    (hagain : ((t.makePath device path).files.makePath .sound path).outcome = .ok ()) :
    (t.makePath device path).files.makePath .sound path = t.makePath .sound path := by
  rcases makePath_cases path with ⟨e, he⟩ | hnames
  · rw [he] at hagain
    cases hagain
  · have hstart := start_congr (makePath_grows t device path).working path
    rw [hnames (t.makePath device path).files, hstart] at hagain ⊢
    rw [hnames t device] at h hagain ⊢
    rw [hnames]
    exact (makeNames_makes _ _).resumed (t.get?_start path) h hagain

end FileTree

end PearlReport
