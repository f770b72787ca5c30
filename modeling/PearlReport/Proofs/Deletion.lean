import Mathlib.Data.List.Forall2
import PearlReport.Proofs.Identifier
import PearlReport.Proofs.Response
import PearlReport.Proofs.Session

/-! Deleting a tape. The request passes without a report of failures, with a report of none, or
where failures are to be ignored. What cannot be read as a report refuses it. -/

namespace PearlReport

open Json

/-- An object with both texts, whatever else it has, or a list of the two and nothing else. -/
def TapeFailure.StatedBy (f : TapeFailure) : Value → Prop
  | .obj ms =>
    ms.lookup "tapeId" = some (.str f.tapeId) ∧
      ms.lookup "errorMessage" = some (.str f.errorMessage)
  | v => v = .arr [.str f.tapeId, .str f.errorMessage]

theorem Shape.text_ofValue {v : Value} {t : String} : Shape.text.ofValue v = .ok t ↔ v = .str t := by
  rw [← Outcome.toOption_eq_some]
  exact Leaf.read_text

theorem TapeFailure.ofValue_obj {ms : List (String × Value)} (hms : (ms.map Prod.fst).Nodup)
    {f : TapeFailure} : TapeFailure.shape.ofValue (.obj ms) = .ok f ↔ f.StatedBy (.obj ms) := by
  have htext (key t : String) : (Field.required key).lookup .text ms = some t ↔
      ms.lookup key = some (.str t) :=
    Field.lookup_required .text .str rfl fun _ _ => Leaf.read_text
  rw [← Outcome.toOption_eq_some, TapeFailure.shape, Shape.ofValue_record _ _ _ (by decide) hms,
    Option.map_eq_some_iff]
  simp only [TapeFailure.fields, Fields.lookups, Option.bind_eq_some_iff, Option.map_eq_some_iff,
    htext, StatedBy]
  constructor
  · rintro ⟨_, ⟨id, hid, _, ⟨message, hmessage, _, -, rfl⟩, rfl⟩, rfl⟩
    exact ⟨hid, hmessage⟩
  · rintro ⟨hid, hmessage⟩
    exact ⟨_, ⟨_, hid, _, ⟨_, hmessage, (), trivial, rfl⟩, rfl⟩, rfl⟩

theorem TapeFailure.ofValue_arr (vs : List Value) (f : TapeFailure) :
    TapeFailure.shape.ofValue (.arr vs) = .ok f ↔ f.StatedBy (.arr vs) := by
  rw [TapeFailure.shape, Shape.ofValue]
  rcases vs with - | ⟨v, - | ⟨u, rest⟩⟩
  · simp [TapeFailure.fields, Fields.ofValues, Field.required, StatedBy]
  · simp [TapeFailure.fields, Fields.ofValues, Field.required, StatedBy, Outcome.bind_eq_ok]
  · simp only [TapeFailure.fields, Fields.ofValues, Outcome.bind_eq_ok, Shape.text_ofValue, StatedBy,
      Value.arr.injEq, List.cons.injEq]
    constructor
    · rintro ⟨⟨_, left⟩, ⟨id, rfl, ⟨_, _⟩, ⟨message, rfl, ⟨_, _⟩, ⟨⟩, ⟨⟩⟩, ⟨⟩⟩, hf⟩
      cases rest with
      | nil =>
        cases hf
        exact ⟨rfl, rfl, rfl⟩
      | cons x rest => cases hf
    · rintro ⟨rfl, rfl, rfl⟩
      exact ⟨_, ⟨_, rfl, _, ⟨_, rfl, _, rfl, rfl⟩, rfl⟩, rfl⟩

theorem TapeFailure.ofValue_eq_ok {v : Value} (hd : v.Distinct) {f : TapeFailure} :
    TapeFailure.shape.ofValue v = .ok f ↔ f.StatedBy v := by
  cases v with
  | atom a => exact ⟨(fun h => nomatch h), (fun h => nomatch h)⟩
  | arr vs => exact TapeFailure.ofValue_arr vs f
  | obj ms => exact TapeFailure.ofValue_obj hd.1

/-- The failures that the text of a file or of standard input states, one by one. -/
def World.Lists (w : World) (path : String) (items : List TapeFailure) : Prop :=
  ∃ text vs, w.read path = .ok text ∧ Value.parse text = .ok (.arr vs) ∧
    List.Forall₂ (fun v f => f.StatedBy v) vs items

theorem Outcome.mapM_eq_ok {ε α β : Type} {f : α → Except ε β} {as : List α} {bs : List β} :
    as.mapM f = .ok bs ↔ List.Forall₂ (fun a b => f a = .ok b) as bs := by
  induction as generalizing bs with
  | nil =>
    rw [List.mapM_nil, List.forall₂_nil_left_iff]
    exact ⟨fun h => (Except.ok.inj h).symm, fun h => h ▸ rfl⟩
  | cons a as ih =>
    rw [List.mapM_cons, List.forall₂_cons_left_iff, bind_eq_ok]
    constructor
    · rintro ⟨b, hb, hrest⟩
      obtain ⟨rest, hrest, hbs⟩ := bind_eq_ok.1 hrest
      exact ⟨b, rest, hb, ih.1 hrest, (Except.ok.inj hbs).symm⟩
    · rintro ⟨b, rest, hb, hrest, rfl⟩
      exact ⟨b, hb, bind_eq_ok.2 ⟨rest, ih.2 hrest, rfl⟩⟩

theorem forall₂_congr {α β : Type} {R S : α → β → Prop} {as : List α} {bs : List β}
    (h : ∀ a ∈ as, ∀ b, R a b ↔ S a b) : List.Forall₂ R as bs ↔ List.Forall₂ S as bs := by
  induction as generalizing bs with
  | nil => simp only [List.forall₂_nil_left_iff]
  | cons a as ih =>
    have ha := h a List.mem_cons_self
    have hrest (us : List β) : List.Forall₂ R as us ↔ List.Forall₂ S as us :=
      ih fun b hb => h b (List.mem_cons_of_mem a hb)
    simp only [List.forall₂_cons_left_iff, ha, hrest]

theorem TapeFailure.ofResponse_eq_ok {text : String} {items : List TapeFailure} :
    (Shape.list TapeFailure.shape).ofResponse text = .ok items ↔
      ∃ vs, Value.parse text = .ok (.arr vs) ∧
        List.Forall₂ (fun v f => f.StatedBy v) vs items := by
  have hlist {vs : List Value} (hd : (Value.arr vs).Distinct) :
      vs.mapM TapeFailure.shape.ofValue = .ok items ↔
        List.Forall₂ (fun v f => f.StatedBy v) vs items := by
    rw [Outcome.mapM_eq_ok]
    exact forall₂_congr fun v hv f => ofValue_eq_ok ((Value.distinctItems_iff vs).1 hd v hv)
  rw [Shape.ofResponse]
  cases hp : Value.parse text with
  | error c => simp
  | ok v =>
    have hd := Value.parse_distinct hp
    simp only [Except.ok.injEq]
    rcases (Shape.list TapeFailure.shape).classify_cases hd with
      ⟨status, message, ⟨ms, code, rfl, -⟩, hs⟩ | ⟨-, hs⟩
    · simp [hs]
    · rw [hs, Outcome.mapError_eq_ok, Shape.ofValue]
      cases v with
      | atom a => simp [Value.items]
      | obj ms => simp [Value.items]
      | arr vs => simp [Value.items, hlist hd]

theorem World.reported_eq_ok {w : World} {path : String} {items : List TapeFailure} :
    w.reported (some path) = .ok items ↔ w.Lists path items := by
  rw [World.reported, Outcome.bind_eq_ok]
  simp only [TapeFailure.ofResponse_eq_ok, World.Lists, exists_and_left]

theorem checkFailures_eq_ok {items : List TapeFailure} {force : Bool} :
    (checkFailures items force).outcome = .ok () ↔ items = [] ∨ force = true := by
  cases items with
  | nil => simp [checkFailures]
  | cons f fs => cases force <;> simp [checkFailures, TapeFailures.aggregate, TapeFailures.ofList?]

theorem checkFailures_refuses {items : List TapeFailure} (h : items ≠ []) :
    (checkFailures items false).outcome = .error (.tapeFailures ⟨items, h⟩) := by
  cases items with
  | nil => exact absurd rfl h
  | cons f fs => rfl

theorem checkFailures_notes (items : List TapeFailure) (force : Bool) :
    (checkFailures items force).notes =
      if items ≠ [] ∧ force = true then
        ["Ignoring " ++ toString items.length ++ " tape failure(s) because --force was given",
          TapeFailures.header ++ String.join (items.map TapeFailures.line) ++ TapeFailures.footer]
      else [] := by
  cases items with
  | nil => rfl
  | cons f fs => cases force <;> rfl

/-- There is no report, or one of no failures, or one that is to be ignored. -/
def World.MayDelete (w : World) (force : Bool) : Option String → Prop
  | none => True
  | some path => ∃ items, w.Lists path items ∧ (items = [] ∨ force = true)

theorem World.mayDelete_iff {w : World} {force : Bool} {failures : Option String} :
    w.MayDelete force failures ↔
      ∃ items, w.reported failures = .ok items ∧ (items = [] ∨ force = true) := by
  cases failures with
  | none => exact ⟨fun _ => ⟨[], rfl, .inl rfl⟩, fun _ => trivial⟩
  | some path => simp only [World.MayDelete, World.reported_eq_ok]

section

variable {i : Invocation} {w : World} {id : Uuid} {failures : Option String} {stored : Settings}

theorem Invocation.delete_outcome (hi : i.request = .deleteTape id failures)
    (hs : i.stored w = .ok stored) :
    (i.session w).outcome = (do
      let items ← w.reported failures
      let _ ← (checkFailures items (stored.force || i.force)).outcome
      .ok (.status ("Success: Deleted tape " ++ String.ofList id.text))) := by
  obtain ⟨directory, hd, hl⟩ := Invocation.stored_eq_ok.1 hs
  rw [(Invocation.session_eq hd hl).1, hi, World.execute, World.delete]
  cases w.reported failures with
  | error e => rfl
  | ok items =>
    change (checkFailures items (stored.force || i.force)).outcome.map _ = _
    rw [Outcome.ok_bind]
    cases (checkFailures items (stored.force || i.force)).outcome <;> rfl

theorem Invocation.delete_eq_ok (hi : i.request = .deleteTape id failures)
    (hs : i.stored w = .ok stored) {r : Report} :
    (i.session w).outcome = .ok r ↔ w.MayDelete (stored.force || i.force) failures ∧
      r = .status ("Success: Deleted tape " ++ String.ofList id.text) := by
  rw [Invocation.delete_outcome hi hs, World.mayDelete_iff, Outcome.bind_eq_ok]
  constructor
  · rintro ⟨items, hitems, hrest⟩
    obtain ⟨⟨⟩, hcheck, hr⟩ := Outcome.bind_eq_ok.1 hrest
    exact ⟨⟨items, hitems, checkFailures_eq_ok.1 hcheck⟩, (Except.ok.inj hr).symm⟩
  · rintro ⟨⟨items, hitems, hpass⟩, rfl⟩
    exact ⟨items, hitems, Outcome.bind_eq_ok.2 ⟨(), checkFailures_eq_ok.2 hpass, rfl⟩⟩

theorem Invocation.delete_refuses {path : String} {items : List TapeFailure}
    (hi : i.request = .deleteTape id (some path)) (hs : i.stored w = .ok stored)
    (hl : w.Lists path items) (hne : items ≠ []) (hf : (stored.force || i.force) = false) :
    (i.session w).outcome = .error (.tapeFailures ⟨items, hne⟩) := by
  rw [Invocation.delete_outcome hi hs, World.reported_eq_ok.2 hl, Outcome.ok_bind, hf,
    checkFailures_refuses hne]
  rfl

theorem Invocation.delete_unread {path : String} {e : Error}
    (hi : i.request = .deleteTape id (some path)) (hs : i.stored w = .ok stored)
    (he : w.reported (some path) = .error e) : (i.session w).outcome = .error e := by
  rw [Invocation.delete_outcome hi hs, he]
  rfl

theorem World.reported_unread {path : String} {e : Error} (h : w.read path = .error e) :
    w.reported (some path) = .error e := by
  rw [World.reported, h]
  rfl

theorem World.reported_error {path text : String} (h : w.read path = .ok text)
    (hl : ∀ items, ¬ w.Lists path items) :
    (∃ c, Value.parse text = .error c ∧
      w.reported (some path) = .error (.invalidInput c.message)) ∨
    ∃ v, Value.parse text = .ok v ∧
      ((∃ status message, v.IsFault status message ∧
          w.reported (some path) = .error (.failedRequest status message)) ∨
        (∀ status message, ¬ v.IsFault status message) ∧
          ∃ cause, w.reported (some path) = .error (.invalidInput cause)) := by
  have hreported :
      w.reported (some path) = (Shape.list TapeFailure.shape).ofResponse text := by
    rw [World.reported, h]
    rfl
  cases hp : Value.parse text with
  | error c =>
    refine .inl ⟨c, rfl, ?_⟩
    rw [hreported, Shape.ofResponse, hp]
  | ok v =>
    refine .inr ⟨v, rfl, ?_⟩
    rw [hreported, Shape.ofResponse_parsed _ hp]
    rcases (Shape.list TapeFailure.shape).classify_cases (Value.parse_distinct hp) with
      ⟨status, message, hfault, hs⟩ | ⟨hfault, hs⟩
    · exact .inl ⟨status, message, hfault, hs⟩
    · refine .inr ⟨hfault, ?_⟩
      cases hv : (Shape.list TapeFailure.shape).ofValue v with
      | error cause => exact ⟨cause.message, by rw [hs, hv]; rfl⟩
      | ok items =>
        rw [hv] at hs
        have hread := (Shape.ofResponse_parsed (.list TapeFailure.shape) hp).trans hs
        exact absurd (World.reported_eq_ok.1 (hreported.trans hread)) (hl items)

theorem Invocation.delete_status (hi : i.request = .deleteTape id failures)
    (hs : i.stored w = .ok stored) :
    (told (i.session w).outcome).status = .ok ↔
      w.MayDelete (stored.force || i.force) failures := by
  rw [told_status]
  constructor
  · intro h
    cases hr : (i.session w).outcome with
    | error e =>
      rw [hr] at h
      cases h
    | ok r => exact ((Invocation.delete_eq_ok hi hs).1 hr).1
  · intro h
    rw [(Invocation.delete_eq_ok hi hs).2 ⟨h, rfl⟩]
    rfl

/-- A deletion is told as done exactly if nothing has been reported, or no failure, or the switch or
the stored settings say that failures are to be ignored. All else is an error: failures that are not
ignored with all of their items, and whatever is no report of failures even where these are ignored.
The check gives the same to every log, and lines only to a verbose one. -/
theorem deletion_guarded (hi : i.request = .deleteTape id failures)
    (hs : i.stored w = .ok stored) :
    (∃ name, id.SpelledBy name ∧ ∀ r, (i.session w).outcome = .ok r ↔
      w.MayDelete (stored.force || i.force) failures ∧
        r = .status ("Success: Deleted tape " ++ name)) ∧
    ((told (i.session w).outcome).status = .ok ↔
      w.MayDelete (stored.force || i.force) failures) ∧
    (w.full = false → (i.run w).exit = (told (i.session w).outcome).status.exitCode ∧
      (i.run w).stdout = (told (i.session w).outcome).text ++ "\n") ∧
    (∀ path, failures = some path →
      (∀ (items : List TapeFailure) (hne : items ≠ []), w.Lists path items →
        (stored.force || i.force) = false →
        (i.session w).outcome = .error (.tapeFailures ⟨items, hne⟩)) ∧
      (∀ e, w.read path = .error e → (i.session w).outcome = .error e) ∧
      ∀ text, w.read path = .ok text → (∀ items, ¬ w.Lists path items) →
        (∃ c, Value.parse text = .error c ∧
          (i.session w).outcome = .error (.invalidInput c.message)) ∨
        ∃ v, Value.parse text = .ok v ∧
          ((∃ status message, v.IsFault status message ∧
              (i.session w).outcome = .error (.failedRequest status message)) ∨
            (∀ status message, ¬ v.IsFault status message) ∧
              ∃ cause, (i.session w).outcome = .error (.invalidInput cause))) ∧
    ∀ (items : List TapeFailure) (force : Bool) (log : Log),
      ((checkFailures items force).outcome = .ok () ↔ items = [] ∨ force = true) ∧
      (∀ hne : items ≠ [], force = false →
        (checkFailures items force).outcome = .error (.tapeFailures ⟨items, hne⟩)) ∧
      (log.noteAll (checkFailures items force).notes).lines = log.lines ++
        if items ≠ [] ∧ force = true ∧ log.verbose = true then
          ["Ignoring " ++ toString items.length ++ " tape failure(s) because --force was given",
            TapeFailures.header ++ String.join (items.map TapeFailures.line) ++
              TapeFailures.footer]
        else [] := by
  refine ⟨⟨_, id.spelledBy_text, fun r => Invocation.delete_eq_ok hi hs⟩,
    Invocation.delete_status hi hs, ?_, ?_, ?_⟩
  · intro hfull
    obtain ⟨hexit, hstdout⟩ := finish_eq (i.session w) w
    rw [Invocation.run, hexit, hstdout, hfull]
    exact ⟨rfl, rfl⟩
  · rintro path rfl
    refine ⟨?_, ?_, ?_⟩
    · intro items hne hl hf
      exact Invocation.delete_refuses hi hs hl hne hf
    · intro e he
      exact Invocation.delete_unread hi hs (World.reported_unread he)
    · intro text htext hl
      rcases World.reported_error htext hl with ⟨c, hc, he⟩ |
        ⟨v, hv, ⟨status, message, hfault, he⟩ | ⟨hfault, cause, he⟩⟩
      · exact .inl ⟨c, hc, Invocation.delete_unread hi hs he⟩
      · exact .inr ⟨v, hv, .inl ⟨status, message, hfault, Invocation.delete_unread hi hs he⟩⟩
      · exact .inr ⟨v, hv, .inr ⟨hfault, cause, Invocation.delete_unread hi hs he⟩⟩
  · intro items force log
    refine ⟨checkFailures_eq_ok, ?_, ?_⟩
    · rintro hne rfl
      exact checkFailures_refuses hne
    · rw [log.noteAll_lines, checkFailures_notes]
      cases log.verbose <;> simp

end

def ignoredReport : String :=
  "[[\"T1\",\"Write error\"],\x7b\"errorMessage\":\"\",\"x\":1,\"tapeId\":\"T2\"\x7d]"

def ignoredItems : List Value :=
  [.arr [.str "T1", .str "Write error"],
    .obj [("errorMessage", .str ""), ("x", .ofInt 1), ("tapeId", .str "T2")]]

def ignoringFiles : FileTree :=
  (FileTree.empty.set ["home"] .directory).set ["home", "config.json"]
    (.file "\x7b\"force\":true\x7d".toUTF8)

def ignoringWorld : World :=
  ⟨ignoringFiles, .sound, ignoredReport.toUTF8, ⟨some "home", none, none⟩, false, false⟩

def ignoringRun : Invocation := ⟨.deleteTape Uuid.nil (some "-"), false, false, none⟩

theorem deletion_guarded_ignored :
    ignoringRun.stored ignoringWorld = .ok ⟨false, true⟩ ∧
    ignoringWorld.Lists "-" [⟨"T1", "Write error"⟩, ⟨"T2", ""⟩] ∧
    (ignoringRun.run ignoringWorld).exit = 0 := by
  have hs : ignoringRun.stored ignoringWorld = .ok ⟨false, true⟩ :=
    Outcome.toOption_eq_some.1 (by decide +kernel)
  have hl : ignoringWorld.Lists "-" [⟨"T1", "Write error"⟩, ⟨"T2", ""⟩] := by
    have hp : Value.parse ignoredReport = .ok (.arr ignoredItems) :=
      Value.parse_eq_ok.2 ⟨.arr ignoredItems, by cbv, by decide, rfl⟩
    exact ⟨ignoredReport, ignoredItems, rfl, hp, .cons rfl (.cons ⟨rfl, rfl⟩ .nil)⟩
  obtain ⟨-, hstatus, hrun, -⟩ := deletion_guarded (i := ignoringRun) rfl hs
  refine ⟨hs, hl, ?_⟩
  rw [(hrun rfl).1, hstatus.2 ⟨_, hl, .inr rfl⟩]
  rfl

end PearlReport
