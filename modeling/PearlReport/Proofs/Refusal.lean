import PearlReport.Proofs.OneEnvelope
import PearlReport.Proofs.Response

/-! Refused requests. An error document is told as a failure whatever was asked for; a member of an
error document that is not complete is a member that nobody reads. -/

namespace PearlReport

open Json

def Shape.ignores {α : Type} (key : String) : Shape α → Bool
  | .record _ fields _ => decide (key ∉ fields.keys)
  | .option s => s.ignores key
  | _ => false

theorem Fields.fillValue_other {β σ : Type} : (fields : Fields β σ) → {key : String} →
    key ∉ fields.keys → (v : Value) → (slots : σ) → fields.fillValue key v slots = .ok slots
  | .nil, _, _, _, _ => rfl
  | .cons f s more, key, h, v, (slot, slots) => by
    rw [Fields.keys, List.mem_cons, not_or] at h
    simp only [Fields.fillValue, if_neg h.1, more.fillValue_other h.2, Outcome.map_ok]

theorem Fields.foldlM_filter {β σ : Type} (fields : Fields β σ) (keep : String → Bool)
    (ms : List (String × Value)) (h : ∀ m ∈ ms, keep m.1 = false → m.1 ∉ fields.keys) (slots : σ) :
    (ms.filter fun m => keep m.1).foldlM
        (fun slots m => fields.fillValue m.1 m.2 slots) slots =
      ms.foldlM (fun slots m => fields.fillValue m.1 m.2 slots) slots := by
  induction ms generalizing slots with
  | nil => rfl
  | cons m ms ih =>
    have hs := ih fun m hm => h m (List.mem_cons_of_mem _ hm)
    rw [List.filter_cons, List.foldlM_cons]
    cases hk : keep m.1 with
    | true =>
      rw [if_pos rfl, List.foldlM_cons]
      cases fields.fillValue m.1 m.2 slots with
      | error e => rfl
      | ok slots => exact hs slots
    | false =>
      rw [if_neg Bool.false_ne_true, fields.fillValue_other (h m List.mem_cons_self hk)]
      exact hs slots

theorem filter_kept {α : Type} {keep : String → Bool} {ms : List (String × α)}
    (h : ∀ m ∈ ms, keep m.1 = false → false = true) : (ms.filter fun m => keep m.1) = ms := by
  rw [List.filter_eq_self]
  intro m hm
  cases hk : keep m.1 with
  | true => rfl
  | false => exact h m hm hk

theorem Shape.ofValue_filter {α : Type} (keep : String → Bool) (ms : List (String × Value)) :
    (s : Shape α) → (∀ m ∈ ms, keep m.1 = false → s.ignores m.1 = true) →
      s.ofValue (.obj (ms.filter fun m => keep m.1)) = s.ofValue (.obj ms)
  | .record name fields p, h => by
    have hkeys := fields.foldlM_filter keep ms fun m hm hk => of_decide_eq_true (h m hm hk)
    simp only [Shape.ofValue, hkeys]
  | .option s, h => by
    have hs := s.ofValue_filter keep ms h
    rw [Shape.ofValue, Shape.ofValue, hs]
    · exact nofun
    · exact nofun
  -- the other shapes ignore nothing, so nothing has been left out
  | .leaf _, h => by rw [filter_kept h]
  | .word _, h => by rw [filter_kept h]
  | .any, h => by rw [filter_kept h]
  | .list _, h => by rw [filter_kept h]
  | .dict _, h => by rw [filter_kept h]

def faultKeys : List String := ["Code", "HttpErrorCode", "Message"]

theorem Query.reader_ignores (q : Query) :
    ∀ key ∈ faultKeys, q.reader.shape.ignores key = true := by
  cases q <;> decide

/-- Payloads whose members all have a value of their own where they are missing. -/
def Query.isListing : Query → Bool
  | .tapes | .service | .storageDomains | .jobs => true
  | .bucket | .objectHead | .system | .bulkPut => false

theorem Query.ofValue_uncoded (q : Query) (ms : List (String × Value)) :
    q.reader.shape.ofValue (.obj (ms.filter fun m => m.1 != "HttpErrorCode")) =
      q.reader.shape.ofValue (.obj ms) := by
  apply Shape.ofValue_filter (· != "HttpErrorCode")
  intro m _ hk
  have hkey : m.1 = "HttpErrorCode" := by simpa using hk
  rw [hkey]
  exact q.reader_ignores _ (by decide)

theorem Query.ofValue_faultKeys (q : Query) {ms : List (String × Value)}
    (h : ∀ m ∈ ms, m.1 ∈ faultKeys) :
    (q.reader.shape.ofValue (.obj ms)).isOk = q.isListing := by
  have hnone := Shape.ofValue_filter (fun _ => false) ms q.reader.shape
    fun m hm _ => q.reader_ignores m.1 (h m hm)
  have hempty : (ms.filter fun _ => false) = [] := by simp
  rw [← hnone, hempty]
  cases q <;> rfl

theorem World.execute_query (w : World) (directory : String) (settings : Settings) (q : Query)
    {input text : String} (h : w.read input = .ok text) :
    (w.execute directory settings (.query q input)).outcome = q.report text := by
  rw [World.execute, World.answer, h]

theorem Invocation.session_outcome (i : Invocation) (w : World) :
    (∃ e, (i.session w).outcome = .error e) ∨
    ∃ directory settings,
      (i.session w).outcome = (w.execute directory settings i.request).outcome := by
  rw [Invocation.session]
  split
  · exact .inl ⟨_, rfl⟩
  · rename_i directory _
    rw [Invocation.sessionIn]
    split
    · exact .inl ⟨_, rfl⟩
    · exact .inr ⟨directory, _, rfl⟩

theorem Invocation.run_fails {i : Invocation} {w : World} {e : Error}
    (h : ∀ directory settings, (w.execute directory settings i.request).outcome = .error e) :
    (told (i.session w).outcome).status = .error ∧
    (i.run w).exit = if w.full then 2 else 1 := by
  have hfails : ∃ e, (i.session w).outcome = .error e := by
    rcases i.session_outcome w with ⟨e, he⟩ | ⟨directory, settings, he⟩
    · exact ⟨e, he⟩
    · exact ⟨_, he.trans (h directory settings)⟩
  obtain ⟨e', he⟩ := hfails
  rw [told_status, i.run_exit, he]
  exact ⟨rfl, rfl⟩

/-- An error document fails every reading command. Any other object is told as if it had no error
code: with no members but those of an error document, that is an empty listing where the payload is
one, and a failure where it needs a member. -/
theorem query_fault_told (w : World) (q : Query) {input text : String} {ms : List (String × Value)}
    (hr : w.read input = .ok text) (hp : Value.parse text = .ok (.obj ms)) :
    (∃ status message, (Value.obj ms).IsFault status message ∧
      (∀ directory settings, (w.execute directory settings (.query q input)).outcome =
        .error (.failedRequest status message)) ∧
      ∀ verbose force configDir, let i : Invocation := ⟨.query q input, verbose, force, configDir⟩
        (told (i.session w).outcome).status = .error ∧
        (i.run w).exit = if w.full then 2 else 1) ∨
    (∀ status message, ¬ (Value.obj ms).IsFault status message) ∧
      (∀ directory settings, (w.execute directory settings (.query q input)).outcome =
        q.reader.report <$> (q.reader.shape.ofValue
          (.obj (ms.filter fun m => m.1 != "HttpErrorCode"))).mapError
            fun cause => .invalidInput cause.message) ∧
      ((∀ m ∈ ms, m.1 ∈ faultKeys) → ∀ directory settings,
        (w.execute directory settings (.query q input)).outcome.isOk = q.isListing) := by
  have hparsed := q.reader.shape.ofResponse_parsed hp
  have hquery := fun directory settings => w.execute_query directory settings q hr
  rcases q.reader.shape.classify_cases (Value.parse_distinct hp) with
    ⟨status, message, hfault, hs⟩ | ⟨hfault, hs⟩
  · have hout (directory : String) (settings : Settings) :
        (w.execute directory settings (.query q input)).outcome =
          .error (.failedRequest status message) := by
      rw [hquery, Query.report, hparsed, hs]
      rfl
    exact .inl ⟨status, message, hfault, hout, fun _ _ _ => Invocation.run_fails hout⟩
  · refine .inr ⟨hfault, ?_, ?_⟩
    · intro directory settings
      rw [hquery, Query.report, hparsed, hs, q.ofValue_uncoded]
    · intro hkeys directory settings
      rw [hquery, Query.report, hparsed, hs, ← q.ofValue_faultKeys hkeys]
      cases q.reader.shape.ofValue (.obj ms) <;> rfl

def bareCode : String := "\x7b\"HttpErrorCode\":404\x7d"

def bareCodeWorld : World := ⟨FileTree.empty, .sound, bareCode.toUTF8, ⟨none, none, none⟩, false, false⟩

theorem bareCode_parse :
    Value.parse bareCode = .ok (.obj [("HttpErrorCode", .ofInt 404)]) :=
  Value.parse_eq_ok.2 ⟨.obj [("HttpErrorCode", .ofInt 404)], by cbv, by decide, rfl⟩

theorem bareCode_read : bareCodeWorld.read "-" = .ok bareCode := rfl

theorem query_fault_told_bareCode :
    bareCodeWorld.read "-" = .ok bareCode ∧
    Value.parse bareCode = .ok (.obj [("HttpErrorCode", .ofInt 404)]) ∧
    (bareCodeWorld.execute "home" .initial (.query .bucket "-")).outcome.isOk = false := by
  refine ⟨bareCode_read, bareCode_parse, ?_⟩
  rcases query_fault_told bareCodeWorld .bucket bareCode_read bareCode_parse with
    ⟨_, _, ⟨ms, code, hv, -, hc, -⟩, -⟩ | ⟨-, -, h⟩
  · cases hv
    cases hc
  · exact h (by decide) "home" .initial

/-- An error code alone does not fail every command: with `get-tapes` the run ends with 0. -/
theorem query_errorCode_succeeds :
    ¬ ∀ (q : Query) (input text : String) (ms : List (String × Value)) (w : World)
      (verbose force : Bool) (configDir : Option String),
      w.read input = .ok text → Value.parse text = .ok (.obj ms) →
      "HttpErrorCode" ∈ ms.map Prod.fst → w.full = false →
      (Invocation.run ⟨.query q input, verbose, force, configDir⟩ w).exit = 1 := by
  intro h
  have hone := h .tapes "-" bareCode _ bareCodeWorld false false (some "home") bareCode_read
    bareCode_parse (by decide) rfl
  have hzero : (Invocation.run ⟨.query .tapes "-", false, false, some "home"⟩
      bareCodeWorld).exit = 0 := by decide +kernel
  rw [hzero] at hone
  cases hone

end PearlReport
