import PearlReport.Proofs.Agreement
import PearlReport.Proofs.Response
import PearlReport.Proofs.Session

/-! Payloads read straight from a text and payloads read from the document in it. Where no object
repeats a key there is one answer, and a command prints what reading straight would have it print. -/

namespace PearlReport

open Json

/-- The text holds a document, and no object in it repeats a key. -/
def Json.Unrepeated (text : String) : Prop := ∃ w, content? text.toList = some w ∧ w.Distinct

theorem Json.Unrepeated.content {text : String} {v : Value} (hk : Unrepeated text)
    (hv : Value.parse text = .ok v) :
    content? text.toList = some v ∧ v.Distinct ∧ v.depth ≤ maxLevels := by
  obtain ⟨w, hw, hd⟩ := hk
  obtain ⟨w', hw', hn, hg⟩ := Value.parse_eq_ok.1 hv
  cases hw.symm.trans hw'
  rw [Value.gathered_of_distinct hd] at hg
  exact hg ▸ ⟨hw, hd, hn⟩

theorem Invocation.run_report {i : Invocation} {w : World} {q : Query} {input text : String}
    {s : Settings} {r : Report} (hi : i.request = .query q input) (hs : i.stored w = .ok s)
    (ht : w.read input = .ok text) (hr : q.report text = .ok r) (hfull : w.full = false) :
    ∃ out, r.serialize.outcome = .ok out ∧ (i.run w).stdout = out ++ "\n" ∧ (i.run w).exit = 0 := by
  have hout : (i.session w).outcome = .ok r := by
    rw [Invocation.query_outcome hi, hs, Outcome.ok_bind, ht, Outcome.ok_bind, hr]
  have hexit := i.run_exit w
  have hstdout := (finish_eq (i.session w) w).2
  rw [hout, hfull] at hexit
  rw [hout, hfull, ← Invocation.run] at hstdout
  have htext : r.serialize.outcome = .ok r.text := by rw [r.serialize_eq, Report.render]
  exact ⟨r.text, htext, hstdout, hexit⟩

/-- A text that is a document, none of whose objects repeats a key, is read straight as any payload
exactly if its document is, and as the same value. Unless the document is an object with the key of
an error status, a reading command then prints the text of the payload that was read straight, and a
line feed. -/
theorem payload_read_straight {text : String} {v : Value} (hv : Value.parse text = .ok v)
    (hk : Unrepeated text) :
    (∀ {α : Type} (s : Shape α),
      (∃ a, s.parse text = .ok a ∧ s.ofValue v = .ok a) ∨
      (∃ complaint cause, s.parse text = .error complaint ∧ s.ofValue v = .error cause)) ∧
    ∀ (q : Query) (a : q.reader.α), q.reader.shape.parse text = .ok a →
      v.get? "HttpErrorCode" = none →
      ∀ (i : Invocation) (w : World) (input : String), i.request = .query q input →
        (∃ s, i.stored w = .ok s) → w.read input = .ok text → w.full = false →
        ∃ out, (q.reader.report a).serialize.outcome = .ok out ∧
          (i.run w).stdout = out ++ "\n" ∧ (i.run w).exit = 0 := by
  obtain ⟨hc, hd, hn⟩ := hk.content hv
  have hsame {α : Type} (s : Shape α) : (s.parse text).toOption = (s.ofValue v).toOption :=
    s.parse_agrees hc hd hn
  constructor
  · intro α s
    have h := hsame s
    cases hp : s.parse text with
    | ok a =>
      rw [hp] at h
      exact .inl ⟨a, rfl, Outcome.toOption_eq_some.1 h.symm⟩
    | error complaint =>
      rw [hp] at h
      cases ho : s.ofValue v with
      | ok a =>
        rw [ho] at h
        cases h
      | error cause => exact .inr ⟨complaint, cause, rfl, rfl⟩
  · rintro q a ha hcode i w input hi ⟨s, hs⟩ ht hfull
    have hread : q.reader.shape.ofValue v = .ok a := by
      rw [← Outcome.toOption_eq_some, ← hsame, ha, Outcome.toOption_ok]
    have hr : q.report text = .ok (q.reader.report a) := by
      rw [Query.report, Shape.ofResponse_parsed _ hv, Shape.classify_uncoded _ hcode, hread]
      rfl
    exact Invocation.run_report hi hs ht hr hfull

def positionalText : String :=
  "[[[\"urn:uuid:ffffffff-ffff-ffff-FFFF-FFFFFFFFFFFF\",null,\x7b\"EJECTED\":null\x7d,\"LTO6\"," ++
  "null,null,18446744073709551615]]]"

def positionalDoc : Value :=
  .arr [.arr [.arr [.str "urn:uuid:ffffffff-ffff-ffff-FFFF-FFFFFFFFFFFF", .null,
    .obj [("EJECTED", .null)], .str "LTO6", .null, .null, .ofInt 18446744073709551615]]]

def positionalTape : Tape where
  id := ⟨List.replicate 32 (Fin.last 15), rfl⟩
  barCode := none
  state := .ejected
  type := "LTO6"
  partitionId := none
  storageDomainId := none
  availableRawCapacity := some 18446744073709551615
  totalRawCapacity := none
  assignedToStorageDomain := false
  writeProtected := false
  fullOfData := false
  lastAccessed := none
  lastModified := none
  lastVerified := none

def positionalWorld : World :=
  ⟨FileTree.empty, .sound, positionalText.toUTF8, ⟨some "home", none, none⟩, false, false⟩

def positionalRun : Invocation := ⟨.query .tapes "-", false, false, none⟩

theorem payload_read_straight_positional :
    Value.parse positionalText = .ok positionalDoc ∧
    (Shape.option TapeListing.shape).parse positionalText = .ok (some ⟨[positionalTape]⟩) ∧
    ∃ out, (Report.tapes (some ⟨[positionalTape]⟩)).serialize.outcome = .ok out ∧
      (positionalRun.run positionalWorld).stdout = out ++ "\n" ∧
      (positionalRun.run positionalWorld).exit = 0 := by
  have hc : content? positionalText.toList = some positionalDoc := by cbv
  have hd : positionalDoc.Distinct := by
    simp [positionalDoc, Value.Distinct, Value.DistinctItems, Value.DistinctMembers, Value.ofInt]
  have hv : Value.parse positionalText = .ok positionalDoc :=
    Value.parse_eq_ok.2 ⟨_, hc, by decide, Value.gathered_of_distinct hd⟩
  have hvalue : (Shape.option TapeListing.shape).ofValue positionalDoc =
      .ok (some ⟨[positionalTape]⟩) := Outcome.toOption_eq_some.1 (by decide +kernel)
  have hinput : positionalWorld.read "-" = .ok positionalText := by
    rw [World.read_stdin, positionalWorld, FileTree.decode_toUTF8]
    rfl
  obtain ⟨hread, hrun⟩ := payload_read_straight hv ⟨_, hc, hd⟩
  rcases hread (.option TapeListing.shape) with ⟨a, hp, ha⟩ | ⟨_, _, -, he⟩
  · cases hvalue.symm.trans ha
    exact ⟨hv, hp, hrun .tapes _ hp rfl positionalRun positionalWorld "-" rfl ⟨_, rfl⟩ hinput rfl⟩
  · rw [hvalue] at he
    cases he

end PearlReport
