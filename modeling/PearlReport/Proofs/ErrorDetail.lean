import PearlReport.Proofs.OneEnvelope
import PearlReport.Proofs.Payloads

/-! What an error tells in its envelope, and that all of it is read back. -/

namespace PearlReport

open Json

def Error.detail : Error → Option Value
  | .tapeFailures fs =>
    some (.arr (fs.items.map fun f =>
      .obj [("tapeId", .str f.tapeId), ("errorMessage", .str f.errorMessage)]))
  | .failedRequest status response =>
    some (.obj [("ApiErrorMessage", .str response), ("StatusCode", .str (toString status.toNat))])
  | _ => none

theorem Error.envelope_eq (e : Error) : e.envelope = ⟨.error, some e.message, e.detail⟩ := by
  cases e with
  | tapeFailures fs => rfl
  | failedRequest status response => rfl
  | serialization | emptyFailureSet | invalidInput | config | io => rfl

theorem Error.detail_notNull (e : Error) : ∀ d, e.detail = some d → d.notNull = true := by
  intro d hd
  cases e with
  | tapeFailures fs =>
    cases hd
    rfl
  | failedRequest status response =>
    cases hd
    rfl
  | serialization | emptyFailureSet | invalidInput | config | io => cases hd

theorem View.data_reads {v : View} (hv : v.Fits) {p : Payload} (hp : v.data = some p)
    (hl : p.shape.Lossless) (hn : p.shape.nullable = false) (ht : p.shape.instants p.value = [])
    (status : Status) :
    (Envelope.shape p.shape).parse (v.envelope status).text =
      .ok ⟨status, v.message, some p.value⟩ := by
  have hsame : p.shape.truncated p.value = p.value := by
    apply Shape.truncated_whole
    rw [ht]
    exact List.forall_mem_nil _
  have hread : p.shape.ofValue (p.shape.write p.value) = .ok p.value := by
    rw [p.shape.ofValue_write hl, hsame]
    rw [ht]
    exact List.forall_mem_nil _
  have hd : (v.envelope status).data = some (p.shape.write p.value) := by
    rw [View.envelope, hp]
    rfl
  have hplain := Envelope.members_plain (View.envelope_plain hv status)
  rw [← Outcome.toOption_eq_some, Envelope.text, Shape.canonical, Envelope.write_eq,
    (hplain.canonical (by decide)).2, Envelope.ofValue_data hn hd hread]
  rfl

theorem TapeFailure.instants_nil (fs : List TapeFailure) :
    (Shape.list TapeFailure.shape).instants fs = [] := by
  rw [Shape.instants, List.flatMap_eq_nil_iff]
  intro f _
  rfl

/-- Rendering an error does not fail, and its text holds everything the error tells: the message as it
is, and as data the failures in the order of the report, or the answer of the appliance under its two
keys, or nothing. -/
theorem Error.told_whole (e : Error) :
    ∃ text, e.serialize = .ok text ∧
      Value.parse text = .ok (.obj
        (("status", .str "ERROR") :: ("message", .str e.message) ::
          e.detail.toList.map (("data", ·)))) ∧
      (Envelope.shape .any).parse text = .ok ⟨.error, some e.message, e.detail⟩ ∧
      match e with
      | .tapeFailures fs =>
        (Envelope.shape (.list TapeFailure.shape)).parse text =
          .ok ⟨.error, some fs.message, some fs.items⟩
      | .failedRequest status response =>
        (Envelope.shape (.dict .text)).parse text =
          .ok ⟨.error, some e.message,
            some (.ofList [("ApiErrorMessage", response), ("StatusCode", toString status.toNat)])⟩
      | _ => e.detail = none := by
  obtain ⟨-, hparse, hread⟩ :=
    Envelope.text_reads (View.envelope_plain e.view_fits .error)
  change Value.parse e.text = .ok (.obj e.envelope.members) at hparse
  change (Envelope.shape .any).parse e.text = .ok e.envelope.settled at hread
  rw [e.envelope_eq] at hparse hread
  rw [Envelope.settled_eq e.detail_notNull] at hread
  refine ⟨e.text, e.serialize_eq, hparse, hread, ?_⟩
  cases e with
  | tapeFailures fs =>
    exact View.data_reads (p := ⟨.list TapeFailure.shape, fs.items⟩)
      (Error.view_fits (.tapeFailures fs)) rfl TapeFailure.lossless rfl
      (TapeFailure.instants_nil fs.items) .error
  | failedRequest status response =>
    exact View.data_reads (p := ⟨.dict .text, _⟩) (Error.view_fits (.failedRequest status response))
      rfl trivial rfl rfl .error
  | serialization | emptyFailureSet | invalidInput | config | io => rfl

end PearlReport
