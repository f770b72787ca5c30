import PearlReport.Proofs.Envelope
import PearlReport.Run

/-! One run, one envelope. Every outcome is told as one object that is read back as an envelope with
the status that the exit code has. -/

namespace PearlReport

open Json

@[simp] theorem View.serialize_eq (v : View) (status : Status) :
    v.serialize status = .ok (v.envelope status).text := by
  obtain ⟨message, data⟩ := v
  cases data with
  | none => exact Shape.serializeText_eq _ _
  | some p =>
    rw [View.serialize]
    simp only [Shape.serialize_eq, Outcome.map_ok, Outcome.ok_bind]
    exact Shape.serializeText_eq _ _

@[simp] theorem Report.serialize_eq (r : Report) :
    r.serialize = ⟨.ok r.render.outcome, r.render.notes⟩ := by
  rw [Report.serialize, View.serialize_eq]
  rfl

@[simp] theorem Error.serialize_eq (e : Error) : e.serialize = .ok e.text :=
  View.serialize_eq e.view .error

def View.Fits (v : View) : Prop := ∀ p ∈ v.data, p.shape.fits 126 = true

theorem View.told_fits (message : String) : (View.told message).Fits :=
  fun _ h => nomatch h

theorem View.whole_fits {α : Type} {s : Shape α} (h : s.fits 126 = true) (a : α) :
    (View.whole s a).Fits := by
  intro p hp
  cases hp
  exact h

theorem View.listing_fits {α : Type} {c : Prop} [Decidable c] {message : String} {s : Shape α}
    (h : s.fits 126 = true) (a : α) :
    (if c then View.told message else View.whole s a).Fits := by
  split
  · exact View.told_fits message
  · exact View.whole_fits h a

theorem View.envelope_plain {v : View} (h : v.Fits) (status : Status) :
    ∀ d ∈ (v.envelope status).data, d.Plain 126 := by
  intro d hd
  obtain ⟨p, hp, rfl⟩ := Option.map_eq_some_iff.1 hd
  exact p.shape.write_plain (h p hp) p.value

theorem Report.view_fits (r : Report) : r.view.Fits := by
  cases r with
  | tapes l =>
    cases l with
    | none => exact View.told_fits _
    | some l => exact View.listing_fits (by decide) l
  | bucket l => exact View.listing_fits (by decide) l
  | service l =>
    cases l with
    | none => exact View.told_fits _
    | some l => exact View.listing_fits (by decide) l
  | objectHead h => exact View.whole_fits (by decide) h
  | system i => exact View.whole_fits (by decide) i
  | storageDomains l => exact View.listing_fits (by decide) l
  | jobs l => exact View.whole_fits (by decide) l
  | bulkPut r => exact View.listing_fits (by decide) r
  | settings s change => exact View.whole_fits (by decide) s
  | status message => exact View.told_fits _

theorem Report.parse_text (r : Report) : Value.parse r.text = .ok (.obj r.envelope.members) :=
  (Envelope.text_reads (View.envelope_plain r.view_fits .ok)).2.1

theorem Error.view_fits (e : Error) : e.view.Fits := by
  cases e with
  | tapeFailures fs => exact View.whole_fits (by decide) fs.items
  | failedRequest status response => exact View.whole_fits (s := .dict .text) (by decide) _
  | serialization c => exact View.told_fits _
  | emptyFailureSet => exact View.told_fits _
  | invalidInput text => exact View.told_fits _
  | config text => exact View.told_fits _
  | io e => exact View.told_fits _

def told (outcome : Except Error Report) : Envelope Value :=
  match outcome with
  | .ok r => r.envelope
  | .error e => e.envelope

@[simp] theorem tell_outcome (outcome : Except Error Report) :
    (tell outcome).outcome = .ok ((told outcome).status, (told outcome).text) := by
  cases outcome with
  | ok r =>
    rw [tell]
    simp only [Report.serialize_eq]
    rfl
  | error e =>
    rw [tell]
    simp only [Error.serialize_eq]
    rfl

theorem told_status (outcome : Except Error Report) :
    (told outcome).status = if outcome.isOk then .ok else .error := by
  cases outcome <;> rfl

theorem told_plain (outcome : Except Error Report) :
    ∀ d ∈ (told outcome).data, d.Plain 126 := by
  cases outcome with
  | ok r => exact View.envelope_plain r.view_fits .ok
  | error e => exact View.envelope_plain e.view_fits .error

theorem finish_eq (s : Session) (w : World) :
    (s.finish w).exit = (if w.full then 2 else (told s.outcome).status.exitCode) ∧
    (s.finish w).stdout = (if w.full then "" else (told s.outcome).text ++ "\n") := by
  rw [Session.finish]
  simp only [tell_outcome]
  cases w.full with
  | true => exact ⟨rfl, rfl⟩
  | false => exact ⟨rfl, rfl⟩

theorem Invocation.run_exit (i : Invocation) (w : World) :
    (i.run w).exit = if w.full then 2 else if (i.session w).outcome.isOk then 0 else 1 := by
  rw [Invocation.run, (finish_eq _ w).1, told_status]
  cases (i.session w).outcome <;> rfl

theorem exitCode_cases (s : Status) : s = .ok ∧ s.exitCode = 0 ∨ s = .error ∧ s.exitCode = 1 := by
  cases s with
  | ok => exact .inl ⟨rfl, rfl⟩
  | error => exact .inr ⟨rfl, rfl⟩

/-- Every run prints one object and a line feed unless standard output takes nothing more; the
object is read back as an envelope, and its status is the exit code. Telling the outcome does not
fail, so a run ends with 2 exactly if it could not be printed. -/
theorem run_prints_envelope (i : Invocation) (w : World) :
    ((i.run w).exit = 2 ↔ w.full = true) ∧
    ∃ (ms : List (String × Value)) (e : Envelope Value),
      (tell (i.session w).outcome).outcome = .ok (e.status, (Value.obj ms).canonical) ∧
      Value.parse (Value.obj ms).canonical = .ok (.obj ms) ∧
      (Envelope.shape .any).parse (Value.obj ms).canonical = .ok e ∧
      (e.status = .ok ↔ ∃ r, (i.session w).outcome = .ok r) ∧
      (w.full = true ∧ (i.run w).stdout = "" ∨
        w.full = false ∧ (i.run w).stdout = (Value.obj ms).canonical ++ "\n" ∧
        (e.status = .ok ∧ (i.run w).exit = 0 ∨ e.status = .error ∧ (i.run w).exit = 1)) := by
  obtain ⟨hexit, hstdout⟩ := finish_eq (i.session w) w
  have htell := tell_outcome (i.session w).outcome
  have hstatus := told_status (i.session w).outcome
  obtain ⟨htext, hparse, hread⟩ := Envelope.text_reads (told_plain (i.session w).outcome)
  have hcode := exitCode_cases (told (i.session w).outcome).status
  rw [← Invocation.run] at hexit hstdout
  rw [htext] at hstdout htell hparse hread
  refine ⟨?_, _, (told (i.session w).outcome).settled, htell, hparse, hread, ?_, ?_⟩
  · rw [hexit]
    cases w.full with
    | true => simp
    | false => rcases hcode with ⟨-, h⟩ | ⟨-, h⟩ <;> simp [h]
  · rw [Envelope.settled, hstatus]
    cases (i.session w).outcome with
    | ok r => exact ⟨fun _ => ⟨r, rfl⟩, fun _ => rfl⟩
    | error e =>
      constructor
      · intro h
        cases h
      · rintro ⟨r, h⟩
        cases h
  · rw [hexit, hstdout]
    cases w.full with
    | true => exact .inl ⟨rfl, rfl⟩
    | false => exact .inr ⟨rfl, rfl, hcode⟩

end PearlReport
