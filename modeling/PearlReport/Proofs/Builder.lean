import Mathlib.Data.List.Induction
import PearlReport.Proofs.Envelope
import PearlReport.Report

/-! Envelopes built step by step. Setting data gives the envelope another type, so a chain of steps
goes through envelopes of many types; what is carried along is the status, the last message and the
last data. -/

namespace PearlReport

open Json

universe u

def Payload.document (p : Payload) : Value := p.shape.write p.value

namespace Envelope

inductive Step where
  | message (text : String)
  | data (payload : Payload)

def Step.message? : Step → Option String
  | .message text => some text
  | .data _ => none

def Step.data? : Step → Option Payload
  | .message _ => none
  | .data payload => some payload

/-- The last of what the steps set. -/
def Step.last {α : Type u} (set? : Step → Option α) (steps : List Step) : Option α :=
  (steps.filterMap set?).getLast?

theorem Step.last_concat {α : Type u} (set? : Step → Option α) (steps : List Step) (step : Step) :
    last set? (steps ++ [step]) = (set? step).or (last set? steps) := by
  rw [last, List.filterMap_append, List.getLast?_append, List.filterMap_cons]
  cases set? step <;> rfl

/-- An envelope with the shape of its data. -/
structure Built where
  {α : Type}
  shape : Shape α
  envelope : Envelope α

namespace Built

def start (s : Status) : Built := ⟨.leaf .nothing, .new s⟩

def apply (b : Built) : Step → Built
  | .message text => ⟨b.shape, b.envelope.withMessage text⟩
  | .data payload => ⟨payload.shape, b.envelope.withData payload.value⟩

def run (s : Status) (steps : List Step) : Built := steps.foldl apply (start s)

def serializeText (b : Built) : Except Error String :=
  (Envelope.shape b.shape).serializeText b.envelope

def holding (s : Status) (message : Option String) : Option Payload → Built
  | none => ⟨.leaf .nothing, ⟨s, message, none⟩⟩
  | some p => ⟨p.shape, ⟨s, message, some p.value⟩⟩

theorem apply_holding (s : Status) (message : Option String) (data : Option Payload) (step : Step) :
    (holding s message data).apply step =
      holding s (step.message?.or message) (step.data?.or data) := by
  cases step with
  | message text => cases data <;> rfl
  | data payload => cases data <;> rfl

theorem run_eq (s : Status) (steps : List Step) :
    run s steps = holding s (Step.last Step.message? steps) (Step.last Step.data? steps) := by
  -- from the last step backwards, as the fold takes it
  induction steps using List.reverseRecOn with
  | nil => rfl
  | append_singleton steps step ih =>
    rw [run] at ih
    rw [run, List.foldl_append, ih, Step.last_concat, Step.last_concat]
    exact apply_holding s _ _ step

end Built

def generic {α : Type} (s : Shape α) (e : Envelope α) : Envelope Value :=
  ⟨e.status, e.message, e.data.map s.write⟩

theorem canonical_eq_text {α : Type} (s : Shape α) (e : Envelope α) :
    (shape s).canonical e = (generic s e).text := by
  have hwrite : (shape s).write e = (shape .any).write (generic s e) := by
    obtain ⟨status, message, data⟩ := e
    cases message with
    | none => cases data <;> rfl
    | some m => cases data <;> rfl
  rw [text, Shape.canonical, Shape.canonical, hwrite]

theorem Built.serializeText_holding (s : Status) (message : Option String)
    (data : Option Payload) :
    (holding s message data).serializeText =
      .ok (Envelope.mk s message (data.map Payload.document)).text := by
  rw [Built.serializeText, Shape.serializeText_eq, canonical_eq_text]
  cases data <;> rfl

/-- However messages and data are set, and of whatever types, the envelope is written with its status
and the last of each, in this order, and chains of steps that end in the same message and the same
data give the same text. Where the data come through a text at all, the envelope is read back as it
was built, but that data set to null are absent. -/
theorem built_told (s : Status) (steps : List Step) :
    let message := Step.last Step.message? steps
    let data := (Step.last Step.data? steps).map Payload.document
    let members : List (String × Value) := ("status", .str s.name) ::
      (message.toList.map (("message", .str ·)) ++ data.toList.map (("data", ·)))
    (Built.run s steps).serializeText = .ok (Value.obj members).canonical ∧
    (∀ steps' : List Step, Step.last Step.message? steps' = message →
      (Step.last Step.data? steps').map Payload.document = data →
      (Built.run s steps').serializeText = .ok (Value.obj members).canonical) ∧
    ((∀ d ∈ data, d.Plain 126) →
      Value.parse (Value.obj members).canonical = .ok (.obj members) ∧
      ∃ e : Envelope Value, (shape .any).parse (Value.obj members).canonical = .ok e ∧
        e.status = s ∧ e.message = message ∧
        (data = some .null → e.data = none) ∧ (data ≠ some .null → e.data = data)) := by
  intro message data members
  have htext : (Envelope.mk s message data).text = (Value.obj members).canonical := by
    rw [text, Shape.canonical, write_eq]
    rfl
  have hwritten (steps' : List Step) (hm : Step.last Step.message? steps' = message)
      (hd : (Step.last Step.data? steps').map Payload.document = data) :
      (Built.run s steps').serializeText = .ok (Value.obj members).canonical := by
    rw [Built.run_eq, Built.serializeText_holding, hm, hd, htext]
  refine ⟨hwritten steps rfl rfl, hwritten, ?_⟩
  intro hplain
  obtain ⟨-, hparse, hread⟩ := text_reads (e := ⟨s, message, data⟩) hplain
  rw [htext] at hparse hread
  exact ⟨hparse, _, hread, rfl, rfl, settled_data ⟨s, message, data⟩⟩

def retypingSteps : List Step :=
  [.data ⟨.list .size, [1, 2]⟩, .message "\r\n", .data ⟨.option .flag, none⟩, .message "boom"]

theorem built_told_null :
    (Built.run .error retypingSteps).serializeText = .ok (Value.obj
      [("status", .str "ERROR"), ("message", .str "boom"), ("data", .null)]).canonical ∧
    ∃ e : Envelope Value, (shape .any).parse (Value.obj
        [("status", .str "ERROR"), ("message", .str "boom"), ("data", .null)]).canonical = .ok e ∧
      e = ⟨.error, some "boom", none⟩ := by
  obtain ⟨htext, -, hread⟩ := built_told .error retypingSteps
  have hplain : ∀ d ∈ (Step.last Step.data? retypingSteps).map Payload.document, d.Plain 126 := by
    intro d hd
    cases hd
    exact .atom trivial
  obtain ⟨-, e, he, hstatus, hmessage, hnull, -⟩ := hread hplain
  obtain ⟨status, message, data⟩ := e
  cases hstatus
  cases hmessage
  cases hnull rfl
  exact ⟨htext, _, he, rfl⟩

end Envelope

end PearlReport
