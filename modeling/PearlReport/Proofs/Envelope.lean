import PearlReport.Envelope
import PearlReport.Proofs.Agreement
import PearlReport.Proofs.Breaks
import PearlReport.Proofs.RoundTrip

/-! Envelopes over generic data: what is written, and what is read back. -/

namespace PearlReport

open Json

namespace Json.Value

def notNull : Value → Bool
  | .null => false
  | _ => true

theorem Plain.canonical {n : Nat} {v : Value} (h : v.Plain n) (hn : n ≤ maxLevels) :
    Value.parse v.canonical = .ok v ∧
    ∀ {α : Type} (s : Shape α), (s.parse v.canonical).toOption = (s.ofValue v).toOption := by
  have hshallow : v.depth ≤ maxLevels := Nat.le_trans h.shallow hn
  exact ⟨parse_canonical h.exact h.distinct hshallow,
    fun s => s.parse_agrees (content?_canonical h.exact) h.distinct hshallow⟩

end Json.Value

theorem Shape.parse_canonical {α : Type} {s : Shape α} (h : s.Lossless)
    (hf : s.fits maxLevels = true) (a : α) (hy : ∀ t ∈ s.instants a, t.FourDigitYear) :
    Value.parse (s.canonical a) = .ok (s.write a) ∧
    s.parse (s.canonical a) = .ok (s.truncated a) := by
  obtain ⟨hparse, hread⟩ := (s.write_plain hf a).canonical (Nat.le_refl maxLevels)
  refine ⟨hparse, ?_⟩
  rw [← Outcome.toOption_eq_some, Shape.canonical, hread, s.ofValue_write h a hy]
  rfl

namespace Envelope

def members (e : Envelope Value) : List (String × Value) :=
  ("status", .str e.status.name) ::
    (e.message.toList.map (("message", .str ·)) ++ e.data.toList.map (("data", ·)))

theorem write_eq (e : Envelope Value) : (shape .any).write e = .obj e.members := by
  obtain ⟨status, message, data⟩ := e
  cases message with
  | none => cases data <;> rfl
  | some m => cases data <;> rfl

theorem members_nodup (e : Envelope Value) : (e.members.map Prod.fst).Nodup := by
  obtain ⟨status, message, data⟩ := e
  cases message <;> cases data <;> simp [members]

theorem members_lookup (e : Envelope Value) :
    e.members.lookup "status" = some (.str e.status.name) ∧
    e.members.lookup "message" = e.message.map .str ∧ e.members.lookup "data" = e.data := by
  obtain ⟨status, message, data⟩ := e
  cases message <;> cases data <;> simp [members, List.lookup_cons]

theorem members_keys (e : Envelope Value) :
    (e.members.map Prod.fst).Sublist ["status", "message", "data"] := by
  obtain ⟨status, message, data⟩ := e
  cases message <;> cases data <;> simp [members]

theorem members_plain {e : Envelope Value} {n : Nat} (h : ∀ v ∈ e.data, v.Plain n) :
    (Value.obj e.members).Plain (n + 1) := by
  apply Value.Plain.obj e.members_nodup
  intro m hm
  rcases List.mem_cons.1 hm with rfl | hm
  · exact .atom trivial
  · rcases List.mem_append.1 hm with hm | hm
    · obtain ⟨t, -, rfl⟩ := List.mem_map.1 hm
      exact .atom trivial
    · obtain ⟨v, hv, rfl⟩ := List.mem_map.1 hm
      exact h v (Option.mem_toList.1 hv)

theorem find_name (s : Status) : Status.vocabulary.find s.name = .ok s := by
  cases s <;> rfl

theorem option_any (v : Value) :
    (Shape.option .any).ofValue v = .ok (if v.notNull then some v else none) := by
  cases v with
  | atom a => cases a <;> rfl
  | arr vs => rfl
  | obj ms => rfl

/-- The envelope as it is read back: data that is null is absent. -/
def settled (e : Envelope Value) : Envelope Value :=
  ⟨e.status, e.message, e.data.filter Value.notNull⟩

theorem settled_eq {e : Envelope Value} (h : ∀ d, e.data = some d → d.notNull = true) :
    e.settled = e := by
  have hdata : e.data.filter Value.notNull = e.data := by
    cases hd : e.data with
    | none => rfl
    | some d => rw [Option.filter_some, if_pos (h d hd)]
  rw [settled, hdata]

theorem settled_data (e : Envelope Value) :
    (e.data = some .null → e.settled.data = none) ∧
    (e.data ≠ some .null → e.settled.data = e.data) := by
  constructor
  · intro h
    rw [settled, h]
    rfl
  · intro h
    have hnotNull : ∀ d, e.data = some d → d.notNull = true := by
      intro d hd
      rw [Value.notNull.eq_def]
      split
      · exact absurd hd h
      · rfl
    rw [settled_eq hnotNull]

theorem ofValue_members_as {α : Type} (s : Shape α) (e : Envelope Value) :
    ((shape s).ofValue (.obj e.members)).toOption =
      ((Field.optional "data").lookup (.option s) e.members).map (⟨e.status, e.message, ·⟩) := by
  obtain ⟨hstatus, hmessage, -⟩ := e.members_lookup
  have h₁ : (Field.required "status").lookup Status.shape e.members = some e.status := by
    simp only [Field.lookup, Field.required, hstatus]
    exact congrArg _ (find_name e.status)
  have h₂ : (Field.optional "message").lookup (.option .text) e.members = some e.message := by
    simp only [Field.lookup, Field.optional, hmessage]
    cases e.message <;> rfl
  have hkeys : (fields s).keys.Nodup := by
    simp [fields, Fields.keys, Field.required, Field.optional]
  rw [shape, Shape.ofValue_record _ _ _ hkeys e.members_nodup]
  simp only [fields, Fields.lookups, h₁, h₂, Option.bind_some, Option.map_some, Option.map_map]
  cases (Field.optional "data").lookup (.option s) e.members <;> rfl

theorem ofValue_members (e : Envelope Value) :
    (shape .any).ofValue (.obj e.members) = .ok e.settled := by
  have hdata : (Field.optional "data").lookup (.option .any) e.members =
      some (e.data.filter Value.notNull) := by
    simp only [Field.lookup, Field.optional, e.members_lookup.2.2]
    cases e.data with
    | none => rfl
    | some v =>
      simp only [option_any]
      cases h : v.notNull <;> simp [Option.filter, h]
  rw [← Outcome.toOption_eq_some, ofValue_members_as, hdata]
  rfl

theorem ofValue_data {α : Type} {s : Shape α} (hn : s.nullable = false) {e : Envelope Value} {a : α}
    (hd : e.data = some (s.write a)) (ha : s.ofValue (s.write a) = .ok a) :
    (shape s).ofValue (.obj e.members) = .ok ⟨e.status, e.message, some a⟩ := by
  have hdata : (Field.optional "data").lookup (.option s) e.members = some (some a) := by
    simp only [Field.lookup, Field.optional, e.members_lookup.2.2, hd]
    rw [Shape.ofValue]
    · rw [ha]
      rfl
    · exact s.write_ne_null hn a
  rw [← Outcome.toOption_eq_some, ofValue_members_as, hdata]
  rfl

theorem text_reads {e : Envelope Value} (h : ∀ v ∈ e.data, v.Plain 126) :
    e.text = (Value.obj e.members).canonical ∧ Value.parse e.text = .ok (.obj e.members) ∧
    (shape .any).parse e.text = .ok e.settled := by
  obtain ⟨hp, hs⟩ := (members_plain h).canonical (by decide)
  rw [text, Shape.canonical, write_eq]
  refine ⟨rfl, hp, ?_⟩
  rw [← Outcome.toOption_eq_some, hs, e.ofValue_members]
  rfl

end Envelope

end PearlReport
