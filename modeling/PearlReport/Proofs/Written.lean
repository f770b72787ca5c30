import PearlReport.Proofs.Printed
import PearlReport.Shape.Serialize

/-! Written values. Whatever has a shape without open parts is written, without fail, as a document
whose numbers are exact, whose keys are distinct and whose nesting the shape bounds. -/

namespace PearlReport

open Json

/-- What a document must be to come through its text unchanged. -/
structure Json.Value.Plain (n : Nat) (v : Value) : Prop where
  exact : v.Exact
  distinct : v.Distinct
  shallow : v.depth ≤ n

namespace Json.Value.Plain

theorem atom {n : Nat} {a : Atom} (h : a.Exact) : (Value.atom a).Plain n :=
  ⟨h, trivial, Nat.zero_le n⟩

theorem arr {n : Nat} {vs : List Value} (h : ∀ v ∈ vs, v.Plain n) : (Value.arr vs).Plain (n + 1) :=
  ⟨(exactItems_iff vs).2 fun v hv => (h v hv).exact,
    (distinctItems_iff vs).2 fun v hv => (h v hv).distinct,
    Nat.succ_le_succ ((itemsDepth_le vs).2 fun v hv => (h v hv).shallow)⟩

theorem obj {n : Nat} {ms : List (String × Value)} (hk : (ms.map Prod.fst).Nodup)
    (h : ∀ m ∈ ms, m.2.Plain n) : (Value.obj ms).Plain (n + 1) :=
  ⟨(exactMembers_iff ms).2 fun m hm => (h m hm).exact,
    ⟨hk, (distinctMembers_iff ms).2 fun m hm => (h m hm).distinct⟩,
    Nat.succ_le_succ ((membersDepth_le ms).2 fun m hm => (h m hm).shallow)⟩

end Json.Value.Plain

def Fields.keys {β σ : Type} : Fields β σ → List String
  | .nil => []
  | .cons f _ more => f.key :: more.keys

mutual
/-- No part of the shape is open, its records name their fields apart, and its documents are nested
at most `n` deep. -/
def Shape.fits {α : Type} : Shape α → (n : Nat) → Bool
  | .leaf _, _ => true
  | .word _, _ => true
  | .any, _ => false
  | .option s, n => s.fits n
  | .list s, n =>
    match n with
    | 0 => false
    | n + 1 => s.fits n
  | .dict s, n =>
    match n with
    | 0 => false
    | n + 1 => s.fits n
  | .record _ fields _, n =>
    match n with
    | 0 => false
    | n + 1 => decide fields.keys.Nodup && fields.fit n
def Fields.fit {β σ : Type} : Fields β σ → (n : Nat) → Bool
  | .nil, _ => true
  | .cons _ s more, n => s.fits n && more.fit n
end

theorem Leaf.write_exact {α : Type} (l : Leaf α) (a : α) : ∃ b : Atom, l.write a = .atom b ∧ b.Exact := by
  cases l with
  | text => exact ⟨_, rfl, trivial⟩
  | flag => exact ⟨_, rfl, trivial⟩
  | whole w => exact ⟨_, rfl, w.bounded a⟩
  | uuid => exact ⟨_, rfl, trivial⟩
  | instant => exact ⟨_, rfl, trivial⟩
  | character => exact ⟨_, rfl, trivial⟩
  | nothing => exact ⟨_, rfl, trivial⟩

theorem Fields.write_keys {β σ : Type} : (fields : Fields β σ) → (b : β) →
    ((fields.write b).map Prod.fst).Sublist fields.keys
  | .nil, _ => .slnil
  | .cons f s more, (a, b) => by
    rw [Fields.write, Fields.keys]
    split
    · exact (more.write_keys b).cons _
    · exact (more.write_keys b).cons_cons _

mutual
theorem Shape.write_plain {α : Type} : (s : Shape α) → {n : Nat} → s.fits n = true → (a : α) →
    (s.write a).Plain n
  | .leaf l, n, _, a => by
    obtain ⟨b, hb, he⟩ := l.write_exact a
    rw [Shape.write, hb]
    exact .atom he
  | .word v, n, _, a => .atom trivial
  | .option s, n, h, a => by
    cases a with
    | none => exact .atom trivial
    | some a => exact s.write_plain h a
  | .list s, 0, h, _ => nomatch h
  | .list s, n + 1, h, as => by
    apply Value.Plain.arr
    intro v hv
    obtain ⟨a, -, rfl⟩ := List.mem_map.1 hv
    exact s.write_plain h a
  | .dict s, 0, h, _ => nomatch h
  | .dict s, n + 1, h, d => by
    apply Value.Plain.obj
    · rw [List.map_map]
      exact d.nodup
    · intro m hm
      obtain ⟨e, -, rfl⟩ := List.mem_map.1 hm
      exact s.write_plain h e.2
  | .record _ fields p, 0, h, _ => nomatch h
  | .record _ fields p, n + 1, h, a => by
    rw [Shape.fits, Bool.and_eq_true, decide_eq_true_eq] at h
    have hkeys := (fields.write_keys (p.parts a)).nodup h.1
    apply Value.Plain.obj hkeys
    exact fields.write_plain h.2 (p.parts a)
theorem Fields.write_plain {β σ : Type} : (fields : Fields β σ) → {n : Nat} →
    fields.fit n = true → (b : β) → ∀ m ∈ fields.write b, m.2.Plain n
  | .nil, _, _, _, _, hm => nomatch hm
  | .cons f s more, n, h, (a, b), m, hm => by
    rw [Fields.fit, Bool.and_eq_true] at h
    rw [Fields.write] at hm
    split at hm
    · exact more.write_plain h.2 b m hm
    · rcases List.mem_cons.1 hm with rfl | hm
      · exact s.write_plain h.1 a
      · exact more.write_plain h.2 b m hm
end

theorem mapM_ok {ε α β : Type} {f : α → Except ε β} {g : α → β} (h : ∀ a, f a = .ok (g a))
    (as : List α) : as.mapM f = .ok (as.map g) := by
  have hf : f = fun a => pure (g a) := funext h
  rw [hf, List.mapM_pure]
  rfl

@[simp] theorem Shape.writeEntries_text (entries : List (String × Value)) :
    Shape.text.writeEntries entries = .ok (.obj entries) := by
  have hm := mapM_ok (f := fun m : String × Value => (·, m.2) <$> Shape.text.writeKey m.1)
    (g := id) (fun _ => rfl) entries
  rw [Shape.writeEntries, hm, List.map_id]
  rfl

mutual
@[simp] theorem Shape.serialize_eq {α : Type} : (s : Shape α) → (a : α) → s.serialize a = .ok (s.write a)
  | .leaf _, _ => rfl
  | .word _, _ => rfl
  | .any, _ => rfl
  | .option s, none => rfl
  | .option s, some a => s.serialize_eq a
  | .list s, as => by
    rw [Shape.serialize, mapM_ok s.serialize_eq]
    rfl
  | .dict s, d => by
    have hm := mapM_ok (f := fun m : String × _ => (m.1, ·) <$> s.serialize m.2)
      (g := fun m => (m.1, s.write m.2)) (fun m => by rw [s.serialize_eq]; rfl) d.entries
    rw [Shape.serialize, hm, Outcome.ok_bind, Shape.writeEntries_text]
    rfl
  | .record _ fields p, a => by
    rw [Shape.serialize, fields.serialize_eq]
    rfl
@[simp] theorem Fields.serialize_eq {β σ : Type} : (fields : Fields β σ) → (b : β) →
    fields.serialize b = .ok (fields.write b)
  | .nil, _ => rfl
  | .cons f s more, (a, b) => by
    rw [Fields.serialize, Fields.write]
    split
    · exact more.serialize_eq b
    · rw [s.serialize_eq, more.serialize_eq]
      rfl
end

@[simp] theorem Shape.serializeText_eq {α : Type} (s : Shape α) (a : α) :
    s.serializeText a = .ok (s.canonical a) := by
  rw [Shape.serializeText, s.serialize_eq]
  rfl

end PearlReport
