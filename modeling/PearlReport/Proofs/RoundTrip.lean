import PearlReport.Proofs.FixedLayout
import PearlReport.Proofs.Identifier
import PearlReport.Proofs.Members
import PearlReport.Report

/-! Written values read again. A shape without open parts, which tells an option from its null and
hides no field, reads what it writes: the same value, its instants without their part of a
millisecond. -/

namespace PearlReport

open Json

def Time.Instant.FourDigitYear (t : Time.Instant) : Prop := 0 ≤ t.date.year ∧ t.date.year ≤ 9999

instance (t : Time.Instant) : Decidable t.FourDigitYear := inferInstanceAs (Decidable (_ ∧ _))

def Json.Dict.map {α β : Type} (f : α → β) (d : Dict α) : Dict β where
  entries := d.entries.map fun m => (m.1, f m.2)
  nodup := by
    rw [List.map_map]
    exact d.nodup

def Leaf.instants {α : Type} : Leaf α → α → List Time.Instant
  | .instant, t => [t]
  | .text, _ | .flag, _ | .whole _, _ | .uuid, _ | .character, _ | .nothing, _ => []

def Leaf.truncated {α : Type} : Leaf α → α → α
  | .instant, t => t.truncated
  | .text, a | .flag, a | .whole _, a | .uuid, a | .character, a | .nothing, a => a

mutual
def Shape.instants {α : Type} : Shape α → α → List Time.Instant
  | .leaf l, a => l.instants a
  | .word _, _ => []
  | .any, _ => []
  | .option s, a =>
    match a with
    | none => []
    | some a => s.instants a
  | .list s, as => as.flatMap s.instants
  | .dict s, d => d.entries.flatMap fun m => s.instants m.2
  | .record _ fields p, a => fields.instants (p.parts a)
def Fields.instants {β σ : Type} : Fields β σ → β → List Time.Instant
  | .nil, _ => []
  | .cons _ s more, (a, b) => s.instants a ++ more.instants b
end

mutual
/-- The value without the part of a millisecond of its instants. -/
def Shape.truncated {α : Type} : Shape α → α → α
  | .leaf l, a => l.truncated a
  | .word _, a => a
  | .any, v => v
  | .option s, a =>
    match a with
    | none => none
    | some a => some (s.truncated a)
  | .list s, as => as.map s.truncated
  | .dict s, d => d.map s.truncated
  | .record _ fields p, a => p.make (fields.truncated (p.parts a))
def Fields.truncated {β σ : Type} : Fields β σ → β → β
  | .nil, _ => ()
  | .cons _ s more, (a, b) => (s.truncated a, more.truncated b)
end

def Leaf.nullable {α : Type} : Leaf α → Bool
  | .nothing => true
  | .text | .flag | .whole _ | .uuid | .instant | .character => false

def Shape.nullable {α : Type} : Shape α → Bool
  | .leaf l => l.nullable
  | .any => true
  | .option _ => true
  | .word _ | .list _ | .dict _ | .record .. => false

mutual
/-- Words are read as what they name, null under an option is no value, and records name their fields
apart and hide none. -/
def Shape.Lossless {α : Type} : Shape α → Prop
  | .leaf _ => True
  | .word v => ∀ a, v.find? (v.nameOf a) = some a
  | .any => True
  | .option s => s.nullable = false ∧ s.Lossless
  | .list s => s.Lossless
  | .dict s => s.Lossless
  | .record _ fields _ => fields.keys.Nodup ∧ fields.Lossless
def Fields.Lossless {β σ : Type} : Fields β σ → Prop
  | .nil => True
  | .cons f s more => (∀ a, f.hidden a = false) ∧ s.Lossless ∧ more.Lossless
end

theorem Shape.write_ne_null {α : Type} {s : Shape α} (h : s.nullable = false) (a : α) :
    s.write a ≠ .null := by
  cases s with
  | leaf l =>
    cases l with
    | nothing => cases h
    | text | flag | whole | uuid | instant | character => exact nofun
  | any | option => cases h
  | word | list | dict | record => exact nofun

theorem mapM_map_ok {ε α β γ : Type} {f : β → Except ε γ} {g : α → β} {k : α → γ} {as : List α}
    (h : ∀ a ∈ as, f (g a) = .ok (k a)) : (as.map g).mapM f = .ok (as.map k) := by
  induction as with
  | nil => rfl
  | cons a as ih =>
    have ha := h a List.mem_cons_self
    have hs := ih fun b hb => h b (List.mem_cons_of_mem _ hb)
    rw [List.map_cons, List.mapM_cons, ha, Outcome.ok_bind, hs]
    rfl

theorem Leaf.read_write {α : Type} (l : Leaf α) (a : α) (h : ∀ t ∈ l.instants a, t.FourDigitYear) :
    l.read (l.write a).found = .ok (l.truncated a) := by
  cases l with
  | text => rfl
  | flag => rfl
  | whole w =>
    have hw := w.ofInt?_toInt a
    simp only [Leaf.write, Value.ofInt, Value.num, Value.found, Leaf.read, hw]
    rfl
  | uuid =>
    change (Uuid.read _).mapError _ = _
    rw [Uuid.read_text]
    rfl
  | instant =>
    have hy : a.FourDigitYear := h a List.mem_cons_self
    change (Time.Rfc3339.read a.text).mapError _ = _
    rw [Time.Rfc3339.read_written hy]
    rfl
  | character =>
    simp only [Leaf.write, Value.str, Value.found, Leaf.read, Leaf.ofText]
    simp [Char.toString, Leaf.truncated]
  | nothing => rfl

theorem Fields.lookups_cons {β σ : Type} (fields : Fields β σ) {key : String}
    (h : key ∉ fields.keys) (v : Value) (ms : List (String × Value)) :
    fields.lookups ((key, v) :: ms) = fields.lookups ms := by
  apply fields.lookups_congr
  intro k hk
  have hne : key ≠ k := by
    rintro rfl
    exact h hk
  exact lookup_other hne v ms

mutual
theorem Shape.ofValue_write {α : Type} : (s : Shape α) → s.Lossless → (a : α) →
    (∀ t ∈ s.instants a, t.FourDigitYear) → s.ofValue (s.write a) = .ok (s.truncated a)
  | .leaf l, _, a, hy => l.read_write a hy
  | .word v, h, a, _ => by
    change v.find (v.nameOf a) = .ok a
    rw [Vocabulary.find, h a]
  | .any, _, _, _ => rfl
  | .option s, h, none, _ => rfl
  | .option s, h, some a, hy => by
    have hs := s.ofValue_write h.2 a hy
    rw [Shape.write, Shape.ofValue]
    · rw [hs]
      rfl
    · exact s.write_ne_null h.1 a
  | .list s, h, as, hy => by
    have hs : (as.map s.write).mapM s.ofValue = .ok (as.map s.truncated) :=
      mapM_map_ok fun a ha => s.ofValue_write h a fun t ht =>
        hy t (List.mem_flatMap.2 ⟨a, ha, ht⟩)
    rw [Shape.write, Shape.ofValue]
    exact hs
  | .dict s, h, d, hy => by
    have hs : (d.entries.map fun m => (m.1, s.write m.2)).mapM
        (fun m => (m.1, ·) <$> s.ofValue m.2) =
          .ok (d.entries.map fun m => (m.1, s.truncated m.2)) := by
      apply mapM_map_ok
      intro m hm
      rw [s.ofValue_write h m.2 fun t ht => hy t (List.mem_flatMap.2 ⟨m, hm, ht⟩)]
      rfl
    rw [Shape.write, Shape.ofValue, Value.members, Outcome.ok_bind, hs, Outcome.ok_bind]
    have hd : Dict.ofList (d.entries.map fun m => (m.1, s.truncated m.2)) = d.map s.truncated :=
      Dict.ext (gather_distinct (d.map s.truncated).nodup)
    rw [hd]
    rfl
  | .record name fields p, h, a, hy => by
    have hs := fields.lookups_write h.1 h.2 (p.parts a) hy
    have hkeys := (fields.write_keys (p.parts a)).nodup h.1
    rw [← Outcome.toOption_eq_some, Shape.write, Shape.ofValue_record name fields p h.1 hkeys, hs]
    rfl
theorem Fields.lookups_write {β σ : Type} : (fields : Fields β σ) → fields.keys.Nodup →
    fields.Lossless → (b : β) → (∀ t ∈ fields.instants b, t.FourDigitYear) →
    fields.lookups (fields.write b) = some (fields.truncated b)
  | .nil, _, _, _, _ => rfl
  | .cons f s more, hk, h, (a, b), hy => by
    rw [Fields.keys, List.nodup_cons] at hk
    have ha := s.ofValue_write h.2.1 a fun t ht => hy t (List.mem_append_left _ ht)
    have hb := more.lookups_write hk.2 h.2.2 b fun t ht => hy t (List.mem_append_right _ ht)
    have hf : f.lookup s ((f.key, s.write a) :: more.write b) = some (s.truncated a) := by
      rw [Field.lookup, List.lookup_cons_self]
      simp only [ha, Outcome.toOption_ok]
    rw [Fields.write, h.1 a, if_neg Bool.false_ne_true, Fields.lookups, hf,
      more.lookups_cons hk.1, hb]
    rfl
end

theorem Leaf.truncated_whole {α : Type} (l : Leaf α) (a : α)
    (h : ∀ t ∈ l.instants a, t.truncated = t) : l.truncated a = a := by
  cases l with
  | instant => exact h a List.mem_cons_self
  | text | flag | whole | uuid | character | nothing => rfl

theorem Leaf.instants_truncated {α : Type} (l : Leaf α) (a : α) :
    l.instants (l.truncated a) = (l.instants a).map Time.Instant.truncated := by
  cases l with
  | text | flag | whole | uuid | instant | character | nothing => rfl

mutual
theorem Shape.truncated_whole {α : Type} : (s : Shape α) → (a : α) →
    (∀ t ∈ s.instants a, t.truncated = t) → s.truncated a = a
  | .leaf l, a, h => l.truncated_whole a h
  | .word _, _, _ => rfl
  | .any, _, _ => rfl
  | .option _, none, _ => rfl
  | .option s, some a, h => congrArg some (s.truncated_whole a h)
  | .list s, as, h => by
    have hs : ∀ a ∈ as, s.truncated a = a := fun a ha =>
      s.truncated_whole a fun t ht => h t (List.mem_flatMap.2 ⟨a, ha, ht⟩)
    rw [Shape.truncated, List.map_congr_left hs, List.map_id']
  | .dict s, d, h => by
    have hs : ∀ m ∈ d.entries, (m.1, s.truncated m.2) = m := fun m hm =>
      congrArg (m.1, ·) (s.truncated_whole m.2 fun t ht => h t (List.mem_flatMap.2 ⟨m, hm, ht⟩))
    apply Dict.ext
    change d.entries.map (fun m => (m.1, s.truncated m.2)) = d.entries
    rw [List.map_congr_left hs, List.map_id']
  | .record _ fields p, a, h => by
    rw [Shape.truncated, fields.truncated_whole (p.parts a) h, p.make_parts]
theorem Fields.truncated_whole {β σ : Type} : (fields : Fields β σ) → (b : β) →
    (∀ t ∈ fields.instants b, t.truncated = t) → fields.truncated b = b
  | .nil, _, _ => rfl
  | .cons _ s more, (a, b), h => by
    have ha := s.truncated_whole a fun t ht => h t (List.mem_append_left _ ht)
    have hb := more.truncated_whole b fun t ht => h t (List.mem_append_right _ ht)
    rw [Fields.truncated, ha, hb]
end

mutual
theorem Shape.instants_truncated {α : Type} : (s : Shape α) → (a : α) →
    s.instants (s.truncated a) = (s.instants a).map Time.Instant.truncated
  | .leaf l, a => l.instants_truncated a
  | .word _, _ => rfl
  | .any, _ => rfl
  | .option _, none => rfl
  | .option s, some a => s.instants_truncated a
  | .list s, as => by
    simp only [Shape.truncated, Shape.instants, List.flatMap_map, List.map_flatMap,
      s.instants_truncated]
  | .dict s, d => by
    simp only [Shape.truncated, Shape.instants, Dict.map, List.flatMap_map, List.map_flatMap,
      s.instants_truncated]
  | .record _ fields p, a => by
    rw [Shape.truncated, Shape.instants, Shape.instants, p.parts_make, fields.instants_truncated]
theorem Fields.instants_truncated {β σ : Type} : (fields : Fields β σ) → (b : β) →
    fields.instants (fields.truncated b) = (fields.instants b).map Time.Instant.truncated
  | .nil, _ => rfl
  | .cons _ s more, (a, b) => by
    simp only [Fields.truncated, Fields.instants, List.map_append, s.instants_truncated,
      more.instants_truncated]
end

theorem Leaf.write_truncated {α : Type} (l : Leaf α) (a : α) :
    l.write (l.truncated a) = l.write a := by
  cases l with
  | instant => exact congrArg Value.str a.truncated_text
  | text | flag | whole | uuid | character | nothing => rfl

mutual
theorem Shape.write_truncated {α : Type} : (s : Shape α) → s.Lossless → (a : α) →
    s.write (s.truncated a) = s.write a
  | .leaf l, _, a => l.write_truncated a
  | .word _, _, _ => rfl
  | .any, _, _ => rfl
  | .option s, _, none => rfl
  | .option s, h, some a => s.write_truncated h.2 a
  | .list s, h, as => by
    rw [Shape.truncated, Shape.write, Shape.write, List.map_map]
    congr 1
    apply List.map_congr_left
    intro a _
    exact s.write_truncated h a
  | .dict s, h, d => by
    rw [Shape.truncated, Shape.write, Shape.write, Dict.map, List.map_map]
    congr 1
    apply List.map_congr_left
    intro m _
    exact congrArg (m.1, ·) (s.write_truncated h m.2)
  | .record _ fields p, h, a => by
    rw [Shape.truncated, Shape.write, Shape.write, p.parts_make, fields.write_truncated h.2]
theorem Fields.write_truncated {β σ : Type} : (fields : Fields β σ) → fields.Lossless → (b : β) →
    fields.write (fields.truncated b) = fields.write b
  | .nil, _, _ => rfl
  | .cons f s more, h, (a, b) => by
    rw [Fields.truncated, Fields.write, Fields.write, h.1, h.1, s.write_truncated h.2.1,
      more.write_truncated h.2.2]
end

end PearlReport
