import PearlReport.Proofs.Written
import PearlReport.Shape.Value

/-! Records read from objects. Where neither the object repeats a key nor the record a field, each
field is read on its own: from the member with its key, or as it is read where that is missing. -/

namespace PearlReport

open Json

theorem lookup_other {α : Type} {k key : String} (h : key ≠ k) (a : α) (ms : List (String × α)) :
    ((key, a) :: ms).lookup k = ms.lookup k := by
  rw [lookup_cons_if, if_neg h.symm]

theorem lookup_absent {α : Type} {k : String} {ms : List (String × α)}
    (h : k ∉ ms.map Prod.fst) : ms.lookup k = none := by
  rw [List.lookup_eq_none_iff]
  intro m hm
  rw [bne_iff_ne]
  exact fun e => h (e ▸ List.mem_map_of_mem hm)

theorem lookup_perm {α : Type} {ms ms' : List (String × α)} (h : ms.Perm ms')
    (hms : (ms.map Prod.fst).Nodup) (key : String) : ms'.lookup key = ms.lookup key := by
  induction h with
  | nil => rfl
  | cons m h ih =>
    rw [List.map_cons, List.nodup_cons] at hms
    rw [lookup_cons_if, lookup_cons_if, ih hms.2]
  | swap m m' ms =>
    simp only [List.map_cons, List.nodup_cons, List.mem_cons, not_or] at hms
    have hne : m'.1 ≠ m.1 := hms.1.1
    simp only [lookup_cons_if]
    by_cases hkey : key = m.1
    · rw [if_pos hkey, if_pos hkey, if_neg (hkey ▸ hne.symm)]
    · rw [if_neg hkey, if_neg hkey]
  | trans h h' ih ih' =>
    rw [ih' ((h.map Prod.fst).nodup_iff.1 hms), ih hms]

theorem lookup_map_values {α β : Type} (f : α → β) (ms : List (String × α)) (key : String) :
    (ms.map fun m => (m.1, f m.2)).lookup key = (ms.lookup key).map f := by
  induction ms with
  | nil => rfl
  | cons m ms ih =>
    rw [List.map_cons, lookup_cons_if, lookup_cons_if, ih]
    split <;> rfl

theorem lookup_mem {α : Type} {ms : List (String × α)} (hk : (ms.map Prod.fst).Nodup)
    {m : String × α} (hm : m ∈ ms) : ms.lookup m.1 = some m.2 := by
  induction ms with
  | nil => cases hm
  | cons n ms ih =>
    rw [List.map_cons, List.nodup_cons] at hk
    rw [lookup_cons_if]
    rcases List.mem_cons.1 hm with rfl | hm
    · rw [if_pos rfl]
    · have hne : m.1 ≠ n.1 := by
        intro h
        exact hk.1 (h ▸ List.mem_map_of_mem hm)
      rw [if_neg hne, ih hk.2 hm]

theorem Vocabulary.find_unlisted {α : Type} {w : Vocabulary α} {t : String} (h : t ∉ w.names) :
    (w.find t).toOption = w.other := by
  have hfind : w.find? t = w.other := by
    rw [Vocabulary.find?, lookup_absent h]
    rfl
  rw [Vocabulary.find, hfind]
  cases w.other <;> rfl

def Field.lookup {α : Type} (f : Field α) (s : Shape α) (ms : List (String × Value)) : Option α :=
  match ms.lookup f.key with
  | some v => (s.ofValue v).toOption
  | none => f.fallback.or s.ifMissing

def Fields.lookups {β σ : Type} : Fields β σ → List (String × Value) → Option β
  | .nil, _ => some ()
  | .cons f s more, ms => (f.lookup s ms).bind fun a => (more.lookups ms).map (a, ·)

theorem Fields.lookups_congr {β σ : Type} {ms ms' : List (String × Value)} :
    (fields : Fields β σ) → (∀ key ∈ fields.keys, ms'.lookup key = ms.lookup key) →
    fields.lookups ms' = fields.lookups ms
  | .nil, _ => rfl
  | .cons f s more, h => by
    rw [Fields.keys, List.forall_mem_cons] at h
    rw [Fields.lookups, Fields.lookups, Field.lookup, Field.lookup, h.1, more.lookups_congr h.2]

/-- What a slot comes to when the members `ms` are still to be read. -/
def Field.settle {α : Type} (f : Field α) (s : Shape α) (ms : List (String × Value)) (slot : Option α) :
    Option α :=
  match slot, ms.lookup f.key with
  | none, _ => f.lookup s ms
  | some a, none => some a
  | some _, some _ => none

def Fields.settle {β σ : Type} : Fields β σ → List (String × Value) → σ → Option β
  | .nil, _, _ => some ()
  | .cons f s more, ms, (slot, slots) =>
    (f.settle s ms slot).bind fun a => (more.settle ms slots).map (a, ·)

theorem Fields.settle_empty {β σ : Type} : (fields : Fields β σ) → (ms : List (String × Value)) →
    fields.settle ms fields.empty = fields.lookups ms
  | .nil, _ => rfl
  | .cons f s more, ms => by
    rw [Fields.empty, Fields.settle, Fields.lookups, more.settle_empty ms]
    rfl

theorem Fields.finish_settle {β σ : Type} : (fields : Fields β σ) → (slots : σ) →
    (fields.finish slots).toOption = fields.settle [] slots
  | .nil, _ => rfl
  | .cons f s more, (slot, slots) => by
    have hs := more.finish_settle slots
    have hslot : f.settle s [] slot = slot.or (f.fallback.or s.ifMissing) := by
      cases slot <;> rfl
    rw [Fields.finish, Fields.settle, hslot, ← hs]
    cases slot.or (f.fallback.or s.ifMissing) with
    | none => rfl
    | some a => cases more.finish slots <;> rfl

theorem Field.settle_cons {α : Type} {f : Field α} {key : String} (h : key ≠ f.key) (s : Shape α) (v : Value)
    (ms : List (String × Value)) (slot : Option α) :
    f.settle s ((key, v) :: ms) slot = f.settle s ms slot := by
  simp only [Field.settle, Field.lookup, lookup_other h]

theorem Fields.settle_cons {β σ : Type} : (fields : Fields β σ) → {key : String} → key ∉ fields.keys →
    (v : Value) → (ms : List (String × Value)) → (slots : σ) →
    fields.settle ((key, v) :: ms) slots = fields.settle ms slots
  | .nil, _, _, _, _, _ => rfl
  | .cons f s more, key, h, v, ms, (slot, slots) => by
    rw [Fields.keys, List.mem_cons, not_or] at h
    rw [Fields.settle, Fields.settle, Field.settle_cons h.1, more.settle_cons h.2]

theorem Fields.fillValue_settle {β σ : Type} : (fields : Fields β σ) → {key : String} → {v : Value} →
    {ms : List (String × Value)} → fields.keys.Nodup → key ∉ ms.map Prod.fst → (slots : σ) →
    (fields.fillValue key v slots).toOption.bind (fields.settle ms) =
      fields.settle ((key, v) :: ms) slots
  | .nil, _, _, _, _, _, _ => rfl
  | .cons f s more, key, v, ms, hk, hnew, (slot, slots) => by
    rw [Fields.keys, List.nodup_cons] at hk
    -- the field of the member is either this one, and then no later member or field has its key,
    -- or one of those that follow
    by_cases hkey : key = f.key
    · subst hkey
      have hrest := lookup_absent hnew
      simp only [Fields.settle, more.settle_cons hk.1, Fields.fillValue, if_pos, Field.settle,
        Field.lookup, List.lookup_cons_self]
      cases slot with
      | some a => rfl
      | none => cases s.ofValue v with
        | error e => rfl
        | ok a => simp [hrest]
    · have hs := more.fillValue_settle (v := v) hk.2 hnew slots
      simp only [Fields.settle, Field.settle_cons hkey, ← hs, Fields.fillValue, if_neg hkey]
      cases more.fillValue key v slots with
      | error e => cases f.settle s ms slot <;> rfl
      | ok slots => rfl

theorem Fields.foldlM_settle {β σ : Type} (fields : Fields β σ) (hk : fields.keys.Nodup)
    (ms : List (String × Value)) (hms : (ms.map Prod.fst).Nodup) (slots : σ) :
    (ms.foldlM (fun slots m => fields.fillValue m.1 m.2 slots) slots >>=
      fields.finish).toOption = fields.settle ms slots := by
  induction ms generalizing slots with
  | nil => exact fields.finish_settle slots
  | cons m ms ih =>
    obtain ⟨key, v⟩ := m
    rw [List.map_cons, List.nodup_cons] at hms
    rw [← fields.fillValue_settle hk hms.1 slots, List.foldlM_cons]
    cases fields.fillValue key v slots with
    | error e => rfl
    | ok slots => exact ih hms.2 slots

theorem Shape.ofValue_record {α β σ : Type} (name : String) (fields : Fields β σ) (p : Parts α β)
    (hk : fields.keys.Nodup) {ms : List (String × Value)} (hms : (ms.map Prod.fst).Nodup) :
    ((Shape.record name fields p).ofValue (.obj ms)).toOption =
      (fields.lookups ms).map p.make := by
  rw [← fields.settle_empty, ← fields.foldlM_settle hk ms hms]
  rw [Shape.ofValue]
  cases ms.foldlM (fun slots m => fields.fillValue m.1 m.2 slots) fields.empty with
  | error e => rfl
  | ok slots => simp only [Outcome.ok_bind, Outcome.toOption_map]

end PearlReport
