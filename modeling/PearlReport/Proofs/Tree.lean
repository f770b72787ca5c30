import PearlReport.Json.Value
import PearlReport.Json.Doc
import PearlReport.Proofs.Outcome

/-! What the tree of a text holds. Reading it as a document is taking its content and keeping the
last value of every key, as far as the nesting allows. -/

namespace PearlReport.Json

mutual
def Doc.content? : Doc → Option Value
  | .token _ (.whole a _) => some (.atom a)
  | .token _ (.flawed _ _) => none
  | .token _ (.cut _ _) => none
  | .array _ items => items.contents?.map .arr
  | .object _ members => members.contents?.map .obj
  | .absent _ _ => none
def Items.contents? : Items → Option (List Value)
  | .close _ => some []
  | .next d more => d.content?.bind fun v => more.contents?.map (v :: ·)
  | .cut _ => none
def Members.contents? : Members → Option (List (String × Value))
  | .close _ => some []
  | .next key _ d more =>
    key.toOption.bind fun k => d.content?.bind fun v => more.contents?.map ((k, v) :: ·)
  | .cut _ _ => none
end

/-- The content of a text in which one document stands and nothing else. -/
def content? (cs : List Char) : Option Value :=
  let d := Doc.parse cs
  d.content?.bind fun v => (d.onlyThen v).toOption

namespace Value

mutual
def depth : Value → Nat
  | .atom _ => 0
  | .arr vs => itemsDepth vs + 1
  | .obj ms => membersDepth ms + 1
def itemsDepth : List Value → Nat
  | [] => 0
  | v :: vs => max v.depth (itemsDepth vs)
def membersDepth : List (String × Value) → Nat
  | [] => 0
  | m :: ms => max m.2.depth (membersDepth ms)
end

mutual
/-- The same document where every key keeps its last value. -/
def gathered : Value → Value
  | .atom a => .atom a
  | .arr vs => .arr (gatheredItems vs)
  | .obj ms => .obj (gather (gatheredMembers ms))
def gatheredItems : List Value → List Value
  | [] => []
  | v :: vs => v.gathered :: gatheredItems vs
def gatheredMembers : List (String × Value) → List (String × Value)
  | [] => []
  | m :: ms => (m.1, m.2.gathered) :: gatheredMembers ms
end

mutual
/-- No object repeats a key. -/
def Distinct : Value → Prop
  | .atom _ => True
  | .arr vs => DistinctItems vs
  | .obj ms => (ms.map Prod.fst).Nodup ∧ DistinctMembers ms
def DistinctItems : List Value → Prop
  | [] => True
  | v :: vs => v.Distinct ∧ DistinctItems vs
def DistinctMembers : List (String × Value) → Prop
  | [] => True
  | m :: ms => m.2.Distinct ∧ DistinctMembers ms
end

theorem distinctItems_iff (vs : List Value) : DistinctItems vs ↔ ∀ v ∈ vs, v.Distinct := by
  induction vs with
  | nil => simp [DistinctItems]
  | cons v vs ih => simp [DistinctItems, ih]

theorem distinctMembers_iff (ms : List (String × Value)) :
    DistinctMembers ms ↔ ∀ m ∈ ms, m.2.Distinct := by
  induction ms with
  | nil => simp [DistinctMembers]
  | cons m ms ih => simp only [DistinctMembers, ih, List.forall_mem_cons]

theorem itemsDepth_le {n : Nat} (vs : List Value) :
    itemsDepth vs ≤ n ↔ ∀ v ∈ vs, v.depth ≤ n := by
  induction vs with
  | nil => simp [itemsDepth]
  | cons v vs ih => simp only [itemsDepth, Nat.max_le, ih, List.forall_mem_cons]

theorem membersDepth_le {n : Nat} (ms : List (String × Value)) :
    membersDepth ms ≤ n ↔ ∀ m ∈ ms, m.2.depth ≤ n := by
  induction ms with
  | nil => simp [membersDepth]
  | cons m ms ih => simp only [membersDepth, Nat.max_le, ih, List.forall_mem_cons]

end Value

theorem mem_putMember {α : Type} {ms : List (String × α)} {key : String} {a : α} {m : String × α}
    (h : m ∈ putMember ms key a) : m ∈ ms ∨ m = (key, a) := by
  induction ms with
  | nil =>
    rw [putMember, List.mem_singleton] at h
    exact .inr h
  | cons n rest ih =>
    rw [putMember] at h
    split at h
    · rcases List.mem_cons.1 h with h | h
      · exact .inr h
      · exact .inl (List.mem_cons_of_mem _ h)
    · rcases List.mem_cons.1 h with h | h
      · exact .inl (h ▸ List.mem_cons_self)
      · rcases ih h with h | h
        · exact .inl (List.mem_cons_of_mem _ h)
        · exact .inr h

theorem mem_foldl_putMember {α : Type} {ms kept : List (String × α)} {m : String × α}
    (h : m ∈ ms.foldl (fun kept m => putMember kept m.1 m.2) kept) : m ∈ kept ∨ m ∈ ms := by
  induction ms generalizing kept with
  | nil => exact .inl h
  | cons n ms ih =>
    rcases ih h with h | h
    · rcases mem_putMember h with h | h
      · exact .inl h
      · exact .inr (h ▸ List.mem_cons_self)
    · exact .inr (List.mem_cons_of_mem _ h)

theorem mem_gather {α : Type} {ms : List (String × α)} {m : String × α} (h : m ∈ gather ms) :
    m ∈ ms := by
  rcases mem_foldl_putMember h with h | h
  · cases h
  · exact h

theorem putMember_new {α : Type} {ms : List (String × α)} {key : String} (a : α)
    (h : key ∉ ms.map Prod.fst) : putMember ms key a = ms ++ [(key, a)] := by
  induction ms with
  | nil => rfl
  | cons m rest ih =>
    rw [List.map_cons, List.mem_cons, not_or] at h
    rw [putMember, if_neg (fun e => h.1 e.symm), ih h.2, List.cons_append]

theorem foldl_putMember_distinct {α : Type} (ms kept : List (String × α))
    (h : ((kept ++ ms).map Prod.fst).Nodup) :
    ms.foldl (fun kept m => putMember kept m.1 m.2) kept = kept ++ ms := by
  induction ms generalizing kept with
  | nil => rw [List.foldl_nil, List.append_nil]
  | cons m ms ih =>
    have hnew : m.1 ∉ kept.map Prod.fst := by
      intro hm
      rw [List.map_append, List.map_cons] at h
      exact (List.nodup_append.1 h).2.2 _ hm _ List.mem_cons_self rfl
    rw [List.append_cons] at h ⊢
    rw [List.foldl_cons, putMember_new m.2 hnew]
    exact ih _ h

theorem gather_distinct {α : Type} {ms : List (String × α)} (h : (ms.map Prod.fst).Nodup) :
    gather ms = ms :=
  foldl_putMember_distinct ms [] h

theorem lookup_cons_if {α : Type} (m : String × α) (ms : List (String × α)) (k : String) :
    (m :: ms).lookup k = if k = m.1 then some m.2 else ms.lookup k := by
  rw [List.lookup_cons]
  by_cases h : k = m.1
  · simp [h]
  · rw [beq_false_of_ne h, if_neg h]

theorem putMember_lookup {α : Type} (ms : List (String × α)) (key : String) (a : α) (k : String) :
    (putMember ms key a).lookup k = if k = key then some a else ms.lookup k := by
  induction ms with
  | nil => rw [putMember, lookup_cons_if]
  | cons m rest ih =>
    rw [putMember]
    split
    · rename_i h
      rw [lookup_cons_if, lookup_cons_if, h]
      by_cases hk : k = key
      · rw [if_pos hk, if_pos hk]
      · rw [if_neg hk, if_neg hk, if_neg hk]
    · rename_i h
      rw [lookup_cons_if, lookup_cons_if, ih]
      by_cases hk : k = key
      · subst hk
        rw [if_neg (Ne.symm h), if_pos rfl, if_pos rfl]
      · rw [if_neg hk, if_neg hk]

theorem gather_lookup {α : Type} (ms : List (String × α)) (k : String) :
    (gather ms).lookup k = ms.reverse.lookup k := by
  have hfold : ∀ kept : List (String × α),
      (ms.foldl (fun kept m => putMember kept m.1 m.2) kept).lookup k =
        (ms.reverse.lookup k).or (kept.lookup k) := by
    induction ms with
    | nil => exact fun kept => rfl
    | cons m ms ih =>
      intro kept
      rw [List.foldl_cons, ih, putMember_lookup, List.reverse_cons, List.lookup_append,
        lookup_cons_if, List.lookup_nil]
      cases ms.reverse.lookup k with
      | some a => rfl
      | none => by_cases hk : k = m.1 <;> simp [hk]
  rw [gather, hfold, List.lookup_nil, Option.or_none]

namespace Value

mutual
theorem gathered_distinct : (v : Value) → v.gathered.Distinct
  | .atom _ => trivial
  | .arr vs => gatheredItems_distinct vs
  | .obj ms => by
    refine ⟨nodup_gather _, ?_⟩
    rw [distinctMembers_iff]
    intro m hm
    exact (distinctMembers_iff _).1 (gatheredMembers_distinct ms) m (mem_gather hm)
theorem gatheredItems_distinct : (vs : List Value) → DistinctItems (gatheredItems vs)
  | [] => trivial
  | v :: vs => ⟨v.gathered_distinct, gatheredItems_distinct vs⟩
theorem gatheredMembers_distinct :
    (ms : List (String × Value)) → DistinctMembers (gatheredMembers ms)
  | [] => trivial
  | (_, v) :: ms => ⟨v.gathered_distinct, gatheredMembers_distinct ms⟩
end

mutual
theorem gathered_of_distinct : {v : Value} → v.Distinct → v.gathered = v
  | .atom _, _ => rfl
  | .arr vs, h => by rw [gathered, gatheredItems_of_distinct h]
  | .obj ms, h => by rw [gathered, gatheredMembers_of_distinct h.2, gather_distinct h.1]
theorem gatheredItems_of_distinct : {vs : List Value} → DistinctItems vs → gatheredItems vs = vs
  | [], _ => rfl
  | v :: vs, h => by
    rw [gatheredItems, gathered_of_distinct h.1, gatheredItems_of_distinct h.2]
theorem gatheredMembers_of_distinct :
    {ms : List (String × Value)} → DistinctMembers ms → gatheredMembers ms = ms
  | [], _ => rfl
  | (k, v) :: ms, h => by
    rw [gatheredMembers, gathered_of_distinct h.1, gatheredMembers_of_distinct h.2]
end

end Value

mutual
theorem Doc.value_eq_ok : (d : Doc) → {levels : Nat} → {v : Value} →
    (d.value levels = .ok v ↔ ∃ w, d.content? = some w ∧ w.depth ≤ levels ∧ w.gathered = v)
  | .token _ (.whole a _), levels, v => by
    simp [Doc.value, Doc.content?, Value.depth, Value.gathered]
  | .token _ (.flawed _ _), _, _ => by simp [Doc.value, Doc.content?]
  | .token _ (.cut _ _), _, _ => by simp [Doc.value, Doc.content?]
  | .array start items, 0, v => by simp [Doc.value, Doc.content?, Value.depth]
  | .array start items, levels + 1, v => by
    rw [Doc.value, Doc.content?, Outcome.bind_eq_ok]
    simp only [items.values_eq_ok, Option.map_eq_some_iff]
    constructor
    · rintro ⟨_, ⟨ws, hws, hd, rfl⟩, he⟩
      cases he
      exact ⟨_, ⟨ws, hws, rfl⟩, Nat.succ_le_succ hd, rfl⟩
    · rintro ⟨_, ⟨ws, hws, rfl⟩, hd, rfl⟩
      exact ⟨_, ⟨ws, hws, Nat.le_of_succ_le_succ hd, rfl⟩, rfl⟩
  | .object start members, 0, v => by simp [Doc.value, Doc.content?, Value.depth]
  | .object start members, levels + 1, v => by
    rw [Doc.value, Doc.content?, Outcome.bind_eq_ok]
    simp only [members.values_eq_ok, Option.map_eq_some_iff]
    constructor
    · rintro ⟨_, ⟨ws, hws, hd, rfl⟩, he⟩
      cases he
      exact ⟨_, ⟨ws, hws, rfl⟩, Nat.succ_le_succ hd, rfl⟩
    · rintro ⟨_, ⟨ws, hws, rfl⟩, hd, rfl⟩
      exact ⟨_, ⟨ws, hws, Nat.le_of_succ_le_succ hd, rfl⟩, rfl⟩
  | .absent _ _, _, _ => by simp [Doc.value, Doc.content?]
theorem Items.values_eq_ok : (items : Items) → {levels : Nat} → {vs : List Value} →
    (items.values levels = .ok vs ↔
      ∃ ws, items.contents? = some ws ∧ Value.itemsDepth ws ≤ levels ∧
        Value.gatheredItems ws = vs)
  | .close _, levels, vs => by
    simp [Items.values, Items.contents?, Value.itemsDepth, Value.gatheredItems]
  | .next d more, levels, vs => by
    rw [Items.values, Items.contents?, Outcome.bind_eq_ok]
    simp only [Outcome.bind_eq_ok, d.value_eq_ok, more.values_eq_ok, Option.bind_eq_some_iff,
      Option.map_eq_some_iff]
    constructor
    · rintro ⟨_, ⟨w, hw, hd, rfl⟩, _, ⟨ws, hws, hds, rfl⟩, he⟩
      cases he
      exact ⟨w :: ws, ⟨w, hw, ws, hws, rfl⟩, Nat.max_le.2 ⟨hd, hds⟩, rfl⟩
    · rintro ⟨_, ⟨w, hw, ws, hws, rfl⟩, hd, rfl⟩
      obtain ⟨hd, hds⟩ := Nat.max_le.1 hd
      exact ⟨_, ⟨w, hw, hd, rfl⟩, _, ⟨ws, hws, hds, rfl⟩, rfl⟩
  | .cut _, _, _ => by simp [Items.values, Items.contents?]
theorem Members.values_eq_ok : (members : Members) → {levels : Nat} →
    {ms : List (String × Value)} →
    (members.values levels = .ok ms ↔
      ∃ ws, members.contents? = some ws ∧ Value.membersDepth ws ≤ levels ∧
        Value.gatheredMembers ws = ms)
  | .close _, levels, ms => by
    simp [Members.values, Members.contents?, Value.membersDepth, Value.gatheredMembers]
  | .next key _ d more, levels, ms => by
    rw [Members.values, Members.contents?, Outcome.bind_eq_ok]
    simp only [Outcome.bind_eq_ok, d.value_eq_ok, more.values_eq_ok, Option.bind_eq_some_iff,
      Option.map_eq_some_iff, Outcome.toOption_eq_some]
    constructor
    · rintro ⟨k, hk, _, ⟨w, hw, hd, rfl⟩, _, ⟨ws, hws, hds, rfl⟩, he⟩
      cases he
      exact ⟨(k, w) :: ws, ⟨k, hk, w, hw, ws, hws, rfl⟩, Nat.max_le.2 ⟨hd, hds⟩, rfl⟩
    · rintro ⟨_, ⟨k, hk, w, hw, ws, hws, rfl⟩, hd, rfl⟩
      obtain ⟨hd, hds⟩ := Nat.max_le.1 hd
      exact ⟨k, hk, _, ⟨w, hw, hd, rfl⟩, _, ⟨ws, hws, hds, rfl⟩, rfl⟩
  | .cut _ _, _, _ => by simp [Members.values, Members.contents?]
end

theorem Doc.onlyThen_eq_ok {α : Type} {d : Doc} {a b : α} :
    d.onlyThen a = .ok b ↔ a = b ∧ ∃ rest, d.skip = .ok rest ∧ skipSpace rest = [] := by
  rw [Doc.onlyThen, Outcome.bind_eq_ok]
  constructor
  · rintro ⟨rest, hr, h⟩
    split at h
    · rename_i hs
      cases h
      exact ⟨rfl, rest, hr, hs⟩
    · cases h
  · rintro ⟨rfl, rest, hr, hs⟩
    exact ⟨rest, hr, by rw [hs]⟩

theorem Value.parse_eq_ok {text : String} {v : Value} :
    Value.parse text = .ok v ↔
      ∃ w, Json.content? text.toList = some w ∧ w.depth ≤ maxLevels ∧ w.gathered = v := by
  rw [← Outcome.toOption_eq_some, Value.parse]
  simp only [Outcome.toOption_mapError, Outcome.toOption_eq_some, Outcome.bind_eq_ok,
    Doc.value_eq_ok, Doc.onlyThen_eq_ok, Json.content?, Option.bind_eq_some_iff]
  constructor
  · rintro ⟨_, ⟨w, hw, hd, rfl⟩, rfl, hend⟩
    exact ⟨w, ⟨w, hw, rfl, hend⟩, hd, rfl⟩
  · rintro ⟨_, ⟨w, hw, rfl, hend⟩, hd, rfl⟩
    exact ⟨_, ⟨w, hw, hd, rfl⟩, rfl, hend⟩

theorem Value.parse_distinct {text : String} {v : Value} (h : Value.parse text = .ok v) :
    v.Distinct := by
  obtain ⟨w, -, -, rfl⟩ := Value.parse_eq_ok.1 h
  exact w.gathered_distinct

end PearlReport.Json
