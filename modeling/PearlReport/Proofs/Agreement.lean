import PearlReport.Proofs.Placement
import PearlReport.Shape.Text

/-! The two ways of reading a value. Where a tree holds a document in which no object repeats a
key, reading a shape from the tree and reading it from the document succeed together and give the
same value. -/

namespace PearlReport

open Json

namespace Json

mutual
/-- The tree holds the document, with containers nested at most `levels` deep. -/
inductive Doc.Holds : (levels : Nat) → Doc → Value → Prop where
  | token {levels : Nat} {start stop : Rest} {a : Atom} :
      Doc.Holds levels (.token start (.whole a stop)) (.atom a)
  | array {levels : Nat} {start : Rest} {items : Items} {vs : List Value} :
      Items.Holds levels items vs → Doc.Holds (levels + 1) (.array start items) (.arr vs)
  | object {levels : Nat} {start : Rest} {members : Members} {ms : List (String × Value)} :
      Members.Holds levels members ms → (ms.map Prod.fst).Nodup →
      Doc.Holds (levels + 1) (.object start members) (.obj ms)
inductive Items.Holds : (levels : Nat) → Items → List Value → Prop where
  | close {levels : Nat} {here : Rest} : Items.Holds levels (.close here) []
  | next {levels : Nat} {d : Doc} {v : Value} {more : Items} {vs : List Value} :
      Doc.Holds levels d v → Items.Holds levels more vs →
      Items.Holds levels (.next d more) (v :: vs)
inductive Members.Holds : (levels : Nat) → Members → List (String × Value) → Prop where
  | close {levels : Nat} {here : Rest} : Members.Holds levels (.close here) []
  | next {levels : Nat} {key : String} {after : Rest} {d : Doc} {v : Value} {more : Members}
      {ms : List (String × Value)} :
      Doc.Holds levels d v → Members.Holds levels more ms →
      (∀ rest, d.skip = .ok rest → more.Follows rest) →
      Members.Holds levels (.next (.ok key) after d more) ((key, v) :: ms)
end

mutual
theorem Doc.holds_of_content (levels : Nat) (v : Value) : (d : Doc) →
    d.content? = some v → d.Placed → v.Distinct → v.depth ≤ levels → d.Holds levels v
  | .token _ t, hc, _, _, _ => by
    cases t with
    | whole a stop =>
      cases hc
      exact .token
    | flawed fault stop => cases hc
    | cut read skip => cases hc
  | .array _ items, hc, hp, hd, hn => by
    obtain ⟨vs, hvs, rfl⟩ := Option.map_eq_some_iff.1 hc
    obtain ⟨levels, rfl⟩ : ∃ l, levels = l + 1 := ⟨levels - 1, by rw [Value.depth] at hn; omega⟩
    exact .array (Items.holds_of_contents levels vs items hvs hp hd (Nat.le_of_succ_le_succ hn))
  | .object _ members, hc, hp, hd, hn => by
    obtain ⟨ms, hms, rfl⟩ := Option.map_eq_some_iff.1 hc
    obtain ⟨levels, rfl⟩ : ∃ l, levels = l + 1 := ⟨levels - 1, by rw [Value.depth] at hn; omega⟩
    exact .object (Members.holds_of_contents levels ms members hms hp hd.2
      (Nat.le_of_succ_le_succ hn)) hd.1
  | .absent _ _, hc, _, _, _ => nomatch hc
theorem Items.holds_of_contents (levels : Nat) (vs : List Value) : (items : Items) →
    items.contents? = some vs → items.Placed → Value.DistinctItems vs →
    Value.itemsDepth vs ≤ levels → items.Holds levels vs
  | .close _, hc, _, _, _ => by
    cases hc
    exact .close
  | .next d more, hc, hp, hd, hn => by
    rw [Items.contents?] at hc
    simp only [Option.bind_eq_some_iff, Option.map_eq_some_iff] at hc
    obtain ⟨v, hv, vs, hvs, rfl⟩ := hc
    obtain ⟨hn, hns⟩ := Nat.max_le.1 hn
    exact .next (Doc.holds_of_content levels v d hv hp.1 hd.1 hn)
      (Items.holds_of_contents levels vs more hvs hp.2 hd.2 hns)
  | .cut _, hc, _, _, _ => nomatch hc
theorem Members.holds_of_contents (levels : Nat) (ms : List (String × Value)) :
    (members : Members) → members.contents? = some ms → members.Placed →
    Value.DistinctMembers ms → Value.membersDepth ms ≤ levels → members.Holds levels ms
  | .close _, hc, _, _, _ => by
    cases hc
    exact .close
  | .next key _ d more, hc, hp, hd, hn => by
    rw [Members.contents?] at hc
    simp only [Option.bind_eq_some_iff, Option.map_eq_some_iff, Outcome.toOption_eq_some] at hc
    obtain ⟨k, rfl, v, hv, ms, hms, rfl⟩ := hc
    obtain ⟨hn, hns⟩ := Nat.max_le.1 hn
    exact .next (Doc.holds_of_content levels v d hv hp.1 hd.1 hn)
      (Members.holds_of_contents levels ms more hms hp.2.1 hd.2 hns) hp.2.2
  | .cut _ _, hc, _, _, _ => nomatch hc
end

mutual
theorem Doc.Holds.skip : {d : Doc} → {levels : Nat} → {v : Value} → d.Holds levels v →
    ∃ rest, d.skip = .ok rest
  | .token _ _, _, _, .token => ⟨_, rfl⟩
  | .array _ _, _, _, .array h => h.skip
  | .object _ _, _, _, .object h _ => h.skip
theorem Items.Holds.skip : {items : Items} → {levels : Nat} → {vs : List Value} →
    items.Holds levels vs → ∃ rest, items.skip = .ok rest
  | .close _, _, _, .close => ⟨_, rfl⟩
  | .next _ _, _, _, .next hd hs => by
    obtain ⟨_, h⟩ := hd.skip
    rw [Items.skip, h]
    exact hs.skip
theorem Members.Holds.skip : {members : Members} → {levels : Nat} →
    {ms : List (String × Value)} → members.Holds levels ms → ∃ rest, members.skip = .ok rest
  | .close _, _, _, .close => ⟨_, rfl⟩
  | .next _ _ _ _, _, _, .next hd hs _ => by
    obtain ⟨_, h⟩ := hd.skip
    rw [Members.skip, h]
    exact hs.skip
end

mutual
theorem Doc.Holds.value : {d : Doc} → {levels : Nat} → {v : Value} → d.Holds levels v →
    d.value levels = .ok v
  | .token _ _, _, _, .token => rfl
  | .array _ _, _, _, .array h => by rw [Doc.value, h.values]; rfl
  | .object _ _, _, _, .object h hk => by
    rw [Doc.value, h.values, Outcome.ok_bind, gather_distinct hk]
theorem Items.Holds.values : {items : Items} → {levels : Nat} → {vs : List Value} →
    items.Holds levels vs → items.values levels = .ok vs
  | .close _, _, _, .close => rfl
  | .next _ _, _, _, .next hd hs => by rw [Items.values, hd.value, hs.values]; rfl
theorem Members.Holds.values : {members : Members} → {levels : Nat} →
    {ms : List (String × Value)} → members.Holds levels ms → members.values levels = .ok ms
  | .close _, _, _, .close => rfl
  | .next _ _ _ _, _, _, .next hd hs _ => by rw [Members.values, hd.value, hs.values]; rfl
end

mutual
theorem Doc.Holds.content : {d : Doc} → {levels : Nat} → {v : Value} → d.Holds levels v →
    d.content? = some v
  | .token _ _, _, _, .token => rfl
  | .array _ _, _, _, .array h => by rw [Doc.content?, h.contents]; rfl
  | .object _ _, _, _, .object h _ => by rw [Doc.content?, h.contents]; rfl
theorem Items.Holds.contents : {items : Items} → {levels : Nat} → {vs : List Value} →
    items.Holds levels vs → items.contents? = some vs
  | .close _, _, _, .close => rfl
  | .next _ _, _, _, .next hd hs => by rw [Items.contents?, hd.content, hs.contents]; rfl
theorem Members.Holds.contents : {members : Members} → {levels : Nat} →
    {ms : List (String × Value)} → members.Holds levels ms → members.contents? = some ms
  | .close _, _, _, .close => rfl
  | .next _ _ _ _, _, _, .next hd hs _ => by
    rw [Members.contents?, hd.content, hs.contents]; rfl
end

theorem Items.finish_toOption (items : Items) :
    items.finish.toOption = items.contents?.bind fun vs => if vs.isEmpty then some () else none := by
  cases items with
  | close here => rfl
  | next d more =>
    rw [Items.contents?]
    cases d.content? with
    | none => rfl
    | some v => cases more.contents? <;> rfl
  | cut here => rfl

section

variable {α σ : Type} {levels : Nat} {read : Doc → Except Fault α} {read' : Value → Except Cause α}

theorem Items.readAll_agrees
    (h : ∀ d v, d.Holds levels v → (read d).toOption = (read' v).toOption) :
    (items : Items) → {vs : List Value} → items.Holds levels vs →
      (items.readAll read).toOption = (vs.mapM read').toOption
  | .close _, _, .close => by
    rw [Items.readAll, List.mapM_nil]
    rfl
  | .next d more, _, .next hd hs => by
    rw [Items.readAll, List.mapM_cons]
    simp only [Outcome.toOption_bind, h d _ hd, Items.readAll_agrees h more hs]
    rfl

theorem Members.readAll_agrees
    (h : ∀ d v, d.Holds levels v → (read d).toOption = (read' v).toOption) :
    (members : Members) → {ms : List (String × Value)} → members.Holds levels ms →
      (members.readAll read).toOption =
        (ms.mapM fun m => (m.1, ·) <$> read' m.2).toOption
  | .close _, _, .close => by
    rw [Members.readAll, List.mapM_nil]
    rfl
  | .next _ _ d more, _, .next hd hs _ => by
    rw [Members.readAll, List.mapM_cons]
    simp only [Outcome.ok_bind, Outcome.toOption_bind, Outcome.toOption_map, h d _ hd,
      Members.readAll_agrees h more hs, Option.bind_map]
    rfl

theorem Members.foldM_agrees (step : String → Rest → Doc → σ → Except Fault σ)
    (step' : σ → String × Value → Except Cause σ)
    (h : ∀ key after d v s, d.Holds levels v →
      (step key after d s).toOption = (step' s (key, v)).toOption) :
    (members : Members) → {ms : List (String × Value)} → members.Holds levels ms → (s : σ) →
      (members.foldM step s).toOption.map Prod.fst = (ms.foldlM step' s).toOption
  | .close _, _, .close, s => rfl
  | .next _ after d more, _, .next hd hs _, s => by
    rw [Members.foldM, List.foldlM_cons]
    simp only [Outcome.ok_bind, Outcome.toOption_bind, h _ after d _ s hd, Option.map_bind]
    congr 1
    funext s
    exact Members.foldM_agrees step step' h more hs s

end

end Json

theorem Leaf.read_container {α : Type} (l : Leaf α) :
    (l.read .sequence).toOption = none ∧ (l.read .map).toOption = none := by
  cases l <;> exact ⟨rfl, rfl⟩

theorem Leaf.nothing_read {v : Value} (h : v ≠ .null) :
    (Leaf.nothing.read v.found).toOption = none := by
  cases v with
  | atom a =>
    cases a with
    | null => exact absurd rfl h
    | bool b => rfl
    | num n => rfl
    | str s => rfl
  | arr vs => rfl
  | obj ms => rfl

theorem Leaf.ofDoc_agrees {α : Type} (l : Leaf α) {levels : Nat} {d : Doc} {v : Value}
    (h : d.Holds levels v) : (l.ofDoc d).toOption = (l.read v.found).toOption := by
  cases h with
  | token =>
    rename_i start stop a
    rw [Leaf.ofDoc, Leaf.ofToken, Value.found]
    split
    · rename_i h
      rw [h]
      rfl
    · rename_i h
      rw [h]
      rfl
    · rename_i h
      rw [h]
      rfl
  | array => exact l.read_container.1.symm
  | object => exact l.read_container.2.symm

namespace Vocabulary

variable {α : Type}

theorem closeAfter_null {levels : Nat} {a : α} {start stop : Rest} {more : Members}
    {ms : List (String × Value)} (hm : more.Holds levels ms) (hf : more.Follows stop) :
    (closeAfter a (.token start (.whole .null stop))).toOption =
      if ms = [] then some a else none := by
  rw [closeAfter]
  cases hm with
  | close =>
    obtain ⟨after, h⟩ := hf
    rw [h]
    rfl
  | next =>
    split
    · rename_i h
      exact absurd h (hf _)
    · rfl
    · rfl

theorem closeAfter_other {levels : Nat} {a : α} {d : Doc} {v : Value} (hd : d.Holds levels v)
    (hv : v ≠ .null) : (closeAfter a d).toOption = none := by
  rw [closeAfter.eq_def]
  split
  · cases hd
    exact absurd rfl hv
  · rfl

theorem ofValue_many (v : Vocabulary α) (m n : String × Value) (ms : List (String × Value)) :
    v.ofValue (.obj (m :: n :: ms)) = .error (.wrongValue .map "map with a single key") := rfl

theorem ofMembers_agrees (v : Vocabulary α) {levels : Nat} {members : Members}
    {ms : List (String × Value)} (h : members.Holds levels ms) :
    (v.ofMembers members).toOption = (v.ofValue (.obj ms)).toOption := by
  cases h with
  | close => rfl
  | next hd hm hf =>
    rename_i word after d u more ms
    rw [ofMembers]
    simp only [Outcome.ok_bind, Outcome.toOption_bind, findAt, Outcome.toOption_mapError]
    by_cases hu : u = .null
    · subst hu
      cases hd with
      | token =>
        simp only [closeAfter_null hm (hf _ rfl)]
        cases ms with
        | nil =>
          rw [ofValue]
          cases v.find word <;> rfl
        | cons m ms =>
          rw [ofValue_many]
          cases v.find word <;> rfl
    · simp only [closeAfter_other hd hu]
      cases ms with
      | nil =>
        rw [ofValue]
        simp only [Outcome.toOption_bind, Leaf.nothing_read hu]
        cases v.find word <;> rfl
      | cons m ms =>
        rw [ofValue_many]
        cases v.find word <;> rfl

theorem ofDoc_agrees (v : Vocabulary α) {levels : Nat} {d : Doc} {u : Value}
    (h : d.Holds levels u) : (v.ofDoc levels d).toOption = (v.ofValue u).toOption := by
  cases h with
  | token =>
    rename_i start stop a
    cases a with
    | str word =>
      rw [ofDoc, findAt, Outcome.toOption_mapError]
      rfl
    | null => rfl
    | bool b => rfl
    | num n => rfl
  | array => rfl
  | object hm hk =>
    rw [ofDoc, Doc.enter]
    exact v.ofMembers_agrees hm

end Vocabulary

theorem ofItems_cons {α β : Type} {x : Except Fault (β × Items)}
    {y : Except Cause (β × List Value)}
    (h : x.toOption.map (fun p => (p.1, p.2.contents?)) =
      y.toOption.map fun p => (p.1, some p.2)) (a : α) :
    (x >>= fun p => .ok ((a, p.1), p.2)).toOption.map (fun p => (p.1, p.2.contents?)) =
      (y >>= fun p => .ok ((a, p.1), p.2)).toOption.map fun p => (p.1, some p.2) := by
  cases x with
  | error e =>
    cases y with
    | error e' => rfl
    | ok q => cases h
  | ok p =>
    cases y with
    | error e' => cases h
    | ok q =>
      simp only [Outcome.toOption_ok, Option.map_some, Option.some.injEq, Prod.mk.injEq] at h
      simp only [Outcome.ok_bind, Outcome.toOption_ok, Option.map_some, h]

mutual
theorem Shape.ofDoc_agrees {α : Type} : (s : Shape α) → {levels : Nat} → {d : Doc} →
    {v : Value} → d.Holds levels v → (s.ofDoc levels d).toOption = (s.ofValue v).toOption
  | .leaf l, _, _, _, h => l.ofDoc_agrees h
  | .word w, _, _, _, h => w.ofDoc_agrees h
  | .any, levels, d, v, h => by
    rw [Shape.ofDoc, h.value]
    rfl
  | .option s, levels, d, v, h => by
    -- null is looked for in the tree and in the document before the shape inside is asked
    by_cases hv : v = .null
    · subst hv
      cases h with
      | token => rfl
    · have hd : (Shape.option s).ofDoc levels d = some <$> s.ofDoc levels d := by
        cases h with
        | token =>
          rename_i start stop a
          cases a with
          | null => exact absurd rfl hv
          | bool b => rfl
          | num n => rfl
          | str t => rfl
        | array => rfl
        | object => rfl
      have hw : (Shape.option s).ofValue v = some <$> s.ofValue v := by
        rw [Shape.ofValue]
        exact hv
      rw [hd, hw, Outcome.toOption_map, Outcome.toOption_map, s.ofDoc_agrees h]
  | .list s, levels, d, v, h => by
    cases h with
    | token => rfl
    | array h =>
      rename_i levels start items vs
      have hs := items.readAll_agrees (fun d v hd => s.ofDoc_agrees hd) h
      rw [Shape.ofDoc, Shape.ofValue, Doc.enter, Outcome.toOption_mapError, hs]
      rfl
    | object => rfl
  | .dict s, levels, d, v, h => by
    cases h with
    | token => rfl
    | array => rfl
    | object h hk =>
      rename_i levels start members ms
      have hs := members.readAll_agrees (fun d v hd => s.ofDoc_agrees hd) h
      rw [Shape.ofDoc, Shape.ofValue, Doc.enter, Outcome.toOption_map, Outcome.toOption_mapError,
        hs]
      simp only [Value.members, Outcome.ok_bind, Outcome.toOption_bind]
      rw [Option.map_eq_bind]
      rfl
  | .record name fields p, levels, d, v, h => by
    cases h with
    | token => rfl
    | array h =>
      -- a record may be read from a list of its fields; what is left of the list is judged last
      rename_i levels start items vs
      have hi := fields.ofItems_agrees (recordLength name fields.count) 0 h
      have hdoc : ((Shape.record name fields p).ofDoc (levels + 1) (.array start items)).toOption =
          ((fields.ofItems levels (recordLength name fields.count) 0 items).toOption.map
            fun q => (q.1, q.2.contents?)).bind fun q => (q.2.bind fun vs =>
              if vs.isEmpty then some () else none).bind fun _ => some (p.make q.1) := by
        rw [Shape.ofDoc, Doc.enter]
        simp only [Outcome.toOption_bind, Outcome.toOption_mapError, Items.finish_toOption,
          Outcome.toOption_ok, Option.bind_map]
        rfl
      rw [hdoc, hi, Shape.ofValue]
      cases fields.ofValues (recordLength name fields.count) 0 vs with
      | error e => rfl
      | ok q =>
        obtain ⟨b, left⟩ := q
        cases left <;> rfl
    | object h hk =>
      rename_i levels start members ms
      have hs := Members.foldM_agrees (fields.fillDoc levels)
        (fun slots m => fields.fillValue m.1 m.2 slots)
        (fun key after d v slots hd => fields.fillDoc_agrees hd slots) members h
        fields.empty
      have hdoc : ((Shape.record name fields p).ofDoc (levels + 1) (.object start members)).toOption =
          ((members.foldM (fields.fillDoc levels) fields.empty).toOption.map Prod.fst).bind
            fun slots => (fields.finish slots).toOption.map p.make := by
        rw [Shape.ofDoc, Doc.enter]
        simp only [Outcome.toOption_bind, Outcome.toOption_mapError, Outcome.toOption_map,
          Option.bind_map, Option.map_bind]
        rfl
      rw [hdoc, hs, Shape.ofValue]
      simp only [Outcome.toOption_bind, Outcome.toOption_map]
theorem Fields.fillDoc_agrees {β σ : Type} : (fields : Fields β σ) → {levels : Nat} →
    {key : String} → {after : Rest} → {d : Doc} → {v : Value} → d.Holds levels v → (slots : σ) →
    (fields.fillDoc levels key after d slots).toOption = (fields.fillValue key v slots).toOption
  | .nil, _, _, _, _, _, h, _ => by
    obtain ⟨_, hs⟩ := h.skip
    rw [Fields.fillDoc, hs]
    rfl
  | .cons f s more, levels, key, after, d, v, h, (slot, slots) => by
    simp only [Fields.fillDoc, Fields.fillValue]
    split
    · cases slot with
      | some _ => rfl
      | none => simp only [Outcome.toOption_map, s.ofDoc_agrees h]
    · simp only [Outcome.toOption_map, more.fillDoc_agrees h slots]
theorem Fields.ofItems_agrees {β σ : Type} : (fields : Fields β σ) → {levels : Nat} →
    (wanted : String) → (index : Nat) → {items : Items} → {vs : List Value} →
    items.Holds levels vs →
    (fields.ofItems levels wanted index items).toOption.map (fun p => (p.1, p.2.contents?)) =
      (fields.ofValues wanted index vs).toOption.map fun p => (p.1, some p.2)
  | .nil, _, _, _, items, vs, h => by
    simp only [Fields.ofItems, Fields.ofValues, Outcome.toOption_ok, Option.map_some, h.contents]
  | .cons f s more, levels, wanted, index, items, vs, h => by
    cases h with
    | close =>
      rename_i here
      have hr := more.ofItems_agrees wanted (index + 1) (.close : Items.Holds levels (.close here) [])
      rw [Fields.ofItems, Fields.ofValues]
      cases f.fallback with
      | none => rfl
      | some a => exact ofItems_cons hr a
    | next hd hs =>
      rename_i d v rest vs
      have hr := more.ofItems_agrees wanted (index + 1) hs
      rw [Fields.ofItems, Fields.ofValues]
      simp only [Outcome.toOption_bind (s.ofDoc levels d), Outcome.toOption_bind (s.ofValue v),
        s.ofDoc_agrees hd, Option.map_bind]
      congr 1
      funext a
      exact ofItems_cons hr a
end

theorem Shape.parse_agrees {α : Type} (s : Shape α) {text : String} {v : Value}
    (hc : content? text.toList = some v) (hd : v.Distinct) (hn : v.depth ≤ maxLevels) :
    (s.parse text).toOption = (s.ofValue v).toOption := by
  rw [content?] at hc
  simp only [Option.bind_eq_some_iff, Outcome.toOption_eq_some, Doc.onlyThen_eq_ok] at hc
  obtain ⟨_, hdoc, rfl, hend⟩ := hc
  have hholds := Doc.holds_of_content maxLevels _ _ hdoc (Doc.parse_placed _) hd hn
  rw [Shape.parse, Outcome.toOption_mapError, Outcome.toOption_bind, s.ofDoc_agrees hholds]
  cases s.ofValue _ with
  | error e => rfl
  | ok a => exact Outcome.toOption_eq_some.2 (Doc.onlyThen_eq_ok.2 ⟨rfl, hend⟩)

theorem Shape.parse_atom {α : Type} (s : Shape α) {text : String} {a : Atom}
    (h : Value.parse text = .ok (.atom a)) :
    (s.parse text).toOption = (s.ofValue (.atom a)).toOption := by
  obtain ⟨w, hw, hn, hg⟩ := Value.parse_eq_ok.1 h
  cases w with
  | atom b =>
    cases hg
    exact s.parse_agrees hw trivial hn
  | arr vs => cases hg
  | obj ms => cases hg

end PearlReport
