import PearlReport.Proofs.Refusal
import PearlReport.Proofs.Session

/-! Spellings of a document. Two documents that differ in what the appliance is free to choose, such as
the order of members or the letter case of an identifier, are read alike, so that every reading command
tells the same of both. -/

namespace PearlReport

open Json

inductive Fields.At : {α β σ : Type} → Fields β σ → Nat → Field α → Shape α → Prop
  | head {α β σ : Type} {f : Field α} {s : Shape α} {more : Fields β σ} :
      At (.cons f s more) 0 f s
  | tail {α β γ σ : Type} {f : Field α} {s : Shape α} {g : Field γ} {t : Shape γ}
      {more : Fields β σ} {n : Nat} : At more n f s → At (.cons g t more) (n + 1) f s

/-- The least equivalence of documents under which these do not matter, wherever a record is read from
an object: the order of members, members of no field, whether an option is absent or null, the spelling
of an identifier, and which word stands for an unlisted one. At the top no member may be added with a
key from `reserved`. -/
inductive Shape.Respelled : {α : Type} → Shape α → List String → Value → Value → Prop
  | refl {α : Type} (s : Shape α) (reserved : List String) (v : Value) : Respelled s reserved v v
  | symm {α : Type} {s : Shape α} {reserved : List String} {v v' : Value} :
      Respelled s reserved v v' → Respelled s reserved v' v
  | trans {α : Type} {s : Shape α} {reserved : List String} {v₁ v₂ v₃ : Value} :
      Respelled s reserved v₁ v₂ → Respelled s reserved v₂ v₃ → Respelled s reserved v₁ v₃
  | order {α β σ : Type} {name : String} {fields : Fields β σ} {p : Parts α β}
      {reserved : List String} {ms ms' : List (String × Value)} :
      (ms.map Prod.fst).Nodup → ms.Perm ms' →
      Respelled (.record name fields p) reserved (.obj ms) (.obj ms')
  | extra {α β σ : Type} {name : String} {fields : Fields β σ} {p : Parts α β}
      {reserved : List String} {key : String} {ms : List (String × Value)} :
      (key :: ms.map Prod.fst).Nodup → key ∉ fields.keys → key ∉ reserved → (v : Value) →
      Respelled (.record name fields p) reserved (.obj ms) (.obj ((key, v) :: ms))
  | absent {α β γ σ : Type} {name : String} {fields : Fields β σ} {p : Parts α β}
      {reserved : List String} {n : Nat} {f : Field (Option γ)} {s : Shape γ}
      {ms : List (String × Value)} :
      fields.At n f (.option s) → (f.key :: ms.map Prod.fst).Nodup →
      Respelled (.record name fields p) reserved (.obj ms) (.obj ((f.key, .null) :: ms))
  | uuid {reserved : List String} {t t' : String} {u : Uuid} :
      Uuid.ofText? t.toList = some u → Uuid.ofText? t'.toList = some u →
      Respelled .uuid reserved (.str t) (.str t')
  | word {α : Type} {w : Vocabulary α} {reserved : List String} {t t' : String} :
      t ∉ w.names → t' ∉ w.names → Respelled (.word w) reserved (.str t) (.str t')
  | wordKey {α : Type} {w : Vocabulary α} {reserved : List String} {t t' : String} {v : Value} :
      t ∉ w.names → t' ∉ w.names →
      Respelled (.word w) reserved (.obj [(t, v)]) (.obj [(t', v)])
  -- any of these in a part of the document
  | member {α β γ σ : Type} {name : String} {fields : Fields β σ} {p : Parts α β}
      {reserved : List String} {n : Nat} {f : Field γ} {s : Shape γ} {v v' : Value}
      {ms : List (String × Value)} :
      fields.At n f s → (f.key :: ms.map Prod.fst).Nodup → Respelled s [] v v' →
      Respelled (.record name fields p) reserved (.obj ((f.key, v) :: ms)) (.obj ((f.key, v') :: ms))
  | element {α β γ σ : Type} {name : String} {fields : Fields β σ} {p : Parts α β}
      {reserved : List String} {f : Field γ} {s : Shape γ} {v v' : Value} {before after : List Value} :
      fields.At before.length f s → Respelled s [] v v' →
      Respelled (.record name fields p) reserved (.arr (before ++ v :: after))
        (.arr (before ++ v' :: after))
  | item {α : Type} {s : Shape α} {reserved : List String} {v v' : Value}
      {before after : List Value} : Respelled s [] v v' →
      Respelled (.list s) reserved (.arr (before ++ v :: after)) (.arr (before ++ v' :: after))
  | option {α : Type} {s : Shape α} {reserved : List String} {v v' : Value} :
      Respelled s reserved v v' → Respelled (.option s) reserved v v'

/-- An option that is absent is read as none, as it is from null. -/
def Field.lenient : {α : Type} → Field α → Shape α → Bool
  | _, f, .option _ => (f.fallback.getD none).isNone
  | _, _, _ => true

mutual
def Shape.lenient {α : Type} : Shape α → Bool
  | .leaf _ | .word _ | .any => true
  | .option s => s.lenient
  | .list s => s.lenient
  | .dict s => s.lenient
  | .record _ fields _ => decide fields.keys.Nodup && fields.lenient
def Fields.lenient {β σ : Type} : Fields β σ → Bool
  | .nil => true
  | .cons f s more => f.lenient s && s.lenient && more.lenient
end

theorem Query.reader_lenient (q : Query) : q.reader.shape.lenient = true := by
  cases q <;> decide

namespace Fields.At

variable {α β σ : Type} {fields : Fields β σ} {n : Nat} {f : Field α} {s : Shape α}

theorem mem_keys (h : fields.At n f s) : f.key ∈ fields.keys := by
  induction h with
  | head => exact List.mem_cons_self
  | tail _ ih => exact List.mem_cons_of_mem _ ih

theorem lenient (h : fields.At n f s) (hs : fields.lenient = true) :
    f.lenient s = true ∧ s.lenient = true := by
  induction h with
  | head =>
    simp only [Fields.lenient, Bool.and_eq_true] at hs
    exact hs.1
  | tail _ ih =>
    simp only [Fields.lenient, Bool.and_eq_true] at hs
    exact ih hs.2

theorem lookups_eq (h : fields.At n f s) (hk : fields.keys.Nodup) {ms ms' : List (String × Value)}
    (hf : f.lookup s ms' = f.lookup s ms)
    (hother : ∀ key, key ≠ f.key → ms'.lookup key = ms.lookup key) :
    fields.lookups ms' = fields.lookups ms := by
  induction h with
  | head =>
    rw [Fields.keys, List.nodup_cons] at hk
    rw [Fields.lookups, Fields.lookups, hf, Fields.lookups_congr]
    intro key hkey
    apply hother
    rintro rfl
    exact hk.1 hkey
  | tail h ih =>
    rw [Fields.keys, List.nodup_cons] at hk
    rw [Fields.lookups, Fields.lookups, ih hk.2 hf hother, Field.lookup, Field.lookup, hother]
    intro hkey
    apply hk.1
    rw [hkey]
    exact h.mem_keys

theorem ofValues_toOption (h : fields.At n f s) {v v' : Value}
    (hv : (s.ofValue v').toOption = (s.ofValue v).toOption) (wanted : String) (index : Nat)
    {before : List Value} (hn : before.length = n) (after : List Value) :
    (fields.ofValues wanted index (before ++ v' :: after)).toOption =
      (fields.ofValues wanted index (before ++ v :: after)).toOption := by
  induction h generalizing index before with
  | head =>
    cases List.length_eq_zero_iff.1 hn
    simp only [List.nil_append, Fields.ofValues, Outcome.toOption_bind, hv]
  | tail h ih =>
    cases before with
    | nil => cases hn
    | cons u before =>
      have hrest := ih hv (index + 1) (Nat.succ.inj hn)
      simp only [List.cons_append, Fields.ofValues, Outcome.toOption_bind, hrest]

end Fields.At

theorem Uuid.read_of_ofText? {t : String} {u : Uuid} (h : Uuid.ofText? t.toList = some u) :
    Uuid.read t = .ok u := by
  rw [Uuid.read, h]

theorem Outcome.toOption_mapM_congr {ε α β : Type} {f : α → Except ε β} {a a' : α}
    (h : (f a').toOption = (f a).toOption) (before after : List α) :
    ((before ++ a' :: after).mapM f).toOption = ((before ++ a :: after).mapM f).toOption := by
  simp only [List.mapM_append, List.mapM_cons, toOption_bind, h]

namespace Shape

variable {α β γ σ : Type} {name : String} {fields : Fields β σ} {p : Parts α β}
variable {ms ms' : List (String × Value)} {v v' : Value} {n : Nat}

theorem lenient_record : (Shape.record name fields p).lenient = true ↔
    fields.keys.Nodup ∧ fields.lenient = true := by
  simp only [lenient, Bool.and_eq_true, decide_eq_true_eq]

theorem record_congr (hk : fields.keys.Nodup) (hms : (ms.map Prod.fst).Nodup)
    (hms' : (ms'.map Prod.fst).Nodup) (h : fields.lookups ms' = fields.lookups ms) :
    ((Shape.record name fields p).ofValue (.obj ms')).toOption =
      ((Shape.record name fields p).ofValue (.obj ms)).toOption := by
  rw [ofValue_record _ _ _ hk hms, ofValue_record _ _ _ hk hms', h]

theorem ofValue_order (hk : fields.keys.Nodup) (hms : (ms.map Prod.fst).Nodup)
    (hperm : ms.Perm ms') :
    ((Shape.record name fields p).ofValue (.obj ms')).toOption =
      ((Shape.record name fields p).ofValue (.obj ms)).toOption := by
  apply record_congr hk hms ((hperm.map Prod.fst).nodup_iff.1 hms)
  exact fields.lookups_congr fun key _ => lookup_perm hperm hms key

theorem ofValue_extra {key : String} (hk : fields.keys.Nodup) (hms : (key :: ms.map Prod.fst).Nodup)
    (hkey : key ∉ fields.keys) :
    ((Shape.record name fields p).ofValue (.obj ((key, v) :: ms))).toOption =
      ((Shape.record name fields p).ofValue (.obj ms)).toOption := by
  apply record_congr hk
  · exact (List.nodup_cons.1 hms).2
  · exact hms
  · exact fields.lookups_cons hkey v ms

theorem ofValue_absent {f : Field (Option γ)} {s : Shape γ} (hk : fields.keys.Nodup)
    (h : fields.At n f (.option s)) (hf : f.lenient (.option s) = true)
    (hms : (f.key :: ms.map Prod.fst).Nodup) :
    ((Shape.record name fields p).ofValue (.obj ((f.key, .null) :: ms))).toOption =
      ((Shape.record name fields p).ofValue (.obj ms)).toOption := by
  obtain ⟨hnew, hrest⟩ := List.nodup_cons.1 hms
  have hnone : f.fallback.or (Shape.option s).ifMissing = some none := by
    rw [Field.lenient] at hf
    cases hfallback : f.fallback with
    | none => rfl
    | some a =>
      rw [hfallback] at hf
      exact congrArg some (Option.isNone_iff_eq_none.1 hf)
  have hread : f.lookup (.option s) ((f.key, .null) :: ms) = f.lookup (.option s) ms := by
    rw [Field.lookup, Field.lookup, List.lookup_cons_self, lookup_absent hnew]
    exact hnone.symm
  apply record_congr hk
  · exact hrest
  · exact hms
  · exact h.lookups_eq hk hread fun key hkey => lookup_other hkey.symm _ ms

theorem ofValue_member {f : Field γ} {s : Shape γ} (hk : fields.keys.Nodup) (h : fields.At n f s)
    (hms : (f.key :: ms.map Prod.fst).Nodup)
    (hv : (s.ofValue v').toOption = (s.ofValue v).toOption) :
    ((Shape.record name fields p).ofValue (.obj ((f.key, v') :: ms))).toOption =
      ((Shape.record name fields p).ofValue (.obj ((f.key, v) :: ms))).toOption := by
  have hread : f.lookup s ((f.key, v') :: ms) = f.lookup s ((f.key, v) :: ms) := by
    rw [Field.lookup, Field.lookup, List.lookup_cons_self, List.lookup_cons_self]
    exact hv
  apply record_congr hk
  · exact hms
  · exact hms
  · apply h.lookups_eq hk hread
    intro key hkey
    rw [lookup_other hkey.symm, lookup_other hkey.symm]

theorem ofValue_element {f : Field γ} {s : Shape γ} {before after : List Value}
    (h : fields.At before.length f s) (hv : (s.ofValue v').toOption = (s.ofValue v).toOption) :
    ((Shape.record name fields p).ofValue (.arr (before ++ v' :: after))).toOption =
      ((Shape.record name fields p).ofValue (.arr (before ++ v :: after))).toOption := by
  have hread := h.ofValues_toOption hv (recordLength name fields.count) 0 rfl after
  simp only [ofValue, Outcome.toOption_bind, hread, List.length_append, List.length_cons]

theorem ofValue_option {s : Shape α} (hnull : v = .null ↔ v' = .null)
    (hv : (s.ofValue v').toOption = (s.ofValue v).toOption) :
    ((Shape.option s).ofValue v').toOption = ((Shape.option s).ofValue v).toOption := by
  by_cases h : v = .null
  · rw [h, hnull.1 h]
  · have h' : v' ≠ .null := fun e => h (hnull.2 e)
    rw [ofValue, ofValue]
    · rw [Outcome.toOption_map, Outcome.toOption_map, hv]
    · exact h
    · exact h'

end Shape

namespace Shape.Respelled

variable {α : Type} {s : Shape α} {reserved : List String} {v v' : Value}

theorem null_iff (h : s.Respelled reserved v v') : v = .null ↔ v' = .null := by
  induction h with
  | refl => rfl
  | symm _ ih => exact ih.symm
  | trans _ _ ih ih' => exact ih.trans ih'
  | option _ ih => exact ih
  | order | extra | absent | uuid | word | wordKey | member | element | item =>
    exact ⟨nofun, nofun⟩

theorem ofValue_toOption (h : s.Respelled reserved v v') (hs : s.lenient = true) :
    (s.ofValue v').toOption = (s.ofValue v).toOption := by
  induction h with
  | refl => rfl
  | symm _ ih => exact (ih hs).symm
  | trans _ _ ih ih' => exact (ih' hs).trans (ih hs)
  | order hms hperm => exact ofValue_order (lenient_record.1 hs).1 hms hperm
  | extra hms hkey hreserved v => exact ofValue_extra (lenient_record.1 hs).1 hms hkey
  | absent hat hms =>
    obtain ⟨hk, hfields⟩ := lenient_record.1 hs
    exact ofValue_absent hk hat (hat.lenient hfields).1 hms
  | uuid h h' =>
    simp only [Shape.uuid, ofValue, Leaf.read, Leaf.ofText, Value.found, Value.str,
      Uuid.read_of_ofText? h, Uuid.read_of_ofText? h']
  | word h h' =>
    simp only [ofValue, Vocabulary.ofValue, Vocabulary.find_unlisted h, Vocabulary.find_unlisted h']
  | wordKey h h' =>
    simp only [ofValue, Vocabulary.ofValue, Outcome.toOption_bind, Vocabulary.find_unlisted h,
      Vocabulary.find_unlisted h']
  | member hat hms _ ih =>
    obtain ⟨hk, hfields⟩ := lenient_record.1 hs
    exact ofValue_member hk hat hms (ih (hat.lenient hfields).2)
  | element hat _ ih => exact ofValue_element hat (ih (hat.lenient (lenient_record.1 hs).2).2)
  | item _ ih =>
    simp only [ofValue, Value.items, Outcome.ok_bind]
    exact Outcome.toOption_mapM_congr (ih hs) _ _
  | option h ih => exact ofValue_option h.null_iff (ih hs)

theorem get?_reserved (h : s.Respelled reserved v v') {key : String} (hkey : key ∈ reserved)
    (hs : s.ignores key = true) : v'.get? key = v.get? key := by
  have hfield {β γ σ : Type} {fields : Fields β σ} {n : Nat} {f : Field γ} {t : Shape γ}
      (hat : fields.At n f t) (hf : key ∉ fields.keys) : f.key ≠ key :=
    fun e => hf (e ▸ hat.mem_keys)
  induction h with
  | refl => rfl
  | symm _ ih => exact (ih hkey hs).symm
  | trans _ _ ih ih' => exact (ih' hkey hs).trans (ih hkey hs)
  | order hms hperm => exact lookup_perm hperm hms key
  | extra hms hother hreserved v =>
    apply lookup_other
    rintro rfl
    exact hreserved hkey
  | absent hat hms => exact lookup_other (hfield hat (of_decide_eq_true hs)) _ _
  | member hat hms _ _ =>
    have hne := hfield hat (of_decide_eq_true hs)
    rw [Value.get?, Value.get?, lookup_other hne, lookup_other hne]
  | option _ ih => exact ih hkey hs
  | uuid | word | element | item => rfl
  | wordKey => cases hs

end Shape.Respelled

theorem backendFault?_get? {v : Value} (hd : v.Distinct) {f : BackendFault} :
    backendFault? v = some f ↔ v.get? "HttpErrorCode" = some (.ofInt f.status.toNat) ∧
      v.get? "Code" = some (.str f.code) ∧ v.get? "Message" = some (.str f.message) := by
  rw [backendFault?_eq_some hd]
  cases v with
  | atom a => simp [Value.get?]
  | arr vs => simp [Value.get?]
  | obj ms => simp [Value.get?]

theorem backendFault?_congr {v v' : Value} (hd : v.Distinct) (hd' : v'.Distinct)
    (h : ∀ key ∈ faultKeys, v'.get? key = v.get? key) : backendFault? v' = backendFault? v := by
  simp only [faultKeys, List.forall_mem_cons] at h
  obtain ⟨hcode, hstatus, hmessage, -⟩ := h
  apply Option.ext
  intro f
  rw [backendFault?_get? hd, backendFault?_get? hd', hcode, hstatus, hmessage]

theorem Shape.classify_respelled {α : Type} {s : Shape α} {v v' : Value}
    (h : s.Respelled faultKeys v v') (hs : s.lenient = true)
    (hignores : ∀ key ∈ faultKeys, s.ignores key = true) (hd : v.Distinct) (hd' : v'.Distinct) :
    (s.classify v').toOption = (s.classify v).toOption := by
  have hfault := backendFault?_congr hd hd' fun key hkey => h.get?_reserved hkey (hignores key hkey)
  rw [Shape.classify, Shape.classify, hfault]
  cases backendFault? v with
  | some f => rfl
  | none =>
    simp only [Outcome.toOption_mapError]
    exact h.ofValue_toOption hs

theorem Query.report_respelled (q : Query) {text text' : String} {v v' : Value}
    (hp : Value.parse text = .ok v) (hp' : Value.parse text' = .ok v')
    (h : q.reader.shape.Respelled faultKeys v v') :
    (q.report text').toOption = (q.report text).toOption := by
  have hread := Shape.classify_respelled h q.reader_lenient q.reader_ignores
    (Value.parse_distinct hp) (Value.parse_distinct hp')
  rw [Query.report, Query.report, Shape.ofResponse_parsed _ hp, Shape.ofResponse_parsed _ hp',
    Outcome.toOption_map, Outcome.toOption_map, hread]

section

variable {q : Query} {i i' : Invocation} {w w' : World} {input input' text text' : String}
variable {v v' : Value}

/-- Two runs of a reading command on respelled documents, whose settings can be read in both or in
neither, both fail or both find out the same and print the same bytes. -/
theorem run_respelled (hi : i.request = .query q input) (hi' : i'.request = .query q input')
    (hr : w.read input = .ok text) (hr' : w'.read input' = .ok text')
    (hp : Value.parse text = .ok v) (hp' : Value.parse text' = .ok v')
    (h : q.reader.shape.Respelled faultKeys v v')
    (hstored : (i'.stored w').isOk = (i.stored w).isOk) (hfull : w'.full = w.full) :
    ((∃ e, (i.session w).outcome = .error e) ∧ (∃ e, (i'.session w').outcome = .error e) ∧
      (i.run w).exit = (if w.full then 2 else 1) ∧ (i'.run w').exit = if w.full then 2 else 1) ∨
    (∃ r, (i.session w).outcome = .ok r ∧ (i'.session w').outcome = .ok r) ∧
      (i.run w).exit = (if w.full then 2 else 0) ∧ (i'.run w').exit = (if w.full then 2 else 0) ∧
      (i'.run w').stdout = (i.run w).stdout := by
  have hreport := q.report_respelled hp hp' h
  have hsame : (i'.session w').outcome.toOption = (i.session w).outcome.toOption := by
    rw [Invocation.query_outcome hi w, Invocation.query_outcome hi' w', hr, hr']
    simp only [Outcome.toOption_bind, Outcome.toOption_ok, Option.bind_some, hreport]
    cases hs : i.stored w with
    | error e =>
      cases hs' : i'.stored w' with
      | error e' => rfl
      | ok s' =>
        rw [hs, hs'] at hstored
        cases hstored
    | ok s =>
      cases hs' : i'.stored w' with
      | error e' =>
        rw [hs, hs'] at hstored
        cases hstored
      | ok s' => rfl
  have hexit := i.run_exit w
  have hexit' := i'.run_exit w'
  rw [hfull] at hexit'
  cases hout : (i.session w).outcome with
  | error e =>
    cases hout' : (i'.session w').outcome with
    | error e' =>
      rw [hout] at hexit
      rw [hout'] at hexit'
      exact .inl ⟨⟨e, rfl⟩, ⟨e', rfl⟩, hexit, hexit'⟩
    | ok r' =>
      rw [hout, hout'] at hsame
      cases hsame
  | ok r =>
    rw [hout] at hsame hexit
    have hout' := Outcome.toOption_eq_some.1 hsame
    have htold : told (i'.session w').outcome = told (i.session w).outcome := by rw [hout', hout]
    rw [hout'] at hexit'
    exact .inr ⟨⟨r, rfl, hout'⟩, hexit, hexit', (Invocation.run_seen htold hfull).1⟩

end

def tapeText : String :=
  "\x7b\"Tapes\":[\x7b\"Id\":\"FFFFFFFF-FFFF-FFFF-FFFF-FFFFFFFFFFFF\",\"BarCode\":null," ++
  "\"State\":\"MELTED\",\"Type\":\"LTO6\"\x7d]\x7d"

def respelledText : String :=
  "\x7b\"Next\":1,\"Tapes\":[\x7b\"State\":\"FROZEN\"," ++
  "\"Id\":\"ffffffffffffffffffffffffffffffff\",\"Type\":\"LTO6\"\x7d]\x7d"

def tapeDoc : Value :=
  .obj [("Id", .str "FFFFFFFF-FFFF-FFFF-FFFF-FFFFFFFFFFFF"), ("BarCode", .null),
    ("State", .str "MELTED"), ("Type", .str "LTO6")]

def respelledDoc : Value :=
  .obj [("State", .str "FROZEN"), ("Id", .str "ffffffffffffffffffffffffffffffff"),
    ("Type", .str "LTO6")]

theorem tapeText_parse : Value.parse tapeText = .ok (.obj [("Tapes", .arr [tapeDoc])]) :=
  Value.parse_eq_ok.2 ⟨.obj [("Tapes", .arr [tapeDoc])], by cbv, by decide, rfl⟩

theorem respelledText_parse :
    Value.parse respelledText = .ok (.obj [("Next", .ofInt 1), ("Tapes", .arr [respelledDoc])]) :=
  Value.parse_eq_ok.2
    ⟨.obj [("Next", .ofInt 1), ("Tapes", .arr [respelledDoc])], by cbv, by decide, rfl⟩

theorem tapeDoc_respelled : Tape.shape.Respelled [] tapeDoc respelledDoc := by
  have hu : Uuid.ofText? "FFFFFFFF-FFFF-FFFF-FFFF-FFFFFFFFFFFF".toList =
      some ⟨List.replicate 32 ⟨15, by decide⟩, rfl⟩ := by decide +kernel
  have hu' : Uuid.ofText? "ffffffffffffffffffffffffffffffff".toList =
      some ⟨List.replicate 32 ⟨15, by decide⟩, rfl⟩ := by decide +kernel
  apply Shape.Respelled.trans (.order (by decide) (.swap _ _ _))
  apply Shape.Respelled.trans (.symm (.absent (.tail .head) (by decide)))
  apply Shape.Respelled.trans (.member .head (by decide) (.uuid hu hu'))
  apply Shape.Respelled.trans (.order (by decide) (.swap _ _ _))
  exact .member (.tail (.tail .head)) (by decide) (.word (by decide) (by decide))

theorem tapeText_respelled : (Shape.option TapeListing.shape).Respelled faultKeys
    (.obj [("Tapes", .arr [tapeDoc])])
    (.obj [("Next", .ofInt 1), ("Tapes", .arr [respelledDoc])]) := by
  have hlist : (Shape.list Tape.shape).Respelled [] (.arr ([] ++ tapeDoc :: []))
      (.arr ([] ++ respelledDoc :: [])) := .item tapeDoc_respelled
  apply Shape.Respelled.option
  apply Shape.Respelled.trans (.member .head (by decide) hlist)
  exact .extra (by decide) (by decide) (by decide) _

def spellingWorld (text : String) : World :=
  ⟨FileTree.empty, .sound, text.toUTF8, ⟨some "home", none, none⟩, false, false⟩

def spellingRun : Invocation := ⟨.query .tapes "-", false, false, none⟩

theorem run_respelled_tape :
    (spellingRun.run (spellingWorld tapeText)).exit = 0 ∧
    (spellingRun.run (spellingWorld respelledText)).stdout =
      (spellingRun.run (spellingWorld tapeText)).stdout := by
  have hr (text : String) : (spellingWorld text).read "-" = .ok text := by
    rw [World.read_stdin, spellingWorld, FileTree.decode_toUTF8]
    rfl
  have hok : (spellingRun.session (spellingWorld tapeText)).outcome.isOk = true := by
    rw [Invocation.query_outcome rfl, hr, Outcome.ok_bind, Query.report,
      Shape.ofResponse_parsed _ tapeText_parse]
    decide +kernel
  rcases @run_respelled .tapes spellingRun spellingRun (spellingWorld tapeText)
    (spellingWorld respelledText) "-" "-" _ _ _ _ rfl rfl (hr _) (hr _) tapeText_parse
    respelledText_parse tapeText_respelled rfl rfl with ⟨⟨e, he⟩, -⟩ | ⟨-, hexit, -, hstdout⟩
  · rw [he] at hok
    cases hok
  · exact ⟨hexit, hstdout⟩

end PearlReport
