import PearlReport.Proofs.Members
import PearlReport.Proofs.Tree
import PearlReport.Report

/-! How a captured response is classified: as an error document if it is one, else by the payload
that was expected. -/

namespace PearlReport

open Json

theorem Json.Value.found_eq_atom {v : Value} {a : Atom} : v.found = .atom a ↔ v = .atom a := by
  cases v <;> simp [Value.found]

theorem Leaf.read_text {v : Value} {t : String} :
    (Leaf.text.read v.found).toOption = some t ↔ v = .str t := by
  rw [Value.str, ← Value.found_eq_atom]
  cases v.found with
  | atom a => cases a <;> simp [Leaf.read, Leaf.ofText]
  | sequence => simp [Leaf.read, Leaf.ofText]
  | map => simp [Leaf.read, Leaf.ofText]

theorem Width.ofInt?_eq_some {α : Type} (w : Width α) {n : Int} {a : α} :
    w.ofInt? n = some a ↔ n = w.toInt a := by
  constructor
  · exact fun h => (w.toInt_of_ofInt? h).symm
  · rintro rfl
    exact w.ofInt?_toInt a

theorem Leaf.read_whole {α : Type} (w : Width α) {v : Value} {a : α} :
    ((Leaf.whole w).read v.found).toOption = some a ↔ v = .ofInt (w.toInt a) := by
  rw [Value.ofInt, Value.num, ← Value.found_eq_atom]
  cases v.found with
  | atom b =>
    cases b with
    | num n =>
      cases n with
      | int n =>
        rw [Found.atom.injEq, Atom.num.injEq, Number.int.injEq, ← w.ofInt?_eq_some]
        cases h : w.ofInt? n <;> simp [Leaf.read, h]
      | float bits => simp [Leaf.read]
    | null => simp [Leaf.read]
    | bool b => simp [Leaf.read]
    | str s => simp [Leaf.read]
  | sequence => simp [Leaf.read]
  | map => simp [Leaf.read]

theorem Field.lookup_required {α : Type} (s : Shape α) (v : α → Value) (hm : s.ifMissing = none)
    (hs : ∀ u a, (s.ofValue u).toOption = some a ↔ u = v a) {key : String}
    {ms : List (String × Value)} {a : α} :
    (Field.required key).lookup s ms = some a ↔ ms.lookup key = some (v a) := by
  rw [Field.lookup, Field.required]
  cases ms.lookup key with
  | none => simp [hm]
  | some u => simp [hs]

/-- An object with the three members of an error document, whatever else it has. -/
def Json.Value.IsFault (v : Value) (status : UInt16) (message : String) : Prop :=
  ∃ ms code, v = .obj ms ∧ ms.lookup "HttpErrorCode" = some (.ofInt status.toNat) ∧
    ms.lookup "Code" = some (.str code) ∧ ms.lookup "Message" = some (.str message)

theorem BackendFault.ofValue_obj {ms : List (String × Value)} (hms : (ms.map Prod.fst).Nodup)
    {f : BackendFault} :
    (BackendFault.shape.ofValue (.obj ms)).toOption = some f ↔
      ms.lookup "HttpErrorCode" = some (.ofInt f.status.toNat) ∧
      ms.lookup "Code" = some (.str f.code) ∧ ms.lookup "Message" = some (.str f.message) := by
  have htext (key t : String) : (Field.required key).lookup .text ms = some t ↔
      ms.lookup key = some (.str t) :=
    Field.lookup_required .text .str rfl fun _ _ => Leaf.read_text
  have hstatus (n : UInt16) :
      (Field.required "HttpErrorCode").lookup (.leaf (.whole .unsigned16)) ms = some n ↔
      ms.lookup "HttpErrorCode" = some (.ofInt n.toNat) :=
    Field.lookup_required (.leaf (.whole .unsigned16)) (.ofInt ·.toNat) rfl
      fun _ _ => Leaf.read_whole .unsigned16
  rw [BackendFault.shape, Shape.ofValue_record _ _ _ (by decide) hms, Option.map_eq_some_iff]
  simp only [BackendFault.fields, Fields.lookups, Option.bind_eq_some_iff, Option.map_eq_some_iff,
    htext, hstatus]
  constructor
  · rintro ⟨_, ⟨code, hc, _, ⟨status, hs, _, ⟨message, hm, _, -, rfl⟩, rfl⟩, rfl⟩, rfl⟩
    exact ⟨hs, hc, hm⟩
  · rintro ⟨hs, hc, hm⟩
    exact ⟨_, ⟨_, hc, _, ⟨_, hs, _, ⟨_, hm, (), trivial, rfl⟩, rfl⟩, rfl⟩, rfl⟩

theorem backendFault?_eq_some {v : Value} (hd : v.Distinct) {f : BackendFault} :
    backendFault? v = some f ↔ ∃ ms, v = .obj ms ∧
      ms.lookup "HttpErrorCode" = some (.ofInt f.status.toNat) ∧
      ms.lookup "Code" = some (.str f.code) ∧ ms.lookup "Message" = some (.str f.message) := by
  cases v with
  | atom a => simp [backendFault?, Value.get?]
  | arr vs => simp [backendFault?, Value.get?]
  | obj ms =>
    rw [backendFault?, Value.get?]
    cases h : ms.lookup "HttpErrorCode" with
    | none => simp [h]
    | some u => simp [BackendFault.ofValue_obj hd.1]

theorem Shape.classify_cases {α : Type} (s : Shape α) {v : Value} (hd : v.Distinct) :
    (∃ status message, v.IsFault status message ∧
      s.classify v = .error (.failedRequest status message)) ∨
    (∀ status message, ¬ v.IsFault status message) ∧
      s.classify v = (s.ofValue v).mapError fun cause => .invalidInput cause.message := by
  rw [Shape.classify]
  cases hf : backendFault? v with
  | some f =>
    obtain ⟨ms, hv, hstatus, hcode, hmessage⟩ := (backendFault?_eq_some hd).1 hf
    exact .inl ⟨f.status, f.message, ⟨ms, f.code, hv, hstatus, hcode, hmessage⟩, rfl⟩
  | none =>
    refine .inr ⟨?_, rfl⟩
    rintro status message ⟨ms, code, hv, hstatus, hcode, hmessage⟩
    have hsome := (backendFault?_eq_some (f := ⟨code, status, message⟩) hd).2
      ⟨ms, hv, hstatus, hcode, hmessage⟩
    rw [hf] at hsome
    cases hsome

theorem Shape.classify_uncoded {α : Type} (s : Shape α) {v : Value}
    (h : v.get? "HttpErrorCode" = none) :
    s.classify v = (s.ofValue v).mapError fun cause => .invalidInput cause.message := by
  rw [Shape.classify, backendFault?, h]

theorem Shape.ofResponse_parsed {α : Type} (s : Shape α) {text : String} {v : Value}
    (h : Value.parse text = .ok v) : s.ofResponse text = s.classify v := by
  rw [Shape.ofResponse, h]

/-- A text that is no document is invalid. A document, with the last value of every key, is an error
document or what the shape reads from it. -/
theorem ofResponse_classified {α : Type} (s : Shape α) (text : String) :
    match Value.parse text with
    | .error c => s.ofResponse text = .error (.invalidInput c.message)
    | .ok v =>
      (∃ w, content? text.toList = some w ∧ v = w.gathered) ∧
      ((∃ status message, v.IsFault status message ∧
          s.ofResponse text = .error (.failedRequest status message)) ∨
        (∀ status message, ¬ v.IsFault status message) ∧
          s.ofResponse text = (s.ofValue v).mapError fun cause => .invalidInput cause.message) := by
  cases hp : Value.parse text with
  | error c => simp only [Shape.ofResponse, hp]
  | ok v =>
    obtain ⟨w, hw, -, hg⟩ := Value.parse_eq_ok.1 hp
    refine ⟨⟨w, hw, hg.symm⟩, ?_⟩
    rw [s.ofResponse_parsed hp]
    exact s.classify_cases (Value.parse_distinct hp)

end PearlReport
