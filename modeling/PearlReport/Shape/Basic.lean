import PearlReport.Json.Value
import PearlReport.Json.Fault
import PearlReport.Time.Layout
import PearlReport.Time.Rfc3339

/-! Shapes of documents. A shape says which documents hold a value of a type; writing, reading a
generic document and reading a text are three functions of the shape, so that they agree on every
type that has one. -/

namespace PearlReport

open Json

structure Width (α : Type) where
  name : String
  ofInt? : Int → Option α
  toInt : α → Int
  ofInt?_toInt : ∀ a, ofInt? (toInt a) = some a
  toInt_of_ofInt? : ∀ {n a}, ofInt? n = some a → toInt a = n
  bounded : ∀ a, -9223372036854775808 ≤ toInt a ∧ toInt a ≤ 18446744073709551615

namespace Width

def unsigned64 : Width UInt64 where
  name := "u64"
  ofInt? n := if 0 ≤ n ∧ n ≤ 18446744073709551615 then some (UInt64.ofNat n.toNat) else none
  toInt a := a.toNat
  ofInt?_toInt a := by
    have h := a.toNat_lt
    simp; omega
  toInt_of_ofInt? {n a} h := by
    split at h
    · cases h
      rename_i hn
      rw [UInt64.toNat_ofNat_of_lt' (by simp [UInt64.size]; omega)]
      omega
    · cases h
  bounded a := by have h := a.toNat_lt; omega

def unsigned16 : Width UInt16 where
  name := "u16"
  ofInt? n := if 0 ≤ n ∧ n ≤ 65535 then some (UInt16.ofNat n.toNat) else none
  toInt a := a.toNat
  ofInt?_toInt a := by
    have h := a.toNat_lt
    simp; omega
  toInt_of_ofInt? {n a} h := by
    split at h
    · cases h
      rename_i hn
      rw [UInt16.toNat_ofNat_of_lt' (by simp [UInt16.size]; omega)]
      omega
    · cases h
  bounded a := by have h := a.toNat_lt; omega

def unsigned8 : Width UInt8 where
  name := "u8"
  ofInt? n := if 0 ≤ n ∧ n ≤ 255 then some (UInt8.ofNat n.toNat) else none
  toInt a := a.toNat
  ofInt?_toInt a := by
    have h := a.toNat_lt
    simp; omega
  toInt_of_ofInt? {n a} h := by
    split at h
    · cases h
      rename_i hn
      rw [UInt8.toNat_ofNat_of_lt' (by simp [UInt8.size]; omega)]
      omega
    · cases h
  bounded a := by have h := a.toNat_lt; omega

def signed64 : Width Int64 where
  name := "i64"
  ofInt? n :=
    if -9223372036854775808 ≤ n ∧ n ≤ 9223372036854775807 then some (Int64.ofInt n) else none
  toInt a := a.toInt
  ofInt?_toInt a := by
    have h := a.toInt_lt
    have h' := a.le_toInt
    simp; omega
  toInt_of_ofInt? {n a} h := by
    split at h
    · cases h
      rename_i hn
      exact Int64.toInt_ofInt_of_le (by omega) (by omega)
    · cases h
  bounded a := by
    have h := a.toInt_lt
    have h' := a.le_toInt
    omega

end Width

inductive Leaf : Type → Type 1 where
  | text : Leaf String
  | flag : Leaf Bool
  | whole {α : Type} (w : Width α) : Leaf α
  | uuid : Leaf Uuid
  | instant : Leaf Time.Instant
  | character : Leaf Char
  | nothing : Leaf Unit

/-- Values that are written as words. A word that is not listed is read as `other`, if there is
one. -/
structure Vocabulary (α : Type) where
  words : List (String × α)
  nameOf : α → String
  other : Option α

def Vocabulary.find? {α : Type} (v : Vocabulary α) (word : String) : Option α :=
  (v.words.lookup word).or v.other

def Vocabulary.ofList {α : Type} (as : List α) (nameOf : α → String) (other : Option α) :
    Vocabulary α :=
  ⟨as.map fun a => (nameOf a, a), nameOf, other⟩

def Vocabulary.names {α : Type} (v : Vocabulary α) : List String := v.words.map Prod.fst

/-- A named member. `fallback` is the value taken where the member is absent; a `hidden` value is
not written. -/
structure Field (α : Type) where
  key : String
  fallback : Option α
  hidden : α → Bool

namespace Field

def required {α : Type} (key : String) : Field α := ⟨key, none, fun _ => false⟩

def defaulted {α : Type} (key : String) (a : α) : Field α := ⟨key, some a, fun _ => false⟩

def optional {α : Type} (key : String) : Field (Option α) := ⟨key, none, Option.isNone⟩

end Field

/-- A type and the tuple of its parts, without loss in either direction. -/
structure Parts (α β : Type) where
  make : β → α
  parts : α → β
  make_parts : ∀ a, make (parts a) = a
  parts_make : ∀ b, parts (make b) = b

mutual
inductive Shape : Type → Type 1 where
  | leaf {α : Type} (l : Leaf α) : Shape α
  | word {α : Type} (v : Vocabulary α) : Shape α
  | any : Shape Value
  | option {α : Type} (s : Shape α) : Shape (Option α)
  | list {α : Type} (s : Shape α) : Shape (List α)
  | dict {α : Type} (s : Shape α) : Shape (Dict α)
  | record {α β σ : Type} (name : String) (fields : Fields β σ) (parts : Parts α β) : Shape α
/-- The fields of a record, with the tuple of their values and the tuple of the slots that a reader
fills. -/
inductive Fields : Type → Type → Type 1 where
  | nil : Fields Unit Unit
  | cons {α β σ : Type} (field : Field α) (shape : Shape α) (more : Fields β σ) :
      Fields (α × β) (Option α × σ)
end

namespace Shape

def text : Shape String := .leaf .text
def flag : Shape Bool := .leaf .flag
def size : Shape UInt64 := .leaf (.whole .unsigned64)
def uuid : Shape Uuid := .leaf .uuid
def instant : Shape Time.Instant := .leaf .instant

end Shape

namespace Leaf

def write {α : Type} : Leaf α → α → Value
  | .text, s => .str s
  | .flag, b => .bool b
  | .whole w, a => .ofInt (w.toInt a)
  | .uuid, u => .str (String.ofList u.text)
  | .instant, t => .str t.text
  | .character, c => .str c.toString
  | .nothing, _ => .null

def ofText (wanted : String) (found : Found) {α : Type} (read : String → Except Cause α) :
    Except Cause α :=
  match found with
  | .atom (.str s) => read s
  | f => .error (.wrongType f wanted)

def read {α : Type} : Leaf α → Found → Except Cause α
  | .text, f => ofText "a string" f .ok
  | .flag, f =>
    match f with
    | .atom (.bool b) => .ok b
    | f => .error (.wrongType f "a boolean")
  | .whole w, f =>
    match f with
    | .atom (.num (.int n)) =>
      match w.ofInt? n with
      | some a => .ok a
      | none => .error (.wrongValue f w.name)
    | f => .error (.wrongType f w.name)
  | .uuid, f => ofText "a formatted UUID string" f fun s => (Uuid.read s).mapError .badUuid
  | .instant, f => ofText "a string" f fun s => (Time.Rfc3339.read s).mapError .badInstant
  | .character, f =>
    ofText "a character" f fun s =>
      match s.toList with
      | [c] => .ok c
      | _ => .error (.wrongValue f "a character")
  | .nothing, f =>
    match f with
    | .atom .null => .ok ()
    | f => .error (.wrongType f "unit")

end Leaf

namespace Fields

def count {β σ : Type} : Fields β σ → Nat
  | .nil => 0
  | .cons _ _ more => more.count + 1

def empty {β σ : Type} : Fields β σ → σ
  | .nil => ()
  | .cons _ _ more => (none, more.empty)

end Fields

def Shape.ifMissing {α : Type} : Shape α → Option α
  | .option _ => some none
  | _ => none

def recordName (name : String) : String := "struct " ++ name

def recordLength (name : String) (count : Nat) : String :=
  "struct " ++ name ++ " with " ++ toString count ++ " elements"

def Fields.finish {β σ : Type} : Fields β σ → σ → Except Cause β
  | .nil, _ => .ok ()
  | .cons f s more, (slot, slots) => do
    let a ←
      match slot.or (f.fallback.or s.ifMissing) with
      | some a => .ok a
      | none => .error (.missingField f.key)
    let b ← more.finish slots
    .ok (a, b)

end PearlReport
