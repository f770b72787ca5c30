import PearlReport.Json.Printer
import PearlReport.Shape.Basic

/-! Values and generic documents: a value is written as a document, and a document is read as a
value or refused with the cause. -/

namespace PearlReport

open Json

mutual
def Shape.write {α : Type} : Shape α → α → Value
  | .leaf l, a => l.write a
  | .word v, a => .str (v.nameOf a)
  | .any, v => v
  | .option s, a =>
    match a with
    | none => .null
    | some a => s.write a
  | .list s, as => .arr (as.map s.write)
  | .dict s, d => .obj (d.entries.map fun m => (m.1, s.write m.2))
  | .record _ fields p, a => .obj (fields.write (p.parts a))
def Fields.write {β σ : Type} : Fields β σ → β → List (String × Value)
  | .nil, _ => []
  | .cons f s more, (a, b) =>
    if f.hidden a then more.write b else (f.key, s.write a) :: more.write b
end

def Shape.canonical {α : Type} (s : Shape α) (a : α) : String := (s.write a).canonical

namespace Json.Value

def found : Value → Found
  | .atom a => .atom a
  | .arr _ => .sequence
  | .obj _ => .map

def items (wanted : String) : Value → Except Cause (List Value)
  | .arr vs => .ok vs
  | v => .error (.wrongType v.found wanted)

def members (wanted : String) : Value → Except Cause (List (String × Value))
  | .obj ms => .ok ms
  | v => .error (.wrongType v.found wanted)

end Json.Value

namespace Vocabulary

variable {α : Type}

def find (v : Vocabulary α) (word : String) : Except Cause α :=
  match v.find? word with
  | some a => .ok a
  | none => .error (.unknownWord word v.names)

/-- A word alone, or an object with the word as its only key and null under it. -/
def ofValue (v : Vocabulary α) : Value → Except Cause α
  | .str word => v.find word
  | .obj [(word, inner)] => do
    let a ← v.find word
    let _ ← Leaf.nothing.read inner.found
    .ok a
  | .obj _ => .error (.wrongValue .map "map with a single key")
  | u => .error (.wrongType u.found "string or map")

end Vocabulary

mutual
def Shape.ofValue {α : Type} : Shape α → Value → Except Cause α
  | .leaf l, v => l.read v.found
  | .word w, v => w.ofValue v
  | .any, v => .ok v
  | .option s, v =>
    match v with
    | .null => .ok none
    | v => some <$> s.ofValue v
  | .list s, v => do
    let vs ← v.items "a sequence"
    vs.mapM s.ofValue
  | .dict s, v => do
    let ms ← v.members "a map"
    let as ← ms.mapM fun m => (m.1, ·) <$> s.ofValue m.2
    .ok (Dict.ofList as)
  | .record name fields p, v =>
    match v with
    | .obj ms => do
      let slots ← ms.foldlM (fun slots m => fields.fillValue m.1 m.2 slots) fields.empty
      p.make <$> fields.finish slots
    | .arr vs => do
      let (b, left) ← fields.ofValues (recordLength name fields.count) 0 vs
      if left.isEmpty then .ok (p.make b)
      else .error (.wrongLength vs.length "fewer elements in array")
    | v => .error (.wrongType v.found (recordName name))
def Fields.fillValue {β σ : Type} (key : String) (v : Value) : Fields β σ → σ → Except Cause σ
  | .nil, _ => .ok ()
  | .cons f s more, (slot, slots) =>
    if key = f.key then
      match slot with
      | some _ => .error (.duplicateField key)
      | none => (some ·, slots) <$> s.ofValue v
    else (slot, ·) <$> more.fillValue key v slots
def Fields.ofValues {β σ : Type} (wanted : String) (index : Nat) :
    Fields β σ → List Value → Except Cause (β × List Value)
  | .nil, vs => .ok ((), vs)
  | .cons f s more, vs =>
    match vs with
    | v :: vs => do
      let a ← s.ofValue v
      let (b, left) ← more.ofValues wanted (index + 1) vs
      .ok ((a, b), left)
    | [] =>
      match f.fallback with
      | some a => do
        let (b, left) ← more.ofValues wanted (index + 1) []
        .ok ((a, b), left)
      | none => .error (.wrongLength index wanted)
end

end PearlReport
