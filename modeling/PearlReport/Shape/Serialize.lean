import PearlReport.Error
import PearlReport.Shape.Value

/-! Writing step by step, as it may fail: each key of an object is itself written, and has to come out
as one atom other than null. Keys that come again are kept. -/

namespace PearlReport

open Json

namespace Json.Value

def keyText? : Value → Option String
  | .str s => some s
  | .num n => some (String.ofList n.text)
  | .bool true => some "true"
  | .bool false => some "false"
  | _ => none

end Json.Value

namespace Shape

variable {κ : Type}

def ofEntry (key : Shape κ) (v : Value) : Except Cause (κ × Value) := do
  let wanted := "a tuple of size 2"
  match ← v.items wanted with
  | [] => .error (.wrongLength 0 wanted)
  | [k] => do
    let _ ← key.ofValue k
    .error (.wrongLength 1 wanted)
  | k :: w :: more => do
    let k ← key.ofValue k
    if more.isEmpty then .ok (k, w)
    else .error (.wrongLength (more.length + 2) "fewer elements in array")

def ofEntries (key : Shape κ) (v : Value) : Except Cause (List (κ × Value)) := do
  let vs ← v.items "a sequence"
  vs.mapM key.ofEntry

def writeKey (key : Shape κ) (k : κ) : Except Error String :=
  match (key.write k).keyText? with
  | some text => .ok text
  | none => .error (.serialization ⟨.keyNotString, none⟩)

def writeEntries (key : Shape κ) (entries : List (κ × Value)) : Except Error Value := do
  let ms ← entries.mapM fun m => (·, m.2) <$> key.writeKey m.1
  .ok (.obj ms)

end Shape

mutual
def Shape.serialize {α : Type} : Shape α → α → Except Error Value
  | .leaf l, a => .ok (l.write a)
  | .word v, a => .ok (.str (v.nameOf a))
  | .any, v => .ok v
  | .option s, a =>
    match a with
    | none => .ok .null
    | some a => s.serialize a
  | .list s, as => .arr <$> as.mapM s.serialize
  | .dict s, d => do
    let entries ← d.entries.mapM fun m => (m.1, ·) <$> s.serialize m.2
    Shape.text.writeEntries entries
  | .record _ fields p, a => .obj <$> fields.serialize (p.parts a)
def Fields.serialize {β σ : Type} : Fields β σ → β → Except Error (List (String × Value))
  | .nil, _ => .ok []
  | .cons f s more, (a, b) =>
    if f.hidden a then more.serialize b
    else do
      let v ← s.serialize a
      let ms ← more.serialize b
      .ok ((f.key, v) :: ms)
end

def Shape.serializeText {α : Type} (s : Shape α) (a : α) : Except Error String :=
  Value.canonical <$> s.serialize a

end PearlReport
