import PearlReport.Json.Doc
import PearlReport.Shape.Value

/-! Values read straight from a text. Beside the cause of a fault the reader knows its place; a
fault found only after its token has been read is loose until the container around it ends. -/

namespace PearlReport

open Json

namespace Json

/-- A loose fault in a list is placed after the closing bracket or comma that comes next. -/
def Fault.settleInList (f : Fault) : Fault :=
  match f.site with
  | .at .. => f
  | .loose rest =>
    match skipSpace rest with
    | ']' :: after => .here f.cause after
    | ',' :: after => .here f.cause (skipSpace after)
    | after => .here f.cause after

def Fault.settleInObject (f : Fault) : Fault :=
  match f.site with
  | .at .. => f
  | .loose rest =>
    match skipSpace rest with
    | '\x7d' :: after => .here f.cause after
    | after => .here f.cause after

namespace Doc

def unwanted (wanted : String) : Doc → Fault
  | .token _ (.whole a stop) => .here (.wrongType (.atom a) wanted) stop
  | .token _ (.flawed fault _) => fault
  | .token _ (.cut fault _) => fault
  | .array start _ => .here (.wrongType .sequence wanted) start
  | .object start _ => .here (.wrongType .map wanted) start
  | .absent _ fault => fault

def enter {α : Type} (start : Rest) (levels : Nat) (read : Nat → Except Fault α) :
    Except Fault α :=
  match levels with
  | 0 => .error (.next .tooDeep start)
  | levels + 1 => read levels

end Doc

def Items.readAll {α : Type} (read : Doc → Except Fault α) : Items → Except Fault (List α)
  | .close _ => .ok []
  | .next d more => do
    let a ← read d
    let as ← more.readAll read
    .ok (a :: as)
  | .cut here => .error (Items.faultAt here)

def Members.readAll {α : Type} (read : Doc → Except Fault α) :
    Members → Except Fault (List (String × α))
  | .close _ => .ok []
  | .next key _ d more => do
    let k ← key
    let a ← read d
    let as ← more.readAll read
    .ok ((k, a) :: as)
  | .cut first here => .error (Members.faultAt first here)

def Members.foldM {σ : Type} (step : String → Rest → Doc → σ → Except Fault σ) :
    Members → σ → Except Fault (σ × Rest)
  | .close here, s => .ok (s, here)
  | .next key after d more, s => do
    let k ← key
    let s ← step k after d s
    more.foldM step s
  | .cut first here, _ => .error (Members.faultAt first here)

def Items.finish : Items → Except Fault Unit
  | .close _ => .ok ()
  | .next d _ => .error (.next .trailingCharacters d.start)
  | .cut here => .error (Items.endFaultAt here)

end Json

def Leaf.ofToken {α : Type} (l : Leaf α) (a : Atom) (stop : Rest) : Except Fault α :=
  match l.read (.atom a) with
  | .ok x => .ok x
  | .error (.badInstant flaw) => .error (.loose (.badInstant flaw) stop)
  | .error cause => .error (.here cause stop)

def Leaf.wanted {α : Type} : Leaf α → String
  | .text => "a string"
  | .flag => "a boolean"
  | .whole w => w.name
  | .uuid => "a formatted UUID string"
  | .instant => "a string"
  | .character => "a character"
  | .nothing => "unit"

def Leaf.ofDoc {α : Type} (l : Leaf α) : Doc → Except Fault α
  | .token _ (.whole a stop) => l.ofToken a stop
  | d => .error (d.unwanted l.wanted)

namespace Vocabulary

variable {α : Type}

def findAt (v : Vocabulary α) (word : String) (stop : Rest) : Except Fault α :=
  (v.find word).mapError fun cause => .here cause stop

def closeAfter (a : α) (d : Doc) : Except Fault α :=
  match d with
  | .token _ (.whole .null stop) =>
    match skipSpace stop with
    | '\x7d' :: _ => .ok a
    | [] => .error (.here .endOfObject [])
    | after => .error (.here .wantValue after)
  | d => .error (d.unwanted "unit")

/-- The word is the only key of an object. An empty object has no value; where something else than a
key stands, the fault is the one that every object has there. -/
def ofMembers (v : Vocabulary α) : Members → Except Fault α
  | .close here => .error (.next .wantValue here)
  | .cut first here => .error (Members.faultAt first here)
  | .next key after d _ => do
    let word ← key
    let a ← v.findAt word after
    closeAfter a d

def ofDoc (v : Vocabulary α) (levels : Nat) : Doc → Except Fault α
  | .token _ (.whole (.str word) stop) => v.findAt word stop
  | .token start (.whole _ _) => .error (.next .wantValue start)
  | .token start (.flawed fault _) =>
    .error (if start.head? = some '"' then fault else .next .wantValue start)
  | .token start (.cut fault _) =>
    .error (if start.head? = some '"' then fault else .next .wantValue start)
  | .array start _ => .error (.next .wantValue start)
  | .object start members => Doc.enter start levels fun _ => v.ofMembers members
  | .absent _ fault => .error fault

end Vocabulary

mutual
def Shape.ofDoc {α : Type} : Shape α → (levels : Nat) → Doc → Except Fault α
  | .leaf l, _, d => l.ofDoc d
  | .word v, levels, d => v.ofDoc levels d
  | .any, levels, d => d.value levels
  | .option s, levels, d =>
    match d with
    | .token _ (.whole .null _) => .ok none
    | .token start (.cut fault skip) =>
      if start.head? = some 'n' then .error fault
      else some <$> s.ofDoc levels (.token start (.cut fault skip))
    | d => some <$> s.ofDoc levels d
  | .list s, levels, d =>
    match d with
    | .array start items =>
      Doc.enter start levels fun levels =>
        (items.readAll (s.ofDoc levels)).mapError Fault.settleInList
    | d => .error (d.unwanted "a sequence")
  | .dict s, levels, d =>
    match d with
    | .object start members =>
      Doc.enter start levels fun levels =>
        Dict.ofList <$> (members.readAll (s.ofDoc levels)).mapError Fault.settleInObject
    | d => .error (d.unwanted "a map")
  | .record name fields p, levels, d =>
    match d with
    | .object start members =>
      Doc.enter start levels fun levels =>
        let read : Except Fault _ := do
          let (slots, here) ← members.foldM (fields.fillDoc levels) fields.empty
          (fields.finish slots).mapError fun cause => .loose cause here
        p.make <$> read.mapError Fault.settleInObject
    | .array start items =>
      Doc.enter start levels fun levels =>
        let read := fields.ofItems levels (recordLength name fields.count) 0 items
        do
          let (b, left) ← read.mapError Fault.settleInList
          left.finish
          .ok (p.make b)
    | d => .error (d.unwanted (recordName name))
/-- A field that comes again is refused before its value is read. -/
def Fields.fillDoc {β σ : Type} (levels : Nat) :
    Fields β σ → (key : String) → (after : Rest) → Doc → σ → Except Fault σ
  | .nil, _, _, d, _ => do
    let _ ← d.skip
    .ok ()
  | .cons f s more, key, after, d, (slot, slots) =>
    if key = f.key then
      match slot with
      | some _ => .error (.loose (.duplicateField key) after)
      | none => (some ·, slots) <$> s.ofDoc levels d
    else (slot, ·) <$> more.fillDoc levels key after d slots
def Fields.ofItems {β σ : Type} (levels : Nat) (wanted : String) (index : Nat) :
    Fields β σ → Items → Except Fault (β × Items)
  | .nil, items => .ok ((), items)
  | .cons f s more, items =>
    match items with
    | .next d rest => do
      let a ← s.ofDoc levels d
      let (b, left) ← more.ofItems levels wanted (index + 1) rest
      .ok ((a, b), left)
    | .close here =>
      match f.fallback with
      | some a => do
        let (b, left) ← more.ofItems levels wanted (index + 1) (.close here)
        .ok ((a, b), left)
      | none => .error (.loose (.wrongLength index wanted) here)
    | .cut here => .error (Items.faultAt here)
end

def Shape.parse {α : Type} (s : Shape α) (text : String) : Except Complaint α :=
  let cs := text.toList
  let d := Doc.parse cs
  let read : Except Fault α := do
    let a ← s.ofDoc maxLevels d
    d.onlyThen a
  read.mapError (Fault.within cs)

end PearlReport
