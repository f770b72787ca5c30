import PearlReport.Json.Token

/-! The tree of a text, made before it is known what the text should hold. Each node keeps where it
starts, and a text that breaks off or goes wrong becomes a tree that ends there: which of its faults
is told depends on the reader. -/

namespace PearlReport.Json

def isSpace (c : Char) : Bool := c = ' ' || c = '\n' || c = '\t' || c = '\r'

def skipSpace (cs : List Char) : List Char := cs.dropWhile isSpace

mutual
inductive Doc where
  | token (start : Rest) (t : Token)
  | array (start : Rest) (items : Items)
  | object (start : Rest) (members : Members)
  /-- No document stands here; every reader tells the same fault. -/
  | absent (start : Rest) (fault : Fault)
inductive Items where
  | close (here : Rest)
  | next (d : Doc) (more : Items)
  | cut (here : Rest)
inductive Members where
  | close (here : Rest)
  | next (key : Except Fault String) (after : Rest) (d : Doc) (more : Members)
  | cut (first : Bool) (here : Rest)
end

namespace Doc

def start : Doc → Rest
  | token s _ => s
  | array s _ => s
  | object s _ => s
  | absent s _ => s

end Doc

def afterKey (value : List Char → Doc × Option Rest) (after : Rest) : Doc × Option Rest :=
  match skipSpace after with
  | [] => (.absent [] (.next .endOfObject []), none)
  | ':' :: rest => value rest
  | here => (.absent here (.next .wantColon here), none)

mutual
def parseValue (fuel : Nat) (text : List Char) : Doc × Option Rest :=
  match fuel with
  | 0 => (.absent text (.next .endOfValue text), none)
  | fuel + 1 =>
    match skipSpace text with
    | [] => (.absent [] (.next .endOfValue []), none)
    | '[' :: rest =>
      let (items, stop) := parseItems fuel true rest
      (.array ('[' :: rest) items, stop)
    | '\x7b' :: rest =>
      let (members, stop) := parseMembers fuel true rest
      (.object ('\x7b' :: rest) members, stop)
    | here =>
      match Token.lex? here with
      | some t => (.token here t, t.stop?)
      | none => (.absent here (.next .wantValue here), none)
def parseItems (fuel : Nat) (first : Bool) (text : List Char) : Items × Option Rest :=
  match fuel with
  | 0 => (.cut text, none)
  | fuel + 1 =>
    let element (spot : List Char) : Items × Option Rest :=
      match parseValue fuel spot with
      | (d, none) => (.next d (.cut []), none)
      | (d, some rest) =>
        let (more, stop) := parseItems fuel false rest
        (.next d more, stop)
    match skipSpace text with
    | [] => (.cut [], none)
    | ']' :: rest => (.close (']' :: rest), some rest)
    | ',' :: rest =>
      if first then element (',' :: rest)
      else
        match skipSpace rest with
        | [] => (.cut (',' :: rest), none)
        | ']' :: _ => (.cut (',' :: rest), none)
        | here => element here
    | here => if first then element here else (.cut here, none)
def parseMembers (fuel : Nat) (first : Bool) (text : List Char) : Members × Option Rest :=
  match fuel with
  | 0 => (.cut first text, none)
  | fuel + 1 =>
    let member (afterQuote : List Char) : Members × Option Rest :=
      let withKey (key : Except Fault String) (after : Rest) : Members × Option Rest :=
        match afterKey (parseValue fuel) after with
        | (d, none) => (.next key after d (.cut false []), none)
        | (d, some rest) =>
          let (more, stop) := parseMembers fuel false rest
          (.next key after d more, stop)
      match scanString .start afterQuote with
      | .whole (.str key) after => withKey (.ok key) after
      | .whole _ after => withKey (.error (.next .keyNotString after)) after
      | .flawed fault after => withKey (.error fault) after
      | .cut read skip => (.next (.error read) [] (.absent [] skip) (.cut false []), none)
    match skipSpace text with
    | [] => (.cut first [], none)
    | '\x7d' :: rest => (.close ('\x7d' :: rest), some rest)
    | '"' :: rest => if first then member rest else (.cut first ('"' :: rest), none)
    | ',' :: rest =>
      if first then (.cut first (',' :: rest), none)
      else
        match skipSpace rest with
        | '"' :: rest => member rest
        | _ => (.cut first (',' :: rest), none)
    | here => (.cut first here, none)
end

/-- Every second step of the parser takes a character, so its fuel does not run out. -/
def Doc.parse (text : List Char) : Doc := (parseValue (2 * text.length + 2) text).1

namespace Items

def faultAt (here : Rest) : Fault :=
  match here with
  | [] => .next .endOfList []
  | ',' :: rest =>
    match skipSpace rest with
    | [] => .next .endOfValue []
    | inner => .next .trailingComma inner
  | _ => .next .wantListEnd here

def endFaultAt (here : Rest) : Fault :=
  match here with
  | [] => .next .endOfList []
  | ',' :: rest =>
    match skipSpace rest with
    | ']' :: inner => .next .trailingComma (']' :: inner)
    | inner => .next .trailingCharacters inner
  | _ => .next .trailingCharacters here

def skipFaultAt (here : Rest) : Fault :=
  match here with
  | [] => .next .endOfList []
  | ',' :: rest =>
    match skipSpace rest with
    | [] => .next .endOfValue []
    | inner => .next .wantValue inner
  | _ => .next .wantListEnd here

end Items

namespace Members

def faultAt (first : Bool) (here : Rest) : Fault :=
  match here with
  | [] => .next .endOfObject []
  | ',' :: rest =>
    if first then .next .keyNotString here
    else
      match skipSpace rest with
      | [] => .next .endOfValue []
      | '\x7d' :: inner => .next .trailingComma ('\x7d' :: inner)
      | inner => .next .keyNotString inner
  | _ => if first then .next .keyNotString here else .next .wantObjectEnd here

def skipFaultAt (first : Bool) (here : Rest) : Fault :=
  match here with
  | [] => .next .endOfObject []
  | ',' :: rest =>
    if first then .next .keyNotString here
    else
      match skipSpace rest with
      | [] => .next .endOfObject []
      | inner => .next .keyNotString inner
  | _ => if first then .next .keyNotString here else .next .wantObjectEnd here

end Members

def Token.skip : Token → Except Fault Rest
  | .whole _ stop => .ok stop
  | .flawed _ stop => .ok stop
  | .cut _ fault => .error fault

mutual
def Doc.skip : Doc → Except Fault Rest
  | .token _ t => t.skip
  | .array _ items => items.skip
  | .object _ members => members.skip
  | .absent _ fault => .error fault
def Items.skip : Items → Except Fault Rest
  | .close here => .ok (here.drop 1)
  | .next d more => do
    let _ ← d.skip
    more.skip
  | .cut here => .error (Items.skipFaultAt here)
def Members.skip : Members → Except Fault Rest
  | .close here => .ok (here.drop 1)
  | .next _ _ d more => do
    let _ ← d.skip
    more.skip
  | .cut first here => .error (Members.skipFaultAt first here)
end

def maxLevels : Nat := 127

mutual
def Doc.value (levels : Nat) : Doc → Except Fault Value
  | .token _ (.whole a _) => .ok (.atom a)
  | .token _ (.flawed fault _) => .error fault
  | .token _ (.cut fault _) => .error fault
  | .array start items =>
    match levels with
    | 0 => .error (.next .tooDeep start)
    | levels + 1 => do
      let vs ← items.values levels
      .ok (.arr vs)
  | .object start members =>
    match levels with
    | 0 => .error (.next .tooDeep start)
    | levels + 1 => do
      let ms ← members.values levels
      .ok (.obj (gather ms))
  | .absent _ fault => .error fault
def Items.values (levels : Nat) : Items → Except Fault (List Value)
  | .close _ => .ok []
  | .next d more => do
    let v ← d.value levels
    let vs ← more.values levels
    .ok (v :: vs)
  | .cut here => .error (Items.faultAt here)
def Members.values (levels : Nat) : Members → Except Fault (List (String × Value))
  | .close _ => .ok []
  | .next key _ d more => do
    let k ← key
    let v ← d.value levels
    let ms ← more.values levels
    .ok ((k, v) :: ms)
  | .cut first here => .error (Members.faultAt first here)
end

def Doc.onlyThen {α : Type} (d : Doc) (a : α) : Except Fault α := do
  let rest ← d.skip
  match skipSpace rest with
  | [] => .ok a
  | here => .error (.next .trailingCharacters here)

def Value.parse (text : String) : Except Complaint Value :=
  let cs := text.toList
  let d := Doc.parse cs
  let read : Except Fault Value := do
    let v ← d.value maxLevels
    d.onlyThen v
  read.mapError (Fault.within cs)

end PearlReport.Json
