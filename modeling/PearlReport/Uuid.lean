import PearlReport.Text.Basic

/-! Universally unique identifiers: 32 hexadecimal digits. Four spellings are read, in either letter
case; one is written. -/

namespace PearlReport

structure Uuid where
  digits : List (Fin 16)
  size : digits.length = 32
deriving DecidableEq

namespace Uuid

def nil : Uuid := ⟨List.replicate 32 ⟨0, by decide⟩, rfl⟩

def ofDigits? (ds : List (Fin 16)) : Option Uuid :=
  if h : ds.length = 32 then some ⟨ds, h⟩ else none

def ofSimple? (cs : List Char) : Option Uuid := cs.mapM Text.hexValue? >>= ofDigits?

def ofHyphenated? (cs : List Char) : Option Uuid :=
  let rest₁ := cs.drop 8
  let rest₂ := rest₁.drop 5
  let rest₃ := rest₂.drop 5
  let rest₄ := rest₃.drop 5
  if rest₁.head? = some '-' ∧ rest₂.head? = some '-' ∧ rest₃.head? = some '-' ∧
      rest₄.head? = some '-' then
    ofSimple? (cs.take 8 ++ (rest₁.drop 1).take 4 ++ (rest₂.drop 1).take 4 ++
      (rest₃.drop 1).take 4 ++ rest₄.drop 1)
  else none

def urn : List Char := ['u', 'r', 'n', ':', 'u', 'u', 'i', 'd', ':']

def afterUrn? (cs : List Char) : Option (List Char) :=
  if (cs.take urn.length).map Char.toLower = urn then some (cs.drop urn.length) else none

def inBraces? (cs : List Char) : Option (List Char) :=
  match cs with
  | '\x7b' :: inner => if inner.getLast? = some '\x7d' then some inner.dropLast else none
  | _ => none

def unmarked (cs : List Char) : List Char × Nat :=
  match inBraces? cs with
  | some inner => (inner, 1)
  | none =>
    match afterUrn? cs with
    | some rest => (rest, urn.length)
    | none => (cs, 0)

def ofText? (cs : List Char) : Option Uuid :=
  let (body, offset) := unmarked cs
  if offset = 0 then (ofSimple? body).or (ofHyphenated? body) else ofHyphenated? body

def text (u : Uuid) : List Char :=
  let ds := u.digits.map fun d => Text.hexDigit d.val
  ds.take 8 ++ '-' :: ((ds.drop 8).take 4 ++ '-' :: ((ds.drop 12).take 4 ++
    '-' :: ((ds.drop 16).take 4 ++ '-' :: ds.drop 20)))

inductive Flaw where
  | character (c : Char) (index : Nat)
  | length (found : Nat)
  | groupCount (found : Nat)
  | groupLength (group wanted found : Nat)
deriving DecidableEq, Repr

def Flaw.message : Flaw → String
  | .character c i => "UUID parsing failed: invalid character: found `" ++ c.toString ++ "` at " ++
      toString i
  | .length n => "UUID parsing failed: invalid length: found " ++ toString n
  | .groupCount n => "UUID parsing failed: invalid group count: expected 5, found " ++ toString n
  | .groupLength g w n => "UUID parsing failed: invalid group length in group " ++ toString g ++
      ": expected " ++ toString w ++ ", found " ++ toString n

def strayCharacter? (index : Nat) : List Char → Option Flaw
  | [] => none
  | c :: cs =>
    if c = '-' ∨ (Text.hexValue? c).isSome then strayCharacter? (index + 1) cs
    else some (.character c index)

def hyphens (index : Nat) : List Char → List Nat
  | [] => []
  | c :: cs => if c = '-' then index :: hyphens (index + 1) cs else hyphens (index + 1) cs

/-- The first group of a wrong length, given the places of the four hyphens. The last group is
measured to the end of the whole text. -/
def wrongGroup (whole : Nat) : (group start : Nat) → (sizes found : List Nat) → Flaw
  | g, start, size :: sizes, h :: hs =>
    if h = start + size then wrongGroup whole (g + 1) (h + 1) sizes hs
    else .groupLength g size (h - start)
  | g, start, _, _ => .groupLength g 12 (whole - start)

def hyphenatedSize : Nat := 36

def longest : Nat := 45

/-- Characters are judged first, then the number of groups, then their lengths, all without the
marks but told by places and by the length in `cs`. A text without marks and hyphens is judged by its
length, unless it is as long as the hyphenated spelling. -/
def flawIn (cs : List Char) : Flaw :=
  let whole := Text.bytes cs
  let (body, offset) := unmarked cs
  match strayCharacter? offset body with
  | some flaw => flaw
  | none =>
    let hs := hyphens 0 body
    if hs.isEmpty && offset == 0 && whole != hyphenatedSize then .length whole
    else if hs.length != 4 then .groupCount (hs.length + 1)
    else wrongGroup whole 0 0 [8, 4, 4, 4] hs

/-- A text longer than any spelling is judged by its length alone. What is as long as the hyphenated
spelling between its marks is judged as a text of its own. -/
def flawOf (cs : List Char) : Flaw :=
  let whole := Text.bytes cs
  let body := (unmarked cs).1
  if longest < whole then .length whole
  else if Text.bytes body = hyphenatedSize then flawIn body
  else flawIn cs

def read (s : String) : Except Flaw Uuid :=
  match ofText? s.toList with
  | some u => .ok u
  | none => .error (flawOf s.toList)

end Uuid

end PearlReport
