import PearlReport.Json.Fault

/-! The words, numbers and strings of a text. A token may be fit to be passed over though it cannot
be read: a number out of range, a string with half of a surrogate pair. -/

namespace PearlReport.Json

open PearlReport.Decimal

inductive Token where
  | whole (a : Atom) (stop : Rest)
  /-- Only to be passed over, up to `stop`. -/
  | flawed (fault : Fault) (stop : Rest)
  /-- Neither; the faults of reading and of passing over. -/
  | cut (read skip : Fault)

def Token.stop? : Token → Option Rest
  | .whole _ stop => some stop
  | .flawed _ stop => some stop
  | .cut .. => none

def wordToken (a : Atom) : (letters : List Char) → List Char → Token
  | [], cs => .whole a cs
  | _ :: _, [] => .cut (.here .endOfValue []) (.here .endOfValue [])
  | l :: ls, c :: cs =>
    if c = l then wordToken a ls cs
    else .cut (.ahead .wantWord (c :: cs) 1) (.ahead .wantWord (c :: cs) 1)

structure Digits where
  negative : Bool
  whole : List Char
  fraction : Option (List Char)
  exponent : Option (Bool × List Char)

def room (significand : Nat) (d : Char) : Bool :=
  significand * 10 + digitValue d ≤ 18446744073709551615

def takeWhole : (significand : Nat) → List Char → Nat × Int
  | s, [] => (s, 0)
  | s, d :: ds => if room s d then takeWhole (s * 10 + digitValue d) ds else (s, (d :: ds).length)

def takeFraction : (significand : Nat) → (exponent : Int) → List Char → Nat × Int
  | s, e, [] => (s, e)
  | s, e, d :: ds =>
    if room s d then takeFraction (s * 10 + digitValue d) (e - 1) ds else (s, e)

def powerOfTen (e : Nat) : Float := Float.ofScientific 1 false e

def scaleDown : (fuel : Nat) → Float → (e : Nat) → Float
  | 0, f, _ => f
  | fuel + 1, f, e =>
    if e ≤ 308 then f / powerOfTen e
    else if f == 0 then f
    else scaleDown fuel (f / powerOfTen 308) (e - 308)

def scale (significand : Nat) (exponent : Int) : Option Float :=
  let f := Float.ofNat significand
  if exponent < 0 then some (scaleDown 4 f exponent.natAbs)
  else if exponent ≤ 308 then
    let g := f * powerOfTen exponent.toNat
    if g.isInf then none else some g
  else if f == 0 then some f
  else none

def signed (negative : Bool) (f : Float) : Number :=
  .float (if negative then -f else f).toBits

def exponentOverflow? : (taken seen : Nat) → List Char → Option Nat
  | _, _, [] => none
  | n, seen, d :: ds =>
    let e := seen * 10 + digitValue d
    if e ≤ 2147483647 then exponentOverflow? (n + 1) e ds else some (n + 1)

/-- The number, or how far into the exponent it is found to be out of range: `none` for the end. -/
def Digits.number (d : Digits) : Except (Option Nat) Number :=
  let (w, we) := takeWhole 0 d.whole
  match d.fraction, d.exponent with
  | none, none =>
    if we = 0 then
      if !d.negative then .ok (.int w)
      else if 0 < w ∧ w ≤ 9223372036854775808 then .ok (.int (-w))
      else .ok (signed true (Float.ofNat w))
    else
      match scale w we with
      | some f => .ok (signed d.negative f)
      | none => .error none
  | _, _ =>
    let (s, e) := takeFraction w we (d.fraction.getD [])
    match d.exponent with
    | none =>
      match scale s e with
      | some f => .ok (signed d.negative f)
      | none => .error none
    | some (down, xs) =>
      match exponentOverflow? 0 0 xs with
      | some n => if s ≠ 0 ∧ !down then .error (some n) else .ok (signed d.negative 0)
      | none =>
        let x : Int := value xs
        match scale s (if down then e - x else e + x) with
        | some f => .ok (signed d.negative f)
        | none => .error none

def numberToken (d : Digits) (exponentAt stop : Rest) : Token :=
  match d.number with
  | .ok n => .whole (.num n) stop
  | .error none => .flawed (.here .numberOutOfRange stop) stop
  | .error (some n) => .flawed (.ahead .numberOutOfRange exponentAt n) stop

def exponentToken (negative : Bool) (whole : List Char) (fraction : Option (List Char))
    (cs : List Char) : Token :=
  let (down, cs) :=
    match cs with
    | '+' :: rest => (false, rest)
    | '-' :: rest => (true, rest)
    | _ => (false, cs)
  match cs.takeWhile isDigit with
  | [] =>
    if cs.isEmpty then .cut (.here .endOfValue cs) (.here .badNumber cs)
    else .cut (.ahead .badNumber cs 1) (.ahead .badNumber cs 1)
  | ds => numberToken ⟨negative, whole, fraction, some (down, ds)⟩ cs (cs.dropWhile isDigit)

def fractionToken (negative : Bool) (whole : List Char) (cs : List Char) : Token :=
  match cs with
  | '.' :: rest =>
    let ds := rest.takeWhile isDigit
    let after := rest.dropWhile isDigit
    if ds.isEmpty then
      .cut (if rest.isEmpty then .next .endOfValue rest else .next .badNumber rest)
        (.next .badNumber rest)
    else
      match after with
      | 'e' :: xs => exponentToken negative whole (some ds) xs
      | 'E' :: xs => exponentToken negative whole (some ds) xs
      | _ => numberToken ⟨negative, whole, some ds, none⟩ [] after
  | 'e' :: xs => exponentToken negative whole none xs
  | 'E' :: xs => exponentToken negative whole none xs
  | _ => numberToken ⟨negative, whole, none, none⟩ [] cs

def digitsToken (negative : Bool) (cs : List Char) : Token :=
  match cs.takeWhile isDigit with
  | [] =>
    if cs.isEmpty then .cut (.here .endOfValue cs) (.here .badNumber cs)
    else .cut (.ahead .badNumber cs 1) (.ahead .badNumber cs 1)
  | '0' :: _ :: _ => .cut (.next .badNumber (cs.drop 1)) (.next .badNumber (cs.drop 1))
  | ds => fractionToken negative ds (cs.dropWhile isDigit)

def unit? (a b c d : Char) : Option Nat := do
  let a ← Text.hexValue? a
  let b ← Text.hexValue? b
  let c ← Text.hexValue? c
  let d ← Text.hexValue? d
  some (((a.val * 16 + b.val) * 16 + c.val) * 16 + d.val)

def shortEscape? (c : Char) : Option Char :=
  if c = '"' then some '"'
  else if c = '\\' then some '\\'
  else if c = '/' then some '/'
  else if c = 'b' then some '\x08'
  else if c = 'f' then some '\x0c'
  else if c = 'n' then some '\n'
  else if c = 'r' then some '\r'
  else if c = 't' then some '\t'
  else none

/-- What a string scan knows: the characters so far, last first, the first half of a pair that waits
for its second, and the first flaw. -/
structure Scan where
  seen : List Char
  half : Option Nat
  flaw : Option Fault

namespace Scan

def start : Scan := ⟨[], none, none⟩

def spoil (s : Scan) (f : Fault) : Scan := ⟨s.seen, none, s.flaw.or (some f)⟩

def push (s : Scan) (c : Char) : Scan := ⟨c :: s.seen, none, s.flaw⟩

def expectEscape (s : Scan) (rest : Rest) : Scan :=
  match s.half with
  | some _ => s.spoil (.ahead .brokenPair rest 1)
  | none => s

def takeUnit (s : Scan) (n : Nat) (rest : Rest) : Scan :=
  match s.half with
  | some high =>
    if 0xdc00 ≤ n ∧ n ≤ 0xdfff then
      s.push (Char.ofNat ((high - 0xd800) * 1024 + (n - 0xdc00) + 0x10000))
    else s.spoil (.here .loneSurrogate rest)
  | none =>
    if 0xdc00 ≤ n ∧ n ≤ 0xdfff then s.spoil (.here .loneSurrogate rest)
    else if 0xd800 ≤ n ∧ n ≤ 0xdbff then ⟨s.seen, some n, s.flaw⟩
    else s.push (Char.ofNat n)

def finish (s : Scan) (rest : Rest) : Token :=
  match s.flaw with
  | some f => .flawed f rest
  | none => .whole (.str (String.ofList s.seen.reverse)) rest

def fail (s : Scan) (read skip : Fault) : Token := .cut (s.flaw.getD read) skip

end Scan

def scanString (s : Scan) : List Char → Token
  | [] => s.fail (.here .endOfString []) (.here .endOfString [])
  | c :: cs =>
    if c = '"' then (s.expectEscape (c :: cs)).finish cs
    else if c = '\\' then
      match cs with
      | [] => s.fail (.here .endOfString []) (.here .endOfString [])
      | e :: es =>
        if e = 'u' then
          match es with
          | h₁ :: h₂ :: h₃ :: h₄ :: rest =>
            match unit? h₁ h₂ h₃ h₄ with
            | some n => scanString (s.takeUnit n rest) rest
            | none => s.fail (.ahead .badEscape es 4) (.ahead .badEscape es 4)
          | _ =>
            let fault : Fault :=
              if Text.bytes es < 4 then .here .endOfString [] else .ahead .badEscape es 4
            s.fail fault fault
        else
          let s := s.expectEscape (e :: es)
          match shortEscape? e with
          | some d => scanString (s.push d) es
          | none => s.fail (.ahead .badEscape (e :: es) 1) (.ahead .badEscape (e :: es) 1)
    else
      let s := s.expectEscape (c :: cs)
      if c.toNat < 0x20 then
        s.fail (.ahead .controlCharacter (c :: cs) 1) (.here .controlCharacter (c :: cs))
      else scanString (s.push c) cs

def Token.lex? : List Char → Option Token
  | [] => none
  | c :: cs =>
    if c = '"' then some (scanString .start cs)
    else if c = 'n' then some (wordToken .null ['u', 'l', 'l'] cs)
    else if c = 't' then some (wordToken (.bool true) ['r', 'u', 'e'] cs)
    else if c = 'f' then some (wordToken (.bool false) ['a', 'l', 's', 'e'] cs)
    else if c = '-' then some (digitsToken true cs)
    else if isDigit c then some (digitsToken false (c :: cs))
    else none

end PearlReport.Json
