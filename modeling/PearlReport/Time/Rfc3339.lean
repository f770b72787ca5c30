import PearlReport.Text.Basic
import PearlReport.Time.Instant

/-! Instants as RFC 3339 writes them, with any offset. -/

namespace PearlReport.Time.Rfc3339

open PearlReport.Decimal

def digits : (count seen : Nat) → List Char → Except Flaw (Nat × List Char)
  | 0, seen, cs => .ok (seen, cs)
  | count + 1, seen, c :: cs =>
    if isDigit c then digits count (seen * 10 + digitValue c) cs else .error .invalid
  | _ + 1, _, [] => .error .invalid

def literal (c : Char) : List Char → Except Flaw (List Char)
  | [] => .error .invalid
  | d :: cs => if d = c then .ok cs else .error .invalid

def date (cs : List Char) : Except Flaw (Date × List Char) := do
  let (y, cs) ← digits 4 0 cs
  let cs ← literal '-' cs
  let (m, cs) ← digits 2 0 cs
  let cs ← literal '-' cs
  let (d, cs) ← digits 2 0 cs
  let date : Date := ⟨y, m, d⟩
  if date.Valid then .ok (date, cs) else .error .outOfRange

def separator : List Char → Except Flaw (List Char)
  | c :: cs => if c = 'T' ∨ c = 't' ∨ c = ' ' then .ok cs else .error .invalid
  | [] => .error .invalid

/-- Digits after a point; only the first nine count. -/
def fraction : List Char → Except Flaw (Nat × List Char)
  | '.' :: cs =>
    match cs.takeWhile isDigit with
    | [] => .error (if cs.isEmpty then .tooShort else .invalid)
    | ds => .ok (value ((ds ++ List.replicate 9 '0').take 9), cs.dropWhile isDigit)
  | cs => .ok (0, cs)

def clock (cs : List Char) : Except Flaw (Clock × List Char) := do
  let (h, cs) ← digits 2 0 cs
  let cs ← literal ':' cs
  let (m, cs) ← digits 2 0 cs
  let cs ← literal ':' cs
  let (s, cs) ← digits 2 0 cs
  let (n, cs) ← fraction cs
  if h < 24 ∧ m < 60 ∧ s ≤ 60 then .ok (⟨h, m, s, n⟩, cs) else .error .outOfRange

/-- Two digits of an offset, which the text may end before. -/
def offsetPart : List Char → Except Flaw (Nat × List Char)
  | c :: d :: cs =>
    if isDigit c && isDigit d then .ok (value [c, d], cs) else .error .invalid
  | [c] => .error (if c.utf8Size < 2 then .tooShort else .invalid)
  | [] => .error .tooShort

def offset : List Char → Except Flaw (Int × List Char)
  | [] => .error .tooShort
  | sign :: cs =>
    if sign = 'Z' ∨ sign = 'z' then .ok (0, cs)
    else if sign = '+' ∨ sign = '-' ∨ sign = '\u2212' then do
      let (h, cs) ← offsetPart cs
      let cs ← match cs with
        | [] => .error .tooShort
        | c :: cs => if c = ':' then .ok cs else .error .invalid
      let (m, cs) ← offsetPart cs
      if m < 60 then
        let secs : Int := h * 3600 + m * 60
        .ok (if sign = '+' then secs else -secs, cs)
      else .error .outOfRange
    else .error .invalid

/-- The shortest text has 19 bytes and no offset. -/
def read (s : String) : Except Flaw Instant := do
  if s.utf8ByteSize < 19 then .error .tooShort
  let (d, cs) ← date s.toList
  let cs ← separator cs
  let (c, cs) ← clock cs
  let (o, cs) ← offset cs
  if !cs.isEmpty then .error .tooLong
  else if o ≤ -86400 ∨ 86400 ≤ o then .error .outOfRange
  else
    match Instant.ofLocal? d c o with
    | some t => .ok t
    | none => .error .outOfRange

end PearlReport.Time.Rfc3339
