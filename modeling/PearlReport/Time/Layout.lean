import PearlReport.Text.Basic
import PearlReport.Time.Instant

/-! The one layout in which instants are written, `yyyy-MM-ddTHH:mm:ss.sssZ`, and its own reader.
A year outside 0 to 9999 has a sign. -/

namespace PearlReport.Time.Layout

open PearlReport.Decimal

def yearText (y : Int) : List Char :=
  if 0 ≤ y ∧ y ≤ 9999 then padded 4 y.toNat
  else (if y < 0 then '-' else '+') :: widened 4 y.natAbs

def write (t : Instant) : List Char :=
  yearText t.date.year ++ '-' :: (padded 2 t.date.month ++ '-' :: (padded 2 t.date.day ++
    'T' :: (padded 2 t.hour ++ ':' :: (padded 2 t.minute ++ ':' :: (padded 2 t.second ++
      '.' :: (padded 3 t.millis ++ ['Z']))))))

def number (width : Nat) (cs : List Char) : Except Flaw (Nat × List Char) :=
  let ds := (cs.takeWhile isDigit).take width
  match cs, ds with
  | [], _ => .error .tooShort
  | _, [] => .error .invalid
  | _, ds => .ok (value ds, cs.drop ds.length)

def literal (c : Char) : List Char → Except Flaw (List Char)
  | [] => .error .tooShort
  | d :: cs => if d = c then .ok cs else .error .invalid

def part (low high : Nat) (cs : List Char) : Except Flaw (Nat × List Char) := do
  let (n, rest) ← number 2 (Text.trimStart cs)
  if low ≤ n ∧ n ≤ high then .ok (n, rest) else .error .outOfRange

/-- Four digits at most, or a sign and any number of digits. -/
def year (cs : List Char) : Except Flaw (Int × List Char) := do
  let checked (n : Int) (rest : List Char) : Except Flaw (Int × List Char) :=
    if -2147483648 ≤ n ∧ n ≤ 2147483647 then .ok (n, rest) else .error .outOfRange
  match Text.trimStart cs with
  | '-' :: rest => do
    let (n, rest) ← number rest.length rest
    checked (-(n : Int)) rest
  | '+' :: rest => do
    let (n, rest) ← number rest.length rest
    checked n rest
  | rest => do
    let (n, rest) ← number 4 rest
    checked n rest

def fraction : List Char → Except Flaw (Nat × List Char)
  | '.' :: cs =>
    if Text.bytes cs < 3 then .error .tooShort
    else
      match cs with
      | a :: b :: c :: rest =>
        if isDigit a && isDigit b && isDigit c then .ok (value [a, b, c], rest)
        else .error .invalid
      | _ => .error .invalid
  | cs => .ok (0, cs)

def read (s : String) : Except Flaw Instant := do
  let (y, cs) ← year s.toList
  let cs ← literal '-' cs
  let (mo, cs) ← part 1 12 cs
  let cs ← literal '-' cs
  let (d, cs) ← part 1 31 cs
  let cs ← literal 'T' cs
  let (h, cs) ← part 0 23 cs
  let cs ← literal ':' cs
  let (mi, cs) ← part 0 59 cs
  let cs ← literal ':' cs
  let (s, cs) ← part 0 60 cs
  let (ms, cs) ← fraction cs
  let cs ← literal 'Z' cs
  if cs.isEmpty then
    match Instant.ofLocal? ⟨y, mo, d⟩ ⟨h, mi, s, ms * 1000000⟩ 0 with
    | some t => .ok t
    | none => .error .outOfRange
  else .error .tooLong

end PearlReport.Time.Layout

namespace PearlReport.Time

def Instant.text (t : Instant) : String := String.ofList (Layout.write t)

end PearlReport.Time
