/-! Characters and digits: sizes in bytes of UTF-8, white space, line breaks, hexadecimal and decimal
numbers. -/

namespace PearlReport.Text

def bytes (cs : List Char) : Nat := cs.foldl (fun n c => n + c.utf8Size) 0

/-- The Unicode property White_Space. -/
def isBlank (c : Char) : Bool :=
  let n := c.toNat
  (9 ≤ n && n ≤ 13) || n = 0x20 || n = 0x85 || n = 0xa0 || n = 0x1680 ||
    (0x2000 ≤ n && n ≤ 0x200a) || n = 0x2028 || n = 0x2029 || n = 0x202f || n = 0x205f ||
    n = 0x3000

def trimStart (cs : List Char) : List Char := cs.dropWhile isBlank

def trim (cs : List Char) : List Char := (trimStart (trimStart cs).reverse).reverse

def mergePairs : List Char → List Char
  | [] => []
  | '\r' :: '\n' :: cs => '\n' :: mergePairs cs
  | c :: cs => c :: mergePairs cs

def returnsToFeeds (cs : List Char) : List Char :=
  cs.map fun c => if c = '\r' then '\n' else c

def unify (cs : List Char) : List Char := returnsToFeeds (mergePairs cs)

def unifyBreaks (s : String) : String := String.ofList (unify s.toList)

def hexDigit (d : Nat) : Char :=
  if d < 10 then Char.ofNat (48 + d) else Char.ofNat (87 + d)

def hexValue? (c : Char) : Option (Fin 16) :=
  if '0' ≤ c ∧ c ≤ '9' then some (Fin.ofNat 16 (c.toNat - 48))
  else if 'a' ≤ c ∧ c ≤ 'f' then some (Fin.ofNat 16 (c.toNat - 87))
  else if 'A' ≤ c ∧ c ≤ 'F' then some (Fin.ofNat 16 (c.toNat - 55))
  else none

theorem hexValue?_hexDigit (d : Fin 16) : hexValue? (hexDigit d) = some d := by
  revert d
  decide

def hexOnto (fuel n : Nat) (rest : List Char) : List Char :=
  match fuel with
  | 0 => rest
  | fuel + 1 =>
    if n < 16 then hexDigit n :: rest else hexOnto fuel (n / 16) (hexDigit (n % 16) :: rest)

def hex (n : Nat) : List Char := hexOnto (n + 1) n []

end PearlReport.Text

namespace PearlReport.Decimal

def digitChar (d : Nat) : Char := Char.ofNat (48 + d % 10)

def isDigit (c : Char) : Bool := '0' ≤ c && c ≤ '9'

def digitValue (c : Char) : Nat := c.toNat - 48

def digitsOnto (fuel n : Nat) (rest : List Char) : List Char :=
  match fuel with
  | 0 => rest
  | fuel + 1 =>
    if n < 10 then digitChar n :: rest else digitsOnto fuel (n / 10) (digitChar n :: rest)

def digits (n : Nat) : List Char := digitsOnto (n + 1) n []

def ofInt (n : Int) : List Char :=
  if n < 0 then '-' :: digits n.natAbs else digits n.natAbs

def valueOnto (seen : Nat) (cs : List Char) : Nat :=
  cs.foldl (fun n c => n * 10 + digitValue c) seen

def value (cs : List Char) : Nat := valueOnto 0 cs

def padded : Nat → Nat → List Char
  | 0, _ => []
  | width + 1, n => padded width (n / 10) ++ [digitChar n]

def widened (width n : Nat) : List Char :=
  if n < Nat.pow 10 width then padded width n else digits n

end PearlReport.Decimal
