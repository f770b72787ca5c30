import PearlReport.Json.Value
import PearlReport.Text.Basic

/-! The written form of a document: two blanks for each level, a blank after the colon, empty
containers closed at once, and only what must be escaped escaped. -/

namespace PearlReport.Json

def escape (c : Char) : List Char :=
  if c = '"' then ['\\', '"']
  else if c = '\\' then ['\\', '\\']
  else if c = '\x08' then ['\\', 'b']
  else if c = '\t' then ['\\', 't']
  else if c = '\n' then ['\\', 'n']
  else if c = '\x0c' then ['\\', 'f']
  else if c = '\r' then ['\\', 'r']
  else if c.toNat < 0x20 then
    ['\\', 'u', '0', '0', Text.hexDigit (c.toNat / 16), Text.hexDigit (c.toNat % 16)]
  else [c]

def quote (s : String) : List Char := '"' :: (s.toList.flatMap escape ++ ['"'])

def Atom.text : Atom → List Char
  | .null => ['n', 'u', 'l', 'l']
  | .bool true => ['t', 'r', 'u', 'e']
  | .bool false => ['f', 'a', 'l', 's', 'e']
  | .num n => n.text
  | .str s => quote s

def newLine (level : Nat) : List Char := '\n' :: List.replicate (2 * level) ' '

mutual
def Value.lines (level : Nat) : Value → List Char
  | .atom a => a.text
  | .arr [] => ['[', ']']
  | .arr (v :: vs) =>
    '[' :: (newLine (level + 1) ++ (Value.lines (level + 1) v ++
      (Value.moreItems (level + 1) vs ++ (newLine level ++ [']']))))
  | .obj [] => ['\x7b', '\x7d']
  | .obj ((k, v) :: ms) =>
    '\x7b' :: (newLine (level + 1) ++ (quote k ++ (':' :: ' ' :: (Value.lines (level + 1) v ++
      (Value.moreMembers (level + 1) ms ++ (newLine level ++ ['\x7d']))))))
def Value.moreItems (level : Nat) : List Value → List Char
  | [] => []
  | v :: vs => ',' :: (newLine level ++ (Value.lines level v ++ Value.moreItems level vs))
def Value.moreMembers (level : Nat) : List (String × Value) → List Char
  | [] => []
  | (k, v) :: ms =>
    ',' :: (newLine level ++ (quote k ++ (':' :: ' ' :: (Value.lines level v ++
      Value.moreMembers level ms))))
end

def Value.pretty (v : Value) : String := String.ofList (v.lines 0)

def Value.canonical (v : Value) : String := Text.unifyBreaks v.pretty

end PearlReport.Json
