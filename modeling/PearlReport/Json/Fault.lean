import PearlReport.Json.Value
import PearlReport.Text.Basic
import PearlReport.Text.Quoted
import PearlReport.Time.Instant
import PearlReport.Uuid

/-! What can be wrong with a document, and where. A place in a text is what of the text is left
there, so reading needs no counters; lines and columns are counted when a fault is told. -/

namespace PearlReport.Json

inductive Found where
  | atom (a : Atom)
  | sequence
  | map
deriving DecidableEq, Repr

def Found.describe : Found → String
  | .atom .null => "null"
  | .atom (.bool b) => "boolean `" ++ (if b then "true" else "false") ++ "`"
  | .atom (.num (.int n)) => "integer `" ++ String.ofList (PearlReport.Decimal.ofInt n) ++ "`"
  | .atom (.num (.float b)) => "floating point `" ++ String.ofList (Double.text b) ++ "`"
  | .atom (.str s) => "string " ++ Text.quoted s
  | .sequence => "sequence"
  | .map => "map"

inductive Cause where
  | endOfValue
  | endOfString
  | endOfList
  | endOfObject
  | wantValue
  | wantWord
  | wantColon
  | wantListEnd
  | wantObjectEnd
  | trailingComma
  | trailingCharacters
  | keyNotString
  | badNumber
  | numberOutOfRange
  | badEscape
  | loneSurrogate
  | brokenPair
  | controlCharacter
  | tooDeep
  | wrongType (found : Found) (wanted : String)
  | wrongValue (found : Found) (wanted : String)
  | wrongLength (found : Nat) (wanted : String)
  | missingField (key : String)
  | duplicateField (key : String)
  | unknownWord (word : String) (known : List String)
  | badUuid (flaw : Uuid.Flaw)
  | badInstant (flaw : Time.Flaw)
deriving DecidableEq, Repr

def choiceOf : List String → String
  | [] => "there are no variants"
  | [a] => "expected `" ++ a ++ "`"
  | [a, b] => "expected `" ++ a ++ "` or `" ++ b ++ "`"
  | ws => "expected one of " ++ ", ".intercalate (ws.map fun w => "`" ++ w ++ "`")

def Cause.message : Cause → String
  | .endOfValue => "EOF while parsing a value"
  | .endOfString => "EOF while parsing a string"
  | .endOfList => "EOF while parsing a list"
  | .endOfObject => "EOF while parsing an object"
  | .wantValue => "expected value"
  | .wantWord => "expected ident"
  | .wantColon => "expected `:`"
  | .wantListEnd => "expected `,` or `]`"
  | .wantObjectEnd => "expected `,` or `\x7d`"
  | .trailingComma => "trailing comma"
  | .trailingCharacters => "trailing characters"
  | .keyNotString => "key must be a string"
  | .badNumber => "invalid number"
  | .numberOutOfRange => "number out of range"
  | .badEscape => "invalid escape"
  | .loneSurrogate => "lone leading surrogate in hex escape"
  | .brokenPair => "unexpected end of hex escape"
  | .controlCharacter => "control character (\\u0000-\\u001F) found while parsing a string"
  | .tooDeep => "recursion limit exceeded"
  | .wrongType f w => "invalid type: " ++ f.describe ++ ", expected " ++ w
  | .wrongValue f w => "invalid value: " ++ f.describe ++ ", expected " ++ w
  | .wrongLength n w => "invalid length " ++ toString n ++ ", expected " ++ w
  | .missingField k => "missing field `" ++ k ++ "`"
  | .duplicateField k => "duplicate field `" ++ k ++ "`"
  | .unknownWord w ws => "unknown variant `" ++ w ++ "`, " ++ choiceOf ws
  | .badUuid f => f.message
  | .badInstant f => f.message

inductive Category where
  | ended
  | malformed
  | misshapen
deriving DecidableEq, Repr

def Cause.category : Cause → Category
  | .endOfValue | .endOfString | .endOfList | .endOfObject => .ended
  | .wantValue | .wantWord | .wantColon | .wantListEnd | .wantObjectEnd | .trailingComma
  | .trailingCharacters | .keyNotString | .badNumber | .numberOutOfRange | .badEscape
  | .loneSurrogate | .brokenPair | .controlCharacter | .tooDeep => .malformed
  | .wrongType .. | .wrongValue .. | .wrongLength .. | .missingField _ | .duplicateField _
  | .unknownWord .. | .badUuid _ | .badInstant _ => .misshapen

abbrev Rest := List Char

/-- A loose fault is one that no reader has placed yet: the text was read up to `rest`. -/
inductive Site where
  | at (rest : Rest) (ahead : Nat)
  | loose (rest : Rest)
deriving DecidableEq, Repr

structure Fault where
  cause : Cause
  site : Site
deriving DecidableEq, Repr

namespace Fault

def here (cause : Cause) (rest : Rest) : Fault := ⟨cause, .at rest 0⟩

def next (cause : Cause) (rest : Rest) : Fault := ⟨cause, .at rest 1⟩

def ahead (cause : Cause) (rest : Rest) (bytes : Nat) : Fault := ⟨cause, .at rest bytes⟩

def loose (cause : Cause) (rest : Rest) : Fault := ⟨cause, .loose rest⟩

end Fault

/-- Lines from 1, columns in bytes from 0. -/
structure Mark where
  line : Nat
  column : Nat
deriving DecidableEq, Repr

def Mark.advance (m : Mark) : (bytes : Nat) → List Char → Mark
  | _, [] => m
  | bytes, c :: cs =>
    if bytes = 0 then m
    else if c = '\n' then Mark.advance ⟨m.line + 1, 0⟩ (bytes - 1) cs
    else if bytes < c.utf8Size then ⟨m.line, m.column + bytes⟩
    else Mark.advance ⟨m.line, m.column + c.utf8Size⟩ (bytes - c.utf8Size) cs

structure Complaint where
  cause : Cause
  mark : Option Mark
deriving DecidableEq, Repr

def Fault.within (text : List Char) (f : Fault) : Complaint :=
  match f.site with
  | .loose _ => ⟨f.cause, none⟩
  | .at rest ahead =>
    ⟨f.cause, some (Mark.advance ⟨1, 0⟩ (Text.bytes text - Text.bytes rest + ahead) text)⟩

def Complaint.message (c : Complaint) : String :=
  match c.mark with
  | none => c.cause.message
  | some m => c.cause.message ++ " at line " ++ toString m.line ++ " column " ++ toString m.column

end PearlReport.Json
