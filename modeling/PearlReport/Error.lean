import PearlReport.Json.Fault
import PearlReport.Shape.Basic
import PearlReport.SystemError

/-! Everything that can fail a command, and how it is told: one text for the user, one for
diagnostics. The appliance reports an error document instead of a result, or failures of single tapes;
tape failures are told as one: a batch either has none or fails as a whole. -/

namespace PearlReport

structure BackendFault where
  code : String
  status : UInt16
  message : String
deriving DecidableEq

namespace BackendFault

def fields :=
  Fields.cons (.required "Code") .text <|
  .cons (.required "HttpErrorCode") (.leaf (.whole .unsigned16)) <|
  .cons (.required "Message") .text .nil

def shape : Shape BackendFault :=
  .record "BackendError" fields
    ⟨fun (a, b, c, ()) => ⟨a, b, c⟩, fun f => (f.code, f.status, f.message, ()),
     fun _ => rfl, fun _ => rfl⟩

end BackendFault

structure TapeFailure where
  tapeId : String
  errorMessage : String
deriving DecidableEq

namespace TapeFailure

def fields :=
  Fields.cons (.required "tapeId") .text <| .cons (.required "errorMessage") .text .nil

def shape : Shape TapeFailure :=
  .record "TapeFailureItem" fields
    ⟨fun (a, b, ()) => ⟨a, b⟩, fun f => (f.tapeId, f.errorMessage, ()), fun _ => rfl, fun _ => rfl⟩

end TapeFailure

structure TapeFailures where
  items : List TapeFailure
  nonempty : items ≠ []
deriving DecidableEq

namespace TapeFailures

def header : String := "There are tape failures in BlackPearl:\n"

def footer : String := "To ignore this error use --force"

def line (f : TapeFailure) : String :=
  "Tape ID: " ++ f.tapeId ++ ", Error Message: " ++ f.errorMessage ++ "\n"

def message (fs : TapeFailures) : String :=
  header ++ String.join (fs.items.map line) ++ footer

instance : ToString TapeFailures := ⟨message⟩

def ofList? (items : List TapeFailure) : Option TapeFailures :=
  match items with
  | [] => none
  | f :: fs => some ⟨f :: fs, by simp⟩

end TapeFailures

inductive Error where
  | serialization (complaint : Json.Complaint)
  | emptyFailureSet
  | tapeFailures (failures : TapeFailures)
  | failedRequest (status : UInt16) (response : String)
  | invalidInput (text : String)
  | config (text : String)
  | io (error : SystemError)
deriving DecidableEq

def TapeFailures.aggregate (items : List TapeFailure) : Except Error TapeFailures :=
  match ofList? items with
  | some failures => .ok failures
  | none => .error .emptyFailureSet

namespace Error

def message : Error → String
  | .serialization c => "Serialization error: " ++ c.message
  | .emptyFailureSet => "Cannot aggregate an empty set of failures"
  | .tapeFailures fs => fs.message
  | .failedRequest status response =>
    "Request failed with status code " ++ toString status.toNat ++ ": " ++ response
  | .invalidInput text => "Invalid input: " ++ text
  | .config text => "Config error: " ++ text
  | .io e => "IO error: " ++ e.message

open Text (quoted)

def complaintText (c : Json.Complaint) : String :=
  let mark := c.mark.getD ⟨0, 0⟩
  "Error(" ++ quoted c.cause.message ++ ", line: " ++ toString mark.line ++ ", column: " ++
    toString mark.column ++ ")"

def failureText (f : TapeFailure) : String :=
  "TapeFailureItem \x7b tape_id: " ++ quoted f.tapeId ++ ", error_message: " ++
    quoted f.errorMessage ++ " \x7d"

def systemText (e : SystemError) : String :=
  match e with
  | .os code =>
    "Os \x7b code: " ++ toString code ++ ", kind: " ++ e.kind ++ ", message: " ++
      quoted (SystemError.describe code) ++ " \x7d"
  | .other text => "Custom \x7b kind: Other, error: " ++ quoted text ++ " \x7d"
  | e => "Error \x7b kind: " ++ e.kind ++ ", message: " ++ quoted e.message ++ " \x7d"

def diagnosticText : Error → String
  | .serialization c => "Serialization(" ++ complaintText c ++ ")"
  | .emptyFailureSet => "EmptyFailureSet"
  | .tapeFailures fs =>
    "TapeFailures(AggregatedFailure \x7b items: [" ++
      ", ".intercalate (fs.items.map failureText) ++ "] \x7d)"
  | .failedRequest status response =>
    "FailedRequest \x7b status_code: " ++ toString status.toNat ++ ", response: " ++
      quoted response ++ " \x7d"
  | .invalidInput text => "InvalidInput(" ++ quoted text ++ ")"
  | .config text => "Config(" ++ quoted text ++ ")"
  | .io e => "Io(" ++ systemText e ++ ")"

end Error

end PearlReport
