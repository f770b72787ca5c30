import PearlReport.Envelope
import PearlReport.Log
import PearlReport.Payload.Buckets
import PearlReport.Payload.Jobs
import PearlReport.Payload.System
import PearlReport.Payload.Tapes
import PearlReport.Request
import PearlReport.Settings
import PearlReport.Shape.Serialize

/-! What a captured response reports, and the envelope that tells it. An error document is recognised
before the payload is read, whatever payload was expected. A listing with nothing in it is told by a
message; all else is told whole as data. -/

namespace PearlReport

open Json

structure Payload where
  {α : Type}
  shape : Shape α
  value : α

structure View where
  message : Option String
  data : Option Payload

namespace View

def told (message : String) : View := ⟨some message, none⟩

def whole {α : Type} (s : Shape α) (a : α) : View := ⟨none, some ⟨s, a⟩⟩

def envelope (v : View) (status : Status) : Envelope Json.Value :=
  ⟨status, v.message, v.data.map fun p => p.shape.write p.value⟩

def serialize (v : View) (status : Status) : Except Error String := do
  let data ←
    match v.data with
    | some p => some <$> p.shape.serialize p.value
    | none => .ok none
  (Envelope.shape .any).serializeText ⟨status, v.message, data⟩

end View

inductive Report where
  | tapes (listing : Option TapeListing)
  | bucket (listing : BucketListing)
  | service (listing : Option ServiceListing)
  | objectHead (head : ObjectHead)
  | system (info : SystemInfo)
  | storageDomains (listing : StorageDomainListing)
  | jobs (listing : JobListing)
  | bulkPut (report : BulkPutReport)
  | settings (settings : Settings) (change : Option String)
  | status (message : String)
deriving DecidableEq

namespace Report

def kind : Report → String
  | tapes _ => "get_tapes"
  | bucket _ => "get_bucket"
  | service _ => "get_service"
  | objectHead _ => "head_object"
  | system _ => "system_information"
  | storageDomains _ => "get_storage_domains"
  | jobs _ => "get_jobs"
  | bulkPut _ => "put_bulk"
  | settings .. => "config"
  | status _ => "status"

/-- A bucket is told under other names than it is read. -/
def bucketFields :=
  Fields.cons (.required "BucketName") .text <|
  .cons (.required "Objects") (.list ObjectEntry.shape) .nil

def bucketShape : Shape BucketListing := .record "BucketResult" bucketFields BucketListing.parts

def view : Report → View
  | tapes (some l) =>
    if l.tapes.isEmpty then .told "You do not have any tapes" else .whole TapeListing.shape l
  | tapes none => .told "You do not have any tapes"
  | bucket l =>
    if l.objects.isEmpty then
      .told ("No objects were reported in the bucket '" ++ l.name ++ "'")
    else .whole bucketShape l
  | service (some l) =>
    if l.buckets.isEmpty then .told "You do not have any buckets"
    else .whole ServiceListing.shape l
  | service none => .told "You do not have any buckets"
  | objectHead h => .whole ObjectHead.shape h
  | system i => .whole SystemInfo.shape i
  | storageDomains l =>
    if l.domains.isEmpty then .told "No Storage Domains returned"
    else .whole StorageDomainListing.shape l
  | jobs l => .whole JobListing.shape l
  | bulkPut r =>
    if r.ignoredFiles.isEmpty then .told r.statusMessage else .whole BulkPutReport.shape r
  | settings s change => ⟨change, some ⟨Settings.shape, s⟩⟩
  | status message => .told message

def envelope (r : Report) : Envelope Json.Value := r.view.envelope .ok

def text (r : Report) : String := r.envelope.text

def render (r : Report) : Noted String :=
  ⟨r.text, ["Rendering " ++ r.kind ++ " result",
    "Rendered " ++ toString r.text.utf8ByteSize ++ " bytes"]⟩

def serialize (r : Report) : Noted (Except Error String) :=
  match r.view.serialize .ok with
  | .ok text =>
    ⟨.ok text, ["Rendering " ++ r.kind ++ " result",
      "Rendered " ++ toString text.utf8ByteSize ++ " bytes"]⟩
  | .error e => ⟨.error e, ["Rendering " ++ r.kind ++ " result"]⟩

end Report

namespace Error

def data : Error → Option Payload
  | .tapeFailures fs => some ⟨.list TapeFailure.shape, fs.items⟩
  | .failedRequest status response =>
    some ⟨.dict .text,
      .ofList [("ApiErrorMessage", response), ("StatusCode", toString status.toNat)]⟩
  | _ => none

def view (e : Error) : View := ⟨some e.message, e.data⟩

def envelope (e : Error) : Envelope Json.Value := e.view.envelope .error

def text (e : Error) : String := e.envelope.text

def serialize (e : Error) : Except Error String := e.view.serialize .error

end Error

def backendFault? (v : Value) : Option BackendFault :=
  match v.get? "HttpErrorCode" with
  | none => none
  | some _ => (BackendFault.shape.ofValue v).toOption

def Shape.classify {α : Type} (s : Shape α) (v : Value) : Except Error α :=
  match backendFault? v with
  | some f => .error (.failedRequest f.status f.message)
  | none => (s.ofValue v).mapError fun cause => .invalidInput cause.message

def Shape.ofResponse {α : Type} (s : Shape α) (text : String) : Except Error α :=
  match Value.parse text with
  | .error c => .error (.invalidInput c.message)
  | .ok v => s.classify v

structure Reader where
  {α : Type}
  shape : Shape α
  report : α → Report

def Query.reader : Query → Reader
  | .tapes => ⟨.option TapeListing.shape, .tapes⟩
  | .bucket => ⟨BucketListing.shape, .bucket⟩
  | .service => ⟨.option ServiceListing.shape, .service⟩
  | .objectHead => ⟨ObjectHead.shape, .objectHead⟩
  | .system => ⟨SystemInfo.shape, .system⟩
  | .storageDomains => ⟨StorageDomainListing.shape, .storageDomains⟩
  | .jobs => ⟨JobListing.shape, .jobs⟩
  | .bulkPut => ⟨BulkPutReport.shape, .bulkPut⟩

def Query.report (q : Query) (text : String) : Except Error Report :=
  q.reader.report <$> q.reader.shape.ofResponse text

end PearlReport
