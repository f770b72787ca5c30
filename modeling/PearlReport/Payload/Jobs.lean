import PearlReport.Shape.Basic

/-! Transfer jobs, and the outcome of a bulk put. -/

namespace PearlReport

inductive JobRequest where
  | put
  | get
  | verify
deriving DecidableEq, Repr

namespace JobRequest

def name : JobRequest → String
  | put => "PUT"
  | get => "GET"
  | verify => "VERIFY"

def vocabulary : Vocabulary JobRequest := .ofList [put, get, verify] name none

def shape : Shape JobRequest := .word vocabulary

end JobRequest

inductive JobStatus where
  | inProgress
  | completed
  | canceled
deriving DecidableEq, Repr

namespace JobStatus

def name : JobStatus → String
  | inProgress => "IN_PROGRESS"
  | completed => "COMPLETED"
  | canceled => "CANCELED"

def vocabulary : Vocabulary JobStatus := .ofList [inProgress, completed, canceled] name none

def shape : Shape JobStatus := .word vocabulary

end JobStatus

structure Job where
  id : Uuid
  bucketName : String
  name : Option String
  request : JobRequest
  status : JobStatus
  priority : Option String
  startDate : Option Time.Instant
  originalSize : UInt64
  completedSize : UInt64
  userName : Option String
deriving DecidableEq

namespace Job

def fields :=
  Fields.cons (.required "JobId") .uuid <|
  .cons (.required "BucketName") .text <|
  .cons (.defaulted "Name" none) (.option .text) <|
  .cons (.required "RequestType") JobRequest.shape <|
  .cons (.required "Status") JobStatus.shape <|
  .cons (.defaulted "Priority" none) (.option .text) <|
  .cons (.defaulted "StartDate" none) (.option .instant) <|
  .cons (.defaulted "OriginalSizeInBytes" 0) .size <|
  .cons (.defaulted "CompletedSizeInBytes" 0) .size <|
  .cons (.defaulted "UserName" none) (.option .text) .nil

def shape : Shape Job :=
  .record "Job" fields
    ⟨fun (a, b, c, d, e, f, g, h, i, j, ()) => ⟨a, b, c, d, e, f, g, h, i, j⟩,
     fun j => (j.id, j.bucketName, j.name, j.request, j.status, j.priority, j.startDate,
      j.originalSize, j.completedSize, j.userName, ()),
     fun _ => rfl, fun _ => rfl⟩

end Job

structure JobListing where
  jobs : List Job
deriving DecidableEq

namespace JobListing

def fields := Fields.cons (.defaulted "Jobs" []) (.list Job.shape) .nil

def shape : Shape JobListing :=
  .record "JobList" fields
    ⟨fun (a, ()) => ⟨a⟩, fun l => (l.jobs, ()), fun _ => rfl, fun _ => rfl⟩

end JobListing

structure IgnoredFile where
  path : String
  errorMessage : String
deriving DecidableEq

namespace IgnoredFile

def fields :=
  Fields.cons (.required "path") .text <| .cons (.required "error_message") .text .nil

def shape : Shape IgnoredFile :=
  .record "IgnoredFile" fields
    ⟨fun (a, b, ()) => ⟨a, b⟩, fun f => (f.path, f.errorMessage, ()), fun _ => rfl, fun _ => rfl⟩

end IgnoredFile

structure BulkPutReport where
  statusMessage : String
  ignoredFiles : List IgnoredFile
deriving DecidableEq

namespace BulkPutReport

def fields :=
  Fields.cons (.required "status_message") .text <|
  .cons (.defaulted "ignored_files" []) (.list IgnoredFile.shape) .nil

def shape : Shape BulkPutReport :=
  .record "PutBulkResult" fields
    ⟨fun (a, b, ()) => ⟨a, b⟩, fun r => (r.statusMessage, r.ignoredFiles, ()),
     fun _ => rfl, fun _ => rfl⟩

end BulkPutReport

end PearlReport
