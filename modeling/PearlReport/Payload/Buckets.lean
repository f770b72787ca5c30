import PearlReport.Shape.Basic

/-! Buckets, the objects in a bucket, who owns them, and the metadata of one object. -/

namespace PearlReport

structure Owner where
  id : String
  displayName : String
deriving DecidableEq

namespace Owner

def fields := Fields.cons (.required "Id") .text <| .cons (.required "DisplayName") .text .nil

def shape : Shape Owner :=
  .record "Owner" fields
    ⟨fun (a, b, ()) => ⟨a, b⟩, fun o => (o.id, o.displayName, ()), fun _ => rfl, fun _ => rfl⟩

end Owner

structure ObjectEntry where
  key : String
  size : UInt64
  eTag : Option String
  lastModified : Option Time.Instant
  owner : Option Owner
  storageClass : Option String
deriving DecidableEq

namespace ObjectEntry

def fields :=
  Fields.cons (.required "Key") .text <|
  .cons (.required "Size") .size <|
  .cons (.defaulted "ETag" none) (.option .text) <|
  .cons (.defaulted "LastModified" none) (.option .instant) <|
  .cons (.defaulted "Owner" none) (.option Owner.shape) <|
  .cons (.defaulted "StorageClass" none) (.option .text) .nil

def shape : Shape ObjectEntry :=
  .record "Contents" fields
    ⟨fun (a, b, c, d, e, f, ()) => ⟨a, b, c, d, e, f⟩,
     fun o => (o.key, o.size, o.eTag, o.lastModified, o.owner, o.storageClass, ()),
     fun _ => rfl, fun _ => rfl⟩

end ObjectEntry

structure BucketListing where
  name : String
  objects : List ObjectEntry
deriving DecidableEq

namespace BucketListing

def parts : Parts BucketListing (String × List ObjectEntry × Unit) :=
  ⟨fun (a, b, ()) => ⟨a, b⟩, fun l => (l.name, l.objects, ()), fun _ => rfl, fun _ => rfl⟩

def fields :=
  Fields.cons (.required "Name") .text <|
  .cons (.defaulted "Contents" []) (.list ObjectEntry.shape) .nil

def shape : Shape BucketListing := .record "ListBucketResult" fields parts

end BucketListing

structure BucketEntry where
  name : String
  creationDate : Option Time.Instant
deriving DecidableEq

namespace BucketEntry

def fields :=
  Fields.cons (.required "Name") .text <|
  .cons (.defaulted "CreationDate" none) (.option .instant) .nil

def shape : Shape BucketEntry :=
  .record "BucketDetails" fields
    ⟨fun (a, b, ()) => ⟨a, b⟩, fun b => (b.name, b.creationDate, ()), fun _ => rfl, fun _ => rfl⟩

end BucketEntry

structure ServiceListing where
  owner : Option Owner
  buckets : List BucketEntry
deriving DecidableEq

namespace ServiceListing

def fields :=
  Fields.cons (.defaulted "Owner" none) (.option Owner.shape) <|
  .cons (.defaulted "Buckets" []) (.list BucketEntry.shape) .nil

def shape : Shape ServiceListing :=
  .record "ListAllMyBucketsResult" fields
    ⟨fun (a, b, ()) => ⟨a, b⟩, fun l => (l.owner, l.buckets, ()), fun _ => rfl, fun _ => rfl⟩

end ServiceListing

inductive ObjectStatus where
  | nearLine
  | onTape
  | inProgress
  | doesntExist
  | unknown
deriving DecidableEq, Repr

namespace ObjectStatus

def name : ObjectStatus → String
  | nearLine => "NEAR_LINE"
  | onTape => "ON_TAPE"
  | inProgress => "IN_PROGRESS"
  | doesntExist => "DOESNT_EXIST"
  | unknown => "UNKNOWN"

def vocabulary : Vocabulary ObjectStatus :=
  .ofList [nearLine, onTape, inProgress, doesntExist, unknown] name (some unknown)

def shape : Shape ObjectStatus := .word vocabulary

end ObjectStatus

abbrev Metadata := Json.Dict (List String)

def Metadata.shape : Shape Metadata := .dict (.list .text)

structure ObjectHead where
  metadata : Metadata
  status : ObjectStatus
deriving DecidableEq

namespace ObjectHead

def fields :=
  Fields.cons (.defaulted "Metadata" Json.Dict.empty) Metadata.shape <|
  .cons (.required "Status") ObjectStatus.shape .nil

def shape : Shape ObjectHead :=
  .record "HeadObjectResponse" fields
    ⟨fun (a, b, ()) => ⟨a, b⟩, fun h => (h.metadata, h.status, ()), fun _ => rfl, fun _ => rfl⟩

end ObjectHead

end PearlReport
