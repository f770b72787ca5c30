import PearlReport.Report

/-! One made-up appliance, for showing what each report looks like. -/

namespace PearlReport.Sample

def instant : Time.Instant := ⟨1454322600, 125000000, by decide, by decide, by decide⟩

def owner : Owner := ⟨"d6cc3b3b-3ae1-4ffa-a4c4-1c4d2d0b1b8c", "jason"⟩

def tape (barCode : String) : Tape where
  id := .nil
  barCode := some barCode
  state := .normal
  type := "LTO6"
  partitionId := some .nil
  storageDomainId := none
  availableRawCapacity := some 2408088338432
  totalRawCapacity := some 2408088338432
  assignedToStorageDomain := false
  writeProtected := false
  fullOfData := false
  lastAccessed := none
  lastModified := some instant
  lastVerified := none

def tapes : TapeListing := ⟨[tape "121552L6", tape "121553L6"]⟩

def object (key : String) (size : UInt64) : ObjectEntry where
  key := key
  size := size
  eTag := some "a1b2c3"
  lastModified := some instant
  owner := some owner
  storageClass := none

def bucket (objects : List ObjectEntry) : BucketListing := ⟨"books", objects⟩

def service : ServiceListing := ⟨some owner, [⟨"books", some instant⟩, ⟨"archive", none⟩]⟩

def system : SystemInfo where
  apiVersion := "518B6F2C8D4C4A3E"
  build := ⟨"//BlackPearl/3.2", "152997", "3.2.0"⟩
  serialNumber := "UNKNOWN"
  instanceId := .nil
  now := instant

def storageDomain (name : String) : StorageDomain where
  id := .nil
  name := name
  writeOptimization := some "CAPACITY"
  mediaEjectionAllowed := true
  secureMediaAllocation := false

def job : Job where
  id := .nil
  bucketName := "books"
  name := some "PUT by 10.1.1.1"
  request := .put
  status := .inProgress
  priority := some "NORMAL"
  startDate := some instant
  originalSize := 1024
  completedSize := 512
  userName := some "jason"

def jobs : JobListing := ⟨[job]⟩

end PearlReport.Sample
