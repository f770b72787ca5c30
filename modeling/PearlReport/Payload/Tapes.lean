import PearlReport.Shape.Basic

/-! Tapes as the appliance lists them. -/

namespace PearlReport

inductive TapeState where
  | normal
  | offline
  | onlinePending
  | onlineInProgress
  | pendingInspection
  | dataCheckpointFailure
  | dataCheckpointMissing
  | foreign
  | importPending
  | importInProgress
  | lostFromPartition
  | ejectToEePending
  | ejected
  | barCodeMissing
  | unknown
deriving DecidableEq, Repr

namespace TapeState

def name : TapeState → String
  | normal => "NORMAL"
  | offline => "OFFLINE"
  | onlinePending => "ONLINE_PENDING"
  | onlineInProgress => "ONLINE_IN_PROGRESS"
  | pendingInspection => "PENDING_INSPECTION"
  | dataCheckpointFailure => "DATA_CHECKPOINT_FAILURE"
  | dataCheckpointMissing => "DATA_CHECKPOINT_MISSING"
  | foreign => "FOREIGN"
  | importPending => "IMPORT_PENDING"
  | importInProgress => "IMPORT_IN_PROGRESS"
  | lostFromPartition => "LOST_FROM_PARTITION"
  | ejectToEePending => "EJECT_TO_EE_PENDING"
  | ejected => "EJECTED"
  | barCodeMissing => "BAR_CODE_MISSING"
  | unknown => "UNKNOWN"

def vocabulary : Vocabulary TapeState :=
  .ofList [normal, offline, onlinePending, onlineInProgress, pendingInspection,
    dataCheckpointFailure, dataCheckpointMissing, foreign, importPending, importInProgress,
    lostFromPartition, ejectToEePending, ejected, barCodeMissing, unknown] name (some unknown)

def shape : Shape TapeState := .word vocabulary

end TapeState

structure Tape where
  id : Uuid
  barCode : Option String
  state : TapeState
  type : String
  partitionId : Option Uuid
  storageDomainId : Option Uuid
  availableRawCapacity : Option UInt64
  totalRawCapacity : Option UInt64
  assignedToStorageDomain : Bool
  writeProtected : Bool
  fullOfData : Bool
  lastAccessed : Option Time.Instant
  lastModified : Option Time.Instant
  lastVerified : Option Time.Instant
deriving DecidableEq

namespace Tape

def fields :=
  Fields.cons (.required "Id") .uuid <|
  .cons (.defaulted "BarCode" none) (.option .text) <|
  .cons (.required "State") TapeState.shape <|
  .cons (.required "Type") .text <|
  .cons (.defaulted "PartitionId" none) (.option .uuid) <|
  .cons (.defaulted "StorageDomainId" none) (.option .uuid) <|
  .cons (.defaulted "AvailableRawCapacity" none) (.option .size) <|
  .cons (.defaulted "TotalRawCapacity" none) (.option .size) <|
  .cons (.defaulted "AssignedToStorageDomain" false) .flag <|
  .cons (.defaulted "WriteProtected" false) .flag <|
  .cons (.defaulted "FullOfData" false) .flag <|
  .cons (.defaulted "LastAccessed" none) (.option .instant) <|
  .cons (.defaulted "LastModified" none) (.option .instant) <|
  .cons (.defaulted "LastVerified" none) (.option .instant) .nil

def shape : Shape Tape :=
  .record "Tape" fields
    ⟨fun (a, b, c, d, e, f, g, h, i, j, k, l, m, n, ()) =>
      ⟨a, b, c, d, e, f, g, h, i, j, k, l, m, n⟩,
     fun t => (t.id, t.barCode, t.state, t.type, t.partitionId, t.storageDomainId,
      t.availableRawCapacity, t.totalRawCapacity, t.assignedToStorageDomain, t.writeProtected,
      t.fullOfData, t.lastAccessed, t.lastModified, t.lastVerified, ()),
     fun _ => rfl, fun _ => rfl⟩

end Tape

structure TapeListing where
  tapes : List Tape
deriving DecidableEq

namespace TapeListing

def fields := Fields.cons (.defaulted "Tapes" []) (.list Tape.shape) .nil

def shape : Shape TapeListing :=
  .record "TapeList" fields
    ⟨fun (a, ()) => ⟨a⟩, fun l => (l.tapes, ()), fun _ => rfl, fun _ => rfl⟩

end TapeListing

end PearlReport
