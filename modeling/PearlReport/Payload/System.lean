import PearlReport.Shape.Basic

/-! The appliance itself: its build, its identity and its storage domains. -/

namespace PearlReport

structure BuildInfo where
  branch : String
  revision : String
  version : String
deriving DecidableEq

namespace BuildInfo

def fields :=
  Fields.cons (.required "Branch") .text <|
  .cons (.required "Revision") .text <|
  .cons (.required "Version") .text .nil

def shape : Shape BuildInfo :=
  .record "BuildInformation" fields
    ⟨fun (a, b, c, ()) => ⟨a, b, c⟩, fun i => (i.branch, i.revision, i.version, ()),
     fun _ => rfl, fun _ => rfl⟩

end BuildInfo

structure SystemInfo where
  apiVersion : String
  build : BuildInfo
  serialNumber : String
  instanceId : Uuid
  now : Time.Instant
deriving DecidableEq

namespace SystemInfo

def fields :=
  Fields.cons (.required "ApiVersion") .text <|
  .cons (.required "BuildInformation") BuildInfo.shape <|
  .cons (.required "SerialNumber") .text <|
  .cons (.required "InstanceId") .uuid <|
  .cons (.required "Now") .instant .nil

def shape : Shape SystemInfo :=
  .record "SystemInformation" fields
    ⟨fun (a, b, c, d, e, ()) => ⟨a, b, c, d, e⟩,
     fun i => (i.apiVersion, i.build, i.serialNumber, i.instanceId, i.now, ()),
     fun _ => rfl, fun _ => rfl⟩

end SystemInfo

structure StorageDomain where
  id : Uuid
  name : String
  writeOptimization : Option String
  mediaEjectionAllowed : Bool
  secureMediaAllocation : Bool
deriving DecidableEq

namespace StorageDomain

def fields :=
  Fields.cons (.required "Id") .uuid <|
  .cons (.required "Name") .text <|
  .cons (.defaulted "WriteOptimization" none) (.option .text) <|
  .cons (.defaulted "MediaEjectionAllowed" false) .flag <|
  .cons (.defaulted "SecureMediaAllocation" false) .flag .nil

def shape : Shape StorageDomain :=
  .record "StorageDomain" fields
    ⟨fun (a, b, c, d, e, ()) => ⟨a, b, c, d, e⟩,
     fun d => (d.id, d.name, d.writeOptimization, d.mediaEjectionAllowed, d.secureMediaAllocation,
      ()),
     fun _ => rfl, fun _ => rfl⟩

end StorageDomain

structure StorageDomainListing where
  domains : List StorageDomain
deriving DecidableEq

namespace StorageDomainListing

def fields := Fields.cons (.defaulted "StorageDomains" []) (.list StorageDomain.shape) .nil

def shape : Shape StorageDomainListing :=
  .record "StorageDomainList" fields
    ⟨fun (a, ()) => ⟨a⟩, fun l => (l.domains, ()), fun _ => rfl, fun _ => rfl⟩

end StorageDomainListing

end PearlReport
