import PearlReport.Uuid

/-! What a run is asked to do. -/

namespace PearlReport

inductive Query where
  | tapes
  | bucket
  | service
  | objectHead
  | system
  | storageDomains
  | jobs
  | bulkPut
deriving DecidableEq, Repr

namespace Query

def all : List Query :=
  [tapes, bucket, service, objectHead, system, storageDomains, jobs, bulkPut]

def name : Query → String
  | tapes => "get-tapes"
  | bucket => "get-bucket"
  | service => "get-service"
  | objectHead => "head-object"
  | system => "system-information"
  | storageDomains => "get-storage-domains"
  | jobs => "get-jobs"
  | bulkPut => "put-bulk"

end Query

inductive Request where
  | query (query : Query) (input : String)
  | deleteTape (id : Uuid) (failures : Option String)
  | config (key value : Option String)
deriving DecidableEq

def Request.name : Request → String
  | .query q _ => q.name
  | .deleteTape .. => "delete-tape"
  | .config .. => "config"

def Request.inputs : Request → List String
  | .query _ input => [input]
  | .deleteTape _ failures => failures.toList
  | .config .. => []

structure Invocation where
  request : Request
  verbose : Bool
  force : Bool
  configDir : Option String
deriving DecidableEq

end PearlReport
