import PearlReport.Shape.Text

/-! The one object that every run prints: a status, a message if there is one, data if there is any,
in this order. -/

namespace PearlReport

inductive Status where
  | ok
  | error
deriving DecidableEq, Repr

namespace Status

def name : Status → String
  | ok => "OK"
  | error => "ERROR"

def vocabulary : Vocabulary Status := .ofList [ok, error] name none

def shape : Shape Status := .word vocabulary

def exitCode : Status → Nat
  | ok => 0
  | error => 1

end Status

structure Envelope (α : Type) where
  status : Status
  message : Option String
  data : Option α
deriving DecidableEq

namespace Envelope

variable {α β : Type}

def new (status : Status) : Envelope α := ⟨status, none, none⟩

def ok : Envelope α := new .ok

def error : Envelope α := new .error

def withMessage (e : Envelope α) (message : String) : Envelope α :=
  ⟨e.status, some message, e.data⟩

def withData (e : Envelope α) (data : β) : Envelope β := ⟨e.status, e.message, some data⟩

def isOk (e : Envelope α) : Bool := e.status == .ok

def fields (s : Shape α) :=
  Fields.cons (.required "status") Status.shape <|
  .cons (.optional "message") (.option .text) <|
  .cons (.optional "data") (.option s) .nil

def shape (s : Shape α) : Shape (Envelope α) :=
  .record "Envelope" (fields s)
    ⟨fun (a, b, c, ()) => ⟨a, b, c⟩, fun e => (e.status, e.message, e.data, ()),
     fun _ => rfl, fun _ => rfl⟩

def text (e : Envelope Json.Value) : String := (shape .any).canonical e

end Envelope

end PearlReport
