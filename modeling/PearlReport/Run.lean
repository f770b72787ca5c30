import PearlReport.CommandLine
import PearlReport.Log
import PearlReport.Report

/-! A whole run as a function of the world it finds: files, standard input, environment and the two
output streams. -/

namespace PearlReport

structure World where
  files : FileTree
  device : Device
  stdin : ByteArray
  environment : Environment
  full : Bool
  colour : Bool

structure Result where
  outcome : Except Error Report
  notes : List String
  files : FileTree

def World.read (w : World) (path : String) : Except Error String :=
  if Path.same path "-" then (FileTree.decode w.stdin).mapError .io
  else
    (w.files.readText path).mapError fun e => .invalidInput (path ++ ": " ++ e.message)

namespace World

def answer (w : World) (q : Query) (input : String) : Result :=
  match w.read input with
  | .error e => ⟨.error e, [], w.files⟩
  | .ok text =>
    ⟨q.report text, ["Read " ++ toString text.utf8ByteSize ++ " bytes from " ++ input], w.files⟩

def reported (w : World) (failures : Option String) : Except Error (List TapeFailure) :=
  match failures with
  | none => .ok []
  | some path => do
    let text ← w.read path
    (Shape.list TapeFailure.shape).ofResponse text

def delete (w : World) (force : Bool) (id : Uuid) (failures : Option String) : Result :=
  match w.reported failures with
  | .error e => ⟨.error e, [], w.files⟩
  | .ok items =>
    let check := checkFailures items force
    ⟨check.outcome.map fun _ => .status ("Success: Deleted tape " ++ String.ofList id.text),
      ("Checking " ++ toString items.length ++ " reported tape failure(s)") :: check.notes,
      w.files⟩

def showSetting (s : Settings) (key : String) : Except Error Report :=
  match s.get? key with
  | some b => .ok (.status (key ++ " = " ++ (if b then "true" else "false")))
  | none => .error (Settings.unknownKey key)

def changeSetting (w : World) (directory key value : String) : Except Error Settings × FileTree :=
  match Settings.load w.files directory >>= fun stored => stored.set key value with
  | .error e => (.error e, w.files)
  | .ok changed =>
    let saved := changed.save w.files w.device directory
    ((fun _ => changed) <$> saved.outcome.mapError .io, saved.files)

/-- Works on the stored settings; switches of this run do not enter them. -/
def configure (w : World) (directory : String) (key value : Option String) : Result :=
  match key, value with
  | some key, some value =>
    match w.changeSetting directory key value with
    | (.error e, files) => ⟨.error e, [], files⟩
    | (.ok changed, files) =>
      ⟨.ok (.settings changed (some (key ++ " set to " ++ value))),
        ["Saved config to " ++ directory], files⟩
  | some key, none =>
    ⟨Settings.load w.files directory >>= fun s => showSetting s key, [], w.files⟩
  | none, _ => ⟨(.settings · none) <$> Settings.load w.files directory, [], w.files⟩

def execute (w : World) (directory : String) (settings : Settings) : Request → Result
  | .query q input => w.answer q input
  | .deleteTape id failures => w.delete settings.force id failures
  | .config key value => w.configure directory key value

end World

structure Session where
  outcome : Except Error Report
  log : Log
  files : FileTree

/-- A run whose settings lie in `directory`. If they cannot be read, that is the outcome, and only
the switch decides about diagnostics. -/
def Invocation.sessionIn (i : Invocation) (w : World) (directory : String) : Session :=
  match Settings.load w.files directory with
  | .error e => ⟨.error e, .new i.verbose, w.files⟩
  | .ok stored =>
    let settings := stored.withFlags i.verbose i.force
    let result := w.execute directory settings i.request
    let notes := ["Using config dir " ++ directory] ++
      (if settings.force then ["Tape failures will be ignored"] else []) ++
      ["Running " ++ i.request.name] ++ result.notes
    ⟨result.outcome, (Log.new settings.verbose).noteAll notes, result.files⟩

def Invocation.session (i : Invocation) (w : World) : Session :=
  match w.environment.settingsDirectory i.configDir with
  | .error e => ⟨.error e, .new i.verbose, w.files⟩
  | .ok directory => i.sessionIn w directory

/-- The envelope of an outcome with the status it has, and the notes of telling it. A report that
cannot be written is told as that error. -/
def tell (outcome : Except Error Report) : Noted (Except Error (Status × String)) :=
  let rendered : Noted (Except Error String) :=
    match outcome with
    | .ok r => r.serialize
    | .error e => ⟨.error e, []⟩
  match rendered.outcome with
  | .ok text => ⟨.ok (.ok, text), rendered.notes⟩
  | .error e =>
    ⟨(Status.error, ·) <$> e.serialize,
      rendered.notes ++ ["Command failed: " ++ e.diagnosticText]⟩

structure Ending where
  exit : Nat
  stdout : String
  stderr : String
  files : FileTree

def lastWords (e : Error) (colour : Bool) : String :=
  (if colour then Terminal.styled Terminal.red "ERROR:" else "ERROR:") ++ " " ++ e.message ++ "\n"

def Session.finish (s : Session) (w : World) : Ending :=
  let told := tell s.outcome
  let stderr := (s.log.noteAll told.notes).text w.colour
  let cut (e : Error) : Ending := ⟨2, "", stderr ++ lastWords e w.colour, s.files⟩
  match told.outcome with
  | .error e => cut e
  | .ok (status, text) =>
    if w.full then cut (.io .noSpace) else ⟨status.exitCode, text ++ "\n", stderr, s.files⟩

def Invocation.run (i : Invocation) (w : World) : Ending := (i.session w).finish w

end PearlReport
