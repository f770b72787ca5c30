import PearlReport.Error
import PearlReport.Files
import PearlReport.Shape.Text

/-! The stored settings: two switches in the file `config.json` of a directory. -/

namespace PearlReport

structure Settings where
  verbose : Bool
  force : Bool
deriving DecidableEq, Repr

namespace Settings

def fields :=
  Fields.cons (.defaulted "verbose" false) .flag <|
  .cons (.defaulted "force" false) .flag .nil

def shape : Shape Settings :=
  .record "Ds3Config" fields
    ⟨fun (a, b, ()) => ⟨a, b⟩, fun s => (s.verbose, s.force, ()), fun _ => rfl, fun _ => rfl⟩

def initial : Settings := ⟨false, false⟩

def path (directory : String) : String := Path.join directory "config.json"

def load (t : FileTree) (directory : String) : Except Error Settings :=
  let file := path directory
  if !t.isThere file then .ok initial
  else
    match t.readText file with
    | .error e => .error (.io e)
    | .ok text =>
      (shape.parse text).mapError fun c => .config (file ++ ": " ++ c.message)

def text (s : Settings) : String := (shape.write s).pretty

def content (s : Settings) : ByteArray := s.text.toUTF8

def prepare (t : FileTree) (device : Device) (directory : String) : Change :=
  if t.isThere directory then .nothing t else t.makePath device directory

/-- Writes the settings, after their directory has been made where it was missing. -/
def save (s : Settings) (t : FileTree) (device : Device) (directory : String) : Change :=
  (prepare t device directory).andThen fun t => t.write device (path directory) s.content

def get? (s : Settings) (key : String) : Option Bool :=
  if key = "verbose" then some s.verbose
  else if key = "force" then some s.force
  else none

def unknownKey (key : String) : Error := .config ("Unknown config key: " ++ key)

def flag? (text : String) : Option Bool :=
  if text = "true" then some true
  else if text = "false" then some false
  else none

/-- The key is judged before the value. -/
def set (s : Settings) (key value : String) : Except Error Settings :=
  match s.get? key with
  | none => .error (unknownKey key)
  | some _ =>
    match flag? value with
    | none => .error (.invalidInput (key ++ " expects true or false, got '" ++ value ++ "'"))
    | some b => .ok (if key = "verbose" then ⟨b, s.force⟩ else ⟨s.verbose, b⟩)

def withFlags (s : Settings) (verbose force : Bool) : Settings :=
  ⟨s.verbose || verbose, s.force || force⟩

end Settings

structure Environment where
  override : Option String
  configHome : Option String
  home : Option String

/-- The directory of the settings: the one asked for, the overriding variable, or the place that the
desktop conventions give. -/
def Environment.settingsDirectory (e : Environment) (explicit : Option String) :
    Except Error String :=
  match explicit.or e.override with
  | some directory => .ok directory
  | none =>
    match e.configHome.filter Path.isAbsolute, e.home.filter (· ≠ "") with
    | some directory, _ => .ok (Path.join directory "ds3cli")
    | none, some home => .ok (Path.join (Path.join home ".config") "ds3cli")
    | none, none => .error (.config "Could not determine config dir")

end PearlReport
