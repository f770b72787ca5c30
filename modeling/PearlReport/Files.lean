import PearlReport.SystemError

/-! A tree of files as a program meets it: entries under paths, and the operations on them with the
errors that the system gives. A write may end before all its bytes are taken. -/

namespace PearlReport

inductive Entry where
  | file (content : ByteArray)
  | directory

instance : DecidableEq Entry
  | .file a, .file b =>
    if h : a.data = b.data then isTrue (congrArg Entry.file (ByteArray.ext h))
    else isFalse fun e => h (by cases e; rfl)
  | .directory, .directory => isTrue rfl
  | .file _, .directory => isFalse nofun
  | .directory, .file _ => isFalse nofun

abbrev Location := List String

structure FileTree where
  entry? : Location → Option Entry
  working : Location

namespace FileTree

def empty : FileTree := ⟨fun _ => none, []⟩

/-- The root, the working directory and those between them are always there. -/
def get? (t : FileTree) (l : Location) : Option Entry :=
  if l <+: t.working then some .directory else t.entry? l

def set (t : FileTree) (l : Location) (e : Entry) : FileTree :=
  { t with entry? := fun l' => if l' = l then some e else t.entry? l' }

end FileTree

namespace Path

def plainNames (path : String) : List String :=
  ((splitAt path.toList []).map String.ofList).filter (· ≠ "")
where
  splitAt : List Char → List Char → List (List Char)
    | [], seen => [seen.reverse]
    | c :: cs, seen => if c = '/' then seen.reverse :: splitAt cs [] else splitAt cs (c :: seen)

def endsInSlash (path : String) : Bool := path.toList.getLast? = some '/'

def names (path : String) : List String :=
  if plainNames path ≠ [] ∧ endsInSlash path then plainNames path ++ ["."] else plainNames path

def isAbsolute (path : String) : Bool := path.toList.head? = some '/'

def join (directory name : String) : String :=
  if isAbsolute name then name
  else if directory = "" then name
  else if endsInSlash directory then directory ++ name
  else directory ++ "/" ++ name

def advance (l : Location) (name : String) : Location :=
  if name = "." then l
  else if name = ".." then l.dropLast
  else l ++ [name]

def along (l : Location) : List String → List Location
  | [] => []
  | name :: names => advance l name :: along (advance l name) names

def ofLocation (l : Location) : String := "/" ++ "/".intercalate l

/-- Equal up to repeated slashes and to dots that are not first. -/
def same (a b : String) : Bool := isAbsolute a == isAbsolute b && core a == core b
where
  core (path : String) : List String :=
    match names path with
    | [] => []
    | n :: ns => n :: ns.filter (· ≠ ".")

end Path

namespace FileTree

def start (t : FileTree) (path : String) : Location :=
  if Path.isAbsolute path then [] else t.working

def onTheWay (t : FileTree) (path : String) : List Location :=
  Path.along (t.start path) (Path.names path)

def step (t : FileTree) (l : Location) (name : String) : Except SystemError Location :=
  match t.get? l with
  | none => .error .noEntry
  | some (.file _) => .error .notDirectory
  | some .directory =>
    if 255 < name.utf8ByteSize then .error .nameTooLong else .ok (Path.advance l name)

/-- Where a path leads; the last name need not exist. The system takes paths of at most 4095 bytes
and names of at most 255. -/
def locate (t : FileTree) (path : String) : Except SystemError Location :=
  if path.toList.contains '\x00' then .error .nulInPath
  else if path = "" then .error .noEntry
  else if 4095 < path.utf8ByteSize then .error .nameTooLong
  else (Path.names path).foldlM t.step (t.start path)

def find (t : FileTree) (path : String) : Except SystemError Entry := do
  let l ← t.locate path
  match t.get? l with
  | some e => .ok e
  | none => .error .noEntry

def isThere (t : FileTree) (path : String) : Bool :=
  match t.find path with
  | .ok _ => true
  | .error _ => false

def readBytes (t : FileTree) (path : String) : Except SystemError ByteArray := do
  match ← t.find path with
  | .file content => .ok content
  | .directory => .error .isDirectory

def decode (content : ByteArray) : Except SystemError String :=
  match String.fromUTF8? content with
  | some text => .ok text
  | none => .error .notUtf8

theorem decode_toUTF8 (text : String) : decode text.toUTF8 = .ok text := by
  rw [decode, String.fromUTF8?, String.toUTF8, dif_pos text.isValidUTF8]
  rfl

def readText (t : FileTree) (path : String) : Except SystemError String := do
  let content ← t.readBytes path
  decode content

end FileTree

structure Change where
  files : FileTree
  outcome : Except SystemError Unit

namespace Change

def nothing (t : FileTree) : Change := ⟨t, .ok ()⟩

/-- For a step that leaves the tree as it was if it fails. -/
def ofStep (t : FileTree) : Except SystemError FileTree → Change
  | .ok t => ⟨t, .ok ()⟩
  | .error e => ⟨t, .error e⟩

def andThen (c : Change) (next : FileTree → Change) : Change :=
  match c.outcome with
  | .error _ => c
  | .ok () => next c.files

end Change

/-- What the system fails to do though nothing in the tree forbids it: entries that it refuses to make
or to open, and the bytes of a file after as many as there is room for. -/
structure Device where
  refusal? : Location → Option SystemError
  room? : Option (Nat × SystemError)

namespace Device

def sound : Device := ⟨fun _ => none, none⟩

def shortfall? (device : Device) (size : Nat) : Option (Nat × SystemError) :=
  device.room?.filter (·.1 < size)

end Device

namespace FileTree

/-- Opens the file, which is then new or empty, and writes the content to it; its directory must be
there. What the device takes of the content before it fails stays in the file. -/
def write (t : FileTree) (device : Device) (path : String) (content : ByteArray) : Change :=
  match t.locate path with
  | .error e => ⟨t, .error e⟩
  | .ok l =>
    if t.get? l = some .directory then ⟨t, .error .isDirectory⟩
    else
      match device.refusal? l, device.shortfall? content.size with
      | some e, _ => ⟨t, .error e⟩
      | none, some (room, e) => ⟨t.set l (.file (content.extract 0 room)), .error e⟩
      | none, none => ⟨t.set l (.file content), .ok ()⟩

def isDirectory (t : FileTree) (base : Location) (names : List String) : Bool :=
  match names.foldlM t.step base with
  | .ok l => t.get? l = some .directory
  | .error _ => false

def makeDirectory (t : FileTree) (device : Device) (base : Location) (names : List String) :
    Except SystemError FileTree := do
  let l ← names.foldlM t.step base
  match t.get? l, device.refusal? l with
  | some _, _ => .error .alreadyThere
  | none, some e => .error e
  | none, none => .ok (t.set l .directory)

def takeDirectory (t : FileTree) (device : Device) (base : Location) (names : List String) :
    Change :=
  if t.isDirectory base names then .nothing t else .ofStep t (t.makeDirectory device base names)

def misses (t : FileTree) (device : Device) (base : Location) (names : List String) : Bool :=
  match t.makeDirectory device base names with
  | .ok _ => false
  | .error e => e = .noEntry

/-- Those above are made only if the system misses one of them. -/
def makeBelow (device : Device) (base : Location) (names : List String) (above : FileTree → Change)
    (t : FileTree) : Change :=
  if t.misses device base names then (above t).andThen fun t => t.takeDirectory device base names
  else t.takeDirectory device base names

def makeAbove (device : Device) (base : Location) : List String → FileTree → Change
  | [], t => .nothing t
  | name :: above, t => makeBelow device base (name :: above).reverse (makeAbove device base above) t

/-- The directory under the names, with all those above it. Names `.` count in the last place only,
for what is tried first. -/
def makeNames (device : Device) (base : Location) (names : List String) : FileTree → Change :=
  match (names.filter (· ≠ ".")).reverse with
  | [] => .nothing
  | _ :: above => makeBelow device base names (makeAbove device base above)

def makePath (t : FileTree) (device : Device) (path : String) : Change :=
  if path.toList.contains '\x00' then ⟨t, .error .nulInPath⟩
  else if 4095 < path.utf8ByteSize then ⟨t, .error .nameTooLong⟩
  else makeNames device (t.start path) (Path.plainNames path) t

end FileTree

end PearlReport
