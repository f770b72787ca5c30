import PearlReport.Request

/-! The command line: options before the command, then the command with options and operands of its
own. An option may be given once before the command and once after it; the later one counts. The version
comes with the short revision that the build was stamped with, as far as the revision tool told one. -/

namespace PearlReport.CommandLine

inductive Usage where
  | help
  | helpForNothing
  | version
  | unknownArgument
  | unknownCommand
  | missingCommand
  | missingOption
  | repeated
  | badValue
  | invalidValue
  | tooManyValues
deriving DecidableEq, Repr

def Usage.exitCode : Usage → Nat
  | .help | .version => 0
  | _ => 2

inductive ValueKind where
  | path
  | uuid
deriving DecidableEq, Repr

inductive Action where
  | raise
  | take (kind : ValueKind)
  | showHelp
  | showVersion
deriving DecidableEq, Repr

structure Switch where
  long : String
  short : Option Char
  action : Action
deriving DecidableEq, Repr

def verbose : Switch := ⟨"verbose", some 'v', .raise⟩
def force : Switch := ⟨"force", none, .raise⟩
def configDir : Switch := ⟨"config-dir", none, .take .path⟩
def help : Switch := ⟨"help", some 'h', .showHelp⟩
def version : Switch := ⟨"version", some 'V', .showVersion⟩
def input : Switch := ⟨"input", some 'i', .take .path⟩
def id : Switch := ⟨"id", none, .take .uuid⟩
def failures : Switch := ⟨"failures", none, .take .path⟩

def everywhere : List Switch := [verbose, force, configDir, help]

structure Level where
  switches : List Switch
  operands : Nat
  commands : List String

def deleteTapeName : String := "delete-tape"
def configName : String := "config"
def helpName : String := "help"

def top : Level :=
  ⟨version :: everywhere, 0, Query.all.map Query.name ++ [deleteTapeName, configName, helpName]⟩

def levelOf (command : String) : Level :=
  if command = deleteTapeName then ⟨id :: failures :: everywhere, 0, []⟩
  else if command = configName then ⟨everywhere, 2, []⟩
  else ⟨input :: everywhere, 0, []⟩

/-- What a level has collected. A value that stands apart from its option stays pending until
something else is met: only then it is judged. -/
structure Found where
  given : List (Switch × String)
  operands : List String
  pending : Option (Switch × Option String)

namespace Found

def none : Found := ⟨[], [], .none⟩

def has (f : Found) (s : Switch) : Bool := f.given.any fun g => g.1 == s

def value? (f : Found) (s : Switch) : Option String := f.given.lookup s

def check (s : Switch) (value : String) : Except Usage Unit :=
  match s.action with
  | .take .path => if value = "" then .error .badValue else .ok ()
  | .take .uuid => if (Uuid.ofText? value.toList).isSome then .ok () else .error .invalidValue
  | _ => .ok ()

def accept (f : Found) (s : Switch) (value : String) : Except Usage Found := do
  if f.has s then .error .repeated
  check s value
  .ok ⟨f.given ++ [(s, value)], f.operands, .none⟩

def settle (f : Found) : Except Usage Found :=
  match f.pending with
  | .none => .ok f
  | some (_, .none) => .error .badValue
  | some (s, some value) => f.accept s value

def wantsValue (f : Found) : Bool :=
  match f.pending with
  | some (_, .none) => true
  | _ => false

def raise (f : Found) (s : Switch) : Except Usage Found := do
  let f ← f.settle
  match s.action with
  | .showHelp => .error .help
  | .showVersion => .error .version
  | _ => f.accept s "true"

def take (f : Found) (s : Switch) (attached : Option String) : Except Usage Found := do
  let f ← f.settle
  match attached with
  | some value => f.accept s value
  | .none => .ok ⟨f.given, f.operands, some (s, .none)⟩

end Found

def splitEquals : List Char → List Char × Option (List Char)
  | [] => ([], none)
  | c :: cs =>
    if c = '=' then ([], some cs)
    else
      let (name, value) := splitEquals cs
      (c :: name, value)

def longSwitch (l : Level) (f : Found) (cs : List Char) : Except Usage Found :=
  let (name, value) := splitEquals cs
  match l.switches.find? fun s => s.long.toList == name with
  | none => .error .unknownArgument
  | some s =>
    match s.action, value with
    | .take _, value => f.take s (value.map String.ofList)
    | _, some _ => .error .tooManyValues
    | _, none => f.raise s

def shortSwitches (l : Level) (f : Found) : List Char → Except Usage Found
  | [] => .ok f
  | c :: cs =>
    match l.switches.find? fun s => s.short == some c with
    | none => .error .unknownArgument
    | some s =>
      match s.action with
      | .take _ =>
        match cs with
        | [] => f.take s none
        | '=' :: value => f.take s (some (String.ofList value))
        | value => f.take s (some (String.ofList value))
      | _ => do
        let f ← f.raise s
        shortSwitches l f cs

def operand (l : Level) (f : Found) (escaped : Bool) (arg : String) : Except Usage Found :=
  if f.operands.length < l.operands then do
    let f ← f.settle
    .ok ⟨f.given, f.operands ++ [arg], .none⟩
  else if l.commands.isEmpty then .error .unknownArgument
  else if escaped && l.commands.contains arg then .error .unknownArgument
  else .error .unknownCommand

def scan (l : Level) (f : Found) (escaped : Bool) :
    List String → Except Usage (Found × Option (String × List String))
  | [] => .ok (f, none)
  | arg :: args => do
    if escaped then
      let f ← operand l f true arg
      scan l f true args
    else if !f.wantsValue && l.commands.contains arg then .ok (f, some (arg, args))
    else
      match arg.toList with
      | ['-', '-'] => scan l f true args
      | '-' :: '-' :: cs =>
        let f ← longSwitch l f cs
        scan l f false args
      | '-' :: c :: cs =>
        let f ← shortSwitches l f (c :: cs)
        scan l f false args
      | _ =>
        match f.pending with
        | some (s, none) => scan l ⟨f.given, f.operands, some (s, some arg)⟩ false args
        | _ =>
          let f ← operand l f false arg
          scan l f false args

def requestOf (command : String) (f : Found) : Except Usage Request :=
  if command = deleteTapeName then
    match (f.value? id).bind fun text => Uuid.ofText? text.toList with
    | some u => .ok (.deleteTape u (f.value? failures))
    | none => .error .missingOption
  else if command = configName then .ok (.config f.operands[0]? f.operands[1]?)
  else
    match Query.all.find? fun q => q.name == command with
    | some q => .ok (.query q ((f.value? input).getD "-"))
    | none => .error .unknownCommand

def helpOn : List String → Usage
  | [] => .help
  | [command] => if top.commands.contains command then .help else .unknownCommand
  | _ => .unknownCommand

/-- The command's own arguments are judged before a value that is pending in front of it. -/
def parse (args : List String) : Except Usage Invocation := do
  let (outer, rest) ← scan top .none false args
  match rest with
  | none =>
    let outer ← outer.settle
    .error (if outer.given.isEmpty then .helpForNothing else .missingCommand)
  | some (command, args) =>
    if command = helpName then .error (helpOn args)
    else
      let (inner, _) ← scan (levelOf command) .none false args
      let inner ← inner.settle
      let request ← requestOf command inner
      let outer ← outer.settle
      .ok ⟨request, inner.has verbose || outer.has verbose, inner.has force || outer.has force,
        (inner.value? configDir).or (outer.value? configDir)⟩

end PearlReport.CommandLine

namespace PearlReport

structure ToolRun where
  output : ByteArray
  exit : Nat

namespace BuildStamp

def question : List String := ["rev-parse", "--short", "HEAD"]

def revision (run : Option ToolRun) : String :=
  match run with
  | none => ""
  | some run =>
    if run.exit = 0 then
      match String.fromUTF8? run.output with
      | some text => String.ofList (Text.trim text.toList)
      | none => ""
    else ""

def directives (run : Option ToolRun) : String :=
  "cargo:rerun-if-changed=.git/HEAD\ncargo:rustc-env=GIT_HASH=" ++ revision run ++ "\n"

end BuildStamp

end PearlReport
