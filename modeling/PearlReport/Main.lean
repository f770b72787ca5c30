import PearlReport.Run

/-! The program: what it needs of the system is gathered, the run is worked out, and what the run
leaves is given back to the system. -/

namespace PearlReport.Main

def usage : String := "\n".intercalate <|
  ["Usage: ds3cli [OPTIONS] <COMMAND>", "", "Commands:"] ++
  (CommandLine.top.commands.map ("  " ++ ·)) ++
  ["", "Options:", "  -v, --verbose", "      --force", "      --config-dir <DIR>", "  -h, --help",
    "  -V, --version", ""]

def probe (path : String) : IO (Option Entry) := do
  try
    return some (.file (← IO.FS.readBinFile path))
  catch
    | .inappropriateType _ 21 _ => return some .directory
    | _ => return none

def snapshot (paths : List String) : IO FileTree := do
  let start := { FileTree.empty with working := Path.plainNames (← IO.currentDir).toString }
  (paths.flatMap start.onTheWay).eraseDups.foldlM (fun t l => do
    match ← probe (Path.ofLocation l) with
    | some e => return t.set l e
    | none => return t) start

partial def drain (stream : IO.FS.Stream) (taken : ByteArray) : IO ByteArray := do
  let more ← stream.read 65536
  if more.isEmpty then return taken
  drain stream (taken ++ more)

def store (path : String) (before after : FileTree) : IO Unit :=
  (before.onTheWay path).forM fun l => do
    if after.get? l ≠ before.get? l then
      match after.get? l with
      | some (.file content) => IO.FS.writeBinFile (Path.ofLocation l) content
      | some .directory => IO.FS.createDirAll (Path.ofLocation l)
      | none => return

def systemError : IO.Error → SystemError
  | .resourceExhausted _ code _ => .os code.toNat
  | .resourceVanished code _ => .os code.toNat
  | .permissionDenied _ code _ => .os code.toNat
  | .noFileOrDirectory _ code _ => .os code.toNat
  | .alreadyExists _ code _ => .os code.toNat
  | .inappropriateType _ code _ => .os code.toNat
  | e => .other (toString e)

def palette : IO Palette :=
  return ⟨← IO.getEnv "CLICOLOR_FORCE", ← IO.getEnv "NO_COLOR", ← IO.getEnv "CLICOLOR",
    ← (← IO.getStdout).isTty⟩

def environment : IO Environment :=
  return ⟨← IO.getEnv "DS3CLI_HOME", ← IO.getEnv "XDG_CONFIG_HOME", ← IO.getEnv "HOME"⟩

def perform (i : Invocation) : IO UInt32 := do
  let environment ← environment
  let stored :=
    match environment.settingsDirectory i.configDir with
    | .ok directory => [Settings.path directory]
    | .error _ => []
  let (fromStdin, paths) := i.request.inputs.partition (Path.same "-")
  let files ← snapshot (stored ++ paths)
  let stdin ← if fromStdin.isEmpty then pure ByteArray.empty
    else drain (← IO.getStdin) ByteArray.empty
  let colour := (← palette).colour
  let world (device : Device) : World := ⟨files, device, stdin, environment, false, colour⟩
  let ending ←
    try
      let ending := i.run (world .sound)
      stored.forM fun path => store path files ending.files
      pure ending
    catch e => pure (i.run (world ⟨fun _ => some (systemError e), none⟩))
  try
    IO.eprint ending.stderr
    let stdout ← IO.getStdout
    stdout.putStr ending.stdout
    stdout.flush
    return UInt32.ofNat ending.exit
  catch e =>
    IO.eprint (lastWords (.io (systemError e)) colour)
    return 2

end PearlReport.Main

def main (args : List String) : IO UInt32 := do
  match PearlReport.CommandLine.parse args with
  | .ok i => PearlReport.Main.perform i
  | .error u =>
    match u with
    | .version => IO.println "ds3cli"
    | .help => IO.print PearlReport.Main.usage
    | _ => IO.eprint PearlReport.Main.usage
    return UInt32.ofNat u.exitCode
