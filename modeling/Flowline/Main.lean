import Flowline.Cli.Program
set_option autoImplicit false

/-!
# The command-line entry point

The program itself is `Cli.execute`, a function of the arguments, the
environment and a world. This module connects it to the machine:

* it reads the variables the program looks at;
* it takes a snapshot of the files the run may touch: the flow, state and
  configuration files named on the command line, and the data directory
  with its `pauses` and `runs` directories;
* it starts the world's clock at the time the process started and draws a
  random prefix for the identifiers the run makes;
* it runs the program, writes back every file the run created, changed or
  removed, prints what the run wrote and exits with its code.
-/

namespace Flowline.Cli.Machine

/-- The variables the program reads. -/
def watched : List String :=
  ["RUST_LOG", "FLOWRUNNER_HOME", "FLOWRUNNER_MAX_ITERATIONS", "FLOWRUNNER_MAX_DEPTH",
    "FLOWRUNNER_STEP_TIMEOUT_MS"]

/-- The variables of the process that the program reads. -/
def environment : IO Environment := do
  let mut env : Environment := []
  for name in watched do
    if let some value ← IO.getEnv name then
      env := env ++ [(name, value)]
  pure env

/-- Adds what is at a path to a snapshot: a file with its content, or a
directory. Nothing is added for a path that does not exist or cannot be
read as text. -/
def addEntry (d : Disk) (path : String) : IO Disk := do
  let full := d.full path
  try
    let real ← IO.FS.realPath full
    if ← real.isDir then
      pure { d with dirs := d.dirs ++ [full] }
    else
      let content ← IO.FS.readFile full
      pure { d with files := d.files ++ [(full, content)] }
  catch _ => pure d

/-- Adds a directory and the entries directly in it to a snapshot. -/
def addListing (d : Disk) (path : String) : IO Disk := do
  let d ← addEntry d path
  let full := d.full path
  try
    let real ← IO.FS.realPath full
    if !(← real.isDir) then return d
    let mut d := d
    for entry in ← real.readDir do
      d ← addEntry d (joinPath full entry.fileName)
    pure d
  catch _ => pure d

/-- Every path from the first part of `path` down to `path` itself. -/
def prefixes (path : String) : List String :=
  let ps := Disk.parts path
  (List.range ps.length).map fun n => Disk.join (path.startsWith "/") (ps.take (n + 1))

/-- The snapshot of the files a run may touch. -/
def snapshot (args : List String) (env : Environment) (cwd : String) : IO Disk := do
  let mut d := Disk.withRoot cwd
  match Options.parse args with
  | .ok (.perform o) =>
    for path in [o.flowPath, o.statePath, o.configPath].filterMap id do
      d ← addEntry d path
  | _ => pure ()
  match plan args env { disk := d } with
  | some (_, config) =>
    for p in prefixes (d.full config.dataDir) do
      d ← addEntry d p
    d ← addListing d config.pauseDir
    d ← addEntry d config.runsDir
  | none => pure ()
  pure d

/-- Writes back what a run changed: new directories, new or changed files,
and removed files. -/
def writeBack (before after : Disk) : IO Unit := do
  for dir in after.dirs do
    if !before.dirs.contains dir then
      IO.FS.createDirAll dir
  for (path, content) in after.files do
    if before.fileAt? path != some content then
      IO.FS.writeFile path content
  for (path, _) in before.files do
    if (after.fileAt? path).isNone then
      IO.FS.removeFile path

/-- Lower-case hexadecimal digits of a number, `width` of them. -/
def hexDigits (n width : Nat) : String :=
  let digits := Nat.toDigits 16 (n % Nat.pow 16 width)
  String.ofList (List.replicate (width - digits.length) '0' ++ digits)

/-- A random prefix for identifiers, shaped like the first four groups of a
version 4 UUID. -/
def randomPrefix : IO String := do
  let a ← IO.rand 0 (Nat.pow 16 8 - 1)
  let b ← IO.rand 0 (Nat.pow 16 4 - 1)
  let c ← IO.rand 0 (Nat.pow 16 3 - 1)
  let v ← IO.rand 8 11
  let e ← IO.rand 0 (Nat.pow 16 3 - 1)
  pure s!"{hexDigits a 8}-{hexDigits b 4}-4{hexDigits c 3}-{hexDigits v 1}{hexDigits e 3}"

/-- The time the process started, in nanoseconds since 1970, or `0` when the
system does not say. -/
def startTime : IO Nat := do
  try
    let self ← IO.FS.realPath "/proc/self"
    let t := (← self.metadata).modified
    pure (t.sec.toNat * 1000000000 + t.nsec.toNat)
  catch _ => pure 0

end Flowline.Cli.Machine

/-- Runs the command line. -/
def main (args : List String) : IO UInt32 := do
  let env ← Flowline.Cli.Machine.environment
  let cwd := (← IO.currentDir).toString
  let before ← Flowline.Cli.Machine.snapshot args env cwd
  let world : Flowline.World :=
    { disk := before, idPrefix := ← Flowline.Cli.Machine.randomPrefix,
      clock := ← Flowline.Cli.Machine.startTime }
  let (transcript, after) := Flowline.Cli.execute args env world
  Flowline.Cli.Machine.writeBack before after.disk
  IO.print transcript.stdout
  IO.eprint transcript.stderr
  pure (UInt32.ofNat transcript.exitCode)
