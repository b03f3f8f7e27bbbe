set_option autoImplicit false

/-!
# Command-line options

The command line runs a flow file, resumes a paused execution, lists the
waiting tickets or lists the built-in steps. `Options.parse` reads the
arguments after the program name, left to right:

* `--help`/`-h` and `--version`/`-V` answer at once, whatever follows;
* `--state`, `--config`, `--data-dir`, `--resume` and `--value` take the next
  argument, and fail when there is none;
* any other argument starting with `-` is an unknown option;
* the first plain argument is the flow file, a second one is an error.

Once every argument is read, something must be asked for (a flow file, a
resume, `--pending` or `--list-steps`), and `--value` needs `--resume`.
-/

namespace Flowline.Cli

/-- What the command line asks for besides help and version. -/
structure Options where
  flowPath : Option String := none
  statePath : Option String := none
  configPath : Option String := none
  dataDir : Option String := none
  validateOnly : Bool := false
  listSteps : Bool := false
  resume : Option String := none
  value : Option String := none
  pending : Bool := false
  verbose : Bool := false
  deriving Inhabited

/-- A parsed command line. -/
inductive Request where
  /-- Print the usage text. -/
  | help
  /-- Print the program's name and version. -/
  | version
  /-- Do the work the options describe. -/
  | perform (options : Options)
  deriving Inhabited

namespace Options

/-- The message for an option whose argument is missing. -/
def missing (flag what : String) : String := s!"{flag} requires {what}"

/-- Reads the remaining arguments into `o`. -/
def scan (o : Options) : List String → Except String Request
  | [] => .ok (.perform o)
  | "--help" :: _ | "-h" :: _ => .ok .help
  | "--version" :: _ | "-V" :: _ => .ok .version
  | "--verbose" :: rest | "-v" :: rest => scan { o with verbose := true } rest
  | "--validate" :: rest => scan { o with validateOnly := true } rest
  | "--list-steps" :: rest => scan { o with listSteps := true } rest
  | "--pending" :: rest => scan { o with pending := true } rest
  | "--state" :: v :: rest => scan { o with statePath := some v } rest
  | ["--state"] => .error (missing "--state" "a file argument")
  | "--config" :: v :: rest => scan { o with configPath := some v } rest
  | ["--config"] => .error (missing "--config" "a file argument")
  | "--data-dir" :: v :: rest => scan { o with dataDir := some v } rest
  | ["--data-dir"] => .error (missing "--data-dir" "a directory argument")
  | "--resume" :: v :: rest => scan { o with resume := some v } rest
  | ["--resume"] => .error (missing "--resume" "a pause id")
  | "--value" :: v :: rest => scan { o with value := some v } rest
  | ["--value"] => .error (missing "--value" "a JSON argument")
  | other :: rest =>
    if other.startsWith "-" then .error s!"Unknown option: {other}"
    else match o.flowPath with
      | some _ => .error s!"Unexpected argument: {other}"
      | none => scan { o with flowPath := some other } rest

/-- Whether the options ask for any work. -/
def hasCommand (o : Options) : Bool :=
  o.flowPath.isSome || o.resume.isSome || o.pending || o.listSteps

/-- Reads the arguments after the program name. -/
def parse (args : List String) : Except String Request := do
  match ← scan {} args with
  | .perform o =>
    if !o.hasCommand then throw "No flow file given"
    if o.value.isSome && o.resume.isNone then throw "--value only applies with --resume"
    pure (.perform o)
  | other => pure other

end Options

end Flowline.Cli
