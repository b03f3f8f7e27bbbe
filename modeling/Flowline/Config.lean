import Flowline.Yaml.Parser
import Flowline.Disk
import Flowline.Log
import Flowline.Error
import Flowline.Data.Text
import Flowline.Unicode.Chars
set_option autoImplicit false

/-!
# Engine configuration

Limits shared by the validator and the engine, and where durable data is
kept. Values come from defaults, then an optional YAML file, then the
environment:

* `max_iterations` — how many times one loop may continue (1000);
* `max_depth` — how deep nodes and instances may nest (1000);
* `default_step_timeout_ms` — the timeout of steps without their own;
* `large_definition_threshold` — the node count above which validation warns
  about size (500);
* `data_dir` — the directory of pause tickets (`pauses`) and run summaries
  (`runs`); `FLOWRUNNER_HOME` when set, else `.flowrunner`.

The file is read with the types of its members rather than as plain data:
a count is a plain scalar with an unsigned integer (`5`, `0x10`, even
`!!str 5`, but not `'5'`, `1e3` or `-0`) or a literal block scalar tagged
`!!int`, the data directory is the text of
any scalar (`data_dir: ~` names the directory `~`), and the whole file is a
mapping or empty (`~` alone is refused).

The variables `FLOWRUNNER_MAX_ITERATIONS`, `FLOWRUNNER_MAX_DEPTH` and
`FLOWRUNNER_STEP_TIMEOUT_MS` override the limits; a value that is not a
number is ignored with a warning.
-/

namespace Flowline

/-- The engine's limits and data directory. -/
structure EngineConfig where
  maxIterations : Nat := 1000
  /-- The limit is a 64-bit count, as every source of it reads it. -/
  maxIterations_lt : maxIterations < Nat.pow 2 64 := by decide
  maxDepth : Nat := 1000
  defaultStepTimeoutMs : Option Nat := none
  largeDefinitionThreshold : Nat := 500
  dataDir : String := ".flowrunner"
  deriving Inhabited

/-- The configuration with every default. -/
def EngineConfig.standard : EngineConfig := {}

/-- The process environment as name and value pairs. -/
abbrev Environment := List (String × String)

/-- A variable of the environment. -/
def Environment.get? (env : Environment) (name : String) : Option String :=
  (env.find? (·.1 == name)).map (·.2)

/-- A path below a directory. -/
def joinPath (dir name : String) : String :=
  if dir.isEmpty then name
  else if dir.endsWith "/" then dir ++ name
  else dir ++ "/" ++ name

namespace EngineConfig

/-- Where pause tickets are kept. -/
def pauseDir (c : EngineConfig) : String := joinPath c.dataDir "pauses"

/-- Where run summaries are kept. -/
def runsDir (c : EngineConfig) : String := joinPath c.dataDir "runs"

/-- The default data directory: `FLOWRUNNER_HOME` when it is not blank. -/
def homeDir (env : Environment) : Logged String :=
  match env.get? "FLOWRUNNER_HOME" with
  | some home =>
    if Text.isBlank home then cwdDir
    else do
      Logged.info .config s!"Using FLOWRUNNER_HOME data dir: {home}"
      pure home
  | none => cwdDir
where
  /-- The directory below the working directory. -/
  cwdDir : Logged String := do
    Logged.debug .config "Using CWD data dir: .flowrunner"
    pure ".flowrunner"

/-- The limit of rounds replaced, when a new one is given. -/
def withMaxIterations (c : EngineConfig) : Option {n : Nat // n < Nat.pow 2 64} → EngineConfig
  | some n => { c with maxIterations := n.1, maxIterations_lt := n.2 }
  | none => c

/-- A numeric variable, or nothing with a warning when it is not a number. -/
def envNumber (env : Environment) (key : String) : Logged (Option {n : Nat // n < Nat.pow 2 64}) :=
  match env.get? key with
  | none => pure none
  | some raw =>
    match h : Text.parseU64? (Text.trim raw) with
    | some n => pure (some ⟨n, Text.parseU64?_lt h⟩)
    | none => do
      Logged.warn .config s!"Ignoring {key}={raw}: not a number"
      pure none

/-- Applies the environment's overrides. -/
def applyEnv (c : EngineConfig) (env : Environment) : Logged EngineConfig := do
  let iterations ← envNumber env "FLOWRUNNER_MAX_ITERATIONS"
  let depth ← envNumber env "FLOWRUNNER_MAX_DEPTH"
  let timeout ← envNumber env "FLOWRUNNER_STEP_TIMEOUT_MS"
  pure { c.withMaxIterations iterations with
    maxDepth := (depth.map (·.1)).getD c.maxDepth
    defaultStepTimeoutMs := (timeout.map (·.1)).orElse fun _ => c.defaultStepTimeoutMs }

/-- How a configuration value is named in a refusal. -/
def nodeKind : Yaml.Node → String
  | .scalar s _ _ => s!"string {Unicode.quote s}"
  | .seq _ _ => "sequence"
  | .map _ _ => "map"
  | .alias _ target _ => nodeKind target
  | .cycle _ => "recursive alias"

/-- Whether a scalar is read as a number: a plain one whatever its tag,
or a literal block scalar tagged `!!int`. -/
def numberLike (style : Yaml.Style) (tag : Option Yaml.Tag) : Bool :=
  style == .plain || (style == .literal && tag == some (Yaml.Tag.core "int"))

/-- A count: a scalar read as a number (`numberLike`) whose text is an
unsigned integer below `2^64`. A quoted number, a float or a negative zero
is refused. -/
def countOf (expected : String) (n : Yaml.Node) : Except String {k : Nat // k < Nat.pow 2 64} :=
  match n with
  | .scalar s style tag =>
    if numberLike style tag then
      match Yaml.unsignedMagnitude s with
      | some k =>
        if h : k < Nat.pow 2 64 then .ok ⟨k, h⟩
        else .error s!"invalid value: integer, expected {expected}"
      | none => .error s!"invalid type: {nodeKind n}, expected {expected}"
    else .error s!"invalid type: {nodeKind n}, expected {expected}"
  | n => .error s!"invalid type: {nodeKind n}, expected {expected}"

/-- An optional count. An untagged plain null word or empty scalar is none;
a plain scalar tagged `!!null` is none when it is a null word and refused
otherwise; anything else is a count. -/
def optionalCountOf (n : Yaml.Node) : Except String (Option Nat) :=
  match n with
  | .scalar s .plain none =>
    if s.isEmpty || Yaml.isNullWord s then .ok none else (countOf "u64" n).map (some ·.1)
  | .scalar s .plain (some tag) =>
    if tag == Yaml.Tag.core "null" then
      if Yaml.isNullWord s then .ok none else .error s!"invalid value: {nodeKind n}, expected null"
    else (countOf "u64" n).map (some ·.1)
  | n => (countOf "u64" n).map (some ·.1)

/-- A path: the text of any scalar, as written. -/
def pathOf (n : Yaml.Node) : Except String String :=
  match n with
  | .scalar s _ _ => .ok s
  | n => .error s!"invalid type: {nodeKind n}, expected path string"

/-- The members a configuration document may have. -/
def fieldNames : List String :=
  ["max_iterations", "max_depth", "default_step_timeout_ms", "large_definition_threshold", "data_dir"]

/-- Sets one member of a configuration. -/
def setField (c : EngineConfig) (key : String) (n : Yaml.Node) : Except String EngineConfig :=
  if key == "max_iterations" then (countOf "usize" n).map fun k => c.withMaxIterations (some k)
  else if key == "max_depth" then (countOf "usize" n).map fun k => { c with maxDepth := k.1 }
  else if key == "default_step_timeout_ms" then
    (optionalCountOf n).map fun k => { c with defaultStepTimeoutMs := k }
  else if key == "large_definition_threshold" then
    (countOf "usize" n).map fun k => { c with largeDefinitionThreshold := k.1 }
  else if key == "data_dir" then (pathOf n).map fun d => { c with dataDir := d }
  else .ok c

/-- Reads the members of a configuration mapping in order: unknown members
are skipped, a member given twice is refused. Gives the configuration and
the members seen. -/
def readPairs (c : EngineConfig) (seen : List String) :
    List (Yaml.Node × Yaml.Node) → Except String (EngineConfig × List String)
  | [] => .ok (c, seen)
  | (k, v) :: rest => do
    let key ← match k.resolve with
      | .scalar s _ _ => pure s
      | k => throw s!"invalid type: {nodeKind k}, expected field identifier"
    if !fieldNames.contains key then readPairs c seen rest
    else if seen.contains key then throw s!"duplicate field `{key}`"
    else
      let c ← setField c key v.resolve
      readPairs c (key :: seen) rest

/-- Reads a configuration document: a mapping, or nothing at all (an empty
stream or an empty plain scalar) for the defaults. Gives the configuration
and whether it names a data directory. -/
def decode (document : Option Yaml.Node) : Except String (EngineConfig × Bool) :=
  match document with
  | none => .ok ({}, false)
  | some (.scalar "" .plain _) => .ok ({}, false)
  | some (.map pairs _) => (readPairs {} [] pairs).map fun (c, seen) => (c, seen.contains "data_dir")
  | some n => .error s!"invalid type: {nodeKind n}, expected struct EngineConfig"

/-- Loads a configuration file and applies the environment. The default
data directory, `home`, is only worked out when the file names none; the
flag says whether it was. -/
def load (d : Disk) (path : String) (env : Environment) (home : Logged String) :
    ExceptT FlowError Logged (EngineConfig × Bool) := do
  let content ← match d.read path with
    | .ok c => pure c
    | .error f => throw (.io f.message)
  let document ← match Yaml.parse content with
    | .ok n => pure n
    | .error e => throw (.yaml e)
  let (config, named) ← match decode document with
    | .ok r => pure r
    | .error e => throw (.yaml e)
  let needsHome := !named
  let config ← if needsHome then do
      let dir ← ExceptT.lift home
      pure { config with dataDir := dir }
    else pure config
  Logged.info .config s!"Loaded engine config from {path}"
  let config ← applyEnv config env
  pure (config, needsHome)

/-- Defaults with the environment's overrides. -/
def fromEnv (env : Environment) : Logged EngineConfig := do
  let home ← homeDir env
  applyEnv { dataDir := home } env

end EngineConfig

end Flowline
