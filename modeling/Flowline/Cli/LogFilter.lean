import Flowline.Log
import Flowline.Data.Text
import Flowline.Regex.Pattern
set_option autoImplicit false

/-!
# Which log records the command line shows

The command line writes log records to standard error, `[WARN] message` and
`[ERROR] message` for those levels and the bare message otherwise. Which
records it writes follows the `RUST_LOG` variable when it is set, and the
default level (`info`, or `debug` with `--verbose`) otherwise.

A specification is a comma-separated list of rules, optionally followed by
`/` and a pattern every shown message must match somewhere
(`Regex.Pattern`); a pattern that does not compile is dropped with a
warning that shows why:

* a level name (`off`, `error`, `warn`, `info`, `debug`, `trace`, in any
  case) sets the level for every record;
* `name=level` sets the level for records whose target starts with `name`;
  a bare `name`, or `name=`, shows everything for that target.

A rule whose level does not read is skipped with a warning; a specification
with more than one `/` is skipped whole. Without any rule only errors show.
The most specific rule that applies decides: rules are tried longest name
first, a rule without a name last. A named rule applies to the records whose
target (`Component.target`, such as `flowrunner::execution::engine`) starts
with its name.
-/

namespace Flowline.Cli

/-- One rule: records under `name` (every record when there is none) are
shown up to `level`, where `0` shows nothing, `1` errors, and so on up to
`5` for traces. -/
structure Directive where
  name : Option String
  level : Nat
  deriving Inhabited, BEq

/-- The rules, most general first, and the pattern a shown message must
match. -/
structure LogFilter where
  directives : List Directive
  pattern : Option Regex.Pattern
  deriving Inhabited

namespace LogFilter

/-- The verbosity a level name stands for, in any case. -/
def levelOf? (s : String) : Option Nat :=
  match s.map Char.toLower with
  | "off" => some 0
  | "error" => some 1
  | "warn" => some 2
  | "info" => some 3
  | "debug" => some 4
  | "trace" => some 5
  | _ => none

/-- The warning for a part of a specification that is skipped. -/
def invalid (part : String) : String := s!"warning: invalid logging spec '{part}', ignoring it"

/-- Reads one rule, or the warning that skips it. -/
def directive (s : String) : Except String Directive :=
  match s.splitOn "=" with
  | [only] =>
    match levelOf? only with
    | some l => .ok ⟨none, l⟩
    | none => .ok ⟨some only, 5⟩
  | [name, level] =>
    let level := Text.trim level
    if level.isEmpty then .ok ⟨some name, 5⟩
    else match levelOf? level with
      | some l => .ok ⟨some name, l⟩
      | none => .error (invalid level)
  | _ => .error (invalid s)

/-- Adds a rule; a rule for the same name replaces the level of the one
before. -/
def insert (rules : List Directive) (d : Directive) : List Directive :=
  if rules.any (·.name == d.name) then
    rules.map fun r => if r.name == d.name then { r with level := d.level } else r
  else rules ++ [d]

/-- The length of a rule's name; a rule without a name counts as `0`. -/
def nameLength (d : Directive) : Nat := (d.name.map String.length).getD 0

/-- The rules of a list of parts, with the warnings for those skipped. -/
def readRules (parts : List String) : List Directive × List String :=
  parts.foldl (fun (rules, warnings) part =>
    let part := Text.trim part
    if part.isEmpty then (rules, warnings)
    else match directive part with
      | .ok d => (insert rules d, warnings)
      | .error w => (rules, warnings ++ [w])) ([], [])

/-- A filter from its rules: only errors show when there is none, and rules
are ordered by the length of their names. -/
def ofRules (rules : List Directive) (pattern : Option Regex.Pattern) : LogFilter :=
  let rules := if rules.isEmpty then [⟨none, 1⟩] else rules
  ⟨rules.mergeSort fun a b => nameLength a ≤ nameLength b, pattern⟩

/-- Reads a specification, with the warnings for the parts skipped. -/
def parse (spec : String) : LogFilter × List String :=
  match spec.splitOn "/" with
  | [rules] =>
    let (ds, warnings) := readRules (rules.splitOn ",")
    (ofRules ds none, warnings)
  | [rules, pattern] =>
    let (ds, warnings) := readRules (rules.splitOn ",")
    match Regex.Pattern.compile pattern with
    | .ok p => (ofRules ds (some p), warnings)
    | .error e => (ofRules ds none, warnings ++ ["warning: invalid regex filter - " ++ e])
  | _ =>
    (ofRules [] none, [s!"warning: invalid logging spec '{spec}', ignoring it (too many '/'s)"])

/-- The filter of an environment variable's value, or of `fallback` when it
is not set. -/
def ofSetting (setting : Option String) (fallback : String) : LogFilter × List String :=
  parse (setting.getD fallback)

/-- Whether a record is shown. -/
def allows (f : LogFilter) (r : LogRecord) : Bool :=
  let applies (d : Directive) : Bool := match d.name with
    | none => true
    | some n => r.component.target.startsWith n
  let levelShown := match f.directives.reverse.find? applies with
    | some d => r.level.rank ≤ d.level
    | none => false
  levelShown && match f.pattern with
    | some p => p.isMatch r.message
    | none => true

/-- A record as the command line writes it. -/
def format (r : LogRecord) : String :=
  match r.level with
  | .error => "[ERROR] " ++ r.message
  | .warn => "[WARN] " ++ r.message
  | _ => r.message

/-- The text written for records: a line for each record shown. -/
def render (f : LogFilter) (records : List LogRecord) : String :=
  String.join ((records.filter f.allows).map fun r => format r ++ "\n")

end LogFilter

end Flowline.Cli
