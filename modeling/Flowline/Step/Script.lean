import Flowline.Data.Value
import Flowline.Json.Writer
set_option autoImplicit false

/-!
# Scripted steps

A step can be given as data instead of code: a `Script` says what the step
does when it runs, in a fixed order:

1. write each log line and publish each emitted value;
2. write each state value, into the running instance or, when shared, into
   the root instance;
3. cancel the run if asked to;
4. take `sleepMs` milliseconds;
5. end: fail, reject an input, suspend, or exit through an edge with a
   result (`ScriptResult`).

`Script.ofValue` reads a script from its object form, the `do` member of a
step specification: `log`, `emit`, `write`, `cancel`, `sleepMs`, then the
first of `fail`, `invalid`, `suspend` (with `resumeEdge`), or else an exit
through `edge` (default `success`) whose result is the first of `params`,
`numberOf`, `read`, `removed`, `previous`, `snapshot`, `ctx` that is set,
or else `value`.
-/

namespace Flowline

/-- What a scripted step exits with. -/
inductive ScriptResult where
  /-- The resolved parameters. -/
  | params
  /-- A parameter read as a double, with the parameter names. -/
  | numberOf (name : String)
  /-- A state value seen from the running instance, or null. -/
  | read (path : String)
  /-- A state value removed from the running instance, or null. -/
  | removed (path : String)
  /-- The output the step received, or null. -/
  | previous
  /-- Everything the running instance sees, merged. -/
  | snapshot
  /-- Where the step runs; `contains` asks whether a state path is visible. -/
  | context (contains : Option String)
  /-- A fixed value. -/
  | value (v : Value)
  deriving Inhabited

/-- How a scripted step ends. -/
inductive ScriptEnd where
  | fail (message : String)
  | invalid (name message : String)
  | suspend (details : Value) (resumeEdge : Option String)
  | exit (edge : String) (result : ScriptResult)
  deriving Inhabited

/-- A state write of a scripted step. -/
structure ScriptWrite where
  path : String
  value : Value
  shared : Bool
  deriving Inhabited

/-- What a scripted step does. -/
structure Script where
  logs : List String := []
  emits : List Value := []
  writes : List ScriptWrite := []
  cancel : Bool := false
  sleepMs : Nat := 0
  ending : ScriptEnd := .exit "success" (.value .null)
  deriving Inhabited

namespace Script

/-- A member that is a string. -/
def text? (v : Value) (key : String) : Option String := (v.field? key).bind Value.str?

/-- Whether a member is `true`. -/
def flag (v : Value) (key : String) : Bool := v.field? key == some (.bool true)

/-- A member that is a list. -/
def items (v : Value) (key : String) : List Value := ((v.field? key).bind Value.arr?).getD []

/-- The text of an item: a string as it is, anything else empty. -/
def lineOf (v : Value) : String := (v.str?).getD ""

/-- The result of an exit. -/
def resultOf (v : Value) : ScriptResult :=
  if flag v "params" then .params
  else match text? v "numberOf" with
  | some n => .numberOf n
  | none => match text? v "read" with
  | some p => .read p
  | none => match text? v "removed" with
  | some p => .removed p
  | none =>
    if flag v "previous" then .previous
    else if flag v "snapshot" then .snapshot
    else if flag v "ctx" then .context (text? v "contains")
    else .value (v.fieldOrNull "value")

/-- How a script ends. -/
def endingOf (v : Value) : ScriptEnd :=
  match v.field? "fail" with
  | some m => .fail (lineOf m)
  | none => match v.field? "invalid" with
  | some i => .invalid ((text? i "name").getD "") ((text? i "message").getD "")
  | none => match v.field? "suspend" with
  | some d => .suspend d (text? v "resumeEdge")
  | none => .exit ((text? v "edge").getD "success") (resultOf v)

/-- Reads a script from its object form. -/
def ofValue (v : Value) : Script :=
  { logs := (items v "log").map lineOf
    emits := items v "emit"
    writes := (items v "write").map fun w =>
      ⟨(text? w "path").getD "", w.fieldOrNull "value", flag w "shared"⟩
    cancel := flag v "cancel"
    sleepMs := ((v.field? "sleepMs").bind Value.nat?).getD 0
    ending := endingOf v }

end Script

end Flowline
