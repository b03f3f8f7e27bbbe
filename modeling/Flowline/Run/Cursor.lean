import Flowline.Run.Instance
import Flowline.Data.Decode
set_option autoImplicit false

/-!
# Cursors

When a step suspends, the walk unwinds and every block and loop on the way
up leaves a frame saying where it stood. The frames, outermost first, form
the cursor that `resume` follows back down:

* a block frame names the instance running the block, the position of the
  node that was running and the output it had been handed;
* a loop frame names the loop instance, its iteration, its controller's last
  output and whether the controller or the actions were running.

The innermost frame is the block whose step suspended.
-/

namespace Flowline

/-- Which part of a loop was running. -/
inductive LoopPhase where
  | controller
  | actions
  deriving Inhabited, BEq, Repr

/-- The lower-case name of a loop phase. -/
def LoopPhase.name : LoopPhase → String
  | .controller => "controller"
  | .actions => "actions"

/-- The count after `n` in a 64-bit counter: `0` after the largest. The
position of a block and the round of a loop are such counters, also when a
resume re-enters them from a cursor. -/
def succ64 (n : Nat) : Nat := (n + 1) % Nat.pow 2 64

/-- Below the largest count, the next one is one more. -/
theorem succ64_of_lt {n : Nat} (h : n + 1 < Nat.pow 2 64) : succ64 n = n + 1 :=
  Nat.mod_eq_of_lt h

/-- Where one block or loop stood when the walk unwound. -/
inductive Frame where
  | block (instanceId : String) (index : Nat) (previous : Option StepOutput)
  | loop (instanceId : String) (iteration : Nat) (controllerOutput : Option StepOutput)
      (phase : LoopPhase)
  deriving Inhabited

namespace Frame

/-- The instance a frame belongs to. -/
def instanceId : Frame → String
  | .block id .. => id
  | .loop id .. => id

/-- A value as diagnostics show it: `Null`, `Bool(true)`, `Number(1)`,
`String("x")`, `Array [..]`, `Object {"k": ..}`. -/
def valueDebug : Value → String
  | .null => "Null"
  | .bool b => s!"Bool({b})"
  | .num n => s!"Number({Json.numberText n})"
  | .str s => s!"String({Unicode.quote s})"
  | .arr items => "Array [" ++ ", ".intercalate (elements items) ++ "]"
  | .obj fs => "Object \x7b" ++ ", ".intercalate (fields fs) ++ "\x7d"
where
  /-- The items of a list. -/
  elements : List Value → List String
    | [] => []
    | v :: rest => valueDebug v :: elements rest
  /-- The members of an object. -/
  fields : List (String × Value) → List String
    | [] => []
    | (k, v) :: rest => s!"{Unicode.quote k}: {valueDebug v}" :: fields rest

/-- An optional output as diagnostics show it. -/
def outputDebug : Option StepOutput → String
  | none => "None"
  | some o =>
    let edges := ", ".intercalate (o.edges.map Unicode.quote)
    s!"Some(StepOutput \x7b edges: [{edges}], value: {valueDebug o.value} \x7d)"

/-- A frame as diagnostics show it. -/
def debugText : Frame → String
  | .block id index previous =>
    s!"Block \x7b instance_id: {Unicode.quote id}, index: {index}, previous: {outputDebug previous} \x7d"
  | .loop id iteration output phase =>
    let phaseName := match phase with
      | .controller => "Controller"
      | .actions => "Actions"
    s!"Loop \x7b instance_id: {Unicode.quote id}, iteration: {iteration}, " ++
      s!"controller_output: {outputDebug output}, phase: {phaseName} \x7d"

/-- The stored form, tagged by `kind`. -/
def toValue : Frame → Value
  | .block id index previous =>
    Value.object <| [("kind", .str "block"), ("instanceId", .str id), ("index", .ofNat index)] ++
      optionalMember "previous" StepOutput.toValue previous
  | .loop id iteration output phase =>
    Value.object <| [("kind", .str "loop"), ("instanceId", .str id),
      ("iteration", .ofNat iteration), ("phase", .str phase.name)] ++
      optionalMember "controllerOutput" StepOutput.toValue output

end Frame

/-- The way back to a suspended step, outermost frame first. -/
structure Cursor where
  frames : List Frame
  deriving Inhabited

namespace Cursor

/-- A cursor from frames collected while unwinding, innermost first. -/
def ofUnwound (frames : List Frame) : Cursor := ⟨frames.reverse⟩

/-- The instances on the way down, outermost first, each once in a row. -/
def instanceIds (c : Cursor) : List String :=
  c.frames.foldl (fun ids f => if ids.getLast? == some f.instanceId then ids else ids ++ [f.instanceId]) []

/-- The instance whose step suspended. -/
def suspendedInstance (c : Cursor) : Option String := c.frames.getLast?.map Frame.instanceId

/-- The stored form, `{frames}`. -/
def toValue (c : Cursor) : Value := Value.object [("frames", .arr (c.frames.map Frame.toValue))]

end Cursor

end Flowline
