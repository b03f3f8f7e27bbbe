import Flowline.Flow.Node
import Flowline.Data.Decode
import Flowline.Yaml.Parser
set_option autoImplicit false

/-!
# Flow definitions and their documents

A `FlowDefinition` is a name, the top-level nodes and an optional seed state.
It is written as a document, YAML or JSON:

* a list of nodes is a definition without a name;
* an object with `nodes` is a definition record: `name` (default empty),
  `nodes` and `initialState`, read with record wording for bad members
  (`invalid type: integer `5`, expected a sequence`);
* anything else is refused, saying what was found instead.

`FlowDefinition.canonical` writes the pretty JSON form, members in the order
`name`, `nodes`, `initialState`; reading it back gives the same definition.
-/

namespace Flowline

/-- A complete flow: a name, its top-level nodes and the state the root
instance starts with. -/
structure FlowDefinition where
  name : String
  nodes : List FlowNode
  initialState : Option Value := none
  deriving Inhabited

namespace FlowDefinition

/-- The number of nodes, nested ones included. -/
def nodeCount (d : FlowDefinition) : Nat := FlowNode.count.countList d.nodes

/-- The number of top-level nodes. -/
def len (d : FlowDefinition) : Nat := d.nodes.length

/-- The members of the written form, in declaration order. -/
def members (d : FlowDefinition) : Except FlowError (List (String × Value)) := do
  let nodes ← FlowNode.toValue.listValue d.nodes
  pure <| [("name", .str d.name), ("nodes", .arr nodes)] ++
    match d.initialState with
    | some s => [("initialState", s)]
    | none => []

/-- The written form as a value, or the shape error of a node without one. -/
def toValue (d : FlowDefinition) : Except FlowError Value :=
  match d.members with
  | .ok ms => .ok (Value.object ms)
  | .error e => .error (.json (.shape e.message))

/-- The canonical text: pretty JSON, members in declaration order. -/
def canonical (d : FlowDefinition) : Except FlowError String :=
  match d.members with
  | .ok ms => .ok ("\x7b\n" ++ Value.prettyAt.members 1 ms ++ "\n\x7d")
  | .error e => .error (.json (.shape e.message))

/-- Reads a node inside a record, its error worded as a flow error. -/
def nodeDecode : Decode FlowNode := fun _ t =>
  (FlowNode.ofValue t.toValue).mapError FlowError.message

/-- Reads a definition record. -/
def decode : Decode FlowDefinition := fun src t => do
  let f ← Decode.record "struct FlowDefinition"
    [Decode.opt "name" Decode.string, Decode.req "nodes" (Decode.list nodeDecode),
     Decode.opt "initialState" (Decode.optional Decode.any)] src t
  pure ⟨← f.getD "name" Decode.string "", ← f.get "nodes" (Decode.list nodeDecode),
    ← f.opt "initialState" Decode.any⟩

/-- Structural equality of the nodes of two definitions. -/
def sameNodes (a b : FlowDefinition) : Bool := FlowNode.beq.beqList a.nodes b.nodes

end FlowDefinition

/-- What a document is, for messages. -/
def describe : Value → String
  | .null => "null"
  | .bool _ => "a boolean"
  | .num _ => "a number"
  | .str _ => "a string"
  | .arr _ => "a list"
  | .obj _ => "an object without 'nodes'"

/-- Reads a list of nodes. -/
def parseNodes : Value → Except FlowError (List FlowNode)
  | .arr items => FlowNode.ofValue.ofList items
  | other => .error (.invalidStructure s!"expected a list of nodes, found {describe other}")

/-- Reads a definition from a document. -/
def parseDocument (document : Value) : Except FlowError FlowDefinition :=
  match document with
  | .arr _ => (parseNodes document).map fun nodes => ⟨"", nodes, none⟩
  | .obj fs =>
    if Fields.contains fs "nodes" then
      (Decode.fromValue FlowDefinition.decode document).mapError fun e => .json (.shape e)
    else .error (.invalidStructure
      s!"expected a list of nodes or an object with 'nodes', found {describe document}")
  | other => .error (.invalidStructure
      s!"expected a list of nodes or an object with 'nodes', found {describe other}")

/-- Reads a definition from YAML or JSON text. -/
def parseFlow (text : String) : Except FlowError FlowDefinition :=
  match Yaml.read text with
  | .ok document => parseDocument document
  | .error e => .error (.yaml e)

end Flowline
