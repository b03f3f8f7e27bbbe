import Flowline.Run.Codec
import Flowline.Config
set_option autoImplicit false

/-!
# Paused executions

A suspended execution is kept whole until someone resumes it: its ticket,
the edge the suspended step exits through once resumed, the definition, the
execution and the cursor back to the step.

A pause store keeps them by ticket identifier. Claiming a ticket takes its
execution out, so each ticket resumes at most once:

* in memory, a claimed ticket leaves an empty slot behind, which tells an
  unknown identifier from one already resumed;
* in a directory, a ticket is the file `<id>.json` and claiming renames it
  to `<id>.claimed.json`. A ticket file is read as written
  (`Json.readTree`), containers nested at most 127 deep. Only identifiers made of ASCII letters, digits,
  `-` and `_` are accepted, so an identifier can never name a path outside
  the directory.

Both list the waiting tickets oldest first.
-/

namespace Flowline

/-- Everything needed to resume a suspended execution. -/
structure PausedExecution where
  ticket : PauseTicket
  /-- The edge the suspended step exits through once resumed. -/
  resumeEdge : String
  definition : FlowDefinition
  execution : Execution
  cursor : Cursor
  deriving Inhabited

namespace PausedExecution

/-- The stored form; a definition node without a written form makes it fail. -/
def toValue (p : PausedExecution) : Except FlowError Value := do
  let definition ← p.definition.toValue
  pure <| Value.object [("ticket", p.ticket.toValue), ("resumeEdge", .str p.resumeEdge),
    ("definition", definition), ("execution", p.execution.toValue), ("cursor", p.cursor.toValue)]

/-- Reads the stored form. -/
def decode : Decode PausedExecution := fun src t => do
  let f ← Decode.record "struct PausedExecution"
    [Decode.req "ticket" PauseTicket.decode, Decode.req "resumeEdge" Decode.string,
     Decode.req "definition" FlowDefinition.decode, Decode.req "execution" Execution.decode,
     Decode.req "cursor" Cursor.decode] src t
  pure ⟨← f.get "ticket" PauseTicket.decode, ← f.get "resumeEdge" Decode.string,
    ← f.get "definition" FlowDefinition.decode, ← f.get "execution" Execution.decode,
    ← f.get "cursor" Cursor.decode⟩

end PausedExecution

/-- Where paused executions are kept. -/
inductive PauseStore where
  /-- In memory: a slot per ticket identifier, empty once claimed. -/
  | memory (slots : List (String × Option PausedExecution))
  /-- In a directory of ticket files. -/
  | directory (path : String)
  deriving Inhabited

/-- An empty store in memory. -/
def PauseStore.inMemory : PauseStore := .memory []

/-- Whether an identifier can name a ticket file. -/
def isSafeTicketId (id : String) : Bool :=
  !id.isEmpty && id.all fun c => c.isAlphanum || c == '-' || c == '_'

/-- Tickets oldest first, keeping their order on equal times. -/
def oldestFirst (ts : List PauseTicket) : List PauseTicket :=
  ts.mergeSort fun a b => a.createdAt.sortKey ≤ b.createdAt.sortKey

/-- Fills the slot of a ticket in memory. -/
def putSlot (slots : List (String × Option PausedExecution)) (p : PausedExecution) :
    List (String × Option PausedExecution) :=
  if slots.any (·.1 == p.ticket.pauseId) then
    slots.map fun (k, s) => if k == p.ticket.pauseId then (k, some p) else (k, s)
  else slots ++ [(p.ticket.pauseId, some p)]

/-- Empties the slot of a ticket in memory, giving what it held. -/
def takeSlot (slots : List (String × Option PausedExecution)) (id : String) :
    Except FlowError (PausedExecution × List (String × Option PausedExecution)) :=
  match slots.find? (·.1 == id) with
  | none => .error (.unknownPauseId id)
  | some (_, none) => .error (.alreadyResumed id)
  | some (_, some p) => .ok (p, slots.map fun (k, s) => if k == id then (k, none) else (k, s))

/-- The file of a waiting ticket. -/
def pendingFile (dir id : String) : String := joinPath dir (id ++ ".json")

/-- The file of a claimed ticket. -/
def claimedFile (dir id : String) : String := joinPath dir (id ++ ".claimed.json")

end Flowline
