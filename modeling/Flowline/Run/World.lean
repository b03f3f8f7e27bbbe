import Flowline.Run.Pause
import Flowline.Json.Reader
set_option autoImplicit false

/-!
# The world an execution runs in

Running a flow touches more than the execution: it logs, publishes events,
reads the clock, makes identifiers, may be cancelled from inside a step,
and keeps paused executions in a store, possibly on disk. A `World` holds
all of that, and `Run` is a computation over it that may fail with a
`FlowError`. A failure keeps the world as it was when the failure happened,
so logs and events written before it stay.

* The clock moves forward by a microsecond at each reading, and by the
  whole span of every sleep, so instants taken in order are increasing.
* Identifiers are random-looking UUIDs made from a prefix and a counter,
  unique within a world.
* Event sequence numbers grow over the life of the world.
-/

namespace Flowline

/-- Everything a run reads and changes besides its execution. -/
structure World where
  logs : Array LogRecord := #[]
  /-- Every event published, in order. -/
  events : Array FlowEvent := #[]
  /-- The sequence number of the next event. -/
  nextSequence : Nat := 1
  /-- The first four groups of every identifier made. -/
  idPrefix : String := "00000000-0000-4000-8000"
  /-- How many identifiers were made. -/
  issued : Nat := 0
  /-- The clock, in nanoseconds since 1970-01-01T00:00:00Z. -/
  clock : Nat := 0
  /-- Whether the running execution was asked to stop. -/
  cancelled : Bool := false
  store : PauseStore := .inMemory
  disk : Disk := Disk.withRoot "/"
  /-- Every paused execution the engine saved, in order. -/
  saved : Array PausedExecution := #[]
  deriving Inhabited

/-- A computation in a world that may fail. -/
abbrev Run := ExceptT FlowError (StateM World)

namespace Run

/-- Writes a log record. -/
def log (level : Level) (component : Component) (message : String) : Run Unit :=
  modify fun w => { w with logs := w.logs.push ⟨level, component, message⟩ }

/-- Logs an error. -/
def error (component : Component) (message : String) : Run Unit := log .error component message

/-- Logs a warning. -/
def warn (component : Component) (message : String) : Run Unit := log .warn component message

/-- Logs information. -/
def info (component : Component) (message : String) : Run Unit := log .info component message

/-- Logs a debug line. -/
def debug (component : Component) (message : String) : Run Unit := log .debug component message

/-- Runs a logging computation, keeping its records. -/
def logged {α : Type} (m : Logged α) : Run α := do
  let (a, records) := Logged.collect m
  modify fun w => { w with logs := w.logs ++ records.toArray }
  pure a

/-- Runs a logging computation that may fail. -/
def attempt {α : Type} (m : ExceptT FlowError Logged α) : Run α := do
  match ← logged m.run with
  | .ok a => pure a
  | .error e => throw e

/-- Reads the clock. -/
def now : Run Timestamp := do
  let w ← get
  set { w with clock := w.clock + 1000 }
  pure (Timestamp.ofNanos ((w.clock + 1000 : Nat) : Int))

/-- Lets `ms` milliseconds pass. -/
def sleep (ms : Nat) : Run Unit := modify fun w => { w with clock := w.clock + ms * 1000000 }

/-- Twelve lower-case hexadecimal digits of a number. -/
def hex12 (n : Nat) : String :=
  let digits := Nat.toDigits 16 (n % Nat.pow 2 48)
  String.ofList (List.replicate (12 - digits.length) '0' ++ digits)

/-- A new identifier. -/
def freshUuid : Run String := do
  let w ← get
  set { w with issued := w.issued + 1 }
  pure s!"{w.idPrefix}-{hex12 (w.issued + 1)}"

/-- Whether the running execution was asked to stop. -/
def isCancelled : Run Bool := do pure (← get).cancelled

/-- Asks the running execution to stop before its next node. -/
def cancel : Run Unit := modify fun w => { w with cancelled := true }

/-- Changes the disk, failing with an I/O error. -/
def onDisk (f : Disk → Except DiskFault Disk) : Run Unit := do
  match f (← get).disk with
  | .ok d => modify fun w => { w with disk := d }
  | .error e => throw (.io e.message)

/-- Reads a file, failing with an I/O error. -/
def readFile (path : String) : Run String := do
  match (← get).disk.read path with
  | .ok c => pure c
  | .error e => throw (.io e.message)

/-- Reads a paused execution from its stored text. -/
def parsePaused (text : String) : Run PausedExecution := do
  match Json.readTree (some 128) text with
  | .error e => throw (.json (.malformed e.message))
  | .ok t =>
    match PausedExecution.decode .text t with
    | .ok p => pure p
    | .error e => throw (.json (if Decode.isTextFault e then .malformed e else .shape e))

/-- Keeps a paused execution in the store. -/
def storeTicket (p : PausedExecution) : Run Unit := do
  let id := p.ticket.pauseId
  match (← get).store with
  | .memory slots => modify fun w => { w with store := .memory (putSlot slots p) }
  | .directory dir =>
    if !isSafeTicketId id then throw (.unknownPauseId id)
    onDisk fun d => d.createDirAll dir
    let text ← match p.toValue with
      | .ok v => pure v.pretty
      | .error e => throw (.json (.shape e.message))
    let staging := joinPath dir (id ++ ".tmp")
    let target := pendingFile dir id
    onDisk fun d => d.write staging text
    onDisk fun d => d.rename staging target
    info .pauses s!"Saved pause ticket {id} to {target}"

/-- Takes a paused execution out of the store; each ticket is taken once. -/
def claimTicket (id : String) : Run PausedExecution := do
  match (← get).store with
  | .memory slots =>
    match takeSlot slots id with
    | .ok (p, rest) =>
      modify fun w => { w with store := .memory rest }
      pure p
    | .error e => throw e
  | .directory dir =>
    if !isSafeTicketId id then throw (.unknownPauseId id)
    let claimed := claimedFile dir id
    let disk := (← get).disk
    match disk.rename (pendingFile dir id) claimed with
    | .ok d => modify fun w => { w with disk := d }
    | .error .notFound =>
      if disk.pathExists claimed then throw (.alreadyResumed id) else throw (.unknownPauseId id)
    | .error e => throw (.io e.message)
    debug .pauses s!"Claimed pause ticket {id}"
    parsePaused (← readFile claimed)

/-- The tickets waiting in the store, oldest first. -/
def pendingTickets : Run (List PauseTicket) := do
  match (← get).store with
  | .memory slots => pure (oldestFirst (slots.filterMap fun (_, s) => s.map (·.ticket)))
  | .directory dir =>
    let disk := (← get).disk
    if !disk.pathExists dir then return []
    let names ← match disk.listDir dir with
      | .ok ns => pure ns
      | .error e => throw (.io e.message)
    let waiting := names.filter fun n => n.endsWith ".json" && !n.endsWith ".claimed.json"
    let tickets ← waiting.mapM fun n => do
      let p ← parsePaused (← readFile (joinPath dir n))
      pure p.ticket
    pure (oldestFirst tickets)

end Run

end Flowline
