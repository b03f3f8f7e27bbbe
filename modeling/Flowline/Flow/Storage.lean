import Flowline.Flow.Document
import Flowline.Json.Reader
import Flowline.Disk
import Flowline.Log
import Flowline.Yaml.Writer
set_option autoImplicit false

/-!
# Flow files

Definitions and seed states are kept in files. A file whose extension is
`json` in any case is read as JSON; any other file as YAML, which also reads
JSON text. A definition without a name takes the file's stem.

Saving writes the canonical JSON text; a file not named `.json` gets the
same text, which its YAML reading gives back unchanged.
-/

namespace Flowline

namespace FlowFile

/-- The last part of a path; nothing when it ends in `..` or has no part. -/
def fileName? (path : String) : Option String :=
  let ps := (path.splitOn "/").filter fun p => !p.isEmpty && p != "."
  match ps.getLast? with
  | some ".." => none
  | other => other

/-- A file name split at its last dot: the stem, and the extension when
there is one. A name with its only dot in front has no extension. -/
def splitExtension (name : String) : String × Option String :=
  if name == ".." then (name, none)
  else
    match name.splitOn "." with
    | [] => (name, none)
    | [_] => (name, none)
    | pieces =>
      let stem := ".".intercalate pieces.dropLast
      if stem.isEmpty then (name, none) else (stem, pieces.getLast?)

/-- The stem of a path's file name. -/
def stem? (path : String) : Option String := (fileName? path).map fun n => (splitExtension n).1

/-- Whether a path names a JSON file. -/
def isJson (path : String) : Bool :=
  match (fileName? path).bind fun n => (splitExtension n).2 with
  | some ext => ext.toLower == "json"
  | none => false

/-- Reads the document in a file: JSON or YAML by the file's extension. -/
def readDocument (d : Disk) (path : String) : ExceptT FlowError Logged Value := do
  let content ← match d.read path with
    | .ok c => pure c
    | .error f => throw (.io f.message)
  Logged.debug .loader s!"Read {path} ({content.utf8ByteSize} bytes)"
  if isJson path then
    match Json.read (some 128) content with
    | .ok v => pure v
    | .error e => throw (.json (.malformed e.message))
  else
    match Yaml.read content with
    | .ok v => pure v
    | .error e => throw (.yaml e)

/-- Loads a definition from a file; a definition without a name is named
after the file. -/
def loadFlow (d : Disk) (path : String) : ExceptT FlowError Logged FlowDefinition := do
  Logged.info .loader s!"Loading flow from: {path}"
  let document ← readDocument d path
  let definition ← liftExcept (parseDocument document)
  let definition :=
    if definition.name.isEmpty then
      match stem? path with
      | some s => { definition with name := s }
      | none => definition
    else definition
  Logged.info .loader (s!"Parsed flow '{definition.name}': {definition.len} top-level nodes, " ++
    s!"{definition.nodeCount} in total")
  pure definition
where
  /-- A plain result inside the logging computation. -/
  liftExcept {α : Type} (r : Except FlowError α) : ExceptT FlowError Logged α :=
    match r with
    | .ok a => pure a
    | .error e => throw e

/-- Loads a seed state, which must be an object. -/
def loadState (d : Disk) (path : String) : ExceptT FlowError Logged Value := do
  let state ← readDocument d path
  if !state.isObject then
    throw (.invalidStructure
      s!"state file {path} must contain an object, found {describe state}")
  Logged.debug .loader s!"Loaded initial state from {path}"
  pure state

/-- The text a definition is saved as. -/
def savedText (definition : FlowDefinition) (path : String) : Except FlowError String :=
  if isJson path then definition.canonical
  else
    match definition.members with
    | .ok ms => .ok (Yaml.write (.obj ms))
    | .error e => .error (.yaml e.message)

/-- Saves a definition, as JSON or YAML by the file's extension. -/
def saveFlow (d : Disk) (definition : FlowDefinition) (path : String) :
    ExceptT FlowError Logged Disk := do
  let text ← loadFlow.liftExcept (savedText definition path)
  let d ← match d.write path text with
    | .ok d => pure d
    | .error f => throw (.io f.message)
  Logged.info .loader s!"Saved flow '{definition.name}' to {path}"
  pure d

end FlowFile

end Flowline
