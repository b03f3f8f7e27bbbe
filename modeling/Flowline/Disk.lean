set_option autoImplicit false

/-!
# A directory tree as data

The command line keeps pause tickets and run summaries in files. So that
every run is a plain function, the files it can see are a `Disk`: a map from
full paths to contents plus the set of directories. Paths are written with
`/` and are resolved against a working directory by `Disk.resolve`, which
also removes `.` and `..` parts.

The operations fail the way a POSIX file system does, with a `DiskFault`
naming the cause: reading a missing file, writing into a missing directory,
renaming onto a directory, and so on.
-/

namespace Flowline

/-- Why a file operation failed. -/
inductive DiskFault where
  | notFound
  | isDirectory
  | notDirectory
  | alreadyExists
  deriving DecidableEq, Repr, Inhabited

/-- The system's wording of a fault. -/
def DiskFault.message : DiskFault → String
  | .notFound => "No such file or directory (os error 2)"
  | .isDirectory => "Is a directory (os error 21)"
  | .notDirectory => "Not a directory (os error 20)"
  | .alreadyExists => "File exists (os error 17)"

/-- A working directory, the files by full path, and the directories that
exist. A directory that holds a file exists whether or not it is listed.
Every operation takes paths as a program writes them and resolves them
against the working directory. -/
structure Disk where
  cwd : String
  files : List (String × String)
  dirs : List String
  deriving Inhabited

namespace Disk

/-- The parts of a path, without empty and `.` parts, `..` removing the part
before it. -/
def parts (path : String) : List String :=
  let raw := (path.splitOn "/").filter fun p => !p.isEmpty && p != "."
  (raw.foldl (fun acc p => if p == ".." then acc.dropLast else acc ++ [p]) [])

/-- A path from its parts; absolute when `absolute` holds. -/
def join (absolute : Bool) (ps : List String) : String :=
  (if absolute then "/" else "") ++ "/".intercalate ps

/-- A path resolved against the working directory `cwd`: a path starting
with `/` stands alone, any other is read below `cwd`. -/
def resolve (cwd path : String) : String :=
  if path.startsWith "/" then join true (parts path)
  else join (cwd.startsWith "/") (parts (cwd ++ "/" ++ path))

/-- The directory holding a path. -/
def parent (path : String) : String :=
  join (path.startsWith "/") (parts path).dropLast

/-- The last part of a path. -/
def baseName (path : String) : String := ((parts path).getLast?).getD ""

/-- An empty disk whose working directory exists. -/
def withRoot (root : String) : Disk := ⟨root, [], [root]⟩

/-- The full path a program's path names. -/
def full (d : Disk) (path : String) : String := resolve d.cwd path

/-- The content of the file at a full path. -/
def fileAt? (d : Disk) (full : String) : Option String :=
  (d.files.find? (·.1 == full)).map (·.2)

/-- Whether a full path is a directory: listed, or above a file or a listed
directory. -/
def isDirAt (d : Disk) (full : String) : Bool :=
  d.dirs.contains full ||
  d.files.any (fun f => f.1.startsWith (full ++ "/")) ||
  d.dirs.any (fun p => p.startsWith (full ++ "/"))

/-- Whether anything is at a path. -/
def pathExists (d : Disk) (path : String) : Bool :=
  (d.fileAt? (d.full path)).isSome || d.isDirAt (d.full path)

/-- Whether a path is a directory. -/
def isDir (d : Disk) (path : String) : Bool := d.isDirAt (d.full path)

/-- Reads a file. -/
def read (d : Disk) (path : String) : Except DiskFault String :=
  let p := d.full path
  match d.fileAt? p with
  | some c => .ok c
  | none => if d.isDirAt p then .error .isDirectory else .error .notFound

/-- The check that the directory holding a full path exists. -/
def parentReady (d : Disk) (full : String) : Except DiskFault Unit :=
  let p := parent full
  if d.isDirAt p then .ok ()
  else if (d.fileAt? p).isSome then .error .notDirectory
  else .error .notFound

/-- Writes a file, replacing any file at that path. -/
def write (d : Disk) (path content : String) : Except DiskFault Disk := do
  let p := d.full path
  if d.isDirAt p then throw .isDirectory
  parentReady d p
  pure { d with files := (d.files.filter (·.1 != p)) ++ [(p, content)] }

/-- Creates a directory and every missing directory above it. -/
def createDirAll (d : Disk) (path : String) : Except DiskFault Disk :=
  let p := d.full path
  let absolute := p.startsWith "/"
  let ps := parts p
  let prefixes := (List.range ps.length).map fun n => join absolute (ps.take (n + 1))
  match prefixes.find? fun q => (d.fileAt? q).isSome with
  | some _ => .error .alreadyExists
  | none => .ok { d with dirs := d.dirs ++ prefixes.filter fun q => !d.dirs.contains q }

/-- Moves a file to another path, replacing a file there. -/
def rename (d : Disk) (source target : String) : Except DiskFault Disk := do
  let s := d.full source
  let t := d.full target
  let content ← match d.fileAt? s with
    | some c => pure c
    | none => throw .notFound
  if d.isDirAt t then throw .isDirectory
  parentReady d t
  let rest := d.files.filter fun f => f.1 != s && f.1 != t
  pure { d with files := rest ++ [(t, content)] }

/-- The names of the entries of a directory. -/
def listDir (d : Disk) (path : String) : Except DiskFault (List String) :=
  let p := d.full path
  if !d.isDirAt p then
    if (d.fileAt? p).isSome then .error .notDirectory else .error .notFound
  else
    let below := (d.files.map (·.1)) ++ d.dirs
    let names := below.filterMap fun q =>
      if q.startsWith (p ++ "/") then
        (parts (q.drop (p.length + 1)).toString).head?
      else none
    .ok (names.foldl (fun acc n => if acc.contains n then acc else acc ++ [n]) [])

end Disk

end Flowline
