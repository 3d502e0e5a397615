import SelectionSql.Files

/-!
# Disks - File systems in memory

A disk knows what stands at some places: files, directories and links to
directories.  A path is followed step by step, and a step up from the root
directory stays there.

Storing a file makes the directories that its path goes through.  A command finds
its files stored from the working directory, on a disk that has the standard
directories besides.
-/

namespace SelectionSql

/-- The steps that lead to a place from the root directory. -/
abbrev Place := List String

/-- What stands at a place. -/
inductive Node
  | file (text : String)
  | directory
  /-- A second name of a directory. -/
  | link (target : Place)
  deriving DecidableEq

/-- A file system in memory: what stands at some places, the latest first. -/
structure Disk where
  nodes : List (Place × Node)
  deriving DecidableEq

namespace Disk

/-! ## Places -/

/-- What stands at a place.  The root directory is always there. -/
def node? (disk : Disk) (place : Place) : Option Node :=
  if place = [] then some .directory else disk.nodes.lookup place

/-- Take a place. -/
def put (disk : Disk) (place : Place) (node : Node) : Disk :=
  ⟨(place, node) :: disk.nodes⟩

/-! ## Following paths -/

/-- Where further steps lead from a directory. -/
def follow (disk : Disk) : Place → List String → Except FileFault Place
  | place, [] => .ok place
  | place, step :: rest =>
      if step = ".." then disk.follow place.dropLast rest
      else if Files.stepLimit < step.utf8ByteSize then .error .nameTooLong
      else
        match disk.node? (place ++ [step]) with
        | some .directory => disk.follow (place ++ [step]) rest
        | some (.link target) => disk.follow target rest
        | some (.file _) => if rest.isEmpty then .ok (place ++ [step]) else .error .notDirectory
        | none => .error .missing

/-- The directory that a path starts from. -/
def origin (working : Place) (path : String) : Place :=
  if Files.isAbsolute path then [] else working

/-- The text behind a path. -/
def read (disk : Disk) (working : Place) (path : String) : Except FileFault String := do
  let place ← disk.follow (origin working path) (Files.steps path)
  match disk.node? place with
  | some (.file text) => if Files.endsAtDirectory path then .error .notDirectory else .ok text
  | some _ => .error .directory
  | none => .error .missing

/-! ## Storing files -/

/-- Go one step further and make the directory there. -/
def enter (reached : Disk × Place) (step : String) : Disk × Place :=
  let (disk, place) := reached
  if step = ".." then (disk, place.dropLast)
  else (disk.put (place ++ [step]) .directory, place ++ [step])

/-- Make the directories along a path, without its last step, and put a file at
its end. -/
def store (disk : Disk) (working : Place) (path text : String) : Disk :=
  let steps := Files.steps path
  let (disk, place) := steps.dropLast.foldl enter (disk, origin working path)
  disk.put (place ++ steps.getLast?.toList) (.file text)

/-! ## The standard disk -/

/-- The directories that every disk has. -/
def standardDirectories : List Place :=
  [["bin"], ["dev"], ["etc"], ["home"], ["lib"], ["mnt"], ["opt"], ["proc"], ["proc", "self"],
    ["root"], ["run"], ["sbin"], ["srv"], ["sys"], ["tmp"], ["usr"], ["usr", "bin"],
    ["usr", "lib"], ["usr", "local"], ["usr", "share"], ["var"], ["var", "log"], ["var", "tmp"]]

/-- The files that every disk has: the device and the standard input, both of them
empty, and the lists of users, groups and hosts. -/
def standardFiles : List (Place × String) :=
  [(["dev", "null"], ""), (["dev", "stdin"], ""), (["etc", "group"], "root:x:0:\n"),
    (["etc", "hosts"], "127.0.0.1 localhost\n"),
    (["etc", "passwd"], "root:x:0:0:root:/root:/bin/sh\n")]

/-- The working directory of a command whose files are in memory. -/
def workingDirectory : Place := ["tmp", "selection-sql"]

/-- The disk before any files are stored: the standard directories and files, the
working directory, and the second names that a command has for it and for the
root directory. -/
def standard : Disk :=
  ⟨(standardDirectories ++ [workingDirectory]).map (·, .directory) ++
    standardFiles.map (fun entry => (entry.1, .file entry.2)) ++
    [(["proc", "self", "cwd"], .link workingDirectory), (["proc", "self", "root"], .link [])]⟩

end Disk

/-- The file system that holds some files, which are stored from the working
directory one after another, by their paths and texts. -/
def Files.ofEntries (entries : List (String × String)) : Files :=
  let working := Disk.workingDirectory
  let disk := entries.foldl (fun disk entry => disk.store working entry.1 entry.2) Disk.standard
  fun path =>
    match Files.pathFault? path with
    | some fault => .error fault
    | none => disk.read working path

end SelectionSql
