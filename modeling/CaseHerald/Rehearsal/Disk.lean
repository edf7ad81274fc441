import CaseHerald.Store.Volume
import CaseHerald.Text.Ranges

/-!
# A disk for rehearsals

A disk has folders, files and volumes. Each has one place, and a path leads to a place name by name,
through folders only. So different paths can lead to the same volume. What cannot be done is refused
with a `DiskFault`, whose words are those of the system.
-/
namespace CaseHerald.Rehearsal

open Store (Volume)
open Text (Octets octets)

/-- Why something cannot be done on a disk. -/
inductive DiskFault
  | absent
  | taken
  | throughFile
  | isFolder
  | tooLong
  | nul
  deriving DecidableEq, Repr

/-- The fault in words. -/
def DiskFault.message : DiskFault → String
  | .absent => "No such file or directory (os error 2)"
  | .taken => "File exists (os error 17)"
  | .throughFile => "Not a directory (os error 20)"
  | .isFolder => "Is a directory (os error 21)"
  | .tooLong => "File name too long (os error 36)"
  | .nul => "file name contained an unexpected NUL byte"

/-- What is at a place. -/
inductive Node
  | folder
  /-- a folder that nothing can be added to -/
  | sealed
  | file (contents : Octets)
  /-- the file of a volume -/
  | volume (v : Volume)

/-- Whether there can be something inside. -/
def Node.isFolder : Node → Bool
  | .folder | .sealed => true
  | _ => false

/-- The octets at the start of a volume's files, which are not those of a text. -/
def volumeMark : Octets := [0xDE, 0xC0, 0xEF, 0xBE]

/-- The names that lead to a place from the root, the last one first. -/
abbrev Place := List String

/-- What is where, and the folder where paths begin that do not begin at the root. -/
structure Disk where
  nodes : List (Place × Node)
  here : Place

namespace Disk

/-- What is at a place. -/
def node? (d : Disk) : Place → Option Node
  | [] => some .folder
  | p => (d.nodes.find? fun n => n.1 == p).map (·.2)

/-- The disk without what is at a place. -/
def without (d : Disk) (p : Place) : Disk := { d with nodes := d.nodes.filter fun n => n.1 != p }

/-- The disk with something else at a place. -/
def put (d : Disk) (p : Place) (n : Node) : Disk :=
  { d with nodes := (p, n) :: (d.without p).nodes }

/-- Whether nothing can be added to the folder around a place. -/
def isSealed (d : Disk) (p : Place) : Bool :=
  match d.node? p.tail with
  | some .sealed => true
  | _ => false

/-! ## Paths -/

/-- The most octets of a name. -/
def longestName : Nat := 255

/-- The most octets of a path. -/
def longestPath : Nat := 4095

/-- The place that a name leads to from a place. -/
def step (d : Disk) (p : Place) (name : String) : Except DiskFault Place :=
  match d.node? p with
  | none => .error .absent
  | some n =>
    if !n.isFolder then .error .throughFile
    else if name = "." then .ok p
    else if name = ".." then .ok p.tail
    else if longestName < (octets name).length then .error .tooLong
    else .ok (name :: p)

/-- The place that names lead to from a place. -/
def walk (d : Disk) (p : Place) (names : List String) : Except DiskFault Place :=
  names.foldlM d.step p

/-- The place where the path begins, and the names in it. -/
def route (d : Disk) (path : String) : Except DiskFault (Place × List String) :=
  if path.contains '\x00' then .error .nul
  else if longestPath < (octets path).length then .error .tooLong
  else if path.isEmpty then .error .absent
  else .ok (if path.startsWith "/" then [] else d.here,
    ((Text.pieces '/' path.toList).filter fun name => !name.isEmpty).map String.ofList)

/-- The place that the path leads to. With a slash at its end it leads into a folder. -/
def place (d : Disk) (path : String) : Except DiskFault Place := do
  let (start, names) ← d.route path
  d.walk start (if path.endsWith "/" then names ++ ["."] else names)

/-! ## Files -/

/-- The contents of the file at the path. -/
def contents (d : Disk) (path : String) : Except DiskFault Octets := do
  match d.node? (← d.place path) with
  | none => .error .absent
  | some (.file bytes) => .ok bytes
  | some (.volume _) => .ok volumeMark
  | some _ => .error .isFolder

/-- The disk with the contents in the file at the path, or without the file. -/
def withFile (d : Disk) (path : String) (contents : Option Octets) : Disk :=
  match d.place path, contents with
  | .ok p, some bytes => d.put p (.file bytes)
  | .ok p, none => d.without p
  | .error _, _ => d

/-! ## Folders -/

/-- Makes the folder that names lead to, unless it is there. -/
def ensure (d : Disk) (start : Place) (names : List String) : Except DiskFault Disk := do
  let p ← d.walk start names
  match d.node? p with
  | some n => if n.isFolder then .ok d else .error .taken
  | none => if d.isSealed p then .error .absent else .ok (d.put p .folder)

/-- Makes one folder after another, up to the first that cannot be made. -/
def ensureEach (d : Disk) (start : Place) : List (List String) → Except DiskFault Unit × Disk
  | [] => (.ok (), d)
  | names :: rest =>
    match d.ensure start names with
    | .ok d => d.ensureEach start rest
    | .error f => (.error f, d)

/-- What leads to the folders around the one that names lead to, from the outermost one on. -/
def around (names : List String) : List (List String) :=
  let names := names.filter (· ≠ ".")
  (List.range (names.length - 1)).map fun k => names.take (k + 1)

/-- Makes the folder that names lead to and the folders around it, where they are missing. -/
def ensureAll (d : Disk) (start : Place) (names : List String) : Except DiskFault Unit × Disk :=
  match d.ensure start names with
  | .ok d => (.ok (), d)
  | .error .absent => d.ensureEach start (around names ++ [names])
  | .error f => (.error f, d)

/-- Makes the folder at the path, and answers its place. -/
def makeFolder (d : Disk) (path : String) : Except DiskFault Place × Disk :=
  match d.route path with
  | .error f => (.error f, d)
  | .ok (start, names) =>
    match d.ensureAll start names with
    | (.ok (), d) => (d.walk start names, d)
    | (.error f, d) => (.error f, d)

/-- The disk with the folder at the path, where paths begin from now on. -/
def enter (d : Disk) (path : String) : Disk :=
  match d.makeFolder path with
  | (.ok p, d) => { d with here := p }
  | (.error _, d) => d

/-! ## Volumes -/

/-- Makes the file unless there is one. -/
def ensureFile (d : Disk) (p : Place) (contents : Octets) : Except DiskFault Disk :=
  match d.node? p with
  | some n => if n.isFolder then .error .isFolder else .ok d
  | none => if d.isSealed p then .error .absent else .ok (d.put p (.file contents))

/-- The place of the file of the volume in a folder. -/
def dataIn (folder : Place) : Place := "data.mdb" :: folder

/-- Makes the two files of the volume in a folder. -/
def ensureFiles (d : Disk) (folder : Place) : Except DiskFault Unit × Disk :=
  match d.ensureFile ("lock.mdb" :: folder) volumeMark with
  | .error f => (.error f, d)
  | .ok d =>
    match d.ensureFile (dataIn folder) [] with
    | .error f => (.error f, d)
    | .ok d => (.ok (), d)

/-- Opens the volume in a folder, which is new unless there has been one. -/
def openIn (d : Disk) (folder : Place) (fresh : Except VolumeFailure Volume) :
    Except VolumeFailure Volume × Disk :=
  match d.ensureFiles folder with
  | (.error f, d) => (.error (.environment f.message), d)
  | (.ok (), d) =>
    match fresh with
    | .error f => (.error f, d)
    | .ok fresh =>
      let v := match d.node? (dataIn folder) with
        | some (.volume v) => { fresh with tables := v.tables }
        | _ => fresh
      (.ok v, d.put (dataIn folder) (.volume v))

/-- Opens the volume in the folder at the path, for a process that has not opened it before. Answers
the place of the folder as well. -/
def openAt (d : Disk) (path : String) (megabytes : Nat) :
    Except VolumeFailure (Place × Volume) × Disk :=
  match Volume.create megabytes with
  | .error (.mapSize n) => (.error (.mapSize n), d)
  | fresh =>
    match d.makeFolder path with
    | (.error f, d) => (.error (.io f.message), d)
    | (.ok folder, d) =>
      let (v, d) := d.openIn folder fresh
      (v.map fun v => (folder, v), d)

/-! ## A disk to begin with -/

/-- The text of the file that lists the users of a system. -/
def users : String := "root:x:0:0:root:/root:/bin/sh\nnobody:x:65534:65534:nobody:/:/bin/false\n"

/-- The text of the file that lists the hosts that a system knows. -/
def hosts : String := "127.0.0.1\tlocalhost\n::1\tlocalhost\n"

/-- What is on every disk. -/
def usual : List (Place × Node) :=
  ["bin", "dev", "etc", "home", "lib", "root", "run", "tmp", "usr", "var"].map
      (fun name => ([name], Node.folder)) ++
    [(["proc"], .sealed), (["null", "dev"], .file []), (["passwd", "etc"], .file (octets users)),
     (["hosts", "etc"], .file (octets hosts))]

/-- A disk with what is on every disk, where paths begin at the root. -/
def bare : Disk := ⟨usual, []⟩

end Disk

end CaseHerald.Rehearsal
