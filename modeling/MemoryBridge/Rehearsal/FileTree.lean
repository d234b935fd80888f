import MemoryBridge.Serial

/-!
# Rehearsed file trees

A tree of directories, files and devices that is known in advance, and the paths in it. A path is
followed name by name from the root, or from the working directory if it does not begin with a
slash. Opening a serial port takes a path too, and finds no port in the tree.
-/

namespace MemoryBridge

/-- What a name in a directory stands for. -/
inductive TreeEntry
  | directory
  /-- A file, or a device that gives these bytes. -/
  | file (bytes : ByteArray)
  /-- A device that is not there at the moment. -/
  | vacant

/-- Why nothing can be read at a path. -/
inductive PathFault
  | absent
  | notDirectory
  | isDirectory
  | nameTooLong
  | vacant
  deriving DecidableEq, Repr

namespace PathFault

def text : PathFault → String
  | .absent => "No such file or directory"
  | .notDirectory => "Not a directory"
  | .isDirectory => "Is a directory"
  | .nameTooLong => "File name too long"
  | .vacant => "No such device or address"

/-- The number under which the system reports it. -/
def number : PathFault → Nat
  | .absent => 2
  | .notDirectory => 20
  | .isDirectory => 21
  | .nameTooLong => 36
  | .vacant => 6

def kind : PathFault → FaultKind
  | .absent => .notFound
  | _ => .other

def toFault (f : PathFault) : Fault := ⟨f.kind, f.text ++ " (os error " ++ toString f.number ++ ")"⟩

def toPortFault (f : PathFault) : PortFault :=
  ⟨match f with
    | .absent => .noDevice
    | _ => .unknown, f.text⟩

end PathFault

/-- The entry at a path is no serial port. -/
def PortFault.notSerial : PortFault := ⟨.unknown, "Not a typewriter"⟩

/-- A path cannot hold a zero. -/
def PortFault.invalidPath : PortFault := ⟨.unknown, "Invalid argument"⟩

structure FileTree where
  /-- The entries by the names on the way to them. The root has none of its own. -/
  entries : List (List String × TreeEntry) := []
  /-- The names on the way to the working directory. -/
  workplace : List String := []

namespace FileTree

/-- The most octets of a name. -/
def nameLimit : Nat := 255

/-- A path has fewer octets than this. -/
def pathLimit : Nat := 4096

/-- The tree with a file added. -/
def withFile (t : FileTree) (place : List String) (bytes : ByteArray) : FileTree :=
  { t with entries := (place, .file bytes) :: t.entries }

def entry? (t : FileTree) (place : List String) : Option TreeEntry :=
  if place.isEmpty then some .directory
  else (t.entries.find? fun e => e.1 == place).map (·.2)

/-- The entry that the names lead to from a place. One dot is the place itself and two are the
directory that it is in. -/
def follow (t : FileTree) (place : List String) (names : List String) :
    Except PathFault TreeEntry :=
  match names, t.entry? place with
  | _, none => .error .absent
  | [], some e => .ok e
  | name :: rest, some .directory =>
    if name == "" || name == "." then t.follow place rest
    else if name == ".." then t.follow place.dropLast rest
    else if nameLimit < name.utf8ByteSize then .error .nameTooLong
    else t.follow (place ++ [name]) rest
  | _ :: _, some _ => .error .notDirectory

def resolve (t : FileTree) (path : String) : Except PathFault TreeEntry :=
  if path.isEmpty then .error .absent
  else if pathLimit ≤ path.utf8ByteSize then .error .nameTooLong
  else t.follow (if path.toList.head? = some '/' then [] else t.workplace) (path.splitOn "/")

/-- The bytes of the file at a path. -/
def bytesAt (t : FileTree) (path : String) : Except Fault ByteArray :=
  match t.resolve path with
  | .error fault => .error fault.toFault
  | .ok .directory => .error PathFault.isDirectory.toFault
  | .ok (.file bytes) => .ok bytes
  | .ok .vacant => .error PathFault.vacant.toFault

/-- What comes of opening a serial port at a path. -/
def openPort (t : FileTree) (path : String) : PortFault :=
  if path.toList.contains '\x00' then .invalidPath
  else
    match t.resolve path with
    | .error fault => fault.toPortFault
    | .ok .directory => PathFault.isDirectory.toPortFault
    | .ok (.file _) => .notSerial
    | .ok .vacant => PathFault.vacant.toPortFault

/-- The directories that a system has. -/
def systemDirectories : List (List String) :=
  ["bin", "boot", "dev", "etc", "home", "lib", "media", "mnt", "opt", "proc", "root", "run", "sbin",
    "srv", "sys", "tmp", "usr", "var"].map (fun name => [name]) ++
  [["dev", "fd"], ["dev", "pts"], ["dev", "shm"], ["proc", "self"], ["proc", "self", "fd"],
    ["usr", "bin"], ["usr", "lib"], ["usr", "local"], ["usr", "share"], ["var", "lib"],
    ["var", "log"], ["var", "tmp"]]

/-- The files that a system has. What is in them differs from one system to the other, so they are
taken to be empty. -/
def systemFiles : List (List String) :=
  ["group", "hostname", "hosts", "passwd", "resolv.conf"].map fun name => ["etc", name]

/-- The tree of a system on which nothing is plugged in and a program has the given input. -/
def system (input : ByteArray) : FileTree :=
  { entries :=
      systemDirectories.map (fun place => (place, .directory)) ++
      systemFiles.map (fun place => (place, .file .empty)) ++
      [(["dev", "null"], .file .empty), (["dev", "zero"], .file .empty),
        (["dev", "full"], .file .empty), (["dev", "random"], .file .empty),
        (["dev", "urandom"], .file .empty), (["dev", "tty"], .vacant),
        (["dev", "stdin"], .file input), (["dev", "fd", "0"], .file input),
        (["proc", "self", "fd", "0"], .file input)]
    workplace := ["tmp"] }

end FileTree

end MemoryBridge
