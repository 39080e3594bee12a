import OpenFlow.Host.Syscalls

/-!
# The file system of the simulated host

The controller runs on a simulated host (`Host`), a system that offers its calls
(`Host.syscalls`, in `OpenFlow.Host.Socket`) the way Linux does for the cases the controller
meets. A `Host` is the tree of names from the root, each a directory, a regular file or a local
socket (`Node`), the working directory relative paths start from, and the sockets that are
still open. A controller starts on `Host.initial`, in a directory of its own. Paths are
resolved the way the system resolves them (`Host.locate`): every component before the last
must be an existing directory, `.` stays and `..` goes up (also out of the working directory),
and what is left is either a directory itself or a name in one, remembered with whether the path
ended in a slash. The calls on top of it (`mkdir`, `openForWriting`, `removeFile`) change the
tree as the system calls of the same purpose do and fail with the same errors.
-/

namespace OpenFlow

/-- What a name in the file system refers to. -/
inductive Node where
  | directory
  | file
  | socket (id : Nat)
deriving DecidableEq, Repr

/-- The kind of a local socket. -/
inductive SocketKind where
  | stream
  | datagram
deriving DecidableEq, Repr

/-- An open local socket and, for a datagram socket, the datagrams waiting in it, oldest first. -/
structure OpenSocket where
  kind : SocketKind
  inbox : List (List UInt8) := []
deriving DecidableEq, Repr

/-- The names below the working directory and the sockets open on the host. -/
structure Host where
  /-- Every name but the root, as the list of its components from the root, with what it
  refers to. -/
  nodes : List (List String × Node) := []
  /-- The working directory, from which relative paths start. -/
  cwd : List String := []
  /-- Open sockets by number. -/
  sockets : List (Nat × OpenSocket) := []
  /-- The number the next socket gets. -/
  nextSocket : Nat := 0
deriving Repr

/-- The host a controller starts on: a working directory of its own under `/tmp`, and the
system's `/etc/passwd` and `/dev/null` beside it. -/
def Host.initial : Host where
  nodes := [(["tmp"], .directory), (["tmp", "controller"], .directory), (["etc"], .directory),
    (["etc", "passwd"], .file), (["dev"], .directory), (["dev", "null"], .file)]
  cwd := ["tmp", "controller"]

/-- Calls on the simulated host. -/
abbrev HostM := SysM Host

/-- Runs a call on the simulated host. -/
def HostM.run' {α : Type} (m : HostM α) (h : Host) : Except OsError α × Host :=
  SysM.run' m h

/-- What a path names once its directories are walked. -/
inductive Place where
  /-- An existing directory itself, as with `.`, `..` or `/`. -/
  | directory (components : List String)
  /-- A name in an existing directory, and whether the path ended in a slash. -/
  | entry (dir : List String) (name : String) (slash : Bool)
deriving DecidableEq, Repr

/-- The longest file name the system accepts, in bytes. -/
def maxNameLength : Nat := 255

/-- The longest path the system accepts, in bytes, with its terminating zero. -/
def maxPathLength : Nat := 4096

namespace Host

/-- What a name refers to; the working directory is the empty name. -/
def node? (h : Host) (name : List String) : Option Node :=
  if name.isEmpty then some .directory else h.nodes.lookup name

/-- The host with a new name. -/
def insert (h : Host) (name : List String) (n : Node) : Host :=
  { h with nodes := (name, n) :: h.nodes }

/-- The host without a name. -/
def erase (h : Host) (name : List String) : Host :=
  { h with nodes := h.nodes.filter (·.1 ≠ name) }

/-- Walks the directory components of a path from `cur`. -/
def walk (h : Host) : List String → List String → Except OsError (List String)
  | cur, [] => .ok cur
  | cur, c :: cs =>
    if c = "." then walk h cur cs
    else if c = ".." then walk h cur.dropLast cs
    else if c.utf8ByteSize > maxNameLength then .error .nameTooLong
    else
      match h.node? (cur ++ [c]) with
      | some .directory => walk h (cur ++ [c]) cs
      | some _ => .error .notADirectory
      | none => .error .notFound

/-- Where a path leads. -/
def locate (h : Host) (p : String) : Except OsError Place :=
  if p.isEmpty then .error .notFound
  else if p.toList.contains (Char.ofNat 0) then
    .error (.invalidInput "file name contained an unexpected NUL byte")
  else if p.utf8ByteSize ≥ maxPathLength then .error .nameTooLong
  else
    let parts := p.splitOn "/"
    let slash := parts.getLast? = some ""
    let start := if p.startsWith "/" then [] else h.cwd
    match (parts.filter (· ≠ "")).reverse with
    | [] => .ok (.directory start)
    | last :: revInit => do
      let dir ← walk h start revInit.reverse
      if last = "." then pure (.directory dir)
      else if last = ".." then pure (.directory dir.dropLast)
      else if last.utf8ByteSize > maxNameLength then .error .nameTooLong
      else pure (.entry dir last slash)

/-- What a place refers to, if anything. -/
def nodeAt (h : Host) : Place → Option Node
  | .directory _ => some .directory
  | .entry dir name _ => h.node? (dir ++ [name])

/-- Whether a path leads to a directory. -/
def isDir (h : Host) (p : String) : Bool :=
  match h.locate p with
  | .ok place => h.nodeAt place == some .directory
  | .error _ => false

/-- Whether a path leads to something. -/
def pathExists (h : Host) (p : String) : Bool :=
  match h.locate p with
  | .ok place =>
    match h.nodeAt place, place with
    | some .directory, _ => true
    | some _, .entry _ _ true => false
    | some _, _ => true
    | none, _ => false
  | .error _ => false

end Host

/-- The place a path leads to on the current host. -/
def locatePath (p : String) : HostM Place := do
  match (← get).locate p with
  | .ok place => pure place
  | .error e => throw e

/-- Creates a directory. -/
def mkdir (p : String) : HostM Unit := do
  match ← locatePath p with
  | .directory _ => throw .alreadyExists
  | .entry dir name _ =>
    match (← get).node? (dir ++ [name]) with
    | some _ => throw .alreadyExists
    | none => modify (·.insert (dir ++ [name]) .directory)

/-- Opens a file for writing, creating it when it is missing. -/
def openForWriting (p : String) : HostM Unit := do
  match ← locatePath p with
  | .directory _ => throw .isADirectory
  | .entry dir name slash =>
    if slash then throw .isADirectory
    else
      match (← get).node? (dir ++ [name]) with
      | some .directory => throw .isADirectory
      | some .file => pure ()
      | some (.socket _) => throw .noDevice
      | none => modify (·.insert (dir ++ [name]) .file)

/-- Removes a name that is not a directory. -/
def removeFile (p : String) : HostM Unit := do
  match ← locatePath p with
  | .directory _ => throw .isADirectory
  | .entry dir name slash =>
    match (← get).node? (dir ++ [name]) with
    | none => throw .notFound
    | some .directory => throw .isADirectory
    | some _ => if slash then throw .notADirectory else modify (·.erase (dir ++ [name]))

end OpenFlow
