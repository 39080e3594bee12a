import OpenFlow.Host.Error

/-!
# System calls

The controller reaches the file system and local (Unix-domain) sockets through a few system
calls, and it is written over any system that offers them: `Syscalls σ` holds the calls on a
system whose state is `σ`. Each call may fail with an `OsError`, keeping what was done before
(`SysM`). What the controller relies on of the calls is stated where it is used, as hypotheses
on the system; the steps the standard library builds on the calls (`Syscalls.removeStale`,
`Syscalls.createDirAll`, `Syscalls.openCreatingParents`) are written here once for every system.
-/

namespace OpenFlow

/-- Calls on a system whose state is `σ`: they change the state as they go and may fail,
keeping what was done. -/
abbrev SysM (σ : Type) := ExceptT OsError (StateM σ)

/-- Runs a call on a state. -/
def SysM.run' {σ α : Type} (m : SysM σ α) (s : σ) : Except OsError α × σ :=
  (ExceptT.run m).run s

/-- A call's error as a value, so that the caller can go on. -/
def attempt {σ α : Type} (m : SysM σ α) : SysM σ (Except OsError α) :=
  tryCatch (Except.ok <$> m) (fun e => pure (Except.error e))

/-- The system calls the controller makes, on a system whose state is `σ`. A socket the system
opens is known by a number. -/
structure Syscalls (σ : Type) where
  /-- Removes a name that is not a directory (`fs::remove_file`). -/
  removeFile : String → SysM σ Unit
  /-- Creates a directory (`fs::create_dir`). -/
  mkdir : String → SysM σ Unit
  /-- Whether a path leads to a directory (`Path::is_dir`). -/
  isDir : String → SysM σ Bool
  /-- Opens a file for appending, creating it when it is missing. -/
  openForWriting : String → SysM σ Unit
  /-- A stream socket listening under a new name (`UnixListener::bind`). -/
  listen : String → SysM σ Nat
  /-- Takes one connection made to a listening socket (`UnixListener::accept`). -/
  accept : Nat → SysM σ Unit
  /-- Connects to the stream socket listening under a name (`UnixStream::connect`). -/
  connect : String → SysM σ Unit
  /-- A datagram socket bound under a new name (`UnixDatagram::bind`). -/
  bindDatagram : String → SysM σ Nat
  /-- Sends a frame as one datagram to the socket under a name, without waiting
  (`UnixDatagram::send_to` on a non-blocking socket). -/
  sendTo : String → List UInt8 → SysM σ Unit
  /-- Reads the oldest datagram waiting in a socket into a buffer of the given size, without
  waiting (`UnixDatagram::recv` on a non-blocking socket): what does not fit the buffer is lost,
  and `wouldBlock` means that no datagram waits. -/
  recv : Nat → Nat → SysM σ (List UInt8)
  /-- Closes a socket. -/
  close : Nat → σ → σ

/-! ### Paths as the standard library splits them -/

/-- The components of a path, last first: a leading `/` is a component of its own, a leading
`.` is kept, every other `.` and every empty component is dropped. -/
def pathComponentsRev (p : String) : List String :=
  let parts := p.splitOn "/"
  let root := if p.startsWith "/" then ["/"] else []
  let lead := match parts with
    | "." :: _ => if p.startsWith "/" then [] else ["."]
    | _ => []
  let body := parts.filter (fun c => c ≠ "" && c ≠ ".")
  (root ++ lead ++ body).reverse

/-- The path of components given last first. -/
def componentsText (rev : List String) : String :=
  match rev.reverse with
  | "/" :: rest => "/" ++ "/".intercalate rest
  | cs => "/".intercalate cs

/-- The parent of a path as the standard library gives it, if it has one. -/
def parentPath (p : String) : Option String :=
  match pathComponentsRev p with
  | [] | ["/"] => none
  | _ :: parent => some (componentsText parent)

namespace Syscalls

variable {σ : Type} (os : Syscalls σ)

/-- Removes a name that is not a directory; a missing one is no error. -/
def removeStale (p : String) : SysM σ Unit := do
  match ← attempt (os.removeFile p) with
  | .error .notFound | .ok () => pure ()
  | .error e => throw e

/-- Creates a directory and its missing parents, given its components last first: when the
directory cannot be made for want of a parent, the parent is made first and the directory
tried again; a directory that is already there is no error. -/
def createDirAllRev : List String → SysM σ Unit
  | [] => pure ()
  | c :: parent => do
    let p := componentsText (c :: parent)
    match ← attempt (os.mkdir p) with
    | .ok () => pure ()
    | .error .notFound =>
      if c = "/" then throw .treeNotCreated
      else
        createDirAllRev parent
        match ← attempt (os.mkdir p) with
        | .ok () => pure ()
        | .error e => if ← os.isDir p then pure () else throw e
    | .error e => if ← os.isDir p then pure () else throw e

/-- Creates a directory and its missing parents (`fs::create_dir_all`). The directory is made
under the path as written, so a path ending in `/.` never makes its last directory; the parents
are made under the paths their components spell. -/
def createDirAll (p : String) : SysM σ Unit := do
  if p.isEmpty then return
  match ← attempt (os.mkdir p) with
  | .ok () => pure ()
  | .error .notFound =>
    match pathComponentsRev p with
    | [] | ["/"] => throw .treeNotCreated
    | _ :: parent =>
      os.createDirAllRev parent
      match ← attempt (os.mkdir p) with
      | .ok () => pure ()
      | .error e => if ← os.isDir p then pure () else throw e
  | .error e => if ← os.isDir p then pure () else throw e

/-- Opens a file for writing, creating it and its missing parent directories. -/
def openCreatingParents (p : String) : SysM σ Unit := do
  match parentPath p with
  | some parent => os.createDirAll parent
  | none => pure ()
  os.openForWriting p

end Syscalls

end OpenFlow
