import OpenFlow.Host.FileSystem

/-!
# Local sockets of the simulated host

Local sockets live in the file system under a name. `bindSocket` opens a socket of a kind and
gives it a new name; `reachSocket` finds the open socket of that kind a name leads to, the way
connecting to a name or sending a datagram to it does. A name that leads to something other
than a socket, or to a socket that has since been closed, refuses the connection; a socket of
the other kind is the wrong protocol. A socket address must be shorter than 108 bytes and hold
no zero byte; the empty address binds a socket without a name. Datagram sockets keep what is
sent to them (`sendDatagram`) until it is read (`receiveDatagram`), with Linux's default limits
on a datagram's length and on how many may wait. `Host.syscalls` gathers the host's calls as the
system the controller runs on; a listening socket is connected to at once.
-/

namespace OpenFlow

/-- The room for a socket's name, in bytes, with its terminating zero. -/
def socketPathRoom : Nat := 108

/-- The longest datagram a socket sends, in bytes. -/
def maxDatagramLength : Nat := 212960

/-- Datagrams waiting in a socket beyond this many make it full. -/
def datagramBacklog : Nat := 10

/-- Checks a path as a socket address; the empty path is the address of no name. -/
def socketAddress (p : String) : HostM Unit :=
  if p.toList.contains (Char.ofNat 0) then
    throw (.invalidInput "paths must not contain interior null bytes")
  else if p.utf8ByteSize ≥ socketPathRoom then
    throw (.invalidInput "path must be shorter than SUN_LEN")
  else pure ()

namespace Host

/-- The open socket with a number. -/
def socket? (h : Host) (id : Nat) : Option OpenSocket :=
  h.sockets.lookup id

/-- The number of a new open socket, and the host with it. -/
def openSocket (h : Host) (kind : SocketKind) : Nat × Host :=
  (h.nextSocket,
    { h with sockets := (h.nextSocket, { kind }) :: h.sockets, nextSocket := h.nextSocket + 1 })

/-- The host with a socket closed; its name, if it has one, stays. -/
def closeSocket (h : Host) (id : Nat) : Host :=
  { h with sockets := h.sockets.filter (·.1 ≠ id) }

/-- The host with a socket's state replaced. -/
def setSocket (h : Host) (id : Nat) (s : OpenSocket) : Host :=
  { h with sockets := h.sockets.map fun e => if e.1 = id then (id, s) else e }

end Host

/-- Opens a socket of a kind under a new name; the empty name binds it without one. -/
def bindSocket (p : String) (kind : SocketKind) : HostM Nat := do
  socketAddress p
  if p.isEmpty then modifyGet (·.openSocket kind)
  else
    match ← locatePath p with
    | .directory _ => throw .addressInUse
    | .entry dir name slash =>
      match (← get).node? (dir ++ [name]) with
      | some _ => throw .addressInUse
      | none =>
        if slash then throw .notFound
        else
          let id ← modifyGet (·.openSocket kind)
          modify (·.insert (dir ++ [name]) (.socket id))
          pure id

/-- The open socket of a kind a name leads to. -/
def reachSocket (p : String) (kind : SocketKind) : HostM Nat := do
  socketAddress p
  if p.isEmpty then throw .invalidArgument
  let h ← get
  let place ← locatePath p
  match h.nodeAt place, place with
  | none, _ => throw .notFound
  | some .directory, _ => throw .connectionRefused
  | some _, .entry _ _ true => throw .notADirectory
  | some .file, _ => throw .connectionRefused
  | some (.socket id), _ =>
    match h.socket? id with
    | none => throw .connectionRefused
    | some s => if s.kind = kind then pure id else throw .wrongProtocol

/-- Sends a datagram to the socket a name leads to; the datagram waits there to be read. -/
def sendDatagram (p : String) (frame : List UInt8) : HostM Unit := do
  socketAddress p
  if p.isEmpty then throw .invalidArgument
  if frame.length > maxDatagramLength then throw .messageTooLong
  let id ← reachSocket p .datagram
  match (← get).socket? id with
  | none => throw .connectionRefused
  | some s =>
    if s.inbox.length > datagramBacklog then throw .wouldBlock
    else modify (·.setSocket id { s with inbox := s.inbox ++ [frame] })

/-- Reads the oldest datagram waiting in a socket into a buffer of `room` bytes; what does not
fit is lost, and a socket with none waiting would block. -/
def receiveDatagram (id : Nat) (room : Nat) : HostM (List UInt8) := do
  match (← get).socket? id with
  | none => throw .wouldBlock
  | some s =>
    match s.inbox with
    | [] => throw .wouldBlock
    | d :: rest =>
      modify (·.setSocket id { s with inbox := rest })
      pure (d.take room)

/-- The calls of the simulated host. -/
def Host.syscalls : Syscalls Host where
  removeFile := removeFile
  mkdir := mkdir
  isDir p := return (← get).isDir p
  openForWriting := openForWriting
  listen p := bindSocket p .stream
  accept _ := pure ()
  connect p := do
    let _ ← reachSocket p .stream
  bindDatagram p := bindSocket p .datagram
  sendTo := sendDatagram
  recv := receiveDatagram
  close id h := h.closeSocket id

end OpenFlow
