/-!
# System errors

The file and socket calls a controller makes fail with the errors of `OsError`. `OsError.message`
gives the text the system shows for each: its description and its number, as in
`No such file or directory (os error 2)`. Two kinds of failure never reach the system: a path
refused before the call is made (`invalidInput`, whose text says why) and a directory tree that
could not be created for want of a parent (`treeNotCreated`).
-/

namespace OpenFlow

/-- Why a file or socket call failed. -/
inductive OsError where
  | notFound
  | noDevice
  | wouldBlock
  | alreadyExists
  | notADirectory
  | isADirectory
  | invalidArgument
  | nameTooLong
  | messageTooLong
  | wrongProtocol
  | addressInUse
  | connectionRefused
  | invalidInput (text : String)
  | treeNotCreated
deriving DecidableEq, Repr

namespace OsError

/-- The error number and its description, for errors the system reports. -/
def numbered : OsError → Option (Nat × String)
  | .notFound => some (2, "No such file or directory")
  | .noDevice => some (6, "No such device or address")
  | .wouldBlock => some (11, "Resource temporarily unavailable")
  | .alreadyExists => some (17, "File exists")
  | .notADirectory => some (20, "Not a directory")
  | .isADirectory => some (21, "Is a directory")
  | .invalidArgument => some (22, "Invalid argument")
  | .nameTooLong => some (36, "File name too long")
  | .messageTooLong => some (90, "Message too long")
  | .wrongProtocol => some (91, "Protocol wrong type for socket")
  | .addressInUse => some (98, "Address already in use")
  | .connectionRefused => some (111, "Connection refused")
  | .invalidInput _ | .treeNotCreated => none

/-- The text shown for the error. -/
def message (e : OsError) : String :=
  match e.numbered, e with
  | some (n, text), _ => text ++ " (os error " ++ toString n ++ ")"
  | none, .invalidInput text => text
  | none, _ => "failed to create whole tree"

end OsError

end OpenFlow
