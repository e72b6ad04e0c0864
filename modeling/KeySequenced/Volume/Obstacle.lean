/-!
# Obstacles in a volume

What can stand in the way of an operation on files, the class of input and
output failure it belongs to, and the wording of both.
-/

set_option autoImplicit false

namespace KeySequenced

inductive FailureClass where
  | notFound
  | permissionDenied
  | alreadyExists
  | invalidInput
  | invalidData
  | unexpectedEnd
  | isADirectory
  | notADirectory
  | invalidFilename
  | resourceBusy
  | other
  deriving DecidableEq, Repr

def FailureClass.message : FailureClass → String
  | .notFound => "entity not found"
  | .permissionDenied => "permission denied"
  | .alreadyExists => "entity already exists"
  | .invalidInput => "invalid input parameter"
  | .invalidData => "invalid data"
  | .unexpectedEnd => "unexpected end of file"
  | .isADirectory => "is a directory"
  | .notADirectory => "not a directory"
  | .invalidFilename => "invalid filename"
  | .resourceBusy => "resource busy"
  | .other => "other error"

inductive Obstacle where
  | missing
  | isADirectory
  | notADirectory
  | nameTooLong
  /-- The name holds a NUL character. -/
  | nulInName
  /-- The directory is in use. -/
  | busy
  deriving DecidableEq, Repr

namespace Obstacle

def failureClass : Obstacle → FailureClass
  | .missing => .notFound
  | .isADirectory => .isADirectory
  | .notADirectory => .notADirectory
  | .nameTooLong => .invalidFilename
  | .nulInName => .invalidInput
  | .busy => .resourceBusy

def message : Obstacle → String
  | .missing => "No such file or directory (os error 2)"
  | .isADirectory => "Is a directory (os error 21)"
  | .notADirectory => "Not a directory (os error 20)"
  | .nameTooLong => "File name too long (os error 36)"
  | .nulInName => "file name contained an unexpected NUL byte"
  | .busy => "Device or resource busy (os error 16)"

end Obstacle

end KeySequenced
