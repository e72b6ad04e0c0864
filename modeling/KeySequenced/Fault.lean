import KeySequenced.Bytes.Basic
import KeySequenced.Damage
import KeySequenced.Definition
import KeySequenced.Refusal
import KeySequenced.Volume.Obstacle

/-!
# Faults

Every request to a dataset that does not succeed ends in a fault.  A fault says
what happened; `kind`, `status` and `message` give its name, its two-digit file
status and its wording.
-/

set_option autoImplicit false

namespace KeySequenced

inductive Fault where
  | alreadyOpen (cluster : String)
  | notOpen (cluster : String)
  | refused (refusal : Refusal)
  | duplicateKey (key : String)
  | recordNotFound (key : String)
  /-- No record lies at a relative byte address. -/
  | nothingAt (rba : Nat)
  | endOfFile (cursor : UInt64)
  | startOfFile (cursor : UInt64)
  | unknownCursor (cursor : UInt64)
  | defective (defect : Defect)
  | unsupported (organization : Organization)
  | inputOutput (path : Option String) (failure : FailureClass) (text : String)
  | corrupted (damage : Damage)
  | checksumMismatch (path : String) (expected actual : UInt32) (offset : Nat)
  deriving DecidableEq, Repr

namespace Fault

def ofObstacle (path activity : String) (obstacle : Obstacle) : Fault :=
  .inputOutput (some path) obstacle.failureClass s!"{activity}: {obstacle.message}"

def kind : Fault → String
  | .alreadyOpen _ => "ALREADY_OPEN"
  | .notOpen _ => "FILE_NOT_OPEN"
  | .refused _ => "INVALID_REQUEST"
  | .duplicateKey _ => "DUPLICATE_KEY"
  | .recordNotFound _ => "RECORD_NOT_FOUND"
  | .nothingAt _ => "RBA_NOT_FOUND"
  | .endOfFile _ => "END_OF_FILE"
  | .startOfFile _ => "START_OF_FILE"
  | .unknownCursor _ => "INVALID_BROWSE_ID"
  | .defective _ => "INVALID_ARGUMENT"
  | .unsupported _ => "UNSUPPORTED_ORGANIZATION"
  | .inputOutput .. => "IO_ERROR"
  | .corrupted _ => "CORRUPTED"
  | .checksumMismatch .. => "CHECKSUM_MISMATCH"

/-- The file status: 1x at an end of the data, 2x for a key, 3x and 9x for lasting errors, 4x for
a request out of order. -/
def status : Fault → String
  | .endOfFile _ | .startOfFile _ => "10"
  | .duplicateKey _ => "22"
  | .recordNotFound _ | .nothingAt _ => "23"
  | .defective _ | .unsupported _ => "39"
  | .alreadyOpen _ => "41"
  | .notOpen _ => "47"
  | .inputOutput .. | .corrupted _ | .checksumMismatch .. => "90"
  | .refused _ | .unknownCursor _ => "92"

def isEndOfData : Fault → Bool
  | .endOfFile _ | .startOfFile _ => true
  | _ => false

def checksumText (checksum : UInt32) : String :=
  let bytes := [checksum >>> 24, checksum >>> 16, checksum >>> 8, checksum]
  "0x" ++ Bytes.hex (bytes.map UInt32.toUInt8)

def message : Fault → String
  | .alreadyOpen cluster => s!"Dataset {cluster} is already open"
  | .notOpen cluster => s!"Dataset {cluster} is not open"
  | .refused refusal => s!"Invalid request: {refusal.message}"
  | .duplicateKey key => s!"Duplicate key {key}"
  | .recordNotFound key => s!"Record not found for key {key}"
  | .nothingAt rba => s!"No record at RBA {rba}"
  | .endOfFile cursor => s!"End of file on browse {cursor}"
  | .startOfFile cursor => s!"Beginning of file on browse {cursor}"
  | .unknownCursor cursor => s!"Invalid browse id {cursor}"
  | .defective defect => s!"Invalid {defect.field}: {defect.reason}"
  | .unsupported organization => s!"No engine available for {organization.name} organization"
  | .inputOutput (some path) failure text =>
    s!"I/O error in {path}: {text} ({failure.message})"
  | .inputOutput none failure text => s!"I/O error: {text} ({failure.message})"
  | .corrupted damage => s!"Corrupted data at offset {damage.offset}: {damage.flaw.message}"
  | .checksumMismatch path expected actual offset =>
    s!"Checksum mismatch in {path} at offset {offset}: "
      ++ s!"expected {checksumText expected}, got {checksumText actual}"

end Fault

end KeySequenced
