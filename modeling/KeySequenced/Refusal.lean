import KeySequenced.Access

/-!
# Refused requests

A request that cannot be carried out as it stands is refused for one of these
reasons.
-/

set_option autoImplicit false

namespace KeySequenced

inductive Refusal where
  | emptyKey
  | keyTooLong (length limit : Nat)
  | recordTooLong (length limit : Nat)
  /-- The dataset is open for an access mode that excludes the request. -/
  | notPermitted (request : OutputRequest) (cluster : String) (access : AccessMode)
  /-- Records of a key-sequenced dataset have no record numbers. -/
  | recordNumber (number : Nat)
  /-- No address is left for another record. -/
  | addressSpaceExhausted
  /-- A snapshot can be loaded into a closed dataset only. -/
  | loadIntoOpen
  /-- No stored key has this length. -/
  | keyOutsideWire (length limit : Nat)
  /-- No stored record has this much data. -/
  | dataOutsideWire (length limit : Nat)
  /-- The length of a record does not fit in its frame. -/
  | frameTooLarge
  | intervalFull (free needed : Nat)
  /-- A refusal in the words of whoever refuses. -/
  | stated (reason : String)
  deriving DecidableEq, Repr

def Refusal.message : Refusal → String
  | .emptyKey => "empty key"
  | .keyTooLong length limit => s!"key length {length} exceeds defined key length {limit}"
  | .recordTooLong length limit => s!"record length {length} exceeds maximum {limit}"
  | .notPermitted request cluster access =>
    s!"{request.word} not permitted: {cluster} opened for {access.name}"
  | .recordNumber number =>
    s!"RRN {number} requested: KSDS does not support relative record addressing"
  | .addressSpaceExhausted => "relative byte address space exhausted"
  | .loadIntoOpen => "cannot load a snapshot into an open dataset"
  | .keyOutsideWire length limit => s!"key length {length} outside [1, {limit}]"
  | .dataOutsideWire length limit => s!"record length {length} exceeds {limit}"
  | .frameTooLarge => "record too large for snapshot frame"
  | .intervalFull free needed =>
    s!"control interval full: {free} bytes free, {needed} needed"
  | .stated reason => reason

end KeySequenced
