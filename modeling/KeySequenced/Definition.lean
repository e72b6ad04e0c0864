import KeySequenced.Text.Blank

/-!
# Dataset definitions

A definition names a cluster and fixes the organization and the geometry of its
dataset.  `Definition.defect?` finds the first of the rules that a definition
breaks.
-/

set_option autoImplicit false

namespace KeySequenced

inductive Organization where
  | keySequenced
  | entrySequenced
  | relativeRecord
  | linear
  deriving DecidableEq, Repr

def Organization.name : Organization → String
  | .keySequenced => "KSDS"
  | .entrySequenced => "ESDS"
  | .relativeRecord => "RRDS"
  | .linear => "LDS"

def maximumKeyLength : Nat := 255

def maximumRecordLength : Nat := 32761

def minimumIntervalSize : Nat := 512

def maximumIntervalSize : Nat := 32768

structure Definition where
  clusterName : String
  organization : Organization
  keyLength : UInt32
  keyOffset : UInt32
  intervalSize : UInt32
  averageRecordLength : UInt32
  recordLimit : UInt32
  deriving DecidableEq, Repr

inductive Defect where
  | unnamedCluster
  | missingKeyLength
  | keyLength (length : Nat)
  | intervalSize (size : Nat)
  | recordLimit (length : Nat)
  | averageRecordLength (average limit : Nat)
  /-- A defect of the named field in the words of whoever reports it. -/
  | stated (field reason : String)
  deriving DecidableEq, Repr

namespace Defect

def field : Defect → String
  | .unnamedCluster => "cluster_name"
  | .missingKeyLength => "key_length"
  | .keyLength _ => "key_length"
  | .intervalSize _ => "ci_size"
  | .recordLimit _ => "maximum_record_length"
  | .averageRecordLength _ _ => "average_record_length"
  | .stated field _ => field

def reason : Defect → String
  | .unnamedCluster => "cluster name must not be empty"
  | .missingKeyLength => "KSDS requires key_length > 0"
  | .keyLength length => s!"{length} exceeds {maximumKeyLength}"
  | .intervalSize size => s!"{size} outside [{minimumIntervalSize}, {maximumIntervalSize}]"
  | .recordLimit length => s!"{length} outside [1, {maximumRecordLength}]"
  | .averageRecordLength average limit => s!"{average} exceeds maximum_record_length {limit}"
  | .stated _ reason => reason

end Defect

namespace Definition

def basic (clusterName : String) (organization : Organization) : Definition where
  clusterName := clusterName
  organization := organization
  keyLength := 0
  keyOffset := 0
  intervalSize := 4096
  averageRecordLength := 80
  recordLimit := 256

def keyed (clusterName : String) (keyLength : UInt32) : Definition :=
  { basic clusterName .keySequenced with keyLength := keyLength }

/-- The first rule that the definition breaks, if it breaks one. -/
def defect? (definition : Definition) : Option Defect :=
  if Text.trim definition.clusterName = "" then some .unnamedCluster
  else if definition.organization = .keySequenced ∧ definition.keyLength = 0 then
    some .missingKeyLength
  else if maximumKeyLength < definition.keyLength.toNat then
    some (.keyLength definition.keyLength.toNat)
  else if definition.intervalSize.toNat < minimumIntervalSize
      ∨ maximumIntervalSize < definition.intervalSize.toNat then
    some (.intervalSize definition.intervalSize.toNat)
  else if definition.recordLimit = 0 ∨ maximumRecordLength < definition.recordLimit.toNat then
    some (.recordLimit definition.recordLimit.toNat)
  else if definition.recordLimit < definition.averageRecordLength then
    some (.averageRecordLength definition.averageRecordLength.toNat definition.recordLimit.toNat)
  else none

end Definition

end KeySequenced
