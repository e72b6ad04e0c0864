import KeySequenced.Number.Binary64

/-!
# Statistics

Counters of the successful operations on a dataset, the space that it uses and
has been allocated, and the time spent.  Counters are words of 64 bits whose
sums wrap; only a release of space stops at zero.
-/

set_option autoImplicit false

namespace KeySequenced

/-- What a dataset has been used for; the time is in nanoseconds. -/
structure Statistics where
  reads : UInt64
  writes : UInt64
  updates : UInt64
  deletes : UInt64
  inserts : UInt64
  deletedRecords : UInt64
  bytesUsed : UInt64
  bytesAllocated : UInt64
  inputOutputTime : Nat
  deriving DecidableEq, Repr

namespace Statistics

def zero : Statistics := ⟨0, 0, 0, 0, 0, 0, 0, 0, 0⟩

def greatest : Nat := UInt64.size - 1

/-- Adds to the time spent, which wraps at 64 bits; longer times count as the longest word. -/
def addTime (statistics : Statistics) (elapsed : Nat) : Statistics :=
  { statistics with
    inputOutputTime := (statistics.inputOutputTime + min elapsed greatest) % UInt64.size }

def release (statistics : Statistics) (bytes : UInt64) : Statistics :=
  { statistics with
    bytesUsed := if statistics.bytesUsed < bytes then 0 else statistics.bytesUsed - bytes }

def countRead (statistics : Statistics) : Statistics :=
  { statistics with reads := statistics.reads + 1 }

def countWrite (statistics : Statistics) (bytes : UInt64) : Statistics :=
  { statistics with
    writes := statistics.writes + 1
    inserts := statistics.inserts + 1
    bytesUsed := statistics.bytesUsed + bytes }

def countUpdate (statistics : Statistics) (before after : UInt64) : Statistics :=
  let counted := { statistics with updates := statistics.updates + 1 }
  if before ≤ after then { counted with bytesUsed := counted.bytesUsed + (after - before) }
  else counted.release (before - after)

def countDelete (statistics : Statistics) (bytes : UInt64) : Statistics :=
  release
    { statistics with
      deletes := statistics.deletes + 1
      deletedRecords := statistics.deletedRecords + 1 }
    bytes

/-- Raises the allocated space to `bytes`; it is never lowered. -/
def allocate (statistics : Statistics) (bytes : UInt64) : Statistics :=
  { statistics with
    bytesAllocated := if statistics.bytesAllocated < bytes then bytes else statistics.bytesAllocated }

def resetSpace (statistics : Statistics) (used allocated : UInt64) : Statistics :=
  { statistics with bytesUsed := used, bytesAllocated := allocated }

def totalOperations (statistics : Statistics) : Nat :=
  min greatest (statistics.reads.toNat + statistics.writes.toNat
    + statistics.updates.toNat + statistics.deletes.toNat)

def spaceUtilization (statistics : Statistics) : Binary64 :=
  Binary64.percentage statistics.bytesUsed.toNat statistics.bytesAllocated.toNat

def averageTime (statistics : Statistics) : Nat :=
  min greatest (statistics.inputOutputTime / statistics.totalOperations)

end Statistics

end KeySequenced
