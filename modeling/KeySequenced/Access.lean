/-!
# Access to an open dataset

A dataset is opened for an access mode, which says whether its contents may
change, and for a processing mode, which is kept for the caller alone.
-/

set_option autoImplicit false

namespace KeySequenced

inductive AccessMode where
  | input
  | output
  | inputOutput
  | extend
  deriving DecidableEq, Repr

namespace AccessMode

/-- Every mode but input lets the contents change. -/
def allowsOutput : AccessMode → Bool
  | .input => false
  | _ => true

def name : AccessMode → String
  | .input => "Input"
  | .output => "Output"
  | .inputOutput => "InputOutput"
  | .extend => "Extend"

end AccessMode

inductive ProcessingMode where
  | sequential
  | random
  | dynamic
  deriving DecidableEq, Repr

def ProcessingMode.name : ProcessingMode → String
  | .sequential => "Sequential"
  | .random => "Random"
  | .dynamic => "Dynamic"

structure Session where
  access : AccessMode
  processing : ProcessingMode
  deriving DecidableEq, Repr

inductive OutputRequest where
  | write
  | update
  | delete
  deriving DecidableEq, Repr

def OutputRequest.word : OutputRequest → String
  | .write => "WRITE"
  | .update => "REWRITE"
  | .delete => "DELETE"

end KeySequenced
