import KeySequenced.Demonstration.Arguments

/-!
# The demonstration as a program

The program runs on a volume with the snapshot of its dataset, if the snapshot
directory holds one, and puts the snapshot back when the run has changed it.
-/

set_option autoImplicit false

namespace KeySequenced.Demonstration

def snapshotPath (request : Request) : Option String :=
  (Catalog.empty request.directory).locationFor (Catalog.normalize request.cluster)

/-- The volume with the content of a file on disk; what cannot be read stands as a directory. -/
def fetch (path : String) (volume : Volume) : IO Volume := do
  let result ←
    try
      let content ← IO.FS.readBinFile path
      pure (volume.write path content.toList)
    catch
      | .noFileOrDirectory .. => pure (.ok volume)
      | _ => pure (volume.makeDirectory path)
  match result with
  | .ok fetched => pure fetched
  | .error _ => pure volume

/-- Puts a file of the volume on disk if it has changed, by way of its temporary file. -/
def putBack (path : String) (before after : Volume) : IO Unit := do
  match after.read path with
  | .error _ => pure ()
  | .ok content =>
    let unchanged :=
      match before.read path with
      | .ok old => old == content
      | .error _ => false
    unless unchanged do
      let temporary := Path.temporary path
      IO.FS.writeBinFile temporary ⟨content.toArray⟩
      IO.FS.rename temporary path

def environment : IO Options := do
  return ⟨none, ← IO.getEnv "VSAM_CLUSTER", ← IO.getEnv "VSAM_SNAPSHOT_DIR"⟩

def runOnDisk (request : Request) : IO Report := do
  match request.directory, snapshotPath request with
  | some directory, some path =>
    if request.records = 0 then pure (run request Volume.empty).1
    else
      IO.FS.createDirAll directory
      match Volume.empty.makeDirectories directory with
      | .error obstacle => pure ⟨[], some obstacle.message⟩
      | .ok made =>
        let before ← fetch path made
        let (report, after) := run request before
        putBack path before after
        pure report
  | _, _ => pure (run request Volume.empty).1

end KeySequenced.Demonstration

def main (arguments : List String) : IO UInt32 := do
  let environment ← KeySequenced.Demonstration.environment
  match KeySequenced.Demonstration.request? arguments environment with
  | none =>
    IO.eprintln "error: unexpected arguments"
    pure 2
  | some request =>
    let report ← KeySequenced.Demonstration.runOnDisk request
    for line in report.lines do
      IO.println line
    match report.failure with
    | none => pure 0
    | some message =>
      IO.eprintln ("Error: " ++ message)
      pure 1
