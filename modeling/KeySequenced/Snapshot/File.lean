import KeySequenced.Snapshot.Format
import KeySequenced.Volume.Basic

/-!
# Snapshot files

Saving writes the whole snapshot to a temporary file beside the target and then
moves it over the target, so that the target holds either its old content or
the new one.
-/

set_option autoImplicit false

namespace KeySequenced.Snapshot

/-- Saves a snapshot and tells the size of its file.  A record without a frame ends the writing and
leaves what has been written in the temporary file. -/
def save (snapshot : Snapshot) (path : String) (volume : Volume) : Except Fault Nat × Volume :=
  let temporary := Path.temporary path
  let written := snapshot.write
  match volume.write temporary written.1 with
  | .error obstacle =>
    (.error (.ofObstacle temporary "Failed to create snapshot file" obstacle), volume)
  | .ok drafted =>
    match written.2 with
    | some refusal => (.error (.refused refusal), drafted)
    | none =>
      match drafted.rename temporary path with
      | .error obstacle => (.error (.ofObstacle path "Snapshot rename failed" obstacle), drafted)
      | .ok saved => (.ok written.1.length, saved)

def load (path : String) (volume : Volume) : Except Fault Snapshot :=
  match volume.read path with
  | .error obstacle => .error (.ofObstacle path "Failed to read snapshot file" obstacle)
  | .ok content => decode path content

end KeySequenced.Snapshot
