import KeySequenced.Bytes.Basic
import KeySequenced.Table.Change
import KeySequenced.Volume.Obstacle
import KeySequenced.Volume.Path

/-!
# Volumes

A volume holds files and directories at places; a place is the list of names
that leads to it from the root.  Paths are resolved name by name, each through
an existing directory.  An operation that meets an obstacle leaves the volume
as it was.

Links are left out, so no two places share a file, and so are permissions and
failures midway: a write that begins is written whole, and what has been written
is there.
-/

set_option autoImplicit false

namespace KeySequenced

abbrev Place := List String

inductive Node where
  | directory
  | file (content : Bytes)
  deriving DecidableEq, Repr

structure Volume where
  nodes : Table Place Node

namespace Volume

def empty : Volume := ⟨Table.empty⟩

/-- What stands at a place; the root is a directory. -/
def node? (volume : Volume) (place : Place) : Option Node :=
  if place = [] then some .directory else volume.nodes.find? place

def put (volume : Volume) (place : Place) (node : Node) : Volume :=
  ⟨volume.nodes.insert place node⟩

def remove (volume : Volume) (place : Place) : Volume := ⟨volume.nodes.erase place⟩

/-- The names in a directory in ascending order. -/
def namesIn (volume : Volume) (place : Place) : List String :=
  volume.nodes.keys.filterMap fun entry =>
    if entry.dropLast = place then entry.getLast? else none

/-! ## Resolving paths -/

def longestName : Nat := 255

def longestPath : Nat := 4095

/-- The place that segments lead to from `place`. -/
def walk (volume : Volume) : List String → Place → Except Obstacle Place
  | [], place => .ok place
  | segment :: rest, place =>
    match volume.node? place with
    | none => .error .missing
    | some (.file _) => .error .notADirectory
    | some .directory =>
      if Path.isIdle segment then walk volume rest place
      else if segment = ".." then walk volume rest place.dropLast
      else if longestName < segment.utf8ByteSize then .error .nameTooLong
      else walk volume rest (place ++ [segment])

/-- The segments of a path that is fit to be resolved. -/
def segmentsOf (path : String) : Except Obstacle (List String) :=
  if path.toList.contains '\x00' then .error .nulInName
  else if path = "" then .error .missing
  else if longestPath < path.utf8ByteSize then .error .nameTooLong
  else .ok (Path.segments path)

/-- The place that a path names; only its last segment may be new, and slashes
follow a directory alone. -/
def resolve (volume : Volume) (path : String) : Except Obstacle Place :=
  match segmentsOf path with
  | .error obstacle => .error obstacle
  | .ok segments => volume.walk segments []

/-- The place that a path names, whatever slashes follow; only its last name may be new. -/
def resolveEntry (volume : Volume) (path : String) : Except Obstacle Place :=
  match segmentsOf path with
  | .error obstacle => .error obstacle
  | .ok segments => volume.walk (Path.trimSlashes segments) []

def lookup (volume : Volume) (path : String) : Except Obstacle (Place × Node) :=
  match volume.resolve path with
  | .error obstacle => .error obstacle
  | .ok place =>
    match volume.node? place with
    | none => .error .missing
    | some node => .ok (place, node)

def holds (volume : Volume) (path : String) : Bool :=
  match volume.lookup path with
  | .ok _ => true
  | .error _ => false

/-! ## Files -/

def read (volume : Volume) (path : String) : Except Obstacle Bytes :=
  match volume.lookup path with
  | .error obstacle => .error obstacle
  | .ok (_, .directory) => .error .isADirectory
  | .ok (_, .file content) => .ok content

/-- Creates a file, or gives an existing one new content. -/
def write (volume : Volume) (path : String) (content : Bytes) : Except Obstacle Volume :=
  match volume.resolveEntry path with
  | .error obstacle => .error obstacle
  | .ok place =>
    if !Path.endsInName (Path.segments path) then .error .isADirectory
    else
      match volume.node? place with
      | some .directory => .error .isADirectory
      | _ => .ok (volume.put place (.file content))

def removeFile (volume : Volume) (path : String) : Except Obstacle Volume :=
  match volume.lookup path with
  | .error obstacle => .error obstacle
  | .ok (_, .directory) => .error .isADirectory
  | .ok (place, .file _) => .ok (volume.remove place)

/-- Moves a file to a target, in the place of a file that is there.  A target
that ends in dots is a directory in use, and only a directory has slashes after
its name. -/
def rename (volume : Volume) (source target : String) : Except Obstacle Volume :=
  match volume.lookup source with
  | .error obstacle => .error obstacle
  | .ok (_, .directory) => .error .isADirectory
  | .ok (origin, .file content) =>
    match volume.resolveEntry target with
    | .error obstacle => .error obstacle
    | .ok goal =>
      let segments := Path.segments target
      if !Path.endsInName (Path.trimSlashes segments) then .error .busy
      else if !Path.endsInName segments then .error .notADirectory
      else
        match volume.node? goal with
        | some .directory => .error .isADirectory
        | _ => .ok ((volume.remove origin).put goal (.file content))

/-! ## Directories -/

/-- Makes one directory in an existing one; a directory that exists stays. -/
def makeDirectory (volume : Volume) (path : String) : Except Obstacle Volume :=
  match volume.resolveEntry path with
  | .error obstacle => .error obstacle
  | .ok place =>
    match volume.node? place with
    | some .directory => .ok volume
    | some (.file _) => .error .notADirectory
    | none => .ok (volume.put place .directory)

def makeDirectories (volume : Volume) (path : String) : Except Obstacle Volume :=
  go volume "" (Path.segments path)
where
  /-- Makes the directories that the segments name, as seen from `base`. -/
  go (volume : Volume) (base : String) : List String → Except Obstacle Volume
    | [] => .ok volume
    | segment :: rest =>
      let path := Path.join base segment
      if path = "" then go volume "/" rest
      else
        match volume.makeDirectory path with
        | .error obstacle => .error obstacle
        | .ok made => go made path rest

/-- The names in the directory that a path names; those of directories end in a slash. -/
def list (volume : Volume) (path : String) : Except Obstacle (List String) :=
  match volume.lookup path with
  | .error obstacle => .error obstacle
  | .ok (_, .file _) => .error .notADirectory
  | .ok (place, .directory) =>
    let shown := (volume.namesIn place).map fun name =>
      if volume.node? (place ++ [name]) = some .directory then name ++ "/" else name
    .ok (shown.mergeSort (fun left right => decide (left ≤ right)))

/-- Takes a file or an empty directory away; a directory goes by its name, not by dots. -/
def discard (volume : Volume) (path : String) : Option Volume :=
  match volume.lookup path with
  | .ok (place, .file _) => some (volume.remove place)
  | .ok (place, .directory) =>
    if Path.endsInName (Path.trimSlashes (Path.segments path)) ∧ volume.namesIn place = [] then
      some (volume.remove place)
    else none
  | .error _ => none

end Volume

end KeySequenced
