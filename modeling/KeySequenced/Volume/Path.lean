/-!
# Paths

A path is a text of segments between slashes.  Empty segments and single dots
name the place they stand at.
-/

set_option autoImplicit false

namespace KeySequenced.Path

def splitSlashes : List Char → List (List Char)
  | [] => [[]]
  | '/' :: rest => [] :: splitSlashes rest
  | character :: rest =>
    match splitSlashes rest with
    | [] => [[character]]
    | first :: others => (character :: first) :: others

def segments (path : String) : List String := (splitSlashes path.toList).map String.ofList

def joinSlashes : List (List Char) → List Char
  | [] => []
  | [part] => part
  | part :: next :: rest => part ++ '/' :: joinSlashes (next :: rest)

def ofSegments (parts : List String) : String :=
  String.ofList (joinSlashes (parts.map String.toList))

/-- The path of `name` as seen from `base`. -/
def join (base name : String) : String :=
  if name.toList.head? = some '/' || base = "" then name
  else if base.toList.getLast? = some '/' then base ++ name
  else base ++ "/" ++ name

/-- A segment that names the place it stands at. -/
def isIdle (segment : String) : Bool := segment = "" || segment = "."

/-- A segment that names an entry of the directory it stands at. -/
def isName (segment : String) : Bool := !isIdle segment && segment != ".."

/-- The segments without the empty ones at the end, which slashes at the end leave. -/
def trimSlashes (parts : List String) : List String :=
  (parts.reverse.dropWhile (· == "")).reverse

def endsInName (parts : List String) : Bool := parts.getLast?.any isName

/-- The segments without idle ones at the end; the first segment stays. -/
def trimIdle : List String → List String
  | [] => []
  | first :: rest => first :: (rest.reverse.dropWhile isIdle).reverse

/-- The path of the temporary file beside a file. -/
def temporary (path : String) : String :=
  match (trimIdle (segments path)).reverse with
  | [] => join path ".tmp"
  | name :: before =>
    if !isName name then join path ".tmp"
    else ofSegments (trimIdle before.reverse ++ [name ++ ".tmp"])

end KeySequenced.Path
