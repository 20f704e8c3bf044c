set_option autoImplicit false

namespace FieldTypes.Path

/-- The parts of a path between its slashes. -/
def split : List Char → List (List Char)
  | [] => [[]]
  | '/' :: rest => [] :: split rest
  | c :: rest =>
    match split rest with
    | [] => [[c]]
    | segment :: more => (c :: segment) :: more

def segments (path : String) : List String := (split path.toList).map String.ofList

def ofSegments (segments : List String) : String := "/".intercalate segments

/-- The paths that a path passes through before its end, the shortest first. -/
def ancestors (path : String) : List String :=
  let segments := segments path
  ((List.range segments.length).map fun count => ofSegments (segments.take count)).filter (· != "")

/-- A file in a directory: nothing is inserted after an empty directory or a slash. -/
def join (directory file : String) : String :=
  match directory.toList.getLast? with
  | none => file
  | some '/' => directory ++ file
  | some _ => directory ++ "/" ++ file

/-- Drops empty segments and dots at the end, the last segment first; a dot that is left alone stays. -/
def dropIdle : List String → List String
  | [] => []
  | [segment] => if segment = "" then [] else [segment]
  | segment :: next :: rest =>
    if segment = "" ∨ segment = "." then dropIdle (next :: rest) else segment :: next :: rest

/-- The path without its last segment, empty for a single segment; a path of no segments has none. -/
def parent? (path : String) : Option String :=
  let absolute := path.startsWith "/"
  match dropIdle (segments path).reverse with
  | [] => none
  | _ :: rest =>
    match dropIdle rest with
    | [] => some (if absolute then "/" else "")
    | kept => some (ofSegments kept.reverse)

/-- What stands before the last dot of a name and what stands after it; a dot at the start does not count. -/
def splitExtension {α : Type} [DecidableEq α] (dot : α) (name : List α) : List α × Option (List α) :=
  let reversed := name.reverse
  match reversed.dropWhile (· != dot) with
  | [] | [_] => (name, none)
  | _ :: stem => (stem.reverse, some (reversed.takeWhile (· != dot)).reverse)

end FieldTypes.Path
