import FieldTypes.Store.Fault
import FieldTypes.Store.Path

set_option autoImplicit false

namespace FieldTypes.Store

/-- Names have at most this many bytes. -/
def longestName : Nat := 255

/-- Paths have at most this many bytes. -/
def longestPath : Nat := 4095

def isTooLong (name : String) : Bool := decide (longestName < name.utf8ByteSize)

/-- What is wrong with a path whatever a store holds. -/
def checkPath (path : String) : Except Fault Unit :=
  if path.toList.contains '\x00' then .error .nulByte
  else if longestPath < path.utf8ByteSize then .error .nameTooLong
  else .ok ()

/-- What is done so that there is a directory. -/
inductive Ensured where
  | made
  | present
  /-- A file is in its place. -/
  | blocked
  | failed (fault : Fault)

/-- Actions that make directories and write files. Directories are made from place to place. -/
structure Actions (m : Type → Type) (place : Type) where
  /-- Where a path starts. -/
  start : String → place
  enter : place → String → place
  leave : place → place
  /-- Makes the directory at a place, if there is nothing. -/
  ensure : place → m Ensured
  /-- Writes a file whose directory is there. -/
  writeFile : String → String → m (Except Fault Unit)

namespace Actions

variable {m : Type → Type} [Monad m] {place : Type} (actions : Actions m place)

/-- Makes the directories that segments lead through from a place on, as far as they are missing. Once a
directory was `made`, the others are made one by one, and a file in the way is an entry that exists already,
as it is at the end. -/
def makeMissing (made : Bool) (here : place) : List String → m (Except Fault Unit)
  | [] => return .ok ()
  | segment :: rest =>
    if segment = "" ∨ segment = "." then makeMissing made here rest
    else if segment = ".." then makeMissing made (actions.leave here) rest
    else if isTooLong segment then return .error .nameTooLong
    else do
      let next := actions.enter here segment
      match ← actions.ensure next with
      | .made => makeMissing true next rest
      | .present => makeMissing made next rest
      | .blocked => return .error (if made ∨ rest = [] then .alreadyExists else .notADirectory)
      | .failed fault => return .error fault

/-- Makes the directory that a path names and those on the way to it. -/
def makeDirectory (path : String) : m (Except Fault Unit) :=
  match checkPath path with
  | .error fault => return .error fault
  | .ok () => makeMissing actions false (actions.start path) (Path.segments path)

end Actions

end FieldTypes.Store
