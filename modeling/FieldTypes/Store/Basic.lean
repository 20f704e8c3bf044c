import FieldTypes.Store.Actions
import FieldTypes.Store.Name

set_option autoImplicit false

namespace FieldTypes

inductive Store.Entry where
  | file (content : ByteArray)
  | directory (entries : List (Store.Name × Store.Entry))
  deriving Inhabited

/-- A store is the entry at its root. -/
abbrev Store := Store.Entry

namespace Store

def empty : Store := .directory []

/-- A place in a store: the names that lead there from the root. -/
abbrev Place := List Name

def at? : Store → Place → Option Entry
  | entry, [] => some entry
  | .directory entries, name :: rest => (entries.lookup name).bind (at? · rest)
  | .file _, _ :: _ => none

/-- Puts an entry under a name, in place of an entry of that name. -/
def putEntry (name : Name) (entry : Entry) : List (Name × Entry) → List (Name × Entry)
  | [] => [(name, entry)]
  | (other, existing) :: rest =>
    if other = name then (name, entry) :: rest else (other, existing) :: putEntry name entry rest

theorem lookup_putEntry (name other : Name) (entry : Entry) (entries : List (Name × Entry)) :
    (putEntry name entry entries).lookup other =
      if other = name then some entry else entries.lookup other := by
  have differs {a b : Name} (h : a ≠ b) : (a == b) = false := beq_eq_false_iff_ne.2 h
  induction entries with
  | nil =>
    by_cases h : other = name
    · simp [putEntry, h]
    · simp [putEntry, List.lookup_cons, h, differs h]
  | cons head rest ih =>
    obtain ⟨first, existing⟩ := head
    unfold putEntry
    split
    · subst first
      by_cases h : other = name
      · simp [h]
      · simp [List.lookup_cons, h, differs h]
    · rename_i same
      rw [List.lookup_cons, List.lookup_cons, ih]
      by_cases h : other = first
      · simp [h, same]
      · simp [differs h]

/-- Puts an entry at a place, with the directories that lead there; a file on the way is kept, and then
nothing is put. -/
def put : Store → Place → Entry → Store
  | _, [], entry => entry
  | .directory entries, name :: rest, entry =>
    .directory (putEntry name (put ((entries.lookup name).getD empty) rest entry) entries)
  | .file content, _ :: _, _ => .file content

def remove : Store → Place → Store
  | entry, [] => entry
  | .directory entries, [name] => .directory (entries.filter (·.1 != name))
  | .directory entries, name :: next :: rest =>
    match entries.lookup name with
    | none => .directory entries
    | some entry => .directory (putEntry name (remove entry (next :: rest)) entries)
  | .file content, _ :: _ => .file content

mutual

def Entry.descendants : Entry → List (List String × Entry)
  | .file _ => []
  | .directory entries => Entry.allDescendants entries

def Entry.allDescendants : List (Name × Entry) → List (List String × Entry)
  | [] => []
  | (name, entry) :: rest =>
    ([name.shown], entry) ::
      (entry.descendants.map fun (names, inner) => (name.shown :: names, inner)) ++
      Entry.allDescendants rest

end

/-- Follows the segments of a path from a place: every place that a segment is followed from must be a
directory. The place reached may hold nothing. -/
def follow (store : Store) (here : Place) : List String → Except Fault Place
  | [] => .ok here
  | segment :: rest =>
    match store.at? here with
    | none => .error .notFound
    | some (.file _) => .error .notADirectory
    | some (.directory _) =>
      if segment = "" ∨ segment = "." then follow store here rest
      else if segment = ".." then follow store here.dropLast rest
      else if isTooLong segment then .error .nameTooLong
      else follow store (here ++ [.text segment]) rest

/-- The entry that a path leads to. -/
def entryAt (store : Store) (path : String) : Except Fault Entry := do
  checkPath path
  if path = "" then .error .notFound
  else
    let place ← store.follow [] (Path.segments path)
    match store.at? place with
    | none => .error .notFound
    | some entry => .ok entry

def readBytes (store : Store) (path : String) : Except Fault ByteArray := do
  match ← store.entryAt path with
  | .file content => .ok content
  | .directory _ => .error .isADirectory

def decodeText (content : ByteArray) : Except Fault String :=
  match String.fromUTF8? content with
  | some text => .ok text
  | none => .error .notText

def readText (store : Store) (path : String) : Except Fault String := do
  let content ← store.readBytes path
  decodeText content

/-- The text of an entry in a directory; no path leads to a name that is no text. -/
def readNamed (store : Store) (directory : String) : Name → Except Fault String
  | .text name => store.readText (Path.join directory name)
  | .raw _ _ => .error .notText

def listDirectory (store : Store) (path : String) : Except Fault (List Name) := do
  match ← store.entryAt path with
  | .file _ => .error .notADirectory
  | .directory entries => .ok (entries.map (·.1))

/-- The segments of a path without the empty ones at its end. -/
def namedSegments (path : String) : List String :=
  ((Path.segments path).reverse.dropWhile (· == "")).reverse

/-- Whether a path can only name a directory. -/
def namesDirectory (segments : List String) : Bool :=
  match segments.getLast? with
  | none => true
  | some last => last == "" || last == "." || last == ".."

/-- The place of the file that a path names. What stands before a slash at the end is not looked at. -/
def filePlace (store : Store) (path : String) : Except Fault Place := do
  checkPath path
  let segments := namedSegments path
  if path = "" then .error .notFound
  else if (Path.segments path).getLast? = some "" then
    let _ ← store.follow [] (segments.dropLast ++ ["."])
    .error .isADirectory
  else
    let place ← store.follow [] segments
    if namesDirectory segments then .error .isADirectory else .ok place

/-- Writes a file whose directory is there; whatever the file held before is gone. -/
def writeFile (store : Store) (path : String) (content : ByteArray) : Except Fault Store := do
  let place ← store.filePlace path
  match store.at? place with
  | some (.directory _) => .error .isADirectory
  | _ => .ok (store.put place (.file content))

def actions : Actions (StateM Store) Place where
  start _ := []
  enter here segment := here ++ [.text segment]
  leave here := here.dropLast
  ensure here store :=
    match store.at? here with
    | none => (.made, store.put here empty)
    | some (.directory _) => (.present, store)
    | some (.file _) => (.blocked, store)
  writeFile path text store :=
    match store.writeFile path text.toUTF8 with
    | .ok after => (.ok (), after)
    | .error fault => (.error fault, store)

/-- Makes missing directories; gives the store after that, also if a file is in the way. -/
def makeMissing (store : Store) (made : Bool) (here : Place) (segments : List String) :
    Store × Except Fault Unit :=
  (actions.makeMissing made here segments store).swap

@[simp] theorem makeMissing_nil (store : Store) (made : Bool) (here : Place) :
    store.makeMissing made here [] = (store, .ok ()) := rfl

@[simp] theorem makeMissing_cons (store : Store) (made : Bool) (here : Place) (segment : String)
    (rest : List String) :
    store.makeMissing made here (segment :: rest) =
      if segment = "" ∨ segment = "." then store.makeMissing made here rest
      else if segment = ".." then store.makeMissing made here.dropLast rest
      else if isTooLong segment then (store, .error .nameTooLong)
      else
        let next := here ++ [Name.text segment]
        match store.at? next with
        | none => (store.put next empty).makeMissing true next rest
        | some (.directory _) => store.makeMissing made next rest
        | some (.file _) => (store, .error (if made ∨ rest = [] then .alreadyExists else .notADirectory)) := by
  rw [makeMissing, Actions.makeMissing]
  by_cases idle : segment = "" ∨ segment = "."
  · rw [if_pos idle, if_pos idle]
    rfl
  by_cases up : segment = ".."
  · rw [if_neg idle, if_neg idle, if_pos up, if_pos up]
    rfl
  by_cases long : isTooLong segment = true
  · rw [if_neg idle, if_neg idle, if_neg up, if_neg up, if_pos long, if_pos long]
    rfl
  rw [if_neg idle, if_neg idle, if_neg up, if_neg up, if_neg long, if_neg long]
  cases found : store.at? (here ++ [Name.text segment]) with
  | none =>
    simp only [actions, found, bind, StateT.bind]
    rfl
  | some entry =>
    cases entry <;> simp only [actions, found, bind, StateT.bind] <;> rfl

def makeDirectories (store : Store) (here : Place) (segments : List String) : Store × Except Fault Unit :=
  store.makeMissing false here segments

/-- Makes the directory that a path names and those on the way to it. -/
def makeDirectory (store : Store) (path : String) : Store × Except Fault Unit :=
  (actions.makeDirectory path store).swap

theorem makeDirectory_eq (store : Store) (path : String) :
    store.makeDirectory path =
      match checkPath path with
      | .error fault => (store, .error fault)
      | .ok () => store.makeDirectories [] (Path.segments path) := by
  rw [makeDirectory, Actions.makeDirectory]
  cases checkPath path <;> rfl

end Store

end FieldTypes
