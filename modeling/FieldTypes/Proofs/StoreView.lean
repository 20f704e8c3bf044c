import FieldTypes.Proofs.Lookup
import FieldTypes.Store.Basic

set_option autoImplicit false

namespace FieldTypes.Store

/-- What is shown at a place. -/
inductive View where
  | file (content : ByteArray)
  | directory (names : List Name)

/-- What stands at a place, whatever a directory holds. -/
inductive Item where
  | file (content : ByteArray)
  | directory

def Entry.view : Entry → View
  | .file content => .file content
  | .directory entries => .directory (entries.map (·.1))

def View.item : View → Item
  | .file content => .file content
  | .directory _ => .directory

/-- The names in a directory with one more name. -/
def addName (name : Name) (names : List Name) : List Name :=
  if name ∈ names then names else names ++ [name]

def View.drop (name : Name) : View → View
  | .file content => .file content
  | .directory names => .directory (names.filter (· != name))

def view? (store : Store) (place : Place) : Option View := (store.at? place).map Entry.view

def item? (store : Store) (place : Place) : Option Item := (store.view? place).map View.item

section Lookup

variable {store : Store} {place : Place} {name : Name}

@[simp] theorem view?_nil (store : Store) : store.view? [] = some store.view := by
  cases store <;> rfl

@[simp] theorem view?_file_cons (content : ByteArray) (name : Name) (rest : Place) :
    view? (.file content) (name :: rest) = none := rfl

@[simp] theorem view?_directory_cons (entries : List (Name × Entry)) (name : Name) (rest : Place) :
    view? (.directory entries) (name :: rest) = (entries.lookup name).bind (view? · rest) := by
  rw [view?, at?, Option.map_bind]
  rfl

theorem view?_append (store : Store) (place rest : Place) :
    store.view? (place ++ rest) = (store.at? place).bind (view? · rest) := by
  induction place generalizing store with
  | nil => cases store <;> rfl
  | cons name more ih =>
    cases store with
    | file content => rfl
    | directory entries =>
      rw [List.cons_append, view?_directory_cons, at?, Option.bind_assoc]
      congr 1
      funext entry
      exact ih entry

theorem view?_of_append_cons {rest : Place} {view : View}
    (found : store.view? (place ++ name :: rest) = some view) :
    ∃ names, store.view? place = some (.directory names) := by
  rw [view?_append] at found
  rw [view?]
  cases there : store.at? place with
  | none =>
    rw [there] at found
    cases found
  | some entry =>
    cases entry with
    | file content =>
      rw [there] at found
      cases found
    | directory entries => exact ⟨_, rfl⟩

end Lookup

theorem map_fst_putEntry (name : Name) (entry : Entry) (entries : List (Name × Entry)) :
    (putEntry name entry entries).map (·.1) = addName name (entries.map (·.1)) := by
  unfold addName
  induction entries with
  | nil => rfl
  | cons head rest ih =>
    obtain ⟨first, existing⟩ := head
    unfold putEntry
    by_cases same : first = name
    · rw [if_pos same, List.map_cons, List.map_cons, same, if_pos List.mem_cons_self]
    · rw [if_neg same, List.map_cons, List.map_cons, ih]
      by_cases known : name ∈ rest.map (·.1)
      · rw [if_pos known, if_pos (List.mem_cons_of_mem first known)]
      · rw [if_neg known, if_neg fun mem => (List.mem_cons.1 mem).elim (Ne.symm same) known]
        rfl

theorem mem_map_fst_of_lookup {entries : List (Name × Entry)} {name : Name} {entry : Entry}
    (found : entries.lookup name = some entry) : name ∈ entries.map (·.1) := by
  obtain ⟨before, after, rfl, -⟩ := List.lookup_eq_some_iff.1 found
  exact List.mem_map.2 ⟨(name, entry), List.mem_append_right before List.mem_cons_self, rfl⟩

theorem view?_putEntry_nil (name : Name) (entry : Entry) (entries : List (Name × Entry)) :
    view? (.directory (putEntry name entry entries)) [] =
      some (.directory (addName name (entries.map (·.1)))) := by
  rw [view?_nil, Entry.view, map_fst_putEntry]

theorem view?_putEntry_cons (name : Name) (entry : Entry) (entries : List (Name × Entry))
    (other : Name) (rest : Place) :
    view? (.directory (putEntry name entry entries)) (other :: rest) =
      if other = name then view? entry rest else view? (.directory entries) (other :: rest) := by
  rw [view?_directory_cons, view?_directory_cons, lookup_putEntry]
  by_cases same : other = name
  · rw [if_pos same, if_pos same, Option.bind_some]
  · rw [if_neg same, if_neg same]

theorem addName_of_lookup {entries : List (Name × Entry)} {name : Name} {entry : Entry}
    (found : entries.lookup name = some entry) :
    addName name (entries.map (·.1)) = entries.map (·.1) :=
  if_pos (mem_map_fst_of_lookup found)

theorem item?_eq_directory_iff {store : Store} {place : Place} :
    store.item? place = some .directory ↔ ∃ names, store.view? place = some (.directory names) := by
  unfold item?
  constructor
  · intro there
    obtain ⟨view, shown, kind⟩ := Option.map_eq_some_iff.1 there
    cases view with
    | file content => cases kind
    | directory names => exact ⟨names, shown⟩
  · rintro ⟨names, shown⟩
    rw [shown]
    rfl

/-- What has nothing below it: a file or an empty directory. -/
def Entry.IsLeaf (entry : Entry) : Prop := ∀ name rest, view? entry (name :: rest) = none

theorem isLeaf_file (content : ByteArray) : Entry.IsLeaf (.file content) := fun _ _ => rfl

theorem isLeaf_empty : Entry.IsLeaf empty := fun _ _ => rfl

/-- What is found under a name shows nothing further down, unless it is a directory. -/
theorem bind_view?_cons {found : Option Entry} (other : found.map (·.view.item) ≠ some .directory)
    (name : Name) (rest : Place) : found.bind (view? · (name :: rest)) = none := by
  cases found with
  | none => rfl
  | some entry =>
    cases entry with
    | file content => rfl
    | directory entries => exact absurd rfl other

theorem item?_singleton (entries : List (Name × Entry)) (name : Name) :
    item? (.directory entries) [name] = (entries.lookup name).map (·.view.item) := by
  rw [item?, view?_directory_cons]
  cases entries.lookup name with
  | none => rfl
  | some entry =>
    rw [Option.bind_some, view?_nil]
    rfl

@[simp] theorem item?_directory_cons (entries : List (Name × Entry)) (name : Name) (rest : Place) :
    item? (.directory entries) (name :: rest) = (entries.lookup name).bind (item? · rest) := by
  rw [item?, view?_directory_cons, Option.map_bind]
  rfl

theorem view?_putEntry {entries : List (Name × Entry)} {name : Name} {entry : Entry}
    (free : item? (.directory entries) [name] ≠ some .directory) (leaf : entry.IsLeaf) (place : Place) :
    view? (.directory (putEntry name entry entries)) place =
      if place = [name] then some entry.view
      else if place = [] then some (.directory (addName name (entries.map (·.1))))
      else view? (.directory entries) place := by
  rw [item?_singleton] at free
  cases place with
  | nil =>
    rw [view?_putEntry_nil]
    rfl
  | cons other rest =>
    rw [view?_putEntry_cons, if_neg (List.cons_ne_nil other rest)]
    by_cases same : other = name
    · subst other
      rw [if_pos rfl]
      cases rest with
      | nil => rw [view?_nil, if_pos rfl]
      | cons second more =>
        -- nothing is below a leaf, and nothing was below what it replaces
        rw [leaf, view?_directory_cons, bind_view?_cons free, if_neg]
        simp
    · rw [if_neg same, if_neg]
      simp [same]

/-- What a store shows after a leaf was put into a directory, in place of anything but a directory. -/
theorem view?_put {store : Store} {parent : Place} {name : Name} {names : List Name} {entry : Entry}
    (around : store.view? parent = some (.directory names))
    (free : store.item? (parent ++ [name]) ≠ some .directory) (leaf : entry.IsLeaf) (place : Place) :
    (store.put (parent ++ [name]) entry).view? place =
      if place = parent ++ [name] then some entry.view
      else if place = parent then some (.directory (addName name names))
      else store.view? place := by
  induction parent generalizing store place with
  | nil =>
    cases store with
    | file content => cases around
    | directory entries =>
      rw [view?_nil] at around
      injection around with around
      injection around with around
      rw [← around]
      exact view?_putEntry free leaf place
  | cons first parent ih =>
    cases store with
    | file content => cases around
    | directory entries =>
      rw [view?_directory_cons] at around
      obtain ⟨child, there, around⟩ := Option.bind_eq_some_iff.1 around
      rw [List.cons_append, item?_directory_cons, there] at free
      show view? (.directory (putEntry first
        (put ((entries.lookup first).getD empty) (parent ++ [name]) entry) entries)) place = _
      rw [there, Option.getD_some]
      cases place with
      | nil =>
        rw [view?_putEntry_nil, addName_of_lookup there]
        rfl
      | cons other rest =>
        rw [view?_putEntry_cons]
        by_cases same : other = first
        · subst other
          rw [if_pos rfl, ih around free rest, view?_directory_cons, there, Option.bind_some]
          simp
        · rw [if_neg same]
          simp [same]

theorem map_fst_filter_ne (name : Name) (entries : List (Name × Entry)) :
    (entries.filter (·.1 != name)).map (·.1) = (entries.map (·.1)).filter (· != name) := by
  rw [List.filter_map]
  rfl

theorem remove_file (content : ByteArray) (place : Place) :
    remove (.file content) place = .file content := by
  cases place with
  | nil => rfl
  | cons name rest => cases rest <;> rfl

theorem remove_directory_cons (entries : List (Name × Entry)) (first : Name) {rest : Place}
    (further : rest ≠ []) :
    remove (.directory entries) (first :: rest) =
      match entries.lookup first with
      | none => .directory entries
      | some entry => .directory (putEntry first (remove entry rest) entries) := by
  cases rest with
  | nil => exact absurd rfl further
  | cons second more =>
    cases found : entries.lookup first with
    | none => rw [remove, found]
    | some entry => rw [remove, found]

theorem view?_filter_ne {entries : List (Name × Entry)} {name : Name}
    (free : item? (.directory entries) [name] ≠ some .directory) (place : Place) :
    view? (.directory (entries.filter (·.1 != name))) place =
      if place = [name] then none
      else if place = [] then (view? (.directory entries) []).map (View.drop name)
      else view? (.directory entries) place := by
  rw [item?_singleton] at free
  cases place with
  | nil =>
    rw [view?_nil, view?_nil, Entry.view, map_fst_filter_ne]
    rfl
  | cons first rest =>
    rw [view?_directory_cons, view?_directory_cons, lookup_filter_ne, if_neg (List.cons_ne_nil first rest)]
    by_cases same : first = name
    · subst first
      rw [if_pos rfl, Option.bind_none]
      cases rest with
      | nil => rw [if_pos rfl]
      | cons second more => rw [bind_view?_cons free, ite_self]
    · rw [if_neg same, if_neg]
      simp [same]

theorem view?_remove_file (content : ByteArray) (parent : Place) (name : Name) (place : Place) :
    view? (remove (.file content) (parent ++ [name])) place =
      if place = parent ++ [name] then none
      else if place = parent then (view? (.file content) parent).map (View.drop name)
      else view? (.file content) place := by
  rw [remove_file]
  by_cases own : place = parent ++ [name]
  · rw [if_pos own, own]
    cases parent with
    | nil => rfl
    | cons first parent => rw [List.cons_append, view?_file_cons]
  · rw [if_neg own]
    by_cases there : place = parent
    · rw [if_pos there, there]
      cases parent with
      | nil => rfl
      | cons first parent => rw [view?_file_cons, Option.map_none]
    · rw [if_neg there]

/-- What a store shows after anything but a directory was removed. -/
theorem view?_remove {store : Store} {parent : Place} {name : Name}
    (free : store.item? (parent ++ [name]) ≠ some .directory) (place : Place) :
    (store.remove (parent ++ [name])).view? place =
      if place = parent ++ [name] then none
      else if place = parent then (store.view? parent).map (View.drop name)
      else store.view? place := by
  induction parent generalizing store place with
  | nil =>
    cases store with
    | file content => exact view?_remove_file content [] name place
    | directory entries => exact view?_filter_ne free place
  | cons first parent ih =>
    cases store with
    | file content => exact view?_remove_file content (first :: parent) name place
    | directory entries =>
      have further : parent ++ [name] ≠ [] :=
        List.append_ne_nil_of_right_ne_nil parent (List.cons_ne_nil name [])
      rw [List.cons_append] at free ⊢
      rw [item?_directory_cons] at free
      rw [remove_directory_cons entries first further, view?_directory_cons]
      cases there : entries.lookup first with
      | none =>
        cases place with
        | nil => rfl
        | cons second rest =>
          rw [view?_directory_cons]
          by_cases same : second = first
          · rw [same, there, Option.bind_none, Option.bind_none, Option.map_none, ite_self, ite_self]
          · simp [same]
      | some child =>
        rw [there] at free
        rw [Option.bind_some]
        dsimp only
        cases place with
        | nil =>
          rw [view?_putEntry_nil, addName_of_lookup there]
          rfl
        | cons other rest =>
          rw [view?_putEntry_cons]
          by_cases same : other = first
          · subst other
            rw [if_pos rfl, ih free rest, view?_directory_cons, there, Option.bind_some]
            simp
          · rw [if_neg same]
            simp [same]

section Items

variable {store : Store} {parent : Place} {name : Name}

theorem item?_put {entry : Entry} (around : store.item? parent = some .directory)
    (free : store.item? (parent ++ [name]) ≠ some .directory) (leaf : entry.IsLeaf) (place : Place) :
    (store.put (parent ++ [name]) entry).item? place =
      if place = parent ++ [name] then some entry.view.item else store.item? place := by
  obtain ⟨names, shown⟩ := item?_eq_directory_iff.1 around
  rw [item?, view?_put shown free leaf]
  by_cases own : place = parent ++ [name]
  · rw [if_pos own, if_pos own, Option.map_some]
  · rw [if_neg own, if_neg own]
    by_cases there : place = parent
    · rw [if_pos there, there, around]
      rfl
    · rw [if_neg there, item?]

theorem item?_remove (free : store.item? (parent ++ [name]) ≠ some .directory) (place : Place) :
    (store.remove (parent ++ [name])).item? place =
      if place = parent ++ [name] then none else store.item? place := by
  rw [item?, view?_remove free]
  by_cases own : place = parent ++ [name]
  · rw [if_pos own, if_pos own, Option.map_none]
  · rw [if_neg own, if_neg own]
    by_cases there : place = parent
    · rw [if_pos there, there, item?, Option.map_map]
      congr 1
      funext view
      cases view <;> rfl
    · rw [if_neg there, item?]

theorem item?_of_append_singleton {item : Item} (found : store.item? (parent ++ [name]) = some item) :
    store.item? parent = some .directory := by
  obtain ⟨view, shown, -⟩ := Option.map_eq_some_iff.1 found
  exact item?_eq_directory_iff.2 (view?_of_append_cons shown)

theorem item?_dropLast {place : Place} (found : store.item? place = some .directory) :
    store.item? place.dropLast = some .directory := by
  rcases List.eq_nil_or_concat place with rfl | ⟨parent, name, rfl⟩
  · exact found
  · rw [List.concat_eq_append] at found ⊢
    rw [List.dropLast_concat]
    exact item?_of_append_singleton found

/-- A directory stands in a directory at the root, if it is not the root. -/
theorem root_of_item? {place : Place} (found : store.item? place = some .directory) :
    store.item? [] = some .directory := by
  cases place with
  | nil => exact found
  | cons first rest =>
    obtain ⟨names, shown⟩ := item?_eq_directory_iff.1 found
    exact item?_eq_directory_iff.2 (view?_of_append_cons shown)

/-- The names of one kind in the directory at a place. -/
def namesOf? (kind : Name → Bool) (store : Store) (place : Place) : Option (List Name) :=
  match store.view? place with
  | some (.directory names) => some (names.filter kind)
  | _ => none

variable {kind : Name → Bool}

theorem namesOf?_put {entry : Entry} (around : store.item? parent = some .directory)
    (free : store.item? (parent ++ [name]) ≠ some .directory) (leaf : entry.IsLeaf) {place : Place}
    (apart : place ≠ parent ++ [name]) (other : place = parent → kind name = false) :
    namesOf? kind (store.put (parent ++ [name]) entry) place = namesOf? kind store place := by
  obtain ⟨names, shown⟩ := item?_eq_directory_iff.1 around
  unfold namesOf?
  rw [view?_put shown free leaf, if_neg apart]
  by_cases there : place = parent
  · rw [if_pos there, there, shown]
    dsimp only
    unfold addName
    split
    · rfl
    · rw [List.filter_append, List.filter_cons_of_neg (by simp [other there]), List.filter_nil,
        List.append_nil]
  · rw [if_neg there]

end Items

end FieldTypes.Store
