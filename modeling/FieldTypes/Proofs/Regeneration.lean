import FieldTypes.Proofs.RunInputs

set_option autoImplicit false

namespace FieldTypes

open Store (Place Item KeepsDirectories namesOf?)
open Generation.TemplateFile (isTemplate)

namespace Generation

variable {store later after : Store} {steps : List Step}

/-- The same places are directories. -/
def SameDirectories (store later : Store) : Prop :=
  ∀ place, later.item? place = some .directory ↔ store.item? place = some .directory

/-- Steps that were performed can be performed again, where the same directories are. -/
theorem Performed.again (performed : Performed store steps after) (same : SameDirectories after later) :
    ∃ again, Performed later steps again := by
  induction performed generalizing later with
  | nil => exact ⟨later, .nil⟩
  | @cons store made after step rest text renders writes more ih =>
    have written := written_of_write writes
    have kept := more.keepsDirectories
    obtain ⟨content, file⟩ := more.file written.item?_place
    have free : later.item? (Path.place step.path) ≠ some .directory := by
      rw [Ne, same, file]
      exact nofun
    have keeps : KeepsDirectories made later := fun place there => (same place).2 (kept place there)
    obtain ⟨next, rewrites⟩ := Written.again writes keeps free text
    have rewritten := written_of_write rewrites
    have sameNext : SameDirectories after next := by
      intro place
      rw [rewritten.items]
      by_cases own : place = Path.place step.path
      · rw [if_pos own, own, file]
        exact ⟨nofun, nofun⟩
      · rw [if_neg own]
        by_cases entered : place ∈ Path.directories step.path
        · rw [if_pos entered]
          exact iff_of_true rfl (kept place (written.item?_directory place entered))
        · rw [if_neg entered, same]
    obtain ⟨again, performed⟩ := ih sameNext
    exact ⟨again, .cons renders rewrites performed⟩

def deleteFiles (store : Store) (paths : List String) : Store :=
  paths.foldl (fun store path => store.remove (Path.place path)) store

theorem place_of_namesFile {path : String} (named : Path.NamesFile path) :
    ∃ parent name, Path.place path = parent ++ [name] := by
  obtain ⟨front, last, parts, isName⟩ := named.split
  exact ⟨Path.lead [] front, last, by rw [Path.place, parts, Path.lead_append_name [] isName]⟩

theorem item?_remove_path {path : String} (named : Path.NamesFile path)
    (free : store.item? (Path.place path) ≠ some .directory) (place : Place) :
    (store.remove (Path.place path)).item? place =
      if place = Path.place path then none else store.item? place := by
  obtain ⟨parent, name, there⟩ := place_of_namesFile named
  rw [there] at free ⊢
  exact Store.item?_remove free place

theorem free_remove_path {path : String} (named : Path.NamesFile path)
    (free : store.item? (Path.place path) ≠ some .directory) {place : Place}
    (other : store.item? place ≠ some .directory) :
    (store.remove (Path.place path)).item? place ≠ some .directory := by
  rw [item?_remove_path named free]
  split
  · exact nofun
  · exact other

theorem item?_deleteFiles {paths : List String} (named : ∀ path ∈ paths, Path.NamesFile path)
    (free : ∀ path ∈ paths, store.item? (Path.place path) ≠ some .directory) (place : Place) :
    (deleteFiles store paths).item? place =
      if place ∈ paths.map Path.place then none else store.item? place := by
  induction paths generalizing store with
  | nil => rfl
  | cons path rest ih =>
    rw [List.forall_mem_cons] at named free
    have stillFree := fun other mem => free_remove_path named.1 free.1 (free.2 other mem)
    rw [deleteFiles, List.foldl_cons, ← deleteFiles, ih named.2 stillFree, item?_remove_path named.1 free.1,
      List.map_cons]
    by_cases own : place = Path.place path
    · rw [if_pos own, ite_self, if_pos (own ▸ List.mem_cons_self)]
    · simp only [own, List.mem_cons, false_or, if_false]

theorem Performed.namesOf?_eq {kind : Store.Name → Bool} (performed : Performed store steps after)
    {around : Place} (there : store.item? around = some .directory)
    (other : ∀ step ∈ steps, ∀ name, kind name = true →
      around ++ [name] ≠ Path.place step.path ∧ around ++ [name] ∉ Path.directories step.path) :
    namesOf? kind after around = namesOf? kind store around := by
  induction performed with
  | nil => rfl
  | cons renders writes more ih =>
    rw [List.forall_mem_cons] at other
    rw [ih ((written_of_write writes).keepsDirectories around there) other.2]
    exact Written.namesOf?_eq writes there other.1

section Deleting

variable {deleted : List String}

theorem Performed.deletable (performed : Performed store steps after)
    (among : ∀ path ∈ deleted, path ∈ steps.map (·.path)) :
    (∀ path ∈ deleted, Path.NamesFile path) ∧
      ∀ path ∈ deleted, after.item? (Path.place path) ≠ some .directory := by
  constructor
  · intro path mem
    obtain ⟨step, isStep, rfl⟩ := List.mem_map.1 (among path mem)
    exact (performed.reaches isStep).2
  · intro path mem
    obtain ⟨step, isStep, rfl⟩ := List.mem_map.1 (among path mem)
    obtain ⟨content, -, file⟩ := performed.item?_path isStep
    rw [file]
    exact nofun

theorem Performed.item?_deleteFiles (performed : Performed store steps after)
    (among : ∀ path ∈ deleted, path ∈ steps.map (·.path)) (place : Place) :
    (deleteFiles after deleted).item? place =
      if place ∈ deleted.map Path.place then none else after.item? place :=
  Generation.item?_deleteFiles (performed.deletable among).1 (performed.deletable among).2 place

/-- Steps performed again bring back what was deleted, and leave everything else as it is. -/
theorem Performed.restored {again : Store} (performed : Performed store steps after)
    (among : ∀ path ∈ deleted, path ∈ steps.map (·.path))
    (repeated : Performed (deleteFiles after deleted) steps again) (place : Place) :
    again.item? place = after.item? place := by
  have stands := performed.item?_eq place
  rw [repeated.item?_eq]
  unfold itemAfter? at stands ⊢
  cases last : lastWritten? steps place with
  | some content =>
    rw [last] at stands
    exact stands.symm
  | none =>
    rw [last] at stands
    dsimp only at stands ⊢
    by_cases entered : place ∈ steps.flatMap (Path.directories ·.path)
    · rw [if_pos entered] at stands ⊢
      exact stands.symm
    · rw [if_neg entered, performed.item?_deleteFiles among, if_neg]
      intro gone
      obtain ⟨path, mem, rfl⟩ := List.mem_map.1 gone
      obtain ⟨step, isStep, rfl⟩ := List.mem_map.1 (among path mem)
      obtain ⟨content, found⟩ := performed.exists_lastWritten isStep
      rw [last] at found
      cases found

end Deleting

section Repeating

variable {config : Config} {report : List String}

theorem run_ok_iff : run store config = (after, .ok report) ↔
    ∃ steps, plan config (.ofStore store config) = .ok steps ∧ Performed store steps after ∧
      report = steps.map (·.path) := by
  rw [run_eq]
  cases plan config (.ofStore store config) with
  | error error => simp
  | ok steps => simp only [perform_ok_iff, Except.ok.injEq, exists_eq_left']

end Repeating

def listing : Store :=
  .directory [("schema.json", .file pointDocument),
    ("templates", .directory [("note.hbs", .file "new".toUTF8), ("doc.hbs", .file "doc".toUTF8)])]

def nesting : Store := .directory [("schema.json", .file pointDocument), ("templates", .directory [])]

end Generation

end FieldTypes
