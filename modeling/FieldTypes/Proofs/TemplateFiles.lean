import FieldTypes.Generation.Run
import FieldTypes.Proofs.Results
import Mathlib.Data.List.Sort

set_option autoImplicit false

namespace FieldTypes.Generation

open Store (Name)
open TemplateDirectory (insertSorted sort register register_cons)
open TemplateFile (registration?)

/-- The name of a file is not after that of another. -/
abbrev NotAfter (file other : TemplateFile) : Prop := ¬ other.name < file.name

theorem sort_eq_insertionSort (files : List TemplateFile) : sort files = files.insertionSort NotAfter := by
  have insert (file : TemplateFile) (others : List TemplateFile) :
      insertSorted file others = others.orderedInsert NotAfter file := by
    induction others with
    | nil => rfl
    | cons other rest ih =>
      rw [insertSorted, List.orderedInsert_cons, ih, ite_not]
  unfold sort
  induction files with
  | nil => rfl
  | cons file rest ih => rw [List.foldr_cons, ih, insert, List.insertionSort_cons]

instance : Std.Total NotAfter :=
  ⟨fun file other => (em (other.name < file.name)).symm.imp_right Name.lt_asymm⟩

instance : IsTrans TemplateFile NotAfter :=
  ⟨fun _ _ _ first second => Name.not_lt_trans first second⟩

theorem perm_sort (files : List TemplateFile) : (sort files).Perm files := by
  rw [sort_eq_insertionSort]
  exact List.perm_insertionSort _ files

theorem pairwise_sort (files : List TemplateFile) : (sort files).Pairwise NotAfter := by
  rw [sort_eq_insertionSort]
  exact List.pairwise_insertionSort _ files

/-- Files that are told apart by their names are sorted alike, however they are listed. -/
theorem sort_eq_of_perm {files others : List TemplateFile} (perm : files.Perm others)
    (named : ∀ file ∈ files, ∀ other ∈ files, file.name = other.name → file = other) :
    sort files = sort others := by
  refine List.Perm.eq_of_pairwise ?_ (pairwise_sort files) (pairwise_sort others)
    ((perm_sort files).trans (perm.trans (perm_sort others).symm))
  intro file other mem otherMem first second
  refine named file ((perm_sort files).mem_iff.1 mem) other ?_ ?_
  · exact perm.mem_iff.2 ((perm_sort others).mem_iff.1 otherMem)
  · exact Name.eq_of_not_lt second first

/-- What is wrong with a file of the template directory with a path. A file that registers nothing is not
even looked at. -/
inductive FileFault (path : String) (file : TemplateFile) : Error → Prop
  | unreadable {registered : String × Catalog.Scope} {cause : Store.Fault}
      (registers : registration? file.name = some registered) (failed : file.text = .error cause) :
      FileFault path file (.config (.unreadableDirectory path cause))
  | malformed {registered : String × Catalog.Scope} {text : String} {fault : Template.Malformed}
      (registers : registration? file.name = some registered) (readable : file.text = .ok text)
      (rejected : Template.read text = .error fault) :
      FileFault path file (.malformed registered.1 fault)

theorem FileFault.unique {path : String} {file : TemplateFile} {error other : Error}
    (fault : FileFault path file error) (same : FileFault path file other) : error = other := by
  cases fault with
  | unreadable registers failed =>
    cases same with
    | unreadable otherRegisters otherFailed =>
      cases failed.symm.trans otherFailed
      rfl
    | malformed otherRegisters readable rejected => cases failed.symm.trans readable
  | malformed registers readable rejected =>
    cases same with
    | unreadable otherRegisters failed => cases failed.symm.trans readable
    | malformed otherRegisters otherReadable otherRejected =>
      cases registers.symm.trans otherRegisters
      cases readable.symm.trans otherReadable
      cases rejected.symm.trans otherRejected
      rfl

theorem FileFault.registers {path : String} {file : TemplateFile} {error : Error}
    (fault : FileFault path file error) : registration? file.name ≠ none := by
  intro passed
  cases fault with
  | unreadable registers => cases passed.symm.trans registers
  | malformed registers => cases passed.symm.trans registers

theorem register_cons_of_passed {file : TemplateFile} (passed : registration? file.name = none)
    (path : String) (catalog : Catalog) (rest : List TemplateFile) :
    register path catalog (file :: rest) = register path catalog rest := by
  rw [register_cons, passed]

theorem file_cases (path : String) (file : TemplateFile) :
    (∃ error, FileFault path file error ∧
        ∀ catalog rest, register path catalog (file :: rest) = (catalog, .error error)) ∨
      (∀ error, ¬ FileFault path file error) ∧
        ∀ catalog, ∃ next, ∀ rest, register path catalog (file :: rest) = register path next rest := by
  cases registers : registration? file.name with
  | none =>
    refine .inr ⟨fun error fault => fault.registers registers, fun catalog => ⟨catalog, fun rest => ?_⟩⟩
    exact register_cons_of_passed registers path catalog rest
  | some registered =>
    obtain ⟨name, scope⟩ := registered
    cases readable : file.text with
    | error cause =>
      refine .inl ⟨_, .unreadable registers readable, fun catalog rest => ?_⟩
      rw [register_cons, registers, readable]
    | ok text =>
      cases read : Template.read text with
      | error fault =>
        refine .inl ⟨_, .malformed registers readable read, fun catalog rest => ?_⟩
        rw [register_cons, registers, readable]
        dsimp only [Catalog.registerTemplate]
        rw [read]
      | ok nodes =>
        refine .inr ⟨fun error fault => ?_, fun catalog => ?_⟩
        · cases fault with
          | unreadable _ failed => cases readable.symm.trans failed
          | malformed _ otherReadable rejected =>
            cases readable.symm.trans otherReadable
            cases read.symm.trans rejected
        · refine ⟨catalog.put name (.template scope nodes), fun rest => ?_⟩
          rw [register_cons, registers, readable]
          dsimp only [Catalog.registerTemplate]
          rw [read]

/-- Registering files stops at the first faulty one. -/
theorem register_error_iff {path : String} {catalog : Catalog} {files : List TemplateFile} {error : Error} :
    (register path catalog files).2 = .error error ↔ FirstOf (FileFault path) files error := by
  refine error_iff_firstOf (fun catalog files => (register path catalog files).2)
    (fun file reason other (faulty : FileFault path file reason) => faulty.unique) (fun _ _ => nofun)
    (fun catalog file => ?_) catalog
  rcases file_cases path file with ⟨reason, faulty, stops⟩ | ⟨sound, goes⟩
  · exact .inl ⟨reason, faulty, fun rest => congrArg (·.2) (stops catalog rest)⟩
  · obtain ⟨next, more⟩ := goes catalog
    refine .inr ⟨sound, next, fun rest error => ?_⟩
    rw [more]

/-- No file is faulty whose name is before that of the first faulty one. -/
theorem firstOf_sort_iff {path : String} {files : List TemplateFile} {error : Error}
    (named : ∀ file ∈ files, ∀ other ∈ files, file.name = other.name → file = other) :
    FirstOf (FileFault path) (sort files) error ↔
      ∃ file ∈ files, FileFault path file error ∧
        ∀ other ∈ files, other.name < file.name → ∀ reason, ¬ FileFault path other reason := by
  have first {reason : Error} (faulty : FirstOf (FileFault path) (sort files) reason) :
      ∃ file ∈ files, FileFault path file reason ∧
        ∀ other ∈ files, other.name < file.name → ∀ reason, ¬ FileFault path other reason := by
    obtain ⟨before, file, after, split, sound, faulty⟩ := faulty
    have ordered := pairwise_sort files
    have mem {other : TemplateFile} : other ∈ files ↔ other ∈ before ++ file :: after := by
      rw [← split]
      exact (perm_sort files).mem_iff.symm
    rw [split, List.pairwise_append, List.pairwise_cons] at ordered
    refine ⟨file, mem.2 (List.mem_append_right before List.mem_cons_self), faulty, fun other among less => ?_⟩
    rcases List.mem_append.1 (mem.1 among) with earlier | among
    · exact sound other earlier
    · rcases List.mem_cons.1 among with rfl | later
      · exact absurd less (Name.lt_irrefl _)
      · exact absurd less (ordered.2.1.1 other later)
  constructor
  · exact first
  · rintro ⟨file, mem, faulty, sound⟩
    obtain ⟨reason, firstFaulty⟩ := exists_firstOf ((perm_sort files).mem_iff.2 mem) faulty
    obtain ⟨other, otherMem, otherFaulty, otherSound⟩ := first firstFaulty
    have same : file.name = other.name :=
      Name.eq_of_not_lt (fun less => otherSound file mem less _ faulty)
        fun less => sound other otherMem less _ otherFaulty
    rw [← named file mem other otherMem same] at otherFaulty
    rw [faulty.unique otherFaulty]
    exact firstFaulty

/-- The template files among the names in a directory. -/
def templateFiles (store : Store) (path : String) (names : List Name) : List TemplateFile :=
  (names.filter TemplateFile.isTemplate).map fun name => ⟨name, store.readNamed path name⟩

theorem mem_templateFiles {store : Store} {path : String} {names : List Name} {file : TemplateFile} :
    file ∈ templateFiles store path names ↔
      file.name ∈ names ∧ TemplateFile.isTemplate file.name = true ∧
        file.text = store.readNamed path file.name := by
  unfold templateFiles
  rw [List.mem_map]
  simp only [List.mem_filter]
  constructor
  · rintro ⟨name, ⟨mem, template⟩, rfl⟩
    exact ⟨mem, template, rfl⟩
  · rintro ⟨mem, template, text⟩
    refine ⟨file.name, ⟨mem, template⟩, ?_⟩
    rw [← text]

theorem templateFiles_named {store : Store} {path : String} {names : List Name} :
    ∀ file ∈ templateFiles store path names, ∀ other ∈ templateFiles store path names,
      file.name = other.name → file = other := by
  rintro ⟨name, text⟩ mem ⟨otherName, otherText⟩ otherMem same
  obtain ⟨-, -, read⟩ := mem_templateFiles.1 mem
  obtain ⟨-, -, otherRead⟩ := mem_templateFiles.1 otherMem
  dsimp only at same read otherRead
  rw [read, otherRead, same]

/-- What is wrong with a template directory: it cannot be listed, or a template file is faulty. The file
whose name is the first decides. -/
inductive DirectoryFault (store : Store) (path : String) : Error → Prop
  | unlisted {cause : Store.Fault} (failed : store.listDirectory path = .error cause) :
      DirectoryFault store path (.config (.unreadableDirectory path cause))
  | file {names : List Name} {file : TemplateFile} {error : Error}
      (listed : store.listDirectory path = .ok names) (mem : file ∈ templateFiles store path names)
      (faulty : FileFault path file error)
      (first : ∀ other ∈ templateFiles store path names, other.name < file.name →
        ∀ reason, ¬ FileFault path other reason) : DirectoryFault store path error

/-- A name that is no text before its extension. -/
def unnamed : Name := .raw [0xFF, 0x2E, 0x68, 0x62, 0x73] (by decide +kernel)

theorem load_of_listed {store : Store} {path : String} {names : List Name}
    (listed : store.listDirectory path = .ok names) (catalog : Catalog) :
    (TemplateDirectory.ofStore store path).load catalog =
      ((register path catalog (sort (templateFiles store path names))).1,
        (register path catalog (sort (templateFiles store path names))).2.map
          fun () => (templateFiles store path names).length) := by
  have files : (TemplateDirectory.ofStore store path).files = .ok (templateFiles store path names) := by
    show (store.listDirectory path).map _ = _
    rw [listed]
    rfl
  unfold TemplateDirectory.load
  rw [files]
  rfl

theorem load_error_iff {store : Store} {path : String} {catalog : Catalog} {error : Error} :
    ((TemplateDirectory.ofStore store path).load catalog).2 = .error error ↔
      DirectoryFault store path error := by
  cases listed : store.listDirectory path with
  | error cause =>
    have files : (TemplateDirectory.ofStore store path).files = .error cause := by
      show (store.listDirectory path).map _ = _
      rw [listed]
      rfl
    rw [TemplateDirectory.load, files]
    show Except.error _ = Except.error _ ↔ _
    rw [Except.error.injEq]
    constructor
    · rintro rfl
      exact .unlisted listed
    · intro fault
      cases fault with
      | unlisted failed =>
        cases listed.symm.trans failed
        rfl
      | file otherListed => cases listed.symm.trans otherListed
  | ok names =>
    rw [load_of_listed listed]
    dsimp only
    rw [map_eq_error, register_error_iff, firstOf_sort_iff templateFiles_named]
    constructor
    · rintro ⟨file, mem, faulty, first⟩
      exact .file listed mem faulty first
    · intro fault
      cases fault with
      | unlisted failed => cases listed.symm.trans failed
      | file otherListed mem faulty first =>
        cases listed.symm.trans otherListed
        exact ⟨_, mem, faulty, first⟩

theorem directoryFault_of_file {store : Store} {path : String} {names : List Name} {file : TemplateFile}
    {error : Error} (listed : store.listDirectory path = .ok names)
    (mem : file ∈ templateFiles store path names) (faulty : FileFault path file error) :
    ∃ reason, DirectoryFault store path reason := by
  obtain ⟨reason, first⟩ := exists_firstOf ((perm_sort _).mem_iff.2 mem) faulty
  obtain ⟨other, otherMem, otherFaulty, sound⟩ := (firstOf_sort_iff templateFiles_named).1 first
  exact ⟨reason, .file listed otherMem otherFaulty sound⟩

theorem catalogOf_error_iff {store : Store} {config : Config} {error : Error} :
    catalogOf (.ofStore store config) = .error error ↔
      ∃ path, config.templateDirectory = some path ∧ DirectoryFault store path error := by
  have templates : (Inputs.ofStore store config).templates =
      config.templateDirectory.map (TemplateDirectory.ofStore store) := rfl
  unfold catalogOf
  rw [templates]
  cases config.templateDirectory with
  | none => exact ⟨nofun, nofun⟩
  | some path =>
    have load := @load_error_iff store path .standard error
    simp only [Option.map_some, Option.some.injEq, exists_eq_left', ← load]
    rcases (TemplateDirectory.ofStore store path).load .standard with ⟨catalog, reason | count⟩
    · simp
    · simp

end FieldTypes.Generation
