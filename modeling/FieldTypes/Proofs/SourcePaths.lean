import FieldTypes.Proofs.FileNames
import FieldTypes.Proofs.PresetArtifacts
import FieldTypes.Proofs.Regeneration

set_option autoImplicit false

namespace FieldTypes

open Store (Place)

namespace Path

theorem split_eq (text : List Char) : split text = text.splitOn '/' := by
  induction text with
  | nil => rfl
  | cons c rest ih =>
    rw [List.splitOn_cons_eq_if_modifyHead, ← ih]
    by_cases slash : c = '/'
    · rw [slash]
      rfl
    · obtain ⟨first, more, parts⟩ := List.exists_cons_of_ne_nil (List.splitOn_ne_nil '/' rest)
      rw [split, if_neg (by simpa using slash), ih, parts]
      · rfl
      · exact slash

theorem segments_append_slash (front rest : String) :
    segments (front ++ "/" ++ rest) = segments front ++ segments rest := by
  have cut : (front ++ "/" ++ rest).toList = front.toList ++ '/' :: rest.toList := by
    rw [String.toList_append, String.toList_append, List.append_assoc]
    rfl
  simp only [segments, split_eq, cut, List.splitOn_append_cons_self, List.map_append]

theorem segments_slash (front : String) : segments (front ++ "/") = segments front ++ [""] := by
  have parts := segments_append_slash front ""
  rwa [String.append_empty] at parts

theorem segments_of_undivided {name : String} (undivided : '/' ∉ name.toList) : segments name = [name] := by
  rw [segments, split_eq, List.splitOn_eq_singleton undivided, List.map_singleton, String.ofList_toList]

theorem segments_ne_nil (path : String) : segments path ≠ [] := by
  rw [segments, split_eq, Ne, List.map_eq_nil_iff]
  exact List.splitOn_ne_nil _ _

theorem ofSegments_segments (path : String) : ofSegments (segments path) = path := by
  rw [ofSegments, ← String.toList_inj, String.toList_intercalate, segments, split_eq, List.map_map]
  have same : String.toList ∘ String.ofList = id := funext fun _ => String.toList_ofList
  rw [same, List.map_id]
  exact List.intercalate_splitOn '/'

theorem not_mem_of_mem_splitOn {text segment : List Char} (mem : segment ∈ text.splitOn '/') : '/' ∉ segment := by
  induction text generalizing segment with
  | nil => simp_all
  | cons c rest ih =>
    rw [List.splitOn_cons_eq_if_modifyHead] at mem
    obtain ⟨first, more, parts⟩ := List.exists_cons_of_ne_nil (List.splitOn_ne_nil '/' rest)
    rw [parts] at ih mem
    by_cases slash : c = '/'
    · rw [if_pos (by simpa using slash)] at mem
      rcases List.mem_cons.1 mem with rfl | mem
      · exact List.not_mem_nil
      · exact ih mem
    · rw [if_neg (by simpa using slash), List.modifyHead_cons] at mem
      rcases List.mem_cons.1 mem with rfl | mem
      · rw [List.mem_cons, not_or]
        exact ⟨Ne.symm slash, ih List.mem_cons_self⟩
      · exact ih (List.mem_cons_of_mem first mem)

theorem undivided_of_mem_segments {path segment : String} (mem : segment ∈ segments path) :
    '/' ∉ segment.toList := by
  rw [segments, split_eq] at mem
  obtain ⟨part, among, rfl⟩ := List.mem_map.1 mem
  rw [String.toList_ofList]
  exact not_mem_of_mem_splitOn among

theorem segments_ofSegments {parts : List String} (given : parts ≠ [])
    (undivided : ∀ part ∈ parts, '/' ∉ part.toList) : segments (ofSegments parts) = parts := by
  have whole : (ofSegments parts).toList = ['/'].intercalate (parts.map String.toList) := by
    rw [ofSegments, String.toList_intercalate]
    rfl
  have cut : (['/'].intercalate (parts.map String.toList)).splitOn '/' = parts.map String.toList := by
    refine List.splitOn_intercalate '/' (fun chars mem => ?_) (by simpa using given)
    obtain ⟨part, among, rfl⟩ := List.mem_map.1 mem
    exact undivided part among
  have same : String.ofList ∘ String.toList = id := funext fun _ => String.ofList_toList
  rw [segments, split_eq, whole, cut, List.map_map, same, List.map_id]

structure IsName (name : String) : Prop where
  undivided : '/' ∉ name.toList
  named : name ≠ "" ∧ name ≠ "." ∧ name ≠ ".."

/-- A directory is given without the slash that stands in front of its files, or with it, or as nothing. -/
theorem join_cases (directory file : String) :
    directory = "" ∧ join directory file = file ∨
      ∃ front, (directory = front ∧ front ≠ "" ∨ directory = front ++ "/") ∧
        join directory file = front ++ "/" ++ file := by
  unfold join
  split
  · rename_i last
    rw [List.getLast?_eq_none_iff, String.toList_eq_nil_iff] at last
    exact .inl ⟨last, rfl⟩
  · rename_i last
    obtain ⟨front, parts⟩ := List.getLast?_eq_some_iff.1 last
    have cut : directory = String.ofList front ++ "/" := by
      rw [← String.toList_inj, parts, String.toList_append, String.toList_ofList]
      rfl
    exact .inr ⟨String.ofList front, .inr cut, by rw [cut]⟩
  · rename_i c other last
    refine .inr ⟨directory, .inl ⟨rfl, ?_⟩, rfl⟩
    rintro rfl
    cases last

/-- Segments that are more than places between slashes; a dot is one only at the start of a path. -/
def speaks (segment : String) : Bool := segment != "" && segment != "."

/-- What the first segment says: a path that starts with a slash starts at the root. -/
def startOf (first : String) (rest : List String) : List String :=
  if first = "" then (if rest = [] then [] else ["/"]) else [first]

/-- What a path says; paths with the same components are equal as paths. -/
def components (path : String) : List String :=
  match segments path with
  | [] => []
  | first :: rest => startOf first rest ++ rest.filter speaks

theorem components_append_slash {front : String} (given : front ≠ "") :
    components (front ++ "/") = components front := by
  unfold components
  rw [segments_slash]
  have whole := ofSegments_segments front
  cases cut : segments front with
  | nil => exact absurd cut (segments_ne_nil front)
  | cons first rest =>
    rw [cut] at whole
    have start : startOf first (rest ++ [""]) = startOf first rest := by
      unfold startOf
      by_cases empty : first = ""
      · have more : rest ≠ [] := by
          rintro rfl
          rw [empty] at whole
          exact given whole.symm
        simp [empty, more]
      · rw [if_neg empty, if_neg empty]
    show startOf first (rest ++ [""]) ++ (rest ++ [""]).filter speaks = _
    rw [start, List.filter_append, show [""].filter speaks = [] from rfl, List.append_nil]

theorem components_append {front file : String} (name : IsName file) :
    components (front ++ "/" ++ file) = components (front ++ "/") ++ [file] := by
  have fileSpeaks : speaks file = true := by
    simp [speaks, name.named]
  unfold components
  rw [segments_append_slash, segments_slash, segments_of_undivided name.undivided]
  obtain ⟨first, rest, cut⟩ := List.exists_cons_of_ne_nil (segments_ne_nil front)
  rw [cut]
  show startOf first (rest ++ [file]) ++ (rest ++ [file]).filter speaks =
    startOf first (rest ++ [""]) ++ (rest ++ [""]).filter speaks ++ [file]
  have start : startOf first (rest ++ [file]) = startOf first (rest ++ [""]) := by
    simp [startOf]
  rw [start, List.filter_append, List.filter_append, List.filter_cons_of_pos fileSpeaks]
  simp [speaks]

theorem components_join {file : String} (name : IsName file) (directory : String) :
    components (join directory file) = components directory ++ [file] := by
  rcases join_cases directory file with ⟨rfl, joined⟩ | ⟨front, ⟨rfl, given⟩ | rfl, joined⟩
  · rw [joined]
    unfold components
    rw [segments_of_undivided name.undivided]
    show startOf file [] ++ [] = [file]
    rw [startOf, if_neg name.named.1, List.append_nil]
  · rw [joined, components_append name, components_append_slash given]
  · rw [joined, components_append name]

theorem place_join {file : String} (name : IsName file) (directory : String) :
    place (join directory file) = place directory ++ [.text file] := by
  have below (front : String) : place (front ++ "/" ++ file) = place front ++ [.text file] := by
    rw [place, segments_append_slash, segments_of_undivided name.undivided, lead_append_name [] name.named, place]
  rcases join_cases directory file with ⟨rfl, joined⟩ | ⟨front, ⟨rfl, -⟩ | rfl, joined⟩
  · rw [joined, place, segments_of_undivided name.undivided]
    exact @lead_append_name [] file [] name.named
  · rw [joined, below]
  · rw [joined, below, place, place, segments_slash, lead, lead, List.foldl_append]
    rfl

theorem entered_append (here : Place) (front rest : List String) :
    entered here (front ++ rest) = entered here front ++ entered (lead here front) rest := by
  induction front generalizing here with
  | nil => rfl
  | cons segment more ih =>
    rw [List.cons_append]
    by_cases other : segment = "" ∨ segment = "." ∨ segment = ".."
    · rw [entered_cons_other other, entered_cons_other other, ih]
      rfl
    · rw [not_or, not_or] at other
      have led : next here segment = here ++ [.text segment] := by
        rcases next_cases here segment with ⟨idle, -⟩ | ⟨up, -⟩ | ⟨-, led⟩
        · exact absurd idle (not_or.2 ⟨other.1, other.2.1⟩)
        · exact absurd up other.2.2
        · exact led
      rw [entered_cons_name other, entered_cons_name other, ih, List.cons_append, ← led]
      rfl

theorem entered_append_idle {segment : String} (idle : segment = "" ∨ segment = ".") (here : Place)
    (front : List String) : entered here (front ++ [segment]) = entered here front := by
  rw [entered_append, entered_cons_other (idle.imp_right .inl), entered, List.append_nil]

theorem entered_dropIdle (here : Place) (reversed : List String) :
    entered here (dropIdle reversed).reverse = entered here reversed.reverse := by
  fun_induction dropIdle reversed with
  | case1 => rfl
  | case2 => exact (entered_append_idle (.inl rfl) here []).symm
  | case3 => rfl
  | case4 segment next rest idle ih =>
    rw [ih, List.reverse_cons (a := segment), entered_append_idle idle]
  | case5 => rfl

theorem dropIdle_subset (reversed : List String) : dropIdle reversed ⊆ reversed := by
  fun_induction dropIdle reversed with
  | case1 => exact List.Subset.refl _
  | case2 => exact List.nil_subset _
  | case3 => exact List.Subset.refl _
  | case4 segment next rest idle ih => exact List.subset_cons_of_subset segment ih
  | case5 => exact List.Subset.refl _

theorem dropIdle_cons_name {name : String} (named : name ≠ "" ∧ name ≠ "." ∧ name ≠ "..") (rest : List String) :
    dropIdle (name :: rest) = name :: rest := by
  cases rest with
  | nil => exact if_neg named.1
  | cons next more => exact if_neg (not_or.2 ⟨named.1, named.2.1⟩)

/-- The directories on the way to a file are those that the segments in front of its name lead through. -/
theorem directories_of_segments {path file : String} {front : List String}
    (named : file ≠ "" ∧ file ≠ "." ∧ file ≠ "..") (parts : segments path = front ++ [file]) :
    directories path = entered [] front := by
  have undivided : ∀ part ∈ (dropIdle front.reverse).reverse, '/' ∉ part.toList := by
    intro part mem
    have among : part ∈ front.reverse := dropIdle_subset _ (List.mem_reverse.1 mem)
    exact undivided_of_mem_segments (parts ▸ List.mem_append_left [file] (List.mem_reverse.1 among))
  have ends := entered_dropIdle [] front.reverse
  rw [List.reverse_reverse] at ends
  have reversed : dropIdle (segments path).reverse = file :: front.reverse := by
    rw [parts, List.reverse_append, List.reverse_singleton, List.singleton_append, dropIdle_cons_name named]
  unfold directories parent?
  dsimp only
  rw [reversed]
  dsimp only
  cases kept : dropIdle front.reverse with
  | nil =>
    rw [kept] at ends
    rw [← ends]
    dsimp only
    cases path.startsWith "/" <;> rfl
  | cons last more =>
    rw [kept] at ends undivided
    rw [← ends]
    dsimp only
    rw [Option.getD_some, segments_ofSegments (by simp) undivided]

theorem directories_join {file : String} (name : IsName file) (directory : String) :
    directories (join directory file) = entered [] (segments directory) := by
  have below (front : String) : directories (front ++ "/" ++ file) = entered [] (segments front) := by
    refine directories_of_segments name.named ?_
    rw [segments_append_slash, segments_of_undivided name.undivided]
  rcases join_cases directory file with ⟨rfl, joined⟩ | ⟨front, ⟨rfl, -⟩ | rfl, joined⟩
  · rw [joined, @directories_of_segments file file [] name.named (segments_of_undivided name.undivided)]
    rfl
  · rw [joined, below]
  · rw [joined, below, segments_slash]
    exact (entered_append_idle (.inl rfl) [] _).symm

/-- A path to a file of a name in a directory: so it reads, there it leads, and it leads through no other
directories than the directory's own path does. -/
structure IsChild (path directory file : String) : Prop where
  components : components path = components directory ++ [file]
  place : place path = place directory ++ [.text file]
  directories : directories path = entered [] (segments directory)

theorem isChild_join {file : String} (name : IsName file) (directory : String) :
    IsChild (join directory file) directory file :=
  ⟨components_join name directory, place_join name directory, directories_join name directory⟩

end Path

namespace Generation

section Performing

variable {store after : Store} {steps : List Step}

/-- What is different after steps, whether they fail or not, is a file of one of them or on the way to it. -/
theorem mem_of_perform_changes {place : Place}
    (changed : (perform store steps).1.item? place ≠ store.item? place) :
    ∃ step ∈ steps, place = Path.place step.path ∨ place ∈ Path.directories step.path := by
  induction steps generalizing store with
  | nil => exact absurd rfl changed
  | cons step rest ih =>
    rcases step_cases store step with ⟨text, made, renders, writes⟩ | ⟨error, after, fails⟩
    · rw [perform_of_written renders writes] at changed
      have written := written_of_write writes
      by_cases own : place = Path.place step.path
      · exact ⟨step, List.mem_cons_self, .inl own⟩
      · by_cases entered : place ∈ Path.directories step.path
        · exact ⟨step, List.mem_cons_self, .inr entered⟩
        · have kept := written.items place
          rw [if_neg own, if_neg entered] at kept
          obtain ⟨other, mem, reached⟩ := ih (kept ▸ changed)
          exact ⟨other, List.mem_cons_of_mem step mem, reached⟩
    · rw [perform_of_fails fails] at changed
      obtain ⟨entered, -⟩ := (fails.onlyMakes place).resolve_left changed
      exact ⟨step, List.mem_cons_self, .inr entered⟩

/-- If the paths of steps lead to different places, each file keeps what was written to it. -/
theorem Performed.readBytes_of_apart (performed : Performed store steps after)
    (apart : (steps.map (Path.place ·.path)).Nodup) {step : Step} (mem : step ∈ steps) :
    ∃ text, step.text = .ok text ∧ after.readBytes step.path = .ok text.toUTF8 := by
  induction performed with
  | nil => cases mem
  | @cons store made after first rest text renders writes more ih =>
    rw [List.map_cons, List.nodup_cons] at apart
    rcases List.mem_cons.1 mem with rfl | mem
    · have others : ∀ other ∈ rest, Path.place other.path ≠ Path.place step.path := fun other isOther same =>
        apart.1 (List.mem_map.2 ⟨other, isOther, same⟩)
      have written := written_of_write writes
      exact ⟨text, renders, Store.readBytes_ok_iff.2 ⟨written.reaches.mono more.keepsDirectories,
        (more.file_iff others _).2 written.item?_place⟩⟩
    · exact ih apart.2 mem

end Performing

section Planning

variable {store : Store} {config : Config} {schema : Schema}

theorem planned_of_plan {steps : List Step}
    (loaded : loadSchema config.schemaPath (store.readText config.schemaPath) = .ok schema)
    (plans : plan config (.ofStore store config) = .ok steps) :
    ∃ catalog, catalogOf (.ofStore store config) = .ok catalog ∧
      (∀ artifact ∈ config.artifacts, Fits catalog artifact) ∧ steps = planned catalog schema config := by
  obtain ⟨catalog, loads, more⟩ := bind_eq_ok.1 plans
  obtain ⟨checked, done, more⟩ := bind_eq_ok.1 more
  obtain ⟨_, found, more⟩ := bind_eq_ok.1 more
  cases (mapError_eq_ok.1 found).symm.trans loaded
  cases more
  have fits := fits_of_checkArtifacts done
  obtain ⟨_, again, scopes⟩ := checkArtifacts_of_fits fits
  cases done.symm.trans again
  exact ⟨catalog, loads, fits, steps_eq_planned (sound_of_loadSchema loaded) scopes⟩

theorem scope_of_single {catalog : Catalog} {artifact : Artifact} (fits : Fits catalog artifact)
    (single : Pattern.placeholders artifact.pattern = 1) : catalog.scope artifact.template = .ok .type := by
  obtain ⟨scope, known, pattern⟩ := fits
  cases scope with
  | type => exact known
  | schema => cases single.symm.trans pattern

theorem planned_of_single {catalog : Catalog} (fits : ∀ artifact ∈ config.artifacts, Fits catalog artifact)
    (single : ∀ artifact ∈ config.artifacts, Pattern.placeholders artifact.pattern = 1) :
    planned catalog schema config =
      schema.types.flatMap fun type => config.artifacts.map fun artifact =>
        ⟨artifact.resolve (some type.name), catalog.render artifact.template
          ((Catalog.Context.ofSchema schema config.options).withTarget type.resolve)⟩ := by
  have types : artifactsOf catalog config .type = config.artifacts := by
    refine List.filter_eq_self.2 fun artifact mem => decide_eq_true ?_
    exact scope_of_single (fits artifact mem) (single artifact mem)
  have none : artifactsOf catalog config .schema = [] := by
    refine List.filter_eq_nil_iff.2 fun artifact mem whole => ?_
    cases (scope_of_single (fits artifact mem) (single artifact mem)).symm.trans (of_decide_eq_true whole)
  unfold planned
  dsimp only
  rw [types, none, List.map_nil, List.append_nil]

end Planning

def pathsOf (schema : Schema) (artifacts : List Artifact) : List String :=
  schema.types.flatMap fun type => artifacts.map (·.resolve (some type.name))

theorem length_pathsOf (schema : Schema) (artifacts : List Artifact) :
    (pathsOf schema artifacts).length = artifacts.length * schema.types.length := by
  unfold pathsOf
  induction schema.types with
  | nil => rfl
  | cons type rest ih =>
    rw [List.flatMap_cons, List.length_append, List.length_map, ih, List.length_cons, Nat.mul_succ, Nat.add_comm]

theorem map_path_flatMap (schema : Schema) (artifacts : List Artifact)
    (text : TypeDecl → Artifact → Except Error String) :
    (schema.types.flatMap fun type => artifacts.map fun artifact =>
        Step.mk (artifact.resolve (some type.name)) (text type artifact)).map (·.path) =
      pathsOf schema artifacts := by
  rw [List.map_flatMap, pathsOf]
  refine List.flatMap_congr fun type _ => ?_
  rw [List.map_map]
  rfl

def sourceEndings : List String := [".gen.h", ".gen.inl.h", ".gen.cpp"]

def filesOf (type : String) : List String := [Cpp.headerFile type, Cpp.inlineHeaderFile type, Cpp.sourceFile type]

/-- Settings for the sources of types and nothing else. -/
def Config.sourcesOnly (config : Config) (headers sources : String) : Config :=
  { config with artifacts := [] }.addSources headers sources

section Sources

variable {config : Config} {headers sources : String} {schema : Schema}

theorem isName_of_mem_filesOf {type file : String} (plain : Plain type) (kind : file ∈ filesOf type) :
    Path.IsName file := by
  obtain ⟨ending, known, rfl⟩ : ∃ ending ∈ sourceEndings, type ++ ending = file := List.mem_map.1 kind
  have endings : ∀ ending ∈ sourceEndings, '/' ∉ ending.toList ∧ 2 < ending.length := by decide
  obtain ⟨undivided, long⟩ := endings ending known
  have longer (short : String) (few : short.length ≤ 2) : type ++ ending ≠ short := by
    intro same
    have length := congrArg String.length same
    rw [String.length_append] at length
    omega
  refine ⟨fun slash => ?_, longer "" (by decide), longer "." (by decide), longer ".." (by decide)⟩
  rw [String.toList_append, List.mem_append] at slash
  exact slash.elim (plain.not_mem (by decide)) undivided

theorem nodup_filesOf {types : List String} (distinct : types.Nodup) : (types.flatMap filesOf).Nodup :=
  have apart : sourceEndings.Pairwise Apart := by decide
  nodup_endings distinct apart

/-- The artifacts of sources are accepted for types, and they are written to the files of the type in the
directories that were given. -/
theorem sources_land (headers sources type : String) :
    ((Artifact.header headers).validate .type = .ok () ∧
      (Artifact.header headers).resolve (some type) = Path.join headers (Cpp.headerFile type)) ∧
    ((Artifact.inlineHeader headers).validate .type = .ok () ∧
      (Artifact.inlineHeader headers).resolve (some type) = Path.join headers (Cpp.inlineHeaderFile type)) ∧
    ((Artifact.source sources).validate .type = .ok () ∧
      (Artifact.source sources).resolve (some type) = Path.join sources (Cpp.sourceFile type)) :=
  ⟨Artifact.inDirectory_lands ".gen.h" (fun _ => rfl) (by decide) "header" headers type,
    Artifact.inDirectory_lands ".gen.inl.h" (fun _ => rfl) (by decide) "inline_header" headers type,
    Artifact.inDirectory_lands ".gen.cpp" (fun _ => rfl) (by decide) "source" sources type⟩

theorem single_sourcesOnly (config : Config) (headers sources : String) :
    ∀ artifact ∈ (config.sourcesOnly headers sources).artifacts, Pattern.placeholders artifact.pattern = 1 := by
  have accepted := sources_land headers sources ""
  show ∀ artifact ∈ [Artifact.header headers, .inlineHeader headers, .source sources], _
  rw [List.forall_mem_cons, List.forall_mem_cons, List.forall_mem_singleton]
  exact ⟨Artifact.validate_type_iff.1 accepted.1.1, Artifact.validate_type_iff.1 accepted.2.1.1,
    Artifact.validate_type_iff.1 accepted.2.2.1⟩

theorem isChild_sources {type : String} (plain : Plain type) (headers sources : String) :
    Path.IsChild ((Artifact.header headers).resolve (some type)) headers (Cpp.headerFile type) ∧
      Path.IsChild ((Artifact.inlineHeader headers).resolve (some type)) headers (Cpp.inlineHeaderFile type) ∧
      Path.IsChild ((Artifact.source sources).resolve (some type)) sources (Cpp.sourceFile type) := by
  obtain ⟨⟨-, header⟩, ⟨-, inlineHeader⟩, ⟨-, source⟩⟩ := sources_land headers sources type
  have named : ∀ file ∈ filesOf type, Path.IsName file := fun file => isName_of_mem_filesOf plain
  rw [filesOf, List.forall_mem_cons, List.forall_mem_cons, List.forall_mem_singleton] at named
  rw [header, inlineHeader, source]
  exact ⟨Path.isChild_join named.1 headers, Path.isChild_join named.2.1 headers,
    Path.isChild_join named.2.2 sources⟩

/-- A place of a file in a directory, or of a directory on the way to it. -/
def Around (directory : String) (place : Place) : Prop :=
  (∃ file, place = Path.place directory ++ [file]) ∨ place ∈ Path.entered [] (Path.segments directory)

theorem around_of_isChild {path directory file : String} {place : Place} (child : Path.IsChild path directory file)
    (reached : place = Path.place path ∨ place ∈ Path.directories path) : Around directory place := by
  rw [child.place, child.directories] at reached
  exact reached.imp_left fun same => ⟨file, same⟩

theorem around_sources (plain : ∀ type ∈ schema.types, Plain type.name) {path : String} {place : Place}
    (mem : path ∈ pathsOf schema (config.sourcesOnly headers sources).artifacts)
    (reached : place = Path.place path ∨ place ∈ Path.directories path) :
    Around headers place ∨ Around sources place := by
  obtain ⟨type, declared, kind⟩ := List.mem_flatMap.1 mem
  obtain ⟨header, inlineHeader, source⟩ := isChild_sources (plain type declared) headers sources
  obtain rfl | rfl | rfl : path = _ ∨ path = _ ∨ path = _ := by
    simpa only [List.mem_cons, List.not_mem_nil, or_false] using (show path ∈ [_, _, _] from kind)
  · exact .inl (around_of_isChild header reached)
  · exact .inl (around_of_isChild inlineHeader reached)
  · exact .inr (around_of_isChild source reached)

/-- However the paths of sources are read, if the names of the files are what they end in, they are different. -/
theorem nodup_sources (sound : schema.Sound) (config : Config) (headers sources : String)
    {α : Type} {named : String → α} (distinct : Function.Injective named) {read : String → List α}
    (reads : ∀ path directory file, Path.IsChild path directory file →
      read path = read directory ++ [named file]) :
    let paths := pathsOf schema (config.sourcesOnly headers sources).artifacts
    (paths.map fun path => (read path).getLast?).Nodup ∧ (paths.map read).Nodup := by
  intro paths
  have last {path directory file : String} (child : Path.IsChild path directory file) :
      (read path).getLast? = some (named file) := by
    rw [reads path directory file child, List.getLast?_concat]
  have names : (paths.map fun path => (read path).getLast?) =
      (((schema.types.map (·.name)).flatMap filesOf).map named).map some := by
    show (schema.types.flatMap _).map _ = _
    rw [List.map_flatMap, List.flatMap_map, List.map_flatMap, List.map_flatMap]
    refine List.flatMap_congr fun type declared => ?_
    obtain ⟨header, inlineHeader, source⟩ := isChild_sources (sound.plain_typeName declared) headers sources
    show [(read _).getLast?, (read _).getLast?, (read _).getLast?] = [_, _, _]
    rw [last header, last inlineHeader, last source]
  have lasts : (paths.map fun path => (read path).getLast?).Nodup :=
    names ▸ ((nodup_filesOf sound.typeNames).map distinct).map (Option.some_injective _)
  refine ⟨lasts, .of_map List.getLast? ?_⟩
  rw [List.map_map]
  exact lasts

theorem plan_sources {store : Store} {steps : List Step}
    (loaded : loadSchema config.schemaPath (store.readText config.schemaPath) = .ok schema)
    (plans : plan (config.sourcesOnly headers sources) (.ofStore store (config.sourcesOnly headers sources)) =
      .ok steps) :
    ∃ catalog, catalogOf (.ofStore store (config.sourcesOnly headers sources)) = .ok catalog ∧
      steps = schema.types.flatMap fun type => (config.sourcesOnly headers sources).artifacts.map fun artifact =>
        ⟨artifact.resolve (some type.name),
          catalog.renderType (.ofSchema schema config.options) artifact.template type.name⟩ := by
  obtain ⟨catalog, loads, fits, rfl⟩ :=
    @planned_of_plan store (config.sourcesOnly headers sources) schema steps loaded plans
  have single := single_sourcesOnly config headers sources
  refine ⟨catalog, loads, ?_⟩
  rw [planned_of_single fits single]
  refine List.flatMap_congr fun type declared => List.map_congr_left fun artifact mem => ?_
  have scope := scope_of_single (fits artifact mem) (single artifact mem)
  exact congrArg (Step.mk _) (renderType_eq (sound_of_loadSchema loaded) declared scope).symm

/-- No file of a source is another's, neither as a path nor in a store: names of types and kinds of files keep
them apart. They lie in the directories that were given, so that a run changes nothing else, and after it
every file has the text that was rendered for it. -/
theorem sources_never_collide (schema : Schema) (config : Config) (headers sources : String)
    (accepted : schema.validate = .ok ()) :
    let settings := config.sourcesOnly headers sources
    let paths := pathsOf schema settings.artifacts
    paths.length = 3 * schema.types.length ∧ paths.Nodup ∧ (paths.map Path.components).Nodup ∧
      (paths.map fun path => (Path.components path).getLast?).Nodup ∧
      (∀ type ∈ schema.types,
        Path.IsChild ((Artifact.header headers).resolve (some type.name)) headers (Cpp.headerFile type.name) ∧
        Path.IsChild ((Artifact.inlineHeader headers).resolve (some type.name)) headers
          (Cpp.inlineHeaderFile type.name) ∧
        Path.IsChild ((Artifact.source sources).resolve (some type.name)) sources (Cpp.sourceFile type.name)) ∧
      ∀ store, loadSchema config.schemaPath (store.readText config.schemaPath) = .ok schema →
        (∀ place, (run store settings).1.item? place ≠ store.item? place →
          Around headers place ∨ Around sources place) ∧
        ∀ after report, run store settings = (after, .ok report) → report = paths ∧
          ∃ catalog, catalogOf (.ofStore store settings) = .ok catalog ∧
            ∀ type ∈ schema.types, ∀ artifact ∈ settings.artifacts, ∃ text,
              catalog.renderType (.ofSchema schema config.options) artifact.template type.name = .ok text ∧
              after.readBytes (artifact.resolve (some type.name)) = .ok text.toUTF8 := by
  intro settings paths
  have sound := Schema.validate_ok.1 accepted
  have plain : ∀ type ∈ schema.types, Plain type.name := fun _ => sound.plain_typeName
  obtain ⟨lasts, components⟩ :=
    nodup_sources sound config headers sources Function.injective_id fun _ _ _ child => child.components
  obtain ⟨-, places⟩ :=
    nodup_sources sound config headers sources (fun _ _ => Store.Name.text.inj) fun _ _ _ child => child.place
  refine ⟨?_, .of_map _ components, components, lasts, fun type declared =>
    isChild_sources (plain type declared) headers sources, fun store loaded => ⟨fun place changed => ?_, ?_⟩⟩
  · exact length_pathsOf schema settings.artifacts
  · cases plans : plan settings (.ofStore store settings) with
    | error error =>
      rw [run_eq, plans] at changed
      exact absurd rfl changed
    | ok steps =>
      rw [run_eq, plans] at changed
      obtain ⟨step, mem, reached⟩ := mem_of_perform_changes changed
      obtain ⟨catalog, -, rfl⟩ := plan_sources loaded plans
      have known := List.mem_map_of_mem (f := Step.path) mem
      rw [map_path_flatMap] at known
      exact around_sources plain known reached
  · intro after report ran
    obtain ⟨steps, plans, performed, rfl⟩ := run_ok_iff.1 ran
    obtain ⟨catalog, loads, rfl⟩ := plan_sources loaded plans
    refine ⟨map_path_flatMap schema settings.artifacts _, catalog, loads, fun type declared artifact mem => ?_⟩
    -- the places of the steps are those of the paths
    have apart : ((schema.types.flatMap fun type => settings.artifacts.map fun artifact =>
        Step.mk (artifact.resolve (some type.name)) (catalog.renderType (.ofSchema schema config.options)
          artifact.template type.name)).map (Path.place ·.path)).Nodup := by
      have mapped := map_path_flatMap schema settings.artifacts fun type artifact =>
        catalog.renderType (.ofSchema schema config.options) artifact.template type.name
      show (List.map (Path.place ∘ Step.path) _).Nodup
      rw [← List.map_map, mapped]
      exact places
    exact performed.readBytes_of_apart apart
      (List.mem_flatMap.2 ⟨type, declared, List.mem_map_of_mem mem⟩)

end Sources

/-- Two types, one of which has the other's name at its start. -/
def prefixed : Schema := .ofDeclarations "Point" [] [⟨"Point", "", []⟩, ⟨"Pointer", "", []⟩]

def prefixedStore : Store :=
  .directory [("schema.json", .file
    ("\x7b\"types\": [\x7b\"name\": \"Point\", \"fields\": []\x7d, " ++
      "\x7b\"name\": \"Pointer\", \"fields\": []\x7d], \"root_type\": \"Point\"\x7d").toUTF8)]

/-- Headers and sources share one directory, given in two ways, whose name looks like a placeholder. -/
theorem sources_never_collide_of_prefixed :
    prefixed.validate = .ok () ∧
      loadSchema "schema.json" (prefixedStore.readText "schema.json") = .ok prefixed ∧
      (pathsOf prefixed ((Config.ofSchemaPath "schema.json").sourcesOnly "gen/%s" "./gen//%s/").artifacts).Nodup ∧
      ∃ after, run prefixedStore ((Config.ofSchemaPath "schema.json").sourcesOnly "gen/%s" "./gen//%s/") =
          (after, .ok ["gen/%s/Point.gen.h", "gen/%s/Point.gen.inl.h", "./gen//%s/Point.gen.cpp",
            "gen/%s/Pointer.gen.h", "gen/%s/Pointer.gen.inl.h", "./gen//%s/Pointer.gen.cpp"]) ∧
        (∀ place, after.item? place ≠ prefixedStore.item? place →
          Around "gen/%s" place ∨ Around "./gen//%s/" place) ∧
        ∃ text, Catalog.standard.renderType (.ofSchema prefixed .standard) "source" "Point" = .ok text ∧
          after.readBytes "./gen//%s/Point.gen.cpp" = .ok text.toUTF8 := by
  have accepted : prefixed.validate = .ok () := by decide +kernel
  have loaded : loadSchema "schema.json" (prefixedStore.readText "schema.json") = .ok prefixed := by
    decide +kernel
  obtain ⟨-, distinct, -, -, -, keeps⟩ :=
    sources_never_collide prefixed (.ofSchemaPath "schema.json") "gen/%s" "./gen//%s/" accepted
  have reported : (run prefixedStore ((Config.ofSchemaPath "schema.json").sourcesOnly "gen/%s" "./gen//%s/")).2 =
      .ok ["gen/%s/Point.gen.h", "gen/%s/Point.gen.inl.h", "./gen//%s/Point.gen.cpp",
        "gen/%s/Pointer.gen.h", "gen/%s/Pointer.gen.inl.h", "./gen//%s/Pointer.gen.cpp"] := by
    decide +kernel
  obtain ⟨after, ran⟩ := exists_of_snd_eq reported
  obtain ⟨inside, reads⟩ := keeps prefixedStore loaded
  obtain ⟨-, catalog, loads, written⟩ := reads after _ ran
  cases loads
  obtain ⟨text, rendered, read⟩ := written ⟨"Point", "", []⟩ List.mem_cons_self (.source "./gen//%s/")
    (.tail _ (.tail _ (.head _)))
  have path : (Artifact.source "./gen//%s/").resolve (some "Point") = "./gen//%s/Point.gen.cpp" := by
    decide +kernel
  rw [ran] at inside
  exact ⟨accepted, loaded, distinct, after, ran, inside, text, rendered, path ▸ read⟩

end Generation

end FieldTypes
