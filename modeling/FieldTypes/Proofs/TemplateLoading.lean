import FieldTypes.Proofs.CatalogHistory
import FieldTypes.Proofs.RunInputs

set_option autoImplicit false

namespace FieldTypes

section Extension

variable {α : Type} [DecidableEq α] {dot : α} {name stem extension : List α}

theorem Path.splitExtension_of_dot (named : stem ≠ []) (plain : dot ∉ extension) :
    Path.splitExtension dot (stem ++ dot :: extension) = (stem, some extension) := by
  have reversed : (stem ++ dot :: extension).reverse = extension.reverse ++ dot :: stem.reverse := by
    rw [List.reverse_append, List.reverse_cons, List.append_assoc]
    rfl
  have free : ∀ c ∈ extension.reverse, (c != dot) = true := fun c mem =>
    bne_iff_ne.2 fun same => plain (same ▸ List.mem_reverse.1 mem)
  have rest : (extension.reverse ++ dot :: stem.reverse).dropWhile (· != dot) = dot :: stem.reverse := by
    rw [List.dropWhile_append_of_pos free, List.dropWhile_cons_of_neg (by simp)]
  have taken : (extension.reverse ++ dot :: stem.reverse).takeWhile (· != dot) = extension.reverse := by
    rw [List.takeWhile_append_of_pos free, List.takeWhile_cons_of_neg (by simp), List.append_nil]
  unfold Path.splitExtension
  simp only [reversed, rest, taken, List.reverse_reverse]
  cases last : stem.reverse with
  | nil => exact absurd (List.reverse_eq_nil_iff.1 last) named
  | cons c front =>
    dsimp only
    rw [← last, List.reverse_reverse]

theorem Path.splitExtension_eq_some (split : Path.splitExtension dot name = (stem, some extension)) :
    stem ≠ [] ∧ name = stem ++ dot :: extension := by
  have whole := List.takeWhile_append_dropWhile (p := (· != dot)) (l := name.reverse)
  have head (first : α) (rest : List α) (left : name.reverse.dropWhile (· != dot) = first :: rest) :
      first = dot := by
    have stops := List.head?_dropWhile_not (· != dot) name.reverse
    rw [left, List.head?_cons] at stops
    simpa using stops
  unfold Path.splitExtension at split
  dsimp only at split
  split at split
  · cases split
  · cases split
  · rename_i first reversedStem named rest
    injection split with sameStem sameExtension
    injection sameExtension with sameExtension
    rw [rest, head first reversedStem rest] at whole
    refine ⟨fun empty => ?_, ?_⟩
    · exact named (List.reverse_eq_nil_iff.1 (sameStem.trans empty))
    · calc name = name.reverse.reverse := (List.reverse_reverse name).symm
        _ = (name.reverse.takeWhile (· != dot) ++ dot :: reversedStem).reverse := by rw [whole]
        _ = stem ++ dot :: extension := by
          rw [List.reverse_append, List.reverse_cons, sameStem, sameExtension, List.append_assoc]
          rfl

theorem Path.extension_eq_some_iff (plain : dot ∉ extension) :
    (Path.splitExtension dot name).2 = some extension ↔ ∃ stem, stem ≠ [] ∧ name = stem ++ dot :: extension := by
  constructor
  · intro found
    exact ⟨_, Path.splitExtension_eq_some (Prod.ext rfl found)⟩
  · rintro ⟨stem, named, rfl⟩
    rw [Path.splitExtension_of_dot named plain]

end Extension

namespace Generation

open Store (Name)
open TemplateDirectory (sort register)
open TemplateFile (isTemplate registration registration?)

/-- What a file with a name registers: a template for types under its name without the extension `hbs`, or
one for whole schemas if `schema` stands before that. The name that is left may be empty then. -/
inductive Registers : Name → String → Catalog.Scope → Prop
  | type {stem : String} (named : stem ≠ "") (plain : ∀ base, stem ≠ base ++ ".schema") :
      Registers (stem ++ ".hbs" : String) stem .type
  | schema (base : String) : Registers (base ++ ".schema" ++ ".hbs" : String) base .schema

/-- Without the extension `hbs`, the name of a file is no text. -/
def IsPassedOver (name : Name) : Prop :=
  ∃ stem, name.bytes = stem ++ Text.bytes ".hbs" ∧ String.fromUTF8? ⟨stem.toArray⟩ = none

theorem splitExtension_hbs {stem : String} (named : stem ≠ "") :
    Path.splitExtension '.' (stem ++ ".hbs").toList = (stem.toList, some ['h', 'b', 's']) := by
  rw [String.toList_append]
  exact Path.splitExtension_of_dot (String.toList_eq_nil_iff.not.2 named) (by decide)

theorem isTemplate_text_iff {name : String} :
    isTemplate name = true ↔ ∃ stem, stem ≠ "" ∧ name = stem ++ ".hbs" := by
  show ((Path.splitExtension '.' name.toList).2 == some ['h', 'b', 's']) = true ↔ _
  rw [beq_iff_eq, Path.extension_eq_some_iff (by decide)]
  constructor
  · rintro ⟨stem, named, split⟩
    refine ⟨String.ofList stem, fun empty => named ?_, ?_⟩
    · rw [← String.toList_ofList (l := stem), empty]
      rfl
    · rw [← String.toList_inj, String.toList_append, String.toList_ofList]
      exact split
  · rintro ⟨stem, named, rfl⟩
    exact ⟨stem.toList, String.toList_eq_nil_iff.not.2 named, String.toList_append⟩

theorem isTemplate_raw_iff {bytes : List UInt8} {notText : String.fromUTF8? ⟨bytes.toArray⟩ = none} :
    isTemplate (.raw bytes notText) = true ↔ ∃ stem, stem ≠ [] ∧ bytes = stem ++ Text.bytes ".hbs" := by
  have ending : Text.bytes ".hbs" = 0x2E :: "hbs".toUTF8.data.toList := by decide +kernel
  show ((Path.splitExtension 0x2E bytes).2 == some "hbs".toUTF8.data.toList) = true ↔ _
  rw [beq_iff_eq, Path.extension_eq_some_iff (by decide +kernel), ending]

/-- A file is one of a template if its name is something before a dot and `hbs`, whether it is a text or not. -/
theorem isTemplate_iff {name : Name} :
    isTemplate name = true ↔ ∃ stem, stem ≠ [] ∧ name.bytes = stem ++ Text.bytes ".hbs" := by
  cases name with
  | raw bytes notText => exact isTemplate_raw_iff
  | text name =>
    rw [isTemplate_text_iff]
    constructor
    · rintro ⟨stem, named, rfl⟩
      exact ⟨Text.bytes stem, Text.bytes_eq_nil_iff.not.2 named, Text.bytes_append stem ".hbs"⟩
    · rintro ⟨front, named, split⟩
      obtain ⟨stem, rfl, rfl⟩ := Text.exists_of_bytes_eq_append (by simp) split
      exact ⟨stem, Text.bytes_eq_nil_iff.not.1 named, rfl⟩

theorem registration_hbs {stem : String} (named : stem ≠ "") :
    registration (stem ++ ".hbs") =
      if TemplateFile.schemaEnding.isPrefixOf stem.toList.reverse then
        (String.ofList (stem.toList.reverse.drop TemplateFile.schemaEnding.length).reverse, .schema)
      else (stem, .type) := by
  unfold registration
  rw [splitExtension_hbs named]
  dsimp only
  rw [String.ofList_toList]

theorem schemaEnding_isPrefixOf_iff {stem : String} :
    TemplateFile.schemaEnding.isPrefixOf stem.toList.reverse = true ↔ ∃ base, stem = base ++ ".schema" := by
  rw [List.isPrefixOf_iff_prefix, TemplateFile.schemaEnding, List.reverse_prefix]
  constructor
  · rintro ⟨base, split⟩
    refine ⟨String.ofList base, ?_⟩
    rw [← String.toList_inj, String.toList_append, String.toList_ofList, split]
  · rintro ⟨base, rfl⟩
    exact ⟨base.toList, String.toList_append.symm⟩

theorem registration_type {stem : String} (named : stem ≠ "") (plain : ∀ base, stem ≠ base ++ ".schema") :
    registration (stem ++ ".hbs") = (stem, .type) := by
  rw [registration_hbs named, if_neg]
  exact fun ending => (schemaEnding_isPrefixOf_iff.1 ending).elim plain

theorem append_schema_ne_empty (base : String) : base ++ ".schema" ≠ "" := by
  intro empty
  have letters := congrArg String.toList empty
  rw [String.toList_append] at letters
  exact absurd (List.append_eq_nil_iff.1 letters).2 (by decide)

theorem registration_schema (base : String) :
    registration (base ++ ".schema" ++ ".hbs") = (base, .schema) := by
  have reversed : (base ++ ".schema").toList.reverse = TemplateFile.schemaEnding ++ base.toList.reverse := by
    rw [String.toList_append, List.reverse_append, TemplateFile.schemaEnding]
  rw [registration_hbs (append_schema_ne_empty base), if_pos (schemaEnding_isPrefixOf_iff.2 ⟨base, rfl⟩),
    reversed, List.drop_left, List.reverse_reverse, String.ofList_toList]

theorem registers_iff {file : Name} {name : String} {scope : Catalog.Scope} :
    Registers file name scope ↔ isTemplate file = true ∧ registration? file = some (name, scope) := by
  constructor
  · intro registers
    cases registers with
    | type named plain =>
      exact ⟨isTemplate_text_iff.2 ⟨name, named, rfl⟩, congrArg some (registration_type named plain)⟩
    | schema =>
      exact ⟨isTemplate_text_iff.2 ⟨_, append_schema_ne_empty name, rfl⟩, congrArg some (registration_schema name)⟩
  · rintro ⟨template, same⟩
    cases file with
    | raw => cases same
    | text file =>
      obtain ⟨stem, named, rfl⟩ := isTemplate_text_iff.1 template
      injection same with same
      by_cases ending : ∃ base, stem = base ++ ".schema"
      · obtain ⟨base, rfl⟩ := ending
        cases (registration_schema base).symm.trans same
        exact .schema name
      · cases (registration_type named (not_exists.1 ending)).symm.trans same
        exact .type named (not_exists.1 ending)

theorem Registers.unique {file : Name} {name other : String} {scope otherScope : Catalog.Scope}
    (registers : Registers file name scope) (same : Registers file other otherScope) :
    name = other ∧ scope = otherScope := by
  have found := (registers_iff.1 registers).2.symm.trans (registers_iff.1 same).2
  injection found with found
  exact Prod.mk.inj found

theorem isPassedOver_iff {name : Name} (template : isTemplate name = true) :
    IsPassedOver name ↔ registration? name = none := by
  cases name with
  | text name =>
    refine ⟨?_, nofun⟩
    rintro ⟨front, split, notText⟩
    obtain ⟨stem, -, rfl⟩ := Text.exists_of_bytes_eq_append (by simp) split
    cases (Name.fromUTF8?_bytes_text stem).symm.trans notText
  | raw bytes notText =>
    refine ⟨fun _ => rfl, fun _ => ?_⟩
    obtain ⟨stem, -, split⟩ := isTemplate_raw_iff.1 template
    refine ⟨stem, split, ?_⟩
    cases decoded : String.fromUTF8? ⟨stem.toArray⟩ with
    | none => rfl
    | some text =>
      have whole : bytes = (Name.text (text ++ ".hbs")).bytes := by
        rw [split, Name.bytes_of_fromUTF8? decoded]
        exact (Text.bytes_append text ".hbs").symm
      rw [whole, Name.fromUTF8?_bytes_text] at notText
      cases notText

/-- What a file enters into a catalog: its nodes, under the name and the scope that its own name says. -/
inductive Enters (file : TemplateFile) : String × Catalog.Entry → Prop
  | intro {name text : String} {scope : Catalog.Scope} {nodes : List Template.Node}
      (registers : Registers file.name name scope) (readable : file.text = .ok text)
      (template : Template.read text = .ok nodes) : Enters file (name, .template scope nodes)

section Files

variable {path name : String} {catalog : Catalog} {file : TemplateFile} {files rest : List TemplateFile}
  {item : String × Catalog.Entry} {items : List (String × Catalog.Entry)} {error : Error}

theorem Enters.registers (enters : Enters file item) : ∃ scope, Registers file.name item.1 scope := by
  cases enters with
  | intro registers => exact ⟨_, registers⟩

theorem Enters.register_cons (enters : Enters file item) (path : String) (catalog : Catalog)
    (rest : List TemplateFile) :
    register path catalog (file :: rest) = register path (catalog.put item.1 item.2) rest := by
  cases enters with
  | intro registers readable template =>
    rw [TemplateDirectory.register_cons, (registers_iff.1 registers).2, readable]
    dsimp only [Catalog.registerTemplate]
    rw [template]

theorem FileFault.register_cons (fault : FileFault path file error) (catalog : Catalog)
    (rest : List TemplateFile) : register path catalog (file :: rest) = (catalog, .error error) := by
  cases fault with
  | unreadable registers failed => rw [TemplateDirectory.register_cons, registers, failed]
  | malformed registers readable rejected =>
    rw [TemplateDirectory.register_cons, registers, readable]
    dsimp only [Catalog.registerTemplate]
    rw [rejected]

def registering (files : List TemplateFile) : List TemplateFile :=
  files.filter fun file => (registration? file.name).isSome

theorem mem_registering : file ∈ registering files ↔ file ∈ files ∧ registration? file.name ≠ none := by
  rw [registering, List.mem_filter, Option.isSome_iff_ne_none]

@[simp] theorem registering_append (files rest : List TemplateFile) :
    registering (files ++ rest) = registering files ++ registering rest :=
  List.filter_append files rest

theorem registering_cons_of_registers {scope : Catalog.Scope} (registers : Registers file.name name scope)
    (rest : List TemplateFile) : registering (file :: rest) = file :: registering rest := by
  rw [registering, List.filter_cons_of_pos]
  · rfl
  · rw [(registers_iff.1 registers).2]
    rfl

/-- Files that register nothing leave no trace. -/
theorem register_registering (path : String) (catalog : Catalog) (files rest : List TemplateFile) :
    register path catalog (files ++ rest) = register path catalog (registering files ++ rest) := by
  induction files generalizing catalog with
  | nil => rfl
  | cons file files ih =>
    cases registers : registration? file.name with
    | none =>
      have passed : registering (file :: files) = registering files :=
        List.filter_cons_of_neg (by simp [registers])
      rw [passed, List.cons_append, register_cons_of_passed registers, ih]
    | some registered =>
      have kept : registering (file :: files) = file :: registering files :=
        List.filter_cons_of_pos (by simp [registers])
      rw [kept, List.cons_append, List.cons_append, TemplateDirectory.register_cons,
        TemplateDirectory.register_cons, registers]
      simp only [ih]

theorem exists_enters (template : isTemplate file.name = true) (registers : registration? file.name ≠ none)
    (sound : ∀ error, ¬ FileFault path file error) : ∃ item, Enters file item := by
  obtain ⟨⟨name, scope⟩, registered⟩ := Option.ne_none_iff_exists'.1 registers
  cases readable : file.text with
  | error cause => exact absurd (.unreadable registered readable) (sound _)
  | ok text =>
    cases read : Template.read text with
    | error fault => exact absurd (.malformed registered readable read) (sound _)
    | ok nodes => exact ⟨_, .intro (registers_iff.2 ⟨template, registered⟩) readable read⟩

theorem exists_forall₂_enters (each : ∀ file ∈ files, ∃ item, Enters file item) :
    ∃ items, List.Forall₂ Enters files items := by
  induction files with
  | nil => exact ⟨[], .nil⟩
  | cons file rest ih =>
    rw [List.forall_mem_cons] at each
    obtain ⟨item, enters⟩ := each.1
    obtain ⟨items, entered⟩ := ih each.2
    exact ⟨item :: items, .cons enters entered⟩

theorem enters_of_mem_registering (template : ∀ file ∈ files, isTemplate file.name = true)
    (sound : ∀ file ∈ files, ∀ error, ¬ FileFault path file error) :
    ∀ file ∈ registering files, ∃ item, Enters file item := by
  intro file mem
  obtain ⟨mem, registers⟩ := mem_registering.1 mem
  exact exists_enters (template file mem) registers (sound file mem)

theorem register_append (entered : List.Forall₂ Enters files items) (path : String) (catalog : Catalog)
    (rest : List TemplateFile) :
    register path catalog (files ++ rest) = register path (catalog.putAll items) rest := by
  induction entered generalizing catalog with
  | nil => rfl
  | cons enters entered ih =>
    rw [List.cons_append, enters.register_cons, ih]
    rfl

theorem absent_of_entered (entered : List.Forall₂ Enters files items)
    (absent : ∀ file ∈ files, ∀ scope, ¬ Registers file.name name scope) : ∀ item ∈ items, item.1 ≠ name := by
  induction entered with
  | nil => exact nofun
  | cons enters entered ih =>
    rw [List.forall_mem_cons] at absent ⊢
    obtain ⟨scope, registers⟩ := enters.registers
    exact ⟨fun same => absent.1 scope (same ▸ registers), ih absent.2⟩

theorem Enters.unique {entry : Catalog.Entry} (enters : Enters file item) (same : Enters file (name, entry)) :
    item = (name, entry) := by
  cases enters with
  | intro registers readable template =>
    cases same with
    | intro otherRegisters otherReadable otherTemplate =>
      obtain ⟨rfl, rfl⟩ := registers.unique otherRegisters
      cases readable.symm.trans otherReadable
      cases template.symm.trans otherTemplate
      rfl

/-- The last file that registers a name decides what stands under it. -/
theorem lookup_entered_of_last {before later : List TemplateFile} {entry : Catalog.Entry}
    (entered : List.Forall₂ Enters (before ++ file :: later) items) (enters : Enters file (name, entry))
    (last : ∀ other ∈ later, ∀ scope, ¬ Registers other.name name scope) :
    (catalog.putAll items).entries.lookup name = some entry := by
  induction before generalizing catalog items with
  | nil =>
    obtain ⟨own, following, same, tail, rfl⟩ := List.forall₂_cons_left_iff.1 entered
    rw [same.unique enters]
    have kept : ((catalog.put name entry).putAll following).entries.lookup name =
        (catalog.put name entry).entries.lookup name :=
      Catalog.lookup_putAll_of_absent (absent_of_entered tail last)
    refine kept.trans ?_
    rw [Catalog.put_entries, Catalog.lookup_insert, if_pos rfl]
  | cons first before ih =>
    obtain ⟨other, following, -, tail, rfl⟩ := List.forall₂_cons_left_iff.1 entered
    show ((catalog.put other.1 other.2).putAll following).entries.lookup name = some entry
    exact ih tail

end Files

theorem exists_last {α : Type} (kind : α → Prop) {members : List α} {member : α} (mem : member ∈ members)
    (holds : kind member) :
    ∃ before last later, members = before ++ last :: later ∧ kind last ∧ ∀ other ∈ later, ¬ kind other := by
  obtain ⟨-, before, last, later, split, first, rfl, holds⟩ :
      ∃ last, FirstOf (fun other last => other = last ∧ kind other) members.reverse last :=
    exists_firstOf (List.mem_reverse.2 mem) ⟨rfl, holds⟩
  refine ⟨later.reverse, last, before.reverse, ?_, holds, fun other among another =>
    first other (List.mem_reverse.1 among) other ⟨rfl, another⟩⟩
  rw [← List.reverse_reverse members, split]
  simp

/-- The file of the template for types comes before that for whole schemas under the same name. -/
theorem single_lt_whole (name : String) :
    Name.text (name ++ ".hbs") < Name.text (name ++ ".schema" ++ ".hbs") := by
  apply Text.bytes_lt
  rw [String.append_assoc, String.lt_iff, String.toList_append, String.toList_append]
  exact List.append_left_lt (by decide)

theorem Registers.cases {file : Name} {name : String} {scope : Catalog.Scope}
    (registers : Registers file name scope) :
    file = .text (name ++ ".hbs") ∧ scope = .type ∨
      file = .text (name ++ ".schema" ++ ".hbs") ∧ scope = .schema := by
  cases registers with
  | type => exact .inl ⟨rfl, rfl⟩
  | schema => exact .inr ⟨rfl, rfl⟩

/-- A file of a template for whole schemas is after every other file that registers the same name. -/
theorem lookup_entered_of_schema {files : List TemplateFile} {items : List (String × Catalog.Entry)}
    {file : TemplateFile} {name : String} (ordered : files.Pairwise NotAfter)
    (entered : List.Forall₂ Enters files items) (enters : ∀ file ∈ files, ∃ item, Enters file item)
    (mem : file ∈ files) (named : file.name = .text (name ++ ".schema" ++ ".hbs")) (catalog : Catalog) :
    ∃ last ∈ files, last.name = file.name ∧ ∃ text nodes, last.text = .ok text ∧
      Template.read text = .ok nodes ∧
      (catalog.putAll items).entries.lookup name = some (.template .schema nodes) := by
  have registers : Registers file.name name .schema := by
    rw [named]
    exact .schema name
  obtain ⟨before, last, later, rfl, ⟨scope, lastRegisters⟩, after⟩ :=
    exists_last (fun other => ∃ scope, Registers other.name name scope) mem ⟨_, registers⟩
  have among : last ∈ before ++ last :: later := List.mem_append_right before List.mem_cons_self
  have same : last.name = file.name := by
    rcases lastRegisters.cases with ⟨single, -⟩ | ⟨whole, -⟩
    · -- the file in question cannot be before the last one, which comes first by its name
      have less : last.name < file.name := by
        rw [single, named]
        exact single_lt_whole name
      rcases List.mem_append.1 mem with earlier | further
      · exact absurd less ((List.pairwise_append.1 ordered).2.2 file earlier last List.mem_cons_self)
      · rcases List.mem_cons.1 further with rfl | further
        · rfl
        · exact absurd ⟨_, registers⟩ (after file further)
    · rw [whole, named]
  obtain ⟨item, own⟩ := enters last among
  cases own with
  | @intro registered text scope nodes ownRegisters readable template =>
    rw [same] at ownRegisters
    obtain ⟨rfl, rfl⟩ := registers.unique ownRegisters
    have lastEnters : Enters last (name, .template .schema nodes) :=
      .intro (same ▸ registers) readable template
    exact ⟨last, among, same, text, nodes, readable, template,
      lookup_entered_of_last entered lastEnters fun other mem scope registers => after other mem ⟨scope, registers⟩⟩

/-- A directory's template files are taken in the order of the bytes of their names, whatever the order in
which it lists them. A file whose name is no text before its extension is passed over. If none of the others is
faulty, each of them is entered under the name and the scope that its own name says, the number of all files
is reported, and what stands under a name is what the last file that registers it enters; other names keep
what they had. A file of a template for whole schemas is after that of a template for types. If a file is
faulty, what is reported is what is wrong with the first such file, and exactly the files before it are
entered. -/
theorem load_in_byte_order {store : Store} {path : String} {names : List Name}
    (listed : store.listDirectory path = .ok names) (catalog : Catalog) :
    (∀ other others, Store.listDirectory other path = .ok others → others.Perm names →
      (∀ name : String, .text name ∈ names → isTemplate name = true →
        other.readText (Path.join path name) = store.readText (Path.join path name)) →
      (TemplateDirectory.ofStore other path).load catalog =
        (TemplateDirectory.ofStore store path).load catalog) ∧
    ∃ files : List TemplateFile,
      (files.Pairwise fun file other => file.name.bytes ≤ other.name.bytes) ∧
      (files.map (·.name)).Perm (names.filter isTemplate) ∧
      (∀ name, isTemplate name = true ↔ ∃ stem, stem ≠ [] ∧ name.bytes = stem ++ Text.bytes ".hbs") ∧
      (∀ file ∈ files, file ∉ registering files ∧ IsPassedOver file.name ∨
        file ∈ registering files ∧ ∃ name : String, file.name = .text name ∧
          file.text = store.readText (Path.join path name) ∧
          Registers name (registration name).1 (registration name).2) ∧
      ((∀ file ∈ files, ∀ error, ¬ FileFault path file error) →
        ∃ items, List.Forall₂ Enters (registering files) items ∧
          (TemplateDirectory.ofStore store path).load catalog = (catalog.putAll items, .ok files.length) ∧
          ∀ name,
            (∀ before file later entry, files = before ++ file :: later → Enters file (name, entry) →
              (∀ other ∈ later, ∀ scope, ¬ Registers other.name name scope) →
              (catalog.putAll items).entries.lookup name = some entry) ∧
            ((∀ file ∈ files, ∀ scope, ¬ Registers file.name name scope) →
              (catalog.putAll items).entries.lookup name = catalog.entries.lookup name) ∧
            (.text (name ++ ".schema" ++ ".hbs") ∈ names → ∃ text nodes,
              store.readText (Path.join path (name ++ ".schema" ++ ".hbs")) = .ok text ∧
                Template.read text = .ok nodes ∧
                (catalog.putAll items).entries.lookup name = some (.template .schema nodes))) ∧
      ∀ before file later error, files = before ++ file :: later →
        (∀ other ∈ before, ∀ reason, ¬ FileFault path other reason) → FileFault path file error →
        ∃ items, List.Forall₂ Enters (registering before) items ∧
          (TemplateDirectory.ofStore store path).load catalog = (catalog.putAll items, .error error) := by
  have loads : (TemplateDirectory.ofStore store path).load catalog =
      ((register path catalog (sort (templateFiles store path names))).1,
        (register path catalog (sort (templateFiles store path names))).2.map
          fun () => (sort (templateFiles store path names)).length) := by
    rw [load_of_listed listed, (perm_sort _).length_eq]
  have perm := perm_sort (templateFiles store path names)
  have ordered := pairwise_sort (templateFiles store path names)
  have mem {file : TemplateFile} : file ∈ sort (templateFiles store path names) ↔ file.name ∈ names ∧
      isTemplate file.name = true ∧ file.text = store.readNamed path file.name :=
    perm.mem_iff.trans mem_templateFiles
  -- from here on, only the order and the members of the sorted files count
  generalize sort (templateFiles store path names) = files at loads perm ordered mem
  have template : ∀ file ∈ files, isTemplate file.name = true := fun file among => (mem.1 among).2.1
  refine ⟨fun other others otherListed relisted same => ?_, files, ?_, ?_, fun name => isTemplate_iff,
    fun file among => ?_, fun sound => ?_, ?_⟩
  · refine load_eq_of_perm otherListed listed (templateFiles_perm (relisted.filter _) fun name mem template => ?_) _
    exact same name (relisted.mem_iff.1 mem) template
  · exact ordered.imp fun notAfter => List.not_lt.1 notAfter
  · refine (perm.map _).trans (.of_eq ?_)
    rw [templateFiles, List.map_map]
    exact List.map_id _
  · obtain ⟨-, isTemplate, text⟩ := mem.1 among
    rw [mem_registering]
    cases named : file.name with
    | raw bytes notText =>
      rw [named] at isTemplate
      exact .inl ⟨fun registering => registering.2 rfl, (isPassedOver_iff isTemplate).2 rfl⟩
    | text name =>
      rw [named] at isTemplate text
      exact .inr ⟨⟨among, nofun⟩, name, rfl, text, registers_iff.2 ⟨isTemplate, rfl⟩⟩
  · have enters := enters_of_mem_registering template sound
    obtain ⟨items, entered⟩ := exists_forall₂_enters enters
    have registered : register path catalog files = (catalog.putAll items, .ok ()) := by
      have all := (register_registering path catalog files []).trans (register_append entered path catalog [])
      rw [List.append_nil] at all
      exact all
    refine ⟨items, entered, ?_, fun name => ⟨?_, fun absent => ?_, fun there => ?_⟩⟩
    · rw [loads, registered]
      rfl
    · rintro before file later entry rfl enters last
      obtain ⟨scope, registers⟩ := enters.registers
      rw [registering_append, registering_cons_of_registers registers] at entered
      exact lookup_entered_of_last entered enters fun other among => last other (mem_registering.1 among).1
    · exact Catalog.lookup_putAll_of_absent
        (absent_of_entered entered fun file among => absent file (mem_registering.1 among).1)
    · have registers : Registers (.text (name ++ ".schema" ++ ".hbs")) name .schema := .schema name
      have among : ⟨.text (name ++ ".schema" ++ ".hbs"),
          store.readText (Path.join path (name ++ ".schema" ++ ".hbs"))⟩ ∈ registering files :=
        mem_registering.2 ⟨mem.2 ⟨there, (registers_iff.1 registers).1, rfl⟩, nofun⟩
      obtain ⟨last, lastAmong, same, text, nodes, readable, read, found⟩ :=
        lookup_entered_of_schema (ordered.filter _) entered enters among rfl catalog
      rw [(mem.1 (mem_registering.1 lastAmong).1).2.2, same] at readable
      exact ⟨text, nodes, readable, read, found⟩
  · rintro before file later error rfl sound fault
    obtain ⟨items, entered⟩ := exists_forall₂_enters
      (enters_of_mem_registering (fun other among => template other (List.mem_append_left _ among)) sound)
    refine ⟨items, entered, ?_⟩
    rw [loads, register_registering, register_append entered, fault.register_cons]
    rfl

/-- Two files that register one name, the one for whole schemas listed first, and one whose name is no text,
which is no template. -/
def clashingDirectory : Store :=
  .directory [("templates", .directory [(.text "n.schema.hbs", .file "whole".toUTF8),
    (unnamed, .file "\x7b\x7b".toUTF8), (.text "notes.txt", .file "".toUTF8),
    (.text "n.hbs", .file "single".toUTF8)])]

/-- A file that ends inside a tag. -/
def brokenDirectory : Store :=
  .directory [("templates", .directory [(.text "n.hbs", .file "\x7b\x7b".toUTF8)])]

theorem sound_clashingDirectory {name : String} {file : TemplateFile}
    (among : name ∈ ["n.schema.hbs", "n.hbs"])
    (text : file.text = clashingDirectory.readText (Path.join "templates" name)) (error : Error) :
    ¬ FileFault "templates" file error := by
  have readable : ∃ content, file.text = .ok content ∧ (Template.read content).isOk = true := by
    rcases List.mem_pair.1 among with same | same
    · refine ⟨"whole", text.trans ?_, by decide +kernel⟩
      rw [same]
      decide +kernel
    · refine ⟨"single", text.trans ?_, by decide +kernel⟩
      rw [same]
      decide +kernel
  obtain ⟨content, readable, accepted⟩ := readable
  intro fault
  cases fault with
  | unreadable _ failed => cases readable.symm.trans failed
  | malformed _ otherReadable rejected =>
    cases readable.symm.trans otherReadable
    rw [rejected] at accepted
    cases accepted

theorem load_in_byte_order_of_clashingDirectory :
    clashingDirectory.listDirectory "templates" =
        .ok [.text "n.schema.hbs", unnamed, .text "notes.txt", .text "n.hbs"] ∧
      ((TemplateDirectory.ofStore clashingDirectory "templates").load .standard).2 = .ok 3 ∧
      ((TemplateDirectory.ofStore clashingDirectory "templates").load .standard).1.scope "n" = .ok .schema ∧
      brokenDirectory.listDirectory "templates" = .ok [.text "n.hbs"] ∧
      ∃ fault, (TemplateDirectory.ofStore brokenDirectory "templates").load .standard =
        (.standard, .error (.malformed "n" fault)) := by
  have listed : clashingDirectory.listDirectory "templates" =
      .ok [.text "n.schema.hbs", unnamed, .text "notes.txt", .text "n.hbs"] := by
    decide +kernel
  have otherListed : brokenDirectory.listDirectory "templates" = .ok [.text "n.hbs"] := by decide +kernel
  have chosen : [.text "n.schema.hbs", unnamed, .text "notes.txt", .text "n.hbs"].filter isTemplate =
      [.text "n.schema.hbs", unnamed, .text "n.hbs"] := by
    decide +kernel
  have otherChosen : [Name.text "n.hbs"].filter isTemplate = [.text "n.hbs"] := by decide +kernel
  obtain ⟨-, files, -, perm, -, each, loaded, -⟩ := load_in_byte_order listed .standard
  obtain ⟨-, otherFiles, -, otherPerm, -, otherEach, -, failed⟩ := load_in_byte_order otherListed .standard
  rw [chosen] at perm
  rw [otherChosen, List.perm_singleton, List.map_eq_singleton_iff] at otherPerm
  obtain ⟨items, -, loads, found⟩ := loaded fun file mem error fault => by
    rcases each file mem with ⟨passed, -⟩ | ⟨-, name, named, text, -⟩
    · exact passed (mem_registering.2 ⟨mem, fault.registers⟩)
    · have among := perm.mem_iff.1 (List.mem_map_of_mem mem)
      rw [named] at among
      have known : name ∈ ["n.schema.hbs", "n.hbs"] := by simpa [unnamed] using among
      exact sound_clashingDirectory known text error fault
  have number := perm.length_eq
  rw [List.length_map] at number
  refine ⟨listed, ?_, ?_, otherListed, ?_⟩
  · rw [loads, number]
    rfl
  · obtain ⟨text, nodes, -, -, entered⟩ := (found "n").2.2 List.mem_cons_self
    rw [loads, Catalog.scope, Catalog.entry_of_lookup entered]
    rfl
  · obtain ⟨file, rfl, named⟩ := otherPerm
    have refused : (Template.read "\x7b\x7b").isOk = false := by decide +kernel
    have registers : registration? file.name = some ("n", .type) := by
      rw [named]
      decide +kernel
    have readable : file.text = .ok "\x7b\x7b" := by
      rcases otherEach file List.mem_cons_self with ⟨passed, -⟩ | ⟨-, name, same, text, -⟩
      · exact absurd (mem_registering.2 ⟨List.mem_cons_self, by simp [registers]⟩) passed
      · cases named.symm.trans same
        rw [text]
        decide +kernel
    cases read : Template.read "\x7b\x7b" with
    | ok nodes =>
      rw [read] at refused
      cases refused
    | error fault =>
      obtain ⟨items, entered, loads⟩ := failed [] file [] _ rfl (by simp) (.malformed registers readable read)
      cases entered
      exact ⟨fault, loads⟩

/-- A file whose name is no text, and one whose name is nothing but the extension; both hold a template. -/
def passedDirectory : Store :=
  .directory [("templates", .directory [(unnamed, .file "plain".toUTF8), (.text ".hbs", .file "plain".toUTF8)])]

/-- The first file counts and is not entered; the second one is not even counted. -/
theorem counted_without_entering :
    passedDirectory.listDirectory "templates" = .ok [unnamed, .text ".hbs"] ∧
      (Template.read "plain").isOk = true ∧
      isTemplate unnamed = true ∧ isTemplate ".hbs" = false ∧
      (TemplateDirectory.ofStore passedDirectory "templates").load .standard = (.standard, .ok 1) := by
  have listed : passedDirectory.listDirectory "templates" = .ok [unnamed, .text ".hbs"] := by decide +kernel
  have chosen : [unnamed, .text ".hbs"].filter isTemplate = [unnamed] := by decide +kernel
  have files : templateFiles passedDirectory "templates" [unnamed, .text ".hbs"] =
      [⟨unnamed, .error .notText⟩] := by
    rw [templateFiles, chosen]
    rfl
  refine ⟨listed, by decide +kernel, by decide +kernel, by decide +kernel, ?_⟩
  rw [load_of_listed listed, files]
  rfl

end Generation

end FieldTypes
