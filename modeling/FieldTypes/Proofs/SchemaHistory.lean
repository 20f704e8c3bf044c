import FieldTypes.Proofs.NameIndex
import FieldTypes.Proofs.Results
import FieldTypes.Resolved
import Mathlib.Data.List.Induction

set_option autoImplicit false

namespace FieldTypes.Schema

/-- A change of a schema. Types are changed at their position; there is nothing to change beyond the last. -/
inductive Change where
  | addPrimitive (primitive : Primitive)
  | addType (type : TypeDecl)
  | addField (position : Nat) (field : Field)
  | renameType (position : Nat) (name : String)
  | setRoot (rootType : String)
  deriving DecidableEq, Repr

def apply (schema : Schema) : Change → Schema
  | .addPrimitive primitive => schema.addPrimitive primitive
  | .addType type => schema.addType type
  | .addField position field => schema.addField position field
  | .renameType position name => schema.renameType position name
  | .setRoot rootType => schema.setRoot rootType

def after (rootType : String) (history : List Change) : Schema := history.foldl apply (empty rootType)

def Change.addedType? : Change → Option TypeDecl
  | .addType type => some type
  | _ => none

def Change.root? : Change → Option String
  | .setRoot rootType => some rootType
  | _ => none

/-- What a change makes of the type at a position. -/
def Change.revise (position : Nat) (type : TypeDecl) : Change → TypeDecl
  | .addField other field =>
    if other = position then { type with fields := type.fields ++ [field] } else type
  | .renameType other name => if other = position then { type with name := name } else type
  | _ => type

def addedTypes (history : List Change) : List TypeDecl := history.filterMap Change.addedType?

/-- The root that was set last, if any was, or the one at the start. -/
def lastRoot (rootType : String) (history : List Change) : String :=
  (history.filterMap Change.root?).getLastD rootType

/-- The type added after one part of a history, as it is after the other part. Its position is the number
of types added before it. -/
def revised (before : List Change) (type : TypeDecl) (later : List Change) : TypeDecl :=
  later.foldl (Change.revise (addedTypes before).length) type

/-- The first time that a history adds a type under a name. -/
structure FirstAdded (history : List Change) (name : String) (before : List Change) (type : TypeDecl)
    (later : List Change) : Prop where
  split : history = before ++ .addType type :: later
  named : type.name = name
  first : ∀ other, .addType other ∈ before → other.name ≠ name

def Unrenamed (history : List Change) : Prop := ∀ position name, .renameType position name ∉ history

section History

variable {rootType name : String} {history before later : List Change} {type : TypeDecl}

@[simp] theorem after_append_singleton (rootType : String) (history : List Change) (change : Change) :
    after rootType (history ++ [change]) = (after rootType history).apply change :=
  List.foldl_append

@[simp] theorem addedTypes_append (first second : List Change) :
    addedTypes (first ++ second) = addedTypes first ++ addedTypes second :=
  List.filterMap_append

theorem mem_addedTypes : type ∈ addedTypes history ↔ .addType type ∈ history := by
  unfold addedTypes
  rw [List.mem_filterMap]
  constructor
  · rintro ⟨change, mem, added⟩
    cases change with
    | addType other =>
      cases added
      exact mem
    | _ => cases added
  · exact fun mem => ⟨_, mem, rfl⟩

theorem exists_firstAdded (mem : .addType type ∈ history) :
    ∃ before other later, FirstAdded history type.name before other later := by
  obtain ⟨other, before, change, later, split, first, rfl, named⟩ :
      ∃ other, FirstOf (fun change other => change = .addType other ∧ other.name = type.name) history other :=
    exists_firstOf mem ⟨rfl, rfl⟩
  exact ⟨before, other, later, split, named, fun another among same => first _ among another ⟨rfl, same⟩⟩

theorem primitives_apply (schema : Schema) (change : Change) {primitive : Primitive} :
    primitive ∈ (schema.apply change).primitives ↔
      primitive ∈ schema.primitives ∨ change = .addPrimitive primitive := by
  cases change with
  | addPrimitive other =>
    show primitive ∈ schema.primitives ++ [other] ↔ _
    rw [List.mem_append, List.mem_singleton, Change.addPrimitive.injEq, eq_comm]
  | _ => simp [apply, addType, addField, renameType, modifyType, setRoot]

theorem mem_primitives_after {primitive : Primitive} :
    primitive ∈ (after rootType history).primitives ↔ .addPrimitive primitive ∈ history := by
  induction history using List.reverseRecOn with
  | nil => exact ⟨nofun, nofun⟩
  | append_singleton history change ih =>
    rw [after_append_singleton, primitives_apply, ih, List.mem_append, List.mem_singleton, eq_comm]

theorem rootType_after (rootType : String) (history : List Change) :
    (after rootType history).rootType = lastRoot rootType history := by
  induction history using List.reverseRecOn with
  | nil => rfl
  | append_singleton history change ih =>
    rw [after_append_singleton, lastRoot, List.filterMap_append]
    cases change with
    | setRoot other => exact (List.getLastD_concat ..).symm
    | _ => exact ih.trans (congrArg (·.getLastD rootType) (List.append_nil _).symm)

/-- Types are never removed, so they stand at the positions at which they were added. -/
theorem length_types_after (rootType : String) (history : List Change) :
    (after rootType history).types.length = (addedTypes history).length := by
  induction history using List.reverseRecOn with
  | nil => rfl
  | append_singleton history change ih =>
    rw [after_append_singleton, addedTypes_append, List.length_append, ← ih]
    cases change with
    | addType type => exact List.length_append
    | addField position field => exact List.length_modify ..
    | renameType position name => exact List.length_modify ..
    | _ => rfl

theorem lookup_nameIndex_after (rootType : String) (history : List Change) (name : String) :
    (after rootType history).nameIndex.lookup name =
      (addedTypes history).findIdx? (·.name == name) := by
  induction history using List.reverseRecOn with
  | nil => rfl
  | append_singleton history change ih =>
    rw [after_append_singleton, addedTypes_append]
    cases change with
    | addType type => exact lookup_nameIndex_addType_of ih (length_types_after rootType history) type
    | _ =>
      rw [show addedTypes [_] = [] from rfl, List.append_nil]
      exact ih

theorem types_apply_of_getElem? {schema : Schema} {position : Nat}
    (there : schema.types[position]? = some type) (change : Change) :
    (schema.apply change).types[position]? = some (change.revise position type) := by
  have modified (other : Nat) (edit : TypeDecl → TypeDecl) :
      (schema.types.modify other edit)[position]? =
        some (if other = position then edit type else type) := by
    rw [List.getElem?_modify, there]
    by_cases same : other = position
    · simp [same]
    · simp [same]
  cases change with
  | addType other =>
    exact List.getElem?_append_left (List.getElem?_eq_some_iff.1 there).1 ▸ there
  | addField other field => exact modified other _
  | renameType other name => exact modified other _
  | _ => exact there

/-- A type stands at its position as the history since it was added has made it. -/
theorem types_after_getElem? (rootType : String) (before : List Change) (type : TypeDecl)
    (later : List Change) :
    (after rootType (before ++ .addType type :: later)).types[(addedTypes before).length]? =
      some (revised before type later) := by
  induction later using List.reverseRecOn with
  | nil =>
    rw [after_append_singleton, ← length_types_after rootType before]
    exact List.getElem?_concat_length
  | append_singleton later change ih =>
    rw [← List.cons_append, ← List.append_assoc, after_append_singleton, revised, List.foldl_append]
    exact types_apply_of_getElem? ih change

theorem FirstAdded.findIdx? (added : FirstAdded history name before type later) :
    (addedTypes history).findIdx? (·.name == name) = some (addedTypes before).length := by
  have fresh : (addedTypes before).findIdx? (·.name == name) = none := by
    rw [List.findIdx?_eq_none_iff]
    exact fun other mem => beq_eq_false_iff_ne.2 (added.first other (mem_addedTypes.1 mem))
  rw [added.split, addedTypes_append, List.findIdx?_append, fresh, Option.none_or,
    show addedTypes (.addType type :: later) = type :: addedTypes later from rfl, List.findIdx?_cons,
    beq_iff_eq.2 added.named]
  simp

theorem FirstAdded.getType? (added : FirstAdded history name before type later) (rootType : String) :
    (after rootType history).getType? name = some (revised before type later) := by
  rw [Schema.getType?, lookup_nameIndex_after, added.findIdx?, Option.bind_some, added.split]
  exact types_after_getElem? rootType before type later

theorem hasType_after (rootType : String) :
    (after rootType history).hasType name = true ↔ ∃ type, .addType type ∈ history ∧ type.name = name := by
  rw [hasType, lookup_nameIndex_after, List.findIdx?_isSome, List.any_eq_true]
  simp only [mem_addedTypes, beq_iff_eq]

theorem hasPrimitive_after (rootType : String) :
    (after rootType history).hasPrimitive name = true ↔
      ∃ primitive, .addPrimitive primitive ∈ history ∧ primitive.name = name := by
  rw [hasPrimitive, List.any_eq_true]
  simp only [mem_primitives_after, beq_iff_eq]

/-- The resolved view searches its types; it finds what the index leads to. -/
theorem Built.getType?_resolve {schema : Schema} (built : Built schema) (name : String) :
    schema.resolve.getType? name = (schema.getType? name).map TypeDecl.resolve := by
  rw [ResolvedSchema.getType?, Schema.resolve, List.find?_map, built.getType?_eq_find?]
  rfl

theorem Unrenamed.front (unrenamed : Unrenamed (before ++ later)) : Unrenamed before :=
  fun position name mem => unrenamed position name (List.mem_append_left later mem)

/-- Without renamings, a schema is as if it had been built from its types as they are now. -/
theorem built_after (unrenamed : Unrenamed history) : Built (after rootType history) := by
  induction history using List.reverseRecOn with
  | nil => exact .empty rootType
  | append_singleton history change ih =>
    have built := ih unrenamed.front
    rw [after_append_singleton]
    cases change with
    | addPrimitive primitive => exact .addPrimitive primitive built
    | addType type => exact .addType type built
    | addField position field => exact built.modifyType position fun _ => rfl
    | renameType position name =>
      exact absurd (List.mem_append_right history List.mem_cons_self) (unrenamed position name)
    | setRoot rootType => exact built.setRoot rootType

end History

/-- After any history, a name is that of a type exactly if a type was added under it, and what is found
under the name is the first such type as the history since then has made it. Every type stands where it was
added, and the index never leads beyond the types. References are classified by the names that were added,
primitives first, and the root is what is found under the name set last. As long as no type is renamed, the
resolved view finds under every name what the schema finds there, and a schema is determined by its root, its
primitives and its types. -/
theorem lookups_follow_history (rootType : String) (history : List Change) :
    (∀ name, (after rootType history).hasType name = true ↔
      ∃ type, .addType type ∈ history ∧ type.name = name) ∧
    (∀ name found, (after rootType history).getType? name = some found ↔
      ∃ before type later, FirstAdded history name before type later ∧ found = revised before type later) ∧
    (∀ before type later, history = before ++ .addType type :: later →
      (after rootType history).types[(addedTypes before).length]? = some (revised before type later)) ∧
    (∀ name position, (after rootType history).nameIndex.lookup name = some position →
      position < (after rootType history).types.length) ∧
    (∀ name,
      ((after rootType history).referenceKind? name = some .primitive ↔
        ∃ primitive, .addPrimitive primitive ∈ history ∧ primitive.name = name) ∧
      ((after rootType history).referenceKind? name = some .type ↔
        (¬ ∃ primitive, .addPrimitive primitive ∈ history ∧ primitive.name = name) ∧
          ∃ type, .addType type ∈ history ∧ type.name = name)) ∧
    (after rootType history).root? = (after rootType history).getType? (lastRoot rootType history) ∧
    (Unrenamed history →
      (∀ name, (after rootType history).resolve.getType? name =
        ((after rootType history).getType? name).map TypeDecl.resolve) ∧
      ∀ otherRoot other, Unrenamed other →
        (after rootType history).primitives = (after otherRoot other).primitives →
        (after rootType history).types = (after otherRoot other).types →
        (after rootType history).rootType = (after otherRoot other).rootType →
        after rootType history = after otherRoot other) := by
  refine ⟨fun name => hasType_after rootType, ?_, ?_, ?_, ?_, ?_, fun unrenamed => ⟨fun name => ?_, ?_⟩⟩
  · intro name found
    constructor
    · intro lookup
      -- a position in the index was entered when a type was added under the name
      have known : (after rootType history).hasType name = true := by
        obtain ⟨position, indexed, -⟩ := Option.bind_eq_some_iff.1 lookup
        rw [hasType, indexed]
        rfl
      obtain ⟨type, mem, rfl⟩ := (hasType_after rootType).1 known
      obtain ⟨before, first, later, added⟩ := exists_firstAdded mem
      rw [added.getType?, Option.some.injEq] at lookup
      exact ⟨before, first, later, added, lookup.symm⟩
    · rintro ⟨before, type, later, added, rfl⟩
      exact added.getType? rootType
  · rintro before type later rfl
    exact types_after_getElem? rootType before type later
  · intro name position indexed
    rw [lookup_nameIndex_after] at indexed
    rw [length_types_after]
    exact (List.findIdx?_eq_some_iff_getElem.1 indexed).1
  · intro name
    rw [← hasPrimitive_after rootType, ← hasType_after rootType, referenceKind?]
    cases (after rootType history).hasPrimitive name <;> cases (after rootType history).hasType name <;> simp
  · rw [root?, rootType_after]
  · exact (built_after unrenamed).getType?_resolve name
  · intro otherRoot other otherUnrenamed primitives types root
    exact (built_after unrenamed).eq_of_parts (built_after otherUnrenamed) root primitives types

/-- The first type of a name gets another one, and a second type of the name is added. -/
def renamings : List Change :=
  [ .addPrimitive ⟨"Int", ""⟩, .addType ⟨"Point", "", []⟩, .renameType 0 "Spot"
  , .addType ⟨"Point", "later", []⟩, .addField 0 ⟨"x", "", "Int", false, false, []⟩, .setRoot "Point" ]

/-- Two types of one name, the second of which gets a field. -/
def repeatedAdditions : List Change :=
  [ .addType ⟨"Point", "", []⟩, .addType ⟨"Point", "later", []⟩
  , .addField 1 ⟨"x", "", "Int", false, false, []⟩, .setRoot "Line", .addPrimitive ⟨"Int", ""⟩ ]

def sameAdditions : List Change :=
  [ .addPrimitive ⟨"Int", ""⟩, .addType ⟨"Point", "", []⟩
  , .addType ⟨"Point", "later", [⟨"x", "", "Int", false, false, []⟩]⟩ ]

theorem unrenamed_repeatedAdditions : Unrenamed repeatedAdditions ∧ Unrenamed sameAdditions := by
  constructor <;> intro position name <;> simp [repeatedAdditions, sameAdditions]

/-- The old name still leads to the renamed type, the new name leads nowhere. -/
theorem lookups_follow_history_of_renamings :
    (after "Line" renamings).root? = some ⟨"Spot", "", [⟨"x", "", "Int", false, false, []⟩]⟩ ∧
      (after "Line" renamings).hasType "Spot" = false ∧
      (after "Line" renamings).referenceKind? "Point" = some .type ∧
      Unrenamed repeatedAdditions ∧ Unrenamed sameAdditions ∧
      after "Point" repeatedAdditions = after "Line" sameAdditions ∧
      (after "Point" repeatedAdditions).resolve.getType? "Point" =
        some (TypeDecl.resolve ⟨"Point", "", []⟩) := by
  obtain ⟨hasType, getType, -, -, kinds, root, -⟩ := lookups_follow_history "Line" renamings
  obtain ⟨-, found, -, -, -, -, unrenamed⟩ := lookups_follow_history "Point" repeatedAdditions
  obtain ⟨first, second⟩ := unrenamed_repeatedAdditions
  obtain ⟨resolved, determined⟩ := unrenamed first
  refine ⟨?_, ?_, (kinds "Point").2.2 ⟨?_, ?_⟩, first, second, determined "Line" _ second rfl rfl rfl, ?_⟩
  · rw [root]
    exact (getType "Point" _).2 ⟨[.addPrimitive ⟨"Int", ""⟩], ⟨"Point", "", []⟩, _, ⟨rfl, rfl, by simp⟩, rfl⟩
  · rw [← Bool.not_eq_true, hasType]
    simp [renamings]
  · simp [renamings]
  · exact ⟨⟨"Point", "", []⟩, by simp [renamings], rfl⟩
  · rw [resolved, (found "Point" _).2 ⟨[], ⟨"Point", "", []⟩, _, ⟨rfl, rfl, by simp⟩, rfl⟩]
    rfl

end FieldTypes.Schema
