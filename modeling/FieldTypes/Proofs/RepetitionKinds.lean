import FieldTypes.Proofs.StrictReading

set_option autoImplicit false

namespace FieldTypes

namespace RepeatedKey

/-- The collections of declarations in a document, by the path of their object, and what their keys name. An
entry of a collection is led to by its name or its position. -/
inductive Collects : List String → Kind → Prop
  | primitives : Collects ["primitive_types"] .primitiveType
  | types : Collects ["types"] .type
  | fields (type : String) : Collects ["types", type, "fields"] .field
  | params (type field : String) : Collects ["types", type, "fields", field, "params"] .param

/-- The object is no collection but stands under the key of one. -/
def Misplaced (path : List String) : Prop :=
  (∀ kind, ¬ Collects path kind) ∧
    ∃ collection, path.getLast? = some collection ∧ Kind.ofCollection? collection ≠ none

variable {repeated : RepeatedKey} {named : Kind}

theorem collects_primitiveType_iff {path : List String} :
    Collects path .primitiveType ↔ path = ["primitive_types"] := by
  refine ⟨fun collects => ?_, fun same => same ▸ .primitives⟩
  cases collects
  rfl

theorem collects_type_iff {path : List String} : Collects path .type ↔ path = ["types"] := by
  refine ⟨fun collects => ?_, fun same => same ▸ .types⟩
  cases collects
  rfl

theorem collects_field_iff {path : List String} :
    Collects path .field ↔ ∃ type, path = ["types", type, "fields"] := by
  refine ⟨fun collects => ?_, fun ⟨type, same⟩ => same ▸ .fields type⟩
  cases collects
  exact ⟨_, rfl⟩

theorem collects_param_iff {path : List String} :
    Collects path .param ↔ ∃ type field, path = ["types", type, "fields", field, "params"] := by
  refine ⟨fun collects => ?_, fun ⟨type, field, same⟩ => same ▸ .params type field⟩
  cases collects
  exact ⟨_, _, rfl⟩

theorem Collects.ne_key {path : List String} (collects : Collects path named) : named ≠ .key := by
  cases collects <;> exact nofun

/-- The path to a collection alternates collections and the entries that lead to it. -/
theorem Collects.odd_length {path : List String} (collects : Collects path named) : path.length % 2 = 1 := by
  cases collects <;> simp only [List.length_cons, List.length_nil]

theorem kind_of_collects (collects : Collects repeated.path named) : repeated.kind = named := by
  obtain ⟨path, key⟩ := repeated
  cases collects <;> rfl

theorem ofCollection?_ne_key {collection : String} (found : Kind.ofCollection? collection = some named) :
    named ≠ .key := by
  rintro rfl
  unfold Kind.ofCollection? at found
  split_ifs at found <;> cases found

theorem kind_eq_key_iff : repeated.kind = .key ↔
    ∀ collection, repeated.path.getLast? = some collection → Kind.ofCollection? collection = none := by
  rw [RepeatedKey.kind]
  cases repeated.path.getLast? with
  | none => simp
  | some collection =>
    rw [Option.bind_some]
    cases found : Kind.ofCollection? collection with
    | none => simp [found]
    | some other => simp [found, ofCollection?_ne_key found]

theorem misplaced_iff :
    Misplaced repeated.path ↔ (∀ named, ¬ Collects repeated.path named) ∧ repeated.kind ≠ .key := by
  rw [Misplaced, ne_eq, kind_eq_key_iff]
  simp only [not_forall, exists_prop, ne_eq]

/-- Where no object is misplaced, the kind is that of the collection. -/
theorem kind_eq_iff (placed : ¬ Misplaced repeated.path) (declares : named ≠ .key) :
    repeated.kind = named ↔ Collects repeated.path named := by
  refine ⟨?_, kind_of_collects⟩
  rintro rfl
  by_contra other
  refine placed (misplaced_iff.2 ⟨fun named collects => ?_, declares⟩)
  rw [kind_of_collects collects] at other
  exact other collects

theorem kind_eq_key_iff_of_placed (placed : ¬ Misplaced repeated.path) :
    repeated.kind = .key ↔ ∀ named, ¬ Collects repeated.path named := by
  refine ⟨fun label named collects => ?_, fun none_ => ?_⟩
  · exact collects.ne_key ((kind_of_collects collects).symm.trans label)
  · by_contra declares
    exact placed (misplaced_iff.2 ⟨none_, declares⟩)

end RepeatedKey

namespace Document

open Json (Occurrence)
open Json.Reader (completedKeys)
open RepeatedKey (Collects Misplaced)

/-- The first repeated key of a text is reported with a kind. Unless its object is misplaced, that is the kind
of the declarations that the object collects, and `key` if it collects none; a misplaced object is always taken
for a collection. -/
theorem repetition_kind {text : String} {again : Occurrence}
    (first : FirstRepeated (completedKeys text) again) :
    ∃ kind context,
      (read text).mapError SchemaError.ofDocumentFault = .error (.duplicate kind again.key context) ∧
      (¬ Misplaced again.path →
        (kind = .primitiveType ↔ again.path = ["primitive_types"]) ∧
        (kind = .type ↔ again.path = ["types"]) ∧
        (kind = .field ↔ ∃ type, again.path = ["types", type, "fields"]) ∧
        (kind = .param ↔ ∃ type field, again.path = ["types", type, "fields", field, "params"]) ∧
        (kind = .key ↔ ∀ named, ¬ Collects again.path named)) ∧
      (Misplaced again.path → kind ≠ .key) := by
  refine ⟨RepeatedKey.kind ⟨again.path, again.key⟩, RepeatedKey.context ⟨again.path, again.key⟩, ?_,
    fun placed => ⟨?_, ?_, ?_, ?_, RepeatedKey.kind_eq_key_iff_of_placed placed⟩,
    fun misplaced => (RepeatedKey.misplaced_iff.1 misplaced).2⟩
  · rw [read_eq_strictly, firstRepeat_of_firstRepeated first]
    rfl
  · exact (RepeatedKey.kind_eq_iff placed (by decide)).trans RepeatedKey.collects_primitiveType_iff
  · exact (RepeatedKey.kind_eq_iff placed (by decide)).trans RepeatedKey.collects_type_iff
  · exact (RepeatedKey.kind_eq_iff placed (by decide)).trans RepeatedKey.collects_field_iff
  · exact (RepeatedKey.kind_eq_iff placed (by decide)).trans RepeatedKey.collects_param_iff

/-- A document that declares a param twice and goes wrong after that. -/
def twiceParam : String :=
  "\x7b\"types\": [\x7b\"fields\": \x7b\"f\": \x7b\"params\": \x7b\"p\": 1, \"p\": ]"

theorem repetition_kind_of_twiceParam :
    FirstRepeated (completedKeys twiceParam) ⟨["types", "0", "fields", "f", "params"], "p"⟩ ∧
      ∃ context, (read twiceParam).mapError SchemaError.ofDocumentFault =
        .error (.duplicate .param "p" context) := by
  have first : FirstRepeated (completedKeys twiceParam) ⟨["types", "0", "fields", "f", "params"], "p"⟩ :=
    ⟨[⟨[], "types"⟩, ⟨["types", "0"], "fields"⟩, ⟨["types", "0", "fields"], "f"⟩,
      ⟨["types", "0", "fields", "f"], "params"⟩, ⟨["types", "0", "fields", "f", "params"], "p"⟩], [],
      by decide +kernel, by decide, by decide⟩
  have placed : ¬ Misplaced ["types", "0", "fields", "f", "params"] :=
    fun misplaced => misplaced.1 .param (.params "0" "f")
  obtain ⟨kind, context, reported, labelled, -⟩ := repetition_kind first
  obtain ⟨-, -, -, param, -⟩ := labelled placed
  rw [param.2 ⟨"0", "f", rfl⟩] at reported
  exact ⟨first, context, reported⟩

/-- A type that is called `types` and repeats a key of its definition. -/
def typeOfTypes : String :=
  "\x7b\"types\": \x7b\"types\": \x7b\"fields\": \x7b\x7d, \"fields\": \x7b\x7d\x7d\x7d, \"root_type\": \"types\"\x7d"

/-- The key is said to name a type, though its object is a type and collects none. -/
theorem repetition_mislabelled_of_typeOfTypes :
    FirstRepeated (completedKeys typeOfTypes) ⟨["types", "types"], "fields"⟩ ∧
      (∀ kind, ¬ Collects ["types", "types"] kind) ∧
      (read typeOfTypes).mapError SchemaError.ofDocumentFault =
        .error (.duplicate .type "fields" "'/types'") := by
  refine ⟨⟨[⟨[], "types"⟩, ⟨["types"], "types"⟩, ⟨["types", "types"], "fields"⟩], [⟨[], "root_type"⟩],
    by decide +kernel, by decide, by decide⟩, fun kind collects => ?_, by decide +kernel⟩
  exact absurd collects.odd_length (by decide)

end Document

end FieldTypes
