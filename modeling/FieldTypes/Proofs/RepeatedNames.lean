import FieldTypes.Proofs.FirstOffence
import FieldTypes.Proofs.FirstRepetition
import FieldTypes.Proofs.KeyedForm
import FieldTypes.Proofs.Normalization
import Mathlib.Data.List.Induction

set_option autoImplicit false

namespace FieldTypes

/-- The entries of a collection under their names, each in the given form. Names may repeat. -/
def underNames (form : Nat → Json → Json) : Json → Json
  | .array items =>
    match items.mapM ownName? with
    | some names => .object (names.zip (items.mapIdx form))
    | none => .array items
  | .object members => .object (members.mapIdx fun position member => (member.1, form position member.2))
  | value => value

/-- Which entries keep a name of their own under their key. -/
structure KeptNames where
  primitives : Nat → Bool
  types : Nat → Bool
  /-- For the type at each position. -/
  fields : Nat → Nat → Bool

namespace KeptNames

def entry (keeps : Nat → Bool) (position : Nat) (entry : Json) : Json :=
  if keeps position then entry else withoutName entry

/-- A type with its fields under their names. -/
def withFields (kept : KeptNames) (position : Nat) : Json → Json
  | .object members => .object (changeMember "fields" (underNames (entry (kept.fields position))) members)
  | value => value

def typeEntry (kept : KeptNames) (position : Nat) (type : Json) : Json :=
  entry kept.types position (kept.withFields position type)

/-- The document with all its collections under names; params have no such form. -/
def fullyKeyed (kept : KeptNames) : Json → Json
  | .object members =>
    .object (changeMember "types" (underNames kept.typeEntry)
      (changeMember "primitive_types" (underNames (entry kept.primitives)) members))
  | value => value

end KeptNames

/-- The name stands twice among names of which no other is repeated. -/
def Twice (name : String) (names : List String) : Prop :=
  names.count name = 2 ∧ ∀ other, other ≠ name → names.count other ≤ 1

theorem Twice.split {name : String} {names : List String} (twice : Twice name names) :
    ∃ before after, names = before ++ name :: after ∧ name ∈ before ∧ before.Nodup := by
  have first : name ∈ names := List.count_pos_iff.1 (by rw [twice.1]; exact Nat.two_pos)
  obtain ⟨before, rest, rfl, new⟩ := List.eq_append_cons_of_mem first
  have again : name ∈ rest := by
    have count := twice.1
    rw [List.count_append, List.count_cons_self, List.count_eq_zero_of_not_mem new] at count
    exact List.count_pos_iff.1 (by omega)
  obtain ⟨between, after, rfl, apart⟩ := List.eq_append_cons_of_mem again
  refine ⟨before ++ name :: between, after, by simp, by simp, ?_⟩
  rw [List.nodup_iff_count_le_one]
  intro other
  by_cases same : other = name
  · refine Nat.le_of_eq ?_
    rw [same, List.count_append, List.count_cons_self, List.count_eq_zero_of_not_mem new,
      List.count_eq_zero_of_not_mem apart]
  · have bounded := twice.2 other same
    rw [← List.cons_append, ← List.append_assoc, List.count_append] at bounded
    omega

theorem Twice.declaration {α : Type} {names : α → String} {members : List α} {name : String}
    (twice : Twice name (members.map names)) :
    ∃ before member after, members = before ++ member :: after ∧ names member = name ∧ name ∈ before.map names := by
  obtain ⟨earlier, later, split, known, -⟩ := twice.split
  obtain ⟨before, rest, rfl, rfl, named⟩ := List.map_eq_append_iff.1 split
  obtain ⟨member, after, rfl, same, -⟩ := List.map_eq_cons_iff.1 named
  exact ⟨before, member, after, rfl, same, known⟩

namespace Schema

/-- Everything that is asked of the schema holds, except where this error is reported. -/
def HoldsBut (schema : Schema) (error : SchemaError) : Prop :=
  ∀ condition ∈ schema.conditions, condition.error ≠ error → condition.holds

/-- The schema has no fault but one name that is used twice, by two primitives, by two types or by two fields of
one type. -/
inductive SoundButFor (schema : Schema) : Kind → String → String → Prop
  | primitives {name : String} (twice : Twice name (schema.primitives.map (·.name)))
      (others : schema.HoldsBut (.duplicate .primitiveType name "schema")) :
      SoundButFor schema .primitiveType name "schema"
  | types {name : String} (twice : Twice name (schema.types.map (·.name)))
      (others : schema.HoldsBut (.duplicate .type name "schema")) : SoundButFor schema .type name "schema"
  | fields {type : TypeDecl} {name : String} (declared : type ∈ schema.types)
      (twice : Twice name (type.fields.map (·.name)))
      (others : schema.HoldsBut (.duplicate .field name s!"type '{type.name}'")) :
      SoundButFor schema .field name s!"type '{type.name}'"

section Conditions

variable {schema : Schema} {condition : Condition} {error : SchemaError}

theorem mem_conditions_of_type {before after : List TypeDecl} {type : TypeDecl}
    (split : schema.types = before ++ type :: after) (mem : condition ∈ TypeDecl.conditions schema before type) :
    condition ∈ schema.conditions := by
  rw [conditions, split]
  exact List.mem_append_right _ (List.mem_append_left _ (mem_inOrder mem))

theorem primitiveName_mem_conditions {before after : List Primitive} {primitive : Primitive}
    (split : schema.primitives = before ++ primitive :: after) :
    ⟨s!"primitive type '{primitive.name}'", primitive.name ∉ before.map (·.name),
      .duplicate .primitiveType primitive.name "schema"⟩ ∈ schema.conditions := by
  rw [conditions, split]
  exact List.mem_append_left _ (mem_inOrder (by simp [Primitive.conditions]))

theorem typeName_mem_conditions {before after : List TypeDecl} {type : TypeDecl}
    (split : schema.types = before ++ type :: after) :
    ⟨s!"type '{type.name}'", type.name ∉ before.map (·.name), .duplicate .type type.name "schema"⟩ ∈
      schema.conditions :=
  mem_conditions_of_type split (by simp [TypeDecl.conditions])

theorem fieldName_mem_conditions {type : TypeDecl} (declared : type ∈ schema.types) {before after : List Field}
    {field : Field} (split : type.fields = before ++ field :: after) :
    ⟨s!"type '{type.name}' field '{field.name}'", field.name ∉ before.map (·.name),
      .duplicate .field field.name s!"type '{type.name}'"⟩ ∈ schema.conditions := by
  obtain ⟨earlier, later, place⟩ := List.append_of_mem declared
  refine mem_conditions_of_type place (List.mem_append_right _ ?_)
  rw [split]
  exact mem_inOrder (by simp [Field.conditions])

theorem nodup_map_of_fresh {α : Type} {name : α → String} {members : List α}
    (fresh : ∀ before member after, members = before ++ member :: after → name member ∉ before.map name) :
    (members.map name).Nodup := by
  induction members using List.reverseRecOn with
  | nil => exact List.nodup_nil
  | append_singleton members last ih =>
    have rest : (members.map name).Nodup := ih fun before member after split =>
      fresh before member (after ++ [last]) (by rw [split, List.append_assoc, List.cons_append])
    rw [List.map_append, List.map_singleton]
    exact rest.append (List.nodup_singleton _) (List.disjoint_singleton.2 (fresh members last [] rfl))

theorem HoldsBut.primitiveNames (others : schema.HoldsBut error)
    (different : ∀ name, SchemaError.duplicate .primitiveType name "schema" ≠ error) :
    (schema.primitives.map (·.name)).Nodup :=
  nodup_map_of_fresh fun _ primitive _ split =>
    others _ (primitiveName_mem_conditions split) (different primitive.name)

theorem HoldsBut.typeNames (others : schema.HoldsBut error)
    (different : ∀ name, SchemaError.duplicate .type name "schema" ≠ error) :
    (schema.types.map (·.name)).Nodup :=
  nodup_map_of_fresh fun _ type _ split => others _ (typeName_mem_conditions split) (different type.name)

theorem HoldsBut.identifier (others : schema.HoldsBut error) {type : TypeDecl} (declared : type ∈ schema.types)
    (different : SchemaError.invalidIdentifier (.type type.name) type.name ≠ error) :
    isIdentifier type.name = true := by
  obtain ⟨before, after, split⟩ := List.append_of_mem declared
  exact others ⟨s!"type '{type.name}'", isIdentifier type.name = true, .invalidIdentifier (.type type.name) type.name⟩
    (mem_conditions_of_type split List.mem_cons_self) different

theorem HoldsBut.fieldNames (others : schema.HoldsBut error) {type : TypeDecl} (declared : type ∈ schema.types)
    (different : ∀ name, SchemaError.duplicate .field name s!"type '{type.name}'" ≠ error) :
    (type.fields.map (·.name)).Nodup :=
  nodup_map_of_fresh fun _ field _ split =>
    others _ (fieldName_mem_conditions declared split) (different field.name)

/-- Validation reports the name that is used twice. -/
theorem validate_of_soundButFor (built : Built schema) {kind : Kind} {name context : String}
    (fault : schema.SoundButFor kind name context) : schema.validate = .error (.duplicate kind name context) := by
  cases fault with
  | primitives twice others =>
    obtain ⟨before, primitive, after, split, rfl, known⟩ := twice.declaration
    exact built.reports_validate.error_of_only (primitiveName_mem_conditions split) (not_not_intro known) others
  | types twice others =>
    obtain ⟨before, type, after, split, rfl, known⟩ := twice.declaration
    exact built.reports_validate.error_of_only (typeName_mem_conditions split) (not_not_intro known) others
  | fields declared twice others =>
    obtain ⟨before, field, after, split, rfl, known⟩ := twice.declaration
    exact built.reports_validate.error_of_only (fieldName_mem_conditions declared split) (not_not_intro known) others

end Conditions

end Schema

section Listing

open Denotation Decoding

variable {α : Type} {denotes : Entry → α → Prop} {name : α → String}

/-- The entries under their names: each stands under the name of what it denotes. -/
structure Listing (form : Nat → Json → Json) (denotes : Entry → α → Prop) (name : α → String) (results : List α)
    (listed : Json.Members) : Prop where
  names : listed.map (·.1) = results.map name
  entries : ∀ member ∈ listed, ∃ result ∈ results, ∃ key entry position,
    member = (name result, form position entry) ∧ denotes (key, entry) result ∧ entry.KeysDistinct

theorem Listing.cons {form : Nat → Json → Json} {results : List α} {listed : Json.Members} {result : α}
    {key : Option String} {entry : Json} (denoted : denotes (key, entry) result) (distinct : entry.KeysDistinct)
    (others : Listing (fun position => form (position + 1)) denotes name results listed) :
    Listing form denotes name (result :: results) ((name result, form 0 entry) :: listed) := by
  refine ⟨?_, ?_⟩
  · rw [List.map_cons, List.map_cons, others.names]
  · intro member mem
    rcases List.mem_cons.1 mem with rfl | mem
    · exact ⟨result, List.mem_cons_self, key, entry, 0, rfl, denoted, distinct⟩
    · obtain ⟨other, found, key, entry, position, same, denoted, distinct⟩ := others.entries member mem
      exact ⟨other, List.mem_cons_of_mem result found, key, entry, position + 1, same, denoted, distinct⟩

theorem listing_items (named : ∀ key entry result, denotes (key, entry) result →
      ∃ members, entry = .object members ∧ Named members key (name result)) (form : Nat → Json → Json)
    {items : List Json} {results : List α} (meaning : List.Forall₂ denotes (items.map (none, ·)) results)
    (distinct : ∀ item ∈ items, item.KeysDistinct) :
    ∃ listed, underNames form (.array items) = .object listed ∧ Listing form denotes name results listed := by
  suffices read : items.mapM ownName? = some (results.map name) ∧
      Listing form denotes name results ((results.map name).zip (items.mapIdx form)) by
    refine ⟨_, ?_, read.2⟩
    simp only [underNames, read.1]
  induction items generalizing results form with
  | nil =>
    cases meaning
    exact ⟨rfl, rfl, fun _ mem => absurd mem List.not_mem_nil⟩
  | cons item items ih =>
    obtain ⟨result, others, denoted, more, rfl⟩ := List.forall₂_cons_left_iff.1 meaning
    rw [List.forall_mem_cons] at distinct
    obtain ⟨own, listing⟩ := ih (fun position => form (position + 1)) more distinct.2
    obtain ⟨members, rfl, given⟩ := named none item result denoted
    obtain ⟨value, found, rfl⟩ := named_none.1 given
    refine ⟨?_, ?_⟩
    · have first : ownName? (.object members) = some (name result) := by
        rw [ownName?, Json.get?, Json.asObject?, Option.bind_some, found.1]
        rfl
      rw [List.mapM_cons, first, own]
      rfl
    · rw [List.map_cons, List.mapIdx_cons, List.zip_cons_cons]
      exact .cons denoted distinct.1 listing

theorem listing_members (named : ∀ key entry result, denotes (key, entry) result →
      ∃ members, entry = .object members ∧ Named members key (name result)) (form : Nat → Json → Json)
    {members : Json.Members} {results : List α}
    (meaning : List.Forall₂ denotes (members.map fun (key, value) => (some key, value)) results)
    (distinct : ∀ member ∈ members, member.2.KeysDistinct) :
    ∃ listed, underNames form (.object members) = .object listed ∧ Listing form denotes name results listed := by
  refine ⟨_, rfl, ?_⟩
  induction members generalizing results form with
  | nil =>
    cases meaning
    exact ⟨rfl, fun _ mem => absurd mem List.not_mem_nil⟩
  | cons member members ih =>
    obtain ⟨key, entry⟩ := member
    obtain ⟨result, others, denoted, more, rfl⟩ := List.forall₂_cons_left_iff.1 meaning
    rw [List.forall_mem_cons] at distinct
    have listing := ih (fun position => form (position + 1)) more distinct.2
    have same : key = name result := by
      obtain ⟨_, -, _ | missing | given⟩ := named (some key) entry result denoted
      · rfl
      · rfl
    rw [List.mapIdx_cons, same]
    exact .cons denoted distinct.1 listing

theorem listing_collection (named : ∀ key entry result, denotes (key, entry) result →
      ∃ members, entry = .object members ∧ Named members key (name result)) (form : Nat → Json → Json)
    {collection : Json} {results : List α} (meaning : IsCollection denotes collection results)
    (distinct : collection.KeysDistinct) :
    ∃ listed, underNames form collection = .object listed ∧ Listing form denotes name results listed := by
  obtain ⟨entries, listed, each⟩ := meaning
  cases listed with
  | array items => exact listing_items named form each (Json.keysDistinct_array.1 distinct)
  | keyed members => exact listing_members named form each (Json.keysDistinct_object.1 distinct).2

namespace Listing

open Json (FirstRepetition)

variable {form : Nat → Json → Json} {results : List α} {listed : Json.Members} {again : String}

theorem keysDistinct (listing : Listing form denotes name results listed) (nodup : (results.map name).Nodup)
    (each : ∀ result ∈ results, ∀ key entry position, denotes (key, entry) result → entry.KeysDistinct →
      (form position entry).KeysDistinct) : (Json.object listed).KeysDistinct := by
  rw [Json.keysDistinct_object, listing.names]
  refine ⟨nodup, fun member mem => ?_⟩
  obtain ⟨result, found, key, entry, position, rfl, denoted, distinct⟩ := listing.entries member mem
  exact each result found key entry position denoted distinct

theorem repeats (listing : Listing form denotes name results listed) (twice : Twice again (results.map name))
    (each : ∀ result ∈ results, ∀ key entry position, denotes (key, entry) result → entry.KeysDistinct →
      (form position entry).KeysDistinct) : FirstRepetition (.object listed) [] again := by
  rw [← listing.names] at twice
  obtain ⟨earlier, later, split, known, nodup⟩ := twice.split
  obtain ⟨before, rest, rfl, rfl, named⟩ := List.map_eq_append_iff.1 split
  obtain ⟨⟨key, value⟩, after, rfl, rfl, -⟩ := List.map_eq_cons_iff.1 named
  refine .here (Json.keysDistinct_object.2 ⟨nodup, fun member mem => ?_⟩) known
  obtain ⟨result, found, key, entry, position, rfl, denoted, distinct⟩ :=
    listing.entries member (List.mem_append_left _ mem)
  exact each result found key entry position denoted distinct

/-- The repetition in one of the entries, if it is the only entry with one. -/
theorem inside (listing : Listing form denotes name results listed) (nodup : (results.map name).Nodup)
    {result : α} (mem : result ∈ results) {path : List String}
    (others : ∀ other ∈ results, other ≠ result → ∀ key entry position, denotes (key, entry) other →
      entry.KeysDistinct → (form position entry).KeysDistinct)
    (inner : ∀ key entry position, denotes (key, entry) result → entry.KeysDistinct →
      FirstRepetition (form position entry) path again) :
    FirstRepetition (.object listed) (name result :: path) again := by
  have stands : name result ∈ listed.map (·.1) := listing.names ▸ List.mem_map_of_mem mem
  obtain ⟨⟨held, value⟩, found, same⟩ := List.mem_map.1 stands
  obtain ⟨holder, declared, key, entry, position, here, denoted, distinct⟩ := listing.entries _ found
  injection here with named content
  have unique : holder = result := List.inj_on_of_nodup_map nodup declared mem (named.symm.trans same)
  rw [unique] at denoted
  refine .of_member (listing.names ▸ nodup) (same ▸ found) (fun member other different => ?_)
    (content ▸ inner key entry position denoted distinct)
  obtain ⟨result', declared', key, entry, position, rfl, denoted, distinct⟩ := listing.entries member other
  refine others result' declared' ?_ key entry position denoted distinct
  rintro rfl
  exact different rfl

end Listing

end Listing

open Json (FirstRepetition)
open Denotation Decoding

theorem named_primitive : ∀ key entry primitive, PrimitiveOf (key, entry) primitive →
    ∃ members, entry = .object members ∧ Named members key primitive.name := by
  rintro key entry primitive ⟨named, -⟩
  exact ⟨_, rfl, named⟩

theorem named_type : ∀ key entry type, TypeOf (key, entry) type →
    ∃ members, entry = .object members ∧ Named members key type.name := by
  rintro key entry type ⟨named, -⟩
  exact ⟨_, rfl, named⟩

theorem named_field : ∀ key entry field, FieldOf (key, entry) field →
    ∃ members, entry = .object members ∧ Named members key field.name := by
  rintro key entry field ⟨named, -⟩
  exact ⟨_, rfl, named⟩

/-- Where keys are distinct, a key has no other value than the one that is read. -/
theorem eq_of_given {members : Json.Members} {key : String} {value other : Json}
    (distinct : (Json.object members).KeysDistinct) (given : Given members key value) (mem : (key, other) ∈ members) :
    other = value := by
  have found := lookup_of_mem (Json.keysDistinct_object.1 distinct).1 mem
  rw [given.1, Option.some.injEq] at found
  exact found.symm

theorem map_fst_changeMember (key : String) (change : Json → Json) (members : Json.Members) :
    (changeMember key change members).map (·.1) = members.map (·.1) := by
  rw [changeMember, List.map_map]
  rfl

theorem mem_changeMember {key : String} {change : Json → Json} {members : Json.Members} {member : String × Json} :
    member ∈ changeMember key change members ↔
      ∃ value, (member.1, value) ∈ members ∧ member.2 = if member.1 = key then change value else value := by
  rw [changeMember, List.mem_map]
  constructor
  · rintro ⟨⟨name, value⟩, mem, rfl⟩
    exact ⟨value, mem, rfl⟩
  · rintro ⟨value, mem, same⟩
    exact ⟨(member.1, value), mem, by rw [← same]⟩

theorem keysDistinct_changeMember {key : String} {change : Json → Json} {members : Json.Members}
    (distinct : (Json.object members).KeysDistinct)
    (changed : ∀ value, (key, value) ∈ members → (change value).KeysDistinct) :
    (Json.object (changeMember key change members)).KeysDistinct := by
  rw [Json.keysDistinct_object] at distinct ⊢
  refine ⟨(map_fst_changeMember key change members).symm ▸ distinct.1, fun member mem => ?_⟩
  obtain ⟨value, found, same⟩ := mem_changeMember.1 mem
  by_cases here : member.1 = key
  · rw [same, if_pos here]
    exact changed value (here ▸ found)
  · rw [same, if_neg here]
    exact distinct.2 _ found

namespace KeptNames

theorem entry_object (keeps : Nat → Bool) (position : Nat) (members : Json.Members) :
    ∃ kept, entry keeps position (.object members) = .object kept ∧ kept.Sublist members ∧
      ∀ member ∈ members, member.1 ≠ "name" → member ∈ kept := by
  unfold entry
  cases keeps position with
  | true => exact ⟨members, rfl, .refl members, fun _ mem _ => mem⟩
  | false =>
    refine ⟨members.filter (·.1 != "name"), rfl, List.filter_sublist, fun member mem other => ?_⟩
    exact List.mem_filter.2 ⟨mem, bne_iff_ne.2 other⟩

theorem keysDistinct_entry (keeps : Nat → Bool) (position : Nat) {value : Json} (distinct : value.KeysDistinct) :
    (entry keeps position value).KeysDistinct := by
  cases value with
  | object members =>
    obtain ⟨kept, same, part, -⟩ := entry_object keeps position members
    rw [Json.keysDistinct_object] at distinct
    rw [same, Json.keysDistinct_object]
    exact ⟨(part.map _).nodup distinct.1, fun member mem => distinct.2 member (part.subset mem)⟩
  | _ =>
    unfold entry
    cases keeps position <;> exact distinct

variable {kept : KeptNames} {position : Nat} {key : Option String} {entry : Json} {type : TypeDecl}

theorem withFields_of_denoted (kept : KeptNames) (position : Nat) (denoted : TypeOf (key, entry) type)
    (distinct : entry.KeysDistinct) :
    ∃ members fields listed, entry = .object members ∧ ("fields", fields) ∈ members ∧
      (∀ value, ("fields", value) ∈ members → value = fields) ∧
      underNames (KeptNames.entry (kept.fields position)) fields = .object listed ∧
      Listing (KeptNames.entry (kept.fields position)) FieldOf (·.name) type.fields listed := by
  obtain ⟨-, -, fields, given, meaning⟩ := denoted
  have mem := mem_of_lookup given.1
  obtain ⟨listed, same, listing⟩ := listing_collection named_field (KeptNames.entry (kept.fields position)) meaning
    ((Json.keysDistinct_object.1 distinct).2 _ mem)
  exact ⟨_, fields, listed, rfl, mem, fun _ => eq_of_given distinct given, same, listing⟩

theorem keysDistinct_typeEntry (denoted : TypeOf (key, entry) type) (distinct : entry.KeysDistinct)
    (nodup : (type.fields.map (·.name)).Nodup) : (kept.typeEntry position entry).KeysDistinct := by
  obtain ⟨members, fields, listed, rfl, -, only, same, listing⟩ :=
    withFields_of_denoted kept position denoted distinct
  refine keysDistinct_entry kept.types position (keysDistinct_changeMember distinct fun value mem => ?_)
  rw [only value mem, same]
  exact listing.keysDistinct nodup fun _ _ _ _ _ _ => keysDistinct_entry _ _

/-- A type two fields of which have one name. -/
theorem typeEntry_repeats (denoted : TypeOf (key, entry) type) (distinct : entry.KeysDistinct) {again : String}
    (twice : Twice again (type.fields.map (·.name))) :
    FirstRepetition (kept.typeEntry position entry) ["fields"] again := by
  obtain ⟨members, fields, listed, rfl, mem, only, same, listing⟩ :=
    withFields_of_denoted kept position denoted distinct
  let changed := changeMember "fields" (underNames (KeptNames.entry (kept.fields position))) members
  obtain ⟨rest, form, part, others⟩ := entry_object kept.types position changed
  have keys : (changed.map (·.1)).Nodup := by
    rw [map_fst_changeMember]
    exact (Json.keysDistinct_object.1 distinct).1
  have stands : ("fields", Json.object listed) ∈ changed := mem_changeMember.2 ⟨fields, mem, by rw [if_pos rfl, same]⟩
  have inner : FirstRepetition (.object listed) [] again :=
    listing.repeats twice fun _ _ _ _ _ _ => keysDistinct_entry _ _
  show FirstRepetition (KeptNames.entry kept.types position (.object changed)) ["fields"] again
  rw [form]
  have other : "fields" ≠ "name" := by decide
  refine .of_member ((part.map _).nodup keys) (others _ stands other) (fun member inRest other => ?_) inner
  obtain ⟨value, original, held⟩ := mem_changeMember.1 (part.subset inRest)
  rw [held, if_neg other]
  exact (Json.keysDistinct_object.1 distinct).2 _ original

end KeptNames

/-- The members of a document with all its collections under names. -/
def KeptNames.keyedMembers (kept : KeptNames) (members : Json.Members) : Json.Members :=
  changeMember "types" (underNames kept.typeEntry)
    (changeMember "primitive_types" (underNames (entry kept.primitives)) members)

section Documents

variable {kept : KeptNames} {members : Json.Members} {primitives : List Primitive} {types : List TypeDecl}

theorem mem_keyedMembers {member : String × Json} (mem : member ∈ kept.keyedMembers members) :
    ∃ value, (member.1, value) ∈ members ∧
      (member.1 = "types" → member.2 = underNames kept.typeEntry value) ∧
      (member.1 = "primitive_types" → member.2 = underNames (KeptNames.entry kept.primitives) value) ∧
      (member.1 ≠ "types" → member.1 ≠ "primitive_types" → member.2 = value) := by
  obtain ⟨middle, found, last⟩ := mem_changeMember.1 mem
  obtain ⟨value, original, first⟩ := mem_changeMember.1 found
  refine ⟨value, original, ?_, ?_, ?_⟩
  · intro types
    simp [types] at first last
    rw [last, first]
  · intro primitives
    simp [primitives] at first last
    rw [last, first]
  · intro noTypes noPrimitives
    simp [noTypes, noPrimitives] at first last
    rw [last, first]

theorem keysDistinct_primitives (listed : Optional members "primitive_types" (IsCollection PrimitiveOf) [] primitives)
    (distinct : (Json.object members).KeysDistinct) (nodup : (primitives.map (·.name)).Nodup) {value : Json}
    (mem : ("primitive_types", value) ∈ members) :
    (underNames (KeptNames.entry kept.primitives) value).KeysDistinct := by
  cases listed with
  | missing missing =>
    rw [missing value (lookup_of_mem (Json.keysDistinct_object.1 distinct).1 mem)]
    exact Json.keysDistinct_scalar trivial
  | given given meaning =>
    rw [← eq_of_given distinct given mem] at meaning
    obtain ⟨listed, same, listing⟩ := listing_collection named_primitive (KeptNames.entry kept.primitives) meaning
      ((Json.keysDistinct_object.1 distinct).2 _ mem)
    rw [same]
    exact listing.keysDistinct nodup fun _ _ _ _ _ _ => KeptNames.keysDistinct_entry _ _

theorem listing_types (kept : KeptNames) (declared : Mandatory members "types" (IsCollection TypeOf) types)
    (distinct : (Json.object members).KeysDistinct) :
    ∃ value listed, ("types", value) ∈ members ∧ (∀ other, ("types", other) ∈ members → other = value) ∧
      underNames kept.typeEntry value = .object listed ∧ Listing kept.typeEntry TypeOf (·.name) types listed := by
  obtain ⟨value, given, meaning⟩ := declared
  have mem := mem_of_lookup given.1
  obtain ⟨listed, same, listing⟩ :=
    listing_collection named_type kept.typeEntry meaning ((Json.keysDistinct_object.1 distinct).2 _ mem)
  exact ⟨value, listed, mem, fun _ => eq_of_given distinct given, same, listing⟩

theorem keysDistinct_types (declared : Mandatory members "types" (IsCollection TypeOf) types)
    (distinct : (Json.object members).KeysDistinct) (nodup : (types.map (·.name)).Nodup)
    (fieldNames : ∀ type ∈ types, (type.fields.map (·.name)).Nodup) {value : Json}
    (mem : ("types", value) ∈ members) :
    (underNames kept.typeEntry value).KeysDistinct := by
  obtain ⟨collection, listed, -, only, same, listing⟩ := listing_types kept declared distinct
  rw [only value mem, same]
  exact listing.keysDistinct nodup fun type found _ _ _ denoted distinct =>
    KeptNames.keysDistinct_typeEntry denoted distinct (fieldNames type found)

/-- A repetition inside one of the collections, where the other has none. -/
theorem fullyKeyed_repeats {holder again : String} {path : List String} {value : Json}
    (distinct : (Json.object members).KeysDistinct)
    (mem : (holder, value) ∈ kept.keyedMembers members)
    (inTypes : holder ≠ "types" → ∀ types, ("types", types) ∈ members →
      (underNames kept.typeEntry types).KeysDistinct)
    (inPrimitives : holder ≠ "primitive_types" → ∀ primitives, ("primitive_types", primitives) ∈ members →
      (underNames (KeptNames.entry kept.primitives) primitives).KeysDistinct)
    (inner : FirstRepetition value path again) :
    FirstRepetition (kept.fullyKeyed (.object members)) (holder :: path) again := by
  have nodup : ((kept.keyedMembers members).map (·.1)).Nodup := by
    rw [KeptNames.keyedMembers, map_fst_changeMember, map_fst_changeMember]
    exact (Json.keysDistinct_object.1 distinct).1
  refine .of_member nodup mem (fun member found other => ?_) inner
  obtain ⟨original, stands, ofTypes, ofPrimitives, ofOther⟩ := mem_keyedMembers found
  by_cases types : member.1 = "types"
  · rw [ofTypes types]
    exact inTypes (types ▸ other.symm) original (types ▸ stands)
  · by_cases primitives : member.1 = "primitive_types"
    · rw [ofPrimitives primitives]
      exact inPrimitives (primitives ▸ other.symm) original (primitives ▸ stands)
    · rw [ofOther types primitives]
      exact (Json.keysDistinct_object.1 distinct).2 _ stands

theorem fullyKeyed_repeats_types {again : String} {path : List String}
    (distinct : (Json.object members).KeysDistinct)
    (listed : Optional members "primitive_types" (IsCollection PrimitiveOf) [] primitives)
    (declared : Mandatory members "types" (IsCollection TypeOf) types)
    (primitiveNames : (primitives.map (·.name)).Nodup)
    (inner : ∀ listed, Listing kept.typeEntry TypeOf (·.name) types listed →
      FirstRepetition (.object listed) path again) :
    FirstRepetition (kept.fullyKeyed (.object members)) ("types" :: path) again := by
  obtain ⟨value, keyed, mem, -, same, listing⟩ := listing_types kept declared distinct
  have stands : ("types", Json.object keyed) ∈ kept.keyedMembers members :=
    mem_changeMember.2 ⟨value, mem_changeMember.2 ⟨value, mem, rfl⟩, same.symm⟩
  refine fullyKeyed_repeats distinct stands (fun other => absurd rfl other) (fun _ value mem => ?_)
    (inner keyed listing)
  exact keysDistinct_primitives listed distinct primitiveNames mem

/-- A repetition among the primitives, where the types have none. -/
theorem fullyKeyed_repeats_primitive {again : String} (distinct : (Json.object members).KeysDistinct)
    (listed : Optional members "primitive_types" (IsCollection PrimitiveOf) [] primitives)
    (declared : Mandatory members "types" (IsCollection TypeOf) types)
    (twice : Twice again (primitives.map (·.name))) (typeNames : (types.map (·.name)).Nodup)
    (fieldNames : ∀ type ∈ types, (type.fields.map (·.name)).Nodup) :
    FirstRepetition (kept.fullyKeyed (.object members)) ["primitive_types"] again := by
  cases listed with
  | missing => cases twice.1
  | @given value _ given meaning =>
    have mem := mem_of_lookup given.1
    obtain ⟨keyed, same, listing⟩ := listing_collection named_primitive (KeptNames.entry kept.primitives) meaning
      ((Json.keysDistinct_object.1 distinct).2 _ mem)
    have stands : ("primitive_types", Json.object keyed) ∈ kept.keyedMembers members :=
      mem_changeMember.2 ⟨_, mem_changeMember.2 ⟨value, mem, rfl⟩, same.symm⟩
    have inner : FirstRepetition (.object keyed) [] again :=
      listing.repeats twice fun _ _ _ _ _ _ => KeptNames.keysDistinct_entry _ _
    refine fullyKeyed_repeats distinct stands (fun _ value mem => ?_) (fun other => absurd rfl other) inner
    exact keysDistinct_types declared distinct typeNames fieldNames mem

end Documents

theorem not_isDigit_of_isAlpha {c : Char} (letter : c.isAlpha = true) : c.isDigit = false := by
  rw [Bool.eq_false_iff]
  intro digit
  have most : c.toNat ≤ 57 := (Char.isDigit_iff_toNat.1 digit).2
  have least : 65 ≤ c.toNat := by
    rcases Bool.or_eq_true_iff.1 letter with upper | lower
    · exact UInt32.le_iff_toNat_le.1 (of_decide_eq_true upper).1
    · have start := UInt32.le_iff_toNat_le.1 (of_decide_eq_true (Bool.and_eq_true_iff.1 lower).1)
      exact Nat.le_trans (by decide) start
  omega

theorem isPosition_of_isIdentifier {name : String} (identifier : isIdentifier name = true) :
    RepeatedKey.isPosition name = false := by
  unfold isIdentifier at identifier
  unfold RepeatedKey.isPosition
  cases chars : name.toList with
  | nil => simp [chars] at identifier
  | cons first rest =>
    simp only [chars, Bool.and_eq_true] at identifier
    have notDigit : first.isDigit = false := by
      have start := identifier.1
      rw [Identifier.isStart, Bool.or_eq_true, beq_iff_eq] at start
      rcases start with letter | rfl
      · exact not_isDigit_of_isAlpha letter
      · rfl
    rw [List.all_cons, notDigit, Bool.false_and]

theorem context_of_field {type : String} (identifier : isIdentifier type = true) (name : String) :
    RepeatedKey.context ⟨["types", type, "fields"], name⟩ = s!"type '{type}'" := by
  have declarations : RepeatedKey.declarations? ["types", type] = some [s!"type '{type}'"] := by
    rw [RepeatedKey.declarations?, isPosition_of_isIdentifier identifier]
    rfl
  show RepeatedKey.describe ["types", type] = _
  simp only [RepeatedKey.describe, declarations]
  rfl

theorem typeLabel_injective {first second : String} (same : s!"type '{first}'" = s!"type '{second}'") :
    first = second :=
  (String.append_right_inj _).1 ((String.append_left_inj _).1 same)

namespace Schema

variable {document : Json} {schema : Schema} {kind : Kind} {name context : String}

/-- A name that is used twice is the first key that is repeated in the keyed form, in the collection of its kind. -/
theorem SoundButFor.firstRepetition (kept : KeptNames) (distinct : document.KeysDistinct)
    (denoted : SchemaOf document schema) (fault : schema.SoundButFor kind name context) :
    ∃ path, FirstRepetition (kept.fullyKeyed document) path name ∧ RepeatedKey.kind ⟨path, name⟩ = kind ∧
      RepeatedKey.context ⟨path, name⟩ = context := by
  cases denoted with | @document members rootType primitives types root listed declared =>
  cases fault with
  | primitives twice others =>
    simp only [primitives_ofDeclarations] at twice
    have typeNames := others.typeNames fun _ => nofun
    have fieldNames : ∀ type ∈ (ofDeclarations rootType primitives types).types, (type.fields.map (·.name)).Nodup :=
      fun _ declared => others.fieldNames declared fun _ => nofun
    simp only [types_ofDeclarations] at typeNames fieldNames
    exact ⟨["primitive_types"], fullyKeyed_repeats_primitive distinct listed declared twice typeNames fieldNames,
      rfl, rfl⟩
  | types twice others =>
    simp only [types_ofDeclarations] at twice
    have primitiveNames := others.primitiveNames fun _ => nofun
    have fieldNames : ∀ type ∈ (ofDeclarations rootType primitives types).types, (type.fields.map (·.name)).Nodup :=
      fun _ declared => others.fieldNames declared fun _ => nofun
    simp only [primitives_ofDeclarations, types_ofDeclarations] at primitiveNames fieldNames
    refine ⟨["types"], fullyKeyed_repeats_types distinct listed declared primitiveNames fun keyed listing => ?_,
      rfl, rfl⟩
    exact listing.repeats twice fun type found _ _ _ denoted distinct =>
      KeptNames.keysDistinct_typeEntry denoted distinct (fieldNames type found)
  | @fields type _ found twice others =>
    have primitiveNames := others.primitiveNames fun _ => nofun
    have typeNames := others.typeNames fun _ => nofun
    have fieldNames : ∀ other ∈ (ofDeclarations rootType primitives types).types, other ≠ type →
        (other.fields.map (·.name)).Nodup := by
      intro other declared different
      refine others.fieldNames declared fun name same => different ?_
      injection same with _ _ label
      -- only one type has the label in the context, as no name of a type is used twice
      exact List.inj_on_of_nodup_map typeNames declared found (typeLabel_injective label)
    have identifier := others.identifier found nofun
    simp only [primitives_ofDeclarations, types_ofDeclarations] at primitiveNames typeNames fieldNames found
    refine ⟨["types", type.name, "fields"],
      fullyKeyed_repeats_types distinct listed declared primitiveNames fun keyed listing => ?_, rfl,
      context_of_field identifier name⟩
    refine listing.inside typeNames found (fun other declared different _ _ _ denoted distinct => ?_)
      fun _ _ _ denoted distinct => KeptNames.typeEntry_repeats denoted distinct twice
    exact KeptNames.keysDistinct_typeEntry denoted distinct (fieldNames other declared different)

/-- Both ways of finding a name that is used twice agree. Of a document with no other fault, validation of its
declarations and strict reading of any text that spells its keyed form report the same kind, name and context. -/
theorem ofJson_eq_read_of_soundButFor (kept : KeptNames) {text : String} (distinct : document.KeysDistinct)
    (decoded : ofDocument document = .ok schema) (fault : schema.SoundButFor kind name context)
    (spelled : Json.read text = .ok (kept.fullyKeyed document)) :
    ofJson document = .error (.duplicate kind name context) ∧
      (Document.read text).mapError SchemaError.ofDocumentFault = .error (.duplicate kind name context) := by
  constructor
  · rw [ofJson, decoded, mapError_ok, ok_bind, validate_of_soundButFor (built_of_ofDocument_ok decoded) fault]
    rfl
  · obtain ⟨path, repetition, rfl, rfl⟩ := fault.firstRepetition kept distinct (ofDocument_ok_iff.1 decoded)
    rw [Document.read_of_firstRepetition spelled repetition]
    rfl

/-- A type that is named like a collection and has two fields of one name. -/
def clashingDocument : Json :=
  .object
    [ ("types", .array [.object
        [ ("name", .string "types")
        , ("fields", .array
            [ .object [("name", .string "x"), ("return_type", .string "types")]
            , .object [("return_type", .string "types"), ("name", .string "x")] ]) ]])
    , ("root_type", .string "types") ]

def clashingType : TypeDecl :=
  ⟨"types", "", [⟨"x", "", "types", false, false, []⟩, ⟨"x", "", "types", false, false, []⟩]⟩

def clashingSchema : Schema := ofDeclarations "types" [] [clashingType]

/-- A spelling in which the second field keeps its name. -/
def clashingText : String :=
  "\x7b\"types\":\x7b\"types\":\x7b\"fields\":\x7b\"x\":\x7b\"return_type\":\"types\"\x7d," ++
  "\"x\":\x7b\"return_type\":\"types\",\"name\":\"x\"\x7d\x7d\x7d\x7d,\"root_type\":\"types\"\x7d"

theorem ofJson_eq_read_of_soundButFor_of_clashingDocument :
    ofDocument clashingDocument = .ok clashingSchema ∧
      clashingSchema.SoundButFor .field "x" "type 'types'" ∧
      ofJson clashingDocument = .error (.duplicate .field "x" "type 'types'") ∧
      (Document.read clashingText).mapError SchemaError.ofDocumentFault =
        .error (.duplicate .field "x" "type 'types'") := by
  have distinct : clashingDocument.KeysDistinct := (Json.nodup_occurrences_iff _ []).1 (by decide)
  have decoded : ofDocument clashingDocument = .ok clashingSchema := by decide +kernel
  have spelled : Json.read clashingText =
      .ok (KeptNames.fullyKeyed ⟨fun _ => false, fun _ => false, fun _ => (· == 1)⟩ clashingDocument) := by
    decide +kernel
  have others : clashingSchema.HoldsBut (.duplicate .field "x" "type 'types'") := by
    intro condition mem different
    simp only [clashingSchema, clashingType, conditions, primitives_ofDeclarations, types_ofDeclarations, inOrder,
      TypeDecl.conditions, Field.conditions, List.cons_append, List.nil_append, List.append_nil, List.mem_cons,
      List.not_mem_nil, or_false] at mem
    rcases mem with rfl | rfl | rfl | rfl | rfl | rfl | rfl | rfl | rfl | rfl
    case inr.inr.inr.inr.inr.inr.inr.inl => exact absurd rfl different
    case inr.inr.inr.inr.inr.inl => exact .inr (by decide)
    case inr.inr.inr.inr.inr.inr.inr.inr.inl => exact .inr (by decide)
    all_goals decide
  have twice : Twice "x" ["x", "x"] := by
    refine ⟨rfl, fun other different => ?_⟩
    rw [List.count_eq_zero_of_not_mem fun mem => different (by simpa using mem)]
    exact Nat.zero_le 1
  have declared : clashingType ∈ clashingSchema.types := List.mem_cons_self
  have fault : clashingSchema.SoundButFor .field "x" "type 'types'" := .fields declared twice others
  exact ⟨decoded, fault, ofJson_eq_read_of_soundButFor _ distinct decoded fault spelled⟩

end Schema

end FieldTypes
