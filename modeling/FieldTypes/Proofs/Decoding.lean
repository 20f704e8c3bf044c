import FieldTypes.Proofs.Results
import FieldTypes.Schema.Decoding

set_option autoImplicit false

namespace FieldTypes

namespace Decoding

theorem present?_eq_filter (members : Json.Members) (key : String) :
    present? members key = (members.lookup key).filter fun value => !value.isNull := by
  unfold present?
  cases members.lookup key with
  | none => rfl
  | some value => cases value <;> rfl

theorem lookup_of_present? {members : Json.Members} {key : String} {value : Json}
    (found : present? members key = some value) : members.lookup key = some value ∧ value ≠ .null := by
  rw [present?_eq_filter, Option.filter_eq_some_iff] at found
  refine ⟨found.1, ?_⟩
  rintro rfl
  exact absurd found.2 (by decide)

theorem mem_of_present? {members : Json.Members} {key : String} {value : Json}
    (found : present? members key = some value) : (key, value) ∈ members := by
  obtain ⟨before, after, same, _⟩ := List.lookup_eq_some_iff.1 (lookup_of_present? found).1
  rw [same]
  exact List.mem_append_right before List.mem_cons_self

theorem ofKind_ok {α : Type} {entity : Entity} {key : String} {expected : Expected} {found : Option α}
    {value : α} : ofKind entity key expected found = .ok value ↔ found = some value := by
  cases found <;> simp [ofKind]

theorem membersOf_ok {entity : Entity} {value : Json} {members : Json.Members} :
    membersOf entity value = .ok members ↔ value = .object members := by
  cases value <;> simp [membersOf, Json.asObject?]

theorem mandatory_ok {members : Json.Members} {entity : Entity} {key : String} {value : Json} :
    mandatory members entity key = .ok value ↔ present? members key = some value := by
  unfold mandatory
  cases present? members key <;> simp

section Each

variable {α β : Type} {decode : Nat → α → Except ParseError β} {position : Nat}

theorem each_cons_ok {entry : α} {rest : List α} {results : List β} :
    each decode position (entry :: rest) = .ok results ↔
      ∃ first others, decode position entry = .ok first ∧
        each decode (position + 1) rest = .ok others ∧ results = first :: others := by
  rw [each, bind_eq_ok]
  constructor
  · rintro ⟨first, read, success⟩
    obtain ⟨others, more, same⟩ := bind_eq_ok.1 success
    rw [Except.ok.injEq] at same
    exact ⟨first, others, read, more, same.symm⟩
  · rintro ⟨first, others, read, more, same⟩
    exact ⟨first, read, by rw [more, same]; rfl⟩

theorem each_ok {entries : List α} {results : List β} (success : each decode position entries = .ok results)
    {index : Nat} {result : β} (found : results[index]? = some result) :
    ∃ entry, entries[index]? = some entry ∧ decode (position + index) entry = .ok result := by
  induction entries generalizing position results index with
  | nil =>
    rw [each, Except.ok.injEq] at success
    rw [← success] at found
    simp at found
  | cons entry rest ih =>
    obtain ⟨first, others, read, more, rfl⟩ := each_cons_ok.1 success
    cases index with
    | zero =>
      rw [List.getElem?_cons_zero, Option.some.injEq] at found
      exact ⟨entry, rfl, by rw [← found]; exact read⟩
    | succ index =>
      rw [List.getElem?_cons_succ] at found
      obtain ⟨later, there, decoded⟩ := ih more found
      refine ⟨later, there, ?_⟩
      rwa [show position + (index + 1) = position + 1 + index by omega]

theorem each_mem_ok {entries : List α} {results : List β}
    (success : each decode position entries = .ok results) {result : β} (mem : result ∈ results) :
    ∃ index entry, entries[index]? = some entry ∧ decode (position + index) entry = .ok result := by
  obtain ⟨index, found⟩ := List.getElem?_of_mem mem
  obtain ⟨entry, there, decoded⟩ := each_ok success found
  exact ⟨index, entry, there, decoded⟩

theorem each_map_ok {γ : Type} {encode : γ → α} {result : γ → β} {values : List γ}
    (inverse : ∀ value ∈ values, ∀ position, decode position (encode value) = .ok (result value)) :
    each decode position (values.map encode) = .ok (values.map result) := by
  induction values generalizing position with
  | nil => rfl
  | cons value rest ih =>
    rw [List.map_cons, each_cons_ok]
    exact ⟨_, _, inverse value List.mem_cons_self position,
      ih fun other mem => inverse other (List.mem_cons_of_mem value mem), rfl⟩

end Each

theorem entriesOf_array (entity : Entity) (key : String) (items : List Json) :
    entriesOf entity key (.array items) = .ok (items.map (none, ·)) := rfl

theorem primitive_ok {position : Nat} {entry : Entry} {primitive : Primitive} :
    Decoding.primitive position entry = .ok primitive ↔
      ∃ members, entry.2 = .object members ∧
        nameOf members entry.1 (.primitiveAt position) = .ok primitive.name ∧
        docKey members (.primitive primitive.name) = .ok primitive.doc := by
  simp only [Decoding.primitive, bind_eq_ok, membersOf_ok, Except.ok.injEq]
  constructor
  · rintro ⟨members, object, name, named, doc, documented, rfl⟩
    exact ⟨members, object, named, documented⟩
  · rintro ⟨members, object, named, documented⟩
    exact ⟨members, object, _, named, _, documented, rfl⟩

theorem param_ok {type field : String} {position : Nat} {value : Json} {param : Param} :
    Decoding.param type field position value = .ok param ↔
      ∃ members, value = .object members ∧
        nameOf members none (.paramAt type field position) = .ok param.name ∧
        indexKey members (.param type field param.name) position = .ok param.index ∧
        stringKey members (.param type field param.name) "type" = .ok param.typeName ∧
        requiredKey members (.param type field param.name) = .ok param.required ∧
        docKey members (.param type field param.name) = .ok param.doc ∧
        defaultDocKey members (.param type field param.name) = .ok param.defaultValueDoc ∧
        param.defaultValue = present? members "default_value" := by
  simp only [Decoding.param, bind_eq_ok, membersOf_ok, Except.ok.injEq]
  constructor
  · rintro ⟨members, object, name, named, index, placed, typeName, typed, required, needed, doc,
      documented, defaultDoc, explained, rfl⟩
    exact ⟨members, object, named, placed, typed, needed, documented, explained, rfl⟩
  · rintro ⟨members, object, named, placed, typed, needed, documented, explained, default⟩
    refine ⟨members, object, _, named, _, placed, _, typed, _, needed, _, documented, _, explained, ?_⟩
    rw [← default]

theorem paramsKey_ok {members : Json.Members} {type field : String} {params : List Param} :
    paramsKey members type field = .ok params ↔
      (present? members "params" = none ∧ params = []) ∨
        ∃ items, present? members "params" = some (.array items) ∧
          each (Decoding.param type field) 0 items = .ok params := by
  unfold paramsKey
  cases present? members "params" with
  | none => simp [eq_comm]
  | some value => cases value <;> simp [ofKind, Json.asArray?, bind, Except.bind]

theorem field_ok {type : String} {position : Nat} {entry : Entry} {field : Field} :
    Decoding.field type position entry = .ok field ↔
      ∃ members, entry.2 = .object members ∧
        nameOf members entry.1 (.fieldAt type position) = .ok field.name ∧
        stringKey members (.field type field.name) "return_type" = .ok field.returnType ∧
        docKey members (.field type field.name) = .ok field.doc ∧
        boolKey members (.field type field.name) "return_list" = .ok field.returnList ∧
        boolKey members (.field type field.name) "null" = .ok field.nullable ∧
        paramsKey members type field.name = .ok field.params := by
  simp only [Decoding.field, bind_eq_ok, membersOf_ok, Except.ok.injEq]
  constructor
  · rintro ⟨members, object, name, named, returnType, typed, doc, documented, list, listed, null,
      nulled, params, parameters, rfl⟩
    exact ⟨members, object, named, typed, documented, listed, nulled, parameters⟩
  · rintro ⟨members, object, named, typed, documented, listed, nulled, parameters⟩
    exact ⟨members, object, _, named, _, typed, _, documented, _, listed, _, nulled, _, parameters, rfl⟩

theorem type_ok {position : Nat} {entry : Entry} {type : TypeDecl} :
    Decoding.type position entry = .ok type ↔
      ∃ members collection entries, entry.2 = .object members ∧
        nameOf members entry.1 (.typeAt position) = .ok type.name ∧
        docKey members (.type type.name) = .ok type.doc ∧
        present? members "fields" = some collection ∧
        entriesOf (.type type.name) "fields" collection = .ok entries ∧
        each (Decoding.field type.name) 0 entries = .ok type.fields := by
  simp only [Decoding.type, bind_eq_ok, membersOf_ok, mandatory_ok, Except.ok.injEq]
  constructor
  · rintro ⟨members, object, name, named, doc, documented, collection, present, entries, collected,
      fields, decoded, rfl⟩
    exact ⟨members, collection, entries, object, named, documented, present, collected, decoded⟩
  · rintro ⟨members, collection, entries, object, named, documented, present, collected, decoded⟩
    exact ⟨members, object, _, named, _, documented, collection, present, entries, collected, _, decoded,
      rfl⟩

end Decoding

theorem Schema.ofDocument_ok {document : Json} {schema : Schema} :
    ofDocument document = .ok schema ↔
      ∃ members rootType primitives collection entries types, document = .object members ∧
        Decoding.stringKey members .schema "root_type" = .ok rootType ∧
        Decoding.primitivesKey members = .ok primitives ∧
        Decoding.present? members "types" = some collection ∧
        Decoding.entriesOf .schema "types" collection = .ok entries ∧
        Decoding.each Decoding.type 0 entries = .ok types ∧
        schema = ofDeclarations rootType primitives types := by
  simp only [ofDocument, bind_eq_ok, Decoding.membersOf_ok, Decoding.mandatory_ok, Except.ok.injEq]
  constructor
  · rintro ⟨members, object, rootType, rooted, primitives, listed, collection, present, entries,
      collected, types, decoded, same⟩
    exact ⟨members, rootType, primitives, collection, entries, types, object, rooted, listed, present,
      collected, decoded, same.symm⟩
  · rintro ⟨members, rootType, primitives, collection, entries, types, object, rooted, listed, present,
      collected, decoded, same⟩
    exact ⟨members, object, rootType, rooted, primitives, listed, collection, present, entries,
      collected, types, decoded, same.symm⟩

theorem Schema.ofJson_ok {document : Json} {schema : Schema} :
    ofJson document = .ok schema ↔ ofDocument document = .ok schema ∧ schema.validate = .ok () := by
  simp only [ofJson, bind_eq_ok, mapError_eq_ok, Except.ok.injEq]
  constructor
  · rintro ⟨_, decoded, ⟨⟩, valid, rfl⟩
    exact ⟨decoded, valid⟩
  · rintro ⟨decoded, valid⟩
    exact ⟨schema, decoded, (), valid, rfl⟩

theorem Schema.parse_ok {text : String} {schema : Schema} :
    parse text = .ok schema ↔
      ∃ document, Document.read text = .ok document ∧ ofJson document = .ok schema := by
  simp only [parse, bind_eq_ok, mapError_eq_ok]

end FieldTypes
