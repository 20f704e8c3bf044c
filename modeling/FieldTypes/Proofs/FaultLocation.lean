import FieldTypes.Proofs.EntityChanges

set_option autoImplicit false

namespace FieldTypes

open Denotation

/-- Values of the kind. -/
def Expected.Admits : Expected → Json → Prop
  | .string, value => ∃ text, IsText value text
  | .boolean, value => ∃ flag, IsFlag value flag
  | .natural, value => ∃ natural, IsNatural value natural
  | .array, value => ∃ items, value = .array items
  | .collection, value => ∃ entries, IsEntries value entries
  | .lines, value => ∃ doc, IsDoc value doc
  | .matching key, value => IsText value key

/-- The keys that an entity cannot do without; the name only where the entity has no key. -/
def Site.needed : Site → List String
  | .document => ["root_type", "types"]
  | .primitive _ => ["name"]
  | .type _ => ["name", "fields"]
  | .field _ _ => ["name", "return_type"]
  | .param _ _ _ => ["name", "type", "required"]

/-- What is wrong with an entity. -/
inductive EntityFault where
  | missing (key : String)
  | wrong (key : String) (expected : Expected)
  | notAnObject
  deriving DecidableEq, Repr

namespace EntityFault

def key? : EntityFault → Option String
  | .missing key | .wrong key _ => some key
  | .notAnObject => none

/-- The error of a fault, for an entity that has a name and a position. The position stands for the name if
the name is at fault. -/
def error (named placed : Entity) : EntityFault → ParseError
  | .missing key => .missingKey (if key = "name" then placed else named) key
  | .wrong key expected => .invalidValue (if key = "name" then placed else named) key expected
  | .notAnObject => .notAnObject placed

end EntityFault

/-- An entity, with the key it stands under if there is one, becomes faulty. -/
inductive Spoiled (site : Site) (entry : Option String) : EntityFault → Json → Json → Prop
  | removed {members : Json.Members} {key : String} (needed : key ∈ site.needed)
      (unnamed : key = "name" → entry = none) :
      Spoiled site entry (.missing key) (.object members) (.object (members.filter (·.1 != key)))
  | replaced {before after : Json.Members} {key : String} {old new : Json} {expected : Expected}
      (first : before.lookup key = none) (recognised : (key, some expected) ∈ site.keys)
      (given : new ≠ .null) (wrong : ¬ expected.Admits new) :
      Spoiled site entry (.wrong key expected) (.object (before ++ (key, old) :: after))
        (.object (before ++ (key, new) :: after))
  | noObject {old new : Json} (wrong : ∀ members, new ≠ .object members) : Spoiled site entry .notAnObject old new

/-- How an entity of a schema is called in errors: by its path of names, and by its position. -/
inductive Schema.Calls (schema : Schema) : Site → String → String → Prop
  | document : Calls schema .document "schema" "schema document"
  | primitive {position : Nat} {primitive : Primitive} (found : schema.primitives[position]? = some primitive) :
      Calls schema (.primitive position) s!"primitive type '{primitive.name}'" s!"primitive_types[{position}]"
  | type {position : Nat} {type : TypeDecl} (found : schema.types[position]? = some type) :
      Calls schema (.type position) s!"type '{type.name}'" s!"types[{position}]"
  | field {owner position : Nat} {type : TypeDecl} {field : Field} (type_ : schema.types[owner]? = some type)
      (found : type.fields[position]? = some field) :
      Calls schema (.field owner position) s!"type '{type.name}' field '{field.name}'"
        s!"type '{type.name}' fields[{position}]"
  | param {owner parent position : Nat} {type : TypeDecl} {field : Field} {param : Param}
      (type_ : schema.types[owner]? = some type) (field_ : type.fields[parent]? = some field)
      (found : field.params[position]? = some param) :
      Calls schema (.param owner parent position) s!"type '{type.name}' field '{field.name}' param '{param.name}'"
        s!"type '{type.name}' field '{field.name}' params[{position}]"

namespace Decoding

section Readers

variable {α : Type} {entity : Entity} {key : String} {expected : Expected}

theorem ofKind_refused {found : Option α} (refused : ∀ value, found ≠ some value) :
    ofKind entity key expected found = .error (.invalidValue entity key expected) := by
  rw [Option.eq_none_iff_forall_ne_some.2 refused]
  rfl

variable {value : Json}

theorem asString?_refused (refused : ¬ Expected.string.Admits value) :
    ofKind entity key .string value.asString? = .error (.invalidValue entity key .string) :=
  ofKind_refused fun text read => refused ⟨text, asString?_eq_some_iff.1 read⟩

theorem asBool?_refused (refused : ¬ Expected.boolean.Admits value) :
    ofKind entity key .boolean value.asBool? = .error (.invalidValue entity key .boolean) :=
  ofKind_refused fun flag read => refused ⟨flag, asBool?_eq_some_iff.1 read⟩

theorem asNat?_refused (refused : ¬ Expected.natural.Admits value) :
    ofKind entity key .natural value.asNat? = .error (.invalidValue entity key .natural) :=
  ofKind_refused fun natural read => refused ⟨natural, asNat?_eq_some_iff.1 read⟩

theorem asArray?_refused (refused : ¬ Expected.array.Admits value) :
    ofKind entity key .array value.asArray? = .error (.invalidValue entity key .array) :=
  ofKind_refused fun items read => refused ⟨items, asArray?_eq_some_iff.1 read⟩

theorem linesValue?_refused (refused : ¬ Expected.lines.Admits value) :
    ofKind entity key .lines (linesValue? value) = .error (.invalidValue entity key .lines) :=
  ofKind_refused fun doc read => refused ⟨doc, linesValue?_eq_some_iff.1 read⟩

theorem entriesOf_refused (refused : ¬ Expected.collection.Admits value) :
    entriesOf entity key value = .error (.invalidValue entity key .collection) :=
  ofKind_refused fun entries read => refused ⟨entries, entries?_eq_some_iff.1 read⟩

end Readers

end Decoding

namespace Spoiled

open Decoding

/-- The error of the fault for readers of its key. -/
def blame (fault : EntityFault) (named placed : Entity) (key : String) : Option ParseError :=
  if fault.key? = some key then some (fault.error named placed) else none

variable {site : Site} {entry : Option String} {fault : EntityFault} {members edited : Json.Members}
  {named placed : Entity}

/-- The key at fault is missing and needed, or it has a value of a kind that is not admitted. -/
theorem missing_or_wrong (spoiled : Spoiled site entry fault (.object members) (.object edited)) :
    (∃ key, fault = .missing key ∧ key ∈ site.needed ∧ (key = "name" → entry = none) ∧ edited.lookup key = none) ∨
      ∃ key expected value, fault = .wrong key expected ∧ (key, some expected) ∈ site.keys ∧
        edited.lookup key = some value ∧ value ≠ .null ∧ ¬ expected.Admits value := by
  cases spoiled with
  | @removed _ key needed unnamed =>
    refine .inl ⟨key, rfl, needed, unnamed, ?_⟩
    rw [lookup_filter_ne, if_pos rfl]
  | @replaced before after key old new expected first recognised given wrong =>
    exact .inr ⟨key, expected, new, rfl, recognised, lookup_around new first, given, wrong⟩
  | noObject wrong => exact absurd rfl (wrong edited)

theorem lookup_eq (spoiled : Spoiled site entry fault (.object members) (.object edited)) {other : String}
    (different : fault.key? ≠ some other) : edited.lookup other = members.lookup other := by
  cases spoiled with
  | removed =>
    rw [lookup_filter_ne, if_neg]
    rintro rfl
    exact different rfl
  | @replaced before after key old new expected first =>
    refine (differAt_around old new first).others other ?_
    rintro rfl
    exact different rfl
  | noObject wrong => exact absurd rfl (wrong edited)

section Readers

variable {α : Type} {key : String}

/-- A reader of one key: what it makes of a missing key and of a wrong value. -/
theorem altered_read (spoiled : Spoiled site entry fault (.object members) (.object edited))
    (read : Json.Members → Except ParseError α)
    (same : edited.lookup key = members.lookup key → read edited = read members)
    (missing : fault = .missing key → key ∈ site.needed → (key = "name" → entry = none) →
      edited.lookup key = none → read edited = .error (fault.error named placed))
    (wrong : ∀ expected value, fault = .wrong key expected → (key, some expected) ∈ site.keys →
      present? edited key = some value → ¬ expected.Admits value → read edited = .error (fault.error named placed)) :
    Altered (blame fault named placed key) (read members) (read edited) := by
  rw [blame]
  by_cases here : fault.key? = some key
  · rw [if_pos here]
    intro result _
    rcases spoiled.missing_or_wrong with
      ⟨other, fault_, needed, unnamed, absent⟩ | ⟨other, expected, value, fault_, rest⟩
    · obtain rfl : other = key := by simpa [fault_, EntityFault.key?] using here
      exact missing fault_ needed unnamed absent
    · obtain rfl : other = key := by simpa [fault_, EntityFault.key?] using here
      obtain ⟨recognised, found, given, refused⟩ := rest
      exact wrong expected value fault_ recognised (present?_eq_some_iff.2 ⟨found, given⟩) refused
  · rw [if_neg here]
    exact same (spoiled.lookup_eq here)

theorem altered_optional (spoiled : Spoiled site entry fault (.object members) (.object edited)) (default : α)
    (expected : Expected) {read : Json → Except ParseError α} (other : key ≠ "name") (spare : key ∉ site.needed)
    (kind : ∀ other, (key, some other) ∈ site.keys → other = expected)
    (refused : ∀ value, ¬ expected.Admits value → read value = .error (.invalidValue named key expected)) :
    Altered (blame fault named placed key)
      (match present? members key with | none => .ok default | some value => read value)
      (match present? edited key with | none => .ok default | some value => read value) := by
  refine spoiled.altered_read
    (fun members => match present? members key with | none => .ok default | some value => read value)
    (fun same => ?_) (fun _ needed => absurd needed spare) fun expected value fault_ recognised found wrong => ?_
  · simp only [present?_congr same]
  · obtain rfl := kind expected recognised
    simp only [found, fault_, EntityFault.error, if_neg other, refused value wrong]

theorem altered_mandatory (spoiled : Spoiled site entry fault (.object members) (.object edited))
    (expected : Expected) {read : Json → Except ParseError α} (other : key ≠ "name")
    (kind : ∀ other, (key, some other) ∈ site.keys → other = expected)
    (refused : ∀ value, ¬ expected.Admits value → read value = .error (.invalidValue named key expected)) :
    Altered (blame fault named placed key) (mandatory members named key >>= read)
      (mandatory edited named key >>= read) := by
  refine spoiled.altered_read (fun members => Decoding.mandatory members named key >>= read) (fun same => ?_)
    (fun fault_ _ _ absent => ?_) fun expected value fault_ recognised found wrong => ?_
  · exact congrArg (· >>= read) (mandatory_congr (present?_congr same))
  · simp only [Decoding.mandatory, present?, absent, fault_, EntityFault.error, if_neg other]
    rfl
  · obtain rfl := kind expected recognised
    simp only [mandatory_ok.2 found, ok_bind, fault_, EntityFault.error, if_neg other, refused value wrong]

theorem altered_name (spoiled : Spoiled site entry fault (.object members) (.object edited))
    (kind : ∀ other, ("name", some other) ∈ site.keys → other = .string) :
    Altered (blame fault named placed "name") (nameOf members entry placed) (nameOf edited entry placed) := by
  refine spoiled.altered_read (nameOf · entry placed) (fun same => nameOf_congr (present?_congr same))
    (fun fault_ _ unnamed absent => ?_) fun expected value fault_ recognised found wrong => ?_
  · simp only [nameOf, present?, absent, unnamed rfl, fault_, EntityFault.error, if_true]
  · obtain rfl := kind expected recognised
    simp only [nameOf, found, asString?_refused wrong, fault_, EntityFault.error, if_true]
    rfl

theorem altered_required (spoiled : Spoiled site entry fault (.object members) (.object edited))
    (kind : ∀ other, ("required", some other) ∈ site.keys → other = .boolean) :
    Altered (blame fault named placed "required") (requiredKey members named) (requiredKey edited named) := by
  refine spoiled.altered_read (requiredKey · named) (fun same => ?_) (fun fault_ _ _ absent => ?_)
    fun expected value fault_ recognised found wrong => ?_
  · rw [requiredKey, requiredKey, same]
  · simp only [requiredKey, absent, fault_, EntityFault.error]
    rfl
  · obtain rfl := kind expected recognised
    simp only [requiredKey, (lookup_of_present? found).1, asBool?_refused wrong, fault_, EntityFault.error]
    rfl

theorem altered_stringKey (spoiled : Spoiled site entry fault (.object members) (.object edited))
    (other : key ≠ "name") (kind : ∀ other, (key, some other) ∈ site.keys → other = .string) :
    Altered (blame fault named placed key) (stringKey members named key) (stringKey edited named key) :=
  spoiled.altered_mandatory .string other kind fun _ refused => asString?_refused refused

theorem altered_boolKey (spoiled : Spoiled site entry fault (.object members) (.object edited))
    (other : key ≠ "name") (spare : key ∉ site.needed)
    (kind : ∀ other, (key, some other) ∈ site.keys → other = .boolean) :
    Altered (blame fault named placed key) (boolKey members named key) (boolKey edited named key) :=
  spoiled.altered_optional false .boolean other spare kind fun _ refused => asBool?_refused refused

theorem altered_docKey (spoiled : Spoiled site entry fault (.object members) (.object edited))
    (spare : "doc" ∉ site.needed) (kind : ∀ other, ("doc", some other) ∈ site.keys → other = .lines) :
    Altered (blame fault named placed "doc") (docKey members named) (docKey edited named) :=
  spoiled.altered_optional "" .lines (by decide) spare kind fun _ refused => linesValue?_refused refused

end Readers

section Entities

variable {old new : Json} {position : Nat} {key : Option String}

theorem membersOf_refused {value : Json} {entity : Entity} (wrong : ∀ members, value ≠ .object members) :
    membersOf entity value = .error (.notAnObject entity) := by
  cases value with
  | object members => exact absurd rfl (wrong members)
  | _ => rfl

theorem notAnObject_or_object (spoiled : Spoiled site entry fault old new) :
    (fault = .notAnObject ∧ ∀ members, new ≠ .object members) ∨
      ∃ members edited, old = .object members ∧ new = .object edited := by
  cases spoiled with
  | noObject wrong => exact .inl ⟨rfl, wrong⟩
  | _ => exact .inr ⟨_, _, rfl, rfl⟩

theorem exists_key (spoiled : Spoiled site entry fault (.object members) (.object edited)) :
    ∃ key expected, (key, some expected) ∈ site.keys ∧ fault.key? = some key := by
  rcases spoiled.missing_or_wrong with ⟨key, rfl, needed, -⟩ | ⟨key, expected, value, rfl, recognised, -⟩
  · have read : ∀ site : Site, ∀ key ∈ site.needed, ∃ expected, (key, some expected) ∈ site.keys := by
      rintro (_ | _ | _ | _ | _) <;> simp [Site.needed, Site.keys]
    obtain ⟨expected, recognised⟩ := read site key needed
    exact ⟨key, expected, recognised, rfl⟩
  · exact ⟨key, expected, recognised, rfl⟩

theorem primitive_eq_error {primitive : Primitive} (spoiled : Spoiled (.primitive position) key fault old new)
    (decoded : Decoding.primitive position (key, old) = .ok primitive) :
    Decoding.primitive position (key, new) =
      .error (fault.error (.primitive primitive.name) (.primitiveAt position)) := by
  rcases spoiled.notAnObject_or_object with ⟨rfl, wrong⟩ | ⟨members, edited, rfl, rfl⟩
  · rw [Decoding.primitive, membersOf_refused wrong]
    rfl
  · obtain ⟨_, ⟨⟩, named, -⟩ := primitive_ok.1 decoded
    let blamed := blame fault (.primitive primitive.name) (.primitiveAt position)
    have altered : Altered ((blamed "name").or (blamed "doc")) (Decoding.primitive position (key, .object members))
        (Decoding.primitive position (key, .object edited)) := by
      refine primitive_altered (spoiled.altered_name (by simp [Site.keys])) fun name found => ?_
      obtain rfl := Except.ok.inj (named.symm.trans found)
      exact spoiled.altered_docKey (by simp [Site.needed]) (by simp [Site.keys])
    refine altered.eq_error ?_ decoded
    obtain ⟨other, expected, recognised, here⟩ := spoiled.exists_key
    simp only [Site.keys, List.mem_cons, Prod.mk.injEq, List.not_mem_nil, or_false] at recognised
    rcases recognised with ⟨rfl, -⟩ | ⟨rfl, -⟩ <;> simp [blamed, blame, here]

theorem param_eq_error {type field : String} {param : Param} {owner parent : Nat}
    (spoiled : Spoiled (.param owner parent position) none fault old new)
    (decoded : Decoding.param type field position old = .ok param) :
    Decoding.param type field position new =
      .error (fault.error (.param type field param.name) (.paramAt type field position)) := by
  rcases spoiled.notAnObject_or_object with ⟨rfl, wrong⟩ | ⟨members, edited, rfl, rfl⟩
  · rw [Decoding.param, membersOf_refused wrong]
    rfl
  · obtain ⟨_, ⟨⟩, named, -⟩ := param_ok.1 decoded
    obtain ⟨other, expected, recognised, here⟩ := spoiled.exists_key
    let blamed := blame fault (.param type field param.name) (.paramAt type field position)
    have same (name : String) (found : nameOf members none (.paramAt type field position) = .ok name) :
        name = param.name := Except.ok.inj (found.symm.trans named)
    have altered : Altered
        ((blamed "name").or ((blamed "index").or ((blamed "type").or ((blamed "required").or
          ((blamed "doc").or (blamed "default_value_doc"))))))
        (Decoding.param type field position (.object members))
        (Decoding.param type field position (.object edited)) := by
      refine param_altered (spoiled.altered_name (by simp [Site.keys])) (fun name found => ?_) (fun name found => ?_)
        (fun name found => ?_) (fun name found => ?_) (fun name found => ?_) ?_
      · rw [same name found]
        exact spoiled.altered_optional position .natural (by decide) (by simp [Site.needed]) (by simp [Site.keys])
          fun _ refused => asNat?_refused refused
      · rw [same name found]
        exact spoiled.altered_stringKey (by decide) (by simp [Site.keys])
      · rw [same name found]
        exact spoiled.altered_required (by simp [Site.keys])
      · rw [same name found]
        exact spoiled.altered_docKey (by simp [Site.needed]) (by simp [Site.keys])
      · rw [same name found]
        refine spoiled.altered_optional none .lines (by decide) (by simp [Site.needed]) (by simp [Site.keys])
          fun _ refused => ?_
        rw [linesValue?_refused refused]
        rfl
      · refine present?_congr (spoiled.lookup_eq ?_)
        rw [here]
        rintro ⟨⟩
        simp [Site.keys] at recognised
    refine altered.eq_error ?_ decoded
    simp only [Site.keys, List.mem_cons, Prod.mk.injEq, List.not_mem_nil, or_false, reduceCtorEq, and_false,
      false_or] at recognised
    rcases recognised with ⟨rfl, -⟩ | ⟨rfl, -⟩ | ⟨rfl, -⟩ | ⟨rfl, -⟩ | ⟨rfl, -⟩ | ⟨rfl, -⟩ <;>
      simp [blamed, blame, here]

theorem field_eq_error {type : String} {field : Field} {owner : Nat}
    (spoiled : Spoiled (.field owner position) key fault old new)
    (decoded : Decoding.field type position (key, old) = .ok field) :
    Decoding.field type position (key, new) =
      .error (fault.error (.field type field.name) (.fieldAt type position)) := by
  rcases spoiled.notAnObject_or_object with ⟨rfl, wrong⟩ | ⟨members, edited, rfl, rfl⟩
  · rw [Decoding.field, membersOf_refused wrong]
    rfl
  · obtain ⟨_, ⟨⟩, named, -⟩ := field_ok.1 decoded
    let blamed := blame fault (.field type field.name) (.fieldAt type position)
    have same (name : String) (found : nameOf members key (.fieldAt type position) = .ok name) :
        name = field.name := Except.ok.inj (found.symm.trans named)
    have altered : Altered
        ((blamed "name").or ((blamed "return_type").or ((blamed "doc").or ((blamed "return_list").or
          ((blamed "null").or (blamed "params"))))))
        (Decoding.field type position (key, .object members))
        (Decoding.field type position (key, .object edited)) := by
      refine field_altered (spoiled.altered_name (by simp [Site.keys])) (fun name found => ?_) (fun name found => ?_)
        (fun name found => ?_) (fun name found => ?_) (fun name found => ?_)
      · rw [same name found]
        exact spoiled.altered_stringKey (by decide) (by simp [Site.keys])
      · rw [same name found]
        exact spoiled.altered_docKey (by simp [Site.needed]) (by simp [Site.keys])
      · rw [same name found]
        exact spoiled.altered_boolKey (by decide) (by simp [Site.needed]) (by simp [Site.keys])
      · rw [same name found]
        exact spoiled.altered_boolKey (by decide) (by simp [Site.needed]) (by simp [Site.keys])
      · rw [same name found]
        refine spoiled.altered_optional [] .array (by decide) (by simp [Site.needed]) (by simp [Site.keys])
          fun _ refused => ?_
        rw [asArray?_refused refused]
        rfl
    refine altered.eq_error ?_ decoded
    obtain ⟨other, expected, recognised, here⟩ := spoiled.exists_key
    simp only [Site.keys, List.mem_cons, Prod.mk.injEq, List.not_mem_nil, or_false] at recognised
    rcases recognised with ⟨rfl, -⟩ | ⟨rfl, -⟩ | ⟨rfl, -⟩ | ⟨rfl, -⟩ | ⟨rfl, -⟩ | ⟨rfl, -⟩ <;>
      simp [blamed, blame, here]

theorem type_eq_error {type : TypeDecl} (spoiled : Spoiled (.type position) key fault old new)
    (decoded : Decoding.type position (key, old) = .ok type) :
    Decoding.type position (key, new) = .error (fault.error (.type type.name) (.typeAt position)) := by
  rcases spoiled.notAnObject_or_object with ⟨rfl, wrong⟩ | ⟨members, edited, rfl, rfl⟩
  · rw [Decoding.type, membersOf_refused wrong]
    rfl
  · obtain ⟨_, _, _, ⟨⟩, named, -⟩ := type_ok.1 decoded
    let blamed := blame fault (.type type.name) (.typeAt position)
    have same (name : String) (found : nameOf members key (.typeAt position) = .ok name) : name = type.name :=
      Except.ok.inj (found.symm.trans named)
    have altered : Altered ((blamed "name").or ((blamed "doc").or (blamed "fields")))
        (Decoding.type position (key, .object members)) (Decoding.type position (key, .object edited)) := by
      refine type_altered (spoiled.altered_name (by simp [Site.keys])) (fun name found => ?_) (fun name found => ?_)
      · rw [same name found]
        exact spoiled.altered_docKey (by simp [Site.needed]) (by simp [Site.keys])
      · rw [same name found]
        refine spoiled.altered_mandatory .collection (by decide) (by simp [Site.keys]) fun _ refused => ?_
        rw [fieldsOf, entriesOf_refused refused]
        rfl
    refine altered.eq_error ?_ decoded
    obtain ⟨other, expected, recognised, here⟩ := spoiled.exists_key
    simp only [Site.keys, List.mem_cons, Prod.mk.injEq, List.not_mem_nil, or_false] at recognised
    rcases recognised with ⟨rfl, -⟩ | ⟨rfl, -⟩ | ⟨rfl, -⟩ <;> simp [blamed, blame, here]

theorem ofDocument_eq_error {schema : Schema} (spoiled : Spoiled .document key fault old new)
    (decoded : Schema.ofDocument old = .ok schema) :
    Schema.ofDocument new = .error (fault.error .schema .document) := by
  rcases spoiled.notAnObject_or_object with ⟨rfl, wrong⟩ | ⟨members, edited, rfl, rfl⟩
  · rw [Schema.ofDocument, membersOf_refused wrong]
    rfl
  · let blamed := blame fault .schema .document
    have altered : Altered ((blamed "root_type").or ((blamed "primitive_types").or (blamed "types")))
        (Schema.ofDocument (.object members)) (Schema.ofDocument (.object edited)) := by
      refine ofDocument_altered (spoiled.altered_stringKey (by decide) (by simp [Site.keys])) ?_ ?_
      · refine spoiled.altered_optional [] .collection (by decide) (by simp [Site.needed]) (by simp [Site.keys])
          fun _ refused => ?_
        rw [entriesOf_refused refused]
        rfl
      · refine spoiled.altered_mandatory .collection (by decide) (by simp [Site.keys]) fun _ refused => ?_
        rw [typesOf, entriesOf_refused refused]
        rfl
    refine altered.eq_error ?_ decoded
    obtain ⟨other, expected, recognised, here⟩ := spoiled.exists_key
    simp only [Site.keys, List.mem_cons, Prod.mk.injEq, List.not_mem_nil, or_false] at recognised
    rcases recognised with ⟨rfl, -⟩ | ⟨rfl, -⟩ | ⟨rfl, -⟩ <;> simp [blamed, blame, here]

end Entities

end Spoiled

namespace Decoding

section Located

variable {inner : Nat → Option String → Json → Json → Prop} {old new : Json} {position : Nat} {key : Option String}

theorem primitive_located {schema : Schema} (changed : InMember "primitive_types" (InCollection inner) old new)
    (decoded : Schema.ofDocument old = .ok schema) :
    ∃ position key o n result, inner position key o n ∧ schema.primitives[position]? = some result ∧
      primitive position (key, o) = .ok result ∧
      ∀ error, primitive position (key, n) = .error error → Schema.ofDocument new = .error error := by
  obtain ⟨members, edited, collection, other, rfl, rfl, changed, differ⟩ := changed.differAt
  have given := changed.ne_null
  obtain ⟨position, key, o, n, made, found, lifts⟩ := collection_altered primitive .schema "primitive_types" changed
  obtain ⟨_, rootType, primitives, _, _, types, ⟨⟩, -, listed, -, -, -, rfl⟩ := Schema.ofDocument_ok.1 decoded
  rw [primitivesKey, present?_eq_some_iff.2 ⟨differ.old, given.1⟩] at listed
  obtain ⟨result, stands, read⟩ := found primitives listed
  refine ⟨position, key, o, n, result, made, ?_, read, fun error failed => ?_⟩
  · rwa [Schema.primitives_ofDeclarations]
  · exact (ofDocument_altered_primitives differ given (lifts (some error) fun _ _ => failed)).eq_error rfl decoded

theorem type_located {schema : Schema} (changed : InMember "types" (InCollection inner) old new)
    (decoded : Schema.ofDocument old = .ok schema) :
    ∃ position key o n result, inner position key o n ∧ schema.types[position]? = some result ∧
      type position (key, o) = .ok result ∧
      ∀ error, type position (key, n) = .error error → Schema.ofDocument new = .error error := by
  obtain ⟨members, edited, collection, other, rfl, rfl, changed, differ⟩ := changed.differAt
  have given := changed.ne_null
  obtain ⟨position, key, o, n, made, found, lifts⟩ := collection_altered type .schema "types" changed
  obtain ⟨_, rootType, primitives, _, entries, types, ⟨⟩, -, -, present, collected, declared, rfl⟩ :=
    Schema.ofDocument_ok.1 decoded
  rw [present?_eq_some_iff.2 ⟨differ.old, given.1⟩, Option.some.injEq] at present
  subst present
  obtain ⟨result, stands, read⟩ := found types (bind_eq_ok.2 ⟨entries, collected, declared⟩)
  refine ⟨position, key, o, n, result, made, ?_, read, fun error failed => ?_⟩
  · rwa [Schema.types_ofDeclarations]
  · exact (ofDocument_altered_types differ given (lifts (some error) fun _ _ => failed)).eq_error rfl decoded

theorem field_located {decl : TypeDecl} (changed : InMember "fields" (InCollection inner) old new)
    (decoded : type position (key, old) = .ok decl) :
    ∃ index name o n result, inner index name o n ∧ decl.fields[index]? = some result ∧
      field decl.name index (name, o) = .ok result ∧
      ∀ error, field decl.name index (name, n) = .error error → type position (key, new) = .error error := by
  obtain ⟨members, edited, collection, other, rfl, rfl, changed, differ⟩ := changed.differAt
  have given := changed.ne_null
  obtain ⟨index, name, o, n, made, found, lifts⟩ := collection_altered (field decl.name) (.type decl.name) "fields"
    changed
  obtain ⟨_, _, entries, ⟨⟩, named, -, present, collected, fields⟩ := type_ok.1 decoded
  rw [present?_eq_some_iff.2 ⟨differ.old, given.1⟩, Option.some.injEq] at present
  subst present
  obtain ⟨result, stands, read⟩ := found decl.fields (bind_eq_ok.2 ⟨entries, collected, fields⟩)
  refine ⟨index, name, o, n, result, made, stands, read, fun error failed => ?_⟩
  have fields (own : String) (found : nameOf members key (.typeAt position) = .ok own) :
      Altered (some error) (fieldsOf own collection) (fieldsOf own other) := by
    obtain rfl := Except.ok.inj (named.symm.trans found)
    exact lifts (some error) fun _ _ => failed
  exact (type_altered_fields differ given fields).eq_error rfl decoded

theorem param_located {type : String} {decl : Field} (changed : InMember "params" (InCollection inner) old new)
    (decoded : field type position (key, old) = .ok decl) :
    ∃ index o n result, inner index none o n ∧ decl.params[index]? = some result ∧
      param type decl.name index o = .ok result ∧
      ∀ error, param type decl.name index n = .error error → field type position (key, new) = .error error := by
  obtain ⟨members, edited, collection, other, rfl, rfl, changed, differ⟩ := changed.differAt
  have given := changed.ne_null
  obtain ⟨_, ⟨⟩, named, -, -, -, -, params⟩ := field_ok.1 decoded
  rw [paramsKey, present?_eq_some_iff.2 ⟨differ.old, given.1⟩] at params
  -- Params under names are refused, so that the field could not have been decoded.
  rcases paramsOf_altered type decl.name changed with
    ⟨error, failed, -⟩ | ⟨index, o, n, made, found, lifts⟩
  · exact absurd (params.symm.trans failed) nofun
  obtain ⟨result, stands, read⟩ := found decl.params params
  refine ⟨index, o, n, result, made, stands, read, fun error failed => ?_⟩
  have params (own : String) (found : nameOf members key (.fieldAt type position) = .ok own) :
      Altered (some error) (paramsOf type own collection) (paramsOf type own other) := by
    obtain rfl := Except.ok.inj (named.symm.trans found)
    exact lifts (some error) fun _ _ => failed
  exact (field_altered_params differ given params).eq_error rfl decoded

end Located

end Decoding

namespace Schema

open Decoding

/-- One fault in a document that is accepted: the error names the key at fault and calls the entity by its names,
or by its position if the fault is in its name or in the entity as a whole. -/
theorem ofJson_error_of_spoiled {document edited : Json} {schema : Schema} {site : Site} {fault : EntityFault}
    (accepted : ofJson document = .ok schema)
    (spoiled : Changed (fun there entry old new => there = site ∧ Spoiled site entry fault old new)
      document edited) :
    ∃ named placed : Entity, schema.Calls site named.label placed.label ∧
      ofJson edited = .error (.parse (fault.error named placed)) := by
  have decoded := (ofJson_ok.1 accepted).1
  suffices located : ∃ named placed : Entity, schema.Calls site named.label placed.label ∧
      ofDocument edited = .error (fault.error named placed) by
    obtain ⟨named, placed, calls, failed⟩ := located
    refine ⟨named, placed, calls, ?_⟩
    rw [ofJson, failed]
    rfl
  -- What was decoded gives the names on the way down to the entity; its error comes up the same way.
  cases spoiled with
  | document changed =>
    obtain ⟨rfl, spoiled⟩ := changed
    exact ⟨.schema, .document, .document, spoiled.ofDocument_eq_error decoded⟩
  | primitive changed =>
    obtain ⟨position, key, o, n, primitive, ⟨rfl, spoiled⟩, found, read, fails⟩ := primitive_located changed decoded
    exact ⟨.primitive primitive.name, .primitiveAt position, .primitive found,
      fails _ (spoiled.primitive_eq_error read)⟩
  | type changed =>
    obtain ⟨position, key, o, n, type, ⟨rfl, spoiled⟩, found, read, fails⟩ := type_located changed decoded
    exact ⟨.type type.name, .typeAt position, .type found, fails _ (spoiled.type_eq_error read)⟩
  | field changed =>
    obtain ⟨owner, _, _, _, type, changed, ofOwner, readOwner, failsOwner⟩ := type_located changed decoded
    obtain ⟨position, key, o, n, field, ⟨rfl, spoiled⟩, found, read, fails⟩ := field_located changed readOwner
    exact ⟨.field type.name field.name, .fieldAt type.name position, .field ofOwner found,
      failsOwner _ (fails _ (spoiled.field_eq_error read))⟩
  | param changed =>
    obtain ⟨owner, _, _, _, type, changed, ofOwner, readOwner, failsOwner⟩ := type_located changed decoded
    obtain ⟨parent, _, _, _, field, changed, ofParent, readParent, failsParent⟩ := field_located changed readOwner
    obtain ⟨position, o, n, param, ⟨rfl, spoiled⟩, found, read, fails⟩ := param_located changed readParent
    exact ⟨.param type.name field.name param.name, .paramAt type.name field.name position,
      .param ofOwner ofParent found, failsOwner _ (failsParent _ (fails _ (spoiled.param_eq_error read)))⟩

/-- A param says with a word whether it is required. -/
theorem ofJson_error_of_spoiled_of_keyed :
    (ofJson (keyedDocument (.bool false))).isOk = true ∧
      Changed (fun there entry old new =>
          there = .param 0 0 0 ∧ Spoiled (.param 0 0 0) entry (.wrong "required" .boolean) old new)
        (keyedDocument (.bool false)) (keyedDocument (.string "no")) ∧
      ∃ named placed : Entity, named.label = "type 'Point' field 'x' param 'n'" ∧
        placed.label = "type 'Point' field 'x' params[0]" ∧
        ofJson (keyedDocument (.string "no")) = .error (.parse (.invalidValue named "required" .boolean)) := by
  have accepted : ofJson (keyedDocument (.bool false)) = .ok (ofDeclarations "Point" [⟨"Int", "A\nB"⟩]
      [⟨"Point", "", [⟨"x", "", "Point", false, false, [⟨"n", "", 0, "Int", false, none, none⟩]⟩]⟩]) := by
    decide +kernel
  have wrong : ¬ Expected.boolean.Admits (.string "no") := nofun
  have spoiled : Changed
      (fun there entry old new =>
        there = .param 0 0 0 ∧ Spoiled (.param 0 0 0) entry (.wrong "required" .boolean) old new)
      (keyedDocument (.bool false)) (keyedDocument (.string "no")) := by
    refine .param (@InMember.value "types" _ [_, _] [] _ _ rfl ?_)
    refine @InCollection.member _ [] [] "Point" _ _ ?_
    refine @InMember.value "fields" _ [_] [] _ _ rfl ?_
    refine @InCollection.member _ [] [] "x" _ _ ?_
    refine @InMember.value "params" _ [_] [] _ _ rfl ?_
    refine @InCollection.item _ [] [] _ _ ⟨rfl, ?_⟩
    exact @Spoiled.replaced _ _ [_, _] _ "required" _ _ .boolean rfl (by decide) nofun wrong
  obtain ⟨named, placed, calls, failed⟩ := ofJson_error_of_spoiled accepted spoiled
  have labels : named.label = "type 'Point' field 'x' param 'n'" ∧
      placed.label = "type 'Point' field 'x' params[0]" := by
    generalize named.label = path, placed.label = placeholder at calls
    cases calls with
    | param type field param =>
      cases type
      cases field
      cases param
      exact ⟨by decide, by decide⟩
  refine ⟨?_, spoiled, named, placed, labels.1, labels.2, failed⟩
  rw [accepted]
  rfl

end Schema

end FieldTypes
