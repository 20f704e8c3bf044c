import FieldTypes.Proofs.DocumentGrammar
import FieldTypes.Proofs.Lookup
import Mathlib.Data.List.Nodup

set_option autoImplicit false

namespace FieldTypes

/-- The name that an entry has of its own, if it is a text. -/
def ownName? (entry : Json) : Option String := (entry.get? "name").bind Json.asString?

def withoutName : Json → Json
  | .object members => .object (members.filter (·.1 != "name"))
  | value => value

/-- The keyed form of an array of entries with distinct names; no other value has one. -/
def keyed? (keeps : Nat → Bool) : Json → Option Json
  | .array items => do
    let names ← items.mapM ownName?
    let entries := items.mapIdx fun position entry => if keeps position then entry else withoutName entry
    if names.Nodup then some (.object (names.zip entries)) else none
  | _ => none

/-- A collection in its keyed form, if that is chosen and there is one. -/
def rekeyed (choice : Option (Nat → Bool)) (collection : Json) : Json :=
  (choice.bind fun keeps => keyed? keeps collection).getD collection

/-- Members with the value under one key changed. -/
def changeMember (key : String) (change : Json → Json) (members : Json.Members) : Json.Members :=
  members.map fun member => (member.1, if member.1 = key then change member.2 else member.2)

/-- The collection with its entries changed one by one. -/
def changeEntries (change : Nat → Json → Json) : Json → Json
  | .array items => .array (items.mapIdx change)
  | .object members => .object (members.mapIdx fun position member => (member.1, change position member.2))
  | value => value

/-- A choice of collections of a document that take their keyed form: for each the positions of the entries
that keep their own names. -/
structure Keying where
  primitives : Option (Nat → Bool)
  types : Option (Nat → Bool)
  /-- For the type at each position. -/
  fields : Nat → Option (Nat → Bool)

namespace Keying

def typeEntry (keying : Keying) (position : Nat) : Json → Json
  | .object members => .object (changeMember "fields" (rekeyed (keying.fields position)) members)
  | entry => entry

def typesOf (keying : Keying) (types : Json) : Json := rekeyed keying.types (changeEntries keying.typeEntry types)

def rekey (keying : Keying) : Json → Json
  | .object members =>
    .object (changeMember "types" keying.typesOf (changeMember "primitive_types" (rekeyed keying.primitives) members))
  | value => value

end Keying

theorem keyed?_eq_some {keeps : Nat → Bool} {collection keyed : Json} (form : keyed? keeps collection = some keyed) :
    ∃ items names, collection = .array items ∧ items.mapM ownName? = some names ∧
      keyed = .object (names.zip (items.mapIdx fun position entry =>
        if keeps position then entry else withoutName entry)) := by
  cases collection with
  | array items =>
    simp only [keyed?, Option.bind_eq_bind, Option.bind_eq_some_iff] at form
    obtain ⟨names, named, distinct⟩ := form
    split at distinct
    · exact ⟨items, names, rfl, named, (Option.some.inj distinct).symm⟩
    · cases distinct
  | _ => cases form

theorem rekeyed_cases (choice : Option (Nat → Bool)) (collection : Json) :
    rekeyed choice collection = collection ∨ ∃ keeps, keyed? keeps collection = some (rekeyed choice collection) := by
  unfold rekeyed
  cases choice with
  | none => exact .inl rfl
  | some keeps =>
    rw [Option.bind_some]
    cases form : keyed? keeps collection with
    | none => exact .inl rfl
    | some keyed => exact .inr ⟨keeps, form⟩

theorem isNull_rekeyed (choice : Option (Nat → Bool)) (collection : Json) :
    (rekeyed choice collection).isNull = collection.isNull := by
  rcases rekeyed_cases choice collection with same | ⟨keeps, form⟩
  · rw [same]
  · obtain ⟨items, names, rfl, -, keyed⟩ := keyed?_eq_some form
    rw [keyed]
    rfl

theorem isNull_changeEntries (change : Nat → Json → Json) (collection : Json) :
    (changeEntries change collection).isNull = collection.isNull := by
  cases collection <;> rfl

namespace Decoding

theorem present?_changeMember_of_ne {key other : String} (different : other ≠ key) (change : Json → Json)
    (members : Json.Members) : present? (changeMember key change members) other = present? members other := by
  rw [present?_eq_filter, present?_eq_filter, changeMember,
    lookup_map_values fun name value => if name = key then change value else value]
  simp only [if_neg different, Option.map_id']

theorem present?_changeMember {key : String} {change : Json → Json}
    (nulls : ∀ value, (change value).isNull = value.isNull) (members : Json.Members) :
    present? (changeMember key change members) key = (present? members key).map change := by
  rw [present?_eq_filter, present?_eq_filter, changeMember,
    lookup_map_values fun name value => if name = key then change value else value]
  cases members.lookup key with
  | none => rfl
  | some value =>
    simp only [↓reduceIte, Option.map_some, Option.filter_some, nulls]
    cases value.isNull <;> rfl

/-- An entry under its name, and the same entry where it needs a name of its own. -/
structure StandsFor (name : String) (keyed plain : Json.Members) : Prop where
  keyedName : ∀ entity, nameOf keyed (some name) entity = .ok name
  plainName : ∀ entity, nameOf plain none entity = .ok name
  others : ∀ key, key ≠ "name" → present? keyed key = present? plain key

theorem standsFor_self {name : String} {members : Json.Members}
    (named : members.lookup "name" = some (.string name)) : StandsFor name members members := by
  have given : Denotation.Given members "name" (.string name) := by
    refine ⟨named, fun null => ?_⟩
    cases null
  exact ⟨fun _ => (nameOf_of_given given).2 ⟨rfl, .inr rfl⟩, fun _ => (nameOf_of_given given).2 ⟨rfl, .inl rfl⟩,
    fun _ _ => rfl⟩

theorem standsFor_withoutName {name : String} {members : Json.Members}
    (named : members.lookup "name" = some (.string name)) :
    StandsFor name (members.filter (·.1 != "name")) members := by
  have missing : Denotation.Missing (members.filter (·.1 != "name")) "name" := by
    intro value found
    rw [lookup_filter_ne, if_pos rfl] at found
    cases found
  refine ⟨fun _ => (nameOf_of_missing missing).2 rfl, (standsFor_self named).plainName, fun key other => ?_⟩
  rw [present?_eq_filter, present?_eq_filter, lookup_filter_ne, if_neg other]

theorem lookup_of_ownName? {entry : Json} {name : String} (own : ownName? entry = some name) :
    ∃ members, entry = .object members ∧ members.lookup "name" = some (.string name) := by
  obtain ⟨value, found, text⟩ := Option.bind_eq_some_iff.1 own
  cases entry with
  | object members =>
    rw [asString?_eq_some_iff.1 text] at found
    exact ⟨members, rfl, found⟩
  | _ => cases found

/-- A decoder to which an entry is the same in both forms. -/
def Indifferent {α : Type} (decode : Nat → Entry → Except ParseError α) : Prop :=
  ∀ position name keyed plain, StandsFor name keyed plain →
    decode position (some name, .object keyed) = decode position (none, .object plain)

section Collection

variable {α β : Type} {decode : Nat → Entry → Except ParseError α}

/-- Entries under their names are decoded like the array of them, whichever of them keep their own. -/
theorem each_zip (indifferent : Indifferent decode) {form : Nat → Json → Json}
    (kept : ∀ index entry, form index entry = entry ∨ form index entry = withoutName entry) {items : List Json}
    {names : List String} (named : items.mapM ownName? = some names) (position : Nat) :
    each decode position ((names.zip (items.mapIdx form)).map fun (key, value) => (some key, value)) =
      each decode position (items.map (none, ·)) := by
  induction items generalizing names form position with
  | nil =>
    cases named
    rfl
  | cons entry rest ih =>
    simp only [List.mapM_cons, Option.bind_eq_bind, Option.bind_eq_some_iff, Option.pure_def,
      Option.some.injEq] at named
    obtain ⟨name, own, others, more, rfl⟩ := named
    obtain ⟨members, rfl, found⟩ := lookup_of_ownName? own
    have first : decode position (some name, form 0 (.object members)) = decode position (none, .object members) := by
      rcases kept 0 (.object members) with same | without
      · rw [same]
        exact indifferent position name _ _ (standsFor_self found)
      · rw [without]
        exact indifferent position name _ _ (standsFor_withoutName found)
    rw [List.mapIdx_cons, List.zip_cons_cons, List.map_cons, List.map_cons, each, each, first,
      ih (fun index => kept (index + 1)) more]

/-- A collection is decoded alike in all its forms. -/
theorem collection_rekeyed (indifferent : Indifferent decode) (choice : Option (Nat → Bool)) (entity : Entity)
    (key : String) (collection : Json) :
    (entriesOf entity key (rekeyed choice collection) >>= each decode 0) =
      (entriesOf entity key collection >>= each decode 0) := by
  rcases rekeyed_cases choice collection with same | ⟨keeps, form⟩
  · rw [same]
  · obtain ⟨items, names, rfl, named, keyed⟩ := keyed?_eq_some form
    rw [keyed]
    refine each_zip indifferent (fun index entry => ?_) named 0
    cases keeps index with
    | true => exact .inl rfl
    | false => exact .inr rfl

theorem each_mapIdx {γ : Type} {wrap : γ → Entry} {change : Nat → γ → γ}
    (same : ∀ index position entry, decode position (wrap (change index entry)) = decode position (wrap entry))
    (position : Nat) (entries : List γ) :
    each decode position ((entries.mapIdx change).map wrap) = each decode position (entries.map wrap) := by
  induction entries generalizing position change with
  | nil => rfl
  | cons entry rest ih =>
    rw [List.mapIdx_cons, List.map_cons, List.map_cons, each, each, same,
      ih (fun index => same (index + 1)) (position + 1)]

/-- Entries may be changed where decoding does not look. -/
theorem collection_changeEntries {change : Nat → Json → Json}
    (same : ∀ index position key entry, decode position (key, change index entry) = decode position (key, entry))
    (entity : Entity) (key : String) (collection : Json) :
    (entriesOf entity key (changeEntries change collection) >>= each decode 0) =
      (entriesOf entity key collection >>= each decode 0) := by
  cases collection with
  | array items => exact each_mapIdx (fun index position => same index position none) 0 items
  | object members =>
    let wrap (member : String × Json) : Entry := (some member.1, member.2)
    let changeValue (index : Nat) (member : String × Json) : String × Json := (member.1, change index member.2)
    have each : ∀ index position member,
        decode position (wrap (changeValue index member)) = decode position (wrap member) :=
      fun index position member => same index position (some member.1) member.2
    exact each_mapIdx each 0 members
  | _ => rfl

end Collection

theorem indifferent_primitive : Indifferent Decoding.primitive := by
  intro position name keyed plain stands
  have doc : docKey keyed (.primitive name) = docKey plain (.primitive name) := by
    rw [docKey, docKey, stands.others "doc" (by decide)]
  simp only [Decoding.primitive, membersOf, Json.asObject?, stands.keyedName, stands.plainName, bind, Except.bind,
    doc]

theorem indifferent_field (type : String) : Indifferent (Decoding.field type) := by
  intro position name keyed plain stands
  have doc : docKey keyed (.field type name) = docKey plain (.field type name) := by
    rw [docKey, docKey, stands.others "doc" (by decide)]
  have returnType : stringKey keyed (.field type name) "return_type" =
      stringKey plain (.field type name) "return_type" := by
    rw [stringKey, stringKey, mandatory, mandatory, stands.others "return_type" (by decide)]
  have flag : ∀ key, key ≠ "name" → boolKey keyed (.field type name) key = boolKey plain (.field type name) key := by
    intro key other
    rw [boolKey, boolKey, stands.others key other]
  have params : paramsKey keyed type name = paramsKey plain type name := by
    rw [paramsKey, paramsKey, stands.others "params" (by decide)]
  simp only [Decoding.field, membersOf, Json.asObject?, stands.keyedName, stands.plainName, bind, Except.bind, doc,
    returnType, flag "return_list" (by decide), flag "null" (by decide), params]

theorem indifferent_type : Indifferent Decoding.type := by
  intro position name keyed plain stands
  have doc : docKey keyed (.type name) = docKey plain (.type name) := by
    rw [docKey, docKey, stands.others "doc" (by decide)]
  have fields : mandatory keyed (.type name) "fields" = mandatory plain (.type name) "fields" := by
    rw [mandatory, mandatory, stands.others "fields" (by decide)]
  simp only [Decoding.type, membersOf, Json.asObject?, stands.keyedName, stands.plainName, bind, Except.bind, doc,
    fields]

theorem mandatory_bind_changeMember {α : Type} {key : String} {change : Json → Json} {entity : Entity}
    {read : Json → Except ParseError α} (nulls : ∀ value, (change value).isNull = value.isNull)
    (same : ∀ value, read (change value) = read value) (members : Json.Members) :
    (mandatory (changeMember key change members) entity key >>= read) = (mandatory members entity key >>= read) := by
  rw [mandatory, mandatory, present?_changeMember nulls]
  cases present? members key with
  | none => rfl
  | some value => exact same value

theorem type_typeEntry (keying : Keying) (index position : Nat) (key : Option String) (entry : Json) :
    Decoding.type position (key, keying.typeEntry index entry) = Decoding.type position (key, entry) := by
  cases entry with
  | object members =>
    let changed := changeMember "fields" (rekeyed (keying.fields index)) members
    have others : ∀ other, other ≠ "fields" → present? changed other = present? members other :=
      fun other different => present?_changeMember_of_ne different _ members
    have name : ∀ entity, nameOf changed key entity = nameOf members key entity := by
      intro entity
      unfold nameOf
      rw [others "name" (by decide)]
    have doc : ∀ entity, docKey changed entity = docKey members entity := by
      intro entity
      rw [docKey, docKey, others "doc" (by decide)]
    have fields : ∀ (name : String) (build : List Field → Except ParseError TypeDecl),
        (mandatory changed (.type name) "fields" >>= fun value =>
          entriesOf (.type name) "fields" value >>= each (Decoding.field name) 0 >>= build) =
        (mandatory members (.type name) "fields" >>= fun value =>
          entriesOf (.type name) "fields" value >>= each (Decoding.field name) 0 >>= build) := by
      intro name build
      refine mandatory_bind_changeMember (isNull_rekeyed _) (fun value => ?_) members
      rw [collection_rekeyed (indifferent_field name)]
    simp only [bind_assoc] at fields
    show Decoding.type position (key, .object changed) = _
    simp only [Decoding.type, membersOf, Json.asObject?, ok_bind, name, doc, fields]
  | _ => rfl

theorem collection_typesOf (keying : Keying) (entity : Entity) (key : String) (types : Json) :
    (entriesOf entity key (keying.typesOf types) >>= each Decoding.type 0) =
      (entriesOf entity key types >>= each Decoding.type 0) := by
  rw [Keying.typesOf, collection_rekeyed indifferent_type, collection_changeEntries (type_typeEntry keying)]

theorem primitivesKey_changeMember (choice : Option (Nat → Bool)) (members : Json.Members) :
    primitivesKey (changeMember "primitive_types" (rekeyed choice) members) = primitivesKey members := by
  rw [primitivesKey, primitivesKey, present?_changeMember (isNull_rekeyed choice)]
  cases present? members "primitive_types" with
  | none => rfl
  | some value => exact collection_rekeyed indifferent_primitive choice .schema "primitive_types" value

end Decoding

namespace Schema

open Decoding

theorem ofDocument_rekey (keying : Keying) (document : Json) :
    ofDocument (keying.rekey document) = ofDocument document := by
  cases document with
  | object members =>
    let listed := changeMember "primitive_types" (rekeyed keying.primitives) members
    have nulls : ∀ types, (keying.typesOf types).isNull = types.isNull := by
      intro types
      rw [Keying.typesOf, isNull_rekeyed, isNull_changeEntries]
    -- the two collections change one after the other, and no other key is touched
    have others : ∀ other, other ≠ "types" →
        present? (changeMember "types" keying.typesOf listed) other = present? listed other :=
      fun other different => present?_changeMember_of_ne different _ listed
    have root : stringKey (changeMember "types" keying.typesOf listed) .schema "root_type" =
        stringKey members .schema "root_type" := by
      rw [stringKey, stringKey, mandatory, mandatory, others "root_type" (by decide),
        present?_changeMember_of_ne (by decide)]
    have primitives : primitivesKey (changeMember "types" keying.typesOf listed) = primitivesKey members := by
      rw [← primitivesKey_changeMember keying.primitives members, primitivesKey, others "primitive_types" (by decide),
        primitivesKey]
    have types : ∀ build : List TypeDecl → Except ParseError Schema,
        (mandatory (changeMember "types" keying.typesOf listed) .schema "types" >>= fun value =>
          entriesOf .schema "types" value >>= each Decoding.type 0 >>= build) =
        (mandatory members .schema "types" >>= fun value =>
          entriesOf .schema "types" value >>= each Decoding.type 0 >>= build) := by
      intro build
      rw [mandatory_bind_changeMember nulls fun value => by rw [collection_typesOf]]
      rw [mandatory, mandatory, present?_changeMember_of_ne (by decide)]
    simp only [bind_assoc] at types
    show ofDocument (.object (changeMember "types" keying.typesOf listed)) = _
    simp only [ofDocument, membersOf, Json.asObject?, ok_bind, root, primitives, types]
  | _ => rfl

/-- A document denotes the same schema, or has the same error, in each of its forms. Every array of entries
with distinct names has its keyed form, with the entries in order. -/
theorem ofJson_rekey (keying : Keying) (document : Json) :
    ofJson (keying.rekey document) = ofJson document ∧
      ∀ keeps items names, items.mapM ownName? = some names → names.Nodup →
        rekeyed (some keeps) (.array items) = .object (names.zip (items.mapIdx fun position entry =>
          if keeps position then entry else withoutName entry)) := by
  refine ⟨by rw [ofJson, ofDocument_rekey, ofJson], fun keeps items names named distinct => ?_⟩
  have form : keyed? keeps (.array items) = some (.object (names.zip (items.mapIdx fun position entry =>
      if keeps position then entry else withoutName entry))) := by
    simp only [keyed?, named, Option.bind_eq_bind, Option.bind_some, if_pos distinct]
  rw [rekeyed, Option.bind_some, form, Option.getD_some]

/-- Two types and a primitive in arrays; the first type has two fields. -/
def listedDocument (returnType : Json) : Json :=
  .object
    [ ("primitive_types", .array [.object [("name", .string "Int"), ("doc", .string "A number")]])
    , ("types", .array
        [ .object [("fields", .array
            [ .object [("name", .string "x"), ("return_type", returnType)]
            , .object [("name", .string "y"), ("return_type", .string "B")] ]), ("name", .string "A")]
        , .object [("name", .string "B"), ("fields", .array [])] ])
    , ("root_type", .string "A") ]

/-- The same in objects, where the second type and its first field keep their names. -/
def mixedDocument (returnType : Json) : Json :=
  .object
    [ ("primitive_types", .object [("Int", .object [("doc", .string "A number")])])
    , ("types", .object
        [ ("A", .object [("fields", .object
            [ ("x", .object [("name", .string "x"), ("return_type", returnType)])
            , ("y", .object [("return_type", .string "B")]) ])])
        , ("B", .object [("name", .string "B"), ("fields", .array [])]) ])
    , ("root_type", .string "A") ]

/-- Every collection but the empty one. -/
def mixedKeying : Keying := ⟨some fun _ => false, some (· == 1), fun type => if type = 0 then some (· == 0) else none⟩

theorem ofJson_rekey_of_mixedKeying :
    ofJson (mixedDocument (.string "Int")) = ofJson (listedDocument (.string "Int")) ∧
      ofJson (mixedDocument .null) = .error (.parse (.missingKey (.field "A" "x") "return_type")) := by
  have sound : mixedKeying.rekey (listedDocument (.string "Int")) = mixedDocument (.string "Int") := by decide +kernel
  have faulty : mixedKeying.rekey (listedDocument .null) = mixedDocument .null := by decide +kernel
  have refused : ofJson (listedDocument .null) = .error (.parse (.missingKey (.field "A" "x") "return_type")) := by
    decide +kernel
  rw [← sound, ← faulty]
  exact ⟨(ofJson_rekey mixedKeying _).1, (ofJson_rekey mixedKeying _).1.trans refused⟩

end Schema

end FieldTypes
