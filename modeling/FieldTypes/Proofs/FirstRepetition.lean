import FieldTypes.Proofs.StrictReading

set_option autoImplicit false

namespace FieldTypes

namespace Json

theorem memberOccurrences_append (path : List String) (first second : Members) :
    memberOccurrences path (first ++ second) = memberOccurrences path first ++ memberOccurrences path second := by
  induction first with
  | nil => rfl
  | cons member first ih =>
    obtain ⟨key, value⟩ := member
    rw [List.cons_append, memberOccurrences, memberOccurrences, ih, List.cons_append, List.append_assoc]

/-- Reading the value, the first key that its object has already is this one, in the object at the path. Only
paths through objects are followed. -/
inductive FirstRepetition : Json → List String → String → Prop
  | here {before after : Members} {key : String} {value : Json} (distinct : (Json.object before).KeysDistinct)
      (known : key ∈ before.map (·.1)) : FirstRepetition (.object (before ++ (key, value) :: after)) [] key
  | member {before after : Members} {key again : String} {value : Json} {path : List String}
      (distinct : (Json.object before).KeysDistinct) (new : key ∉ before.map (·.1))
      (inside : FirstRepetition value path again) :
      FirstRepetition (.object (before ++ (key, value) :: after)) (key :: path) again

namespace FirstRepetition

variable {value : Json} {path : List String} {key : String}

/-- The part of the value before its first repetition repeats nothing and has the key that is repeated. -/
theorem cut (repetition : FirstRepetition value path key) (base : List String) :
    ∃ (done : Json) (rest : List Occurrence),
      value.occurrences base = done.occurrences base ++ ⟨base ++ path, key⟩ :: rest ∧
      done.KeysDistinct ∧ (⟨base ++ path, key⟩ : Occurrence) ∈ done.occurrences base := by
  induction repetition generalizing base with
  | @here before after key value distinct known =>
    refine ⟨.object before, value.occurrences (base ++ [key]) ++ memberOccurrences base after, ?_, distinct, ?_⟩
    · simp only [occurrences, memberOccurrences_append, memberOccurrences, List.append_nil]
    · rw [List.append_nil]
      exact mem_occurrences_iff.2 ⟨[], before, .here _, (List.append_nil base).symm, known⟩
  | @member before after key again value path distinct new _ ih =>
    obtain ⟨done, rest, split, distinctDone, mem⟩ := ih (base ++ [key])
    rw [List.append_assoc, List.singleton_append] at split mem
    have read : (Json.object (before ++ [(key, done)])).occurrences base =
        memberOccurrences base before ++ ⟨base, key⟩ :: done.occurrences (base ++ [key]) := by
      simp only [occurrences, memberOccurrences_append, memberOccurrences, List.append_nil]
    refine ⟨.object (before ++ [(key, done)]), rest ++ memberOccurrences base after, ?_, ?_, ?_⟩
    · rw [read]
      simp only [occurrences, memberOccurrences_append, memberOccurrences, split, List.append_assoc, List.cons_append]
    · rw [keysDistinct_object] at distinct ⊢
      refine ⟨?_, ?_⟩
      · rw [List.map_append, List.map_singleton]
        exact distinct.1.append (List.nodup_singleton key) (List.disjoint_singleton.2 new)
      · rw [List.forall_mem_append, List.forall_mem_singleton]
        exact ⟨distinct.2, distinctDone⟩
    · rw [read]
      exact List.mem_append_right _ (List.mem_cons_of_mem _ mem)

/-- A member that holds the first repetition, among others that hold none. -/
theorem of_member {members : Members} {holder : String} (nodup : (members.map (·.1)).Nodup)
    (mem : (holder, value) ∈ members) (others : ∀ member ∈ members, member.1 ≠ holder → member.2.KeysDistinct)
    (inside : FirstRepetition value path key) : FirstRepetition (.object members) (holder :: path) key := by
  obtain ⟨before, after, rfl⟩ := List.append_of_mem mem
  rw [List.map_append, List.map_cons, List.nodup_append'] at nodup
  have new : holder ∉ before.map (·.1) := fun known => nodup.2.2 known List.mem_cons_self
  refine .member (keysDistinct_object.2 ⟨nodup.1, fun member before => ?_⟩) new inside
  refine others member (List.mem_append_left _ before) ?_
  rintro rfl
  exact new (List.mem_map.2 ⟨member, before, rfl⟩)

end FirstRepetition

end Json

namespace Document

open Json (FirstRepetition Occurrence)

/-- Strict reading reports the first repetition in the value that a text spells. -/
theorem read_of_firstRepetition {text : String} {value : Json} {path : List String} {key : String}
    (spelled : Json.read text = .ok value) (repetition : FirstRepetition value path key) :
    read text = .error (.repeated ⟨path, key⟩) := by
  obtain ⟨done, rest, split, distinct, mem⟩ := repetition.cut []
  rw [List.nil_append] at split mem
  have first : FirstRepeated (value.occurrences []) ⟨path, key⟩ :=
    ⟨done.occurrences [], rest, split, distinct.nodup_occurrences [], mem⟩
  rw [read_eq_strictly, completedKeys_eq_occurrences spelled, firstRepeat_of_firstRepeated first]
  rfl

end Document

end FieldTypes
