set_option autoImplicit false

namespace FieldTypes

variable {α : Type}

theorem lookup_filter_ne {κ : Type} [BEq κ] [LawfulBEq κ] [DecidableEq κ] (key other : κ)
    (entries : List (κ × α)) :
    (entries.filter (·.1 != key)).lookup other = if other = key then none else entries.lookup other := by
  induction entries with
  | nil => simp
  | cons head rest ih =>
    obtain ⟨first, value⟩ := head
    by_cases same : first = key
    · rw [List.filter_cons_of_neg (by simp [same]), ih]
      by_cases h : other = key
      · rw [if_pos h, if_pos h]
      · rw [if_neg h, if_neg h, List.lookup_cons, same, beq_eq_false_iff_ne.2 h]
    · rw [List.filter_cons_of_pos (by simp [same]), List.lookup_cons, List.lookup_cons, ih]
      by_cases h : other = first
      · rw [h, beq_self_eq_true]
        exact (if_neg same).symm
      · rw [beq_eq_false_iff_ne.2 h]

theorem lookup_map_values (change : String → α → α) (key : String) (entries : List (String × α)) :
    (entries.map fun entry => (entry.1, change entry.1 entry.2)).lookup key =
      (entries.lookup key).map (change key) := by
  induction entries with
  | nil => rfl
  | cons head rest ih =>
    obtain ⟨first, value⟩ := head
    rw [List.map_cons, List.lookup_cons, List.lookup_cons, ih]
    by_cases same : key = first
    · rw [same, beq_self_eq_true, Option.map_some]
    · rw [beq_eq_false_iff_ne.2 same]

theorem mem_of_lookup {key : String} {value : α} {entries : List (String × α)}
    (found : entries.lookup key = some value) : (key, value) ∈ entries := by
  obtain ⟨before, after, rfl, -⟩ := List.lookup_eq_some_iff.1 found
  exact List.mem_append_right before List.mem_cons_self

theorem lookup_of_mem {key : String} {value : α} {entries : List (String × α)}
    (nodup : (entries.map (·.1)).Nodup) (mem : (key, value) ∈ entries) : entries.lookup key = some value := by
  obtain ⟨before, after, rfl⟩ := List.append_of_mem mem
  rw [List.map_append, List.map_cons, List.nodup_append] at nodup
  refine List.lookup_eq_some_iff.2 ⟨before, after, rfl, fun entry earlier => bne_iff_ne.2 ?_⟩
  exact (nodup.2.2 entry.1 (List.mem_map_of_mem earlier) key List.mem_cons_self).symm

theorem lookup_perm {entries other : List (String × α)} (nodup : (entries.map (·.1)).Nodup)
    (perm : entries.Perm other) (key : String) : entries.lookup key = other.lookup key := by
  have nodupOther : (other.map (·.1)).Nodup := (perm.map _).nodup_iff.1 nodup
  cases found : other.lookup key with
  | none =>
    rw [List.lookup_eq_none_iff] at found ⊢
    exact fun entry mem => found entry (perm.mem_iff.1 mem)
  | some value => exact lookup_of_mem nodup (perm.mem_iff.2 (mem_of_lookup found))

theorem lookup_around {before after : List (String × α)} {key : String} (value : α)
    (first : before.lookup key = none) : (before ++ (key, value) :: after).lookup key = some value := by
  rw [List.lookup_append, first, Option.none_or, List.lookup_cons, beq_self_eq_true]

theorem lookup_aside {before after : List (String × α)} {key other : String} (value : α) (different : other ≠ key) :
    (before ++ (key, value) :: after).lookup other = (before ++ after).lookup other := by
  rw [List.lookup_append, List.lookup_append, List.lookup_cons, beq_eq_false_iff_ne.2 different]

end FieldTypes
