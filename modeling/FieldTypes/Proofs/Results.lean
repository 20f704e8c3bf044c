set_option autoImplicit false

namespace FieldTypes

section Results

variable {ε δ α β : Type}

theorem exists_of_snd_eq {pair : α × β} {second : β} (same : pair.2 = second) :
    ∃ first, pair = (first, second) :=
  ⟨pair.1, same ▸ rfl⟩

theorem bind_eq_ok {first : Except ε α} {next : α → Except ε β} {result : β} :
    (first >>= next) = .ok result ↔ ∃ value, first = .ok value ∧ next value = .ok result := by
  cases first with
  | error reason => simp [bind, Except.bind]
  | ok value => simp [bind, Except.bind]

theorem ok_bind (value : α) (next : α → Except ε β) : (Except.ok value >>= next) = next value := rfl

theorem map_eq_ok {first : Except ε α} {build : α → β} {result : β} :
    first.map build = .ok result ↔ ∃ value, first = .ok value ∧ build value = result := by
  cases first with
  | error reason => simp [Except.map]
  | ok value => simp [Except.map]

theorem map_eq_error {first : Except ε α} {build : α → β} {reason : ε} :
    first.map build = .error reason ↔ first = .error reason := by
  cases first <;> simp [Except.map]

theorem mapError_error (change : ε → δ) (reason : ε) :
    (Except.error reason : Except ε α).mapError change = .error (change reason) := rfl

theorem mapError_ok (change : ε → δ) (value : α) :
    (Except.ok value : Except ε α).mapError change = .ok value := rfl

theorem mapError_eq_ok {first : Except ε α} {change : ε → δ} {value : α} :
    first.mapError change = .ok value ↔ first = .ok value := by
  cases first with
  | error reason => simp only [mapError_error, reduceCtorEq]
  | ok value => simp only [mapError_ok, Except.ok.injEq]

theorem bind_eq_error {first : Except ε α} {next : α → Except ε β} {reason : ε} :
    (first >>= next) = .error reason ↔
      first = .error reason ∨ ∃ value, first = .ok value ∧ next value = .error reason := by
  cases first with
  | error other => simp [bind, Except.bind]
  | ok value => simp [bind, Except.bind]

theorem mapError_eq_error {first : Except ε α} {change : ε → δ} {reason : δ} :
    first.mapError change = .error reason ↔ ∃ cause, first = .error cause ∧ change cause = reason := by
  cases first with
  | error cause => simp only [mapError_error, Except.error.injEq, exists_eq_left']
  | ok value => simp only [mapError_ok, reduceCtorEq, false_and, exists_false]

section Sequence

variable {f : α → Except ε β}

theorem mapM_congr {g : α → Except ε β} {xs : List α} (same : ∀ x ∈ xs, f x = g x) : xs.mapM f = xs.mapM g := by
  induction xs with
  | nil => rfl
  | cons x xs ih =>
    rw [List.forall_mem_cons] at same
    rw [List.mapM_cons, List.mapM_cons, same.1, ih same.2]

theorem mapM_cons_ok {first : α} {rest : List α} {results : List β} :
    (first :: rest).mapM f = .ok results ↔
      ∃ result others, f first = .ok result ∧ rest.mapM f = .ok others ∧ results = result :: others := by
  simp only [List.mapM_cons, bind_eq_ok, pure, Except.pure, Except.ok.injEq]
  constructor
  · rintro ⟨result, done, others, more, same⟩
    exact ⟨result, others, done, more, same.symm⟩
  · rintro ⟨result, others, done, more, same⟩
    exact ⟨result, done, others, more, same.symm⟩

theorem mapM_ok_iff {value : α → β} (values : ∀ x result, f x = .ok result → result = value x)
    {xs : List α} {results : List β} :
    xs.mapM f = .ok results ↔ (∀ x ∈ xs, f x = .ok (value x)) ∧ results = xs.map value := by
  induction xs generalizing results with
  | nil => simp [pure, Except.pure, eq_comm]
  | cons x xs ih =>
    rw [mapM_cons_ok, List.forall_mem_cons, List.map_cons]
    constructor
    · rintro ⟨result, others, done, more, rfl⟩
      obtain ⟨all, rfl⟩ := ih.1 more
      rw [← values x result done]
      exact ⟨⟨done, all⟩, rfl⟩
    · rintro ⟨⟨done, all⟩, rfl⟩
      exact ⟨_, _, done, ih.2 ⟨all, rfl⟩, rfl⟩

theorem mapM_cons_error {first : α} {rest : List α} {reason : ε} :
    (first :: rest).mapM f = .error reason ↔
      f first = .error reason ∨ (∃ result, f first = .ok result) ∧ rest.mapM f = .error reason := by
  rw [List.mapM_cons]
  cases f first with
  | error other => simp [bind, Except.bind]
  | ok result => cases rest.mapM f <;> simp [bind, Except.bind, pure, Except.pure]

theorem mapM_error_iff {xs : List α} {reason : ε} :
    xs.mapM f = .error reason ↔
      ∃ (position : Nat) (x : α), xs[position]? = some x ∧ f x = .error reason ∧
        ∀ earlier < position, ∀ y, xs[earlier]? = some y → ∃ result, f y = .ok result := by
  induction xs with
  | nil => simp [pure, Except.pure]
  | cons x xs ih =>
    rw [mapM_cons_error, ih]
    constructor
    · rintro (failed | ⟨done, position, y, found, failed, before⟩)
      · refine ⟨0, x, rfl, failed, ?_⟩
        intro earlier less
        exact absurd less (Nat.not_lt_zero earlier)
      · refine ⟨position + 1, y, found, failed, ?_⟩
        intro earlier less z there
        cases earlier with
        | zero => exact (Option.some.inj there) ▸ done
        | succ earlier => exact before earlier (Nat.lt_of_succ_lt_succ less) z there
    · rintro ⟨position, y, found, failed, before⟩
      cases position with
      | zero => exact .inl ((Option.some.inj found) ▸ failed)
      | succ position =>
        refine .inr ⟨before 0 (Nat.succ_pos position) x rfl, position, y, found, failed, ?_⟩
        intro earlier less z there
        exact before (earlier + 1) (Nat.succ_lt_succ less) z there

end Sequence

section FirstFault

variable {fault : α → ε → Prop} {items : List α} {error : ε}

/-- The error is a fault of a member, and nothing before that member is faulty. -/
def FirstOf (fault : α → ε → Prop) (items : List α) (error : ε) : Prop :=
  ∃ before item after, items = before ++ item :: after ∧
    (∀ other ∈ before, ∀ reason, ¬ fault other reason) ∧ fault item error

@[simp] theorem not_firstOf_nil : ¬ FirstOf fault [] error := by
  rintro ⟨before, item, after, split, -⟩
  cases before <;> cases split

theorem firstOf_cons {item : α} :
    FirstOf fault (item :: items) error ↔
      fault item error ∨ (∀ reason, ¬ fault item reason) ∧ FirstOf fault items error := by
  constructor
  · rintro ⟨before, other, after, split, sound, faulty⟩
    cases before with
    | nil =>
      injection split with same
      exact .inl (same ▸ faulty)
    | cons first before =>
      injection split with same rest
      rw [List.forall_mem_cons] at sound
      exact .inr ⟨same ▸ sound.1, before, other, after, rest, sound.2, faulty⟩
  · rintro (faulty | ⟨soundItem, before, other, after, rfl, sound, faulty⟩)
    · exact ⟨[], item, items, rfl, fun _ => nofun, faulty⟩
    · exact ⟨item :: before, other, after, rfl, List.forall_mem_cons.2 ⟨soundItem, sound⟩, faulty⟩

theorem exists_firstOf {item : α} (mem : item ∈ items) (faulty : fault item error) :
    ∃ reason, FirstOf fault items reason := by
  induction items with
  | nil => cases mem
  | cons first rest ih =>
    by_cases faultyFirst : ∃ reason, fault first reason
    · obtain ⟨reason, faultyFirst⟩ := faultyFirst
      exact ⟨reason, firstOf_cons.2 (.inl faultyFirst)⟩
    · rcases List.mem_cons.1 mem with rfl | mem
      · exact absurd ⟨error, faulty⟩ faultyFirst
      · obtain ⟨reason, later⟩ := ih mem
        exact ⟨reason, firstOf_cons.2 (.inr ⟨not_exists.1 faultyFirst, later⟩)⟩

/-- A computation that goes through a list and stops at a faulty member gives the first fault. -/
theorem error_iff_firstOf {σ : Type} (result : σ → List α → Except ε β)
    (unique : ∀ item reason other, fault item reason → fault item other → reason = other)
    (nil : ∀ state reason, result state [] ≠ .error reason)
    (cons : ∀ state item,
      (∃ reason, fault item reason ∧ ∀ rest, result state (item :: rest) = .error reason) ∨
        (∀ reason, ¬ fault item reason) ∧ ∃ next, ∀ rest reason,
          result state (item :: rest) = .error reason ↔ result next rest = .error reason)
    (state : σ) : result state items = .error error ↔ FirstOf fault items error := by
  induction items generalizing state with
  | nil => exact iff_of_false (nil state error) not_firstOf_nil
  | cons item rest ih =>
    rw [firstOf_cons]
    rcases cons state item with ⟨reason, faulty, stops⟩ | ⟨sound, next, goes⟩
    · rw [stops, Except.error.injEq]
      constructor
      · rintro rfl
        exact .inl faulty
      · rintro (other | ⟨sound, -⟩)
        · exact unique item reason error faulty other
        · exact absurd faulty (sound reason)
    · rw [goes, ih]
      constructor
      · exact fun later => .inr ⟨sound, later⟩
      · rintro (faulty | ⟨-, later⟩)
        · exact absurd faulty (sound error)
        · exact later

end FirstFault

end Results

end FieldTypes
