import FieldTypes.Proofs.Results
import FieldTypes.Proofs.StoreView

set_option autoImplicit false

namespace FieldTypes

open Store (Place Item)

namespace Path

/-- The place that a segment leads to. -/
def next (here : Place) (segment : String) : Place :=
  if segment = "" ∨ segment = "." then here
  else if segment = ".." then here.dropLast
  else here ++ [.text segment]

/-- The place that segments lead to. -/
def lead (here : Place) (segments : List String) : Place := segments.foldl next here

/-- The places that segments enter by a name, in order. -/
def entered (here : Place) : List String → List Place
  | [] => []
  | segment :: rest =>
    if segment = "" ∨ segment = "." ∨ segment = ".." then entered (next here segment) rest
    else (here ++ [.text segment]) :: entered (here ++ [.text segment]) rest

/-- The place of the file that a path names. -/
def place (path : String) : Place := lead [] (segments path)

/-- The places of the directories that are made for a file, as far as they are missing. -/
def directories (path : String) : List Place := entered [] (segments ((parent? path).getD ""))

theorem next_cases (here : Place) (segment : String) :
    ((segment = "" ∨ segment = ".") ∧ next here segment = here) ∨
      (segment = ".." ∧ next here segment = here.dropLast) ∨
      ((segment ≠ "" ∧ segment ≠ "." ∧ segment ≠ "..") ∧ next here segment = here ++ [.text segment]) := by
  unfold next
  by_cases idle : segment = "" ∨ segment = "."
  · exact .inl ⟨idle, if_pos idle⟩
  · rw [if_neg idle]
    rw [not_or] at idle
    by_cases up : segment = ".."
    · exact .inr (.inl ⟨up, if_pos up⟩)
    · exact .inr (.inr ⟨⟨idle.1, idle.2, up⟩, if_neg up⟩)

theorem lead_append_name {front : List String} {last : String} (here : Place)
    (named : last ≠ "" ∧ last ≠ "." ∧ last ≠ "..") :
    lead here (front ++ [last]) = lead here front ++ [.text last] := by
  rw [lead, List.foldl_append, List.foldl_cons, List.foldl_nil, ← lead]
  rcases next_cases (lead here front) last with ⟨idle, -⟩ | ⟨up, -⟩ | ⟨-, led⟩
  · exact absurd idle (not_or.2 ⟨named.1, named.2.1⟩)
  · exact absurd up named.2.2
  · exact led

theorem entered_cons_name {here : Place} {segment : String}
    (named : segment ≠ "" ∧ segment ≠ "." ∧ segment ≠ "..") (rest : List String) :
    entered here (segment :: rest) = (here ++ [.text segment]) :: entered (here ++ [.text segment]) rest := by
  rw [entered, if_neg]
  rintro (empty | dot | up)
  · exact named.1 empty
  · exact named.2.1 dot
  · exact named.2.2 up

theorem entered_cons_other {here : Place} {segment : String}
    (other : segment = "" ∨ segment = "." ∨ segment = "..") (rest : List String) :
    entered here (segment :: rest) = entered (next here segment) rest := by
  rw [entered, if_pos other]

end Path

namespace Store

open FieldTypes.Path (next lead entered)

variable {store later : Store}

/-- Segments can be followed: every place that one is followed from is a directory. -/
def Passable (store : Store) (here : Place) : List String → Prop
  | [] => True
  | segment :: rest =>
    store.item? here = some .directory ∧ isTooLong segment = false ∧ Passable store (next here segment) rest

/-- Every directory of a store is one in the other. -/
def KeepsDirectories (store later : Store) : Prop :=
  ∀ place, store.item? place = some .directory → later.item? place = some .directory

theorem KeepsDirectories.trans {last : Store} (first : KeepsDirectories store later)
    (second : KeepsDirectories later last) : KeepsDirectories store last :=
  fun place there => second place (first place there)

theorem Passable.mono (keeps : KeepsDirectories store later) {here : Place} {segments : List String}
    (passable : Passable store here segments) : Passable later here segments := by
  induction segments generalizing here with
  | nil => trivial
  | cons segment rest ih =>
    obtain ⟨inside, short, further⟩ := passable
    exact ⟨keeps here inside, short, ih further⟩

theorem item?_eq_map (store : Store) (place : Place) :
    store.item? place = (store.at? place).map (·.view.item) := by
  rw [item?, view?, Option.map_map]
  rfl

/-- Following segments leads to the place that they name, exactly if they can be followed. -/
theorem follow_ok_iff {here place : Place} {segments : List String} :
    store.follow here segments = .ok place ↔ store.Passable here segments ∧ place = lead here segments := by
  induction segments generalizing here with
  | nil => simp [follow, Passable, lead, eq_comm]
  | cons segment rest ih =>
    rw [follow, Passable, item?_eq_map, lead, List.foldl_cons, ← lead]
    cases store.at? here with
    | none => simp
    | some entry =>
      cases entry with
      | file content => simp [Entry.view, View.item]
      | directory entries =>
        simp only [Option.map_some, Entry.view, View.item, true_and]
        rcases Path.next_cases here segment with ⟨idle, led⟩ | ⟨rfl, led⟩ | ⟨named, led⟩
        · have short : isTooLong segment = false := by rcases idle with rfl | rfl <;> decide +kernel
          rw [if_pos idle, led, ih]
          simp [short]
        · have short : isTooLong ".." = false := by decide +kernel
          rw [if_neg (by decide), if_pos rfl, led, ih]
          simp [short]
        · rw [if_neg (not_or.2 ⟨named.1, named.2.1⟩), if_neg named.2.2, led]
          by_cases long : isTooLong segment = true
          · simp [long]
          · rw [if_neg long, ih]
            simp [long]

/-- The only difference is that some of the places, where nothing stood, hold directories now. -/
def OnlyMakes (places : List Place) (store after : Store) : Prop :=
  ∀ place, after.item? place = store.item? place ∨
    place ∈ places ∧ store.item? place = none ∧ after.item? place = some .directory

theorem OnlyMakes.refl (places : List Place) (store : Store) : OnlyMakes places store store :=
  fun _ => .inl rfl

theorem OnlyMakes.keepsDirectories {places : List Place} (makes : OnlyMakes places store later) :
    KeepsDirectories store later := by
  intro place there
  rcases makes place with same | ⟨-, -, made⟩
  · rw [same, there]
  · exact made

theorem OnlyMakes.trans {places : List Place} {last : Store} (first : OnlyMakes places store later)
    (second : OnlyMakes places later last) : OnlyMakes places store last := by
  intro place
  rcases second place with same | ⟨mem, missing, made⟩
  · rw [same]
    exact first place
  · rcases first place with before | ⟨-, -, there⟩
    · exact .inr ⟨mem, before ▸ missing, made⟩
    · rw [there] at missing
      cases missing

theorem OnlyMakes.mono {places others : List Place} (makes : OnlyMakes places store later)
    (among : ∀ place ∈ places, place ∈ others) : OnlyMakes others store later :=
  fun place => (makes place).imp_right fun ⟨mem, rest⟩ => ⟨among place mem, rest⟩

theorem makeMissing_other {here : Place} {segment : String}
    (other : segment = "" ∨ segment = "." ∨ segment = "..") (store : Store) (made : Bool) (rest : List String) :
    store.makeMissing made here (segment :: rest) =
      store.makeMissing made (next here segment) rest := by
  rw [makeMissing_cons, next]
  by_cases idle : segment = "" ∨ segment = "."
  · rw [if_pos idle, if_pos idle]
  · rw [not_or] at idle
    have up := (other.resolve_left idle.1).resolve_left idle.2
    rw [if_neg (not_or.2 idle), if_neg (not_or.2 idle), if_pos up, if_pos up]

theorem makeMissing_name {here : Place} {segment : String}
    (named : segment ≠ "" ∧ segment ≠ "." ∧ segment ≠ "..") (store : Store) (made : Bool) (rest : List String) :
    store.makeMissing made here (segment :: rest) =
      if isTooLong segment then (store, .error .nameTooLong)
      else
        match store.at? (here ++ [.text segment]) with
        | none => (store.put (here ++ [.text segment]) empty).makeMissing true (here ++ [.text segment]) rest
        | some (.directory _) => store.makeMissing made (here ++ [.text segment]) rest
        | some (.file _) =>
          (store, .error (if made ∨ rest = [] then .alreadyExists else .notADirectory)) := by
  rw [makeMissing_cons]
  exact (if_neg (not_or.2 ⟨named.1, named.2.1⟩)).trans (if_neg named.2.2)

/-- How the making of directories goes. -/
inductive Makes : Store → Place → List String → Store × Except Fault Unit → Prop
  | done {store : Store} {here : Place} : Makes store here [] (store, .ok ())
  | pass {store : Store} {here : Place} {segment : String} {rest : List String}
      {result : Store × Except Fault Unit} (other : segment = "" ∨ segment = "." ∨ segment = "..")
      (further : Makes store (next here segment) rest result) : Makes store here (segment :: rest) result
  /-- A name is too long, or a file has it. -/
  | stop {store : Store} {here : Place} {segment : String} {rest : List String} (fault : Fault) :
      Makes store here (segment :: rest) (store, .error fault)
  | enter {store : Store} {here : Place} {segment : String} {rest : List String}
      {result : Store × Except Fault Unit} (named : segment ≠ "" ∧ segment ≠ "." ∧ segment ≠ "..")
      (short : isTooLong segment = false) (there : store.item? (here ++ [.text segment]) = some .directory)
      (further : Makes store (here ++ [.text segment]) rest result) : Makes store here (segment :: rest) result
  | make {store : Store} {here : Place} {segment : String} {rest : List String}
      {result : Store × Except Fault Unit} (named : segment ≠ "" ∧ segment ≠ "." ∧ segment ≠ "..")
      (short : isTooLong segment = false) (missing : store.item? (here ++ [.text segment]) = none)
      (further : Makes (store.put (here ++ [.text segment]) empty) (here ++ [.text segment]) rest result) :
      Makes store here (segment :: rest) result

theorem makes_makeMissing (store : Store) (made : Bool) (here : Place) (segments : List String) :
    Makes store here segments (store.makeMissing made here segments) := by
  induction segments generalizing store made here with
  | nil => exact .done
  | cons segment rest ih =>
    by_cases other : segment = "" ∨ segment = "." ∨ segment = ".."
    · rw [makeMissing_other other]
      exact .pass other (ih store _ _)
    · rw [not_or, not_or] at other
      rw [makeMissing_name other]
      cases short : isTooLong segment with
      | true => exact .stop _
      | false =>
        have kind := item?_eq_map store (here ++ [.text segment])
        rw [if_neg Bool.false_ne_true]
        cases there : store.at? (here ++ [.text segment]) with
        | none =>
          rw [there] at kind
          exact .make other short kind (ih _ _ _)
        | some entry =>
          rw [there] at kind
          cases entry with
          | file content => exact .stop _
          | directory entries => exact .enter other short kind (ih _ _ _)

theorem makes_makeDirectories (store : Store) (here : Place) (segments : List String) :
    Makes store here segments (store.makeDirectories here segments) :=
  makes_makeMissing store false here segments

/-- Nothing but directories is made, and only where they are missing. -/
theorem Makes.onlyMakes {here : Place} {segments : List String} {result : Store × Except Fault Unit}
    (makes : Makes store here segments result) (inside : store.item? here = some .directory) :
    OnlyMakes (entered here segments) store result.1 := by
  induction makes with
  | done => exact .refl _ _
  | @pass store here segment rest result other further ih =>
    rw [Path.entered_cons_other other]
    -- what a segment leads to without a name is a directory again
    apply ih
    rcases Path.next_cases here segment with ⟨-, led⟩ | ⟨-, led⟩ | ⟨named, -⟩
    · rw [led, inside]
    · rw [led, item?_dropLast inside]
    · exact absurd other (by simp [named])
  | stop fault => exact .refl _ _
  | enter named short there further ih =>
    rw [Path.entered_cons_name named]
    exact (ih there).mono fun place => List.mem_cons_of_mem _
  | @make store here segment rest result named short missing further ih =>
    have free : store.item? (here ++ [.text segment]) ≠ some .directory := by
      rw [missing]
      exact nofun
    have made := item?_put inside free isLeaf_empty
    have first : OnlyMakes [here ++ [.text segment]] store (store.put (here ++ [.text segment]) empty) := by
      intro place
      rw [made]
      split
      · rename_i same
        rw [same]
        exact .inr ⟨List.mem_singleton.2 rfl, missing, rfl⟩
      · exact .inl rfl
    rw [Path.entered_cons_name named]
    refine (first.mono ?_).trans ((ih ?_).mono fun place => List.mem_cons_of_mem _)
    · intro place mem
      rw [List.mem_singleton.1 mem]
      exact List.mem_cons_self
    · rw [made, if_pos rfl]
      rfl

theorem Makes.there {here : Place} {segments : List String} {result : Store × Except Fault Unit}
    (makes : Makes store here segments result) (inside : store.item? here = some .directory)
    (done : result.2 = .ok ()) :
    ∀ place ∈ entered here segments, result.1.item? place = some .directory := by
  induction makes with
  | done => exact fun _ => nofun
  | @pass store here segment rest result other further ih =>
    rw [Path.entered_cons_other other]
    refine ih ?_ done
    rcases Path.next_cases here segment with ⟨-, led⟩ | ⟨-, led⟩ | ⟨named, -⟩
    · rw [led, inside]
    · rw [led, item?_dropLast inside]
    · exact absurd other (by simp [named])
  | stop fault => cases done
  | enter named short there further ih =>
    rw [Path.entered_cons_name named, List.forall_mem_cons]
    exact ⟨(further.onlyMakes there).keepsDirectories _ there, ih there done⟩
  | @make store here segment rest result named short missing further ih =>
    have made : (store.put (here ++ [.text segment]) empty).item? (here ++ [.text segment]) = some .directory := by
      rw [item?_put inside (by rw [missing]; exact nofun) isLeaf_empty, if_pos rfl]
      rfl
    rw [Path.entered_cons_name named, List.forall_mem_cons]
    exact ⟨(further.onlyMakes made).keepsDirectories _ made, ih made done⟩

theorem Makes.again {here : Place} {segments : List String} {result : Store × Except Fault Unit}
    (makes : Makes store here segments result) (done : result.2 = .ok ())
    (there : ∀ place ∈ entered here segments, later.item? place = some .directory) (made : Bool) :
    later.makeMissing made here segments = (later, .ok ()) := by
  induction makes with
  | done => rfl
  | pass other further ih =>
    rw [Path.entered_cons_other other] at there
    rw [makeMissing_other other]
    exact ih done there
  | stop fault => cases done
  | enter named short _ further ih | make named short _ further ih =>
    rw [Path.entered_cons_name named, List.forall_mem_cons] at there
    rw [makeMissing_name named, short, if_neg Bool.false_ne_true]
    have kind := there.1
    rw [item?_eq_map] at kind
    obtain ⟨entry, found, isDirectory⟩ := Option.map_eq_some_iff.1 kind
    rw [found]
    cases entry with
    | file content => cases isDirectory
    | directory entries => exact ih done there.2

theorem Makes.ofFile {content : ByteArray} {here : Place} {segments : List String}
    {result : Store × Except Fault Unit} (makes : Makes store here segments result)
    (root : store = .file content) : result.1 = .file content := by
  induction makes with
  | done => exact root
  | pass other further ih => exact ih root
  | stop fault => exact root
  | enter named short there further ih => exact ih root
  | @make store here segment rest result named short missing further ih =>
    apply ih
    rw [root]
    cases here <;> rfl

/-- The names of one kind in a directory stay, unless a place under such a name is entered. -/
theorem Makes.namesOf?_eq {kind : Name → Bool} {here around : Place} {segments : List String}
    {result : Store × Except Fault Unit} (makes : Makes store here segments result)
    (inside : store.item? here = some .directory) (there : store.item? around = some .directory)
    (other : ∀ name, kind name = true → around ++ [name] ∉ entered here segments) :
    namesOf? kind result.1 around = namesOf? kind store around := by
  induction makes with
  | done => rfl
  | @pass store here segment rest result otherwise further ih =>
    rw [Path.entered_cons_other otherwise] at other
    refine ih ?_ there other
    rcases Path.next_cases here segment with ⟨-, led⟩ | ⟨-, led⟩ | ⟨named, -⟩
    · rw [led, inside]
    · rw [led, item?_dropLast inside]
    · exact absurd otherwise (by simp [named])
  | stop fault => rfl
  | enter named short isThere further ih =>
    rw [Path.entered_cons_name named] at other
    exact ih isThere there fun name kinded mem => other name kinded (List.mem_cons_of_mem _ mem)
  | @make store here segment rest result named short missing further ih =>
    rw [Path.entered_cons_name named] at other
    have free : store.item? (here ++ [.text segment]) ≠ some .directory := by
      rw [missing]
      exact nofun
    have made := item?_put inside free isLeaf_empty
    have apart : around ≠ here ++ [.text segment] := by
      rintro rfl
      exact free there
    have kept : namesOf? kind (store.put (here ++ [.text segment]) empty) around = namesOf? kind store around := by
      refine namesOf?_put inside free isLeaf_empty apart ?_
      rintro rfl
      rw [← Bool.not_eq_true]
      exact fun kinded => other (.text segment) kinded List.mem_cons_self
    rw [← kept]
    refine ih ?_ ?_ fun name kinded mem => other name kinded (List.mem_cons_of_mem _ mem)
    · rw [made, if_pos rfl]
      rfl
    · rw [made, if_neg apart, there]

/-- Whatever a store is, making directories in it makes nothing else. -/
theorem makeDirectories_onlyMakes (store : Store) (segments : List String) :
    OnlyMakes (entered [] segments) store (store.makeDirectories [] segments).1 := by
  have makes := makes_makeDirectories store [] segments
  cases store with
  | file content =>
    rw [makes.ofFile rfl]
    exact .refl _ _
  | directory entries => exact makes.onlyMakes rfl

end Store

end FieldTypes
