import FieldTypes.Generation.Run
import FieldTypes.Proofs.PathPlaces

set_option autoImplicit false

namespace FieldTypes

namespace Path

/-- A path that can name a file: its last segment is a name. -/
def NamesFile (path : String) : Prop := Store.namesDirectory (segments path) = false

/-- The place of a file is entered by the path's last segment. -/
theorem NamesFile.split {path : String} (names : NamesFile path) :
    ∃ front last, segments path = front ++ [last] ∧ (last ≠ "" ∧ last ≠ "." ∧ last ≠ "..") := by
  unfold NamesFile Store.namesDirectory at names
  cases found : (segments path).getLast? with
  | none =>
    rw [found] at names
    cases names
  | some last =>
    rw [found] at names
    obtain ⟨front, parts⟩ := List.getLast?_eq_some_iff.1 found
    simp only [Bool.or_eq_false_iff, beq_eq_false_iff_ne, ne_eq] at names
    exact ⟨front, last, parts, names.1.1, names.1.2, names.2⟩

end Path

namespace Store

variable {store later : Store} {path : String}

theorem Passable.front {front rest : List String} {segment : String} {here : Place}
    (passable : store.Passable here (front ++ segment :: rest)) :
    store.item? (Path.lead here front) = some .directory := by
  induction front generalizing here with
  | nil => exact passable.1
  | cons first more ih => exact ih passable.2.2

/-- The path can be followed to its end. -/
structure Reaches (store : Store) (path : String) : Prop where
  checked : checkPath path = .ok ()
  given : path ≠ ""
  passable : store.Passable [] (Path.segments path)

theorem Reaches.mono (keeps : KeepsDirectories store later) (reaches : store.Reaches path) :
    later.Reaches path :=
  ⟨reaches.checked, reaches.given, reaches.passable.mono keeps⟩

theorem entryAt_ok_iff {entry : Entry} :
    store.entryAt path = .ok entry ↔ store.Reaches path ∧ store.at? (Path.place path) = some entry := by
  unfold entryAt
  rw [bind_eq_ok]
  by_cases given : path = ""
  · simp only [if_pos given, reduceCtorEq, and_false, exists_false, false_iff, not_and]
    exact fun reaches => absurd given reaches.given
  · simp only [if_neg given, bind_eq_ok, follow_ok_iff]
    constructor
    · rintro ⟨⟨⟩, checked, place, ⟨passable, rfl⟩, found⟩
      refine ⟨⟨checked, given, passable⟩, ?_⟩
      rw [Path.place]
      cases there : store.at? (Path.lead [] (Path.segments path)) with
      | none =>
        rw [there] at found
        cases found
      | some other =>
        rw [there] at found
        injection found with found
        rw [found]
    · rintro ⟨reaches, found⟩
      rw [Path.place] at found
      exact ⟨(), reaches.checked, _, ⟨reaches.passable, rfl⟩, by rw [found]⟩

theorem readBytes_ok_iff {content : ByteArray} :
    store.readBytes path = .ok content ↔
      store.Reaches path ∧ store.item? (Path.place path) = some (.file content) := by
  unfold readBytes
  rw [bind_eq_ok, item?_eq_map]
  simp only [entryAt_ok_iff]
  constructor
  · rintro ⟨entry, ⟨reaches, found⟩, isFile⟩
    rw [found]
    cases entry with
    | file other =>
      injection isFile with isFile
      rw [isFile]
      exact ⟨reaches, rfl⟩
    | directory entries => cases isFile
  · rintro ⟨reaches, item⟩
    obtain ⟨entry, found, isFile⟩ := Option.map_eq_some_iff.1 item
    refine ⟨entry, ⟨reaches, found⟩, ?_⟩
    cases entry with
    | file other =>
      injection isFile with isFile
      rw [isFile]
    | directory entries => cases isFile

theorem namedSegments_eq {path : String} (last : (Path.segments path).getLast? ≠ some "") :
    namedSegments path = Path.segments path := by
  unfold namedSegments
  cases reversed : (Path.segments path).reverse with
  | nil => rw [List.reverse_eq_nil_iff.1 reversed]; rfl
  | cons first rest =>
    have named : first ≠ "" := by
      rintro rfl
      apply last
      rw [← List.head?_reverse, reversed, List.head?_cons]
    rw [List.dropWhile_cons_of_neg (by simpa using named), ← reversed, List.reverse_reverse]

theorem filePlace_ok_iff {place : Place} :
    store.filePlace path = .ok place ↔
      store.Reaches path ∧ Path.NamesFile path ∧ place = Path.place path := by
  unfold filePlace
  rw [bind_eq_ok]
  by_cases given : path = ""
  · simp only [if_pos given, reduceCtorEq, and_false, exists_false, false_iff, not_and]
    exact fun reaches => absurd given reaches.given
  · simp only [if_neg given]
    by_cases slash : (Path.segments path).getLast? = some ""
    · have unnamed : ¬ Path.NamesFile path := by
        unfold Path.NamesFile namesDirectory
        rw [slash]
        exact nofun
      simp only [if_pos slash, bind_eq_ok, reduceCtorEq, and_false, exists_false, unnamed, false_and]
    · simp only [if_neg slash, namedSegments_eq slash, bind_eq_ok, follow_ok_iff]
      constructor
      · rintro ⟨⟨⟩, checked, led, ⟨passable, rfl⟩, named⟩
        cases directory : namesDirectory (Path.segments path) with
        | true =>
          rw [directory] at named
          cases named
        | false =>
          rw [directory] at named
          injection named with named
          exact ⟨⟨checked, given, passable⟩, directory, named.symm⟩
      · rintro ⟨reaches, named, rfl⟩
        refine ⟨(), reaches.checked, _, ⟨reaches.passable, rfl⟩, ?_⟩
        rw [Path.NamesFile] at named
        rw [named]
        rfl

/-- The place that a path names lies in a directory. -/
theorem Reaches.around (reaches : store.Reaches path) (names : Path.NamesFile path) :
    ∃ parent name, Path.place path = parent ++ [.text name] ∧ name ∈ Path.segments path ∧
      store.item? parent = some .directory := by
  obtain ⟨front, last, parts, named⟩ := names.split
  have passable := reaches.passable
  rw [parts] at passable
  refine ⟨Path.lead [] front, last, ?_, ?_, passable.front⟩
  · rw [Path.place, parts, Path.lead_append_name [] named]
  · rw [parts]
    exact List.mem_append_right front (List.mem_singleton.2 rfl)

theorem writeFile_ok_iff {content : ByteArray} {after : Store} :
    store.writeFile path content = .ok after ↔
      store.Reaches path ∧ Path.NamesFile path ∧ store.item? (Path.place path) ≠ some .directory ∧
        after = store.put (Path.place path) (.file content) := by
  unfold writeFile
  rw [bind_eq_ok, item?_eq_map]
  simp only [filePlace_ok_iff]
  constructor
  · rintro ⟨place, ⟨reaches, named, rfl⟩, written⟩
    cases found : store.at? (Path.place path) with
    | none =>
      rw [found] at written
      injection written with written
      exact ⟨reaches, named, nofun, written.symm⟩
    | some entry =>
      rw [found] at written
      cases entry with
      | file other =>
        injection written with written
        exact ⟨reaches, named, nofun, written.symm⟩
      | directory entries => cases written
  · rintro ⟨reaches, named, free, rfl⟩
    refine ⟨_, ⟨reaches, named, rfl⟩, ?_⟩
    cases found : store.at? (Path.place path) with
    | none => rfl
    | some entry =>
      rw [found] at free
      cases entry with
      | file other => rfl
      | directory entries => exact absurd rfl free

end Store

namespace Generation

open Store (Place Item KeepsDirectories OnlyMakes Reaches isLeaf_file item?_put namesOf? namesOf?_put)

variable {store later after : Store} {path text : String}

/-- The part of a write that makes the directories around the file. -/
def makeAround (store : Store) (path : String) : Store × Except Store.Fault Unit :=
  if (Path.parent? path).getD "" = "" then (store, .ok ())
  else store.makeDirectory ((Path.parent? path).getD "")

/-- Directories are made around a file unless their own path is at fault. -/
theorem makeAround_cases (path : String) :
    (∃ fault, ∀ store, makeAround store path = (store, .error fault)) ∨
      ∀ store, makeAround store path =
        store.makeDirectories [] (Path.segments ((Path.parent? path).getD "")) := by
  unfold makeAround
  by_cases here : (Path.parent? path).getD "" = ""
  · refine .inr fun store => ?_
    rw [if_pos here, here]
    rfl
  · simp only [if_neg here, Store.makeDirectory_eq]
    cases Store.checkPath ((Path.parent? path).getD "") with
    | error fault => exact .inl ⟨fault, fun _ => rfl⟩
    | ok => exact .inr fun _ => rfl

theorem makeAround_onlyMakes (store : Store) (path : String) :
    OnlyMakes (Path.directories path) store (makeAround store path).1 := by
  rcases makeAround_cases path with ⟨fault, stopped⟩ | made
  · rw [stopped]
    exact .refl _ _
  · rw [made]
    exact Store.makeDirectories_onlyMakes store _

theorem makeAround_there (made : makeAround store path = (later, .ok ()))
    (root : store.item? [] = some .directory) :
    ∀ place ∈ Path.directories path, later.item? place = some .directory := by
  rcases makeAround_cases path with ⟨fault, stopped⟩ | makes
  · rw [stopped] at made
    cases made
  · have done := Store.makes_makeDirectories store [] (Path.segments ((Path.parent? path).getD ""))
    rw [← makes, made] at done
    exact done.there root rfl

theorem makeAround_again {first : Store} (made : makeAround store path = (first, .ok ()))
    (there : ∀ place ∈ Path.directories path, later.item? place = some .directory) :
    makeAround later path = (later, .ok ()) := by
  rcases makeAround_cases path with ⟨fault, stopped⟩ | makes
  · rw [stopped] at made
    cases made
  · have done := Store.makes_makeDirectories store [] (Path.segments ((Path.parent? path).getD ""))
    rw [← makes, made] at done
    rw [makes, Store.makeDirectories, done.again rfl there]

theorem makeAround_namesOf? {kind : Store.Name → Bool} {around : Place}
    (there : store.item? around = some .directory)
    (other : ∀ name, kind name = true → around ++ [name] ∉ Path.directories path) :
    namesOf? kind (makeAround store path).1 around = namesOf? kind store around := by
  rcases makeAround_cases path with ⟨fault, stopped⟩ | makes
  · rw [stopped]
  · rw [makes]
    have made := Store.makes_makeDirectories store [] (Path.segments ((Path.parent? path).getD ""))
    cases store with
    | file content => rw [made.ofFile rfl]
    | directory entries => exact made.namesOf?_eq rfl there other

/-- A write makes the directories around its file; if that succeeds, it writes the file. -/
theorem write_cases (store : Store) (path text : String) :
    ∃ made,
      (∃ fault, makeAround store path = (made, .error fault) ∧
          write store path text = (made, .error (.write ((Path.parent? path).getD "") fault))) ∨
        makeAround store path = (made, .ok ()) ∧
          ((∃ fault, made.writeFile path text.toUTF8 = .error fault ∧
              write store path text = (made, .error (.write path fault))) ∨
            ∃ after, made.writeFile path text.toUTF8 = .ok after ∧
              write store path text = (after, .ok ())) := by
  rw [write_eq, makeAround]
  dsimp only
  generalize (if (Path.parent? path).getD "" = "" then (store, Except.ok ())
    else store.makeDirectory ((Path.parent? path).getD "")) = result
  obtain ⟨made, fault | ⟨⟩⟩ := result
  · exact ⟨made, .inl ⟨fault, rfl, rfl⟩⟩
  · refine ⟨made, .inr ⟨rfl, ?_⟩⟩
    dsimp only
    cases made.writeFile path text.toUTF8 with
    | error fault => exact .inl ⟨fault, rfl, rfl⟩
    | ok after => exact .inr ⟨after, rfl, rfl⟩

theorem write_ok_iff :
    write store path text = (after, .ok ()) ↔
      ∃ made, makeAround store path = (made, .ok ()) ∧ made.writeFile path text.toUTF8 = .ok after := by
  obtain ⟨made, ⟨fault, around, wrote⟩ | ⟨around, ⟨fault, written, wrote⟩ | ⟨other, written, wrote⟩⟩⟩ :=
    write_cases store path text
  · simp [around, wrote]
  · simp only [around, wrote, Prod.mk.injEq, reduceCtorEq, and_false, and_true, false_iff, not_exists,
      not_and]
    rintro _ rfl
    rw [written]
    exact nofun
  · simp only [around, wrote, Prod.mk.injEq, and_true]
    constructor
    · rintro rfl
      exact ⟨made, rfl, written⟩
    · rintro ⟨_, rfl, again⟩
      rw [written] at again
      injection again

/-- A failing write makes at most directories around its file. -/
theorem onlyMakes_of_write_error {error : Error} (failed : write store path text = (after, .error error)) :
    OnlyMakes (Path.directories path) store after := by
  have makes := makeAround_onlyMakes store path
  have made : after = (makeAround store path).1 := by
    obtain ⟨made, ⟨fault, around, wrote⟩ | ⟨around, ⟨fault, written, wrote⟩ | ⟨other, written, wrote⟩⟩⟩ :=
      write_cases store path text
    · rw [wrote] at failed
      cases failed
      rw [around]
    · rw [wrote] at failed
      cases failed
      rw [around]
    · rw [wrote] at failed
      cases failed
  rw [made]
  exact makes

/-- What stands in a store after a write of a file. -/
structure Written (store : Store) (path : String) (content : ByteArray) (after : Store) : Prop where
  reaches : after.Reaches path
  named : Path.NamesFile path
  free : store.item? (Path.place path) ≠ some .directory
  apart : Path.place path ∉ Path.directories path
  /-- No file is in the way. -/
  passes : ∀ place ∈ Path.directories path, ∀ other, store.item? place ≠ some (.file other)
  items : ∀ place, after.item? place =
    if place = Path.place path then some (.file content)
    else if place ∈ Path.directories path then some .directory
    else store.item? place

theorem written_of_write (wrote : write store path text = (after, .ok ())) :
    Written store path text.toUTF8 after := by
  obtain ⟨made, around, written⟩ := write_ok_iff.1 wrote
  obtain ⟨reaches, named, free, rfl⟩ := Store.writeFile_ok_iff.1 written
  have makes := makeAround_onlyMakes store path
  rw [around] at makes
  obtain ⟨parent, name, place, -, inside⟩ := reaches.around named
  rw [place] at free
  have put := item?_put inside free (isLeaf_file text.toUTF8)
  rw [← place] at put free
  have root : store.item? [] = some .directory := by
    rcases makes [] with same | ⟨-, missing, -⟩
    · rw [← same, Store.root_of_item? inside]
    · rw [Store.item?, Store.view?_nil] at missing
      cases missing
  have there := makeAround_there around root
  have keeps : KeepsDirectories made (made.put (Path.place path) (.file text.toUTF8)) := by
    intro other there
    rw [put, if_neg, there]
    rintro rfl
    exact free there
  refine ⟨reaches.mono keeps, named, fun before => free (makes.keepsDirectories _ before),
    fun entered => free (there _ entered), ?_, fun other => ?_⟩
  · intro other entered content before
    rcases makes other with same | ⟨-, missing, -⟩
    · rw [there other entered, before] at same
      cases same
    · rw [before] at missing
      cases missing
  · rw [put]
    by_cases own : other = Path.place path
    · rw [if_pos own, if_pos own]
      rfl
    · rw [if_neg own, if_neg own]
      by_cases entered : other ∈ Path.directories path
      · rw [if_pos entered, there other entered]
      · rw [if_neg entered]
        exact (makes other).resolve_right fun made => entered made.1

namespace Written

variable {content : ByteArray}

theorem item?_place (written : Written store path content after) :
    after.item? (Path.place path) = some (.file content) := by
  rw [written.items, if_pos rfl]

theorem readBytes_eq (written : Written store path content after) : after.readBytes path = .ok content :=
  Store.readBytes_ok_iff.2 ⟨written.reaches, written.item?_place⟩

theorem keepsDirectories (written : Written store path content after) : KeepsDirectories store after := by
  intro place there
  rw [written.items, if_neg, there, ite_self]
  rintro rfl
  exact written.free there

theorem item?_directory (written : Written store path content after) :
    ∀ place ∈ Path.directories path, after.item? place = some .directory := by
  intro place entered
  rw [written.items, if_neg, if_pos entered]
  rintro rfl
  exact written.apart entered

theorem file (written : Written store path content after) {place : Place} {old : ByteArray}
    (before : store.item? place = some (.file old)) : ∃ new, after.item? place = some (.file new) := by
  rw [written.items]
  by_cases own : place = Path.place path
  · exact ⟨content, if_pos own⟩
  · rw [if_neg own, if_neg fun entered => written.passes place entered old before]
    exact ⟨old, before⟩

/-- The files of one kind in a directory stay, unless the write goes through a place under such a name. -/
theorem namesOf?_eq {kind : Store.Name → Bool} {around : Place} (wrote : write store path text = (after, .ok ()))
    (there : store.item? around = some .directory)
    (other : ∀ name, kind name = true →
      around ++ [name] ≠ Path.place path ∧ around ++ [name] ∉ Path.directories path) :
    namesOf? kind after around = namesOf? kind store around := by
  obtain ⟨made, makes, written⟩ := write_ok_iff.1 wrote
  obtain ⟨reaches, named, free, rfl⟩ := Store.writeFile_ok_iff.1 written
  obtain ⟨parent, name, place, -, inside⟩ := reaches.around named
  have kept := makeAround_namesOf? there fun name kinded => (other name kinded).2
  have isThere := (makeAround_onlyMakes store path).keepsDirectories around there
  rw [makes] at kept isThere
  rw [← kept, place]
  rw [place] at free
  refine namesOf?_put inside free (isLeaf_file _) ?_ ?_
  · rintro rfl
    exact free isThere
  · rintro rfl
    rw [← Bool.not_eq_true]
    exact fun kinded => (other name kinded).1 place.symm

theorem again {first : Store} (wrote : write store path text = (first, .ok ()))
    (keeps : KeepsDirectories first later) (free : later.item? (Path.place path) ≠ some .directory)
    (other : String) : ∃ after, write later path other = (after, .ok ()) := by
  have written := written_of_write wrote
  obtain ⟨made, makes, -⟩ := write_ok_iff.1 wrote
  have there : ∀ place ∈ Path.directories path, later.item? place = some .directory :=
    fun place entered => keeps place (written.item?_directory place entered)
  have again := makeAround_again makes there
  exact ⟨_, write_ok_iff.2 ⟨later, again,
    Store.writeFile_ok_iff.2 ⟨written.reaches.mono keeps, written.named, free, rfl⟩⟩⟩

end Written

end Generation

end FieldTypes
