import FieldTypes.Proofs.SourcePaths

set_option autoImplicit false

namespace FieldTypes

open Store (Place OnlyMakes)

namespace Path

theorem dropIdle_suffix (reversed : List String) : dropIdle reversed <:+ reversed := by
  fun_induction dropIdle reversed with
  | case1 => exact List.suffix_refl _
  | case2 => exact List.nil_suffix
  | case3 => exact List.suffix_refl _
  | case4 segment next rest idle ih => exact ih.trans (List.suffix_cons segment _)
  | case5 => exact List.suffix_refl _

/-- A place that is entered is the one that the segments up to there lead to. -/
theorem exists_take_of_mem_entered {here place : Place} {segments : List String}
    (mem : place ∈ entered here segments) : place ≠ [] ∧ ∃ count, place = lead here (segments.take count) := by
  induction segments generalizing here with
  | nil => cases mem
  | cons segment rest ih =>
    have further {from_ : Place} (led : next here segment = from_) (mem : place ∈ entered from_ rest) :
        place ≠ [] ∧ ∃ count, place = lead here ((segment :: rest).take count) := by
      obtain ⟨given, count, reached⟩ := ih mem
      refine ⟨given, count + 1, ?_⟩
      rw [List.take_succ_cons, lead, List.foldl_cons, led]
      exact reached
    rcases next_cases here segment with ⟨idle, led⟩ | ⟨up, led⟩ | ⟨named, led⟩
    · rw [entered_cons_other (idle.imp_right .inl), led] at mem
      exact further led mem
    · rw [entered_cons_other (.inr (.inr up)), led] at mem
      exact further led mem
    · rw [entered_cons_name named, List.mem_cons] at mem
      rcases mem with rfl | mem
      · exact ⟨List.append_ne_nil_of_right_ne_nil here (List.cons_ne_nil (Store.Name.text segment) []), 1, led.symm⟩
      · exact further led mem

/-- What a path's parent leads through, the path itself leads through before its end. -/
theorem exists_front_of_mem_directories {path : String} {place : Place} (mem : place ∈ directories path) :
    ∃ front more, segments path = front ++ more ∧ more ≠ [] ∧ place ∈ entered [] front := by
  unfold directories parent? at mem
  dsimp only at mem
  cases parts : dropIdle (segments path).reverse with
  | nil =>
    rw [parts] at mem
    cases mem
  | cons last rest =>
    rw [parts] at mem
    dsimp only at mem
    have whole := dropIdle_suffix (segments path).reverse
    rw [parts] at whole
    cases kept : dropIdle rest with
    | nil =>
      rw [kept] at mem
      dsimp only at mem
      cases absolute : path.startsWith "/" <;> rw [absolute] at mem <;> cases mem
    | cons first others =>
      have inRest := dropIdle_suffix rest
      rw [kept] at mem inRest
      obtain ⟨idle, split⟩ := inRest
      obtain ⟨dropped, cut⟩ := whole
      have segmented : segments path = (first :: others).reverse ++ (dropped ++ last :: idle).reverse := by
        rw [← List.reverse_inj, ← cut, ← split]
        simp
      have undivided : ∀ part ∈ (first :: others).reverse, '/' ∉ part.toList := fun part among =>
        undivided_of_mem_segments (segmented ▸ List.mem_append_left _ among)
      rw [Option.getD_some, segments_ofSegments (by simp) undivided] at mem
      exact ⟨_, _, segmented, by simp, mem⟩

/-- The directories on the way to a file stand at the places of the path's ancestors. -/
theorem exists_ancestor_of_mem_directories {path : String} {place : Place} (mem : place ∈ directories path) :
    ∃ ancestor ∈ ancestors path, Path.place ancestor = place := by
  obtain ⟨front, more, parts, further, mem⟩ := exists_front_of_mem_directories mem
  obtain ⟨given, count, reached⟩ := exists_take_of_mem_entered mem
  have length : front.length < (segments path).length := by
    rw [parts, List.length_append]
    have := List.length_pos_iff.2 further
    omega
  have start : front.take count = (segments path).take (min count front.length) := by
    rw [parts, List.take_append_of_le_length (Nat.min_le_right _ _), List.take_eq_take_min]
  have some_ : (segments path).take (min count front.length) ≠ [] := by
    intro none_
    rw [start, none_] at reached
    exact given reached
  have leads : Path.place (ofSegments ((segments path).take (min count front.length))) = place := by
    have undivided : ∀ part ∈ (segments path).take (min count front.length), '/' ∉ part.toList :=
      fun part among => undivided_of_mem_segments (List.mem_of_mem_take among)
    rw [Path.place, segments_ofSegments some_ undivided, ← start, ← reached]
  refine ⟨_, List.mem_filter.2 ⟨List.mem_map.2 ⟨min count front.length, ?_, rfl⟩, ?_⟩, leads⟩
  · exact List.mem_range.2 (Nat.lt_of_le_of_lt (Nat.min_le_right _ _) length)
  · rw [bne_iff_ne]
    intro empty
    rw [empty] at leads
    exact given leads.symm

end Path

namespace Store

theorem putEntry_of_lookup {entries : List (Name × Entry)} {name : Name} {entry : Entry}
    (found : entries.lookup name = some entry) : putEntry name entry entries = entries := by
  induction entries with
  | nil => cases found
  | cons head rest ih =>
    obtain ⟨first, existing⟩ := head
    rw [putEntry]
    by_cases same : first = name
    · rw [List.lookup_cons, same, beq_self_eq_true] at found
      rw [if_pos same, same, Option.some.inj found]
    · rw [List.lookup_cons, beq_eq_false_iff_ne.2 (Ne.symm same)] at found
      rw [if_neg same, ih found]

theorem put_of_at? {store : Store} {place : Place} {entry : Entry} (found : store.at? place = some entry) :
    store.put place entry = store := by
  induction place generalizing store with
  | nil =>
    cases store <;> exact (Option.some.inj found).symm
  | cons name rest ih =>
    cases store with
    | file content => cases found
    | directory entries =>
      obtain ⟨child, there, found⟩ := Option.bind_eq_some_iff.1 found
      rw [put, there, Option.getD_some, ih found, putEntry_of_lookup there]

end Store

namespace Generation

variable {store after : Store} {path text : String}

theorem write_again (wrote : write store path text = (after, .ok ())) :
    write after path text = (after, .ok ()) := by
  have written := written_of_write wrote
  obtain ⟨made, makes, -⟩ := write_ok_iff.1 wrote
  have there := written.item?_place
  rw [Store.item?_eq_map] at there
  obtain ⟨entry, found, isFile⟩ := Option.map_eq_some_iff.1 there
  have same : after.put (Path.place path) (.file text.toUTF8) = after := by
    cases entry with
    | file content =>
      injection isFile with isFile
      rw [← isFile]
      exact Store.put_of_at? found
    | directory entries => cases isFile
  refine write_ok_iff.2 ⟨after, makeAround_again makes written.item?_directory, ?_⟩
  refine Store.writeFile_ok_iff.2 ⟨written.reaches, written.named, ?_, same.symm⟩
  rw [written.item?_place]
  exact nofun

/-- Where nothing stood, a directory on the way to a path stands now. -/
def MakesAncestor (store : Store) (path : String) (after : Store) (place : Place) : Prop :=
  store.item? place = none ∧ after.item? place = some .directory ∧
    ∃ ancestor ∈ Path.ancestors path, Path.place ancestor = place

theorem onlyMakes_place (makes : OnlyMakes (Path.directories path) store after) (place : Place) :
    after.item? place = store.item? place ∨ MakesAncestor store path after place :=
  (makes place).imp_right fun ⟨mem, missing, made⟩ =>
    ⟨missing, made, Path.exists_ancestor_of_mem_directories mem⟩

theorem file_iff_of_makesAncestor {place : Place}
    (changes : after.item? place = store.item? place ∨ MakesAncestor store path after place) (bytes : ByteArray) :
    after.item? place = some (.file bytes) ↔ store.item? place = some (.file bytes) := by
  rcases changes with same | ⟨missing, made, -⟩
  · rw [same]
  · rw [missing, made]
    exact ⟨nofun, nofun⟩

/-- What a write that succeeds leaves. -/
structure WriteDone (store : Store) (path text : String) (after : Store) : Prop where
  content : after.readText path = .ok text
  /-- What the text replaces, if anything, is a file. -/
  free : store.item? (Path.place path) ≠ some .directory
  files : ∀ place, place ≠ Path.place path → ∀ bytes,
    after.item? place = some (.file bytes) ↔ store.item? place = some (.file bytes)
  others : ∀ place, place ≠ Path.place path →
    after.item? place = store.item? place ∨ MakesAncestor store path after place
  again : write after path text = (after, .ok ())

/-- What a write that fails leaves and reports. -/
structure WriteFailed (store : Store) (path text : String) (after : Store) (error : Error) : Prop where
  files : ∀ place bytes, after.item? place = some (.file bytes) ↔ store.item? place = some (.file bytes)
  others : ∀ place, after.item? place = store.item? place ∨ MakesAncestor store path after place
  /-- The parent is named if it could not be made, the path if its file could not be written in there. -/
  names :
    (∃ directory fault, Path.parent? path = some directory ∧ directory ≠ "" ∧
        store.makeDirectory directory = (after, .error fault) ∧ error = .write directory fault) ∨
      ((∀ directory, Path.parent? path = some directory → directory ≠ "" →
          store.makeDirectory directory = (after, .ok ())) ∧
        ∃ fault, after.writeFile path text.toUTF8 = .error fault ∧ error = .write path fault)

theorem decodeText_toUTF8 (text : String) : Store.decodeText text.toUTF8 = .ok text := by
  have valid : text.toUTF8.IsValidUTF8 := text.isValidUTF8
  rw [Store.decodeText, String.fromUTF8?, dif_pos valid]
  rfl

theorem writeDone_of_write (wrote : write store path text = (after, .ok ())) :
    WriteDone store path text after := by
  have written := written_of_write wrote
  have others (place : Place) (other : place ≠ Path.place path) :
      after.item? place = store.item? place ∨ MakesAncestor store path after place := by
    rw [written.items, if_neg other]
    by_cases entered : place ∈ Path.directories path
    · rw [if_pos entered]
      cases before : store.item? place with
      | none =>
        exact .inr ⟨before, written.item?_directory place entered,
          Path.exists_ancestor_of_mem_directories entered⟩
      | some item =>
        cases item with
        | file bytes => exact absurd before (written.passes place entered bytes)
        | directory => exact .inl rfl
    · exact .inl (if_neg entered)
  refine ⟨?_, written.free, fun place other => file_iff_of_makesAncestor (others place other), others,
    write_again wrote⟩
  rw [Store.readText, written.readBytes_eq]
  exact decodeText_toUTF8 text

theorem makeAround_eq (store : Store) (path : String) :
    (makeAround store path = (store, .ok ()) ∧ ∀ directory, Path.parent? path = some directory → directory = "") ∨
      ∃ directory, Path.parent? path = some directory ∧ directory ≠ "" ∧
        makeAround store path = store.makeDirectory directory := by
  unfold makeAround
  cases Path.parent? path with
  | none => exact .inl ⟨rfl, nofun⟩
  | some directory =>
    by_cases empty : directory = ""
    · refine .inl ⟨if_pos empty, fun other same => ?_⟩
      injection same with same
      rw [← same, empty]
    · exact .inr ⟨directory, rfl, empty, if_neg empty⟩

theorem writeFailed_of_write {error : Error} (failed : write store path text = (after, .error error)) :
    WriteFailed store path text after error := by
  have others := onlyMakes_place (onlyMakes_of_write_error failed)
  refine ⟨fun place => file_iff_of_makesAncestor (others place), others, ?_⟩
  obtain ⟨made, ⟨fault, around, wrote⟩ | ⟨around, ⟨fault, written, wrote⟩ | ⟨other, written, wrote⟩⟩⟩ :=
    write_cases store path text
  · rw [wrote] at failed
    cases failed
    rcases makeAround_eq store path with ⟨idle, -⟩ | ⟨directory, parent, given, makes⟩
    · rw [idle] at around
      cases around
    · refine .inl ⟨directory, fault, parent, given, makes.symm.trans around, ?_⟩
      rw [parent, Option.getD_some]
  · rw [wrote] at failed
    cases failed
    refine .inr ⟨fun directory parent given => ?_, fault, written, rfl⟩
    rcases makeAround_eq store path with ⟨-, idle⟩ | ⟨other, named, -, makes⟩
    · exact absurd (idle directory parent) given
    · rw [parent] at named
      injection named with named
      rw [named, ← makes, around]
  · rw [wrote] at failed
    cases failed

/-- A write has exactly its effect: it sets its file and makes directories on the way, or fails and makes at
most some of these. -/
theorem write_effect (store : Store) (path text : String) :
    (∀ after, write store path text = (after, .ok ()) → WriteDone store path text after) ∧
      ∀ after error, write store path text = (after, .error error) →
        WriteFailed store path text after error :=
  ⟨fun _ => writeDone_of_write, fun _ _ => writeFailed_of_write⟩

/-- A store with a file that is longer than what is written, and another one. -/
def worn : Store :=
  .directory [("old.txt", .file "a much longer first version\n".toUTF8), ("kept", .file "k".toUTF8)]

/-- A longer file is overwritten through a directory that is made for it. A parent that is a file is named;
where the parent can be made but the path leads to a directory, the path is. -/
theorem write_effect_of_worn :
    (∃ after, write worn "made/../old.txt" "short\n" = (after, .ok ()) ∧
        WriteDone worn "made/../old.txt" "short\n" after ∧
        after.item? ["kept"] = some (.file "k".toUTF8) ∧ MakesAncestor worn "made/../old.txt" after ["made"]) ∧
      (∃ after, write worn "kept/x" "short\n" = (after, .error (.write "kept" .alreadyExists)) ∧
        WriteFailed worn "kept/x" "short\n" after (.write "kept" .alreadyExists)) ∧
      ∃ after, write worn "./made/.." "short\n" = (after, .error (.write "./made/.." .isADirectory)) ∧
        WriteFailed worn "./made/.." "short\n" after (.write "./made/.." .isADirectory) := by
  obtain ⟨first, wrote⟩ := exists_of_snd_eq
    (show (write worn "made/../old.txt" "short\n").2 = .ok () by decide +kernel)
  obtain ⟨second, blocked⟩ := exists_of_snd_eq
    (show (write worn "kept/x" "short\n").2 = .error (.write "kept" .alreadyExists) by decide +kernel)
  obtain ⟨third, refused⟩ := exists_of_snd_eq
    (show (write worn "./made/.." "short\n").2 = .error (.write "./made/.." .isADirectory) by decide +kernel)
  have done := (write_effect worn "made/../old.txt" "short\n").1 first wrote
  have place : Path.place "made/../old.txt" = ["old.txt"] := by decide +kernel
  have missing : worn.item? ["made"] = none := by decide +kernel
  have made : first.item? ["made"] = some .directory :=
    (written_of_write wrote).item?_directory ["made"] (by decide +kernel)
  refine ⟨⟨first, wrote, done, ?_, (done.others ["made"] (by rw [place]; decide)).resolve_left ?_⟩,
    ⟨second, blocked, (write_effect worn "kept/x" "short\n").2 second _ blocked⟩,
    third, refused, (write_effect worn "./made/.." "short\n").2 third _ refused⟩
  · exact (done.files ["kept"] (by rw [place]; decide) _).2 rfl
  · rw [missing, made]
    exact nofun

end Generation

end FieldTypes
