import FieldTypes.Proofs.RunFaults

set_option autoImplicit false

namespace FieldTypes.Generation

open Store (Name)
open TemplateFile (isTemplate)

/-- The same bytes are read under a path, if any are. -/
def SameFile (store other : Store) (path : String) : Prop :=
  ∀ content, store.readBytes path = .ok content ↔ other.readBytes path = .ok content

section Inputs

variable {store other : Store} {config : Config} {path : String}

theorem readText_ok_iff {text : String} :
    store.readText path = .ok text ↔
      ∃ content, store.readBytes path = .ok content ∧ Store.decodeText content = .ok text := by
  rw [Store.readText, bind_eq_ok]

theorem SameFile.readText {text : String} (same : SameFile store other path)
    (read : store.readText path = .ok text) : other.readText path = .ok text := by
  obtain ⟨content, bytes, decoded⟩ := readText_ok_iff.1 read
  exact readText_ok_iff.2 ⟨content, (same content).1 bytes, decoded⟩

theorem templateFiles_perm {names others : List Name}
    (perm : (names.filter isTemplate).Perm (others.filter isTemplate))
    (same : ∀ name : String, .text name ∈ names → isTemplate name = true →
      store.readText (Path.join path name) = other.readText (Path.join path name)) :
    (templateFiles store path names).Perm (templateFiles other path others) := by
  have files : templateFiles store path names = templateFiles other path names := by
    refine List.map_congr_left fun name mem => ?_
    obtain ⟨mem, template⟩ := List.mem_filter.1 mem
    have read : store.readNamed path name = other.readNamed path name := by
      cases name with
      | text name => exact same name mem template
      | raw => rfl
    rw [read]
  rw [files]
  exact perm.map _

theorem load_eq_of_perm {names others : List Name} (listed : store.listDirectory path = .ok names)
    (otherListed : other.listDirectory path = .ok others)
    (perm : (templateFiles store path names).Perm (templateFiles other path others)) (catalog : Catalog) :
    (TemplateDirectory.ofStore store path).load catalog =
      (TemplateDirectory.ofStore other path).load catalog := by
  rw [load_of_listed listed, load_of_listed otherListed, sort_eq_of_perm perm templateFiles_named,
    perm.length_eq]

end Inputs

end FieldTypes.Generation
