import Outline.Proofs.Writing
import Outline.Sources

/-!
# The files of a tree

No directory has two entries of one name.  This holds of every tree to which
files have been added one by one, and it makes the listing of a tree tell exactly
where its files are, each of them once.
-/

namespace Outline

namespace FileTree

/-! ## Trees in which names differ -/

mutual

/-- No directory of a tree has two entries of one name. -/
def NamesDiffer : FileTree → Prop
  | .file _ => True
  | .directory entries => (entries.map Prod.fst).Nodup ∧ NamesDifferAmong entries

/-- No directory in one of the entries has two entries of one name. -/
def NamesDifferAmong : List (String × FileTree) → Prop
  | [] => True
  | (_, tree) :: rest => tree.NamesDiffer ∧ NamesDifferAmong rest

end

theorem namesDiffer_file (bytes : List UInt8) : (file bytes).NamesDiffer :=
  trivial

theorem namesDiffer_empty : (directory []).NamesDiffer :=
  ⟨List.nodup_nil, trivial⟩

theorem namesDifferAmong_iff {entries : List (String × FileTree)} :
    NamesDifferAmong entries ↔ ∀ entry ∈ entries, entry.2.NamesDiffer := by
  induction entries with
  | nil => simp [NamesDifferAmong]
  | cons entry rest induction => simp [NamesDifferAmong, induction]

theorem NamesDiffer.child? {entries : List (String × FileTree)} {name : String} {tree : FileTree}
    (differ : NamesDifferAmong entries) (found : FileTree.child? entries name = some tree) :
    tree.NamesDiffer := by
  rcases Option.map_eq_some_iff.mp found with ⟨entry, first, rfl⟩
  exact namesDifferAmong_iff.mp differ entry (List.mem_of_find?_eq_some first)

theorem NamesDiffer.follow {limit : Nat} {above : List FileTree} {tree found : FileTree}
    {way : List String} (outside : ∀ outer ∈ above, outer.NamesDiffer) (differ : tree.NamesDiffer)
    (reached : FileTree.follow limit above tree way = .ok found) :
    found.NamesDiffer := by
  induction way generalizing above tree with
  | nil =>
      obtain rfl := Except.ok.inj reached
      exact differ
  | cons name rest induction =>
      cases tree with
      | file bytes => cases reached
      | directory entries =>
          by_cases back : name = parentStep
          · subst back
            cases above with
            | nil =>
                rw [follow_parentStep_top] at reached
                exact induction outside differ reached
            | cons parent further =>
                rw [follow_parentStep] at reached
                have outer := List.forall_mem_cons.mp outside
                exact induction outer.2 outer.1 reached
          · rcases Nat.lt_or_ge limit name.utf8ByteSize with long | short
            · rw [follow_long back long] at reached
              cases reached
            · rw [follow_name back short] at reached
              cases next : FileTree.child? entries name with
              | none => simp [next] at reached
              | some tree =>
                  rw [next] at reached
                  exact induction (List.forall_mem_cons.mpr ⟨differ, outside⟩)
                    (.child? differ.2 next) reached

theorem eq_or_mem_of_mem_setChild {entries : List (String × FileTree)} {name : String}
    {tree : FileTree} {entry : String × FileTree} (member : entry ∈ setChild name tree entries) :
    entry = (name, tree) ∨ entry ∈ entries := by
  induction entries with
  | nil => exact .inl (List.mem_singleton.mp member)
  | cons first rest induction =>
      rw [setChild] at member
      split_ifs at member with here
      · exact (List.mem_cons.mp member).imp_right (List.mem_cons_of_mem _)
      · rcases List.mem_cons.mp member with rfl | further
        · exact .inr List.mem_cons_self
        · exact (induction further).imp_right (List.mem_cons_of_mem _)

theorem nodup_setChild {entries : List (String × FileTree)} {name : String} {tree : FileTree}
    (distinct : (entries.map Prod.fst).Nodup) :
    ((setChild name tree entries).map Prod.fst).Nodup := by
  induction entries with
  | nil => exact List.nodup_singleton _
  | cons first rest induction =>
      rw [List.map_cons, List.nodup_cons] at distinct
      rw [setChild]
      split_ifs with here
      · rw [List.map_cons, List.nodup_cons, ← here]
        exact distinct
      · rw [List.map_cons, List.nodup_cons]
        refine ⟨fun known => ?_, induction distinct.2⟩
        rcases List.mem_map.mp known with ⟨entry, member, same⟩
        rcases eq_or_mem_of_mem_setChild member with rfl | further
        · exact here same.symm
        · exact distinct.1 (List.mem_map.mpr ⟨entry, further, same⟩)

/-- Names still differ after something has been put into a tree. -/
theorem NamesDiffer.put {content tree : FileTree} (inner : content.NamesDiffer)
    (differ : tree.NamesDiffer) (way : List String) :
    (FileTree.put content tree way).NamesDiffer := by
  induction way generalizing tree with
  | nil => exact inner
  | cons name rest induction =>
      have whole : (directory tree.entries).NamesDiffer := by
        cases tree with
        | file bytes => exact namesDiffer_empty
        | directory entries => exact differ
      have below : ((FileTree.child? tree.entries name).getD (.directory [])).NamesDiffer := by
        cases found : FileTree.child? tree.entries name with
        | none => exact namesDiffer_empty
        | some next => exact .child? whole.2 found
      refine ⟨nodup_setChild whole.1, namesDifferAmong_iff.mpr fun entry member => ?_⟩
      rcases eq_or_mem_of_mem_setChild member with rfl | known
      · exact induction below
      · exact namesDifferAmong_iff.mp whole.2 entry known

/-- A tree to which files have been added one by one, each with the names that lead to it. -/
def holding (files : List (List String × List UInt8)) : FileTree :=
  files.foldl (fun tree file => put (.file file.2) tree file.1) (.directory [])

theorem namesDiffer_holding (files : List (List String × List UInt8)) :
    (holding files).NamesDiffer := by
  suffices grown : ∀ tree : FileTree, tree.NamesDiffer →
      (files.foldl (fun tree file => put (.file file.2) tree file.1) tree).NamesDiffer from
    grown _ namesDiffer_empty
  induction files with
  | nil => exact fun _ differ => differ
  | cons file rest induction =>
      exact fun _ differ => induction _ (.put (namesDiffer_file _) differ _)

/-! ## The files of a tree -/

theorem child?_eq_none {entries : List (String × FileTree)} {name : String}
    (absent : name ∉ entries.map Prod.fst) :
    child? entries name = none := by
  rw [child?, Option.map_eq_none_iff, List.find?_eq_none]
  intro entry member same
  exact absent (List.mem_map.mpr ⟨entry, member, of_decide_eq_true same⟩)

mutual

theorem mem_placesBelow_iff : ∀ (tree : FileTree) (names : List String) (found : FileTree),
    tree.NamesDiffer → ((names, found) ∈ tree.placesBelow ↔ tree.below? names = some found)
  | .file bytes, names, found, _ => by
      cases names <;> simp [placesBelow, below?, entries, child?, eq_comm]
  | .directory entries, [], found, differ => by
      have others := mem_placesAmong_iff entries [] found differ.1 differ.2
      simp [placesBelow, below?, others, eq_comm]
  | .directory entries, first :: further, found, differ => by
      have others := mem_placesAmong_iff entries (first :: further) found differ.1 differ.2
      simp [placesBelow, others]

/-- The listing of a directory tells what is below it, and where. -/
theorem mem_placesAmong_iff : ∀ (entries : List (String × FileTree)) (names : List String)
    (found : FileTree), (entries.map Prod.fst).Nodup → NamesDifferAmong entries →
    ((names, found) ∈ placesAmong entries ↔
      names ≠ [] ∧ (directory entries).below? names = some found)
  | [], names, found, _, _ => by
      cases names <;> simp [placesAmong, below?, entries, child?]
  | (name, tree) :: rest, [], found, distinct, differ => by
      have others := mem_placesAmong_iff rest [] found distinct.tail differ.2
      simp [placesAmong, others]
  | (name, tree) :: rest, first :: further, found, distinct, differ => by
      have inner := mem_placesBelow_iff tree further found differ.1
      have others := mem_placesAmong_iff rest (first :: further) found distinct.tail differ.2
      rw [placesAmong, List.mem_append, others, below?, below?, entries, entries, child?_cons]
      by_cases here : name = first
      · subst here
        have absent : child? rest name = none :=
          child?_eq_none (List.nodup_cons.mp distinct).1
        simp [absent, inner]
      · simp [here]

end

theorem exists_name_of_mem_placesAmong {entries : List (String × FileTree)} {names : List String}
    (member : names ∈ (placesAmong entries).map Prod.fst) :
    ∃ name ∈ entries.map Prod.fst, ∃ further, names = name :: further := by
  induction entries with
  | nil => cases member
  | cons entry rest induction =>
      rw [placesAmong, List.map_append, List.mem_append] at member
      rcases member with inside | outside
      · rw [List.map_map] at inside
        rcases List.mem_map.mp inside with ⟨place, -, rfl⟩
        exact ⟨entry.1, List.mem_cons_self, place.1, rfl⟩
      · rcases induction outside with ⟨name, known, facts⟩
        exact ⟨name, List.mem_cons_of_mem _ known, facts⟩

mutual

theorem nodup_placesBelow : ∀ tree : FileTree, tree.NamesDiffer →
    (tree.placesBelow.map Prod.fst).Nodup
  | .file _, _ => List.nodup_singleton _
  | .directory entries, differ => by
      refine List.nodup_cons.mpr ⟨fun member => ?_, nodup_placesAmong entries differ.1 differ.2⟩
      rcases exists_name_of_mem_placesAmong member with ⟨name, -, further, impossible⟩
      cases impossible

/-- Everything below a directory is listed once. -/
theorem nodup_placesAmong : ∀ entries : List (String × FileTree), (entries.map Prod.fst).Nodup →
    NamesDifferAmong entries → ((placesAmong entries).map Prod.fst).Nodup
  | [], _, _ => List.nodup_nil
  | (name, tree) :: rest, distinct, differ => by
      have inside := (nodup_placesBelow tree differ.1).map (List.cons_injective (a := name))
      have outside := nodup_placesAmong rest distinct.tail differ.2
      rw [placesAmong, List.map_append, List.map_map]
      rw [List.map_map] at inside
      refine List.nodup_append.mpr ⟨inside, outside, ?_⟩
      rintro names here other there rfl
      rcases List.mem_map.mp here with ⟨place, -, rfl⟩
      rcases exists_name_of_mem_placesAmong there with ⟨first, known, remaining, same⟩
      obtain rfl := (List.cons.inj same).1
      exact (List.nodup_cons.mp distinct).1 known

end

theorem mem_filesAmong_iff {entries : List (String × FileTree)}
    (differ : (directory entries).NamesDiffer) (names : List String) :
    names ∈ filesAmong entries ↔
      ∃ bytes, (directory entries).below? names = some (.file bytes) := by
  have listed (found : FileTree) := mem_placesAmong_iff entries names found differ.1 differ.2
  simp only [filesAmong, List.mem_map, List.mem_filter, Prod.exists, exists_and_right,
    exists_eq_right, listed]
  constructor
  · rintro ⟨found, ⟨-, reached⟩, file⟩
    cases found with
    | file bytes => exact ⟨bytes, reached⟩
    | directory inner => cases file
  · rintro ⟨bytes, reached⟩
    refine ⟨.file bytes, ⟨?_, reached⟩, rfl⟩
    rintro rfl
    cases reached

theorem mem_directoriesAmong_iff {entries : List (String × FileTree)}
    (differ : (directory entries).NamesDiffer) (names : List String) :
    names ∈ directoriesAmong entries ↔ names ≠ [] ∧ (directory entries).IsDirectoryAt names := by
  have listed (found : FileTree) := mem_placesAmong_iff entries names found differ.1 differ.2
  simp only [directoriesAmong, List.mem_map, List.mem_filter, Prod.exists, exists_and_right,
    exists_eq_right, listed]
  constructor
  · rintro ⟨found, ⟨nonempty, reached⟩, directory⟩
    cases found with
    | file bytes => cases directory
    | directory inner => exact ⟨nonempty, inner, reached⟩
  · rintro ⟨nonempty, inner, reached⟩
    exact ⟨.directory inner, ⟨nonempty, reached⟩, rfl⟩

theorem nodup_filesAmong {entries : List (String × FileTree)}
    (differ : (directory entries).NamesDiffer) :
    (filesAmong entries).Nodup :=
  ((List.filter_sublist).map Prod.fst).nodup (nodup_placesAmong entries differ.1 differ.2)

end FileTree

end Outline
