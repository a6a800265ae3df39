/-
# Trees of files

A tree is walked from its root: a directory is left only after everything under it has been
visited, and its entries are visited in the order of the bytes of their names. The walk meets what
stands somewhere under the root and meets it once. The list of all files, sorted by the names that
lead to them, is the same as the walk.
-/

import Mathlib.Data.List.Nodup
import Mathlib.Data.List.Perm.Basic
import Scriptlet.Command.Files
import Scriptlet.Proofs.ByteOrder

namespace Scriptlet.Command

/-- Whether a directory can hold an entry of this name. -/
def IsName (name : String) : Prop :=
  name ≠ "" ∧ name ≠ "." ∧ name ≠ ".." ∧ '/' ∉ name.toList

namespace Entry

theorem induction {P : Entry → Prop} (file : ∀ text, P (file text))
    (directory : ∀ entries, (∀ entry ∈ entries, P entry.2) → P (directory entries)) :
    ∀ entry, P entry
  | .file text => file text
  | .directory entries => directory entries (all entries)
where
  all : ∀ entries : List (String × Entry), ∀ entry ∈ entries, P entry.2
    | [], _, hmem => absurd hmem List.not_mem_nil
    | (_, inner) :: rest, entry, hmem => by
        rcases List.mem_cons.1 hmem with rfl | hmem
        · exact induction file directory inner
        · exact all rest entry hmem

/-- The entries of every directory have names, and no two of them the same one. -/
inductive IsTree : Entry → Prop
  | file {text} : IsTree (file text)
  | directory {entries} (hnames : ∀ entry ∈ entries, IsName entry.1)
      (hnodup : (entries.map Prod.fst).Nodup) (htrees : ∀ entry ∈ entries, IsTree entry.2) :
      IsTree (directory entries)

/-- What names lead to: `Leads entry names found`. -/
inductive Leads : Entry → List String → Entry → Prop
  | here {entry} : Leads entry [] entry
  | under {entries name entry names found} (hmem : (name, entry) ∈ entries)
      (hleads : Leads entry names found) : Leads (directory entries) (name :: names) found

/-- What has been found under an entry, as seen from the directory that holds the entry. -/
def fromAbove (visited : String × List (List String × Entry)) : List (List String × Entry) :=
  visited.2.map fun found => (visited.1 :: found.1, found.2)

/-- Whether a walk visits one entry of a directory before another. -/
def visitsFirst {α : Type} (first second : String × α) : Bool :=
  decide (Text.bytes first.1 ≤ Text.bytes second.1)

mutual

/-- The files that a walk meets, each with the names that lead to it. -/
def visit : Entry → List (List String × Entry)
  | file text => [([], file text)]
  | directory entries => ((visitEach entries).mergeSort visitsFirst).flatMap fromAbove

/-- What a walk meets under each entry of a directory. -/
def visitEach : List (String × Entry) → List (String × List (List String × Entry))
  | [] => []
  | (name, entry) :: rest => (name, visit entry) :: visitEach rest

end

variable {entry found : Entry} {entries : List (String × Entry)} {names more : List String}
  {name : String}

theorem visitEach_eq_map (entries : List (String × Entry)) :
    visitEach entries = entries.map fun entry => (entry.1, visit entry.2) := by
  induction entries with
  | nil => rfl
  | cons entry rest ih => rw [visitEach, ih, List.map_cons]

theorem mem_visitEach_iff {visited : String × List (List String × Entry)} :
    visited ∈ (visitEach entries).mergeSort visitsFirst ↔
      ∃ entry, (visited.1, entry) ∈ entries ∧ visit entry = visited.2 := by
  rw [List.mem_mergeSort, visitEach_eq_map, List.mem_map]
  constructor
  · rintro ⟨⟨name, entry⟩, hmem, rfl⟩
    exact ⟨entry, hmem, rfl⟩
  · rintro ⟨entry, hmem, hvisit⟩
    exact ⟨_, hmem, Prod.ext rfl hvisit⟩

/-- A walk meets the files to which names lead. -/
theorem mem_visit_iff : (names, found) ∈ visit entry ↔ Leads entry names found ∧ found.isFile := by
  induction entry using induction generalizing names found with
  | file text =>
      rw [visit, List.mem_singleton, Prod.mk.injEq]
      constructor
      · rintro ⟨rfl, rfl⟩
        exact ⟨.here, rfl⟩
      · rintro ⟨hleads, -⟩
        cases hleads
        exact ⟨rfl, rfl⟩
  | directory entries ih =>
      simp only [visit, List.mem_flatMap, mem_visitEach_iff, fromAbove, List.mem_map]
      constructor
      · rintro ⟨⟨name, visited⟩, ⟨entry, hmem, rfl⟩, ⟨inner, file⟩, hvisited, heq⟩
        cases heq
        obtain ⟨hleads, hfile⟩ := (ih _ hmem).1 hvisited
        exact ⟨.under hmem hleads, hfile⟩
      · rintro ⟨hleads, hfile⟩
        cases hleads with
        | here => cases hfile
        | under hmem hleads =>
            exact ⟨(_, _), ⟨_, hmem, rfl⟩, (_, _), (ih _ hmem).2 ⟨hleads, hfile⟩, rfl⟩

/-- A walk visits the entries of a directory by name. -/
theorem pairwise_visitEach (hnodup : (entries.map Prod.fst).Nodup) :
    ((visitEach entries).mergeSort visitsFirst).Pairwise fun first second =>
      first.1 < second.1 := by
  have hsorted : ((visitEach entries).mergeSort visitsFirst).Pairwise fun first second =>
      visitsFirst first second := by
    refine List.pairwise_mergeSort (fun first second third hle hle' => ?_)
      (fun first second => ?_) _
    · rw [visitsFirst, decide_eq_true_eq] at hle hle' ⊢
      exact List.le_trans hle hle'
    · rw [visitsFirst, visitsFirst, Bool.or_eq_true, decide_eq_true_eq, decide_eq_true_eq]
      exact List.le_total _ _
  have hdistinct : ((visitEach entries).mergeSort visitsFirst).Pairwise fun first second =>
      first.1 ≠ second.1 := by
    refine List.pairwise_map.1 ((((List.mergeSort_perm _ _).map _).nodup_iff).2 ?_)
    rwa [visitEach_eq_map, List.map_map]
  refine (hsorted.and hdistinct).imp fun {first second} h => ?_
  have hle : ¬ second.1 < first.1 := fun hlt =>
    List.not_lt.2 (of_decide_eq_true h.1) (Text.bytes_lt_iff.2 hlt)
  exact lt_of_le_of_ne (not_lt.1 hle) h.2

/-- A walk meets the files in the order of the names that lead to them. -/
theorem pairwise_visit (htree : entry.IsTree) :
    (visit entry).Pairwise fun first second => first.1 < second.1 := by
  induction htree with
  | file => exact List.pairwise_singleton _ _
  | @directory entries _ hnodup _ ih =>
      rw [visit, List.pairwise_flatMap]
      constructor
      · rintro ⟨name, visited⟩ hmem
        obtain ⟨entry, hentry, rfl⟩ := mem_visitEach_iff.1 hmem
        refine List.pairwise_map.2 ((ih _ hentry).imp fun hlt => ?_)
        exact List.cons_lt_cons_iff.2 (.inr ⟨rfl, hlt⟩)
      · refine (pairwise_visitEach hnodup).imp fun hlt => ?_
        simp only [fromAbove, List.mem_map]
        rintro _ ⟨first, -, rfl⟩ _ ⟨second, -, rfl⟩
        exact List.cons_lt_cons_iff.2 (.inl hlt)

theorem nodup_visit (htree : entry.IsTree) : ((visit entry).map Prod.fst).Nodup :=
  List.pairwise_map.2 ((pairwise_visit htree).imp ne_of_lt)

/-! ## The list of all files -/

theorem filesAll_eq_flatMap (names : List String) (entries : List (String × Entry)) :
    filesAll names entries = entries.flatMap fun entry => files (names ++ [entry.1]) entry.2 := by
  induction entries with
  | nil => rfl
  | cons entry rest ih => rw [filesAll, ih, List.flatMap_cons]

/-- The list of all files holds what the walk meets. -/
theorem files_perm (names : List String) (entry : Entry) :
    (files names entry).Perm ((visit entry).map fun found => (names ++ found.1, found.2)) := by
  induction entry using induction generalizing names with
  | file text => rw [files, visit, List.map_singleton, List.append_nil]
  | directory entries ih =>
      rw [files, filesAll_eq_flatMap, visit, List.map_flatMap]
      refine .trans ?_ ((List.mergeSort_perm _ _).flatMap_right _).symm
      rw [visitEach_eq_map, List.flatMap_map]
      refine List.Perm.flatMap_left _ fun entry hmem => (ih entry hmem _).trans (.of_eq ?_)
      simp only [fromAbove, List.map_map, Function.comp_def, List.append_assoc,
        List.singleton_append]

theorem files_perm_visit (entry : Entry) : (files [] entry).Perm (visit entry) := by
  refine (files_perm [] entry).trans (.of_eq ?_)
  simp only [List.nil_append, Prod.mk.eta, List.map_id_fun', id_eq]

/-- The walk is the list of all files, sorted. -/
theorem visit_eq_of_perm (htree : entry.IsTree) {sorted : List (List String × Entry)}
    (hperm : sorted.Perm (files [] entry))
    (hsorted : sorted.Pairwise fun first second => first.1 < second.1) : visit entry = sorted := by
  refine List.Perm.eq_of_pairwise (fun first second _ _ hlt hgt => ?_) (pairwise_visit htree)
    hsorted (hperm.trans (files_perm_visit entry)).symm
  exact absurd hgt (lt_asymm hlt)

theorem comesBefore_iff {first second : List String} :
    comesBefore first second = true ↔ first < second := List.lex_eq_true_iff_lt

/-- The sources beneath a directory are the source files that a walk meets, in its order. -/
theorem sourcesAt_directory (htree : (directory entries).IsTree) (path : String) :
    sourcesAt path (directory entries) =
      ((visit (directory entries)).filter fun found =>
        (found.1.getLast?.map isSourceName).getD false).map fun found =>
          (joinPath path found.1, found.2) := by
  rw [sourcesAt, if_neg (show ¬ (directory entries).isFile by exact Bool.false_ne_true)]
  refine congrArg (List.map _) ?_
  have hvisit := (pairwise_visit htree).filter
    fun found => (found.1.getLast?.map isSourceName).getD false
  have hperm := files_perm_visit (directory entries)
  have hsorted : ∀ found : List (List String × Entry),
      (found.mergeSort fun first second => !comesBefore second.1 first.1).Pairwise
        fun first second => !comesBefore second.1 first.1 := by
    refine List.pairwise_mergeSort (fun first second third hle hle' => ?_) (fun first second => ?_)
    · simp only [Bool.not_eq_true', ← Bool.not_eq_true, comesBefore_iff, not_lt] at hle hle' ⊢
      exact hle.trans hle'
    · simp only [Bool.or_eq_true, Bool.not_eq_true', ← Bool.not_eq_true, comesBefore_iff, not_lt]
      exact le_total _ _
  refine List.Perm.eq_of_pairwise (fun first second hfirst hsecond hle hle' => ?_) (hsorted _)
    (hvisit.imp fun {first second} hlt => ?_) ((List.mergeSort_perm _ _).trans (hperm.filter _))
  · simp only [Bool.not_eq_true', ← Bool.not_eq_true, comesBefore_iff, not_lt] at hle hle'
    have hfirst := hperm.mem_iff.1 (List.mem_filter.1 (List.mem_mergeSort.1 hfirst)).1
    have hsecond := (List.mem_filter.1 hsecond).1
    exact List.inj_on_of_nodup_map (nodup_visit htree) hfirst hsecond (le_antisymm hle hle')
  · simp only [Bool.not_eq_true', ← Bool.not_eq_true, comesBefore_iff, not_lt]
    exact hlt.le

end Entry
end Scriptlet.Command
