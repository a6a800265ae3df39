/-
# Sources

The sources at a path are told by a walk. They are the files with the extension of sources, each of
them once; a name that is all extension has none. Each source stands at its path, so what is checked
is what a command finds that is given the path of the source.
-/

import Scriptlet.Proofs.Paths

namespace Scriptlet.Command

namespace Entry

/-- The source files that a walk meets. -/
def sourcesBeneath (entry : Entry) : List (List String × Entry) :=
  entry.visit.filter fun found => (found.1.getLast?.map isSourceName).getD false

theorem isSourceName_iff {name : String} :
    isSourceName name = true ↔ ∃ stem, stem ≠ "" ∧ name = stem ++ ".jsl" := by
  rw [isSourceName, Bool.and_eq_true, endsWith_iff, bne_iff_ne]
  constructor
  · rintro ⟨⟨stem, rfl⟩, hne⟩
    refine ⟨stem, ?_, rfl⟩
    rintro rfl
    exact hne String.empty_append
  · rintro ⟨stem, hne, rfl⟩
    refine ⟨⟨stem, rfl⟩, fun h => hne ?_⟩
    exact (String.append_left_inj ".jsl").1 (h.trans String.empty_append.symm)

theorem isSource_iff {names : List String} :
    (names.getLast?.map isSourceName).getD false = true ↔
      ∃ front stem, stem ≠ "" ∧ names = front ++ [stem ++ ".jsl"] := by
  rcases List.eq_nil_or_concat names with rfl | ⟨front, name, rfl⟩
  · simp
  · rw [List.concat_eq_append, List.getLast?_concat, Option.map_some, Option.getD_some,
      isSourceName_iff]
    simp only [List.append_singleton_inj]
    constructor
    · rintro ⟨stem, hstem, rfl⟩
      exact ⟨front, stem, hstem, rfl, rfl⟩
    · rintro ⟨_, stem, hstem, -, rfl⟩
      exact ⟨stem, hstem, rfl⟩

/-- The sources beneath a directory, by the names that lead to them. -/
theorem mem_sourcesBeneath_iff {entries : List (String × Entry)} {found : List String × Entry} :
    found ∈ (directory entries).sourcesBeneath ↔
      ∃ front stem text, stem ≠ "" ∧
        Leads (directory entries) (front ++ [stem ++ ".jsl"]) (file text) ∧
        found = (front ++ [stem ++ ".jsl"], file text) := by
  obtain ⟨names, entry⟩ := found
  rw [sourcesBeneath, List.mem_filter, mem_visit_iff, isSource_iff]
  constructor
  · rintro ⟨⟨hleads, hfile⟩, front, stem, hstem, rfl⟩
    cases entry with
    | file text => exact ⟨front, stem, text, hstem, hleads, rfl⟩
    | directory => cases hfile
  · rintro ⟨front, stem, text, hstem, hleads, heq⟩
    cases heq
    exact ⟨⟨hleads, rfl⟩, front, stem, hstem, rfl⟩

end Entry

namespace FileSystem

open Entry

variable {system : FileSystem} {path : String}

/-- The paths of the sources at a path: the path itself if it leads to a file, and what a walk meets
of source files if it leads to a directory. -/
def sourcePaths (system : FileSystem) (path : String) : List String :=
  match system.at? path with
  | none => []
  | some (file _) => [path]
  | some (directory entries) =>
    (directory entries).sourcesBeneath.map fun found => joinPath path found.1

/-- What the sources at a path are: `HasSource system path source`. -/
inductive HasSource (system : FileSystem) (path : String) : String → Prop
  | itself {text} (hfile : system.at? path = some (file text)) : HasSource system path path
  /-- A file somewhere beneath a directory is a source if its name has something before the
  extension. -/
  | beneath {entries names stem text} (hdirectory : system.at? path = some (directory entries))
      (hleads : Leads (directory entries) (names ++ [stem ++ ".jsl"]) (file text))
      (hstem : stem ≠ "") : HasSource system path (joinPath path (names ++ [stem ++ ".jsl"]))

theorem mem_sourcePaths_iff {source : String} :
    source ∈ system.sourcePaths path ↔ system.HasSource path source := by
  constructor
  · intro hmem
    unfold sourcePaths at hmem
    split at hmem
    · cases hmem
    · next h =>
        rw [List.mem_singleton.1 hmem]
        exact .itself h
    · next h =>
        obtain ⟨found, hfound, rfl⟩ := List.mem_map.1 hmem
        obtain ⟨front, stem, text, hstem, hleads, rfl⟩ := mem_sourcesBeneath_iff.1 hfound
        exact .beneath h hleads hstem
  · intro h
    cases h with
    | itself hfile =>
        rw [sourcePaths, hfile]
        exact List.mem_singleton.2 rfl
    | beneath hdirectory hleads hstem =>
        rw [sourcePaths, hdirectory]
        exact List.mem_map.2 ⟨_, mem_sourcesBeneath_iff.2 ⟨_, _, _, hstem, hleads, rfl⟩, rfl⟩

theorem nodup_sourcePaths (hroot : system.root.IsTree) : (system.sourcePaths path).Nodup := by
  unfold sourcePaths
  split
  · exact List.nodup_nil
  · exact List.nodup_singleton _
  · next entries h =>
      have htree := isTree_of_at? hroot h
      have hnodup : ((directory entries).sourcesBeneath.map Prod.fst).Nodup :=
        (nodup_visit htree).sublist (List.filter_sublist.map _)
      refine (hnodup.of_map _).map_on fun first hfirst second hsecond heq => ?_
      refine List.inj_on_of_nodup_map hnodup hfirst hsecond ?_
      obtain ⟨_, _, _, -, hleads, rfl⟩ := mem_sourcesBeneath_iff.1 hfirst
      obtain ⟨_, _, _, -, hleads', rfl⟩ := mem_sourcesBeneath_iff.1 hsecond
      exact joinPath_inj (hleads.isName htree) (hleads'.isName htree) (List.concat_ne_nil _ _)
        (List.concat_ne_nil _ _) heq

/-- The sources at a path, by their paths. -/
theorem map_fst_sourcesAt (hroot : system.root.IsTree) :
    (((system.at? path).map (sourcesAt path)).getD []).map Prod.fst = system.sourcePaths path := by
  unfold sourcePaths
  split
  · next h => rw [h]; rfl
  · next h => rw [h]; rfl
  · next h =>
      rw [h, Option.map_some, Option.getD_some, sourcesAt_directory (isTree_of_at? hroot h),
        List.map_map]
      rfl

/-- The sources at a path stand at their paths. -/
theorem at?_of_mem_sourcesAt (hroot : system.root.IsTree) {source : String × Entry}
    (hmem : source ∈ ((system.at? path).map (sourcesAt path)).getD []) :
    system.at? source.1 = some source.2 := by
  rcases h : system.at? path with _ | ⟨text | entries⟩
  · rw [h] at hmem
    cases hmem
  · rw [h] at hmem
    cases List.mem_singleton.1 hmem
    exact h
  · rw [h, Option.map_some, Option.getD_some, sourcesAt_directory (isTree_of_at? hroot h)] at hmem
    obtain ⟨found, hfound, rfl⟩ := List.mem_map.1 hmem
    obtain ⟨front, stem, text, -, hleads, rfl⟩ := mem_sourcesBeneath_iff.1 hfound
    exact at?_joinPath hroot h hleads (List.concat_ne_nil _ _)

end FileSystem

end Scriptlet.Command
