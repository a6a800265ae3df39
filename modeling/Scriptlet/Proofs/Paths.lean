/-
# Paths

A path is followed name by name, from the root or from the working directory. A path that has been
made longer by the names that lead from a directory to a file leads to that file, whether or not
the shorter path ends in a slash, and wherever it starts. Different names make different paths.
-/

import Scriptlet.Proofs.Trees

namespace Scriptlet.Command

/-! ## The names of a path -/

theorem segments_append_slash (path rest : String) :
    segments (path ++ "/" ++ rest) = segments path ++ segments rest := by
  rw [segments, String.toList_append, String.toList_append, List.append_assoc,
    show "/".toList ++ rest.toList = '/' :: rest.toList from rfl, List.splitOn_append_cons_self,
    List.map_append]
  rfl

theorem segments_intercalate {names : List String} (hnames : ∀ name ∈ names, IsName name)
    (hne : names ≠ []) : segments ("/".intercalate names) = names := by
  rw [segments, String.toList_intercalate, show "/".toList = ['/'] from rfl,
    List.splitOn_intercalate _ ?_ (by simpa using hne), List.map_map]
  · simp
  · simp only [List.mem_map, forall_exists_index, and_imp, forall_apply_eq_imp_iff₂]
    exact fun name hmem => (hnames name hmem).2.2.2

theorem endsWith_iff {text tail : String} :
    text.endsWith tail = true ↔ ∃ stem, text = stem ++ tail := by
  have h := @String.Slice.endsWith_string_iff tail text.toSlice
  rw [String.copy_toSlice] at h
  refine h.trans ⟨?_, ?_⟩
  · rintro ⟨stem, hstem⟩
    refine ⟨String.ofList stem, String.toList_inj.1 ?_⟩
    rw [String.toList_append, String.toList_ofList, hstem]
  · rintro ⟨stem, rfl⟩
    exact ⟨stem.toList, (String.toList_append ..).symm⟩

/-- A path has names of its own before those that it is made longer by; a slash at its end counts
as one more name, that is blank. -/
theorem exists_segments (path : String) :
    ∃ own, (segments path = own ∨ segments path = own ++ [""]) ∧
      ∀ names, (∀ name ∈ names, IsName name) → names ≠ [] →
        segments (joinPath path names) = own ++ names := by
  by_cases hslash : path.endsWith "/" = true
  · obtain ⟨stem, rfl⟩ := endsWith_iff.1 hslash
    refine ⟨segments stem, .inr ?_, fun names hnames hne => ?_⟩
    · have h := segments_append_slash stem ""
      rwa [String.append_empty, show segments "" = [""] from rfl] at h
    · rw [joinPath, if_pos hslash, segments_append_slash, segments_intercalate hnames hne]
  · refine ⟨segments path, .inl rfl, fun names hnames hne => ?_⟩
    rw [joinPath, if_neg hslash, segments_append_slash, segments_intercalate hnames hne]

theorem joinPath_inj {path : String} {first second : List String}
    (hfirst : ∀ name ∈ first, IsName name) (hsecond : ∀ name ∈ second, IsName name)
    (hfirstNe : first ≠ []) (hsecondNe : second ≠ [])
    (h : joinPath path first = joinPath path second) : first = second := by
  obtain ⟨own, -, hown⟩ := exists_segments path
  have hsegments := hown first hfirst hfirstNe
  rw [h, hown second hsecond hsecondNe] at hsegments
  exact (List.append_cancel_left hsegments).symm

/-- A path that has been made longer starts where it has started. -/
theorem startsWith_joinPath {path : String} (hne : path ≠ "") (names : List String) :
    (joinPath path names).startsWith "/" = path.startsWith "/" := by
  have hprefix : path.toList <+: (joinPath path names).toList := by
    unfold joinPath
    split <;> simp only [String.toList_append, List.append_assoc, List.prefix_append]
  have hlength : "/".toList.length ≤ path.toList.length := by
    rw [String.length_toList, String.length_toList]
    exact Nat.one_le_iff_ne_zero.2 (by simpa using hne)
  rw [Bool.eq_iff_iff, String.startsWith_string_iff, String.startsWith_string_iff]
  constructor
  · exact fun hjoined => List.prefix_of_prefix_length_le hjoined hprefix hlength
  · exact fun hpath => hpath.trans hprefix

namespace Entry

variable {entry found root : Entry} {entered : List Entry} {entries : List (String × Entry)}
  {names more : List String}

/-! ## Following names -/

theorem leave_subset : ∀ entered : List Entry, leave entered ⊆ entered
  | [] | [_] => List.Subset.refl _
  | _ :: _ :: _ => List.subset_cons_self _ _

/-- After names that lead to a directory the following goes on from there. -/
theorem follow_append (h : follow entered names = some (directory entries)) :
    ∃ outer, ∀ more, follow entered (names ++ more) = follow (directory entries :: outer) more := by
  fun_induction follow entered names with
  | case1 entered =>
      obtain ⟨outer, rfl⟩ := List.head?_eq_some_iff.1 h
      exact ⟨outer, fun more => rfl⟩
  | case2 inner outer name rest hblank ih =>
      obtain ⟨outer, houter⟩ := ih h
      refine ⟨outer, fun more => ?_⟩
      rw [List.cons_append, follow, if_pos hblank, houter]
  | case3 inner outer rest hblank ih =>
      obtain ⟨outer, houter⟩ := ih h
      refine ⟨outer, fun more => ?_⟩
      rw [List.cons_append, follow, if_neg hblank, if_pos rfl, houter]
  | case4 inner outer name rest hblank hup entry hfind ih =>
      obtain ⟨outer, houter⟩ := ih h
      refine ⟨outer, fun more => ?_⟩
      rw [List.cons_append, follow, if_neg hblank, if_neg hup, hfind]
      exact houter more
  | case5 | case6 => cases h

/-- A blank name at the end leads from a directory to itself. -/
theorem follow_of_append_blank (h : follow entered (names ++ [""]) = some found) :
    follow entered names = some found := by
  fun_induction follow entered names with
  | case1 entered =>
      rcases entered with - | ⟨_ | inner, outer⟩
      · cases h
      · cases h
      · exact h
  | case2 inner outer name rest hblank ih =>
      rw [List.cons_append, follow, if_pos hblank] at h
      exact ih h
  | case3 inner outer rest hblank ih =>
      rw [List.cons_append, follow, if_neg hblank, if_pos rfl] at h
      exact ih h
  | case4 inner outer name rest hblank hup entry hfind ih =>
      rw [List.cons_append, follow, if_neg hblank, if_neg hup, hfind] at h
      exact ih h
  | case5 inner outer name rest hblank hup hfind =>
      rw [List.cons_append, follow, if_neg hblank, if_neg hup, hfind] at h
      cases h
  | case6 entered name rest hentered =>
      rcases entered with - | ⟨_ | inner, outer⟩
      · cases h
      · cases h
      · exact absurd rfl (hentered inner outer)

theorem IsTree.follow (hentered : ∀ entry ∈ entered, entry.IsTree)
    (h : follow entered names = some found) : found.IsTree := by
  fun_induction Entry.follow entered names with
  | case1 entered => exact hentered _ (List.mem_of_head? h)
  | case2 inner outer name rest hblank ih => exact ih hentered h
  | case3 inner outer rest hblank ih =>
      exact ih (fun entry hmem => hentered entry (leave_subset _ hmem)) h
  | case4 inner outer name rest hblank hup entry hfind ih =>
      refine ih (List.forall_mem_cons.2 ⟨?_, hentered⟩) h
      cases hentered _ (.head _) with
      | directory _ _ htrees => exact htrees entry (List.mem_of_find?_eq_some hfind)
  | case5 | case6 => cases h

theorem find?_of_mem (hnodup : (entries.map Prod.fst).Nodup) {name : String}
    (hmem : (name, entry) ∈ entries) :
    (entries.find? fun entry => entry.1 = name) = some (name, entry) := by
  have hsome : (entries.find? fun entry => entry.1 = name).isSome :=
    List.find?_isSome.2 ⟨_, hmem, decide_eq_true rfl⟩
  obtain ⟨other, hother⟩ := Option.isSome_iff_exists.1 hsome
  have hname : other.1 = name := by simpa using List.find?_some hother
  rw [hother]
  exact congrArg some
    (List.inj_on_of_nodup_map hnodup (List.mem_of_find?_eq_some hother) hmem hname)

/-- The names that lead to an entry are followed to it. -/
theorem Leads.follow (htree : entry.IsTree) (h : Leads entry names found) (outer : List Entry) :
    follow (entry :: outer) names = some found := by
  induction h generalizing outer with
  | here => rfl
  | @under entries name entry names found hmem _ ih =>
      cases htree with
      | directory hnames hnodup htrees =>
          obtain ⟨hblank, hhere, hup, -⟩ := hnames _ hmem
          rw [Entry.follow, if_neg (not_or.2 ⟨hblank, hhere⟩), if_neg hup,
            find?_of_mem hnodup hmem]
          exact ih (htrees _ hmem) _

theorem Leads.isName (htree : entry.IsTree) (h : Leads entry names found) :
    ∀ name ∈ names, IsName name := by
  induction h with
  | here => exact fun _ hmem => absurd hmem List.not_mem_nil
  | under hmem _ ih =>
      cases htree with
      | directory hnames _ htrees =>
          exact List.forall_mem_cons.2 ⟨hnames _ hmem, ih (htrees _ hmem)⟩

/-- What names lead to from a directory stands under the path of the directory and those names,
where the path is followed from the entry that other names lead to. -/
theorem follow_segments_joinPath (hentered : ∀ entry ∈ entered, entry.IsTree) {before : List String}
    {path : String} (h : follow entered (before ++ segments path) = some (directory entries))
    (hleads : Leads (directory entries) names found) (hnames : names ≠ []) :
    follow entered (before ++ segments (joinPath path names)) = some found := by
  have htree : (directory entries).IsTree := IsTree.follow hentered h
  obtain ⟨own, hown, hjoin⟩ := exists_segments path
  have hfollow : follow entered (before ++ own) = some (directory entries) := by
    rcases hown with hown | hown
    · rwa [hown] at h
    · rw [hown, ← List.append_assoc] at h
      exact follow_of_append_blank h
  obtain ⟨outer, houter⟩ := follow_append hfollow
  rw [hjoin names (hleads.isName htree) hnames, ← List.append_assoc, houter]
  exact hleads.follow htree outer

end Entry

namespace FileSystem

variable {system : FileSystem} {path : String} {found : Entry} {entries : List (String × Entry)}
  {names : List String}

/-- The names that are followed before those of a path. -/
def before (system : FileSystem) (path : String) : List String :=
  if path.startsWith "/" then [] else segments system.working

theorem at?_eq (hne : path ≠ "") :
    system.at? path = Entry.follow [system.root] (system.before path ++ segments path) := by
  rw [at?, if_neg hne, Entry.at?, absolute, before]
  split
  · rw [List.nil_append]
  · rw [segments_append_slash]

theorem ne_empty_of_at? (h : system.at? path = some found) : path ≠ "" := by
  rintro rfl
  cases h

theorem isTree_of_at? (hroot : system.root.IsTree) (h : system.at? path = some found) :
    found.IsTree := by
  rw [at?_eq (ne_empty_of_at? h)] at h
  exact Entry.IsTree.follow (List.forall_mem_singleton.2 hroot) h

/-- What names lead to from a directory stands under the path of the directory and those names. -/
theorem at?_joinPath (hroot : system.root.IsTree)
    (h : system.at? path = some (.directory entries))
    (hleads : (Entry.directory entries).Leads names found) (hnames : names ≠ []) :
    system.at? (joinPath path names) = some found := by
  have hpath : path ≠ "" := ne_empty_of_at? h
  have hjoined : joinPath path names ≠ "" := by
    intro hempty
    have hnil := congrArg String.toList hempty
    unfold joinPath at hnil
    split at hnil
    · simp [hpath] at hnil
    · simp at hnil
  have hbefore : system.before (joinPath path names) = system.before path := by
    rw [before, before, startsWith_joinPath hpath]
  rw [at?_eq hpath] at h
  rw [at?_eq hjoined, hbefore]
  exact Entry.follow_segments_joinPath (List.forall_mem_singleton.2 hroot) h hleads hnames

end FileSystem

end Scriptlet.Command
