import Mathlib.Data.String.Basic
import NativeStubs.Proofs.Directories

/-! # The directory above a file

The first of the directories above a file in a directory is given by a path to that directory,
without the slashes and dots that do not matter. It leads where the path of the directory leads.
-/

namespace NativeStubs

namespace Path

variable {path dir file name : String}

theorem noSlash_of_mem_pieces {s piece : List Char} (h : piece ∈ pieces s) : '/' ∉ piece := by
  induction s generalizing piece with
  | nil =>
    obtain rfl := List.mem_singleton.mp h
    exact List.not_mem_nil
  | cons c s ih =>
    rw [pieces] at h
    split_ifs at h with hc
    · rcases List.mem_cons.mp h with rfl | h
      · exact List.not_mem_nil
      · exact ih h
    · cases hs : pieces s with
      | nil => exact absurd hs (pieces_ne_nil s)
      | cons first rest =>
        rw [hs] at h ih
        rcases List.mem_cons.mp h with rfl | h
        · intro hmem
          rcases List.mem_cons.mp hmem with hslash | hmem
          · exact hc hslash.symm
          · exact ih List.mem_cons_self hmem
        · exact ih (List.mem_cons_of_mem _ h)

theorem intercalate_pieces (s : List Char) : ['/'].intercalate (pieces s) = s := by
  induction s with
  | nil => rfl
  | cons c s ih =>
    rw [pieces]
    split_ifs with hc
    · rw [List.intercalate_cons_of_ne_nil (pieces_ne_nil s), ih, hc]
      rfl
    · cases hs : pieces s with
      | nil => exact absurd hs (pieces_ne_nil s)
      | cons first rest =>
        rw [hs] at ih
        dsimp only
        rw [List.intercalate_cons_cons_left, ih]

theorem intercalate_sublist {l l' : List (List Char)} (sep : List Char) (h : l.Sublist l') :
    (sep.intercalate l).Sublist (sep.intercalate l') := by
  induction h with
  | slnil => exact .slnil
  | @cons l l' piece h ih =>
    cases l' with
    | nil =>
      obtain rfl := List.sublist_nil.mp h
      exact List.nil_sublist _
    | cons first rest =>
      rw [List.intercalate_cons_cons]
      exact ih.trans (List.sublist_append_right _ _)
  | @cons_cons l l' piece h ih =>
    cases l with
    | nil =>
      cases l' with
      | nil => exact .refl _
      | cons first rest =>
        rw [List.intercalate_singleton, List.intercalate_cons_cons, List.append_assoc]
        exact List.sublist_append_left _ _
    | cons next tail =>
      cases l' with
      | nil => cases List.sublist_nil.mp h
      | cons first rest =>
        rw [List.intercalate_cons_cons, List.intercalate_cons_cons]
        exact (List.Sublist.refl _).append ih

theorem mem_names {path name : String} (h : name ∈ names path) :
    '/' ∉ name.toList ∧ name ≠ "" := by
  obtain ⟨piece, hpiece, rfl⟩ := List.mem_map.mp h
  obtain ⟨hmem, hne⟩ := List.mem_filter.mp hpiece
  rw [String.toList_ofList]
  refine ⟨noSlash_of_mem_pieces hmem, fun hempty => ?_⟩
  rw [← String.toList_inj, String.toList_ofList] at hempty
  simp [hempty] at hne

theorem components_sublist (path : String) : (components path).Sublist (names path) := by
  unfold components
  split
  · next hnames => rw [hnames]
  · next first rest hnames =>
    rw [hnames]
    dsimp only
    split_ifs
    · exact (List.filter_sublist).cons _
    · exact (List.filter_sublist).cons_cons _

theorem map_toList_names (path : String) :
    (names path).map String.toList = (pieces path.toList).filter (· ≠ []) := by
  rw [names, List.map_map]
  exact (List.map_congr_left fun _ _ => String.toList_ofList).trans (List.map_id _)

/-- What is left of a path when it is made from its components again. -/
theorem ofComponents_sublist (path : String) :
    (ofComponents (isAbsolute path) (components path)).toList.Sublist path.toList := by
  have hsub := (components_sublist path).map String.toList
  rw [map_toList_names] at hsub
  rw [ofComponents, String.toList_append, String.toList_intercalate]
  cases habsolute : isAbsolute path with
  | true =>
    -- The slash at the start is kept, and the components lie in what follows it.
    obtain ⟨s, hs⟩ := List.head?_eq_some_iff.mp (beq_iff_eq.mp habsolute)
    rw [hs, pieces, if_pos rfl, List.filter_cons_of_neg (by simp)] at hsub
    have hrest := intercalate_sublist ['/'] (hsub.trans List.filter_sublist)
    rw [intercalate_pieces] at hrest
    rw [hs]
    exact hrest.cons_cons '/'
  | false =>
    have hwhole := intercalate_sublist ['/'] (hsub.trans List.filter_sublist)
    rwa [intercalate_pieces] at hwhole

theorem names_intercalate {l : List String} (h : ∀ name ∈ l, '/' ∉ name.toList ∧ name ≠ "") :
    names ("/".intercalate l) = l := by
  induction l with
  | nil => rfl
  | cons name rest ih =>
    obtain ⟨⟨hslash, hne⟩, hrest⟩ := List.forall_mem_cons.mp h
    cases rest with
    | nil => rw [String.intercalate_singleton, names_of_noSlash hslash hne]
    | cons next tail =>
      rw [String.intercalate_cons_cons, names_append_slash, names_of_noSlash hslash hne, ih hrest]
      rfl

theorem names_ofComponents (absolute : Bool) (path : String) :
    names (ofComponents absolute (components path)) = components path := by
  have hnames := names_intercalate fun name hmem => mem_names ((components_sublist path).subset hmem)
  cases absolute with
  | true =>
    have hslash := names_append_slash "" ("/".intercalate (components path))
    rwa [hnames] at hslash
  | false =>
    rw [ofComponents, if_neg Bool.false_ne_true, String.empty_append, hnames]

theorem join_eq_or (dir : String) (h : '/' ∉ file.toList) :
    join dir file = dir ++ file ∨ dir ≠ "" ∧ join dir file = dir ++ ("/" ++ file) := by
  rw [join, isAbsolute_of_noSlash h, if_neg Bool.false_ne_true]
  split_ifs with hdir
  · exact Or.inl rfl
  · refine Or.inr ⟨?_, String.append_assoc⟩
    rintro rfl
    exact hdir rfl

theorem isAbsolute_append (h : dir ≠ "") (rest : String) :
    isAbsolute (dir ++ rest) = isAbsolute dir := by
  have hne : dir.toList ≠ [] := by simpa using h
  rw [isAbsolute, isAbsolute, String.toList_append, List.head?_append_of_ne_nil _ hne]

theorem isAbsolute_join (dir : String) (h : '/' ∉ file.toList) :
    isAbsolute (join dir file) = isAbsolute dir := by
  rcases join_eq_or dir h with hjoin | ⟨hdir, hjoin⟩
  · by_cases hdir : dir = ""
    · subst hdir
      rw [hjoin, String.empty_append]
      exact isAbsolute_of_noSlash h
    · rw [hjoin, isAbsolute_append hdir]
  · rw [hjoin, isAbsolute_append hdir]

theorem sublist_join (dir : String) (h : '/' ∉ file.toList) :
    dir.toList.Sublist (join dir file).toList := by
  rcases join_eq_or dir h with hjoin | ⟨-, hjoin⟩ <;> rw [hjoin, String.toList_append]
  · exact List.sublist_append_left _ _
  · exact List.sublist_append_left _ _

theorem endsInSlash_join (dir : String) (h : '/' ∉ file.toList) (hne : file ≠ "") :
    endsInSlash (join dir file) = false := by
  have hfile : file.toList ≠ [] := by simpa using hne
  have hlast (front : String) : endsInSlash (front ++ file) = false := by
    rw [endsInSlash, String.toList_append, List.getLast?_append_of_ne_nil _ hfile,
      beq_eq_false_iff_ne]
    exact fun hslash => h (List.mem_of_getLast? hslash)
  rcases join_eq_or dir h with hjoin | ⟨-, hjoin⟩
  · rw [hjoin, hlast]
  · rw [hjoin, ← String.append_assoc, hlast]

theorem components_join (dir : String) (h : '/' ∉ file.toList) (hne : file ≠ "")
    (hdot : file ≠ ".") : components (join dir file) = components dir ++ [file] := by
  rw [components, components, names_join dir h hne, isAbsolute_join dir h]
  cases names dir with
  | nil => simp [hdot]
  | cons first rest =>
    simp only [List.cons_append, List.filter_append]
    split_ifs <;> simp [hdot]

/-- The first directory above a file in a directory is that directory. -/
theorem head?_parents_join (dir : String) (h : '/' ∉ file.toList) (hne : file ≠ "")
    (hdot : file ≠ ".") {parent : String} (hparent : parent ∈ (parents (join dir file)).head?) :
    parent = ofComponents (isAbsolute dir) (components dir) ∧ components dir ≠ [] := by
  rw [parents, components_join dir h hne hdot, isAbsolute_join dir h, List.reverse_append,
    List.reverse_singleton, List.singleton_append] at hparent
  cases hreverse : (components dir).reverse with
  | nil =>
    rw [hreverse] at hparent
    cases hparent
  | cons last start =>
    rw [hreverse] at hparent
    have hparent : some (ofComponents (isAbsolute dir) (last :: start).reverse) = some parent :=
      hparent
    rw [← hreverse, List.reverse_reverse] at hparent
    cases hparent
    refine ⟨rfl, fun hnil => ?_⟩
    rw [hnil] at hreverse
    cases hreverse

end Path

namespace FileTree

variable {t : FileTree} {path path' dir file : String} {place : Place}

theorem pathFault?_of_sublist (h : path'.toList.Sublist path.toList) (hne : path' ≠ "")
    (hfault : pathFault? path = none) : pathFault? path' = none := by
  have hsize := String.utf8Len_le_of_sublist h
  rw [← String.utf8ByteSize_ofList, ← String.utf8ByteSize_ofList, String.ofList_toList,
    String.ofList_toList] at hsize
  unfold pathFault? at hfault ⊢
  split_ifs at hfault with hnul hempty hlong
  have hnul' : ¬ path'.toList.contains '\x00' = true := by
    intro hmem
    exact hnul (List.contains_iff_mem.mpr (h.subset (List.contains_iff_mem.mp hmem)))
  have hempty' : ¬ path'.isEmpty = true := by simpa using hne
  rw [if_neg hnul', if_neg hempty', if_neg (by omega)]

theorem eq_of_step_dot {start : Place} (h : t.step start "." = .ok place) : place = start := by
  rw [step, if_pos (rfl : "." = ".")] at h
  split_ifs at h
  exact (Except.ok.inj h).symm

/-- Dots that are walked over lead nowhere. -/
theorem foldlM_step_filter {names : List String} {start : Place}
    (h : names.foldlM t.step start = .ok place) :
    (names.filter (· ≠ ".")).foldlM t.step start = .ok place := by
  induction names generalizing start with
  | nil => exact h
  | cons name rest ih =>
    rw [List.foldlM_cons, bind_eq_ok_iff] at h
    obtain ⟨next, hstep, hrest⟩ := h
    by_cases hdot : name = "."
    · subst hdot
      obtain rfl := eq_of_step_dot hstep
      rw [List.filter_cons_of_neg (by simp)]
      exact ih hrest
    · rw [List.filter_cons_of_pos (by simpa using hdot), List.foldlM_cons, hstep]
      exact ih hrest

theorem walk_components (h : t.walk (Path.names path) = .ok place) :
    t.walk (Path.components path) = .ok place := by
  unfold Path.components
  split
  · next hnames => rwa [hnames] at h
  · next first rest hnames =>
    rw [hnames, walk, List.foldlM_cons, bind_eq_ok_iff] at h
    obtain ⟨next, hstep, hrest⟩ := h
    dsimp only
    split_ifs with hdot
    · obtain ⟨rfl, -⟩ := hdot
      obtain rfl := eq_of_step_dot hstep
      exact foldlM_step_filter hrest
    · rw [walk, List.foldlM_cons, hstep]
      exact foldlM_step_filter hrest

/-- A file in a directory that is there has that directory above it. -/
theorem reachesFirst_parents_join (hslash : '/' ∉ file.toList) (hne : file ≠ "")
    (hdot : file ≠ ".") (hwalk : t.walk (Path.names dir) = .ok place)
    (hdirectory : t.get? place = some .directory)
    (hfault : pathFault? (Path.join dir file) = none) :
    t.ReachesFirst (Path.parents (Path.join dir file)) := by
  intro parent hparent
  obtain ⟨rfl, hcomponents⟩ := Path.head?_parents_join dir hslash hne hdot hparent
  have hnames := Path.names_ofComponents (Path.isAbsolute dir) dir
  refine ⟨place, find_eq_directory_iff.mpr ⟨?_, ?_, hdirectory⟩⟩
  · refine pathFault?_of_sublist ((Path.ofComponents_sublist dir).trans
      (Path.sublist_join dir hslash)) (fun hempty => ?_) hfault
    rw [hempty] at hnames
    exact hcomponents hnames.symm
  · rw [hnames]
    exact walk_components hwalk

end FileTree

end NativeStubs
