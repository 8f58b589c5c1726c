import Mathlib.Tactic.SplitIfs
import NativeStubs.Files.Path

/-! # The names of a path

The names of a path to a file in a directory are those of the directory and the name of the file,
whether or not the directory is given with a slash at its end.
-/

namespace NativeStubs

namespace Path

variable {dir file : String}

theorem pieces_ne_nil (s : List Char) : pieces s ≠ [] := by
  cases s with
  | nil => simp [pieces]
  | cons c s =>
    rw [pieces]
    split_ifs
    · simp
    · split <;> simp

theorem pieces_append_slash (s s' : List Char) :
    pieces (s ++ '/' :: s') = pieces s ++ pieces s' := by
  induction s with
  | nil => simp [pieces]
  | cons c s ih =>
    rw [List.cons_append, pieces, pieces, ih]
    split_ifs
    · rfl
    · cases h : pieces s with
      | nil => exact absurd h (pieces_ne_nil s)
      | cons piece rest => rfl

theorem pieces_of_noSlash {s : List Char} (h : '/' ∉ s) : pieces s = [s] := by
  induction s with
  | nil => rfl
  | cons c s ih =>
    obtain ⟨hc, hs⟩ := List.ne_and_not_mem_of_not_mem_cons h
    rw [pieces, if_neg hc.symm, ih hs]

theorem names_append_slash (dir file : String) :
    names (dir ++ "/" ++ file) = names dir ++ names file := by
  have htext : (dir ++ "/" ++ file).toList = dir.toList ++ '/' :: file.toList := by simp
  simp only [names, htext, pieces_append_slash, List.filter_append, List.map_append]

theorem names_of_noSlash (h : '/' ∉ file.toList) (hne : file ≠ "") : names file = [file] := by
  have hne' : file.toList ≠ [] := by simpa using hne
  simp [names, pieces_of_noSlash h, hne']

theorem names_of_endsInSlash (h : endsInSlash dir = true) (file : String) :
    names (dir ++ file) = names dir ++ names file := by
  obtain ⟨start, hstart⟩ := List.getLast?_eq_some_iff.mp (beq_iff_eq.mp h)
  obtain rfl : dir = String.ofList start ++ "/" := by
    rw [← String.toList_inj, hstart]
    simp
  have hempty : names "" = [] := by decide
  have hdir := names_append_slash (String.ofList start) ""
  rw [String.append_empty, hempty, List.append_nil] at hdir
  rw [names_append_slash, hdir]

theorem isAbsolute_of_noSlash (h : '/' ∉ file.toList) : isAbsolute file = false := by
  rw [isAbsolute, beq_eq_false_iff_ne]
  exact fun hhead => h (List.mem_of_head? hhead)

theorem names_join (dir : String) (h : '/' ∉ file.toList) (hne : file ≠ "") :
    names (join dir file) = names dir ++ [file] := by
  rw [← names_of_noSlash h hne]
  unfold join
  rw [isAbsolute_of_noSlash h, if_neg Bool.false_ne_true]
  split_ifs with hdir
  · rcases Bool.or_eq_true_iff.mp hdir with hempty | hslash
    · obtain rfl : dir = "" := by simpa using hempty
      rw [String.empty_append]
      rfl
    · exact names_of_endsInSlash hslash file
  · exact names_append_slash dir file

/-- Only a path to the root or to the working directory has no directories above it. -/
theorem eq_dot_of_ancestors {path name : String} (h : ancestors path = [])
    (hname : name ∈ names path) : name = "." := by
  unfold ancestors at h
  split_ifs at h with hcomponents
  unfold components at hcomponents
  split at hcomponents
  · next hnames =>
    rw [hnames] at hname
    cases hname
  · next first rest hnames =>
    dsimp only at hcomponents
    split_ifs at hcomponents with hfirst
    · simp only [List.isEmpty_iff, List.filter_eq_nil_iff] at hcomponents
      rw [hnames] at hname
      rcases List.mem_cons.mp hname with rfl | hrest
      · exact hfirst.1
      · simpa using hcomponents name hrest
    · cases hcomponents

end Path

end NativeStubs
