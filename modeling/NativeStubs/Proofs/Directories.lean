import NativeStubs.Proofs.Overwrite
import NativeStubs.Proofs.Paths

/-! # Making directories

Making a directory with the ones above it adds directories that the given paths lead to, and
nothing else. Once it is there, making it again changes nothing.
-/

namespace NativeStubs

namespace FileTree

variable {t t' t'' : FileTree} {place : Place} {path : String} {paths : List String}

theorem find_eq_directory_iff : t.find path = .ok (place, .directory) ↔
    pathFault? path = none ∧ t.walk (Path.names path) = .ok place ∧
      t.get? place = some .directory := by
  unfold find
  cases hfault : pathFault? path with
  | some fault => simp
  | none =>
    simp only [bind_eq_ok_iff, true_and]
    constructor
    · rintro ⟨p, hwalk, h⟩
      split at h
      · cases h
      · split_ifs at h
        cases h
      · next hdirectory =>
        cases h
        exact ⟨hwalk, hdirectory⟩
    · rintro ⟨hwalk, hdirectory⟩
      exact ⟨place, hwalk, by rw [hdirectory]⟩

theorem Extends.find_directory (h : t.Extends t') (hfind : t.find path = .ok (place, .directory)) :
    t'.find path = .ok (place, .directory) := by
  obtain ⟨hfault, hwalk, hdirectory⟩ := find_eq_directory_iff.mp hfind
  exact find_eq_directory_iff.mpr ⟨hfault, h.foldlM_step _ hwalk, h.directory _ hdirectory⟩

theorem extends_set_new (h : t.get? place = none) (entry : Entry) :
    t.Extends (t.set place entry) := by
  have hsame {p : Place} (hp : (t.get? p).isSome) : (t.set place entry).get? p = t.get? p := by
    refine get?_set_of_ne ?_
    rintro rfl
    rw [h] at hp
    cases hp
  constructor
  · intro p hp
    rw [hsame (by simp [hp]), hp]
  · intro p hp
    rwa [hsame hp]

/-- A place is as it was, or nothing was there and now it is a directory that one of the paths
leads to. -/
def GrowsAt (paths : List String) (t t' : FileTree) (p : Place) : Prop :=
  t'.get? p = t.get? p ∨ t.get? p = none ∧ t'.get? p = some .directory ∧
    ∃ path ∈ paths, t'.find path = .ok (p, .directory)

theorem GrowsAt.trans (hextends : t'.Extends t'') (h : GrowsAt paths t t' place)
    (h' : GrowsAt paths t' t'' place) : GrowsAt paths t t'' place := by
  rcases h' with hsame' | ⟨hnone', hnew'⟩
  · refine h.imp hsame'.trans ?_
    rintro ⟨hnone, hnew, path, hmem, hfind⟩
    exact ⟨hnone, hsame'.trans hnew, path, hmem, hextends.find_directory hfind⟩
  · rcases h with hsame | ⟨_, hnew, _⟩
    · exact Or.inr ⟨hsame.symm.trans hnone', hnew'⟩
    · rw [hnew] at hnone'
      cases hnone'

/-- Making directories changes no file. -/
theorem GrowsAt.file_iff (h : GrowsAt paths t t' place) (bytes : ByteArray) :
    t'.get? place = some (.file bytes) ↔ t.get? place = some (.file bytes) := by
  rcases h with hsame | ⟨hnone, hnew, -⟩
  · rw [hsame]
  · simp [hnone, hnew]

/-- Nothing has changed but that there are new directories that some of the paths lead to. -/
def GrowsBy (paths : List String) (t t' : FileTree) : Prop := ∀ place, GrowsAt paths t t' place

namespace GrowsBy

theorem refl (paths : List String) (t : FileTree) : GrowsBy paths t t := fun _ => Or.inl rfl

theorem toExtends (h : GrowsBy paths t t') : t.Extends t' where
  directory p hp := by
    rcases h p with hsame | ⟨_, hnew, _⟩
    · rw [hsame, hp]
    · exact hnew
  isSome p hp := by
    rcases h p with hsame | ⟨_, hnew, _⟩
    · rwa [hsame]
    · rw [hnew]
      rfl

theorem mono {paths' : List String} (hpaths : paths ⊆ paths') (h : GrowsBy paths t t') :
    GrowsBy paths' t t' := fun p =>
  (h p).imp_right fun ⟨hnone, hnew, path, hmem, hfind⟩ => ⟨hnone, hnew, path, hpaths hmem, hfind⟩

theorem trans (h : GrowsBy paths t t') (h' : GrowsBy paths t' t'') : GrowsBy paths t t'' :=
  fun p => GrowsAt.trans h'.toExtends (h p) (h' p)

end GrowsBy

/-- The first of some paths, if there is one, leads to a directory. -/
def ReachesFirst (t : FileTree) (paths : List String) : Prop :=
  ∀ path ∈ paths.head?, ∃ p, t.find path = .ok (p, .directory)

theorem ReachesFirst.extends (h : t.ReachesFirst paths) (hextends : t.Extends t') :
    t'.ReachesFirst paths := fun path hpath =>
  (h path hpath).imp fun _ => hextends.find_directory

theorem makeDirectory_eq_ok (h : t.makeDirectory path = .ok t') :
    GrowsBy [path] t t' ∧ ∃ p, t'.find path = .ok (p, .directory) := by
  unfold makeDirectory at h
  split at h
  · cases h
  · cases h
  · next parent name hlocate =>
    obtain ⟨hfault, hwalk, hdirectory, hlast, hdots⟩ := locate_eq_ok hlocate
    split_ifs at h with hlong
    split at h
    · cases h
    · next hnone =>
      obtain rfl := Except.ok.inj h
      have hextends := extends_set_new hnone .directory
      have hnew : (t.set (parent ++ [name]) .directory).get? (parent ++ [name]) =
          some .directory := by
        rw [get?_set (by simp), if_pos rfl]
      have hfind : (t.set (parent ++ [name]) .directory).find path =
          .ok (parent ++ [name], .directory) :=
        find_eq_directory_iff.mpr ⟨hfault, walk_names hlast (hextends.foldlM_step _ hwalk)
          (hextends.directory _ hdirectory) hdots (Nat.not_lt.mp hlong) (by simp [hnew]), hnew⟩
      refine ⟨fun p => ?_, _, hfind⟩
      by_cases hp : p = parent ++ [name]
      · subst hp
        exact Or.inr ⟨hnone, hnew, path, List.mem_singleton_self path, hfind⟩
      · exact Or.inl (get?_set_of_ne hp)

theorem makeDirectory_of_find (h : t.find path = .ok (place, .directory)) :
    t.makeDirectory path = .error .alreadyExists := by
  obtain ⟨hfault, hwalk, -⟩ := find_eq_directory_iff.mp h
  rcases List.eq_nil_or_concat (Path.names path) with hnames | ⟨start, name, hnames⟩
  · simp [makeDirectory, locate, hfault, hnames, walk, get?, bind, Except.bind, pure, Except.pure]
  · rw [List.concat_eq_append] at hnames
    rw [hnames, walk, List.foldlM_append, bind_eq_ok_iff] at hwalk
    obtain ⟨parent, hparent, hstep⟩ := hwalk
    have hstep : t.step parent name = .ok place := by simpa using hstep
    have hdirectory : t.get? parent = some .directory := by
      by_contra hnot
      simp [step, hnot] at hstep
    have hlocate : t.locate path =
        .ok (parent, if name = "." ∨ name = ".." then none else some name) := by
      simp only [locate, hfault, hnames, List.dropLast_concat, List.getLast?_concat, walk, bind,
        Except.bind, hparent, hdirectory, ne_eq, not_true, if_false]
      split_ifs <;> rfl
    simp only [step, hdirectory, ne_eq, not_true, if_false] at hstep
    split_ifs at hstep with hdot hup hlong hnone
    · simp [makeDirectory, hlocate, hdot]
    · simp [makeDirectory, hlocate, hup]
    · obtain ⟨old, hold⟩ := Option.ne_none_iff_exists'.mp (by simpa using hnone)
      simp [makeDirectory, hlocate, hdot, hup, hlong, hold]

theorem run_makeDirectory_of_ok (h : t.makeDirectory path = .ok t') :
    (FileSystem.makeDirectory path : StateM FileTree (Except FileFault Unit)).run t =
      (.ok (), t') :=
  run_change_of_ok h

theorem run_makeDirectory_of_error {fault : FileFault} (h : t.makeDirectory path = .error fault) :
    (FileSystem.makeDirectory path : StateM FileTree (Except FileFault Unit)).run t =
      (.error fault, t) :=
  run_change_of_error h

theorem run_kind (path : String) (t : FileTree) :
    (FileSystem.kind path : StateM FileTree (Except FileFault FileKind)).run t =
      ((t.find path).map fun found => found.2.kind, t) := rfl

theorem run_isDirectory (path : String) (t : FileTree) :
    (FileSystem.isDirectory path : StateM FileTree Bool).run t =
      ((t.find path).toOption.any fun found => found.2.kind == .directory, t) := by
  rw [FileSystem.isDirectory, run_bind_of_run (run_kind path t)]
  cases t.find path <;> rfl

/-- What comes of a directory that cannot be made. -/
def orIsDirectory (path : String) (fault : FileFault) : StateM FileTree (Except FileFault Unit) := do
  if ← FileSystem.isDirectory path then pure (.ok ()) else pure (.error fault)

theorem run_orIsDirectory {fault : FileFault} (h : (orIsDirectory path fault).run t = (.ok (), t')) :
    t' = t ∧ ∃ p, t.find path = .ok (p, .directory) := by
  rw [orIsDirectory, run_bind_of_run (run_isDirectory path t)] at h
  cases hfind : t.find path with
  | error fault' =>
    rw [hfind] at h
    cases h
  | ok found =>
    obtain ⟨p, entry⟩ := found
    rw [hfind] at h
    cases entry with
    | file bytes => cases h
    | directory =>
      cases h
      exact ⟨rfl, p, rfl⟩

theorem makeAncestors_eq_ok
    (h : (FileSystem.makeAncestors paths : StateM FileTree (Except FileFault Unit)).run t =
      (.ok (), t')) :
    GrowsBy paths t t' ∧ t'.ReachesFirst paths := by
  induction paths generalizing t t' with
  | nil =>
    cases h
    exact ⟨GrowsBy.refl [] t, nofun⟩
  | cons path parents ih =>
    suffices h : GrowsBy (path :: parents) t t' ∧ ∃ p, t'.find path = .ok (p, .directory) by
      simpa [ReachesFirst] using h
    rw [FileSystem.makeAncestors] at h
    cases hmake : t.makeDirectory path with
    | ok made =>
      rw [run_bind_of_run (run_makeDirectory_of_ok hmake)] at h
      cases h
      obtain ⟨hgrows, hfind⟩ := makeDirectory_eq_ok hmake
      exact ⟨hgrows.mono (by simp), hfind⟩
    | error fault =>
      rw [run_bind_of_run (run_makeDirectory_of_error hmake)] at h
      cases fault with
      | notFound =>
        dsimp only at h
        rcases hparents : (FileSystem.makeAncestors parents :
          StateM FileTree (Except FileFault Unit)).run t with ⟨answer, t₁⟩
        rw [run_bind_of_run hparents] at h
        cases answer with
        | error fault => cases h
        | ok _ =>
          -- The directories above are there now, and the second attempt decides.
          have hparents := (ih hparents).1.mono (List.subset_cons_self path parents)
          dsimp only at h
          cases hagain : t₁.makeDirectory path with
          | ok made =>
            rw [run_bind_of_run (run_makeDirectory_of_ok hagain)] at h
            cases h
            obtain ⟨hgrows, hfind⟩ := makeDirectory_eq_ok hagain
            exact ⟨hparents.trans (hgrows.mono (by simp)), hfind⟩
          | error fault =>
            rw [run_bind_of_run (run_makeDirectory_of_error hagain)] at h
            obtain ⟨rfl, hfind⟩ := run_orIsDirectory h
            exact ⟨hparents, hfind⟩
      | _ =>
        obtain ⟨rfl, hfind⟩ := run_orIsDirectory h
        exact ⟨GrowsBy.refl _ _, hfind⟩

theorem run_makeAncestors_of_reachesFirst (h : t.ReachesFirst paths) :
    (FileSystem.makeAncestors paths : StateM FileTree (Except FileFault Unit)).run t =
      (.ok (), t) := by
  cases paths with
  | nil => rfl
  | cons path parents =>
    obtain ⟨p, hfind⟩ := h path rfl
    rw [FileSystem.makeAncestors,
      run_bind_of_run (run_makeDirectory_of_error (makeDirectory_of_find hfind))]
    dsimp only
    rw [run_bind_of_run (run_isDirectory path t), hfind]
    rfl

theorem walk_of_dots {names : List String} (h : ∀ name ∈ names, name = ".") :
    t.walk names = .ok [] := by
  induction names with
  | nil => rfl
  | cons name rest ih =>
    obtain ⟨rfl, hrest⟩ := List.forall_mem_cons.mp h
    have hstep : t.step [] "." = .ok [] := by simp [step, get?]
    rw [walk, List.foldlM_cons, hstep]
    exact ih hrest

/-- A directory that was made can be walked to. -/
theorem exists_walk_of_ancestors (h : t.ReachesFirst (Path.ancestors path)) :
    ∃ place, t.walk (Path.names path) = .ok place ∧ t.get? place = some .directory := by
  cases hpaths : Path.ancestors path with
  | nil => exact ⟨[], walk_of_dots fun _ => Path.eq_dot_of_ancestors hpaths, rfl⟩
  | cons first rest =>
    obtain rfl : first = path := by
      unfold Path.ancestors at hpaths
      split_ifs at hpaths
      exact (List.cons.inj hpaths).1.symm
    obtain ⟨place, hfind⟩ := h first (by rw [hpaths]; rfl)
    exact ⟨place, (find_eq_directory_iff.mp hfind).2⟩

end FileTree

end NativeStubs
