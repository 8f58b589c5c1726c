import NativeStubs.Proofs.StubFiles

/-! # Preparations that fail

A preparation stops at the first namespace whose file is blocked. The files before it are started
over by then, and nothing else is touched: not the files after it, and no other file.
-/

namespace NativeStubs

namespace StubDirectory

open FileTree

/-- If the directory of the stubs can be made but its files cannot all be started over, then there
is a first namespace whose file cannot be opened. The files of the namespaces before it hold just
the line `---@meta` and an empty line. Its own file, those of the namespaces after it and all other
files are as they were, and so is every other place, except that directories are made where nothing
was, for the path of the directory and those above it. A run ends there and hands no declarations to
the writer. -/
theorem prepare_fails_after_prefix (g : Generator) (d : StubDirectory) (c : Catalog)
    (hc : c.names.Nodup) (hslash : ∀ name ∈ c.names, '/' ∉ name.toList) {t t₁ t' : FileTree}
    {fault : FileFault}
    (hmake : (FileSystem.makeDirectories d.path : StateM FileTree (Except FileFault Unit)).run t =
      (.ok (), t₁))
    (hfail : (d.prepare c.names : StateM FileTree (Except FileFault Unit)).run t =
      (.error fault, t')) :
    ∃ base before name after, d.IsAt t' base ∧ c.names = before ++ name :: after ∧
      t'.openFile (Path.join d.path (name ++ ".lua")) = .error fault ∧
      (∀ earlier ∈ before,
        t'.read (Path.join d.path (earlier ++ ".lua")) = .ok "---@meta\n\n".toUTF8 ∧
        t'.get? (base ++ [earlier ++ ".lua"]) = some (.file "---@meta\n\n".toUTF8)) ∧
      (∀ later ∈ name :: after, ∀ bytes, t'.get? (base ++ [later ++ ".lua"]) = some (.file bytes) ↔
        t.get? (base ++ [later ++ ".lua"]) = some (.file bytes)) ∧
      (∀ place, (∀ earlier ∈ before, place ≠ base ++ [earlier ++ ".lua"]) →
        GrowsAt (Path.ancestors d.path) t t' place) ∧
      (g.run d.writer c : StateM FileTree (Except Error Report)).run t = (.error (.io fault), t') ∧
      g.trace d.writer c t = [.prepare c.names (.error (.io fault))] := by
  obtain ⟨hgrows, hfirst⟩ := makeAncestors_eq_ok hmake
  obtain ⟨base, hbase⟩ := exists_isAt hfirst
  obtain ⟨before, name, after, hnames, hbefore, hname, rfl⟩ :=
    startFiles_eq_error hbase hslash ((run_prepare d hmake).symm.trans hfail)
  rw [hnames] at hc hslash
  obtain ⟨hearlier, hlater⟩ := List.forall_mem_append.mp hslash
  obtain ⟨hextends, hsame⟩ := extends_headerRows hbase hearlier hbefore
  have hbase' := hbase.mono hextends
  have hframe : ∀ place, (∀ earlier ∈ before, place ≠ placeIn base earlier) →
      GrowsAt (Path.ancestors d.path) t (t₁.setAll (headerRows base before)) place := by
    intro place hother
    have hplace : place ∉ (headerRows base before).map Prod.fst := by
      intro hmem
      obtain ⟨row, hrow, rfl⟩ := List.mem_map.mp hmem
      obtain ⟨earlier, hearlier, _, rfl⟩ := filesOf_headerRows base before row hrow
      exact hother earlier hearlier rfl
    exact GrowsAt.trans hextends (hgrows place) (Or.inl (get?_setAll_of_notMem hplace))
  refine ⟨base, before, name, after, hbase', hnames, ?_, fun earlier hmem => ?_,
    fun later hmem => ?_, hframe, g.run_of_refused hfail, ?_⟩
  · exact (openFile_of_blocked hbase' (hlater name List.mem_cons_self) (hsame ▸ hname)).1
  · have hfile : (t₁.setAll (headerRows base before)).get? (placeIn base earlier) =
        some (.file header.toUTF8) :=
      get?_headerRows (hc.sublist (List.sublist_append_left _ _)) hmem
    have hpath := (isFilePath_of_unblocked hbase (hearlier earlier hmem) (hbefore earlier hmem)).1
    exact ⟨HasFile.read ⟨hextends.isFilePath hpath, hfile⟩, hfile⟩
  · -- Names are distinct, so no file before it is that of a later namespace.
    refine (hframe _ fun earlier hearlier heq => ?_).file_iff
    obtain rfl := placeIn_inj.mp heq
    exact (List.nodup_append.mp hc).2.2 _ hearlier _ hmem rfl
  · exact (g.run_of_prepare_error d.writer
      (congrArg Prod.fst (Generator.run_writer_prepare d hfail))).2

/-- A directory with files of two namespaces and a directory in the place of a third one. -/
def blockedTree : FileTree :=
  ⟨[(["out"], .directory), (["out", "PED.lua"], .file "old".toUTF8),
    (["out", "BAD.lua"], .directory), (["out", "CAM.lua"], .file "kept".toUTF8)]⟩

theorem prepare_fails_after_prefix_blocked : Generator.mixedCatalog.names.Nodup ∧
    (∀ name ∈ Generator.mixedCatalog.names, '/' ∉ name.toList) ∧
    ∃ t₁ t' fault, (FileSystem.makeDirectories "out" :
        StateM FileTree (Except FileFault Unit)).run blockedTree = (.ok (), t₁) ∧
      ((⟨"out"⟩ : StubDirectory).prepare Generator.mixedCatalog.names :
        StateM FileTree (Except FileFault Unit)).run blockedTree = (.error fault, t') ∧
      t'.read "out/PED.lua" = .ok "---@meta\n\n".toUTF8 ∧
      t'.openFile "out/BAD.lua" = .error fault ∧
      t'.get? ["out", "CAM.lua"] = some (.file "kept".toUTF8) ∧
      ((Config.generator {}).run (⟨"out"⟩ : StubDirectory).writer Generator.mixedCatalog :
        StateM FileTree (Except Error Report)).run blockedTree = (.error (.io fault), t') := by
  have hc : Generator.mixedCatalog.names.Nodup := by decide
  have hslash : ∀ name ∈ Generator.mixedCatalog.names, '/' ∉ name.toList := by decide
  have hsplit (before after : List String)
      (h : Generator.mixedCatalog.names = before ++ "BAD" :: after) : before = ["PED"] := by
    change ["PED", "BAD", "CAM"] = before ++ "BAD" :: after at h
    rcases before with - | ⟨first, - | ⟨second, rest⟩⟩
    · simp at h
    · exact congrArg ([·]) (List.cons.inj h).1.symm
    · cases rest <;> simp at h
  have hmade : ((FileSystem.makeDirectories "out" :
      StateM FileTree (Except FileFault Unit)).run blockedTree).1.toOption.isSome := by
    decide +kernel
  have hrefused : (((⟨"out"⟩ : StubDirectory).prepare Generator.mixedCatalog.names :
      StateM FileTree (Except FileFault Unit)).run blockedTree).1.toOption.isNone := by
    decide +kernel
  have hopens : ∀ name ∈ Generator.mixedCatalog.names, name ≠ "BAD" →
      ((((⟨"out"⟩ : StubDirectory).prepare Generator.mixedCatalog.names :
        StateM FileTree (Except FileFault Unit)).run blockedTree).2.openFile
          (Path.join "out" (name ++ ".lua"))).toOption.isSome := by
    decide +kernel
  have hkept : blockedTree.get? ["out", "CAM.lua"] = some (.file "kept".toUTF8) := by
    decide +kernel
  rcases hmake : (FileSystem.makeDirectories "out" :
    StateM FileTree (Except FileFault Unit)).run blockedTree with ⟨made, t₁⟩
  rcases hprepare : ((⟨"out"⟩ : StubDirectory).prepare Generator.mixedCatalog.names :
    StateM FileTree (Except FileFault Unit)).run blockedTree with ⟨answer, t'⟩
  rw [hmake] at hmade
  rw [hprepare] at hrefused hopens
  cases made with
  | error fault => cases hmade
  | ok _ =>
    cases answer with
    | ok _ => cases hrefused
    | error fault =>
      obtain ⟨base, before, name, after, -, hnames, hopen, hearlier, -, hframe, hrun, -⟩ :=
        prepare_fails_after_prefix (Config.generator {}) ⟨"out"⟩ Generator.mixedCatalog hc hslash
          hmake hprepare
      have hbad : name = "BAD" := by
        by_contra hne
        have hsome := hopens name (hnames ▸ by simp) hne
        rw [hopen] at hsome
        cases hsome
      subst hbad
      obtain rfl := hsplit before after hnames
      have hother : ∀ earlier ∈ ["PED"], ["out", "CAM.lua"] ≠ placeIn base earlier := by
        intro earlier hmem heq
        obtain rfl := List.mem_singleton.mp hmem
        have hlast := congrArg List.getLast? heq
        rw [placeIn, List.getLast?_concat] at hlast
        exact absurd (Option.some.inj hlast) (by decide)
      have hped := (hearlier "PED" (List.mem_singleton_self _)).1
      exact ⟨hc, hslash, t₁, t', fault, rfl, rfl, hped, hopen,
        ((hframe _ hother).file_iff _).mpr hkept, hrun⟩

end StubDirectory

end NativeStubs
