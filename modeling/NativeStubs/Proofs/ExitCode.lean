import NativeStubs.Proofs.Delivery
import NativeStubs.Proofs.JsonText
import NativeStubs.Proofs.Plan
import NativeStubs.Proofs.Selection

/-! # Exit codes

The command that generates stubs ends well if the configuration and at least one source load, if the
writer can be prepared, and if every namespace is an object whose declarations end up in their file,
or in memory in a dry run. What fails before the writer is prepared changes no file.
-/

namespace NativeStubs

open Json FileTree

/-- Every namespace is an object, and the text of its declarations is kept under its name. -/
def Catalog.AllKept (c : Catalog) (g : Generator) (Kept : String → String → Prop) : Prop :=
  ∀ name v, (name, v) ∈ c.namespaces →
    ∃ records o, v = .object records ∧ g.build name v = .ok o ∧ Kept name o.text

namespace Generator

variable (g : Generator) {c : Catalog} {Kept : String → String → Prop}

theorem failure?_none_eq_none_iff {field : String × Value} :
    g.failure? (fun _ => none) field = none ↔ ∃ records, field.2 = .object records := by
  obtain ⟨name, v⟩ := field
  cases v with
  | object records => simp [failure?]
  | _ => simp [failure?, build]

/-- If what is built is kept, a report without refusals is a success as soon as all namespaces are
objects. -/
theorem isSuccess_settle_iff
    (h : ∀ field ∈ c.namespaces, ∀ o, g.build field.1 field.2 = .ok o → Kept field.1 o.text) :
    (g.settle (fun _ => none) (start c) c.namespaces).isSuccess ↔ c.AllKept g Kept := by
  have hsuccess : (g.settle (fun _ => none) (start c) c.namespaces).isSuccess ↔
      ∀ field ∈ c.namespaces, ∃ records, field.2 = .object records := by
    simp only [← g.failure?_none_eq_none_iff, ← List.filterMap_eq_nil_iff]
    simp [Report.isSuccess, settle, start]
  rw [hsuccess]
  constructor
  · intro hobjects name v hmem
    obtain ⟨records, rfl⟩ := hobjects _ hmem
    have hbuild := g.build_object name records
    exact ⟨records, _, rfl, hbuild, h _ hmem _ hbuild⟩
  · rintro hkept ⟨name, v⟩ hmem
    obtain ⟨records, o, rfl, -⟩ := hkept name v hmem
    exact ⟨records, rfl⟩

end Generator

theorem Outcome.code_ofReport_eq_zero_iff {result : Except CommandFault Report} :
    (ofReport result).code = 0 ↔ ∃ r, result = .ok r := by
  cases result <;> simp [ofReport, ofResult, Except.map, code]

theorem Plan.exists_judge_eq_ok_iff {p : Plan} {r : Report} :
    (∃ r', p.judge (.ok r) = .ok r') ↔ r.isSuccess := by
  rw [judge]
  split_ifs with hsuccess
  · exact iff_of_true ⟨r, rfl⟩ hsuccess
  · exact iff_of_false nofun hsuccess

namespace GenerateOptions

/-- A command generates from a catalog, over a tree that it turns into another one. In a dry run
memory takes the declarations. Otherwise the directory that is given, or else that of the
configuration, can be prepared, and the file of each namespace has the declarations somewhere. -/
inductive Generates (o : GenerateOptions) (c : Config) (catalog : Catalog) (t t' : FileTree) : Prop
  | toMemory (hdry : o.dryRun = true)
      (hkept : catalog.AllKept c.generator ((c.generator.run Memory.writer catalog).run {}).2.Holds)
  | toFiles (hreal : o.dryRun = false)
      (hprepared : (((⟨o.output.getD c.outputDir⟩ : StubDirectory).prepare catalog.names :
        StateM FileTree (Except FileFault Unit)).run t).1 = .ok ())
      (hkept : catalog.AllKept c.generator
        ((⟨o.output.getD c.outputDir⟩ : StubDirectory).Holds t'))

variable {o : GenerateOptions} {c : Config} {catalog : Catalog} {t t' : FileTree}

theorem generates_iff_of_dry (hdry : o.dryRun = true) :
    o.Generates c catalog t t' ↔
      catalog.AllKept c.generator ((c.generator.run Memory.writer catalog).run {}).2.Holds := by
  constructor
  · rintro (⟨-, hkept⟩ | ⟨hreal⟩)
    · exact hkept
    · exact absurd hdry (by simp [hreal])
  · exact .toMemory hdry

theorem generates_iff_of_real (hreal : o.dryRun = false) :
    o.Generates c catalog t t' ↔
      (((⟨o.output.getD c.outputDir⟩ : StubDirectory).prepare catalog.names :
        StateM FileTree (Except FileFault Unit)).run t).1 = .ok () ∧
      catalog.AllKept c.generator ((⟨o.output.getD c.outputDir⟩ : StubDirectory).Holds t') := by
  constructor
  · rintro (⟨hdry⟩ | ⟨-, hprepared, hkept⟩)
    · exact absurd hdry (by simp [hreal])
    · exact ⟨hprepared, hkept⟩
  · rintro ⟨hprepared, hkept⟩
    exact .toFiles hreal hprepared hkept

variable [Network] {dir : String}

/-- A plan is carried out or rehearsed without a fault if and only if the command generates. -/
theorem exists_run_iff_generates (hnames : catalog.names.Nodup)
    (hplan : t.answer (o.plan dir) = .ok ⟨o.override c, catalog⟩) :
    ∃ result t', (o.run dir : StateM FileTree (Except CommandFault Report)).run t = (result, t') ∧
      ((∃ r, result = .ok r) ↔ o.Generates c catalog t t') := by
  cases hdry : o.dryRun with
  | true =>
    obtain ⟨hrun, htexts⟩ := c.generator.run_memory hnames
    have hrehearse : (Plan.mk (o.override c) catalog).rehearse.1 = _ := hrun
    refine ⟨_, t, run_of_dry hdry hplan, ?_⟩
    rw [hrehearse, Plan.exists_judge_eq_ok_iff, generates_iff_of_dry hdry]
    exact c.generator.isSuccess_settle_iff htexts
  | false =>
    rcases hprepare : ((⟨o.output.getD c.outputDir⟩ : StubDirectory).prepare catalog.names :
      StateM FileTree (Except FileFault Unit)).run t with ⟨answer, t₁⟩
    cases answer with
    | error fault =>
      refine ⟨_, t₁, run_of_real hdry hplan (c.generator.run_of_refused hprepare), ?_⟩
      rw [generates_iff_of_real hdry, hprepare]
      exact iff_of_false nofun nofun
    | ok _ =>
      obtain ⟨t', hrun, htexts⟩ := c.generator.exists_run_of_prepare hprepare
      refine ⟨_, t', run_of_real hdry hplan hrun, ?_⟩
      rw [Plan.exists_judge_eq_ok_iff, generates_iff_of_real hdry, hprepare,
        c.generator.isSuccess_settle_iff htexts]
      exact (and_iff_right rfl).symm

variable {sources : List Source}

theorem answer_plan_of_loaded (hconfig : Config.loaded? t dir o.config = some c)
    (hselects : o.Selects c sources) :
    t.answer (o.plan dir) =
      match t.answer (Source.loadAll sources) with
      | .error fault => .error (.source fault)
      | .ok catalog => .ok ⟨o.override c, catalog⟩ := by
  rw [plan, (Config.readOnly_loadOrDefault o.config dir).answer_bind,
    Config.loaded?_eq_some_iff.mp hconfig]
  dsimp only
  rw [selects_iff.mp hselects]
  refine ((Source.readOnly_loadAll sources).answer_bind t).trans ?_
  cases t.answer (Source.loadAll sources) <;> rfl

theorem plan_eq_ok (hconfig : Config.loaded? t dir o.config = some c)
    (hselects : o.Selects c sources) {first : Catalog} {rest : List Catalog}
    (hcatalogs : sources.filterMap (Source.catalog? t) = first :: rest) :
    t.answer (o.plan dir) = .ok ⟨o.override c, rest.foldl Catalog.merge first⟩ := by
  rw [← Source.catalogs_eq_filterMap] at hcatalogs
  rw [answer_plan_of_loaded hconfig hselects, Source.answer_loadAll_eq_ok (by simp [hcatalogs]),
    hcatalogs]
  rfl

theorem exists_plan_eq_error_of_catalogs (hconfig : Config.loaded? t dir o.config = some c)
    (hselects : o.Selects c sources) (hcatalogs : sources.filterMap (Source.catalog? t) = []) :
    ∃ fault, t.answer (o.plan dir) = .error fault := by
  rw [← Source.catalogs_eq_filterMap] at hcatalogs
  obtain ⟨fault, hfault⟩ := Source.exists_answer_loadAll_eq_error hcatalogs
  exact ⟨.source fault, by rw [answer_plan_of_loaded hconfig hselects, hfault]⟩

theorem exists_plan_eq_error_of_config (hconfig : Config.loaded? t dir o.config = none) :
    ∃ fault, t.answer (o.plan dir) = .error fault := by
  rw [← Config.toOption_answer_loadOrDefault] at hconfig
  cases hload : t.answer (Config.loadOrDefault o.config dir) with
  | ok c =>
    rw [hload] at hconfig
    cases hconfig
  | error error =>
    refine ⟨.failure error, ?_⟩
    rw [plan, (Config.readOnly_loadOrDefault o.config dir).answer_bind, hload]
    rfl

end GenerateOptions

namespace Command

section Generate

variable [Network] {arguments : List String} {o : GenerateOptions}

/-- The command that generates stubs ends with code 0 if and only if the configuration loads, one of
the selected sources has a catalog, and the command generates from the catalogs that there are,
merged: the directory can be prepared, and every namespace is an object whose declarations are in
its file, or in memory in a dry run. So neither sources without a catalog nor records that are
skipped matter. If the configuration or every source fails to load, the command ends with another
code and the tree is as before. -/
theorem code_generate_eq_zero_iff (hparse : parse arguments = .ok (.generate o)) (dir : String)
    (t : FileTree) :
    ∃ outcome t', (runLine dir arguments : StateM FileTree Outcome).run t = (outcome, t') ∧
      (outcome.code = 0 ↔
        ∃ c sources first rest, Config.loaded? t dir o.config = some c ∧ o.Selects c sources ∧
          sources.filterMap (Source.catalog? t) = first :: rest ∧
          o.Generates c (rest.foldl Catalog.merge first) t t') ∧
      (Config.loaded? t dir o.config = none → outcome.code ≠ 0 ∧ t' = t) ∧
      ∀ c sources, Config.loaded? t dir o.config = some c → o.Selects c sources →
        (∀ source ∈ sources, source.catalog? t = none) → outcome.code ≠ 0 ∧ t' = t := by
  have hfault {fault : CommandFault} (hplan : t.answer (o.plan dir) = .error fault) :
      (runLine dir arguments : StateM FileTree Outcome).run t = (.failed fault, t) :=
    runLine_generate hparse (GenerateOptions.run_of_plan_error hplan)
  -- The cases are those of the plan: no configuration, no source, or a plan to carry out.
  cases hconfig : Config.loaded? t dir o.config with
  | none =>
    obtain ⟨fault, hplan⟩ := GenerateOptions.exists_plan_eq_error_of_config hconfig
    refine ⟨_, t, hfault hplan, ⟨nofun, ?_⟩, fun _ => ⟨nofun, rfl⟩, nofun⟩
    rintro ⟨c, sources, first, rest, ⟨⟩, -⟩
  | some c =>
    have hselects : o.Selects c (o.sources c) := GenerateOptions.selects_iff.mpr rfl
    cases hcatalogs : (o.sources c).filterMap (Source.catalog? t) with
    | nil =>
      obtain ⟨fault, hplan⟩ :=
        GenerateOptions.exists_plan_eq_error_of_catalogs hconfig hselects hcatalogs
      refine ⟨_, t, hfault hplan, ⟨nofun, ?_⟩, nofun, fun _ _ _ _ _ => ⟨nofun, rfl⟩⟩
      rintro ⟨_, sources, first, rest, ⟨⟩, hselected, hloaded, -⟩
      rw [← GenerateOptions.selects_iff.mp hselected, hcatalogs] at hloaded
      cases hloaded
    | cons first rest =>
      have hnames : (Catalog.mergeAll (Source.catalogs t (o.sources c))).names.Nodup :=
        Source.nodup_names_mergeAll_catalogs
      rw [Source.catalogs_eq_filterMap, hcatalogs] at hnames
      obtain ⟨result, t', hrun, hgenerates⟩ := GenerateOptions.exists_run_iff_generates hnames
        (GenerateOptions.plan_eq_ok hconfig hselects hcatalogs)
      refine ⟨_, t', runLine_generate hparse hrun, ?_, nofun, ?_⟩
      · rw [Outcome.code_ofReport_eq_zero_iff, hgenerates]
        constructor
        · exact fun h => ⟨c, _, first, rest, rfl, hselects, hcatalogs, h⟩
        · rintro ⟨_, sources, first', rest', ⟨⟩, hselected, hloaded, h⟩
          rw [← GenerateOptions.selects_iff.mp hselected, hcatalogs] at hloaded
          cases hloaded
          exact h
      · rintro _ sources ⟨⟩ hselected hnone
        rw [← GenerateOptions.selects_iff.mp hselected, ← List.filterMap_eq_nil_iff,
          hcatalogs] at hnone
        cases hnone

end Generate

/-- The records of a namespace. One has a declaration, and one is skipped. -/
def fadeRecords : Fields Value :=
  [("0x5", .object [("name", .string "FADE_OUT"), ("params", .array [])]), ("0x6", .null)]

def fadeNatives : Fields Value := [("CAM", .object fadeRecords)]

/-- The declaration of the native. -/
def fadeText : String :=
  "---**`CAM` `client`**  \n---[Native Documentation](https://docs.fivem.net/natives/?_)  \n" ++
  "---This native does not have an official description.\nfunction FadeOut() end\n\n"

/-- A network with one server, which has these natives. -/
@[reducible] def fadeServer : Network where
  download address :=
    if address = "https://fade" then .ok (Value.object fadeNatives).text else .error .unanswered

def fadeConfig : Config := { outputDir := "stubs", sources := ["missing.json", "https://fade"] }

/-- A tree with a configuration, which names a file that is not there before the server. -/
def fadeTree : FileTree :=
  ⟨[(["natdoc.toml"],
    .file "output_dir = \"stubs\"\nsources = [\"missing.json\", \"https://fade\"]\n".toUTF8)]⟩

def fadeOptions : GenerateOptions :=
  { inputs := ["missing.json"], urls := ["https://fade"], output := some "out" }

theorem plain_fadeNatives : (Value.object fadeNatives).Plain maxDepth := by
  refine .object (by decide) (List.forall_mem_singleton.mpr (.object (by decide) ?_))
  refine List.forall_mem_cons.mpr ⟨.object (by decide) ?_, List.forall_mem_singleton.mpr .null⟩
  exact List.forall_mem_cons.mpr ⟨.string _, List.forall_mem_singleton.mpr (.array nofun)⟩

theorem filterMap_catalog?_fade :
    [Source.file "missing.json", .url "https://fade"].filterMap
      (@Source.catalog? fadeServer fadeTree) = [⟨fadeNatives⟩] := by
  let _ : Network := fadeServer
  have hfind : fadeTree.find "missing.json" = .error .notFound := by decide +kernel
  have hmissing : (Source.file "missing.json").catalog? fadeTree = none := by
    rw [Source.catalog?, Source.text?, FileTree.read, hfind]
    rfl
  have hanswer : Network.download "https://fade" = .ok (Value.object fadeNatives).text :=
    if_pos rfl
  have hserver : (Source.url "https://fade").catalog? fadeTree = some ⟨fadeNatives⟩ := by
    rw [Source.catalog?, Source.text?, hanswer]
    dsimp only [Except.toOption, Option.bind_some]
    rw [parse?_text plain_fadeNatives]
    rfl
  rw [List.filterMap_cons_none hmissing, List.filterMap_cons_some hserver, List.filterMap_nil]

theorem generates_fade {o : GenerateOptions} {dir : String} {t' : FileTree}
    (hreal : o.dryRun = false) (hdir : o.output.getD "stubs" = dir)
    (hprepared : (((⟨dir⟩ : StubDirectory).prepare ["CAM"] :
      StateM FileTree (Except FileFault Unit)).run fadeTree).1 = .ok ())
    (hread : t'.read (Path.join dir "CAM.lua") = .ok ("---@meta\n\n" ++ fadeText).toUTF8) :
    o.Generates fadeConfig ⟨fadeNatives⟩ fadeTree t' := by
  have htext : (fadeConfig.generator.output "CAM" fadeRecords).text = fadeText := by decide +kernel
  subst hdir
  refine .toFiles hreal hprepared fun name v hmem => ?_
  cases List.mem_singleton.mp hmem
  refine ⟨fadeRecords, _, rfl, fadeConfig.generator.build_object _ _, ?_⟩
  refine ⟨"---@meta\n\n".toUTF8, .empty, ?_⟩
  rw [htext, ByteArray.append_empty]
  exact hread.trans (congrArg Except.ok String.toByteArray_append)

theorem code_generate_eq_zero_fade :
    letI : Network := fadeServer
    parse ["generate", "-i", "missing.json", "-u", "https://fade", "-o", "out"] =
      .ok (.generate fadeOptions) ∧
    parse ["generate"] = .ok (.generate {}) ∧
    (∃ outcome t',
      (runLine "" ["generate", "-i", "missing.json", "-u", "https://fade", "-o", "out"] :
        StateM FileTree Outcome).run fadeTree = (outcome, t') ∧
      outcome.code = 0 ∧ t'.read "out/CAM.lua" = .ok ("---@meta\n\n" ++ fadeText).toUTF8) ∧
    ∃ outcome t', (runLine "" ["generate"] : StateM FileTree Outcome).run fadeTree = (outcome, t') ∧
      outcome.code = 0 ∧ t'.read "stubs/CAM.lua" = .ok ("---@meta\n\n" ++ fadeText).toUTF8 := by
  let _ : Network := fadeServer
  have hgiven : parse ["generate", "-i", "missing.json", "-u", "https://fade", "-o", "out"] =
      .ok (.generate fadeOptions) := by decide +kernel
  have hnone : parse ["generate"] = .ok (.generate {}) := by decide +kernel
  have hconfig : Config.loaded? fadeTree "" none = some fadeConfig := by decide +kernel
  have hlocated : List.Forall₂ Source.Locates fadeConfig.sources
      [.file "missing.json", .url "https://fade"] :=
    Source.forall₂_locates_iff.mpr (by decide)
  have hout : ((runLine "" ["generate", "-i", "missing.json", "-u", "https://fade", "-o", "out"] :
      StateM FileTree Outcome).run fadeTree).2.find "out/CAM.lua" =
        .ok (["out", "CAM.lua"], .file ("---@meta\n\n" ++ fadeText).toUTF8) := by decide +kernel
  have hstubs : ((runLine "" ["generate"] :
      StateM FileTree Outcome).run fadeTree).2.find "stubs/CAM.lua" =
        .ok (["stubs", "CAM.lua"], .file ("---@meta\n\n" ++ fadeText).toUTF8) := by decide +kernel
  obtain ⟨outcome₁, t₁, hrun₁, hzero₁, -⟩ := code_generate_eq_zero_iff hgiven "" fadeTree
  obtain ⟨outcome₂, t₂, hrun₂, hzero₂, -⟩ := code_generate_eq_zero_iff hnone "" fadeTree
  have hread₁ : t₁.read "out/CAM.lua" = .ok ("---@meta\n\n" ++ fadeText).toUTF8 := by
    rw [hrun₁] at hout
    rw [FileTree.read, hout]
  have hread₂ : t₂.read "stubs/CAM.lua" = .ok ("---@meta\n\n" ++ fadeText).toUTF8 := by
    rw [hrun₂] at hstubs
    rw [FileTree.read, hstubs]
  refine ⟨hgiven, hnone, ⟨outcome₁, t₁, hrun₁, hzero₁.mpr ?_, hread₁⟩,
    outcome₂, t₂, hrun₂, hzero₂.mpr ?_, hread₂⟩
  · exact ⟨fadeConfig, _, _, _, hconfig, .given (Or.inl (by decide)), filterMap_catalog?_fade,
      generates_fade rfl rfl (by decide +kernel) hread₁⟩
  · exact ⟨fadeConfig, _, _, _, hconfig, .configured rfl rfl hlocated, filterMap_catalog?_fade,
      generates_fade rfl rfl (by decide +kernel) hread₂⟩

end Command

end NativeStubs
