import NativeStubs.Proofs.Documents
import NativeStubs.Proofs.Merge
import NativeStubs.Proofs.Reading

/-! # Loading sources

Loading some sources is loading each of them and merging the catalogs of those that load. Sources
that do not load leave no trace.
-/

namespace NativeStubs

open FileTree

namespace Catalog

/-- The catalogs merged, if there is one. -/
def mergeAll? : List Catalog → Option Catalog
  | [] => none
  | cs => some (mergeAll cs)

theorem mergeAll?_of_ne_nil {cs : List Catalog} (h : cs ≠ []) :
    mergeAll? cs = some (mergeAll cs) := by
  cases cs with
  | nil => exact absurd rfl h
  | cons first rest => rfl

end Catalog

namespace Source

section Loading

variable [Network] {t : FileTree} {sources : List Source}

/-- The catalogs of the sources that load, in order. -/
def catalogs (t : FileTree) (sources : List Source) : List Catalog :=
  sources.filterMap fun source => (t.answer source.load).toOption

theorem catalogs_cons (source : Source) (rest : List Source) :
    catalogs t (source :: rest) = (t.answer source.load).toOption.toList ++ catalogs t rest := by
  rw [catalogs, List.filterMap_cons]
  cases (t.answer source.load).toOption <;> rfl

theorem mem_catalogs_iff {c : Catalog} :
    c ∈ catalogs t sources ↔ ∃ source ∈ sources, t.answer source.load = .ok c := by
  simp only [catalogs, List.mem_filterMap]
  refine exists_congr fun source => and_congr_right fun _ => ?_
  cases t.answer source.load <;> simp [Except.toOption]

theorem answer_loadInto (merged : Option Catalog) :
    t.answer (loadInto merged sources) =
      Catalog.mergeAll? (merged.toList ++ catalogs t sources) := by
  induction sources generalizing merged with
  | nil => cases merged <;> rfl
  | cons source rest ih =>
    rw [loadInto, (readOnly_load source).answer_bind, ih, catalogs_cons]
    cases t.answer source.load with
    | error fault => rfl
    | ok c => cases merged <;> rfl

theorem answer_loadAll_of_ne_nil (h : sources ≠ []) :
    t.answer (loadAll sources) =
      (Catalog.mergeAll? (catalogs t sources)).elim (.error .noneLoaded) .ok := by
  rw [loadAll, List.isEmpty_eq_false_iff.mpr h]
  refine ((readOnly_loadInto none sources).answer_bind t).trans ?_
  rw [answer_loadInto, Option.toList_none, List.nil_append]
  cases Catalog.mergeAll? (catalogs t sources) <;> rfl

theorem answer_loadAll_eq_ok (h : catalogs t sources ≠ []) :
    t.answer (loadAll sources) = .ok (Catalog.mergeAll (catalogs t sources)) := by
  have hsources : sources ≠ [] := fun hnil => h (by rw [hnil]; rfl)
  rw [answer_loadAll_of_ne_nil hsources, Catalog.mergeAll?_of_ne_nil h]
  rfl

theorem exists_answer_loadAll_eq_error (h : catalogs t sources = []) :
    ∃ fault, t.answer (loadAll sources) = .error fault := by
  by_cases hsources : sources = []
  · subst hsources
    exact ⟨.noneConfigured, rfl⟩
  · exact ⟨.noneLoaded, by rw [answer_loadAll_of_ne_nil hsources, h]; rfl⟩

theorem wellFormed_of_load {source : Source} {c : Catalog} (h : t.answer source.load = .ok c) :
    c.WellFormed := by
  rw [load, (readOnly_fetch source).answer_bind] at h
  cases hfetch : t.answer source.fetch with
  | error fault =>
    rw [hfetch] at h
    cases h
  | ok text =>
    rw [hfetch] at h
    dsimp only at h
    cases hparse : Catalog.parse text with
    | error error =>
      rw [hparse] at h
      cases h
    | ok parsed =>
      rw [hparse] at h
      cases h
      exact Catalog.wellFormed_of_parse hparse

/-- What sources are merged into is a catalog that can be run: no name comes twice. -/
theorem nodup_names_mergeAll_catalogs :
    (Catalog.mergeAll (catalogs t sources)).names.Nodup := by
  rw [Catalog.names_mergeAll]
  · exact nodup_eraseDups _
  · intro c hc
    obtain ⟨source, -, hload⟩ := mem_catalogs_iff.mp hc
    exact wellFormed_of_load hload

/-- The text of a source, if it can be had: a file has to be there and to be valid text, and a
server has to answer. -/
def text? (t : FileTree) : Source → Option String
  | file path => (t.read path).toOption.bind String.fromUTF8?
  | url address => (Network.download address).toOption

/-- The catalog of a source, if its text is a document with an object. -/
def catalog? (t : FileTree) (source : Source) : Option Catalog :=
  ((source.text? t).bind Json.parse?).bind fun document => document.fields?.map Catalog.mk

theorem toOption_answer_fetch (t : FileTree) (source : Source) :
    (t.answer source.fetch).toOption = source.text? t := by
  cases source with
  | file path =>
    rw [fetch, (readOnly_readText path).answer_bind, text?, ← toOption_answer_readText]
    cases t.answer (FileSystem.readText path) <;> rfl
  | url address =>
    change ((Network.download address).mapError (SourceFault.download address)).toOption = _
    rw [text?]
    cases Network.download address <;> rfl

theorem toOption_answer_load (t : FileTree) (source : Source) :
    (t.answer source.load).toOption = source.catalog? t := by
  rw [load, (readOnly_fetch source).answer_bind, catalog?, ← toOption_answer_fetch]
  cases t.answer source.fetch with
  | error fault => rfl
  | ok text =>
    dsimp only [Except.toOption, Option.bind_some]
    rw [Catalog.parse]
    cases Json.parse? text with
    | none => rfl
    | some document => cases document <;> rfl

theorem catalogs_eq_filterMap (t : FileTree) (sources : List Source) :
    catalogs t sources = sources.filterMap (catalog? t) :=
  congrArg (sources.filterMap ·) (funext (toOption_answer_load t))

theorem run_load_eq_ok_iff {source : Source} {c : Catalog} :
    (source.load : StateM FileTree (Except SourceFault Catalog)).run t = (.ok c, t) ↔
      source.catalog? t = some c := by
  rw [(readOnly_load source).run_eq, ← toOption_answer_load]
  cases t.answer source.load with
  | error fault => exact ⟨nofun, nofun⟩
  | ok loaded =>
    constructor
    · rintro ⟨⟩
      rfl
    · rintro ⟨⟩
      rfl

/-- The sources that load, in order. -/
def loadable (t : FileTree) (sources : List Source) : List Source :=
  sources.filter fun source => (source.catalog? t).isSome

/-- Sources that do not load add no catalog. -/
theorem catalogs_loadable (t : FileTree) (sources : List Source) :
    catalogs t (loadable t sources) = catalogs t sources := by
  rw [catalogs_eq_filterMap, catalogs_eq_filterMap, loadable, List.filterMap_filter]
  refine congrArg (sources.filterMap ·) (funext fun source => ?_)
  cases source.catalog? t <;> rfl

theorem catalogs_ne_nil_of_loadable (h : loadable t sources ≠ []) : catalogs t sources ≠ [] := by
  obtain ⟨source, hmem⟩ := List.exists_mem_of_ne_nil _ h
  obtain ⟨hsource, hsome⟩ := List.mem_filter.mp hmem
  obtain ⟨c, hc⟩ := Option.isSome_iff_exists.mp hsome
  rw [catalogs_eq_filterMap]
  exact List.ne_nil_of_mem (List.mem_filterMap.mpr ⟨source, hsource, hc⟩)

/-- Sources load if at least one of them does, and then they load to the catalogs of those that do,
merged from the left. So sources that do not load may stand anywhere among those that do. -/
theorem loadAll_merges_loadable (t : FileTree) (sources : List Source) :
    (∀ (source : Source) (c : Catalog),
      (source.load : StateM FileTree (Except SourceFault Catalog)).run t = (.ok c, t) ↔
        source.catalog? t = some c) ∧
    ((∃ fault, (loadAll sources : StateM FileTree (Except SourceFault Catalog)).run t =
        (.error fault, t)) ↔ ∀ source ∈ sources, source.catalog? t = none) ∧
    (∀ first rest, sources.filterMap (catalog? t) = first :: rest →
      (loadAll sources : StateM FileTree (Except SourceFault Catalog)).run t =
        (.ok (rest.foldl Catalog.merge first), t)) ∧
    ∀ others, loadable t others = loadable t sources → loadable t sources ≠ [] →
      (loadAll others : StateM FileTree (Except SourceFault Catalog)).run t =
        (loadAll sources : StateM FileTree (Except SourceFault Catalog)).run t := by
  have hrun (sources : List Source) (h : catalogs t sources ≠ []) :
      (loadAll sources : StateM FileTree (Except SourceFault Catalog)).run t =
        (.ok (Catalog.mergeAll (catalogs t sources)), t) := by
    rw [(readOnly_loadAll sources).run_eq, answer_loadAll_eq_ok h]
  refine ⟨fun source c => run_load_eq_ok_iff, ?_, fun first rest h => ?_, fun others hsame h => ?_⟩
  · rw [← List.filterMap_eq_nil_iff, ← catalogs_eq_filterMap]
    constructor
    · rintro ⟨fault, hfault⟩
      by_contra hne
      rw [hrun sources hne] at hfault
      cases hfault
    · intro hnil
      obtain ⟨fault, hfault⟩ := exists_answer_loadAll_eq_error hnil
      exact ⟨fault, by rw [(readOnly_loadAll sources).run_eq, hfault]⟩
  · rw [← catalogs_eq_filterMap] at h
    rw [hrun sources (by simp [h]), h]
    rfl
  · have hcatalogs : catalogs t others = catalogs t sources := by
      rw [← catalogs_loadable, hsame, catalogs_loadable]
    have hne := catalogs_ne_nil_of_loadable h
    rw [hrun others (hcatalogs ▸ hne), hrun sources hne, hcatalogs]

end Loading

/-- Two catalogs, one of them with the other's first namespace, and three files that are none. -/
def sourceTree : FileTree :=
  let game : Json.Value := .object [("PED", .object [("0x1", .null)]), ("CAM", .object [])]
  let cfx : Json.Value := .object [("CFX", .object []), ("PED", .object [("0x2", .null)])]
  ⟨[(["game.json"], .file game.text.toUTF8), (["cfx.json"], .file cfx.text.toUTF8),
    (["list.json"], .file "[]".toUTF8), (["open.json"], .file "[".toUTF8),
    (["latin.json"], .file ⟨#[0x22, 0xE9, 0x22]⟩)]⟩

/-- The catalogs among other sources, none of which loads as long as no server answers. -/
def scatteredSources : List Source :=
  [.file "missing.json", .file "game.json", .file "list.json", .url "http://cfx", .file "cfx.json",
    .file "open.json", .file "latin.json"]

theorem loadAll_merges_loadable_scattered :
    loadable sourceTree scatteredSources = [.file "game.json", .file "cfx.json"] ∧
    (loadAll scatteredSources : StateM FileTree (Except SourceFault Catalog)).run sourceTree =
      (loadAll [.file "game.json", .file "cfx.json"] :
        StateM FileTree (Except SourceFault Catalog)).run sourceTree ∧
    ∃ c, (loadAll scatteredSources : StateM FileTree (Except SourceFault Catalog)).run sourceTree =
        (.ok c, sourceTree) ∧ c.names = ["PED", "CAM", "CFX"] := by
  have hloadable : loadable sourceTree scatteredSources =
      [.file "game.json", .file "cfx.json"] := by decide +kernel
  have hplain : loadable sourceTree [.file "game.json", .file "cfx.json"] =
      [.file "game.json", .file "cfx.json"] := by decide +kernel
  have hnames : (((loadAll scatteredSources : StateM FileTree (Except SourceFault Catalog)).run
      sourceTree).1.toOption.map Catalog.names) = some ["PED", "CAM", "CFX"] := by decide +kernel
  obtain ⟨-, -, hmerged, -⟩ := loadAll_merges_loadable sourceTree scatteredSources
  obtain ⟨-, -, -, hsame⟩ :=
    loadAll_merges_loadable sourceTree [.file "game.json", .file "cfx.json"]
  refine ⟨hloadable, hsame _ (hloadable.trans hplain.symm) (by simp [hplain]), ?_⟩
  cases hcatalogs : scatteredSources.filterMap (catalog? sourceTree) with
  | nil =>
    have hne : loadable sourceTree scatteredSources ≠ [] := by simp [hloadable]
    rw [← catalogs_eq_filterMap] at hcatalogs
    exact absurd hcatalogs (catalogs_ne_nil_of_loadable hne)
  | cons first rest =>
    have hrun := hmerged first rest hcatalogs
    rw [hrun] at hnames
    exact ⟨_, hrun, Option.some.inj hnames⟩

end Source

end NativeStubs
