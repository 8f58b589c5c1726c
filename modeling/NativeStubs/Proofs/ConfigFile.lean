import NativeStubs.Config.Storage
import NativeStubs.Proofs.FileTree
import NativeStubs.Proofs.TomlDocument

/-! # Configurations in files

The document of a configuration is read back as that configuration, and each key that is taken out
of it falls back to its default. A configuration that was saved is the one that is loaded.
-/

namespace NativeStubs

namespace Config

variable {c : Config}

/-- The settings of a configuration without those of some keys. -/
def without (c : Config) (removed : List String) : List (String × Setting) :=
  c.settings.filter fun field => field.1 ∉ removed

/-- A value, or the default one if its key was removed. -/
def orDefault {α : Type} (removed : List String) (key : String) (default x : α) : α :=
  if key ∈ removed then default else x

/-- The configuration with the default values under some keys. -/
def reset (c : Config) (removed : List String) : Config :=
  let default : Config := {}
  { docUrlPrefix := orDefault removed "doc_url_prefix" default.docUrlPrefix c.docUrlPrefix
    defaultApiset := orDefault removed "default_apiset" default.defaultApiset c.defaultApiset
    nonReturnPointerNatives := orDefault removed "non_return_pointer_natives"
      default.nonReturnPointerNatives c.nonReturnPointerNatives
    reservedWords := orDefault removed "reserved_words" default.reservedWords c.reservedWords
    outputDir := orDefault removed "output_dir" default.outputDir c.outputDir
    sources := orDefault removed "sources" default.sources c.sources }

theorem reset_nil (c : Config) : c.reset [] = c := by
  simp [reset, orDefault]

theorem without_nil (c : Config) : c.without [] = c.settings := by
  simp [without]

section Entries

variable {key : String} (removed : List String)

theorem get?_table_without {setting : Setting} (h : Fields.get? c.settings key = some setting) :
    (table (c.without removed)).get? key =
      if key ∈ removed then none else some setting.value := by
  rw [table, Fields.get?_map, without, Fields.get?_filter fun k => decide (k ∉ removed), h]
  by_cases hkey : key ∈ removed <;> simp [hkey]

theorem textOr_without (default : String) {s : String}
    (h : Fields.get? c.settings key = some (.text s)) :
    textOr default ((table (c.without removed)).get? key) =
      some (orDefault removed key default s) := by
  rw [get?_table_without removed h, orDefault]
  split_ifs <;> rfl

theorem listOf?_map (items : List String) : listOf? (items.map .string) = some items := by
  induction items with
  | nil => rfl
  | cons s rest ih =>
    rw [List.map_cons, listOf?, ih]
    rfl

theorem listOr_without (default : List String) {items : List String}
    (h : Fields.get? c.settings key = some (.list items)) :
    listOr default ((table (c.without removed)).get? key) =
      some (orDefault removed key default items) := by
  rw [get?_table_without removed h, orDefault]
  split_ifs
  · rfl
  · exact listOf?_map items

theorem ofEntries?_without (c : Config) :
    ofEntries? (table (c.without removed)) = some (c.reset removed) := by
  have hdocUrlPrefix : Fields.get? c.settings "doc_url_prefix" = some (.text c.docUrlPrefix) := rfl
  have hdefaultApiset : Fields.get? c.settings "default_apiset" = some (.text c.defaultApiset) :=
    rfl
  have hnonReturnPointerNatives : Fields.get? c.settings "non_return_pointer_natives" =
      some (.list c.nonReturnPointerNatives) := rfl
  have hreservedWords : Fields.get? c.settings "reserved_words" =
      some (.list c.reservedWords) := rfl
  have houtputDir : Fields.get? c.settings "output_dir" = some (.text c.outputDir) := rfl
  have hsources : Fields.get? c.settings "sources" = some (.list c.sources) := rfl
  rw [ofEntries?]
  refine Option.bind_eq_some_iff.mpr ⟨_, textOr_without removed _ hdocUrlPrefix, ?_⟩
  refine Option.bind_eq_some_iff.mpr ⟨_, textOr_without removed _ hdefaultApiset, ?_⟩
  refine Option.bind_eq_some_iff.mpr ⟨_, listOr_without removed _ hnonReturnPointerNatives, ?_⟩
  refine Option.bind_eq_some_iff.mpr ⟨_, listOr_without removed _ hreservedWords, ?_⟩
  refine Option.bind_eq_some_iff.mpr ⟨_, textOr_without removed _ houtputDir, ?_⟩
  refine Option.bind_eq_some_iff.mpr ⟨_, listOr_without removed _ hsources, ?_⟩
  rfl

end Entries

theorem validate_eq_ok_iff :
    c.validate = .ok () ↔ Text.allBlank c.docUrlPrefix = false ∧
      Text.allBlank c.defaultApiset = false ∧ c.outputDir.isEmpty = false := by
  unfold validate
  split_ifs <;> simp_all

theorem validate_reset (h : c.validate = .ok ()) (removed : List String) :
    (c.reset removed).validate = .ok () := by
  have hdefault : ({} : Config).validate = .ok () := by decide +kernel
  rw [validate_eq_ok_iff] at h hdefault ⊢
  obtain ⟨hdocUrlPrefix, hdefaultApiset, houtputDir⟩ := h
  obtain ⟨hdocUrlPrefix', hdefaultApiset', houtputDir'⟩ := hdefault
  refine ⟨?_, ?_, ?_⟩
  all_goals
    simp only [reset, orDefault]
    split_ifs <;> assumption

theorem keys_settings (c : Config) : Fields.keys c.settings =
    ["doc_url_prefix", "default_apiset", "non_return_pointer_natives", "reserved_words",
      "output_dir", "sources"] := rfl

theorem isBareKey_of_mem_without {removed : List String} {field : String × Setting}
    (h : field ∈ c.without removed) : IsBareKey field.1 := by
  have hmem := Fields.mem_keys_of_mem (List.mem_filter.mp h).1
  have hbare : ∀ key ∈ Fields.keys c.settings, IsBareKey key := by
    rw [keys_settings]
    unfold IsBareKey
    decide
  exact hbare field.1 hmem

theorem nodup_keys_without (c : Config) (removed : List String) :
    (Fields.keys (c.without removed)).Nodup := by
  have hnodup : (Fields.keys c.settings).Nodup := by
    rw [keys_settings]
    decide
  exact hnodup.sublist (List.filter_sublist.map Prod.fst)

/-- A document that some keys were taken out of is read as the configuration with the defaults
under these keys. -/
theorem parse_document_without (h : c.validate = .ok ()) (removed : List String) :
    parse (document (c.without removed)) = .ok (c.reset removed) := by
  have hparse := parse?_document (fun field => isBareKey_of_mem_without)
    (nodup_keys_without c removed)
  rw [parse, hparse, Option.bind_some, ofEntries?_without]
  dsimp only
  rw [validate_reset h]
  rfl

section Files

variable {t : FileTree} {path text : String}

theorem run_load (h : t.read path = .ok text.toUTF8) :
    (load path : StateM FileTree (Except Error Config)).run t = (parse text, t) := by
  rw [load, FileTree.run_bind_of_run (FileTree.run_readText h)]
  rfl

/-- A save that the file system refuses: the directory could not be made or the file not written. -/
def Refused (c : Config) (path : String) (t : FileTree) : Prop :=
  ∃ fault t', (c.save path : StateM FileTree (Except Error Unit)).run t =
      (.error (.io fault), t') ∧
    ((FileSystem.makeAncestors (Path.parents path) :
        StateM FileTree (Except FileFault Unit)).run t = (.error fault, t') ∨
      t'.write path c.toToml.toUTF8 = .error fault)

/-- A save that is not refused ends by writing the document. -/
theorem run_save (c : Config) (path : String) (t : FileTree) :
    c.Refused path t ∨
      ∃ made t', (c.save path : StateM FileTree (Except Error Unit)).run t = (.ok (), t') ∧
        FileTree.write made path c.toToml.toUTF8 = .ok t' := by
  unfold Refused save
  cases hmade : (FileSystem.makeAncestors (Path.parents path) :
      StateM FileTree (Except FileFault Unit)).run t with
  | mk result made =>
    rw [FileTree.run_bind_of_run hmade]
    cases result with
    | error fault => exact Or.inl ⟨fault, made, rfl, Or.inl rfl⟩
    | ok =>
      have hwritten := FileTree.run_writeText (t := made) path c.toToml
      cases hwrite : made.write path c.toToml.toUTF8 with
      | error fault =>
        rw [hwrite] at hwritten
        dsimp only
        rw [FileTree.run_bind_of_run hwritten]
        exact Or.inl ⟨fault, made, rfl, Or.inr hwrite⟩
      | ok t' =>
        rw [hwrite] at hwritten
        dsimp only
        rw [FileTree.run_bind_of_run hwritten]
        exact Or.inr ⟨made, t', rfl, hwrite⟩

/-- A document that some keys were taken out of is loaded as the configuration with the defaults
under these keys. In particular a configuration that was saved is the one that is loaded, and its
document is what the file holds, unless the file system refuses the save. -/
theorem load_without (hc : c.validate = .ok ()) :
    (∀ removed : List String, parse (document (c.without removed)) = .ok (c.reset removed) ∧
      ∀ (t : FileTree) (path : String),
        t.read path = .ok (document (c.without removed)).toUTF8 →
          (load path : StateM FileTree (Except Error Config)).run t = (.ok (c.reset removed), t)) ∧
      parse c.toToml = .ok c ∧
      ∀ (t : FileTree) (path : String),
        c.Refused path t ∨
          ∃ t', (c.save path : StateM FileTree (Except Error Unit)).run t = (.ok (), t') ∧
            t'.read path = .ok c.toToml.toUTF8 ∧
            (load path : StateM FileTree (Except Error Config)).run t' = (.ok c, t') := by
  have hwhole : parse c.toToml = .ok c := by
    have h := parse_document_without hc []
    rwa [without_nil, reset_nil] at h
  refine ⟨fun removed => ⟨parse_document_without hc removed, fun t path hread => ?_⟩, hwhole,
    fun t path => ?_⟩
  · rw [run_load hread, parse_document_without hc removed]
  · obtain hrefused | ⟨made, t', hsave, hwrite⟩ := run_save c path t
    · exact Or.inl hrefused
    · have hread := FileTree.read_of_write hwrite
      exact Or.inr ⟨t', hsave, hread, by rw [run_load hread, hwhole]⟩

/-- A configuration whose texts need several of the forms of strings. -/
def quotedConfig : Config :=
  { docUrlPrefix := "\"\\'''\n\r\x7f"
    nonReturnPointerNatives := ["say \"hi\"", "''", "\ta\n\"\"\""]
    reservedWords := ["'\"\\"]
    outputDir := "C:\\natives" }

theorem load_without_quotedConfig :
    parse (document (quotedConfig.without ["sources", "default_apiset"])) = .ok quotedConfig ∧
      ∃ t', (quotedConfig.save "natdoc.toml" : StateM FileTree (Except Error Unit)).run {} =
          (.ok (), t') ∧
        (load "natdoc.toml" : StateM FileTree (Except Error Config)).run t' =
          (.ok quotedConfig, t') := by
  have hc : quotedConfig.validate = .ok () := by decide +kernel
  obtain ⟨hparse, -, hsave⟩ := load_without hc
  have hsaved : (quotedConfig.save "natdoc.toml" : StateM FileTree (Except Error Unit)).run {} =
      (.ok (), FileTree.set {} ["natdoc.toml"] (.file quotedConfig.toToml.toUTF8)) := rfl
  refine ⟨(hparse _).1, ?_⟩
  obtain ⟨fault, t', hfault, -⟩ | ⟨t', hok, -, hload⟩ := hsave {} "natdoc.toml"
  · rw [hsaved] at hfault
    cases hfault
  · exact ⟨t', hok, hload⟩

end Files

end Config

end NativeStubs
