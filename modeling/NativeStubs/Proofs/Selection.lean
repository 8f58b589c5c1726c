import NativeStubs.Proofs.InitConfig
import NativeStubs.Proofs.Sources

/-! # What a command reads

The configuration of a command is that of a file or the default one. Its sources are those that it
is given, the files before the URLs, and those of the configuration only if it is given none. A
location in a configuration stands for a URL if it starts like one and for a file otherwise.
-/

namespace NativeStubs

open FileTree

theorem toList_isPrefixOf_iff {p s : String} :
    p.toList.isPrefixOf s.toList = true ↔ ∃ rest, s = p ++ rest := by
  rw [List.isPrefixOf_iff_prefix]
  constructor
  · rintro ⟨rest, hrest⟩
    refine ⟨String.ofList rest, String.toList_inj.mp ?_⟩
    rw [String.toList_append, String.toList_ofList, hrest]
  · rintro ⟨rest, rfl⟩
    rw [String.toList_append]
    exact List.prefix_append _ _

namespace Config

/-- The configuration in the bytes of a file. -/
def ofBytes? (bytes : ByteArray) : Option Config :=
  (String.fromUTF8? bytes).bind fun text => (parse text).toOption

/-- The configuration of the file that is given, or else of `natdoc.toml` in the working directory,
or the default one where there is no such file. -/
def loaded? (t : FileTree) (dir : String) : Option String → Option Config
  | some path => (t.read path).toOption.bind ofBytes?
  | none =>
    match t.find (Path.join dir "natdoc.toml") with
    | .ok (_, .file bytes) => ofBytes? bytes
    | _ => some {}

variable {t : FileTree} {dir : String}

theorem toOption_answer_load (t : FileTree) (path : String) :
    (t.answer (load path)).toOption = (t.read path).toOption.bind ofBytes? := by
  have htext := toOption_answer_readText path t
  have hbytes : (t.read path).toOption.bind ofBytes? =
      (t.answer (FileSystem.readText path)).toOption.bind fun text => (parse text).toOption := by
    rw [htext, Option.bind_assoc]
    rfl
  rw [hbytes, load, (readOnly_readText path).answer_bind]
  cases t.answer (FileSystem.readText path) <;> rfl

theorem toOption_answer_loadOrDefault (t : FileTree) (dir : String) (explicit : Option String) :
    (t.answer (loadOrDefault explicit dir)).toOption = loaded? t dir explicit := by
  cases explicit with
  | some path => exact toOption_answer_load t path
  | none =>
    have hread := toOption_answer_load t (Path.join dir fileName)
    have hname : Path.join dir "natdoc.toml" = Path.join dir fileName := rfl
    rw [FileTree.read] at hread
    rw [answer, run_loadOrDefault_none, loaded?, hname]
    cases hfind : t.find (Path.join dir fileName) with
    | error fault => rfl
    | ok found =>
      obtain ⟨place, entry⟩ := found
      rw [hfind] at hread
      cases entry with
      | file bytes => exact hread
      | directory => rfl

theorem loaded?_eq_some_iff {explicit : Option String} {c : Config} :
    loaded? t dir explicit = some c ↔ t.answer (loadOrDefault explicit dir) = .ok c := by
  rw [← toOption_answer_loadOrDefault]
  cases t.answer (loadOrDefault explicit dir) <;> simp [Except.toOption]

end Config

namespace Source

/-- The source that a location in a configuration stands for. -/
inductive Locates : String → Source → Prop
  | http (rest : String) : Locates ("http://" ++ rest) (.url ("http://" ++ rest))
  | https (rest : String) : Locates ("https://" ++ rest) (.url ("https://" ++ rest))
  | file {path : String} (hhttp : ∀ rest, path ≠ "http://" ++ rest)
      (hhttps : ∀ rest, path ≠ "https://" ++ rest) : Locates path (.file path)

variable {location : String} {source : Source}

theorem startsLikeUrl_iff :
    (schemes.any fun scheme => scheme.toList.isPrefixOf location.toList) = true ↔
      (∃ rest, location = "http://" ++ rest) ∨ ∃ rest, location = "https://" ++ rest := by
  simp only [schemes, List.any_cons, List.any_nil, Bool.or_false, Bool.or_eq_true,
    toList_isPrefixOf_iff]

theorem locates_iff : Locates location source ↔ ofLocation location = source := by
  rw [ofLocation]
  constructor
  · rintro (⟨rest⟩ | ⟨rest⟩ | ⟨hhttp, hhttps⟩)
    · exact if_pos (startsLikeUrl_iff.mpr (Or.inl ⟨rest, rfl⟩))
    · exact if_pos (startsLikeUrl_iff.mpr (Or.inr ⟨rest, rfl⟩))
    · refine if_neg fun hurl => ?_
      rcases startsLikeUrl_iff.mp hurl with ⟨rest, heq⟩ | ⟨rest, heq⟩
      · exact hhttp rest heq
      · exact hhttps rest heq
  · rintro rfl
    split_ifs with hurl
    · rcases startsLikeUrl_iff.mp hurl with ⟨rest, rfl⟩ | ⟨rest, rfl⟩
      · exact .http rest
      · exact .https rest
    · refine .file (fun rest heq => hurl ?_) (fun rest heq => hurl ?_)
      · exact startsLikeUrl_iff.mpr (Or.inl ⟨rest, heq⟩)
      · exact startsLikeUrl_iff.mpr (Or.inr ⟨rest, heq⟩)

theorem forall₂_locates_iff {locations : List String} {sources : List Source} :
    List.Forall₂ Locates locations sources ↔ locations.map ofLocation = sources := by
  induction locations generalizing sources with
  | nil =>
    rw [List.forall₂_nil_left_iff]
    exact eq_comm
  | cons location rest ih =>
    rw [List.forall₂_cons_left_iff, List.map_cons]
    constructor
    · rintro ⟨source, others, hsource, hothers, rfl⟩
      rw [locates_iff.mp hsource, ih.mp hothers]
    · rintro rfl
      exact ⟨_, _, locates_iff.mpr rfl, ih.mpr rfl, rfl⟩

end Source

namespace GenerateOptions

/-- The sources to generate from: the files and then the URLs that are given, or those of the
configuration if neither is given. -/
inductive Selects (o : GenerateOptions) (c : Config) : List Source → Prop
  | given (hgiven : o.inputs ≠ [] ∨ o.urls ≠ []) :
      Selects o c (o.inputs.map .file ++ o.urls.map .url)
  | configured {sources : List Source} (hinputs : o.inputs = []) (hurls : o.urls = [])
      (hsources : List.Forall₂ Source.Locates c.sources sources) : Selects o c sources

variable {o : GenerateOptions} {c : Config} {sources : List Source}

theorem sources_of_given (h : o.inputs ≠ [] ∨ o.urls ≠ []) :
    o.sources c = o.inputs.map .file ++ o.urls.map .url := by
  refine if_neg fun hempty => ?_
  rw [Bool.and_eq_true, List.isEmpty_iff, List.isEmpty_iff] at hempty
  exact h.elim (absurd hempty.1) (absurd hempty.2)

theorem sources_of_none (hinputs : o.inputs = []) (hurls : o.urls = []) :
    o.sources c = c.sources.map .ofLocation :=
  if_pos (by rw [hinputs, hurls]; rfl)

theorem selects_iff : o.Selects c sources ↔ o.sources c = sources := by
  constructor
  · rintro (hgiven | ⟨hinputs, hurls, hsources⟩)
    · exact sources_of_given hgiven
    · rw [sources_of_none hinputs hurls, Source.forall₂_locates_iff.mp hsources]
  · rintro rfl
    by_cases hgiven : o.inputs ≠ [] ∨ o.urls ≠ []
    · rw [sources_of_given hgiven]
      exact .given hgiven
    · obtain ⟨hinputs, hurls⟩ := not_or.mp hgiven
      refine .configured (not_not.mp hinputs) (not_not.mp hurls) ?_
      rw [Source.forall₂_locates_iff, sources_of_none (not_not.mp hinputs) (not_not.mp hurls)]

end GenerateOptions

end NativeStubs
