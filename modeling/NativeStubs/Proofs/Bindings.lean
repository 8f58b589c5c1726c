import NativeStubs.Proofs.Collision
import NativeStubs.Proofs.Overlay
import NativeStubs.Proofs.Visibility

/-! # Bindings of earlier names

A declaration binds the earlier names of its native in their order. Hashes are left out, and so is
an identifier that is the one of today or has been bound before. A binding has no name on its left
exactly if one of the earlier names is empty, while the function always has a name.
-/

namespace NativeStubs

namespace Alias

variable {canonical former : String} {names : List String} {name : String}

/-- The identifiers of the earlier names that are no hashes, but for the one of today, in the order
of their first appearance. -/
def formers (canonical : String) (names : List String) : List String :=
  (((names.filter (¬ isHash ·)).map Identifier.ofName).filter (· ≠ canonical)).eraseDups

/-- Whether an earlier name adds nothing to the identifiers that are bound before it. -/
def IsIdle (canonical : String) (bound : List String) (name : String) : Prop :=
  isHash name ∨ Identifier.ofName name = canonical ∨ Identifier.ofName name ∈ bound

instance (canonical : String) (bound : List String) (name : String) :
    Decidable (IsIdle canonical bound name) :=
  inferInstanceAs (Decidable (isHash name ∨ _ ∨ _))

theorem formers_concat (canonical : String) (names : List String) (name : String) :
    formers canonical (names ++ [name]) =
      if IsIdle canonical (formers canonical names) name then formers canonical names
      else formers canonical names ++ [Identifier.ofName name] := by
  unfold IsIdle formers
  by_cases hhash : isHash name
  · simp [hhash]
  · by_cases hcanonical : Identifier.ofName name = canonical
    · simp [hhash, hcanonical]
    · have hlast : (([name].filter (¬ isHash ·)).map Identifier.ofName).filter (· ≠ canonical) =
          [Identifier.ofName name] := by
        simp [hhash, hcanonical]
      rw [List.filter_append, List.map_append, List.filter_append, hlast, eraseDups_concat]
      simp only [hhash, hcanonical, List.mem_eraseDups, Bool.false_eq_true, false_or]

/-- What has been bound is what the names read later may not bind again. -/
theorem identifiersAfter_append (seen rest : List String) :
    identifiersAfter canonical seen (names ++ rest) =
      identifiersAfter canonical seen names ++
        identifiersAfter canonical ((identifiersAfter canonical seen names).reverse ++ seen)
          rest := by
  induction names generalizing seen with
  | nil => rfl
  | cons name names ih =>
    rw [List.cons_append, identifiersAfter, identifiersAfter]
    split_ifs
    · exact ih seen
    · rw [ih, List.cons_append, List.reverse_cons, List.append_assoc, List.singleton_append]

theorem identifiers_concat (canonical : String) (names : List String) (name : String) :
    identifiers canonical (names ++ [name]) =
      if IsIdle canonical (identifiers canonical names) name then identifiers canonical names
      else identifiers canonical names ++ [Identifier.ofName name] := by
  unfold identifiers
  rw [identifiersAfter_append, identifiersAfter]
  by_cases hidle : IsIdle canonical (identifiersAfter canonical [] names) name
  · rw [if_pos hidle, if_pos (by simpa [IsIdle] using hidle), identifiersAfter, List.append_nil]
  · rw [if_neg hidle, if_neg (by simpa [IsIdle] using hidle), identifiersAfter]

theorem identifiers_eq_formers (canonical : String) (names : List String) :
    identifiers canonical names = formers canonical names := by
  -- From the end, where either list takes up a name unless it is idle.
  induction names using List.reverseRecOn with
  | nil => rfl
  | append_singleton names name ih => rw [identifiers_concat, formers_concat, ih]

theorem nodup_formers (canonical : String) (names : List String) :
    (formers canonical names).Nodup :=
  nodup_eraseDups _

theorem canonical_notMem_formers (canonical : String) (names : List String) :
    canonical ∉ formers canonical names := by
  intro h
  rw [formers, List.mem_eraseDups, List.mem_filter] at h
  exact of_decide_eq_true h.2 rfl

/-- The text that binds the earlier names. -/
def bindings (canonical : String) (names : List String) : String :=
  String.join ((formers canonical names).map (bindingText canonical))

theorem block?_eq (canonical : String) (names : List String) :
    block? canonical names =
      if formers canonical names = [] then none else some (bindings canonical names) := by
  rw [bindings, ← identifiers_eq_formers, block?]
  cases identifiers canonical names <;> simp

theorem getD_block? (canonical : String) (names : List String) :
    (block? canonical names).getD "" = bindings canonical names := by
  rw [block?_eq]
  split_ifs with h
  · rw [bindings, h]
    rfl
  · rfl

section Pass

/-- What a pass over the earlier names has bound and written so far. -/
structure Written where
  bound : List String
  block : String

/-- Takes up one earlier name: binds its identifier and writes the binding, unless it is idle. -/
def Written.add (canonical : String) (w : Written) (name : String) : Written :=
  if IsIdle canonical w.bound name then w
  else
    let former := Identifier.ofName name
    ⟨former :: w.bound, w.block ++ bindingText canonical former⟩

def written (canonical : String) (names : List String) : Written :=
  names.foldl (Written.add canonical) ⟨[], ""⟩

/-- The text that one pass over the earlier names writes, if it writes any. -/
def blockInOnePass? (canonical : String) (names : List String) : Option String :=
  let block := (written canonical names).block
  if block = "" then none else some block

/-- After each name, the pass has bound the identifiers so far and written their bindings. -/
theorem written_eq (canonical : String) (names : List String) :
    written canonical names = ⟨(formers canonical names).reverse, bindings canonical names⟩ := by
  unfold written bindings
  induction names using List.reverseRecOn with
  | nil => rfl
  | append_singleton names name ih =>
    have hidle : IsIdle canonical (formers canonical names).reverse name ↔
        IsIdle canonical (formers canonical names) name := by
      simp only [IsIdle, List.mem_reverse]
    rw [List.foldl_concat, ih, Written.add, formers_concat]
    simp only [hidle]
    split_ifs
    · rfl
    · simp

theorem bindingText_ne_empty (canonical former : String) : bindingText canonical former ≠ "" := by
  unfold bindingText
  intro h
  rw [String.append_eq_empty_iff] at h
  exact absurd h.2 (by decide)

theorem bindings_eq_empty_iff :
    bindings canonical names = "" ↔ formers canonical names = [] := by
  unfold bindings
  cases formers canonical names with
  | nil => exact iff_of_true rfl rfl
  | cons former rest =>
    rw [List.map_cons, String.join_cons, String.append_eq_empty_iff]
    exact iff_of_false (fun h => bindingText_ne_empty canonical former h.1) (List.cons_ne_nil _ _)

theorem block?_eq_inOnePass (canonical : String) (names : List String) :
    block? canonical names = blockInOnePass? canonical names := by
  rw [block?_eq, blockInOnePass?, written_eq]
  simp only [bindings_eq_empty_iff]

end Pass

end Alias

namespace Generator

variable (g : Generator) (name key identifier : String) (n : Native)

/-- The text of a declaration before the bindings of earlier names. -/
def opening : String :=
  (g.declaration name identifier n).header g.style ++
    Declaration.descriptionLines n.description ++
    Signature.lines identifier (g.arguments identifier n) (g.values identifier n)

theorem text_eq_opening :
    (g.declaration name identifier n).text g.style =
      g.opening name identifier n ++ Alias.bindings identifier n.allAliases ++ "\n" := by
  rw [text_declaration, Alias.getD_block?, opening]

end Generator

namespace Alias

/-- The block of earlier names has one binding for each identifier, in the order of first
appearance, and there is none if no identifier is left to bind. A pass that writes as it goes gives
the same block. In a declaration the aliases and the old names of the native are bound as one list,
so none of them is bound twice or to itself. -/
theorem block?_binds_formers_once (canonical : String) (names : List String) :
    block? canonical names =
        (if formers canonical names = [] then none
        else some (String.join ((formers canonical names).map (bindingText canonical)))) ∧
      block? canonical names = blockInOnePass? canonical names ∧
      ∀ (g : Generator) (name key : String) (record : Json.Value) (text : String),
        g.declare name key record = .ok (canonical, text) →
        ∃ n, Native.ofRecord record = .ok n ∧
          let bound := formers canonical (n.aliases ++ n.oldNames)
          text = g.opening name canonical n ++
              String.join (bound.map (bindingText canonical)) ++ "\n" ∧
            bound.Nodup ∧ canonical ∉ bound := by
  refine ⟨block?_eq canonical names, block?_eq_inOnePass canonical names, ?_⟩
  intro g name key record text h
  obtain ⟨n, hn, -, rfl⟩ := (g.declare_eq_ok_iff canonical).mp h
  exact ⟨n, hn, g.text_eq_opening name canonical n, nodup_formers _ _,
    canonical_notMem_formers _ _⟩

/-- A record with an alias that is an old name too, a hash, and its own name as an alias. -/
def renamedRecord : Json.Value :=
  .object [("name", .string "GET_PED"), ("hash", .string "0x1"), ("params", .array []),
    ("aliases", .array [.string "_GET_PED_2", .string "0x1", .string "_GET_PED"]),
    ("old_names", .array [.string "GET_PED_2", .string "PED"])]

def renamedNative : Native :=
  { name := some "GET_PED"
    params := []
    hash := "0x1"
    aliases := ["_GET_PED_2", "0x1", "_GET_PED"]
    oldNames := ["GET_PED_2", "PED"] }

theorem ofRecord_renamedRecord : Native.ofRecord renamedRecord = .ok renamedNative := rfl

theorem declare_renamedRecord :
    (Config.generator {}).declare "NS" "0x1" renamedRecord =
      .ok ("GetPed", ((Config.generator {}).declaration "NS" "GetPed" renamedNative).text
        (Config.generator {}).style) := by
  have hidentifier : Generator.identifier? renamedNative "0x1" = some "GetPed" := by
    decide +kernel
  exact (Generator.declare_eq_ok_iff _ "GetPed").mpr
    ⟨renamedNative, ofRecord_renamedRecord, hidentifier, rfl⟩

theorem block?_binds_formers_once_renamed :
    ∃ text, (Config.generator {}).declare "NS" "0x1" renamedRecord = .ok ("GetPed", text) ∧
      text = (Config.generator {}).opening "NS" "GetPed" renamedNative ++
        "\n---@deprecated\nGetPed_2 = GetPed\n" ++ "\n---@deprecated\nPed = GetPed\n" ++ "\n" := by
  obtain ⟨-, -, hdeclare⟩ := block?_binds_formers_once "GetPed" renamedNative.allAliases
  obtain ⟨n, hn, htext, -⟩ := hdeclare _ _ _ _ _ declare_renamedRecord
  obtain rfl : renamedNative = n := Except.ok.inj (ofRecord_renamedRecord.symm.trans hn)
  have hbound : String.join ((formers "GetPed" (renamedNative.aliases ++ renamedNative.oldNames)).map
      (bindingText "GetPed")) =
        "\n---@deprecated\nGetPed_2 = GetPed\n" ++ "\n---@deprecated\nPed = GetPed\n" := by
    decide +kernel
  rw [hbound, ← String.append_assoc] at htext
  exact ⟨_, declare_renamedRecord, htext⟩

end Alias

/-- An empty name is no hash, and its identifier is not the one of a native. -/
theorem Alias.empty_mem_formers_iff {identifier : String} {names : List String}
    (h : identifier ≠ "") : "" ∈ formers identifier names ↔ "" ∈ names := by
  rw [← identifiers_eq_formers, mem_identifiers_iff]
  constructor
  · rintro ⟨-, former, hformer, -, hempty⟩
    exact Identifier.ofName_eq_empty_iff.mp hempty ▸ hformer
  · intro hempty
    exact ⟨h.symm, "", hempty, by decide, Identifier.ofName_eq_empty_iff.mpr rfl⟩

theorem ne_empty_of_nonempty? {s raw : String} (h : nonempty? s = some raw) : raw ≠ "" := by
  unfold nonempty? at h
  split_ifs at h with hs
  obtain rfl := Option.some.inj h
  rintro rfl
  exact hs rfl

theorem Native.givenName?_ne_empty {n : Native} {key raw : String}
    (h : n.givenName? key = some raw) : raw ≠ "" := by
  rcases Option.or_eq_some_iff.mp h with hname | ⟨-, hkey⟩
  · obtain ⟨s, -, hs⟩ := Option.bind_eq_some_iff.mp hname
    exact ne_empty_of_nonempty? hs
  · exact ne_empty_of_nonempty? hkey

namespace Generator

variable {g : Generator} {name key identifier text : String} {n : Native} {record : Json.Value}

theorem identifier?_ne_empty (h : identifier? n key = some identifier) : identifier ≠ "" := by
  rw [identifier?_eq_map] at h
  obtain ⟨raw, hraw, rfl⟩ := Option.map_eq_some_iff.mp h
  intro hempty
  exact Native.givenName?_ne_empty hraw (Identifier.ofName_eq_empty_iff.mp hempty)

/-- The function of a declaration always has a name, and each binding of an earlier name has one on
its left exactly if neither the aliases nor the old names of the record have an empty one. -/
theorem declare_binds_named (h : g.declare name key record = .ok (identifier, text)) :
    ∃ n, Native.ofRecord record = .ok n ∧
      let bound := Alias.formers identifier (n.aliases ++ n.oldNames)
      text = g.opening name identifier n ++
          String.join (bound.map (Alias.bindingText identifier)) ++ "\n" ∧
        identifier ≠ "" ∧
        ((∀ former ∈ bound, former ≠ "") ↔ "" ∉ n.aliases ∧ "" ∉ n.oldNames) := by
  obtain ⟨n, hn, hidentifier, rfl⟩ := (g.declare_eq_ok_iff identifier).mp h
  have hne := identifier?_ne_empty hidentifier
  refine ⟨n, hn, g.text_eq_opening name identifier n, hne, ?_⟩
  rw [← not_or, ← List.mem_append, ← Alias.empty_mem_formers_iff hne]
  constructor
  · intro hnamed hempty
    exact hnamed "" hempty rfl
  · rintro hempty former hformer rfl
    exact hempty hformer

theorem declare_binds_named_renamed :
    ∃ text, (Config.generator {}).declare "NS" "0x1" Alias.renamedRecord = .ok ("GetPed", text) ∧
      "GetPed" ≠ "" ∧ ∀ former ∈ Alias.formers "GetPed"
        (Alias.renamedNative.aliases ++ Alias.renamedNative.oldNames), former ≠ "" := by
  obtain ⟨n, hn, -, hidentifier, hnamed⟩ := declare_binds_named Alias.declare_renamedRecord
  obtain rfl : Alias.renamedNative = n :=
    Except.ok.inj (Alias.ofRecord_renamedRecord.symm.trans hn)
  exact ⟨_, Alias.declare_renamedRecord, hidentifier, hnamed.mpr (by decide)⟩

/-- A record with an empty alias. -/
def emptyAliasRecord : Json.Value :=
  .object [("name", .string "GET_PED"), ("hash", .string "0x1"), ("params", .array []),
    ("aliases", .array [.string ""])]

def emptyAliasNative : Native :=
  { name := some "GET_PED", params := [], hash := "0x1", aliases := [""] }

/-- The binding of an empty alias has nothing on its left. -/
theorem declare_binds_empty_alias :
    Native.ofRecord emptyAliasRecord = .ok emptyAliasNative ∧
      "" ∈ Alias.formers "GetPed" (emptyAliasNative.aliases ++ emptyAliasNative.oldNames) ∧
      (Config.generator {}).declare "NS" "0x1" emptyAliasRecord = .ok ("GetPed",
        "---**`NS` `client`**  \n" ++
        "---[Native Documentation](https://docs.fivem.net/natives/?_0x1)  \n" ++
        "---This native does not have an official description.\n" ++
        "function GetPed() end\n" ++
        "\n---@deprecated\n = GetPed\n" ++ "\n") :=
  ⟨rfl, by decide +kernel, by decide +kernel⟩

end Generator

end NativeStubs
