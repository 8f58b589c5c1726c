import Mathlib
import NativeStubs.Proofs.Partition
import NativeStubs.Proofs.Replacement

/-! # Letter case of type tokens

The letter case of a type token is not shown, as long as the token has no `object` and no `const`
in it: those two are told apart by case. Lowering the letters of such tokens in a record lowers the
types of its native and of its promotion, and leaves the text of its declaration as it is.
-/

namespace NativeStubs

open Json Text

namespace Fields

variable {α : Type} {f : String → α → α} {fields : Fields α} {k old new : String} {v : α}

/-- The fields with their values changed, each in the way of its key. -/
def mapValues (f : String → α → α) (fields : Fields α) : Fields α :=
  fields.map fun (k, v) => (k, f k v)

theorem mapValues_cons (k : String) (v : α) (rest : Fields α) :
    mapValues f ((k, v) :: rest) = (k, f k v) :: mapValues f rest := rfl

theorem get?_mapValues : (fields.mapValues f).get? k = (fields.get? k).map (f k) := by
  induction fields with
  | nil => rfl
  | cons field rest ih =>
    obtain ⟨key, v⟩ := field
    rw [mapValues_cons, get?_cons, get?_cons, ih]
    split_ifs with h
    · rw [h, Option.map_some]
    · rfl

theorem insert_mapValues :
    (fields.mapValues f).insert k (f k v) = (fields.insert k v).mapValues f := by
  induction fields with
  | nil => rfl
  | cons field rest ih =>
    obtain ⟨key, w⟩ := field
    rw [mapValues_cons, insert, insert, ih]
    split_ifs with h
    · rw [mapValues_cons, h]
    · rfl

theorem lastToFront_map {β : Type} (g : α → β) (l : List α) :
    lastToFront (l.map g) = (lastToFront l).map g := by
  unfold lastToFront
  rw [List.getLast?_map]
  cases l.getLast? <;> simp

theorem swapTake?_mapValues :
    (fields.mapValues f).swapTake? k =
      (fields.swapTake? k).map fun (v, others) => (f k v, others.mapValues f) := by
  induction fields with
  | nil => rfl
  | cons field rest ih =>
    obtain ⟨key, v⟩ := field
    rw [mapValues_cons, swapTake?, swapTake?, ih]
    split_ifs with h
    · rw [h, mapValues, lastToFront_map]
      rfl
    · simp [mapValues_cons, Function.comp_def]

/-- A field may be renamed first if its value is changed in the same way under both names. -/
theorem rename_mapValues (h : f old = f new) :
    (fields.mapValues f).rename old new = (fields.rename old new).mapValues f := by
  unfold rename
  rw [get?_mapValues, Option.isSome_map, swapTake?_mapValues]
  split_ifs
  · rfl
  · cases fields.swapTake? old with
    | none => rfl
    | some taken =>
      obtain ⟨v, others⟩ := taken
      rw [Option.map_some]
      dsimp only
      rw [h, insert_mapValues]

theorem modernize_mapValues (hdescription : f "comment" = f "description")
    (hresults : f "return_type" = f "results") :
    (fields.mapValues f).modernize = fields.modernize.mapValues f := by
  rw [modernize, modernize, rename_mapValues hdescription, rename_mapValues hresults]

theorem foldlM_mapValues {δ ε : Type} {read : δ → String → α → Except ε δ} {changed : δ → δ}
    (h : ∀ d key v, read (changed d) key (f key v) = (read d key v).map changed)
    (fields : Fields α) (d : δ) :
    (fields.mapValues f).foldlM (fun d field => read d field.1 field.2) (changed d) =
      (fields.foldlM (fun d field => read d field.1 field.2) d).map changed :=
  foldlM_map_eq (fun d field => h d field.1 field.2) fields d

end Fields

namespace TypeName

/-- The value of a type token with its letters in lower case. -/
def foldValue : Value → Value
  | .string token => .string (foldCase token)
  | v => v

theorem toList_foldCase (token : String) :
    (foldCase token).toList = token.toList.map Char.toLower := String.toList_ofList

theorem foldCase_foldCase (token : String) : foldCase (foldCase token) = foldCase token := by
  rw [foldCase, toList_foldCase, List.map_map]
  exact congrArg String.ofList (List.map_congr_left fun c _ => Char.toLower_toLower_eq_toLower c)

theorem ofToken_foldCase (token : String) : ofToken (foldCase token) = ofToken token := by
  rw [ofToken, foldCase_foldCase]
  rfl

theorem readString_foldValue (v : Value) :
    readString (foldValue v) = (readString v).map foldCase := by
  cases v <;> rfl

theorem readOptional_foldValue (v : Value) :
    readOptional (foldValue v) = (readOptional v).map (Option.map foldCase) := by
  cases v <;> rfl

end TypeName

open NativeStubs.TypeName

section Slots

variable {α : Type} {name key : String} {synonyms : List String} {v v' : Value}
  {read : Value → Except RecordFault α} {slot : Option α}

theorem fill_congr (h : key = name ∨ key ∈ synonyms → v' = v) :
    fill name synonyms read key v' slot = fill name synonyms read key v slot := by
  unfold fill
  split_ifs with hown
  · rw [h hown]
  · rfl

theorem fill_map {g : α → α} (h : key = name ∨ key ∈ synonyms → read v' = (read v).map g) :
    fill name synonyms read key v' (slot.map g) =
      (fill name synonyms read key v slot).map (Option.map g) := by
  unfold fill setOnce
  rw [Option.isSome_map]
  split_ifs with hown hset
  · rfl
  · rw [h hown]
    cases read v <;> rfl
  · rfl

theorem required_map {g : α → α} (slot : Option α) :
    required name (slot.map g) = (required name slot).map g := by
  cases slot <;> rfl

end Slots

namespace Param

/-- The parameter with its type in lower case. -/
def foldType (p : Param) : Param := ⟨p.name, foldCase p.type⟩

/-- A field of a parameter, with the letters of the type in lower case. -/
def foldField (key : String) (v : Value) : Value := if key = "type" then foldValue v else v

/-- A parameter in either form, with the letters of its type in lower case. -/
def foldItem : Value → Value
  | .object fields => .object (Fields.mapValues foldField fields)
  | .array (name :: type :: more) => .array (name :: foldValue type :: more)
  | v => v

def Draft.foldType (draft : Draft) : Draft := { draft with type := draft.type.map foldCase }

theorem Draft.field_foldType (draft : Draft) (key : String) (v : Value) :
    draft.foldType.field key (foldField key v) = (draft.field key v).map Draft.foldType := by
  have hname : fill "name" [] readString key (foldField key v) draft.foldType.name =
      fill "name" [] readString key v draft.name := by
    refine fill_congr fun hkey => ?_
    simp_all [foldField]
  have htype : fill "type" [] readString key (foldField key v) draft.foldType.type =
      (fill "type" [] readString key v draft.type).map (Option.map foldCase) := by
    refine fill_map fun hkey => ?_
    have hkey : key = "type" := by simpa using hkey
    rw [foldField, if_pos hkey, readString_foldValue]
  rw [Draft.field, Draft.field, hname, htype]
  simp only [map_bind_eq, bind_map_eq]
  rfl

theorem ofFields_foldField (fields : Fields Value) :
    ofFields (fields.mapValues foldField) = (ofFields fields).map foldType := by
  have hfold := Fields.foldlM_mapValues Draft.field_foldType fields {}
  have hempty : Draft.foldType {} = {} := rfl
  rw [hempty] at hfold
  rw [ofFields, ofFields, hfold, map_bind_eq, bind_map_eq]
  simp only [Draft.foldType, required_map, map_bind_eq, bind_map_eq]
  rfl

theorem ofValue_foldItem (v : Value) : ofValue (foldItem v) = (ofValue v).map foldType := by
  cases v with
  | object fields => exact ofFields_foldField fields
  | array items =>
    rcases items with _ | ⟨name, _ | ⟨type, more⟩⟩
    · rfl
    · cases name <;> rfl
    · simp only [foldItem, ofValue, ofItems, readString_foldValue, map_bind_eq, bind_map_eq,
        List.length_cons]
      split_ifs <;> rfl
  | _ => rfl

end Param

namespace Native

/-- The native with its type tokens in lower case. -/
def foldTypes (n : Native) : Native :=
  { n with params := n.params.map Param.foldType, results := n.results.map foldCase }

/-- The type tokens of a native: that of its result, if it has one, and those of its parameters. -/
def typeTokens (n : Native) : List String := n.results.toList ++ n.params.map Param.type

theorem typeTokens_foldTypes (n : Native) : n.foldTypes.typeTokens = n.typeTokens.map foldCase := by
  rw [typeTokens, typeTokens, List.map_append, List.map_map]
  cases h : n.results <;> simp [foldTypes, h, Param.foldType, Function.comp_def]

def foldParams : Value → Value
  | .array items => .array (items.map Param.foldItem)
  | v => v

/-- A field of a record, with the letters of the type tokens in it in lower case. -/
def foldField (key : String) (v : Value) : Value :=
  if key = "results" ∨ key = "return_type" then foldValue v
  else if key = "params" then foldParams v
  else v

/-- A record with its type tokens in lower case. Records that become the same in this way differ
only in the letter case of type tokens. -/
def foldRecord : Value → Value
  | .object fields => .object (Fields.mapValues foldField fields)
  | v => v

def Draft.foldTypes (draft : Draft) : Draft :=
  { draft with
    params := draft.params.map (List.map Param.foldType)
    results := draft.results.map (Option.map foldCase) }

theorem readItems_foldParams (v : Value) :
    readItems Param.ofValue (foldParams v) =
      (readItems Param.ofValue v).map (List.map Param.foldType) := by
  cases v with
  | array items => exact mapM_map_eq Param.ofValue_foldItem items
  | _ => rfl

theorem foldField_of_ne {key : String} (hresults : key ≠ "results") (hreturn : key ≠ "return_type")
    (hparams : key ≠ "params") (v : Value) : foldField key v = v := by
  simp [foldField, hresults, hreturn, hparams]

theorem Draft.field_foldTypes (draft : Draft) (key : String) (v : Value) :
    draft.foldTypes.field key (foldField key v) = (draft.field key v).map Draft.foldTypes := by
  -- Seven of the slots take nothing from a field with type tokens.
  have hsame {α : Type} {read : Value → Except RecordFault α} {slot : Option α} (name : String)
      (synonyms : List String)
      (hown : ∀ k, k = name ∨ k ∈ synonyms → k ∉ ["results", "return_type", "params"]) :
      fill name synonyms read key (foldField key v) slot = fill name synonyms read key v slot := by
    refine fill_congr fun hkey => ?_
    obtain ⟨hresults, hreturn, hparams⟩ :
        key ≠ "results" ∧ key ≠ "return_type" ∧ key ≠ "params" := by
      simpa using hown key hkey
    exact foldField_of_ne hresults hreturn hparams v
  have hresults : fill "results" [] readOptional key (foldField key v) draft.foldTypes.results =
      (fill "results" [] readOptional key v draft.results).map
        (Option.map (Option.map foldCase)) := by
    refine fill_map fun hkey => ?_
    have hkey : key = "results" := by simpa using hkey
    rw [foldField, if_pos (Or.inl hkey), readOptional_foldValue]
  have hparams : fill "params" [] (readItems Param.ofValue) key (foldField key v)
        draft.foldTypes.params =
      (fill "params" [] (readItems Param.ofValue) key v draft.params).map
        (Option.map (List.map Param.foldType)) := by
    refine fill_map fun hkey => ?_
    obtain rfl : key = "params" := by simpa using hkey
    exact readItems_foldParams v
  rw [Draft.field, Draft.field, hresults, hparams, hsame "name" [] (by simp),
    hsame "description" [] (by simp), hsame "hash" [] (by simp),
    hsame "namespace" ["ns"] (by simp), hsame "apiset" [] (by simp), hsame "aliases" [] (by simp),
    hsame "old_names" [] (by simp)]
  simp only [map_bind_eq, bind_map_eq]
  rfl

theorem Draft.native_foldTypes (draft : Draft) :
    draft.foldTypes.native = draft.native.map Native.foldTypes := by
  rw [native, native, foldTypes, required_map, map_bind_eq, bind_map_eq]
  refine congrArg (_ >>= ·) (funext fun params => ?_)
  cases draft.results <;> rfl

/-- Reading a record in lower case gives the native in lower case, or the same fault. -/
theorem ofRecord_foldRecord (record : Value) :
    ofRecord (foldRecord record) = (ofRecord record).map foldTypes := by
  cases record with
  | object fields =>
    have hfold := Fields.foldlM_mapValues Draft.field_foldTypes (Fields.modernize fields) {}
    have hempty : Draft.foldTypes {} = {} := rfl
    rw [hempty] at hfold
    rw [foldRecord, ofRecord, ofRecord, Fields.modernize_mapValues rfl rfl, ofFields, ofFields,
      hfold, map_bind_eq, bind_map_eq]
    exact congrArg (_ >>= ·) (funext Draft.native_foldTypes)
  | _ => rfl

end Native

namespace Text

variable {c : Char} {s : List Char}

/-- A character that is no letter is the lower case of itself only. -/
theorem toLower_eq_iff {d : Char} (hd : d.isAlpha = false) : c.toLower = d ↔ c = d := by
  by_cases hc : c.isUpper = true
  · have hletter : c.isAlpha = true := by rw [Char.isAlpha, hc, Bool.true_or]
    constructor
    · rintro rfl
      rw [Char.isAlpha_toLower_eq_isAlpha, hletter] at hd
      cases hd
    · rintro rfl
      rw [hletter] at hd
      cases hd
  · rw [Char.toLower_eq_of_not_isUpper hc]

theorem isBlank_eq_false_of_isAlpha (h : c.isAlpha = true) : isBlank c = false := by
  rw [Bool.eq_false_iff]
  intro hblank
  simp only [Char.isAlpha, Char.isUpper, Char.isLower, Bool.or_eq_true, Bool.and_eq_true,
    decide_eq_true_eq, UInt32.le_iff_toNat_le, ge_iff_le] at h
  simp only [isBlank, Bool.or_eq_true, Bool.and_eq_true, decide_eq_true_eq, beq_iff_eq,
    Char.toNat] at hblank
  have hA : 'A'.val.toNat = 65 := rfl
  have hZ : 'Z'.val.toNat = 90 := rfl
  have ha : 'a'.val.toNat = 97 := rfl
  have hz : 'z'.val.toNat = 122 := rfl
  omega

theorem isBlank_toLower (c : Char) : isBlank c.toLower = isBlank c := by
  by_cases hc : c.isUpper = true
  · have hletter : c.isAlpha = true := by rw [Char.isAlpha, hc, Bool.true_or]
    rw [isBlank_eq_false_of_isAlpha hletter,
      isBlank_eq_false_of_isAlpha ((Char.isAlpha_toLower_eq_isAlpha c).trans hletter)]
  · rw [Char.toLower_eq_of_not_isUpper hc]

theorem isBlank_comp_toLower : isBlank ∘ Char.toLower = isBlank := funext isBlank_toLower

theorem allBlank_foldCase (token : String) : allBlank (foldCase token) = allBlank token := by
  rw [allBlank, toList_foldCase, List.all_map, isBlank_comp_toLower]
  rfl

theorem trimEnd_map_toLower (s : List Char) :
    trimEnd (s.map Char.toLower) = (trimEnd s).map Char.toLower := by
  rw [trimEnd, ← List.map_reverse, List.dropWhile_map, isBlank_comp_toLower, ← List.map_reverse]
  rfl

theorem prefix_trimEnd (s : List Char) : trimEnd s <+: s :=
  List.rdropWhile_prefix isBlank s

end Text

namespace Pointer

variable {token : String}

/-- Whether a token has neither `object` nor `const` in it, in any case of their letters. -/
def CaseFree (token : String) : Prop :=
  ¬ "object".toList <:+: (foldCase token).toList ∧ ¬ "const".toList <:+: (foldCase token).toList

instance (token : String) : Decidable (CaseFree token) := inferInstanceAs (Decidable (_ ∧ _))

theorem caseFree_foldCase_iff : CaseFree (foldCase token) ↔ CaseFree token := by
  rw [CaseFree, foldCase_foldCase]
  rfl

theorem disambiguate_of_caseFree (h : CaseFree token) : disambiguate token = token := by
  have hobject : "Object".toList.map Char.toLower = "object".toList := by decide
  have hnot : ¬ "Object".toList <:+: token.toList := by
    intro hinfix
    have hlower := hinfix.map Char.toLower
    rw [hobject, ← toList_foldCase token] at hlower
    exact h.1 hlower
  rw [disambiguate, replaceAll_of_not_infix hnot, String.ofList_toList]

theorem pointeeChars?_of_caseFree (h : CaseFree token) :
    pointeeChars? token.toList =
      if token.toList.getLast? = some '*' then some (trimEnd token.toList.dropLast) else none := by
  have hconst : "const".toList.map Char.toLower = "const".toList := by decide
  have hnot : ¬ "const".toList <+: trimEnd token.toList.dropLast := by
    intro hstart
    have hinfix : "const".toList <:+: token.toList :=
      (hstart.trans ((prefix_trimEnd _).trans (List.dropLast_prefix _))).isInfix
    have hlower := hinfix.map Char.toLower
    rw [hconst, ← toList_foldCase token] at hlower
    exact h.2 hlower
  have hunqualified : ∀ c, "const".toList ++ [c] <+: trimEnd token.toList.dropLast →
      isBlank c = false := fun c hc => absurd ((List.prefix_append _ [c]).trans hc) hnot
  rw [pointeeChars?, unqualify_of_unqualified hunqualified]

theorem pointee?_foldCase (h : CaseFree token) :
    pointee? (foldCase token) = (pointee? token).map foldCase := by
  have hlast : (token.toList.map Char.toLower).getLast? = some '*' ↔
      token.toList.getLast? = some '*' := by
    rw [List.getLast?_map, Option.map_eq_some_iff]
    simp [toLower_eq_iff]
  rw [pointee?, pointee?, pointeeChars?_of_caseFree (caseFree_foldCase_iff.mpr h),
    pointeeChars?_of_caseFree h, toList_foldCase]
  simp only [hlast, ← List.map_dropLast, trimEnd_map_toLower]
  split_ifs
  · simp [foldCase]
  · rfl

theorem strip_foldCase (h : CaseFree token) : strip (foldCase token) = foldCase (strip token) := by
  rw [strip, strip, pointee?_foldCase h]
  cases pointee? token <;> rfl

end Pointer

open NativeStubs.Pointer

namespace Promotion

theorem isChar_foldCase (token : String) : isChar (foldCase token) = isChar token := by
  have h := congrArg String.toList (foldCase_foldCase token)
  rw [toList_foldCase, toList_foldCase] at h
  rw [isChar, toList_foldCase, h]
  rfl

theorem place_foldType (isExcluded : Bool) {p : Param} (h : CaseFree p.type) :
    place isExcluded p.foldType = (place isExcluded p).map Param.foldType foldCase := by
  rw [place, place, Param.foldType, disambiguate_of_caseFree h,
    disambiguate_of_caseFree (caseFree_foldCase_iff.mpr h)]
  dsimp only
  rw [pointee?_foldCase h]
  cases pointee? p.type with
  | none => rfl
  | some pointee =>
    simp only [Option.map_some, isChar_foldCase]
    split_ifs <;> rfl

variable {params : List Param}

theorem map_place_foldType (isExcluded : Bool) (h : ∀ p ∈ params, CaseFree p.type) :
    (params.map Param.foldType).map (place isExcluded) =
      (params.map (place isExcluded)).map (Sum.map Param.foldType foldCase) := by
  rw [List.map_map, List.map_map]
  refine List.map_congr_left fun p hp => ?_
  rw [Function.comp_apply, Function.comp_apply, place_foldType isExcluded (h p hp)]

theorem kept_foldType (isExcluded : Bool) (h : ∀ p ∈ params, CaseFree p.type) :
    kept isExcluded (params.map Param.foldType) = (kept isExcluded params).map Param.foldType := by
  rw [kept_eq_filterMap, map_place_foldType isExcluded h, kept_eq_filterMap, List.filterMap_map,
    List.map_filterMap]
  exact List.filterMap_congr fun side _ => Sum.getLeft?_map _ _ side

theorem promoted_foldType (isExcluded : Bool) (h : ∀ p ∈ params, CaseFree p.type) :
    promoted isExcluded (params.map Param.foldType) =
      (promoted isExcluded params).map foldCase := by
  rw [promoted_eq_filterMap, map_place_foldType isExcluded h, promoted_eq_filterMap,
    List.filterMap_map, List.map_filterMap]
  exact List.filterMap_congr fun side _ => Sum.getRight?_map _ _ side

variable {n : Native}

theorem declaredResult_foldTypes (n : Native) :
    n.foldTypes.declaredResult = foldCase n.declaredResult := by
  have hvoid : foldCase voidToken = voidToken := by decide +kernel
  unfold Native.declaredResult Native.foldTypes
  cases n.results with
  | none => exact hvoid.symm
  | some result =>
    simp only [Option.map_some, allBlank_foldCase]
    split_ifs
    · exact hvoid.symm
    · rfl

theorem caseFree_declaredResult (h : ∀ token ∈ n.results, CaseFree token) :
    CaseFree n.declaredResult := by
  have hvoid : CaseFree voidToken := by decide +kernel
  unfold Native.declaredResult
  cases hresult : n.results with
  | none => exact hvoid
  | some result =>
    dsimp only
    split_ifs
    · exact hvoid
    · exact h result hresult

theorem declared_foldTypes (h : ∀ token ∈ n.results, CaseFree token) :
    declared n.foldTypes = foldCase (declared n) := by
  have hfree := caseFree_declaredResult h
  rw [declared, declared, declaredResult_foldTypes, disambiguate_of_caseFree hfree,
    disambiguate_of_caseFree (caseFree_foldCase_iff.mpr hfree), strip_foldCase hfree]

end Promotion

namespace Generator

variable (g : Generator) {n : Native}

theorem arguments_foldTypes (identifier : String) (h : ∀ p ∈ n.params, CaseFree p.type) :
    g.arguments identifier n.foldTypes = g.arguments identifier n := by
  have hkept : Promotion.kept (identifier ∈ g.exclusions) n.foldTypes.params =
      (Promotion.kept (identifier ∈ g.exclusions) n.params).map Param.foldType :=
    Promotion.kept_foldType _ h
  rw [arguments, hkept, List.map_map]
  refine List.map_congr_left fun p _ => ?_
  rw [Function.comp_apply, Param.foldType, ofToken_foldCase]

theorem values_foldTypes (identifier : String) (hparams : ∀ p ∈ n.params, CaseFree p.type)
    (hresults : ∀ token ∈ n.results, CaseFree token) :
    g.values identifier n.foldTypes = g.values identifier n := by
  have hpromoted : Promotion.promoted (identifier ∈ g.exclusions) n.foldTypes.params =
      (Promotion.promoted (identifier ∈ g.exclusions) n.params).map foldCase :=
    Promotion.promoted_foldType _ hparams
  have htypes (tokens : List String) : (tokens.map foldCase).map ofToken = tokens.map ofToken := by
    rw [List.map_map]
    refine List.map_congr_left fun token _ => ?_
    rw [Function.comp_apply, ofToken_foldCase]
  rw [values, Promotion.declared_foldTypes hresults, hpromoted, ofToken_foldCase, htypes, values]

theorem header_foldTypes (name identifier : String) (n : Native) :
    (g.declaration name identifier n.foldTypes).header g.style =
      (g.declaration name identifier n).header g.style := by
  rw [declaration_eq, declaration_eq, Declaration.header, Declaration.header]
  rfl

theorem declare_foldRecord {name key : String} {record : Value}
    (hn : Native.ofRecord record = .ok n) (hfree : ∀ token ∈ n.typeTokens, CaseFree token) :
    g.declare name key (Native.foldRecord record) = g.declare name key record := by
  have hresults : ∀ token ∈ n.results, CaseFree token := fun token htoken =>
    hfree token (List.mem_append_left _ (Option.mem_toList.mpr htoken))
  have hparams : ∀ p ∈ n.params, CaseFree p.type := fun p hp =>
    hfree p.type (List.mem_append_right _ (List.mem_map_of_mem hp))
  have htext (identifier : String) : (g.declaration name identifier n.foldTypes).text g.style =
      (g.declaration name identifier n).text g.style := by
    have hdescription : n.foldTypes.description = n.description := rfl
    have haliases : n.foldTypes.allAliases = n.allAliases := rfl
    rw [text_declaration, text_declaration, g.arguments_foldTypes identifier hparams,
      g.values_foldTypes identifier hparams hresults, header_foldTypes, hdescription, haliases]
  have hidentifier : identifier? n.foldTypes key = identifier? n key := rfl
  rw [declare, declare, Native.ofRecord_foldRecord, hn]
  simp only [Except.map, hidentifier, htext]

/-- The letter case of type tokens that have no `object` and no `const` in them does not show.
Records that differ in it alone declare the same text under the same identifier. -/
theorem declare_eq_of_foldRecord_eq {name key : String} {record record' : Value}
    (hn : Native.ofRecord record = .ok n) (hfree : ∀ token ∈ n.typeTokens, CaseFree token)
    (hsame : Native.foldRecord record = Native.foldRecord record') {declared : String × String}
    (h : g.declare name key record = .ok declared) :
    g.declare name key record' = .ok declared := by
  -- The types of both natives are the same in lower case.
  have hfold : (Native.ofRecord record').map Native.foldTypes = .ok n.foldTypes := by
    rw [← Native.ofRecord_foldRecord, ← hsame, Native.ofRecord_foldRecord, hn]
    rfl
  obtain ⟨n', hn', hn'n⟩ := map_eq_ok_iff.mp hfold
  have hfree' : ∀ token ∈ n'.typeTokens, CaseFree token := by
    intro token htoken
    have hlower : foldCase token ∈ n.typeTokens.map foldCase := by
      rw [← Native.typeTokens_foldTypes, ← hn'n, Native.typeTokens_foldTypes]
      exact List.mem_map_of_mem htoken
    obtain ⟨token', htoken', hsame⟩ := List.mem_map.mp hlower
    exact caseFree_foldCase_iff.mp (hsame ▸ caseFree_foldCase_iff.mpr (hfree token' htoken'))
  rw [← g.declare_foldRecord hn' hfree', ← hsame, g.declare_foldRecord hn hfree, h]

/-- A record with capital letters in its types. -/
def capitalRecord : Value :=
  .object [("name", .string "GET_POINT"), ("return_type", .string "VOID"),
    ("params", .array [.array [.string "point", .string "VECTOR3*"],
      .object [("type", .string "Char *"), ("name", .string "label")],
      .array [.string "index", .string "int"]])]

def capitalNative : Native :=
  { name := some "GET_POINT"
    params := [⟨"point", "VECTOR3*"⟩, ⟨"label", "Char *"⟩, ⟨"index", "int"⟩]
    results := some "VOID" }

/-- The same record with other capital letters. -/
def smallRecord : Value :=
  .object [("name", .string "GET_POINT"), ("return_type", .string "void"),
    ("params", .array [.array [.string "point", .string "Vector3*"],
      .object [("type", .string "char *"), ("name", .string "label")],
      .array [.string "index", .string "INT"]])]

/-- A result that is no `void` to promotion is dropped from the line of values all the same. -/
theorem declare_eq_of_foldRecord_eq_capital :
    (∀ token ∈ capitalNative.typeTokens, CaseFree token) ∧
      (Promotion.ofNative [] capitalNative "GetPoint").returns = ["VOID", "VECTOR3"] ∧
      ∃ declared, (Config.generator {}).declare "NS" "0x1" capitalRecord = .ok declared ∧
        (Config.generator {}).declare "NS" "0x1" smallRecord = .ok declared := by
  have hn : Native.ofRecord capitalRecord = .ok capitalNative := rfl
  have hfree : ∀ token ∈ capitalNative.typeTokens, CaseFree token := by decide +kernel
  have hsame : Native.foldRecord capitalRecord = Native.foldRecord smallRecord := by
    simp [capitalRecord, smallRecord, Native.foldRecord, Native.foldField, Native.foldParams,
      Param.foldItem, Param.foldField, Fields.mapValues, foldValue]
    decide +kernel
  have hidentifier : identifier? capitalNative "0x1" = some "GetPoint" := by decide +kernel
  have hdeclared : (Config.generator {}).declare "NS" "0x1" capitalRecord = .ok ("GetPoint", _) :=
    ((Config.generator {}).declare_eq_ok_iff "GetPoint").mpr ⟨capitalNative, hn, hidentifier, rfl⟩
  exact ⟨hfree, by decide +kernel, _, hdeclared,
    declare_eq_of_foldRecord_eq _ hn hfree hsame hdeclared⟩

end Generator

end NativeStubs
