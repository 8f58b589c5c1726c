import NativeStubs.Proofs.OneLine
import NativeStubs.Proofs.Visibility

/-! # The lines of a declaration

A declaration is made of rows: the header, the description, a row for each argument, at most one
for the values returned, the function and three rows for each alias. If no name in it has a line
feed, the rows are the lines of its text, whatever the description is.
-/

namespace NativeStubs

namespace Text

variable {rows : List String}

/-- The text of some rows, with a line feed after each. -/
def unlines (rows : List String) : String := String.join (rows.map (· ++ "\n"))

@[simp] theorem unlines_nil : unlines [] = "" := rfl

@[simp] theorem unlines_cons (row : String) (rows : List String) :
    unlines (row :: rows) = row ++ "\n" ++ unlines rows := by
  simp only [unlines, List.map_cons, String.join_cons]

theorem unlines_append (rows rows' : List String) :
    unlines (rows ++ rows') = unlines rows ++ unlines rows' := by
  simp [unlines]

theorem unlines_flatMap {α : Type} (rows : α → List String) (xs : List α) :
    unlines (xs.flatMap rows) = String.join (xs.map fun x => unlines (rows x)) := by
  induction xs with
  | nil => rfl
  | cons x xs ih => rw [List.flatMap_cons, unlines_append, ih, List.map_cons, String.join_cons]

theorem lines_unlines (h : ∀ row ∈ rows, OneLine row.toList) :
    lines (unlines rows).toList = (rows ++ [""]).map String.toList := by
  have hchars : (unlines rows).toList = (rows.map String.toList).flatMap (· ++ ['\n']) := by
    simp [unlines, List.flatMap_map]
  rw [hchars, lines_flatMap (by simpa using h), List.map_append]
  rfl

theorem oneLine_intercalate {sep : List Char} {parts : List (List Char)} (hsep : OneLine sep)
    (h : ∀ part ∈ parts, OneLine part) : OneLine (List.intercalate sep parts) := by
  induction parts with
  | nil => exact oneLine_nil
  | cons part rest ih =>
    obtain ⟨hpart, hrest⟩ := List.forall_mem_cons.mp h
    cases rest with
    | nil => simpa using hpart
    | cons next rest =>
      rw [List.intercalate_cons_cons, oneLine_append, oneLine_append]
      exact ⟨⟨hpart, hsep⟩, ih hrest⟩

theorem oneLine_joined {parts : List String} (h : ∀ part ∈ parts, OneLine part.toList) :
    OneLine (String.intercalate ", " parts).toList := by
  rw [String.toList_intercalate]
  exact oneLine_intercalate (by simp) (List.forall_mem_map.mpr h)

end Text

open Text

theorem Alias.exists_of_mem_identifiers {canonical former : String} {names : List String}
    (h : former ∈ identifiers canonical names) : ∃ name ∈ names, former = Identifier.ofName name := by
  obtain ⟨-, name, hname, -, he⟩ := mem_identifiers_iff.mp h
  exact ⟨name, hname, he.symm⟩

/-- Each parameter that is kept has the name of a parameter that was declared. -/
theorem Promotion.exists_of_mem_kept {excluded : Bool} {params : List Param} {p : Param}
    (h : p ∈ kept excluded params) : ∃ declared ∈ params, p.name = declared.name := by
  obtain ⟨declared, hdeclared, hplace⟩ := List.mem_filterMap.mp h
  refine ⟨declared, hdeclared, ?_⟩
  have hinl : place excluded declared = .inl p := Sum.getLeft?_eq_some_iff.mp hplace
  unfold place at hinl
  dsimp only at hinl
  split at hinl
  · exact (congrArg Param.name (Sum.inl.inj hinl)).symm
  · split_ifs at hinl
    exact (congrArg Param.name (Sum.inl.inj hinl)).symm

namespace Declaration

/-- The two rows above the description. -/
def headerRows (style : Style) (d : Declaration) : List String :=
  ["---**`" ++ d.namespaceName ++ "` `" ++ d.apiset.getD style.defaultApiset ++ "`**  ",
   "---[Native Documentation](" ++ style.linkBase ++ d.hash ++ ")  "]

/-- The description, or what stands for it, line by line. -/
def descriptionPieces (description : Option String) : List String :=
  (Text.lines (shownDescription description).toList).map String.ofList

def argumentRow (argument : String × TypeName) : String :=
  "---@param " ++ argument.1 ++ " " ++ argument.2.text

/-- The row for the values returned, if there are any. -/
def valueRows (values : List TypeName) : List String :=
  if values = [] then []
  else ["---@return " ++ String.intercalate ", " (values.map TypeName.text)]

def functionRow (identifier : String) (arguments : List (String × TypeName)) : String :=
  "function " ++ identifier ++ "(" ++ String.intercalate ", " (arguments.map Prod.fst) ++ ") end"

/-- The rows that bind an earlier identifier. -/
def aliasRows (identifier former : String) : List String :=
  ["", "---@deprecated", former ++ " = " ++ identifier]

/-- The rows of a declaration, with an empty one at the end. -/
def rows (header description : List String) (arguments : List (String × TypeName))
    (values : List TypeName) (identifier : String) (formers : List String) : List String :=
  header ++ description.map ("---" ++ ·) ++ arguments.map argumentRow ++ valueRows values ++
    [functionRow identifier arguments] ++ formers.flatMap (aliasRows identifier) ++ [""]

theorem header_eq_unlines (style : Style) (d : Declaration) :
    d.header style = unlines (d.headerRows style) := by
  have hfirst : "`**  \n" = "`**  " ++ "\n" := by decide
  have hsecond : ")  \n" = ")  " ++ "\n" := by decide
  unfold header headerRows
  rw [hfirst, hsecond]
  simp only [unlines_cons, unlines_nil, String.append_assoc, String.append_empty]

theorem descriptionLines_eq_unlines (description : Option String) :
    descriptionLines description = unlines ((descriptionPieces description).map ("---" ++ ·)) := by
  unfold descriptionLines descriptionPieces unlines
  rw [List.map_map, List.map_map]
  rfl

theorem lines_eq_unlines (identifier : String) (arguments : List (String × TypeName))
    (values : List TypeName) :
    Signature.lines identifier arguments values =
      unlines (arguments.map argumentRow) ++ unlines (valueRows values) ++
        unlines [functionRow identifier arguments] := by
  have harguments : unlines (arguments.map argumentRow) =
      String.join (arguments.map fun argument => argumentRow argument ++ "\n") := by
    rw [unlines, List.map_map]
    rfl
  have hvalues : (if values = [] then ""
      else "---@return " ++ String.intercalate ", " (values.map TypeName.text) ++ "\n") =
        unlines (valueRows values) := by
    unfold valueRows
    split_ifs <;> simp only [unlines_cons, unlines_nil, String.append_empty]
  have hlines : Signature.lines identifier arguments values =
      String.join (arguments.map fun argument => argumentRow argument ++ "\n") ++
        (if values = [] then ""
          else "---@return " ++ String.intercalate ", " (values.map TypeName.text) ++ "\n") ++
        "function " ++ identifier ++ "(" ++ String.intercalate ", " (arguments.map Prod.fst) ++
        ") end" ++ "\n" := rfl
  rw [hlines, ← harguments, hvalues, functionRow]
  simp only [unlines_cons, unlines_nil, String.append_assoc, String.append_empty]

theorem unlines_aliasRows (identifier former : String) :
    unlines (aliasRows identifier former) = Alias.bindingText identifier former := by
  have hmark : "\n---@deprecated\n" = "" ++ "\n" ++ ("---@deprecated" ++ "\n") := by decide
  unfold Alias.bindingText aliasRows
  rw [hmark]
  simp only [unlines_cons, unlines_nil, String.append_assoc, String.append_empty]

theorem block_eq_unlines (identifier : String) (names : List String) :
    (Alias.block? identifier names).getD "" =
      unlines ((Alias.identifiers identifier names).flatMap (aliasRows identifier)) := by
  rw [unlines_flatMap, Alias.block?]
  simp only [unlines_aliasRows]
  cases Alias.identifiers identifier names <;> rfl

section Description

variable {description : Option String} {s : String}

theorem intercalate_descriptionPieces (h : Text.allBlank s = false) :
    String.intercalate "\n" (descriptionPieces (some s)) = s := by
  have hshown : shownDescription (some s) = s := by simp [shownDescription, h]
  refine String.toList_inj.mp ?_
  rw [descriptionPieces, hshown, String.toList_intercalate, List.map_map]
  have hchars : (Text.lines s.toList).map (String.toList ∘ String.ofList) = Text.lines s.toList :=
    (List.map_congr_left fun _ _ => String.toList_ofList).trans (List.map_id _)
  rw [hchars]
  exact intercalate_lines s.toList

theorem descriptionPieces_of_blank (h : description.all Text.allBlank = true) :
    descriptionPieces description = [missingDescription] := by
  have hshown : shownDescription description = missingDescription := by
    cases description with
    | none => rfl
    | some s => exact if_pos h
  have hline : OneLine missingDescription.toList := by simp [missingDescription]
  rw [descriptionPieces, hshown, lines_of_oneLine hline, List.map_singleton, String.ofList_toList]

end Description

section FunctionRow

/-- Whether a line starts a function. -/
def startsFunction (line : List Char) : Bool := "function ".toList.isPrefixOf line

theorem startsFunction_of_head? {line : List Char} (h : line.head? ≠ some 'f') :
    startsFunction line = false := by
  cases line with
  | nil => rfl
  | cons c line =>
    have hc : ('f' == c) = false := beq_eq_false_iff_ne.mpr fun he => h (he ▸ rfl)
    have hchars : "function ".toList = 'f' :: "unction ".toList := by simp
    rw [startsFunction, hchars, List.isPrefixOf_cons_cons, hc, Bool.false_and]

theorem startsFunction_functionRow (identifier : String)
    (arguments : List (String × TypeName)) :
    startsFunction (functionRow identifier arguments).toList = true := by
  simp [startsFunction, functionRow]

theorem toUpper_ne (c : Char) : c.toUpper ≠ 'f' := by
  intro he
  rcases toUpper_eq_or c with hsame | ⟨-, hhigh⟩
  · obtain rfl := hsame.symm.trans he
    exact absurd he (by decide)
  · rw [he] at hhigh
    exact absurd hhigh (by decide)

/-- An alias is an identifier, whose first letter is raised. -/
theorem startsFunction_aliasRows (identifier raw : String) :
    ∀ row ∈ aliasRows identifier (Identifier.ofName raw), startsFunction row.toList = false := by
  have hbinding : (Identifier.ofName raw ++ " = " ++ identifier).toList.head? ≠ some 'f' := by
    simp only [Identifier.ofName, Identifier.ofLower, String.toList_append, String.toList_ofList]
    cases Identifier.joinWords (Identifier.markHex (toLower raw.toList)) with
    | nil => simp [Identifier.raiseFirst]
    | cons c s => simpa [Identifier.raiseFirst] using toUpper_ne c
  simp only [aliasRows, List.forall_mem_cons, List.not_mem_nil, false_implies, implies_true,
    and_true]
  refine ⟨startsFunction_of_head? ?_, startsFunction_of_head? ?_,
    startsFunction_of_head? hbinding⟩ <;> simp

theorem countP_startsFunction_rows {style : Style} {d : Declaration} {identifier : String}
    (description : List String) (arguments : List (String × TypeName)) (values : List TypeName)
    {formers : List String}
    (h : ∀ former ∈ formers, ∃ raw, former = Identifier.ofName raw) :
    (rows (d.headerRows style) description arguments values identifier formers).countP
      (fun row => startsFunction row.toList) = 1 := by
  have hcomment {row : String} (hrow : row.toList.head? = some '-') :
      ¬ startsFunction row.toList = true := by
    rw [startsFunction_of_head? (by simp [hrow])]
    exact Bool.false_ne_true
  simp only [rows, List.countP_append, List.countP_singleton, startsFunction_functionRow, if_true]
  have hheader : (d.headerRows style).countP (fun row => startsFunction row.toList) = 0 :=
    List.countP_eq_zero.mpr (List.forall_mem_cons.mpr
      ⟨hcomment (by simp), List.forall_mem_singleton.mpr (hcomment (by simp))⟩)
  have hdescription : (description.map ("---" ++ ·)).countP
      (fun row => startsFunction row.toList) = 0 :=
    List.countP_eq_zero.mpr (List.forall_mem_map.mpr fun _ _ => hcomment (by simp))
  have harguments : (arguments.map argumentRow).countP (fun row => startsFunction row.toList) = 0 :=
    List.countP_eq_zero.mpr (List.forall_mem_map.mpr fun _ _ => hcomment (by simp [argumentRow]))
  have hvalues : (valueRows values).countP (fun row => startsFunction row.toList) = 0 := by
    refine List.countP_eq_zero.mpr fun row hrow => ?_
    unfold valueRows at hrow
    split_ifs at hrow
    · cases hrow
    · rw [List.mem_singleton.mp hrow]
      exact hcomment (by simp)
  have haliases : (formers.flatMap (aliasRows identifier)).countP
      (fun row => startsFunction row.toList) = 0 := by
    refine List.countP_eq_zero.mpr (List.forall_mem_flatMap.mpr fun former hformer row hrow => ?_)
    obtain ⟨raw, rfl⟩ := h former hformer
    rw [startsFunction_aliasRows identifier raw row hrow]
    exact Bool.false_ne_true
  have hend : startsFunction "".toList = false := startsFunction_of_head? (by simp)
  rw [hheader, hdescription, harguments, hvalues, haliases, hend]
  rfl

end FunctionRow

section Rows

variable {style : Style} {d : Declaration} {identifier : String}
  {arguments : List (String × TypeName)}

theorem oneLine_headerRows (hnamespace : OneLine d.namespaceName.toList)
    (hapiset : OneLine (d.apiset.getD style.defaultApiset).toList)
    (hlink : OneLine style.linkBase.toList) (hhash : OneLine d.hash.toList) :
    ∀ row ∈ d.headerRows style, OneLine row.toList := by
  simp [headerRows, hnamespace, hapiset, hlink, hhash]

theorem oneLine_of_mem_descriptionPieces {description : Option String} {piece : String}
    (h : piece ∈ descriptionPieces description) : OneLine piece.toList := by
  obtain ⟨line, hline, rfl⟩ := List.mem_map.mp h
  rw [String.toList_ofList]
  exact oneLine_of_mem_lines hline

theorem oneLine_text (t : TypeName) : OneLine t.text.toList := by
  cases t <;> simp [TypeName.text]

theorem oneLine_argumentRow {argument : String × TypeName} (h : OneLine argument.1.toList) :
    OneLine (argumentRow argument).toList := by
  simp [argumentRow, h, oneLine_text]

theorem oneLine_valueRows (values : List TypeName) :
    ∀ row ∈ valueRows values, OneLine row.toList := by
  have htypes : OneLine (String.intercalate ", " (values.map TypeName.text)).toList :=
    oneLine_joined (List.forall_mem_map.mpr fun t _ => oneLine_text t)
  unfold valueRows
  split_ifs <;> simp [htypes, -String.toList_intercalate]

theorem oneLine_functionRow (hidentifier : OneLine identifier.toList)
    (h : ∀ argument ∈ arguments, OneLine argument.1.toList) :
    OneLine (functionRow identifier arguments).toList := by
  have hnames : OneLine (String.intercalate ", " (arguments.map Prod.fst)).toList :=
    oneLine_joined (List.forall_mem_map.mpr h)
  simp [functionRow, hidentifier, hnames, -String.toList_intercalate]

theorem oneLine_aliasRows {former : String} (hidentifier : OneLine identifier.toList)
    (h : OneLine former.toList) : ∀ row ∈ aliasRows identifier former, OneLine row.toList := by
  simp [aliasRows, hidentifier, h]

end Rows

end Declaration

namespace Generator

open Declaration

variable (g : Generator) (name key identifier : String) (n : Native)

theorem text_eq_unlines :
    (g.declaration name identifier n).text g.style =
      unlines (rows ((g.declaration name identifier n).headerRows g.style)
        (descriptionPieces n.description) (g.arguments identifier n) (g.values identifier n)
        identifier (Alias.identifiers identifier n.allAliases)) := by
  have hdescription : descriptionLines n.description = _ := descriptionLines_eq_unlines _
  rw [text_declaration, header_eq_unlines, lines_eq_unlines, block_eq_unlines, hdescription, rows]
  simp only [unlines_append, unlines_cons, unlines_nil, String.append_assoc, String.append_empty,
    String.empty_append]

/-- No name in the declaration of a native has a line feed: not the namespace, the API set, the
link, the name or key that gives the identifier, the parameters or the earlier names. -/
structure NamesOneLine : Prop where
  namespaceName : OneLine (n.namespaceName.getD name).toList
  apiset : OneLine (n.apiset.getD g.style.defaultApiset).toList
  linkBase : OneLine g.style.linkBase.toList
  hash : OneLine n.hash.toList
  nameOrKey : ∀ raw, (n.name.bind nonempty?).or (nonempty? key) = some raw → OneLine raw.toList
  params : ∀ p ∈ n.params, OneLine p.name.toList
  earlierNames : ∀ former ∈ n.allAliases, OneLine former.toList

variable {g name key identifier n}

theorem NamesOneLine.oneLine_identifier (h : g.NamesOneLine name key n)
    (hidentifier : identifier? n key = some identifier) : OneLine identifier.toList := by
  obtain ⟨raw, hraw, rfl⟩ := Option.map_eq_some_iff.mp hidentifier
  exact Identifier.oneLine_ofName (h.nameOrKey raw hraw)

theorem NamesOneLine.oneLine_arguments (h : g.NamesOneLine name key n) (identifier : String) :
    ∀ argument ∈ g.arguments identifier n, OneLine argument.1.toList := by
  refine List.forall_mem_map.mpr fun p hp => g.style.reserved.oneLine_escape ?_
  obtain ⟨declared, hdeclared, hname⟩ := Promotion.exists_of_mem_kept hp
  exact hname ▸ h.params declared hdeclared

theorem NamesOneLine.oneLine_former (h : g.NamesOneLine name key n) {former : String}
    (hf : former ∈ Alias.identifiers identifier n.allAliases) : OneLine former.toList := by
  obtain ⟨raw, hraw, rfl⟩ := Alias.exists_of_mem_identifiers hf
  exact Identifier.oneLine_ofName (h.earlierNames raw hraw)

theorem NamesOneLine.oneLine_rows (h : g.NamesOneLine name key n)
    (hidentifier : identifier? n key = some identifier) :
    ∀ row ∈ rows ((g.declaration name identifier n).headerRows g.style)
      (descriptionPieces n.description) (g.arguments identifier n) (g.values identifier n)
      identifier (Alias.identifiers identifier n.allAliases), OneLine row.toList := by
  have hid := h.oneLine_identifier hidentifier
  have harguments := h.oneLine_arguments identifier
  simp only [rows, List.forall_mem_append, List.forall_mem_map, List.forall_mem_flatMap,
    List.forall_mem_singleton]
  refine ⟨⟨⟨⟨⟨⟨?_, ?_⟩, ?_⟩, ?_⟩, ?_⟩, ?_⟩, oneLine_nil⟩
  · exact oneLine_headerRows h.namespaceName h.apiset h.linkBase h.hash
  · intro piece hpiece
    rw [String.toList_append, oneLine_append]
    exact ⟨by simp, oneLine_of_mem_descriptionPieces hpiece⟩
  · exact fun argument hargument => oneLine_argumentRow (harguments argument hargument)
  · exact oneLine_valueRows _
  · exact oneLine_functionRow hid harguments
  · exact fun former hformer => oneLine_aliasRows hid (h.oneLine_former hformer)

/-- The types that the signature of a native returns, without `void`. -/
theorem values_eq_filter (g : Generator) (identifier : String) (n : Native) :
    g.values identifier n =
      ((Promotion.ofNative g.exclusions n identifier).returns.map TypeName.ofToken).filter
        (· ≠ .void) := by
  rw [← filterMap_value?_signature, TypeName.filterMap_value?]
  rfl

/-- The lines of a declaration are its two header lines; the description line by line, or the one
line that stands for it; an argument line for each parameter that is kept, in call order; a line
for the values returned, if any type returned is not `void`; the one function line, which has the
names of the argument lines; three lines for each alias; and an empty line. Its last line feed ends
the text. -/
theorem lines_declare {text : String} {record : Json.Value}
    (h : g.declare name key record = .ok (identifier, text)) (hn : Native.ofRecord record = .ok n)
    (hnames : g.NamesOneLine name key n) :
    let promotion := Promotion.ofNative g.exclusions n identifier
    let arguments := promotion.params.map fun p =>
      (g.style.reserved.escape p.name, TypeName.ofToken p.type)
    let values := (promotion.returns.map TypeName.ofToken).filter (· ≠ .void)
    ∃ description : List String,
      Text.lines text.toList =
        (rows ((g.declaration name identifier n).headerRows g.style) description arguments values
          identifier (Alias.identifiers identifier n.allAliases) ++ [""]).map String.toList ∧
      (∀ s, n.description = some s → Text.allBlank s = false →
        String.intercalate "\n" description = s) ∧
      (n.description.all Text.allBlank = true → description = [missingDescription]) ∧
      (∀ piece ∈ description, OneLine piece.toList) ∧
      (Text.lines text.toList).countP startsFunction = 1 := by
  intro promotion arguments values
  obtain ⟨n', hn', hidentifier, rfl⟩ := (g.declare_eq_ok_iff identifier).mp h
  obtain rfl : n = n' := Except.ok.inj (hn.symm.trans hn')
  have harguments : g.arguments identifier n = arguments := by
    simp only [Generator.arguments, arguments, promotion, Promotion.ofNative_params]
  have hvalues : g.values identifier n = values := values_eq_filter g identifier n
  have hlines := lines_unlines (hnames.oneLine_rows hidentifier)
  rw [← text_eq_unlines, harguments, hvalues] at hlines
  refine ⟨descriptionPieces n.description, hlines, ?_, descriptionPieces_of_blank,
    fun piece => oneLine_of_mem_descriptionPieces, ?_⟩
  · intro s hs hblank
    rw [hs]
    exact intercalate_descriptionPieces hblank
  · have hformers : ∀ former ∈ Alias.identifiers identifier n.allAliases,
        ∃ raw, former = Identifier.ofName raw := fun former hformer =>
      (Alias.exists_of_mem_identifiers hformer).imp fun _ hraw => hraw.2
    rw [hlines, List.map_append, List.countP_append, List.countP_map]
    exact congrArg (· + 0) (countP_startsFunction_rows _ arguments values hformers)

/-- A record with a description of three lines, one of them empty, and two earlier names. -/
def documentedRecord : Json.Value :=
  .object [("name", .string "GET_COORDS"), ("results", .string "BOOL"), ("hash", .string "0x9"),
    ("description", .string "Gets coords.\n\n@param none"),
    ("params", .array [.array [.string "end", .string "Ped"],
      .array [.string "out", .string "Vector3*"]]),
    ("aliases", .array [.string "_COORDS", .string "0x1", .string "_coords"])]

def documentedNative : Native :=
  { name := some "GET_COORDS"
    results := some "BOOL"
    hash := "0x9"
    description := some "Gets coords.\n\n@param none"
    params := [⟨"end", "Ped"⟩, ⟨"out", "Vector3*"⟩]
    aliases := ["_COORDS", "0x1", "_coords"] }

theorem lines_declare_documented :
    (Config.generator {}).NamesOneLine "NS" "0x9" documentedNative ∧
      ∃ text, (Config.generator {}).declare "NS" "0x9" documentedRecord =
          .ok ("GetCoords", text) ∧
        ∃ description : List String,
          String.intercalate "\n" description = "Gets coords.\n\n@param none" ∧
          Text.lines text.toList =
            (rows ["---**`NS` `client`**  ",
                "---[Native Documentation](https://docs.fivem.net/natives/?_0x9)  "] description
              [("_end", .number)] [.boolean, .vector3] "GetCoords" ["Coords"] ++ [""]).map
              String.toList := by
  have hnames : (Config.generator {}).NamesOneLine "NS" "0x9" documentedNative :=
    { namespaceName := by decide +kernel
      apiset := by decide +kernel
      linkBase := by decide +kernel
      hash := by decide +kernel
      nameOrKey := by
        rintro raw ⟨⟩
        decide +kernel
      params := by decide +kernel
      earlierNames := by decide +kernel }
  have hn : Native.ofRecord documentedRecord = .ok documentedNative := rfl
  have hidentifier : identifier? documentedNative "0x9" = some "GetCoords" := by decide +kernel
  have hdeclared : (Config.generator {}).declare "NS" "0x9" documentedRecord =
      .ok ("GetCoords", _) :=
    ((Config.generator {}).declare_eq_ok_iff "GetCoords").mpr ⟨_, hn, hidentifier, rfl⟩
  obtain ⟨description, hlines, hdescription, -⟩ := lines_declare hdeclared hn hnames
  have harguments : (Promotion.ofNative (Config.generator {}).exclusions documentedNative
      "GetCoords").params.map (fun p =>
        ((Config.generator {}).style.reserved.escape p.name, TypeName.ofToken p.type)) =
      [("_end", .number)] := by decide +kernel
  have hvalues : ((Promotion.ofNative (Config.generator {}).exclusions documentedNative
      "GetCoords").returns.map TypeName.ofToken).filter (· ≠ .void) = [.boolean, .vector3] := by
    decide +kernel
  have haliases : Alias.identifiers "GetCoords" documentedNative.allAliases = ["Coords"] := by
    decide +kernel
  have hheader : ((Config.generator {}).declaration "NS" "GetCoords" documentedNative).headerRows
      (Config.generator {}).style = ["---**`NS` `client`**  ",
        "---[Native Documentation](https://docs.fivem.net/natives/?_0x9)  "] := by decide +kernel
  rw [harguments, hvalues, haliases, hheader] at hlines
  exact ⟨hnames, _, hdeclared, description, hdescription _ rfl (by decide +kernel), hlines⟩

end Generator

end NativeStubs
