import Mathlib.Tactic.SplitIfs
import NativeStubs.Command.Basic
import NativeStubs.Proofs.Except

/-! # Reading options

Options are read one argument at a time, up to a separator. A flag that is put among the options of
a command line that is accepted changes nothing but what the flag is for.
-/

namespace NativeStubs

namespace Argument

theorem ofText_eq_separator_iff {text : String} : ofText text = separator ↔ text = "--" := by
  have hlist : text = "--" ↔ text.toList = ['-', '-'] := by
    rw [← String.toList_inj]
    rfl
  rw [hlist, ofText]
  constructor
  · intro h
    split at h <;> first | assumption | cases h
  · intro h
    rw [h]
    rfl

end Argument

namespace OptionTable

variable {α : Type} (t : OptionTable α) {pending pending' : Option OptionName} {a a' : α}
  {text : String} {before rest : List String}

/-- Reads one argument that is not a separator. -/
def step : Option OptionName × α → String → Except Stop (Option OptionName × α)
  | (some option, a), text =>
    if (Argument.ofText text).isPlain then (none, ·) <$> t.setValue option text a
    else .error (.misuse (.missingValue option))
  | (none, a), text =>
    match t.resolve text (Argument.ofText text) with
    | .error fault => .error (.misuse fault)
    | .ok (option, value) =>
      if option.takesValue then
        match value with
        | none => .ok (some option, a)
        | some value => (none, ·) <$> t.setValue option value a
      else (none, ·) <$> t.setFlag option a

theorem read_cons (h : text ≠ "--") (rest : List String) :
    t.read pending a (text :: rest) =
      t.step (pending, a) text >>= fun (pending, a) => t.read pending a rest := by
  cases pending with
  | some option =>
    rw [read, step]
    split_ifs
    · cases t.setValue option text a <;> rfl
    · rfl
  | none =>
    have hargument : Argument.ofText text ≠ .separator := mt Argument.ofText_eq_separator_iff.mp h
    rw [read, step]
    · cases t.resolve text (Argument.ofText text) with
      | error fault => rfl
      | ok resolved =>
        obtain ⟨option, value⟩ := resolved
        dsimp only
        split_ifs
        · cases value with
          | none => rfl
          | some value =>
            dsimp only
            cases t.setValue option value a <;> rfl
        · cases t.setFlag option a <;> rfl
    · exact fun hseparator => absurd hseparator hargument
    · exact fun next tail hseparator => absurd hseparator hargument

theorem read_append (h : "--" ∉ before) (rest : List String) :
    t.read pending a (before ++ rest) =
      before.foldlM t.step (pending, a) >>= fun (pending, a) => t.read pending a rest := by
  induction before generalizing pending a with
  | nil => rfl
  | cons text before ih =>
    obtain ⟨htext, hbefore⟩ := List.ne_and_not_mem_of_not_mem_cons h
    rw [List.cons_append, t.read_cons htext.symm, List.foldlM_cons]
    cases t.step (pending, a) text with
    | error stop => rfl
    | ok next => exact ih hbefore

/-- Arguments that are accepted by themselves leave no option waiting for its value. -/
theorem read_append_of_read_eq_ok (h : "--" ∉ before)
    (hbefore : t.read pending a before = .ok a') (rest : List String) :
    t.read pending a (before ++ rest) = t.read none a' rest := by
  rw [← List.append_nil before, t.read_append h, bind_eq_ok_iff] at hbefore
  obtain ⟨⟨pending', a''⟩, hsteps, hend⟩ := hbefore
  rw [t.read_append h, hsteps]
  cases pending' with
  | some option => cases hend
  | none =>
    cases hend
    rfl

/-- Nothing is read after a separator. -/
theorem read_append_cons_ne_ok (h : "--" ∈ before) :
    t.read pending a (before ++ text :: rest) ≠ .ok a' := by
  induction before generalizing pending a with
  | nil => cases h
  | cons first before ih =>
    intro hread
    by_cases hfirst : first = "--"
    · subst hfirst
      cases pending with
      | some option => cases hread
      | none => cases before <;> cases hread
    · have hbefore := (List.mem_cons.mp h).resolve_left (Ne.symm hfirst)
      rw [List.cons_append, t.read_cons hfirst, bind_eq_ok_iff] at hread
      obtain ⟨_, -, hrest⟩ := hread
      exact ih hbefore hrest

/-- What precedes an option in arguments that are accepted is accepted by itself. -/
theorem read_before_option (htext : (Argument.ofText text).isPlain = false)
    (h : t.read pending a (before ++ text :: rest) = .ok a') :
    "--" ∉ before ∧ ∃ a'', t.read pending a before = .ok a'' := by
  have hbefore : "--" ∉ before := fun hmem => t.read_append_cons_ne_ok hmem h
  refine ⟨hbefore, ?_⟩
  rw [← List.append_nil before, t.read_append hbefore]
  rw [t.read_append hbefore, bind_eq_ok_iff] at h
  obtain ⟨⟨pending', a''⟩, hsteps, hrest⟩ := h
  cases pending' with
  | some option =>
    dsimp only at hrest
    rw [read, htext] at hrest
    cases hrest
  | none => exact ⟨a'', by rw [hsteps]; rfl⟩

end OptionTable

namespace GenerateOptions

variable {o a a' : GenerateOptions} {pending pending' : Option OptionName} {option : OptionName}
  {value text : String} {before rest : List String}

/-- The options of a dry run. -/
def dry (o : GenerateOptions) : GenerateOptions := { o with dryRun := true }

/-- An option other than the one for dry runs does the same in a dry run. -/
theorem set_dry (h : table.set option value a = .ok a') (hreal : a'.dryRun = false) :
    a.dryRun = false ∧ table.set option value a.dry = .ok a'.dry := by
  cases option with
  | input | url | init | help =>
    cases h
    exact ⟨hreal, rfl⟩
  | output | config =>
    simp only [table] at h
    split_ifs at h with hpresent
    cases h
    exact ⟨hreal, if_neg hpresent⟩
  | dryRun =>
    simp only [table] at h
    split_ifs at h
    cases h
    cases hreal

theorem mapError_set_dry (h : (table.set option value a).mapError Stop.misuse = .ok a')
    (hreal : a'.dryRun = false) :
    a.dryRun = false ∧ (table.set option value a.dry).mapError Stop.misuse = .ok a'.dry := by
  cases hset : table.set option value a with
  | error fault =>
    rw [hset] at h
    cases h
  | ok set =>
    rw [hset] at h
    cases h
    obtain ⟨hbefore, hdry⟩ := set_dry hset hreal
    exact ⟨hbefore, by rw [hdry]; rfl⟩

theorem setValue_dry (h : table.setValue option value a = .ok a') (hreal : a'.dryRun = false) :
    a.dryRun = false ∧ table.setValue option value a.dry = .ok a'.dry := by
  unfold OptionTable.setValue at h ⊢
  split_ifs at h ⊢
  exact mapError_set_dry h hreal

theorem setFlag_dry (h : table.setFlag option a = .ok a') (hreal : a'.dryRun = false) :
    a.dryRun = false ∧ table.setFlag option a.dry = .ok a'.dry := by
  unfold OptionTable.setFlag at h ⊢
  split_ifs at h ⊢
  exact mapError_set_dry h hreal

theorem step_dry (h : table.step (pending, a) text = .ok (pending', a'))
    (hreal : a'.dryRun = false) :
    a.dryRun = false ∧ table.step (pending, a.dry) text = .ok (pending', a'.dry) := by
  have hvalue {option : OptionName} {value : String}
      (h : (none, ·) <$> table.setValue option value a = .ok (pending', a')) :
      a.dryRun = false ∧
        (none, ·) <$> table.setValue option value a.dry = .ok (pending', a'.dry) := by
    obtain ⟨set, hset, hpair⟩ := map_eq_ok_iff.mp h
    cases hpair
    obtain ⟨hbefore, hdry⟩ := setValue_dry hset hreal
    exact ⟨hbefore, by rw [hdry]; rfl⟩
  cases pending with
  | some option =>
    rw [OptionTable.step] at h ⊢
    split_ifs at h ⊢
    exact hvalue h
  | none =>
    rw [OptionTable.step] at h ⊢
    cases hresolve : table.resolve text (Argument.ofText text) with
    | error fault =>
      rw [hresolve] at h
      cases h
    | ok resolved =>
      obtain ⟨option, value⟩ := resolved
      rw [hresolve] at h
      dsimp only at h ⊢
      split_ifs at h ⊢
      · cases value with
        | none =>
          cases h
          exact ⟨hreal, rfl⟩
        | some value => exact hvalue h
      · obtain ⟨set, hset, hpair⟩ := map_eq_ok_iff.mp h
        cases hpair
        obtain ⟨hbefore, hdry⟩ := setFlag_dry hset hreal
        exact ⟨hbefore, by rw [hdry]; rfl⟩

/-- What is read without the flag for dry runs is read in the same way after it. -/
theorem read_dry {arguments : List String} (h : table.read pending a arguments = .ok o)
    (hreal : o.dryRun = false) :
    a.dryRun = false ∧ table.read pending a.dry arguments = .ok o.dry := by
  induction arguments generalizing pending a with
  | nil =>
    cases pending with
    | some option => cases h
    | none =>
      cases h
      exact ⟨hreal, rfl⟩
  | cons text rest ih =>
    by_cases htext : text = "--"
    · subst htext
      cases pending with
      | some option => cases h
      | none =>
        cases rest with
        | nil =>
          cases h
          exact ⟨hreal, rfl⟩
        | cons next rest => cases h
    · rw [table.read_cons htext, bind_eq_ok_iff] at h
      obtain ⟨⟨pending', a'⟩, hstep, hrest⟩ := h
      obtain ⟨hreal', hdry⟩ := ih hrest
      obtain ⟨hbefore, hstep'⟩ := step_dry hstep hreal'
      exact ⟨hbefore, by rw [table.read_cons htext, hstep']; exact hdry⟩

end GenerateOptions

namespace Command

open GenerateOptions

variable {o a : GenerateOptions} {before after rest : List String}

theorem parse_generate_eq_ok_iff :
    parse ("generate" :: rest) = .ok (.generate o) ↔
      GenerateOptions.table.parse {} rest = .ok o := by
  change Except.map Command.generate (GenerateOptions.table.parse {} rest) = _ ↔ _
  rw [map_eq_ok_iff]
  constructor
  · rintro ⟨o', hread, heq⟩
    cases heq
    exact hread
  · exact fun hread => ⟨o, hread, rfl⟩

theorem step_dryRun (h : a.dryRun = false) :
    GenerateOptions.table.step (none, a) "--dry-run" = .ok (none, a.dry) := by
  have hresolve : GenerateOptions.table.resolve "--dry-run" (Argument.ofText "--dry-run") =
      .ok (.dryRun, none) := by decide
  have hset : GenerateOptions.table.set .dryRun "" a = .ok a.dry := by
    simp [GenerateOptions.table, h, dry]
  simp only [OptionTable.step, hresolve, OptionName.takesValue, OptionTable.setFlag, hset]
  rfl

/-- The flag for dry runs may stand anywhere among the options. -/
theorem parse_insert_dryRun
    (hparse : parse ("generate" :: (before ++ after)) = .ok (.generate o))
    (hreal : o.dryRun = false) (hbefore : GenerateOptions.table.parse {} before = .ok a)
    (hseparator : "--" ∉ before) :
    parse ("generate" :: (before ++ "--dry-run" :: after)) = .ok (.generate o.dry) := by
  rw [parse_generate_eq_ok_iff, OptionTable.parse] at hparse ⊢
  rw [OptionTable.read_append_of_read_eq_ok _ hseparator hbefore] at hparse ⊢
  obtain ⟨hfirst, hdry⟩ := read_dry hparse hreal
  rw [OptionTable.read_cons _ (by decide), step_dryRun hfirst]
  exact hdry

/-- Wherever the flag for dry runs is put, nothing else is asked for. -/
theorem parse_insert_dryRun_eq_ok {command : Command}
    (hparse : parse ("generate" :: (before ++ after)) = .ok (.generate o))
    (hreal : o.dryRun = false)
    (h : parse ("generate" :: (before ++ "--dry-run" :: after)) = .ok command) :
    command = .generate o.dry := by
  obtain ⟨o', hread, -⟩ := map_eq_ok_iff.mp h
  obtain ⟨hseparator, a, hbefore⟩ :=
    GenerateOptions.table.read_before_option (by decide) hread
  rw [parse_insert_dryRun hparse hreal hbefore hseparator] at h
  exact (Except.ok.inj h).symm

end Command

end NativeStubs
