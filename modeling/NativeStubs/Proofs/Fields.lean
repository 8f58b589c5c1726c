import Mathlib.Data.List.Nodup
import NativeStubs.Native.Revision

/-! # Lookup in fields

Where keys are distinct the order of fields does not matter to lookup. Renaming a field moves
fields around, but what is read under each key is what a renaming in place would give.
-/

namespace NativeStubs

namespace Fields

variable {α : Type} {fields fields' : Fields α} {k old new : String} {v : α}

theorem get?_cons (key : String) (value : α) (rest : Fields α) (k : String) :
    get? ((key, value) :: rest) k = if key = k then some value else get? rest k := rfl

theorem mem_keys_of_mem (h : (k, v) ∈ fields) : k ∈ fields.keys :=
  List.mem_map_of_mem h

theorem get?_eq_none_iff : fields.get? k = none ↔ k ∉ fields.keys := by
  induction fields with
  | nil => simp [keys]
  | cons field rest ih =>
    obtain ⟨key, value⟩ := field
    rw [get?_cons]
    split_ifs with h
    · simp [keys, h]
    · rw [ih]
      simp [keys, Ne.symm h]

theorem mem_of_get?_eq_some (h : fields.get? k = some v) : (k, v) ∈ fields := by
  induction fields with
  | nil => cases h
  | cons field rest ih =>
    obtain ⟨key, value⟩ := field
    rw [get?_cons] at h
    split_ifs at h with hk
    · cases h
      subst hk
      exact List.mem_cons_self
    · exact List.mem_cons_of_mem _ (ih h)

theorem get?_eq_some_iff (hn : fields.keys.Nodup) : fields.get? k = some v ↔ (k, v) ∈ fields := by
  refine ⟨mem_of_get?_eq_some, fun h => ?_⟩
  cases hk : fields.get? k with
  | none => exact absurd (mem_keys_of_mem h) (get?_eq_none_iff.mp hk)
  | some value =>
    have he := List.inj_on_of_nodup_map hn (mem_of_get?_eq_some hk) h rfl
    rw [(Prod.mk.inj he).2]

theorem get?_filter (p : String → Bool) (fields : Fields α) (k : String) :
    get? (fields.filter fun field => p field.1) k = if p k then fields.get? k else none := by
  induction fields with
  | nil => simp
  | cons field rest ih =>
    obtain ⟨key, v⟩ := field
    by_cases hkey : key = k
    · subst hkey
      by_cases hp : p key <;> simp [hp, get?_cons, ih]
    · by_cases hp : p key <;> simp [hp, get?_cons, hkey, ih]

theorem get?_map {β : Type} (f : α → β) (fields : Fields α) (k : String) :
    get? (fields.map fun field => (field.1, f field.2)) k = (fields.get? k).map f := by
  induction fields with
  | nil => rfl
  | cons field rest ih =>
    rw [List.map_cons, get?_cons, get?_cons, ih]
    split_ifs <;> rfl

theorem keys_perm (h : fields.Perm fields') : fields.keys.Perm fields'.keys := h.map Prod.fst

theorem get?_perm (h : fields.Perm fields') (hn : fields.keys.Nodup) (k : String) :
    fields.get? k = fields'.get? k := by
  ext v
  rw [get?_eq_some_iff hn, get?_eq_some_iff ((keys_perm h).nodup_iff.mp hn), h.mem_iff]

/-- A field under its new name, if it has the old one. -/
def renamed (old new : String) (field : String × α) : String × α :=
  (if field.1 = old then new else field.1, field.2)

theorem renamed_of_ne {field : String × α} (h : field.1 ≠ old) : renamed old new field = field := by
  simp [renamed, h]

theorem map_renamed_of_notMem (h : old ∉ fields.keys) :
    fields.map (renamed old new) = fields := by
  refine (List.map_congr_left fun field hf => ?_).trans (List.map_id _)
  exact renamed_of_ne fun he => h (he ▸ mem_keys_of_mem hf)

theorem get?_map_renamed (hne : old ≠ new) (h : fields.get? new = none) (k : String) :
    get? (fields.map (renamed old new)) k =
      if k = new then fields.get? old else if k = old then none else fields.get? k := by
  induction fields with
  | nil => simp
  | cons field rest ih =>
    obtain ⟨key, value⟩ := field
    rw [get?_cons] at h
    split_ifs at h with hkey
    rw [List.map_cons, renamed, get?_cons, ih h, get?_cons, get?_cons]
    by_cases ho : key = old
    · subst ho
      by_cases hk : k = new
      · simp [hk]
      · by_cases hk' : k = key
        · simp [hk', hne, Ne.symm hne]
        · simp [hk, hk', Ne.symm hk, Ne.symm hk']
    · by_cases hk : k = new
      · simp [hk, ho, hkey]
      · by_cases hk' : k = old <;> simp [hk, hk', ho]

/-- Renames a field in place, unless the new name is taken. -/
def respell (fields : Fields α) (old new : String) : Fields α :=
  if (fields.get? new).isSome then fields else fields.map (renamed old new)

theorem get?_respell (fields : Fields α) (hne : old ≠ new) (k : String) :
    (fields.respell old new).get? k =
      if (fields.get? new).isSome then fields.get? k
      else if k = new then fields.get? old
      else if k = old then none
      else fields.get? k := by
  unfold respell
  split_ifs with h <;> try rfl
  all_goals
    rw [get?_map_renamed hne (by simpa using h)]
    simp [*]

theorem get?_respell_of_ne (fields : Fields α) (hne : old ≠ new) (hold : k ≠ old) (hnew : k ≠ new) :
    (fields.respell old new).get? k = fields.get? k := by
  rw [get?_respell _ hne, if_neg hnew, if_neg hold, ite_self]

theorem nodup_keys_respell (hn : fields.keys.Nodup) (old new : String) :
    (fields.respell old new).keys.Nodup := by
  unfold respell
  split_ifs with h
  · exact hn
  · have hnew : new ∉ fields.keys := get?_eq_none_iff.mp (by simpa using h)
    have hk : keys (fields.map (renamed old new)) =
        fields.keys.map fun key => if key = old then new else key := by
      simp [keys, renamed, Function.comp_def]
    rw [hk]
    refine List.Nodup.map_on ?_ hn
    intro key hkey key' hkey' he
    -- Only one key can become the new name, which is the name of no other field.
    split_ifs at he with ho ho'
    · rw [ho, ho']
    · exact absurd (he ▸ hkey') hnew
    · exact absurd (he ▸ hkey) hnew
    · exact he

theorem lastToFront_perm (l : List (String × α)) : (lastToFront l).Perm l := by
  unfold lastToFront
  cases h : l.getLast? with
  | none => simp [List.getLast?_eq_none_iff.mp h]
  | some last =>
    obtain ⟨front, rfl⟩ := List.getLast?_eq_some_iff.mp h
    simpa using (List.perm_append_singleton last front).symm

theorem swapTake?_eq_none_iff : fields.swapTake? k = none ↔ fields.get? k = none := by
  induction fields with
  | nil => simp [swapTake?]
  | cons field rest ih =>
    obtain ⟨key, value⟩ := field
    rw [swapTake?, get?_cons]
    split_ifs <;> simp [ih]

/-- What is taken out and what is left make up the fields. -/
theorem perm_of_swapTake? {others : Fields α} (h : fields.swapTake? k = some (v, others)) :
    fields.Perm ((k, v) :: others) := by
  induction fields generalizing others with
  | nil => cases h
  | cons field rest ih =>
    obtain ⟨key, value⟩ := field
    rw [swapTake?] at h
    split_ifs at h with hk
    · cases h
      subst hk
      exact (lastToFront_perm rest).symm.cons _
    · obtain ⟨⟨w, rest'⟩, hrest, he⟩ := Option.map_eq_some_iff.mp h
      cases he
      exact ((ih hrest).cons _).trans (List.Perm.swap _ _ _)

theorem insert_of_get?_eq_none (h : fields.get? k = none) (v : α) :
    fields.insert k v = fields ++ [(k, v)] := by
  induction fields with
  | nil => rfl
  | cons field rest ih =>
    obtain ⟨key, value⟩ := field
    rw [get?_cons] at h
    split_ifs at h with hk
    simp [insert, hk, ih h]

theorem get?_eq_none_of_nodup {additions : Fields α}
    (hn : (keys (fields ++ (k, v) :: additions)).Nodup) : fields.get? k = none := by
  simp only [keys, List.map_append, List.map_cons] at hn
  obtain ⟨-, -, hne⟩ := List.nodup_append.mp hn
  exact get?_eq_none_iff.mpr fun hk => hne k hk k List.mem_cons_self rfl

theorem extend_of_nodup (additions : Fields α) (hn : (keys (fields ++ additions)).Nodup) :
    fields.extend additions = fields ++ additions := by
  induction additions generalizing fields with
  | nil => simp
  | cons field rest ih =>
    obtain ⟨k, v⟩ := field
    rw [extend_cons, insert_of_get?_eq_none (get?_eq_none_of_nodup hn), ih]
    · simp
    · simpa using hn

theorem ofList_of_nodup (hn : fields.keys.Nodup) : ofList fields = fields :=
  extend_of_nodup fields hn

/-- Renaming moves fields around and changes the one name. -/
theorem rename_perm_respell (hn : fields.keys.Nodup) (old new : String) :
    (fields.rename old new).Perm (fields.respell old new) := by
  unfold rename respell
  split_ifs with h
  · exact List.Perm.refl _
  · cases hs : fields.swapTake? old with
    | none =>
      have ho : old ∉ fields.keys := get?_eq_none_iff.mp (swapTake?_eq_none_iff.mp hs)
      rw [map_renamed_of_notMem ho]
    | some taken =>
      obtain ⟨value, others⟩ := taken
      have hp := perm_of_swapTake? hs
      have hno : others.keys.Nodup ∧ old ∉ others.keys := by
        have hn' := (keys_perm hp).nodup_iff.mp hn
        exact ⟨(List.nodup_cons.mp hn').2, (List.nodup_cons.mp hn').1⟩
      have hnew : others.get? new = none := by
        refine get?_eq_none_iff.mpr fun hm => h ?_
        rw [Option.isSome_iff_ne_none, ne_eq, get?_eq_none_iff, not_not]
        exact (keys_perm hp).mem_iff.mpr (List.mem_cons_of_mem _ hm)
      calc others.insert new value
          = others ++ [(new, value)] := insert_of_get?_eq_none hnew value
        List.Perm _ ((new, value) :: others) := List.perm_append_singleton _ _
        _ = ((old, value) :: others).map (renamed old new) := by
          simp [map_renamed_of_notMem hno.2, renamed]
        List.Perm _ (fields.map (renamed old new)) := (hp.map _).symm

theorem respell_perm (h : fields.Perm fields') (hn : fields.keys.Nodup) (old new : String) :
    (fields.respell old new).Perm (fields'.respell old new) := by
  unfold respell
  rw [get?_perm h hn new]
  split_ifs
  · exact h
  · exact h.map _

theorem nodup_keys_rename (hn : fields.keys.Nodup) (old new : String) :
    (fields.rename old new).keys.Nodup :=
  (keys_perm (rename_perm_respell hn old new)).nodup_iff.mpr (nodup_keys_respell hn old new)

/-- The record with the field names of today, every field in its place. -/
theorem modernize_perm (hn : fields.keys.Nodup) :
    fields.modernize.Perm
      ((fields.respell "comment" "description").respell "return_type" "results") :=
  have hc := rename_perm_respell hn "comment" "description"
  have hn' := nodup_keys_rename hn "comment" "description"
  (rename_perm_respell hn' "return_type" "results").trans (respell_perm hc hn' _ _)

theorem nodup_keys_modernize (hn : fields.keys.Nodup) : fields.modernize.keys.Nodup :=
  nodup_keys_rename (nodup_keys_rename hn _ _) _ _

theorem get?_modernize (hn : fields.keys.Nodup) (k : String) :
    fields.modernize.get? k =
      ((fields.respell "comment" "description").respell "return_type" "results").get? k :=
  get?_perm (modernize_perm hn) (nodup_keys_modernize hn) k

end Fields

end NativeStubs
