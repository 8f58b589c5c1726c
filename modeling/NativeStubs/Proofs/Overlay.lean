import Mathlib.Data.List.Induction
import NativeStubs.Proofs.Fields

/-! # Fields laid over each other

Fields are known by their keys in order and the value under each key. Where rows of fields are laid
over each other, one extending the next, the keys stand in the order of their first appearance and
each has its last value.
-/

namespace NativeStubs

section EraseDups

variable {α : Type} [BEq α] [LawfulBEq α] {l m : List α} {a : α}

theorem eraseDups_concat (l : List α) (a : α) :
    (l ++ [a]).eraseDups = if a ∈ l then l.eraseDups else l.eraseDups ++ [a] := by
  rw [List.eraseDups_append]
  split_ifs with h <;> simp [List.removeAll, h, List.eraseDups_cons]

theorem nodup_eraseDups (l : List α) : l.eraseDups.Nodup := by
  induction l using List.reverseRecOn with
  | nil => simp
  | append_singleton l a ih =>
    rw [eraseDups_concat]
    split_ifs with h
    · exact ih
    · refine List.nodup_append.mpr ⟨ih, by simp, ?_⟩
      rintro b hb c hc rfl
      rw [List.mem_singleton] at hc
      exact h (hc ▸ List.mem_eraseDups.mp hb)

theorem eraseDups_of_nodup (h : l.Nodup) : l.eraseDups = l := by
  induction l using List.reverseRecOn with
  | nil => simp
  | append_singleton l a ih =>
    obtain ⟨hl, -, hne⟩ := List.nodup_append.mp h
    have ha : a ∉ l := fun ha => hne a ha a List.mem_cons_self rfl
    rw [eraseDups_concat, if_neg ha, ih hl]

/-- What has been dropped from a list drops out of any list that it begins. -/
theorem eraseDups_eraseDups_append (l m : List α) :
    (l.eraseDups ++ m).eraseDups = (l ++ m).eraseDups := by
  induction m using List.reverseRecOn with
  | nil => rw [List.append_nil, List.append_nil, eraseDups_of_nodup (nodup_eraseDups l)]
  | append_singleton m a ih =>
    rw [← List.append_assoc, ← List.append_assoc, eraseDups_concat, eraseDups_concat, ih]
    simp only [List.mem_append, List.mem_eraseDups]

theorem eraseDups_append_eraseDups (l m : List α) :
    (l ++ m.eraseDups).eraseDups = (l ++ m).eraseDups := by
  induction m using List.reverseRecOn with
  | nil => rfl
  | append_singleton m a ih =>
    rw [eraseDups_concat, ← List.append_assoc, eraseDups_concat, ← ih]
    split_ifs with hm hlm hlm
    · rfl
    · exact absurd (List.mem_append_right l hm) hlm
    · rw [← List.append_assoc, eraseDups_concat, if_pos]
      simpa using hlm
    · rw [← List.append_assoc, eraseDups_concat, if_neg]
      simpa using hlm

theorem eraseDups_append_of_subset (h : m ⊆ l) : (l ++ m).eraseDups = l.eraseDups := by
  induction m using List.reverseRecOn with
  | nil => rw [List.append_nil]
  | append_singleton m a ih =>
    obtain ⟨hm, ha⟩ := List.append_subset.mp h
    rw [← List.append_assoc, eraseDups_concat, ih hm, if_pos]
    exact List.mem_append_left m (ha List.mem_cons_self)

end EraseDups

namespace Fields

variable {α : Type} {fields fields' additions : Fields α} {k : String}
  (combine : Option α → α → α)

/-- Sets the value of a key to one that depends on the value it has. -/
def update (fields : Fields α) (field : String × α) : Fields α :=
  fields.insert field.1 (combine (fields.get? field.1) field.2)

def updateAll (fields additions : Fields α) : Fields α := additions.foldl (update combine) fields

theorem extend_eq_updateAll (fields additions : Fields α) :
    fields.extend additions = updateAll (fun _ v => v) fields additions := rfl

theorem updateAll_cons (fields : Fields α) (field : String × α) (rest : Fields α) :
    updateAll combine fields (field :: rest) =
      updateAll combine (update combine fields field) rest := rfl

theorem updateAll_concat (fields additions : Fields α) (field : String × α) :
    updateAll combine fields (additions ++ [field]) =
      update combine (updateAll combine fields additions) field := by
  simp [updateAll]

/-- The keys of both, in order of first appearance. -/
theorem keys_updateAll (hn : fields.keys.Nodup) (additions : Fields α) :
    (updateAll combine fields additions).keys = (fields.keys ++ additions.keys).eraseDups := by
  induction additions using List.reverseRecOn with
  | nil =>
    change fields.keys = (fields.keys ++ []).eraseDups
    rw [List.append_nil, eraseDups_of_nodup hn]
  | append_singleton additions field ih =>
    have hkeys : keys (additions ++ [field]) = keys additions ++ [field.1] := by simp [keys]
    rw [updateAll_concat, update, keys_insert, ih, hkeys, ← List.append_assoc, eraseDups_concat]
    simp only [List.mem_eraseDups]

theorem nodup_keys_updateAll (hn : fields.keys.Nodup) (additions : Fields α) :
    (updateAll combine fields additions).keys.Nodup :=
  keys_updateAll combine hn additions ▸ nodup_eraseDups _

theorem get?_updateAll (hn : additions.keys.Nodup) (fields : Fields α) (k : String) :
    (updateAll combine fields additions).get? k =
      (additions.get? k).elim (fields.get? k) fun v => some (combine (fields.get? k) v) := by
  induction additions generalizing fields with
  | nil => rfl
  | cons field rest ih =>
    obtain ⟨key, v⟩ := field
    obtain ⟨hkey, hrest⟩ := List.nodup_cons.mp hn
    rw [updateAll_cons, ih hrest, update, get?_insert, get?_cons]
    split_ifs with h
    · subst h
      rw [get?_eq_none_iff.mpr hkey]
      rfl
    · rfl

theorem keys_extend (hn : fields.keys.Nodup) (additions : Fields α) :
    (fields.extend additions).keys = (fields.keys ++ additions.keys).eraseDups := by
  rw [extend_eq_updateAll, keys_updateAll _ hn]

theorem get?_extend (hn : additions.keys.Nodup) (fields : Fields α) (k : String) :
    (fields.extend additions).get? k = (additions.get? k).or (fields.get? k) := by
  rw [extend_eq_updateAll, get?_updateAll _ hn]
  cases additions.get? k <;> rfl

/-- The fields with some keys, in their order, as far as there are values for them. -/
def tabulate (ks : List String) (value? : String → Option α) : Fields α :=
  ks.filterMap fun k => (value? k).map (k, ·)

theorem tabulate_congr {ks : List String} {value? value?' : String → Option α}
    (h : ∀ k ∈ ks, value? k = value?' k) : tabulate ks value? = tabulate ks value?' :=
  List.filterMap_congr fun k hk => by rw [h k hk]

/-- Fields are known by their keys in order and the value of each. -/
theorem tabulate_keys (hn : fields.keys.Nodup) : tabulate fields.keys fields.get? = fields := by
  induction fields with
  | nil => rfl
  | cons field rest ih =>
    obtain ⟨key, v⟩ := field
    obtain ⟨hkey, hrest⟩ := List.nodup_cons.mp hn
    have htail : tabulate (keys rest) (get? ((key, v) :: rest)) = rest := by
      refine (tabulate_congr fun k hk => ?_).trans (ih hrest)
      have hne : key ≠ k := fun h => hkey (h ▸ hk)
      rw [get?_cons, if_neg hne]
    have hhead : get? ((key, v) :: rest) key = some v := if_pos rfl
    calc tabulate (keys ((key, v) :: rest)) (get? ((key, v) :: rest))
        = (key, v) :: tabulate (keys rest) (get? ((key, v) :: rest)) :=
          List.filterMap_cons_some (by rw [hhead]; rfl)
      _ = (key, v) :: rest := by rw [htail]

theorem eq_tabulate {ks : List String} {value? : String → Option α} (hn : fields.keys.Nodup)
    (hkeys : fields.keys = ks) (hvalue : ∀ k, fields.get? k = value? k) :
    fields = tabulate ks value? := by
  subst hkeys
  exact (tabulate_keys hn).symm.trans (tabulate_congr fun k _ => hvalue k)

theorem eq_of_get?_eq (hn : fields.keys.Nodup) (hkeys : fields.keys = fields'.keys)
    (hvalue : ∀ k, fields.get? k = fields'.get? k) : fields = fields' :=
  (eq_tabulate hn hkeys hvalue).trans (tabulate_keys (hkeys ▸ hn))

/-- The value under a key in the last row that has the key. -/
def last? (rows : List (Fields α)) (k : String) : Option α := rows.reverse.findSome? (get? · k)

/-- Rows of fields laid over each other: the keys in order of first appearance, each with its last
value. -/
def overlay (rows : List (Fields α)) : Fields α :=
  tabulate (rows.flatMap keys).eraseDups (last? rows)

theorem last?_concat (rows : List (Fields α)) (row : Fields α) (k : String) :
    last? (rows ++ [row]) k = (row.get? k).or (last? rows k) := by
  simp [last?, List.findSome?_cons]
  cases row.get? k <;> rfl

theorem isSome_last? {rows : List (Fields α)} : (last? rows k).isSome ↔ k ∈ rows.flatMap keys := by
  have hkey (row : Fields α) : (row.get? k).isSome ↔ k ∈ row.keys := by
    rw [Option.isSome_iff_ne_none, ne_eq, get?_eq_none_iff, not_not]
  simp only [last?, List.findSome?_isSome_iff, List.mem_reverse, hkey, List.mem_flatMap]

theorem keys_tabulate {ks : List String} {value? : String → Option α}
    (h : ∀ k ∈ ks, (value? k).isSome) : (tabulate ks value?).keys = ks := by
  induction ks with
  | nil => rfl
  | cons k rest ih =>
    obtain ⟨hk, hrest⟩ := List.forall_mem_cons.mp h
    obtain ⟨v, hv⟩ := Option.isSome_iff_exists.mp hk
    have hcons : tabulate (k :: rest) value? = (k, v) :: tabulate rest value? :=
      List.filterMap_cons_some (by rw [hv]; rfl)
    rw [hcons, keys, List.map_cons, ← keys, ih hrest]

theorem get?_tabulate (ks : List String) (value? : String → Option α) (k : String) :
    (tabulate ks value?).get? k = if k ∈ ks then value? k else none := by
  induction ks with
  | nil => rfl
  | cons key rest ih =>
    cases hv : value? key with
    | none =>
      have hcons : tabulate (key :: rest) value? = tabulate rest value? :=
        List.filterMap_cons_none (by rw [hv]; rfl)
      rw [hcons, ih]
      by_cases hk : k = key
      · subst hk
        simp [hv]
      · simp [hk]
    | some v =>
      have hcons : tabulate (key :: rest) value? = (key, v) :: tabulate rest value? :=
        List.filterMap_cons_some (by rw [hv]; rfl)
      rw [hcons, get?_cons, ih]
      by_cases hk : key = k
      · subst hk
        simp [hv]
      · simp [hk, Ne.symm hk]

theorem keys_overlay (rows : List (Fields α)) :
    (overlay rows).keys = (rows.flatMap keys).eraseDups :=
  keys_tabulate fun _ hk => isSome_last?.mpr (List.mem_eraseDups.mp hk)

theorem nodup_keys_overlay (rows : List (Fields α)) : (overlay rows).keys.Nodup :=
  keys_overlay rows ▸ nodup_eraseDups _

theorem get?_overlay (rows : List (Fields α)) (k : String) :
    (overlay rows).get? k = last? rows k := by
  rw [overlay, get?_tabulate]
  split_ifs with h
  · rfl
  · rw [List.mem_eraseDups, ← isSome_last?, Option.not_isSome_iff_eq_none] at h
    exact h.symm

/-- One more row is laid over the others by extending them. -/
theorem overlay_concat (rows : List (Fields α)) {row : Fields α} (hn : row.keys.Nodup) :
    overlay (rows ++ [row]) = (overlay rows).extend row := by
  have hr := nodup_keys_overlay rows
  refine eq_of_get?_eq (nodup_keys_overlay _) ?_ fun k => ?_
  · rw [keys_overlay, keys_extend hr, keys_overlay, eraseDups_eraseDups_append,
      List.flatMap_append, List.flatMap_singleton]
  · rw [get?_overlay, get?_extend hn, get?_overlay, last?_concat]

end Fields

end NativeStubs
