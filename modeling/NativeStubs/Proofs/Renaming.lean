import NativeStubs.Proofs.Fields

/-! # Renaming keeps every field

Renaming a field takes it out, which moves the last field into the gap, and puts it at the end under
its new name. The names of an older record are renamed one after the other, each wherever the last
renaming has left it, and every value comes out under the name where it belongs. A record has its
order for good then, since nothing in it is left to rename.
-/

namespace NativeStubs

namespace Fields

variable {α : Type} {fields between after : Fields α} {names names' : List (String × String)}
  {old new : String}

/-- Where two values are after a renaming: that of the old name has moved to the new one if the
record had no field of that name, and otherwise both are where they were. -/
def Moved (old new : String) (fields after : Fields α) : Prop :=
  if (fields.get? new).isSome then
    after.get? old = fields.get? old ∧ after.get? new = fields.get? new
  else after.get? old = none ∧ after.get? new = fields.get? old

theorem Moved.get?_new (h : Moved old new fields after) :
    after.get? new = (fields.get? new).or (fields.get? old) := by
  unfold Moved at h
  split_ifs at h with hnew
  · rw [h.2, Option.or_of_isSome hnew]
  · rw [h.2, Option.not_isSome_iff_eq_none.mp hnew, Option.none_or]

/-- The names that renamings from old names to new ones are about. -/
def mentioned (names : List (String × String)) : List String :=
  names.flatMap fun (old, new) => [old, new]

/-- What has become of the fields of a record in renamings from old names to new ones. -/
structure Renames (names : List (String × String)) (fields after : Fields α) : Prop where
  length : after.length = fields.length
  nodup : after.keys.Nodup
  moved : ∀ old new, (old, new) ∈ names → Moved old new fields after
  others : ∀ k ∉ mentioned names, after.get? k = fields.get? k

/-- Nothing is left to rename. -/
def Settled (old new : String) (fields : Fields α) : Prop :=
  (fields.get? new).isSome ∨ fields.get? old = none

theorem length_respell (fields : Fields α) (old new : String) :
    (fields.respell old new).length = fields.length := by
  unfold respell
  split_ifs
  · rfl
  · exact List.length_map _

theorem get?_rename (hn : fields.keys.Nodup) (old new k : String) :
    (fields.rename old new).get? k = (fields.respell old new).get? k :=
  get?_perm (rename_perm_respell hn old new) (nodup_keys_rename hn old new) k

theorem moved_rename (hn : fields.keys.Nodup) (hne : old ≠ new) :
    Moved old new fields (fields.rename old new) := by
  unfold Moved
  rw [get?_rename hn, get?_rename hn, get?_respell fields hne, get?_respell fields hne]
  by_cases hnew : (fields.get? new).isSome
  · simp [hnew]
  · simp [hnew, hne]

/-- One renaming. -/
theorem renames_rename (hn : fields.keys.Nodup) (hne : old ≠ new) :
    Renames [(old, new)] fields (fields.rename old new) where
  length := (rename_perm_respell hn old new).length_eq.trans (length_respell fields old new)
  nodup := nodup_keys_rename hn old new
  moved := by
    intro old' new' hmem
    obtain ⟨rfl, rfl⟩ := Prod.mk.inj (List.mem_singleton.mp hmem)
    exact moved_rename hn hne
  others := by
    intro k hk
    obtain ⟨hold, hnew⟩ : k ≠ old ∧ k ≠ new := by simpa [mentioned] using hk
    rw [get?_rename hn, get?_respell_of_ne fields hne hold hnew]

theorem mem_mentioned (h : (old, new) ∈ names) : old ∈ mentioned names ∧ new ∈ mentioned names :=
  ⟨List.mem_flatMap.mpr ⟨_, h, by simp⟩, List.mem_flatMap.mpr ⟨_, h, by simp⟩⟩

/-- Renamings of other names do not get in the way of each other. -/
theorem Renames.append (h : Renames names fields between) (h' : Renames names' between after)
    (hdisjoint : ∀ k ∈ mentioned names, k ∉ mentioned names') :
    Renames (names ++ names') fields after where
  length := h'.length.trans h.length
  nodup := h'.nodup
  moved := by
    intro old new hmem
    -- Both names of a renaming are among the other fields of the other renamings.
    rcases List.mem_append.mp hmem with hfirst | hsecond
    · obtain ⟨hold, hnew⟩ := mem_mentioned hfirst
      have hmoved := h.moved old new hfirst
      unfold Moved at hmoved ⊢
      rwa [h'.others old (hdisjoint old hold), h'.others new (hdisjoint new hnew)]
    · obtain ⟨hold, hnew⟩ := mem_mentioned hsecond
      have hmoved := h'.moved old new hsecond
      unfold Moved at hmoved ⊢
      rwa [h.others old fun hfirst => hdisjoint old hfirst hold,
        h.others new fun hfirst => hdisjoint new hfirst hnew] at hmoved
  others := by
    intro k hk
    obtain ⟨hfirst, hsecond⟩ : k ∉ mentioned names ∧ k ∉ mentioned names' := by
      simpa [mentioned, not_or] using hk
    exact (h'.others k hsecond).trans (h.others k hfirst)

/-- The names of older records, with those of today. -/
def olderNames : List (String × String) :=
  [("comment", "description"), ("return_type", "results")]

theorem renames_modernize (hn : fields.keys.Nodup) : Renames olderNames fields fields.modernize :=
  (renames_rename hn (by decide)).append (renames_rename (nodup_keys_rename hn _ _) (by decide))
    (by decide)

theorem get?_modernize_description (hn : fields.keys.Nodup) :
    fields.modernize.get? "description" =
      (fields.get? "description").or (fields.get? "comment") :=
  ((renames_modernize hn).moved _ _ (by decide)).get?_new

theorem get?_modernize_results (hn : fields.keys.Nodup) :
    fields.modernize.get? "results" = (fields.get? "results").or (fields.get? "return_type") :=
  ((renames_modernize hn).moved _ _ (by decide)).get?_new

/-- Only the fields with an old or a new name are affected. -/
theorem get?_modernize_of_notMem {k : String} (hn : fields.keys.Nodup)
    (hk : k ∉ ["comment", "description", "return_type", "results"]) :
    fields.modernize.get? k = fields.get? k :=
  (renames_modernize hn).others k hk

theorem Moved.settled (h : Moved old new fields after) : Settled old new after := by
  unfold Moved at h
  split_ifs at h with hnew
  · exact Or.inl (h.2 ▸ hnew)
  · exact Or.inr h.1

theorem rename_of_settled (h : Settled old new fields) : fields.rename old new = fields := by
  unfold rename
  split_ifs with hnew
  · rfl
  · rw [swapTake?_eq_none_iff.mpr (h.resolve_left hnew)]

/-- No field of a record with the names of today is still to be renamed. -/
theorem settled_modernize (hn : fields.keys.Nodup) (hmem : (old, new) ∈ olderNames) :
    Settled old new fields.modernize :=
  ((renames_modernize hn).moved old new hmem).settled

theorem modernize_of_settled (h : ∀ old new, (old, new) ∈ olderNames → Settled old new fields) :
    fields.modernize = fields := by
  rw [modernize, rename_of_settled (h "comment" "description" (by decide)),
    rename_of_settled (h "return_type" "results" (by decide))]

/-- Bringing a record up to date loses nothing: as many fields with as many names, the description
and the result under the names of today where the record had none under these, every other value
where it was. A record that is up to date stays as it is, field by field. -/
theorem modernize_loses_nothing (hn : fields.keys.Nodup) :
    fields.modernize.length = fields.length ∧ fields.modernize.keys.Nodup ∧
      Moved "comment" "description" fields fields.modernize ∧
      Moved "return_type" "results" fields fields.modernize ∧
      (∀ k ∉ ["comment", "description", "return_type", "results"],
        fields.modernize.get? k = fields.get? k) ∧
      fields.modernize.modernize = fields.modernize := by
  have h := renames_modernize hn
  exact ⟨h.length, h.nodup, h.moved _ _ (by decide), h.moved _ _ (by decide),
    fun _ => get?_modernize_of_notMem hn, modernize_of_settled fun _ _ => settled_modernize hn⟩

/-- A record whose result moves into the gap that its description leaves. -/
def gapRecord : Fields Nat := [("comment", 1), ("name", 2), ("params", 3), ("return_type", 4)]

theorem modernize_loses_nothing_gapRecord :
    gapRecord.keys.Nodup ∧
      gapRecord.modernize =
        [("description", 1), ("name", 2), ("params", 3), ("results", 4)] ∧
      gapRecord.modernize.get? "name" = some 2 ∧
      gapRecord.modernize.modernize = gapRecord.modernize := by
  have hn : gapRecord.keys.Nodup := by decide
  obtain ⟨-, -, -, -, hothers, hagain⟩ := modernize_loses_nothing hn
  exact ⟨hn, by decide, hothers "name" (by decide), hagain⟩

end Fields

end NativeStubs
