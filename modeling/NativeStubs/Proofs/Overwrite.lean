import NativeStubs.Proofs.FileTree

/-! # Setting many entries

Only the last setting of a place matters, and settings of different places do not disturb each
other. So the same row of settings does nothing when it is done again.
-/

namespace NativeStubs

namespace FileTree

variable {p q : Place} {e e' : Entry} {entries : List (Place × Entry)}

theorem setEntry_setEntry (p : Place) (e e' : Entry) (entries : List (Place × Entry)) :
    setEntry p e' (setEntry p e entries) = setEntry p e' entries := by
  induction entries with
  | nil => simp [setEntry]
  | cons row rest ih =>
    simp only [setEntry]
    split_ifs with hrow
    · simp [setEntry]
    · simp [setEntry, hrow, ih]

/-- The one that is there already keeps its position whichever comes first. -/
theorem setEntry_comm (hne : p ≠ q) (hp : (entries.lookup p).isSome) :
    setEntry q e' (setEntry p e entries) = setEntry p e (setEntry q e' entries) := by
  induction entries with
  | nil => simp at hp
  | cons row rest ih =>
    obtain ⟨r, old⟩ := row
    by_cases hrp : r = p
    · subst hrp
      simp [setEntry, hne]
    · rw [lookup_cons_eq, if_neg (Ne.symm hrp)] at hp
      by_cases hrq : r = q
      · subst hrq
        simp [setEntry, hrp]
      · simp [setEntry, hrp, hrq, ih hp]

theorem setEntry_of_lookup (h : entries.lookup p = some e) : setEntry p e entries = entries := by
  induction entries with
  | nil => simp at h
  | cons row rest ih =>
    obtain ⟨r, old⟩ := row
    rw [lookup_cons_eq] at h
    rw [setEntry]
    split_ifs with hrp
    · obtain rfl := Option.some.inj ((if_pos hrp.symm).symm.trans h)
      rw [hrp]
    · rw [if_neg (Ne.symm hrp)] at h
      rw [ih h]

variable {t : FileTree} {rows : List (Place × Entry)}

/-- The tree with some entries set, one after the other. -/
def setAll (t : FileTree) (rows : List (Place × Entry)) : FileTree :=
  rows.foldl (fun t (place, entry) => t.set place entry) t

@[simp] theorem setAll_nil (t : FileTree) : t.setAll [] = t := rfl

theorem setAll_cons (t : FileTree) (p : Place) (e : Entry) (rows : List (Place × Entry)) :
    t.setAll ((p, e) :: rows) = (t.set p e).setAll rows := rfl

theorem setAll_append (t : FileTree) (rows rows' : List (Place × Entry)) :
    t.setAll (rows ++ rows') = (t.setAll rows).setAll rows' :=
  List.foldl_append

theorem get?_set_of_ne (h : p ≠ q) : (t.set q e).get? p = t.get? p := by
  unfold get? set
  rw [lookup_setEntry, if_neg h]

theorem get?_setAll_of_notMem (h : p ∉ rows.map Prod.fst) : (t.setAll rows).get? p = t.get? p := by
  induction rows generalizing t with
  | nil => rfl
  | cons row rest ih =>
    obtain ⟨hrow, hrest⟩ := List.ne_and_not_mem_of_not_mem_cons h
    rw [setAll_cons, ih hrest, get?_set_of_ne hrow]

theorem get?_setAll_of_mem (hp : p ≠ []) (hrows : (rows.map Prod.fst).Nodup)
    (h : (p, e) ∈ rows) : (t.setAll rows).get? p = some e := by
  induction rows generalizing t with
  | nil => cases h
  | cons row rest ih =>
    obtain ⟨hrow, hrest⟩ := List.nodup_cons.mp hrows
    rw [setAll_cons]
    rcases List.mem_cons.mp h with rfl | hmem
    · rw [get?_setAll_of_notMem hrow, get?_set hp, if_pos rfl]
    · exact ih hrest hmem

theorem lookup_entries (hp : p ≠ []) : t.entries.lookup p = t.get? p := (if_neg hp).symm

theorem set_of_get? (hp : p ≠ []) (h : t.get? p = some e) : t.set p e = t :=
  congrArg FileTree.mk (setEntry_of_lookup ((lookup_entries hp).trans h))

/-- A setting that comes again later has no effect. -/
theorem setAll_set_of_mem (hp : p ≠ []) (hpresent : (t.get? p).isSome)
    (h : p ∈ rows.map Prod.fst) : (t.set p e).setAll rows = t.setAll rows := by
  induction rows generalizing t with
  | nil => cases h
  | cons row rest ih =>
    obtain ⟨q, e'⟩ := row
    rw [setAll_cons, setAll_cons]
    by_cases hpq : p = q
    · subst hpq
      exact congrArg (fun entries => setAll ⟨entries⟩ rest) (setEntry_setEntry p e e' t.entries)
    · have hcomm : (t.set p e).set q e' = (t.set q e').set p e :=
        congrArg FileTree.mk (setEntry_comm hpq ((lookup_entries hp).symm ▸ hpresent))
      have hrest : p ∈ rest.map Prod.fst := (List.mem_cons.mp h).resolve_left hpq
      rw [hcomm, ih (by rwa [get?_set_of_ne hpq]) hrest]

theorem isSome_get?_setAll (hp : p ≠ []) (h : p ∈ rows.map Prod.fst ∨ (t.get? p).isSome) :
    ((t.setAll rows).get? p).isSome := by
  induction rows generalizing t with
  | nil => simpa using h
  | cons row rest ih =>
    obtain ⟨q, e⟩ := row
    rw [setAll_cons]
    refine ih ?_
    by_cases hpq : p = q
    · rw [← hpq, get?_set hp, if_pos rfl]
      exact Or.inr rfl
    · rw [get?_set_of_ne hpq]
      exact h.imp_left fun hmem => (List.mem_cons.mp hmem).resolve_left hpq

theorem setAll_setAll (hrows : ∀ row ∈ rows, row.1 ≠ []) (t : FileTree) :
    (t.setAll rows).setAll rows = t.setAll rows := by
  induction rows generalizing t with
  | nil => rfl
  | cons row rest ih =>
    obtain ⟨p, e⟩ := row
    obtain ⟨hp, hrest⟩ := List.forall_mem_cons.mp hrows
    have ih := ih hrest (t.set p e)
    simp only [setAll_cons]
    by_cases hmem : p ∈ rest.map Prod.fst
    · rw [setAll_set_of_mem hp (isSome_get?_setAll hp (Or.inl hmem)) hmem, ih]
    · have hget : ((t.set p e).setAll rest).get? p = some e := by
        rw [get?_setAll_of_notMem hmem, get?_set hp, if_pos rfl]
      rw [set_of_get? hp hget, ih]

end FileTree

end NativeStubs
