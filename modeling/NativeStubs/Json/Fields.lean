/-! # Fields in document order

The fields of an object keep the order of their first appearance. Inserting a key that is present
replaces its value in place; taking a key out moves the last field into the gap.
-/

namespace NativeStubs

/-- The fields of an object, in order. -/
abbrev Fields (α : Type) := List (String × α)

namespace Fields

variable {α : Type}

def keys (fields : Fields α) : List String := fields.map Prod.fst

def get? : Fields α → String → Option α
  | [], _ => none
  | (key, value) :: rest, k => if key = k then some value else get? rest k

/-- Sets the value of a key, in place if the key is present and at the end if not. -/
def insert : Fields α → String → α → Fields α
  | [], k, v => [(k, v)]
  | (key, value) :: rest, k, v =>
    if key = k then (key, v) :: rest else (key, value) :: insert rest k v

/-- Inserts the fields of `additions` one by one. -/
def extend (fields additions : Fields α) : Fields α :=
  additions.foldl (fun acc (k, v) => acc.insert k v) fields

/-- The fields of a document, in which a repeated key keeps its first place and takes its last
value. -/
def ofList (entries : List (String × α)) : Fields α := extend [] entries

/-- The list with its last element moved to the front. -/
def lastToFront (rest : List α) : List α :=
  match rest.getLast? with
  | none => []
  | some last => last :: rest.dropLast

/-- Takes a key out: its value and the other fields, the last one moved into the gap. -/
def swapTake? : Fields α → String → Option (α × Fields α)
  | [], _ => none
  | (key, value) :: rest, k =>
    if key = k then some (value, lastToFront rest)
    else (swapTake? rest k).map fun (v, others) => (v, (key, value) :: others)

@[simp] theorem get?_nil (k : String) : get? ([] : Fields α) k = none := rfl

@[simp] theorem insert_nil (k : String) (v : α) : insert [] k v = [(k, v)] := rfl

@[simp] theorem extend_nil (fields : Fields α) : extend fields [] = fields := rfl

@[simp] theorem extend_cons (fields additions : Fields α) (k : String) (v : α) :
    extend fields ((k, v) :: additions) = extend (fields.insert k v) additions := rfl

/-- An inserted key reads back, and no other key changes. -/
theorem get?_insert (fields : Fields α) (k k' : String) (v : α) :
    (fields.insert k v).get? k' = if k = k' then some v else fields.get? k' := by
  induction fields with
  | nil => simp [insert, get?]
  | cons field rest ih =>
    obtain ⟨key, value⟩ := field
    by_cases h : key = k
    · subst h
      simp only [insert, get?, if_true]
      split <;> simp_all
    · simp only [insert, get?, h, if_false, ih]
      by_cases hk : key = k'
      · subst hk
        simp [Ne.symm h]
      · simp [hk]

/-- A new key goes to the end, a present one keeps its place. -/
theorem keys_insert (fields : Fields α) (k : String) (v : α) :
    (fields.insert k v).keys = if k ∈ fields.keys then fields.keys else fields.keys ++ [k] := by
  induction fields with
  | nil => simp [insert, keys]
  | cons field rest ih =>
    obtain ⟨key, value⟩ := field
    by_cases h : key = k
    · simp [insert, keys, h]
    · simp only [keys, insert, h, if_false, List.map_cons] at ih ⊢
      rw [ih]
      by_cases hk : k ∈ rest.map Prod.fst <;> simp [hk, Ne.symm h]

theorem nodup_keys_insert {fields : Fields α} (h : fields.keys.Nodup) (k : String) (v : α) :
    (fields.insert k v).keys.Nodup := by
  rw [keys_insert]
  split
  · exact h
  · next hk => exact List.nodup_append.mpr ⟨h, by simp, by simp; exact fun a ha he => hk (he ▸ ha)⟩

theorem nodup_keys_extend {fields : Fields α} (h : fields.keys.Nodup) (additions : Fields α) :
    (fields.extend additions).keys.Nodup := by
  induction additions generalizing fields with
  | nil => exact h
  | cons field rest ih => exact ih (nodup_keys_insert h _ _)

theorem nodup_keys_ofList (entries : List (String × α)) : (ofList entries).keys.Nodup :=
  nodup_keys_extend (by simp [keys]) entries

end Fields

end NativeStubs
