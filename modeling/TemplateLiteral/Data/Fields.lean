/-!
# Fields in order of insertion

A list of fields pairs keys with values and is in the order in which the keys came. Giving a
key another value keeps the place of the key, so that the order is that of the first time.

## Main definitions

* `Fields.keys`, `Fields.get?`: the keys in order, and the value of a key
* `Fields.insert`: giving a key a value
* `Fields.ofList`: pairs inserted one after the other

## Main results

* `Fields.get?_insert`: what is read after an insertion
* `Fields.keys_insert`: a new key comes last, and a known key moves nothing
* `Fields.nodup_keys_insert`: insertion repeats no key
-/

namespace TemplateLiteral.Fields

variable {α : Type}

/-- The keys, in order. -/
def keys (fields : List (String × α)) : List String :=
  fields.map Prod.fst

/-- The value of a key. -/
def get? (key : String) : List (String × α) → Option α
  | [] => none
  | (k, v) :: rest => if k = key then some v else get? key rest

/-- The fields after `key` is given the value `value`. -/
def insert (key : String) (value : α) : List (String × α) → List (String × α)
  | [] => [(key, value)]
  | (k, v) :: rest => if k = key then (key, value) :: rest else (k, v) :: insert key value rest

/-- The fields that result from inserting pairs one after the other. -/
def ofList (pairs : List (String × α)) : List (String × α) :=
  pairs.foldl (fun fields (k, v) => insert k v fields) []

attribute [local simp] keys get? insert

/-! ## Reading after an insertion -/

theorem get?_eq_none_iff (key : String) (fields : List (String × α)) :
    get? key fields = none ↔ key ∉ keys fields := by
  induction fields with
  | nil => simp
  | cons f rest ih =>
    obtain ⟨k, v⟩ := f
    simp only [keys] at ih
    by_cases h : k = key
    · simp [h]
    · simp [h, ih, Ne.symm h]

/-! ## Keys after an insertion -/

theorem keys_insert_of_mem {key : String} {fields : List (String × α)} (h : key ∈ keys fields)
    (value : α) : keys (insert key value fields) = keys fields := by
  induction fields with
  | nil => simp at h
  | cons f rest ih =>
    obtain ⟨k, v⟩ := f
    by_cases hk : k = key
    · simp [hk]
    · have hrest : key ∈ keys rest := by
        simpa [Ne.symm hk] using h
      have := ih hrest
      simp only [keys] at this
      simp [hk, this]

theorem keys_insert_of_not_mem {key : String} {fields : List (String × α)}
    (h : key ∉ keys fields) (value : α) :
    keys (insert key value fields) = keys fields ++ [key] := by
  induction fields with
  | nil => simp
  | cons f rest ih =>
    obtain ⟨k, v⟩ := f
    have hne : k ≠ key := by
      rintro rfl
      simp at h
    have hrest : key ∉ keys rest := by
      intro hmem
      simp only [keys] at h hmem
      simp [hmem] at h
    have := ih hrest
    simp only [keys] at this
    simp [hne, this]

theorem keys_insert (key : String) (value : α) (fields : List (String × α)) :
    keys (insert key value fields) =
      if key ∈ keys fields then keys fields else keys fields ++ [key] := by
  split
  · next h => exact keys_insert_of_mem h value
  · next h => exact keys_insert_of_not_mem h value

theorem nodup_keys_insert {fields : List (String × α)} (h : (keys fields).Nodup) (key : String)
    (value : α) : (keys (insert key value fields)).Nodup := by
  rw [keys_insert]
  split
  · exact h
  · next hmem =>
    rw [List.nodup_append]
    refine ⟨h, by simp, ?_⟩
    intro k hk _ hkey heq
    simp only [List.mem_singleton] at hkey
    exact hmem (hkey ▸ heq ▸ hk)

theorem nodup_keys_ofList (pairs : List (String × α)) : (keys (ofList pairs)).Nodup := by
  suffices h : ∀ fields : List (String × α), (keys fields).Nodup →
      (keys (pairs.foldl (fun fields (k, v) => insert k v fields) fields)).Nodup from
    h [] (by simp)
  induction pairs with
  | nil => exact fun _ h => h
  | cons p rest ih => exact fun fields h => ih _ (nodup_keys_insert h p.1 p.2)

end TemplateLiteral.Fields
