/-!
# Finite tables

`Table κ ν` is a finite map kept as a list of entries with one entry per key.  Its view is `get?`;
every other operation is described through it, so nothing outside this file looks at the list.
-/

namespace EthernetPhy

/-- A finite map from `κ` to `ν`. -/
structure Table (κ ν : Type) where
  /-- The entries, at most one for each key. -/
  entries : List (κ × ν) := []
  deriving DecidableEq

namespace Table

variable {κ ν : Type} [DecidableEq κ]

/-- The value that the first entry for `k` holds. -/
def find (k : κ) : List (κ × ν) → Option ν
  | [] => none
  | (key, value) :: rest => if key = k then some value else find k rest

/-- The entries with the first one for `k` overwritten, or with a new last one. -/
def put (k : κ) (v : ν) : List (κ × ν) → List (κ × ν)
  | [] => [(k, v)]
  | (key, value) :: rest => if key = k then (k, v) :: rest else (key, value) :: put k v rest

/-- The value stored under `k`. -/
def get? (t : Table κ ν) (k : κ) : Option ν := find k t.entries

/-- Stores `v` under `k`, in place of any value stored there before. -/
def insert (t : Table κ ν) (k : κ) (v : ν) : Table κ ν := ⟨put k v t.entries⟩

/-- Removes what is stored under `k`. -/
def erase (t : Table κ ν) (k : κ) : Table κ ν := ⟨t.entries.filter fun e => e.1 ≠ k⟩

/-- The keys under which something is stored. -/
def keys (t : Table κ ν) : List κ := t.entries.map Prod.fst

/-- Whether nothing is stored. -/
def isEmpty (t : Table κ ν) : Bool := t.entries.isEmpty

theorem find_put (k k' : κ) (v : ν) (l : List (κ × ν)) :
    find k' (put k v l) = if k = k' then some v else find k' l := by
  induction l with
  | nil => rfl
  | cons e rest ih =>
    obtain ⟨key, value⟩ := e
    by_cases hk : key = k
    · subst hk
      by_cases hk' : key = k' <;> simp [put, find, hk']
    · by_cases hk' : key = k'
      · subst hk'
        simp [put, find, hk, Ne.symm hk]
      · simp [put, find, hk, hk', ih]

/-- An insertion is seen under its own key and leaves every other key alone. -/
theorem get?_insert (t : Table κ ν) (k k' : κ) (v : ν) :
    (t.insert k v).get? k' = if k = k' then some v else t.get? k' :=
  find_put k k' v t.entries

@[simp] theorem get?_insert_self (t : Table κ ν) (k : κ) (v : ν) :
    (t.insert k v).get? k = some v := by
  simp [get?_insert]

theorem get?_insert_of_ne (t : Table κ ν) {k k' : κ} (v : ν) (h : k ≠ k') :
    (t.insert k v).get? k' = t.get? k' := by
  simp [get?_insert, h]

/-- A removal is seen under its own key and leaves every other key alone. -/
theorem get?_erase (t : Table κ ν) (k k' : κ) :
    (t.erase k).get? k' = if k = k' then none else t.get? k' := by
  obtain ⟨l⟩ := t
  change find k' (l.filter fun e => e.1 ≠ k) = if k = k' then none else find k' l
  induction l with
  | nil => exact (ite_self none).symm
  | cons e rest ih =>
    obtain ⟨key, value⟩ := e
    by_cases hk : key = k
    · subst hk
      by_cases hk' : key = k' <;> simp_all [find]
    · by_cases hk' : key = k'
      · subst hk'
        simp [find, hk, Ne.symm hk]
      · simp_all [find]

theorem mem_keys (t : Table κ ν) (k : κ) : k ∈ t.keys ↔ t.get? k ≠ none := by
  obtain ⟨l⟩ := t
  change k ∈ l.map Prod.fst ↔ find k l ≠ none
  induction l with
  | nil => simp [find]
  | cons e rest ih =>
    obtain ⟨key, value⟩ := e
    by_cases hk : key = k
    · simp [find, hk]
    · simp [find, hk, Ne.symm hk, ← ih]

@[simp] theorem get?_empty (k : κ) : ({} : Table κ ν).get? k = none := rfl

/-- A table is empty exactly when no key has a value. -/
theorem isEmpty_iff (t : Table κ ν) : t.isEmpty = true ↔ ∀ k, t.get? k = none := by
  obtain ⟨l⟩ := t
  cases l with
  | nil => simp [isEmpty, get?, find]
  | cons e rest =>
    obtain ⟨key, value⟩ := e
    simp only [isEmpty, List.isEmpty_cons, Bool.false_eq_true, false_iff]
    intro h
    simpa [get?, find] using h key

@[simp] theorem isEmpty_insert (t : Table κ ν) (k : κ) (v : ν) :
    (t.insert k v).isEmpty = false := by
  cases h : (t.insert k v).isEmpty with
  | false => rfl
  | true => simpa using (isEmpty_iff _).1 h k

end Table

end EthernetPhy
