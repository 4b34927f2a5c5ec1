/-!
# Ordered maps

A finite map kept as its list of entries in strictly increasing key order. Everything the library
shows of a map (a listing of managers, the protocols of a manager, the fields of a record) is shown
in key order, so the order is part of the type and not of a printer.

* **Reading** goes through `get?`, `keys`, `values` and `toList`.
* **Writing** goes through `insert`, which replaces an entry with the same key, and `erase`.
* `get?_insert_self`, `get?_insert_of_ne`, `get?_erase_self` and `get?_erase_of_ne` say what a
  write does to a later read.
-/

namespace Roster

/-- The order of the keys is transitive, irreflexive and total on different keys. -/
class StrictKeys (κ : Type u) [LT κ] : Prop where
  /-- The order is transitive. -/
  lt_trans : ∀ {a b c : κ}, a < b → b < c → a < c
  /-- No key is below itself. -/
  lt_irrefl : ∀ a : κ, ¬ a < a
  /-- Two keys of which neither is below the other are the same key. -/
  eq_of_not_lt : ∀ {a b : κ}, ¬ a < b → ¬ b < a → a = b

/-- Texts are ordered by their characters' code points. -/
instance : StrictKeys String where
  lt_trans := String.lt_trans
  lt_irrefl := String.lt_irrefl
  eq_of_not_lt := fun h₁ h₂ => String.le_antisymm h₂ h₁

/-- A finite map: its entries, in strictly increasing order of their keys. -/
structure OrderedMap (κ : Type u) (α : Type v) [LT κ] where
  /-- The entries in key order. -/
  entries : List (κ × α)
  /-- The keys strictly increase along the entries, so no key occurs twice. -/
  sorted : entries.Pairwise (fun a b => a.1 < b.1)

namespace OrderedMap

variable {κ : Type u} {α : Type v} {β : Type w}

/-! ## Entry lists -/

/-- Puts an entry in its place, in front of the first larger key; an entry with the same key is
replaced. -/
def insertEntry [LT κ] [DecidableLT κ] (k : κ) (v : α) : List (κ × α) → List (κ × α)
  | [] => [(k, v)]
  | e :: rest =>
    if k < e.1 then (k, v) :: e :: rest
    else if e.1 < k then e :: insertEntry k v rest
    else (k, v) :: rest

/-- The value under a key, if there is an entry for it. -/
def lookupEntry [DecidableEq κ] (k : κ) : List (κ × α) → Option α
  | [] => none
  | e :: rest => if e.1 = k then some e.2 else lookupEntry k rest

/-- All entries but those of a key. -/
def eraseEntry [DecidableEq κ] (k : κ) : List (κ × α) → List (κ × α)
  | [] => []
  | e :: rest => if e.1 = k then eraseEntry k rest else e :: eraseEntry k rest

theorem eraseEntry_sublist [DecidableEq κ] (k : κ) (l : List (κ × α)) :
    (eraseEntry k l).Sublist l := by
  induction l with
  | nil => exact List.Sublist.slnil
  | cons e rest ih =>
    rw [eraseEntry]
    split
    · exact ih.cons _
    · exact ih.cons_cons _

theorem mem_insertEntry [LT κ] [DecidableLT κ] {k : κ} {v : α} {a : κ × α}
    {l : List (κ × α)} (h : a ∈ insertEntry k v l) : a = (k, v) ∨ a ∈ l := by
  induction l with
  | nil => simpa [insertEntry] using h
  | cons e rest ih =>
    rw [insertEntry] at h
    split at h
    · simpa using h
    · split at h
      · rcases List.mem_cons.1 h with rfl | h
        · simp
        · rcases ih h with rfl | h <;> simp_all
      · rcases List.mem_cons.1 h with rfl | h <;> simp_all

/-- Of the entries after a value was set, those that there were not before are the new one. -/
theorem filter_insertEntry [LT κ] [DecidableLT κ] {k : κ} {v : α} {p : κ × α → Bool}
    {l : List (κ × α)} (hnew : p (k, v) = true) (hold : ∀ a ∈ l, p a = false) :
    (insertEntry k v l).filter p = [(k, v)] := by
  induction l with
  | nil => simp [insertEntry, hnew]
  | cons e rest ih =>
    obtain ⟨hhead, htail⟩ := List.forall_mem_cons.1 hold
    have hnone : rest.filter p = [] := by simpa using htail
    rw [insertEntry]
    split
    · simp [hnew, hhead, hnone]
    · split
      · simp [hhead, ih htail]
      · simp [hnew, hnone]

theorem sorted_insertEntry [LT κ] [DecidableLT κ] [StrictKeys κ] {k : κ} {v : α}
    {l : List (κ × α)} (h : l.Pairwise fun a b => a.1 < b.1) :
    (insertEntry k v l).Pairwise fun a b => a.1 < b.1 := by
  induction l with
  | nil => simp [insertEntry]
  | cons e rest ih =>
    have ⟨hhead, htail⟩ := List.pairwise_cons.1 h
    rw [insertEntry]
    split
    · rename_i hk
      refine List.pairwise_cons.2 ⟨fun a ha => ?_, h⟩
      rcases List.mem_cons.1 ha with rfl | ha
      · exact hk
      · exact StrictKeys.lt_trans hk (hhead a ha)
    · split
      · rename_i hk
        refine List.pairwise_cons.2 ⟨fun a ha => ?_, ih htail⟩
        rcases mem_insertEntry ha with rfl | ha
        · exact hk
        · exact hhead a ha
      · rename_i h₁ h₂
        have hk : k = e.1 := StrictKeys.eq_of_not_lt h₁ h₂
        refine List.pairwise_cons.2 ⟨fun a ha => ?_, htail⟩
        simpa [hk] using hhead a ha

theorem lookupEntry_insertEntry_self [LT κ] [DecidableLT κ] [DecidableEq κ] [StrictKeys κ]
    (k : κ) (v : α) (l : List (κ × α)) : lookupEntry k (insertEntry k v l) = some v := by
  induction l with
  | nil => simp [insertEntry, lookupEntry]
  | cons e rest ih =>
    rw [insertEntry]
    split
    · simp [lookupEntry]
    · split
      · rename_i hk
        have hne : e.1 ≠ k := fun he => StrictKeys.lt_irrefl k (he ▸ hk)
        simp [lookupEntry, hne, ih]
      · simp [lookupEntry]

theorem lookupEntry_insertEntry_of_ne [LT κ] [DecidableLT κ] [DecidableEq κ] [StrictKeys κ]
    {k k' : κ} (hne : k' ≠ k) (v : α) (l : List (κ × α)) :
    lookupEntry k' (insertEntry k v l) = lookupEntry k' l := by
  induction l with
  | nil => simp [insertEntry, lookupEntry, hne.symm]
  | cons e rest ih =>
    rw [insertEntry]
    split
    · simp [lookupEntry, hne.symm]
    · split
      · simp [lookupEntry, ih]
      · rename_i h₁ h₂
        have hk : k = e.1 := StrictKeys.eq_of_not_lt h₁ h₂
        simp [lookupEntry, hne.symm, ← hk]

/-! ## Maps -/

variable [LT κ]

@[ext] theorem ext {m n : OrderedMap κ α} (h : m.entries = n.entries) : m = n := by
  cases m
  cases n
  cases h
  rfl

/-- The map without entries. -/
def empty : OrderedMap κ α := ⟨[], List.Pairwise.nil⟩

instance : EmptyCollection (OrderedMap κ α) := ⟨empty⟩

instance : Inhabited (OrderedMap κ α) := ⟨empty⟩

instance [DecidableEq κ] [DecidableEq α] : DecidableEq (OrderedMap κ α) := fun m n =>
  decidable_of_iff (m.entries = n.entries) ⟨ext, fun h => h ▸ rfl⟩

/-- Sets the value of a key. -/
def insert [DecidableLT κ] [StrictKeys κ] (m : OrderedMap κ α) (k : κ) (v : α) :
    OrderedMap κ α :=
  ⟨insertEntry k v m.entries, sorted_insertEntry m.sorted⟩

/-- Removes a key. -/
def erase [DecidableEq κ] (m : OrderedMap κ α) (k : κ) : OrderedMap κ α :=
  ⟨eraseEntry k m.entries, m.sorted.sublist (eraseEntry_sublist k m.entries)⟩

/-- The value under a key. -/
def get? [DecidableEq κ] (m : OrderedMap κ α) (k : κ) : Option α :=
  lookupEntry k m.entries

/-- Whether the key has a value. -/
def contains [DecidableEq κ] (m : OrderedMap κ α) (k : κ) : Bool :=
  (m.get? k).isSome

/-- The keys, increasing. -/
def keys (m : OrderedMap κ α) : List κ := m.entries.map Prod.fst

/-- The values, in the order of their keys. -/
def values (m : OrderedMap κ α) : List α := m.entries.map Prod.snd

/-- The entries, in the order of their keys. -/
def toList (m : OrderedMap κ α) : List (κ × α) := m.entries

/-- How many keys have a value. -/
def size (m : OrderedMap κ α) : Nat := m.entries.length

/-- The map of a list of entries; a later entry replaces an earlier one with its key. -/
def ofList [DecidableLT κ] [StrictKeys κ] (entries : List (κ × α)) : OrderedMap κ α :=
  entries.foldl (fun m e => m.insert e.1 e.2) empty

@[simp] theorem get?_empty [DecidableEq κ] (k : κ) : (empty : OrderedMap κ α).get? k = none := rfl

@[simp] theorem get?_insert_self [DecidableLT κ] [DecidableEq κ] [StrictKeys κ]
    (m : OrderedMap κ α) (k : κ) (v : α) : (m.insert k v).get? k = some v :=
  lookupEntry_insertEntry_self k v m.entries

theorem get?_insert_of_ne [DecidableLT κ] [DecidableEq κ] [StrictKeys κ]
    (m : OrderedMap κ α) {k k' : κ} (h : k' ≠ k) (v : α) :
    (m.insert k v).get? k' = m.get? k' :=
  lookupEntry_insertEntry_of_ne h v m.entries

@[simp] theorem get?_erase_self [DecidableEq κ] (m : OrderedMap κ α) (k : κ) :
    (m.erase k).get? k = none := by
  simp only [get?, erase]
  induction m.entries with
  | nil => rfl
  | cons e rest ih => by_cases h : e.1 = k <;> simp [eraseEntry, lookupEntry, h, ih]

theorem get?_erase_of_ne [DecidableEq κ] (m : OrderedMap κ α) {k k' : κ} (h : k' ≠ k) :
    (m.erase k).get? k' = m.get? k' := by
  simp only [get?, erase]
  induction m.entries with
  | nil => rfl
  | cons e rest ih =>
    by_cases hk : e.1 = k
    · simp [eraseEntry, lookupEntry, hk, h.symm, ih]
    · by_cases hk' : e.1 = k' <;> simp [eraseEntry, lookupEntry, hk', hk, h, ih]

/-- A key that has a value is one of the keys. -/
theorem contains_iff_mem_keys [DecidableEq κ] (m : OrderedMap κ α) (k : κ) :
    m.contains k = true ↔ k ∈ m.keys := by
  unfold contains get? keys
  induction m.entries with
  | nil => simp [lookupEntry]
  | cons e rest ih =>
    rw [lookupEntry, List.map_cons, List.mem_cons, ← ih]
    by_cases hk : e.1 = k
    · simp [hk]
    · simp [hk, Ne.symm hk]

/-- A key has a value if one was set for it or it had one before. -/
theorem contains_insert [DecidableLT κ] [DecidableEq κ] [StrictKeys κ] (m : OrderedMap κ α)
    (k k' : κ) (v : α) : (m.insert k v).contains k' = true ↔ k' = k ∨ m.contains k' = true := by
  unfold contains
  by_cases hk : k' = k
  · simp [hk]
  · rw [get?_insert_of_ne m hk]
    simp [hk]

/-- What is under a key is one of the values. -/
theorem mem_values_of_get? [DecidableEq κ] {m : OrderedMap κ α} {k : κ} {v : α}
    (h : m.get? k = some v) : v ∈ m.values := by
  unfold get? at h
  unfold values
  generalize m.entries = l at h ⊢
  induction l with
  | nil => cases h
  | cons e rest ih =>
    rw [lookupEntry] at h
    split at h
    · rw [List.map_cons, Option.some.inj h]
      exact List.mem_cons_self
    · exact List.mem_cons_of_mem _ (ih h)

/-- Setting a value brings in no other one. -/
theorem mem_values_insert [DecidableLT κ] [StrictKeys κ] {m : OrderedMap κ α} {k : κ} {v w : α}
    (h : w ∈ (m.insert k v).values) : w = v ∨ w ∈ m.values := by
  obtain ⟨e, he, rfl⟩ := List.mem_map.mp h
  rcases mem_insertEntry he with rfl | hold
  · exact .inl rfl
  · exact .inr (List.mem_map_of_mem hold)

/-- Removing a key brings in no value. -/
theorem mem_values_erase [DecidableEq κ] {m : OrderedMap κ α} {k : κ} {w : α}
    (h : w ∈ (m.erase k).values) : w ∈ m.values := by
  obtain ⟨e, he, rfl⟩ := List.mem_map.mp h
  exact List.mem_map_of_mem ((eraseEntry_sublist k m.entries).subset he)

/-- The keys strictly increase. -/
theorem pairwise_keys (m : OrderedMap κ α) : m.keys.Pairwise (· < ·) :=
  List.pairwise_map.mpr m.sorted

end OrderedMap

/-! ## Sorted sets -/

/-- A finite set of texts, listed in increasing order without repeats. -/
abbrev TextSet := OrderedMap String Unit

namespace TextSet

/-- The set of the members of a list. -/
def ofList (texts : List String) : TextSet :=
  OrderedMap.ofList (texts.map fun t => (t, ()))

/-- The members, increasing. -/
def toList (s : TextSet) : List String := s.keys

end TextSet

end Roster
