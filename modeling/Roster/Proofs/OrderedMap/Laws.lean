import Mathlib.Data.List.Induction
import Mathlib.Data.List.Nodup
import Roster.OrderedMap

/-!
# Laws of ordered maps

A map is known by what stands under its keys (`ext_get?`). With that, equations between maps follow
from equations between look-ups, and there are two of these here.

* In the map of a list stands, under a key, what the last entry for the key gives (`get?_ofList`).
* In the union of two maps stands what the first one has under the key, or else what the second one has
  (`get?_union`).
-/

namespace Roster.OrderedMap

variable {κ : Type u} {α : Type v} [LT κ] [StrictKeys κ] [DecidableEq κ]

/-! ## Entries and look-ups -/

omit [LT κ] [StrictKeys κ] in
/-- What stands under a key stands in an entry. -/
theorem mem_of_lookupEntry {k : κ} {v : α} {l : List (κ × α)} (h : lookupEntry k l = some v) :
    (k, v) ∈ l := by
  induction l with
  | nil => cases h
  | cons e rest ih =>
    rw [lookupEntry] at h
    split at h
    · rename_i hk
      cases h
      subst hk
      exact List.mem_cons_self
    · exact List.mem_cons_of_mem e (ih h)

/-- Where the keys increase, all entries for a key are the one that is looked up. -/
theorem filter_eq_lookupEntry {l : List (κ × α)} (hsorted : l.Pairwise fun a b => a.1 < b.1)
    (k : κ) : l.filter (fun e => e.1 = k) = ((lookupEntry k l).map fun v => (k, v)).toList := by
  induction l with
  | nil => rfl
  | cons e rest ih =>
    obtain ⟨hhead, htail⟩ := List.pairwise_cons.mp hsorted
    rw [lookupEntry]
    by_cases hk : e.1 = k
    · have hnone : rest.filter (fun e => e.1 = k) = [] := by
        refine List.filter_eq_nil_iff.mpr fun a ha hak => ?_
        have hlt := hhead a ha
        rw [hk, of_decide_eq_true hak] at hlt
        exact StrictKeys.lt_irrefl k hlt
      rw [List.filter_cons_of_pos (by simpa using hk), hnone, if_pos hk, ← hk]
      rfl
    · simp [hk, ih htail]

/-- All entries of a map for a key are the one that is looked up. -/
theorem filter_entries (m : OrderedMap κ α) (k : κ) :
    m.entries.filter (fun e => e.1 = k) = ((m.get? k).map fun v => (k, v)).toList :=
  filter_eq_lookupEntry m.sorted k

/-- What stands under a key is the value of the entry for it. -/
theorem get?_eq_some_iff {m : OrderedMap κ α} {k : κ} {v : α} :
    m.get? k = some v ↔ (k, v) ∈ m.entries := by
  refine ⟨mem_of_lookupEntry, fun hmem => ?_⟩
  have hfound : (k, v) ∈ m.entries.filter (fun e => e.1 = k) := by simp [hmem]
  rw [filter_entries] at hfound
  simpa using hfound

/-- **A map is known by what stands under its keys.** -/
theorem ext_get? {m n : OrderedMap κ α} (h : ∀ k, m.get? k = n.get? k) : m = n := by
  have hne : ∀ {a b : κ × α}, a.1 < b.1 → a ≠ b := by
    rintro a b hlt rfl
    exact StrictKeys.lt_irrefl a.1 hlt
  have hperm : m.entries.Perm n.entries := by
    refine (List.perm_ext_iff_of_nodup (m.sorted.imp hne) (n.sorted.imp hne)).mpr fun e => ?_
    rw [← get?_eq_some_iff, ← get?_eq_some_iff, h]
  refine OrderedMap.ext (hperm.eq_of_pairwise (fun a b _ _ hab hba => ?_) m.sorted n.sorted)
  exact absurd (StrictKeys.lt_trans hab hba) (StrictKeys.lt_irrefl a.1)

/-! ## Maps of lists, and unions -/

variable [DecidableLT κ]

/-- Entries set one after the other in a map: under a key stands what the last of them for the key
gives, or else what stood there before. -/
theorem get?_foldl_insert (m : OrderedMap κ α) (l : List (κ × α)) (k : κ) :
    (l.foldl (fun n e => n.insert e.1 e.2) m).get? k =
      ((l.filter fun e => e.1 = k).getLast?.map Prod.snd).or (m.get? k) := by
  induction l using List.reverseRecOn with
  | nil => rfl
  | append_singleton l e ih =>
    rw [List.foldl_append, List.filter_append]
    by_cases hk : e.1 = k
    · subst hk
      simp
    · simpa [hk, get?_insert_of_ne _ (Ne.symm hk)] using ih

/-- **In the map of a list** stands, under a key, what the last entry for the key gives. -/
theorem get?_ofList (l : List (κ × α)) (k : κ) :
    (ofList l).get? k = (l.filter fun e => e.1 = k).getLast?.map Prod.snd :=
  (get?_foldl_insert empty l k).trans (Option.or_none)

/-- What stands in the map of a list stands in the list. -/
theorem mem_of_get?_ofList {l : List (κ × α)} {k : κ} {v : α} (h : (ofList l).get? k = some v) :
    (k, v) ∈ l := by
  rw [get?_ofList] at h
  obtain ⟨e, hlast, rfl⟩ := Option.map_eq_some_iff.mp h
  obtain ⟨hmem, hk⟩ := List.mem_filter.mp (List.mem_of_getLast? hlast)
  rwa [← of_decide_eq_true hk]

/-- In the map of a list with one entry for each key stand the entries of the list. -/
theorem get?_ofList_eq_some_iff {l : List (κ × α)} (hkeys : (l.map Prod.fst).Nodup) {k : κ} {v : α} :
    (ofList l).get? k = some v ↔ (k, v) ∈ l := by
  constructor
  · exact mem_of_get?_ofList
  · intro hmem
    have hkept : (k, v) ∈ l.filter fun e => e.1 = k := by simp [hmem]
    obtain ⟨e, hlast⟩ := Option.isSome_iff_exists.mp
      (List.getLast?_isSome.mpr (List.ne_nil_of_mem hkept))
    obtain ⟨hmem', hk⟩ := List.mem_filter.mp (List.mem_of_getLast? hlast)
    rw [get?_ofList, hlast, List.inj_on_of_nodup_map hkeys hmem' hmem (of_decide_eq_true hk)]
    rfl

/-- The entries of two maps; of two for one key, that of the first map. -/
def union (m n : OrderedMap κ α) : OrderedMap κ α :=
  m.entries.foldl (fun u e => u.insert e.1 e.2) n

instance : Union (OrderedMap κ α) := ⟨union⟩

/-- **In the union of two maps** stands what the first one has under the key, or else what the second
one has. -/
theorem get?_union (m n : OrderedMap κ α) (k : κ) : (m ∪ n).get? k = (m.get? k).or (n.get? k) := by
  have hlast : (m.entries.filter fun e => e.1 = k).getLast?.map Prod.snd = m.get? k := by
    rw [filter_entries]
    cases m.get? k <;> rfl
  exact (get?_foldl_insert n m.entries k).trans (by rw [hlast])

end Roster.OrderedMap
