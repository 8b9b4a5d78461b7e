import Missive.Value.Basic
import Mathlib.Data.List.Perm.Basic
import Mathlib.Data.String.Basic
import Mathlib.Tactic.SplitIfs
import Mathlib.Algebra.GroupWithZero.Nat

/-!
# The entries of maps

`sortEntries` brings entries into ascending order and drops those whose key comes again.

* `ascending_sortEntries`, `sortEntries_of_ascending`: its results are ascending, and ascending
  entries are its results.
* `mem_of_mem_sortEntries`, `sum_sortEntries_le`: it makes up no entries.
* `perm_sortEntries`: if it drops none, it only changes their order.
-/

namespace Missive.Value

/-- Each key is greater than those before it. -/
def Ascending (entries : List (String × Value)) : Prop :=
  (entries.map Prod.fst).Pairwise (· < ·)

/-! ## Adding one entry -/

section

variable {key : String} {value : Value} {entries : List (String × Value)}

lemma mem_of_mem_addEntry {entry : String × Value} (h : entry ∈ addEntry key value entries) :
    entry = (key, value) ∨ entry ∈ entries := by
  induction entries with
  | nil => simpa [addEntry] using h
  | cons first entries ih =>
      obtain ⟨k, v⟩ := first
      rw [addEntry] at h
      split_ifs at h with hlt heq
      · simpa using h
      · exact .inr h
      · rcases List.mem_cons.1 h with rfl | h
        · exact .inr List.mem_cons_self
        · exact (ih h).imp_right (List.mem_cons_of_mem _)

lemma ascending_addEntry (h : Ascending entries) : Ascending (addEntry key value entries) := by
  induction entries with
  | nil => simp [addEntry, Ascending]
  | cons first entries ih =>
      obtain ⟨k, v⟩ := first
      obtain ⟨hfirst, hentries⟩ := List.pairwise_cons.1 h
      rw [addEntry]
      split_ifs with hlt heq
      · refine List.pairwise_cons.2 ⟨?_, h⟩
        intro other hother
        rcases List.mem_cons.1 hother with rfl | hother
        · exact hlt
        · exact lt_trans hlt (hfirst other hother)
      · exact h
      · refine List.pairwise_cons.2 ⟨?_, ih hentries⟩
        intro other hother
        obtain ⟨entry, hentry, rfl⟩ := List.mem_map.1 hother
        rcases mem_of_mem_addEntry hentry with rfl | hentry
        · exact lt_of_le_of_ne (not_lt.1 hlt) (Ne.symm heq)
        · exact hfirst _ (List.mem_map_of_mem hentry)

/-- An entry is added, or the row stays as it is. -/
lemma addEntry_perm_or_eq (key : String) (value : Value) (entries : List (String × Value)) :
    (addEntry key value entries).Perm ((key, value) :: entries) ∨
      addEntry key value entries = entries := by
  induction entries with
  | nil => exact .inl (List.Perm.refl _)
  | cons first entries ih =>
      obtain ⟨k, v⟩ := first
      rw [addEntry]
      split_ifs with hlt heq
      · exact .inl (List.Perm.refl _)
      · exact .inr rfl
      · rcases ih with hperm | hsame
        · exact .inl ((hperm.cons (k, v)).trans (List.Perm.swap _ _ _))
        · exact .inr (by rw [hsame])

end

/-! ## Sorting -/

variable {entries : List (String × Value)}

lemma sortEntries_cons (entry : String × Value) (entries : List (String × Value)) :
    sortEntries (entry :: entries) = addEntry entry.1 entry.2 (sortEntries entries) := rfl

/-- Sorting makes up no entries. -/
lemma mem_of_mem_sortEntries {entry : String × Value} (h : entry ∈ sortEntries entries) :
    entry ∈ entries := by
  induction entries with
  | nil => exact h
  | cons first entries ih =>
      rcases mem_of_mem_addEntry h with rfl | h
      · exact List.mem_cons_self
      · exact List.mem_cons_of_mem _ (ih h)

/-- Sorted entries are in ascending order. -/
theorem ascending_sortEntries (entries : List (String × Value)) :
    Ascending (sortEntries entries) := by
  induction entries with
  | nil => simp [sortEntries, Ascending]
  | cons entry entries ih => exact ascending_addEntry ih

/-- Entries in ascending order are sorted already. -/
theorem sortEntries_of_ascending (h : Ascending entries) : sortEntries entries = entries := by
  induction entries with
  | nil => rfl
  | cons entry entries ih =>
      obtain ⟨hentry, hentries⟩ := List.pairwise_cons.1 h
      rw [sortEntries_cons, ih hentries]
      cases entries with
      | nil => rfl
      | cons next entries =>
          have hlt : entry.1 < next.1 := hentry next.1 List.mem_cons_self
          simp [addEntry, hlt]

lemma length_sortEntries_le (entries : List (String × Value)) :
    (sortEntries entries).length ≤ entries.length := by
  induction entries with
  | nil => exact Nat.le_refl _
  | cons entry entries ih =>
      rw [sortEntries_cons]
      rcases addEntry_perm_or_eq entry.1 entry.2 (sortEntries entries) with hperm | hsame
      · rw [hperm.length_eq]
        simpa using ih
      · rw [hsame, List.length_cons]
        omega

/-- Sorting that drops no entry changes their order only. -/
theorem perm_sortEntries (h : (sortEntries entries).length = entries.length) :
    (sortEntries entries).Perm entries := by
  induction entries with
  | nil => exact List.Perm.refl _
  | cons entry entries ih =>
      have hle := length_sortEntries_le entries
      rw [sortEntries_cons] at h ⊢
      rcases addEntry_perm_or_eq entry.1 entry.2 (sortEntries entries) with hperm | hsame
      · rw [hperm.length_eq, List.length_cons, List.length_cons] at h
        exact hperm.trans ((ih (by omega)).cons entry)
      · rw [hsame, List.length_cons] at h
        omega

/-- Whatever entries cost, sorted ones cost no more. -/
theorem sum_sortEntries_le (cost : Value → Nat) (entries : List (String × Value)) :
    ((sortEntries entries).map fun entry => cost entry.2).sum
      ≤ (entries.map fun entry => cost entry.2).sum := by
  induction entries with
  | nil => exact Nat.le_refl _
  | cons entry entries ih =>
      rw [sortEntries_cons, List.map_cons, List.sum_cons]
      rcases addEntry_perm_or_eq entry.1 entry.2 (sortEntries entries) with hperm | hsame
      · rw [(hperm.map _).sum_nat, List.map_cons, List.sum_cons]
        exact Nat.add_le_add_left ih _
      · rw [hsame]
        omega

end Missive.Value
