import Missive.Proofs.Value.Entries
import Missive.Value.OfExpr
import Mathlib.Data.List.Sort

/-!
# The entries that a map keeps

Of the entries that a program writes for a map, those count whose key does not come again
(`lastOfEach`), and the map has them in the order of their keys (`inKeyOrder`).

* `Value.sortEntries_eq_inKeyOrder`: these are the entries that `Value.sortEntries` keeps.
* `inKeyOrder_map`: what stands under the keys does not matter.
* `Value.lookup_sortEntries`: what a map has for a key is what was written for it last.
* `Value.ofExpr_map`: the value of a map that is written.
-/

namespace Missive

section

variable {α β : Type}

/-- The entries whose keys do not come again. -/
def lastOfEach : List (String × α) → List (String × α)
  | [] => []
  | entry :: entries =>
    if entry.1 ∈ entries.map Prod.fst then lastOfEach entries else entry :: lastOfEach entries

/-- The last entry of each key, in ascending order of the keys. -/
def inKeyOrder (entries : List (String × α)) : List (String × α) :=
  (lastOfEach entries).insertionSort fun a b => a.1 ≤ b.1

lemma keys_map (f : α → β) (entries : List (String × α)) :
    (entries.map (Prod.map id f)).map Prod.fst = entries.map Prod.fst :=
  List.map_map

lemma lastOfEach_map (f : α → β) (entries : List (String × α)) :
    lastOfEach (entries.map (Prod.map id f)) = (lastOfEach entries).map (Prod.map id f) := by
  induction entries with
  | nil => rfl
  | cons entry entries ih =>
      rw [List.map_cons, lastOfEach, lastOfEach, ih, keys_map, Prod.map, id]
      split_ifs <;> rfl

/-- What stands under the keys has no say in which entries are kept and in their order. -/
lemma inKeyOrder_map (f : α → β) (entries : List (String × α)) :
    inKeyOrder (entries.map (Prod.map id f)) = (inKeyOrder entries).map (Prod.map id f) := by
  rw [inKeyOrder, lastOfEach_map]
  exact (List.map_insertionSort (fun a b : String × α => a.1 ≤ b.1)
    (fun a b : String × β => a.1 ≤ b.1) _ _ fun _ _ _ _ => Iff.rfl).symm

/-- Entries with different keys all count. -/
lemma lastOfEach_of_nodup {entries : List (String × α)} (h : (entries.map Prod.fst).Nodup) :
    lastOfEach entries = entries := by
  induction entries with
  | nil => rfl
  | cons entry entries ih =>
      obtain ⟨hentry, hentries⟩ := List.nodup_cons.1 h
      rw [lastOfEach, if_neg hentry, ih hentries]

/-- Entries that are written in the order of their keys stay as they are. -/
lemma inKeyOrder_of_pairwise {entries : List (String × α)}
    (h : (entries.map Prod.fst).Pairwise (· < ·)) : inKeyOrder entries = entries := by
  rw [inKeyOrder, lastOfEach_of_nodup (h.imp ne_of_lt)]
  exact ((List.pairwise_map.1 h).imp le_of_lt).insertionSort_eq

end

namespace Value

/-! ## Adding one entry -/

section

variable {key : String} {value : Value} {entries : List (String × Value)}

lemma Ascending.not_mem_of_lt {first : String × Value} (h : Ascending (first :: entries))
    (hkey : key < first.1) : key ∉ (first :: entries).map Prod.fst := by
  obtain ⟨hfirst, -⟩ := List.pairwise_cons.1 h
  rw [List.map_cons, List.mem_cons, not_or]
  exact ⟨hkey.ne, fun hmem => lt_asymm hkey (hfirst key hmem)⟩

/-- A key that is there already keeps its entry. -/
lemma addEntry_of_mem (h : Ascending entries) (hkey : key ∈ entries.map Prod.fst) :
    addEntry key value entries = entries := by
  induction entries with
  | nil => simp at hkey
  | cons first entries ih =>
      obtain ⟨k, v⟩ := first
      rw [addEntry]
      split_ifs with hlt heq
      · exact absurd hkey (h.not_mem_of_lt hlt)
      · rfl
      · rw [ih (List.pairwise_cons.1 h).2 ((List.mem_cons.1 hkey).resolve_left heq)]

/-- The entry of a new key is put where its key belongs. -/
lemma addEntry_of_not_mem (hkey : key ∉ entries.map Prod.fst) :
    addEntry key value entries
      = entries.orderedInsert (fun a b => a.1 ≤ b.1) (key, value) := by
  induction entries with
  | nil => rfl
  | cons first entries ih =>
      obtain ⟨k, v⟩ := first
      obtain ⟨hne, hentries⟩ := not_or.1 (List.mem_cons.not.1 hkey)
      rw [addEntry, List.orderedInsert_cons, ih hentries, if_neg hne]
      simp only [le_iff_lt_or_eq, show key ≠ k from hne, or_false]

/-- What is under a key stays, and what is added is under its own key if nothing was. -/
lemma lookup_addEntry (h : Ascending entries) (wanted : String) :
    (addEntry key value entries).lookup wanted
      = (entries.lookup wanted).or ([(key, value)].lookup wanted) := by
  induction entries with
  | nil => rfl
  | cons first entries ih =>
      obtain ⟨k, v⟩ := first
      rw [addEntry]
      split_ifs with hlt heq
      · have hnone : ((k, v) :: entries).lookup key = none := by
          refine List.lookup_eq_none_iff.2 fun entry hentry => bne_iff_ne.2 fun heq => ?_
          exact h.not_mem_of_lt hlt (heq ▸ List.mem_map_of_mem hentry)
        rw [← List.singleton_append, List.lookup_append]
        rcases eq_or_ne wanted key with rfl | hne
        · rw [hnone, Option.or_none, Option.none_or]
        · rw [List.lookup_cons, beq_false_of_ne hne, List.lookup_nil, Option.none_or,
            Option.or_none]
      · subst heq
        rw [List.lookup_cons, List.lookup_cons]
        cases wanted == key <;> simp
      · rw [List.lookup_cons, List.lookup_cons, ih (List.pairwise_cons.1 h).2]
        cases wanted == k <;> rfl

end

/-! ## Sorting -/

lemma mem_keys_sortEntries (entries : List (String × Value)) (key : String) :
    key ∈ (sortEntries entries).map Prod.fst ↔ key ∈ entries.map Prod.fst := by
  induction entries with
  | nil => rfl
  | cons entry entries ih =>
      rw [sortEntries_cons, List.map_cons, List.mem_cons, ← ih]
      by_cases hkey : entry.1 ∈ (sortEntries entries).map Prod.fst
      · rw [addEntry_of_mem (ascending_sortEntries entries) hkey]
        exact ⟨.inr, fun h => h.elim (fun heq => heq ▸ hkey) id⟩
      · rw [addEntry_of_not_mem hkey, ((List.perm_orderedInsert _ _ _).map Prod.fst).mem_iff,
          List.map_cons, List.mem_cons]

/-- **The entries that a map keeps** are the last one of each key, in the order of the keys. -/
theorem sortEntries_eq_inKeyOrder (entries : List (String × Value)) :
    sortEntries entries = inKeyOrder entries := by
  induction entries with
  | nil => rfl
  | cons entry entries ih =>
      rw [sortEntries_cons, inKeyOrder, lastOfEach]
      split_ifs with hkey
      · rw [addEntry_of_mem (ascending_sortEntries entries) ((mem_keys_sortEntries _ _).2 hkey),
          ih, inKeyOrder]
      · rw [addEntry_of_not_mem ((mem_keys_sortEntries _ _).not.2 hkey), ih, inKeyOrder,
          List.insertionSort_cons]

/-- What a map has for a key is what was written for it last. -/
lemma lookup_sortEntries (entries : List (String × Value)) (key : String) :
    (sortEntries entries).lookup key = entries.reverse.lookup key := by
  induction entries with
  | nil => rfl
  | cons entry entries ih =>
      rw [sortEntries_cons, lookup_addEntry (ascending_sortEntries entries), ih,
        List.reverse_cons, List.lookup_append]

/-- The keys of entries in the order of their keys are ascending. -/
lemma pairwise_inKeyOrder {α : Type} (entries : List (String × α)) :
    ((inKeyOrder entries).map Prod.fst).Pairwise (· < ·) := by
  have hascending := ascending_sortEntries (entries.map (Prod.map id fun _ => nil))
  rwa [sortEntries_eq_inKeyOrder, inKeyOrder_map, Ascending, keys_map] at hascending

/-! ## Maps in programs -/

lemma ofItems_eq_map (items : List Expr) : ofItems items = items.map ofExpr := by
  induction items with
  | nil => rfl
  | cons item items ih => rw [ofItems, ih, List.map_cons]

lemma ofExprEntries_eq_map (entries : List (String × Expr)) :
    ofExprEntries entries = entries.map (Prod.map id ofExpr) := by
  induction entries with
  | nil => rfl
  | cons entry entries ih => rw [ofExprEntries, ih, List.map_cons, Prod.map, id]

/-- The value of a map has the values of the entries that it keeps. -/
lemma ofExpr_map (entries : List (String × Expr)) :
    ofExpr (.map entries) = .map ((inKeyOrder entries).map (Prod.map id ofExpr)) := by
  rw [ofExpr, ofEntries, ofExprEntries_eq_map, sortEntries_eq_inKeyOrder, inKeyOrder_map]

/-- The entry that is written last for a key is the one that the value of a map has. -/
lemma lookup_inKeyOrder (entries : List (String × Expr)) (key : String) :
    ((inKeyOrder entries).map (Prod.map id ofExpr)).lookup key
      = (entries.reverse.lookup key).map ofExpr := by
  rw [← inKeyOrder_map, ← sortEntries_eq_inKeyOrder, lookup_sortEntries,
    ← List.map_reverse]
  induction entries.reverse with
  | nil => rfl
  | cons entry entries ih =>
      rw [List.map_cons, Prod.map, id, List.lookup_cons, List.lookup_cons, ih]
      cases key == entry.1 <;> rfl

end Value

end Missive
