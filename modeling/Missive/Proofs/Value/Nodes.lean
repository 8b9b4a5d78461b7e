import Missive.Proofs.Value.Parts
import Mathlib.Data.List.Forall2
import Mathlib.Algebra.Order.BigOperators.Group.List
import Mathlib.Algebra.Order.Group.Nat
import Mathlib.Algebra.GroupWithZero.Nat

/-!
# The size of values

`Value.nodes` counts the nodes of a value as a tree: the value itself and the nodes of its parts.
Numbers, strings and names count one, however long they are.

* `Value.Selfless`: neither `it` nor `that` occurs in a value.
* `Value.Tame`: a selfless value that has at most a number of nodes.  A value whose parts are tame
  is tame itself (`Value.Tame.rebuild`).
-/

namespace Missive.Value

mutual

/-- The number of nodes of a value. -/
def nodes : Value → Nat
  | nil | integer _ | float _ | string _ | name _ | handler _ => 1
  | later body => nodes body + 1
  | block items | array items => nodesItems items + 1
  | map entries => nodesEntries entries + 1
  | pair left right => nodes left + nodes right + 1
  | message _ object => nodes object + 1
  | send subject _ object => nodes subject + nodes object + 1
termination_by structural v => v

/-- The number of nodes of all items. -/
def nodesItems : List Value → Nat
  | [] => 0
  | item :: items => nodes item + nodesItems items
termination_by structural vs => vs

/-- The number of nodes of the values of all entries. -/
def nodesEntries : List (String × Value) → Nat
  | [] => 0
  | (_, value) :: entries => nodes value + nodesEntries entries
termination_by structural vs => vs

end

/-- A value has one node more than its parts. -/
lemma nodes_eq_sum (value : Value) : value.nodes = (value.parts.map nodes).sum + 1 := by
  have hitems : ∀ items, nodesItems items = (items.map nodes).sum := by
    intro items
    induction items with
    | nil => rfl
    | cons item items ih => simp [nodesItems, ih]
  have hentries : ∀ entries, nodesEntries entries = ((entries.map Prod.snd).map nodes).sum := by
    intro entries
    induction entries with
    | nil => rfl
    | cons entry entries ih => simp [nodesEntries, ih]
  cases value with
  | block items | array items => exact congrArg (· + 1) (hitems items)
  | map entries => exact congrArg (· + 1) (hentries entries)
  | _ => simp [nodes]

lemma nodes_pos (value : Value) : 0 < value.nodes := by
  rw [nodes_eq_sum]
  exact Nat.succ_pos _

lemma nodes_lt_of_mem_parts {part value : Value} (h : part ∈ value.parts) :
    part.nodes < value.nodes := by
  rw [nodes_eq_sum value]
  exact Nat.lt_succ_of_le (List.le_sum_of_mem (List.mem_map_of_mem h))

lemma nodes_le_of_occurs {part value : Value} (h : Occurs part value) :
    part.nodes ≤ value.nodes := by
  induction h with
  | self => exact Nat.le_refl _
  | inside hpart _ ih => exact ih.trans (nodes_lt_of_mem_parts hpart).le

/-- What holds of a value as soon as it holds of its parts holds of all values. -/
@[elab_as_elim]
lemma induction_parts {P : Value → Prop} (step : ∀ value, (∀ part ∈ value.parts, P part) → P value)
    (value : Value) : P value :=
  step value fun part _ => induction_parts step part
termination_by value.nodes
decreasing_by exact nodes_lt_of_mem_parts ‹_›

/-! ## Values without self-reference -/

/-- Neither `it` nor `that` occurs in the value, deferred bodies included. -/
def Selfless (value : Value) : Prop :=
  ∀ text, Occurs (.name text) value → text ≠ "it" ∧ text ≠ "that"

lemma Selfless.part {part value : Value} (h : value.Selfless) (hpart : part ∈ value.parts) :
    part.Selfless :=
  fun text htext => h text (.inside hpart htext)

lemma Selfless.message {object : Value} (h : object.Selfless) (verb : String) :
    (message verb object).Selfless := by
  intro text htext
  obtain ⟨part, hpart, hoccurs⟩ := htext.exists_piece (by simp)
  obtain rfl : part = object := by simpa using hpart
  exact h text hoccurs

/-- A selfless value with at most the given number of nodes. -/
structure Tame (size : Nat) (value : Value) : Prop where
  selfless : value.Selfless
  nodes_le : value.nodes ≤ size

namespace Tame

variable {size : Nat} {value result : Value}

lemma mono {size' : Nat} (h : Tame size value) (hsize : size ≤ size') : Tame size' value :=
  ⟨h.selfless, Nat.le_trans h.nodes_le hsize⟩

/-- A value without parts that is no name. -/
lemma leaf (hparts : value.parts = []) (hname : ∀ text, value ≠ .name text) (hsize : 0 < size) :
    Tame size value := by
  refine ⟨fun text htext => ?_, ?_⟩
  · exact absurd htext (not_partOf_leaf hparts (hname text).symm)
  · rw [nodes_eq_sum, hparts]
    exact hsize

lemma part (h : Tame (size + 1) value) {part : Value} (hpart : part ∈ value.parts) :
    Tame size part :=
  ⟨h.selfless.part hpart, Nat.lt_succ_iff.1 (Nat.lt_of_lt_of_le (nodes_lt_of_mem_parts hpart)
    h.nodes_le)⟩

/-- Values each of which is tame for one of the parts that it takes the place of. -/
lemma sum_nodes_le {parts parts' : List Value}
    (h : List.Forall₂ (fun part part' => Tame part.nodes part') parts parts') :
    (∀ part' ∈ parts', part'.Selfless) ∧ (parts'.map nodes).sum ≤ (parts.map nodes).sum := by
  induction h with
  | nil => exact ⟨by simp, Nat.le_refl _⟩
  | cons hpart _ ih =>
      refine ⟨List.forall_mem_cons.mpr ⟨hpart.selfless, ih.1⟩, ?_⟩
      simpa using Nat.add_le_add hpart.nodes_le ih.2

/-- A value with tame parts in place of those of another one. -/
lemma rebuild (hname : ∀ text, result ≠ .name text)
    (hparts : List.Forall₂ (fun part part' => Tame part.nodes part') value.parts result.parts) :
    Tame value.nodes result := by
  obtain ⟨hselfless, hsum⟩ := sum_nodes_le hparts
  constructor
  · intro text htext
    obtain ⟨part, hpart, htext⟩ := htext.exists_piece (hname text).symm
    exact hselfless part hpart text htext
  · rw [nodes_eq_sum, nodes_eq_sum]
    exact Nat.succ_le_succ hsum

end Tame

end Missive.Value
