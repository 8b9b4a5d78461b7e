import Missive.Proofs.Eval.Fuel
import Missive.Proofs.Eval.Provenance

/-!
# What evaluates to itself

Data is what is built from nil, numbers, strings, arrays, maps, pairs and messages.  Evaluation goes
through data and rebuilds it as it was, wherever these types have their built-in replies.

Where programs start nothing else comes to itself.  What an answer holds besides data was inside of
a deferred value of the program, and is smaller than that value; so the largest such part of a
program is not in its answer, and no program with code in it reproduces itself.

* `Value.Data`: the value is data.
* `yields_data`: data is evaluated to itself.
* `Closure.quoted`: the program quotes what its answer holds besides data.
* `Value.data_of_quotes`: a value that quotes all that it holds besides data is data.
* `data_fixed`: data and what evaluates to itself.
-/

namespace Missive

/-- The types of values that are data if their parts are. -/
def Tag.Plain : Tag → Prop
  | nil | integer | float | string | array | map | pair | message => True
  | _ => False

namespace Value

/-- The value is built from nil, numbers, strings, arrays, maps, pairs and messages only. -/
def Data (value : Value) : Prop :=
  value.Everywhere fun node => node.tag.Plain

lemma Data.plain {value : Value} (h : value.Data) : value.tag.Plain :=
  h value .self

lemma Data.part {part value : Value} (h : value.Data) (hpart : part ∈ value.parts) : part.Data :=
  (everywhere_iff.1 h).2 part hpart

end Value

/-! ## Data -/

namespace EvalM

variable {α : Type} {store : Store}

/-- Items each of which comes to itself. -/
lemma yields_mapM_self {f : α → EvalM α} {items : List α}
    (h : ∀ item ∈ items, Yields store (f item) (.ok item)) :
    Yields store (items.mapM f) (.ok items) := by
  induction items with
  | nil => rfl
  | cons item items ih =>
      obtain ⟨hitem, hitems⟩ := List.forall_mem_cons.1 h
      rw [List.mapM_cons]
      exact (hitem.bind_ok _).trans ((ih hitems).bind_ok fun items => pure (item :: items))

end EvalM

open EvalM (Yields yields_mapM_self)
open Value (Everywhere Occurs)

/-- **Data is evaluated to itself**, with as much fuel as it has nodes and in any frame that has the
built-in replies for the types that data is built from. -/
theorem yields_data {store : Store} {id : FrameId}
    (hequipped : ∀ tag : Tag, tag.Plain → store.Equipped id tag) (value : Value) :
    value.Data → ∀ fuel, value.nodes ≤ fuel →
      Yields store (evaluate fuel id value) (.ok value) := by
  induction value using Value.induction_parts with
  | step value ih =>
      intro hdata fuel hfuel
      obtain ⟨fuel, rfl⟩ := Nat.exists_eq_add_one_of_ne_zero
        (Nat.ne_of_gt (Nat.lt_of_lt_of_le value.nodes_pos hfuel))
      have hparts : ∀ part ∈ value.parts,
          Yields store ((send fuel).evaluate id part) (.ok part) := by
        intro part hpart
        have hnodes := Value.nodes_lt_of_mem_parts hpart
        exact ih part hpart (hdata.part hpart) fuel (by omega)
      have hreply : ∀ {reply : Reply}, value.tag.evalReply? = some reply →
          Yields store (reply.run (send fuel) id value .nil) (.ok value) →
          Yields store (evaluate (fuel + 1) id value) (.ok value) :=
        fun h => (evaluate_equipped (hequipped _ hdata.plain) h fuel).trans
      cases value with
      | nil | integer _ | float _ | string _ => exact hreply rfl rfl
      | array items => exact hreply rfl ((yields_mapM_self hparts).map Value.array)
      | map entries =>
          refine hreply rfl ((yields_mapM_self fun entry hentry => ?_).map Value.map)
          exact (hparts entry.2 (List.mem_map_of_mem hentry)).map (Prod.mk entry.1)
      | pair left right =>
          have hleft := hparts left (by simp)
          have hright := hparts right (by simp)
          exact hreply rfl ((hleft.bind_ok _).trans
            (hright.bind_ok fun right => pure (Value.pair left right)))
      | message verb object =>
          exact hreply rfl ((hparts object (by simp)).map (Value.message verb))
      | name _ | later _ | block _ | send _ _ _ | handler _ => exact hdata.plain.elim

/-! ## Everything else -/

/-- What holds of all that the parts of a value hold besides data holds of all that the value holds
besides data, if it is of a plain type itself. -/
lemma Value.everywhere_of_plain {p : Value → Prop} {value : Value} (h : value.tag.Plain)
    (hparts : ∀ part ∈ value.parts, part.Everywhere fun node => ¬ node.tag.Plain → p node) :
    value.Everywhere fun node => ¬ node.tag.Plain → p node :=
  everywhere_iff.2 ⟨fun hcode => absurd h hcode, hparts⟩

lemma Value.Datum.plain {value : Value} (h : value.Datum) : value.tag.Plain := by
  cases h <;> trivial

/-- Programs are evaluated to values that are data but for what the program quotes. -/
def Closure.quoted (program : Value) : Closure where
  Source := Everywhere fun node => ¬ node.tag.Plain → Occurs node program
  Answer := Everywhere fun node => ¬ node.tag.Plain → program.Quotes node
  source h node hnode hcode := (h node hnode hcode).occurs
  part h hpart := (Value.everywhere_iff.1 h).2 _ (Value.mem_parts_of_mem_exposedParts hpart)
  body {body} h node hnode _ := ⟨body, h (.later body) .self id, hnode⟩
  datum h := h.everywhere fun hcode => absurd h.plain hcode
  array h := Value.everywhere_of_plain trivial h
  map _ _ hresults := by
    refine Value.everywhere_of_plain trivial fun part hpart => ?_
    obtain ⟨result, hresult, rfl⟩ := List.mem_map.1 hpart
    exact hresults result hresult
  pair hleft hright := Value.everywhere_of_plain trivial (by simpa using ⟨hleft, hright⟩)
  message _ hresult := Value.everywhere_of_plain trivial (by simpa using hresult)
  entry h hvalue := (Value.everywhere_iff.1 h).2 _ hvalue

namespace Value

/-- What is quoted is smaller than the deferred value that it lies in. -/
lemma Quotes.exists_larger {program code : Value} (h : program.Quotes code) :
    ∃ larger, Occurs larger program ∧ ¬ larger.tag.Plain ∧ code.nodes < larger.nodes := by
  obtain ⟨body, hbody, hcode⟩ := h
  exact ⟨later body, hbody, id, Nat.lt_succ_of_le (nodes_le_of_occurs hcode)⟩

/-- **No value quotes itself.**  If all that a value holds besides data lies inside of deferred
values that it holds, then it holds nothing besides data. -/
theorem data_of_quotes {value : Value}
    (h : value.Everywhere fun node => ¬ node.tag.Plain → value.Quotes node) : value.Data := by
  by_contra hdata
  -- to each piece of code there is a larger one, but none is larger than the value
  have hlarge : ∀ size, ∃ code, Occurs code value ∧ ¬ code.tag.Plain ∧ size ≤ code.nodes := by
    intro size
    induction size with
    | zero =>
        obtain ⟨code, hcode⟩ := not_forall.1 hdata
        obtain ⟨hoccurs, htag⟩ := Classical.not_imp.1 hcode
        exact ⟨code, hoccurs, htag, Nat.zero_le _⟩
    | succ size ih =>
        obtain ⟨code, hoccurs, htag, hsize⟩ := ih
        obtain ⟨larger, hlarger, htag', hlt⟩ := (h code hoccurs htag).exists_larger
        exact ⟨larger, hlarger, htag', Nat.lt_of_le_of_lt hsize hlt⟩
  obtain ⟨code, hoccurs, -, hsize⟩ := hlarge (value.nodes + 1)
  exact Nat.not_succ_le_self _ (hsize.trans (nodes_le_of_occurs hoccurs))

end Value

/-- What a program is evaluated to in the root frame is data but for what the program quotes. -/
lemma quotes_of_evaluateAtRoot {fuel : Nat} {program result : Value}
    (h : evaluateAtRoot fuel program = .ok result) :
    result.Everywhere fun node => ¬ node.tag.Plain → program.Quotes node := by
  have hmeaning : interpret none program = some (.ok result) := interpret_of_evaluateAtRoot h
  exact (Closure.quoted program).interpret hmeaning (Closure.scoped_none _)
    (fun node hnode _ => hnode) result rfl

/-! ## Fixed points -/

/-- **Fixed points of evaluation.**  In a frame that has the built-in replies for the types that
data is built from, all data comes to itself.  In the root frame a value is evaluated to itself if
and only if it is data. -/
theorem data_fixed :
    (∀ {store : Store} {id : FrameId} {value : Value},
      (∀ tag : Tag, tag.Plain → store.Equipped id tag) → value.Data →
      Settles (store.outcomes id value) (some (.ok value))) ∧
    ∀ value, (∃ fuel, evaluateAtRoot fuel value = .ok value) ↔ value.Data := by
  constructor
  · intro store id value hequipped hdata
    exact ⟨value.nodes, fun fuel hfuel =>
      congrArg Prod.fst (yields_data hequipped value hdata fuel hfuel)⟩
  · intro value
    constructor
    · rintro ⟨fuel, hvalue⟩
      exact Value.data_of_quotes (quotes_of_evaluateAtRoot hvalue)
    · intro hdata
      have hequipped : ∀ tag : Tag, tag.Plain →
          (Store.addRoot.run {}).2.Equipped (Store.addRoot.run {}).1 tag :=
        fun tag _ => Store.sees_addRoot.replies tag
      refine ⟨value.nodes, ?_⟩
      rw [evaluateAtRoot_eq]
      exact congrArg Prod.fst (yields_data hequipped value hdata _ (Nat.le_refl _))

/-- In the root frame a message with a number comes to itself, and an array with a deferred number
does not. -/
theorem data_fixed_deferred :
    Settles ((Store.addRoot.run {}).2.outcomes (Store.addRoot.run {}).1
        (.message "f" (.integer 1))) (some (.ok (.message "f" (.integer 1)))) ∧
      ∀ fuel, evaluateAtRoot fuel (.array [.later (.integer 1)])
        ≠ .ok (.array [.later (.integer 1)]) := by
  have hone : (Value.integer 1).Data := Value.everywhere_iff.2 ⟨trivial, by simp⟩
  have hmessage : (Value.message "f" (.integer 1)).Data := by
    refine Value.everywhere_iff.2 ⟨trivial, fun part hpart => ?_⟩
    obtain rfl : part = .integer 1 := by simpa using hpart
    exact hone
  have harray : ¬ (Value.array [.later (.integer 1)]).Data :=
    fun hdata => hdata (.later (.integer 1)) (.inside List.mem_cons_self .self)
  refine ⟨data_fixed.1 (fun tag _ => Store.sees_addRoot.replies tag) hmessage, fun fuel h => ?_⟩
  exact harray ((data_fixed.2 _).1 ⟨fuel, h⟩)

end Missive
