import Missive.Program
import Missive.Proofs.Value.KeyOrder
import Mathlib

/-!
# What becomes of maps in programs

The value of a program forgets the order in which the entries of its maps are written, and those
entries whose keys come again.  It forgets nothing else.

* `Expr.canon`: the expression in which every map is written as its value has it.
* `Value.verbatim`: an expression copied into a value node for node.
* `Value.ofExpr_eq_verbatim`: the value of an expression is a copy of its canonical form.
* `Expr.Edited`: one map somewhere in an expression is written in another way.
* `Expr.Edited.canon_eq`: the canonical form stays.
* `ofExpr_canon`: which expressions have equal values, what the value of a map is, and that edited
  programs have the same outcome.
-/

namespace Missive

/-! ## Canonical forms -/

namespace Expr

mutual

/-- The expression with every map reduced to the last entry of each key, in ascending order of the
keys. -/
def canon : Expr → Expr
  | nil => nil
  | int value => int value
  | float value => float value
  | string value => string value
  | name text => name text
  | later body => later (canon body)
  | block items => block (canonItems items)
  | array items => array (canonItems items)
  | map entries => map (inKeyOrder (canonEntries entries))
  | pair left right => pair (canon left) (canon right)
  | message verb object => message verb (canon object)
  | send subject verb object => send (canon subject) verb (canon object)
termination_by structural e => e

/-- The canonical forms of the items of a block or an array. -/
def canonItems : List Expr → List Expr
  | [] => []
  | item :: items => canon item :: canonItems items
termination_by structural es => es

/-- The canonical forms of the entries of a map, as they are written. -/
def canonEntries : List (String × Expr) → List (String × Expr)
  | [] => []
  | (key, value) :: entries => (key, canon value) :: canonEntries entries
termination_by structural es => es

end

lemma canonItems_eq_map (items : List Expr) : canonItems items = items.map canon := by
  induction items with
  | nil => rfl
  | cons item items ih => rw [canonItems, ih, List.map_cons]

lemma canonEntries_eq_map (entries : List (String × Expr)) :
    canonEntries entries = entries.map (Prod.map id canon) := by
  induction entries with
  | nil => rfl
  | cons entry entries ih => rw [canonEntries, ih, List.map_cons, Prod.map, id]

/-- The entries that count are the same before and after their values are made canonical. -/
lemma canon_map (entries : List (String × Expr)) :
    (map entries).canon = map ((inKeyOrder entries).map (Prod.map id canon)) := by
  rw [canon, canonEntries_eq_map, inKeyOrder_map]

end Expr

/-! ## Values as copies -/

namespace Value

mutual

/-- An expression copied into a value node for node. -/
def verbatim : Expr → Value
  | .nil => nil
  | .int value => integer value
  | .float value => float value
  | .string value => string value
  | .name text => name text
  | .later body => later (verbatim body)
  | .block items => block (verbatimItems items)
  | .array items => array (verbatimItems items)
  | .map entries => map (verbatimEntries entries)
  | .pair left right => pair (verbatim left) (verbatim right)
  | .message verb object => message verb (verbatim object)
  | .send subject verb object => send (verbatim subject) verb (verbatim object)
termination_by structural e => e

/-- The items of a block or an array, copied. -/
def verbatimItems : List Expr → List Value
  | [] => []
  | item :: items => verbatim item :: verbatimItems items
termination_by structural es => es

/-- The entries of a map, copied. -/
def verbatimEntries : List (String × Expr) → List (String × Value)
  | [] => []
  | (key, value) :: entries => (key, verbatim value) :: verbatimEntries entries
termination_by structural es => es

end

lemma verbatimEntries_eq_map (entries : List (String × Expr)) :
    verbatimEntries entries = entries.map (Prod.map id verbatim) := by
  induction entries with
  | nil => rfl
  | cons entry entries ih => rw [verbatimEntries, ih, List.map_cons, Prod.map, id]

mutual

/-- **The value of an expression** is a copy of its canonical form. -/
theorem ofExpr_eq_verbatim : ∀ e : Expr, ofExpr e = verbatim e.canon
  | .nil | .int _ | .float _ | .string _ | .name _ => rfl
  | .later body => congrArg later (ofExpr_eq_verbatim body)
  | .block items => congrArg block (ofItems_eq_verbatimItems items)
  | .array items => congrArg array (ofItems_eq_verbatimItems items)
  | .map entries => by
      rw [ofExpr, ofEntries, ofExprEntries_eq_verbatimEntries entries, verbatimEntries_eq_map,
        sortEntries_eq_inKeyOrder, inKeyOrder_map, Expr.canon, verbatim, verbatimEntries_eq_map]
  | .pair left right => congrArg₂ pair (ofExpr_eq_verbatim left) (ofExpr_eq_verbatim right)
  | .message verb object => congrArg (message verb) (ofExpr_eq_verbatim object)
  | .send subject verb object =>
      congrArg₂ (send · verb ·) (ofExpr_eq_verbatim subject) (ofExpr_eq_verbatim object)

theorem ofItems_eq_verbatimItems : ∀ items : List Expr,
    ofItems items = verbatimItems (Expr.canonItems items)
  | [] => rfl
  | item :: items =>
      congrArg₂ List.cons (ofExpr_eq_verbatim item) (ofItems_eq_verbatimItems items)

theorem ofExprEntries_eq_verbatimEntries : ∀ entries : List (String × Expr),
    ofExprEntries entries = verbatimEntries (Expr.canonEntries entries)
  | [] => rfl
  | (key, value) :: entries =>
      congrArg₂ (fun value entries => (key, value) :: entries) (ofExpr_eq_verbatim value)
        (ofExprEntries_eq_verbatimEntries entries)

end

mutual

/-- The two equalities agree: copies are equal exactly if what they are made from is. -/
theorem verbatim_beq : ∀ e e' : Expr, beq (verbatim e) (verbatim e') = Expr.beq e e'
  | .nil, e' | .int _, e' | .float _, e' | .string _, e' | .name _, e' => by
      cases e' <;> rfl
  | .later body, e' => by
      cases e' with
      | later body' => exact verbatim_beq body body'
      | _ => rfl
  | .block items, e' => by
      cases e' with
      | block items' => exact verbatimItems_beq items items'
      | _ => rfl
  | .array items, e' => by
      cases e' with
      | array items' => exact verbatimItems_beq items items'
      | _ => rfl
  | .map entries, e' => by
      cases e' with
      | map entries' => exact verbatimEntries_beq entries entries'
      | _ => rfl
  | .pair left right, e' => by
      cases e' with
      | pair left' right' =>
          exact congrArg₂ and (verbatim_beq left left') (verbatim_beq right right')
      | _ => rfl
  | .message verb object, e' => by
      cases e' with
      | message verb' object' => exact congrArg (verb == verb' && ·) (verbatim_beq object object')
      | _ => rfl
  | .send subject verb object, e' => by
      cases e' with
      | send subject' verb' object' =>
          exact congrArg₂ (· && verb == verb' && ·) (verbatim_beq subject subject')
            (verbatim_beq object object')
      | _ => rfl

theorem verbatimItems_beq : ∀ items items' : List Expr,
    beqItems (verbatimItems items) (verbatimItems items') = Expr.beqItems items items'
  | [], items' => by cases items' <;> rfl
  | item :: items, [] => rfl
  | item :: items, item' :: items' =>
      congrArg₂ and (verbatim_beq item item') (verbatimItems_beq items items')

theorem verbatimEntries_beq : ∀ entries entries' : List (String × Expr),
    beqEntries (verbatimEntries entries) (verbatimEntries entries')
      = Expr.beqEntries entries entries'
  | [], entries' => by cases entries' <;> rfl
  | _ :: _, [] => rfl
  | (key, value) :: entries, (key', value') :: entries' =>
      congrArg₂ (key == key' && · && ·) (verbatim_beq value value')
        (verbatimEntries_beq entries entries')

end

/-- The value of a map has the keys that are written, in ascending order, and under each of them
what is written for it last. -/
lemma exists_kept (entries : List (String × Expr)) :
    ∃ kept, ofExpr (.map entries) = .map kept ∧ (kept.map Prod.fst).Pairwise (· < ·) ∧
      ∀ key, (key ∈ kept.map Prod.fst ↔ key ∈ entries.map Prod.fst) ∧
        kept.lookup key = (entries.reverse.lookup key).map ofExpr := by
  refine ⟨_, ofExpr_map entries, ?_, fun key => ⟨?_, lookup_inKeyOrder entries key⟩⟩
  · rw [keys_map]
    exact pairwise_inKeyOrder entries
  · rw [← inKeyOrder_map, ← sortEntries_eq_inKeyOrder, mem_keys_sortEntries, keys_map]

end Value

/-! ## Entries that are written in another way -/

section

variable {α : Type}

/-- Entries in a row are written in another way: some of them with different keys change places,
or one whose key comes again is left out. -/
inductive Rewritten : List (String × α) → List (String × α) → Prop
  | permuted (before : List (String × α)) {entries entries' : List (String × α)}
      (after : List (String × α)) :
      entries.Perm entries' → (entries.map Prod.fst).Nodup →
      Rewritten (before ++ entries ++ after) (before ++ entries' ++ after)
  | overwritten (before : List (String × α)) {key : String} (value : α)
      {after : List (String × α)} :
      key ∈ after.map Prod.fst → Rewritten (before ++ (key, value) :: after) (before ++ after)

/-- Of the entries in front those count whose keys do not come again behind. -/
lemma lastOfEach_append (before after : List (String × α)) :
    lastOfEach (before ++ after)
      = (lastOfEach before).filter (fun entry => entry.1 ∉ after.map Prod.fst)
          ++ lastOfEach after := by
  induction before with
  | nil => rfl
  | cons entry before ih =>
      have hkeys : entry.1 ∈ (before ++ after).map Prod.fst ↔
          entry.1 ∈ before.map Prod.fst ∨ entry.1 ∈ after.map Prod.fst := by
        rw [List.map_append, List.mem_append]
      rw [List.cons_append, lastOfEach, lastOfEach, ih]
      by_cases hbefore : entry.1 ∈ before.map Prod.fst
      · rw [if_pos hbefore, if_pos (hkeys.2 (.inl hbefore))]
      · by_cases hafter : entry.1 ∈ after.map Prod.fst
        · rw [if_neg hbefore, if_pos (hkeys.2 (.inr hafter)),
            List.filter_cons_of_neg (by simpa using hafter)]
        · rw [if_neg hbefore, if_neg (hkeys.not.2 (not_or.2 ⟨hbefore, hafter⟩)),
            List.filter_cons_of_pos (by simpa using hafter), List.cons_append]

/-- Rows behind which the same keys and the same entries count may take each other's place. -/
lemma lastOfEach_append_perm (before : List (String × α)) {after after' : List (String × α)}
    (hkeys : ∀ key, key ∈ after.map Prod.fst ↔ key ∈ after'.map Prod.fst)
    (h : (lastOfEach after).Perm (lastOfEach after')) :
    (lastOfEach (before ++ after)).Perm (lastOfEach (before ++ after')) := by
  rw [lastOfEach_append, lastOfEach_append]
  simp only [hkeys]
  exact h.append_left _

/-- The order in which entries are written does not matter if the same ones count. -/
lemma inKeyOrder_eq_of_perm {entries entries' : List (String × α)}
    (h : (lastOfEach entries).Perm (lastOfEach entries')) :
    inKeyOrder entries = inKeyOrder entries' := by
  have hperm : (inKeyOrder entries).Perm (inKeyOrder entries') :=
    (List.perm_insertionSort _ _).trans (h.trans (List.perm_insertionSort _ _).symm)
  refine hperm.eq_of_pairwise ?_
    (List.pairwise_map.1 (Value.pairwise_inKeyOrder entries))
    (List.pairwise_map.1 (Value.pairwise_inKeyOrder entries'))
  exact fun a b _ _ hlt hlt' => absurd hlt' (lt_asymm hlt)

/-- **Rewritten entries** count as before. -/
theorem Rewritten.inKeyOrder_eq {entries entries' : List (String × α)}
    (h : Rewritten entries entries') : inKeyOrder entries = inKeyOrder entries' := by
  apply inKeyOrder_eq_of_perm
  cases h with
  | @permuted before entries entries' after hperm hnodup =>
      rw [List.append_assoc, List.append_assoc]
      refine lastOfEach_append_perm before (fun key => ?_) ?_
      · simp only [List.map_append, List.mem_append, (hperm.map Prod.fst).mem_iff]
      · rw [lastOfEach_append, lastOfEach_append, lastOfEach_of_nodup hnodup,
          lastOfEach_of_nodup ((hperm.map Prod.fst).nodup_iff.1 hnodup)]
        exact (hperm.filter _).append_right _
  | @overwritten before key value after hkey =>
      refine lastOfEach_append_perm before (fun other => ?_) ?_
      · rw [List.map_cons, List.mem_cons]
        exact ⟨fun h => h.elim (fun heq => heq ▸ hkey) id, .inr⟩
      · rw [lastOfEach, if_pos hkey]

end

/-! ## Edited programs -/

namespace Expr

/-- A place for an expression directly inside of another one. -/
inductive Site
  | laterBody
  | blockItem (before after : List Expr)
  | arrayItem (before after : List Expr)
  | mapValue (before : List (String × Expr)) (key : String) (after : List (String × Expr))
  | pairLeft (right : Expr)
  | pairRight (left : Expr)
  | messageObject (verb : String)
  | sendSubject (verb : String) (object : Expr)
  | sendObject (subject : Expr) (verb : String)

/-- The expression with another one in a place. -/
def Site.fill : Site → Expr → Expr
  | laterBody, e => .later e
  | blockItem before after, e => .block (before ++ e :: after)
  | arrayItem before after, e => .array (before ++ e :: after)
  | mapValue before key after, e => .map (before ++ (key, e) :: after)
  | pairLeft right, e => .pair e right
  | pairRight left, e => .pair left e
  | messageObject verb, e => .message verb e
  | sendSubject verb object, e => .send e verb object
  | sendObject subject verb, e => .send subject verb e

/-- The entries of one map, anywhere in the expression, are rewritten. -/
inductive Edited : Expr → Expr → Prop
  | here {entries entries' : List (String × Expr)} :
      Rewritten entries entries' → Edited (.map entries) (.map entries')
  | inside (site : Site) {e e' : Expr} : Edited e e' → Edited (site.fill e) (site.fill e')

/-- The canonical form of an expression depends on that of what is in a place, and not on how it
is written. -/
lemma Site.canon_fill (site : Site) {e e' : Expr} (h : e.canon = e'.canon) :
    (site.fill e).canon = (site.fill e').canon := by
  cases site <;> simp [fill, canon, canonItems_eq_map, canonEntries_eq_map, h]

/-- **One edit** leaves the canonical form as it is. -/
theorem Edited.canon_eq {e e' : Expr} (h : Edited e e') : e.canon = e'.canon := by
  induction h with
  | here hentries => rw [canon_map, canon_map, hentries.inKeyOrder_eq]
  | inside site _ ih => exact site.canon_fill ih

/-- Any number of edits leave the value as it is. -/
theorem ofExpr_eq_of_edited {e e' : Expr} (h : Relation.ReflTransGen Edited e e') :
    Value.ofExpr e = Value.ofExpr e' := by
  have hcanon : e.canon = e'.canon := by
    induction h with
    | refl => rfl
    | tail _ hstep ih => exact ih.trans hstep.canon_eq
  rw [Value.ofExpr_eq_verbatim, Value.ofExpr_eq_verbatim, hcanon]

end Expr

/-- **What a program forgets when it becomes a value.**  Expressions have equal values exactly if
their canonical forms are equal; the value of a map has the keys that are written, in ascending
order, and under each of them what is written for it last; and programs that differ by edits of
their maps have the same outcome. -/
theorem ofExpr_canon :
    (∀ e e' : Expr, (Value.ofExpr e == Value.ofExpr e') = true ↔ (e.canon == e'.canon) = true) ∧
    (∀ entries : List (String × Expr), ∃ kept, Value.ofExpr (.map entries) = .map kept ∧
      (kept.map Prod.fst).Pairwise (· < ·) ∧
      ∀ key, (key ∈ kept.map Prod.fst ↔ key ∈ entries.map Prod.fst) ∧
        kept.lookup key = (entries.reverse.lookup key).map Value.ofExpr) ∧
    (∀ (source source' : String) (e e' : Expr), parse source = .ok e → parse source' = .ok e' →
      Relation.ReflTransGen Expr.Edited e e' → ∀ fuel, run fuel source = run fuel source') := by
  refine ⟨fun e e' => ?_, Value.exists_kept, ?_⟩
  · rw [Value.ofExpr_eq_verbatim, Value.ofExpr_eq_verbatim]
    exact Bool.eq_iff_iff.1 (Value.verbatim_beq e.canon e'.canon)
  · intro source source' e e' h h' hedited fuel
    have hsource : Value.ofSource source = Value.ofSource source' := by
      rw [Value.ofSource, Value.ofSource, h, h']
      exact congrArg Except.ok (Expr.ofExpr_eq_of_edited hedited)
    rw [run, run, hsource]

/-- A map in an array has the same outcome without an entry that is overwritten, and with the other
two the other way round. -/
theorem ofExpr_canon_rewritten :
    ∀ fuel, run fuel "[#\x7b\"b\": 1, \"a\": 2, \"b\": 3\x7d]"
      = run fuel "[#\x7b\"b\": 3, \"a\": 2\x7d]" := by
  have h : parse "[#\x7b\"b\": 1, \"a\": 2, \"b\": 3\x7d]"
      = .ok (.array [.map [("b", .int 1), ("a", .int 2), ("b", .int 3)]]) := by cbv
  have h' : parse "[#\x7b\"b\": 3, \"a\": 2\x7d]"
      = .ok (.array [.map [("b", .int 3), ("a", .int 2)]]) := by cbv
  have hleftOut : Rewritten [("b", Expr.int 1), ("a", .int 2), ("b", .int 3)]
      [("a", .int 2), ("b", .int 3)] :=
    @Rewritten.overwritten Expr [] "b" (.int 1) [("a", .int 2), ("b", .int 3)] (by decide)
  have hswapped : Rewritten [("a", Expr.int 2), ("b", .int 3)] [("b", .int 3), ("a", .int 2)] :=
    @Rewritten.permuted Expr [] [("a", .int 2), ("b", .int 3)] _ [] (.swap _ _ _) (by decide)
  have hinArray : ∀ {entries entries' : List (String × Expr)}, Rewritten entries entries' →
      Expr.Edited (.array [.map entries]) (.array [.map entries']) :=
    fun hrewritten => .inside (.arrayItem [] []) (.here hrewritten)
  exact ofExpr_canon.2.2 _ _ _ _ h h' (.head (hinArray hleftOut) (.single (hinArray hswapped)))

end Missive
