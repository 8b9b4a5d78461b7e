import Missive.Proofs.Eval.Refinement
import Missive.Proofs.Render.Words
import Missive.Proofs.Value.KeyOrder
import Mathlib.Data.List.Perm.Subperm

/-!
# Comparisons form an order

Nil, integers and strings are compared by their prototypes, with a table of replies for each type.
The replies answer with nil or with a value that is not nil; what is behind them is one relation on
values (`Value.Related`), which is the order of numbers on integers and the lexicographic order of
scalar values on strings.

* `Operator.decides_compare`, `Operator.decides_compareNil`: the replies decide the relation.
* `Store.settles_comparison`: a comparison comes to what its reply decides, wherever the type of its
  subject has its built-in replies.
* `Store.holds_iff`: hence it is true exactly if the relation holds.
* `Store.holds_laws`, `Store.holds_iff_related`, `Store.holds_less_iff_sublist`: the laws.
* `comparisons_order`: what is answered, and the laws of an order.
-/

namespace Missive

/-! ## Relations -/

/-- A relation between two things in a linear order. -/
def Relation.Between {α : Type} [LinearOrder α] : Relation → α → α → Prop
  | less, a, b => a < b
  | lessEqual, a, b => a ≤ b
  | greater, a, b => b < a
  | greaterEqual, a, b => b ≤ a
  | equal, a, b => a = b
  | notEqual, a, b => a ≠ b

namespace Relation

variable {α β : Type} [LinearOrder α] [LinearOrder β]

/-- The tests on orderings are the relations. -/
lemma holds_compareOfLessAndEq (relation : Relation) (a b : α) :
    relation.holds (some (compareOfLessAndEq a b)) = true ↔ relation.Between a b := by
  rcases lt_trichotomy a b with hlt | rfl | hlt
  · have horder : compareOfLessAndEq a b = .lt := by simp [compareOfLessAndEq, hlt]
    rw [horder]
    cases relation <;> simp [holds, Between, hlt, hlt.le, hlt.ne, hlt.not_ge, hlt.not_gt]
  · have horder : compareOfLessAndEq a a = .eq := by simp [compareOfLessAndEq]
    rw [horder]
    cases relation <;> simp [holds, Between]
  · have horder : compareOfLessAndEq a b = .gt := by
      simp [compareOfLessAndEq, hlt.not_gt, hlt.ne']
    rw [horder]
    cases relation <;> simp [holds, Between, hlt, hlt.le, hlt.ne', hlt.not_ge, hlt.not_gt]

/-- What is in no order is only unequal. -/
lemma holds_none (relation : Relation) : relation.holds none = true ↔ relation = .notEqual := by
  cases relation <;> decide

/-- Relations go over to another order along a function that keeps the order. -/
lemma between_map {f : α → β} (hf : StrictMono f) (relation : Relation) (a b : α) :
    relation.Between (f a) (f b) ↔ relation.Between a b := by
  cases relation with
  | less => exact hf.lt_iff_lt
  | lessEqual => exact hf.le_iff_le
  | greater => exact hf.lt_iff_lt
  | greaterEqual => exact hf.le_iff_le
  | equal => exact hf.injective.eq_iff
  | notEqual => exact hf.injective.ne_iff

/-- Less is greater the other way round, equality goes both ways, and inequality is its
complement. -/
lemma between_laws (a b : α) :
    (less.Between a b ↔ greater.Between b a) ∧ (equal.Between a b ↔ equal.Between b a) ∧
      (notEqual.Between a b ↔ ¬ equal.Between a b) :=
  ⟨Iff.rfl, eq_comm, Iff.rfl⟩

/-- Exactly one of three relations is between two things. -/
lemma existsUnique_between (a b : α) :
    ∃! relation, relation ∈ [less, equal, greater] ∧ relation.Between a b := by
  rcases lt_trichotomy a b with hlt | rfl | hlt
  · refine ⟨less, by simp [Between, hlt], ?_⟩
    rintro (_ | _ | _ | _ | _ | _) <;> simp [Between, hlt.ne, hlt.not_gt]
  · refine ⟨equal, by simp [Between], ?_⟩
    rintro (_ | _ | _ | _ | _ | _) <;> simp [Between]
  · refine ⟨greater, by simp [Between, hlt], ?_⟩
    rintro (_ | _ | _ | _ | _ | _) <;> simp [Between, hlt.ne', hlt.not_gt]

/-- Each of the three is transitive. -/
lemma between_trans {relation : Relation} (hrelation : relation ∈ [less, equal, greater])
    {a b c : α} (hab : relation.Between a b) (hbc : relation.Between b c) :
    relation.Between a c := by
  cases relation with
  | less => exact lt_trans hab hbc
  | equal => exact Eq.trans hab hbc
  | greater => exact lt_trans hbc hab
  | _ => simp at hrelation

end Relation

/-- The scalar values of the characters of a string. -/
def scalars (s : String) : List Nat :=
  s.toList.map Char.toNat

/-- Strings are in the lexicographic order of their scalar values. -/
lemma strictMono_scalars : StrictMono scalars := by
  intro a b h
  exact List.map_lt (fun _ _ hlt => hlt) (String.lt_iff_toList_lt.1 h)

namespace Value

/-! ## What is compared -/

/-- The value is nil, an integer or a string. -/
def Comparable : Value → Prop
  | nil | integer _ | string _ => True
  | _ => False

/-- Neither of the values is nil, and they are of different types. -/
def Mismatched (subject object : Value) : Prop :=
  subject.tag ≠ .nil ∧ object.tag ≠ .nil ∧ subject.tag ≠ object.tag

/-- What the comparisons say about two values: integers are in the order of the numbers that they
stand for, strings in the lexicographic order of their scalar values, and nil is equal to itself
only. -/
def Related (relation : Relation) : Value → Value → Prop
  | integer a, integer b => relation.Between a.toInt b.toInt
  | string a, string b => relation.Between (scalars a) (scalars b)
  | nil, nil => relation = .equal
  | nil, _ => relation = .notEqual
  | _, nil => relation = .notEqual
  | _, _ => False

/-- What stands for true in a comparison: the subject if it is not nil; otherwise the operand, or
one if that is nil as well. -/
def truth : Value → Value → Value
  | nil, nil => integer 1
  | nil, object => object
  | subject, _ => subject

/-- What stands for true is true. -/
lemma truth_ne_nil (subject object : Value) : subject.truth object ≠ .nil := by
  cases subject <;> cases object <;> simp [truth]

/-- Two values that can be compared and match are of one type, or one of them is nil. -/
inductive Matching : Value → Value → Prop
  | integers (a b : Int64) : Matching (integer a) (integer b)
  | strings (a b : String) : Matching (string a) (string b)
  | nils : Matching nil nil
  | nilLeft {object : Value} (hobject : object ≠ nil) : Matching nil object
  | nilRight {subject : Value} (hsubject : subject ≠ nil) : Matching subject nil

lemma matching {subject object : Value} (hsubject : subject.Comparable)
    (hobject : object.Comparable) (hmatch : ¬ subject.Mismatched object) :
    Matching subject object := by
  cases subject with
  | nil =>
      cases object with
      | nil => exact .nils
      | _ => exact .nilLeft nofun
  | integer a =>
      cases object with
      | nil => exact .nilRight nofun
      | integer b => exact .integers a b
      | string b => exact absurd ⟨nofun, nofun, nofun⟩ hmatch
      | _ => cases hobject
  | string a =>
      cases object with
      | nil => exact .nilRight nofun
      | integer b => exact absurd ⟨nofun, nofun, nofun⟩ hmatch
      | string b => exact .strings a b
      | _ => cases hobject
  | _ => cases hsubject

/-- Nothing but inequality is between nil and another value. -/
lemma related_nil_left {relation : Relation} {object : Value} (h : object ≠ nil) :
    Related relation nil object ↔ relation = .notEqual := by
  cases object with
  | nil => exact absurd rfl h
  | _ => exact Iff.rfl

lemma related_nil_right {relation : Relation} {subject : Value} (h : subject ≠ nil) :
    Related relation subject nil ↔ relation = .notEqual := by
  cases subject with
  | nil => exact absurd rfl h
  | _ => exact Iff.rfl

/-- The laws that relate two comparisons hold for nil as well. -/
lemma Matching.laws {a b : Value} (h : Matching a b) :
    (Related .less a b ↔ Related .greater b a) ∧ (Related .equal a b ↔ Related .equal b a) ∧
      (Related .notEqual a b ↔ ¬ Related .equal a b) := by
  cases h with
  | integers a b => exact Relation.between_laws a.toInt b.toInt
  | strings a b => exact Relation.between_laws (scalars a) (scalars b)
  | nils => simp [Related]
  | nilLeft hobject => simp [related_nil_left hobject, related_nil_right hobject]
  | nilRight hsubject => simp [related_nil_left hsubject, related_nil_right hsubject]

lemma exists_integer {value : Value} (h : value.tag = .integer) : ∃ a, value = integer a := by
  cases value with
  | integer a => exact ⟨a, rfl⟩
  | _ => cases h

lemma exists_string {value : Value} (h : value.tag = .string) : ∃ a, value = string a := by
  cases value with
  | string a => exact ⟨a, rfl⟩
  | _ => cases h

/-- Exactly one of three relations is between two integers or two strings. -/
lemma existsUnique_related {type : Tag} (htype : type = .integer ∨ type = .string) {a b : Value}
    (ha : a.tag = type) (hb : b.tag = type) :
    ∃! relation, relation ∈ [Relation.less, .equal, .greater] ∧ Related relation a b := by
  rcases htype with rfl | rfl
  · obtain ⟨a, rfl⟩ := exists_integer ha
    obtain ⟨b, rfl⟩ := exists_integer hb
    exact Relation.existsUnique_between a.toInt b.toInt
  · obtain ⟨a, rfl⟩ := exists_string ha
    obtain ⟨b, rfl⟩ := exists_string hb
    exact Relation.existsUnique_between (scalars a) (scalars b)

/-- Each of the three is transitive on integers and on strings. -/
lemma related_trans {type : Tag} (htype : type = .integer ∨ type = .string) {a b c : Value}
    (ha : a.tag = type) (hb : b.tag = type) (hc : c.tag = type) {relation : Relation}
    (hrelation : relation ∈ [Relation.less, .equal, .greater]) (hab : Related relation a b)
    (hbc : Related relation b c) : Related relation a c := by
  rcases htype with rfl | rfl
  · obtain ⟨a, rfl⟩ := exists_integer ha
    obtain ⟨b, rfl⟩ := exists_integer hb
    obtain ⟨c, rfl⟩ := exists_integer hc
    exact Relation.between_trans hrelation hab hbc
  · obtain ⟨a, rfl⟩ := exists_string ha
    obtain ⟨b, rfl⟩ := exists_string hb
    obtain ⟨c, rfl⟩ := exists_string hc
    exact Relation.between_trans hrelation hab hbc

lemma comparable_iff {value : Value} :
    value.Comparable ↔ value.tag = .nil ∨ value.tag = .integer ∨ value.tag = .string := by
  cases value <;> simp [Comparable, tag]

/-- The answer to a comparison decides whether the relation holds: a mismatch is an error, and
otherwise the result is nil if the relation does not hold, and what stands for true if it does. -/
structure Decides (relation : Relation) (subject object : Value)
    (answer : Except EvalError Value) : Prop where
  mismatch : (∃ expected left right, answer = .error (.typeMismatch expected left right)) ↔
    subject.Mismatched object
  result : ¬ subject.Mismatched object →
    ∃ result, answer = .ok result ∧ (result = .nil ↔ ¬ Related relation subject object) ∧
      (Related relation subject object → result = subject.truth object)

/-- A result that depends on the relation decides it. -/
lemma Decides.of_related {relation : Relation} {subject object result : Value}
    (hmatch : ¬ subject.Mismatched object)
    (htrue : Related relation subject object → result = subject.truth object)
    (hfalse : ¬ Related relation subject object → result = .nil) :
    Decides relation subject object (.ok result) := by
  refine ⟨by simp [hmatch], fun _ => ⟨result, rfl, ⟨?_, hfalse⟩, htrue⟩⟩
  intro hnil hrelated
  exact truth_ne_nil subject object ((htrue hrelated).symm.trans hnil)

end Value

/-! ## What the replies decide -/

namespace Operator

open Value

/-- The order of two integers or strings is the relation on them. -/
lemma holds_order {relation : Relation} {subject object : Value}
    (hmatching : Matching subject object) (hnil : subject.tag ≠ .nil) :
    relation.holds (order subject object) = true ↔ Related relation subject object := by
  cases hmatching with
  | integers a b =>
      rw [order_eq]
      exact relation.holds_compareOfLessAndEq a.toInt b.toInt
  | strings a b =>
      exact (relation.holds_compareOfLessAndEq a b).trans
        (relation.between_map strictMono_scalars a b).symm
  | nils => exact absurd rfl hnil
  | nilLeft => exact absurd rfl hnil
  | nilRight hsubject =>
      have horder : order subject .nil = none := by cases subject <;> rfl
      rw [related_nil_right hsubject, horder, relation.holds_none]

/-- The comparison of integers and that of strings decide the relation. -/
lemma decides_compare {type : Ordered} (relation : Relation) {subject object : Value}
    (hsubject : subject.Comparable) (hobject : object.Comparable)
    (htype : subject.tag = type.tag) :
    Decides relation subject object (compare type relation subject object) := by
  have hnil : subject.tag ≠ .nil := by
    rw [htype]
    cases type <;> decide
  by_cases hmatch : subject.Mismatched object
  · obtain ⟨-, hobjectNil, hne⟩ := hmatch
    have hanswer : compare type relation subject object
        = .error (.mismatch type.tag subject object) := by
      rw [compare, if_neg]
      rintro ⟨-, heq | hnilObject⟩
      · exact hne (htype.trans heq.symm)
      · exact hobjectNil hnilObject
    rw [hanswer]
    exact ⟨⟨fun _ => ⟨hnil, hobjectNil, hne⟩, fun _ => ⟨_, _, _, rfl⟩⟩,
      fun hmatch => absurd ⟨hnil, hobjectNil, hne⟩ hmatch⟩
  · have htypes : object.tag = type.tag ∨ object.tag = .nil := by
      by_contra hneither
      rw [not_or, ← htype] at hneither
      exact hmatch ⟨hnil, hneither.2, Ne.symm hneither.1⟩
    have htruth : subject.truth object = subject := by
      cases subject with
      | nil => exact absurd rfl hnil
      | _ => rfl
    have hholds := @holds_order relation _ _ (matching hsubject hobject hmatch) hnil
    rw [compare, if_pos ⟨htype, htypes⟩]
    refine .of_related hmatch ?_ ?_
    · intro hrelated
      rw [if_pos (hholds.2 hrelated), htruth]
    · intro hrelated
      rw [if_neg (hholds.not.2 hrelated)]

/-- The comparison of nil decides the relation. -/
lemma decides_compareNil (relation : Relation) (object : Value) :
    Decides relation .nil object (compareNil relation .nil object) := by
  have hmatch : ¬ Value.nil.Mismatched object := fun hmatch => hmatch.1 rfl
  cases relation <;> cases object <;>
    exact .of_related hmatch (by simp [Related, truth, Value.isNil])
      (by simp [Related, Value.isNil])

end Operator

/-! ## The keys of a map -/

/-- Of two keys in ascending order, the one that comes first is the less one. -/
lemma pair_sublist_iff_lt {keys : List String} (h : keys.Pairwise (· < ·)) {a b : String}
    (ha : a ∈ keys) (hb : b ∈ keys) : [a, b].Sublist keys ↔ a < b := by
  constructor
  · exact fun hsublist => List.pairwise_iff_forall_sublist.1 h hsublist
  · intro hlt
    have hsubperm : [a, b].Subperm keys :=
      List.Nodup.subperm (by simp [hlt.ne]) (by simp [ha, hb])
    exact List.sublist_of_subperm_of_pairwise hsubperm (List.pairwise_pair.2 hlt) h

/-! ## Comparisons in a frame -/

namespace Store

/-- What comes of sending a comparison to a subject in a frame with more and more fuel. -/
def comparison (store : Store) (id : FrameId) (subject : Value) (relation : Relation)
    (object : Value) : Nat → Except (Halt EvalError) Value :=
  fun fuel => ((send fuel id subject relation.verb object).run.run store).1

/-- The comparison is true: it comes to a value that is not nil. -/
def Holds (store : Store) (id : FrameId) (relation : Relation) (subject object : Value) : Prop :=
  ∃ result, Settles (store.comparison id subject relation object) (some (.ok result)) ∧
    result ≠ .nil

variable {store : Store} {id : FrameId} {relation : Relation} {subject object : Value}

/-- A comparison is answered by the reply under its verb. -/
lemma settles_of_reply (reply : Reply) {answer : Except EvalError Value}
    (hequipped : store.Equipped id subject.tag)
    (hreply : subject.tag.reply? relation.verb = some reply)
    (hanswer : ∀ sender, reply.run sender id subject object = EvalM.ofExcept answer) :
    Settles (store.comparison id subject relation object) (some answer) := by
  refine ⟨1, fun fuel hfuel => ?_⟩
  obtain ⟨fuel, rfl⟩ := Nat.exists_eq_add_of_le' hfuel
  rw [comparison, send_equipped hequipped, builtinSend, hreply]
  simp only [hanswer]
  exact congrArg Prod.fst (EvalM.yields_ofExcept answer)

/-- **A comparison decides its relation**, wherever the type of its subject has its built-in
replies. -/
lemma settles_comparison (hequipped : store.Equipped id subject.tag)
    (hsubject : subject.Comparable) (hobject : object.Comparable) :
    ∃ answer, Settles (store.comparison id subject relation object) (some answer) ∧
      Value.Decides relation subject object answer := by
  cases subject with
  | nil =>
      refine ⟨_, settles_of_reply (.compareNil relation) hequipped ?_ fun _ => rfl,
        Operator.decides_compareNil relation object⟩
      cases relation <;> rfl
  | integer a =>
      refine ⟨_, settles_of_reply (.compare .integer relation) hequipped ?_ fun _ => rfl,
        Operator.decides_compare relation hsubject hobject rfl⟩
      cases relation <;> rfl
  | string a =>
      refine ⟨_, settles_of_reply (.compare .string relation) hequipped ?_ fun _ => rfl,
        Operator.decides_compare relation hsubject hobject rfl⟩
      cases relation <;> rfl
  | _ => cases hsubject

/-- A comparison of values that match is true exactly if its relation holds. -/
lemma holds_iff (hequipped : store.Equipped id subject.tag) (hsubject : subject.Comparable)
    (hobject : object.Comparable) :
    store.Holds id relation subject object ↔
      ¬ subject.Mismatched object ∧ Value.Related relation subject object := by
  obtain ⟨answer, hsettles, hdecides⟩ :=
    @settles_comparison _ _ relation _ _ hequipped hsubject hobject
  constructor
  · rintro ⟨result, hresult, hne⟩
    obtain rfl : answer = .ok result := Option.some.inj (hsettles.unique hresult)
    have hmatch : ¬ subject.Mismatched object := by
      rw [← hdecides.mismatch]
      simp
    obtain ⟨_, ⟨⟩, hnil, -⟩ := hdecides.result hmatch
    exact ⟨hmatch, not_not.1 (hnil.not.1 hne)⟩
  · rintro ⟨hmatch, hrelated⟩
    obtain ⟨result, rfl, hnil, -⟩ := hdecides.result hmatch
    exact ⟨result, hsettles, hnil.not.2 (not_not.2 hrelated)⟩

/-! ## The order -/

section

variable (h : ∀ tag ∈ [Tag.nil, .integer, .string], store.Equipped id tag)

include h

/-- What is compared is equipped. -/
lemma equipped_of_comparable {value : Value} (hvalue : value.Comparable) :
    store.Equipped id value.tag := by
  refine h _ ?_
  simpa using Value.comparable_iff.1 hvalue

/-- Comparisons in the two directions agree, and inequality is the complement of equality. -/
lemma holds_laws {a b : Value} (ha : a.Comparable) (hb : b.Comparable)
    (hmatch : ¬ a.Mismatched b) :
    (store.Holds id .less a b ↔ store.Holds id .greater b a) ∧
      (store.Holds id .equal a b ↔ store.Holds id .equal b a) ∧
      (store.Holds id .notEqual a b ↔ ¬ store.Holds id .equal a b) := by
  have hswapped : ¬ b.Mismatched a := fun hswapped =>
    hmatch ⟨hswapped.2.1, hswapped.1, hswapped.2.2.symm⟩
  simp only [holds_iff (equipped_of_comparable h ha) ha hb,
    holds_iff (equipped_of_comparable h hb) hb ha, hmatch, hswapped, not_false_iff, true_and]
  exact (Value.matching ha hb hmatch).laws

/-- Values of one ordered type always match. -/
lemma holds_iff_related {type : Tag} (htype : type = .integer ∨ type = .string) {a b : Value}
    (ha : a.tag = type) (hb : b.tag = type) :
    store.Holds id relation a b ↔ Value.Related relation a b := by
  have hcomparable : ∀ value : Value, value.tag = type → value.Comparable := by
    rintro value rfl
    exact Value.comparable_iff.2 (.inr htype)
  rw [holds_iff (equipped_of_comparable h (hcomparable a ha)) (hcomparable a ha) (hcomparable b hb)]
  exact and_iff_right fun hmatch => hmatch.2.2 (ha.trans hb.symm)

/-- A string is less than another one if it comes first among the keys of a map. -/
lemma holds_less_iff_sublist {entries : List (String × Value)} {a b : String}
    (ha : a ∈ entries.map Prod.fst) (hb : b ∈ entries.map Prod.fst) :
    store.Holds id .less (.string a) (.string b) ↔
      [a, b].Sublist ((Value.sortEntries entries).map Prod.fst) := by
  rw [holds_iff_related h (.inr rfl) rfl rfl,
    pair_sublist_iff_lt (Value.ascending_sortEntries entries)
      ((Value.mem_keys_sortEntries entries a).2 ha) ((Value.mem_keys_sortEntries entries b).2 hb)]
  exact strictMono_scalars.lt_iff_lt

end

end Store

/-- **Comparisons form an order.**  In a frame in which nil, integers and strings have their
built-in replies, every comparison of such values comes to an answer, which decides its relation.
Hence comparisons in the two directions agree, exactly one of three relations holds between values
of one type other than nil, each of the three is transitive, and strings compare as they stand in
the text of a map that has them for keys. -/
theorem comparisons_order {store : Store} {id : FrameId}
    (h : ∀ tag ∈ [Tag.nil, .integer, .string], store.Equipped id tag) :
    (∀ (relation : Relation) (subject object : Value), subject.Comparable → object.Comparable →
      ∃ answer, Settles (store.comparison id subject relation object) (some answer) ∧
        Value.Decides relation subject object answer) ∧
    (∀ a b : Value, a.Comparable → b.Comparable → ¬ a.Mismatched b →
      (store.Holds id .less a b ↔ store.Holds id .greater b a) ∧
      (store.Holds id .equal a b ↔ store.Holds id .equal b a) ∧
      (store.Holds id .notEqual a b ↔ ¬ store.Holds id .equal a b)) ∧
    (∀ type ∈ [Tag.integer, .string],
      (∀ a b : Value, a.tag = type → b.tag = type →
        ∃! relation, relation ∈ [Relation.less, .equal, .greater] ∧
          store.Holds id relation a b) ∧
      (∀ relation ∈ [Relation.less, .equal, .greater], ∀ a b c : Value,
        a.tag = type → b.tag = type → c.tag = type →
        store.Holds id relation a b → store.Holds id relation b c →
        store.Holds id relation a c)) ∧
    (∀ (entries : List (String × Value)) (a b : String),
      a ∈ entries.map Prod.fst → b ∈ entries.map Prod.fst →
      (Value.ofEntries entries).render = "#\x7b"
          ++ ", ".intercalate ((Value.sortEntries entries).map fun entry =>
            Text.quote entry.1 ++ ": " ++ entry.2.render) ++ "\x7d" ∧
      (store.Holds id .less (.string a) (.string b) ↔
        [a, b].Sublist ((Value.sortEntries entries).map Prod.fst))) := by
  refine ⟨fun relation a b ha hb =>
    Store.settles_comparison (Store.equipped_of_comparable h ha) ha hb,
    fun a b ha hb hmatch => Store.holds_laws h ha hb hmatch, fun type htype => ?_,
    fun entries a b ha hb => ⟨?_, Store.holds_less_iff_sublist h ha hb⟩⟩
  · have htypes : type = .integer ∨ type = .string := by simpa using htype
    constructor
    · intro a b ha hb
      simp only [Store.holds_iff_related h htypes ha hb]
      exact Value.existsUnique_related htypes ha hb
    · intro relation hrelation a b c ha hb hc hab hbc
      rw [Store.holds_iff_related h htypes ha hb] at hab
      rw [Store.holds_iff_related h htypes hb hc] at hbc
      exact (Store.holds_iff_related h htypes ha hc).2
        (Value.related_trans htypes ha hb hc hrelation hab hbc)
  · rw [Value.ofEntries, Value.render_map, Value.renderEntries_eq_intercalate]

/-- In the root frame of a program nil is unequal to five, and five stands for that. -/
theorem comparisons_order_root :
    Settles ((Store.addRoot.run {}).2.comparison (Store.addRoot.run {}).1 .nil .notEqual
      (.integer 5)) (some (.ok (.integer 5))) := by
  obtain ⟨answer, hsettles, hdecides⟩ :=
    (comparisons_order fun tag _ => Store.sees_addRoot.replies tag).1 .notEqual .nil (.integer 5)
      trivial trivial
  obtain ⟨result, rfl, -, htruth⟩ := hdecides.result fun hmatch => hmatch.1 rfl
  rwa [htruth rfl] at hsettles

end Missive
