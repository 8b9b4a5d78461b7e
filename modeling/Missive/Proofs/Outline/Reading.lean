import Missive.Proofs.Outline.Words
import Missive.Proofs.Render.Shape
import Mathlib

/-!
# Reading an outline

An outline is a program itself.  It puts pairs and sends into parentheses, so it says where they
begin and end; but an `@` with its body and a quoted message stand before the colon of a pair as
they are, and read as reaching over the colon.

* `Expr.reread`: what the outline of an expression reads as.
* `Expr.reads`: the words of an outline derive that, with a colon behind them or without.
* `Expr.reread_eq_iff`: it is the expression itself exactly if no pair begins with an `@` or a
  quoted message.
* `parse_outline_iff`: outlines of programs.
-/

namespace Missive

open Text Grammar

namespace Expr

open Word

/-! ## What outlines read as -/

/-- The expression, or its pair with what stands behind a colon. -/
def withTail (e : Expr) : Option Expr → Expr
  | none => e
  | some tail => pair e tail

mutual

/-- What the outline of an expression reads as before a colon with something behind it, or where
there is none. -/
def rereadBefore : Expr → Option Expr → Expr
  | nil, tail => nil.withTail tail
  | int value, tail => (int value).withTail tail
  | float value, tail => (float value).withTail tail
  | string value, tail => (string value).withTail tail
  | name text, tail => (name text).withTail tail
  | later body, tail => later ((rereadBefore body none).withTail tail)
  | block items, tail => (block (rereadItems items)).withTail tail
  | array items, tail => (array (rereadItems items)).withTail tail
  | map entries, tail => (map (rereadEntries entries)).withTail tail
  -- the parentheses keep the tail out, but not the right side out of the left one
  | pair left right, tail => (rereadBefore left (some (rereadBefore right none))).withTail tail
  | message verb object, tail => message verb (rereadBefore object tail)
  | send subject verb object, tail =>
    (send (rereadBefore subject none) verb (rereadBefore object none)).withTail tail
termination_by structural e => e

/-- What the items of a block or an array read as. -/
def rereadItems : List Expr → List Expr
  | [] => []
  | item :: items => rereadBefore item none :: rereadItems items
termination_by structural es => es

/-- What the entries of a map read as. -/
def rereadEntries : List (String × Expr) → List (String × Expr)
  | [] => []
  | (key, value) :: entries => (key, rereadBefore value none) :: rereadEntries entries
termination_by structural es => es

end

/-- What the outline of an expression reads as. -/
def reread (e : Expr) : Expr :=
  e.rereadBefore none

lemma rereadItems_eq_map (items : List Expr) : rereadItems items = items.map reread := by
  induction items with
  | nil => rfl
  | cons item items ih => rw [rereadItems, ih, List.map_cons, reread]

lemma rereadEntries_eq_map (entries : List (String × Expr)) :
    rereadEntries entries = entries.map (Prod.map id reread) := by
  induction entries with
  | nil => rfl
  | cons entry entries ih => rw [rereadEntries, ih, List.map_cons, Prod.map, id, reread]

/-! ## Reading -/

/-- The words derive an operand, and so they do with a colon and another operand behind them. -/
structure Reads (ws : List Word) (reading : Option Expr → Expr) : Prop where
  alone : Operand .closed ws (reading none)
  before {c : Word} {us : List Word} {tail : Expr} : c.kind = .colon → Operand .closed us tail →
    Operand .closed (ws ++ c :: us) (reading (some tail))

namespace Reads

variable {ws : List Word} {reading : Option Expr → Expr}

/-- A closed phrase is the left side of a pair. -/
lemma of_closed {e : Expr} (h : Closed .closed ws e) : Reads ws e.withTail :=
  ⟨.closed h, fun hc htail => .pair h hc htail⟩

/-- An `@` reaches over what its value reaches over. -/
lemma later {a : Word} (ha : a.kind = .at) (h : Reads ws reading) :
    Reads (a :: ws) fun tail => .later (reading tail) :=
  ⟨.later ha h.alone, fun hc htail => .later ha (h.before hc htail)⟩

/-- A quoted message reaches over what its operand reaches over. -/
lemma message {b v : Word} (hb : b.kind = .backslash) (hv : IsVerb v) (h : Reads ws reading) :
    Reads (b :: v :: ws) fun tail => .message v.text (reading tail) :=
  ⟨.message hb hv h.alone, fun hc htail => .message hb hv (h.before hc htail)⟩

end Reads

/-- A send in parentheses, or what can stand for one. -/
lemma closed_parenthesized {ws : List Word} {e : Expr} (h : Sending .closed ws e) :
    Closed .closed (parenthesized ws) e :=
  .paren rfl h rfl

/-- A row of items. -/
lemma row_of_items : ∀ {items : List Expr}, items ≠ [] →
    (∀ item ∈ items, Operand .closed item.words item.reread) →
    Row .closed (separated (items.map words)) (items.map reread)
  | [item], _, h => by
      rw [List.map_singleton, separated, List.flatMap_nil, List.append_nil]
      exact .one (.value (h item List.mem_cons_self))
  | item :: next :: items, _, h => by
      rw [List.map_cons, List.map_cons, separated_cons_cons]
      exact .cons (.value (h item List.mem_cons_self)) rfl
        (row_of_items (List.cons_ne_nil next items) fun item hitem =>
          h item (List.mem_cons_of_mem _ hitem))

/-- A row of entries whose keys read back. -/
lemma entries_of_values : ∀ {entries : List (String × Expr)}, entries ≠ [] →
    (∀ entry ∈ entries, unquote (escaped entry.1) = entry.1) →
    (∀ entry ∈ entries, Operand .closed entry.2.words entry.2.reread) →
    Entries .closed (separated (entries.map entryWords)) (entries.map (Prod.map id reread))
  | [(key, value)], _, hkeys, h => by
      have hvalue := h _ List.mem_cons_self
      have hentry := Entries.one (k := ⟨.string, escaped key⟩) (c := ⟨.colon, ":"⟩) rfl rfl hvalue
      rw [hkeys _ List.mem_cons_self] at hentry
      simpa [separated, entryWords] using hentry
  | (key, value) :: next :: entries, _, hkeys, h => by
      have hvalue := h _ List.mem_cons_self
      have hmore := entries_of_values (List.cons_ne_nil next entries)
        (fun entry hentry => hkeys entry (List.mem_cons_of_mem _ hentry))
        fun entry hentry => h entry (List.mem_cons_of_mem _ hentry)
      have hentries := Entries.cons (k := ⟨.string, escaped key⟩) (c := ⟨.colon, ":"⟩)
        (s := ⟨.comma, ","⟩) rfl rfl hvalue rfl hmore
      rw [hkeys _ List.mem_cons_self] at hentries
      rw [List.map_cons, List.map_cons, separated_cons_cons]
      exact hentries

/-- The strings that stand in a node itself: the value of a string, or the keys of a map. -/
def ownTexts : Expr → List String
  | string value => [value]
  | map entries => entries.map Prod.fst
  | _ => []

/-- All strings and keys in the expression consist of printable characters of ASCII other than
backslashes. -/
def Clear (e : Expr) : Prop :=
  e.Everywhere fun node => ∀ text ∈ node.ownTexts, ∀ c ∈ text.toList, Printable c ∧ c ≠ '\\'

lemma Clear.of_parts {e : Expr}
    (hself : ∀ text ∈ e.ownTexts, ∀ c ∈ text.toList, Printable c ∧ c ≠ '\\')
    (hparts : ∀ part ∈ e.parts, part.Clear) : e.Clear :=
  everywhere_iff.2 ⟨hself, hparts⟩

/-- **The words of an outline derive what it reads as.** -/
theorem reads {e : Expr} (h : e.Lexical) (hfloats : e.FloatFree) (hclear : e.Clear) :
    Reads e.words e.rereadBefore := by
  induction e using induction_parts with
  | step e ih =>
      replace ih := fun part hpart =>
        ih part hpart (h.part hpart) (hfloats.part hpart) (hclear.part hpart)
      cases e with
      | nil => exact .of_closed (.nil rfl rfl)
      | int value => exact .of_closed (.literal (Value.literal?_integer h.self))
      | float value => exact absurd rfl (hfloats.self value)
      | string value =>
          have hliteral : literal? ⟨.string, escaped value⟩ = some (.string value) := by
            rw [literal?, unquote_escaped (hclear.self value (by simp [ownTexts]))]
          exact .of_closed (.literal hliteral)
      | name text => exact .of_closed (.literal rfl)
      | later body =>
          have hbody := closed_parenthesized (.value (ih body (by simp)).alone)
          exact .later rfl (.of_closed hbody)
      | block items =>
          refine .of_closed ?_
          rw [words, wordsItems_eq_map, rereadItems_eq_map]
          by_cases hne : items = []
          · subst hne
            exact .empty .block rfl rfl
          · exact .row .block rfl (row_of_items hne fun item hitem => (ih item hitem).alone) rfl
      | array items =>
          refine .of_closed ?_
          rw [words, wordsItems_eq_map, rereadItems_eq_map]
          by_cases hne : items = []
          · subst hne
            exact .empty .array rfl rfl
          · exact .row .array rfl (row_of_items hne fun item hitem => (ih item hitem).alone) rfl
      | map entries =>
          refine .of_closed ?_
          rw [words, wordsEntries_eq_map, rereadEntries_eq_map]
          by_cases hne : entries = []
          · subst hne
            exact .emptyMap rfl rfl
          · have hkeys : ∀ entry ∈ entries, unquote (escaped entry.1) = entry.1 :=
              fun entry hentry => unquote_escaped (hclear.self _ (List.mem_map_of_mem hentry))
            have hentries := entries_of_values hne hkeys fun entry hentry =>
              (ih entry.2 (List.mem_map_of_mem hentry)).alone
            exact .map rfl hentries rfl
      | pair left right =>
          have hsides := (ih left (by simp)).before (c := ⟨.colon, ":"⟩) rfl
            (ih right (by simp)).alone
          exact .of_closed (closed_parenthesized (.value hsides))
      | message verb object =>
          obtain ⟨hverb, htext⟩ := Value.isVerb_verbWord h.self
          have hmessage := Reads.message (b := ⟨.backslash, "\\"⟩) rfl hverb (ih object (by simp))
          rwa [htext] at hmessage
      | send subject verb object =>
          obtain ⟨hverb, htext⟩ := Value.isVerb_verbWord h.self
          have hsend := Sending.send (.value (ih subject (by simp)).alone) hverb
            (ih object (by simp)).alone
          rw [htext] at hsend
          exact .of_closed (closed_parenthesized hsend)

/-- The outline of an expression is read. -/
lemma parse_outline {e : Expr} (h : e.Lexical) (hfloats : e.FloatFree) (hclear : e.Clear) :
    parse e.outline = .ok e.reread :=
  parse_eq_ok.2 ⟨e.words, scans_outline h hfloats, .value (reads h hfloats hclear).alone⟩

/-! ## Which outlines read back -/

/-- A colon behind the outline of the expression belongs to the expression. -/
def ReachesOver : Expr → Prop
  | later _ | message _ _ => True
  | _ => False

/-- No pair in the expression has an `@` with its body or a quoted message for its left side. -/
def ClosedHeads (e : Expr) : Prop :=
  e.Everywhere fun node => ∀ left right, node = pair left right → ¬ left.ReachesOver

/-- A pair reads back if its sides do and a colon behind the left one does not belong to it. -/
lemma reread_pair_eq_iff (left right : Expr) :
    (pair left right).reread = pair left right ↔
      ¬ left.ReachesOver ∧ left.reread = left ∧ right.reread = right := by
  cases left <;> simp [reread, rereadBefore, withTail, ReachesOver]

/-- An expression reads back if its parts do, and if it is no pair whose left side takes the
colon. -/
lemma reread_eq_iff_parts (e : Expr) :
    e.reread = e ↔ (∀ left right, e = pair left right → ¬ left.ReachesOver) ∧
      ∀ part ∈ e.parts, part.reread = part := by
  have hmap : ∀ {α : Type} (f : α → α) (row : List α), row.map f = row ↔ ∀ a ∈ row, f a = a := by
    intro α f row
    rw [← List.map_inj_left (g := fun a => a), List.map_id']
  cases e with
  | pair left right =>
      rw [reread_pair_eq_iff]
      simp
  | block items =>
      simpa [reread, rereadBefore, withTail, rereadItems_eq_map] using hmap reread items
  | array items =>
      simpa [reread, rereadBefore, withTail, rereadItems_eq_map] using hmap reread items
  | map entries =>
      have hvalues : (∀ part ∈ (map entries).parts, part.reread = part) ↔
          ∀ entry ∈ entries, Prod.map id reread entry = entry := by
        rw [parts, List.forall_mem_map]
        simp only [Prod.ext_iff, Prod.map, id, true_and]
      rw [hvalues, ← hmap, and_iff_right nofun]
      simp [reread, rereadBefore, withTail, rereadEntries_eq_map]
  | _ => simp [reread, rereadBefore, withTail]

/-- **What reads back** is what has no pair that begins with an `@` or a quoted message. -/
theorem reread_eq_iff (e : Expr) : e.reread = e ↔ e.ClosedHeads := by
  induction e using induction_parts with
  | step e ih =>
      rw [reread_eq_iff_parts, ClosedHeads, everywhere_iff]
      exact and_congr_right fun _ => forall₂_congr ih

end Expr

/-- **Reading an outline.**  A text parses to an expression without floating-point constants whose
strings and keys consist of printable characters of ASCII other than backslashes.  Then the outline
of the expression parses as well, and it does so to an equal expression exactly if no pair in the
expression has an `@` with its body or a quoted message for its left side. -/
theorem parse_outline_iff {source : String} {e : Expr} (h : parse source = .ok e)
    (hfloats : e.FloatFree) (hclear : e.Clear) :
    ∃ e', parse e.outline = .ok e' ∧ ((e == e') = true ↔ e.ClosedHeads) := by
  refine ⟨e.reread, Expr.parse_outline (Expr.lexical_of_parse h) hfloats hclear, ?_⟩
  rw [Expr.beq_iff_eq_of_floatFree hfloats, eq_comm, Expr.reread_eq_iff]

/-- The outline of `(@"a"):1` does not read back: in `(@("a"):1)` the colon belongs to the `@`. -/
theorem parse_outline_later :
    ∃ e', parse "(@(\"a\"):1)" = .ok e' ∧
      (Expr.pair (.later (.string "a")) (.int 1) == e') = false := by
  have h : parse "(@\"a\"):1" = .ok (.pair (.later (.string "a")) (.int 1)) := by cbv
  have houtline : (Expr.pair (.later (.string "a")) (.int 1)).outline = "(@(\"a\"):1)" := by
    decide +kernel
  have hstring : (Expr.string "a").FloatFree := .of_parts (by simp) (by simp)
  have hlater : (Expr.later (.string "a")).FloatFree := .of_parts (by simp) (by simpa using hstring)
  have hint : (Expr.int 1).FloatFree := .of_parts (by simp) (by simp)
  have hstring' : (Expr.string "a").Clear :=
    .of_parts (by simp [Expr.ownTexts, Text.Printable]) (by simp)
  have hlater' : (Expr.later (.string "a")).Clear :=
    .of_parts (by simp [Expr.ownTexts]) (by simpa using hstring')
  have hint' : (Expr.int 1).Clear := .of_parts (by simp [Expr.ownTexts]) (by simp)
  obtain ⟨e', hparse, hiff⟩ := parse_outline_iff h (.of_parts (by simp) (by simp [hlater, hint]))
    (.of_parts (by simp [Expr.ownTexts]) (by simp [hlater', hint']))
  rw [houtline] at hparse
  have hheads : ¬ (Expr.pair (.later (.string "a")) (.int 1)).ClosedHeads :=
    fun hheads => hheads.self _ _ rfl trivial
  exact ⟨e', hparse, Bool.eq_false_iff.2 (hiff.not.2 hheads)⟩

end Missive
