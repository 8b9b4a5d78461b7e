import Missive.Proofs.Outline.Words
import Missive.Proofs.Render.Shape
import Mathlib

/-!
# Outlines are unambiguous

The words of outlines are a prefix code: words that begin with those of an expression determine the
expression and what follows it.  A quoted message has no closing delimiter, but its object has an
end of its own; parentheses that are nothing but nil are told from others by what comes next, and
pairs from sends by the word between their sides.

* `Expr.Definite`: every leaf of an expression is one word, which stands for nothing else.
* `Expr.Unique`: what follows the words of an expression can be told from them.
* `Expr.unique_of_definite`: the words are a prefix code.
* `outline_eq_iff`: two programs have one outline exactly if they are one tree.
-/

namespace Missive

open Text Grammar

/-! ## Words that close -/

/-- The word ends something that is open. -/
def Word.Closes (w : Word) : Prop :=
  w.kind = .closeParen ∨ w.kind = .closeBlock ∨ w.kind = .closeArray

/-- The word of a verb shows its verb. -/
lemma verbWord_injective : Function.Injective verbWord := by
  have htext : ∀ verb, (verbWord verb).text = verb := by
    intro verb
    unfold verbWord
    split <;> rfl
  exact Function.LeftInverse.injective htext

namespace Expr

open Word

/-- Every leaf and every verb of the expression is one word, which stands for nothing else. -/
structure Definite (e : Expr) : Prop where
  lexical : e.Lexical
  floatFree : e.FloatFree

lemma Definite.part {e : Expr} (h : e.Definite) {part : Expr} (hpart : part ∈ e.parts) :
    part.Definite :=
  ⟨Everywhere.part h.lexical hpart, Everywhere.part h.floatFree hpart⟩

/-- What follows the words of the expression can be told from them. -/
def Unique (e : Expr) : Prop :=
  ∀ (e' : Expr) (ws us : List Word), e'.Definite → e.words ++ ws = e'.words ++ us →
    e = e' ∧ ws = us

/-- An expression does not begin with a word that closes something. -/
lemma words_append_ne {w : Word} (hw : w.Closes) (e : Expr) (ws us : List Word) :
    e.words ++ ws ≠ w :: us := by
  rintro h
  cases e <;> obtain ⟨rfl, -⟩ := List.cons.inj h <;>
    rcases hw with hw | hw | hw <;> cases hw

/-! ## Parentheses -/

section

variable {a b a' b' : Expr} {w w' : Word} {ws us : List Word}

lemma parenthesized_inj (ha : a.Unique) (ha' : a'.Definite)
    (h : parenthesized a.words ++ ws = parenthesized a'.words ++ us) : a = a' ∧ ws = us := by
  simp only [parenthesized, List.cons_append, List.append_assoc, List.cons.injEq, true_and] at h
  obtain ⟨rfl, hrest⟩ := ha _ _ _ ha' h
  exact ⟨rfl, (List.cons.inj hrest).2⟩

/-- Two sides in parentheses with a word between them. -/
lemma sides_inj (ha : a.Unique) (hb : b.Unique) (ha' : a'.Definite) (hb' : b'.Definite)
    (h : parenthesized (a.words ++ w :: b.words) ++ ws
      = parenthesized (a'.words ++ w' :: b'.words) ++ us) :
    a = a' ∧ w = w' ∧ b = b' ∧ ws = us := by
  simp only [parenthesized, List.cons_append, List.append_assoc, List.cons.injEq, true_and] at h
  obtain ⟨rfl, hrest⟩ := ha _ _ _ ha' h
  obtain ⟨rfl, hright⟩ := List.cons.inj hrest
  obtain ⟨rfl, hclosed⟩ := hb _ _ _ hb' hright
  exact ⟨rfl, rfl, rfl, (List.cons.inj hclosed).2⟩

/-- Parentheses around something are not those of nil. -/
lemma sides_ne_nil : parenthesized (a.words ++ w :: b.words) ++ ws ≠ nil.words ++ us := by
  intro h
  simp only [words, parenthesized, List.cons_append, List.append_assoc, List.nil_append,
    List.cons.injEq, true_and] at h
  exact words_append_ne (.inl rfl) a _ _ h

end

/-! ## Rows -/

section

variable {α : Type} {code : α → List Word} {row row' : List α} {close : Word} {ws us : List Word}

/-- Pieces that are each led by a comma. -/
lemma flatMap_comma_inj (hclose : close.Closes)
    (hcode : ∀ a ∈ row, ∀ b ∈ row', ∀ {ws us}, code a ++ ws = code b ++ us → a = b ∧ ws = us)
    (h : (row.map code).flatMap (⟨.comma, ","⟩ :: ·) ++ close :: ws
      = (row'.map code).flatMap (⟨.comma, ","⟩ :: ·) ++ close :: us) : row = row' ∧ ws = us := by
  have hcomma : close ≠ ⟨.comma, ","⟩ := by
    rintro rfl
    rcases hclose with hclose | hclose | hclose <;> cases hclose
  induction row generalizing row' with
  | nil =>
      cases row' with
      | nil => exact ⟨rfl, (List.cons.inj h).2⟩
      | cons b row' => exact absurd (List.cons.inj h).1 hcomma
  | cons a row ih =>
      cases row' with
      | nil => exact absurd (List.cons.inj h).1.symm hcomma
      | cons b row' =>
          simp only [List.map_cons, List.flatMap_cons, List.cons_append, List.append_assoc,
            List.cons.injEq, true_and] at h
          obtain ⟨rfl, hrest⟩ := hcode a List.mem_cons_self b List.mem_cons_self h
          obtain ⟨rfl, hws⟩ := ih (fun a ha b hb => hcode a (List.mem_cons_of_mem _ ha) b
            (List.mem_cons_of_mem _ hb)) hrest
          exact ⟨rfl, hws⟩

/-- Pieces with commas between them, up to the word that closes the row. -/
lemma separated_inj (hclose : close.Closes) (hne : ∀ a ws us, code a ++ ws ≠ close :: us)
    (hcode : ∀ a ∈ row, ∀ b ∈ row', ∀ {ws us}, code a ++ ws = code b ++ us → a = b ∧ ws = us)
    (h : separated (row.map code) ++ close :: ws = separated (row'.map code) ++ close :: us) :
    row = row' ∧ ws = us := by
  cases row with
  | nil =>
      cases row' with
      | nil => exact ⟨rfl, (List.cons.inj h).2⟩
      | cons b row' =>
          rw [List.map_cons, separated, List.append_assoc] at h
          exact absurd h.symm (hne b _ _)
  | cons a row =>
      cases row' with
      | nil =>
          rw [List.map_cons, separated, List.append_assoc] at h
          exact absurd h (hne a _ _)
      | cons b row' =>
          rw [List.map_cons, List.map_cons, separated, separated, List.append_assoc,
            List.append_assoc] at h
          obtain ⟨rfl, hrest⟩ := hcode a List.mem_cons_self b List.mem_cons_self h
          obtain ⟨rfl, hws⟩ := flatMap_comma_inj hclose
            (fun a ha b hb => hcode a (List.mem_cons_of_mem _ ha) b (List.mem_cons_of_mem _ hb))
            hrest
          exact ⟨rfl, hws⟩

end

section

variable {close : Word} {ws us : List Word}

/-- The items of a block or an array. -/
lemma items_inj {items items' : List Expr} (hclose : close.Closes)
    (hitems : ∀ item ∈ items, item.Unique) (hitems' : ∀ item ∈ items', item.Definite)
    (h : separated (wordsItems items) ++ close :: ws
      = separated (wordsItems items') ++ close :: us) : items = items' ∧ ws = us := by
  rw [wordsItems_eq_map, wordsItems_eq_map] at h
  exact separated_inj hclose (words_append_ne hclose)
    (fun a ha b hb _ _ hwords => hitems a ha b _ _ (hitems' b hb) hwords) h

/-- The entries of a map. -/
lemma entries_inj {entries entries' : List (String × Expr)}
    (hvalues : ∀ value ∈ entries.map Prod.snd, value.Unique)
    (hvalues' : ∀ value ∈ entries'.map Prod.snd, value.Definite)
    (h : separated (wordsEntries entries) ++ ⟨.closeBlock, "\x7d"⟩ :: ws
      = separated (wordsEntries entries') ++ ⟨.closeBlock, "\x7d"⟩ :: us) :
    entries = entries' ∧ ws = us := by
  rw [wordsEntries_eq_map, wordsEntries_eq_map] at h
  refine separated_inj (.inr (.inl rfl)) (by simp [entryWords]) ?_ h
  rintro ⟨key, value⟩ ha ⟨key', value'⟩ hb ws us hwords
  simp only [entryWords, List.cons_append, List.cons.injEq, Word.mk.injEq, true_and] at hwords
  obtain ⟨hkey, hrest⟩ := hwords
  obtain rfl := escaped_injective hkey
  obtain ⟨rfl, hws⟩ := hvalues value (List.mem_map_of_mem ha) value' _ _
    (hvalues' value' (List.mem_map_of_mem hb)) hrest
  exact ⟨rfl, hws⟩

end

/-! ## The prefix code -/

/-- A whole number without sign is determined by its digits. -/
lemma eq_of_toString_eq {value value' : Int64} (h : 0 ≤ value.toInt) (h' : 0 ≤ value'.toInt)
    (htext : toString value = toString value') : value = value' := by
  have hread := (Value.literal?_integer h).symm.trans (htext ▸ Value.literal?_integer h')
  cases hread
  rfl

/-- No verb is written as a colon. -/
lemma verbWord_ne_colon {verb : String} (h : ValidVerb verb) : verbWord verb ≠ ⟨.colon, ":"⟩ := by
  intro heq
  have hverb := (Value.isVerb_verbWord h).1
  rw [heq] at hverb
  rcases hverb with hverb | hverb <;> cases hverb

/-- **The words of outlines are a prefix code.** -/
theorem unique_of_definite {e : Expr} (h : e.Definite) : e.Unique := by
  induction e using induction_parts with
  | step e ih =>
      replace ih := fun part hpart => ih part hpart (h.part hpart)
      intro e' ws us h' hwords
      -- the first word tells the kinds of expressions apart, but for nil, pairs and sends
      cases e with
      | nil =>
          cases e' with
          | nil => exact ⟨rfl, by simpa [words, parenthesized] using hwords⟩
          | pair | send => exact absurd hwords.symm sides_ne_nil
          | _ => simp [words, parenthesized] at hwords
      | int value =>
          cases e' with
          | int value' =>
              simp only [words, List.cons_append, List.nil_append, List.cons.injEq, Word.mk.injEq,
                true_and] at hwords
              obtain rfl := eq_of_toString_eq h.lexical.self h'.lexical.self hwords.1
              exact ⟨rfl, hwords.2⟩
          | _ => simp [words, parenthesized] at hwords
      | float value => exact absurd rfl (h.floatFree.self value)
      | string value =>
          cases e' with
          | string value' =>
              simp only [words, List.cons_append, List.nil_append, List.cons.injEq, Word.mk.injEq,
                true_and] at hwords
              obtain rfl := escaped_injective hwords.1
              exact ⟨rfl, hwords.2⟩
          | _ => simp [words, parenthesized] at hwords
      | name text =>
          cases e' with
          | name text' => simpa [words] using hwords
          | _ => simp [words, parenthesized] at hwords
      | later body =>
          cases e' with
          | later body' =>
              obtain ⟨rfl, hws⟩ := parenthesized_inj (ih body (by simp)) (h'.part (by simp))
                (List.cons.inj hwords).2
              exact ⟨rfl, hws⟩
          | _ => simp [words, parenthesized] at hwords
      | block items =>
          cases e' with
          | block items' =>
              simp only [words, List.cons_append, List.append_assoc, List.cons.injEq,
                true_and] at hwords
              obtain ⟨rfl, hws⟩ := items_inj (.inr (.inl rfl)) ih (fun _ => h'.part) hwords
              exact ⟨rfl, hws⟩
          | _ => simp [words, parenthesized] at hwords
      | array items =>
          cases e' with
          | array items' =>
              simp only [words, List.cons_append, List.append_assoc, List.cons.injEq,
                true_and] at hwords
              obtain ⟨rfl, hws⟩ := items_inj (.inr (.inr rfl)) ih (fun _ => h'.part) hwords
              exact ⟨rfl, hws⟩
          | _ => simp [words, parenthesized] at hwords
      | map entries =>
          cases e' with
          | map entries' =>
              simp only [words, List.cons_append, List.append_assoc, List.cons.injEq,
                true_and] at hwords
              obtain ⟨rfl, hws⟩ := entries_inj ih (fun _ => h'.part) hwords
              exact ⟨rfl, hws⟩
          | _ => simp [words, parenthesized] at hwords
      | pair left right =>
          cases e' with
          | nil => exact absurd hwords sides_ne_nil
          | pair left' right' =>
              obtain ⟨rfl, -, rfl, hws⟩ := sides_inj (ih left (by simp)) (ih right (by simp))
                (h'.part (by simp)) (h'.part (by simp)) hwords
              exact ⟨rfl, hws⟩
          | send subject' verb' object' =>
              obtain ⟨-, hcolon, -⟩ := sides_inj (ih left (by simp)) (ih right (by simp))
                (h'.part (by simp)) (h'.part (by simp)) hwords
              exact absurd hcolon.symm (verbWord_ne_colon h'.lexical.self)
          | _ => simp [words, parenthesized] at hwords
      | message verb object =>
          cases e' with
          | message verb' object' =>
              simp only [words, List.cons_append, List.cons.injEq, true_and] at hwords
              obtain ⟨hverb, hrest⟩ := hwords
              obtain rfl := verbWord_injective hverb
              obtain ⟨rfl, hws⟩ := ih object (by simp) object' ws us (h'.part (by simp)) hrest
              exact ⟨rfl, hws⟩
          | _ => simp [words, parenthesized] at hwords
      | send subject verb object =>
          cases e' with
          | nil => exact absurd hwords sides_ne_nil
          | pair left' right' =>
              obtain ⟨-, hcolon, -⟩ := sides_inj (ih subject (by simp)) (ih object (by simp))
                (h'.part (by simp)) (h'.part (by simp)) hwords
              exact absurd hcolon (verbWord_ne_colon h.lexical.self)
          | send subject' verb' object' =>
              obtain ⟨rfl, hverb, rfl, hws⟩ := sides_inj (ih subject (by simp))
                (ih object (by simp)) (h'.part (by simp)) (h'.part (by simp)) hwords
              obtain rfl := verbWord_injective hverb
              exact ⟨rfl, hws⟩
          | _ => simp [words, parenthesized] at hwords

/-- Definite expressions with one outline are one expression. -/
lemma Definite.eq_of_outline_eq {e e' : Expr} (h : e.Definite) (h' : e'.Definite)
    (houtline : e.outline = e'.outline) : e = e' := by
  have hscans := scans_outline h.lexical h.floatFree
  rw [houtline] at hscans
  have hwords : e.words = e'.words :=
    Tokens.scans_unique hscans (scans_outline h'.lexical h'.floatFree)
  exact (unique_of_definite h e' [] [] h' (congrArg (· ++ []) hwords)).1

end Expr

/-- **Outlines are unambiguous.**  Texts that parse to expressions without floating-point constants
have one outline exactly if the expressions are one and the same, which is when they are equal. -/
theorem outline_eq_iff {source source' : String} {e e' : Expr} (h : parse source = .ok e)
    (h' : parse source' = .ok e') (hfloats : e.FloatFree) (hfloats' : e'.FloatFree) :
    (e.outline = e'.outline ↔ e = e') ∧ (e.outline = e'.outline ↔ (e == e') = true) := by
  have hiff : e.outline = e'.outline ↔ e = e' := by
    constructor
    · exact Expr.Definite.eq_of_outline_eq ⟨Expr.lexical_of_parse h, hfloats⟩
        ⟨Expr.lexical_of_parse h', hfloats'⟩
    · rintro rfl
      rfl
  exact ⟨hiff, hiff.trans (Expr.beq_iff_eq_of_floatFree hfloats e').symm⟩

/-- A quoted message to which another one is sent, and a quoted message with a send for its object,
have different outlines. -/
theorem outline_message_send_ne :
    (Expr.send (.message "f" (.name "x")) "+" (.int 1)).outline
      ≠ (Expr.message "f" (.send (.name "x") "+" (.int 1))).outline := by
  have h : parse "\\ f x + 1" = .ok (.send (.message "f" (.name "x")) "+" (.int 1)) := by cbv
  have h' : parse "\\ f (x + 1)" = .ok (.message "f" (.send (.name "x") "+" (.int 1))) := by cbv
  have hname : (Expr.name "x").FloatFree := .of_parts (by simp) (by simp)
  have hint : (Expr.int 1).FloatFree := .of_parts (by simp) (by simp)
  have hmessage : (Expr.message "f" (.name "x")).FloatFree :=
    .of_parts (by simp) (by simpa using hname)
  have hsend : (Expr.send (.name "x") "+" (.int 1)).FloatFree :=
    .of_parts (by simp) (by simp [hname, hint])
  rw [Ne, (outline_eq_iff h h' (.of_parts (by simp) (by simp [hmessage, hint]))
    (.of_parts (by simp) (by simpa using hsend))).1]
  simp

end Missive
