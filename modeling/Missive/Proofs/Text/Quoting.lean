import Missive.Text.Quoted
import Mathlib.Tactic.Lemma
import Mathlib.Tactic.SplitIfs

/-!
# Reading a written string

A text is written with a backslash before each double quote and each backslash, and read with only
the former dropped again.  So a backslash that is followed by anything comes back as two, while one
at the very end is dropped together with its partner's guard and comes back as one.

* `unquote_quote_eq`: what comes back, a text with its backslashes doubled.
* `Plain`: texts that come back as they were.
* `unquote_quote_of_plain`, `plain_of_length_le`: these and no others; all others come back longer.
-/

namespace Missive.Text

/-- No backslash stands before the last character. -/
def Plain (text : String) : Prop :=
  '\\' ∉ text.toList.dropLast

instance (text : String) : Decidable (Plain text) :=
  inferInstanceAs (Decidable (_ ∉ _))

/-- The characters that reading a written text gives. -/
def reread (text : List Char) : List Char :=
  dropEscapes (escapeQuotes text ++ ['"'])

lemma unquote_quote (text : String) :
    unquote (quote text) = String.ofList (reread text.toList) := by
  simp [unquote, quote, reread]

/-- What is dropped from a text depends on its first two characters. -/
lemma dropEscapes_cons {c : Char} {rest : List Char} (hrest : rest ≠ []) :
    dropEscapes (c :: rest)
      = if c = '\\' ∧ rest.head? = some '"' then dropEscapes rest else c :: dropEscapes rest := by
  cases rest with
  | nil => exact absurd rfl hrest
  | cons next rest => simp [dropEscapes]

/-- A closing quote is all that can look like one. -/
lemma head?_escaped (text : List Char) :
    (escapeQuotes text ++ ['"']).head? = some '"' ↔ text = [] := by
  cases text with
  | nil => simp [escapeQuotes]
  | cons c rest =>
      rw [escapeQuotes]
      split_ifs with hc
      · simp
      · simp only [not_or] at hc
        simp [hc.1]

lemma escaped_ne_nil (text : List Char) : escapeQuotes text ++ ['"'] ≠ [] := by
  simp

/-- What comes back of a text with a first character. -/
lemma reread_cons (c : Char) (rest : List Char) :
    reread (c :: rest)
      = if c = '\\' ∧ rest ≠ [] then '\\' :: '\\' :: reread rest else c :: reread rest := by
  unfold reread
  rw [escapeQuotes]
  by_cases hslash : c = '\\'
  · subst hslash
    rw [if_pos (.inr rfl), List.cons_append, List.cons_append, dropEscapes_cons (by simp),
      if_neg (by simp), dropEscapes_cons (escaped_ne_nil rest)]
    by_cases hrest : rest = []
    · rw [if_pos ⟨rfl, (head?_escaped rest).2 hrest⟩, if_neg (fun h => h.2 hrest)]
    · rw [if_neg (fun h => hrest ((head?_escaped rest).1 h.2)), if_pos ⟨rfl, hrest⟩]
  · by_cases hquote : c = '"'
    · subst hquote
      rw [if_pos (.inl rfl), List.cons_append, List.cons_append, dropEscapes_cons (by simp),
        if_pos (by simp), dropEscapes_cons (escaped_ne_nil rest), if_neg (by simp)]
      simp
    · rw [if_neg (by simp [hslash, hquote]), List.cons_append,
        dropEscapes_cons (escaped_ne_nil rest), if_neg (by simp [hslash])]
      simp [hslash]

/-- A text with each backslash doubled that is not its last character. -/
def doubleInner (text : List Char) : List Char :=
  (text.dropLast.flatMap fun c => if c = '\\' then ['\\', '\\'] else [c]) ++ text.getLast?.toList

lemma doubleInner_cons (c : Char) (rest : List Char) :
    doubleInner (c :: rest)
      = if c = '\\' ∧ rest ≠ [] then '\\' :: '\\' :: doubleInner rest
        else c :: doubleInner rest := by
  cases rest with
  | nil => simp [doubleInner]
  | cons next rest =>
      by_cases hslash : c = '\\' <;>
        simp [doubleInner, hslash, List.getLast?_cons_cons]

/-- What comes back of a text has its backslashes doubled. -/
lemma reread_eq_doubleInner (text : List Char) : reread text = doubleInner text := by
  induction text with
  | nil => rfl
  | cons c rest ih => rw [reread_cons, doubleInner_cons, ih]

/-- A text grows by the backslashes that are doubled. -/
lemma length_doubleInner (text : List Char) :
    (doubleInner text).length = text.length + text.dropLast.count '\\' := by
  induction text with
  | nil => rfl
  | cons c rest ih =>
      rw [doubleInner_cons]
      cases rest with
      | nil => simp [doubleInner]
      | cons next rest =>
          rw [List.dropLast_cons_cons, List.count_cons]
          by_cases hslash : c = '\\' <;> simp [hslash, ih] <;> omega

/-- Without a backslash before its last character a text stays as it is. -/
lemma doubleInner_of_plain {text : List Char} (h : '\\' ∉ text.dropLast) :
    doubleInner text = text := by
  induction text with
  | nil => rfl
  | cons c rest ih =>
      rw [doubleInner_cons]
      cases rest with
      | nil => simp [doubleInner]
      | cons next rest =>
          simp only [List.dropLast_cons_cons, List.mem_cons, not_or] at h
          rw [if_neg (by simp [Ne.symm h.1]), ih h.2]

/-- **A string reads back with its backslashes doubled**, a last one excepted. -/
theorem unquote_quote_eq (text : String) :
    unquote (quote text) = String.ofList (doubleInner text.toList) := by
  rw [unquote_quote, reread_eq_doubleInner]

/-- A string reads back longer by the backslashes before its last character. -/
lemma length_unquote_quote (text : String) :
    (unquote (quote text)).length = text.length + text.toList.dropLast.count '\\' := by
  rw [unquote_quote_eq, String.length_ofList, length_doubleInner, String.length_toList]

/-- **A plain string reads back.** -/
theorem unquote_quote_of_plain {text : String} (h : Plain text) : unquote (quote text) = text := by
  rw [unquote_quote_eq, doubleInner_of_plain h, String.ofList_toList]

/-- A string never reads back shorter. -/
theorem length_le_unquote_quote (text : String) : text.length ≤ (unquote (quote text)).length := by
  rw [length_unquote_quote]
  exact Nat.le_add_right _ _

/-- **A string that does not read back longer is plain.** -/
theorem plain_of_length_le {text : String} (h : (unquote (quote text)).length ≤ text.length) :
    Plain text := by
  rw [length_unquote_quote] at h
  exact List.count_eq_zero.1 (by omega)

end Missive.Text
