import Missive.Expr.Outline
import Missive.Proofs.Grammar.Lexical
import Missive.Proofs.Text.Escaping
import Missive.Proofs.Token.Strings

/-!
# The words of an outline

`Expr.words` gives the words that the outline of an expression consists of.  It takes each leaf for
one word, and so do names, verbs and numbers of a program; an escaped string is one word whatever
the string holds.

* `Expr.outline_later` and the equations with it: the outline of every kind of expression.
* `scans_escaped`: an escaped string is one word.
* `Expr.scans_outline`: the words of the outline of a lexical expression.
-/

namespace Missive

open Text

namespace Word

/-- Words in parentheses. -/
def parenthesized (ws : List Word) : List Word :=
  ⟨.openParen, "("⟩ :: (ws ++ [⟨.closeParen, ")"⟩])

end Word

namespace Expr

open Word

mutual

/-- The words of the outline of an expression, each leaf taken for one. -/
def words : Expr → List Word
  | nil => parenthesized []
  | int value => [⟨.number, toString value⟩]
  | float value => [⟨.float, floatText value⟩]
  | string value => [⟨.string, escaped value⟩]
  | name text => [⟨.name, text⟩]
  | later body => ⟨.at, "@"⟩ :: parenthesized (words body)
  | block items => ⟨.openBlock, "\x7b"⟩ :: (separated (wordsItems items) ++ [⟨.closeBlock, "\x7d"⟩])
  | array items => ⟨.openArray, "["⟩ :: (separated (wordsItems items) ++ [⟨.closeArray, "]"⟩])
  | map entries =>
    ⟨.openMap, "#\x7b"⟩ :: (separated (wordsEntries entries) ++ [⟨.closeBlock, "\x7d"⟩])
  | pair left right => parenthesized (words left ++ ⟨.colon, ":"⟩ :: words right)
  | message verb object => ⟨.backslash, "\\"⟩ :: verbWord verb :: words object
  | send subject verb object => parenthesized (words subject ++ verbWord verb :: words object)
termination_by structural e => e

/-- The words of each item of a block or an array. -/
def wordsItems : List Expr → List (List Word)
  | [] => []
  | item :: items => words item :: wordsItems items
termination_by structural es => es

/-- The words of each entry of a map. -/
def wordsEntries : List (String × Expr) → List (List Word)
  | [] => []
  | (key, value) :: entries =>
    (⟨.string, escaped key⟩ :: ⟨.colon, ":"⟩ :: words value) :: wordsEntries entries
termination_by structural es => es

end

/-- The words of an entry of a map. -/
def entryWords (entry : String × Expr) : List Word :=
  ⟨.string, escaped entry.1⟩ :: ⟨.colon, ":"⟩ :: entry.2.words

/-- The outline of an entry of a map. -/
def entryOutline (entry : String × Expr) : String :=
  escaped entry.1 ++ ": " ++ entry.2.outline

lemma wordsItems_eq_map (items : List Expr) : wordsItems items = items.map words := by
  induction items with
  | nil => rfl
  | cons item items ih => rw [wordsItems, ih, List.map_cons]

lemma wordsEntries_eq_map (entries : List (String × Expr)) :
    wordsEntries entries = entries.map entryWords := by
  induction entries with
  | nil => rfl
  | cons entry entries ih => rw [wordsEntries, ih, List.map_cons, entryWords]

/-! ## Outlines -/

lemma writeItems_eq : ∀ (items : List Expr) (out : String),
    writeItems items out = out ++ ", ".intercalate (items.map outline)
  | [], out => by simp [writeItems]
  | [item], out => by simp [writeItems, writeOutline_eq]
  | item :: next :: items, out => by
      rw [writeItems, writeItems_eq (next :: items), writeOutline_eq]
      simp only [List.map_cons, String.intercalate_cons_cons, String.append_assoc]

lemma writeEntries_eq : ∀ (entries : List (String × Expr)) (out : String),
    writeEntries entries out = out ++ ", ".intercalate (entries.map entryOutline)
  | [], out => by simp [writeEntries]
  | [entry], out => by
      simp [writeEntries, writeOutline_eq, entryOutline, String.append_assoc]
  | entry :: next :: entries, out => by
      rw [writeEntries, writeEntries_eq (next :: entries), writeOutline_eq]
      simp only [List.map_cons, String.intercalate_cons_cons, String.append_assoc, entryOutline]

lemma outline_later (body : Expr) : (later body).outline = "@(" ++ body.outline ++ ")" := by
  rw [outline, writeOutline, writeOutline_eq, String.empty_append]

lemma outline_block (items : List Expr) :
    (block items).outline = "\x7b" ++ ", ".intercalate (items.map outline) ++ "\x7d" := by
  rw [outline, writeOutline, writeItems_eq, String.empty_append]

lemma outline_array (items : List Expr) :
    (array items).outline = "[" ++ ", ".intercalate (items.map outline) ++ "]" := by
  rw [outline, writeOutline, writeItems_eq, String.empty_append]

lemma outline_map (entries : List (String × Expr)) :
    (map entries).outline = "#\x7b" ++ ", ".intercalate (entries.map entryOutline) ++ "\x7d" := by
  rw [outline, writeOutline, writeEntries_eq, String.empty_append]

lemma outline_pair (left right : Expr) :
    (pair left right).outline = "(" ++ left.outline ++ ":" ++ right.outline ++ ")" := by
  rw [outline, writeOutline, writeOutline_eq, writeOutline_eq left, String.empty_append]

lemma outline_message (verb : String) (object : Expr) :
    (message verb object).outline = "\\ " ++ verb ++ " " ++ object.outline := by
  rw [outline, writeOutline, writeOutline_eq, String.empty_append]

lemma outline_send (subject : Expr) (verb : String) (object : Expr) :
    (send subject verb object).outline
      = "(" ++ subject.outline ++ " " ++ verb ++ " " ++ object.outline ++ ")" := by
  rw [outline, writeOutline, writeOutline_eq, writeOutline_eq subject, String.empty_append]

end Expr

/-! ## Escaped strings -/

/-- Characters that are no quotes and no backslashes. -/
lemma StringBody.of_plain {text : List Char} (h : ∀ c ∈ text, c ≠ '"' ∧ c ≠ '\\') :
    StringBody text := by
  induction text with
  | nil => exact .nil
  | cons c text ih =>
      obtain ⟨hc, htext⟩ := List.forall_mem_cons.1 h
      exact (StringBody.plain hc.1 hc.2).append_iff.2 (ih htext)

/-- A character is escaped in such a way that it closes no string. -/
lemma stringBody_escapeChar (c : Char) : StringBody (escapeChar c).toList := by
  unfold escapeChar
  split_ifs with h0 ht hn hr hquote hslash
  · exact .escape '0'
  · exact .escape 't'
  · exact .escape 'n'
  · exact .escape 'r'
  · exact .escape '"'
  · exact .escape '\\'
  · rw [codePoint_toList]
    refine (StringBody.escape 'u').append_iff.2 (.of_plain ?_)
    simp only [List.forall_mem_cons, List.forall_mem_append]
    refine ⟨by decide, fun d hd => ?_, by decide, by simp⟩
    obtain ⟨n, hn, rfl⟩ := exists_of_mem_toDigits hd
    exact (digitChar_ne n hn).2
  · rw [Char.toString_eq_singleton, String.toList_singleton]
    exact .plain hquote hslash

lemma stringBody_escapedChars (text : List Char) : StringBody (escapedChars text) := by
  induction text with
  | nil => exact .nil
  | cons c text ih =>
      rw [escapedChars_cons]
      exact (stringBody_escapeChar c).append_iff.2 ih

/-- **An escaped string is one word**, whatever the string holds. -/
lemma scans_escaped (text : String) :
    Scans (escaped text).toList [⟨.string, escaped text⟩] :=
  scans_string (escaped_toList text) (stringBody_escapedChars text.toList)

/-! ## Scanning -/

open Value (scans_space scans_punctuation scans_verb_between scans_intercalate_map)

/-- The words of a text in parentheses. -/
lemma scans_parenthesized {text : List Char} {ws : List Word} (h : Scans text ws) :
    Scans ('(' :: (text ++ [')'])) (Word.parenthesized ws) :=
  .punctuation (c := '(') rfl (scans_punctuation (c := ')') rfl (by decide) h .nil)

namespace Expr

/-- **The words of the outline of a lexical expression.** -/
theorem scans_outline {e : Expr} (h : e.Lexical) (hfloats : e.FloatFree) :
    Scans e.outline.toList e.words := by
  induction e using induction_parts with
  | step e ih =>
      replace ih := fun part hpart => ih part hpart (h.part hpart) (hfloats.part hpart)
      cases e with
      | nil => exact scans_parenthesized .nil
      | int value => simpa [outline, writeOutline, words] using scans_integer h.self
      | float value => exact absurd rfl (hfloats.self value)
      | string value => simpa [outline, writeOutline, words] using scans_escaped value
      | name text => simpa [outline, writeOutline, words] using scans_name h.self
      | later body =>
          have hbody := Scans.punctuation (c := '@') rfl
            (scans_parenthesized (ih body (by simp)))
          simpa [outline_later, words] using hbody
      | block items =>
          have hitems := Scans.punctuation (c := '{') rfl
            (scans_punctuation (c := '}') rfl (by decide) (scans_intercalate_map ih) .nil)
          simpa [outline_block, words, wordsItems_eq_map] using hitems
      | array items =>
          have hitems := Scans.punctuation (c := '[') rfl
            (scans_punctuation (c := ']') rfl (by decide) (scans_intercalate_map ih) .nil)
          simpa [outline_array, words, wordsItems_eq_map] using hitems
      | map entries =>
          have hentry : ∀ entry ∈ entries,
              Scans (entryOutline entry).toList (entryWords entry) := by
            intro entry hentry
            have hscans := scans_punctuation (c := ':') rfl (by decide) (scans_escaped entry.1)
              (scans_space (ih entry.2 (List.mem_map_of_mem hentry)))
            simpa [entryOutline, entryWords] using hscans
          have hclosed := scans_punctuation (c := '}') rfl (by decide)
            (scans_intercalate_map hentry) .nil
          have hentries := @Scans.word '#' ['{'] _ .openMap _ rfl hclosed
          simpa [outline_map, words, wordsEntries_eq_map] using hentries
      | pair left right =>
          have hsides := scans_parenthesized (scans_punctuation (c := ':') rfl (by decide)
            (ih left (by simp)) (ih right (by simp)))
          simpa [outline_pair, words] using hsides
      | message verb object =>
          have hobject := Scans.punctuation (c := '\\') rfl
            (scans_verb_between h.self (ih object (by simp)))
          simpa [outline_message, words] using hobject
      | send subject verb object =>
          have hsend := scans_parenthesized ((ih subject (by simp)).append (.cons (by decide) _)
            (scans_verb_between h.self (ih object (by simp))))
          simpa [outline_send, words] using hsend

end Expr

end Missive
