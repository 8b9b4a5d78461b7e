import Missive.Proofs.Token.Strings
import Missive.Proofs.Token.Words
import Missive.Value.Render
import Missive.Expr.Parser
import Mathlib.Data.List.Forall2
import Mathlib.Data.List.TakeWhile

/-!
# The words of a rendered value

`Value.words` gives the words that the text of a value consists of.  It takes each leaf for one
word, and so do names, verbs and numbers of a program: a value whose leaves all are of this kind is
`Lexical`, and then the scanner finds exactly these words in its text.

* `Lexical`: every leaf is one word.
* `scans_intercalate_map`: the words of rows of pieces with commas between them.
* `scans_render`: the words of the text of a lexical value.
-/

namespace Missive

open Text

/-- A letter with letters and digits behind it. -/
def ValidName (text : String) : Prop :=
  ∃ c rest, text.toList = c :: rest ∧ isLetter c = true ∧ ∀ d ∈ rest, isLetterOrDigit d = true

/-- The text of one token that can stand for a verb. -/
def ValidVerb (text : String) : Prop :=
  ∃ kind, (kind = .verb ∨ kind = .name) ∧
    Lexeme.ofChars text.toList = ⟨text.toList, .token kind⟩

/-- A number that is written as digits around a point and reads back. -/
def ReadsBack (x : Float) : Prop :=
  (∃ whole fraction, whole ≠ [] ∧ fraction ≠ [] ∧ (∀ c ∈ whole, isDigit c = true) ∧
    (∀ c ∈ fraction, isDigit c = true) ∧
    (Value.floatText x).toList = whole ++ '.' :: fraction) ∧
  (Parser.floatLiteral (Value.floatText x).toList == x) = true

/-- The word of a verb. -/
def verbWord (verb : String) : Word :=
  match (Lexeme.ofChars verb.toList).reading with
  | .token kind => ⟨kind, verb⟩
  | _ => ⟨.verb, verb⟩

/-- The words of pieces with commas between them. -/
def Word.separated : List (List Word) → List Word
  | [] => []
  | piece :: pieces => piece ++ pieces.flatMap (⟨.comma, ","⟩ :: ·)

lemma Word.separated_cons_cons (piece next : List Word) (pieces : List (List Word)) :
    separated (piece :: next :: pieces)
      = piece ++ ⟨.comma, ","⟩ :: separated (next :: pieces) := by
  rw [separated, separated, List.flatMap_cons, List.cons_append]

namespace Value

mutual

/-- The words of the text of a value, each leaf taken for one. -/
def words : Value → List Word
  | nil => [⟨.openParen, "("⟩, ⟨.closeParen, ")"⟩]
  | integer value => [⟨.number, toString value⟩]
  | float value => [⟨.float, floatText value⟩]
  | string value => [⟨.string, Text.quote value⟩]
  | name text => [⟨.name, text⟩]
  | later body => ⟨.at, "@"⟩ :: ⟨.openParen, "("⟩ :: (words body ++ [⟨.closeParen, ")"⟩])
  | block items => ⟨.openBlock, "\x7b"⟩ :: (wordsItems items ++ [⟨.closeBlock, "\x7d"⟩])
  | array items => ⟨.openArray, "["⟩ :: (wordsItems items ++ [⟨.closeArray, "]"⟩])
  | map entries => ⟨.openMap, "#\x7b"⟩ :: (wordsEntries entries ++ [⟨.closeBlock, "\x7d"⟩])
  | pair left right => words left ++ ⟨.colon, ":"⟩ :: words right
  | message verb object => ⟨.backslash, "\\"⟩ :: verbWord verb :: words object
  | send subject verb object => words subject ++ verbWord verb :: words object
  | handler _ => [⟨.name, "Handler"⟩]
termination_by structural v => v

/-- The words of the items of a block or an array. -/
def wordsItems : List Value → List Word
  | [] => []
  | [item] => words item
  | item :: next :: items => words item ++ ⟨.comma, ","⟩ :: wordsItems (next :: items)
termination_by structural vs => vs

/-- The words of the entries of a map. -/
def wordsEntries : List (String × Value) → List Word
  | [] => []
  | [(key, value)] => ⟨.string, Text.quote key⟩ :: ⟨.colon, ":"⟩ :: words value
  | (key, value) :: next :: entries =>
    ⟨.string, Text.quote key⟩ :: ⟨.colon, ":"⟩ ::
      (words value ++ ⟨.comma, ","⟩ :: wordsEntries (next :: entries))
termination_by structural vs => vs

end

mutual

/-- The floating-point numbers in a value. -/
def floats : Value → List Float
  | nil | integer _ | string _ | name _ | handler _ => []
  | float value => [value]
  | later body => floats body
  | block items => floatsItems items
  | array items => floatsItems items
  | map entries => floatsEntries entries
  | pair left right => floats left ++ floats right
  | message _ object => floats object
  | send subject _ object => floats subject ++ floats object
termination_by structural v => v

/-- The floating-point numbers in a row of items. -/
def floatsItems : List Value → List Float
  | [] => []
  | item :: items => floats item ++ floatsItems items
termination_by structural vs => vs

/-- The floating-point numbers in a row of map entries. -/
def floatsEntries : List (String × Value) → List Float
  | [] => []
  | (_, value) :: entries => floats value ++ floatsEntries entries
termination_by structural vs => vs

end

/-- Every leaf of the value is one word of a program: whole numbers have no sign, names are names,
verbs are verbs, and there are no handlers. -/
inductive Lexical : Value → Prop
  | nil : Lexical nil
  | integer {value : Int64} : 0 ≤ value.toInt → Lexical (integer value)
  | float (value : Float) : Lexical (float value)
  | string (value : String) : Lexical (string value)
  | name {text : String} : ValidName text → Lexical (name text)
  | later {body : Value} : Lexical body → Lexical (later body)
  | block {items : List Value} : (∀ item ∈ items, Lexical item) → Lexical (block items)
  | array {items : List Value} : (∀ item ∈ items, Lexical item) → Lexical (array items)
  | map {entries : List (String × Value)} : (∀ entry ∈ entries, Lexical entry.2) →
      Lexical (map entries)
  | pair {left right : Value} : Lexical left → Lexical right → Lexical (pair left right)
  | message {verb : String} {object : Value} : ValidVerb verb → Lexical object →
      Lexical (message verb object)
  | send {subject object : Value} {verb : String} : Lexical subject → ValidVerb verb →
      Lexical object → Lexical (send subject verb object)

end Value

/-! ## Leaves -/

/-- A row of digits is one word. -/
lemma scans_digits {text : String} (hne : text.toList ≠ [])
    (h : ∀ c ∈ text.toList, isDigit c = true) : Scans text.toList [⟨.number, text⟩] := by
  have hlexeme : Lexeme.ofChars text.toList = ⟨text.toList, .token .number⟩ := by
    cases htext : text.toList with
    | nil => exact absurd htext hne
    | cons c rest =>
        rw [htext] at h
        have htake : (c :: rest).takeWhile isDigit = c :: rest := List.takeWhile_eq_self_iff.2 h
        have hdrop : (c :: rest).dropWhile isDigit = [] := List.dropWhile_eq_nil_iff.2 h
        rw [Lexeme.begins_iff.1 (.number (h c List.mem_cons_self)), Lexeme.ofNumber, htake, hdrop]
  have hscans := Scans.single hne hlexeme
  rwa [String.ofList_toList] at hscans

/-- The digits of a whole number without sign. -/
lemma toString_toList {value : Int64} (h : 0 ≤ value.toInt) :
    (toString value).toList = Nat.toDigits 10 value.toInt.toNat := by
  obtain ⟨n, hn⟩ := Int.eq_ofNat_of_zero_le h
  have htext : toString value = toString value.toInt := rfl
  rw [htext, hn]
  exact Nat.toList_repr

/-- A whole number without sign is one word. -/
lemma scans_integer {value : Int64} (h : 0 ≤ value.toInt) :
    Scans (toString value).toList [⟨.number, toString value⟩] := by
  refine scans_digits ?_ ?_
  · rw [toString_toList h]
    exact Nat.toDigits_ne_nil
  · intro c hc
    rw [toString_toList h] at hc
    exact Nat.isDigit_of_mem_toDigits (by decide) (by decide) hc

/-- A number around a point is one word. -/
lemma scans_float {x : Float} (h : ReadsBack x) :
    Scans (Value.floatText x).toList [⟨.float, Value.floatText x⟩] := by
  obtain ⟨⟨whole, fraction, hwhole, hfraction, hdigits, hdigits', htext⟩, -⟩ := h
  obtain ⟨c, rest, rfl⟩ := List.exists_cons_of_ne_nil hwhole
  obtain ⟨d, rest', rfl⟩ := List.exists_cons_of_ne_nil hfraction
  have hpoint : isDigit '.' = false := by decide
  have htake : (c :: rest ++ '.' :: d :: rest').takeWhile isDigit = c :: rest := by
    rw [List.takeWhile_append_of_pos hdigits, List.takeWhile_cons_of_neg (by simp [hpoint]),
      List.append_nil]
  have hdrop : (c :: rest ++ '.' :: d :: rest').dropWhile isDigit = '.' :: d :: rest' := by
    rw [List.dropWhile_append_of_pos hdigits, List.dropWhile_cons_of_neg (by simp [hpoint])]
  have hlexeme : Lexeme.ofChars (Value.floatText x).toList
      = ⟨(Value.floatText x).toList, .token .float⟩ := by
    rw [htext, List.cons_append, Lexeme.begins_iff.1 (.number (hdigits c List.mem_cons_self)),
      ← List.cons_append, Lexeme.ofNumber, htake, hdrop]
    simp only [hdigits' d List.mem_cons_self, ↓reduceIte, List.takeWhile_eq_self_iff.2 hdigits']
  have hscans := Scans.single (by simp [htext]) hlexeme
  rwa [String.ofList_toList] at hscans

/-- A string is one word. -/
lemma scans_string {text : String} {body : List Char} (htext : text.toList = '"' :: (body ++ ['"']))
    (h : StringBody body) : Scans text.toList [⟨.string, text⟩] := by
  have hlexeme : Lexeme.ofChars text.toList = ⟨text.toList, .token .string⟩ := by
    rw [htext]
    exact Lexeme.ofChars_of_body h []
  have hscans := Scans.single (by simp [htext]) hlexeme
  rwa [String.ofList_toList] at hscans

/-- A written string is one word. -/
lemma scans_quote (text : String) : Scans (quote text).toList [⟨.string, quote text⟩] :=
  scans_string (by simp [quote]) (stringBody_escapeQuotes text.toList)

/-- A name is one word. -/
lemma scans_name {text : String} (h : ValidName text) : Scans text.toList [⟨.name, text⟩] := by
  obtain ⟨c, rest, htext, hletter, hrest⟩ := h
  have hlexeme : Lexeme.ofChars text.toList = ⟨text.toList, .token .name⟩ := by
    rw [htext, Lexeme.begins_iff.1 (.name hletter), List.takeWhile_eq_self_iff.2 hrest]
  have hscans := Scans.single (by simp [htext]) hlexeme
  rwa [String.ofList_toList] at hscans

/-- A verb is one word. -/
lemma scans_verb {verb : String} (h : ValidVerb verb) : Scans verb.toList [verbWord verb] := by
  obtain ⟨kind, hkind, hlexeme⟩ := h
  have hne : verb.toList ≠ [] := by
    intro hnil
    rw [hnil] at hlexeme
    rcases hkind with rfl | rfl <;> cases hlexeme
  have hscans := Scans.single hne hlexeme
  rw [String.ofList_toList] at hscans
  simpa [verbWord, hlexeme] using hscans

/-! ## Whole values -/

namespace Value

/-- The text of the items of a block or an array. -/
def renderItems (items : List Value) : String :=
  writeItems items ""

/-- The text of the entries of a map. -/
def renderEntries (entries : List (String × Value)) : String :=
  writeEntries entries ""

lemma writeItems_eq (items : List Value) (out : String) :
    writeItems items out = out ++ renderItems items := by
  simpa [renderItems] using writeItems_append items out ""

lemma writeEntries_eq (entries : List (String × Value)) (out : String) :
    writeEntries entries out = out ++ renderEntries entries := by
  simpa [renderEntries] using writeEntries_append entries out ""

lemma render_later (body : Value) : (later body).render = "@(" ++ body.render ++ ")" := by
  rw [render, write, write_eq, String.empty_append]

lemma render_block (items : List Value) :
    (block items).render = "\x7b" ++ renderItems items ++ "\x7d" := by
  rw [render, write, writeItems_eq, String.empty_append]

lemma render_array (items : List Value) :
    (array items).render = "[" ++ renderItems items ++ "]" := by
  rw [render, write, writeItems_eq, String.empty_append]

lemma render_map (entries : List (String × Value)) :
    (map entries).render = "#\x7b" ++ renderEntries entries ++ "\x7d" := by
  rw [render, write, writeEntries_eq, String.empty_append]

lemma render_pair (left right : Value) :
    (pair left right).render = left.render ++ ":" ++ right.render := by
  rw [render, write, write_eq, write_eq, String.empty_append]

lemma render_message (verb : String) (object : Value) :
    (message verb object).render = "\\ " ++ verb ++ " " ++ object.render := by
  rw [render, write, write_eq, String.empty_append]

lemma render_send (subject : Value) (verb : String) (object : Value) :
    (send subject verb object).render
      = subject.render ++ " " ++ verb ++ " " ++ object.render := by
  rw [render, write, write_eq, write_eq, String.empty_append]

lemma renderItems_cons (item next : Value) (items : List Value) :
    renderItems (item :: next :: items) = item.render ++ ", " ++ renderItems (next :: items) := by
  rw [renderItems, writeItems, writeItems_eq, write_eq, String.empty_append]

lemma renderEntries_one (key : String) (value : Value) :
    renderEntries [(key, value)] = Text.quote key ++ ": " ++ value.render := by
  rw [renderEntries, writeEntries, write_eq, String.empty_append]

lemma renderEntries_cons (key : String) (value : Value) (next : String × Value)
    (entries : List (String × Value)) :
    renderEntries ((key, value) :: next :: entries)
      = Text.quote key ++ ": " ++ value.render ++ ", " ++ renderEntries (next :: entries) := by
  rw [renderEntries, writeEntries, writeEntries_eq, write_eq, String.empty_append]

/-- Items are written one after the other. -/
lemma renderItems_eq_intercalate : ∀ items : List Value,
    renderItems items = ", ".intercalate (items.map render)
  | [] => String.intercalate_nil.symm
  | [_] => String.intercalate_singleton.symm
  | item :: next :: items => by
      rw [renderItems_cons, renderItems_eq_intercalate (next :: items)]
      simp only [List.map_cons, String.intercalate_cons_cons]

/-- The entries of a map are written one after the other, each with its key in front. -/
lemma renderEntries_eq_intercalate : ∀ entries : List (String × Value),
    renderEntries entries
      = ", ".intercalate (entries.map fun entry => Text.quote entry.1 ++ ": " ++ entry.2.render)
  | [] => String.intercalate_nil.symm
  | [(key, value)] => (renderEntries_one key value).trans String.intercalate_singleton.symm
  | (key, value) :: next :: entries => by
      rw [renderEntries_cons, renderEntries_eq_intercalate (next :: entries)]
      simp only [List.map_cons, String.intercalate_cons_cons]

/-- A blank changes nothing. -/
lemma scans_space {text : List Char} {ws : List Word} (h : Scans text ws) :
    Scans (' ' :: text) ws :=
  .blank (by decide) h

/-- Punctuation ends every lexeme before it. -/
lemma scans_punctuation {c : Char} {kind : TokenKind} {text rest : List Char} {ws us : List Word}
    (hc : Lexeme.punctuation? c = some kind) (hpart : isVerbPart c = false)
    (h : Scans text ws) (h' : Scans rest us) :
    Scans (text ++ c :: rest) (ws ++ ⟨kind, c.toString⟩ :: us) :=
  h.append (.cons hpart rest) (.punctuation hc h')

/-- The words of a verb between blanks and of what follows it. -/
lemma scans_verb_between {verb : String} {text : List Char} {ws : List Word}
    (hverb : ValidVerb verb) (h : Scans text ws) :
    Scans (' ' :: (verb.toList ++ ' ' :: text)) (verbWord verb :: ws) :=
  scans_space ((scans_verb hverb).append (.cons (by decide) text) (scans_space h))

/-- The words of texts with commas between them. -/
lemma scans_intercalate {texts : List String} {pieces : List (List Word)}
    (h : List.Forall₂ (fun text ws => Scans text.toList ws) texts pieces) :
    Scans (", ".intercalate texts).toList (Word.separated pieces) := by
  induction h with
  | nil => simpa [Word.separated] using Scans.nil
  | @cons text ws texts pieces htext hmore ih =>
      cases hmore with
      | nil => simpa [Word.separated] using htext
      | cons hnext hmore =>
          rw [Word.separated_cons_cons, String.intercalate_cons_cons]
          have hscans := scans_punctuation (c := ',') rfl (by decide) htext (scans_space ih)
          simpa using hscans

/-- The words of texts that are made from a row of things. -/
lemma scans_intercalate_map {α : Type} {text : α → String} {code : α → List Word} {row : List α}
    (h : ∀ a ∈ row, Scans (text a).toList (code a)) :
    Scans (", ".intercalate (row.map text)).toList (Word.separated (row.map code)) := by
  refine scans_intercalate ?_
  rw [List.forall₂_map_left_iff, List.forall₂_map_right_iff, List.forall₂_same]
  exact h

/-- The words of a row of items are those of the items. -/
lemma wordsItems_eq_separated : ∀ items : List Value,
    wordsItems items = Word.separated (items.map words)
  | [] => rfl
  | [item] => (List.append_nil _).symm
  | item :: next :: items => by
      rw [wordsItems, wordsItems_eq_separated (next :: items)]
      simp only [List.map_cons, Word.separated_cons_cons]

/-- The words of a row of entries are those of the entries. -/
lemma wordsEntries_eq_separated : ∀ entries : List (String × Value),
    wordsEntries entries = Word.separated (entries.map fun entry =>
      ⟨.string, Text.quote entry.1⟩ :: ⟨.colon, ":"⟩ :: entry.2.words)
  | [] => rfl
  | [_] => (List.append_nil _).symm
  | (key, value) :: next :: entries => by
      rw [wordsEntries, wordsEntries_eq_separated (next :: entries)]
      simp only [List.map_cons, Word.separated_cons_cons, List.cons_append]

lemma scans_renderItems {items : List Value}
    (h : ∀ item ∈ items, Scans item.render.toList item.words) :
    Scans (renderItems items).toList (wordsItems items) := by
  rw [renderItems_eq_intercalate, wordsItems_eq_separated]
  exact scans_intercalate_map h

lemma scans_renderEntries {entries : List (String × Value)}
    (h : ∀ entry ∈ entries, Scans entry.2.render.toList entry.2.words) :
    Scans (renderEntries entries).toList (wordsEntries entries) := by
  rw [renderEntries_eq_intercalate, wordsEntries_eq_separated]
  refine scans_intercalate_map fun entry hentry => ?_
  have hscans := scans_punctuation (c := ':') rfl (by decide) (scans_quote entry.1)
    (scans_space (h entry hentry))
  simpa using hscans

/-- The numbers of the parts of a value are numbers of the value. -/
lemma mem_floatsItems {items : List Value} {item : Value} (hitem : item ∈ items) {x : Float}
    (hx : x ∈ item.floats) : x ∈ floatsItems items := by
  induction items with
  | nil => cases hitem
  | cons first items ih =>
      rw [floatsItems, List.mem_append]
      rcases List.mem_cons.1 hitem with rfl | hitem
      · exact .inl hx
      · exact .inr (ih hitem)

lemma mem_floatsEntries {entries : List (String × Value)} {entry : String × Value}
    (hentry : entry ∈ entries) {x : Float} (hx : x ∈ entry.2.floats) :
    x ∈ floatsEntries entries := by
  induction entries with
  | nil => cases hentry
  | cons first entries ih =>
      rw [floatsEntries, List.mem_append]
      rcases List.mem_cons.1 hentry with rfl | hentry
      · exact .inl hx
      · exact .inr (ih hentry)

/-- **The words of the text of a lexical value.** -/
theorem scans_render {v : Value} (h : v.Lexical) (hfloats : ∀ x ∈ v.floats, ReadsBack x) :
    Scans v.render.toList v.words := by
  induction h with
  | nil => exact .punctuation (c := '(') rfl (.punctuation (c := ')') rfl .nil)
  | integer hvalue => simpa [render, write, words] using scans_integer hvalue
  | float value =>
      have hscans := scans_float (hfloats value (by simp [floats]))
      simpa [render, write, words] using hscans
  | string value => simpa [render, write, words] using scans_quote value
  | name hname => simpa [render, write, words] using scans_name hname
  | later _ ih =>
      have hbody := scans_punctuation (c := ')') rfl (by decide) (ih hfloats) .nil
      have hscans := Scans.punctuation (c := '@') rfl (.punctuation (c := '(') rfl hbody)
      simpa [render_later, words] using hscans
  | block _ ih =>
      have hitems := scans_renderItems fun item hitem =>
        ih item hitem fun x hx => hfloats x (mem_floatsItems hitem hx)
      have hscans := Scans.punctuation (c := '{') rfl
        (scans_punctuation (c := '}') rfl (by decide) hitems .nil)
      simpa [render_block, words] using hscans
  | array _ ih =>
      have hitems := scans_renderItems fun item hitem =>
        ih item hitem fun x hx => hfloats x (mem_floatsItems hitem hx)
      have hscans := Scans.punctuation (c := '[') rfl
        (scans_punctuation (c := ']') rfl (by decide) hitems .nil)
      simpa [render_array, words] using hscans
  | map _ ih =>
      have hentries := scans_renderEntries fun entry hentry =>
        ih entry hentry fun x hx => hfloats x (mem_floatsEntries hentry hx)
      have hclosed := scans_punctuation (c := '}') rfl (by decide) hentries .nil
      have hscans := @Scans.word '#' ['{'] _ .openMap _ rfl hclosed
      simpa [render_map, words] using hscans
  | pair _ _ ihleft ihright =>
      simp only [floats, List.mem_append] at hfloats
      have hscans := scans_punctuation (c := ':') rfl (by decide)
        (ihleft fun x hx => hfloats x (.inl hx)) (ihright fun x hx => hfloats x (.inr hx))
      simpa [render_pair, words] using hscans
  | message hverb _ ih =>
      have hscans := Scans.punctuation (c := '\\') rfl (scans_verb_between hverb (ih hfloats))
      simpa [render_message, words] using hscans
  | send _ hverb _ ihsubject ihobject =>
      simp only [floats, List.mem_append] at hfloats
      have hscans := (ihsubject fun x hx => hfloats x (.inl hx)).append (.cons (by decide) _)
        (scans_verb_between hverb (ihobject fun x hx => hfloats x (.inr hx)))
      simpa [render_send, words] using hscans

end Value

end Missive
