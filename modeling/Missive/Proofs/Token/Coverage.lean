import Missive.Proofs.Token.Words
import Mathlib.Data.List.Induction
import Mathlib.Data.List.TakeWhile

/-!
# Scanning covers the text

Scans that follow each other, whatever they answer, take a text apart without a gap: each of them
takes a run of blanks and then a segment.  The segment and the answer of a scan say the same about
the text, and the places in the answer are those of the offsets at which the segment begins and
ends.

* `Pos.ofOffset`: the line and the column at an offset, counted from the beginning of the text.
* `Reports`: the answer of a scan, given the segment at an offset.
* `Cursor.exists_stretch`: one scan.
* `Cursor.exists_stretches`: scans that follow each other, by induction on their number.
* `Cursor.exists_stretches_ofText`: the scans of a whole text.
-/

namespace Missive

open Text

/-! ## Places by their offset -/

namespace Pos

/-- The place at an offset into a text.  Lines are counted by the newlines before the offset,
columns by the characters since the last of them, both from one. -/
def ofOffset (text : List Char) (offset : Nat) : Pos where
  line := (text.take offset).count '\n' + 1
  column := ((text.take offset).reverse.takeWhile (· ≠ '\n')).length + 1

variable {text : List Char} {offset : Nat}

lemma ofOffset_eq_afterAll : ofOffset text offset = start.afterAll (text.take offset) := by
  rw [ofOffset]
  induction text.take offset using List.reverseRecOn with
  | nil => rfl
  | append_singleton before c ih =>
      have happend : start.afterAll (before ++ [c]) = (start.afterAll before).after c :=
        List.foldl_append
      rw [happend, ← ih]
      by_cases hc : c = '\n'
      · simp [after, hc]
      · simp [after, hc]

/-- Behind a piece of the text is the place where the next one begins. -/
lemma afterAll_ofOffset {taken : List Char} (h : taken <+: text.drop offset) :
    (ofOffset text offset).afterAll taken = ofOffset text (offset + taken.length) := by
  obtain ⟨rest, hrest⟩ := h
  have htake : text.take (offset + taken.length) = text.take offset ++ taken := by
    rw [List.take_add, ← hrest, List.take_left]
  rw [ofOffset_eq_afterAll, ofOffset_eq_afterAll, htake, afterAll, afterAll, afterAll,
    List.foldl_append]

/-- No line and no column is larger than the text is long. -/
lemma ofOffset_le (text : List Char) (offset : Nat) :
    (ofOffset text offset).line ≤ text.length + 1 ∧
      (ofOffset text offset).column ≤ text.length + 1 := by
  have htake : (text.take offset).length ≤ text.length := List.length_take_le' _ _
  have hline : (text.take offset).count '\n' ≤ (text.take offset).length := List.count_le_length
  have hcolumn := (List.takeWhile_prefix (· ≠ '\n') (l := (text.take offset).reverse)).length_le
  rw [List.length_reverse] at hcolumn
  exact ⟨Nat.succ_le_succ (Nat.le_trans hline htake),
    Nat.succ_le_succ (Nat.le_trans hcolumn htake)⟩

end Pos

namespace Cursor

/-- The cursor at an offset into a text. -/
def atOffset (text : List Char) (offset : Nat) : Cursor where
  rest := text.drop offset
  pos := .ofOffset text offset

lemma ofText_eq_atOffset (source : String) : ofText source = atOffset source.toList 0 := rfl

lemma skip_atOffset {text taken : List Char} {offset : Nat} (h : taken <+: text.drop offset) :
    (atOffset text offset).skip taken = atOffset text (offset + taken.length) := by
  rw [skip, atOffset, Pos.afterAll_ofOffset h, List.drop_drop]
  rfl

end Cursor

/-! ## Cutting lexemes off -/

namespace Lexeme

/-- How the lexeme at the head of a text is cut off. -/
inductive Cut (text : List Char) : Lexeme → Prop
  /-- Nothing is left of the text. -/
  | eof : text = [] → Cut text ⟨[], .token .eof⟩
  | token {piece : List Char} {kind : TokenKind} :
      piece ≠ [] → kind ≠ .eof → Cut text ⟨piece, .token kind⟩
  | stray (c : Char) : Cut text ⟨[c], .stray c⟩
  | looseHash {rest : List Char} :
      text = '#' :: rest → rest.head? ≠ some '{' → Cut text ⟨['#'], .looseHash⟩
  | openString {rest : List Char} :
      text = '"' :: rest → Cut text ⟨text, .openString⟩

lemma cut_ofChars (text : List Char) : Cut text (ofChars text) := by
  cases text with
  | nil => exact .eof rfl
  | cons c rest =>
      have htoken : ∀ {piece kind}, ofChars (c :: rest) = ⟨piece, .token kind⟩ →
          Cut (c :: rest) ⟨piece, .token kind⟩ := by
        intro piece kind h
        have hpiece := ofChars_text_ne_nil c rest
        have hkind := ofChars_reading_ne_eof c rest
        rw [h] at hpiece hkind
        exact .token hpiece fun heof => hkind (congrArg Reading.token heof)
      generalize hlexeme : ofChars (c :: rest) = lexeme
      cases begins_iff.2 hlexeme with
      | punctuation | name | verb => exact htoken hlexeme
      | string hquote =>
          unfold ofString at hlexeme ⊢
          split at hlexeme
          · exact htoken hlexeme
          · subst hquote
            exact .openString rfl
      | hash hhash =>
          unfold ofHash at hlexeme ⊢
          split at hlexeme
          · exact htoken hlexeme
          · rename_i hnone
            subst hhash
            refine .looseHash rfl fun hhead => ?_
            obtain ⟨tail, rfl⟩ := List.head?_eq_some_iff.mp hhead
            exact hnone tail rfl
      | number =>
          unfold ofNumber at hlexeme ⊢
          split at hlexeme
          · split_ifs at hlexeme ⊢ <;> exact htoken hlexeme
          · exact htoken hlexeme
      | stray => exact .stray c

end Lexeme

/-! ## One scan -/

/-- What a scan answers for a segment that begins at an offset into a text. -/
inductive Reports (text : List Char) (offset : Nat) : List Char → Except ScanError Token → Prop
  /-- Only at the end of the text the segment is empty. -/
  | eof : offset = text.length →
      Reports text offset [] (.ok ⟨.eof, "", .ofOffset text offset, .ofOffset text offset⟩)
  | token {segment : List Char} {kind : TokenKind} : segment ≠ [] → kind ≠ .eof →
      Reports text offset segment
        (.ok ⟨kind, String.ofList segment, .ofOffset text offset,
          .ofOffset text (offset + segment.length)⟩)
  | stray (c : Char) :
      Reports text offset [c] (.error (.unexpectedCharacter (.ofOffset text offset) c))
  /-- The error of a `#` is reported for the place behind it. -/
  | looseHash {got : Char} : text[offset + 1]? = some got → got ≠ '{' →
      Reports text offset ['#']
        (.error (.expectedCharacter (.ofOffset text (offset + 1)) '{' got))
  | looseHashAtEnd : offset + 1 = text.length →
      Reports text offset ['#']
        (.error (.expectedCharacterAtEnd (.ofOffset text (offset + 1)) '{'))
  /-- A string that is still open is all that is left of the text. -/
  | openString {rest : List Char} : text.drop offset = '"' :: rest →
      Reports text offset (text.drop offset)
        (.error (.unterminatedString (.ofOffset text offset)))

/-- A stretch of text with the answer of the scan that takes it. -/
structure Stretch where
  /-- The blanks that the scan skips. -/
  blanks : List Char
  /-- The characters behind the blanks that the answer is about. -/
  segment : List Char
  answer : Except ScanError Token

namespace Stretch

/-- All characters of a stretch. -/
def chars (stretch : Stretch) : List Char :=
  stretch.blanks ++ stretch.segment

/-- A stretch is found at an offset into a text: its characters are there, it begins with all the
blanks that are there, and its answer is that for its segment. -/
structure FoundAt (text : List Char) (offset : Nat) (stretch : Stretch) : Prop where
  chars_isPrefix : stretch.chars <+: text.drop offset
  isBlank : ∀ c ∈ stretch.blanks, isBlank c = true
  not_isBlank : ∀ c ∈ text[offset + stretch.blanks.length]?, Text.isBlank c = false
  answers : Reports text (offset + stretch.blanks.length) stretch.segment stretch.answer

end Stretch

namespace Cursor

/-- A scan answers for the lexeme behind the blanks, and takes it. -/
lemma exists_answer {text : List Char} {offset : Nat} (hoffset : offset ≤ text.length)
    {cursor : Cursor} (hblanks : cursor.skipBlanks = atOffset text offset) :
    ∃ answer, Reports text offset (Lexeme.ofChars (text.drop offset)).text answer ∧
      cursor.scan = (answer,
        atOffset text (offset + (Lexeme.ofChars (text.drop offset)).text.length)) := by
  have hrest : (atOffset text offset).rest = text.drop offset := rfl
  have hcut := Lexeme.cut_ofChars (text.drop offset)
  have hstop := skip_atOffset (Lexeme.ofChars_isPrefix (text.drop offset))
  generalize hlexeme : Lexeme.ofChars (text.drop offset) = lexeme at hcut hstop
  simp only [scan, hblanks, hrest, hlexeme, hstop]
  cases hcut with
  | eof hnil =>
      have hend : offset = text.length := Nat.le_antisymm hoffset (List.drop_eq_nil_iff.mp hnil)
      exact ⟨_, .eof hend, rfl⟩
  | token hpiece hkind => exact ⟨_, .token hpiece hkind, rfl⟩
  | stray c => exact ⟨_, .stray c, rfl⟩
  | @looseHash rest htext hhead =>
      have hafter : text.drop (offset + 1) = rest := by
        rw [← List.drop_drop, htext]
        rfl
      have hget : text[offset + 1]? = rest.head? := by rw [← hafter, List.head?_drop]
      simp only [hashError, atOffset, List.length_singleton, hafter]
      cases rest with
      | nil =>
          have hlength : text.length ≤ offset + 1 := List.drop_eq_nil_iff.mp hafter
          have hpos := congrArg List.length htext
          rw [List.length_drop, List.length_singleton] at hpos
          exact ⟨_, .looseHashAtEnd (by omega), rfl⟩
      | cons got rest => exact ⟨_, .looseHash hget fun h => hhead (congrArg some h), rfl⟩
  | openString htext => exact ⟨_, .openString htext, rfl⟩

/-- **One scan.**  A scan takes a stretch of the text and leaves the cursor behind it. -/
lemma exists_stretch {text : List Char} {offset : Nat} (hoffset : offset ≤ text.length) :
    ∃ stretch : Stretch, stretch.FoundAt text offset ∧
      (atOffset text offset).scan
        = (stretch.answer, atOffset text (offset + stretch.chars.length)) := by
  obtain ⟨blanks, hrun⟩ : ∃ blanks, (text.drop offset).takeWhile isBlank = blanks := ⟨_, rfl⟩
  have hprefix : blanks <+: text.drop offset := hrun ▸ List.takeWhile_prefix _
  have hblanks : (atOffset text offset).skipBlanks = atOffset text (offset + blanks.length) := by
    change (atOffset text offset).skip ((text.drop offset).takeWhile isBlank) = _
    rw [hrun, skip_atOffset hprefix]
  have hrest : text.drop (offset + blanks.length) = (text.drop offset).dropWhile isBlank := by
    have hskip := skipBlanks_rest (atOffset text offset)
    rwa [hblanks] at hskip
  have hstart : offset + blanks.length ≤ text.length := by
    have hlength := hprefix.length_le
    rw [List.length_drop] at hlength
    omega
  obtain ⟨answer, hanswer, hscan⟩ := exists_answer hstart hblanks
  have hsegment := Lexeme.ofChars_isPrefix (text.drop (offset + blanks.length))
  generalize (Lexeme.ofChars (text.drop (offset + blanks.length))).text = segment
    at hanswer hscan hsegment
  refine ⟨⟨blanks, segment, answer⟩, ⟨?_, ?_, ?_, hanswer⟩, ?_⟩
  · rw [hrest] at hsegment
    rw [← List.takeWhile_append_dropWhile (p := isBlank) (l := text.drop offset), hrun]
    exact (List.prefix_append_right_inj blanks).mpr hsegment
  · intro c hc
    rw [← hrun] at hc
    exact List.mem_takeWhile_imp hc
  · intro c hc
    rw [← List.head?_drop, hrest] at hc
    have hhead := List.head?_dropWhile_not isBlank (text.drop offset)
    rw [hc] at hhead
    simpa using hhead
  · rw [hscan]
    simp [Stretch.chars, Nat.add_assoc]

end Cursor

/-! ## Scans that follow each other -/

/-- Whether an answer is the end of the text. -/
def isEnd : Except ScanError Token → Bool
  | .ok token => token.kind == .eof
  | .error _ => false

/-- The places that an answer names. -/
def places : Except ScanError Token → List Pos
  | .ok token => [token.start, token.stop]
  | .error error => [error.pos]

/-- The token that marks the end of a text. -/
def endToken (text : List Char) : Token where
  kind := .eof
  text := ""
  start := .ofOffset text text.length
  stop := .ofOffset text text.length

namespace Reports

variable {text segment : List Char} {offset : Nat} {answer : Except ScanError Token}

/-- All places are those of offsets into the text. -/
lemma exists_offset (h : Reports text offset segment answer) {pos : Pos}
    (hpos : pos ∈ places answer) : ∃ offset, pos = .ofOffset text offset := by
  cases h with
  | eof _ | token _ _ =>
      obtain hstart | hstop := List.mem_cons.mp hpos
      · exact ⟨_, hstart⟩
      · exact ⟨_, List.mem_singleton.mp hstop⟩
  | stray _ | looseHash _ _ | looseHashAtEnd _ | openString _ =>
      exact ⟨_, List.mem_singleton.mp hpos⟩

/-- Every answer but the end of the text is about a character at least. -/
lemma segment_ne_nil (h : Reports text offset segment answer) (hend : isEnd answer = false) :
    segment ≠ [] := by
  cases h with
  | eof _ => cases hend
  | token hsegment _ => exact hsegment
  | stray _ | looseHash _ _ | looseHashAtEnd _ => exact List.cons_ne_nil _ _
  | openString hrest =>
      rw [hrest]
      exact List.cons_ne_nil _ _

/-- What is answered at the end of the text. -/
lemma eq_endToken (h : Reports text offset segment answer) (hend : isEnd answer = true) :
    segment = [] ∧ offset = text.length ∧ answer = .ok (endToken text) := by
  cases h with
  | eof hoffset =>
      subst hoffset
      exact ⟨rfl, rfl, rfl⟩
  | token _ hkind => exact absurd (beq_iff_eq.mp hend) hkind
  | _ => cases hend

end Reports

namespace Stretch

/-- The characters of stretches that follow each other. -/
def allChars (stretches : List Stretch) : List Char :=
  stretches.flatMap chars

/-- Stretches of a text that follow each other without a gap from an offset on. -/
inductive Follow (text : List Char) : Nat → List Stretch → Prop
  | nil {offset : Nat} : Follow text offset []
  | cons {offset : Nat} {stretch : Stretch} {stretches : List Stretch} :
      stretch.FoundAt text offset → Follow text (offset + stretch.chars.length) stretches →
      Follow text offset (stretch :: stretches)

namespace Follow

variable {text : List Char} {offset : Nat} {stretches : List Stretch}

lemma allChars_isPrefix (h : Follow text offset stretches) :
    allChars stretches <+: text.drop offset := by
  induction h with
  | nil => exact List.nil_prefix
  | @cons offset stretch stretches hfound _ ih =>
      obtain ⟨rest, hrest⟩ := hfound.chars_isPrefix
      rw [← List.drop_drop, ← hrest, List.drop_left] at ih
      rw [← hrest]
      exact (List.prefix_append_right_inj _).mpr ih

/-- Every stretch but those at the end of the text has a character. -/
lemma countP_le (h : Follow text offset stretches) :
    stretches.countP (fun stretch => !isEnd stretch.answer) ≤ (allChars stretches).length := by
  induction h with
  | nil => exact Nat.le_refl _
  | @cons offset stretch stretches hfound _ ih =>
      have hlength : (allChars (stretch :: stretches)).length
          = stretch.chars.length + (allChars stretches).length := by
        simp [allChars]
      rw [List.countP_cons, hlength]
      cases hend : isEnd stretch.answer with
      | true => exact Nat.le_trans ih (Nat.le_add_left _ _)
      | false =>
          have hsegment := List.length_pos_iff.mpr (hfound.answers.segment_ne_nil hend)
          have hchars : stretch.segment.length ≤ stretch.chars.length := by simp [chars]
          simp only [Bool.not_false, if_true]
          omega

lemma exists_foundAt (h : Follow text offset stretches) {stretch : Stretch}
    (hmem : stretch ∈ stretches) : ∃ offset, stretch.FoundAt text offset := by
  induction h with
  | nil => cases hmem
  | cons hfound _ ih =>
      obtain rfl | hmem := List.mem_cons.mp hmem
      · exact ⟨_, hfound⟩
      · exact ih hmem

/-- At the end of the text there is nothing but the end. -/
lemma at_end (h : Follow text offset stretches) (hoffset : offset = text.length) :
    ∀ stretch ∈ stretches, stretch.answer = .ok (endToken text) := by
  induction h with
  | nil => exact fun _ hmem => nomatch hmem
  | @cons offset stretch stretches hfound _ ih =>
      have hchars : stretch.chars = [] := by
        have hprefix := hfound.chars_isPrefix
        rwa [hoffset, List.drop_length, List.prefix_nil] at hprefix
      have hsegment : stretch.segment = [] := (List.append_eq_nil_iff.mp hchars).2
      have hanswer : stretch.answer = .ok (endToken text) := by
        cases hend : isEnd stretch.answer with
        | true => exact (hfound.answers.eq_endToken hend).2.2
        | false => exact absurd hsegment (hfound.answers.segment_ne_nil hend)
      have hlater := ih (by rw [hchars, hoffset]; rfl)
      exact List.forall_mem_cons.mpr ⟨hanswer, hlater⟩

/-- Once the end has been reached, nothing else follows. -/
lemma of_end {before after : List Stretch} {stretch : Stretch}
    (h : Follow text offset (before ++ stretch :: after)) (hend : isEnd stretch.answer = true) :
    ∀ later ∈ stretch :: after, later.answer = .ok (endToken text) := by
  induction before generalizing offset with
  | nil =>
      obtain _ | ⟨hfound, hafter⟩ := h
      obtain ⟨hsegment, hoffset, hanswer⟩ := hfound.answers.eq_endToken hend
      have hlater := hafter.at_end (by rw [chars, hsegment, List.append_nil, hoffset])
      exact List.forall_mem_cons.mpr ⟨hanswer, hlater⟩
  | cons first before ih =>
      obtain _ | ⟨-, hrest⟩ := h
      exact ih hrest

end Follow

end Stretch

open Stretch (allChars Follow)

namespace Cursor

/-- The cursor behind a number of scans. -/
def afterMany (cursor : Cursor) : Nat → Cursor
  | 0 => cursor
  | n + 1 => cursor.scan.2.afterMany n

/-- **Scans that follow each other.**  They take stretches that follow each other. -/
lemma exists_stretches {text : List Char} (n : Nat) {offset : Nat}
    (hoffset : offset ≤ text.length) :
    ∃ stretches, Follow text offset stretches ∧
      stretches.map Stretch.answer = (atOffset text offset).scanMany n ∧
      (atOffset text offset).afterMany n
        = atOffset text (offset + (allChars stretches).length) := by
  induction n generalizing offset with
  | zero => exact ⟨[], .nil, rfl, rfl⟩
  | succ n ih =>
      obtain ⟨stretch, hfound, hscan⟩ := exists_stretch hoffset
      have hnext : offset + stretch.chars.length ≤ text.length := by
        have hlength := hfound.chars_isPrefix.length_le
        rw [List.length_drop] at hlength
        omega
      obtain ⟨stretches, hfollow, hanswers, hafter⟩ := ih hnext
      refine ⟨stretch :: stretches, .cons hfound hfollow, ?_, ?_⟩
      · rw [scanMany, hscan, List.map_cons, hanswers]
      · rw [afterMany, hscan, hafter]
        simp [allChars, Nat.add_assoc]

/-- **Coverage.**  Any number of scans of a text, whatever they answer, take stretches that follow
each other without a gap from its beginning on.

* The stretches and what is left behind the last of them are the text.
* There are no more answers before the end than the text has characters, and once the end has been
  reached it is answered again and again.
* No line and no column is larger than the text is long, so they fit into any type of numbers into
  which the length of the text and one more do. -/
theorem exists_stretches_ofText (source : String) (n : Nat) :
    ∃ stretches, Follow source.toList 0 stretches ∧
      stretches.map Stretch.answer = (ofText source).scanMany n ∧
      allChars stretches ++ ((ofText source).afterMany n).rest = source.toList ∧
      ((ofText source).scanMany n).countP (fun answer => !isEnd answer) ≤ source.length ∧
      (∀ before answer after, (ofText source).scanMany n = before ++ answer :: after →
        isEnd answer = true →
        ∀ later ∈ answer :: after, later = .ok (endToken source.toList)) ∧
      ∀ answer ∈ (ofText source).scanMany n, ∀ pos ∈ places answer,
        pos.line ≤ source.length + 1 ∧ pos.column ≤ source.length + 1 := by
  obtain ⟨stretches, hfollow, hanswers, hafter⟩ :=
    exists_stretches n (Nat.zero_le source.toList.length)
  rw [← ofText_eq_atOffset] at hanswers hafter
  have hprefix := hfollow.allChars_isPrefix
  have hlength := hprefix.length_le
  rw [List.drop_zero] at hprefix hlength
  refine ⟨stretches, hfollow, hanswers, ?_, ?_, ?_, ?_⟩
  · rw [hafter, atOffset, Nat.zero_add]
    exact List.prefix_iff_eq_append.mp hprefix
  · rw [← hanswers, List.countP_map]
    exact Nat.le_trans hfollow.countP_le hlength
  · intro before answer after hsplit hend
    obtain ⟨before, others, rfl, rfl, hothers⟩ := List.map_eq_append_iff.mp (hanswers.trans hsplit)
    obtain ⟨stretch, after, rfl, rfl, rfl⟩ := List.map_eq_cons_iff.mp hothers
    rw [← List.map_cons, List.forall_mem_map]
    exact hfollow.of_end hend
  · intro answer hanswer pos hpos
    rw [← hanswers] at hanswer
    obtain ⟨stretch, hmem, rfl⟩ := List.mem_map.mp hanswer
    obtain ⟨offset, hfound⟩ := hfollow.exists_foundAt hmem
    obtain ⟨offset, rfl⟩ := hfound.answers.exists_offset hpos
    exact Pos.ofOffset_le source.toList offset

/-- The error of the `#` does not keep the scanner from the name behind it. -/
example : (ofText "a\n #b").scanMany 4 =
    [.ok ⟨.name, "a", ⟨1, 1⟩, ⟨1, 2⟩⟩, .error (.expectedCharacter ⟨2, 3⟩ '{' 'b'),
      .ok ⟨.name, "b", ⟨2, 3⟩, ⟨2, 4⟩⟩, .ok ⟨.eof, "", ⟨2, 4⟩, ⟨2, 4⟩⟩] := by
  cbv

end Cursor

end Missive
