import Missive.Proofs.Text.Quoting
import Missive.Text.Escaped

/-!
# Escaped strings can be told apart

An escaped string stands for one text only: the character at its head and what follows can be read
off it (`unescapeChar?`), code points in hexadecimal included.

* `unescapeChar?_escapeChar`: reading one character undoes writing it.
* `escaped_injective`: no two texts have one escaped form.
* `Printable`: the characters of ASCII that can be seen, and the space.
* `unquote_escaped`: a text of such characters without backslashes is written as a string literal
  that reads back.
-/

namespace Missive.Text

/-! ## Hexadecimal numbers -/

/-- The value of a hexadecimal digit. -/
def hexValue (c : Char) : Nat :=
  if c.toNat < 'a'.toNat then c.toNat - '0'.toNat else c.toNat - 'a'.toNat + 10

/-- The number that hexadecimal digits stand for. -/
def ofHex (digits : List Char) : Nat :=
  digits.foldl (fun n c => 16 * n + hexValue c) 0

lemma hexValue_digitChar : ∀ d < 16, hexValue (Nat.digitChar d) = d := by
  decide

/-- A number is the one that its digits stand for. -/
lemma ofHex_toDigits (n : Nat) : ofHex (Nat.toDigits 16 n) = n := by
  induction n using Nat.strongRecOn with
  | ind n ih =>
      rw [Nat.toDigits_eq_if (by decide)]
      split_ifs with hlt
      · simpa [ofHex] using hexValue_digitChar n hlt
      · have hhead := ih (n / 16) (by omega)
        have hlast := hexValue_digitChar (n % 16) (by omega)
        rw [ofHex] at hhead ⊢
        rw [List.foldl_append, hhead, List.foldl_cons, List.foldl_nil, hlast]
        omega

/-- The digits of a number are digits. -/
lemma exists_of_mem_toDigits {n : Nat} {c : Char} (h : c ∈ Nat.toDigits 16 n) :
    ∃ d < 16, c = Nat.digitChar d := by
  induction n using Nat.strongRecOn with
  | ind n ih =>
      rw [Nat.toDigits_eq_if (by decide)] at h
      split_ifs at h with hlt
      · exact ⟨n, hlt, List.mem_singleton.1 h⟩
      · rcases List.mem_append.1 h with h | h
        · exact ih (n / 16) (by omega) h
        · exact ⟨n % 16, by omega, List.mem_singleton.1 h⟩

/-- No digit is a brace, a quote or a backslash. -/
lemma digitChar_ne : ∀ d < 16, Nat.digitChar d ≠ '}' ∧ Nat.digitChar d ≠ '"' ∧
    Nat.digitChar d ≠ '\\' := by
  decide

/-! ## One character -/

/-- The character at the head of an escaped text, and what follows it. -/
def unescapeChar? : List Char → Option (Char × List Char)
  | [] => none
  | '\\' :: 'u' :: '{' :: rest =>
    some (Char.ofNat (ofHex (rest.takeWhile (· ≠ '}'))), (rest.dropWhile (· ≠ '}')).tail)
  | '\\' :: '0' :: rest => some ('\x00', rest)
  | '\\' :: 't' :: rest => some ('\t', rest)
  | '\\' :: 'n' :: rest => some ('\n', rest)
  | '\\' :: 'r' :: rest => some ('\r', rest)
  | '\\' :: c :: rest => some (c, rest)
  | c :: rest => some (c, rest)

lemma codePoint_toList (c : Char) :
    (codePoint c).toList = '\\' :: 'u' :: '{' :: (Nat.toDigits 16 c.toNat ++ ['}']) := by
  simp [codePoint]

/-- A code point is read up to its closing brace. -/
lemma unescapeChar?_codePoint (c : Char) (rest : List Char) :
    unescapeChar? ((codePoint c).toList ++ rest) = some (c, rest) := by
  have hdigits : ∀ d ∈ Nat.toDigits 16 c.toNat, decide (d ≠ '}') = true := by
    intro d hd
    obtain ⟨n, hn, rfl⟩ := exists_of_mem_toDigits hd
    exact decide_eq_true (digitChar_ne n hn).1
  have htake : (Nat.toDigits 16 c.toNat ++ '}' :: rest).takeWhile (· ≠ '}')
      = Nat.toDigits 16 c.toNat := by
    rw [List.takeWhile_append_of_pos hdigits, List.takeWhile_cons_of_neg (by simp),
      List.append_nil]
  have hdrop : (Nat.toDigits 16 c.toNat ++ '}' :: rest).dropWhile (· ≠ '}') = '}' :: rest := by
    rw [List.dropWhile_append_of_pos hdigits, List.dropWhile_cons_of_neg (by simp)]
  rw [codePoint_toList, List.cons_append, List.cons_append, List.cons_append, List.append_assoc,
    List.singleton_append, unescapeChar?, htake, hdrop, ofHex_toDigits, Char.ofNat_toNat,
    List.tail_cons]

/-- **Reading one character undoes writing it.** -/
theorem unescapeChar?_escapeChar (c : Char) (rest : List Char) :
    unescapeChar? ((escapeChar c).toList ++ rest) = some (c, rest) := by
  unfold escapeChar
  split_ifs with h0 ht hn hr hquote hslash hhidden
  · rw [h0]
    rfl
  · rw [ht]
    rfl
  · rw [hn]
    rfl
  · rw [hr]
    rfl
  · rw [hquote]
    rfl
  · rw [hslash]
    rfl
  · exact unescapeChar?_codePoint c rest
  · simp [unescapeChar?, hslash]

/-! ## Whole texts -/

/-- The characters of an escaped text, without the quotes. -/
def escapedChars (text : List Char) : List Char :=
  text.flatMap fun c => (escapeChar c).toList

lemma escaped_toList (text : String) :
    (escaped text).toList = '"' :: (escapedChars text.toList ++ ['"']) := by
  simp [escaped, escapedChars, String.toList_join, List.flatMap_def, Function.comp_def]

lemma escapedChars_cons (c : Char) (text : List Char) :
    escapedChars (c :: text) = (escapeChar c).toList ++ escapedChars text :=
  List.flatMap_cons

lemma escapedChars_injective : Function.Injective escapedChars := by
  intro text text' h
  induction text generalizing text' with
  | nil =>
      cases text' with
      | nil => rfl
      | cons d text' =>
          have hread := unescapeChar?_escapeChar d (escapedChars text')
          rw [← escapedChars_cons, ← h] at hread
          cases hread
  | cons c text ih =>
      have hread := unescapeChar?_escapeChar c (escapedChars text)
      rw [← escapedChars_cons, h] at hread
      cases text' with
      | nil => cases hread
      | cons d text' =>
          rw [escapedChars_cons, unescapeChar?_escapeChar] at hread
          obtain ⟨rfl, htext⟩ := Prod.mk.inj (Option.some.inj hread)
          rw [ih htext.symm]

/-- **No two texts have one escaped form.** -/
theorem escaped_injective : Function.Injective escaped := by
  intro text text' h
  have hchars := congrArg String.toList h
  rw [escaped_toList, escaped_toList] at hchars
  have htexts := (List.append_inj' (List.cons.inj hchars).2 rfl).1
  exact String.toList_inj.1 (escapedChars_injective htexts)

/-! ## Printable characters -/

/-- A character of ASCII that can be seen, or the space. -/
def Printable (c : Char) : Prop :=
  0x20 ≤ c.toNat ∧ c.toNat ≤ 0x7E

/-- The tables of characters that are written as code points have no printable ones. -/
lemma ranges_not_printable : ∀ range ∈ combinings.ranges ++ unprintables.ranges,
    range.2 < 0x20 ∨ 0x7E < range.1 := by
  decide +kernel

lemma contains_eq_false {set : CodeRanges} {c : Char} (h : Printable c)
    (hranges : ∀ range ∈ set.ranges, range.2 < 0x20 ∨ 0x7E < range.1) :
    set.contains c = false := by
  obtain ⟨hlow, hhigh⟩ := h
  rw [CodeRanges.contains, List.any_eq_false]
  intro range hrange
  have hout := hranges range hrange
  simp only [Bool.and_eq_true, decide_eq_true_eq]
  omega

/-- A printable character is written as it is, behind a backslash if it is a quote or a
backslash. -/
lemma escapeChar_of_printable {c : Char} (h : Printable c) :
    (escapeChar c).toList = if c = '"' ∨ c = '\\' then ['\\', c] else [c] := by
  have hranges := List.forall_mem_append.1 ranges_not_printable
  have hcombining : isCombining c = false := contains_eq_false h hranges.1
  have hunprintable : isUnprintable c = false := contains_eq_false h hranges.2
  have hcontrol : ∀ d : Char, d.toNat < 0x20 → c ≠ d := by
    rintro d hd rfl
    exact absurd h.1 (by omega)
  unfold escapeChar
  rw [if_neg (hcontrol _ (by decide)), if_neg (hcontrol _ (by decide)),
    if_neg (hcontrol _ (by decide)), if_neg (hcontrol _ (by decide))]
  split_ifs <;> simp_all

/-- A text of printable characters is written as a string literal. -/
lemma escaped_eq_quote {text : String} (h : ∀ c ∈ text.toList, Printable c) :
    escaped text = quote text := by
  have hchars : ∀ chars : List Char, (∀ c ∈ chars, Printable c) →
      escapedChars chars = escapeQuotes chars := by
    intro chars hchars
    induction chars with
    | nil => rfl
    | cons c chars ih =>
        obtain ⟨hc, hchars⟩ := List.forall_mem_cons.1 hchars
        rw [escapedChars_cons, ih hchars, escapeChar_of_printable hc, escapeQuotes]
        split_ifs <;> rfl
  rw [← String.toList_inj, escaped_toList, hchars _ h, quote, String.toList_ofList,
    List.cons_append]

/-- **A text of printable characters without backslashes reads back.** -/
theorem unquote_escaped {text : String} (h : ∀ c ∈ text.toList, Printable c ∧ c ≠ '\\') :
    unquote (escaped text) = text := by
  rw [escaped_eq_quote fun c hc => (h c hc).1]
  exact unquote_quote_of_plain fun hslash => (h _ ((List.dropLast_sublist _).subset hslash)).2 rfl

end Missive.Text
