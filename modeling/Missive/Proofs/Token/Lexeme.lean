import Missive.Token.Lexeme
import Missive.Text.Blank
import Mathlib.Data.List.TakeWhile
import Mathlib.Tactic.Lemma
import Mathlib.Tactic.SplitIfs

/-!
# Lexemes in longer texts

A lexeme is a piece at the head of its text.  It is cut off by what follows it, of which it looks at
two characters at most.  So it stays the same piece before every text that offers it no more to go
on with than the text that it was found in.

* `Delimited`: texts that continue no lexeme.
* `OffersLess`: a text offers a lexeme before it no more than another text does.
* `Lexeme.begins_iff`: the first character decides what kind of lexeme it is.
* `Lexeme.ofChars_offersLess`: a lexeme that is a token stays it before such a text.
-/

namespace Missive

open Text

/-- A text that does not begin with a letter, a digit or a character of a verb. -/
def Delimited (text : List Char) : Prop :=
  ∀ c ∈ text.head?, isVerbPart c = false

namespace Delimited

lemma nil : Delimited [] := by
  simp [Delimited]

lemma cons {c : Char} (h : isVerbPart c = false) (rest : List Char) : Delimited (c :: rest) := by
  simpa [Delimited] using h

end Delimited

lemma isVerbPart_of_isDigit {c : Char} (h : isDigit c = true) : isVerbPart c = true := by
  simp [isVerbPart, h]

lemma isVerbPart_of_isLetterOrDigit {c : Char} (h : isLetterOrDigit c = true) :
    isVerbPart c = true := by
  simp only [isLetterOrDigit, Bool.or_eq_true] at h
  rcases h with h | h <;> simp [isVerbPart, isVerbStart, h]

/-- No character of a verb is blank. -/
lemma isBlank_of_isVerbPart {c : Char} (h : isVerbPart c = true) : isBlank c = false := by
  have hsymbols : (verbSymbols.all fun c => !isBlank c) = true := by decide
  have hascii : 48 ≤ c.toNat → c.toNat ≤ 122 → isBlank c = false := by
    intro hlow hhigh
    simp [isBlank, blanks, CodeRanges.contains]
    omega
  simp only [isVerbPart, isVerbStart, Bool.or_eq_true] at h
  rcases h with (h | h) | h
  · simpa using List.all_eq_true.1 hsymbols c (by simpa [isVerbSymbol] using h)
  · simp only [isLetter, Bool.or_eq_true, Bool.and_eq_true, decide_eq_true_eq, Char.le_def,
      UInt32.le_iff_toNat_le] at h
    have hval : c.toNat = c.val.toNat := rfl
    refine hascii ?_ ?_ <;> simp at h <;> omega
  · simp only [isDigit, Bool.and_eq_true, decide_eq_true_eq, Char.le_def,
      UInt32.le_iff_toNat_le] at h
    have hval : c.toNat = c.val.toNat := rfl
    refine hascii ?_ ?_ <;> simp at h <;> omega

/-- A character of a verb is no punctuation. -/
lemma punctuation?_of_isVerbPart {c : Char} (h : isVerbPart c = true) :
    Lexeme.punctuation? c = none ∧ c ≠ '"' ∧ c ≠ '#' := by
  refine ⟨?_, ?_, ?_⟩
  · unfold Lexeme.punctuation?
    split <;> simp_all +decide
  · rintro rfl
    exact absurd h (by decide)
  · rintro rfl
    exact absurd h (by decide)

/-- No letter is a digit. -/
lemma isDigit_of_isLetter {c : Char} (h : isLetter c = true) : isDigit c = false := by
  simp only [isLetter, Bool.or_eq_true, Bool.and_eq_true, decide_eq_true_eq, Char.le_def,
    UInt32.le_iff_toNat_le] at h
  simp only [isDigit, Bool.and_eq_false_iff, decide_eq_false_iff_not, Char.le_def,
    UInt32.le_iff_toNat_le]
  simp at h ⊢
  omega

/-- A character with which a verb begins continues one as well. -/
lemma isVerbPart_of_isVerbSymbol {c : Char} (h : isVerbSymbol c = true) : isVerbPart c = true := by
  simp [isVerbPart, isVerbStart, h]

lemma isVerbPart_of_isLetter {c : Char} (h : isLetter c = true) : isVerbPart c = true := by
  simp [isVerbPart, isVerbStart, h]

/-- No symbol is a digit or a letter. -/
lemma isLetterOrDigit_of_isVerbSymbol {c : Char} (h : isVerbSymbol c = true) :
    isDigit c = false ∧ isLetter c = false := by
  have hall : (verbSymbols.all fun c => !isDigit c && !isLetter c) = true := by decide
  have hc : c ∈ verbSymbols := by simpa [isVerbSymbol] using h
  simpa using List.all_eq_true.1 hall c hc

/-! ## What a text offers -/

/-- A text offers a lexeme before it nothing to go on with that another text does not offer.  What a
lexeme goes on with are characters of verbs, and it looks at two of them at most. -/
def OffersLess (more less : List Char) : Prop :=
  ∀ piece : List Char, piece.length ≤ 2 → (∀ c ∈ piece, isVerbPart c = true) →
    piece <+: less → piece <+: more

namespace OffersLess

variable {more less : List Char}

/-- A text that continues no lexeme offers nothing. -/
lemma of_delimited (h : Delimited less) : OffersLess more less := by
  intro piece _ hparts hpiece
  cases piece with
  | nil => exact List.nil_prefix
  | cons c piece =>
      obtain ⟨rest, rfl⟩ := hpiece
      have hc : isVerbPart c = false := h c rfl
      rw [hparts c List.mem_cons_self] at hc
      cases hc

/-- What stands before both texts changes nothing. -/
lemma append (h : OffersLess more less) (taken : List Char) :
    OffersLess (taken ++ more) (taken ++ less) := by
  intro piece hlength hparts hpiece
  rcases List.prefix_or_prefix_of_prefix hpiece (List.prefix_append taken less) with
    hshort | ⟨behind, rfl⟩
  · exact hshort.trans (List.prefix_append taken more)
  · rw [List.prefix_append_right_inj] at hpiece ⊢
    refine h behind ?_ (fun c hc => hparts c (List.mem_append_right taken hc)) hpiece
    rw [List.length_append] at hlength
    omega

/-- A run of characters of verbs that ends before the one text ends before the other. -/
lemma head? (h : OffersLess more less) {p : Char → Bool}
    (hp : ∀ c, p c = true → isVerbPart c = true) (hmore : ∀ c ∈ more.head?, p c = false) :
    ∀ c ∈ less.head?, p c = false := by
  intro c hc
  obtain ⟨rest, rfl⟩ := List.head?_eq_some_iff.mp hc
  rw [← Bool.not_eq_true]
  intro hpc
  obtain ⟨rest', hrest⟩ := h [c] (by simp) (by simpa using hp c hpc) ⟨rest, rfl⟩
  have hfalse := hmore c (by rw [← hrest]; rfl)
  rw [hpc] at hfalse
  cases hfalse

/-- What continues no lexeme may be added behind a text. -/
lemma of_append (h : Delimited less) (rest : List Char) : OffersLess rest (rest ++ less) := by
  have hnothing : OffersLess [] less := of_delimited h
  simpa using hnothing.append rest

end OffersLess

/-! ## Runs of characters -/

section Runs

variable {p : Char → Bool} {run tail : List Char}

/-- A run ends where a character is no more of its kind. -/
lemma takeWhile_run (hrun : ∀ c ∈ run, p c = true) (htail : ∀ c ∈ tail.head?, p c = false) :
    (run ++ tail).takeWhile p = run ∧ (run ++ tail).dropWhile p = tail := by
  rw [List.takeWhile_append_of_pos hrun, List.dropWhile_append_of_pos hrun]
  cases tail with
  | nil => simp
  | cons c tail =>
      have hc : ¬ p c = true := by simp [htail c rfl]
      rw [List.takeWhile_cons_of_neg hc, List.dropWhile_cons_of_neg hc, List.append_nil]
      exact ⟨rfl, rfl⟩

lemma run_of_takeWhile (h : (run ++ tail).takeWhile p = run) :
    (∀ c ∈ run, p c = true) ∧ ∀ c ∈ tail.head?, p c = false := by
  have hrun : ∀ c ∈ run, p c = true := by
    intro c hc
    rw [← h] at hc
    exact List.mem_takeWhile_imp hc
  refine ⟨hrun, fun c hc => ?_⟩
  rw [List.takeWhile_append_of_pos hrun] at h
  have hnil : tail.takeWhile p = [] := List.append_cancel_left (h.trans (List.append_nil run).symm)
  obtain ⟨rest, rfl⟩ := List.head?_eq_some_iff.mp hc
  rw [← Bool.not_eq_true]
  intro hpc
  rw [List.takeWhile_cons_of_pos hpc] at hnil
  cases hnil

end Runs

/-! ## First characters -/

namespace Lexeme

/-- How the first character of a text decides about the lexeme at its head. -/
inductive Begins (c : Char) (rest : List Char) : Lexeme → Prop
  | punctuation {kind : TokenKind} : punctuation? c = some kind → Begins c rest ⟨[c], .token kind⟩
  | string : c = '"' → Begins c rest (ofString rest)
  | hash : c = '#' → Begins c rest (ofHash rest)
  | number : isDigit c = true → Begins c rest (ofNumber (c :: rest))
  | name : isLetter c = true → Begins c rest ⟨c :: rest.takeWhile isLetterOrDigit, .token .name⟩
  | verb : isVerbSymbol c = true → Begins c rest ⟨c :: rest.takeWhile isVerbPart, .token .verb⟩
  | stray : punctuation? c = none → c ≠ '"' → c ≠ '#' → isVerbPart c = false →
      Begins c rest ⟨[c], .stray c⟩

/-- The classes of first characters have none in common and leave none out. -/
lemma begins_iff {c : Char} {rest : List Char} {lexeme : Lexeme} :
    Begins c rest lexeme ↔ ofChars (c :: rest) = lexeme := by
  constructor
  · intro h
    cases h with
    | punctuation hkind => simp [ofChars, hkind]
    | string hquote => simp [ofChars, hquote, punctuation?]
    | hash hhash => simp [ofChars, hhash, punctuation?]
    | number hdigit =>
        obtain ⟨hkind, hquote, hhash⟩ := punctuation?_of_isVerbPart (isVerbPart_of_isDigit hdigit)
        simp [ofChars, hkind, hquote, hhash, hdigit]
    | name hletter =>
        obtain ⟨hkind, hquote, hhash⟩ := punctuation?_of_isVerbPart (isVerbPart_of_isLetter hletter)
        simp [ofChars, hkind, hquote, hhash, isDigit_of_isLetter hletter, hletter]
    | verb hverb =>
        obtain ⟨hkind, hquote, hhash⟩ :=
          punctuation?_of_isVerbPart (isVerbPart_of_isVerbSymbol hverb)
        obtain ⟨hdigit, hletter⟩ := isLetterOrDigit_of_isVerbSymbol hverb
        simp [ofChars, hkind, hquote, hhash, hdigit, hletter, hverb]
    | stray hkind hquote hhash hpart =>
        simp only [isVerbPart, isVerbStart, Bool.or_eq_false_iff] at hpart
        simp [ofChars, hkind, hquote, hhash, hpart]
  · rintro rfl
    rw [ofChars]
    cases hkind : punctuation? c with
    | some kind => exact .punctuation hkind
    | none =>
        simp only
        split_ifs with hquote hhash hdigit hletter hverb
        · exact .string hquote
        · exact .hash hhash
        · exact .number hdigit
        · exact .name hletter
        · exact .verb hverb
        · have hpart : isVerbPart c = false := by
            simp [isVerbPart, isVerbStart, hdigit, hletter, hverb]
          exact .stray hkind hquote hhash hpart

end Lexeme

namespace Lexeme

variable {more less lexeme : List Char} {kind : TokenKind}

/-! ## Strings -/

/-- A character that is a backslash neither at the end of a text nor before another character is no
backslash. -/
lemma ne_backslash {c : Char} {rest : List Char} (hlast : c = '\\' → rest = [] → False)
    (hmore : ∀ next tail, c = '\\' → rest = next :: tail → False) : c ≠ '\\' := by
  rintro rfl
  cases rest with
  | nil => exact hlast rfl rfl
  | cons next rest => exact hmore next rest rfl rfl

lemma stringTail?_isPrefix {text : List Char} : ∀ {tail : List Char},
    stringTail? text = some tail → tail <+: text := by
  fun_induction stringTail? text with
  | case1 | case3 => simp
  | case2 rest => simp
  | case4 c rest ih =>
      intro tail h
      obtain ⟨tail', htail', rfl⟩ := Option.map_eq_some_iff.1 h
      simpa using ih htail'
  | case5 c rest _ _ _ ih =>
      intro tail h
      obtain ⟨tail', htail', rfl⟩ := Option.map_eq_some_iff.1 h
      simpa using ih htail'

/-- A string ends with its closing quote, whatever follows. -/
lemma stringTail?_self {text : List Char} (less : List Char) : ∀ {tail : List Char},
    stringTail? text = some tail → stringTail? (tail ++ less) = some tail := by
  fun_induction stringTail? text with
  | case1 | case3 => simp
  | case2 rest => simp [stringTail?]
  | case4 c rest ih =>
      intro tail h
      obtain ⟨tail', htail', rfl⟩ := Option.map_eq_some_iff.1 h
      simp [stringTail?, ih htail']
  | case5 c rest hquote hlast hmore ih =>
      intro tail h
      obtain ⟨tail', htail', rfl⟩ := Option.map_eq_some_iff.1 h
      have hc := ne_backslash hlast hmore
      rw [List.cons_append, stringTail?, ih htail']
      · rfl
      all_goals simp_all

/-! ## Numbers -/

lemma ofNumber_isPrefix (text : List Char) : (ofNumber text).text <+: text := by
  have htext := List.takeWhile_append_dropWhile (p := isDigit) (l := text)
  unfold ofNumber
  generalize text.takeWhile isDigit = whole, text.dropWhile isDigit = after at htext ⊢
  rw [← htext]
  split
  · rename_i digit rest
    split
    · have hrest : (digit :: rest).takeWhile isDigit <+: digit :: rest := List.takeWhile_prefix _
      simpa using hrest
    · simp
  · simp

/-- How a number is cut off by what follows it. -/
inductive NumberCut (tail : List Char) : List Char → TokenKind → Prop
  /-- No digit follows a whole number, and no point with a digit behind it. -/
  | whole {digits : List Char} : (∀ c ∈ digits, isDigit c = true) →
      (∀ c ∈ tail.head?, isDigit c = false) →
      (∀ d rest, isDigit d = true → tail ≠ '.' :: d :: rest) → NumberCut tail digits .number
  /-- No digit follows a number with a fraction. -/
  | fraction {digits fraction : List Char} : (∀ c ∈ digits, isDigit c = true) →
      (∀ c ∈ fraction, isDigit c = true) → fraction ≠ [] →
      (∀ c ∈ tail.head?, isDigit c = false) → NumberCut tail (digits ++ '.' :: fraction) .float

lemma numberCut_of_ofNumber (h : ofNumber (lexeme ++ more) = ⟨lexeme, .token kind⟩) :
    NumberCut more lexeme kind := by
  have htext := List.takeWhile_append_dropWhile (p := isDigit) (l := lexeme ++ more)
  have hdigits : ∀ c ∈ (lexeme ++ more).takeWhile isDigit, isDigit c = true :=
    fun c hc => List.mem_takeWhile_imp hc
  -- without a fraction the lexeme is all of the digits, and the rest is what follows
  have hwhole : (lexeme ++ more).takeWhile isDigit = lexeme →
      (lexeme ++ more).dropWhile isDigit = more ∧ ∀ c ∈ more.head?, isDigit c = false := by
    intro hself
    obtain ⟨hrun, hmore⟩ := run_of_takeWhile hself
    exact ⟨(takeWhile_run hrun hmore).2, hmore⟩
  unfold ofNumber at h
  split at h
  · rename_i digit rest hdrop
    split_ifs at h with hdigit
    · obtain ⟨hlexeme, hkind⟩ := Lexeme.mk.inj h
      obtain rfl := Reading.token.inj hkind
      have hfraction := List.takeWhile_append_dropWhile (p := isDigit) (l := digit :: rest)
      have hmore : (digit :: rest).dropWhile isDigit = more := by
        rw [hdrop, ← hfraction, ← List.cons_append, ← List.append_assoc, hlexeme] at htext
        exact List.append_cancel_left htext
      rw [← hlexeme]
      refine .fraction hdigits (fun c hc => List.mem_takeWhile_imp hc) ?_ ?_
      · rw [List.takeWhile_cons_of_pos hdigit]
        exact List.cons_ne_nil _ _
      · rw [← hmore]
        intro c hc
        have hhead := List.head?_dropWhile_not isDigit (digit :: rest)
        rw [hc] at hhead
        simpa using hhead
    · obtain ⟨hlexeme, hkind⟩ := Lexeme.mk.inj h
      obtain rfl := Reading.token.inj hkind
      obtain ⟨hmore, hhead⟩ := hwhole hlexeme
      refine .whole (hlexeme ▸ hdigits) hhead fun d behind hd hpoint => ?_
      rw [hmore, hpoint] at hdrop
      cases hdrop
      exact hdigit hd
  · rename_i hpoint
    obtain ⟨hlexeme, hkind⟩ := Lexeme.mk.inj h
    obtain rfl := Reading.token.inj hkind
    obtain ⟨hmore, hhead⟩ := hwhole hlexeme
    refine .whole (hlexeme ▸ hdigits) hhead fun d behind _ hmore' => ?_
    exact hpoint d behind (hmore.trans hmore')

lemma NumberCut.ofNumber_eq (h : NumberCut less lexeme kind) :
    ofNumber (lexeme ++ less) = ⟨lexeme, .token kind⟩ := by
  cases h with
  | whole hdigits hhead hpoint =>
      obtain ⟨htake, hdrop⟩ := takeWhile_run hdigits hhead
      rw [ofNumber, htake, hdrop]
      split
      · rename_i d rest
        rw [if_neg fun hd => hpoint d rest hd rfl]
      · rfl
  | @fraction digits fraction hdigits hfraction hne hhead =>
      have hpoint : ∀ c ∈ ('.' :: (fraction ++ less)).head?, isDigit c = false := by
        rintro c ⟨⟩
        decide
      obtain ⟨htake, hdrop⟩ := takeWhile_run hdigits hpoint
      obtain ⟨hbehind, -⟩ := takeWhile_run hfraction hhead
      rw [List.append_assoc, List.cons_append, ofNumber, htake, hdrop]
      cases fraction with
      | nil => exact absurd rfl hne
      | cons digit fraction =>
          have hdigit : isDigit digit = true := hfraction digit List.mem_cons_self
          rw [List.cons_append] at hbehind ⊢
          simp only [hdigit, if_true, hbehind]

/-- A number is cut off by every text that offers no more. -/
lemma NumberCut.offersLess (h : NumberCut more lexeme kind) (hless : OffersLess more less) :
    NumberCut less lexeme kind := by
  have hdigits : ∀ c, isDigit c = true → isVerbPart c = true := fun _ => isVerbPart_of_isDigit
  cases h with
  | whole hrun hhead hpoint =>
      refine .whole hrun (hless.head? hdigits hhead) ?_
      rintro d rest hd rfl
      obtain ⟨behind, hmore⟩ := hless ['.', d] (by simp) (by simp [hdigits d hd]; decide)
        ⟨rest, rfl⟩
      exact hpoint d behind hd hmore.symm
  | fraction hrun hfraction hne hhead =>
      exact .fraction hrun hfraction hne (hless.head? hdigits hhead)

/-! ## All lexemes -/

/-- A lexeme is a piece at the head of its text. -/
theorem ofChars_isPrefix (text : List Char) : (ofChars text).text <+: text := by
  cases text with
  | nil => exact List.prefix_refl _
  | cons c rest =>
      generalize hlexeme : ofChars (c :: rest) = lexeme
      cases begins_iff.2 hlexeme with
      | punctuation | stray => simp
      | string hquote =>
          subst hquote
          unfold ofString
          cases htail : stringTail? rest with
          | none => exact List.prefix_refl _
          | some tail => simpa using stringTail?_isPrefix htail
      | hash hhash =>
          subst hhash
          unfold ofHash
          split <;> simp
      | number => exact ofNumber_isPrefix _
      | name | verb => simpa using List.takeWhile_prefix _

/-- Only the end of a text is taken for the end. -/
theorem ofChars_reading_ne_eof (c : Char) (rest : List Char) :
    (ofChars (c :: rest)).reading ≠ .token .eof := by
  generalize hlexeme : ofChars (c :: rest) = lexeme
  cases begins_iff.2 hlexeme with
  | punctuation hkind =>
      unfold punctuation? at hkind
      split at hkind <;> cases hkind <;> simp
  | string =>
      unfold ofString
      split <;> simp
  | hash =>
      unfold ofHash
      split <;> simp
  | number =>
      unfold ofNumber
      split
      · split <;> simp
      · simp
  | name | verb | stray => simp

/-- No token begins with a blank. -/
theorem isBlank_of_ofChars {c : Char} {rest lexeme : List Char} {kind : TokenKind}
    (h : ofChars (c :: rest) = ⟨lexeme, .token kind⟩) : isBlank c = false := by
  generalize htoken : (⟨lexeme, .token kind⟩ : Lexeme) = token at h
  cases begins_iff.2 h with
  | punctuation hkind =>
      unfold punctuation? at hkind
      split at hkind <;> cases hkind <;> decide
  | string hquote =>
      subst hquote
      decide
  | hash hhash =>
      subst hhash
      decide
  | number hdigit => exact isBlank_of_isVerbPart (isVerbPart_of_isDigit hdigit)
  | name hletter => exact isBlank_of_isVerbPart (isVerbPart_of_isLetter hletter)
  | verb hverb => exact isBlank_of_isVerbPart (isVerbPart_of_isVerbSymbol hverb)
  | stray => cases htoken

/-- **A lexeme is cut off by every text that offers no more** than the text that it is found in. -/
theorem ofChars_offersLess (h : OffersLess more less) (hne : lexeme ≠ [])
    (hlexeme : ofChars (lexeme ++ more) = ⟨lexeme, .token kind⟩) :
    ofChars (lexeme ++ less) = ⟨lexeme, .token kind⟩ := by
  cases lexeme with
  | nil => exact absurd rfl hne
  | cons c lexeme =>
      -- names and verbs take all characters of their kind
      have hrun : ∀ {p : Char → Bool}, (∀ c, p c = true → isVerbPart c = true) →
          (lexeme ++ more).takeWhile p = lexeme → (lexeme ++ less).takeWhile p = lexeme := by
        intro p hp hself
        obtain ⟨hall, hmore⟩ := run_of_takeWhile hself
        exact (takeWhile_run hall (h.head? hp hmore)).1
      rw [List.cons_append, ofChars] at hlexeme ⊢
      cases hother : punctuation? c with
      | some other => simpa [hother] using hlexeme
      | none =>
          simp only [hother] at hlexeme ⊢
          split_ifs at hlexeme ⊢ with hquote hhash hdigit hletter hverb
          · unfold ofString at hlexeme
            cases htail : stringTail? (lexeme ++ more) with
            | none => simp [htail] at hlexeme
            | some tail =>
                simp only [htail, Lexeme.mk.injEq, List.cons.injEq] at hlexeme
                obtain ⟨⟨rfl, rfl⟩, hkind⟩ := hlexeme
                rw [ofString, stringTail?_self less htail, ← hkind]
          · unfold ofHash at hlexeme
            split at hlexeme
            · obtain ⟨htext, hkind⟩ := Lexeme.mk.inj hlexeme
              obtain ⟨rfl, rfl⟩ := List.cons.inj htext
              rw [← hkind]
              rfl
            · cases congrArg Lexeme.reading hlexeme
          · rw [← List.cons_append] at hlexeme ⊢
            exact ((numberCut_of_ofNumber hlexeme).offersLess h).ofNumber_eq
          · simp only [Lexeme.mk.injEq, List.cons.injEq, true_and] at hlexeme ⊢
            exact ⟨hrun (fun _ => isVerbPart_of_isLetterOrDigit) hlexeme.1, hlexeme.2⟩
          · simp only [Lexeme.mk.injEq, List.cons.injEq, true_and] at hlexeme ⊢
            exact ⟨hrun (fun _ => id) hlexeme.1, hlexeme.2⟩
          · cases congrArg Lexeme.reading hlexeme

end Lexeme

end Missive
