import Missive.Proofs.Token.Lexeme
import Missive.Text.Quoted
import Mathlib.Algebra.Ring.Parity
import Mathlib.Data.List.DropRight

/-!
# The quotes of a string

A backslash takes the character behind it, so a quote behind a row of backslashes is taken if the
row is odd: the backslashes take each other in pairs from the left.  The scanner goes through a
string from its beginning; which quotes are taken can be read off the backslashes before each of
them as well, and that gives the same string.

* `StringBody`: what stands between the quotes of a string.
* `stringBody_escapeQuotes`: a written text is such a body.
* `Lexeme.stringTail?_eq_some_iff`: the scanner finds the quote that closes a string.
-/

namespace Missive

/-! ## Backslashes before a quote -/

/-- How many backslashes stand at the end of a text. -/
def trailingBackslashes (text : List Char) : Nat :=
  (text.rtakeWhile (· = '\\')).length

/-- What stands between the quotes of a string.  An odd number of backslashes before a quote leaves
one that takes the quote: so it is with every quote inside, and not with the one that follows. -/
structure StringBody (body : List Char) : Prop where
  taken (before after : List Char) :
    body = before ++ '"' :: after → Odd (trailingBackslashes before)
  closed : Even (trailingBackslashes body)

/-- At the end of two texts stand the backslashes of the second, and if that is all there is to it,
those of the first as well. -/
lemma trailingBackslashes_append (text more : List Char) :
    trailingBackslashes (text ++ more) = trailingBackslashes more +
      if trailingBackslashes more = more.length then trailingBackslashes text else 0 := by
  simp only [trailingBackslashes, List.rtakeWhile, List.length_reverse, List.reverse_append,
    List.takeWhile_append]
  split_ifs <;> simp_all

lemma trailingBackslashes_concat (text : List Char) (c : Char) :
    trailingBackslashes (text ++ [c])
      = if c = '\\' then trailingBackslashes text + 1 else 0 := by
  rw [trailingBackslashes, List.rtakeWhile_concat, trailingBackslashes]
  split_ifs <;> simp_all

lemma getLast?_eq_backslash_iff (text : List Char) :
    text.getLast? = some '\\' ↔ trailingBackslashes text ≠ 0 := by
  induction text using List.reverseRecOn with
  | nil => simp [trailingBackslashes]
  | append_singleton text c _ => simp [trailingBackslashes_concat]

lemma even_trailingBackslashes_append {text : List Char} (h : Even (trailingBackslashes text))
    (more : List Char) :
    Even (trailingBackslashes (text ++ more)) ↔ Even (trailingBackslashes more) := by
  rw [trailingBackslashes_append]
  split_ifs
  · simp [Nat.even_add, h]
  · simp

namespace StringBody

variable {body piece : List Char} {c : Char}

lemma nil : StringBody [] :=
  ⟨by simp, by simp [trailingBackslashes]⟩

/-- A string body before a text makes no difference to it. -/
lemma append_iff (h : StringBody piece) : StringBody (piece ++ body) ↔ StringBody body := by
  have hodd : ∀ before, Odd (trailingBackslashes (piece ++ before)) ↔
      Odd (trailingBackslashes before) := by
    intro before
    rw [← Nat.not_even_iff_odd, ← Nat.not_even_iff_odd, even_trailingBackslashes_append h.closed]
  constructor
  · intro hboth
    refine ⟨fun before after hbody => ?_, ?_⟩
    · exact (hodd before).1 (hboth.taken _ _ (by rw [hbody, List.append_assoc]))
    · exact (even_trailingBackslashes_append h.closed body).1 hboth.closed
  · intro hbody
    refine ⟨fun before after hboth => ?_, ?_⟩
    · rcases List.append_eq_append_iff.1 hboth with ⟨behind, rfl, hafter⟩ | ⟨quote, hpiece, hafter⟩
      · exact (hodd behind).2 (hbody.taken _ _ hafter)
      · cases quote with
        | nil =>
            rw [List.append_nil] at hpiece
            have hfirst : body = [] ++ '"' :: after := by simpa using hafter.symm
            simpa [hpiece] using (hodd []).2 (hbody.taken _ _ hfirst)
        | cons d quote =>
            obtain ⟨rfl, -⟩ := List.cons.inj hafter
            exact h.taken _ _ hpiece
    · exact (even_trailingBackslashes_append h.closed body).2 hbody.closed

/-- A character that is no quote and no backslash. -/
lemma plain (hquote : c ≠ '"') (hslash : c ≠ '\\') : StringBody [c] := by
  refine ⟨fun before after h => ?_, by simp [trailingBackslashes, List.rtakeWhile, hslash]⟩
  have hc : '"' ∈ [c] := by simp [h]
  exact absurd (List.mem_singleton.1 hc).symm hquote

/-- A backslash and the character that it takes. -/
lemma escape (c : Char) : StringBody ['\\', c] := by
  refine ⟨fun before after h => ?_, ?_⟩
  · cases before with
    | nil => cases h
    | cons d before =>
        obtain ⟨rfl, htail⟩ := List.cons.inj h
        obtain rfl : before = [] := by
          cases before with
          | nil => rfl
          | cons e before => simp at htail
        simp [trailingBackslashes, List.rtakeWhile]
  · by_cases hc : c = '\\'
    · subst hc
      decide
    · simp [trailingBackslashes, List.rtakeWhile, hc]

/-- A backslash alone takes what follows. -/
lemma not_backslash : ¬ StringBody ['\\'] := by
  intro h
  exact absurd h.closed (by decide)

end StringBody

/-- A written text stands between quotes. -/
lemma stringBody_escapeQuotes (text : List Char) : StringBody (Text.escapeQuotes text) := by
  induction text with
  | nil => exact .nil
  | cons c rest ih =>
      rw [Text.escapeQuotes]
      split_ifs with hc
      · exact (StringBody.escape c).append_iff.2 ih
      · rw [not_or] at hc
        exact (StringBody.plain hc.1 hc.2).append_iff.2 ih

/-! ## Closing quotes -/

namespace Lexeme

/-- A string is read up to a quote that closes it. -/
lemma body_of_stringTail? {text : List Char} : ∀ {tail : List Char},
    stringTail? text = some tail → ∃ body, tail = body ++ ['"'] ∧ StringBody body := by
  fun_induction stringTail? text with
  | case1 | case3 => simp
  | case2 rest =>
      rintro tail ⟨⟩
      exact ⟨[], rfl, .nil⟩
  | case4 c rest ih =>
      intro tail h
      obtain ⟨tail', htail', rfl⟩ := Option.map_eq_some_iff.1 h
      obtain ⟨body, rfl, hbody⟩ := ih htail'
      exact ⟨'\\' :: c :: body, rfl, (StringBody.escape c).append_iff.2 hbody⟩
  | case5 c rest hquote hlast hmore ih =>
      intro tail h
      obtain ⟨tail', htail', rfl⟩ := Option.map_eq_some_iff.1 h
      obtain ⟨body, rfl, hbody⟩ := ih htail'
      have hc := ne_backslash hlast hmore
      exact ⟨c :: body, rfl, (StringBody.plain hquote hc).append_iff.2 hbody⟩

/-- A string is read up to the first quote that closes it. -/
lemma stringTail?_of_body {text : List Char} : ∀ {body : List Char}, StringBody body →
    body ++ ['"'] <+: text → stringTail? text = some (body ++ ['"']) := by
  fun_induction stringTail? text with
  | case1 =>
      intro body _ h
      simp at h
  | case2 rest =>
      intro body hbody h
      cases body with
      | nil => rfl
      | cons c body =>
          obtain ⟨rfl, -⟩ := List.cons_prefix_cons.1 h
          exact absurd (hbody.taken [] body rfl) (by decide)
  | case3 =>
      intro body hbody h
      cases body with
      | nil => simp at h
      | cons c body =>
          obtain ⟨rfl, hrest⟩ := List.cons_prefix_cons.1 h
          simp at hrest
  | case4 c rest ih =>
      intro body hbody h
      cases body with
      | nil => simp at h
      | cons d body =>
          obtain ⟨rfl, htail⟩ := List.cons_prefix_cons.1 h
          cases body with
          | nil => exact absurd hbody StringBody.not_backslash
          | cons e body =>
              obtain ⟨rfl, hrest⟩ := List.cons_prefix_cons.1 htail
              rw [ih ((StringBody.escape _).append_iff.1 hbody) hrest]
              rfl
  | case5 c rest hquote hlast hmore ih =>
      intro body hbody h
      have hc := ne_backslash hlast hmore
      cases body with
      | nil =>
          obtain ⟨rfl, -⟩ := List.cons_prefix_cons.1 h
          exact absurd rfl hquote
      | cons d body =>
          obtain ⟨rfl, hrest⟩ := List.cons_prefix_cons.1 h
          rw [ih ((StringBody.plain hquote hc).append_iff.1 hbody) hrest]
          rfl

/-- A string is taken up to the quote that closes it, whatever follows. -/
lemma ofChars_of_body {body : List Char} (h : StringBody body) (rest : List Char) :
    ofChars ('"' :: (body ++ '"' :: rest)) = ⟨'"' :: (body ++ ['"']), .token .string⟩ := by
  have hhead : body ++ ['"'] <+: body ++ '"' :: rest := by simp
  rw [begins_iff.1 (.string rfl), ofString, stringTail?_of_body h hhead]

/-- The scanner finds the quote that closes a string. -/
theorem stringTail?_eq_some_iff {text tail : List Char} :
    stringTail? text = some tail ↔
      ∃ body, tail = body ++ ['"'] ∧ StringBody body ∧ tail <+: text := by
  constructor
  · intro h
    obtain ⟨body, htail, hbody⟩ := body_of_stringTail? h
    exact ⟨body, htail, hbody, stringTail?_isPrefix h⟩
  · rintro ⟨body, rfl, hbody, hhead⟩
    exact stringTail?_of_body hbody hhead

end Lexeme

/-- A string body is what the scanner reads up to the quote behind it. -/
lemma stringBody_iff {body : List Char} :
    StringBody body ↔ Lexeme.stringTail? (body ++ ['"']) = some (body ++ ['"']) := by
  rw [Lexeme.stringTail?_eq_some_iff]
  constructor
  · intro h
    exact ⟨body, rfl, h, List.prefix_refl _⟩
  · rintro ⟨other, hsame, hother, -⟩
    rwa [List.append_cancel_right hsame]

instance (body : List Char) : Decidable (StringBody body) :=
  decidable_of_iff _ stringBody_iff.symm

end Missive
