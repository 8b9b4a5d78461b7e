import Missive.Proofs.Grammar.Basic
import Missive.Proofs.Render.Words
import Missive.Proofs.Text.Quoting
import Missive.Proofs.Value.Alike
import Missive.Proofs.Value.Entries
import Missive.Value.OfExpr

/-!
# Values with the shape of a program

The text of a value has no parentheses but those of nil and of deferred values, so it reads back
only if the value has the shape that the grammar gives to phrases without parentheses.

* `ClosedShape`, `ValueShape`, `SendShape`: the shapes of the three phrases.
* `SendShape.derives`: the words of a value with such a shape derive an expression of the value.
-/

namespace Missive.Value

open Grammar

/-! ## Shapes -/

mutual

/-- The shape of closed expressions. -/
inductive ClosedShape : Value → Prop
  | nil : ClosedShape nil
  | integer {value : Int64} : 0 ≤ value.toInt → ClosedShape (integer value)
  | float (value : Float) : ClosedShape (float value)
  | string {value : String} : Text.Plain value → ClosedShape (string value)
  | name {text : String} : ValidName text → ClosedShape (name text)
  | block {items : List Value} : (∀ item ∈ items, SendShape item) → ClosedShape (block items)
  | array {items : List Value} : (∀ item ∈ items, SendShape item) → ClosedShape (array items)
  /-- Entries in ascending order, as the entries of a map are. -/
  | map {entries : List (String × Value)} : Ascending entries →
      (∀ entry ∈ entries, Text.Plain entry.1) → (∀ entry ∈ entries, ValueShape entry.2) →
      ClosedShape (map entries)

/-- The shape of what may stand behind a verb. -/
inductive ValueShape : Value → Prop
  | closed {v : Value} : ClosedShape v → ValueShape v
  | later {body : Value} : SendShape body → ValueShape (later body)
  | message {verb : String} {object : Value} : ValidVerb verb → ValueShape object →
      ValueShape (message verb object)
  | pair {left right : Value} : ClosedShape left → ValueShape right → ValueShape (pair left right)

/-- The shape of whole programs. -/
inductive SendShape : Value → Prop
  | value {v : Value} : ValueShape v → SendShape v
  | send {subject object : Value} {verb : String} : SendShape subject → ValidVerb verb →
      ValueShape object → SendShape (send subject verb object)

end

mutual

theorem ClosedShape.lexical : ∀ {v : Value}, ClosedShape v → v.Lexical
  | _, .nil => .nil
  | _, .integer h => .integer h
  | _, .float value => .float value
  | _, .string _ => .string _
  | _, .name h => .name h
  | _, .block h => .block fun item hitem => (h item hitem).lexical
  | _, .array h => .array fun item hitem => (h item hitem).lexical
  | _, .map _ _ h => .map fun entry hentry => (h entry hentry).lexical

theorem ValueShape.lexical : ∀ {v : Value}, ValueShape v → v.Lexical
  | _, .closed h => h.lexical
  | _, .later h => .later h.lexical
  | _, .message hverb h => .message hverb h.lexical
  | _, .pair hleft hright => .pair hleft.lexical hright.lexical

theorem SendShape.lexical : ∀ {v : Value}, SendShape v → v.Lexical
  | _, .value h => h.lexical
  | _, .send hsubject hverb hobject => .send hsubject.lexical hverb hobject.lexical

end

/-! ## Leaves -/

/-- A whole number without sign reads back. -/
lemma literal?_integer {value : Int64} (h : 0 ≤ value.toInt) :
    literal? ⟨.number, toString value⟩ = some (.int value) := by
  have hdigits : natOfDigits (toString value).toList = value.toInt.toNat := by
    rw [toString_toList h, natOfDigits]
    exact Nat.ofDigitChars_ten_toDigits
  have hfits : value.toInt.toNat ≤ Parser.greatestInt := by
    have hlt := value.toInt_lt
    simp only [Parser.greatestInt]
    omega
  have hvalue : Int64.ofNat value.toInt.toNat = value := by
    rw [← Int64.ofInt_eq_ofNat, Int.toNat_of_nonneg h, Int64.ofInt_toInt]
  simp only [literal?, hdigits, hfits, hvalue, ↓reduceIte]

/-- A verb stands in the text as a verb. -/
lemma isVerb_verbWord {verb : String} (h : ValidVerb verb) :
    IsVerb (verbWord verb) ∧ (verbWord verb).text = verb := by
  obtain ⟨kind, hkind, hlexeme⟩ := h
  simp [verbWord, hlexeme, IsVerb, hkind]

/-! ## Rows -/

/-- Items that derive expressions make a row that does. -/
lemma exists_row : ∀ {items : List Value}, items ≠ [] →
    (∀ item ∈ items, ∃ e, Sending .closed item.words e ∧ Alike (ofExpr e) item) →
    ∃ es, Row .closed (wordsItems items) es ∧ AlikeItems (ofItems es) items
  | [item], _, h => by
      obtain ⟨e, he, halike⟩ := h item List.mem_cons_self
      exact ⟨[e], .one he, .cons halike .nil⟩
  | item :: next :: items, _, h => by
      obtain ⟨e, he, halike⟩ := h item List.mem_cons_self
      obtain ⟨es, hes, halikes⟩ := exists_row (List.cons_ne_nil next items)
        fun item hitem => h item (List.mem_cons_of_mem _ hitem)
      exact ⟨e :: es, .cons he rfl hes, .cons halike halikes⟩

/-- Values that derive expressions make entries that do. -/
lemma exists_entries : ∀ {entries : List (String × Value)}, entries ≠ [] →
    (∀ entry ∈ entries, Text.Plain entry.1) →
    (∀ entry ∈ entries, ∃ e, Operand .closed entry.2.words e ∧ Alike (ofExpr e) entry.2) →
    ∃ es, Entries .closed (wordsEntries entries) es ∧
      AlikeEntries (ofExprEntries es) entries
  | [(key, value)], _, hplain, h => by
      obtain ⟨e, he, halike⟩ := h _ List.mem_cons_self
      have hkey : Text.unquote (Text.quote key) = key :=
        Text.unquote_quote_of_plain (hplain _ List.mem_cons_self)
      refine ⟨[(_, e)], .one rfl rfl he, ?_⟩
      rw [ofExprEntries, hkey]
      exact .cons key halike .nil
  | (key, value) :: next :: entries, _, hplain, h => by
      obtain ⟨e, he, halike⟩ := h _ List.mem_cons_self
      have hkey : Text.unquote (Text.quote key) = key :=
        Text.unquote_quote_of_plain (hplain _ List.mem_cons_self)
      obtain ⟨es, hes, halikes⟩ := exists_entries (List.cons_ne_nil next entries)
        (fun entry hentry => hplain entry (List.mem_cons_of_mem _ hentry))
        fun entry hentry => h entry (List.mem_cons_of_mem _ hentry)
      refine ⟨(_, e) :: es, .cons rfl rfl he rfl hes, ?_⟩
      rw [ofExprEntries, hkey]
      exact .cons key halike halikes

/-! ## Values -/

mutual

/-- The words of a value with the shape of a closed expression derive one. -/
theorem ClosedShape.derives : ∀ {v : Value}, ClosedShape v → (∀ x ∈ v.floats, ReadsBack x) →
    ∃ e, Closed .closed v.words e ∧ Alike (ofExpr e) v
  | _, .nil, _ => ⟨.nil, .nil rfl rfl, .nil⟩
  | _, .integer h, _ => ⟨.int _, .literal (literal?_integer h), .integer _⟩
  | _, .float value, hfloats =>
      ⟨.float _, .literal rfl, .float (hfloats value (by simp [floats])).2⟩
  | .string value, .string h, _ => by
      refine ⟨.string (Text.unquote (Text.quote value)), .literal rfl, ?_⟩
      rw [ofExpr, Text.unquote_quote_of_plain h]
      exact .string value
  | _, .name _, _ => ⟨.name _, .literal rfl, .name _⟩
  | .block items, .block h, hfloats => by
      by_cases hne : items = []
      · subst hne
        exact ⟨.block [], .empty .block rfl rfl, .block .nil⟩
      · obtain ⟨es, hes, halike⟩ := exists_row hne fun item hitem =>
          (h item hitem).derives fun x hx => hfloats x (mem_floatsItems hitem hx)
        exact ⟨.block es, .row .block rfl hes rfl, .block halike⟩
  | .array items, .array h, hfloats => by
      by_cases hne : items = []
      · subst hne
        exact ⟨.array [], .empty .array rfl rfl, .array .nil⟩
      · obtain ⟨es, hes, halike⟩ := exists_row hne fun item hitem =>
          (h item hitem).derives fun x hx => hfloats x (mem_floatsItems hitem hx)
        exact ⟨.array es, .row .array rfl hes rfl, .array halike⟩
  | .map entries, .map hascending hplain h, hfloats => by
      by_cases hne : entries = []
      · subst hne
        exact ⟨.map [], .emptyMap rfl rfl, .map .nil⟩
      · obtain ⟨es, hes, halike⟩ := exists_entries hne hplain fun entry hentry =>
          (h entry hentry).derives fun x hx => hfloats x (mem_floatsEntries hentry hx)
        refine ⟨.map es, .map rfl hes rfl, ?_⟩
        have hsorted : Ascending (ofExprEntries es) := by
          rwa [Ascending, keys_of_alikeEntries halike]
        rw [ofExpr, ofEntries, sortEntries_of_ascending hsorted]
        exact .map halike

/-- The words of a value with the shape of an operand derive one. -/
theorem ValueShape.derives : ∀ {v : Value}, ValueShape v → (∀ x ∈ v.floats, ReadsBack x) →
    ∃ e, Operand .closed v.words e ∧ Alike (ofExpr e) v
  | _, .closed h, hfloats => by
      obtain ⟨e, he, halike⟩ := h.derives hfloats
      exact ⟨e, .closed he, halike⟩
  | _, .later h, hfloats => by
      obtain ⟨e, he, halike⟩ := h.derives hfloats
      exact ⟨.later e, .later rfl (.closed (.paren rfl he rfl)), .later halike⟩
  | .message verb object, .message hverb h, hfloats => by
      obtain ⟨e, he, halike⟩ := h.derives hfloats
      obtain ⟨hisVerb, htext⟩ := isVerb_verbWord hverb
      refine ⟨_, .message rfl hisVerb he, ?_⟩
      rw [htext]
      exact .message verb halike
  | _, .pair hleft hright, hfloats => by
      simp only [floats, List.mem_append] at hfloats
      obtain ⟨l, hl, halikel⟩ := hleft.derives fun x hx => hfloats x (.inl hx)
      obtain ⟨r, hr, haliker⟩ := hright.derives fun x hx => hfloats x (.inr hx)
      exact ⟨.pair l r, .pair hl rfl hr, .pair halikel haliker⟩

/-- **The words of a value with the shape of a program derive one.** -/
theorem SendShape.derives : ∀ {v : Value}, SendShape v → (∀ x ∈ v.floats, ReadsBack x) →
    ∃ e, Sending .closed v.words e ∧ Alike (ofExpr e) v
  | _, .value h, hfloats => by
      obtain ⟨e, he, halike⟩ := h.derives hfloats
      exact ⟨e, .value he, halike⟩
  | .send subject verb object, .send hsubject hverb hobject, hfloats => by
      simp only [floats, List.mem_append] at hfloats
      obtain ⟨s, hs, halikes⟩ := hsubject.derives fun x hx => hfloats x (.inl hx)
      obtain ⟨o, ho, halikeo⟩ := hobject.derives fun x hx => hfloats x (.inr hx)
      obtain ⟨hisVerb, htext⟩ := isVerb_verbWord hverb
      refine ⟨_, .send hs hisVerb ho, ?_⟩
      rw [htext]
      exact .send verb halikes halikeo

end

end Missive.Value
