import Missive.Proofs.Grammar.Nesting
import Missive.Proofs.Grammar.Parsing
import Missive.Proofs.Render.Lexical
import Missive.Proofs.Render.Shape
import Missive.Proofs.Render.Weight
import Missive.Proofs.Value.KeyOrder
import Mathlib.Algebra.Order.BigOperators.Group.List
import Mathlib.Algebra.Order.Group.Nat

/-!
# Reading a rendered value

The text of a value reads back as the value exactly if the value has the shape of a program.  That
it does then is `SendShape.derives`; here is the converse.  Suppose that the words of a value derive
an expression of the value.

* No phrase in them is in parentheses of its own (`bare_words`), except behind an `@`.
* Therefore each phrase of the derivation consists of the words of one part of the value: weights
  tell where the parts of a pair or a send meet, commas and brackets where items and entries do.
* The keys of a map are the only thing that could change places.  They do not: a key never reads
  back shorter, and all together they have the same length (`length_le_of_perm`).
-/

namespace Missive

open Grammar

/-! ## Words that begin without parentheses -/

/-- Words that do not begin with a parenthesis, unless it is that of nil. -/
def Bare : List Word → Prop
  | [] => False
  | l :: rest => l.kind = .openParen → ∃ r us, rest = r :: us ∧ r.kind = .closeParen

namespace Bare

variable {ws : List Word} {l r : Word} {e : Expr}

lemma of_kind (rest : List Word) (h : l.kind ≠ .openParen) : Bare (l :: rest) :=
  fun hl => absurd hl h

lemma append (h : Bare ws) (us : List Word) : Bare (ws ++ us) := by
  cases ws with
  | nil => exact h.elim
  | cons l rest =>
      intro hl
      obtain ⟨r, rest', rfl, hr⟩ := h hl
      exact ⟨r, rest' ++ us, rfl, hr⟩

/-- Such words are no phrase in parentheses. -/
lemma not_paren (h : Bare (l :: (ws ++ [r]))) (hl : l.kind = .openParen)
    (he : Sending .closed ws e) : False := by
  obtain ⟨r', us, hus, hr'⟩ := h hl
  cases ws with
  | nil => exact ne_nil_of_sending he rfl
  | cons w ws =>
      obtain ⟨rfl, -⟩ := List.cons_eq_cons.1 hus
      have hflat := flat_of_sending he 0
      simp [nest, hr'] at hflat

end Bare

namespace Value

/-- The words of a value have no parentheses around them. -/
lemma bare_words {v : Value} (h : v.Lexical) : Bare v.words := by
  induction h with
  | nil => exact fun _ => ⟨_, _, rfl, rfl⟩
  | integer _ => exact .of_kind _ (by simp)
  | float _ => exact .of_kind _ (by simp)
  | string _ => exact .of_kind _ (by simp)
  | name _ => exact .of_kind _ (by simp)
  | later _ _ => exact .of_kind _ (by simp)
  | block _ _ => exact .of_kind _ (by simp)
  | array _ _ => exact .of_kind _ (by simp)
  | map _ _ => exact .of_kind _ (by simp)
  | pair _ _ ih _ => exact ih.append _
  | message _ _ _ => exact .of_kind _ (by simp)
  | send _ _ _ ih _ => exact ih.append _

/-! ## Brackets and commas in the words of values -/

lemma nested_wordsItems : ∀ {items : List Value}, (∀ item ∈ items, Flat item.words) →
    Nested (wordsItems items)
  | [], _ => Flat.nil.nested
  | [item], h => (h item List.mem_cons_self).nested
  | item :: next :: items, h => by
      have hitem := (h item List.mem_cons_self).nested
      have hrest := nested_wordsItems fun item hitem => h item (List.mem_cons_of_mem _ hitem)
      exact hitem.append ((Nested.comma rfl).append hrest)

lemma nested_wordsEntries : ∀ {entries : List (String × Value)},
    (∀ entry ∈ entries, Flat entry.2.words) → Nested (wordsEntries entries)
  | [], _ => Flat.nil.nested
  | [(key, value)], h => (Flat.entry rfl rfl (h (key, value) List.mem_cons_self)).nested
  | (key, value) :: next :: entries, h => by
      have hentry : Flat (⟨.string, Text.quote key⟩ :: ⟨.colon, ":"⟩ :: value.words) :=
        .entry rfl rfl (h (key, value) List.mem_cons_self)
      have hrest := nested_wordsEntries fun entry hentry => h entry (List.mem_cons_of_mem _ hentry)
      exact hentry.nested.append ((Nested.comma rfl).append hrest)

/-- The words of a value close the brackets that they open. -/
theorem flat_words {v : Value} (h : v.Lexical) : Flat v.words := by
  induction h with
  | nil => exact Flat.nil.nested.paren rfl rfl
  | integer hvalue => exact .single (.of_literal (literal?_integer hvalue))
  | float _ => exact .single (.of_literal (e := .float _) rfl)
  | string _ => exact .single (.of_literal (e := .string _) rfl)
  | name _ => exact .single (.of_literal (e := .name _) rfl)
  | later _ ih => exact .cons (.of_kind (by simp)) (ih.nested.paren rfl rfl)
  | block _ ih => exact (nested_wordsItems ih).bracket .block rfl rfl
  | array _ ih => exact (nested_wordsItems ih).bracket .array rfl rfl
  | map _ ih => exact (nested_wordsEntries ih).map rfl rfl
  | pair _ _ ihleft ihright => exact ihleft.append (.cons (.of_kind (by simp)) ihright)
  | message hverb _ ih =>
      exact .cons (.of_kind (by simp)) (.cons (.of_isVerb (isVerb_verbWord hverb).1) ih)
  | send _ hverb _ ihsubject ihobject =>
      exact ihsubject.append (.cons (.of_isVerb (isVerb_verbWord hverb).1) ihobject)

/-! ## The keys of a map -/

/-- Texts that never come back shorter, and come back as the texts they were in whatever order,
do not come back longer. -/
lemma length_le_of_perm {texts : List String} {f : String → String}
    (hf : ∀ text, text.length ≤ (f text).length) (h : texts.Perm (texts.map f)) :
    ∀ text ∈ texts, (f text).length ≤ text.length := by
  intro text htext
  have hsum := (h.map String.length).sum_nat
  rw [List.map_map] at hsum
  refine not_lt.1 fun hlt => ?_
  have hless := List.sum_lt_sum String.length (String.length ∘ f) (fun text _ => hf text)
    ⟨text, htext, hlt⟩
  exact hless.ne hsum

/-- An entry of a map and what is read from its text: its key, and an expression that is that of
the entry only if the entry has the right shape. -/
def ReadAs (entry : String × Value) (e : String × Expr) : Prop :=
  e.1 = Text.unquote (Text.quote entry.1) ∧
    (Alike (ofExpr e.2) entry.2 → ValueShape entry.2)

lemma keys_of_readAs {entries : List (String × Value)} {es : List (String × Expr)}
    (h : List.Forall₂ ReadAs entries es) :
    (ofExprEntries es).map Prod.fst
      = (entries.map Prod.fst).map fun key => Text.unquote (Text.quote key) := by
  rw [ofExprEntries_eq_map]
  induction h with
  | nil => rfl
  | cons hentry _ ih => simpa [hentry.1] using ih

lemma valueShape_of_readAs {entries : List (String × Value)} {es : List (String × Expr)}
    (h : List.Forall₂ ReadAs entries es) (halike : AlikeEntries (ofExprEntries es) entries) :
    ∀ entry ∈ entries, ValueShape entry.2 := by
  induction h with
  | nil => simp
  | cons hentry _ ih =>
      cases halike with
      | cons _ hvalue hrest =>
          exact List.forall_mem_cons.2 ⟨hentry.2 hvalue, ih hrest⟩

/-- A map whose entries are read in their order has the shape of a map: sorting leaves the entries
where they are. -/
lemma closedShape_of_readAs {entries : List (String × Value)} {es : List (String × Expr)}
    (h : List.Forall₂ ReadAs entries es)
    (halike : AlikeEntries (sortEntries (ofExprEntries es)) entries) :
    ClosedShape (map entries) := by
  have hkeys := keys_of_readAs h
  have hsorted := keys_of_alikeEntries halike
  have hascending : Ascending entries := by
    have hsort := ascending_sortEntries (ofExprEntries es)
    rwa [Ascending, hsorted] at hsort
  have hlength : (sortEntries (ofExprEntries es)).length = (ofExprEntries es).length := by
    have hleft := congrArg List.length hsorted
    have hright := congrArg List.length hkeys
    simp only [List.length_map] at hleft hright
    rw [hleft, hright]
  -- No entry is dropped, so the keys are what they are read as, up to their order.
  have hperm := (perm_sortEntries hlength).map Prod.fst
  rw [hsorted, hkeys] at hperm
  have hplain : ∀ key ∈ entries.map Prod.fst, Text.Plain key := fun key hkey =>
    Text.plain_of_length_le (length_le_of_perm Text.length_le_unquote_quote hperm key hkey)
  have hsame : (ofExprEntries es).map Prod.fst = entries.map Prod.fst := by
    rw [hkeys, List.map_congr_left fun key hkey => Text.unquote_quote_of_plain (hplain key hkey),
      List.map_id']
  rw [sortEntries_of_ascending (by rwa [Ascending, hsame])] at halike
  refine .map hascending ?_ (valueShape_of_readAs h halike)
  intro entry hentry
  exact hplain entry.1 (List.mem_map_of_mem hentry)

/-! ## Phrases -/

/-- Where the first entry of a map ends. -/
lemma cut_wordsEntries {k c : Word} {ws tail : List Word} {key : String} {value : Value}
    {entries : List (String × Value)} (hvalue : value.Lexical) (hws : Flat ws) (htail : Ends tail)
    (heq : k :: c :: ws ++ tail = wordsEntries ((key, value) :: entries)) :
    k = ⟨.string, Text.quote key⟩ ∧ ws = value.words ∧
      (entries = [] ∧ tail = [] ∨ entries ≠ [] ∧ tail = ⟨.comma, ","⟩ :: wordsEntries entries) := by
  by_cases hne : entries = []
  · subst hne
    simp only [wordsEntries, List.cons_append, List.cons.injEq] at heq
    obtain ⟨hk, -, heq⟩ := heq
    rw [← List.append_nil value.words] at heq
    obtain ⟨hwords, hnil⟩ := hws.append_inj (flat_words hvalue) htail .nil heq
    exact ⟨hk, hwords, .inl ⟨rfl, hnil⟩⟩
  · rw [wordsEntries_cons _ _ hne] at heq
    simp only [List.cons_append, List.cons.injEq] at heq
    obtain ⟨hk, -, heq⟩ := heq
    obtain ⟨hwords, hcomma⟩ := hws.append_inj (flat_words hvalue) htail (.comma rfl _) heq
    exact ⟨hk, hwords, .inr ⟨hne, hcomma⟩⟩

lemma closedShape_of_literal {w : Word} {e : Expr} {v : Value} (he : literal? w = some e)
    (hv : v.Lexical) (hws : [w] = v.words) (halike : Alike (ofExpr e) v) : ClosedShape v := by
  rcases literal?_cases he with ⟨-, -, rfl⟩ | ⟨-, rfl⟩ | ⟨-, rfl⟩ | ⟨-, rfl⟩
  · cases halike
    cases hv with
    | integer hvalue => exact .integer hvalue
  · cases halike
    exact .float _
  · generalize htext : Text.unquote w.text = text at halike
    cases halike
    obtain rfl : w = ⟨.string, Text.quote text⟩ := by simpa [words] using hws
    refine .string (Text.plain_of_length_le ?_)
    rw [htext]
  · cases halike
    cases hv with
    | name hname => exact .name hname

/-- A pair in parentheses is not a pair that begins with a parenthesis. -/
lemma pair_ne_paren {ws us : List Word} {c l r : Word} {left right : Expr} {a b : Value}
    (hleft : Closed .closed ws left) (hc : c.kind = .colon) (hright : Operand .closed us right)
    (ha : Alike (ofExpr left) a) (hb : Alike (ofExpr right) b) (hva : a.Lexical)
    (hl : l.kind = .openParen) (hr : r.kind = .closeParen) :
    ws ++ c :: us ≠ l :: ((pair a b).words ++ [r]) := by
  intro hws
  have hleft' : weight (l :: a.words) ≤ weight ws := by
    have hle := weight_of_closed hleft
    rw [weight_of_alike ha] at hle
    simpa [Word.weight, hl] using hle
  have hright' : weight (b.words ++ [r]) ≤ weight us := by
    have hle := weight_of_operand hright
    rw [weight_of_alike hb] at hle
    simpa [Word.weight, hr] using hle
  obtain ⟨rfl, -⟩ := append_inj_of_weight (weight_of_kind ":" hc) hleft' hright'
    (by simpa [words] using hws)
  -- So the words of the left side would close the parenthesis, but they are flat by themselves.
  exact (flat_words hva).not_cons hl (flat_of_closed hleft)

-- The induction is on derivations.  The words behind an `@` are those of a value in parentheses,
-- not those of a value, so `shape_of_closed_body` and `shape_of_operand_body` go along with it.
mutual

/-- A value whose words are a closed expression of it has the shape of one. -/
theorem shape_of_closed : ∀ {ws : List Word} {e : Expr}, Closed .closed ws e →
    ∀ {v : Value}, v.Lexical → ws = v.words → Alike (ofExpr e) v → ClosedShape v
  | _, _, .nil _ _, _, _, _, halike => by
      cases halike
      exact .nil
  | _, _, .paren hl he _, v, hv, hws, _ => by
      have hbare := bare_words hv
      rw [← hws] at hbare
      exact (hbare.not_paren hl he).elim
  | _, _, .literal he, _, hv, hws, halike => closedShape_of_literal he hv hws halike
  | _, _, .empty .block _ _, _, _, _, halike => by
      cases halike with
      | block halike =>
          cases halike
          exact .block (by simp)
  | _, _, .empty .array _ _, _, _, _, halike => by
      cases halike with
      | array halike =>
          cases halike
          exact .array (by simp)
  | _, _, .row .block _ hes _, _, hv, hws, halike => by
      cases halike with
      | block halike =>
          cases hv with
          | block hitems =>
              rw [words, List.cons_eq_cons] at hws
              exact .block (shape_of_row hes hitems (List.append_inj' hws.2 rfl).1 halike)
  | _, _, .row .array _ hes _, _, hv, hws, halike => by
      cases halike with
      | array halike =>
          cases hv with
          | array hitems =>
              rw [words, List.cons_eq_cons] at hws
              exact .array (shape_of_row hes hitems (List.append_inj' hws.2 rfl).1 halike)
  | _, _, .emptyMap _ _, _, _, _, halike => by
      cases halike with
      | map halike =>
          cases halike
          exact .map .nil (by simp) (by simp)
  | _, _, .map _ hes _, _, hv, hws, halike => by
      cases halike with
      | map halike =>
          cases hv with
          | map hentries =>
              rw [words, List.cons_eq_cons] at hws
              exact closedShape_of_readAs
                (readAs_of_entries hes hentries (List.append_inj' hws.2 rfl).1) halike

/-- A value whose words are an operand for it has the shape of one. -/
theorem shape_of_operand : ∀ {ws : List Word} {e : Expr}, Operand .closed ws e →
    ∀ {v : Value}, v.Lexical → ws = v.words → Alike (ofExpr e) v → ValueShape v
  | _, _, .closed he, _, hv, hws, halike => .closed (shape_of_closed he hv hws halike)
  | _, _, .pair hleft hc hright, _, hv, hws, halike => by
      cases halike with
      | pair hl hr =>
          cases hv with
          | pair hvl hvr =>
              obtain ⟨hwsl, -, hwsr⟩ := append_inj_of_weight (weight_of_kind ":" hc)
                ((weight_of_alike hl).symm.trans_le (weight_of_closed hleft))
                ((weight_of_alike hr).symm.trans_le (weight_of_operand hright)) hws
              exact .pair (shape_of_closed hleft hvl hwsl hl) (shape_of_operand hright hvr hwsr hr)
  | _, _, .later _ hbody, _, hv, hws, halike => by
      cases halike with
      | later halike =>
          cases hv with
          | later hv =>
              have hws' := (List.cons_eq_cons.1 hws).2
              exact .later (shape_of_operand_body hbody hv rfl rfl hws' halike)
  | _, _, .message _ hverb hobject, _, hv, hws, halike => by
      cases halike with
      | message _ halike =>
          cases hv with
          | message hvalid hv =>
              simp only [words, List.cons.injEq] at hws
              exact .message hvalid (shape_of_operand hobject hv hws.2.2 halike)
  | _, _, .laterPair hhead _ _ _ _, _, _, _, _ => nomatch hhead
  | _, _, .messagePair hhead _ _ _ _ _, _, _, _, _ => nomatch hhead

/-- **A value whose words are a program for it has the shape of one.** -/
theorem shape_of_sending : ∀ {ws : List Word} {e : Expr}, Sending .closed ws e →
    ∀ {v : Value}, v.Lexical → ws = v.words → Alike (ofExpr e) v → SendShape v
  | _, _, .value he, _, hv, hws, halike => .value (shape_of_operand he hv hws halike)
  | _, _, .send hsubject hverb hobject, _, hv, hws, halike => by
      cases halike with
      | send _ hs ho =>
          cases hv with
          | send hvs hvalid hvo =>
              obtain ⟨hwss, -, hwso⟩ := append_inj_of_weight (weight_of_isVerb hverb)
                ((weight_of_alike hs).symm.trans_le (weight_of_sending hsubject))
                ((weight_of_alike ho).symm.trans_le (weight_of_operand hobject)) hws
              exact .send (shape_of_sending hsubject hvs hwss hs) hvalid
                (shape_of_operand hobject hvo hwso ho)

/-- So do items whose words are a row of such programs. -/
theorem shape_of_row : ∀ {ws : List Word} {es : List Expr}, Row .closed ws es →
    ∀ {items : List Value}, (∀ item ∈ items, item.Lexical) → ws = wordsItems items →
      AlikeItems (ofItems es) items → ∀ item ∈ items, SendShape item
  | _, _, .one he, _, hitems, hws, halike => by
      cases halike with
      | cons halike hrest =>
          cases hrest
          have hshape := shape_of_sending he (hitems _ List.mem_cons_self) hws halike
          simpa using hshape
  | _, _, .cons he hc hes, _, hitems, hws, halike => by
      cases halike with
      | cons halike hrest =>
          have hne := ne_nil_of_alikeItems hrest (ofItems_ne_nil hes)
          rw [wordsItems_cons _ hne] at hws
          obtain ⟨hitem, htail⟩ := (flat_of_sending he).append_inj
            (flat_words (hitems _ List.mem_cons_self)) (.comma hc _) (.comma rfl _) hws
          have hshape := shape_of_sending he (hitems _ List.mem_cons_self) hitem halike
          have hshapes := shape_of_row hes (fun item h => hitems item (List.mem_cons_of_mem _ h))
            (List.cons_eq_cons.1 htail).2 hrest
          exact List.forall_mem_cons.2 ⟨hshape, hshapes⟩

/-- Entries are read one by one, each with its own words. -/
theorem readAs_of_entries : ∀ {ws : List Word} {es : List (String × Expr)},
    Entries .closed ws es → ∀ {entries : List (String × Value)},
      (∀ entry ∈ entries, entry.2.Lexical) → ws = wordsEntries entries →
      List.Forall₂ ReadAs entries es
  | _, _, .one _ _ _, [], _, hws => nomatch hws
  | _, _, .cons _ _ _ _ _, [], _, hws => nomatch hws
  | _, _, .one _ _ he, (key, value) :: entries, hentries, hws => by
      have hvalue : value.Lexical := hentries _ List.mem_cons_self
      rw [← List.append_nil (_ :: _ :: _)] at hws
      obtain ⟨rfl, hwords, ⟨rfl, -⟩ | ⟨-, htail⟩⟩ :=
        cut_wordsEntries hvalue (flat_of_operand he) .nil hws
      · exact .cons ⟨rfl, shape_of_operand he hvalue hwords⟩ .nil
      · cases htail
  | _, _, .cons _ _ he hs hes, (key, value) :: entries, hentries, hws => by
      have hvalue : value.Lexical := hentries _ List.mem_cons_self
      obtain ⟨rfl, hwords, ⟨-, htail⟩ | ⟨-, htail⟩⟩ :=
        cut_wordsEntries hvalue (flat_of_operand he) (.comma hs _) hws
      · cases htail
      · refine .cons ⟨rfl, shape_of_operand he hvalue hwords⟩ ?_
        exact readAs_of_entries hes (fun entry h => hentries entry (List.mem_cons_of_mem _ h))
          (List.cons_eq_cons.1 htail).2

/-- A value has the shape of a program if its words in parentheses are a closed expression. -/
theorem shape_of_closed_body : ∀ {ws : List Word} {e : Expr}, Closed .closed ws e →
    ∀ {v : Value} {l r : Word}, v.Lexical → l.kind = .openParen → r.kind = .closeParen →
      ws = l :: (v.words ++ [r]) → Alike (ofExpr e) v → SendShape v
  | _, _, .nil _ _, _, _, _, _, _, _, _, halike => by
      cases halike
      exact .value (.closed .nil)
  | _, _, .paren _ he _, _, _, _, hv, _, _, hws, halike =>
      shape_of_sending he hv (List.append_inj' (List.cons_eq_cons.1 hws).2 rfl).1 halike
  | _, _, .literal _, _, _, _, _, _, _, hws, _ => by simp at hws
  | _, _, .empty bracket hl' _, _, _, _, _, hl, _, hws, _ => by
      obtain ⟨rfl, -⟩ := List.cons_eq_cons.1 hws
      exact absurd (hl'.symm.trans hl) bracket.opening_ne_openParen
  | _, _, .row bracket hl' _ _, _, _, _, _, hl, _, hws, _ => by
      obtain ⟨rfl, -⟩ := List.cons_eq_cons.1 hws
      exact absurd (hl'.symm.trans hl) bracket.opening_ne_openParen
  | _, _, .emptyMap hl' _, _, _, _, _, hl, _, hws, _ => by
      obtain ⟨rfl, -⟩ := List.cons_eq_cons.1 hws
      cases hl'.symm.trans hl
  | _, _, .map hl' _ _, _, _, _, _, hl, _, hws, _ => by
      obtain ⟨rfl, -⟩ := List.cons_eq_cons.1 hws
      cases hl'.symm.trans hl

/-- The same for operands: a pair or an `@` is not enclosed by one pair of parentheses. -/
theorem shape_of_operand_body : ∀ {ws : List Word} {e : Expr}, Operand .closed ws e →
    ∀ {v : Value} {l r : Word}, v.Lexical → l.kind = .openParen → r.kind = .closeParen →
      ws = l :: (v.words ++ [r]) → Alike (ofExpr e) v → SendShape v
  | _, _, .closed he, _, _, _, hv, hl, hr, hws, halike =>
      shape_of_closed_body he hv hl hr hws halike
  | _, _, .pair hleft hc hright, _, _, _, hv, hl, hr, hws, halike => by
      cases halike with
      | pair ha hb =>
          cases hv with
          | pair hva _ => exact absurd hws (pair_ne_paren hleft hc hright ha hb hva hl hr)
  | _, _, .later ha _, _, _, _, _, hl, _, hws, _ => by
      obtain ⟨rfl, -⟩ := List.cons_eq_cons.1 hws
      cases ha.symm.trans hl
  | _, _, .message hb _ _, _, _, _, _, hl, _, hws, _ => by
      obtain ⟨rfl, -⟩ := List.cons_eq_cons.1 hws
      cases hb.symm.trans hl
  | _, _, .laterPair hhead _ _ _ _, _, _, _, _, _, _, _, _ => nomatch hhead
  | _, _, .messagePair hhead _ _ _ _ _, _, _, _, _, _, _, _, _ => nomatch hhead

end

/-- **The text of a value reads back as the value exactly if the value has the shape of a
program.** -/
theorem parse_render_iff (v : Value) (hfloats : ∀ x ∈ v.floats, ReadsBack x) :
    (∃ e, parse v.render = .ok e ∧ (ofExpr e == v) = true) ↔ v.SendShape := by
  constructor
  · rintro ⟨e, he, hbeq⟩
    obtain ⟨ws, hscans, hsending⟩ := parse_eq_ok.1 he
    have halike := beq_iff_alike.1 hbeq
    have hlexical : v.Lexical :=
      lexical_of_alike halike (lexical_of_sending (goodWords_of_scans hscans) hsending)
    have hwords : ws = v.words := Tokens.scans_unique hscans (scans_render hlexical hfloats)
    exact shape_of_sending hsending hlexical hwords halike
  · intro hshape
    obtain ⟨e, hsending, halike⟩ := hshape.derives hfloats
    have hparse := parse_eq_ok.2 ⟨_, scans_render hshape.lexical hfloats, hsending⟩
    exact ⟨e, hparse, beq_iff_alike.2 halike⟩

/-- `2 + 1.5:@(b)` reads back.  A pair of a pair and nil does not: its text `():():()` is that of a
pair of nil and a pair. -/
theorem parse_render_pair :
    (∃ e, parse (send (integer 2) "+" (pair (float 1.5) (later (name "b")))).render = .ok e ∧
      (ofExpr e == send (integer 2) "+" (pair (float 1.5) (later (name "b")))) = true) ∧
    ¬ ∃ e, parse (pair (pair nil nil) nil).render = .ok e ∧
      (ofExpr e == pair (pair nil nil) nil) = true := by
  have htext : floatText 1.5 = "1.5" := by decide +kernel
  have hfloat : ReadsBack 1.5 := by
    refine ⟨⟨['1'], ['5'], by simp, by simp, ?_, ?_, ?_⟩, ?_⟩
    · simp [Text.isDigit]
    · simp [Text.isDigit]
    · rw [htext]
      rfl
    · decide +kernel
  rw [parse_render_iff _ (by simpa [floats] using hfloat), parse_render_iff _ (by simp [floats])]
  constructor
  · have hname : ValidName "b" := ⟨'b', [], rfl, rfl, by simp⟩
    have hverb : ValidVerb "+" := ⟨.verb, .inl rfl, rfl⟩
    have hsubject : SendShape (integer 2) := .value (.closed (.integer (by decide)))
    exact .send hsubject hverb (.pair (.float 1.5) (.later (.value (.closed (.name hname)))))
  · intro hshape
    cases hshape with
    | value hshape =>
        cases hshape with
        | closed hshape => cases hshape
        | pair hleft _ => cases hleft

end Value

end Missive
