import Missive.Proofs.Eval.Refinement
import Missive.Proofs.Eval.Written
import Mathlib

/-!
# Where the code in an answer comes from

Names, deferred values, blocks and sends are code that has not run.  A program hands out the code
that it was written with, and makes none: all code in its answer was written inside of a deferred
value, where evaluation took it out unchanged.  Arrays, maps, pairs and messages are rebuilt around
it, but with the verbs and keys of the program.

* `Traced`: what is said of one node of a value.
* `Closure.traced`: evaluation takes the nodes of a program to what its deferred values quote.
* `run_traced`: whole programs.
-/

namespace Missive

namespace Value

/-- Code that has not run. -/
def IsCode : Value → Prop
  | name _ | later _ | block _ | send _ _ _ => True
  | _ => False

/-- A message or a send in the value has the verb. -/
def HasVerb (value : Value) (verb : String) : Prop :=
  (∃ object, Occurs (message verb object) value) ∨
    ∃ subject object, Occurs (send subject verb object) value

/-- A map in the value has the key. -/
def HasKey (value : Value) (key : String) : Prop :=
  ∃ entries, Occurs (map entries) value ∧ key ∈ entries.map Prod.fst

/-- The code lies inside of a deferred value that occurs in the program. -/
def Quotes (program code : Value) : Prop :=
  ∃ body, Occurs (later body) program ∧ Occurs code body

lemma Quotes.occurs {program code : Value} (h : program.Quotes code) : Occurs code program := by
  obtain ⟨body, hbody, hcode⟩ := h
  have hpart : Occurs code (later body) := .inside (by simp) hcode
  exact hpart.trans hbody

/-! ## Nodes -/

/-- A node is no handler; if it is code it is allowed, and if it has a verb or keys they are those
of the program. -/
inductive Traced (program : Value) (allowed : Value → Prop) : Value → Prop
  | datum {value : Value} : value.Datum → Traced program allowed value
  | code {value : Value} : value.IsCode → allowed value → Traced program allowed value
  | array (items : List Value) : Traced program allowed (array items)
  | map {entries : List (String × Value)} :
      (∀ key ∈ entries.map Prod.fst, program.HasKey key) → Traced program allowed (map entries)
  | pair (left right : Value) : Traced program allowed (pair left right)
  | message {verb : String} (object : Value) :
      program.HasVerb verb → Traced program allowed (message verb object)

namespace Traced

variable {program value : Value} {allowed allowed' : Value → Prop}

lemma allowed_of_isCode (h : Traced program allowed value) (hcode : value.IsCode) :
    allowed value := by
  cases h with
  | datum hdatum => cases hdatum <;> exact hcode.elim
  | code _ hallowed => exact hallowed
  | _ => exact hcode.elim

lemma hasVerb {verb : String} {object : Value}
    (h : Traced program allowed (.message verb object)) : program.HasVerb verb := by
  cases h with
  | datum hdatum => cases hdatum
  | code hcode _ => exact hcode.elim
  | message _ hverb => exact hverb

lemma hasKey {entries : List (String × Value)} (h : Traced program allowed (.map entries)) :
    ∀ key ∈ entries.map Prod.fst, program.HasKey key := by
  cases h with
  | datum hdatum => cases hdatum
  | code hcode _ => exact hcode.elim
  | map hkeys => exact hkeys

lemma not_handler {made : Handler} (h : Traced program allowed (.handler made)) : False := by
  cases h with
  | datum hdatum => cases hdatum
  | code hcode _ => exact hcode

lemma mono (h : Traced program allowed value) (himp : allowed value → allowed' value) :
    Traced program allowed' value := by
  cases h with
  | datum hdatum => exact .datum hdatum
  | code hcode hallowed => exact .code hcode (himp hallowed)
  | array items => exact .array items
  | map hkeys => exact .map hkeys
  | pair left right => exact .pair left right
  | message object hverb => exact .message object hverb

end Traced

/-- A program without handlers consists of its own nodes. -/
lemma everywhere_traced_self {program : Value} (h : program.Unhandled) :
    program.Everywhere (Traced program (Occurs · program)) := by
  intro node hnode
  have hunhandled : node.Unhandled := h.of_occurs hnode
  cases node with
  | nil => exact .datum .nil
  | integer value => exact .datum (.integer value)
  | float value => exact .datum (.float value)
  | string value => exact .datum (.string value)
  | name _ | later _ | block _ | send _ _ _ => exact .code trivial hnode
  | array items => exact .array items
  | map entries => exact .map fun key hkey => ⟨entries, hnode, hkey⟩
  | pair left right => exact .pair left right
  | message verb object => exact .message object (.inl ⟨object, hnode⟩)
  | handler _ => cases hunhandled

end Value

open Value (Everywhere Occurs Traced)

/-! ## Evaluation -/

/-- The nodes of a program are evaluated to values whose code the program quotes. -/
def Closure.traced (program : Value) : Closure where
  Source := Everywhere (Traced program (Occurs · program))
  Answer := Everywhere (Traced program program.Quotes)
  source h node hnode := (h node hnode).mono Value.Quotes.occurs
  part h hpart := (Value.everywhere_iff.1 h).2 _ (Value.mem_parts_of_mem_exposedParts hpart)
  body {body} h node hnode := by
    have hlater : Occurs (.later body) program := (h _ .self).allowed_of_isCode trivial
    exact (h node (.inside (by simp) hnode)).mono fun _ => ⟨body, hlater, hnode⟩
  datum h := h.everywhere (.datum h)
  array {items} h := Value.everywhere_iff.2 ⟨.array items, h⟩
  map {entries results} h hkeys hresults := by
    refine Value.everywhere_iff.2 ⟨.map ?_, ?_⟩
    · rw [hkeys]
      exact (h _ .self).hasKey
    · intro part hpart
      obtain ⟨result, hresult, rfl⟩ := List.mem_map.1 hpart
      exact hresults result hresult
  pair {left right} hleft hright :=
    Value.everywhere_iff.2 ⟨.pair left right, by simpa using ⟨hleft, hright⟩⟩
  message {verb object result} h hresult :=
    Value.everywhere_iff.2 ⟨.message result (h _ .self).hasVerb, by simpa using hresult⟩
  entry h hvalue := (Value.everywhere_iff.1 h).2 _ hvalue

/-- **No code is made.**  In what a program answers with there are no handlers, all code is code
that lies inside of a deferred value of the program, and all verbs and keys are verbs and keys of
the program. -/
theorem run_traced {source : String} {e : Expr} {fuel : Nat} {result : Value}
    (h : parse source = .ok e) (hrun : run fuel source = .ok result) :
    (∀ made, ¬ Occurs (.handler made) result) ∧
    (∀ code : Value, code.IsCode → Occurs code result → (Value.ofExpr e).Quotes code) ∧
    (∀ verb, result.HasVerb verb → (Value.ofExpr e).HasVerb verb) ∧
    (∀ key, result.HasKey key → (Value.ofExpr e).HasKey key) := by
  have hprogram : (Value.ofExpr e).Unhandled := Value.written_ofExpr fun _ _ => trivial
  have hmeaning : interpret none (Value.ofExpr e) = some (.ok result) := interpret_of_run h hrun
  have hresult : result.Everywhere (Traced (Value.ofExpr e) (Value.ofExpr e).Quotes) :=
    (Closure.traced (Value.ofExpr e)).interpret hmeaning (Closure.scoped_none _)
      (Value.everywhere_traced_self hprogram) result rfl
  have hcode : ∀ code : Value, code.IsCode → Occurs code result → (Value.ofExpr e).Quotes code :=
    fun code hcode hoccurs => (hresult code hoccurs).allowed_of_isCode hcode
  refine ⟨fun made hmade => (hresult _ hmade).not_handler, hcode, ?_, ?_⟩
  · rintro verb (⟨object, hmessage⟩ | ⟨subject, object, hsend⟩)
    · exact (hresult _ hmessage).hasVerb
    · exact .inr ⟨subject, object, (hcode (.send subject verb object) trivial hsend).occurs⟩
  · rintro key ⟨entries, hmap, hkey⟩
    exact (hresult _ hmap).hasKey key hkey

/-- A program whose answer holds code that was deferred twice, a message and a map. -/
def quotingSource : String :=
  "[() or @(@(a + b)), #\x7b\"k\": \\ f 1\x7d]"

/-- The answer of the program holds the send `a + b`, which the program quotes, and a map with a key
that is one of the program. -/
theorem run_traced_quotingSource : ∃ e result,
    parse quotingSource = .ok e ∧ run 5 quotingSource = .ok result ∧
      Occurs (.send (.name "a") "+" (.name "b")) result ∧
      (Value.ofExpr e).Quotes (.send (.name "a") "+" (.name "b")) ∧
      result.HasKey "k" ∧ (Value.ofExpr e).HasKey "k" := by
  have hparse : parse quotingSource = .ok (.array
      [.send .nil "or" (.later (.later (.send (.name "a") "+" (.name "b")))),
        .map [("k", .message "f" (.int 1))]]) := by
    cbv
  have hrun : run 5 quotingSource = .ok (.array
      [.send (.name "a") "+" (.name "b"), .map [("k", .message "f" (.integer 1))]]) := by
    cbv
  obtain ⟨-, hcode, -, hkeys⟩ := run_traced hparse hrun
  refine ⟨_, _, hparse, hrun, ?_⟩
  generalize hresult : Value.array
      [.send (.name "a") "+" (.name "b"), .map [("k", .message "f" (.integer 1))]] = result at *
  have hsend : Occurs (.send (.name "a") "+" (.name "b")) result := by
    subst hresult
    exact .inside (by simp) .self
  have hkey : result.HasKey "k" := by
    subst hresult
    exact ⟨[("k", .message "f" (.integer 1))], .inside (by simp) .self, by simp⟩
  exact ⟨hsend, hcode _ trivial hsend, hkey, hkeys _ hkey⟩

end Missive
