import Missive.Proofs.Eval.Fuel
import Missive.Proofs.Eval.Refinement
import Mathlib

/-!
# Everything exposed is demanded

A value that is evaluated has all of it evaluated that is outside of every deferred body, and that
in the frame in which the value is evaluated itself.  So if an evaluation comes to a value, then
what is exposed comes to a value as well, and every exposed name is bound: no operand is skipped,
and none is evaluated only where `it` and `that` are bound.

* `EvalM.Succeeds`: a computation leaves the store as it is and has an answer.
* `succeeds_part`: one step, from a value to its parts.
* `succeeds_exposed`: all steps, to everything that is exposed.
* `exposed_demanded`: what a value comes to in a frame, and what programs do not come to.
-/

namespace Missive

open Value (Exposed)

namespace EvalM

variable {α β : Type} {store : Store}

/-- The computation leaves the store as it is and has an answer. -/
def Succeeds (store : Store) (x : EvalM α) : Prop :=
  ∃ a, Yields store x (.ok a)

/-- The computation leaves the store as it is: it goes on in lockstep with itself. -/
abbrev Keeps (store : Store) (x : EvalM α) : Prop :=
  Together store store x x

namespace Succeeds

/-- A computation that has an answer got one from what it did first. -/
lemma of_bind {x : EvalM α} {f : α → EvalM β} (hx : Keeps store x)
    (h : Succeeds store (x >>= f)) : ∃ a, Yields store x (.ok a) ∧ Succeeds store (f a) := by
  obtain ⟨b, hb⟩ := h
  obtain ⟨result, hresult, -⟩ := hx
  cases result with
  | error halt => cases hb.symm.trans (hresult.bind_error f)
  | ok a => exact ⟨a, hresult, b, (hresult.bind_ok f).symm.trans hb⟩

lemma of_map {x : EvalM α} {f : α → β} (hx : Keeps store x) (h : Succeeds store (f <$> x)) :
    Succeeds store x := by
  rw [map_eq_pure_bind] at h
  obtain ⟨a, ha, -⟩ := of_bind hx h
  exact ⟨a, ha⟩

lemma of_foldlM {f : α → EvalM β} (hf : ∀ a, Keeps store (f a)) {items : List α} {b : β}
    (h : Succeeds store (items.foldlM (fun _ a => f a) b)) : ∀ a ∈ items, Succeeds store (f a) := by
  induction items generalizing b with
  | nil => simp
  | cons item items ih =>
      rw [List.foldlM_cons] at h
      obtain ⟨b, hb, hitems⟩ := of_bind (hf item) h
      exact List.forall_mem_cons.2 ⟨⟨b, hb⟩, ih hitems⟩

lemma of_mapM {f : α → EvalM β} (hf : ∀ a, Keeps store (f a)) {items : List α}
    (h : Succeeds store (items.mapM f)) : ∀ a ∈ items, Succeeds store (f a) := by
  induction items with
  | nil => simp
  | cons item items ih =>
      rw [List.mapM_cons] at h
      obtain ⟨b, hb, hitems⟩ := of_bind (hf item) h
      have hkeeps : Keeps store (items.mapM f) := Coupling.mapM (c := .lockstep) fun a _ => hf a
      obtain ⟨bs, hbs, -⟩ := of_bind hkeeps hitems
      exact List.forall_mem_cons.2 ⟨⟨b, hb⟩, ih ⟨bs, hbs⟩⟩

end Succeeds

end EvalM

open EvalM (Keeps Succeeds)

variable {store : Store} {id : FrameId} {value part : Value} {fuel : Nat}

/-! ## Steps -/

/-- Without fuel nothing comes to a value. -/
lemma exists_fuel_of_succeeds (h : Succeeds store (evaluate fuel id value)) :
    ∃ less, fuel = less + 1 := by
  obtain ⟨result, hresult⟩ := h
  cases fuel with
  | zero => cases hresult
  | succ less => exact ⟨less, rfl⟩

lemma keeps_evaluate (fuel : Nat) (store : Store) (id : FrameId) (value : Value) :
    Keeps store ((send fuel).evaluate id value) :=
  together_send fuel evalVerb (Store.Agree.refl store id _)

section Steps

variable (hequipped : ∀ tag, tag ≠ .handler → store.Equipped id tag)

include hequipped

/-- A value that comes to a value has a reply that does. -/
lemma succeeds_reply {reply : Reply} (hreply : value.tag.evalReply? = some reply)
    (h : Succeeds store (evaluate (fuel + 1) id value)) :
    Succeeds store (reply.run (send fuel) id value .nil) := by
  obtain ⟨result, hresult⟩ := h
  have hkind : value.tag ≠ .handler := by
    intro hkind
    rw [hkind] at hreply
    cases hreply
  exact ⟨result, (evaluate_equipped (hequipped _ hkind) hreply fuel).symm.trans hresult⟩

/-- A name that comes to a value is bound. -/
lemma isSome_find_of_succeeds {name : String} (h : Succeeds store (evaluate fuel id (.name name))) :
    (store.find id name).isSome := by
  obtain ⟨fuel, rfl⟩ := exists_fuel_of_succeeds h
  obtain ⟨result, hresult⟩ := succeeds_reply hequipped rfl h
  have hlookUp : EvalM.Yields store (Reply.lookUp.run (send fuel) id (.name name) .nil) _ :=
    EvalM.yields_lookUp (send fuel) id name .nil
  cases hfind : store.find id name with
  | none =>
      rw [hfind] at hlookUp
      cases hresult.symm.trans hlookUp
  | some bound => rfl

/-- The operand of a message that comes to a value. -/
lemma succeeds_operand {verb : String} {operand : Value}
    (h : Succeeds store (evaluate fuel id (.message verb operand))) :
    ∃ fuel', Succeeds store (evaluate fuel' id operand) := by
  obtain ⟨fuel, rfl⟩ := exists_fuel_of_succeeds h
  exact ⟨fuel, .of_map (keeps_evaluate fuel store id operand) (succeeds_reply hequipped rfl h)⟩

/-- **One step.**  What a value does to evaluate itself evaluates all of its parts, but for the body
of a deferred value. -/
lemma succeeds_part (hpart : part ∈ value.exposedParts)
    (h : Succeeds store (evaluate fuel id value)) :
    ∃ fuel', Succeeds store (evaluate fuel' id part) := by
  obtain ⟨fuel, rfl⟩ := exists_fuel_of_succeeds h
  have hkeeps := keeps_evaluate fuel store id
  cases value with
  | nil | integer _ | float _ | string _ | name _ | later _ | handler _ => cases hpart
  | block items =>
      have hitems : Succeeds store (Reply.runItems.run (send fuel) id (.block items) .nil) :=
        succeeds_reply hequipped rfl h
      exact ⟨fuel, Succeeds.of_foldlM hkeeps hitems part hpart⟩
  | array items =>
      have hitems : Keeps store (items.mapM ((send fuel).evaluate id)) :=
        Coupling.mapM (c := .lockstep) fun item _ => hkeeps item
      exact ⟨fuel, .of_mapM hkeeps (.of_map hitems (succeeds_reply hequipped rfl h)) part hpart⟩
  | map entries =>
      have hentry : ∀ entry : String × Value,
          Keeps store ((entry.1, ·) <$> (send fuel).evaluate id entry.2) :=
        fun entry => Coupling.map (c := .lockstep) _ (hkeeps entry.2)
      have hentries : Keeps store (entries.mapM fun entry =>
          (entry.1, ·) <$> (send fuel).evaluate id entry.2) :=
        Coupling.mapM (c := .lockstep) fun entry _ => hentry entry
      obtain ⟨entry, hmem, rfl⟩ := List.mem_map.1 hpart
      have hresult := Succeeds.of_map hentries (succeeds_reply hequipped rfl h)
      exact ⟨fuel, .of_map (hkeeps entry.2) (.of_mapM hentry hresult entry hmem)⟩
  | pair left right =>
      have hsides := succeeds_reply hequipped rfl h
      obtain ⟨left', hleft, hsides⟩ := Succeeds.of_bind (hkeeps left) hsides
      obtain ⟨right', hright, -⟩ := Succeeds.of_bind (hkeeps right) hsides
      obtain rfl | rfl : part = left ∨ part = right := by simpa using hpart
      · exact ⟨fuel, left', hleft⟩
      · exact ⟨fuel, right', hright⟩
  | message verb object =>
      obtain rfl : part = object := by simpa using hpart
      exact succeeds_operand hequipped h
  | send subject verb object =>
      have hparts := succeeds_reply hequipped rfl h
      obtain ⟨subject', hsubject, hparts⟩ := Succeeds.of_bind (hkeeps subject) hparts
      obtain ⟨message, hmessage, -⟩ := Succeeds.of_bind (hkeeps (.message verb object)) hparts
      obtain rfl | rfl : part = subject ∨ part = object := by simpa using hpart
      · exact ⟨fuel, subject', hsubject⟩
      -- the operand is evaluated by way of the message, one step further down
      · exact succeeds_operand hequipped ⟨message, hmessage⟩

/-- **All steps.**  What is exposed in a value that comes to a value comes to a value. -/
lemma succeeds_exposed (hpart : Exposed part value) (h : Succeeds store (evaluate fuel id value)) :
    ∃ fuel', Succeeds store (evaluate fuel' id part) := by
  induction hpart generalizing fuel with
  | self => exact ⟨fuel, h⟩
  | inside hpiece _ ih =>
      obtain ⟨fuel', hpiece⟩ := succeeds_part hequipped hpiece h
      exact ih hpiece

/-- What is exposed is bound, if it is a name. -/
lemma isSome_find_of_exposed {name : String} (hname : Exposed (.name name) value)
    (h : Succeeds store (evaluate fuel id value)) : (store.find id name).isSome := by
  obtain ⟨fuel', hfound⟩ := succeeds_exposed hequipped hname h
  exact isSome_find_of_succeeds hequipped hfound

end Steps

/-! ## Outcomes -/

/-- What comes to a value does so with some amount of fuel. -/
lemma succeeds_of_outcomes {result : Value} (h : store.outcomes id value fuel = .ok result) :
    Succeeds store (evaluate fuel id value) := by
  obtain ⟨result', hyields⟩ := exists_yields_send fuel store id value evalVerb .nil
  obtain rfl : result' = .ok result := (congrArg Prod.fst hyields).symm.trans h
  exact ⟨result, hyields⟩

/-- **Everything exposed is demanded.**  In a frame in which all types but that of handlers have
their built-in replies, a value comes to a value only if every name that is exposed in it is bound
in the frame, and everything that is exposed in it comes to a value there as well.  In particular no
program in which a name is exposed comes to a value, wherever the name stands. -/
theorem exposed_demanded :
    (∀ {store : Store} {id : FrameId} {value result : Value},
      (∀ tag, tag ≠ .handler → store.Equipped id tag) →
      Settles (store.outcomes id value) (some (.ok result)) →
      (∀ name, Exposed (.name name) value → (store.find id name).isSome) ∧
      ∀ part, Exposed part value →
        ∃ result', Settles (store.outcomes id part) (some (.ok result'))) ∧
    ∀ {source : String} {program : Value} {name : String},
      Value.ofSource source = .ok program → Exposed (.name name) program →
      ∀ fuel result, run fuel source ≠ .ok result := by
  constructor
  · rintro store id value result hequipped ⟨enough, hsettles⟩
    have hvalue := succeeds_of_outcomes (hsettles enough (Nat.le_refl _))
    refine ⟨fun name hname => isSome_find_of_exposed hequipped hname hvalue, fun part hpart => ?_⟩
    obtain ⟨fuel, result', hyields⟩ := succeeds_exposed hequipped hpart hvalue
    exact ⟨result', Store.settles_of_yields hyields⟩
  · intro source program name hsource hname fuel result hrun
    have hroot := Store.sees_addRoot
    have hprogram : evaluateAtRoot fuel program = .ok result := by
      simp only [run, hsource] at hrun
      cases houtcome : evaluateAtRoot fuel program with
      | error halt =>
          rw [houtcome] at hrun
          cases hrun
      | ok value =>
          rw [houtcome] at hrun
          cases hrun
          rfl
    rw [evaluateAtRoot_eq] at hprogram
    have hfound := isSome_find_of_exposed (fun tag _ => hroot.replies tag) hname
      (succeeds_of_outcomes hprogram)
    rw [hroot.names] at hfound
    cases hfound

/-- In the root frame the item of an array comes to a value because the array does; and the program
`1 or a` does not come to a value, although it has no use for what `a` would come to. -/
theorem exposed_demanded_untaken :
    (∃ result, Settles ((Store.addRoot.run {}).2.outcomes (Store.addRoot.run {}).1 (.integer 2))
      (some (.ok result))) ∧
    ∀ fuel result, run fuel "1 or a" ≠ .ok result := by
  have hitems : interpret none (.array [.integer 2]) = some (.ok (.array [.integer 2])) := by
    rw [interpret_eq, Direct.evaluation, List.mapM_cons, interpret_eq]
    rfl
  have harray : Settles
      ((Store.addRoot.run {}).2.outcomes (Store.addRoot.run {}).1 (.array [.integer 2]))
      (some (.ok (.array [.integer 2]))) := by
    rw [← hitems]
    exact settles_send Store.sees_addRoot (.array [.integer 2])
  have hsource : Value.ofSource "1 or a" = .ok (.send (.integer 1) "or" (.name "a")) := by cbv
  have hitem : Exposed (.integer 2) (.array [.integer 2]) := .inside List.mem_cons_self .self
  have hname : Value.name "a" ∈ (Value.send (.integer 1) "or" (.name "a")).exposedParts := by simp
  obtain ⟨-, hparts⟩ :=
    exposed_demanded.1 (fun tag _ => Store.sees_addRoot.replies tag) harray
  exact ⟨hparts _ hitem, exposed_demanded.2 hsource (.inside hname .self)⟩

end Missive
