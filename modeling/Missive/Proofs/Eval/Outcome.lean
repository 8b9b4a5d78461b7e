import Missive.Eval.Send
import Missive.Proofs.Eval.Interpreter
import Missive.Proofs.Frame.Lookup

/-!
# What a computation with fuel comes to

A computation with fuel stands for one without: its outcome is what it answers with enough fuel, and
it has none if no amount of fuel is enough.  `Settles` relates the two, and `SameOutcome` compares
two computations that may need different amounts of fuel.

A `Simulation` relates computations on a store, given more and more fuel, to the answers of
programs without fuel, and is closed under the ways in which computations are put together.  There
are two of them.

* `Simulation.refinement`: the computation leaves the store as it is, and gives the answer unless
  it runs out of fuel.
* `Simulation.adequacy`: the computation leaves the store as it is and gives the answer with enough
  fuel, if there is an answer.
-/

namespace Missive

/-- The computations with more and more fuel come to an answer, or to none. -/
def Settles {ε α : Type} (run : Nat → Except (Halt ε) α) : Option (Except ε α) → Prop
  | some answer => ∃ enough, ∀ fuel, enough ≤ fuel → run fuel = answer.mapError .failed
  | none => ∀ fuel, run fuel = .error .outOfFuel

/-- Two computations with fuel come to the same. -/
def SameOutcome {ε α : Type} (run run' : Nat → Except (Halt ε) α) : Prop :=
  ∀ outcome, Settles run outcome ↔ Settles run' outcome

/-- A computation comes to one outcome only. -/
lemma Settles.unique {ε α : Type} {run : Nat → Except (Halt ε) α}
    {outcome outcome' : Option (Except ε α)} (h : Settles run outcome)
    (h' : Settles run outcome') : outcome = outcome' := by
  cases outcome with
  | none =>
      cases outcome' with
      | none => rfl
      | some answer' =>
          obtain ⟨enough, h'⟩ := h'
          have hrun := (h enough).symm.trans (h' enough (Nat.le_refl _))
          cases answer' <;> simp [Except.mapError] at hrun
  | some answer =>
      obtain ⟨enough, h⟩ := h
      cases outcome' with
      | none =>
          have hrun := (h enough (Nat.le_refl _)).symm.trans (h' enough)
          cases answer <;> simp [Except.mapError] at hrun
      | some answer' =>
          obtain ⟨enough', h'⟩ := h'
          have hrun := (h _ (Nat.le_max_left enough enough')).symm.trans
            (h' _ (Nat.le_max_right enough enough'))
          cases answer <;> cases answer' <;> simp_all [Except.mapError]

/-- Computations that come to one outcome come to the same. -/
lemma SameOutcome.of_settles {ε α : Type} {run run' : Nat → Except (Halt ε) α}
    {outcome : Option (Except ε α)} (h : Settles run outcome) (h' : Settles run' outcome) :
    SameOutcome run run' := by
  intro other
  constructor
  · intro hother
    rwa [← h.unique hother]
  · intro hother
    rwa [← h'.unique hother]

/-- What comes of evaluating a value in a frame with more and more fuel. -/
def Store.outcomes (store : Store) (id : FrameId) (value : Value) :
    Nat → Except (Halt EvalError) Value :=
  fun fuel => ((evaluate fuel id value).run.run store).1

namespace EvalM

variable {α β : Type} {store : Store}

/-- The computation leaves the store as it is and ends with the given result. -/
def Yields (store : Store) (x : EvalM α) (result : Except (Halt EvalError) α) : Prop :=
  x.run.run store = (result, store)

lemma yields_ofExcept (answer : Except EvalError α) :
    Yields store (ofExcept answer) (answer.mapError .failed) := by
  cases answer <;> rfl

lemma Yields.bind_ok {x : EvalM α} {a : α} (hx : Yields store x (.ok a)) (f : α → EvalM β) :
    (x >>= f).run.run store = (f a).run.run store := by
  rw [Yields] at hx
  rw [ExceptT.run_bind, StateT.run_bind, hx]
  rfl

lemma Yields.bind_error {x : EvalM α} {halt : Halt EvalError} (hx : Yields store x (.error halt))
    (f : α → EvalM β) : Yields store (x >>= f) (.error halt) := by
  rw [Yields] at hx ⊢
  rw [ExceptT.run_bind, StateT.run_bind, hx]
  rfl

lemma Yields.map {x : EvalM α} {a : α} (hx : Yields store x (.ok a)) (f : α → β) :
    Yields store (f <$> x) (.ok (f a)) := by
  rw [map_eq_pure_bind]
  exact hx.bind_ok fun a => pure (f a)

/-- A computation in a frame of its own that leaves the store as it finds it. -/
lemma Yields.within {frame : Frame} {body : FrameId → EvalM α}
    {result : Except (Halt EvalError) α}
    (h : Yields (store.push frame) (body store.frames.size) result) :
    Yields store (EvalM.within frame body) result := by
  change StateT.run (do
    let answer ← (body store.frames.size).run
    Store.release
    return answer) (store.push frame) = _
  rw [StateT.run_bind, h]
  change (result, { store.push frame with frames := (store.push frame).frames.pop }) = _
  simp [Store.push]

/-- A name is looked up in the frame. -/
lemma yields_lookUp (sender : Sender) (id : FrameId) (name : String) (object : Value) :
    Yields store (Reply.lookUp.run sender id (.name name) object)
      (match store.find id name with
      | some value => .ok value
      | none => .error (.failed (.nameNotFound name))) := by
  change (match store.find id name with
    | some value => pure value
    | none => EvalM.fail (.nameNotFound name) : EvalM Value).run.run store = _
  cases store.find id name <;> rfl

/-- The result is the answer, unless it is that there was not enough fuel. -/
def Approximates : Except (Halt EvalError) α → Option (Except EvalError α) → Prop
  | .ok a, answer => answer = some (.ok a)
  | .error (.failed error), answer => answer = some (.error error)
  | .error .outOfFuel, _ => True

end EvalM

/-! ## Simulations -/

/-- A relation between computations with more and more fuel and answers that need none. -/
structure Simulation where
  Relates {α : Type} (store : Store) (x : Nat → EvalM α) (answer : Option (Except EvalError α)) :
    Prop
  ofExcept {α : Type} (store : Store) (answer : Except EvalError α) :
    Relates store (fun _ => EvalM.ofExcept answer) (some answer)
  bind {α β : Type} {store : Store} {x : Nat → EvalM α} {answer : Option (Except EvalError α)}
    {f : Nat → α → EvalM β} {g : α → Option (Except EvalError β)} :
    Relates store x answer → (∀ a, Relates store (fun fuel => f fuel a) (g a)) →
      Relates store (fun fuel => x fuel >>= f fuel) (Bind.bind (m := AnswerM) answer g)
  within {α : Type} {store : Store} {frame : Frame} {f : Nat → FrameId → EvalM α}
    {answer : Option (Except EvalError α)} :
    Relates (store.push frame) (fun fuel => f fuel store.frames.size) answer →
      Relates store (fun fuel => EvalM.within frame (f fuel)) answer
  congr {α : Type} {store : Store} {x y : Nat → EvalM α} {answer : Option (Except EvalError α)} :
    (∀ fuel, (x fuel).run.run store = (y fuel).run.run store) → Relates store y answer →
      Relates store x answer

namespace Simulation

section Closure

variable (sim : Simulation) {α β : Type} {store : Store}

lemma pure (a : α) : sim.Relates store (fun _ => Pure.pure a) (some (.ok a)) :=
  sim.ofExcept store (.ok a)

lemma map {x : Nat → EvalM α} {answer : Option (Except EvalError α)}
    (hx : sim.Relates store x answer) (f : α → β) :
    sim.Relates store (fun fuel => f <$> x fuel)
      (Bind.bind (m := AnswerM) answer fun a => Pure.pure (f a)) := by
  simp only [map_eq_pure_bind]
  exact sim.bind hx fun a => sim.pure (f a)

lemma foldlM {f : Nat → β → α → EvalM β} {g : β → α → Option (Except EvalError β)}
    (hf : ∀ b a, sim.Relates store (fun fuel => f fuel b a) (g b a)) (items : List α) :
    ∀ b, sim.Relates store (fun fuel => items.foldlM (f fuel) b)
      (items.foldlM (m := AnswerM) g b) := by
  induction items with
  | nil => exact fun b => sim.pure b
  | cons item items ih =>
      intro b
      simp only [List.foldlM_cons]
      exact sim.bind (hf b item) ih

lemma mapM {f : Nat → α → EvalM β} {g : α → Option (Except EvalError β)}
    (hf : ∀ a, sim.Relates store (fun fuel => f fuel a) (g a)) (items : List α) :
    sim.Relates store (fun fuel => items.mapM (f fuel)) (items.mapM (m := AnswerM) g) := by
  induction items with
  | nil => exact sim.pure []
  | cons item items ih =>
      simp only [List.mapM_cons]
      exact sim.bind (hf item) fun b => sim.bind ih fun bs => sim.pure (b :: bs)

end Closure

/-- The computation leaves the store as it is, and gives the answer unless it runs out of fuel. -/
def refinement : Simulation where
  Relates store x answer :=
    ∀ fuel, ∃ result, EvalM.Yields store (x fuel) result ∧ EvalM.Approximates result answer
  ofExcept store answer _ :=
    ⟨_, EvalM.yields_ofExcept answer, by cases answer <;> rfl⟩
  bind {α β store x answer f g} hx hf fuel := by
    obtain ⟨result, hyields, happrox⟩ := hx fuel
    match result, happrox with
    | .ok a, happrox =>
        obtain ⟨result', hyields', happrox'⟩ := hf a fuel
        rw [happrox]
        exact ⟨result', (hyields.bind_ok (f fuel)).trans hyields', happrox'⟩
    | .error (.failed error), happrox =>
        rw [happrox]
        exact ⟨.error (.failed error), hyields.bind_error (f fuel), rfl⟩
    | .error .outOfFuel, _ => exact ⟨.error .outOfFuel, hyields.bind_error (f fuel), trivial⟩
  within h fuel := by
    obtain ⟨result, hyields, happrox⟩ := h fuel
    exact ⟨result, hyields.within, happrox⟩
  congr hrun h fuel := by
    obtain ⟨result, hyields, happrox⟩ := h fuel
    exact ⟨result, (hrun fuel).trans hyields, happrox⟩

/-- With enough fuel the computation leaves the store as it is and gives the answer, if there is
one. -/
def adequacy : Simulation where
  Relates store x answer :=
    ∀ result, answer = some result →
      ∃ enough, ∀ fuel, enough ≤ fuel → EvalM.Yields store (x fuel) (result.mapError .failed)
  ofExcept store answer := by
    rintro _ ⟨⟩
    exact ⟨0, fun _ _ => EvalM.yields_ofExcept answer⟩
  bind {α β store x answer f g} hx hf := by
    intro result hresult
    match answer with
    | none => exact absurd hresult (by rintro ⟨⟩)
    | some (.error error) =>
        obtain ⟨enough, hx⟩ := hx _ rfl
        obtain rfl : .error error = result := Option.some.inj hresult
        exact ⟨enough, fun fuel hfuel => (hx fuel hfuel).bind_error (f fuel)⟩
    | some (.ok a) =>
        obtain ⟨enough, hx⟩ := hx _ rfl
        obtain ⟨enough', hf⟩ := hf a result hresult
        refine ⟨max enough enough', fun fuel hfuel => ?_⟩
        rw [EvalM.Yields, (hx fuel (by omega)).bind_ok (f fuel)]
        exact hf fuel (by omega)
  within h result hresult := by
    obtain ⟨enough, h⟩ := h result hresult
    exact ⟨enough, fun fuel hfuel => (h fuel hfuel).within⟩
  congr hrun h result hresult := by
    obtain ⟨enough, h⟩ := h result hresult
    exact ⟨enough, fun fuel hfuel => (hrun fuel).trans (h fuel hfuel)⟩

/-- What is reached with some fuel is reached with one unit more when a unit is lost. -/
lemma adequacy_pred {α : Type} {store : Store} {x : Nat → EvalM α}
    {answer : Option (Except EvalError α)} (h : adequacy.Relates store x answer) :
    adequacy.Relates store (fun fuel => x (fuel - 1)) answer := by
  intro result hresult
  obtain ⟨enough, h⟩ := h result hresult
  exact ⟨enough + 1, fun fuel hfuel => h (fuel - 1) (by omega)⟩

/-- What is reached does not depend on what happens without fuel. -/
lemma adequacy_congr {α : Type} {store : Store} {x y : Nat → EvalM α}
    {answer : Option (Except EvalError α)} (h : adequacy.Relates store y answer)
    (hrun : ∀ fuel, (x (fuel + 1)).run.run store = (y (fuel + 1)).run.run store) :
    adequacy.Relates store x answer := by
  intro result hresult
  obtain ⟨enough, h⟩ := h result hresult
  refine ⟨enough + 1, fun fuel hfuel => ?_⟩
  obtain ⟨fuel, rfl⟩ : ∃ less, fuel = less + 1 := ⟨fuel - 1, by omega⟩
  exact (hrun fuel).trans (h (fuel + 1) (by omega))

end Simulation

end Missive
