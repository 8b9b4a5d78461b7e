import Missive.Proofs.Eval.Lockstep
import Missive.Session.Command
import Mathlib

/-!
# Commands that change no frame

Some commands of a session make and bind frames; the others only look something up or evaluate
something.  An evaluation binds `it` and `that` in frames of its own, but these are gone when it
ends, and no frame that was there before is any different, whether the evaluation succeeds or not.

All handlers in the frames are the language's own: what a handler does is a `Reply`.  One that could
run any function might bind something in a frame that is already there, and nothing is said here
about such handlers.

* `Store.Interchangeable`: stores in which lookups and messages have the same outcomes.
* `SessionM.Keeps`: a part of a session that a computation leaves as it is.
* `Operand.keeps_value`: describing a value does no more than make its handlers.
* `Command.keeps_run`: an inquiry keeps what describing its operands and saving its answer keep.
* `inquiries_keep_frames`: evaluation, messages, and inquiries in any session.
-/

namespace Missive

/-! ## Stores -/

/-- A message leaves the store as it is. -/
lemma send_keeps_store (fuel : Nat) (store : Store) (id : FrameId) (subject : Value)
    (verb : String) (object : Value) :
    ((send fuel id subject verb object).run.run store).2 = store := by
  obtain ⟨result, hyields⟩ := exists_yields_send fuel store id subject verb object
  exact congrArg Prod.snd hyields

namespace Store

/-- Two stores in which everything that is looked up is the same, and all messages are answered
alike. -/
structure Interchangeable (store store' : Store) : Prop where
  findHere (id : FrameId) (name : String) : store.findHere id name = store'.findHere id name
  find (id : FrameId) (name : String) : store.find id name = store'.find id name
  findPrototypeHere (id : FrameId) (tag : Tag) :
    store.findPrototypeHere id tag = store'.findPrototypeHere id tag
  findPrototype (id : FrameId) (tag : Tag) :
    store.findPrototype id tag = store'.findPrototype id tag
  findHandler (id : FrameId) (subject : Value) (verb : String) :
    store.findHandler id subject verb = store'.findHandler id subject verb
  send (fuel : Nat) (id : FrameId) (subject : Value) (verb : String) (object : Value) :
    ((send fuel id subject verb object).run.run store).1
      = ((Missive.send fuel id subject verb object).run.run store').1

/-- It is the frames alone that lookups and messages depend on. -/
lemma interchangeable_of_frames {store store' : Store} (h : store.frames = store'.frames) :
    store.Interchangeable store' := by
  have hframe : store.frame = store'.frame := by
    funext id
    rw [frame, frame, h]
  have hsimilar : store.Similar store' :=
    ⟨by rw [h], fun _ => by rw [hframe], fun _ => by rw [hframe], fun _ => by rw [hframe],
      fun _ => by rw [hframe]⟩
  have hagree : ∀ id seen, store.Agree id store' id seen := fun id seen =>
    ⟨hsimilar, hsimilar.left id, hsimilar.findPrototype id, fun name _ => hsimilar.find id name⟩
  refine ⟨hsimilar.findHere, hsimilar.find, fun id tag => ?_, hsimilar.findPrototype,
    fun id => (hagree id fun _ => True).findHandler, fun fuel id subject verb object => ?_⟩
  · rw [findPrototypeHere, findPrototypeHere, hframe]
  · obtain ⟨result, hyields, hyields'⟩ := together_send fuel verb (hagree id (Seen subject object))
    exact (congrArg Prod.fst hyields).trans (congrArg Prod.fst hyields').symm

end Store

/-! ## What computations in a session keep -/

namespace SessionM

variable {α β γ : Type} {view : Session → γ}

/-- The computation leaves a part of the session as it is, whether it succeeds or not. -/
def Keeps (view : Session → γ) (x : SessionM α) : Prop :=
  ∀ session, view (x.run.run session).2 = view session

lemma keeps_pure (a : α) : Keeps view (pure a) :=
  fun _ => rfl

lemma keeps_fail (error : SessionError) : Keeps view (fail error : SessionM α) :=
  fun _ => rfl

lemma keeps_get : Keeps view (get : SessionM Session) :=
  fun _ => rfl

lemma Keeps.bind {x : SessionM α} {f : α → SessionM β} (hx : Keeps view x)
    (hf : ∀ a, Keeps view (f a)) : Keeps view (x >>= f) := by
  intro session
  have hkept := hx session
  rw [ExceptT.run_bind, StateT.run_bind]
  generalize x.run.run session = ran at hkept
  obtain ⟨answer, after⟩ := ran
  cases answer with
  | error halt => exact hkept
  | ok a => exact (hf a after).trans hkept

lemma Keeps.map {x : SessionM α} (hx : Keeps view x) (f : α → β) : Keeps view (f <$> x) := by
  rw [map_eq_pure_bind]
  exact hx.bind fun a => keeps_pure (f a)

/-- What leaves the store as it is keeps everything. -/
lemma keeps_withStore {action : StateM Store α} (h : ∀ store, (action.run store).2 = store) :
    Keeps view (withStore action) := by
  intro session
  change view { session with store := (action.run session.store).2 } = view session
  rw [h]

lemma keeps_ofEval {computation : EvalM α} (h : ∀ store, (computation.run.run store).2 = store) :
    Keeps view (ofEval computation) := by
  refine (keeps_withStore h).bind fun result => ?_
  cases result with
  | ok answer => exact keeps_pure answer
  | error halt => exact fun _ => rfl

/-- Making a handler changes no frame. -/
lemma keeps_builtin (tag : Tag) (verb : String) :
    Keeps (fun session => (session.store.frames, session.frames)) (SessionM.builtin tag verb) := by
  intro session
  rw [SessionM.builtin, withStore, Store.addBuiltin?]
  cases tag.replies?.bind (·.lookup verb) <;> rfl

lemma keeps_frame (name : String) : Keeps view (frame name) := by
  refine keeps_get.bind fun session => ?_
  cases session.frames.lookup name with
  | none => exact keeps_fail _
  | some id => exact keeps_pure id

lemma keeps_namesOf (id : FrameId) : Keeps view (namesOf id) :=
  keeps_get.bind fun _ => keeps_pure _

end SessionM

open SessionM (Keeps keeps_pure keeps_fail keeps_get keeps_frame keeps_namesOf keeps_ofEval)

/-! ## Operands -/

namespace Operand

mutual

/-- The new handlers that the description of a value asks for. -/
def builtins : Operand → List (Tag × String)
  | builtin tag verb => [(tag, verb)]
  | later body => builtins body
  | block items | array items => builtinsOf items
  | map entries => builtinsOfEntries entries
  | pair left right => builtins left ++ builtins right
  | message _ object => builtins object
  | send subject _ object => builtins subject ++ builtins object
  | _ => []
termination_by structural operand => operand

/-- The new handlers that the descriptions of several values ask for. -/
def builtinsOf : List Operand → List (Tag × String)
  | [] => []
  | operand :: operands => builtins operand ++ builtinsOf operands
termination_by structural operands => operands

/-- The new handlers that the descriptions of several entries ask for. -/
def builtinsOfEntries : List (String × Operand) → List (Tag × String)
  | [] => []
  | (_, operand) :: entries => builtins operand ++ builtinsOfEntries entries
termination_by structural entries => entries

end

variable {γ : Type} {view : Session → γ}

mutual

/-- Describing a value keeps whatever making its handlers keeps. -/
lemma keeps_value : ∀ operand : Operand,
    (∀ made ∈ operand.builtins, Keeps view (SessionM.builtin made.1 made.2)) →
      Keeps view operand.value
  | source text, _ => by
      rw [value]
      cases Value.ofSource text with
      | ok value => exact keeps_pure value
      | error error => exact keeps_fail _
  | register key, _ => by
      refine keeps_get.bind fun session => ?_
      cases session.registers.lookup key with
      | some value => exact keeps_pure value
      | none => exact keeps_fail _
  | builtin tag verb, h => (h (tag, verb) (by simp [builtins])).map _
  | nil, _ => keeps_pure _
  | integer _, _ => keeps_pure _
  | float _, _ => keeps_pure _
  | string _, _ => keeps_pure _
  | name _, _ => keeps_pure _
  | later body, h => (keeps_value body h).map _
  | block items, h => (keeps_values items h).map _
  | array items, h => (keeps_values items h).map _
  | map entries, h => (keeps_entryValues entries h).map _
  | pair left right, h => by
      have hleft := keeps_value left fun made hmade => h made (by simp [builtins, hmade])
      have hright := keeps_value right fun made hmade => h made (by simp [builtins, hmade])
      rw [value, seq_eq_bind_map]
      exact (hleft.map _).bind fun pair => hright.map pair
  | message _ object, h => (keeps_value object h).map _
  | send subject verb object, h => by
      have hsubject := keeps_value subject fun made hmade => h made (by simp [builtins, hmade])
      have hobject := keeps_value object fun made hmade => h made (by simp [builtins, hmade])
      exact hsubject.bind fun _ => hobject.bind fun _ => keeps_pure _
termination_by structural operand => operand

/-- Describing several values keeps whatever making their handlers keeps. -/
lemma keeps_values : ∀ operands : List Operand,
    (∀ made ∈ builtinsOf operands, Keeps view (SessionM.builtin made.1 made.2)) →
      Keeps view (values operands)
  | [], _ => keeps_pure _
  | operand :: operands, h => by
      have hfirst := keeps_value operand fun made hmade => h made (by simp [builtinsOf, hmade])
      have hrest := keeps_values operands fun made hmade => h made (by simp [builtinsOf, hmade])
      exact hfirst.bind fun _ => hrest.bind fun _ => keeps_pure _
termination_by structural operands => operands

/-- Describing several entries keeps whatever making their handlers keeps. -/
lemma keeps_entryValues : ∀ entries : List (String × Operand),
    (∀ made ∈ builtinsOfEntries entries, Keeps view (SessionM.builtin made.1 made.2)) →
      Keeps view (entryValues entries)
  | [], _ => keeps_pure _
  | (_, operand) :: entries, h => by
      have hfirst :=
        keeps_value operand fun made hmade => h made (by simp [builtinsOfEntries, hmade])
      have hrest :=
        keeps_entryValues entries fun made hmade => h made (by simp [builtinsOfEntries, hmade])
      exact hfirst.bind fun _ => hrest.bind fun _ => keeps_pure _
termination_by structural entries => entries

end

end Operand

/-! ## Commands -/

namespace Command

/-- The commands that look something up or evaluate something in frames that are there. -/
def Inquires : Command → Prop
  | find _ _ _ _ | findPrototype _ _ _ | parents _ | inspect _ _ | evaluate _ _ _ | send _ _ _ _ _
  | findHandler _ _ _ _ _ | equal _ _ => True
  | _ => False

/-- The values that an inquiry describes. -/
def operands : Command → List Operand
  | inspect value _ | evaluate _ value _ => [value]
  | send _ subject _ object _ | findHandler _ subject _ object _ => [subject, object]
  | equal left right => [left, right]
  | _ => []

/-- The register in which an inquiry puts its answer. -/
def savedTo? : Command → Option String
  | find _ _ _ register | inspect _ register | evaluate _ _ register | send _ _ _ _ register
  | findHandler _ _ _ _ register => register
  | _ => none

/-- An inquiry that makes no handlers and does not save its answer. -/
structure OnlyInquires (command : Command) : Prop where
  inquires : command.Inquires
  operands : ∀ operand ∈ command.operands, operand.builtins = []
  savedTo? : command.savedTo? = none

variable {γ : Type} {view : Session → γ}

/-- **One inquiry.**  What is kept where its operands are described and its answer is saved is kept
altogether. -/
lemma keeps_run (fuel : Nat) {command : Command} (h : command.Inquires)
    (hoperands : ∀ operand ∈ command.operands, Keeps view operand.value)
    (hsave : ∀ value, Keeps view (SessionM.save command.savedTo? value)) :
    Keeps view (command.run fuel) := by
  have hanswer : ∀ value, Keeps view (answerWith command.savedTo? value) :=
    fun value => (hsave value).bind fun _ => keeps_pure _
  cases command with
  | find name key reach register =>
      refine (keeps_frame name).bind fun id => keeps_get.bind fun session => ?_
      dsimp only
      split
      · exact hanswer _
      · exact keeps_pure _
  | findPrototype name tag reach =>
      refine (keeps_frame name).bind fun id => keeps_get.bind fun session => ?_
      dsimp only
      split
      · exact (keeps_namesOf _).bind fun _ => keeps_pure _
      · exact keeps_pure _
  | parents name =>
      have hnames : ∀ parent : Option FrameId, Keeps view (parent.mapM SessionM.namesOf) := by
        intro parent
        cases parent with
        | none => exact keeps_pure none
        | some id => exact (keeps_namesOf id).map some
      refine (keeps_frame name).bind fun id => keeps_get.bind fun session => ?_
      exact (hnames _).bind fun _ => (hnames _).bind fun _ => keeps_pure _
  | inspect operand register =>
      exact (hoperands operand (by simp [operands])).bind hanswer
  | evaluate name operand register =>
      refine (keeps_frame name).bind fun id => ?_
      refine (hoperands operand (by simp [operands])).bind fun value => ?_
      exact (keeps_ofEval fun store => send_keeps_store fuel store id value _ _).bind hanswer
  | send name subject verb object register =>
      refine (keeps_frame name).bind fun id => ?_
      refine (hoperands subject (by simp [operands])).bind fun subject => ?_
      refine (hoperands object (by simp [operands])).bind fun object => ?_
      exact (keeps_ofEval fun store => send_keeps_store fuel store id subject verb object).bind
        hanswer
  | findHandler name subject verb object register =>
      refine (keeps_frame name).bind fun id => ?_
      refine (hoperands subject (by simp [operands])).bind fun subject => ?_
      refine (hoperands object (by simp [operands])).bind fun _ => keeps_get.bind fun session => ?_
      refine (keeps_ofEval fun store => ?_).bind fun handler => hanswer _
      cases session.store.findHandler id subject verb <;> rfl
  | equal left right =>
      refine (hoperands left (by simp [operands])).bind fun left => ?_
      exact (hoperands right (by simp [operands])).bind fun right => keeps_pure _
  | _ => exact h.elim

/-- An inquiry may make handlers and may save its answer, but frames and their names stay. -/
lemma keeps_frames (fuel : Nat) {command : Command} (h : command.Inquires) :
    Keeps (fun session => (session.store.frames, session.frames)) (command.run fuel) := by
  refine keeps_run fuel h (fun operand _ => Operand.keeps_value operand fun made _ => ?_) ?_
  · exact SessionM.keeps_builtin made.1 made.2
  · intro value
    cases command.savedTo? <;> exact fun _ => rfl

/-- An inquiry that only inquires leaves everything as it is. -/
lemma OnlyInquires.keeps {command : Command} (h : command.OnlyInquires) (fuel : Nat) :
    Keeps id (command.run fuel) := by
  refine keeps_run fuel h.inquires (fun operand hoperand => ?_) fun value => ?_
  · refine Operand.keeps_value operand fun made hmade => ?_
    simp [h.operands operand hoperand] at hmade
  · rw [h.savedTo?]
    exact keeps_pure ()

end Command

/-! ## Inquiries in a session -/

/-- **Inquiries change no frame.**  An evaluation or a message leaves the store as it is.  A command
that looks something up, or that evaluates something, leaves all frames and their names as they are,
so that whatever is looked up or evaluated next has the outcome it would have had without the
command; and if it does not make handlers and does not save its answer, then so has any sequence of
commands. -/
theorem inquiries_keep_frames (fuel : Nat) :
    (∀ store id value, ((evaluate fuel id value).run.run store).2 = store) ∧
      (∀ store id subject verb object,
        ((send fuel id subject verb object).run.run store).2 = store) ∧
      ∀ (session : Session) (command : Command), command.Inquires →
        (session.step fuel command).2.store.frames = session.store.frames ∧
          (session.step fuel command).2.frames = session.frames ∧
          (session.step fuel command).2.store.Interchangeable session.store ∧
          (command.OnlyInquires → ∀ fuel' commands,
            (session.step fuel command).2.runAll fuel' commands
              = session.runAll fuel' commands) := by
  refine ⟨fun store id value => send_keeps_store fuel store id value evalVerb .nil,
    send_keeps_store fuel, fun session command hinquires => ?_⟩
  have hkept := Command.keeps_frames fuel hinquires session
  obtain ⟨hframes, hnames⟩ := Prod.mk.inj hkept
  refine ⟨hframes, hnames, Store.interchangeable_of_frames hframes, fun honly fuel' commands => ?_⟩
  exact congrArg (Session.runAll fuel' · commands) (honly.keeps fuel session)

/-- The evaluation of a send whose operand fails after its subject has been delivered. -/
def failingInquiry : Command :=
  .evaluate "f" (.send (.send (.integer 1) "+" (.name "x")) "+" (.name "y")) none

/-- The session in which the frame `f` is a root frame that binds `x`. -/
def bindingSession : Session :=
  ((({} : Session).step 0 (.newRoot "f")).2.step 0 (.bind "f" "x" (.integer 2))).2

/-- An evaluation that delivers one message and then fails leaves `x` bound to what it was, and `it`
unbound. -/
theorem inquiries_keep_frames_failingInquiry :
    (bindingSession.step 5 failingInquiry).1
        = .error (.failed (.program (.eval (.nameNotFound "y")))) ∧
      (bindingSession.step 5 failingInquiry).2.store.frames = bindingSession.store.frames ∧
      (bindingSession.step 5 failingInquiry).2.runAll 5
          [.find "f" "x" .chain none, .find "f" "it" .chain none]
        = bindingSession.runAll 5 [.find "f" "x" .chain none, .find "f" "it" .chain none] := by
  have honly : failingInquiry.OnlyInquires :=
    ⟨trivial, by simp [failingInquiry, Command.operands, Operand.builtins], rfl⟩
  obtain ⟨hframes, -, -, hlater⟩ :=
    (inquiries_keep_frames 5).2.2 bindingSession failingInquiry honly.inquires
  exact ⟨by cbv, hframes, hlater honly 5 _⟩

end Missive
