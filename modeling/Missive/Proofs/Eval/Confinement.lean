import Missive.Proofs.Eval.Lockstep
import Missive.Proofs.Frame.Builtin
import Missive.Proofs.Frame.History
import Mathlib

/-!
# What the limits of a frame confine

A frame whose ways out are closed looks nothing up outside of itself.  The limits are those of the
frame alone, however: a send in it is delivered in a frame below it, which has the same frame to the
left and no limit there.  So a program that runs in such a frame may still see the frame to the
left, but only through its sends, and only what a lookup that begins there finds.  All handlers in
frames and values are the language's own: what a handler does is a `Reply`.  One that could run any
function might look something up in any frame, and nothing is said here about such handlers.

* `Store.Gated`: a frame whose ways out are closed, and another frame that could be to the left of
  it.
* `Store.Matches`: two frames in which the same is found.  It is enough for all but deliveries, and
  with `Store.LeftAlike` it goes over to the frames for deliveries (`Store.Matches.delivery`).
* `together_send_of_matches`: evaluation in such frames, by induction on the fuel.
* `not_confined`: the frame to the left does matter.
* `evaluate_relink`: it matters in no other way.
-/

namespace Missive

open EvalM (Together)

open Value (Exposed)

namespace Store

/-! ## The frame to the left -/

/-- The store with another frame to the left of a frame. -/
def relink (store : Store) (id : FrameId) (left : Option FrameId) : Store :=
  store.alter id fun frame => { frame with left }

/-- A frame whose ways out are closed, and another frame that could be to the left of it.  Frames
are made after those that they are below or to the right of. -/
structure Gated (store : Store) (id : FrameId) (left : Option FrameId) : Prop where
  lt : id < store.frames.size
  leftLimit : (store.frame id).leftLimit = true
  upLimit : (store.frame id).up = none ∨ (store.frame id).upLimit = true
  older : ∀ parent ∈ (store.frame id).left, parent < id
  older' : ∀ parent ∈ left, parent < id

/-- Two frames from which a lookup of a type, or of a name that is not bound for every delivery,
finds the same.  Nothing is found where there is no frame. -/
structure LeftAlike (store : Store) (left : Option FrameId) (store' : Store)
    (left' : Option FrameId) : Prop where
  prototypes : ∀ tag,
    left.bind (store.findPrototype · tag) = left'.bind (store'.findPrototype · tag)
  names : ∀ name, name ≠ "it" → name ≠ "that" →
    left.bind (store.find · name) = left'.bind (store'.find · name)

/-- Two frames in which the same is found for types and for the names that are seen, in stores in
which every frame has the same bindings; and the frames to the left are there. -/
structure Matches (store : Store) (id : FrameId) (store' : Store) (id' : FrameId)
    (seen : String → Prop) : Prop where
  size : store.frames.size = store'.frames.size
  findHere : ∀ visited name, store.findHere visited name = store'.findHere visited name
  prototypes : ∀ tag, store.findPrototype id tag = store'.findPrototype id' tag
  names : ∀ name, seen name → store.find id name = store'.find id' name
  there : ∀ parent ∈ (store.frame id).left, parent < store.frames.size
  there' : ∀ parent ∈ (store'.frame id').left, parent < store'.frames.size

/-! ## Frames for deliveries -/

section Delivery

variable {store : Store} {id : FrameId}

/-- A lookup in the frame for a delivery goes on to the left. -/
lemma find_delivery (hthere : ∀ parent ∈ (store.frame id).left, parent < store.frames.size)
    (subject object : Value) (name : String) :
    (store.push (store.delivery id subject object)).find store.frames.size name
      = ((store.delivery id subject object).bindings.lookup name).or
          ((store.frame id).left.bind (store.find · name)) := by
  have hparent : (store.delivery id subject object).parent? = (store.frame id).left := rfl
  cases hleft : (store.frame id).left with
  | none =>
      rw [find, chain_of_parent?_eq_none (by rw [frame_push_size, hparent, hleft])]
      simp [findHere]
  | some parent => exact find_push_size name (hparent.trans hleft) (hthere parent hleft)

lemma findPrototype_delivery
    (hthere : ∀ parent ∈ (store.frame id).left, parent < store.frames.size)
    (subject object : Value) (tag : Tag) :
    (store.push (store.delivery id subject object)).findPrototype store.frames.size tag
      = (store.frame id).left.bind (store.findPrototype · tag) := by
  have hparent : (store.delivery id subject object).parent? = (store.frame id).left := rfl
  cases hleft : (store.frame id).left with
  | none =>
      rw [findPrototype, chain_of_parent?_eq_none (by rw [frame_push_size, hparent, hleft])]
      rw [List.findSome?_singleton, findPrototypeHere, frame_push_size]
      rfl
  | some parent => exact findPrototype_push_size tag (hparent.trans hleft) (hthere parent hleft)

end Delivery

namespace Matches

variable {store store' : Store} {id id' : FrameId} {seen seen' : String → Prop}

/-- Frames that match for some names match for fewer. -/
lemma mono (h : store.Matches id store' id' seen) (hseen : ∀ name, seen' name → seen name) :
    store.Matches id store' id' seen' :=
  { h with names := fun name hname => h.names name (hseen name hname) }

/-- Frames that match find the same handlers. -/
lemma findHandler (h : store.Matches id store' id' seen) (subject : Value) (verb : String) :
    store.findHandler id subject verb = store'.findHandler id' subject verb :=
  findHandler_congr h.prototypes h.findHere subject verb

/-- **Deliveries.**  If the same is found to the left, then the frames for a delivery match,
whatever names are seen, and the same is found to the left of them. -/
lemma delivery (h : store.Matches id store' id' seen)
    (hleft : store.LeftAlike (store.frame id).left store' (store'.frame id').left)
    (subject object : Value) :
    (store.push (store.delivery id subject object)).Matches store.frames.size
        (store'.push (store'.delivery id' subject object)) store'.frames.size seen' ∧
      (store.push (store.delivery id subject object)).LeftAlike
        ((store.push (store.delivery id subject object)).frame store.frames.size).left
        (store'.push (store'.delivery id' subject object))
        ((store'.push (store'.delivery id' subject object)).frame store'.frames.size).left := by
  have hbound : ∀ name, (store.delivery id subject object).bindings.lookup name
      = (store'.delivery id' subject object).bindings.lookup name :=
    fun _ => rfl
  have hdelivered : ∀ {store : Store} {id : FrameId},
      ((store.push (store.delivery id subject object)).frame store.frames.size).left
        = (store.frame id).left := by
    intro store id
    rw [frame_push_size]
    rfl
  have hfind : ∀ name, ((store.delivery id subject object).bindings.lookup name).or
        ((store.frame id).left.bind (store.find · name))
      = ((store.delivery id subject object).bindings.lookup name).or
        ((store'.frame id').left.bind (store'.find · name)) := by
    intro name
    by_cases hit : name = "it"
    · subst hit
      rfl
    · by_cases hthat : name = "that"
      · subst hthat
        rfl
      · rw [hleft.names name hit hthat]
  refine ⟨⟨by simp [h.size], fun visited name => ?_, fun tag => ?_, fun name _ => ?_,
    fun parent hparent => ?_, fun parent hparent => ?_⟩,
    ⟨fun tag => ?_, fun name hit hthat => ?_⟩⟩
  · rw [Store.findHere, Store.findHere, frame_push, frame_push, h.size]
    split_ifs
    · exact hbound name
    · exact h.findHere visited name
  · rw [findPrototype_delivery h.there, findPrototype_delivery h.there', hleft.prototypes]
  · rw [find_delivery h.there, find_delivery h.there', hfind, hbound]
  · rw [hdelivered] at hparent
    rw [push_size]
    exact Nat.lt_succ_of_lt (h.there parent hparent)
  · rw [hdelivered] at hparent
    rw [push_size]
    exact Nat.lt_succ_of_lt (h.there' parent hparent)
  · rw [hdelivered, hdelivered,
      Option.bind_congr fun parent hparent => findPrototype_push _ tag (h.there parent hparent),
      Option.bind_congr fun parent hparent => findPrototype_push _ tag (h.there' parent hparent)]
    exact hleft.prototypes tag
  · rw [hdelivered, hdelivered,
      Option.bind_congr fun parent hparent => find_push _ name (h.there parent hparent),
      Option.bind_congr fun parent hparent => find_push _ name (h.there' parent hparent)]
    exact hleft.names name hit hthat

end Matches

end Store

/-! ## Messages -/

/-- **In lockstep.**  With the same fuel a message does the same in two frames that match, if no
send is exposed in it or the same is found to the left of both frames. -/
theorem together_send_of_matches (fuel : Nat) {store store' : Store} {id id' : FrameId}
    {subject : Value} (verb : String) {object : Value}
    (h : store.Matches id store' id' (Seen subject object))
    (hleft : ∀ first second operand, Exposed (.send first second operand) subject ∨
      Exposed (.send first second operand) object →
        store.LeftAlike (store.frame id).left store' (store'.frame id').left) :
    Together store store' (send fuel id subject verb object)
      (send fuel id' subject verb object) := by
  induction fuel generalizing store store' id id' subject verb object with
  | zero => exact ⟨.error .outOfFuel, rfl, rfl⟩
  | succ fuel ih =>
      refine Coupling.send_succ (c := .lockstep) (h.findHandler subject verb) ?_ ?_ ?_
      · intro name hname
        exact h.names name (.inl (hname ▸ .self))
      · intro value hvalue
        have hnil : ∀ {part : Value}, part ≠ .nil → ¬ Exposed part .nil :=
          Value.not_partOf_leaf rfl
        refine ih evalVerb (h.mono fun name hname => ?_) fun first second operand hsend => ?_
        · exact hvalue.exposed (hname.resolve_right (hnil (by simp))) (by simp)
        · refine hleft first second operand (hvalue.exposed ?_ (by simp))
          exact hsend.resolve_right (hnil (by simp))
      · intro first second operand hsend subject verb object
        have halike := hleft first second operand (.inl (hsend ▸ .self))
        obtain ⟨hmatches, hleft⟩ := h.delivery halike subject object
        exact ih verb hmatches fun _ _ _ _ => hleft

/-! ## Another frame to the left -/

namespace Store

namespace Gated

variable {store : Store} {id : FrameId} {left : Option FrameId}

lemma frame_relink (h : store.Gated id left) (visited : FrameId) :
    (store.relink id left).frame visited
      = if visited = id then { store.frame id with left } else store.frame visited :=
  frame_alter _ h.lt visited

lemma findHere_relink (h : store.Gated id left) (visited : FrameId) (name : String) :
    (store.relink id left).findHere visited name = store.findHere visited name := by
  rw [findHere, h.frame_relink]
  split_ifs with hvisited
  · subst hvisited
    rfl
  · rfl

lemma findPrototypeHere_relink (h : store.Gated id left) (visited : FrameId) (tag : Tag) :
    (store.relink id left).findPrototypeHere visited tag = store.findPrototypeHere visited tag := by
  rw [findPrototypeHere, h.frame_relink]
  split_ifs with hvisited
  · subst hvisited
    rfl
  · rfl

/-- A lookup does not go on from the frame, whatever is to the left of it. -/
lemma parent?_eq_none (h : store.Gated id left) (other : Option FrameId) :
    ({ store.frame id with left := other } : Frame).parent? = none := by
  rw [Frame.parent?]
  rcases h.upLimit with hup | hup <;> simp [hup, h.leftLimit]

/-- Lookups that begin in the frame or in an older one visit the same frames as before. -/
lemma chain_relink (h : store.Gated id left) {visited : FrameId} (hvisited : visited ≤ id) :
    (store.relink id left).chain visited = store.chain visited := by
  induction visited using Nat.strongRecOn with
  | ind visited ih =>
      have hparent : ((store.relink id left).frame visited).parent?
          = (store.frame visited).parent? := by
        rw [h.frame_relink]
        split_ifs with hid
        · rw [hid, h.parent?_eq_none left]
          exact (h.parent?_eq_none (store.frame id).left).symm
        · rfl
      rw [chain, chain, hparent]
      cases (store.frame visited).parent? with
      | none => rfl
      | some parent =>
          by_cases hlt : parent < visited
          · simp only [hlt, if_true]
            rw [ih parent hlt (Nat.le_of_lt (Nat.lt_of_lt_of_le hlt hvisited))]
          · simp only [hlt, if_false]

lemma find_relink (h : store.Gated id left) {visited : FrameId} (hvisited : visited ≤ id)
    (name : String) : (store.relink id left).find visited name = store.find visited name := by
  rw [find, find, h.chain_relink hvisited]
  exact congrArg (List.findSome? · _) (funext fun visited => h.findHere_relink visited name)

lemma findPrototype_relink (h : store.Gated id left) {visited : FrameId} (hvisited : visited ≤ id)
    (tag : Tag) :
    (store.relink id left).findPrototype visited tag = store.findPrototype visited tag := by
  rw [findPrototype, findPrototype, h.chain_relink hvisited]
  exact congrArg (List.findSome? · _)
    (funext fun visited => h.findPrototypeHere_relink visited tag)

lemma left_relink (h : store.Gated id left) : ((store.relink id left).frame id).left = left := by
  rw [h.frame_relink, if_pos rfl]

/-- The frame matches itself with another frame to the left. -/
lemma matches_relink (h : store.Gated id left) (seen : String → Prop) :
    (store.relink id left).Matches id store id seen where
  size := alter_size store id _
  findHere := h.findHere_relink
  prototypes := h.findPrototype_relink (Nat.le_refl id)
  names name _ := h.find_relink (Nat.le_refl id) name
  there parent hparent := by
    rw [h.left_relink] at hparent
    rw [relink, alter_size]
    exact Nat.lt_trans (h.older' parent hparent) h.lt
  there' parent hparent := Nat.lt_trans (h.older parent hparent) h.lt

/-- What is found from the other frame is the same before and after. -/
lemma leftAlike_relink (h : store.Gated id left)
    (halike : store.LeftAlike left store (store.frame id).left) :
    (store.relink id left).LeftAlike ((store.relink id left).frame id).left store
      (store.frame id).left := by
  rw [h.left_relink]
  have hold : ∀ parent, left = some parent → parent ≤ id :=
    fun parent hparent => Nat.le_of_lt (h.older' parent hparent)
  constructor
  · intro tag
    rw [Option.bind_congr fun parent hparent => h.findPrototype_relink (hold parent hparent) tag]
    exact halike.prototypes tag
  · intro name hit hthat
    rw [Option.bind_congr fun parent hparent => h.find_relink (hold parent hparent) name]
    exact halike.names name hit hthat

end Gated

end Store

/-! ## A frame that is not confined -/

/-- Prototypes with the handlers that evaluate and add integers and that evaluate sends and
messages; a frame in which there is nothing, and one that has the prototype of integers; and a frame
with all the prototypes to the right of the former, with the way to the left closed. -/
def gatedHistory : History :=
  [.bindPrototype 5 .message 4, .bindPrototype 5 .send 3, .bindPrototype 5 .integer 2,
    .bindPrototype 1 .integer 2, .bind 4 "eval" (.handler ⟨"eval", .evalOperand, 3⟩),
    .bind 3 "eval" (.handler ⟨"eval", .dispatch, 2⟩),
    .bind 2 "+" (.handler ⟨"+", .integerOp .add, 1⟩),
    .bind 2 "eval" (.handler ⟨"eval", .itself, 0⟩), .child .right 0 { left := true },
    .new {}, .new {}, .new {}, .new {}, .new {}]

lemma wellFormed_gatedHistory : gatedHistory.WellFormed := by
  simp [gatedHistory, History.WellFormed, Action.mentions, History.origins, Action.origin?]

lemma gated_gatedHistory {left : Option FrameId} (h : ∀ parent ∈ left, parent < 5) :
    gatedHistory.store.Gated 5 left where
  lt := by cbv
  leftLimit := by cbv
  upLimit := .inl (by cbv)
  older := by
    have hleft : (gatedHistory.store.frame 5).left = some 0 := by cbv
    simp [hleft]
  older' := h

/-- The send `1 + 2`. -/
def oneAndTwo : Value :=
  .send (.integer 1) "+" (.integer 2)

/-- **Not confined.**  What comes of a value may depend on the frame to the left, although no lookup
from the frame goes there: `1 + 2` fails if there is no prototype of integers to the left, and is
`3` otherwise. -/
theorem not_confined :
    ¬ ∀ (history : History) (id : FrameId) (left : Option FrameId) (value : Value),
      history.WellFormed → history.store.Gated id left →
        SameOutcome (history.store.outcomes id value)
          ((history.store.relink id left).outcomes id value) := by
  intro hconfined
  have hgated : gatedHistory.store.Gated 5 (some 1) := gated_gatedHistory (by simp)
  have hfails : ∀ fuel, gatedHistory.store.outcomes 5 oneAndTwo (fuel + 3)
      = .error (.failed (.handlerNotFound .integer "+" "1")) := by
    intro fuel
    cbv
  have hthree : ∀ fuel, (gatedHistory.store.relink 5 (some 1)).outcomes 5 oneAndTwo (fuel + 3)
      = .ok (.integer 3) := by
    intro fuel
    cbv
  have hfailure : Settles (gatedHistory.store.outcomes 5 oneAndTwo)
      (some (.error (.handlerNotFound .integer "+" "1"))) :=
    ⟨3, fun fuel hfuel => Nat.sub_add_cancel hfuel ▸ hfails (fuel - 3)⟩
  have hsum : Settles ((gatedHistory.store.relink 5 (some 1)).outcomes 5 oneAndTwo)
      (some (.ok (.integer 3))) :=
    ⟨3, fun fuel hfuel => Nat.sub_add_cancel hfuel ▸ hthree (fuel - 3)⟩
  have hsame := hconfined gatedHistory 5 (some 1) oneAndTwo wellFormed_gatedHistory hgated
  have houtcome := ((hsame _).mp hfailure).unique hsum
  cases houtcome

/-! ## What is confined -/

/-- **What the limits confine.**  Let the ways out of a frame be closed.

* No lookup from the frame depends on the frame to the left.
* What comes of a value in which no send is exposed does not depend on it either.
* What comes of any other value depends on it only through lookups: the frame to the left may be
  replaced by another one from which the same prototypes and the same names are found, but for `it`
  and `that`. -/
theorem evaluate_relink {store : Store} {id : FrameId} {left : Option FrameId}
    (h : store.Gated id left) :
    (∀ name, (store.relink id left).find id name = store.find id name) ∧
    (∀ tag, (store.relink id left).findPrototype id tag = store.findPrototype id tag) ∧
    (∀ value, (∀ subject verb object, ¬ Exposed (.send subject verb object) value) →
      (store.relink id left).outcomes id value = store.outcomes id value) ∧
    (store.LeftAlike left store (store.frame id).left →
      ∀ value, (store.relink id left).outcomes id value = store.outcomes id value) := by
  have houtcomes : ∀ {value : Value},
      (∀ fuel, Together (store.relink id left) store (send fuel id value evalVerb .nil)
        (send fuel id value evalVerb .nil)) →
      (store.relink id left).outcomes id value = store.outcomes id value := by
    intro value htogether
    funext fuel
    obtain ⟨result, hrelinked, hresult⟩ := htogether fuel
    exact (congrArg Prod.fst hrelinked).trans (congrArg Prod.fst hresult).symm
  refine ⟨h.find_relink (Nat.le_refl id), h.findPrototype_relink (Nat.le_refl id), ?_, ?_⟩
  · intro value hsend
    refine houtcomes fun fuel => together_send_of_matches fuel evalVerb (h.matches_relink _) ?_
    rintro subject verb object (hexposed | hexposed)
    · exact absurd hexposed (hsend subject verb object)
    · exact absurd hexposed (Value.not_partOf_leaf rfl (by simp))
  · intro hleft value
    exact houtcomes fun fuel => together_send_of_matches fuel evalVerb (h.matches_relink _)
      fun _ _ _ _ => h.leftAlike_relink hleft

/-- From a frame in which there is nothing the same is found as where there is no frame. -/
lemma leftAlike_gatedHistory :
    gatedHistory.store.LeftAlike none gatedHistory.store (gatedHistory.store.frame 5).left := by
  have hleft : (gatedHistory.store.frame 5).left = some 0 := by cbv
  have hchain : gatedHistory.store.chain 0 = [0] := by cbv
  have hframe : gatedHistory.store.frame 0 = {} := by cbv
  rw [hleft]
  constructor
  · intro tag
    simp [Store.findPrototype, hchain, Store.findPrototypeHere, hframe]
  · intro name _ _
    simp [Store.find, hchain, Store.findHere, hframe]

/-- The message `f 1` is evaluated to the same with a prototype of integers to the left, and `1 + 2`
fails in the same way with no frame there. -/
theorem evaluate_relink_gatedHistory :
    (gatedHistory.store.relink 5 (some 1)).outcomes 5 (.message "f" (.integer 1))
        = gatedHistory.store.outcomes 5 (.message "f" (.integer 1)) ∧
      (gatedHistory.store.relink 5 none).outcomes 5 oneAndTwo
        = gatedHistory.store.outcomes 5 oneAndTwo := by
  have hprototype : gatedHistory.store.Gated 5 (some 1) := gated_gatedHistory (by simp)
  have hnothing : gatedHistory.store.Gated 5 none := gated_gatedHistory (by simp)
  obtain ⟨-, -, hquiet, -⟩ := evaluate_relink hprototype
  obtain ⟨-, -, -, halike⟩ := evaluate_relink hnothing
  refine ⟨hquiet _ fun subject verb object hsend => ?_, halike leftAlike_gatedHistory oneAndTwo⟩
  obtain ⟨piece, hpiece, hexposed⟩ := hsend.exists_piece (by simp)
  obtain rfl : piece = .integer 1 := by simpa using hpiece
  exact Value.not_partOf_leaf rfl (by simp) hexposed

end Missive
