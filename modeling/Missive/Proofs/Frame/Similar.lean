import Missive.Eval.Send
import Missive.Proofs.Frame.Lookup
import Mathlib.Tactic.SplitIfs

/-!
# Frames that look the same

A lookup visits the frame that it starts in and then the chain of parents, so frames and stores may
differ in many ways that no lookup can see.

* `Store.Similar`: two stores whose frames differ at most in the way up where it is closed.
* `Store.alter`: a store that differs in one frame.
* `Store.findHandler_congr`: handlers are found by prototypes and by what these bind.
* `Store.Agree`: two frames, in similar stores, with the same frame to the left, the same
  prototypes, and the same values for certain names.
* `Store.Agree.delivery`: frames for the delivery of one message agree on all names if only the
  frames that they are made in have the same frame to the left.
-/

namespace Missive.Store

/-! ## Similar stores -/

/-- Two stores whose frames have the same bindings, prototypes, left parents and next frames to look
in. -/
structure Similar (store store' : Store) : Prop where
  size : store.frames.size = store'.frames.size
  bindings : ∀ id, (store.frame id).bindings = (store'.frame id).bindings
  prototypes : ∀ id, (store.frame id).prototypes = (store'.frame id).prototypes
  left : ∀ id, (store.frame id).left = (store'.frame id).left
  parent : ∀ id, (store.frame id).parent? = (store'.frame id).parent?

/-- The frames of a store with one more. -/
lemma frame_push (store : Store) (frame : Frame) (id : FrameId) :
    (store.push frame).frame id = if id = store.frames.size then frame else store.frame id := by
  split_ifs with hid
  · rw [hid, frame_push_size]
  · simp [push, Store.frame, Array.getD_eq_getD_getElem?, Array.getElem?_push, hid]

/-- The store with one frame changed. -/
def alter (store : Store) (id : FrameId) (change : Frame → Frame) : Store :=
  { store with frames := store.frames.modify id change }

@[simp] lemma alter_size (store : Store) (id : FrameId) (change : Frame → Frame) :
    (store.alter id change).frames.size = store.frames.size := by
  simp [alter]

lemma frame_alter {store : Store} {id : FrameId} (change : Frame → Frame)
    (h : id < store.frames.size) (visited : FrameId) :
    (store.alter id change).frame visited
      = if visited = id then change (store.frame id) else store.frame visited := by
  by_cases hvisited : visited = id
  · subst hvisited
    simp [alter, Store.frame, Array.getD_eq_getD_getElem?, Array.getElem_modify, h]
  · simp [alter, Store.frame, Array.getD_eq_getD_getElem?, Array.getElem?_modify, hvisited,
      Ne.symm hvisited]

/-- Where the same prototypes are found, and these have the same bindings, messages find the same
handlers. -/
lemma findHandler_congr {store store' : Store} {id id' : FrameId}
    (hprototypes : ∀ tag, store.findPrototype id tag = store'.findPrototype id' tag)
    (hhere : ∀ prototype verb, store.findHere prototype verb = store'.findHere prototype verb)
    (subject : Value) (verb : String) :
    store.findHandler id subject verb = store'.findHandler id' subject verb := by
  have hverb : (store.findHere · verb) = (store'.findHere · verb) :=
    funext fun prototype => hhere prototype verb
  rw [findHandler, findHandler, hprototypes, hverb]

namespace Similar

variable {store store' : Store}

lemma refl (store : Store) : store.Similar store :=
  ⟨rfl, fun _ => rfl, fun _ => rfl, fun _ => rfl, fun _ => rfl⟩

lemma findHere (h : store.Similar store') (id : FrameId) (name : String) :
    store.findHere id name = store'.findHere id name := by
  rw [Store.findHere, Store.findHere, h.bindings]

lemma chain (h : store.Similar store') (id : FrameId) : store.chain id = store'.chain id := by
  induction id using Nat.strongRecOn with
  | ind id ih =>
      rw [Store.chain, Store.chain, h.parent]
      cases (store'.frame id).parent? with
      | none => rfl
      | some parent =>
          by_cases hlt : parent < id
          · simp only [hlt, if_true]
            rw [ih parent hlt]
          · simp only [hlt, if_false]

lemma find (h : store.Similar store') (id : FrameId) (name : String) :
    store.find id name = store'.find id name := by
  rw [Store.find, Store.find, h.chain]
  exact congrArg (List.findSome? · _) (funext fun visited => h.findHere visited name)

lemma findPrototype (h : store.Similar store') (id : FrameId) (tag : Tag) :
    store.findPrototype id tag = store'.findPrototype id tag := by
  rw [Store.findPrototype, Store.findPrototype, h.chain]
  refine congrArg (List.findSome? · _) (funext fun visited => ?_)
  rw [findPrototypeHere, findPrototypeHere, h.prototypes]

/-- Adding frames that differ at most in a closed way up. -/
lemma push (h : store.Similar store') {frame frame' : Frame}
    (hbindings : frame.bindings = frame'.bindings)
    (hprototypes : frame.prototypes = frame'.prototypes) (hleft : frame.left = frame'.left)
    (hparent : frame.parent? = frame'.parent?) :
    (store.push frame).Similar (store'.push frame') := by
  refine ⟨by rw [push_size, push_size, h.size], ?_, ?_, ?_, ?_⟩ <;> intro id <;>
    rw [frame_push, frame_push, h.size] <;> split_ifs
  · exact hbindings
  · exact h.bindings id
  · exact hprototypes
  · exact h.prototypes id
  · exact hleft
  · exact h.left id
  · exact hparent
  · exact h.parent id

end Similar

/-! ## Frames that agree -/

/-- Two frames with the same frame to the left, the same prototypes and the same values for the
names that are seen. -/
structure Agree (store : Store) (id : FrameId) (store' : Store) (id' : FrameId)
    (seen : String → Prop) : Prop where
  similar : store.Similar store'
  left : (store.frame id).left = (store'.frame id').left
  prototypes : ∀ tag, store.findPrototype id tag = store'.findPrototype id' tag
  names : ∀ name, seen name → store.find id name = store'.find id' name

namespace Agree

variable {store store' : Store} {id id' : FrameId} {seen seen' : String → Prop}

lemma refl (store : Store) (id : FrameId) (seen : String → Prop) :
    store.Agree id store id seen :=
  ⟨.refl store, rfl, fun _ => rfl, fun _ _ => rfl⟩

/-- Frames that agree on some names agree on fewer. -/
lemma mono (h : store.Agree id store' id' seen) (hseen : ∀ name, seen' name → seen name) :
    store.Agree id store' id' seen' :=
  ⟨h.similar, h.left, h.prototypes, fun name hname => h.names name (hseen name hname)⟩

/-- Frames that agree find the same handlers. -/
lemma findHandler (h : store.Agree id store' id' seen) (subject : Value) (verb : String) :
    store.findHandler id subject verb = store'.findHandler id' subject verb :=
  findHandler_congr h.prototypes h.similar.findHere subject verb

end Agree

/-- **Deliveries look the same.**  What is bound in the frame of a send cannot be seen where the
message is delivered: all that is taken over from it is the frame to the left. -/
lemma agree_delivery {store store' : Store} {id id' : FrameId} (hsimilar : store.Similar store')
    (hleft : (store.frame id).left = (store'.frame id').left) (subject object : Value)
    (seen : String → Prop) :
    (store.push (store.delivery id subject object)).Agree store.frames.size
      (store'.push (store'.delivery id' subject object)) store'.frames.size seen := by
  have hpushed : (store.push (store.delivery id subject object)).Similar
      (store'.push (store'.delivery id' subject object)) :=
    hsimilar.push rfl rfl hleft hleft
  refine ⟨hpushed, ?_, fun tag => ?_, fun name _ => ?_⟩
  · rw [frame_push_size, frame_push_size]
    exact hleft
  · rw [hpushed.findPrototype, hsimilar.size]
  · rw [hpushed.find, hsimilar.size]

end Missive.Store
