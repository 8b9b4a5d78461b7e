import Mathlib.Tactic.SplitIfs
import Missive.Eval.Send
import Missive.Program
import Missive.Proofs.Frame.Lookup
import Missive.Proofs.Eval.Interpreter

/-!
# Frames with the built-in prototypes

A value takes a verb through two tables: the prototype of its type in the frame, and the handler of
the verb in the prototype.  `Store.replyTo` reads both at once, and `Tag.reply?` is what the
built-in tables say.  They agree in three kinds of frames.

* `Store.Grounded`: an outer frame that binds no names, such as the one that `Store.addRoot` puts
  the prototypes into.
* `Store.Sees`: a frame to the right of a grounded one in which exactly the names of a scope are
  bound.  The root frame of a program is one of them, with the empty scope
  (`Store.sees_addRoot`).
* The frame for a delivery, with the scope of the delivery (`Store.Sees.delivery`).
-/

namespace Missive

/-- The reply of a built-in type to a verb. -/
def Tag.reply? (tag : Tag) (verb : String) : Option Reply :=
  tag.replies?.bind (·.lookup verb)

/-- The reply of a value that is a handler. -/
def Value.reply? : Value → Option Reply
  | .handler made => some made.reply
  | _ => none

namespace Store

/-- The reply that the values of a type have for a verb in a frame. -/
def replyTo (store : Store) (id : FrameId) (tag : Tag) (verb : String) : Option Reply :=
  ((store.findPrototype id tag).bind (store.findHere · verb)).bind Value.reply?

/-- In the frame the values of a type have their built-in replies. -/
def Equipped (store : Store) (id : FrameId) (tag : Tag) : Prop :=
  ∀ verb, store.replyTo id tag verb = tag.reply? verb

/-- A frame that binds no names and in which every type has its built-in replies. -/
structure Grounded (store : Store) (id : FrameId) : Prop where
  lt : id < store.frames.size
  names : ∀ name, store.find id name = none
  existing : ∀ tag prototype, store.findPrototype id tag = some prototype →
    prototype < store.frames.size
  replies : ∀ tag verb, store.replyTo id tag verb = tag.reply? verb

/-- A frame in which the names of a scope are bound and no others, and every type has its built-in
replies; and the frame to the left of it is grounded. -/
structure Sees (store : Store) (id : FrameId) (scope : Scope) : Prop where
  home : ∃ home, (store.frame id).left = some home ∧ store.Grounded home
  names : ∀ name, store.find id name = scope.find? name
  replies : ∀ tag verb, store.replyTo id tag verb = tag.reply? verb

/-! ## New frames -/

/-- The replies in an old frame do not depend on a new one. -/
lemma replyTo_push {store : Store} {id : FrameId} (frame : Frame) (tag : Tag) (verb : String)
    (h : id < store.frames.size)
    (hexisting : ∀ prototype, store.findPrototype id tag = some prototype →
      prototype < store.frames.size) :
    (store.push frame).replyTo id tag verb = store.replyTo id tag verb := by
  rw [replyTo, replyTo, findPrototype_push frame tag h]
  cases hprototype : store.findPrototype id tag with
  | none => rfl
  | some prototype =>
      rw [Option.bind_some, Option.bind_some, findHere_push frame verb (hexisting _ hprototype)]

lemma Grounded.push {store : Store} {id : FrameId} (h : store.Grounded id) (frame : Frame) :
    (store.push frame).Grounded id where
  lt := by rw [push_size]; exact Nat.lt_succ_of_lt h.lt
  names name := by rw [find_push frame name h.lt]; exact h.names name
  existing tag prototype hprototype := by
    rw [findPrototype_push frame tag h.lt] at hprototype
    rw [push_size]
    exact Nat.lt_succ_of_lt (h.existing tag prototype hprototype)
  replies tag verb := by
    rw [replyTo_push frame tag verb h.lt (h.existing tag)]
    exact h.replies tag verb

section Child

variable {store : Store} {frame : Frame} {home : FrameId}

/-- A new frame without prototypes of its own has those of its parent. -/
lemma findPrototype_child (h : store.Grounded home) (hparent : frame.parent? = some home)
    (hprototypes : frame.prototypes = []) (tag : Tag) :
    (store.push frame).findPrototype store.frames.size tag
      = (store.push frame).findPrototype home tag := by
  rw [findPrototype_push_size tag hparent h.lt, findPrototype_push frame tag h.lt, hprototypes]
  rfl

/-- A new frame without prototypes of its own has the replies of its parent. -/
lemma replyTo_child (h : store.Grounded home) (hparent : frame.parent? = some home)
    (hprototypes : frame.prototypes = []) (tag : Tag) (verb : String) :
    (store.push frame).replyTo store.frames.size tag verb = tag.reply? verb := by
  rw [replyTo, findPrototype_child h hparent hprototypes]
  exact (h.push frame).replies tag verb

/-- A new frame below or to the right of a grounded one is grounded. -/
lemma Grounded.child (h : store.Grounded home) (hparent : frame.parent? = some home)
    (hbindings : frame.bindings = []) (hprototypes : frame.prototypes = []) :
    (store.push frame).Grounded store.frames.size where
  lt := by rw [push_size]; exact Nat.lt_succ_self _
  names name := by
    rw [find_push_size name hparent h.lt, hbindings, h.names]
    rfl
  existing tag prototype hprototype := by
    rw [findPrototype_child h hparent hprototypes] at hprototype
    exact (h.push frame).existing tag prototype hprototype
  replies := replyTo_child h hparent hprototypes

end Child

/-- In the frame for a delivery `it` is the subject and `that` the operand, and nothing else is
bound: the way up is closed, and the frame to the left binds no names. -/
lemma Sees.delivery {store : Store} {id : FrameId} {scope : Scope} (h : store.Sees id scope)
    (subject object : Value) :
    (store.push (store.delivery id subject object)).Sees store.frames.size
      (some (subject, object)) := by
  obtain ⟨home, hleft, hhome⟩ := h.home
  have hparent : (store.delivery id subject object).parent? = some home := hleft
  refine ⟨⟨home, ?_, hhome.push _⟩, fun name => ?_, replyTo_child hhome hparent rfl⟩
  · rw [frame_push_size]
    exact hleft
  · rw [find_push_size name hparent hhome.lt, hhome.names, Option.or_none]
    by_cases hit : name = "it"
    · subst hit
      rfl
    · by_cases hthat : name = "that"
      · subst hthat
        rfl
      · have hbindings : (store.delivery id subject object).bindings.lookup name = none := by
          rw [List.lookup_eq_none_iff]
          intro binding hbinding
          simp only [Store.delivery, Frame.bind, Store.down, List.mem_cons, List.not_mem_nil,
            or_false] at hbinding
          rcases hbinding with rfl | rfl
          · simpa using hthat
          · simpa using hit
        rw [hbindings, Scope.find?, if_neg hit, if_neg hthat]

/-! ## The root frame -/

/-- The outermost frame while the prototypes are put into it: so far the types in the list have
theirs. -/
structure Stocked (store : Store) (id : FrameId) (tags : List Tag) : Prop where
  lt : id < store.frames.size
  bindings : (store.frame id).bindings = []
  parent : (store.frame id).parent? = none
  existing : ∀ tag prototype, store.findPrototypeHere id tag = some prototype →
    prototype < store.frames.size
  replies : ∀ tag verb,
    ((store.findPrototypeHere id tag).bind (store.findHere · verb)).bind Value.reply?
      = if tag ∈ tags then tag.reply? verb else none

/-- A frame without a parent is all of its chain. -/
lemma chain_of_parent?_eq_none {store : Store} {id : FrameId}
    (h : (store.frame id).parent? = none) : store.chain id = [id] := by
  rw [chain, h]

/-- Once all types have their prototypes the frame is grounded. -/
lemma Stocked.grounded {store : Store} {id : FrameId} {tags : List Tag}
    (h : store.Stocked id tags) (hall : ∀ tag, tag ∈ tags) : store.Grounded id := by
  have hchain := chain_of_parent?_eq_none h.parent
  have hprototype : ∀ tag, store.findPrototype id tag = store.findPrototypeHere id tag := by
    intro tag
    rw [findPrototype, hchain, List.findSome?_singleton]
  refine ⟨h.lt, fun name => ?_, fun tag prototype hfound => ?_, fun tag verb => ?_⟩
  · rw [find, hchain, List.findSome?_singleton, findHere, h.bindings]
    rfl
  · exact h.existing tag prototype (hprototype tag ▸ hfound)
  · rw [replyTo, hprototype, h.replies, if_pos (hall tag)]

/-- The verbs of a type are all different. -/
lemma replies?_nodup {tag : Tag} {replies : List (String × Reply)}
    (h : tag.replies? = some replies) : (replies.map Prod.fst).Nodup := by
  cases tag <;> cases h <;> decide

/-- Where no key is repeated the order of the entries does not matter to a lookup. -/
lemma lookup_reverse {α : Type} (key : String) :
    ∀ entries : List (String × α), (entries.map Prod.fst).Nodup →
      entries.reverse.lookup key = entries.lookup key
  | [], _ => rfl
  | (first, a) :: entries, h => by
      rw [List.map_cons, List.nodup_cons] at h
      rw [List.reverse_cons, List.lookup_append, lookup_reverse key entries h.2]
      by_cases hkey : key = first
      · subst hkey
        have hnone : entries.lookup key = none := by
          rw [List.lookup_eq_none_iff]
          intro entry hentry
          rw [bne_iff_ne]
          rintro rfl
          exact h.1 (List.mem_map.mpr ⟨entry, hentry, rfl⟩)
        simp [hnone]
      · have hfalse : (key == first) = false := beq_eq_false_iff_ne.mpr hkey
        simp only [List.lookup_cons, hfalse, List.lookup_nil, Option.or_none]

/-- Handlers are made for verbs and replies one by one, and making them changes no frame. -/
lemma mapM_addHandler (replies : List (String × Reply)) :
    ∀ store : Store, ∃ handlers stamps,
      (replies.mapM fun reply => addHandler reply.1 reply.2).run store
          = (handlers, { store with stamps := stamps })
        ∧ handlers.map (fun handler => (handler.verb, handler.reply)) = replies := by
  induction replies with
  | nil => exact fun store => ⟨[], store.stamps, rfl, rfl⟩
  | cons reply replies ih =>
      intro store
      obtain ⟨handlers, stamps, hrun, hhandlers⟩ := ih { store with stamps := store.stamps + 1 }
      refine ⟨⟨reply.1, reply.2, store.stamps⟩ :: handlers, stamps, ?_, ?_⟩
      · rw [List.mapM_cons, StateT.run_bind]
        change StateT.run (Bind.bind _ _) { store with stamps := store.stamps + 1 } = _
        rw [StateT.run_bind, hrun]
        rfl
      · rw [List.map_cons, hhandlers]

/-- A prototype is one new frame, which replies as its type does. -/
lemma addPrototypeOf?_run {tag : Tag} {replies : List (String × Reply)}
    (h : tag.replies? = some replies) (store : Store) :
    ∃ prototype stamps,
      (addPrototypeOf? tag).run store
          = (some store.frames.size, ⟨store.frames.push prototype, stamps⟩)
        ∧ ∀ verb, (prototype.bindings.lookup verb).bind Value.reply? = tag.reply? verb := by
  obtain ⟨handlers, stamps, hrun, hhandlers⟩ := mapM_addHandler replies store
  refine ⟨{ bindings := (handlers.map fun handler => (handler.verb, .handler handler)).reverse },
    stamps, ?_, fun verb => ?_⟩
  · rw [addPrototypeOf?, h]
    change StateT.run (Bind.bind _ _) store = _
    rw [StateT.run_bind, hrun]
    rfl
  · have hnodup : (handlers.map Handler.verb).Nodup := by
      have := replies?_nodup h
      rwa [← hhandlers, List.map_map] at this
    have hlookup : ∀ handlers : List Handler,
        ((handlers.map fun handler => (handler.verb, Value.handler handler)).lookup verb).bind
            Value.reply?
          = (handlers.map fun handler => (handler.verb, handler.reply)).lookup verb := by
      intro handlers
      induction handlers with
      | nil => rfl
      | cons handler handlers ih =>
          rw [List.map_cons, List.map_cons, List.lookup_cons, List.lookup_cons]
          cases verb == handler.verb with
          | true => rfl
          | false => exact ih
    rw [lookup_reverse verb _ (by rwa [List.map_map]), hlookup, hhandlers, Tag.reply?, h]
    rfl

/-- Binding the prototype of a type adds the prototype and changes the one frame that it is given
to. -/
lemma bindPrototypeOf_run {tag : Tag} {replies : List (String × Reply)}
    (h : tag.replies? = some replies) {store : Store} {id : FrameId}
    (hlt : id < store.frames.size) :
    ∃ prototype after,
      (bindPrototypeOf id tag).run store = ((), after)
        ∧ after.frames.size = store.frames.size + 1
        ∧ after.frame id = (store.frame id).bindPrototype tag store.frames.size
        ∧ (∀ visited, visited ≠ id → after.frame visited = (store.push prototype).frame visited)
        ∧ ∀ verb, (prototype.bindings.lookup verb).bind Value.reply? = tag.reply? verb := by
  obtain ⟨prototype, stamps, hrun, hprototype⟩ := addPrototypeOf?_run h store
  refine ⟨prototype,
    ⟨(store.frames.push prototype).modify id (·.bindPrototype tag store.frames.size), stamps⟩,
    ?_, by simp, ?_, fun visited hvisited => ?_, hprototype⟩
  · rw [bindPrototypeOf, StateT.run_bind, hrun]
    rfl
  · simp [Store.frame, Array.getD_eq_getD_getElem?, Array.getElem?_modify, Array.getElem?_push,
      hlt, Nat.ne_of_lt hlt]
  · simp [Store.frame, push, Array.getD_eq_getD_getElem?, Array.getElem?_modify, hvisited.symm]

/-- Binding one more prototype keeps what has been bound. -/
lemma Stocked.bindPrototypeOf {store : Store} {id : FrameId} {tags : List Tag}
    (h : store.Stocked id tags) (tag : Tag) :
    ((Store.bindPrototypeOf id tag).run store).2.Stocked id (tag :: tags) := by
  cases hreplies : tag.replies? with
  | none =>
      have hrun : (Store.bindPrototypeOf id tag).run store = ((), store) := by
        rw [Store.bindPrototypeOf, addPrototypeOf?, hreplies]
        rfl
      rw [hrun]
      refine { h with replies := fun other verb => ?_ }
      rw [h.replies]
      by_cases hother : other = tag
      · subst hother
        simp [Tag.reply?, hreplies]
      · simp [hother]
  | some replies =>
      obtain ⟨prototype, after, hrun, hsize, hframe, hothers, hprototype⟩ :=
        bindPrototypeOf_run hreplies h.lt
      have hhere : ∀ other, after.findPrototypeHere id other
          = if other = tag then some store.frames.size else store.findPrototypeHere id other := by
        intro other
        rw [findPrototypeHere, findPrototypeHere, hframe, Frame.bindPrototype, List.lookup_cons]
        by_cases hother : other = tag
        · simp [hother]
        · simp [hother, beq_eq_false_iff_ne.mpr hother]
      have hbindings : ∀ visited, visited < store.frames.size →
          (after.frame visited).bindings = (store.frame visited).bindings := by
        intro visited hvisited
        by_cases hid : visited = id
        · rw [hid, hframe]
          rfl
        · rw [hothers visited hid, frame_push_of_lt prototype hvisited]
      rw [hrun]
      change after.Stocked id (tag :: tags)
      refine ⟨hsize ▸ Nat.lt_succ_of_lt h.lt, (hbindings id h.lt).trans h.bindings,
        by rw [hframe]; exact h.parent, fun other found hfound => ?_, fun other verb => ?_⟩
      · rw [hsize]
        rw [hhere] at hfound
        split_ifs at hfound with hother
        · rw [← Option.some.inj hfound]
          exact Nat.lt_succ_self _
        · exact Nat.lt_succ_of_lt (h.existing other found hfound)
      · rw [hhere]
        by_cases hother : other = tag
        · subst hother
          rw [if_pos rfl, if_pos List.mem_cons_self, Option.bind_some, findHere,
            hothers _ (Nat.ne_of_gt h.lt), frame_push_size]
          exact hprototype verb
        · simp only [List.mem_cons, hother, if_false, false_or]
          rw [← h.replies]
          cases hfound : store.findPrototypeHere id other with
          | none => rfl
          | some found =>
              rw [Option.bind_some, Option.bind_some, findHere, findHere,
                hbindings found (h.existing other found hfound)]

/-- Binding prototypes one after the other. -/
lemma Stocked.forM {id : FrameId} (more : List Tag) :
    ∀ {store : Store} {tags : List Tag}, store.Stocked id tags →
      ((more.forM (Store.bindPrototypeOf id)).run store).2.Stocked id (more.reverse ++ tags) := by
  induction more with
  | nil => exact fun h => h
  | cons tag more ih =>
      intro store tags h
      have hnext := ih (h.bindPrototypeOf tag)
      rw [List.reverse_cons, List.append_assoc]
      exact hnext

/-- The outermost frame of a program has all the built-in prototypes. -/
lemma grounded_forM_all :
    ((Tag.all.forM (bindPrototypeOf 0)).run (push {} {})).2.Grounded 0 := by
  have hempty : (push {} {}).Stocked 0 [] := by
    refine ⟨Nat.zero_lt_one, rfl, rfl, ?_, ?_⟩
    · intro tag prototype hfound
      cases hfound
    · intro tag verb
      rfl
  have hall := hempty.forM Tag.all
  refine hall.grounded fun tag => ?_
  cases tag <;> decide

/-- Whatever is done to the outermost frame, two more frames follow: one to the right of it, and one
below that. -/
lemma run_root_frames (stock : FrameId → StateM Store Unit) (store : Store)
    (hstore : ((stock 0).run (push {} {})).2 = store) :
    StateT.run (do
      let root ← add {}
      stock root
      let written ← add (right root)
      add (down (← get) written)) {}
      = (store.frames.size + 1,
          (store.push (right 0)).push ((store.push (right 0)).down store.frames.size)) := by
  subst hstore
  rw [← push_size _ (right 0)]
  rfl

/-- **The root frame.**  A program starts in a frame without names, in which every type but that of
handlers has its built-in replies and which has a grounded frame to its left. -/
lemma sees_addRoot : (addRoot.run {}).2.Sees (addRoot.run {}).1 none := by
  have hroot := grounded_forM_all
  generalize hstore : ((Tag.all.forM (bindPrototypeOf 0)).run (push {} {})).2 = store at hroot
  rw [addRoot, run_root_frames (fun root => Tag.all.forM (bindPrototypeOf root)) store hstore]
  have hwritten : (store.push (right 0)).Grounded store.frames.size :=
    hroot.child rfl rfl rfl
  have hleft : ((store.push (right 0)).down store.frames.size).left = some 0 := by
    rw [down, frame_push_size]
    rfl
  have hinner :
      ((store.push (right 0)).push ((store.push (right 0)).down store.frames.size)).Grounded
        (store.push (right 0)).frames.size :=
    hwritten.child rfl rfl rfl
  rw [push_size] at hinner
  refine ⟨⟨0, ?_, (hroot.push _).push _⟩, fun name => ?_, hinner.replies⟩
  · rw [← push_size _ (right 0), frame_push_size]
    exact hleft
  · exact hinner.names name

end Store

end Missive
