import Mathlib.Tactic.Lemma
import Missive.Frame.Prototype

/-!
# Lookup in a growing store

Frames are only ever added at the end of a store, and the chain of a frame runs through older
frames.  Hence a new frame changes no lookup that starts in an old one (`Store.find_push`,
`Store.findPrototype_push`), and a lookup that starts in the new frame looks there first and then
goes on as if it had started in its parent (`Store.find_push_size`,
`Store.findPrototype_push_size`).

`Store.replyTo` reads off a frame which built-in reply a verb has for a type.  It is all that
sending a message takes from the prototypes.
-/

namespace Missive

namespace Store

/-- The store with one more frame, whose number is the old size. -/
def push (store : Store) (frame : Frame) : Store :=
  { store with frames := store.frames.push frame }

@[simp] lemma push_size (store : Store) (frame : Frame) :
    (store.push frame).frames.size = store.frames.size + 1 := by
  simp [push]

lemma frame_push_of_lt {store : Store} {id : FrameId} (frame : Frame)
    (h : id < store.frames.size) : (store.push frame).frame id = store.frame id := by
  simp [push, Store.frame, Array.getD_eq_getD_getElem?, Array.getElem?_push, Nat.ne_of_lt h]

@[simp] lemma frame_push_size (store : Store) (frame : Frame) :
    (store.push frame).frame store.frames.size = frame := by
  simp [push, Store.frame, Array.getD_eq_getD_getElem?]

/-! ## The chain of a frame -/

/-- The chain of an old frame does not see a new one. -/
lemma chain_push {store : Store} {id : FrameId} (frame : Frame) (h : id < store.frames.size) :
    (store.push frame).chain id = store.chain id := by
  induction id using Nat.strongRecOn with
  | ind id ih =>
      rw [chain, chain, frame_push_of_lt frame h]
      cases hparent : (store.frame id).parent? with
      | none => rfl
      | some parent =>
          by_cases hlt : parent < id
          · simp only [hlt, if_true]
            rw [ih parent hlt (Nat.lt_trans hlt h)]
          · simp only [hlt, if_false]

/-- Every frame on the chain of a frame is as old as that frame or older. -/
lemma le_of_mem_chain {store : Store} {id visited : FrameId} (h : visited ∈ store.chain id) :
    visited ≤ id := by
  induction id using Nat.strongRecOn with
  | ind id ih =>
      rw [chain, List.mem_cons] at h
      rcases h with rfl | h
      · exact Nat.le_refl _
      · split at h
        · split at h
          · rename_i parent _ hlt
            exact Nat.le_of_lt (Nat.lt_of_le_of_lt (ih parent hlt h) hlt)
          · exact absurd h List.not_mem_nil
        · exact absurd h List.not_mem_nil

/-- A new frame with a parent that is there already comes before the chain of its parent. -/
lemma chain_push_size {store : Store} {frame : Frame} {parent : FrameId}
    (hparent : frame.parent? = some parent) (hlt : parent < store.frames.size) :
    (store.push frame).chain store.frames.size
      = store.frames.size :: store.chain parent := by
  rw [chain, frame_push_size, hparent]
  simp only [hlt, if_true]
  rw [chain_push frame hlt]

/-! ## Lookups -/

lemma findHere_push {store : Store} {id : FrameId} (frame : Frame) (name : String)
    (h : id < store.frames.size) :
    (store.push frame).findHere id name = store.findHere id name := by
  rw [findHere, findHere, frame_push_of_lt frame h]

/-- A lookup along a chain of old frames does not see a new one. -/
lemma findSome?_chain_push {α : Type} {store : Store} {id : FrameId} (frame : Frame)
    (look : Frame → Option α) (h : id < store.frames.size) :
    ((store.push frame).chain id).findSome? (fun visited => look ((store.push frame).frame visited))
      = (store.chain id).findSome? fun visited => look (store.frame visited) := by
  have hframes : (store.chain id).map (store.push frame).frame = (store.chain id).map store.frame :=
    List.map_congr_left fun visited hvisited =>
      frame_push_of_lt frame (Nat.lt_of_le_of_lt (le_of_mem_chain hvisited) h)
  have hmap : ∀ (l : List FrameId) (frames : FrameId → Frame),
      l.findSome? (fun visited => look (frames visited)) = (l.map frames).findSome? look :=
    fun _ _ => List.findSome?_map.symm
  rw [chain_push frame h, hmap, hmap, hframes]

lemma find_push {store : Store} {id : FrameId} (frame : Frame) (name : String)
    (h : id < store.frames.size) : (store.push frame).find id name = store.find id name :=
  findSome?_chain_push frame (fun frame => frame.bindings.lookup name) h

lemma findPrototype_push {store : Store} {id : FrameId} (frame : Frame) (tag : Tag)
    (h : id < store.frames.size) :
    (store.push frame).findPrototype id tag = store.findPrototype id tag :=
  findSome?_chain_push frame (fun frame => frame.prototypes.lookup tag) h

lemma find_push_size {store : Store} {frame : Frame} {parent : FrameId} (name : String)
    (hparent : frame.parent? = some parent) (hlt : parent < store.frames.size) :
    (store.push frame).find store.frames.size name
      = (frame.bindings.lookup name).or (store.find parent name) := by
  rw [← find_push frame name hlt, find, find, chain_push_size hparent hlt,
    chain_push frame hlt, List.findSome?_cons, findHere, frame_push_size]
  cases frame.bindings.lookup name <;> rfl

lemma findPrototype_push_size {store : Store} {frame : Frame} {parent : FrameId} (tag : Tag)
    (hparent : frame.parent? = some parent) (hlt : parent < store.frames.size) :
    (store.push frame).findPrototype store.frames.size tag
      = (frame.prototypes.lookup tag).or (store.findPrototype parent tag) := by
  rw [← findPrototype_push frame tag hlt, findPrototype, findPrototype,
    chain_push_size hparent hlt, chain_push frame hlt, List.findSome?_cons, findPrototypeHere,
    frame_push_size]
  cases frame.prototypes.lookup tag <;> rfl

end Store

end Missive
