import Mathlib.Data.List.Nodup
import Missive.Proofs.Frame.Similar
import Missive.Session.Command

/-!
# Lookup against the history

A store of frames is the outcome of what has been done to it: frames were made, and names and types
were bound in them.  What a lookup finds can be read off that history, without any store.

* `History`: what has been done to frames, and `History.store`, the frames that this leaves.
* `History.IsChain`: the frames that a lookup goes through, by how they were made.
* `History.bound?`, `History.given?`: what was bound last in one frame.
* `Records`: what a store shares with its history.  Every action keeps it (`Records.step`), so every
  history has it (`History.records`).
* `lookup_history`: lookups in terms of the history, and what one more binding changes.
-/

namespace Missive

/-! ## Histories -/

/-- What is done to frames.  Frames are known by the order in which they are made. -/
inductive Action
  /-- Makes a frame without parents. -/
  | new (limits : Limits)
  /-- Makes a child of a frame. -/
  | child (direction : Direction) (parent : FrameId) (limits : Limits)
  | bind (id : FrameId) (name : String) (value : Value)
  | bindPrototype (id : FrameId) (tag : Tag) (prototype : FrameId)

/-- How a frame was made. -/
structure Origin where
  up : Option FrameId := none
  left : Option FrameId := none
  limits : Limits := {}

/-- The next frame on a chain: the one up if there is one and the way up is not closed, otherwise
the one to the left if there is one and the way to the left is not closed. -/
def Origin.next? (origin : Origin) : Option FrameId :=
  (if origin.limits.up then none else origin.up).or
    (if origin.limits.left then none else origin.left)

namespace Action

/-- Does it. -/
def run : Action → StateM Store Unit
  | new limits => do
    let _ ← Store.add (limits.apply {})
  | child direction parent limits => do
    let _ ← Store.add (limits.apply (direction.child (← get) parent))
  | bind id name value => Store.bind id name value
  | bindPrototype id tag prototype => Store.bindPrototype id tag prototype

/-- The frames that have to be there before. -/
def mentions : Action → List FrameId
  | new _ => []
  | child _ parent _ => [parent]
  | bind id _ _ => [id]
  | bindPrototype id _ prototype => [id, prototype]

/-- The frame that is made, given those that have been made before. -/
def origin? (made : List Origin) : Action → Option Origin
  | new limits => some { limits }
  | child .down parent limits =>
    some { up := some parent, left := made[parent]?.bind Origin.left, limits }
  | child .right parent limits => some { left := some parent, limits }
  | bind _ _ _ | bindPrototype _ _ _ => none

/-- The value that it binds a name to in a frame. -/
def binds? (id : FrameId) (name : String) : Action → Option Value
  | bind id' name' value => if id' = id ∧ name' = name then some value else none
  | _ => none

/-- The prototype that it gives to a type in a frame. -/
def gives? (id : FrameId) (tag : Tag) : Action → Option FrameId
  | bindPrototype id' tag' prototype => if id' = id ∧ tag' = tag then some prototype else none
  | _ => none

end Action

/-- What has been done to frames, the latest first. -/
abbrev History := List Action

namespace History

/-- The frames that a history leaves. -/
def store : History → Store
  | [] => {}
  | action :: earlier => (action.run.run (store earlier)).2

/-- How the frames were made, in the order in which they were. -/
def origins : History → List Origin
  | [] => []
  | action :: earlier => origins earlier ++ (action.origin? (origins earlier)).toList

/-- Only frames that are there are mentioned. -/
def WellFormed : History → Prop
  | [] => True
  | action :: earlier =>
    (∀ id ∈ action.mentions, id < (origins earlier).length) ∧ WellFormed earlier

/-- The value that a name was bound to last in a frame. -/
def bound? (history : History) (id : FrameId) (name : String) : Option Value :=
  history.findSome? (Action.binds? id name)

/-- The prototype that a type was given last in a frame. -/
def given? (history : History) (id : FrameId) (tag : Tag) : Option FrameId :=
  history.findSome? (Action.gives? id tag)

/-- The next frame on a chain. -/
def next? (history : History) (id : FrameId) : Option FrameId :=
  history.origins[id]?.bind Origin.next?

/-- The chain of a frame: the frame itself, the next frame, the one after that, and so on up to a
frame without a next one. -/
inductive IsChain (history : History) : FrameId → List FrameId → Prop
  | last {id : FrameId} : history.next? id = none → IsChain history id [id]
  | cons {id parent : FrameId} {chain : List FrameId} : history.next? id = some parent →
      IsChain history parent chain → IsChain history id (id :: chain)

end History

/-- Before a frame on a chain there is no frame that has an answer. -/
def Foremost {α : Type} (look : FrameId → Option α) (chain : List FrameId) (id : FrameId) : Prop :=
  ∃ before after, chain = before ++ id :: after ∧ ∀ earlier ∈ before, look earlier = none

lemma getElem?_concat_of_ne {α : Type} {l : List α} {a : α} {i : Nat} (h : i ≠ l.length) :
    (l ++ [a])[i]? = l[i]? := by
  rw [List.getElem?_append]
  split_ifs with hlt
  · rfl
  · rw [List.getElem?_singleton, if_neg (by omega), List.getElem?_eq_none (by omega)]

namespace History

lemma bound?_cons (action : Action) (history : History) (id : FrameId) (name : String) :
    bound? (action :: history) id name = (action.binds? id name).or (history.bound? id name) := by
  rw [bound?, List.findSome?_cons]
  cases action.binds? id name <;> rfl

lemma given?_cons (action : Action) (history : History) (id : FrameId) (tag : Tag) :
    given? (action :: history) id tag = (action.gives? id tag).or (history.given? id tag) := by
  rw [given?, List.findSome?_cons]
  cases action.gives? id tag <;> rfl

end History

/-! ## What is recorded -/

/-- What a store shares with the history that it comes from. -/
structure Records (history : History) (store : Store) : Prop where
  size : store.frames.size = history.origins.length
  findHere : ∀ id name, store.findHere id name = history.bound? id name
  findPrototypeHere : ∀ id tag, store.findPrototypeHere id tag = history.given? id tag
  left : ∀ id, (store.frame id).left = history.origins[id]?.bind Origin.left
  parent : ∀ id, (store.frame id).parent? = history.next? id

namespace Records

variable {history : History} {store : Store} {action : Action}

lemma nil : Records [] {} :=
  ⟨rfl, fun _ _ => rfl, fun _ _ => rfl, fun _ => rfl, fun _ => rfl⟩

/-- Making a frame, in which nothing is bound yet. -/
lemma push (h : Records history store) {origin : Origin} {frame : Frame}
    (horigin : action.origin? history.origins = some origin)
    (hbinds : ∀ id name, action.binds? id name = none)
    (hgives : ∀ id tag, action.gives? id tag = none)
    (hbindings : frame.bindings = []) (hprototypes : frame.prototypes = [])
    (hleft : frame.left = origin.left) (hparent : frame.parent? = origin.next?) :
    Records (action :: history) (store.push frame) := by
  have horigins : History.origins (action :: history) = history.origins ++ [origin] := by
    rw [History.origins, horigin, Option.toList_some]
  have hempty : store.frame store.frames.size = {} := by
    simp [Store.frame]
  refine ⟨by simp [horigins, h.size], fun id name => ?_, fun id tag => ?_, fun id => ?_,
    fun id => ?_⟩
  · rw [History.bound?_cons, hbinds, Option.none_or, ← h.findHere, Store.findHere, Store.findHere,
      Store.frame_push]
    split_ifs with hid
    · rw [hid, hempty, hbindings]
    · rfl
  · rw [History.given?_cons, hgives, Option.none_or, ← h.findPrototypeHere,
      Store.findPrototypeHere, Store.findPrototypeHere, Store.frame_push]
    split_ifs with hid
    · rw [hid, hempty, hprototypes]
    · rfl
  · rw [horigins, Store.frame_push]
    split_ifs with hid
    · rw [hid, h.size, hleft]
      simp
    · rw [h.left, getElem?_concat_of_ne (h.size ▸ hid)]
  · rw [History.next?, horigins, Store.frame_push]
    split_ifs with hid
    · rw [hid, h.size, hparent]
      simp
    · rw [h.parent, History.next?, getElem?_concat_of_ne (h.size ▸ hid)]

/-- Binding something in a frame that is there. -/
lemma alter (h : Records history store) {id : FrameId} (hid : id < history.origins.length)
    {change : Frame → Frame} (horigin : action.origin? history.origins = none)
    (hleft : (change (store.frame id)).left = (store.frame id).left)
    (hparent : (change (store.frame id)).parent? = (store.frame id).parent?)
    (hbindings : ∀ name, (change (store.frame id)).bindings.lookup name
      = (action.binds? id name).or (store.findHere id name))
    (hprototypes : ∀ tag, (change (store.frame id)).prototypes.lookup tag
      = (action.gives? id tag).or (store.findPrototypeHere id tag))
    (hothers : ∀ other, other ≠ id →
      (∀ name, action.binds? other name = none) ∧ ∀ tag, action.gives? other tag = none) :
    Records (action :: history) (store.alter id change) := by
  have horigins : History.origins (action :: history) = history.origins := by
    rw [History.origins, horigin, Option.toList_none, List.append_nil]
  have hframe := Store.frame_alter change (h.size ▸ hid)
  refine ⟨by simp [horigins, h.size], fun visited name => ?_, fun visited tag => ?_,
    fun visited => ?_, fun visited => ?_⟩
  · rw [History.bound?_cons, ← h.findHere, Store.findHere, hframe]
    split_ifs with hvisited
    · rw [hvisited, hbindings]
    · rw [(hothers visited hvisited).1, Option.none_or]
      rfl
  · rw [History.given?_cons, ← h.findPrototypeHere, Store.findPrototypeHere, hframe]
    split_ifs with hvisited
    · rw [hvisited, hprototypes]
    · rw [(hothers visited hvisited).2, Option.none_or]
      rfl
  · rw [horigins, ← h.left, hframe]
    split_ifs with hvisited
    · rw [hvisited, hleft]
    · rfl
  · rw [History.next?, horigins, ← History.next?, ← h.parent, hframe]
    split_ifs with hvisited
    · rw [hvisited, hparent]
    · rfl

/-- **One action.**  Whatever is done to frames that are there, the store goes on to share what it
shares with its history. -/
lemma step (h : Records history store)
    (hmentions : ∀ id ∈ action.mentions, id < history.origins.length) :
    Records (action :: history) (action.run.run store).2 := by
  have hparent : ∀ {limits : Limits} {up left : Option FrameId},
      (limits.apply { up, left }).parent? = ({ up, left, limits } : Origin).next? := by
    rintro ⟨_ | _, _ | _⟩ (_ | _) (_ | _) <;> rfl
  have hcons : ∀ {κ ν : Type} [DecidableEq κ] (entries : List (κ × ν)) (key key' : κ) (value : ν),
      ((key, value) :: entries).lookup key'
        = (if key = key' then some value else none).or (entries.lookup key') := by
    intro κ ν _ entries key key' value
    by_cases hkey : key' = key
    · simp [hkey]
    · have hfalse : (key' == key) = false := beq_eq_false_iff_ne.mpr hkey
      simp [List.lookup_cons, hfalse, Ne.symm hkey]
  cases action with
  | new limits =>
      exact h.push rfl (fun _ _ => rfl) (fun _ _ => rfl) rfl rfl rfl hparent
  | child direction parent limits =>
      cases direction with
      | down =>
          refine h.push rfl (fun _ _ => rfl) (fun _ _ => rfl) rfl rfl (h.left parent) ?_
          rw [← h.left parent]
          exact hparent
      | right => exact h.push rfl (fun _ _ => rfl) (fun _ _ => rfl) rfl rfl rfl hparent
  | bind id name value =>
      refine h.alter (hmentions id (by simp [Action.mentions])) rfl rfl rfl (fun key => ?_)
        (fun _ => rfl) fun other hother => ⟨fun key => ?_, fun _ => rfl⟩
      · refine (hcons _ name key value).trans ?_
        simp [Action.binds?, Store.findHere]
      · simp [Action.binds?, Ne.symm hother]
  | bindPrototype id tag prototype =>
      refine h.alter (hmentions id (by simp [Action.mentions])) rfl rfl rfl (fun _ => rfl)
        (fun key => ?_) fun other hother => ⟨fun _ => rfl, fun key => ?_⟩
      · refine (hcons _ tag key prototype).trans ?_
        simp [Action.gives?, Store.findPrototypeHere]
      · simp [Action.gives?, Ne.symm hother]

end Records

namespace History

variable {history : History}

/-- **All actions.**  A store shares with its history what is recorded. -/
lemma records (h : history.WellFormed) : Records history history.store := by
  induction history with
  | nil => exact .nil
  | cons action earlier ih => exact (ih h.2).step h.1

/-! ## Chains -/

/-- The frames that a frame was made from are older than it. -/
lemma origins_older (h : history.WellFormed) {id : FrameId} {origin : Origin}
    (horigin : history.origins[id]? = some origin) :
    (∀ parent ∈ origin.up, parent < id) ∧ ∀ parent ∈ origin.left, parent < id := by
  induction history generalizing id origin with
  | nil => simp [origins] at horigin
  | cons action earlier ih =>
      rw [origins, List.getElem?_append] at horigin
      split_ifs at horigin with hid
      · exact ih h.2 horigin
      · have hmade : action.origin? (origins earlier) = some origin :=
          Option.mem_toList.mp (List.mem_of_getElem? horigin)
        have hmentions : ∀ parent ∈ action.mentions, parent < id :=
          fun parent hparent => Nat.lt_of_lt_of_le (h.1 parent hparent) (Nat.le_of_not_lt hid)
        cases action with
        | new limits =>
            cases hmade
            simp
        | child direction parent limits =>
            have hlt : parent < id := hmentions parent (by simp [Action.mentions])
            cases direction with
            | down =>
                cases hmade
                refine ⟨by simpa using hlt, fun left hleft => ?_⟩
                obtain ⟨origin, horigin, hleft⟩ := Option.bind_eq_some_iff.mp hleft
                exact Nat.lt_trans ((ih h.2 horigin).2 left hleft) hlt
            | right =>
                cases hmade
                simpa using hlt
        | bind _ _ _ | bindPrototype _ _ _ => cases hmade

lemma next?_lt (h : history.WellFormed) {id parent : FrameId}
    (hnext : history.next? id = some parent) : parent < id := by
  obtain ⟨origin, horigin, hparent⟩ := Option.bind_eq_some_iff.mp hnext
  obtain ⟨hup, hleft⟩ := origins_older h horigin
  rw [Origin.next?, Option.or_eq_some_iff] at hparent
  rcases hparent with hparent | ⟨-, hparent⟩
  · split_ifs at hparent
    exact hup parent hparent
  · split_ifs at hparent
    exact hleft parent hparent

/-- The chain that a lookup goes through is the chain by the history. -/
lemma isChain_chain (h : history.WellFormed) (id : FrameId) :
    history.IsChain id (history.store.chain id) := by
  induction id using Nat.strongRecOn with
  | ind id ih =>
      rw [Store.chain, (records h).parent]
      cases hnext : history.next? id with
      | none => exact .last hnext
      | some parent =>
          have hlt := next?_lt h hnext
          simp only [hlt, if_true]
          exact .cons hnext (ih parent hlt)

lemma IsChain.unique {id : FrameId} {chain chain' : List FrameId} (h : history.IsChain id chain)
    (h' : history.IsChain id chain') : chain = chain' := by
  induction h generalizing chain' with
  | last hnone =>
      cases h' with
      | last _ => rfl
      | cons hnext _ => simp [hnone] at hnext
  | cons hnext _ ih =>
      cases h' with
      | last hnone => simp [hnone] at hnext
      | cons hnext' hchain =>
          obtain rfl := Option.some.inj (hnext.symm.trans hnext')
          rw [ih hchain]

/-- On a chain every frame is older than the one before it. -/
lemma IsChain.pairwise (h : history.WellFormed) {id : FrameId} {chain : List FrameId}
    (hchain : history.IsChain id chain) :
    chain.Pairwise (· > ·) ∧ ∀ visited ∈ chain, visited ≤ id := by
  induction hchain with
  | last _ => simp
  | @cons id parent chain hnext _ ih =>
      have hlt := next?_lt h hnext
      refine ⟨List.pairwise_cons.mpr ⟨fun visited hvisited => ?_, ih.1⟩, ?_⟩
      · exact Nat.lt_of_le_of_lt (ih.2 visited hvisited) hlt
      · rintro visited hvisited
        rcases List.mem_cons.mp hvisited with rfl | hvisited
        · exact Nat.le_refl _
        · exact Nat.le_of_lt (Nat.lt_of_le_of_lt (ih.2 visited hvisited) hlt)

lemma IsChain.nodup (h : history.WellFormed) {id : FrameId} {chain : List FrameId}
    (hchain : history.IsChain id chain) : chain.Nodup :=
  (hchain.pairwise h).1.imp Nat.ne_of_gt

/-- An action that makes no frame leaves all chains as they are. -/
lemma IsChain.cons_action {action : Action} (haction : action.origin? (origins history) = none)
    {id : FrameId} {chain : List FrameId} (h : history.IsChain id chain) :
    IsChain (action :: history) id chain := by
  have hnext : next? (action :: history) = history.next? := by
    funext id
    rw [next?, next?, origins, haction, Option.toList_none, List.append_nil]
  induction h with
  | last hnone => exact .last (hnext ▸ hnone)
  | cons hparent _ ih => exact .cons (hnext ▸ hparent) ih

/-! ## Lookups -/

variable {id : FrameId} {chain : List FrameId}

lemma find_store (h : history.WellFormed) (hchain : history.IsChain id chain) (name : String) :
    history.store.find id name = chain.findSome? (history.bound? · name) := by
  rw [Store.find, (isChain_chain h id).unique hchain]
  exact congrArg (List.findSome? · chain) (funext fun visited => (records h).findHere visited name)

lemma findPrototype_store (h : history.WellFormed) (hchain : history.IsChain id chain)
    (tag : Tag) :
    history.store.findPrototype id tag = chain.findSome? (history.given? · tag) := by
  rw [Store.findPrototype, (isChain_chain h id).unique hchain]
  exact congrArg (List.findSome? · chain)
    (funext fun visited => (records h).findPrototypeHere visited tag)

end History

/-! ## One more binding -/

section Foremost

variable {α : Type} {look : FrameId → Option α} {chain : List FrameId} {id : FrameId}

/-- A new answer in the foremost place is the one that is found. -/
lemma Foremost.findSome?_update (h : Foremost look chain id) (hchain : chain.Nodup) (a : α) :
    chain.findSome? (fun visited => if visited = id then some a else look visited) = some a := by
  obtain ⟨before, after, rfl, hbefore⟩ := h
  have hskip : before.findSome? (fun visited => if visited = id then some a else look visited)
      = none := by
    rw [List.findSome?_eq_none_iff]
    intro visited hvisited
    have hne : visited ≠ id := by
      rintro rfl
      exact (List.nodup_append.mp hchain).2.2 visited hvisited visited List.mem_cons_self rfl
    rw [if_neg hne, hbefore visited hvisited]
  simp [List.findSome?_append, hskip]

/-- A new answer elsewhere is not found. -/
lemma findSome?_update_of_not_foremost (h : ¬ Foremost look chain id) (hchain : chain.Nodup)
    (a : α) :
    chain.findSome? (fun visited => if visited = id then some a else look visited)
      = chain.findSome? look := by
  have hcongr : ∀ visits : List FrameId, id ∉ visits →
      visits.findSome? (fun visited => if visited = id then some a else look visited)
        = visits.findSome? look := by
    intro visits hid
    induction visits with
    | nil => rfl
    | cons first visits ih =>
        obtain ⟨hfirst, hvisits⟩ := not_or.mp (List.mem_cons.not.mp hid)
        rw [List.findSome?_cons, List.findSome?_cons, if_neg (Ne.symm hfirst), ih hvisits]
  by_cases hid : id ∈ chain
  · obtain ⟨before, after, rfl⟩ := List.append_of_mem hid
    have hbefore : id ∉ before := fun hmem =>
      (List.nodup_append.mp hchain).2.2 id hmem id List.mem_cons_self rfl
    have hfound : ∃ found, before.findSome? look = some found := by
      rw [← Option.ne_none_iff_exists', ne_eq, List.findSome?_eq_none_iff]
      exact fun hnone => h ⟨before, after, rfl, hnone⟩
    obtain ⟨found, hfound⟩ := hfound
    rw [List.findSome?_append, List.findSome?_append, hcongr before hbefore, hfound]
    rfl
  · exact hcongr chain hid

end Foremost

namespace History

variable {history : History} {id changed : FrameId} {chain : List FrameId} {name : String}

/-- Binding a name in a frame changes what is found along a chain as if the frame alone had a new
answer for the name. -/
lemma find_bind (h : history.WellFormed) (hchain : history.IsChain id chain)
    (hchanged : changed < history.origins.length) (value : Value) (key : String) :
    (store (.bind changed name value :: history)).find id key
      = chain.findSome? fun visited =>
          if visited = changed ∧ key = name then some value else history.bound? visited key := by
  have hwell : WellFormed (.bind changed name value :: history) :=
    ⟨by simpa [Action.mentions] using hchanged, h⟩
  rw [find_store hwell (hchain.cons_action rfl)]
  refine congrArg (List.findSome? · chain) (funext fun visited => ?_)
  rw [bound?_cons, Action.binds?]
  by_cases hhere : visited = changed ∧ key = name
  · simp [hhere]
  · rw [if_neg hhere, if_neg fun hthere => hhere ⟨hthere.1.symm, hthere.2.symm⟩, Option.none_or]

/-- What a lookup that begins in a frame finds, by the history and the chain of the frame. -/
structure FindsAlong (history : History) (id : FrameId) (chain : List FrameId) : Prop where
  find : ∀ name, history.store.find id name = chain.findSome? (history.bound? · name)
  findHere : ∀ name, history.store.findHere id name = history.bound? id name
  findPrototype : ∀ tag, history.store.findPrototype id tag = chain.findSome? (history.given? · tag)
  findPrototypeHere : ∀ tag, history.store.findPrototypeHere id tag = history.given? id tag

/-- What binding a name in a frame that is there changes for a lookup that begins in a frame with
the given chain. -/
structure BindingShows (history : History) (id : FrameId) (chain : List FrameId)
    (changed : FrameId) (name : String) (value : Value) : Prop where
  /-- It changes the answer for the name only, and only if no frame before it has one. -/
  foremost : ∀ key, (store (.bind changed name value :: history)).find id key
      ≠ history.store.find id key → key = name ∧ Foremost (history.bound? · name) chain changed
  /-- Then the value is found. -/
  found : Foremost (history.bound? · name) chain changed →
    (store (.bind changed name value :: history)).find id name = some value
  findPrototype : ∀ tag, (store (.bind changed name value :: history)).findPrototype id tag
    = history.store.findPrototype id tag
  findPrototypeHere : ∀ tag, (store (.bind changed name value :: history)).findPrototypeHere id tag
    = history.store.findPrototypeHere id tag

lemma bindingShows (h : history.WellFormed) (hchain : history.IsChain id chain)
    (hchanged : changed < history.origins.length) (name : String) (value : Value) :
    history.BindingShows id chain changed name value := by
  have hwell : WellFormed (.bind changed name value :: history) :=
    ⟨by simpa [Action.mentions] using hchanged, h⟩
  have hgiven : given? (.bind changed name value :: history) = history.given? := by
    funext visited tag
    rw [given?_cons]
    rfl
  have hnodup := hchain.nodup h
  refine ⟨fun key hne => ?_, fun hforemost => ?_, fun tag => ?_, fun tag => ?_⟩
  · rw [find_bind h hchain hchanged, find_store h hchain] at hne
    by_cases hkey : key = name
    · subst hkey
      refine ⟨rfl, ?_⟩
      by_contra hforemost
      simp only [and_true] at hne
      exact hne (findSome?_update_of_not_foremost hforemost hnodup value)
    · simp [hkey] at hne
  · rw [find_bind h hchain hchanged]
    simpa using hforemost.findSome?_update hnodup value
  · rw [findPrototype_store hwell (hchain.cons_action rfl), findPrototype_store h hchain, hgiven]
  · rw [(records hwell).findPrototypeHere, (records h).findPrototypeHere, hgiven]

/-- Giving a type a prototype changes no lookup of a name. -/
lemma find_bindPrototype (h : history.WellFormed) (hchain : history.IsChain id chain)
    {prototype : FrameId} (hchanged : changed < history.origins.length)
    (hprototype : prototype < history.origins.length) (tag : Tag) (name : String) :
    (store (.bindPrototype changed tag prototype :: history)).find id name
        = history.store.find id name ∧
      (store (.bindPrototype changed tag prototype :: history)).findHere id name
        = history.store.findHere id name := by
  have hwell : WellFormed (.bindPrototype changed tag prototype :: history) :=
    ⟨by simpa [Action.mentions] using ⟨hchanged, hprototype⟩, h⟩
  have hbound : bound? (.bindPrototype changed tag prototype :: history) = history.bound? := by
    funext visited key
    rw [bound?_cons]
    rfl
  constructor
  · rw [find_store hwell (hchain.cons_action rfl), find_store h hchain, hbound]
  · rw [(records hwell).findHere, (records h).findHere, hbound]

end History

/-- **Lookups by the history.**  Every frame has one chain, and no frame is on it twice.  A lookup
finds what was bound last in the first frame of the chain in which anything was bound, or in the
frame alone if it does not go on.  Hence binding a name changes only lookups of that name, and only
those whose chain comes to the frame before any other frame that binds it; and names and types do
not interfere. -/
theorem lookup_history {history : History} (h : history.WellFormed) (id : FrameId) :
    ∃ chain, history.IsChain id chain ∧
      (∀ other, history.IsChain id other → other = chain) ∧
      chain.Nodup ∧
      history.FindsAlong id chain ∧
      (∀ changed < history.origins.length, ∀ name value,
        history.BindingShows id chain changed name value) ∧
      ∀ changed < history.origins.length, ∀ prototype < history.origins.length, ∀ tag name,
        (History.store (.bindPrototype changed tag prototype :: history)).find id name
            = history.store.find id name ∧
          (History.store (.bindPrototype changed tag prototype :: history)).findHere id name
            = history.store.findHere id name := by
  have hchain := History.isChain_chain h id
  refine ⟨_, hchain, fun other hother => hother.unique hchain, hchain.nodup h, ?_, ?_, ?_⟩
  · exact ⟨History.find_store h hchain, (History.records h).findHere id,
      History.findPrototype_store h hchain, (History.records h).findPrototypeHere id⟩
  · exact fun changed hchanged name value => History.bindingShows h hchain hchanged name value
  · exact fun changed hchanged prototype hprototype tag name =>
      History.find_bindPrototype h hchain hchanged hprototype tag name

/-- Three frames: one to the right of the first, and one below that with the way up closed.  Both
the first and the second bind `x`, the first once more after the third was made; and the integers
of the first have the first as their own prototype. -/
def shadowingHistory : History :=
  [.bind 0 "x" (.integer 3), .bindPrototype 0 .integer 0, .child .down 1 { up := true },
    .bind 1 "x" (.integer 2), .child .right 0 {}, .bind 0 "x" (.integer 1), .new {}]

lemma wellFormed_shadowingHistory : shadowingHistory.WellFormed := by
  simp [shadowingHistory, History.WellFormed, Action.mentions, History.origins, Action.origin?]

lemma isChain_shadowingHistory : shadowingHistory.IsChain 2 [2, 0] :=
  .cons rfl (.last rfl)

/-- From the third frame `x` is found in the first, with its later value.  Another value of `x` in
the second frame is not seen from there, and one in the first is. -/
theorem lookup_history_shadowingHistory :
    shadowingHistory.WellFormed ∧ shadowingHistory.IsChain 2 [2, 0] ∧
      shadowingHistory.store.find 2 "x" = some (.integer 3) ∧
      shadowingHistory.store.findPrototype 2 .integer = some 0 ∧
      (History.store (.bind 1 "x" .nil :: shadowingHistory)).find 2 "x" = some (.integer 3) ∧
      (History.store (.bind 0 "x" .nil :: shadowingHistory)).find 2 "x" = some .nil := by
  obtain ⟨chain, -, hunique, -, hfinds, hbinding, -⟩ :=
    lookup_history wellFormed_shadowingHistory 2
  obtain rfl := hunique _ isChain_shadowingHistory
  have hx : shadowingHistory.store.find 2 "x" = some (.integer 3) := (hfinds.find "x").trans rfl
  refine ⟨wellFormed_shadowingHistory, isChain_shadowingHistory, hx,
    (hfinds.findPrototype .integer).trans rfl, ?_, ?_⟩
  · have hhidden := (hbinding 1 (by decide) "x" .nil).foremost "x"
    by_contra hne
    obtain ⟨-, before, after, hchain, -⟩ := hhidden (hx ▸ hne)
    have hmem : 1 ∈ ([2, 0] : List FrameId) := hchain ▸ by simp
    simp at hmem
  · exact (hbinding 0 (by decide) "x" .nil).found ⟨[2], [], rfl, by simp; rfl⟩

end Missive
