import CycloneddsRs.EntityLifetimes

/-!
What every call and every step of a drop keeps: the library and the Rust values agree about
who owns what, each `Arc` has as many references as its holders keep, and each listener
belongs to one value until it is freed.
-/

namespace CycloneddsRs.LifetimeInvariants
open EntityTree EntityLifetimes StepRuns

/-! ## What a value stands for -/

/-- Kind, listener and parent of a value whose entity it has not deleted yet. -/
def standing (objects : Handle → Option Object) (handle : Handle) :
    Option (Kind × Option Nat × Option Handle) :=
  (objects handle).bind fun object =>
    if object.stage.registered then some (object.kind, object.listener, object.parent) else none

def listenerAt (objects : Handle → Option Object) (handle : Handle) : Option Nat :=
  (objects handle).bind Object.listener

def heldAt (objects : Handle → Option Object) (handle : Handle) : List Handle :=
  ((objects handle).map Object.held).getD []

/-- A value behind an `Arc` whose drop has not begun. -/
def ArcAt (objects : Handle → Option Object) (handle : Handle) : Prop :=
  ∃ object, objects handle = some object ∧ object.kind.shared ∧ object.stage = .owned

def KindAt (entities : Forest Handle Entity) (handle : Handle) (kind : Kind) : Prop :=
  ∃ node, entities.node handle = some node ∧ node.info.kind = kind

/-- A domain or a participant. -/
def RootAt (entities : Forest Handle Entity) (handle : Handle) : Prop :=
  ∃ kind, kind.root = true ∧ KindAt entities handle kind

variable (objects : Handle → Option Object)

theorem restage_other (handle other : Handle) (stage : Stage) (different : other ≠ handle) :
    restage objects handle stage other = objects other :=
  Function.update_of_ne different _ _

theorem restage_self (handle : Handle) (object : Object) (stage : Stage)
    (found : objects handle = some object) :
    restage objects handle stage handle = some { object with stage := stage } := by
  simp [restage, found]

theorem listenerAt_restage (handle other : Handle) (stage : Stage) :
    listenerAt (restage objects handle stage) other = listenerAt objects other := by
  by_cases same : other = handle
  · subst same
    cases found : objects other <;> simp [listenerAt, restage, found]
  · simp [listenerAt, restage_other objects handle other stage same]

theorem standing_restage (handle other : Handle) (object : Object) (stage : Stage)
    (found : objects handle = some object)
    (unchanged : stage.registered = object.stage.registered) :
    standing (restage objects handle stage) other = standing objects other := by
  by_cases same : other = handle
  · subst same
    simp [standing, restage_self objects other object stage found, found, unchanged]
  · simp [standing, restage_other objects handle other stage same]

theorem standing_deleted (handle other : Handle) (stage : Stage)
    (deleted : stage.registered = false) :
    standing (restage objects handle stage) other =
      if other = handle then none else standing objects other := by
  by_cases same : other = handle
  · subst same
    cases found : objects other <;> simp [standing, restage, found, deleted]
  · simp [standing, restage_other objects handle other stage same, same]

theorem heldAt_restage_other (handle other : Handle) (stage : Stage)
    (different : other ≠ handle) :
    heldAt (restage objects handle stage) other = heldAt objects other := by
  simp [heldAt, restage_other objects handle other stage different]

theorem heldAt_restage (handle other : Handle) (object : Object) (stage : Stage)
    (found : objects handle = some object)
    (unchanged : { object with stage := stage }.held = object.held) :
    heldAt (restage objects handle stage) other = heldAt objects other := by
  by_cases same : other = handle
  · subst same
    simp only [heldAt, restage_self objects other object stage found, found, Option.map_some,
      unchanged]
  · exact heldAt_restage_other objects handle other stage same

theorem arcAt_restage (handle other : Handle) (object : Object) (stage : Stage)
    (found : objects handle = some object) (before : object.stage ≠ .owned)
    (after : stage ≠ .owned) :
    ArcAt (restage objects handle stage) other ↔ ArcAt objects other := by
  by_cases same : other = handle
  · subst same
    simp [ArcAt, restage_self objects other object stage found, found, before, after]
  · simp [ArcAt, restage_other objects handle other stage same]

/-! ## The invariants -/

/-- The library and the values agree. A value is among the ancestors of another only as a
domain or participant or as the parent which that one keeps alive. -/
structure Registered (entities : Forest Handle Entity) (issued : Handle → Prop)
    (objects : Handle → Option Object) : Prop where
  tree : WellFormed entities
  given : ∀ handle, entities.Alive handle → issued handle
  fresh : ∀ handle, ¬ issued handle → objects handle = none
  owner : ∀ handle node, entities.node handle = some node → node.info.kind ≠ .readCondition →
    ∃ parent, standing objects handle = some (node.info.kind, node.info.own, parent) ∧
      ∀ ancestor ∈ node.ancestors, RootAt entities ancestor ∨ parent = some ancestor
  condition : ∀ handle node, entities.node handle = some node → node.info.kind = .readCondition →
    objects handle = none ∧ node.info.own = none ∧
      ∃ reader ∈ node.ancestors, KindAt entities reader .reader

/-- Each holder keeps as many references as it should, and what is referenced is there. -/
structure Referenced (objects : Handle → Option Object)
    (references : List (Option Handle × Handle)) : Prop where
  counts : ∀ holder target,
    references.count (some holder, target) = (heldAt objects holder).count target
  arcs : ∀ target, target ∈ references.map Prod.snd ↔ ArcAt objects target

/-- A listener is with one value or has been freed, once. -/
structure Accounted (objects : Handle → Option Object) (nextListener : Nat) (freed : List Nat) :
    Prop where
  kept : ∀ handle listener, listenerAt objects handle = some listener →
    listener < nextListener ∧ listener ∉ freed
  single : ∀ first second listener, listenerAt objects first = some listener →
    listenerAt objects second = some listener → first = second
  bounded : ∀ listener ∈ freed, listener < nextListener
  once : freed.Nodup
  accounted : ∀ listener < nextListener,
    listener ∈ freed ∨ ∃ handle, listenerAt objects handle = some listener

/-- Only endpoints keep others, and every drop that has begun is on a stack. -/
structure Shaped (objects : Handle → Option Object) (unwinding : Nat → List Handle) : Prop where
  endpoints : ∀ handle object, objects handle = some object → object.held ≠ [] →
    object.kind = .reader ∨ object.kind = .writer
  busy : ∀ handle object, objects handle = some object → object.stage ≠ .owned →
    ∃ thread, handle ∈ unwinding thread

structure Consistent {State : Type} (view : View State) (world : World State) : Prop where
  registered : Registered (view.entities world.library) (view.issued world.library) world.objects
  referenced : Referenced world.objects world.references
  accounted : Accounted world.objects world.nextListener world.freed
  shaped : Shaped world.objects world.unwinding

theorem consistent_initial {State : Type} (library : Library State) (view : View State)
    (documented : Documented library view) : Consistent view (World.initial library) where
  registered :=
    { tree := by
        rw [World.initial, documented.empty]
        exact wellFormed_empty
      given := by simp [World.initial, documented.empty, Forest.empty, Forest.Alive]
      fresh := by simp [World.initial]
      owner := by simp [World.initial, documented.empty, Forest.empty]
      condition := by simp [World.initial, documented.empty, Forest.empty] }
  referenced :=
    { counts := by simp [World.initial, heldAt]
      arcs := by simp [World.initial, ArcAt] }
  accounted :=
    { kept := by simp [World.initial, listenerAt]
      single := by simp [World.initial, listenerAt]
      bounded := by simp [World.initial]
      once := by simp [World.initial]
      accounted := by simp [World.initial] }
  shaped :=
    { endpoints := by simp [World.initial]
      busy := by simp [World.initial] }

theorem registered_congr {objects other : Handle → Option Object}
    (entities : Forest Handle Entity) (issued : Handle → Prop)
    (same : ∀ handle, standing other handle = standing objects handle)
    (fresh : ∀ handle, objects handle = none → other handle = none)
    (held : Registered entities issued objects) : Registered entities issued other :=
  { held with
    fresh := fun handle late => fresh handle (held.fresh handle late)
    owner := by
      intro handle node found ordinary
      rw [same]
      exact held.owner handle node found ordinary
    condition := by
      intro handle node found special
      obtain ⟨absent, rest⟩ := held.condition handle node found special
      exact ⟨fresh handle absent, rest⟩ }

theorem accounted_congr {objects other : Handle → Option Object} (nextListener : Nat)
    (freed : List Nat) (same : ∀ handle, listenerAt other handle = listenerAt objects handle)
    (held : Accounted objects nextListener freed) : Accounted other nextListener freed where
  kept := by
    intro handle listener found
    rw [same] at found
    exact held.kept handle listener found
  single := by
    intro first second listener atFirst atSecond
    rw [same] at atFirst atSecond
    exact held.single first second listener atFirst atSecond
  bounded := held.bounded
  once := held.once
  accounted := by
    intro listener early
    simp only [same]
    exact held.accounted listener early

theorem restage_none (handle other : Handle) (stage : Stage) (absent : objects other = none) :
    restage objects handle stage other = none := by
  by_cases same : other = handle
  · subst same
    simp [restage, absent]
  · rw [restage_other objects handle other stage same, absent]

theorem update_other (handle other : Handle) (object : Option Object)
    (different : other ≠ handle) : Function.update objects handle object other = objects other :=
  Function.update_of_ne different _ _

theorem listenerAt_update (handle other : Handle) (object : Option Object) :
    listenerAt (Function.update objects handle object) other =
      if other = handle then object.bind Object.listener else listenerAt objects other := by
  by_cases same : other = handle
  · subst same
    simp [listenerAt]
  · simp [listenerAt, same]

theorem standing_update (handle other : Handle) (object : Option Object)
    (different : other ≠ handle) :
    standing (Function.update objects handle object) other = standing objects other := by
  simp [standing, update_other objects handle other object different]

/-! ## Listeners -/

section Listeners
variable {objects : Handle → Option Object} {nextListener : Nat} {freed : List Nat}

theorem accounted_silent (handle : Handle) (object : Object) (absent : objects handle = none)
    (silent : object.listener = none) (held : Accounted objects nextListener freed) :
    Accounted (Function.update objects handle (some object)) nextListener freed := by
  apply accounted_congr nextListener freed ?_ held
  intro other
  rw [listenerAt_update]
  by_cases same : other = handle
  · simp [same, silent, listenerAt, absent]
  · simp [same]

theorem accounted_given (handle : Handle) (object : Object) (absent : objects handle = none)
    (given : object.listener = some nextListener)
    (held : Accounted objects nextListener freed) :
    Accounted (Function.update objects handle (some object)) (nextListener + 1) freed where
  kept := by
    intro other listener found
    rw [listenerAt_update] at found
    by_cases same : other = handle
    · simp only [same, if_true, Option.bind_some, given, Option.some.injEq] at found
      subst found
      exact ⟨Nat.lt_succ_self _, fun gone => Nat.lt_irrefl _ (held.bounded _ gone)⟩
    · simp only [same, if_false] at found
      have kept := held.kept other listener found
      exact ⟨Nat.lt_succ_of_lt kept.1, kept.2⟩
  single := by
    intro first second listener atFirst atSecond
    rw [listenerAt_update] at atFirst atSecond
    by_cases isFirst : first = handle <;> by_cases isSecond : second = handle
    · rw [isFirst, isSecond]
    · simp only [isFirst, if_true, Option.bind_some, given, Option.some.injEq] at atFirst
      simp only [isSecond, if_false] at atSecond
      exact absurd (held.kept second listener atSecond).1 (by omega)
    · simp only [isSecond, if_true, Option.bind_some, given, Option.some.injEq] at atSecond
      simp only [isFirst, if_false] at atFirst
      exact absurd (held.kept first listener atFirst).1 (by omega)
    · simp only [isFirst, isSecond, if_false] at atFirst atSecond
      exact held.single first second listener atFirst atSecond
  bounded := fun listener gone => Nat.lt_succ_of_lt (held.bounded listener gone)
  once := held.once
  accounted := by
    intro listener early
    rcases Nat.lt_succ_iff_lt_or_eq.mp early with early | rfl
    · rcases held.accounted listener early with gone | ⟨other, found⟩
      · exact .inl gone
      · refine .inr ⟨other, ?_⟩
        have different : other ≠ handle := by
          rintro rfl
          simp [listenerAt, absent] at found
        rw [listenerAt_update, if_neg different, found]
    · exact .inr ⟨handle, by simp [listenerAt_update, given]⟩

theorem accounted_discard (held : Accounted objects nextListener freed) :
    Accounted objects (nextListener + 1) (freed ++ [nextListener]) where
  kept := by
    intro handle listener found
    obtain ⟨early, alive⟩ := held.kept handle listener found
    refine ⟨Nat.lt_succ_of_lt early, ?_⟩
    simp only [List.mem_append, List.mem_singleton, not_or]
    exact ⟨alive, Nat.ne_of_lt early⟩
  single := held.single
  bounded := by
    intro listener gone
    rcases List.mem_append.mp gone with gone | last
    · exact Nat.lt_succ_of_lt (held.bounded listener gone)
    · rw [List.mem_singleton.mp last]
      exact Nat.lt_succ_self _
  once := by
    refine List.nodup_append.mpr ⟨held.once, by simp, ?_⟩
    intro listener gone other last same
    rw [List.mem_singleton.mp last] at same
    exact Nat.ne_of_lt (held.bounded listener gone) same
  accounted := by
    intro listener early
    rcases Nat.lt_succ_iff_lt_or_eq.mp early with early | rfl
    · exact (held.accounted listener early).imp_left (List.mem_append_left _)
    · exact .inl (by simp)

theorem accounted_gone (handle : Handle) (silent : listenerAt objects handle = none)
    (held : Accounted objects nextListener freed) :
    Accounted (Function.update objects handle none) nextListener freed := by
  apply accounted_congr nextListener freed ?_ held
  intro other
  rw [listenerAt_update]
  by_cases same : other = handle
  · simp [same, silent]
  · simp [same]

theorem accounted_freed (handle : Handle) (listener : Nat)
    (given : listenerAt objects handle = some listener)
    (held : Accounted objects nextListener freed) :
    Accounted (Function.update objects handle none) nextListener (freed ++ [listener]) where
  kept := by
    intro other found here
    rw [listenerAt_update] at here
    by_cases same : other = handle
    · simp [same] at here
    · simp only [same, if_false] at here
      obtain ⟨early, alive⟩ := held.kept other found here
      refine ⟨early, ?_⟩
      simp only [List.mem_append, List.mem_singleton, not_or]
      refine ⟨alive, ?_⟩
      rintro rfl
      exact same (held.single other handle found here given)
  single := by
    intro first second found atFirst atSecond
    rw [listenerAt_update] at atFirst atSecond
    by_cases isFirst : first = handle
    · simp [isFirst] at atFirst
    · by_cases isSecond : second = handle
      · simp [isSecond] at atSecond
      · simp only [isFirst, isSecond, if_false] at atFirst atSecond
        exact held.single first second found atFirst atSecond
  bounded := by
    intro found gone
    rcases List.mem_append.mp gone with gone | last
    · exact held.bounded found gone
    · rw [List.mem_singleton.mp last]
      exact (held.kept handle listener given).1
  once := by
    refine List.nodup_append.mpr ⟨held.once, by simp, ?_⟩
    intro found gone other last same
    rw [List.mem_singleton.mp last] at same
    subst same
    exact (held.kept handle found given).2 gone
  accounted := by
    intro found early
    rcases held.accounted found early with gone | ⟨other, here⟩
    · exact .inl (List.mem_append_left _ gone)
    · by_cases same : other = handle
      · subst same
        rw [given, Option.some.injEq] at here
        exact .inl (by simp [here])
      · exact .inr ⟨other, by rw [listenerAt_update, if_neg same, here]⟩

/-- A value that goes leaves no listener behind, whether it had one or not. -/
theorem accounted_forgotten (handle : Handle) (held : Accounted objects nextListener freed) :
    Accounted (Function.update objects handle none) nextListener
      (freed ++ (listenerAt objects handle).toList) := by
  cases given : listenerAt objects handle with
  | none => simpa using accounted_gone handle given held
  | some listener => exact accounted_freed handle listener given held

end Listeners

/-! ## The library -/

section Entities
variable {entities : Forest Handle Entity} {issued : Handle → Prop}
  {objects other : Handle → Option Object}

theorem kindAt_alive (handle : Handle) (kind : Kind) (held : KindAt entities handle kind) :
    entities.Alive handle := by
  obtain ⟨node, found, -⟩ := held
  exact (alive_iff entities handle).mpr ⟨node, found⟩

/-- What the library keeps for a value that has not deleted its entity. -/
theorem owned_node (handle : Handle) (node : Node Handle Entity) (object : Object)
    (held : Registered entities issued objects) (here : entities.node handle = some node)
    (found : objects handle = some object) (registered : object.stage.registered = true) :
    node.info.kind = object.kind ∧ node.info.own = object.listener ∧
      ∀ ancestor ∈ node.ancestors, RootAt entities ancestor ∨ object.parent = some ancestor := by
  by_cases special : node.info.kind = .readCondition
  · rw [(held.condition handle node here special).1] at found
    cases found
  · obtain ⟨parent, stands, kin⟩ := held.owner handle node here special
    simp only [standing, found, Option.bind_some, registered, if_true, Option.some.injEq,
      Prod.mk.injEq] at stands
    obtain ⟨kind, listener, rfl⟩ := stands
    exact ⟨kind.symm, listener.symm, kin⟩

/-- Every entity but a read condition has a value that has not deleted it. -/
theorem node_owner (handle : Handle) (node : Node Handle Entity)
    (held : Registered entities issued objects) (here : entities.node handle = some node)
    (ordinary : node.info.kind ≠ .readCondition) :
    ∃ object, objects handle = some object ∧ object.kind = node.info.kind ∧
      object.listener = node.info.own ∧ object.stage.registered = true := by
  obtain ⟨parent, stands, -⟩ := held.owner handle node here ordinary
  obtain ⟨object, found, entry⟩ := Option.bind_eq_some_iff.mp stands
  obtain ⟨registered, entry⟩ := Option.ite_none_right_eq_some.mp entry
  rw [Option.some.injEq, Prod.mk.injEq, Prod.mk.injEq] at entry
  exact ⟨object, found, entry.1, entry.2.1, registered⟩

theorem kindAt_insert (handle new : Handle) (ancestors : List Handle) (entity : Entity)
    (kind : Kind) (absent : ¬ entities.Alive new) (held : KindAt entities handle kind) :
    KindAt (entities.insert new ancestors entity) handle kind := by
  have old := ne_of_alive entities new handle absent (kindAt_alive handle kind held)
  obtain ⟨node, found, same⟩ := held
  exact ⟨node, by rw [node_insert entities new handle ancestors entity old, found], same⟩

theorem rootAt_insert (handle new : Handle) (ancestors : List Handle) (entity : Entity)
    (absent : ¬ entities.Alive new) (held : RootAt entities handle) :
    RootAt (entities.insert new ancestors entity) handle := by
  obtain ⟨kind, root, here⟩ := held
  exact ⟨kind, root, kindAt_insert handle new ancestors entity kind absent here⟩

theorem registered_insert (new : Handle) (ancestors : List Handle) (entity : Entity)
    (after : Handle → Prop) (held : Registered entities issued objects)
    (unissued : ¬ issued new) (chain : Chain entities ancestors)
    (now : ∀ handle, after handle ↔ issued handle ∨ handle = new)
    (old : ∀ handle, handle ≠ new → other handle = objects handle)
    (owner : entity.kind ≠ .readCondition →
      ∃ parent, standing other new = some (entity.kind, entity.own, parent) ∧
        ∀ ancestor ∈ ancestors, RootAt entities ancestor ∨ parent = some ancestor)
    (condition : entity.kind = .readCondition → other new = none ∧
      entity.own = none ∧ ∃ reader ∈ ancestors, KindAt entities reader .reader) :
    Registered (entities.insert new ancestors entity) after other := by
  have absent : ¬ entities.Alive new := fun alive => unissued (held.given new alive)
  refine ⟨wellFormed_insert entities new ancestors entity held.tree absent chain, ?_, ?_, ?_, ?_⟩
  · intro handle alive
    rw [now]
    exact ((alive_insert_iff entities new handle ancestors entity).mp alive).imp_left
      (held.given handle)
  · intro handle late
    rw [now, not_or] at late
    rw [old handle late.2]
    exact held.fresh handle late.1
  · intro handle node found ordinary
    by_cases same : handle = new
    · subst same
      rw [node_insert_self, Option.some.injEq] at found
      subst found
      obtain ⟨parent, stands, kin⟩ := owner ordinary
      refine ⟨parent, stands, fun ancestor member => (kin ancestor member).imp_left ?_⟩
      exact rootAt_insert ancestor handle ancestors entity absent
    · rw [node_insert entities new handle ancestors entity same] at found
      obtain ⟨parent, stands, kin⟩ := held.owner handle node found ordinary
      refine ⟨parent, ?_, fun ancestor member => (kin ancestor member).imp_left ?_⟩
      · simpa [standing, old handle same] using stands
      · exact rootAt_insert ancestor new ancestors entity absent
  · intro handle node found special
    by_cases same : handle = new
    · subst same
      rw [node_insert_self, Option.some.injEq] at found
      subst found
      obtain ⟨unowned, none, reader, member, kind⟩ := condition special
      exact ⟨unowned, none, reader, member,
        kindAt_insert reader handle ancestors entity .reader absent kind⟩
    · rw [node_insert entities new handle ancestors entity same] at found
      obtain ⟨unowned, none, reader, member, kind⟩ := held.condition handle node found special
      exact ⟨by rw [old handle same, unowned], none, reader, member,
        kindAt_insert reader new ancestors entity .reader absent kind⟩

theorem kindAt_survives (handle ancestor : Handle) (kind : Kind)
    (alive : (entities.delete handle).Alive ancestor) (held : KindAt entities ancestor kind) :
    KindAt (entities.delete handle) ancestor kind := by
  obtain ⟨node, found, same⟩ := held
  obtain ⟨kept, here⟩ := (alive_iff _ ancestor).mp alive
  have before := ((node_delete_iff entities handle ancestor kept).mp here).1
  rw [found, Option.some.injEq] at before
  exact ⟨kept, here, by rw [← before, same]⟩

theorem registered_delete (handle : Handle) (held : Registered entities issued objects)
    (stands : ∀ one, standing other one = if one = handle then none else standing objects one)
    (fresh : ∀ one, objects one = none → other one = none) :
    Registered (entities.delete handle) issued other := by
  have formed := wellFormed_delete entities handle held.tree
  refine ⟨formed, ?_, fun one late => fresh one (held.fresh one late), ?_, ?_⟩
  · intro one alive
    exact held.given one ((alive_delete_iff entities handle one).mp alive).1
  · intro one node found ordinary
    have chain := formed one node found
    obtain ⟨found, different, -⟩ := (node_delete_iff entities handle one node).mp found
    obtain ⟨parent, was, kin⟩ := held.owner one node found ordinary
    refine ⟨parent, by rw [stands, if_neg different, was], fun ancestor member => ?_⟩
    rcases kin ancestor member with ⟨kind, root, here⟩ | kept
    · exact .inl ⟨kind, root,
        kindAt_survives handle ancestor kind (chain.alive ancestor member) here⟩
    · exact .inr kept
  · intro one node found special
    have chain := formed one node found
    obtain ⟨found, -, -⟩ := (node_delete_iff entities handle one node).mp found
    obtain ⟨absent, none, reader, member, kind⟩ := held.condition one node found special
    exact ⟨fresh one absent, none, reader, member,
      kindAt_survives handle reader .reader (chain.alive reader member) kind⟩

theorem kindAt_update (writer handle : Handle) (listener : Option Nat) (kind : Kind)
    (held : KindAt entities handle kind) :
    KindAt (entities.update writer fun entity => { entity with own := listener }) handle kind := by
  obtain ⟨node, found, same⟩ := held
  refine ⟨{ node with info := if handle = writer then { node.info with own := listener }
    else node.info }, (node_update_iff entities writer handle _ _).mpr ⟨node, found, rfl, rfl⟩, ?_⟩
  split <;> exact same

theorem registered_update (writer : Handle) (listener : Option Nat)
    (held : Registered entities issued objects) (present : objects writer ≠ none)
    (stands : ∀ one, standing other one =
      if one = writer then (standing objects one).map fun entry => (entry.1, listener, entry.2.2)
      else standing objects one)
    (fresh : ∀ one, objects one = none → other one = none) :
    Registered (entities.update writer fun entity => { entity with own := listener }) issued
      other := by
  refine ⟨wellFormed_update entities writer _ held.tree, ?_,
    fun one late => fresh one (held.fresh one late), ?_, ?_⟩
  · intro one alive
    exact held.given one ((alive_update_iff entities writer one _).mp alive)
  · intro one node found ordinary
    obtain ⟨was, here, ancestors, info⟩ := (node_update_iff entities writer one _ node).mp found
    have kind : node.info.kind = was.info.kind := by
      rw [info]
      split <;> rfl
    rw [kind] at ordinary
    obtain ⟨parent, stood, kin⟩ := held.owner one was here ordinary
    refine ⟨parent, ?_, fun ancestor member => ?_⟩
    · rw [stands, stood, info]
      by_cases same : one = writer <;> simp [same]
    · rw [ancestors] at member
      rcases kin ancestor member with ⟨kind, root, there⟩ | kept
      · exact .inl ⟨kind, root, kindAt_update writer ancestor listener kind there⟩
      · exact .inr kept
  · intro one node found special
    obtain ⟨was, here, ancestors, info⟩ := (node_update_iff entities writer one _ node).mp found
    have kind : node.info.kind = was.info.kind := by
      rw [info]
      split <;> rfl
    rw [kind] at special
    obtain ⟨absent, none, reader, member, kindOf⟩ := held.condition one was here special
    have different : one ≠ writer := by
      rintro rfl
      exact present absent
    refine ⟨fresh one absent, by rw [info, if_neg different, none], reader, ?_, ?_⟩
    · rw [ancestors]
      exact member
    · exact kindAt_update writer reader listener .reader kindOf

end Entities

end CycloneddsRs.LifetimeInvariants
