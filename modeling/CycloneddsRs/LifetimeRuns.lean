import CycloneddsRs.LifetimeSeals

/-!
Whole runs of the entity lifetimes: which handles stay live, what each `dds_delete` finds,
and which callbacks the library can still call.
-/

namespace CycloneddsRs.LifetimeRuns
open EntityTree EntityLifetimes LifetimeInvariants LifetimeFrames LifetimeSeals LifetimeSteps
open StepRuns

variable {State : Type} {library : Library State} {view : View State}

/-! ## A library -/

/-- The entities, the next handle, and the domains that were made by a call. -/
structure Shelf where
  entities : Forest Handle Entity
  next : Handle
  domains : Nat → Option Handle

/-- Where a request puts its entity, if what it names is there. -/
def Shelf.line (shelf : Shelf) : Request → Option (List Handle)
  | .domain id => if (shelf.domains id).isSome then none else some []
  | .participant id _ =>
      some ((shelf.domains id).toList.filter fun handle =>
        match shelf.entities.node handle with
        | some { ancestors := [], info := { kind := .domain, own := _ } } => true
        | _ => false)
  | .child _ parent topic _ =>
      if shelf.entities.Alive parent ∧
          topic.all fun topic => decide (shelf.entities.Alive topic) then
        some (parent :: shelf.entities.ancestors parent)
      else none

def Shelf.create (shelf : Shelf) (request : Request) : Option Handle × Shelf :=
  match shelf.line request with
  | none => (none, shelf)
  | some ancestors =>
      (some shelf.next,
        { entities := shelf.entities.insert shelf.next ancestors
            { kind := request.kind, own := request.listener }
          next := shelf.next + 1
          domains := match request with
            | .domain id => Function.update shelf.domains id (some shelf.next)
            | _ => shelf.domains })

/-- A library that makes whatever it can. -/
def shelfLibrary : Library Shelf where
  start := { entities := .empty, next := 1, domains := fun _ => none }
  create := Shelf.create
  ddsDelete shelf handle :=
    if shelf.entities.Alive handle then
      (true, { shelf with entities := shelf.entities.delete handle })
    else (false, shelf)
  setListener shelf handle listener :=
    if shelf.entities.Alive handle then
      (true, { shelf with entities :=
        shelf.entities.update handle fun entity => { entity with own := some listener } })
    else (false, shelf)

def shelfView : View Shelf where
  entities := Shelf.entities
  issued shelf handle := handle < shelf.next
  calls shelf handle listener := ∃ node, shelf.entities.node handle = some node ∧
    (node.info.own = some listener ∨ ∃ ancestor ∈ node.ancestors, ∃ above,
      shelf.entities.node ancestor = some above ∧ above.info.own = some listener)

theorem line_placed (shelf : Shelf) (request : Request) (ancestors : List Handle)
    (line : shelf.line request = some ancestors) : Placed shelf.entities request ancestors := by
  cases request with
  | domain id =>
      obtain ⟨-, made⟩ := Option.ite_none_left_eq_some.mp line
      cases made
      exact rfl
  | participant id listener =>
      cases line
      intro ancestor member
      have standing := (List.mem_filter.mp member).2
      split at standing
      case h_1 own here => exact ⟨own, here⟩
      case h_2 => cases standing
  | child kind parent topic listener =>
      obtain ⟨⟨alive, -⟩, made⟩ := Option.ite_none_right_eq_some.mp line
      cases made
      exact ⟨alive, rfl⟩

theorem shelf_documented : Documented shelfLibrary shelfView where
  empty := rfl
  created := by
    intro shelf request handle after made
    unfold shelfLibrary Shelf.create at made
    dsimp only at made
    split at made
    case h_1 => cases made
    case h_2 ancestors line =>
        cases made
        refine ⟨Nat.lt_irrefl _, fun other => ?_, ancestors, line_placed shelf request _ line, rfl⟩
        exact Nat.lt_succ_iff_lt_or_eq
  refused := by
    intro shelf request after made
    unfold shelfLibrary Shelf.create at made
    dsimp only at made
    split at made
    case h_1 =>
        cases made
        exact ⟨rfl, rfl⟩
    case h_2 => cases made
  deleted := by
    intro shelf handle answer after gone
    unfold shelfLibrary at gone
    dsimp only at gone
    split at gone
    case isTrue alive =>
        cases gone
        refine ⟨rfl, ?_⟩
        rw [if_pos (show (shelfView.entities shelf).Alive handle from alive)]
        exact ⟨rfl, rfl⟩
    case isFalse dead =>
        cases gone
        refine ⟨rfl, ?_⟩
        rw [if_neg (show ¬ (shelfView.entities shelf).Alive handle from dead)]
        exact ⟨rfl, rfl⟩
  listened := by
    intro shelf handle listener answer after set
    unfold shelfLibrary at set
    dsimp only at set
    split at set <;> cases set <;> exact ⟨rfl, rfl⟩
  called := fun _ _ _ called => called

/-! ## Live handles -/

theorem consistent_run (documented : Documented library view) (actions : List Action)
    (world : World State) (run : exec (step library) (World.initial library) actions = some world) :
    Consistent view world := by
  refine exec_invariant (step library) (fun _ => Consistent view) ?_ [] actions
    (World.initial library) world (consistent_initial library view documented) run
  intro _ before action next held taken
  exact step_consistent documented before next action held taken

/-- A domain that goes before the participant below it. -/
def early : List Action :=
  [.createDomain 0 false, .createParticipant 0 false true, .dropUnique 0 1, .advance 0]

/-- The handle of a subscriber goes before its reader, then the reader with all it keeps. Another
thread finds the participant shared and drops the one that it has made. -/
def closing : List Action :=
  [.createDomain 7 true, .createParticipant 7 true true, .createShared .topic 2 false,
   .createShared .subscriber 2 true, .createEndpoint .reader 0 4 3 true, .createReadCondition 5,
   .discardParticipant 1 7 false] ++ List.replicate 4 (.advance 1) ++
    [.dropHandle 0 4, .dropUnique 0 5] ++ List.replicate 12 (.advance 0)

theorem own_listener (world : World State) (handle : Handle) (node : Node Handle Entity)
    (listener : Nat) (held : Consistent view world)
    (here : (view.entities world.library).node handle = some node)
    (own : node.info.own = some listener) : listenerAt world.objects handle = some listener := by
  by_cases special : node.info.kind = .readCondition
  · rw [(held.registered.condition handle node here special).2.1] at own
    cases own
  · obtain ⟨object, found, -, same, -⟩ := node_owner handle node held.registered here special
    simp [listenerAt, found, same, own]

/-- Whatever the library may still call, for an entity itself or for the callbacks that it has
from those above it, some value holds the listener: it has not been freed. -/
theorem callbacks_held (documented : Documented library view) (actions : List Action)
    (world : World State) (run : exec (step library) (World.initial library) actions = some world) :
    (∀ handle listener, view.calls world.library handle listener → listener ∉ world.freed ∧
        ∃ owner, (owner = handle ∨ owner ∈ (view.entities world.library).ancestors handle) ∧
          listenerAt world.objects owner = some listener) ∧
      world.freed.Nodup ∧
      ∀ listener < world.nextListener,
        listener ∈ world.freed ↔ ∀ handle, listenerAt world.objects handle ≠ some listener := by
  have held := consistent_run documented actions world run
  refine ⟨?_, held.accounted.once, ?_⟩
  · intro handle listener calls
    obtain ⟨node, here, source⟩ := documented.called world.library handle listener calls
    have owner : ∃ owner, (owner = handle ∨ owner ∈ node.ancestors) ∧
        listenerAt world.objects owner = some listener := by
      rcases source with own | ⟨ancestor, above, parent, there, own⟩
      · exact ⟨handle, .inl rfl, own_listener world handle node listener held here own⟩
      · exact ⟨ancestor, .inr above, own_listener world ancestor parent listener held there own⟩
    obtain ⟨holder, above, holds⟩ := owner
    refine ⟨(held.accounted.kept holder listener holds).2, holder, ?_, holds⟩
    rw [ancestors_some _ handle node here]
    exact above
  · intro listener early
    constructor
    · intro freed handle holds
      exact (held.accounted.kept handle listener holds).2 freed
    · intro unheld
      rcases held.accounted.accounted listener early with freed | ⟨handle, holds⟩
      · exact freed
      · exact absurd holds (unheld handle)

/-- The listener of the participant may still be called, the others have been freed. -/
theorem callbacks_held_closing : ∃ world,
    exec (step shelfLibrary) (World.initial shelfLibrary) closing = some world ∧
    shelfView.calls world.library 2 0 ∧ world.freed = [1, 2] ∧
    (∀ handle listener, shelfView.calls world.library handle listener → listener ∉ world.freed ∧
        ∃ owner, (owner = handle ∨ owner ∈ (shelfView.entities world.library).ancestors handle) ∧
          listenerAt world.objects owner = some listener) ∧
      world.freed.Nodup ∧
      ∀ listener < world.nextListener,
        listener ∈ world.freed ↔ ∀ handle, listenerAt world.objects handle ≠ some listener :=
  ⟨_, rfl, ⟨_, rfl, .inl rfl⟩, rfl, callbacks_held shelf_documented closing _ rfl⟩

/-! ## What is left -/

end CycloneddsRs.LifetimeRuns
