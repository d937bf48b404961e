import CycloneddsRs.LifetimeSteps

/-!
What one call of the interface and one step of a drop do to the entities, and when they leave a
handle dangling.
-/

namespace CycloneddsRs.LifetimeFrames
open EntityTree EntityLifetimes LifetimeInvariants LifetimeSteps StepRuns

variable {State : Type} {library : Library State} {view : View State}

/-- A Rust value has the entity and has not deleted it yet. -/
def Owns (world : World State) (handle : Handle) : Prop :=
  ∃ object, world.objects handle = some object ∧ object.stage.registered = true

/-- A step without `dds_delete`: entities stay, and a value that is new owns a new one. -/
structure Quiet (view : View State) (world next : World State) : Prop where
  alive : ∀ handle, (view.entities world.library).Alive handle →
    (view.entities next.library).Alive handle
  owns : ∀ handle, Owns next handle → Owns world handle ∨
    (¬ view.issued world.library handle ∧ (view.entities next.library).Alive handle)
  later : ∀ handle, view.issued world.library handle → view.issued next.library handle
  deletions : next.deletions = world.deletions

theorem quiet_same (world next : World State)
    (entities : view.entities next.library = view.entities world.library)
    (issued : view.issued next.library = view.issued world.library)
    (objects : ∀ handle, Owns next handle → Owns world handle)
    (deletions : next.deletions = world.deletions) : Quiet view world next where
  alive := by
    rw [entities]
    exact fun _ => id
  owns := fun handle owned => .inl (objects handle owned)
  later := by
    rw [issued]
    exact fun _ => id
  deletions := deletions

theorem quiet_trans {world between next : World State} (first : Quiet view world between)
    (second : Quiet view between next) : Quiet view world next where
  alive := fun handle alive => second.alive handle (first.alive handle alive)
  owns := by
    intro handle owned
    rcases second.owns handle owned with before | ⟨new, alive⟩
    · exact (first.owns handle before).imp_right
        fun ⟨new, alive⟩ => ⟨new, second.alive handle alive⟩
    · exact .inr ⟨fun issued => new (first.later handle issued), alive⟩
  later := fun handle issued => second.later handle (first.later handle issued)
  deletions := second.deletions.trans first.deletions

/-- How a call ends that makes an entity with its value: the listener is freed again, or there is
a handle, and references that its maker sets up. -/
inductive Creation (library : Library State) (world : World State) (given : Bool)
    (request : Request) (object : Object) : World State → Prop where
  | failed (refused : World State)
      (done : (world.takeListener given).2.register library request object = (none, refused)) :
      Creation library world given request object
        (refused.freeListener (world.takeListener given).1)
  | made (handle : Handle) (created : World State) (references : List (Option Handle × Handle))
      (done : (world.takeListener given).2.register library request object =
        (some handle, created)) :
      Creation library world given request object { created with references := references }

theorem register_creation (world : World State) (request : Request) (object : Object) :
    Creation library world false request object (world.register library request object).2 := by
  cases done : world.register library request object with
  | mk answer created =>
      cases answer with
      | none => exact .failed created done
      | some handle => exact .made handle created created.references done

theorem createParticipant_creation (world : World State) (id : Nat) (leaked listener : Bool) :
    Creation library world listener (.participant id (world.takeListener listener).1)
      { newObject .participant (world.takeListener listener).1 with leaked := leaked }
      (DdsParticipant.create library world id leaked listener).2 := by
  unfold DdsParticipant.create
  dsimp only
  split
  case h_1 handle created done => exact .made handle created created.references done
  case h_2 refused done => exact .failed refused done

theorem createShared_creation (kind : Kind) (world : World State) (participant : Handle)
    (listener : Bool) :
    Creation library world listener
      (.child kind participant none (world.takeListener listener).1)
      (newObject kind (world.takeListener listener).1)
      (createShared library kind world participant listener) := by
  unfold createShared
  dsimp only
  split
  case h_1 handle created done => exact .made handle created _ done
  case h_2 refused done => exact .failed refused done

/-- The error drops the topic that was passed in, after the listener. -/
theorem createEndpoint_creation (documented : Documented library view) (kind : Kind)
    (world : World State) (thread : Nat) (parent topic : Handle) (keepalive listener : Bool) :
    let next := createEndpoint library kind world thread parent topic keepalive listener
    ∃ object between, object.kind = kind ∧
      Creation library world listener
        (.child kind parent (some topic) (world.takeListener listener).1) object between ∧
      (next = between ∨
        between.objects = world.objects ∧ next = between.release thread none topic) := by
  unfold createEndpoint
  dsimp only
  split
  case h_1 handle created done => exact ⟨_, _, rfl, .made handle created _ done, .inl rfl⟩
  case h_2 refused done =>
      refine ⟨_, _, rfl, .failed refused done, .inr ⟨?_, rfl⟩⟩
      obtain ⟨made, -⟩ := register_refused documented world refused listener _ _ done
      rw [freeListener_frame, made]

theorem quiet_creation (documented : Documented library view) (world next : World State)
    (given : Bool) (request : Request) (object : Object)
    (creation : Creation library world given request object next) : Quiet view world next := by
  cases creation with
  | failed refused done =>
      obtain ⟨made, entities, issued⟩ :=
        register_refused documented world refused given request object done
      rw [freeListener_frame, made]
      exact quiet_same _ _ entities issued (fun _ => id) rfl
  | made handle created references done =>
      obtain ⟨made, unissued, now, ancestors, -, grown⟩ :=
        register_cases documented world created given request object handle done
      have objects : created.objects = Function.update world.objects handle (some object) := by
        rw [made]
      refine ⟨fun other alive => ?_, fun other owned => ?_, fun other issued => ?_, ?_⟩
      · rw [grown, alive_insert_iff]
        exact .inl alive
      · by_cases same : other = handle
        · subst same
          refine .inr ⟨unissued, ?_⟩
          rw [grown, alive_insert_iff]
          exact .inr rfl
        · obtain ⟨value, found, stage⟩ := owned
          rw [objects, update_other world.objects handle other _ same] at found
          exact .inl ⟨value, found, stage⟩
      · exact (now other).mpr (.inl issued)
      · rw [made]

theorem owns_restage (world : World State) (handle other : Handle) (object : Object) (stage : Stage)
    (found : world.objects handle = some object)
    (less : stage.registered = true → object.stage.registered = true)
    (owned : Owns (world.setStage handle stage) other) : Owns world other := by
  obtain ⟨now, here, registered⟩ := owned
  by_cases same : other = handle
  · subst same
    rw [show (world.setStage other stage).objects other = _ from
      restage_self world.objects other object stage found, Option.some.injEq] at here
    subst here
    exact ⟨object, found, less registered⟩
  · rw [show (world.setStage handle stage).objects other = _ from
      restage_other world.objects handle other stage same] at here
    exact ⟨now, here, registered⟩

/-- Giving back a reference that is there begins at most the drop of its target. -/
theorem quiet_release (world : World State) (thread : Nat) (holder : Option Handle)
    (target : Handle) (arc : ArcAt world.objects target) :
    Quiet view world (world.release thread holder target) := by
  obtain ⟨object, found, -, owned⟩ := arc
  unfold World.release
  dsimp only
  split
  case isTrue => exact quiet_same _ _ rfl rfl (fun _ => id) rfl
  case isFalse =>
      refine quiet_same _ _ rfl rfl (fun handle => ?_) rfl
      exact owns_restage world target handle object .dropping found
        (by simp [owned, Stage.registered])

theorem quiet_field (world : World State) (thread : Nat) (handle : Handle) (object : Object)
    (field : Option Handle) (stage : Stage) (found : world.objects handle = some object)
    (before : object.stage ≠ .owned) (deleted : stage.registered = false)
    (arcs : ∀ target, field = some target → ArcAt world.objects target) :
    Quiet view world ((world.setStage handle stage).releaseAll thread handle field) := by
  have less : ∀ other, Owns (world.setStage handle stage) other → Owns world other :=
    fun other => owns_restage world handle other object stage found (by simp [deleted])
  have notOwned : stage ≠ .owned := by
    rintro rfl
    cases deleted
  cases field with
  | none => exact quiet_same _ _ rfl rfl less rfl
  | some target =>
      have arc : ArcAt (world.setStage handle stage).objects target :=
        (arcAt_restage world.objects handle target object stage found before notOwned).mpr
          (arcs target rfl)
      have released : Quiet view (world.setStage handle stage) _ :=
        quiet_release _ thread (some handle) target arc
      refine ⟨released.alive, fun other owned => ?_, released.later, released.deletions⟩
      exact (released.owns other owned).imp_left (less other)

theorem arc_of_held (world : World State) (handle target : Handle) (object : Object)
    (held : Referenced world.objects world.references)
    (found : world.objects handle = some object) (keeps : target ∈ object.held) :
    ArcAt world.objects target := by
  have positive : 0 < world.references.count (some handle, target) := by
    rw [held.counts]
    exact List.count_pos_iff.mpr (by simpa [heldAt, found] using keeps)
  exact (held.arcs target).mp (List.mem_map_of_mem (List.count_pos_iff.mp positive))

theorem topic_arc (world : World State) (handle : Handle) (object : Object)
    (held : Referenced world.objects world.references)
    (found : world.objects handle = some object) (holds : object.stage.holdsTopic = true)
    (target : Handle) (keeps : object.topic = some target) : ArcAt world.objects target :=
  arc_of_held world handle target object held found (by simp [Object.held, holds, keeps])

theorem parent_arc (world : World State) (handle : Handle) (object : Object)
    (held : Referenced world.objects world.references)
    (found : world.objects handle = some object) (holds : object.stage.holdsParent = true)
    (target : Handle) (keeps : object.parent = some target) : ArcAt world.objects target :=
  arc_of_held world handle target object held found (by simp [Object.held, holds, keeps])

theorem beginDrop_quiet (world : World State) (thread : Nat) (handle : Handle) (object : Object)
    (found : world.objects handle = some object) (owned : object.stage = .owned) :
    Quiet view world (world.beginDrop thread handle) := by
  refine quiet_same _ _ rfl rfl (fun other => ?_) rfl
  exact owns_restage world handle other object .dropping found (by simp [owned, Stage.registered])

theorem discard_quiet (documented : Documented library view) (world : World State)
    (thread id : Nat) (listener : Bool) (held : Consistent view world) :
    Quiet view world (DdsParticipant.discard library world thread id listener) := by
  have created : Quiet view world (DdsParticipant.create library world id false listener).2 :=
    quiet_creation documented _ _ _ _ _ (createParticipant_creation world id false listener)
  obtain ⟨-, made⟩ := createParticipant_cases documented world id false listener held
  rw [discard_cases]
  split
  case h_2 => exact created
  case h_1 handle given =>
      obtain ⟨-, object, objects, -, -, owned⟩ := made handle given
      exact quiet_trans created
        (beginDrop_quiet _ thread handle object (by rw [objects]; simp) owned)

theorem createReadCondition_quiet (documented : Documented library view) (world : World State)
    (reader : Handle) : Quiet view world (DdsReadCondition.create library world reader) := by
  unfold DdsReadCondition.create
  cases made : library.create world.library (.child .readCondition reader none none) with
  | mk answer state =>
      cases answer with
      | none =>
          obtain ⟨entities, issued⟩ := documented.refused _ _ state made
          exact quiet_same _ _ entities issued (fun _ => id) rfl
      | some handle =>
          obtain ⟨-, now, ancestors, -, grown⟩ := documented.created _ _ handle state made
          refine ⟨fun other alive => ?_, fun other owned => .inl owned, fun other issued => ?_, rfl⟩
          · rw [grown, alive_insert_iff]
            exact .inl alive
          · exact (now other).mpr (.inl issued)

theorem createEndpoint_quiet (documented : Documented library view) (kind : Kind)
    (world : World State) (thread : Nat) (parent topic : Handle) (keepalive listener : Bool)
    (arc : ArcAt world.objects topic) :
    Quiet view world
      (createEndpoint library kind world thread parent topic keepalive listener) := by
  obtain ⟨object, between, -, creation, same | ⟨objects, same⟩⟩ :=
    createEndpoint_creation documented kind world thread parent topic keepalive listener
  · rw [same]
    exact quiet_creation documented world between _ _ _ creation
  · rw [same]
    exact quiet_trans (quiet_creation documented world between _ _ _ creation)
      (quiet_release between thread none topic (by rw [objects]; exact arc))

theorem setListener_quiet (documented : Documented library view) (world : World State)
    (writer : Handle) (object : Object) (found : world.objects writer = some object)
    (owned : object.stage = .owned) :
    Quiet view world (DdsWriter.setListener library world writer object) := by
  unfold DdsWriter.setListener
  dsimp only
  split
  case h_2 state answered =>
      obtain ⟨issued, entities⟩ := documented.listened _ _ _ _ state answered
      exact quiet_same _ _ entities issued (fun _ => id) rfl
  case h_1 state answered =>
      obtain ⟨issued, entities⟩ := documented.listened _ _ _ _ state answered
      rw [if_pos rfl] at entities
      refine ⟨fun handle alive => ?_, fun handle has => .inl ?_, fun handle => ?_, ?_⟩
      · rw [entities]
        exact (alive_update_iff _ writer handle _).mpr alive
      · obtain ⟨now, here, registered⟩ := has
        by_cases same : handle = writer
        · subst same
          exact ⟨object, found, by rw [owned]; rfl⟩
        · exact ⟨now, (update_other world.objects writer handle _ same).symm.trans here,
            registered⟩
      · rw [issued]
        exact id
      · rw [freeListener_frame]

/-- The last call of a drop frees the listener and forgets a value that owned nothing more. -/
theorem forgotten_quiet (world : World State) (thread : Nat) (handle : Handle) (rest : List Handle)
    (listener : Option Nat) :
    Quiet view world { world.freeListener listener with
      objects := Function.update world.objects handle none
      unwinding := Function.update world.unwinding thread rest } := by
  rw [freeListener_frame]
  refine quiet_same _ _ rfl rfl (fun other has => ?_) rfl
  obtain ⟨now, here, registered⟩ := has
  by_cases same : other = handle
  · simp [same] at here
  · exact ⟨now, by simpa [same] using here, registered⟩

/-- Every step is quiet but the `dds_delete` of a drop. -/
theorem step_cases (documented : Documented library view) (world next : World State)
    (action : Action) (held : Consistent view world)
    (taken : step library world action = some next) :
    Quiet view world next ∨ ∃ thread handle rest object, action = .advance thread ∧
      world.unwinding thread = handle :: rest ∧ world.objects handle = some object ∧
      object.stage = .dropping ∧
        next = (world.ddsDelete library handle).setStage handle .deleted := by
  cases action with
  | createDomain id leaked =>
      cases taken
      exact .inl (quiet_creation documented _ _ _ _ _ (register_creation world _ _))
  | createParticipant id leaked listener =>
      cases taken
      exact .inl (quiet_creation documented _ _ _ _ _
        (createParticipant_creation world id leaked listener))
  | discardParticipant thread id listener =>
      obtain ⟨-, made⟩ := Option.ite_none_right_eq_some.mp taken
      cases made
      exact .inl (discard_quiet documented world thread id listener held)
  | createShared kind participant listener =>
      obtain ⟨-, made⟩ := Option.ite_none_right_eq_some.mp taken
      cases made
      exact .inl (quiet_creation documented _ _ _ _ _
        (createShared_creation kind world participant listener))
  | createWaitset participant =>
      obtain ⟨-, made⟩ := Option.ite_none_right_eq_some.mp taken
      cases made
      exact .inl (quiet_creation documented _ _ _ _ _ (register_creation world _ _))
  | createReadCondition reader =>
      obtain ⟨-, made⟩ := Option.ite_none_right_eq_some.mp taken
      cases made
      exact .inl (createReadCondition_quiet documented world reader)
  | createEndpoint kind thread parent topic listener =>
      obtain ⟨⟨-, -, moved, -⟩, made⟩ := Option.ite_none_right_eq_some.mp taken
      have arc := (held.referenced.arcs topic).mp (List.mem_map_of_mem moved)
      have quiet := fun keepalive => createEndpoint_quiet documented kind world thread parent topic
        keepalive listener arc
      split at made
      case isTrue =>
          cases made
          exact .inl (quiet false)
      case isFalse =>
          obtain ⟨-, made⟩ := Option.ite_none_right_eq_some.mp made
          cases made
          exact .inl (quiet true)
  | setListener writer =>
      obtain ⟨object, found, made⟩ := Option.bind_eq_some_iff.mp taken
      obtain ⟨⟨-, owned⟩, made⟩ := Option.ite_none_right_eq_some.mp made
      cases made
      exact .inl (setListener_quiet documented world writer object found owned)
  | cloneHandle handle =>
      obtain ⟨-, made⟩ := Option.ite_none_right_eq_some.mp taken
      cases made
      exact .inl (quiet_same _ _ rfl rfl (fun _ => id) rfl)
  | dropHandle thread handle =>
      obtain ⟨⟨-, there⟩, made⟩ := Option.ite_none_right_eq_some.mp taken
      cases made
      exact .inl (quiet_release world thread none handle
        ((held.referenced.arcs handle).mp (List.mem_map_of_mem there)))
  | dropUnique thread handle =>
      obtain ⟨object, found, made⟩ := Option.bind_eq_some_iff.mp taken
      obtain ⟨⟨-, -, -, owned⟩, made⟩ := Option.ite_none_right_eq_some.mp made
      cases made
      exact .inl (beginDrop_quiet world thread handle object found owned)
  | advance thread =>
      obtain ⟨handle, rest, object, stack, found,
        ⟨stage, rfl⟩ | ⟨stage, rfl⟩ | ⟨stage, rfl⟩ | ⟨-, rfl⟩⟩ :=
        advance_cases world next thread taken
      · exact .inr ⟨thread, handle, rest, object, rfl, stack, found, stage, rfl⟩
      · exact .inl (quiet_field world thread handle object object.topic .topicDropped found
          (by simp [stage]) rfl
          (topic_arc world handle object held.referenced found (by rw [stage]; rfl)))
      · exact .inl (quiet_field world thread handle object object.parent .parentDropped found
          (by simp [stage]) rfl
          (parent_arc world handle object held.referenced found (by rw [stage]; rfl)))
      · exact .inl (forgotten_quiet world thread handle rest object.listener)

end CycloneddsRs.LifetimeFrames
