import CycloneddsRs.LifetimeInvariants

/-!
Each call of the interface and each step of a drop keeps the invariant of the lifetimes.
-/

namespace CycloneddsRs.LifetimeSteps
open EntityTree EntityLifetimes LifetimeInvariants StepRuns

variable {State : Type} {library : Library State} {view : View State}
variable (objects : Handle → Option Object)

/-! ## Creating -/

section Creating

theorem heldAt_update (handle other : Handle) (object : Object)
    (absent : objects handle = none) :
    heldAt (Function.update objects handle (some object)) other =
      heldAt objects other ++ if other = handle then object.held else [] := by
  by_cases same : other = handle
  · subst same
    simp [heldAt, absent]
  · simp [heldAt, same]

theorem arcAt_update (handle other : Handle) (object : Object)
    (absent : objects handle = none) :
    ArcAt (Function.update objects handle (some object)) other ↔
      ArcAt objects other ∨
        (other = handle ∧ object.kind.shared = true ∧ object.stage = .owned) := by
  by_cases same : other = handle
  · subst same
    simp [ArcAt, absent]
  · simp [ArcAt, same]

theorem count_none (references : List (Option Handle × Handle)) (holder target dropped : Handle) :
    (references.erase (none, dropped)).count (some holder, target) =
      references.count (some holder, target) := by
  rw [List.count_erase_of_ne]
  simp

theorem chain_placed (entities : Forest Handle Entity) (request : Request)
    (ancestors : List Handle) (formed : WellFormed entities)
    (placed : Placed entities request ancestors) : Chain entities ancestors := by
  cases request with
  | domain id =>
      rw [show ancestors = [] from placed]
      exact chain_nil entities
  | participant id listener =>
      constructor
      · intro ancestor member
        obtain ⟨own, here⟩ := placed ancestor member
        exact (alive_iff entities ancestor).mpr ⟨_, here⟩
      · intro ancestor member above higher
        obtain ⟨own, here⟩ := placed ancestor member
        simp [ancestors_some entities ancestor _ here] at higher
  | child kind parent topic listener =>
      obtain ⟨alive, rfl⟩ := placed
      exact chain_cons entities parent formed alive

theorem takeListener_frame (world : World State) (given : Bool) :
    (world.takeListener given).2 =
      { world with nextListener := (world.takeListener given).2.nextListener } := by
  cases given <;> rfl

theorem freeListener_frame (world : World State) (listener : Option Nat) :
    world.freeListener listener = { world with freed := world.freed ++ listener.toList } := by
  cases listener with
  | none => simp [World.freeListener]
  | some listener => rfl

/-- What a `dds_create_*` call that gives a handle has done. -/
theorem register_cases (documented : Documented library view) (world created : World State)
    (given : Bool) (request : Request) (object : Object) (handle : Handle)
    (done : (world.takeListener given).2.register library request object =
      (some handle, created)) :
    created = { world with
      library := created.library
      objects := Function.update world.objects handle (some object)
      nextListener := (world.takeListener given).2.nextListener } ∧
    ¬ view.issued world.library handle ∧
    (∀ other, view.issued created.library other ↔
      view.issued world.library other ∨ other = handle) ∧
    ∃ ancestors, Placed (view.entities world.library) request ancestors ∧
      view.entities created.library = (view.entities world.library).insert handle ancestors
        { kind := request.kind, own := request.listener } := by
  rw [takeListener_frame] at done
  unfold World.register at done
  split at done
  case h_1 answer state made =>
      cases done
      exact ⟨rfl, documented.created world.library request handle state made⟩
  case h_2 => cases done

theorem register_refused (documented : Documented library view) (world refused : World State)
    (given : Bool) (request : Request) (object : Object)
    (done : (world.takeListener given).2.register library request object = (none, refused)) :
    refused = { world with
      library := refused.library
      nextListener := (world.takeListener given).2.nextListener } ∧
      view.entities refused.library = view.entities world.library ∧
      view.issued refused.library = view.issued world.library := by
  rw [takeListener_frame] at done
  unfold World.register at done
  split at done
  case h_1 => cases done
  case h_2 state made =>
      cases done
      exact ⟨rfl, documented.refused world.library request state made⟩

theorem kindAt_borrowed (world : World State) (kind : Kind) (handle : Handle)
    (held : Consistent view world) (borrowed : world.Borrows kind handle)
    (alive : (view.entities world.library).Alive handle) :
    KindAt (view.entities world.library) handle kind := by
  obtain ⟨object, found, rfl, owned⟩ := borrowed
  obtain ⟨node, here⟩ := (alive_iff _ handle).mp alive
  exact ⟨node, here, (owned_node handle node object held.registered here found
    (by rw [owned]; rfl)).1⟩

/-- Everything above a value that keeps no other is a domain or a participant. -/
theorem ancestors_of_borrowed (world : World State) (kind : Kind) (handle : Handle)
    (held : Consistent view world) (borrowed : world.Borrows kind handle)
    (plain : kind ≠ .reader ∧ kind ≠ .writer) :
    ∀ ancestor ∈ (view.entities world.library).ancestors handle,
      RootAt (view.entities world.library) ancestor := by
  intro ancestor member
  obtain ⟨object, found, rfl, owned⟩ := borrowed
  rw [Option.mem_def] at found
  cases here : (view.entities world.library).node handle with
  | none => simp [Forest.ancestors, here] at member
  | some node =>
      rw [ancestors_some _ handle node here] at member
      obtain ⟨-, -, kin⟩ := owned_node handle node object held.registered here found
        (by rw [owned]; rfl)
      rcases kin ancestor member with root | kept
      · exact root
      · have keeps : object.held ≠ [] := by
          simp [Object.held, owned, Stage.holdsTopic, Stage.holdsParent, kept]
        exact absurd (held.shaped.endpoints handle object found keeps) (by simp [plain])

/-- The ancestors of a new value that its maker has not to keep alive. -/
def Kin (entities : Forest Handle Entity) (request : Request) (object : Object) : Prop :=
  ∀ ancestors, Placed entities request ancestors → ∀ ancestor ∈ ancestors,
    RootAt entities ancestor ∨ object.parent = some ancestor

theorem kin_child (entities : Forest Handle Entity) (kind : Kind) (parent : Handle)
    (topic : Option Handle) (listener : Option Nat) (object : Object)
    (first : entities.Alive parent → RootAt entities parent ∨ object.parent = some parent)
    (higher : ∀ ancestor ∈ entities.ancestors parent, RootAt entities ancestor) :
    Kin entities (.child kind parent topic listener) object := by
  rintro ancestors ⟨alive, rfl⟩ ancestor member
  rcases List.mem_cons.mp member with rfl | above
  · exact first alive
  · exact .inl (higher ancestor above)

/-- Below a participant that its caller borrows there are no other parents to keep. -/
theorem kin_participant (world : World State) (kind : Kind) (participant : Handle)
    (topic : Option Handle) (listener : Option Nat) (object : Object)
    (held : Consistent view world) (borrowed : world.Borrows .participant participant) :
    Kin (view.entities world.library) (.child kind participant topic listener) object := by
  refine kin_child _ kind participant topic listener object (fun alive => ?_)
    (ancestors_of_borrowed world .participant participant held borrowed (by simp))
  exact .inl ⟨.participant, rfl, kindAt_borrowed world .participant participant held borrowed alive⟩

/-- A new value below what its caller borrows. -/
theorem registered_register (documented : Documented library view) (world created : World State)
    (given : Bool) (request : Request) (object : Object) (handle : Handle)
    (held : Registered (view.entities world.library) (view.issued world.library) world.objects)
    (done : (world.takeListener given).2.register library request object = (some handle, created))
    (kind : object.kind = request.kind) (listener : object.listener = request.listener)
    (ordinary : object.kind ≠ .readCondition) (owned : object.stage = .owned)
    (kin : Kin (view.entities world.library) request object) :
    Registered (view.entities created.library) (view.issued created.library)
      (Function.update world.objects handle (some object)) := by
  obtain ⟨-, unissued, now, ancestors, placed, grown⟩ :=
    register_cases documented world created given request object handle done
  rw [grown]
  refine registered_insert handle ancestors _ _ held unissued
    (chain_placed _ request ancestors held.tree placed) now ?_ ?_ ?_
  · intro other different
    exact update_other world.objects handle other _ different
  · intro _
    exact ⟨object.parent, by simp [standing, owned, Stage.registered, kind, listener],
      kin ancestors placed⟩
  · exact fun special => absurd (kind.trans special) ordinary

theorem takeListener_cases (world : World State) (given : Bool) :
    world.takeListener given = (none, world) ∨
      world.takeListener given =
        (some world.nextListener, { world with nextListener := world.nextListener + 1 }) := by
  cases given with
  | false => exact .inl rfl
  | true => exact .inr rfl

/-- A failed call frees the listener that it was given. -/
theorem accounted_failed (world : World State) (given : Bool)
    (held : Accounted world.objects world.nextListener world.freed) :
    Accounted world.objects (world.takeListener given).2.nextListener
      (world.freed ++ (world.takeListener given).1.toList) := by
  rcases takeListener_cases world given with taken | taken
  · rw [taken, Option.toList_none, List.append_nil]
    exact held
  · rw [taken]
    exact accounted_discard held

theorem accounted_placed (world : World State) (given : Bool) (handle : Handle) (object : Object)
    (absent : world.objects handle = none)
    (held : Accounted world.objects world.nextListener world.freed)
    (carries : object.listener = (world.takeListener given).1) :
    Accounted (Function.update world.objects handle (some object))
      (world.takeListener given).2.nextListener world.freed := by
  rcases takeListener_cases world given with taken | taken
  · rw [taken] at carries ⊢
    exact accounted_silent handle object absent carries held
  · rw [taken] at carries ⊢
    exact accounted_given handle object absent carries held

theorem shaped_placed (world : World State) (handle : Handle) (object : Object)
    (owned : object.stage = .owned)
    (endpoint : object.held ≠ [] → object.kind = .reader ∨ object.kind = .writer)
    (held : Shaped world.objects world.unwinding) :
    Shaped (Function.update world.objects handle (some object)) world.unwinding where
  endpoints := by
    intro other found here
    by_cases same : other = handle
    · subst same
      rw [Function.update_self, Option.some.injEq] at here
      subst here
      exact endpoint
    · rw [update_other world.objects handle other _ same] at here
      exact held.endpoints other found here
  busy := by
    intro other found here stage
    by_cases same : other = handle
    · subst same
      rw [Function.update_self, Option.some.injEq] at here
      subst here
      exact absurd owned stage
    · rw [update_other world.objects handle other _ same] at here
      exact held.busy other found here stage

/-- Without a handle nothing has changed, and the listener is freed. -/
theorem consistent_failed (documented : Documented library view) (world refused : World State)
    (given : Bool) (request : Request) (object : Object) (held : Consistent view world)
    (done : (world.takeListener given).2.register library request object = (none, refused)) :
    Consistent view (refused.freeListener (world.takeListener given).1) := by
  obtain ⟨made, entities, issued⟩ :=
    register_refused documented world refused given request object done
  have accounted := accounted_failed world given held.accounted
  have registered : Registered (view.entities refused.library) (view.issued refused.library)
      world.objects := by
    rw [entities, issued]
    exact held.registered
  rw [freeListener_frame, made]
  exact ⟨registered, held.referenced, accounted, held.shaped⟩

/-- A value that has been made, with the references its maker has set up. -/
theorem consistent_created (documented : Documented library view) (world created : World State)
    (given : Bool) (request : Request) (object : Object) (handle : Handle)
    (references : List (Option Handle × Handle)) (held : Consistent view world)
    (done : (world.takeListener given).2.register library request object = (some handle, created))
    (kind : object.kind = request.kind) (carries : object.listener = (world.takeListener given).1)
    (listener : object.listener = request.listener)
    (ordinary : object.kind ≠ .readCondition) (owned : object.stage = .owned)
    (endpoint : object.held ≠ [] → object.kind = .reader ∨ object.kind = .writer)
    (kin : Kin (view.entities world.library) request object)
    (referenced : world.objects handle = none →
      Referenced (Function.update world.objects handle (some object)) references) :
    Consistent view { created with references := references } := by
  have registered := registered_register documented world created given request object handle
    held.registered done kind listener ordinary owned kin
  obtain ⟨made, unissued, -⟩ :=
    register_cases documented world created given request object handle done
  -- A handle that was never given out has no value yet.
  have absent := held.registered.fresh handle unissued
  have accounted := accounted_placed world given handle object absent held.accounted carries
  have shaped := shaped_placed world handle object owned endpoint held.shaped
  rw [made]
  exact ⟨registered, referenced absent, accounted, shaped⟩

/-- The references stay right when a value arrives that keeps no other. -/
theorem referenced_plain (references : List (Option Handle × Handle)) (handle : Handle)
    (object : Object) (absent : objects handle = none) (empty : object.held = [])
    (unshared : object.kind.shared = false) (held : Referenced objects references) :
    Referenced (Function.update objects handle (some object)) references where
  counts := by
    intro holder target
    rw [heldAt_update objects handle holder object absent, held.counts]
    simp [empty]
  arcs := by
    intro target
    rw [arcAt_update objects handle target object absent, held.arcs]
    simp [unshared]

theorem references_of_registered (documented : Documented library view)
    (world created : World State) (given : Bool) (request : Request) (object : Object)
    (handle : Handle)
    (done : (world.takeListener given).2.register library request object =
      (some handle, created)) : created.references = world.references := by
  obtain ⟨made, -⟩ := register_cases documented world created given request object handle done
  rw [made]

theorem consistent_plain (documented : Documented library view) (world created : World State)
    (given : Bool) (request : Request) (object : Object) (handle : Handle)
    (held : Consistent view world)
    (done : (world.takeListener given).2.register library request object = (some handle, created))
    (kind : object.kind = request.kind) (carries : object.listener = (world.takeListener given).1)
    (listener : object.listener = request.listener)
    (ordinary : object.kind ≠ .readCondition) (owned : object.stage = .owned)
    (empty : object.held = []) (unshared : object.kind.shared = false)
    (kin : Kin (view.entities world.library) request object) : Consistent view created := by
  have made := consistent_created documented world created given request object handle
    world.references held done kind carries listener ordinary owned
    (fun keeps => absurd empty keeps) kin
    (fun absent => referenced_plain world.objects world.references handle object absent empty
      unshared held.referenced)
  rw [← references_of_registered documented world created given request object handle done] at made
  exact made

theorem createDomain_consistent (documented : Documented library view) (world : World State)
    (id : Nat) (leaked : Bool) (held : Consistent view world) :
    Consistent view (DdsDomain.create library world id leaked) := by
  unfold DdsDomain.create
  cases done : world.register library (.domain id)
      { newObject .domain none with leaked := leaked } with
  | mk answer created =>
      cases answer with
      | none => exact consistent_failed documented world created false _ _ held done
      | some handle =>
          refine consistent_plain documented world created false _ _ handle held done rfl rfl rfl
            (by simp [newObject]) rfl rfl rfl ?_
          rintro ancestors rfl ancestor member
          cases member

/-- The outcome of a creation, with the value that it has made. -/
theorem createParticipant_cases (documented : Documented library view) (world : World State)
    (id : Nat) (leaked listener : Bool) (held : Consistent view world) :
    let made := DdsParticipant.create library world id leaked listener
    Consistent view made.2 ∧ ∀ handle, made.1 = some handle → ¬ view.issued world.library handle ∧
      ∃ object, made.2.objects = Function.update world.objects handle (some object) ∧
        object.kind = .participant ∧ object.leaked = leaked ∧ object.stage = .owned := by
  unfold DdsParticipant.create
  dsimp only
  split
  case h_2 refused done =>
      refine ⟨consistent_failed documented world refused listener _ _ held done, ?_⟩
      intro handle absent
      cases absent
  case h_1 handle created done =>
      refine ⟨?_, ?_⟩
      · refine consistent_plain documented world created listener _ _ handle held done rfl rfl rfl
          (by simp [newObject]) rfl rfl rfl ?_
        intro ancestors placed ancestor member
        obtain ⟨own, here⟩ := placed ancestor member
        exact .inl ⟨.domain, rfl, _, here, rfl⟩
      · rintro _ ⟨⟩
        obtain ⟨made, unissued, -⟩ :=
          register_cases documented world created listener _ _ handle done
        exact ⟨unissued, _, congrArg World.objects made, rfl, rfl, rfl⟩

theorem createShared_consistent (documented : Documented library view) (kind : Kind)
    (world : World State) (participant : Handle) (listener : Bool) (shared : kind.shared = true)
    (held : Consistent view world) (borrowed : world.Borrows .participant participant) :
    Consistent view (createShared library kind world participant listener) := by
  unfold createShared
  dsimp only
  split
  case h_2 refused done => exact consistent_failed documented world refused listener _ _ held done
  case h_1 handle created done =>
      rw [references_of_registered documented world created listener _ _ handle done]
      refine consistent_created documented world created listener _ _ handle _ held done rfl rfl
        rfl ?_ rfl (fun keeps => absurd rfl keeps)
        (kin_participant world kind participant none _ _ held borrowed) ?_
      · rintro rfl
        cases shared
      · intro absent
        refine ⟨?_, ?_⟩
        · intro holder target
          rw [heldAt_update world.objects handle holder _ absent,
            show (newObject kind _).held = [] from rfl]
          simp [held.referenced.counts]
        · intro target
          rw [arcAt_update world.objects handle target _ absent, List.map_cons, List.mem_cons,
            held.referenced.arcs]
          simp [newObject, shared, or_comm]

theorem createWaitset_consistent (documented : Documented library view) (world : World State)
    (participant : Handle) (held : Consistent view world)
    (borrowed : world.Borrows .participant participant) :
    Consistent view (DdsWaitset.create library world participant) := by
  unfold DdsWaitset.create
  cases done : world.register library (.child .waitset participant none none)
      (newObject .waitset none) with
  | mk answer created =>
      cases answer with
      | none => exact consistent_failed documented world created false _ _ held done
      | some handle =>
          exact consistent_plain documented world created false _ _ handle held done rfl rfl rfl
            (by simp [newObject]) rfl rfl rfl
            (kin_participant world .waitset participant none none _ held borrowed)

theorem createReadCondition_consistent (documented : Documented library view)
    (world : World State) (reader : Handle) (held : Consistent view world)
    (borrowed : world.Borrows .reader reader) :
    Consistent view (DdsReadCondition.create library world reader) := by
  unfold DdsReadCondition.create
  have registered := held.registered
  cases made : library.create world.library (.child .readCondition reader none none) with
  | mk answer state =>
      cases answer with
      | none =>
          obtain ⟨entities, issued⟩ := documented.refused _ _ state made
          refine ⟨?_, held.referenced, held.accounted, held.shaped⟩
          rw [entities, issued]
          exact registered
      | some handle =>
          obtain ⟨unissued, now, ancestors, placed, grown⟩ :=
            documented.created _ _ handle state made
          have chain := chain_placed _ _ ancestors registered.tree placed
          obtain ⟨alive, rfl⟩ := placed
          refine ⟨?_, held.referenced, held.accounted, held.shaped⟩
          rw [grown]
          refine registered_insert handle _ _ _ registered unissued chain now (fun _ _ => rfl) ?_ ?_
          · exact fun ordinary => absurd rfl ordinary
          · exact fun _ => ⟨registered.fresh handle unissued, rfl, reader, List.mem_cons_self,
              kindAt_borrowed world .reader reader held borrowed alive⟩

end Creating

/-! ## Dropping -/

section Dropping

theorem mem_targets_erase (references : List (Option Handle × Handle)) (holder : Option Handle)
    (dropped target : Handle) (different : target ≠ dropped) :
    target ∈ (references.erase (holder, dropped)).map Prod.snd ↔
      target ∈ references.map Prod.snd := by
  constructor
  · intro member
    obtain ⟨pair, here, rfl⟩ := List.mem_map.mp member
    exact List.mem_map_of_mem (List.mem_of_mem_erase here)
  · intro member
    obtain ⟨pair, here, rfl⟩ := List.mem_map.mp member
    refine List.mem_map_of_mem ((List.mem_erase_of_ne ?_).mpr here)
    rintro rfl
    exact different rfl

theorem held_dropping (object : Object) (owned : object.stage = .owned) :
    { object with stage := Stage.dropping }.held = object.held := by
  simp [Object.held, owned, Stage.holdsTopic, Stage.holdsParent]

theorem shaped_restage (world : World State) (handle : Handle) (object : Object) (stage : Stage)
    (unwinding : Nat → List Handle) (found : world.objects handle = some object)
    (less : { object with stage := stage }.held ≠ [] → object.held ≠ [])
    (stacked : ∃ thread, handle ∈ unwinding thread)
    (more : ∀ thread, ∀ other ∈ world.unwinding thread, other ∈ unwinding thread)
    (held : Shaped world.objects world.unwinding) :
    Shaped (restage world.objects handle stage) unwinding where
  endpoints := by
    intro other now here
    by_cases same : other = handle
    · subst same
      rw [restage_self world.objects other object stage found, Option.some.injEq] at here
      subst here
      exact fun keeps => held.endpoints other object found (less keeps)
    · rw [restage_other world.objects handle other stage same] at here
      exact held.endpoints other now here
  busy := by
    intro other now here begun
    by_cases same : other = handle
    · exact same ▸ stacked
    · rw [restage_other world.objects handle other stage same] at here
      obtain ⟨thread, member⟩ := held.busy other now here begun
      exact ⟨thread, more thread other member⟩

/-- The drop of a value that nothing refers to any more begins. -/
theorem consistent_beginDrop (world : World State) (thread : Nat) (handle : Handle)
    (object : Object) (references : List (Option Handle × Handle))
    (registered : Registered (view.entities world.library) (view.issued world.library)
      world.objects)
    (accounted : Accounted world.objects world.nextListener world.freed)
    (shaped : Shaped world.objects world.unwinding)
    (found : world.objects handle = some object) (owned : object.stage = .owned)
    (counts : ∀ holder target,
      references.count (some holder, target) = (heldAt world.objects holder).count target)
    (arcs : ∀ target, target ∈ references.map Prod.snd ↔
      ArcAt world.objects target ∧ target ≠ handle) :
    Consistent view ({ world with references := references }.beginDrop thread handle) where
  registered := by
    refine registered_congr _ _ (fun other => ?_)
      (fun other absent => restage_none world.objects handle other _ absent) registered
    exact standing_restage world.objects handle other object _ found (by rw [owned]; rfl)
  referenced := by
    refine ⟨fun holder target => ?_, fun target => ?_⟩
    · have same := heldAt_restage world.objects handle holder object .dropping found
        (held_dropping object owned)
      exact (counts holder target).trans (by rw [← same]; rfl)
    · refine (arcs target).trans ?_
      by_cases same : target = handle
      · subst same
        have begun := restage_self world.objects target object .dropping found
        constructor
        · exact fun both => absurd rfl both.2
        · rintro ⟨now, here, -, stage⟩
          rw [show restage world.objects target .dropping target = some now from here,
            Option.some.injEq] at begun
          rw [begun] at stage
          cases stage
      · have other := restage_other world.objects handle target .dropping same
        simp only [ne_eq, same, not_false_eq_true, and_true]
        exact (by rw [ArcAt, ArcAt, ← other]; rfl)
  accounted := by
    refine accounted_congr world.nextListener world.freed (fun other => ?_) accounted
    exact listenerAt_restage world.objects handle other .dropping
  shaped := by
    refine shaped_restage world handle object .dropping
      (Function.update world.unwinding thread (handle :: world.unwinding thread)) found ?_
      ⟨thread, ?_⟩ ?_ shaped
    · rw [held_dropping object owned]
      exact id
    · rw [Function.update_self]
      exact List.mem_cons_self
    · intro other member here
      by_cases same : other = thread
      · subst same
        simp [here]
      · simpa [same] using here

/-- The end of a reference, once the counts are right without it. -/
theorem consistent_release (world : World State) (thread : Nat) (holder : Option Handle)
    (target : Handle)
    (registered : Registered (view.entities world.library) (view.issued world.library)
      world.objects)
    (accounted : Accounted world.objects world.nextListener world.freed)
    (shaped : Shaped world.objects world.unwinding)
    (counts : ∀ one other, (world.references.erase (holder, target)).count (some one, other) =
      (heldAt world.objects one).count other)
    (arcs : ∀ other, other ∈ world.references.map Prod.snd ↔ ArcAt world.objects other)
    (there : target ∈ world.references.map Prod.snd) :
    Consistent view (world.release thread holder target) := by
  unfold World.release
  dsimp only
  split
  case isTrue still =>
      refine ⟨registered, ⟨counts, fun other => ?_⟩, accounted, shaped⟩
      by_cases same : other = target
      · subst same
        exact ⟨fun _ => (arcs other).mp there, fun _ => still⟩
      · exact (mem_targets_erase world.references holder target other same).trans (arcs other)
  -- With the last reference the target is no longer an `Arc` that anyone may hold.
  case isFalse last =>
      obtain ⟨object, found, -, owned⟩ := (arcs target).mp there
      refine consistent_beginDrop world thread target object _ registered accounted shaped found
        owned counts (fun other => ?_)
      by_cases same : other = target
      · subst same
        exact ⟨fun member => absurd member last, fun both => absurd rfl both.2⟩
      · rw [mem_targets_erase world.references holder target other same, arcs]
        simp [same]

theorem dropHandle_consistent (world : World State) (thread : Nat) (handle : Handle)
    (held : Consistent view world) (there : (none, handle) ∈ world.references) :
    Consistent view (world.release thread none handle) := by
  refine consistent_release world thread none handle held.registered held.accounted held.shaped
    (fun one other => ?_) held.referenced.arcs (List.mem_map_of_mem there)
  rw [count_none, held.referenced.counts]

theorem dropUnique_consistent (world : World State) (thread : Nat) (handle : Handle)
    (object : Object) (held : Consistent view world) (found : world.objects handle = some object)
    (unshared : object.kind.shared = false) (owned : object.stage = .owned) :
    Consistent view (world.beginDrop thread handle) := by
  refine consistent_beginDrop world thread handle object world.references held.registered
    held.accounted held.shaped found owned held.referenced.counts (fun target => ?_)
  rw [held.referenced.arcs]
  constructor
  · rintro ⟨now, here, shared, stage⟩
    refine ⟨⟨now, here, shared, stage⟩, ?_⟩
    rintro rfl
    rw [found, Option.some.injEq] at here
    subst here
    rw [unshared] at shared
    cases shared
  · exact And.left

/-- The count of a holder's references after it has given up one field. -/
theorem counts_given_up (world : World State) (handle target : Handle) (object : Object)
    (stage : Stage) (held : Referenced world.objects world.references)
    (found : world.objects handle = some object)
    (gave : object.held = target :: { object with stage := stage }.held) :
    ∀ one other, (world.references.erase (some handle, target)).count (some one, other) =
      (heldAt (restage world.objects handle stage) one).count other := by
  intro one other
  by_cases same : one = handle
  · subst same
    have before := held.counts one other
    have after : heldAt (restage world.objects one stage) one =
        { object with stage := stage }.held := by
      simp [heldAt, restage_self world.objects one object stage found]
    have now : heldAt world.objects one = object.held := by simp [heldAt, found]
    rw [now, gave, List.count_cons] at before
    rw [after, List.count_erase, before]
    by_cases pair : target = other
    · simp [pair]
    · have apart : ¬ (some one, target) = (some one, other) := by simp [pair]
      simp [pair]
  · have apart : (some one, other) ≠ (some handle, target) := by simp [same]
    rw [List.count_erase_of_ne apart, held.counts,
      heldAt_restage_other world.objects handle one stage same]

theorem held_field_kept (world : World State) (handle : Handle) (object : Object) (stage : Stage)
    (held : Referenced world.objects world.references)
    (found : world.objects handle = some object)
    (gave : object.held = { object with stage := stage }.held) (before : object.stage ≠ .owned)
    (after : stage ≠ .owned) :
    Referenced (restage world.objects handle stage) world.references where
  counts := by
    intro one other
    rw [heldAt_restage world.objects handle one object stage found gave.symm, held.counts]
  arcs := by
    intro other
    rw [arcAt_restage world.objects handle other object stage found before after, held.arcs]

/-- A drop that passes over one of its fields, giving back the reference in it. -/
theorem consistent_field (world : World State) (thread : Nat) (handle : Handle) (object : Object)
    (field : Option Handle) (stage : Stage) (held : Consistent view world)
    (found : world.objects handle = some object)
    (before : object.stage.registered = false) (after : stage.registered = false)
    (gave : object.held = field.toList ++ { object with stage := stage }.held) :
    Consistent view ((world.setStage handle stage).releaseAll thread handle field) := by
  have notOwned : object.stage ≠ .owned := by
    intro owned
    rw [owned] at before
    cases before
  have stillNot : stage ≠ .owned := by
    intro owned
    rw [owned] at after
    cases after
  have registered : Registered (view.entities world.library) (view.issued world.library)
      (restage world.objects handle stage) := by
    refine registered_congr _ _ (fun other => ?_)
      (fun other absent => restage_none world.objects handle other _ absent) held.registered
    exact standing_restage world.objects handle other object stage found (by rw [before, after])
  have accounted : Accounted (restage world.objects handle stage) world.nextListener
      world.freed :=
    accounted_congr world.nextListener world.freed
      (fun other => listenerAt_restage world.objects handle other stage) held.accounted
  have shaped : Shaped (restage world.objects handle stage) world.unwinding := by
    refine shaped_restage world handle object stage world.unwinding found ?_
      (held.shaped.busy handle object found notOwned) (fun _ _ here => here) held.shaped
    intro keeps empty
    rw [empty] at gave
    exact keeps (List.append_eq_nil_iff.mp gave.symm).2
  cases field with
  | none =>
      exact ⟨registered, held_field_kept world handle object stage held.referenced found gave
        notOwned stillNot, accounted, shaped⟩
  | some target =>
      refine consistent_release (world.setStage handle stage) thread (some handle) target registered
        accounted shaped
        (counts_given_up world handle target object stage held.referenced found gave)
        (fun other => ?_) ?_
      · exact (held.referenced.arcs other).trans
          (arcAt_restage world.objects handle other object stage found notOwned stillNot).symm
      · have positive : 0 < world.references.count (some handle, target) := by
          rw [held.referenced.counts]
          simp [heldAt, found, gave]
        exact List.mem_map_of_mem (List.count_pos_iff.mp positive)

/-- `dds_delete` of an entity that is gone already changes nothing. -/
theorem ddsDelete_cases (documented : Documented library view) (world : World State)
    (handle : Handle) :
    let next := world.ddsDelete library handle
    next = { world with library := next.library, deletions := next.deletions } ∧
      view.issued next.library = view.issued world.library ∧
      (WellFormed (view.entities world.library) →
        view.entities next.library = (view.entities world.library).delete handle) ∧
      ((view.entities world.library).Alive handle →
        next.deletions = world.deletions ++ [(handle, true)]) := by
  unfold World.ddsDelete
  obtain ⟨issued, outcome⟩ := documented.deleted world.library handle _ _ rfl
  refine ⟨rfl, issued, fun formed => ?_, fun alive => ?_⟩
  · split at outcome
    case isTrue => exact outcome.2
    case isFalse dead => exact outcome.2.trans (delete_dead _ handle formed dead).symm
  · rw [if_pos alive] at outcome
    rw [← outcome.1]

theorem ddsDelete_consistent (documented : Documented library view) (world : World State)
    (handle : Handle) (object : Object) (held : Consistent view world)
    (found : world.objects handle = some object) (dropping : object.stage = .dropping) :
    Consistent view ((world.ddsDelete library handle).setStage handle .deleted) := by
  have gave : object.held = { object with stage := Stage.deleted }.held := by
    simp [Object.held, dropping, Stage.holdsTopic, Stage.holdsParent]
  have notOwned : object.stage ≠ .owned := by simp [dropping]
  obtain ⟨-, issued, entities, -⟩ := ddsDelete_cases documented world handle
  refine ⟨?_, ?_, ?_, ?_⟩
  · have registered := registered_delete handle held.registered
      (fun one => standing_deleted world.objects handle one .deleted rfl)
      (fun one absent => restage_none world.objects handle one _ absent)
    rw [← entities held.registered.tree, ← issued] at registered
    exact registered
  · exact held_field_kept world handle object .deleted held.referenced found gave notOwned
      (by simp)
  · exact accounted_congr world.nextListener world.freed
      (fun other => listenerAt_restage world.objects handle other .deleted) held.accounted
  · refine shaped_restage world handle object .deleted world.unwinding found ?_
      (held.shaped.busy handle object found notOwned) (fun _ _ here => here) held.shaped
    rw [← gave]
    exact id

/-- The last step of a drop: the listener goes and the value is gone. -/
theorem forget_consistent (world : World State) (thread : Nat) (handle : Handle)
    (rest : List Handle) (object : Object) (held : Consistent view world)
    (found : world.objects handle = some object)
    (last : object.stage = .parentDropped) (stack : world.unwinding thread = handle :: rest) :
    Consistent view { world.freeListener object.listener with
      objects := Function.update world.objects handle none
      unwinding := Function.update world.unwinding thread rest } := by
  have registered : Registered (view.entities world.library) (view.issued world.library)
      (Function.update world.objects handle none) := by
    refine registered_congr _ _ (fun other => ?_) (fun other absent => ?_) held.registered
    · by_cases same : other = handle
      · subst same
        simp [standing, found, last, Stage.registered]
      · exact standing_update world.objects handle other none same
    · by_cases same : other = handle
      · simp [same]
      · rw [update_other world.objects handle other none same, absent]
  have referenced : Referenced (Function.update world.objects handle none) world.references := by
    refine ⟨fun one target => ?_, fun target => ?_⟩
    · rw [held.referenced.counts]
      by_cases same : one = handle
      · subst same
        simp [heldAt, found, Object.held, last, Stage.holdsTopic, Stage.holdsParent]
      · simp [heldAt, same]
    · rw [held.referenced.arcs]
      by_cases same : target = handle
      · subst same
        simp [ArcAt, found, last]
      · simp [ArcAt, same]
  have shaped : Shaped (Function.update world.objects handle none)
      (Function.update world.unwinding thread rest) := by
    refine ⟨fun other now here => ?_, fun other now here begun => ?_⟩
    all_goals
      have different : other ≠ handle := by
        rintro rfl
        simp at here
      rw [update_other world.objects handle other none different] at here
    · exact held.shaped.endpoints other now here
    · obtain ⟨on, member⟩ := held.shaped.busy other now here begun
      refine ⟨on, ?_⟩
      by_cases same : on = thread
      · subst same
        rw [stack] at member
        rw [Function.update_self]
        exact (List.mem_cons.mp member).resolve_left different
      · rwa [Function.update_of_ne same]
  have atHandle : listenerAt world.objects handle = object.listener := by
    simp [listenerAt, found]
  have forgotten := accounted_forgotten handle held.accounted
  rw [atHandle] at forgotten
  rw [freeListener_frame]
  exact ⟨registered, referenced, forgotten, shaped⟩

/-- The calls of a drop: `dds_delete`, then the topic, the parent and the listener in turn. -/
theorem advance_cases (world next : World State) (thread : Nat)
    (went : world.advance library thread = some next) :
    ∃ handle rest object, world.unwinding thread = handle :: rest ∧
      world.objects handle = some object ∧
      (object.stage = .dropping ∧ next = (world.ddsDelete library handle).setStage handle .deleted ∨
        object.stage = .deleted ∧
          next = (world.setStage handle .topicDropped).releaseAll thread handle object.topic ∨
        object.stage = .topicDropped ∧
          next = (world.setStage handle .parentDropped).releaseAll thread handle object.parent ∨
        object.stage = .parentDropped ∧
          next = { world.freeListener object.listener with
            objects := Function.update world.objects handle none
            unwinding := Function.update world.unwinding thread rest }) := by
  unfold World.advance at went
  cases stack : world.unwinding thread with
  | nil => simp [stack] at went
  | cons handle rest =>
      simp only [stack] at went
      obtain ⟨object, found, went⟩ := Option.bind_eq_some_iff.mp went
      refine ⟨handle, rest, object, rfl, found, ?_⟩
      cases stage : object.stage with
      | owned => simp [stage] at went
      | dropping => exact .inl ⟨rfl, by simpa [stage] using went.symm⟩
      | deleted => exact .inr (.inl ⟨rfl, by simpa [stage] using went.symm⟩)
      | topicDropped => exact .inr (.inr (.inl ⟨rfl, by simpa [stage] using went.symm⟩))
      | parentDropped => exact .inr (.inr (.inr ⟨rfl, by simpa [stage] using went.symm⟩))

theorem advance_consistent (documented : Documented library view) (world next : World State)
    (thread : Nat) (held : Consistent view world)
    (went : world.advance library thread = some next) :
    Consistent view next := by
  obtain ⟨handle, rest, object, stack, found,
    ⟨stage, rfl⟩ | ⟨stage, rfl⟩ | ⟨stage, rfl⟩ | ⟨stage, rfl⟩⟩ :=
    advance_cases world next thread went
  · exact ddsDelete_consistent documented world handle object held found stage
  · refine consistent_field world thread handle object object.topic .topicDropped held found
      (by rw [stage]; rfl) rfl ?_
    simp [Object.held, stage, Stage.holdsTopic, Stage.holdsParent]
  · refine consistent_field world thread handle object object.parent .parentDropped held found
      (by rw [stage]; rfl) rfl ?_
    simp [Object.held, stage, Stage.holdsTopic, Stage.holdsParent]
  · exact forget_consistent world thread handle rest object held found stage stack

theorem discard_cases (world : World State) (thread id : Nat) (listener : Bool) :
    let made := DdsParticipant.create library world id false listener
    DdsParticipant.discard library world thread id listener =
      match made.1 with
      | some handle => made.2.beginDrop thread handle
      | none => made.2 := by
  unfold DdsParticipant.discard
  rcases DdsParticipant.create library world id false listener with ⟨_ | handle, created⟩ <;> rfl

theorem discard_consistent (documented : Documented library view) (world : World State)
    (thread id : Nat) (listener : Bool) (held : Consistent view world) :
    Consistent view (DdsParticipant.discard library world thread id listener) := by
  obtain ⟨consistent, made⟩ := createParticipant_cases documented world id false listener held
  rw [discard_cases]
  split
  case h_2 => exact consistent
  case h_1 handle given =>
      obtain ⟨-, object, objects, kind, -, owned⟩ := made handle given
      exact dropUnique_consistent _ thread handle object consistent (by rw [objects]; simp)
        (by rw [kind]; rfl) owned

end Dropping

/-! ## Endpoints -/

section Endpoints

/-- The reference of the moved topic handle goes to the new endpoint, and the keepalive adds one. -/
theorem referenced_endpoint (references : List (Option Handle × Handle)) (handle topic : Handle)
    (keepalive : Option Handle) (object : Object) (absent : objects handle = none)
    (unshared : object.kind.shared = false) (keeps : object.held = topic :: keepalive.toList)
    (moved : (none, topic) ∈ references)
    (parents : ∀ parent, keepalive = some parent → (none, parent) ∈ references)
    (held : Referenced objects references) :
    Referenced (Function.update objects handle (some object))
      (keepalive.toList.map (fun parent => (some handle, parent)) ++
        (some handle, topic) :: references.erase (none, topic)) where
  counts := by
    intro one other
    rw [heldAt_update objects handle one object absent, List.count_append, List.count_cons,
      count_none, held.counts, List.count_append]
    by_cases same : one = handle
    · subst same
      cases keepalive with
      | none => by_cases here : topic = other <;> simp [keeps, here]
      | some parent =>
          by_cases here : topic = other <;> by_cases there : parent = other <;>
            simp [keeps, here, there] <;> omega
    · have apart : ¬ handle = one := fun equal => same equal.symm
      cases keepalive <;> simp [same, apart]
  arcs := by
    intro target
    rw [arcAt_update objects handle target object absent, ← held.arcs]
    simp only [unshared, Bool.false_eq_true, false_and, and_false, or_false]
    rw [List.map_append, List.mem_append, List.map_cons, List.mem_cons]
    constructor
    · rintro (member | rfl | member)
      · cases keepalive with
        | none => simp at member
        | some parent =>
            simp only [Option.toList_some, List.map_cons, List.map_nil, List.mem_singleton]
              at member
            subst member
            exact List.mem_map_of_mem (parents target rfl)
      · exact List.mem_map_of_mem moved
      · obtain ⟨pair, here, rfl⟩ := List.mem_map.mp member
        exact List.mem_map_of_mem (List.mem_of_mem_erase here)
    · intro member
      by_cases same : target = topic
      · exact .inr (.inl same)
      · exact .inr (.inr ((mem_targets_erase references none topic target same).mpr member))

theorem createEndpoint_consistent (documented : Documented library view) (kind : Kind)
    (world : World State) (thread : Nat) (parent topic : Handle) (keepalive listener : Bool)
    (held : Consistent view world) (endpoint : kind = .reader ∨ kind = .writer)
    (moved : (none, topic) ∈ world.references)
    (borrowed : if keepalive = true then
      (none, parent) ∈ world.references ∧ world.Borrows kind.keeper parent
      else world.Borrows .participant parent) :
    Consistent view
      (createEndpoint library kind world thread parent topic keepalive listener) := by
  unfold createEndpoint
  dsimp only
  split
  case h_2 refused done =>
      have failed := consistent_failed documented world refused listener _ _ held done
      obtain ⟨made, -⟩ := register_refused documented world refused listener _ _ done
      have same : (refused.freeListener (world.takeListener listener).1).references =
          world.references := by
        rw [freeListener_frame, made]
      exact dropHandle_consistent _ thread topic failed (by rw [same]; exact moved)
  case h_1 handle created done =>
      rw [references_of_registered documented world created listener _ _ handle done]
      have unshared : kind.shared = false := by rcases endpoint with rfl | rfl <;> rfl
      have ordinary : kind ≠ .readCondition := by rcases endpoint with rfl | rfl <;> simp
      cases keepalive with
      | false =>
          refine consistent_created documented world created listener _ _ handle _ held done rfl rfl
            rfl ordinary rfl (fun _ => endpoint)
            (kin_participant world kind parent (some topic) _ _ held borrowed) fun absent => ?_
          exact referenced_endpoint world.objects world.references handle topic none _ absent
            unshared rfl moved (by simp) held.referenced
      | true =>
          obtain ⟨keeper, borrowed⟩ := borrowed
          have plain : kind.keeper ≠ .reader ∧ kind.keeper ≠ .writer := by
            rcases endpoint with rfl | rfl <;> simp [Kind.keeper]
          refine consistent_created documented world created listener _ _ handle _ held done rfl rfl
            rfl ordinary rfl (fun _ => endpoint) ?_ fun absent => ?_
          · exact kin_child _ kind parent (some topic) _ _ (fun _ => .inr rfl)
              (ancestors_of_borrowed world kind.keeper parent held borrowed plain)
          · refine referenced_endpoint world.objects world.references handle topic (some parent) _
              absent unshared rfl moved ?_ held.referenced
            rintro above ⟨⟩
            exact keeper

/-- A new listener changes nothing about a value but who calls its callbacks. -/
theorem setListener_consistent (documented : Documented library view) (world : World State)
    (writer : Handle) (object : Object) (held : Consistent view world)
    (found : world.objects writer = some object) (kind : object.kind = .writer)
    (owned : object.stage = .owned) :
    Consistent view (DdsWriter.setListener library world writer object) := by
  unfold DdsWriter.setListener
  dsimp only
  split
  case h_2 state answered =>
      obtain ⟨issued, entities⟩ := documented.listened _ _ _ _ state answered
      refine ⟨?_, held.referenced, accounted_discard held.accounted, held.shaped⟩
      rw [World.freeListener, issued, entities]
      exact held.registered
  case h_1 state answered =>
      obtain ⟨issued, entities⟩ := documented.listened _ _ _ _ state answered
      rw [if_pos rfl] at entities
      have atWriter : listenerAt world.objects writer = object.listener := by
        simp [listenerAt, found]
      have dropped : Accounted (Function.update world.objects writer none) world.nextListener
          (world.freed ++ object.listener.toList) := by
        rw [← atWriter]
        exact accounted_forgotten writer held.accounted
      have replaced := accounted_given writer { object with listener := some world.nextListener }
        (by simp) rfl dropped
      rw [Function.update_idem] at replaced
      have same : { object with listener := some world.nextListener }.held = object.held := rfl
      have registered : Registered (view.entities state) (view.issued state)
          (Function.update world.objects writer
            (some { object with listener := some world.nextListener })) := by
        rw [issued, entities]
        refine registered_update writer (some world.nextListener) held.registered (by simp [found])
          (fun one => ?_) fun one absent => ?_
        · by_cases equal : one = writer
          · subst equal
            simp [standing, found, owned, Stage.registered]
          · rw [if_neg equal]
            exact standing_update world.objects writer one _ equal
        · have different : one ≠ writer := by
            rintro rfl
            rw [found] at absent
            cases absent
          rw [update_other world.objects writer one _ different, absent]
      have referenced : Referenced (Function.update world.objects writer
          (some { object with listener := some world.nextListener })) world.references := by
        refine ⟨fun one target => ?_, fun target => ?_⟩
        · rw [held.referenced.counts]
          by_cases equal : one = writer
          · subst equal
            simp [heldAt, found, same]
          · simp [heldAt, equal]
        · rw [held.referenced.arcs]
          by_cases equal : target = writer
          · subst equal
            simp [ArcAt, found]
          · simp [ArcAt, equal]
      have shaped := shaped_placed world writer
        { object with listener := some world.nextListener } owned (fun _ => .inr kind) held.shaped
      rw [freeListener_frame]
      exact ⟨registered, referenced, replaced, shaped⟩

theorem cloneHandle_consistent (world : World State) (handle : Handle)
    (held : Consistent view world) (there : (none, handle) ∈ world.references) :
    Consistent view { world with references := (none, handle) :: world.references } := by
  refine ⟨held.registered, ⟨fun one other => ?_, fun other => ?_⟩, held.accounted, held.shaped⟩
  · simpa [List.count_cons] using held.referenced.counts one other
  · rw [List.map_cons, List.mem_cons, held.referenced.arcs]
    constructor
    · rintro (rfl | arc)
      · exact (held.referenced.arcs other).mp (List.mem_map_of_mem there)
      · exact arc
    · exact .inr

end Endpoints

theorem step_consistent (documented : Documented library view) (world next : World State)
    (action : Action) (held : Consistent view world)
    (taken : step library world action = some next) : Consistent view next := by
  cases action with
  | createDomain id leaked =>
      cases taken
      exact createDomain_consistent documented world id leaked held
  | createParticipant id leaked listener =>
      cases taken
      exact (createParticipant_cases documented world id leaked listener held).1
  | discardParticipant thread id listener =>
      obtain ⟨-, made⟩ := Option.ite_none_right_eq_some.mp taken
      cases made
      exact discard_consistent documented world thread id listener held
  | createShared kind participant listener =>
      obtain ⟨⟨shared, borrowed⟩, made⟩ := Option.ite_none_right_eq_some.mp taken
      cases made
      exact createShared_consistent documented kind world participant listener shared held borrowed
  | createWaitset participant =>
      obtain ⟨borrowed, made⟩ := Option.ite_none_right_eq_some.mp taken
      cases made
      exact createWaitset_consistent documented world participant held borrowed
  | createReadCondition reader =>
      obtain ⟨borrowed, made⟩ := Option.ite_none_right_eq_some.mp taken
      cases made
      exact createReadCondition_consistent documented world reader held borrowed
  | createEndpoint kind thread parent topic listener =>
      obtain ⟨⟨endpoint, -, moved, -⟩, made⟩ := Option.ite_none_right_eq_some.mp taken
      split at made
      case isTrue borrowed =>
          cases made
          exact createEndpoint_consistent documented kind world thread parent topic false listener
            held endpoint moved (by simpa using borrowed)
      case isFalse =>
          obtain ⟨borrowed, made⟩ := Option.ite_none_right_eq_some.mp made
          cases made
          exact createEndpoint_consistent documented kind world thread parent topic true listener
            held endpoint moved (by simpa using borrowed)
  | setListener writer =>
      obtain ⟨object, found, made⟩ := Option.bind_eq_some_iff.mp taken
      obtain ⟨⟨kind, owned⟩, made⟩ := Option.ite_none_right_eq_some.mp made
      cases made
      exact setListener_consistent documented world writer object held found kind owned
  | cloneHandle handle =>
      obtain ⟨there, made⟩ := Option.ite_none_right_eq_some.mp taken
      cases made
      exact cloneHandle_consistent world handle held there
  | dropHandle thread handle =>
      obtain ⟨⟨-, there⟩, made⟩ := Option.ite_none_right_eq_some.mp taken
      cases made
      exact dropHandle_consistent world thread handle held there
  | dropUnique thread handle =>
      obtain ⟨object, found, made⟩ := Option.bind_eq_some_iff.mp taken
      obtain ⟨⟨-, unshared, -, owned⟩, made⟩ := Option.ite_none_right_eq_some.mp made
      cases made
      exact dropUnique_consistent world thread handle object held found (by simpa using unshared)
        owned
  | advance thread => exact advance_consistent documented world next thread held taken

end CycloneddsRs.LifetimeSteps
