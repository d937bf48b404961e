import CycloneddsRs.ReadBuffer
import Mathlib.Data.List.Count

/-!
The references that CDR reads hand to one buffer. Everyone else's references are in
`others`, those of the reader cache among them. `set_serdata` takes a reference of
its own on top of the one handed over, so after the first read that returns anything
some object counts more references than it has holders.
-/

namespace CycloneddsRs.CdrReads

open Serdes Serdata SampleHeap ReadBuffer StepRuns
open SampleLedger (heldBySamples heldBySamples_cons released_refcount cachedSerdata)

section Runs

variable {T : Type}

/-- An address is used for one object only; `fresh` and those above are unused. -/
structure World (T : Type) where
  heap : Heap T
  fresh : Nat
  buffer : Option (SampleBuffer T)
  others : List Nat
  faulted : Bool

def World.init (len : Nat) : World T :=
  { heap := fun _ => none, fresh := 0, buffer := some (.new len), others := [], faulted := false }

inductive Action (T : Type) where
  | create (serdata : SerData T)
  | addref (address : Nat)
  | removeref (address : Nat)
  | readcdr (take : Bool) (answer : DdsAnswer)
  | clear
  | drop

def handedOver : DdsAnswer → List Nat
  | .batch items => items.map BatchItem.serdata
  | .failed _ => []

/-- The library owns a reference to each object that it returns. A read adds one for
the caller, a take passes its own one on. -/
def handOver (take : Bool) (world : World T) (addresses : List Nat) : World T :=
  if take then { world with others := world.others.diff addresses }
  else { world with heap := addresses.foldl ddsiSerdataAddref world.heap }

def World.fault (world : World T) : World T := { world with faulted := true }

def step (world : World T) : Action T → Option (World T)
  | .create serdata =>
      if serdata.serdata.refc = 1 then
        some { world with
          heap := Function.update world.heap world.fresh (some serdata)
          fresh := world.fresh + 1
          others := world.fresh :: world.others }
      else none
  | .addref address =>
      if address ∉ world.others then none
      else if (world.heap address).isNone then some world.fault
      else
        some { world with
          heap := ddsiSerdataAddref world.heap address
          others := address :: world.others }
  | .removeref address =>
      if address ∉ world.others then none
      else if (world.heap address).isNone then some world.fault
      else
        some { world with
          heap := ddsiSerdataRemoveref world.heap address
          others := world.others.erase address }
  | .readcdr take answer =>
      match world.buffer with
      | none => none
      | some buffer =>
          let addresses := handedOver answer
          if addresses.length ≤ buffer.len ∧
              ∀ address ∈ addresses, addresses.count address ≤ world.others.count address then
            if ∃ address ∈ addresses, (world.heap address).isNone then some world.fault
            else
              let handed := handOver take world addresses
              match readcdrnFromEntityNow handed.heap buffer answer with
              | .error _ => some world.fault
              | .ok (_, heap, buffer) => some { handed with heap := heap, buffer := some buffer }
          else none
  | .clear =>
      match world.buffer with
      | none => none
      | some buffer =>
          match buffer.clear world.heap with
          | .error _ => some world.fault
          | .ok (heap, buffer) => some { world with heap := heap, buffer := some buffer }
  | .drop =>
      match world.buffer with
      | none => none
      | some buffer =>
          match buffer.drop world.heap with
          | .error _ => some world.fault
          | .ok heap => some { world with heap := heap, buffer := none }

def heldBySlots (slots : List (Slot T)) (address : Nat) : Nat :=
  heldBySamples (slots.map Slot.sample) address

def held (world : World T) (address : Nat) : Nat :=
  match world.buffer with
  | some buffer => heldBySlots buffer.slots address
  | none => 0

/-- No freed object was touched, and every reference counted is someone else's. -/
def Released (world : World T) : Prop :=
  world.faulted = false ∧
    ∀ address, refcount world.heap address = world.others.count address

/-! Slots -/

theorem heldBySlots_cons (slot : Slot T) (slots : List (Slot T)) (address : Nat) :
    heldBySlots (slot :: slots) address =
      heldBySlots slots address + if slot.sample.serdata = some address then 1 else 0 :=
  heldBySamples_cons slot.sample (slots.map Slot.sample) address

theorem removeref_dead (heap : Heap T) (address other : Nat) (dead : heap other = none) :
    ddsiSerdataRemoveref heap address other = none := by
  unfold ddsiSerdataRemoveref
  cases held : heap address with
  | none => exact dead
  | some serdata =>
      have different : other ≠ address := by
        rintro rfl
        rw [held] at dead
        cases dead
      by_cases last : serdata.serdata.refc = 1 <;> simp [last, serdataFree, different, dead]

theorem drop_dead (heap : Heap T) (sample : Sample T) (other : Nat) (dead : heap other = none) :
    Sample.drop heap sample other = none := by
  cases held : sample.serdata with
  | none => simpa [Sample.drop, held] using dead
  | some address => simpa [Sample.drop, held] using removeref_dead heap address other dead

theorem setSerdata_dead (heap : Heap T) (sample : Sample T) (serdata address : Nat) :
    (Sample.setSerdata heap sample serdata).1 address ≠ none ↔
      heap address ≠ none ∧ sample.serdata ≠ some address := by
  have same : (Sample.setSerdata heap sample serdata).1 =
      ddsiSerdataAddref (releaseBox heap sample) serdata := rfl
  rw [same, Ne, addref_live, ← releaseBox_live]

/-- What the loop over a batch leaves behind. An object still alive was displaced by
no slot: the loop has added one count and one holder for each time it was handed over. -/
structure SlotsSet (heap after : Heap T) (slots done : List (Slot T)) (addresses : List Nat) :
    Prop where
  dead : ∀ address, heap address = none → after address = none
  counts : ∀ address, after address ≠ none →
    refcount after address = refcount heap address + addresses.count address ∧
      heldBySlots done address = heldBySlots slots address + addresses.count address
  holders : ∀ address, heldBySlots done address ≤
    heldBySlots slots address + addresses.count address
  last : addresses ≠ [] → ∃ address ∈ addresses, after address ≠ none

theorem setSlots_cons (heap after : Heap T) (slot : Slot T) (slots done : List (Slot T))
    (item : BatchItem) (items : List BatchItem)
    (set : setSlots heap (slot :: slots) (item :: items) = .ok (after, done)) :
    ∃ first rest, setSerdata heap slot.sample item.serdata = .ok first ∧
      setSlots first.1 slots items = .ok (after, rest) ∧
        done = { sample := first.2, info := item.info } :: rest := by
  obtain ⟨first, head, set⟩ := bind_ok set
  obtain ⟨⟨last, rest⟩, tail, set⟩ := bind_ok set
  cases set
  exact ⟨first, rest, head, tail, rfl⟩

theorem setSlots_set (heap after : Heap T) (slots done : List (Slot T)) (items : List BatchItem)
    (fits : items.length ≤ slots.length) (set : setSlots heap slots items = .ok (after, done)) :
    SlotsSet heap after slots done (items.map BatchItem.serdata) := by
  induction items generalizing heap slots done with
  | nil =>
      have same : heap = after ∧ slots = done := by
        cases slots <;> cases set <;> exact ⟨rfl, rfl⟩
      obtain ⟨rfl, rfl⟩ := same
      constructor
      · exact fun _ dead => dead
      · simp
      · simp
      · simp
  | cons item items ih =>
      cases slots with
      | nil => simp at fits
      | cons slot slots =>
          obtain ⟨first, rest, head, tail, rfl⟩ :=
            setSlots_cons heap after slot slots done item items set
          obtain ⟨usable, live, rfl⟩ := (setSerdata_ok heap slot.sample item.serdata first).mp head
          have later := ih _ slots rest (by simpa using fits) tail
          have counted := fun address =>
            setSerdata_counts heap slot.sample item.serdata address live
          have alive := setSerdata_dead heap slot.sample item.serdata
          constructor
          · intro address dead
            apply later.dead address
            by_contra reached
            exact ((alive address).mp reached).1 dead
          · intro address reached
            have step : (Sample.setSerdata heap slot.sample item.serdata).1 address ≠ none :=
              fun dead => reached (later.dead address dead)
            have kept := ((alive address).mp step).2
            obtain ⟨counts, holders⟩ := later.counts address reached
            have here := counted address
            simp only [kept, ↓reduceIte, @eq_comm _ address] at here
            rw [counts, here, List.map_cons, List.count_cons, heldBySlots_cons, heldBySlots_cons,
              holders, if_neg kept]
            simp only [Sample.setSerdata, Option.some.injEq, beq_iff_eq]
            constructor <;> omega
          · intro address
            have bounded := later.holders address
            rw [List.map_cons, List.count_cons, heldBySlots_cons, heldBySlots_cons]
            simp only [Sample.setSerdata, Option.some.injEq, beq_iff_eq]
            omega
          · intro _
            by_cases more : items = []
            · subst more
              have same : (Sample.setSerdata heap slot.sample item.serdata).1 = after := by
                cases slots <;> cases tail <;> rfl
              refine ⟨item.serdata, List.mem_cons_self, ?_⟩
              rw [← same]
              exact (alive item.serdata).mpr live
            · obtain ⟨address, member, reached⟩ := later.last (by simpa using more)
              exact ⟨address, List.mem_cons_of_mem _ member, reached⟩

theorem clearSlots_cons (heap after : Heap T) (slot : Slot T) (slots done : List (Slot T)) :
    clearSlots heap (slot :: slots) = .ok (after, done) ↔
      (∀ address, slot.sample.serdata = some address → heap address ≠ none) ∧
        ∃ rest, clearSlots (Sample.drop heap slot.sample) slots = .ok (after, rest) ∧
          done = { slot with sample := .default } :: rest := by
  constructor
  · intro cleared
    obtain ⟨first, head, cleared⟩ := bind_ok cleared
    obtain ⟨usable, rfl⟩ := (freeContents_ok heap slot.sample first).mp head
    obtain ⟨⟨last, rest⟩, tail, cleared⟩ := bind_ok cleared
    cases cleared
    exact ⟨usable, rest, tail, rfl⟩
  · rintro ⟨usable, rest, tail, rfl⟩
    have head := (freeContents_ok heap slot.sample _).mpr ⟨usable, rfl⟩
    simp [clearSlots, head, tail, bind, Except.bind, pure, Except.pure]

/-- Slots whose counts are covered are cleared without a fault. -/
theorem clearSlots_covered (heap : Heap T) (slots : List (Slot T))
    (covered : ∀ address, heldBySlots slots address ≤ refcount heap address) :
    ∃ after done, clearSlots heap slots = .ok (after, done) := by
  induction slots generalizing heap with
  | nil => exact ⟨heap, [], rfl⟩
  | cons slot slots ih =>
      simp only [heldBySlots_cons] at covered
      have tail : ∀ address, heldBySlots slots address ≤
          refcount (Sample.drop heap slot.sample) address := by
        intro address
        have bounded := covered address
        rw [released_refcount]
        omega
      obtain ⟨after, done, cleared⟩ := ih _ tail
      refine ⟨after, _, (clearSlots_cons heap after slot slots _).mpr ⟨?_, done, cleared, rfl⟩⟩
      intro address holds dead
      have bounded := covered address
      rw [if_pos holds, refcount_of_none heap address dead] at bounded
      omega

/-- Clearing takes away each count of the slots; a slot that still holds a freed
object would have ended it. -/
structure SlotsCleared (heap after : Heap T) (slots done : List (Slot T)) : Prop where
  dead : ∀ address, heap address = none → after address = none ∧ heldBySlots slots address = 0
  counts : ∀ address,
    refcount after address = refcount heap address - heldBySlots slots address
  empty : ∀ address, heldBySlots done address = 0

theorem clearSlots_cleared (heap after : Heap T) (slots done : List (Slot T))
    (cleared : clearSlots heap slots = .ok (after, done)) :
    SlotsCleared heap after slots done := by
  induction slots generalizing heap done with
  | nil =>
      cases cleared
      constructor
      · exact fun _ dead => ⟨dead, rfl⟩
      · exact fun _ => rfl
      · exact fun _ => rfl
  | cons slot slots ih =>
      obtain ⟨usable, rest, tail, rfl⟩ := (clearSlots_cons heap after slot slots done).mp cleared
      have later := ih _ rest tail
      constructor
      · intro address dead
        obtain ⟨gone, unheld⟩ := later.dead address (drop_dead heap slot.sample address dead)
        have other : slot.sample.serdata ≠ some address := fun holds => usable address holds dead
        exact ⟨gone, by rw [heldBySlots_cons, unheld, if_neg other]⟩
      · intro address
        rw [later.counts, released_refcount, heldBySlots_cons]
        omega
      · intro address
        rw [heldBySlots_cons, later.empty]
        simp [Sample.default]

theorem dropSlots_clear (heap : Heap T) (slots : List (Slot T)) :
    dropSlots heap slots = (clearSlots heap slots).map Prod.fst := by
  induction slots generalizing heap with
  | nil => rfl
  | cons slot slots ih =>
      cases usable : ReadBuffer.usable heap slot.sample.serdata with
      | false => simp [dropSlots, clearSlots, dropSample, freeContents, usable, bind, Except.bind,
          Except.map]
      | true =>
          have same : (Sample.freeContents heap slot.sample).1 = Sample.drop heap slot.sample := rfl
          simp only [dropSlots, clearSlots, dropSample, freeContents, usable, ↓reduceIte, bind,
            Except.bind, ih, same]
          cases clearSlots (Sample.drop heap slot.sample) slots <;> rfl

/-! The ledger of a run -/

/-- Some read of the run has returned something. -/
def Returned (actions : List (Action T)) : Prop :=
  ∃ take answer, Action.readcdr take answer ∈ actions ∧ handedOver answer ≠ []

structure Sound (returned : Prop) (world : World T) : Prop where
  fresh : ∀ address, world.fresh ≤ address →
    world.heap address = none ∧ world.others.count address = 0 ∧ held world address = 0
  covered : ∀ address, world.heap address ≠ none →
    world.others.count address + held world address ≤ refcount world.heap address
  leaked : returned → ∃ address,
    world.others.count address + held world address < refcount world.heap address
  quiet : ¬ returned → ∀ address,
    refcount world.heap address = world.others.count address ∧ held world address = 0

structure Inv (past : List (Action T)) (world : World T) : Prop where
  faulted : world.faulted = true → Returned past
  sound : world.faulted = false → Sound (Returned past) world

theorem init_inv (len : Nat) : Inv [] (World.init len : World T) := by
  have empty : ∀ address, held (World.init len : World T) address = 0 := by
    intro address
    simp [held, World.init, heldBySlots, heldBySamples, SampleBuffer.new, Sample.default,
      List.count_replicate]
  constructor
  · intro impossible
    cases impossible
  · intro _
    constructor
    · exact fun address _ => ⟨rfl, rfl, empty address⟩
    · exact fun address live => absurd rfl live
    · rintro ⟨take, answer, member, -⟩
      cases member
    · exact fun _ address => ⟨rfl, empty address⟩

def gives : Action T → Prop
  | .readcdr _ answer => handedOver answer ≠ []
  | .create _ | .addref _ | .removeref _ | .clear | .drop => False

theorem returned_append (past : List (Action T)) (action : Action T) :
    Returned (past ++ [action]) ↔ Returned past ∨ gives action := by
  constructor
  · rintro ⟨take, answer, member, returned⟩
    rcases List.mem_append.mp member with before | now
    · exact .inl ⟨take, answer, before, returned⟩
    · rw [← List.mem_singleton.mp now]
      exact .inr returned
  · rintro (⟨take, answer, before, returned⟩ | now)
    · exact ⟨take, answer, List.mem_append_left _ before, returned⟩
    · cases action with
      | readcdr take answer =>
          exact ⟨take, answer, List.mem_append_right _ (List.mem_singleton_self _), now⟩
      | create | addref | removeref | clear | drop => exact now.elim

/-- A step that moves as many counts as holders and hands nothing over. -/
theorem balanced_sound (returned : Prop) (world next : World T) (sound : Sound returned world)
    (fresh : next.fresh = world.fresh)
    (dead : ∀ address, world.heap address = none → next.heap address = none)
    (moved : ∀ address, refcount next.heap address +
        (world.others.count address + held world address) =
      refcount world.heap address + (next.others.count address + held next address))
    (fewer : ∀ address, held next address ≤ held world address) : Sound returned next := by
  constructor
  · intro address unused
    rw [fresh] at unused
    obtain ⟨gone, unowned, unheld⟩ := sound.fresh address unused
    have after := dead address gone
    have counts := moved address
    rw [refcount_of_none _ _ gone, refcount_of_none _ _ after, unowned, unheld] at counts
    exact ⟨after, by omega, by omega⟩
  · intro address live
    have before := sound.covered address fun gone => live (dead address gone)
    have counts := moved address
    omega
  · intro handed
    obtain ⟨address, more⟩ := sound.leaked handed
    have counts := moved address
    exact ⟨address, by omega⟩
  · intro none address
    obtain ⟨same, unheld⟩ := sound.quiet none address
    have counts := moved address
    have bounded := fewer address
    constructor <;> omega

theorem create_sound (returned : Prop) (world next : World T) (serdata : SerData T)
    (sound : Sound returned world) (taken : step world (.create serdata) = some next) :
    Sound returned next := by
  obtain ⟨one, ⟨⟩⟩ := Option.ite_none_right_eq_some.mp taken
  obtain ⟨unused, unowned, unheld⟩ := sound.fresh world.fresh (Nat.le_refl _)
  constructor
  · intro address above
    have different : address ≠ world.fresh := by
      rintro rfl
      exact Nat.not_succ_le_self _ above
    obtain ⟨gone, free, out⟩ := sound.fresh address (Nat.le_of_succ_le above)
    exact ⟨by simpa [different] using gone, by simpa [Ne.symm different] using free, out⟩
  · intro address live
    rw [refcount_update, List.count_cons]
    by_cases new : address = world.fresh
    · subst new
      simp only [held] at unheld
      simp [held, unowned, unheld, one]
    · have before := sound.covered address (by simpa [new] using live)
      simpa [held, new, Ne.symm new] using before
  · intro handed
    obtain ⟨address, more⟩ := sound.leaked handed
    have old : address ≠ world.fresh := by
      rintro rfl
      rw [refcount_of_none _ _ unused] at more
      exact Nat.not_lt_zero _ more
    exact ⟨address, by simpa [held, refcount_update, old, Ne.symm old] using more⟩
  · intro none address
    obtain ⟨same, out⟩ := sound.quiet none address
    refine ⟨?_, out⟩
    rw [refcount_update, List.count_cons]
    by_cases new : address = world.fresh
    · subst new
      simp [unowned, one]
    · simpa [new, Ne.symm new] using same

theorem addref_sound (returned : Prop) (world : World T) (address : Nat)
    (sound : Sound returned world) (live : world.heap address ≠ none) :
    Sound returned { world with
      heap := ddsiSerdataAddref world.heap address
      others := address :: world.others } := by
  refine balanced_sound returned world _ sound rfl ?_ ?_ fun _ => Nat.le_refl _
  · intro other gone
    exact (addref_live world.heap address other).mpr gone
  · intro other
    simp only [held, addref_refcount world.heap address other live, List.count_cons, beq_iff_eq,
      @eq_comm _ other]
    omega

theorem removeref_sound (returned : Prop) (world : World T) (address : Nat)
    (sound : Sound returned world) (live : world.heap address ≠ none)
    (owned : address ∈ world.others) :
    Sound returned { world with
      heap := ddsiSerdataRemoveref world.heap address
      others := world.others.erase address } := by
  refine balanced_sound returned world _ sound rfl ?_ ?_ fun _ => Nat.le_refl _
  · exact removeref_dead world.heap address
  · intro other
    simp only [held, removeref_refcount, List.count_erase, beq_iff_eq, @eq_comm _ other]
    by_cases same : address = other
    · subst same
      have counted := List.count_pos_iff.mpr owned
      have bounded := sound.covered address live
      simp only [↓reduceIte]
      omega
    · simp [same]

theorem cleared_sound (returned : Prop) (world : World T) (buffer : SampleBuffer T)
    (after : Heap T) (done : List (Slot T)) (next : Option (SampleBuffer T))
    (sound : Sound returned world) (current : world.buffer = some buffer)
    (cleared : clearSlots world.heap buffer.slots = .ok (after, done))
    (unheld : ∀ address, held { world with heap := after, buffer := next } address = 0) :
    Sound returned { world with heap := after, buffer := next } := by
  have spec := clearSlots_cleared world.heap after buffer.slots done cleared
  have holds : ∀ address, held world address = heldBySlots buffer.slots address := by
    intro address
    simp [held, current]
  refine balanced_sound returned world _ sound rfl (fun address gone => (spec.dead address gone).1)
    ?_ ?_
  · intro address
    rw [unheld, holds, spec.counts]
    dsimp only
    by_cases gone : world.heap address = none
    · rw [(spec.dead address gone).2]
      omega
    · have bounded := sound.covered address gone
      rw [holds] at bounded
      omega
  · intro address
    rw [unheld]
    exact Nat.zero_le _

/-! Reads -/

theorem addrefs_counts (heap : Heap T) (addresses : List Nat)
    (live : ∀ address ∈ addresses, heap address ≠ none) :
    (∀ address, addresses.foldl ddsiSerdataAddref heap address = none ↔ heap address = none) ∧
      ∀ address, refcount (addresses.foldl ddsiSerdataAddref heap) address =
        refcount heap address + addresses.count address := by
  induction addresses generalizing heap with
  | nil => exact ⟨fun _ => Iff.rfl, fun _ => rfl⟩
  | cons first rest ih =>
      have alive := addref_live heap first
      obtain ⟨dead, counts⟩ := ih (ddsiSerdataAddref heap first) fun address member gone =>
        live address (List.mem_cons_of_mem _ member) ((alive address).mp gone)
      constructor
      · intro address
        exact (dead address).trans (alive address)
      · intro address
        rw [List.foldl_cons, counts, addref_refcount heap first address (live first List.mem_cons_self),
          List.count_cons]
        simp only [beq_iff_eq, @eq_comm _ address]
        omega

/-- The references handed over, before the buffer has set any. -/
structure Handed (world handed : World T) (addresses : List Nat) : Prop where
  fresh : handed.fresh = world.fresh
  buffer : handed.buffer = world.buffer
  dead : ∀ address, handed.heap address = none ↔ world.heap address = none
  counts : ∀ address, refcount handed.heap address + world.others.count address =
    refcount world.heap address + handed.others.count address + addresses.count address
  others : ∀ address, handed.others.count address ≤ world.others.count address

theorem handOver_handed (take : Bool) (world : World T) (addresses : List Nat)
    (live : ∀ address ∈ addresses, world.heap address ≠ none)
    (owned : ∀ address ∈ addresses, addresses.count address ≤ world.others.count address) :
    Handed world (handOver take world addresses) addresses := by
  cases take with
  | false =>
      obtain ⟨dead, counts⟩ := addrefs_counts world.heap addresses live
      constructor
      · rfl
      · rfl
      · exact dead
      · intro address
        simp only [handOver, Bool.false_eq_true, ↓reduceIte, counts]
        omega
      · exact fun _ => Nat.le_refl _
  | true =>
      constructor
      · rfl
      · rfl
      · exact fun _ => Iff.rfl
      · intro address
        have covered : addresses.count address ≤ world.others.count address := by
          by_cases member : address ∈ addresses
          · exact owned address member
          · rw [List.count_eq_zero.mpr member]
            exact Nat.zero_le _
        simp only [handOver, ↓reduceIte, List.count_diff]
        omega
      · intro address
        simp only [handOver, ↓reduceIte, List.count_diff]
        omega

theorem set_sound (returned : Prop) (world handed : World T) (buffer : SampleBuffer T)
    (items : List BatchItem) (after : Heap T) (done : List (Slot T)) (size : Nat)
    (sound : Sound returned world) (current : world.buffer = some buffer)
    (fits : items.length ≤ buffer.slots.length) (nonempty : items ≠ [])
    (moved : Handed world handed (items.map BatchItem.serdata))
    (live : ∀ address ∈ items.map BatchItem.serdata, world.heap address ≠ none)
    (set : setSlots handed.heap buffer.slots items = .ok (after, done)) :
    Sound True { handed with heap := after, buffer := some { slots := done, size := size } } := by
  have spec := setSlots_set handed.heap after buffer.slots done items fits set
  have holds : ∀ address, held world address = heldBySlots buffer.slots address := by
    intro address
    simp [held, current]
  have living : ∀ address, after address ≠ none → world.heap address ≠ none :=
    fun address reached gone => reached (spec.dead address ((moved.dead address).mpr gone))
  constructor
  · intro address unused
    dsimp only at unused
    rw [moved.fresh] at unused
    obtain ⟨gone, unowned, unheld⟩ := sound.fresh address unused
    have unhanded : (items.map BatchItem.serdata).count address = 0 :=
      List.count_eq_zero.mpr fun member => live address member gone
    have holders := spec.holders address
    have others := moved.others address
    rw [holds] at unheld
    refine ⟨spec.dead address ((moved.dead address).mpr gone), ?_, ?_⟩
    · dsimp only
      omega
    · simp only [held]
      omega
  · intro address reached
    obtain ⟨counts, holders⟩ := spec.counts address reached
    have before := sound.covered address (living address reached)
    have given := moved.counts address
    rw [holds] at before
    simp only [held]
    omega
  · intro _
    obtain ⟨address, member, reached⟩ := spec.last (by simpa using nonempty)
    obtain ⟨counts, holders⟩ := spec.counts address reached
    have before := sound.covered address (living address reached)
    have given := moved.counts address
    have counted := List.count_pos_iff.mpr member
    rw [holds] at before
    refine ⟨address, ?_⟩
    simp only [held]
    omega
  · exact fun none => absurd trivial none

theorem readcdrn_nothing (heap : Heap T) (buffer : SampleBuffer T) (answer : DdsAnswer)
    (nothing : handedOver answer = []) :
    ∃ result, readcdrnFromEntityNow heap buffer answer =
      .ok (result, heap, { buffer with size := 0 }) := by
  by_cases capacity : buffer.len = 0
  · exact ⟨.error .badParameter, by simp [readcdrnFromEntityNow, SampleBuffer.beginRead, capacity]⟩
  · cases answer with
    | failed code =>
        exact ⟨_, by simp [readcdrnFromEntityNow, SampleBuffer.beginRead, capacity]; rfl⟩
    | batch items =>
        have empty : items = [] := List.map_eq_nil_iff.mp nothing
        subst empty
        exact ⟨.error .noData, by simp [readcdrnFromEntityNow, SampleBuffer.beginRead, capacity]⟩

theorem readcdrn_batch (heap after : Heap T) (buffer next : SampleBuffer T)
    (items : List BatchItem) (result : Except DdsError.DDSError Nat) (nonempty : items ≠ [])
    (fits : items.length ≤ buffer.len)
    (read : readcdrnFromEntityNow heap buffer (.batch items) = .ok (result, after, next)) :
    ∃ done, setSlots heap buffer.slots items = .ok (after, done) ∧
      next = { slots := done, size := items.length } := by
  have some : items.length ≠ 0 := fun none => nonempty (List.length_eq_zero_iff.mp none)
  have capacity : buffer.len ≠ 0 := by omega
  simp only [readcdrnFromEntityNow, SampleBuffer.beginRead, capacity, some, ↓reduceIte] at read
  obtain ⟨⟨last, done⟩, set, read⟩ := bind_ok read
  cases read
  exact ⟨done, set, rfl⟩

/-- What a step makes of a sound world: either a sound one or, after something has been
returned, a fault. -/
def Lands (returned : Prop) (next : World T) : Prop :=
  (next.faulted = true → returned) ∧ (next.faulted = false → Sound returned next)

theorem lands_sound (returned : Prop) (next : World T) (unfaulted : next.faulted = false)
    (sound : Sound returned next) : Lands returned next :=
  ⟨fun faulted => by simp [unfaulted] at faulted, fun _ => sound⟩

theorem lands_fault (returned : Prop) (world : World T) (cause : returned) :
    Lands returned world.fault :=
  ⟨fun _ => cause, nofun⟩

/-- As long as nothing has been returned, what somebody holds is alive. -/
theorem dead_returned (returned : Prop) (world : World T) (address : Nat)
    (sound : Sound returned world) (owned : address ∈ world.others)
    (dead : world.heap address = none) : returned := by
  by_contra none
  have counts := (sound.quiet none address).1
  have counted := List.count_pos_iff.mpr owned
  rw [refcount_of_none _ _ dead] at counts
  omega

theorem clear_returned (returned : Prop) (world : World T) (buffer : SampleBuffer T)
    (fault : Fault) (sound : Sound returned world) (current : world.buffer = some buffer)
    (failed : clearSlots world.heap buffer.slots = .error fault) : returned := by
  by_contra none
  have covered : ∀ address, heldBySlots buffer.slots address ≤ refcount world.heap address := by
    intro address
    have unheld := (sound.quiet none address).2
    simp only [held, current] at unheld
    omega
  obtain ⟨after, done, cleared⟩ := clearSlots_covered world.heap buffer.slots covered
  rw [failed] at cleared
  cases cleared

theorem unread_sound (returned : Prop) (world : World T) (buffer : SampleBuffer T)
    (sound : Sound returned world) (current : world.buffer = some buffer) :
    Sound returned { world with buffer := some { buffer with size := 0 } } := by
  refine balanced_sound returned world _ sound rfl (fun _ dead => dead) ?_ ?_
  · simp [held, current]
  · simp [held, current]

theorem readcdr_lands (returned : Prop) (world next : World T) (take : Bool) (answer : DdsAnswer)
    (sound : Sound returned world) (unfaulted : world.faulted = false)
    (taken : step world (.readcdr take answer) = some next) :
    Lands (returned ∨ handedOver answer ≠ []) next := by
  cases current : world.buffer with
  | none => simp [step, current] at taken
  | some buffer =>
      simp only [step, current] at taken
      obtain ⟨⟨fits, owned⟩, taken⟩ := Option.ite_none_right_eq_some.mp taken
      split at taken
      · rename_i gone
        obtain ⟨address, member, -⟩ := gone
        cases taken
        exact lands_fault _ world (.inr (List.ne_nil_of_mem member))
      · rename_i alive
        have live : ∀ address ∈ handedOver answer, world.heap address ≠ none := by
          intro address member dead
          exact alive ⟨address, member, by simp [dead]⟩
        have moved := handOver_handed take world (handedOver answer) live owned
        by_cases nothing : handedOver answer = []
        · obtain ⟨result, read⟩ := readcdrn_nothing (handOver take world (handedOver answer)).heap
            buffer answer nothing
          rw [read] at taken
          cases taken
          have same : handOver take world (handedOver answer) = world := by
            cases take <;> simp [handOver, nothing]
          rw [same]
          apply lands_sound
          · exact unfaulted
          · simpa [nothing] using unread_sound returned world buffer sound current
        · split at taken
          · cases taken
            exact lands_fault _ world (.inr nothing)
          · rename_i result after filled read
            cases taken
            cases answer with
            | failed code => exact absurd rfl nothing
            | batch items =>
                have nonempty : items ≠ [] := fun empty => nothing (by simp [handedOver, empty])
                have capacity : items.length ≤ buffer.len := by simpa [handedOver] using fits
                obtain ⟨done, set, rfl⟩ :=
                  readcdrn_batch _ after buffer filled items result nonempty capacity read
                have after := set_sound returned world _ buffer items after done items.length sound
                  current capacity nonempty moved live set
                apply lands_sound
                · cases take <;> exact unfaulted
                · simpa [nothing] using after

theorem clear_lands (returned : Prop) (world next : World T) (sound : Sound returned world)
    (unfaulted : world.faulted = false) (taken : step world .clear = some next) :
    Lands returned next := by
  cases current : world.buffer with
  | none => simp [step, current] at taken
  | some buffer =>
      simp only [step, current, SampleBuffer.clear] at taken
      cases cleared : clearSlots world.heap buffer.slots with
      | error fault =>
          simp only [cleared, bind, Except.bind, Option.some.injEq] at taken
          subst taken
          exact lands_fault _ world (clear_returned returned world buffer fault sound current cleared)
      | ok result =>
          simp only [cleared, bind, Except.bind, pure, Except.pure, Option.some.injEq] at taken
          subst taken
          apply lands_sound
          · exact unfaulted
          · apply cleared_sound returned world buffer result.1 result.2 _ sound current cleared
            exact (clearSlots_cleared world.heap result.1 buffer.slots result.2 cleared).empty

theorem drop_lands (returned : Prop) (world next : World T) (sound : Sound returned world)
    (unfaulted : world.faulted = false) (taken : step world .drop = some next) :
    Lands returned next := by
  cases current : world.buffer with
  | none => simp [step, current] at taken
  | some buffer =>
      simp only [step, current, SampleBuffer.drop, dropSlots_clear] at taken
      cases cleared : clearSlots world.heap buffer.slots with
      | error fault =>
          simp only [cleared, Except.map, Option.some.injEq] at taken
          subst taken
          exact lands_fault _ world (clear_returned returned world buffer fault sound current cleared)
      | ok result =>
          simp only [cleared, Except.map, Option.some.injEq] at taken
          subst taken
          apply lands_sound
          · exact unfaulted
          · exact cleared_sound returned world buffer result.1 result.2 none sound current cleared
              fun _ => rfl

/-- A step that only someone who holds a reference to a live object may take. -/
theorem owned_lands (returned : Prop) (world next changed : World T) (address : Nat)
    (sound : Sound returned world)
    (taken : (if address ∉ world.others then none
      else if (world.heap address).isNone then some world.fault else some changed) = some next)
    (unfaulted : changed.faulted = false)
    (kept : world.heap address ≠ none → address ∈ world.others → Sound returned changed) :
    Lands returned next := by
  obtain ⟨owned, taken⟩ := Option.ite_none_left_eq_some.mp taken
  rw [not_not] at owned
  split at taken <;> cases taken
  · rename_i dead
    have gone := Option.isNone_iff_eq_none.mp dead
    exact lands_fault _ world (dead_returned returned world address sound owned gone)
  · rename_i alive
    exact lands_sound returned _ unfaulted (kept (by simpa using alive) owned)

theorem step_lands (returned : Prop) (world next : World T) (action : Action T)
    (sound : Sound returned world) (unfaulted : world.faulted = false)
    (taken : step world action = some next) : Lands (returned ∨ gives action) next := by
  cases action with
  | create serdata =>
      have after := create_sound returned world next serdata sound taken
      obtain ⟨-, ⟨⟩⟩ := Option.ite_none_right_eq_some.mp taken
      apply lands_sound
      · exact unfaulted
      · simpa [gives] using after
  | addref address =>
      have lands := owned_lands returned world next _ address sound taken unfaulted
        fun live _ => addref_sound returned world address sound live
      simpa [gives] using lands
  | removeref address =>
      have lands := owned_lands returned world next _ address sound taken unfaulted
        fun live owned => removeref_sound returned world address sound live owned
      simpa [gives] using lands
  | readcdr take answer => exact readcdr_lands returned world next take answer sound unfaulted taken
  | clear => simpa [gives] using clear_lands returned world next sound unfaulted taken
  | drop => simpa [gives] using drop_lands returned world next sound unfaulted taken

theorem step_faulted (world next : World T) (action : Action T) (faulted : world.faulted = true)
    (taken : step world action = some next) : next.faulted = true := by
  cases action with
  | create serdata =>
      obtain ⟨-, ⟨⟩⟩ := Option.ite_none_right_eq_some.mp taken
      exact faulted
  | addref address | removeref address =>
      obtain ⟨-, taken⟩ := Option.ite_none_left_eq_some.mp taken
      split at taken <;> cases taken
      · rfl
      · exact faulted
  | readcdr take answer =>
      simp only [step] at taken
      split at taken
      · cases taken
      · obtain ⟨-, taken⟩ := Option.ite_none_right_eq_some.mp taken
        split at taken
        · cases taken
          rfl
        · split at taken <;> cases taken
          · rfl
          · cases take <;> exact faulted
  | clear | drop =>
      simp only [step] at taken
      split at taken
      · cases taken
      · split at taken <;> cases taken
        · rfl
        · exact faulted

theorem step_inv (past : List (Action T)) (world : World T) (action : Action T) (next : World T)
    (inv : Inv past world) (taken : step world action = some next) :
    Inv (past ++ [action]) next := by
  have grown := returned_append past action
  cases faulted : world.faulted with
  | true =>
      have after := step_faulted world next action faulted taken
      constructor
      · intro _
        exact grown.mpr (.inl (inv.faulted faulted))
      · intro unfaulted
        rw [after] at unfaulted
        cases unfaulted
  | false =>
      have lands := step_lands (Returned past) world next action (inv.sound faulted) faulted taken
      rw [← grown] at lands
      exact ⟨lands.1, lands.2⟩

/-- Once the buffer is dropped, exactly the references of the others are left if and
only if no read has returned anything. -/
theorem released_iff (len : Nat) (actions : List (Action T)) (final : World T)
    (run : exec step (World.init len) (actions ++ [.drop]) = some final) :
    Released final ↔ ∀ take answer, .readcdr take answer ∈ actions → handedOver answer = [] := by
  have inv := exec_invariant step Inv step_inv [] (actions ++ [.drop]) _ final (init_inv len) run
  rw [List.nil_append] at inv
  have returned : Returned (actions ++ [.drop]) ↔
      ∃ take answer, Action.readcdr take answer ∈ actions ∧ handedOver answer ≠ [] := by
    rw [returned_append]
    exact or_iff_left id
  constructor
  · rintro ⟨unfaulted, counts⟩ take answer member
    by_contra something
    have sound := inv.sound unfaulted
    obtain ⟨address, more⟩ := sound.leaked (returned.mpr ⟨take, answer, member, something⟩)
    rw [counts] at more
    omega
  · intro nothing
    have none : ¬ Returned (actions ++ [.drop]) := by
      rw [returned]
      rintro ⟨take, answer, member, something⟩
      exact something (nothing take answer member)
    have unfaulted : final.faulted = false := by
      cases faulted : final.faulted with
      | false => rfl
      | true => exact absurd (inv.faulted faulted) none
    exact ⟨unfaulted, fun address => ((inv.sound unfaulted).quiet none address).1⟩

end Runs

/-! Runs of a buffer with one slot. -/

theorem released_taken : ∃ final : World Unit,
    exec step (World.init 1)
        ([.create cachedSerdata,
          .readcdr true (.batch
            [{ serdata := 0, info := { validData := true, sourceTimestamp := 0 } }])] ++
          [.drop]) = some final ∧
      (Released final ↔ ∀ take answer,
        Action.readcdr take answer ∈
            [Action.create cachedSerdata,
              .readcdr true (.batch
                [{ serdata := 0, info := { validData := true, sourceTimestamp := 0 } }])] →
          handedOver answer = []) :=
  ⟨_, rfl, released_iff 1 _ _ rfl⟩

/-- The one object is taken; its only reference passes to the buffer, and the drop
leaves it with a count of 1 and no holder. -/
theorem taken_serdata_leaks : ∃ final : World Unit,
    exec step (World.init 1)
        [.create cachedSerdata,
          .readcdr true (.batch
            [{ serdata := 0, info := { validData := true, sourceTimestamp := 0 } }]),
          .drop] = some final ∧
      final.buffer.isNone ∧ final.others = [] ∧ refcount final.heap 0 = 1 ∧ ¬ Released final := by
  refine ⟨_, rfl, rfl, rfl, rfl, ?_⟩
  rintro ⟨-, counts⟩
  exact absurd (counts 0) (by decide)

end CycloneddsRs.CdrReads
