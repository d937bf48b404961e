import CycloneddsRs.SampleHeap
import CycloneddsRs.StepRuns
import Mathlib.Data.List.Chain
import Mathlib.Data.List.Range

/-!
sertype.rs: the arrays of samples that the C library grows, shrinks and frees. An array is
handed to C as a leaked vector of boxes, of which C keeps the pointer and the length. The
capacity is known to the allocator alone.
-/

namespace CycloneddsRs.SampleArrays
open Serdes SampleHeap StepRuns

/-- How much room the standard library asks for: for the elements of an iterator of known
length, and for more elements than a vector of this capacity can take. -/
structure VecPolicy where
  collect : Nat → Nat
  grow : Nat → Nat → Nat
  collect_fits : ∀ length, length ≤ collect length
  grow_fits : ∀ capacity required, required ≤ grow capacity required

/-- The amortized growth of the standard library, for elements of pointer size. -/
def amortized : VecPolicy where
  collect length := length
  grow capacity required := max (max (capacity * 2) required) 4
  collect_fits _ := Nat.le_refl _
  grow_fits _ _ := by omega

structure Leaked where
  pointers : List Nat
  capacity : Nat
  deriving DecidableEq

/-- A use of `Vec::from_raw_parts` with the buffer that it was given. -/
structure Rebuild where
  length : Nat
  capacity : Nat
  buffer : Leaked
  deriving DecidableEq

def Rebuild.Accurate (rebuild : Rebuild) : Prop :=
  rebuild.length = rebuild.buffer.pointers.length ∧ rebuild.capacity = rebuild.buffer.capacity

/-- A vector of pointers, as wide as it takes itself to be and as it was allocated. -/
structure PointerVec where
  elements : List Nat
  capacity : Nat
  allocated : Nat

def PointerVec.extend (policy : VecPolicy) (vec : PointerVec) (items : List Nat) : PointerVec :=
  let required := vec.elements.length + items.length
  if required ≤ vec.capacity then { vec with elements := vec.elements ++ items }
  else
    { elements := vec.elements ++ items
      capacity := policy.grow vec.capacity required
      allocated := policy.grow vec.capacity required }

def PointerVec.collect (policy : VecPolicy) (items : List Nat) : PointerVec :=
  { elements := items
    capacity := policy.collect items.length
    allocated := policy.collect items.length }

def PointerVec.leak (vec : PointerVec) : Leaked :=
  { pointers := vec.elements, capacity := vec.allocated }

variable {T : Type}

/-- `next` has not been allocated, nor has any address above it. -/
structure Memory (T : Type) where
  boxes : Nat → Option (Sample T)
  next : Nat
  freed : List Nat
  rebuilt : List Rebuild
  serdatas : Heap T

def Memory.init : Memory T :=
  { boxes := fun _ => none, next := 0, freed := [], rebuilt := [], serdatas := fun _ => none }

/-- `Box::into_raw(Box::default())`. -/
def Memory.boxDefault (memory : Memory T) : Nat × Memory T :=
  (memory.next,
    { memory with
      boxes := Function.update memory.boxes memory.next (some Sample.default)
      next := memory.next + 1 })

def Memory.takeDefaults (memory : Memory T) : Nat → List Nat × Memory T
  | 0 => ([], memory)
  | count + 1 =>
      let (pointer, boxed) := memory.boxDefault
      let (rest, after) := boxed.takeDefaults count
      (pointer :: rest, after)

/-- `Box::from_raw`, whose result is dropped on the spot. -/
def Memory.dropBox (memory : Memory T) (pointer : Nat) : Memory T :=
  { memory with
    boxes := Function.update memory.boxes pointer none
    freed := memory.freed ++ [pointer]
    serdatas := match memory.boxes pointer with
      | some sample => Sample.drop memory.serdatas sample
      | none => memory.serdatas }

def Memory.freeContents (memory : Memory T) (pointer : Nat) : Memory T :=
  match memory.boxes pointer with
  | some sample =>
      let (serdatas, sample) := Sample.freeContents memory.serdatas sample
      { memory with
        boxes := Function.update memory.boxes pointer (some sample)
        serdatas := serdatas }
  | none => memory

def Memory.fromRawParts (memory : Memory T) (buffer : Leaked) (length capacity : Nat) :
    PointerVec × Memory T :=
  ({ elements := buffer.pointers.take length
     capacity := capacity
     allocated := buffer.capacity },
    { memory with
      rebuilt := memory.rebuilt ++ [{ length := length, capacity := capacity, buffer := buffer }] })

def sertypeReallocSamples (policy : VecPolicy) (old : Option Leaked) (oldCount newCount : Nat)
    (memory : Memory T) : Panics (Leaked × Memory T) :=
  if old.isSome ∧ oldCount = 0 then .error "old is not null but old_count is zero"
  else
    match old with
    | some old =>
        -- C keeps no capacity: the count stands in for it.
        let (vec, memory) := memory.fromRawParts old oldCount oldCount
        if newCount < oldCount then
          let kept := { vec with elements := vec.elements.take newCount }
          .ok (kept.leak, (vec.elements.drop newCount).foldl Memory.dropBox memory)
        else if newCount > oldCount then
          let (fresh, memory) := memory.takeDefaults (newCount - oldCount)
          .ok ((vec.extend policy fresh).leak, memory)
        else .ok (vec.leak, memory)
    | none =>
        let (fresh, memory) := memory.takeDefaults newCount
        .ok ((PointerVec.collect policy fresh).leak, memory)

def ddsFreeContentsBit : UInt32 := 0x02

def ddsFreeAllBit : UInt32 := 0x04

def sertypeFreeSamples (ptrs : Option Leaked) (len : Nat) (op : UInt32) (memory : Memory T) :
    Panics (Memory T) :=
  match ptrs with
  | none => .ok memory
  | some buffer =>
      if len = 0 then .ok memory
      else if op &&& ddsFreeAllBit ≠ 0 then
        let (samples, memory) := memory.fromRawParts buffer len len
        .ok (samples.elements.foldl Memory.dropBox memory)
      else if op &&& ddsFreeContentsBit = 0 then .error "assertion failed: left != right"
      else .ok ((buffer.pointers.take len).foldl Memory.freeContents memory)

/-! Histories -/

structure World (T : Type) where
  ptrs : Option Leaked
  count : Nat
  memory : Memory T

def World.init : World T := { ptrs := none, count := 0, memory := .init }

def World.pointers (world : World T) : List Nat :=
  match world.ptrs with
  | none => []
  | some array => array.pointers

/-- A call with the result of the one before. -/
def step (policy : VecPolicy) (world : World T) (newCount : Nat) : Option (World T) :=
  match sertypeReallocSamples policy world.ptrs world.count newCount world.memory with
  | .ok (array, memory) => some { ptrs := some array, count := newCount, memory := memory }
  | .error _ => none

structure Resized (world : World T) (newCount : Nat) (next : World T) : Prop where
  length : next.pointers.length = newCount
  kept : next.pointers.take (min world.count newCount) =
    world.pointers.take (min world.count newCount)
  fresh : ∀ pointer ∈ next.pointers.drop (min world.count newCount),
    world.memory.next ≤ pointer ∧ next.memory.boxes pointer = some Sample.default

/-- What a history of counts and the free at its end are to do. -/
structure Survives (T : Type) (policy : VecPolicy) (counts : List Nat) : Prop where
  each : Along (step policy) (Resized (T := T)) .init counts
  last : ∃ world memory, exec (step policy) (World.init (T := T)) counts = some world ∧
    sertypeFreeSamples world.ptrs world.count ddsFreeAllBit world.memory = .ok memory ∧
    (∀ pointer, pointer < memory.next → memory.freed.count pointer = 1) ∧
    ∀ rebuild ∈ memory.rebuilt, rebuild.Accurate

/-! Boxes -/

structure Boxed (memory : Memory T) (count : Nat) (fresh : List Nat)
    (after : Memory T) : Prop where
  addresses : fresh = List.range' memory.next count
  next : after.next = memory.next + count
  freed : after.freed = memory.freed
  rebuilt : after.rebuilt = memory.rebuilt
  below : ∀ pointer, pointer < memory.next → after.boxes pointer = memory.boxes pointer
  defaults : ∀ pointer ∈ fresh, after.boxes pointer = some Sample.default

theorem takeDefaults_boxed (memory : Memory T) (count : Nat) :
    Boxed memory count (memory.takeDefaults count).1 (memory.takeDefaults count).2 := by
  induction count generalizing memory with
  | zero =>
      constructor
      case defaults =>
        intro pointer inside
        cases inside
      case below => exact fun _ _ => rfl
      all_goals rfl
  | succ count ih =>
      have rest := ih memory.boxDefault.2
      constructor
      case addresses =>
        rw [List.range'_succ]
        exact congrArg (memory.next :: ·) rest.addresses
      case next =>
        have next : _ = memory.next + 1 + count := rest.next
        rw [Nat.add_right_comm] at next
        exact next
      case freed => exact rest.freed
      case rebuilt => exact rest.rebuilt
      case below =>
        intro pointer older
        have inside : pointer < memory.boxDefault.2.next := Nat.lt_succ_of_lt older
        have different : pointer ≠ memory.next := Nat.ne_of_lt older
        exact (rest.below pointer inside).trans (Function.update_of_ne different _ _)
      case defaults =>
        intro pointer inside
        cases inside with
        | head =>
            have inside : memory.next < memory.boxDefault.2.next := Nat.lt_succ_self _
            exact (rest.below memory.next inside).trans (Function.update_self _ _ _)
        | tail _ later => exact rest.defaults pointer later

theorem Boxed.length (memory : Memory T) (count : Nat) (fresh : List Nat) (after : Memory T)
    (boxed : Boxed memory count fresh after) : fresh.length = count := by
  rw [boxed.addresses, List.length_range']

theorem Boxed.new (memory : Memory T) (count : Nat) (fresh : List Nat) (after : Memory T)
    (boxed : Boxed memory count fresh after) (pointer : Nat) (inside : pointer ∈ fresh) :
    memory.next ≤ pointer ∧ after.boxes pointer = some Sample.default := by
  constructor
  · have range := inside
    rw [boxed.addresses] at range
    exact (List.mem_range'_1.mp range).1
  · exact boxed.defaults pointer inside

/-- Fresh boxes are in the array and have not been freed. -/
theorem Boxed.once (memory : Memory T) (count : Nat) (fresh : List Nat) (after : Memory T)
    (boxed : Boxed memory count fresh after) (pointers : List Nat)
    (once : ∀ pointer, memory.freed.count pointer + pointers.count pointer =
      if pointer < memory.next then 1 else 0) (pointer : Nat) :
    after.freed.count pointer + (pointers ++ fresh).count pointer =
      if pointer < after.next then 1 else 0 := by
  have before := once pointer
  rw [boxed.freed, boxed.next, List.count_append, boxed.addresses, List.count_range_1']
  split at before <;> split <;> split <;> omega

theorem dropBoxes_log (pointers : List Nat) (memory : Memory T) :
    (pointers.foldl Memory.dropBox memory).freed = memory.freed ++ pointers ∧
      (pointers.foldl Memory.dropBox memory).next = memory.next ∧
      (pointers.foldl Memory.dropBox memory).rebuilt = memory.rebuilt := by
  induction pointers generalizing memory with
  | nil => exact ⟨(List.append_nil _).symm, rfl, rfl⟩
  | cons pointer rest ih =>
      obtain ⟨freed, next, rebuilt⟩ := ih (memory.dropBox pointer)
      refine ⟨?_, next, rebuilt⟩
      rw [List.foldl_cons, freed, Memory.dropBox, List.append_assoc]
      rfl

/-! One call -/

/-- Every box is in the array or has been freed, and nothing is in both or there twice. -/
structure Sound (world : World T) (array : Leaked) : Prop where
  present : world.ptrs = some array
  counted : array.pointers.length = world.count
  once : ∀ pointer, world.memory.freed.count pointer + array.pointers.count pointer =
    if pointer < world.memory.next then 1 else 0

def capacityAfter (policy : VecPolicy) (array : Leaked) (newCount : Nat) : Nat :=
  if array.pointers.length < newCount then policy.grow array.pointers.length newCount
  else array.capacity

/-- What a call does to an array, and what it records. -/
structure Called (policy : VecPolicy) (world : World T) (array : Leaked) (newCount : Nat)
    (next : World T) (result : Leaked) : Prop where
  sound : Sound next result
  counted : next.count = newCount
  resized : Resized world newCount next
  capacity : result.capacity = capacityAfter policy array newCount
  rebuilt : next.memory.rebuilt = world.memory.rebuilt ++
    [{ length := world.count, capacity := world.count, buffer := array }]

theorem step_first (policy : VecPolicy) (newCount : Nat) :
    ∃ next result, step policy (World.init (T := T)) newCount = some next ∧
      Sound next result ∧ next.count = newCount ∧ Resized .init newCount next ∧
      result.capacity = policy.collect newCount ∧ next.memory.rebuilt = [] := by
  have boxed := takeDefaults_boxed (Memory.init (T := T)) newCount
  have length := boxed.length
  refine ⟨_, _, rfl, ⟨rfl, length, ?_⟩, rfl, ⟨length, ?_, ?_⟩, ?_, boxed.rebuilt⟩
  · intro pointer
    exact boxed.once _ _ _ _ [] (fun _ => rfl) pointer
  · rw [World.init, Nat.zero_min]
    rfl
  · rw [World.init, Nat.zero_min]
    exact boxed.new
  · exact congrArg policy.collect length

section Calls

variable (policy : VecPolicy) (world : World T) (array : Leaked) (newCount : Nat)

/-- The memory once the old vector is rebuilt. -/
def World.rebuilding (world : World T) (array : Leaked) : Memory T :=
  (world.memory.fromRawParts array world.count world.count).2

theorem fromRawParts_whole (sound : Sound world array) :
    world.memory.fromRawParts array world.count world.count =
      ({ elements := array.pointers, capacity := world.count, allocated := array.capacity },
        world.rebuilding array) := by
  have whole : array.pointers.take world.count = array.pointers := by
    rw [← sound.counted, List.take_length]
  rw [World.rebuilding, Memory.fromRawParts, whole]

theorem step_shrink (sound : Sound world array) (less : newCount < world.count) :
    step policy world newCount = some
      { ptrs := some { pointers := array.pointers.take newCount, capacity := array.capacity }
        count := newCount
        memory :=
          (array.pointers.drop newCount).foldl Memory.dropBox (world.rebuilding array) } := by
  have counted : ¬ world.count = 0 := by omega
  simp only [step, sertypeReallocSamples, sound.present, Option.isSome_some, true_and, counted,
    if_false, fromRawParts_whole world array sound, less, if_true]
  rfl

/-- The vector takes itself to be full, so it asks for room. -/
theorem step_grow (sound : Sound world array) (positive : 0 < world.count)
    (more : world.count < newCount) :
    let boxed := (world.rebuilding array).takeDefaults (newCount - world.count)
    step policy world newCount = some
      { ptrs := some { pointers := array.pointers ++ boxed.1
                       capacity := policy.grow world.count newCount }
        count := newCount
        memory := boxed.2 } := by
  have counted : ¬ world.count = 0 := by omega
  have less : ¬ newCount < world.count := by omega
  have length := (takeDefaults_boxed (world.rebuilding array) (newCount - world.count)).length
  have required : array.pointers.length +
      ((world.rebuilding array).takeDefaults (newCount - world.count)).1.length = newCount := by
    rw [length, sound.counted]
    omega
  have full : ¬ newCount ≤ world.count := by omega
  simp only [step, sertypeReallocSamples, sound.present, Option.isSome_some, true_and, counted,
    if_false, fromRawParts_whole world array sound, less, gt_iff_lt, more, if_true,
    PointerVec.extend, PointerVec.leak, required, full]

theorem step_same (sound : Sound world array) (positive : 0 < world.count)
    (same : newCount = world.count) :
    step policy world newCount = some
      { ptrs := some array, count := newCount, memory := world.rebuilding array } := by
  have counted : ¬ world.count = 0 := by omega
  subst same
  simp only [step, sertypeReallocSamples, sound.present, Option.isSome_some, true_and, counted,
    if_false, fromRawParts_whole world array sound, gt_iff_lt, Nat.lt_irrefl]
  rfl

/-- The rest of a shrunk array is freed, and its buffer keeps its width. -/
theorem shrink_called (sound : Sound world array) (less : newCount < world.count) :
    Called policy world array newCount
      { ptrs := some { pointers := array.pointers.take newCount, capacity := array.capacity }
        count := newCount
        memory := (array.pointers.drop newCount).foldl Memory.dropBox (world.rebuilding array) }
      { pointers := array.pointers.take newCount, capacity := array.capacity } := by
  have counted := sound.counted
  obtain ⟨freed, next, rebuilt⟩ :=
    dropBoxes_log (array.pointers.drop newCount) (world.rebuilding array)
  have length : (array.pointers.take newCount).length = newCount := by
    rw [List.length_take]
    omega
  have both : min world.count newCount = newCount := by omega
  constructor
  case sound =>
    refine ⟨rfl, length, ?_⟩
    intro pointer
    have split := congrArg (List.count pointer) (List.take_append_drop newCount array.pointers)
    rw [List.count_append] at split
    have once : (world.rebuilding array).freed.count pointer + array.pointers.count pointer =
        if pointer < (world.rebuilding array).next then 1 else 0 := sound.once pointer
    simp only [next, freed, List.count_append]
    omega
  case counted => rfl
  case resized =>
    have pointers : world.pointers = array.pointers := by
      rw [World.pointers, sound.present]
    refine ⟨length, ?_, ?_⟩
    · rw [both, pointers]
      exact List.take_take.trans (by rw [Nat.min_self])
    · intro pointer inside
      rw [both, World.pointers] at inside
      simp at inside
  case capacity => exact (if_neg (by omega)).symm
  case rebuilt => exact rebuilt

/-- The new boxes stand behind the old ones, in a buffer that the vector has asked for. -/
theorem grow_called (fresh : List Nat) (after : Memory T) (sound : Sound world array)
    (more : world.count < newCount)
    (boxed : Boxed (world.rebuilding array) (newCount - world.count) fresh after) :
    Called policy world array newCount
      { ptrs := some { pointers := array.pointers ++ fresh
                       capacity := policy.grow world.count newCount }
        count := newCount
        memory := after }
      { pointers := array.pointers ++ fresh
        capacity := policy.grow world.count newCount } := by
  have counted := sound.counted
  have length : (array.pointers ++ fresh).length = newCount := by
    rw [List.length_append, boxed.length]
    omega
  have both : min world.count newCount = array.pointers.length := by omega
  constructor
  case sound =>
    refine ⟨rfl, length, ?_⟩
    exact boxed.once _ _ _ _ array.pointers sound.once
  case counted => rfl
  case resized =>
    have older : world.pointers = array.pointers := by
      rw [World.pointers, sound.present]
    refine ⟨length, ?_, ?_⟩
    · rw [both, older, List.take_length]
      exact List.take_left
    · intro pointer inside
      rw [both] at inside
      have rest : (array.pointers ++ fresh).drop array.pointers.length = fresh := List.drop_left
      exact boxed.new _ _ _ _ pointer (rest ▸ inside)
  case capacity =>
    rw [capacityAfter, counted, if_pos more]
  case rebuilt => exact boxed.rebuilt

theorem same_called (sound : Sound world array) (same : newCount = world.count) :
    Called policy world array newCount
      { ptrs := some array, count := newCount, memory := world.rebuilding array } array := by
  have counted := sound.counted
  have both : min world.count newCount = array.pointers.length := by omega
  constructor
  case sound => exact ⟨rfl, counted.trans same.symm, sound.once⟩
  case counted => rfl
  case resized =>
    have older : world.pointers = array.pointers := by
      rw [World.pointers, sound.present]
    refine ⟨counted.trans same.symm, ?_, ?_⟩
    · rw [older]
      rfl
    · intro pointer inside
      rw [both, World.pointers, List.drop_length] at inside
      cases inside
  case capacity => exact (if_neg (by omega)).symm
  case rebuilt => rfl

theorem step_called (sound : Sound world array) (positive : 0 < world.count) :
    ∃ next result, step policy world newCount = some next ∧
      Called policy world array newCount next result := by
  rcases Nat.lt_trichotomy newCount world.count with less | same | more
  · exact ⟨_, _, step_shrink policy world array newCount sound less,
      shrink_called policy world array newCount sound less⟩
  · exact ⟨_, _, step_same policy world array newCount sound positive same,
      same_called policy world array newCount sound same⟩
  · have boxed := takeDefaults_boxed (world.rebuilding array) (newCount - world.count)
    exact ⟨_, _, step_grow policy world array newCount sound positive more,
      grow_called policy world array newCount _ _ sound more boxed⟩

end Calls

/-! Whole histories -/

/-- A call that leaves a buffer as wide as the array in it. -/
def LeavesFull (policy : VecPolicy) (oldCount newCount : Nat) : Prop :=
  oldCount = newCount ∨ oldCount < newCount ∧ policy.grow oldCount newCount = newCount

theorem leavesFull_amortized (oldCount newCount : Nat) :
    LeavesFull amortized oldCount newCount ↔
      oldCount = newCount ∨ oldCount < newCount ∧ oldCount * 2 ≤ newCount ∧ 4 ≤ newCount := by
  simp only [LeavesFull, amortized]
  omega

theorem capacityAfter_full (policy : VecPolicy) (array : Leaked) (newCount : Nat)
    (full : array.capacity = array.pointers.length) :
    capacityAfter policy array newCount = newCount ↔
      LeavesFull policy array.pointers.length newCount := by
  rw [capacityAfter, LeavesFull]
  split
  · omega
  · omega

theorem resized_along (policy : VecPolicy) (counts : List Nat) (world : World T) (array : Leaked)
    (sound : Sound world array) (positive : 0 < world.count)
    (positives : ∀ count ∈ counts, 0 < count) :
    Along (step policy) Resized world counts := by
  induction counts generalizing world array with
  | nil => trivial
  | cons count rest ih =>
      intro next taken
      obtain ⟨called, result, same, call⟩ := step_called policy world array count sound positive
      have equal : called = next := Option.some.inj (same.symm.trans taken)
      subst equal
      have first : 0 < called.count := by
        rw [call.counted]
        exact positives count List.mem_cons_self
      exact ⟨call.resized, ih called result call.sound first fun other later =>
        positives other (List.mem_cons_of_mem count later)⟩

theorem called_fits (policy : VecPolicy) (world : World T) (array : Leaked) (newCount : Nat)
    (next : World T) (result : Leaked) (call : Called policy world array newCount next result)
    (fits : array.pointers.length ≤ array.capacity) :
    result.pointers.length ≤ result.capacity := by
  rw [call.sound.counted, call.counted, call.capacity, capacityAfter]
  split
  · exact policy.grow_fits array.pointers.length newCount
  · omega

/-- With whatever capacity it is rebuilt, no array outgrows its buffer. -/
theorem exec_fits (policy : VecPolicy) (counts : List Nat) (world : World T) (array : Leaked)
    (sound : Sound world array) (positive : 0 < world.count)
    (positives : ∀ count ∈ counts, 0 < count) (fits : array.pointers.length ≤ array.capacity)
    (final : World T) (run : exec (step policy) world counts = some final) :
    ∃ result, Sound final result ∧ result.pointers.length ≤ result.capacity := by
  induction counts generalizing world array with
  | nil =>
      cases run
      exact ⟨array, sound, fits⟩
  | cons count rest ih =>
      obtain ⟨next, result, taken, call⟩ := step_called policy world array count sound positive
      rw [exec, taken] at run
      have first : 0 < next.count := by
        rw [call.counted]
        exact positives count List.mem_cons_self
      have later : ∀ other ∈ rest, 0 < other := fun other inside =>
        positives other (List.mem_cons_of_mem count inside)
      have room := called_fits policy world array count next result call fits
      exact ih next result call.sound first later room run

theorem history_fits (policy : VecPolicy) (first : Nat) (later : List Nat)
    (positives : ∀ count ∈ first :: later, 0 < count) (final : World T)
    (run : exec (step policy) .init (first :: later) = some final) :
    ∃ result, Sound final result ∧ result.pointers.length ≤ result.capacity := by
  obtain ⟨world, array, taken, sound, counted, -, capacity, -⟩ :=
    step_first (T := T) policy first
  rw [exec, taken] at run
  have positive : 0 < world.count := by
    rw [counted]
    exact positives first List.mem_cons_self
  have rest : ∀ count ∈ later, 0 < count := fun count inside =>
    positives count (List.mem_cons_of_mem first inside)
  have room : array.pointers.length ≤ array.capacity := by
    rw [sound.counted, counted, capacity]
    exact policy.collect_fits first
  exact exec_fits policy later world array sound positive rest room final run

theorem freeSamples_all (world : World T) (array : Leaked) (sound : Sound world array)
    (positive : 0 < world.count) :
    ∃ memory, sertypeFreeSamples world.ptrs world.count ddsFreeAllBit world.memory = .ok memory ∧
      (∀ pointer, pointer < memory.next → memory.freed.count pointer = 1) ∧
      memory.rebuilt = world.memory.rebuilt ++
        [{ length := world.count, capacity := world.count, buffer := array }] := by
  have some : ¬ world.count = 0 := Nat.ne_of_gt positive
  have all : ddsFreeAllBit &&& ddsFreeAllBit ≠ 0 := by decide
  simp only [sertypeFreeSamples, sound.present, some, if_false, if_pos all,
    fromRawParts_whole world array sound]
  obtain ⟨freed, next, rebuilt⟩ := dropBoxes_log array.pointers (world.rebuilding array)
  refine ⟨_, rfl, ?_, rebuilt⟩
  intro pointer inside
  rw [next] at inside
  rw [freed, List.count_append]
  exact (sound.once pointer).trans (if_pos inside)

theorem rebuilt_accurate (world : World T) (array : Leaked) (sound : Sound world array)
    (rebuilt : List Rebuild)
    (made : rebuilt = world.memory.rebuilt ++
      [{ length := world.count, capacity := world.count, buffer := array }]) :
    (∀ rebuild ∈ rebuilt, rebuild.Accurate) ↔
      (∀ rebuild ∈ world.memory.rebuilt, rebuild.Accurate) ∧ array.capacity = world.count := by
  rw [made, List.forall_mem_append, List.forall_mem_singleton, Rebuild.Accurate]
  simp only [sound.counted, true_and, eq_comm]

/-- One look at each buffer: it is accurate if the call before has left it full. -/
theorem exec_accurate (policy : VecPolicy) (counts : List Nat) (world : World T) (array : Leaked)
    (sound : Sound world array) (positive : 0 < world.count)
    (positives : ∀ count ∈ counts, 0 < count) :
    ∃ final memory, exec (step policy) world counts = some final ∧
      sertypeFreeSamples final.ptrs final.count ddsFreeAllBit final.memory = .ok memory ∧
      (∀ pointer, pointer < memory.next → memory.freed.count pointer = 1) ∧
      ((∀ rebuild ∈ memory.rebuilt, rebuild.Accurate) ↔
        (∀ rebuild ∈ world.memory.rebuilt, rebuild.Accurate) ∧ array.capacity = world.count ∧
          (world.count :: counts).IsChain (LeavesFull policy)) := by
  induction counts generalizing world array with
  | nil =>
      obtain ⟨memory, freed, once, rebuilt⟩ := freeSamples_all world array sound positive
      refine ⟨world, memory, rfl, freed, once, ?_⟩
      rw [rebuilt_accurate world array sound _ rebuilt]
      simp
  | cons count rest ih =>
      obtain ⟨next, result, taken, call⟩ := step_called policy world array count sound positive
      have first : 0 < next.count := by
        rw [call.counted]
        exact positives count List.mem_cons_self
      obtain ⟨final, memory, run, freed, once, accurate⟩ := ih next result call.sound first
        fun other later => positives other (List.mem_cons_of_mem count later)
      refine ⟨final, memory, ?_, freed, once, ?_⟩
      · rw [exec, taken]
        exact run
      · rw [accurate, rebuilt_accurate world array sound _ call.rebuilt, List.isChain_cons_cons,
          call.counted, call.capacity, and_assoc]
        refine and_congr_right fun _ => and_congr_right fun full => ?_
        have counted := sound.counted
        rw [capacityAfter_full policy array count (full.trans counted.symm), counted]

/-- The buffers are rebuilt with their own capacities only while every call fills its buffer.
Then the whole history is sound, and without it the pointers still are. -/
theorem survives_iff (policy : VecPolicy) (first : Nat) (later : List Nat)
    (positives : ∀ count ∈ first :: later, 0 < count) :
    Survives T policy (first :: later) ↔
      policy.collect first = first ∧ (first :: later).IsChain (LeavesFull policy) := by
  obtain ⟨world, array, taken, sound, counted, resized, capacity, none⟩ :=
    step_first (T := T) policy first
  have positive : 0 < world.count := by
    rw [counted]
    exact positives first List.mem_cons_self
  have rest : ∀ count ∈ later, 0 < count := fun count inside =>
    positives count (List.mem_cons_of_mem first inside)
  obtain ⟨final, memory, run, freed, once, accurate⟩ :=
    exec_accurate policy later world array sound positive rest
  have whole : exec (step policy) World.init (first :: later) = some final := by
    rw [exec, taken]
    exact run
  simp only [none, List.not_mem_nil, false_implies, implies_true, true_and, counted,
    capacity] at accurate
  rw [← accurate]
  constructor
  · intro survives
    obtain ⟨other, released, replay, again, -, every⟩ := survives.last
    have same : final = other := Option.some.inj (whole.symm.trans replay)
    subst same
    have equal : memory = released := Except.ok.inj (freed.symm.trans again)
    exact equal ▸ every
  · intro every
    constructor
    · intro next begun
      have equal : world = next := Option.some.inj (taken.symm.trans begun)
      subst equal
      exact ⟨resized, resized_along policy later world array sound positive rest⟩
    · exact ⟨final, memory, whole, freed, once, every⟩

theorem survives_doubled : Survives Unit amortized [4, 8, 8] := by
  have positives : ∀ count ∈ [4, 8, 8], 0 < count := by simp
  apply (survives_iff amortized 4 [8, 8] positives).mpr
  refine ⟨rfl, ?_⟩
  simp [leavesFull_amortized]

/-- A shrunk array still has the room for four. -/
theorem shrunk_not_rebuilt : ¬ Survives Unit amortized [4, 2] := by
  intro survives
  obtain ⟨world, memory, run, freed, -, accurate⟩ := survives.last
  cases run
  cases freed
  have last := accurate
    { length := 2, capacity := 2, buffer := { pointers := [0, 1], capacity := 4 } }
    (by decide)
  exact absurd last.2 (by decide)

end CycloneddsRs.SampleArrays
