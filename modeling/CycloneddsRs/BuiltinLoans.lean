import CycloneddsRs.DdsError
import CycloneddsRs.StepRuns
import Mathlib.Data.List.Perm.Basic
import Mathlib.Logic.Function.Basic

/-!
dds_builtin.rs: the samples that one array has on loan from the readers it is passed to.
A reader's entity lives as long as some `Arc` holds it, and the array keeps one of the
reader that it owes its samples to. The C library sees the calls only.
-/

namespace CycloneddsRs.BuiltinLoans
open DdsError StepRuns

abbrev Entity := Int32

abbrev Pointer := Nat

inductive CCall where
  | ddsCreateReader (entity : Entity)
  | ddsRead (take : Bool) (entity : Entity) (maxs : UInt32) (ret : Int32)
  | ddsReturnLoan (entity : Entity) (len : Int32)
  | ddsDelete (entity : Entity)
  | ddsFree
  deriving DecidableEq

/-- The strong counts of the `Arc<ReaderInner>`, and the calls that C has seen. -/
structure Env where
  strong : Entity → Nat
  calls : List CCall

def Env.call (env : Env) (made : CCall) : Env := { env with calls := env.calls ++ [made] }

def Env.cloneArc (env : Env) (inner : Entity) : Env :=
  { env with strong := Function.update env.strong inner (env.strong inner + 1) }

/-- The last one to go runs the drop of `ReaderInner`. -/
def Env.dropArc (env : Env) (inner : Entity) : Env :=
  let released : Env :=
    { env with strong := Function.update env.strong inner (env.strong inner - 1) }
  if env.strong inner = 1 then released.call (.ddsDelete inner) else released

/-- `samples` is the array of pointers as C has left it. -/
structure BuiltinSamples where
  samples : List Pointer
  len : UInt32
  max : UInt32
  loanedFrom : Option Entity

def BuiltinSamples.new (len : Nat) : BuiltinSamples :=
  { samples := List.replicate len 0
    len := 0
    max := UInt32.ofNat len
    loanedFrom := none }

def BuiltinSamples.returnLoan (samples : BuiltinSamples) (env : Env) : BuiltinSamples × Env :=
  match samples.loanedFrom with
  | none => (samples, env)
  | some inner =>
      let returned :=
        if 0 < samples.len then env.call (.ddsReturnLoan inner samples.len.toInt32) else env
      ({ samples with len := 0, loanedFrom := none }, returned.dropArc inner)

def BuiltinSamples.iter (samples : BuiltinSamples) : List Pointer :=
  samples.samples.take samples.len.toNat

def BuiltinSamples.clear (samples : BuiltinSamples) (env : Env) : BuiltinSamples × Env :=
  samples.returnLoan env

/-- Both arrays are freed behind the loan. -/
def BuiltinSamples.drop (samples : BuiltinSamples) (env : Env) : Env :=
  ((samples.returnLoan env).2.call .ddsFree).call .ddsFree

def createReader (r : Int32) (env : Env) : Except DDSError Entity × Env :=
  if 0 ≤ r then
    (.ok r, { strong := Function.update env.strong r 1
              calls := env.calls ++ [.ddsCreateReader r] })
  else (.error (.ofReturn r.toInt), env)

/-- `answer` is what the C read returns, and the pointers that it leaves in the array. -/
def readnFromEntityNow (inner : Entity) (samples : BuiltinSamples) (take : Bool)
    (answer : Int32 × List Pointer) (env : Env) : Except DDSError Nat × BuiltinSamples × Env :=
  if samples.max = 0 then (.error .badParameter, samples, env)
  else
    let (samples, env) := samples.returnLoan env
    let env := env.call (.ddsRead take inner samples.max answer.1)
    let samples := { samples with samples := answer.2 }
    if answer.1 < 0 then (.error (.ofReturn answer.1.toInt), samples, env)
    else if answer.1 = 0 then (.error .noData, samples, env)
    else
      (.ok answer.1.toInt.toNat,
        { samples with len := answer.1.toUInt32, loanedFrom := some inner },
        env.cloneArc inner)

def readNow (inner : Entity) (samples : BuiltinSamples) (answer : Int32 × List Pointer)
    (env : Env) : Except DDSError Nat × BuiltinSamples × Env :=
  readnFromEntityNow inner samples false answer env

def takeNow (inner : Entity) (samples : BuiltinSamples) (answer : Int32 × List Pointer)
    (env : Env) : Except DDSError Nat × BuiltinSamples × Env :=
  readnFromEntityNow inner samples true answer env

structure World where
  env : Env
  /-- What each `BuiltinDataReader` holds. -/
  readers : List Entity
  /-- There is none after its drop. -/
  samples : Option BuiltinSamples

def World.init (len : Nat) : World :=
  { env := { strong := fun _ => 0, calls := [] }
    readers := []
    samples := some (.new len) }

inductive Action where
  | createReader (r : Int32)
  | readNow (index : Nat) (answer : Int32 × List Pointer)
  | takeNow (index : Nat) (answer : Int32 × List Pointer)
  | clear
  | dropReader (index : Nat)
  | dropSamples

/-- A new reader has a handle that no living one has. -/
def step (world : World) : Action → Option World
  | .createReader r =>
      match createReader r world.env with
      | (.ok entity, env) =>
          if world.env.strong entity = 0 then
            some { world with env := env, readers := entity :: world.readers }
          else none
      | (.error _, env) => some { world with env := env }
  | .readNow index answer => do
      let inner ← world.readers[index]?
      let samples ← world.samples
      let (_, samples, env) := readNow inner samples answer world.env
      some { world with env := env, samples := some samples }
  | .takeNow index answer => do
      let inner ← world.readers[index]?
      let samples ← world.samples
      let (_, samples, env) := takeNow inner samples answer world.env
      some { world with env := env, samples := some samples }
  | .clear => do
      let samples ← world.samples
      let (samples, env) := samples.clear world.env
      some { world with env := env, samples := some samples }
  | .dropReader index => do
      let inner ← world.readers[index]?
      some { world with
        env := world.env.dropArc inner
        readers := world.readers.eraseIdx index }
  | .dropSamples => do
      let samples ← world.samples
      some { world with env := samples.drop world.env, samples := none }

/-! What C may see -/

/-- The batches lent so far, each with its lender and its length. -/
def lent (calls : List CCall) : List (Entity × Int32) :=
  calls.filterMap fun call =>
    match call with
    | .ddsRead _ entity _ ret => if 0 < ret then some (entity, ret) else none
    | _ => none

def returned (calls : List CCall) : List (Entity × Int32) :=
  calls.filterMap fun call =>
    match call with
    | .ddsReturnLoan entity len => some (entity, len)
    | _ => none

def living (calls : List CCall) : Entity → Bool :=
  calls.foldl
    (fun alive call =>
      match call with
      | .ddsCreateReader entity => Function.update alive entity true
      | .ddsDelete entity => Function.update alive entity false
      | _ => alive)
    fun _ => false

/-- The array is passed to C or freed when every batch is back, and a batch goes back to its
living lender. -/
def Allowed (calls : List CCall) : CCall → Prop
  | .ddsRead _ entity _ _ => lent calls = returned calls ∧ living calls entity = true
  | .ddsReturnLoan entity len =>
      lent calls = returned calls ++ [(entity, len)] ∧ living calls entity = true
  | .ddsFree => lent calls = returned calls
  | .ddsCreateReader _ => True
  | .ddsDelete _ => True

inductive Lawful : List CCall → Prop where
  | none : Lawful []
  | next (calls : List CCall) (call : CCall) (before : Lawful calls)
      (allowed : Allowed calls call) : Lawful (calls ++ [call])

/-! One call -/

def BuiltinSamples.owed (samples : BuiltinSamples) : List (Entity × Int32) :=
  samples.loanedFrom.toList.map fun inner => (inner, samples.len.toInt32)

/-- `holders` has an entry for each `Arc`, `owed` the batch that is out. -/
structure Sound (env : Env) (holders : List Entity) (owed : List (Entity × Int32)) : Prop where
  lawful : Lawful env.calls
  balanced : lent env.calls = returned env.calls ++ owed
  counted : ∀ entity, env.strong entity = holders.count entity
  alive : ∀ entity, living env.calls entity = decide (0 < env.strong entity)

section Calls

variable (env : Env) (holders : List Entity) (owed : List (Entity × Int32)) (inner : Entity)

theorem Sound.held (sound : Sound env holders owed) (inside : inner ∈ holders) :
    living env.calls inner = true := by
  rw [sound.alive, sound.counted]
  exact decide_eq_true (List.count_pos_iff.mpr inside)

theorem Sound.reorder (other : List Entity) (sound : Sound env holders owed)
    (order : holders.Perm other) : Sound env other owed := by
  constructor
  · exact sound.lawful
  · exact sound.balanced
  · intro entity
    rw [sound.counted, order.count_eq]
  · exact sound.alive

theorem Sound.back (sound : Sound env holders []) : lent env.calls = returned env.calls := by
  rw [sound.balanced, List.append_nil]

/-- A call that makes and deletes no reader. -/
theorem Sound.call (made : CCall) (after : List (Entity × Int32)) (sound : Sound env holders owed)
    (allowed : Allowed env.calls made)
    (balanced : lent (env.calls ++ [made]) = returned (env.calls ++ [made]) ++ after)
    (plain : living (env.calls ++ [made]) = living env.calls) :
    Sound (env.call made) holders after := by
  constructor
  · exact .next env.calls made sound.lawful allowed
  · exact balanced
  · exact sound.counted
  · intro entity
    exact (congrFun plain entity).trans (sound.alive entity)

theorem Sound.read (take : Bool) (maxs : UInt32) (ret : Int32) (sound : Sound env holders [])
    (inside : inner ∈ holders) :
    Sound (env.call (.ddsRead take inner maxs ret)) holders
      (if 0 < ret then [(inner, ret)] else []) := by
  have back := sound.back env holders
  apply sound.call env holders []
  · exact ⟨back, sound.held env holders [] inner inside⟩
  · simp only [lent, returned, List.filterMap_append] at back ⊢
    rw [back]
    by_cases positive : 0 < ret
    · simp [positive]
    · simp [positive]
  · simp [living]

theorem Sound.ddsReturnLoan (len : Int32) (sound : Sound env (inner :: holders) [(inner, len)]) :
    Sound (env.call (.ddsReturnLoan inner len)) (inner :: holders) [] := by
  have alive := sound.held env (inner :: holders) _ inner List.mem_cons_self
  have balanced := sound.balanced
  apply sound.call env (inner :: holders) [(inner, len)]
  · exact ⟨balanced, alive⟩
  · simp only [lent, returned, List.filterMap_append] at balanced ⊢
    rw [balanced]
    simp
  · simp [living]

theorem Sound.ddsFree (sound : Sound env holders []) : Sound (env.call .ddsFree) holders [] := by
  have back := sound.back env holders
  apply sound.call env holders []
  · exact back
  · simp only [lent, returned, List.filterMap_append] at back ⊢
    rw [back]
    simp
  · simp [living]

/-- A new reader is alive under its one handle. -/
theorem Sound.ddsCreateReader (sound : Sound env holders owed) (fresh : env.strong inner = 0) :
    Sound { strong := Function.update env.strong inner 1
            calls := env.calls ++ [.ddsCreateReader inner] } (inner :: holders) owed := by
  constructor
  · exact .next env.calls _ sound.lawful trivial
  · have balanced := sound.balanced
    simp only [lent, returned, List.filterMap_append] at balanced ⊢
    rw [balanced]
    simp
  · intro entity
    by_cases same : entity = inner
    · subst same
      simp [← sound.counted, fresh]
    · simp [same, sound.counted, Ne.symm same]
  · intro entity
    simp only [living, List.foldl_append, List.foldl_cons, List.foldl_nil]
    by_cases same : entity = inner
    · subst same
      simp
    · simp only [Function.update_of_ne same]
      exact sound.alive entity

theorem Sound.cloneArc (sound : Sound env holders owed) (inside : inner ∈ holders) :
    Sound (env.cloneArc inner) (inner :: holders) owed := by
  have positive : 0 < env.strong inner := by
    rw [sound.counted]
    exact List.count_pos_iff.mpr inside
  constructor
  · exact sound.lawful
  · exact sound.balanced
  · intro entity
    by_cases same : entity = inner
    · subst same
      simp [Env.cloneArc, sound.counted]
    · simp [Env.cloneArc, same, sound.counted, Ne.symm same]
  · intro entity
    rw [Env.cloneArc, sound.alive entity]
    by_cases same : entity = inner
    · subst same
      simp [positive]
    · simp [same]

theorem Sound.dropArc (sound : Sound env (inner :: holders) owed) :
    Sound (env.dropArc inner) holders owed := by
  have counted : ∀ entity, Function.update env.strong inner (env.strong inner - 1) entity =
      holders.count entity := by
    intro entity
    by_cases same : entity = inner
    · subst same
      simp [sound.counted]
    · simp [same, sound.counted, Ne.symm same]
  by_cases last : env.strong inner = 1
  · rw [Env.dropArc, if_pos last]
    constructor
    · exact .next env.calls _ sound.lawful trivial
    · have balanced := sound.balanced
      simp only [Env.call, lent, returned, List.filterMap_append] at balanced ⊢
      rw [balanced]
      simp
    · exact counted
    · intro entity
      simp only [Env.call, living, List.foldl_append, List.foldl_cons, List.foldl_nil]
      by_cases same : entity = inner
      · subst same
        simp [last]
      · simp only [Function.update_of_ne same]
        exact sound.alive entity
  · rw [Env.dropArc, if_neg last]
    have more : 1 < env.strong inner := by
      have positive : 0 < env.strong inner := by simp [sound.counted]
      omega
    constructor
    · exact sound.lawful
    · exact sound.balanced
    · exact counted
    · intro entity
      rw [sound.alive entity]
      by_cases same : entity = inner
      · subst same
        simp
        omega
      · simp only [Function.update_of_ne same]

end Calls

/-! The operations -/

/-- The length tells whether a lender is known. -/
def BuiltinSamples.Paired (samples : BuiltinSamples) : Prop :=
  samples.loanedFrom = none ↔ samples.len = 0

theorem returnLoan_sound (samples : BuiltinSamples) (env : Env) (readers : List Entity)
    (paired : samples.Paired)
    (sound : Sound env (samples.owed.map Prod.fst ++ readers) samples.owed) :
    Sound (samples.returnLoan env).2 readers [] ∧
      (samples.returnLoan env).1.loanedFrom = none ∧ (samples.returnLoan env).1.len = 0 := by
  cases known : samples.loanedFrom with
  | none =>
      simp only [BuiltinSamples.owed, known] at sound
      simp only [BuiltinSamples.returnLoan, known]
      exact ⟨sound, trivial, paired.mp known⟩
  | some inner =>
      have positive : 0 < samples.len := by
        rw [UInt32.pos_iff_ne_zero]
        intro zero
        rw [paired.mpr zero] at known
        cases known
      simp only [BuiltinSamples.owed, known] at sound
      simp only [BuiltinSamples.returnLoan, known, positive, if_true]
      have back := sound.ddsReturnLoan env readers inner samples.len.toInt32
      exact ⟨back.dropArc _ readers [] inner, trivial, trivial⟩

theorem lent_nonzero (ret : Int32) (positive : 0 < ret) : ret.toUInt32 ≠ 0 := by
  intro zero
  have same : ret = 0 := congrArg UInt32.toInt32 zero
  rw [same] at positive
  exact Int32.lt_irrefl positive

theorem readnFromEntityNow_sound (inner : Entity) (samples : BuiltinSamples) (take : Bool)
    (answer : Int32 × List Pointer) (env : Env) (readers : List Entity)
    (inside : inner ∈ readers) (paired : samples.Paired)
    (sound : Sound env (samples.owed.map Prod.fst ++ readers) samples.owed) :
    let after := (readnFromEntityNow inner samples take answer env).2
    after.1.Paired ∧ Sound after.2 (after.1.owed.map Prod.fst ++ readers) after.1.owed := by
  obtain ⟨back, none, empty⟩ := returnLoan_sound samples env readers paired sound
  -- What both failures leave behind.
  have nothing : ¬ 0 < answer.1 →
      let after : BuiltinSamples := { (samples.returnLoan env).1 with samples := answer.2 }
      let called := (samples.returnLoan env).2.call (.ddsRead take inner samples.max answer.1)
      after.Paired ∧ Sound called (after.owed.map Prod.fst ++ readers) after.owed := by
    intro failed
    have read := back.read _ readers inner take samples.max answer.1 inside
    rw [if_neg failed] at read
    simp only [BuiltinSamples.Paired, BuiltinSamples.owed, none, empty]
    exact ⟨trivial, read⟩
  rw [readnFromEntityNow]
  by_cases room : samples.max = 0
  · rw [if_pos room]
    exact ⟨paired, sound⟩
  rw [if_neg room]
  have kept : (samples.returnLoan env).1.max = samples.max := by
    rw [BuiltinSamples.returnLoan]
    split <;> rfl
  simp only [kept]
  by_cases negative : answer.1 < 0
  · rw [if_pos negative]
    exact nothing (Int32.lt_asymm negative)
  rw [if_neg negative]
  by_cases zero : answer.1 = 0
  · rw [if_pos zero]
    exact nothing (by rw [zero]; exact Int32.lt_irrefl)
  rw [if_neg zero]
  have positive : 0 < answer.1 :=
    (Int32.lt_or_lt_of_ne zero).resolve_left negative
  have read := back.read _ readers inner take samples.max answer.1 inside
  rw [if_pos positive] at read
  constructor
  · constructor
    · intro missing
      cases missing
    · intro length
      exact absurd length (lent_nonzero answer.1 positive)
  · exact read.cloneArc _ readers [(inner, answer.1)] inner inside

theorem clear_sound (samples : BuiltinSamples) (env : Env) (readers : List Entity)
    (paired : samples.Paired)
    (sound : Sound env (samples.owed.map Prod.fst ++ readers) samples.owed) :
    let after := samples.clear env
    after.1.Paired ∧ Sound after.2 (after.1.owed.map Prod.fst ++ readers) after.1.owed := by
  obtain ⟨back, none, empty⟩ := returnLoan_sound samples env readers paired sound
  simp only [BuiltinSamples.clear, BuiltinSamples.Paired, BuiltinSamples.owed, none, empty]
  exact ⟨trivial, back⟩

theorem drop_sound (samples : BuiltinSamples) (env : Env) (readers : List Entity)
    (paired : samples.Paired)
    (sound : Sound env (samples.owed.map Prod.fst ++ readers) samples.owed) :
    Sound (samples.drop env) readers [] := by
  obtain ⟨back, -, -⟩ := returnLoan_sound samples env readers paired sound
  have first := back.ddsFree _ readers
  exact first.ddsFree _ readers

/-! Whole sequences -/

def World.owed (world : World) : List (Entity × Int32) :=
  world.samples.toList.flatMap BuiltinSamples.owed

structure Settled (world : World) : Prop where
  paired : ∀ samples, world.samples = some samples → samples.Paired
  sound : Sound world.env (world.owed.map Prod.fst ++ world.readers) world.owed

theorem settled_init (len : Nat) : Settled (.init len) := by
  constructor
  · intro samples same
    cases same
    exact Iff.intro (fun _ => rfl) fun _ => rfl
  · constructor
    · exact .none
    · rfl
    · intro entity
      rfl
    · intro entity
      rfl

theorem settled_some (world : World) (samples : BuiltinSamples) (env : Env)
    (paired : samples.Paired)
    (sound : Sound env (samples.owed.map Prod.fst ++ world.readers) samples.owed) :
    Settled { world with env := env, samples := some samples } := by
  constructor
  · intro other same
    cases same
    exact paired
  · simpa only [World.owed, Option.toList_some, List.flatMap_singleton] using sound

theorem Settled.of_samples (world : World) (samples : BuiltinSamples) (settled : Settled world)
    (present : world.samples = some samples) :
    samples.Paired ∧
      Sound world.env (samples.owed.map Prod.fst ++ world.readers) samples.owed := by
  have sound := settled.sound
  simp only [World.owed, present, Option.toList_some, List.flatMap_singleton] at sound
  exact ⟨settled.paired samples present, sound⟩

/-- `read_now` and `take_now`. -/
theorem read_settled (world : World) (index : Nat) (take : Bool)
    (answer : Int32 × List Pointer) (inner : Entity) (samples : BuiltinSamples)
    (settled : Settled world) (reader : world.readers[index]? = some inner)
    (present : world.samples = some samples) :
    let after := (readnFromEntityNow inner samples take answer world.env).2
    Settled { world with env := after.2, samples := some after.1 } := by
  obtain ⟨paired, sound⟩ := settled.of_samples world samples present
  have after := readnFromEntityNow_sound inner samples take answer world.env world.readers
    (List.mem_of_getElem? reader) paired sound
  exact settled_some world _ _ after.1 after.2

theorem step_settled (world : World) (action : Action) (next : World) (settled : Settled world)
    (taken : step world action = some next) : Settled next := by
  cases action with
  | createReader r =>
      simp only [step, createReader] at taken
      by_cases made : 0 ≤ r
      · simp only [made, if_true] at taken
        by_cases fresh : world.env.strong r = 0
        · simp only [fresh, if_true] at taken
          cases taken
          constructor
          · exact settled.paired
          · have created := settled.sound.ddsCreateReader _ _ _ r fresh
            exact created.reorder _ _ _ _ List.perm_middle.symm
        · simp only [fresh, if_false] at taken
          cases taken
      · simp only [made, if_false] at taken
        cases taken
        exact settled
  | readNow index answer =>
      obtain ⟨inner, reader, rest⟩ := Option.bind_eq_some_iff.mp taken
      obtain ⟨samples, present, same⟩ := Option.bind_eq_some_iff.mp rest
      cases same
      exact read_settled world index false answer inner samples settled reader present
  | takeNow index answer =>
      obtain ⟨inner, reader, rest⟩ := Option.bind_eq_some_iff.mp taken
      obtain ⟨samples, present, same⟩ := Option.bind_eq_some_iff.mp rest
      cases same
      exact read_settled world index true answer inner samples settled reader present
  | clear =>
      obtain ⟨samples, present, same⟩ := Option.bind_eq_some_iff.mp taken
      cases same
      obtain ⟨paired, sound⟩ := settled.of_samples world samples present
      have after := clear_sound samples world.env world.readers paired sound
      exact settled_some world _ _ after.1 after.2
  | dropReader index =>
      obtain ⟨inner, reader, same⟩ := Option.bind_eq_some_iff.mp taken
      cases same
      constructor
      · exact settled.paired
      · obtain ⟨bounded, found⟩ := List.getElem?_eq_some_iff.mp reader
        subst found
        have order := (List.getElem_cons_eraseIdx_perm bounded).symm
        have moved := (order.append_left (world.owed.map Prod.fst)).trans List.perm_middle
        have dropped := settled.sound.reorder _ _ _ _ moved
        exact dropped.dropArc _ _ _ _
  | dropSamples =>
      obtain ⟨samples, present, same⟩ := Option.bind_eq_some_iff.mp taken
      cases same
      obtain ⟨paired, sound⟩ := settled.of_samples world samples present
      constructor
      · intro other gone
        cases gone
      · exact drop_sound samples world.env world.readers paired sound

/-- C never sees an array again whose samples are out, and gets every batch back, from the array
and by the reader that lent it. -/
theorem loans_returned (len : Nat) (actions : List Action) (world : World)
    (run : exec step (.init len) actions = some world) :
    Lawful world.env.calls ∧
      (world.samples = none → lent world.env.calls = returned world.env.calls) ∧
      ∀ samples, world.samples = some samples → samples.loanedFrom = none →
        lent world.env.calls = returned world.env.calls ∧ samples.iter = [] := by
  have settled : Settled world := exec_invariant step (fun _ => Settled)
    (fun _ world action next before taken => step_settled world action next before taken)
    [] actions _ world (settled_init len) run
  refine ⟨settled.sound.lawful, ?_, ?_⟩
  · intro gone
    have balanced := settled.sound.balanced
    simp only [World.owed, gone, Option.toList_none, List.flatMap_nil] at balanced
    exact balanced.trans (List.append_nil _)
  · intro samples present none
    obtain ⟨paired, sound⟩ := settled.of_samples world samples present
    have balanced := sound.balanced
    simp only [BuiltinSamples.owed, none] at balanced
    constructor
    · exact balanced.trans (List.append_nil _)
    · rw [BuiltinSamples.iter, paired.mp none]
      rfl

/-- The first reader is dropped while its samples are out. -/
theorem loans_returned_two_readers :
    ∃ world, exec step (.init 20) [.createReader 5, .createReader 9, .readNow 1 (2, [100, 101]),
        .dropReader 1, .takeNow 0 (1, [200]), .dropSamples] = some world ∧
      Lawful world.env.calls ∧ lent world.env.calls = [(5, 2), (9, 1)] ∧
        lent world.env.calls = returned world.env.calls := by
  refine ⟨_, rfl, ?_⟩
  have every := loans_returned 20 [.createReader 5, .createReader 9, .readNow 1 (2, [100, 101]),
    .dropReader 1, .takeNow 0 (1, [200]), .dropSamples] _ rfl
  exact ⟨every.1, rfl, every.2.1 rfl⟩

end CycloneddsRs.BuiltinLoans
