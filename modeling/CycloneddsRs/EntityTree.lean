import Mathlib.Logic.Basic

/-!
Forests that are deleted from a node downward. A node carries the names of its ancestors,
nearest first.
-/

namespace CycloneddsRs.EntityTree

universe u v
variable {Name : Type u} {Info : Type v}

structure Node (Name : Type u) (Info : Type v) where
  ancestors : List Name
  info : Info

structure Forest (Name : Type u) (Info : Type v) where
  node : Name → Option (Node Name Info)

def Forest.empty : Forest Name Info := { node := fun _ => none }

def Forest.Alive (forest : Forest Name Info) (name : Name) : Prop := (forest.node name).isSome

instance (forest : Forest Name Info) (name : Name) : Decidable (forest.Alive name) :=
  inferInstanceAs (Decidable (_ = true))

def Forest.ancestors (forest : Forest Name Info) (name : Name) : List Name :=
  ((forest.node name).map Node.ancestors).getD []

/-- A line of nodes that a new node can stand below. -/
structure Chain (forest : Forest Name Info) (ancestors : List Name) : Prop where
  alive : ∀ ancestor ∈ ancestors, forest.Alive ancestor
  closed : ∀ ancestor ∈ ancestors, ∀ above ∈ forest.ancestors ancestor, above ∈ ancestors

/-- The ancestors of a node are there, and so are theirs. -/
def WellFormed (forest : Forest Name Info) : Prop :=
  ∀ name node, forest.node name = some node → Chain forest node.ancestors

theorem alive_iff (forest : Forest Name Info) (name : Name) :
    forest.Alive name ↔ ∃ node, forest.node name = some node :=
  Option.isSome_iff_exists

theorem ancestors_some (forest : Forest Name Info) (name : Name) (node : Node Name Info)
    (found : forest.node name = some node) : forest.ancestors name = node.ancestors := by
  simp [Forest.ancestors, found]

theorem ne_of_alive (forest : Forest Name Info) (name other : Name) (new : ¬ forest.Alive name)
    (alive : forest.Alive other) : other ≠ name := by
  rintro rfl
  exact new alive

theorem wellFormed_empty : WellFormed (Forest.empty : Forest Name Info) := by
  simp [WellFormed, Forest.empty]

theorem chain_nil (forest : Forest Name Info) : Chain forest [] where
  alive := by simp
  closed := by simp

theorem chain_cons (forest : Forest Name Info) (parent : Name) (formed : WellFormed forest)
    (alive : forest.Alive parent) : Chain forest (parent :: forest.ancestors parent) := by
  obtain ⟨node, found⟩ := (alive_iff forest parent).mp alive
  rw [ancestors_some forest parent node found]
  have higher := formed parent node found
  constructor
  · intro ancestor member
    rcases List.mem_cons.mp member with rfl | member
    · exact alive
    · exact higher.alive ancestor member
  · intro ancestor member above memberAbove
    rcases List.mem_cons.mp member with rfl | member
    · rw [ancestors_some forest ancestor node found] at memberAbove
      exact List.mem_cons_of_mem ancestor memberAbove
    · exact List.mem_cons_of_mem parent (higher.closed ancestor member above memberAbove)

variable [DecidableEq Name]

def Forest.insert (forest : Forest Name Info) (name : Name) (ancestors : List Name)
    (info : Info) : Forest Name Info :=
  { node := fun other => if other = name then some ⟨ancestors, info⟩ else forest.node other }

def Forest.delete (forest : Forest Name Info) (name : Name) : Forest Name Info :=
  { node := fun other =>
      if other = name ∨ name ∈ forest.ancestors other then none else forest.node other }

def Forest.update (forest : Forest Name Info) (name : Name) (change : Info → Info) :
    Forest Name Info :=
  { node := fun other =>
      if other = name then
        (forest.node other).map fun node => { node with info := change node.info }
      else forest.node other }

/-! Inserting -/

theorem node_insert (forest : Forest Name Info) (name other : Name) (ancestors : List Name)
    (info : Info) (old : other ≠ name) :
    (forest.insert name ancestors info).node other = forest.node other := by
  simp [Forest.insert, old]

theorem node_insert_self (forest : Forest Name Info) (name : Name) (ancestors : List Name)
    (info : Info) : (forest.insert name ancestors info).node name = some ⟨ancestors, info⟩ := by
  simp [Forest.insert]

theorem alive_insert_iff (forest : Forest Name Info) (name other : Name) (ancestors : List Name)
    (info : Info) :
    (forest.insert name ancestors info).Alive other ↔ forest.Alive other ∨ other = name := by
  by_cases new : other = name
  · simp [Forest.Alive, Forest.insert, new]
  · simp [Forest.Alive, Forest.insert, new]

/-- A new node leaves the lines of nodes as they were. -/
theorem chain_insert (forest : Forest Name Info) (name : Name) (ancestors line : List Name)
    (info : Info) (new : ¬ forest.Alive name) (chain : Chain forest line) :
    Chain (forest.insert name ancestors info) line := by
  constructor
  · intro ancestor member
    exact (alive_insert_iff forest name ancestor ancestors info).mpr
      (.inl (chain.alive ancestor member))
  · intro ancestor member above memberAbove
    have old := ne_of_alive forest name ancestor new (chain.alive ancestor member)
    rw [Forest.ancestors, node_insert forest name ancestor ancestors info old] at memberAbove
    exact chain.closed ancestor member above memberAbove

theorem wellFormed_insert (forest : Forest Name Info) (name : Name) (ancestors : List Name)
    (info : Info) (formed : WellFormed forest) (new : ¬ forest.Alive name)
    (chain : Chain forest ancestors) : WellFormed (forest.insert name ancestors info) := by
  intro other node found
  by_cases same : other = name
  · subst same
    rw [node_insert_self, Option.some.injEq] at found
    subst found
    exact chain_insert forest other ancestors ancestors info new chain
  · rw [node_insert forest name other ancestors info same] at found
    exact chain_insert forest name ancestors node.ancestors info new (formed other node found)

/-! Deleting -/

theorem node_delete_iff (forest : Forest Name Info) (name other : Name) (node : Node Name Info) :
    (forest.delete name).node other = some node ↔
      forest.node other = some node ∧ other ≠ name ∧ name ∉ node.ancestors := by
  by_cases gone : other = name ∨ name ∈ forest.ancestors other
  · have none : (forest.delete name).node other = none := by simp [Forest.delete, gone]
    rw [none]
    constructor
    · simp
    · rintro ⟨found, different, apart⟩
      rw [ancestors_some forest other node found] at gone
      exact absurd gone (by simp [different, apart])
  · have kept : (forest.delete name).node other = forest.node other := by
      simp [Forest.delete, gone]
    rw [kept]
    constructor
    · intro found
      rw [ancestors_some forest other node found] at gone
      exact ⟨found, not_or.mp gone⟩
    · exact fun held => held.1

theorem alive_delete_iff (forest : Forest Name Info) (name other : Name) :
    (forest.delete name).Alive other ↔
      forest.Alive other ∧ other ≠ name ∧ name ∉ forest.ancestors other := by
  simp only [alive_iff, node_delete_iff]
  constructor
  · rintro ⟨node, found, different, apart⟩
    rw [ancestors_some forest other node found]
    exact ⟨⟨node, found⟩, different, apart⟩
  · rintro ⟨⟨node, found⟩, different, apart⟩
    rw [ancestors_some forest other node found] at apart
    exact ⟨node, found, different, apart⟩

/-- Nothing stands below a node that is not there. -/
theorem delete_dead (forest : Forest Name Info) (name : Name) (formed : WellFormed forest)
    (dead : ¬ forest.Alive name) : forest.delete name = forest := by
  have same : (forest.delete name).node = forest.node := by
    funext other
    cases found : forest.node other with
    | none => simp [Forest.delete, found]
    | some node =>
        refine (node_delete_iff forest name other node).mpr ⟨found, ?_, ?_⟩
        · rintro rfl
          exact dead ((alive_iff forest other).mpr ⟨node, found⟩)
        · intro above
          exact dead ((formed other node found).alive name above)
  cases forest
  exact congrArg Forest.mk same

theorem wellFormed_delete (forest : Forest Name Info) (name : Name) (formed : WellFormed forest) :
    WellFormed (forest.delete name) := by
  intro other node found
  obtain ⟨found, -, apart⟩ := (node_delete_iff forest name other node).mp found
  have chain := formed other node found
  constructor
  · intro ancestor member
    refine (alive_delete_iff forest name ancestor).mpr ⟨chain.alive ancestor member, ?_, ?_⟩
    · rintro rfl
      exact apart member
    · intro above
      exact apart (chain.closed ancestor member name above)
  · intro ancestor member above memberAbove
    refine chain.closed ancestor member above ?_
    cases held : (forest.delete name).node ancestor with
    | none => simp [Forest.ancestors, held] at memberAbove
    | some kept =>
        rw [ancestors_some _ ancestor kept held] at memberAbove
        have old := ((node_delete_iff forest name ancestor kept).mp held).1
        rwa [ancestors_some forest ancestor kept old]

/-! Changing -/

theorem node_update_iff (forest : Forest Name Info) (name other : Name) (change : Info → Info)
    (node : Node Name Info) : (forest.update name change).node other = some node ↔
      ∃ held, forest.node other = some held ∧ node.ancestors = held.ancestors ∧
        node.info = if other = name then change held.info else held.info := by
  unfold Forest.update
  by_cases same : other = name
  · simp only [same, if_true, Option.map_eq_some_iff]
    constructor
    · rintro ⟨held, found, rfl⟩
      exact ⟨held, found, rfl, rfl⟩
    · rintro ⟨held, found, ancestors, info⟩
      refine ⟨held, found, ?_⟩
      cases node
      simp_all
  · simp only [same, if_false]
    constructor
    · intro found
      exact ⟨node, found, rfl, rfl⟩
    · rintro ⟨held, found, ancestors, info⟩
      cases node
      cases held
      simp_all

theorem alive_update_iff (forest : Forest Name Info) (name other : Name) (change : Info → Info) :
    (forest.update name change).Alive other ↔ forest.Alive other := by
  unfold Forest.Alive Forest.update
  by_cases same : other = name <;> simp [same]

theorem ancestors_update (forest : Forest Name Info) (name other : Name) (change : Info → Info) :
    (forest.update name change).ancestors other = forest.ancestors other := by
  unfold Forest.ancestors Forest.update
  by_cases same : other = name
  · cases found : forest.node name <;> simp [same, found]
  · simp [same]

theorem wellFormed_update (forest : Forest Name Info) (name : Name) (change : Info → Info)
    (formed : WellFormed forest) : WellFormed (forest.update name change) := by
  intro other node found
  obtain ⟨held, found, same, -⟩ := (node_update_iff forest name other change node).mp found
  rw [same]
  have chain := formed other held found
  constructor
  · intro ancestor member
    exact (alive_update_iff forest name ancestor change).mpr (chain.alive ancestor member)
  · intro ancestor member above memberAbove
    rw [ancestors_update] at memberAbove
    exact chain.closed ancestor member above memberAbove

end CycloneddsRs.EntityTree
