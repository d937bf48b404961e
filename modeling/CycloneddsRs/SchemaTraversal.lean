import CycloneddsRs.DefinitionText
import CycloneddsRs.KeyedTraversal

/-!
Both registries walk the field types as one keyed traversal does. A definition's text
is its label; the registry's contents are images of the traversal's state, and its
panics are images of the traversal's faults. The assertion in `finish` never fails.
-/

namespace CycloneddsRs.SchemaTraversal

open InterfaceGen DefinitionText KeyedGraph KeyedTraversal

universe u v
variable {Node : Type u} (schema : Schema Node)

def schemaGraph (label : Node → String) : Graph Node TypeKey String :=
  { succ := references schema, key := typeKey schema, label := label }

abbrev idlGraph (mode : NsMode) : Graph Node TypeKey String :=
  schemaGraph schema (idlDef schema mode)

abbrev msgGraph : Graph Node TypeKey String := schemaGraph schema (msgDef schema)

section Representation

variable (label : Node → String)

def seenOf (finished : List Node) : List (TypeKey × String) :=
  (finished.map fun node => (typeKey schema node, label node)).reverse

def haltOf : Fault Node → Halt
  | .fuel => .outOfFuel
  | .cycle path again =>
      .panic (cycleMessage (formatCycle (path.map (typeKey schema)) (typeKey schema again)))
  | .conflict first second =>
      .panic (conflictMessage (typeKey schema second) (label first) (label second))

theorem seenOf_snoc (finished : List Node) (node : Node) :
    seenOf schema label (finished ++ [node]) =
      (typeKey schema node, label node) :: seenOf schema label finished := by
  simp [seenOf]

/-- As keys do not repeat, the newest entry of a key is its only one. -/
theorem seenOf_lookup (finished : List Node) (key : TypeKey)
    (distinct : (finished.map (typeKey schema)).Nodup) :
    (seenOf schema label finished).lookup key =
      (finished.find? fun node => typeKey schema node = key).map label := by
  induction finished using List.reverseRecOn with
  | nil => rfl
  | append_singleton finished node ih =>
      rw [List.map_append] at distinct
      obtain ⟨before, -, apart⟩ := List.nodup_append.mp distinct
      rw [seenOf_snoc, List.lookup_cons, List.find?_append]
      by_cases same : typeKey schema node = key
      -- The newest entry is the first to be looked up and the last to be listed.
      · have missing : finished.find? (fun other => typeKey schema other = key) = none := by
          apply List.find?_eq_none.mpr
          intro other member found
          have twice : typeKey schema other = typeKey schema node := by simpa [same] using found
          exact apart _ (List.mem_map_of_mem member) _ List.mem_cons_self twice
        simp [same, missing]
      · have other : (key == typeKey schema node) = false := beq_eq_false_iff_ne.mpr (Ne.symm same)
        simp [same, other, ih before]

theorem enterKey_enter (root node : Node) (state : State Node)
    (inv : Inv (schemaGraph schema label) root state) :
    enterKey (seenOf schema label state.finished) (state.path.map (typeKey schema))
        (typeKey schema node) (label node) =
      match enter (schemaGraph schema label) state node with
      | .error fault => .error (haltOf schema label fault)
      | .ok none => .ok false
      | .ok (some _) => .ok true := by
  have lookup : (seenOf schema label state.finished).lookup (typeKey schema node) =
      (state.finished.find? fun other => (schemaGraph schema label).key other =
        (schemaGraph schema label).key node).map label :=
    seenOf_lookup schema label state.finished (typeKey schema node)
      (finished_distinct (schemaGraph schema label) root state inv)
  unfold enterKey enter
  rw [lookup]
  cases found : state.finished.find? fun other => (schemaGraph schema label).key other =
      (schemaGraph schema label).key node with
  | none =>
      by_cases onPath : typeKey schema node ∈ state.path.map (typeKey schema)
      · simp [onPath, haltOf, schemaGraph]
      · simp [onPath, schemaGraph]
  | some other =>
      by_cases same : label other = label node
      · simp [same, schemaGraph]
      · simp [same, haltOf, schemaGraph]

end Representation

section Simulation

variable {Registry : Type v} (label : Node → String)
variable (enterReg : Registry → Node → Except Halt (Bool × Registry))
variable (finishReg : Registry → Node → Except Halt Registry)
variable (represent : State Node → Registry)

def shown : Except (Fault Node) (State Node) → Except Halt Registry
  | .ok after => .ok (represent after)
  | .error fault => .error (haltOf schema label fault)

theorem shown_ok (outcome : Except (Fault Node) (State Node)) (reg : Registry)
    (done : shown schema label represent outcome = .ok reg) :
    ∃ after, outcome = .ok after ∧ represent after = reg := by
  cases outcome with
  | error fault => cases done
  | ok after => exact ⟨after, rfl, Except.ok.inj done⟩

structure Represents : Prop where
  entering : ∀ root node state, Inv (schemaGraph schema label) root state →
    enterReg (represent state) node =
      match enter (schemaGraph schema label) state node with
      | .error fault => .error (haltOf schema label fault)
      | .ok none => .ok (false, represent state)
      | .ok (some inside) => .ok (true, represent inside)
  finishing : ∀ node state path, state.path = path ++ [node] →
    finishReg (represent state) node = .ok (represent (leave state node))

theorem collect_target (collect : Registry → Node → Except Halt Registry) (reg : Registry)
    (ty : InterfaceRef Node) :
    ty.collect collect reg =
      match refTarget ty with
      | none => .ok reg
      | some node => collect reg node := by
  cases ty with
  | elem element => cases element <;> rfl
  | vec element => cases element <;> rfl
  | array element => cases element <;> rfl

variable [Fintype Node]

theorem fields_collected (root : Node) (fuel : Nat)
    (visiting : ∀ state node, Inv (schemaGraph schema label) root state →
      Reach (schemaGraph schema label) root node →
        Follows (schemaGraph schema label) state.path node →
          collectStruct schema enterReg finishReg fuel (represent state) node =
            shown schema label represent (visit (schemaGraph schema label) fuel state node))
    (fields : List (FieldItem Node)) (state : State Node)
    (inv : Inv (schemaGraph schema label) root state)
    (ahead : ∀ node ∈ fields.filterMap (fun field => refTarget field.ty),
      Reach (schemaGraph schema label) root node ∧
        Follows (schemaGraph schema label) state.path node) :
    fields.foldlM (fun reg field =>
        field.ty.collect (collectStruct schema enterReg finishReg fuel) reg) (represent state) =
      shown schema label represent ((fields.filterMap fun field => refTarget field.ty).foldlM
        (visit (schemaGraph schema label) fuel) state) := by
  induction fields generalizing state with
  | nil => rfl
  | cons field fields ih =>
      rw [List.foldlM_cons, collect_target]
      cases target : refTarget field.ty with
      | none =>
          simp only [List.filterMap_cons, target] at ahead ⊢
          exact ih state inv ahead
      | some node =>
          simp only [List.filterMap_cons, target] at ahead ⊢
          obtain ⟨reached, follows⟩ := ahead node List.mem_cons_self
          have judged :=
            visit_judged (schemaGraph schema label) root fuel state node inv reached follows
          simp only [List.foldlM_cons, visiting state node inv reached follows]
          cases done : visit (schemaGraph schema label) fuel state node with
          | error fault => rfl
          | ok middle =>
              rw [done] at judged
              apply ih middle judged.inv
              intro next member
              rw [judged.path]
              exact ahead next (List.mem_cons_of_mem _ member)

theorem collected (simulates : Represents schema label enterReg finishReg represent) (root : Node)
    (fuel : Nat) (state : State Node) (node : Node)
    (inv : Inv (schemaGraph schema label) root state)
    (reached : Reach (schemaGraph schema label) root node)
    (follows : Follows (schemaGraph schema label) state.path node) :
    collectStruct schema enterReg finishReg fuel (represent state) node =
      shown schema label represent (visit (schemaGraph schema label) fuel state node) := by
  induction fuel generalizing state node with
  | zero => rfl
  | succ fuel ih =>
      rw [collectStruct, visit, simulates.entering root node state inv]
      cases entered : enter (schemaGraph schema label) state node with
      | error fault => rfl
      | ok entry =>
          cases entry with
          | none => rfl
          | some inside =>
              have insideInv := inside_inv (schemaGraph schema label) root node state inside inv
                reached follows entered
              obtain ⟨rfl, -, -⟩ :=
                enter_inside (schemaGraph schema label) state inside node entered
              have ahead := entered_ahead (schemaGraph schema label) root node state.path reached
              -- The fields leave the path as it was, so `finish` finds the type on its end.
              have below := visits_judged (schemaGraph schema label) root fuel
                (visit_judged (schemaGraph schema label) root fuel) (references schema node) _
                insideInv ahead
              have ran := fields_collected schema label enterReg finishReg represent root fuel ih
                (schema node).fields _ insideInv ahead
              have succ : (schemaGraph schema label).succ node = references schema node := rfl
              rw [← references] at ran
              simp only [ran, succ]
              cases done : (references schema node).foldlM (visit (schemaGraph schema label) fuel)
                { state with
                  path := state.path ++ [node]
                  entered := state.entered ++ [node] } with
              | error fault => rfl
              | ok after =>
                  rw [done] at below
                  exact simulates.finishing node after state.path below.2.1

end Simulation

/-! The two registries -/

def defRegistry (mode : NsMode) (state : State Node) : DefRegistry :=
  { seen := seenOf schema (idlDef schema mode) state.finished
    visiting := state.path.map (typeKey schema)
    entries := state.finished.map (idlDef schema mode)
    mode := mode }

def msgRegistry (state : State Node) : MsgDefRegistry :=
  { seen := seenOf schema (msgDef schema) state.finished
    visiting := state.path.map (typeKey schema)
    entries := state.entered.map fun node =>
      (InterfaceElem.msgRef schema (.struct node), msgDef schema node) }

/-- The test in `finish`: the finished type is the last one on the path. -/
theorem visiting_last (path : List Node) (node : Node) :
    ((path ++ [node]).map (typeKey schema)).getLast? = some (typeKey schema node) := by
  rw [List.map_append]
  exact List.getLast?_concat

theorem defRegistry_represents (mode : NsMode) :
    Represents schema (idlDef schema mode) (DefRegistry.enter schema) (DefRegistry.finish schema)
      (defRegistry schema mode) := by
  constructor
  · intro root node state inv
    have tests := enterKey_enter schema (idlDef schema mode) root node state inv
    unfold DefRegistry.enter
    simp only [defRegistry] at tests ⊢
    rw [tests]
    cases entered : enter (schemaGraph schema (idlDef schema mode)) state node with
    | error fault => rfl
    | ok entry =>
        cases entry with
        | none => rfl
        | some inside =>
            obtain ⟨rfl, -, -⟩ := enter_inside _ state inside node entered
            simp
  · intro node state path ends
    unfold DefRegistry.finish
    simp only [defRegistry, ends, visiting_last, if_true]
    simp [leave, ends, seenOf_snoc]

theorem msgRegistry_represents :
    Represents schema (msgDef schema) (MsgDefRegistry.enter schema) (MsgDefRegistry.finish schema)
      (msgRegistry schema) := by
  constructor
  · intro root node state inv
    have tests := enterKey_enter schema (msgDef schema) root node state inv
    unfold MsgDefRegistry.enter
    simp only [msgRegistry] at tests ⊢
    rw [tests]
    cases entered : enter (schemaGraph schema (msgDef schema)) state node with
    | error fault => rfl
    | ok entry =>
        cases entry with
        | none => rfl
        | some inside =>
            obtain ⟨rfl, -, -⟩ := enter_inside _ state inside node entered
            simp
  · intro node state path ends
    unfold MsgDefRegistry.finish
    simp only [msgRegistry, ends, visiting_last, if_true]
    simp [leave, ends, seenOf_snoc]

section Collections

variable [Fintype Node] (fuel : Nat) (root : Node)

theorem collectDefs_visit (mode : NsMode) :
    collectDefs schema fuel (DefRegistry.new mode) root =
      shown schema (idlDef schema mode) (defRegistry schema mode)
        (visit (idlGraph schema mode) fuel State.empty root) :=
  collected schema _ _ _ _ (defRegistry_represents schema mode) root fuel State.empty root
    (empty_inv _ root) .refl nofun

theorem collectMsgDefs_visit :
    collectMsgDefs schema fuel MsgDefRegistry.new root =
      shown schema (msgDef schema) (msgRegistry schema)
        (visit (msgGraph schema) fuel State.empty root) :=
  collected schema _ _ _ _ (msgRegistry_represents schema) root fuel State.empty root
    (empty_inv _ root) .refl nofun

end Collections

end CycloneddsRs.SchemaTraversal
