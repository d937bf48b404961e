import CycloneddsRs.SchemaTraversal

/-!
The IDL of a type whose reachable types have names of their own: a listing of these
types in which each one follows the types of its fields, or a panic that names a cycle
of field references.
-/

namespace CycloneddsRs.IdlListing

open InterfaceGen DefinitionText KeyedGraph KeyedTraversal SchemaTraversal

universe u
variable {Node : Type u} (schema : Schema Node)

theorem formatCycle_split (front rest : List TypeKey) (key : TypeKey) (first : key ∉ front) :
    formatCycle (front ++ key :: rest) key =
      " -> ".intercalate ((key :: (rest ++ [key])).map qualified) := by
  have start : (front ++ key :: rest).idxOf? key = some front.length := by
    apply List.idxOf?_eq_some_iff.mpr
    refine ⟨by simp, by simp, ?_⟩
    intro index before found
    rw [List.getElem_append_left before] at found
    exact first (found ▸ List.getElem_mem before)
  unfold formatCycle
  simp [start]

/-- The path that a panic prints: from the repeated type along fields back to it. -/
def cycleText (again : Node) (rest : List Node) : String :=
  " -> ".intercalate ((again :: (rest ++ [again])).map fun node => qualified (typeKey schema node))

theorem haltOf_cycle (label : Node → String) (root : Node) (path : List Node) (again : Node)
    (genuine : GenuineCycle (schemaGraph schema label) root path again)
    (distinct : DistinctKeys (schemaGraph schema label) root) :
    ∃ rest, (again :: (rest ++ [again])).IsChain (Edge (schemaGraph schema label)) ∧
      haltOf schema label (.cycle path again) =
        .panic (cycleMessage (cycleText schema again rest)) := by
  obtain ⟨front, rest, split, first, chained⟩ :=
    cycle_split (schemaGraph schema label) root path again genuine distinct
  refine ⟨rest, chained, ?_⟩
  have printed := formatCycle_split (front.map (typeKey schema)) (rest.map (typeKey schema))
    (typeKey schema again) first
  rw [haltOf, split, List.map_append, List.map_cons, printed]
  simp [cycleText, Function.comp_def]

theorem idl_cases [Fintype Node] (mode : NsMode) (root : Node) (fuel : Nat)
    (enough : Fintype.card Node < fuel) (distinct : DistinctKeys (idlGraph schema mode) root) :
    (CycleReachable (idlGraph schema mode) root ∧ ∃ again rest,
        Reach (idlGraph schema mode) root again ∧
          (again :: (rest ++ [again])).IsChain (Edge (idlGraph schema mode)) ∧
            idl schema fuel mode root =
              .error (.panic (cycleMessage (cycleText schema again rest)))) ∨
      (¬ CycleReachable (idlGraph schema mode) root ∧ ∃ front,
        idl schema fuel mode root = .ok (String.join ((front ++ [root]).map (idlDef schema mode))) ∧
          TopologicalListing (idlGraph schema mode) root (front ++ [root])) := by
  have ran := collectDefs_visit schema fuel root mode
  rcases run_distinct (idlGraph schema mode) root fuel enough distinct with
    ⟨cyclic, path, again, done, genuine⟩ | ⟨acyclic, after, done, -, listing⟩
  · obtain ⟨rest, chained, message⟩ :=
      haltOf_cycle schema (idlDef schema mode) root path again genuine distinct
    refine .inl ⟨cyclic, again, rest, genuine.reached again List.mem_cons_self, chained, ?_⟩
    rw [idl, ran, done, shown, message]
  · obtain ⟨front, last⟩ := root_last (idlGraph schema mode) root fuel after done
    rw [last] at listing
    refine .inr ⟨acyclic, front, ?_, listing⟩
    rw [idl, ran, done, ← last]
    rfl

/-! A type that refers to another one twice: directly and through a third one -/

inductive RobotType where
  | robot | origin | point
  deriving DecidableEq

instance : Fintype RobotType :=
  ⟨{.robot, .origin, .point}, fun type => by cases type <;> decide⟩

def robotSchema : Schema RobotType
  | .robot =>
      { package := "robot_msgs", name := "Robot"
        fields := [.unkeyed "path" (.vec (.struct .point)) rfl,
          .unkeyed "origin" (.elem (.struct .origin)) rfl]
        packageAccepted := rfl, nameAccepted := rfl, nonempty := List.cons_ne_nil _ _ }
  | .origin =>
      { package := "robot_msgs", name := "Origin"
        fields := [.unkeyed "frame" (.elem (.primitive .string)) rfl,
          .unkeyed "corners" (.array (.struct .point) 4 (by decide)) rfl]
        packageAccepted := rfl, nameAccepted := rfl, nonempty := List.cons_ne_nil _ _ }
  | .point =>
      { package := "geometry_msgs", name := "Point"
        fields := [.unkeyed "x" (.elem (.primitive .f64)) rfl,
          .unkeyed "y" (.elem (.primitive .f64)) rfl]
        packageAccepted := rfl, nameAccepted := rfl, nonempty := List.cons_ne_nil _ _ }

theorem robotSchema_distinct (label : RobotType → String) :
    DistinctKeys (schemaGraph robotSchema label) .robot := by
  intro first second _ _ same
  have keys : typeKey robotSchema first = typeKey robotSchema second := same
  revert keys
  cases first <;> cases second <;> decide

def robotRank : RobotType → Nat
  | .robot => 2
  | .origin => 1
  | .point => 0

theorem robotSchema_acyclic (label : RobotType → String) :
    ¬ CycleReachable (schemaGraph robotSchema label) .robot := by
  apply ranked_acyclic _ _ robotRank
  intro first second edge
  have refers : second ∈ references robotSchema first := edge
  revert refers
  cases first <;> cases second <;> decide

/-- `T::idl(mode)` ends. It panics with a cycle exactly when one can be reached, and the
cycle is genuine; else it lists the reachable types, each after its fields' types. -/
theorem idl_listing [Fintype Node] (mode : NsMode) (root : Node) (fuel : Nat)
    (enough : Fintype.card Node < fuel) (distinct : DistinctKeys (idlGraph schema mode) root) :
    ((∃ path, idl schema fuel mode root = .error (.panic (cycleMessage path))) ↔
        CycleReachable (idlGraph schema mode) root) ∧
      (∀ halt, idl schema fuel mode root = .error halt →
        ∃ again rest, Reach (idlGraph schema mode) root again ∧
          (again :: (rest ++ [again])).IsChain (Edge (idlGraph schema mode)) ∧
            halt = .panic (cycleMessage (cycleText schema again rest))) ∧
      (¬ CycleReachable (idlGraph schema mode) root →
        ∃ front, idl schema fuel mode root =
            .ok (String.join ((front ++ [root]).map (idlDef schema mode))) ∧
          TopologicalListing (idlGraph schema mode) root (front ++ [root])) := by
  rcases idl_cases schema mode root fuel enough distinct with
    ⟨cyclic, again, rest, reached, chained, halted⟩ | ⟨acyclic, front, listed, listing⟩
  · refine ⟨⟨fun _ => cyclic, fun _ => ⟨_, halted⟩⟩, ?_, fun acyclic => absurd cyclic acyclic⟩
    intro halt failed
    rw [halted] at failed
    cases failed
    exact ⟨again, rest, reached, chained, rfl⟩
  · refine ⟨⟨?_, fun cyclic => absurd cyclic acyclic⟩, ?_, fun _ => ⟨front, listed, listing⟩⟩
    · rintro ⟨path, failed⟩
      rw [listed] at failed
      cases failed
    · intro halt failed
      rw [listed] at failed
      cases failed

theorem robot_idl_listed :
    ∃ front, idl robotSchema 4 .ros2dds .robot =
        .ok (String.join ((front ++ [.robot]).map (idlDef robotSchema .ros2dds))) ∧
      TopologicalListing (idlGraph robotSchema .ros2dds) .robot (front ++ [.robot]) :=
  (idl_listing robotSchema .ros2dds .robot 4 (by decide) (robotSchema_distinct _)).2.2
    (robotSchema_acyclic _)

end CycloneddsRs.IdlListing
