import CycloneddsRs.SchemaTraversal

/-!
Types of one package and name. A registry compares the text of a type that it meets
again, then skips its fields. Equal texts say that the fields have types of equal names,
not that these have equal definitions: below a skipped type a conflict goes unseen.
-/

namespace CycloneddsRs.SchemaConflicts

open InterfaceGen DefinitionText KeyedGraph KeyedTraversal SchemaTraversal

universe u
variable {Node : Type u} (schema : Schema Node)

theorem lookup_map {Ref : Type} [DecidableEq Ref] (ref : Node → Ref) (label : Node → String)
    (nodes : List Node) (wanted : Ref) :
    (nodes.map fun node => (ref node, label node)).lookup wanted =
      (nodes.find? fun node => ref node = wanted).map label := by
  induction nodes with
  | nil => rfl
  | cons node nodes ih =>
      rw [List.map_cons, List.lookup_cons, List.find?_cons]
      by_cases same : ref node = wanted
      · simp [same]
      · have other : (wanted == ref node) = false := beq_eq_false_iff_ne.mpr (Ne.symm same)
        simp [same, other, ih]

section Coverage

variable (label : Node → String) (root : Node)

/-- The listing holds a node's own text for its reference exactly when it stands for
the node. -/
theorem lookup_covers {Ref : Type} [DecidableEq Ref] (ref : Node → Ref)
    (unique : ∀ left right, ref left = ref right ↔ typeKey schema left = typeKey schema right)
    (after : State Node) (inv : Inv (schemaGraph schema label) root after) (nodes : List Node)
    (listed : ∀ node, node ∈ nodes ↔ node ∈ after.finished) (node : Node) :
    (nodes.find? fun other => ref other = ref node).map label = some (label node) ↔
      ∃ other ∈ after.finished, SameDefinition (schemaGraph schema label) other node := by
  constructor
  · intro found
    obtain ⟨other, first, same⟩ := Option.map_eq_some_iff.mp found
    have refs : ref other = ref node := by simpa using List.find?_some first
    exact ⟨other, (listed other).mp (List.mem_of_find?_eq_some first), (unique other node).mp refs,
      same⟩
  · rintro ⟨other, among, sameKey, sameLabel⟩
    cases first : nodes.find? fun other => ref other = ref node with
    | none =>
        have apart := List.find?_eq_none.mp first other ((listed other).mpr among)
        simp [(unique other node).mpr sameKey] at apart
    | some twin =>
        have refs : ref twin = ref node := by simpa using List.find?_some first
        have twinIn := (listed twin).mp (List.mem_of_find?_eq_some first)
        have one : twin = other := finished_unique (schemaGraph schema label) root after inv twin
          other twinIn among (((unique twin node).mp refs).trans sameKey.symm)
        rw [Option.map_some, one]
        exact congrArg some sameLabel

end Coverage

section Described

variable [Fintype Node] (fuel : Nat) (root : Node)

theorem visited_of_ok (label : Node → String) (after : State Node)
    (done : visit (schemaGraph schema label) fuel State.empty root = .ok after) :
    Visited (schemaGraph schema label) root State.empty root after := by
  have judged := visit_judged (schemaGraph schema label) root fuel State.empty root
    (empty_inv (schemaGraph schema label) root) .refl nofun
  rw [done] at judged
  exact judged

theorem collectDefs_described (mode : NsMode) (reg : DefRegistry)
    (collected : collectDefs schema fuel (DefRegistry.new mode) root = .ok reg) :
    (∀ node, Reach (idlGraph schema mode) root node →
        reg.seen.lookup (typeKey schema node) = some (idlDef schema mode node)) ↔
      Hereditary (idlGraph schema mode) root := by
  rw [collectDefs_visit] at collected
  obtain ⟨after, done, rfl⟩ := shown_ok schema _ _ _ reg collected
  have visited := visited_of_ok schema fuel root (idlDef schema mode) after done
  rw [← covers_iff_hereditary (idlGraph schema mode) root after visited fun first second same =>
    idlDef_references schema mode first second same.1 same.2]
  apply forall₂_congr
  intro node _
  have covers := lookup_covers schema (idlDef schema mode) root (typeKey schema)
    (fun _ _ => Iff.rfl) after visited.inv after.finished (fun _ => Iff.rfl) node
  rw [← seenOf_lookup schema (idlDef schema mode) after.finished (typeKey schema node)
    (finished_distinct _ root after visited.inv)] at covers
  exact covers

theorem collectDefs_entries (mode : NsMode) (reg : DefRegistry)
    (collected : collectDefs schema fuel (DefRegistry.new mode) root = .ok reg) :
    reg.entries = (reg.seen.map Prod.snd).reverse := by
  rw [collectDefs_visit] at collected
  obtain ⟨after, -, rfl⟩ := shown_ok schema _ _ _ reg collected
  simp [defRegistry, seenOf, Function.comp_def]

theorem collectMsgDefs_described (reg : MsgDefRegistry)
    (collected : collectMsgDefs schema fuel MsgDefRegistry.new root = .ok reg) :
    (∀ node, Reach (msgGraph schema) root node →
        reg.entries.lookup (InterfaceElem.msgRef schema (.struct node)) =
          some (msgDef schema node)) ↔
      Hereditary (msgGraph schema) root := by
  rw [collectMsgDefs_visit] at collected
  obtain ⟨after, done, rfl⟩ := shown_ok schema _ _ _ reg collected
  have visited := visited_of_ok schema fuel root (msgDef schema) after done
  have entered : ∀ node, node ∈ after.entered ↔ node ∈ after.finished := by
    intro node
    have path : after.path = [] := visited.path
    rw [visited.inv.entered, path, List.nil_append]
  rw [← covers_iff_hereditary (msgGraph schema) root after visited fun first second same =>
    msgDef_references schema first second same.2]
  apply forall₂_congr
  intro node _
  have covers := lookup_covers schema (msgDef schema) root
    (fun other => InterfaceElem.msgRef schema (.struct other)) (msgRef_iff schema) after
    visited.inv after.entered entered node
  rw [← lookup_map (fun other => InterfaceElem.msgRef schema (.struct other))] at covers
  exact covers

end Described

/-! Two versions of a module under one package name -/

inductive WrappedType where
  | uses | wrapperV1 | wrapperV2 | configV1 | configV2
  deriving DecidableEq

instance : Fintype WrappedType :=
  ⟨{.uses, .wrapperV1, .wrapperV2, .configV1, .configV2}, fun type => by cases type <;> decide⟩

/-- Both wrappers have one text. Both configurations have one, too, only if the second
module's `threshold` is an `f64` like the first one's. -/
def wrapped (threshold : Primitive) : Schema WrappedType
  | .uses =>
      { package := "app_msgs", name := "Uses"
        fields := [.unkeyed "a" (.elem (.struct .wrapperV1)) rfl,
          .unkeyed "b" (.elem (.struct .wrapperV2)) rfl]
        packageAccepted := rfl, nameAccepted := rfl, nonempty := List.cons_ne_nil _ _ }
  | .wrapperV1 =>
      { package := "app_msgs", name := "Wrapper"
        fields := [.unkeyed "config" (.elem (.struct .configV1)) rfl]
        packageAccepted := rfl, nameAccepted := rfl, nonempty := List.cons_ne_nil _ _ }
  | .wrapperV2 =>
      { package := "app_msgs", name := "Wrapper"
        fields := [.unkeyed "config" (.elem (.struct .configV2)) rfl]
        packageAccepted := rfl, nameAccepted := rfl, nonempty := List.cons_ne_nil _ _ }
  | .configV1 =>
      { package := "app_msgs", name := "Config"
        fields := [.unkeyed "threshold" (.elem (.primitive .f64)) rfl]
        packageAccepted := rfl, nameAccepted := rfl, nonempty := List.cons_ne_nil _ _ }
  | .configV2 =>
      { package := "app_msgs", name := "Config"
        fields := [.unkeyed "threshold" (.elem (.primitive threshold)) rfl]
        packageAccepted := rfl, nameAccepted := rfl, nonempty := List.cons_ne_nil _ _ }

theorem wrapped_reach (threshold : Primitive) (label : WrappedType → String) :
    Reach (schemaGraph (wrapped threshold) label) .uses .configV2 := by
  have wrapper : Edge (schemaGraph (wrapped threshold) label) .uses .wrapperV2 :=
    List.mem_cons_of_mem _ List.mem_cons_self
  have config : Edge (schemaGraph (wrapped threshold) label) .wrapperV2 .configV2 :=
    List.mem_cons_self
  exact (Relation.ReflTransGen.single wrapper).tail config

theorem returned_of_test {Registry : Type} (outcome : Except Halt Registry)
    (test : Registry → Bool)
    (passed : (match outcome with
      | .ok reg => test reg
      | .error _ => false) = true) :
    ∃ reg, outcome = .ok reg ∧ test reg = true := by
  cases outcome with
  | ok reg => exact ⟨reg, rfl, passed⟩
  | error halt => cases passed

theorem wrapped_f64_hereditary : Hereditary (idlGraph (wrapped .f64) .raw) .uses := by
  intro first second _ _ same
  have keys : typeKey (wrapped .f64) first = typeKey (wrapped .f64) second := same.1
  revert keys
  cases first <;> cases second <;> decide

/-- Where the generators return, every reachable type is described by the definition
that is emitted for its name exactly when equal texts have fields with equal texts. -/
theorem described_iff_hereditary {Node : Type u} [Fintype Node] (schema : Schema Node) (fuel : Nat)
    (root : Node) :
    (∀ mode text, idl schema fuel mode root = .ok text →
      ∃ reg, collectDefs schema fuel (DefRegistry.new mode) root = .ok reg ∧
        text = String.join reg.entries ∧ reg.entries = (reg.seen.map Prod.snd).reverse ∧
          ((∀ node, Reach (idlGraph schema mode) root node →
              reg.seen.lookup (typeKey schema node) = some (idlDef schema mode node)) ↔
            Hereditary (idlGraph schema mode) root)) ∧
      ∀ text, fullRos2Msg schema fuel root = .ok text →
        ∃ reg, collectMsgDefs schema fuel MsgDefRegistry.new root = .ok reg ∧
          text = reg.render ∧
            ((∀ node, Reach (msgGraph schema) root node →
                reg.entries.lookup (InterfaceElem.msgRef schema (.struct node)) =
                  some (msgDef schema node)) ↔
              Hereditary (msgGraph schema) root) := by
  constructor
  · intro mode text returned
    unfold idl at returned
    split at returned
    · cases returned
    · rename_i reg ran
      cases returned
      exact ⟨reg, ran, rfl, collectDefs_entries schema fuel root mode reg ran,
        collectDefs_described schema fuel root mode reg ran⟩
  · intro text returned
    unfold fullRos2Msg at returned
    split at returned
    · cases returned
    · rename_i reg ran
      cases returned
      exact ⟨reg, ran, rfl, collectMsgDefs_described schema fuel root reg ran⟩

theorem wrapped_f64_described :
    ∃ reg, collectDefs (wrapped .f64) 6 (DefRegistry.new .raw) .uses = .ok reg ∧
      ∀ node, Reach (idlGraph (wrapped .f64) .raw) .uses node →
        reg.seen.lookup (typeKey (wrapped .f64) node) = some (idlDef (wrapped .f64) .raw node) := by
  obtain ⟨text, returned, -⟩ :=
    returned_of_test (idl (wrapped .f64) 6 .raw .uses) (fun _ => true) (by decide)
  obtain ⟨reg, ran, -, -, described⟩ :=
    (described_iff_hereditary (wrapped .f64) 6 .uses).1 .raw text returned
  exact ⟨reg, ran, described.mpr wrapped_f64_hereditary⟩

/-- The second configuration is reached, yet only the first one's text is emitted. -/
theorem hiddenConflict_emitted :
    (∃ reg text, collectDefs (wrapped .u32) 6 (DefRegistry.new .raw) .uses = .ok reg ∧
      idl (wrapped .u32) 6 .raw .uses = .ok text ∧
        Reach (idlGraph (wrapped .u32) .raw) .uses .configV2 ∧
          reg.seen.lookup (typeKey (wrapped .u32) .configV2) ≠
            some (idlDef (wrapped .u32) .raw .configV2)) ∧
      ∃ reg text, collectMsgDefs (wrapped .u32) 6 MsgDefRegistry.new .uses = .ok reg ∧
        fullRos2Msg (wrapped .u32) 6 .uses = .ok text ∧
          Reach (msgGraph (wrapped .u32)) .uses .configV2 ∧
            reg.entries.lookup (InterfaceElem.msgRef (wrapped .u32) (.struct .configV2)) ≠
              some (msgDef (wrapped .u32) .configV2) := by
  constructor
  · obtain ⟨reg, ran, differs⟩ := returned_of_test
      (collectDefs (wrapped .u32) 6 (DefRegistry.new .raw) .uses)
      (fun reg => reg.seen.lookup (typeKey (wrapped .u32) .configV2) !=
        some (idlDef (wrapped .u32) .raw .configV2)) (by decide)
    refine ⟨reg, String.join reg.entries, ran, ?_, wrapped_reach .u32 _, by simpa using differs⟩
    rw [idl, ran]
  · obtain ⟨reg, ran, differs⟩ := returned_of_test
      (collectMsgDefs (wrapped .u32) 6 MsgDefRegistry.new .uses)
      (fun reg => reg.entries.lookup (InterfaceElem.msgRef (wrapped .u32) (.struct .configV2)) !=
        some (msgDef (wrapped .u32) .configV2)) (by decide)
    refine ⟨reg, reg.render, ran, ?_, wrapped_reach .u32 _, by simpa using differs⟩
    rw [fullRos2Msg, ran]

end CycloneddsRs.SchemaConflicts
