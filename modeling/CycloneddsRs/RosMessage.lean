import CycloneddsRs.IdlListing

/-!
The concatenated message definition of a type whose reachable types have names of
their own. It can be taken apart again at its separator lines: the type's own
definition comes first, then one block for every other type in order of occurrence.
-/

namespace CycloneddsRs.RosMessage

open InterfaceGen DefinitionText DelimitedText KeyedGraph KeyedTraversal SchemaTraversal
open IdlListing

universe u
variable {Node : Type u} (schema : Schema Node)

def separatorLine : List Char := separator.toList ++ ['\n']

def header (node : Node) : String := "MSG: " ++ InterfaceElem.msgRef schema (.struct node) ++ "\n"

/-- What stands below a separator line. -/
def blockText (node : Node) : String := header schema node ++ msgDef schema node

theorem separatorLine_whole : ∃ line, separatorLine = line ++ ['\n'] ∧ '\n' ∉ line := by
  refine ⟨separator.toList, rfl, ?_⟩
  rw [separator_text]
  intro member
  exact absurd (List.eq_of_mem_replicate member) (by decide)

theorem header_text (node : Node) : (header schema node).toList =
    "MSG: ".toList ++ (InterfaceElem.msgRef schema (.struct node)).toList ++ ['\n'] := by
  rw [header, String.toList_append, String.toList_append]
  rfl

theorem header_whole (node : Node) :
    (header schema node).toList ≠ separatorLine ∧
      ∃ line, (header schema node).toList = line ++ ['\n'] ∧ '\n' ∉ line := by
  rw [header_text]
  constructor
  · intro same
    have heads := congrArg List.head? (List.append_cancel_right same)
    rw [separator_text, List.head?_replicate, if_neg (by decide)] at heads
    exact absurd (Option.some.inj heads) (by decide)
  · refine ⟨_, rfl, ?_⟩
    have packageLine := word_stops _ '\n' (package_word schema node) (by decide)
    have typeLine := word_stops _ '\n' (name_word schema node) (by decide)
    simp [InterfaceElem.msgRef, packageLine, typeLine]

theorem blockText_lines (node : Node) :
    (blockText schema node).toList =
      ((header schema node).toList :: msgLines schema node).flatten := by
  rw [List.flatten_cons, ← msgDef_lines, blockText, String.toList_append]

def entryOf (node : Node) : String × String :=
  (InterfaceElem.msgRef schema (.struct node), msgDef schema node)

theorem renderBlock_lines (node : Node) :
    (renderBlock (entryOf schema node)).toList =
      (separatorLine :: (header schema node).toList :: msgLines schema node).flatten := by
  rw [List.flatten_cons, ← blockText_lines]
  simp only [renderBlock, entryOf, separatorLine, blockText, header, String.toList_append,
    List.append_assoc]
  rfl

theorem renderBlocks_lines (rest : List Node) :
    (String.join ((rest.map (entryOf schema)).map renderBlock)).toList =
      ((rest.map fun node => (header schema node).toList :: msgLines schema node).flatMap
        (separatorLine :: ·)).flatten := by
  induction rest with
  | nil => rfl
  | cons node rest ih =>
      rw [List.map_cons, List.map_cons, String.join_cons, String.toList_append, ih,
        renderBlock_lines, List.map_cons, List.flatMap_cons, List.flatten_append]

/-- No line of a message looks like a separator, so its blocks are found again. -/
theorem render_blocks (root : Node) (rest : List Node) (reg : MsgDefRegistry)
    (entries : reg.entries = (root :: rest).map (entryOf schema)) :
    blocks '\n' separatorLine reg.render.toList =
      (msgDef schema root).toList :: rest.map fun node => (blockText schema node).toList := by
  have text : reg.render.toList = (msgLines schema root ++
      (rest.map fun node => (header schema node).toList :: msgLines schema node).flatMap
        (separatorLine :: ·)).flatten := by
    rw [MsgDefRegistry.render, entries, List.map_cons]
    simp only [String.toList_append]
    rw [renderBlocks_lines, List.flatten_append, ← msgDef_lines]
    rfl
  rw [text, blocks_parts '\n' separatorLine (msgLines schema root)
    (rest.map fun node => (header schema node).toList :: msgLines schema node) separatorLine_whole]
  · rw [List.map_cons, ← msgDef_lines, List.map_map]
    congr 1
    apply List.map_congr_left
    intro node _
    exact (blockText_lines schema node).symm
  -- Every line that is not a separator of `render` differs from a separator.
  · intro part partIn line lineIn
    rcases List.mem_cons.mp partIn with rfl | later
    · exact msgLines_whole schema root line lineIn
    · obtain ⟨node, -, rfl⟩ := List.mem_map.mp later
      rcases List.mem_cons.mp lineIn with rfl | inside
      · exact header_whole schema node
      · exact msgLines_whole schema node line inside

theorem occurrence_root (graph : Graph Node TypeKey String) [DecidableEq Node] (root : Node)
    (enough : Nat) (nodes : List Node) (listing : OccurrenceListing graph root enough nodes) :
    ∃ rest, nodes = root :: rest := by
  have order := listing.ordered (enough + 1) (Nat.le_succ enough)
  rw [unfold, List.eraseDups_cons] at order
  exact ⟨_, order⟩

theorem fullRos2Msg_cases [Fintype Node] [DecidableEq Node] (root : Node) (fuel : Nat)
    (enough : Fintype.card Node < fuel) (distinct : DistinctKeys (msgGraph schema) root) :
    (CycleReachable (msgGraph schema) root ∧
        ∃ message, fullRos2Msg schema fuel root = .error (.panic message)) ∨
      (¬ CycleReachable (msgGraph schema) root ∧ ∃ (reg : MsgDefRegistry) (rest : List Node),
        fullRos2Msg schema fuel root = .ok reg.render ∧
          reg.entries = (root :: rest).map (entryOf schema) ∧
            OccurrenceListing (msgGraph schema) root fuel (root :: rest)) := by
  have ran := collectMsgDefs_visit schema fuel root
  rcases run_distinct (msgGraph schema) root fuel enough distinct with
    ⟨cyclic, path, again, done, genuine⟩ | ⟨acyclic, after, done, visited, -⟩
  · obtain ⟨rest, -, message⟩ :=
      haltOf_cycle schema (msgDef schema) root path again genuine distinct
    refine .inl ⟨cyclic, cycleMessage (cycleText schema again rest), ?_⟩
    rw [fullRos2Msg, ran, done, shown, message]
  · have listing := run_entered (msgGraph schema) root fuel distinct after visited done
    obtain ⟨rest, first⟩ := occurrence_root (msgGraph schema) root fuel after.entered listing
    rw [first] at listing
    refine .inr ⟨acyclic, msgRegistry schema after, rest, ?_, ?_, listing⟩
    · rw [fullRos2Msg, ran, done]
      rfl
    · rw [← first]
      rfl

/-- The concatenated definition splits into the type's own definition and one block for
each other reachable type, in order of first occurrence. The IDL defines the same types
in every mode, and both generators panic on the same graphs. -/
theorem fullRos2Msg_decodes [Fintype Node] [DecidableEq Node] (root : Node) (fuel : Nat)
    (enough : Fintype.card Node < fuel) (distinct : DistinctKeys (msgGraph schema) root) :
    (¬ CycleReachable (msgGraph schema) root →
      ∃ (text : String) (rest : List Node), fullRos2Msg schema fuel root = .ok text ∧
        blocks '\n' separatorLine text.toList =
          (msgDef schema root).toList :: rest.map (fun node => (blockText schema node).toList) ∧
        OccurrenceListing (msgGraph schema) root fuel (root :: rest) ∧
        ∀ mode, ∃ listed : List Node,
          idl schema fuel mode root = .ok (String.join (listed.map (idlDef schema mode))) ∧
            ∀ node, node ∈ listed ↔ node ∈ root :: rest) ∧
      ∀ mode, (∃ message, fullRos2Msg schema fuel root = .error (.panic message)) ↔
        ∃ message, idl schema fuel mode root = .error (.panic message) := by
  rcases fullRos2Msg_cases schema root fuel enough distinct with
    ⟨cyclic, halted⟩ | ⟨acyclic, reg, rest, returned, entries, listing⟩
  · refine ⟨fun acyclic => absurd cyclic acyclic, ?_⟩
    intro mode
    rcases idl_cases schema mode root fuel enough distinct with
      ⟨-, again, path, -, -, panicked⟩ | ⟨acyclic, -⟩
    · exact ⟨fun _ => ⟨_, panicked⟩, fun _ => halted⟩
    · exact absurd cyclic acyclic
  · have inModes : ∀ mode, ∃ listed : List Node,
        idl schema fuel mode root = .ok (String.join (listed.map (idlDef schema mode))) ∧
          ∀ node, node ∈ listed ↔ node ∈ root :: rest := by
      intro mode
      rcases idl_cases schema mode root fuel enough distinct with
        ⟨cyclic, -⟩ | ⟨-, front, listed, complete⟩
      · exact absurd cyclic acyclic
      · refine ⟨front ++ [root], listed, ?_⟩
        intro node
        exact (complete.complete node).trans (listing.complete node).symm
    constructor
    · intro _
      exact ⟨reg.render, rest, returned, render_blocks schema root rest reg entries, listing,
        inModes⟩
    · intro mode
      obtain ⟨listed, defined, -⟩ := inModes mode
      constructor
      · rintro ⟨message, halted⟩
        rw [returned] at halted
        cases halted
      · rintro ⟨message, halted⟩
        rw [defined] at halted
        cases halted

theorem robot_message_decodes :
    ∃ (text : String) (rest : List RobotType), fullRos2Msg robotSchema 4 .robot = .ok text ∧
      blocks '\n' separatorLine text.toList =
        (msgDef robotSchema .robot).toList ::
          rest.map (fun node => (blockText robotSchema node).toList) := by
  obtain ⟨text, rest, returned, split, -, -⟩ :=
    (fullRos2Msg_decodes robotSchema .robot 4 (by decide) (robotSchema_distinct _)).1
      (robotSchema_acyclic _)
  exact ⟨text, rest, returned, split⟩

example : (unfold (msgGraph robotSchema) 4 .robot).eraseDups = [.robot, .point, .origin] := by
  decide

end CycloneddsRs.RosMessage
