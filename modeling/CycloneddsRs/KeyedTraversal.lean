import CycloneddsRs.KeyedGraph

/-!
The depth-first traversal of a keyed graph. It stops with a fault at a cycle or at a
label conflict. With enough fuel it ends; a reported cycle is one; the finishing
order lists every node after its neighbours; the entering order is the order of
first occurrence.
-/

namespace CycloneddsRs.KeyedTraversal

open KeyedGraph

universe u v w
variable {Node : Type u} {Key : Type v} {Label : Type w}
variable [DecidableEq Key] [DecidableEq Label]

/-- `none` for a node that is done with already. -/
def enter (graph : Graph Node Key Label) (state : State Node) (node : Node) :
    Except (Fault Node) (Option (State Node)) :=
  match state.finished.find? (fun other => graph.key other = graph.key node) with
  | some other =>
      if graph.label other = graph.label node then .ok none else .error (.conflict other node)
  | none =>
      if graph.key node ∈ state.path.map graph.key then .error (.cycle state.path node)
      else .ok (some { state with
        path := state.path ++ [node]
        entered := state.entered ++ [node] })

def visit (graph : Graph Node Key Label) : Nat → State Node → Node → Outcome Node
  | 0, _, _ => .error .fuel
  | fuel + 1, state, node =>
      match enter graph state node with
      | .error fault => .error fault
      | .ok none => .ok state
      | .ok (some inside) =>
          match (graph.succ node).foldlM (visit graph fuel) inside with
          | .error fault => .error fault
          | .ok after => .ok (leave after node)

/-! The three ways to answer an `enter` -/

theorem enter_skip (graph : Graph Node Key Label) (state : State Node) (node : Node)
    (skipped : enter graph state node = .ok none) :
    ∃ other ∈ state.finished,
      graph.key other = graph.key node ∧ graph.label other = graph.label node := by
  unfold enter at skipped
  split at skipped
  · rename_i other found
    split at skipped
    · rename_i same
      exact ⟨other, List.mem_of_find?_eq_some found, by simpa using List.find?_some found, same⟩
    · cases skipped
  · split at skipped <;> cases skipped

theorem enter_inside (graph : Graph Node Key Label) (state inside : State Node) (node : Node)
    (entered : enter graph state node = .ok (some inside)) :
    inside = { state with
        path := state.path ++ [node]
        entered := state.entered ++ [node] } ∧
      graph.key node ∉ state.path.map graph.key ∧
      graph.key node ∉ state.finished.map graph.key := by
  unfold enter at entered
  split at entered
  · split at entered <;> cases entered
  · rename_i missing
    split at entered
    · cases entered
    · rename_i fresh
      cases entered
      refine ⟨rfl, fresh, ?_⟩
      intro member
      obtain ⟨other, among, same⟩ := List.mem_map.mp member
      have apart := List.find?_eq_none.mp missing other among
      simp [same] at apart

theorem enter_fault (graph : Graph Node Key Label) (state : State Node) (node : Node)
    (fault : Fault Node) (failed : enter graph state node = .error fault) :
    (∃ other ∈ state.finished, graph.key other = graph.key node ∧
        graph.label other ≠ graph.label node ∧ fault = .conflict other node) ∨
      (graph.key node ∈ state.path.map graph.key ∧ fault = .cycle state.path node) := by
  unfold enter at failed
  split at failed
  · rename_i other found
    split at failed
    · cases failed
    · rename_i differs
      cases failed
      exact .inl ⟨other, List.mem_of_find?_eq_some found, by simpa using List.find?_some found,
        differs, rfl⟩
  · split at failed
    · rename_i repeated
      cases failed
      exact .inr ⟨repeated, rfl⟩
    · cases failed

section Visits

variable (graph : Graph Node Key Label)

theorem inside_inv (root node : Node) (state inside : State Node) (inv : Inv graph root state)
    (reached : Reach graph root node) (follows : Follows graph state.path node)
    (entered : enter graph state node = .ok (some inside)) : Inv graph root inside := by
  obtain ⟨rfl, freshPath, freshFinished⟩ := enter_inside graph state inside node entered
  constructor
  · have fresh : graph.key node ∉ (state.path ++ state.finished).map graph.key := by
      rw [List.map_append, List.mem_append]
      rintro (member | member)
      · exact freshPath member
      · exact freshFinished member
    have added : ((node :: (state.path ++ state.finished)).map graph.key).Nodup :=
      List.nodup_cons.mpr ⟨fresh, inv.distinct⟩
    apply (List.Perm.nodup_iff _).mp added
    apply List.Perm.map
    rw [List.append_assoc]
    exact List.perm_middle.symm
  · intro other member
    simp only [List.mem_append, List.mem_singleton, or_assoc] at member
    rcases member with before | rfl | before
    · exact inv.reached other (List.mem_append_left _ before)
    · exact reached
    · exact inv.reached other (List.mem_append_right _ before)
  · apply List.isChain_append.mpr
    refine ⟨inv.chained, List.isChain_singleton _, ?_⟩
    intro last ends head same
    cases same
    exact follows last ends
  · exact inv.ordered
  · intro other
    simp only [List.mem_append, List.mem_singleton]
    rw [inv.entered, List.mem_append]
    exact or_right_comm

theorem enter_judged [Fintype Node] (root node : Node) (fuel depth : Nat) (state : State Node)
    (fault : Fault Node) (inv : Inv graph root state) (reached : Reach graph root node)
    (follows : Follows graph state.path node) (failed : enter graph state node = .error fault) :
    Faulted graph root fuel depth fault := by
  rcases enter_fault graph state node fault failed with
    ⟨other, among, sameKey, differs, rfl⟩ | ⟨repeated, rfl⟩
  · exact ⟨inv.reached other (List.mem_append_right _ among), reached, sameKey, differs⟩
  · refine ⟨inv.chained, follows, ?_, repeated⟩
    intro other member
    rcases List.mem_cons.mp member with rfl | onPath
    · exact reached
    · exact inv.reached other (List.mem_append_left _ onPath)

/-- The visits of a list of neighbours, one after the other. -/
theorem visits_judged [Fintype Node] (root : Node) (fuel : Nat)
    (judged : ∀ state node, Inv graph root state → Reach graph root node →
      Follows graph state.path node →
        Judged graph root fuel state node (visit graph fuel state node))
    (nodes : List Node) (state : State Node) (inv : Inv graph root state)
    (ahead : ∀ node ∈ nodes, Reach graph root node ∧ Follows graph state.path node) :
    match nodes.foldlM (visit graph fuel) state with
    | .ok after => Inv graph root after ∧ after.path = state.path ∧
        (∃ added, after.finished = state.finished ++ added) ∧
        ∀ node ∈ nodes, ∃ other ∈ after.finished, SameDefinition graph other node
    | .error fault => Faulted graph root fuel state.path.length fault := by
  induction nodes generalizing state with
  | nil => exact ⟨inv, rfl, ⟨[], (List.append_nil _).symm⟩, nofun⟩
  | cons node rest ih =>
      obtain ⟨reached, follows⟩ := ahead node List.mem_cons_self
      have first := judged state node inv reached follows
      rw [List.foldlM_cons]
      cases done : visit graph fuel state node with
      | error fault =>
          rw [done] at first
          exact first
      | ok middle =>
          rw [done] at first
          -- A visit puts the path back, so the other neighbours still follow its last node.
          have later := ih middle first.inv fun next member => by
            rw [first.path]
            exact ahead next (List.mem_cons_of_mem _ member)
          rw [first.path] at later
          cases rested : rest.foldlM (visit graph fuel) middle with
          | error fault => simpa [rested, bind, Except.bind] using later
          | ok after =>
              simp only [rested, bind, Except.bind] at later ⊢
              obtain ⟨lastInv, lastPath, ⟨added, grown⟩, covered⟩ := later
              obtain ⟨before, firstGrown⟩ := first.grown
              refine ⟨lastInv, lastPath, ⟨before ++ added, ?_⟩, ?_⟩
              · rw [grown, firstGrown, List.append_assoc]
              · intro next member
                rcases List.mem_cons.mp member with rfl | later
                · obtain ⟨other, among, same⟩ := first.covered
                  exact ⟨other, grown ▸ List.mem_append_left _ among, same⟩
                · exact covered next later

theorem visit_judged [Fintype Node] (root : Node) (fuel : Nat) (state : State Node) (node : Node)
    (inv : Inv graph root state) (reached : Reach graph root node)
    (follows : Follows graph state.path node) :
    Judged graph root fuel state node (visit graph fuel state node) := by
  induction fuel generalizing state node with
  -- Fuel runs out only below a path that is as long as there are nodes.
  | zero => simpa [visit, Judged, Faulted] using path_short graph root state inv
  | succ fuel ih =>
      rw [visit]
      cases entered : enter graph state node with
      | error fault =>
          exact enter_judged graph root node _ _ state fault inv reached follows entered
      | ok entry =>
          cases entry with
          | none =>
              exact ⟨inv, rfl, ⟨[], (List.append_nil _).symm⟩, enter_skip graph state node entered⟩
          | some inside =>
              have insideInv := inside_inv graph root node state inside inv reached follows entered
              obtain ⟨rfl, -, -⟩ := enter_inside graph state inside node entered
              have below := visits_judged graph root fuel ih (graph.succ node) _ insideInv
                (entered_ahead graph root node state.path reached)
              cases done : (graph.succ node).foldlM (visit graph fuel)
                { state with
                  path := state.path ++ [node]
                  entered := state.entered ++ [node] } with
              | error fault =>
                  simp only [done] at below ⊢
                  -- The depth inside is one more, and the fuel one less.
                  cases fault with
                  | fuel =>
                      simp only [Judged, Faulted, List.length_append, List.length_singleton]
                        at below ⊢
                      omega
                  | cycle | conflict => exact below
              | ok after =>
                  simp only [done] at below ⊢
                  obtain ⟨afterInv, ends, ⟨added, grown⟩, covered⟩ := below
                  obtain ⟨leftInv, leftPath⟩ :=
                    leave_inv graph root node state.path after afterInv ends covered
                  refine ⟨leftInv, leftPath, ⟨added ++ [node], ?_⟩, node, ?_, rfl, rfl⟩
                  · rw [leave, grown, List.append_assoc]
                  · exact List.mem_append_right _ (List.mem_singleton_self node)

end Visits

section Runs

variable (graph : Graph Node Key Label) (root : Node)

/-- A run from the empty state with more fuel than there are nodes does not run out. -/
theorem run_judged [Fintype Node] (fuel : Nat) (enough : Fintype.card Node < fuel) :
    (∃ after, visit graph fuel State.empty root = .ok after ∧
        Visited graph root State.empty root after) ∨
      (∃ path again, visit graph fuel State.empty root = .error (.cycle path again) ∧
        GenuineCycle graph root path again) ∨
      ∃ first second, visit graph fuel State.empty root = .error (.conflict first second) ∧
        GenuineConflict graph root first second := by
  have judged := visit_judged graph root fuel State.empty root (empty_inv graph root) .refl nofun
  cases done : visit graph fuel State.empty root with
  | ok after =>
      rw [done] at judged
      exact .inl ⟨after, rfl, judged⟩
  | error fault =>
      rw [done] at judged
      cases fault with
      | fuel =>
          have bounded : fuel + 0 ≤ Fintype.card Node := judged
          omega
      | cycle path again => exact .inr (.inl ⟨path, again, rfl, judged⟩)
      | conflict first second => exact .inr (.inr ⟨first, second, rfl, judged⟩)

theorem root_last (fuel : Nat) (after : State Node)
    (done : visit graph fuel State.empty root = .ok after) :
    ∃ front, after.finished = front ++ [root] := by
  cases fuel with
  | zero => cases done
  | succ fuel =>
      have fresh : enter graph State.empty root =
          .ok (some { path := [root], entered := [root], finished := [] }) := rfl
      rw [visit, fresh] at done
      simp only at done
      split at done
      · cases done
      · rename_i inner _
        cases done
        exact ⟨inner.finished, rfl⟩

/-- With keys that tell nodes apart, a run finds a cycle or lists the graph. -/
theorem run_distinct [Fintype Node] (fuel : Nat) (enough : Fintype.card Node < fuel)
    (distinct : DistinctKeys graph root) :
    (CycleReachable graph root ∧ ∃ path again,
        visit graph fuel State.empty root = .error (.cycle path again) ∧
          GenuineCycle graph root path again) ∨
      (¬ CycleReachable graph root ∧ ∃ after,
        visit graph fuel State.empty root = .ok after ∧
          Visited graph root State.empty root after ∧
          TopologicalListing graph root after.finished) := by
  rcases run_judged graph root fuel enough with
    ⟨after, done, visited⟩ | ⟨path, again, done, genuine⟩ | ⟨first, second, _, conflict⟩
  · have listing := visited_listing graph root after visited distinct
    exact .inr ⟨listing_acyclic graph root after.finished listing, after, done, visited, listing⟩
  · exact .inl ⟨genuine_reachable graph root path again genuine distinct, path, again, done,
      genuine⟩
  · exact absurd conflict (no_conflict graph root first second distinct)

end Runs

section Occurrences

variable [DecidableEq Node]

def note (noted : List Node) (node : Node) : List Node :=
  if node ∈ noted then noted else noted ++ [node]

theorem note_all (noted nodes : List Node) (known : ∀ node ∈ nodes, node ∈ noted) :
    nodes.foldl note noted = noted := by
  induction nodes with
  | nil => rfl
  | cons node rest ih =>
      rw [List.foldl_cons, note, if_pos (known node List.mem_cons_self)]
      exact ih fun other member => known other (List.mem_cons_of_mem _ member)

theorem note_eraseDups (nodes : List Node) : nodes.foldl note [] = nodes.eraseDups := by
  induction nodes using List.reverseRecOn with
  | nil => rfl
  | append_singleton nodes node ih =>
      rw [List.foldl_append, ih, List.eraseDups_append]
      by_cases known : node ∈ nodes
      · simp [note, known, List.removeAll]
      · simp [note, known, List.removeAll, List.eraseDups_cons]

theorem note_nodup (noted nodes : List Node) (distinct : noted.Nodup) :
    (nodes.foldl note noted).Nodup := by
  induction nodes generalizing noted with
  | nil => exact distinct
  | cons node rest ih =>
      rw [List.foldl_cons, note]
      split
      · exact ih noted distinct
      · rename_i unknown
        apply ih
        exact (List.perm_append_singleton node noted).nodup_iff.mpr
          (List.nodup_cons.mpr ⟨unknown, distinct⟩)

variable [Fintype Node] (graph : Graph Node Key Label) (root : Node)

/-- Exactly the reachable nodes, each once, in the order of their first occurrence. -/
structure OccurrenceListing (enough : Nat) (nodes : List Node) : Prop where
  nodup : nodes.Nodup
  complete : ∀ node, node ∈ nodes ↔ Reach graph root node
  ordered : ∀ depth, enough ≤ depth → nodes = (unfold graph depth root).eraseDups

theorem visits_entered (fuel depth : Nat)
    (entering : ∀ state node after, Inv graph root state → Reach graph root node →
      Follows graph state.path node → visit graph fuel state node = .ok after →
        after.entered = (unfold graph depth node).foldl note state.entered)
    (nodes : List Node) (state after : State Node) (inv : Inv graph root state)
    (ahead : ∀ node ∈ nodes, Reach graph root node ∧ Follows graph state.path node)
    (done : nodes.foldlM (visit graph fuel) state = .ok after) :
    after.entered = (nodes.flatMap (unfold graph depth)).foldl note state.entered := by
  induction nodes generalizing state with
  | nil =>
      cases done
      rfl
  | cons node rest ih =>
      obtain ⟨reached, follows⟩ := ahead node List.mem_cons_self
      rw [List.foldlM_cons] at done
      have judged := visit_judged graph root fuel state node inv reached follows
      cases first : visit graph fuel state node with
      | error fault =>
          rw [first] at done
          cases done
      | ok middle =>
          rw [first] at done judged
          rw [List.flatMap_cons, List.foldl_append,
            ← entering state node middle inv reached follows first]
          apply ih middle judged.inv _ done
          intro next member
          rw [judged.path]
          exact ahead next (List.mem_cons_of_mem _ member)

theorem visit_entered (fuel depth : Nat) (deep : fuel ≤ depth) (distinct : DistinctKeys graph root)
    (state after : State Node) (node : Node) (inv : Inv graph root state)
    (reached : Reach graph root node) (follows : Follows graph state.path node)
    (done : visit graph fuel state node = .ok after) :
    after.entered = (unfold graph depth node).foldl note state.entered := by
  induction fuel generalizing depth state node after with
  | zero => cases done
  | succ fuel ih =>
      obtain ⟨depth, rfl⟩ := Nat.exists_eq_add_of_le' (Nat.one_le_of_lt deep)
      rw [visit] at done
      cases entered : enter graph state node with
      | error fault =>
          rw [entered] at done
          cases done
      | ok entry =>
          cases entry with
          | none =>
              rw [entered] at done
              cases done
              obtain ⟨other, otherIn, sameKey, -⟩ := enter_skip graph state node entered
              have same : other = node := distinct other node
                (inv.reached other (List.mem_append_right _ otherIn)) reached sameKey
              subst same
              -- A finished node is skipped, and the full traversal below it notes nothing new.
              symm
              apply note_all
              intro below member
              rw [inv.entered]
              exact List.mem_append_right _ (ordered_closed graph root state inv distinct other
                below otherIn (unfold_reach graph _ other below member))
          | some inside =>
              have insideInv := inside_inv graph root node state inside inv reached follows entered
              obtain ⟨rfl, freshPath, freshFinished⟩ := enter_inside graph state inside node entered
              rw [entered] at done
              simp only at done
              split at done
              · cases done
              · rename_i inner ran
                cases done
                have unknown : node ∉ state.entered := by
                  rw [inv.entered, List.mem_append]
                  rintro (onPath | done)
                  · exact freshPath (List.mem_map_of_mem onPath)
                  · exact freshFinished (List.mem_map_of_mem done)
                rw [unfold, List.foldl_cons, note, if_neg unknown]
                apply visits_entered graph root fuel depth _ _ _ _ insideInv
                  (entered_ahead graph root node state.path reached) ran
                intro state node after inv reached follows done
                exact ih depth (Nat.le_of_succ_le_succ deep) state after node inv reached follows
                  done

/-- A run enters the nodes in the order in which they first occur. -/
theorem run_entered (fuel : Nat) (distinct : DistinctKeys graph root) (after : State Node)
    (visited : Visited graph root State.empty root after)
    (done : visit graph fuel State.empty root = .ok after) :
    OccurrenceListing graph root fuel after.entered := by
  have noted : ∀ depth, fuel ≤ depth → after.entered = (unfold graph depth root).foldl note [] :=
    fun depth deep => visit_entered graph root fuel depth deep distinct State.empty after root
      (empty_inv graph root) .refl nofun done
  have path : after.path = [] := visited.path
  refine ⟨?_, ?_, ?_⟩
  · rw [noted fuel (Nat.le_refl fuel)]
    exact note_nodup [] _ List.nodup_nil
  · intro node
    rw [visited.inv.entered, path, List.nil_append]
    exact (visited_listing graph root after visited distinct).complete node
  · intro depth deep
    rw [← note_eraseDups]
    exact noted depth deep

end Occurrences

end CycloneddsRs.KeyedTraversal
