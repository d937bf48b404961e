import CycloneddsRs.KeyedTraversal

/-!
What two keyed graphs look like from a node: the tree of labels and keys that is met when
every edge is followed to a depth. Listings of the nodes below two roots, by key and label,
agree exactly when the roots look alike at every depth.
-/

namespace CycloneddsRs.GraphUnfoldings

open KeyedGraph KeyedTraversal

universe u u' v w
variable {Left : Type u} {Right : Type u'} {Key : Type v} {Label : Type w}

inductive Unfolding (Key : Type v) (Label : Type w) where
  | cut
  | node (label : Label) (below : List (Key × Unfolding Key Label))

def unfolding {Node : Type u} (graph : Graph Node Key Label) : Nat → Node → Unfolding Key Label
  | 0, _ => .cut
  | depth + 1, node =>
      .node (graph.label node)
        ((graph.succ node).map fun next => (graph.key next, unfolding graph depth next))

def entryOf {Node : Type u} (graph : Graph Node Key Label) (node : Node) : Key × Label :=
  (graph.key node, graph.label node)

/-! Lists that agree item by item -/

theorem map_agree {α : Type u} {β : Type u'} {γ : Type v} {δ : Type w} (key : α → γ)
    (otherKey : β → γ) (value : α → δ) (otherValue : β → δ) (items : List α) (others : List β)
    (keys : items.map key = others.map otherKey)
    (values : ∀ item ∈ items, ∀ other ∈ others, key item = otherKey other →
      value item = otherValue other) :
    (items.map fun item => (key item, value item)) =
      others.map fun other => (otherKey other, otherValue other) := by
  induction items generalizing others with
  | nil =>
      cases others with
      | nil => rfl
      | cons other others => cases keys
  | cons item items ih =>
      cases others with
      | nil => cases keys
      | cons other others =>
          obtain ⟨first, rest⟩ := List.cons.inj keys
          have here := values item List.mem_cons_self other List.mem_cons_self first
          have later := ih others rest fun item among other otherAmong =>
            values item (List.mem_cons_of_mem _ among) other (List.mem_cons_of_mem _ otherAmong)
          rw [List.map_cons, List.map_cons, first, here, later]

theorem flatMap_agree {α : Type u} {β : Type u'} {γ : Type v} {δ : Type w} (key : α → γ)
    (otherKey : β → γ) (value : α → List δ) (otherValue : β → List δ) (items : List α)
    (others : List β) (keys : items.map key = others.map otherKey)
    (values : ∀ item ∈ items, ∀ other ∈ others, key item = otherKey other →
      value item = otherValue other) :
    items.flatMap value = others.flatMap otherValue := by
  have pairs := map_agree key otherKey value otherValue items others keys values
  have seconds := congrArg (List.map Prod.snd) pairs
  rw [List.map_map, List.map_map] at seconds
  rw [List.flatMap_def, List.flatMap_def]
  exact congrArg List.flatten seconds

theorem map_filter_ne {α : Type u} {β : Type v} [DecidableEq α] [BEq β] [LawfulBEq β]
    (value : α → β) (first : α) (items : List α)
    (apart : ∀ item ∈ items, value item = value first → item = first) :
    (items.filter fun item => !item == first).map value =
      (items.map value).filter fun item => !item == value first := by
  induction items with
  | nil => rfl
  | cons item items ih =>
      have later := ih fun other among => apart other (List.mem_cons_of_mem _ among)
      by_cases same : item = first
      · simp [same, later]
      · have valued : value item ≠ value first := fun equal =>
          same (apart item List.mem_cons_self equal)
        simp [same, valued, later]

/-- Values that tell the items apart repeat where the items do. -/
theorem map_eraseDups {α : Type u} {β : Type v} [DecidableEq α] [BEq β] [LawfulBEq β]
    (value : α → β) (items : List α)
    (apart : ∀ item ∈ items, ∀ other ∈ items, value item = value other → item = other) :
    items.eraseDups.map value = (items.map value).eraseDups := by
  induction length : items.length using Nat.strongRecOn generalizing items with
  | ind count ih =>
      cases items with
      | nil => rfl
      | cons first rest =>
          rw [List.eraseDups_cons, List.map_cons, List.map_cons, List.eraseDups_cons,
            ← map_filter_ne value first rest fun item among =>
              apart item (List.mem_cons_of_mem _ among) first List.mem_cons_self]
          have shorter : (rest.filter fun item => !item == first).length < count := by
            have bound := List.length_filter_le (fun item => !item == first) rest
            rw [List.length_cons] at length
            omega
          rw [ih _ shorter _ _ rfl]
          intro item among other otherAmong
          exact apart item (List.mem_cons_of_mem _ (List.mem_of_mem_filter among)) other
            (List.mem_cons_of_mem _ (List.mem_of_mem_filter otherAmong))

section Alike

variable (left : Graph Left Key Label) (right : Graph Right Key Label)
variable (leftRoot : Left) (rightRoot : Right)

/-- Equal labels name equal keys below them. -/
def LabelsName : Prop :=
  ∀ first second, left.label first = right.label second →
    (left.succ first).map left.key = (right.succ second).map right.key

def Below {Node : Type u} (graph : Graph Node Key Label) (root node : Node) : Prop :=
  Relation.TransGen (Edge graph) root node

/-- Every node below the left root has a node of its key and label under the right one. -/
def Answered : Prop :=
  ∀ node, Below left leftRoot node →
    ∃ other, Reach right rightRoot other ∧ entryOf right other = entryOf left node

theorem alike_unfolding (named : LabelsName left right)
    (distinct : DistinctKeys right rightRoot)
    (answered : Answered left right leftRoot rightRoot) (depth : Nat) (first : Left)
    (second : Right) (firstReached : Reach left leftRoot first)
    (secondReached : Reach right rightRoot second) (same : left.label first = right.label second) :
    unfolding left depth first = unfolding right depth second := by
  induction depth generalizing first second with
  | zero => rfl
  | succ depth ih =>
      have below : ∀ item ∈ left.succ first, ∀ other ∈ right.succ second,
          left.key item = right.key other →
            unfolding left depth item = unfolding right depth other := by
        intro item edge other otherEdge keys
        -- The answer to the item has its key, and only the other node has this key.
        obtain ⟨answer, reached, entry⟩ := answered item (.tail' firstReached edge)
        obtain ⟨key, label⟩ := Prod.mk.inj entry
        have found := distinct answer other reached (secondReached.tail otherEdge) (key.trans keys)
        rw [found] at label
        exact ih item other (firstReached.tail edge) (secondReached.tail otherEdge) label.symm
      rw [unfolding, unfolding, same, map_agree left.key right.key (unfolding left depth)
        (unfolding right depth) _ _ (named first second same) below]

/-- Both graphs are walked in the same order as far as they look alike. -/
theorem alike_entries (depth : Nat) (first : Left) (second : Right)
    (keys : left.key first = right.key second)
    (alike : unfolding left depth first = unfolding right depth second) :
    (unfold left depth first).map (entryOf left) =
      (unfold right depth second).map (entryOf right) := by
  induction depth generalizing first second with
  | zero => rfl
  | succ depth ih =>
      obtain ⟨labels, below⟩ := Unfolding.node.inj alike
      have later := flatMap_agree _ _ (fun item => (unfold left depth item).map (entryOf left))
        (fun other => (unfold right depth other).map (entryOf right)) _ _ below
        fun item _ other _ same => ih item other (Prod.mk.inj same).1 (Prod.mk.inj same).2
      rw [unfold, unfold, List.map_cons, List.map_cons, List.map_flatMap, List.map_flatMap, later,
        entryOf, entryOf, keys, labels]

end Alike

section Listings

variable {Node : Type u} [DecidableEq Node] (graph : Graph Node Key Label) (root : Node)

theorem rest_unfolded (enough depth : Nat) (rest : List Node)
    (acyclic : ¬ CycleReachable graph root)
    (listing : OccurrenceListing graph root enough (root :: rest)) (deep : enough ≤ depth + 1) :
    rest = ((graph.succ root).flatMap (unfold graph depth)).eraseDups := by
  have order := listing.ordered (depth + 1) deep
  rw [unfold, List.eraseDups_cons] at order
  have found := (List.cons.inj order).2
  -- The root is not met again below itself.
  have kept : ((graph.succ root).flatMap (unfold graph depth)).filter (fun item => !item == root) =
      (graph.succ root).flatMap (unfold graph depth) := by
    apply List.filter_eq_self.mpr
    intro item among
    obtain ⟨next, edge, below⟩ := List.mem_flatMap.mp among
    have other : item ≠ root := by
      rintro rfl
      exact acyclic ⟨item, .refl, .head' edge (unfold_reach graph depth next item below)⟩
    simpa using other
  rw [kept] at found
  exact found

theorem rest_entries [DecidableEq Key] [DecidableEq Label] (enough depth : Nat)
    (rest : List Node) (acyclic : ¬ CycleReachable graph root) (distinct : DistinctKeys graph root)
    (listing : OccurrenceListing graph root enough (root :: rest)) (deep : enough ≤ depth + 1) :
    rest.map (entryOf graph) =
      ((graph.succ root).flatMap fun next =>
        (unfold graph depth next).map (entryOf graph)).eraseDups := by
  rw [← List.map_flatMap, rest_unfolded graph root enough depth rest acyclic listing deep]
  apply map_eraseDups
  have reached : ∀ item ∈ (graph.succ root).flatMap (unfold graph depth),
      Reach graph root item := by
    intro item among
    obtain ⟨next, edge, below⟩ := List.mem_flatMap.mp among
    exact .head edge (unfold_reach graph depth next item below)
  intro item among other otherAmong same
  exact distinct item other (reached item among) (reached other otherAmong) (Prod.mk.inj same).1

theorem below_listed (enough : Nat) (rest : List Node) (acyclic : ¬ CycleReachable graph root)
    (listing : OccurrenceListing graph root enough (root :: rest)) (node : Node)
    (below : Below graph root node) : node ∈ rest := by
  rcases List.mem_cons.mp ((listing.complete node).mpr below.to_reflTransGen) with rfl | later
  · exact absurd ⟨node, .refl, below⟩ acyclic
  · exact later

end Listings

/-! Listings do not depend on the labels -/

section Relabelled

variable {Node : Type u} {OtherLabel : Type u'} (graph : Graph Node Key Label)
variable (other : Graph Node Key OtherLabel)

theorem unfold_relabel (same : graph.succ = other.succ) (depth : Nat) (node : Node) :
    unfold graph depth node = unfold other depth node := by
  induction depth generalizing node with
  | zero => rfl
  | succ depth ih =>
      rw [unfold, unfold, same, funext ih]

theorem listing_relabel [DecidableEq Node] (same : graph.succ = other.succ) (root : Node)
    (enough : Nat) (nodes : List Node) (listing : OccurrenceListing graph root enough nodes) :
    OccurrenceListing other root enough nodes := by
  have edges : Edge graph = Edge other := by
    unfold Edge
    rw [same]
  constructor
  · exact listing.nodup
  · intro node
    rw [listing.complete, Reach, Reach, edges]
  · intro depth deep
    rw [listing.ordered depth deep, unfold_relabel graph other same depth root]

end Relabelled

section Comparison

variable [DecidableEq Left] [DecidableEq Right] [DecidableEq Key] [DecidableEq Label]
variable (left : Graph Left Key Label) (right : Graph Right Key Label)

/-- The listings of two roots without cycles agree, but for the roots' own keys, exactly when
the roots look alike at every depth. -/
theorem listings_agree_iff (leftRoot : Left) (rightRoot : Right) (leftEnough rightEnough : Nat)
    (leftRest : List Left) (rightRest : List Right) (named : LabelsName left right)
    (leftAcyclic : ¬ CycleReachable left leftRoot) (leftDistinct : DistinctKeys left leftRoot)
    (leftListing : OccurrenceListing left leftRoot leftEnough (leftRoot :: leftRest))
    (rightAcyclic : ¬ CycleReachable right rightRoot) (rightDistinct : DistinctKeys right rightRoot)
    (rightListing : OccurrenceListing right rightRoot rightEnough (rightRoot :: rightRest)) :
    (left.label leftRoot = right.label rightRoot ∧
        leftRest.map (entryOf left) = rightRest.map (entryOf right)) ↔
      ∀ depth, unfolding left depth leftRoot = unfolding right depth rightRoot := by
  constructor
  · rintro ⟨labels, entries⟩ depth
    have answered : Answered left right leftRoot rightRoot := by
      intro node below
      have listed := below_listed left leftRoot leftEnough leftRest leftAcyclic leftListing node
        below
      have entry := List.mem_map_of_mem (f := entryOf left) listed
      rw [entries] at entry
      obtain ⟨other, among, same⟩ := List.mem_map.mp entry
      exact ⟨other, (rightListing.complete other).mp (List.mem_cons_of_mem _ among), same⟩
    exact alike_unfolding left right leftRoot rightRoot named rightDistinct answered depth leftRoot
      rightRoot .refl .refl labels
  · intro alike
    have deep := alike (leftEnough + rightEnough + 1)
    obtain ⟨labels, below⟩ := Unfolding.node.inj deep
    refine ⟨labels, ?_⟩
    rw [rest_entries left leftRoot leftEnough (leftEnough + rightEnough) leftRest leftAcyclic
        leftDistinct leftListing (by omega),
      rest_entries right rightRoot rightEnough (leftEnough + rightEnough) rightRest rightAcyclic
        rightDistinct rightListing (by omega)]
    exact congrArg List.eraseDups (flatMap_agree _ _ _ _ _ _ below fun item _ other _ same =>
      alike_entries left right _ item other (Prod.mk.inj same).1 (Prod.mk.inj same).2)

end Comparison

/-! Listings in the order of finishing -/

def unfoldLast {Node : Type u} (graph : Graph Node Key Label) : Nat → Node → List Node
  | 0, _ => []
  | depth + 1, node => (graph.succ node).flatMap (unfoldLast graph depth) ++ [node]

theorem unfoldLast_reach {Node : Type u} (graph : Graph Node Key Label) (depth : Nat)
    (node other : Node) (member : other ∈ unfoldLast graph depth node) :
    Reach graph node other := by
  induction depth generalizing node with
  | zero => cases member
  | succ depth ih =>
      rcases List.mem_append.mp member with below | last
      · obtain ⟨next, edge, later⟩ := List.mem_flatMap.mp below
        exact .head edge (ih next later)
      · rw [List.mem_singleton.mp last]
        exact .refl

section Finished

variable {Node : Type u} [DecidableEq Node] (graph : Graph Node Key Label) (root : Node)

/-- Exactly the reachable nodes, each once, in the order in which they are first left. -/
structure FinishingListing (enough : Nat) (nodes : List Node) : Prop where
  complete : ∀ node, node ∈ nodes ↔ Reach graph root node
  ordered : ∀ depth, enough ≤ depth → nodes = (unfoldLast graph depth root).eraseDups

variable [DecidableEq Key] [DecidableEq Label]

theorem finished_entries (enough depth : Nat) (nodes : List Node)
    (distinct : DistinctKeys graph root) (listing : FinishingListing graph root enough nodes)
    (deep : enough ≤ depth) :
    nodes.map (entryOf graph) =
      ((unfoldLast graph depth root).map (entryOf graph)).eraseDups := by
  rw [listing.ordered depth deep]
  apply map_eraseDups
  intro item among other otherAmong same
  exact distinct item other (unfoldLast_reach graph depth root item among)
    (unfoldLast_reach graph depth root other otherAmong) (Prod.mk.inj same).1

variable [Fintype Node]

theorem visits_finished (fuel depth : Nat)
    (finishing : ∀ state node after, Inv graph root state → Reach graph root node →
      Follows graph state.path node → visit graph fuel state node = .ok after →
        after.finished = (unfoldLast graph depth node).foldl note state.finished)
    (nodes : List Node) (state after : State Node) (inv : Inv graph root state)
    (ahead : ∀ node ∈ nodes, Reach graph root node ∧ Follows graph state.path node)
    (done : nodes.foldlM (visit graph fuel) state = .ok after) :
    after.finished = (nodes.flatMap (unfoldLast graph depth)).foldl note state.finished := by
  induction nodes generalizing state with
  | nil =>
      cases done
      rfl
  | cons node rest ih =>
      obtain ⟨reached, follows⟩ := ahead node List.mem_cons_self
      rw [List.foldlM_cons] at done
      have judged := visit_judged graph root fuel state node inv reached follows
      cases first : visit graph fuel state node with
      | error fault =>
          rw [first] at done
          cases done
      | ok middle =>
          rw [first] at done judged
          rw [List.flatMap_cons, List.foldl_append,
            ← finishing state node middle inv reached follows first]
          apply ih middle judged.inv _ done
          intro next member
          rw [judged.path]
          exact ahead next (List.mem_cons_of_mem _ member)

theorem visit_finished (fuel depth : Nat) (deep : fuel ≤ depth)
    (distinct : DistinctKeys graph root) (state after : State Node) (node : Node)
    (inv : Inv graph root state) (reached : Reach graph root node)
    (follows : Follows graph state.path node)
    (done : visit graph fuel state node = .ok after) :
    after.finished = (unfoldLast graph depth node).foldl note state.finished := by
  induction fuel generalizing depth state node after with
  | zero => cases done
  | succ fuel ih =>
      obtain ⟨depth, rfl⟩ := Nat.exists_eq_add_of_le' (Nat.one_le_of_lt deep)
      rw [visit] at done
      cases entered : enter graph state node with
      | error fault =>
          rw [entered] at done
          cases done
      | ok entry =>
          cases entry with
          | none =>
              rw [entered] at done
              cases done
              obtain ⟨other, otherIn, sameKey, -⟩ := enter_skip graph state node entered
              have same : other = node := distinct other node
                (inv.reached other (List.mem_append_right _ otherIn)) reached sameKey
              subst same
              symm
              apply note_all
              intro below member
              exact ordered_closed graph root state inv distinct other below otherIn
                (unfoldLast_reach graph _ other below member)
          | some inside =>
              have insideInv := inside_inv graph root node state inside inv reached follows entered
              obtain ⟨rfl, -, -⟩ := enter_inside graph state inside node entered
              have ahead := entered_ahead graph root node state.path reached
              rw [entered] at done
              simp only at done
              split at done
              · cases done
              · rename_i inner ran
                cases done
                have judged := visits_judged graph root fuel (visit_judged graph root fuel)
                  (graph.succ node) _ insideInv ahead
                rw [ran] at judged
                obtain ⟨innerInv, innerPath, -, -⟩ := judged
                have listed := visits_finished graph root fuel depth (fun state node after inv
                  reached follows done => ih depth (Nat.le_of_succ_le_succ deep) state after node
                    inv reached follows done) _ _ inner insideInv ahead ran
                -- The node is still on the path, so it has not been finished below itself.
                have unknown : node ∉ inner.finished := by
                  intro finished
                  have apart := innerInv.distinct
                  rw [innerPath, List.map_append] at apart
                  exact (List.nodup_append.mp apart).2.2 (graph.key node)
                    (List.mem_map_of_mem (List.mem_append_right _ (List.mem_singleton_self node)))
                    (graph.key node) (List.mem_map_of_mem finished) rfl
                rw [unfoldLast, List.foldl_append, ← listed, List.foldl_cons, List.foldl_nil, note,
                  if_neg unknown]
                rfl

theorem run_finished (fuel : Nat) (distinct : DistinctKeys graph root) (after : State Node)
    (visited : Visited graph root State.empty root after)
    (done : visit graph fuel State.empty root = .ok after) :
    FinishingListing graph root fuel after.finished := by
  constructor
  · exact (visited_listing graph root after visited distinct).complete
  · intro depth deep
    rw [← note_eraseDups]
    exact visit_finished graph root fuel depth deep distinct State.empty after root
      (empty_inv graph root) .refl nofun done

end Finished

section FinishedRelabelled

variable {Node : Type u} {OtherLabel : Type u'} (graph : Graph Node Key Label)
variable (other : Graph Node Key OtherLabel)

theorem unfoldLast_relabel (same : graph.succ = other.succ) (depth : Nat) (node : Node) :
    unfoldLast graph depth node = unfoldLast other depth node := by
  induction depth generalizing node with
  | zero => rfl
  | succ depth ih =>
      rw [unfoldLast, unfoldLast, same, funext ih]

theorem finishing_relabel [DecidableEq Node] (same : graph.succ = other.succ) (root : Node)
    (enough : Nat) (nodes : List Node) (listing : FinishingListing graph root enough nodes) :
    FinishingListing other root enough nodes := by
  have edges : Edge graph = Edge other := by
    unfold Edge
    rw [same]
  constructor
  · intro node
    rw [listing.complete, Reach, Reach, edges]
  · intro depth deep
    rw [listing.ordered depth deep, unfoldLast_relabel graph other same depth root]

end FinishedRelabelled

section Last

variable (left : Graph Left Key Label) (right : Graph Right Key Label)

theorem alike_last_entries (depth : Nat) (first : Left) (second : Right)
    (keys : left.key first = right.key second)
    (alike : unfolding left depth first = unfolding right depth second) :
    (unfoldLast left depth first).map (entryOf left) =
      (unfoldLast right depth second).map (entryOf right) := by
  induction depth generalizing first second with
  | zero => rfl
  | succ depth ih =>
      obtain ⟨labels, below⟩ := Unfolding.node.inj alike
      have later := flatMap_agree _ _ (fun item => (unfoldLast left depth item).map (entryOf left))
        (fun other => (unfoldLast right depth other).map (entryOf right)) _ _ below
        fun item _ other _ same => ih item other (Prod.mk.inj same).1 (Prod.mk.inj same).2
      rw [unfoldLast, unfoldLast, List.map_append, List.map_append, List.map_flatMap,
        List.map_flatMap, later, List.map_singleton, List.map_singleton, entryOf, entryOf, keys,
        labels]

variable [DecidableEq Left] [DecidableEq Right] [DecidableEq Key] [DecidableEq Label]

/-- In the order of finishing, listings agree exactly when the roots have one key and look alike
at every depth. -/
theorem finished_agree_iff (leftRoot : Left) (rightRoot : Right) (leftEnough rightEnough : Nat)
    (leftFront : List Left) (rightFront : List Right) (named : LabelsName left right)
    (leftDistinct : DistinctKeys left leftRoot)
    (leftListing : FinishingListing left leftRoot leftEnough (leftFront ++ [leftRoot]))
    (rightDistinct : DistinctKeys right rightRoot)
    (rightListing : FinishingListing right rightRoot rightEnough (rightFront ++ [rightRoot])) :
    (leftFront ++ [leftRoot]).map (entryOf left) = (rightFront ++ [rightRoot]).map (entryOf right) ↔
      left.key leftRoot = right.key rightRoot ∧
        ∀ depth, unfolding left depth leftRoot = unfolding right depth rightRoot := by
  constructor
  · intro entries
    have roots := entries
    rw [List.map_append, List.map_append] at roots
    obtain ⟨keys, labels⟩ := Prod.mk.inj (List.cons.inj (List.append_inj_right' roots rfl)).1
    refine ⟨keys, fun depth => ?_⟩
    have answered : Answered left right leftRoot rightRoot := by
      intro node below
      have listed := (leftListing.complete node).mpr below.to_reflTransGen
      have entry := List.mem_map_of_mem (f := entryOf left) listed
      rw [entries] at entry
      obtain ⟨other, among, same⟩ := List.mem_map.mp entry
      exact ⟨other, (rightListing.complete other).mp among, same⟩
    exact alike_unfolding left right leftRoot rightRoot named rightDistinct answered depth leftRoot
      rightRoot .refl .refl labels
  · rintro ⟨keys, alike⟩
    rw [finished_entries left leftRoot leftEnough (leftEnough + rightEnough) _ leftDistinct
        leftListing (by omega),
      finished_entries right rightRoot rightEnough (leftEnough + rightEnough) _ rightDistinct
        rightListing (by omega),
      alike_last_entries left right _ leftRoot rightRoot keys (alike _)]

end Last

end CycloneddsRs.GraphUnfoldings
