import Mathlib.Logic.Relation
import Mathlib.Data.Fintype.Card
import Mathlib.Data.List.Chain

/-!
Graphs whose nodes are told apart by keys only, and what a depth-first traversal
of one may hold while it runs and when it ends. Two nodes with one key are taken for
one as long as their labels agree; the neighbours of the second are then not looked
at, so the listing may stand for fewer nodes than can be reached.
-/

namespace CycloneddsRs.KeyedGraph

universe u v w
variable {Node : Type u} {Key : Type v} {Label : Type w}

structure Graph (Node : Type u) (Key : Type v) (Label : Type w) where
  succ : Node → List Node
  key : Node → Key
  label : Node → Label

/-- `path` has the outermost node first; `entered` and `finished` are in order of
time. -/
structure State (Node : Type u) where
  path : List Node
  entered : List Node
  finished : List Node

def State.empty : State Node := { path := [], entered := [], finished := [] }

inductive Fault (Node : Type u) where
  | fuel
  | cycle (path : List Node) (again : Node)
  | conflict (first second : Node)

abbrev Outcome (Node : Type u) := Except (Fault Node) (State Node)

def leave (state : State Node) (node : Node) : State Node :=
  { state with
    path := state.path.dropLast
    finished := state.finished ++ [node] }

section Runs

variable (graph : Graph Node Key Label)

def Edge (first second : Node) : Prop := second ∈ graph.succ first

def Reach (root node : Node) : Prop := Relation.ReflTransGen (Edge graph) root node

def SameDefinition (first second : Node) : Prop :=
  graph.key first = graph.key second ∧ graph.label first = graph.label second

/-- Every listed node comes after a node that stands for each of its neighbours. -/
def Ordered (finished : List Node) : Prop :=
  ∀ front node back, finished = front ++ node :: back →
    ∀ next ∈ graph.succ node, ∃ other ∈ front, SameDefinition graph other next

/-- The next node to visit comes from the end of the path. -/
def Follows (path : List Node) (node : Node) : Prop :=
  ∀ last ∈ path.getLast?, Edge graph last node

structure Inv (root : Node) (state : State Node) : Prop where
  distinct : ((state.path ++ state.finished).map graph.key).Nodup
  reached : ∀ node ∈ state.path ++ state.finished, Reach graph root node
  chained : state.path.IsChain (Edge graph)
  ordered : Ordered graph state.finished
  entered : ∀ node, node ∈ state.entered ↔ node ∈ state.path ++ state.finished

/-- What one visit leaves behind. -/
structure Visited (root : Node) (state : State Node) (node : Node) (after : State Node) :
    Prop where
  inv : Inv graph root after
  path : after.path = state.path
  grown : ∃ added, after.finished = state.finished ++ added
  covered : ∃ other ∈ after.finished, SameDefinition graph other node

structure GenuineCycle (root : Node) (path : List Node) (again : Node) : Prop where
  chained : path.IsChain (Edge graph)
  follows : Follows graph path again
  reached : ∀ node ∈ again :: path, Reach graph root node
  repeated : graph.key again ∈ path.map graph.key

structure GenuineConflict (root first second : Node) : Prop where
  reachedFirst : Reach graph root first
  reachedSecond : Reach graph root second
  sameKey : graph.key first = graph.key second
  differs : graph.label first ≠ graph.label second

/-- A run that ran out of fuel was given little: no key is on the path twice. -/
def Faulted [Fintype Node] (root : Node) (fuel depth : Nat) : Fault Node → Prop
  | .fuel => fuel + depth ≤ Fintype.card Node
  | .cycle path again => GenuineCycle graph root path again
  | .conflict first second => GenuineConflict graph root first second

def Judged [Fintype Node] (root : Node) (fuel : Nat) (state : State Node) (node : Node) :
    Outcome Node → Prop
  | .ok after => Visited graph root state node after
  | .error fault => Faulted graph root fuel state.path.length fault

theorem ordered_snoc (finished : List Node) (node : Node) (ordered : Ordered graph finished)
    (covered : ∀ next ∈ graph.succ node, ∃ other ∈ finished, SameDefinition graph other next) :
    Ordered graph (finished ++ [node]) := by
  intro front current back split
  rcases List.eq_nil_or_concat back with rfl | ⟨rest, last, rfl⟩
  · obtain ⟨same, single⟩ := List.append_inj' split rfl
    cases single
    rw [← same]
    exact covered
  · rw [List.concat_eq_append, ← List.cons_append, ← List.append_assoc] at split
    obtain ⟨same, -⟩ := List.append_inj' split rfl
    exact ordered front current rest same

theorem leave_inv (root node : Node) (path : List Node) (after : State Node)
    (inv : Inv graph root after) (ends : after.path = path ++ [node])
    (covered : ∀ next ∈ graph.succ node, ∃ other ∈ after.finished,
      SameDefinition graph other next) :
    Inv graph root (leave after node) ∧ (leave after node).path = path := by
  have dropped : (leave after node).path = path := by
    rw [leave, ends, List.dropLast_concat]
  -- Leaving moves the last node of the path to the finished ones and changes nothing else.
  have moved : (after.path ++ after.finished).Perm
      ((leave after node).path ++ (leave after node).finished) := by
    rw [dropped, ends, List.append_assoc]
    exact List.Perm.append_left path (List.perm_append_singleton node after.finished).symm
  refine ⟨⟨?_, ?_, ?_, ?_, ?_⟩, dropped⟩
  · exact (moved.map graph.key).nodup_iff.mp inv.distinct
  · intro other member
    exact inv.reached other (moved.mem_iff.mpr member)
  · rw [dropped]
    have chained := inv.chained
    rw [ends] at chained
    exact (List.isChain_append.mp chained).1
  · exact ordered_snoc graph after.finished node inv.ordered covered
  · intro other
    rw [← moved.mem_iff]
    exact inv.entered other

/-- The neighbours of the node just entered are the nodes to visit next. -/
theorem entered_ahead (root node : Node) (path : List Node) (reached : Reach graph root node) :
    ∀ next ∈ graph.succ node,
      Reach graph root next ∧ Follows graph (path ++ [node]) next := by
  intro next edge
  refine ⟨reached.tail edge, ?_⟩
  intro last ends
  rw [List.getLast?_concat] at ends
  cases ends
  exact edge

theorem path_short [Fintype Node] (root : Node) (state : State Node)
    (inv : Inv graph root state) : state.path.length ≤ Fintype.card Node := by
  apply List.Nodup.length_le_card
  apply List.Nodup.of_map graph.key
  have distinct := inv.distinct
  rw [List.map_append] at distinct
  exact (List.nodup_append.mp distinct).1

end Runs

section Listing

variable (graph : Graph Node Key Label) (root : Node)

theorem empty_inv : Inv graph root State.empty := by
  refine ⟨List.nodup_nil, nofun, List.isChain_nil, ?_, fun _ => Iff.rfl⟩
  intro front node back split
  cases front <;> cases split

theorem finished_distinct (after : State Node) (inv : Inv graph root after) :
    (after.finished.map graph.key).Nodup := by
  have distinct := inv.distinct
  rw [List.map_append] at distinct
  exact (List.nodup_append.mp distinct).2.1

theorem finished_unique (after : State Node) (inv : Inv graph root after) (first second : Node)
    (firstIn : first ∈ after.finished) (secondIn : second ∈ after.finished)
    (sameKey : graph.key first = graph.key second) : first = second :=
  List.inj_on_of_nodup_map (finished_distinct graph root after inv) firstIn secondIn sameKey

/-! Keys may be shared: when does a listing stand for every reachable node? -/

theorem labels_agree (first second : List Node)
    (keys : first.map graph.key = second.map graph.key)
    (agree : ∀ left ∈ first, ∀ right ∈ second, graph.key left = graph.key right →
      graph.label left = graph.label right) :
    first.map graph.label = second.map graph.label := by
  induction first generalizing second with
  | nil =>
      cases second with
      | nil => rfl
      | cons => cases keys
  | cons left first ih =>
      cases second with
      | nil => cases keys
      | cons right second =>
          obtain ⟨head, tail⟩ := List.cons.inj keys
          rw [List.map_cons, List.map_cons,
            agree left List.mem_cons_self right List.mem_cons_self head,
            ih second tail fun x xIn y yIn =>
              agree x (List.mem_cons_of_mem _ xIn) y (List.mem_cons_of_mem _ yIn)]

theorem counterpart (first second : List Node)
    (keys : first.map graph.key = second.map graph.key)
    (labels : first.map graph.label = second.map graph.label) (right : Node)
    (member : right ∈ second) : ∃ left ∈ first, SameDefinition graph left right := by
  induction first generalizing second with
  | nil =>
      cases second with
      | nil => cases member
      | cons => cases keys
  | cons left first ih =>
      cases second with
      | nil => cases keys
      | cons head second =>
          obtain ⟨sameKey, keys⟩ := List.cons.inj keys
          obtain ⟨sameLabel, labels⟩ := List.cons.inj labels
          rcases List.mem_cons.mp member with rfl | later
          · exact ⟨left, List.mem_cons_self, sameKey, sameLabel⟩
          · obtain ⟨other, among, same⟩ := ih second keys labels later
            exact ⟨other, List.mem_cons_of_mem _ among, same⟩

/-- Equal nodes have neighbours with equal labels. -/
def Hereditary : Prop :=
  ∀ first second, Reach graph root first → Reach graph root second →
    SameDefinition graph first second →
      (graph.succ first).map graph.label = (graph.succ second).map graph.label

/-- Where equal nodes at least have neighbours with equal keys, the listing stands
for all reachable nodes exactly when equality is handed down to the neighbours. -/
theorem covers_iff_hereditary (after : State Node)
    (visited : Visited graph root State.empty root after)
    (unambiguous : ∀ first second, SameDefinition graph first second →
      (graph.succ first).map graph.key = (graph.succ second).map graph.key) :
    (∀ node, Reach graph root node →
        ∃ other ∈ after.finished, SameDefinition graph other node) ↔
      Hereditary graph root := by
  have inv := visited.inv
  have reached : ∀ node ∈ after.finished, Reach graph root node :=
    fun node member => inv.reached node (List.mem_append_right _ member)
  constructor
  -- Two neighbours of one key are both stood for by the one listed node of that key.
  · intro covers first second firstReached secondReached same
    apply labels_agree graph _ _ (unambiguous first second same)
    intro left leftIn right rightIn sameKey
    obtain ⟨other, otherIn, otherKey, otherLabel⟩ := covers left (firstReached.tail leftIn)
    obtain ⟨twin, twinIn, twinKey, twinLabel⟩ := covers right (secondReached.tail rightIn)
    have one : other = twin := finished_unique graph root after inv other twin otherIn twinIn
      (otherKey.trans (sameKey.trans twinKey.symm))
    rw [← otherLabel, ← twinLabel, one]
  -- By induction on the path from the root: a node's stand-in is listed after stand-ins
  -- for its own neighbours, which have the labels of the node's neighbours.
  · intro hereditary node nodeReached
    induction nodeReached with
    | refl => exact visited.covered
    | tail previousReached edge ih =>
        rename_i previous next
        obtain ⟨other, otherIn, same⟩ := ih
        obtain ⟨twin, twinIn, twinSame⟩ := counterpart graph _ _ (unambiguous other previous same)
          (hereditary other previous (reached other otherIn) previousReached same) next edge
        obtain ⟨front, back, split⟩ := List.append_of_mem otherIn
        obtain ⟨stand, standIn, standSame⟩ := inv.ordered front other back split twin twinIn
        refine ⟨stand, ?_, standSame.1.trans twinSame.1, standSame.2.trans twinSame.2⟩
        rw [split]
        exact List.mem_append_left _ standIn

/-! Keys that tell the reachable nodes apart -/

def DistinctKeys : Prop :=
  ∀ first second, Reach graph root first → Reach graph root second →
    graph.key first = graph.key second → first = second

def CycleReachable : Prop :=
  ∃ node, Reach graph root node ∧ Relation.TransGen (Edge graph) node node

/-- A list of exactly the reachable nodes, each once and after all its neighbours. -/
structure TopologicalListing (nodes : List Node) : Prop where
  nodup : nodes.Nodup
  complete : ∀ node, node ∈ nodes ↔ Reach graph root node
  ordered : ∀ front node back, nodes = front ++ node :: back →
    ∀ next ∈ graph.succ node, next ∈ front

theorem visited_listing (after : State Node)
    (visited : Visited graph root State.empty root after) (distinct : DistinctKeys graph root) :
    TopologicalListing graph root after.finished := by
  have inv := visited.inv
  have reached : ∀ node ∈ after.finished, Reach graph root node :=
    fun node member => inv.reached node (List.mem_append_right _ member)
  have ordered : ∀ front node back, after.finished = front ++ node :: back →
      ∀ next ∈ graph.succ node, next ∈ front := by
    intro front node back split next edge
    obtain ⟨other, otherIn, same⟩ := inv.ordered front node back split next edge
    have nodeReached : Reach graph root node := by
      apply reached
      rw [split]
      exact List.mem_append_right _ List.mem_cons_self
    have otherReached : Reach graph root other := by
      apply reached
      rw [split]
      exact List.mem_append_left _ otherIn
    rwa [← distinct other next otherReached (nodeReached.tail edge) same.1]
  refine ⟨List.Nodup.of_map _ (finished_distinct graph root after inv), ?_, ordered⟩
  intro node
  constructor
  · exact reached node
  · intro nodeReached
    induction nodeReached with
    | refl =>
        obtain ⟨other, otherIn, same⟩ := visited.covered
        rwa [← distinct other root (reached other otherIn) .refl same.1]
    | tail _ edge ih =>
        obtain ⟨front, back, split⟩ := List.append_of_mem ih
        rw [split]
        exact List.mem_append_left _ (ordered front _ back split _ edge)

theorem listing_acyclic (nodes : List Node) (listing : TopologicalListing graph root nodes) :
    ¬ CycleReachable graph root := by
  rintro ⟨node, reached, cycle⟩
  obtain ⟨front, back, split⟩ := List.append_of_mem ((listing.complete node).mpr reached)
  -- What the node leads to stays in front of it.
  have before : ∀ other, Relation.TransGen (Edge graph) node other → other ∈ front := by
    intro other path
    induction path with
    | single edge => exact listing.ordered front node back split _ edge
    | tail _ edge ih =>
        obtain ⟨early, late, inner⟩ := List.append_of_mem ih
        rw [inner, List.append_assoc, List.cons_append] at split
        rw [inner]
        exact List.mem_append_left _ (listing.ordered early _ _ split _ edge)
  have twice := listing.nodup
  rw [split] at twice
  exact (List.nodup_append.mp twice).2.2 node (before node cycle) node List.mem_cons_self rfl

theorem ranked_acyclic (rank : Node → Nat)
    (descends : ∀ first second, Edge graph first second → rank second < rank first) :
    ¬ CycleReachable graph root := by
  rintro ⟨node, -, cycle⟩
  have lower : ∀ other, Relation.TransGen (Edge graph) node other → rank other < rank node := by
    intro other path
    induction path with
    | single edge => exact descends node _ edge
    | tail _ edge ih => exact Nat.lt_trans (descends _ _ edge) ih
  exact Nat.lt_irrefl _ (lower node cycle)

/-! A repeated key on the path is a cycle of nodes. -/

theorem chain_trans (first last : Node) (middle : List Node)
    (chained : (first :: (middle ++ [last])).IsChain (Edge graph)) :
    Relation.TransGen (Edge graph) first last := by
  induction middle generalizing first with
  | nil => exact .single (List.isChain_pair.mp chained)
  | cons next rest ih =>
      obtain ⟨edge, chained⟩ := List.isChain_cons_cons.mp chained
      exact .head edge (ih next chained)

/-- The cycle runs from the first node of the repeated key back to that key. -/
theorem cycle_split (path : List Node) (again : Node) (genuine : GenuineCycle graph root path again)
    (distinct : DistinctKeys graph root) :
    ∃ front rest, path = front ++ again :: rest ∧ graph.key again ∉ front.map graph.key ∧
      (again :: (rest ++ [again])).IsChain (Edge graph) := by
  obtain ⟨frontKeys, restKeys, keys, first⟩ := List.eq_append_cons_of_mem genuine.repeated
  obtain ⟨front, back, split, rfl, backKeys⟩ := List.map_eq_append_iff.mp keys
  obtain ⟨other, rest, rfl, sameKey, -⟩ := List.map_eq_cons_iff.mp backKeys
  have onPath : other ∈ path := by
    rw [split]
    exact List.mem_append_right _ List.mem_cons_self
  -- The node on the path with the repeated key is the repeated node itself.
  have same : other = again := distinct other again
    (genuine.reached other (List.mem_cons_of_mem _ onPath))
    (genuine.reached again List.mem_cons_self) sameKey
  subst same
  refine ⟨front, rest, split, first, ?_⟩
  have chained := genuine.chained
  have follows := genuine.follows
  rw [split] at chained follows
  rw [← List.cons_append]
  apply List.isChain_append.mpr
  refine ⟨(List.isChain_append.mp chained).2.1, List.isChain_singleton _, ?_⟩
  intro last ends head same
  cases same
  apply follows last
  rw [List.getLast?_append]
  rw [Option.mem_def] at ends ⊢
  rw [ends]
  rfl

theorem genuine_reachable (path : List Node) (again : Node)
    (genuine : GenuineCycle graph root path again) (distinct : DistinctKeys graph root) :
    CycleReachable graph root := by
  obtain ⟨_, rest, _, _, chained⟩ := cycle_split graph root path again genuine distinct
  exact ⟨again, genuine.reached again List.mem_cons_self,
    chain_trans graph again again rest chained⟩

theorem no_conflict (first second : Node) (distinct : DistinctKeys graph root) :
    ¬ GenuineConflict graph root first second := by
  intro conflict
  apply conflict.differs
  rw [distinct first second conflict.reachedFirst conflict.reachedSecond conflict.sameKey]

/-! The order of first occurrence -/

/-- The left-to-right depth-first traversal that follows every edge, to a depth. -/
def unfold : Nat → Node → List Node
  | 0, _ => []
  | depth + 1, node => node :: (graph.succ node).flatMap (unfold depth)

theorem unfold_reach (depth : Nat) (node other : Node)
    (member : other ∈ unfold graph depth node) : Reach graph node other := by
  induction depth generalizing node with
  | zero => cases member
  | succ depth ih =>
      rcases List.mem_cons.mp member with rfl | below
      · exact .refl
      · obtain ⟨next, edge, later⟩ := List.mem_flatMap.mp below
        exact .head edge (ih next later)

theorem ordered_closed (state : State Node) (inv : Inv graph root state)
    (distinct : DistinctKeys graph root) (node other : Node) (finished : node ∈ state.finished)
    (reach : Reach graph node other) : other ∈ state.finished := by
  induction reach with
  | refl => exact finished
  | tail _ edge ih =>
      rename_i previous next _
      obtain ⟨front, back, split⟩ := List.append_of_mem ih
      obtain ⟨stand, standIn, same⟩ := inv.ordered front previous back split next edge
      have among : stand ∈ state.finished := by
        rw [split]
        exact List.mem_append_left _ standIn
      have previousReached := inv.reached previous (List.mem_append_right _ ih)
      rwa [← distinct stand next (inv.reached stand (List.mem_append_right _ among))
        (previousReached.tail edge) same.1]

end Listing

end CycloneddsRs.KeyedGraph
