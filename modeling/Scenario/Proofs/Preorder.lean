import Mathlib.Data.List.Basic
import Mathlib.Data.List.Infix
import Scenario.Tree.Walk

/-! # Walks are complete

A walk over a tree comes to every node, however deep it lies and whatever the visitor has handlers
for. The order is told twice. `Node.preorder` lists a node before what is below it, and that from
left to right. A node also has a place, which tells for each step down from the root which child to
take; listed in preorder, the places of a tree are in lexicographic order, and none is missing
(`Node.exists_listing`).

The main statement is `Visitor.visit_preorder`. It says which handler is called on each node, that
calls are made along the preorder only, and that those below a node are made together.
-/

namespace Scenario

namespace Node

/-! ## Nodes below nodes -/

theorem sizeOf_lt_of_mem_children {node child : Node} (member : child ∈ node.children) :
    sizeOf child < sizeOf node := by
  cases node with
  | script span children =>
    have smaller := List.sizeOf_lt_of_mem (show child ∈ children from member)
    rw [script.sizeOf_spec]
    omega
  | prose span text tags =>
    have smaller := List.sizeOf_lt_of_mem (show child ∈ tags from member)
    rw [prose.sizeOf_spec]
    omega
  | label span names => cases member
  | tag span text => cases member
  | bare span => cases member

/-- What holds of a node if it holds of its children holds of every node. -/
theorem induction_children {motive : Node → Prop}
    (step : ∀ node, (∀ child ∈ node.children, motive child) → motive node) (node : Node) :
    motive node :=
  step node fun child _ => induction_children step child
termination_by node
decreasing_by exact sizeOf_lt_of_mem_children ‹_›

/-- All nodes of a tree: a node, and then its children with all below them, from left to right. -/
def preorder (node : Node) : List Node :=
  node :: node.children.attach.flatMap fun child => child.1.preorder
termination_by node
decreasing_by exact sizeOf_lt_of_mem_children child.2

theorem preorder_eq (node : Node) : node.preorder = node :: node.children.flatMap preorder := by
  rw [preorder, ← List.flatMap_map Subtype.val preorder, List.attach_map_subtype_val]

/-- The node at a place. The empty place is that of the node itself, and the first number of any
other tells which child to go down to. -/
def descend? : Node → List Nat → Option Node
  | node, [] => some node
  | node, i :: path => node.children[i]?.bind fun child => child.descend? path

/-- The nodes below a node are listed together, right after it. -/
theorem preorder_infix {root node : Node} {path : List Nat}
    (there : root.descend? path = some node) : node.preorder <:+: root.preorder := by
  induction path generalizing root with
  | nil =>
    cases there
    exact List.infix_rfl
  | cons i path ih =>
    obtain ⟨child, found, there⟩ := Option.bind_eq_some_iff.1 there
    have first : child.preorder <:+: root.children.flatMap preorder := by
      obtain ⟨before, after, split⟩ := List.append_of_mem (List.mem_of_getElem? found)
      rw [split, List.flatMap_append, List.flatMap_cons]
      exact ⟨_, _, by rw [List.append_assoc]⟩
    rw [preorder_eq root]
    exact ((ih there).trans first).trans (List.suffix_cons _ _).isInfix

/-! ## Places -/

/-- All places of a tree, each once, in lexicographic order: a node before those below it, and
whatever is further left before what is further right. -/
structure Listing (root : Node) (places : List (List Nat)) : Prop where
  complete : ∀ path, path ∈ places ↔ (root.descend? path).isSome = true
  sorted : places.Pairwise (· < ·)

section Places

variable {node : Node} {places : Node → List (List Nat)}

/-- The places below a node are those below its children, each behind the number of the child. -/
def placesBelow (node : Node) (places : Node → List (List Nat)) : List (List Nat) :=
  node.children.zipIdx.flatMap fun (child, i) => (places child).map (i :: ·)

theorem mem_placesBelow {path : List Nat} :
    path ∈ node.placesBelow places ↔
      ∃ i child rest, node.children[i]? = some child ∧ rest ∈ places child ∧ path = i :: rest := by
  unfold placesBelow
  constructor
  · intro member
    obtain ⟨⟨child, i⟩, found, member⟩ := List.mem_flatMap.1 member
    obtain ⟨rest, inside, rfl⟩ := List.mem_map.1 member
    exact ⟨i, child, rest, List.mem_zipIdx_iff_getElem?.1 found, inside, rfl⟩
  · rintro ⟨i, child, rest, found, inside, rfl⟩
    have indexed : (child, i) ∈ node.children.zipIdx := List.mem_zipIdx_iff_getElem?.2 found
    exact List.mem_flatMap.2 ⟨(child, i), indexed, List.mem_map.2 ⟨rest, inside, rfl⟩⟩

theorem sorted_placesBelow (each : ∀ child ∈ node.children, (places child).Pairwise (· < ·)) :
    (node.placesBelow places).Pairwise (· < ·) := by
  unfold placesBelow
  rw [List.pairwise_flatMap]
  constructor
  · rintro ⟨child, i⟩ found
    have member := List.mem_of_getElem? (List.mem_zipIdx_iff_getElem?.1 found)
    rw [List.pairwise_map]
    exact (each child member).imp fun less => List.cons_lt_cons_iff.2 (.inr ⟨rfl, less⟩)
  · have indices : (node.children.zipIdx.map Prod.snd).Pairwise (· < ·) := by
      rw [List.zipIdx_map_snd]
      exact List.pairwise_lt_range' 1
    refine (List.pairwise_map.1 indices).imp ?_
    intro one next less path first other second
    obtain ⟨rest, -, rfl⟩ := List.mem_map.1 first
    obtain ⟨last, -, rfl⟩ := List.mem_map.1 second
    exact List.cons_lt_cons_iff.2 (.inl less)

theorem filterMap_placesBelow
    (each : ∀ child ∈ node.children, child.preorder = (places child).filterMap child.descend?) :
    (node.placesBelow places).filterMap node.descend? = node.children.flatMap preorder := by
  have child : ∀ pair ∈ node.children.zipIdx,
      ((places pair.1).map (pair.2 :: ·)).filterMap node.descend? = pair.1.preorder := by
    rintro ⟨child, i⟩ found
    have there := List.mem_zipIdx_iff_getElem?.1 found
    have down : node.descend? ∘ (i :: ·) = child.descend? := by
      funext path
      simp only [Function.comp_apply, descend?, there, Option.bind_some]
    rw [List.filterMap_map, down, each child (List.mem_of_getElem? there)]
  calc (node.placesBelow places).filterMap node.descend?
    _ = node.children.zipIdx.flatMap fun pair =>
          ((places pair.1).map (pair.2 :: ·)).filterMap node.descend? := List.filterMap_flatMap
    _ = node.children.zipIdx.flatMap fun pair => pair.1.preorder := List.flatMap_congr child
    _ = (node.children.zipIdx.map Prod.fst).flatMap preorder := (List.flatMap_map _ _ _).symm
    _ = node.children.flatMap preorder := by rw [List.zipIdx_map_fst]

end Places

/-- The preorder lists the nodes at all places in their order. The induction is on the tree; a
place is the root's own or begins with the number of a child. -/
theorem exists_listing (root : Node) :
    ∃ places, root.Listing places ∧ root.preorder = places.filterMap root.descend? := by
  induction root using induction_children with
  | step node ih =>
    choose! places listing same using ih
    have complete (path : List Nat) :
        path ∈ [] :: node.placesBelow places ↔ (node.descend? path).isSome = true := by
      cases path with
      | nil => simp [descend?]
      | cons i path =>
        rw [List.mem_cons, mem_placesBelow]
        constructor
        · rintro (never | ⟨j, child, rest, found, inside, split⟩)
          · cases never
          obtain ⟨rfl, rfl⟩ := List.cons.inj split
          have member := List.mem_of_getElem? found
          simpa [descend?, found] using ((listing child member).complete path).1 inside
        · intro some
          obtain ⟨last, there⟩ := Option.isSome_iff_exists.1 some
          obtain ⟨child, found, there⟩ := Option.bind_eq_some_iff.1 there
          have member := List.mem_of_getElem? found
          have inside := ((listing child member).complete path).2 (by rw [there]; rfl)
          exact .inr ⟨i, child, path, found, inside, rfl⟩
    have sorted : ([] :: node.placesBelow places).Pairwise (· < ·) := by
      refine List.pairwise_cons.2 ⟨?_, sorted_placesBelow fun child member => ?_⟩
      · intro path member
        obtain ⟨i, -, rest, -, -, rfl⟩ := mem_placesBelow.1 member
        exact List.nil_lt_cons i rest
      · exact (listing child member).sorted
    refine ⟨[] :: node.placesBelow places, ⟨complete, sorted⟩, ?_⟩
    have root : node.descend? [] = some node := rfl
    rw [List.filterMap_cons_some root, filterMap_placesBelow same, preorder_eq]

end Node

namespace Visitor

variable {α : Type}

/-! ## Handlers -/

/-- What a visitor may have a handler for: each sort of node, and all that is not handled
otherwise. -/
inductive Slot where
  | script
  | label
  | tag
  | prose
  | other
  deriving DecidableEq

/-- The slot of the nodes of a sort. A node of no particular sort is not handled otherwise. -/
def Slot.ofNode : Node → Slot
  | .script .. => .script
  | .label .. => .label
  | .tag .. => .tag
  | .prose .. => .prose
  | .bare .. => .other

/-- The handler in a slot, if there is one. -/
def handler? (visitor : Visitor α) : Slot → Option (Node → α)
  | .script => visitor.script
  | .label => visitor.label
  | .tag => visitor.tag
  | .prose => visitor.prose
  | .other => visitor.other

/-- The slot whose handler is called on a node: that of its sort if it has a handler, else the slot
for all others if that has one. -/
def choice (visitor : Visitor α) (node : Node) : Option Slot :=
  [Slot.ofNode node, .other].find? fun slot => (visitor.handler? slot).isSome

/-- What the one call on a node returns, if there is a call. -/
def reply (visitor : Visitor α) (node : Node) : Option α := do
  let slot ← visitor.choice node
  let handler ← visitor.handler? slot
  pure (handler node)

theorem call_eq_reply (visitor : Visitor α) (node : Node) :
    visitor.call node = visitor.reply node := by
  have own : visitor.own node = visitor.handler? (.ofNode node) ∨
      visitor.own node = none ∧ Slot.ofNode node = .other := by
    cases node <;> simp [Visitor.own, Slot.ofNode, handler?]
  have other : visitor.handler? .other = visitor.other := rfl
  unfold call reply choice
  rw [List.find?_cons, List.find?_cons, other]
  rcases own with same | ⟨none, bare⟩
  · rw [same]
    cases mine : visitor.handler? (.ofNode node) with
    | some handler => simp [mine]
    | none => cases rest : visitor.other <;> simp [other, rest]
  · rw [none, bare, other]
    cases rest : visitor.other <;> simp [other, rest]

/-! ## Walks -/

theorem callsAll_eq_flatMap (visitor : Visitor α) (nodes : List Node) :
    visitor.callsAll nodes = nodes.flatMap visitor.calls := by
  induction nodes with
  | nil => rfl
  | cons node nodes ih => rw [callsAll, ih, List.flatMap_cons]

/-- A node comes before its children, whatever the sort of the node. -/
theorem calls_eq (visitor : Visitor α) (node : Node) :
    visitor.calls node =
      (visitor.call node).toList ++ node.children.flatMap visitor.calls := by
  cases node with
  | script span children => rw [calls, callsAll_eq_flatMap]; rfl
  | prose span text tags => rw [calls, callsAll_eq_flatMap]; rfl
  | label span names => simp [calls, Node.children]
  | tag span text => simp [calls, Node.children]
  | bare span => simp [calls, Node.children]

theorem calls_eq_filterMap (visitor : Visitor α) (root : Node) :
    visitor.calls root = root.preorder.filterMap visitor.reply := by
  induction root using Node.induction_children with
  | step node ih =>
    have children : node.children.flatMap visitor.calls =
        (node.children.flatMap Node.preorder).filterMap visitor.reply := by
      rw [List.filterMap_flatMap]
      exact List.flatMap_congr ih
    rw [calls_eq, children, Node.preorder_eq, call_eq_reply]
    cases called : visitor.reply node with
    | none => rw [List.filterMap_cons_none called]; rfl
    | some value => rw [List.filterMap_cons_some called]; rfl

/-- A walk is complete, in preorder, for any handlers. It returns what the one call on the root
does, if there is a call. Calls are made along the preorder of all nodes, one on each node that has
a handler: that of its own sort, or else the one for all others. This order goes through all places
of the tree. No handler keeps the walk from what is below a node: the calls of a walk over any
subtree are among those over the whole tree, one after another. -/
theorem visit_preorder (visitor : Visitor α) (root : Node) :
    (visitor.visit root).1 = visitor.reply root ∧
    (visitor.visit root).2 = root.preorder.filterMap visitor.reply ∧
    (∀ node : Node, node.preorder = node :: node.children.flatMap Node.preorder) ∧
    (∃ places, root.Listing places ∧ root.preorder = places.filterMap root.descend?) ∧
    ∀ path node, root.descend? path = some node →
      (visitor.visit node).2 <:+: (visitor.visit root).2 := by
  refine ⟨visitor.call_eq_reply root, visitor.calls_eq_filterMap root, Node.preorder_eq,
    root.exists_listing, ?_⟩
  intro path node there
  unfold visit
  rw [calls_eq_filterMap, calls_eq_filterMap]
  exact (Node.preorder_infix there).filterMap visitor.reply

end Visitor

end Scenario
