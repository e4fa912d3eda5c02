import Scenario.Tree.Basic

/-! # Walking a tree

A visitor gives handlers for the sorts of node it cares about and perhaps one for all others. A
walk calls them on every node of a tree, a node before those below it and these from left to right.
What a handler returns does not steer the walk.
-/

namespace Scenario

/-- Handlers for nodes (`BaseVisitor`). A sort without a handler of its own falls to `other`, and
without that a node is passed over. -/
structure Visitor (α : Type) where
  script : Option (Node → α) := none
  label : Option (Node → α) := none
  tag : Option (Node → α) := none
  prose : Option (Node → α) := none
  other : Option (Node → α) := none

namespace Visitor

variable {α : Type}

/-- The handler for nodes of the sort of the given one. -/
def own (visitor : Visitor α) : Node → Option (Node → α)
  | .script .. => visitor.script
  | .label .. => visitor.label
  | .tag .. => visitor.tag
  | .prose .. => visitor.prose
  | .bare .. => none

/-- What the visitor makes of one node, if it has a handler for it (`BaseVisitor._dispatch`). -/
def call (visitor : Visitor α) (node : Node) : Option α :=
  ((visitor.own node).or visitor.other).map fun handler => handler node

mutual

/-- What the handlers return on a tree, in the order of the calls. -/
def calls (visitor : Visitor α) : Node → List α
  | .script span children =>
      (visitor.call (.script span children)).toList ++ visitor.callsAll children
  | .prose span text tags =>
      (visitor.call (.prose span text tags)).toList ++ visitor.callsAll tags
  | .label span names => (visitor.call (.label span names)).toList
  | .tag span text => (visitor.call (.tag span text)).toList
  | .bare span => (visitor.call (.bare span)).toList

/-- What the handlers return on trees beside each other (`BaseVisitor._walk_children`). -/
def callsAll (visitor : Visitor α) : List Node → List α
  | [] => []
  | node :: nodes => visitor.calls node ++ visitor.callsAll nodes

end

/-- A walk over a tree: what the handler of its root returns, and what all handlers return
(`BaseVisitor.visit`). -/
def visit (visitor : Visitor α) (root : Node) : Option α × List α :=
  (visitor.call root, visitor.calls root)

end Visitor

end Scenario
