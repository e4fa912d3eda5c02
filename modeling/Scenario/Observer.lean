import Scenario.Listener

/-! # Observers

An observer has a hook for each kind of token it cares about, and perhaps one for all the rest.
-/

namespace Scenario

/-- The places where an observer can be called (`on_text`, `on_tag` and so on). -/
inductive Hook where
  | text
  | tag
  | label
  | endOfInput
  /-- For whatever has no hook of its own (`on_default`). -/
  | other
  deriving DecidableEq

/-- The hook for a kind of token; a token of no known kind has none of its own. -/
def Hook.ofKind : Option Kind → Hook
  | some .text => .text
  | some .tag => .tag
  | some .label => .label
  | some .endOfInput => .endOfInput
  | none => .other

/-- An observer of tokens (`TokenObserver`). -/
structure Observer where
  /-- The hooks that it has. -/
  hooks : List Hook := []
  /-- The kinds that it wants to see, if it does not want to see all. -/
  wanted : Option (List Kind) := none
  deriving DecidableEq

namespace Observer

/-- Whether the observer wants to see tokens of a kind (`TokenObserver.accepts`). -/
def accepts (observer : Observer) (kind : Option Kind) : Bool :=
  observer.wanted.all fun kinds => kind.any kinds.contains

/-- Where the observer is called on a token of a kind, if it has a hook for it
(`TokenObserver.on_token`). -/
def hook? (observer : Observer) (kind : Option Kind) : Option Hook :=
  if observer.hooks.contains (.ofKind kind) then some (.ofKind kind)
  else if observer.hooks.contains .other then some .other
  else none

/-- The filter with which the observer subscribes (`TokenObserver.attach`). -/
def filter (observer : Observer) : Filter :=
  match observer.wanted with
  | none => .all
  | some kinds => .kinds kinds

end Observer

end Scenario
