import Scenario.Token

/-! # Listeners

Whoever wants to see tokens subscribes with a filter. A registry keeps subscriptions in the order
in which they were made. Each has a ticket of its own, by which it can be taken back; subscribing
twice gives two tickets.
-/

namespace Scenario

/-- Whether one text occurs in another. -/
def occursIn (needle : List Char) : List Char → Bool
  | [] => needle.isEmpty
  | c :: rest => needle.isPrefixOf (c :: rest) || occursIn needle rest

/-- Which tokens a subscription asks for: whether a token is let through, or the message with which
asking fails (`Predicate`). -/
structure Filter where
  accepts : Token → Except String Bool

namespace Filter

/-- Every token (`accept_all`). -/
def all : Filter := ⟨fun _ => .ok true⟩

/-- The tokens of the given kinds (`kind_is`). -/
def kinds (wanted : List Kind) : Filter := ⟨fun token => .ok (wanted.contains token.kind)⟩

/-- The tokens that are inline, or those that are not. -/
def inline (wanted : Bool) : Filter := ⟨fun token => .ok (token.inline == wanted)⟩

/-- The tokens whose value contains a text. -/
def contains (text : String) : Filter :=
  ⟨fun token => .ok (occursIn text.toList token.value.toList)⟩

/-- No answer: asking fails with a message. -/
def fails (message : String) : Filter := ⟨fun _ => .error message⟩

end Filter

/-- One entry of a registry (`ListenerHandle`). -/
structure Subscription where
  /-- What tells this subscription from all others. -/
  ticket : Nat
  /-- The name under which it was made. -/
  name : String
  /-- Who receives the tokens. -/
  consumer : Nat
  filter : Filter := .all
  /-- Whether whole tokens are asked for, and not only their kinds and values. -/
  whole : Bool := false

/-- Subscriptions in the order in which they were made (`ListenerRegistry`). -/
structure Registry where
  subscriptions : List Subscription := []

namespace Registry

/-- The number of subscriptions (`ListenerRegistry.__len__`). -/
def size (registry : Registry) : Nat := registry.subscriptions.length

/-- Whether a ticket is held. -/
def holds (registry : Registry) (ticket : Nat) : Bool :=
  registry.subscriptions.any fun subscription => subscription.ticket == ticket

/-- Add a subscription after all others (`ListenerRegistry.register`). -/
def register (registry : Registry) (subscription : Subscription) : Registry :=
  ⟨registry.subscriptions ++ [subscription]⟩

/-- Take back the subscription with the given ticket, if it is held
(`ListenerRegistry.unregister`). -/
def unregister? (registry : Registry) (ticket : Nat) : Option Registry :=
  if registry.holds ticket then
    some ⟨registry.subscriptions.eraseP fun subscription => subscription.ticket == ticket⟩
  else none

end Registry

end Scenario
