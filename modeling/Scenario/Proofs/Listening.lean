import Scenario.Proofs.Driving

/-! # What listeners receive

A token is offered to the subscribers of a scan one after another. Whoever lets it through is handed
it, which leaves a trace: the consumer has taken the token, and the log may tell of it. Listeners
are described here by such receipts, and not by how a session does its work: `rounds` are the
receipts of subscribers who take whatever they want, and `Hears` is the session that receipts leave.

A consumer may also object to a token, by a failing filter or by raising. A delivery goes on as long
as nobody objects (`yields_deliver_append`).
-/

namespace Scenario

/-- Whether a subscription lets a token through. -/
def Subscription.wants (subscription : Subscription) (token : Token) : Bool :=
  match subscription.filter.accepts token with
  | .ok accepted => accepted
  | .error _ => false

namespace Session

/-! ## Receipts -/

/-- A token that is handed to a subscriber. -/
structure Receipt where
  subscription : Subscription
  token : Token

/-- The consumer after a token. -/
def Consumer.take : Consumer → Token → Consumer
  | .recorder listener, _ => .recorder { listener with calls := listener.calls + 1 }
  | .observer name watcher, _ => .observer name watcher
  | .builder name script, token => .builder name (script.receive token)
  | .printer name output, token => .printer name (output.receive token)

/-- What the log tells of a receipt of the consumer. -/
def Consumer.note? (receipt : Receipt) : Consumer → Option Delivery
  | .recorder listener =>
      some (if receipt.subscription.whole then .whole listener.name receipt.token
        else .plain listener.name receipt.token.kind receipt.token.value)
  | .observer name watcher =>
      (watcher.hook? (some receipt.token.kind)).map (.call name · receipt.token)
  | .builder _ _ | .printer _ _ => none

/-- What the log tells of a receipt. -/
def note? (s : Session) (receipt : Receipt) : Option Delivery :=
  s.consumers[receipt.subscription.consumer]?.bind (·.note? receipt)

/-- The session after a receipt. -/
def accept (s : Session) (receipt : Receipt) : Session :=
  { s with
    consumers := s.consumers.modify receipt.subscription.consumer (·.take receipt.token)
    log := s.log ++ (s.note? receipt).toList }

/-- The tokens handed to subscriptions of a class. -/
def tokensOf (class? : Subscription → Bool) (receipts : List Receipt) : List Token :=
  (receipts.filter fun receipt => class? receipt.subscription).map (·.token)

/-- What subscribers receive of a token if all who want it are handed it. -/
def round (subscriptions : List Subscription) (token : Token) : List Receipt :=
  (subscriptions.filter (·.wants token)).map (⟨·, token⟩)

/-- What subscribers receive of tokens: token after token, and for each the subscribers who want it
in the order in which they subscribed. -/
def rounds (subscriptions : List Subscription) (tokens : List Token) : List Receipt :=
  tokens.flatMap (round subscriptions)

/-- The session `t` is `s` after receipts, with the cursor of a scan put elsewhere. -/
structure Hears (number : Nat) (receipts : List Receipt) (c : Cursor) (s t : Session) : Prop where
  /-- The log has grown by what it tells of the receipts, in their order. -/
  log : t.log.toList = s.log.toList ++ receipts.filterMap s.note?
  /-- Every consumer has taken the tokens handed to it, in their order. -/
  consumers : ∀ i : Nat, t.consumers[i]? =
    s.consumers[i]?.map fun consumer =>
      (tokensOf (·.consumer = i) receipts).foldl Consumer.take consumer
  /-- Nothing else has changed. -/
  same : t = { s.modifyCursor number (fun _ => c) with consumers := t.consumers, log := t.log }

section Receipts

variable (s : Session) (receipt : Receipt)

theorem note?_take (consumer : Consumer) (token : Token) :
    (consumer.take token).note? receipt = consumer.note? receipt := by
  cases consumer <;> rfl

theorem isPassive_take (consumer : Consumer) (token : Token) :
    (consumer.take token).isPassive = consumer.isPassive := by
  cases consumer <;> rfl

theorem getElem?_accept (i : Nat) : (s.accept receipt).consumers[i]? =
    if receipt.subscription.consumer = i then s.consumers[i]?.map (·.take receipt.token)
    else s.consumers[i]? := by
  rw [accept, Array.getElem?_modify]

theorem note?_accept (other : Receipt) : (s.accept receipt).note? other = s.note? other := by
  rw [note?, note?, getElem?_accept]
  split
  · cases s.consumers[other.subscription.consumer]? with
    | none => rfl
    | some consumer => exact note?_take other consumer receipt.token
  · rfl

theorem modifyCursor_accept (number : Nat) (change : Cursor → Cursor) :
    (s.modifyCursor number change).accept receipt =
      (s.accept receipt).modifyCursor number change := rfl

variable (receipts : List Receipt)

theorem modifyCursor_foldl_accept (number : Nat) (change : Cursor → Cursor) :
    receipts.foldl accept (s.modifyCursor number change) =
      (receipts.foldl accept s).modifyCursor number change := by
  induction receipts generalizing s with
  | nil => rfl
  | cons receipt receipts ih => rw [List.foldl_cons, modifyCursor_accept, ih, List.foldl_cons]

theorem alike_foldl_accept : Alike s (receipts.foldl accept s) := by
  induction receipts generalizing s with
  | nil => exact .refl s
  | cons receipt receipts ih =>
    have first : Alike s (s.accept receipt) := by
      refine ⟨rfl, fun i => ?_⟩
      rw [getElem?_accept]
      split
      · simp [Function.comp_def, isPassive_take]
      · rfl
    exact first.trans (ih _)

theorem log_foldl_accept :
    (receipts.foldl accept s).log.toList = s.log.toList ++ receipts.filterMap s.note? := by
  induction receipts generalizing s with
  | nil => simp
  | cons receipt receipts ih =>
    have same : (s.accept receipt).note? = s.note? := funext (note?_accept s receipt)
    rw [List.foldl_cons, ih, same, List.filterMap_cons]
    cases told : s.note? receipt with
    | none => simp [accept, told]
    | some delivery => simp [accept, told]

theorem getElem?_foldl_accept (i : Nat) : (receipts.foldl accept s).consumers[i]? =
    s.consumers[i]?.map fun consumer =>
      (tokensOf (·.consumer = i) receipts).foldl Consumer.take consumer := by
  induction receipts generalizing s with
  | nil => simp [tokensOf]
  | cons receipt receipts ih =>
    rw [List.foldl_cons, ih, getElem?_accept]
    by_cases here : receipt.subscription.consumer = i
    · simp [here, tokensOf, Function.comp_def]
    · simp [here, tokensOf]

theorem hears_foldl_accept (number : Nat) (c : Cursor) :
    Hears number receipts c s ((receipts.foldl accept s).modifyCursor number fun _ => c) where
  log := log_foldl_accept s receipts
  consumers := getElem?_foldl_accept s receipts
  same := by
    induction receipts generalizing s with
    | nil => rfl
    | cons receipt receipts ih =>
      rw [List.foldl_cons]
      exact ih (s.accept receipt)

end Receipts

section Rounds

variable {subscriptions : List Subscription} {subscription : Subscription}

theorem rounds_cons (subscriptions : List Subscription) (token : Token) (tokens : List Token) :
    rounds subscriptions (token :: tokens) =
      round subscriptions token ++ rounds subscriptions tokens := List.flatMap_cons

theorem tokensOf_append (class? : Subscription → Bool) (first later : List Receipt) :
    tokensOf class? (first ++ later) = tokensOf class? first ++ tokensOf class? later := by
  simp [tokensOf]

/-- A subscription that is the only one of its class receives what it wants. -/
theorem tokensOf_rounds {class? : Subscription → Bool}
    (only : subscriptions.filter class? = [subscription]) (tokens : List Token) :
    tokensOf class? (rounds subscriptions tokens) = tokens.filter subscription.wants := by
  induction tokens with
  | nil => rfl
  | cons token tokens ih =>
    have one : tokensOf class? (round subscriptions token) =
        ([subscription].filter (·.wants token)).map fun _ => token := by
      rw [← only, List.filter_filter]
      simp [tokensOf, round, List.filter_map, List.filter_filter, Function.comp_def, Bool.and_comm]
    rw [rounds_cons, tokensOf_append, one, ih]
    by_cases wants : subscription.wants token = true
    · simp [wants]
    · simp [wants]

theorem mem_of_mem_rounds {receipt : Receipt} {tokens : List Token}
    (member : receipt ∈ rounds subscriptions tokens) :
    receipt.subscription ∈ subscriptions := by
  obtain ⟨token, -, member⟩ := List.mem_flatMap.1 member
  obtain ⟨subscription, wanted, rfl⟩ := List.mem_map.1 member
  exact (List.mem_filter.1 wanted).1

/-- No other subscription has the ticket of this one. -/
theorem filter_ticket (distinct : (subscriptions.map (·.ticket)).Nodup)
    (member : subscription ∈ subscriptions) :
    subscriptions.filter (·.ticket = subscription.ticket) = [subscription] := by
  induction subscriptions with
  | nil => cases member
  | cons first others ih =>
    obtain ⟨apart, distinct⟩ := List.nodup_cons.1 distinct
    rcases List.mem_cons.1 member with rfl | member
    · have none : others.filter (·.ticket = subscription.ticket) = [] := by
        rw [List.filter_eq_nil_iff]
        intro other inside same
        exact apart (List.mem_map.2 ⟨other, inside, by simpa using same⟩)
      simp [none]
    · have other : first.ticket ≠ subscription.ticket := by
        intro same
        exact apart (List.mem_map.2 ⟨subscription, member, same.symm⟩)
      simp [other, ih distinct member]

end Rounds

/-! ## Objections -/

/-- The message that a reaction raises, if that is what it does. -/
def Reaction.message? (reaction : Reaction Command) : Option String :=
  match reaction.step.command with
  | .raise message => some message
  | _ => none

/-- The message with which a consumer objects to a token: that of its first reaction to it. -/
def Consumer.objection? (token : Token) : Consumer → Option String
  | .recorder listener => (listener.reactions.find? (·.given token)).bind Reaction.message?
  | _ => none

/-- Beside taking tokens, a consumer does nothing but raise, and whether it does is a matter of the
token alone. -/
def Consumer.OnlyRaises : Consumer → Prop
  | .recorder listener => ∀ reaction ∈ listener.reactions,
      reaction.call = none ∧ reaction.message?.isSome = true
  | _ => True

/-- The message with which a subscriber objects to a token: its filter fails, or it lets the token
through to a consumer that raises. -/
def objection? (s : Session) (subscription : Subscription) (token : Token) : Option String :=
  match subscription.filter.accepts token with
  | .error message => some message
  | .ok false => none
  | .ok true => s.consumers[subscription.consumer]?.bind (·.objection? token)

/-- A subscriber takes a token or leaves it, and does nothing else. -/
structure Consents (s : Session) (subscription : Subscription) (token : Token) : Prop where
  raises : ∀ consumer ∈ s.consumers[subscription.consumer]?, consumer.OnlyRaises
  silent : s.objection? subscription token = none

/-- How work ends that may be objected to. -/
def verdict : Option String → Except Failure Answer
  | none => .ok {}
  | some message => .error (.raised message)

theorem objection?_take (consumer : Consumer) (token other : Token) :
    (consumer.take token).objection? other = consumer.objection? other := by
  cases consumer <;> rfl

theorem onlyRaises_take (consumer : Consumer) (token : Token) :
    (consumer.take token).OnlyRaises ↔ consumer.OnlyRaises := by
  cases consumer <;> rfl

section Objections

variable {s t : Session} {subscription : Subscription} {token : Token}

theorem objection?_accept (s : Session) (receipt : Receipt) (subscription : Subscription)
    (token : Token) :
    (s.accept receipt).objection? subscription token = s.objection? subscription token := by
  have same : (s.accept receipt).consumers[subscription.consumer]?.bind (·.objection? token) =
      s.consumers[subscription.consumer]?.bind (·.objection? token) := by
    rw [getElem?_accept]
    split
    · cases s.consumers[subscription.consumer]? with
      | none => rfl
      | some consumer => exact objection?_take consumer receipt.token token
    · rfl
  rw [objection?, objection?, same]

theorem onlyRaises_accept {i : Nat} (receipt : Receipt)
    (raises : ∀ consumer ∈ s.consumers[i]?, consumer.OnlyRaises) :
    ∀ consumer ∈ (s.accept receipt).consumers[i]?, consumer.OnlyRaises := by
  rw [getElem?_accept]
  split
  · intro consumer there
    obtain ⟨old, before, rfl⟩ := Option.map_eq_some_iff.1 there
    exact (onlyRaises_take old _).2 (raises old before)
  · exact raises

theorem Consents.accept (consents : Consents s subscription token) (receipt : Receipt) :
    Consents (s.accept receipt) subscription token where
  raises := onlyRaises_accept receipt consents.raises
  silent := by rw [objection?_accept, consents.silent]

theorem Passive.consents {subscriptions : List Subscription} (passive : Passive subscriptions s)
    (member : subscription ∈ subscriptions) (token : Token) : Consents s subscription token := by
  obtain ⟨answers, quiet⟩ := passive subscription member
  obtain ⟨accepted, accepts⟩ := answers token
  have idle : ∀ consumer ∈ s.consumers[subscription.consumer]?,
      consumer.OnlyRaises ∧ consumer.objection? token = none := by
    intro consumer there
    have silent := quiet consumer there
    cases consumer with
    | recorder listener =>
      have none : listener.reactions = [] := by simpa [Consumer.isPassive] using silent
      simp [Consumer.OnlyRaises, Consumer.objection?, none]
    | _ => exact ⟨trivial, rfl⟩
  refine ⟨fun consumer there => (idle consumer there).1, ?_⟩
  rw [objection?, accepts]
  cases accepted with
  | false => rfl
  | true => exact Option.bind_eq_none_iff.2 fun consumer there => (idle consumer there).2

/-! ## Deliveries -/

theorem yields_react {reactions : List (Reaction Command)}
    (raises : ∀ reaction ∈ reactions, reaction.call = none ∧ reaction.message?.isSome = true)
    (home : String) (call : Nat) (s : Session) :
    Yields (exec · (.react home call reactions)) s
      (verdict (reactions.head?.bind Reaction.message?)) s := by
  cases reactions with
  | nil => exact (yields_pure _ s).exec
  | cons reaction rest =>
    obtain ⟨always, told⟩ := raises reaction List.mem_cons_self
    obtain ⟨call, given, cursor, command⟩ := reaction
    obtain rfl : call = none := always
    cases command with
    | raise message =>
      refine Yields.exec ?_
      have raised : Yields (exec · (.obey (cursor.getD home) (.raise message))) s
          (.error (.raised message)) s := (yields_throw _ s).exec
      exact raised.bind_error
    | _ => simp [Reaction.message?] at told

theorem setConsumer_eq (s : Session) (i : Nat) (consumer : Consumer) :
    s.setConsumer i consumer = { s with consumers := s.consumers.modify i fun _ => consumer } := by
  have same : s.consumers.setIfInBounds i consumer = s.consumers.modify i fun _ => consumer := by
    apply Array.ext_getElem?
    intro j
    rw [Array.getElem?_setIfInBounds, Array.getElem?_modify]
    split
    · next here =>
      subst here
      by_cases inside : i < s.consumers.size
      · simp [inside]
      · simp [inside]
    · rfl
  rw [setConsumer, same]

theorem setConsumer_self {i : Nat} {consumer : Consumer}
    (there : s.consumers[i]? = some consumer) : s.setConsumer i consumer = s := by
  rw [setConsumer_eq, modify_eq_self (by rw [there, Option.map_some])]

theorem accept_of_none {receipt : Receipt}
    (absent : s.consumers[receipt.subscription.consumer]? = none) : s.accept receipt = s := by
  rw [accept, note?, modify_eq_self (by rw [absent, Option.map_none]), absent]
  simp

theorem accept_of_some {receipt : Receipt} {consumer : Consumer}
    (there : s.consumers[receipt.subscription.consumer]? = some consumer) :
    s.accept receipt =
      { s.setConsumer receipt.subscription.consumer (consumer.take receipt.token) with
        log := s.log ++ (consumer.note? receipt).toList } := by
  have taken : s.consumers[receipt.subscription.consumer]?.map (·.take receipt.token) =
      s.consumers[receipt.subscription.consumer]?.map fun _ => consumer.take receipt.token := by
    rw [there, Option.map_some, Option.map_some]
  rw [accept, note?, modify_congr taken, there, setConsumer_eq, Option.bind_some]

theorem yields_consume_accept {consumer : Consumer}
    (there : s.consumers[subscription.consumer]? = some consumer) (raises : consumer.OnlyRaises)
    (token : Token) :
    Yields (fun fuel => consume (exec fuel) token subscription consumer) s
      (verdict (consumer.objection? token)) (s.accept ⟨subscription, token⟩) := by
  rw [accept_of_some there]
  cases consumer with
  | recorder listener =>
    have due : ∀ reaction ∈ listener.reactions.filter (·.given token),
        reaction.call = none ∧ reaction.message?.isSome = true :=
      fun reaction member => raises reaction (List.mem_filter.1 member).1
    have reacts := yields_react due listener.home (listener.calls + 1)
    rw [List.head?_filter] at reacts
    exact (yields_modify _ s).bind (reacts _)
  | observer name watcher =>
    have kept : s.setConsumer subscription.consumer ((Consumer.observer name watcher).take token) =
        s := setConsumer_self there
    simp only [kept, consume, Consumer.note?]
    cases called : watcher.hook? (some token.kind) with
    | none => exact (yields_pure _ s).bind (yields_pure _ s)
    | some hook => exact (yields_modify _ s).bind (yields_pure _ _)
  | builder name builder => exact (yields_modify _ s).bind (yields_pure _ _)
  | printer name printer => exact (yields_modify _ s).bind (yields_pure _ _)

theorem yields_hand_accept
    (raises : ∀ consumer ∈ s.consumers[subscription.consumer]?, consumer.OnlyRaises)
    (token : Token) :
    Yields (exec · (.hand token subscription)) s
      (verdict (s.consumers[subscription.consumer]?.bind (·.objection? token)))
      (s.accept ⟨subscription, token⟩) := by
  refine Yields.exec ((yields_get s).bind ?_)
  cases there : s.consumers[subscription.consumer]? with
  | none =>
    rw [accept_of_none there]
    exact yields_pure _ s
  | some consumer =>
    exact yields_consume_accept there (raises consumer there) token

/-- As long as nobody objects, a delivery goes on with those who come later. -/
theorem yields_deliver_append {before rest : List Subscription} {result : Except Failure Answer}
    (consents : ∀ subscription ∈ before, Consents s subscription token)
    (yields : Yields (exec · (.deliver token rest)) ((round before token).foldl accept s) result
      t) :
    Yields (exec · (.deliver token (before ++ rest))) s result t := by
  induction before generalizing s with
  | nil => exact yields
  | cons subscription before ih =>
    obtain ⟨first, others⟩ := List.forall_mem_cons.1 consents
    have silent := first.silent
    refine Yields.exec ?_
    cases accepts : subscription.filter.accepts token with
    | error message => simp [objection?, accepts] at silent
    | ok accepted =>
      cases accepted with
      | false =>
        have left : round (subscription :: before) token = round before token := by
          simp [round, Subscription.wants, accepts]
        rw [left] at yields
        simp only [perform, List.cons_append, accepts]
        exact (yields_pure _ s).bind (ih others yields)
      | true =>
        have taken : round (subscription :: before) token =
            ⟨subscription, token⟩ :: round before token := by
          simp [round, Subscription.wants, accepts]
        rw [taken] at yields
        have handed := yields_hand_accept first.raises token
        simp only [objection?, accepts] at silent
        rw [silent] at handed
        simp only [perform, List.cons_append, accepts]
        exact handed.bind (ih (fun other member => (others other member).accept _) yields)

/-- The first to object is the last to be asked. -/
theorem yields_deliver_objection {critic : Subscription} {after : List Subscription}
    {message : String}
    (raises : ∀ consumer ∈ s.consumers[critic.consumer]?, consumer.OnlyRaises)
    (objects : s.objection? critic token = some message) :
    Yields (exec · (.deliver token (critic :: after))) s (.error (.raised message))
      ((round [critic] token).foldl accept s) := by
  refine Yields.exec ?_
  cases accepts : critic.filter.accepts token with
  | error reason =>
    have same : reason = message := by simpa [objection?, accepts] using objects
    have left : round [critic] token = [] := by simp [round, Subscription.wants, accepts]
    rw [left, ← same]
    simp only [perform, accepts]
    exact (yields_throw _ s).bind_error
  | ok accepted =>
    cases accepted with
    | false => simp [objection?, accepts] at objects
    | true =>
      have taken : round [critic] token = [⟨critic, token⟩] := by
        simp [round, Subscription.wants, accepts]
      have handed := yields_hand_accept raises token
      simp only [objection?, accepts] at objects
      rw [objects] at handed
      rw [taken]
      simp only [perform, accepts]
      exact handed.bind_error

end Objections

/-! ## Passes before passive listeners -/

section Passes

variable {number : Nat} {registry : Registry} {c : Cursor} {s t : Session}

theorem yields_deliver_round {subscriptions : List Subscription} {token : Token}
    (consents : ∀ subscription ∈ subscriptions, Consents s subscription token) :
    Yields (exec · (.deliver token subscriptions)) s (.ok {})
      ((round subscriptions token).foldl accept s) := by
  have ended : Yields (exec · (.deliver token [])) ((round subscriptions token).foldl accept s)
      (.ok {}) _ := (yields_pure _ _).exec
  have all := yields_deliver_append consents ended
  rwa [List.append_nil] at all

/-- The induction is along the deliveries; that nobody objects is kept up by every receipt. -/
theorem Delivers.exists_modifyCursor {tokens : List Token} (delivers : Delivers number tokens s t)
    (found : s.scanners[number]? = some ⟨c, registry⟩)
    (passive : Passive registry.subscriptions s) :
    ∃ change, t = ((rounds registry.subscriptions tokens).foldl accept s).modifyCursor number
      change := by
  induction delivers generalizing c with
  | @nil s => exact ⟨_, (modifyCursor_self found).symm⟩
  | @move tokens s t change rest ih =>
    obtain ⟨later, rfl⟩ := ih (getElem?_modifyCursor found change) passive
    exact ⟨later ∘ change, by rw [modifyCursor_foldl_accept, modifyCursor_modifyCursor]⟩
  | @token token tokens s t u scanner answer there handed rest ih =>
    cases there.symm.trans found
    have taken : Yields (exec · (.deliver token registry.subscriptions)) s _ _ :=
      yields_deliver_round fun subscription member => passive.consents member token
    obtain ⟨-, rfl⟩ := handed.unique taken
    have alike := alike_foldl_accept s (round registry.subscriptions token)
    obtain ⟨change, rfl⟩ := ih (by rw [alike.scanners, found]) (passive.of_alike alike)
    refine ⟨change, ?_⟩
    rw [rounds, rounds, List.flatMap_cons, List.foldl_append]

/-- A session that scans to the end before passive listeners ends as the pass does, and every
listener has received what it wants of the tokens of the pass. -/
theorem exists_hears_pass (found : s.scanners[number]? = some ⟨c, registry⟩)
    (passive : Passive registry.subscriptions s) :
    ∃ t, Yields (exec · (.pass number)) s (outcome (Scan.pass c)) t ∧
      Hears number (rounds registry.subscriptions (Scan.pass c).tokens) (Scan.pass c).cursor
        s t := by
  obtain ⟨t, yields, delivers, left⟩ :=
    exists_yields_pass (undisturbed_passive number registry.subscriptions) passive found
  obtain ⟨change, rfl⟩ := delivers.exists_modifyCursor found passive
  have kept := (alike_foldl_accept s
    (rounds registry.subscriptions (Scan.pass c).tokens)).scanners
  have there := found
  rw [← kept] at there
  have reached : change c = (Scan.pass c).cursor := by
    rw [getElem?_modifyCursor there] at left
    simpa using left
  refine ⟨_, yields, ?_⟩
  rw [modifyCursor_eq there, reached]
  exact hears_foldl_accept s _ number _

end Passes

end Session

end Scenario
