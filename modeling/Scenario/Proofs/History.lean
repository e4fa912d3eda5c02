import Scenario.Proofs.Membership

/-! # Histories of a session

A session is followed by the changes that were made on the way to it (`History`). They tell what
every registry holds: whatever was put there and not taken back since, in the order in which it was
put there (`Orderly`).
-/

namespace Scenario.Session

/-! ## What is left of changes -/

/-- The subscription that a change makes, whichever scan it is for. -/
def Change.made? : Change → Option Subscription
  | .joined _ subscription => some subscription
  | .parted _ _ => none

/-- The subscription that a change makes to a scan. -/
def Change.joins? (number : Nat) : Change → Option Subscription
  | .joined other subscription => if other = number then some subscription else none
  | .parted _ _ => none

/-- The ticket that a change takes back from a scan. -/
def Change.parts? (number : Nat) : Change → Option Nat
  | .joined _ _ => none
  | .parted other ticket => if other = number then some ticket else none

/-- All subscriptions that were made, in their order. -/
def made (changes : List Change) : List Subscription := changes.filterMap Change.made?

/-- The subscriptions that were made to a scan, in their order. -/
def joinedTo (number : Nat) (changes : List Change) : List Subscription :=
  changes.filterMap (·.joins? number)

/-- The tickets that were taken back from a scan. -/
def partedFrom (number : Nat) (changes : List Change) : List Nat :=
  changes.filterMap (·.parts? number)

/-- The subscriptions to a scan that were made and not taken back since. -/
def held (number : Nat) (changes : List Change) : List Subscription :=
  (joinedTo number changes).filter fun subscription =>
    subscription.ticket ∉ partedFrom number changes

section Held

variable {number : Nat} {changes : List Change}

theorem joinedTo_concat (number : Nat) (changes : List Change) (change : Change) :
    joinedTo number (changes ++ [change]) =
      joinedTo number changes ++ (change.joins? number).toList := by
  rw [joinedTo, joinedTo, List.filterMap_append]
  cases joins : change.joins? number <;> simp [joins]

theorem partedFrom_concat (number : Nat) (changes : List Change) (change : Change) :
    partedFrom number (changes ++ [change]) =
      partedFrom number changes ++ (change.parts? number).toList := by
  rw [partedFrom, partedFrom, List.filterMap_append]
  cases parts : change.parts? number <;> simp [parts]

theorem made_concat (changes : List Change) (change : Change) :
    made (changes ++ [change]) = made changes ++ change.made?.toList := by
  rw [made, made, List.filterMap_append]
  cases makes : change.made? <;> simp [makes]

/-- A change of another scan makes no difference to what a scan holds. -/
theorem held_concat_of_none {change : Change} (joins : change.joins? number = none)
    (parts : change.parts? number = none) :
    held number (changes ++ [change]) = held number changes := by
  simp [held, joinedTo_concat, partedFrom_concat, joins, parts]

theorem held_joined {subscription : Subscription}
    (fresh : subscription.ticket ∉ partedFrom number changes) :
    held number (changes ++ [.joined number subscription]) =
      held number changes ++ [subscription] := by
  simp [held, joinedTo_concat, partedFrom_concat, Change.joins?, Change.parts?, fresh]

theorem held_parted (ticket : Nat) :
    held number (changes ++ [.parted number ticket]) =
      (held number changes).filter fun subscription => subscription.ticket ≠ ticket := by
  simp [held, joinedTo_concat, partedFrom_concat, Change.joins?, Change.parts?,
    List.filter_filter, and_comm]

theorem joinedTo_sublist_made (number : Nat) (changes : List Change) :
    (joinedTo number changes).Sublist (made changes) := by
  induction changes with
  | nil => exact .slnil
  | cons change changes ih =>
    cases change with
    | parted other ticket => exact ih
    | joined other subscription =>
      by_cases here : other = number
      · simpa [joinedTo, Change.joins?, here, made, Change.made?] using ih
      · simpa [joinedTo, Change.joins?, here, made, Change.made?] using ih.cons subscription

theorem held_sublist_made (number : Nat) (changes : List Change) :
    (held number changes).Sublist (made changes) :=
  List.filter_sublist.trans (joinedTo_sublist_made number changes)

end Held

/-! ## Histories -/

/-- The changes that were made on the way from an empty session to this one. Each was made by a
command that was obeyed, and that a watch had let pass. -/
inductive History (watch : Job → Session → Option Failure) : List Change → Session → Prop where
  | start : History watch [] {}
  | quiet {changes : List Change} {s t : Session} (before : History watch changes s)
      (quiet : Quiet s t) : History watch changes t
  | change {changes : List Change} {change : Change} {name : String} {command : Command}
      {s t : Session} (before : History watch changes s)
      (passed : watch (.obey name command) s = none)
      (makes : command.change? s name = some change)
      (obeyed : ∀ again, (obey again name command).run.run s = (.ok {}, t)) :
      History watch (changes ++ [change]) t

/-- The registries of a session are as its changes tell. -/
structure Orderly (changes : List Change) (s : Session) : Prop where
  /-- A scan has the subscribers that came and did not go, in the order in which they came. -/
  subscribers : ∀ number, s.subscribersOf number = held number changes
  /-- No ticket is given twice, whoever is subscribed with it. -/
  ascending : (made changes).Pairwise fun one next => one.ticket < next.ticket
  fresh : ∀ subscription ∈ made changes, subscription.ticket < s.nextTicket
  parted : ∀ number, ∀ ticket ∈ partedFrom number changes, ticket < s.nextTicket
  /-- The subscriptions that are known by their names are all that were made. -/
  handles : s.handles = (made changes).reverse.map fun subscription =>
    (subscription.name, subscription)
  consumers : ∀ subscription ∈ made changes, subscription.consumer < s.consumers.size
  named : Named s

section Orderly

variable {changes : List Change} {s t : Session}

theorem orderly_empty : Orderly [] {} where
  subscribers _ := rfl
  ascending := .nil
  fresh := nofun
  parted _ := nofun
  handles := rfl
  consumers := nofun
  named _ _ named := by cases named

theorem Orderly.quiet (orderly : Orderly changes s) (quiet : Quiet s t) : Orderly changes t where
  subscribers number := by rw [quiet.subscribers, orderly.subscribers]
  ascending := orderly.ascending
  fresh := by rw [quiet.tickets]; exact orderly.fresh
  parted := by rw [quiet.tickets]; exact orderly.parted
  handles := by rw [quiet.handles, orderly.handles]
  consumers := by rw [quiet.consumers]; exact orderly.consumers
  named name number named := by
    rcases quiet.names name number named with there | before
    · exact there
    · exact Nat.lt_of_lt_of_le (orderly.named name number before) quiet.scans

theorem Orderly.joins (orderly : Orderly changes s) {number : Nat} {subscription : Subscription}
    (joins : Joins number subscription s t) :
    Orderly (changes ++ [.joined number subscription]) t := by
  have made : made (changes ++ [.joined number subscription]) = made changes ++ [subscription] :=
    made_concat changes _
  have unused : subscription.ticket ∉ partedFrom number changes := by
    intro member
    have below := orderly.parted number _ member
    rw [joins.ticket] at below
    exact Nat.lt_irrefl _ below
  constructor
  case subscribers =>
    intro other
    by_cases here : other = number
    · rw [here, joins.here, orderly.subscribers, held_joined unused]
    · rw [joins.others other here, orderly.subscribers,
        held_concat_of_none (by simp [Change.joins?, Ne.symm here]) rfl]
  case ascending =>
    rw [made, List.pairwise_append]
    refine ⟨orderly.ascending, List.pairwise_singleton _ _, ?_⟩
    intro one member next single
    rw [List.mem_singleton.1 single, joins.ticket]
    exact orderly.fresh one member
  case fresh =>
    rw [made, joins.tickets]
    intro other member
    rcases List.mem_append.1 member with before | single
    · exact Nat.lt_succ_of_lt (orderly.fresh other before)
    · rw [List.mem_singleton.1 single, joins.ticket]
      exact Nat.lt_succ_self _
  case parted =>
    intro other ticket member
    rw [partedFrom_concat] at member
    rw [joins.tickets]
    exact Nat.lt_succ_of_lt (orderly.parted other ticket (by simpa [Change.parts?] using member))
  case handles =>
    rw [made, joins.handles, orderly.handles]
    simp
  case consumers =>
    rw [made]
    intro other member
    rcases List.mem_append.1 member with before | single
    · exact Nat.lt_of_lt_of_le (orderly.consumers other before) joins.consumers
    · rw [List.mem_singleton.1 single]
      exact joins.consumer
  case named =>
    intro name other named
    rw [joins.scans]
    rw [find?, joins.names] at named
    exact orderly.named name other named

/-- The tickets of the subscribers of a scan ascend. -/
theorem Orderly.pairwise_subscribers (orderly : Orderly changes s) (number : Nat) :
    (s.subscribersOf number).Pairwise fun one next => one.ticket < next.ticket := by
  rw [orderly.subscribers]
  exact orderly.ascending.sublist (held_sublist_made number changes)

theorem Orderly.nodup_tickets (orderly : Orderly changes s) (number : Nat) :
    ((s.subscribersOf number).map (·.ticket)).Nodup := by
  rw [List.Nodup, List.pairwise_map]
  exact (orderly.pairwise_subscribers number).imp Nat.ne_of_lt

theorem Orderly.parts (orderly : Orderly changes s) {number ticket : Nat}
    (parts : Parts number ticket s t) : Orderly (changes ++ [.parted number ticket]) t := by
  have made : made (changes ++ [.parted number ticket]) = made changes := by
    rw [made_concat]
    exact List.append_nil _
  have same := parts.same
  have below : ticket < s.nextTicket := by
    obtain ⟨subscription, member, rfl⟩ := List.mem_map.1 parts.held
    rw [orderly.subscribers] at member
    exact orderly.fresh subscription ((held_sublist_made number changes).subset member)
  rw [same]
  constructor
  case subscribers =>
    rw [← same]
    intro other
    by_cases here : other = number
    · rw [here, parts.here, eraseP_ticket (orderly.nodup_tickets number), orderly.subscribers,
        held_parted]
    · rw [parts.others other here, orderly.subscribers,
        held_concat_of_none rfl (by simp [Change.parts?, Ne.symm here])]
  case ascending =>
    rw [made]
    exact orderly.ascending
  case fresh =>
    rw [made]
    exact orderly.fresh
  case parted =>
    intro other gone member
    rw [partedFrom_concat] at member
    rcases List.mem_append.1 member with before | last
    · exact orderly.parted other gone before
    · by_cases here : number = other
      · have single : gone = ticket := by simpa [Change.parts?, here] using last
        rw [single]
        exact below
      · simp [Change.parts?, here] at last
  case handles =>
    rw [made]
    exact orderly.handles
  case consumers =>
    rw [made]
    exact orderly.consumers
  case named =>
    intro name other named
    show other < t.scanners.size
    rw [parts.scans]
    exact orderly.named name other named

theorem Orderly.change (orderly : Orderly changes s) {change : Change} (does : change.Does s t) :
    Orderly (changes ++ [change]) t := by
  cases change with
  | joined number subscription => exact orderly.joins does
  | parted number ticket => exact orderly.parts does

theorem History.orderly {watch : Job → Session → Option Failure}
    (history : History watch changes s) : Orderly changes s := by
  induction history with
  | start => exact orderly_empty
  | quiet before quiet ih => exact ih.quiet quiet
  | change before passed makes obeyed ih =>
    obtain ⟨t, ran, does⟩ := exists_obey_of_change ih.named makes
    cases (ran (exec 0)).symm.trans (obeyed (exec 0))
    exact ih.change does

end Orderly

end Scenario.Session
