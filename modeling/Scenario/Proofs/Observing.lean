import Mathlib.Data.List.Basic
import Scenario.Proofs.Listening

/-! # Listeners observe and do not interfere

Before passive listeners a whole pass delivers the tokens it would read with nobody listening: token
after token, to everyone who wants it, in the order of subscription. So what one listener receives
depends on its own filter alone, and another one may come or go (`exec_pass_observed`).

It follows that whatever is made of the tokens of a source is made of the same tokens: a builder and
a printer that listen to a session end up with what `parse` and `toWebGal` give.
-/

namespace Scenario.Session

/-! ## Who receives what -/

section Rounds

variable {subscriptions : List Subscription} {subscription : Subscription}

/-- Those who stay receive what they received before. -/
theorem filter_rounds (keep : Subscription → Bool) (tokens : List Token) :
    (rounds subscriptions tokens).filter (fun receipt => keep receipt.subscription) =
      rounds (subscriptions.filter keep) tokens := by
  induction tokens with
  | nil => rfl
  | cons token tokens ih =>
    have one : (round subscriptions token).filter (fun receipt => keep receipt.subscription) =
        round (subscriptions.filter keep) token := by
      simp [round, List.filter_map, List.filter_filter, Function.comp_def, Bool.and_comm]
    rw [rounds_cons, List.filter_append, one, ih, rounds_cons]

theorem eraseP_ticket (distinct : (subscriptions.map (·.ticket)).Nodup) (ticket : Nat) :
    subscriptions.eraseP (fun subscription => subscription.ticket == ticket) =
      subscriptions.filter fun subscription => subscription.ticket ≠ ticket := by
  induction subscriptions with
  | nil => rfl
  | cons first others ih =>
    obtain ⟨apart, distinct⟩ := List.nodup_cons.1 distinct
    by_cases here : first.ticket = ticket
    · have rest : others.filter (fun subscription => subscription.ticket ≠ ticket) = others := by
        rw [List.filter_eq_self]
        intro other inside
        rw [decide_eq_true_iff]
        intro same
        exact apart (List.mem_map.2 ⟨_, inside, same.trans here.symm⟩)
      rw [List.eraseP_cons_of_pos (by simpa using here),
        List.filter_cons_of_neg (by simpa using here), rest]
    · simp [here, ih distinct]

/-- Consumers of fewer receipts receive the same if those left out are not for them. -/
theorem tokensOf_filter {class? : Subscription → Bool} {keep : Receipt → Bool}
    {receipts : List Receipt}
    (kept : ∀ receipt ∈ receipts, class? receipt.subscription = true → keep receipt = true) :
    tokensOf class? (receipts.filter keep) = tokensOf class? receipts := by
  rw [tokensOf, tokensOf, List.filter_filter]
  congr 1
  apply List.filter_congr
  intro receipt member
  by_cases inside : class? receipt.subscription = true
  · simp [inside, kept receipt member inside]
  · simp [inside]

/-- Without one subscription, all consumers but its own receive what they received before. -/
theorem tokensOf_filter_ticket {gone : Subscription} {i : Nat}
    (distinct : (subscriptions.map (·.ticket)).Nodup) (member : gone ∈ subscriptions)
    (other : i ≠ gone.consumer) (tokens : List Token) :
    tokensOf (·.consumer = i)
        (rounds (subscriptions.filter fun other => other.ticket ≠ gone.ticket) tokens) =
      tokensOf (·.consumer = i) (rounds subscriptions tokens) := by
  rw [← filter_rounds]
  apply tokensOf_filter
  intro receipt inside here
  rw [decide_eq_true_iff]
  intro same
  have only : receipt.subscription ∈ subscriptions.filter (·.ticket = gone.ticket) :=
    List.mem_filter.2 ⟨mem_of_mem_rounds inside, decide_eq_true same⟩
  rw [filter_ticket distinct member, List.mem_singleton] at only
  rw [only] at here
  exact other (of_decide_eq_true here).symm

end Rounds

/-! ## Another listener more or less -/

section Registries

variable {number : Nat} {registry : Registry} {c : Cursor} {s t : Session}

/-- With other subscriptions the scan of `s` ends as the pass does, after receipts that are those
subscriptions' own, and leaves all consumers but one as they are in `t`. -/
def Unmoved (number : Nat) (pass : Scan.Pass) (others : Registry) (receipts : List Receipt)
    (apart : Nat) (s t : Session) : Prop :=
  ∃ u, Yields (exec · (.pass number)) (s.modifyRegistry number fun _ => others) (outcome pass) u ∧
    Hears number receipts pass.cursor (s.modifyRegistry number fun _ => others) u ∧
    ∀ i ≠ apart, u.consumers[i]? = t.consumers[i]?

theorem unmoved_of_tokensOf {others : Registry} {receipts : List Receipt} {apart : Nat}
    (found : s.scanners[number]? = some ⟨c, registry⟩) (passive : Passive others.subscriptions s)
    (hears : Hears number receipts (Scan.pass c).cursor s t)
    (same : ∀ i ≠ apart, tokensOf (·.consumer = i)
      (rounds others.subscriptions (Scan.pass c).tokens) = tokensOf (·.consumer = i) receipts) :
    Unmoved number (Scan.pass c) others (rounds others.subscriptions (Scan.pass c).tokens) apart
      s t := by
  obtain ⟨u, yields, heard⟩ :=
    exists_hears_pass (getElem?_modifyRegistry found fun _ => others) passive
  refine ⟨u, yields, heard, ?_⟩
  intro i other
  rw [heard.consumers, hears.consumers, same i other]
  rfl

variable (found : s.scanners[number]? = some ⟨c, registry⟩)
  (passive : Passive registry.subscriptions s)
  (distinct : (registry.subscriptions.map (·.ticket)).Nodup)
  (hears : Hears number (rounds registry.subscriptions (Scan.pass c).tokens) (Scan.pass c).cursor
    s t)
include found passive distinct hears

theorem unmoved_unregister {gone : Subscription} (member : gone ∈ registry.subscriptions)
    {fewer : Registry} (taken : registry.unregister? gone.ticket = some fewer) :
    Unmoved number (Scan.pass c) fewer
      ((rounds registry.subscriptions (Scan.pass c).tokens).filter fun receipt =>
        receipt.subscription.ticket ≠ gone.ticket) gone.consumer s t := by
  have left : fewer.subscriptions =
      registry.subscriptions.filter fun other => other.ticket ≠ gone.ticket := by
    rw [← eraseP_ticket distinct]
    rw [Registry.unregister?] at taken
    split at taken
    · cases taken
      rfl
    · cases taken
  have quiet : Passive fewer.subscriptions s := by
    intro subscription inside
    rw [left] at inside
    exact passive subscription (List.mem_filter.1 inside).1
  rw [filter_rounds fun other => decide (other.ticket ≠ gone.ticket), ← left]
  apply unmoved_of_tokensOf found quiet hears
  intro i other
  rw [left]
  exact tokensOf_filter_ticket distinct member other _

theorem unmoved_register {extra : Subscription} (free : registry.holds extra.ticket = false)
    (quiet : Passive [extra] s) :
    ∃ receipts, Unmoved number (Scan.pass c) (registry.register extra) receipts extra.consumer s t ∧
      receipts.filter (fun receipt => receipt.subscription.ticket ≠ extra.ticket) =
        rounds registry.subscriptions (Scan.pass c).tokens := by
  have fresh : ∀ other ∈ registry.subscriptions, other.ticket ≠ extra.ticket := by
    simpa [Registry.holds] using free
  have more : (registry.register extra).subscriptions = registry.subscriptions ++ [extra] := rfl
  have back : (registry.subscriptions ++ [extra]).filter
      (fun other => other.ticket ≠ extra.ticket) = registry.subscriptions := by
    have kept := List.filter_eq_self.2 fun other inside => decide_eq_true (fresh other inside)
    rw [List.filter_append, kept]
    simp
  have apart : ((registry.subscriptions ++ [extra]).map (·.ticket)).Nodup := by
    rw [List.map_append, List.nodup_append]
    refine ⟨distinct, by simp, ?_⟩
    intro ticket inside other single
    obtain ⟨subscription, member, rfl⟩ := List.mem_map.1 inside
    rw [List.mem_singleton.1 single]
    exact fresh subscription member
  refine ⟨_, unmoved_of_tokensOf found ?_ hears ?_, ?_⟩
  · intro subscription inside
    rw [more, List.mem_append] at inside
    rcases inside with inside | inside
    · exact passive subscription inside
    · exact quiet subscription inside
  · intro i other
    have same := tokensOf_filter_ticket apart (List.mem_append_right _ (List.mem_singleton_self _))
      other (Scan.pass c).tokens
    rw [back] at same
    rw [more, same]
  · rw [more, filter_rounds fun other => decide (other.ticket ≠ extra.ticket), back]

end Registries

/-! ## What is made of a whole source -/

/-- The functions that read a whole source fail with the fault of the pass, or give what is made of
its tokens: these themselves, the script of a builder that was handed all of them, and the output of
a printer that was handed the prose and the labels. -/
structure Agree (source : String) (file : Option String) (options : Options) (pass : Scan.Pass) :
    Prop where
  fault : ∀ fault ∈ pass.fault, tokenize source file options = .error fault ∧
    parse source file options = .error fault ∧ toWebGal source file options = .error fault
  tokens : pass.fault = none → tokenize source file options = .ok pass.tokens
  script : pass.fault = none → ∃ script,
    (pass.tokens.foldl Builder.receive {}).script = some script ∧
      parse source file options = .ok script
  output : pass.fault = none → toWebGal source file options =
    .ok ((pass.tokens.filter WebGal.Printer.accepts).foldl WebGal.Printer.receive {}).output

theorem agree_pass (source : String) (file : Option String) (options : Options) :
    Agree source file options (Scan.pass (.ofSource source file options)) := by
  have result : tokenize source file options =
      (Scan.pass (.ofSource source file options)).result := rfl
  cases ended : (Scan.pass (.ofSource source file options)).fault with
  | none =>
    have ok : tokenize source file options =
        .ok (Scan.pass (.ofSource source file options)).tokens := by
      rw [result, Scan.Pass.result, ended]
    refine ⟨by simp [ended], fun _ => ok, fun _ => parse_of_ok ok, fun _ => ?_⟩
    rw [toWebGal, ok]
    rfl
  | some fault =>
    have failed : tokenize source file options = .error fault := by
      rw [result, Scan.Pass.result, ended]
    refine ⟨?_, by simp [ended], by simp [ended], by simp [ended]⟩
    intro other same
    rw [ended, Option.mem_some] at same
    subst same
    refine ⟨failed, parse_of_error failed, ?_⟩
    rw [toWebGal, failed]
    rfl

theorem foldl_take_builder (name : String) (builder : Builder) (tokens : List Token) :
    tokens.foldl Consumer.take (.builder name builder) =
      .builder name (tokens.foldl Builder.receive builder) := by
  induction tokens generalizing builder with
  | nil => rfl
  | cons token tokens ih => exact ih _

theorem foldl_take_printer (name : String) (printer : WebGal.Printer) (tokens : List Token) :
    tokens.foldl Consumer.take (.printer name printer) =
      .printer name (tokens.foldl WebGal.Printer.receive printer) := by
  induction tokens generalizing printer with
  | nil => rfl
  | cons token tokens ih => exact ih _

/-- A consumer with one subscription has taken what that subscription wants. -/
theorem Hears.consumer {number : Nat} {subscriptions : List Subscription} {tokens : List Token}
    {c : Cursor} {s t : Session} (hears : Hears number (rounds subscriptions tokens) c s t)
    {subscription : Subscription} {consumer : Consumer}
    (only : subscriptions.filter (·.consumer = subscription.consumer) = [subscription])
    (there : s.consumers[subscription.consumer]? = some consumer) :
    t.consumers[subscription.consumer]? =
      some ((tokens.filter subscription.wants).foldl Consumer.take consumer) := by
  rw [hears.consumers, there, Option.map_some, tokensOf_rounds only]

/-- A builder that listens to everything and a printer that listens to prose and labels are left in
`t` with all that the tokens make. -/
structure Assembled (registry : Registry) (tokens : List Token) (s t : Session) : Prop where
  builder : ∀ subscription name,
    registry.subscriptions.filter (·.consumer = subscription.consumer) = [subscription] →
    subscription.filter = .all → s.consumers[subscription.consumer]? = some (.builder name {}) →
    t.consumers[subscription.consumer]? = some (.builder name (tokens.foldl Builder.receive {}))
  printer : ∀ subscription name,
    registry.subscriptions.filter (·.consumer = subscription.consumer) = [subscription] →
    subscription.filter = .kinds [.text, .label] →
    s.consumers[subscription.consumer]? = some (.printer name {}) →
    t.consumers[subscription.consumer]? = some (.printer name
      ((tokens.filter WebGal.Printer.accepts).foldl WebGal.Printer.receive {}))

theorem Hears.assembled {number : Nat} {registry : Registry} {tokens : List Token} {c : Cursor}
    {s t : Session} (hears : Hears number (rounds registry.subscriptions tokens) c s t) :
    Assembled registry tokens s t where
  builder := by
    intro subscription name only all there
    have everything : tokens.filter subscription.wants = tokens := by
      rw [List.filter_eq_self]
      intro token _
      simp [Subscription.wants, all, Filter.all]
    rw [hears.consumer only there, everything, foldl_take_builder]
  printer := by
    intro subscription name only kinds there
    have spoken : subscription.wants = WebGal.Printer.accepts := by
      funext token
      simp only [Subscription.wants, kinds, Filter.kinds, WebGal.Printer.accepts]
      cases token.kind <;> rfl
    rw [hears.consumer only there, spoken, foldl_take_printer]

/-- Passive listeners observe a pass and do not interfere. The pass ends as it does with nobody
listening, and its trace is made of the same tokens in the same order, each handed to those who want
it in the order of their subscriptions, as a whole or not. So every listener receives just what it
wants, and neither this nor how the pass ends changes for others if one is taken away or added. What
is made of the tokens of a source is then the same, whether a session makes it or not. -/
theorem exec_pass_observed {source : String} {file : Option String} {options : Options}
    {s : Session} {number : Nat} {registry : Registry}
    (found : s.scanners[number]? = some ⟨.ofSource source file options, registry⟩)
    (passive : Passive registry.subscriptions s)
    (distinct : (registry.subscriptions.map (·.ticket)).Nodup) :
    let pass := Scan.pass (.ofSource source file options)
    let receipts := rounds registry.subscriptions pass.tokens
    ∃ t, Yields (exec · (.pass number)) s (outcome pass) t ∧
      Hears number receipts pass.cursor s t ∧
      (∀ subscription ∈ registry.subscriptions,
        tokensOf (·.ticket = subscription.ticket) receipts =
          pass.tokens.filter subscription.wants) ∧
      (∀ gone ∈ registry.subscriptions, ∀ fewer, registry.unregister? gone.ticket = some fewer →
        Unmoved number pass fewer
          (receipts.filter fun receipt => receipt.subscription.ticket ≠ gone.ticket)
          gone.consumer s t) ∧
      (∀ extra, registry.holds extra.ticket = false → Passive [extra] s →
        ∃ more, Unmoved number pass (registry.register extra) more extra.consumer s t ∧
          more.filter (fun receipt => receipt.subscription.ticket ≠ extra.ticket) = receipts) ∧
      Agree source file options pass ∧ Assembled registry pass.tokens s t := by
  intro pass receipts
  obtain ⟨t, yields, hears⟩ := exists_hears_pass found passive
  refine ⟨t, yields, hears, ?_, ?_, ?_, agree_pass source file options, hears.assembled⟩
  · intro subscription member
    exact tokensOf_rounds (filter_ticket distinct member) pass.tokens
  · intro gone member fewer taken
    exact unmoved_unregister found passive distinct hears member taken
  · intro extra free quiet
    exact unmoved_register found passive distinct hears free quiet

/-- A recorder of tags and a builder before prose with a tag in it. -/
theorem exec_pass_observed_audience :
    ∃ t, Yields (exec · (.pass 0)) (audience (.ofSource "a[b]" none {})) (.ok {}) t ∧
      t.log.toList = [.whole "tags"
        { kind := .tag, value := "b", line := 1, column := 3, start := 2, stop := 3,
          inline := true }] ∧
      t.consumers[1]? = some (.builder "tree"
        ((Scan.pass (.ofSource "a[b]" none {})).tokens.foldl Builder.receive {})) := by
  have found : (audience (.ofSource "a[b]" none {})).scanners[0]? = some _ := rfl
  obtain ⟨t, yields, hears, -, -, -, -, assembled⟩ :=
    exec_pass_observed found (passive_audience _) (by decide)
  have ended : outcome (Scan.pass (.ofSource "a[b]" none {})) = .ok {} := by cbv
  refine ⟨t, ended ▸ yields, ?_, ?_⟩
  · rw [hears.log]
    cbv
  · exact assembled.builder { ticket := 1, name := "tree", consumer := 1 } "tree" rfl rfl rfl

end Scenario.Session
