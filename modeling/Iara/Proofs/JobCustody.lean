import Iara.Messaging.Topology

/-!
# A queued job is in one place

Along every run of background tasks and workers over one broker, from a broker that knows no
queue: nobody's declaration is refused, no job is lost or copied, and every job that was
published is waiting, in the hands of one worker, acknowledged, or a dead letter.  A dead
letter stays one: the queue that would retry it never gets a message.
-/

namespace Iara.Messaging

open Iara.Lib Iara.Lib.Amqp

/-! ## The topology -/

theorem consistent_declaration : Topology.Consistent declaration where
  exchanges := by
    intro name type type' h h'
    simp only [declaration, List.mem_cons, Statement.exchange.injEq, reduceCtorEq, or_false,
      List.not_mem_nil] at h h'
    rcases h with ⟨rfl, rfl⟩ | ⟨rfl, rfl⟩ | ⟨rfl, rfl⟩ <;>
      rcases h' with ⟨hname, rfl⟩ | ⟨hname, rfl⟩ | ⟨hname, rfl⟩ <;>
      first
        | rfl
        | exact absurd hname (by decide)
  queues := by
    intro name arguments arguments' h h'
    simp only [declaration, List.mem_cons, Statement.queue.injEq, reduceCtorEq, or_false,
      false_or, List.not_mem_nil] at h h'
    rcases h with ⟨rfl, rfl⟩ | ⟨rfl, rfl⟩ | ⟨rfl, rfl⟩ <;>
      rcases h' with ⟨hname, rfl⟩ | ⟨hname, rfl⟩ | ⟨hname, rfl⟩ <;>
      first
        | rfl
        | exact absurd hname (by decide)

theorem bind_mem_declaration {b : Binding} (h : Statement.bind b ∈ declaration) :
    b = dlxBinding ∨ b = retryBinding ∨ b = jobsBinding := by
  simpa [declaration] using h

theorem queue_mem_declaration {name : String} {arguments : QueueArguments}
    (h : Statement.queue name arguments ∈ declaration) :
    (name = queueDeadLetters ∧ arguments = {}) ∨
      (name = queueRetryDelay ∧
        arguments = { messageTtl := some 30000, deadLetterExchange := some exchangeJobs }) ∨
      (name = queueConversationJobs ∧ arguments = { deadLetterExchange := some exchangeDlx }) := by
  simpa [declaration] using h

theorem eq_of_exchange_eq {b b' : Binding} (h : Statement.bind b ∈ declaration)
    (h' : Statement.bind b' ∈ declaration) (heq : b.exchange = b'.exchange) : b = b' := by
  rcases bind_mem_declaration h with rfl | rfl | rfl <;>
    rcases bind_mem_declaration h' with rfl | rfl | rfl <;>
    first
      | rfl
      | exact absurd heq (by decide)

/-- Jobs get to the conversation queue, and from there to the dead letters at most. -/
def JobQueue (name : String) : Prop := name = queueConversationJobs ∨ name = queueDeadLetters

theorem carries_declaration :
    Broker.Carries declaration (fun x => x = exchangeJobs ∨ x = exchangeDlx) JobQueue where
  bound := by
    intro b h hexchange
    rcases bind_mem_declaration h with rfl | rfl | rfl
    · exact .inr rfl
    · rcases hexchange with heq | heq <;> exact absurd heq (by decide)
    · exact .inl rfl
  deadLetters := by
    intro name arguments exchange h hname hexchange
    rcases queue_mem_declaration h with ⟨rfl, rfl⟩ | ⟨rfl, rfl⟩ | ⟨rfl, rfl⟩
    · cases hexchange
    · rcases hname with heq | heq <;> exact absurd heq (by decide)
    · exact .inr (Option.some.inj hexchange).symm

/-- A binding stands after the exchange and the queue it joins. -/
theorem ready_declaration {t : Topology} {k : Nat} {statement : Statement}
    (hk : declaration[k]? = some statement) (h : ∀ s ∈ declaration.take k, t.Has s) :
    t.Ready statement := by
  have hbind : ∀ {exchange queue : String} {type : ExchangeType} {arguments : QueueArguments}
      (routingKey : String), Statement.exchange exchange type ∈ declaration.take k →
      Statement.queue queue arguments ∈ declaration.take k →
      t.Ready (.bind { exchange := exchange, queue := queue, routingKey := routingKey }) := by
    intro exchange queue type arguments routingKey hexchange hqueue
    have hhas : t.exchanges.lookup exchange = some type := h _ hexchange
    have hhas' : t.queues.lookup queue = some arguments := h _ hqueue
    exact ⟨by rw [hhas]; rfl, by rw [hhas']; rfl⟩
  match k, hk with
  | 0, hk => cases hk; trivial
  | 1, hk => cases hk; trivial
  | 2, hk => cases hk; trivial
  | 3, hk => cases hk; trivial
  | 4, hk =>
      cases hk
      exact hbind "" (by decide : Statement.exchange exchangeDlx .fanout ∈ _)
        (by decide : Statement.queue queueDeadLetters {} ∈ _)
  | 5, hk => cases hk; trivial
  | 6, hk =>
      cases hk
      exact hbind "#" (by decide : Statement.exchange exchangeRetry .topic ∈ _)
        (by decide : Statement.queue queueRetryDelay
          { messageTtl := some 30000, deadLetterExchange := some exchangeJobs } ∈ _)
  | 7, hk => cases hk; trivial
  | 8, hk =>
      cases hk
      exact hbind routingConversationJob
        (by decide : Statement.exchange exchangeJobs .topic ∈ _)
        (by decide : Statement.queue queueConversationJobs
          { deadLetterExchange := some exchangeDlx } ∈ _)
  | _ + 9, hk => cases hk

/-! ## What clients have the broker do -/

section

variable {μ : Type} {b b' : Broker μ}

/-- What some client may have the broker do, or the broker may do by itself. -/
inductive Allowed (b : Broker μ) : Amqp.Action μ → Prop
  | declare {k : Nat} {s : Statement} (hk : declaration[k]? = some s)
      (hmade : ∀ s ∈ declaration.take k, b.topology.Has s) : Allowed b (.declare s)
  | publish (job : μ) (hmade : ∀ s ∈ declaration, b.topology.Has s) :
      Allowed b (.publish exchangeJobs routingConversationJob job)
  | deliver (channel : Nat) {i : Nat} {e : Entry μ} (he : b.ready[i]? = some e)
      (hqueue : e.queue = queueConversationJobs) : Allowed b (.deliver channel i)
  | ack (i : Nat) : Allowed b (.ack i)
  | reject (i : Nat) (requeue : Bool) (hmade : ∀ s ∈ declaration, b.topology.Has s) :
      Allowed b (.reject i requeue)
  | expire (i : Nat) : Allowed b (.expire i)
  | close (channel : Nat) : Allowed b (.close channel)

/-- The jobs are in the two queues, and nothing is lost. -/
structure Sound (b : Broker μ) : Prop where
  within : b.topology.Within declaration
  single : b.topology.SingleBinding
  keeps : b.Keeps JobQueue
  held : ∀ held ∈ b.unacked, held.2.queue = queueConversationJobs
  lost : b.lost = []

def inQueue (b : Broker μ) (name : String) : List (Entry μ) :=
  b.ready.filter fun e => e.queue = name

theorem matchesTopic_self (words : List (List Char)) :
    Topology.matchesTopic words words = true := by
  induction words with
  | nil => rfl
  | cons word words ih =>
      rw [Topology.matchesTopic]
      split
      · apply List.any_eq_true.2
        exact ⟨words, (List.mem_tails _ _).2 (List.suffix_cons word words), ih⟩
      · simp [ih]

theorem route_job (hsingle : b.topology.SingleBinding)
    (hmade : ∀ s ∈ declaration, b.topology.Has s) (job : μ) :
    b.route exchangeJobs routingConversationJob job =
      { b with ready := b.ready ++
        [{ queue := queueConversationJobs, routingKey := routingConversationJob,
            message := job }] } :=
  have hbinding : jobsBinding ∈ b.topology.bindings := hmade (.bind jobsBinding) (by decide)
  Broker.route_of_binding hsingle hbinding (hmade (.exchange exchangeJobs .topic) (by decide))
    (matchesTopic_self _) job

/-- What a worker rejects becomes a dead letter. -/
theorem deadLetter_job (hsingle : b.topology.SingleBinding)
    (hmade : ∀ s ∈ declaration, b.topology.Has s) {e : Entry μ}
    (he : e.queue = queueConversationJobs) :
    b.deadLetter e =
      { b with ready := b.ready ++
        [{ queue := queueDeadLetters, routingKey := e.routingKey, message := e.message }] } := by
  have hqueue : b.topology.queues.lookup e.queue =
      some { deadLetterExchange := some exchangeDlx } := by
    rw [he]
    exact hmade (.queue queueConversationJobs { deadLetterExchange := some exchangeDlx })
      (by decide)
  unfold Broker.deadLetter
  rw [hqueue]
  have hbinding : dlxBinding ∈ b.topology.bindings := hmade (.bind dlxBinding) (by decide)
  exact Broker.route_of_binding hsingle hbinding
    (hmade (.exchange exchangeDlx .fanout) (by decide)) rfl e.message

/-- No queue that holds a job has a time limit. -/
theorem expires_eq_false (hw : b.topology.Within declaration) {e : Entry μ}
    (he : JobQueue e.queue) : b.expires e = false := by
  unfold Broker.expires
  cases hlookup : b.topology.queues.lookup e.queue with
  | none => rfl
  | some arguments =>
      have hmem := hw.queues _ (mem_of_lookup_eq_some hlookup)
      rcases queue_mem_declaration hmem with ⟨-, rfl⟩ | ⟨hname, -⟩ | ⟨-, rfl⟩
      · rfl
      · rcases he with heq | heq <;> exact absurd (heq.symm.trans hname) (by decide)
      · rfl

/-- What one action leaves of the queues. -/
theorem Sound.step (h : Sound b) {a : Amqp.Action μ} (ha : Allowed b a)
    (hstep : b.step a = some b') :
    Sound b' ∧ inQueue b queueDeadLetters <+: inQueue b' queueDeadLetters ∧
      b.acked <+: b'.acked := by
  have hkeeps : b'.Keeps JobQueue := by
    refine h.keeps.step h.within carries_declaration ?_ hstep
    intro exchange routingKey message heq
    cases ha with
    | publish job hmade => cases heq; exact .inl rfl
    | _ => cases heq
  have hother : ∀ entries : List (Entry μ), (∀ e ∈ entries, e.queue = queueConversationJobs) →
      entries.filter (fun e => e.queue = queueDeadLetters) = [] := by
    intro entries hentries
    rw [List.filter_eq_nil_iff]
    intro e he hdead
    rw [decide_eq_true_eq, hentries e he] at hdead
    exact absurd hdead (by decide)
  have herase : ∀ i, ∀ held ∈ b.unacked.eraseIdx i, held.2.queue = queueConversationJobs :=
    fun i held hheld => h.held held (List.mem_of_mem_eraseIdx hheld)
  cases ha with
  | declare hk hmade =>
      obtain ⟨t, ht, rfl⟩ := Option.map_eq_some_iff.1 hstep
      have hmem := List.mem_of_getElem? hk
      exact ⟨⟨h.within.declare hmem ht,
        h.single.declare h.within hmem (fun b b' => eq_of_exchange_eq) ht, hkeeps, h.held, h.lost⟩,
        List.prefix_refl _, List.prefix_refl _⟩
  | publish job hmade =>
      rw [Broker.step] at hstep
      split at hstep
      next =>
        rw [Option.some.injEq, route_job h.single hmade] at hstep
        subst hstep
        refine ⟨⟨h.within, h.single, hkeeps, h.held, h.lost⟩, ?_, List.prefix_refl _⟩
        unfold inQueue
        rw [List.filter_append]
        exact List.prefix_append _ _
      next => cases hstep
  | @deliver channel i e he hqueue =>
      obtain ⟨e', he', rfl⟩ := Option.map_eq_some_iff.1 hstep
      obtain rfl := Option.some.inj (he.symm.trans he')
      refine ⟨⟨h.within, h.single, hkeeps, ?_, h.lost⟩, ?_, List.prefix_refl _⟩
      · intro held hheld
        rcases List.mem_append.1 hheld with hold | hnew
        · exact h.held held hold
        · rw [List.mem_singleton.1 hnew]
          exact hqueue
      · obtain ⟨hlt, hget⟩ := List.getElem?_eq_some_iff.1 he
        have hsplit : b.ready = b.ready.take i ++ e :: b.ready.drop (i + 1) := by
          rw [← hget, List.cons_getElem_drop_succ, List.take_append_drop]
        have hsame : inQueue b queueDeadLetters =
            (b.ready.eraseIdx i).filter fun e => e.queue = queueDeadLetters := by
          unfold inQueue
          conv_lhs => rw [hsplit]
          rw [List.eraseIdx_eq_take_drop_succ, List.filter_append, List.filter_append,
            List.filter_cons_of_neg (by rw [decide_eq_true_eq, hqueue]; decide)]
        rw [hsame]
        exact List.prefix_refl _
  | ack i =>
      obtain ⟨held, -, rfl⟩ := Option.map_eq_some_iff.1 hstep
      exact ⟨⟨h.within, h.single, hkeeps, herase i, h.lost⟩, List.prefix_refl _,
        List.prefix_append _ _⟩
  | reject i requeue hmade =>
      obtain ⟨held, hheld, rfl⟩ := Option.map_eq_some_iff.1 hstep
      have hqueue := h.held held (List.mem_of_getElem? hheld)
      cases requeue with
      | true =>
          refine ⟨⟨h.within, h.single, hkeeps, herase i, h.lost⟩, ?_, List.prefix_refl _⟩
          unfold inQueue
          change _ <+: (b.ready ++ [held.2]).filter _
          rw [List.filter_append]
          exact List.prefix_append _ _
      | false =>
          have hdead := deadLetter_job (b := { b with unacked := b.unacked.eraseIdx i }) h.single
            hmade hqueue
          change Sound (Broker.deadLetter _ held.2) ∧ _ <+: inQueue (Broker.deadLetter _ held.2) _ ∧
            _ <+: (Broker.deadLetter _ held.2).acked
          change (Broker.deadLetter _ held.2).Keeps JobQueue at hkeeps
          rw [hdead] at hkeeps ⊢
          refine ⟨⟨h.within, h.single, hkeeps, herase i, h.lost⟩, ?_, List.prefix_refl _⟩
          unfold inQueue
          rw [List.filter_append]
          exact List.prefix_append _ _
  | expire i =>
      rw [Broker.step] at hstep
      split at hstep
      next => cases hstep
      next e he =>
        dsimp only at hstep
        rw [expires_eq_false h.within (h.keeps.1 e (List.mem_of_getElem? he)),
          if_neg Bool.false_ne_true] at hstep
        cases hstep
  | close channel =>
      cases hstep
      refine ⟨⟨h.within, h.single, hkeeps, ?_, h.lost⟩, ?_, List.prefix_refl _⟩
      · intro held hheld
        exact h.held held (List.mem_filter.1 hheld).1
      · unfold inQueue
        rw [List.filter_append]
        exact List.prefix_append _ _

end

/-! ## Along a run -/

namespace JobQueues

variable {queues : JobQueues} {μ : Type}

/-- The client was refused nothing, and what it declared stands. -/
def Made (b : Broker μ) (client : Client μ) : Prop :=
  client.refused = false ∧ ∀ s ∈ declaration.take client.declared, b.topology.Has s

theorem Made.all {b : Broker μ} {client : Client μ} (h : Made b client)
    (hready : client.ready = true) : ∀ s ∈ declaration, b.topology.Has s := by
  have hdeclared : client.declared = declaration.length := by
    unfold Client.ready at hready
    simp only [Bool.and_eq_true, decide_eq_true_eq] at hready
    exact hready.2
  have hall := h.2
  rw [hdeclared, List.take_length] at hall
  exact hall

/-- Nothing that happens in a broker takes a declaration back. -/
theorem has_of_step {b b' : Broker μ} {a : Amqp.Action μ} (h : b.step a = some b')
    {s : Statement} (hs : b.topology.Has s) : b'.topology.Has s := by
  have hroute : ∀ (c : Broker μ) (exchange routingKey : String) (message : μ),
      (c.route exchange routingKey message).topology = c.topology := by
    intro c exchange routingKey message
    unfold Broker.route
    split <;> rfl
  have hdead : ∀ (c : Broker μ) (e : Entry μ), (c.deadLetter e).topology = c.topology := by
    intro c e
    unfold Broker.deadLetter
    split
    · rfl
    · exact hroute c _ _ _
  cases a with
  | declare s' =>
      obtain ⟨t, ht, rfl⟩ := Option.map_eq_some_iff.1 h
      exact hs.declare ht
  | publish exchange routingKey message =>
      rw [Broker.step] at h
      split at h
      next =>
        cases h
        rw [hroute]
        exact hs
      next => cases h
  | deliver channel i =>
      obtain ⟨e, -, rfl⟩ := Option.map_eq_some_iff.1 h
      exact hs
  | ack i =>
      obtain ⟨held, -, rfl⟩ := Option.map_eq_some_iff.1 h
      exact hs
  | reject i requeue =>
      obtain ⟨held, -, rfl⟩ := Option.map_eq_some_iff.1 h
      cases requeue with
      | true => exact hs
      | false =>
          change (Broker.deadLetter _ held.2).topology.Has s
          rw [hdead]
          exact hs
  | expire i =>
      rw [Broker.step] at h
      split at h
      next => cases h
      next =>
        dsimp only at h
        split at h
        next =>
          cases h
          rw [hdead]
          exact hs
        next => cases h
  | close channel =>
      cases h
      exact hs

/-- One act is one allowed action of the broker, with the jobs it publishes. -/
structure ActEffect (s : Shared μ) (client' : Client μ) (s' : Shared μ) (a : Amqp.Action μ) :
    Prop where
  allowed : Allowed s.broker a
  step : s.broker.step a = some s'.broker
  published : (s'.published : Multiset μ) = Broker.Action.published a + s.published
  made : Made s'.broker client'

theorem act_effect {s s' : Shared μ} {client client' : Client μ} {step : ClientStep}
    (hmade : Made s.broker client) (hsound : Sound s.broker)
    (h : queues.act s client step = some (client', s')) :
    ∃ a, ActEffect s client' s' a := by
  have hkept : ∀ {b' : Broker μ} {a : Amqp.Action μ}, s.broker.step a = some b' →
      ∀ closed, Made b' { client with closed := closed } := by
    intro b' a hstep closed
    exact ⟨hmade.1, fun st hst => has_of_step hstep (hmade.2 st hst)⟩
  -- an action that publishes nothing and leaves the client as it is
  have hperform : ∀ {a : Amqp.Action μ} {closed : Bool}, Allowed s.broker a →
      Broker.Action.published a = 0 →
      perform s { client with closed := closed } a = some (client', s') →
      ∃ a, ActEffect s client' s' a := by
    intro a closed hallowed hpublished hperform
    obtain ⟨broker, hstep, heq⟩ := Option.map_eq_some_iff.1 hperform
    cases heq
    exact ⟨a, hallowed, hstep, by rw [hpublished, zero_add], hkept hstep closed⟩
  cases step with
  | declare =>
      rw [act] at h
      split at h
      next => cases h
      next =>
        obtain ⟨statement, hstatement, heq⟩ := Option.map_eq_some_iff.1 h
        have hready := ready_declaration hstatement hmade.2
        have hmem := List.mem_of_getElem? hstatement
        obtain ⟨t, ht⟩ := Option.isSome_iff_exists.1
          (Topology.declare_isSome consistent_declaration hsound.within hmem hready)
        have hstep : s.broker.step (.declare statement) =
            some { s.broker with topology := t } := by
          rw [Broker.step, ht]
          rfl
        rw [hstep] at heq
        cases heq
        refine ⟨_, .declare hstatement hmade.2, hstep, (zero_add _).symm, hmade.1, ?_⟩
        intro st hst
        rw [List.take_add_one, hstatement] at hst
        rcases List.mem_append.1 hst with hold | hnew
        · exact (hmade.2 st hold).declare ht
        · rw [List.mem_singleton.1 hnew]
          exact Topology.declare_has ht
  | publish =>
      rw [act] at h
      split at h
      next => cases h
      next job _ =>
        split at h
        next hready =>
          obtain ⟨broker, hstep, heq⟩ := Option.map_eq_some_iff.1 h
          cases heq
          refine ⟨_, .publish job (hmade.all hready), hstep, ?_, hkept hstep true⟩
          rw [← Multiset.coe_add, Multiset.coe_singleton, add_comm]
          rfl
        next => cases h
  | deliver i =>
      rw [act] at h
      split at h
      next hcond =>
        simp only [Bool.and_eq_true, decide_eq_true_eq] at hcond
        obtain ⟨e, he, hqueue⟩ := Option.map_eq_some_iff.1 hcond.1.2
        exact hperform (.deliver client.channel he hqueue) rfl h
      next => cases h
  | ack i =>
      rw [act] at h
      split at h
      next => exact hperform (.ack i) rfl h
      next => cases h
  | nack i =>
      rw [act] at h
      split at h
      next hcond =>
        rw [Bool.and_eq_true] at hcond
        exact hperform (.reject i false (hmade.all hcond.1)) rfl h
      next => cases h
  | requeue i =>
      rw [act] at h
      split at h
      next hcond =>
        rw [Bool.and_eq_true] at hcond
        exact hperform (.reject i true (hmade.all hcond.1)) rfl h
      next => cases h
  | close =>
      rw [act] at h
      split at h
      next => cases h
      next => exact hperform (.close client.channel) rfl h

structure Accounted (c : State μ) : Prop where
  sound : Sound c.shared.broker
  contents : c.shared.broker.contents = (c.shared.published : Multiset μ)
  made : ∀ client ∈ c.parties, Made c.shared.broker client

/-- What one action of the broker preserves, whoever it is for. -/
theorem accounted_of_action {s s' : Shared μ} {clients : List (Client μ)} {a : Amqp.Action μ}
    (h : Accounted ⟨s, clients⟩) (hallowed : Allowed s.broker a)
    (hstep : s.broker.step a = some s'.broker)
    (hpublished : (s'.published : Multiset μ) = Broker.Action.published a + s.published)
    {clients' : List (Client μ)} (hclients : ∀ client ∈ clients', Made s'.broker client ∨
      client ∈ clients) : Accounted ⟨s', clients'⟩ where
  sound := (h.sound.step hallowed hstep).1
  contents := by
    change s'.broker.contents = _
    rw [Broker.contents_step h.sound.single hstep, hpublished]
    exact congrArg _ h.contents
  made := by
    intro client hclient
    rcases hclients client hclient with hnew | hold
    · exact hnew
    · have hmade := h.made client hold
      exact ⟨hmade.1, fun st hst => has_of_step hstep (hmade.2 st hst)⟩

/-- One step of any client, or of the broker, is accounted for, and takes nothing out of the
dead letters. -/
theorem accounted_step {c c' : State μ} {m : Interleaving.Move ClientStep (Event μ)}
    (h : Accounted c) (hstep : queues.machine.step c m = some c') :
    Accounted c' ∧
      inQueue c.shared.broker queueDeadLetters <+: inQueue c'.shared.broker queueDeadLetters ∧
      c.shared.broker.acked <+: c'.shared.broker.acked := by
  cases m with
  | party i step =>
      obtain ⟨client, client', s', hi, hact, rfl⟩ := Interleaving.step_party hstep
      obtain ⟨a, heffect⟩ := act_effect (h.made client (List.mem_of_getElem? hi)) h.sound hact
      refine ⟨accounted_of_action h heffect.allowed heffect.step heffect.published ?_,
        (h.sound.step heffect.allowed heffect.step).2⟩
      intro other hother
      rcases List.mem_or_eq_of_mem_set hother with hold | rfl
      · exact .inr hold
      · exact .inl heffect.made
  | environment e =>
      obtain ⟨clients, s', henv, rfl⟩ := Interleaving.step_environment hstep
      cases e with
      | connect job =>
          cases henv
          refine ⟨⟨h.sound, h.contents, ?_⟩, List.prefix_refl _, List.prefix_refl _⟩
          intro client hclient
          rcases List.mem_append.1 hclient with hold | hnew
          · exact h.made client hold
          · rw [List.mem_singleton.1 hnew]
            exact ⟨rfl, fun s hs => by cases hs⟩
      | expire i =>
          obtain ⟨broker, hexpire, heq⟩ := Option.map_eq_some_iff.1 henv
          cases heq
          have hnext : Accounted ⟨{ c.shared with broker := broker }, c.parties ++ []⟩ := by
            refine accounted_of_action h (.expire i) hexpire ?_ ?_
            · exact (zero_add _).symm
            intro client hclient
            rw [List.append_nil] at hclient
            exact .inr hclient
          exact ⟨hnext, (h.sound.step (.expire i) hexpire).2⟩

theorem accounted_start : Accounted (⟨{}, []⟩ : State μ) where
  sound :=
    { within := Topology.within_empty declaration
      single := List.nodup_nil
      keeps := ⟨List.forall_mem_nil _, List.forall_mem_nil _⟩
      held := List.forall_mem_nil _
      lost := rfl }
  contents := rfl
  made := List.forall_mem_nil _

/-- A queue is its part of what is ready. -/
theorem messages_ready {b : Broker μ} (h : Sound b) :
    Broker.messages b.ready = Broker.messages (inQueue b queueConversationJobs) +
      Broker.messages (inQueue b queueDeadLetters) := by
  have hperm := (List.filter_append_perm (fun e : Entry μ => e.queue = queueConversationJobs)
    b.ready).map Entry.message
  have hdead : (b.ready.filter fun e => !decide (e.queue = queueConversationJobs)) =
      inQueue b queueDeadLetters := by
    apply List.filter_congr
    intro e he
    rcases h.keeps.1 e he with hqueue | hqueue <;> rw [hqueue] <;> decide
  rw [hdead] at hperm
  unfold Broker.messages
  rw [Multiset.coe_add, Multiset.coe_eq_coe, ← List.map_append]
  exact hperm.symm

end JobQueues

open JobQueues in
/-- Whatever the clients of a broker do, in whatever order: no declaration is refused, every
published job is in one of four places, no other queue gets one, and what is acknowledged or
a dead letter remains so. -/
theorem published_job_in_one_place (queues : JobQueues) {μ : Type}
    {ms : List (Interleaving.Move ClientStep (Event μ))} {c : State μ}
    (hrun : queues.machine.run ⟨{}, []⟩ ms = some c) :
    (∀ client ∈ c.parties, client.refused = false) ∧
      (c.shared.published : Multiset μ) =
        Broker.messages (inQueue c.shared.broker queueConversationJobs) +
          Broker.messages (c.shared.broker.unacked.map Prod.snd) +
          (c.shared.broker.acked : Multiset μ) +
          Broker.messages (inQueue c.shared.broker queueDeadLetters) ∧
      inQueue c.shared.broker queueRetryDelay = [] ∧
      ∀ ms' c', queues.machine.run c ms' = some c' →
        inQueue c.shared.broker queueDeadLetters <+: inQueue c'.shared.broker queueDeadLetters ∧
          c.shared.broker.acked <+: c'.shared.broker.acked := by
  have haccounted := queues.machine.invariant_of_step
    (fun _ _ _ h hstep => (accounted_step h hstep).1) accounted_start hrun
  refine ⟨fun client hclient => (haccounted.made client hclient).1, ?_, ?_, ?_⟩
  · rw [← haccounted.contents]
    unfold Broker.contents
    rw [haccounted.sound.lost, messages_ready haccounted.sound, Multiset.coe_nil]
    abel
  · apply List.filter_eq_nil_iff.2
    intro e he hretry
    rw [decide_eq_true_eq] at hretry
    rcases haccounted.sound.keeps.1 e he with hqueue | hqueue <;>
      exact absurd (hqueue.symm.trans hretry) (by decide)
  · intro ms' c' hrun'
    have hlater := queues.machine.invariant_of_step
      (I := fun d => Accounted d ∧
        inQueue c.shared.broker queueDeadLetters <+: inQueue d.shared.broker queueDeadLetters ∧
          c.shared.broker.acked <+: d.shared.broker.acked)
      (fun d m d' h hstep => by
        obtain ⟨hnext, hdead, hacked⟩ := accounted_step h.1 hstep
        exact ⟨hnext, h.2.1.trans hdead, h.2.2.trans hacked⟩)
      ⟨haccounted, List.prefix_refl _, List.prefix_refl _⟩ hrun'
    exact hlater.2

/-! ## A job whose handler raises -/

section Example

def declareSteps (client : Nat) : List (Interleaving.Move ClientStep (Event Nat)) :=
  List.replicate declaration.length (.party client .declare)

/-- A task publishes a job, and the one worker that gets it fails. -/
def failedJob : List (Interleaving.Move ClientStep (Event Nat)) :=
  .environment (.connect (some 7)) :: .environment (.connect none) ::
    (declareSteps 1 ++ declareSteps 0 ++
      [.party 0 .publish, .party 1 (.deliver 0), .party 1 (.nack 0)])

def afterFailedJob : JobQueues.State Nat :=
  (({} : JobQueues).machine.run ⟨{}, []⟩ failedJob).getD ⟨{}, []⟩

theorem published_job_in_one_place_failed :
    inQueue afterFailedJob.shared.broker queueDeadLetters =
        [{ queue := queueDeadLetters, routingKey := routingConversationJob, message := 7 }] ∧
      ((afterFailedJob.shared.published : List Nat) : Multiset Nat) =
        Broker.messages (inQueue afterFailedJob.shared.broker queueConversationJobs) +
          Broker.messages (afterFailedJob.shared.broker.unacked.map Prod.snd) +
          (afterFailedJob.shared.broker.acked : Multiset Nat) +
          Broker.messages (inQueue afterFailedJob.shared.broker queueDeadLetters) := by
  have hrun : ({} : JobQueues).machine.run ⟨{}, []⟩ failedJob = some afterFailedJob :=
    eq_some_getD (by decide +kernel)
  exact ⟨by decide +kernel, (published_job_in_one_place {} hrun).2.1⟩

end Example

end Iara.Messaging
