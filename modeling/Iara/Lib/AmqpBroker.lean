import Iara.Lib.AmqpTopology
import Iara.Lib.Machine

/-!
# Message brokers

What a broker does with the messages it is given: it routes them, hands them to channels, and
dead-letters what a queue rejects or keeps too long.

* `contents_step`: where no exchange has two bindings, a message is in one place;
* `Keeps.step`: the queues that messages can get to at all.
-/

namespace Iara.Lib

namespace Amqp

/-- A message in a queue, with the key it was published with. -/
structure Entry (μ : Type*) where
  queue : String
  routingKey : String
  message : μ
  deriving DecidableEq, Repr

structure Broker (μ : Type*) where
  topology : Topology := {}
  ready : List (Entry μ) := []
  /-- What the channels hold, each by its number. -/
  unacked : List (Nat × Entry μ) := []
  acked : List μ := []
  /-- What got to no queue, or was let go by a queue without a dead-letter exchange. -/
  lost : List μ := []

inductive Action (μ : Type*) where
  | declare (s : Statement)
  | publish (exchange routingKey : String) (message : μ)
  | deliver (channel i : Nat)
  | ack (i : Nat)
  | reject (i : Nat) (requeue : Bool)
  /-- The time of a message in its queue is over. -/
  | expire (i : Nat)
  /-- A channel ends, and what it holds is put back. -/
  | close (channel : Nat)
  deriving DecidableEq, Repr

namespace Broker

variable {μ : Type*}

def route (b : Broker μ) (exchange routingKey : String) (message : μ) : Broker μ :=
  match b.topology.routes exchange routingKey with
  | [] => { b with lost := b.lost ++ [message] }
  | queues =>
      { b with
        ready := b.ready ++ queues.map fun queue =>
          { queue := queue, routingKey := routingKey, message := message } }

/-- A message that its queue lets go keeps its routing key. -/
def deadLetter (b : Broker μ) (e : Entry μ) : Broker μ :=
  match (b.topology.queues.lookup e.queue).bind QueueArguments.deadLetterExchange with
  | none => { b with lost := b.lost ++ [e.message] }
  | some exchange => b.route exchange e.routingKey e.message

def expires (b : Broker μ) (e : Entry μ) : Bool :=
  ((b.topology.queues.lookup e.queue).bind QueueArguments.messageTtl).isSome

def step (b : Broker μ) : Action μ → Option (Broker μ)
  | .declare s => (b.topology.declare s).map fun t => { b with topology := t }
  | .publish exchange routingKey message =>
      if (b.topology.exchanges.lookup exchange).isSome then
        some (b.route exchange routingKey message)
      else none
  | .deliver channel i =>
      (b.ready[i]?).map fun e =>
        { b with ready := b.ready.eraseIdx i, unacked := b.unacked ++ [(channel, e)] }
  | .ack i =>
      (b.unacked[i]?).map fun held =>
        { b with unacked := b.unacked.eraseIdx i, acked := b.acked ++ [held.2.message] }
  | .reject i requeue =>
      (b.unacked[i]?).map fun held =>
        let rest : Broker μ := { b with unacked := b.unacked.eraseIdx i }
        if requeue then { rest with ready := rest.ready ++ [held.2] } else rest.deadLetter held.2
  | .expire i =>
      match b.ready[i]? with
      | none => none
      | some e =>
          let rest : Broker μ := { b with ready := b.ready.eraseIdx i }
          if b.expires e then some (rest.deadLetter e) else none
  | .close channel =>
      some
        { b with
          ready := b.ready ++ (b.unacked.filter fun held => held.1 = channel).map Prod.snd
          unacked := b.unacked.filter fun held => held.1 ≠ channel }

def machine : Machine (Broker μ) (Action μ) where
  step := step

/-! ## Where a message is -/

def messages (entries : List (Entry μ)) : Multiset μ := (entries.map Entry.message : List μ)

def contents (b : Broker μ) : Multiset μ :=
  messages b.ready + messages (b.unacked.map Prod.snd) + (b.acked : Multiset μ) +
    (b.lost : Multiset μ)

@[simp] theorem messages_append (as bs : List (Entry μ)) :
    messages (as ++ bs) = messages as + messages bs := by
  unfold messages
  rw [List.map_append, Multiset.coe_add]

@[simp] theorem messages_singleton (e : Entry μ) : messages [e] = {e.message} := rfl

theorem messages_eraseIdx {entries : List (Entry μ)} {i : Nat} {e : Entry μ}
    (h : entries[i]? = some e) :
    messages entries = {e.message} + messages (entries.eraseIdx i) := by
  obtain ⟨hlt, rfl⟩ := List.getElem?_eq_some_iff.1 h
  have hperm := (List.getElem_cons_eraseIdx_perm hlt).map Entry.message
  unfold messages
  rw [← Multiset.coe_eq_coe.2 hperm, List.map_cons, ← Multiset.cons_coe, Multiset.singleton_add]

/-- Where no exchange has two bindings, a message is put in one place. -/
theorem contents_route {b : Broker μ} (hb : b.topology.SingleBinding)
    (exchange routingKey : String) (message : μ) :
    (b.route exchange routingKey message).contents = {message} + b.contents := by
  have hle := Topology.length_routes_le hb exchange routingKey
  unfold route contents
  match b.topology.routes exchange routingKey, hle with
  | [], _ =>
      rw [← Multiset.coe_add, Multiset.coe_singleton]
      abel
  | [queue], _ =>
      simp only [List.map_singleton, messages_append, messages_singleton]
      abel

theorem contents_deadLetter {b : Broker μ} (hb : b.topology.SingleBinding) (e : Entry μ) :
    (b.deadLetter e).contents = {e.message} + b.contents := by
  unfold deadLetter
  split
  next =>
    unfold contents
    rw [← Multiset.coe_add, Multiset.coe_singleton]
    abel
  next exchange _ => exact contents_route hb exchange e.routingKey e.message

/-- What an action brings in. -/
def Action.published : Action μ → Multiset μ
  | .publish _ _ message => {message}
  | _ => 0

/-- Publishing brings a message in; whatever else happens, every message stays where it is or
moves to one other place. -/
theorem contents_step {b b' : Broker μ} {a : Action μ} (hb : b.topology.SingleBinding)
    (h : b.step a = some b') : b'.contents = Action.published a + b.contents := by
  cases a with
  | declare s =>
      obtain ⟨t, -, rfl⟩ := Option.map_eq_some_iff.1 h
      exact (zero_add _).symm
  | publish exchange routingKey message =>
      rw [step] at h
      split at h
      next =>
        cases h
        exact contents_route hb exchange routingKey message
      next => cases h
  | deliver channel i =>
      obtain ⟨e, he, rfl⟩ := Option.map_eq_some_iff.1 h
      unfold contents
      rw [messages_eraseIdx he, List.map_append, messages_append, List.map_singleton,
        messages_singleton]
      change _ = 0 + _
      abel
  | ack i =>
      obtain ⟨held, hheld, rfl⟩ := Option.map_eq_some_iff.1 h
      have hentry : (b.unacked.map Prod.snd)[i]? = some held.2 := by
        rw [List.getElem?_map, hheld, Option.map_some]
      have hsplit := messages_eraseIdx hentry
      unfold contents
      rw [hsplit, List.eraseIdx_map, ← Multiset.coe_add, Multiset.coe_singleton]
      change _ = 0 + _
      abel
  | reject i requeue =>
      obtain ⟨held, hheld, rfl⟩ := Option.map_eq_some_iff.1 h
      have hentry : (b.unacked.map Prod.snd)[i]? = some held.2 := by
        rw [List.getElem?_map, hheld, Option.map_some]
      have hsplit := messages_eraseIdx hentry
      have hcontents : b.contents = {held.2.message} +
          ({ b with unacked := b.unacked.eraseIdx i } : Broker μ).contents := by
        unfold contents
        rw [hsplit, List.eraseIdx_map]
        abel
      rw [hcontents]
      change _ = 0 + _
      rw [zero_add]
      cases requeue with
      | true =>
          unfold contents
          rw [if_pos rfl, messages_append, messages_singleton]
          abel
      | false =>
          exact contents_deadLetter (b := { b with unacked := b.unacked.eraseIdx i }) hb held.2
  | expire i =>
      rw [step] at h
      split at h
      next => cases h
      next e he =>
        split at h
        next =>
          cases h
          rw [contents_deadLetter (b := { b with ready := b.ready.eraseIdx i }) hb]
          unfold contents
          rw [messages_eraseIdx he]
          change _ = 0 + _
          abel
        next => cases h
  | close channel =>
      cases h
      have hperm := (List.filter_append_perm (fun held => decide (held.1 = channel)) b.unacked).map
        fun held => held.2.message
      have hsplit : messages (b.unacked.map Prod.snd) =
          messages ((b.unacked.filter fun held => held.1 = channel).map Prod.snd) +
            messages ((b.unacked.filter fun held => held.1 ≠ channel).map Prod.snd) := by
        unfold messages
        rw [Multiset.coe_add, Multiset.coe_eq_coe, List.map_map, List.map_map, List.map_map,
          ← List.map_append]
        simpa [Function.comp_def] using hperm.symm
      unfold contents
      rw [messages_append, hsplit]
      change _ = 0 + _
      abel

/-! ## Which queues messages get to -/

/-- What enters `exchanges` is kept in `queues`, which let go to `exchanges` only. -/
structure Carries (schema : List Statement) (exchanges queues : String → Prop) : Prop where
  bound : ∀ b : Binding, Statement.bind b ∈ schema → exchanges b.exchange → queues b.queue
  deadLetters : ∀ name arguments exchange, Statement.queue name arguments ∈ schema → queues name →
    arguments.deadLetterExchange = some exchange → exchanges exchange

/-- Everything in the broker is in one of the queues. -/
def Keeps (b : Broker μ) (queues : String → Prop) : Prop :=
  (∀ e ∈ b.ready, queues e.queue) ∧ ∀ held ∈ b.unacked, queues held.2.queue

variable {b b' : Broker μ} {schema : List Statement} {exchanges queues : String → Prop}

theorem Keeps.route (h : b.Keeps queues) (hw : b.topology.Within schema)
    (hc : Carries schema exchanges queues) {exchange : String} (hexchange : exchanges exchange)
    (routingKey : String) (message : μ) : (b.route exchange routingKey message).Keeps queues := by
  unfold Broker.route
  split
  next => exact h
  next names hroutes =>
    refine ⟨?_, h.2⟩
    intro e he
    rcases List.mem_append.1 he with hold | hnew
    · exact h.1 e hold
    · obtain ⟨queue, hqueue, rfl⟩ := List.mem_map.1 hnew
      obtain ⟨binding, hbinding, hbe, rfl⟩ := Topology.mem_routes hqueue
      exact hc.bound binding (hw.bindings binding hbinding) (hbe.symm ▸ hexchange)

theorem Keeps.deadLetter (h : b.Keeps queues) (hw : b.topology.Within schema)
    (hc : Carries schema exchanges queues) {e : Entry μ} (he : queues e.queue) :
    (b.deadLetter e).Keeps queues := by
  unfold Broker.deadLetter
  split
  next => exact h
  next exchange hlookup =>
    obtain ⟨arguments, harguments, hexchange⟩ := Option.bind_eq_some_iff.1 hlookup
    have hmem := hw.queues _ (mem_of_lookup_eq_some harguments)
    exact h.route hw hc (hc.deadLetters _ _ _ hmem he hexchange) _ _

theorem Keeps.step (h : b.Keeps queues) (hw : b.topology.Within schema)
    (hc : Carries schema exchanges queues) {a : Action μ}
    (hpublish : ∀ exchange routingKey message, a = .publish exchange routingKey message →
      exchanges exchange) (hstep : b.step a = some b') : b'.Keeps queues := by
  have herase : ∀ i, ({ b with ready := b.ready.eraseIdx i } : Broker μ).Keeps queues :=
    fun i => ⟨fun e he => h.1 e (List.mem_of_mem_eraseIdx he), h.2⟩
  have herase' : ∀ i, ({ b with unacked := b.unacked.eraseIdx i } : Broker μ).Keeps queues :=
    fun i => ⟨h.1, fun held hheld => h.2 held (List.mem_of_mem_eraseIdx hheld)⟩
  cases a with
  | declare s =>
      obtain ⟨t, -, rfl⟩ := Option.map_eq_some_iff.1 hstep
      exact h
  | publish exchange routingKey message =>
      rw [Broker.step] at hstep
      split at hstep
      next =>
        cases hstep
        exact h.route hw hc (hpublish _ _ _ rfl) routingKey message
      next => cases hstep
  | deliver channel i =>
      obtain ⟨e, he, rfl⟩ := Option.map_eq_some_iff.1 hstep
      refine ⟨(herase i).1, ?_⟩
      intro held hheld
      rcases List.mem_append.1 hheld with hold | hnew
      · exact h.2 held hold
      · rw [List.mem_singleton.1 hnew]
        exact h.1 e (List.mem_of_getElem? he)
  | ack i =>
      obtain ⟨held, -, rfl⟩ := Option.map_eq_some_iff.1 hstep
      exact herase' i
  | reject i requeue =>
      obtain ⟨held, hheld, rfl⟩ := Option.map_eq_some_iff.1 hstep
      have hqueue := h.2 held (List.mem_of_getElem? hheld)
      cases requeue with
      | true =>
          refine ⟨?_, (herase' i).2⟩
          intro e he
          rcases List.mem_append.1 he with hold | hnew
          · exact h.1 e hold
          · rw [List.mem_singleton.1 hnew]
            exact hqueue
      | false => exact (herase' i).deadLetter hw hc hqueue
  | expire i =>
      rw [Broker.step] at hstep
      split at hstep
      next => cases hstep
      next e he =>
        dsimp only at hstep
        split at hstep
        next =>
          cases hstep
          exact (herase i).deadLetter hw hc (h.1 e (List.mem_of_getElem? he))
        next => cases hstep
  | close channel =>
      cases hstep
      constructor
      · intro e he
        rcases List.mem_append.1 he with hold | hback
        · exact h.1 e hold
        · obtain ⟨held, hheld, rfl⟩ := List.mem_map.1 hback
          exact h.2 held (List.mem_filter.1 hheld).1
      · intro held hheld
        exact h.2 held (List.mem_filter.1 hheld).1

/-! ## Where a routed message goes -/

/-- With the one binding of its exchange, a message gets to the one queue. -/
theorem route_of_binding {binding : Binding} {type : ExchangeType} {routingKey : String}
    (hsingle : b.topology.SingleBinding) (hbinding : binding ∈ b.topology.bindings)
    (htype : b.topology.exchanges.lookup binding.exchange = some type)
    (hadmits : Topology.admits type binding routingKey = true) (message : μ) :
    b.route binding.exchange routingKey message =
      { b with ready := b.ready ++
        [{ queue := binding.queue, routingKey := routingKey, message := message }] } := by
  have hmem := Topology.mem_routes_of_binding hbinding htype hadmits
  have hle := Topology.length_routes_le hsingle binding.exchange routingKey
  unfold route
  match b.topology.routes binding.exchange routingKey, hmem, hle with
  | [queue], hmem, _ =>
      rw [List.mem_singleton.1 hmem]
      rfl

end Broker

end Amqp

end Iara.Lib
