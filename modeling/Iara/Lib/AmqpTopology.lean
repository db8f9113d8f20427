import Mathlib

/-!
# Topologies of message brokers

Exchanges, queues and bindings as clients declare them.

* `declare_has` and `Has.declare`: what was declared stays declared, in any order;
* `declare_isSome`: clients that agree on what they declare never get in each other's way;
* `length_routes_le`: where no exchange has two bindings, no message is copied.
-/

namespace Iara.Lib

namespace Amqp

inductive ExchangeType where
  | fanout
  | topic
  deriving DecidableEq, Repr

/-- The arguments of a queue that change what becomes of its messages. -/
structure QueueArguments where
  messageTtl : Option Nat := none
  deadLetterExchange : Option String := none
  deriving DecidableEq, Repr

structure Binding where
  exchange : String
  queue : String
  routingKey : String := ""
  deriving DecidableEq, Repr

structure Topology where
  exchanges : List (String × ExchangeType) := []
  queues : List (String × QueueArguments) := []
  bindings : List Binding := []
  deriving DecidableEq, Repr

inductive Statement where
  | exchange (name : String) (type : ExchangeType)
  | queue (name : String) (arguments : QueueArguments)
  | bind (binding : Binding)
  deriving DecidableEq, Repr

theorem mem_of_lookup_eq_some {α : Type} {entries : List (String × α)} {name : String} {value : α}
    (h : entries.lookup name = some value) : (name, value) ∈ entries := by
  obtain ⟨before, after, rfl, -⟩ := List.lookup_eq_some_iff.1 h
  exact List.mem_append_right _ List.mem_cons_self

/-- An entry under a name that is new, or the entry that the name has already. -/
def declareEntry {α : Type} [DecidableEq α] (entries : List (String × α)) (name : String)
    (value : α) : Option (List (String × α)) :=
  match entries.lookup name with
  | none => some (entries ++ [(name, value)])
  | some found => if found = value then some entries else none

namespace Topology

/-- `none` closes the channel: the name is declared otherwise, or there is nothing to bind. -/
def declare (t : Topology) : Statement → Option Topology
  | .exchange name type =>
      (declareEntry t.exchanges name type).map fun exchanges => { t with exchanges := exchanges }
  | .queue name arguments =>
      (declareEntry t.queues name arguments).map fun queues => { t with queues := queues }
  | .bind binding =>
      if (t.exchanges.lookup binding.exchange).isSome && (t.queues.lookup binding.queue).isSome then
        some
          { t with
            bindings :=
              if binding ∈ t.bindings then t.bindings else t.bindings ++ [binding] }
      else none

/-- The words of a routing key. -/
def words (routingKey : String) : List (List Char) := routingKey.toList.splitOn '.'

/-- The pattern of a topic binding: `*` stands for a word and `#` for any number of them. -/
def matchesTopic : List (List Char) → List (List Char) → Bool
  | [], words => words.isEmpty
  | part :: pattern, words =>
      if part = ['#'] then words.tails.any fun rest => matchesTopic pattern rest
      else
        match words with
        | [] => false
        | word :: rest => (part = ['*'] || part = word) && matchesTopic pattern rest

/-- Whether a message with the key goes over the binding. -/
def admits (type : ExchangeType) (binding : Binding) (routingKey : String) : Bool :=
  match type with
  | .fanout => true
  | .topic => matchesTopic (words binding.routingKey) (words routingKey)

/-- The queues a message gets to. -/
def routes (t : Topology) (exchange routingKey : String) : List String :=
  match t.exchanges.lookup exchange with
  | none => []
  | some type =>
      ((t.bindings.filter fun b => b.exchange = exchange && admits type b routingKey).map
        Binding.queue).dedup

/-- No exchange has two bindings, so no message is copied. -/
def SingleBinding (t : Topology) : Prop := (t.bindings.map Binding.exchange).Nodup

theorem mem_routes {t : Topology} {exchange routingKey queue : String}
    (h : queue ∈ t.routes exchange routingKey) :
    ∃ b ∈ t.bindings, b.exchange = exchange ∧ b.queue = queue := by
  unfold routes at h
  split at h
  next => cases h
  next =>
    obtain ⟨b, hb, rfl⟩ := List.mem_map.1 (List.mem_dedup.1 h)
    obtain ⟨hmem, hcond⟩ := List.mem_filter.1 hb
    rw [Bool.and_eq_true, decide_eq_true_eq] at hcond
    exact ⟨b, hmem, hcond.1, rfl⟩

theorem mem_routes_of_binding {t : Topology} {b : Binding} {type : ExchangeType}
    {routingKey : String} (hb : b ∈ t.bindings) (htype : t.exchanges.lookup b.exchange = some type)
    (hadmits : admits type b routingKey = true) : b.queue ∈ t.routes b.exchange routingKey := by
  unfold routes
  rw [htype]
  apply List.mem_dedup.2
  apply List.mem_map_of_mem
  exact List.mem_filter.2 ⟨hb, by rw [hadmits, Bool.and_true, decide_eq_true rfl]⟩

theorem length_routes_le {t : Topology} (h : t.SingleBinding) (exchange routingKey : String) :
    (t.routes exchange routingKey).length ≤ 1 := by
  have hnodup : (t.routes exchange routingKey).Nodup := by
    unfold routes
    split
    · exact List.nodup_nil
    · exact List.nodup_dedup _
  have hsame : ∀ p ∈ t.routes exchange routingKey, ∀ q ∈ t.routes exchange routingKey, p = q := by
    intro p hp q hq
    obtain ⟨b, hb, hbe, rfl⟩ := mem_routes hp
    obtain ⟨c, hc, hce, rfl⟩ := mem_routes hq
    rw [List.inj_on_of_nodup_map h hb hc (hbe.trans hce.symm)]
  match hroutes : t.routes exchange routingKey with
  | [] => exact Nat.zero_le 1
  | [q] => exact Nat.le_refl 1
  | p :: q :: rest =>
      rw [hroutes] at hnodup hsame
      have heq := hsame p List.mem_cons_self q (List.mem_cons_of_mem _ List.mem_cons_self)
      rw [heq] at hnodup
      exact absurd List.mem_cons_self (List.nodup_cons.1 hnodup).1

/-! ## Declaring -/

/-- The statement has been made, by whoever it was. -/
def Has (t : Topology) : Statement → Prop
  | .exchange name type => t.exchanges.lookup name = some type
  | .queue name arguments => t.queues.lookup name = some arguments
  | .bind binding => binding ∈ t.bindings

section Entries

variable {α : Type} [DecidableEq α] {entries entries' : List (String × α)} {name : String}
  {value : α}

theorem lookup_declareEntry (h : declareEntry entries name value = some entries') :
    entries'.lookup name = some value ∧
      ∀ other found, entries.lookup other = some found → entries'.lookup other = some found := by
  unfold declareEntry at h
  split at h
  next hnew =>
    cases h
    constructor
    · rw [List.lookup_append, hnew]
      simp
    · intro other found hfound
      rw [List.lookup_append, hfound]
      rfl
  next found hold =>
    split at h
    next heq =>
      cases h
      exact ⟨heq ▸ hold, fun other found hfound => hfound⟩
    next => cases h

theorem mem_declareEntry (h : declareEntry entries name value = some entries')
    {entry : String × α} (hentry : entry ∈ entries') :
    entry ∈ entries ∨ entry = (name, value) := by
  unfold declareEntry at h
  split at h
  next =>
    cases h
    rcases List.mem_append.1 hentry with hold | hnew
    · exact .inl hold
    · exact .inr (List.mem_singleton.1 hnew)
  next =>
    split at h
    next => cases h; exact .inl hentry
    next => cases h

theorem declareEntry_isSome (h : ∀ found, (name, found) ∈ entries → found = value) :
    (declareEntry entries name value).isSome = true := by
  unfold declareEntry
  split
  next => rfl
  next found hfound =>
    rw [if_pos (h found (mem_of_lookup_eq_some hfound))]
    rfl

end Entries

variable {t t' : Topology} {s : Statement}

theorem declare_has (h : t.declare s = some t') : t'.Has s := by
  cases s with
  | exchange name type =>
      obtain ⟨exchanges, hentry, rfl⟩ := Option.map_eq_some_iff.1 h
      exact (lookup_declareEntry hentry).1
  | queue name arguments =>
      obtain ⟨queues, hentry, rfl⟩ := Option.map_eq_some_iff.1 h
      exact (lookup_declareEntry hentry).1
  | bind binding =>
      rw [declare] at h
      split at h
      next =>
        cases h
        change binding ∈ if binding ∈ t.bindings then t.bindings else t.bindings ++ [binding]
        split
        next hmem => exact hmem
        next => exact List.mem_append_right _ List.mem_cons_self
      next => cases h

/-- Declarations take nothing back. -/
theorem Has.declare {s' : Statement} (hs : t.Has s') (h : t.declare s = some t') : t'.Has s' := by
  cases s with
  | exchange name type =>
      obtain ⟨exchanges, hentry, rfl⟩ := Option.map_eq_some_iff.1 h
      cases s' with
      | exchange other found => exact (lookup_declareEntry hentry).2 other found hs
      | queue other found => exact hs
      | bind binding => exact hs
  | queue name arguments =>
      obtain ⟨queues, hentry, rfl⟩ := Option.map_eq_some_iff.1 h
      cases s' with
      | exchange other found => exact hs
      | queue other found => exact (lookup_declareEntry hentry).2 other found hs
      | bind binding => exact hs
  | bind binding =>
      rw [Topology.declare] at h
      split at h
      next =>
        cases h
        cases s' with
        | exchange other found => exact hs
        | queue other found => exact hs
        | bind other =>
            change other ∈ if binding ∈ t.bindings then t.bindings else t.bindings ++ [binding]
            split
            next => exact hs
            next => exact List.mem_append_left _ hs
      next => cases h

/-- Nothing is declared but by these statements. -/
structure Within (t : Topology) (schema : List Statement) : Prop where
  exchanges : ∀ entry ∈ t.exchanges, .exchange entry.1 entry.2 ∈ schema
  queues : ∀ entry ∈ t.queues, .queue entry.1 entry.2 ∈ schema
  bindings : ∀ binding ∈ t.bindings, .bind binding ∈ schema

theorem within_empty (schema : List Statement) : ({} : Topology).Within schema where
  exchanges := List.forall_mem_nil _
  queues := List.forall_mem_nil _
  bindings := List.forall_mem_nil _

theorem Within.declare {schema : List Statement} (hw : t.Within schema) (hs : s ∈ schema)
    (h : t.declare s = some t') : t'.Within schema := by
  cases s with
  | exchange name type =>
      obtain ⟨exchanges, hentry, rfl⟩ := Option.map_eq_some_iff.1 h
      refine ⟨?_, hw.queues, hw.bindings⟩
      intro entry hmem
      rcases mem_declareEntry hentry hmem with hold | rfl
      · exact hw.exchanges entry hold
      · exact hs
  | queue name arguments =>
      obtain ⟨queues, hentry, rfl⟩ := Option.map_eq_some_iff.1 h
      refine ⟨hw.exchanges, ?_, hw.bindings⟩
      intro entry hmem
      rcases mem_declareEntry hentry hmem with hold | rfl
      · exact hw.queues entry hold
      · exact hs
  | bind binding =>
      rw [Topology.declare] at h
      split at h
      next =>
        cases h
        refine ⟨hw.exchanges, hw.queues, ?_⟩
        intro other hmem
        dsimp only at hmem
        split at hmem
        next => exact hw.bindings other hmem
        next =>
          rcases List.mem_append.1 hmem with hold | hnew
          · exact hw.bindings other hold
          · rw [List.mem_singleton.1 hnew]
            exact hs
      next => cases h

/-- The statements give no name two meanings. -/
structure Consistent (schema : List Statement) : Prop where
  exchanges : ∀ name type type', Statement.exchange name type ∈ schema →
    .exchange name type' ∈ schema → type = type'
  queues : ∀ name arguments arguments', Statement.queue name arguments ∈ schema →
    .queue name arguments' ∈ schema → arguments = arguments'

/-- What a statement builds on. -/
def Ready (t : Topology) : Statement → Prop
  | .bind binding => (t.exchanges.lookup binding.exchange).isSome = true ∧
      (t.queues.lookup binding.queue).isSome = true
  | _ => True

/-- A statement that is agreed on and has what it builds on is never refused. -/
theorem declare_isSome {schema : List Statement} (hc : Consistent schema) (hw : t.Within schema)
    (hs : s ∈ schema) (hready : t.Ready s) : (t.declare s).isSome = true := by
  cases s with
  | exchange name type =>
      rw [Topology.declare, Option.isSome_map]
      apply declareEntry_isSome
      intro found hmem
      exact hc.exchanges name found type (hw.exchanges _ hmem) hs
  | queue name arguments =>
      rw [Topology.declare, Option.isSome_map]
      apply declareEntry_isSome
      intro found hmem
      exact hc.queues name found arguments (hw.queues _ hmem) hs
  | bind binding =>
      rw [Topology.declare, if_pos (by rw [hready.1, hready.2]; rfl)]
      rfl

theorem SingleBinding.declare {schema : List Statement} (h : t.SingleBinding)
    (hw : t.Within schema) (hs : s ∈ schema)
    (hschema : ∀ b b' : Binding, Statement.bind b ∈ schema → Statement.bind b' ∈ schema →
      b.exchange = b'.exchange → b = b') (hdeclare : t.declare s = some t') : t'.SingleBinding := by
  cases s with
  | exchange name type =>
      obtain ⟨exchanges, -, rfl⟩ := Option.map_eq_some_iff.1 hdeclare
      exact h
  | queue name arguments =>
      obtain ⟨queues, -, rfl⟩ := Option.map_eq_some_iff.1 hdeclare
      exact h
  | bind binding =>
      rw [Topology.declare] at hdeclare
      split at hdeclare
      next =>
        cases hdeclare
        change ((if binding ∈ t.bindings then t.bindings else t.bindings ++ [binding]).map
          Binding.exchange).Nodup
        split
        next => exact h
        next hnew =>
          rw [List.map_append, List.map_singleton]
          refine List.nodup_append.2 ⟨h, List.nodup_singleton _, ?_⟩
          rintro exchange hexchange _ hmem rfl
          rw [List.mem_singleton] at hmem
          obtain ⟨b, hb, hbe⟩ := List.mem_map.1 hexchange
          have heq := hschema b binding (hw.bindings b hb) hs (hbe.trans hmem)
          exact hnew (heq ▸ hb)
      next => cases hdeclare

end Topology

end Amqp

end Iara.Lib
