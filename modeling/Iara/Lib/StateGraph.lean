import Mathlib.Algebra.GroupWithZero.Nat
import Mathlib.Data.List.Basic

/-!
# State graphs with checkpoints

A state graph executes one node at a time.  A node reads the state, may act on
the world, and returns an update that is merged into the state; the edge
function then names the next node.  The states after each node are what a
checkpointer persists, and a later run on the same thread starts from the last
of them.

`execute` lists the visits of a run.  Its rules:

* `visits_invariant`, `take_invariant`: what the edges preserve holds at every
  visit;
* `visits_preserve`: what every superstep preserves holds before and after it;
* `exists_suffix_of_mem`: the visits from one visit on are the run from there;
* `eq_first_or_exists_pred`, `isChain_execute`: every other visit comes over an
  edge;
* `route_of_last`: how a run ends;
* `length_visits_le_one`: a node that no edge leads back to is visited once at most;
* `Budget.sum_le`, `Budget.terminates`: what a budget pays for is bounded, and a
  run on a budget of visits ends.
-/

namespace Iara.Lib

inductive Next (ν : Type*) where
  | goto (n : ν)
  | finish
  deriving DecidableEq, Repr

/-- `route` is `none` where the edge function returns a label that its path map
does not declare: the run raises there. -/
structure StateGraph (ν σ υ ω : Type*) where
  entry : ν
  node : ν → σ → ω → υ × ω
  merge : σ → υ → σ
  route : ν → σ → Option (Next ν)

structure Visit (ν σ ω : Type*) where
  node : ν
  pre : σ
  worldBefore : ω
  post : σ
  worldAfter : ω

inductive Ending where
  | finished
  | routingError
  | recursionLimit
  deriving DecidableEq, Repr

namespace StateGraph

variable {ν σ υ ω : Type*} (g : StateGraph ν σ υ ω)

def superstep (n : ν) (s : σ) (w : ω) : Visit ν σ ω :=
  let r := g.node n s w
  ⟨n, s, w, g.merge s r.1, r.2⟩

@[simp] theorem node_superstep (n : ν) (s : σ) (w : ω) : (g.superstep n s w).node = n := rfl
@[simp] theorem pre_superstep (n : ν) (s : σ) (w : ω) : (g.superstep n s w).pre = s := rfl
@[simp] theorem worldBefore_superstep (n : ν) (s : σ) (w : ω) :
    (g.superstep n s w).worldBefore = w := rfl

/-- Run from a node for at most `limit` supersteps. -/
def execute : Nat → ν → σ → ω → List (Visit ν σ ω) × Ending
  | 0, _, _, _ => ([], .recursionLimit)
  | limit + 1, n, s, w =>
      let v := g.superstep n s w
      match g.route n v.post with
      | none => ([v], .routingError)
      | some .finish => ([v], .finished)
      | some (.goto n') =>
          let rest := execute limit n' v.post v.worldAfter
          (v :: rest.1, rest.2)

theorem execute_goto {limit : Nat} {n n' : ν} {s : σ} {w : ω}
    (h : g.route n (g.superstep n s w).post = some (.goto n')) :
    g.execute (limit + 1) n s w =
      (g.superstep n s w ::
          (g.execute limit n' (g.superstep n s w).post (g.superstep n s w).worldAfter).1,
        (g.execute limit n' (g.superstep n s w).post (g.superstep n s w).worldAfter).2) := by
  rw [execute, h]

theorem execute_finish {limit : Nat} {n : ν} {s : σ} {w : ω}
    (h : g.route n (g.superstep n s w).post = some .finish) :
    g.execute (limit + 1) n s w = ([g.superstep n s w], .finished) := by
  rw [execute, h]

theorem execute_routingError {limit : Nat} {n : ν} {s : σ} {w : ω}
    (h : g.route n (g.superstep n s w).post = none) :
    g.execute (limit + 1) n s w = ([g.superstep n s w], .routingError) := by
  rw [execute, h]

/-- The first visit of a run is the node it starts at; what follows is nothing,
or the run from where the edge leads. -/
theorem execute_succ_head (limit : Nat) (n : ν) (s : σ) (w : ω) :
    ∃ rest, (g.execute (limit + 1) n s w).1 = g.superstep n s w :: rest ∧
      (rest = [] ∨ ∃ n', rest =
        (g.execute limit n' (g.superstep n s w).post (g.superstep n s w).worldAfter).1) := by
  cases h : g.route n (g.superstep n s w).post with
  | none => exact ⟨[], by rw [g.execute_routingError h], Or.inl rfl⟩
  | some next =>
      cases next with
      | finish => exact ⟨[], by rw [g.execute_finish h], Or.inl rfl⟩
      | goto n' => exact ⟨_, by rw [g.execute_goto h], Or.inr ⟨n', rfl⟩⟩

/-- What holds at the start and is carried along every edge holds at every visit. -/
theorem visits_invariant {P : ν → σ → ω → Prop}
    (hstep : ∀ n s w n', P n s w → g.route n (g.superstep n s w).post = some (.goto n') →
      P n' (g.superstep n s w).post (g.superstep n s w).worldAfter)
    {limit : Nat} {n : ν} {s : σ} {w : ω} (hstart : P n s w) :
    ∀ v ∈ (g.execute limit n s w).1,
      P v.node v.pre v.worldBefore ∧ v = g.superstep v.node v.pre v.worldBefore := by
  induction limit generalizing n s w with
  | zero => simp [execute]
  | succ limit ih =>
      intro v hv
      cases h : g.route n (g.superstep n s w).post with
      | none =>
          rw [g.execute_routingError h, List.mem_singleton] at hv
          subst hv
          exact ⟨hstart, rfl⟩
      | some next =>
          cases next with
          | finish =>
              rw [g.execute_finish h, List.mem_singleton] at hv
              subst hv
              exact ⟨hstart, rfl⟩
          | goto n' =>
              rw [g.execute_goto h, List.mem_cons] at hv
              rcases hv with rfl | hv
              · exact ⟨hstart, rfl⟩
              · exact ih (hstep n s w n' hstart h) v hv

/-- What every superstep preserves holds before and after every visit. -/
theorem visits_preserve {P : σ → ω → Prop}
    (hstep : ∀ n s w, P s w → P (g.superstep n s w).post (g.superstep n s w).worldAfter)
    {limit : Nat} {n : ν} {s : σ} {w : ω} (hstart : P s w) :
    ∀ v ∈ (g.execute limit n s w).1, P v.pre v.worldBefore ∧ P v.post v.worldAfter := by
  intro v hv
  obtain ⟨hpre, hself⟩ := g.visits_invariant (P := fun _ s w => P s w)
    (fun n s w _ h _ => hstep n s w h) hstart v hv
  refine ⟨hpre, ?_⟩
  rw [hself]
  exact hstep v.node v.pre v.worldBefore hpre

/-- The same for the first visits of a run, where the edges carry it out of the
visits that have been assumed something of. -/
theorem take_invariant {P : ν → σ → ω → Prop} {Q : Visit ν σ ω → Prop}
    (hstep : ∀ n s w n', P n s w → Q (g.superstep n s w) →
      g.route n (g.superstep n s w).post = some (.goto n') →
      P n' (g.superstep n s w).post (g.superstep n s w).worldAfter)
    {limit k : Nat} {n : ν} {s : σ} {w : ω} (hstart : P n s w)
    (hassumed : ∀ v ∈ (g.execute limit n s w).1.take k, Q v) :
    ∀ v ∈ (g.execute limit n s w).1.take k, P v.node v.pre v.worldBefore := by
  induction limit generalizing k n s w with
  | zero => simp [execute]
  | succ limit ih =>
      cases k with
      | zero => simp
      | succ k =>
          cases h : g.route n (g.superstep n s w).post with
          | none =>
              rw [g.execute_routingError h]
              simpa using hstart
          | some next =>
              cases next with
              | finish =>
                  rw [g.execute_finish h]
                  simpa using hstart
              | goto n' =>
                  rw [g.execute_goto h, List.take_succ_cons] at hassumed ⊢
                  intro v hv
                  rcases List.mem_cons.1 hv with rfl | hv
                  · exact hstart
                  · have hfirst := hassumed _ List.mem_cons_self
                    exact ih (hstep n s w n' hstart hfirst h)
                      (fun u hu => hassumed u (List.mem_cons_of_mem _ hu)) v hv

/-- The visits from a given visit on are the run that starts there. -/
theorem exists_suffix_of_mem {limit : Nat} {n : ν} {s : σ} {w : ω} {v : Visit ν σ ω}
    (hv : v ∈ (g.execute limit n s w).1) :
    ∃ before limit', (g.execute limit n s w).1 =
        before ++ (g.execute (limit' + 1) v.node v.pre v.worldBefore).1 ∧
      (g.execute limit n s w).2 = (g.execute (limit' + 1) v.node v.pre v.worldBefore).2 := by
  induction limit generalizing n s w with
  | zero => simp [execute] at hv
  | succ limit ih =>
      by_cases hself : v = g.superstep n s w
      · subst hself
        exact ⟨[], limit, rfl, rfl⟩
      · cases h : g.route n (g.superstep n s w).post with
        | none =>
            rw [g.execute_routingError h, List.mem_singleton] at hv
            exact absurd hv hself
        | some next =>
            cases next with
            | finish =>
                rw [g.execute_finish h, List.mem_singleton] at hv
                exact absurd hv hself
            | goto n' =>
                rw [g.execute_goto h] at hv ⊢
                have hrest := (List.mem_cons.1 hv).resolve_left hself
                obtain ⟨before, limit', hvisits, hend⟩ := ih hrest
                exact ⟨g.superstep n s w :: before, limit', by simp [hvisits], hend⟩

/-- Every visit but the first comes over an edge from a visit of the run. -/
theorem eq_first_or_exists_pred {limit : Nat} {n : ν} {s : σ} {w : ω} {v : Visit ν σ ω}
    (hv : v ∈ (g.execute limit n s w).1) :
    v = g.superstep n s w ∨ ∃ u ∈ (g.execute limit n s w).1,
      g.route u.node u.post = some (.goto v.node) ∧ v.pre = u.post := by
  induction limit generalizing n s w with
  | zero => simp [execute] at hv
  | succ limit ih =>
      cases h : g.route n (g.superstep n s w).post with
      | none =>
          rw [g.execute_routingError h, List.mem_singleton] at hv
          exact .inl hv
      | some next =>
          cases next with
          | finish =>
              rw [g.execute_finish h, List.mem_singleton] at hv
              exact .inl hv
          | goto n' =>
              rw [g.execute_goto h] at hv ⊢
              rcases List.mem_cons.1 hv with hself | hrest
              · exact .inl hself
              · rcases ih hrest with rfl | ⟨u, hu, hroute, hpre⟩
                · exact .inr ⟨g.superstep n s w, List.mem_cons_self, h, rfl⟩
                · exact .inr ⟨u, List.mem_cons_of_mem _ hu, hroute, hpre⟩

/-- The second visit starts where the edge out of the first one leads. -/
structure Follows (u v : Visit ν σ ω) : Prop where
  route : g.route u.node u.post = some (.goto v.node)
  pre : v.pre = u.post
  worldBefore : v.worldBefore = u.worldAfter

theorem isChain_execute (limit : Nat) (n : ν) (s : σ) (w : ω) :
    List.IsChain g.Follows (g.execute limit n s w).1 := by
  induction limit generalizing n s w with
  | zero => exact .nil
  | succ limit ih =>
      cases h : g.route n (g.superstep n s w).post with
      | none =>
          rw [g.execute_routingError h]
          exact .singleton _
      | some next =>
          cases next with
          | finish =>
              rw [g.execute_finish h]
              exact .singleton _
          | goto n' =>
              rw [g.execute_goto h]
              have hrest := ih n' (g.superstep n s w).post (g.superstep n s w).worldAfter
              cases limit with
              | zero => exact .singleton _
              | succ limit =>
                  obtain ⟨rest, hcons, -⟩ := g.execute_succ_head limit n'
                    (g.superstep n s w).post (g.superstep n s w).worldAfter
                  rw [hcons] at hrest ⊢
                  exact .cons_cons ⟨h, rfl, rfl⟩ hrest

/-- How a run ends is what the edge out of its last visit says. -/
theorem route_of_last {limit : Nat} {n : ν} {s : σ} {w : ω} {v : Visit ν σ ω}
    (h : (g.execute limit n s w).1.getLast? = some v) :
    ((g.execute limit n s w).2 = .routingError ∧ g.route v.node v.post = none) ∨
      ((g.execute limit n s w).2 = .finished ∧ g.route v.node v.post = some .finish) ∨
      (g.execute limit n s w).2 = .recursionLimit := by
  induction limit generalizing n s w with
  | zero => exact .inr (.inr rfl)
  | succ limit ih =>
      cases hnext : g.route n (g.superstep n s w).post with
      | none =>
          rw [g.execute_routingError hnext] at h ⊢
          obtain rfl := Option.some.inj h
          exact .inl ⟨rfl, hnext⟩
      | some next =>
          cases next with
          | finish =>
              rw [g.execute_finish hnext] at h ⊢
              obtain rfl := Option.some.inj h
              exact .inr (.inl ⟨rfl, hnext⟩)
          | goto n' =>
              rw [g.execute_goto hnext] at h ⊢
              cases limit with
              | zero => exact .inr (.inr rfl)
              | succ limit =>
                  refine ih ?_
                  obtain ⟨rest, hcons, -⟩ := g.execute_succ_head limit n'
                    (g.superstep n s w).post (g.superstep n s w).worldAfter
                  rw [hcons] at h ⊢
                  rwa [List.getLast?_cons_cons] at h

/-- A node is visited once at most, if no edge leads back to it: the edges out of it lead to later
nodes, and from there to later ones again. -/
theorem length_visits_le_one [DecidableEq ν] {q : ν} {later : ν → Prop} (hq : ¬ later q)
    (hstep : ∀ n s n', n = q ∨ later n → g.route n s = some (.goto n') → later n')
    (limit : Nat) (n : ν) (s : σ) (w : ω) :
    ((g.execute limit n s w).1.filter fun v => v.node = q).length ≤ 1 := by
  induction limit generalizing n s w with
  | zero => exact Nat.zero_le _
  | succ limit ih =>
      cases h : g.route n (g.superstep n s w).post with
      | none =>
          rw [g.execute_routingError h]
          exact List.length_filter_le _ _
      | some next =>
          cases next with
          | finish =>
              rw [g.execute_finish h]
              exact List.length_filter_le _ _
          | goto n' =>
              rw [g.execute_goto h, List.filter_cons]
              split
              next hself =>
                have hn : n = q := of_decide_eq_true hself
                have hlater : ∀ v ∈ (g.execute limit n' (g.superstep n s w).post
                    (g.superstep n s w).worldAfter).1, later v.node := by
                  intro v hv
                  exact (g.visits_invariant (P := fun n _ _ => later n)
                    (fun m t _ m' hm hroute => hstep m _ m' (.inr hm) hroute)
                    (hstep n _ n' (.inl hn) h) v hv).1
                rw [List.length_cons, List.filter_eq_nil_iff.2]
                · exact Nat.le_refl _
                · intro v hv hnode
                  exact hq (of_decide_eq_true hnode ▸ hlater v hv)
              next => exact ih _ _ _

/-! ## What a run leaves behind -/

/-- The state after a list of visits that starts from `s`. -/
def stateAfter (s : σ) (vs : List (Visit ν σ ω)) : σ := vs.foldl (fun _ v => v.post) s

def worldAfter (w : ω) (vs : List (Visit ν σ ω)) : ω := vs.foldl (fun _ v => v.worldAfter) w

@[simp] theorem stateAfter_nil (s : σ) : stateAfter s ([] : List (Visit ν σ ω)) = s := rfl
@[simp] theorem worldAfter_nil (w : ω) : worldAfter w ([] : List (Visit ν σ ω)) = w := rfl
@[simp] theorem stateAfter_cons (s : σ) (v : Visit ν σ ω) (vs : List (Visit ν σ ω)) :
    stateAfter s (v :: vs) = stateAfter v.post vs := rfl
@[simp] theorem worldAfter_cons (w : ω) (v : Visit ν σ ω) (vs : List (Visit ν σ ω)) :
    worldAfter w (v :: vs) = worldAfter v.worldAfter vs := rfl

theorem stateAfter_of_getLast? {s : σ} {vs : List (Visit ν σ ω)} {v : Visit ν σ ω}
    (h : vs.getLast? = some v) : stateAfter s vs = v.post := by
  obtain ⟨before, rfl⟩ := List.getLast?_eq_some_iff.mp h
  simp [stateAfter]

theorem stateAfter_append (s : σ) (vs us : List (Visit ν σ ω)) :
    stateAfter s (vs ++ us) = stateAfter (stateAfter s vs) us := by
  simp [stateAfter]

theorem worldAfter_append (w : ω) (vs us : List (Visit ν σ ω)) :
    worldAfter w (vs ++ us) = worldAfter (worldAfter w vs) us := by
  simp [worldAfter]

/-- The visit at a position starts in the world that the visits before it leave. -/
theorem worldBefore_of_getElem? {limit k : Nat} {n : ν} {s : σ} {w : ω} {v : Visit ν σ ω}
    (h : (g.execute limit n s w).1[k]? = some v) :
    v.worldBefore = worldAfter w ((g.execute limit n s w).1.take k) := by
  induction limit generalizing n s w k with
  | zero => simp [execute] at h
  | succ limit ih =>
      obtain ⟨rest, hrest, hfrom⟩ := g.execute_succ_head limit n s w
      rw [hrest] at h ⊢
      cases k with
      | zero =>
          simp only [List.getElem?_cons_zero, Option.some.injEq] at h
          rw [← h]
          rfl
      | succ k =>
          rw [List.getElem?_cons_succ] at h
          rw [List.take_succ_cons, worldAfter_cons]
          rcases hfrom with rfl | ⟨n', rfl⟩
          · simp at h
          · exact ih h

/-- What holds at the start and after every visit holds after the visits. -/
theorem stateAfter_induction {P : σ → Prop} {s : σ} {vs : List (Visit ν σ ω)} (hs : P s)
    (h : ∀ v ∈ vs, P v.post) : P (stateAfter s vs) := by
  induction vs generalizing s with
  | nil => exact hs
  | cons v vs ih =>
      exact ih (h v List.mem_cons_self) fun v' hv' => h v' (List.mem_cons_of_mem _ hv')

theorem worldAfter_induction {P : ω → Prop} {w : ω} {vs : List (Visit ν σ ω)} (hw : P w)
    (h : ∀ v ∈ vs, P v.worldAfter) : P (worldAfter w vs) := by
  induction vs generalizing w with
  | nil => exact hw
  | cons v vs ih =>
      exact ih (h v List.mem_cons_self) fun v' hv' => h v' (List.mem_cons_of_mem _ hv')

/-! ## Budgets -/

/-- Of `Φ` every visit pays its cost and leaves the next node its own budget. -/
structure Budget (cost : Visit ν σ ω → Nat) (Φ : ν → σ → Nat) : Prop where
  pays : ∀ n s w, cost (g.superstep n s w) ≤ Φ n s
  carries : ∀ n s w n', g.route n (g.superstep n s w).post = some (.goto n') →
    cost (g.superstep n s w) + Φ n' (g.superstep n s w).post ≤ Φ n s

variable {g}

/-- The visits of a run cost no more than the budget of its first node. -/
theorem Budget.sum_le {cost : Visit ν σ ω → Nat} {Φ : ν → σ → Nat} (h : g.Budget cost Φ)
    (limit : Nat) (n : ν) (s : σ) (w : ω) : ((g.execute limit n s w).1.map cost).sum ≤ Φ n s := by
  induction limit generalizing n s w with
  | zero => simp [execute]
  | succ limit ih =>
      cases hnext : g.route n (g.superstep n s w).post with
      | none =>
          rw [g.execute_routingError hnext]
          simpa using h.pays n s w
      | some next =>
          cases next with
          | finish =>
              rw [g.execute_finish hnext]
              simpa using h.pays n s w
          | goto n' =>
              rw [g.execute_goto hnext, List.map_cons, List.sum_cons]
              have hrest := ih n' (g.superstep n s w).post (g.superstep n s w).worldAfter
              have hcarries := h.carries n s w n' hnext
              omega

/-- What every visit spends within its cost, a run spends within the sum. -/
theorem spent_le_sum {cost : Visit ν σ ω → Nat} {spent : ω → Nat}
    (hstep : ∀ n s w, spent (g.superstep n s w).worldAfter ≤ spent w + cost (g.superstep n s w))
    (limit : Nat) (n : ν) (s : σ) (w : ω) :
    spent (worldAfter w (g.execute limit n s w).1) ≤
      spent w + ((g.execute limit n s w).1.map cost).sum := by
  induction limit generalizing n s w with
  | zero => simp [execute]
  | succ limit ih =>
      have hfirst := hstep n s w
      cases hnext : g.route n (g.superstep n s w).post with
      | none =>
          rw [g.execute_routingError hnext]
          simpa using hfirst
      | some next =>
          cases next with
          | finish =>
              rw [g.execute_finish hnext]
              simpa using hfirst
          | goto n' =>
              rw [g.execute_goto hnext, worldAfter_cons, List.map_cons, List.sum_cons]
              have hrest := ih n' (g.superstep n s w).post (g.superstep n s w).worldAfter
              omega

/-- The cost that counts the visits to one node. -/
def visitTo [DecidableEq ν] (m : ν) (v : Visit ν σ ω) : Nat := if v.node = m then 1 else 0

theorem count_eq_sum_visitTo [DecidableEq ν] (m : ν) (vs : List (Visit ν σ ω)) :
    (vs.map Visit.node).count m = (vs.map (visitTo m)).sum := by
  induction vs with
  | nil => rfl
  | cons v vs ih =>
      rw [List.map_cons, List.count_cons, ih, List.map_cons, List.sum_cons, visitTo, Nat.add_comm]
      simp only [beq_iff_eq]

variable (g)

/-! ## Termination -/

theorem length_of_recursionLimit {limit : Nat} {n : ν} {s : σ} {w : ω}
    (h : (g.execute limit n s w).2 = .recursionLimit) :
    (g.execute limit n s w).1.length = limit := by
  induction limit generalizing n s w with
  | zero => rfl
  | succ limit ih =>
      cases hnext : g.route n (g.superstep n s w).post with
      | none => simp [g.execute_routingError hnext] at h
      | some next =>
          cases next with
          | finish => simp [g.execute_finish hnext] at h
          | goto n' =>
              rw [g.execute_goto hnext] at h ⊢
              simpa using ih h

/-- A run that ends of itself is the same under every larger limit. -/
theorem execute_of_le {limit limit' : Nat} {n : ν} {s : σ} {w : ω}
    (h : (g.execute limit n s w).2 ≠ .recursionLimit) (hle : limit ≤ limit') :
    g.execute limit' n s w = g.execute limit n s w := by
  induction limit generalizing limit' n s w with
  | zero => exact absurd rfl h
  | succ limit ih =>
      obtain ⟨limit', rfl⟩ : ∃ k, limit' = k + 1 := ⟨limit' - 1, by omega⟩
      cases hnext : g.route n (g.superstep n s w).post with
      | none => rw [g.execute_routingError hnext, g.execute_routingError hnext]
      | some next =>
          cases next with
          | finish => rw [g.execute_finish hnext, g.execute_finish hnext]
          | goto n' =>
              rw [g.execute_goto hnext] at h ⊢
              rw [g.execute_goto hnext, ih h (by omega)]

/-- A budget for the visits themselves bounds every run. -/
theorem Budget.terminates {g : StateGraph ν σ υ ω} {Φ : ν → σ → Nat}
    (h : g.Budget (fun _ => 1) Φ) {limit : Nat} {n : ν} {s : σ} {w : ω} (hlimit : Φ n s < limit) :
    (g.execute limit n s w).2 ≠ .recursionLimit := by
  intro hend
  have hsum := h.sum_le limit n s w
  rw [List.map_const', List.sum_replicate_nat, Nat.mul_one,
    g.length_of_recursionLimit hend] at hsum
  omega

end StateGraph

end Iara.Lib
