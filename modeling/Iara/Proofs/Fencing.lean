import Iara.Workers.ClusterSteps

/-!
# Fencing

A handler whose lease was overtaken, and runs of one conversation that overlap:
when do they still write to the outbox?
-/

namespace Iara.Workers

open Iara.Lib Iara.Persistence Iara.Graph

namespace Cluster

variable {cluster : Cluster}

/-- The token of handler `i`, if it reached the table, and the token that is in the
row of its conversation. -/
def tokens (c : State) (i : Nat) : Option (String × String) := do
  let h ← c.parties[i]?
  let token ← h.drawnToken
  let key ← h.message.payload.leaseKey
  let r ← c.shared.leases.find key
  if h.leased then some (token, r.fencingToken) else none

/-- Another acquire has replaced the lease that handler `i` once had. -/
def overtaken (c : State) (i : Nat) : Bool := (tokens c i).any fun p => p.1 ≠ p.2

/-- The row that `release` would match is there: the lease of handler `i` is
still the one in the table. -/
def holdsLease (c : State) (i : Nat) : Bool := (tokens c i).any fun p => p.1 = p.2

/-- Handler `i` runs the graph for a conversation. -/
def Runs (c : State) (i : Nat) (conversation : (Uuid ⊕ String) × String) : Prop :=
  ∃ h run, c.parties[i]? = some h ∧ h.phase = .running run ∧
    h.message.payload.conversation = conversation

/-- Handlers `i` and `j` both run the graph for one conversation. -/
def Overlap (c : State) (i j : Nat) : Prop :=
  i ≠ j ∧ ∃ conversation, Runs c i conversation ∧ Runs c j conversation

/-- The action is a step of handler `i` that changes the outbox. -/
def Enqueues (cluster : Cluster) (c : State) (m : Action) (i : Nat) : Prop :=
  ∃ a c', m = .party i a ∧ cluster.machine.step c m = some c' ∧
    c'.shared.rt.world.outbox ≠ c.shared.rt.world.outbox

/-- An overtaken handler writes nothing more, and of two overlapping runs at most
one writes once the overlap has begun. -/
structure Fenced (cluster : Cluster) (history : List (State × Action)) : Prop where
  after_overtaken : ∀ (k l i : Nat) (c d : State) (m n : Action), k ≤ l →
    history[k]? = some (c, m) → overtaken c i = true → history[l]? = some (d, n) →
    ¬ Enqueues cluster d n i
  after_overlap : ∀ (k l l' i j : Nat) (c d d' : State) (m n n' : Action), k ≤ l → k ≤ l' →
    history[k]? = some (c, m) → Overlap c i j → history[l]? = some (d, n) →
    history[l']? = some (d', n') → ¬ (Enqueues cluster d n i ∧ Enqueues cluster d' n' j)

/-- Whoever enqueues still has its lease in the table; or it went ahead without
a lease, and no other run of the conversation has overlapped its own so far. -/
def EnqueuesInTurn (cluster : Cluster) (history : List (State × Action)) : Prop :=
  ∀ (l i : Nat) (d : State) (n : Action), history[l]? = some (d, n) → Enqueues cluster d n i →
    holdsLease d i = true ∨
      ((∀ h, d.parties[i]? = some h → h.leased = false) ∧
        ∀ (k : Nat) (c : State) (m : Action), k ≤ l → history[k]? = some (c, m) →
          ∀ j, ¬ Overlap c i j)

/-! ## Tokens -/

/-- Every token was drawn before now, by one handler only; a handler whose token
reached the table is past its lease block. -/
structure TokensDistinct (cluster : Cluster) (c : State) : Prop where
  drawn : ∀ h ∈ c.parties, ∀ token, h.drawnToken = some token →
    ∃ d < c.shared.rt.world.draws, token = cluster.worker.deps.uuids.gen d
  distinct : ∀ (i j : Nat) (h h' : Handler) (token : String), i ≠ j →
    c.parties[i]? = some h → c.parties[j]? = some h' → h.drawnToken = some token →
    h'.drawnToken ≠ some token
  leased : ∀ h ∈ c.parties, h.leased = true → h.pastLease = true

theorem draws_step {c c' : State} {m : Action} (hstep : cluster.machine.step c m = some c') :
    c.shared.rt.world.draws ≤ c'.shared.rt.world.draws := by
  cases m with
  | party i a =>
      obtain ⟨h, h', t, -, hact, rfl⟩ := Interleaving.step_party hstep
      exact (act_effect hact).draws
  | environment e =>
      obtain ⟨ls, t, henv, rfl⟩ := Interleaving.step_environment hstep
      exact Nat.le_of_eq (environment_effect henv).1.symm

/-- After a step, a handler's token is one it had before, or one drawn in it. -/
theorem token_of_step {c c' : State} {m : Action} (hstep : cluster.machine.step c m = some c')
    {i : Nat} {h' : Handler} {token : String} (hi : c'.parties[i]? = some h')
    (htoken : h'.drawnToken = some token) :
    (∃ h, c.parties[i]? = some h ∧ h.drawnToken = some token) ∨
      ((∃ a, m = .party i a) ∧ ∃ d, c.shared.rt.world.draws ≤ d ∧
        d < c'.shared.rt.world.draws ∧ token = cluster.worker.deps.uuids.gen d) := by
  rcases Interleaving.party_before_step hstep hi with
    hsame | ⟨h, a, rfl, hbefore, hact⟩ | ⟨e, ls, -, henv, hmem, -⟩
  · exact Or.inl ⟨h', hsame, htoken⟩
  · rcases (act_effect hact).token with hkept | ⟨d, hle, hlt, hnew⟩
    · exact Or.inl ⟨h, hbefore, hkept ▸ htoken⟩
    · rw [htoken, Option.some.injEq] at hnew
      exact Or.inr ⟨⟨a, rfl⟩, d, hle, hlt, hnew⟩
  · obtain ⟨message, rfl⟩ := environment_new henv h' hmem
    cases htoken

theorem TokensDistinct.step {c c' : State} {m : Action} (hc : TokensDistinct cluster c)
    (hstep : cluster.machine.step c m = some c') : TokensDistinct cluster c' where
  drawn := by
    intro h' hmem token htoken
    obtain ⟨i, hi⟩ := List.mem_iff_getElem?.1 hmem
    rcases token_of_step hstep hi htoken with ⟨h, hbefore, hold⟩ | ⟨-, d, -, hlt, hnew⟩
    · obtain ⟨d, hlt, heq⟩ := hc.drawn h (List.mem_of_getElem? hbefore) token hold
      have hle := draws_step hstep
      exact ⟨d, by omega, heq⟩
    · exact ⟨d, hlt, hnew⟩
  distinct := by
    intro i j h₁ h₂ token hij hi hj htoken₁ htoken₂
    rcases token_of_step hstep hi htoken₁ with ⟨g₁, hg₁, hold₁⟩ | ⟨⟨a, ha⟩, d, hle, -, hnew⟩
    · rcases token_of_step hstep hj htoken₂ with ⟨g₂, hg₂, hold₂⟩ | ⟨-, d, hle, -, hnew⟩
      · exact hc.distinct i j g₁ g₂ token hij hg₁ hg₂ hold₁ hold₂
      · obtain ⟨d', hlt, heq⟩ := hc.drawn g₁ (List.mem_of_getElem? hg₁) token hold₁
        have hsame := cluster.worker.deps.uuids.gen_injective (heq.symm.trans hnew)
        omega
    · rcases token_of_step hstep hj htoken₂ with ⟨g₂, hg₂, hold₂⟩ | ⟨⟨b, hb⟩, -⟩
      · obtain ⟨d', hlt, heq⟩ := hc.drawn g₂ (List.mem_of_getElem? hg₂) token hold₂
        have hsame := cluster.worker.deps.uuids.gen_injective (heq.symm.trans hnew)
        omega
      · rw [ha] at hb
        cases hb
        exact hij rfl
  leased := by
    refine Interleaving.parties_step (P := fun h => h.leased = true → h.pastLease = true)
      ?_ ?_ hc.leased hstep
    · intro s e ls t henv h hmem hleased
      obtain ⟨message, rfl⟩ := environment_new henv h hmem
      cases hleased
    · intro s h a h' t hact hbefore hleased
      have heffect := act_effect hact
      cases hpast : h.pastLease with
      | true => exact (heffect.settled hpast).1
      | false =>
          rcases heffect.leased hpast hleased with hold | hnow
          · rw [hbefore hold] at hpast
            cases hpast
          · exact hnow

theorem tokensDistinct_initially (rt : Runtime) (leases : LeaseTable) :
    TokensDistinct cluster (initially rt leases) where
  drawn := by simp [initially]
  distinct := by simp [initially]
  leased := by simp [initially]

/-! ## An overtaken lease stays overtaken -/

theorem tokens_eq_some_iff {c : State} {i : Nat} {token token' : String} :
    tokens c i = some (token, token') ↔ ∃ h key r, c.parties[i]? = some h ∧ h.leased = true ∧
      h.drawnToken = some token ∧ h.message.payload.leaseKey = some key ∧
      c.shared.leases.find key = some r ∧ r.fencingToken = token' := by
  unfold tokens
  simp only [Option.bind_eq_bind, Option.bind_eq_some_iff, Option.ite_none_right_eq_some,
    Option.some.injEq, Prod.mk.injEq]
  constructor
  · rintro ⟨h, hi, t, htoken, key, hkey, r, hrow, hleased, rfl, hsame⟩
    exact ⟨h, key, r, hi, hleased, htoken, hkey, hrow, hsame⟩
  · rintro ⟨h, key, r, hi, hleased, htoken, hkey, hrow, hsame⟩
    exact ⟨h, hi, token, htoken, key, hkey, r, hrow, hleased, rfl, hsame⟩

theorem overtaken_iff {c : State} {i : Nat} :
    overtaken c i = true ↔ ∃ token token', tokens c i = some (token, token') ∧ token ≠ token' := by
  unfold overtaken
  cases tokens c i with
  | none => simp
  | some p =>
      simp only [Option.any_some, decide_eq_true_eq, Option.some.injEq]
      constructor
      · intro hne
        exact ⟨p.1, p.2, rfl, hne⟩
      · rintro ⟨token, token', rfl, hne⟩
        exact hne

theorem holdsLease_iff {c : State} {i : Nat} :
    holdsLease c i = true ↔ ∃ token, tokens c i = some (token, token) := by
  unfold holdsLease
  cases tokens c i with
  | none => simp
  | some p =>
      simp only [Option.any_some, decide_eq_true_eq, Option.some.injEq]
      constructor
      · intro hsame
        exact ⟨p.1, Prod.ext rfl hsame.symm⟩
      · rintro ⟨token, rfl⟩
        rfl

theorem not_holdsLease_of_overtaken {c : State} {i : Nat} (hover : overtaken c i = true) :
    holdsLease c i ≠ true := by
  intro hholds
  obtain ⟨token, token', htokens, hne⟩ := overtaken_iff.1 hover
  obtain ⟨token₀, hsame⟩ := holdsLease_iff.1 hholds
  rw [htokens] at hsame
  cases hsame
  exact hne rfl

/-- No step brings an overwritten token back. -/
theorem overtaken_step {c c' : State} {m : Action} {i : Nat} (hover : overtaken c i = true)
    (hc : TokensDistinct cluster c) (hstep : cluster.machine.step c m = some c') :
    overtaken c' i = true := by
  obtain ⟨token, token', htokens, hne⟩ := overtaken_iff.1 hover
  obtain ⟨h, key, r, hi, hleased, htoken, hkey, hrow, hr⟩ := tokens_eq_some_iff.1 htokens
  have hpast : h.pastLease = true := hc.leased h (List.mem_of_getElem? hi) hleased
  -- the handler's side of it does not change
  obtain ⟨h', hi', hhandler⟩ := Interleaving.party_of_step hstep hi
  have hkept : h'.leased = true ∧ h'.drawnToken = some token ∧
      h'.message.payload.leaseKey = some key := by
    rcases hhandler with rfl | ⟨a, -, hact⟩
    · exact ⟨hleased, htoken, hkey⟩
    · have heffect := act_effect hact
      obtain ⟨-, hsame, hleased'⟩ := heffect.settled hpast
      exact ⟨hleased'.trans hleased, hsame.trans htoken, by rw [heffect.message, hkey]⟩
  -- and a new token in the row is another handler's
  have hrow' : ∃ r', c'.shared.leases.find key = some r' ∧ token ≠ r'.fencingToken := by
    cases m with
    | environment e =>
        obtain ⟨ls, t, henv, rfl⟩ := Interleaving.step_environment hstep
        refine ⟨r, ?_, hr ▸ hne⟩
        change t.leases.find key = some r
        rw [(environment_effect henv).2, hrow]
    | party j a =>
        obtain ⟨g, g', t, hj, hact, rfl⟩ := Interleaving.step_party hstep
        obtain ⟨r', hr', hsame | ⟨hbefore, hnew⟩⟩ := (act_effect hact).leases key r hrow
        · exact ⟨r', hr', by rw [hsame, hr]; exact hne⟩
        · refine ⟨r', hr', ?_⟩
          intro hback
          by_cases hij : i = j
          · subst hij
            rw [hi, Option.some.injEq] at hj
            rw [hj, hbefore] at hpast
            cases hpast
          · exact hc.distinct i j h g token hij hi hj htoken (hback ▸ hnew)
  obtain ⟨r', hr', hne'⟩ := hrow'
  exact overtaken_iff.2 ⟨token, r'.fencingToken, tokens_eq_some_iff.2
    ⟨h', key, r', hi', hkept.1, hkept.2.1, hkept.2.2, hr', rfl⟩, hne'⟩

theorem overtaken_run {c c' : State} {ms : List Action} {i : Nat} (hover : overtaken c i = true)
    (hc : TokensDistinct cluster c) (hrun : cluster.machine.run c ms = some c') :
    overtaken c' i = true := by
  have hinv := cluster.machine.invariant_of_step
    (I := fun d => TokensDistinct cluster d ∧ overtaken d i = true) ?_ ⟨hc, hover⟩ hrun
  · exact hinv.2
  · rintro d m d' ⟨hd, hover'⟩ hstep
    exact ⟨hd.step hstep, overtaken_step hover' hd hstep⟩

/-! ## Runs -/

theorem leaseKey_of_conversation {p q : JobPayload} (h : p.conversation = q.conversation) :
    p.leaseKey = q.leaseKey := by
  unfold JobPayload.conversation at h
  unfold JobPayload.leaseKey
  obtain ⟨htenant, hconversation⟩ := Prod.mk.inj h
  cases hp : parseUuid p.tenantId with
  | none =>
      cases hq : parseUuid q.tenantId with
      | none => rfl
      | some tenant => simp [hp, hq] at htenant
  | some tenant =>
      cases hq : parseUuid q.tenantId with
      | none => simp [hp, hq] at htenant
      | some tenant' =>
          simp only [hp, hq, Option.map_some, Option.getD_some, Sum.inl.injEq] at htenant
          simp [htenant, hconversation]

/-- Along a run a handler keeps its message and, past the lease block, what is
known of its lease. -/
theorem handler_of_run {c c' : State} {ms : List Action}
    (hrun : cluster.machine.run c ms = some c') {i : Nat} {h : Handler}
    (hi : c.parties[i]? = some h) :
    ∃ h', c'.parties[i]? = some h' ∧ h'.message = h.message ∧ (h.pastLease = true →
      h'.pastLease = true ∧ h'.drawnToken = h.drawnToken ∧ h'.leased = h.leased) := by
  refine Interleaving.party_of_run (R := fun h h' => h'.message = h.message ∧
    (h.pastLease = true →
      h'.pastLease = true ∧ h'.drawnToken = h.drawnToken ∧ h'.leased = h.leased))
    ?_ ?_ ?_ hrun hi
  · intro h
    exact ⟨rfl, fun hpast => ⟨hpast, rfl, rfl⟩⟩
  · intro h₁ h₂ h₃ h₁₂ h₂₃
    refine ⟨h₂₃.1.trans h₁₂.1, ?_⟩
    intro hpast
    obtain ⟨hpast₂, htoken₂, hleased₂⟩ := h₁₂.2 hpast
    obtain ⟨hpast₃, htoken₃, hleased₃⟩ := h₂₃.2 hpast₂
    exact ⟨hpast₃, htoken₃.trans htoken₂, hleased₃.trans hleased₂⟩
  · intro s h a h' t hact
    exact ⟨(act_effect hact).message, (act_effect hact).settled⟩

/-- Two handlers of one conversation, both past their lease blocks: once the one
has been seen to hold the lease, the other never does again. -/
theorem not_holdsLease_later {c c' : State} {ms : List Action} {i j : Nat} {g h : Handler}
    (hc : TokensDistinct cluster c) (hij : i ≠ j) (hi : c.parties[i]? = some g)
    (hj : c.parties[j]? = some h) (hpast : h.pastLease = true)
    (hconversation : g.message.payload.conversation = h.message.payload.conversation)
    (hholds : holdsLease c i = true) (hrun : cluster.machine.run c ms = some c') :
    holdsLease c' j ≠ true := by
  intro hlater
  obtain ⟨token, htokens⟩ := holdsLease_iff.1 hholds
  obtain ⟨token', htokens'⟩ := holdsLease_iff.1 hlater
  obtain ⟨g₁, key, r, hg₁, -, htoken, hkey, hrow, hsame⟩ := tokens_eq_some_iff.1 htokens
  obtain ⟨h₁, key', r', hh₁, hleased', htoken', -⟩ := tokens_eq_some_iff.1 htokens'
  obtain rfl : g = g₁ := Option.some.inj (hi.symm.trans hg₁)
  obtain ⟨h₂, hh₂, -, hkept⟩ := handler_of_run hrun hj
  obtain rfl : h₂ = h₁ := Option.some.inj (hh₂.symm.trans hh₁)
  obtain ⟨-, hdrawn, hleased⟩ := hkept hpast
  have hdistinct : h.drawnToken ≠ some token := hc.distinct i j g h token hij hi hj htoken
  have hkeys : h.message.payload.leaseKey = some key := by
    rw [← leaseKey_of_conversation hconversation, hkey]
  have hover : overtaken c j = true := by
    refine overtaken_iff.2 ⟨token', token, tokens_eq_some_iff.2
      ⟨h, key, r, hj, hleased ▸ hleased', hdrawn ▸ htoken', hkeys, hrow, hsame⟩, ?_⟩
    intro hback
    rw [← hdrawn, htoken', hback] at hdistinct
    exact hdistinct rfl
  exact not_holdsLease_of_overtaken (overtaken_run hover hc hrun) hlater

theorem Overlap.symm {c : State} {i j : Nat} (h : Overlap c i j) : Overlap c j i := by
  obtain ⟨hij, conversation, hi, hj⟩ := h
  exact ⟨hij.symm, conversation, hj, hi⟩

/-- Of two runs that overlap, a later one to enqueue finds the lease of the
earlier one in the table. -/
theorem not_holdsLease_of_overlap {c d d' : State} {ms ms' : List Action} {i j : Nat}
    (hc : TokensDistinct cluster c) (hoverlap : Overlap c i j)
    (hrun : cluster.machine.run c ms = some d) (hholds : holdsLease d i = true)
    (hrun' : cluster.machine.run d ms' = some d') : holdsLease d' j ≠ true := by
  obtain ⟨hij, conversation, ⟨g, run, hi, -, hconversation⟩,
    ⟨h, run', hj, hphase', hconversation'⟩⟩ := hoverlap
  have hpast : h.pastLease = true := by
    rw [Handler.pastLease, hphase']
    rfl
  obtain ⟨g', hi', hmessage, -⟩ := handler_of_run hrun hi
  obtain ⟨h', hj', hmessage', hkept⟩ := handler_of_run hrun hj
  have hd : TokensDistinct cluster d :=
    cluster.machine.invariant_of_step (fun _ _ _ => TokensDistinct.step) hc hrun
  refine not_holdsLease_later hd hij hi' hj' (hkept hpast).1 ?_ hholds hrun'
  rw [hmessage, hmessage', hconversation, hconversation']

/-- Along every run in which whoever enqueues still has its lease, or has none and
meets no other run of the conversation, the outbox is fenced. -/
theorem fenced_of_enqueuesInTurn (cluster : Cluster) (rt : Runtime) (leases : LeaseTable)
    (actions : List Action)
    (hturn : EnqueuesInTurn cluster (cluster.machine.trace (initially rt leases) actions)) :
    Fenced cluster (cluster.machine.trace (initially rt leases) actions) := by
  have hdistinct {k : Nat} {c : State} {m : Action}
      (hk : (cluster.machine.trace (initially rt leases) actions)[k]? = some (c, m)) :
      TokensDistinct cluster c :=
    cluster.machine.invariant_of_step (fun _ _ _ => TokensDistinct.step)
      (tokensDistinct_initially rt leases) (cluster.machine.run_take_of_trace hk).1
  refine ⟨?_, ?_⟩
  · intro k l i c d m n hkl hk hover hl henqueues
    obtain ⟨ms, hrun⟩ := cluster.machine.run_between_of_trace hkl hk hl
    have hover' := overtaken_run hover (hdistinct hk) hrun
    rcases hturn l i d n hl henqueues with hholds | ⟨hunleased, -⟩
    · exact not_holdsLease_of_overtaken hover' hholds
    · obtain ⟨token, token', htokens, -⟩ := overtaken_iff.1 hover'
      obtain ⟨h, key, r, hi, hleased, -⟩ := tokens_eq_some_iff.1 htokens
      rw [hunleased h hi] at hleased
      cases hleased
  · rintro k l l' i j c d d' m n n' hkl hkl' hk hoverlap hl hl' ⟨henqueues, henqueues'⟩
    have hholds : holdsLease d i = true := by
      rcases hturn l i d n hl henqueues with hholds | ⟨-, halone⟩
      · exact hholds
      · exact absurd hoverlap (halone k c m hkl hk j)
    have hholds' : holdsLease d' j = true := by
      rcases hturn l' j d' n' hl' henqueues' with hholds | ⟨-, halone⟩
      · exact hholds
      · exact absurd hoverlap.symm (halone k c m hkl' hk i)
    -- whichever of the two enqueues first
    rcases Nat.le_total l l' with hle | hle
    · obtain ⟨ms, hrun⟩ := cluster.machine.run_between_of_trace hkl hk hl
      obtain ⟨ms', hrun'⟩ := cluster.machine.run_between_of_trace hle hl hl'
      exact not_holdsLease_of_overlap (hdistinct hk) hoverlap hrun hholds hrun' hholds'
    · obtain ⟨ms, hrun⟩ := cluster.machine.run_between_of_trace hkl' hk hl'
      obtain ⟨ms', hrun'⟩ := cluster.machine.run_between_of_trace hle hl' hl
      exact not_holdsLease_of_overlap (hdistinct hk) hoverlap.symm hrun hholds' hrun' hholds

/-- A handler that runs the graph in this step still has its lease. -/
def heldInStep (p : State × Action) : Bool :=
  match p.2 with
  | .party i _ =>
      match p.1.parties[i]? with
      | some { phase := .running _, .. } => holdsLease p.1 i
      | _ => true
  | .environment _ => true

theorem enqueuesInTurn_of_held {history : List (State × Action)}
    (hheld : history.all heldInStep = true) : EnqueuesInTurn cluster history := by
  rintro l i d n hl ⟨a, d', rfl, hstep, hchanged⟩
  left
  obtain ⟨h, h', t, hi, hact, rfl⟩ := Interleaving.step_party hstep
  rcases (act_effect hact).outbox with hsame | ⟨run, hphase⟩
  · exact absurd hsame hchanged
  · have hstepped := List.all_eq_true.1 hheld _ (List.mem_of_getElem? hl)
    unfold heldInStep at hstepped
    simp only [hi] at hstepped
    split at hstepped
    · exact hstepped
    · next hother =>
      obtain ⟨message, phase, drawnToken, fencingToken, leased, conflicted, ranGraph⟩ := h
      simp only at hphase
      subst hphase
      exact absurd rfl (hother message run drawnToken fencingToken leased conflicted ranGraph)

section Example

/-- One job up to the end of its graph run. -/
def wholeRun : List Action := twoJobs ++ acquireSteps 0 ++ supersteps 0 7

theorem wholeRun_fenced :
    Fenced plainCluster (plainCluster.machine.trace (initially emptyRuntime .empty) wholeRun) :=
  fenced_of_enqueuesInTurn plainCluster emptyRuntime .empty wholeRun
    (enqueuesInTurn_of_held (by decide +kernel))

/-- The first handler stops short of its dispatch until its lease has run out, and
the second one takes over and replies. -/
def staleRun : List Action :=
  twoJobs ++ acquireSteps 0 ++ supersteps 0 5 ++ [.environment (.tick (timedelta 300))] ++
    acquireSteps 1 ++ supersteps 1 6

def staleState : State :=
  (plainCluster.machine.run (initially emptyRuntime .empty) staleRun).getD
    (initially emptyRuntime .empty)

def repliedState : State :=
  (plainCluster.machine.step staleState (.party 0 (.superstep true))).getD staleState

/-- Overtaken, the first handler replies all the same. -/
theorem staleRun_not_fenced :
    ¬ Fenced plainCluster (plainCluster.machine.trace (initially emptyRuntime .empty)
      (staleRun ++ [.party 0 (.superstep true)])) := by
  intro hfenced
  have hrun : plainCluster.machine.run (initially emptyRuntime .empty) staleRun =
      some staleState := eq_some_getD (by decide +kernel)
  have hstep : plainCluster.machine.step staleState (.party 0 (.superstep true)) =
      some repliedState := eq_some_getD (by decide +kernel)
  have hposition : (plainCluster.machine.trace (initially emptyRuntime .empty)
      (staleRun ++ [.party 0 (.superstep true)]))[staleRun.length]? =
        some (staleState, .party 0 (.superstep true)) :=
    plainCluster.machine.trace_getElem?_of_run hrun
  have hover : overtaken staleState 0 = true := by decide +kernel
  refine hfenced.after_overtaken _ _ 0 _ _ _ _ (Nat.le_refl _) hposition hover hposition
    ⟨.superstep true, repliedState, rfl, hstep, ?_⟩
  intro hsame
  have hrows : repliedState.shared.rt.world.outbox.rows.length =
      staleState.shared.rt.world.outbox.rows.length := by rw [hsame]
  revert hrows
  decide +kernel

end Example

end Cluster

end Iara.Workers
