import Iara.Api.Chat
import Iara.Graph.Loop
import Iara.Lib.PyLines
import Iara.Proofs.TenantOfEffects

/-!
# Threads of the chat endpoint

The thread of a chat request ends in the run id, which is drawn for the request: no checkpoint
of an earlier run is merged into its state.  So a chat run is never stopped by the steps of
earlier runs, as runs on the thread of a conversation are.
-/

namespace Iara.Graph

open Iara.Lib Iara.Persistence

variable {deps : Deps} {s : GraphState} {w : World}

/-- The first call of a run with room for the steps to the agent is one of the model. -/
theorem calls_of_run {llm : Llm} (hllm : deps.llm = some llm) (hfailed : s.failed = false)
    (hsteps : s.steps + 3 < maxToolIterations * 2) {limit : Nat} (hlimit : 3 < limit) :
    ∃ more,
      (StateGraph.worldAfter w
          ((buildConversationalGraph deps).execute limit .eligibility s w).1).calls =
        w.calls ++ more ∧ (more = [] ∨ ∃ rest, more = .agentLlm :: rest) := by
  let g := buildConversationalGraph deps
  obtain ⟨k, rfl⟩ : ∃ k, limit = k + 4 := ⟨limit - 4, by omega⟩
  by_cases haccepts : AcceptsMessage deps s w
  · obtain ⟨before, s₃, w₃, hrun, hthree, hcalls, hworld⟩ := execute_to_agent k haccepts hfailed
    obtain ⟨tail, htail, hfrom⟩ := g.execute_succ_head k .agent s₃ w₃
    have hagent : (g.superstep .agent s₃ w₃).worldAfter.calls = w₃.calls ++ [.agentLlm] := by
      have hnode : (agentNode (some llm) s₃ w₃).2.calls = w₃.calls ++
          [if maxToolIterations * 2 ≤ s₃.steps then .maxIterations else .agentLlm] :=
        agentNode_calls llm
      rw [if_neg (by omega)] at hnode
      rw [superstep_worldAfter]
      unfold runNode
      rw [hllm]
      exact hnode
    obtain ⟨more, hmore⟩ : ∃ more, (StateGraph.worldAfter
        (g.superstep .agent s₃ w₃).worldAfter tail).calls =
          (g.superstep .agent s₃ w₃).worldAfter.calls ++ more := by
      rcases hfrom with rfl | ⟨n', rfl⟩
      · exact ⟨[], (List.append_nil _).symm⟩
      · exact (run_effect _ _ _ _).calls
    refine ⟨.agentLlm :: more, ?_, .inr ⟨more, rfl⟩⟩
    rw [hrun, StateGraph.worldAfter_append, hworld, htail, StateGraph.worldAfter_cons, hmore,
      hagent, hcalls, List.append_assoc, List.singleton_append]
  · refine ⟨[], ?_, .inl rfl⟩
    rw [List.append_nil]
    have hnodes : ∀ v ∈ (g.execute (k + 4) .eligibility s w).1,
        v.node = .eligibility ∨ v.node = .commandAssistant := nodes_of_not_accepted haccepts
    have hquiet : ∀ (n : Node) (t : GraphState) (w' : World),
        n = .eligibility ∨ n = .commandAssistant → w'.calls = w.calls →
        (runNode deps n t w').2.calls = w.calls := by
      rintro n t w' (rfl | rfl) hcalls
      · rw [runNode_calls (by decide) (by decide), hcalls]
      · rw [runNode_calls (by decide) (by decide), hcalls]
    have hbefore : ∀ v ∈ (g.execute (k + 4) .eligibility s w).1.take
        (g.execute (k + 4) .eligibility s w).1.length, v.worldBefore.calls = w.calls :=
      g.take_invariant (P := fun _ _ w' => w'.calls = w.calls)
        (Q := fun v => v.node = .eligibility ∨ v.node = .commandAssistant)
        (fun n t w' _ hcalls hn _ => hquiet n t w' hn hcalls) rfl
        fun v hv => hnodes v (List.mem_of_mem_take hv)
    refine StateGraph.worldAfter_induction (P := fun (w' : World) => w'.calls = w.calls) rfl ?_
    intro v hv
    rw [(visit_effect hv).2, superstep_worldAfter]
    rw [List.take_length] at hbefore
    exact hquiet _ _ _ (hnodes v hv) (hbefore v hv)

end Iara.Graph

namespace Iara.Api

open Iara.Lib Iara.Persistence Iara.Graph Iara.Tenancy Iara.Workers
open JobConsumerWorker (startWorld)

namespace ChatDeployment

variable {deployment : ChatDeployment} {s : ChatSystem} {tenant : TenantContext}
  {body : ChatRequest}

theorem gen_of_chatThread {uuids : UuidSupply} {i j : Nat}
    {tenantId tenantId' conversationId conversationId' : String}
    (h : chatThread tenantId conversationId (uuids.gen i) =
      chatThread tenantId' conversationId' (uuids.gen j)) : i = j := by
  have hends : ∀ (k : Nat) (before : List Char),
      ((before ++ ':' :: (uuids.gen k).toList).reverse.takeWhile (· ≠ ':')).reverse =
        (uuids.gen k).toList := by
    intro k before
    have hall : ∀ c ∈ (uuids.gen k).toList.reverse, decide (c ≠ ':') = true := by
      intro c hc
      rw [decide_eq_true_eq]
      rintro rfl
      exact uuids.colon_notMem_gen k (List.mem_reverse.1 hc)
    rw [List.reverse_append, List.reverse_cons, List.append_assoc,
      List.takeWhile_append_of_pos hall]
    simp
  apply uuids.gen_injective
  apply String.toList_injective
  have hlist : ("chat:" ++ tenantId ++ ":" ++ conversationId).toList ++
      ':' :: (uuids.gen i).toList = ("chat:" ++ tenantId' ++ ":" ++ conversationId').toList ++
        ':' :: (uuids.gen j).toList := by
    simpa [chatThread] using congrArg String.toList h
  rw [← hends i, hlist, hends j]

/-- What every event keeps: threads and reply keys of runs to come are unused, and the resolver
knows the tenant of the environment only. -/
structure Fresh (deployment : ChatDeployment) (s : ChatSystem) : Prop where
  threads : ∀ i, s.runtime.world.draws ≤ i → ∀ tenantId conversationId,
    s.threads (chatThread tenantId conversationId (deployment.deps.uuids.gen i)) = {}
  replies : FreshReplies deployment.deps.uuids s.runtime.world
  repository : s.resolver.repository = deployment.env.testRepository
  cache : ∀ tenantKey entry, s.resolver.cache tenantKey = some entry →
    ∃ resolvedAt, deployment.resolver.verify tenantKey
      (deployment.env.testRepository tenantKey) resolvedAt = .ok entry.context

/-- The only tenant that can be resolved is the one of the environment, in development. -/
theorem devTenant_of_verify {tenantKey : String} {verifiedAt : Nat} {context : TenantContext}
    (h : deployment.resolver.verify tenantKey (deployment.env.testRepository tenantKey)
      verifiedAt = .ok context) :
    deployment.env.isDevelopment = true ∧ tenantKey = deployment.env.iaraDevTenantKey ∧
      parseUuid deployment.env.iaraDevTenantId = some context.tenantId := by
  unfold ChatEnvironment.testRepository at h
  split at h
  next hdevelopment =>
    by_cases hkey : tenantKey = deployment.env.iaraDevTenantKey
    · rw [hkey, Function.update_self] at h
      unfold TenantResolver.verify at h
      simp only at h
      split at h
      next => cases h
      next context' hcontext =>
        obtain rfl : context' = context := by
          cases hactive : deployment.resolver.assertActive context' with
          | error error =>
              rw [hactive] at h
              cases h
          | ok =>
              rw [hactive] at h
              exact Except.ok.inj h
        unfold TenantResolver.contextOf at hcontext
        obtain ⟨id, hid, hcontext⟩ := Option.bind_eq_some_iff.1 hcontext
        obtain ⟨tenantId, hparse, hcontext⟩ := Option.bind_eq_some_iff.1 hcontext
        obtain ⟨status, -, hcontext⟩ := Option.bind_eq_some_iff.1 hcontext
        obtain ⟨account, -, hcontext⟩ := Option.bind_eq_some_iff.1 hcontext
        rw [← Option.some.inj hcontext]
        rw [← Option.some.inj hid] at hparse
        exact ⟨hdevelopment, hkey, hparse⟩
    · rw [Function.update_of_ne hkey] at h
      cases h
  next => cases h

/-! ### One request -/

theorem startState_of_fresh (h : Fresh deployment s) (tenant : TenantContext) (body : ChatRequest) :
    deployment.startState s tenant body =
      body.initialState (formatUuid tenant.tenantId) (deployment.runId s)
        (deployment.deps.uuids.gen (s.runtime.world.draws + 1)) := by
  unfold startState
  simp only [runId, h.threads _ (Nat.le_refl _)]
  rfl

theorem threads_invoke (s : ChatSystem) (tenant : TenantContext) (body : ChatRequest) :
    (deployment.invoke s tenant body).2.threads =
      Function.update s.threads
        (chatThread (formatUuid tenant.tenantId) body.conversationId (deployment.runId s))
        (StateGraph.stateAfter (deployment.startState s tenant body)
          (deployment.worker.committed (deployment.ainvoke s tenant body))) := rfl

theorem runEffect_invoke (s : ChatSystem) (tenant : TenantContext) (body : ChatRequest) :
    RunEffect (some (deployment.runId s)) (startWorld s.runtime)
      (deployment.invoke s tenant body).2.runtime.world :=
  run_effect _ _ (deployment.startState s tenant body) _

theorem draws_invoke (s : ChatSystem) (tenant : TenantContext) (body : ChatRequest) :
    s.runtime.world.draws < (deployment.invoke s tenant body).2.runtime.world.draws := by
  have heffect : RunEffect _ _ (deployment.invoke s tenant body).2.runtime.world :=
    runEffect_invoke s tenant body
  have hdraws := heffect.draws
  simp only [startWorld, World.draw_draws] at hdraws
  omega

/-- A request uses its own thread and its own keys. -/
theorem Fresh.invoke (h : Fresh deployment s) (tenant : TenantContext) (body : ChatRequest) :
    Fresh deployment (deployment.invoke s tenant body).2 where
  threads := by
    intro i hi tenantId conversationId
    have hdraws : _ < (deployment.invoke s tenant body).2.runtime.world.draws :=
      draws_invoke s tenant body
    have hne : chatThread tenantId conversationId (deployment.deps.uuids.gen i) ≠
        chatThread (formatUuid tenant.tenantId) body.conversationId (deployment.runId s) := by
      intro heq
      have hsame := gen_of_chatThread heq
      omega
    rw [threads_invoke, Function.update_of_ne hne]
    exact h.threads i (by omega) tenantId conversationId
  replies := by
    have hstart : FreshReplies deployment.worker.deps.uuids (startWorld s.runtime) :=
      JobConsumerWorker.FreshReplies.start h.replies
    exact hstart.of_effect (Nat.lt_succ_of_lt (Nat.lt_succ_self _)) (runEffect_invoke s tenant body)
  repository := h.repository
  cache := h.cache

/-- What the resolver returns has been read from the repository and verified. -/
theorem resolveNow_spec (h : Fresh deployment s) (tenantKey : String) (resolvedAt : Nat) :
    let resolved := deployment.resolver.resolveNow s.resolver tenantKey resolvedAt
    Fresh deployment { s with resolver := resolved.2 } ∧
      ∀ call context readAfter, resolved.1 = .returned call context readAfter →
        ∃ verifiedAt, deployment.resolver.verify tenantKey
          (deployment.env.testRepository tenantKey) verifiedAt = .ok context := by
  intro resolved
  rcases TenantResolver.checkCache_cases deployment.resolver s.resolver tenantKey with
    ⟨-, hphase⟩ | ⟨entry, hentry, -, hphase⟩ | ⟨error, hphase⟩
  · cases hverify : deployment.resolver.verify tenantKey
        (deployment.env.testRepository tenantKey) resolvedAt with
    | error error =>
        have hresolved : ∃ call, resolved = (.raised call error, s.resolver) := by
          refine ⟨⟨tenantKey, s.resolver.now, s.resolver.invalidations tenantKey⟩, ?_⟩
          simp only [resolved, TenantResolver.resolveNow, hphase, TenantResolver.act,
            h.repository, hverify, Option.getD_some]
        obtain ⟨call, hresolved⟩ := hresolved
        rw [hresolved]
        refine ⟨h, ?_⟩
        intro call context readAfter hreturned
        cases hreturned
    | ok context =>
        have hresolved : ∃ call readAfter, call.tenantKey = tenantKey ∧ resolved =
            (.returned call context readAfter,
              TenantResolver.store s.resolver call context readAfter) := by
          refine ⟨⟨tenantKey, s.resolver.now, s.resolver.invalidations tenantKey⟩,
            s.resolver.invalidations tenantKey, rfl, ?_⟩
          simp only [resolved, TenantResolver.resolveNow, hphase, TenantResolver.act,
            h.repository, hverify, Option.getD_some]
        obtain ⟨call, readAfter, hcall, hresolved⟩ := hresolved
        rw [hresolved]
        refine ⟨⟨h.threads, h.replies, h.repository, ?_⟩, ?_⟩
        · intro key entry hentry
          simp only [TenantResolver.cache_store] at hentry
          split at hentry
          next hkey =>
            obtain rfl := Option.some.inj hentry
            rw [hkey, hcall]
            exact ⟨resolvedAt, hverify⟩
          next => exact h.cache key entry hentry
        · intro call context' readAfter hreturned
          cases hreturned
          exact ⟨resolvedAt, hverify⟩
  · have hresolved : ∃ call, resolved =
        (.returned call entry.context entry.readAfter, s.resolver) := by
      refine ⟨⟨tenantKey, s.resolver.now, s.resolver.invalidations tenantKey⟩, ?_⟩
      simp only [resolved, TenantResolver.resolveNow, hphase, TenantResolver.act]
    obtain ⟨call, hresolved⟩ := hresolved
    rw [hresolved]
    refine ⟨h, ?_⟩
    intro call context readAfter hreturned
    cases hreturned
    exact h.cache tenantKey entry hentry
  · have hresolved : ∃ call, resolved = (.raised call error, s.resolver) := by
      refine ⟨⟨tenantKey, s.resolver.now, s.resolver.invalidations tenantKey⟩, ?_⟩
      simp only [resolved, TenantResolver.resolveNow, hphase, TenantResolver.act]
    obtain ⟨call, hresolved⟩ := hresolved
    rw [hresolved]
    refine ⟨h, ?_⟩
    intro call context readAfter hreturned
    cases hreturned

/-- A request is answered 404, or its tenant is the one of the environment. -/
theorem chat_cases (h : Fresh deployment s) (tenantKey : String) (body : ChatRequest) :
    (∃ resolver, Fresh deployment { s with resolver := resolver } ∧
        deployment.chat s tenantKey body = (.tenantNotFound, { s with resolver := resolver })) ∨
      ∃ resolver tenant, Fresh deployment { s with resolver := resolver } ∧
        deployment.env.isDevelopment = true ∧ tenantKey = deployment.env.iaraDevTenantKey ∧
        parseUuid deployment.env.iaraDevTenantId = some tenant.tenantId ∧
        deployment.chat s tenantKey body =
          deployment.invoke { s with resolver := resolver } tenant body := by
  obtain ⟨hfresh, hverified⟩ := resolveNow_spec h tenantKey s.runtime.world.now
  unfold chat
  simp only
  generalize deployment.resolver.resolveNow s.resolver tenantKey s.runtime.world.now = resolved
    at hfresh hverified ⊢
  split
  next call tenant readAfter hreturned =>
    obtain ⟨verifiedAt, hverify⟩ := hverified call tenant readAfter hreturned
    obtain ⟨hdevelopment, hkey, hid⟩ := devTenant_of_verify hverify
    exact .inr ⟨resolved.2, tenant, hfresh, hdevelopment, hkey, hid, rfl⟩
  next => exact .inl ⟨resolved.2, hfresh, rfl⟩

theorem Fresh.chat (h : Fresh deployment s) (tenantKey : String) (body : ChatRequest) :
    Fresh deployment (deployment.chat s tenantKey body).2 := by
  rcases chat_cases h tenantKey body with
    ⟨resolver, hfresh, hanswer⟩ | ⟨resolver, tenant, hfresh, -, -, -, hanswer⟩
  · rw [hanswer]
    exact hfresh
  · rw [hanswer]
    exact hfresh.invoke tenant body

/-! ### Histories of requests and jobs -/

theorem draws_deliver (worker : JobConsumerWorker) (rt : Runtime) (d : Workers.Delivery) :
    rt.world.draws ≤ (worker.deliver rt d).world.draws := by
  cases hruns : JobConsumerWorker.runsGraph d with
  | false =>
      have hsame := JobConsumerWorker.deliver_world_of_not_runs worker rt hruns
      exact Nat.le_of_eq (congrArg World.draws hsame.symm)
  | true =>
      have heffect : RunEffect (some (worker.runId rt)) _ (worker.worldAfter rt d) :=
        JobConsumerWorker.worldAfter_effect hruns
      have hdraws := heffect.draws
      simp only [startWorld, World.draw_draws] at hdraws
      exact Nat.le_trans (Nat.le_add_right _ 2) hdraws

theorem Fresh.apply (h : Fresh deployment s) (event : ChatEvent) :
    Fresh deployment (deployment.apply s event) := by
  cases event with
  | chat tenantKey body => exact h.chat tenantKey body
  | deliver d =>
      have hdraws := draws_deliver deployment.worker s.runtime d
      refine ⟨?_, ?_, h.repository, h.cache⟩
      · intro i hi
        exact h.threads i (Nat.le_trans hdraws hi)
      · have hreplies : FreshReplies deployment.worker.deps.uuids s.runtime.world := h.replies
        exact JobConsumerWorker.FreshReplies.deliver hreplies d
  | tick elapsed => exact ⟨h.threads, h.replies, h.repository, h.cache⟩
  | restart =>
      refine ⟨fun _ _ _ _ => rfl, h.replies, rfl, ?_⟩
      intro tenantKey entry hentry
      cases hentry

theorem fresh_initial (deployment : ChatDeployment) : Fresh deployment deployment.initial where
  threads _ _ _ _ := rfl
  replies := freshReplies_emptyRuntime _
  repository := rfl
  cache := by
    intro tenantKey entry hentry
    cases hentry

theorem Fresh.applyAll (h : Fresh deployment s) (events : List ChatEvent) :
    Fresh deployment (deployment.applyAll s events) := by
  induction events generalizing s with
  | nil => exact h
  | cons event events ih => exact ih (h.apply event)

/-- The system as it is after a loss of all chat threads. -/
def withoutThreads (s : ChatSystem) : ChatSystem := { s with threads := fun _ => {} }

theorem Fresh.withoutThreads (h : Fresh deployment s) : Fresh deployment (withoutThreads s) where
  threads := fun _ _ _ _ => rfl
  replies := h.replies
  repository := h.repository
  cache := h.cache

theorem invoke_withoutThreads (h : Fresh deployment s) (tenant : TenantContext)
    (body : ChatRequest) :
    (deployment.invoke (ChatDeployment.withoutThreads s) tenant body).1 =
        (deployment.invoke s tenant body).1 ∧
      (deployment.invoke (ChatDeployment.withoutThreads s) tenant body).2.runtime =
        (deployment.invoke s tenant body).2.runtime := by
  have hstart : deployment.startState (ChatDeployment.withoutThreads s) tenant body =
      deployment.startState s tenant body := by
    rw [startState_of_fresh h, startState_of_fresh h.withoutThreads]
    rfl
  have hrun : deployment.ainvoke (ChatDeployment.withoutThreads s) tenant body =
      deployment.ainvoke s tenant body := by
    unfold ainvoke
    rw [hstart]
    rfl
  unfold invoke
  simp only [hstart, hrun]
  exact ⟨rfl, rfl⟩

/-- The resolver does not look at the threads. -/
theorem chat_withoutThreads (h : Fresh deployment s) (tenantKey : String) (body : ChatRequest) :
    (deployment.chat (ChatDeployment.withoutThreads s) tenantKey body).1 =
        (deployment.chat s tenantKey body).1 ∧
      (deployment.chat (ChatDeployment.withoutThreads s) tenantKey body).2.runtime =
        (deployment.chat s tenantKey body).2.runtime := by
  have hfresh := (resolveNow_spec h tenantKey s.runtime.world.now).1
  unfold chat
  simp only [ChatDeployment.withoutThreads]
  generalize deployment.resolver.resolveNow s.resolver tenantKey s.runtime.world.now = resolved
    at hfresh ⊢
  cases hphase : resolved.1 with
  | returned call tenant readAfter => exact invoke_withoutThreads hfresh tenant body
  | _ => exact ⟨rfl, rfl⟩

theorem calls_of_invoke (h : Fresh deployment s) (tenant : TenantContext) (body : ChatRequest) :
    ∃ more, (deployment.invoke s tenant body).2.runtime.world.calls =
        s.runtime.world.calls ++ more ∧ (more = [] ∨ ∃ rest, more = .agentLlm :: rest) := by
  have hstart := startState_of_fresh h tenant body
  have hlimit : 3 < deployment.langGraph.recursionLimit :=
    Nat.lt_of_lt_of_le (by decide) deployment.langGraph.le_recursionLimit
  have hfailed : (deployment.startState s tenant body).failed = false := by
    rw [hstart]
    rfl
  have hsteps : (deployment.startState s tenant body).steps + 3 < maxToolIterations * 2 := by
    rw [hstart]
    change 0 + 3 < maxToolIterations * 2
    decide
  exact @calls_of_run _ _ (startWorld s.runtime) deployment.deps.llm rfl hfailed hsteps _ hlimit

end ChatDeployment

open ChatDeployment

/-- After every history of chat requests, jobs and restarts, a chat request is answered, and acts
on the database, as if no chat thread had ever been written; and the first call it makes is one
of the model, never the apology of the iteration guard. -/
theorem chat_starts_afresh (deployment : ChatDeployment) (events : List ChatEvent)
    (tenantKey : String) (body : ChatRequest) :
    let s := deployment.applyAll deployment.initial events
    let result := deployment.chat s tenantKey body
    (deployment.chat (withoutThreads s) tenantKey body).1 = result.1 ∧
      (deployment.chat (withoutThreads s) tenantKey body).2.runtime = result.2.runtime ∧
      ∃ more, result.2.runtime.world.calls = s.runtime.world.calls ++ more ∧
        (more = [] ∨ ∃ rest, more = .agentLlm :: rest) := by
  intro s result
  have hfresh : Fresh deployment s := (fresh_initial deployment).applyAll events
  obtain ⟨hanswer, hruntime⟩ := chat_withoutThreads hfresh tenantKey body
  refine ⟨hanswer, hruntime, ?_⟩
  rcases chat_cases hfresh tenantKey body with
    ⟨resolver, -, hchat⟩ | ⟨resolver, tenant, hresolved, -, -, -, hchat⟩
  · have hresult : result = (.tenantNotFound, { s with resolver := resolver }) := hchat
    rw [hresult]
    exact ⟨[], (List.append_nil _).symm, .inl rfl⟩
  · have hresult : result = deployment.invoke { s with resolver := resolver } tenant body := hchat
    rw [hresult]
    exact calls_of_invoke hresolved tenant body

section Example

/-- Settings with a model that answers every call alike. -/
def echoSettings : ProductionSettings where
  uuids := .unary
  filters :=
    { text := asciiText
      containsBlockedContent := fun _ => false
      lowConfidencePatterns := [] }
  llm := parrot
  mediaSubgraph := { processFromDicts := fun _ _ => .ok [] }
  memoryStore :=
    { enabled := false
      listRecent := fun _ _ => .ok []
      store := fun _ _ _ => .ok () }
  iaraMemoryEnabled := false
  iaraKanbanDefaultMode := .suggestOnly
  iaraCampaignDefaultMode := .draftOnly
  sessionFactory := fun _ => .commits
  handleRead := fun _ _ _ => .ok []
  followUp := plainRuntime

def echoDeps : ProductionDeps where
  uuids := .unary
  filters := echoSettings.filters
  llm := parrot
  registry := .buildDefault
  gateway := echoSettings.gateway .suggestOnly .draftOnly
  outboxService := { session := fun _ => .commits }
  mediaSubgraph := echoSettings.mediaSubgraph
  authGuard :=
    (Security.CommandAuthorizationGuard.mk asciiText []).register { tenantId := productionTenant }
  sessionFactory := fun _ => .commits

theorem deps_echoSettings : echoSettings.deps = .ok echoDeps := rfl

/-- The chat endpoint of a development environment. -/
def echoChat : ChatDeployment where
  env := {}
  settings := echoSettings
  deps := echoDeps
  built := deps_echoSettings
  langGraph := (plainWorker parrot).langGraph
  sha256 := id

def hello : ChatRequest where
  conversationId := "7"
  messages := [{ role := "user", content := "Oi" }]

/-- The system after a first request of the conversation. -/
def chatted : ChatSystem :=
  echoChat.applyAll echoChat.initial [.chat "test_tenant_001" hello]

theorem chat_starts_afresh_hello :
    (echoChat.chat chatted "test_tenant_001" hello).1 =
        .reply "Oi" "7" (echoChat.runId chatted) ∧
      (echoChat.chat (withoutThreads chatted) "test_tenant_001" hello).1 =
        .reply "Oi" "7" (echoChat.runId chatted) := by
  have hanswer : (echoChat.chat chatted "test_tenant_001" hello).1 =
      .reply "Oi" "7" (echoChat.runId chatted) := by decide +kernel
  have hafresh := chat_starts_afresh echoChat [.chat "test_tenant_001" hello] "test_tenant_001"
    hello
  exact ⟨hanswer, hafresh.1.trans hanswer⟩

end Example

end Iara.Api
