import Iara.Graph.Production
import Iara.Lib.PyLines
import Iara.Proofs.ModelPrompt
import Iara.Workers.Remembering
import Mathlib.Data.List.Perm.Subperm

/-!
# What jobs leave in the memory table

Along a history of deliveries the table holds facts of the conversations of the jobs, three of each
at most, and the prompts of the agent show the recent ones of the whole namespace.
In production the tenant of the store is no UUID, so that no fact is ever stored.
-/

namespace Iara.Graph

open Iara.Lib Iara.Persistence

/-! ## The facts of a run -/

/-- A fact as the memory writer files it. -/
structure IsFact (conversationId key content : String) : Prop where
  key : ∃ i, i < maxFacts ∧ key = conversationId ++ ":fact_" ++ toString i
  long : 5 < content.length
  short : content.length ≤ 200
  line : ∀ c ∈ content.toList, PyStr.isLineBreak c = false

theorem length_extractFacts_le (text : PyText) (content : LlmContent) :
    (extractFacts text content).length ≤ maxFacts := by
  unfold extractFacts
  simp only
  split
  · exact Nat.zero_le _
  · exact List.length_take_le _ _

/-- A fact is the start of one line of the answer, without its dash. -/
theorem spec_of_mem_extractFacts {text : PyText} {content : LlmContent} {fact : String}
    (h : fact ∈ extractFacts text content) :
    5 < fact.length ∧ fact.length ≤ 200 ∧
      ∀ c ∈ fact.toList, PyStr.isLineBreak c = false := by
  unfold extractFacts at h
  simp only at h
  split at h
  next => cases h
  next =>
    obtain ⟨line, hline, hfact⟩ := List.mem_filterMap.1 (List.mem_of_mem_take h)
    have hbreaks := PyStr.isLineBreak_of_mem_splitlines hline
    have hcut : ∀ cut : String, (∀ c ∈ cut.toList, c ∈ line.toList) →
        (if 5 < cut.length then some (PyStr.slice cut 200) else none) = some fact →
        5 < fact.length ∧ fact.length ≤ 200 ∧ ∀ c ∈ fact.toList, PyStr.isLineBreak c = false := by
      intro cut hchars hsome
      split at hsome
      next hlong =>
        rw [← Option.some.inj hsome, PyStr.length_slice]
        refine ⟨by omega, by omega, ?_⟩
        intro c hc
        exact hbreaks c (hchars c (PyStr.mem_slice hc))
      next => cases hsome
    split at hfact
    next =>
      apply hcut _ _ hfact
      intro c hc
      exact PyStr.mem_strip (PyStr.mem_sliceFrom (PyStr.mem_strip hc))
    next =>
      apply hcut _ _ hfact
      intro c hc
      exact PyStr.mem_strip hc

/-- The calls between two worlds store nothing but facts of a conversation. -/
def Remembers (conversationId : String) (w w' : World) : Prop :=
  ∃ more, w'.calls = w.calls ++ more ∧
    ∀ key content, Call.memoryStore key content ∈ more → IsFact conversationId key content

namespace Remembers

variable {conversationId : String} {w w₁ w₂ : World}

theorem of_eq (h : w₁.calls = w.calls) : Remembers conversationId w w₁ :=
  ⟨[], by rw [h, List.append_nil], by simp⟩

theorem trans (h : Remembers conversationId w w₁) (h' : Remembers conversationId w₁ w₂) :
    Remembers conversationId w w₂ := by
  obtain ⟨more, hmore, hfacts⟩ := h
  obtain ⟨more', hmore', hfacts'⟩ := h'
  refine ⟨more ++ more', by rw [hmore', hmore, List.append_assoc], ?_⟩
  intro key content hmem
  cases List.mem_append.1 hmem with
  | inl hmem => exact hfacts key content hmem
  | inr hmem => exact hfacts' key content hmem

/-- A call that is no store. -/
theorem of_log {c : Call} (hc : ∀ key content, c ≠ .memoryStore key content) :
    Remembers conversationId w (w.draw.log c) := by
  refine ⟨[c], rfl, ?_⟩
  intro key content hmem
  exact absurd (List.mem_singleton.1 hmem).symm (hc key content)

end Remembers

variable {s : GraphState} {w : World}

theorem storeFacts_remembers (store : PostgresMemoryStore) (conversationId : String) {i : Nat}
    {facts : List String} (hcount : i + facts.length ≤ maxFacts)
    (hfacts : ∀ fact ∈ facts, 5 < fact.length ∧ fact.length ≤ 200 ∧
      ∀ c ∈ fact.toList, PyStr.isLineBreak c = false) :
    Remembers conversationId w (storeFacts store conversationId i facts w) := by
  induction facts generalizing i w with
  | nil => exact .of_eq rfl
  | cons fact rest ih =>
      rw [List.length_cons] at hcount
      obtain ⟨hlong, hshort, hline⟩ := hfacts fact List.mem_cons_self
      have hlog : Remembers conversationId w
          (w.draw.log (.memoryStore (conversationId ++ ":fact_" ++ toString i) fact)) := by
        refine ⟨_, rfl, ?_⟩
        intro key content hmem
        obtain ⟨rfl, rfl⟩ := Call.memoryStore.inj (List.mem_singleton.1 hmem)
        exact ⟨⟨i, by omega, rfl⟩, hlong, hshort, hline⟩
      unfold storeFacts
      simp only
      split
      · exact hlog.trans (ih (by omega) fun f hf => hfacts f (List.mem_cons_of_mem _ hf))
      · exact hlog

theorem runNode_remembers (deps : Deps) (n : Node) (s : GraphState) (w : World) :
    Remembers (s.conversationId.getD "") w (runNode deps n s w).2 := by
  by_cases hagent : n = .agent
  · subst hagent
    unfold runNode agentNode
    cases deps.llm with
    | none => exact .of_eq rfl
    | some llm =>
        simp only
        split
        · exact ⟨[.maxIterations], rfl, by simp⟩
        · split <;> exact .of_log (by simp)
  · by_cases hwriter : n = .memoryWriter
    · subst hwriter
      unfold runNode memoryWriterNode
      simp only
      split
      next store llm =>
        split
        · exact .of_eq rfl
        · split
          · exact .of_log (by simp)
          · refine Remembers.trans (.of_log (by simp)) (storeFacts_remembers _ _ ?_ ?_)
            · rw [Nat.zero_add]
              exact length_extractFacts_le _ _
            · intro fact hfact
              exact spec_of_mem_extractFacts hfact
      next => exact .of_eq rfl
    · exact .of_eq (runNode_calls hagent hwriter)

end Iara.Graph

namespace Iara.Workers

open Iara.Lib Iara.Persistence Iara.Graph Iara.Memory

namespace JobConsumerWorker

variable {worker : JobConsumerWorker} {rt : Runtime} {d : Delivery}

theorem visit_remembers {payload : JobPayload} {v : GraphVisit}
    (hv : v ∈ (worker.ainvoke payload rt).1) :
    Remembers payload.conversationId rt.world v.worldBefore ∧
      Remembers payload.conversationId rt.world v.worldAfter := by
  have hstart : (worker.startState payload rt).conversationId = some payload.conversationId ∧
      Remembers payload.conversationId rt.world (startWorld rt) := ⟨rfl, .of_eq rfl⟩
  have hvisits := (buildProductionGraph worker.deps).visits_preserve
    (P := fun t w => t.conversationId = some payload.conversationId ∧
      Remembers payload.conversationId rt.world w) ?_ hstart v hv
  · exact ⟨hvisits.1.2, hvisits.2.2⟩
  · rintro n t w ⟨hconversation, hw⟩
    have hself : SameRun t t := ⟨rfl, rfl⟩
    have hmerged := hself.merge (runNode_update worker.deps.deps n t w)
    have hnode := runNode_remembers worker.deps.deps n t w
    rw [hconversation] at hnode
    exact ⟨hmerged.conversationId.trans hconversation, hw.trans hnode⟩

theorem deliver_remembers (worker : JobConsumerWorker) (rt : Runtime) (d : Delivery) :
    Remembers d.payload.conversationId rt.world (worker.deliver rt d).world := by
  have hwhole : Remembers d.payload.conversationId rt.world
      (StateGraph.worldAfter (startWorld rt) (worker.ainvoke d.payload rt).1) :=
    StateGraph.worldAfter_induction (P := Remembers d.payload.conversationId rt.world)
      (.of_eq rfl) fun _ hv => (visit_remembers hv).2
  cases hruns : runsGraph d with
  | false =>
      rw [deliver_world_of_not_runs worker rt hruns]
      exact .of_eq rfl
  | true =>
      change Remembers _ _ (worker.worldAfter rt d)
      unfold worldAfter
      simp only [hruns, if_true]
      split
      · exact hwhole
      · split
        next v hv =>
          have hbefore := (visit_remembers (List.mem_of_getElem? hv)).1
          unfold interruptedWorld
          split
          · obtain ⟨more, hmore, hcaller⟩ := (executeToolCalls_effect (s := v.pre)
              (w := v.worldBefore) worker.deps.uuids worker.deps.gateway _).calls
            refine hbefore.trans (.of_eq ?_)
            have hnone : more = [] := by
              by_contra hne
              cases hcaller hne with
              | inl hnode => cases hnode
              | inr hnode => cases hnode
            rw [hmore, hnone, List.append_nil]
          · exact hbefore
        next => exact hwhole

end JobConsumerWorker

/-! ## The rows -/

/-- A row with a fact of one of the conversations, filed under the tenant of the store. -/
structure Filed (store : Memory.PostgresMemoryStore) (conversations : List String)
    (row : AgentMemoryItem) : Prop where
  memoryNamespace : row.memoryNamespace = store.memoryNamespace
  tenant : parseUuid store.tenantId = some row.tenantId
  fact : ∃ conversation ∈ conversations, IsFact conversation row.itemKey row.content

section Rows

variable {store : Memory.PostgresMemoryStore} {io : MemoryIo} {items : AgentMemoryItems}
  {conversations : List String}

theorem Filed.mono {conversations' : List String} {row : AgentMemoryItem}
    (h : Filed store conversations row) (hsub : conversations ⊆ conversations') :
    Filed store conversations' row := by
  obtain ⟨conversation, hmem, hfact⟩ := h.fact
  exact ⟨h.memoryNamespace, h.tenant, conversation, hsub hmem, hfact⟩

theorem storeItem_filed {conversation key content : String}
    (h : ∀ row ∈ items.rows, Filed store conversations row) (hmem : conversation ∈ conversations)
    (hfact : IsFact conversation key content) :
    ∀ row ∈ (storeItem store io key content items).2.rows, Filed store conversations row := by
  unfold storeItem Memory.PostgresMemoryStore.store
  split
  · exact h
  · split
    · apply finish_induction (P := fun t => ∀ row ∈ t.rows, Filed store conversations row) h
      intro row hrow
      obtain ⟨old, hold, rfl⟩ := Table.mem_update.1 hrow
      have hfiled := h old hold
      split
      next hitem =>
        have hkey : old.itemKey = key := (of_decide_eq_true hitem).2
        exact ⟨hfiled.memoryNamespace, hfiled.tenant, conversation, hmem, hkey ▸ hfact⟩
      next => exact hfiled
    · split
      · exact h
      next tenant htenant =>
        apply finish_induction (P := fun t => ∀ row ∈ t.rows, Filed store conversations row) h
        intro row hrow
        cases Table.mem_insertOrIgnore hrow with
        | inl hrow => exact h row hrow
        | inr hrow =>
            rw [hrow.1]
            exact ⟨rfl, htenant, conversation, hmem, hfact⟩

theorem applyCalls_filed {conversation : String} (hmem : conversation ∈ conversations)
    {calls : List Call}
    (hcalls : ∀ key content, Call.memoryStore key content ∈ calls →
      IsFact conversation key content)
    (h : ∀ row ∈ items.rows, Filed store conversations row) :
    ∀ row ∈ (calls.foldl (applyCall store io) items).rows, Filed store conversations row := by
  induction calls generalizing items with
  | nil => exact h
  | cons c calls ih =>
      rw [List.foldl_cons]
      apply ih fun key content hcall => hcalls key content (List.mem_cons_of_mem _ hcall)
      cases c with
      | memoryStore key content =>
          exact storeItem_filed h hmem (hcalls key content List.mem_cons_self)
      | _ => exact h

end Rows

/-- The conversations of a history. -/
def conversationsOf (ms : List RememberedDelivery) : List String :=
  ms.map fun m => m.delivery.payload.conversationId

theorem rememberAll_filed (worker : JobConsumerWorker) (store : Memory.PostgresMemoryStore)
    {r : Remembered} {ms : List RememberedDelivery} {conversations : List String}
    (hsub : conversationsOf ms ⊆ conversations)
    (h : ∀ row ∈ r.items.rows, Filed store conversations row) :
    ∀ row ∈ (worker.rememberAll store r ms).items.rows, Filed store conversations row := by
  induction ms generalizing r with
  | nil => exact h
  | cons m ms ih =>
      obtain ⟨hmem, hrest⟩ := List.cons_subset.1 hsub
      obtain ⟨more, hmore, hfacts⟩ :=
        (worker.withMemory store m.io r.items).deliver_remembers r.runtime m.delivery
      apply ih hrest
      have hcalls : JobConsumerWorker.callsSince r.runtime.world
          ((worker.withMemory store m.io r.items).deliver r.runtime m.delivery).world = more := by
        unfold JobConsumerWorker.callsSince
        rw [hmore, List.drop_left]
      unfold JobConsumerWorker.remember
      simp only
      rw [hcalls]
      exact applyCalls_filed hmem hfacts h

/-- The keys that a conversation has for its facts. -/
def factKeys (conversation : String) : List String :=
  (List.range maxFacts).map fun i => conversation ++ ":fact_" ++ toString i

/-- The rows of one namespace have different keys, so that a conversation has no more rows than
keys. -/
theorem length_rowsOf_le {store : Memory.PostgresMemoryStore} {items : AgentMemoryItems}
    {conversations : List String} (h : ∀ row ∈ items.rows, Filed store conversations row)
    (conversation : String) :
    (items.rows.filter fun row => row.itemKey ∈ factKeys conversation).length ≤ 3 := by
  have hnodup : (items.rows.map AgentMemoryItem.itemKey).Nodup := by
    apply List.Nodup.of_map (fun key => (store.memoryNamespace, key))
    have hkeys : (items.rows.map AgentMemoryItem.itemKey).map
        (fun key => (store.memoryNamespace, key)) = items.rows.map AgentMemoryItem.key := by
      rw [List.map_map]
      apply List.map_congr_left
      intro row hrow
      exact Prod.ext (h row hrow).memoryNamespace.symm rfl
    rw [hkeys]
    exact items.unique
  have hfiltered : ((items.rows.filter fun row => row.itemKey ∈ factKeys conversation).map
      AgentMemoryItem.itemKey).Nodup :=
    hnodup.sublist (List.filter_sublist.map _)
  have hsub : (items.rows.filter fun row => row.itemKey ∈ factKeys conversation).map
      AgentMemoryItem.itemKey ⊆ factKeys conversation := by
    intro key hkey
    obtain ⟨row, hrow, rfl⟩ := List.mem_map.1 hkey
    exact of_decide_eq_true (List.mem_filter.1 hrow).2
  rw [← List.length_map (f := AgentMemoryItem.itemKey)]
  exact (hfiltered.subperm hsub).length_le

/-! ## The memory section -/

/-- The section of up to five recent items, where they can be read: nothing is shown of a store
that is disabled, or when the session fails. -/
def recentSection (store : Memory.PostgresMemoryStore) (io : MemoryIo) (items : AgentMemoryItems) :
    String :=
  if store.enabled = true ∧ io.reading = .commits then
    memorySection ((store.recent 5 io.readAt items).map AgentMemoryItem.content)
  else ""

theorem readMemory_answering (store : Memory.PostgresMemoryStore) (io : MemoryIo)
    (items : AgentMemoryItems) (draw : Nat) :
    readMemory (some (answering store io items)) draw = recentSection store io items := by
  unfold readMemory recentSection answering Memory.PostgresMemoryStore.listRecent
  cases store.enabled with
  | false => rfl
  | true => cases io.reading <;> rfl

/-- The prompt of every call of the agent's model in a run that has a store over a table. -/
theorem prompt_withMemory {worker : JobConsumerWorker} {store : Memory.PostgresMemoryStore}
    {io : MemoryIo} {items : AgentMemoryItems} {rt : Runtime} {payload : JobPayload}
    {v : GraphVisit} (hv : v ∈ ((worker.withMemory store io items).ainvoke payload rt).1)
    (hagent : v.node = .agent) :
    llmInput v.pre =
      .system (worker.deps.promptWith (recentSection store io items ++
        buildMediaSection (worker.deps.contextsOf (JobConsumerWorker.startWorld rt).draws
          payload.attachments))) :: v.pre.history := by
  have hmetadata := (worker.withMemory store io items).metadata_startState payload rt
  have hprompt := prompt_of_agent_visit (by rw [hmetadata]) hv hagent
  rw [hmetadata] at hprompt
  rw [← readMemory_answering store io items
    (if payload.attachments.isEmpty then (JobConsumerWorker.startWorld rt).draws
      else (JobConsumerWorker.startWorld rt).draws + 1)]
  exact llmInput_of_prompt hprompt

/-- Along every history of deliveries from an empty table: each row holds a fact of one of the
conversations, under the tenant of the store whatever the tenants of the jobs are, each
conversation has three rows at most, and the prompts of the agent in the next job, whichever it
is, begin their context with the recent rows of the whole namespace. -/
theorem memory_of_jobs (worker : JobConsumerWorker) (store : Memory.PostgresMemoryStore)
    (start : Runtime) (ms : List RememberedDelivery) :
    let r := worker.rememberAll store { runtime := start, items := .empty } ms
    (∀ row ∈ r.items.rows, Filed store (conversationsOf ms) row) ∧
      (∀ conversation,
        (r.items.rows.filter fun row => row.itemKey ∈ factKeys conversation).length ≤ 3) ∧
      ∀ payload io, ∀ v ∈ ((worker.withMemory store io r.items).ainvoke payload r.runtime).1,
        v.node = .agent →
          ∃ media, llmInput v.pre =
            .system (worker.deps.promptWith (recentSection store io r.items ++ media)) ::
              v.pre.history := by
  have hempty : ∀ row ∈ (Remembered.mk start .empty).items.rows,
      Filed store (conversationsOf ms) row := List.forall_mem_nil _
  have hfiled := rememberAll_filed worker store (List.Subset.refl (conversationsOf ms)) hempty
  refine ⟨hfiled, length_rowsOf_le hfiled, ?_⟩
  intro payload io v hv hagent
  exact ⟨_, prompt_withMemory hv hagent⟩

/-! ## The store of production -/

/-- The store that `build_production_graph` makes. -/
def productionStore (memoryNamespace : Option String) (enabled : Bool) (ttlDays : Int) :
    Memory.PostgresMemoryStore :=
  .init productionTenant memoryNamespace enabled ttlDays

section Production

variable {store : Memory.PostgresMemoryStore} {io : MemoryIo} {items : AgentMemoryItems}

/-- No row of the namespace is there. -/
def Unused (store : Memory.PostgresMemoryStore) (items : AgentMemoryItems) : Prop :=
  ∀ row ∈ items.rows, row.memoryNamespace ≠ store.memoryNamespace

/-- A new row needs a tenant that is a UUID. -/
theorem storeItem_of_unused (htenant : parseUuid store.tenantId = none)
    (hunused : Unused store items) (key content : String) :
    (storeItem store io key content items).2 = items := by
  have hnone : items.find (store.memoryNamespace, key) = none := by
    apply Table.find_eq_none_iff.2
    intro row hrow hkey
    exact hunused row hrow (congrArg Prod.fst hkey)
  unfold storeItem Memory.PostgresMemoryStore.store
  split
  · rfl
  · rw [hnone, htenant]

theorem applyCalls_of_unused (htenant : parseUuid store.tenantId = none)
    (hunused : Unused store items) (calls : List Call) :
    calls.foldl (applyCall store io) items = items := by
  induction calls with
  | nil => rfl
  | cons c calls ih =>
      have hcall : applyCall store io items c = items := by
        cases c with
        | memoryStore key content => exact storeItem_of_unused htenant hunused key content
        | _ => rfl
      rw [List.foldl_cons, hcall, ih]

theorem rememberAll_of_unused (worker : JobConsumerWorker)
    (htenant : parseUuid store.tenantId = none) {r : Remembered}
    (hunused : Unused store r.items) (ms : List RememberedDelivery) :
    (worker.rememberAll store r ms).items = r.items := by
  induction ms generalizing r with
  | nil => rfl
  | cons m ms ih =>
      have hitems : (worker.remember store r m).items = r.items :=
        applyCalls_of_unused htenant hunused _
      change (worker.rememberAll store (worker.remember store r m) ms).items = r.items
      rw [ih (hitems.symm ▸ hunused), hitems]

theorem recentSection_of_unused (hunused : Unused store items) :
    recentSection store io items = "" := by
  have hrecent : store.recent 5 io.readAt items = [] := by
    apply List.eq_nil_iff_forall_not_mem.2
    intro row hrow
    have hlive := List.mem_mergeSort.1 (List.mem_of_mem_take hrow)
    obtain ⟨hmem, hnamespace⟩ := List.mem_filter.1 hlive
    exact hunused row hmem (of_decide_eq_true hnamespace).1
  unfold recentSection
  split
  · rw [hrecent]
    rfl
  · rfl

end Production

/-- In production no job is ever remembered: the tenant of the store is no UUID, so that whatever
is delivered the table stays as it is, and no prompt has a memory section. -/
theorem production_remembers_nothing (worker : JobConsumerWorker) (memoryNamespace : Option String)
    (enabled : Bool) (ttlDays : Int) (start : Remembered)
    (hunused : Unused (productionStore memoryNamespace enabled ttlDays) start.items)
    (ms : List RememberedDelivery) :
    let store := productionStore memoryNamespace enabled ttlDays
    let r := worker.rememberAll store start ms
    r.items = start.items ∧
      ∀ payload io, ∀ v ∈ ((worker.withMemory store io r.items).ainvoke payload r.runtime).1,
        v.node = .agent →
          llmInput v.pre =
            .system (worker.deps.promptWith (buildMediaSection (worker.deps.contextsOf
              (JobConsumerWorker.startWorld r.runtime).draws payload.attachments))) ::
              v.pre.history := by
  have htenant : parseUuid (productionStore memoryNamespace enabled ttlDays).tenantId = none :=
    parseUuid_productionTenant
  have hitems := rememberAll_of_unused worker htenant hunused ms
  refine ⟨hitems, ?_⟩
  intro payload io v hv hagent
  rw [prompt_withMemory hv hagent, recentSection_of_unused (hitems.symm ▸ hunused),
    String.empty_append]

/-! ## A fact to remember -/

section Example

/-- Answers every call with a fact. -/
def chatty : Llm where
  ainvoke _ _ _ := .ok { content := .text "- Prefere manhãs" }

def afterGreeting : Remembered :=
  (plainWorker chatty).rememberAll (productionStore (some "default") true 90)
    { runtime := emptyRuntime, items := .empty } [{ delivery := { payload := greeting }, io := {} }]

/-- The fact is found, and the call that should store it fails. -/
theorem production_remembers_nothing_greeting :
    Call.memoryStore "7:fact_0" "Prefere manhãs" ∈ afterGreeting.runtime.world.calls ∧
      afterGreeting.items.rows = [] := by
  have hitems := (production_remembers_nothing (plainWorker chatty) (some "default") true 90
    { runtime := emptyRuntime, items := .empty } (List.forall_mem_nil _)
    [{ delivery := { payload := greeting }, io := {} }]).1
  exact ⟨by decide +kernel, congrArg Table.rows hitems⟩

/-- The same with a tenant that is a UUID. -/
example :
    (((plainWorker chatty).rememberAll
      (.init "00000000000000000000000000000001" (some "default") true 90)
      { runtime := emptyRuntime, items := .empty }
      [{ delivery := { payload := greeting }, io := {} }]).items.rows.map
        AgentMemoryItem.content) = ["Prefere manhãs"] := by decide +kernel

end Example

end Iara.Workers
