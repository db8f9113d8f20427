import Iara.Proofs.ModelPrompt

/-!
# What a job asks of other services for its attachments

A run understands the media of its job once, and of this job only: every request is one that the
settings allow for one of its attachments, and there are two for an attachment at most.
-/

namespace Iara.Graph

open Iara.Lib

/-- The media node is not to come any more. -/
def PastMedia (n : Node) : Prop := n ≠ .eligibility ∧ n ≠ .mediaUnderstanding

/-- From anywhere but the start no edge leads to the media node. -/
theorem pastMedia_of_route {n n' : Node} {s : GraphState} (hn : n ≠ .eligibility)
    (h : route n s = some (.goto n')) : PastMedia n' := by
  have hlater : n.prepares = false → PastMedia n' := by
    intro hprepares
    have hprepares' := prepares_of_route hprepares h
    constructor
    · rintro rfl
      cases hprepares'
    · rintro rfl
      cases hprepares'
  cases n with
  | eligibility => exact absurd rfl hn
  | commandAssistant => cases h
  | mediaUnderstanding =>
      rw [route_mediaUnderstanding_eq h]
      exact ⟨by decide, by decide⟩
  | contextBuilder =>
      rw [route_contextBuilder_eq h]
      exact ⟨by decide, by decide⟩
  | _ => exact hlater rfl

/-- The visits of the media node among the visits of a run. -/
def mediaVisits (visits : List GraphVisit) : List GraphVisit :=
  visits.filter fun v => v.node = .mediaUnderstanding

theorem length_mediaVisits_le (p : ProductionDeps) (limit : Nat) (n : Node) (s : GraphState)
    (w : World) : (mediaVisits ((buildProductionGraph p).execute limit n s w).1).length ≤ 1 := by
  have hself : ¬ PastMedia .mediaUnderstanding := fun h => h.2 rfl
  refine (buildProductionGraph p).length_visits_le_one hself ?_ limit n s w
  intro m t m' hm hroute
  apply pastMedia_of_route _ hroute
  rintro rfl
  cases hm with
  | inl hm => cases hm
  | inr hm => exact hm.1 rfl

theorem prepared_of_media_visit {p : ProductionDeps} {limit : Nat} {s : GraphState} {w : World}
    (hnew : s.metadataOrEmpty.mediaContexts = none) {v : GraphVisit}
    (hv : v ∈ ((buildProductionGraph p).execute limit .eligibility s w).1)
    (hmedia : v.node = .mediaUnderstanding) :
    v.pre.metadataOrEmpty = s.metadataOrEmpty ∧ v.worldBefore.draws = w.draws := by
  have hstart : Prepared p s.metadataOrEmpty w.draws .eligibility s w := ⟨rfl, rfl⟩
  have hprepared := ((buildProductionGraph p).visits_invariant
    (fun n t w' n' ht hroute => prepared_step hnew ht hroute) hstart v hv).1
  rw [hmedia] at hprepared
  exact hprepared

end Iara.Graph

namespace Iara.Workers

open Iara.Lib Iara.Graph Iara.Media Iara.Media.MediaUnderstandingSubgraph

variable {subgraph : Media.MediaUnderstandingSubgraph} {services : Nat → Nat → Services}

/-- What the media node asks in one visit. -/
def visitRequests (subgraph : Media.MediaUnderstandingSubgraph) (services : Nat → Nat → Services)
    (v : GraphVisit) : List Request :=
  (subgraph.processFromDicts (services v.worldBefore.draws) 0
    v.pre.metadataOrEmpty.attachments).2

/-- Where a PDF is sent, its bytes are in the URL. -/
theorem length_pdfRequest_le {pdf : PyBytes.Bytes} {bound : Nat} (h : pdf.length ≤ bound) :
    (pdfRequest pdf).imageUrl.length ≤ 28 + 4 * ((bound + 2) / 3) := by
  have hbase64 := PyBytes.length_base64_le h
  unfold pdfRequest
  have hscheme : "data:application/pdf;base64,".length = 28 := by decide
  simp only
  rw [String.length_append, hscheme, String.length_ofList]
  omega

/-- A request that carries no more of a file than the limit allows. -/
def WithinLimit (maxBytes : Nat) (att : Attachment) : Request → Prop
  | .get url => url = att.url
  | .transcribe request => request.content.length ≤ maxBytes
  | .complete request =>
      request.imageUrl = att.url ∨ request.imageUrl.length ≤ 28 + 4 * ((maxBytes + 2) / 3)

theorem withinLimit_of_permitted {services : Services} {att : Attachment} {request : Request}
    (h : Permitted subgraph services att request) :
    WithinLimit subgraph.maxBytes att request := by
  cases h with
  | audioDownload => rfl
  | documentDownload => rfl
  | transcription _ _ hbody => exact hbody.2.2
  | description => exact .inl rfl
  | scannedPdf _ _ _ hbody => exact .inr (length_pdfRequest_le hbody.2.2)

namespace JobConsumerWorker

/-- The requests of a run. -/
def mediaRequests (worker : JobConsumerWorker) (subgraph : Media.MediaUnderstandingSubgraph)
    (services : Nat → Nat → Services) (rt : Runtime) (payload : JobPayload) : List Request :=
  (mediaVisits (worker.ainvoke payload rt).1).flatMap (visitRequests subgraph services)

theorem visitRequests_eq {worker : JobConsumerWorker} {rt : Runtime} {payload : JobPayload}
    {v : GraphVisit} (hv : v ∈ mediaVisits (worker.ainvoke payload rt).1) :
    visitRequests subgraph services v =
      (subgraph.processFromDicts (services (startWorld rt).draws) 0 payload.attachments).2 := by
  obtain ⟨hrun, hmedia⟩ := List.mem_filter.1 hv
  have hmetadata := worker.metadata_startState payload rt
  have hprepared := prepared_of_media_visit (by rw [hmetadata]) hrun (of_decide_eq_true hmedia)
  unfold visitRequests
  rw [hprepared.1, hprepared.2, hmetadata]

/-- What is asked about one attachment, which `i` others come before. -/
def requestsAbout (subgraph : Media.MediaUnderstandingSubgraph) (services : Nat → Nat → Services)
    (rt : Runtime) (att : Attachment) (i : Nat) : List Request :=
  (subgraph.processAttachment (services (startWorld rt).draws i) att).2

/-- The media node is visited at most once, and then asks about one attachment after the other. -/
theorem mediaRequests_eq (worker : JobConsumerWorker) (subgraph : Media.MediaUnderstandingSubgraph)
    (services : Nat → Nat → Services) (rt : Runtime) (payload : JobPayload) :
    worker.mediaRequests subgraph services rt payload = [] ∨
      worker.mediaRequests subgraph services rt payload =
        payload.attachments.zipIdx.flatMap fun p => requestsAbout subgraph services rt p.1 p.2 := by
  have hone := length_mediaVisits_le worker.deps worker.langGraph.recursionLimit .eligibility
    (worker.startState payload rt) (startWorld rt)
  unfold mediaRequests
  cases hvisits : mediaVisits (worker.ainvoke payload rt).1 with
  | nil => exact .inl rfl
  | cons v rest =>
      have hrest : rest = [] := by
        unfold ainvoke at hvisits
        rw [hvisits, List.length_cons] at hone
        exact List.length_eq_zero_iff.1 (by omega)
      have hv : v ∈ mediaVisits (worker.ainvoke payload rt).1 := hvisits ▸ List.mem_cons_self
      right
      rw [hrest, List.flatMap_cons, List.flatMap_nil, List.append_nil, visitRequests_eq hv,
        processFromDicts_requests]
      rfl

/-- Whatever the thread has seen: a run asks about the attachments of its job or asks nothing, and
about each attachment it asks two things at most, each of them permitted for this attachment, and
no file goes out that is over the limit. -/
theorem media_requests_permitted (worker : JobConsumerWorker)
    (subgraph : Media.MediaUnderstandingSubgraph) (services : Nat → Nat → Services) (rt : Runtime)
    (payload : JobPayload) :
    (worker.mediaRequests subgraph services rt payload = [] ∨
      worker.mediaRequests subgraph services rt payload =
        payload.attachments.zipIdx.flatMap fun p => requestsAbout subgraph services rt p.1 p.2) ∧
      ∀ att i,
        (requestsAbout subgraph services rt att i).length ≤ 2 ∧
          ∀ request ∈ requestsAbout subgraph services rt att i,
            Permitted subgraph (services (startWorld rt).draws i) att request ∧
              WithinLimit subgraph.maxBytes att request := by
  refine ⟨worker.mediaRequests_eq subgraph services rt payload, ?_⟩
  intro att i
  have hasks : Asks subgraph (services (startWorld rt).draws i) att
      (requestsAbout subgraph services rt att i) := processAttachment_handled.2
  refine ⟨hasks.length, ?_⟩
  intro request hrequest
  have hpermitted := hasks.permitted request hrequest
  exact ⟨hpermitted, withinLimit_of_permitted hpermitted⟩

end JobConsumerWorker

end Iara.Workers
