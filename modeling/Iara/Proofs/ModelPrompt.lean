import Iara.Media.Policy
import Iara.Workers.History

/-!
# The prompt of a model call

Every model call of a run gets the system prompt that the context builder has made for the job:
its media section has a line for each attachment of the job at most, and each line is a bounded
piece of a text that the media subgraph may read.
-/

namespace Iara.Graph

open Iara.Lib Iara.Tools

/-! ## The media section by lines -/

def mediaHeader (mediaType : String) : String :=
  if PyStr.contains mediaType "audio" then "- Transcrição de áudio: "
  else if PyStr.contains mediaType "image" then "- Descrição de imagem: "
  else "- Documento (" ++ mediaType ++ "): "

/-- The text of a context that the section shows. -/
def shownText (ctx : MediaContext) : String :=
  let extracted := ctx.extractedText.getD ""
  if PyStr.truthy extracted then extracted else ctx.description.getD ""

def mediaLine (ctx : MediaContext) : Option String :=
  if ctx.status = .complete ∨ ctx.status = .partially then
    if PyStr.truthy (shownText ctx) then
      some (mediaHeader ctx.mediaType ++ PyStr.slice (shownText ctx) 2000)
    else none
  else none

def mediaSectionOf (lines : List String) : String :=
  if lines.isEmpty then ""
  else PyStr.join "\n" ("\nCONTEÚDO DE MÍDIA PROCESSADO:" :: lines) ++ "\n"

theorem buildMediaSection_eq (contexts : List MediaContext) :
    buildMediaSection contexts = mediaSectionOf (contexts.filterMap mediaLine) := by
  have hentry : ∀ ctx : MediaContext, mediaLine ctx =
      if ctx.status = .complete ∨ ctx.status = .partially then
        if !PyStr.truthy (shownText ctx) then none
        else if PyStr.contains ctx.mediaType "audio" then
          some ("- Transcrição de áudio: " ++ PyStr.slice (shownText ctx) 2000)
        else if PyStr.contains ctx.mediaType "image" then
          some ("- Descrição de imagem: " ++ PyStr.slice (shownText ctx) 2000)
        else some ("- Documento (" ++ ctx.mediaType ++ "): " ++ PyStr.slice (shownText ctx) 2000)
      else none := by
    intro ctx
    unfold mediaLine mediaHeader
    cases PyStr.truthy (shownText ctx) with
    | false => rfl
    | true =>
        cases PyStr.contains ctx.mediaType "audio" with
        | true => rfl
        | false => cases PyStr.contains ctx.mediaType "image" <;> rfl
  rw [funext hentry]
  rfl

theorem mediaLine_eq_some {ctx : MediaContext} {line : String} (h : mediaLine ctx = some line) :
    line = mediaHeader ctx.mediaType ++ PyStr.slice (shownText ctx) 2000 ∧
      (ctx.extractedText = some (shownText ctx) ∨ ctx.description = some (shownText ctx)) := by
  unfold mediaLine at h
  split at h
  next =>
    split at h
    next htruthy =>
      refine ⟨(Option.some.inj h).symm, ?_⟩
      have hsome : ∀ text : Option String, PyStr.truthy (text.getD "") = true →
          text = some (text.getD "") := by
        intro text htext
        cases text with
        | none => cases htext
        | some text => rfl
      unfold shownText at htruthy ⊢
      simp only at htruthy ⊢
      split at htruthy
      next hextracted =>
        rw [if_pos hextracted]
        exact .inl (hsome _ hextracted)
      next hextracted =>
        rw [if_neg hextracted]
        exact .inr (hsome _ htruthy)
    next => cases h
  next => cases h

/-! ## The prompt -/

/-- The system prompt with the sections that depend on the job. -/
def ProductionDeps.promptWith (p : ProductionDeps) (sections : String) : String :=
  let activeTools := p.registry.getActiveTools.map AgentToolDefinition.toolName
  let guidance := p.skillResolver.buildToolGuidanceSection activeTools
  if activeTools.isEmpty then noToolsPrompt sections
  else
    systemPrompt
      (if PyStr.truthy guidance then guidance else "Consulte as ferramentas disponíveis.")
      sections

/-- The contexts that the media node leaves for the attachments of a job. -/
def ProductionDeps.contextsOf (p : ProductionDeps) (draw : Nat) (attachments : List Attachment) :
    List MediaContext :=
  if attachments.isEmpty then []
  else ((p.mediaSubgraph.processFromDicts draw attachments).toOption).getD []

/-- The sections of the prompt for a job whose run comes to the media node after so many draws. -/
def ProductionDeps.sectionsOf (p : ProductionDeps) (draw : Nat) (attachments : List Attachment) :
    String :=
  readMemory p.memoryStore (if attachments.isEmpty then draw else draw + 1) ++
    buildMediaSection (p.contextsOf draw attachments)

/-! ## The way of the metadata through a run -/

/-- The nodes before the agent. -/
def Node.prepares : Node → Bool
  | .eligibility | .commandAssistant | .mediaUnderstanding | .contextBuilder => true
  | _ => false

theorem route_eligibility_cases {s : GraphState} {n' : Node}
    (h : route .eligibility s = some (.goto n')) :
    n' = .commandAssistant ∨ n' = .mediaUnderstanding := by
  have hpaths : ∀ l, eligibilityPaths l = some (.goto n') →
      n' = .commandAssistant ∨ n' = .mediaUnderstanding := by
    intro l hl
    cases l <;> cases hl
    · exact .inl rfl
    · exact .inr rfl
  exact hpaths _ h

theorem route_mediaUnderstanding_eq {s : GraphState} {n' : Node}
    (h : route .mediaUnderstanding s = some (.goto n')) : n' = .contextBuilder := by
  have hpaths : ∀ l, mediaPaths l = some (.goto n') → n' = .contextBuilder := by
    intro l hl
    cases l <;> cases hl
    rfl
  exact hpaths _ h

theorem route_contextBuilder_eq {s : GraphState} {n' : Node}
    (h : route .contextBuilder s = some (.goto n')) : n' = .agent := by
  have hpaths : ∀ l, contextPaths l = some (.goto n') → n' = .agent := by
    intro l hl
    cases l <;> cases hl
    rfl
  exact hpaths _ h

/-- No edge leads back from the agent's part of the graph. -/
theorem prepares_of_route {n n' : Node} {s : GraphState} (hn : n.prepares = false)
    (h : route n s = some (.goto n')) : n'.prepares = false := by
  have hpaths : ∀ l, (agentPaths l = some (.goto n') → n'.prepares = false) ∧
      (toolPaths l = some (.goto n') → n'.prepares = false) ∧
      (guardrailsPaths l = some (.goto n') → n'.prepares = false) ∧
      (dispatchPaths l = some (.goto n') → n'.prepares = false) := by
    intro l
    cases n' with
    | eligibility => cases l <;> decide
    | commandAssistant => cases l <;> decide
    | mediaUnderstanding => cases l <;> decide
    | contextBuilder => cases l <;> decide
    | _ => exact ⟨fun _ => rfl, fun _ => rfl, fun _ => rfl, fun _ => rfl⟩
  cases n with
  | eligibility => cases hn
  | commandAssistant => cases hn
  | mediaUnderstanding => cases hn
  | contextBuilder => cases hn
  | agent => exact (hpaths _).1 h
  | toolExecutor => exact (hpaths _).2.1 h
  | guardrails => exact (hpaths _).2.2.1 h
  | commandDispatch => exact (hpaths _).2.2.2 h
  | hitl => cases h
  | memoryWriter => cases h

theorem metadataOrEmpty_merge_of_none {s u : GraphState} (h : u.metadata = none) :
    (s.merge u).metadataOrEmpty = s.metadataOrEmpty := by
  unfold GraphState.metadataOrEmpty GraphState.merge
  rw [h, Option.none_or]

theorem metadataOrEmpty_merge_of_some {s u : GraphState} {metadata : Metadata}
    (h : u.metadata = some metadata) : (s.merge u).metadataOrEmpty = metadata := by
  unfold GraphState.metadataOrEmpty GraphState.merge
  rw [h, Option.some_or]
  rfl

/-- Only two of the nodes replace the metadata. -/
theorem metadata_of_update {n : Node} {s u : GraphState} (hu : NodeUpdate s n u)
    (hmedia : n ≠ .mediaUnderstanding) (hcontext : n ≠ .contextBuilder) :
    (s.merge u).metadataOrEmpty = s.metadataOrEmpty := by
  apply metadataOrEmpty_merge_of_none
  cases hu with
  | mediaSkipped => exact absurd rfl hmedia
  | mediaProcessed => exact absurd rfl hmedia
  | contextBuilder => exact absurd rfl hcontext
  | _ => rfl

/-! ## The two nodes that write the metadata -/

section Nodes

variable {p : ProductionDeps} {s : GraphState} {w : World}

theorem mediaContexts_of_media (hnew : s.metadataOrEmpty.mediaContexts = none) :
    (s.merge (runNode p.deps .mediaUnderstanding s w).1).metadataOrEmpty.mediaContexts.getD [] =
        p.contextsOf w.draws s.metadataOrEmpty.attachments ∧
      (runNode p.deps .mediaUnderstanding s w).2.draws =
        if s.metadataOrEmpty.attachments.isEmpty then w.draws else w.draws + 1 := by
  unfold ProductionDeps.contextsOf
  cases hempty : s.metadataOrEmpty.attachments.isEmpty with
  | true =>
      have hnode : runNode p.deps .mediaUnderstanding s w =
          ({ mediaProcessed := some true, stepCount := some (s.steps + 1) }, w) := if_pos hempty
      rw [hnode, metadataOrEmpty_merge_of_none rfl, hnew]
      exact ⟨rfl, rfl⟩
  | false =>
      have hne : ¬ s.metadataOrEmpty.attachments.isEmpty = true := by simp [hempty]
      unfold runNode mediaUnderstandingNode
      simp only [ProductionDeps.deps, hempty, Bool.false_eq_true, if_false]
      rw [metadataOrEmpty_merge_of_some rfl]
      refine ⟨?_, rfl⟩
      cases p.mediaSubgraph.processFromDicts w.draws s.metadataOrEmpty.attachments <;> rfl

theorem systemPrompt_of_context :
    (s.merge (runNode p.deps .contextBuilder s w).1).metadataOrEmpty.systemPrompt =
      some (p.promptWith (readMemory p.memoryStore w.draws ++
        buildMediaSection (s.metadataOrEmpty.mediaContexts.getD []))) := by
  unfold runNode contextBuilderNode
  rw [metadataOrEmpty_merge_of_some rfl]
  rfl

end Nodes

/-! ## The runs -/

/-- Where the metadata of a job stands when the run comes to a node. -/
def Prepared (p : ProductionDeps) (metadata : Metadata) (draw : Nat) (n : Node) (s : GraphState)
    (w : World) : Prop :=
  match n with
  | .eligibility => s.metadataOrEmpty = metadata ∧ w.draws = draw
  | .mediaUnderstanding => s.metadataOrEmpty = metadata ∧ w.draws = draw
  | .contextBuilder =>
      s.metadataOrEmpty.mediaContexts.getD [] = p.contextsOf draw metadata.attachments ∧
        w.draws = if metadata.attachments.isEmpty then draw else draw + 1
  | .commandAssistant => True
  | _ =>
      s.metadataOrEmpty.systemPrompt =
        some (p.promptWith (p.sectionsOf draw metadata.attachments))

theorem prepared_of_prepares {p : ProductionDeps} {metadata : Metadata} {draw : Nat} {n : Node}
    {s : GraphState} {w : World} (hn : n.prepares = false) :
    Prepared p metadata draw n s w ↔ s.metadataOrEmpty.systemPrompt =
      some (p.promptWith (p.sectionsOf draw metadata.attachments)) := by
  cases n <;> first | rfl | cases hn

theorem prepared_step {p : ProductionDeps} {metadata : Metadata} {draw : Nat} {n n' : Node}
    {s : GraphState} {w : World} (hnew : metadata.mediaContexts = none)
    (h : Prepared p metadata draw n s w)
    (hroute : route n (s.merge (runNode p.deps n s w).1) = some (.goto n')) :
    Prepared p metadata draw n' (s.merge (runNode p.deps n s w).1) (runNode p.deps n s w).2 := by
  have hkept : n ≠ .mediaUnderstanding → n ≠ .contextBuilder →
      (s.merge (runNode p.deps n s w).1).metadataOrEmpty = s.metadataOrEmpty :=
    metadata_of_update (runNode_update p.deps n s w)
  have hlater : n.prepares = false →
      Prepared p metadata draw n' (s.merge (runNode p.deps n s w).1) (runNode p.deps n s w).2 := by
    intro hn
    rw [prepared_of_prepares (prepares_of_route hn hroute),
      hkept (by rintro rfl; cases hn) (by rintro rfl; cases hn)]
    exact (prepared_of_prepares hn).1 h
  cases n with
  | eligibility =>
      cases route_eligibility_cases hroute with
      | inl hn' => rw [hn']; exact trivial
      | inr hn' =>
          rw [hn']
          exact ⟨(hkept (by decide) (by decide)).trans h.1, h.2⟩
  | commandAssistant => cases hroute
  | mediaUnderstanding =>
      obtain ⟨rfl, rfl⟩ := h
      rw [route_mediaUnderstanding_eq hroute]
      exact mediaContexts_of_media hnew
  | contextBuilder =>
      rw [route_contextBuilder_eq hroute]
      have hprompt := systemPrompt_of_context (p := p) (s := s) (w := w)
      rw [h.1, h.2] at hprompt
      exact hprompt
  | _ => exact hlater rfl

/-- Whenever a run comes to the agent, the prompt is the one of the job. -/
theorem prompt_of_agent_visit {p : ProductionDeps} {limit : Nat} {s : GraphState} {w : World}
    (hnew : s.metadataOrEmpty.mediaContexts = none) {v : GraphVisit}
    (hv : v ∈ ((buildProductionGraph p).execute limit .eligibility s w).1)
    (hagent : v.node = .agent) :
    v.pre.metadataOrEmpty.systemPrompt =
      some (p.promptWith (p.sectionsOf w.draws s.metadataOrEmpty.attachments)) := by
  have hstart : Prepared p s.metadataOrEmpty w.draws .eligibility s w := ⟨rfl, rfl⟩
  have hprepared := ((buildProductionGraph p).visits_invariant
    (fun n t w' n' ht hroute => prepared_step hnew ht hroute) hstart v hv).1
  rw [hagent] at hprepared
  exact hprepared

theorem truthy_append {a b : String} (h : PyStr.truthy a = true) :
    PyStr.truthy (a ++ b) = true := by
  unfold PyStr.truthy at h ⊢
  rw [bne_iff_ne] at h ⊢
  intro hempty
  exact h (String.append_eq_empty_iff.1 hempty).1

/-- The prompt is never empty, so that it comes ahead of the history. -/
theorem truthy_promptWith (p : ProductionDeps) (sections : String) :
    PyStr.truthy (p.promptWith sections) = true := by
  unfold ProductionDeps.promptWith
  simp only
  split
  · unfold noToolsPrompt
    repeat apply truthy_append
    decide
  · unfold systemPrompt
    repeat apply truthy_append
    decide

theorem llmInput_of_prompt {s : GraphState} {p : ProductionDeps} {sections : String}
    (h : s.metadataOrEmpty.systemPrompt = some (p.promptWith sections)) :
    llmInput s = .system (p.promptWith sections) :: s.history := by
  unfold llmInput
  rw [h]
  exact if_pos (truthy_promptWith p sections)

end Iara.Graph

namespace Iara.Workers

open Iara.Lib Iara.Graph Iara.Media Iara.Media.MediaUnderstandingSubgraph

/-- The line of an attachment in the prompt. -/
def attachmentLine (subgraph : Media.MediaUnderstandingSubgraph) (services : Services)
    (att : Attachment) : Option String :=
  mediaLine (subgraph.processAttachment services att).1.toState

variable {subgraph : Media.MediaUnderstandingSubgraph} {services : Services} {att : Attachment}

theorem attachmentLine_eq_some {line : String}
    (h : attachmentLine subgraph services att = some line) :
    ∃ text, Reads subgraph services att text ∧
      line = mediaHeader (contentTypeOf att) ++ PyStr.slice text 2000 := by
  have hhandled : Describes subgraph services att (subgraph.processAttachment services att).1 :=
    processAttachment_handled.1
  have hline := mediaLine_eq_some h
  have htype : (subgraph.processAttachment services att).1.toState.mediaType =
      contentTypeOf att := hhandled.mediaType
  rw [htype] at hline
  exact ⟨_, hhandled.texts _ hline.2, hline.1⟩

theorem filterMap_contextsOf {p : ProductionDeps} {services : Nat → Nat → Services}
    (hwired : p.mediaSubgraph = subgraph.wired services) (draw : Nat)
    (attachments : List Attachment) :
    (p.contextsOf draw attachments).filterMap mediaLine =
      attachments.zipIdx.filterMap fun att =>
        attachmentLine subgraph (services draw att.2) att.1 := by
  unfold ProductionDeps.contextsOf
  cases attachments with
  | nil => rfl
  | cons att rest =>
      rw [hwired]
      unfold wired
      rw [if_neg (by simp)]
      simp only [Except.toOption, Option.getD_some]
      rw [processFromDicts_contexts, List.filterMap_map, List.filterMap_map]
      rfl

/-- A text file, sent as a file, by what the server answers for it. -/
structure IsTextFile (subgraph : Media.MediaUnderstandingSubgraph) (services : Services)
    (att : Attachment) (cs : List Char) : Prop where
  docEnabled : subgraph.docEnabled = true
  type : att.type = "file"
  contentType : att.contentType = "text/plain" ∨ att.contentType = "text/csv"
  url : att.url ≠ ""
  nonempty : cs ≠ []
  body : IsBody (services.stream att.url) subgraph.maxBytes (cs.flatMap String.utf8EncodeChar)

theorem slice_slice (s : String) {m n : Nat} (h : n ≤ m) :
    PyStr.slice (PyStr.slice s m) n = PyStr.slice s n := by
  unfold PyStr.slice
  rw [String.toList_ofList, List.take_take, Nat.min_eq_left h]

theorem contentTypeOf_textFile {cs : List Char} (h : IsTextFile subgraph services att cs) :
    contentTypeOf att = att.contentType ∧ att.contentType ∈ supportedTextMimeTypes ∧
      att.contentType ∉ supportedAudioMimeTypes ∧ att.contentType ∉ supportedImageMimeTypes ∧
      mediaHeader att.contentType = "- Documento (" ++ att.contentType ++ "): " := by
  unfold contentTypeOf
  rcases h.contentType with htype | htype <;> rw [htype] <;> decide

theorem processDocument_of_textFile {cs : List Char}
    (h : IsTextFile subgraph services att cs) :
    subgraph.processDocument services att.ref att.url att.contentType =
      (.ok
        { attachmentRef := att.ref
          mediaType := att.contentType
          status := .complete
          extractedText := some (PyStr.slice (String.ofList cs) 8000) }, [.get att.url]) := by
  have hsupported := (contentTypeOf_textFile h).2.1
  unfold processDocument
  rw [h.docEnabled, if_neg (by decide), if_neg (not_not.2 hsupported),
    downloadBytes_eq_ok_iff.2 h.body]
  simp only
  rw [if_pos h.contentType, PyBytes.decodeReplace_flatMap]

theorem processAttachment_of_textFile {cs : List Char}
    (h : IsTextFile subgraph services att cs) :
    (subgraph.processAttachment services att).1 =
      { attachmentRef := att.ref
        mediaType := att.contentType
        status := .complete
        extractedText := some (PyStr.slice (String.ofList cs) 8000) } := by
  obtain ⟨htype, hsupported, haudio, himage, -⟩ := contentTypeOf_textFile h
  have hurl : PyStr.truthy att.url = true := bne_iff_ne.2 h.url
  have hroute : subgraph.routeByType services att.ref att.url att.contentType att.type =
      subgraph.processDocument services att.ref att.url att.contentType := by
    unfold routeByType
    rw [h.type, if_neg (not_or.2 ⟨by decide, haudio⟩), if_neg (not_or.2 ⟨by decide, himage⟩),
      if_pos (.inl rfl)]
  unfold processAttachment processByType
  rw [hurl, if_neg (by decide), htype, hroute, processDocument_of_textFile h]

/-- Of a text file the prompt has the first 2000 characters. -/
theorem attachmentLine_of_textFile {cs : List Char} (h : IsTextFile subgraph services att cs) :
    attachmentLine subgraph services att =
      some ("- Documento (" ++ att.contentType ++ "): " ++ String.ofList (cs.take 2000)) := by
  have hshown : PyStr.truthy (PyStr.slice (String.ofList cs) 8000) = true := by
    apply bne_iff_ne.2
    intro hempty
    have htake : (PyStr.slice (String.ofList cs) 8000).toList = [] := by rw [hempty]; rfl
    unfold PyStr.slice at htake
    rw [String.toList_ofList, String.toList_ofList, List.take_eq_nil_iff] at htake
    exact htake.elim (fun h => by omega) h.nonempty
  have hcut : PyStr.slice (PyStr.slice (String.ofList cs) 8000) 2000 =
      String.ofList (cs.take 2000) := by
    rw [slice_slice _ (by omega)]
    unfold PyStr.slice
    rw [String.toList_ofList]
  have hheader := (contentTypeOf_textFile h).2.2.2.2
  unfold attachmentLine mediaLine
  rw [processAttachment_of_textFile h, if_pos (.inl rfl)]
  unfold shownText
  simp only [MediaContext.toState, Option.getD_some, hshown, if_true]
  rw [hcut, hheader]

namespace JobConsumerWorker

variable {worker : JobConsumerWorker} {services : Nat → Nat → Services}

/-- The lines of the media section: one for an attachment at most, in their order. -/
def mediaLines (subgraph : Media.MediaUnderstandingSubgraph) (services : Nat → Nat → Services)
    (rt : Runtime) (payload : JobPayload) : List String :=
  payload.attachments.zipIdx.filterMap fun att =>
    attachmentLine subgraph (services (startWorld rt).draws att.2) att.1

/-- What has been stored of the conversation, as the context builder finds it. -/
def memoryOf (worker : JobConsumerWorker) (rt : Runtime) (payload : JobPayload) : String :=
  readMemory worker.deps.memoryStore
    (if payload.attachments.isEmpty then (startWorld rt).draws else (startWorld rt).draws + 1)

theorem metadata_startState (payload : JobPayload) (rt : Runtime) :
    (worker.startState payload rt).metadataOrEmpty =
      { idempotencyKey := payload.idempotencyKey
        eventRef := payload.eventRef
        attachments := payload.attachments
        senderType := payload.senderType
        senderRef := payload.senderRef } :=
  metadataOrEmpty_merge_of_some rfl

/-- Whatever the thread has seen: every model call of a run gets one and the same system prompt,
the prompt has a line for each attachment of the job at most, each line is cut off a text that
the subgraph may read of the attachment, and a text file has its line. -/
theorem model_call_prompt (worker : JobConsumerWorker)
    (hwired : worker.deps.mediaSubgraph = subgraph.wired services) (rt : Runtime)
    (payload : JobPayload) :
    (∀ v ∈ (worker.ainvoke payload rt).1, v.node = .agent →
      llmInput v.pre =
        .system (worker.deps.promptWith (worker.memoryOf rt payload ++
          mediaSectionOf (mediaLines subgraph services rt payload))) :: v.pre.history) ∧
    (∀ line ∈ mediaLines subgraph services rt payload, ∃ att ∈ payload.attachments, ∃ k text,
      Reads subgraph (services (startWorld rt).draws k) att text ∧
        line = mediaHeader (contentTypeOf att) ++ PyStr.slice text 2000) ∧
    ∀ k att cs, payload.attachments[k]? = some att →
      IsTextFile subgraph (services (startWorld rt).draws k) att cs →
        "- Documento (" ++ att.contentType ++ "): " ++ String.ofList (cs.take 2000) ∈
          mediaLines subgraph services rt payload := by
  refine ⟨?_, ?_, ?_⟩
  · intro v hv hagent
    have hmetadata := worker.metadata_startState payload rt
    have hprompt := prompt_of_agent_visit (by rw [hmetadata]) hv hagent
    rw [hmetadata] at hprompt
    apply llmInput_of_prompt
    rw [hprompt]
    unfold ProductionDeps.sectionsOf mediaLines memoryOf
    rw [buildMediaSection_eq, filterMap_contextsOf hwired]
  · intro line hline
    obtain ⟨p, hp, hline⟩ := List.mem_filterMap.1 hline
    obtain ⟨text, hreads, rfl⟩ := attachmentLine_eq_some hline
    exact ⟨p.1, List.fst_mem_of_mem_zipIdx hp, p.2, text, hreads, rfl⟩
  · intro k att cs hatt hfile
    apply List.mem_filterMap.2
    exact ⟨(att, k), List.mem_zipIdx_iff_getElem?.2 hatt, attachmentLine_of_textFile hfile⟩

end JobConsumerWorker

/-! ## A job with a text file -/

section Example

/-- Every URL leads to the same two letters. -/
def noteServices : Services where
  stream _ := { chunks := [[0x4F], [0x69]] }
  transcribe _ := .error { name := "APIError", text := "" }
  complete _ := .error { name := "APIError", text := "" }
  readPdf _ := .error { name := "ImportError", text := "" }

def noteSubgraph : Media.MediaUnderstandingSubgraph := { openaiKey := some "sk" }

def noteWorker : JobConsumerWorker :=
  { plainWorker parrot with
    deps :=
      { (plainWorker parrot).deps with
        mediaSubgraph := noteSubgraph.wired fun _ _ => noteServices } }

def noteFile : Attachment where
  ref := "r"
  url := "https://x/1"
  contentType := "text/plain"
  type := "file"

def note : JobPayload := { greeting with attachments := [noteFile] }

theorem isTextFile_noteFile : IsTextFile noteSubgraph noteServices noteFile ['O', 'i'] where
  docEnabled := rfl
  type := rfl
  contentType := .inl rfl
  url := by decide
  nonempty := by decide
  body := ⟨rfl, by decide, by decide⟩

theorem model_call_prompt_note :
    "- Documento (text/plain): Oi" ∈
        JobConsumerWorker.mediaLines noteSubgraph (fun _ _ => noteServices) emptyRuntime note ∧
      ∀ v ∈ (noteWorker.ainvoke note emptyRuntime).1, v.node = .agent →
        (llmInput v.pre).head? = some (.system (noteWorker.deps.promptWith
          (noteWorker.memoryOf emptyRuntime note ++ mediaSectionOf
            (JobConsumerWorker.mediaLines noteSubgraph (fun _ _ => noteServices) emptyRuntime
              note)))) := by
  have hwired : noteWorker.deps.mediaSubgraph = noteSubgraph.wired fun _ _ => noteServices := rfl
  obtain ⟨hprompt, -, hfile⟩ :=
    JobConsumerWorker.model_call_prompt noteWorker hwired emptyRuntime note
  constructor
  · exact hfile 0 noteFile ['O', 'i'] rfl isTextFile_noteFile
  · intro v hv hagent
    rw [hprompt v hv hagent]
    rfl

end Example

end Iara.Workers
