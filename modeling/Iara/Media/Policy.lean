import Iara.Media.Subgraph

/-!
# What the media subgraph may ask, and what it may read

`Permitted` says which requests the settings allow for an attachment, and `Reads` which texts may
come out of it.  `processAttachment_handled` is the spec of one round of the loop.
-/

namespace Iara.Media

open Iara.Lib Iara.Lib.PyBytes Iara.Graph

/-! ## Downloads -/

/-- A download succeeds where nothing is raised and the whole body fits, however it is cut. -/
theorem readChunks_eq_ok_iff {maxBytes total : Nat} {failure : Option PyException}
    {read body : Bytes} {chunks : List Bytes} (htotal : total ≤ maxBytes) :
    readChunks maxBytes failure total read chunks = .ok body ↔
      failure = none ∧ body = read ++ chunks.flatten ∧
        total + chunks.flatten.length ≤ maxBytes := by
  induction chunks generalizing total read with
  | nil =>
      unfold readChunks
      cases failure with
      | some exception => simp
      | none => simp [htotal, eq_comm]
  | cons chunk chunks ih =>
      rw [readChunks, List.flatten_cons, List.length_append]
      split
      next hover =>
        apply iff_of_false (by simp)
        intro h
        omega
      next hfits =>
        rw [ih (by omega), List.append_assoc, Nat.add_assoc]

/-- The whole body of an answer, where it is not over the limit. -/
def IsBody (response : Response) (maxBytes : Nat) (body : Bytes) : Prop :=
  response.failure = none ∧ body = response.chunks.flatten ∧ body.length ≤ maxBytes

theorem downloadBytes_eq_ok_iff {response : Response} {maxBytes : Nat} {body : Bytes} :
    downloadBytes response maxBytes = .ok body ↔ IsBody response maxBytes body := by
  unfold downloadBytes IsBody
  rw [readChunks_eq_ok_iff (Nat.zero_le _), List.nil_append, Nat.zero_add]
  constructor
  · rintro ⟨hfailure, rfl, hfits⟩
    exact ⟨hfailure, rfl, hfits⟩
  · rintro ⟨hfailure, rfl, hfits⟩
    exact ⟨hfailure, rfl, hfits⟩

namespace MediaUnderstandingSubgraph

variable (subgraph : MediaUnderstandingSubgraph) (services : Services) (att : Attachment)

/-! ## The policy -/

/-- The requests that the settings allow for an attachment.  Only PDFs that yield no text are
sent to the vision model, and for them it is the setting of documents that counts. -/
inductive Permitted : Request → Prop
  | audioDownload (haudio : subgraph.audioEnabled = true) (hkey : subgraph.hasKey = true) :
      Permitted (.get att.url)
  | documentDownload (hdoc : subgraph.docEnabled = true)
      (htype : contentTypeOf att ∈ supportedTextMimeTypes) : Permitted (.get att.url)
  | transcription {audio : Bytes} (haudio : subgraph.audioEnabled = true)
      (hkey : subgraph.hasKey = true)
      (hbody : IsBody (services.stream att.url) subgraph.maxBytes audio) :
      Permitted (.transcribe (transcriptionRequest (contentTypeOf att) audio))
  | description (hvision : subgraph.visionEnabled = true) (hkey : subgraph.hasKey = true) :
      Permitted (.complete (imageRequest att.url))
  | scannedPdf {pdf : Bytes} (hdoc : subgraph.docEnabled = true) (hkey : subgraph.hasKey = true)
      (htype : contentTypeOf att = "application/pdf")
      (hbody : IsBody (services.stream att.url) subgraph.maxBytes pdf) :
      Permitted (.complete (pdfRequest pdf))

/-- The texts that may come out of an attachment: what a permitted request is answered with,
what is read of the downloaded document, and the placeholder for an office format. -/
inductive Reads : String → Prop
  | transcript {request : TranscriptionRequest} {text : String}
      (hpermitted : Permitted subgraph services att (.transcribe request))
      (hanswer : services.transcribe request = .ok text) : Reads text
  | completion {request : CompletionRequest} {content : Option String}
      (hpermitted : Permitted subgraph services att (.complete request))
      (hanswer : services.complete request = .ok content) : Reads (content.getD "")
  | plainText {doc : Bytes} (hdoc : subgraph.docEnabled = true)
      (hbody : IsBody (services.stream att.url) subgraph.maxBytes doc) :
      Reads (PyStr.slice (decodeReplace doc) 8000)
  | pages {doc : Bytes} {pages : List (Option String)} (hdoc : subgraph.docEnabled = true)
      (hbody : IsBody (services.stream att.url) subgraph.maxBytes doc)
      (hpages : services.readPdf doc = .ok pages) : Reads (PyStr.slice (pagesText pages) 8000)
  | placeholder (hdoc : subgraph.docEnabled = true) : Reads (officePlaceholder (contentTypeOf att))

/-- A context that belongs to the attachment and holds no other text. -/
structure Describes (ctx : MediaContext) : Prop where
  ref : ctx.attachmentRef = att.ref
  mediaType : ctx.mediaType = contentTypeOf att
  texts : ∀ text, ctx.extractedText = some text ∨ ctx.description = some text →
    Reads subgraph services att text

/-- At most one download and one question to a model. -/
structure Asks (requests : List Request) : Prop where
  permitted : ∀ request ∈ requests, Permitted subgraph services att request
  length : requests.length ≤ 2

variable {subgraph services att}

theorem Asks.nil : Asks subgraph services att [] where
  permitted := List.forall_mem_nil _
  length := Nat.zero_le _

theorem Asks.single {request : Request} (h : Permitted subgraph services att request) :
    Asks subgraph services att [request] where
  permitted := List.forall_mem_singleton.2 h
  length := Nat.le_succ _

theorem Asks.pair {first second : Request} (h : Permitted subgraph services att first)
    (h' : Permitted subgraph services att second) : Asks subgraph services att [first, second] where
  permitted := List.forall_mem_cons.2 ⟨h, List.forall_mem_singleton.2 h'⟩
  length := Nat.le_refl _

/-- A context without a text. -/
theorem Describes.silent {status : MediaStatus} {reason : Option String} :
    Describes subgraph services att
      { attachmentRef := att.ref
        mediaType := contentTypeOf att
        status := status
        fallbackReason := reason } where
  ref := rfl
  mediaType := rfl
  texts := by
    intro text h
    cases h with
    | inl h => cases h
    | inr h => cases h

theorem Describes.extracted {status : MediaStatus} {reason : Option String} {text : String}
    (h : Reads subgraph services att text) :
    Describes subgraph services att
      { attachmentRef := att.ref
        mediaType := contentTypeOf att
        status := status
        extractedText := some text
        fallbackReason := reason } where
  ref := rfl
  mediaType := rfl
  texts := by
    intro text' h'
    cases h' with
    | inl h' => exact Option.some.inj h' ▸ h
    | inr h' => cases h'

theorem Describes.described {status : MediaStatus} {text : String}
    (h : Reads subgraph services att text) :
    Describes subgraph services att
      { attachmentRef := att.ref
        mediaType := contentTypeOf att
        status := status
        extractedText := some text
        description := some text } where
  ref := rfl
  mediaType := rfl
  texts := by
    intro text' h'
    cases h' with
    | inl h' => exact Option.some.inj h' ▸ h
    | inr h' => exact Option.some.inj h' ▸ h

variable (subgraph services att) in
/-- What one kind of processing gives: an exception leaves the requests. -/
structure Tried (result : Except PyException MediaContext × List Request) : Prop where
  asks : Asks subgraph services att result.2
  describes : ∀ ctx, result.1 = .ok ctx → Describes subgraph services att ctx

theorem Tried.error {exception : PyException} {requests : List Request}
    (h : Asks subgraph services att requests) :
    Tried subgraph services att (.error exception, requests) where
  asks := h
  describes := by
    intro ctx hctx
    cases hctx

theorem Tried.ok {ctx : MediaContext} {requests : List Request}
    (hctx : Describes subgraph services att ctx) (h : Asks subgraph services att requests) :
    Tried subgraph services att (.ok ctx, requests) where
  asks := h
  describes := by
    intro ctx' hctx'
    exact Except.ok.inj hctx' ▸ hctx

/-! ## The kinds of media -/

theorem processAudio_tried :
    Tried subgraph services att
      (subgraph.processAudio services att.ref att.url (contentTypeOf att)) := by
  unfold processAudio
  split
  next => exact .ok .silent .nil
  next haudio =>
    split
    next => exact .ok .silent .nil
    next hkey =>
      rw [Bool.not_eq_true', Bool.not_eq_false] at haudio hkey
      have hget : Permitted subgraph services att (.get att.url) := .audioDownload haudio hkey
      cases hbody : downloadBytes (services.stream att.url) subgraph.maxBytes with
      | error exception => exact .error (.single hget)
      | ok audio =>
          have hask := Permitted.transcription haudio hkey (downloadBytes_eq_ok_iff.1 hbody)
          simp only
          cases htext : services.transcribe (transcriptionRequest (contentTypeOf att) audio) with
          | error exception => exact .error (.pair hget hask)
          | ok transcript => exact .ok (.extracted (.transcript hask htext)) (.pair hget hask)

theorem processImage_tried :
    Tried subgraph services att
      (subgraph.processImage services att.ref att.url (contentTypeOf att)) := by
  unfold processImage
  split
  next => exact .ok .silent .nil
  next hvision =>
    split
    next => exact .ok .silent .nil
    next hkey =>
      rw [Bool.not_eq_true', Bool.not_eq_false] at hvision hkey
      have hask : Permitted subgraph services att (.complete (imageRequest att.url)) :=
        .description hvision hkey
      cases hcontent : services.complete (imageRequest att.url) with
      | error exception => exact .error (.single hask)
      | ok content => exact .ok (.described (.completion hask hcontent)) (.single hask)

section Document

variable {doc : Bytes} (hdoc : subgraph.docEnabled = true)
  (hbody : IsBody (services.stream att.url) subgraph.maxBytes doc)
  (htype : contentTypeOf att = "application/pdf")

include hdoc hbody htype

/-- One question at most, after the download. -/
theorem pdfVisionFallback_handled :
    let result := subgraph.pdfVisionFallback services att.ref (contentTypeOf att) doc
    Describes subgraph services att result.1 ∧
      (∀ request ∈ result.2, Permitted subgraph services att request) ∧ result.2.length ≤ 1 := by
  unfold pdfVisionFallback
  split
  next => exact ⟨.silent, List.forall_mem_nil _, Nat.zero_le _⟩
  next hkey =>
    rw [Bool.not_eq_true', Bool.not_eq_false] at hkey
    have hask := Permitted.scannedPdf hdoc hkey htype hbody
    cases hcontent : services.complete (pdfRequest doc) with
    | error exception => exact ⟨.silent, List.forall_mem_singleton.2 hask, Nat.le_refl _⟩
    | ok content =>
        exact ⟨.extracted (.completion hask hcontent), List.forall_mem_singleton.2 hask,
          Nat.le_refl _⟩

theorem extractPdf_handled :
    let result := subgraph.extractPdf services att.ref (contentTypeOf att) doc
    Describes subgraph services att result.1 ∧
      (∀ request ∈ result.2, Permitted subgraph services att request) ∧ result.2.length ≤ 1 := by
  have hfallback := pdfVisionFallback_handled hdoc hbody htype
  unfold extractPdf
  cases hpages : services.readPdf doc with
  | error exception => exact hfallback
  | ok pages =>
      simp only
      split
      next =>
        exact ⟨.extracted (.pages hdoc hbody hpages), List.forall_mem_nil _, Nat.zero_le _⟩
      next => exact hfallback

end Document

theorem processDocument_tried :
    Tried subgraph services att
      (subgraph.processDocument services att.ref att.url (contentTypeOf att)) := by
  unfold processDocument
  split
  next => exact .ok .silent .nil
  next hdoc =>
    split
    next => exact .ok .silent .nil
    next htype =>
      rw [Bool.not_eq_true', Bool.not_eq_false] at hdoc
      rw [not_not] at htype
      have hget : Permitted subgraph services att (.get att.url) := .documentDownload hdoc htype
      cases hbytes : downloadBytes (services.stream att.url) subgraph.maxBytes with
      | error exception => exact .error (.single hget)
      | ok doc =>
          have hbody := downloadBytes_eq_ok_iff.1 hbytes
          simp only
          split
          next => exact .ok (.extracted (.plainText hdoc hbody)) (.single hget)
          next =>
            split
            next hpdf =>
              obtain ⟨hdescribes, hpermitted, hlength⟩ := extractPdf_handled hdoc hbody hpdf
              refine .ok hdescribes ⟨List.forall_mem_cons.2 ⟨hget, hpermitted⟩, ?_⟩
              rw [List.length_cons]
              omega
            next => exact .ok (.extracted (.placeholder hdoc)) (.single hget)

theorem routeByType_tried :
    Tried subgraph services att
      (subgraph.routeByType services att.ref att.url (contentTypeOf att) att.type) := by
  unfold routeByType
  split
  next => exact processAudio_tried
  next =>
    split
    next => exact processImage_tried
    next =>
      split
      next => exact processDocument_tried
      next => exact .ok .silent .nil

/-! ## The loop -/

/-- Whatever is raised, the attachment gets a context of its own. -/
theorem processAttachment_handled :
    Describes subgraph services att (subgraph.processAttachment services att).1 ∧
      Asks subgraph services att (subgraph.processAttachment services att).2 := by
  unfold processAttachment
  split
  next => exact ⟨.silent, .nil⟩
  next =>
    have htried : Tried subgraph services att
        (subgraph.routeByType services att.ref att.url (contentTypeOf att) att.type) :=
      routeByType_tried
    unfold processByType
    cases hresult : (subgraph.routeByType services att.ref att.url (contentTypeOf att)
        att.type).1 with
    | error exception =>
        simp only [hresult]
        exact ⟨.silent, htried.asks⟩
    | ok ctx =>
        simp only [hresult]
        exact ⟨htried.describes ctx hresult, htried.asks⟩

theorem processFromDicts_contexts (answers : Nat → Services) (i : Nat) (atts : List Attachment) :
    (subgraph.processFromDicts answers i atts).1 =
      (atts.zipIdx i).map fun p => (subgraph.processAttachment (answers p.2) p.1).1 := by
  induction atts generalizing i with
  | nil => rfl
  | cons att atts ih => rw [processFromDicts, List.zipIdx_cons, List.map_cons, ih]

theorem processFromDicts_requests (answers : Nat → Services) (i : Nat) (atts : List Attachment) :
    (subgraph.processFromDicts answers i atts).2 =
      (atts.zipIdx i).flatMap fun p => (subgraph.processAttachment (answers p.2) p.1).2 := by
  induction atts generalizing i with
  | nil => rfl
  | cons att atts ih => rw [processFromDicts, List.zipIdx_cons, List.flatMap_cons, ih]

end MediaUnderstandingSubgraph

end Iara.Media
