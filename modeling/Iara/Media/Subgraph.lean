import Iara.Graph.Nodes.Intake
import Iara.Lib.PyBytes

/-!
# The media subgraph

`MediaUnderstandingSubgraph`: what becomes of the attachments of a job before the agent sees
them.  The HTTP client, OpenAI and pypdf are given by their answers; what is asked of the first
two is listed beside the results.
-/

namespace Iara.Media

open Iara.Lib Iara.Lib.PyBytes Iara.Graph

/-- An exception: the name of its class and its text. -/
structure PyException where
  name : String
  text : String
  deriving DecidableEq, Repr

structure MediaContext where
  attachmentRef : String
  mediaType : String
  status : MediaStatus := .pending
  extractedText : Option String := none
  description : Option String := none
  fallbackReason : Option String := none
  deriving DecidableEq, Repr

/-- What the later nodes read of `ctx.model_dump()`. -/
def MediaContext.toState (ctx : MediaContext) : Graph.MediaContext where
  mediaType := ctx.mediaType
  status := ctx.status
  extractedText := ctx.extractedText
  description := ctx.description

/-! ## Services -/

/-- The answer to a `GET`: the chunks of the body that arrive, and what is raised after them.  A
status that is no success is raised before the first chunk. -/
structure Response where
  chunks : List Bytes
  failure : Option PyException := none
  deriving DecidableEq, Repr

/-- The arguments of `audio.transcriptions.create`. -/
structure TranscriptionRequest where
  model : String
  filename : String
  content : Bytes
  contentType : String
  language : String
  deriving DecidableEq, Repr

/-- The arguments of `chat.completions.create`: one user message with a text and an image. -/
structure CompletionRequest where
  model : String
  text : String
  imageUrl : String
  detail : String
  maxTokens : Nat
  deriving DecidableEq, Repr

/-- `readPdf` gives the text of each page; an import error counts as an exception. -/
structure Services where
  stream : String → Response
  transcribe : TranscriptionRequest → Except PyException String
  complete : CompletionRequest → Except PyException (Option String)
  readPdf : Bytes → Except PyException (List (Option String))

/-- What leaves the process. -/
inductive Request where
  | get (url : String)
  | transcribe (request : TranscriptionRequest)
  | complete (request : CompletionRequest)
  deriving DecidableEq, Repr

/-! ## Downloads -/

def mebibyte : Nat := 1024 * 1024

def sizeLimitError (maxBytes : Nat) : PyException where
  name := "ValueError"
  text := "File exceeds size limit (" ++ toString (maxBytes / mebibyte) ++ " MB)"

/-- The loop over the chunks, with the total so far. -/
def readChunks (maxBytes : Nat) (failure : Option PyException) :
    Nat → Bytes → List Bytes → Except PyException Bytes
  | _, read, [] =>
      match failure with
      | some exception => .error exception
      | none => .ok read
  | total, read, chunk :: chunks =>
      if maxBytes < total + chunk.length then .error (sizeLimitError maxBytes)
      else readChunks maxBytes failure (total + chunk.length) (read ++ chunk) chunks

def downloadBytes (response : Response) (maxBytes : Nat) : Except PyException Bytes :=
  readChunks maxBytes response.failure 0 [] response.chunks

/-! ## Media types -/

def supportedTextMimeTypes : List String :=
  ["application/pdf",
    "application/msword",
    "application/vnd.openxmlformats-officedocument.wordprocessingml.document",
    "application/vnd.ms-powerpoint",
    "application/vnd.openxmlformats-officedocument.presentationml.presentation",
    "application/vnd.ms-excel",
    "application/vnd.openxmlformats-officedocument.spreadsheetml.sheet",
    "text/plain",
    "text/csv"]

def supportedAudioMimeTypes : List String :=
  ["audio/ogg", "audio/mpeg", "audio/mp4", "audio/wav", "audio/webm", "audio/x-m4a"]

def supportedImageMimeTypes : List String :=
  ["image/jpeg", "image/png", "image/gif", "image/webp"]

def audioExtMap : List (String × String) :=
  [("audio/ogg", "ogg"), ("audio/mpeg", "mp3"), ("audio/mp4", "m4a"), ("audio/wav", "wav"),
    ("audio/webm", "webm"), ("audio/x-m4a", "m4a")]

def defaultContentType : String := "application/octet-stream"

/-! ## Requests -/

def transcriptionRequest (contentType : String) (audio : Bytes) : TranscriptionRequest where
  model := "whisper-1"
  filename := "audio." ++ (audioExtMap.lookup contentType).getD "ogg"
  content := audio
  contentType := contentType
  language := "pt"

def imageRequest (url : String) : CompletionRequest where
  model := "gpt-4o"
  text := "Descreva esta imagem de forma detalhada. Extraia todo texto visível na imagem. " ++
    "Seja objetivo e factual. Responda em português."
  imageUrl := url
  detail := "high"
  maxTokens := 1000

def pdfRequest (pdf : Bytes) : CompletionRequest where
  model := "gpt-4o"
  text := "Extraia e resuma todo o conteúdo textual deste documento PDF. " ++
    "Seja abrangente e preciso. Responda em português."
  imageUrl := "data:application/pdf;base64," ++ String.ofList (base64 pdf)
  detail := "high"
  maxTokens := 2000

def officePlaceholder (contentType : String) : String :=
  "[Documento " ++ contentType ++ " — extração completa não disponível nesta versão]"

/-- The text of the pages that have any. -/
def pagesText (pages : List (Option String)) : String :=
  PyStr.strip (PyStr.join "\n\n"
    ((pages.map fun page => page.getD "").filter fun page => PyStr.truthy (PyStr.strip page)))

/-! ## Processing -/

structure MediaUnderstandingSubgraph where
  openaiKey : Option String := none
  audioEnabled : Bool := true
  visionEnabled : Bool := true
  docEnabled : Bool := true
  maxMediaSizeMb : Nat := 50
  deriving DecidableEq, Repr

namespace MediaUnderstandingSubgraph

variable (subgraph : MediaUnderstandingSubgraph) (services : Services)

def maxBytes : Nat := subgraph.maxMediaSizeMb * mebibyte

def hasKey : Bool := PyStr.truthyOption subgraph.openaiKey

def processAudio (ref url contentType : String) :
    Except PyException MediaContext × List Request :=
  if !subgraph.audioEnabled then
    (.ok
      { attachmentRef := ref
        mediaType := contentType
        status := .unsupported
        fallbackReason := some "Audio transcription is disabled" }, [])
  else if !subgraph.hasKey then
    (.ok
      { attachmentRef := ref
        mediaType := contentType
        status := .partially
        fallbackReason := some "OpenAI API key not configured for audio transcription" }, [])
  else
    match downloadBytes (services.stream url) subgraph.maxBytes with
    | .error exception => (.error exception, [.get url])
    | .ok audio =>
        let request := transcriptionRequest contentType audio
        match services.transcribe request with
        | .error exception => (.error exception, [.get url, .transcribe request])
        | .ok transcript =>
            (.ok
              { attachmentRef := ref
                mediaType := contentType
                status := .complete
                extractedText := some transcript }, [.get url, .transcribe request])

/-- The image is not downloaded: its URL goes to the model. -/
def processImage (ref url contentType : String) :
    Except PyException MediaContext × List Request :=
  if !subgraph.visionEnabled then
    (.ok
      { attachmentRef := ref
        mediaType := contentType
        status := .unsupported
        fallbackReason := some "Visual description is disabled in current config" }, [])
  else if !subgraph.hasKey then
    (.ok
      { attachmentRef := ref
        mediaType := contentType
        status := .partially
        fallbackReason := some "OpenAI API key not configured for vision" }, [])
  else
    match services.complete (imageRequest url) with
    | .error exception => (.error exception, [.complete (imageRequest url)])
    | .ok content =>
        (.ok
          { attachmentRef := ref
            mediaType := contentType
            status := .complete
            description := some (content.getD "")
            extractedText := some (content.getD "") }, [.complete (imageRequest url)])

/-- Whether vision is enabled is not asked here. -/
def pdfVisionFallback (ref contentType : String) (pdf : Bytes) : MediaContext × List Request :=
  if !subgraph.hasKey then
    ({ attachmentRef := ref
       mediaType := contentType
       status := .partially
       fallbackReason := some "PDF appears to be scanned; OpenAI key required for extraction" },
      [])
  else
    match services.complete (pdfRequest pdf) with
    | .error exception =>
        ({ attachmentRef := ref
           mediaType := contentType
           status := .partially
           fallbackReason := some ("PDF vision extraction failed: " ++ exception.name) },
          [.complete (pdfRequest pdf)])
    | .ok content =>
        ({ attachmentRef := ref
           mediaType := contentType
           status := .complete
           extractedText := some (content.getD "") }, [.complete (pdfRequest pdf)])

def extractPdf (ref contentType : String) (pdf : Bytes) : MediaContext × List Request :=
  match services.readPdf pdf with
  | .error _ => subgraph.pdfVisionFallback services ref contentType pdf
  | .ok pages =>
      let extracted := pagesText pages
      if PyStr.truthy extracted then
        ({ attachmentRef := ref
           mediaType := contentType
           status := .complete
           extractedText := some (PyStr.slice extracted 8000) }, [])
      else subgraph.pdfVisionFallback services ref contentType pdf

def processDocument (ref url contentType : String) :
    Except PyException MediaContext × List Request :=
  if !subgraph.docEnabled then
    (.ok
      { attachmentRef := ref
        mediaType := contentType
        status := .unsupported
        fallbackReason := some "Document extraction is disabled" }, [])
  else if contentType ∉ supportedTextMimeTypes then
    (.ok
      { attachmentRef := ref
        mediaType := contentType
        status := .unsupported
        fallbackReason := some ("Document type '" ++ contentType ++ "' is not supported") }, [])
  else
    match downloadBytes (services.stream url) subgraph.maxBytes with
    | .error exception => (.error exception, [.get url])
    | .ok doc =>
        if contentType = "text/plain" ∨ contentType = "text/csv" then
          (.ok
            { attachmentRef := ref
              mediaType := contentType
              status := .complete
              extractedText := some (PyStr.slice (decodeReplace doc) 8000) }, [.get url])
        else if contentType = "application/pdf" then
          let result := subgraph.extractPdf services ref contentType doc
          (.ok result.1, .get url :: result.2)
        else
          (.ok
            { attachmentRef := ref
              mediaType := contentType
              status := .partially
              extractedText := some (officePlaceholder contentType)
              fallbackReason := some ("Full extraction not implemented for " ++ contentType) },
            [.get url])

/-- `_process_by_type` up to its `except`. -/
def routeByType (ref url contentType attType : String) :
    Except PyException MediaContext × List Request :=
  if attType = "audio" ∨ contentType ∈ supportedAudioMimeTypes then
    subgraph.processAudio services ref url contentType
  else if attType = "image" ∨ contentType ∈ supportedImageMimeTypes then
    subgraph.processImage services ref url contentType
  else if attType = "file" ∨ contentType ∈ supportedTextMimeTypes then
    subgraph.processDocument services ref url contentType
  else
    (.ok
      { attachmentRef := ref
        mediaType := contentType
        status := .unsupported
        fallbackReason := some ("Media type '" ++ contentType ++ "' is not supported") }, [])

def processByType (ref url contentType attType : String) : MediaContext × List Request :=
  let result := subgraph.routeByType services ref url contentType attType
  match result.1 with
  | .ok context => (context, result.2)
  | .error exception =>
      ({ attachmentRef := ref
         mediaType := contentType
         status := .failed
         fallbackReason := some
          ("Processing failed: " ++ exception.name ++ ": " ++ PyStr.slice exception.text 100) },
        result.2)

/-- `att.get("content_type") or "application/octet-stream"` -/
def contentTypeOf (att : Attachment) : String :=
  if PyStr.truthy att.contentType then att.contentType else defaultContentType

/-- One round of the loop of `process_from_dicts`. -/
def processAttachment (att : Attachment) : MediaContext × List Request :=
  if !PyStr.truthy att.url then
    ({ attachmentRef := att.ref
       mediaType := contentTypeOf att
       status := .failed
       fallbackReason := some "No download URL available" }, [])
  else subgraph.processByType services att.ref att.url (contentTypeOf att) att.type

/-- The services answer each attachment anew. -/
def processFromDicts (services : Nat → Services) :
    Nat → List Attachment → List MediaContext × List Request
  | _, [] => ([], [])
  | i, att :: atts =>
      let result := subgraph.processAttachment (services i) att
      let rest := processFromDicts services (i + 1) atts
      (result.1 :: rest.1, result.2 ++ rest.2)

/-- The subgraph as the graph calls it: nothing is raised. -/
def wired (services : Nat → Nat → Services) : Graph.MediaUnderstandingSubgraph where
  processFromDicts draw atts :=
    .ok ((subgraph.processFromDicts (services draw) 0 atts).1.map MediaContext.toState)

end MediaUnderstandingSubgraph

end Iara.Media
