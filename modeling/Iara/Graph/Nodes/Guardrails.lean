import Iara.Graph.State
import Iara.Lib.Difflib

/-!
# Guardrails and the hold

`guardrails_node` and `hitl_node`.
-/

namespace Iara.Graph

open Iara.Lib Iara.Persistence

/-- What the guardrails ask of compiled regular expressions: whether the
blocklist matches, and which hedging patterns there are. -/
structure GuardrailFilters where
  text : PyText
  containsBlockedContent : String → Bool
  lowConfidencePatterns : List (String → Bool)

def internalMarkers : List String :=
  ["<system>", "</system>", "<internal>", "chain-of-thought", "TOOL_CALL:", "INTERNAL:"]

/-- `LOOP_THRESHOLD` in hundredths. -/
def loopThreshold : Nat := 85

def loopWindow : Nat := 3

def hitlEscalationResponse : String :=
  "Quero ter certeza de que vou resolver isso da melhor forma. " ++
    "Vou conectar você com um membro da equipe que pode ajudar."

def blockedResponse : String := "Desculpe, não posso te ajudar com esse assunto."

def stripMarker (text : PyText) (result marker : String) : String :=
  if PyStr.contains (text.lower result) (text.lower marker) then
    PyStr.join "\n" <|
      (PyStr.lines result).filter fun line => !PyStr.contains (text.lower line) (text.lower marker)
  else result

def stripInternalMarkers (text : PyText) (response : String) : String :=
  PyStr.strip (internalMarkers.foldl (stripMarker text) response)

/-- `history[-LOOP_WINDOW:]`. -/
def recent (history : List String) : List String := history.drop (history.length - loopWindow)

def isLooping (text : PyText) (response : String) (history : List String) : Bool :=
  (recent history).any fun past =>
    Difflib.ratioAtLeast loopThreshold (text.lower response).toList (text.lower past).toList

def isLowConfidence (filters : GuardrailFilters) (response : String) : Bool :=
  filters.lowConfidencePatterns.any fun pattern => pattern response

def guardrailsNode (filters : GuardrailFilters) (state : GraphState) (world : World) :
    GraphState × World :=
  let agentResponse := state.response.getD ""
  if !PyStr.truthy agentResponse then ({ stepCount := some (state.steps + 1) }, world)
  else
    let sanitized := stripInternalMarkers filters.text agentResponse
    if PyStr.truthy sanitized && filters.containsBlockedContent sanitized then
      ({ agentResponse := some (some blockedResponse)
         stepCount := some (state.steps + 1) }, world)
    else
      let history := state.responseHistory.getD []
      let updatedHistory := recent (history ++ [sanitized])
      let hold (reason : String) : GraphState :=
        { agentResponse := some (some hitlEscalationResponse)
          hitlRequested := some true
          hitlReason := some reason
          responseHistory := some updatedHistory
          stepCount := some (state.steps + 1) }
      if isLooping filters.text sanitized history then (hold "anti_loop", world)
      else if isLowConfidence filters sanitized then (hold "low_confidence", world)
      else
        ({ agentResponse := some (some sanitized)
           responseHistory := some updatedHistory
           stepCount := some (state.steps + 1) }, world)

/-! ## The hold -/

/-- The session factory of the node, by the number of the draw. -/
def hitlNode (uuids : UuidSupply) (sessionFactory : Option (Nat → Transaction))
    (state : GraphState) (world : World) : GraphState × World :=
  let update : GraphState :=
    { hitlRequested := some true
      stepCount := some (state.steps + 1) }
  let runId := state.runId.getD (uuids.gen world.draws)
  let hitlReason := state.hitlReason.getD "unknown"
  let snapshot : ContextSnapshot :=
    { stepCount := state.steps
      correlationId := state.correlationId.getD ""
      hitlReason := hitlReason }
  match sessionFactory with
  | none => (update, world.draw)
  | some session =>
      -- a failing registration is logged and the run goes on
      let holds := (HitlHoldRepository.register (session world.draws) runId
        (state.tenantId.getD "") (state.conversationId.getD "") runId (some hitlReason) snapshot
        world.holds).2
      (update, { world.draw with holds := holds })

end Iara.Graph
