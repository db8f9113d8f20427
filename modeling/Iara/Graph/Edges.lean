import Iara.Graph.State

/-!
# Conditional edges

The label each `should_continue_after_*` function returns.  Whether a label is a
key of the path map is a matter of the builder.
-/

namespace Iara.Graph

inductive EdgeLabel where
  | commandAssistant
  | mediaUnderstanding
  | contextBuilder
  | agent
  | toolExecutor
  | guardrails
  | hitlInterrupt
  | hitl
  | commandDispatch
  | memoryWriter
  | ends
  deriving DecidableEq, Repr

def shouldContinueAfterEligibility (state : GraphState) : EdgeLabel :=
  if state.eligibilityStatus ≠ some .accepted then .ends
  else if state.isAdminCommand.getD false then .commandAssistant
  else .mediaUnderstanding

def shouldContinueAfterMedia (state : GraphState) : EdgeLabel :=
  if state.failed then .ends else .contextBuilder

def shouldContinueAfterContext (state : GraphState) : EdgeLabel :=
  if state.failed then .ends else .agent

def shouldContinueAfterAgent (state : GraphState) : EdgeLabel :=
  if state.failed then .ends
  else if state.held then .hitlInterrupt
  else if state.toolCallsPending.getD [] ≠ [] then .toolExecutor
  else .guardrails

def shouldContinueAfterTools (state : GraphState) : EdgeLabel :=
  if state.failed then .ends else .agent

def shouldContinueAfterGuardrails (state : GraphState) : EdgeLabel :=
  if state.failed then .ends
  else if state.held then .hitl
  else .commandDispatch

def shouldContinueAfterDispatch (state : GraphState) : EdgeLabel :=
  if state.failed then .ends else .memoryWriter

end Iara.Graph
