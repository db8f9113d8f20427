import Iara.Lib.PyStr

/-!
# Tool skills

`ToolSkillResolver` and its default table, which the system prompt is built from.
-/

namespace Iara.Tools

open Iara.Lib

def toolSkills : List (String × String) :=
  [("availability",
      "Use this tool BEFORE scheduling to check available time slots. " ++
        "Always check availability before offering or confirming an appointment."),
    ("schedule",
      "Use after checking availability. Provide the exact datetime in ISO format. " ++
        "Confirm details with the lead before scheduling."),
    ("cancel",
      "Use to cancel an existing appointment. Always confirm the cancellation with " ++
        "the lead. Require an appointment reference."),
    ("reschedule",
      "Use to move an appointment. Always check availability for the new time first."),
    ("qualify",
      "Use to mark a lead as qualified. Include a brief qualification note and " ++
        "the appropriate label. This is a composite operation."),
    ("disqualify",
      "Use to mark a lead as not meeting qualification criteria. Always provide " ++
        "a reason for disqualification."),
    ("kanban_analyze_conversation",
      "Use to analyze where in the pipeline this conversation belongs. " ++
        "Returns a suggestion only — does not change anything."),
    ("kanban_update_status",
      "Updates the conversation's kanban stage. Requires active kanban policy."),
    ("kanban_comment",
      "Adds a private note for kanban tracking. Never sends a public message. " ++
        "Requires kanban write policy."),
    ("lead_search",
      "Search for lead information. Returns sanitized results only. " ++
        "Use for context gathering, not for displaying raw lead data to contacts."),
    ("history_analyze_conversations",
      "Analyze past conversations for patterns. Read-only. " ++
        "Results are drafts for human review."),
    ("followup_reengage_conversation",
      "Send a follow-up message. Check opt-out status, quiet hours, and " ++
        "maximum attempt count before using."),
    ("campaign_create_draft",
      "Create a campaign draft. No messages are sent. " ++
        "Always creates a draft for human review."),
    ("campaign_validate_audience",
      "Validate campaign audience size and eligibility. Returns count only — " ++
        "never exposes the contact list."),
    ("campaign_request_approval",
      "Request human approval for a campaign. Required before any campaign send."),
    ("campaign_dispatch_batch",
      "Dispatch a pre-approved campaign batch. Requires approved_send policy. " ++
        "Sends per-recipient with idempotency."),
    ("campaign_status",
      "Check the status and metrics of a campaign run. " ++
        "Returns counts and status only — no contact details."),
    ("campaign_cancel_pending",
      "Cancel pending messages in a campaign run. Cannot cancel already-sent messages."),
    ("kb_suggest_update",
      "Suggest a knowledge base update based on this conversation. " ++
        "Creates a draft for human review. Never publishes directly."),
    ("voice_respond_audio",
      "Generate an audio response. Requires voice policy. " ++
        "Text fallback is always available if voice generation fails.")]

structure ToolSkillResolver where
  skills : List (String × String) := toolSkills

namespace ToolSkillResolver

def getSkillsForTools (resolver : ToolSkillResolver) (toolNames : List String) :
    List (String × String) :=
  resolver.skills.filter fun s => toolNames.contains s.1

def buildToolGuidanceSection (resolver : ToolSkillResolver) (toolNames : List String) : String :=
  let skills := resolver.getSkillsForTools toolNames
  if skills.isEmpty then ""
  else
    PyStr.join "\n" ("Tool usage guidance:" :: skills.map fun s => "- " ++ s.1 ++ ": " ++ s.2)

end ToolSkillResolver

end Iara.Tools
