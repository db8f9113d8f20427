import Iara.Tools.Gateway

/-!
# The default tools

`_DEFAULT_TOOLS` and `AgentToolRegistry.build_default`.
-/

namespace Iara.Tools

open Iara.Lib Iara.Persistence

/-! ## Schemas -/

def string : Json := .obj [("type", .str "string")]

def described (type description : String) : Json :=
  .obj [("type", .str type), ("description", .str description)]

def objectSchema (properties : List (String × Json)) : Parameters :=
  [("type", .str "object"), ("properties", .obj properties)]

def requiring (required : List String) : Parameters :=
  [("required", .arr (required.map .str))]

def defaultTools : List AgentToolDefinition :=
  [{ toolName := "availability"
     description := "Check available appointment slots. Call this before scheduling."
     parametersSchema :=
       objectSchema
         [("date_range_start", described "string" "ISO date start"),
           ("date_range_end", described "string" "ISO date end"),
           ("service_type", string)] ++
       requiring ["date_range_start"]
     status := .active
     isSideEffecting := false },
   { toolName := "schedule"
     description := "Schedule an appointment. Always check availability first."
     parametersSchema :=
       objectSchema [("datetime_iso", string), ("service_type", string), ("notes", string)] ++
       requiring ["datetime_iso"]
     status := .active
     isSideEffecting := true },
   { toolName := "cancel"
     description := "Cancel an existing appointment."
     parametersSchema :=
       objectSchema [("appointment_ref", string), ("reason", string)] ++
       requiring ["appointment_ref"]
     status := .active
     isSideEffecting := true },
   { toolName := "reschedule"
     description := "Reschedule an existing appointment to a new time."
     parametersSchema :=
       objectSchema [("appointment_ref", string), ("new_datetime_iso", string)] ++
       requiring ["appointment_ref", "new_datetime_iso"]
     status := .active
     isSideEffecting := true },
   { toolName := "qualify"
     description :=
       "Mark a lead as qualified with a label, private note, and optional notification."
     parametersSchema :=
       objectSchema [("qualification_note", string), ("label", string)] ++
       requiring []
     status := .active
     isSideEffecting := true },
   { toolName := "disqualify"
     description := "Mark a lead as disqualified with a reason."
     parametersSchema :=
       objectSchema [("reason", string), ("label", string)] ++
       requiring ["reason"]
     status := .active
     isSideEffecting := true },
   { toolName := "kanban_analyze_conversation"
     description := "Analyze the current conversation to suggest a kanban stage."
     parametersSchema :=
       objectSchema
         [("include_history", .obj [("type", .str "boolean"), ("default", .bool false)])]
     status := .active
     isSideEffecting := false },
   { toolName := "kanban_update_status"
     description := "Update the conversation's kanban stage (requires policy)."
     parametersSchema :=
       objectSchema [("stage", string), ("reason", string)] ++
       requiring ["stage"]
     status := .active
     isSideEffecting := true },
   { toolName := "kanban_comment"
     description := "Add a private note to the conversation for kanban tracking."
     parametersSchema := objectSchema [("comment", string)] ++ requiring ["comment"]
     status := .active
     isSideEffecting := true },
   { toolName := "lead_search"
     description := "Search for lead information (read-only)."
     parametersSchema :=
       objectSchema
         [("search_terms",
             .obj [("type", .str "array"), ("items", .obj [("type", .str "string")])])] ++
       requiring ["search_terms"]
     status := .active
     isSideEffecting := false },
   { toolName := "history_analyze_conversations"
     description := "Analyze historical conversations (read-only, produces drafts)."
     parametersSchema :=
       objectSchema
         [("limit", .obj [("type", .str "integer"), ("default", .num 10), ("maximum", .num 50)]),
           ("focus", string)]
     status := .active
     isSideEffecting := false },
   { toolName := "followup_reengage_conversation"
     description :=
       "Schedule a deferred follow-up message to re-engage a conversation. The message is " ++
         "sent at trigger_at (or delay_hours from now). Opt-out and quiet hours are enforced " ++
         "automatically."
     parametersSchema :=
       objectSchema
         [("message", described "string" "Message to send."),
           ("reason", described "string" "Reason for the follow-up."),
           ("delay_hours", described "number"
               "Hours from now to send (default 1.0). Quiet hours apply."),
           ("trigger_at_iso", described "string"
               "ISO-8601 UTC datetime to send (alternative to delay_hours)."),
           ("opted_out", described "boolean" "Pass true to skip if the contact has opted out.")] ++
       requiring ["message"]
     status := .active
     isSideEffecting := true },
   { toolName := "campaign_create_draft"
     description := "Create a campaign message draft (draft_only — no messages sent)."
     parametersSchema :=
       objectSchema
         [("campaign_name", string),
           ("message_template", string),
           ("target_description", string)] ++
       requiring ["campaign_name", "message_template"]
     status := .active
     isSideEffecting := false },
   { toolName := "campaign_validate_audience"
     description := "Validate a campaign audience (count only — no contact list exposed)."
     parametersSchema :=
       objectSchema [("campaign_draft_ref", string)] ++
       requiring ["campaign_draft_ref"]
     status := .active
     isSideEffecting := false },
   { toolName := "campaign_request_approval"
     description := "Request human approval to send a campaign."
     parametersSchema :=
       objectSchema [("campaign_draft_ref", string), ("approver_ref", string)] ++
       requiring ["campaign_draft_ref"]
     status := .active
     isSideEffecting := true },
   { toolName := "campaign_dispatch_batch"
     description := "Send an approved campaign batch (requires approved_send policy)."
     parametersSchema :=
       objectSchema
         [("campaign_run_ref", string),
           ("batch_size", .obj [("type", .str "integer"), ("default", .num 10)])] ++
       requiring ["campaign_run_ref"]
     status := .active
     isSideEffecting := true },
   { toolName := "campaign_status"
     description := "Check the status of a campaign run."
     parametersSchema :=
       objectSchema [("campaign_run_ref", string)] ++
       requiring ["campaign_run_ref"]
     status := .active
     isSideEffecting := false },
   { toolName := "campaign_cancel_pending"
     description := "Cancel pending messages in a campaign run."
     parametersSchema :=
       objectSchema [("campaign_run_ref", string), ("reason", string)] ++
       requiring ["campaign_run_ref"]
     status := .active
     isSideEffecting := true },
   { toolName := "kb_suggest_update"
     description :=
       "Suggest an update to the knowledge base (creates draft — never publishes directly)."
     parametersSchema :=
       objectSchema [("topic", string), ("suggested_content", string), ("rationale", string)] ++
       requiring ["topic", "suggested_content"]
     status := .active
     isSideEffecting := false },
   { toolName := "voice_respond_audio"
     description := "Generate an audio response (requires voice_output_policy; fallback to text)."
     parametersSchema :=
       objectSchema [("text_content", string), ("voice_ref", string)] ++
       requiring ["text_content"]
     status := .active
     isSideEffecting := true }]

/-- `build_default`. -/
def AgentToolRegistry.buildDefault : AgentToolRegistry :=
  defaultTools.foldl AgentToolRegistry.register ⟨[]⟩

end Iara.Tools
