import Iara.Provider.McpServer

/-!
# What an MCP result stands for

`_post_with_retry` against any sequence of HTTP outcomes: how often it posts, and
which last response it takes for a success.  A body that is no JSON is one, and so is
a redirect.
-/

namespace Iara.Provider.ChatwootClient

open Iara.Lib Iara.Persistence
open ChatwootMcpAdapter (get)

/-- The server that answers post number `k` with `outcomes k`; its state is the
number of posts so far. -/
def scripted (outcomes : Nat → HttpEnd) : McpServer where
  State := Nat
  handle posts _ := (posts + 1, outcomes posts)

/-- A call against the outcomes; `after` counts its posts. -/
def posted (client : ChatwootClient) (outcomes : Nat → HttpEnd) (toolName : String)
    (arguments : Parameters) : ToolRun Nat :=
  client.callTool (scripted outcomes) toolName arguments (0 : Nat)

/-! ## Bodies -/

/-- A JSON-RPC object without an error, and its result. -/
structure WithoutError (members result : List (String × Json)) : Prop where
  error : (get members "error" .null).truthy = false
  result : get members "result" (.obj []) = .obj result

def isError (result : List (String × Json)) : Bool :=
  (get result "isError" (.bool false)).truthy

/-- A body that reports no failure: it is not JSON, or a JSON-RPC object with neither
an error nor the result of a failed tool. -/
inductive Unobjected : Except JsonFailure Json → Prop
  | raw : Unobjected (.error .valueError)
  | rpc {members result : List (String × Json)} (h : WithoutError members result)
      (htool : isError result = false) : Unobjected (.ok (.obj members))

/-- Where the message of a failed tool is looked for, there is an object. -/
inductive Misplaced : Json → Prop
  | content {entries : List (String × Json)} (h : (Json.obj entries).truthy = true) :
      Misplaced (.obj entries)
  | text {first text : List (String × Json)} {rest : List Json}
      (h : get first "text" (.str "tool error") = .obj text) :
      Misplaced (.arr (.obj first :: rest))

/-- The result of a failed tool whose message is misplaced. -/
inductive Unreadable : Except JsonFailure Json → Prop
  | rpc {members result : List (String × Json)} (h : WithoutError members result)
      (htool : isError result = true)
      (hcontent : Misplaced (get result "content" (.arr [.obj []]))) :
      Unreadable (.ok (.obj members))

section Posts

variable {client : ChatwootClient} {outcomes : Nat → HttpEnd} {toolName : String}
  {arguments : Parameters} {call : ProviderCall} {ref : String}

theorem toolError_accepted_iff {content : Json} :
    client.toolError toolName content = .accepted ↔ Misplaced content := by
  constructor
  · intro h
    unfold toolError at h
    cases htruthy : content.truthy with
    | false =>
        rw [htruthy] at h
        cases h
    | true =>
        rw [htruthy] at h
        simp only [Bool.not_true, Bool.false_eq_true, if_false] at h
        split at h
        · split at h
          · cases h
          · cases h
          · rename_i htext
            exact .text htext
          · cases h
        · cases h
        · cases h
        · exact .content htruthy
        · cases h
  · intro h
    cases h with
    | content h =>
        unfold toolError
        rw [h]
        rfl
    | text h =>
        unfold toolError
        simp [Json.truthy, h]

theorem rpcVerdict_accepted_iff (client : ChatwootClient) (toolName : String) {rpc : Json} :
    client.rpcVerdict toolName rpc = .accepted ↔
      Unobjected (.ok rpc) ∨ Unreadable (.ok rpc) := by
  constructor
  · intro h
    cases rpc with
    | obj members =>
        unfold rpcVerdict at h
        cases herror : (get members "error" .null).truthy with
        | true =>
            simp only [herror, if_true] at h
            split at h <;> cases h
        | false =>
            simp only [herror, Bool.false_eq_true, if_false] at h
            split at h
            · rename_i result hresult
              cases htool : isError result with
              | false => exact .inl (.rpc ⟨herror, hresult⟩ htool)
              | true =>
                  unfold isError at htool
                  rw [if_pos htool, toolError_accepted_iff] at h
                  exact .inr (.rpc ⟨herror, hresult⟩ htool h)
            · cases h
    | _ => cases h
  · intro h
    rcases h with h | h
    · cases h with
      | rpc h htool =>
          unfold isError at htool
          simp [rpcVerdict, h.error, h.result, htool]
    · cases h with
      | rpc h htool hcontent =>
          unfold isError at htool
          simp [rpcVerdict, h.error, h.result, htool, toolError_accepted_iff.mpr hcontent]

theorem retryable_ge {status : Nat} (h : retryableStatusCodes.contains status = true) :
    400 ≤ status := by
  rw [List.contains_iff_mem] at h
  revert status
  decide

/-- Below the statuses of errors, the body decides. -/
theorem postAnswer_below {status : Nat} (hstatus : status < 400) (content : String)
    (json : Except JsonFailure Json) :
    client.postAnswer toolName (.response status content json) = .result ref ↔
      (Unobjected json ∨ Unreadable json) ∧ ref = PyStr.slice (client.sha256 content) 24 := by
  have hretry : ¬ retryableStatusCodes.contains status = true :=
    fun h => absurd (retryable_ge h) (by omega)
  have hraw : Unobjected (.error .valueError) := .raw
  simp only [postAnswer]
  rw [if_neg hretry, if_neg (by omega)]
  cases json with
  | error failure =>
      cases failure with
      | valueError => simp [hraw, eq_comm]
      | other exception =>
          have hraised : ¬ (Unobjected (.error (.other exception)) ∨
              Unreadable (.error (.other exception))) := by
            rintro (h | h) <;> cases h
          simp [hraised]
  | ok rpc =>
      rw [← rpcVerdict_accepted_iff client toolName]
      cases hverdict : client.rpcVerdict toolName rpc with
      | accepted => simp [hverdict, eq_comm]
      | refused message => simp [hverdict]
      | raised exception => simp [hverdict]

theorem postAnswer_above {status : Nat} (hstatus : 400 ≤ status) (content : String)
    (json : Except JsonFailure Json) :
    client.postAnswer toolName (.response status content json) ≠ .result ref := by
  simp only [postAnswer, if_pos hstatus]
  split <;> exact PostAnswer.noConfusion

/-- Which outcome of a post is a result. -/
theorem postAnswer_result_iff {outcome : HttpEnd} :
    client.postAnswer toolName outcome = .result ref ↔
      ∃ status content json, outcome = .response status content json ∧ status < 400 ∧
        (Unobjected json ∨ Unreadable json) ∧ ref = PyStr.slice (client.sha256 content) 24 := by
  cases outcome with
  | network exception => simp [postAnswer]
  | raises exception => simp [postAnswer]
  | response status content json =>
      constructor
      · intro h
        by_cases hstatus : status < 400
        · exact ⟨status, content, json, rfl, hstatus, (postAnswer_below hstatus content json).mp h⟩
        · exact absurd h (postAnswer_above (by omega) content json)
      · rintro ⟨_, _, _, houtcome, hstatus, hbody⟩
        cases houtcome
        exact (postAnswer_below hstatus _ _).mpr hbody

/-! ## Runs -/

theorem postWithRetry_retried {posts : Nat} (left : Nat) (lastExc : String)
    (h : client.postAnswer call.toolName (outcomes posts) = .retryable) :
    ∃ lastExc', client.postWithRetry (scripted outcomes) call (left + 1) lastExc posts =
      client.postWithRetry (scripted outcomes) call left lastExc' (posts + 1 : Nat) := by
  simp only [postWithRetry, scripted, h]
  exact ⟨_, rfl⟩

/-- How a loop of attempts ended: at one of its posts, with the answer to that post. -/
structure Ended (client : ChatwootClient) (toolName : String) (outcome : HttpEnd)
    (result : Except IaraError String) : Prop where
  ok : ∀ ref, result = .ok ref ↔ client.postAnswer toolName outcome = .result ref
  error : ∀ e, result = .error e → e.kind = .provider

theorem ended_error {outcome : HttpEnd} {message : String}
    (h : ∀ ref, client.postAnswer toolName outcome ≠ .result ref) :
    Ended client toolName outcome (.error { kind := .provider, message := message }) where
  ok ref := by simp [h ref]
  error e he := by
    cases he
    rfl

/-- The loop ends at a post that is not to be repeated. -/
theorem postWithRetry_final (left posts : Nat) (lastExc : String)
    (h : client.postAnswer call.toolName (outcomes posts) ≠ .retryable) :
    (client.postWithRetry (scripted outcomes) call (left + 1) lastExc posts).after = posts + 1 ∧
      Ended client call.toolName (outcomes posts)
        (client.postWithRetry (scripted outcomes) call (left + 1) lastExc posts).result := by
  cases hanswer : client.postAnswer call.toolName (outcomes posts) with
  | result ref =>
      have hrun : client.postWithRetry (scripted outcomes) call (left + 1) lastExc posts =
          { seen := posts, after := (posts + 1 : Nat), result := .ok ref } := by
        simp only [postWithRetry, scripted, hanswer]
      rw [hrun]
      exact ⟨rfl, by simp [hanswer], by simp⟩
  | fails message =>
      have hrun : client.postWithRetry (scripted outcomes) call (left + 1) lastExc posts =
          { seen := posts
            after := (posts + 1 : Nat)
            result := .error { kind := .provider, message := message } } := by
        simp only [postWithRetry, scripted, hanswer]
      rw [hrun]
      exact ⟨rfl, ended_error (by simp [hanswer])⟩
  | retryable => exact absurd hanswer h

/-- The loop makes at least one of its attempts and at most all of them. -/
theorem postWithRetry_scripted (client : ChatwootClient) (outcomes : Nat → HttpEnd)
    (call : ProviderCall) (left posts : Nat) (lastExc : String) :
    ∃ last, posts ≤ last ∧ last ≤ posts + left ∧
      (client.postWithRetry (scripted outcomes) call (left + 1) lastExc posts).after = last + 1 ∧
      Ended client call.toolName (outcomes last)
        (client.postWithRetry (scripted outcomes) call (left + 1) lastExc posts).result := by
  induction left generalizing posts lastExc with
  | zero =>
      refine ⟨posts, Nat.le_refl _, Nat.le_refl _, ?_⟩
      by_cases hretry : client.postAnswer call.toolName (outcomes posts) = .retryable
      · obtain ⟨lastExc', hnext⟩ := postWithRetry_retried 0 lastExc hretry
        rw [hnext]
        exact ⟨rfl, ended_error (by simp [hretry])⟩
      · exact postWithRetry_final 0 posts lastExc hretry
  | succ left ih =>
      by_cases hretry : client.postAnswer call.toolName (outcomes posts) = .retryable
      · obtain ⟨lastExc', hnext⟩ := postWithRetry_retried (left + 1) lastExc hretry
        obtain ⟨last, hle, hlt, hrest⟩ := ih (posts + 1) lastExc'
        rw [hnext]
        exact ⟨last, by omega, by omega, hrest⟩
      · exact ⟨posts, Nat.le_refl _, Nat.le_add_right _ _,
          postWithRetry_final (left + 1) posts lastExc hretry⟩

/-- A call posts at most `max 1 maxRetries` times.  It returns the hash of the last
body only where that response is no error by its status and its body reports none,
or a misplaced one; with a status of success it does so, and it raises a provider error
wherever it does not return. -/
theorem posted_spec (client : ChatwootClient) (outcomes : Nat → HttpEnd) (toolName : String)
    (arguments : Parameters) :
    ∃ last < max 1 client.maxRetries,
      (client.posted outcomes toolName arguments).after = last + 1 ∧
      (∀ ref, (client.posted outcomes toolName arguments).result = .ok ref →
        ∃ status content json, outcomes last = .response status content json ∧ status < 400 ∧
          (Unobjected json ∨ Unreadable json) ∧ ref = PyStr.slice (client.sha256 content) 24) ∧
      (∀ status content json, outcomes last = .response status content json → 200 ≤ status →
        status < 300 → Unobjected json →
        (client.posted outcomes toolName arguments).result =
          .ok (PyStr.slice (client.sha256 content) 24)) ∧
      ∀ e, (client.posted outcomes toolName arguments).result = .error e → e.kind = .provider := by
  let call : ProviderCall :=
    { accountId := client.accountId, toolName := toolName, arguments := arguments }
  have hsome : max 1 client.maxRetries = max 1 client.maxRetries - 1 + 1 := by omega
  obtain ⟨last, -, hlast, hafter, hended⟩ :=
    postWithRetry_scripted client outcomes call (max 1 client.maxRetries - 1) 0 "RuntimeError"
  rw [← hsome] at hafter hended
  refine ⟨last, by omega, hafter, ?_, ?_, hended.error⟩
  · intro ref hok
    exact postAnswer_result_iff.mp ((hended.ok ref).mp hok)
  · intro status content json houtcome hlow hhigh hbody
    refine (hended.ok _).mpr (postAnswer_result_iff.mpr ?_)
    exact ⟨status, content, json, houtcome, by omega, .inl hbody, rfl⟩

end Posts

/-! ## A proxy's page and a redirect -/

/-- What is asked of a success: its status, and a JSON-RPC object without an error
member or a failed tool. -/
def RpcSuccess : HttpEnd → Prop
  | .response status _ (.ok (.obj members)) =>
      200 ≤ status ∧ status < 300 ∧ members.lookup "error" = none ∧
        ∀ result, get members "result" (.obj []) = .obj result →
          result.lookup "isError" ≠ some (.bool true)
  | _ => False

/-- An adapter of one attempt, and the hash of the page. -/
def proxiedClient : ChatwootClient where
  text := plainText
  registry := { tenantId := formatUuid 1, accountIdRef := "" }
  accountId := "59"
  maxRetries := 1
  sha256 _ := "bd83f346e81adb48acf4cc05e03e66cc47cf291c79f8fa0f5173e6b3c189ec03"
  str _ := ""

def proxyPage : HttpEnd := .response 200 "<html>Signed out</html>" (.error .valueError)

def redirect : HttpEnd := .response 302 "\x7b\x7d" (.ok (.obj []))

/-- A page that is no JSON is a result, and so is a redirect. -/
theorem proxyPage_accepted :
    ((proxiedClient.posted (fun _ => proxyPage) messageSendTool []).result =
        .ok (PyStr.slice (proxiedClient.sha256 "<html>Signed out</html>") 24) ∧
      (proxiedClient.posted (fun _ => proxyPage) messageSendTool []).after = (1 : Nat) ∧
      ¬ RpcSuccess proxyPage) ∧
    (proxiedClient.posted (fun _ => redirect) messageSendTool []).result =
        .ok (PyStr.slice (proxiedClient.sha256 "\x7b\x7d") 24) ∧
      (proxiedClient.posted (fun _ => redirect) messageSendTool []).after = (1 : Nat) ∧
      ¬ RpcSuccess redirect := by
  refine ⟨⟨rfl, rfl, id⟩, rfl, rfl, ?_⟩
  rintro ⟨-, hstatus, -⟩
  omega

end Iara.Provider.ChatwootClient
