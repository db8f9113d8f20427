import Iara.Lib.PyStr

/-!
# Command authorization

`CommandAuthorizationGuard`: whether a message is an admin command and whether
its sender may issue it.
-/

namespace Iara.Security

open Iara.Lib

def defaultAuthorizedSenderTypes : List String := ["agent", "agent_bot"]

def adminPrefixes : List String := ["/iara ", "/admin ", "@iara "]

def minAdminMessageLength : Nat := 8

structure AuthorizationResult where
  allowed : Bool
  reason : String
  isAdminCommand : Bool := false
  deriving DecidableEq, Repr

structure CommandRequesterBinding where
  tenantId : String
  authorizedSenderTypes : List String := defaultAuthorizedSenderTypes
  authorizedSenderRefs : List String := []
  deriving DecidableEq, Repr

structure CommandAuthorizationGuard where
  text : PyText
  bindings : List CommandRequesterBinding := []

namespace CommandAuthorizationGuard

/-- A binding replaces the one of the same tenant. -/
def register (guard : CommandAuthorizationGuard) (binding : CommandRequesterBinding) :
    CommandAuthorizationGuard :=
  { guard with
    bindings := binding :: guard.bindings.filter fun b => b.tenantId ≠ binding.tenantId }

def check (guard : CommandAuthorizationGuard) (tenantId : String) (senderType : Option String)
    (senderRef messageContent : String) : AuthorizationResult :=
  let content := PyStr.strip messageContent
  let isAdminPrefix :=
    adminPrefixes.any (fun pfx => PyStr.startsWith (guard.text.lower content) pfx) &&
      decide (minAdminMessageLength ≤ content.length)
  if !isAdminPrefix then
    { allowed := true, reason := "not_admin_command" }
  else
    let binding := (guard.bindings.find? fun b => b.tenantId = tenantId).getD
      { tenantId := tenantId }
    let typeOk := binding.authorizedSenderTypes.any fun t => senderType = some t
    let refOk := binding.authorizedSenderRefs.isEmpty ||
      binding.authorizedSenderRefs.contains senderRef
    if typeOk && refOk then
      { allowed := true, reason := "admin_authorized", isAdminCommand := true }
    else
      { allowed := false, reason := "unauthorized_sender", isAdminCommand := true }

end CommandAuthorizationGuard

end Iara.Security
