import Iara.Lib.JsonSound

/-!
# Receiving job messages

`on_message` of `MessageConsumer`: the body is decoded and loaded, the handler gets the
payload, and the broker is told what became of the message.
-/

namespace Iara.Messaging

open Iara.Lib

/-- What the broker is told. -/
inductive Settlement where
  | ack
  /-- `nack(requeue=False)` -/
  | nack
  deriving DecidableEq, Repr

/-- `body.decode()` -/
def decode (body : ByteArray) : Except String String :=
  match String.fromUTF8? body with
  | some text => .ok text
  | none => .error "UnicodeDecodeError"

namespace MessageConsumer

variable (floats : PyFloat)

/-- What the handler is called with.  A payload without `get` raises before that. -/
def payloadOf (body : ByteArray) : Except String Json := do
  let text ← decode body
  let payload ← JsonText.loads floats text
  payload.asDict

/-- Every exception ends in a `nack`: one that the body raises, and one that the handler
raises. -/
def onMessage (handler : Json → Except String Unit) (body : ByteArray) : Settlement :=
  match payloadOf floats body >>= handler with
  | .ok _ => .ack
  | .error _ => .nack

end MessageConsumer

theorem decode_toUTF8 (text : String) : decode text.toUTF8 = .ok text := by
  have hvalid : text.toUTF8.IsValidUTF8 := text.isValidUTF8
  unfold decode String.fromUTF8?
  rw [dif_pos hvalid]
  rfl

end Iara.Messaging
