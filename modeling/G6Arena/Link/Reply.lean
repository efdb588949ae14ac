/-
# Replies

`MessageSource::sendResponse`, the same in both transports: a handler queues one
reply, framed `[length, status, echo_cmd, ...payload]`.  A payload that does not fit
the response buffer is left out.
-/

import Mathlib.Data.Nat.Notation

namespace G6Arena

/-- A reply as a handler gives it to `sendResponse`. -/
structure Reply where
  command : UInt8
  status : UInt8
  payload : List UInt8
  deriving DecidableEq

/-- `byte_count_per_response_max`, the size of `resp_buf_`. -/
def respBufSize : ℕ := 200

/-- `sendResponse`: the bytes queued in `resp_buf_`. -/
def sendResponse (reply : Reply) : List UInt8 :=
  let payload := if 3 + reply.payload.length < respBufSize then reply.payload else []
  [UInt8.ofNat (2 + payload.length), reply.status, reply.command] ++ payload

/-- A payload that fits is sent whole. -/
theorem sendResponse_of_fits {reply : Reply} (h : reply.payload.length ≤ 196) :
    sendResponse reply
      = [UInt8.ofNat (2 + reply.payload.length), reply.status, reply.command] ++ reply.payload := by
  have hfit : 3 + reply.payload.length < respBufSize := by unfold respBufSize; omega
  rw [sendResponse, if_pos hfit]

end G6Arena
