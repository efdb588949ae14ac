/-
# The client

`tests/transport.py` on the serial port: it takes a reply off what arrives, and goes on with the
bytes the reply has announced.  A read of the port gives what has arrived since the read before,
so what is received is a list of chunks; a loop that has used up its list has met its
deadline, and raises: `none`.

`receiveFile_eq` says what a client makes of a reply and a body that are cut off somewhere and
arrive in any pieces.
-/

import G6Arena.Lib.ByteMem
import G6Arena.Link.Reply

namespace G6Arena
namespace Link
namespace Client

open ByteMem

/-- `DIAG_SENTINEL`. -/
def diagSentinel : UInt8 := 0xFF

/-- What `_parse_response_ex` returns; a status or an echo of -1 is `none`. -/
structure Response where
  status : Option UInt8
  echo : Option UInt8
  payload : List UInt8
  diagLines : List (List UInt8)
  consumed : ℕ
  deriving DecidableEq

/-- `_parse_response_ex`, where `consumed` bytes are the diagnostic lines before `buf`. -/
def parseFrom (consumed : ℕ) (diagLines : List (List UInt8)) (buf : List UInt8) : Option Response :=
  match buf with
  | [] => none
  | b :: rest =>
    if b = diagSentinel then
      match hline : rest.dropWhile (· ≠ 10) with
      | [] => none
      | _ :: after =>
        have : after.length < rest.length + 1 := by
          have hle := (List.dropWhile_suffix (l := rest) (· ≠ 10)).length_le
          rw [hline, List.length_cons] at hle
          omega
        parseFrom (consumed + (1 + rest.length - after.length))
          (diagLines ++ [rest.takeWhile (· ≠ 10)]) after
    else if rest.length < b.toNat then none
    else
      let frame := rest.take b.toNat
      some ⟨frame[0]?, frame[1]?, frame.drop 2, diagLines, consumed + 1 + b.toNat⟩
  termination_by buf.length

/-- `_parse_response_ex`. -/
def parseResponseEx (buf : List UInt8) : Option Response := parseFrom 0 [] buf

/-- `_recv_raw`: what has been read once a reply is complete, and what is still to be read. -/
def recvRaw (buf : List UInt8) : List (List UInt8) → Option (List UInt8 × List (List UInt8))
  | [] => none
  | chunk :: chunks =>
    if (parseResponseEx (buf ++ chunk)).isSome then some (buf ++ chunk, chunks)
    else recvRaw (buf ++ chunk) chunks

/-- `_recv_more`. -/
def recvMore (n : ℕ) (buf : List UInt8) : List (List UInt8) → Option (List UInt8)
  | [] => if n ≤ buf.length then some (buf.take n) else none
  | chunk :: chunks => if n ≤ buf.length then some (buf.take n) else recvMore n (buf ++ chunk) chunks

/-- What `download_file` and `get_sd_archive` return. -/
structure Fetched where
  status : Option UInt8
  echo : Option UInt8
  bytes : List UInt8
  diagLines : List (List UInt8)
  deriving DecidableEq

/-- `download_file` and `get_sd_archive`, once they have sent their command. -/
def receiveFile (chunks : List (List UInt8)) : Option Fetched :=
  match recvRaw [] chunks with
  | none => none
  | some (raw, chunks) =>
    match parseResponseEx raw with
    | none => none
    | some r =>
      if r.status ≠ some 0 then some ⟨r.status, r.echo, [], r.diagLines⟩
      else if r.payload.length < 8 then none
      else
        let fileSize := ofLe (r.payload.take 8)
        let leftover := raw.drop r.consumed
        if fileSize ≤ leftover.length then
          some ⟨r.status, r.echo, leftover.take fileSize, r.diagLines⟩
        else
          match recvMore (fileSize - leftover.length) [] chunks with
          | none => none
          | some more => some ⟨r.status, r.echo, leftover ++ more, r.diagLines⟩

/-! ### A reply -/

section

variable {reply : Reply} {buf tail body : List UInt8} {chunks : List (List UInt8)}

/-- What is read of a reply. -/
def responseOf (reply : Reply) : Response where
  status := some reply.status
  echo := some reply.command
  payload := reply.payload
  diagLines := []
  consumed := 3 + reply.payload.length

theorem length_sendResponse (h : reply.payload.length ≤ 196) :
    (sendResponse reply).length = 3 + reply.payload.length := by
  rw [sendResponse_of_fits h, List.length_append]
  rfl

theorem lengthByte (h : reply.payload.length ≤ 196) :
    (UInt8.ofNat (2 + reply.payload.length)).toNat = 2 + reply.payload.length := by
  rw [UInt8.toNat_ofNat']
  omega

theorem lengthByte_ne (h : reply.payload.length ≤ 196) :
    UInt8.ofNat (2 + reply.payload.length) ≠ diagSentinel := by
  intro heq
  have hvalue := congrArg UInt8.toNat heq
  rw [lengthByte h] at hvalue
  change 2 + reply.payload.length = 255 at hvalue
  omega

/-- **A reply is read as it was meant**, whatever comes after it. -/
theorem parseResponseEx_reply (h : reply.payload.length ≤ 196) (tail : List UInt8) :
    parseResponseEx (sendResponse reply ++ tail) = some (responseOf reply) := by
  have htake : (reply.status :: reply.command :: (reply.payload ++ tail)).take
      (2 + reply.payload.length) = reply.status :: reply.command :: reply.payload := by
    rw [Nat.add_comm, List.take_succ_cons, List.take_succ_cons, List.take_left']
    rfl
  rw [sendResponse_of_fits h, parseResponseEx]
  change parseFrom 0 [] (_ :: reply.status :: reply.command :: (reply.payload ++ tail)) = _
  have hlen : ¬ (reply.status :: reply.command :: (reply.payload ++ tail)).length
      < 2 + reply.payload.length := by
    rw [List.length_cons, List.length_cons, List.length_append]
    omega
  rw [parseFrom, if_neg (lengthByte_ne h), lengthByte h, if_neg hlen, htake]
  refine congrArg some ?_
  rw [responseOf, Response.mk.injEq]
  refine ⟨rfl, rfl, rfl, rfl, ?_⟩
  omega

/-- A reply that is not complete is waited for. -/
theorem parseResponseEx_short (h : reply.payload.length ≤ 196) (hbuf : buf <+: sendResponse reply ++ tail)
    (hlen : buf.length < 3 + reply.payload.length) : parseResponseEx buf = none := by
  rw [sendResponse_of_fits h] at hbuf
  cases buf with
  | nil =>
    rw [parseResponseEx, parseFrom]
  | cons b rest =>
    obtain ⟨rfl, -⟩ := List.cons_prefix_cons.1 hbuf
    rw [List.length_cons] at hlen
    rw [parseResponseEx, parseFrom, if_neg (lengthByte_ne h), lengthByte h, if_pos (by omega)]

/-- A reply arrives whole, or is waited for in vain. -/
theorem recvRaw_reply (h : reply.payload.length ≤ 196)
    (hstream : buf ++ chunks.flatten <+: sendResponse reply ++ body)
    (hbuf : buf.length < 3 + reply.payload.length) :
    if 3 + reply.payload.length ≤ (buf ++ chunks.flatten).length then
      ∃ lead rest, recvRaw buf chunks = some (sendResponse reply ++ lead, rest) ∧
        sendResponse reply ++ lead ++ rest.flatten = buf ++ chunks.flatten
    else recvRaw buf chunks = none := by
  induction chunks generalizing buf with
  | nil =>
    rw [List.flatten_nil, List.append_nil, if_neg (by omega)]
    rfl
  | cons chunk chunks ih =>
    rw [List.flatten_cons, ← List.append_assoc] at hstream ⊢
    have hread : buf ++ chunk <+: sendResponse reply ++ body := (List.prefix_append ..).trans hstream
    by_cases hshort : (buf ++ chunk).length < 3 + reply.payload.length
    · have hwait := parseResponseEx_short h hread hshort
      have hrest := ih hstream hshort
      rw [recvRaw, hwait, Option.isSome_none, if_neg Bool.false_ne_true]
      exact hrest
    · have hwhole : sendResponse reply <+: buf ++ chunk :=
        List.prefix_of_prefix_length_le (List.prefix_append ..) hread
          (by rw [length_sendResponse h]; omega)
      obtain ⟨lead, hlead⟩ := hwhole
      have hlen : 3 + reply.payload.length ≤ (buf ++ chunk ++ chunks.flatten).length := by
        rw [List.length_append]
        omega
      rw [if_pos hlen, recvRaw, ← hlead, parseResponseEx_reply h, Option.isSome_some, if_pos rfl]
      exact ⟨lead, chunks, rfl, rfl⟩

theorem recvMore_eq (n : ℕ) : recvMore n buf chunks
    = if n ≤ (buf ++ chunks.flatten).length then some ((buf ++ chunks.flatten).take n) else none := by
  induction chunks generalizing buf with
  | nil =>
    rw [List.flatten_nil, List.append_nil]
    rfl
  | cons chunk chunks ih =>
    rw [recvMore, ih, List.flatten_cons, ← List.append_assoc]
    by_cases hn : n ≤ buf.length
    · rw [if_pos hn, if_pos (by rw [List.length_append, List.length_append]; omega), List.append_assoc,
        List.take_append_of_le_length hn]
    · rw [if_neg hn]

/-- **What a client receives** of a reply that announces a body, and of that body: all of it or
nothing. -/
theorem receiveFile_eq {command : UInt8} (hsize : body.length < 2 ^ 64)
    (hstream : chunks.flatten <+: sendResponse ⟨command, 0, toLe 8 body.length⟩ ++ body) :
    receiveFile chunks =
      if chunks.flatten = sendResponse ⟨command, 0, toLe 8 body.length⟩ ++ body then
        some ⟨some 0, some command, body, []⟩
      else none := by
  have hfits : (toLe 8 body.length).length ≤ 196 := by rw [length_toLe]; omega
  have hraw := @recvRaw_reply ⟨command, 0, toLe 8 body.length⟩ [] body chunks hfits hstream
    (by rw [List.length_nil]; omega)
  rw [List.nil_append, length_toLe] at hraw
  have hhead := @length_sendResponse ⟨command, 0, toLe 8 body.length⟩ hfits
  rw [length_toLe] at hhead
  unfold receiveFile
  by_cases hcomplete : 3 + 8 ≤ chunks.flatten.length
  · rw [if_pos hcomplete] at hraw
    obtain ⟨lead, rest, hrecv, hall⟩ := hraw
    rw [hrecv]
    dsimp only
    rw [parseResponseEx_reply hfits]
    unfold responseOf
    dsimp only
    rw [if_neg (by simp), length_toLe, if_neg (by omega), List.take_of_length_le (by rw [length_toLe]),
      ofLe_toLe_of_lt hsize, ← hhead, List.drop_left]
    rw [← hall, List.append_assoc] at hstream ⊢
    have hbody := (List.prefix_append_right_inj _).1 hstream
    have hlen := hbody.length_le
    rw [List.length_append] at hlen
    by_cases hwhole : lead ++ rest.flatten = body
    · refine Eq.trans ?_ (if_pos (congrArg _ hwhole)).symm
      rw [recvMore_eq, List.nil_append]
      have hsum := congrArg List.length hwhole
      rw [List.length_append] at hsum
      split_ifs with hlead hmore
      · have hnil : rest.flatten = [] := List.length_eq_zero_iff.1 (by omega)
        rw [hnil, List.append_nil] at hwhole
        rw [List.take_of_length_le (by omega), hwhole]
      · rw [List.take_of_length_le (by omega)]
        dsimp only
        rw [hwhole]
      · omega
    · refine Eq.trans ?_ (if_neg fun heq => hwhole (List.append_cancel_left heq)).symm
      rw [recvMore_eq, List.nil_append]
      have hless : lead.length + rest.flatten.length < body.length := by
        refine lt_of_le_of_ne hlen fun heq => hwhole (hbody.eq_of_length ?_)
        rw [List.length_append, heq]
      rw [if_neg (by omega), if_neg (by omega)]
  · rw [if_neg hcomplete] at hraw
    rw [hraw, if_neg]
    intro hwhole
    rw [hwhole, List.length_append, hhead] at hcomplete
    omega

end

end Client
end Link
end G6Arena
