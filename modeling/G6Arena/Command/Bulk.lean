/-
# Bytes of a bulk payload

`Source.unread` is what has arrived on a source and was neither parsed nor read.  A loop that
takes in a bulk payload moves bytes from its front and loses none: `BulkRead` says which ones
it was given, which arrived meanwhile, and how many it still counts as owed.
-/

import G6Arena.Command.Dispatch
import G6Arena.Link.Exact

namespace G6Arena

open ByteMem

namespace Link
namespace Source

/-- The bytes that have arrived and were neither parsed nor read. -/
def unread (s : Source) : List UInt8 := s.rx.pending ++ s.link

@[simp] theorem unread_sendResponse (reply : Reply) (s : Source) :
    (s.sendResponse reply).unread = s.unread := rfl

@[simp] theorem unread_commandConsumed (s : Source) : s.commandConsumed.unread = s.unread := rfl

theorem unread_arrived (bytes : List UInt8) (s : Source) :
    ({ s with link := s.link ++ bytes } : Source).unread = s.unread ++ bytes :=
  (List.append_assoc ..).symm

variable [Board]

/-- What is read comes off the front of what was unread. -/
theorem readBulkBytes_unread (t : Transport) (cap maxLen : ℕ) (s : Source) :
    (s.readBulkBytes t cap maxLen).2 ++ (s.readBulkBytes t cap maxLen).1.unread = s.unread := by
  cases t with
  | serial => exact (consume_spec (Nat.min_le_left ..) _).trans (Rx.fill_pending s.rx s.link cap)
  | network =>
    unfold readBulkBytes
    dsimp only
    unfold NetworkManager.readBulkBytes
    split_ifs with hpos
    · exact consume_spec (Nat.min_le_left ..) s.link
    · have hnil : s.rx.pending = [] :=
        List.length_eq_zero_iff.1 (by rw [Rx.length_pending]; omega)
      unfold unread
      dsimp only
      rw [hnil, List.nil_append, List.nil_append, List.take_append_drop]
    · rfl

theorem length_readBulkBytes_le (t : Transport) (cap maxLen : ℕ) (s : Source) :
    (s.readBulkBytes t cap maxLen).2.length ≤ maxLen := by
  cases t with
  | serial =>
    unfold readBulkBytes SerialManager.readBulkBytes
    dsimp only
    rw [length_bytesAt]
    exact Nat.min_le_right ..
  | network =>
    unfold readBulkBytes NetworkManager.readBulkBytes
    dsimp only
    split_ifs
    · rw [length_bytesAt]
      exact Nat.min_le_right ..
    · rw [List.length_take]
      omega
    · exact Nat.zero_le _

end Source

/-! ### Replies written out -/

/-- A source that has written out replies at most. -/
structure Flushed (s s' : Source) : Prop where
  rx : s'.rx = s.rx
  link : s'.link = s.link
  events : ∃ n, s'.events = s.events ++ List.replicate n .flushed

namespace Flushed

variable {s s' s'' : Source}

theorem refl (s : Source) : Flushed s s := ⟨rfl, rfl, 0, (List.append_nil _).symm⟩

theorem trans (h : Flushed s s') (h' : Flushed s' s'') : Flushed s s'' := by
  obtain ⟨n, hn⟩ := h.events
  obtain ⟨m, hm⟩ := h'.events
  refine ⟨h'.rx.trans h.rx, h'.link.trans h.link, n + m, ?_⟩
  rw [hm, hn, List.append_assoc, List.replicate_add]

theorem unread (h : Flushed s s') : s'.unread = s.unread := by
  rw [Source.unread, h.rx, h.link, Source.unread]

end Flushed

theorem sent_flushed (s : Source) (sent : List UInt8) : Flushed s { s with sent := sent } :=
  ⟨rfl, rfl, 0, (List.append_nil _).symm⟩

theorem flushResponses_flushed (t : Transport) (pass : TxPass) (s : Source) :
    Flushed s (s.flushResponses t pass) := by
  unfold Source.flushResponses
  cases t with
  | serial =>
    dsimp only
    split_ifs
    · exact .refl s
    · exact .refl s
    · exact ⟨rfl, rfl, 1, rfl⟩
  | network =>
    dsimp only
    split_ifs
    · exact .refl s
    · exact .refl s
    · exact ⟨rfl, rfl, 1, rfl⟩

theorem spinFlush_flushed (deadline : ℕ) (passes : List TxPass) (s : Source) :
    Flushed s (Source.spinFlush deadline passes s) := by
  induction passes generalizing s with
  | nil => exact .refl s
  | cons pass rest ih =>
    unfold Source.spinFlush
    split_ifs
    · exact .refl s
    · exact .refl s
    · exact (flushResponses_flushed ..).trans (ih _)

theorem writeSerial_flushed (stall : ℕ) (passes : List TxPass) (buf : List UInt8) (s : Source) :
    Flushed s (Source.writeSerial stall passes buf s).1 := by
  induction passes generalizing stall buf s with
  | nil => cases buf <;> exact .refl s
  | cons pass rest ih =>
    cases buf with
    | nil => exact .refl s
    | cons b buf =>
      unfold Source.writeSerial
      dsimp only
      split_ifs
      · exact .refl s
      · exact ih stall (b :: buf) s
      · exact (sent_flushed s _).trans (ih ((pass.now + Source.kStallTimeoutMs) % 2 ^ 32) _ _)

theorem writeNetwork_flushed (stall : ℕ) (passes : List TxPass) (buf : List UInt8) (s : Source) :
    Flushed s (Source.writeNetwork stall passes buf s).1 := by
  induction passes generalizing stall buf s with
  | nil => cases buf <;> exact .refl s
  | cons pass rest ih =>
    cases buf with
    | nil => exact .refl s
    | cons b buf =>
      unfold Source.writeNetwork
      dsimp only
      split_ifs
      · exact .refl s
      · exact .refl s
      · exact ih stall (b :: buf) s
      · exact (sent_flushed s _).trans (ih ((pass.now + Source.kStallTimeoutMs) % 2 ^ 32) _ _)

/-- Raw bytes that are sent leave what a source has received. -/
theorem sendRaw_flushed (t : Transport) (io : TxIo) (buf : List UInt8) (s : Source) :
    Flushed s (s.sendRaw t io buf).1 := by
  unfold Source.sendRaw
  cases t with
  | serial => exact (spinFlush_flushed ..).trans (writeSerial_flushed ..)
  | network =>
    dsimp only
    split
    · exact .refl s
    · exact (flushResponses_flushed ..).trans (writeNetwork_flushed ..)

end Link

namespace Command

open Link

/-- What a loop that takes in a bulk payload has done. -/
structure BulkRead where
  source : Source
  /-- the bytes that arrived meanwhile -/
  arrived : List UInt8
  /-- the bytes `readBulkBytes` gave -/
  taken : List UInt8
  /-- the bytes still counted as owed -/
  left : ℕ

namespace BulkRead

/-- A loop that stops at once. -/
def stop (remaining : ℕ) (s : Source) : BulkRead := ⟨s, [], [], remaining⟩

/-- A pass, and the loop from there. -/
def pass (arrived taken : List UInt8) (r : BulkRead) : BulkRead :=
  { r with arrived := arrived ++ r.arrived, taken := taken ++ r.taken }

@[simp] theorem pass_source (arrived taken : List UInt8) (r : BulkRead) :
    (r.pass arrived taken).source = r.source := rfl
@[simp] theorem pass_left (arrived taken : List UInt8) (r : BulkRead) :
    (r.pass arrived taken).left = r.left := rfl
@[simp] theorem length_pass_taken (arrived taken : List UInt8) (r : BulkRead) :
    (r.pass arrived taken).taken.length = taken.length + r.taken.length := List.length_append

/-- A second loop after the first. -/
def andThen (r d : BulkRead) : BulkRead := d.pass r.arrived r.taken

/-- A loop that began at `s` took its bytes off the front and lost none. -/
def Moves (s : Source) (r : BulkRead) : Prop := s.unread ++ r.arrived = r.taken ++ r.source.unread

theorem stop_moves (remaining : ℕ) (s : Source) : Moves s (stop remaining s) := List.append_nil _

variable {s : Source} {r d : BulkRead}

theorem Moves.andThen (hr : Moves s r) (hd : Moves r.source d) : Moves s (r.andThen d) := by
  change s.unread ++ (r.arrived ++ d.arrived) = r.taken ++ d.taken ++ d.source.unread
  rw [← List.append_assoc, hr, List.append_assoc, hd, List.append_assoc]

variable [Board]

/-- One pass of a loop: bytes arrive, and some are read. -/
theorem Moves.pass {t : Transport} {cap maxLen : ℕ} {arrived : List UInt8}
    (h : Moves (({ s with link := s.link ++ arrived } : Source).readBulkBytes t cap maxLen).1 r) :
    Moves s (r.pass arrived
      (({ s with link := s.link ++ arrived } : Source).readBulkBytes t cap maxLen).2) := by
  have hread := Source.readBulkBytes_unread t cap maxLen { s with link := s.link ++ arrived }
  rw [Source.unread_arrived] at hread
  change s.unread ++ (arrived ++ r.arrived) = _ ++ r.taken ++ r.source.unread
  rw [← List.append_assoc, ← hread, List.append_assoc, h, List.append_assoc]

end BulkRead

/-! ### drainBulkData -/

variable [Board]

/-- What the loop of `drainBulkData` does. -/
def drainRead (t : Transport) (start : ℕ) : List BulkPass → ℕ → ℕ → Source → BulkRead
  | [], _, remaining, s => .stop remaining s
  | pass :: rest, t0, remaining, s =>
    if remaining = 0 then .stop remaining s
    else if 15000 < Telemetry.sub32 pass.now start then .stop remaining s
    else
      let out := ({ s with link := s.link ++ pass.arrived } : Source).readBulkBytes t pass.cap
        (min remaining 256)
      (if out.2 ≠ [] then drainRead t start rest pass.after (remaining - out.2.length) out.1
        else if 5000 < Telemetry.sub32 pass.after t0 then .stop remaining out.1
        else drainRead t start rest t0 remaining out.1).pass pass.arrived out.2

/-- `drainBulkData`, from the start. -/
def Env.drainRead (env : Env) (t : Transport) (remaining : ℕ) (s : Source) : BulkRead :=
  Command.drainRead t (env.millis 8) env.drain (env.millis 8) remaining s

theorem drainRead_source (t : Transport) (start : ℕ) (passes : List BulkPass) (t0 remaining : ℕ)
    (s : Source) : (drainRead t start passes t0 remaining s).source
      = Controller.drainPasses t start passes t0 remaining s := by
  induction passes generalizing t0 remaining s with
  | nil => rfl
  | cons pass rest ih =>
    unfold drainRead Controller.drainPasses
    dsimp only
    split_ifs
    · rfl
    · rfl
    · exact ih _ _ _
    · rfl
    · exact ih _ _ _

theorem drainRead_moves (t : Transport) (start : ℕ) (passes : List BulkPass) (t0 remaining : ℕ)
    (s : Source) : (drainRead t start passes t0 remaining s).Moves s := by
  induction passes generalizing t0 remaining s with
  | nil => exact BulkRead.stop_moves ..
  | cons pass rest ih =>
    unfold drainRead
    dsimp only
    split_ifs
    · exact BulkRead.stop_moves ..
    · exact BulkRead.stop_moves ..
    · exact (ih _ _ _).pass
    · exact (BulkRead.stop_moves ..).pass
    · exact (ih _ _ _).pass

/-- The bytes drained, and those that are not, are the ones it was to drain. -/
theorem drainRead_count (t : Transport) (start : ℕ) (passes : List BulkPass) (t0 remaining : ℕ)
    (s : Source) : (drainRead t start passes t0 remaining s).taken.length
      + (drainRead t start passes t0 remaining s).left = remaining := by
  induction passes generalizing t0 remaining s with
  | nil => exact Nat.zero_add _
  | cons pass rest ih =>
    unfold drainRead
    dsimp only
    have hle := Source.length_readBulkBytes_le t pass.cap (min remaining 256)
      { s with link := s.link ++ pass.arrived }
    generalize ({ s with link := s.link ++ pass.arrived } : Source).readBulkBytes t pass.cap
      (min remaining 256) = out at hle
    split_ifs with hzero hlate hgot hidle
    · exact Nat.zero_add _
    · exact Nat.zero_add _
    · have hcount := ih pass.after (remaining - out.2.length) out.1
      rw [BulkRead.length_pass_taken, BulkRead.pass_left]
      omega
    · rw [not_not.1 hgot]
      exact Nat.zero_add _
    · have hcount := ih t0 remaining out.1
      rw [not_not.1 hgot]
      exact hcount

variable {env : Env} {t : Transport} {remaining : ℕ} {s : Source}

theorem Env.drainRead_moves : (env.drainRead t remaining s).Moves s := Command.drainRead_moves ..

theorem Env.drainRead_count (env : Env) (t : Transport) (remaining : ℕ) (s : Source) :
    (env.drainRead t remaining s).taken.length + (env.drainRead t remaining s).left = remaining :=
  Command.drainRead_count ..

/-- A bulk command refused, as a read of its payload. -/
theorem Controller.rejectBulk_source (reply : Reply) (c : Controller) :
    (c.rejectBulk env t remaining reply).source t
      = (env.drainRead t remaining (c.source t)).source.sendResponse reply := by
  unfold rejectBulk drainBulkData Env.drainRead
  rw [onSource_self, onSource_self, drainRead_source]

end Command
end G6Arena
