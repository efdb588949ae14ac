/-
# Firmware uploads

`handleSetFirmwareFile` takes the whole payload of a `SET_FIRMWARE_FILE` in one call.  It
stops short where nothing arrives for 30 s and where `File::write` takes less of a chunk than it
was given, and drains the rest.

The loop takes a chunk off its count only once it is written.  After a short write the chunk
is off the link and still counted, so the drain takes that many bytes too many, out of what is
pipelined behind the payload.  `firmware_upload` says when the upload is right nevertheless.
-/

import G6Arena.Command.Bulk
import G6Arena.Command.Log

namespace G6Arena
namespace Command

open ByteMem Link
open Sd (Card FileId)

/-! ### The loop -/

/-- What ends the loop of `handleSetFirmwareFile`. -/
inductive FirmwareStop
  /-- the payload is whole -/
  | whole
  /-- nothing has arrived for too long -/
  | idle
  /-- a write has come short -/
  | short
  deriving DecidableEq

/-- How the loop ends, by what ends it. -/
def FirmwareStop.ending (crc : UInt32) (r : BulkRead) : FirmwareStop → Controller.FirmwareEnd
  | .whole => .stored (Panel.crc32Update crc r.taken)
  | .idle => .failed "Upload timeout" r.left
  | .short => .failed "SD write error (card full?)" r.left

/-- The CRC goes on over the chunks. -/
theorem FirmwareStop.ending_pass (crc : UInt32) (arrived got : List UInt8) (r : BulkRead)
    (stop : FirmwareStop) :
    stop.ending (Panel.crc32Update crc got) r = stop.ending crc (r.pass arrived got) := by
  cases stop with
  | whole =>
    change Controller.FirmwareEnd.stored (List.foldl _ (List.foldl _ crc got) r.taken)
      = .stored (List.foldl _ crc (got ++ r.taken))
    rw [List.foldl_append]
  | idle => rfl
  | short => rfl

/-- The bytes taken and the bytes counted as owed, of a payload. -/
def FirmwareStop.Counts (remaining : ℕ) (r : BulkRead) : FirmwareStop → Prop
  | .whole => r.taken.length = remaining
  | .idle => r.taken.length + r.left = remaining
  | .short => remaining < r.taken.length + r.left

section

variable [Board]

/-- What the loop of `handleSetFirmwareFile` does to its source, and what ends it. -/
def firmwareRead (t : Transport) : List BulkPass → ℕ → ℕ → Source → BulkRead × FirmwareStop
  | [], _, remaining, s => (.stop remaining s, if remaining = 0 then .whole else .idle)
  | pass :: rest, tIdle, remaining, s =>
    if remaining = 0 then (.stop remaining s, .whole)
    else
      let out := ({ s with link := s.link ++ pass.arrived } : Source).readBulkBytes t pass.cap
        (min remaining Controller.chunkBytes)
      let next :=
        if out.2 ≠ [] then
          if pass.wrote < out.2.length then (.stop remaining out.1, .short)
          else firmwareRead t rest pass.after (remaining - out.2.length) out.1
        else if 30000 < Telemetry.sub32 pass.after tIdle then (.stop remaining out.1, .idle)
        else firmwareRead t rest tIdle remaining out.1
      (next.1.pass pass.arrived out.2, next.2)

theorem firmwareRead_moves (t : Transport) (passes : List BulkPass) (tIdle remaining : ℕ) (s : Source) :
    (firmwareRead t passes tIdle remaining s).1.Moves s := by
  induction passes generalizing tIdle remaining s with
  | nil => exact BulkRead.stop_moves ..
  | cons pass rest ih =>
    unfold firmwareRead
    dsimp only
    split_ifs
    · exact BulkRead.stop_moves ..
    · exact (BulkRead.stop_moves ..).pass
    · exact (ih _ _ _).pass
    · exact (BulkRead.stop_moves ..).pass
    · exact (ih _ _ _).pass

/-- The count of the bytes owed is right after a timeout, and too high after a short write. -/
theorem firmwareRead_count (t : Transport) (passes : List BulkPass) (tIdle remaining : ℕ) (s : Source)
    {r : BulkRead} {stop : FirmwareStop} (h : firmwareRead t passes tIdle remaining s = (r, stop)) :
    stop.Counts remaining r := by
  induction passes generalizing tIdle remaining s r stop with
  | nil =>
    unfold firmwareRead at h
    obtain ⟨rfl, rfl⟩ := Prod.mk.inj h
    split_ifs with hzero
    · exact hzero.symm
    · exact Nat.zero_add _
  | cons pass rest ih =>
    unfold firmwareRead at h
    dsimp only at h
    have hle := Source.length_readBulkBytes_le t pass.cap (min remaining Controller.chunkBytes)
      { s with link := s.link ++ pass.arrived }
    generalize ({ s with link := s.link ++ pass.arrived } : Source).readBulkBytes t pass.cap
      (min remaining Controller.chunkBytes) = out at hle h
    split_ifs at h with hzero hgot hshort hidle
    · obtain ⟨rfl, rfl⟩ := Prod.mk.inj h
      exact hzero.symm
    · obtain ⟨rfl, rfl⟩ := Prod.mk.inj h
      have hpos := List.length_pos_iff.2 hgot
      change remaining < (out.2 ++ []).length + remaining
      rw [List.append_nil]
      omega
    · generalize hnext : firmwareRead t rest pass.after (remaining - out.2.length) out.1 = next at h
      obtain ⟨r', stop'⟩ := next
      obtain ⟨rfl, rfl⟩ := Prod.mk.inj h
      have hcount := ih _ _ _ hnext
      unfold FirmwareStop.Counts at hcount ⊢
      rw [BulkRead.length_pass_taken, BulkRead.pass_left]
      cases stop' <;> dsimp only at hcount ⊢ <;> omega
    · obtain ⟨rfl, rfl⟩ := Prod.mk.inj h
      rw [not_not.1 hgot]
      exact Nat.zero_add _
    · generalize hnext : firmwareRead t rest tIdle remaining out.1 = next at h
      obtain ⟨r', stop'⟩ := next
      obtain ⟨rfl, rfl⟩ := Prod.mk.inj h
      have hcount := ih _ _ _ hnext
      rw [not_not.1 hgot]
      exact hcount

/-- The loop appends what it takes to its file, all of it unless a write comes short. -/
theorem firmwarePasses_eq (t : Transport) (id : FileId) (passes : List BulkPass) (tIdle remaining : ℕ)
    (crc : UInt32) (s : Source) (card : Card) {r : BulkRead} {stop : FirmwareStop}
    (h : firmwareRead t passes tIdle remaining s = (r, stop)) :
    ∃ written, Controller.firmwarePasses t id passes tIdle remaining crc s card
        = (r.source, card.append id written, stop.ending crc r) ∧
      (stop = .whole → written = r.taken) := by
  induction passes generalizing tIdle remaining crc s card r stop with
  | nil =>
    unfold firmwareRead at h
    obtain ⟨rfl, rfl⟩ := Prod.mk.inj h
    refine ⟨[], ?_, fun _ => rfl⟩
    unfold Controller.firmwarePasses
    rw [Card.append_nil]
    split_ifs <;> rfl
  | cons pass rest ih =>
    unfold firmwareRead at h
    unfold Controller.firmwarePasses
    dsimp only at h ⊢
    generalize ({ s with link := s.link ++ pass.arrived } : Source).readBulkBytes t pass.cap
      (min remaining Controller.chunkBytes) = out at h
    have hwritten : (out.2.take pass.wrote).length ≠ out.2.length ↔ pass.wrote < out.2.length := by
      rw [List.length_take]
      omega
    by_cases hzero : remaining = 0
    · rw [if_pos hzero] at h ⊢
      obtain ⟨rfl, rfl⟩ := Prod.mk.inj h
      exact ⟨[], by rw [Card.append_nil]; rfl, fun _ => rfl⟩
    · rw [if_neg hzero] at h ⊢
      simp only [hwritten]
      split_ifs at h ⊢ with hgot hshort hidle
      · obtain ⟨rfl, rfl⟩ := Prod.mk.inj h
        exact ⟨_, rfl, fun hstop => by cases hstop⟩
      · generalize hnext : firmwareRead t rest pass.after (remaining - out.2.length) out.1 = next at h
        obtain ⟨r', stop'⟩ := next
        obtain ⟨rfl, rfl⟩ := Prod.mk.inj h
        have htake : out.2.take pass.wrote = out.2 := List.take_of_length_le (by omega)
        obtain ⟨written, heq, hwhole⟩ := ih pass.after (remaining - out.2.length)
          (Panel.crc32Update crc out.2) out.1 (card.append id out.2) hnext
        refine ⟨out.2 ++ written, ?_, fun hstop => ?_⟩
        · rw [htake, heq, Card.append_append, FirmwareStop.ending_pass crc pass.arrived out.2]
          rfl
        · rw [hwhole hstop]
          rfl
      · obtain ⟨rfl, rfl⟩ := Prod.mk.inj h
        exact ⟨[], by rw [Card.append_nil]; rfl, fun hstop => by cases hstop⟩
      · generalize hnext : firmwareRead t rest tIdle remaining out.1 = next at h
        obtain ⟨r', stop'⟩ := next
        obtain ⟨rfl, rfl⟩ := Prod.mk.inj h
        obtain ⟨written, heq, hwhole⟩ := ih tIdle remaining crc out.1 card hnext
        rw [not_not.1 hgot]
        exact ⟨written, heq, hwhole⟩

/-! ### The upload -/

/-- The card with the old image removed and a file opened for the new one. -/
def firmwareCard (env : Env) (card : Card) : Card × Option FileId :=
  (card.remove (env.sd.ok (.remove .firmware)) .firmware).1.openWrite
    (env.sd.ok (.openWrite .firmware)) .firmware

/-- What the image file holds as it is opened. -/
def firmwareBase (env : Env) (card : Card) : List UInt8 :=
  if env.sd.ok (.remove .firmware) then [] else (card.contentOf .firmware).getD []

omit [Board] in
theorem contentOf_firmwareCard {env : Env} {card : Card} {id : FileId}
    (h : (firmwareCard env card).2 = some id) (bytes : List UInt8) :
    ((firmwareCard env card).1.append id bytes).contentOf .firmware
      = some (firmwareBase env card ++ bytes) := by
  have hcontent := Card.contentOf_append h bytes
  rw [Card.contentOf_remove] at hcontent
  unfold firmwareCard firmwareBase
  rw [hcontent]
  split_ifs <;> rfl

namespace Controller

/-- Does `handleSetFirmwareFile` get as far as its loop? -/
def startsFirmware (env : Env) (c : Controller) : Bool :=
  c.display.screen.state = .allOff && !c.transfers.active
    && (firmwareCard env c.store.card).2.isSome

/-- What an upload takes off its source, and whether one of its bounds has expired. -/
def firmwareTakes (env : Env) (t : Transport) (total : ℕ) (c : Controller) : BulkRead × Bool :=
  if c.startsFirmware env then
    let (r, stop) := firmwareRead t env.firmware (env.millis 0) total (c.source t)
    match stop with
    | .whole => (r, false)
    | .idle => (r.andThen (env.drainRead t r.left r.source), true)
    | .short =>
      (r.andThen (env.drainRead t r.left r.source), (env.drainRead t r.left r.source).left ≠ 0)
  else (env.drainRead t total (c.source t), (env.drainRead t total (c.source t)).left ≠ 0)

/-- What becomes of an upload that is started. -/
inductive FirmwareEnds (env : Env) (t : Transport) (total : ℕ) (c c' : Controller) :
    FirmwareStop → Prop
  | stored (r : BulkRead) (read : c.firmwareTakes env t total = (r, false))
      (count : r.taken.length = total)
      (source : c'.source t = r.source.sendResponse
        (done setFirmwareFileCmd (toLe 4 (Panel.crc32 r.taken).toNat)))
      (card : c'.store.card.contentOf .firmware = some (firmwareBase env c.store.card ++ r.taken)) :
      FirmwareEnds env t total c c' .whole
  | failed (stop : FirmwareStop) (r : BulkRead) (text : String) (expired : Bool)
      (read : c.firmwareTakes env t total = (r, expired)) (failed : stop ≠ .whole)
      (count : expired = false → r.taken.length ≠ total)
      (source : c'.source t = r.source.sendResponse (refused setFirmwareFileCmd text))
      (card : c'.store.card.file .firmware = none ↔ env.sd.ok (.discard .firmware) = true) :
      FirmwareEnds env t total c c' stop

theorem firmwareTakes_moves (env : Env) (t : Transport) (total : ℕ) (c : Controller) :
    (c.firmwareTakes env t total).1.Moves (c.source t) := by
  unfold firmwareTakes
  have hmoves := firmwareRead_moves t env.firmware (env.millis 0) total (c.source t)
  split_ifs
  · generalize firmwareRead t env.firmware (env.millis 0) total (c.source t) = next at hmoves
    obtain ⟨r, stop⟩ := next
    cases stop with
    | whole => exact hmoves
    | idle => exact hmoves.andThen Env.drainRead_moves
    | short => exact hmoves.andThen Env.drainRead_moves
  · exact Env.drainRead_moves

variable {env : Env} {t : Transport} {total : ℕ} {c c' : Controller}

theorem storeFirmware_whole {id : FileId} {r : BulkRead}
    (hread : firmwareRead t env.firmware (env.millis 0) total (c.source t) = (r, .whole)) :
    c.storeFirmware env t id total = (c.withCard (c.store.card.append id r.taken)).onSource t fun _ =>
      r.source.sendResponse (done setFirmwareFileCmd (toLe 4 (Panel.crc32 r.taken).toNat)) := by
  obtain ⟨written, hpasses, hwhole⟩ := firmwarePasses_eq t id _ _ _ 0xFFFFFFFF _ c.store.card hread
  unfold storeFirmware
  dsimp only
  rw [hpasses, hwhole rfl]
  exact onSource_onSource ..

theorem storeFirmware_failed {id : FileId} {r : BulkRead} {stop : FirmwareStop}
    (hread : firmwareRead t env.firmware (env.millis 0) total (c.source t) = (r, stop))
    (hstop : stop ≠ .whole) :
    ∃ written text, c.storeFirmware env t id total
      = (((c.withCard (c.store.card.append id written)).onSource t fun _ => r.source).withCard
          ((c.store.card.append id written).remove (env.sd.ok (.discard .firmware)) .firmware).1).rejectBulk
        env t r.left (refused setFirmwareFileCmd text) := by
  obtain ⟨written, hpasses, -⟩ := firmwarePasses_eq t id _ _ _ 0xFFFFFFFF _ c.store.card hread
  unfold storeFirmware
  dsimp only
  rw [hpasses]
  cases stop with
  | whole => exact absurd rfl hstop
  | idle => exact ⟨written, _, rfl⟩
  | short => exact ⟨written, _, rfl⟩

theorem handleSetFirmwareFile_started (t : Transport) (total : ℕ) (h : c.startsFirmware env = true) :
    FirmwareEnds env t total c (c.handleSetFirmwareFile env t total)
      (firmwareRead t env.firmware (env.millis 0) total (c.source t)).2 := by
  have hstarts := h
  unfold startsFirmware at h
  rw [Bool.and_eq_true, Bool.and_eq_true, decide_eq_true_iff, Bool.not_eq_true',
    Option.isSome_iff_exists] at h
  obtain ⟨⟨hstate, hidle⟩, id, hid⟩ := h
  have hcall : c.handleSetFirmwareFile env t total
      = (c.withCard (firmwareCard env c.store.card).1).storeFirmware env t id total := by
    unfold handleSetFirmwareFile
    rw [if_neg (not_not.2 hstate), if_neg (by rw [hidle]; decide)]
    dsimp only
    split
    · next card hopen =>
      unfold firmwareCard at hid
      rw [hopen] at hid
      cases hid
    · next card id' hopen =>
      unfold firmwareCard at hid ⊢
      rw [hopen] at hid ⊢
      rw [Option.some.inj hid]
  rw [hcall]
  generalize hread : firmwareRead t env.firmware (env.millis 0) total (c.source t) = next
  obtain ⟨r, stop⟩ := next
  have hcount := firmwareRead_count t _ _ _ _ hread
  have htakes := firmwareTakes.eq_1 env t total c
  rw [if_pos hstarts, hread] at htakes
  by_cases hstop : stop = .whole
  · subst hstop
    rw [storeFirmware_whole (c := c.withCard (firmwareCard env c.store.card).1) hread]
    exact .stored r htakes hcount (onSource_self ..) (contentOf_firmwareCard hid _)
  · obtain ⟨written, text, heq⟩ : ∃ written text,
        (c.withCard (firmwareCard env c.store.card).1).storeFirmware env t id total = _ :=
      storeFirmware_failed hread hstop
    have hsource (expired : Bool) (hexpired : c.firmwareTakes env t total
          = (r.andThen (env.drainRead t r.left r.source), expired))
        (hlong : expired = false → r.taken.length + (env.drainRead t r.left r.source).taken.length
          ≠ total) :
        FirmwareEnds env t total c
          ((c.withCard (firmwareCard env c.store.card).1).storeFirmware env t id total) stop := by
      refine .failed stop _ text expired hexpired hstop ?_ ?_ ?_
      · intro hin
        have hne := hlong hin
        rwa [← BulkRead.length_pass_taken r.arrived] at hne
      · rw [heq, rejectBulk_source, withCard_source, onSource_self]
        rfl
      · rw [heq, rejectBulk_eq]
        change ((((firmwareCard env c.store.card).1.append id written).remove
          (env.sd.ok (.discard .firmware)) .firmware).1.file .firmware = none) ↔ _
        rw [Card.file_remove_eq]
        have hcontent := contentOf_firmwareCard hid written
        split_ifs with hok
        · exact ⟨fun _ => hok, fun _ => rfl⟩
        · refine ⟨fun hnone => ?_, fun hyes => absurd hyes hok⟩
          rw [Card.contentOf, hnone] at hcontent
          cases hcontent
    cases stop with
    | whole => exact absurd rfl hstop
    | idle => exact hsource true htakes fun hno => by cases hno
    | short =>
      refine hsource _ htakes fun hin => ?_
      have hleft := of_decide_eq_false hin
      have hdrain := Env.drainRead_count env t r.left r.source
      change total < r.taken.length + r.left at hcount
      omega

/-- An upload that is not started has its payload drained. -/
theorem handleSetFirmwareFile_refused (t : Transport) (total : ℕ) (h : c.startsFirmware env = false) :
    ∃ reply, reply.status ≠ 0 ∧ (c.handleSetFirmwareFile env t total).source t
      = (env.drainRead t total (c.source t)).source.sendResponse reply := by
  rcases handleSetFirmwareFile_cases env t total c with
    ⟨reply, hstatus, heq⟩ | ⟨hstate, hidle, card, rfl, ⟨-, heq⟩ | ⟨id, hid, -⟩⟩
  · exact ⟨reply, hstatus, by rw [heq, rejectBulk_source]⟩
  · exact ⟨_, (by decide : (1 : UInt8) ≠ 0), by rw [heq, rejectBulk_source]; rfl⟩
  · unfold startsFirmware firmwareCard at h
    rw [hstate, hidle, hid] at h
    cases h

/-! ### End to end -/

/-- What an upload of `total` bytes promises, from the state `c` its handler meets to the state
`c'` in which its command is released. -/
structure FirmwareUploaded (env : Env) (t : Transport) (total : ℕ) (c c' : Controller) : Prop where
  /-- what it takes, it takes off the front -/
  bytes : (c.source t).unread ++ (c.firmwareTakes env t total).1.arrived
    = (c.firmwareTakes env t total).1.taken ++ (c'.source t).unread
  released : (c'.source t).hasCommand = false
  replied : ∃ reply,
    (c'.source t).events = (c.source t).events ++ [.replied reply, .released] ∧
    (reply.status = 0 →
      reply = done setFirmwareFileCmd
        (toLe 4 (Panel.crc32 (c.firmwareTakes env t total).1.taken).toNat) ∧
      (c.firmwareTakes env t total).1.taken.length = total ∧
      c'.store.card.contentOf .firmware = some (c.firmwareTakes env t total).1.taken) ∧
    (c.startsFirmware env = true → reply.status ≠ 0 →
      reply.status = 1 ∧ c'.store.card.file .firmware = none)
  exact : (c.firmwareTakes env t total).2 = false → (c.firmwareTakes env t total).1.taken.length = total

/-- When an upload is right, by what ends the loop: an image that is whole goes into an
empty file, one that is not can be removed, and after a short write the drain runs into a bound. -/
def StopSound (env : Env) (t : Transport) (card : Card) (r : BulkRead) : FirmwareStop → Prop
  | .whole => firmwareBase env card = []
  | .idle => env.sd.ok (.discard .firmware) = true
  | .short => env.sd.ok (.discard .firmware) = true ∧ (env.drainRead t r.left r.source).left ≠ 0

instance (env : Env) (t : Transport) (card : Card) (r : BulkRead) (stop : FirmwareStop) :
    Decidable (StopSound env t card r stop) := by
  cases stop <;> unfold StopSound <;> infer_instance

/-- If an upload is started, the end of its loop is one the code is right about. -/
def FirmwareSound (env : Env) (t : Transport) (total : ℕ) (c : Controller) : Prop :=
  c.startsFirmware env = true →
    StopSound env t c.store.card
      (firmwareRead t env.firmware (env.millis 0) total (c.source t)).1
      (firmwareRead t env.firmware (env.millis 0) total (c.source t)).2

instance (env : Env) (t : Transport) (total : ℕ) (c : Controller) :
    Decidable (FirmwareSound env t total c) := by
  unfold FirmwareSound
  infer_instance

/-- What is left to say of an upload once its reply is known. -/
theorem uploaded_iff {reply : Reply} (h : (c.handleSetFirmwareFile env t total).source t
      = (c.firmwareTakes env t total).1.source.sendResponse reply) :
    FirmwareUploaded env t total c ((c.handleSetFirmwareFile env t total).onSource t
        (·.commandConsumed)) ↔
      (reply.status = 0 →
        reply = done setFirmwareFileCmd
          (toLe 4 (Panel.crc32 (c.firmwareTakes env t total).1.taken).toNat) ∧
        (c.firmwareTakes env t total).1.taken.length = total ∧
        (c.handleSetFirmwareFile env t total).store.card.contentOf .firmware
          = some (c.firmwareTakes env t total).1.taken) ∧
      (c.startsFirmware env = true → reply.status ≠ 0 →
        reply.status = 1 ∧ (c.handleSetFirmwareFile env t total).store.card.file .firmware = none) ∧
      ((c.firmwareTakes env t total).2 = false →
        (c.firmwareTakes env t total).1.taken.length = total) := by
  obtain ⟨reply', hheard⟩ := handleSetFirmwareFile_heardAt env t total c
  have hmoves := firmwareTakes_moves env t total c
  have hreply : reply' = reply := by
    have hlast := congrArg List.getLast? hheard.self.events
    rw [h, List.getLast?_append] at hlast
    have hsent : ((c.firmwareTakes env t total).1.source.sendResponse reply).events.getLast?
        = some (.replied reply) := List.getLast?_concat
    rw [hsent] at hlast
    cases hlast
    rfl
  subst hreply
  have hevents : (((c.handleSetFirmwareFile env t total).onSource t (·.commandConsumed)).source
      t).events = (c.source t).events ++ [.replied reply', .released] := by
    rw [onSource_self]
    change ((c.handleSetFirmwareFile env t total).source t).events ++ [.released] = _
    rw [hheard.self.events, List.append_assoc]
    rfl
  constructor
  · rintro ⟨-, -, ⟨reply, hreplied, hstored, hfailed⟩, hexact⟩
    rw [hevents] at hreplied
    obtain rfl : reply' = reply := by simpa using hreplied
    exact ⟨hstored, hfailed, hexact⟩
  · rintro ⟨hstored, hfailed, hexact⟩
    refine ⟨?_, ?_, ⟨reply', hevents, hstored, hfailed⟩, hexact⟩
    · rw [onSource_self, h]
      exact hmoves
    · rw [onSource_self]
      rfl

/-- The handler, and the release of its command. -/
theorem handleSetFirmwareFile_uploaded (env : Env) (t : Transport) (total : ℕ) (c : Controller) :
    FirmwareUploaded env t total c ((c.handleSetFirmwareFile env t total).onSource t
      (·.commandConsumed)) ↔ FirmwareSound env t total c := by
  unfold FirmwareSound
  cases hstarts : c.startsFirmware env with
  | false =>
    obtain ⟨reply, hstatus, hsource⟩ := handleSetFirmwareFile_refused t total hstarts
    have htakes : c.firmwareTakes env t total = (env.drainRead t total (c.source t),
        decide ((env.drainRead t total (c.source t)).left ≠ 0)) := by
      unfold firmwareTakes
      rw [hstarts]
      rfl
    rw [uploaded_iff (by rw [hsource, htakes]), htakes]
    refine iff_of_true ⟨fun h => absurd h hstatus, fun h => ?_, fun h => ?_⟩ fun h => ?_
    · rw [hstarts] at h
      cases h
    · have hcount := Env.drainRead_count env t total (c.source t)
      have hleft := of_decide_eq_false h
      dsimp only
      omega
    · cases h
  | true =>
    have hends := handleSetFirmwareFile_started t total hstarts
    generalize hread : firmwareRead t env.firmware (env.millis 0) total (c.source t) = next at hends
    obtain ⟨r, stop⟩ := next
    have htakes := firmwareTakes.eq_1 env t total c
    rw [if_pos hstarts, hread] at htakes
    cases hends with
    | stored r' hstored hcount hsource hcard =>
      rw [uploaded_iff (by rw [hsource, hstored]), hstored, hcard]
      constructor
      · rintro ⟨h, -⟩ -
        exact List.append_left_eq_self.1 (Option.some.inj (h rfl).2.2)
      · intro h
        have hbase : firmwareBase env c.store.card = [] := h rfl
        rw [hbase]
        exact ⟨fun _ => ⟨rfl, hcount, rfl⟩, fun _ hne => absurd rfl hne, fun _ => hcount⟩
    | failed stop r' text expired hfailed hstop hcount hsource hcard =>
      have hstatus : (refused setFirmwareFileCmd text).status = 1 := rfl
      rw [uploaded_iff (by rw [hsource, hfailed]), hstatus, hfailed, hcard]
      have hexpired : expired = true ↔ stop = .idle ∨ (env.drainRead t r.left r.source).left ≠ 0 := by
        rw [hfailed] at htakes
        cases stop with
        | whole => exact absurd rfl hstop
        | idle => exact iff_of_true (congrArg Prod.snd htakes) (.inl rfl)
        | short =>
          have hsnd := congrArg Prod.snd htakes
          dsimp only at hsnd
          rw [hsnd, decide_eq_true_iff]
          exact ⟨.inr, fun h => h.resolve_left nofun⟩
      have hexact : (expired = false → r'.taken.length = total) ↔ expired = true := by
        constructor
        · intro h
          by_contra hno
          rw [Bool.not_eq_true] at hno
          exact hcount hno (h hno)
        · rintro rfl hno
          cases hno
      rw [hexact, hexpired]
      constructor
      · rintro ⟨-, hremoved, hbound⟩ -
        have hok := (hremoved hstarts (by decide)).2
        cases stop with
        | whole => exact absurd rfl hstop
        | idle => exact hok
        | short => exact ⟨hok, hbound.resolve_left nofun⟩
      · intro h
        have hsafe := h rfl
        cases stop with
        | whole => exact absurd rfl hstop
        | idle => exact ⟨fun hno => absurd hno (by decide), fun _ _ => ⟨rfl, hsafe⟩, .inl rfl⟩
        | short =>
          exact ⟨fun hno => absurd hno (by decide), fun _ _ => ⟨rfl, hsafe.1⟩, .inr hsafe.2⟩

/-- A source has a firmware upload ready, and it is handled. -/
def hasFirmware (t : Transport) (c : Controller) : Bool :=
  let cmd := (c.source t).rx.parsedCmd
  (c.source t).hasCommand && !c.transfers.owns t && cmd.isBulk && cmd.cmd = setFirmwareFileCmd
    && !c.halted

omit [Board] in
theorem noteWatchdog_eq (refusedWindow : Bool) (clock : Telemetry.Clock) (command : UInt8)
    (c : Controller) : ∃ tel, c.noteWatchdog refusedWindow clock command
      = { c with display := { c.display with tel := tel } } := by
  unfold noteWatchdog
  split_ifs
  · exact ⟨_, rfl⟩
  · exact ⟨c.display.tel, rfl⟩

/-- **A firmware upload, end to end.**  In the step that handles a `SET_FIRMWARE_FILE`, whatever
arrives and whatever the card does, it does what it promises exactly when `FirmwareSound` holds. -/
theorem firmware_upload (env : Env) {t : Transport} {c : Controller} (h : c.hasFirmware t = true) :
    FirmwareUploaded (env.call 1) t (c.source t).rx.parsedCmd.bulkPayloadLen
        (c.onSource t noteDispatched) (c.processCommand env t)
      ↔ FirmwareSound (env.call 1) t (c.source t).rx.parsedCmd.bulkPayloadLen
        (c.onSource t noteDispatched) := by
  unfold hasFirmware at h
  dsimp only at h
  simp only [Bool.and_eq_true, Bool.not_eq_true', decide_eq_true_eq] at h
  obtain ⟨⟨⟨⟨hready, howns⟩, hbulk⟩, hcmd⟩, hhalted⟩ := h
  rcases processCommand_cases env t c with ⟨hidle | howned, -⟩ | ⟨-, -, c₁, handoff, hcall, hprocess⟩
  · rw [hready] at hidle
    cases hidle
  · rw [howns] at howned
    cases howned
  · generalize (c.source t).rx.parsedCmd = cmd at hbulk hcmd hcall ⊢
    unfold handleCommand at hcall
    rw [if_pos hbulk] at hcall
    unfold handleBulkWriteCommand at hcall
    dsimp only at hcall
    rw [if_pos hcmd] at hcall
    obtain ⟨rfl, rfl⟩ := Prod.mk.inj hcall
    obtain ⟨tel, hbefore⟩ := noteWatchdog_eq (decide (cmd.cmd = setFirmwareFileCmd) && !env.watchdog [0])
      (env.clock 0) cmd.cmd (c.onSource t noteDispatched)
    rw [hbefore] at hprocess
    generalize hserved : handleSetFirmwareFile (env.call 1) t cmd.bulkPayloadLen
      { c.onSource t noteDispatched with
        display := { (c.onSource t noteDispatched).display with tel := tel } } = c₂ at hprocess
    obtain ⟨tel', hafter⟩ := noteWatchdog_eq (decide (cmd.cmd = setFirmwareFileCmd) && !env.watchdog [2])
      (env.clock 2) cmd.cmd c₂
    rw [hafter] at hprocess
    have hbulk₂ : handleBulkWriteCommand (env.call 1) t cmd { c.onSource t noteDispatched with
        display := { (c.onSource t noteDispatched).display with tel := tel } } = (c₂, false) := by
      unfold handleBulkWriteCommand
      rw [if_pos hcmd, hserved]
    have hrunning : c₂.halted = false := by
      rcases handleBulkWriteCommand_core hbulk₂ with ⟨-, hcore⟩ | ⟨hno, -⟩
      · exact hcore.halted.trans hhalted
      · cases hno
    rw [Bool.false_or, if_neg (by rw [hrunning]; decide)] at hprocess
    have huploaded := handleSetFirmwareFile_uploaded (env.call 1) t cmd.bulkPayloadLen
      { c.onSource t noteDispatched with
        display := { (c.onSource t noteDispatched).display with tel := tel } }
    rw [hserved] at huploaded
    rw [hprocess]
    constructor
    · rintro ⟨hbytes, hreleased, hreplied, hexact⟩
      exact huploaded.1 ⟨hbytes, hreleased, hreplied, hexact⟩
    · intro hsound
      obtain ⟨hbytes, hreleased, hreplied, hexact⟩ := huploaded.2 hsound
      exact ⟨hbytes, hreleased, hreplied, hexact⟩

end Controller

end

/-! ### A card that takes nothing -/

section

local instance firmwareBoard : Board := ⟨.hw10_10⟩

/-- Two bytes of firmware and a command behind them, on a card that takes so many bytes of a
chunk. -/
def firmwareWrote (wrote : ℕ) : Env :=
  let pass : BulkPass := ⟨0, 0, [], 4096, wrote⟩
  { Env.calm Sd.goodIo with firmware := [pass], drain := [pass, pass] }

/-- The controller with that upload parsed, its payload and the command still unread. -/
def firmwareParsed : Controller :=
  let bytes : List UInt8 := [0xE0, 2, 0, 0, 0, 0, 0, 0, 0, 0xAA, 0xBB, 1, 0x00]
  Machine.run Controller.step (setup (.cold Sd.sampleCard) (.calm Sd.goodIo))
    [(.arrive .serial bytes, .calm Sd.goodIo), (.service .serial false, .calm Sd.goodIo)]

theorem firmware_upload_stored :
    Controller.FirmwareUploaded ((firmwareWrote 4096).call 1) .serial
      (firmwareParsed.source .serial).rx.parsedCmd.bulkPayloadLen
      (firmwareParsed.onSource .serial Controller.noteDispatched)
      (firmwareParsed.processCommand (firmwareWrote 4096) .serial) :=
  (Controller.firmware_upload _ (by decide +kernel)).2 (by decide +kernel)

/-- **A short write swallows the next command.**  No bound expires, and the command behind the
payload is drained with it. -/
theorem firmware_drain_swallows_command :
    (firmwareParsed.source .serial).unread = [0xAA, 0xBB, 1, 0x00] ∧
      ((firmwareParsed.processCommand (firmwareWrote 0) .serial).source .serial).unread = [] ∧
      ¬ Controller.FirmwareUploaded ((firmwareWrote 0).call 1) .serial
        (firmwareParsed.source .serial).rx.parsedCmd.bulkPayloadLen
        (firmwareParsed.onSource .serial Controller.noteDispatched)
        (firmwareParsed.processCommand (firmwareWrote 0) .serial) := by
  refine ⟨by decide +kernel, by decide +kernel, fun h => ?_⟩
  exact absurd (h.exact (by decide +kernel)) (by decide +kernel)

end

end Command
end G6Arena
