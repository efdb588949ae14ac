/-
# The history of a source

`Source.events` records what happens to the commands of a source.  `Phase` is where the last one
is, and `phaseOf` follows it: the commands are served one after the other, each parsed,
dispatched, replied to and released once (`served_of_phaseOf`), or there is no phase.

`Heard es s s'` says what an operation on a source leaves: it adds the events `es`, and a reply is
queued after it exactly as the events say.
-/

import G6Arena.Link.Source
import Mathlib.Data.List.Induction
import Mathlib.Tactic.SplitIfs

namespace G6Arena
namespace Link

open ByteMem

/-! ### Phases -/

/-- Where the last command of a source is. -/
inductive Phase
  | idle
  | parsed
  | dispatched
  | replied
  deriving DecidableEq

/-- A command is parsed, dispatched, replied to, released. -/
def Phase.next : Phase → SourceEvent → Option Phase
  | p, .flushed => some p
  | .idle, .parsed => some .parsed
  | .parsed, .dispatched => some .dispatched
  | .dispatched, .replied _ => some .replied
  | .replied, .released => some .idle
  | _, _ => none

/-- The phase after some events, if each came in its turn. -/
def phaseFrom (p : Phase) (es : List SourceEvent) : Option Phase := es.foldlM Phase.next p

def phaseOf (es : List SourceEvent) : Option Phase := phaseFrom .idle es

theorem phaseOf_append (es es' : List SourceEvent) :
    phaseOf (es ++ es') = (phaseOf es).bind fun p => phaseFrom p es' :=
  List.foldlM_append ..

theorem phaseOf_append_of_eq {es : List SourceEvent} {p : Phase} (h : phaseOf es = some p)
    (es' : List SourceEvent) : phaseOf (es ++ es') = phaseFrom p es' := by
  rw [phaseOf_append, h]
  rfl

@[simp] theorem phaseFrom_nil (p : Phase) : phaseFrom p [] = some p := rfl

theorem phaseFrom_flushed (p : Phase) (n : ℕ) :
    phaseFrom p (List.replicate n .flushed) = some p := by
  induction n with
  | zero => rfl
  | succ n ih => exact ih

/-- What a served command leaves in the history. -/
def commandEvents (reply : Reply) : List SourceEvent :=
  [.parsed, .dispatched, .replied reply, .released]

/-- What a command leaves that is in this phase. -/
inductive Phase.Begun : Phase → List SourceEvent → Prop
  | idle : Begun .idle []
  | parsed : Begun .parsed [.parsed]
  | dispatched : Begun .dispatched [.parsed, .dispatched]
  | replied (reply : Reply) : Begun .replied [.parsed, .dispatched, .replied reply]

/-- Commands that were served, each once and one after the other, and one that may be under way. -/
def Served (p : Phase) (es : List SourceEvent) : Prop :=
  ∃ (replies : List Reply) (rest : List SourceEvent), es.filter (· ≠ .flushed)
    = replies.flatMap commandEvents ++ rest ∧ p.Begun rest

/-- **The commands are served one after the other.** -/
theorem served_of_phaseOf {es : List SourceEvent} {p : Phase} (h : phaseOf es = some p) :
    Served p es := by
  induction es using List.reverseRecOn generalizing p with
  | nil =>
    cases h
    exact ⟨[], [], rfl, .idle⟩
  | append_singleton es e ih =>
    rw [phaseOf_append, Option.bind_eq_some_iff] at h
    obtain ⟨q, hq, hnext⟩ := h
    obtain ⟨replies, rest, hes, hrest⟩ := ih hq
    have hstep : Phase.next q e = some p := by
      simpa [phaseFrom] using hnext
    have hfilter (he : e ≠ .flushed) : (es ++ [e]).filter (· ≠ .flushed)
        = replies.flatMap commandEvents ++ (rest ++ [e]) := by
      rw [List.filter_append, hes, List.append_assoc, List.filter_singleton, decide_eq_true he]
      rfl
    cases e with
    | flushed =>
      cases hstep
      refine ⟨replies, rest, ?_, hrest⟩
      rw [List.filter_append, hes]
      exact List.append_nil _
    | parsed =>
      cases hrest <;> cases hstep
      exact ⟨replies, _, hfilter (by decide), .parsed⟩
    | dispatched =>
      cases hrest <;> cases hstep
      exact ⟨replies, _, hfilter (by decide), .dispatched⟩
    | replied reply =>
      cases hrest <;> cases hstep
      exact ⟨replies, _, hfilter (fun h => SourceEvent.noConfusion h), .replied reply⟩
    | released =>
      cases hrest with
      | replied reply =>
        cases hstep
        refine ⟨replies ++ [reply], [], ?_, .idle⟩
        rw [hfilter (by decide), List.flatMap_append, List.append_nil]
        rfl
      | _ => cases hstep

/-! ### Queued replies -/

/-- Is a reply queued after some events? -/
def queuedAfter (queued : Bool) : List SourceEvent → Bool
  | [] => queued
  | .replied _ :: es => queuedAfter true es
  | .flushed :: es => queuedAfter false es
  | _ :: es => queuedAfter queued es

theorem queuedAfter_append (queued : Bool) (es es' : List SourceEvent) :
    queuedAfter queued (es ++ es') = queuedAfter (queuedAfter queued es) es' := by
  induction es generalizing queued with
  | nil => rfl
  | cons e es ih => cases e <;> exact ih _

/-- No reply is queued over another. -/
def FlushedBetween (queued : Bool) : List SourceEvent → Bool
  | [] => true
  | .replied _ :: es => !queued && FlushedBetween true es
  | .flushed :: es => FlushedBetween false es
  | _ :: es => FlushedBetween queued es

theorem flushedBetween_append (queued : Bool) (es es' : List SourceEvent) :
    FlushedBetween queued (es ++ es')
      = (FlushedBetween queued es && FlushedBetween (queuedAfter queued es) es') := by
  induction es generalizing queued with
  | nil => rfl
  | cons e es ih =>
    cases e with
    | replied reply =>
      change (!queued && FlushedBetween true (es ++ es'))
        = ((!queued && FlushedBetween true es) && FlushedBetween (queuedAfter true es) es')
      rw [ih, Bool.and_assoc]
    | _ => exact ih _

theorem flushedBetween_flushed (queued : Bool) (n : ℕ) :
    FlushedBetween queued (List.replicate n .flushed) = true := by
  induction n generalizing queued with
  | zero => rfl
  | succ n ih => exact ih false

/-! ### What an operation leaves -/

/-- An operation that adds events, and leaves the command of the source. -/
structure Heard (es : List SourceEvent) (s s' : Source) : Prop where
  events : s'.events = s.events ++ es
  ready : s'.rx.cmdReady = s.rx.cmdReady
  cmd : s'.rx.parsedCmd = s.rx.parsedCmd
  connected : s'.connected = s.connected
  queued : decide (s'.resp ≠ []) = queuedAfter (decide (s.resp ≠ [])) es

namespace Heard

variable {es es' : List SourceEvent} {s s' s'' : Source}

theorem refl (s : Source) : Heard [] s s := ⟨(List.append_nil _).symm, rfl, rfl, rfl, rfl⟩

theorem trans (h : Heard es s s') (h' : Heard es' s' s'') : Heard (es ++ es') s s'' := by
  refine ⟨?_, h'.ready.trans h.ready, h'.cmd.trans h.cmd, h'.connected.trans h.connected, ?_⟩
  · rw [h'.events, h.events, List.append_assoc]
  · rw [h'.queued, h.queued, queuedAfter_append]

theorem link (h : Heard es s s') (l : List UInt8) : Heard es s { s' with link := l } :=
  ⟨h.events, h.ready, h.cmd, h.connected, h.queued⟩

end Heard

theorem sent_heard (s : Source) (sent : List UInt8) : Heard [] s { s with sent := sent } :=
  ⟨(List.append_nil _).symm, rfl, rfl, rfl, rfl⟩

theorem sendResponse_heard (reply : Reply) (s : Source) :
    Heard [.replied reply] s (s.sendResponse reply) := by
  refine ⟨rfl, rfl, rfl, rfl, ?_⟩
  exact decide_eq_true (List.cons_ne_nil _ _)

theorem flushResponses_heard (t : Transport) (pass : TxPass) (s : Source) :
    ∃ n, Heard (List.replicate n .flushed) s (s.flushResponses t pass) := by
  have hflushed (sent : List UInt8) : Heard [.flushed] s
      { s with sent := sent, resp := [], events := s.events ++ [.flushed] } :=
    ⟨rfl, rfl, rfl, rfl, rfl⟩
  unfold Source.flushResponses
  cases t with
  | serial =>
    dsimp only
    split_ifs
    · exact ⟨0, .refl s⟩
    · exact ⟨0, .refl s⟩
    · exact ⟨1, hflushed _⟩
  | network =>
    dsimp only
    split_ifs
    · exact ⟨0, .refl s⟩
    · exact ⟨0, .refl s⟩
    · exact ⟨1, hflushed _⟩

theorem spinFlush_heard (deadline : ℕ) (passes : List TxPass) (s : Source) :
    ∃ n, Heard (List.replicate n .flushed) s (Source.spinFlush deadline passes s) := by
  induction passes generalizing s with
  | nil => exact ⟨0, .refl s⟩
  | cons pass rest ih =>
    unfold Source.spinFlush
    split_ifs
    · exact ⟨0, .refl s⟩
    · exact ⟨0, .refl s⟩
    · obtain ⟨n, hn⟩ := flushResponses_heard .serial pass s
      obtain ⟨m, hm⟩ := ih (s.flushResponses .serial pass)
      exact ⟨n + m, List.replicate_add n m _ ▸ hn.trans hm⟩

theorem writeSerial_heard (stall : ℕ) (passes : List TxPass) (buf : List UInt8) (s : Source) :
    Heard [] s (Source.writeSerial stall passes buf s).1 := by
  induction passes generalizing stall buf s with
  | nil => cases buf <;> exact .refl s
  | cons pass rest ih =>
    cases buf with
    | nil => exact .refl s
    | cons b buf =>
      unfold Source.writeSerial
      dsimp only
      split_ifs
      · exact .refl s
      · exact ih stall (b :: buf) s
      · exact (sent_heard s _).trans (ih ((pass.now + Source.kStallTimeoutMs) % 2 ^ 32) _ _)

theorem writeNetwork_heard (stall : ℕ) (passes : List TxPass) (buf : List UInt8) (s : Source) :
    Heard [] s (Source.writeNetwork stall passes buf s).1 := by
  induction passes generalizing stall buf s with
  | nil => cases buf <;> exact .refl s
  | cons pass rest ih =>
    cases buf with
    | nil => exact .refl s
    | cons b buf =>
      unfold Source.writeNetwork
      dsimp only
      split_ifs
      · exact .refl s
      · exact .refl s
      · exact ih stall (b :: buf) s
      · exact (sent_heard s _).trans (ih ((pass.now + Source.kStallTimeoutMs) % 2 ^ 32) _ _)

/-- Raw bytes are written after the reply that is queued, if it can be. -/
theorem sendRaw_heard (t : Transport) (io : TxIo) (buf : List UInt8) (s : Source) :
    ∃ n, Heard (List.replicate n .flushed) s (s.sendRaw t io buf).1 := by
  unfold Source.sendRaw
  cases t with
  | serial =>
    obtain ⟨n, hn⟩ := spinFlush_heard ((io.start + Source.respTimeoutMs) % 2 ^ 32) io.spin s
    exact ⟨n, List.append_nil (List.replicate n _) ▸ hn.trans (writeSerial_heard ..)⟩
  | network =>
    dsimp only
    split
    · exact ⟨0, .refl s⟩
    · obtain ⟨n, hn⟩ := flushResponses_heard .network _ s
      exact ⟨n, List.append_nil (List.replicate n _) ▸ hn.trans (writeNetwork_heard ..)⟩

section

variable [Board]

theorem readBulkBytes_heard (t : Transport) (cap maxLen : ℕ) (s : Source) :
    Heard [] s (s.readBulkBytes t cap maxLen).1 := by
  unfold Source.readBulkBytes
  cases t with
  | serial => exact ⟨(List.append_nil _).symm, rfl, rfl, rfl, rfl⟩
  | network =>
    dsimp only
    unfold NetworkManager.readBulkBytes
    split_ifs <;> exact ⟨(List.append_nil _).symm, rfl, rfl, rfl, rfl⟩

end

/-! ### Parsed commands -/

/-- A binary command that is ready has the length its first byte claims. -/
def Rx.Sound (rx : Rx) : Prop :=
  rx.cmdReady = true → rx.parsedCmd.isBulk = false → rx.parsedCmd.isStream = false →
    rx.parsedCmd.dataLen - 1 = (rx.parsedCmd.data 0).toNat

theorem Rx.sound_of_not_ready {rx : Rx} (h : rx.cmdReady = false) : rx.Sound := by
  intro hready
  rw [h] at hready
  cases hready

theorem Rx.parseBinary_sound {rx : Rx} (h : rx.cmdReady = false) : rx.parseBinary.Sound := by
  unfold Rx.parseBinary
  dsimp only
  split_ifs
  · exact sound_of_not_ready h
  · intro _ _ _
    change 1 + (rx.rxBuf 0).toNat - 1 = (rx.copy 0 (1 + (rx.rxBuf 0).toNat) 0).toNat
    have hfirst : rx.copy 0 (1 + (rx.rxBuf 0).toNat) 0 = rx.rxBuf 0 := by
      have hstore := store_apply_add rx.parsedCmd.data 0 (i := 0)
        (bytesAt rx.rxBuf 0 (1 + (rx.rxBuf 0).toNat)) (by rw [length_bytesAt]; omega)
      rw [Nat.zero_add] at hstore
      rw [Rx.copy, hstore, getD_bytesAt _ _ _ _ (by omega), Nat.zero_add]
    rw [hfirst]
    omega

theorem Rx.parsePatternFilename_sound {rx : Rx} (h : rx.cmdReady = false) :
    rx.parsePatternFilename.Sound := by
  unfold Rx.parsePatternFilename
  dsimp only
  split_ifs
  · exact sound_of_not_ready h
  · exact sound_of_not_ready h
  · exact sound_of_not_ready h
  · next hname _ =>
    intro _ _ _
    change 4 + (rx.rxBuf 3).toNat + 1 - 1 = (store (store rx.parsedCmd.data 0
      [UInt8.ofNat (4 + (rx.rxBuf 3).toNat)]) 1 (bytesAt rx.rxBuf 0 (4 + (rx.rxBuf 3).toNat)) 0).toNat
    have hfirst := store_apply_add rx.parsedCmd.data 0 (i := 0) [UInt8.ofNat (4 + (rx.rxBuf 3).toNat)]
      Nat.one_pos
    rw [Nat.zero_add] at hfirst
    rw [store_apply_of_lt _ _ (by omega), hfirst]
    change _ = (4 + (rx.rxBuf 3).toNat) % 256
    omega

theorem Rx.parseBulk_sound {rx : Rx} (h : rx.cmdReady = false) (opcode : UInt8) (hdr lenAt : ℕ) :
    (Rx.parseBulk opcode hdr lenAt rx).Sound := by
  unfold Rx.parseBulk
  split_ifs
  · exact sound_of_not_ready h
  · intro _ hbulk
    cases hbulk

theorem Rx.parse_sound [Board] {rx : Rx} (h : rx.cmdReady = false) : rx.parse.Sound := by
  unfold Rx.parse
  dsimp only
  split_ifs
  · unfold Rx.parseStream
    dsimp only
    split_ifs
    · exact sound_of_not_ready h
    · exact sound_of_not_ready h
    · exact sound_of_not_ready h
    · intro _ _ hstream
      cases hstream
  · exact parseBinary_sound h
  · exact parseBulk_sound h _ _ _
  · exact parseBulk_sound h _ _ _
  · exact parsePatternFilename_sound h
  · exact sound_of_not_ready h

/-- What a service of a source leaves: a command that was ready, or one that is parsed now. -/
structure Polled (t : Transport) (s s' : Source) : Prop where
  resp : s'.resp = s.resp
  connected : s.connected = true → s'.connected = true
  kept : s.rx.cmdReady = true → s'.events = s.events ∧ s'.rx.cmdReady = true ∧
    s'.rx.parsedCmd = s.rx.parsedCmd
  polled : s.rx.cmdReady = false → s'.rx.Sound ∧
    s'.events = s.events ++ (if s'.rx.cmdReady then [.parsed] else []) ∧
    (t = .network → s'.rx.cmdReady = true → s'.connected = true)

/-- A parser that is run on a source without a command. -/
theorem noteParsed_polled {t : Transport} {s s' : Source} (hready : s.rx.cmdReady = false)
    (hresp : s'.resp = s.resp) (hevents : s'.events = s.events)
    (hkeeps : s.connected = true → s'.connected = true) (hsound : s'.rx.Sound)
    (hconnected : t = .network → s'.rx.cmdReady = true → s'.connected = true) :
    Polled t s (Source.noteParsed false s') := by
  have hnote : Source.noteParsed false s' = { s' with
      events := s.events ++ if s'.rx.cmdReady then [.parsed] else [] } := by
    unfold Source.noteParsed
    rw [← hevents]
    cases s'.rx.cmdReady with
    | true => rfl
    | false =>
      rw [if_neg Bool.false_ne_true, List.append_nil]
      rfl
  rw [hnote]
  refine ⟨hresp, hkeeps, fun h => ?_, fun _ => ⟨hsound, rfl, hconnected⟩⟩
  rw [hready] at h
  cases h

theorem serviceUsb_sound [Board] {rx : Rx} (h : rx.cmdReady = false) (cap : ℕ) (link : List UInt8) :
    (SerialManager.serviceUsb cap rx link).1.Sound := by
  unfold SerialManager.serviceUsb
  rw [h, if_neg Bool.false_ne_true]
  dsimp only
  split_ifs
  · exact Rx.sound_of_not_ready h
  · exact Rx.parse_sound h

theorem parseIncoming_sound [Board] {rx : Rx} (h : rx.cmdReady = false) (connected : Bool) (cap : ℕ)
    (link : List UInt8) : (NetworkManager.parseIncoming connected cap rx link).1.Sound := by
  unfold NetworkManager.parseIncoming
  rw [h, if_neg Bool.false_ne_true]
  dsimp only
  split_ifs
  · exact Rx.sound_of_not_ready h
  · exact Rx.sound_of_not_ready h
  · exact Rx.parse_sound h

/-- Nothing is parsed without a client. -/
theorem parseIncoming_connected [Board] {rx : Rx} (h : rx.cmdReady = false) {connected : Bool}
    {cap : ℕ} {link : List UInt8}
    (hparsed : (NetworkManager.parseIncoming connected cap rx link).1.cmdReady = true) :
    connected = true := by
  cases connected with
  | true => rfl
  | false =>
    rw [show (NetworkManager.parseIncoming false cap rx link).1 = rx from rfl, h] at hparsed
    cases hparsed

theorem service_polled [Board] (t : Transport) (cap : ℕ) (accepted : Bool) {s : Source}
    (hlinked : t = .network → s.rx.cmdReady = true → s.connected = true) :
    Polled t s (s.service t cap accepted) := by
  have hkept (h : s.rx.cmdReady = true) {s' : Source} (hevents : s'.events = s.events)
      (hrx : s'.rx = s.rx) (hresp : s'.resp = s.resp)
      (hconnected : s.connected = true → s'.connected = true) : Polled t s s' := by
    refine ⟨hresp, hconnected, fun _ => ⟨hevents, by rw [hrx, h], by rw [hrx]⟩, fun hidle => ?_⟩
    rw [h] at hidle
    cases hidle
  cases hready : s.rx.cmdReady with
  | true =>
    cases t with
    | serial =>
      unfold Source.service SerialManager.serviceUsb
      dsimp only
      rw [hready, if_pos rfl]
      exact hkept hready rfl rfl rfl id
    | network =>
      have hconnected := hlinked rfl hready
      unfold Source.service NetworkManager.serviceTcp NetworkManager.parseIncoming
      dsimp only
      rw [hconnected, hready, if_pos rfl, Bool.true_or, if_neg (by decide), if_pos hready]
      exact hkept hready rfl rfl rfl fun _ => rfl
  | false =>
    cases t with
    | serial =>
      unfold Source.service
      dsimp only
      rw [hready]
      refine noteParsed_polled hready rfl rfl id (serviceUsb_sound hready _ _) ?_
      intro h
      cases h
    | network =>
      unfold Source.service NetworkManager.serviceTcp
      dsimp only
      rw [hready, Bool.and_false]
      have hrx : (if s.connected then s.rx else { s.rx with rxLen := 0, cmdReady := false }).cmdReady
          = false := by
        split_ifs
        · exact hready
        · rfl
      refine noteParsed_polled hready rfl rfl (fun h => by rw [h]; rfl) (parseIncoming_sound hrx _ _ _) ?_
      exact fun _ hparsed => parseIncoming_connected hrx hparsed

end Link
end G6Arena
