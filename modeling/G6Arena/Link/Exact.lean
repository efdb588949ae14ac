/-
# Framing is exact

A channel: a stream of frames that is still to arrive, the bytes that have arrived and
were not read, the receive side of a transport, and a log of what it has given out, the
commands and the payload bytes in order.  The host's bytes arrive in chunks of any
size, polls read as much of them as they get, and the consumer takes the payload of an
upload before it lets go of the command.

`Exact` is the invariant: the log, the payload still due and the frames not parsed
are together what was sent, and so are the bytes in the buffer, on the link and still
to arrive.
-/

import G6Arena.Lib.Machine
import G6Arena.Link.Frames

namespace G6Arena
namespace Link

open ByteMem
open Machine

/-! ### Filling the buffer -/

namespace Rx

variable [Board] {rx : Rx} {link : List UInt8} {cap : ℕ}

/-- Filling the buffer moves bytes and loses none. -/
theorem fill_pending (rx : Rx) (link : List UInt8) (cap : ℕ) :
    (rx.fill link cap).1.pending ++ (rx.fill link cap).2 = rx.pending ++ link := by
  rw [fill]
  dsimp only
  have hn : min cap (min link.length (rxBufSize - rx.rxLen)) ≤ link.length := by omega
  generalize min cap (min link.length (rxBufSize - rx.rxLen)) = n at hn
  have hlen : (link.take n).length = n := List.length_take_of_le hn
  rw [pending]
  dsimp only
  rw [bytesAt_add, bytesAt_store_of_disjoint _ _ (.inl (by omega)), Nat.zero_add,
    bytesAt_store_of_length _ _ hlen, List.append_assoc, List.take_append_drop]
  rfl

theorem fill_rxLen_le (link : List UInt8) (cap : ℕ) (h : rx.rxLen ≤ rxBufSize) : (rx.fill link cap).1.rxLen ≤ rxBufSize := by
  rw [fill]
  dsimp only
  omega

/-- A fill that may read all there is leaves a byte only behind a full buffer. -/
theorem fill_full (h : rx.rxLen ≤ rxBufSize) (hcap : link.length ≤ cap)
    (hlink : (rx.fill link cap).2 ≠ []) : (rx.fill link cap).1.rxLen = rxBufSize := by
  have hne := List.length_pos_iff.2 hlink
  rw [fill] at hne ⊢
  dsimp only at hne ⊢
  rw [List.length_drop] at hne
  omega

@[simp] theorem fill_cmdReady : (rx.fill link cap).1.cmdReady = rx.cmdReady := rfl

end Rx

/-- Bytes taken out of the buffer. -/
theorem consume_spec {rx : Rx} {n : ℕ} (h : n ≤ rx.rxLen) (link : List UInt8) :
    bytesAt rx.rxBuf 0 n ++ ((rx.consume n).pending ++ link) = rx.pending ++ link := by
  rw [Rx.pending_consume h, ← List.append_assoc, Rx.pending, ← take_bytesAt rx.rxBuf 0 rx.rxLen n h,
    List.take_append_drop]

/-! ### The two transports -/

section

variable [Board]

/-- A poll, for the network one on a client that stays connected. -/
def Transport.service (t : Transport) (cap : ℕ) (rx : Rx) (link : List UInt8) :
    Rx × List UInt8 :=
  match t with
  | serial => SerialManager.serviceUsb cap rx link
  | network => NetworkManager.serviceTcp true true cap rx link

def Transport.readBulkBytes (t : Transport) (cap maxLen : ℕ) (rx : Rx) (link : List UInt8) :
    Rx × List UInt8 × List UInt8 :=
  match t with
  | serial => SerialManager.readBulkBytes cap maxLen rx link
  | network => NetworkManager.readBulkBytes true cap maxLen rx link

/-- Both polls do the same. -/
theorem service_eq (t : Transport) (cap : ℕ) (rx : Rx) (link : List UInt8) :
    t.service cap rx link
      = if rx.cmdReady then (rx, link)
        else if (rx.fill link cap).1.rxLen = 0 then rx.fill link cap
        else ((rx.fill link cap).1.parse, (rx.fill link cap).2) := by
  cases t <;> rfl

/-- Both readers give the next bytes of buffer and link, at least one if there is one. -/
theorem readBulkBytes_spec (t : Transport) (cap maxLen : ℕ) {rx : Rx} (link : List UInt8)
    (h : rx.rxLen ≤ rxBufSize) :
    ∃ rx' link' bytes, t.readBulkBytes cap maxLen rx link = (rx', link', bytes) ∧
      bytes ++ (rx'.pending ++ link') = rx.pending ++ link ∧ bytes.length ≤ maxLen ∧
      rx'.cmdReady = rx.cmdReady ∧ rx'.rxLen ≤ rxBufSize ∧
      (0 < cap → 0 < maxLen → rx.pending ++ link ≠ [] → bytes ≠ []) := by
  cases t with
  | serial =>
    have hfill := Rx.fill_pending rx link cap
    have hle := Rx.fill_rxLen_le link cap h
    refine ⟨_, _, _, rfl, ?_, ?_, rfl, ?_, ?_⟩
    · exact (consume_spec (Nat.min_le_left ..) _).trans hfill
    · rw [length_bytesAt]
      exact Nat.min_le_right ..
    · exact (Nat.sub_le ..).trans hle
    · intro hcap hmax hne hnil
      have hsize := rxBufSize_bounds.1
      have hpos := List.length_pos_iff.2 hne
      rw [List.length_append, Rx.length_pending] at hpos
      have hzero := congrArg List.length hnil
      rw [length_bytesAt, List.length_nil] at hzero
      change min (rx.rxLen + min cap (min link.length (rxBufSize - rx.rxLen))) maxLen = 0 at hzero
      omega
  | network =>
    change ∃ rx' link' bytes, NetworkManager.readBulkBytes true cap maxLen rx link = _ ∧ _
    rw [NetworkManager.readBulkBytes, if_pos rfl]
    split_ifs with hpos
    · refine ⟨_, _, _, rfl, consume_spec (Nat.min_le_left ..) link, ?_, rfl, ?_, ?_⟩
      · rw [length_bytesAt]
        exact Nat.min_le_right ..
      · exact (Nat.sub_le ..).trans h
      · intro _ hmax _ hnil
        have hzero := congrArg List.length hnil
        rw [length_bytesAt, List.length_nil] at hzero
        omega
    · have hnil : rx.pending = [] := List.length_eq_zero_iff.1 (by rw [Rx.length_pending]; omega)
      refine ⟨_, _, _, rfl, ?_, ?_, rfl, h, ?_⟩
      · rw [hnil, List.nil_append, List.nil_append, List.take_append_drop]
      · rw [List.length_take]
        omega
      · intro hcap hmax hne htake
        rw [hnil, List.nil_append] at hne
        have hlink := List.length_pos_iff.2 hne
        have hzero := congrArg List.length htake
        rw [List.length_take, List.length_nil] at hzero
        omega

/-! ### The channel -/

/-- What a channel gives out. -/
inductive Item
  | command (c : Command)
  | payload (b : UInt8)
  deriving DecidableEq

structure Channel where
  unsent : List UInt8
  link : List UInt8
  rx : Rx
  /-- payload bytes of the current command that were not read -/
  left : ℕ
  log : List Item

inductive Event
  | arrive (n : ℕ)
  | service (cap : ℕ)
  | commandConsumed
  | readBulkBytes (cap maxLen : ℕ)

def channelStep (t : Transport) (s : Channel) : Event → Channel
  | .arrive n => { s with unsent := s.unsent.drop n, link := s.link ++ s.unsent.take n }
  | .service cap =>
    let (rx, link) := t.service cap s.rx s.link
    if rx.cmdReady && !s.rx.cmdReady then
      { s with
        link := link
        rx := rx
        left := rx.parsedCmd.bulkPayloadLen
        log := s.log ++ [.command rx.parsedCmd.view] }
    else { s with link := link, rx := rx }
  | .commandConsumed => { s with rx := commandConsumed s.rx }
  | .readBulkBytes cap maxLen =>
    let (rx, link, bytes) := t.readBulkBytes cap maxLen s.rx s.link
    { s with
      link := link
      rx := rx
      left := s.left - bytes.length
      log := s.log ++ bytes.map .payload }

/-- The consumer reads no more than the payload, and lets go of a command once it has all
of it. -/
def Disciplined (s : Channel) : Event → Prop
  | .commandConsumed => s.left = 0
  | .readBulkBytes _ maxLen => maxLen ≤ s.left
  | _ => True

instance (s : Channel) : (e : Event) → Decidable (Disciplined s e)
  | .commandConsumed => inferInstanceAs (Decidable (_ = _))
  | .readBulkBytes _ _ => inferInstanceAs (Decidable (_ ≤ _))
  | .arrive _ => inferInstanceAs (Decidable True)
  | .service _ => inferInstanceAs (Decidable True)

/-- The stream of a list of frames. -/
def wires (frames : List Frame) : List UInt8 := frames.flatMap Frame.wire

/-- What the frames should give out. -/
def Frame.items (f : Frame) : List Item := .command f.command :: f.payload.map .payload

def items (frames : List Frame) : List Item := frames.flatMap Frame.items

/-- A channel before its first byte, whatever is in its arrays. -/
def Channel.start (rxBuf : Mem) (parsedCmd : ParsedCommand) (frames : List Frame) : Channel where
  unsent := wires frames
  link := []
  rx := ⟨rxBuf, 0, parsedCmd, false⟩
  left := 0
  log := []

/-- The invariant: `due` is the payload still due and `rest` the frames not parsed. -/
structure Exact (frames : List Frame) (s : Channel) (due : List UInt8) (rest : List Frame) :
    Prop where
  log : s.log ++ (due.map .payload ++ items rest) = items frames
  bytes : s.rx.pending ++ s.link ++ s.unsent = due ++ wires rest
  left : s.left = due.length
  ready : due ≠ [] → s.rx.cmdReady = true
  fits : s.rx.rxLen ≤ rxBufSize
  wellFormed : ∀ f ∈ rest, f.WellFormed

/-! ### The steps -/

namespace Exact

variable {t : Transport} {frames rest : List Frame} {s : Channel} {due : List UInt8}

theorem start (rxBuf : Mem) (parsedCmd : ParsedCommand) (hf : ∀ f ∈ frames, f.WellFormed) :
    Exact frames (.start rxBuf parsedCmd frames) [] frames where
  log := rfl
  bytes := rfl
  left := rfl
  ready h := absurd rfl h
  fits := Nat.zero_le _
  wellFormed := hf

theorem due_eq_nil (h : Exact frames s due rest) (hready : s.rx.cmdReady = false) : due = [] := by
  by_contra hne
  exact absurd ((h.ready hne).symm.trans hready) (by decide)

/-- A poll fills the buffer. -/
theorem fill (h : Exact frames s due rest) (cap : ℕ) :
    Exact frames { s with rx := (s.rx.fill s.link cap).1, link := (s.rx.fill s.link cap).2 } due
      rest where
  log := h.log
  bytes := by
    rw [← h.bytes]
    exact congrArg (· ++ s.unsent) (Rx.fill_pending ..)
  left := h.left
  ready := h.ready
  fits := Rx.fill_rxLen_le _ _ h.fits
  wellFormed := h.wellFormed

/-- The buffer starts as the next frame does. -/
theorem agrees {f : Frame} (h : Exact frames s [] (f :: rest)) : s.rx.Agrees f.header := by
  have hbytes := h.bytes
  rw [List.append_assoc] at hbytes
  rw [List.nil_append, wires, List.flatMap_cons, Frame.wire, List.append_assoc f.header] at hbytes
  exact Rx.agrees_of_append hbytes

/-- The next frame is delivered and its payload falls due. -/
theorem deliver {f : Frame} {cmd : ParsedCommand} (h : Exact frames s [] (f :: rest))
    (hcmd : cmd.view = f.command) (hlen : f.header.length ≤ s.rx.rxLen) :
    Exact frames
      { s with
        rx := s.rx.deliver cmd f.header.length
        left := cmd.bulkPayloadLen
        log := s.log ++ [.command cmd.view] } f.payload rest where
  log := by
    rw [← h.log, hcmd, List.append_assoc]
    rfl
  bytes := by
    have hbytes := congrArg (List.drop f.header.length) h.bytes
    rw [List.nil_append, wires, List.flatMap_cons, Frame.wire, List.append_assoc f.header,
      List.drop_left, List.append_assoc,
      List.drop_append_of_le_length (by rwa [Rx.length_pending])] at hbytes
    rw [Rx.deliver_pending, Rx.pending_consume hlen, List.append_assoc]
    exact hbytes
  left := by
    change cmd.view.bulkPayloadLen = _
    rw [hcmd]
    cases f <;> rfl
  ready _ := rfl
  fits := (Nat.sub_le ..).trans h.fits
  wellFormed g hg := h.wellFormed g (List.mem_cons_of_mem _ hg)

/-- **A poll** of a transport with no command ready delivers the next frame or nothing. -/
theorem service (h : Exact frames s due rest) (cap : ℕ) :
    ∃ due' rest', Exact frames (channelStep t s (.service cap)) due' rest' := by
  rw [channelStep, service_eq]
  by_cases hready : s.rx.cmdReady = true
  · rw [if_pos hready]
    dsimp only
    rw [hready]
    exact ⟨due, rest, h⟩
  · rw [if_neg hready]
    rw [Bool.not_eq_true] at hready
    obtain rfl := h.due_eq_nil hready
    have hfill := h.fill cap
    split_ifs with hzero
    · dsimp only
      rw [Rx.fill_cmdReady, hready]
      exact ⟨[], rest, hfill⟩
    · dsimp only
      cases rest with
      | nil =>
        have hlen := congrArg List.length hfill.bytes
        rw [List.length_append, List.length_append, Rx.length_pending] at hlen
        change (s.rx.fill s.link cap).1.rxLen + (s.rx.fill s.link cap).2.length + s.unsent.length
          = 0 at hlen
        omega
      | cons f rest =>
        have hparse := Rx.parse_frame (h.wellFormed f (List.mem_cons_self ..)) hfill.agrees
          (Nat.pos_of_ne_zero hzero)
        rw [Rx.Parses] at hparse
        split_ifs at hparse with hlt
        · rw [hparse]
          dsimp only
          rw [Rx.fill_cmdReady, hready]
          exact ⟨[], f :: rest, hfill⟩
        · obtain ⟨cmd, hcmd, hrx⟩ := hparse
          rw [hrx, hready]
          exact ⟨f.payload, rest, hfill.deliver hcmd (Nat.le_of_not_lt hlt)⟩

/-- **A read** gives the next bytes of the payload due. -/
theorem readBulkBytes (h : Exact frames s due rest) {cap maxLen : ℕ} (hmax : maxLen ≤ s.left) :
    ∃ due', Exact frames (channelStep t s (.readBulkBytes cap maxLen)) due' rest := by
  obtain ⟨rx, link, bytes, heq, hbytes, hlen, hready, hfits, -⟩ :=
    readBulkBytes_spec t cap maxLen s.link h.fits
  rw [h.left] at hmax
  have hall : bytes ++ (rx.pending ++ link ++ s.unsent) = due ++ wires rest := by
    rw [← h.bytes, ← hbytes, List.append_assoc bytes]
  obtain ⟨due', rfl⟩ : bytes <+: due :=
    List.prefix_of_prefix_length_le (hall ▸ List.prefix_append ..) (List.prefix_append ..)
      (hlen.trans hmax)
  refine ⟨due', ?_⟩
  rw [channelStep, heq]
  exact {
    log := by
      rw [← h.log, List.map_append, List.append_assoc, List.append_assoc]
    bytes := by
      rw [List.append_assoc bytes] at hall
      exact List.append_cancel_left hall
    left := by
      dsimp only
      rw [h.left, List.length_append, Nat.add_sub_cancel_left]
    ready := fun hne => hready.trans (h.ready (List.append_ne_nil_of_right_ne_nil _ hne))
    fits := hfits
    wellFormed := h.wellFormed }

/-- **One step.** -/
theorem step {e : Event} (h : ∃ due rest, Exact frames s due rest) (hd : Disciplined s e) :
    ∃ due rest, Exact frames (channelStep t s e) due rest := by
  obtain ⟨due, rest, h⟩ := h
  cases e with
  | arrive n =>
    refine ⟨due, rest, h.log, ?_, h.left, h.ready, h.fits, h.wellFormed⟩
    rw [← h.bytes]
    dsimp only [channelStep]
    rw [List.append_assoc, List.append_assoc, List.take_append_drop, List.append_assoc]
  | service cap => exact h.service cap
  | commandConsumed =>
    have hdue : due = [] := List.length_eq_zero_iff.1 (h.left.symm.trans hd)
    exact ⟨due, rest, h.log, h.bytes, h.left, fun hne => absurd hdue hne, h.fits, h.wellFormed⟩
  | readBulkBytes cap maxLen =>
    obtain ⟨due', h'⟩ := h.readBulkBytes (t := t) hd
    exact ⟨due', rest, h'⟩

/-- Once all has arrived, a poll that may read all of it finds the next frame. -/
theorem poll_ready {f : Frame} (h : Exact frames s [] (f :: rest)) {cap : ℕ}
    (hunsent : s.unsent = []) (hcap : s.link.length ≤ cap) (hready : s.rx.cmdReady = false) :
    (channelStep t s (.service cap)).rx.cmdReady = true := by
  have hfill := h.fill cap
  have hwf := h.wellFormed f (List.mem_cons_self ..)
  have hpos := List.length_pos_iff.2 f.header_ne_nil
  have hwhole : f.header.length ≤ (s.rx.fill s.link cap).1.rxLen := by
    by_cases hlink : (s.rx.fill s.link cap).2 = []
    · have hlen := congrArg List.length hfill.bytes
      rw [List.nil_append, wires, List.flatMap_cons, Frame.wire, hlink, hunsent, List.append_nil,
        List.append_nil, Rx.length_pending, List.length_append, List.length_append] at hlen
      dsimp only at hlen
      omega
    · rw [Rx.fill_full h.fits hcap hlink]
      exact hwf.length_header_le
  have hsome : 0 < (s.rx.fill s.link cap).1.rxLen := Nat.lt_of_lt_of_le hpos hwhole
  have hparse : Rx.Parses _ (s.rx.fill s.link cap).1.parse f :=
    Rx.parse_frame hwf hfill.agrees hsome
  rw [Rx.Parses, if_neg (Nat.not_lt.2 hwhole)] at hparse
  obtain ⟨cmd, -, hrx⟩ := hparse
  rw [channelStep, service_eq, hready, if_neg Bool.false_ne_true, if_neg (by omega), hrx]
  rfl

end Exact

/-! ### Runs -/

theorem Exact.run {t : Transport} {frames : List Frame} {rxBuf : Mem} {parsedCmd : ParsedCommand}
    {events : List Event} (hf : ∀ f ∈ frames, f.WellFormed)
    (h : Along (channelStep t) Disciplined (.start rxBuf parsedCmd frames) events) :
    ∃ due rest, Exact frames (run (channelStep t) (.start rxBuf parsedCmd frames) events) due
      rest :=
  run_inv (I := fun s => ∃ due rest, Exact frames s due rest)
    (fun _ _ hinv hd => Exact.step hinv hd) ⟨[], frames, .start rxBuf parsedCmd hf⟩ h

/-- **Framing is exact.**  Well-formed frames, cut into chunks in any way, give out their
commands and payload bytes in order and nothing else; no payload is waited for in
vain; and when all has arrived and a poll that may read all of it finds no command,
everything has been given out. -/
theorem framing_exact (t : Transport) {frames : List Frame} {rxBuf : Mem}
    {parsedCmd : ParsedCommand} {events : List Event} (hf : ∀ f ∈ frames, f.WellFormed)
    (h : Along (channelStep t) Disciplined (.start rxBuf parsedCmd frames) events) :
    let s := run (channelStep t) (.start rxBuf parsedCmd frames) events
    s.log <+: items frames ∧
      (s.unsent = [] →
        (∀ cap maxLen, 0 < cap → 0 < maxLen → 0 < s.left →
          (t.readBulkBytes cap maxLen s.rx s.link).2.2 ≠ []) ∧
        (∀ cap, s.link.length ≤ cap → s.rx.cmdReady = false →
          (channelStep t s (.service cap)).rx.cmdReady = false → s.log = items frames)) := by
  obtain ⟨due, rest, hexact⟩ := Exact.run hf h
  refine ⟨?_, fun hunsent => ⟨?_, ?_⟩⟩
  · rw [← hexact.log]
    exact List.prefix_append ..
  · intro cap maxLen hcap hmax hleft
    obtain ⟨rx, link, bytes, heq, -, -, -, -, hsome⟩ :=
      readBulkBytes_spec t cap maxLen _ hexact.fits
    rw [heq]
    refine hsome hcap hmax fun hnil => ?_
    have hbytes := congrArg List.length hexact.bytes
    simp only [hnil, hunsent, List.length_append, List.length_nil, ← hexact.left] at hbytes
    omega
  · intro cap hcap hready hpoll
    obtain rfl := hexact.due_eq_nil hready
    cases rest with
    | nil => rw [← hexact.log]; exact (List.append_nil _).symm
    | cons f rest =>
      rw [hexact.poll_ready hunsent hcap hready] at hpoll
      exact absurd hpoll.symm Bool.false_ne_true

end

section

local instance exactBoard : Board := ⟨.hw10_10⟩

/-- Two commands around an upload, cut in the middle of the first. -/
theorem framing_exact_upload :
    let frames := [.binary [0x17], .patternFile 1 [1, 2, 3], .binary [0x30]]
    (run (channelStep .serial) (.start (fun _ => 0) ⟨0, fun _ => 0, 0, false, false, 0⟩ frames)
      [.arrive 1, .service 64, .arrive 20, .service 64, .commandConsumed, .service 64,
        .readBulkBytes 64 2, .readBulkBytes 64 1, .commandConsumed, .service 64,
        .commandConsumed]).log = items frames :=
  ((framing_exact .serial (by decide +kernel) (by decide +kernel)).2 (by decide +kernel)).2 64
    (by decide +kernel) (by decide +kernel) (by decide +kernel)

end

end Link
end G6Arena
