/-
# What the calls of the module do to the ring

Every public function of the module writes the ring in one of three ways: it appends
a record, it acknowledges, or it writes the flags (`RingStep`).  `Call` lists the
functions a boot may see after `begin`; `Call.moves` says that each of them takes the
ring through such steps, whatever the clock and the heap break read.  An invariant of
the ring that the three kinds of step keep therefore holds in every state the module
reaches (`RingSteps.inv`).
-/

import G6Arena.Lib.Machine
import G6Arena.Telemetry.Calls
import G6Arena.Telemetry.Drain

namespace G6Arena
namespace Telemetry

open ByteMem ByteRing BoundedLoop Machine

/-! ### The records the producers build -/

theorem isRecord_buildState (tUs : ℕ) (kind code : UInt8) (arg : ℕ) :
    IsRecord (buildState tUs kind code arg) := by
  have hlen : (buildState tUs kind code arg).length = 14 := by simp [buildState]
  have h0 : asMem (buildState tUs kind code arg) 0 = 14 := rfl
  have h1 : asMem (buildState tUs kind code arg) (0 + 1) = recState := rfl
  refine ⟨⟨by rw [h0, hlen]; rfl, by rw [hlen]; decide, ?_⟩, ?_⟩
  · simp only [shapeAt, h0, h1]; rfl
  · simp only [isPad, isPadAt, h0, h1]; rfl

theorem isRecord_overrunMarker (now droppedReported : ℕ) (r : Ring) :
    IsRecord (overrunMarker now droppedReported r) :=
  isRecord_buildState ..

theorem isRecord_frameRecord (tUs idx pattern sdLoadUs spiUs reqAgeUs : ℕ)
    (superseded flags : UInt8) :
    IsRecord (frameRecord tUs idx pattern sdLoadUs spiUs reqAgeUs superseded flags) := by
  have hlen : (frameRecord tUs idx pattern sdLoadUs spiUs reqAgeUs superseded flags).length = 26 := by
    simp [frameRecord]
  have h0 : asMem (frameRecord tUs idx pattern sdLoadUs spiUs reqAgeUs superseded flags) 0 = 26 :=
    rfl
  have h1 : asMem (frameRecord tUs idx pattern sdLoadUs spiUs reqAgeUs superseded flags) (0 + 1)
      = recFrame := rfl
  refine ⟨⟨by rw [h0, hlen]; rfl, by rw [hlen]; decide, ?_⟩, ?_⟩
  · simp only [shapeAt, h0, h1]; rfl
  · simp only [isPad, isPadAt, h0, h1]; rfl

/-- The `CMD` layout, of at most `kCmdPayloadMax` request bytes. -/
theorem isRecord_cmd (len : UInt8) (rest : List UInt8) (plen : UInt8) (req : List UInt8)
    (hrest : rest.length = 10) (hreq : req.length ≤ kCmdPayloadMax)
    (hlen : len = UInt8.ofNat (13 + req.length)) (hplen : plen = UInt8.ofNat req.length) :
    IsRecord ([len, recCmd] ++ rest ++ [plen] ++ req) := by
  have hmax : kCmdPayloadMax = 8 := rfl
  have hnat : len.toNat = 13 + req.length := by
    rw [hlen]; exact UInt8.toNat_ofNat_of_lt' (by change 13 + req.length < 256; omega)
  have h0 : asMem ([len, recCmd] ++ rest ++ [plen] ++ req) 0 = len := rfl
  have h1 : asMem ([len, recCmd] ++ rest ++ [plen] ++ req) (0 + 1) = recCmd := rfl
  have h12 : asMem ([len, recCmd] ++ rest ++ [plen] ++ req) (0 + 12) = plen := by
    have hl : ([len, recCmd] ++ rest).length = 12 := by simp [hrest]
    rw [asMem, List.append_assoc ([len, recCmd] ++ rest), List.getD_eq_getElem?_getD,
      List.getElem?_append_right (by omega), hl]
    rfl
  have hne : ¬ recCmd = recPad := by decide
  refine ⟨⟨?_, by simp, ?_⟩, ?_⟩
  · rw [h0, hnat]
    simp only [List.length_append, List.length_cons, List.length_nil, hrest]
  · simp only [shapeAt, h0, h1, h12, hnat, kRecordHeaderLen, kCmdRecordLenMax, hmax]
    rw [if_neg (by omega), if_neg hne, if_pos trivial, hplen, Nat.add_sub_cancel_left]
    simp only [Bool.and_eq_true, decide_eq_true_eq]
    exact ⟨⟨by omega, by omega⟩, trivial⟩
  · simp only [isPad, isPadAt, h0, h1, hnat, kRecordHeaderLen, Bool.or_eq_false_iff,
      decide_eq_false_iff_not]
    exact ⟨by omega, hne⟩

theorem isRecord_cmdRecord (tRxUs : ℕ) (cmdByte status : UInt8) (req : List UInt8) :
    IsRecord (cmdRecord tRxUs cmdByte status req) := by
  have hle : (req.take kCmdPayloadMax).length ≤ kCmdPayloadMax := List.length_take_le ..
  have h := isRecord_cmd (UInt8.ofNat (kRecordHeaderLen + 3 + (req.take kCmdPayloadMax).length))
    ([0, 0, 0, 0] ++ toLe 4 tRxUs ++ [cmdByte, status]) _ _ (by simp) hle rfl rfl
  simpa only [cmdRecord, List.cons_append, List.nil_append, List.append_assoc] using h

theorem isRecord_synthRecord (tUs counter : ℕ) : IsRecord (synthRecord tUs counter) := by
  have h := isRecord_cmd 17 ([0, 0, 0, 0] ++ toLe 4 tUs ++ [kSyntheticCmd, 0]) 4 (toLe 4 counter) (by simp) (by simp [kCmdPayloadMax])
    (by rw [length_toLe]; rfl) (by rw [length_toLe]; rfl)
  simpa only [synthRecord, List.cons_append, List.nil_append, List.append_assoc] using h

/-! ### Steps of the ring -/

/-- One write of the ring by the module. -/
inductive RingStep : Ring → Ring → Prop
  | append {rec : List UInt8} (h : IsRecord rec) (r : Ring) : RingStep r (appendRaw rec r).1
  | ack (ackSeq : ℕ) (r : Ring) : RingStep r (ackRing ackSeq r)
  | flags (f : ℕ) (r : Ring) : RingStep r (writeFlags f r)

/-- Any number of writes. -/
abbrev RingSteps : Ring → Ring → Prop := Relation.ReflTransGen RingStep

/-- What a call may do to the module: it takes the ring through steps, and it never takes
a ring into use that was given up. -/
structure Moves (t t' : Module) : Prop where
  ring : RingSteps t.ring t'.ring
  ok : t'.ringOk = true → t.ringOk = true

theorem Moves.refl (t : Module) : Moves t t := ⟨.refl, id⟩

theorem Moves.trans {t t' t'' : Module} (h : Moves t t') (h' : Moves t' t'') : Moves t t'' :=
  ⟨h.ring.trans h'.ring, fun hok => h.ok (h'.ok hok)⟩

theorem tripHeapGuard_moves (c : Clock) (t : Module) : Moves t (tripHeapGuard c t) := by
  refine ⟨?_, fun h => nomatch h⟩
  have hrec := isRecord_buildState (c.us 0) stRingOverrun kOverrunCodeHeapCollision 0
  have happ := Relation.ReflTransGen.single (RingStep.append hrec t.ring)
  unfold tripHeapGuard
  split_ifs
  · dsimp only
    exact happ.tail (RingStep.flags _ _)
  · exact Relation.ReflTransGen.refl

theorem append_moves (c : Clock) {rec : List UInt8} (hrec : IsRecord rec) (t : Module) :
    Moves t (append c rec t) := by
  have hfirst := Relation.ReflTransGen.single (RingStep.append hrec t.ring)
  have hmark := RingStep.append (isRecord_overrunMarker (c.us 0) t.droppedReported
    (appendRaw rec t.ring).1) (appendRaw rec t.ring).1
  unfold append
  split_ifs
  · exact tripHeapGuard_moves c t
  · dsimp only
    split_ifs
    · exact ⟨hfirst.tail hmark, id⟩
    · exact ⟨hfirst, id⟩
    · exact ⟨hfirst, id⟩

theorem cmd_moves (c : Clock) (tRxUs : ℕ) (cmdByte status : UInt8) (req : List UInt8)
    (t : Module) : Moves t (cmd c tRxUs cmdByte status req t) := by
  unfold cmd
  split_ifs
  · exact .refl t
  · exact append_moves c (isRecord_cmdRecord ..) t

theorem frame_moves (c : Clock) (tUs idx pattern sdLoadUs spiUs reqAgeUs : ℕ)
    (superseded flags : UInt8) (t : Module) :
    Moves t (frame c tUs idx pattern sdLoadUs spiUs reqAgeUs superseded flags t) := by
  unfold frame
  split_ifs
  · exact .refl t
  · exact append_moves c (isRecord_frameRecord ..) t

theorem state_moves (c : Clock) (kind code : UInt8) (arg : ℕ) (t : Module) :
    Moves t (state c kind code arg t) := by
  unfold state
  split_ifs
  · exact .refl t
  · exact append_moves _ (isRecord_buildState ..) t

theorem states_moves (c : Clock) (recs : List (UInt8 × UInt8 × ℕ)) (t : Module) :
    Moves t (states c recs t) := by
  induction recs generalizing c t with
  | nil => exact .refl t
  | cons rec recs ih => exact (state_moves c rec.1 rec.2.1 rec.2.2 t).trans (ih _ _)

theorem synthAppend_moves (c : Clock) (t : Module) : Moves t (synthAppend c t) := by
  have happ := append_moves c
    (isRecord_synthRecord ((t.synthLastUs + t.synthPeriodUs) % 2 ^ 32) t.synthCounter)
    { t with
      synthLastUs := (t.synthLastUs + t.synthPeriodUs) % 2 ^ 32
      synthCounter := (t.synthCounter + 1) % 2 ^ 32 }
  exact ⟨happ.ring, happ.ok⟩

theorem service_moves (c : Clock) (t : Module) : Moves t (service c t) := by
  unfold service
  split_ifs
  · exact .refl t
  · exact tripHeapGuard_moves c t
  · exact .refl t
  · refine loop_inv (I := fun s : Module × ℕ × Bool => Moves t s.1) ?_ _ (.refl t)
    rintro ⟨t', steps, left⟩ s' hs hp
    have hsyn := synthAppend_moves (c.after (steps + 1)) t'
    simp only [servicePass] at hp
    split_ifs at hp <;> obtain rfl := Option.some.inj hp
    · exact hs.trans hsyn
    · exact hs.trans ⟨hsyn.ring, hsyn.ok⟩
    · exact hs.trans hsyn

theorem enableEvents_moves (on : Bool) (t : Module) : Moves t (enableEvents on t) := by
  unfold enableEvents
  split_ifs
  · exact ⟨.single (.flags _ _), id⟩
  · exact .refl t

theorem disableEvents_moves (on : Bool) (t : Module) : Moves t (disableEvents on t) := by
  unfold disableEvents
  split_ifs
  · exact ⟨.single (.flags _ _), id⟩
  · exact .refl t

theorem configureSynth_moves (now : ℕ) (synth : Bool) (rateHz : Option ℕ) (t : Module) :
    Moves t (configureSynth now synth rateHz t) :=
  ⟨.refl, id⟩

theorem configure_moves (c : Clock) (flags : UInt8) (rateHz : Option ℕ) (t : Module) :
    Moves t (configure c flags rateHz t) := by
  unfold configure
  split_ifs
  · exact .refl t
  · exact tripHeapGuard_moves c t
  · refine Moves.trans ?_ (disableEvents_moves _ _)
    refine Moves.trans ?_ (state_moves _ _ _ _ _)
    exact (enableEvents_moves _ t).trans (configureSynth_moves ..)

theorem ack_moves (c : Clock) (ackSeq : ℕ) (t : Module) : Moves t (ack c ackSeq t) := by
  unfold ack
  split_ifs
  · exact .refl t
  · exact tripHeapGuard_moves c t
  · exact ⟨.single (.ack ackSeq t.ring), id⟩

theorem peek_moves (c : Clock) (maxBytes : ℕ) (t : Module) : Moves t (peek c maxBytes t).1 := by
  unfold peek
  split_ifs
  · exact .refl t
  · exact tripHeapGuard_moves c t
  · exact .refl t

/-! ### Calls -/

/-- A call of the module after `begin`. -/
inductive Call
  | cmd (tRxUs : ℕ) (cmdByte status : UInt8) (req : List UInt8)
  | frame (tUs idx pattern sdLoadUs spiUs reqAgeUs : ℕ) (superseded flags : UInt8)
  | state (kind code : UInt8) (arg : ℕ)
  | service
  | configure (flags : UInt8) (rateHz : Option ℕ)
  | ack (ackSeq : ℕ)
  | peek (maxBytes : ℕ)

/-- The module after a call. -/
def Call.step (t : Module) : Clock × Call → Module
  | (c, .cmd tRxUs cmdByte status req) => Telemetry.cmd c tRxUs cmdByte status req t
  | (c, .frame tUs idx pattern sdLoadUs spiUs reqAgeUs superseded flags) =>
    Telemetry.frame c tUs idx pattern sdLoadUs spiUs reqAgeUs superseded flags t
  | (c, .state kind code arg) => Telemetry.state c kind code arg t
  | (c, .service) => Telemetry.service c t
  | (c, .configure flags rateHz) => Telemetry.configure c flags rateHz t
  | (c, .ack ackSeq) => Telemetry.ack c ackSeq t
  | (c, .peek maxBytes) => (Telemetry.peek c maxBytes t).1

/-- **A call writes the ring by ring steps only.** -/
theorem Call.moves (t : Module) (call : Clock × Call) : Moves t (Call.step t call) := by
  obtain ⟨c, call⟩ := call
  cases call with
  | cmd => exact cmd_moves ..
  | frame => exact frame_moves ..
  | state => exact state_moves ..
  | service => exact service_moves ..
  | configure => exact configure_moves ..
  | ack => exact ack_moves ..
  | peek => exact peek_moves ..

/-- Any number of calls moves the module. -/
theorem run_moves (t : Module) (calls : List (Clock × Call)) : Moves t (run Call.step t calls) :=
  run_inv (I := Moves t) (C := fun _ _ => True) (fun t' call h _ => h.trans (Call.moves t' call))
    (.refl t) (along_of_forall (fun _ _ _ => trivial) t)

/-- **Invariant rule for the ring.**  What the ring steps keep holds at the end of any
number of them. -/
theorem RingSteps.inv {I : Ring → Prop} (hstep : ∀ r r', I r → RingStep r r' → I r')
    {r r' : Ring} (h : RingSteps r r') (hr : I r) : I r' := by
  induction h with
  | refl => exact hr
  | tail _ hlast ih => exact hstep _ _ ih hlast

/-! ### A state to start from -/

/-- A clock far from the heap guard. -/
def quietClock : Clock where
  brk := 0
  us := fun _ => 0

/-- The module once `begin` has initialised the ring. -/
def started : Module := { powerUp (initRing fun _ => 0) with ringOk := true, enabled := true }

end Telemetry
end G6Arena
