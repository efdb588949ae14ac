/-
# Frames that no refresh has transferred

The account beside a run looks at what can be seen of it: the calls of `loadFrame` that succeed,
the refreshes that transfer a frame of the card, and the `FRAME` records (`Controller.enter`).  A
step enters in it what the slot of the frame buffer takes (`step_book`), and so no frame that was
loaded is lost from the count, as long as events are recorded and the counter has room
(`superseded_accounting`).
-/

import G6Arena.Command.BufferSlot
import G6Arena.Telemetry.Guard

namespace G6Arena
namespace Command

open ByteMem Link Panel Machine SlotAccount
open Sd (ControllerError Store)

namespace Display

section

variable [Board] (env : Env) (d : Display)

/-! ### Records -/

/-- The `FRAME` record of a transmission, if there is something new to record. -/
def newRecord (env : Env) (d : Display) : Option (List UInt8) :=
  d.frameRecord.map fun (idx, pattern, flags) =>
    Telemetry.frameRecord (env.micros 0) idx pattern d.health.lastSdReadUs
      (Telemetry.sub32 (env.micros 2) (env.micros 0))
      (Telemetry.sub32 (env.micros 0) d.marks.frameReqUs) (UInt8.ofNat d.marks.supersededPending) flags

/-- The records a transmission appends: none when events are off or the heap guard trips. -/
def appendedRecords (env : Env) (d : Display) : List (List UInt8) :=
  if d.tel.enabled && !Telemetry.heapTooClose (env.clock 1).brk then (d.newRecord env).toList else []

/-- `superseded` of a `FRAME` record. -/
def supersededOf (rec : List UInt8) : ℕ := (rec.getD 24 0).toNat

theorem transmitOnRefresh_append (h : d.refresh.refreshFlag = true) :
    (d.transmitOnRefresh env).tel = match d.newRecord env with
      | some rec => if !d.tel.enabled then d.tel else Telemetry.append (env.clock 1) rec d.tel
      | none => d.tel := by
  rw [transmitOnRefresh_tel, if_pos h]
  unfold newRecord
  cases d.frameRecord with
  | none => rfl
  | some rec => rfl

/-- **What the records of a transmission say is the count it takes**, where events are recorded
before and after it. -/
theorem appendedRecords_superseded (h : d.refresh.refreshFlag = true)
    (henabled : (d.transmitOnRefresh env).tel.enabled = true) (hpending : d.marks.supersededPending ≤ 0xFF) :
    ((d.appendedRecords env).map supersededOf).sum
      = if d.frameRecord.isSome then d.marks.supersededPending else 0 := by
  rw [transmitOnRefresh_append env d h] at henabled
  unfold appendedRecords
  unfold newRecord at henabled ⊢
  cases hrec : d.frameRecord with
  | none =>
    rw [Option.map_none, Option.toList_none, ite_self]
    rfl
  | some new =>
    obtain ⟨idx, pattern, flags⟩ := new
    rw [hrec] at henabled
    dsimp only [Option.map_some] at henabled ⊢
    split_ifs at henabled with hoff
    · rw [henabled] at hoff
      cases hoff
    · obtain ⟨hclear, hon⟩ := Telemetry.append_enabled henabled
      rw [hclear, hon]
      have hbyte : (UInt8.ofNat d.marks.supersededPending).toNat = d.marks.supersededPending := by
        rw [UInt8.toNat_ofNat']
        omega
      exact hbyte

omit [Board] in
/-- What a transmission does to the books. -/
theorem transmission_account (d : Display) (a : Account) :
    (run (Book.step 0xFF) ⟨d.slot, a⟩
      (.present :: if d.frameRecord.isSome then [.report] else [])).account
      = { a with
        presented := a.presented + (d.screen.frameBufIsFrame && a.fresh).toNat
        reported := a.reported + if d.frameRecord.isSome then d.marks.supersededPending else 0
        fresh := false } := by
  split_ifs <;> rfl

theorem enterAllOff_enabled (h : (d.enterAllOff env).tel.enabled = true) : d.tel.enabled = true := by
  have hflush {c : Telemetry.Clock} {d : Display} (h : (d.flushOpenReads c).tel.enabled = true) :
      d.tel.enabled = true := by
    unfold flushOpenReads at h
    split_ifs at h
    · exact h
    · exact Telemetry.state_enabled h
  unfold enterAllOff at h
  dsimp only at h
  have hnoted := Telemetry.state_enabled (hflush h)
  have htransfer (d : Display) : d.transferFrame.tel = d.tel := by
    obtain ⟨_, hsent⟩ := transferFrame_eq d
    rw [hsent]
  change (transferFrame _).tel.enabled = true at hnoted
  rw [htransfer, htransfer, htransfer] at hnoted
  exact hnoted

theorem serviceDisplay_enabled {s : Store} (hon : (d.serviceTimers env).screen.state ≠ .allOff)
    (h : (d.serviceDisplay env s).tel.enabled = true) :
    (((d.serviceTimers env).advance (env.call 2) s).transmitOnRefresh (env.call 3)).tel.enabled
      = true := by
  unfold serviceDisplay at h
  dsimp only at h
  rw [if_neg hon] at h
  split_ifs at h
  · exact enterAllOff_enabled _ _ h
  · exact h

end

end Display

namespace Controller

open Display

section

variable [Board] {c c' : Controller} {t : Transport} {data : Mem} {reply : Reply}

/-! ### Steps without a transmission -/

/-- A trial, of a controller whose duty has been set. -/
theorem trial_accounted {env : Env} {mode : ArenaState} {duty : UInt8}
    {patternId initFrame durationTicks : ℕ} {frameRateHz gain : ℤ} {c₁ : Controller} {ok : Bool}
    (hmode : mode ≠ .errorDisplay)
    (h : (c.withDuty duty).enterPatternMode env mode patternId frameRateHz gain initFrame
      durationTicks = (c₁, ok))
    (hend : c' = c₁ ∨ c' = c₁.withDuty 0) : Accounted c.display c'.display := by
  obtain ⟨display, store, hrun, rfl⟩ := enterPatternMode_cases h
  obtain ⟨es, read, hchanges, hturn, hload⟩ := enterPatternMode_accounted hmode hrun
  have hduty (duty : UInt8) (c : Controller) : Turn [] false c.display (c.withDuty duty).display :=
    turn_of_tally rfl rfl
  have hbefore := (hduty duty c).trans hturn
  rcases hend with rfl | rfl
  · exact ⟨es, read, hchanges, hbefore, hload⟩
  · refine ⟨es, read, hchanges, ?_, hload⟩
    have hall := hbefore.followed (turn_of_tally rfl rfl : Turn [] false display
      { display with screen := { display.screen with trialDuty := 0 } })
    rwa [List.nil_append, List.append_nil] at hall

/-- A command about the store. -/
theorem storeCommand_accounted {env : Env} {command : StoreCommand}
    (h : c.storeCommand env t data command = (c', reply)) : Accounted c.display c'.display := by
  have hsame {d : Display} : Accounted d d := (SameView.refl d).turn.accounted
  have htrial {mode : ArenaState} (h : mode = .openLoop ∨ mode = .showFrame ∨ mode = .closedLoop) :
      mode ≠ .errorDisplay := by
    rcases h with rfl | rfl | rfl <;> decide
  cases command with
  | trialParams =>
    rcases handleTrialParams_cases h with ⟨-, rfl, -⟩ | ⟨-, ⟨code, rfl, -⟩ |
      ⟨_, duty, _, _, _, _, _, c₁, ok, hmode, -, hrun, ⟨-, rfl, -⟩ | ⟨hfail, rfl, -⟩⟩⟩
    · exact hsame
    · exact (showError_turn ..).replaced
    · exact trial_accounted (htrial (trialMode_cases hmode)) hrun (.inl rfl)
    · exact trial_accounted (htrial (trialMode_cases hmode)) hrun (.inr rfl)
  | setPatternId =>
    rcases handleSetPatternId_cases h with rfl | ⟨-, patternId, ok, hrun⟩
    · exact hsame
    · exact trial_accounted (htrial (.inr (.inl rfl))) hrun (.inl rfl)
  | setPatternFilename =>
    rcases handleSetPatternFilename_cases h with rfl | ⟨-, idx, name, rfl⟩ <;> exact hsame
  | getPatternFile =>
    rcases handleGetPatternFile_cases h with rfl | ⟨-, -, _, _, _, -, -, -, -, -, rfl, -⟩ <;>
      exact hsame
  | deletePatternFile =>
    rcases handleDeletePatternFile_cases h with
      rfl | ⟨idx, store, err, -, -, -, hrun, ⟨-, rfl⟩ | ⟨-, rfl⟩⟩ <;> exact hsame
  | purgeMemory =>
    rcases handlePurgeMemory_cases h with rfl | ⟨-, -, rfl⟩ <;> exact hsame
  | getSdArchive =>
    rcases handleGetSdArchive_cases h with rfl | ⟨-, -, -, rfl, -⟩ <;> exact hsame
  | setSdDiag =>
    rcases handleSetSdDiag_cases h with rfl |
      ⟨legacy, skip, -, -, -, -, hscreen, -, -, -, -, -, htally⟩
    · exact hsame
    · refine accounted_of_tally ?_ htally
      rw [hscreen]
  | systemReset =>
    cases h
    exact hsame

theorem dispatch_accounted {env : Env} {dataLen : ℕ}
    (h : c.dispatch env t data dataLen = (c', reply)) : Accounted c.display c'.display := by
  unfold dispatch at h
  split at h
  · next command hcommand =>
    cases h
    exact displayCommand_accounted ..
  · exact storeCommand_accounted h
  · cases h
    exact (showError_turn ..).replaced

/-- A command. -/
theorem processCommand_accounted (env : Env) (t : Transport) (c : Controller) :
    Accounted c.display (c.processCommand env t).display := by
  rcases processCommand_core env t c with heq | ⟨-, -, hhandles⟩
  · rw [heq]
    exact (SameView.refl _).turn.accounted
  cases hhandles with
  | card core => exact core.display.turn.accounted
  | upload bulk start =>
    obtain ⟨entry, id, -, -, hcore⟩ := start.core
    exact hcore.display.turn.accounted
  | stream bulk stream c₁ before after =>
    exact (handleStreamCommand_accounted ..).of_sameView before.display after.display
  | binary bulk stream sound c₁ c₂ reply before run after =>
    exact (dispatch_accounted run).of_sameView before.display after.display
  | reset bulk stream sound opcode c₁ before after =>
    have hdisarm : Turn [] false c₁.display c₁.display.disarmRefreshTimer := turn_of_tally rfl rfl
    exact hdisarm.accounted.of_sameView before.display after.display

/-- **A step that is not the service of the display.** -/
theorem step_accounted (c : Controller) {i : Action × Env} (hi : i.1 ≠ .serviceDisplay) :
    Accounted c.display (c.step i).display := by
  have hsame : Accounted c.display c.display := (SameView.refl _).turn.accounted
  have hserves {c' : Controller} (h : Serves c c') : Accounted c.display c'.display := by
    rw [h.display]
    exact hsame
  unfold step
  split
  · exact hsame
  obtain ⟨a, env⟩ := i
  cases a with
  | arrive t bytes => exact hsame
  | disconnect => exact hsame
  | service t accepted => exact hsame
  | processCommand t => exact processCommand_accounted env t c
  | serviceDisplay => exact absurd rfl hi
  | serviceTelemetry => exact accounted_of_tally rfl rfl
  | serviceDownload => exact hserves (serviceDownload_serves env c)
  | serviceUpload => exact hserves (serviceUpload_serves env c)
  | serviceArchive => exact hserves (serviceArchive_serves env c)
  | serviceDisconnects => exact hserves (serviceDisconnects_serves env c)
  | serviceLateBootBlank =>
    exact serviceLateBootBlank_accounted env c.display (!c.transfers.active)
  | flushResponses t => exact hsame
  | refreshIsr => exact refreshIsr_accounted c.display

/-- A step transmits, or its display is accounted for. -/
theorem step_cases (c : Controller) (i : Action × Env) :
    (c.transmits i = none ∧ Accounted c.display (c.step i).display) ∨
    (c.transmits i = some ((c.display.serviceTimers i.2).advance (i.2.call 2) c.store) ∧
      (c.display.serviceTimers i.2).screen.state ≠ .allOff ∧
      ((c.display.serviceTimers i.2).advance (i.2.call 2) c.store).refresh.refreshFlag = true ∧
      (c.step i).display = c.display.serviceDisplay i.2 c.store) := by
  by_cases hservice : i.1 = .serviceDisplay
  · obtain ⟨a, env⟩ := i
    dsimp only at hservice
    subst hservice
    unfold transmits
    dsimp only
    split_ifs with hdue
    · obtain ⟨hrun, hon, hflag⟩ := hdue
      refine .inr ⟨rfl, hon, hflag, ?_⟩
      unfold step
      rw [if_neg (by rw [hrun]; nofun)]
      rfl
    · refine .inl ⟨rfl, ?_⟩
      unfold step
      split_ifs with hhalted
      · exact (SameView.refl _).turn.accounted
      · refine serviceDisplay_accounted env c.display ?_
        by_contra hno
        rw [not_or, Bool.not_eq_false] at hno
        exact hdue ⟨by simpa using hhalted, hno⟩
  · refine .inl ⟨?_, step_accounted c hservice⟩
    unfold transmits
    split
    · next h => exact absurd h hservice
    · rfl

/-! ### The account of a run -/

/-- A step calls `loadFrame` and the call succeeds: `sd_reads`, which nothing else counts, moves
on, and the display does not show an error. -/
def loads (c : Controller) (i : Action × Env) : Bool :=
  decide ((c.step i).display.health.sdReads ≠ c.display.health.sdReads)
    && decide ((c.step i).display.screen.state ≠ .errorDisplay)

/-- The `FRAME` records that a step appends. -/
def frameRecords (c : Controller) (i : Action × Env) : List (List UInt8) :=
  match c.transmits i with
  | some d => d.appendedRecords (i.2.call 3)
  | none => []

/-- A step, entered in the account: its load, and then what it transmits. -/
def enter (c : Controller) (i : Action × Env) (a : Account) : Account :=
  let a := if c.loads i then { a with loads := a.loads + 1, fresh := true } else a
  match c.transmits i with
  | some d =>
    let sent := transferable d.screen.blockByteCount
    { a with
      presented := a.presented + (d.screen.frameBufIsFrame && sent && a.fresh).toNat
      reported := a.reported + ((c.frameRecords i).map supersededOf).sum
      fresh := a.fresh && !sent }
  | none => a

/-- The account of a run. -/
def accountOf (c : Controller) (a : Account) : List (Action × Env) → Account
  | [] => a
  | i :: is => (c.step i).accountOf (c.enter i a) is

/-- After the step events are recorded, and the count is not at its end. -/
def KeepsCount (c : Controller) (i : Action × Env) : Prop :=
  (c.step i).display.tel.enabled = true ∧ (c.step i).display.marks.supersededPending < 0xFF

instance (c : Controller) (i : Action × Env) : Decidable (KeepsCount c i) :=
  inferInstanceAs (Decidable (_ ∧ _))

/-- The counter of reads tells the calls. -/
theorem loads_eq {i : Action × Env} {es : List SlotEvent} {read : Bool}
    (h : Turn es read c.display (c.step i).display) :
    c.loads i = (read && decide ((c.step i).display.screen.state ≠ .errorDisplay)) := by
  have hreads := h.reads
  unfold loads
  cases read with
  | false => rw [hreads, if_neg Bool.false_ne_true, decide_eq_false (not_not.2 rfl)]
  | true =>
    rw [if_pos rfl] at hreads
    have hmoved : (c.step i).display.health.sdReads ≠ c.display.health.sdReads := by omega
    rw [decide_eq_true hmoved]

/-- The load of some changes, entered. -/
theorem account_of_changes {i : Action × Env} {es : List SlotEvent} (a : Account)
    (hchanges : ∀ e ∈ es, e.changes = true) (hload : es.count .load = (c.loads i).toNat) :
    (run (Book.step 0xFF) ⟨c.display.slot, a⟩ es).account
      = if c.loads i then { a with loads := a.loads + 1, fresh := true } else a := by
  rw [Book.run_account hchanges, hload]
  have hmem : SlotEvent.load ∈ es ↔ c.loads i = true := by
    rw [← List.count_pos_iff, hload]
    cases c.loads i <;> decide
  cases hloads : c.loads i with
  | false =>
    rw [hloads] at hmem
    rw [decide_eq_false (mt hmem.1 Bool.false_ne_true), Bool.or_false]
    rfl
  | true =>
    rw [decide_eq_true (hmem.2 hloads), Bool.or_true]
    rfl

/-- **A step keeps the books**: the account and the slot take the same events. -/
theorem step_book {i : Action × Env} (a : Account)
    (hsize : ∀ d ∈ c.transmits i, transferable d.screen.blockByteCount = true)
    (hlow : c.display.marks.supersededPending < 0xFF) (hkeeps : KeepsCount c i) :
    ∃ es, Along (Slot.act 0xFF) (Slot.Room 0xFF) c.display.slot es ∧
      run (Book.step 0xFF) ⟨c.display.slot, a⟩ es = ⟨(c.step i).display.slot, c.enter i a⟩ := by
  obtain ⟨henabled, hend⟩ := hkeeps
  rcases step_cases c i with ⟨hnone, es, read, hchanges, hturn, hload⟩ | ⟨hsome, hon, hflag, hdisplay⟩
  · rw [← loads_eq hturn] at hload
    refine ⟨es, room_of_lost_lt hchanges ?_, Book.ext ?_ ?_⟩
    · rw [← hturn.slot]
      exact hend
    · rw [Book.run_slot, hturn.slot]
    · rw [account_of_changes a hchanges hload]
      unfold enter
      rw [hnone]
  · generalize hd : (c.display.serviceTimers i.2).advance (i.2.call 2) c.store = d at hsome hflag
    obtain ⟨pre, read, post, hchanges, hbefore, hload, hlen, hpost, hafter⟩ :=
      serviceDisplay_turn i.2 c.display (s := c.store) hon
    rw [hdisplay] at henabled hend
    have hsent := serviceDisplay_enabled i.2 c.display hon henabled
    rw [hd] at hbefore hlen hafter hsent
    rw [← hdisplay] at hload hafter
    have htransmit := transmitOnRefresh_turn (i.2.call 3) d hflag
    have hall := (hbefore.followed htransmit).followed hafter
    rw [← loads_eq hall] at hload
    have hpending : d.marks.supersededPending ≤ 0xFF := by
      have hlost : (run (Slot.act 0xFF) c.display.slot pre).lost ≤ 0xFF := run_lost_le hlow.le pre
      rwa [← hbefore.slot] at hlost
    have hreported := appendedRecords_superseded (i.2.call 3) d hflag hsent hpending
    obtain ⟨hchanges', hnoload⟩ := changes_of_post hpost
    refine ⟨pre ++ (.present :: if d.frameRecord.isSome then [.report] else []) ++ post, ?_,
      Book.ext ?_ ?_⟩
    · rw [along_append, along_append]
      refine ⟨⟨room_of_length_le (hlen hflag) hlow, ?_⟩, room_of_lost_lt hchanges' ?_⟩
      · split_ifs <;> exact ⟨trivial, by trivial⟩
      · rw [← run_append, ← hall.slot, hdisplay]
        exact hend
    · rw [Book.run_slot, hall.slot]
    · have hbook : run (Book.step 0xFF) ⟨c.display.slot, a⟩ pre
          = ⟨d.slot, if c.loads i then { a with loads := a.loads + 1, fresh := true } else a⟩ :=
        Book.ext (by rw [Book.run_slot, hbefore.slot]) (account_of_changes a hchanges hload)
      rw [run_append, run_append, hbook, Book.run_account hchanges', transmission_account, hnoload]
      unfold enter frameRecords
      rw [hsome]
      dsimp only
      rw [hreported, hsize d hsome, decide_eq_false (List.count_eq_zero.1 hnoload), Bool.and_true,
        Bool.not_true, Bool.and_false]
      rfl

/-- **A run keeps the books balanced.** -/
theorem run_books {a : Account} {is : List (Action × Env)} (hobeys : ObeysLaw playedLaw c)
    (hlow : c.display.marks.supersededPending < 0xFF)
    (hbalanced : (⟨c.display.slot, a⟩ : Book).Balanced) (h : Along step KeepsCount c is) :
    (⟨(run step c is).display.slot, c.accountOf a is⟩ : Book).Balanced := by
  induction is generalizing c a with
  | nil => exact hbalanced
  | cons i is ih =>
    have hsize (d : Display) (hd : d ∈ c.transmits i) :
        transferable d.screen.blockByteCount = true := by
      rcases (transmits_lawful hobeys hd).size with hsize | hsize | hsize <;> rw [hsize] <;> rfl
    obtain ⟨es, hroom, hbook⟩ := step_book a hsize hlow h.1
    have hstep := Book.run_balanced hbalanced hroom
    rw [hbook] at hstep
    exact ih (step_obeysLaw playedLaw_allows hobeys (allowsPatch_played c i)) h.1.2 hstep h.2

/-- Nothing happens to the slot before the first step. -/
theorem setup_slot (boot : Boot) (env : Env) : (setup boot env).display.slot = ⟨false, false, 0⟩ := by
  have hfirst := enterAllOff_turn (env.call 1)
    (Display.powerOn (Telemetry.begin (env.clock 0) boot.health boot.ring)).begin_
  exact (hfirst.trans (enterAllOff_turn (env.call 2) _)).slot

/-- **No frame that was loaded is lost from the count.**  In a run with events recorded in which
`superseded_pending_` never comes to its end, the calls of `loadFrame` that succeeded are the frames
that a refresh has transferred, those the records report as superseded, those still counted, and
the one in the buffer if it has not been transferred. -/
theorem superseded_accounting (boot : Boot) (env₀ : Env) (is : List (Action × Env))
    (h : Along step KeepsCount (setup boot env₀) is) :
    let a := (setup boot env₀).accountOf .zero is
    let d := (run step (setup boot env₀) is).display
    a.loads = a.presented + a.reported + d.marks.supersededPending
      + (d.screen.frameBufIsFrame && a.fresh).toNat := by
  have hslot := setup_slot boot env₀
  have hstart : (⟨(setup boot env₀).display.slot, .zero⟩ : Book).Balanced := by
    rw [hslot]
    exact ⟨nofun, rfl⟩
  have hlow : (setup boot env₀).display.marks.supersededPending < 0xFF := by
    rw [show (setup boot env₀).display.marks.supersededPending = 0 from congrArg Slot.lost hslot]
    decide
  exact (run_books (setup_obeysLaw boot env₀) hlow hstart h).loads

end

end Controller

section

local instance supersededBoard : Board := ⟨.hw2_10⟩

/-- A trial of the small pattern that is started twice before a refresh of it is served. -/
def replacedRun : List (Action × Env) :=
  receive .serial [12, 0x08, 3, 1, 0, 0, 0, 0, 0, 0, 0, 0, 0] (.calm smallIo) ++ playedRun

set_option maxRecDepth 100000 in
/-- Of its two loads one is transferred, and the record reports the other. -/
theorem superseded_accounting_replaced :
    let c := setup (.cold smallCard) (.calm smallIo)
    let a := c.accountOf .zero replacedRun
    let d := (run Controller.step c replacedRun).display
    (a.loads = 2 ∧ a.reported = 1) ∧
      a.loads = a.presented + a.reported + d.marks.supersededPending
        + (d.screen.frameBufIsFrame && a.fresh).toNat :=
  ⟨by decide +kernel, Controller.superseded_accounting _ _ replacedRun (by decide +kernel)⟩

end

end Command
end G6Arena
