/-
# A session of in-system programming, and what it may do to a panel

`programPanel` rewrites the firmware of a panel over a line that may lose or damage what it carries.
What must not happen is that a panel is told to install an image that is not there.  The parts of a
session are given by triples, from the transfers up (`sendCmd_spec`, `pollResp_spec`,
`streamPages_spec`, ...); each says what the history of the bus grows by.  A part that stops early
is known by the commands it may have sent (`Asks`), and a session that is to commit by what it must
have seen before (`Staged`).

An `ISP_COMMIT` is preceded by the whole image, page by page, each page acknowledged, and by the
panel's own check of it (`programPanel_installs`).  The image is the file but for its footer,
unless neither of the two seeks is done, whose results the code does not look at (`imageOf`).
`verifyPanel` sends nothing that writes (`verifyPanel_checks`).
-/

import G6Arena.Panel.Isp
import Mathlib

namespace G6Arena
namespace Panel
namespace Isp

open ByteMem Std.Do

set_option mvcgen.warning false

/-- The reply in what a read gave: by the first alignment whose CRC-8 is right. -/
def replyOf (respLen : ℕ) (raw : List UInt8) : Option (List UInt8) :=
  (([0, 1, 2] : List UInt8).find? fun bits => checks respLen (realigned bits respLen raw)).map
    fun bits => realigned bits respLen raw

/-- A message clocked to the panel. -/
structure Sends (msg : List UInt8) (e : Exchange) : Prop where
  copi : e.copi = msg
  mhz : e.mhz = kIspClockAMhz

/-- A read of `n` bytes and one more, which finds this reply, or none. -/
structure Reads (n : ℕ) (reply : Option (List UInt8)) (e : Exchange) : Prop where
  copi : e.copi = List.replicate (n + 1) 0
  mhz : e.mhz = kIspClockBMhz
  reply : replyOf n e.cipo = reply

/-- What `sendCmd` does. -/
structure Sent (msg : List UInt8) (ok : Bool) (s s' : State) : Prop where
  nonce : s'.nonce = s.nonce
  failed : ok = false → s'.history = s.history
  sent : ok = true → ∃ e, Sends msg e ∧ s'.history = s.history ++ [e]

/-- What `readResp` and `pollResp` do. -/
structure Heard (n : ℕ) (ok : Bool) (s s' : State) : Prop where
  nonce : s'.nonce = s.nonce
  missed : ok = false → ∃ misses, (∀ e ∈ misses, Reads n none e) ∧ s'.history = s.history ++ misses
  replied : ok = true → ∃ misses e reply, (∀ e ∈ misses, Reads n none e) ∧
    Reads n (some reply) e ∧ s'.resp.take n = reply ∧ s'.status = reply.getD 0 0 ∧
    s'.history = s.history ++ (misses ++ [e])

/-- Tries without a reply before. -/
theorem Heard.after {n : ℕ} {ok : Bool} {s s' s'' : State} (h : Heard n false s s')
    (h' : Heard n ok s' s'') : Heard n ok s s'' := by
  obtain ⟨before, hbefore, hhistory⟩ := h.missed rfl
  refine ⟨h'.nonce.trans h.nonce, fun hok => ?_, fun hok => ?_⟩
  · obtain ⟨misses, hmisses, hrest⟩ := h'.missed hok
    refine ⟨before ++ misses, fun e he => ?_, by rw [hrest, hhistory, List.append_assoc]⟩
    exact (List.mem_append.1 he).elim (hbefore e) (hmisses e)
  · obtain ⟨misses, e, reply, hmisses, hread, hresp, hstatus, hrest⟩ := h'.replied hok
    refine ⟨before ++ misses, e, reply, fun e he => ?_, hread, hresp, hstatus, ?_⟩
    · exact (List.mem_append.1 he).elim (hbefore e) (hmisses e)
    · rw [hrest, hhistory, List.append_assoc, List.append_assoc]

section

variable [Board] {io : IspIo} {panel : ℕ}

theorem readResp_of_wired {n : ℕ} (hn : n < 21) {cipo raw : List UInt8} (resp : List UInt8)
    (status : UInt8) (h : transferSinglePanel panel cipo = some raw) :
    (∃ reply, replyOf n raw = some reply ∧ reply.length = n ∧
      Panel.readResp panel n raw resp (some status) = ⟨true, reply, some (reply.getD 0 0)⟩) ∨
    (replyOf n raw = none ∧
      Panel.readResp panel n raw resp (some status) = ⟨false, realigned 0 n raw, some status⟩) := by
  have hraw : transferSinglePanel panel raw = some raw := by
    unfold transferSinglePanel at h ⊢
    split_ifs at h ⊢
    rfl
  unfold Panel.readResp replyOf
  rw [if_neg (by omega), hraw]
  dsimp only
  cases hfind : ([0, 1, 2] : List UInt8).find? fun bits => checks n (realigned bits n raw) with
  | none => exact .inr ⟨rfl, rfl⟩
  | some bits => exact .inl ⟨_, rfl, length_realigned .., rfl⟩

@[spec]
theorem sendCmd_spec (msg : List UInt8) (s₀ : State) :
    ⦃fun s => ⌜s = s₀⌝⦄ sendCmd io panel msg
    ⦃post⟨fun ok s => ⌜Sent msg ok s₀ s⌝, fun _ _ => ⌜False⌝⟩⦄ := by
  mvcgen [sendCmd, transfer]
  case vc1 s hs t hnone =>
    subst hs
    exact ⟨rfl, fun _ => rfl, nofun⟩
  case vc2 s hs t cipo hwired =>
    subst hs
    exact ⟨rfl, nofun, fun _ => ⟨_, ⟨rfl, rfl⟩, rfl⟩⟩

omit [Board] in
/-- A panel that is not wired gives no reply. -/
theorem heard_unwired (n mhz : ℕ) (s : State) : Heard n false s (setSpiClockMhz mhz s) :=
  ⟨rfl, fun _ => ⟨[], nofun, (List.append_nil _).symm⟩, nofun⟩

/-- A read of a panel that is wired. -/
theorem heard_wired {n : ℕ} (hn : 0 < n ∧ n < 21) {cipo raw : List UInt8} (s : State)
    (hwired : transferSinglePanel panel cipo = some raw) :
    let r := Panel.readResp panel n raw s.resp (some s.status)
    Heard n r.ok s { setSpiClockMhz kIspClockBMhz s with
      resp := r.resp ++ s.resp.drop n
      status := r.status.getD s.status
      history := s.history ++ [⟨kIspClockBMhz, List.replicate (n + 1) 0, raw⟩] } := by
  dsimp only
  rcases readResp_of_wired hn.2 s.resp s.status hwired with ⟨reply, hreply, hlen, hr⟩ | ⟨hnone, hr⟩
  · rw [hr]
    have htake : (reply ++ s.resp.drop n).take n = reply := by rw [← hlen, List.take_left]
    exact ⟨rfl, nofun, fun _ => ⟨[], ⟨kIspClockBMhz, List.replicate (n + 1) 0, raw⟩, reply,
      fun e he => absurd he List.not_mem_nil, ⟨rfl, rfl, hreply⟩, htake, rfl, rfl⟩⟩
  · rw [hr]
    refine ⟨rfl, fun _ => ⟨[⟨kIspClockBMhz, List.replicate (n + 1) 0, raw⟩], fun e he => ?_, rfl⟩,
      nofun⟩
    rw [List.mem_singleton.1 he]
    exact ⟨rfl, rfl, hnone⟩

omit [Board] in
theorem Heard.refl (n : ℕ) (s : State) : Heard n false s s :=
  ⟨rfl, fun _ => ⟨[], nofun, (List.append_nil _).symm⟩, nofun⟩

/-- A read, after some that found no reply. -/
theorem readResp_after {n : ℕ} (hn : 0 < n ∧ n < 21) (s₀ : State) :
    ⦃fun s => ⌜Heard n false s₀ s⌝⦄ readResp io panel n
    ⦃post⟨fun ok s => ⌜Heard n ok s₀ s⌝, fun _ _ => ⌜False⌝⟩⦄ := by
  mvcgen [readResp, transfer]
  case vc1 s hs t hnone => exact hs.after (heard_unwired n kIspClockBMhz s)
  case vc2 s hs t raw hwired r => exact hs.after (heard_wired hn s hwired)

theorem readResp_spec {n : ℕ} (hn : 0 < n ∧ n < 21) (s₀ : State) :
    ⦃fun s => ⌜s = s₀⌝⦄ readResp io panel n
    ⦃post⟨fun ok s => ⌜Heard n ok s₀ s⌝, fun _ _ => ⌜False⌝⟩⦄ := by
  rintro s rfl
  exact readResp_after hn s s (.refl n s)

/-- Polls, after some that found no reply. -/
theorem pollResp_after {n : ℕ} (hn : 0 < n ∧ n < 21) (timeoutMs start : ℕ) (readings : List ℕ)
    (s₀ : State) :
    ⦃fun s => ⌜Heard n false s₀ s⌝⦄ pollResp io panel n timeoutMs start readings
    ⦃post⟨fun ok s => ⌜Heard n ok s₀ s⌝, fun _ _ => ⌜False⌝⟩⦄ := by
  induction readings with
  | nil => exact readResp_after hn s₀
  | cons now rest ih =>
    mvcgen [pollResp, readResp_spec, ih]
    case vc2 s hs ok hok s' h =>
      rw [hok] at h
      exact hs.after h
    case vc3 s hs ok hok _ s' h =>
      rw [Bool.eq_false_iff.2 hok] at h
      exact hs.after h
    case vc4 s hs ok hok _ s' h =>
      rw [Bool.eq_false_iff.2 hok] at h
      exact hs.after h

theorem pollResp_spec {n : ℕ} (hn : 0 < n ∧ n < 21) (timeoutMs start : ℕ) (readings : List ℕ)
    (s₀ : State) :
    ⦃fun s => ⌜s = s₀⌝⦄ pollResp io panel n timeoutMs start readings
    ⦃post⟨fun ok s => ⌜Heard n ok s₀ s⌝, fun _ _ => ⌜False⌝⟩⦄ := by
  rintro s rfl
  exact pollResp_after hn timeoutMs start readings s s (.refl n s)

/-! ### A message and its reply -/

/-- A message, and reads that find no reply. -/
def Tries (msg : List UInt8) (n : ℕ) (h : List Exchange) : Prop :=
  ∃ e misses, Sends msg e ∧ (∀ m ∈ misses, Reads n none m) ∧ h = e :: misses

/-- A message, and reads the last of which finds this reply. -/
def Replied (msg : List UInt8) (n : ℕ) (reply : List UInt8) (h : List Exchange) : Prop :=
  ∃ tries last, Tries msg n tries ∧ Reads n (some reply) last ∧ h = tries ++ [last]

/-- A message, and a reply with status 0. -/
def Accepted (msg : List UInt8) (n : ℕ) (h : List Exchange) : Prop :=
  ∃ reply, Replied msg n reply h ∧ reply.getD 0 0 = 0

/-- What sending a message and reading its reply does. -/
structure Asked (msg : List UInt8) (n : ℕ) (ok : Bool) (s s' : State) : Prop where
  nonce : s'.nonce = s.nonce
  missed : ok = false → ∃ h, Tries msg n h ∧ s'.history = s.history ++ h
  replied : ok = true → ∃ h, Replied msg n (s'.resp.take n) h ∧
    s'.status = (s'.resp.take n).getD 0 0 ∧ s'.history = s.history ++ h

/-- Every exchange is a read, or a message with this command. -/
def Asks (cmd : UInt8) (h : List Exchange) : Prop :=
  ∀ e ∈ h, opcodeOf e.copi = 0 ∨ opcodeOf e.copi = cmd

/-- No exchange is an `ISP_COMMIT`. -/
def Quiet (h : List Exchange) : Prop := ∀ e ∈ h, opcodeOf e.copi ≠ ispCommit

/-- The history of a session grows by exchanges with this property. -/
def Adds (P : List Exchange → Prop) (s s' : State) : Prop :=
  ∃ h, P h ∧ s'.history = s.history ++ h

omit [Board] in
theorem Sent.heard {msg : List UInt8} {n : ℕ} {ok : Bool} {s s' s'' : State}
    (h : Sent msg true s s') (h' : Heard n ok s' s'') : Asked msg n ok s s'' := by
  obtain ⟨e, hsends, hhistory⟩ := h.sent rfl
  refine ⟨h'.nonce.trans h.nonce, fun hok => ?_, fun hok => ?_⟩
  · obtain ⟨misses, hmisses, hrest⟩ := h'.missed hok
    exact ⟨e :: misses, ⟨e, misses, hsends, hmisses, rfl⟩, by
      rw [hrest, hhistory, List.append_assoc]
      rfl⟩
  · obtain ⟨misses, last, reply, hmisses, hread, hresp, hstatus, hrest⟩ := h'.replied hok
    subst hresp
    exact ⟨e :: misses ++ [last],
      ⟨e :: misses, last, ⟨e, misses, hsends, hmisses, rfl⟩, hread, rfl⟩, hstatus, by
        rw [hrest, hhistory, List.append_assoc]
        rfl⟩

omit [Board] in
theorem Reads.opcode {n : ℕ} {reply : Option (List UInt8)} {e : Exchange} (h : Reads n reply e) :
    opcodeOf e.copi = 0 := by
  rw [h.copi, opcodeOf]
  cases n <;> rfl

omit [Board] in
theorem Reads.quiet {n : ℕ} {reply : Option (List UInt8)} {e : Exchange} (h : Reads n reply e) :
    opcodeOf e.copi ≠ ispCommit := by
  rw [h.opcode]
  decide

omit [Board] in
theorem Tries.asks {msg : List UInt8} {n : ℕ} {h : List Exchange} (htries : Tries msg n h) :
    Asks (opcodeOf msg) h := by
  obtain ⟨e, misses, hsends, hmisses, rfl⟩ := htries
  intro m hm
  rcases List.mem_cons.1 hm with rfl | hm
  · exact .inr (by rw [hsends.copi])
  · exact .inl (hmisses m hm).opcode

omit [Board] in
theorem Replied.asks {msg : List UInt8} {n : ℕ} {reply : List UInt8} {h : List Exchange}
    (hreplied : Replied msg n reply h) : Asks (opcodeOf msg) h := by
  obtain ⟨tries, last, htries, hread, rfl⟩ := hreplied
  intro m hm
  rcases List.mem_append.1 hm with hm | hm
  · exact htries.asks m hm
  · rw [List.mem_singleton.1 hm]
    exact .inl hread.opcode

omit [Board] in
theorem Accepted.asks {msg : List UInt8} {n : ℕ} {h : List Exchange}
    (haccepted : Accepted msg n h) : Asks (opcodeOf msg) h := by
  obtain ⟨reply, hreplied, -⟩ := haccepted
  exact hreplied.asks

omit [Board] in
theorem Asks.quiet {cmd : UInt8} {h : List Exchange} (hasks : Asks cmd h) (hcmd : cmd ≠ ispCommit) :
    Quiet h := by
  intro e he
  rcases hasks e he with hzero | hcopi
  · rw [hzero]
    decide
  · rw [hcopi]
    exact hcmd

omit [Board] in
theorem Adds.mono {P Q : List Exchange → Prop} {s s' : State} (hPQ : ∀ h, P h → Q h)
    (h : Adds P s s') : Adds Q s s' := by
  obtain ⟨h, hP, hhistory⟩ := h
  exact ⟨h, hPQ h hP, hhistory⟩

omit [Board] in
theorem Adds.append {P Q R : List Exchange → Prop} {s s' s'' : State}
    (hPQ : ∀ a b, P a → Q b → R (a ++ b)) (h : Adds P s s') (h' : Adds Q s' s'') :
    Adds R s s'' := by
  obtain ⟨a, ha, hhistory⟩ := h
  obtain ⟨b, hb, hrest⟩ := h'
  exact ⟨a ++ b, hPQ a b ha hb, by rw [hrest, hhistory, List.append_assoc]⟩

omit [Board] in
theorem Adds.of_eq {P : List Exchange → Prop} {s s' : State} (hP : P [])
    (h : s'.history = s.history) : Adds P s s' :=
  ⟨[], hP, by rw [h, List.append_nil]⟩

omit [Board] in
theorem Asks.append {cmd : UInt8} (a b : List Exchange) (ha : Asks cmd a) (hb : Asks cmd b) :
    Asks cmd (a ++ b) := fun e he => (List.mem_append.1 he).elim (ha e) (hb e)

omit [Board] in
theorem Quiet.append (a b : List Exchange) (ha : Quiet a) (hb : Quiet b) : Quiet (a ++ b) :=
  fun e he => (List.mem_append.1 he).elim (ha e) (hb e)

omit [Board] in
theorem Asked.asks {msg : List UInt8} {n : ℕ} {ok : Bool} {s s' : State} (h : Asked msg n ok s s') :
    Adds (Asks (opcodeOf msg)) s s' := by
  cases ok with
  | false =>
    obtain ⟨h, htries, hhistory⟩ := h.missed rfl
    exact ⟨h, htries.asks, hhistory⟩
  | true =>
    obtain ⟨h, hreplied, -, hhistory⟩ := h.replied rfl
    exact ⟨h, hreplied.asks, hhistory⟩

omit [Board] in
theorem Asked.quiet {msg : List UInt8} {n : ℕ} {ok : Bool} {s s' : State}
    (hmsg : opcodeOf msg ≠ ispCommit) (h : Asked msg n ok s s') : Adds Quiet s s' :=
  h.asks.mono fun _ hasks => hasks.quiet hmsg

omit [Board] in
theorem Asked.accepted {msg : List UInt8} {n : ℕ} {s s' : State} (h : Asked msg n true s s')
    (hstatus : s'.status = 0) : Adds (Accepted msg n) s s' := by
  obtain ⟨h, hreplied, hzero, hhistory⟩ := h.replied rfl
  exact ⟨h, ⟨_, hreplied, hzero.symm.trans hstatus⟩, hhistory⟩

omit [Board] in
theorem opcodeOf_buildMsg (cmd : UInt8) (payload : List UInt8) :
    opcodeOf (buildMsg cmd payload) = cmd := by
  unfold buildMsg
  dsimp only
  rw [opcodeOf_stampHeaderParity _ _ (by omega)]
  rfl

omit [Board] in
theorem opcodeOf_enterMsg : opcodeOf enterMsg = ispEnter := opcodeOf_buildMsg ..

omit [Board] in
theorem opcodeOf_writePageMsg (p : ℕ) (nonce page : List UInt8) :
    opcodeOf (writePageMsg p nonce page) = ispWritePage := opcodeOf_buildMsg ..

omit [Board] in
theorem opcodeOf_verifyStagedMsg (nonce : List UInt8) (fw : Footer) :
    opcodeOf (verifyStagedMsg nonce fw) = ispVerifyStaged := opcodeOf_buildMsg ..

omit [Board] in
theorem opcodeOf_verifyCrcMsg (nonce : List UInt8) (fw : Footer) :
    opcodeOf (verifyCrcMsg nonce fw) = ispVerifyCrc := opcodeOf_buildMsg ..

omit [Board] in
@[spec]
theorem require_spec (ok : Bool) (text : List UInt8) (s₀ : State) :
    ⦃fun s => ⌜s = s₀⌝⦄ require ok text
    ⦃post⟨fun _ s => ⌜s = s₀ ∧ ok = true⌝, fun _ s => ⌜s = s₀ ∧ ok = false⌝⟩⦄ := by
  cases ok <;> mvcgen [require]

/-! ### `ISP_ENTER` -/

/-- A reply to `ISP_ENTER` with status 0, which gives this nonce, the second time at the latest. -/
def Entered (nonce : List UInt8) (h : List Exchange) : Prop :=
  ∃ before after reply, (before = [] ∨ Tries enterMsg 19 before) ∧ Replied enterMsg 19 reply after ∧
    reply.getD 0 0 = 0 ∧ nonce = (reply.drop 1).take 4 ∧ h = before ++ after

/-- What `enterReply` does. -/
structure AskedTwice (ok : Bool) (s s' : State) : Prop where
  asks : Adds (Asks ispEnter) s s'
  replied : ok = true → ∃ before after, (before = [] ∨ Tries enterMsg 19 before) ∧
    Replied enterMsg 19 (s'.resp.take 19) after ∧ s'.status = (s'.resp.take 19).getD 0 0 ∧
    s'.history = s.history ++ (before ++ after)

omit [Board] in
theorem Asked.enters {ok : Bool} {s s' : State} (h : Asked enterMsg 19 ok s s') :
    Adds (Asks ispEnter) s s' := by
  rw [← opcodeOf_enterMsg]
  exact h.asks

omit [Board] in
theorem Asked.twice {ok : Bool} {s s' s'' : State} (h : Asked enterMsg 19 false s s')
    (h' : Asked enterMsg 19 ok s' s'') : AskedTwice ok s s'' := by
  refine ⟨h.enters.append Asks.append h'.enters, fun hok => ?_⟩
  obtain ⟨before, htries, hhistory⟩ := h.missed rfl
  obtain ⟨after, hreplied, hstatus, hrest⟩ := h'.replied hok
  exact ⟨before, after, .inr htries, hreplied, hstatus, by rw [hrest, hhistory, List.append_assoc]⟩

omit [Board] in
theorem Asked.once {s s' : State} (h : Asked enterMsg 19 true s s') : AskedTwice true s s' := by
  refine ⟨h.enters, fun _ => ?_⟩
  obtain ⟨after, hreplied, hstatus, hhistory⟩ := h.replied rfl
  exact ⟨[], after, .inl rfl, hreplied, hstatus, hhistory⟩

omit [Board] in
theorem AskedTwice.entered {s s' : State} (h : AskedTwice true s s') (hstatus : s'.status = 0) :
    Adds (Entered ((s'.resp.drop 1).take 4)) s s' := by
  obtain ⟨before, after, hbefore, hreplied, hzero, hhistory⟩ := h.replied rfl
  refine ⟨before ++ after,
    ⟨before, after, _, hbefore, hreplied, hzero.symm.trans hstatus, ?_, rfl⟩, hhistory⟩
  rw [List.drop_take, List.take_take]
  rfl

theorem tryEnter_spec (s₀ : State) :
    ⦃fun s => ⌜s = s₀⌝⦄ tryEnter io panel
    ⦃post⟨fun ok s => ⌜Asked enterMsg 19 ok s₀ s⌝, fun _ s => ⌜s.history = s₀.history⌝⟩⦄ := by
  mvcgen [tryEnter, sendCmd_spec, readResp_spec]
  case vc2 s hs sent s₁ hsent _ s₂ hreq t ok s₃ =>
    intro hheard
    subst hs
    obtain ⟨rfl, rfl⟩ := hreq
    exact hsent.heard ⟨hheard.nonce, hheard.missed, hheard.replied⟩
  case vc3 s hs sent s₁ hsent _ s₂ =>
    rintro rfl rfl
    subst hs
    exact hsent.failed rfl

theorem enterReply_spec (s₀ : State) :
    ⦃fun s => ⌜s = s₀⌝⦄ enterReply io panel
    ⦃post⟨fun ok s => ⌜AskedTwice ok s₀ s⌝, fun _ s => ⌜Adds (Asks ispEnter) s₀ s⌝⟩⦄ := by
  mvcgen [enterReply, tryEnter_spec]
  case vc1 s hs ok hok s₁ hasked =>
    subst hs hok
    exact hasked.once
  case vc2 s hs first hfirst s₁ hasked ok s₂ =>
    intro hagain
    subst hs
    rw [Bool.eq_false_iff.2 hfirst] at hasked
    exact hasked.twice hagain
  case vc3 s hs first hfirst s₁ hasked _ s₂ =>
    intro hsame
    subst hs
    exact hasked.enters.append Asks.append (.of_eq nofun hsame)
  case vc4 s hs _ s₁ =>
    intro hsame
    subst hs
    exact .of_eq nofun hsame

theorem enter_spec (s₀ : State) :
    ⦃fun s => ⌜s = s₀⌝⦄ enter io panel
    ⦃post⟨fun _ s => ⌜Adds (Entered s.nonce) s₀ s⌝, fun _ s => ⌜Adds (Asks ispEnter) s₀ s⌝⟩⦄ := by
  mvcgen [enter, enterReply_spec, keepNonce]
  case vc1 s hs ok s₁ hasked _ s₂ hreplied _ s₃ hstatus t =>
    subst hs
    obtain ⟨rfl, rfl⟩ := hreplied
    obtain ⟨rfl, hstatus⟩ := hstatus
    exact hasked.entered (of_decide_eq_true hstatus)
  case vc2 s hs ok s₁ hasked _ s₂ hreplied _ s₃ =>
    rintro rfl -
    subst hs
    obtain ⟨rfl, -⟩ := hreplied
    exact hasked.asks
  case vc3 s hs ok s₁ hasked _ s₂ =>
    rintro rfl -
    subst hs
    exact hasked.asks
  case vc4 s hs _ s₁ =>
    intro hasks
    subst hs
    exact hasks

omit [Board] in
theorem Entered.asks {nonce : List UInt8} {h : List Exchange} (hentered : Entered nonce h) :
    Asks ispEnter h := by
  obtain ⟨before, after, reply, hbefore, hreplied, -, -, rfl⟩ := hentered
  rw [← opcodeOf_enterMsg]
  refine Asks.append _ _ ?_ hreplied.asks
  rcases hbefore with rfl | htries
  · exact nofun
  · exact htries.asks

/-! ### Pages -/

/-- Page `p` of an image, with 0xFF after its end. -/
def imagePage (image : List UInt8) (p : ℕ) : List UInt8 :=
  let data := (image.drop (p * kPageBytes)).take kPageBytes
  data ++ List.replicate (kPageBytes - data.length) 0xFF

/-- The first `n` pages of an image, one after the other, each accepted. -/
def Streamed (nonce image : List UInt8) : ℕ → List Exchange → Prop
  | 0, h => h = []
  | n + 1, h => ∃ before after, Streamed nonce image n before ∧
      Accepted (writePageMsg n nonce (imagePage image n)) 2 after ∧ h = before ++ after

theorem streamPage_spec (content : List UInt8) (p pos want : ℕ) (s₀ : State) :
    ⦃fun s => ⌜s = s₀⌝⦄ streamPage io panel content p pos want
    ⦃post⟨fun _ s => ⌜s.nonce = s₀.nonce ∧ (readPage io content p pos want).length = want ∧
        Adds (Accepted (writePageMsg p s₀.nonce
          (readPage io content p pos want ++ List.replicate (kPageBytes - want) 0xFF)) 2) s₀ s⌝,
      fun _ s => ⌜Adds (Asks ispWritePage) s₀ s⌝⟩⦄ := by
  mvcgen [streamPage, sendCmd_spec, readResp_spec]
  case vc2 data s hs _ page s₁ hread sent s₂ hsent _ s₃ hreq ok s₄ hheard _ s₅ =>
    rintro rfl hok
    subst hs
    obtain ⟨rfl, hlen⟩ := hread
    obtain ⟨rfl, rfl⟩ := hreq
    obtain ⟨rfl, hstatus⟩ := Bool.and_eq_true_iff.1 hok
    have hasked := hsent.heard hheard
    exact ⟨hasked.nonce, of_decide_eq_true hlen, hasked.accepted (of_decide_eq_true hstatus)⟩
  case vc3 data s hs _ page s₁ hread sent s₂ hsent _ s₃ hreq ok s₄ hheard _ s₅ =>
    rintro rfl -
    subst hs
    obtain ⟨rfl, -⟩ := hread
    obtain ⟨rfl, rfl⟩ := hreq
    rw [← opcodeOf_writePageMsg p s₁.nonce page]
    exact (hsent.heard hheard).asks
  case vc4 data s hs _ page s₁ hread sent s₂ hsent _ s₃ =>
    rintro rfl rfl
    subst hs
    obtain ⟨rfl, -⟩ := hread
    exact .of_eq nofun (hsent.failed rfl)
  case vc5 data s hs _ s₁ =>
    rintro rfl -
    subst hs
    exact .of_eq nofun rfl

omit [Board] in
theorem Streamed.asks {nonce image : List UInt8} {n : ℕ} {h : List Exchange}
    (hstreamed : Streamed nonce image n h) : Asks ispWritePage h := by
  induction n generalizing h with
  | zero =>
    obtain rfl : h = [] := hstreamed
    exact nofun
  | succ n ih =>
    obtain ⟨before, after, hbefore, hafter, rfl⟩ := hstreamed
    rw [← opcodeOf_writePageMsg n nonce (imagePage image n)] at ih ⊢
    exact Asks.append _ _ (ih hbefore) hafter.asks

omit [Board] in
/-- A page that is read whole is the page of the image. -/
theorem readPage_eq {content : List UInt8} {start size p pos : ℕ}
    (hpos : pos = start + min (p * kPageBytes) size)
    (hlen : (readPage io content p pos (min (size - p * kPageBytes) kPageBytes)).length
      = min (size - p * kPageBytes) kPageBytes) :
    readPage io content p pos (min (size - p * kPageBytes) kPageBytes)
        ++ List.replicate (kPageBytes - min (size - p * kPageBytes) kPageBytes) 0xFF
      = imagePage ((content.drop start).take size) p := by
  generalize hwant : min (size - p * kPageBytes) kPageBytes = want at hlen ⊢
  have hread : readPage io content p pos want = (content.drop pos).take want := by
    unfold readPage at hlen ⊢
    rw [List.length_take] at hlen
    rw [Nat.min_eq_left (by omega)]
  have hdata : (((content.drop start).take size).drop (p * kPageBytes)).take kPageBytes
      = (content.drop pos).take want := by
    rw [List.drop_take, List.take_take, List.drop_drop, Nat.min_comm, hwant]
    rcases Nat.le_total (p * kPageBytes) size with hle | hle
    · rw [hpos, Nat.min_eq_left hle]
    · have hzero : want = 0 := by omega
      rw [hzero, List.take_zero, List.take_zero]
  rw [hread] at hlen
  unfold imagePage
  dsimp only
  rw [hdata, hread, hlen]

theorem streamPages_spec {content : List UInt8} {start size : ℕ} (n p pos : ℕ)
    (hpos : pos = start + min (p * kPageBytes) size) (nonce : List UInt8) (s₀ : State) :
    ⦃fun s => ⌜s.nonce = nonce ∧ Adds (Streamed nonce ((content.drop start).take size) p) s₀ s⌝⦄
    streamPages io panel content size n p pos
    ⦃post⟨fun _ s => ⌜s.nonce = nonce ∧
        Adds (Streamed nonce ((content.drop start).take size) (p + n)) s₀ s⌝,
      fun _ s => ⌜Adds (Asks ispWritePage) s₀ s⌝⟩⦄ := by
  induction n generalizing p pos with
  | zero => mvcgen [streamPages]
  | succ n ih =>
    have hnext : pos + min (size - p * kPageBytes) kPageBytes
        = start + min ((p + 1) * kPageBytes) size := by
      rw [hpos, Nat.add_mul]
      omega
    have hrest := ih (p + 1) _ hnext
    mvcgen [streamPages, streamPage_spec, hrest]
    case vc1 want s hs _ s₁ hpage =>
      obtain ⟨rfl, hbefore⟩ := hs
      obtain ⟨hnonce, hlen, hafter⟩ := hpage
      rw [readPage_eq hpos hlen] at hafter
      exact ⟨hnonce, hbefore.append (fun a b ha hb => ⟨a, b, ha, hb, rfl⟩) hafter⟩
    case vc2 want s hs _ s₁ hpage _ s₂ =>
      rw [show p + 1 + n = p + (n + 1) by omega]
      exact fun hnonce hadds => ⟨hnonce, hadds⟩
    case vc3 want s hs _ s₁ =>
      intro hasks
      exact (hs.2.mono fun _ => Streamed.asks).append Asks.append hasks


/-! ### `ISP_VERIFY_STAGED` and `ISP_COMMIT` -/

theorem verifyStaged_spec (fw : Footer) (s₀ : State) :
    ⦃fun s => ⌜s = s₀⌝⦄ verifyStaged io panel fw
    ⦃post⟨fun _ s => ⌜s.nonce = s₀.nonce ∧ Adds (Accepted (verifyStagedMsg s₀.nonce fw) 6) s₀ s⌝,
      fun _ s => ⌜Adds (Asks ispVerifyStaged) s₀ s⌝⟩⦄ := by
  mvcgen [verifyStaged, sendCmd_spec, pollResp_spec]
  case vc2 s hs sent s₁ hsent _ s₂ hreq got s₃ hheard _ s₄ hgot _ s₅ =>
    rintro rfl hstatus
    subst hs
    obtain ⟨rfl, rfl⟩ := hreq
    obtain ⟨rfl, rfl⟩ := hgot
    have hasked := hsent.heard hheard
    exact ⟨hasked.nonce, hasked.accepted (of_decide_eq_true hstatus)⟩
  case vc3 s hs sent s₁ hsent _ s₂ hreq got s₃ hheard _ s₄ hgot _ s₅ =>
    rintro rfl -
    subst hs
    obtain ⟨rfl, rfl⟩ := hreq
    obtain ⟨rfl, -⟩ := hgot
    rw [← opcodeOf_verifyStagedMsg s.nonce fw]
    exact (hsent.heard hheard).asks
  case vc4 s hs sent s₁ hsent _ s₂ hreq got s₃ hheard _ s₄ =>
    rintro rfl -
    subst hs
    obtain ⟨rfl, rfl⟩ := hreq
    rw [← opcodeOf_verifyStagedMsg s.nonce fw]
    exact (hsent.heard hheard).asks
  case vc5 s hs sent s₁ hsent _ s₂ =>
    rintro rfl rfl
    subst hs
    exact .of_eq nofun (hsent.failed rfl)

/-- The first exchange may be an `ISP_COMMIT`, with this message, and no other. -/
def Once (msg : List UInt8) (h : List Exchange) : Prop :=
  ∀ before e after, h = before ++ e :: after → opcodeOf e.copi = ispCommit →
    before = [] ∧ e.copi = msg

omit [Board] in
theorem once_cons {msg : List UInt8} {first : Exchange} {rest : List Exchange}
    (hfirst : first.copi = msg) (hrest : Quiet rest) : Once msg (first :: rest) := by
  intro before e after heq hcommit
  cases before with
  | nil =>
    obtain ⟨rfl, -⟩ := List.cons.inj heq
    exact ⟨rfl, hfirst⟩
  | cons b before =>
    obtain ⟨-, rfl⟩ := List.cons.inj heq
    exact absurd hcommit (hrest e (List.mem_append_right _ List.mem_cons_self))

omit [Board] in
theorem Tries.once {msg : List UInt8} {n : ℕ} {h rest : List Exchange} (htries : Tries msg n h)
    (hrest : Quiet rest) : Once msg (h ++ rest) := by
  obtain ⟨e, misses, hsends, hmisses, rfl⟩ := htries
  refine once_cons hsends.copi (Quiet.append _ _ (fun m hm => ?_) hrest)
  exact (hmisses m hm).quiet

omit [Board] in
theorem Replied.once {msg : List UInt8} {n : ℕ} {reply : List UInt8} {h rest : List Exchange}
    (hreplied : Replied msg n reply h) (hrest : Quiet rest) : Once msg (h ++ rest) := by
  obtain ⟨tries, last, htries, hread, rfl⟩ := hreplied
  rw [List.append_assoc]
  refine htries.once fun m hm => ?_
  rcases List.mem_cons.1 hm with rfl | hm
  · exact hread.quiet
  · exact hrest m hm

omit [Board] in
theorem Asked.adds_once {msg : List UInt8} {n : ℕ} {ok : Bool} {s s' : State}
    (h : Asked msg n ok s s') : Adds (Once msg) s s' := by
  cases ok with
  | false =>
    obtain ⟨h, htries, hhistory⟩ := h.missed rfl
    refine ⟨h, ?_, hhistory⟩
    rw [← List.append_nil h]
    exact htries.once nofun
  | true =>
    obtain ⟨h, hreplied, -, hhistory⟩ := h.replied rfl
    refine ⟨h, ?_, hhistory⟩
    rw [← List.append_nil h]
    exact hreplied.once nofun

theorem commit_spec (fw : Footer) (s₀ : State) :
    ⦃fun s => ⌜s = s₀⌝⦄ commit io panel fw
    ⦃post⟨fun _ s => ⌜Adds (Accepted (commitMsg s₀.nonce fw) 2) s₀ s⌝,
      fun _ s => ⌜Adds (Once (commitMsg s₀.nonce fw)) s₀ s⌝⟩⦄ := by
  mvcgen [commit, sendCmd_spec, pollResp_spec]
  case vc2 s hs sent s₁ hsent _ s₂ hreq got s₃ hheard _ s₄ hgot _ s₅ hstaged _ s₆ =>
    rintro rfl hstatus
    subst hs
    obtain ⟨rfl, rfl⟩ := hreq
    obtain ⟨rfl, rfl⟩ := hgot
    obtain ⟨rfl, -⟩ := hstaged
    exact (hsent.heard hheard).accepted (of_decide_eq_true hstatus)
  case vc3 s hs sent s₁ hsent _ s₂ hreq got s₃ hheard _ s₄ hgot _ s₅ hstaged _ s₆ =>
    rintro rfl -
    subst hs
    obtain ⟨rfl, rfl⟩ := hreq
    obtain ⟨rfl, -⟩ := hgot
    obtain ⟨rfl, -⟩ := hstaged
    exact (hsent.heard hheard).adds_once
  case vc4 s hs sent s₁ hsent _ s₂ hreq got s₃ hheard _ s₄ hgot _ s₅ =>
    rintro rfl -
    subst hs
    obtain ⟨rfl, rfl⟩ := hreq
    obtain ⟨rfl, -⟩ := hgot
    exact (hsent.heard hheard).adds_once
  case vc5 s hs sent s₁ hsent _ s₂ hreq got s₃ hheard _ s₄ =>
    rintro rfl -
    subst hs
    obtain ⟨rfl, rfl⟩ := hreq
    exact (hsent.heard hheard).adds_once
  case vc6 s hs sent s₁ hsent _ s₂ =>
    rintro rfl rfl
    subst hs
    exact .of_eq (fun before e after heq => absurd heq (by simp)) (hsent.failed rfl)

/-! ### After the commit -/

/-- A `COMM_CHECK` clocked to the panel. -/
structure Probes (e : Exchange) : Prop where
  copi : e.copi = commCheck
  mhz : e.mhz = kIspClockBMhz

/-- Probes of the panel, the last of which it confirms. -/
def Alive (h : List Exchange) : Prop :=
  ∃ probes last, (∀ e ∈ probes, Probes e) ∧ Probes last ∧ confirms last.cipo = true ∧
    h = probes ++ [last]

omit [Board] in
theorem Probes.quiet {e : Exchange} (h : Probes e) : opcodeOf e.copi ≠ ispCommit := by
  rw [h.copi, commCheck, opcodeOf_buildMsg]
  decide

omit [Board] in
theorem Alive.quiet {h : List Exchange} (halive : Alive h) : Quiet h := by
  obtain ⟨probes, last, hprobes, hlast, -, rfl⟩ := halive
  intro e he
  rcases List.mem_append.1 he with he | he
  · exact (hprobes e he).quiet
  · rw [List.mem_singleton.1 he]
    exact hlast.quiet

/-- What a probe, and probes, do. -/
structure Probed (ok : Bool) (s s' : State) : Prop where
  missed : ok = false → Adds (fun h => ∀ e ∈ h, Probes e) s s'
  alive : ok = true → Adds Alive s s'

omit [Board] in
theorem Probed.refl (s : State) : Probed false s s :=
  ⟨fun _ => ⟨[], nofun, (List.append_nil _).symm⟩, nofun⟩

omit [Board] in
theorem Probed.slow {s s' : State} (h : Probed false s s') (mhz : ℕ) :
    Probed false s (setSpiClockMhz mhz s') :=
  ⟨h.missed, nofun⟩

omit [Board] in
theorem probes_of_eq {copi : List UInt8} (h : copi = commCheck) (cipo : List UInt8) :
    Probes ⟨kIspClockBMhz, copi, cipo⟩ := ⟨h, rfl⟩

omit [Board] in
/-- One more probe. -/
theorem Probed.next {ok : Bool} {s s' s'' : State} {e : Exchange} (h : Probed false s s')
    (he : Probes e) (hok : ok = true → confirms e.cipo = true)
    (hhistory : s''.history = s'.history ++ [e]) : Probed ok s s'' := by
  obtain ⟨probes, hprobes, hbefore⟩ := h.missed rfl
  have hafter : s''.history = s.history ++ (probes ++ [e]) := by
    rw [hhistory, hbefore, List.append_assoc]
  refine ⟨fun _ => ⟨_, fun m hm => ?_, hafter⟩,
    fun halive => ⟨_, ⟨probes, e, hprobes, he, hok halive, rfl⟩, hafter⟩⟩
  rcases List.mem_append.1 hm with hm | hm
  · exact hprobes m hm
  · rw [List.mem_singleton.1 hm]
    exact he

theorem probeAlive_after (primed : Bool) (s₀ : State) :
    ⦃fun s => ⌜Probed false s₀ s⌝⦄ probeAlive io panel primed
    ⦃post⟨fun ok s => ⌜Probed ok s₀ s⌝, fun _ _ => ⌜False⌝⟩⦄ := by
  mvcgen [probeAlive, transfer]
  case vc1 s hs t hnone =>
    rw [Option.any_none, Bool.and_false]
    exact hs.slow kIspClockBMhz
  case vc2 s hs t cipo hwired =>
    exact (hs.slow kIspClockBMhz).next (probes_of_eq rfl cipo)
      (fun hok => (Bool.and_eq_true_iff.1 hok).2) rfl

theorem pollPanelAlive_after (start : ℕ) (readings : List ℕ) (primed : Bool) (s₀ : State) :
    ⦃fun s => ⌜Probed false s₀ s⌝⦄ pollPanelAlive io panel start readings primed
    ⦃post⟨fun ok s => ⌜Probed ok s₀ s⌝, fun _ _ => ⌜False⌝⟩⦄ := by
  induction readings generalizing primed with
  | nil => exact probeAlive_after primed s₀
  | cons now rest ih =>
    have hprobe := @probeAlive_after _ io panel primed s₀
    have hrest := ih true
    mvcgen [pollPanelAlive, hprobe, hrest]
    case vc2 s hs ok hok s' h =>
      rw [hok] at h
      exact h
    case vc3 s hs ok hok _ s' h =>
      rw [Bool.eq_false_iff.2 hok] at h
      exact h
    case vc4 s hs ok hok _ s' h =>
      rw [Bool.eq_false_iff.2 hok] at h
      exact h

theorem awaitReboot_spec (s₀ : State) :
    ⦃fun s => ⌜s = s₀⌝⦄ awaitReboot io panel
    ⦃post⟨fun _ s => ⌜Adds Alive s₀ s⌝, fun _ s => ⌜Adds Quiet s₀ s⌝⟩⦄ := by
  have hpoll := @pollPanelAlive_after _ io panel (io.start 2) (io.polls 2) false s₀
  mvcgen [awaitReboot, hpoll]
  case vc1 s hs =>
    subst hs
    exact .refl s
  case vc2 s hs alive s₁ hprobed _ s₂ =>
    rintro rfl rfl
    exact hprobed.alive rfl
  case vc3 s hs alive s₁ hprobed _ s₂ =>
    rintro rfl rfl
    obtain ⟨h, hprobes, hhistory⟩ := hprobed.missed rfl
    exact ⟨h, fun e he => (hprobes e he).quiet, hhistory⟩

/-! ### The image -/

/-- The pages of an image: whole ones, which give the image and 0xFF after it. -/
structure Paged (image : List UInt8) (n : ℕ) : Prop where
  lengths : ∀ p < n, (imagePage image p).length = kPageBytes
  whole : ((List.range n).map (imagePage image)).flatten
    = image ++ List.replicate (n * kPageBytes - image.length) 0xFF

omit [Board] in
theorem length_imagePage (image : List UInt8) (p : ℕ) :
    (imagePage image p).length = kPageBytes := by
  unfold imagePage
  dsimp only
  rw [List.length_append, List.length_replicate, List.length_take]
  omega

omit [Board] in
theorem flatten_imagePages (image : List UInt8) (n : ℕ) :
    ((List.range n).map (imagePage image)).flatten
      = image.take (n * kPageBytes) ++ List.replicate (n * kPageBytes - image.length) 0xFF := by
  induction n with
  | zero => simp
  | succ n ih =>
    rw [List.range_succ, List.map_append, List.flatten_append, ih, Nat.add_mul, Nat.one_mul,
      List.take_add]
    simp only [List.map_cons, List.map_nil, List.flatten_cons, List.flatten_nil, List.append_nil]
    unfold imagePage
    dsimp only
    rw [List.length_take, List.length_drop]
    rcases Nat.le_total (n * kPageBytes) image.length with hle | hle
    · have hfill : kPageBytes - min kPageBytes (image.length - n * kPageBytes)
          = n * kPageBytes + kPageBytes - image.length := by omega
      rw [hfill, Nat.sub_eq_zero_of_le hle, List.replicate_zero, List.append_nil, List.append_assoc]
    · have hfill : kPageBytes - min kPageBytes (image.length - n * kPageBytes) = kPageBytes := by
        omega
      rw [hfill, List.drop_eq_nil_of_le hle, List.take_nil, List.nil_append, List.append_nil,
        List.append_assoc, List.replicate_append_replicate]
      congr 2
      omega

omit [Board] in
theorem paged {image : List UInt8} (hsize : image.length + 255 < 2 ^ 32) :
    Paged image (pageCount image.length) := by
  refine ⟨fun p _ => length_imagePage image p, ?_⟩
  have hcover : image.length ≤ pageCount image.length * kPageBytes := by
    unfold pageCount
    rw [Nat.mod_eq_of_lt (by simp only [kPageBytes]; omega)]
    simp only [kPageBytes]
    omega
  rw [flatten_imagePages, List.take_of_length_le hcover]

omit [Board] in
theorem readFooter_ok {comparesSize : Bool} {content : List UInt8} {fw : Footer} {pos : ℕ}
    (h : readFooter io comparesSize content = .ok (fw, pos)) :
    firmwareFooterByteCount < content.length % 2 ^ 32 ∧
      (comparesSize = true → fw.imageSize = content.length % 2 ^ 32 - firmwareFooterByteCount) ∧
      pos = if io.seeks 0 then content.length % 2 ^ 32 else firmwareFooterByteCount := by
  unfold readFooter at h
  dsimp only at h
  generalize hstart : (if io.seeks 0 then content.length % 2 ^ 32 - firmwareFooterByteCount else 0)
    = start at h
  split_ifs at h with hopened hsmall hfooter hmagic hcompare
  obtain ⟨rfl, rfl⟩ := Prod.mk.inj (Except.ok.inj h)
  refine ⟨by omega, fun hcompares => by_contra fun hne => hcompare ⟨hcompares, hne⟩, ?_⟩
  rw [← hstart]
  split_ifs
  · omega
  · omega

/-- The image a session installs: the file but for its footer.  If neither seek is done, it is what
comes after the footer that was read at the start. -/
def imageOf (io : IspIo) (content : List UInt8) : List UInt8 :=
  if io.seeks 0 || io.seeks 1 then content.take (content.length - firmwareFooterByteCount)
  else content.drop firmwareFooterByteCount

omit [Board] in
theorem length_imageOf (content : List UInt8) :
    (imageOf io content).length = content.length - firmwareFooterByteCount := by
  unfold imageOf
  split_ifs
  · rw [List.length_take]
    omega
  · rw [List.length_drop]

theorem streamPage_fails {content : List UInt8} {p pos want : ℕ} (hpos : content.length ≤ pos)
    (hwant : 0 < want) (s₀ : State) :
    ⦃fun s => ⌜s = s₀⌝⦄ streamPage io panel content p pos want
    ⦃post⟨fun _ _ => ⌜False⌝, fun _ s => ⌜Adds (Asks ispWritePage) s₀ s⌝⟩⦄ := by
  mvcgen [streamPage_spec]
  case vc1 s hs _ s' =>
    rintro - hlen -
    rw [readPage, List.drop_eq_nil_of_le hpos, List.take_nil, List.length_nil] at hlen
    omega
  case vc2 s hs _ s' =>
    subst hs
    exact id

/-- A session whose file stands at its end fails at the first page. -/
theorem streamPages_fails {content : List UInt8} {size n : ℕ} (hsize : 0 < size) (s₀ : State) :
    ⦃fun s => ⌜s = s₀⌝⦄ streamPages io panel content size (n + 1) 0 content.length
    ⦃post⟨fun _ _ => ⌜False⌝, fun _ s => ⌜Adds (Asks ispWritePage) s₀ s⌝⟩⦄ := by
  have hwant : 0 < min (size - 0 * kPageBytes) kPageBytes := by
    simp only [kPageBytes]
    omega
  have hfails := @streamPage_fails _ io panel content 0 content.length _ le_rfl hwant
  mvcgen [streamPages, hfails]
  case vc1 want s hs _ =>
    intro s' h
    exact h.elim
  case vc2 want s hs _ s' =>
    subst hs
    exact id

/-- The pages of what is read from `start` of the file on. -/
theorem streamPages_image {content image : List UInt8} {size start : ℕ}
    (hread : (content.drop start).take size = image) (s₀ : State) :
    ⦃fun s => ⌜s = s₀⌝⦄ streamPages io panel content size (pageCount size) 0 start
    ⦃post⟨fun _ s => ⌜s.nonce = s₀.nonce ∧ Adds (Streamed s₀.nonce image (pageCount size)) s₀ s⌝,
      fun _ s => ⌜Adds (Asks ispWritePage) s₀ s⌝⟩⦄ := by
  have hstream := @streamPages_spec _ io panel content start size (pageCount size) 0 start (by simp)
    s₀.nonce s₀
  rw [hread, Nat.zero_add] at hstream
  rintro s rfl
  exact hstream s ⟨rfl, .of_eq rfl rfl⟩

theorem streamImage_spec {content : List UInt8} {fw : Footer} {pos : ℕ}
    (hfooter : readFooter io true content = .ok (fw, pos)) (hsize : content.length + 255 < 2 ^ 32)
    (s₀ : State) :
    ⦃fun s => ⌜s = s₀⌝⦄
    streamPages io panel content fw.imageSize (pageCount fw.imageSize) 0
      (if io.seeks 1 then 0 else pos)
    ⦃post⟨fun _ s => ⌜s.nonce = s₀.nonce ∧
        Adds (Streamed s₀.nonce (imageOf io content) (pageCount fw.imageSize)) s₀ s⌝,
      fun _ s => ⌜Adds (Asks ispWritePage) s₀ s⌝⟩⦄ := by
  obtain ⟨hsmall, himage, hpos⟩ := readFooter_ok hfooter
  have hmod : content.length % 2 ^ 32 = content.length := Nat.mod_eq_of_lt (by omega)
  rw [hmod] at hsmall himage hpos
  replace himage := himage rfl
  by_cases hrewound : io.seeks 1 = true
  · rw [if_pos hrewound]
    refine streamPages_image ?_ s₀
    rw [imageOf, hrewound, Bool.or_true, if_pos rfl, List.drop_zero, himage]
  · rw [if_neg hrewound, hpos]
    by_cases hsought : io.seeks 0 = true
    · rw [if_pos hsought]
      obtain ⟨n, hn⟩ : ∃ n, pageCount fw.imageSize = n + 1 := by
        refine ⟨pageCount fw.imageSize - 1, ?_⟩
        unfold pageCount
        simp only [kPageBytes, firmwareFooterByteCount] at hsmall himage ⊢
        omega
      rw [hn]
      have hfails := @streamPages_fails _ io panel content fw.imageSize n (by omega)
      mvcgen [hfails]
      case vc1 s hs _ s' => exact False.elim
      case vc2 s hs text s' =>
        subst hs
        exact id
    · rw [if_neg hsought]
      refine streamPages_image ?_ s₀
      rw [imageOf, Bool.eq_false_iff.2 hsought, Bool.eq_false_iff.2 hrewound, Bool.or_false,
        if_neg nofun, himage]
      exact List.take_of_length_le (by rw [List.length_drop])

/-! ### A session -/

/-- The image staged on the panel: `ISP_ENTER`, every page and `ISP_VERIFY_STAGED`, all accepted. -/
def Staged (image : List UInt8) (fw : Footer) (nonce : List UInt8) (h : List Exchange) : Prop :=
  ∃ entered streamed verified, Entered nonce entered ∧
    Streamed nonce image (pageCount fw.imageSize) streamed ∧
    Accepted (verifyStagedMsg nonce fw) 6 verified ∧ h = entered ++ streamed ++ verified

/-- Before an `ISP_COMMIT` the image is staged, and this is all there is. -/
def CommitsStaged (image : List UInt8) (fw : Footer) (h : List Exchange) : Prop :=
  ∀ before e after, h = before ++ e :: after → opcodeOf e.copi = ispCommit →
    ∃ nonce, Staged image fw nonce before ∧ e.copi = commitMsg nonce fw

/-- The session that succeeds. -/
def Installed (image : List UInt8) (fw : Footer) (h : List Exchange) : Prop :=
  ∃ nonce staged committed alive, Staged image fw nonce staged ∧
    Accepted (commitMsg nonce fw) 2 committed ∧ Alive alive ∧ h = staged ++ committed ++ alive

omit [Board] in
theorem Quiet.commitsStaged {image : List UInt8} {fw : Footer} {h : List Exchange}
    (hquiet : Quiet h) : CommitsStaged image fw h := by
  rintro before e after rfl hcommit
  exact absurd hcommit (hquiet e (List.mem_append_right _ List.mem_cons_self))

omit [Board] in
theorem Staged.quiet {image : List UInt8} {fw : Footer} {nonce : List UInt8} {h : List Exchange}
    (hstaged : Staged image fw nonce h) : Quiet h := by
  obtain ⟨entered, streamed, verified, hentered, hstreamed, hverified, rfl⟩ := hstaged
  have hchecked := hverified.asks
  rw [opcodeOf_verifyStagedMsg] at hchecked
  refine Quiet.append _ _ (Quiet.append _ _ ?_ ?_) ?_
  · exact hentered.asks.quiet (by decide)
  · exact hstreamed.asks.quiet (by decide)
  · exact hchecked.quiet (by decide)

omit [Board] in
/-- One `ISP_COMMIT`, after the image is staged. -/
theorem Staged.commitsStaged {image : List UInt8} {fw : Footer} {nonce : List UInt8}
    {staged h : List Exchange} (hstaged : Staged image fw nonce staged)
    (honce : Once (commitMsg nonce fw) h) : CommitsStaged image fw (staged ++ h) := by
  intro before e after heq hcommit
  rcases List.append_eq_append_iff.1 heq with ⟨gap, hbefore, hrest⟩ | ⟨gap, hbefore, hrest⟩
  · obtain ⟨rfl, hcopi⟩ := honce gap e after hrest hcommit
    rw [List.append_nil] at hbefore
    subst hbefore
    exact ⟨nonce, hstaged, hcopi⟩
  · cases gap with
    | nil =>
      obtain ⟨-, hcopi⟩ := honce [] e after hrest.symm hcommit
      rw [List.append_nil] at hbefore
      subst hbefore
      exact ⟨nonce, hstaged, hcopi⟩
    | cons m gap =>
      obtain ⟨rfl, -⟩ := List.cons.inj hrest
      refine absurd hcommit (hstaged.quiet e ?_)
      rw [hbefore]
      exact List.mem_append_right _ List.mem_cons_self

omit [Board] in
theorem Adds.staged {image : List UInt8} {fw : Footer} {s s₁ s₂ s₃ : State}
    (hentered : Adds (Entered s₁.nonce) s s₁)
    (hstreamed : s₂.nonce = s₁.nonce ∧
      Adds (Streamed s₁.nonce image (pageCount fw.imageSize)) s₁ s₂)
    (hverified : s₃.nonce = s₂.nonce ∧ Adds (Accepted (verifyStagedMsg s₂.nonce fw) 6) s₂ s₃) :
    Adds (Staged image fw s₃.nonce) s s₃ := by
  obtain ⟨entered, hentered, hfirst⟩ := hentered
  obtain ⟨hnonce, streamed, hstreamed, hsecond⟩ := hstreamed
  obtain ⟨hsame, verified, hverified, hthird⟩ := hverified
  rw [← hnonce, ← hsame] at hentered hstreamed
  rw [← hsame] at hverified
  refine ⟨_, ⟨entered, streamed, verified, hentered, hstreamed, hverified, rfl⟩, ?_⟩
  rw [hthird, hsecond, hfirst]
  simp only [List.append_assoc]

omit [Board] in
theorem Adds.commitsStaged {image : List UInt8} {fw : Footer} {s s' : State} (h : Adds Quiet s s') :
    Adds (CommitsStaged image fw) s s' := by
  obtain ⟨h, hquiet, hhistory⟩ := h
  exact ⟨h, hquiet.commitsStaged, hhistory⟩

omit [Board] in
/-- An `ISP_COMMIT` after the image is staged, and nothing else that installs. -/
theorem Adds.once {image : List UInt8} {fw : Footer} {s s' s'' : State}
    (hstaged : Adds (Staged image fw s'.nonce) s s')
    (honce : Adds (Once (commitMsg s'.nonce fw)) s' s'') : Adds (CommitsStaged image fw) s s'' := by
  obtain ⟨staged, hstaged, hhistory⟩ := hstaged
  obtain ⟨h, honce, hrest⟩ := honce
  exact ⟨staged ++ h, hstaged.commitsStaged honce, by rw [hrest, hhistory, List.append_assoc]⟩

omit [Board] in
theorem Once.append {msg : List UInt8} {h rest : List Exchange} (honce : Once msg h)
    (hrest : Quiet rest) : Once msg (h ++ rest) := by
  intro before e after heq hcommit
  rcases List.append_eq_append_iff.1 heq with ⟨gap, -, hgap⟩ | ⟨gap, hgap, hafter⟩
  · refine absurd hcommit (hrest e ?_)
    rw [hgap]
    exact List.mem_append_right _ List.mem_cons_self
  · cases gap with
    | nil =>
      refine absurd hcommit (hrest e ?_)
      rw [show rest = e :: after from hafter.symm]
      exact List.mem_cons_self
    | cons m gap =>
      obtain ⟨rfl, -⟩ := List.cons.inj hafter
      exact honce before e gap hgap hcommit

omit [Board] in
theorem Accepted.once {msg : List UInt8} {n : ℕ} {h : List Exchange}
    (haccepted : Accepted msg n h) : Once msg h := by
  obtain ⟨reply, hreplied, -⟩ := haccepted
  rw [← List.append_nil h]
  exact hreplied.once nofun

theorem program_spec {content : List UInt8} {fw : Footer} {pos : ℕ}
    (hfooter : readFooter io true content = .ok (fw, pos)) (hsize : content.length + 255 < 2 ^ 32)
    (s₀ : State) :
    ⦃fun s => ⌜s = s₀⌝⦄ program io panel content fw pos
    ⦃post⟨fun _ s => ⌜Adds (fun h => CommitsStaged (imageOf io content) fw h ∧
          Installed (imageOf io content) fw h) s₀ s⌝,
      fun _ s => ⌜Adds (CommitsStaged (imageOf io content) fw) s₀ s⌝⟩⦄ := by
  have hstream := @streamImage_spec _ io panel content fw pos hfooter hsize
  mvcgen [program, enter_spec, hstream, verifyStaged_spec, commit_spec, awaitReboot_spec]
  case vc1 s hs _ s₁ hentered _ s₂ hstreamed _ s₃ hverified _ s₄ hcommitted _ s₅ halive =>
    subst hs
    obtain ⟨staged, hstaged, hhistory⟩ := hentered.staged hstreamed hverified
    obtain ⟨committed, hcommitted, hcommit⟩ := hcommitted
    obtain ⟨alive, halive, hrest⟩ := halive
    refine ⟨staged ++ committed ++ alive,
      ⟨?_, s₃.nonce, _, _, _, hstaged, hcommitted, halive, rfl⟩, ?_⟩
    · rw [List.append_assoc]
      exact hstaged.commitsStaged (hcommitted.once.append halive.quiet)
    · rw [hrest, hcommit, hhistory]
      simp only [List.append_assoc]
  case vc2 s hs _ s₁ hentered _ s₂ hstreamed _ s₃ hverified _ s₄ hcommitted _ s₅ =>
    intro hquiet
    subst hs
    refine (hentered.staged hstreamed hverified).once (hcommitted.append ?_ hquiet)
    exact fun a b ha hb => ha.once.append hb
  case vc3 s hs _ s₁ hentered _ s₂ hstreamed _ s₃ hverified _ s₄ =>
    intro honce
    subst hs
    exact (hentered.staged hstreamed hverified).once honce
  case vc4 s hs _ s₁ hentered _ s₂ hstreamed _ s₃ =>
    intro hasks
    subst hs
    refine Adds.commitsStaged (hentered.append ?_ (hstreamed.2.append (R := Quiet) ?_ hasks))
    · exact fun a b ha hb => (ha.asks.quiet (by decide)).append _ _ hb
    · exact fun a b ha hb => (ha.asks.quiet (by decide)).append _ _ (hb.quiet (by decide))
  case vc5 s hs _ s₁ hentered _ s₂ =>
    intro hasks
    subst hs
    refine Adds.commitsStaged (hentered.append ?_ hasks)
    exact fun a b ha hb => (ha.asks.quiet (by decide)).append _ _ (hb.quiet (by decide))
  case vc6 s hs _ s₁ =>
    intro hasks
    subst hs
    exact Adds.commitsStaged (hasks.mono fun h ha => ha.quiet (by decide))

/-- A check of the firmware that runs: `ISP_ENTER`, and `ISP_VERIFY_CRC` with a reply. -/
def Checked (fw : Footer) (ok : Bool) (h : List Exchange) : Prop :=
  ∃ nonce entered asked reply, Entered nonce entered ∧
    Replied (verifyCrcMsg nonce fw) 6 reply asked ∧ ok = decide (reply.getD 0 0 = 0) ∧
    h = entered ++ asked

/-- Every exchange is a read, an `ISP_ENTER` or an `ISP_VERIFY_CRC`. -/
def OnlyChecks (h : List Exchange) : Prop :=
  ∀ e ∈ h, opcodeOf e.copi = 0 ∨ opcodeOf e.copi = ispEnter ∨ opcodeOf e.copi = ispVerifyCrc

omit [Board] in
theorem OnlyChecks.append (a b : List Exchange) (ha : Asks ispEnter a) (hb : Asks ispVerifyCrc b) :
    OnlyChecks (a ++ b) := by
  intro e he
  rcases List.mem_append.1 he with he | he
  · exact (ha e he).imp_right .inl
  · exact (hb e he).imp_right .inr

omit [Board] in
theorem Asks.onlyChecks (h : List Exchange) (hasks : Asks ispEnter h) : OnlyChecks h :=
  fun e he => (hasks e he).imp_right .inl

omit [Board] in
theorem Asked.onlyChecks {fw : Footer} {nonce : List UInt8} {ok : Bool} {s s' s'' : State}
    (hentered : Adds (Entered nonce) s s') (h : Asked (verifyCrcMsg nonce fw) 6 ok s' s'') :
    Adds OnlyChecks s s'' := by
  have hasks := h.asks
  rw [opcodeOf_verifyCrcMsg] at hasks
  exact hentered.append (fun a b ha hb => OnlyChecks.append a b ha.asks hb) hasks

omit [Board] in
theorem Asked.checked {fw : Footer} {nonce : List UInt8} {s s' s'' : State}
    (hentered : Adds (Entered nonce) s s') (h : Asked (verifyCrcMsg nonce fw) 6 true s' s'') :
    Adds (Checked fw (decide (s''.status = 0))) s s'' := by
  obtain ⟨asked, hreplied, hstatus, hhistory⟩ := h.replied rfl
  refine hentered.append (fun a b ha hb => ?_) ⟨asked, hreplied, hhistory⟩
  exact ⟨nonce, a, b, _, ha, hb, by rw [hstatus], rfl⟩

theorem verify_spec (fw : Footer) (s₀ : State) :
    ⦃fun s => ⌜s = s₀⌝⦄ verify io panel fw
    ⦃post⟨fun out s => ⌜Adds OnlyChecks s₀ s ∧ Adds (Checked fw out.1) s₀ s⌝,
      fun _ s => ⌜Adds OnlyChecks s₀ s⌝⟩⦄ := by
  mvcgen [verify, enterReply_spec, keepNonce, sendCmd_spec, pollResp_spec]
  case vc2 s hs ok s₁ hasked _ s₂ hreplied t sent s₃ hsent _ s₄ hreq got s₅ hheard _ s₆ hgot =>
    subst hs
    obtain ⟨rfl, hreplied⟩ := hreplied
    obtain ⟨rfl, hstatus⟩ := Bool.and_eq_true_iff.1 hreplied
    obtain ⟨rfl, rfl⟩ := hreq
    obtain ⟨rfl, rfl⟩ := hgot
    have hentered : Adds (Entered t.2.nonce) s t.2 := hasked.entered (of_decide_eq_true hstatus)
    have hchecked := hsent.heard hheard
    exact ⟨hchecked.onlyChecks hentered, hchecked.checked hentered⟩
  case vc3 s hs ok s₁ hasked _ s₂ hreplied t sent s₃ hsent _ s₄ hreq got s₅ hheard _ s₆ =>
    rintro rfl -
    subst hs
    obtain ⟨rfl, hreplied⟩ := hreplied
    obtain ⟨rfl, hstatus⟩ := Bool.and_eq_true_iff.1 hreplied
    obtain ⟨rfl, rfl⟩ := hreq
    have hentered : Adds (Entered t.2.nonce) s t.2 := hasked.entered (of_decide_eq_true hstatus)
    exact (hsent.heard hheard).onlyChecks hentered
  case vc4 s hs ok s₁ hasked _ s₂ hreplied t sent s₃ hsent _ s₄ =>
    rintro rfl rfl
    subst hs
    obtain ⟨rfl, hreplied⟩ := hreplied
    exact (hasked.asks.append Asks.append (.of_eq nofun (hsent.failed rfl))).mono Asks.onlyChecks
  case vc5 s hs ok s₁ hasked _ s₂ =>
    rintro rfl -
    subst hs
    exact hasked.asks.mono Asks.onlyChecks
  case vc6 s hs _ s₁ =>
    intro hasks
    subst hs
    exact hasks.mono Asks.onlyChecks

/-! ### The two calls -/

/-- What a session ends in, with the state then. -/
def Ends {α : Type} (Q : α → State → Prop) (R : List UInt8 → State → Prop) :
    Except (List UInt8) α → State → Prop
  | .ok a => Q a
  | .error e => R e

omit [Board] in
theorem ends_of_triple {α : Type} {m : Session α} {Q : α → State → Prop}
    {R : List UInt8 → State → Prop} (s : State)
    (h : ⦃fun t => ⌜t = s⌝⦄ m ⦃post⟨fun a t => ⌜Q a t⌝, fun e t => ⌜R e t⌝⟩⦄) :
    Ends Q R (m.run s).1 (m.run s).2 := by
  refine StateM.of_wp_run_eq (rfl : StateT.run (ExceptT.run m) s = _) (fun p => Ends Q R p.1 p.2) ?_
  intro _
  have hpost := h s rfl
  simp only [WP.wp, PredTrans.apply_pushExcept, PredTrans.apply_pushArg, PredTrans.apply_Pure_pure]
    at hpost ⊢

  change Ends Q R (StateT.run (ExceptT.run m) s).run.1 (StateT.run (ExceptT.run m) s).run.2
  generalize (StateT.run (ExceptT.run m) s).run = p at hpost ⊢
  obtain ⟨out, t⟩ := p
  cases out with
  | ok a => exact hpost
  | error e => exact hpost

omit [Board] in
theorem readFooter_image {content : List UInt8} {fw : Footer} {pos : ℕ}
    (hfooter : readFooter io true content = .ok (fw, pos)) (hsize : content.length + 255 < 2 ^ 32) :
    fw.imageSize = (imageOf io content).length ∧
      Paged (imageOf io content) (pageCount fw.imageSize) := by
  obtain ⟨-, himage, -⟩ := readFooter_ok hfooter
  have hlen : fw.imageSize = (imageOf io content).length := by
    rw [himage rfl, length_imageOf, Nat.mod_eq_of_lt (by omega)]
  refine ⟨hlen, ?_⟩
  rw [hlen]
  exact paged (by rw [length_imageOf]; omega)

/-- **A panel is told to install an image only when all of it is staged there, and checked.**  In a
session of `programPanel` an `ISP_COMMIT` comes after `ISP_ENTER`, the pages of the file but for its
footer, each of them accepted, and `ISP_VERIFY_STAGED`; the session succeeds if the commit is
accepted and the panel then confirms a probe.  The clock of the bus is as it was. -/
theorem programPanel_installs (content : List UInt8) (msgLen : ℕ) (s : State)
    (hclock : 1 ≤ s.mhz ∧ s.mhz ≤ 30) (hsize : content.length + 255 < 2 ^ 32) :
    let out := programPanel io panel content msgLen s
    out.2.mhz = s.mhz ∧ ∃ h, out.2.history = s.history ++ h ∧
      ((h = [] ∧ out.1.ok = false) ∨ ∃ fw pos, readFooter io true content = .ok (fw, pos) ∧
        fw.imageSize = (imageOf io content).length ∧
        Paged (imageOf io content) (pageCount fw.imageSize) ∧
        CommitsStaged (imageOf io content) fw h ∧
        (out.1.ok = true → Installed (imageOf io content) fw h)) := by
  have hrestored : max 1 (min s.mhz 30) = s.mhz := by omega
  unfold programPanel
  cases hfooter : readFooter io true content with
  | error text => exact ⟨rfl, [], (List.append_nil _).symm, .inl ⟨rfl, rfl⟩⟩
  | ok found =>
    obtain ⟨fw, pos⟩ := found
    have himage := readFooter_image hfooter hsize
    have hends := ends_of_triple _ (@program_spec _ io panel content fw pos hfooter hsize
      (setSpiClockMhz kIspClockBMhz { s with status := 0xFF }))
    unfold keepingClock
    dsimp only
    generalize (program io panel content fw pos).run
      (setSpiClockMhz kIspClockBMhz { s with status := 0xFF }) = out at hends ⊢
    obtain ⟨ended, s'⟩ := out
    cases ended with
    | ok text =>
      obtain ⟨h, ⟨hstaged, hinstalled⟩, hhistory⟩ := hends
      exact ⟨hrestored, h, hhistory,
        .inr ⟨fw, pos, rfl, himage.1, himage.2, hstaged, fun _ => hinstalled⟩⟩
    | error text =>
      obtain ⟨h, hstaged, hhistory⟩ := hends
      exact ⟨hrestored, h, hhistory, .inr ⟨fw, pos, rfl, himage.1, himage.2, hstaged, nofun⟩⟩

end

section

local instance sessionBoard : Board := ⟨.hw10_10⟩

/-- A reply of `n` bytes with status 0. -/
def accepting (n : ℕ) : List UInt8 :=
  let body := List.replicate (n - 1) 0
  body ++ [crc8Autosar body]

/-- A panel that accepts what it is sent, where these are the replies it gives. -/
def accepts (replies : List (List UInt8)) : IspIo where
  opened := true
  seeks _ := true
  reads _ := 512
  line k i := (replies.getD k []).getD i 0
  ms _ := 0
  start _ := 0
  polls _ := [0]

/-- Firmware of three bytes. -/
def smallFirmware : List UInt8 :=
  [1, 2, 3] ++ ascii "G6PANFW" ++ List.replicate 17 0 ++ [0, 0, 0, 0, 3, 0, 0, 0]

def idleSession : State := ⟨8, [], [], 0, []⟩

/-- The replies to `ISP_ENTER`, a page, `ISP_VERIFY_STAGED`, `ISP_COMMIT` and two probes. -/
def programming : IspIo :=
  accepts [[], accepting 19, [], accepting 2, [], accepting 6, [], accepting 2, [], confirmation]

set_option maxRecDepth 100000 in
/-- A page is installed. -/
theorem programPanel_installs_page :
    let out := programPanel programming 0 smallFirmware 160 idleSession
    out.1.ok = true ∧ out.2.mhz = 8 ∧ ∃ h, out.2.history = [] ++ h ∧
      ((h = [] ∧ out.1.ok = false) ∨ ∃ fw pos,
        readFooter programming true smallFirmware = .ok (fw, pos) ∧
        fw.imageSize = (imageOf programming smallFirmware).length ∧
        Paged (imageOf programming smallFirmware) (pageCount fw.imageSize) ∧
        CommitsStaged (imageOf programming smallFirmware) fw h ∧
        (out.1.ok = true → Installed (imageOf programming smallFirmware) fw h)) :=
  ⟨by decide +kernel, programPanel_installs smallFirmware 160 idleSession (by decide) (by decide)⟩

end

section

variable [Board]

/-- **A check of the firmware does not change it.**  A session of `verifyPanel` reads, enters and
asks for the CRC of the application that runs; it answers yes only where the panel's reply to this
carries status 0.  The clock of the bus is as it was. -/
theorem verifyPanel_checks (io : IspIo) (panel : ℕ) (content : List UInt8) (msgLen : ℕ) (s : State)
    (hclock : 1 ≤ s.mhz ∧ s.mhz ≤ 30) :
    let out := verifyPanel io panel content msgLen s
    out.2.mhz = s.mhz ∧ ∃ h, out.2.history = s.history ++ h ∧ OnlyChecks h ∧
      (out.1.ok = true → ∃ fw pos, readFooter io false content = .ok (fw, pos) ∧
        Checked fw true h) := by
  have hrestored : max 1 (min s.mhz 30) = s.mhz := by omega
  unfold verifyPanel
  cases hfooter : readFooter io false content with
  | error text => exact ⟨rfl, [], (List.append_nil _).symm, nofun, nofun⟩
  | ok found =>
    obtain ⟨fw, pos⟩ := found
    have hends := ends_of_triple _ (@verify_spec _ io panel fw
      (setSpiClockMhz kIspClockBMhz { s with status := 0xFF }))
    unfold keepingClock
    dsimp only
    generalize (verify io panel fw).run
      (setSpiClockMhz kIspClockBMhz { s with status := 0xFF }) = out at hends ⊢
    obtain ⟨ended, s'⟩ := out
    cases ended with
    | ok answer =>
      obtain ⟨ok, text⟩ := answer
      obtain ⟨⟨h, hchecks, hhistory⟩, h', hchecked, hsame⟩ := hends
      obtain rfl : h = h' := List.append_cancel_left (hhistory.symm.trans hsame)
      refine ⟨hrestored, h, hhistory, hchecks, fun hok => ⟨fw, pos, rfl, ?_⟩⟩
      obtain rfl : ok = true := hok
      exact hchecked
    | error text =>
      obtain ⟨h, hchecks, hhistory⟩ := hends
      exact ⟨hrestored, h, hhistory, hchecks, nofun⟩

end

section

local instance checkingBoard : Board := ⟨.hw10_10⟩

/-- The replies to `ISP_ENTER` and `ISP_VERIFY_CRC`. -/
def checking : IspIo := accepts [[], accepting 19, [], accepting 6]

set_option maxRecDepth 100000 in
/-- A panel that runs the firmware says so. -/
theorem verifyPanel_checks_matching :
    let out := verifyPanel checking 0 smallFirmware 160 idleSession
    out.1.ok = true ∧ out.2.mhz = 8 ∧ ∃ h, out.2.history = [] ++ h ∧ OnlyChecks h ∧
      (out.1.ok = true → ∃ fw pos, readFooter checking false smallFirmware = .ok (fw, pos) ∧
        Checked fw true h) :=
  ⟨by decide +kernel, verifyPanel_checks checking 0 smallFirmware 160 idleSession (by decide)⟩

end

end Isp
end Panel
end G6Arena
