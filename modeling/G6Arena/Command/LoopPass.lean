/-
# Replies and the loop

`sendResponse` writes over a reply that is still queued.  A pass of `loop()` queues one reply on
the USB link at most, and ends with `flushResponses`, which keeps the reply for want of room.  As
long as every reply finds room there, none is lost (`replies_flushed_between`).
-/

import G6Arena.Command.Orderly

namespace G6Arena
namespace Command

open ByteMem Link Machine

namespace Controller

/-- `flushResponses` finds room for the reply that is queued. -/
def RoomForReply (c : Controller) (i : Action × Env) : Prop :=
  match i.1 with
  | .flushResponses .serial => (c.source .serial).resp.length ≤ (i.2.flush .serial).room
  | _ => True

instance (c : Controller) : (i : Action × Env) → Decidable (RoomForReply c i)
  | (.flushResponses .serial, _) => inferInstanceAs (Decidable (_ ≤ _))
  | (.flushResponses .network, _) | (.arrive .., _) | (.disconnect, _) | (.service .., _)
  | (.processCommand _, _) | (.serviceDisplay, _) | (.serviceTelemetry, _) | (.serviceDownload, _)
  | (.serviceUpload, _) | (.serviceArchive, _) | (.serviceDisconnects, _)
  | (.serviceLateBootBlank, _) | (.refreshIsr, _) => isTrue trivial

/-! ### The invariant -/

/-- No reply of a source was lost, and one is queued if its history says so. -/
structure Kept (s : Source) : Prop where
  between : FlushedBetween false s.events = true
  queued : decide (s.resp ≠ []) = queuedAfter false s.events

/-- Events that queue no reply over another. -/
theorem Kept.append {s s' : Source} {es : List SourceEvent} (h : Kept s)
    (hevents : s'.events = s.events ++ es)
    (hbetween : FlushedBetween (decide (s.resp ≠ [])) es = true)
    (hqueued : decide (s'.resp ≠ []) = queuedAfter (decide (s.resp ≠ [])) es) : Kept s' := by
  constructor
  · rw [hevents, flushedBetween_append, h.between, ← h.queued, hbetween]
    rfl
  · rw [hevents, queuedAfter_append, ← h.queued, hqueued]

theorem Kept.heard {s s' : Source} {n : ℕ} (h : Kept s)
    (hheard : Heard (List.replicate n .flushed) s s') : Kept s' :=
  h.append hheard.events (flushedBetween_flushed ..) hheard.queued

/-- Before the `k`-th call of `loop()`: no reply is queued before a command is handled, and
none before `serviceUpload` on a source with an upload. -/
structure Stage (k : ℕ) (c : Controller) : Prop where
  command : k ≤ 3 → (c.source .serial).resp = []
  upload : k ≤ 7 → (c.source .serial).resp ≠ [] → c.transfers.ul.any (·.source = .serial) = false

structure InLoop (k : ℕ) (c : Controller) : Prop where
  kept : ∀ t, Kept (c.source t)
  orderly : c.halted = false → Orderly c
  network : (c.source .network).connected = false
  stage : c.halted = false → Stage k c

variable {c c' : Controller} {k : ℕ}

/-- Nothing is queued by a flush. -/
theorem resp_of_flushed {s s' : Source} {n : ℕ} (hheard : Heard (List.replicate n .flushed) s s')
    (h : s.resp = []) : s'.resp = [] := by
  have hfalse (n : ℕ) : queuedAfter false (List.replicate n .flushed) = false := by
    induction n with
    | zero => rfl
    | succ n ih => exact ih
  have hqueued := hheard.queued
  rw [h, decide_eq_false (not_not.2 rfl), hfalse] at hqueued
  exact not_not.1 (of_decide_eq_false hqueued)

/-- A step that writes out replies at most. -/
theorem InLoop.quiet {k' : ℕ} (h : InLoop k c) (hk : k ≤ k')
    (horderly : c'.halted = false → Orderly c')
    (hheard : ∀ t, ∃ n, Heard (List.replicate n .flushed) (c.source t) (c'.source t))
    (hhalted : c'.halted = c.halted)
    (huploads : c'.transfers.ul.map Upload.source = c.transfers.ul.map Upload.source) :
    InLoop k' c' := by
  obtain ⟨n, hn⟩ := hheard .serial
  refine ⟨fun t => ?_, horderly, ?_, fun hrun => ?_⟩
  · obtain ⟨m, hm⟩ := hheard t
    exact (h.kept t).heard hm
  · obtain ⟨m, hm⟩ := hheard .network
    rw [hm.connected, h.network]
  · have hstage := h.stage (hhalted ▸ hrun)
    have hany (o : Option Upload) : o.any (·.source = .serial)
        = (o.map Upload.source).any (· = .serial) := by
      cases o <;> rfl
    refine ⟨fun hle => resp_of_flushed hn (hstage.command (by omega)), fun hle hresp => ?_⟩
    rw [hany, huploads, ← hany]
    exact hstage.upload (by omega) fun hnil => hresp (resp_of_flushed hn hnil)

theorem InLoop.quietAt {k' : ℕ} (h : InLoop k c) (hk : k ≤ k')
    (horderly : c'.halted = false → Orderly c') {t : Transport} {n : ℕ}
    (hheard : HeardAt t (List.replicate n .flushed) c c') (hhalted : c'.halted = c.halted)
    (huploads : c'.transfers.ul.map Upload.source = c.transfers.ul.map Upload.source) :
    InLoop k' c' := by
  refine h.quiet hk horderly (fun u => ?_) hhalted huploads
  by_cases hu : u = t
  · rw [hu]
    exact ⟨n, hheard.self⟩
  · rw [hheard.others u hu]
    exact ⟨0, .refl _⟩

/-! ### Steps -/

section

variable [Board] {env : Env}

omit [Board] in
theorem network_idle (h : InLoop k c) (hrun : c.halted = false) :
    (c.source .network).rx.cmdReady = false ∧ c.transfers.owns .network = false := by
  have hnot : ¬((c.source .network).rx.cmdReady = true ∨ c.transfers.owns .network = true) := by
    intro hcase
    have hlinked := (h.orderly hrun).linked .network hcase
    unfold Source.isConnected at hlinked
    rw [h.network] at hlinked
    cases hlinked
  rw [not_or, Bool.not_eq_true, Bool.not_eq_true] at hnot
  exact hnot

/-- What happens outside. -/
theorem InLoop.external {i : Action × Env} (h : InLoop k c) (hi : external i.1 = true)
    (hrun : c.halted = false) : InLoop k (c.step i) := by
  obtain ⟨action, env⟩ := i
  have horderly : (c.step (action, env)).halted = false → Orderly (c.step (action, env)) := by
    refine step_orderly h.orderly ?_
    rintro rfl
    cases hi
  have hstep : c.step (action, env) = c.act env action := by
    unfold Controller.step
    rw [if_neg (by rw [hrun]; decide)]
  rw [hstep] at horderly ⊢
  cases action with
  | arrive t bytes =>
    exact h.quietAt (n := 0) (Nat.le_refl k) horderly (arrive_heardAt t bytes c) rfl rfl
  | refreshIsr => exact h.quietAt (n := 0) (Nat.le_refl k) horderly (.of_source .serial rfl) rfl rfl
  | _ => cases hi

/-- The USB link is polled. -/
theorem InLoop.service (h : InLoop 1 c) (hrun : c.halted = false) (accepted : Bool)
    (horderly : Orderly (c.onSource .serial (·.service .serial env.cap accepted))) :
    InLoop 2 (c.onSource .serial (·.service .serial env.cap accepted)) := by
  have hpolled := service_polled .serial env.cap accepted (s := c.source .serial) fun hnetwork => by
    cases hnetwork
  have hself := onSource_self c .serial (·.service .serial env.cap accepted)
  have hresp : ((c.onSource .serial (·.service .serial env.cap accepted)).source .serial).resp
      = (c.source .serial).resp := by
    rw [hself]
    exact hpolled.resp
  refine ⟨fun t => ?_, fun _ => horderly, ?_, fun _ => ⟨fun _ => ?_, fun _ hne => ?_⟩⟩
  · cases t with
    | serial =>
      have hevents : ∃ es, (es = [] ∨ es = [.parsed]) ∧
          ((c.source .serial).service .serial env.cap accepted).events
            = (c.source .serial).events ++ es := by
        cases hready : (c.source .serial).rx.cmdReady with
        | true => exact ⟨[], .inl rfl, by rw [(hpolled.kept hready).1, List.append_nil]⟩
        | false =>
          refine ⟨_, ?_, (hpolled.polled hready).2.1⟩
          split_ifs
          · exact .inr rfl
          · exact .inl rfl
      obtain ⟨es, hes, hevents⟩ := hevents
      refine (h.kept .serial).append (show _ = _ ++ es by rw [hself, hevents]) ?_ ?_
      · rcases hes with rfl | rfl <;> rfl
      · rw [hresp]
        rcases hes with rfl | rfl <;> rfl
    | network =>
      rw [onSource_of_ne _ _ _ (by decide)]
      exact h.kept .network
  · rw [onSource_of_ne _ _ _ (by decide)]
    exact h.network
  · rw [hresp]
    exact (h.stage hrun).command (by omega)
  · rw [hresp] at hne
    exact absurd ((h.stage hrun).command (by omega)) hne

/-- The command of the USB link is handled: no reply is queued before it. -/
theorem InLoop.processCommand (h : InLoop 3 c) (hrun : c.halted = false)
    (horderly : (c.processCommand env .serial).halted = false → Orderly (c.processCommand env .serial)) :
    InLoop 4 (c.processCommand env .serial) := by
  have hresp := (h.stage hrun).command (Nat.le_refl 3)
  rcases processCommand_cases env .serial c with ⟨-, hidle⟩ | ⟨hready, howns, -⟩
  · rw [hidle]
    exact h.quietAt (n := 0) (by omega) h.orderly (.of_source .serial rfl) rfl rfl
  have hprocesses := processCommand_processes env hrun hready howns ((h.orderly hrun).sound .serial)
  have hnone : c.transfers.ul.any (·.source = .serial) = false := by
    unfold Transfers.owns at howns
    rw [Bool.or_eq_false_iff, Bool.or_eq_false_iff] at howns
    exact howns.1.2
  have hempty : decide ((c.source .serial).resp ≠ []) = false := by
    rw [hresp]
    rfl
  generalize c.processCommand env .serial = c' at horderly hprocesses
  cases hprocesses with
  | served reply events ready queued connected others halted uploads =>
    refine ⟨fun t => ?_, horderly, ?_, fun _ => ⟨fun hle => by omega, fun _ _ => ?_⟩⟩
    · cases t with
      | serial =>
        refine (h.kept .serial).append events ?_ ?_
        · rw [hempty]
          rfl
        · exact decide_eq_true queued
      | network =>
        rw [others .network (by decide)]
        exact h.kept .network
    · rw [others .network (by decide), h.network]
    · have hany (o : Option Upload) : o.any (·.source = .serial)
          = (o.map Upload.source).any (· = .serial) := by
        cases o <;> rfl
      rw [hany, uploads, ← hany, hnone]
  | handed events rx connected resp others halted start =>
    refine ⟨fun t => ?_, horderly, ?_, fun _ => ⟨fun hle => by omega, fun _ hne => ?_⟩⟩
    · cases t with
      | serial =>
        refine (h.kept .serial).append events rfl ?_
        rw [resp]
        rfl
      | network =>
        rw [others .network (by decide)]
        exact h.kept .network
    · rw [others .network (by decide), h.network]
    · rw [resp] at hne
      exact absurd hresp hne
  | reset reply n events queued others halted =>
    refine ⟨fun t => ?_, horderly, ?_, fun hrun' => ?_⟩
    · cases t with
      | serial =>
        refine (h.kept .serial).append events ?_ queued
        rw [hempty, List.cons_append, List.cons_append]
        change (!false && FlushedBetween true (List.replicate n .flushed)) = true
        rw [flushedBetween_flushed]
        rfl
      | network =>
        obtain ⟨m, hm⟩ := others .network (by decide)
        exact (h.kept .network).heard hm
    · obtain ⟨m, hm⟩ := others .network (by decide)
      rw [hm.connected, h.network]
    · rw [halted] at hrun'
      cases hrun'

/-- An upload that ends has no reply before its own. -/
theorem InLoop.serviceUpload (h : InLoop 7 c) (hrun : c.halted = false)
    (horderly : Orderly (c.serviceUpload env)) : InLoop 8 (c.serviceUpload env) := by
  have hhalted := (serviceUpload_serves env c).halted
  cases serviceUpload_uploads env c with
  | goes t heard uploads =>
    exact h.quietAt (n := 0) (by omega) (fun _ => horderly) heard hhalted uploads
  | ends ul reply active events ready queued connected others done =>
    have hserial : ul.source = .serial := by
      by_contra hne
      have hnetwork : ul.source = .network := by
        cases hsource : ul.source with
        | serial => exact absurd hsource hne
        | network => rfl
      exact not_owns_upload (network_idle h hrun).2 active hnetwork
    rw [hserial] at events ready queued connected others
    have hempty : (c.source .serial).resp = [] := by
      by_contra hne
      have hany := (h.stage hrun).upload (Nat.le_refl 7) hne
      rw [active, Option.any_some, decide_eq_true hserial] at hany
      cases hany
    refine ⟨fun t => ?_, fun _ => horderly, ?_, fun _ => ⟨fun hle => by omega, fun hle => by omega⟩⟩
    · cases t with
      | serial =>
        refine (h.kept .serial).append events ?_ (decide_eq_true queued)
        rw [hempty]
        rfl
      | network =>
        rw [others .network (by decide)]
        exact h.kept .network
    · rw [others .network (by decide), h.network]

omit [Board] in
/-- The reply that is queued is written out. -/
theorem InLoop.flush (h : InLoop 10 c)
    (hroom : (c.source .serial).resp.length ≤ (env.flush .serial).room)
    (horderly : c.halted = false →
      Orderly (c.onSource .serial (·.flushResponses .serial (env.flush .serial)))) :
    InLoop 0 (c.onSource .serial (·.flushResponses .serial (env.flush .serial))) := by
  obtain ⟨n, hn⟩ := flushResponses_heard .serial (env.flush .serial) (c.source .serial)
  have hat : InLoop 10 (c.onSource .serial (·.flushResponses .serial (env.flush .serial))) :=
    h.quietAt (Nat.le_refl 10) horderly (.onSource hn) rfl rfl
  have hresp : ((c.onSource .serial
      (·.flushResponses .serial (env.flush .serial))).source .serial).resp = [] := by
    rw [onSource_self]
    unfold Source.flushResponses
    dsimp only
    split_ifs with hnil hshort
    · exact hnil
    · omega
    · rfl
  exact ⟨hat.kept, hat.orderly, hat.network, fun _ => ⟨fun _ => hresp, fun _ hne => absurd hresp hne⟩⟩

/-- **One call of `loop()`.** -/
theorem InLoop.call {i : Action × Env} (h : InLoop k c) (hrun : c.halted = false)
    (hi : loopActions[k]? = some i.1) (hroom : RoomForReply c i) :
    InLoop ((k + 1) % loopActions.length) (c.step i) := by
  obtain ⟨action, env⟩ := i
  have horderly : (c.step (action, env)).halted = false → Orderly (c.step (action, env)) := by
    refine step_orderly h.orderly ?_
    rintro rfl
    have hmem : Action.disconnect ∈ loopActions := List.mem_of_getElem? hi
    exact absurd hmem (by decide)
  have hstep : c.step (action, env) = c.act env action := by
    unfold Controller.step
    rw [if_neg (by rw [hrun]; decide)]
  rw [hstep] at horderly ⊢
  have hk : k < 11 := (List.getElem?_eq_some_iff.1 hi).1
  have hdisplay {k k' : ℕ} (h : InLoop k c) (hle : k ≤ k') {c' : Controller}
      (horderly : c'.halted = false → Orderly c') (hsource : c'.source = c.source)
      (hhalted : c'.halted = c.halted) (htransfers : c'.transfers = c.transfers) : InLoop k' c' :=
    h.quietAt (n := 0) hle horderly (.of_source .serial hsource) hhalted (by rw [htransfers])
  match k, hk with
  | 0, _ =>
    cases hi
    change InLoop 1 (c.serviceDisconnects env)
    rw [(h.orderly hrun).serviceDisconnects]
    exact hdisplay h (by decide) h.orderly rfl rfl rfl
  | 1, _ =>
    cases hi
    exact h.service hrun false (horderly hrun)
  | 2, _ =>
    cases hi
    change InLoop 3 (c.processCommand env .network)
    have hidle : c.processCommand env .network = c := by
      unfold Controller.processCommand
      refine if_pos ?_
      rw [show (c.source .network).hasCommand = false from (network_idle h hrun).1]
      rfl
    rw [hidle]
    exact hdisplay h (by decide) h.orderly rfl rfl rfl
  | 3, _ =>
    cases hi
    exact h.processCommand hrun horderly
  | 4, _ =>
    cases hi
    exact hdisplay h (by decide) horderly rfl rfl rfl
  | 5, _ =>
    cases hi
    exact hdisplay h (by decide) horderly rfl rfl rfl
  | 6, _ =>
    cases hi
    obtain ⟨t, n, hheard, hul⟩ := serviceDownload_heardAt env c
    exact h.quietAt (by decide) horderly hheard (serviceDownload_serves env c).halted (congrArg _ hul)
  | 7, _ =>
    cases hi
    exact h.serviceUpload hrun (horderly ((serviceUpload_serves env c).halted.trans hrun))
  | 8, _ =>
    cases hi
    obtain ⟨t, n, hheard, hul⟩ := serviceArchive_heardAt env c
    exact h.quietAt (by decide) horderly hheard (serviceArchive_serves env c).halted (congrArg _ hul)
  | 9, _ =>
    cases hi
    exact hdisplay h (by decide) horderly rfl rfl rfl
  | 10, _ =>
    cases hi
    exact h.flush hroom horderly

/-! ### Runs -/

theorem InLoop.run {is : List (Action × Env)} (h : InLoop k c)
    (hturn : InTurn k (is.map Prod.fst) = true) (hroom : Along Controller.step RoomForReply c is) :
    ∃ k', InLoop k' (Machine.run Controller.step c is) := by
  induction is generalizing k c with
  | nil => exact ⟨k, h⟩
  | cons i is ih =>
    rw [List.map_cons] at hturn
    unfold InTurn at hturn
    by_cases hrun : c.halted = false
    · split_ifs at hturn with hexternal
      · exact ih (h.external hexternal hrun) hturn hroom.2
      · rw [Bool.and_eq_true, decide_eq_true_eq] at hturn
        exact ih (h.call hrun hturn.1 hroom.1) hturn.2 hroom.2
    · -- after a reset nothing follows
      have hstep : c.step i = c := by
        unfold Controller.step
        rw [if_pos (by simpa using hrun)]
      rw [Machine.run_cons]
      have hroom' := hroom.2
      rw [hstep] at hroom' ⊢
      have hany (k : ℕ) : InLoop k c :=
        ⟨h.kept, h.orderly, h.network, fun h' => absurd h' hrun⟩
      split_ifs at hturn with hexternal
      · exact ih h hturn hroom'
      · rw [Bool.and_eq_true] at hturn
        exact ih (hany _) hturn.2 hroom'

/-- **No reply is queued over another** in a run of `loop()`, with any arrivals in between, as long
as `flushResponses` finds room for the reply that is queued. -/
theorem replies_flushed_between {boot : Boot} {env₀ : Env} {is : List (Action × Env)}
    (hturn : InTurn 0 (is.map Prod.fst) = true)
    (hroom : Along Controller.step RoomForReply (setup boot env₀) is) (t : Transport) :
    FlushedBetween false
      ((Machine.run Controller.step (setup boot env₀) is).source t).events = true := by
  have hstart : InLoop 0 (setup boot env₀) := by
    refine ⟨fun t => ⟨rfl, rfl⟩, fun _ => start_orderly boot env₀, rfl, fun _ => ⟨fun _ => rfl, ?_⟩⟩
    exact fun _ _ => rfl
  obtain ⟨k, hk⟩ := hstart.run hturn hroom
  exact (hk.kept t).between

end

end Controller

/-! ### Two commands at once -/

section

local instance loopBoard : Board := ⟨.hw10_10⟩

/-- Two commands that have arrived together, and two passes of `loop()` with room for so many
bytes at their ends. -/
def twoCommands (room : ℕ) : List (Action × Env) :=
  let env : Env := { Env.calm Sd.goodIo with flush := fun _ => ⟨room, 0, true, room⟩ }
  (.arrive .serial [1, 0x17, 1, 0x17], env)
    :: (Controller.loopActions ++ Controller.loopActions).map (·, env)

theorem replies_flushed_with_room :
    FlushedBetween false ((Machine.run Controller.step
      (setup (.cold Sd.sampleCard) (.calm Sd.goodIo)) (twoCommands 5)).source .serial).events = true :=
  Controller.replies_flushed_between (by decide) (by decide +kernel) .serial

/-- **Without room the second reply is queued over the first**, which is never written. -/
theorem reply_lost_without_room :
    let s := (Machine.run Controller.step
      (setup (.cold Sd.sampleCard) (.calm Sd.goodIo)) (twoCommands 4)).source .serial
    Controller.InTurn 0 ((twoCommands 4).map Prod.fst) = true ∧
      FlushedBetween false s.events = false ∧ s.sent = [] := by
  decide +kernel

end

end Command
end G6Arena
