/-
# One command after the other

The commands of a source are served one after the other: each is handed to its handler once,
replied to once on its own source, and released once (`commands_served_once`).  `Orderly` is what
keeps it so while transfers run over many passes: a command that is ready has not been dispatched,
unless it is the one of an upload under way, and a source owns one transfer at most, during which
nothing of it is dispatched.
-/

import G6Arena.Command.Log
import G6Arena.Command.Machine
import Mathlib.Data.List.Nodup

namespace G6Arena
namespace Command

open ByteMem Link Machine

/-! ### Owners -/

namespace Transfers

/-- The sources of the transfers that are active. -/
def owners (x : Transfers) : List Transport :=
  (x.dl.map Download.source).toList ++ (x.ul.map Upload.source).toList
    ++ (x.ar.map Archive.source).toList

variable {x x' : Transfers}

theorem mem_owners {t : Transport} : t ∈ x.owners ↔ x.owns t = true := by
  have part {α : Type} (o : Option α) (source : α → Transport) :
      t ∈ (o.map source).toList ↔ o.any (fun a => source a = t) = true := by
    cases o with
    | none => simp
    | some a => simp [eq_comm]
  unfold owners owns
  rw [List.mem_append, List.mem_append, Bool.or_eq_true, Bool.or_eq_true, part, part, part]

/-- What goes on belongs to the same sources. -/
theorem Goes.owners (h : x.Goes x') : x'.owners.Sublist x.owners := by
  have part {α β γ : Type} {keep : α → β} {o o' : Option α} (hkeeps : Keeps keep o o')
      (source : α → γ) (hsource : ∀ a a', keep a' = keep a → source a' = source a) :
      (o'.map source).toList.Sublist (o.map source).toList := by
    rcases hkeeps with rfl | ⟨a, a', rfl, rfl, hkeep⟩
    · exact List.nil_sublist _
    · rw [Option.map_some, Option.map_some, hsource a a' hkeep]
  refine ((part h.dl Download.source ?_).append (part h.ul Upload.source ?_)).append
    (part h.ar Archive.source ?_)
  · intro dl dl' hkeep
    exact congrArg (fun k => k.2.1) hkeep
  · intro ul ul' hkeep
    exact congrArg (fun k => k.2.2.1) hkeep
  · intro ar ar' hkeep
    exact hkeep

end Transfers

namespace Controller

theorem shiftTransfers_owners (idx : ℕ) (x : Transfers) :
    (shiftTransfers idx x).owners = x.owners := by
  have hul := shiftTransfers_ul idx x
  have hdl : (shiftTransfers idx x).dl.map Download.source = x.dl.map Download.source := by
    unfold shiftTransfers
    split_ifs
    · cases x.dl with
      | none => rfl
      | some dl =>
        rw [Option.map_some, Option.map_some, Option.map_some]
        split_ifs <;> rfl
    · rfl
  have har : (shiftTransfers idx x).ar = x.ar := by
    unfold shiftTransfers
    split_ifs <;> rfl
  rw [Transfers.owners, hdl, hul, har]
  rfl

/-- A transfer that starts is one more for its source. -/
theorem Starts.owners {t : Transport} {s s' : Screen} {x x' : Transfers} (h : Starts t s x s' x') :
    x'.owners = x.owners ∨ x'.owners.Perm (t :: x.owners) := by
  cases h with
  | same => exact .inl rfl
  | shifted => exact .inl (shiftTransfers_owners ..)
  | download dl _ free source =>
    refine .inr ?_
    unfold Transfers.owners
    rw [free, Option.map_some, source]
    exact .refl _
  | upload ul _ free ar source =>
    refine .inr ?_
    unfold Transfers.owners
    rw [free, ar, Option.map_some, source]
    simp only [Option.map_none, Option.toList_none, Option.toList_some, List.append_nil]
    exact List.perm_append_singleton ..
  | archive ar _ free ul source =>
    refine .inr ?_
    unfold Transfers.owners
    rw [free, ul, Option.map_some, source]
    simp only [Option.map_none, Option.toList_none, Option.toList_some, List.append_nil]
    exact List.perm_append_singleton ..

/-! ### The invariant -/

/-- Where the command of a source is. -/
def phase (t : Transport) (c : Controller) : Phase :=
  if (c.source t).rx.cmdReady then
    if c.transfers.ul.any (·.source = t) then .dispatched else .parsed
  else .idle

/-- Every command is served in its turn. -/
structure Orderly (c : Controller) : Prop where
  log : ∀ t, phaseOf (c.source t).events = some (c.phase t)
  sound : ∀ t, (c.source t).rx.Sound
  waits : ∀ ul, c.transfers.ul = some ul → (c.source ul.source).rx.cmdReady = true
  linked : ∀ t, (c.source t).rx.cmdReady = true ∨ c.transfers.owns t = true →
    (c.source t).isConnected t = true
  single : c.transfers.owners.Nodup

variable {c c' : Controller}

theorem phase_congr {t : Transport} (hready : (c'.source t).rx.cmdReady = (c.source t).rx.cmdReady)
    (huploads : c'.transfers.ul.map Upload.source = c.transfers.ul.map Upload.source) :
    c'.phase t = c.phase t := by
  have hany (o : Option Upload) : o.any (·.source = t) = (o.map Upload.source).any (· = t) := by
    cases o <;> rfl
  unfold phase
  rw [hready, hany, hany, huploads]

theorem waits_of_map (huploads : c'.transfers.ul.map Upload.source = c.transfers.ul.map Upload.source)
    (hwaits : ∀ ul, c.transfers.ul = some ul → (c'.source ul.source).rx.cmdReady = true) :
    ∀ ul, c'.transfers.ul = some ul → (c'.source ul.source).rx.cmdReady = true := by
  intro ul' hul'
  rw [hul', Option.map_some] at huploads
  obtain ⟨ul, hul, hsource⟩ := Option.map_eq_some_iff.1 huploads.symm
  rw [← hsource]
  exact hwaits ul hul

/-- A step that writes out replies at most, and lets transfers go on. -/
theorem Orderly.quiet (h : Orderly c)
    (hheard : ∀ t, ∃ n, Heard (List.replicate n .flushed) (c.source t) (c'.source t))
    (hgoes : c.transfers.Goes c'.transfers)
    (huploads : c'.transfers.ul.map Upload.source = c.transfers.ul.map Upload.source) :
    Orderly c' := by
  refine ⟨fun t => ?_, fun t => ?_, waits_of_map huploads fun ul hul => ?_, fun t hcase => ?_,
    h.single.sublist hgoes.owners⟩
  · obtain ⟨n, hn⟩ := hheard t
    rw [hn.events, phaseOf_append_of_eq (h.log t), phaseFrom_flushed,
      phase_congr hn.ready huploads]
  · obtain ⟨n, hn⟩ := hheard t
    unfold Rx.Sound
    rw [hn.ready, hn.cmd]
    exact h.sound t
  · obtain ⟨n, hn⟩ := hheard ul.source
    rw [hn.ready]
    exact h.waits ul hul
  · obtain ⟨n, hn⟩ := hheard t
    have hconnected : (c'.source t).isConnected t = (c.source t).isConnected t := by
      unfold Source.isConnected
      rw [hn.connected]
    rw [hconnected]
    refine h.linked t (hcase.imp (fun hready => by rwa [hn.ready] at hready) fun howns => ?_)
    exact Transfers.mem_owners.1 (hgoes.owners.subset (Transfers.mem_owners.2 howns))

/-- A step that changes one source that way. -/
theorem Orderly.quietAt (h : Orderly c) {t : Transport} {n : ℕ}
    (hheard : HeardAt t (List.replicate n .flushed) c c') (hgoes : c.transfers.Goes c'.transfers)
    (huploads : c'.transfers.ul.map Upload.source = c.transfers.ul.map Upload.source) :
    Orderly c' := by
  refine h.quiet (fun u => ?_) hgoes huploads
  by_cases hu : u = t
  · rw [hu]
    exact ⟨n, hheard.self⟩
  · rw [hheard.others u hu]
    exact ⟨0, .refl _⟩

section

variable [Board] {env : Env}

/-- A source is polled. -/
theorem Orderly.service (h : Orderly c) (t : Transport) (cap : ℕ) (accepted : Bool) :
    Orderly (c.onSource t (·.service t cap accepted)) := by
  have hpolled := service_polled t cap accepted (s := c.source t) fun hnetwork hready => by
    have hlinked := h.linked t (.inl hready)
    unfold Source.isConnected at hlinked
    rw [hnetwork] at hlinked ⊢
    simpa using hlinked
  have hother (u : Transport) (hu : u ≠ t) :
      (c.onSource t (·.service t cap accepted)).source u = c.source u := onSource_of_ne _ _ _ hu
  have hready : (c.source t).rx.cmdReady = true →
      ((c.source t).service t cap accepted).rx.cmdReady = true := fun hready =>
    (hpolled.kept hready).2.1
  refine ⟨fun u => ?_, fun u => ?_, fun ul hul => ?_, fun u hcase => ?_, h.single⟩
  · by_cases hu : u = t
    · subst hu
      rw [onSource_self]
      cases hbefore : (c.source u).rx.cmdReady with
      | true =>
        obtain ⟨hevents, hafter, -⟩ := hpolled.kept hbefore
        have hphase : (c.onSource u (·.service u cap accepted)).phase u = c.phase u :=
          phase_congr (by rw [onSource_self, hafter, hbefore]) rfl
        rw [hevents, h.log u, hphase]
      | false =>
        obtain ⟨-, hevents, -⟩ := hpolled.polled hbefore
        have hidle : c.phase u = .idle := by
          unfold phase
          rw [hbefore]
          rfl
        have hnone : c.transfers.ul.any (·.source = u) = false := by
          rw [Bool.eq_false_iff]
          intro hany
          rw [Option.any_eq_true] at hany
          obtain ⟨ul, hul, hsource⟩ := hany
          have hwaits := h.waits ul hul
          rw [of_decide_eq_true hsource, hbefore] at hwaits
          cases hwaits
        rw [hevents, phaseOf_append_of_eq (h.log u), hidle]
        unfold phase
        rw [onSource_self, onSource_transfers, hnone]
        cases ((c.source u).service u cap accepted).rx.cmdReady <;> rfl
    · have hphase : (c.onSource t (·.service t cap accepted)).phase u = c.phase u :=
        phase_congr (by rw [hother u hu]) rfl
      rw [hother u hu, h.log u, hphase]
  · by_cases hu : u = t
    · subst hu
      rw [onSource_self]
      cases hbefore : (c.source u).rx.cmdReady with
      | true =>
        obtain ⟨-, hafter, hcmd⟩ := hpolled.kept hbefore
        unfold Rx.Sound
        rw [hcmd]
        exact fun _ => h.sound u hbefore
      | false => exact (hpolled.polled hbefore).1
    · rw [hother u hu]
      exact h.sound u
  · by_cases hu : ul.source = t
    · rw [hu, onSource_self]
      exact hready (hu ▸ h.waits ul hul)
    · rw [hother _ hu]
      exact h.waits ul hul
  · by_cases hu : u = t
    · subst hu
      rw [onSource_self] at hcase ⊢
      have hkeeps (hlinked : (c.source u).isConnected u = true) :
          ((c.source u).service u cap accepted).isConnected u = true := by
        unfold Source.isConnected at hlinked ⊢
        rw [Bool.or_eq_true] at hlinked ⊢
        exact hlinked.imp_right hpolled.connected
      rcases hcase with hparsed | howns
      · cases hbefore : (c.source u).rx.cmdReady with
        | true => exact hkeeps (h.linked u (.inl hbefore))
        | false =>
          obtain ⟨-, -, hconnected⟩ := hpolled.polled hbefore
          unfold Source.isConnected
          cases u with
          | serial => rfl
          | network => exact hconnected rfl hparsed
      · exact hkeeps (h.linked u (.inr howns))
    · rw [hother u hu] at hcase ⊢
      exact h.linked u hcase

omit [Board] in
/-- An upload goes on, or its command is replied to and released. -/
theorem Orderly.uploads (h : Orderly c) (hgoes : c.transfers.Goes c'.transfers)
    (huploads : Uploads c c') : Orderly c' := by
  cases huploads with
  | goes t hheard huploads => exact h.quietAt (n := 0) hheard hgoes huploads
  | ends ul reply active events ready queued connected others done =>
    have hphase : c.phase ul.source = .dispatched := by
      unfold phase
      rw [h.waits ul active, if_pos rfl, active, Option.any_some, decide_eq_true rfl, if_pos rfl]
    have hother (u : Transport) (hu : u ≠ ul.source) : c'.phase u = c.phase u := by
      unfold phase
      rw [others u hu, done, active, Option.any_none, Option.any_some,
        decide_eq_false fun hsource => hu hsource.symm]
    refine ⟨fun u => ?_, fun u => ?_, fun ul' hul' => ?_, fun u hcase => ?_,
      h.single.sublist hgoes.owners⟩
    · by_cases hu : u = ul.source
      · rw [hu, events, phaseOf_append_of_eq (h.log ul.source), hphase]
        unfold phase
        rw [ready]
        rfl
      · rw [others u hu, h.log u, hother u hu]
    · by_cases hu : u = ul.source
      · rw [hu]
        exact Rx.sound_of_not_ready ready
      · rw [others u hu]
        exact h.sound u
    · rw [done] at hul'
      cases hul'
    · have hconnected : (c'.source u).isConnected u = (c.source u).isConnected u := by
        unfold Source.isConnected
        by_cases hu : u = ul.source
        · rw [hu, connected]
        · rw [others u hu]
      rw [hconnected]
      refine h.linked u (hcase.imp (fun hready => ?_) fun howns => ?_)
      · by_cases hu : u = ul.source
        · rw [hu, ready] at hready
          cases hready
        · rwa [others u hu] at hready
      · exact Transfers.mem_owners.1 (hgoes.owners.subset (Transfers.mem_owners.2 howns))

omit [Board] in
/-- While nobody is lost, `serviceDisconnects` has nothing to do. -/
theorem Orderly.serviceDisconnects (h : Orderly c) (env : Env) : c.serviceDisconnects env = c := by
  have hdl : c.disconnectDownload = c := by
    unfold disconnectDownload
    split
    · next dl hdl =>
      refine if_pos (h.linked dl.source (.inr (Transfers.mem_owners.1 ?_)))
      unfold Transfers.owners
      rw [hdl]
      exact List.mem_append_left _ (List.mem_append_left _ (List.mem_singleton_self _))
    · rfl
  have hul : c.disconnectUpload env = c := by
    unfold disconnectUpload
    split
    · next ul hul =>
      refine if_pos (h.linked ul.source (.inr (Transfers.mem_owners.1 ?_)))
      unfold Transfers.owners
      rw [hul]
      exact List.mem_append_left _ (List.mem_append_right _ (List.mem_singleton_self _))
    · rfl
  have har : c.disconnectArchive = c := by
    unfold disconnectArchive
    split
    · next ar har =>
      refine if_pos (h.linked ar.source (.inr (Transfers.mem_owners.1 ?_)))
      unfold Transfers.owners
      rw [har]
      exact List.mem_append_right _ (List.mem_singleton_self _)
    · rfl
  unfold Controller.serviceDisconnects
  rw [hdl, hul, har]

omit [Board] in
theorem not_owns_upload {t : Transport} {ul : Upload} (howns : c.transfers.owns t = false)
    (hul : c.transfers.ul = some ul) : ul.source ≠ t := by
  rintro rfl
  refine Bool.false_ne_true (howns.symm.trans (Transfers.mem_owners.1 ?_))
  unfold Transfers.owners
  rw [hul]
  exact List.mem_append_left _ (List.mem_append_right _ (List.mem_singleton_self _))

/-- A command that is handled starts one transfer at most, for a source that has none. -/
theorem processCommand_owners (env : Env) {t : Transport} (hsingle : c.transfers.owners.Nodup)
    (howns : c.transfers.owns t = false) :
    (c.processCommand env t).transfers.owners.Nodup ∧
      ∀ u, (c.processCommand env t).transfers.owns u = true → c.transfers.owns u = true ∨ u = t := by
  rcases processCommand_core env t c with hsame | ⟨-, -, hhandles⟩
  · rw [hsame]
    exact ⟨hsingle, fun u howns => .inl howns⟩
  · rcases hhandles.starts.owners with howners | howners
    · refine ⟨howners ▸ hsingle, fun u hu => .inl ?_⟩
      rw [← Transfers.mem_owners, ← howners]
      exact Transfers.mem_owners.2 hu
    · refine ⟨howners.nodup_iff.2 (List.nodup_cons.2 ⟨fun ht => ?_, hsingle⟩), fun u hu => ?_⟩
      · rw [Transfers.mem_owners, howns] at ht
        cases ht
      · rcases List.mem_cons.1 (howners.mem_iff.1 (Transfers.mem_owners.2 hu)) with rfl | hu'
        · exact .inr rfl
        · exact .inl (Transfers.mem_owners.1 hu')

/-- The command of a source is handled. -/
theorem Orderly.processCommand (h : Orderly c) (env : Env) {t : Transport} (hrun : c.halted = false)
    (hrun' : (c.processCommand env t).halted = false) : Orderly (c.processCommand env t) := by
  rcases processCommand_cases env t c with ⟨-, hsame⟩ | ⟨hready, howns, -⟩
  · rw [hsame]
    exact h
  obtain ⟨hsingle, hstarted⟩ := processCommand_owners env h.single howns
  have hprocesses := processCommand_processes env hrun hready howns (h.sound t)
  generalize c.processCommand env t = c' at hrun' hsingle hstarted hprocesses
  have hparsed : c.phase t = .parsed := by
    unfold phase
    rw [show (c.source t).rx.cmdReady = true from hready, if_pos rfl, if_neg]
    intro hany
    rw [Option.any_eq_true] at hany
    obtain ⟨ul, hul, hsource⟩ := hany
    exact not_owns_upload howns hul (of_decide_eq_true hsource)
  have hlinked (hothers : ∀ u, u ≠ t → c'.source u = c.source u)
      (hconnected : (c'.source t).connected = (c.source t).connected) (u : Transport)
      (hcase : (c'.source u).rx.cmdReady = true ∨ c'.transfers.owns u = true) :
      (c'.source u).isConnected u = true := by
    by_cases hu : u = t
    · subst hu
      unfold Source.isConnected
      rw [hconnected]
      exact h.linked u (.inl hready)
    · rw [hothers u hu] at hcase ⊢
      exact h.linked u (hcase.imp_right fun hu' => (hstarted u hu').resolve_right hu)
  cases hprocesses with
  | served reply events ready queued connected others halted uploads =>
    refine ⟨fun u => ?_, fun u => ?_, waits_of_map uploads fun ul hul => ?_, hlinked others connected,
      hsingle⟩
    · by_cases hu : u = t
      · subst hu
        rw [events, phaseOf_append_of_eq (h.log u), hparsed]
        unfold phase
        rw [ready]
        rfl
      · rw [others u hu, h.log u, phase_congr (by rw [others u hu]) uploads]
    · by_cases hu : u = t
      · subst hu
        exact Rx.sound_of_not_ready ready
      · rw [others u hu]
        exact h.sound u
    · rw [others _ (not_owns_upload howns hul)]
      exact h.waits ul hul
  | handed events rx connected resp others halted start =>
    obtain ⟨entry, id, -, -, hcore⟩ := start.core
    have hul : c'.transfers.ul = some (newUpload (env.call 1) t
        (wordAt (c.source t).rx.parsedCmd.data 1 2) (c.source t).rx.parsedCmd.bulkPayloadLen
        entry id) := by
      rw [hcore.transfers]
      rfl
    refine ⟨fun u => ?_, fun u => ?_, fun ul hul' => ?_, hlinked others connected, hsingle⟩
    · by_cases hu : u = t
      · subst hu
        rw [events, phaseOf_append_of_eq (h.log u), hparsed]
        unfold phase
        rw [rx, show (c.source u).rx.cmdReady = true from hready, if_pos rfl, hul]
        change _ = some (if decide (u = u) = true then Phase.dispatched else .parsed)
        rw [if_pos (decide_eq_true rfl)]
        rfl
      · have hphase : c'.phase u = c.phase u := by
          unfold phase
          rw [others u hu, hul, start.ul, Option.any_some, Option.any_none,
            decide_eq_false fun hsource => hu hsource.symm]
        rw [others u hu, h.log u, hphase]
    · by_cases hu : u = t
      · subst hu
        rw [rx]
        exact h.sound u
      · rw [others u hu]
        exact h.sound u
    · rw [hul] at hul'
      cases hul'
      change (c'.source t).rx.cmdReady = true
      rw [rx]
      exact hready
  | reset reply n events queued others halted =>
    rw [halted] at hrun'
    cases hrun'

/-- **One step**, with nobody lost. -/
theorem step_orderly {i : Action × Env} (h : c.halted = false → Orderly c) (hi : i.1 ≠ .disconnect) :
    (c.step i).halted = false → Orderly (c.step i) := by
  obtain ⟨action, env⟩ := i
  unfold Controller.step
  split_ifs with hhalted
  · exact h
  have hrun : c.halted = false := by simpa using hhalted
  have hc := h hrun
  intro hrun'
  have hdisplay {c' : Controller} (hsource : c'.source = c.source)
      (htransfers : c'.transfers = c.transfers) : Orderly c' := by
    refine hc.quietAt (n := 0) (.of_source .serial hsource) ?_ (by rw [htransfers])
    rw [htransfers]
    exact .refl _
  cases action with
  | arrive t bytes =>
    exact hc.quietAt (n := 0) (arrive_heardAt t bytes c) (.refl _) rfl
  | disconnect => exact absurd rfl hi
  | service t accepted => exact hc.service t env.cap accepted
  | processCommand t => exact hc.processCommand env hrun hrun'
  | serviceDisplay => exact hdisplay rfl rfl
  | serviceTelemetry => exact hdisplay rfl rfl
  | serviceDownload =>
    obtain ⟨t, n, hheard, hul⟩ := serviceDownload_heardAt env c
    exact hc.quietAt hheard (serviceDownload_serves env c).transfers (congrArg _ hul)
  | serviceUpload =>
    exact hc.uploads (serviceUpload_serves env c).transfers (serviceUpload_uploads env c)
  | serviceArchive =>
    obtain ⟨t, n, hheard, hul⟩ := serviceArchive_heardAt env c
    exact hc.quietAt hheard (serviceArchive_serves env c).transfers (congrArg _ hul)
  | serviceDisconnects =>
    change Orderly (c.serviceDisconnects env)
    rw [hc.serviceDisconnects]
    exact hc
  | serviceLateBootBlank => exact hdisplay rfl rfl
  | flushResponses t =>
    obtain ⟨n, hn⟩ := flushResponses_heard t (env.flush t) (c.source t)
    exact hc.quietAt (.onSource hn) (.refl _) rfl
  | refreshIsr => exact hdisplay rfl rfl

/-! ### What a step adds -/

/-- A source whose command is not handled in a step is not dispatched anything. -/
theorem step_not_dispatched {i : Action × Env} {t : Transport} (hrun : c.halted = false)
    (h : Orderly c) (hi : i.1 = .processCommand t → c.transfers.owns t = true) :
    ∃ es, ((c.step i).source t).events = (c.source t).events ++ es ∧ .dispatched ∉ es := by
  obtain ⟨action, env⟩ := i
  have hstep : c.step (action, env) = c.act env action := by
    unfold Controller.step
    rw [if_neg (by rw [hrun]; decide)]
  rw [hstep]
  have hflushed (n : ℕ) : SourceEvent.dispatched ∉ List.replicate n .flushed := by
    intro hmem
    cases (List.mem_replicate.1 hmem).2
  have hsame {s : Source} (hevents : s.events = (c.source t).events) :
      ∃ es, s.events = (c.source t).events ++ es ∧ .dispatched ∉ es :=
    ⟨[], by rw [hevents, List.append_nil], List.not_mem_nil⟩
  have hat {u : Transport} {n : ℕ} {c' : Controller}
      (hheard : HeardAt u (List.replicate n .flushed) c c') :
      ∃ es, (c'.source t).events = (c.source t).events ++ es ∧ .dispatched ∉ es := by
    by_cases hu : t = u
    · subst hu
      exact ⟨_, hheard.self.events, hflushed n⟩
    · rw [hheard.others t hu]
      exact hsame rfl
  cases action with
  | arrive u bytes => exact hat (n := 0) (arrive_heardAt u bytes c)
  | disconnect =>
    refine hsame ?_
    change ((c.onSource .network fun s => { s with connected := false }).source t).events = _
    by_cases hu : t = .network
    · subst hu
      rw [onSource_self]
    · rw [onSource_of_ne _ _ _ hu]
  | service u accepted =>
    by_cases hu : t = u
    · subst hu
      have hpolled := service_polled t env.cap accepted (s := c.source t) fun hnetwork hready => by
        have hlinked := h.linked t (.inl hready)
        unfold Source.isConnected at hlinked
        rw [hnetwork] at hlinked ⊢
        simpa using hlinked
      change ∃ es, ((c.onSource t (·.service t env.cap accepted)).source t).events = _ ∧ _
      rw [onSource_self]
      cases hbefore : (c.source t).rx.cmdReady with
      | true => exact hsame (hpolled.kept hbefore).1
      | false =>
        refine ⟨_, (hpolled.polled hbefore).2.1, ?_⟩
        split_ifs <;> decide
    · refine hsame ?_
      exact congrArg Source.events (onSource_of_ne _ _ _ hu)
  | processCommand u =>
    change ∃ es, ((c.processCommand env u).source t).events = _ ∧ _
    rcases processCommand_cases env u c with ⟨-, hidle⟩ | ⟨hready, howns, -⟩
    · rw [hidle]
      exact hsame rfl
    · have hu : t ≠ u := by
        rintro rfl
        rw [hi rfl] at howns
        cases howns
      have hprocesses := processCommand_processes env hrun hready howns (h.sound u)
      generalize c.processCommand env u = c' at hprocesses
      cases hprocesses with
      | served reply events ready queued connected others halted uploads =>
        rw [others t hu]
        exact hsame rfl
      | handed events rx connected resp others halted start =>
        rw [others t hu]
        exact hsame rfl
      | reset reply n events queued others halted =>
        obtain ⟨m, hm⟩ := others t hu
        exact ⟨_, hm.events, hflushed m⟩
  | serviceDownload =>
    obtain ⟨u, n, hheard, -⟩ := serviceDownload_heardAt env c
    exact hat hheard
  | serviceUpload =>
    change ∃ es, ((c.serviceUpload env).source t).events = _ ∧ _
    cases serviceUpload_uploads env c with
    | goes u hheard uploads => exact hat (n := 0) hheard
    | ends ul reply active events ready queued connected others done =>
      by_cases hu : t = ul.source
      · rw [hu]
        exact ⟨_, events, by simp⟩
      · rw [others t hu]
        exact hsame rfl
  | serviceArchive =>
    obtain ⟨u, n, hheard, -⟩ := serviceArchive_heardAt env c
    exact hat hheard
  | serviceDisconnects =>
    change ∃ es, ((c.serviceDisconnects env).source t).events = _ ∧ _
    rw [h.serviceDisconnects]
    exact hsame rfl
  | flushResponses u =>
    obtain ⟨n, hn⟩ := flushResponses_heard u (env.flush u) (c.source u)
    exact hat (.onSource hn)
  | _ => exact hsame rfl

/-- How often a source had a command handed to its handler. -/
def dispatches (t : Transport) (c : Controller) : ℕ := (c.source t).events.count .dispatched

/-- A command that is ready is dispatched when its turn comes. -/
theorem processCommand_dispatches (env : Env) {t : Transport} (hrun : c.halted = false)
    (h : Orderly c) (hready : (c.source t).hasCommand = true) (howns : c.transfers.owns t = false) :
    (c.step (.processCommand t, env)).dispatches t = c.dispatches t + 1 := by
  have hstep : c.step (.processCommand t, env) = c.processCommand env t := by
    unfold Controller.step
    rw [if_neg (by rw [hrun]; decide)]
    rfl
  unfold dispatches
  rw [hstep]
  have hprocesses := processCommand_processes env hrun hready howns (h.sound t)
  generalize c.processCommand env t = c' at hprocesses
  cases hprocesses with
  | served reply events ready queued connected others halted uploads =>
    rw [events, List.count_append]
    rfl
  | handed events rx connected resp others halted start =>
    rw [events, List.count_append]
    rfl
  | reset reply n events queued others halted =>
    have hflushed : (List.replicate n SourceEvent.flushed).count .dispatched = 0 := by
      rw [List.count_replicate]
      rfl
    rw [events, List.count_append, List.count_append, hflushed]
    rfl

/-- The history of a source goes on in its turn, also in a reset. -/
theorem step_phase {i : Action × Env} (h : c.halted = false → Orderly c) (hi : i.1 ≠ .disconnect)
    (hlog : ∀ t, ∃ p, phaseOf (c.source t).events = some p) (t : Transport) :
    ∃ p, phaseOf ((c.step i).source t).events = some p := by
  by_cases hrun' : (c.step i).halted = false
  · exact ⟨_, (step_orderly h hi hrun').log t⟩
  by_cases hrun : c.halted = false
  · have hc := h hrun
    obtain ⟨action, env⟩ := i
    have hstep : c.step (action, env) = c.act env action := by
      unfold Controller.step
      rw [if_neg (by rw [hrun]; decide)]
    rw [hstep] at hrun' ⊢
    cases action with
    | processCommand u =>
      change ¬(c.processCommand env u).halted = false at hrun'
      change ∃ p, phaseOf ((c.processCommand env u).source t).events = some p
      rcases processCommand_cases env u c with ⟨-, hidle⟩ | ⟨hready, howns, -⟩
      · rw [hidle]
        exact hlog t
      have hprocesses := processCommand_processes env hrun hready howns (hc.sound u)
      generalize c.processCommand env u = c' at hrun' hprocesses
      cases hprocesses with
      | served reply events ready queued connected others halted uploads => exact absurd halted hrun'
      | handed events rx connected resp others halted start => exact absurd halted hrun'
      | reset reply n events queued others halted =>
        by_cases hu : t = u
        · subst hu
          have hparsed : c.phase t = .parsed := by
            unfold phase
            rw [show (c.source t).rx.cmdReady = true from hready, if_pos rfl, if_neg]
            intro hany
            rw [Option.any_eq_true] at hany
            obtain ⟨ul, hul, hsource⟩ := hany
            exact not_owns_upload howns hul (of_decide_eq_true hsource)
          rw [events, phaseOf_append_of_eq (hc.log t), hparsed]
          exact ⟨.replied, phaseFrom_flushed .replied n⟩
        · obtain ⟨m, hm⟩ := others t hu
          rw [hm.events, phaseOf_append_of_eq (hc.log t), phaseFrom_flushed]
          exact ⟨_, rfl⟩
    | serviceDownload => exact absurd ((serviceDownload_serves env c).halted.trans hrun) hrun'
    | serviceUpload => exact absurd ((serviceUpload_serves env c).halted.trans hrun) hrun'
    | serviceArchive => exact absurd ((serviceArchive_serves env c).halted.trans hrun) hrun'
    | serviceDisconnects => exact absurd ((serviceDisconnects_serves env c).halted.trans hrun) hrun'
    | _ => exact absurd hrun hrun'
  · have hstep : c.step i = c := by
      unfold Controller.step
      rw [if_pos (by simpa using hrun)]
    rw [hstep]
    exact hlog t

end

/-! ### Runs -/

variable [Board]

theorem start_orderly (boot : Boot) (env : Env) : Orderly (setup boot env) := by
  refine ⟨fun t => rfl, fun t => Rx.sound_of_not_ready rfl, fun ul hul => ?_, fun t hcase => ?_, ?_⟩
  · cases hul
  · rcases hcase with h | h <;> cases h
  · exact List.nodup_nil

theorem run_orderly (boot : Boot) (env₀ : Env) {is : List (Action × Env)}
    (h : ∀ i ∈ is, i.1 ≠ .disconnect) :
    let c := Machine.run Controller.step (setup boot env₀) is
    (c.halted = false → Orderly c) ∧ ∀ t, ∃ p, phaseOf (c.source t).events = some p := by
  refine run_inv (I := fun c : Controller => (c.halted = false → Orderly c) ∧
    ∀ t, ∃ p, phaseOf (c.source t).events = some p) (C := fun _ i => i.1 ≠ .disconnect)
    (fun c i hinv hi => ⟨step_orderly hinv.1 hi, step_phase hinv.1 hi hinv.2⟩)
    ⟨fun _ => start_orderly boot env₀, fun t => ⟨.idle, rfl⟩⟩ (along_of_forall (fun _ => h) _)

/-- **Every command is served once**, in every run in which no client is lost: the history of a
source is commands that were parsed, dispatched, replied to and released, one after the other, and
one that may be under way; one that is ready is dispatched when its turn comes, and not while
its source owns a transfer, which is one at most. -/
theorem commands_served_once {boot : Boot} {env₀ : Env} {is : List (Action × Env)}
    (h : ∀ i ∈ is, i.1 ≠ .disconnect) :
    let c := Machine.run Controller.step (setup boot env₀) is
    (∀ t, ∃ p, Served p (c.source t).events) ∧
    (c.halted = false → ∀ t, Served (c.phase t) (c.source t).events ∧
      c.transfers.owners.count t ≤ 1 ∧
      (c.transfers.owns t = true → ∀ i, (c.step i).dispatches t = c.dispatches t) ∧
      ((c.source t).hasCommand = true → c.transfers.owns t = false →
        ∀ env, (c.step (.processCommand t, env)).dispatches t = c.dispatches t + 1)) := by
  intro c
  obtain ⟨horderly, hlog⟩ := run_orderly boot env₀ h
  refine ⟨fun t => ?_, fun hrun t => ⟨?_, ?_, fun howns i => ?_, fun hready howns env => ?_⟩⟩
  · obtain ⟨p, hp⟩ := hlog t
    exact ⟨p, served_of_phaseOf hp⟩
  · exact served_of_phaseOf ((horderly hrun).log t)
  · exact List.nodup_iff_count_le_one.1 (horderly hrun).single t
  · obtain ⟨es, hes, hnot⟩ := step_not_dispatched (i := i) hrun (horderly hrun) fun _ => howns
    unfold dispatches
    rw [hes, List.count_append, List.count_eq_zero_of_not_mem hnot, Nat.add_zero]
  · exact processCommand_dispatches env hrun (horderly hrun) hready howns

end Controller

/-! ### A run -/

section

local instance orderlyBoard : Board := ⟨.hw10_10⟩

/-- A command on each link, and an upload of one byte that ends. -/
def commandsOnBothLinks : List (Action × Env) :=
  receive .serial [1, 0x17] (.calm Sd.goodIo)
    ++ (.service .network true, .calm Sd.goodIo) :: receive .network [1, 0x17] (.calm Sd.goodIo)
    ++ receive .serial [0x85, 4, 0, 1, 0, 0, 0, 0, 0, 0, 0, 0x55] (.calm Sd.goodIo)
    ++ [(.serviceUpload, .calm Sd.goodIo)]

theorem commands_on_both_links_served :
    let c := Machine.run Controller.step (setup (.cold Sd.sampleCard) (.calm Sd.goodIo))
      commandsOnBothLinks
    ∀ t, ∃ p, Served p (c.source t).events :=
  (Controller.commands_served_once (by decide)).1

end

end Command
end G6Arena
