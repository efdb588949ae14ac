/-
# The file of a transfer

A transfer keeps the index of its pattern (`dl_idx_`, `ul_idx_`) and a handle on its file, and a
command about a pattern compares indices.  `Targeted` is the invariant that makes this right: the
index of a transfer that is active is the place, in the list as it then is, of the file it has
open.  It is kept while no two names of the list are the same file to the card, the staging file
included, and while no delete of an earlier pattern fails on its manifest: such a delete takes
its entry out of the list and leaves the indices (`transfers_on_target`, `index_left_behind`).
-/

import G6Arena.Command.Storage
import G6Arena.Sd.Listing

namespace G6Arena

namespace Sd

/-- The staging file and the listed patterns are all different files. -/
def Distinct (s : Store) : Prop :=
  ((⟨patternTempName, []⟩ :: s.sd.patterns).map fun e => s.card.entry e.path).Nodup

instance (s : Store) : Decidable (Distinct s) := inferInstanceAs (Decidable (List.Nodup _))

variable {s : Store} {id k : ℕ} {e o : Entry}

theorem target_of_pattern? {sd : SdManager} (h : sd.pattern? k = some e) : sd.target k = some e := by
  rw [SdManager.target, if_neg (by have := (pattern?_pos h).1; omega)]
  exact h

theorem pattern?_of_target {sd : SdManager} (h : sd.target k = some e) (hk : k ≠ 0) :
    sd.pattern? k = some e := by
  rwa [SdManager.target, if_neg hk] at h

theorem target_congr {sd sd' : SdManager} (h : sd'.patterns = sd.patterns) (k : ℕ) :
    sd'.target k = sd.target k := by
  unfold SdManager.target SdManager.pattern?
  rw [h]

/-- A pattern that is taken out moves the later ones down. -/
theorem target_removeAt {sd : SdManager} (h : sd.target k = some e) (hne : id ≠ k) :
    (sd.removeAt id).target (if 1 ≤ id ∧ id < k then k - 1 else k) = some e := by
  by_cases hk : k = 0
  · rw [if_neg (by omega)]
    rw [SdManager.target, if_pos hk] at h ⊢
    exact h
  · exact target_of_pattern? (removeAt_pattern? (pattern?_of_target h hk) hne)

theorem target_eq {sd : SdManager} (k : ℕ) :
    sd.target k = (⟨patternTempName, []⟩ :: sd.patterns)[k]? := by
  cases k with
  | zero => rfl
  | succ k => exact if_neg (Nat.succ_ne_zero k)

/-- Two targets of one file are one. -/
theorem Distinct.eq (h : Distinct s) (he : s.sd.target id = some e) (ho : s.sd.target k = some o)
    (hsame : SameFile s.card e o) : id = k := by
  rw [target_eq] at he ho
  obtain ⟨hid, he⟩ := List.getElem?_eq_some_iff.1 he
  obtain ⟨hk, ho⟩ := List.getElem?_eq_some_iff.1 ho
  have hlen := @List.length_map _ _ (⟨patternTempName, []⟩ :: s.sd.patterns)
    fun e : Entry => s.card.entry e.path
  have hid' := hid.trans_eq hlen.symm
  have hk' := hk.trans_eq hlen.symm
  refine (@List.Nodup.getElem_inj_iff _ _ h id hid' k hk').1 ?_
  rw [List.getElem_map, List.getElem_map, he, ho]
  exact hsame

/-- The file of another target is left by what happens to the file of this one. -/
theorem Distinct.file_remove (h : Distinct s) (he : s.sd.target id = some e)
    (ho : s.sd.target k = some o) (hne : id ≠ k) (ok : Bool) :
    (s.card.remove ok e.path).1.file o.path = s.card.file o.path :=
  Card.file_remove_of_ne ok fun hsame => hne (h.eq he ho hsame.symm)

end Sd

namespace Command

open ByteMem Link Machine
open Sd (Card ControllerError Distinct Entry FileId SameFile Store)

/-- The indices of the transfers name the files they have open. -/
structure Targeted (s : Store) (x : Transfers) : Prop where
  wellFormed : s.card.WellFormed
  dl : ∀ dl ∈ x.dl, ∃ entry, s.sd.pattern? dl.idx = some entry ∧
    s.card.file entry.path = some dl.file
  ul : ∀ ul ∈ x.ul, ∃ entry, s.sd.target ul.idx = some entry ∧ ul.path = entry.path ∧
    (ul.phase = .writing → s.card.file entry.path = some ul.file)
  apart : ∀ dl ∈ x.dl, ∀ ul ∈ x.ul, dl.idx ≠ ul.idx

/-- The files the downloads read are left as they are. -/
def LeavesDownload (x : Transfers) (card card' : Card) : Prop :=
  ∀ dl ∈ x.dl, card'.content dl.file = card.content dl.file

namespace Targeted

variable {s s' : Store} {x x' : Transfers}

theorem of_idle (hcard : s.card.WellFormed) (h : x.active = false) : Targeted s x := by
  unfold Transfers.active at h
  simp only [Bool.or_eq_false_iff, Option.isSome_eq_false_iff, Option.isNone_iff_eq_none] at h
  refine ⟨hcard, ?_, ?_, ?_⟩
  · rw [h.1.1]
    nofun
  · rw [h.1.2]
    nofun
  · rw [h.1.1]
    nofun

theorem leaves_of_idle (h : x.active = false) (card card' : Card) : LeavesDownload x card card' := by
  unfold Transfers.active at h
  simp only [Bool.or_eq_false_iff, Option.isSome_eq_false_iff, Option.isNone_iff_eq_none] at h
  unfold LeavesDownload
  rw [h.1.1]
  nofun

/-- A download reads a file of its own. -/
theorem dl_apart (h : Targeted s x) {dl : Download} (hdl : dl ∈ x.dl) : s.card.Apart dl.file := by
  obtain ⟨entry, -, hfile⟩ := h.dl dl hdl
  exact h.wellFormed.apart hfile

theorem leaves_of_spared (h : Targeted s x) {card' : Card}
    (hspared : ∀ id, Card.Spared id s.card card') : LeavesDownload x s.card card' :=
  fun dl hdl => (hspared dl.file).content (h.dl_apart hdl)

/-- Where the list and the files of its entries are as they were, so are the targets. -/
theorem congr (h : Targeted s x) (hcard : s'.card.WellFormed) (hlist : s'.sd.patterns = s.sd.patterns)
    (hdl : ∀ dl ∈ x'.dl, ∃ dl₀ ∈ x.dl, dl.idx = dl₀.idx ∧ dl.file = dl₀.file)
    (hul : ∀ ul ∈ x'.ul, ∃ ul₀ ∈ x.ul, ul.idx = ul₀.idx ∧ ul.path = ul₀.path ∧
      (ul.phase = .writing → ul₀.phase = .writing ∧ ul.file = ul₀.file))
    (hfiles : ∀ dl ∈ x.dl, ∀ e, s.sd.pattern? dl.idx = some e →
      s'.card.file e.path = s.card.file e.path)
    (hwritten : ∀ ul ∈ x'.ul, ul.phase = .writing → s'.card.file ul.path = s.card.file ul.path) :
    Targeted s' x' := by
  have hpattern (k : ℕ) : s'.sd.pattern? k = s.sd.pattern? k := by
    unfold Sd.SdManager.pattern?
    rw [hlist]
  refine ⟨hcard, ?_, ?_, ?_⟩
  · intro dl hmem
    obtain ⟨dl₀, hmem₀, hidx, hfile⟩ := hdl dl hmem
    obtain ⟨entry, hentry, hopen⟩ := h.dl dl₀ hmem₀
    refine ⟨entry, by rw [hpattern, hidx, hentry], ?_⟩
    rw [hfiles dl₀ hmem₀ entry hentry, hfile]
    exact hopen
  · intro ul hmem
    obtain ⟨ul₀, hmem₀, hidx, hpath, hfile⟩ := hul ul hmem
    obtain ⟨entry, hentry, hpath₀, hopen⟩ := h.ul ul₀ hmem₀
    refine ⟨entry, by rw [Sd.target_congr hlist, hidx, hentry], hpath.trans hpath₀, fun hphase => ?_⟩
    obtain ⟨hphase₀, hfile⟩ := hfile hphase
    have hkept := hwritten ul hmem hphase
    rw [hpath, hpath₀] at hkept
    rw [hkept, hfile]
    exact hopen hphase₀
  · intro dl hdlmem ul hulmem
    obtain ⟨dl₀, hdl₀, hidx, -⟩ := hdl dl hdlmem
    obtain ⟨ul₀, hul₀, hidx', -⟩ := hul ul hulmem
    rw [hidx, hidx']
    exact h.apart dl₀ hdl₀ ul₀ hul₀

/-- The list and the card are as they were, and the transfers. -/
theorem same (h : Targeted s x) (hcard : s'.card = s.card) (hlist : s'.sd.patterns = s.sd.patterns)
    (hdl : x'.dl = x.dl) (hul : x'.ul = x.ul) : Targeted s' x' := by
  refine h.congr (hcard ▸ h.wellFormed) hlist ?_ ?_ ?_ ?_
  · intro dl hmem
    exact ⟨dl, hdl ▸ hmem, rfl, rfl⟩
  · intro ul hmem
    exact ⟨ul, hul ▸ hmem, rfl, rfl, fun hphase => ⟨hphase, rfl⟩⟩
  · intro dl _ e _
    rw [hcard]
  · intro ul _ _
    rw [hcard]

end Targeted

namespace Controller

section

variable {env : Env} {t : Transport} {cmd : ParsedCommand} {state : ArenaState} {s s' : Store}
  {x x' : Transfers}

/-- A delete of an earlier pattern than the one of a transfer writes its manifest. -/
def DeletesWhole (env : Env) (idx : ℕ) (s : Store) (x : Transfers) : Prop :=
  (s.deletePattern env.sd idx).2 = .ceManifestWriteError →
    (∀ dl ∈ x.dl, ¬ idx < dl.idx) ∧ ∀ ul ∈ x.ul, ¬ idx < ul.idx

theorem shiftTransfers_dl {idx : ℕ} {dl' : Download} (h : dl' ∈ (shiftTransfers idx x).dl) :
    ∃ dl ∈ x.dl, dl'.idx = (if 1 ≤ idx ∧ idx < dl.idx then dl.idx - 1 else dl.idx) ∧
      dl'.file = dl.file := by
  unfold shiftTransfers at h
  split_ifs at h with hidx
  · obtain ⟨dl, hdl, rfl⟩ := Option.mem_map.1 h
    refine ⟨dl, hdl, ?_, ?_⟩
    · by_cases hlt : idx < dl.idx
      · rw [if_pos hlt, if_pos ⟨hidx, hlt⟩]
      · rw [if_neg hlt, if_neg fun hand => hlt hand.2]
    · split_ifs <;> rfl
  · exact ⟨dl', h, by rw [if_neg fun hand => hidx hand.1], rfl⟩

theorem shiftTransfers_ul' {idx : ℕ} {ul' : Upload} (h : ul' ∈ (shiftTransfers idx x).ul) :
    ∃ ul ∈ x.ul, ul'.idx = (if 1 ≤ idx ∧ idx < ul.idx then ul.idx - 1 else ul.idx) ∧
      ul'.path = ul.path ∧ ul'.phase = ul.phase ∧ ul'.file = ul.file := by
  unfold shiftTransfers at h
  split_ifs at h with hidx
  · obtain ⟨ul, hul, rfl⟩ := Option.mem_map.1 h
    refine ⟨ul, hul, ?_, ?_⟩
    · by_cases hlt : idx < ul.idx
      · rw [if_pos hlt, if_pos ⟨hidx, hlt⟩]
      · rw [if_neg hlt, if_neg fun hand => hlt hand.2]
    · split_ifs <;> exact ⟨rfl, rfl, rfl⟩
  · exact ⟨ul', h, by rw [if_neg fun hand => hidx hand.1], rfl, rfl, rfl⟩

/-- **A delete.** -/
theorem deleted_targeted {idx : ℕ} {err : ControllerError} (h : Targeted s x) (hdistinct : Distinct s)
    (hwhole : DeletesWhole env idx s x) (hcard : s'.card.WellFormed)
    (hfree : x.patternBusy idx = false) (hrun : s.deletePattern env.sd idx = (s', err))
    (htransfers : x' = if err = .ceNone then shiftTransfers idx x else x) : Targeted s' x' := by
  have hdlfree (dl : Download) (hdl : dl ∈ x.dl) : dl.idx ≠ idx := by
    intro heq
    unfold Transfers.patternBusy at hfree
    rw [hdl, Option.any_some, decide_eq_true heq] at hfree
    cases hfree
  have hulfree (ul : Upload) (hul : ul ∈ x.ul) : ul.idx ≠ idx := by
    intro heq
    unfold Transfers.patternBusy at hfree
    rw [hul, Option.any_some, decide_eq_true heq, Bool.or_true] at hfree
    cases hfree
  rcases Store.deletePattern_cases hrun with
    ⟨rfl, herr⟩ | ⟨entry, htarget, ⟨rfl, rfl⟩ | ⟨hremove, hsame, hsd, herr⟩⟩
  · rw [if_neg (by rcases herr with rfl | rfl <;> decide)] at htransfers
    rw [htransfers]
    exact h
  · rw [if_neg (by decide)] at htransfers
    rw [htransfers]
    exact h.same rfl Sd.SdManager.closeIf_patterns rfl rfl
  -- the transfers of `x'` are those of `x`, each at the place its pattern has moved to
  have hdl (dl' : Download) (hdl' : dl' ∈ x'.dl) : ∃ dl ∈ x.dl,
      dl'.idx = (if 1 ≤ idx ∧ idx < dl.idx then dl.idx - 1 else dl.idx) ∧ dl'.file = dl.file := by
    rcases herr with rfl | rfl
    · rw [htransfers, if_pos rfl] at hdl'
      exact shiftTransfers_dl hdl'
    · rw [htransfers, if_neg (by decide)] at hdl'
      have hlate := (hwhole (by rw [hrun])).1 dl' hdl'
      exact ⟨dl', hdl', by rw [if_neg fun hand => hlate hand.2], rfl⟩
  have hul (ul' : Upload) (hul' : ul' ∈ x'.ul) : ∃ ul ∈ x.ul,
      ul'.idx = (if 1 ≤ idx ∧ idx < ul.idx then ul.idx - 1 else ul.idx) ∧ ul'.path = ul.path ∧
        ul'.phase = ul.phase ∧ ul'.file = ul.file := by
    rcases herr with rfl | rfl
    · rw [htransfers, if_pos rfl] at hul'
      exact shiftTransfers_ul' hul'
    · rw [htransfers, if_neg (by decide)] at hul'
      have hlate := (hwhole (by rw [hrun])).2 ul' hul'
      exact ⟨ul', hul', by rw [if_neg fun hand => hlate hand.2], rfl, rfl, rfl⟩
  have hmoved {k : ℕ} {e : Entry} (he : s.sd.target k = some e) (hne : k ≠ idx) :
      s'.sd.target (if 1 ≤ idx ∧ idx < k then k - 1 else k) = some e ∧
        s'.card.file e.path = s.card.file e.path := by
    constructor
    · have hlist : s'.sd.patterns = (s.sd.removeAt idx).patterns := by
        rw [hsd, Sd.closeIf_removeAt_patterns]
      rw [Sd.target_congr hlist]
      exact Sd.target_removeAt he hne.symm
    · exact (hsame.file e.name).trans (hdistinct.file_remove htarget he hne.symm _)
  refine ⟨hcard, ?_, ?_, ?_⟩
  · intro dl' hdl'
    obtain ⟨dl, hmem, hidx, hfile⟩ := hdl dl' hdl'
    obtain ⟨e, he, hopen⟩ := h.dl dl hmem
    obtain ⟨hplace, hkept⟩ := hmoved (Sd.target_of_pattern? he) (hdlfree dl hmem)
    have hpos := (Sd.pattern?_pos he).1
    refine ⟨e, ?_, by rw [hkept, hopen, hfile]⟩
    rw [hidx]
    exact Sd.pattern?_of_target hplace (by split_ifs <;> omega)
  · intro ul' hul'
    obtain ⟨ul, hmem, hidx, hpath, hphase, hfile⟩ := hul ul' hul'
    obtain ⟨e, he, hpath₀, hopen⟩ := h.ul ul hmem
    obtain ⟨hplace, hkept⟩ := hmoved he (hulfree ul hmem)
    refine ⟨e, hidx ▸ hplace, hpath.trans hpath₀, fun hwriting => ?_⟩
    rw [hkept, hfile]
    exact hopen (hphase ▸ hwriting)
  · intro dl' hdl' ul' hul'
    obtain ⟨dl, hdlmem, hidx, -⟩ := hdl dl' hdl'
    obtain ⟨ul, hulmem, hidx', -⟩ := hul ul' hul'
    have hne := h.apart dl hdlmem ul hulmem
    have hdlne := hdlfree dl hdlmem
    have hulne := hulfree ul hulmem
    rw [hidx, hidx']
    split_ifs <;> omega

/-- An upload that opens its file leaves the files of other targets. -/
theorem uploadCard_file {idx k : ℕ} {e o : Entry} {f : FileId} (hdistinct : Distinct s)
    (he : s.sd.target idx = some e) (ho : s.sd.target k = some o) (hne : idx ≠ k)
    (hfile : s.card.file o.path = some f) : (uploadCard env e s.card).1.file o.path = some f :=
  Card.file_openWrite _ ((hdistinct.file_remove he ho hne _).trans hfile)

theorem uploadCard_spared (env : Env) (e : Entry) (card : Card) (id : FileId) :
    Card.Spared id card (uploadCard env e card).1 :=
  (Card.remove_spared ..).trans (Card.openWrite_spared ..)

/-- An upload that starts, or finds no file to write to. -/
theorem uploadCard_targeted {idx : ℕ} {e : Entry} (h : Targeted s x) (hdistinct : Distinct s)
    (htarget : s.sd.target idx = some e) (hfree : x.dl.any (·.idx = idx) = false)
    (hul : ∀ ul ∈ x'.ul, ul.idx = idx ∧ ul.path = e.path ∧
      (uploadCard env e s.card).2 = some ul.file) (hdl : x'.dl = x.dl) :
    Targeted ⟨(uploadCard env e s.card).1, s.sd⟩ x' := by
  have hother (dl : Download) (hmem : dl ∈ x.dl) : idx ≠ dl.idx := by
    intro heq
    rw [hmem, Option.any_some, decide_eq_true heq.symm] at hfree
    cases hfree
  refine ⟨(uploadCard_kept env e s.card).wellFormed h.wellFormed, ?_, ?_, ?_⟩
  · rw [hdl]
    intro dl hmem
    obtain ⟨o, ho, hopen⟩ := h.dl dl hmem
    exact ⟨o, ho, uploadCard_file hdistinct htarget (Sd.target_of_pattern? ho) (hother dl hmem) hopen⟩
  · intro ul hmem
    obtain ⟨hidx, hpath, hopened⟩ := hul ul hmem
    exact ⟨e, hidx ▸ htarget, hpath, fun _ => Card.file_openWrite_self hopened⟩
  · rw [hdl]
    intro dl hdlmem ul hulmem
    rw [(hul ul hulmem).1]
    exact (hother dl hdlmem).symm

variable [Board]

/-- **A command.** -/
theorem Stores.targeted (hs : Stores env t cmd state s x s' x') (h : Targeted s x)
    (hdistinct : Distinct s)
    (hwhole : cmd.isBulk = false → cmd.isStream = false → cmd.dataLen - 1 = claimedLen cmd.data →
      ArenaCommand.ofByte (cmd.data 1) = some (.store .deletePatternFile) →
        DeletesWhole env (wordAt cmd.data 2 2) s x) :
    Targeted s' x' ∧ LeavesDownload x s.card s'.card := by
  have hcard : s'.card.WellFormed := hs.kept.wellFormed h.wellFormed
  have hidle (hx : x.active = false) (htransfers : x' = x) :
      Targeted s' x' ∧ LeavesDownload x s.card s'.card :=
    ⟨.of_idle hcard (by rw [htransfers, hx]), Targeted.leaves_of_idle hx _ _⟩
  cases hs with
  | same store transfers =>
    rw [store, transfers]
    exact ⟨h, fun _ _ => rfl⟩
  | seek legacy store transfers =>
    rw [store, transfers]
    exact ⟨h.same rfl rfl rfl rfl, fun _ _ => rfl⟩
  | opened patternId idle store transfers => exact hidle idle transfers
  | renamed idx name idle store transfers => exact hidle idle transfers
  | purged idle store transfers => exact hidle idle transfers
  | deleted idx err bulk stream sound claimed opcode index free run transfers =>
    have hspared := (Store.deletePattern_files env.sd idx s).2
    rw [run] at hspared
    refine ⟨deleted_targeted h hdistinct ?_ hcard free run transfers, h.leaves_of_spared hspared⟩
    rw [index]
    exact hwhole bulk stream sound opcode
  | downloads entry dl off free idx listed busy pattern file pos source size store transfers =>
    subst store transfers
    refine ⟨⟨hcard, ?_, h.ul, ?_⟩, fun _ _ => rfl⟩
    · rintro dl' ⟨⟩
      exact ⟨entry, pattern, file⟩
    · rintro dl' ⟨⟩ ul hul heq
      unfold Transfers.patternBusy at busy
      rw [hul, Option.any_some, decide_eq_true heq.symm, Bool.or_true] at busy
      cases busy
  | archives deadline off free quiet store transfers =>
    subst store transfers
    exact ⟨h.same rfl rfl rfl rfl, fun _ _ => rfl⟩
  | firmware idle kept spared patterns sd transfers => exact hidle idle transfers
  | refuses entry quiet free still target failed store transfers =>
    subst store transfers
    refine ⟨uploadCard_targeted h hdistinct target free ?_ rfl,
      h.leaves_of_spared (uploadCard_spared _ entry s.card)⟩
    rw [quiet]
    nofun
  | uploads entry id opcode len off quiet free still target opened store transfers =>
    subst store transfers
    refine ⟨uploadCard_targeted h hdistinct target free ?_ rfl,
      h.leaves_of_spared (uploadCard_spared _ entry s.card)⟩
    rintro ul ⟨⟩
    exact ⟨rfl, rfl, opened⟩

/-! ### Services -/

/-- What a service does to the upload: bytes are written to its file, or not, and its file is
given up, or not. -/
structure Tends (s s' : Store) (x x' : Transfers) : Prop where
  sd : s'.sd = s.sd
  goes : x.Goes x'
  phase : ∀ ul ∈ x.ul, ∀ ul' ∈ x'.ul, ul'.phase = .writing → ul.phase = .writing
  card : s'.card = s.card ∨ ∃ ul ∈ x.ul, ∃ card, (card = s.card ∨ (ul.phase = .writing ∧
    ∃ bytes, card = s.card.append ul.file bytes)) ∧ (s'.card = card ∨
      ((∀ ul' ∈ x'.ul, ul'.phase ≠ .writing) ∧ ∃ ok, s'.card = (card.remove ok ul.path).1))

omit [Board] in
theorem Tends.of_same (hstore : s' = s) (hgoes : x.Goes x') (hul : x'.ul = x.ul) : Tends s s' x x' := by
  refine ⟨by rw [hstore], hgoes, fun ul hmem ul' hmem' hphase => ?_, .inl (by rw [hstore])⟩
  rw [hul] at hmem'
  rwa [← Option.mem_unique hmem hmem'] at hphase

omit [Board] in
/-- **A service.** -/
theorem Tends.targeted (hs : Tends s s' x x') (h : Targeted s x) (hdistinct : Distinct s) :
    Targeted s' x' ∧ LeavesDownload x s.card s'.card := by
  have hdl (dl' : Download) (hmem' : dl' ∈ x'.dl) :
      ∃ dl ∈ x.dl, dl'.idx = dl.idx ∧ dl'.file = dl.file := by
    rcases hs.goes.dl with hnone | ⟨dl, dl₁, hdl, hdl₁, hkeeps⟩
    · rw [hnone] at hmem'
      cases hmem'
    · rw [hdl₁] at hmem'
      cases hmem'
      rw [Prod.mk.injEq, Prod.mk.injEq] at hkeeps
      exact ⟨dl, hdl, hkeeps.2.2, hkeeps.1⟩
  have hul (ul' : Upload) (hmem' : ul' ∈ x'.ul) : ∃ ul ∈ x.ul, ul'.idx = ul.idx ∧ ul'.path = ul.path ∧
      (ul'.phase = .writing → ul.phase = .writing ∧ ul'.file = ul.file) := by
    rcases hs.goes.ul with hnone | ⟨ul, ul₁, hul, hul₁, hkeeps⟩
    · rw [hnone] at hmem'
      cases hmem'
    · have hphase := hs.phase ul hul ul' hmem'
      rw [hul₁] at hmem'
      cases hmem'
      rw [Prod.mk.injEq, Prod.mk.injEq, Prod.mk.injEq] at hkeeps
      exact ⟨ul, hul, hkeeps.2.2.2, hkeeps.1, fun hwriting => ⟨hphase hwriting, hkeeps.2.1⟩⟩
  rcases hs.card with hcard | ⟨ul, hmem, card, hwritten, hend⟩
  · exact ⟨h.congr (hcard ▸ h.wellFormed) (by rw [hs.sd]) hdl hul (fun _ _ _ _ => by rw [hcard])
      (fun _ _ _ => by rw [hcard]), fun _ _ => by rw [hcard]⟩
  obtain ⟨entry, htarget, hpath, hopen⟩ := h.ul ul hmem
  have hfile (p : Sd.Path) : card.file p = s.card.file p := by
    rcases hwritten with rfl | ⟨-, bytes, rfl⟩
    · rfl
    · exact Card.file_append ..
  have hkey : card.key = s.card.key := by
    rcases hwritten with rfl | ⟨-, bytes, rfl⟩ <;> rfl
  have hwf : card.WellFormed := by
    rcases hwritten with rfl | ⟨-, bytes, rfl⟩
    · exact h.wellFormed
    · exact h.wellFormed.append ul.file bytes
  have hcontent (dl : Download) (hdl : dl ∈ x.dl) : card.content dl.file = s.card.content dl.file := by
    rcases hwritten with rfl | ⟨hphase, bytes, rfl⟩
    · rfl
    · obtain ⟨o, ho, hread⟩ := h.dl dl hdl
      refine (Card.append_spared ?_ bytes s.card).content (h.dl_apart hdl)
      intro heq
      have hsame : SameFile s.card o entry :=
        h.wellFormed.single hread (heq ▸ hopen hphase)
      exact h.apart dl hdl ul hmem (hdistinct.eq (Sd.target_of_pattern? ho) htarget hsame)
  have hother (dl : Download) (hdl : dl ∈ x.dl) (e : Entry) (he : s.sd.pattern? dl.idx = some e) :
      s'.card.file e.path = s.card.file e.path := by
    rcases hend with hend | ⟨-, ok, hend⟩
    · rw [hend, hfile]
    · rw [hend, hpath, Card.file_remove_of_ne ok, hfile]
      rw [Card.entry_eq_of_key hkey, Card.entry_eq_of_key hkey]
      intro hsame
      exact h.apart dl hdl ul hmem (hdistinct.eq (Sd.target_of_pattern? he) htarget hsame)
  have hwf' : s'.card.WellFormed := by
    rcases hend with hend | ⟨-, ok, hend⟩
    · rwa [hend]
    · rw [hend]
      exact hwf.remove ok ul.path
  refine ⟨h.congr hwf' (by rw [hs.sd]) hdl hul hother fun ul' hul' hwriting => ?_, fun dl hdl => ?_⟩
  · rcases hend with hend | ⟨hdraining, -⟩
    · rw [hend, hfile]
    · exact absurd hwriting (hdraining ul' hul')
  · rcases hend with hend | ⟨-, ok, hend⟩
    · rw [hend, hcontent dl hdl]
    · rw [hend, Card.remove_content, hcontent dl hdl]

omit [Board] in
/-- A chunk that is written, or fails the upload. -/
theorem writeChunk_tends {chunk : List UInt8} {ul ul' : Upload} {c c' : Controller}
    (h : (if ul.phase = .writing then c.writeChunk env chunk ul else (ul, c)) = (ul', c')) :
    ∃ card, (card = c.store.card ∨ (ul.phase = .writing ∧
      ∃ bytes, card = c.store.card.append ul.file bytes)) ∧
      ((ul'.phase = ul.phase ∧ c'.store.card = card) ∨
        (ul'.phase = .draining ∧ ∃ ok, c'.store.card = (card.remove ok ul.path).1)) := by
  split_ifs at h with hphase
  · rcases writeChunk_cases h with ⟨-, rfl, rfl⟩ | ⟨-, hfail⟩
    · exact ⟨_, .inr ⟨hphase, chunk, rfl⟩, .inl ⟨rfl, rfl⟩⟩
    · refine ⟨_, .inr ⟨hphase, chunk.take (env.sd.cap (.write ul.path 0)), rfl⟩, .inr ?_⟩
      unfold failUpload at hfail
      cases hfail
      exact ⟨rfl, _, rfl⟩
  · cases h
    exact ⟨_, .inl rfl, .inl ⟨rfl, rfl⟩⟩

theorem readChunk_tends {c : Controller} {ul : Upload} (hul : c.transfers.ul = some ul) :
    Tends c.store (c.readChunk env ul).store c.transfers (c.readChunk env ul).transfers := by
  have hserves : Serves c (c.readChunk env ul) := readChunk_serves hul
  have hsame (f : Source → Source) : Tends c.store (c.onSource ul.source f).store c.transfers
      (c.onSource ul.source f).transfers := .of_same rfl (.refl _) rfl
  unfold readChunk at hserves ⊢
  dsimp only at hserves ⊢
  generalize ((c.source ul.source).readBulkBytes ul.source env.cap (min ul.remaining chunkBytes)).2
    = chunk at hserves ⊢
  split_ifs at hserves ⊢
  · exact hsame _
  generalize hc₀ : c.onSource ul.source (fun _ =>
    ((c.source ul.source).readBulkBytes ul.source env.cap (min ul.remaining chunkBytes)).1) = c₀
    at hserves ⊢
  have hcard₀ : c₀.store.card = c.store.card := by
    rw [← hc₀]
    rfl
  obtain ⟨ul₁, c₁, deadline, hwrite, hend⟩ := takeChunk_cases env chunk ul c₀
  obtain ⟨card, hcard, hafter⟩ := writeChunk_tends hwrite
  rw [hcard₀] at hcard
  have hmade {c' : Controller} (hstore : c'.store.card = c₁.store.card) (hserves : Serves c c')
      (hphase : ∀ ul' ∈ c'.transfers.ul, ul'.phase = ul₁.phase) :
      Tends c.store c'.store c.transfers c'.transfers := by
    refine ⟨hserves.sd, hserves.transfers, fun ul₀ hmem ul' hmem' hwriting => ?_,
      .inr ⟨ul, hul, card, hcard, ?_⟩⟩
    · rw [hphase ul' hmem'] at hwriting
      rw [← Option.mem_unique hul hmem]
      rcases hafter with ⟨hkept, -⟩ | ⟨hdraining, -⟩
      · rwa [hkept] at hwriting
      · rw [hdraining] at hwriting
        cases hwriting
    · rw [hstore]
      rcases hafter with ⟨-, hkept⟩ | ⟨hdraining, ok, hremoved⟩
      · exact .inl hkept
      · refine .inr ⟨fun ul' hmem => ?_, ok, hremoved⟩
        rw [hphase ul' hmem, hdraining]
        decide
  rcases hend with ⟨-, -, hend⟩ | ⟨-, -, hend⟩ | ⟨-, hend⟩
  · rw [hend] at hserves ⊢
    exact hmade rfl hserves nofun
  · rw [hend] at hserves ⊢
    exact hmade rfl hserves nofun
  · rw [hend] at hserves ⊢
    refine hmade rfl hserves ?_
    rintro ul' ⟨⟩
    rfl

theorem serviceUpload_tends (env : Env) (c : Controller) :
    Tends c.store (c.serviceUpload env).store c.transfers (c.serviceUpload env).transfers := by
  unfold serviceUpload
  split
  · exact .of_same rfl (.refl _) rfl
  next ul hul =>
  unfold uploadStep
  split
  · split
    · refine ⟨rfl, ⟨.refl .., .inr ⟨ul, _, hul, rfl, rfl⟩, .refl ..⟩, ?_,
        .inr ⟨ul, hul, _, .inl rfl, .inr ⟨?_, env.sd.ok (.discard ul.path), rfl⟩⟩⟩
      · rintro ul₀ - ul' ⟨⟩ hwriting
        cases hwriting
      · rintro ul' ⟨⟩ hwriting
        cases hwriting
    · exact readChunk_tends hul
  · split
    · exact ⟨rfl, ⟨.refl .., .inl rfl, .refl ..⟩, fun _ _ => nofun, .inl rfl⟩
    · exact readChunk_tends hul

omit [Board] in
theorem serviceDisconnects_tends (env : Env) (c : Controller) :
    Tends c.store (c.serviceDisconnects env).store c.transfers
      (c.serviceDisconnects env).transfers := by
  have hserves := serviceDisconnects_serves env c
  have hdl : c.disconnectDownload.store = c.store ∧
      c.disconnectDownload.transfers.ul = c.transfers.ul := by
    unfold disconnectDownload
    split
    · split_ifs <;> exact ⟨rfl, rfl⟩
    · exact ⟨rfl, rfl⟩
  have hul (c : Controller) : ((c.disconnectUpload env).store = c.store ∧
      (c.disconnectUpload env).transfers.ul = c.transfers.ul) ∨
      ∃ ul ∈ c.transfers.ul, (c.disconnectUpload env).store.card
        = (c.store.card.remove (env.sd.ok (.discard ul.path)) ul.path).1 ∧
        (c.disconnectUpload env).transfers.ul = none := by
    unfold disconnectUpload
    split
    · next ul hsome =>
      split_ifs
      · exact .inl ⟨rfl, rfl⟩
      · exact .inr ⟨ul, hsome, rfl, rfl⟩
    · exact .inl ⟨rfl, rfl⟩
  have har (c : Controller) : c.disconnectArchive.store = c.store ∧
      c.disconnectArchive.transfers.ul = c.transfers.ul := by
    unfold disconnectArchive
    split
    · split_ifs <;> exact ⟨rfl, rfl⟩
    · exact ⟨rfl, rfl⟩
  have hlast := har (c.disconnectDownload.disconnectUpload env)
  change Tends c.store (c.disconnectDownload.disconnectUpload env).disconnectArchive.store _ _
  rcases hul c.disconnectDownload with ⟨hstore, hsame⟩ | ⟨ul, hsome, hcard, hnone⟩
  · exact .of_same (hlast.1.trans (hstore.trans hdl.1)) hserves.transfers
      (hlast.2.trans (hsame.trans hdl.2))
  · have hgone : (c.disconnectDownload.disconnectUpload env).disconnectArchive.transfers.ul = none :=
      hlast.2.trans hnone
    refine ⟨hserves.sd, hserves.transfers, fun _ _ ul' hmem => ?_,
      .inr ⟨ul, hdl.2 ▸ hsome, _, .inl rfl, .inr ⟨fun ul' hmem => ?_, env.sd.ok (.discard ul.path), ?_⟩⟩⟩
    · change ul' ∈ (c.disconnectDownload.disconnectUpload env).disconnectArchive.transfers.ul at hmem
      rw [hgone] at hmem
      cases hmem
    · change ul' ∈ (c.disconnectDownload.disconnectUpload env).disconnectArchive.transfers.ul at hmem
      rw [hgone] at hmem
      cases hmem
    · rw [hlast.1, hcard, hdl.1]

/-! ### Steps -/

/-- A step of a list whose patterns are all different files, that leaves no index behind. -/
structure Aligned (c : Controller) (i : Action × Env) : Prop where
  distinct : Distinct c.store
  deletes : ∀ t, i.1 = .processCommand t → c.hasBinary t = true →
    ArenaCommand.ofByte ((c.source t).rx.parsedCmd.data 1) = some (.store .deletePatternFile) →
      DeletesWhole i.2 (wordAt (c.source t).rx.parsedCmd.data 2 2) c.store c.transfers

instance (env : Env) (idx : ℕ) (s : Store) (x : Transfers) : Decidable (DeletesWhole env idx s x) :=
  inferInstanceAs (Decidable (_ → _ ∧ _))

omit [Board] in
/-- The two, checked link by link. -/
theorem aligned_iff (c : Controller) (i : Action × Env) : Aligned c i ↔ Distinct c.store ∧
    ∀ t ∈ [Transport.serial, .network], i.1 = .processCommand t → c.hasBinary t = true →
      ArenaCommand.ofByte ((c.source t).rx.parsedCmd.data 1) = some (.store .deletePatternFile) →
        DeletesWhole i.2 (wordAt (c.source t).rx.parsedCmd.data 2 2) c.store c.transfers := by
  constructor
  · rintro ⟨hdistinct, hdeletes⟩
    exact ⟨hdistinct, fun t _ => hdeletes t⟩
  · rintro ⟨hdistinct, hdeletes⟩
    refine ⟨hdistinct, fun t => hdeletes t ?_⟩
    cases t <;> simp

instance (c : Controller) (i : Action × Env) : Decidable (Aligned c i) :=
  decidable_of_iff _ (aligned_iff c i).symm

/-- **A step keeps the indices of the transfers, and the files that are downloaded.** -/
theorem step_targeted {c : Controller} {i : Action × Env} (h : Targeted c.store c.transfers)
    (hi : Aligned c i) : Targeted (c.step i).store (c.step i).transfers ∧
      LeavesDownload c.transfers c.store.card (c.step i).store.card := by
  unfold step
  split_ifs
  · exact ⟨h, fun _ _ => rfl⟩
  obtain ⟨a, env⟩ := i
  cases a with
  | arrive t bytes => exact ⟨h, fun _ _ => rfl⟩
  | disconnect => exact ⟨h, fun _ _ => rfl⟩
  | service t accepted => exact ⟨h, fun _ _ => rfl⟩
  | processCommand t =>
    change Targeted (c.processCommand env t).store (c.processCommand env t).transfers ∧
      LeavesDownload c.transfers c.store.card (c.processCommand env t).store.card
    rcases processCommand_stores env t c with heq | ⟨hready, howns, hstores⟩
    · rw [heq]
      exact ⟨h, fun _ _ => rfl⟩
    · refine hstores.targeted h hi.distinct fun hbulk hstream hsound hopcode => hi.deletes t rfl ?_ hopcode
      unfold hasBinary
      dsimp only
      rw [hready, howns, hbulk, hstream, decide_eq_true hsound]
      rfl
  | serviceDisplay => exact ⟨h, fun _ _ => rfl⟩
  | serviceTelemetry => exact ⟨h, fun _ _ => rfl⟩
  | serviceDownload =>
    have hsends := serviceDownload_sends env c
    have htends := Tends.of_same hsends.store (serviceDownload_serves env c).transfers hsends.ul
    exact htends.targeted h hi.distinct
  | serviceUpload => exact (serviceUpload_tends env c).targeted h hi.distinct
  | serviceArchive =>
    have hsends := serviceArchive_sends env c
    have htends := Tends.of_same hsends.store (serviceArchive_serves env c).transfers hsends.ul
    exact htends.targeted h hi.distinct
  | serviceDisconnects => exact (serviceDisconnects_tends env c).targeted h hi.distinct
  | serviceLateBootBlank => exact ⟨h, fun _ _ => rfl⟩
  | flushResponses t => exact ⟨h, fun _ _ => rfl⟩
  | refreshIsr => exact ⟨h, fun _ _ => rfl⟩

/-- **The file of a transfer.**  In a run whose list names different files and whose deletes leave
no index behind, the index of a download is the place of the file it reads, in the list as it is
then, and no step changes what that file holds; and the index of an upload that writes is the
place of the file it writes. -/
theorem transfers_on_target {boot : Boot} (hboot : boot.card.WellFormed) (env₀ : Env)
    {is : List (Action × Env)} (h : Along step Aligned (setup boot env₀) is) :
    let c := run step (setup boot env₀) is
    (∀ dl ∈ c.transfers.dl, ∃ entry, c.store.sd.pattern? dl.idx = some entry ∧
      c.store.card.file entry.path = some dl.file ∧
      ∀ i, Aligned c i → (c.step i).store.card.content dl.file = c.store.card.content dl.file) ∧
    ∀ ul ∈ c.transfers.ul, ul.phase = .writing → ∃ entry, c.store.sd.target ul.idx = some entry ∧
      ul.path = entry.path ∧ c.store.card.file entry.path = some ul.file := by
  have hinv : Targeted (run step (setup boot env₀) is).store (run step (setup boot env₀) is).transfers :=
    run_inv (I := fun c : Controller => Targeted c.store c.transfers) (C := Aligned)
      (fun c i hc hi => (step_targeted hc hi).1)
      (.of_idle ((begin_kept ..).wellFormed hboot) rfl) h
  dsimp only
  generalize run step (setup boot env₀) is = c at hinv
  constructor
  · intro dl hdl
    obtain ⟨entry, hentry, hfile⟩ := hinv.dl dl hdl
    exact ⟨entry, hentry, hfile, fun i hi => (step_targeted hinv hi).2 dl hdl⟩
  · intro ul hul hwriting
    obtain ⟨entry, hentry, hpath, hfile⟩ := hinv.ul ul hul
    exact ⟨entry, hentry, hpath, hfile hwriting⟩

end

end Controller

section

local instance targetBoard : Board := ⟨.hw2_10⟩

/-- The second pattern is downloaded over USB, and the first one deleted over TCP. -/
def deleteWhileDownloading : List (Action × Env) :=
  receive .serial [3, 0x84, 2, 0] (.calm Sd.goodIo)
    ++ (.service .network true, .calm Sd.goodIo) :: receive .network [3, 0x86, 1, 0] (.calm Sd.goodIo)

set_option maxRecDepth 100000 in
theorem transfers_on_target_moved :
    let c := run Controller.step (setup (.cold Sd.sampleCard) (.calm Sd.goodIo)) deleteWhileDownloading
    (∀ dl ∈ c.transfers.dl, ∃ entry, c.store.sd.pattern? dl.idx = some entry ∧
      c.store.card.file entry.path = some dl.file ∧ ∀ i, Controller.Aligned c i →
        (c.step i).store.card.content dl.file = c.store.card.content dl.file) ∧
    ∀ ul ∈ c.transfers.ul, ul.phase = .writing → ∃ entry, c.store.sd.target ul.idx = some entry ∧
      ul.path = entry.path ∧ c.store.card.file entry.path = some ul.file :=
  Controller.transfers_on_target Sd.sampleCard_wellFormed _ (by decide +kernel)

/-- A card that writes no manifest. -/
def noManifestIo : Sd.SdIo := { Sd.goodIo with
  ok op := op ≠ .openWrite .manifestBin }

/-- The same, where the delete does not write its manifest. -/
def deleteWithoutManifest : List (Action × Env) :=
  receive .serial [3, 0x84, 2, 0] (.calm Sd.goodIo)
    ++ (.service .network true, .calm Sd.goodIo) :: receive .network [3, 0x86, 1, 0] (.calm noManifestIo)

set_option maxRecDepth 100000 in
/-- **An index left behind.**  The download reads `b.pat`, and its index is the one of `c.pat`: that
is the one a delete is refused, and `b.pat` is not. -/
theorem index_left_behind :
    let c := run Controller.step (setup (.cold Sd.sampleCard) (.calm Sd.goodIo)) deleteWithoutManifest
    c.transfers.dl.map (fun dl => (dl.idx, dl.file)) = some (2, 1) ∧
      (c.store.sd.pattern? 2).map Entry.name = some (Sd.samplePat 0x63) ∧
      c.transfers.patternBusy 1 = false := by
  decide +kernel

end

end Command
end G6Arena
