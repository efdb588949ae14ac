/-
# What a service does

The services of the transfers leave the display and the list of patterns; a transfer that is
active goes on with its file and its source, or ends (`Goes`).
-/

import G6Arena.Command.Steps

namespace G6Arena
namespace Command

open ByteMem Link
open Sd (Card Store)

/-! ### Transfers -/

/-- A transfer that was active has ended, or goes on with what `keep` names of it. -/
def Keeps {α β : Type} (keep : α → β) (o o' : Option α) : Prop :=
  o' = none ∨ ∃ a a', o = some a ∧ o' = some a' ∧ keep a' = keep a

namespace Keeps

variable {α β : Type} {keep : α → β} {o o' : Option α}

theorem refl (keep : α → β) (o : Option α) : Keeps keep o o := by
  cases o with
  | none => exact .inl rfl
  | some a => exact .inr ⟨a, a, rfl, rfl, rfl⟩

theorem eq_none (h : Keeps keep o o') (ho : o = none) : o' = none := by
  rcases h with h | ⟨a, a', rfl, -, -⟩
  · exact h
  · cases ho

theorem isSome (h : Keeps keep o o') (hsome : o'.isSome = true) : o.isSome = true := by
  rcases h with rfl | ⟨a, a', rfl, -, -⟩
  · cases hsome
  · rfl

theorem trans {o'' : Option α} (h : Keeps keep o o') (h' : Keeps keep o' o'') :
    Keeps keep o o'' := by
  rcases h' with rfl | ⟨a', a'', rfl, rfl, hkeep'⟩
  · exact .inl rfl
  · rcases h with h | ⟨a, b, rfl, hb, hkeep⟩
    · cases h
    · cases hb
      exact .inr ⟨a, a'', rfl, rfl, hkeep'.trans hkeep⟩

theorem any (h : Keeps keep o o') {p : α → Bool} (hp : ∀ a a', keep a' = keep a → p a' = p a)
    (hany : o'.any p = true) : o.any p = true := by
  rcases h with rfl | ⟨a, a', rfl, rfl, hkeep⟩
  · cases hany
  · exact (hp a a' hkeep).symm.trans hany

end Keeps

namespace Transfers

/-- Each transfer has ended, or goes on with its file, its source and its index. -/
structure Goes (x x' : Transfers) : Prop where
  dl : Keeps (fun dl : Download => (dl.file, dl.source, dl.idx)) x.dl x'.dl
  ul : Keeps (fun ul : Upload => (ul.path, ul.file, ul.source, ul.idx)) x.ul x'.ul
  ar : Keeps (fun ar : Archive => ar.source) x.ar x'.ar

variable {x x' : Transfers}

theorem Goes.refl (x : Transfers) : Goes x x := ⟨.refl .., .refl .., .refl ..⟩

theorem Goes.trans {x'' : Transfers} (h : Goes x x') (h' : Goes x' x'') : Goes x x'' :=
  ⟨h.dl.trans h'.dl, h.ul.trans h'.ul, h.ar.trans h'.ar⟩

theorem Goes.active (h : Goes x x') (hactive : x'.active = true) : x.active = true := by
  unfold Transfers.active at hactive ⊢
  rw [Bool.or_eq_true, Bool.or_eq_true] at hactive ⊢
  rcases hactive with (hdl | hul) | har
  · exact .inl (.inl (h.dl.isSome hdl))
  · exact .inl (.inr (h.ul.isSome hul))
  · exact .inr (h.ar.isSome har)

end Transfers

namespace Controller

/-- What the service of a transfer leaves. -/
structure Serves (c c' : Controller) : Prop where
  display : c'.display = c.display
  sd : c'.store.sd = c.store.sd
  transfers : c.transfers.Goes c'.transfers
  halted : c'.halted = c.halted

theorem Serves.refl (c : Controller) : Serves c c := ⟨rfl, rfl, .refl _, rfl⟩

theorem Serves.trans {c c' c'' : Controller} (h : Serves c c') (h' : Serves c' c'') :
    Serves c c'' :=
  ⟨h'.display.trans h.display, h'.sd.trans h.sd, h.transfers.trans h'.transfers,
    h'.halted.trans h.halted⟩

variable {env : Env} {c : Controller}

theorem serviceDownload_serves (env : Env) (c : Controller) : Serves c (c.serviceDownload env) := by
  unfold serviceDownload
  split
  · exact .refl c
  next dl hdl =>
  have hend : Serves c (c.withDl none) := ⟨rfl, rfl, ⟨.inl rfl, .refl .., .refl ..⟩, rfl⟩
  unfold downloadStep
  dsimp only
  split_ifs
  · exact hend
  · exact hend
  · exact hend
  · exact ⟨rfl, rfl, ⟨.inl rfl, .refl .., .refl ..⟩, rfl⟩
  · exact ⟨rfl, rfl, ⟨.inl rfl, .refl .., .refl ..⟩, rfl⟩
  · exact ⟨rfl, rfl, ⟨.inr ⟨dl, _, hdl, rfl, rfl⟩, .refl .., .refl ..⟩, rfl⟩

theorem archiveSend_serves {ar next : Archive} (har : c.transfers.ar = some ar)
    (hnext : next.source = ar.source) (bytes : List UInt8) :
    Serves c (c.archiveSend env ar bytes next) := by
  unfold archiveSend
  dsimp only
  split_ifs
  · exact ⟨rfl, rfl, ⟨.refl .., .refl .., .inl rfl⟩, rfl⟩
  · exact ⟨rfl, rfl, ⟨.refl .., .refl .., .inr ⟨ar, _, har, rfl, hnext⟩⟩, rfl⟩

theorem serviceArchive_serves (env : Env) (c : Controller) : Serves c (c.serviceArchive env) := by
  unfold serviceArchive
  split
  · exact .refl c
  next ar har =>
  have hend : Serves c (c.withAr none) := ⟨rfl, rfl, ⟨.refl .., .refl .., .inl rfl⟩, rfl⟩
  unfold archiveStep
  dsimp only
  split
  · exact hend
  split
  · exact archiveSend_serves har (by rfl) _
  · split
    · exact ⟨rfl, rfl, ⟨.refl .., .refl .., .inr ⟨ar, _, har, rfl, rfl⟩⟩, rfl⟩
    · unfold archiveData
      dsimp only
      split
      · split <;> exact archiveSend_serves har (by rfl) _
      · exact archiveSend_serves har (by rfl) _
  · exact archiveSend_serves har (by rfl) _
  · exact archiveSend_serves har (by rfl) _
  · exact ⟨rfl, rfl, ⟨.refl .., .refl .., .inl rfl⟩, rfl⟩
  · exact hend

/-- A chunk is written whole, or the upload fails. -/
theorem writeChunk_cases {chunk : List UInt8} {ul ul' : Upload} {c' : Controller}
    (h : c.writeChunk env chunk ul = (ul', c')) :
    (chunk.length ≤ env.sd.cap (.write ul.path 0) ∧ ul' = ul ∧
      c' = c.withCard (c.store.card.append ul.file chunk)) ∨
    (env.sd.cap (.write ul.path 0) < chunk.length ∧
      (c.withCard (c.store.card.append ul.file (chunk.take (env.sd.cap (.write ul.path 0))))).failUpload
        env (ascii "SD write error (card full?)") ul = (ul', c')) := by
  unfold writeChunk at h
  dsimp only at h
  rw [List.length_take] at h
  split_ifs at h with hshort
  · exact .inr ⟨by omega, h⟩
  · have hle : chunk.length ≤ env.sd.cap (.write ul.path 0) := by omega
    rw [List.take_of_length_le hle] at h
    cases h
    exact .inl ⟨hle, rfl, rfl⟩

/-- A chunk is taken: it is written or not, then the upload is over or goes on. -/
theorem takeChunk_cases (env : Env) (chunk : List UInt8) (ul : Upload) (c : Controller) :
    ∃ ul₁ c₁ deadline, (if ul.phase = .writing then c.writeChunk env chunk ul else (ul, c)) = (ul₁, c₁) ∧
      ((ul₁.remaining - chunk.length = 0 ∧ ul₁.phase = .draining ∧ c.takeChunk env chunk ul
          = c₁.finishUpload { ul₁ with remaining := 0, deadline := deadline }
            ul₁.failStatus ul₁.failMsg) ∨
        (ul₁.remaining - chunk.length = 0 ∧ ul₁.phase = .writing ∧ c.takeChunk env chunk ul
          = c₁.finishUpload { ul₁ with remaining := 0, deadline := deadline } 0 []) ∨
        (ul₁.remaining - chunk.length ≠ 0 ∧ c.takeChunk env chunk ul = c₁.withUl (some { ul₁ with
          remaining := ul₁.remaining - chunk.length, deadline := deadline }))) := by
  generalize hwrite : (if ul.phase = .writing then c.writeChunk env chunk ul else (ul, c)) = r
  obtain ⟨ul₁, c₁⟩ := r
  unfold takeChunk
  rw [hwrite]
  dsimp only
  cases hphase : ul₁.phase with
  | writing =>
    refine ⟨ul₁, c₁, (env.millis 2 + kUploadIdleTimeoutMs) % 2 ^ 32, rfl, ?_⟩
    rw [if_pos rfl]
    dsimp only
    split_ifs with hdone
    · rw [hdone]
      exact .inr (.inl ⟨rfl, hphase, by rw [← hphase]⟩)
    · exact .inr (.inr ⟨hdone, by rw [← hphase]⟩)
  | draining =>
    refine ⟨ul₁, c₁, ul₁.deadline, rfl, ?_⟩
    rw [if_neg (show UploadPhase.draining ≠ .writing by decide)]
    dsimp only
    split_ifs with hdone
    · rw [hdone]
      exact .inl ⟨rfl, hphase, by rw [← hphase]⟩
    · exact .inr (.inr ⟨hdone, by rw [← hphase]⟩)

/-- What an upload keeps. -/
def uploadKeeps (ul : Upload) : Sd.Path × Sd.FileId × Transport × ℕ :=
  (ul.path, ul.file, ul.source, ul.idx)

/-- Writing a chunk changes the card alone. -/
theorem writeChunk_keeps {chunk : List UInt8} {ul ul' : Upload} {c' : Controller}
    (h : (if ul.phase = .writing then c.writeChunk env chunk ul else (ul, c)) = (ul', c')) :
    c'.display = c.display ∧ c'.store.sd = c.store.sd ∧ c'.transfers = c.transfers ∧
      c'.source = c.source ∧ c'.halted = c.halted ∧ uploadKeeps ul' = uploadKeeps ul ∧
      ul'.remaining = ul.remaining := by
  split_ifs at h
  · rcases writeChunk_cases h with ⟨-, rfl, rfl⟩ | ⟨-, hfail⟩
    · exact ⟨rfl, rfl, rfl, rfl, rfl, rfl, rfl⟩
    · unfold failUpload at hfail
      generalize (env.millis 1 + kUploadDrainTimeoutMs) % 2 ^ 32 = deadline at hfail
      cases hfail
      exact ⟨rfl, rfl, rfl, rfl, rfl, rfl, rfl⟩
  · cases h
    exact ⟨rfl, rfl, rfl, rfl, rfl, rfl, rfl⟩

section

variable [Board]

theorem readChunk_serves {ul : Upload} (hul : c.transfers.ul = some ul) :
    Serves c (c.readChunk env ul) := by
  unfold readChunk
  dsimp only
  split_ifs
  · exact ⟨rfl, rfl, .refl _, rfl⟩
  generalize ((c.source ul.source).readBulkBytes ul.source env.cap (min ul.remaining chunkBytes)).2
    = chunk
  generalize hc₀ : c.onSource ul.source (fun _ =>
    ((c.source ul.source).readBulkBytes ul.source env.cap (min ul.remaining chunkBytes)).1) = c₀
  obtain ⟨ul₁, c₁, deadline, hwrite, hend⟩ := takeChunk_cases env chunk ul c₀
  obtain ⟨hdisplay, hsd, htransfers, -, hhalted, hkeep, -⟩ := writeChunk_keeps hwrite
  subst hc₀
  have hgoes (ul' : Option Upload) (h : Keeps uploadKeeps c.transfers.ul ul') :
      c.transfers.Goes { c₁.transfers with ul := ul' } := by
    rw [htransfers]
    exact ⟨.refl .., h, .refl ..⟩
  rcases hend with ⟨-, -, hend⟩ | ⟨-, -, hend⟩ | ⟨-, hend⟩
  · rw [hend]
    exact ⟨hdisplay, hsd, hgoes none (.inl rfl), hhalted⟩
  · rw [hend]
    exact ⟨hdisplay, hsd, hgoes none (.inl rfl), hhalted⟩
  · rw [hend]
    exact ⟨hdisplay, hsd, hgoes _ (.inr ⟨ul, _, hul, rfl, hkeep⟩), hhalted⟩

theorem serviceUpload_serves (env : Env) (c : Controller) : Serves c (c.serviceUpload env) := by
  unfold serviceUpload
  split
  · exact .refl c
  next ul hul =>
  unfold uploadStep
  split
  · split
    · exact ⟨rfl, rfl, ⟨.refl .., .inr ⟨ul, _, hul, rfl, rfl⟩, .refl ..⟩, rfl⟩
    · exact readChunk_serves hul
  · split
    · exact ⟨rfl, rfl, ⟨.refl .., .inl rfl, .refl ..⟩, rfl⟩
    · exact readChunk_serves hul

end

/-- The transfers of a client that is lost end. -/
theorem serviceDisconnects_serves (env : Env) (c : Controller) :
    Serves c (c.serviceDisconnects env) := by
  have hdl : Serves c c.disconnectDownload := by
    unfold disconnectDownload
    split
    · split_ifs
      · exact .refl c
      · exact ⟨rfl, rfl, ⟨.inl rfl, .refl .., .refl ..⟩, rfl⟩
    · exact .refl c
  have hul (c : Controller) : Serves c (c.disconnectUpload env) := by
    unfold disconnectUpload
    split
    · split_ifs
      · exact .refl c
      · exact ⟨rfl, rfl, ⟨.refl .., .inl rfl, .refl ..⟩, rfl⟩
    · exact .refl c
  have har (c : Controller) : Serves c c.disconnectArchive := by
    unfold disconnectArchive
    split
    · split_ifs
      · exact .refl c
      · exact ⟨rfl, rfl, ⟨.refl .., .refl .., .inl rfl⟩, rfl⟩
    · exact .refl c
  exact hdl.trans ((hul _).trans (har _))

end Controller
end Command
end G6Arena
