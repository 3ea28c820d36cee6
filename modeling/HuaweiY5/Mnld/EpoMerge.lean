import HuaweiY5.Mnld.EpoDownload

/-!
# `Mnld.EpoMerge` — what is in EPOHAL.DAT when it is handed over

EPOHAL.DAT grows by every piece that arrives, before the piece is looked at, and with EPO_DONE the main thread
hands it to libmnl whatever the result is. So it is handed over incomplete after a download that was given up, and
with bytes of a piece twice where a piece too short for a record came after others and was asked for again.
`epo_file_merged` says that there is no other way: in a run without the two the file has all pieces, in order and
once each.
-/

namespace HuaweiY5.Mnld

open List
open EpoSystem (afterMain singleFlight_step)

open Codec (Byte)

/-! ## The system -/

/-- The two threads with their sockets, and what the EPO thread works on. -/
structure EpoFiles where
  system : EpoSystem
  epo : EpoDownloader

/-- The steps. `epoDone` comes with what `mtk_agps_agent_epo_file_update` answers, should it be called. -/
inductive EpoFilesEvent
  | main (e : MainEvent)
  | updateNetworkState (cfg : EpoConfig) (connected type roaming : Int) (extraInfo : String)
  | epoDone (accepted : Bool)
  | epoTakesStart
  | epoPass (p : EpoPass)

namespace EpoFiles

/-- A step of the threads that leaves the files alone. -/
def systemStep (s : EpoFiles) (e : EpoEvent) : EpoFiles × List EpoOutput :=
  ({ s with system := (s.system.step e).1 }, (s.system.step e).2)

/-- `epo_update_epo_file`, in the handler of EPO_DONE: the file goes once libmnl has it. -/
def handOver (accepted : Bool) (outs : List EpoOutput) (epo : EpoDownloader) : EpoDownloader :=
  if .epoUpdateEpoFile ∈ outs ∧ accepted = true then { epo with epohal := none } else epo

def enabled (s : EpoFiles) : EpoFilesEvent → Prop
  | .main e => s.system.enabled (.main e)
  | .updateNetworkState cfg connected type roaming extraInfo =>
    s.system.enabled (.updateNetworkState cfg connected type roaming extraInfo)
  | .epoDone _ => s.system.enabled .epoDone
  | .epoTakesStart => s.system.enabled .epoTakesStart
  | .epoPass _ => s.system.downloading = true

def step (cfg : EpoSetup) (s : EpoFiles) : EpoFilesEvent → EpoFiles × List EpoOutput
  | .main e => s.systemStep (.main e)
  | .updateNetworkState net connected type roaming extraInfo =>
    s.systemStep (.updateNetworkState net connected type roaming extraInfo)
  | .epoDone accepted =>
    let r := s.system.step .epoDone
    (⟨r.1, handOver accepted r.2 s.epo⟩, r.2)
  | .epoTakesStart =>
    let r := s.system.step .epoTakesStart
    (⟨r.1, s.epo.begin⟩, r.2)
  | .epoPass p =>
    match epoPass cfg p s.epo with
    | (epo, none) => ({ s with epo := epo }, [])
    | (epo, some result) =>
      let r := s.system.step (.epoFinishes result)
      (⟨r.1, epo⟩, r.2)

/-- mnld at its start, with the files an earlier one has left. -/
def machine (cfg : EpoSetup) (epohal : Option (List Byte)) (pieces : Pieces) :
    Transducer EpoFiles EpoFilesEvent EpoOutput where
  init := ⟨EpoSystem.machine.init, { EpoDownloader.init with epohal := epohal, pieces := pieces }⟩
  enabled := enabled
  step := step cfg

end EpoFiles

/-! ## The file and the pieces -/

/-- EPOHAL.DAT is the first `n` pieces, in order and once each, as they were counted in this call. -/
def Merged (n : Nat) (s : EpoDownloader) : Prop :=
  ∃ contents : List (List Byte), contents.length = n ∧
    (∀ k content, contents[k]? = some content → (k, content) ∈ s.counted) ∧ s.epohal = some contents.flatten

/-- While the download goes on: the pieces counted so far, where there are any. -/
def Merging (s : EpoDownloader) : Prop := s.fileCount = 0 ∨ Merged s.fileCount s

/-- `Merging` up to the last piece and `Merged` with it. -/
structure Assembled (n : Nat) (s : EpoDownloader) : Prop where
  merging : ¬ s.HasCounted (n - 1) → Merging s
  merged : s.HasCounted (n - 1) → Merged n s

/-- What the file and the count are made from. -/
structure SameFiles (s s' : EpoDownloader) : Prop where
  count : s'.fileCount = s.fileCount
  counted : s'.counted = s.counted
  epohal : s'.epohal = s.epohal

theorem SameFiles.refl (s : EpoDownloader) : SameFiles s s := ⟨rfl, rfl, rfl⟩

variable {s s' : EpoDownloader}

theorem SameFiles.merged {n : Nat} (h : SameFiles s s') (hmerged : Merged n s) : Merged n s' := by
  obtain ⟨contents, hlength, hcounted, hfile⟩ := hmerged
  exact ⟨contents, hlength, fun k content hk => h.counted ▸ hcounted k content hk, h.epohal.trans hfile⟩

theorem SameFiles.merging (h : SameFiles s s') (hmerging : Merging s) : Merging s' := by
  rcases hmerging with hzero | hmerged
  · exact .inl (h.count.trans hzero)
  · exact .inr (h.count ▸ h.merged hmerged)

theorem Assembled.congr {n : Nat} (h : Assembled n s) (hsame : SameFiles s s') : Assembled n s' where
  merging := fun hopen => hsame.merging (h.merging (fun hlast =>
    hopen ((HasCounted.of_counted_eq hsame.counted _).mpr hlast)))
  merged := fun hlast => hsame.merged (h.merged ((HasCounted.of_counted_eq hsame.counted _).mp hlast))

theorem Assembled.restart {n : Nat} (hopen : ¬ s.HasCounted (n - 1)) (hcount : s'.fileCount = 0)
    (hcounted : s'.counted = s.counted) : Assembled n s' where
  merging := fun _ => .inl hcount
  merged := fun hlast => absurd ((HasCounted.of_counted_eq hcounted _).mp hlast) hopen

theorem Merging.snoc {content : List Byte} (h : Merging s)
    (hcounted : s'.counted = s.counted ++ [(s.fileCount, content)])
    (hfile : s'.epohal = some ((if s.fileCount = 0 then [] else s.epohal.getD []) ++ content)) :
    Merged (s.fileCount + 1) s' := by
  have hmem : ∀ k c, (k, c) ∈ s.counted → (k, c) ∈ s'.counted := fun k c hc => by
    rw [hcounted]
    exact mem_append_left _ hc
  have hnew : (s.fileCount, content) ∈ s'.counted := by rw [hcounted]; simp
  rcases h with hzero | ⟨contents, hlength, hcontents, hold⟩
  · refine ⟨[content], by simp [hzero], fun k c hk => ?_, ?_⟩
    · obtain ⟨rfl, rfl⟩ : k = 0 ∧ content = c := by
        cases k with
        | zero => exact ⟨rfl, by simpa using hk⟩
        | succ k => simp at hk
      rw [hzero] at hnew
      exact hnew
    · rw [hfile, if_pos hzero]
      simp
  · refine ⟨contents ++ [content], by simp [hlength], fun k c hk => ?_, ?_⟩
    · rcases Nat.lt_or_ge k contents.length with hlt | hge
      · rw [getElem?_append_left hlt] at hk
        exact hmem k c (hcontents k c hk)
      · rw [getElem?_append_right hge] at hk
        obtain ⟨hindex, rfl⟩ : k = contents.length ∧ content = c := by
          cases hsub : k - contents.length with
          | zero => rw [hsub] at hk; exact ⟨by omega, by simpa using hk⟩
          | succ j => rw [hsub] at hk; simp at hk
        rw [hindex, hlength]
        exact hnew
    · rw [hfile]
      by_cases hzero : s.fileCount = 0
      · have hnil : contents = [] := length_eq_zero_iff.mp (hlength.trans hzero)
        simp [hzero, hnil]
      · rw [if_neg hzero, hold]
        simp

/-! ## One piece -/

/-- A piece after the first arrives with something in it, but too short for a record. -/
def LateShort (cfg : EpoSetup) (sv : EpoServer) (s : EpoDownloader) : Prop :=
  0 < s.fileCount ∧ ∃ content, s.fetched cfg sv = .data content ∧ Short content ∧ content ≠ []

/-- A piece that is refused leaves the file as it was, or at the count of 0 leaves something to begin anew. -/
theorem merging_rejected {cfg : EpoSetup} {sv : EpoServer} {content : List Byte} {failed : Bool} (h : Merging s)
    (hfetch : s.fetched cfg sv = .data content) (hshort : Short content)
    (hlate : ¬ LateShort cfg sv s) : Merging { s.store content with downloadFailed := failed } := by
  rcases h with hzero | ⟨contents, hlength, hcontents, hfile⟩
  · exact .inl hzero
  · by_cases hzero : s.fileCount = 0
    · exact .inl hzero
    · have hnil : content = [] := by
        by_contra hne
        exact hlate ⟨Nat.pos_of_ne_zero hzero, content, hfetch, hshort, hne⟩
      refine .inr ⟨contents, hlength, hcontents, ?_⟩
      show some ((if s.fileCount = 0 then [] else s.epohal.getD []) ++ content) = _
      rw [if_neg hzero, hfile, hnil]
      simp

/-- **One piece keeps the file assembled.** -/
theorem Updates.assembled {cfg : EpoSetup} {sv : EpoServer} (h : Updates cfg sv s s')
    (hprogress : Progress cfg.wanted s) (hassembled : Assembled cfg.wanted s)
    (hlate : ¬ LateShort cfg sv s) : Assembled cfg.wanted s' := by
  have hmerging := hassembled.merging hprogress.unfinished
  cases h with
  | unfetched hfetch hpieces => exact hassembled.congr ⟨rfl, rfl, rfl⟩
  | rejected hfetch hshort =>
    refine ⟨fun _ => ?_, fun hlast => absurd hlast hprogress.unfinished⟩
    exact merging_rejected hmerging hfetch (hprogress.short hshort) hlate
  | restarted hfetch hpos hfailed => exact Assembled.restart hprogress.unfinished rfl rfl
  | counted hfetch hlong hmore =>
    have hlt : s.fileCount + 1 < cfg.wanted := (last_piece_iff hprogress.more).mp hmore
    refine ⟨fun _ => .inr (hmerging.snoc rfl rfl), fun hlast => ?_⟩
    rcases (HasCounted.snoc (s := s) rfl _).mp hlast with hold | hnew
    · exact absurd hold hprogress.unfinished
    · omega
  | completed hfetch hlong hlast =>
    rw [hprogress.last hlast]
    exact ⟨fun hopen => absurd ((HasCounted.snoc (s := s) rfl _).mpr (.inr rfl)) hopen, fun _ => hmerging.snoc rfl rfl⟩

/-! ## One pass -/

def Asks (cfg : EpoSetup) (p : EpoPass) (s : EpoDownloader) : Prop :=
  p.qepoDownloadFinished = true ∧
    (s.dataUpdated = true ∨
      (p.gpsStarted || p.wifiConnected) = true ∧
        (p.networkConnected && (s.downloadRetry || p.timerBefore)) = true ∧ staleData cfg p s.epohal = false)

inductive FilesStep (cfg : EpoSetup) (p : EpoPass) (s s' : EpoDownloader) : Prop
  | same (h : SameFiles s s')
  | startOver (hcount : s'.fileCount = 0) (hcounted : s'.counted = s.counted)
  | update {s₁ s₂ : EpoDownloader} (hasks : Asks cfg p s) (h : Updates cfg p.server s₁ s₂)
      (hbefore : SameFiles s s₁) (hcounter : s₁.counter = s.counter) (hpieces : s₁.pieces = s.pieces)
      (hafter : SameFiles s₂ s')

theorem countRetry_sameFiles (s : EpoDownloader) : SameFiles s (countRetry s) := by
  rcases countRetry_cases s with ⟨-, heq⟩ | ⟨-, fileRetrying, retryTime, heq⟩ <;> rw [heq] <;>
    exact ⟨rfl, rfl, rfl⟩

theorem retry_filesStep (cfg : EpoSetup) (p : EpoPass) (hqepo : p.qepoDownloadFinished = true) :
    FilesStep cfg p s (epoFileUpdateRetry cfg p (s.timed p)) := by
  unfold epoFileUpdateRetry
  dsimp only
  split
  · rename_i hon
    split
    · rename_i hnet
      split
      · -- the data is stale
        split
        · exact .startOver (countRetry_sameFiles _).count (countRetry_sameFiles _).counted
        · exact .startOver rfl rfl
      · rename_i hstale
        have hasks : Asks cfg p s := ⟨hqepo, .inr ⟨hon, hnet, Bool.eq_false_iff.mpr hstale⟩⟩
        have hupdates := mtkGpsEpoFileUpdate_updates cfg p.server (s.timed p).retrying
        split
        · exact .update hasks hupdates ⟨rfl, rfl, rfl⟩ rfl rfl (countRetry_sameFiles _)
        · exact .update hasks hupdates ⟨rfl, rfl, rfl⟩ rfl rfl (SameFiles.refl _)
    · split
      · split <;> exact .same ⟨rfl, rfl, rfl⟩
      · exact .same ⟨rfl, rfl, rfl⟩
  · exact .same ⟨rfl, rfl, rfl⟩

theorem epoPass_filesStep (cfg : EpoSetup) (p : EpoPass) (s : EpoDownloader) :
    FilesStep cfg p s (epoPass cfg p s).1 := by
  unfold epoPass
  dsimp only
  split
  · rename_i hqepo
    split
    · rename_i hupdated
      refine .update ⟨hqepo, .inl hupdated⟩ (mtkGpsEpoFileUpdate_updates cfg p.server
        { s.timed p with downloadFailed := false }) ⟨rfl, rfl, rfl⟩ rfl rfl ?_
      split
      · exact ⟨rfl, rfl, rfl⟩
      · exact SameFiles.refl _
    · split
      · exact retry_filesStep cfg p hqepo
      · exact .same ⟨rfl, rfl, rfl⟩
  · exact .same ⟨rfl, rfl, rfl⟩

/-- A pass that does neither of the two things: it gives nothing up, and gets no late short piece. -/
def SoundPass (cfg : EpoSetup) (p : EpoPass) (s : EpoDownloader) : Prop :=
  ¬ PassGivesUp cfg p s ∧ ¬ (Asks cfg p s ∧ LateShort cfg p.server s)

/-- **One pass of a download that goes on.** -/
theorem epoPass_assembled {cfg : EpoSetup} {p : EpoPass} (hworking : Working cfg.wanted s)
    (hassembled : Assembled cfg.wanted s) (hsound : SoundPass cfg p s) :
    (Working cfg.wanted (epoPass cfg p s).1 ∨ Completed cfg.wanted (epoPass cfg p s).1) ∧
      Assembled cfg.wanted (epoPass cfg p s).1 := by
  obtain ⟨hgives, hlate⟩ := hsound
  constructor
  · rcases (epoPass_working (p := p) hworking).2 with ⟨-, -, hgave⟩ | ⟨hnext, -⟩
    · exact absurd hgave hgives
    · exact hnext
  · cases epoPass_filesStep cfg p s with
    | same h => exact hassembled.congr h
    | startOver hcount hcounted => exact Assembled.restart hworking.unfinished hcount hcounted
    | update hasks hupdates hbefore hcounter hpieces hafter =>
      refine (hupdates.assembled ?_ (hassembled.congr hbefore) ?_).congr hafter
      · exact hworking.toProgress.congr hbefore.count hbefore.counted (fun i _ => congrFun hpieces i)
      · rintro ⟨hpos, content, hfetch, hshort⟩
        rw [hbefore.count] at hpos
        rw [EpoDownloader.fetched, hbefore.count, hcounter] at hfetch
        exact hlate ⟨hasks, hpos, content, hfetch, hshort⟩

/-! ## Runs -/

namespace EpoFiles

/-- The file is complete while a result is on its way to the main thread, and assembled while there will be one. -/
structure Inv (cfg : EpoSetup) (s : EpoFiles) : Prop where
  single : s.system.SingleFlight
  working : s.system.downloading = true →
    (Working cfg.wanted s.epo ∨ Completed cfg.wanted s.epo) ∧ Assembled cfg.wanted s.epo
  done : s.system.toMain ≠ [] → Merged cfg.wanted s.epo

/-- The condition on a step: a pass of the loop is a sound one. -/
def Sound (cfg : EpoSetup) (y : Transducer.Entry EpoFiles EpoFilesEvent EpoOutput) : Prop :=
  ∀ p, y.event = .epoPass p → SoundPass cfg p y.pre.epo

theorem inFlight_le {s : EpoSystem} (h : s.SingleFlight) : s.toEpo + s.downloading.toNat + s.toMain.length ≤ 1 := by
  have hle := Bool.toNat_le s.ctx.mnld.isEpoDownloading
  have hfly : s.toEpo + s.downloading.toNat + s.toMain.length = s.ctx.mnld.isEpoDownloading.toNat := h
  omega

variable {s : EpoFiles}

theorem Inv.systemStep {cfg : EpoSetup} (h : s.Inv cfg) {e : EpoEvent} (hen : EpoSystem.machine.enabled s.system e)
    (hsame : (s.system.step e).1.downloading = s.system.downloading)
    (hqueue : (s.system.step e).1.toMain = s.system.toMain) : (s.systemStep e).1.Inv cfg where
  single := singleFlight_step s.system e h.single hen
  working := fun hbusy => h.working (hsame ▸ hbusy)
  done := fun hqueued => h.done (hqueue ▸ hqueued)

theorem Inv.epoPass {cfg : EpoSetup} (h : s.Inv cfg) {p : EpoPass} (hbusy : s.system.downloading = true)
    (hsound : SoundPass cfg p s.epo) : (step cfg s (.epoPass p)).1.Inv cfg := by
  obtain ⟨hphase, hassembled⟩ := h.working hbusy
  have hnone : s.system.toMain = [] := by
    have hle := inFlight_le h.single
    rw [hbusy] at hle
    exact length_eq_zero_iff.mp (by simp only [Bool.toNat_true] at hle; omega)
  rcases hphase with hworking | hdone
  · have hnext := epoPass_assembled hworking hassembled hsound
    have hstep : step cfg s (.epoPass p) = ({ s with epo := (Mnld.epoPass cfg p s.epo).1 }, []) := by
      rw [step, show Mnld.epoPass cfg p s.epo = (_, none) from Prod.ext rfl (epoPass_working hworking).1]
    rw [hstep]
    exact ⟨h.single, fun _ => hnext, fun hqueued => absurd hnone hqueued⟩
  · obtain ⟨hstate, hresult⟩ := epoPass_ended cfg p hdone.ended
    have hmerged := hassembled.merged (hdone.counted _ (Nat.sub_one_lt_of_lt (pieceCount_pos _)))
    have hsame : SameFiles s.epo (Mnld.epoPass cfg p s.epo).1 := by rw [hstate]; exact ⟨rfl, rfl, rfl⟩
    cases hqepo : p.qepoDownloadFinished with
    | true =>
      rw [if_pos hqepo] at hresult
      have hstep : step cfg s (.epoPass p) =
          (⟨(s.system.step (.epoFinishes (if s.epo.fileCount ≠ 0 then .fail else .success))).1,
            (Mnld.epoPass cfg p s.epo).1⟩, []) := by
        rw [step, show Mnld.epoPass cfg p s.epo = (_, some _) from Prod.ext rfl hresult]
        rfl
      rw [hstep]
      exact ⟨singleFlight_step s.system (.epoFinishes _) h.single hbusy,
        fun hbusy' => absurd hbusy' (by simp [EpoSystem.step]), fun _ => hsame.merged hmerged⟩
    | false =>
      rw [if_neg (by rw [hqepo]; exact Bool.false_ne_true)] at hresult
      have hstep : step cfg s (.epoPass p) = ({ s with epo := (Mnld.epoPass cfg p s.epo).1 }, []) := by
        rw [step, show Mnld.epoPass cfg p s.epo = (_, none) from Prod.ext rfl hresult]
      rw [hstep]
      refine ⟨h.single, fun _ => ⟨.inr ?_, hassembled.congr hsame⟩, fun hqueued => absurd hnone hqueued⟩
      rw [hstate]
      exact hdone.congr hdone.ended rfl rfl

/-- **Every sound step keeps the invariant.** -/
theorem inv_step {cfg : EpoSetup} (h : s.Inv cfg) {e : EpoFilesEvent} (hen : s.enabled e)
    (hsound : ∀ p, e = .epoPass p → SoundPass cfg p s.epo) : (step cfg s e).1.Inv cfg := by
  have hle := inFlight_le h.single
  cases e with
  | main e | updateNetworkState net connected type roaming extraInfo => exact h.systemStep hen rfl rfl
  | epoDone accepted =>
    have hsingle := singleFlight_step s.system .epoDone h.single hen
    obtain ⟨⟨ctx, toEpo, downloading, toMain⟩, epo⟩ := s
    cases toMain with
    | nil => exact absurd rfl hen
    | cons result rest =>
      -- the result was the only thing on its way
      simp only [length_cons] at hle
      have hidle : downloading = false := by
        cases downloading with
        | false => rfl
        | true => simp only [Bool.toNat_true] at hle; omega
      have hrest : rest = [] := length_eq_zero_iff.mp (by omega)
      subst hidle hrest
      exact ⟨hsingle, fun hbusy => absurd hbusy Bool.false_ne_true, fun hqueued => absurd rfl hqueued⟩
  | epoTakesStart =>
    have hnone : s.system.toMain = [] := length_eq_zero_iff.mp (by have := hen.1; omega)
    refine ⟨singleFlight_step s.system .epoTakesStart h.single hen, fun _ => ⟨.inl ?_, ?_, ?_⟩,
      fun hqueued => absurd hnone hqueued⟩
    · exact begin_working s.epo (pieceCount_pos _)
    · exact fun _ => .inl rfl
    · exact fun hlast => absurd hlast (begin_working s.epo (pieceCount_pos _)).unfinished
  | epoPass p => exact h.epoPass hen (hsound p rfl)

variable {cfg : EpoSetup} {epohal : Option (List Byte)} {pieces : Pieces}

theorem init_inv : (machine cfg epohal pieces).init.Inv cfg :=
  ⟨rfl, fun hbusy => absurd hbusy Bool.false_ne_true, fun hqueued => absurd rfl hqueued⟩

theorem handedOver_epoDone {e : EpoFilesEvent} (h : .epoUpdateEpoFile ∈ (step cfg s e).2) : s.system.toMain ≠ [] := by
  cases e with
  | main e =>
    simp only [step, systemStep, EpoSystem.step, afterMain, EpoContext.handle, mem_map] at h
    obtain ⟨o, -, heq⟩ := h
    cases heq
  | updateNetworkState net connected type roaming extraInfo =>
    simp only [step, systemStep, EpoSystem.step, afterMain, halUpdateNetworkState,
      EpoContext.triggerDownload] at h
    split at h
    · split at h <;> simp at h
    · split at h
      · split at h <;> simp at h
      · simp at h
  | epoDone accepted =>
    intro hnone
    simp [step, EpoSystem.step, hnone] at h
  | epoTakesStart => simp [step, EpoSystem.step] at h
  | epoPass p =>
    simp only [step] at h
    split at h
    · simp at h
    · simp [EpoSystem.step] at h

/-- **The merged file.** In every run whose passes are sound, EPOHAL.DAT has all pieces of the last download, in
    order and once each, whenever it is handed to libmnl. -/
theorem epo_file_merged {tr : List (Transducer.Entry EpoFiles EpoFilesEvent EpoOutput)} {s : EpoFiles}
    (h : (machine cfg epohal pieces).Run tr s) (hsound : ∀ y ∈ tr, Sound cfg y) :
    ∀ y ∈ tr, .epoUpdateEpoFile ∈ y.out → Merged (pieceCount cfg.downloadDays) y.pre.epo := by
  have hstep : ∀ s e, s.Inv cfg → (machine cfg epohal pieces).enabled s e →
      Sound cfg ((machine cfg epohal pieces).entry s e) →
      ((machine cfg epohal pieces).next s e).Inv cfg ∧
        (.epoUpdateEpoFile ∈ (step cfg s e).2 → Merged cfg.wanted s.epo) := by
    intro s e hinv hen hlast
    exact ⟨inv_step hinv hen hlast, fun hout => hinv.done (handedOver_epoDone hout)⟩
  exact (h.outputs_along init_inv hstep hsound).2

/-! ### Two runs -/

def onePiece : List Byte := List.replicate 72 1

/-- GPS is started and a download with it, and the download is at work. -/
def started : List EpoFilesEvent := [.main (.halGpsStart ⟨true, true⟩), .main (.startDone 0), .epoTakesStart]

def goodRun : List EpoFilesEvent := started ++ List.replicate 4 (.epoPass (onlinePass onePiece)) ++ [.epoDone true]

/-- The first piece arrives, and then the network is away until the download is given up. -/
def brokenRun : List EpoFilesEvent :=
  started ++ .epoPass (onlinePass onePiece) ::
      List.replicate 13 (.epoPass { offlinePass with gpsStarted := true }) ++ [.epoDone true]

def nineDaysMachine : Transducer EpoFiles EpoFilesEvent EpoOutput := machine nineDays none (fun _ => none)

instance instDecidableEnabled (s : EpoFiles) : (e : EpoFilesEvent) → Decidable (nineDaysMachine.enabled s e)
  | .main _ | .updateNetworkState .. => isTrue trivial
  | .epoDone _ => inferInstanceAs (Decidable (_ ≠ _))
  | .epoTakesStart => inferInstanceAs (Decidable (_ ∧ _))
  | .epoPass _ => inferInstanceAs (Decidable (_ = _))

theorem soundPass_online {s : EpoDownloader} (h : s.dataUpdated = true ∨ s.downloadFailed = false) :
    SoundPass nineDays (onlinePass onePiece) s := by
  constructor
  · rintro ⟨-, hidle, hfailed, -⟩
    rcases h with hupdated | hgood
    · rw [hidle] at hupdated; exact Bool.false_ne_true hupdated
    · rw [hfailed] at hgood; exact Bool.false_ne_true hgood.symm
  · rintro ⟨-, -, content, hfetch, hshort, -⟩
    obtain rfl : onePiece = content := Fetched.data.inj hfetch
    exact absurd hshort (by decide)

theorem epo_file_merged_goodRun :
    (∀ y ∈ (nineDaysMachine.exec goodRun).1, Sound nineDays y) ∧
      ∃ y ∈ (nineDaysMachine.exec goodRun).1, .epoUpdateEpoFile ∈ y.out ∧ Merged 3 y.pre.epo := by
  have hrun : nineDaysMachine.Run (nineDaysMachine.exec goodRun).1 (nineDaysMachine.exec goodRun).2 :=
    nineDaysMachine.run_exec (by decide +kernel)
  have hstates : ∀ y ∈ (nineDaysMachine.exec goodRun).1,
      y.pre.epo.dataUpdated = true ∨ y.pre.epo.downloadFailed = false := by decide +kernel
  have hsound : ∀ y ∈ (nineDaysMachine.exec goodRun).1, Sound nineDays y := by
    intro y hy p hp
    have hmem : EpoFilesEvent.epoPass p ∈ goodRun := by
      rw [← hp]
      exact mem_map_of_mem hy
    obtain rfl : p = onlinePass onePiece := by simpa [goodRun, started] using hmem
    exact soundPass_online (hstates y hy)
  have hhanded : ∃ y ∈ (nineDaysMachine.exec goodRun).1, .epoUpdateEpoFile ∈ y.out := by decide +kernel
  obtain ⟨y, hy, hout⟩ := hhanded
  exact ⟨hsound, y, hy, hout, epo_file_merged hrun hsound y hy hout⟩

/-- The file is handed over with one piece of three. -/
theorem epo_file_unmerged :
    ∃ tr s, nineDaysMachine.Run tr s ∧ tr.map (·.event) = brokenRun ∧
      ∃ y ∈ tr, .epoUpdateEpoFile ∈ y.out ∧ y.pre.epo.epohal = some onePiece ∧ ¬ Merged 3 y.pre.epo := by
  have hrun : nineDaysMachine.Run (nineDaysMachine.exec brokenRun).1 (nineDaysMachine.exec brokenRun).2 :=
    nineDaysMachine.run_exec (by decide +kernel)
  have hhanded : ∃ y ∈ (nineDaysMachine.exec brokenRun).1, .epoUpdateEpoFile ∈ y.out ∧
      y.pre.epo.epohal = some onePiece ∧ y.pre.epo.counted = [(0, onePiece)] := by decide +kernel
  obtain ⟨y, hy, hout, hfile, hcounted⟩ := hhanded
  refine ⟨_, _, hrun, rfl, y, hy, hout, hfile, ?_⟩
  rintro ⟨contents, hlength, hcontents, -⟩
  obtain ⟨content, hsecond⟩ : ∃ content, contents[1]? = some content := ⟨_, getElem?_eq_getElem (by omega)⟩
  have hmem := hcontents 1 content hsecond
  rw [hcounted] at hmem
  simp at hmem

end EpoFiles
end HuaweiY5.Mnld
