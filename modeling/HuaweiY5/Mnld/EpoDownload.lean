import HuaweiY5.Mnld.Epo
import HuaweiY5.Mnld.EpoTime

/-!
# `Mnld.EpoDownload` — the loop of `epo_file_update_impl`

The EPO thread downloads the pieces of the EPO data one after the other and appends each to EPOHAL.DAT. Where the
loop stands is in the static variables of `epo.c`: `gps_epo_file_count` is the piece to get next, `epo_data_updated`
says that it is got for the first time and `epo_download_failed` that it is retried. Both are clear when the loop
ends, after the last piece or because a retry gave up, and `epo_file_update_impl` then takes a count of 0 for
success. `epo_result_truthful_iff` says when that is right.
-/

namespace HuaweiY5.Mnld

open Option

open Codec (Byte)
open Nmea (Tm)

/-! ## What the downloader works with -/

/-- `gps_epo_type`. -/
inductive EpoType
  | gpsAndGlonass
  | gpsOnly
deriving DecidableEq

/-- What stays the same: `gps_epo_download_days` and `gps_epo_type` by configuration, and the time zone. -/
structure EpoSetup where
  downloadDays : Nat
  epoType : EpoType
  mktime : Tm → Int

/-- The server at one moment: `getEpoUrl` by file name and key, and `curl_easy_download` by URL, which gives the
    file or an error. -/
structure EpoServer where
  getEpoUrl : String → String → Option String
  curlEasyDownload : String → Option (List Byte)

/-- What one pass of the loop finds outside. -/
structure EpoPass where
  qepoDownloadFinished : Bool
  timerBefore : Bool
  timerMeanwhile : Bool
  gpsStarted : Bool
  wifiConnected : Bool
  networkConnected : Bool
  timeUtc : Int
  epoDat : Option (List Byte)
  server : EpoServer

/-- The files of the pieces, by index. -/
abbrev Pieces := Nat → Option (List Byte)

/-- The static variables and the files. -/
structure EpoDownloader where
  dataUpdated : Bool
  downloadFailed : Bool
  fileCount : Nat
  downloadRetry : Bool
  delayTime : Nat
  fileRetrying : Nat
  retryTime : Nat
  counter : Nat
  epohal : Option (List Byte)
  pieces : Pieces
  counted : List (Nat × List Byte)

def EpoDownloader.init : EpoDownloader where
  dataUpdated := false
  downloadFailed := false
  fileCount := 0
  downloadRetry := true
  delayTime := 0
  fileRetrying := 50
  retryTime := 0
  counter := 1
  epohal := none
  pieces := fun _ => none
  counted := []

/-! ## One piece -/

def gpsDownloadEpoFileName (epoType : EpoType) (count : Nat) (ext : String) : String :=
  (match epoType with
    | .gpsOnly => "EPO_GPS_3_"
    | .gpsAndGlonass => "EPO_GR_3_") ++ toString (count + 1) ++ ext

/-- The key of a request, `gps_epo_md_key`, with the counter of failures. -/
def requestKey (key : String) (counter : Nat) : String :=
  key ++ "&counter=" ++ toString counter ++ (if counter ≤ 1 then "&url=1" else "&url=0")

/-- The key in an MD5 file: its last 16 bytes of 48, as a C string. -/
def mdKey (content : List Byte) : String :=
  String.ofList ((((content.take 48).drop 32).takeWhile (· ≠ 0)).map fun b => Char.ofNat b.toNat)

def noKey : String := "0000000000000000"

inductive Fetched
  | noUrl
  | failed
  | data (content : List Byte)

/-- The requests of `curl_easy_download_epo`, for the MD5 file and for the piece, and `counter` after them. -/
def fetchPiece (cfg : EpoSetup) (sv : EpoServer) (count counter : Nat) : Fetched × Nat :=
  let name := gpsDownloadEpoFileName cfg.epoType count
  match sv.getEpoUrl (name ".MD5") (requestKey noKey counter) with
  | none => (.noUrl, counter)
  | some mdUrl =>
    let (key, counter) :=
      match sv.curlEasyDownload mdUrl with
      | some md => (mdKey md, 1)
      | none => (noKey, counter + 1)
    match sv.getEpoUrl (name ".DAT") (requestKey key counter) with
    | none => (.noUrl, counter)
    | some url =>
      match sv.curlEasyDownload url with
      | some content => (.data content, 1)
      | none => (.failed, counter + 1)

/-- `pieces` with another file of one index. -/
def setPiece (pieces : Pieces) (i : Nat) (file : Option (List Byte)) : Pieces :=
  fun j => if j = i then file else pieces j

/-- A piece has arrived: it is kept under its name and appended to EPOHAL.DAT, which the first piece begins
    anew. -/
def EpoDownloader.store (s : EpoDownloader) (content : List Byte) : EpoDownloader :=
  { s with
    counter := 1
    pieces := setPiece s.pieces s.fileCount (some content)
    epohal := some ((if s.fileCount = 0 then [] else s.epohal.getD []) ++ content) }

/-- `curl_easy_download_epo`, with whether it returns `CURLE_OK`. -/
def curlEasyDownloadEpo (cfg : EpoSetup) (sv : EpoServer) (s : EpoDownloader) : EpoDownloader × Bool :=
  match fetchPiece cfg sv s.fileCount s.counter with
  | (.noUrl, counter) => ({ s with counter := counter }, false)
  | (.failed, counter) => ({ s with counter := counter, pieces := setPiece s.pieces s.fileCount none }, false)
  | (.data content, _) => (s.store content, true)

/-- `mtk_gps_epo_file_update_hal`, with whether it returns 0. -/
def mtkGpsEpoFileUpdateHal (cfg : EpoSetup) (sv : EpoServer) (s : EpoDownloader) : EpoDownloader × Bool :=
  let d := curlEasyDownloadEpo cfg sv s
  if d.2 then d else ({ d.1 with downloadFailed := true }, false)

/-- `uTime_start`, and whether the piece was too short to have one. -/
def pieceStart (cfg : EpoSetup) (s : EpoDownloader) : Int × Bool :=
  match s.pieces s.fileCount with
  | some content => ((dataStart cfg.mktime content).getD 0, (dataStart cfg.mktime content).isNone)
  | none => (0, false)

/-- `uTime_end`: of the piece before, and for the first piece its own start. -/
def previousEnd (cfg : EpoSetup) (s : EpoDownloader) : Int × Bool :=
  if 0 < s.fileCount then
    match s.pieces (s.fileCount - 1) with
    | some content => ((dataEnd cfg.mktime content).getD 0, (dataEnd cfg.mktime content).isNone)
    | none => (0, false)
  else ((pieceStart cfg s).1, false)

/-- `mtk_gps_epo_server_data_is_changed`: a piece that begins a day or more after the end of the one before is of
    another edition, and the download starts over. -/
def mtkGpsEpoServerDataIsChanged (cfg : EpoSetup) (s : EpoDownloader) : EpoDownloader × Bool :=
  let failed := (pieceStart cfg s).2 || (previousEnd cfg s).2
  let s' := if failed then { s with downloadFailed := true } else s
  if 24 * 60 * 60 + (previousEnd cfg s).1 ≤ (pieceStart cfg s).1 then
    ({ s' with
      pieces := fun i => if i ≤ s.fileCount then none else s.pieces i
      epohal := none
      fileCount := 0 }, true)
  else (s', failed)

/-- `count_temp` for `gps_epo_download_days`: three days a piece. -/
def countTemp (days : Nat) : Nat := days / 3 + (if 0 < days % 3 then 1 else 0)

/-- `gps_epo_file_count++`. -/
def EpoDownloader.countPiece (s : EpoDownloader) : EpoDownloader :=
  { s with
    fileCount := s.fileCount + 1
    counted := s.counted ++ [(s.fileCount, (s.pieces s.fileCount).getD [])] }

/-- `mtk_gps_epo_file_update` and what it returns. -/
def mtkGpsEpoFileUpdate (cfg : EpoSetup) (sv : EpoServer) (s : EpoDownloader) : EpoDownloader × Int :=
  let d := mtkGpsEpoFileUpdateHal cfg sv s
  if d.2 = false then (d.1, -1)
  else
    let changed := mtkGpsEpoServerDataIsChanged cfg d.1
    if changed.2 then (changed.1, -1)
    else
      let s := changed.1.countPiece
      if s.fileCount < 10 ∧ s.fileCount < countTemp cfg.downloadDays then (s, 0)
      else
        ({ s with
          pieces := fun i => if i < countTemp cfg.downloadDays then none else s.pieces i
          dataUpdated := false
          fileCount := 0
          downloadFailed := false }, 0)

/-! ## The loop -/

/-- The data in EPOHAL.DAT, or else in EPO.DAT, began more than a day ago. -/
def staleData (cfg : EpoSetup) (p : EpoPass) (epohal : Option (List Byte)) : Bool :=
  match epoFileTimeHal cfg.mktime epohal p.epoDat with
  | some (start, _) => decide (start + 24 * 60 * 60 ≤ p.timeUtc)
  | none => false

/-- The end of a retry that has not changed the count: the next one is for later, or there have been enough. -/
def countRetry (s : EpoDownloader) : EpoDownloader :=
  let s :=
    if s.fileRetrying = s.fileCount then { s with retryTime := s.retryTime + 1 }
    else { s with fileRetrying := s.fileCount, retryTime := 0 }
  if s.retryTime < 10 then { s with downloadRetry := false }
  else { s with downloadFailed := false, retryTime := 0, fileRetrying := 50, delayTime := 0 }

def EpoDownloader.retrying (s : EpoDownloader) : EpoDownloader :=
  { s with fileRetrying := if s.fileRetrying = 50 then s.fileCount else s.fileRetrying }

def epoFileUpdateRetry (cfg : EpoSetup) (p : EpoPass) (s : EpoDownloader) : EpoDownloader :=
  if p.gpsStarted || p.wifiConnected then
    if p.networkConnected && s.downloadRetry then
      let s := s.retrying
      let s' :=
        if staleData cfg p s.epohal then
          { s with downloadFailed := false, fileCount := 0, dataUpdated := true, epohal := none, delayTime := 0 }
        else (mtkGpsEpoFileUpdate cfg p.server s).1
      if s.fileCount = s'.fileCount then countRetry s' else s'
    else
      let s := { s with downloadRetry := s.downloadRetry || p.timerMeanwhile }
      if s.downloadRetry then
        if 10 ≤ s.delayTime then { s with downloadFailed := false, delayTime := 0 }
        else { s with delayTime := s.delayTime + 1 }
      else s
  else { s with downloadFailed := false, delayTime := 0 }

/-- The timer of the retries may have run out before a pass. -/
def EpoDownloader.timed (p : EpoPass) (s : EpoDownloader) : EpoDownloader :=
  { s with downloadRetry := s.downloadRetry || p.timerBefore }

/-- One pass of the loop of `epo_file_update_impl`, with the result where it ends the loop. -/
def epoPass (cfg : EpoSetup) (p : EpoPass) (s : EpoDownloader) : EpoDownloader × Option EpoDownloadResult :=
  let s := s.timed p
  if p.qepoDownloadFinished then
    if s.dataUpdated then
      let s := (mtkGpsEpoFileUpdate cfg p.server { s with downloadFailed := false }).1
      (if s.downloadFailed then { s with dataUpdated := false } else s, none)
    else if s.downloadFailed then (epoFileUpdateRetry cfg p s, none)
    else (s, some (if s.fileCount ≠ 0 then .fail else .success))
  else (s, none)

/-- The begin of `epo_file_update_impl`. -/
def EpoDownloader.begin (s : EpoDownloader) : EpoDownloader :=
  { s with dataUpdated := true, downloadFailed := false, fileCount := 0, epohal := none, counted := [] }

/-- The passes of the loop, up to the one that ends it. -/
def epoLoop (cfg : EpoSetup) : EpoDownloader → List EpoPass → Option (EpoDownloadResult × EpoDownloader)
  | _, [] => none
  | s, p :: ps =>
    match epoPass cfg p s with
    | (s', some result) => some (result, s')
    | (s', none) => epoLoop cfg s' ps

/-- `epo_file_update_impl`; it has not returned where the passes do not end the loop. -/
def epoFileUpdateImpl (cfg : EpoSetup) (s : EpoDownloader) (passes : List EpoPass) :
    Option (EpoDownloadResult × EpoDownloader) :=
  epoLoop cfg s.begin passes

/-! ## What one piece can do to the downloader -/

def pieceCount (days : Nat) : Nat := max 1 (min 10 ((days + 2) / 3))

/-- The pieces of a download. -/
abbrev EpoSetup.wanted (cfg : EpoSetup) : Nat := pieceCount cfg.downloadDays

theorem pieceCount_pos (days : Nat) : 0 < pieceCount days := Nat.lt_of_lt_of_le Nat.one_pos (Nat.le_max_left _ _)

theorem last_piece_iff {days count : Nat} (h : count < pieceCount days) :
    (count + 1 < 10 ∧ count + 1 < countTemp days) ↔ count + 1 < pieceCount days := by
  unfold pieceCount countTemp at *
  split <;> omega

def Short (content : List Byte) : Prop := content.length < mtkEpoOneSvSize
  deriving Decidable

/-- What the requests for the piece at hand give. -/
def EpoDownloader.fetched (cfg : EpoSetup) (sv : EpoServer) (s : EpoDownloader) : Fetched :=
  (fetchPiece cfg sv s.fileCount s.counter).1

open EpoDownloader (countPiece fetched init retrying timed)

/-- What `mtk_gps_epo_file_update` can do. -/
inductive Updates (cfg : EpoSetup) (sv : EpoServer) (s : EpoDownloader) : EpoDownloader → Prop
  /-- Nothing arrives. -/
  | unfetched {counter : Nat} {pieces : Pieces}
      (hfetch : ∀ content, s.fetched cfg sv ≠ .data content)
      (hpieces : ∀ i < s.fileCount, pieces i = s.pieces i) :
      Updates cfg sv s { s with counter := counter, pieces := pieces, downloadFailed := true }
  /-- The piece has no record, or the one before has none. -/
  | rejected {content : List Byte}
      (hfetch : s.fetched cfg sv = .data content)
      (hshort : Short content ∨ ∃ previous, 0 < s.fileCount ∧ s.pieces (s.fileCount - 1) = some previous ∧
        Short previous) :
      Updates cfg sv s { s.store content with downloadFailed := true }
  /-- The piece is of another edition. -/
  | restarted {content : List Byte} {failed : Bool} {pieces : Pieces}
      (hfetch : s.fetched cfg sv = .data content) (hpos : 0 < s.fileCount)
      (hfailed : s.downloadFailed = true → failed = true) :
      Updates cfg sv s
        { s.store content with downloadFailed := failed, pieces := pieces, epohal := none, fileCount := 0 }
  /-- The piece is counted, and it is not the last. -/
  | counted {content : List Byte}
      (hfetch : s.fetched cfg sv = .data content) (hlong : ¬ Short content)
      (hmore : s.fileCount + 1 < 10 ∧ s.fileCount + 1 < countTemp cfg.downloadDays) :
      Updates cfg sv s
        { s.store content with fileCount := s.fileCount + 1, counted := s.counted ++ [(s.fileCount, content)] }
  /-- The piece is counted, and it is the last. -/
  | completed {content : List Byte} {pieces : Pieces}
      (hfetch : s.fetched cfg sv = .data content) (hlong : ¬ Short content)
      (hlast : ¬ (s.fileCount + 1 < 10 ∧ s.fileCount + 1 < countTemp cfg.downloadDays)) :
      Updates cfg sv s
        { s.store content with
          pieces := pieces, dataUpdated := false, fileCount := 0, downloadFailed := false
          counted := s.counted ++ [(s.fileCount, content)] }

theorem setPiece_self (pieces : Pieces) (i : Nat) (file : Option (List Byte)) :
    setPiece pieces i file i = file := if_pos rfl

theorem setPiece_of_ne (pieces : Pieces) {i j : Nat} (file : Option (List Byte)) (h : j ≠ i) :
    setPiece pieces i file j = pieces j := if_neg h

theorem pieceStart_store (cfg : EpoSetup) (s : EpoDownloader) (content : List Byte) :
    pieceStart cfg (s.store content) =
      ((dataStart cfg.mktime content).getD 0, (dataStart cfg.mktime content).isNone) := by
  unfold pieceStart
  rw [show (s.store content).pieces (s.store content).fileCount = some content from setPiece_self _ _ _]

variable {cfg : EpoSetup} {s s' : EpoDownloader} {content : List Byte} {sv : EpoServer} {n : Nat}
  {passes : List EpoPass} {result : EpoDownloadResult}

theorem previousEnd_fails (h : (previousEnd cfg (s.store content)).2 = true) :
    ∃ previous, 0 < s.fileCount ∧ s.pieces (s.fileCount - 1) = some previous ∧ Short previous := by
  unfold previousEnd at h
  split at h
  · rename_i hpos
    have hpos : 0 < s.fileCount := hpos
    have hsame : (s.store content).pieces ((s.store content).fileCount - 1) = s.pieces (s.fileCount - 1) :=
      setPiece_of_ne _ _ (show s.fileCount - 1 ≠ s.fileCount by omega)
    rw [hsame] at h
    cases hprevious : s.pieces (s.fileCount - 1) with
    | none => simp [hprevious] at h
    | some previous =>
      rw [hprevious] at h
      exact ⟨previous, hpos, rfl, dataEnd_eq_none.mp (isNone_iff_eq_none.mp h)⟩
  · simp at h

theorem previousEnd_first (h : ¬ 0 < s.fileCount) : (previousEnd cfg s).1 = (pieceStart cfg s).1 := by
  simp [previousEnd, h]

theorem mtkGpsEpoFileUpdate_updates (cfg : EpoSetup) (sv : EpoServer) (s : EpoDownloader) :
    Updates cfg sv s (mtkGpsEpoFileUpdate cfg sv s).1 := by
  rcases hfetch : fetchPiece cfg sv s.fileCount s.counter with ⟨fetched, counter⟩
  cases fetched with
  | noUrl =>
    simp only [mtkGpsEpoFileUpdate, mtkGpsEpoFileUpdateHal, curlEasyDownloadEpo, hfetch, if_true, Bool.false_eq_true,
      if_false]
    exact .unfetched (by simp [fetched, hfetch]) (fun _ _ => rfl)
  | failed =>
    simp only [mtkGpsEpoFileUpdate, mtkGpsEpoFileUpdateHal, curlEasyDownloadEpo, hfetch, if_true, Bool.false_eq_true,
      if_false]
    exact .unfetched (by simp [fetched, hfetch]) (fun i hi => setPiece_of_ne _ _ (Nat.ne_of_lt hi))
  | data content =>
    have hdata : s.fetched cfg sv = .data content := congrArg Prod.fst hfetch
    have hhal : mtkGpsEpoFileUpdateHal cfg sv s = (s.store content, true) := by
      simp [mtkGpsEpoFileUpdateHal, curlEasyDownloadEpo, hfetch]
    unfold mtkGpsEpoFileUpdate mtkGpsEpoServerDataIsChanged
    rw [hhal]
    simp only [Bool.true_eq_false, if_false]
    by_cases hnew : 24 * 60 * 60 + (previousEnd cfg (s.store content)).1 ≤ (pieceStart cfg (s.store content)).1
    · -- another edition
      rw [if_pos hnew]
      have hpos : 0 < s.fileCount := by
        by_contra hfirst
        rw [previousEnd_first (s := s.store content) hfirst] at hnew
        omega
      simp only [if_true]
      split
      · exact .restarted hdata hpos (fun _ => (rfl : true = true))
      · exact .restarted hdata hpos (fun hfailed : s.downloadFailed = true => hfailed)
    · rw [if_neg hnew]
      by_cases hfailed : ((pieceStart cfg (s.store content)).2 || (previousEnd cfg (s.store content)).2) = true
      · simp only [hfailed]
        refine .rejected hdata ?_
        rcases Bool.or_eq_true_iff.mp hfailed with hstart | hend
        · rw [pieceStart_store] at hstart
          exact .inl (dataStart_eq_none.mp (isNone_iff_eq_none.mp hstart))
        · exact .inr (previousEnd_fails hend)
      · have hlong : ¬ Short content := by
          intro hshort
          have hnone : dataStart cfg.mktime content = none := dataStart_eq_none.mpr hshort
          rw [pieceStart_store, hnone] at hfailed
          exact hfailed rfl
        have hcontent : (s.store content).pieces (s.store content).fileCount = some content := setPiece_self _ _ _
        simp only [hfailed, Bool.false_eq_true, if_false, countPiece, hcontent]
        split
        · rename_i hmore
          exact .counted hdata hlong hmore
        · rename_i hlast
          exact .completed hdata hlong hlast

/-- The variables of the retries are not its business. -/
structure SameRetries (s s' : EpoDownloader) : Prop where
  retry : s'.downloadRetry = s.downloadRetry
  delay : s'.delayTime = s.delayTime
  retrying : s'.fileRetrying = s.fileRetrying
  retryTime : s'.retryTime = s.retryTime

theorem Updates.sameRetries (h : Updates cfg sv s s') : SameRetries s s' := by
  cases h <;> exact ⟨rfl, rfl, rfl, rfl⟩

/-! ## Where a call stands -/

def EpoDownloader.HasCounted (s : EpoDownloader) (k : Nat) : Prop := ∃ content, (k, content) ∈ s.counted

/-- The pieces before `gps_epo_file_count` are there, and the last of the `n` never was. -/
structure Progress (n : Nat) (s : EpoDownloader) : Prop where
  more : s.fileCount < n
  counted : ∀ k < s.fileCount, s.HasCounted k
  kept : ∀ k < s.fileCount, ∃ content, s.pieces k = some content ∧ ¬ Short content
  unfinished : ¬ s.HasCounted (n - 1)

def Ended (s : EpoDownloader) : Prop := s.dataUpdated = false ∧ s.downloadFailed = false

structure Working (n : Nat) (s : EpoDownloader) : Prop extends Progress n s where
  active : s.dataUpdated = true ∨ s.downloadFailed = true

structure Completed (n : Nat) (s : EpoDownloader) : Prop where
  ended : Ended s
  first : s.fileCount = 0
  counted : ∀ k < n, s.HasCounted k

structure GaveUp (n : Nat) (s : EpoDownloader) : Prop where
  ended : Ended s
  unfinished : ¬ s.HasCounted (n - 1)

theorem HasCounted.of_counted_eq (h : s'.counted = s.counted) (k : Nat) : s'.HasCounted k ↔ s.HasCounted k := by
  unfold EpoDownloader.HasCounted
  rw [h]

theorem HasCounted.snoc {j : Nat} (h : s'.counted = s.counted ++ [(j, content)]) (k : Nat) :
    s'.HasCounted k ↔ s.HasCounted k ∨ k = j := by
  unfold EpoDownloader.HasCounted
  rw [h]
  constructor
  · rintro ⟨c, hc⟩
    rcases List.mem_append.mp hc with hold | hnew
    · exact .inl ⟨c, hold⟩
    · exact .inr (congrArg Prod.fst (List.mem_singleton.mp hnew))
  · rintro (⟨c, hc⟩ | rfl)
    · exact ⟨c, List.mem_append_left _ hc⟩
    · exact ⟨content, by simp⟩

open HasCounted (of_counted_eq snoc)

theorem Progress.congr (h : Progress n s) (hcount : s'.fileCount = s.fileCount) (hcounted : s'.counted = s.counted)
    (hpieces : ∀ i < s.fileCount, s'.pieces i = s.pieces i) : Progress n s' where
  more := hcount ▸ h.more
  counted := fun k hk => (of_counted_eq hcounted k).mpr (h.counted k (hcount ▸ hk))
  kept := fun k hk => by
    rw [hcount] at hk
    rw [hpieces k hk]
    exact h.kept k hk
  unfinished := fun hlast => h.unfinished ((of_counted_eq hcounted _).mp hlast)

theorem Progress.restart (h : Progress n s) (hcount : s'.fileCount = 0) (hcounted : s'.counted = s.counted) :
    Progress n s' where
  more := by rw [hcount]; exact Nat.zero_lt_of_lt h.more
  counted := fun k hk => by omega
  kept := fun k hk => by omega
  unfinished := fun hlast => h.unfinished ((of_counted_eq hcounted _).mp hlast)

theorem store_pieces_of_lt (s : EpoDownloader) (content : List Byte) {i : Nat} (h : i < s.fileCount) :
    (s.store content).pieces i = s.pieces i := setPiece_of_ne _ _ (Nat.ne_of_lt h)

theorem Progress.last (h : Progress cfg.wanted s)
    (hlast : ¬ (s.fileCount + 1 < 10 ∧ s.fileCount + 1 < countTemp cfg.downloadDays)) :
    cfg.wanted = s.fileCount + 1 :=
  Nat.le_antisymm (Nat.le_of_not_lt fun hlt => hlast ((last_piece_iff h.more).mpr hlt)) h.more

theorem Progress.complete (h : Progress cfg.wanted s)
    (hlast : ¬ (s.fileCount + 1 < 10 ∧ s.fileCount + 1 < countTemp cfg.downloadDays))
    (hcounted : s'.counted = s.counted ++ [(s.fileCount, content)]) (hended : Ended s') (hfirst : s'.fileCount = 0) :
    Completed cfg.wanted s' where
  ended := hended
  first := hfirst
  counted := fun k hk => by
    rw [snoc hcounted]
    rcases Nat.lt_succ_iff_lt_or_eq.mp (h.last hlast ▸ hk) with hold | hnew
    · exact .inl (h.counted k hold)
    · exact .inr hnew

/-- The piece before was counted, so it has a record. -/
theorem Progress.short (h : Progress n s) (hshort : Short content ∨ ∃ previous, 0 < s.fileCount ∧
    s.pieces (s.fileCount - 1) = some previous ∧ Short previous) : Short content := by
  rcases hshort with hshort | ⟨previous, hpos, hprevious, hshort⟩
  · exact hshort
  · obtain ⟨kept, hkept, hlong⟩ := h.kept (s.fileCount - 1) (by omega)
    rw [hprevious] at hkept
    exact absurd (some.inj hkept ▸ hshort) hlong

/-- **One piece.** It completes the download, or the download goes on where it was. -/
theorem Updates.progress (h : Updates cfg sv s s') (hprogress : Progress cfg.wanted s) :
    Completed cfg.wanted s' ∨
      (Progress cfg.wanted s' ∧ s'.dataUpdated = s.dataUpdated ∧
        (s.downloadFailed = true → s'.downloadFailed = true)) := by
  have hmore := last_piece_iff hprogress.more
  cases h with
  | unfetched hfetch hpieces => exact .inr ⟨hprogress.congr rfl rfl hpieces, rfl, fun _ => rfl⟩
  | rejected hfetch hshort =>
    exact .inr ⟨hprogress.congr rfl rfl (fun i hi => store_pieces_of_lt s _ hi), rfl, fun _ => rfl⟩
  | restarted hfetch hpos hfailed => exact .inr ⟨hprogress.restart rfl rfl, rfl, hfailed⟩
  | counted hfetch hlong hnext =>
    have hlt : s.fileCount + 1 < cfg.wanted := hmore.mp hnext
    refine .inr ⟨⟨hlt, fun k hk => (snoc rfl k).mpr ?_, fun k hk => ?_, fun hlast => ?_⟩, rfl, id⟩
    · rcases Nat.lt_succ_iff_lt_or_eq.mp hk with hold | hnew
      · exact .inl (hprogress.counted k hold)
      · exact .inr hnew
    · rcases Nat.lt_succ_iff_lt_or_eq.mp hk with hold | rfl
      · obtain ⟨content, hkept⟩ := hprogress.kept k hold
        exact ⟨content, (store_pieces_of_lt s _ hold).trans hkept.1, hkept.2⟩
      · exact ⟨_, setPiece_self _ _ _, hlong⟩
    · rcases (snoc (s := s) rfl _).mp hlast with hold | hnew
      · exact hprogress.unfinished hold
      · omega
  | completed hfetch hlong hlast =>
    exact .inl (hprogress.complete hlast rfl ⟨rfl, rfl⟩ rfl)

/-! ## Giving up -/

def LastRetry (s : EpoDownloader) : Prop := (s.fileRetrying = 50 ∨ s.fileRetrying = s.fileCount) ∧ 9 ≤ s.retryTime

def Missed (cfg : EpoSetup) (sv : EpoServer) (s : EpoDownloader) : Prop :=
  ∀ content, s.fetched cfg sv = .data content → Short content

/-- The retry gives the download up: neither GPS nor Wi-Fi is on, the network has been away too long, or the piece
    was missed too often. -/
def RetryGivesUp (cfg : EpoSetup) (p : EpoPass) (s : EpoDownloader) : Prop :=
  if p.gpsStarted || p.wifiConnected then
    if p.networkConnected && s.downloadRetry then
      staleData cfg p s.epohal = false ∧ LastRetry s ∧ Missed cfg p.server s
    else (s.downloadRetry || p.timerMeanwhile) = true ∧ 10 ≤ s.delayTime
  else True

def PassGivesUp (cfg : EpoSetup) (p : EpoPass) (s : EpoDownloader) : Prop :=
  p.qepoDownloadFinished = true ∧ s.dataUpdated = false ∧ s.downloadFailed = true ∧ RetryGivesUp cfg p (s.timed p)

/-- Some pass of the call gives up, with no piece counted or with the count back at 0. -/
def GivesUpOnFirst (cfg : EpoSetup) : EpoDownloader → List EpoPass → Prop
  | _, [] => False
  | s, p :: ps => (PassGivesUp cfg p s ∧ s.fileCount = 0) ∨ GivesUpOnFirst cfg (epoPass cfg p s).1 ps

theorem countRetry_cases (s : EpoDownloader) :
    ((s.fileRetrying = s.fileCount ∧ 9 ≤ s.retryTime) ∧
      countRetry s = { s with downloadFailed := false, retryTime := 0, fileRetrying := 50, delayTime := 0 }) ∨
    (¬ (s.fileRetrying = s.fileCount ∧ 9 ≤ s.retryTime) ∧
      ∃ fileRetrying retryTime,
        countRetry s = { s with fileRetrying := fileRetrying, retryTime := retryTime, downloadRetry := false }) := by
  by_cases hsame : s.fileRetrying = s.fileCount
  · by_cases hlast : 9 ≤ s.retryTime
    · have hstop : ¬ s.retryTime + 1 < 10 := by omega
      exact .inl ⟨⟨hsame, hlast⟩, by simp [countRetry, hsame, hstop]⟩
    · have hgo : s.retryTime + 1 < 10 := by omega
      exact .inr ⟨fun h => hlast h.2, s.fileCount, s.retryTime + 1, by simp [countRetry, hsame, hgo]⟩
  · exact .inr ⟨fun h => hsame h.1, s.fileCount, 0, by simp [countRetry, hsame]⟩

theorem Updates.same_count (h : Updates cfg sv s s') (hprogress : Progress cfg.wanted s)
    (hsame : s.fileCount = s'.fileCount) :
    (Missed cfg sv s ∧ Progress cfg.wanted s' ∧ s'.dataUpdated = s.dataUpdated) ∨
      (¬ Missed cfg sv s ∧ Completed cfg.wanted s') := by
  cases h with
  | unfetched hfetch hpieces =>
    exact .inl ⟨fun content hdata => absurd hdata (hfetch content), hprogress.congr rfl rfl hpieces, rfl⟩
  | rejected hfetch hshort =>
    refine .inl ⟨fun content hdata => ?_, hprogress.congr rfl rfl (fun i hi => store_pieces_of_lt s _ hi), rfl⟩
    rw [hfetch] at hdata
    exact Fetched.data.inj hdata ▸ hprogress.short hshort
  | restarted hfetch hpos hfailed => exact absurd hsame (Nat.ne_of_gt hpos)
  | counted hfetch hlong hmore => exact absurd hsame (Nat.ne_of_lt (Nat.lt_succ_self _))
  | completed hfetch hlong hlast =>
    exact .inr ⟨fun hmissed => hlong (hmissed _ hfetch), hprogress.complete hlast rfl ⟨rfl, rfl⟩ rfl⟩

theorem Updates.missed_first (h : Updates cfg sv s s') (hmissed : Missed cfg sv s) (hfirst : s.fileCount = 0) :
    s.fileCount = s'.fileCount := by
  cases h with
  | unfetched hfetch hpieces | rejected hfetch hshort => rfl
  | restarted hfetch hpos hfailed => exact absurd hpos (by omega)
  | counted hfetch hlong hmore | completed hfetch hlong hlast => exact absurd (hmissed _ hfetch) hlong

/-! ## One pass -/

variable {cfg : EpoSetup} {p : EpoPass}

/-- What a pass can leave: the download goes on, is complete, or was given up, and the last only where `RetryGivesUp`
    says so. -/
def Outcome (givesUp : Prop) (cfg : EpoSetup) (s s' : EpoDownloader) : Prop :=
  (GaveUp cfg.wanted s' ∧ s'.fileCount = s.fileCount ∧ givesUp) ∨
    ((Working cfg.wanted s' ∨ Completed cfg.wanted s') ∧ ¬ (givesUp ∧ s.fileCount = 0))

theorem Completed.congr (h : Completed n s) (hended : Ended s') (hcount : s'.fileCount = s.fileCount)
    (hcounted : s'.counted = s.counted) : Completed n s' where
  ended := hended
  first := hcount.trans h.first
  counted := fun k hk => (of_counted_eq hcounted k).mpr (h.counted k hk)

theorem retry_fetches (hupdates : Updates cfg p.server s s') (hprogress : Progress cfg.wanted s)
    (hfailed : s.downloadFailed = true) (hidle : s.dataUpdated = false) :
    Outcome ((s.fileRetrying = s.fileCount ∧ 9 ≤ s.retryTime) ∧ Missed cfg p.server s) cfg s
      (if s.fileCount = s'.fileCount then countRetry s' else s') := by
  obtain ⟨-, -, hretrying, htime⟩ := hupdates.sameRetries
  by_cases hsame : s.fileCount = s'.fileCount
  · rw [if_pos hsame]
    rw [← hretrying, ← htime, hsame]
    rcases countRetry_cases s' with ⟨hlast, heq⟩ | ⟨hlater, fileRetrying, retryTime, heq⟩
    · -- the tenth retry
      rw [heq]
      rcases hupdates.same_count hprogress hsame with ⟨hmissed, hopen, hupdated⟩ | ⟨hgot, hdone⟩
      · exact .inl ⟨⟨⟨hupdated.trans hidle, rfl⟩, hopen.unfinished⟩, hsame.symm, hlast, hmissed⟩
      · exact .inr ⟨.inr (hdone.congr ⟨hdone.ended.1, rfl⟩ rfl rfl), fun h => hgot h.1.2⟩
    · rw [heq]
      refine .inr ⟨?_, fun h => hlater h.1.1⟩
      rcases hupdates.progress hprogress with hdone | ⟨hopen, -, hstill⟩
      · exact .inr (hdone.congr hdone.ended rfl rfl)
      · exact .inl ⟨hopen.congr rfl rfl (fun _ _ => rfl), .inr (hstill hfailed)⟩
  · rw [if_neg hsame]
    refine .inr ⟨?_, fun h => hsame (hupdates.missed_first h.1.2 h.2)⟩
    rcases hupdates.progress hprogress with hdone | ⟨hopen, -, hstill⟩
    · exact .inr hdone
    · exact .inl ⟨hopen, .inr (hstill hfailed)⟩

theorem retry_starts_over (hprogress : Progress n s) :
    Working n
      (let s' := { s with downloadFailed := false, fileCount := 0, dataUpdated := true, epohal := none, delayTime := 0 }
       if s.fileCount = s'.fileCount then countRetry s' else s') := by
  extract_lets s'
  split
  · rcases countRetry_cases s' with ⟨-, heq⟩ | ⟨-, fileRetrying, retryTime, heq⟩ <;> rw [heq] <;>
      exact ⟨hprogress.restart rfl rfl, .inl rfl⟩
  · exact ⟨hprogress.restart rfl rfl, .inl rfl⟩

theorem lastRetry_iff (s : EpoDownloader) :
    LastRetry s ↔ s.retrying.fileRetrying = s.retrying.fileCount ∧ 9 ≤ s.retrying.retryTime := by
  unfold LastRetry retrying
  by_cases hfirst : s.fileRetrying = 50 <;> simp [hfirst]

/-- **One retry.** -/
theorem retry_outcome (hprogress : Progress cfg.wanted s) (hfailed : s.downloadFailed = true)
    (hidle : s.dataUpdated = false) : Outcome (RetryGivesUp cfg p s) cfg s (epoFileUpdateRetry cfg p s) := by
  have hopen : Progress cfg.wanted s.retrying := hprogress.congr rfl rfl (fun _ _ => rfl)
  unfold epoFileUpdateRetry RetryGivesUp
  by_cases hon : (p.gpsStarted || p.wifiConnected) = true
  · rw [if_pos hon, if_pos hon]
    by_cases hnet : (p.networkConnected && s.downloadRetry) = true
    · rw [if_pos hnet, if_pos hnet]
      dsimp only
      by_cases hstale : staleData cfg p s.epohal = true
      · rw [if_pos (show staleData cfg p s.retrying.epohal = true from hstale)]
        exact .inr ⟨.inl (retry_starts_over hopen), fun h => absurd (hstale.symm.trans h.1.1) (by decide)⟩
      · rw [if_neg (show ¬ staleData cfg p s.retrying.epohal = true from hstale)]
        have h := retry_fetches (mtkGpsEpoFileUpdate_updates cfg p.server s.retrying) hopen hfailed hidle
        rw [← lastRetry_iff] at h
        rw [Bool.eq_false_iff.mpr hstale, eq_self, true_and]
        exact h
    · rw [if_neg hnet, if_neg hnet]
      by_cases hretry : (s.downloadRetry || p.timerMeanwhile) = true
      · rw [if_pos hretry]
        by_cases hlong : 10 ≤ s.delayTime
        · rw [if_pos hlong]
          exact .inl ⟨⟨⟨hidle, rfl⟩, hprogress.unfinished⟩, rfl, hretry, hlong⟩
        · rw [if_neg hlong]
          exact .inr ⟨.inl ⟨hprogress.congr rfl rfl (fun _ _ => rfl), .inr hfailed⟩, fun h => hlong h.1.2⟩
      · rw [if_neg hretry]
        exact .inr ⟨.inl ⟨hprogress.congr rfl rfl (fun _ _ => rfl), .inr hfailed⟩, fun h => hretry h.1.1⟩
  · rw [if_neg hon, if_neg hon]
    exact .inl ⟨⟨⟨hidle, rfl⟩, hprogress.unfinished⟩, rfl, trivial⟩

/-- **One pass of a download that goes on.** -/
theorem epoPass_working (h : Working cfg.wanted s) :
    (epoPass cfg p s).2 = none ∧ Outcome (PassGivesUp cfg p s) cfg s (epoPass cfg p s).1 := by
  have hopen : Progress cfg.wanted (s.timed p) := h.toProgress.congr rfl rfl (fun _ _ => rfl)
  unfold epoPass PassGivesUp
  dsimp only [timed]
  by_cases hqepo : p.qepoDownloadFinished = true
  · rw [if_pos hqepo]
    by_cases hupdated : s.dataUpdated = true
    · -- a piece is asked for the first time
      rw [if_pos hupdated]
      refine ⟨rfl, .inr ⟨?_, fun hgives => by simp [hupdated] at hgives⟩⟩
      have hupdates := mtkGpsEpoFileUpdate_updates cfg p.server { s.timed p with downloadFailed := false }
      dsimp only [timed] at hupdates
      rcases hupdates.progress (hopen.congr rfl rfl (fun _ _ => rfl)) with hdone | ⟨hnext, hsame, -⟩
      · right
        rw [if_neg (fun hfailed => Bool.false_ne_true (hdone.ended.2.symm.trans hfailed))]
        exact hdone
      · left
        split
        · rename_i hfailed
          exact ⟨hnext.congr rfl rfl (fun _ _ => rfl), .inr hfailed⟩
        · exact ⟨hnext, .inl (hsame.trans hupdated)⟩
    · have hfailed : s.downloadFailed = true := h.active.resolve_left hupdated
      have hidle : s.dataUpdated = false := Bool.eq_false_iff.mpr hupdated
      rw [if_neg hupdated, if_pos hfailed]
      have hretry := retry_outcome (p := p) hopen hfailed hidle
      refine ⟨rfl, ?_⟩
      rw [and_iff_right hqepo, and_iff_right hidle, and_iff_right hfailed]
      exact hretry
  · rw [if_neg hqepo]
    exact ⟨rfl, .inr ⟨.inl ⟨hopen, h.active⟩, fun hgives => hqepo hgives.1.1⟩⟩

/-- **One pass of a download that has ended.** -/
theorem epoPass_ended (cfg : EpoSetup) (p : EpoPass) (h : Ended s) :
    (epoPass cfg p s).1 = s.timed p ∧
      (epoPass cfg p s).2 =
        (if p.qepoDownloadFinished then some (if s.fileCount ≠ 0 then .fail else .success) else none) := by
  unfold epoPass
  by_cases hqepo : p.qepoDownloadFinished = true
  · simp [timed, hqepo, h.1, h.2]
  · simp [hqepo]

/-! ## A call -/

theorem epoLoop_next (h : (epoPass cfg p s).2 = none) :
    epoLoop cfg s (p :: passes) = epoLoop cfg (epoPass cfg p s).1 passes := by
  rw [epoLoop, show epoPass cfg p s = ((epoPass cfg p s).1, none) from Prod.ext rfl h]

theorem epoLoop_returns (h : (epoPass cfg p s).2 = some result) :
    epoLoop cfg s (p :: passes) = some (result, (epoPass cfg p s).1) := by
  rw [epoLoop, show epoPass cfg p s = ((epoPass cfg p s).1, some result) from Prod.ext rfl h]

theorem epoLoop_ended (h : Ended s) (hloop : epoLoop cfg s passes = some (result, s')) :
    result = (if s.fileCount ≠ 0 then .fail else .success) ∧ s'.counted = s.counted := by
  induction passes generalizing s with
  | nil => simp [epoLoop] at hloop
  | cons p passes ih =>
    obtain ⟨hstate, hresult⟩ := epoPass_ended cfg p h
    cases hqepo : p.qepoDownloadFinished with
    | true =>
      rw [if_pos hqepo] at hresult
      rw [epoLoop_returns hresult, hstate] at hloop
      obtain ⟨heq, rfl⟩ := Prod.mk.inj (some.inj hloop)
      exact ⟨heq.symm, rfl⟩
    | false =>
      rw [if_neg (by rw [hqepo]; exact Bool.false_ne_true)] at hresult
      rw [epoLoop_next hresult, hstate] at hloop
      exact ih (s := s.timed p) h hloop

theorem not_givesUpOnFirst_ended (cfg : EpoSetup) (h : Ended s) (passes : List EpoPass) :
    ¬ GivesUpOnFirst cfg s passes := by
  induction passes generalizing s with
  | nil => exact id
  | cons p passes ih =>
    rintro (⟨⟨-, -, hfailed, -⟩, -⟩ | hlater)
    · rw [h.2] at hfailed
      exact Bool.false_ne_true hfailed
    · rw [(epoPass_ended cfg p h).1] at hlater
      exact ih (s := s.timed p) h hlater

theorem epoLoop_truthful (h : Working cfg.wanted s)
    (hloop : epoLoop cfg s passes = some (result, s')) :
    (result = .success → ∀ k < cfg.wanted, s'.HasCounted k) ↔ ¬ GivesUpOnFirst cfg s passes := by
  induction passes generalizing s with
  | nil => simp [epoLoop] at hloop
  | cons p passes ih =>
    obtain ⟨hnone, houtcome⟩ := epoPass_working (p := p) h
    rw [epoLoop_next hnone] at hloop
    rcases houtcome with ⟨hgaveUp, hcount, hgives⟩ | ⟨hnext, hgives⟩
    · -- after giving up the result is taken from the count
      obtain ⟨hresult, hcounted⟩ := epoLoop_ended hgaveUp.ended hloop
      have hlast : ¬ s'.HasCounted (cfg.wanted - 1) := fun hlast =>
        hgaveUp.unfinished ((of_counted_eq hcounted _).mp hlast)
      have hpos : 0 < cfg.wanted := pieceCount_pos _
      have hlater := not_givesUpOnFirst_ended cfg hgaveUp.ended passes
      rw [hcount] at hresult
      by_cases hfirst : s.fileCount = 0
      · have hsuccess : result = .success := by rw [hresult, if_neg (by simp [hfirst])]
        refine iff_of_false (fun hall => hlast (hall hsuccess _ (by omega))) (fun hnot => hnot (.inl ⟨hgives, hfirst⟩))
      · have hfail : result = .fail := by rw [hresult, if_pos hfirst]
        refine iff_of_true (fun hsuccess => by rw [hfail] at hsuccess; cases hsuccess) ?_
        rintro (⟨-, hzero⟩ | hgives')
        · exact hfirst hzero
        · exact hlater hgives'
    · have hstep : GivesUpOnFirst cfg s (p :: passes) ↔ GivesUpOnFirst cfg (epoPass cfg p s).1 passes :=
        ⟨fun hor => hor.resolve_left hgives, .inr⟩
      rw [hstep]
      rcases hnext with hworking | hdone
      · exact ih hworking hloop
      · obtain ⟨-, hcounted⟩ := epoLoop_ended hdone.ended hloop
        refine iff_of_true (fun _ k hk => ?_) (not_givesUpOnFirst_ended cfg hdone.ended passes)
        exact (of_counted_eq hcounted k).mpr (hdone.counted k hk)

theorem begin_working (s : EpoDownloader) (h : 0 < n) : Working n s.begin where
  more := h
  counted := fun k hk => absurd hk (Nat.not_lt_zero k)
  kept := fun k hk => absurd hk (Nat.not_lt_zero k)
  unfinished := fun hlast => by
    obtain ⟨content, hmem⟩ := hlast
    exact absurd hmem (List.not_mem_nil)
  active := .inl rfl

/-- **The result is truthful exactly when no retry gives up at a count of 0.** -/
theorem epo_result_truthful_iff (s : EpoDownloader) {passes : List EpoPass} {result : EpoDownloadResult}
    {s' : EpoDownloader} (h : epoFileUpdateImpl cfg s passes = some (result, s')) :
    (result = .success → ∀ k < pieceCount cfg.downloadDays, ∃ content, (k, content) ∈ s'.counted) ↔
      ¬ GivesUpOnFirst cfg s.begin passes :=
  epoLoop_truthful (begin_working s (pieceCount_pos _)) h

def nineDays : EpoSetup := ⟨9, .gpsAndGlonass, Nmea.utcSeconds⟩

/-- A pass that finds the server and gets `content` for whatever it asks. -/
def onlinePass (content : List Byte) : EpoPass where
  qepoDownloadFinished := true
  timerBefore := true
  timerMeanwhile := false
  gpsStarted := true
  wifiConnected := false
  networkConnected := true
  timeUtc := 0
  epoDat := none
  server := ⟨fun file _ => some file, fun _ => some content⟩

def offlinePass : EpoPass :=
  { onlinePass [] with
    gpsStarted := false
    networkConnected := false
    server := ⟨fun _ _ => none, fun _ => none⟩ }

theorem epo_result_truthful_online :
    (epoFileUpdateImpl nineDays .init (List.replicate 4 (onlinePass (List.replicate 72 1)))).isSome = true ∧
      ∃ r, epoFileUpdateImpl nineDays .init (List.replicate 4 (onlinePass (List.replicate 72 1))) = some r ∧
        ((r.1 = .success → ∀ k < pieceCount 9, ∃ content, (k, content) ∈ r.2.counted) ↔
          ¬ GivesUpOnFirst nineDays init.begin (List.replicate 4 (onlinePass (List.replicate 72 1)))) := by
  have hreturns : (epoFileUpdateImpl nineDays .init
      (List.replicate 4 (onlinePass (List.replicate 72 1)))).isSome = true := by decide +kernel
  obtain ⟨r, hr⟩ := isSome_iff_exists.mp hreturns
  exact ⟨hreturns, r, hr, epo_result_truthful_iff .init hr⟩

/-- With everything off the download is given up after one attempt, and the result is success. -/
theorem epo_result_untruthful :
    ¬ ∀ result s', epoFileUpdateImpl nineDays .init (List.replicate 3 offlinePass) = some (result, s') →
        result = .success → ∀ k < pieceCount nineDays.downloadDays, ∃ content, (k, content) ∈ s'.counted := by
  have hrun : (epoFileUpdateImpl nineDays .init (List.replicate 3 offlinePass)).map
      (fun r => (r.1, r.2.counted)) = some (.success, []) := by decide +kernel
  obtain ⟨⟨result, s'⟩, hreturns, heq⟩ := map_eq_some_iff.mp hrun
  obtain ⟨hsuccess, hnone⟩ := Prod.mk.inj heq
  intro hall
  obtain ⟨content, hmem⟩ := hall result s' hreturns hsuccess 0 (by decide)
  rw [show s'.counted = [] from hnone] at hmem
  cases hmem

end HuaweiY5.Mnld
