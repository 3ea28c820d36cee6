import HuaweiY5.Mnld.AtTest

/-!
# `Mnld.AtSamples` — the samples of a test and the memory for them

`Dev_CNr` has room for the samples asked for, and the test ends when the samples and failures counted are *equal* to
them. Both hold as long as the count does not jump: a check that is not the last one leaves less than is asked for
(`InRoom`), so that one sample more fits and is seen by the next check. Two samples between two checks, or a test
started with a smaller number than the counters an earlier one left, make it jump. From `2 ^ 30` samples on the size
of the memory wraps around.
-/

namespace HuaweiY5.Mnld.AtCmd

open List

/-- The memory is the running test's, the count at the last check was less than it asks for, and there was at most
    one sample since. -/
structure InRoom (s : AtTest) : Prop where
  memory : ∃ b, s.devCnr = some b ∧ b.live = true ∧ b.size = s.halTestData.testNum
  counted : s.prevSuccessNum + s.failureNum < s.halTestData.testNum
  ahead : s.successNum ≤ s.prevSuccessNum + 1

def Counting (s : AtTest) : Prop := s.testFlag = true → InRoom s

/-- A write is in the memory, and a check at which the samples asked for are counted ends the test. -/
def Effect.Proper : Effect → Prop
  | .write index size => index < size
  | .checked counted testNum stopped => testNum ≤ counted → stopped = true
  | .driver _ | .ack _ => True

/-- `AT%GPS=`. -/
def IsGpsStart (text : List Char) : Prop := text.take 6 = gpsOp ∧ charAt text 6 = '='

/-- `AT%GNSS=`. -/
def IsGnssStart (text : List Char) : Prop := text.take 7 = gnssOp ∧ charAt text 7 = '='

def HasSignal (svs : List (Int × Int)) (s : AtTest) : Prop :=
  ∃ sv, (svs.find? fun sv => sv.1 == s.halTestData.prnNum) = some sv ∧ sv.2 ≠ 0

/-- A test of `n` samples asks for more than the counters an earlier one left, and its memory does not wrap around. -/
def Startable (s : AtTest) (n : Nat) : Prop := s.prevSuccessNum + s.failureNum < n ∧ 4 * n < UInt32.size
  deriving Decidable

/-- A normal-mode test is started with more samples than the counters left by an earlier one and less than `2 ^ 30`, and
    a sample is taken only when none was taken since the last check. -/
def Orderly (s : AtTest) : Move → Prop
  | .command _ text =>
    (IsGpsStart text → 0 ≤ parseTestNum text →
      Startable s (parseTestNum text).toNat ∧ s.successNum ≤ s.prevSuccessNum + 1) ∧
    (IsGnssStart text → s.signalMode = false → 0 ≤ parseTestNum text → Startable s (parseTestNum text).toNat)
  | .pre _ _ => True
  | .gsv svs => s.testFlag = true → HasSignal svs s → s.successNum ≤ s.prevSuccessNum

instance instDecidableHasSignal (svs : List (Int × Int)) (s : AtTest) : Decidable (HasSignal svs s) :=
  match h : svs.find? fun sv => sv.1 == s.halTestData.prnNum with
  | some sv =>
    if hsnr : sv.2 ≠ 0 then isTrue ⟨sv, h, hsnr⟩
    else isFalse fun hs => by
      obtain ⟨_, hfind, hsv⟩ := hs
      exact hsnr (Option.some.inj (h.symm.trans hfind) ▸ hsv)
  | none => isFalse fun hs => by
    obtain ⟨_, hfind, _⟩ := hs
    exact Option.some_ne_none _ (hfind.symm.trans h)

instance instDecidableOrderly (s : AtTest) : (move : Move) → Decidable (Orderly s move)
  | .command _ text =>
    have : Decidable (IsGpsStart text) := inferInstanceAs (Decidable (text.take 6 = gpsOp ∧ charAt text 6 = '='))
    have : Decidable (IsGnssStart text) := inferInstanceAs (Decidable (text.take 7 = gnssOp ∧ charAt text 7 = '='))
    inferInstanceAs (Decidable (_ ∧ _))
  | .pre _ _ => isTrue trivial
  | .gsv svs => inferInstanceAs (Decidable (s.testFlag = true → HasSignal svs s → s.successNum ≤ s.prevSuccessNum))

variable {s : AtTest} {now : Int} {text : List Char}

/-- What a step leaves: a running test has room, and what was shown is proper. -/
structure Sound (r : AtTest × List Effect) : Prop where
  counting : Counting r.1
  proper : ∀ e ∈ r.2, e.Proper

theorem Sound.quiet (h : Counting s) : Sound (s, []) := ⟨h, fun _ he => absurd he not_mem_nil⟩

theorem Sound.ack {r : AtTest × List Effect} (h : Sound r) (answer : String) : Sound (r.1, r.2 ++ [Effect.ack answer]) := by
  refine ⟨h.counting, fun e he => ?_⟩
  rcases mem_append.mp he with hold | hnew
  · exact h.proper e hold
  · rw [mem_singleton.mp hnew]
    trivial

theorem Sound.answer (h : Counting s) (e : Effect) (he : e.Proper) : Sound (s, [e]) :=
  ⟨h, fun _ hmem => mem_singleton.mp hmem ▸ he⟩

/-! ## The commands -/

theorem counting_of_off (h : s.testFlag = false) : Counting s := by
  intro hon
  rw [h] at hon
  cases hon

theorem testStop_sound (s : AtTest) : Sound (testStop s) := .answer (counting_of_off rfl) _ trivial

theorem testStopBefore_usb (h : s.testModeFlag = false) : testStopBefore s = (s, []) := by
  simp [testStopBefore, h]

theorem testStart_normal {n : Nat} {prn delay : Int} (husb : s.testModeFlag = false) (hn : n ≠ 0) :
    testStart now n prn delay false s =
      ({ testPrepare now n prn delay s with testFlag := true, state := .inProgress }, 0, [.driver true]) := by
  have hsome : ¬(n = 0 ∧ false = false) := fun h => hn h.1
  unfold testStart
  rw [testStopBefore_usb husb]
  rw [if_neg hsome]
  rfl

theorem testStart_signal {n : Nat} {prn delay : Int} (husb : s.testModeFlag = false) :
    testStart now n prn delay true s =
      ({ testPrepare now n prn delay s with signalMode := true, state := .inProgress }, 0, [.driver true]) := by
  have hsignal : ¬(n = 0 ∧ true = false) := fun h => Bool.noConfusion h.2
  unfold testStart
  rw [testStopBefore_usb husb]
  rw [if_neg hsignal]
  rfl

theorem intsAllocated_eq {n : Nat} (h : 4 * n < UInt32.size) : intsAllocated n = n := by
  unfold intsAllocated
  rw [Nat.mod_eq_of_lt h]
  omega

theorem startNormal_sound {n : Int} {ok failed : String} (h : Counting s) (husb : s.testModeFlag = false)
    (hroom : 0 ≤ n → Startable s n.toNat ∧ s.successNum ≤ s.prevSuccessNum + 1) :
    Sound (startNormal now n ok failed s) := by
  unfold startNormal
  by_cases hn : n ≥ 0
  · rw [if_pos hn]
    obtain ⟨⟨hcounted, hless⟩, hahead⟩ := hroom hn
    have hsome : n.toNat ≠ 0 := by omega
    rw [testStart_normal husb hsome]
    refine Sound.ack (r := (_, [.driver true])) (.answer (fun _ => ?_) _ trivial) _
    exact ⟨⟨_, rfl, rfl, intsAllocated_eq hless⟩, hcounted, hahead⟩
  · rw [if_neg hn]
    exact .answer h _ trivial

theorem counting_gnssReset (h : Counting s) : Counting (gnssReset s) := by
  intro hon
  obtain ⟨hmem, hcounted, -⟩ := h hon
  exact ⟨hmem, hcounted, Nat.zero_le _⟩

theorem sendCno_proper (text : List Char) (s : AtTest) : (sendCno text s).Proper := by
  unfold sendCno
  split
  · trivial
  · dsimp only
    generalize (if s.signalMode then s.cn else s.avgCNo) = cno
    split <;> trivial

theorem sendTestResult_proper (s : AtTest) : (sendTestResult s).Proper := by
  unfold sendTestResult
  split
  · trivial
  · trivial
  · split
    · trivial
    · split <;> trivial

theorem gpsCommand_sound (h : Counting s) (husb : s.testModeFlag = false)
    (hroom : charAt text 6 = '=' → 0 ≤ parseTestNum text →
      Startable s (parseTestNum text).toNat ∧ s.successNum ≤ s.prevSuccessNum + 1) :
    Sound (gpsCommand now text s) := by
  unfold gpsCommand
  by_cases heq : charAt text 6 = '='
  · rw [if_pos heq]
    split
    · exact .answer h _ (sendCno_proper text s)
    · split
      · exact .quiet h
      · split
        · exact .quiet h
        · exact startNormal_sound h husb (hroom heq)
  · rw [if_neg heq]
    split
    · split <;> exact .answer h _ trivial
    · split
      · exact .answer h _ (sendCno_proper text s)
      · exact .answer h _ trivial

theorem gnssSignal_sound (husb : s.testModeFlag = false) : Sound (gnssSignal now s) := by
  unfold gnssSignal
  by_cases hoff : s.testFlag = false
  · rw [if_pos hoff]
    rw [testStart_signal husb]
    refine Sound.ack (r := (_, [.driver true])) (.answer (counting_of_off ?_) _ trivial) _
    exact hoff
  · rw [if_neg hoff]
    exact .answer (counting_of_off rfl) _ trivial

theorem gnssEnd_sound (h : Counting s) : Sound (gnssEnd s) := by
  unfold gnssEnd
  split
  · exact .answer h _ trivial
  · exact (testStop_sound s).ack _

theorem gnssStart_sound {n : Int} (h : Counting s) (husb : s.testModeFlag = false)
    (hroom : s.signalMode = false → 0 ≤ n → Startable s n.toNat) :
    Sound (gnssStart now n s) := by
  have hreset : Counting (gnssReset s) := counting_gnssReset h
  unfold gnssStart
  by_cases hsignal : (gnssReset s).signalMode = true
  · rw [if_pos hsignal]
    split
    · split
      · refine ⟨(testStop_sound _).counting, fun e he => ?_⟩
        rcases mem_append.mp he with hack | hstop
        · rw [mem_singleton.mp hack]
          trivial
        · exact (testStop_sound _).proper e hstop
      · exact .answer hreset _ trivial
    · refine .answer (fun hon => ?_) _ trivial
      obtain ⟨hmem, hcounted, hahead⟩ := hreset hon
      exact ⟨hmem, hcounted, hahead⟩
  · rw [if_neg hsignal]
    have hnormal : s.signalMode = false := Bool.eq_false_iff.mpr hsignal
    exact startNormal_sound hreset husb (fun hn => ⟨hroom hnormal hn, Nat.zero_le _⟩)

theorem gnssCommand_sound (h : Counting s) (husb : s.testModeFlag = false)
    (hroom : charAt text 7 = '=' → s.signalMode = false → 0 ≤ parseTestNum text →
      Startable s (parseTestNum text).toNat) :
    Sound (gnssCommand now text s) := by
  unfold gnssCommand
  by_cases heq : charAt text 7 = '='
  · rw [if_pos heq]
    split
    · exact .answer h _ (sendTestResult_proper s)
    · split
      · exact gnssSignal_sound husb
      · split
        · exact gnssEnd_sound h
        · exact gnssStart_sound h husb (hroom heq)
  · rw [if_neg heq]
    split
    · exact .answer h _ (sendTestResult_proper s)
    · split
      · exact .answer h _ (sendCno_proper text s)
      · exact .answer h _ trivial

theorem command_inRoom (h : Counting s) (ho : Orderly s (.command now text)) : Sound (atCommandParser now text s) := by
  have husb : Counting { s with testModeFlag := false } := by
    intro hon
    obtain ⟨hmem, hcounted, hahead⟩ := h hon
    exact ⟨hmem, hcounted, hahead⟩
  obtain ⟨hgps, hgnss⟩ := ho
  unfold atCommandParser
  split
  · rename_i hop
    exact gpsCommand_sound husb rfl (fun heq => hgps ⟨hop, heq⟩)
  · split
    · rename_i hop
      exact gnssCommand_sound husb rfl (fun heq => hgnss ⟨hop, heq⟩)
    · exact .answer h _ trivial

/-! ## The check -/

theorem InRoom.counted_le (h : InRoom s) : s.successNum + failuresNow s ≤ s.halTestData.testNum := by
  obtain ⟨-, hcounted, hahead⟩ := h
  unfold failuresNow
  split <;> omega

theorem InRoom.stopped (h : InRoom s) (hcount : s.halTestData.testNum ≤ s.successNum + failuresNow s) :
    testStopped s = true := by
  have hle : s.successNum + failuresNow s ≤ s.halTestData.testNum := h.counted_le
  have hpos : s.successNum > 0 := by
    obtain ⟨-, hcounted, -⟩ := h
    by_contra hzero
    have hsame : failuresNow s = s.failureNum := if_neg (fun hs => hzero hs.1)
    omega
  unfold testStopped
  rw [if_pos hpos, decide_eq_true_eq]
  omega

theorem InRoom.checkCount (h : InRoom s) (hgo : testStopped s = false) : InRoom (checkCount s) := by
  have hless : s.successNum + failuresNow s < s.halTestData.testNum := by
    by_contra hnot
    rw [h.stopped (Nat.le_of_not_lt hnot)] at hgo
    cases hgo
  obtain ⟨hmem, -, -⟩ := h
  unfold AtCmd.checkCount
  by_cases hpos : s.successNum > 0
  · rw [if_pos hpos]
    exact ⟨hmem, hless, Nat.le_succ _⟩
  · rw [if_neg hpos]
    have hsame : failuresNow s = s.failureNum := if_neg (fun hs => hpos hs.1)
    rw [hsame] at hless
    split <;> exact ⟨hmem, hless, Nat.le_succ _⟩

theorem checkCount_testFlag (s : AtTest) : (checkCount s).testFlag = s.testFlag := by
  unfold checkCount
  split
  · rfl
  · split <;> rfl

theorem check_inRoom (h : Counting s) : Sound (check s) := by
  have hshown : ∀ e ∈ (if s.testFlag then
      [Effect.checked (s.successNum + failuresNow s) s.halTestData.testNum (testStopped s)] else []), e.Proper := by
    intro e he
    by_cases hon : s.testFlag = true
    · rw [if_pos hon] at he
      rw [mem_singleton.mp he]
      exact (h hon).stopped
    · rw [if_neg hon] at he
      cases he
  unfold check
  dsimp only
  by_cases hstop : testStopped s = true
  · rw [if_pos hstop]
    split
    · refine ⟨counting_of_off rfl, fun e he => ?_⟩
      rcases mem_append.mp he with hfirst | hlast
      · exact hshown e hfirst
      · exact (testStop_sound _).proper e hlast
    · rename_i hoff
      exact ⟨counting_of_off (Bool.eq_false_iff.mpr hoff), hshown⟩
  · rw [if_neg hstop]
    refine ⟨fun hon => ?_, hshown⟩
    rw [checkCount_testFlag] at hon
    exact (h hon).checkCount (Bool.eq_false_iff.mpr hstop)

theorem pre_inRoom {endTag : Bool} (h : Counting s) : Sound (nmeaParserAtCmdPre now endTag s) := by
  unfold nmeaParserAtCmdPre
  split
  · split
    · split
      · exact check_inRoom h
      · exact .quiet h
    · exact .quiet h
  · exact .quiet h

/-! ## The sample -/

theorem Counting.congr {s' : AtTest} (h : Counting s) (hflag : s'.testFlag = s.testFlag)
    (hhal : s'.halTestData = s.halTestData) (hmem : s'.devCnr = s.devCnr) (hs : s'.successNum = s.successNum)
    (hf : s'.failureNum = s.failureNum) (hp : s'.prevSuccessNum = s.prevSuccessNum) : Counting s' := by
  intro hon
  obtain ⟨hmemory, hcounted, hahead⟩ := h (hflag ▸ hon)
  exact ⟨by rw [hmem, hhal]; exact hmemory, by rw [hp, hf, hhal]; exact hcounted, by rw [hs, hp]; exact hahead⟩

theorem signalState_eq (s : AtTest) : ∃ state sig, signalState s = { s with state := state, sigSucNum := sig } := by
  unfold signalState
  split
  · exact ⟨_, _, rfl⟩
  · split <;> exact ⟨_, _, rfl⟩

theorem sample_inRoom {snr : Int} (h : InRoom s) (hfirst : s.successNum ≤ s.prevSuccessNum) : Sound (sample snr s) := by
  obtain ⟨⟨b, hb, hlive, hsize⟩, hcounted, -⟩ := h
  simp only [sample, writeDevCnr, hb, hlive]
  refine ⟨fun _ => ⟨⟨_, rfl, rfl, hsize⟩, hcounted, Nat.succ_le_succ hfirst⟩, fun e he => ?_⟩
  rw [mem_singleton.mp he]
  show s.successNum < b.size
  omega

theorem found_inRoom {snr : Int} (h : Counting s)
    (hfirst : s.testFlag = true → snr ≠ 0 → s.successNum ≤ s.prevSuccessNum) : Sound (found snr s) := by
  suffices hr : ∀ r : AtTest × List Effect, Sound r →
      Sound (if r.1.successNum ≠ 0 then { r.1 with devCNo := deviation r.1 } else r.1, r.2) by
    apply hr
    by_cases hsnr : snr ≠ 0
    · rw [if_pos hsnr]
      obtain ⟨state, sig, heq⟩ := signalState_eq s
      have hsignal : Counting { s with state := state, sigSucNum := sig } := h.congr rfl rfl rfl rfl rfl rfl
      dsimp only
      rw [heq]
      by_cases hon : s.testFlag = true
      · rw [if_pos hon]
        have hsample : Sound (sample snr { s with state := state, sigSucNum := sig }) :=
          sample_inRoom (hsignal hon) (hfirst hon hsnr)
        exact ⟨hsample.counting.congr rfl rfl rfl rfl rfl rfl, hsample.proper⟩
      · rw [if_neg hon]
        exact .quiet (hsignal.congr rfl rfl rfl rfl rfl rfl)
    · rw [if_neg hsnr]
      exact .quiet (h.congr rfl rfl rfl rfl rfl rfl)
  intro r hr
  refine ⟨?_, hr.proper⟩
  split
  · exact hr.counting.congr rfl rfl rfl rfl rfl rfl
  · exact hr.counting

theorem searchSatellite_inRoom {svs : List (Int × Int)} (h : Counting s)
    (hfirst : s.testFlag = true → HasSignal svs s → s.successNum ≤ s.prevSuccessNum) :
    Sound (searchSatellite svs s) := by
  unfold searchSatellite
  split
  · rename_i sv hfind
    exact found_inRoom h (fun hon hsnr => hfirst hon ⟨sv, hfind, hsnr⟩)
  · exact .quiet h

theorem testProc_inRoom {svs : List (Int × Int)} (h : Counting s)
    (hfirst : s.testFlag = true → HasSignal svs s → s.successNum ≤ s.prevSuccessNum) : Sound (testProc svs s) := by
  have hsearch : Sound (searchSatellite svs s) := searchSatellite_inRoom h hfirst
  unfold testProc
  split
  · split
    · split
      · exact ⟨hsearch.counting.congr rfl rfl rfl rfl rfl rfl, hsearch.proper⟩
      · exact .quiet h
    · exact hsearch
  · exact .quiet h

/-! ## Whole runs -/

theorem step_inRoom {move : Move} (h : Counting s) (ho : Orderly s move) : Sound (step s move) := by
  cases move with
  | command now text => exact command_inRoom h ho
  | pre now endTag => exact pre_inRoom h
  | gsv svs =>
    show Sound (if s.testFlag ∨ s.signalMode then testProc svs s else (s, []))
    split
    · exact testProc_inRoom h ho
    · exact .quiet h

/-- **Samples are written in the memory and tests end in time.** In every run of commands and sentences in which each
    normal-mode test is started with more samples than the counters left by an earlier one and less than `2 ^ 30`, and
    no two samples are taken between two checks, every write `Dev_CNr[Success_Num]` is within the ints allocated, and
    a normal-mode test ends at the first end-of-buffer check that counts the samples asked for. -/
theorem samples_inRoom {tr : List (Transducer.Entry AtTest Move Effect)} {s : AtTest} (hrun : machine.Run tr s)
    (horder : ∀ x ∈ tr, Orderly x.pre x.event) : ∀ x ∈ tr, ∀ e ∈ x.out, e.Proper := by
  have hall : Counting s ∧ ∀ x ∈ tr, ∀ e ∈ x.out, e.Proper := by
    refine hrun.outputs_along (I := Counting) (C := fun x => Orderly x.pre x.event)
      (O := fun x => ∀ e ∈ x.out, e.Proper) ?_ ?_ horder
    · exact counting_of_off rfl
    · intro s move h _ ho
      have hstep : Sound (step s move) := step_inRoom h ho
      exact ⟨hstep.counting, hstep.proper⟩
  exact hall.2

/-- A test of two samples, with a check after each. -/
theorem samples_inRoom_two :
    let moves : List Move := [.command 0 (gpsOp ++ ['=', '2']), .pre 3 true, .gsv [(1, 40)], .pre 4 true,
      .gsv [(7, 30), (1, 41)], .pre 5 true]
    (machine.exec moves).2.testFlag = false ∧ ∀ x ∈ (machine.exec moves).1, ∀ e ∈ x.out, e.Proper := by
  refine ⟨by decide, samples_inRoom (machine.run_exec (.of_forall (fun _ _ => trivial) _ _)) ?_⟩
  exact machine.exec_along (by decide)

/-- The memory of a test of `2 ^ 30 + 1` samples has one int. -/
example : intsAllocated 1073741825 = 1 := by decide

/-- A test of one sample: the satellite is in view in both buffers of the first two seconds, in which there is no
    check, and the second sample is written behind the memory. -/
theorem samples_overrun :
    let moves : List Move := [.command 0 (gpsOp ++ ['=', '1']), .pre 0 false, .gsv [(1, 40)], .pre 0 true,
      .pre 1 false, .gsv [(1, 41)]]
    ¬∀ x ∈ (machine.exec moves).1, ∀ e ∈ x.out, e.Proper := by
  intro moves hall
  have hout : Effect.write 1 1 ∈ Transducer.outs (machine.exec moves).1 := by decide
  obtain ⟨x, hx, he⟩ := mem_flatMap.mp hout
  exact absurd (hall x hx _ he) (Nat.lt_irrefl 1)

end HuaweiY5.Mnld.AtCmd
