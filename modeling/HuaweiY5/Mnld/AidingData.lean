import HuaweiY5.Lib.Ledger
import HuaweiY5.Mnld.CloseAck
import HuaweiY5.Mnld.Controller

/-!
# `Mnld.AidingData` — what happens to a request to delete aiding data

HAL and agpsd ask for aiding data to be deleted by a flag word. The FSM ORs the words into
`delete_aiding_flag` and hands it over with the next START or DELETE_AIDING_DATA command. As a ledger
(`Lib.Ledger`) this accumulator is **exact**: every command takes precisely what was requested since the
command before it, so no request is lost, none is sent twice and nothing is invented.
-/

namespace HuaweiY5.Mnld

open List Ledger

/-- The commands that take the accumulated flags. -/
inductive AidingCommand
  | start
  | deleteAidingData
deriving DecidableEq

abbrev AidingItem := Item AidingCommand (BitVec 32)

def EngineMsg.aiding : EngineMsg → Option AidingItem
  | .start flags => some (.flush .start flags)
  | .deleteAidingData flags => some (.flush .deleteAidingData flags)
  | .requestWakelock | .stop | .releaseWakelock | .crash => none

/-- The ledger items of one handled event: its request first, then the commands it sent. -/
def entryItems (y : MnldEntry) : List AidingItem :=
  (y.event.requested.map Item.add).toList ++ (engineMsgs y.out).filterMap EngineMsg.aiding

def aidingItems (tr : List MnldEntry) : List AidingItem := tr.flatMap entryItems

@[simp] theorem aidingItems_snoc (tr : List MnldEntry) (y : MnldEntry) :
    aidingItems (tr ++ [y]) = aidingItems tr ++ entryItems y := by
  simp [aidingItems]

abbrev orAll (l : List (BitVec 32)) : BitVec 32 := total (· ||| ·) 0 l

instance lawfulIdentityOr : Std.LawfulIdentity (fun a b : BitVec 32 => a ||| b) 0 where
  left_id _ := BitVec.zero_or
  right_id _ := BitVec.or_zero

/-! ## The accumulator is exact -/

theorem EngineStep.aiding {ev : Option GpsEvent} {s s' : GpsState} {fl fl' : BitVec 32} {msgs : List EngineMsg}
    (h : EngineStep ev s fl s' fl' msgs) :
    (msgs.filterMap EngineMsg.aiding = [] ∧ fl' = fl) ∨
      ∃ k, msgs.filterMap EngineMsg.aiding = [.flush k fl] ∧ fl' = 0 := by
  have hdel : (deleteCmd fl).filterMap EngineMsg.aiding = [] ∧ 0 = fl ∨
      (deleteCmd fl).filterMap EngineMsg.aiding = [.flush .deleteAidingData fl] := by
    unfold deleteCmd
    split
    · exact .inr rfl
    · rename_i h0
      exact .inl ⟨rfl, (not_not.mp h0).symm⟩
  cases h with
  | quiet | halt | sleep | crash => exact .inl ⟨rfl, rfl⟩
  | wake | restart => exact .inr ⟨.start, rfl, rfl⟩
  | run | delete => exact hdel.imp id fun h => ⟨_, h, rfl⟩
  | abandon =>
    rw [filterMap_append]
    rcases hdel with ⟨hnil, h0⟩ | hdel
    · exact .inl ⟨by rw [hnil]; rfl, h0⟩
    · exact .inr ⟨_, by rw [hdel]; rfl, rfl⟩

/-- The ledger of a history is exact, and the context holds its open window. -/
structure AidingInv (tr : List MnldEntry) (x : MnldContext) : Prop where
  exact : Exact (· ||| ·) 0 (aidingItems tr)
  flag : x.deleteAidingFlag = orAll (window (aidingItems tr))

variable {tr : List MnldEntry} {x : MnldContext} {g : BitVec 32} {l : List (BitVec 32)}

theorem AidingInv.request (h : AidingInv tr x) (e : MainEvent) :
    let items := aidingItems tr ++ (e.requested.map Item.add).toList
    Exact (· ||| ·) 0 items ∧ x.deleteAidingFlag ||| e.requested.getD 0 = orAll (window items) := by
  cases e.requested with
  | none => simpa using ⟨h.exact, h.flag⟩
  | some f =>
    refine ⟨h.exact.snoc_add f, ?_⟩
    simp only [Option.map_some, Option.toList_some, Option.getD_some, window_snoc_add, orAll, total_snoc]
    rw [h.flag]

/-- **Step lemma.** -/
theorem AidingInv.step (h : AidingInv tr x) (e : MainEvent) :
    AidingInv (tr ++ [mnldMachine.entry x e]) (mnldMachine.next x e) := by
  obtain ⟨hexact, hflag⟩ := h.request e
  have hitems : aidingItems (tr ++ [mnldMachine.entry x e]) =
      (aidingItems tr ++ (e.requested.map Item.add).toList) ++
        (engineMsgs (handle e ⟨x, []⟩).sent).filterMap EngineMsg.aiding := by
    rw [aidingItems_snoc, append_assoc]; rfl
  rcases (handle_engineStep x e).aiding with ⟨hnil, hfl⟩ | ⟨k, hflush, hfl⟩
  · rw [hnil, append_nil] at hitems
    exact ⟨by rw [hitems]; exact hexact, by rw [hitems, ← hflag]; exact hfl⟩
  · rw [hflush, hflag] at hitems
    exact ⟨by rw [hitems]; exact hexact.snoc_flush k, by rw [hitems, window_snoc_flush]; exact hfl⟩

/-- **Run lemma.** -/
theorem aidingInv_run (h : mnldMachine.Run tr x) : AidingInv tr x := by
  induction h with
  | nil => exact ⟨exact_nil _ _, rfl⟩
  | snoc _ _ ih => exact ih.step _

/-- **Deletion requests are conserved.** In every history: what the commands carried, with what is still
    accumulated, is what was requested; a request is carried by the first command after it; and every bit a
    command carries was requested since the command before it. -/
theorem aidingData_conserved {tr : List MnldEntry} {x : MnldContext} (h : mnldMachine.Run tr x) :
    orAll (flushed (aidingItems tr)) ||| x.deleteAidingFlag = orAll (added (aidingItems tr)) ∧
    (∀ l f m k g r, aidingItems tr = l ++ .add f :: (m ++ .flush k g :: r) →
      (∀ k' g', Item.flush k' g' ∉ m) → ∀ i, f.getLsbD i = true → g.getLsbD i = true) ∧
    (∀ l k g r, aidingItems tr = l ++ .flush k g :: r → ∀ i, g.getLsbD i = true →
      ∃ l' f m, l = l' ++ .add f :: m ∧ (∀ k' g', Item.flush k' g' ∉ m) ∧ f.getLsbD i = true) := by
  obtain ⟨hexact, hflag⟩ := aidingInv_run h
  refine ⟨by rw [hflag]; exact hexact.conserved, ?_, ?_⟩
  · intro l f m k g r heq hm i hi
    have hg := hexact (l ++ .add f :: m) k g r (by rw [heq]; simp)
    rw [hg, getLsbD_total_or]
    exact ⟨f, mem_window.mpr ⟨l, m, rfl, hm⟩, hi⟩
  · intro l k g r heq i hi
    rw [hexact l k g r heq, getLsbD_total_or] at hi
    obtain ⟨f, hf, hi⟩ := hi
    obtain ⟨l', m, hl, hm⟩ := mem_window.mp hf
    exact ⟨l', f, m, hl, hm, hi⟩

/-- Two deletions while STARTING are handed over together once the engine has started. -/
theorem aidingData_conserved_merged :
    let es : List MainEvent := [.halGpsStart ⟨false, false⟩, .halGpsDeleteAidingData 0x1,
      .agpsResetGpsReq 0x8, .startDone 0]
    aidingItems (mnldMachine.exec es).1 = [.flush .start 0, .add 0x1, .add 0x8, .flush .deleteAidingData 0x9] ∧
    ∀ i, (0x8 : BitVec 32).getLsbD i = true → (0x9 : BitVec 32).getLsbD i = true := by
  intro es
  have hrun : mnldMachine.Run (mnldMachine.exec es).1 (mnldMachine.exec es).2 :=
    mnldMachine.run_exec (by simp [Transducer.Admissible, mnldMachine, es])
  exact ⟨rfl, (aidingData_conserved hrun).2.1 [.flush .start 0, .add 0x1] 0x8 [] .deleteAidingData
    0x9 [] rfl (by simp)⟩

/-! ## What libmnl is told to delete -/

/-- Every bit of `f` is a bit of `g`. -/
def FlagsSub (f g : BitVec 32) : Prop := f ||| g = g
  deriving Decidable

theorem flagsSub_iff {f : BitVec 32} : FlagsSub f g ↔ ∀ i, f.getLsbD i = true → g.getLsbD i = true := by
  constructor
  · intro h i hi
    rw [← (h : f ||| g = g), BitVec.getLsbD_or, hi, Bool.true_or]
  · intro h
    refine BitVec.eq_of_getLsbD_eq fun i _ => ?_
    rw [BitVec.getLsbD_or]
    cases hi : f.getLsbD i with
    | false => rfl
    | true => simp [h i hi]

theorem orAll_sub (h : ∀ f ∈ l, FlagsSub f g) : FlagsSub (orAll l) g := by
  rw [flagsSub_iff]
  intro i hi
  obtain ⟨f, hf, hi⟩ := getLsbD_total_or.mp hi
  exact flagsSub_iff.mp (h f hf) i hi

theorem sub_orAll {f : BitVec 32} (h : f ∈ l) : FlagsSub f (orAll l) :=
  flagsSub_iff.mpr fun _ hi => getLsbD_total_or.mpr ⟨f, h, hi⟩

def mergedFlags : List (BitVec 32) := [0x0, 0x1, 0x3, 0x5, 0x7, 0x8, 0x9, 0xB, 0xD, 0xF, 0xF7FF, 0xFFFF]

/-- Merging one more supported word: the result is again such an OR, and if it is a supported word it is the
    new word or the old OR. -/
theorem merge_supported : ∀ f ∈ supportedFlags, ∀ g ∈ mergedFlags,
    f ||| g ∈ mergedFlags ∧ (f ||| g ∈ supportedFlags → f ||| g = f ∨ f ||| g = g) := by
  have hall : (supportedFlags.all fun f => mergedFlags.all fun g =>
      f ||| g ∈ mergedFlags ∧ (f ||| g ∈ supportedFlags → f ||| g = f ∨ f ||| g = g)) = true := by
    decide
  simpa only [all_eq_true, decide_eq_true_eq] using hall

theorem orAll_mergedFlags (h : ∀ f ∈ l, f ∈ supportedFlags) : orAll l ∈ mergedFlags := by
  induction l with
  | nil => decide
  | cons f l ih =>
    exact (merge_supported f (h f (by simp)) _ (ih fun g hg => h g (by simp [hg]))).1

theorem orAll_mem_of_supported (h : ∀ f ∈ l, f ∈ supportedFlags) (hne : l ≠ []) (hor : orAll l ∈ supportedFlags) :
    orAll l ∈ l := by
  induction l with
  | nil => exact absurd rfl hne
  | cons f l ih =>
    have hl : ∀ g ∈ l, g ∈ supportedFlags := fun g hg => h g (by simp [hg])
    have hstep := merge_supported f (h f (by simp)) _ (orAll_mergedFlags hl)
    rcases hstep.2 hor with heq | heq
    · exact mem_cons.mpr (.inl heq)
    · -- the rest already ORs to the whole
      have hrest : orAll l ∈ supportedFlags := heq ▸ hor
      by_cases hnil : l = []
      · subst hnil
        exact mem_cons.mpr (.inl BitVec.or_zero)
      · exact mem_cons_of_mem _ (Eq.mpr (congrArg (· ∈ l) heq) (ih hl hnil hrest))

theorem restartType_covers_iff (h : ∀ f ∈ l, f ∈ supportedFlags) (hne : l ≠ []) :
    (∀ f ∈ l, FlagsSub f (restartType (orAll l)).deletes) ↔ ∃ f ∈ l, ∀ g ∈ l, FlagsSub g f := by
  constructor
  · intro hall
    have hsup : orAll l ∈ supportedFlags := by
      by_contra hns
      -- the hot start deletes nothing, so nothing was requested
      rw [restartType_unsupported hns] at hall
      have h0 : orAll l = 0 := BitVec.or_zero.symm.trans (orAll_sub hall)
      exact hns (h0 ▸ by decide)
    exact ⟨orAll l, orAll_mem_of_supported h hne hsup, fun g hg => sub_orAll hg⟩
  · rintro ⟨f, hf, hcov⟩ g hg
    have hor : orAll l = f := by
      have h1 : orAll l ||| f = f := orAll_sub hcov
      have h2 : f ||| orAll l = orAll l := sub_orAll hf
      rw [← h2, BitVec.or_comm, h1]
    rw [hor, restartType_supported (h f hf)]
    exact hcov g hg

theorem EngineStep.delete_ne_zero {ev : Option GpsEvent} {s s' : GpsState} {fl fl' : BitVec 32}
    {msgs : List EngineMsg} (h : EngineStep ev s fl s' fl' msgs) (hg : EngineMsg.deleteAidingData g ∈ msgs) :
    g ≠ 0 := by
  have hcmd : EngineMsg.deleteAidingData g ∈ deleteCmd fl → g ≠ 0 := by
    unfold deleteCmd
    split
    · rename_i h0
      intro hmem
      obtain rfl : g = fl := by simpa using hmem
      exact h0
    · intro hmem
      simp at hmem
  cases h with
  | quiet | wake | halt | restart | sleep | crash => simp at hg
  | run | delete => exact hcmd hg
  | abandon => exact hcmd (by simpa using hg)

theorem delete_ne_zero_run (h : mnldMachine.Run tr x) (hg : Item.flush .deleteAidingData g ∈ aidingItems tr) :
    g ≠ 0 := by
  obtain ⟨y, hy, hg⟩ := mem_flatMap.mp hg
  obtain ⟨-, -, hout⟩ := h.mem hy
  rcases mem_append.mp hg with hg | hg
  · cases hr : y.event.requested <;> simp at hg
  · obtain ⟨m, hm, hmg⟩ := mem_filterMap.mp hg
    have hm' : m = .deleteAidingData g := by
      cases m <;> simp [EngineMsg.aiding] at hmg
      rw [hmg]
    rw [hout, hm'] at hm
    exact (handle_engineStep y.pre y.event).delete_ne_zero hm

/-- **Which merges are deleted.** Take a DELETE_AIDING_DATA command of a run all of whose merged requests
    (those since the command before it) are supported flag words. The restart type handed to libmnl deletes
    every bit of every merged request if and only if one of the merged requests contains all the others. -/
theorem mergedDelete_covers_iff {tr : List MnldEntry} {x : MnldContext} (h : mnldMachine.Run tr x)
    {l r : List AidingItem} {g : BitVec 32}
    (hcmd : aidingItems tr = l ++ .flush .deleteAidingData g :: r)
    (hsup : ∀ f ∈ window l, f ∈ supportedFlags) :
    (∀ f ∈ window l, FlagsSub f (mnldGpsDeleteAidingData g).1.deletes) ↔
      ∃ f ∈ window l, ∀ f' ∈ window l, FlagsSub f' f := by
  have hg : g = orAll (window l) := (aidingInv_run h).exact l _ g r hcmd
  have hne : window l ≠ [] := by
    intro hnil
    rw [hnil] at hg
    exact delete_ne_zero_run h (by rw [hcmd]; simp) hg
  rw [show (mnldGpsDeleteAidingData g).1 = restartType (orAll (window l)) by rw [hg]; rfl]
  exact restartType_covers_iff hsup hne

/-- A warm restart and a deletion of the time, both received while STARTING. -/
def warmAndTimeWhileStarting : List MainEvent :=
  [.halGpsStart ⟨false, false⟩, .halGpsDeleteAidingData flagWarmStart,
    .halGpsDeleteAidingData flagDeleteTimeStart, .startDone 0]

/-- They are merged into one command, and libmnl is told to delete neither. -/
theorem warmAndTimeWhileStarting_kept :
    ∃ tr x l g, mnldMachine.Run tr x ∧ tr.map (·.event) = warmAndTimeWhileStarting ∧
      aidingItems tr = l ++ [.flush .deleteAidingData g] ∧
      window l = [flagWarmStart, flagDeleteTimeStart] ∧
      (∀ f ∈ window l, f ∈ supportedFlags) ∧
      ∀ f ∈ window l, ¬ FlagsSub f (mnldGpsDeleteAidingData g).1.deletes := by
  refine ⟨(mnldMachine.exec warmAndTimeWhileStarting).1, (mnldMachine.exec warmAndTimeWhileStarting).2,
    [.flush .start 0, .add flagWarmStart, .add flagDeleteTimeStart], 0x9, mnldMachine.run_exec ?_,
    rfl, rfl, rfl, ?_, ?_⟩
  · simp [Transducer.Admissible, mnldMachine, warmAndTimeWhileStarting]
  · exact forall_mem_cons.mpr ⟨by decide, forall_mem_singleton.mpr (by decide)⟩
  · exact forall_mem_cons.mpr ⟨by decide, forall_mem_singleton.mpr (by decide)⟩

/-- A warm and a cold restart are merged into the cold one, which covers both. -/
theorem mergedDelete_covers_warm_cold :
    let es : List MainEvent := [.halGpsStart ⟨false, false⟩, .halGpsDeleteAidingData flagWarmStart,
      .agpsResetGpsReq flagColdStart, .startDone 0]
    aidingItems (mnldMachine.exec es).1 = [.flush .start 0, .add flagWarmStart, .add flagColdStart] ++
      .flush .deleteAidingData flagColdStart :: [] ∧
    ∀ f ∈ [flagWarmStart, flagColdStart], FlagsSub f (mnldGpsDeleteAidingData flagColdStart).1.deletes := by
  intro es
  have hrun : mnldMachine.Run (mnldMachine.exec es).1 (mnldMachine.exec es).2 :=
    mnldMachine.run_exec (by simp [Transducer.Admissible, mnldMachine, es])
  have hiff := mergedDelete_covers_iff hrun
    (l := [.flush .start 0, .add flagWarmStart, .add flagColdStart]) rfl
    (forall_mem_cons.mpr ⟨by decide, forall_mem_singleton.mpr (by decide)⟩)
  exact ⟨rfl, hiff.mpr ⟨flagColdStart, by decide,
    forall_mem_cons.mpr ⟨by decide, forall_mem_singleton.mpr (by decide)⟩⟩⟩

end HuaweiY5.Mnld
