import HuaweiY5.Lib.KeyedVector
import HuaweiY5.Lib.Transducer
import Mathlib.Order.Lattice

/-!
# `GuiExt.DumpTunnels` — the dump tunnels of the service

`regDump` and `unregDump` of `GuiExtService` with the death notices of the tunnels. A notice carries the key alone, so
that it takes away whatever tunnel is there when it comes.
-/

namespace HuaweiY5.GuiExt.DumpTunnels

open List

variable {κ : Type} [LinearOrder κ]

/-- The table, with the calls of `regDump` that wait for `mDumpLock`, the death recipients linked, and the tunnels whose
    process is dead. -/
structure State (κ : Type) [LinearOrder κ] where
  mDumpTunnels : KeyedVector κ Nat
  calls : List (Nat × κ)
  links : List (Nat × κ)
  dead : List Nat

inductive Move (κ : Type)
  /-- `regDump` up to `linkToDeath`. -/
  | regDump (tunnel : Nat) (key : κ)
  /-- The rest of `regDump`, under the lock. -/
  | register (tunnel : Nat) (key : κ)
  | unregDump (key : κ)
  | dies (tunnel : Nat)
  | binderDied (tunnel : Nat) (key : κ)

inductive Status
  | noError
  | badValue
  deriving DecidableEq

/-- The loop that removes zombies, over the indices below `i` from the last on. -/
def purge (dead : List Nat) : (i : Nat) → KeyedVector κ Nat → KeyedVector κ Nat
  | 0, tunnels => tunnels
  | i + 1, tunnels => purge dead i (match tunnels.items[i]? with
    | some x => if x.2 ∈ dead then tunnels.removeItem x.1 else tunnels
    | none => tunnels)

def step (s : State κ) : Move κ → State κ × List Status
  | .regDump tunnel key =>
    if tunnel ∈ s.dead then (s, [.badValue])
    else ({ s with calls := (tunnel, key) :: s.calls, links := (tunnel, key) :: s.links }, [])
  | .register tunnel key =>
    let tunnels := if 200 < s.mDumpTunnels.size then purge s.dead s.mDumpTunnels.size s.mDumpTunnels else s.mDumpTunnels
    ({ s with mDumpTunnels := tunnels.add key tunnel, calls := s.calls.erase (tunnel, key) }, [.noError])
  | .unregDump key => ({ s with mDumpTunnels := s.mDumpTunnels.removeItem key }, [.noError])
  | .dies tunnel => ({ s with dead := tunnel :: s.dead }, [])
  | .binderDied tunnel key =>
    ({ s with mDumpTunnels := s.mDumpTunnels.removeItem key, links := s.links.erase (tunnel, key) }, [])

def Enabled (s : State κ) : Move κ → Prop
  | .register tunnel key => (tunnel, key) ∈ s.calls
  | .binderDied tunnel key => (tunnel, key) ∈ s.links ∧ tunnel ∈ s.dead
  | _ => True

variable (κ) in
def machine : Transducer (State κ) (Move κ) Status := ⟨⟨.empty, [], [], []⟩, Enabled, step⟩

instance instDecidableEnabled (s : State κ) : (move : Move κ) → Decidable ((machine κ).enabled s move)
  | .register .. => inferInstanceAs (Decidable (_ ∈ _))
  | .binderDied .. => inferInstanceAs (Decidable (_ ∧ _))
  | .regDump .. | .unregDump _ | .dies _ => isTrue trivial

abbrev History (κ : Type) [LinearOrder κ] := List (Transducer.Entry (State κ) (Move κ) Status)

/-- The tunnel of the last `regDump` for a key that has returned `NO_ERROR`, unless `unregDump` was called since. -/
def registered (tr : History κ) : κ → Option Nat :=
  tr.foldl (fun f x => match x.event with
    | .register tunnel key => Function.update f key (some tunnel)
    | .unregDump key => Function.update f key none
    | _ => f) fun _ => none

variable {tr : History κ} {s : State κ}

theorem registered_snoc (x : Transducer.Entry (State κ) (Move κ) Status) : registered (tr ++ [x]) = match x.event with
      | .register tunnel key => Function.update (registered tr) key (some tunnel)
      | .unregDump key => Function.update (registered tr) key none
      | _ => registered tr := foldl_append

/-- A registered tunnel that is alive is found. -/
def Kept (tr : History κ) (s : State κ) : Prop :=
  ∀ key tunnel, registered tr key = some tunnel → tunnel ∉ s.dead → s.mDumpTunnels.valueFor key = some tunnel

/-- The condition on a step: a death notice comes when no tunnel that is alive is registered under its key. -/
def Timely (tr : History κ) (s : State κ) : Move κ → Prop
  | .binderDied _ key => ∀ tunnel, registered tr key = some tunnel → tunnel ∈ s.dead
  | _ => True

theorem purge_valueFor {dead : List Nat} {key : κ} {tunnel : Nat} (halive : tunnel ∉ dead) (i : Nat)
    (tunnels : KeyedVector κ Nat) (h : tunnels.valueFor key = some tunnel) :
    (purge dead i tunnels).valueFor key = some tunnel := by
  induction i generalizing tunnels with
  | zero => exact h
  | succ i ih =>
    refine ih _ ?_
    split
    · rename_i x hx
      split_ifs with hdead
      · rw [KeyedVector.valueFor_removeItem, if_neg]
        · exact h
        · rintro rfl
          have hx' : tunnels.valueFor x.1 = some x.2 := KeyedVector.mem_items_iff.mp (mem_of_getElem? hx)
          exact halive (Option.some.inj (hx'.symm.trans h) ▸ hdead)
      · exact h
    · exact h

/-- **One step.** The tunnels alive stay found exactly if the step meets the condition. -/
theorem kept_step_iff (h : Kept tr s) (move : Move κ) :
    Kept (tr ++ [(machine κ).entry s move]) ((machine κ).next s move) ↔ Timely tr s move := by
  unfold Kept
  rw [registered_snoc]
  cases move with
  | regDump tunnel key =>
    have hsame : ((machine κ).next s (.regDump tunnel key)).dead = s.dead ∧
        ((machine κ).next s (.regDump tunnel key)).mDumpTunnels = s.mDumpTunnels := by
      dsimp only [machine, Transducer.next, step]
      split_ifs <;> exact ⟨rfl, rfl⟩
    rw [hsame.1, hsame.2]
    exact iff_of_true h trivial
  | register tunnel key =>
    refine iff_of_true (fun k t hk halive => ?_) trivial
    show (KeyedVector.add _ key tunnel).valueFor k = some t
    rw [KeyedVector.valueFor_add]
    change Function.update _ _ _ _ = _ at hk
    rw [Function.update_apply] at hk
    split_ifs at hk ⊢
    · exact hk
    · exact purge_valueFor halive _ _ (h k t hk halive)
    · exact h k t hk halive
  | unregDump key =>
    refine iff_of_true (fun k t hk halive => ?_) trivial
    show (s.mDumpTunnels.removeItem key).valueFor k = some t
    rw [KeyedVector.valueFor_removeItem]
    change Function.update _ _ _ _ = _ at hk
    rw [Function.update_apply] at hk
    split_ifs at hk ⊢
    exact h k t hk halive
  | dies tunnel => exact iff_of_true (fun k t hk halive => h k t hk fun hdead => halive (mem_cons_of_mem _ hdead)) trivial
  | binderDied tunnel key =>
    have hvalue : ∀ k, ((machine κ).next s (.binderDied tunnel key)).mDumpTunnels.valueFor k =
        if k = key then none else s.mDumpTunnels.valueFor k := KeyedVector.valueFor_removeItem _ _
    constructor
    · intro hafter t ht
      by_contra halive
      have hfound := hafter key t ht halive
      rw [hvalue, if_pos rfl] at hfound
      cases hfound
    · intro htimely k t hk halive
      rw [hvalue, if_neg]
      · exact h k t hk halive
      · rintro rfl
        exact halive (htimely t hk)

/-- **A live tunnel stays registered.** After every prefix of a run each registered tunnel that is alive is found under
    its key, exactly if no death notice comes while one is registered under the notice's key. -/
theorem live_tunnels_kept_iff (hrun : (machine κ).Run tr s) :
    (∀ tr' s', (machine κ).Run tr' s' → tr' <+: tr → Kept tr' s') ↔
      ∀ (l : History κ) (x : Transducer.Entry (State κ) (Move κ) Status) (r : History κ),
        tr = l ++ x :: r → Timely l x.pre x.event :=
  hrun.forall_prefix_iff_history (by rintro _ _ ⟨⟩) (fun _ _ move _ _ h => kept_step_iff h move)

/-- A tunnel dies, its notice comes, and another tunnel is registered under its key. -/
theorem live_tunnels_kept_replaced :
    let p := (machine Nat).exec [.regDump 1 7, .register 1 7, .dies 1, .binderDied 1 7, .regDump 2 7, .register 2 7]
    (machine Nat).Run p.1 p.2 ∧ registered p.1 7 = some 2 ∧ Kept p.1 p.2 := by
  intro p
  have hrun : (machine Nat).Run p.1 p.2 := (machine Nat).run_exec (by decide)
  refine ⟨hrun, by decide, (live_tunnels_kept_iff hrun).mpr ?_ p.1 p.2 hrun (prefix_refl _)⟩
  -- the notice is the fourth move, and the others need nothing
  refine forall_split_snoc.mpr ⟨forall_split_snoc.mpr ⟨forall_split_snoc.mpr ⟨forall_split_snoc.mpr ⟨forall_split_snoc.mpr
    ⟨forall_split_snoc.mpr ⟨?_, trivial⟩, trivial⟩, trivial⟩, ?_⟩, trivial⟩, trivial⟩
  · rintro l x r hnil
    exact absurd hnil.symm (append_ne_nil_of_right_ne_nil _ (cons_ne_nil _ _))
  · intro tunnel htunnel
    obtain rfl : 1 = tunnel := Option.some.inj htunnel
    decide

/-- The notice of a tunnel that comes after another one was registered under its key takes that one away. -/
theorem late_notice_removes :
    let moves : List (Move Nat) := [.regDump 1 7, .register 1 7, .dies 1, .regDump 2 7, .register 2 7, .binderDied 1 7]
    let p := (machine Nat).exec moves
    (machine Nat).Run p.1 p.2 ∧ registered p.1 7 = some 2 ∧ 2 ∉ p.2.dead ∧ p.2.mDumpTunnels.valueFor 7 = none := by
  exact ⟨(machine Nat).run_exec (by decide), by decide, by decide, by decide⟩

end HuaweiY5.GuiExt.DumpTunnels
