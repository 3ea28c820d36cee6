import HuaweiY5.Lib.Transducer
import Mathlib.Algebra.Ring.Nat
import Mathlib.Data.Multiset.AddSub

/-!
# `Wifi.EventLoop` — the timer list of the event loop

`event_loop_add_event_timeout` and `event_loop_remove_event` on the list `wait_context`. The comparison `time_before`
assigns where it should compare, and the search for the place of an entry never moves on.
-/

namespace HuaweiY5.Wifi.EventLoop

open List

/-- `struct time_value`. -/
structure TimeValue where
  second : Nat
  usecond : Nat
  deriving DecidableEq

def TimeValue.micros (t : TimeValue) : Nat := t.second * 1000000 + t.usecond

/-- `struct socket_data`, with what is to be called as `handler`; `freed` is that the memory was given back. -/
structure SocketData (κ : Type) where
  sockFd : Int
  handler : κ
  timeout : TimeValue
  freed : Bool
  deriving DecidableEq

variable {κ : Type}

/-- `time_before`: what it returns, and `a` with `a->second = b->second`. -/
def timeBefore (a b : TimeValue) : Bool × TimeValue :=
  if b.second < a.second then (false, a)
  else (decide ¬(b.second ≠ 0 ∧ b.usecond < a.usecond), { a with second := b.second })

/-- How a call ends: it returns, it loops, or it reads through a null pointer. -/
inductive Result (κ : Type)
  | returned (waitContext : List (SocketData κ)) (value : Int)
  | loops
  | null
  deriving DecidableEq

/-- The loop of the insertion, as far as `fuel` passes. `tail` is the address of `wait_context`, so that `tail->next` is
    the first entry `b` in every pass. -/
def search (b : TimeValue) : (fuel : Nat) → TimeValue → Option TimeValue
  | 0, _ => none
  | fuel + 1, a => if (timeBefore a b).1 then some (timeBefore a b).2 else search b fuel (timeBefore a b).2

variable (l : List (SocketData κ)) (fuel : Nat)

/-- The end of `event_loop_add_event_timeout`, with the deadline already in the new entry. -/
def insert (new : SocketData κ) : List (SocketData κ) → Result κ
  | [] => .returned [new] 0
  | first :: rest =>
    let p := timeBefore new.timeout first.timeout
    if p.1 then .returned ({ new with timeout := p.2 } :: first :: rest) 0
    else match search first.timeout fuel p.2 with
      | some t => .returned ({ new with timeout := t } :: first :: rest) 0
      | none => .loops

/-- The loop of `event_loop_remove_event`, from `tail` on. -/
def unlink (sock : Int) : SocketData κ → List (SocketData κ) → List (SocketData κ) × Int
  | tail, [] => ([tail], 0)
  | tail, next :: rest =>
    if next.sockFd = sock then (tail :: rest, 1)
    else ((tail :: (unlink sock next rest).1), (unlink sock next rest).2)

/-- `event_loop_remove_event`; the first entry is freed without being unlinked. -/
def remove (sock : Int) : List (SocketData κ) → Result κ
  | [] => .null
  | first :: rest =>
    if first.sockFd = sock then .returned ({ first with freed := true } :: rest) 1
    else .returned (unlink sock first rest).1 (unlink sock first rest).2

/-- A call, an insertion with the time that `gettimeofday` gives. -/
inductive Call (κ : Type)
  | add (sock : Int) (handler : κ) (sec usec : Nat) (now : TimeValue)
  | remove (sock : Int)

/-- The new entry of an insertion. -/
def newData (sock : Int) (handler : κ) (sec usec : Nat) (now : TimeValue) : SocketData κ :=
  ⟨sock, handler, ⟨(sec + now.second) % 2 ^ 32, (usec + now.usecond) % 2 ^ 32⟩, false⟩

def call (l : List (SocketData κ)) : Call κ → Result κ
  | .add sock handler sec usec now => insert fuel (newData sock handler sec usec now) l
  | .remove sock => remove sock l

/-- The calls one after the other, the insertions with a timeout that is not zero. -/
def machine (κ : Type) (fuel : Nat) : Transducer (List (SocketData κ)) (Call κ) (Result κ) where
  init := []
  enabled := fun _ c => match c with
    | .add _ _ sec usec _ => sec ≠ 0 ∨ usec ≠ 0
    | .remove _ => True
  step := fun l c => (match call fuel l c with
    | .returned l' _ => l'
    | _ => l, [call fuel l c])

instance instDecidableEnabled (fuel : Nat) (l : List (SocketData κ)) : (c : Call κ) →
    Decidable ((machine κ fuel).enabled l c)
  | .add .. => inferInstanceAs (Decidable (_ ∨ _))
  | .remove _ => isTrue trivial

/-! ## What a call should do -/

/-- The list is ordered by deadline, and no entry of it was freed. -/
def Proper : Prop := l.Pairwise (fun a b => a.timeout.micros ≤ b.timeout.micros) ∧ ∀ d ∈ l, d.freed = false

/-- The list after a call has the new entry, or the first entry of the socket less. -/
def Changed (l l' : List (SocketData κ)) : Call κ → Prop
  | .add sock handler sec usec now => l'.Perm (newData sock handler sec usec now :: l)
  | .remove sock => l' = l.eraseP (·.sockFd = sock)

/-- The call returns and leaves the list as it should. -/
def Right (c : Call κ) (out : List (Result κ)) : Prop :=
  ∃ l' value, out = [.returned l' value] ∧ Changed l l' c ∧ Proper l'

/-- The condition on a call: an insertion is into an empty list, or its deadline is in the second of the first entry
    and not behind it; there is a first entry to a removal, of another socket. -/
def Simple : Call κ → Prop
  | .add sock handler sec usec now => ∀ first ∈ l.head?,
    (newData sock handler sec usec now).timeout.second = first.timeout.second ∧
      (newData sock handler sec usec now).timeout.usecond ≤ first.timeout.usecond
  | .remove sock => ∃ first ∈ l.head?, first.sockFd ≠ sock

instance instDecidableSimple (l : List (SocketData κ)) : (c : Call κ) → Decidable (Simple l c)
  | .add .. => inferInstanceAs (Decidable (∀ first ∈ l.head?, _ ∧ _))
  | .remove _ => inferInstanceAs (Decidable (∃ first ∈ l.head?, _ ≠ _))

theorem unlink_eq (sock : Int) (tail : SocketData κ) (rest : List (SocketData κ)) :
    (unlink sock tail rest).1 = tail :: rest.eraseP (·.sockFd = sock) := by
  induction rest generalizing tail with
  | nil => rfl
  | cons next rest ih =>
    by_cases h : next.sockFd = sock
    · simp [unlink, h]
    · simp [unlink, h, ih]

theorem search_of_not_before {a b : TimeValue} (h : (timeBefore a b).1 = false) (fuel : Nat) :
    search b fuel (timeBefore a b).2 = none := by
  have hfixed : timeBefore (timeBefore a b).2 b = (false, (timeBefore a b).2) := by
    unfold timeBefore at h ⊢
    by_cases hlater : b.second < a.second
    · simp [hlater]
    · simpa [hlater] using h
  induction fuel with
  | zero => rfl
  | succ fuel ih =>
    rw [search, hfixed]
    exact ih

theorem insert_cons (new first : SocketData κ) (rest : List (SocketData κ)) :
    insert fuel new (first :: rest) = if (timeBefore new.timeout first.timeout).1 then
      .returned ({ new with timeout := (timeBefore new.timeout first.timeout).2 } :: first :: rest) 0 else .loops := by
  dsimp only [insert]
  cases h : (timeBefore new.timeout first.timeout).1 with
  | true => rfl
  | false => rw [search_of_not_before h]

/-- **One insertion.** -/
theorem insert_right_iff {fuel : Nat} {l : List (SocketData κ)} (hl : Proper l) (new : SocketData κ)
    (hnew : new.freed = false) :
    (∃ l' value, [insert fuel new l] = [.returned l' value] ∧ l'.Perm (new :: l) ∧ Proper l') ↔
      ∀ first ∈ l.head?, new.timeout.second = first.timeout.second ∧ new.timeout.usecond ≤ first.timeout.usecond := by
  cases l with
  | nil =>
    refine iff_of_true ⟨[new], 0, rfl, .refl _, pairwise_singleton _ _, ?_⟩ (by rintro _ ⟨⟩)
    exact forall_mem_singleton.mpr hnew
  | cons first rest =>
    rw [insert_cons]
    constructor
    · rintro ⟨l', value, hout, hperm, hproper⟩ _ ⟨⟩
      split_ifs at hout with hbefore
      · -- the new entry is as it was given, and in front of the first one
        cases hout
        rw [← Multiset.coe_eq_coe, ← Multiset.cons_coe, ← Multiset.cons_coe new, Multiset.cons_inj_left] at hperm
        have hsame : (timeBefore new.timeout first.timeout).2 = new.timeout := congrArg SocketData.timeout hperm
        have hle := (pairwise_cons.mp hproper.1).1 first mem_cons_self
        rw [hsame] at hle
        change new.timeout.second * 1000000 + new.timeout.usecond ≤ first.timeout.second * 1000000 + _ at hle
        unfold timeBefore at hbefore hsame
        split_ifs at hbefore hsame
        have hsecond := congrArg TimeValue.second hsame
        dsimp only at hsecond
        omega
      · cases hout
    · intro hfirst
      obtain ⟨hsecond, husecond⟩ := hfirst first rfl
      have htime : timeBefore new.timeout first.timeout = (true, new.timeout) := by
        rw [timeBefore, if_neg (by omega), ← hsecond]
        exact Prod.ext (decide_eq_true (by omega)) rfl
      rw [htime]
      refine ⟨_, _, rfl, .refl _, pairwise_cons.mpr ⟨fun d hd => ?_, hl.1⟩, forall_mem_cons.mpr ⟨hnew, hl.2⟩⟩
      have hle : new.timeout.micros ≤ first.timeout.micros := by
        unfold TimeValue.micros
        omega
      rcases mem_cons.mp hd with rfl | hd
      · exact hle
      · exact Nat.le_trans hle ((pairwise_cons.mp hl.1).1 d hd)

/-- **One removal.** -/
theorem remove_right_iff {l : List (SocketData κ)} (hl : Proper l) (sock : Int) :
    (∃ l' value, [remove sock l] = [.returned l' value] ∧ l' = l.eraseP (·.sockFd = sock) ∧ Proper l') ↔
      ∃ first ∈ l.head?, first.sockFd ≠ sock := by
  cases l with
  | nil => exact iff_of_false (by rintro ⟨_, _, ⟨⟩, _⟩) (by rintro ⟨_, ⟨⟩, _⟩)
  | cons first rest =>
    rw [remove, eraseP_cons]
    by_cases h : first.sockFd = sock
    · rw [if_pos h, decide_eq_true h]
      refine iff_of_false ?_ (by rintro ⟨_, ⟨⟩, hne⟩; exact hne h)
      rintro ⟨_, _, ⟨⟩, hlist, _⟩
      exact cons_ne_self _ _ hlist
    · rw [if_neg h, decide_eq_false h, unlink_eq]
      refine iff_of_true ⟨_, _, rfl, rfl, ?_⟩ ⟨first, rfl, h⟩
      have hsub := (eraseP_sublist (p := (·.sockFd = sock)) (l := rest)).cons_cons first
      exact ⟨hl.1.sublist hsub, fun d hd => hl.2 d (hsub.subset hd)⟩

theorem right_iff {l : List (SocketData κ)} (hl : Proper l) (c : Call κ) :
    Right l c [call fuel l c] ↔ Simple l c := by
  cases c with
  | add sock handler sec usec now => exact insert_right_iff hl _ rfl
  | remove sock => exact remove_right_iff hl sock

/-- **The timer list.** In every run, all calls return with the list as it should be exactly if all meet the
    condition. -/
theorem timer_list_iff {fuel : Nat} {tr : List (Transducer.Entry (List (SocketData κ)) (Call κ) (Result κ))}
    {l : List (SocketData κ)} (hrun : (machine κ fuel).Run tr l) :
    (∀ x ∈ tr, Right x.pre x.event x.out) ↔ ∀ x ∈ tr, Simple x.pre x.event := by
  refine hrun.outputs_iff (I := Proper) ⟨.nil, fun _ h => absurd h not_mem_nil⟩ (fun l c hl _ => right_iff fuel hl c) ?_
  intro l c hl _ hsimple
  obtain ⟨l', value, hout, -, hproper⟩ := (right_iff fuel hl c).mpr hsimple
  show Proper (match call fuel l c with | .returned l' _ => l' | _ => l)
  rw [head_eq_of_cons_eq hout]
  exact hproper

/-- Two entries of one second, the later call with the earlier deadline, and the second of them removed. -/
theorem timer_list_iff_one_second :
    let calls := [.add 3 () 2 40 ⟨10, 50⟩, .add 4 () 1 10 ⟨11, 60⟩, .remove 3]
    let p := (machine Unit 5).exec calls
    (machine Unit 5).Run p.1 p.2 ∧ ∀ x ∈ p.1, Right x.pre x.event x.out := by
  intro calls p
  have hrun : (machine Unit 5).Run p.1 p.2 := (machine Unit 5).run_exec (by decide)
  exact ⟨hrun, (timer_list_iff hrun).mpr ((machine Unit 5).exec_along (by decide))⟩

/-- After an entry with its deadline at second 15: a later deadline makes the insertion loop, an earlier one is changed
    to 15, and the removal leaves the freed entry in the list. -/
theorem timer_list_broken :
    let l := [newData 3 () 5 0 ⟨10, 0⟩]
    (machine Unit 9).next [] (.add 3 () 5 0 ⟨10, 0⟩) = l ∧ (∀ fuel, call fuel l (.add 4 () 5 0 ⟨11, 0⟩) = .loops) ∧
      call 9 l (.add 4 () 2 0 ⟨11, 0⟩) = .returned (⟨4, (), ⟨15, 0⟩, false⟩ :: l) 0 ∧
      call 9 l (.remove 3) = .returned [⟨3, (), ⟨15, 0⟩, true⟩] 1 := by
  intro l
  refine ⟨rfl, fun fuel => ?_, rfl, rfl⟩
  rw [call, insert_cons]
  rfl

end HuaweiY5.Wifi.EventLoop
