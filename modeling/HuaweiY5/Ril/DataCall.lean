import HuaweiY5.Lib.Transducer
import HuaweiY5.Ril.Solicited
import Mathlib.Data.Finset.Card
import Mathlib.Data.Fintype.Basic

/-!
# `Ril.DataCall` — interface ids of data calls

`setupDataCall` sends the number of the first free slot of `dataCallCids` as the interface id, but the slot
stays free until the response arrives, and `fetchCidFromDataCall` then searches again. The two searches agree
only if nothing happened in between. `DataCalls` is the array together with the calls it is meant to describe,
and `interfaceIds_exclusive_iff` names the steps after which it no longer does.
-/

namespace HuaweiY5.Ril

open List Option JavaString
open Transducer (Entry entry out)

/-! ## The code -/

/-- The strings `setupDataCall` writes, before they are made strings. -/
structure SetupRequest where
  radioTechnology : Int
  profile : Int
  apn : Option JString
  user : Option JString
  password : Option JString
  authType : Int
  protocol : Option JString
  interfaceId : Int
deriving DecidableEq

variable (dataCallCids : Fin 5 → Int)

/-- "Find the first available interfaceId"; it stays 0 if there is none. -/
def availableInterfaceId : Int :=
  match firstFree dataCallCids with
  | some i => (i : Nat) + 1
  | none => 0

/-- `setupDataCall`: the request it sends. -/
def setupDataCall (radioTechnology profile : Int)
    (apn user password : Option JString) (authType : Int) (protocol : Option JString) : SetupRequest where
  radioTechnology := radioTechnology + 2
  profile := profile
  apn := apn
  user := user
  password := password
  authType := authType
  protocol := protocol
  interfaceId := availableInterfaceId dataCallCids

/-- `deactivateDataCall`: the slots after it. -/
def deactivateDataCall (cid : Int) : Fin 5 → Int :=
  match (List.finRange 4).find? fun i => dataCallCids i.castSucc = cid with
  | some i => Function.update dataCallCids i.castSucc (-1)
  | none => dataCallCids

/-- What a response to a data call does to the slots: it claims one for the context id it carries. -/
def claimResponse : Option Int → Fin 5 → Int
  | some cid => claimCid dataCallCids cid
  | none => dataCallCids

/-! ## The calls the slots describe -/

/-- A SETUP_DATA_CALL request without a response. -/
structure PendingCall where
  serial : Int
  interfaceId : Int
deriving DecidableEq

/-- A data call that was set up, with the interface id it was set up with. -/
structure ActiveCall where
  cid : Int
  interfaceId : Int
deriving DecidableEq

/-- `dataCallCids` and the calls there are. -/
structure DataCalls where
  dataCallCids : Fin 5 → Int
  pending : List PendingCall
  active : List ActiveCall

/-- A failed response may carry a payload, and with it a context id. -/
inductive DataCallEvent
  | setup (serial radioTechnology profile : Int) (apn user password : Option JString) (authType : Int)
      (protocol : Option JString)
  | success (serial cid : Int)
  | failure (serial : Int) (payload : Option Int)
  | deactivate (cid : Int)
deriving DecidableEq

namespace DataCalls

def find (s : DataCalls) (serial : Int) : Option PendingCall := s.pending.find? fun c => c.serial = serial

variable (s : DataCalls)

def drop (serial : Int) : List PendingCall := s.pending.filter fun c => c.serial ≠ serial

/-- What may happen: at most four calls, fresh serials, responses to pending calls, a context id that is not
    in use, and deactivation of active calls. -/
def enabled : DataCallEvent → Prop
  | .setup serial .. => s.pending.length + s.active.length < 4 ∧ ∀ c ∈ s.pending, c.serial ≠ serial
  | .success serial cid => (∃ c ∈ s.pending, c.serial = serial) ∧ 0 ≤ cid ∧ ∀ c ∈ s.active, c.cid ≠ cid
  | .failure serial _ => ∃ c ∈ s.pending, c.serial = serial
  | .deactivate cid => ∃ c ∈ s.active, c.cid = cid

/-- One event: the calls and the slots after it, and the request sent. -/
def step : DataCallEvent → DataCalls × List SetupRequest
  | .setup serial radioTechnology profile apn user password authType protocol =>
    let r := setupDataCall s.dataCallCids radioTechnology profile apn user password authType protocol
    ({ s with pending := s.pending ++ [⟨serial, r.interfaceId⟩] }, [r])
  | .success serial cid =>
    ({ dataCallCids := claimResponse s.dataCallCids (some cid)
       pending := s.drop serial
       active := s.active ++ (s.find serial).toList.map fun c => ⟨cid, c.interfaceId⟩ }, [])
  | .failure serial payload =>
    ({ s with dataCallCids := claimResponse s.dataCallCids payload, pending := s.drop serial }, [])
  | .deactivate cid =>
    ({ s with
       dataCallCids := deactivateDataCall s.dataCallCids cid
       active := s.active.filter fun c => c.cid ≠ cid }, [])

def machine : Transducer DataCalls DataCallEvent SetupRequest where
  init := ⟨fun _ => -1, [], []⟩
  enabled := enabled
  step := step

/-! ## The lowest id that is not active -/

/-- Every active call has its context id in the slot of its interface id. -/
def Held : Prop := ∀ c ∈ s.active, ∃ i : Fin 4, c.interfaceId = (i : Nat) + 1 ∧ s.dataCallCids i.castSucc = c.cid

/-- Along the runs in which the ids stay exclusive, the slots that no active call holds are free, too. -/
structure SlotsMatch (s : DataCalls) : Prop where
  held : Held s
  free : ∀ i : Fin 4, (∀ c ∈ s.active, c.interfaceId ≠ (i : Nat) + 1) → s.dataCallCids i.castSucc < 0

/-- The lowest interface id that no active call has. -/
structure Lowest (active : List ActiveCall) (id : Int) : Prop where
  pos : 1 ≤ id
  fresh : ∀ c ∈ active, c.interfaceId ≠ id
  minimal : ∀ j, 1 ≤ j → j < id → ∃ c ∈ active, c.interfaceId = j

theorem Lowest.unique {active : List ActiveCall} {id id' : Int} (h : Lowest active id)
    (h' : Lowest active id') : id = id' := by
  rcases lt_trichotomy id id' with hlt | heq | hlt
  · obtain ⟨c, hc, hid⟩ := h'.minimal id h.pos hlt
    exact absurd hid (h.fresh c hc)
  · exact heq
  · obtain ⟨c, hc, hid⟩ := h.minimal id' h'.pos hlt
    exact absurd hid (h'.fresh c hc)

/-- What the environment keeps: context ids in use are distinct and not negative, at most four calls. -/
structure Inv (s : DataCalls) : Prop where
  nonneg : ∀ c ∈ s.active, 0 ≤ c.cid
  nodup : (s.active.map (·.cid)).Nodup
  bound : s.pending.length + s.active.length ≤ 4

variable {s : DataCalls} {serial cid : Int} {dataCallCids : Fin 5 → Int} {i : Fin 4}

theorem firstFree_eq_some :
    firstFree dataCallCids = some i ↔ dataCallCids i.castSucc < 0 ∧ ∀ j < i, 0 ≤ dataCallCids j.castSucc := by
  rw [firstFree, find?_eq_some_iff_getElem]
  constructor
  · rintro ⟨hi, n, hn, rfl, hbefore⟩
    refine ⟨by simpa using hi, fun j hj => ?_⟩
    have hlt : j.val < n := by simpa [Fin.lt_def] using hj
    simpa using hbefore j hlt
  · rintro ⟨hi, hbefore⟩
    refine ⟨by simpa using hi, i, by simp, by simp, fun j hj => ?_⟩
    simp only [getElem_finRange, Bool.not_eq_true', decide_eq_false_iff_not, not_lt]
    exact hbefore ⟨j, by omega⟩ hj

theorem free_iff (hinv : s.Inv) (h : s.SlotsMatch) :
    s.dataCallCids i.castSucc < 0 ↔ ∀ c ∈ s.active, c.interfaceId ≠ (i : Nat) + 1 := by
  refine ⟨fun hneg c hc hid => ?_, h.free i⟩
  obtain ⟨j, hj, hcid⟩ := h.held c hc
  obtain rfl : i = j := Fin.ext (by omega)
  have := hinv.nonneg c hc
  omega

theorem firstFree_iff_lowest (hinv : s.Inv) (h : s.SlotsMatch) :
    firstFree s.dataCallCids = some i ↔ Lowest s.active ((i : Nat) + 1) := by
  rw [firstFree_eq_some, free_iff hinv h]
  constructor
  · rintro ⟨hfresh, hbefore⟩
    refine ⟨by omega, hfresh, fun j hj hlt => ?_⟩
    -- `j` is the id of a slot before `i`, and that slot is taken
    have hslot := hbefore ⟨(j - 1).toNat, by omega⟩ (Fin.lt_def.mpr (by simp only []; omega))
    have htaken := mt (free_iff hinv h).mpr (not_lt.mpr hslot)
    push Not at htaken
    obtain ⟨c, hc, hid⟩ := htaken
    exact ⟨c, hc, by simp only [] at hid; omega⟩
  · intro hlow
    refine ⟨hlow.fresh, fun j hj => ?_⟩
    obtain ⟨c, hc, hid⟩ := hlow.minimal ((j : Nat) + 1) (by omega) (by have := Fin.lt_def.mp hj; omega)
    rw [← not_lt, free_iff hinv h]
    exact fun hfree => hfree c hc hid

theorem length_of_all_used {active : List ActiveCall}
    (h : ∀ i : Fin 4, ∃ c ∈ active, c.interfaceId = (i : Nat) + 1) : 4 ≤ active.length := by
  have hsub : Finset.univ.image (fun i : Fin 4 => ((i : Nat) : Int) + 1) ⊆
      (active.map (·.interfaceId)).toFinset := by
    intro id hid
    obtain ⟨i, -, rfl⟩ := Finset.mem_image.mp hid
    obtain ⟨c, hc, hci⟩ := h i
    exact List.mem_toFinset.mpr (List.mem_map.mpr ⟨c, hc, hci⟩)
  calc 4 = (Finset.univ.image fun i : Fin 4 => ((i : Nat) : Int) + 1).card := by decide
    _ ≤ (active.map (·.interfaceId)).toFinset.card := Finset.card_le_card hsub
    _ ≤ (active.map (·.interfaceId)).length := toFinset_card_le _
    _ = active.length := length_map _

theorem exists_firstFree (h : s.SlotsMatch) (hlen : s.active.length < 4) :
    ∃ i, firstFree s.dataCallCids = some i := by
  rw [← ne_none_iff_exists']
  intro hnone
  have hall : ∀ i : Fin 4, ∃ c ∈ s.active, c.interfaceId = (i : Nat) + 1 := by
    intro i
    by_contra hno
    push Not at hno
    have hfree := find?_eq_none.mp hnone i (mem_finRange i)
    simp only [decide_eq_true_eq] at hfree
    exact hfree (h.free i hno)
  have := length_of_all_used hall
  omega

/-! ## What each step does to the slots -/

theorem active_lt (hinv : s.Inv) (h : ∃ c ∈ s.pending, c.serial = serial) : s.active.length < 4 := by
  obtain ⟨c, hc, -⟩ := h
  have := length_pos_of_mem hc
  have := hinv.bound
  omega

theorem update_castSucc_of_ne {j : Fin 4} (h : j ≠ i) (cid : Int) :
    Function.update dataCallCids i.castSucc cid j.castSucc = dataCallCids j.castSucc :=
  Function.update_of_ne (by simpa using h) ..

theorem claimCid_lowest (hinv : s.Inv) (h : s.SlotsMatch) (hlen : s.active.length < 4) (hcid : 0 ≤ cid) :
    ∃ i : Fin 4, Lowest s.active ((i : Nat) + 1) ∧
      claimCid s.dataCallCids cid = Function.update s.dataCallCids i.castSucc cid := by
  obtain ⟨i, hi⟩ := exists_firstFree h hlen
  exact ⟨i, (firstFree_iff_lowest hinv h).mp hi, by simp [claimCid, hcid, hi]⟩

/-- A response for the lowest id that is not active finds the slot of that id. -/
theorem slotsMatch_success (hinv : s.Inv) (h : s.SlotsMatch) (hlen : s.active.length < 4) (hcid : 0 ≤ cid) {id : Int}
    (hid : Lowest s.active id) (pending : List PendingCall) :
    SlotsMatch ⟨claimCid s.dataCallCids cid, pending, s.active ++ [⟨cid, id⟩]⟩ := by
  obtain ⟨i, hlow, hclaim⟩ := claimCid_lowest hinv h hlen hcid
  obtain rfl : id = (i : Nat) + 1 := hid.unique hlow
  rw [hclaim]
  constructor
  · intro c hmem
    rcases mem_append.mp hmem with hc | hc
    · obtain ⟨j, hj, hslot⟩ := h.held c hc
      have hji : j ≠ i := fun heq => hlow.fresh c hc (heq ▸ hj)
      exact ⟨j, hj, (update_castSucc_of_ne hji cid).trans hslot⟩
    · rw [mem_singleton.mp hc]
      exact ⟨i, rfl, Function.update_self ..⟩
  · intro j hfree
    have hji : j ≠ i := by
      rintro rfl
      exact hfree _ (mem_append_right _ (mem_singleton.mpr rfl)) rfl
    refine (update_castSucc_of_ne hji cid).trans_lt ?_
    exact h.free j fun c hc => hfree c (mem_append_left _ hc)

/-- A response for another id does not: the slot of its id has no call's context id, or that of another call. -/
theorem lowest_of_held (hinv : s.Inv) (h : s.SlotsMatch) (hlen : s.active.length < 4) (hcid : 0 ≤ cid)
    (hfresh : ∀ c ∈ s.active, c.cid ≠ cid) {id : Int} {pending : List PendingCall}
    (hheld : Held ⟨claimCid s.dataCallCids cid, pending, s.active ++ [⟨cid, id⟩]⟩) : Lowest s.active id := by
  obtain ⟨i, hlow, hclaim⟩ := claimCid_lowest hinv h hlen hcid
  obtain ⟨j, hj, hslot⟩ := hheld ⟨cid, id⟩ (mem_append_right _ (mem_singleton.mpr rfl))
  by_cases hji : j = i
  · have hid : id = (j : Nat) + 1 := hj
    rw [hid, hji]
    exact hlow
  · simp only [hclaim, update_castSucc_of_ne hji] at hslot
    have htaken : ¬s.dataCallCids j.castSucc < 0 := by omega
    rw [free_iff hinv h] at htaken
    push Not at htaken
    obtain ⟨c, hc, hid⟩ := htaken
    obtain ⟨k, hk, hkept⟩ := h.held c hc
    obtain rfl : j = k := Fin.ext (by omega)
    exact absurd (hkept.symm.trans hslot) (hfresh c hc)

theorem claimResponse_of_neg {payload : Option Int} (h : ∀ cid ∈ payload, cid < 0) :
    claimResponse dataCallCids payload = dataCallCids := by
  cases payload with
  | none => rfl
  | some cid => exact if_neg (Int.not_le.mpr (h cid rfl))

theorem slot_of_cid (hinv : s.Inv) (h : s.SlotsMatch) {c : ActiveCall} (hc : c ∈ s.active)
    (hslot : s.dataCallCids i.castSucc = c.cid) : c.interfaceId = (i : Nat) + 1 := by
  by_contra hne
  have htaken : ¬ s.dataCallCids i.castSucc < 0 := by
    have := hinv.nonneg c hc
    omega
  rw [free_iff hinv h] at htaken
  push Not at htaken
  obtain ⟨c', hc', hid⟩ := htaken
  obtain ⟨j, hj, hcid⟩ := h.held c' hc'
  obtain rfl : i = j := Fin.ext (by omega)
  -- two active calls with one context id
  have heq : c = c' := inj_on_of_nodup_map hinv.nodup hc hc' (hslot.symm.trans hcid)
  exact hne (heq ▸ hid)

theorem slotsMatch_deactivate (hinv : s.Inv) (h : s.SlotsMatch) (hen : ∃ c ∈ s.active, c.cid = cid) :
    SlotsMatch ⟨deactivateDataCall s.dataCallCids cid, s.pending, s.active.filter fun c => c.cid ≠ cid⟩ := by
  obtain ⟨c, hc, rfl⟩ := hen
  obtain ⟨i, hi, hslot⟩ := h.held c hc
  have hunique : ∀ j : Fin 4, s.dataCallCids j.castSucc = c.cid → j = i := fun j hj =>
    Fin.ext (by have := slot_of_cid hinv h hc hj; omega)
  have hfind : ((List.finRange 4).find? fun j => decide (s.dataCallCids j.castSucc = c.cid)) = some i := by
    cases hfind : (List.finRange 4).find? fun j => decide (s.dataCallCids j.castSucc = c.cid) with
    | none => exact absurd (decide_eq_true hslot) (find?_eq_none.mp hfind i (mem_finRange i))
    | some j =>
      have hj := find?_some hfind
      rw [hunique j (by simpa using hj)]
  have hdeact : deactivateDataCall s.dataCallCids c.cid = Function.update s.dataCallCids i.castSucc (-1) := by
    simp [deactivateDataCall, hfind]
  rw [hdeact]
  constructor
  · intro c' hc'
    obtain ⟨hmem, hcid⟩ := mem_filter.mp hc'
    obtain ⟨j, hj, hslot'⟩ := h.held c' hmem
    have hji : j ≠ i := by
      rintro rfl
      exact absurd (hslot'.symm.trans hslot) (by simpa using hcid)
    exact ⟨j, hj, (update_castSucc_of_ne hji (-1)).trans hslot'⟩
  · intro j hfree
    by_cases hji : j = i
    · subst hji
      show Function.update s.dataCallCids j.castSucc (-1) j.castSucc < 0
      rw [Function.update_self]
      omega
    · refine (update_castSucc_of_ne hji (-1)).trans_lt (h.free j fun c' hc' hid => ?_)
      by_cases hcid : c'.cid = c.cid
      · -- the call that was deactivated had another id
        obtain ⟨k, hk, hk'⟩ := h.held c' hc'
        exact hji ((Fin.ext (by omega) : j = k).trans (hunique k (hk'.trans hcid)))
      · exact hfree c' (mem_filter.mpr ⟨hc', by simpa using hcid⟩) hid

/-! ## Runs -/

theorem find_of_pending (h : ∃ c ∈ s.pending, c.serial = serial) :
    ∃ c, s.find serial = some c ∧ c ∈ s.pending ∧ c.serial = serial := by
  obtain ⟨c, hc, hser⟩ := h
  have hsome : (s.find serial).isSome := find?_isSome.mpr ⟨c, hc, decide_eq_true hser⟩
  obtain ⟨c', hc'⟩ := isSome_iff_exists.mp hsome
  exact ⟨c', hc', mem_of_find?_eq_some hc', by simpa using find?_some hc'⟩

theorem length_drop (h : ∃ c ∈ s.pending, c.serial = serial) : (s.drop serial).length < s.pending.length := by
  obtain ⟨c, hc, hser⟩ := h
  exact length_filter_lt_length_iff_exists.mpr ⟨c, hc, by simpa using hser⟩

theorem inv_step (s : DataCalls) (e : DataCallEvent) (h : s.Inv) (hen : machine.enabled s e) :
    (machine.next s e).Inv := by
  cases e with
  | setup serial =>
    have hlen := hen.1
    refine ⟨h.nonneg, h.nodup, ?_⟩
    simp only [Transducer.next, machine, step, length_append, length_singleton]
    omega
  | success serial cid =>
    obtain ⟨hpending, hcid, hfresh⟩ := hen
    obtain ⟨c, hfind, -⟩ := find_of_pending hpending
    have hlen := length_drop hpending
    have hbound := h.bound
    simp only [Transducer.next, machine, step, hfind, toList_some, map_cons, map_nil]
    refine ⟨fun a ha => ?_, ?_, ?_⟩
    · rcases mem_append.mp ha with ha | ha
      · exact h.nonneg a ha
      · rw [mem_singleton.mp ha]; exact hcid
    · simp only [map_append]
      refine nodup_append.mpr ⟨h.nodup, nodup_singleton _, fun x hx y hy => ?_⟩
      obtain ⟨a, ha, rfl⟩ := List.mem_map.mp hx
      rw [mem_singleton.mp hy]
      exact hfresh a ha
    · simp only [length_append, length_singleton]
      omega
  | failure serial payload =>
    have hlen := length_drop hen
    have hbound := h.bound
    refine ⟨h.nonneg, h.nodup, ?_⟩
    simp only [Transducer.next, machine, step]
    omega
  | deactivate cid =>
    have hbound := h.bound
    have hlen := length_filter_le (fun c : ActiveCall => decide (c.cid ≠ cid)) s.active
    refine ⟨fun a ha => h.nonneg a (mem_of_mem_filter ha), ?_, ?_⟩
    · exact h.nodup.sublist (filter_sublist.map _)
    · simp only [Transducer.next, machine, step]
      omega

theorem inv_init : machine.init.Inv := ⟨by simp [machine], by simp [machine], by simp [machine]⟩

/-- The id sent is in 1..4 and differs from the id of every call active or pending at that moment. -/
def Exclusive (y : Entry DataCalls DataCallEvent SetupRequest) : Prop :=
  ∀ r ∈ y.out, (1 ≤ r.interfaceId ∧ r.interfaceId ≤ 4) ∧
    (∀ c ∈ y.pre.active, c.interfaceId ≠ r.interfaceId) ∧ ∀ c ∈ y.pre.pending, c.interfaceId ≠ r.interfaceId

/-- A failed response that carries a context id. -/
def Stray : DataCallEvent → Prop
  | .failure _ payload => ∃ cid ∈ payload, 0 ≤ cid
  | _ => False

/-- The steps that the two searches for a free slot do not survive: a call set up while the lowest id that is
    not active is already promised to another; a response that arrives while a lower id is not active; and a
    failed response that carries a context id. -/
def Hasty (s : DataCalls) : DataCallEvent → Prop
  | .setup .. => ∃ c ∈ s.pending, Lowest s.active c.interfaceId
  | .success serial _ => ∀ c ∈ s.find serial, ¬Lowest s.active c.interfaceId
  | .failure serial payload => Stray (.failure serial payload)
  | .deactivate _ => False

theorem exclusive_setup_iff (hinv : s.Inv) (h : s.SlotsMatch) (hlen : s.active.length < 4)
    (radioTechnology profile : Int) (apn user password : Option JString) (authType : Int)
    (protocol : Option JString) :
    Exclusive (machine.entry s
        (.setup serial radioTechnology profile apn user password authType protocol)) ↔
      ¬∃ c ∈ s.pending, Lowest s.active c.interfaceId := by
  obtain ⟨i, hi⟩ := exists_firstFree h hlen
  have hlow := (firstFree_iff_lowest hinv h).mp hi
  have hid : availableInterfaceId s.dataCallCids = (i : Nat) + 1 := by simp [availableInterfaceId, hi]
  have hrange : 1 ≤ ((i : Nat) : Int) + 1 ∧ ((i : Nat) : Int) + 1 ≤ 4 := by omega
  simp only [Exclusive, entry, out, machine, step, setupDataCall, mem_singleton,
    forall_eq, hid, hrange, and_self, true_and]
  constructor
  · rintro ⟨-, hpending⟩ ⟨c, hc, hclow⟩
    exact hpending c hc (hclow.unique hlow)
  · intro hnot
    exact ⟨hlow.fresh, fun c hc heq => hnot ⟨c, hc, heq ▸ hlow⟩⟩

/-- **One step.** Out of a state where the slots describe the calls, a step that is none of the hasty ones keeps them
    so; and those are the steps that keep the ids exclusive and each call's context id in its slot. -/
theorem step_iff {e : DataCallEvent} (hinv : s.Inv) (hen : machine.enabled s e) (h : s.SlotsMatch) :
    (Exclusive (machine.entry s e) ∧ (machine.next s e).Held ∧ ¬Stray e ↔ ¬Hasty s e) ∧
      (¬Hasty s e → (machine.next s e).SlotsMatch) := by
  cases e with
  | setup serial radioTechnology profile apn user password authType protocol =>
    have hlen : s.active.length < 4 := lt_of_le_of_lt (Nat.le_add_left _ _) hen.1
    rw [exclusive_setup_iff hinv h hlen]
    exact ⟨and_iff_left ⟨h.held, not_false⟩, fun _ => ⟨h.held, h.free⟩⟩
  | success serial cid =>
    obtain ⟨hpending, hcid, hfresh⟩ := hen
    obtain ⟨c, hfind, -, -⟩ := find_of_pending hpending
    have hlen : s.active.length < 4 := active_lt hinv hpending
    have hquiet : Exclusive (machine.entry s (.success serial cid)) := fun r hr => nomatch hr
    have hnext : machine.next s (.success serial cid) =
        ⟨claimCid s.dataCallCids cid, s.drop serial, s.active ++ [⟨cid, c.interfaceId⟩]⟩ := by
      simp [Transducer.next, machine, step, hfind, claimResponse]
    have hhasty : ¬Hasty s (.success serial cid) ↔ Lowest s.active c.interfaceId := by
      simp [Hasty, hfind]
    rw [hnext, hhasty]
    have hkeep : Lowest s.active c.interfaceId → SlotsMatch
        ⟨claimCid s.dataCallCids cid, s.drop serial, s.active ++ [⟨cid, c.interfaceId⟩]⟩ :=
      fun hlow => slotsMatch_success hinv h hlen hcid hlow _
    exact ⟨⟨fun hgood => lowest_of_held hinv h hlen hcid hfresh hgood.2.1,
      fun hlow => ⟨hquiet, (hkeep hlow).held, not_false⟩⟩, hkeep⟩
  | failure serial payload =>
    have hquiet : Exclusive (machine.entry s (.failure serial payload)) := fun r hr => nomatch hr
    have hkeep : ¬Stray (.failure serial payload) → (machine.next s (.failure serial payload)).SlotsMatch := by
      intro hplain
      have hneg : ∀ cid ∈ payload, cid < 0 := by simpa [Stray] using hplain
      simp only [Transducer.next, machine, step, claimResponse_of_neg hneg]
      exact ⟨h.held, h.free⟩
    exact ⟨⟨fun hgood => hgood.2.2, fun hplain => ⟨hquiet, (hkeep hplain).held, hplain⟩⟩, hkeep⟩
  | deactivate cid =>
    have hquiet : Exclusive (machine.entry s (.deactivate cid)) := fun r hr => nomatch hr
    have hkeep : (machine.next s (.deactivate cid)).SlotsMatch := slotsMatch_deactivate hinv h hen
    exact ⟨iff_of_true ⟨hquiet, hkeep.held, not_false⟩ not_false, fun _ => hkeep⟩

/-- **Exclusive interface ids.** Along every interleaving of set-ups, responses and deactivations in which no failed
    response carries a context id, every id sent is exclusive and after every step each active call has its context id in
    the slot of its interface id, exactly if no step is hasty. -/
theorem interfaceIds_exclusive_iff {tr : List (Entry DataCalls DataCallEvent SetupRequest)}
    {s : DataCalls} (h : machine.Run tr s) :
    (∀ x ∈ tr, Exclusive x ∧ (machine.next x.pre x.event).Held ∧ ¬Stray x.event) ↔ ∀ x ∈ tr, ¬Hasty x.pre x.event := by
  refine h.outputs_iff (I := fun s => s.Inv ∧ s.SlotsMatch) (C := fun x => ¬Hasty x.pre x.event)
    (O := fun x => Exclusive x ∧ (machine.next x.pre x.event).Held ∧ ¬Stray x.event) ?_ ?_ ?_
  · exact ⟨inv_init, fun c hc => absurd hc not_mem_nil, fun _ _ => by simp [machine]⟩
  · rintro s e ⟨hinv, hmatch⟩ hen
    exact (step_iff hinv hen hmatch).1
  · rintro s e ⟨hinv, hmatch⟩ hen hcalm
    exact ⟨inv_step s e hinv hen, (step_iff hinv hen hmatch).2 hcalm⟩

def plainSetup (serial : Int) : DataCallEvent := .setup serial 14 0 none none none 0 none

/-- Two calls set up before the first response are both sent interface id 1. -/
theorem interfaceIds_collide :
    machine.Admissible machine.init [plainSetup 1, plainSetup 2] ∧
      (machine.exec [plainSetup 1, plainSetup 2]).1.map (fun y => y.out.map (·.interfaceId)) = [[1], [1]] := by
  refine ⟨⟨⟨by decide, by decide⟩, ⟨by decide, by decide⟩, trivial⟩, by decide⟩

/-- One call at a time: the ids are exclusive. -/
theorem interfaceIds_exclusive_in_turn :
    machine.Admissible machine.init [plainSetup 1, .success 1 5, .deactivate 5] ∧
      ∀ x ∈ (machine.exec [plainSetup 1, .success 1 5, .deactivate 5]).1,
        Exclusive x ∧ (machine.next x.pre x.event).Held ∧ ¬Stray x.event := by
  have hpending : ∃ c ∈ [(⟨1, 1⟩ : PendingCall)], c.serial = 1 := ⟨_, mem_singleton.mpr rfl, rfl⟩
  have hlowest : Lowest [] 1 := ⟨by decide, by simp, fun j h1 h2 => absurd h1 (by omega)⟩
  have hen : machine.Admissible machine.init [plainSetup 1, .success 1 5, .deactivate 5] :=
    ⟨⟨by decide, by decide⟩, ⟨hpending, by decide, by decide⟩, ⟨⟨5, 1⟩, mem_singleton.mpr rfl, rfl⟩, trivial⟩
  refine ⟨hen, (interfaceIds_exclusive_iff (machine.run_exec hen)).mpr fun x hx => ?_⟩
  rcases mem_cons.mp hx with rfl | hx
  · rintro ⟨c, hc, -⟩
    cases hc
  rcases mem_cons.mp hx with rfl | hx
  · intro hhasty
    exact hhasty ⟨1, 1⟩ rfl hlowest
  · rw [mem_singleton.mp hx]
    exact not_false

end DataCalls
end HuaweiY5.Ril
