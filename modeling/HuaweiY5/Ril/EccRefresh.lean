import HuaweiY5.Ril.EccList
import Mathlib.Logic.Function.Iterate

/-!
# `Ril.EccRefresh` — refreshing the emergency properties

`updateEmergencyNumbersProperty` writes customized numbers into the two SIM properties, and
`isEmergencyNumberExt` reads the *emptiness* of the same properties as "no SIM inserted". On the lists behind
the properties (`refreshNums`) the refresh is a plain union (`mem_refreshNums`), as far as the property store takes
the values (`refreshLists`), and a second one changes nothing any more. The classification changes in one situation
only: the refresh adds the ECC_NO_SIM numbers to *each* property that is empty, the classifier counts them only if
*both* are (`refresh_stable_iff`).
-/

namespace HuaweiY5.Ril

open JavaString

def IsNumber (s : JString) : Prop := s ≠ [] ∧ ∀ c ∈ s, c.isDigit = true

instance (s : JString) : Decidable (IsNumber s) :=
  decidable_of_iff (s ≠ [] ∧ s.all Char.isDigit = true) (by simp [IsNumber])

theorem IsNumber.ne_nil {s : JString} (h : IsNumber s) : s ≠ [] := h.1

theorem IsNumber.comma_not_mem {s : JString} (h : IsNumber s) : ',' ∉ s := fun hc =>
  absurd (h.2 _ hc) (by decide)

theorem IsNumber.piece {nums : List JString} (h : ∀ x ∈ nums, IsNumber x) :
    ∀ x ∈ nums, x ≠ [] ∧ ',' ∉ x := fun x hx => ⟨(h x hx).ne_nil, (h x hx).comma_not_mem⟩

theorem eccMatches_iff {number ecc : JString} (h : IsNumber number) : eccMatches number ecc = true ↔ ecc = number := by
  have hplus : ecc ++ ['+'] ≠ number := fun he => by
    have hmem : '+' ∈ number := he ▸ List.mem_append_right _ List.mem_cons_self
    exact absurd (h.2 _ hmem) (by decide)
  simp [eccMatches, hplus]

/-! ## The refresh on lists of numbers -/

/-- What `updateEmergencyNumbersProperty` makes of the numbers of one property. -/
def refreshNums (customized : List EccEntry) (nums : List JString) : List JString :=
  let nums' := removeAll nums (fixedList customized) ++ fixedList customized
  if nums = [] then removeAll nums' (fixedListNoSim customized) ++ fixedListNoSim customized else nums'

variable {customized : List EccEntry} {nums nums₁ nums₂ : List JString} {x number : JString}

/-- **The refresh is a union**: with the fixed numbers, and with the ECC_NO_SIM ones if there were none. -/
theorem mem_refreshNums :
    x ∈ refreshNums customized nums ↔
      x ∈ nums ∨ x ∈ fixedList customized ∨ nums = [] ∧ x ∈ fixedListNoSim customized := by
  unfold refreshNums
  by_cases hn : nums = []
  · simp only [hn, if_true, List.mem_append, mem_removeAll]
    tauto
  · simp only [hn, if_false, List.mem_append, mem_removeAll]
    tauto

theorem subset_refreshNums : nums ⊆ refreshNums customized nums := fun _ hx => mem_refreshNums.mpr (.inl hx)

def Numbered (customized : List EccEntry) : Prop := ∀ e ∈ customized, IsNumber e.ecc

theorem mem_fixedList : x ∈ fixedList customized ↔ ∃ e ∈ customized, e.isNoSim = false ∧ e.ecc = x := by
  simp [fixedList, and_assoc]

theorem mem_fixedListNoSim (h : Numbered customized) :
    x ∈ fixedListNoSim customized ↔ ∃ e ∈ customized, e.isNoSim = true ∧ e.ecc = x := by
  simp only [fixedListNoSim, List.mem_map, List.mem_filter, Bool.and_eq_true]
  constructor
  · rintro ⟨e, ⟨he, hns, -⟩, rfl⟩
    exact ⟨e, he, hns, rfl⟩
  · rintro ⟨e, he, hns, rfl⟩
    exact ⟨e, ⟨he, hns, by simpa using (h e he).ne_nil⟩, rfl⟩

theorem isNumber_refreshNums (h : Numbered customized) (hn : ∀ x ∈ nums, IsNumber x) :
    ∀ x ∈ refreshNums customized nums, IsNumber x := by
  intro x hx
  rcases mem_refreshNums.mp hx with hx | hx | ⟨-, hx⟩
  · exact hn x hx
  · obtain ⟨e, he, -, rfl⟩ := mem_fixedList.mp hx
    exact h e he
  · obtain ⟨e, he, -, rfl⟩ := (mem_fixedListNoSim h).mp hx
    exact h e he

/-- **Refinement**: on the text of a list of numbers, the property update is the refresh of the list. -/
theorem refreshEcclist_join (hn : ∀ x ∈ nums, IsNumber x) :
    refreshEcclist customized (join ',' nums) = join ',' (refreshNums customized nums) := by
  have hfilter : (split ',' (join ',' nums)).filter (fun s => !s.isEmpty) = nums := by
    rw [split_join (IsNumber.piece hn)]
    split
    · rename_i he; simp [he]
    · exact List.filter_eq_self.mpr fun x hx => by simpa using (hn x hx).ne_nil
  have hempty : (join ',' nums).isEmpty = decide (nums = []) := by
    rw [Bool.eq_iff_iff, List.isEmpty_iff, join_eq_nil_iff fun x hx => (hn x hx).ne_nil]
    simp
  unfold refreshEcclist refreshNums
  simp [hfilter, hempty]

theorem mem_refreshNums_refreshNums :
    x ∈ refreshNums customized (refreshNums customized nums) ↔ x ∈ refreshNums customized nums := by
  rw [mem_refreshNums]
  constructor
  · rintro (hx | hx | ⟨hnil, hx⟩)
    · exact hx
    · exact mem_refreshNums.mpr (.inr (.inl hx))
    · -- the refreshed list is empty only if nothing was there to add
      have hnums : nums = [] := List.eq_nil_of_subset_nil (hnil ▸ subset_refreshNums)
      exact mem_refreshNums.mpr (.inr (.inr ⟨hnums, hx⟩))
  · exact .inl

/-! ## The refresh of both properties -/

/-- The property store takes the refreshed numbers of a property. -/
def Fits (propValueMax : Nat) (customized : List EccEntry) (nums : List JString) : Prop :=
  (refreshEcclist customized (join ',' nums)).length ≤ propValueMax
  deriving Decidable

/-- The numbers of a property after a refresh that stores them or does not. -/
def refreshIf (stored : Prop) [Decidable stored] (customized : List EccEntry) (nums : List JString) : List JString :=
  if stored then refreshNums customized nums else nums

/-- What `updateEmergencyNumbersProperty` makes of the numbers of the two properties: the first one it cannot store
    ends it. -/
def refreshLists (propValueMax : Nat) (customized : List EccEntry) (l : List JString × List JString) :
    List JString × List JString :=
  (refreshIf (Fits propValueMax customized l.1) customized l.1,
    refreshIf (Fits propValueMax customized l.1 ∧ Fits propValueMax customized l.2) customized l.2)

variable {propValueMax : Nat} {l : List JString × List JString}

/-- A union, if the text is stored. -/
theorem mem_refreshIf {stored : Prop} [Decidable stored] :
    x ∈ refreshIf stored customized nums ↔ x ∈ nums ∨ stored ∧ x ∈ refreshNums customized nums := by
  unfold refreshIf
  split
  · next hs => exact ⟨fun hx => .inr ⟨hs, hx⟩, fun hx => hx.elim (fun hx => subset_refreshNums hx) And.right⟩
  · next hs => simp [hs]

theorem refreshIf_of_not {stored : Prop} [Decidable stored] (h : ¬ stored) : refreshIf stored customized nums = nums :=
  if_neg h

theorem mem_refreshIf_refreshIf {stored again : Prop} [Decidable stored] [Decidable again] (h : again → stored) :
    x ∈ refreshIf again customized (refreshIf stored customized nums) ↔ x ∈ refreshIf stored customized nums := by
  by_cases hs : stored
  · rw [mem_refreshIf, refreshIf, if_pos hs]
    exact or_iff_left_of_imp fun hx => mem_refreshNums_refreshNums.mp hx.2
  · rw [refreshIf_of_not fun ha => hs (h ha)]

/-- **A second refresh changes no set of numbers**: a list that was stored has all it can get, and one that was not
    stored is as long as before. -/
theorem mem_refreshLists_refreshLists :
    (x ∈ (refreshLists propValueMax customized (refreshLists propValueMax customized l)).1 ↔
        x ∈ (refreshLists propValueMax customized l).1) ∧
      (x ∈ (refreshLists propValueMax customized (refreshLists propValueMax customized l)).2 ↔
        x ∈ (refreshLists propValueMax customized l).2) := by
  simp only [refreshLists]
  have hfirst : Fits propValueMax customized (refreshIf (Fits propValueMax customized l.1) customized l.1) →
      Fits propValueMax customized l.1 := fun hf => by
    by_contra hfit
    rw [refreshIf_of_not hfit] at hf
    exact hfit hf
  refine ⟨mem_refreshIf_refreshIf hfirst, mem_refreshIf_refreshIf fun hf => ?_⟩
  by_contra hfit
  have hsecond := hf.2
  rw [refreshIf_of_not hfit] at hsecond
  exact hfit ⟨hfirst hf.1, hsecond⟩

/-- **Any number of refreshes** have the effect of one. -/
theorem mem_iterate_refreshLists (n : Nat) :
    (x ∈ ((refreshLists propValueMax customized)^[n + 1] l).1 ↔ x ∈ (refreshLists propValueMax customized l).1) ∧
      (x ∈ ((refreshLists propValueMax customized)^[n + 1] l).2 ↔ x ∈ (refreshLists propValueMax customized l).2) := by
  induction n generalizing l with
  | zero => exact ⟨Iff.rfl, Iff.rfl⟩
  | succ n ih =>
    exact ⟨ih.1.trans mem_refreshLists_refreshLists.1, ih.2.trans mem_refreshLists_refreshLists.2⟩

/-- Both lists hold numbers only. -/
def AllNumbers (l : List JString × List JString) : Prop := (∀ x ∈ l.1, IsNumber x) ∧ ∀ x ∈ l.2, IsNumber x

theorem AllNumbers.refresh (hl : AllNumbers l) (h : Numbered customized) :
    AllNumbers (refreshLists propValueMax customized l) := by
  constructor
  · intro x hx
    rcases mem_refreshIf.mp hx with hx | ⟨-, hx⟩
    · exact hl.1 x hx
    · exact isNumber_refreshNums h hl.1 x hx
  · intro x hx
    rcases mem_refreshIf.mp hx with hx | ⟨-, hx⟩
    · exact hl.2 x hx
    · exact isNumber_refreshNums h hl.2 x hx

theorem AllNumbers.iterate (hl : AllNumbers l) (h : Numbered customized) (n : Nat) :
    AllNumbers ((refreshLists propValueMax customized)^[n] l) := by
  induction n generalizing l with
  | zero => exact hl
  | succ n ih => exact ih (hl.refresh h)

/-! ## The classification on lists of numbers -/

def Properties.ofNums (eccServiceCategoryList : JString) (nums₁ nums₂ : List JString) : Properties :=
  ⟨eccServiceCategoryList, join ',' nums₁, join ',' nums₂⟩

open Properties (ofNums)

variable {cat : JString}

/-- The properties left by one call of `updateEmergencyNumbersProperty`, thrown or not. -/
def refreshed (propValueMax : Nat) (customized : List EccEntry) (props : Properties) : Properties :=
  (updateEmergencyNumbersProperty propValueMax customized props).1

/-- **Refinement**: on the texts of two lists of numbers, a call of `updateEmergencyNumbersProperty` is the refresh of
    the lists. -/
theorem refreshed_ofNums (hl : AllNumbers l) :
    refreshed propValueMax customized (.ofNums cat l.1 l.2) =
      .ofNums cat (refreshLists propValueMax customized l).1 (refreshLists propValueMax customized l).2 := by
  have hstored : (refreshEcclist customized (ofNums cat l.1 l.2).ecclist).length ≤ propValueMax ↔
      Fits propValueMax customized l.1 := Iff.rfl
  have hstored₂ : (refreshEcclist customized (ofNums cat l.1 l.2).ecclist1).length ≤ propValueMax ↔
      Fits propValueMax customized l.2 := Iff.rfl
  unfold refreshed updateEmergencyNumbersProperty refreshLists refreshIf
  simp only [hstored, hstored₂]
  by_cases hfit : Fits propValueMax customized l.1
  · by_cases hfit₂ : Fits propValueMax customized l.2
    · simp [hfit, hfit₂, ofNums, refreshEcclist_join hl.1, refreshEcclist_join hl.2]
    · simp [hfit, hfit₂, ofNums, refreshEcclist_join hl.1]
  · simp [hfit]

theorem iterate_refreshed_ofNums (h : Numbered customized) (hl : AllNumbers l) (n : Nat) :
    (refreshed propValueMax customized)^[n] (.ofNums cat l.1 l.2) =
      .ofNums cat ((refreshLists propValueMax customized)^[n] l).1 ((refreshLists propValueMax customized)^[n] l).2 := by
  induction n generalizing l with
  | zero => rfl
  | succ n ih =>
    rw [Function.iterate_succ_apply, Function.iterate_succ_apply, refreshed_ofNums hl, ih (hl.refresh h)]

theorem inEcclist_join (hn : ∀ x ∈ nums, IsNumber x) (h : IsNumber number) :
    inEcclist (join ',' nums) number = true ↔ number ∈ nums := by
  have hany : (split ',' (join ',' nums)).any (eccMatches number) = true ↔ number ∈ nums := by
    simp only [List.any_eq_true, eccMatches_iff h, exists_eq_right]
    exact mem_split_join (IsNumber.piece hn) h.ne_nil
  rw [inEcclist, Bool.and_eq_true, hany, Bool.not_eq_true', ← Bool.not_eq_true, List.isEmpty_iff,
    join_eq_nil_iff fun x hx => (hn x hx).ne_nil]
  exact and_iff_right_of_imp fun hmem => List.ne_nil_of_mem hmem

theorem simInserted_ofNums (hl : AllNumbers (nums₁, nums₂)) :
    (ofNums cat nums₁ nums₂).simInserted = false ↔ nums₁ = [] ∧ nums₂ = [] := by
  simp [Properties.simInserted, ofNums, join_eq_nil_iff fun x hx => (hl.1 x hx).ne_nil,
    join_eq_nil_iff fun x hx => (hl.2 x hx).ne_nil]

variable {networkEcc : NetworkEccMap}

/-- **What the classifier accepts.** -/
theorem checkEcc_ofNums {fw : Framework} (h : Numbered customized) (hl : AllNumbers (nums₁, nums₂))
    (hnum : IsNumber number) :
    checkEcc fw customized (.ofNums cat nums₁ nums₂) networkEcc number = true ↔
      (∃ e ∈ networkEcc, e.1 = number) ∨ number ∈ nums₁ ∨ number ∈ nums₂ ∨
        number ∈ fixedList customized ∨
        (nums₁ = [] ∧ nums₂ = []) ∧ number ∈ fixedListNoSim customized := by
  have hnet : (fw.keySet networkEcc).any (fun e => eccMatches number e.1) = true ↔
      ∃ e ∈ networkEcc, e.1 = number := by
    simp [eccMatches_iff hnum, (fw.keySet_perm networkEcc).mem_iff]
  have hcust : (customized.any fun e =>
      e.applies (.ofNums cat nums₁ nums₂) && eccMatches number e.ecc) = true ↔
      number ∈ fixedList customized ∨ (nums₁ = [] ∧ nums₂ = []) ∧ number ∈ fixedListNoSim customized := by
    simp only [List.any_eq_true, EccEntry.applies, Bool.and_eq_true, Bool.or_eq_true, Bool.not_eq_true',
      eccMatches_iff hnum, simInserted_ofNums hl, mem_fixedList, mem_fixedListNoSim h]
    constructor
    · rintro ⟨e, he, happ, rfl⟩
      cases hns : e.isNoSim with
      | false => exact .inl ⟨e, he, hns, rfl⟩
      | true => exact .inr ⟨happ.resolve_right (by simp [hns]), e, he, hns, rfl⟩
    · rintro (⟨e, he, hns, rfl⟩ | ⟨hnil, e, he, hns, rfl⟩)
      · exact ⟨e, he, .inr hns, rfl⟩
      · exact ⟨e, he, .inl hnil, rfl⟩
  simp only [checkEcc, Bool.or_eq_true, hnet, hcust]
  simp [ofNums, inEcclist_join hl.1 hnum, inEcclist_join hl.2 hnum, or_assoc]

/-- What it accepts after any number of refreshes: the ECC_NO_SIM numbers as soon as *one* list that was empty has
    been stored. -/
theorem checkEcc_refreshed {fw : Framework} (h : Numbered customized) (hl : AllNumbers (nums₁, nums₂))
    (hnum : IsNumber number) (n : Nat) :
    checkEcc fw customized ((refreshed propValueMax customized)^[n + 1] (.ofNums cat nums₁ nums₂)) networkEcc number =
        true ↔
      (∃ e ∈ networkEcc, e.1 = number) ∨ number ∈ nums₁ ∨ number ∈ nums₂ ∨
        number ∈ fixedList customized ∨
        (nums₁ = [] ∧ nums₂ = [] ∨ nums₁ = [] ∧ Fits propValueMax customized nums₁ ∨
          nums₂ = [] ∧ Fits propValueMax customized nums₁ ∧ Fits propValueMax customized nums₂) ∧
          number ∈ fixedListNoSim customized := by
  rw [iterate_refreshed_ofNums h hl, checkEcc_ofNums h (hl.iterate h _) hnum,
    (mem_iterate_refreshLists n).1, (mem_iterate_refreshLists n).2]
  simp only [refreshLists, mem_refreshIf, mem_refreshNums]
  -- two lists that are empty after the refresh were empty before
  have hnil₁ : ((refreshLists propValueMax customized)^[n + 1] (nums₁, nums₂)).1 = [] → nums₁ = [] := fun he =>
    List.eq_nil_of_subset_nil fun x hx => he ▸ (mem_iterate_refreshLists n).1.mpr (mem_refreshIf.mpr (.inl hx))
  have hnil₂ : ((refreshLists propValueMax customized)^[n + 1] (nums₁, nums₂)).2 = [] → nums₂ = [] := fun he =>
    List.eq_nil_of_subset_nil fun x hx => he ▸ (mem_iterate_refreshLists n).2.mpr (mem_refreshIf.mpr (.inl hx))
  -- and stay so where nothing is stored
  have hkept : nums₁ = [] → nums₂ = [] → ¬Fits propValueMax customized nums₁ →
      (refreshLists propValueMax customized)^[n + 1] (nums₁, nums₂) = ([], []) := by
    rintro rfl rfl hf
    have hfix : refreshLists propValueMax customized ([], []) = ([], []) := by
      rw [refreshLists, refreshIf_of_not hf, refreshIf_of_not fun h => hf h.1]
    exact Function.iterate_fixed hfix _
  generalize (refreshLists propValueMax customized)^[n + 1] (nums₁, nums₂) = l at hnil₁ hnil₂ hkept ⊢
  grind

/-! ## The main result -/

def eccSet (property : JString) : Set JString := {x | x ≠ [] ∧ x ∈ split ',' property}

theorem eccSet_join (hn : ∀ x ∈ nums, IsNumber x) : eccSet (join ',' nums) = {x | x ∈ nums} := by
  ext x
  constructor
  · rintro ⟨hne, hx⟩
    exact (mem_split_join (IsNumber.piece hn) hne).mp hx
  · intro hx
    exact ⟨(hn x hx).ne_nil, (mem_split_join (IsNumber.piece hn) (hn x hx).ne_nil).mpr hx⟩

/-- Exactly one SIM list is empty, the property store takes its refreshed text and those before it, and the number is
    that of an ECC_NO_SIM entry and of nothing else. -/
structure NoSimOnly (propValueMax : Nat) (customized : List EccEntry) (cat : JString) (nums₁ nums₂ : List JString)
    (number : JString) : Prop where
  oneEmpty : nums₁ = [] ∧ nums₂ ≠ [] ∨ nums₁ ≠ [] ∧ nums₂ = [] ∧ Fits propValueMax customized nums₂
  stored : Fits propValueMax customized nums₁
  noSim : ∃ e ∈ customized, e.isNoSim = true ∧ e.ecc = number
  notFixed : ∀ e ∈ customized, e.isNoSim = false → e.ecc ≠ number
  notSim : number ∉ nums₁ ∧ number ∉ nums₂
  notNetwork : ∃ networkEcc, loadNetworkEcc cat = some networkEcc ∧ ∀ e ∈ networkEcc, e.1 ≠ number

theorem noSimOnly_iff (h : Numbered customized) (hload : loadNetworkEcc cat = some networkEcc) :
    NoSimOnly propValueMax customized cat nums₁ nums₂ number ↔
      ((nums₁ = [] ∧ nums₂ ≠ [] ∨ nums₁ ≠ [] ∧ nums₂ = [] ∧ Fits propValueMax customized nums₂) ∧
        Fits propValueMax customized nums₁) ∧ number ∈ fixedListNoSim customized ∧
        ¬ ((∃ e ∈ networkEcc, e.1 = number) ∨ number ∈ nums₁ ∨ number ∈ nums₂ ∨ number ∈ fixedList customized) := by
  rw [mem_fixedListNoSim h, mem_fixedList]
  constructor
  · rintro ⟨hone, hfit, hno, hfix, ⟨hs₁, hs₂⟩, m, hm, hnet⟩
    obtain rfl := Option.some.inj (hload.symm.trans hm)
    refine ⟨⟨hone, hfit⟩, hno, ?_⟩
    rintro (⟨e, he, heq⟩ | hx | hx | ⟨e, he, hns, heq⟩)
    · exact hnet e he heq
    · exact hs₁ hx
    · exact hs₂ hx
    · exact hfix e he hns heq
  · rintro ⟨⟨hone, hfit⟩, hno, hnot⟩
    refine ⟨hone, hfit, hno, fun e he hns heq => ?_, ⟨fun hx => ?_, fun hx => ?_⟩, networkEcc, hload,
      fun e he heq => ?_⟩
    · exact hnot (.inr (.inr (.inr ⟨e, he, hns, heq⟩)))
    · exact hnot (.inr (.inl hx))
    · exact hnot (.inr (.inr (.inl hx)))
    · exact hnot (.inl ⟨e, he, heq⟩)

theorem isEmergencyNumberExt_refreshed_iff {fw : Framework}
    (hstrip : ∀ s, IsNumber s → fw.extractNetworkPortionAlt s = s) (h : Numbered customized)
    (hl : AllNumbers (nums₁, nums₂)) (hnum : IsNumber number) (networkEcc : NetworkEccMap) (n : Nat) :
    isEmergencyNumberExt fw customized
        ((refreshed propValueMax customized)^[n + 1] (.ofNums cat nums₁ nums₂)) networkEcc (some number) =
      isEmergencyNumberExt fw customized (.ofNums cat nums₁ nums₂) networkEcc (some number) ↔
      ¬ NoSimOnly propValueMax customized cat nums₁ nums₂ number := by
  have hcat : ((refreshed propValueMax customized)^[n + 1] (.ofNums cat nums₁ nums₂)).eccServiceCategoryList = cat := by
    rw [iterate_refreshed_ofNums h hl]; rfl
  simp only [isEmergencyNumberExt, hstrip number hnum, hcat]
  change (loadNetworkEcc cat).map _ = (loadNetworkEcc cat).map _ ↔ _
  cases hload : loadNetworkEcc cat with
  | none =>
    -- both calls throw
    refine iff_of_true rfl fun hno => ?_
    obtain ⟨m, hm, -⟩ := hno.notNetwork
    exact absurd (hload.symm.trans hm) (Option.some_ne_none m).symm
  | some m =>
    rw [noSimOnly_iff h hload]
    simp only [Option.map_some, Option.some.injEq, Prod.mk.injEq]
    rw [Bool.eq_iff_iff, checkEcc_refreshed h hl hnum, checkEcc_ofNums h hl hnum]
    -- the two answers differ in the guard of the ECC_NO_SIM numbers: one list empty and stored, or both empty
    simp only [← or_assoc]
    generalize ((((∃ e ∈ m, e.1 = number) ∨ number ∈ nums₁) ∨ number ∈ nums₂) ∨
      number ∈ fixedList customized) = always
    by_cases hnoSim : number ∈ fixedListNoSim customized
    · by_cases hempty₁ : nums₁ = [] <;> by_cases hempty₂ : nums₂ = [] <;>
        by_cases hfit : Fits propValueMax customized nums₁ <;> simp_all
    · simp [hnoSim]

/-- **Refreshing keeps the classification** — iff it is not the case that exactly one SIM list is empty, its refreshed
    text is stored and the dialled number is an ECC_NO_SIM number that nothing else makes an emergency number. The
    numbers in the properties are in any case those after the first refresh. -/
theorem refresh_stable_iff (propValueMax : Nat) {fw : Framework}
    (hstrip : ∀ s, IsNumber s → fw.extractNetworkPortionAlt s = s) (h : Numbered customized)
    (h₁ : ∀ x ∈ nums₁, IsNumber x) (h₂ : ∀ x ∈ nums₂, IsNumber x) (hnum : IsNumber number)
    (networkEcc : NetworkEccMap) :
    (∀ n, 1 ≤ n →
      isEmergencyNumberExt fw customized
          ((refreshed propValueMax customized)^[n] (.ofNums cat nums₁ nums₂)) networkEcc (some number) =
        isEmergencyNumberExt fw customized (.ofNums cat nums₁ nums₂) networkEcc (some number) ∧
      eccSet ((refreshed propValueMax customized)^[n] (.ofNums cat nums₁ nums₂)).ecclist =
        eccSet (refreshed propValueMax customized (.ofNums cat nums₁ nums₂)).ecclist ∧
      eccSet ((refreshed propValueMax customized)^[n] (.ofNums cat nums₁ nums₂)).ecclist1 =
        eccSet (refreshed propValueMax customized (.ofNums cat nums₁ nums₂)).ecclist1) ↔
    ¬ NoSimOnly propValueMax customized cat nums₁ nums₂ number := by
  have hl : AllNumbers (nums₁, nums₂) := ⟨h₁, h₂⟩
  constructor
  · intro hall
    exact (isEmergencyNumberExt_refreshed_iff hstrip h hl hnum networkEcc 0).mp (hall 1 le_rfl).1
  · intro hcond n hn
    obtain ⟨k, rfl⟩ := Nat.exists_eq_add_of_le' hn
    refine ⟨(isEmergencyNumberExt_refreshed_iff hstrip h hl hnum networkEcc k).mpr hcond, ?_⟩
    -- the number sets are stable whatever the condition
    rw [iterate_refreshed_ofNums h hl, refreshed_ofNums hl]
    simp only [ofNums]
    rw [eccSet_join (hl.iterate h _).1, eccSet_join (hl.iterate h _).2, eccSet_join (hl.refresh h).1,
      eccSet_join (hl.refresh h).2]
    exact ⟨Set.ext fun x => (mem_iterate_refreshLists k).1, Set.ext fun x => (mem_iterate_refreshLists k).2⟩

/-- **A SIM in one slot only.** `08`, an emergency number only without a SIM, becomes one by the refresh although
    SIM 1 is inserted: the empty list of SIM 2 takes it up. -/
theorem refresh_exposes_noSim :
    let customized : List EccEntry := [⟨"08".toList, "0".toList, eccNoSim⟩]
    let props : Properties := ⟨[], "112".toList, []⟩
    isEmergencyNumberExt stripping customized props [] (some "08".toList) = some (false, []) ∧
      isEmergencyNumberExt stripping customized (refreshed 91 customized props) [] (some "08".toList) =
        some (true, []) := by
  decide

/-- With both slots empty the refresh keeps the classification. -/
theorem refresh_stable_noSims :
    let customized : List EccEntry := [⟨"08".toList, "0".toList, eccNoSim⟩]
    let props : Properties := .ofNums [] [] []
    ∀ n, 1 ≤ n →
      isEmergencyNumberExt stripping customized ((refreshed 91 customized)^[n] props) [] (some "08".toList) =
        some (true, []) := by
  intro customized props n hn
  have hstrip : ∀ s, IsNumber s → stripping.extractNetworkPortionAlt s = s := fun s hs =>
    List.filter_eq_self.mpr fun c hc => by simp [hs.2 c hc]
  have hcust : Numbered customized := List.forall_mem_singleton.mpr (by decide)
  have hnil : ∀ x ∈ ([] : List JString), IsNumber x := fun _ hx => absurd hx List.not_mem_nil
  have hnum : IsNumber "08".toList := by decide
  have hcalm : ¬ NoSimOnly 91 customized [] [] [] "08".toList := fun h => by
    rcases h.oneEmpty with ⟨-, hne⟩ | ⟨hne, -⟩ <;> exact hne rfl
  exact ((refresh_stable_iff 91 hstrip hcust hnil hnil hnum []).mpr hcalm n hn).1.trans (by decide)

end HuaweiY5.Ril
