import HuaweiY5.Ril.EccList

/-!
# `Ril.EccCategory` — which entry supplies the category of an emergency call

`isEmergencyNumberExt` compares the *stripped* address and skips ECC_NO_SIM entries while a SIM is inserted;
`getServiceCategoryFromEcc` compares the address *as dialled* and skips nothing. `dueEntry` is the entry that
makes the call an emergency call, `firstMatch` the one the lookup ends at; `dial_category_iff` says exactly
when they are the same.
-/

namespace HuaweiY5.Ril

open JavaString

inductive EccSource
  | network (ecc : JString) (category : Int)
  | customized (entry : EccEntry)
  | unlisted
deriving DecidableEq

namespace EccSource

/-- The category of the source; `none` if its text is no number. -/
def category : EccSource → Option Int
  | network _ category => some category
  | customized entry => parseInt entry.category
  | unlisted => some 0

/-- The source is an entry for the number, with or without a trailing `+`. -/
def matchesNumber (number : JString) : EccSource → Bool
  | network ecc _ => eccMatches number ecc
  | customized entry => eccMatches number entry.ecc
  | unlisted => false

end EccSource

variable (fw : Framework) (customized : List EccEntry)

/-- The entries in the order they are searched: the network's, then the customized ones. -/
def searchOrder (networkEcc : NetworkEccMap) : List EccSource :=
  (fw.keySet networkEcc).map (fun e => .network e.1 e.2) ++ customized.map .customized

/-- **The entry that makes the stripped address an emergency number**: the network's, else the first
    customized one that applies in the current SIM state. -/
def dueEntry (props : Properties) (networkEcc : NetworkEccMap) (number : JString) : EccSource :=
  match (fw.keySet networkEcc).find? fun e => eccMatches number e.1 with
  | some (ecc, category) => .network ecc category
  | none =>
    match customized.find? fun e => e.applies props && eccMatches number e.ecc with
    | some entry => .customized entry
    | none => .unlisted

def firstMatch (networkEcc : NetworkEccMap) (number : JString) : EccSource :=
  ((searchOrder fw customized networkEcc).find? (·.matchesNumber number)).getD .unlisted

/-- The due entry matches the address as dialled and no entry searched before it does; if nothing is due, no
    entry matches the address as dialled. -/
def DueFirst (props : Properties) (networkEcc : NetworkEccMap) (address : JString) : Prop :=
  match dueEntry fw customized props networkEcc (fw.extractNetworkPortionAlt address) with
  | .unlisted => ∀ src ∈ searchOrder fw customized networkEcc, src.matchesNumber address = false
  | due => ∃ before after, searchOrder fw customized networkEcc = before ++ due :: after ∧
      due.matchesNumber address = true ∧ ∀ src ∈ before, src.matchesNumber address = false

variable {fw : Framework} {customized : List EccEntry} {props : Properties} {networkEcc : NetworkEccMap}
  {number address : JString}

theorem getServiceCategoryFromEcc_eq :
    getServiceCategoryFromEcc fw customized networkEcc number =
      (firstMatch fw customized networkEcc number).category := by
  have hnet : ((fw.keySet networkEcc).map fun e => EccSource.network e.1 e.2).find?
      (·.matchesNumber number) =
      ((fw.keySet networkEcc).find? fun e => eccMatches number e.1).map fun e => .network e.1 e.2 :=
    List.find?_map
  have hcust : (customized.map EccSource.customized).find? (·.matchesNumber number) =
      (customized.find? fun e => eccMatches number e.ecc).map .customized := List.find?_map
  unfold getServiceCategoryFromEcc firstMatch searchOrder
  rw [List.find?_append, hnet, hcust]
  cases (fw.keySet networkEcc).find? fun e => eccMatches number e.1 with
  | some e => rfl
  | none =>
    cases customized.find? fun e => eccMatches number e.ecc with
    | some entry | none => rfl

theorem unlisted_not_mem_searchOrder : .unlisted ∉ searchOrder fw customized networkEcc := by
  simp [searchOrder]

theorem firstMatch_eq_iff {src : EccSource} (hsrc : src ≠ .unlisted) :
    firstMatch fw customized networkEcc number = src ↔
      ∃ before after, searchOrder fw customized networkEcc = before ++ src :: after ∧
        src.matchesNumber number = true ∧ ∀ s ∈ before, s.matchesNumber number = false := by
  have hsome : firstMatch fw customized networkEcc number = src ↔
      (searchOrder fw customized networkEcc).find? (·.matchesNumber number) = some src := by
    unfold firstMatch
    cases (searchOrder fw customized networkEcc).find? (·.matchesNumber number) with
    | none => simpa using hsrc.symm
    | some s => simp
  rw [hsome, List.find?_eq_some_iff_append]
  constructor
  · rintro ⟨hm, before, after, heq, hbefore⟩
    exact ⟨before, after, heq, hm, fun s hs => by simpa using hbefore s hs⟩
  · rintro ⟨before, after, heq, hm, hbefore⟩
    exact ⟨hm, before, after, heq, fun s hs => by simpa using hbefore s hs⟩

theorem firstMatch_eq_unlisted_iff :
    firstMatch fw customized networkEcc number = .unlisted ↔
      ∀ src ∈ searchOrder fw customized networkEcc, src.matchesNumber number = false := by
  have hnone : firstMatch fw customized networkEcc number = .unlisted ↔
      (searchOrder fw customized networkEcc).find? (·.matchesNumber number) = none := by
    unfold firstMatch
    cases hfind : (searchOrder fw customized networkEcc).find? (·.matchesNumber number) with
    | none => simp
    | some s =>
      have hne : s ≠ .unlisted := fun hs =>
        unlisted_not_mem_searchOrder (hs ▸ List.mem_of_find?_eq_some hfind)
      simpa using hne
  rw [hnone]
  simp

theorem firstMatch_eq_due_iff :
    firstMatch fw customized networkEcc address =
        dueEntry fw customized props networkEcc (fw.extractNetworkPortionAlt address) ↔
      DueFirst fw customized props networkEcc address := by
  unfold DueFirst
  cases dueEntry fw customized props networkEcc (fw.extractNetworkPortionAlt address) with
  | unlisted => exact firstMatch_eq_unlisted_iff
  | network ecc category | customized entry => exact firstMatch_eq_iff (by simp)

/-- **The category of an emergency call.** For every accepted address, `dial` sends the category of the first
    entry that matches the address as dialled; that is the entry which makes the stripped address an emergency
    number iff the latter also matches the address as dialled and no entry searched before it does. -/
theorem dial_category_iff {m : NetworkEccMap} (clirMode : Int) (uusInfo : Option UusInfo)
    (h : isEmergencyNumberExt fw customized props m (some address) = some (true, networkEcc)) :
    dial fw customized props m address clirMode uusInfo =
        (firstMatch fw customized networkEcc address).category.map (fun serviceCategory =>
          ([.setEccServiceCategory serviceCategory, .emergencyDial address clirMode uusInfo], networkEcc)) ∧
      (firstMatch fw customized networkEcc address =
          dueEntry fw customized props networkEcc (fw.extractNetworkPortionAlt address) ↔
        DueFirst fw customized props networkEcc address) := by
  refine ⟨?_, firstMatch_eq_due_iff⟩
  rw [dial, h, ← getServiceCategoryFromEcc_eq]
  rfl

/-- Dialled without separators, a network number gets its own category. -/
theorem dial_category_plain :
    dial stripping [] ⟨"112,7".toList, [], []⟩ [] "112".toList 0 none =
        some ([.setEccServiceCategory 7, .emergencyDial "112".toList 0 none], [("112".toList, 7)]) ∧
      DueFirst stripping [] ⟨"112,7".toList, [], []⟩ [("112".toList, 7)] "112".toList := by
  have h : isEmergencyNumberExt stripping [] ⟨"112,7".toList, [], []⟩ [] (some "112".toList) =
      some (true, [("112".toList, 7)]) := by decide
  have hdial := dial_category_iff 0 none h
  exact ⟨hdial.1.trans (by decide), hdial.2.mp (by decide)⟩

/-- **The wrong category, twice.** Dialled with separators, a network number gets category 0 instead of its
    own; with a SIM inserted, a number gets the category of an ECC_NO_SIM entry instead of that of the entry
    which applies. -/
theorem dial_wrong_category :
    (dial stripping [] ⟨"112,7".toList, [], []⟩ [] "1-1-2".toList 0 none =
        some ([.setEccServiceCategory 0, .emergencyDial "1-1-2".toList 0 none], [("112".toList, 7)]) ∧
      dueEntry stripping [] ⟨"112,7".toList, [], []⟩ [("112".toList, 7)] "112".toList = .network "112".toList 7) ∧
    dial stripping [⟨"08".toList, "3".toList, eccNoSim⟩, ⟨"08".toList, "5".toList, eccAlways⟩]
        ⟨[], "112".toList, []⟩ [] "08".toList 0 none =
      some ([.setEccServiceCategory 3, .emergencyDial "08".toList 0 none], []) ∧
    dueEntry stripping [⟨"08".toList, "3".toList, eccNoSim⟩, ⟨"08".toList, "5".toList, eccAlways⟩]
        ⟨[], "112".toList, []⟩ [] "08".toList =
      .customized ⟨"08".toList, "5".toList, eccAlways⟩ := by
  decide

end HuaweiY5.Ril
