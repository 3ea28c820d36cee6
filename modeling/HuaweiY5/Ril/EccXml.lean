import HuaweiY5.Ril.EccRefresh

/-!
# `Ril.EccXml` — the customized list of `ecc_list.xml`, and the calls that bad list data stops

`parseEccList` takes whatever attributes an `EccEntry` element has and validates none of them, and the
network's category list is a property anybody may have written. `Integer.parseInt` is applied to both while an
address is dialled: to *every* pair of the network's list before a single number is compared, and to the
category of the entry the lookup ends at. `dial_reaches_iff` says exactly when one of the two throws.
-/

namespace HuaweiY5.Ril

open JavaString

/-! ## `parseEccList` -/

/-- `EccEntry.ECC_FOR_MMI`. -/
def eccForMmi : JString := ['2']

/-- What `parser.next()` reports; `other` is every event that `parseEccList` passes over. -/
inductive XmlEvent
  | startTag (name : JString) (attributes : List (JString × JString))
  | endTag (name : JString)
  | other
deriving DecidableEq

/-- `ecc_list.xml` as the parser sees it: the events, and whether END_DOCUMENT follows them or an exception. -/
structure EccXml where
  events : List XmlEvent
  accepted : Bool
deriving DecidableEq

/-- `EccEntry.ECC_ENTRY_TAG`. -/
def eccEntryTag : JString := "EccEntry".toList

/-- One turn of the loop over an element's attributes. -/
def EccEntry.setAttribute (record : EccEntry) : JString × JString → EccEntry
  | (name, value) =>
    if name = "Ecc".toList then { record with ecc := value }
    else if name = "Category".toList then { record with category := value }
    else if name = "Condition".toList then { record with condition := value }
    else record

/-- One turn of the loop over the events: `mCustomizedEccList` and `record`. -/
def parseEvent : List EccEntry × Option EccEntry → XmlEvent → List EccEntry × Option EccEntry
  | (list, record), .startTag name attributes =>
    if name = eccEntryTag then (list, some (attributes.foldl EccEntry.setAttribute ⟨[], [], []⟩))
    else (list, record)
  | (list, record), .endTag name =>
    -- `record` is not reset: the end of an enclosing element adds it once more
    if name = eccEntryTag then (list ++ record.toList, record) else (list, record)
  | (list, record), .other => (list, record)

def emergencyCTAList : List JString := ["120".toList, "122".toList, "110".toList, "119".toList]

/-- The CTA entry of a number replaces the first entry for it. -/
def setCta (list : List EccEntry) (emergencyNum : JString) : List EccEntry :=
  let record : EccEntry := ⟨emergencyNum, "0".toList, eccForMmi⟩
  match list.findIdx? fun eccEntry => eccEntry.ecc == emergencyNum with
  | some nIndex => list.set nIndex record
  | none => list ++ [record]

/-- `parseEccList`; an exception leaves the entries added before it. -/
def parseEccList (sIsCtaSet : Bool) (xml : EccXml) : List EccEntry :=
  let list := (xml.events.foldl parseEvent ([], none)).1
  if xml.accepted && sIsCtaSet then emergencyCTAList.foldl setCta list else list

/-! ## Loading the network's list -/

variable {fw : Framework} {customized : List EccEntry} {props : Properties} {m networkEcc : NetworkEccMap}
  {list number : JString}

/-- Every pair of the network's list has a category that is an integer. -/
def NetworkReadable (list : JString) : Prop :=
  ∀ piece ∈ split ';' list, ∀ ecc category, split ',' piece = [ecc, category] → parseInt category ≠ none

def InNetwork (list number : JString) : Prop :=
  ∃ piece ∈ split ';' list, ∃ category, split ',' piece = [number, category]

def loadPiece (m : NetworkEccMap) (strEccCategory : JString) : Option NetworkEccMap :=
  if strEccCategory.isEmpty then some m
  else
    match split ',' strEccCategory with
    | [ecc, category] => (parseInt category).map fun nSC => m.put ecc nSC
    | _ => some m

theorem loadNetworkEcc_eq (list : JString) : loadNetworkEcc list = (split ';' list).foldlM loadPiece [] := by
  unfold loadNetworkEcc
  split
  · rename_i hempty
    rw [List.isEmpty_iff.mp hempty]
    rfl
  · rfl

theorem mem_put {ecc : JString} {nSC : Int} :
    (∃ c, (number, c) ∈ m.put ecc nSC) ↔ (∃ c, (number, c) ∈ m) ∨ ecc = number := by
  simp only [NetworkEccMap.put, List.mem_append, List.mem_filter, List.mem_singleton, Prod.mk.injEq,
    decide_eq_true_eq]
  constructor
  · rintro ⟨c, ⟨hc, -⟩ | ⟨rfl, -⟩⟩
    · exact .inl ⟨c, hc⟩
    · exact .inr rfl
  · rintro (⟨c, hc⟩ | rfl)
    · by_cases heq : number = ecc
      · exact ⟨nSC, .inr ⟨heq, rfl⟩⟩
      · exact ⟨c, .inl ⟨hc, heq⟩⟩
    · exact ⟨nSC, .inr ⟨rfl, rfl⟩⟩

theorem loadPiece_of_not_pair {piece : JString} (h : ∀ ecc category, split ',' piece ≠ [ecc, category]) :
    loadPiece m piece = some m := by
  unfold loadPiece
  split
  · rfl
  · split
    · rename_i ecc category heq
      exact absurd heq (h ecc category)
    · rfl

theorem loadPiece_of_pair {piece ecc category : JString} (h : split ',' piece = [ecc, category]) :
    loadPiece m piece = (parseInt category).map fun nSC => m.put ecc nSC := by
  have hne : piece.isEmpty = false := by
    cases piece with
    | nil => cases h
    | cons c cs => rfl
  simp [loadPiece, hne, h]

theorem loadPieces_some {pieces : List JString}
    (h : ∀ piece ∈ pieces, ∀ ecc category, split ',' piece = [ecc, category] → parseInt category ≠ none) :
    ∃ m', pieces.foldlM loadPiece m = some m' ∧ ∀ number, (∃ c, (number, c) ∈ m') ↔
      (∃ c, (number, c) ∈ m) ∨ ∃ piece ∈ pieces, ∃ category, split ',' piece = [number, category] := by
  induction pieces generalizing m with
  | nil => exact ⟨m, rfl, fun number => by simp⟩
  | cons piece pieces ih =>
    have hrest := fun p hp => h p (List.mem_cons_of_mem _ hp)
    by_cases hpair : ∃ ecc category, split ',' piece = [ecc, category]
    · obtain ⟨ecc, category, heq⟩ := hpair
      obtain ⟨nSC, hnSC⟩ := Option.ne_none_iff_exists'.mp (h piece List.mem_cons_self ecc category heq)
      obtain ⟨m', hm', hkeys⟩ := ih (m := m.put ecc nSC) hrest
      refine ⟨m', ?_, fun number => ?_⟩
      · rw [List.foldlM_cons, loadPiece_of_pair heq, hnSC]
        exact hm'
      · rw [hkeys, mem_put]
        simp [heq, or_assoc]
    · have hskip : ∀ ecc category, split ',' piece ≠ [ecc, category] := fun ecc category heq =>
        hpair ⟨ecc, category, heq⟩
      obtain ⟨m', hm', hkeys⟩ := ih (m := m) hrest
      refine ⟨m', ?_, fun number => ?_⟩
      · rw [List.foldlM_cons, loadPiece_of_not_pair hskip]
        exact hm'
      · rw [hkeys]
        simp [hskip]

theorem loadPieces_none {pieces : List JString} {piece ecc category : JString} (hmem : piece ∈ pieces)
    (heq : split ',' piece = [ecc, category]) (hbad : parseInt category = none) :
    pieces.foldlM loadPiece m = none := by
  induction pieces generalizing m with
  | nil => cases hmem
  | cons p pieces ih =>
    rw [List.foldlM_cons]
    rcases List.mem_cons.mp hmem with rfl | hmem
    · rw [loadPiece_of_pair heq, hbad]
      rfl
    · cases loadPiece m p with
      | none => rfl
      | some m' => exact ih hmem

theorem loadNetworkEcc_none (h : ¬ NetworkReadable list) : loadNetworkEcc list = none := by
  unfold NetworkReadable at h
  push Not at h
  obtain ⟨piece, hmem, ecc, category, heq, hbad⟩ := h
  rw [loadNetworkEcc_eq]
  exact loadPieces_none hmem heq hbad

theorem loadNetworkEcc_some (h : NetworkReadable list) :
    ∃ m, loadNetworkEcc list = some m ∧ ∀ number, (∃ c, (number, c) ∈ m) ↔ InNetwork list number := by
  obtain ⟨m, hm, hkeys⟩ := loadPieces_some (m := []) h
  refine ⟨m, (loadNetworkEcc_eq list).trans hm, fun number => ?_⟩
  rw [hkeys]
  simp [InNetwork]

/-! ## Dialling a listed number -/

/-- The number is in one of the SIM lists, or that of a customized entry that counts in the SIM state. -/
def Listed (customized : List EccEntry) (props : Properties) (number : JString) : Prop :=
  number ∈ split ',' props.ecclist ∨ number ∈ split ',' props.ecclist1 ∨
    ∃ e ∈ customized, e.applies props = true ∧ e.ecc = number

/-- The first customized entry for the number, if there is one, has a category that is an integer. -/
def CategoryReadable (customized : List EccEntry) (number : JString) : Prop :=
  ∀ e, customized.find? (fun e => e.ecc = number) = some e → parseInt e.category ≠ none

theorem inEcclist_of_mem {numbers : JString} (hnum : IsNumber number) (h : number ∈ split ',' numbers) :
    inEcclist numbers number = true := by
  have hne : numbers.isEmpty = false := by
    cases numbers with
    | nil => exact absurd (List.mem_singleton.mp h) hnum.ne_nil
    | cons c cs => rfl
  rw [inEcclist, hne, Bool.not_false, Bool.true_and, List.any_eq_true]
  exact ⟨number, h, (eccMatches_iff hnum).mpr rfl⟩

theorem checkEcc_of_listed (hnum : IsNumber number) (h : Listed customized props number) :
    checkEcc fw customized props networkEcc number = true := by
  simp only [checkEcc, Bool.or_eq_true]
  rcases h with h | h | ⟨e, he, happ, heq⟩
  · exact .inl (.inl (.inr (inEcclist_of_mem hnum h)))
  · exact .inl (.inr (inEcclist_of_mem hnum h))
  · refine .inr (List.any_eq_true.mpr ⟨e, he, ?_⟩)
    rw [happ]
    exact (eccMatches_iff hnum).mpr heq

theorem getServiceCategoryFromEcc_isSome (fw : Framework) (hnum : IsNumber number) :
    (∃ c, getServiceCategoryFromEcc fw customized networkEcc number = some c) ↔
      (∃ c, (number, c) ∈ networkEcc) ∨ CategoryReadable customized number := by
  have hmatch : (fun e : JString × Int => eccMatches number e.1) = fun e => decide (e.1 = number) :=
    funext fun e => Bool.eq_iff_iff.mpr ((eccMatches_iff hnum).trans decide_eq_true_iff.symm)
  have hcust : (fun e : EccEntry => eccMatches number e.ecc) = fun e => decide (e.ecc = number) :=
    funext fun e => Bool.eq_iff_iff.mpr ((eccMatches_iff hnum).trans decide_eq_true_iff.symm)
  unfold getServiceCategoryFromEcc CategoryReadable
  rw [hmatch, hcust]
  cases hfind : (fw.keySet networkEcc).find? fun e => decide (e.1 = number) with
  | some e =>
    have hkey : e.1 = number := by simpa using List.find?_some hfind
    have hmem := (fw.keySet_perm networkEcc).mem_iff.mp (List.mem_of_find?_eq_some hfind)
    exact iff_of_true ⟨e.2, rfl⟩ (.inl ⟨e.2, hkey ▸ hmem⟩)
  | none =>
    have hno : ¬ ∃ c, (number, c) ∈ networkEcc := by
      rintro ⟨c, hc⟩
      have := List.find?_eq_none.mp hfind _ ((fw.keySet_perm networkEcc).mem_iff.mpr hc)
      simp at this
    rw [or_iff_right hno]
    cases customized.find? fun e => decide (e.ecc = number) with
    | none => simp
    | some e => simp [Option.ne_none_iff_exists']

/-- **An emergency call against bad list data.** For every `ecc_list.xml`, every content of the properties and
    every listed number: `dial` throws nothing and sends EMERGENCY_DIAL with that number — iff every pair of
    the network's list has a category that is an integer, and so has the first customized entry for the number
    unless the network's list has one for it. -/
theorem dial_reaches_iff (hstrip : ∀ s, IsNumber s → fw.extractNetworkPortionAlt s = s)
    (sIsCtaSet : Bool) (xml : EccXml) (props : Properties) (m : NetworkEccMap) (hnum : IsNumber number)
    (h : Listed (parseEccList sIsCtaSet xml) props number) (clirMode : Int) (uusInfo : Option UusInfo) :
    (∃ serviceCategory m', dial fw (parseEccList sIsCtaSet xml) props m number clirMode uusInfo =
      some ([.setEccServiceCategory serviceCategory, .emergencyDial number clirMode uusInfo], m')) ↔
    NetworkReadable props.eccServiceCategoryList ∧
      (InNetwork props.eccServiceCategoryList number ∨ CategoryReadable (parseEccList sIsCtaSet xml) number) := by
  generalize parseEccList sIsCtaSet xml = customized at h ⊢
  simp only [dial, isEmergencyNumberExt, hstrip number hnum]
  by_cases hread : NetworkReadable props.eccServiceCategoryList
  · obtain ⟨networkEcc, hload, hkeys⟩ := loadNetworkEcc_some hread
    rw [← hkeys, ← getServiceCategoryFromEcc_isSome fw hnum, hload]
    simp only [Option.map_some, Option.bind_some, checkEcc_of_listed hnum h, hread, true_and]
    constructor
    · rintro ⟨c, m', heq⟩
      obtain ⟨c', hc', -⟩ := Option.map_eq_some_iff.mp heq
      exact ⟨c', hc'⟩
    · rintro ⟨c, hc⟩
      exact ⟨c, networkEcc, by rw [hc]; rfl⟩
  · rw [loadNetworkEcc_none hread]
    simp [hread]

/-- **Two ways to lose a call to 112.** One misspelt category of another number in the network's list, or a
    `Category` attribute that is missing. -/
theorem dial_throws :
    dial stripping (parseEccList false ⟨[], true⟩) ⟨"110,1;119,x".toList, "112".toList, []⟩ [] "112".toList 0
        none = none ∧
      dial stripping
        (parseEccList false ⟨[.startTag eccEntryTag [("Ecc".toList, "112".toList), ("Condition".toList, eccAlways)],
          .endTag eccEntryTag], true⟩) ⟨[], [], []⟩ [] "112".toList 0 none = none := by
  decide

/-- The network's list and the customized entry are in order: the call goes out. -/
theorem dial_reaches_112 :
    ∃ serviceCategory m', dial stripping
        (parseEccList true ⟨[.startTag eccEntryTag [("Ecc".toList, "112".toList), ("Category".toList, "4".toList)],
          .endTag eccEntryTag], true⟩) ⟨"119,2".toList, [], []⟩ [] "112".toList 0 none =
      some ([.setEccServiceCategory serviceCategory, .emergencyDial "112".toList 0 none], m') := by
  have hstrip : ∀ s, IsNumber s → stripping.extractNetworkPortionAlt s = s := fun s hs =>
    List.filter_eq_self.mpr fun c hc => by simp [hs.2 c hc]
  refine (dial_reaches_iff hstrip true _ _ [] (by decide) (.inr (.inr ?_)) 0 none).mpr ⟨?_, .inr ?_⟩
  · exact ⟨⟨"112".toList, "4".toList, []⟩, by decide, by decide, rfl⟩
  · intro piece hpiece ecc category heq
    have hpieces : split ';' "119,2".toList = ["119,2".toList] := by decide
    have hpair : split ',' "119,2".toList = ["119".toList, "2".toList] := by decide
    obtain rfl : piece = "119,2".toList := List.mem_singleton.mp (hpieces ▸ hpiece)
    obtain ⟨-, rfl⟩ : "119".toList = ecc ∧ "2".toList = category := by simpa using hpair.symm.trans heq
    decide
  · unfold CategoryReadable
    decide

end HuaweiY5.Ril
