import HuaweiY5.Lib.JavaString

/-!
# `Ril.EccList` — emergency numbers (`MtkEccList.java`) and the emergency branch of `dial`

An address is an emergency number if it is in the network's category list, in one of the two SIM lists, or in
the customized list of `ecc_list.xml`. `isEmergencyNumberExt` decides that, `getServiceCategoryFromEcc` looks
up the service category, `updateEmergencyNumbersProperty` copies customized numbers into the SIM properties,
and `dial` of `MT6735.java` puts the first two together. All four are translated here. An uncaught exception of
the first two and of `dial` is `none`; the third keeps what it stored before it threw.
-/

namespace HuaweiY5.Ril

open JavaString

/-- `MtkEccList.EccEntry`. -/
structure EccEntry where
  ecc : JString
  category : JString
  condition : JString
deriving DecidableEq

/-- `EccEntry.ECC_NO_SIM`. -/
def eccNoSim : JString := ['0']

/-- `EccEntry.ECC_ALWAYS`. -/
def eccAlways : JString := ['1']

/-- `getCondition().equals(EccEntry.ECC_NO_SIM)`. -/
def EccEntry.isNoSim (e : EccEntry) : Bool := e.condition == eccNoSim

structure Properties where
  /-- `ril.ecc.service.category.list` -/
  eccServiceCategoryList : JString
  /-- `ril.ecclist` -/
  ecclist : JString
  /-- `ril.ecclist1` -/
  ecclist1 : JString
deriving DecidableEq

/-- `mHashMapForNetworkEccCategory`, as its entries. -/
abbrev NetworkEccMap := List (JString × Int)

def NetworkEccMap.put (m : NetworkEccMap) (ecc : JString) (category : Int) : NetworkEccMap :=
  m.filter (fun e => e.1 ≠ ecc) ++ [(ecc, category)]

/-- What the class takes from the framework: the separator-stripping function, and the order in which a
    `HashMap` is iterated. -/
structure Framework where
  extractNetworkPortionAlt : JString → JString
  keySet : NetworkEccMap → NetworkEccMap
  keySet_perm : ∀ m, (keySet m).Perm m

/-- A framework to compute with: it strips everything but digits, `*`, `#` and `+`,
    and iterates in insertion order. -/
def stripping : Framework where
  extractNetworkPortionAlt s := s.filter fun c => c.isDigit || c == '*' || c == '#' || c == '+'
  keySet := id
  keySet_perm _ := List.Perm.refl _

/-- The entry is a match for the number, with or without a trailing `+`. -/
def eccMatches (number ecc : JString) : Bool := ecc == number || ecc ++ ['+'] == number

/-- The map `isEmergencyNumberExt` builds from `ril.ecc.service.category.list`. -/
def loadNetworkEcc (strEccCategoryList : JString) : Option NetworkEccMap :=
  if strEccCategoryList.isEmpty then some []
  else
    (split ';' strEccCategoryList).foldlM
      (fun m strEccCategory =>
        if strEccCategory.isEmpty then some m
        else
          match split ',' strEccCategory with
          | [ecc, category] => (parseInt category).map fun nSC => m.put ecc nSC
          | _ => some m)
      []

def inEcclist (numbers number : JString) : Bool := !numbers.isEmpty && (split ',' numbers).any (eccMatches number)

/-- `bSIMInserted`: one of the SIM lists is not empty. -/
def Properties.simInserted (props : Properties) : Bool := !props.ecclist.isEmpty || !props.ecclist1.isEmpty

/-- The customized entry counts in the current SIM state. -/
def EccEntry.applies (props : Properties) (e : EccEntry) : Bool := !props.simInserted || !e.isNoSim

variable (customized : List EccEntry) (fw : Framework)

/-- The three checks of `isEmergencyNumberExt`, on the stripped number. -/
def checkEcc (customized : List EccEntry) (props : Properties) (networkEcc : NetworkEccMap)
    (number : JString) : Bool :=
  -- 1. Check ECCs updated by network
  (fw.keySet networkEcc).any (fun e => eccMatches number e.1) ||
  -- 2. Check ECCs stored at SIMs
  inEcclist props.ecclist number || inEcclist props.ecclist1 number ||
  -- 3. Check ECCs customized by user
  customized.any fun e => e.applies props && eccMatches number e.ecc

/-- `isEmergencyNumberExt`: the answer, and the network map it leaves behind. -/
def isEmergencyNumberExt (customized : List EccEntry) (props : Properties)
    (networkEcc : NetworkEccMap) : Option JString → Option (Bool × NetworkEccMap)
  | none => some (false, networkEcc)
  | some number =>
    let number := fw.extractNetworkPortionAlt number
    (loadNetworkEcc props.eccServiceCategoryList).map fun networkEcc =>
      (checkEcc fw customized props networkEcc number, networkEcc)

def getServiceCategoryFromEcc (customized : List EccEntry) (networkEcc : NetworkEccMap)
    (number : JString) : Option Int :=
  -- 1. Get category from network
  match (fw.keySet networkEcc).find? fun e => eccMatches number e.1 with
  | some (_, nSC) => some nSC
  | none =>
    -- 3. Get category from user-customized
    match customized.find? fun e => eccMatches number e.ecc with
    | some eccEntry => parseInt eccEntry.category
    | none => some 0

/-! ## Dialling -/

structure UusInfo where
  type : Int
  dcs : Int
  userData : List (BitVec 8)
deriving DecidableEq

/-- The requests `dial` hands to the radio; `superDial` is the framework's own `dial`. -/
inductive RilRequest
  | setEccServiceCategory (serviceCategory : Int)
  | emergencyDial (address : JString) (clirMode : Int) (uusInfo : Option UusInfo)
  | superDial (address : JString) (clirMode : Int) (uusInfo : Option UusInfo)
deriving DecidableEq

/-- `MT6735.dial`: the requests sent, and the network map left behind. -/
def dial (customized : List EccEntry) (props : Properties) (networkEcc : NetworkEccMap)
    (address : JString) (clirMode : Int) (uusInfo : Option UusInfo) :
    Option (List RilRequest × NetworkEccMap) :=
  (isEmergencyNumberExt fw customized props networkEcc (some address)).bind fun (isEcc, networkEcc) =>
    if isEcc then
      (getServiceCategoryFromEcc fw customized networkEcc address).map fun serviceCategory =>
        ([.setEccServiceCategory serviceCategory, .emergencyDial address clirMode uusInfo], networkEcc)
    else some ([.superDial address clirMode uusInfo], networkEcc)

/-! ## Refreshing the SIM properties -/

/-- The exceptions that can be raised; `framework` is one of the parcel readers' own. -/
inductive Throwable
  | nullPointer | numberFormat | illegalArgument | shouldNotBeHere | framework (code : Nat)
deriving DecidableEq

/-- `fixedList`: the numbers that are emergency numbers with a SIM, too. -/
def fixedList : List JString := (customized.filter fun e => !e.isNoSim).map (·.ecc)

def fixedListNoSim : List JString := (customized.filter fun e => e.isNoSim && !e.ecc.isEmpty).map (·.ecc)

def refreshEcclist (numbers : JString) : JString :=
  let simList := (split ',' numbers).filter fun emergencyNum => !emergencyNum.isEmpty
  -- dedupe
  let simList := removeAll simList (fixedList customized) ++ fixedList customized
  let simList :=
    if numbers.isEmpty then removeAll simList (fixedListNoSim customized) ++ fixedListNoSim customized
    else simList
  join ',' simList

/-- `updateEmergencyNumbersProperty`: the properties it leaves, and its exception. `SystemProperties.set` throws for a
    value of more than `propValueMax` characters; the second property is then not looked at. -/
def updateEmergencyNumbersProperty (propValueMax : Nat) (customized : List EccEntry) (props : Properties) :
    Properties × Option Throwable :=
  let ecclist := refreshEcclist customized props.ecclist
  if ecclist.length ≤ propValueMax then
    let props := { props with ecclist := ecclist }
    let ecclist1 := refreshEcclist customized props.ecclist1
    if ecclist1.length ≤ propValueMax then ({ props with ecclist1 := ecclist1 }, none)
    else (props, some .illegalArgument)
  else (props, some .illegalArgument)

end HuaweiY5.Ril
