import HuaweiY5.Lib.Transducer

/-!
# `Lights.Leds` — the three LEDs of the lights module

The battery and the notifications share a red, a green and a blue LED. A lit battery state comes first; otherwise the
notification state is shown. Each LED has a static variable with what it was last told, and a call that tells it the
same kind of thing writes nothing. Steady and off are the same every time, but a blinking LED that is told to blink with
other times keeps the old ones.
-/

namespace HuaweiY5.Lights

/-! ## LEDs -/

inductive LedState
  | off
  | steady
  | blinking (onMS offMS : Int32)
  deriving DecidableEq

inductive LedName
  | red
  | green
  | blue
  deriving DecidableEq

/-- A trigger: `none` or `timer`. -/
inductive Trigger
  | none
  | timer
  deriving DecidableEq

/-- The files `brightness`, `trigger`, `delay_on` and `delay_off` of an LED. -/
structure Files where
  brightness : Int32
  trigger : Trigger
  delayOn : Int32
  delayOff : Int32
  deriving DecidableEq

namespace Files

/-- A write of the brightness; zero removes the trigger as well. -/
def writeBrightness (value : Int32) (files : Files) : Files :=
  if value = 0 then { files with brightness := 0, trigger := .none } else { files with brightness := value }

def shown (files : Files) : LedState :=
  match files.trigger with
  | .timer => .blinking files.delayOn files.delayOff
  | .none => if files.brightness = 0 then .off else .steady

end Files

/-- The values of `preStatus`: off, blink, no blink. -/
inductive Status
  | off
  | blink
  | noBlink
  deriving DecidableEq

/-- An LED with the static variable of its function. -/
structure Led where
  preStatus : Status
  files : Files
  deriving DecidableEq

namespace Led

def shown (led : Led) : LedState := led.files.shown

def nowStatus (level : UInt32) (onMS offMS : Int32) : Status :=
  if level = 0 then .off else if onMS ≠ 0 ∧ offMS ≠ 0 then .blink else .noBlink

/-- `blink_red`, `blink_green` and `blink_blue`, which differ in the files only. -/
def blink (level : UInt32) (onMS offMS : Int32) (led : Led) : Led :=
  if led.preStatus = nowStatus level onMS offMS then led
  else
    ⟨nowStatus level onMS offMS,
      match nowStatus level onMS offMS with
      | .off => led.files.writeBrightness 0
      | .blink => { led.files with trigger := .timer, delayOff := offMS, delayOn := onMS }
      | .noBlink => Files.writeBrightness 255 { led.files with trigger := .none }⟩

end Led

/-! ## The module -/

def lightFlashTimed : Int32 := 1

/-- `light_state_t`. -/
structure LightState where
  color : UInt32
  flashMode : Int32
  flashOnMS : Int32
  flashOffMS : Int32
  deriving DecidableEq

def isLit (state : LightState) : Bool := decide (state.color &&& 0x00ffffff ≠ 0)

/-- The variables of the module and the LEDs. -/
structure Device where
  battery : LightState
  notification : LightState
  red : Led
  green : Led
  blue : Led
  deriving DecidableEq

namespace Device

def blinkRed (level : UInt32) (onMS offMS : Int32) (s : Device) : Device := { s with red := s.red.blink level onMS offMS }

def blinkGreen (level : UInt32) (onMS offMS : Int32) (s : Device) : Device :=
  { s with green := s.green.blink level onMS offMS }

def blinkBlue (level : UInt32) (onMS offMS : Int32) (s : Device) : Device := { s with blue := s.blue.blink level onMS offMS }

def setSpeakerLightLocked (state : LightState) (s : Device) : Device :=
  let onMS := if state.flashMode = lightFlashTimed then state.flashOnMS else 0
  let offMS := if state.flashMode = lightFlashTimed then state.flashOffMS else 0
  let alpha := (state.color >>> 24) &&& 0xFF
  let red := if alpha ≠ 0 then (state.color >>> 16) &&& 0xFF else 0
  let green := if alpha ≠ 0 then (state.color >>> 8) &&& 0xFF else 0
  let blue := if alpha ≠ 0 then state.color &&& 0xFF else 0
  if red ≠ 0 then blinkRed red onMS offMS (blinkBlue 0 0 0 (blinkGreen 0 0 0 s))
  else if green ≠ 0 then blinkGreen green onMS offMS (blinkBlue 0 0 0 (blinkRed 0 0 0 s))
  else if blue ≠ 0 then blinkBlue blue onMS offMS (blinkGreen 0 0 0 (blinkRed 0 0 0 s))
  else blinkBlue 0 0 0 (blinkGreen 0 0 0 (blinkRed 0 0 0 s))

def handleSpeakerBatteryLocked (s : Device) : Device :=
  if isLit s.battery then setSpeakerLightLocked s.battery s
  else setSpeakerLightLocked s.notification (setSpeakerLightLocked s.battery s)

/-- `set_light_battery`; `trackball` is `g_haveTrackballLight`. -/
def setLightBattery (trackball : Bool) (state : LightState) (s : Device) : Device :=
  let s := { s with battery := state }
  handleSpeakerBatteryLocked (if trackball then setSpeakerLightLocked state s else s)

def setLightNotifications (state : LightState) (s : Device) : Device :=
  handleSpeakerBatteryLocked { s with notification := state }

def dark : LightState := ⟨0, 0, 0, 0⟩

def ledOff : Led := ⟨.off, ⟨0, .none, 0, 0⟩⟩

def init : Device := ⟨dark, dark, ledOff, ledOff, ledOff⟩

end Device

inductive LightCall
  | battery (state : LightState)
  | notifications (state : LightState)
  deriving DecidableEq

namespace Device

def call (trackball : Bool) (s : Device) : LightCall → Device
  | .battery state => setLightBattery trackball state s
  | .notifications state => setLightNotifications state s

def machine (trackball : Bool) : Transducer Device LightCall Empty where
  init := init
  enabled := fun _ _ => True
  step := fun s c => (call trackball s c, [])

instance instDecidableMachineEnabled (trackball : Bool) (s : Device) (c : LightCall) :
    Decidable ((machine trackball).enabled s c) :=
  isTrue trivial

def led (s : Device) : LedName → Led
  | .red => s.red
  | .green => s.green
  | .blue => s.blue

end Device

/-! ## What should be shown -/

variable (state : LightState)

/-- The LED a state asks for: the first colour that is not zero, unless it is transparent. -/
def chosen : Option LedName :=
  if (state.color >>> 24) &&& 0xFF = 0 then none
  else if (state.color >>> 16) &&& 0xFF ≠ 0 then some .red
  else if (state.color >>> 8) &&& 0xFF ≠ 0 then some .green
  else if state.color &&& 0xFF ≠ 0 then some .blue
  else none

/-- How it is to shine: it blinks with the times of the state if there are two, and is steady otherwise. -/
def shining : LedState :=
  if state.flashMode = lightFlashTimed ∧ state.flashOnMS ≠ 0 ∧ state.flashOffMS ≠ 0 then
    .blinking state.flashOnMS state.flashOffMS
  else .steady

def lamp (name : LedName) : LedState := if chosen state = some name then shining state else .off

namespace Device

/-- The state that is to be shown: the latest battery state if it is lit, and the latest notification otherwise. -/
def inCharge (s : Device) : LightState := if isLit s.battery then s.battery else s.notification

def Shown (s : Device) : Prop := ∀ name, (s.led name).shown = lamp s.inCharge name

end Device

/-! ## What an LED shows -/

/-- What an LED shows after it was told something new: it keeps the times of its blinking. -/
def retain : LedState → LedState → LedState
  | .blinking onMS offMS, .blinking _ _ => .blinking onMS offMS
  | _, new => new

@[simp] theorem retain_off (old : LedState) : retain old .off = .off := by cases old <;> rfl

@[simp] theorem off_retain (new : LedState) : retain .off new = new := by cases new <;> rfl

@[simp] theorem retain_self (state : LedState) : retain state state = state := by cases state <;> rfl

@[simp] theorem retain_retain (old new : LedState) : retain (retain old new) new = retain old new := by
  cases old <;> cases new <;> rfl

def SameTimes : LedState → LedState → Prop
  | .blinking onMS offMS, .blinking onMS' offMS' => onMS = onMS' ∧ offMS = offMS'
  | _, _ => True

instance instDecidableSameTimes : (old new : LedState) → Decidable (SameTimes old new)
  | .blinking _ _, .blinking _ _ => inferInstanceAs (Decidable (_ ∧ _))
  | .off, _ | .steady, _ | .blinking _ _, .off | .blinking _ _, .steady => isTrue trivial

theorem retain_eq_iff (old new : LedState) : retain old new = new ↔ SameTimes old new := by
  cases old with
  | off => simp [SameTimes]
  | steady | blinking onMS offMS => cases new <;> simp [retain, SameTimes]

namespace Led

def target (level : UInt32) (onMS offMS : Int32) : LedState :=
  match nowStatus level onMS offMS with
  | .off => .off
  | .blink => .blinking onMS offMS
  | .noBlink => .steady

def statusOf : LedState → Status
  | .off => .off
  | .steady => .noBlink
  | .blinking _ _ => .blink

/-- The static variable of an LED says what it shows, up to the times. -/
def Coherent (led : Led) : Prop := led.preStatus = statusOf led.shown

variable {led : Led} (level : UInt32) (onMS offMS : Int32)

theorem statusOf_target : statusOf (target level onMS offMS) = nowStatus level onMS offMS := by
  unfold target
  rcases nowStatus level onMS offMS <;> rfl

theorem blink_of_ne (h : led.preStatus ≠ nowStatus level onMS offMS) :
    (led.blink level onMS offMS).preStatus = nowStatus level onMS offMS ∧
      (led.blink level onMS offMS).shown = target level onMS offMS := by
  rw [blink, if_neg h, target]
  rcases nowStatus level onMS offMS
  · exact ⟨rfl, rfl⟩
  · exact ⟨rfl, rfl⟩
  · exact ⟨rfl, rfl⟩

theorem retain_of_ne {old new : LedState} (h : statusOf old ≠ statusOf new) : retain old new = new := by
  cases old with
  | off => exact off_retain new
  | steady => rfl
  | blinking onMS offMS =>
    cases new with
    | off | steady => rfl
    | blinking => exact absurd rfl h

theorem retain_of_eq {old new : LedState} (h : statusOf old = statusOf new) : retain old new = old := by
  cases old <;> cases new <;> simp_all [statusOf, retain]

/-- **One LED.** After a call it shows what it was told, but keeps the times of its blinking. -/
theorem shown_blink (h : led.Coherent) :
    (led.blink level onMS offMS).shown = retain led.shown (target level onMS offMS) := by
  by_cases heq : led.preStatus = nowStatus level onMS offMS
  · have hsame : led.blink level onMS offMS = led := if_pos heq
    rw [hsame, retain_of_eq]
    rw [statusOf_target, ← heq, h]
  · rw [(blink_of_ne level onMS offMS heq).2, retain_of_ne]
    rw [statusOf_target, ← h]
    exact heq

theorem Coherent.blink (h : led.Coherent) : (led.blink level onMS offMS).Coherent := by
  by_cases heq : led.preStatus = nowStatus level onMS offMS
  · have hsame : led.blink level onMS offMS = led := if_pos heq
    rw [hsame]
    exact h
  · obtain ⟨hstatus, hshown⟩ := blink_of_ne level onMS offMS heq
    rw [Coherent, hstatus, hshown, statusOf_target]

end Led

namespace Device

def Coherent (s : Device) : Prop := ∀ name, (s.led name).Coherent

variable (state : LightState)

def level : LedName → UInt32
  | .red => (state.color >>> 16) &&& 0xFF
  | .green => (state.color >>> 8) &&& 0xFF
  | .blue => state.color &&& 0xFF

def onMS : Int32 := if state.flashMode = lightFlashTimed then state.flashOnMS else 0

def offMS : Int32 := if state.flashMode = lightFlashTimed then state.flashOffMS else 0

theorem led_setSpeakerLightLocked (s : Device) (name : LedName) :
    (setSpeakerLightLocked state s).led name =
      if chosen state = some name then (s.led name).blink (level state name) (onMS state) (offMS state)
      else (s.led name).blink 0 0 0 := by
  by_cases halpha : (state.color >>> 24) &&& 0xFF = 0
  · simp only [setSpeakerLightLocked, chosen, halpha]
    cases name <;> rfl
  · by_cases hred : (state.color >>> 16) &&& 0xFF = 0
    · by_cases hgreen : (state.color >>> 8) &&& 0xFF = 0
      · by_cases hblue : state.color &&& 0xFF = 0
        · simp only [setSpeakerLightLocked, chosen, halpha, hred, hgreen, hblue, ne_eq, not_true_eq_false,
            not_false_eq_true, if_true, if_false, reduceCtorEq]
          cases name <;> rfl
        · simp only [setSpeakerLightLocked, chosen, halpha, hred, hgreen, hblue, ne_eq, not_true_eq_false,
            not_false_eq_true, if_true, if_false]
          cases name <;> rfl
      · simp only [setSpeakerLightLocked, chosen, halpha, hred, hgreen, ne_eq, not_true_eq_false, not_false_eq_true, if_true,
          if_false]
        cases name <;> rfl
    · simp only [setSpeakerLightLocked, chosen, halpha, hred, ne_eq, not_false_eq_true, if_true]
      cases name <;> rfl

variable {state : LightState} {s : Device}

theorem level_ne_zero {name : LedName} (h : chosen state = some name) : level state name ≠ 0 := by
  unfold chosen at h
  split_ifs at h with halpha hred hgreen hblue
  · exact Option.some.inj h ▸ hred
  · exact Option.some.inj h ▸ hgreen
  · exact Option.some.inj h ▸ hblue

theorem target_chosen {name : LedName} (h : chosen state = some name) :
    Led.target (level state name) (onMS state) (offMS state) = shining state := by
  unfold Led.target Led.nowStatus shining onMS offMS
  rw [if_neg (level_ne_zero h)]
  by_cases htimed : state.flashMode = lightFlashTimed
  · by_cases htimes : state.flashOnMS ≠ 0 ∧ state.flashOffMS ≠ 0 <;> simp [htimed, htimes]
  · simp [htimed]

/-- **All three.** After a state was set, each LED shows what it asks for, but keeps the times of its blinking. -/
theorem setSpeakerLightLocked_spec (h : s.Coherent) (state : LightState) :
    (setSpeakerLightLocked state s).Coherent ∧
      ∀ name, ((setSpeakerLightLocked state s).led name).shown = retain (s.led name).shown (lamp state name) := by
  refine ⟨fun name => ?_, fun name => ?_⟩
  · rw [led_setSpeakerLightLocked]
    split_ifs <;> exact (h name).blink _ _ _
  · rw [led_setSpeakerLightLocked, lamp]
    split_ifs with hchosen
    · rw [Led.shown_blink _ _ _ (h name), target_chosen hchosen]
    · rw [Led.shown_blink _ _ _ (h name)]
      rfl

theorem level_of_not_lit (h : isLit state = false) (name : LedName) : level state name = 0 := by
  have hcolor : state.color.toNat % 2 ^ 24 = 0 := by
    have hand : state.color &&& 0x00ffffff = 0 := by simpa [isLit] using h
    have hnat := congrArg UInt32.toNat hand
    exact (Nat.and_two_pow_sub_one_eq_mod _ 24).symm.trans hnat
  have hbyte : ∀ x : UInt32, (x &&& 0xFF).toNat = x.toNat % 2 ^ 8 := by
    intro x
    exact Nat.and_two_pow_sub_one_eq_mod _ 8
  apply UInt32.toNat_inj.mp
  cases name with
  | red =>
    show ((state.color >>> 16) &&& 0xFF).toNat = 0
    rw [hbyte, UInt32.toNat_shiftRight, Nat.shiftRight_eq_div_pow]
    show state.color.toNat / 2 ^ 16 % 2 ^ 8 = 0
    omega
  | green =>
    show ((state.color >>> 8) &&& 0xFF).toNat = 0
    rw [hbyte, UInt32.toNat_shiftRight, Nat.shiftRight_eq_div_pow]
    show state.color.toNat / 2 ^ 8 % 2 ^ 8 = 0
    omega
  | blue =>
    show (state.color &&& 0xFF).toNat = 0
    rw [hbyte]
    omega

theorem lamp_of_not_lit (h : isLit state = false) (name : LedName) : lamp state name = .off := by
  unfold lamp
  split_ifs with hchosen
  · exact absurd (level_of_not_lit h name) (level_ne_zero hchosen)
  · rfl

/-! ## Whole calls -/

/-- **The two states.** A lit battery state is shown on top of what was there; otherwise the LEDs are turned off in
    between and show the notification. -/
theorem handleSpeakerBatteryLocked_spec (h : s.Coherent) :
    s.handleSpeakerBatteryLocked.Coherent ∧
      ∀ name, (s.handleSpeakerBatteryLocked.led name).shown =
        if isLit s.battery then retain (s.led name).shown (lamp s.battery name) else lamp s.notification name := by
  obtain ⟨hfirst, hshown⟩ := setSpeakerLightLocked_spec h s.battery
  unfold handleSpeakerBatteryLocked
  rcases hlit : isLit s.battery
  · obtain ⟨hsecond, hshown'⟩ := setSpeakerLightLocked_spec hfirst s.notification
    refine ⟨hsecond, fun name => ?_⟩
    show ((setSpeakerLightLocked s.notification (setSpeakerLightLocked s.battery s)).led name).shown =
      lamp s.notification name
    rw [hshown', hshown, lamp_of_not_lit hlit, retain_off, off_retain]
  · exact ⟨hfirst, hshown⟩

theorem setSpeakerLightLocked_states (state : LightState) (s : Device) :
    (setSpeakerLightLocked state s).battery = s.battery ∧ (setSpeakerLightLocked state s).notification = s.notification := by
  unfold setSpeakerLightLocked
  dsimp only
  split_ifs <;> exact ⟨rfl, rfl⟩

theorem handleSpeakerBatteryLocked_states (s : Device) :
    s.handleSpeakerBatteryLocked.battery = s.battery ∧ s.handleSpeakerBatteryLocked.notification = s.notification := by
  unfold handleSpeakerBatteryLocked
  split_ifs
  · exact setSpeakerLightLocked_states _ s
  · obtain ⟨hb, hn⟩ := setSpeakerLightLocked_states s.battery s
    obtain ⟨hb', hn'⟩ := setSpeakerLightLocked_states s.notification (setSpeakerLightLocked s.battery s)
    exact ⟨hb'.trans hb, hn'.trans hn⟩

theorem setLightNotifications_spec (h : s.Coherent) (state : LightState) :
    (s.setLightNotifications state).Coherent ∧
      (s.setLightNotifications state).battery = s.battery ∧ (s.setLightNotifications state).notification = state ∧
      ∀ name, ((s.setLightNotifications state).led name).shown =
        if isLit s.battery then retain (s.led name).shown (lamp s.battery name) else lamp state name := by
  let s' : Device := { s with notification := state }
  have hled : ∀ name, s'.led name = s.led name := by
    intro name
    cases name <;> rfl
  obtain ⟨hcoherent, hshown⟩ := handleSpeakerBatteryLocked_spec (s := s') fun name => hled name ▸ h name
  obtain ⟨hb, hn⟩ := handleSpeakerBatteryLocked_states s'
  refine ⟨hcoherent, hb, hn, fun name => ?_⟩
  exact hshown name

theorem setLightBattery_spec (h : s.Coherent) (trackball : Bool) (state : LightState) :
    (s.setLightBattery trackball state).Coherent ∧
      (s.setLightBattery trackball state).battery = state ∧
      (s.setLightBattery trackball state).notification = s.notification ∧
      ∀ name, ((s.setLightBattery trackball state).led name).shown =
        if isLit state then retain (s.led name).shown (lamp state name) else lamp s.notification name := by
  let s' : Device := { s with battery := state }
  have hled : ∀ name, s'.led name = s.led name := by
    intro name
    cases name <;> rfl
  have hs' : s'.Coherent := fun name => hled name ▸ h name
  cases trackball with
  | false =>
    obtain ⟨hcoherent, hshown⟩ := handleSpeakerBatteryLocked_spec hs'
    obtain ⟨hb, hn⟩ := handleSpeakerBatteryLocked_states s'
    refine ⟨hcoherent, hb, hn, fun name => ?_⟩
    exact hshown name
  | true =>
    obtain ⟨hfirst, hset⟩ := setSpeakerLightLocked_spec hs' state
    obtain ⟨hb, hn⟩ := setSpeakerLightLocked_states state s'
    obtain ⟨hcoherent, hshown⟩ := handleSpeakerBatteryLocked_spec hfirst
    obtain ⟨hb', hn'⟩ := handleSpeakerBatteryLocked_states (setSpeakerLightLocked state s')
    refine ⟨hcoherent, hb'.trans hb, hn'.trans hn, fun name => ?_⟩
    refine (hshown name).trans ?_
    rw [hb, hn, hset, hled name]
    rw [retain_retain]

theorem Coherent.call (h : s.Coherent) (trackball : Bool) (c : LightCall) : (s.call trackball c).Coherent := by
  cases c with
  | battery state => exact (setLightBattery_spec h trackball state).1
  | notifications state => exact (setLightNotifications_spec h state).1

/-- A lit battery state does not ask an LED that blinks to blink with other times. -/
def Compatible (s : Device) : LightCall → Prop
  | .battery state => isLit state = true → ∀ name, SameTimes (lamp s.inCharge name) (lamp state name)
  | .notifications _ => True

theorem forall_ledName {p : LedName → Prop} : (∀ name, p name) ↔ p .red ∧ p .green ∧ p .blue := by
  refine ⟨fun h => ⟨h .red, h .green, h .blue⟩, ?_⟩
  rintro ⟨hred, hgreen, hblue⟩ name
  cases name with
  | red => exact hred
  | green => exact hgreen
  | blue => exact hblue

instance instDecidableCompatible (s : Device) : (c : LightCall) → Decidable (Compatible s c)
  | .battery state =>
    decidable_of_iff (isLit state = true → SameTimes (lamp s.inCharge .red) (lamp state .red) ∧
      SameTimes (lamp s.inCharge .green) (lamp state .green) ∧ SameTimes (lamp s.inCharge .blue) (lamp state .blue))
      (imp_congr_right fun _ => (forall_ledName (p := fun name => SameTimes (lamp s.inCharge name) (lamp state name))).symm)
  | .notifications _ => isTrue trivial

/-- **One call.** The LEDs show what they should after it exactly if it is compatible with what they showed. -/
theorem shown_call_iff (h : s.Coherent) (hshown : s.Shown) (trackball : Bool) (c : LightCall) :
    (s.call trackball c).Shown ↔ Compatible s c := by
  cases c with
  | battery state =>
    obtain ⟨-, hb, hn, hled⟩ := setLightBattery_spec h trackball state
    unfold Shown inCharge Device.call
    rw [hb, hn]
    rcases hlit : isLit state
    · refine iff_of_true (fun name => ?_) fun hfalse => absurd (hlit.symm.trans hfalse) (by decide)
      rw [hled, hlit]
      rfl
    · have hafter : ∀ name, ((setLightBattery trackball state s).led name).shown =
          retain (lamp s.inCharge name) (lamp state name) := by
        intro name
        rw [hled, hlit, if_pos rfl, hshown name]
      have hiff : (∀ name, ((setLightBattery trackball state s).led name).shown = lamp state name) ↔
          ∀ name, SameTimes (lamp s.inCharge name) (lamp state name) :=
        forall_congr' fun name => by rw [hafter, retain_eq_iff]
      exact hiff.trans ⟨fun hsame _ => hsame, fun hsame => hsame hlit⟩
  | notifications state =>
    refine iff_of_true (fun name => ?_) trivial
    obtain ⟨-, hb, hn, hled⟩ := setLightNotifications_spec h state
    have hshown' := hshown name
    unfold inCharge Device.call at *
    rw [hled, hb, hn]
    rcases hlit : isLit s.battery
    · rfl
    · -- the battery state stays, and is told its own times
      rw [hlit] at hshown'
      rw [hshown']
      exact retain_self _

theorem init_coherent : init.Coherent := by
  intro name
  cases name <;> rfl

theorem init_shown : init.Shown := by
  intro name
  cases name <;> rfl

end Device

open Device

/-- **The LEDs.** After every call of a run they show what the battery, or else the notification, asks for, exactly if
    no lit battery state of the run asks an LED to blink that blinks with other times. -/
theorem leds_shown_iff {trackball : Bool} {tr : List (Transducer.Entry Device LightCall Empty)} {s : Device}
    (h : (machine trackball).Run tr s) :
    (∀ tr' s', (machine trackball).Run tr' s' → tr' <+: tr → s'.Shown) ↔ ∀ x ∈ tr, Compatible x.pre x.event := by
  refine h.forall_prefix_iff (P := fun _ s => s.Shown) (C := Compatible) init_shown ?_
  intro tr s c hrun _ hshown
  have hcoherent : s.Coherent := hrun.invariant init_coherent fun s c hs _ => hs.call trackball c
  exact shown_call_iff hcoherent hshown trackball c

def blinkingRed (onMS offMS : Int32) : LightState := ⟨0xffff0000, lightFlashTimed, onMS, offMS⟩

/-- A notification, a low battery and a full one: each is shown. -/
theorem leds_shown_in_turn :
    let calls := [LightCall.notifications ⟨0xff0000ff, lightFlashTimed, 300, 700⟩, .battery (blinkingRed 500 500),
      .battery dark]
    ∀ tr' s', (machine false).Run tr' s' → tr' <+: ((machine false).exec calls).1 → s'.Shown :=
  (leds_shown_iff ((machine false).run_exec (of_decide_eq_true rfl))).mpr
    ((machine false).exec_along (of_decide_eq_true rfl))

/-- A battery state that blinks slower than the one before: the red LED keeps the old times. -/
theorem stale_blink_times :
    let calls := [LightCall.battery (blinkingRed 500 500), .battery (blinkingRed 1000 2000)]
    let s := ((machine false).exec calls).2
    (machine false).Run ((machine false).exec calls).1 s ∧ lamp s.inCharge .red = .blinking 1000 2000 ∧
      (s.led .red).shown = .blinking 500 500 ∧ ¬s.Shown := by
  have hred : (((machine false).exec [LightCall.battery (blinkingRed 500 500), .battery (blinkingRed 1000 2000)]).2.led
      .red).shown = .blinking 500 500 := by decide +kernel
  refine ⟨(machine false).run_exec (of_decide_eq_true rfl), by decide +kernel, hred, fun h => ?_⟩
  exact absurd (hred.symm.trans (h .red)) (by decide +kernel)

end HuaweiY5.Lights
