import HuaweiY5.Msg.Hal2Mnl

/-!
# `Msg.Hal2MnlBounds` — what `hal2mnl_hdlr` does to a datagram nobody checked

The socket of mnld takes datagrams from anyone, and the handler trusts every length in them: a string ends at
its NUL wherever that is, the offset behind a string is moved by a length from the datagram, and NI_MESSAGE
copies as many bytes as the datagram says into an array of 1024. `hal2mnl_inBounds_iff` says exactly which
datagrams are decoded inside the arrays.
-/

namespace HuaweiY5.Msg

open Option Codec

/-- The receive buffer: the datagram, and zeros behind it. -/
def recvBuffer (datagram : List Byte) : List Byte := datagram ++ List.replicate (halMnlBuffSize - datagram.length) 0

variable (buff : List Byte)

/-- The string field at an index is NULL, or it ends inside the buffer. -/
def StringEnds (i : Nat) : Prop := byteAt buff i = 0 ∨ 0 ∈ buff.drop (i + 5)

/-- The four bytes behind the string field at an index, as its length word says, are inside the buffer. -/
def IntBehind (i : Nat) : Prop :=
  byteAt buff i = 0 ∨
    (0 ≤ ((i + 5 : Nat) : Int) + (wordAt buff (i + 1)).toInt ∧
      ((i + 5 : Nat) : Int) + (wordAt buff (i + 1)).toInt + 4 ≤ buff.length)

/-- What keeps each command in bounds, by the place of its string or binary in the datagram. -/
def Hal2MnlCmd.InBounds : Hal2MnlCmd → Prop
  | .dataConnOpen => StringEnds buff 8
  | .dataConnOpenWithApnIpType => StringEnds buff 8 ∧ IntBehind buff 8
  | .setServer => StringEnds buff 12 ∧ IntBehind buff 12
  | .setId => StringEnds buff 12
  | .niMessage => (wordAt buff 8).toInt ≤ 1024
  | .updateNetworkState => StringEnds buff 20
  | .updateNetworkAvailability => StringEnds buff 12
  | _ => True

/-! ## A string field of any content -/

section Strings

variable {buff : List Byte} {i : Nat} {α : Type}

theorem getByte_apply (h : i < buff.length) : getByte buff i = some (byteAt buff i, ((i + 1 : Nat) : Int)) := by
  rw [getByte, Get.byte]
  simp [byteAt, h]

theorem getString_null (hlen : i < buff.length) (h : byteAt buff i = 0) :
    getString buff i = some (none, ((i + 1 : Nat) : Int)) := by
  rw [getString, Get.bind_apply, getByte_apply hlen]
  simp only [h]
  rfl

theorem getString_of_ne (hlen : i + 5 ≤ buff.length) (hint : i + 5 < intEnd) (h : byteAt buff i ≠ 0) :
    getString buff i = (Get.cstring buff ((i + 5 : Nat) : Int)).bind fun r =>
      some (some r.1, r.2 + (wordAt buff (i + 1)).toInt) := by
  rw [getString, Get.bind_apply, getByte_apply (by omega), bind_some]
  simp only [h, if_false]
  rw [Get.bind_apply, getInt_apply (by omega) (by omega)]
  rfl

theorem getString_none (hlen : i + 5 ≤ buff.length) (hint : i + 5 < intEnd) (h : ¬StringEnds buff i) :
    getString buff i = none := by
  simp only [StringEnds, not_or] at h
  rw [getString_of_ne hlen hint h.1, Get.cstring, if_neg (fun hnul => h.2 hnul.2), bind_none]

theorem getString_some (hlen : i + 5 ≤ buff.length) (hint : i + 5 < intEnd) (h : byteAt buff i ≠ 0)
    (hnul : 0 ∈ buff.drop (i + 5)) :
    ∃ s, getString buff i = some (some s, ((i + 5 : Nat) : Int) + (wordAt buff (i + 1)).toInt) := by
  rw [getString_of_ne hlen hint h, Get.cstring, if_pos ⟨by omega, hnul⟩]
  exact ⟨_, rfl⟩

theorem string_isSome_iff (hlen : i + 5 ≤ buff.length) (hint : i + 5 < intEnd) (f : Option CString → α) :
    ((getString >>= fun s => pure (f s)) buff i).isSome ↔ StringEnds buff i := by
  rw [Get.bind_apply]
  by_cases hends : StringEnds buff i
  · refine iff_of_true ?_ hends
    by_cases hnull : byteAt buff i = 0
    · rw [getString_null (by omega) hnull]
      rfl
    · obtain ⟨s, hs⟩ := getString_some hlen hint hnull (hends.resolve_left hnull)
      rw [hs]
      rfl
  · rw [getString_none hlen hint hends]
    exact iff_of_false (by simp) hends

theorem string_int_isSome_iff (hlen : i + 9 ≤ buff.length) (hint : i + 5 < intEnd)
    (f : Option CString → BitVec 32 → α) :
    ((getString >>= fun s => getInt >>= fun x => pure (f s x)) buff i).isSome ↔
      StringEnds buff i ∧ IntBehind buff i := by
  rw [Get.bind_apply]
  by_cases hends : StringEnds buff i
  · rw [and_iff_right hends]
    by_cases hnull : byteAt buff i = 0
    · -- no string: the `int` stands right behind the flag byte
      rw [getString_null (by omega) hnull, bind_some]
      obtain ⟨a, ha⟩ := (fixed_int.map (f none)).inside buff ((i + 1 : Nat) : Int) (by omega) (by omega)
      exact iff_of_true (by rw [ha]; rfl) (.inl hnull)
    · obtain ⟨s, hs⟩ := getString_some (by omega) hint hnull (hends.resolve_left hnull)
      rw [hs, bind_some]
      by_cases hin : 0 ≤ ((i + 5 : Nat) : Int) + (wordAt buff (i + 1)).toInt ∧
          ((i + 5 : Nat) : Int) + (wordAt buff (i + 1)).toInt + 4 ≤ buff.length
      · obtain ⟨a, ha⟩ := (fixed_int.map (f (some s))).inside buff _ hin.1 hin.2
        exact iff_of_true (by rw [ha]; rfl) (.inr hin)
      · rw [(fixed_int.map (f (some s))).outside buff _ (by omega)]
        exact iff_of_false (by simp) (fun h => h.elim hnull hin)
  · rw [getString_none (by omega) hint hends]
    exact iff_of_false (by simp) (fun h => hends h.1)

theorem binary_isSome_iff (cap : Nat) (hlen : i + 4 + cap ≤ buff.length) (hint : i + 4 < intEnd)
    (f : Binary → α) :
    ((getBinary cap >>= fun x => pure (f x)) buff i).isSome ↔ (wordAt buff i).toInt ≤ cap := by
  rw [Get.bind_apply, getBinary, Get.bind_apply, getInt_apply (by omega) hint, bind_some]
  dsimp only
  by_cases hpos : 0 < (wordAt buff i).toInt
  · rw [dif_pos hpos]
    by_cases hcap : (wordAt buff i).toInt ≤ cap
    · rw [if_pos hcap, Get.bind_apply, Get.bytes, dif_pos (by omega)]
      exact iff_of_true rfl hcap
    · rw [if_neg hcap]
      exact iff_of_false (by simp [Get.fail]) hcap
  · rw [dif_neg hpos]
    exact iff_of_true rfl (by omega)

theorem isSome_of_fixed {g : Get α} {n : Nat} (h : Fixed g n) (hlen : i + n ≤ buff.length) : (g buff i).isSome := by
  obtain ⟨a, ha⟩ := h.inside buff i (by omega) (by omega)
  rw [ha]
  rfl

end Strings

/-! ## Every command -/

theorem hdlr_inBounds_iff {buff : List Byte} (hlen : buff.length = halMnlBuffSize) (cmd : Hal2MnlCmd) :
    (cmd.hdlr buff 8).isSome ↔ cmd.InBounds buff := by
  have hsize : halMnlBuffSize = 16384 := rfl
  have hint : ∀ n : Nat, n ≤ 100 → n < intEnd := fun n hn => lt_of_le_of_lt hn (by decide)
  have hword : ∀ i : Nat, i ≤ 16 → getInt buff i = some (wordAt buff i, ((i + 4 : Nat) : Int)) :=
    fun i hi => getInt_apply (by omega) (hint _ (by omega))
  have h8 : getInt buff 8 = some (wordAt buff 8, 12) := hword 8 (by decide)
  have h12 : getInt buff 12 = some (wordAt buff 12, 16) := hword 12 (by decide)
  have h16 : getInt buff 16 = some (wordAt buff 16, 20) := hword 16 (by decide)
  cases cmd with
  | halReboot | gpsInit | gpsStart | gpsStop | gpsCleanup | dataConnClosed | dataConnFailed =>
    exact iff_of_true rfl trivial
  | gpsInjectTime | gpsInjectLocation =>
    exact iff_of_true (isSome_of_fixed (i := 8) (fixed_long.bind fun _ => fixed_long.bind fun _ =>
      fixed_int.map _) (by omega)) trivial
  | gpsDeleteAidingData | gpsMeasurement | gpsNavigation =>
    exact iff_of_true (isSome_of_fixed (i := 8) (fixed_int.map _) (by omega)) trivial
  | gpsSetPositionMode | setRefLocation =>
    exact iff_of_true (isSome_of_fixed (i := 8) (fixed_int.bind fun _ => fixed_int.bind fun _ =>
      fixed_int.bind fun _ => fixed_int.bind fun _ => fixed_int.map _) (by omega)) trivial
  | niRespond =>
    exact iff_of_true (isSome_of_fixed (i := 8) (fixed_int.bind fun _ => fixed_int.map _) (by omega)) trivial
  | dataConnOpen => exact string_isSome_iff (i := 8) (by omega) (hint _ (by decide)) _
  | dataConnOpenWithApnIpType => exact string_int_isSome_iff (i := 8) (by omega) (hint _ (by decide)) _
  | setServer =>
    rw [Hal2MnlCmd.hdlr, Get.bind_apply, h8, bind_some]
    exact string_int_isSome_iff (i := 12) (by omega) (hint _ (by decide)) _
  | setId | updateNetworkAvailability =>
    rw [Hal2MnlCmd.hdlr, Get.bind_apply, h8, bind_some]
    exact string_isSome_iff (i := 12) (by omega) (hint _ (by decide)) _
  | niMessage =>
    exact binary_isSome_iff (i := 8) 1024 (by omega) (hint _ (by decide)) _
  | updateNetworkState =>
    rw [Hal2MnlCmd.hdlr, Get.bind_apply, h8, bind_some, Get.bind_apply,
      h12, bind_some, Get.bind_apply, h16, bind_some]
    exact string_isSome_iff (i := 20) (by omega) (hint _ (by decide)) _

def cmdOf (buff : List Byte) : Option Hal2MnlCmd := Hal2MnlCmd.all.find? fun c => c.code = wordAt buff 4

theorem hal2mnlHdlr_inBounds_iff {buff : List Byte} (hlen : buff.length = halMnlBuffSize) :
    (hal2mnlHdlr buff 0).isSome ↔ ∀ cmd ∈ cmdOf buff, cmd.InBounds buff := by
  have hsize : halMnlBuffSize = 16384 := rfl
  have h0 : getInt buff 0 = some (wordAt buff 0, 4) := getInt_apply (i := 0) (by omega) (by decide)
  have h4 : getInt buff 4 = some (wordAt buff 4, 8) := getInt_apply (i := 4) (by omega) (by decide)
  rw [hal2mnlHdlr, Get.bind_apply, h0, bind_some, Get.bind_apply, h4, bind_some]
  rw [switch, ← cmdOf]
  cases cmdOf buff with
  | none => exact iff_of_true rfl fun cmd h => absurd h (not_mem_none cmd)
  | some cmd =>
    simp only [mem_some_iff, forall_eq']
    exact hdlr_inBounds_iff hlen cmd

/-- **Decoding an arbitrary datagram.** For every content and every length from 1 to the size of the buffer:
    all accesses of the handler are inside their arrays if and only if the string of the command, if it has
    one, is NULL or ends inside the buffer, an `int` behind it is inside the buffer, and the length of an NI
    message is at most 1024. -/
theorem hal2mnl_inBounds_iff (datagram : List Byte) (_hpos : 1 ≤ datagram.length)
    (hle : datagram.length ≤ halMnlBuffSize) :
    (receive halMnlBuffSize hal2mnlHdlr datagram).isSome ↔
      ∀ cmd ∈ cmdOf (recvBuffer datagram), cmd.InBounds (recvBuffer datagram) := by
  have hlen : (recvBuffer datagram).length = halMnlBuffSize := by
    rw [recvBuffer, List.length_append, List.length_replicate]
    omega
  rw [← hal2mnlHdlr_inBounds_iff hlen, receive, isSome_map]
  rfl

/-- An NI message whose length is 1025. -/
def longNiMessage : List Byte := [1, 0, 0, 0, 0x91, 1, 0, 0, 1, 4, 0, 0]

/-- It makes the handler write outside its array. -/
theorem hal2mnl_overruns : receive halMnlBuffSize hal2mnlHdlr longNiMessage = none := by
  have hlen : (recvBuffer longNiMessage).length = halMnlBuffSize := by
    rw [recvBuffer, List.length_append, List.length_replicate]
    rfl
  have hcmd : cmdOf (recvBuffer longNiMessage) = some .niMessage := by decide
  have hnot : ¬(hal2mnlHdlr (recvBuffer longNiMessage) 0).isSome := by
    rw [hal2mnlHdlr_inBounds_iff hlen, hcmd]
    simp only [mem_some_iff, forall_eq']
    show ¬(wordAt (recvBuffer longNiMessage) 8).toInt ≤ 1024
    decide
  rw [Bool.not_eq_true, isSome_eq_false_iff, isNone_iff_eq_none] at hnot
  rw [receive, ← recvBuffer, hnot, map_none]

def shortNiMessage : List Byte := [1, 0, 0, 0, 0x91, 1, 0, 0, 3, 0, 0, 0, 0x0a, 0x1b, 0x2c]

/-- An NI message of three bytes is decoded in bounds. -/
theorem hal2mnl_inBounds_short : (receive halMnlBuffSize hal2mnlHdlr shortNiMessage).isSome := by
  refine (hal2mnl_inBounds_iff shortNiMessage (by decide) (by decide)).mpr ?_
  have hcmd : cmdOf (recvBuffer shortNiMessage) = some .niMessage := by decide
  rw [hcmd]
  simp only [mem_some_iff, forall_eq']
  show (wordAt (recvBuffer shortNiMessage) 8).toInt ≤ 1024
  decide

end HuaweiY5.Msg
