import Plugpp.Answers

/-!
# Delivering the reason of a kick

Three callbacks copy the reason of a kick into a buffer of the host. A reason is
delivered if nothing is written behind the buffer and the buffer then holds as much
of the reason as fits with its terminator.

Each callback does so up to a bound that its way of copying sets: `strcpy` knows no
bound and writes behind the buffer from the buffer's size on; `strncpy` with one byte
less than the size leaves the last byte as it was; `strncpy` with the whole size
leaves no room for a terminator.
-/

namespace Plugpp

open Bytes Code Exported

namespace Buffer

/-- Nothing is written from the size on, and the buffer holds the part of the reason
that fits. -/
def Delivered (size : Nat) (reason : Bytes) (buffer : Buffer) : Prop :=
  (∀ index ∈ buffer.stores, index < size) ∧ buffer.Holds (reason.take (size - 1))

variable {size : Nat} {reason : Bytes}

/-- A NUL-free reason that is shorter than the size fits whole. -/
theorem take_short (short : reason.length < size) : reason.take (size - 1) = reason :=
  List.take_of_length_le (by omega)

/-- `strcpy` delivers exactly the reasons that are shorter than the buffer. -/
theorem strcpy_delivered_iff (free : 0 ∉ reason) (memory : Nat → UInt8) :
    Delivered size reason (strcpy ⟨memory, []⟩ reason) ↔ reason.length < size := by
  have whole := cString_free reason free
  constructor
  · rintro ⟨bounded, _⟩
    apply bounded
    rw [mem_stores_strcpy, whole]
    exact Or.inl (Nat.le_refl _)
  · intro short
    refine ⟨?_, ?_⟩
    · intro index stored
      rw [mem_stores_strcpy, whole] at stored
      cases stored with
      | inl inside => omega
      | inr impossible => simp at impossible
    · rw [take_short short]
      simpa [whole] using strcpy_holds ⟨memory, []⟩ reason

/-- `strncpy` with the whole size delivers exactly the reasons that are shorter. -/
theorem strncpy_delivered_iff (free : 0 ∉ reason) (positive : 1 ≤ size) (memory : Nat → UInt8) :
    Delivered size reason (strncpy ⟨memory, []⟩ reason size) ↔ reason.length < size := by
  have whole := cString_free reason free
  have bounded : ∀ index ∈ (strncpy ⟨memory, []⟩ reason size).stores, index < size := by
    simp [mem_stores_strncpy]
  constructor
  · rintro ⟨_, holds⟩
    by_contra long
    have unterminated := strncpy_not_holds ⟨memory, []⟩ reason size
      (by rw [whole]; omega) (by omega)
    rw [whole] at unterminated
    exact unterminated holds
  · intro short
    refine ⟨bounded, ?_⟩
    rw [take_short short]
    simpa [whole] using strncpy_holds ⟨memory, []⟩ reason size (by rwa [whole])

/-- `strncpy` with one byte less delivers exactly the reasons that leave room for two
NULs, and longer ones if the last byte of the buffer was a NUL already. -/
theorem strncpy_pred_delivered_iff (free : 0 ∉ reason) (positive : 1 ≤ size)
    (memory : Nat → UInt8) :
    Delivered size reason (strncpy ⟨memory, []⟩ reason (size - 1)) ↔
      reason.length < size - 1 ∨ memory (size - 1) = 0 := by
  have whole := cString_free reason free
  have bounded : ∀ index ∈ (strncpy ⟨memory, []⟩ reason (size - 1)).stores, index < size := by
    simp only [mem_stores_strncpy, List.not_mem_nil, or_false]
    omega
  by_cases short : reason.length < size - 1
  · have held := strncpy_holds ⟨memory, []⟩ reason (size - 1) (by rwa [whole])
    rw [whole] at held
    refine iff_of_true ⟨bounded, ?_⟩ (Or.inl short)
    rwa [take_short (by omega)]
  · have terminated := strncpy_holds_take_iff ⟨memory, []⟩ reason (size - 1)
      (by rw [whole]; omega)
    rw [whole] at terminated
    simp only [short, false_or]
    exact ⟨fun delivered => terminated.mp delivered.2, fun last => ⟨bounded, terminated.mpr last⟩⟩

end Buffer

/-- A positive `int` is its own `size_t`. -/
theorem size_of_positive (len : Int32) (positive : 1 ≤ len.toInt) :
    len.toUInt32.toNat = len.toInt.toNat := by
  have signed : len.toInt = len.toBitVec.toInt := rfl
  have unsigned : len.toUInt32.toNat = len.toBitVec.toNat := rfl
  rw [signed, BitVec.toInt_eq_toNat_cond] at positive ⊢
  have bounded := len.toBitVec.isLt
  split at positive
  · rw [unsigned, if_pos ‹_›, Int.toNat_natCast]
  · omega

/-- From an empty message buffer, a kick with a NUL-free reason is delivered: by
`OnPlayerConnect` exactly if the reason is shorter than the buffer; by
`OnPlayerGotAuthInfo`, into 1024 bytes, exactly if it is shorter than 1023 bytes or
the last byte was a NUL; by `OnPlayerGetBanStatus` exactly if it is shorter than `len`. -/
theorem kick_delivered_iff {P : Type} (linked : Linked P) (world : World P) (reason : Bytes)
    (free : 0 ∉ reason) (memory : Nat → UInt8) (empty : memory 0 = 0) :
    (∀ (size : Nat) (clientnum : Int) (netaddress : Pointer) (userinfo : Bytes),
      (asked linked world (.onPlayerConnect clientnum netaddress userinfo) ⟨⟩).1 =
        .ok (some reason) →
      (Buffer.Delivered size reason (enter linked
          (.onPlayerConnect clientnum netaddress userinfo) (world, ⟨memory, []⟩)).2.2 ↔
        reason.length < size)) ∧
    (∀ (addr cl : Pointer) (info : AuthInfo), info.rejectmsg = ⟨memory, []⟩ →
      (asked linked world (.onPlayerGotAuthInfo cl addr)
        ⟨info.playerid, info.steamid, info.returnNow⟩).1 = .ok (some reason) →
      (Buffer.Delivered 1024 reason
          (enter linked (.onPlayerGotAuthInfo addr cl) (world, info)).2.2.rejectmsg ↔
        reason.length < 1023 ∨ memory 1023 = 0)) ∧
    (∀ (len : Int32) (baninfo : BanInfo), 1 ≤ len.toInt →
      (asked linked world .onPlayerGetBanStatus baninfo).1 = .ok (some reason) →
      (Buffer.Delivered len.toInt.toNat reason
          (enter linked (.onPlayerGetBanStatus len) (world, ⟨baninfo, ⟨memory, []⟩⟩)).2.2.message ↔
        reason.length < len.toInt.toNat)) := by
  refine ⟨?_, ?_, ?_⟩
  · intro size clientnum netaddress userinfo kicked
    have copied : (enter linked (.onPlayerConnect clientnum netaddress userinfo)
        (world, ⟨memory, []⟩)).2.2 = Buffer.strcpy ⟨memory, []⟩ reason := by
      simp [enter, onPlayerConnect_out, kicked, kickOf, empty]
    rw [copied]
    exact Buffer.strcpy_delivered_iff free memory
  · intro addr cl info isEmpty kicked
    have copied : (enter linked (.onPlayerGotAuthInfo addr cl) (world, info)).2.2.rejectmsg =
        Buffer.strncpy ⟨memory, []⟩ reason (1024 - 1) := by
      simp [enter, onPlayerGotAuthInfo_out, kicked, kickOf, isEmpty, empty, rejectMsgSize]
    rw [copied]
    exact Buffer.strncpy_pred_delivered_iff free (by decide) memory
  · intro len baninfo positive kicked
    have copied : (enter linked (.onPlayerGetBanStatus len)
        (world, ⟨baninfo, ⟨memory, []⟩⟩)).2.2.message =
          Buffer.strncpy ⟨memory, []⟩ reason len.toInt.toNat := by
      simp [enter, onPlayerGetBanStatus_out, kicked, kickOf, empty,
        size_of_positive len positive]
    rw [copied]
    exact Buffer.strncpy_delivered_iff free (by omega) memory

/-- A plugin that kicks everyone with a reason. -/
def kicker (reason : Bytes) : Linked Unit :=
  fixed (fun
    | .onPlayerConnect .. | .onPlayerGotAuthInfo .. | .onPlayerGetBanStatus => .ok (some reason)
    | call => .ok call.default) (.ok ⟨⟩)

/-- Its world. -/
def kickerWorld : World Unit := loadedWorld (Command.initial 0 fun _ => none) [] anyone

/-- A reason of three bytes is delivered into four by all three callbacks. -/
theorem kick_delivered_out :
    Buffer.Delivered 4 (literal "out") (enter (kicker (literal "out"))
        (.onPlayerConnect 0 0 []) (kickerWorld, ⟨fun _ => 0, []⟩)).2.2 ∧
    Buffer.Delivered 1024 (literal "out") (enter (kicker (literal "out"))
        (.onPlayerGotAuthInfo 0 0) (kickerWorld, ⟨0, 0, ⟨fun _ => 0, []⟩, false⟩)).2.2.rejectmsg ∧
    Buffer.Delivered 4 (literal "out") (enter (kicker (literal "out"))
        (.onPlayerGetBanStatus 4) (kickerWorld, ⟨⟨0, 0, 0⟩, ⟨fun _ => 0, []⟩⟩)).2.2.message := by
  obtain ⟨connect, auth, ban⟩ := kick_delivered_iff (kicker (literal "out")) kickerWorld
    (literal "out") (by decide) (fun _ => 0) rfl
  refine ⟨?_, ?_, ?_⟩
  · exact (connect 4 0 0 [] rfl).mpr (by decide)
  · exact (auth 0 0 _ rfl rfl).mpr (Or.inl (by decide))
  · exact (ban 4 ⟨0, 0, 0⟩ (by decide) rfl).mpr (by decide)

/-- A reason of four bytes is written behind a buffer of four by `OnPlayerConnect`, and
left unterminated in it by `OnPlayerGetBanStatus`; one of 1023 bytes is left
unterminated by `OnPlayerGotAuthInfo` in a buffer whose last byte is set. -/
theorem kick_undelivered :
    ¬ Buffer.Delivered 4 (literal "full") (enter (kicker (literal "full"))
        (.onPlayerConnect 0 0 []) (kickerWorld, ⟨fun _ => 0, []⟩)).2.2 ∧
    ¬ Buffer.Delivered 4 (literal "full") (enter (kicker (literal "full"))
        (.onPlayerGetBanStatus 4) (kickerWorld, ⟨⟨0, 0, 0⟩, ⟨fun _ => 0, []⟩⟩)).2.2.message ∧
    ¬ Buffer.Delivered 1024 (List.replicate 1023 0x61) (enter (kicker (List.replicate 1023 0x61))
        (.onPlayerGotAuthInfo 0 0)
        (kickerWorld, ⟨0, 0, ⟨fun index => if index = 0 then 0 else 1, []⟩, false⟩)).2.2.rejectmsg := by
  refine ⟨?_, ?_, ?_⟩
  · rintro ⟨bounded, _⟩
    exact absurd (bounded 4 (by decide)) (by decide)
  · rintro ⟨_, _, _, terminated⟩
    exact absurd terminated (by decide)
  · have undelivered : ∀ reason : Bytes, 0 ∉ reason → 1023 ≤ reason.length →
        ¬ Buffer.Delivered 1024 reason (enter (kicker reason) (.onPlayerGotAuthInfo 0 0)
          (kickerWorld, ⟨0, 0, ⟨fun index => if index = 0 then 0 else 1, []⟩, false⟩)).2.2.rejectmsg := by
      intro reason free long
      have copied : (enter (kicker reason) (.onPlayerGotAuthInfo 0 0)
          (kickerWorld, ⟨0, 0, ⟨fun index => if index = 0 then 0 else 1, []⟩, false⟩)).2.2.rejectmsg =
            Buffer.strncpy ⟨fun index => if index = 0 then 0 else 1, []⟩ reason (1024 - 1) := by
        simp [enter, onPlayerGotAuthInfo_out, asked, kickerWorld, loadedWorld, kicker, fixed,
          kickOf, Except.mapError, rejectMsgSize]
      rw [copied, Buffer.strncpy_pred_delivered_iff free (by decide)]
      simpa using long
    apply undelivered
    · rw [List.mem_replicate]
      decide
    · rw [List.length_replicate]

end Plugpp
