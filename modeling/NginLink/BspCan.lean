import NginLink.GsUsbTypes

/-!
`crates/bsp-f446/src/can.rs` over the peripheral as its driver documents it.
`embassy_stm32` is not part of the repository: its identifier and frame
constructors are the parameter `Platform`, with their documented behaviour as
the hypothesis `Documented`. `Can` is not the register file but what has been
handed to that crate: the arguments last given to `modify_filters` and
`modify_config`, whether it left the peripheral asleep (`modify_config` does,
`enable` wakes it), and the frames it holds. How it programs a timing is a
parameter where a result needs it, and which frame `write` takes out of full
mailboxes is an input.
-/

namespace NginLink.BspCan

open GsUsbTypes

structure StandardId where
  raw : UInt16
  inRange : raw ≤ 0x7FF
  deriving DecidableEq

structure ExtendedId where
  raw : UInt32
  inRange : raw ≤ 0x1FFFFFFF
  deriving DecidableEq

inductive Id where
  | standard (id : StandardId)
  | extended (id : ExtendedId)
  deriving DecidableEq

-- `as_raw()`, widened as the driver task widens it.
def Id.raw : Id → UInt32
  | .standard id => id.raw.toUInt32
  | .extended id => id.raw

def Id.isExtended : Id → Bool
  | .standard _ => false
  | .extended _ => true

/-- A classic CAN frame: at most eight data bytes, and a remote frame has a length
but no payload of its own. -/
structure Frame where
  id : Id
  isRemote : Bool
  len : Nat
  bytes : Vector UInt8 8
  bounded : len ≤ 8
  deriving DecidableEq

def Frame.data (frame : Frame) : List UInt8 := frame.bytes.toList.take frame.len

inductive FrameCreateError where
  | notEnoughData
  | invalidDataLength
  | invalidCanId
  deriving DecidableEq

/-- The parts of the build that are not under the repository: the constructors
of `embassy_stm32::can`, and whether the profile checks integer overflow. -/
structure Platform where
  standardId : UInt16 → Option StandardId
  extendedId : UInt32 → Option ExtendedId
  newData : Id → List UInt8 → Except FrameCreateError Frame
  newRemote : Id → Nat → Except FrameCreateError Frame
  overflowChecks : Bool

structure Platform.Documented (platform : Platform) : Prop where
  standardId : ∀ raw, (platform.standardId raw).map StandardId.raw =
    if raw ≤ 0x7FF then some raw else none
  extendedId : ∀ raw, (platform.extendedId raw).map ExtendedId.raw =
    if raw ≤ 0x1FFFFFFF then some raw else none
  newData : ∀ id data, data.length ≤ 8 → ∃ frame, platform.newData id data = .ok frame ∧
    frame.id = id ∧ frame.isRemote = false ∧ frame.data = data
  newRemote : ∀ id len, len ≤ 8 → ∃ frame, platform.newRemote id len = .ok frame ∧
    frame.id = id ∧ frame.isRemote = true ∧ frame.len = len

/-- The constructors as the crate documents them, for evaluation. -/
def Platform.embassy (overflowChecks : Bool) : Platform where
  standardId raw := if inRange : raw ≤ 0x7FF then some ⟨raw, inRange⟩ else none
  extendedId raw := if inRange : raw ≤ 0x1FFFFFFF then some ⟨raw, inRange⟩ else none
  newData id data :=
    if bounded : data.length ≤ 8 then
      .ok ⟨id, false, data.length, ⟨(data ++ List.replicate (8 - data.length) 0).toArray,
        by simp; omega⟩, bounded⟩
    else .error .invalidDataLength
  newRemote id len :=
    if bounded : len ≤ 8 then .ok ⟨id, true, len, Vector.replicate 8 0, bounded⟩
    else .error .invalidDataLength
  overflowChecks := overflowChecks

theorem embassy_documented (overflowChecks : Bool) :
    (Platform.embassy overflowChecks).Documented where
  standardId raw := by
    by_cases inRange : raw ≤ 0x7FF <;> simp [Platform.embassy, inRange]
  extendedId raw := by
    by_cases inRange : raw ≤ 0x1FFFFFFF <;> simp [Platform.embassy, inRange]
  newData id data bounded := by
    simp only [Platform.embassy, bounded, ↓reduceDIte]
    exact ⟨_, rfl, rfl, rfl, by simp [Frame.data, Vector.toList]⟩
  newRemote id len bounded := by
    simp only [Platform.embassy, bounded, ↓reduceDIte]
    exact ⟨_, rfl, rfl, rfl, rfl⟩

-- `a + b` on `u32`: a panic (`none`) under overflow checks, wrapping without.
def Platform.addU32 (platform : Platform) (left right : UInt32) : Option UInt32 :=
  if platform.overflowChecks ∧ 2 ^ 32 ≤ left.toNat + right.toNat then none
  else some (left + right)

-- `NonZero::new(x)`; the caller's `unwrap` panics on `none`.
def nonZeroU8 (value : UInt8) : Option { value : UInt8 // value ≠ 0 } :=
  if nonZero : value ≠ 0 then some ⟨value, nonZero⟩ else none

def nonZeroU16 (value : UInt16) : Option { value : UInt16 // value ≠ 0 } :=
  if nonZero : value ≠ 0 then some ⟨value, nonZero⟩ else none

structure NominalBitTiming where
  syncJumpWidth : { value : UInt8 // value ≠ 0 }
  seg1 : { value : UInt8 // value ≠ 0 }
  seg2 : { value : UInt8 // value ≠ 0 }
  prescaler : { value : UInt16 // value ≠ 0 }
  deriving DecidableEq

structure CanConfig where
  silent : Bool
  loopback : Bool
  automaticRetransmit : Bool
  bitTiming : Option NominalBitTiming
  deriving DecidableEq

/-- What the crate has been handed. A mailbox holds a frame with the number of the
`transmit` call that stored it; the number is a history variable. -/
structure Can where
  config : CanConfig
  acceptAll : Bool
  asleep : Bool
  mailboxes : List (Nat × Frame)

-- The frame at a place that `write` names, and those it leaves.
def takenOut {α : Type} (held : List α) (place : Option Nat) : List α :=
  (place.bind (held[·]?)).toList

def remaining {α : Type} (held : List α) : Option Nat → List α
  | none => held
  | some index => held.eraseIdx index

section TakenOut
variable {α β : Type} (held : List α) (place : Option Nat)

theorem taken_out_perm : (takenOut held place ++ remaining held place).Perm held := by
  cases place with
  | none => exact List.Perm.refl held
  | some index =>
      rcases Nat.lt_or_ge index held.length with present | absent
      · simp only [takenOut, remaining, Option.bind_some, List.getElem?_eq_getElem present]
        exact List.getElem_cons_eraseIdx_perm present
      · simp only [takenOut, remaining, Option.bind_some, List.getElem?_eq_none absent,
          List.eraseIdx_of_length_le absent]
        exact List.Perm.refl held

theorem remaining_sublist : (remaining held place).Sublist held := by
  cases place with
  | none => exact List.Sublist.refl held
  | some index => exact List.eraseIdx_sublist held index

theorem taken_out_subset : takenOut held place ⊆ held := by
  intro value removed
  exact (taken_out_perm held place).subset (List.mem_append_left _ removed)

theorem remaining_not_taken_out (distinct : held.Nodup) (value : α)
    (kept : value ∈ remaining held place) : value ∉ takenOut held place := by
  intro removed
  have apart := (taken_out_perm held place).nodup_iff.mpr distinct
  exact (List.nodup_append.mp apart).2.2 value removed value kept rfl

theorem map_remaining (view : α → β) :
    (remaining held place).map view = remaining (held.map view) place := by
  cases place with
  | none => rfl
  | some index => exact (List.eraseIdx_map view held index).symm

end TakenOut

namespace Can

-- After `Can::new`, whatever the reset values of the configuration are.
def new (config : CanConfig) : Can :=
  { config, acceptAll := false, asleep := true, mailboxes := [] }

def modifyConfig (can : Can) (change : CanConfig → CanConfig) : Can :=
  { can with config := change can.config, asleep := true }

def enable (can : Can) : Can := { can with asleep := false }

-- `start` and `stop` up to their `enable().await`.
def start (can : Can) (loopback listenOnly oneShot : Bool) : Can :=
  { can with acceptAll := true }.modifyConfig fun config =>
    { config with silent := listenOnly, loopback, automaticRetransmit := !oneShot }

def stop (can : Can) : Can := can.modifyConfig fun config => { config with silent := true }

def nominalBitTiming (platform : Platform) (timing : GsDeviceBitTiming) :
    Option NominalBitTiming := do
  let syncJumpWidth ← nonZeroU8 (max timing.sjw.toUInt8 1)
  let seg1 ← nonZeroU8 (max (← platform.addU32 timing.propSeg timing.phaseSeg1).toUInt8 1)
  let seg2 ← nonZeroU8 (max timing.phaseSeg2.toUInt8 1)
  let prescaler ← nonZeroU16 (max timing.brp.toUInt16 1)
  return { syncJumpWidth, seg1, seg2, prescaler }

-- `none` is a panic.
def setBitTiming (platform : Platform) (can : Can) (timing : GsDeviceBitTiming) : Option Can := do
  let bt ← nominalBitTiming platform timing
  return can.modifyConfig fun config => { config with bitTiming := some bt }

-- `transmit` up to `self.can.write(&frame)`: the frame it builds.
def transmitFrame (platform : Platform) (id : UInt32) (isExtended isRtr : Bool)
    (data : List UInt8) : Except FrameCreateError Frame := do
  let canId ←
    if isExtended then
      match platform.extendedId id with
      | some eid => .ok (Id.extended eid)
      | none => .error .invalidCanId
    else
      match platform.standardId id.toUInt16 with
      | some sid => .ok (Id.standard sid)
      | none => .error .invalidCanId
  if isRtr then platform.newRemote canId data.length else platform.newData canId data

/-- `write` stores a frame; `dequeued` is the place of the one it took out of full mailboxes
for it, which its `TransmitStatus` names. -/
def store (can : Can) (serial : Nat) (frame : Frame) (dequeued : Option Nat) : Can :=
  { can with mailboxes := remaining can.mailboxes dequeued ++ [(serial, frame)] }

-- The timeout arm: `abort` of Mailbox0, Mailbox1 and Mailbox2.
def abortMailboxes (can : Can) : Can := { can with mailboxes := [] }

-- Whether a frame can leave its mailbox: a silent peripheral only sends to itself.
def transmits (can : Can) : Bool :=
  !can.asleep && (!can.config.silent || can.config.loopback)

def sent (can : Can) (index : Nat) : Can := { can with mailboxes := can.mailboxes.eraseIdx index }

end Can
end NginLink.BspCan
