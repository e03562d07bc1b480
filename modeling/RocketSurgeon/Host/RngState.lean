import RocketSurgeon.Lib.Result
import RocketSurgeon.Lib.Slices

/-!
# The generators' states in a checkpoint

`capture_rng_state` writes the number of devices and then a record for each:
its index, the length of its generator's state and the state itself.
`restore_rng_state` reads the records back, with an offset that it moves
along, and hands each state to torch.
-/

namespace RocketSurgeon.Host

open Lib List

inductive PyError
  /-- A value that does not fit its format, or too few bytes to read. -/
  | struct
  | torch (message : String)

/-- `struct.pack("<I", value)`. -/
def packU32 (value : ℕ) : Except PyError (List UInt8) :=
  if value < 2 ^ 32 then .ok (leBytes 4 value) else .error .struct

/-- What the loop over the devices appends for one. -/
def packDevice (device : List UInt8 × ℕ) : Except PyError (List UInt8) := do
  let i ← packU32 device.2
  let length ← packU32 device.1.length
  return i ++ (length ++ device.1)

/-- The states of the devices' generators, where CUDA is available. -/
def captureRngState (available : Bool) (states : List (List UInt8)) :
    Except PyError (List UInt8) :=
  if available then do
    let count ← packU32 states.length
    let parts ← states.zipIdx.mapM packDevice
    return (count :: parts).flatten
  else packU32 0

section Restore

/- What torch does with the bytes of a device: it makes a tensor of them and sets the generator's
state, and either may raise. -/
variable {σ : Type} (setRngState : List UInt8 → ℕ → StateT σ (Except PyError) Unit)
  (state : List UInt8)

/-- The 32-bit value that `struct.unpack_from` reads at an offset. -/
def u32At (offset : ℕ) : ℕ := leNat ((state.drop offset).take 4)

/-- The loop over the devices; the result is the offset at its end. -/
def restoreDevices : ℕ → ℕ → StateT σ (Except PyError) ℕ
  | 0, offset => pure offset
  | remaining + 1, offset =>
      if state.length < offset + 8 then throw .struct
      else do
        let length := u32At state (offset + 4)
        -- A slice past the end of the bytes is short, and does not raise.
        setRngState ((state.drop (offset + 8)).take length) (u32At state offset)
        restoreDevices remaining (offset + 8 + length)

def restoreRngState : StateT σ (Except PyError) ℕ :=
  if state.length < 4 then throw .struct
  else restoreDevices setRngState state (u32At state 0) 4

end Restore

section RoundTrip

variable {σ : Type} {setRngState : List UInt8 → ℕ → StateT σ (Except PyError) Unit}

def record (device : List UInt8 × ℕ) : List UInt8 :=
  leBytes 4 device.2 ++ (leBytes 4 device.1.length ++ device.1)

def Packable (device : List UInt8 × ℕ) : Prop := device.2 < 2 ^ 32 ∧ device.1.length < 2 ^ 32

lemma packDevice_eq_ok_iff (device : List UInt8 × ℕ) (bytes : List UInt8) :
    packDevice device = .ok bytes ↔ Packable device ∧ bytes = record device := by
  unfold packDevice packU32 Packable
  by_cases hi : device.2 < 2 ^ 32
  · by_cases hlen : device.1.length < 2 ^ 32
    · rw [if_pos hi, if_pos hlen, and_iff_right ⟨hi, hlen⟩, @eq_comm _ bytes]
      exact ⟨Except.ok.inj, congrArg Except.ok⟩
    · rw [if_pos hi, if_neg hlen]
      exact iff_of_false nofun fun hpackable => hlen hpackable.1.2
  · rw [if_neg hi]
    exact iff_of_false nofun fun hpackable => hi hpackable.1.1

lemma u32At_append (hvalue : value < 2 ^ 32) (hstart : before.length = start)
    (rest : List UInt8) : u32At (before ++ (leBytes 4 value ++ rest)) start = value := by
  rw [u32At, take_drop_append hstart (length_leBytes 4 value), leNat_leBytes (by omega)]

lemma restoreDevices_records {devices : List (List UInt8 × ℕ)}
    (hdevices : ∀ device ∈ devices, Packable device) {before : List UInt8}
    (hstate : state = before ++ (devices.flatMap record ++ rest)) :
    restoreDevices setRngState state devices.length before.length =
      (forM devices fun device => setRngState device.1 device.2) >>= fun _ =>
        pure (before ++ devices.flatMap record).length := by
  induction devices generalizing before with
  | nil => simp [restoreDevices]
  | cons device others ih =>
    obtain ⟨hdevice, hothers⟩ := forall_mem_cons.mp hdevices
    have hnext : state = before ++ (leBytes 4 device.2 ++ (leBytes 4 device.1.length ++
        (device.1 ++ (others.flatMap record ++ rest)))) := by
      simp only [hstate, flatMap_cons, record, append_assoc]
    have hid : u32At state before.length = device.2 := by
      rw [hnext]
      exact u32At_append hdevice.1 rfl _
    have hlen : u32At state (before.length + 4) = device.1.length := by
      have hstart : (before ++ leBytes 4 device.2).length = before.length + 4 := by simp
      rw [hnext, ← append_assoc before]
      exact u32At_append hdevice.2 hstart _
    have hbytes : (state.drop (before.length + 8)).take device.1.length = device.1 := by
      have hstart : (before ++ leBytes 4 device.2 ++ leBytes 4 device.1.length).length =
          before.length + 8 := by simp
      rw [hnext, ← append_assoc before, ← append_assoc _ (leBytes 4 device.1.length)]
      exact take_drop_append hstart rfl
    have hroom : ¬ state.length < before.length + 8 := by
      rw [hnext]
      simp
      omega
    rw [length_cons, restoreDevices, if_neg hroom, hid, hlen]
    dsimp only
    rw [hbytes, forM_cons, bind_assoc]
    refine bind_congr fun _ => ?_
    have hoffset : before.length + 8 + device.1.length = (before ++ record device).length := by
      simp [record]
      omega
    rw [hoffset, ih hothers (by rw [hstate, flatMap_cons, append_assoc, append_assoc]),
      flatMap_cons, append_assoc]

/-- Restoring the captured states sets every device's generator, in the order of the devices, to
the bytes that were taken from it, and reads no byte behind the encoding. -/
theorem restoreRngState_captureRngState (states : List (List UInt8))
    (hcount : states.length < 2 ^ 32) (hlengths : ∀ rngBytes ∈ states, rngBytes.length < 2 ^ 32) :
    ∃ bytes, captureRngState true states = .ok bytes ∧ ∀ (σ : Type)
      (setRngState : List UInt8 → ℕ → StateT σ (Except PyError) Unit) (rest : List UInt8),
      restoreRngState setRngState (bytes ++ rest) = do
        forM states.zipIdx fun device => setRngState device.1 device.2
        return bytes.length := by
  have hpackable : ∀ device ∈ states.zipIdx, Packable device := by
    intro device hdevice
    obtain ⟨-, hindex, hbytes⟩ := mem_zipIdx hdevice
    exact ⟨by omega, hlengths _ (hbytes ▸ getElem_mem _)⟩
  have hcapture : captureRngState true states =
      .ok (leBytes 4 states.length ++ states.zipIdx.flatMap record) := by
    rw [captureRngState, if_pos rfl, packU32, if_pos hcount,
      (mapM_eq_ok_iff packDevice_eq_ok_iff _ _).mpr ⟨hpackable, rfl⟩]
    rfl
  refine ⟨_, hcapture, fun σ setRngState rest => ?_⟩
  have hread : u32At (leBytes 4 states.length ++ states.zipIdx.flatMap record ++ rest) 0 =
      states.zipIdx.length := by
    rw [append_assoc, length_zipIdx]
    exact u32At_append hcount (rfl : [].length = 0) _
  rw [restoreRngState, if_neg (by simp), hread]
  exact restoreDevices_records hpackable (append_assoc ..)

theorem restoreRngState_two_devices :
    ∃ bytes, captureRngState true [[7, 1], []] = .ok bytes ∧ ∀ (σ : Type)
      (setRngState : List UInt8 → ℕ → StateT σ (Except PyError) Unit) (rest : List UInt8),
      restoreRngState setRngState (bytes ++ rest) = do
        forM [([7, 1], 0), ([], 1)] fun device => setRngState device.1 device.2
        return bytes.length :=
  restoreRngState_captureRngState [[7, 1], []] (by decide) (by decide)

end RoundTrip

end RocketSurgeon.Host
