import DeviceControl.Host.Support
import DeviceControl.Spi.Write

/-!
# The frames of the SPI builder

`control_build_spi_data` fills an array of `SPI_TRANSACTION_MAX_BYTES`, 256 bytes, and the device
takes payloads of up to `SPI_DATA_MAX_BYTES`, 253. The builder compares the length of the payload
with the size of the array, which has to hold a header of three bytes as well.

`spi_builder_iff` is the exact condition under which a frame that is not refused fits the array,
says its length and is dispatched. A write of 254 bytes or more is stored past the end of the array,
and the length 256 of a read does not go into a byte.
-/

namespace DeviceControl

variable {σ : Type}

/-! ### What a frame is for -/

/-- The frame that the builder makes is inside of its array, has the length in its third byte, and,
if it is a write to a user task, is dispatched to it. -/
structure SpiFrameSound (tasks : UserTasks σ) (d : Device σ)
    (data : Buffer UInt8 spiTransactionMaxBytes) (resid : ControlResid) (cmd : ControlCmd)
    (payload : List UInt8) : Prop where
  inside : ∀ i ∈ (controlBuildSpiData data resid cmd (some payload) payload.length).2.stores,
    i < spiTransactionMaxBytes
  lengthByte : (controlBuildSpiData data resid cmd (some payload) payload.length).2.buffer[2].toNat
    = payload.length
  /-- However the master has bytes required in between. -/
  dispatched : isControlCmdRead cmd = false → resid ≠ controlSpecialResid →
    ∀ ifnum, resourceTableSearch d.table resid = some ifnum → ∀ items : List SpiItem,
      suppliedBytes items
          = sent (controlBuildSpiData data resid cmd (some payload) payload.length) →
        userRequests ((spiSystem tasks).trace d (spiTransaction items))
          = [writeRequest ifnum resid cmd payload]

/-- The condition: a write is no longer than the payload that the device takes, and a read no longer
than a byte can say. What is longer than the array is refused. -/
def SpiLengthFits (cmd : ControlCmd) (n : ℕ) : Prop :=
  n ≤ (if isControlCmdRead cmd then 255 else spiDataMaxBytes) ∨ spiTransactionMaxBytes < n

section Frames

variable {tasks : UserTasks σ} {d : Device σ} {data : Buffer UInt8 spiTransactionMaxBytes}
  {resid : ControlResid} {cmd : ControlCmd} {payload : List UInt8}

/-- The header and the padding are inside of the array, so it is the payload of a write that has to
be looked at. -/
theorem stores_buildSpi_inside_iff (h_len : payload.length ≤ spiTransactionMaxBytes) :
    (∀ i ∈ (controlBuildSpiData data resid cmd (some payload) payload.length).2.stores,
        i < spiTransactionMaxBytes) ↔
      (isControlCmdRead cmd = false → payload.length ≤ spiDataMaxBytes) := by
  have h_padded : ∀ i ∈ ((storeHeader (.start data) resid cmd (UInt8.ofNat payload.length)).copy 3
      (List.replicate 5 0)).stores, i < spiTransactionMaxBytes := by
    rw [Filling.stores_copy, stores_storeHeader, Filling.stores_start, List.nil_append]
    decide
  rw [controlBuildSpiData, if_neg (Nat.not_lt.mpr h_len)]
  cases isControlCmdRead cmd with
  | true => exact iff_of_true h_padded fun h_write => absurd h_write Bool.noConfusion
  | false =>
    dsimp only
    rw [List.take_length, forall_prop_of_true rfl]
    by_cases h_nil : payload = []
    · rw [h_nil, Filling.copy, ← h_nil]
      exact iff_of_true h_padded (h_nil ▸ Nat.zero_le _)
    · rw [Filling.forall_mem_stores_copy_iff _ _ _ h_nil, and_iff_right h_padded]
      change 3 + payload.length ≤ 256 ↔ payload.length ≤ 253
      omega

theorem lengthByte_buildSpi (h_len : payload.length ≤ spiTransactionMaxBytes) :
    (controlBuildSpiData data resid cmd (some payload) payload.length).2.buffer[2]
      = UInt8.ofNat payload.length := by
  set built := controlBuildSpiData data resid cmd (some payload) payload.length
  have h_get : (built.2.buffer.front 3)[2]? = some (UInt8.ofNat payload.length) := by
    rw [front_buildSpi data _ h_len]
    rfl
  rw [Buffer.getElem?_front _ (by decide), Vector.getElem?_eq_getElem (by decide)] at h_get
  exact Option.some.inj h_get

/-- A write that fits is dispatched. -/
theorem dispatched_buildSpi (h_zero : d.spi = Spi.zero) (h_write : isControlCmdRead cmd = false)
    (h_ne : resid ≠ controlSpecialResid) (h_len : payload.length ≤ spiDataMaxBytes) {ifnum : UInt8}
    (hr : resourceTableSearch d.table resid = some ifnum) {items : List SpiItem}
    (h_items : suppliedBytes items
      = sent (controlBuildSpiData data resid cmd (some payload) payload.length)) :
    userRequests ((spiSystem tasks).trace d (spiTransaction items))
      = [writeRequest ifnum resid cmd payload] := by
  rw [sent_buildSpi_write data h_write h_len] at h_items
  have h_frame : CompleteFrame d.table (suppliedBytes items) ifnum resid cmd payload :=
    ⟨⟨_, toNat_ofNat_of_le h_len, h_items⟩, h_len, hr, h_write⟩
  exact userRequests_complete tasks h_zero h_frame h_ne

end Frames

/-- **The SPI builder.** From every reachable state in which SPI is idle, for every command with a
payload, whatever the array held before: a frame that is not refused is sound exactly if the length
fits. -/
theorem spi_builder_iff {tasks : UserTasks σ} {answers : List (List ControlResid)} {d : Device σ}
    (h_reach : Reachable tasks answers d) (h_idle : d.spi.state = .idle)
    (data : Buffer UInt8 spiTransactionMaxBytes) (resid : ControlResid) (cmd : ControlCmd)
    (payload : List UInt8) :
    ((controlBuildSpiData data resid cmd (some payload) payload.length).1 ≠ 0 →
        SpiFrameSound tasks d data resid cmd payload) ↔
      SpiLengthFits cmd payload.length := by
  have h_zero := h_reach.spi_zero_of_idle h_idle
  rw [ne_eq, buildSpi_eq_zero_iff, SpiLengthFits]
  by_cases h_long : spiTransactionMaxBytes < payload.length
  · exact iff_of_true (fun h_not => absurd h_long h_not) (Or.inr h_long)
  rw [forall_prop_of_true h_long, or_iff_left h_long]
  have h_len := Nat.not_lt.mp h_long
  constructor
  · intro h
    have h_inside := (stores_buildSpi_inside_iff h_len).mp h.inside
    cases h_dir : isControlCmdRead cmd with
    | false => exact h_inside h_dir
    | true =>
      -- the byte says the length up to 255
      have h_byte := h.lengthByte
      rw [lengthByte_buildSpi h_len, UInt8.toNat_ofNat'] at h_byte
      change payload.length ≤ 255
      omega
  · intro h
    have h_short : payload.length ≤ 255 := by
      refine h.trans ?_
      split <;> decide
    refine ⟨(stores_buildSpi_inside_iff h_len).mpr fun h_write => ?_, ?_, ?_⟩
    · rwa [h_write] at h
    · rw [lengthByte_buildSpi h_len]
      exact UInt8.toNat_ofNat_of_lt (Nat.lt_of_le_of_lt h_short (by decide))
    · intro h_write h_ne ifnum hr items h_items
      rw [h_write] at h
      exact dispatched_buildSpi h_zero h_write h_ne h hr h_items

/-- A write of two bytes. -/
theorem spi_builder_iff_run :
    let data : Buffer UInt8 spiTransactionMaxBytes := Vector.replicate _ 0
    let frame := controlBuildSpiData data 3 5 (some [42, 43]) 2
    sent frame = [3, 5, 2, 42, 43] ∧
      SpiFrameSound (.always 7 []) (boot [[3]] ()) data 3 5 [42, 43] := by
  intro data frame
  refine ⟨by decide +kernel, ?_⟩
  exact (spi_builder_iff (reachable_boot [[3]] ()) rfl data 3 5 [42, 43]).mpr (Or.inl (by decide))
    (by decide +kernel)

/-- The last byte of a write of 254 bytes is stored behind the array. -/
theorem spi_builder_overrun :
    let data : Buffer UInt8 spiTransactionMaxBytes := Vector.replicate _ 0
    let payload : List UInt8 := List.replicate 254 7
    (controlBuildSpiData data 3 5 (some payload) payload.length).1 = 257 ∧
      256 ∈ (controlBuildSpiData data 3 5 (some payload) payload.length).2.stores ∧
      ¬ SpiFrameSound (.always 7 []) (boot [[3]] ()) data 3 5 payload := by
  intro data payload
  have h_mem : 256 ∈ (controlBuildSpiData data 3 5 (some payload) payload.length).2.stores := by
    decide +kernel
  refine ⟨by decide +kernel, h_mem, fun h => ?_⟩
  exact absurd (h.inside _ h_mem) (by decide)

end DeviceControl
