import DeviceControl.Host.ReadStatus
import DeviceControl.Host.SpiBuilder

/-!
# Writes without a payload pointer

The builders take a payload pointer that is null, and then build the header of a write and no more.
Over I2C the device waits for the payload and gives up at the stop, unless the length is 0. Over SPI
the builder goes the way of a read, which pads the header with five zeroes, and the device takes the
padding for a payload.

`null_payload_iff` says for which lengths that makes no difference: the length 0, where there is
nothing to wait for, loses its write to the padding, and the length 5 is made complete by it.
-/

namespace DeviceControl

variable {σ : Type}

/-! ### What such a frame may ask -/

/-- A user task is called for a write exactly if the frame declares no payload, and then with
none. -/
structure WritesOnlyEmpty (ifnum resid cmd : UInt8) (n : ℕ) (requests : List UserRequest) :
    Prop where
  called_iff : (∃ q ∈ requests, q.method = .write) ↔ n = 0
  empty : ∀ q ∈ requests, q = writeRequest ifnum resid cmd []

/-- What the device sees of an I2C frame. -/
def i2cFrameCallbacks (bytes : List UInt8) : List I2cCallback := i2cWriteTransfer bytes ++ [.stop]

/-- The frames that the builders make of a null payload are harmless, and the two transports agree
about them. -/
structure NullPayloadSound (tasks : UserTasks σ) (d : Device σ) {k : ℕ}
    (i2cData : Buffer UInt8 (i2cTransactionMaxBytes + k))
    (spiData : Buffer UInt8 spiTransactionMaxBytes) (ifnum : UInt8) (resid : ControlResid)
    (cmd : ControlCmd) (n : ℕ) : Prop where
  i2c : (controlBuildI2cData i2cData resid cmd none n).1 ≠ 0 →
    WritesOnlyEmpty ifnum resid cmd n (userRequests ((i2cSystem tasks).trace d
      (i2cFrameCallbacks (sent (controlBuildI2cData i2cData resid cmd none n)))))
  spi : (controlBuildSpiData spiData resid cmd none n).1 ≠ 0 → ∀ items : List SpiItem,
    suppliedBytes items = sent (controlBuildSpiData spiData resid cmd none n) →
      WritesOnlyEmpty ifnum resid cmd n
        (userRequests ((spiSystem tasks).trace d (spiTransaction items)))
  agree : (controlBuildI2cData i2cData resid cmd none n).1 ≠ 0 →
    (controlBuildSpiData spiData resid cmd none n).1 ≠ 0 → ∀ items : List SpiItem,
      suppliedBytes items = sent (controlBuildSpiData spiData resid cmd none n) →
        userRequests ((i2cSystem tasks).trace d
            (i2cFrameCallbacks (sent (controlBuildI2cData i2cData resid cmd none n))))
          = userRequests ((spiSystem tasks).trace d (spiTransaction items))

/-- Nobody is called for a length that is not 0. -/
theorem writesOnlyEmpty_nil {ifnum resid cmd : UInt8} {n : ℕ} (h : n ≠ 0) :
    WritesOnlyEmpty ifnum resid cmd n [] where
  called_iff := iff_of_false (fun ⟨_, h_mem, _⟩ => absurd h_mem List.not_mem_nil) h
  empty := fun _ h_mem => absurd h_mem List.not_mem_nil

/-! ### I2C -/

section I2c

variable {tasks : UserTasks σ} {d : Device σ} {ifnum resid : UInt8} {cmd : ControlCmd} {n : ℕ}

/-- The header of a write is dispatched if it declares no payload, and is dropped otherwise. -/
theorem userRequests_i2cHeader (hr : resourceTableSearch d.table resid = some ifnum)
    (h_ne : resid ≠ controlSpecialResid) (h_write : isControlCmdRead cmd = false)
    (h_len : n ≤ i2cDataMaxBytes) :
    userRequests ((i2cSystem tasks).trace d (i2cFrameCallbacks [resid, cmd, UInt8.ofNat n]))
      = if n = 0 then [writeRequest ifnum resid cmd []] else [] := by
  have h_nat : (UInt8.ofNat n).toNat = n := toNat_ofNat_of_le h_len
  have h_frame : i2cFrameCallbacks [resid, cmd, UInt8.ofNat n]
      = headerCallbacks resid cmd (UInt8.ofNat n) ++ [.stop] := rfl
  -- a stop calls nobody
  have h_stop : userRequests [(I2cCallback.stop, ((i2cSystem tasks).step
      ((i2cSystem tasks).run d (headerCallbacks resid cmd (UInt8.ofNat n))) .stop).2)] = [] := rfl
  rw [h_frame, Transducer.trace_concat, userRequests_append, h_stop, List.append_nil]
  by_cases h_zero : n = 0
  · subst h_zero
    have h_none : (0 : UInt8).toNat = ([] : List UInt8).length := rfl
    obtain ⟨entries, last, h_trace, h_quiet, h_del⟩ :=
      trace_writeFrame tasks d hr h_ne h_write h_none (Nat.zero_le _)
    rw [writeFrame_nil] at h_trace
    rw [if_pos rfl]
    change userRequests ((i2cSystem tasks).trace d (headerCallbacks resid cmd 0)) = _
    rw [h_trace, userRequests_concat fun p hp => (h_quiet p hp).calls, h_del.calls]
    rfl
  · obtain ⟨-, h_quiet⟩ :=
      trace_header tasks d (c := cmd) hr (h_nat.trans_le h_len) (by rwa [h_nat])
    rw [if_neg h_zero, userRequests_eq_nil fun p hp => (h_quiet p hp).calls]

/-- So is the frame that the builder makes of a null payload. -/
theorem userRequests_i2cNull {k : ℕ} (i2cData : Buffer UInt8 (i2cTransactionMaxBytes + k))
    (hr : resourceTableSearch d.table resid = some ifnum) (h_ne : resid ≠ controlSpecialResid)
    (h_write : isControlCmdRead cmd = false)
    (h_built : (controlBuildI2cData i2cData resid cmd none n).1 ≠ 0) :
    userRequests ((i2cSystem tasks).trace d
        (i2cFrameCallbacks (sent (controlBuildI2cData i2cData resid cmd none n))))
      = if n = 0 then [writeRequest ifnum resid cmd []] else [] := by
  have h_len : n ≤ i2cDataMaxBytes := Nat.not_lt.mp (mt buildI2c_eq_zero_iff.mpr h_built)
  have h_room : 3 ≤ i2cTransactionMaxBytes + k := Nat.le_add_right_of_le (by decide)
  rw [sent_buildI2c_header i2cData (Or.inr rfl) h_len h_room]
  exact userRequests_i2cHeader hr h_ne h_write h_len

end I2c

/-! ### SPI -/

section Spi

variable {tasks : UserTasks σ} {d : Device σ} {ifnum resid : UInt8} {cmd : ControlCmd} {n : ℕ}
  {items : List SpiItem}

/-- The header of a write with its padding is a complete frame only for the length 5. -/
theorem completeFrame_padded {t : ResourceTable} {ifnum' r c : UInt8} {ps : List UInt8}
    (h_len : n ≤ spiTransactionMaxBytes)
    (h : CompleteFrame t [resid, cmd, UInt8.ofNat n, 0, 0, 0, 0, 0] ifnum' r c ps) : n = 5 := by
  obtain ⟨m, h_m, h_bytes⟩ := h.bytes
  obtain ⟨-, h_bytes⟩ := List.cons.inj h_bytes
  obtain ⟨-, h_bytes⟩ := List.cons.inj h_bytes
  obtain ⟨rfl, rfl⟩ := List.cons.inj h_bytes
  rw [UInt8.toNat_ofNat'] at h_m
  change n % 256 = 5 at h_m
  change n ≤ 256 at h_len
  omega

/-- The header of a write with its padding is dispatched for the length 5, with the padding as the
payload, and dropped otherwise. -/
theorem userRequests_padded (h_zero : d.spi = Spi.zero)
    (hr : resourceTableSearch d.table resid = some ifnum) (h_ne : resid ≠ controlSpecialResid)
    (h_write : isControlCmdRead cmd = false) (h_len : n ≤ spiTransactionMaxBytes)
    (h_items : suppliedBytes items = [resid, cmd, UInt8.ofNat n, 0, 0, 0, 0, 0]) :
    userRequests ((spiSystem tasks).trace d (spiTransaction items))
      = if n = 5 then [writeRequest ifnum resid cmd (List.replicate 5 0)] else [] := by
  by_cases h_five : n = 5
  · subst h_five
    rw [if_pos rfl]
    refine userRequests_complete tasks h_zero ?_ h_ne
    exact ⟨⟨5, rfl, h_items⟩, by decide, hr, h_write⟩
  · rw [if_neg h_five]
    refine userRequests_incomplete tasks h_zero (noReadPerformed_of_write h_items h_write) ?_
    intro ifnum' r c ps h_frame
    rw [h_items] at h_frame
    exact h_five (completeFrame_padded h_len h_frame)

/-- So is the frame that the builder makes of a null payload. -/
theorem userRequests_spiNull (spiData : Buffer UInt8 spiTransactionMaxBytes)
    (h_zero : d.spi = Spi.zero) (hr : resourceTableSearch d.table resid = some ifnum)
    (h_ne : resid ≠ controlSpecialResid) (h_write : isControlCmdRead cmd = false)
    (h_built : (controlBuildSpiData spiData resid cmd none n).1 ≠ 0)
    (h_items : suppliedBytes items = sent (controlBuildSpiData spiData resid cmd none n)) :
    userRequests ((spiSystem tasks).trace d (spiTransaction items))
      = if n = 5 then [writeRequest ifnum resid cmd (List.replicate 5 0)] else [] := by
  have h_len : n ≤ spiTransactionMaxBytes := Nat.not_lt.mp (mt buildSpi_eq_zero_iff.mpr h_built)
  rw [sent_buildSpi_header spiData (Or.inr rfl) h_len] at h_items
  exact userRequests_padded h_zero hr h_ne h_write h_len h_items

/-- What the padding makes of the lengths 0 and 5 is wrong: the one is not dispatched, and the other
has a payload. -/
theorem ne_of_padded_sound
    (h : WritesOnlyEmpty ifnum resid cmd n
      (if n = 5 then [writeRequest ifnum resid cmd (List.replicate 5 0)] else [])) :
    n ≠ 0 ∧ n ≠ 5 := by
  constructor
  · rintro rfl
    obtain ⟨q, h_mem, -⟩ := h.called_iff.mpr rfl
    cases h_mem
  · rintro rfl
    have h_eq := h.empty _ List.mem_cons_self
    have h_payload := congrArg UserRequest.payload h_eq
    cases h_payload

end Spi

/-! ### Both -/

/-- **Null payloads.** At every reachable device that is idle on SPI, in whatever state it is on
I2C, the frames of a write without a payload pointer are sound exactly if they declare neither 0
bytes nor 5. -/
theorem null_payload_iff {tasks : UserTasks σ} {answers : List (List ControlResid)} {d : Device σ}
    (h_reach : Reachable tasks answers d) (h_idle : d.spi.state = .idle) {k : ℕ}
    (i2cData : Buffer UInt8 (i2cTransactionMaxBytes + k))
    (spiData : Buffer UInt8 spiTransactionMaxBytes) {ifnum : UInt8} {resid : ControlResid}
    {cmd : ControlCmd} (h_reg : resourceTableSearch (registeredTable answers) resid = some ifnum)
    (h_ne : resid ≠ controlSpecialResid) (h_write : isControlCmdRead cmd = false) (n : ℕ) :
    NullPayloadSound tasks d i2cData spiData ifnum resid cmd n ↔ n ≠ 0 ∧ n ≠ 5 := by
  have hr : resourceTableSearch d.table resid = some ifnum := by rw [h_reach.table]; exact h_reg
  have h_zero := h_reach.spi_zero_of_idle h_idle
  constructor
  · intro h
    -- a length that SPI refuses is neither of the two
    by_cases h_built : (controlBuildSpiData spiData resid cmd none n).1 = 0
    · have h_long := buildSpi_eq_zero_iff.mp h_built
      exact ⟨Nat.ne_zero_of_lt h_long, (Nat.lt_trans (by decide) h_long).ne'⟩
    · set frame := sent (controlBuildSpiData spiData resid cmd none n)
      have h_items : suppliedBytes (exchange true frame) = frame := suppliedBytes_exchange ..
      have h_sound := h.spi h_built (exchange true frame) h_items
      rw [userRequests_spiNull spiData h_zero hr h_ne h_write h_built h_items] at h_sound
      exact ne_of_padded_sound h_sound
  · rintro ⟨h_ne_zero, h_ne_five⟩
    -- nobody is called over either transport
    have h_i2c_nil (h_built : (controlBuildI2cData i2cData resid cmd none n).1 ≠ 0) :
        userRequests ((i2cSystem tasks).trace d
          (i2cFrameCallbacks (sent (controlBuildI2cData i2cData resid cmd none n)))) = [] := by
      rw [userRequests_i2cNull i2cData hr h_ne h_write h_built, if_neg h_ne_zero]
    have h_spi_nil (h_built : (controlBuildSpiData spiData resid cmd none n).1 ≠ 0)
        (items : List SpiItem)
        (h_items : suppliedBytes items = sent (controlBuildSpiData spiData resid cmd none n)) :
        userRequests ((spiSystem tasks).trace d (spiTransaction items)) = [] := by
      rw [userRequests_spiNull spiData h_zero hr h_ne h_write h_built h_items, if_neg h_ne_five]
    constructor
    case i2c =>
      intro h_built
      rw [h_i2c_nil h_built]
      exact writesOnlyEmpty_nil h_ne_zero
    case spi =>
      intro h_built items h_items
      rw [h_spi_nil h_built items h_items]
      exact writesOnlyEmpty_nil h_ne_zero
    case agree =>
      intro h_built h_built' items h_items
      rw [h_i2c_nil h_built, h_spi_nil h_built' items h_items]

/-- Three bytes declared, and none sent. -/
theorem null_payload_iff_run :
    NullPayloadSound (.always 7 []) (boot [[3]] ()) (k := 0) (Vector.replicate _ 0)
      (Vector.replicate _ 0) 0 3 5 3 :=
  (null_payload_iff (reachable_boot [[3]] ()) rfl _ _ (by decide +kernel) (by decide) (by decide)
    3).mpr ⟨by decide, by decide⟩

/-- Over SPI a length of 5 makes a payload of the padding, and over I2C it does not; a length of 0
calls the user task over I2C only. -/
theorem null_payload_padding :
    let i2cData : Buffer UInt8 (i2cTransactionMaxBytes + 0) := Vector.replicate _ 0
    let spiData : Buffer UInt8 spiTransactionMaxBytes := Vector.replicate _ 0
    let tasks : UserTasks Unit := .always 7 []
    let i2c := fun n => userRequests ((i2cSystem tasks).trace (boot [[3]] ())
      (i2cFrameCallbacks (sent (controlBuildI2cData i2cData 3 5 none n))))
    let spi := fun n => userRequests ((spiSystem tasks).trace (boot [[3]] ())
      (spiTransaction (exchange false (sent (controlBuildSpiData spiData 3 5 none n)))))
    spi 5 = [writeRequest 0 3 5 [0, 0, 0, 0, 0]] ∧ i2c 5 = [] ∧
      spi 0 = [] ∧ i2c 0 = [writeRequest 0 3 5 []] ∧
      ¬ NullPayloadSound tasks (boot [[3]] ()) i2cData spiData 0 3 5 5 ∧
      ¬ NullPayloadSound tasks (boot [[3]] ()) i2cData spiData 0 3 5 0 := by
  intro i2cData spiData tasks i2c spi
  have h_spi_five : spi 5 = [writeRequest 0 3 5 [0, 0, 0, 0, 0]] := by decide +kernel
  have h_spi_zero : spi 0 = [] := by decide +kernel
  refine ⟨h_spi_five, by decide +kernel, h_spi_zero, by decide +kernel, fun h => ?_, fun h => ?_⟩
  · have h_only : WritesOnlyEmpty 0 3 5 5 (spi 5) :=
      h.spi (by decide +kernel) _ (suppliedBytes_exchange false _)
    rw [h_spi_five] at h_only
    exact absurd (h_only.called_iff.mp ⟨_, List.mem_cons_self, rfl⟩) (by decide)
  · have h_only : WritesOnlyEmpty 0 3 5 0 (spi 0) :=
      h.spi (by decide +kernel) _ (suppliedBytes_exchange false _)
    rw [h_spi_zero] at h_only
    obtain ⟨q, h_mem, -⟩ := h_only.called_iff.mpr rfl
    cases h_mem

end DeviceControl
