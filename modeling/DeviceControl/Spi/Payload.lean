import DeviceControl.Control.Calls

/-!
# The SPI payload array

Whether the SPI machine, and the user tasks it hands its payload array to, keep inside that array.
The length byte of a header may be anything up to 255, and the array has 253 bytes. On the write
path `control_process_spi_master_supplied_data` compares its counter with the size of the array
before every store. On the read path `control_process_spi_master_requires_data` passes the length of
the header on to `read_command` as it is.

`spi_payloadSafe_iff` is the exact condition: a run keeps inside the array if no byte of it is
required after the header of a read that declares more than the array holds.
-/

namespace DeviceControl

variable {σ : Type} {tasks : UserTasks σ}

/-! ### Safe runs -/

/-- A run touches the payload array inside its bounds only, and hands over no more of it than there
is. -/
structure SpiPayloadSafe (tasks : UserTasks σ) (d : Device σ) (cbs : List SpiCallback) : Prop where
  accesses : ∀ p ∈ (spiSystem tasks).trace d cbs, ∀ i ∈ p.2.accesses, i < spiDataMaxBytes
  lengths : ∀ p ∈ (spiSystem tasks).trace d cbs, ∀ call ∈ p.2.calls,
    call.request.payloadLen ≤ spiDataMaxBytes

/-- A byte is required after the header of a read, for a user task, of more than the array holds. -/
def Overreads (s : Spi) (cb : SpiCallback) : Prop :=
  s.state = .readDataStart ∧ s.resid ≠ controlSpecialResid ∧
    spiDataMaxBytes < s.payloadLenFromHeader ∧ cb = .masterRequiresData

/-! ### The counter -/

/-- The counter stays inside the array, except where bytes are counted and dropped. This holds in
every run, guarded or not. -/
def Spi.Bounded (s : Spi) : Prop :=
  s.state ≠ .payloadError → s.payloadLenTransmitted ≤ spiDataMaxBytes

theorem Spi.bounded_zero : Spi.zero.Bounded := fun _ => Nat.zero_le _

/-- One byte further the counter is still inside, if it has been compared with the size before. -/
theorem incr_le_of_lt {k : ℕ} (h : k < spiDataMaxBytes) : incr k ≤ spiDataMaxBytes := by
  rw [incr_of_lt (succ_lt_wrap h le_rfl)]
  exact h

/-- A byte opens a command with a counter inside the array. -/
theorem Spi.Bounded.reset {s : Spi} {datum : UInt32} (h : s.Bounded) (ho : s.Opens datum) :
    (spiReset datum s).payloadLenTransmitted ≤ spiDataMaxBytes := by
  unfold spiReset
  split
  · exact Nat.zero_le _
  · -- the machine is idle or waiting, so it does not drop bytes
    refine h ?_
    rcases ho with hs | ⟨hs, -⟩
    · rw [hs]; decide
    · rw [hs]; decide

/-- **Invariant preservation.** -/
theorem Spi.Bounded.step {d d' : Device σ} {cb : SpiCallback} {r : Reply} (h : d.spi.Bounded)
    (h_step : SpiStep tasks d cb d' r) : d'.spi.Bounded := by
  have h_le {s : SpiState} (hs : d.spi.state = s) (h_ne : s ≠ .payloadError) :
      d.spi.payloadLenTransmitted ≤ spiDataMaxBytes := h (by rw [hs]; exact h_ne)
  cases h_step with
  | endsShort => exact Spi.bounded_zero
  | endsDispatch => exact Spi.bounded_zero
  | endsReset => exact Spi.bounded_zero
  | endsWait hs => exact fun _ => h_le hs (by decide)
  | requiresDispatch hs => exact fun _ => h_le hs (by decide)
  -- the two rules that count have compared the counter with the size of the array
  | requiresByte x hs hk hk' => exact fun _ => incr_le_of_lt hk'
  | byte datum hs hk hk' => exact fun _ => incr_le_of_lt hk'
  | requiresQuiet => exact h
  | badBits => exact h
  | ignore => exact h
  | residUnknown datum ho hr => exact fun _ => h.reset ho
  | resid datum ifnum ho hr => exact fun _ => h.reset ho
  | cmd datum hs => exact fun _ => h_le hs (by decide)
  | readLength datum hs => exact fun _ => h_le hs (by decide)
  | writeLength datum hs => exact fun _ => h_le hs (by decide)
  | excess datum hs hk => exact fun h_ne => absurd rfl h_ne
  | count datum hs => exact fun h_ne => absurd hs h_ne

/-! ### What a callback touches -/

/-- A callback that does not overread touches the array inside its bounds. -/
theorem Spi.Bounded.accesses {d d' : Device σ} {cb : SpiCallback} {r : Reply} (h : d.spi.Bounded)
    (h_step : SpiStep tasks d cb d' r) (h_guard : ¬ Overreads d.spi cb) :
    ∀ i ∈ r.accesses, i < spiDataMaxBytes := by
  cases h_step with
  | endsDispatch hs hk =>
    -- a write hands over as much as was counted
    intro i hi
    exact (mem_accesses_writeCommand tasks hi).trans_le (h (by rw [hs]; decide))
  | requiresDispatch hs =>
    intro i hi
    by_cases h_special : d.spi.resid = controlSpecialResid
    · -- the special resource has a single byte
      change i ∈ (readCommand tasks d _ d.spi.resid _ _ _).reply.accesses at hi
      rw [h_special, readCommand, if_pos rfl] at hi
      dsimp only at hi
      split at hi
      · rw [List.mem_singleton.mp hi]
        decide
      · exact absurd hi List.not_mem_nil
    · have h_len : d.spi.payloadLenFromHeader ≤ spiDataMaxBytes :=
        Nat.le_of_not_lt fun h_lt => h_guard ⟨hs, h_special, h_lt, rfl⟩
      rcases mem_accesses_readCommand tasks hi with h_lt | rfl
      · exact h_lt.trans_le h_len
      · decide
  | requiresByte x hs hk hk' => exact List.forall_mem_singleton.mpr hk'
  | byte datum hs hk hk' => exact List.forall_mem_singleton.mpr hk'
  | _ => exact List.forall_mem_nil _

/-- A callback that does not overread hands over no more than the array. -/
theorem Spi.Bounded.lengths {d d' : Device σ} {cb : SpiCallback} {r : Reply} (h : d.spi.Bounded)
    (h_step : SpiStep tasks d cb d' r) (h_guard : ¬ Overreads d.spi cb) :
    ∀ call ∈ r.calls, call.request.payloadLen ≤ spiDataMaxBytes := by
  cases h_step with
  | endsDispatch hs hk =>
    intro call h_call
    obtain ⟨-, rfl⟩ := mem_calls_writeCommand tasks h_call
    exact h (by rw [hs]; decide)
  | requiresDispatch hs =>
    intro call h_call
    obtain ⟨h_ne, rfl⟩ := mem_calls_readCommand tasks h_call
    exact Nat.le_of_not_lt fun h_lt => h_guard ⟨hs, h_ne, h_lt, rfl⟩
  | _ => exact List.forall_mem_nil _

/-- A callback that overreads hands the whole length of the header to the user task. -/
theorem Overreads.call {d : Device σ} {cb : SpiCallback} (h : Overreads d.spi cb) :
    ∃ call ∈ ((spiSystem tasks).step d cb).2.calls,
      spiDataMaxBytes < call.request.payloadLen := by
  obtain ⟨hs, h_ne, h_lt, rfl⟩ := h
  have h_calls : ((spiSystem tasks).step d .masterRequiresData).2.calls
      = (spiReadCommand tasks d).reply.calls := by
    change (controlProcessSpiMasterRequiresData tasks d).2.calls = _
    rw [controlProcessSpiMasterRequiresData, hs]
  rw [h_calls, spiReadCommand, calls_readCommand tasks h_ne]
  exact ⟨_, List.mem_singleton_self _, h_lt⟩

/-! ### The condition -/

/-- **Payload safety.** A run of SPI callbacks from the initial state keeps inside the payload
array, and hands user tasks no more than the array, exactly if none of its callbacks overreads. -/
theorem spi_payloadSafe_iff (answers : List (List ControlResid)) (users : σ)
    (cbs : List SpiCallback) :
    SpiPayloadSafe tasks (boot answers users) cbs ↔
      (spiSystem tasks).EveryStep (fun d cb => ¬ Overreads d.spi cb) (boot answers users) cbs := by
  have h_boot : (boot answers users).spi.Bounded := Spi.bounded_zero
  have h_inv (d : Device σ) (cb : SpiCallback) (h : d.spi.Bounded) :
      ((spiSystem tasks).step d cb).1.spi.Bounded := h.step (spiStep_sound d cb)
  constructor
  · intro h_safe
    -- a callback that overreads makes a call that is too long
    rw [Transducer.everyStep_iff]
    rintro pre cb post rfl h_over
    obtain ⟨call, h_call, h_lt⟩ := h_over.call
    have h_mem :
        (cb, ((spiSystem tasks).step ((spiSystem tasks).run (boot answers users) pre) cb).2)
          ∈ (spiSystem tasks).trace (boot answers users) (pre ++ cb :: post) :=
      (spiSystem tasks).mem_trace.mpr ⟨pre, post, rfl, rfl⟩
    exact absurd (h_safe.lengths _ h_mem call h_call) (Nat.not_le.mpr h_lt)
  · intro h_guard
    constructor
    · exact (spiSystem tasks).trace_guarded (P := fun d => d.spi.Bounded)
        (Q := fun _ r => ∀ i ∈ r.accesses, i < spiDataMaxBytes)
        (fun d cb h _ => h_inv d cb h)
        (fun d cb h h_step => h.accesses (spiStep_sound d cb) h_step) h_boot h_guard
    · exact (spiSystem tasks).trace_guarded (P := fun d => d.spi.Bounded)
        (Q := fun _ r => ∀ call ∈ r.calls, call.request.payloadLen ≤ spiDataMaxBytes)
        (fun d cb h _ => h_inv d cb h)
        (fun d cb h h_step => h.lengths (spiStep_sound d cb) h_step) h_boot h_guard

/-- The header of a read of 254 bytes, and a byte required after it. -/
theorem spi_payload_overread :
    let tasks : UserTasks Unit := .always controlSuccess []
    let cbs : List SpiCallback := [.masterSuppliedData 3 8, .masterSuppliedData 0x85 8,
      .masterSuppliedData 254 8, .masterRequiresData]
    (∃ p ∈ (spiSystem tasks).trace (boot [[3]] ()) cbs, ∃ call ∈ p.2.calls,
        call.request = readRequest 0 3 0x85 254) ∧
      ¬ SpiPayloadSafe tasks (boot [[3]] ()) cbs := by
  intro tasks cbs
  have h_call : ∃ p ∈ (spiSystem tasks).trace (boot [[3]] ()) cbs, ∃ call ∈ p.2.calls,
      call.request = readRequest 0 3 0x85 254 := by decide +kernel
  refine ⟨h_call, fun h_safe => ?_⟩
  obtain ⟨p, hp, call, h_mem, h_request⟩ := h_call
  have h_le : call.request.payloadLen ≤ spiDataMaxBytes := h_safe.lengths p hp call h_mem
  rw [h_request] at h_le
  exact absurd h_le (by decide)

end DeviceControl
