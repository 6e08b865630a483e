import DeviceControl.Host.Support
import DeviceControl.Spi.Recovery

/-!
# The reads that a host makes over SPI

A host reads over SPI in two transactions, and learns from neither what has come of the read.
`spiServesRead_iff` says when the device serves it with success in the course of the two: the
machine has to be idle when the first one starts, for otherwise it takes that one for the second
transaction of an earlier read.

`Spi.AtRest` is what the end of a transaction leaves, so it is where a host starts from.
-/

namespace DeviceControl

variable {σ : Type} (tasks : UserTasks σ)

/-! ### Between transactions -/

/-- The machine is between two transactions: idle, or about to deliver the data of a read. -/
def Spi.AtRest (s : Spi) : Prop := s = Spi.zero ∨ s.state = .readData

/-- The end of a transaction brings the machine to rest, in every state. -/
theorem atRest_of_ends (d : Device σ) :
    ((spiSystem tasks).step d .masterEndsTransaction).1.spi.AtRest := by
  by_cases hs : d.spi.state = .readDataWait
  · rw [step_ends_wait tasks hs]
    exact Or.inr rfl
  · exact Or.inl (spi_zero_of_ends tasks hs)

theorem atRest_of_transaction (d : Device σ) (items : List SpiItem) :
    ((spiSystem tasks).run d (spiTransaction items)).spi.AtRest := by
  rw [spiTransaction, Transducer.run_concat]
  exact atRest_of_ends tasks _

/-! ### Performing a read -/

/-- The machine waits for a byte to be required, to perform this read. -/
structure Spi.AwaitsRead (s : Spi) (ifnum r c : UInt8) (n : ℕ) : Prop where
  state : s.state = .readDataStart
  ifnum : s.ifnum = ifnum
  resid : s.resid = r
  cmd : s.cmd = c
  length : s.payloadLenFromHeader = n

/-- The callback performs this read, with success. -/
structure PerformsRead (ifnum r c : UInt8) (n : ℕ) (d : Device σ) (cb : SpiCallback) : Prop where
  requires : cb = .masterRequiresData
  awaits : d.spi.AwaitsRead ifnum r c n
  ret : ((spiSystem tasks).step d cb).2.ret = controlSuccess

/-- In the course of some callbacks the device serves this read with success. -/
def SpiServesRead (d : Device σ) (cbs : List SpiCallback) (r c : UInt8) (n : ℕ) : Prop :=
  ∃ ifnum, resourceTableSearch d.table r = some ifnum ∧
    (spiSystem tasks).SomeStep (PerformsRead tasks ifnum r c n) d cbs

/-! ### Transactions that perform none -/

section Quiet

variable {tasks} {ifnum r c : UInt8} {n : ℕ} {d : Device σ} {items : List SpiItem}

/-- The end of a transaction performs no read. -/
theorem not_performs_ends : ¬ PerformsRead tasks ifnum r c n d .masterEndsTransaction :=
  fun h => SpiCallback.noConfusion h.requires

/-- No read is performed while the data of an earlier one is delivered. -/
theorem not_serves_delivering (hs : d.spi.state = .readData) (items : List SpiItem) :
    ¬ (spiSystem tasks).SomeStep (PerformsRead tasks ifnum r c n) d (spiTransaction items) := by
  rw [spiTransaction, Transducer.someStep_concat, or_iff_left not_performs_ends]
  refine Transducer.not_someStep_map _ fun pre x post _ h => ?_
  cases (run_delivering tasks hs pre).symm.trans h.awaits.state

/-- No read is performed where no byte is required after the header of one. -/
theorem not_serves_received (h_zero : d.spi = Spi.zero) (h : NoReadPerformed items) :
    ¬ (spiSystem tasks).SomeStep (PerformsRead tasks ifnum r c n) d
      (items.map SpiItem.callback) := by
  refine Transducer.not_someStep_map _ ?_
  rintro pre x post rfl h_perform
  have h_state := h_perform.awaits.state
  rw [run_received tasks h_zero h.of_append] at h_state
  obtain ⟨-, -, h_start⟩ := Spi.received_state d.table (suppliedBytes pre)
  cases x with
  | supplied b => cases h_perform.requires
  | requires => exact h pre post rfl (h_start h_state)

theorem not_serves_transaction (h_zero : d.spi = Spi.zero) (h : NoReadPerformed items) :
    ¬ (spiSystem tasks).SomeStep (PerformsRead tasks ifnum r c n) d (spiTransaction items) := by
  rw [spiTransaction, Transducer.someStep_concat, or_iff_left not_performs_ends]
  exact not_serves_received h_zero h

/-- No further read is performed in the transaction of one. -/
theorem not_serves_wait (hs : d.spi.state = .readDataWait)
    (h_zero : ∀ b ∈ suppliedBytes items, b = 0) :
    ¬ (spiSystem tasks).SomeStep (PerformsRead tasks ifnum r c n) d
      (items.map SpiItem.callback) := by
  refine Transducer.not_someStep_map _ ?_
  rintro pre x post rfl h_perform
  have h_pre : ∀ b ∈ suppliedBytes pre, b = 0 := by
    intro b hb
    refine h_zero b ?_
    rw [suppliedBytes_append]
    exact List.mem_append_left _ hb
  have h_state := h_perform.awaits.state
  rw [(trace_wait tasks hs h_pre).1, hs] at h_state
  cases h_state

end Quiet

/-! ### The two transactions of a host -/

/-- The first transaction serves the read exactly if the read succeeds. -/
theorem someStep_first {d : Device σ} (h_zero : d.spi = Spi.zero) {before after : List SpiItem}
    {ifnum r c n : UInt8} (h : BringsHeader d.table before ifnum r c n)
    (h_after : ∀ b ∈ suppliedBytes after, b = 0) :
    (spiSystem tasks).SomeStep (PerformsRead tasks ifnum r c n.toNat) d
        (spiTransaction (before ++ .requires :: after)) ↔
      (spiRead tasks d ifnum r c n.toNat).reply.ret = controlSuccess := by
  have h_before := h.run tasks h_zero
  have h_step := step_requires_read tasks d ifnum r c n.toNat
  rw [spiTransaction_split, Transducer.someStep_append, h_before, Transducer.SomeStep, h_step,
    Transducer.someStep_concat]
  constructor
  · rintro (h_early | h_perform | h_late | h_end)
    · exact absurd h_early (not_serves_received h_zero h.first)
    · have h_ret := h_perform.ret
      rw [h_step] at h_ret
      exact h_ret
    · exact absurd h_late (not_serves_wait rfl h_after)
    · exact absurd h_end not_performs_ends
  · intro h_ret
    refine Or.inr (Or.inl ⟨rfl, ⟨rfl, rfl, rfl, rfl, rfl⟩, ?_⟩)
    rw [h_step]
    exact h_ret

/-- **A read over SPI.** From a machine at rest, the transaction of a read header and one of zeroes
serve the read with success exactly if the machine is idle, the resource is found and its read
succeeds. -/
theorem spiServesRead_iff {d : Device σ} (h_rest : d.spi.AtRest) {r c : UInt8} {n : ℕ}
    (h_read : isControlCmdRead c = true) (h_len : n ≤ spiDataMaxBytes) (requiresFirst : Bool)
    (m : ℕ) :
    SpiServesRead tasks d (spiTransaction (exchange requiresFirst
          [r, c, UInt8.ofNat n, 0, 0, 0, 0, 0])
        ++ spiTransaction (exchange requiresFirst (List.replicate m 0))) r c n ↔
      d.spi = Spi.zero ∧ ∃ ifnum, resourceTableSearch d.table r = some ifnum ∧
        (spiRead tasks d ifnum r c n).reply.ret = controlSuccess := by
  have h_nat := toNat_ofNat_of_le h_len
  obtain ⟨before, after, h_split, h_before, h_first, h_after⟩ :=
    exchange_header requiresFirst r c (UInt8.ofNat n) 0 [0, 0, 0, 0]
  have h_zeroes : ∀ b ∈ suppliedBytes after, b = 0 := by
    rw [h_after]
    simp
  rw [h_split]
  rcases h_rest with h_zero | h_data
  · -- the second transaction delivers the data of the read, and performs none
    have h_serves {ifnum : UInt8} (h_search : resourceTableSearch d.table r = some ifnum) :
        (spiSystem tasks).SomeStep (PerformsRead tasks ifnum r c n) d
            (spiTransaction (before ++ .requires :: after)
              ++ spiTransaction (exchange requiresFirst (List.replicate m 0))) ↔
          (spiRead tasks d ifnum r c n).reply.ret = controlSuccess := by
      -- the first transaction brings the header, and the read is performed in it
      have h_header : BringsHeader d.table before ifnum r c (UInt8.ofNat n) :=
        ⟨⟨[], h_before⟩, h_first, h_search, h_read⟩
      obtain ⟨-, -, -, -, -, h_run⟩ := spiRead_first tasks h_zero h_header h_zeroes
      have h_someStep := someStep_first tasks h_zero h_header h_zeroes
      rw [h_nat] at h_someStep
      rw [Transducer.someStep_append, h_someStep]
      exact or_iff_left (not_serves_delivering (by rw [h_run]; rfl) _)
    constructor
    · rintro ⟨ifnum, h_search, h_step⟩
      exact ⟨h_zero, ifnum, h_search, (h_serves h_search).mp h_step⟩
    · rintro ⟨-, ifnum, h_search, h_ret⟩
      exact ⟨ifnum, h_search, (h_serves h_search).mpr h_ret⟩
  · -- the first transaction resets the machine, and the zeroes are no read
    have h_reset : ((spiSystem tasks).run d
        (spiTransaction (before ++ .requires :: after))).spi = Spi.zero := by
      rw [spiTransaction, Transducer.run_concat,
        step_ends_delivering tasks (run_delivering tasks h_data _)]
      rfl
    have h_not : NotRead (suppliedBytes (exchange requiresFirst (List.replicate m 0))) := by
      intro b hb
      rw [suppliedBytes_exchange] at hb
      rw [List.eq_of_mem_replicate (List.mem_of_getElem? hb)]
      rfl
    refine iff_of_false ?_ ?_
    · rintro ⟨ifnum, -, h_step⟩
      rw [Transducer.someStep_append] at h_step
      rcases h_step with h_step | h_step
      · exact not_serves_delivering h_data _ h_step
      · exact not_serves_transaction h_reset h_not.noReadPerformed h_step
    · rintro ⟨h_zero, -⟩
      rw [h_zero] at h_data
      cases h_data

end DeviceControl
