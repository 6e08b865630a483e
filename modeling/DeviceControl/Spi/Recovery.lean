import DeviceControl.Spi.Read
import DeviceControl.Spi.Write

/-!
# Recovery of the SPI machine

What the end of a transaction recovers from. It resets the machine in every state but one: a read
that has been performed is kept, because its data goes to the master in the next transaction. A
write frame that is sent as that next transaction is taken for the master's part of the read, and
dropped.

`spi_recovers` is the exact condition, and says that a second end in a row recovers from every
history.
-/

namespace DeviceControl

variable {σ : Type} (tasks : UserTasks σ)

/-- The transaction of `items` makes one call on a user task, at its end, for the write of `ps`. -/
def FrameDelivered (d : Device σ) (items : List SpiItem) (ifnum r c : UInt8) (ps : List UInt8) :
    Prop :=
  ∃ body reply,
    (spiSystem tasks).trace d (spiTransaction items) = body ++ [(.masterEndsTransaction, reply)] ∧
      (∀ p ∈ body, p.2.calls = []) ∧ reply.calls = [⟨writeRequest ifnum r c ps, reply.ret, []⟩]

/-- A transaction that calls nobody has delivered nothing. -/
theorem FrameDelivered.not_quiet {d : Device σ} {items : List SpiItem} {ifnum r c : UInt8}
    {ps : List UInt8} (h : FrameDelivered tasks d items ifnum r c ps) :
    ¬ ∀ p ∈ (spiSystem tasks).trace d (spiTransaction items), p.2.calls = [] := by
  obtain ⟨body, reply, h_trace, -, h_calls⟩ := h
  intro h_quiet
  have h_nil : reply.calls = [] := h_quiet (.masterEndsTransaction, reply) (by rw [h_trace]; simp)
  rw [h_calls] at h_nil
  exact List.cons_ne_nil _ _ h_nil

/-! ### After a reset -/

/-- An idle machine delivers a complete frame. -/
theorem frameDelivered_of_zero {d : Device σ} (h_zero : d.spi = Spi.zero) {items : List SpiItem}
    {ifnum r c : UInt8} {ps : List UInt8}
    (h_frame : CompleteFrame d.table (suppliedBytes items) ifnum r c ps)
    (h_ne : r ≠ controlSpecialResid) : FrameDelivered tasks d items ifnum r c ps := by
  have h_body := h_frame.noReadPerformed
  obtain ⟨reply, h_trace, h_del⟩ := spiTransaction_complete tasks h_zero h_body h_frame h_ne
  exact ⟨_, reply, h_trace, fun p hp => (quiet_received tasks h_zero h_body p hp).1,
    by rw [h_del.calls, h_del.ret]⟩

/-- The end of a transaction resets the machine, unless a read has been performed in it. -/
theorem spi_zero_of_ends {d : Device σ} (hs : d.spi.state ≠ .readDataWait) :
    ((spiSystem tasks).step d .masterEndsTransaction).1.spi = Spi.zero := by
  by_cases h_write : d.spi.state = .writeData
  · rw [step_ends_writeData tasks h_write]
    split
    · rfl
    · rfl
  · rw [step_ends_reset tasks h_write hs]
    rfl

/-! ### While a read is delivered -/

/-- Up to the end of its transaction, a machine that delivers the data of a read goes on with it,
and calls nobody. -/
theorem SpiStep.delivering {d d' : Device σ} {cb : SpiCallback} {r : Reply}
    (h_step : SpiStep tasks d cb d' r) (hs : d.spi.state = .readData)
    (h_cb : cb ≠ .masterEndsTransaction) : d'.spi.state = .readData ∧ r.calls = [] := by
  have h_closed (datum : UInt32) : ¬ d.spi.Opens datum := by
    rintro (h | ⟨h, -⟩)
    · exact absurd (hs.symm.trans h) (by decide)
    · exact absurd (hs.symm.trans h) (by decide)
  cases h_step with
  | endsShort => exact absurd rfl h_cb
  | endsDispatch => exact absurd rfl h_cb
  | endsWait => exact absurd rfl h_cb
  | endsReset => exact absurd rfl h_cb
  | requiresByte => exact ⟨hs, rfl⟩
  | requiresQuiet => exact ⟨hs, rfl⟩
  | badBits => exact ⟨hs, rfl⟩
  | ignore => exact ⟨hs, rfl⟩
  -- the rules of other states
  | residUnknown datum ho => exact absurd ho (h_closed datum)
  | resid datum ifnum ho => exact absurd ho (h_closed datum)
  | requiresDispatch h => exact absurd (hs.symm.trans h) (by decide)
  | cmd datum h => exact absurd (hs.symm.trans h) (by decide)
  | readLength datum h => exact absurd (hs.symm.trans h) (by decide)
  | writeLength datum h => exact absurd (hs.symm.trans h) (by decide)
  | byte datum h => exact absurd (hs.symm.trans h) (by decide)
  | excess datum h => exact absurd (hs.symm.trans h) (by decide)
  | count datum h => exact absurd (hs.symm.trans h) (by decide)

/-- An item of a transaction while the data of a read is delivered. -/
theorem step_delivering {d : Device σ} (hs : d.spi.state = .readData) (x : SpiItem) :
    ((spiSystem tasks).step d x.callback).1.spi.state = .readData ∧
      ((spiSystem tasks).step d x.callback).2.calls = [] :=
  (spiStep_sound d x.callback).delivering tasks hs (by cases x <;> exact nofun)

theorem run_delivering {d : Device σ} (hs : d.spi.state = .readData) (items : List SpiItem) :
    ((spiSystem tasks).run d (items.map SpiItem.callback)).spi.state = .readData := by
  induction items generalizing d with
  | nil => exact hs
  | cons x items ih => exact ih (step_delivering tasks hs x).1

/-- The end of the transaction in which the data of a read is delivered. -/
theorem step_ends_delivering {d : Device σ} (hs : d.spi.state = .readData) :
    (spiSystem tasks).step d .masterEndsTransaction
      = (d.withSpi Spi.zero, { ret := controlSuccess }) :=
  step_ends_reset tasks (by rw [hs]; decide) (by rw [hs]; decide)

/-- A whole transaction of a machine that delivers the data of a read calls nobody. -/
theorem trace_delivering {d : Device σ} (hs : d.spi.state = .readData) (items : List SpiItem) :
    ∀ p ∈ (spiSystem tasks).trace d (spiTransaction items), p.2.calls = [] := by
  have h_body : ∀ p ∈ (spiSystem tasks).trace d (items.map SpiItem.callback), p.2.calls = [] := by
    induction items generalizing d with
    | nil => exact List.forall_mem_nil _
    | cons x items ih =>
      obtain ⟨h_state, h_calls⟩ := step_delivering tasks hs x
      exact List.forall_mem_cons.mpr ⟨h_calls, ih h_state⟩
  rw [spiTransaction, Transducer.trace_concat,
    step_ends_delivering tasks (run_delivering tasks hs items)]
  exact List.forall_mem_append.mpr ⟨h_body, List.forall_mem_singleton.mpr rfl⟩

/-! ### The condition -/

/-- **Recovery.** After any history of SPI callbacks and the end of a transaction, a complete write
frame for a user task is delivered exactly if no read has been performed whose first transaction
that end was. After two ends in a row it is delivered in any case. -/
theorem spi_recovers (answers : List (List ControlResid)) (users : σ) (history : List SpiCallback)
    (items : List SpiItem) {ifnum r c : UInt8} {ps : List UInt8}
    (h_frame : CompleteFrame (registeredTable answers) (suppliedBytes items) ifnum r c ps)
    (h_ne : r ≠ controlSpecialResid) :
    let d := (spiSystem tasks).run (boot answers users) history
    (FrameDelivered tasks ((spiSystem tasks).run d [.masterEndsTransaction]) items ifnum r c ps ↔
        d.spi.state ≠ .readDataWait) ∧
      FrameDelivered tasks ((spiSystem tasks).run d [.masterEndsTransaction,
        .masterEndsTransaction]) items ifnum r c ps := by
  intro d
  have h_reach : Reachable tasks answers d := (reachable_boot answers users).run_spi history
  -- where the ends have reset the machine, the frame is delivered
  have h_deliver (ends : List SpiCallback)
      (h_zero : ((spiSystem tasks).run d ends).spi = Spi.zero) :
      FrameDelivered tasks ((spiSystem tasks).run d ends) items ifnum r c ps := by
    refine frameDelivered_of_zero tasks h_zero ?_ h_ne
    rw [(h_reach.run_spi ends).table]
    exact h_frame
  refine ⟨⟨fun h hs => ?_, fun hs => h_deliver _ (spi_zero_of_ends tasks hs)⟩, ?_⟩
  · -- the transaction after the end is the second one of the read
    have h_data : ((spiSystem tasks).run d [.masterEndsTransaction]).spi.state = .readData := by
      rw [Transducer.run_cons, Transducer.run_nil, step_ends_wait tasks hs]
      rfl
    exact h.not_quiet tasks (trace_delivering tasks h_data items)
  · refine h_deliver _ ?_
    by_cases hs : d.spi.state = .readDataWait
    · -- the first end moves on to the data of the read, and the second one resets
      rw [Transducer.run_cons, step_ends_wait tasks hs]
      exact spi_zero_of_ends tasks (by exact nofun)
    · exact spi_zero_of_ends tasks (by rw [spi_zero_of_ends tasks hs]; decide)

/-- A write of one byte after a frame that was cut short. -/
theorem spi_recovers_run :
    let tasks : UserTasks Unit := .always 7 []
    let history : List SpiCallback := [.masterSuppliedData 3 8, .masterSuppliedData 5 8]
    let items : List SpiItem := [.supplied 3, .requires, .supplied 5, .supplied 1, .supplied 42]
    let d := (spiSystem tasks).run (boot [[3]] ()) history
    FrameDelivered tasks ((spiSystem tasks).run d [.masterEndsTransaction]) items 0 3 5 [42] := by
  intro tasks history items d
  have h_frame : CompleteFrame (registeredTable [[3]]) (suppliedBytes items) 0 3 5 [42] :=
    ⟨⟨1, rfl, rfl⟩, by decide, by decide +kernel, by decide⟩
  exact (spi_recovers tasks [[3]] () history items h_frame (by decide)).1.mpr (by decide +kernel)

/-- A write of one byte after the first transaction of a read: nobody is called. -/
theorem spi_read_swallows_frame :
    let tasks : UserTasks Unit := .always controlSuccess [8]
    let history : List SpiCallback := [.masterSuppliedData 3 8, .masterSuppliedData 0x85 8,
      .masterSuppliedData 1 8, .masterRequiresData]
    let items : List SpiItem := [.supplied 3, .supplied 5, .supplied 1, .supplied 42]
    let d := (spiSystem tasks).run (boot [[3]] ()) (history ++ [.masterEndsTransaction])
    CompleteFrame (registeredTable [[3]]) (suppliedBytes items) 0 3 5 [42] ∧
      (∀ p ∈ (spiSystem tasks).trace d (spiTransaction items), p.2.calls = []) ∧
      ¬ FrameDelivered tasks d items 0 3 5 [42] := by
  intro tasks history items d
  have h_quiet : ∀ p ∈ (spiSystem tasks).trace d (spiTransaction items), p.2.calls = [] :=
    trace_delivering tasks (by decide +kernel) items
  exact ⟨⟨⟨1, rfl, rfl⟩, by decide, by decide +kernel, by decide⟩, h_quiet,
    fun h => h.not_quiet tasks h_quiet⟩

end DeviceControl
