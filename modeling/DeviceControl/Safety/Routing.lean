import DeviceControl.Control.Calls

/-!
# Routing safety

Every call on a user task goes to an interface that exists and that listed the resource, over
whole runs of the callbacks of all transports (`routing_safe`).

The resource and the interface number are looked up together and kept as two fields over many
callbacks. `Routed` says that wherever a struct is in a state that uses the fields, the number is
still what the search answers for the resource: the fields are written by the rules that start a
command, both at once, and the table is never written. The special resource is found with the
reserved number and is not called; for any other resource `registered_of_search` gives the
interface.
-/

namespace DeviceControl

variable {σ : Type} {tasks : UserTasks σ}

/-- Where a struct holds the resource of a command, it holds the interface that the table gives
for it. -/
structure Routed (d : Device σ) : Prop where
  i2c : d.i2c.state.Addressed → resourceTableSearch d.table d.i2c.resid = some d.i2c.ifnum
  spi : d.spi.state.Addressed → resourceTableSearch d.table d.spi.resid = some d.spi.ifnum

theorem Routed.boot (answers : List (List ControlResid)) (users : σ) :
    Routed (DeviceControl.boot answers users) where
  i2c := fun h => h.elim
  spi := fun h => h.elim

/-- The I2C clause of `Routed` is preserved by the I2C transitions. -/
theorem Routed.i2cStep {d d' : Device σ} {cb : I2cCallback} {r : Reply} (h : Routed d)
    (h_step : I2cStep tasks d cb d' r) (h_addr : d'.i2c.state.Addressed) :
    resourceTableSearch d.table d'.i2c.resid = some d'.i2c.ifnum := by
  cases h_step with
  | start => exact h_addr.elim
  | reject => exact h_addr.elim
  -- the search of this very callback
  | resid r ifnum hs hr => exact hr
  -- the two fields stay what they were, and the state before had them too
  | cmd c hs => exact h.i2c (by rw [hs]; trivial)
  | lengthZero d₁ hs h₁ =>
    rw [i2cWriteCommand, writeCommand_i2c, h₁]
    exact h.i2c (by rw [hs]; trivial)
  | length n hs => exact h.i2c (by rw [hs]; trivial)
  | onlyByte b d₁ hs hc h1 h₁ =>
    rw [i2cWriteCommand, writeCommand_i2c, h₁]
    exact h.i2c (by rw [hs]; trivial)
  | firstByte b hs => exact h.i2c (by rw [hs]; trivial)
  | overflow => exact h_addr.elim
  | lastByte b d₁ hs hne he h₁ =>
    rw [i2cWriteCommand, writeCommand_i2c, h₁]
    exact h.i2c (by rw [hs]; trivial)
  | nextByte b hs => exact h.i2c h_addr
  | discard b hs => exact h.i2c h_addr
  | readOk => exact h_addr.elim
  -- a refused read goes back to `I2C_WRITE_SIZE`, with both fields in place
  | readRefused hs => exact h.i2c (by rw [hs]; trivial)
  | readFirst => exact h_addr.elim
  | readOver => exact h_addr.elim
  | readNext hs => exact h.i2c h_addr
  | stop => exact h_addr.elim

/-- The SPI clause of `Routed` is preserved by the SPI transitions. -/
theorem Routed.spiStep {d d' : Device σ} {cb : SpiCallback} {r : Reply} (h : Routed d)
    (h_step : SpiStep tasks d cb d' r) (h_addr : d'.spi.state.Addressed) :
    resourceTableSearch d.table d'.spi.resid = some d'.spi.ifnum := by
  cases h_step with
  | endsShort => exact h_addr.elim
  | endsDispatch => exact h_addr.elim
  | endsWait => exact h_addr.elim
  | endsReset => exact h_addr.elim
  | requiresDispatch => exact h_addr.elim
  -- no rule below writes one of the two fields
  | requiresByte x hs => exact h.spi h_addr
  | requiresQuiet => exact h.spi h_addr
  | badBits => exact h.spi h_addr
  | residUnknown => exact h_addr.elim
  -- a new command, whose search has just answered
  | resid datum ifnum ho hr => exact hr
  | cmd datum hs => exact h.spi (by rw [hs]; trivial)
  | readLength datum hs => exact h.spi (by rw [hs]; trivial)
  | writeLength datum hs => exact h.spi (by rw [hs]; trivial)
  | byte datum hs => exact h.spi h_addr
  | excess => exact h_addr.elim
  | count datum hs => exact h.spi h_addr
  | ignore => exact h.spi h_addr

/-- **Invariant preservation.** `Routed` is preserved by every callback. -/
theorem Routed.step {d : Device σ} (h : Routed d) (cb : Callback) :
    Routed ((controlSystem tasks).step d cb).1 := by
  obtain ⟨h_i2c, h_spi⟩ := step_clauses
    (P := fun i => i.state.Addressed → resourceTableSearch d.table i.resid = some i.ifnum)
    (Q := fun s => s.state.Addressed → resourceTableSearch d.table s.resid = some s.ifnum)
    h.i2c h.spi h.i2cStep h.spiStep cb
  constructor
  · -- the table of the invariant is the one before the step, which is the one after it
    rw [step_table]
    exact h_i2c
  · rw [step_table]
    exact h_spi

/-- A callback from a routed state calls only what the table gives for the resource. -/
theorem Routed.call {d : Device σ} (h : Routed d) {cb : Callback} {call : UserCall}
    (h_call : call ∈ ((controlSystem tasks).step d cb).2.calls) :
    call.request.resid ≠ controlSpecialResid ∧
      resourceTableSearch d.table call.request.resid = some call.request.ifnum := by
  rcases cb.kind with ⟨cb, rfl⟩ | ⟨cb, rfl⟩ | h_req
  · obtain ⟨h_addr, h_from, -⟩ := i2cStep_call (i2cStep_sound d cb) h_call
    rw [h_from.resid, h_from.ifnum]
    exact ⟨h_from.ne_special, h.i2c h_addr⟩
  · obtain ⟨h_addr, h_from, -⟩ := spiStep_call (spiStep_sound d cb) h_call
    rw [h_from.resid, h_from.ifnum]
    exact ⟨h_from.ne_special, h.spi h_addr⟩
  · -- the request functions search and call in one callback
    obtain ⟨ifnum, h_search, h_from, -⟩ := requestStep_call (requestStep_sound _ h_req) h_call
    rw [h_from.resid, h_from.ifnum]
    exact ⟨h_from.ne_special, h_search⟩

/-- The call goes to an interface that exists and that listed the resource. In particular the
reserved interface number and the special resource do not reach a user task. -/
structure UserCall.Registered (answers : List (List ControlResid)) (call : UserCall) : Prop where
  ifnum_lt : call.request.ifnum.toNat < answers.length
  ifnum_ne : call.request.ifnum ≠ ifnumReserved
  resid_ne : call.request.resid ≠ controlSpecialResid
  listed : ∃ l, answers[call.request.ifnum.toNat]? = some l ∧ call.request.resid ∈ l

/-- In the table of a registration of at most 255 interfaces, a search that answers for a resource
other than the special one answers with an interface that listed it. -/
theorem UserCall.registered_of_search {answers : List (List ControlResid)}
    (h_len : answers.length ≤ 255) {call : UserCall}
    (h_ne : call.request.resid ≠ controlSpecialResid)
    (h_search : resourceTableSearch (registeredTable answers) call.request.resid
      = some call.request.ifnum) : call.Registered answers := by
  obtain ⟨l, h_get, h_mem⟩ := DeviceControl.registered_of_search h_len h_ne h_search
  have h_lt := (List.getElem?_eq_some_iff.mp h_get).1
  refine ⟨h_lt, ?_, h_ne, l, h_get, h_mem⟩
  -- the reserved number is 255, and no interface has it
  intro h_reserved
  rw [h_reserved] at h_lt
  exact absurd (h_lt.trans_le h_len) (by decide)

/-- **Routing safety.** However many interfaces are registered, up to 255, and whatever the
registration returned: in every run of callbacks of all transports, every call on a user task goes
to an interface that exists and that listed the resource, and the resource is not the special
one. -/
theorem routing_safe (answers : List (List ControlResid)) (h_len : answers.length ≤ 255)
    (users : σ) (cbs : List Callback) :
    ∀ p ∈ (controlSystem tasks).trace (boot answers users) cbs, ∀ call ∈ p.2.calls,
      call.Registered answers := by
  refine (controlSystem tasks).trace_invariant
    (P := fun d => d.table = registeredTable answers ∧ Routed d)
    (Q := fun _ r => ∀ call ∈ r.calls, call.Registered answers) ?_ ?_
    ⟨rfl, Routed.boot answers users⟩ cbs
  · rintro d cb ⟨h_table, h_routed⟩
    exact ⟨(step_table d cb).trans h_table, h_routed.step cb⟩
  · -- the table is still that of the registration, so the search speaks of `answers`
    rintro d cb ⟨h_table, h_routed⟩ call h_call
    obtain ⟨h_ne, h_search⟩ := h_routed.call h_call
    rw [h_table] at h_search
    exact UserCall.registered_of_search h_len h_ne h_search

/-- A write over I2C reaches the second of two interfaces, which listed the resource. -/
theorem routing_safe_run :
    let trace := (controlSystem (.always controlSuccess [])).trace (boot [[1, 2], [3]] ())
      [.i2c .writeStart, .i2c (.writeData 3), .i2c (.writeData 5), .i2c (.writeData 1),
        .i2c (.writeData 42)]
    trace.flatMap (fun p => p.2.calls.map (·.request)) = [⟨1, .write, 3, 5, [42], 1⟩] ∧
      ∀ p ∈ trace, ∀ call ∈ p.2.calls, call.Registered [[1, 2], [3]] :=
  ⟨by decide +kernel, routing_safe [[1, 2], [3]] (by decide) () _⟩

end DeviceControl
