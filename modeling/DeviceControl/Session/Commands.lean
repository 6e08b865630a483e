import DeviceControl.Host.Independence
import DeviceControl.Session.Replay
import DeviceControl.Spi.Recovery

/-!
# One command after the other

What a transport does with the commands of its host, as long as it is alone: every command makes its
one call, brings its answer to the host, and leaves the transport ready for the next one
(`commands_served`).

`Carries` has the call and the answer, so what is added is the state between two commands. Only SPI
has to be asked for it (`ReadyFor`): a write start puts an end to whatever I2C was doing, and the
other two keep no state. And no callback of a command asks for the recorded status, unless that is
the command, so the replies do not depend on what the other transports are doing
(`Command.neverAsks`).
-/

namespace DeviceControl

variable {σ : Type} {tasks : UserTasks σ}

/-! ### Commands that can be served -/

/-- The command is for a user task, and not too long for the transport. A read is of at least one
byte. -/
structure Servable (table : ResourceTable) (t : Transport) (c : Command) : Prop where
  registered : ∃ ifnum, resourceTableSearch table c.resid = some ifnum
  ne_special : c.resid ≠ controlSpecialResid
  limit : c.payload.length ≤ t.limit
  nonempty : isControlCmdRead c.cmd = true → c.payload ≠ []

/-- The transport is ready for a command. -/
def ReadyFor (t : Transport) (d : Device σ) : Prop := t = .spi → d.spi = Spi.zero

section Carry

variable {t : Transport} {a : HostArrays} {c : Command} {d : Device σ} {ifnum : UInt8}

theorem carries_of_ready (tasks : UserTasks σ) (h_ready : ReadyFor t d) (h : Servable d.table t c)
    (h_search : resourceTableSearch d.table c.resid = some ifnum) (a : HostArrays) :
    ∃ call, Carries tasks t a c d ifnum call := by
  obtain ⟨-, h_ne, h_len, h_some⟩ := h
  cases t with
  | i2c =>
    cases h_dir : isControlCmdRead c.cmd with
    | false => exact carries_i2c_write tasks h_search h_ne h_len h_dir
    | true => exact carries_i2c_read tasks h_search h_ne h_len h_dir (h_some h_dir)
  | spi =>
    cases h_dir : isControlCmdRead c.cmd with
    | false => exact carries_spi_write tasks (h_ready rfl) h_search h_ne h_len h_dir
    | true => exact carries_spi_read tasks (h_ready rfl) h_search h_ne h_len h_dir
  | usb => exact carries_usb tasks h_search h_ne h_len
  | xscope => exact carries_xscope tasks h_search h_ne h_len

/-! ### The state between two commands -/

/-- A command over SPI ends with the machine reset. -/
theorem spi_zero_of_command (h_zero : d.spi = Spi.zero)
    (h_search : resourceTableSearch d.table c.resid = some ifnum)
    (h_len : c.payload.length ≤ spiDataMaxBytes) (a : HostArrays) :
    ((spiSystem tasks).run d (c.spiCallbacks a)).spi = Spi.zero := by
  cases h_dir : isControlCmdRead c.cmd with
  | false =>
    rw [spiCallbacks_write h_dir h_len]
    exact spi_zero_of_transaction tasks h_zero
      (noReadPerformed_of_write (suppliedBytes_exchange _ _) h_dir)
  | true =>
    obtain ⟨before, after, h_split, h_before, h_first, h_after⟩ :=
      exchange_header a.spiRequiresFirst c.resid c.cmd (UInt8.ofNat c.payload.length) 0 [0, 0, 0, 0]
    have h_header : BringsHeader d.table before ifnum c.resid c.cmd
        (UInt8.ofNat c.payload.length) := ⟨⟨[], h_before⟩, h_first, h_search, h_dir⟩
    obtain ⟨-, -, -, -, -, h_run⟩ := spiRead_first tasks h_zero h_header (by rw [h_after]; simp)
    -- the second transaction delivers the data of the read
    rw [spiCallbacks_read h_dir h_len, h_split, Transducer.run_append, h_run, spiTransaction,
      Transducer.run_concat, step_ends_delivering tasks (run_delivering tasks rfl _)]
    rfl

theorem ReadyFor.run (h_ready : ReadyFor t d) (h : Servable d.table t c) (a : HostArrays) :
    ReadyFor t ((controlSystem tasks).run d (c.callbacks a t)) := by
  rintro rfl
  obtain ⟨ifnum, h_search⟩ := h.registered
  rw [Command.callbacks, run_spi]
  exact spi_zero_of_command (h_ready rfl) h_search h.limit a

/-- No callback writes the table, so no run does. -/
theorem run_table (tasks : UserTasks σ) (d : Device σ) (cbs : List Callback) :
    ((controlSystem tasks).run d cbs).table = d.table :=
  (controlSystem tasks).run_invariant (P := fun d' => d'.table = d.table)
    (fun d' cb ih => (step_table d' cb).trans ih) rfl cbs

/-! ### The read of the recorded status -/

/-- The read start of a command comes right behind its header. -/
theorem i2c_neverAsks (h_search : resourceTableSearch d.table c.resid = some ifnum)
    (h_len : c.payload.length ≤ i2cDataMaxBytes) (h_not : ¬ IsStatusRead c.resid c.cmd)
    (a : HostArrays) :
    (i2cSystem tasks).EveryStep (fun d cb => ¬ d.i2c.AsksStatus cb) d (c.i2cCallbacks a) := by
  have h_other {cb : I2cCallback} (h_cb : cb ≠ .readStart) (d : Device σ) :
      ¬ d.i2c.AsksStatus cb := fun h_ask => h_cb h_ask.1
  cases h_dir : isControlCmdRead c.cmd with
  | false =>
    rw [i2cCallbacks_write h_dir h_len]
    refine Transducer.everyStep_of_forall fun cb h_cb d => h_other ?_ d
    rintro rfl
    simp [writeFrame, headerCallbacks] at h_cb
  | true =>
    rw [i2cCallbacks_read h_dir h_len, Transducer.everyStep_append]
    constructor
    · refine Transducer.everyStep_of_forall fun cb h_cb d => h_other ?_ d
      rintro rfl
      simp [headerCallbacks] at h_cb
    · have h_nat := toNat_ofNat_of_le h_len
      have h_header := run_header_i2c tasks d (c := c.cmd) h_search (h_nat.trans_le h_len)
      constructor
      · -- resource and command code in the struct are those of the command
        rintro ⟨-, -, h_status⟩
        rw [h_header] at h_status
        exact h_not h_status
      · refine Transducer.everyStep_of_forall fun cb h_cb d => h_other ?_ d
        rintro rfl
        simp [List.mem_append, List.mem_replicate] at h_cb

/-- A transaction whose body performs no read does not ask for the status. -/
theorem spi_neverAsks_body (h_zero : d.spi = Spi.zero) {items : List SpiItem}
    (h : NoReadPerformed items) :
    (spiSystem tasks).EveryStep (fun d cb => ¬ d.spi.AsksStatus cb) d
      (items.map SpiItem.callback) := by
  refine Transducer.everyStep_map fun pre x post h_items => ?_
  rintro ⟨h_cb, h_state, -⟩
  subst h_items
  rw [run_received tasks h_zero h.of_append] at h_state
  obtain ⟨-, -, h_start⟩ := Spi.received_state d.table (suppliedBytes pre)
  cases x with
  | supplied b => cases h_cb
  | requires => exact h pre post rfl (h_start h_state)

/-- Neither does one in a state that its bytes do not leave. -/
theorem spi_neverAsks_of_state {items : List SpiItem}
    (h : ∀ pre post, items = pre ++ post →
      ((spiSystem tasks).run d (pre.map SpiItem.callback)).spi.state ≠ .readDataStart) :
    (spiSystem tasks).EveryStep (fun d cb => ¬ d.spi.AsksStatus cb) d
      (items.map SpiItem.callback) :=
  Transducer.everyStep_map fun pre x post h_items h_ask => h pre (x :: post) h_items h_ask.2.1

theorem spi_neverAsks_ends (d : Device σ) :
    (spiSystem tasks).EveryStep (fun d cb => ¬ d.spi.AsksStatus cb) d [.masterEndsTransaction] :=
  Transducer.everyStep_of_forall fun cb h_cb d h_ask => by
    rw [List.mem_singleton.mp h_cb] at h_ask
    cases h_ask.1

/-- Over SPI a command performs one read at most. -/
theorem spi_neverAsks (h_zero : d.spi = Spi.zero)
    (h_search : resourceTableSearch d.table c.resid = some ifnum)
    (h_len : c.payload.length ≤ spiDataMaxBytes) (h_not : ¬ IsStatusRead c.resid c.cmd)
    (a : HostArrays) :
    (spiSystem tasks).EveryStep (fun d cb => ¬ d.spi.AsksStatus cb) d (c.spiCallbacks a) := by
  cases h_dir : isControlCmdRead c.cmd with
  | false =>
    rw [spiCallbacks_write h_dir h_len, spiTransaction, Transducer.everyStep_append]
    exact ⟨spi_neverAsks_body h_zero
      (noReadPerformed_of_write (suppliedBytes_exchange _ _) h_dir), spi_neverAsks_ends _⟩
  | true =>
    obtain ⟨before, after, h_split, h_before, h_first, h_after⟩ :=
      exchange_header a.spiRequiresFirst c.resid c.cmd (UInt8.ofNat c.payload.length) 0 [0, 0, 0, 0]
    have h_header : BringsHeader d.table before ifnum c.resid c.cmd
        (UInt8.ofNat c.payload.length) := ⟨⟨[], h_before⟩, h_first, h_search, h_dir⟩
    have h_zeroes : ∀ b ∈ suppliedBytes after, b = 0 := by
      rw [h_after]
      simp
    obtain ⟨-, -, -, -, -, h_run⟩ := spiRead_first tasks h_zero h_header h_zeroes
    rw [spiCallbacks_read h_dir h_len, h_split, Transducer.everyStep_append, h_run,
      spiTransaction_split, Transducer.everyStep_append, h_header.run tasks h_zero, spiTransaction,
      Transducer.everyStep_append]
    refine ⟨⟨spi_neverAsks_body h_zero h_first, ?_, ?_⟩, ?_, spi_neverAsks_ends _⟩
    · -- the read is performed here
      exact fun h_ask => h_not h_ask.2.2
    · rw [step_requires_read, Transducer.everyStep_append]
      refine ⟨spi_neverAsks_of_state fun pre post h_items => ?_, spi_neverAsks_ends _⟩
      have h_pre : ∀ b ∈ suppliedBytes pre, b = 0 := by
        intro b hb
        refine h_zeroes b ?_
        rw [h_items, suppliedBytes_append]
        exact List.mem_append_left _ hb
      rw [(trace_wait tasks rfl h_pre).1]
      intro h_state
      cases h_state
    · -- the second transaction delivers the data
      refine spi_neverAsks_of_state fun pre post _ => ?_
      rw [run_delivering tasks rfl pre]
      intro h_state
      cases h_state

/-- **No other command asks for the status**, on whichever transport. -/
theorem Command.neverAsks (tasks : UserTasks σ) (h_ready : ReadyFor t d)
    (h_search : resourceTableSearch d.table c.resid = some ifnum)
    (h_len : c.payload.length ≤ t.limit) (h_not : ¬ IsStatusRead c.resid c.cmd) (a : HostArrays) :
    (controlSystem tasks).EveryStep (fun d cb => ¬ AsksStatus d cb) d (c.callbacks a t) := by
  cases t with
  | i2c => exact Transducer.everyStep_comap (i2c_neverAsks h_search h_len h_not a)
  | spi => exact Transducer.everyStep_comap (spi_neverAsks (h_ready rfl) h_search h_len h_not a)
  | usb =>
    refine Transducer.everyStep_of_forall fun cb h_cb d h_ask => ?_
    rw [List.mem_singleton.mp h_cb, Command.usbCallback] at h_ask
    dsimp only [controlUsbFillHeader] at h_ask
    split at h_ask
    · -- the device reads resource and command code back from the setup packet
      obtain ⟨h_resid, h_cmd⟩ := h_ask
      rw [UInt8.toUInt8_toUInt16] at h_resid h_cmd
      exact h_not ⟨h_resid, h_cmd⟩
    · exact h_ask
  | xscope =>
    refine Transducer.everyStep_of_forall fun cb h_cb d h_ask => ?_
    rw [List.mem_singleton.mp h_cb] at h_ask
    obtain ⟨h_resid, h_cmd, -⟩ := xscopeUpload_fields (a := a) h_len
    exact h_not ⟨h_resid.symm.trans h_ask.1, h_cmd.symm.trans h_ask.2⟩

end Carry

/-! ### A list of commands -/

/-- What has become of a command on the entries of its callbacks: it has made this one call, and the
host has its answer. -/
structure CommandServed (table : ResourceTable) (t : Transport) (p : Command × HostArrays)
    (entries : List (Callback × Reply)) (call : UserCall) : Prop where
  callbacks : entries.map Prod.fst = p.1.callbacks p.2 t
  request : ∃ ifnum, resourceTableSearch table p.1.resid = some ifnum ∧
    call.request = p.1.request ifnum
  calls : entries.flatMap (fun e => e.2.calls) = [call]
  returned : ∃ e ∈ entries, e.2.calls = [call] ∧ e.2.ret = call.ret
  received : isControlCmdRead p.1.cmd = true → call.ret = controlSuccess →
    received t p.1.payload.length entries = call.produced

/-- What has become of a list of commands on the entries of their callbacks. -/
inductive CommandsServed (table : ResourceTable) (t : Transport) :
    List (Command × HostArrays) → List (Callback × Reply) → List UserCall → Prop
  | nil : CommandsServed table t [] [] []
  | cons {p : Command × HostArrays} {ps : List (Command × HostArrays)}
      {entries rest : List (Callback × Reply)} {call : UserCall} {calls : List UserCall}
      (h : CommandServed table t p entries call) (h_rest : CommandsServed table t ps rest calls) :
      CommandsServed table t (p :: ps) (entries ++ rest) (call :: calls)

section Commands

variable {t : Transport} {d : Device σ} {ps : List (Command × HostArrays)}

theorem Carries.served {a : HostArrays} {c : Command} {ifnum : UInt8} {call : UserCall}
    (h : Carries tasks t a c d ifnum call)
    (h_search : resourceTableSearch d.table c.resid = some ifnum) :
    CommandServed d.table t (c, a) ((controlSystem tasks).trace d (c.callbacks a t)) call := by
  obtain ⟨pre, cb, reply, post, h_trace, h_calls, h_ret, h_quiet⟩ := h.dispatched
  constructor
  case callbacks => exact (controlSystem tasks).map_fst_trace d _
  case request => exact ⟨ifnum, h_search, h.request⟩
  case calls =>
    -- all other entries are without calls
    obtain ⟨h_pre, h_post⟩ := List.forall_mem_append.mp h_quiet
    rw [h_trace, List.flatMap_append, List.flatMap_cons, List.flatMap_eq_nil_iff.mpr h_pre,
      List.flatMap_eq_nil_iff.mpr h_post, h_calls]
    rfl
  case returned => exact ⟨(cb, reply), by rw [h_trace]; simp, h_calls, h_ret⟩
  case received => exact h.received

/-- The callbacks of a list of commands, one after the other. -/
def commandCallbacks (t : Transport) (ps : List (Command × HostArrays)) : List Callback :=
  ps.flatMap fun p => p.1.callbacks p.2 t

/-- **Commands in turn.** A transport that is ready serves all commands of a list, and asks for the
recorded status in none of them. -/
theorem commands_served (tasks : UserTasks σ) (h_ready : ReadyFor t d)
    (h : ∀ p ∈ ps, Servable d.table t p.1) :
    (∃ calls, CommandsServed d.table t ps ((controlSystem tasks).trace d (commandCallbacks t ps))
        calls) ∧
      (controlSystem tasks).EveryStep (fun d cb => ¬ AsksStatus d cb) d
        (commandCallbacks t ps) := by
  induction ps generalizing d with
  | nil => exact ⟨⟨[], .nil⟩, trivial⟩
  | cons p ps ih =>
    obtain ⟨h_head, h_tail⟩ := List.forall_mem_cons.mp h
    obtain ⟨ifnum, h_search⟩ := h_head.registered
    obtain ⟨call, h_call⟩ := carries_of_ready tasks h_ready h_head h_search p.2
    -- the table and the transport are for the next command as they were for this one
    have h_table := run_table tasks d (p.1.callbacks p.2 t)
    have h_next : ReadyFor t ((controlSystem tasks).run d (p.1.callbacks p.2 t)) :=
      h_ready.run h_head p.2
    obtain ⟨⟨calls, h_calls⟩, h_asks⟩ := ih h_next (by rwa [h_table])
    rw [h_table] at h_calls
    have h_not : ¬ IsStatusRead p.1.resid p.1.cmd := fun h_status => h_head.ne_special h_status.1
    rw [commandCallbacks, List.flatMap_cons, Transducer.trace_append, Transducer.everyStep_append]
    exact ⟨⟨call :: calls, .cons (h_call.served h_search) h_calls⟩,
      Command.neverAsks tasks h_ready h_search h_head.limit h_not p.2, h_asks⟩

end Commands

end DeviceControl
