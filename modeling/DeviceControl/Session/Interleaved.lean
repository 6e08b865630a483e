import DeviceControl.Session.Commands
import DeviceControl.Session.Server

/-!
# Commands on all transports at once

The hosts of the four transports send their commands without knowing of each other, and the device
gets the bytes of one in between those of another. `interleaved_commands` says that this does not
matter: every command makes its one call and brings its answer to its host, as it does on a
transport that is alone, and the calls of all of them are those of a server that takes one command
after the other. So the device is linearizable: a command takes effect at its call, which lies
between the first and the last of its callbacks.

The proof has nothing to look at inside of a command any more. A transport on its own is the subject
of `commands_served`, `StandsFor.trace_eq` takes it from there to every interleaving, and
`served_in_order` puts the calls of all transports into one order.
-/

namespace DeviceControl

variable {σ : Type} {tasks : UserTasks σ}

/-- The callbacks are those of these commands: each transport has its own in their order, and what
comes in between is of the others. -/
def Interleaves (commands : Transport → List (Command × HostArrays)) (cbs : List Callback) : Prop :=
  ∀ t, cbs.filter (Callback.isOf t) = commandCallbacks t (commands t)

/-- What a linearizable device does with the commands of its transports. -/
structure Linearizes (tasks : UserTasks σ) (d : Device σ)
    (commands : Transport → List (Command × HostArrays)) (cbs : List Callback) : Prop where
  /-- On every transport, each command makes one call, in their order, and its host has the
  answer. -/
  served : ∀ t, ∃ calls, CommandsServed d.table t (commands t)
    ((controlSystem tasks).traceOf (Callback.isOf t) d cbs) calls
  /-- The calls of all transports are answered as by the command server. -/
  answers :
    let history := ((controlSystem tasks).trace d cbs).flatMap fun p => p.2.served
    (commandServer tasks).trace d.users (history.map Prod.fst) = history
  users :
    let history := ((controlSystem tasks).trace d cbs).flatMap fun p => p.2.served
    ((controlSystem tasks).run d cbs).users
      = (commandServer tasks).run d.users (history.map Prod.fst)

/-! ### Room for the data -/

section Fit

variable {t : Transport} {ps : List (Command × HostArrays)} {entries : List (Callback × Reply)}
  {calls : List UserCall} {table : ResourceTable}

/-- The array of a callback has room for the data of its command. -/
theorem limit_le_capacity {c : Command} {a : HostArrays} {cb : Callback}
    (h_cb : cb ∈ c.callbacks a t) : t.limit ≤ cb.capacity := by
  cases t with
  | i2c =>
    obtain ⟨cb, -, rfl⟩ := List.mem_map.mp h_cb
    exact le_rfl
  | spi =>
    obtain ⟨cb, -, rfl⟩ := List.mem_map.mp h_cb
    exact le_rfl
  | usb =>
    rw [List.mem_singleton.mp h_cb, Command.usbCallback]
    split
    · exact le_rfl
    · exact le_rfl
  | xscope =>
    rw [List.mem_singleton.mp h_cb]
    exact (by decide : xscopeUploadMaxWords ≤ xscopeDataMaxBytes)

theorem CommandServed.fits {p : Command × HostArrays} {call : UserCall}
    (h : CommandServed table t p entries call) (h_len : p.1.payload.length ≤ t.limit) :
    ∀ e ∈ entries, ReadsFit e.1.capacity e.2.calls := by
  intro e he call' h_call' h_read
  -- the call of the command is the only one
  have h_mem : call' ∈ entries.flatMap fun e => e.2.calls := List.mem_flatMap.mpr ⟨e, he, h_call'⟩
  rw [h.calls] at h_mem
  obtain rfl := List.mem_singleton.mp h_mem
  have h_cb : e.1 ∈ p.1.callbacks p.2 t := by
    rw [← h.callbacks]
    exact List.mem_map_of_mem he
  obtain ⟨ifnum, -, h_request⟩ := h.request
  have h_payloadLen : call'.request.payloadLen = p.1.payload.length := by
    rw [h_request, Command.request]
    split <;> rfl
  rw [h_payloadLen]
  exact h_len.trans (limit_le_capacity h_cb)

theorem CommandsServed.fits (h : CommandsServed table t ps entries calls)
    (h_len : ∀ p ∈ ps, p.1.payload.length ≤ t.limit) :
    ∀ e ∈ entries, ReadsFit e.1.capacity e.2.calls := by
  induction h with
  | nil => exact List.forall_mem_nil _
  | cons h_head _ ih =>
    obtain ⟨h_first, h_others⟩ := List.forall_mem_cons.mp h_len
    exact List.forall_mem_append.mpr ⟨h_head.fits h_first, ih h_others⟩

end Fit

/-! ### Every interleaving -/

/-- **A transport among others** serves its commands as it does alone. -/
theorem commands_served_among (tasks : UserTasks σ) {d : Device σ} {cbs : List Callback}
    {t : Transport} {ps : List (Command × HostArrays)} (h_ready : ReadyFor t d)
    (h : ∀ p ∈ ps, Servable d.table t p.1)
    (h_cbs : cbs.filter (Callback.isOf t) = commandCallbacks t ps) :
    ∃ calls, CommandsServed d.table t ps ((controlSystem tasks).traceOf (Callback.isOf t) d cbs)
      calls := by
  -- alone, the transport serves them against the answers that its calls come to
  have h_stands := standsFor_withUsers t d (outcomesOf tasks t d cbs)
  set d' := d.withUsers (outcomesOf tasks t d cbs)
  obtain ⟨⟨calls, h_served⟩, h_asks⟩ := commands_served .replay (d := d') h_ready h
  rw [← h_cbs] at h_served h_asks
  rw [h_stands.trace_eq h_asks] at h_served
  exact ⟨calls, h_served⟩

/-- **Linearizability.** From every reachable state in which SPI is idle, servable commands of the
four transports are served in every interleaving of their callbacks: each of them once, with its
answer brought to its host, and all of them, if the user tasks are regular, as by a server that
takes one after the other. -/
theorem interleaved_commands (h_regular : tasks.Regular) {answers : List (List ControlResid)}
    {d : Device σ} (h_reach : Reachable tasks answers d) (h_idle : d.spi.state = .idle)
    (commands : Transport → List (Command × HostArrays))
    (h : ∀ t, ∀ p ∈ commands t, Servable d.table t p.1) (cbs : List Callback)
    (h_cbs : Interleaves commands cbs) : Linearizes tasks d commands cbs := by
  have h_ready (t : Transport) : ReadyFor t d := fun _ => h_reach.spi_zero_of_idle h_idle
  have h_served (t : Transport) := commands_served_among tasks (h_ready t) (h t) (h_cbs t)
  -- an entry of the run is one of its transport, and that has room for its data
  have h_fit : ∀ e ∈ (controlSystem tasks).trace d cbs, ReadsFit e.1.capacity e.2.calls := by
    intro e he
    obtain ⟨calls, h_calls⟩ := h_served e.1.transport
    refine h_calls.fits (fun p hp => (h e.1.transport p hp).limit) e ?_
    exact List.mem_filter.mpr ⟨he, decide_eq_true rfl⟩
  obtain ⟨h_answers, h_users⟩ := served_in_order h_regular d cbs h_fit
  exact ⟨h_served, h_answers, h_users.symm⟩

/-- A write over I2C, with a read over USB in front of its last byte. -/
theorem interleaved_commands_run :
    let a : HostArrays := ⟨Buffer.ofList 0 [], Buffer.ofList 0 [], true, Buffer.ofList 0 [],
      Buffer.ofList 0 [], Buffer.ofList 0 []⟩
    let read : Command := ⟨resourceId, 0x80, [9, 9]⟩
    let commands : Transport → List (Command × HostArrays)
      | .i2c => [(⟨resourceId, 0, [42]⟩, a)]
      | .usb => [(read, a)]
      | _ => []
    Linearizes (app false) (boot [[resourceId]] .initial) commands
      ((writeFrame resourceId 0 1 []).map .i2c ++ read.usbCallback a
        :: [.i2c (.writeData 42), .i2c .stop]) := by
  intro a read commands
  have h_search : resourceTableSearch (boot [[resourceId]] App.initial).table resourceId
      = some 0 := by decide +kernel
  refine interleaved_commands (app_regular false) (reachable_boot _ _) rfl commands ?_ _ ?_
  · intro t
    cases t with
    | i2c => exact List.forall_mem_singleton.mpr ⟨⟨0, h_search⟩, by decide, by decide, nofun⟩
    | usb => exact List.forall_mem_singleton.mpr ⟨⟨0, h_search⟩, by decide, by decide, nofun⟩
    | _ => exact List.forall_mem_nil _
  · -- the callbacks that are kept for a transport
    have h_read : read.usbCallback a
        = .usbGetRequest resourceId.toUInt16 (0x80 : UInt8).toUInt16 2 a.usbData := by
      rw [Command.usbCallback, if_pos (by decide)]
      rfl
    intro t
    rw [h_read]
    cases t with
    | i2c =>
      rw [commandCallbacks, List.flatMap_singleton, Command.callbacks,
        i2cCallbacks_write (by decide) (by decide)]
      rfl
    | usb =>
      rw [commandCallbacks, List.flatMap_singleton, Command.callbacks, h_read]
      rfl
    | _ => rfl

end DeviceControl
