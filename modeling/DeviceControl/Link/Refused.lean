import DeviceControl.Link.Session

/-!
# Commands for unknown resources

A command for a resource that no user task has registered is refused by the library, and no user
task gets to know of it. What the host gets to know depends on the transport. I2C and USB have an
error for it. Over SPI a read brings zeroes and returns success, and a write returns the status that
has been recorded before it. The response over xSCOPE is the upload as it came, so that the host
takes for the return value what its own array had in the padding.

All of this is for a payload within the reach of the transport. A longer one may not get as far as
the device, and what the host is told of it is another matter.

`unknown_refused` puts the results about the links together.
-/

namespace DeviceControl

variable {σ W : Type} {tasks : UserTasks σ}

/-- What a host makes of a command for an unknown resource, where `recorded` is the status recorded
before it and `pad` the padding of an upload. -/
def Transport.toldUnknown (t : Transport) (method : Method) (recorded : ControlStatus)
    (pad : UInt8) : ControlRet :=
  match t, method with
  | .spi, .read => controlSuccess
  | .spi, .write => recorded
  | .xscope, _ => pad
  | _, _ => controlError

/-- The direction of a command. -/
def Command.method (c : Command) : Method := if isControlCmdRead c.cmd then .read else .write

/-- Some user task has registered the resource of the command. -/
def Command.known (table : ResourceTable) (c : Command) : Bool :=
  (resourceTableSearch table c.resid).isSome

/-- A command has been refused: the user tasks and the table are as before, and the link is ready
for the next command. -/
structure HostRefused (L : HostLink σ W) (s : HostState W) (ret : ControlRet) (a : HostAnswer)
    (s' : HostState W) : Prop where
  ret : a.ret = ret
  users : (L.device s'.world).users = (L.device s.world).users
  table : (L.device s'.world).table = (L.device s.world).table
  ready : L.Ready s'

/-! ### I2C -/

section I2c

variable {d : Device σ} {resid : UInt8}

theorem step_writeData_unknown (tasks : UserTasks σ) (hs : d.i2c.state = .writeStart)
    (h_none : resourceTableSearch d.table resid = none) :
    (i2cSystem tasks).step d (.writeData resid)
      = ({ d with lastStatus := controlBadCommand, i2c := { d.i2c with state := .error } },
          { ret := controlBadCommand }) := by
  change controlProcessI2cWriteData tasks resid d = _
  unfold controlProcessI2cWriteData i2cWriteData
  rw [hs]
  dsimp only
  rw [h_none]

/-- The slave answers an unknown resource with a NACK, and the master gives up there. -/
theorem i2cSent_unknown (tasks : UserTasks σ) (h_none : resourceTableSearch d.table resid = none)
    (bytes : List UInt8) (rest : List I2cCallback) {stops : List I2cCallback}
    (h_stops : ∀ cb ∈ stops, cb = .stop) :
    let cbs := i2cWriteTransfer (resid :: bytes) ++ rest
    ¬ I2cAcked tasks d cbs ∧
      ((i2cSystem tasks).run d (i2cSent tasks d cbs ++ stops)).users = d.users := by
  intro cbs
  set d₁ := ((i2cSystem tasks).step d .writeStart).1
  have h_step := step_writeData_unknown tasks (d := d₁) rfl h_none
  have h_bad : controlBadCommand ≠ controlSuccess := by decide
  have h_nack : ((i2cControlClient tasks).step d₁ (.writeData resid)).2 = .nack := by
    rw [i2cControlClient_nack_iff, h_step]
    exact ⟨nofun, nofun, h_bad⟩
  have h_start : I2cAcked tasks d [.writeStart] := i2cAcked_of_quiet
    (List.forall_mem_singleton.mpr (Reply.quiet_success []))
  have h_sent : i2cSent tasks d cbs = [.writeStart, .writeData resid] := by
    have h_tail : i2cSent tasks d₁ (.writeData resid :: (bytes.map .writeData ++ rest))
        = [.writeData resid] := Transducer.upTo_cons_of_failure h_nack
    calc i2cSent tasks d cbs
        = [.writeStart] ++ i2cSent tasks d₁ (.writeData resid :: (bytes.map .writeData ++ rest)) :=
          i2cSent_append h_start _
      _ = [.writeStart, .writeData resid] := by rw [h_tail, List.singleton_append]
  constructor
  · exact fun h_acked => h_acked _ (List.mem_cons_of_mem _ List.mem_cons_self) h_nack
  · rw [h_sent, Transducer.run_append, run_readData_stop_users _ fun cb h => Or.inr (h_stops cb h)]
    show ((i2cSystem tasks).step d₁ (.writeData resid)).1.users = d.users
    rw [h_step]
    rfl

variable {cmd : UInt8} {payload : List UInt8} {s : HostState W}

section RpiI2c

variable {write : W → List UInt8 → ℤ × W} {rdwr : W → List UInt8 → ℕ → HostTransfer W}
  {device : W → Device σ} (h_works : RpiI2cWorks tasks write rdwr device)
  (h_none : resourceTableSearch (device s.world).table resid = none)

include h_works h_none

theorem rpiI2c_readRefused (h_read : isControlCmdRead cmd = true)
    (h_len : payload.length ≤ i2cDataMaxBytes) (l : HostLocals) :
    ∃ a s', (HostLink.rpiI2c write rdwr device).controlReadCommand s l resid cmd payload
        = some (a, s') ∧
      HostRefused (.rpiI2c write rdwr device) s controlError a s' := by
  set k := payload.length
  obtain ⟨h_nacked, h_users⟩ := i2cSent_unknown tasks h_none [cmd, UInt8.ofNat k] (i2cReads k)
    forall_mem_stop
  have h_neg := h_works.rdwr_nacked s.world [resid, cmd, UInt8.ofNat k] k h_nacked
  rw [← h_works.rdwr_device] at h_users
  have h_table := congrArg Device.table (h_works.rdwr_device s.world [resid, cmd, UInt8.ofNat k] k)
  rw [run_i2c_table] at h_table
  have h_result : rpiI2cControlReadCommand s.world resid cmd payload rdwr l.data
      = (let transfer := rdwr s.world [resid, cmd, UInt8.ofNat k] k
        ⟨controlError, transfer.bytes, transfer.world⟩) := by
    rw [rpiI2c_read_eq s.world rdwr l.data resid h_read h_len]
    exact if_pos h_neg
  refine ⟨_, _, rfl, ?_⟩
  rw [h_result]
  exact ⟨rfl, h_users, h_table, trivial⟩

theorem rpiI2c_writeRefused (h_write : isControlCmdRead cmd = false)
    (h_len : payload.length ≤ i2cDataMaxBytes) (l : HostLocals) :
    ∃ a s', (HostLink.rpiI2c write rdwr device).controlWriteCommand s l resid cmd payload
        = some (a, s') ∧
      HostRefused (.rpiI2c write rdwr device) s controlError a s' := by
  set bytes := resid :: cmd :: UInt8.ofNat payload.length :: payload with h_bytes
  obtain ⟨h_nacked, h_users⟩ := i2cSent_unknown tasks h_none
    (cmd :: UInt8.ofNat payload.length :: payload) [] forall_mem_stop
  rw [List.append_nil] at h_nacked h_users
  have h_neg := h_works.write_nacked s.world bytes h_nacked
  rw [← h_works.write_device] at h_users
  have h_table := congrArg Device.table (h_works.write_device s.world bytes)
  rw [run_i2c_table] at h_table
  have h_result : rpiI2cControlWriteCommand s.world resid cmd payload write rdwr l.buffer
      l.queryData l.status = ⟨controlError, (write s.world bytes).2⟩ := by
    rw [rpiI2c_write_eq s.world write rdwr l resid h_write h_len]
    have h_ne : (write s.world bytes).1 ≠ bytes.length := by omega
    exact if_pos h_ne
  refine ⟨_, _, rfl, ?_⟩
  rw [h_result]
  exact ⟨rfl, h_users, h_table, trivial⟩

end RpiI2c

section XcoreI2c

variable {write : W → List UInt8 → Bool → I2cMasterWrite W} {read : W → ℕ → I2cMasterRead W}
  {device : W → Device σ} (h_works : XcoreI2cWorks tasks write read device)
  (h_none : resourceTableSearch (device s.world).table resid = none)

include h_works h_none

theorem xcoreI2c_readRefused (h_read : isControlCmdRead cmd = true)
    (h_len : payload.length ≤ i2cDataMaxBytes) (l : HostLocals) :
    ∃ a s', (HostLink.xcoreI2c write read device).controlReadCommand s l resid cmd payload
        = some (a, s') ∧
      HostRefused (.xcoreI2c write read device) s controlError a s' := by
  set header := [resid, cmd, UInt8.ofNat payload.length]
  have h_stops : ∀ cb ∈ ([] : List I2cCallback), cb = .stop := List.forall_mem_nil _
  obtain ⟨h_nacked, h_users⟩ := i2cSent_unknown tasks h_none [cmd, UInt8.ofNat payload.length] []
    h_stops
  have h_transfer : i2cWriteTransfer header ++ [] = i2cWriteTransfer header := List.append_nil _
  rw [h_transfer] at h_nacked h_users
  have h_nack := h_works.write_nacked s.world header false h_nacked
  have h_device : device (write s.world header false).world = _ :=
    h_works.write_device s.world header false
  have h_result : xcoreI2cControlReadCommand s.world resid cmd payload
      (fun w bytes => write w bytes false) read l.data
      = ⟨controlError, payload, (write s.world header false).world⟩ := by
    rw [xcoreI2c_read_eq s.world _ read l.data resid h_read h_len]
    exact if_pos (by rw [h_nack]; decide)
  refine ⟨_, _, rfl, ?_⟩
  rw [h_result]
  refine ⟨rfl, ?_, ?_, trivial⟩
  · show (device (write s.world header false).world).users = _
    rw [h_device]
    exact h_users
  · show (device (write s.world header false).world).table = _
    rw [h_device, run_i2c_table]
    rfl

theorem xcoreI2c_writeRefused (h_write : isControlCmdRead cmd = false)
    (h_len : payload.length ≤ i2cDataMaxBytes) (l : HostLocals) :
    ∃ a s', (HostLink.xcoreI2c write read device).controlWriteCommand s l resid cmd payload
        = some (a, s') ∧
      HostRefused (.xcoreI2c write read device) s controlError a s' := by
  set bytes := resid :: cmd :: UInt8.ofNat payload.length :: payload
  obtain ⟨h_nacked, h_users⟩ := i2cSent_unknown tasks h_none
    (cmd :: UInt8.ofNat payload.length :: payload) [] forall_mem_stop
  rw [List.append_nil] at h_nacked h_users
  have h_nack := h_works.write_nacked s.world bytes true h_nacked
  have h_device : device (write s.world bytes true).world = _ :=
    h_works.write_device s.world bytes true
  have h_result : xcoreI2cControlWriteCommand s.world resid cmd payload write read l.data
      l.queryData l.status = ⟨controlError, (write s.world bytes true).world⟩ := by
    rw [xcoreI2c_write_eq s.world write read l resid h_write h_len]
    exact if_pos (by rw [h_nack]; decide)
  refine ⟨_, _, rfl, ?_⟩
  rw [h_result]
  refine ⟨rfl, ?_, ?_, trivial⟩
  · show (device (write s.world bytes true).world).users = _
    rw [h_device]
    exact h_users
  · show (device (write s.world bytes true).world).table = _
    rw [h_device, run_i2c_table]
    rfl

end XcoreI2c

end I2c

/-! ### SPI -/

section Spi

variable {d : Device σ} {resid : UInt8}

/-- A machine that has received an unknown resource ignores what comes up to the end. -/
theorem run_spi_error (tasks : UserTasks σ) (hs : d.spi.state = .error) (items : List SpiItem) :
    (spiSystem tasks).run d (items.map SpiItem.callback) = d := by
  induction items with
  | nil => rfl
  | cons x items ih =>
    have h_step : ((spiSystem tasks).step d x.callback).1 = d := by
      cases x with
      | supplied b =>
        rw [step_supplied tasks (by rw [hs]; decide), spiSuppliedData, hs]
      | requires =>
        have h_quiet : (spiSystem tasks).step d .masterRequiresData = _ :=
          step_requires_quiet tasks (by rw [hs]; decide) (by rw [hs]; decide)
        rw [SpiItem.callback, h_quiet]
    rw [List.map_cons, Transducer.run_cons, h_step, ih]

/-- The body of a transaction whose first byte is an unknown resource. -/
theorem run_spi_unknown (tasks : UserTasks σ) (h_zero : d.spi = Spi.zero)
    (h_none : resourceTableSearch d.table resid = none) {items : List SpiItem} {rest : List UInt8}
    (h_bytes : suppliedBytes items = resid :: rest) :
    (spiSystem tasks).run d (items.map SpiItem.callback)
      = d.withSpi { Spi.zero with state := .error } := by
  have h_idle : d.spi.state = .idle := by
    rw [h_zero]
    rfl
  induction items with
  | nil => cases h_bytes
  | cons x items ih =>
    rw [List.map_cons, Transducer.run_cons]
    cases x with
    | requires =>
      have h_quiet : (spiSystem tasks).step d .masterRequiresData = _ :=
        step_requires_quiet tasks (by rw [h_idle]; decide) (by rw [h_idle]; decide)
      rw [SpiItem.callback, h_quiet]
      exact ih h_bytes
    | supplied b =>
      obtain ⟨rfl, -⟩ := List.cons.inj h_bytes
      have h_step : ((spiSystem tasks).step d (SpiItem.supplied b).callback).1
          = d.withSpi { Spi.zero with state := .error } := by
        rw [step_supplied tasks (by rw [h_idle]; decide), spiSuppliedData, h_idle]
        dsimp only
        rw [UInt8.toUInt8_toUInt32, h_none, h_zero]
        rfl
      rw [h_step]
      exact run_spi_error tasks rfl items

/-- **The transaction of an unknown resource** leaves the device as it was. -/
theorem spiTransfer_unknown (tasks : UserTasks σ) (requiresFirst : Bool) (h_zero : d.spi = Spi.zero)
    (h_none : resourceTableSearch d.table resid = none) (rest : List UInt8) :
    (spiTransfer tasks requiresFirst d (resid :: rest)).2 = d := by
  have h_bytes := suppliedBytes_exchange requiresFirst (resid :: rest)
  set d₁ := d.withSpi { Spi.zero with state := .error } with h_d₁
  have h_state : d₁.spi.state = .error := rfl
  rw [spiTransfer_eq]
  show (spiSystem tasks).run d (spiTransaction (exchange requiresFirst (resid :: rest))) = d
  rw [spiTransaction, Transducer.run_concat, run_spi_unknown tasks h_zero h_none h_bytes, ← h_d₁,
    step_ends_reset tasks (by rw [h_state]; decide) (by rw [h_state]; decide), ← h_zero]
  rfl

/-- And so does one of zeroes, which is a frame that is too long. -/
theorem spiTransfer_zeroes (tasks : UserTasks σ) (requiresFirst : Bool) (h_zero : d.spi = Spi.zero)
    {m : ℕ} (h_long : 4 ≤ m) :
    (spiTransfer tasks requiresFirst d (List.replicate m 0)).2 = d := by
  set items := exchange requiresFirst (List.replicate m (0 : UInt8)) with h_items
  obtain ⟨m, rfl⟩ := Nat.exists_eq_add_of_le' h_long
  have h_bytes : suppliedBytes items = 0 :: 0 :: 0 :: 0 :: List.replicate m 0 := by
    rw [h_items, suppliedBytes_exchange]
    rfl
  have h_body : NoReadPerformed items := noReadPerformed_of_write h_bytes (by decide)
  have h_frame : ∀ ifnum r c ps, ¬ CompleteFrame d.table (suppliedBytes items) ifnum r c ps := by
    rintro ifnum r c ps ⟨⟨n, h_len, h_eq⟩, -, -, -⟩
    -- the length byte is a zero, and there are bytes behind it
    rw [h_bytes] at h_eq
    obtain ⟨rfl, rfl⟩ := List.cons.inj (List.cons.inj (List.cons.inj h_eq).2).2
    cases h_len
  obtain ⟨reply, h_step, -⟩ := step_ends_incomplete tasks h_frame
  rw [spiTransfer_eq]
  show (spiSystem tasks).run d (spiTransaction items) = d
  rw [(trace_spiTransaction tasks h_zero h_body).2, h_step, ← h_zero]
  rfl

variable {transfern : W → List UInt8 → List UInt8 × W} {requiresFirst : Bool}
  {device : W → Device σ} {cmd : UInt8} {payload : List UInt8} {s : HostState W}
  (h_works : (HostLink.rpiSpi transfern requiresFirst device).Works tasks)
  (h_zero : (device s.world).spi = Spi.zero)
  (h_none : resourceTableSearch (device s.world).table resid = none)

include h_works h_zero h_none

theorem rpiSpi_readRefused (h_read : isControlCmdRead cmd = true)
    (h_len : payload.length ≤ spiDataMaxBytes) (l : HostLocals) :
    ∃ a s', (HostLink.rpiSpi transfern requiresFirst device).controlReadCommand s l resid cmd
        payload = some (a, s') ∧
      HostRefused (.rpiSpi transfern requiresFirst device) s controlSuccess a s' := by
  set n := payload.length with h_n
  have h_mod : n % 2 ^ 32 = n := Nat.mod_eq_of_lt (h_len.trans_lt (by decide))
  set m := if n < 8 then 8 else n % 2 ^ 32 with h_m
  have h_long : 4 ≤ m := by
    rw [h_m, h_mod]
    split
    · omega
    · omega
  set header := [resid, cmd, UInt8.ofNat n, 0, 0, 0, 0, 0]
  set first := transfern s.world header
  set second := transfern first.2 (List.replicate m 0)
  have h_sent : sent (controlBuildSpiData (Buffer.ofList 0 []) resid cmd (some payload)
      (n % 2 ^ 32)) = header := by
    rw [h_mod, sent_buildSpi_read _ h_read _ h_len]
  have h_result : rpiSpiControlReadCommand s.world resid cmd payload transfern
      = ⟨controlSuccess, second.1.take n, second.2⟩ := by
    unfold rpiSpiControlReadCommand
    dsimp only
    rw [← h_n, h_sent]
  -- neither transaction leaves anything
  have h_first : device first.2 = device s.world :=
    (congrArg Prod.snd (h_works s.world header)).trans
      (spiTransfer_unknown tasks requiresFirst h_zero h_none _)
  have h_second : device second.2 = device s.world := by
    rw [← h_first]
    exact (congrArg Prod.snd (h_works first.2 _)).trans
      (spiTransfer_zeroes tasks requiresFirst (by rw [h_first, h_zero]) h_long)
  refine ⟨_, _, rfl, ?_⟩
  rw [h_result]
  refine ⟨rfl, congrArg Device.users h_second, congrArg Device.table h_second, ?_⟩
  exact (congrArg Device.spi h_second).trans h_zero

theorem rpiSpi_writeRefused (h_table : (device s.world).table.Reserves)
    (h_write : isControlCmdRead cmd = false) (h_len : payload.length ≤ spiDataMaxBytes)
    (l : HostLocals) :
    ∃ a s', (HostLink.rpiSpi transfern requiresFirst device).controlWriteCommand s l resid cmd
        payload = some (a, s') ∧
      HostRefused (.rpiSpi transfern requiresFirst device) s (device s.world).lastStatus a s' := by
  set frame := resid :: cmd :: UInt8.ofNat payload.length :: payload
  set w₁ := (transfern s.world frame).2
  set query := rpiSpiControlReadCommand w₁ controlSpecialResid controlGetLastCommandStatus
    [l.status] transfern
  have h_mod : payload.length % 2 ^ 32 = payload.length :=
    Nat.mod_eq_of_lt (h_len.trans_lt (by decide))
  have h_sent : sent (controlBuildSpiData l.data resid cmd (some payload) (payload.length % 2 ^ 32))
      = frame := by
    rw [h_mod, sent_buildSpi_write _ h_write h_len]
  have h_result : rpiSpiControlWriteCommand s.world resid cmd payload transfern l.data l.status
      = if query.ret ≠ controlSuccess then ⟨controlError, query.world⟩
        else ⟨query.payload.headD l.status, query.world⟩ := by
    unfold rpiSpiControlWriteCommand
    dsimp only
    rw [h_sent]
  have h_first : device w₁ = device s.world :=
    (congrArg Prod.snd (h_works s.world frame)).trans
      (spiTransfer_unknown tasks requiresFirst h_zero h_none _)
  -- the query reads what has been recorded before the command
  have h_special : resourceTableSearch (device w₁).table controlSpecialResid = some ifnumReserved :=
    resourceTableSearch_special (by rw [h_first]; exact h_table)
  have h_reset : (device w₁).spi = Spi.zero := by rw [h_first, h_zero]
  have h_done := rpiSpi_readDone h_works ⟨w₁, s.xscope⟩ h_reset [l.status] h_special
    (IsSpecialCmd.read (Or.inr rfl)) one_le_spiDataMaxBytes
  obtain ⟨h_told, h_kept⟩ := h_done.special (Or.inr rfl)
  obtain ⟨h_ret, h_payload⟩ := HostAnswer.mk.inj h_told
  refine ⟨_, _, rfl, ?_⟩
  rw [h_result, if_neg (not_not.mpr h_ret), h_payload]
  exact ⟨congrArg Device.lastStatus h_first, h_kept.trans (congrArg Device.users h_first),
    h_done.table.trans (congrArg Device.table h_first), h_done.ready⟩

end Spi

/-! ### USB -/

section Usb

variable {server : UsbServer σ} {resid cmd : UInt8}

/-- A read of an unknown resource is stalled. -/
theorem usbD2h_unknown (tasks : UserTasks σ) (cmd : UInt8)
    (h_none : resourceTableSearch server.device.table resid = none) {n : ℕ}
    (h_len : n ≤ ep0MaxRequestSize) :
    let o := usbD2hVendorOutcome tasks (fun _ _ => .okay) (vendorSetup resid cmd n) server
    o.server.device = server.device ∧ o.stage = none := by
  intro o
  have h_max := le_usbDataMaxBytes h_len
  obtain ⟨h_resid, -, -⟩ := vendorSetup_fields resid cmd h_max
  have h_accepted : (vendorSetup resid cmd n).Accepted := (accepted_vendorSetup_iff h_max).mpr h_len
  set sp := vendorSetup resid cmd n
  have h_get : controlProcessUsbGetRequest tasks sp.wIndex sp.wValue sp.wLength server.requestData
      server.device = (server.device,
        { ret := controlBadCommand, output := .usbData server.requestData.toList }) := by
    unfold controlProcessUsbGetRequest
    dsimp only
    rw [h_resid, h_none]
  have h_bad : controlBadCommand ≠ controlSuccess := by decide
  have h_outcome : o = usbD2hVendorOutcome tasks (fun _ _ => .okay) sp server := rfl
  unfold usbD2hVendorOutcome at h_outcome
  rw [if_pos h_accepted, h_get] at h_outcome
  dsimp only at h_outcome
  rw [if_neg h_bad] at h_outcome
  rw [h_outcome]
  exact ⟨rfl, rfl⟩

/-- A write to one has no status stage, and is recorded as a bad command. -/
theorem usbH2d_unknown (tasks : UserTasks σ) (cmd : UInt8)
    (h_none : resourceTableSearch server.device.table resid = none) {payload : List UInt8}
    (h_len : payload.length ≤ ep0MaxRequestSize) :
    let o := usbH2dVendorRequest tasks (packetsOf payload) .okay
      (vendorSetup resid cmd payload.length) server
    o.server.device = { server.device with lastStatus := controlBadCommand } ∧ o.stage = none := by
  intro o
  have h_max := le_usbDataMaxBytes h_len
  obtain ⟨h_resid, -, h_nat⟩ := vendorSetup_fields resid cmd h_max
  have h_accepted : (vendorSetup resid cmd payload.length).Accepted :=
    (accepted_vendorSetup_iff h_max).mpr h_len
  set sp := vendorSetup resid cmd payload.length
  obtain ⟨k, h_stage, h_okay, -⟩ := dataStage_packetsOf h_nat
  have h_step : (usbSystem tasks).step server.device
      (sp.setRequest (server.filled (packetsOf payload) k))
      = ({ server.device with lastStatus := controlBadCommand }, { ret := controlBadCommand }) := by
    rw [usbStep_set rfl]
    unfold controlProcessUsbSetRequest
    dsimp only [UsbSetupPacket.setRequest]
    rw [h_resid, h_none]
  have h_bad : controlBadCommand ≠ controlSuccess := by decide
  have h_outcome : o = _ := usbH2d_received h_accepted h_stage h_okay
  rw [h_step] at h_outcome
  dsimp only at h_outcome
  rw [if_neg h_bad] at h_outcome
  rw [h_outcome]
  exact ⟨rfl, rfl⟩

variable {controlOut : W → UsbSetupPacket → List UInt8 → ℤ × W}
  {controlIn : W → UsbSetupPacket → HostTransfer W} {server : W → UsbServer σ}
  {payload : List UInt8} {s : HostState W}
  (h_works : UsbWorks tasks controlOut controlIn server)
  (h_none : resourceTableSearch (server s.world).device.table resid = none)

include h_works h_none

theorem usb_readRefused (h_read : isControlCmdRead cmd = true)
    (h_len : payload.length ≤ ep0MaxRequestSize) (l : HostLocals) :
    ∃ a s', (HostLink.usb controlOut controlIn server).controlReadCommand s l resid cmd payload
        = some (a, s') ∧
      HostRefused (.usb controlOut controlIn server) s controlError a s' := by
  obtain ⟨h_device, h_stage⟩ := usbD2h_unknown tasks cmd h_none h_len
  rw [← h_works.in_server _ _ rfl] at h_device
  have h_neg : (controlIn s.world (vendorSetup resid cmd payload.length)).ret < 0 :=
    h_works.in_failed _ _ rfl h_stage
  set transfer := controlIn s.world (vendorSetup resid cmd payload.length)
  have h_result : usbControlReadCommand s.world resid cmd payload controlIn
      = ⟨controlError, transfer.bytes, transfer.world⟩ := by
    rw [usb_read_eq s.world resid controlIn h_read h_len]
    have h_ret : transfer.ret ≠ payload.length := by omega
    exact if_pos h_ret
  refine ⟨_, _, rfl, ?_⟩
  rw [h_result]
  exact ⟨rfl, congrArg Device.users h_device, congrArg Device.table h_device, trivial⟩

theorem usb_writeRefused (h_write : isControlCmdRead cmd = false)
    (h_len : payload.length ≤ ep0MaxRequestSize) (l : HostLocals) :
    ∃ a s', (HostLink.usb controlOut controlIn server).controlWriteCommand s l resid cmd payload
        = some (a, s') ∧
      HostRefused (.usb controlOut controlIn server) s controlError a s' := by
  obtain ⟨h_device, h_stage⟩ := usbH2d_unknown tasks cmd h_none h_len
  rw [← h_works.out_server _ _ _ rfl] at h_device
  have h_neg : (controlOut s.world (vendorSetup resid cmd payload.length) payload).1 < 0 :=
    h_works.out_failed _ _ _ rfl h_stage
  set written := controlOut s.world (vendorSetup resid cmd payload.length) payload
  have h_result : usbControlWriteCommand s.world resid cmd payload controlOut controlIn
      l.requestData l.status = ⟨controlError, written.2⟩ := by
    rw [usb_write_eq s.world resid controlOut controlIn l.requestData l.status h_write h_len]
    have h_ret : written.1 ≠ payload.length := by omega
    exact if_pos h_ret
  have h_users : (server written.2).device.users = (server s.world).device.users := by
    rw [h_device]
  have h_table : (server written.2).device.table = (server s.world).device.table := by
    rw [h_device]
  refine ⟨_, _, rfl, ?_⟩
  rw [h_result]
  exact ⟨rfl, h_users, h_table, trivial⟩

end Usb

/-! ### xSCOPE -/

section Xscope

variable {resid : UInt8}

/-- An upload for an unknown resource is its own response. -/
theorem xscopeControlClient_unknown (tasks : UserTasks σ) {server : XscopeServer σ}
    (h_none : resourceTableSearch server.device.table resid = none) (cmd n pad : UInt8)
    {payload : List UInt8} (h_fits : sizeofXscopeHeader + payload.length ≤ xscopeUploadMaxBytes) :
    let r := xscopeControlClient tasks server (resid :: cmd :: n :: pad :: payload)
    ∃ out, r.1 = some out ∧ r.2.device = server.device ∧ out[3]? = some pad := by
  intro r
  set bytes := resid :: cmd :: n :: pad :: payload with h_bytes
  set buf := server.upload bytes with h_buf
  have h_length : bytes.length = sizeofXscopeHeader + payload.length := Nat.add_comm _ 4
  have h_front : buf.front (sizeofXscopeHeader + payload.length) = bytes := by
    rw [← h_length]
    exact Buffer.front_copy_zero _ (h_length.trans_le h_fits)
  obtain ⟨h_resid, -⟩ := XscopeBuffer.fields_of_front h_front
  have h_upload : controlProcessXscopeUpload tasks buf xscopeUploadMaxBytes bytes.length
      server.device = (server.device,
        { ret := controlBadCommand, output := .xscopeData buf.toList sizeofXscopeHeader }) :=
    xscopeUpload_none _ _ (by rw [h_resid, h_none])
  have h_result : r = (some (buf.front sizeofXscopeHeader),
      ⟨server.device, Buffer.ofList 0 buf.toList⟩) := by
    show xscopeControlClient tasks server bytes = _
    dsimp only [xscopeControlClient]
    rw [← XscopeServer.upload, ← h_buf, h_upload]
    rfl
  rw [h_result]
  refine ⟨_, rfl, rfl, ?_⟩
  -- the fourth byte of the response is that of the upload
  have h_three : 3 < sizeofXscopeHeader := by decide
  have h_pad := Buffer.getElem?_front buf (Nat.lt_add_right payload.length h_three)
  rw [Buffer.getElem?_front buf h_three, ← h_pad, h_front]
  rfl

variable {requestUpload : W → List UInt8 → XscopeOutcome W} {server : W → XscopeServer σ}
  {probeId : UInt32} {cmd : UInt8} {payload : List UInt8} {s : HostState W}
  (h_works : (HostLink.xscope requestUpload server probeId).Works tasks)
  (h_ready : (HostLink.xscope requestUpload server probeId).Ready s)
  (h_none : resourceTableSearch (server s.world).device.table resid = none)

include h_works h_ready h_none

/-- The exchange of an upload for an unknown resource. The host finds the padding where the return
value should be. -/
theorem xscope_exchangeUnknown (cmd n pad : UInt8) (payload : List UInt8)
    (h_fits : sizeofXscopeHeader + payload.length ≤ xscopeUploadMaxBytes) :
    let outcome := requestUpload s.world (resid :: cmd :: n :: pad :: payload)
    outcome.accepted = true ∧
      ∃ h' : XscopeHost, { s.xscope with recordCount := 0 }.awaitResponse outcome.records
          = some h' ∧
        ∀ a, a.ret = controlSuccess + h'.responseRet →
          HostRefused (.xscope requestUpload server probeId) s pad a ⟨outcome.world, h'⟩ := by
  intro outcome
  obtain ⟨h_set, h_probe⟩ := h_ready
  have h_link := h_works s.xscope h_set h_probe
  set bytes := resid :: cmd :: n :: pad :: payload
  have h_some : bytes ≠ [] := List.cons_ne_nil _ _
  have h_short : bytes.length ≤ xscopeUploadMaxBytes := by
    show payload.length + 4 ≤ _
    rwa [Nat.add_comm]
  obtain ⟨out, h_out, h_device, h_pad⟩ := xscopeControlClient_unknown tasks h_none cmd n pad h_fits
  obtain ⟨h', h_await, h_response, h_set', h_probe'⟩ := h_link.responds h_some h_short h_out
  have h_served := congrArg XscopeServer.device (h_link.served s.world bytes h_some h_short)
  have h_same : (server outcome.world).device = (server s.world).device := h_served.trans h_device
  rw [← h_response] at h_pad
  have h_ret : h'.responseRet = pad := responseByte_eq h_pad
  refine ⟨h_link.accepted s.world bytes h_some h_short, h', h_await, fun a h_a => ?_⟩
  rw [h_ret] at h_a
  exact ⟨h_a.trans (UInt8.zero_add _), congrArg Device.users h_same, congrArg Device.table h_same,
    h_set'.trans h_set, h_probe'.trans h_probe⟩

theorem xscope_readRefused (h_len : payload.length ≤ xscopeUploadMaxWords) (l : HostLocals) :
    ∃ a s', (HostLink.xscope requestUpload server probeId).controlReadCommand s l resid cmd payload
        = some (a, s') ∧
      HostRefused (.xscope requestUpload server probeId) s l.upload.pad a s' := by
  set n := payload.length
  have h_short : n % 2 ^ 32 ≤ xscopeUploadMaxWords := (Nat.mod_le _ _).trans h_len
  have h_bytes : xscopeReadUpload l.upload resid cmd n
      = [resid, controlCmdSetRead cmd, UInt8.ofNat (n % 2 ^ 32), l.upload.pad] :=
    readUpload_eq h_short
  obtain ⟨h_accepted, h', h_await, h_refused⟩ := xscope_exchangeUnknown h_works h_ready h_none
    (controlCmdSetRead cmd) (UInt8.ofNat (n % 2 ^ 32)) l.upload.pad [] (by decide)
  rw [← h_bytes] at h_accepted h_await h_refused
  have h_result : s.xscope.controlReadCommand requestUpload s.world l.upload resid cmd payload
      = some ⟨controlSuccess + h'.responseRet,
          (List.range' sizeofXscopeHeader n).map h'.responseByte,
          List.range' sizeofXscopeHeader n, h',
          (requestUpload s.world (xscopeReadUpload l.upload resid cmd n)).world⟩ := by
    dsimp only [XscopeHost.controlReadCommand]
    rw [← xscopeReadUpload, if_pos h_accepted, h_await]
  exact ⟨_, _, congrArg (Option.map _) h_result, h_refused _ rfl⟩

theorem xscope_writeRefused (h_write : isControlCmdRead cmd = false)
    (h_len : payload.length ≤ xscopeUploadMaxWords) (l : HostLocals) :
    ∃ a s', (HostLink.xscope requestUpload server probeId).controlWriteCommand s l resid cmd payload
        = some (a, s') ∧
      HostRefused (.xscope requestUpload server probeId) s l.upload.pad a s' := by
  have h_mod : payload.length % 2 ^ 32 = payload.length :=
    Nat.mod_eq_of_lt (h_len.trans_lt (by decide))
  set built := controlXscopeCreateUploadBuffer l.upload cmd resid (some payload) payload.length
    with h_built
  have h_short := xscopeBuilt_accepted l.upload cmd resid (some payload) payload.length
  have h_sent : sent built
      = resid :: cmd :: UInt8.ofNat payload.length :: l.upload.pad :: payload :=
    sent_xscope_write l.upload h_write h_len
  have h_fits : sizeofXscopeHeader + payload.length ≤ xscopeUploadMaxBytes := by
    obtain ⟨h_header, h_words, h_bytes, -⟩ := xscope_sizes
    omega
  obtain ⟨h_accepted, h', h_await, h_refused⟩ := xscope_exchangeUnknown h_works h_ready h_none
    cmd (UInt8.ofNat payload.length) l.upload.pad payload h_fits
  rw [← h_sent] at h_accepted h_await h_refused
  have h_result : s.xscope.controlWriteCommand requestUpload s.world l.upload resid cmd payload
      = some ⟨controlSuccess + h'.responseRet, h', (requestUpload s.world (sent built)).world⟩ := by
    dsimp only [XscopeHost.controlWriteCommand]
    rw [controlCmdSetWrite_of_write h_write, h_mod, ← h_built, if_neg h_short, if_pos h_accepted,
      h_await]
  exact ⟨_, _, congrArg (Option.map _) h_result, h_refused _ rfl⟩

end Xscope

/-! ### Any link -/

section Any

variable {L : HostLink σ W} {s : HostState W}

theorem readRefused (h_works : L.Works tasks) (h_ready : L.Ready s) {resid cmd : UInt8}
    {payload : List UInt8} (h_none : resourceTableSearch (L.device s.world).table resid = none)
    (h_read : isControlCmdRead cmd = true) (h_len : payload.length ≤ L.transport.reach)
    (l : HostLocals) :
    ∃ a s', L.controlReadCommand s l resid cmd payload = some (a, s') ∧
      HostRefused L s (L.transport.toldUnknown .read (L.device s.world).lastStatus l.upload.pad) a
        s' := by
  cases L with
  | rpiI2c write rdwr device => exact rpiI2c_readRefused h_works h_none h_read h_len l
  | xcoreI2c write read device => exact xcoreI2c_readRefused h_works h_none h_read h_len l
  | rpiSpi transfern requiresFirst device =>
    exact rpiSpi_readRefused h_works h_ready h_none h_read h_len l
  | usb controlOut controlIn server => exact usb_readRefused h_works h_none h_read h_len l
  | xscope requestUpload server probeId =>
    exact xscope_readRefused h_works h_ready h_none h_len l

theorem writeRefused (h_works : L.Works tasks) (h_ready : L.Ready s)
    (h_table : (L.device s.world).table.Reserves) {resid cmd : UInt8} {payload : List UInt8}
    (h_none : resourceTableSearch (L.device s.world).table resid = none)
    (h_write : isControlCmdRead cmd = false) (h_len : payload.length ≤ L.transport.reach)
    (l : HostLocals) :
    ∃ a s', L.controlWriteCommand s l resid cmd payload = some (a, s') ∧
      HostRefused L s (L.transport.toldUnknown .write (L.device s.world).lastStatus l.upload.pad) a
        s' := by
  cases L with
  | rpiI2c write rdwr device => exact rpiI2c_writeRefused h_works h_none h_write h_len l
  | xcoreI2c write read device => exact xcoreI2c_writeRefused h_works h_none h_write h_len l
  | rpiSpi transfern requiresFirst device =>
    exact rpiSpi_writeRefused h_works h_ready h_none h_table h_write h_len l
  | usb controlOut controlIn server => exact usb_writeRefused h_works h_none h_write h_len l
  | xscope requestUpload server probeId =>
    exact xscope_writeRefused h_works h_ready h_none h_write h_len l

/-- **A command for an unknown resource.** If its payload is within the reach of the transport, it
comes to an end over every link without a user task knowing of it, and the host is told what the
transport has to tell. -/
theorem unknown_refused (h_works : L.Works tasks) (h_ready : L.Ready s)
    (h_table : (L.device s.world).table.Reserves) {c : Command}
    (h_unknown : c.known (L.device s.world).table = false)
    (h_len : c.payload.length ≤ L.transport.reach) (l : HostLocals) :
    ∃ a s', L.command s l c = some (a, s') ∧
      HostRefused L s
        (L.transport.toldUnknown c.method (L.device s.world).lastStatus l.upload.pad) a s' := by
  have h_none : resourceTableSearch (L.device s.world).table c.resid = none :=
    Option.isNone_iff_eq_none.mp (Option.isSome_eq_false_iff.mp h_unknown)
  cases h_dir : isControlCmdRead c.cmd with
  | true =>
    obtain ⟨a, s', h_run, h_refused⟩ := readRefused h_works h_ready h_none h_dir h_len l
    have h_method : c.method = .read := if_pos h_dir
    rw [← h_method] at h_refused
    exact ⟨a, s', (if_pos h_dir).trans h_run, h_refused⟩
  | false =>
    have h_not : ¬ isControlCmdRead c.cmd = true := Bool.eq_false_iff.mp h_dir
    obtain ⟨a, s', h_run, h_refused⟩ := writeRefused h_works h_ready h_table h_none h_dir h_len l
    have h_method : c.method = .write := if_neg h_not
    rw [← h_method] at h_refused
    exact ⟨a, s', (if_neg h_not).trans h_run, h_refused⟩

/-- A read over SPI of a resource that nobody has registered is a success for the host. -/
theorem unknown_refused_run :
    let L := idealRpiSpi (app false) false
    let s : HostState (Device App) := .initial (boot [[resourceId]] .initial)
    ∃ a s', L.command s (.fill 0) ⟨0x77, 0x80, [0xFF]⟩ = some (a, s') ∧
      HostRefused L s controlSuccess a s' := by
  intro L s
  have h_boot : Reachable (app false) [[resourceId]] (boot [[resourceId]] .initial) :=
    reachable_boot _ _
  have h_table : (L.device s.world).table.Reserves := h_boot.reserves
  have h_ready : L.Ready s := rfl
  have h_unknown : Command.known s.world.table ⟨0x77, 0x80, [0xFF]⟩ = false := by decide +kernel
  exact unknown_refused (idealRpiSpi_works (app false) false) h_ready h_table h_unknown
    one_le_spiDataMaxBytes (.fill 0)

end Any

end DeviceControl
