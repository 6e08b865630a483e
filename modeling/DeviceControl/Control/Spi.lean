import DeviceControl.Control.Device
import DeviceControl.Library.Transducer

/-!
# The SPI processing functions

The three callbacks of the SPI slave, as `control.xc` serves them, and the system they make
together, `spiSystem`. SPI is full duplex: in one transaction the master supplies bytes and requires
bytes at the same time, so both callbacks come in any interleaving until the transaction ends.

`SpiStep` lists the transitions as rules and `spiStep_sound` says that every callback is one of
them. `Opens` is the condition under which a byte starts a command: the machine is idle, or a read
is waiting and the byte is not zero, which abandons the read.
-/

namespace DeviceControl

variable {σ : Type} (tasks : UserTasks σ)

/-- A callback of the SPI slave. -/
inductive SpiCallback where
  | masterEndsTransaction
  | masterRequiresData
  | masterSuppliedData (datum validBits : UInt32)
  deriving DecidableEq, Repr

/-! ### The functions -/

/-- The call of `write_command` in `control_process_spi_master_ends_transaction`. -/
def spiWriteCommand (d : Device σ) : Device σ × Reply :=
  writeCommand tasks d d.spi.ifnum d.spi.resid d.spi.cmd d.spi.payload d.spi.payloadLenTransmitted

/-- `control_process_spi_master_ends_transaction`. -/
def controlProcessSpiMasterEndsTransaction (d : Device σ) : Device σ × Reply :=
  match d.spi.state with
  | .writeData =>
    if d.spi.payloadLenTransmitted < d.spi.payloadLenFromHeader then
      ({ d with spi := Spi.zero }, { ret := controlError })
    else
      let r := spiWriteCommand tasks d
      ({ r.1 with spi := Spi.zero }, r.2)
  | .readDataWait =>
    ({ d with spi := { d.spi with state := .readData } }, { ret := controlSuccess })
  | _ => ({ d with spi := Spi.zero }, { ret := controlSuccess })

/-- The call of `read_command` in `control_process_spi_master_requires_data`. -/
def spiReadCommand (d : Device σ) : ReadResult σ spiDataMaxBytes :=
  readCommand tasks d d.spi.ifnum d.spi.resid d.spi.cmd d.spi.payload d.spi.payloadLenFromHeader

/-- `control_process_spi_master_requires_data`. -/
def controlProcessSpiMasterRequiresData (d : Device σ) : Device σ × Reply :=
  match d.spi.state with
  | .readDataStart =>
    let r := spiReadCommand tasks d
    ({ r.device with spi := { r.device.spi with payload := r.payload, state := .readDataWait } },
      { r.reply with output := .spiData 0 })
  | .readData =>
    let k := d.spi.payloadLenTransmitted
    if h : k < d.spi.payloadLenFromHeader ∧ k < spiDataMaxBytes then
      have h_k : k < spiDataMaxBytes := h.2
      ({ d with spi := { d.spi with payloadLenTransmitted := incr k } },
        { ret := controlSuccess, output := .spiData d.spi.payload[k].toUInt32, accesses := [k] })
    else (d, { ret := controlSuccess, output := .spiData 0 })
  | _ => (d, { ret := controlSuccess, output := .spiData 0 })

/-- The reset in front of the `switch` of `control_process_spi_master_supplied_data`. -/
def spiReset (datum : UInt32) (s : Spi) : Spi :=
  if s.state = .readDataWait ∧ datum ≠ 0 then Spi.zero else s

/-- The `switch` of `control_process_spi_master_supplied_data`. -/
def spiSuppliedData (datum : UInt32) (d : Device σ) : Device σ × Reply :=
  match d.spi.state with
  | .idle =>
    match resourceTableSearch d.table datum.toUInt8 with
    | none => ({ d with spi := { d.spi with state := .error } }, { ret := controlError })
    | some ifnum =>
      ({ d with spi := { d.spi with
          resid := datum.toUInt8, ifnum := ifnum, state := .resRecvd } }, { ret := controlSuccess })
  | .resRecvd =>
    ({ d with spi := { d.spi with
        cmd := datum.toUInt8
        state := if isControlCmdRead32 datum then .readCmdRecvd else .writeCmdRecvd } },
      { ret := controlSuccess })
  | .readCmdRecvd =>
    ({ d with spi := { d.spi with
        payloadLenFromHeader := datum.toNat, state := .readDataStart } }, { ret := controlSuccess })
  | .writeCmdRecvd =>
    ({ d with spi := { d.spi with
        payloadLenFromHeader := datum.toNat, state := .writeData } }, { ret := controlSuccess })
  | .writeData =>
    let k := d.spi.payloadLenTransmitted
    if k < d.spi.payloadLenFromHeader ∧ k < spiDataMaxBytes then
      ({ d with spi := { d.spi with
          payload := d.spi.payload.store k datum.toUInt8, payloadLenTransmitted := incr k } },
        { ret := controlSuccess, accesses := [k] })
    else
      ({ d with spi := { d.spi with state := .payloadError, payloadLenTransmitted := incr k } },
        { ret := controlError })
  | .payloadError =>
    ({ d with spi := { d.spi with payloadLenTransmitted := incr d.spi.payloadLenTransmitted } },
      { ret := controlSuccess })
  | _ => (d, { ret := controlSuccess })

/-- `control_process_spi_master_supplied_data`. -/
def controlProcessSpiMasterSuppliedData (datum validBits : UInt32) (d : Device σ) :
    Device σ × Reply :=
  if validBits ≠ 8 then (d, { ret := controlError })
  else spiSuppliedData datum { d with spi := spiReset datum d.spi }

/-- The SPI side of the device. -/
def spiSystem : Transducer (Device σ) SpiCallback Reply where
  step d
    | .masterEndsTransaction => controlProcessSpiMasterEndsTransaction tasks d
    | .masterRequiresData => controlProcessSpiMasterRequiresData tasks d
    | .masterSuppliedData datum validBits => controlProcessSpiMasterSuppliedData datum validBits d

/-! ### The transitions as rules -/

/-- A supplied byte starts a command. -/
def Spi.Opens (s : Spi) (datum : UInt32) : Prop :=
  s.state = .idle ∨ s.state = .readDataWait ∧ datum ≠ 0

/-- A reset happens only where it opens a command. -/
theorem spiReset_of_not_opens {s : Spi} {datum : UInt32} (h : ¬ s.Opens datum) :
    spiReset datum s = s :=
  if_neg fun h_wait => h (Or.inr h_wait)

/-- After the reset the machine is idle exactly where a command opens. -/
theorem spiReset_idle_iff {s : Spi} {datum : UInt32} :
    (spiReset datum s).state = .idle ↔ s.Opens datum := by
  unfold spiReset Spi.Opens
  split
  · next h => exact iff_of_true rfl (Or.inr h)
  · next h => exact ⟨Or.inl, fun h_or => h_or.resolve_right h⟩

/-- The transitions of the SPI side. -/
inductive SpiStep (d : Device σ) : SpiCallback → Device σ → Reply → Prop where
  | endsShort (hs : d.spi.state = .writeData)
      (hk : d.spi.payloadLenTransmitted < d.spi.payloadLenFromHeader) :
      SpiStep d .masterEndsTransaction { d with spi := Spi.zero } { ret := controlError }
  | endsDispatch (hs : d.spi.state = .writeData)
      (hk : d.spi.payloadLenFromHeader ≤ d.spi.payloadLenTransmitted) :
      SpiStep d .masterEndsTransaction { (spiWriteCommand tasks d).1 with spi := Spi.zero }
        (spiWriteCommand tasks d).2
  /-- A read that has been performed survives the end of its first transaction. -/
  | endsWait (hs : d.spi.state = .readDataWait) :
      SpiStep d .masterEndsTransaction { d with spi := { d.spi with state := .readData } }
        { ret := controlSuccess }
  | endsReset (hs : d.spi.state ≠ .writeData) (hs' : d.spi.state ≠ .readDataWait) :
      SpiStep d .masterEndsTransaction { d with spi := Spi.zero } { ret := controlSuccess }
  | requiresDispatch (hs : d.spi.state = .readDataStart) :
      SpiStep d .masterRequiresData
        { (spiReadCommand tasks d).device with spi := { d.spi with
          payload := (spiReadCommand tasks d).payload, state := .readDataWait } }
        { (spiReadCommand tasks d).reply with output := .spiData 0 }
  | requiresByte (x : UInt8) (hs : d.spi.state = .readData)
      (hk : d.spi.payloadLenTransmitted < d.spi.payloadLenFromHeader)
      (hk' : d.spi.payloadLenTransmitted < spiDataMaxBytes)
      (hx : d.spi.payload[d.spi.payloadLenTransmitted]? = some x) :
      SpiStep d .masterRequiresData
        { d with spi := { d.spi with
          payloadLenTransmitted := incr d.spi.payloadLenTransmitted } }
        { ret := controlSuccess, output := .spiData x.toUInt32
          accesses := [d.spi.payloadLenTransmitted] }
  | requiresQuiet (hs : d.spi.state ≠ .readDataStart) :
      SpiStep d .masterRequiresData d { ret := controlSuccess, output := .spiData 0 }
  | badBits (datum validBits : UInt32) (hv : validBits ≠ 8) :
      SpiStep d (.masterSuppliedData datum validBits) d { ret := controlError }
  | residUnknown (datum : UInt32) (ho : d.spi.Opens datum)
      (hr : resourceTableSearch d.table datum.toUInt8 = none) :
      SpiStep d (.masterSuppliedData datum 8)
        { d with spi := { spiReset datum d.spi with state := .error } } { ret := controlError }
  | resid (datum : UInt32) (ifnum : UInt8) (ho : d.spi.Opens datum)
      (hr : resourceTableSearch d.table datum.toUInt8 = some ifnum) :
      SpiStep d (.masterSuppliedData datum 8)
        { d with spi := { spiReset datum d.spi with
          resid := datum.toUInt8, ifnum := ifnum, state := .resRecvd } }
        { ret := controlSuccess }
  | cmd (datum : UInt32) (hs : d.spi.state = .resRecvd) :
      SpiStep d (.masterSuppliedData datum 8)
        { d with spi := { d.spi with
          cmd := datum.toUInt8
          state := if isControlCmdRead datum.toUInt8 then .readCmdRecvd else .writeCmdRecvd } }
        { ret := controlSuccess }
  | readLength (datum : UInt32) (hs : d.spi.state = .readCmdRecvd) :
      SpiStep d (.masterSuppliedData datum 8)
        { d with spi := { d.spi with
          payloadLenFromHeader := datum.toNat, state := .readDataStart } }
        { ret := controlSuccess }
  | writeLength (datum : UInt32) (hs : d.spi.state = .writeCmdRecvd) :
      SpiStep d (.masterSuppliedData datum 8)
        { d with spi := { d.spi with payloadLenFromHeader := datum.toNat, state := .writeData } }
        { ret := controlSuccess }
  | byte (datum : UInt32) (hs : d.spi.state = .writeData)
      (hk : d.spi.payloadLenTransmitted < d.spi.payloadLenFromHeader)
      (hk' : d.spi.payloadLenTransmitted < spiDataMaxBytes) :
      SpiStep d (.masterSuppliedData datum 8)
        { d with spi := { d.spi with
          payload := d.spi.payload.store d.spi.payloadLenTransmitted datum.toUInt8
          payloadLenTransmitted := incr d.spi.payloadLenTransmitted } }
        { ret := controlSuccess, accesses := [d.spi.payloadLenTransmitted] }
  | excess (datum : UInt32) (hs : d.spi.state = .writeData)
      (hk : ¬ (d.spi.payloadLenTransmitted < d.spi.payloadLenFromHeader ∧
        d.spi.payloadLenTransmitted < spiDataMaxBytes)) :
      SpiStep d (.masterSuppliedData datum 8)
        { d with spi := { d.spi with
          state := .payloadError
          payloadLenTransmitted := incr d.spi.payloadLenTransmitted } }
        { ret := controlError }
  | count (datum : UInt32) (hs : d.spi.state = .payloadError) :
      SpiStep d (.masterSuppliedData datum 8)
        { d with spi := { d.spi with
          payloadLenTransmitted := incr d.spi.payloadLenTransmitted } }
        { ret := controlSuccess }
  | ignore (datum : UInt32) (ho : ¬ d.spi.Opens datum)
      (hs : d.spi.state = .readDataStart ∨ d.spi.state = .readDataWait ∨
        d.spi.state = .readData ∨ d.spi.state = .error) :
      SpiStep d (.masterSuppliedData datum 8) d { ret := controlSuccess }

variable {tasks}

private theorem spiStep_ends (d : Device σ) :
    SpiStep tasks d .masterEndsTransaction (controlProcessSpiMasterEndsTransaction tasks d).1
      (controlProcessSpiMasterEndsTransaction tasks d).2 := by
  unfold controlProcessSpiMasterEndsTransaction
  split
  · -- `SPI_WRITE_DATA`
    next hs =>
    split
    · next hk => exact .endsShort hs hk
    · next hk => exact .endsDispatch hs (Nat.le_of_not_lt hk)
  · -- `SPI_READ_DATA_WAIT`
    next hs => exact .endsWait hs
  · -- all other states
    next hs hs' => exact .endsReset hs hs'

private theorem spiStep_requires (d : Device σ) :
    SpiStep tasks d .masterRequiresData (controlProcessSpiMasterRequiresData tasks d).1
      (controlProcessSpiMasterRequiresData tasks d).2 := by
  unfold controlProcessSpiMasterRequiresData
  split
  · -- `SPI_READ_DATA_START`
    next hs =>
    have h_spi : (spiReadCommand tasks d).device.spi = d.spi := readCommand_spi ..
    dsimp only
    rw [h_spi]
    exact .requiresDispatch hs
  · -- `SPI_READ_DATA`
    next hs =>
    dsimp only
    split
    · next hk => exact .requiresByte _ hs hk.1 hk.2 (Vector.getElem?_eq_getElem hk.2)
    · exact .requiresQuiet (by rw [hs]; decide)
  · -- all other states
    next hs _ => exact .requiresQuiet hs

/-- A byte that opens no command is taken in the state the machine is in. -/
private theorem spiStep_supplied_closed (d : Device σ) (datum : UInt32)
    (ho : ¬ d.spi.Opens datum) :
    SpiStep tasks d (.masterSuppliedData datum 8) (spiSuppliedData datum d).1
      (spiSuppliedData datum d).2 := by
  unfold spiSuppliedData
  split
  · -- an idle machine opens a command with every byte
    next hs => exact absurd (Or.inl hs) ho
  · next hs =>
    rw [isControlCmdRead32_eq]
    exact .cmd datum hs
  · next hs => exact .readLength datum hs
  · next hs => exact .writeLength datum hs
  · next hs =>
    dsimp only
    split
    · next hk => exact .byte datum hs hk.1 hk.2
    · next hk => exact .excess datum hs hk
  · next hs => exact .count datum hs
  · -- the states that are left
    next h₁ h₂ h₃ h₄ h₅ h₆ =>
    refine .ignore datum ho ?_
    cases hs : d.spi.state <;> simp_all

private theorem spiStep_supplied (d : Device σ) (datum validBits : UInt32) :
    SpiStep tasks d (.masterSuppliedData datum validBits)
      (controlProcessSpiMasterSuppliedData datum validBits d).1
      (controlProcessSpiMasterSuppliedData datum validBits d).2 := by
  unfold controlProcessSpiMasterSuppliedData
  split
  · next hv => exact .badBits datum validBits hv
  · next hv =>
    obtain rfl := not_not.mp hv
    by_cases ho : d.spi.Opens datum
    · -- a command opens: the machine is idle after the reset
      have h_idle := spiReset_idle_iff.mpr ho
      unfold spiSuppliedData
      simp only [h_idle]
      split
      · next hr => exact .residUnknown datum ho hr
      · next ifnum hr => exact .resid datum ifnum ho hr
    · rw [spiReset_of_not_opens ho]
      exact spiStep_supplied_closed d datum ho

/-- **Inversion.** Every callback of the SPI slave is one of the rules. -/
theorem spiStep_sound (d : Device σ) (cb : SpiCallback) :
    SpiStep tasks d cb ((spiSystem tasks).step d cb).1 ((spiSystem tasks).step d cb).2 := by
  cases cb with
  | masterEndsTransaction => exact spiStep_ends d
  | masterRequiresData => exact spiStep_requires d
  | masterSuppliedData datum validBits => exact spiStep_supplied d datum validBits

end DeviceControl
