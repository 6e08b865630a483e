import DeviceControl.Control.Request

/-!
# The host builders

The functions of `control_host_support.h`, which encode a command for a transport. A builder for
I2C, SPI or xSCOPE fills an array of the caller and returns how many bytes of it are to be sent, 0
where it refuses the length; the array may hold anything before. The indices at which it stores are
reported with the array, as a `Filling`. `sent` is what then goes over the transport, and the lemmas
say what that is for a write and for a read. USB has no array of the host's: the header is three
fields of the request, and the payload goes with it as it is.

A payload pointer may be null, so a payload is an `Option`. The arrays to be filled are not null.
-/

namespace DeviceControl

/-- The bytes that are sent after a builder has filled the array. -/
def sent {n : ℕ} (built : ℕ × Filling UInt8 n) : List UInt8 := built.2.buffer.front built.1

/-- The first three bytes of a frame. -/
def storeHeader {n : ℕ} (data : Filling UInt8 n) (b₀ b₁ b₂ : UInt8) : Filling UInt8 n :=
  ((data.store 0 b₀).store 1 b₁).store 2 b₂

theorem front_storeHeader {n : ℕ} (data : Filling UInt8 n) (b₀ b₁ b₂ : UInt8) (h : 3 ≤ n) :
    (storeHeader data b₀ b₁ b₂).buffer.front 3 = [b₀, b₁, b₂] := by
  rw [storeHeader, Filling.buffer_store, Filling.buffer_store, Filling.buffer_store,
    Buffer.front_store_succ _ _ h, Buffer.front_store_succ _ _ (Nat.lt_of_succ_lt h),
    Buffer.front_store_succ _ _ (Nat.lt_of_succ_lt (Nat.lt_of_succ_lt h)), Buffer.front_zero]
  rfl

theorem stores_storeHeader {n : ℕ} (data : Filling UInt8 n) (b₀ b₁ b₂ : UInt8) :
    (storeHeader data b₀ b₁ b₂).stores = data.stores ++ [0, 1, 2] := by
  rw [storeHeader, Filling.stores_store, Filling.stores_store, Filling.stores_store,
    List.append_assoc, List.append_assoc]
  rfl

/-! ### The builders -/

/-- `control_build_i2c_data`. -/
def controlBuildI2cData {n : ℕ} (data : Buffer UInt8 n) (resid : ControlResid) (cmd : ControlCmd)
    (payload : Option (List UInt8)) (payloadLen : ℕ) : ℕ × Filling UInt8 n :=
  let data := Filling.start data
  if i2cDataMaxBytes < payloadLen then (0, data)
  else
    let data := storeHeader data resid cmd (UInt8.ofNat payloadLen)
    match isControlCmdRead cmd, payload with
    | false, some payload => (3 + payloadLen, data.copy 3 (payload.take payloadLen))
    | _, _ => (3, data)

/-- `control_build_spi_data`. -/
def controlBuildSpiData (data : Buffer UInt8 spiTransactionMaxBytes) (resid : ControlResid)
    (cmd : ControlCmd) (payload : Option (List UInt8)) (payloadLen : ℕ) :
    ℕ × Filling UInt8 spiTransactionMaxBytes :=
  let data := Filling.start data
  if spiTransactionMaxBytes < payloadLen then (0, data)
  else
    let data := (storeHeader data resid cmd (UInt8.ofNat payloadLen)).copy 3 (List.replicate 5 0)
    match isControlCmdRead cmd, payload with
    | false, some payload => (3 + payloadLen, data.copy 3 (payload.take payloadLen))
    | _, _ => (8, data)

/-- `control_usb_fill_header`: the fields `windex`, `wvalue` and `wlength`. -/
def controlUsbFillHeader (resid : ControlResid) (cmd : ControlCmd) (payloadLen : ℕ) :
    UInt16 × UInt16 × UInt16 :=
  (resid.toUInt16, cmd.toUInt16, UInt16.ofNat payloadLen)

/-- `control_xscope_create_upload_buffer`. The limit on the length is one of words, where the array
has as many words. -/
def controlXscopeCreateUploadBuffer (buffer : XscopeBuffer) (cmd : ControlCmd)
    (resid : ControlResid) (payload : Option (List UInt8)) (payloadLen : ℕ) :
    ℕ × Filling UInt8 xscopeUploadMaxBytes :=
  let buffer := Filling.start buffer
  if xscopeUploadMaxWords < payloadLen then (0, buffer)
  else
    let buffer := storeHeader buffer resid cmd (UInt8.ofNat payloadLen)
    match isControlCmdRead cmd, payload with
    | false, some payload =>
      (sizeofXscopeHeader + payloadLen,
        if payloadLen + sizeofXscopeHeader ≤ xscopeUploadMaxWords * 4 then
          buffer.copy sizeofXscopeHeader (payload.take payloadLen)
        else buffer)
    | _, _ => (sizeofXscopeHeader, buffer)

/-! ### What is sent -/

/-- The length byte of a frame. -/
theorem toNat_ofNat_of_le {n : ℕ} (h : n ≤ 253) : (UInt8.ofNat n).toNat = n :=
  UInt8.toNat_ofNat_of_lt (Nat.lt_of_le_of_lt h (by decide))

section Sent

variable {n : ℕ} {resid : ControlResid} {cmd : ControlCmd} {payload : List UInt8}

theorem sent_buildI2c_write (data : Buffer UInt8 n) (h_write : isControlCmdRead cmd = false)
    (h_len : payload.length ≤ i2cDataMaxBytes) (h_n : 3 + payload.length ≤ n) :
    sent (controlBuildI2cData data resid cmd (some payload) payload.length)
      = resid :: cmd :: UInt8.ofNat payload.length :: payload := by
  rw [controlBuildI2cData, if_neg (Nat.not_lt.mpr h_len), h_write]
  dsimp only [sent]
  rw [List.take_length, Filling.buffer_copy, Buffer.front_copy _ h_n,
    front_storeHeader _ _ _ _ (by omega)]
  rfl

/-- Without a payload to be sent, only the header is. -/
theorem sent_buildI2c_header (data : Buffer UInt8 n) {p : Option (List UInt8)}
    (h_header : isControlCmdRead cmd = true ∨ p = none) {len : ℕ} (h_len : len ≤ i2cDataMaxBytes)
    (h_n : 3 ≤ n) :
    sent (controlBuildI2cData data resid cmd p len) = [resid, cmd, UInt8.ofNat len] := by
  have h_built : controlBuildI2cData data resid cmd p len
      = (3, storeHeader (.start data) resid cmd (UInt8.ofNat len)) := by
    rw [controlBuildI2cData, if_neg (Nat.not_lt.mpr h_len)]
    rcases h_header with h_read | rfl
    · rw [h_read]
    · cases isControlCmdRead cmd <;> rfl
  rw [h_built]
  exact front_storeHeader _ _ _ _ h_n

theorem sent_buildI2c_read (data : Buffer UInt8 n) (h_read : isControlCmdRead cmd = true)
    (p : Option (List UInt8)) {len : ℕ} (h_len : len ≤ i2cDataMaxBytes) (h_n : 3 ≤ n) :
    sent (controlBuildI2cData data resid cmd p len) = [resid, cmd, UInt8.ofNat len] :=
  sent_buildI2c_header data (Or.inl h_read) h_len h_n

/-- A header of three bytes is built for a read. -/
theorem buildI2c_read_size (data : Buffer UInt8 n) (h_read : isControlCmdRead cmd = true)
    (p : Option (List UInt8)) {len : ℕ} (h_len : len ≤ i2cDataMaxBytes) :
    (controlBuildI2cData data resid cmd p len).1 = 3 := by
  rw [controlBuildI2cData, if_neg (Nat.not_lt.mpr h_len), h_read]

/-- A length that is refused leaves nothing to be sent. -/
theorem buildI2c_refused (data : Buffer UInt8 n) (p : Option (List UInt8)) {len : ℕ}
    (h_len : i2cDataMaxBytes < len) : controlBuildI2cData data resid cmd p len = (0, .start data) :=
  if_pos h_len

theorem buildSpi_refused (data : Buffer UInt8 spiTransactionMaxBytes) (p : Option (List UInt8))
    {len : ℕ} (h_len : spiTransactionMaxBytes < len) :
    controlBuildSpiData data resid cmd p len = (0, .start data) :=
  if_pos h_len

/-- The builders for I2C and SPI return 0 exactly for what they refuse. -/
theorem buildI2c_eq_zero_iff {data : Buffer UInt8 n} {p : Option (List UInt8)} {len : ℕ} :
    (controlBuildI2cData data resid cmd p len).1 = 0 ↔ i2cDataMaxBytes < len := by
  constructor
  · intro h_zero
    by_contra h_len
    rw [controlBuildI2cData, if_neg h_len] at h_zero
    split at h_zero
    · dsimp only at h_zero
      omega
    · cases h_zero
  · intro h_len
    rw [buildI2c_refused data p h_len]

theorem buildSpi_eq_zero_iff {data : Buffer UInt8 spiTransactionMaxBytes}
    {p : Option (List UInt8)} {len : ℕ} :
    (controlBuildSpiData data resid cmd p len).1 = 0 ↔ spiTransactionMaxBytes < len := by
  constructor
  · intro h_zero
    by_contra h_len
    rw [controlBuildSpiData, if_neg h_len] at h_zero
    split at h_zero
    · dsimp only at h_zero
      omega
    · cases h_zero
  · intro h_len
    rw [buildSpi_refused data p h_len]

theorem xscope_refused (buffer : XscopeBuffer) (p : Option (List UInt8)) {len : ℕ}
    (h_len : xscopeUploadMaxWords < len) :
    controlXscopeCreateUploadBuffer buffer cmd resid p len = (0, .start buffer) :=
  if_pos h_len

theorem sent_buildSpi_write (data : Buffer UInt8 spiTransactionMaxBytes)
    (h_write : isControlCmdRead cmd = false) (h_len : payload.length ≤ spiDataMaxBytes) :
    sent (controlBuildSpiData data resid cmd (some payload) payload.length)
      = resid :: cmd :: UInt8.ofNat payload.length :: payload := by
  rw [controlBuildSpiData, if_neg (Nat.not_lt.mpr (h_len.trans (by decide))), h_write]
  dsimp only [sent]
  -- the zeroes are copied behind the header, and the payload over them
  rw [List.take_length, Filling.buffer_copy, Filling.buffer_copy,
    Buffer.front_copy _ (Nat.add_le_of_le_sub' (by decide) h_len),
    Buffer.front_copy_of_le _ _ le_rfl, front_storeHeader _ _ _ _ (by decide)]
  rfl

/-- Without a payload to be sent, the header is, with five bytes of padding. -/
theorem sent_buildSpi_header (data : Buffer UInt8 spiTransactionMaxBytes) {p : Option (List UInt8)}
    (h_header : isControlCmdRead cmd = true ∨ p = none) {len : ℕ}
    (h_len : len ≤ spiTransactionMaxBytes) :
    sent (controlBuildSpiData data resid cmd p len)
      = [resid, cmd, UInt8.ofNat len, 0, 0, 0, 0, 0] := by
  have h_built : controlBuildSpiData data resid cmd p len
      = (8, (storeHeader (.start data) resid cmd (UInt8.ofNat len)).copy 3
          (List.replicate 5 0)) := by
    rw [controlBuildSpiData, if_neg (Nat.not_lt.mpr h_len)]
    rcases h_header with h_read | rfl
    · rw [h_read]
    · cases isControlCmdRead cmd <;> rfl
  rw [h_built]
  change (Filling.copy _ 3 (List.replicate 5 0)).buffer.front
    (3 + (List.replicate 5 (0 : UInt8)).length) = _
  rw [Filling.buffer_copy, Buffer.front_copy _ (by decide), front_storeHeader _ _ _ _ (by decide)]
  rfl

theorem sent_buildSpi_read (data : Buffer UInt8 spiTransactionMaxBytes)
    (h_read : isControlCmdRead cmd = true) (p : Option (List UInt8)) {len : ℕ}
    (h_len : len ≤ spiDataMaxBytes) :
    sent (controlBuildSpiData data resid cmd p len)
      = [resid, cmd, UInt8.ofNat len, 0, 0, 0, 0, 0] :=
  sent_buildSpi_header data (Or.inl h_read) (h_len.trans (by decide))

/-- Whatever is sent behind it, the array starts with the header. -/
theorem front_buildSpi (data : Buffer UInt8 spiTransactionMaxBytes) (p : Option (List UInt8))
    {len : ℕ} (h_len : len ≤ spiTransactionMaxBytes) :
    (controlBuildSpiData data resid cmd p len).2.buffer.front 3
      = [resid, cmd, UInt8.ofNat len] := by
  have h_padded : ((storeHeader (.start data) resid cmd (UInt8.ofNat len)).copy 3
      (List.replicate 5 0)).buffer.front 3 = [resid, cmd, UInt8.ofNat len] := by
    rw [Filling.buffer_copy, Buffer.front_copy_of_le _ _ le_rfl,
      front_storeHeader _ _ _ _ (by decide)]
  rw [controlBuildSpiData, if_neg (Nat.not_lt.mpr h_len)]
  match isControlCmdRead cmd, p with
  | false, some payload =>
    dsimp only
    rw [Filling.buffer_copy, Buffer.front_copy_of_le _ _ le_rfl, h_padded]
  | false, none => exact h_padded
  | true, _ => exact h_padded

/-- The fourth byte of an upload is padding, and keeps what the array held. -/
theorem front_storeHeader_xscope (buffer : XscopeBuffer) (b₀ b₁ b₂ : UInt8) :
    (storeHeader (.start buffer) b₀ b₁ b₂).buffer.front sizeofXscopeHeader
      = [b₀, b₁, b₂, buffer.pad] := by
  have h_pad : (storeHeader (.start buffer) b₀ b₁ b₂).buffer[3]? = some buffer.pad := by
    rw [storeHeader, Filling.buffer_store, Filling.buffer_store, Filling.buffer_store,
      Buffer.getElem?_store_of_ne _ _ (by decide), Buffer.getElem?_store_of_ne _ _ (by decide),
      Buffer.getElem?_store_of_ne _ _ (by decide), Filling.buffer_start,
      Vector.getElem?_eq_getElem (by decide)]
    rfl
  rw [Buffer.front_succ, front_storeHeader _ _ _ _ (by decide), h_pad]
  rfl

theorem sent_xscope_write (buffer : XscopeBuffer) (h_write : isControlCmdRead cmd = false)
    (h_len : payload.length ≤ xscopeUploadMaxWords) :
    sent (controlXscopeCreateUploadBuffer buffer cmd resid (some payload) payload.length)
      = resid :: cmd :: UInt8.ofNat payload.length :: buffer.pad :: payload := by
  obtain ⟨h_header, h_words, h_bytes, -⟩ := xscope_sizes
  have h_room : payload.length + sizeofXscopeHeader ≤ xscopeUploadMaxWords * 4 := by omega
  rw [controlXscopeCreateUploadBuffer, if_neg (Nat.not_lt.mpr h_len), h_write]
  dsimp only [sent]
  rw [if_pos h_room, List.take_length, Filling.buffer_copy, Buffer.front_copy _ (by omega),
    front_storeHeader_xscope]
  rfl

theorem sent_xscope_read (buffer : XscopeBuffer) (h_read : isControlCmdRead cmd = true)
    (p : Option (List UInt8)) {len : ℕ} (h_len : len ≤ xscopeUploadMaxWords) :
    sent (controlXscopeCreateUploadBuffer buffer cmd resid p len)
      = [resid, cmd, UInt8.ofNat len, buffer.pad] := by
  rw [controlXscopeCreateUploadBuffer, if_neg (Nat.not_lt.mpr h_len), h_read]
  exact front_storeHeader_xscope ..

end Sent

/-! ### The upload buffer -/

/-- The fields of an upload, from the bytes in front of its array. -/
theorem XscopeBuffer.fields_of_front {buf : XscopeBuffer} {r c n pad : UInt8} {ps : List UInt8}
    (h : buf.front (sizeofXscopeHeader + ps.length) = r :: c :: n :: pad :: ps) :
    buf.resid = r ∧ buf.cmd = c ∧ buf.payloadLen = n ∧ buf.data.front ps.length = ps := by
  obtain ⟨h_header, -, h_bytes, h_max⟩ := xscope_sizes
  have h_len := congrArg List.length h
  rw [Buffer.length_front, List.length_cons, List.length_cons, List.length_cons,
    List.length_cons] at h_len
  -- an element in front is that of the list, and a field is an element
  have h_get {i : ℕ} (h_i : i < sizeofXscopeHeader + ps.length) :
      buf[i]? = (r :: c :: n :: pad :: ps)[i]? := by
    rw [← h, Buffer.getElem?_front _ h_i]
  have h_field {i : ℕ} {b : UInt8} (h_i : i < xscopeUploadMaxBytes) (h_b : buf[i]? = some b) :
      buf[i] = b := by
    rw [Vector.getElem?_eq_getElem h_i] at h_b
    exact Option.some.inj h_b
  refine ⟨h_field (by decide) (h_get (by omega)), h_field (by decide) (h_get (by omega)),
    h_field (by decide) (h_get (by omega)), List.ext_getElem? fun i => ?_⟩
  by_cases h_lt : i < ps.length
  · -- the data starts behind the four bytes of the header
    have h_data : i < xscopeDataMaxBytes := by omega
    have h_i : sizeofXscopeHeader + i < xscopeUploadMaxBytes := by omega
    have h_byte : (r :: c :: n :: pad :: ps)[sizeofXscopeHeader + i]? = ps[i]? := by
      rw [Nat.add_comm]
      rfl
    rw [Buffer.getElem?_front _ h_lt, XscopeBuffer.data, Vector.getElem?_ofFn, dif_pos h_data,
      ← h_byte, ← h_get (by omega), Vector.getElem?_eq_getElem h_i]
  · rw [List.getElem?_eq_none (by simp; omega), List.getElem?_eq_none (by omega)]

/-- The fields of a command, from any buffer that starts with the bytes of its upload. The payload
pointer of a read may be null. -/
theorem XscopeBuffer.fields_of_sent {buf buffer : XscopeBuffer} {cmd : ControlCmd}
    {resid : ControlResid} {payload : List UInt8} {p : Option (List UInt8)} {len : ℕ}
    (h_len : payload.length ≤ xscopeUploadMaxWords)
    (h_payload : isControlCmdRead cmd = false → p = some payload)
    (h_front : buf.front len
      = sent (controlXscopeCreateUploadBuffer buffer cmd resid p payload.length)) :
    buf.resid = resid ∧ buf.cmd = cmd ∧ buf.payloadLen.toNat = payload.length ∧
      (isControlCmdRead cmd = false → buf.data.front payload.length = payload) := by
  obtain ⟨h_header, h_words, h_bytes, -⟩ := xscope_sizes
  have h_nat : (UInt8.ofNat payload.length).toNat = payload.length :=
    toNat_ofNat_of_le (h_len.trans (by decide))
  -- both directions send a header, a byte of padding and what follows
  have h_fields {pad : UInt8} {ps : List UInt8}
      (h_sent : sent (controlXscopeCreateUploadBuffer buffer cmd resid p payload.length)
        = resid :: cmd :: UInt8.ofNat payload.length :: pad :: ps) :
      buf.resid = resid ∧ buf.cmd = cmd ∧ buf.payloadLen = UInt8.ofNat payload.length ∧
        buf.data.front ps.length = ps := by
    have h_length : (resid :: cmd :: UInt8.ofNat payload.length :: pad :: ps).length
        = sizeofXscopeHeader + ps.length := Nat.add_comm ps.length 4
    have h_all : buf.front (buf.front len).length = buf.front len := Buffer.front_length_front ..
    rw [h_front, h_sent, h_length] at h_all
    exact XscopeBuffer.fields_of_front h_all
  cases h_dir : isControlCmdRead cmd with
  | false =>
    obtain rfl := h_payload h_dir
    obtain ⟨h_resid, h_cmd, h_plen, h_data⟩ := h_fields (sent_xscope_write buffer h_dir h_len)
    exact ⟨h_resid, h_cmd, by rw [h_plen, h_nat], fun _ => h_data⟩
  | true =>
    obtain ⟨h_resid, h_cmd, h_plen, -⟩ := h_fields (sent_xscope_read buffer h_dir p h_len)
    exact ⟨h_resid, h_cmd, by rw [h_plen, h_nat], nofun⟩

/-- The data of a response stands behind its header. -/
theorem XscopeBuffer.data_of_response (buf : XscopeBuffer) (data : Buffer UInt8 xscopeDataMaxBytes)
    (ret : ControlRet) {n : ℕ} (h : n ≤ xscopeDataMaxBytes) :
    (((buf.setData data).setRet ret).toList.take (sizeofXscopeHeader + n)).drop sizeofXscopeHeader
      = data.front n := by
  obtain ⟨h_header, -, h_bytes, h_max⟩ := xscope_sizes
  refine List.ext_getElem? fun i => ?_
  by_cases h_lt : i < n
  · have h_data : i < xscopeDataMaxBytes := h_lt.trans_le h
    have h_i : sizeofXscopeHeader + i < xscopeUploadMaxBytes := by omega
    have h_not : ¬ sizeofXscopeHeader + i < sizeofXscopeHeader := by omega
    have h_pad : 3 ≠ sizeofXscopeHeader + i := by omega
    rw [List.getElem?_drop, List.getElem?_take_of_lt (by omega), Vector.getElem?_toList,
      Buffer.getElem?_front _ h_lt, XscopeBuffer.setRet, Vector.getElem?_set_ne (by decide) h_pad,
      XscopeBuffer.setData, Vector.getElem?_ofFn, dif_pos h_i, dif_neg h_not]
    simp [Vector.getElem?_eq_getElem h_data]
  · rw [List.getElem?_eq_none (by simp; omega), List.getElem?_eq_none (by simp; omega)]

end DeviceControl
