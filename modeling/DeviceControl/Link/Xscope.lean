import DeviceControl.Host.Transfers
import DeviceControl.Link.Host
import DeviceControl.Xscope.HostRead

/-!
# The xSCOPE link

A command is one upload, and the response to it has the return value of the command, so that no
status has to be queried. The host waits for a record on the probe that it has learned, and copies
what it has asked for from behind the header: if the read has succeeded, that is the data.
-/

namespace DeviceControl

variable {σ W : Type} {tasks : UserTasks σ}

/-! ### The adapter -/

section Adapter

variable {server : XscopeServer σ} {bytes : List UInt8} {resid cmd ifnum : UInt8}

/-- **Uploads of reads.** The answer of the adapter has what `read_command` returns in its header,
and the data behind it after success. -/
theorem xscopeControlClient_read (tasks : UserTasks σ)
    (h_search : resourceTableSearch server.device.table resid = some ifnum)
    (h_read : isControlCmdRead cmd = true) {n : ℕ} (h_len : n ≤ xscopeUploadMaxWords)
    (h_resid : (server.upload bytes).resid = resid) (h_cmd : (server.upload bytes).cmd = cmd)
    (h_plen : (server.upload bytes).payloadLen.toNat = n) :
    let r := readCommand tasks server.device ifnum resid cmd (server.upload bytes).data n
    ∃ out, (xscopeControlClient tasks server bytes).1 = some out ∧
      (xscopeControlClient tasks server bytes).2.device = r.device ∧
      out[3]? = some r.reply.ret ∧
      (r.reply.ret = controlSuccess →
        out.length = sizeofXscopeHeader + n ∧ out.drop sizeofXscopeHeader = r.payload.front n) := by
  intro r
  set buf := server.upload bytes with h_buf
  have h_found : resourceTableSearch server.device.table buf.resid = some ifnum := by
    rw [h_resid, h_search]
  have h_dir : isControlCmdRead buf.cmd = true := by
    rw [h_cmd, h_read]
  have h_upload : controlProcessXscopeUpload tasks buf xscopeUploadMaxBytes bytes.length
      server.device = _ := xscopeUpload_read _ _ h_found h_dir
  rw [h_resid, h_cmd, h_plen] at h_upload
  dsimp only [xscopeControlClient]
  rw [← XscopeServer.upload, ← h_buf, h_upload]
  -- there is always something to return
  have h_size := lt_xscopeReturnSize r.reply.ret n
  refine ⟨_, if_pos (Nat.zero_lt_of_lt h_size), rfl, ?_, fun h_ret => ?_⟩
  · rw [List.getElem?_take_of_lt h_size]
    exact XscopeBuffer.getElem?_setRet ..
  · obtain ⟨h_header, h_words, h_bytes, h_max⟩ := xscope_sizes
    rw [if_pos h_ret]
    refine ⟨?_, XscopeBuffer.data_of_response _ _ _ (by omega)⟩
    rw [List.length_take, Vector.length_toList]
    omega

/-- **Uploads of writes.** The payload is served, and the answer has what the user task returns. -/
theorem xscopeControlClient_write (tasks : UserTasks σ) {payload : List UInt8}
    (h_search : resourceTableSearch server.device.table resid = some ifnum)
    (h_ne : resid ≠ controlSpecialResid) (h_write : isControlCmdRead cmd = false)
    (h_resid : (server.upload bytes).resid = resid) (h_cmd : (server.upload bytes).cmd = cmd)
    (h_plen : (server.upload bytes).payloadLen.toNat = payload.length)
    (h_data : (server.upload bytes).data.front payload.length = payload) :
    let answer := server.device.writeAnswer tasks ifnum resid cmd payload
    ∃ out, (xscopeControlClient tasks server bytes).1 = some out ∧ out[3]? = some answer.1 ∧
      (xscopeControlClient tasks server bytes).2.device.users = answer.2 ∧
      (xscopeControlClient tasks server bytes).2.device.table = server.device.table := by
  intro answer
  set buf := server.upload bytes with h_buf
  have h_found : resourceTableSearch server.device.table buf.resid = some ifnum := by
    rw [h_resid, h_search]
  have h_dir : isControlCmdRead buf.cmd = false := by
    rw [h_cmd, h_write]
  have h_upload : controlProcessXscopeUpload tasks buf xscopeUploadMaxBytes bytes.length
      server.device = _ := xscopeUpload_write _ _ h_found h_dir
  rw [h_resid, h_cmd, h_plen] at h_upload
  have h_del : DeliversWrite tasks server.device ifnum resid cmd payload
      (writeCommand tasks server.device ifnum resid cmd buf.data payload.length).1
      (writeCommand tasks server.device ifnum resid cmd buf.data payload.length).2 :=
    deliversWrite_writeCommand h_ne rfl rfl rfl h_data
  dsimp only [xscopeControlClient]
  rw [← XscopeServer.upload, ← h_buf, h_upload]
  refine ⟨_, rfl, ?_, h_del.users, h_del.table⟩
  have h_size : 3 < sizeofXscopeHeader := by decide
  rw [List.getElem?_take_of_lt h_size, ← h_del.ret]
  exact XscopeBuffer.getElem?_setRet ..

end Adapter

/-! ### The response -/

section Response

variable {requestUpload : W → List UInt8 → XscopeOutcome W} {server : W → XscopeServer σ}
  {h : XscopeHost} {w : W} {bytes out : List UInt8}

/-- The host goes on with the answer of the adapter, and knows the probe as before. -/
theorem XscopeDelivers.responds (h_link : XscopeDelivers tasks requestUpload server h)
    (h_some : bytes ≠ []) (h_fits : bytes.length ≤ xscopeUploadMaxBytes)
    (h_out : (xscopeControlClient tasks (server w) bytes).1 = some out) :
    ∃ h' : XscopeHost, { h with recordCount := 0 }.awaitResponse (requestUpload w bytes).records
        = some h' ∧
      h'.lastResponse = out ∧ h'.probeIdSet = h.probeIdSet ∧ h'.probeId = h.probeId := by
  have h_records := h_link.records w bytes h_some h_fits
  rw [h_out, Option.toList_some] at h_records
  obtain ⟨record, h_responses, rfl⟩ := List.map_eq_singleton_iff.mp h_records
  rw [awaitResponse_zero, h_responses]
  exact ⟨_, rfl, rfl, rfl, rfl⟩

/-- A byte of the response. -/
theorem responseByte_eq {i : ℕ} {b : UInt8} (h_at : h.lastResponse[i]? = some b) :
    h.responseByte i = b := by
  rw [XscopeHost.responseByte, h_at, Option.getD_some]

/-- What is copied from behind the header of a response that is long enough. -/
theorem map_responseByte {n : ℕ} (h_length : h.lastResponse.length = sizeofXscopeHeader + n) :
    (List.range' sizeofXscopeHeader n).map h.responseByte
      = h.lastResponse.drop sizeofXscopeHeader := by
  refine List.ext_getElem? fun i => ?_
  rw [List.getElem?_map, List.getElem?_drop]
  by_cases h_lt : i < n
  · have h_in : sizeofXscopeHeader + i < h.lastResponse.length := by
      rw [h_length]
      exact Nat.add_lt_add_left h_lt _
    rw [List.getElem?_range' h_lt, Nat.one_mul, Option.map_some, List.getElem?_eq_getElem h_in,
      responseByte_eq (List.getElem?_eq_getElem h_in)]
  · have h_out : h.lastResponse.length ≤ sizeofXscopeHeader + i := by
      rw [h_length]
      exact Nat.add_le_add_left (Nat.le_of_not_lt h_lt) _
    have h_end : (List.range' sizeofXscopeHeader n)[i]? = none := by
      rw [List.getElem?_eq_none_iff, List.length_range']
      exact Nat.le_of_not_lt h_lt
    rw [h_end, List.getElem?_eq_none h_out, Option.map_none]

end Response

/-! ### The commands of the host -/

section Commands

variable {requestUpload : W → List UInt8 → XscopeOutcome W} {server : W → XscopeServer σ}
  {probeId : UInt32} {resid cmd ifnum : UInt8}

/-- The query of the version is a read of one byte. -/
theorem XscopeHost.controlQueryVersion_eq (h : XscopeHost) (w : W) (b : XscopeBuffer)
    (version : UInt8) : h.controlQueryVersion requestUpload w b version
      = h.controlReadCommand requestUpload w b controlSpecialResid controlGetVersion [version] :=
  rfl

variable (h_works : (HostLink.xscope requestUpload server probeId).Works tasks) (s : HostState W)
  (h_ready : (HostLink.xscope requestUpload server probeId).Ready s)

include h_works h_ready

/-- **A read over xSCOPE.** -/
theorem xscope_readDone (b : XscopeBuffer) (payload : List UInt8)
    (h_search : resourceTableSearch (server s.world).device.table resid = some ifnum)
    (h_read : isControlCmdRead cmd = true) (h_len : payload.length ≤ xscopeUploadMaxWords) :
    ∃ r, s.xscope.controlReadCommand requestUpload s.world b resid cmd payload = some r ∧
      ReadDone tasks (.xscope requestUpload server probeId) s (server s.world).device.lastStatus
        ifnum resid cmd payload.length ⟨r.ret, r.payload⟩ ⟨r.world, r.host⟩ := by
  obtain ⟨h_set, h_probe⟩ := h_ready
  have h_link := h_works s.xscope h_set h_probe
  set n := payload.length
  have h_mod : n % 2 ^ 32 = n := Nat.mod_eq_of_lt (h_len.trans_lt (by decide))
  have h_short : n % 2 ^ 32 ≤ xscopeUploadMaxWords := h_mod.trans_le h_len
  set bytes := xscopeReadUpload b resid cmd n with h_bytes
  have h_fits : bytes.length ≤ xscopeUploadMaxBytes := by
    rw [h_bytes, readUpload_eq h_short]
    show 4 ≤ 256
    decide
  have h_some : bytes ≠ [] := readUpload_ne_nil h_short
  -- the adapter finds the fields of the command, and its answer is the response
  obtain ⟨h_resid, h_cmd, h_plen, -⟩ :
      ((server s.world).upload bytes).resid = resid ∧
        ((server s.world).upload bytes).cmd = controlCmdSetRead cmd ∧
        ((server s.world).upload bytes).payloadLen.toNat = n % 2 ^ 32 ∧
        ((server s.world).upload bytes).pad = b.pad :=
    readUpload_fields (server s.world) h_short
  rw [controlCmdSetRead_of_read h_read] at h_cmd
  rw [h_mod] at h_plen
  obtain ⟨out, h_out, h_device, h_ret, h_data⟩ :=
    xscopeControlClient_read tasks h_search h_read h_len h_resid h_cmd h_plen
  obtain ⟨h', h_await, h_response, h_set', h_probe'⟩ := h_link.responds h_some h_fits h_out
  have h_served := h_link.served s.world bytes h_some h_fits
  have h_result : s.xscope.controlReadCommand requestUpload s.world b resid cmd payload
      = some ⟨controlSuccess + h'.responseRet,
          (List.range' sizeofXscopeHeader n).map h'.responseByte,
          List.range' sizeofXscopeHeader n, h', (requestUpload s.world bytes).world⟩ := by
    dsimp only [XscopeHost.controlReadCommand]
    rw [← xscopeReadUpload, ← h_bytes, if_pos (h_link.accepted s.world bytes h_some h_fits),
      h_await]
  refine ⟨_, h_result, ?_⟩
  rw [← h_served] at h_device
  rw [← h_response] at h_ret h_data
  constructor
  case read =>
    refine ⟨(server s.world).device, xscopeDataMaxBytes, ((server s.world).upload bytes).data,
      h_len.trans (by decide), rfl, rfl, congrArg Device.users h_device, ?_, fun h_success => ?_⟩
    · show controlSuccess + h'.responseByte 3 = _
      rw [responseByte_eq h_ret]
      exact UInt8.zero_add _
    · obtain ⟨h_length, h_drop⟩ := h_data h_success
      exact (map_responseByte h_length).trans h_drop
  case length =>
    intro h_spi
    cases h_spi
  case table =>
    exact (congrArg Device.table h_device).trans (readCommand_table ..)
  case ready => exact ⟨h_set'.trans h_set, h_probe'.trans h_probe⟩

/-- **A write over xSCOPE.** -/
theorem xscope_writeServed (b : XscopeBuffer) {payload : List UInt8}
    (h_search : resourceTableSearch (server s.world).device.table resid = some ifnum)
    (h_ne : resid ≠ controlSpecialResid) (h_write : isControlCmdRead cmd = false)
    (h_len : payload.length ≤ xscopeUploadMaxWords) :
    ∃ r, s.xscope.controlWriteCommand requestUpload s.world b resid cmd payload = some r ∧
      HostServed tasks (.xscope requestUpload server probeId) s
        (writeRequest ifnum resid cmd payload) ⟨r.ret, payload⟩ ⟨r.world, r.host⟩ := by
  obtain ⟨h_set, h_probe⟩ := h_ready
  have h_link := h_works s.xscope h_set h_probe
  have h_mod : payload.length % 2 ^ 32 = payload.length :=
    Nat.mod_eq_of_lt (h_len.trans_lt (by decide))
  set built := controlXscopeCreateUploadBuffer b cmd resid (some payload) payload.length
    with h_built
  have h_short := xscopeBuilt_accepted b cmd resid (some payload) payload.length
  set bytes := sent built with h_bytes
  have h_sent : bytes = resid :: cmd :: UInt8.ofNat payload.length :: b.pad :: payload :=
    sent_xscope_write b h_write h_len
  have h_fits : bytes.length ≤ xscopeUploadMaxBytes := by
    rw [h_bytes, sent, Buffer.length_front]
    exact min_le_right _ _
  have h_some : bytes ≠ [] := by
    rw [h_sent]
    exact List.cons_ne_nil _ _
  obtain ⟨h_resid, h_cmd, h_plen, h_payload⟩ :
      ((server s.world).upload bytes).resid = resid ∧ ((server s.world).upload bytes).cmd = cmd ∧
        ((server s.world).upload bytes).payloadLen.toNat = payload.length ∧
        (isControlCmdRead cmd = false →
          ((server s.world).upload bytes).data.front payload.length = payload) :=
    XscopeBuffer.fields_of_sent h_len (fun _ => rfl) (Buffer.front_copy_zero _ h_fits)
  obtain ⟨out, h_out, h_ret, h_users, h_table⟩ := xscopeControlClient_write tasks h_search h_ne
    h_write h_resid h_cmd h_plen (h_payload h_write)
  obtain ⟨h', h_await, h_response, h_set', h_probe'⟩ := h_link.responds h_some h_fits h_out
  have h_served := h_link.served s.world bytes h_some h_fits
  have h_result : s.xscope.controlWriteCommand requestUpload s.world b resid cmd payload
      = some ⟨controlSuccess + h'.responseRet, h', (requestUpload s.world bytes).world⟩ := by
    dsimp only [XscopeHost.controlWriteCommand]
    rw [controlCmdSetWrite_of_write h_write, h_mod, ← h_built, if_neg h_short, ← h_bytes,
      if_pos (h_link.accepted s.world bytes h_some h_fits), h_await]
  refine ⟨_, h_result, ?_⟩
  rw [← h_served] at h_users h_table
  rw [← h_response] at h_ret
  refine hostServed_write ?_ h_users h_table ⟨h_set'.trans h_set, h_probe'.trans h_probe⟩
  show controlSuccess + h'.responseByte 3 = _
  rw [responseByte_eq h_ret]
  exact UInt8.zero_add _

end Commands

end DeviceControl
