import DeviceControl.Host.Command
import DeviceControl.Host.Xscope
import DeviceControl.Xscope.Residue

/-!
# The round trip of an xSCOPE upload

`control_xscope_create_upload_buffer` encodes a command into a buffer of 64 words, and
`control_process_xscope_upload` decodes it. The format has room for a payload of 252 bytes. The
builder compares the length, which is one of bytes, with the number of words, so it refuses every
payload of more than 64 bytes, and then nothing is uploaded.

A host has more than that to get wrong for a payload that is too long: it casts the length to 32
bits before the builder looks at it, and it uploads the empty buffer of a builder that has refused.

`xscope_roundTrip_iff` says for which commands the round trip is right.
-/

namespace DeviceControl

variable {σ W : Type}

/-! ### The round trip -/

/-- What the builder makes of a command. The payload pointer of a read may be null. -/
def Command.xscopeBuilt (c : Command) (b : XscopeBuffer) (p : Option (List UInt8)) :
    ℕ × Filling UInt8 xscopeUploadMaxBytes :=
  controlXscopeCreateUploadBuffer b c.cmd c.resid
    (if isControlCmdRead c.cmd then p else some c.payload) (c.payload.length % 2 ^ 32)

/-- The round trip over the whole format: a command of the format is built within the buffer and
decoded to its own request, and one that is too long is refused. -/
structure XscopeRoundTrip (tasks : UserTasks σ) (requestUpload : W → List UInt8 → XscopeOutcome W)
    (h : XscopeHost) (w : W) (b : XscopeBuffer) (p : Option (List UInt8)) (d : Device σ)
    (ifnum : UInt8) (c : Command) : Prop where
  size : c.payload.length ≤ xscopeDataMaxBytes → (c.xscopeBuilt b p).1
    = if isControlCmdRead c.cmd then sizeofXscopeHeader else sizeofXscopeHeader + c.payload.length
  inside : ∀ i ∈ (c.xscopeBuilt b p).2.stores, i < xscopeUploadMaxBytes
  /-- Whatever stands behind the bytes that are sent. -/
  decoded : c.payload.length ≤ xscopeDataMaxBytes → ∀ buf : XscopeBuffer,
    buf.front (c.xscopeBuilt b p).1 = sent (c.xscopeBuilt b p) →
      xscopeRequests tasks d (c.xscopeBuilt b p).1 buf = [c.request ifnum]
  refused : xscopeDataMaxBytes < c.payload.length → (c.xscopeBuilt b p).1 = 0 ∧
    ∃ r, h.controlWriteCommand requestUpload w b c.resid c.cmd c.payload = some r ∧
      r.ret ≠ controlSuccess

/-- An upload of no bytes ends in an error: the endpoint refuses it, or a response says so. -/
def EmptyUploadFails (requestUpload : W → List UInt8 → XscopeOutcome W) (h : XscopeHost) (w : W) :
    Prop :=
  (requestUpload w []).accepted = false ∨
    ∃ r, (h.responses (requestUpload w []).records).getLast? = some r ∧
      XscopeHost.responseRet { h with lastResponse := r.databytes } ≠ controlSuccess

section RoundTrip

variable {tasks : UserTasks σ} {requestUpload : W → List UInt8 → XscopeOutcome W} {h : XscopeHost}
  {w : W} {b : XscopeBuffer} {p : Option (List UInt8)} {d : Device σ} {ifnum : UInt8} {c : Command}

/-- A builder that has refused leaves nothing to be uploaded. -/
theorem xscopeBuilt_of_lt (h_long : xscopeUploadMaxWords < c.payload.length % 2 ^ 32) :
    c.xscopeBuilt b p = (0, .start b) :=
  if_pos h_long

/-- No store of the builder is outside of the buffer: there is a check before the copy. -/
theorem xscopeBuilt_inside : ∀ i ∈ (c.xscopeBuilt b p).2.stores, i < xscopeUploadMaxBytes := by
  obtain ⟨h_header, h_words, h_bytes, -⟩ := xscope_sizes
  unfold Command.xscopeBuilt controlXscopeCreateUploadBuffer
  split
  · exact List.forall_mem_nil _
  have h_stores : ∀ i ∈ (storeHeader (Filling.start b) c.resid c.cmd
      (UInt8.ofNat (c.payload.length % 2 ^ 32))).stores, i < xscopeUploadMaxBytes := by
    rw [stores_storeHeader, Filling.stores_start, List.nil_append]
    decide
  split
  · dsimp only
    split
    · next h_room =>
      -- the copy ends where the check says
      rw [Filling.stores_copy, List.forall_mem_append]
      refine ⟨h_stores, fun i h_mem => ?_⟩
      obtain ⟨-, h_lt⟩ := List.mem_range'_1.mp h_mem
      rw [List.length_take] at h_lt
      omega
    · exact h_stores
  · exact h_stores

/-- A command that the builder accepts is uploaded with its header, and a write with its payload. -/
theorem xscopeBuilt_size (h_short : c.payload.length % 2 ^ 32 ≤ xscopeUploadMaxWords) :
    (c.xscopeBuilt b p).1 = if isControlCmdRead c.cmd then sizeofXscopeHeader
      else sizeofXscopeHeader + c.payload.length % 2 ^ 32 := by
  rw [Command.xscopeBuilt, controlXscopeCreateUploadBuffer, if_neg (Nat.not_lt.mpr h_short)]
  cases isControlCmdRead c.cmd <;> rfl

/-- A command that the builder accepts is decoded to its own request. -/
theorem request_of_built (h_short : c.payload.length ≤ xscopeUploadMaxWords) {buf : XscopeBuffer}
    (h_front : buf.front (c.xscopeBuilt b p).1 = sent (c.xscopeBuilt b p)) :
    buf.resid = c.resid ∧ buf.request ifnum = c.request ifnum := by
  have h_mod : c.payload.length % 2 ^ 32 = c.payload.length :=
    Nat.mod_eq_of_lt (h_short.trans_lt (by decide))
  rw [Command.xscopeBuilt, h_mod] at h_front
  obtain ⟨h_resid, h_cmd, h_plen, h_data⟩ :=
    XscopeBuffer.fields_of_sent h_short (fun h_write => by simp [h_write]) h_front
  refine ⟨h_resid, ?_⟩
  rw [XscopeBuffer.request, Command.request, h_resid, h_cmd, h_plen]
  cases h_dir : isControlCmdRead c.cmd with
  | false =>
    rw [if_neg Bool.false_ne_true, if_neg Bool.false_ne_true, h_data h_dir]
    rfl
  | true => rfl

/-- Where the builder refuses, `control_write_command` returns an error exactly if the upload of no
bytes fails. Otherwise it returns success, or waits for a response for ever. -/
theorem writeCommand_refused_iff
    (h_long : xscopeUploadMaxWords < c.payload.length % 2 ^ 32) :
    (∃ r, h.controlWriteCommand requestUpload w b c.resid c.cmd c.payload = some r ∧
        r.ret ≠ controlSuccess) ↔ EmptyUploadFails requestUpload h w := by
  have h_built : controlXscopeCreateUploadBuffer b (controlCmdSetWrite c.cmd) c.resid
      (some c.payload) (c.payload.length % 2 ^ 32) = (0, .start b) := if_pos h_long
  have h_sent : sent (0, .start b) = [] := rfl
  dsimp only [XscopeHost.controlWriteCommand]
  rw [h_built, h_sent, EmptyUploadFails]
  cases h_accepted : (requestUpload w []).accepted with
  | false =>
    have h_error : controlError ≠ controlSuccess := by decide
    exact iff_of_true ⟨_, rfl, h_error⟩ (Or.inl rfl)
  | true =>
    -- an empty upload is within the limit
    have h_limit : ¬ uploadLenExceedsXscopeLimit 0 = true := by
      show ¬ uploadLenExceedsXscopeLimit 0 = true
      decide
    rw [if_neg h_limit, if_pos rfl, awaitResponse_zero]
    cases h_last : (h.responses (requestUpload w []).records).getLast? with
    | none =>
      refine iff_of_false ?_ ?_
      · rintro ⟨_, h_none, -⟩
        cases h_none
      · rintro (h_refused | ⟨_, h_some, -⟩)
        · cases h_refused
        · cases h_some
    | some r =>
      -- `CONTROL_SUCCESS` is zero, so the byte of the response is returned
      constructor
      · rintro ⟨_, h_some, h_ret⟩
        obtain rfl := Option.some.inj h_some
        exact Or.inr ⟨r, rfl, fun h_zero => h_ret ((UInt8.zero_add _).trans h_zero)⟩
      · rintro (h_refused | ⟨_, h_some, h_ret⟩)
        · cases h_refused
        · obtain rfl := Option.some.inj h_some
          exact ⟨_, rfl, fun h_zero => h_ret ((UInt8.zero_add _).symm.trans h_zero)⟩

/-- **Round trip.** It is right for a payload of at most 64 bytes, and beyond the format for one
that is still longer after the cast, if the upload of no bytes fails. -/
theorem xscope_roundTrip_iff (h_search : resourceTableSearch d.table c.resid = some ifnum)
    (h_ne : c.resid ≠ controlSpecialResid) :
    XscopeRoundTrip tasks requestUpload h w b p d ifnum c ↔
      c.payload.length ≤ xscopeUploadMaxWords ∨
        xscopeDataMaxBytes < c.payload.length ∧
          xscopeUploadMaxWords < c.payload.length % 2 ^ 32 ∧
          EmptyUploadFails requestUpload h w := by
  obtain ⟨h_header, h_words, h_bytes, h_data⟩ := xscope_sizes
  -- the builder refuses by the length that the cast has left
  have h_pos : (c.xscopeBuilt b p).1 ≠ 0 ∨ xscopeUploadMaxWords < c.payload.length % 2 ^ 32 := by
    rcases Nat.lt_or_ge xscopeUploadMaxWords (c.payload.length % 2 ^ 32) with h_long | h_short
    · exact Or.inr h_long
    · rw [xscopeBuilt_size h_short]
      split <;> omega
  constructor
  · intro h_trip
    by_cases h_short : c.payload.length ≤ xscopeUploadMaxWords
    · exact Or.inl h_short
    rcases Nat.lt_or_ge xscopeDataMaxBytes c.payload.length with h_over | h_format
    · -- beyond the format the builder has refused, so the length is still too long after the cast
      obtain ⟨h_zero, h_ret⟩ := h_trip.refused h_over
      have h_long := h_pos.resolve_left (not_not.mpr h_zero)
      exact Or.inr ⟨h_over, h_long, (writeCommand_refused_iff h_long).mp h_ret⟩
    · -- within the format it must not refuse
      have h_mod : c.payload.length % 2 ^ 32 = c.payload.length := Nat.mod_eq_of_lt (by omega)
      have h_size := h_trip.size h_format
      rw [xscopeBuilt_of_lt (by omega)] at h_size
      split at h_size <;> omega
  · -- conversely a short payload settles what is within the format, and the rest is beyond it
    intro h_cond
    constructor
    case inside => exact xscopeBuilt_inside
    case size =>
      intro h_format
      have h_short : c.payload.length ≤ xscopeUploadMaxWords :=
        h_cond.resolve_right fun h_over => by omega
      have h_mod : c.payload.length % 2 ^ 32 = c.payload.length := Nat.mod_eq_of_lt (by omega)
      rw [xscopeBuilt_size (h_mod.trans_le h_short), h_mod]
    case decoded =>
      intro h_format buf h_front
      have h_short : c.payload.length ≤ xscopeUploadMaxWords :=
        h_cond.resolve_right fun h_over => by omega
      obtain ⟨h_resid, h_request⟩ := request_of_built h_short h_front
      rw [← h_resid] at h_search h_ne
      rw [xscopeRequests_some h_search h_ne, h_request]
    case refused =>
      intro h_over
      obtain ⟨-, h_long, h_fails⟩ := h_cond.resolve_left fun h_short => by omega
      exact ⟨by rw [xscopeBuilt_of_lt h_long], (writeCommand_refused_iff h_long).mpr h_fails⟩

end RoundTrip

/-- A write of two bytes to a resource that is registered. -/
theorem xscope_roundTrip_short :
    let tasks : UserTasks Unit := .always controlSuccess []
    let link : Unit → List UInt8 → XscopeOutcome Unit := fun _ _ => ⟨false, [], ()⟩
    XscopeRoundTrip tasks link ⟨1, true, 0, [], fun _ => 0⟩ () (Buffer.ofList 0 []) none
      (boot [[3]] ()) 0 ⟨3, 5, [7, 8]⟩ := by
  intro tasks link
  have h_search : resourceTableSearch (boot [[3]] ()).table 3 = some 0 := by decide +kernel
  have h_ne : (3 : ControlResid) ≠ controlSpecialResid := by decide
  exact (xscope_roundTrip_iff h_search h_ne).mpr (Or.inl (by decide))

/-- A write of 65 bytes, which the format has room for: nothing is built. -/
theorem xscope_roundTrip_refuses_format :
    let tasks : UserTasks Unit := .always controlSuccess []
    let link : Unit → List UInt8 → XscopeOutcome Unit := fun _ _ => ⟨false, [], ()⟩
    let c : Command := ⟨3, 5, List.replicate 65 7⟩
    c.payload.length ≤ xscopeDataMaxBytes ∧ (c.xscopeBuilt (Buffer.ofList 0 []) none).1 = 0 ∧
      ¬ XscopeRoundTrip tasks link ⟨1, true, 0, [], fun _ => 0⟩ () (Buffer.ofList 0 []) none
        (boot [[3]] ()) 0 c := by
  intro tasks link c
  have h_len : c.payload.length = 65 := List.length_replicate ..
  have h_built : (c.xscopeBuilt (Buffer.ofList 0 []) none).1 = 0 := by
    rw [xscopeBuilt_of_lt (by rw [h_len]; decide)]
  refine ⟨by rw [h_len]; decide, h_built, fun h_trip => ?_⟩
  have h_size := h_trip.size (by rw [h_len]; decide)
  rw [h_built, h_len] at h_size
  exact absurd h_size (by decide)

end DeviceControl
