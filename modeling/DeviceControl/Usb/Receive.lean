import DeviceControl.Control.Adapters
import DeviceControl.Library.Loop

/-!
# The receive loop of endpoint 0

`USB_EP0_Receive` reads the data stage of a write into `request_data`, one packet at a time. Three
things end its loop: a result other than `XUD_RES_OKAY`, a packet shorter than 64 bytes, and
`wLength` bytes received.

What the bus delivers is a sequence of packets, one for each call of `XUD_GetBuffer` in turn.
`Continues` says of it that the loop asks for a further packet, and `DataStage` how many it asks
for. `usbEp0Receive_ends` is the result about every sequence: the loop ends behind the data stage,
the packets stand in front of the array in order, and what the array held behind them is still
there. `usb_receive_bounded` draws from it what `request_data` needs: no call is handed less than 64
bytes of it, as long as not more than 256 are asked for.
-/

namespace DeviceControl

/-- `B_MAX_PACKET_SIZE0`. -/
abbrev bMaxPacketSize0 : ℕ := 64

/-- What a call of `XUD_GetBuffer` returns, what it stores at the address it is given, and what it
leaves in `packet_len`. Of a call that fails nothing else is known. -/
structure XudPacket where
  result : XudResult
  data : List UInt8
  packetLen : ℕ
  length_le : result = .okay → data.length ≤ bMaxPacketSize0
  packetLen_eq : result = .okay → packetLen = data.length

/-- A call that succeeds with a packet. -/
def XudPacket.received (data : List UInt8) (h : data.length ≤ bMaxPacketSize0) : XudPacket where
  result := .okay
  data := data
  packetLen := data.length
  length_le _ := h
  packetLen_eq _ := rfl

/-! ### The function -/

/-- The variables of `USB_EP0_Receive`. The last one records the offsets handed to
`XUD_GetBuffer`. -/
structure UsbEp0 where
  result : XudResult
  lenEp0 : ℕ
  packetLen : ℕ
  buffer : Buffer UInt8 ep0MaxRequestSize
  offsets : List ℕ

section Loop

variable (packets : ℕ → XudPacket) (wLength : UInt16)

/-- The condition of the loop. -/
def UsbEp0.guard (s : UsbEp0) : Bool :=
  s.result = .okay ∧ s.packetLen = bMaxPacketSize0 ∧ s.lenEp0 < wLength.toNat

/-- The body of the loop. The packets come in the order of the calls. -/
def UsbEp0.body (s : UsbEp0) : UsbEp0 :=
  let packet := packets s.offsets.length
  { result := packet.result
    lenEp0 := s.lenEp0 + packet.packetLen
    packetLen := packet.packetLen
    buffer := s.buffer.copy s.lenEp0 packet.data
    offsets := s.offsets ++ [s.lenEp0] }

/-- The loop of `USB_EP0_Receive`. A round that is not the last one has received 64 bytes. -/
def usbEp0Loop : WhileLoop UsbEp0 where
  guard := UsbEp0.guard wLength
  body := UsbEp0.body packets
  variant s := if s.guard wLength then wLength.toNat - s.lenEp0 else 0
  decreases s h := by
    have h_lt : s.lenEp0 < wLength.toNat := (of_decide_eq_true h).2.2
    rw [if_pos h]
    split_ifs with h_next
    · have h_full : (packets s.offsets.length).packetLen = 64 := (of_decide_eq_true h_next).2.1
      change wLength.toNat - (s.lenEp0 + (packets s.offsets.length).packetLen) < _
      omega
    · omega

/-- The variables in front of the loop. -/
def UsbEp0.start (buffer : Buffer UInt8 ep0MaxRequestSize) : UsbEp0 where
  result := .okay
  lenEp0 := 0
  packetLen := bMaxPacketSize0
  buffer := buffer
  offsets := []

/-- `USB_EP0_Receive`, with the variables at its end: it returns `result`. -/
def usbEp0Receive (buffer : Buffer UInt8 ep0MaxRequestSize) : UsbEp0 :=
  (usbEp0Loop packets wLength).run (.start buffer)

/-! ### The data stage -/

/-- The bytes of the first `k` packets. -/
def packetBytes (k : ℕ) : List UInt8 := (List.range k).flatMap fun j => (packets j).data

/-- Packet `k` is asked for: the ones before it are full and leave something to come. -/
def Continues (k : ℕ) : Prop :=
  (∀ j < k, (packets j).result = .okay ∧ (packets j).data.length = bMaxPacketSize0) ∧
    bMaxPacketSize0 * k < wLength.toNat

/-- The data stage takes `k` packets. -/
structure DataStage (k : ℕ) : Prop where
  asked : ∀ j < k, Continues packets wLength j
  ends : ¬ Continues packets wLength k

/-- What the last of the first `k` calls of `XUD_GetBuffer` returned. -/
def resultAfter : ℕ → XudResult
  | 0 => .okay
  | k + 1 => (packets k).result

/-- The length of the packet that the last of the first `k` calls brought. -/
def lengthAfter : ℕ → ℕ
  | 0 => bMaxPacketSize0
  | k + 1 => (packets k).data.length

variable {packets wLength} {k : ℕ}

theorem packetBytes_succ :
    packetBytes packets (k + 1) = packetBytes packets k ++ (packets k).data := by
  rw [packetBytes, List.range_succ, List.flatMap_append, List.flatMap_singleton, packetBytes]

/-- Full packets bring 64 bytes each. -/
theorem length_packetBytes (h : ∀ j < k, (packets j).data.length = bMaxPacketSize0) :
    (packetBytes packets k).length = bMaxPacketSize0 * k := by
  induction k with
  | zero => rfl
  | succ k ih =>
    calc (packetBytes packets (k + 1)).length
        = (packetBytes packets k).length + (packets k).data.length := by
          rw [packetBytes_succ, List.length_append]
      _ = bMaxPacketSize0 * k + bMaxPacketSize0 := by
          rw [ih fun j hj => h j (Nat.lt_succ_of_lt hj), h k (Nat.lt_succ_self k)]
      _ = bMaxPacketSize0 * (k + 1) := (Nat.mul_succ bMaxPacketSize0 k).symm

theorem Continues.length_packetBytes (h : Continues packets wLength k) :
    (packetBytes packets k).length = bMaxPacketSize0 * k :=
  DeviceControl.length_packetBytes fun j hj => (h.1 j hj).2

/-- After the packets asked for so far, the next one is asked for exactly if the last one was full
and something is left. -/
theorem continues_iff (h : ∀ j < k, Continues packets wLength j) :
    Continues packets wLength k ↔
      resultAfter packets k = .okay ∧ lengthAfter packets k = bMaxPacketSize0 ∧
        (packetBytes packets k).length < wLength.toNat := by
  cases k with
  | zero =>
    have h_none : ∀ j < 0, (packets j).result = .okay ∧ (packets j).data.length = bMaxPacketSize0 :=
      nofun
    rw [Continues, and_iff_right h_none]
    exact ((and_iff_right rfl).trans (and_iff_right rfl)).symm
  | succ k =>
    have h_last := h k (Nat.lt_succ_self k)
    constructor
    · intro h_cont
      rw [h_cont.length_packetBytes]
      exact ⟨(h_cont.1 k (Nat.lt_succ_self k)).1, (h_cont.1 k (Nat.lt_succ_self k)).2, h_cont.2⟩
    · rintro ⟨h_okay, h_full, h_lt⟩
      rw [packetBytes_succ, List.length_append, h_last.length_packetBytes] at h_lt
      change (packets k).data.length = bMaxPacketSize0 at h_full
      refine ⟨fun j hj => ?_, by rwa [h_full] at h_lt⟩
      rcases Nat.lt_succ_iff_lt_or_eq.mp hj with hj | rfl
      · exact h_last.1 j hj
      · exact ⟨h_okay, h_full⟩

/-- A data stage takes one number of packets. -/
theorem DataStage.unique {k' : ℕ} (h : DataStage packets wLength k)
    (h' : DataStage packets wLength k') : k = k' := by
  rcases lt_trichotomy k k' with h_lt | h_eq | h_lt
  · exact absurd (h'.asked k h_lt) h.ends
  · exact h_eq
  · exact absurd (h.asked k' h_lt) h'.ends

/-- What a data stage of at most 256 bytes brings fits into the array. -/
theorem DataStage.length_le (h : DataStage packets wLength k)
    (h_okay : resultAfter packets k = .okay) (h_le : wLength.toNat ≤ ep0MaxRequestSize) :
    (packetBytes packets k).length ≤ ep0MaxRequestSize := by
  cases k with
  | zero => exact Nat.zero_le _
  | succ k =>
    have h_last := h.asked k (Nat.lt_succ_self k)
    have h_lt := h_last.2
    have h_data := (packets k).length_le h_okay
    rw [packetBytes_succ, List.length_append, h_last.length_packetBytes]
    -- a packet that starts below 256 starts at 192 at most
    change 64 * k < wLength.toNat at h_lt
    change 64 * k + (packets k).data.length ≤ 256
    change (packets k).data.length ≤ 64 at h_data
    change wLength.toNat ≤ 256 at h_le
    omega

/-! ### The run of the loop -/

/-- The variables after `k` rounds, from an array `b`. A call that fails leaves the two lengths
open, and is the last one. -/
structure UsbEp0.After (packets : ℕ → XudPacket) (wLength : UInt16)
    (b : Buffer UInt8 ep0MaxRequestSize) (k : ℕ) (s : UsbEp0) : Prop where
  asked : ∀ j < k, Continues packets wLength j
  result : s.result = resultAfter packets k
  lenEp0 : s.result = .okay → s.lenEp0 = (packetBytes packets k).length
  packetLen : s.result = .okay → s.packetLen = lengthAfter packets k
  buffer : s.buffer = b.copy 0 (packetBytes packets k)
  offsets : s.offsets = (List.range k).map (bMaxPacketSize0 * ·)

variable {b : Buffer UInt8 ep0MaxRequestSize} {s : UsbEp0}

/-- The condition of the loop is that the next packet is asked for. -/
theorem UsbEp0.After.guard_iff (h : s.After packets wLength b k) :
    s.guard wLength = true ↔ Continues packets wLength k := by
  rw [continues_iff h.asked, UsbEp0.guard, decide_eq_true_iff, ← h.result]
  refine and_congr_right fun h_okay => ?_
  rw [h.packetLen h_okay, h.lenEp0 h_okay]

/-- **The receive step.** A round stores one more packet behind those received. -/
theorem UsbEp0.After.body (h : s.After packets wLength b k)
    (h_cont : Continues packets wLength k) :
    (s.body packets).After packets wLength b (k + 1) := by
  have h_calls : s.offsets.length = k := by rw [h.offsets, List.length_map, List.length_range]
  have h_len : s.lenEp0 = (packetBytes packets k).length :=
    h.lenEp0 (h.result.trans ((continues_iff h.asked).mp h_cont).1)
  unfold UsbEp0.body
  rw [h_calls]
  constructor
  · intro j hj
    rcases Nat.lt_succ_iff_lt_or_eq.mp hj with hj | rfl
    · exact h.asked j hj
    · exact h_cont
  · rfl
  · intro h_okay
    calc s.lenEp0 + (packets k).packetLen
        = (packetBytes packets k).length + (packets k).data.length := by
          rw [h_len, (packets k).packetLen_eq h_okay]
      _ = (packetBytes packets (k + 1)).length := by rw [packetBytes_succ, List.length_append]
  · exact (packets k).packetLen_eq
  · -- the packet is copied behind the ones that are there
    calc s.buffer.copy s.lenEp0 (packets k).data
        = (b.copy 0 (packetBytes packets k)).copy (packetBytes packets k).length
            (packets k).data := by rw [h.buffer, h_len]
      _ = b.copy 0 (packetBytes packets (k + 1)) := by
          rw [packetBytes_succ, Buffer.copy_append, Nat.zero_add]
  · calc s.offsets ++ [s.lenEp0]
        = (List.range k).map (bMaxPacketSize0 * ·) ++ [bMaxPacketSize0 * k] := by
          rw [h.offsets, h_len, h_cont.length_packetBytes]
      _ = (List.range (k + 1)).map (bMaxPacketSize0 * ·) := by
          rw [List.range_succ, List.map_append, List.map_singleton]

/-- **The run of the loop.** It ends, after as many rounds as there are packets in the data
stage. -/
theorem usbEp0Receive_ends (packets : ℕ → XudPacket) (wLength : UInt16)
    (b : Buffer UInt8 ep0MaxRequestSize) :
    ∃ k, (usbEp0Loop packets wLength).EndsAfter (.start b) k (usbEp0Receive packets wLength b) ∧
      DataStage packets wLength k ∧
      (usbEp0Receive packets wLength b).After packets wLength b k := by
  obtain ⟨k, h_ends⟩ := (usbEp0Loop packets wLength).exists_endsAfter (.start b)
  have h : (usbEp0Receive packets wLength b).After packets wLength b k := by
    refine h_ends.invariant (P := fun k s => s.After packets wLength b k) ?_
      ⟨nofun, rfl, fun _ => rfl, fun _ => rfl, rfl, rfl⟩
    exact fun k s h h_guard => h.body (h.guard_iff.mp h_guard)
  refine ⟨k, h_ends, ⟨h.asked, fun h_cont => ?_⟩, h⟩
  -- the loop has ended, so no further packet is asked for
  have h_guard : (usbEp0Receive packets wLength b).guard wLength = false := h_ends.ends
  rw [h.guard_iff.mpr h_cont] at h_guard
  cases h_guard

/-- The loop ends behind the packets of the data stage, with their bytes in front of the array. -/
theorem usbEp0Receive_spec (packets : ℕ → XudPacket) (wLength : UInt16)
    (b : Buffer UInt8 ep0MaxRequestSize) :
    ∃ k, DataStage packets wLength k ∧
      (usbEp0Receive packets wLength b).After packets wLength b k := by
  obtain ⟨k, -, h⟩ := usbEp0Receive_ends packets wLength b
  exact ⟨k, h⟩

/-! ### Bounds and order -/

/-- The packets that the calls so far have brought. -/
def UsbEp0.received (packets : ℕ → XudPacket) (s : UsbEp0) : List XudPacket :=
  (List.range s.offsets.length).map packets

/-- The packets stand in front of the array in order, and they are a whole data stage: all of them
are full but the last one, which is short if the bytes asked for have not arrived. -/
structure Assembled (ps : List XudPacket) (wLength : UInt16)
    (buffer : Buffer UInt8 ep0MaxRequestSize) : Prop where
  bytes : buffer.front (ps.map fun p => p.data.length).sum = ps.flatMap fun p => p.data
  full : ∀ p ∈ ps.dropLast, p.data.length = bMaxPacketSize0
  complete : wLength.toNat ≤ (ps.map fun p => p.data.length).sum ∨
    ∃ p ∈ ps.getLast?, p.data.length < bMaxPacketSize0

/-- A data stage that ends without an error is complete. -/
theorem DataStage.complete (h : DataStage packets wLength k)
    (h_okay : resultAfter packets k = .okay) :
    wLength.toNat ≤ (packetBytes packets k).length ∨ lengthAfter packets k < bMaxPacketSize0 := by
  by_contra h_not
  obtain ⟨h_more, h_short⟩ := not_or.mp h_not
  -- otherwise a further packet would be asked for
  refine h.ends ((continues_iff h.asked).mpr ⟨h_okay, ?_, not_le.mp h_more⟩)
  cases k with
  | zero => rfl
  | succ k => exact le_antisymm ((packets k).length_le h_okay) (not_lt.mp h_short)

/-- The packets of a data stage without an error, copied to the array, are assembled there. -/
theorem DataStage.assembled (h : DataStage packets wLength k)
    (h_okay : resultAfter packets k = .okay) (h_le : wLength.toNat ≤ ep0MaxRequestSize)
    (b : Buffer UInt8 ep0MaxRequestSize) :
    Assembled ((List.range k).map packets) wLength (b.copy 0 (packetBytes packets k)) := by
  have h_bytes : ((List.range k).map packets).flatMap (fun p => p.data)
      = packetBytes packets k := by
    rw [List.flatMap_map, packetBytes]
  have h_sum : (((List.range k).map packets).map fun p => p.data.length).sum
      = (packetBytes packets k).length := by
    rw [← h_bytes, List.length_flatMap]
  constructor
  · rw [h_sum, h_bytes, Buffer.front_copy_zero b (h.length_le h_okay h_le)]
  · intro p hp
    cases k with
    | zero => cases hp
    | succ k =>
      -- the packets before the last one
      rw [List.range_succ, List.map_append, List.map_singleton, List.dropLast_concat] at hp
      obtain ⟨j, hj, rfl⟩ := List.mem_map.mp hp
      exact ((h.asked k (Nat.lt_succ_self k)).1 j (List.mem_range.mp hj)).2
  · rw [h_sum]
    refine (h.complete h_okay).imp_right fun h_short => ?_
    cases k with
    | zero => exact absurd h_short (lt_irrefl _)
    | succ k =>
      refine ⟨packets k, ?_, h_short⟩
      rw [List.range_succ, List.map_append, List.map_singleton, List.getLast?_concat]
      rfl

/-- **The receive loop.** It ends after four calls at most. Each of them is handed room for a packet
inside the array, at a multiple of 64 below the length asked for. If none of them fails, the array
holds the packets in order. -/
theorem usb_receive_bounded (packets : ℕ → XudPacket) (wLength : UInt16)
    (buffer : Buffer UInt8 ep0MaxRequestSize) (h_len : wLength.toNat ≤ ep0MaxRequestSize) :
    let s := usbEp0Receive packets wLength buffer
    (usbEp0Loop packets wLength).EndsAfter (.start buffer) s.offsets.length s ∧
      s.offsets.length ≤ 4 ∧
      (∀ offset ∈ s.offsets, offset + bMaxPacketSize0 ≤ ep0MaxRequestSize ∧
        bMaxPacketSize0 ∣ offset ∧ offset < wLength.toNat) ∧
      (s.result = .okay → Assembled (s.received packets) wLength s.buffer) := by
  intro s
  obtain ⟨k, h_ends, h_stage, h_after⟩ := usbEp0Receive_ends packets wLength buffer
  have h_calls : s.offsets.length = k := by
    rw [h_after.offsets, List.length_map, List.length_range]
  have h_len : wLength.toNat ≤ 256 := h_len
  rw [UsbEp0.received, h_calls]
  refine ⟨h_ends, ?_, ?_, ?_⟩
  · by_contra h_five
    have h_lt : 64 * 4 < wLength.toNat := (h_stage.asked 4 (not_le.mp h_five)).2
    omega
  · intro offset h_offset
    rw [h_after.offsets] at h_offset
    obtain ⟨j, hj, rfl⟩ := List.mem_map.mp h_offset
    have h_lt : 64 * j < wLength.toNat := (h_stage.asked j (List.mem_range.mp hj)).2
    -- a multiple of 64 below 256 leaves room for 64 bytes
    refine ⟨?_, Nat.dvd_mul_right _ _, h_lt⟩
    change 64 * j + 64 ≤ 256
    omega
  · intro h_okay
    rw [h_after.result] at h_okay
    rw [h_after.buffer]
    exact h_stage.assembled h_okay h_len buffer

/-- A full packet and a short one behind it. -/
theorem usb_receive_bounded_run :
    let packets : ℕ → XudPacket := fun j =>
      .received (List.replicate (if j = 0 then 64 else 2) 7) (by split_ifs <;> decide)
    let s := usbEp0Receive packets 200 (Buffer.ofList 0 [])
    s.offsets = [0, 64] ∧ Assembled (s.received packets) 200 s.buffer := by
  intro packets s
  obtain ⟨-, -, -, h_assembled⟩ :=
    usb_receive_bounded packets 200 (Buffer.ofList 0 []) (by decide)
  exact ⟨by decide +kernel, h_assembled (by decide +kernel)⟩

end Loop

end DeviceControl
