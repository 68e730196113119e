import SpTsMuxer.Transport.Packet

/-!
# A Reference Demultiplexer for One Elementary Stream

The packets of one PID are read in order.  A packet whose `payload_unit_start_indicator` is set
opens a new PES packet and has to begin with the start code of the stream; every other packet
continues the open one.  Each PES packet is then cut at its header, and its time stamp read.

The demultiplexer is a forward pass over raw packets.  It is described through transport units:
a start packet followed by continuation packets.  A stream of units is demultiplexed unit by
unit, and a single start packet without a start code makes the whole stream unreadable.
-/

namespace SpTsMuxer.Transport

/-! ## PES packets -/

/-- The start code prefix and the stream identifier. -/
def startCode (streamId : UInt8) : List UInt8 := [0x00, 0x00, 0x01, streamId]

/-- What a receiver gets from one PES packet. -/
@[ext]
structure AccessUnit where
  pts : Option ℕ
  payload : List UInt8
  deriving DecidableEq, Repr

/-- The 33-bit time stamp in bytes 9 to 13, with its three marker bits left out. -/
def readPts (bytes : List UInt8) : ℕ :=
  byteAt bytes 9 / 2 % 8 * 2 ^ 30 + byteAt bytes 10 * 2 ^ 22 + byteAt bytes 11 / 2 * 2 ^ 15 +
    byteAt bytes 12 * 2 ^ 7 + byteAt bytes 13 / 2

/-- Cut a PES packet at its header, whose length is 9 and the `PES_header_data_length`. -/
def parsePes (bytes : List UInt8) : AccessUnit where
  pts := if byteAt bytes 7 / 128 = 1 then some (readPts bytes) else none
  payload := bytes.drop (9 + byteAt bytes 8)

/-- The fourteen bytes of a PES header whose only optional field is the time stamp. -/
def pesHeader (streamId : UInt8) (packetLength pts : ℕ) : List UInt8 :=
  [0x00, 0x00, 0x01, streamId, UInt8.ofNat (packetLength / 256), UInt8.ofNat packetLength,
    0x80, 0x80, 0x05, UInt8.ofNat (0x21 + pts / 2 ^ 30 % 8 * 2), UInt8.ofNat (pts / 2 ^ 22),
    UInt8.ofNat (pts / 2 ^ 15 % 128 * 2 + 1), UInt8.ofNat (pts / 2 ^ 7),
    UInt8.ofNat (pts % 128 * 2 + 1)]

@[simp]
theorem length_pesHeader (streamId : UInt8) (packetLength pts : ℕ) :
    (pesHeader streamId packetLength pts).length = 14 := rfl

theorem startCode_prefix_pesHeader (streamId : UInt8) (packetLength pts : ℕ)
    (rest : List UInt8) :
    startCode streamId <+: pesHeader streamId packetLength pts ++ rest :=
  ⟨_, rfl⟩

/-- The header gives back the time stamp modulo `2 ^ 33`. -/
theorem readPts_pesHeader (streamId : UInt8) (packetLength pts : ℕ) (rest : List UInt8) :
    readPts (pesHeader streamId packetLength pts ++ rest) = pts % 2 ^ 33 := by
  simp only [readPts, pesHeader, List.cons_append, byteAt_zero_cons, byteAt_succ_cons,
    UInt8.toNat_ofNat']
  omega

/-- Reading back a PES packet gives its time stamp and its payload. -/
theorem parsePes_pesHeader (streamId : UInt8) (packetLength pts : ℕ) (data : List UInt8) :
    parsePes (pesHeader streamId packetLength pts ++ data) = ⟨some (pts % 2 ^ 33), data⟩ := by
  ext1
  · change (if _ then some (readPts _) else none) = _
    rw [readPts_pesHeader]
    exact if_pos (by simp [pesHeader])
  · rfl

/-! ## Assembling PES packets -/

/-- The PES packets of one PID.  `current` is the PES packet that is open, if any. -/
def assemble (streamId : UInt8) : Option (List UInt8) → List (List UInt8) →
    Option (List (List UInt8))
  | current, [] => some current.toList
  | current, packet :: rest =>
      if payloadUnitStartIndicator packet then
        if startCode streamId <+: payload packet then
          (assemble streamId (some (payload packet)) rest).map (current.toList ++ ·)
        else none
      else current.bind fun bytes ↦ assemble streamId (some (bytes ++ payload packet)) rest

/-- The access units of one elementary stream, or nothing if the stream is unreadable. -/
def demux (streamId : UInt8) (packets : List (List UInt8)) : Option (List AccessUnit) :=
  (assemble streamId none packets).map (List.map parsePes)

/-- The packets of one PES packet: a start packet and its continuations. -/
inductive IsUnit (streamId : UInt8) : List (List UInt8) → List UInt8 → Prop where
  | intro {first : List UInt8} {rest : List (List UInt8)} {bytes : List UInt8}
      (start : payloadUnitStartIndicator first = true)
      (code : startCode streamId <+: payload first)
      (continuation : ∀ packet ∈ rest, payloadUnitStartIndicator packet = false)
      (contents : payload first ++ rest.flatMap payload = bytes) :
      IsUnit streamId (first :: rest) bytes

theorem assemble_continuation (streamId : UInt8) (bytes : List UInt8)
    (packets rest : List (List UInt8))
    (h : ∀ packet ∈ packets, payloadUnitStartIndicator packet = false) :
    assemble streamId (some bytes) (packets ++ rest) =
      assemble streamId (some (bytes ++ packets.flatMap payload)) rest := by
  induction packets generalizing bytes with
  | nil => simp
  | cons packet packets ih =>
      have hpacket : payloadUnitStartIndicator packet = false := h packet (by simp)
      have htail := ih (bytes ++ payload packet) fun other hmem ↦ h other (by simp [hmem])
      rw [List.cons_append, assemble, if_neg (by simp [hpacket]), Option.bind_some, htail,
        List.flatMap_cons, List.append_assoc]

/-- A unit closes the open PES packet and opens its own. -/
theorem assemble_unit {streamId : UInt8} {packets : List (List UInt8)} {bytes : List UInt8}
    (h : IsUnit streamId packets bytes) (current : Option (List UInt8))
    (rest : List (List UInt8)) :
    assemble streamId current (packets ++ rest) =
      (assemble streamId (some bytes) rest).map (current.toList ++ ·) := by
  cases h with
  | intro start code continuation contents =>
      rw [List.cons_append, assemble, if_pos start, if_pos code,
        assemble_continuation _ _ _ _ continuation, contents]

theorem assemble_units {streamId : UInt8} {ι : Type} (packets : ι → List (List UInt8))
    (bytes : ι → List UInt8) (units : List ι)
    (h : ∀ unit ∈ units, IsUnit streamId (packets unit) (bytes unit))
    (current : Option (List UInt8)) :
    assemble streamId current (units.flatMap packets) =
      some (current.toList ++ units.map bytes) := by
  induction units generalizing current with
  | nil => simp [assemble]
  | cons unit units ih =>
      have hunit := h unit (by simp)
      have htail := ih (fun other hmem ↦ h other (by simp [hmem])) (some (bytes unit))
      rw [List.flatMap_cons, assemble_unit hunit, htail]
      simp

/-- A stream of units is demultiplexed unit by unit: nothing is lost, merged or repeated. -/
theorem demux_units {streamId : UInt8} {ι : Type} (packets : ι → List (List UInt8))
    (bytes : ι → List UInt8) (units : List ι)
    (h : ∀ unit ∈ units, IsUnit streamId (packets unit) (bytes unit)) :
    demux streamId (units.flatMap packets) = some (units.map fun unit ↦ parsePes (bytes unit)) := by
  rw [demux, assemble_units packets bytes units h]
  simp [Function.comp_def]

/-- A start packet without the start code makes the stream unreadable. -/
theorem demux_eq_none {streamId : UInt8} {packets : List (List UInt8)} {packet : List UInt8}
    (hmem : packet ∈ packets) (hstart : payloadUnitStartIndicator packet = true)
    (hcode : ¬startCode streamId <+: payload packet) : demux streamId packets = none := by
  have hassemble : ∀ current, assemble streamId current packets = none := by
    induction packets with
    | nil => simp at hmem
    | cons head tail ih =>
        intro current
        rcases List.mem_cons.mp hmem with rfl | htail
        · rw [assemble, if_pos hstart, if_neg hcode]
        · rw [assemble]
          split_ifs
          · rw [ih htail, Option.map_none]
          · rfl
          · cases current with
            | none => rfl
            | some bytes => exact ih htail _
  rw [demux, hassemble, Option.map_none]

end SpTsMuxer.Transport
