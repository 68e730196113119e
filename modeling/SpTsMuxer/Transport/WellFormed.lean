import SpTsMuxer.Transport.Packet

/-!
# Well-Formed Packets

What ISO 13818-1 asks of the bytes of a transport packet without scrambling: the header fields,
and an adaptation field that holds nothing but flags, a clock reference and stuffing.  The encoding
of every abstract packet is well formed.
-/

namespace SpTsMuxer.Transport

/-- The bytes of the adaptation field after its length byte. -/
def adaptationField (packet : List UInt8) : List UInt8 :=
  (packet.drop 5).take (adaptationFieldLength packet)

/-- An adaptation field is empty, or has a flag byte, a clock reference if the flag says so, and
stuffing. -/
inductive FieldShape : List UInt8 → Prop where
  | empty : FieldShape []
  | stuffing (count : ℕ) : FieldShape (0x00 :: List.replicate count 0xff)
  | clock (pcr : List UInt8) (hpcr : pcr.length = 6) (count : ℕ) :
      FieldShape (0x10 :: (pcr ++ List.replicate count 0xff))

/-- A well-formed packet. -/
structure WellFormed (packet : List UInt8) : Prop where
  length : packet.length = 188
  syncByte : syncByte packet = 0x47
  transportErrorIndicator : transportErrorIndicator packet = false
  scramblingControl : scramblingControl packet = 0
  control : adaptationFieldControl packet = 1 ∨ adaptationFieldControl packet = 3
  fieldLength : adaptationFieldControl packet = 3 → adaptationFieldLength packet ≤ 182
  field : adaptationFieldControl packet = 3 → FieldShape (adaptationField packet)

namespace Packet

variable (packet : Packet)

/-- The adaptation field is a length byte and what the length counts. -/
theorem exists_field (h : packet.control = 3) :
    ∃ rest, packet.field = UInt8.ofNat (183 - packet.payload.length) :: rest ∧
      rest.length = 183 - packet.payload.length ∧ FieldShape rest := by
  obtain ⟨-, hle⟩ := packet.adaptationFieldLength_encode h
  unfold field
  cases hpcr : packet.pcr with
  | some pcr =>
      have hpcrle := packet.payload_le_of_pcr hpcr
      refine ⟨0x10 :: (pcr.encode ++ List.replicate (176 - packet.payload.length) 0xff), rfl, ?_,
        .clock pcr.encode pcr.length_encode _⟩
      simp only [List.length_append, List.length_cons, Pcr.length_encode, List.length_replicate]
      omega
  | none =>
      dsimp only
      rw [if_neg (by omega)]
      by_cases hone : packet.payload.length = 183
      · rw [if_pos hone, hone]
        exact ⟨[], rfl, rfl, .empty⟩
      · rw [if_neg hone]
        refine ⟨0x00 :: List.replicate (182 - packet.payload.length) 0xff, rfl, ?_, .stuffing _⟩
        simp only [List.length_cons, List.length_replicate]
        omega

/-- Every encoded packet is well formed. -/
theorem wellFormed_encode : WellFormed packet.encode where
  length := packet.length_encode
  syncByte := packet.syncByte_encode
  transportErrorIndicator := packet.transportErrorIndicator_encode
  scramblingControl := packet.scramblingControl_encode
  control := by
    rw [adaptationFieldControl_encode]
    exact packet.control_cases.imp And.left id
  fieldLength := by
    intro h
    rw [adaptationFieldControl_encode] at h
    have hlength := (packet.adaptationFieldLength_encode h).1
    have hpos := packet.payload_pos
    omega
  field := by
    intro h
    rw [adaptationFieldControl_encode] at h
    obtain ⟨rest, hfield, hrest, hshape⟩ := packet.exists_field h
    have hdrop : packet.encode.drop 5 = rest ++ packet.payload := by
      change packet.body.drop 1 = _
      rw [body, hfield]
      rfl
    rw [adaptationField, hdrop, (packet.adaptationFieldLength_encode h).1, ← hrest,
      List.take_left]
    exact hshape

end Packet

end SpTsMuxer.Transport
