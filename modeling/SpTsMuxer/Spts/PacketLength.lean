import SpTsMuxer.Spts.Observation
import SpTsMuxer.Transport.Delimit

/-!
# The Length Field of a Frame

The PES header of an audio frame gives its length in 16 bits, while the packet loop goes by the
full size of the buffer.  The two agree up to 65527 bytes.  From 65528 bytes on the field is cut,
and a receiver that goes by it loses the end of the frame.
-/

namespace SpTsMuxer.Spts

open Memory Transport Pes Machine

/-- The payloads of the packets of a frame, one after the other. -/
def payloads (packets : List (List UInt8)) : List UInt8 := packets.flatMap Transport.payload

theorem payloads_unit (stream : ElementaryStream) (counter pts : ℕ) (data : List UInt8) :
    payloads ((stream.unit counter pts data).map Packet.encode) =
      stream.lead data ++ (pesHeader stream.streamId (stream.packetLength data) pts ++ data) := by
  rw [← stream.flatMap_payload_unit counter, payloads, List.flatMap_map]
  simp only [Packet.payload_encode]

section AudioFrame

variable {stream : ElementaryStream} (hstream : stream.streamId = streamIdAudio)
  (counter pts : ℕ) (data : List UInt8)
include hstream

theorem packetLength_audio : stream.packetLength data = data.length + 8 := by
  rw [ElementaryStream.packetLength, hstream]
  exact if_neg (by decide)

/-- The field of an audio frame is true as long as the frame is short. -/
theorem lengthTrue_unit_iff :
    LengthTrue (fromStartCode (payloads ((stream.unit counter pts data).map Packet.encode))) ↔
      data.length ≤ 65527 := by
  have hskip : fromStartCode (payloads ((stream.unit counter pts data).map Packet.encode)) =
      pesHeader stream.streamId (data.length + 8) pts ++ data := by
    rw [payloads_unit, packetLength_audio hstream, ElementaryStream.lead]
    split_ifs
    · exact fromStartCode_zero_pesHeader _ _ _ _
    · exact fromStartCode_pesHeader _ _ _ _
  rw [hskip]
  exact lengthTrue_pesHeader_iff _ _ _ (by rw [hstream]; rfl)

theorem delimited_unit_iff :
    delimited streamIdAudio (payloads ((stream.unit counter pts data).map Packet.encode)) =
        some ⟨some (pts % 2 ^ 33), data⟩ ↔
      data.length ≤ 65527 ∧ (stream.pcr = true ∨ data.length ≠ 169) := by
  rw [payloads_unit, packetLength_audio hstream, ElementaryStream.lead, ← hstream]
  split_ifs with hstray
  · rw [List.singleton_append, delimited_zero_pesHeader, hstray.1, hstray.2]
    simp
  · rw [List.nil_append, delimited_pesHeader_iff]
    refine ⟨fun hshort ↦ ⟨hshort, ?_⟩, fun h ↦ h.1⟩
    rw [not_and_or, Bool.not_eq_false] at hstray
    exact hstray

end AudioFrame

/-- The length field of an audio frame is true exactly up to 65527 bytes, in every run. Then a
receiver that goes by it sees the frame whole, unless a stray byte hides the header: that is the
case for a frame of 169 bytes on a stream without clock reference. -/
theorem packetLength_true_iff (gst : UInt64Scale) (results : List TsPacket → Bool) (setup : Setup)
    (videoPcr audioPcr : Bool) {before : List GstBuffer} {buffer : GstBuffer}
    {prior packets : List TsPacket}
    (hprior : writtenPackets gst results setup videoPcr audioPcr before = .ok prior)
    (hok : writtenPackets gst results setup videoPcr audioPcr (before ++ [buffer]) =
      .ok (prior ++ packets))
    (haudio : buffer.caps = .audioMpeg) (hwritten : packets ≠ []) :
    let frame := payloads (elementary audioPid.toNat packets)
    (LengthTrue (fromStartCode frame) ↔ buffer.data.length ≤ 65527) ∧
      (LengthTrue (fromStartCode frame) ∧
          delimited streamIdAudio frame = some buffer.accessUnit ↔
        buffer.data.length ≤ 65527 ∧ (audioPcr = true ∨ buffer.data.length ≠ 169)) := by
  intro frame
  obtain ⟨program, hcarries⟩ := setup.exists_carriesOut videoPcr audioPcr
  have hvideo : ¬buffer.isVideo = true := by simp [GstBuffer.isVideo, haudio]
  have hstream : (ElementaryStream.aac audioPcr).streamId = streamIdAudio := rfl
  rcases elementary_of_call hcarries hprior hok with ⟨-, hnone⟩ | ⟨counter, hunit⟩
  · exact absurd hnone hwritten
  rw [GstBuffer.streamPid, streamPid, if_neg hvideo, Program.streamOf, if_neg hvideo,
    hcarries.audio] at hunit
  have hlength := lengthTrue_unit_iff hstream counter (buffer.frame gst).pts buffer.data
  have hwhole := delimited_unit_iff hstream counter (buffer.frame gst).pts buffer.data
  rw [← hunit] at hlength hwhole
  have hunitOf : (⟨some ((buffer.frame gst).pts % 2 ^ 33), buffer.data⟩ : AccessUnit) =
      buffer.accessUnit := buffer.accessUnit_frame gst
  rw [hunitOf] at hwhole
  refine ⟨hlength, ?_⟩
  rw [show LengthTrue (fromStartCode frame) ↔ _ from hlength,
    show delimited streamIdAudio frame = _ ↔ _ from hwhole, ← and_assoc, and_self]
  rfl

theorem exists_audioFrame_written (count : ℕ) (hcount : count < 2 ^ 32 - 22) :
    ∃ prior packets,
      writtenPackets gstUtilUint64Scale (fun _ ↦ true) plainSetup true false [emptyIdr] =
          .ok prior ∧
        writtenPackets gstUtilUint64Scale (fun _ ↦ true) plainSetup true false
            ([emptyIdr] ++ [filledFrame .audioMpeg count (by omega)]) = .ok (prior ++ packets) ∧
        packets ≠ [] := by
  obtain ⟨program, hcarries⟩ := plainSetup.exists_carriesOut true false
  let audio := filledFrame .audioMpeg count (by omega)
  let state := stateAfter gstUtilUint64Scale program [emptyIdr]
  have hcaps : ∀ buffer ∈ [emptyIdr] ++ [audio], buffer.caps ≠ .other := by
    rw [List.singleton_append, List.forall_mem_cons, List.forall_mem_singleton]
    exact ⟨by decide, by simp [audio, filledFrame]⟩
  have hsize : ∀ buffer ∈ [emptyIdr] ++ [audio], buffer.data.length < 2 ^ 32 - 22 := by
    rw [List.singleton_append, List.forall_mem_cons, List.forall_mem_singleton]
    exact ⟨by decide, by simpa [audio, filledFrame] using hcount⟩
  have hboth := hcarries.written_of_length gstUtilUint64Scale (fun _ ↦ true) hcaps hsize
  have hprior := hcarries.written_prefix hboth
  rw [outputsOf_concat, List.map_append] at hboth
  refine ⟨_, _, hprior, hboth, ?_⟩
  have hnone : NoneDropped program .initial
      [emptyIdr.frame gstUtilUint64Scale, audio.frame gstUtilUint64Scale] :=
    noneDropped_pair program rfl (by decide)
  have hadmitted : state.packets % 2 ^ 64 ≠ 0 :=
    hnone [emptyIdr.frame gstUtilUint64Scale] (audio.frame gstUtilUint64Scale) [] rfl rfl
  rw [muxStep_audio program state rfl hadmitted, Ne, List.map_eq_nil_iff]
  exact program.audio.unit_ne_nil _ _ _

/-- The field of a frame of one byte is true. -/
theorem packetLength_true_one_byte :
    ∃ prior packets,
      writtenPackets gstUtilUint64Scale (fun _ ↦ true) plainSetup true false
          ([emptyIdr] ++ [filledFrame .audioMpeg 1 (by decide)]) = .ok (prior ++ packets) ∧
        LengthTrue (fromStartCode (payloads (elementary audioPid.toNat packets))) := by
  obtain ⟨prior, packets, hprior, hok, hwritten⟩ := exists_audioFrame_written 1 (by decide)
  have hlength := (packetLength_true_iff gstUtilUint64Scale (fun _ ↦ true) plainSetup true false
    hprior hok rfl hwritten).1
  exact ⟨prior, packets, hok, hlength.mpr (by decide)⟩

/-- The field of a frame of 65528 bytes is not true: it is cut to zero, on an audio stream. -/
theorem not_packetLength_true_long :
    ∃ prior packets,
      writtenPackets gstUtilUint64Scale (fun _ ↦ true) plainSetup true false
          ([emptyIdr] ++ [filledFrame .audioMpeg 65528 (by decide)]) = .ok (prior ++ packets) ∧
        packets ≠ [] ∧
        ¬LengthTrue (fromStartCode (payloads (elementary audioPid.toNat packets))) := by
  obtain ⟨prior, packets, hprior, hok, hwritten⟩ := exists_audioFrame_written 65528 (by decide)
  obtain ⟨program, hcarries⟩ := plainSetup.exists_carriesOut true false
  rcases elementary_of_call hcarries hprior hok with ⟨-, hnone⟩ | ⟨counter, hunit⟩
  · exact absurd hnone hwritten
  refine ⟨prior, packets, hok, hwritten, fun hlength ↦ ?_⟩
  have hstream :
      (program.streamOf (filledFrame .audioMpeg 65528 (by decide))).streamId = streamIdAudio := by
    rw [Program.streamOf, if_neg (by decide), hcarries.audio]
    rfl
  rw [show elementary audioPid.toNat packets = _ from hunit, lengthTrue_unit_iff hstream] at hlength
  change (List.replicate 65528 (0x01 : UInt8)).length ≤ 65527 at hlength
  rw [List.length_replicate] at hlength
  exact absurd hlength (by decide)

end SpTsMuxer.Spts
