import SpTsMuxer.Memory.Block
import SpTsMuxer.Memory.Word
import SpTsMuxer.Transport.Demux

/-!
# PES Headers as `pes.c` Writes Them

`pesHeaderSet` stores a PES header with a time stamp at a pointer into a packet.  For the flags
and the header data length that every stream of the muxer uses, the stored bytes are the PES
header of ISO 13818-1 for the stream identifier, with a `PES_packet_length` cut to sixteen bits.
-/

namespace SpTsMuxer.Pes

open Memory Transport

def streamIdAudio : UInt8 := 0xc0

def streamIdVideo : UInt8 := 0xe0

/-- `struct _PESHeaderInfo`, less the decoding time stamp that no function reads. -/
structure PESHeaderInfo where
  streamId : UInt8
  pesPacketLength : UInt32
  pesHeaderFlag : UInt16
  pesHeaderDataLength : UInt8
  pts : UInt64
  deriving DecidableEq

/-- The `pes_packet_length` a header is written with: zero for video, and otherwise the number of
payload bytes and of the header bytes that follow the field, in 32-bit arithmetic. -/
def writtenPacketLength (info : PESHeaderInfo) : UInt32 :=
  if info.streamId = streamIdVideo then 0 else info.pesPacketLength + 8

/-- The bytes `pes_header_set` stores, in the order of its stores. -/
def pesHeaderBytes (info : PESHeaderInfo) : List UInt8 :=
  let length := writtenPacketLength info
  let high := (((info.pts >>> 15) &&& 0x7ffff) <<< 1) ||| 1
  let low := ((info.pts &&& 0x7fff) <<< 1) ||| 1
  [0x00, 0x00, 0x01, info.streamId,
    ((length >>> 8) &&& 0xff).toUInt8, (length &&& 0xff).toUInt8,
    ((info.pesHeaderFlag >>> 8) &&& 0xff).toUInt8, (info.pesHeaderFlag &&& 0xff).toUInt8,
    info.pesHeaderDataLength,
    ((0x20 : UInt64) ||| (((info.pts >>> 30) &&& 0x07) <<< 1) ||| 0x01).toUInt8,
    (high >>> 8).toUInt8, high.toUInt8, (low >>> 8).toUInt8, low.toUInt8]

/-- `pes_header_set`: store the header and return the number of bytes it takes. -/
def pesHeaderSet {size : ℕ} (memory : Block UInt8 size) (pesheader : ℕ) (info : PESHeaderInfo) :
    Except Fault (Block UInt8 size × UInt32) := do
  let memory ← memory.store pesheader (pesHeaderBytes info)
  pure (memory, UInt32.ofNat (pesHeaderBytes info).length)

/-- `pes_header_length`. -/
def pesHeaderLength (_info : PESHeaderInfo) : UInt32 := 14

@[simp]
theorem length_pesHeaderBytes (info : PESHeaderInfo) : (pesHeaderBytes info).length = 14 := rfl

/-! ## The stored bytes are an ISO 13818-1 header -/

theorem high_toNat (pts : UInt64) :
    ((((pts >>> 15) &&& 0x7ffff) <<< 1) ||| 1).toNat =
      2 * (pts.toNat / 2 ^ 15 % 2 ^ 19) + 1 := by
  have hfield : ((pts >>> 15) &&& 0x7ffff).toNat = pts.toNat / 2 ^ 15 % 2 ^ 19 := by
    rw [UInt64.toNat_and, UInt64.toNat_shiftRight, Nat.shiftRight_eq_div_pow]
    exact Nat.and_two_pow_sub_one_eq_mod _ 19
  rw [shiftLeft_or_one _ (by omega), hfield]

theorem low_toNat (pts : UInt64) :
    (((pts &&& 0x7fff) <<< 1) ||| 1).toNat = 2 * (pts.toNat % 2 ^ 15) + 1 := by
  have hfield : (pts &&& 0x7fff).toNat = pts.toNat % 2 ^ 15 := by
    rw [UInt64.toNat_and]
    exact Nat.and_two_pow_sub_one_eq_mod _ 15
  rw [shiftLeft_or_one _ (by omega), hfield]

theorem first_toUInt8 (pts : UInt64) :
    ((0x20 : UInt64) ||| (((pts >>> 30) &&& 0x07) <<< 1) ||| 0x01).toUInt8 =
      UInt8.ofNat (0x21 + pts.toNat / 2 ^ 30 % 8 * 2) := by
  have hfield : ((pts >>> 30) &&& 0x07).toNat = pts.toNat / 2 ^ 30 % 8 := by
    rw [UInt64.toNat_and, UInt64.toNat_shiftRight, Nat.shiftRight_eq_div_pow]
    exact Nat.and_two_pow_sub_one_eq_mod _ 3
  have hsmall : ∀ bits : Fin 8,
      ((0x20 : UInt64) ||| ((UInt64.ofNat bits) <<< 1) ||| 0x01).toUInt8 =
        UInt8.ofNat (0x21 + bits * 2) := by
    decide
  have hbits : (pts >>> 30) &&& 0x07 = UInt64.ofNat (pts.toNat / 2 ^ 30 % 8) := by
    rw [← hfield, UInt64.ofNat_toNat]
  rw [hbits]
  exact hsmall ⟨pts.toNat / 2 ^ 30 % 8, by omega⟩

/-- The stored header is the header of the standard, for the flags `0x8080` (a time stamp and
nothing else) and the header data length 5 of every stream. -/
theorem pesHeaderBytes_eq {info : PESHeaderInfo} (hflag : info.pesHeaderFlag = 0x8080)
    (hlength : info.pesHeaderDataLength = 5) :
    pesHeaderBytes info =
      pesHeader info.streamId (writtenPacketLength info).toNat info.pts.toNat := by
  have hpts := info.pts.toNat_lt
  have hshift (word : UInt64) : (word >>> 8).toNat = word.toNat / 256 := by
    rw [UInt64.toNat_shiftRight, Nat.shiftRight_eq_div_pow]
    rfl
  have hhigh := shiftRight_toUInt8 (writtenPacketLength info) 8 (by decide)
  simp only [pesHeaderBytes, pesHeader, hflag, hlength, hhigh, toUInt8_and_ff, first_toUInt8,
    List.cons.injEq, and_true, true_and]
  refine ⟨rfl, rfl, rfl, ?_, ?_, ?_, ?_⟩ <;> apply toUInt8_of_toNat
  · rw [hshift, high_toNat]
    omega
  · rw [high_toNat]
    omega
  · rw [hshift, low_toNat]
    omega
  · rw [low_toNat]
    omega

end SpTsMuxer.Pes
