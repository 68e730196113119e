import SpTsMuxer.Crc.ErrorDetection

/-!
# Bursts and Pairs of Wrong Bits

The register is linear in the message, so that two messages of one length have the same checksum
exactly if their difference, fed to a register of zero, leaves zero.  Zero bits at both ends of the
difference do not matter.

A first wrong bit leaves the polynomial in the register.  Each further bit moves the lowest set
bit by at most one place, or sets the last bit anew, so that 31 further bits cannot clear the
register.  A second wrong bit behind a gap clears it in one state only, which a search over the
gaps can exclude.
-/

namespace SpTsMuxer.Crc

/-! ## The difference of two messages -/

/-- What a pattern of wrong bits leaves in the register. -/
def residue (polynomial : BitVec 32) (errors : List Bool) : BitVec 32 :=
  errors.foldl (feedBit polynomial) 0

theorem foldl_feedBit_xor (polynomial : BitVec 32) {first second : List Bool}
    (hlength : first.length = second.length) (left right : BitVec 32) :
    (List.zipWith (fun bit other ↦ bit ^^ other) first second).foldl (feedBit polynomial)
        (left ^^^ right) =
      first.foldl (feedBit polynomial) left ^^^ second.foldl (feedBit polynomial) right := by
  induction first generalizing second left right with
  | nil =>
      obtain rfl := List.eq_nil_of_length_eq_zero hlength.symm
      rfl
  | cons bit first ih =>
      cases second with
      | nil => cases hlength
      | cons other second =>
          rw [List.zipWith_cons_cons, List.foldl_cons, feedBit_xor, ih (Nat.succ.inj hlength)]
          rfl

/-- Two messages have one checksum exactly if their difference leaves nothing. -/
theorem foldl_feedBit_eq_iff (polynomial initial : BitVec 32) {first second : List Bool}
    (hlength : first.length = second.length) :
    first.foldl (feedBit polynomial) initial = second.foldl (feedBit polynomial) initial ↔
      residue polynomial (List.zipWith (fun bit other ↦ bit ^^ other) first second) = 0 := by
  have hxor := foldl_feedBit_xor polynomial hlength initial initial
  rw [BitVec.xor_self] at hxor
  have hresidue : residue polynomial
      (List.zipWith (fun bit other ↦ bit ^^ other) first second) =
        first.foldl (feedBit polynomial) initial ^^^ second.foldl (feedBit polynomial) initial :=
    hxor
  rw [hresidue]
  exact BitVec.xor_eq_zero_iff.symm

/-! ## Zero bits at both ends -/

theorem feedBit_zero_false (polynomial : BitVec 32) : feedBit polynomial 0 false = 0 := by
  rw [feedBit, if_neg (by decide)]
  decide

theorem foldl_feedBit_zeros (polynomial : BitVec 32) (count : ℕ) :
    (List.replicate count false).foldl (feedBit polynomial) 0 = 0 := by
  induction count with
  | zero => rfl
  | succ count ih => rw [List.replicate_succ, List.foldl_cons, feedBit_zero_false, ih]

/-- Only the bits from the first to the last wrong one count. -/
theorem residue_padded_eq_zero_iff {polynomial : BitVec 32}
    (hodd : polynomial.getLsbD 0 = true) (before after : ℕ) (errors : List Bool) :
    residue polynomial (List.replicate before false ++ errors ++ List.replicate after false) = 0 ↔
      residue polynomial errors = 0 := by
  have hinjective := foldl_injective (feedBit_injective hodd) (List.replicate after false)
  have hpadded : residue polynomial
      (List.replicate before false ++ errors ++ List.replicate after false) =
        (List.replicate after false).foldl (feedBit polynomial) (residue polynomial errors) := by
    rw [residue, List.foldl_append, List.foldl_append, foldl_feedBit_zeros, residue]
  rw [hpadded]
  constructor
  · intro hzero
    exact hinjective (hzero.trans (foldl_feedBit_zeros polynomial after).symm)
  · intro hzero
    rw [hzero, foldl_feedBit_zeros]

/-! ## Bursts -/

/-- All wrong bits are within 32 bits, and there is one. -/
def IsBurst (errors : List Bool) : Prop :=
  ∃ before inner after, inner.length < 32 ∧
    errors = List.replicate before false ++ (true :: inner) ++ List.replicate after false

/-- One of the lowest bits is set. -/
def LowBit (register : BitVec 32) (count : ℕ) : Prop :=
  ∃ position < count, register.getLsbD position = true

section Odd

variable {polynomial : BitVec 32} (hodd : polynomial.getLsbD 0 = true)
include hodd

theorem LowBit.feedBit {register : BitVec 32} {count : ℕ} (h : LowBit register count)
    (hcount : count < 32) (bit : Bool) : LowBit (feedBit polynomial register bit) (count + 1) := by
  obtain ⟨position, hposition, hset⟩ := h
  unfold Crc.feedBit
  split_ifs
  · refine ⟨0, Nat.succ_pos count, ?_⟩
    rw [BitVec.getLsbD_xor, BitVec.getLsbD_shiftLeft, hodd]
    rfl
  · refine ⟨position + 1, Nat.succ_lt_succ hposition, ?_⟩
    rw [BitVec.getLsbD_shiftLeft, Nat.add_sub_cancel, hset]
    simp only [decide_eq_true (show position + 1 < 32 by omega)]
    simp

theorem lowBit_foldl {register : BitVec 32} {count : ℕ} (h : LowBit register count)
    {bits : List Bool} (hcount : count + bits.length ≤ 32) :
    LowBit (bits.foldl (feedBit polynomial) register) (count + bits.length) := by
  induction bits generalizing register count with
  | nil => exact h
  | cons bit rest ih =>
      rw [List.length_cons] at hcount
      have hnext := h.feedBit hodd (show count < 32 by omega) bit
      have htail := ih hnext (by omega)
      rw [List.length_cons, show count + (rest.length + 1) = count + 1 + rest.length by omega]
      exact htail

/-- No burst is missed. -/
theorem residue_ne_zero_of_isBurst {errors : List Bool} (h : IsBurst errors) :
    residue polynomial errors ≠ 0 := by
  obtain ⟨before, inner, after, hinner, rfl⟩ := h
  rw [Ne, residue_padded_eq_zero_iff hodd, residue, List.foldl_cons]
  have hfirst : LowBit (feedBit polynomial 0 true) 1 := by
    refine ⟨0, Nat.one_pos, ?_⟩
    rw [feedBit, if_pos (by decide), BitVec.getLsbD_xor, hodd]
    decide
  intro hzero
  obtain ⟨position, -, hset⟩ := lowBit_foldl hodd hfirst (show 1 + inner.length ≤ 32 by omega)
  have hclear : (0 : BitVec 32).getLsbD position = false := BitVec.getLsbD_zero
  rw [hzero, hclear] at hset
  cases hset

/-! ## Pairs -/

theorem eq_top_of_feedBit_true {register : BitVec 32} (h : feedBit polynomial register true = 0) :
    register = 0x80000000#32 := by
  have hback : feedBit polynomial 0x80000000#32 true = 0 := by
    rw [feedBit, if_neg (by decide)]
    decide
  exact feedBit_injective hodd true (h.trans hback.symm)

end Odd

/-- Two wrong bits with fewer than `limit` bits between them. -/
def IsPair (limit : ℕ) (errors : List Bool) : Prop :=
  ∃ before gap after, gap < limit ∧
    errors = List.replicate before false ++ (true :: (List.replicate gap false ++ [true])) ++
      List.replicate after false

/-- The register is not cleared by a second bit behind any of the next gaps. -/
def clearsNone (polynomial : BitVec 32) : ℕ → BitVec 32 → Bool
  | 0, _ => true
  | count + 1, register =>
      register != 0x80000000#32 && clearsNone polynomial count (feedBit polynomial register false)

theorem ne_top_of_clearsNone {polynomial register : BitVec 32} {count gap : ℕ}
    (h : clearsNone polynomial count register = true) (hgap : gap < count) :
    (List.replicate gap false).foldl (feedBit polynomial) register ≠ 0x80000000#32 := by
  induction count generalizing register gap with
  | zero => exact absurd hgap (Nat.not_lt_zero gap)
  | succ count ih =>
      rw [clearsNone, Bool.and_eq_true, bne_iff_ne] at h
      cases gap with
      | zero => exact h.1
      | succ gap =>
          have hnext := ih h.2 (Nat.lt_of_succ_lt_succ hgap)
          exact hnext

/-- No pair is missed within the gaps that have been searched. -/
theorem residue_ne_zero_of_isPair {polynomial : BitVec 32}
    (hodd : polynomial.getLsbD 0 = true) {limit : ℕ}
    (hsearch : clearsNone polynomial limit polynomial = true) {errors : List Bool}
    (h : IsPair limit errors) : residue polynomial errors ≠ 0 := by
  obtain ⟨before, gap, after, hgap, rfl⟩ := h
  have hfirst : feedBit polynomial 0 true = polynomial := by
    rw [feedBit, if_pos (by decide)]
    exact BitVec.zero_xor
  rw [Ne, residue_padded_eq_zero_iff hodd, residue, List.foldl_cons, hfirst, List.foldl_append]
  intro hzero
  exact ne_top_of_clearsNone hsearch hgap (eq_top_of_feedBit_true hodd hzero)

end SpTsMuxer.Crc
