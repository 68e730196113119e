import Mathlib.Algebra.Order.Ring.Nat
import Mathlib.Tactic.Common

/-!
# Spans that Follow One Another

A list of spans tiles the cells from `first` to `last` if each span begins where the one before it
ends.  Then no span goes past `last`, and their sizes add up.
-/

namespace SpTsMuxer.Memory

/-- `count` cells from `start` on. -/
structure Span where
  start : ℕ
  count : ℕ
  deriving DecidableEq, Repr

/-- The spans follow one another without a gap, from a first cell up to `last`. -/
inductive Tiles (last : ℕ) : ℕ → List Span → Prop where
  | done : Tiles last last []
  | step {first : ℕ} {span : Span} {rest : List Span} (start : span.start = first)
      (tail : Tiles last (first + span.count) rest) : Tiles last first (span :: rest)

namespace Tiles

variable {last first : ℕ} {spans : List Span}

theorem sum_count (h : Tiles last first spans) : first + (spans.map Span.count).sum = last := by
  induction h with
  | done => rfl
  | step start tail ih => rw [List.map_cons, List.sum_cons, ← Nat.add_assoc, ih]

theorem first_le (h : Tiles last first spans) : first ≤ last := by
  have hsum := h.sum_count
  omega

theorem within (h : Tiles last first spans) :
    ∀ span ∈ spans, first ≤ span.start ∧ span.start + span.count ≤ last := by
  induction h with
  | done => simp
  | step start tail ih =>
      intro span hmem
      rcases List.mem_cons.mp hmem with rfl | htail
      · exact ⟨Nat.le_of_eq start.symm, start ▸ tail.first_le⟩
      · obtain ⟨hstart, hstop⟩ := ih span htail
        exact ⟨by omega, hstop⟩

end Tiles

end SpTsMuxer.Memory
