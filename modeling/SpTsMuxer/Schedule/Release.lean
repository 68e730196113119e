import Mathlib.Algebra.BigOperators.Intervals
import Mathlib.Algebra.Order.Group.Finset
import Mathlib.Algebra.Order.Ring.Nat
import Mathlib.Order.Interval.Finset.Nat
import Mathlib.Order.Lattice.Nat

/-!
# Jobs with Release Times

Jobs are done one after the other, in a fixed order.  A job starts when the one before it is done,
but not before its release.  The start of a job is then the largest, over all jobs up to it, of the
release of that job and all the work from there on: a job is late because of the last one that
started at its release.  When the work of each job fits between two releases, every job starts at
its release.
-/

namespace SpTsMuxer.Schedule

open scoped BigOperators

variable {α : Type} [AddCommMonoid α] [LinearOrder α]

/-- When each job starts. -/
def start (release duration : ℕ → α) : ℕ → α
  | 0 => release 0
  | job + 1 => max (start release duration job + duration job) (release (job + 1))

section Closed

variable [CanonicallyOrderedAdd α] [Sub α] [AddLeftReflectLE α] [OrderedSub α] [OrderBot α]

/-- The start of a job in closed form, as a maximum over the jobs up to it. -/
theorem start_eq_sup (release duration : ℕ → α) (job : ℕ) :
    start release duration job = (Finset.range (job + 1)).sup fun earlier ↦
      release earlier + ∑ between ∈ Finset.Ico earlier job, duration between := by
  induction job with
  | zero => simp [start]
  | succ job ih =>
      have hwork (earlier : ℕ) (hmem : earlier ∈ Finset.range (job + 1)) :
          release earlier + ∑ between ∈ Finset.Ico earlier (job + 1), duration between =
            release earlier + ∑ between ∈ Finset.Ico earlier job, duration between +
              duration job := by
        rw [Finset.sum_Ico_succ_top (Nat.lt_succ_iff.mp (Finset.mem_range.mp hmem)), add_assoc]
      calc
        _ = max (start release duration job + duration job) (release (job + 1)) := rfl
        _ = max ((Finset.range (job + 1)).sup fun earlier ↦
              release earlier + ∑ between ∈ Finset.Ico earlier job, duration between +
                duration job) (release (job + 1)) := by
          rw [ih, Finset.sup_add Finset.nonempty_range_add_one]
        _ = max (release (job + 1)) ((Finset.range (job + 1)).sup fun earlier ↦
              release earlier +
                ∑ between ∈ Finset.Ico earlier (job + 1), duration between) := by
          rw [max_comm, Finset.sup_congr rfl hwork]
        _ = _ := by
          rw [Finset.range_add_one (n := job + 1), Finset.sup_insert, Finset.Ico_self,
            Finset.sum_empty, add_zero]

theorem start_eq_max_sup (release duration : ℕ → α) (job : ℕ) :
    start release duration job =
      max (release 0 + ∑ between ∈ Finset.range job, duration between)
        ((Finset.Icc 1 job).sup fun earlier ↦
          release earlier + ∑ between ∈ Finset.Ico earlier job, duration between) := by
  have hrange : Finset.range (job + 1) = insert 0 (Finset.Icc 1 job) := by
    ext index
    simp only [Finset.mem_range, Finset.mem_insert, Finset.mem_Icc]
    omega
  rw [start_eq_sup, hrange, Finset.sup_insert, Finset.range_eq_Ico]

end Closed

/-- Jobs that fit between two releases are punctual. -/
theorem start_eq_release {release duration : ℕ → α} {job : ℕ}
    (hfits : ∀ earlier < job, release earlier + duration earlier ≤ release (earlier + 1)) :
    start release duration job = release job := by
  induction job with
  | zero => rfl
  | succ job ih =>
      rw [start, ih fun earlier hlt ↦ hfits earlier (Nat.lt_succ_of_lt hlt)]
      exact max_eq_right (hfits job (Nat.lt_succ_self job))

/-- All jobs start at their releases exactly if the work of each but the last fits between two
releases. -/
theorem forall_start_eq_release_iff {release duration : ℕ → α} {jobs : ℕ} :
    (∀ job < jobs, start release duration job = release job) ↔
      ∀ job, job + 1 < jobs → release job + duration job ≤ release (job + 1) := by
  constructor
  · intro h job hjob
    have hnext := h (job + 1) hjob
    rw [start, h job (Nat.lt_of_succ_lt hjob)] at hnext
    exact max_eq_right_iff.mp hnext
  · intro h job hjob
    refine start_eq_release fun earlier hearlier ↦ h earlier ?_
    omega

end SpTsMuxer.Schedule
