import Mathlib.Algebra.Order.Ring.Nat
import Mathlib.Tactic.Common
import SpTsMuxer.Schedule.Cut

/-!
# The Largest Amount between Two Marks

Inputs come one after the other, and some of them are marks.  `total` tells how much there has been
after some inputs.  An interval ends in front of a mark and begins at the mark before it, or at the
start.  The total at the last mark and the largest amount of an interval can be kept up to date
by looking at the marks alone.
-/

namespace SpTsMuxer.Schedule

variable {Input : Type} (mark : Input → Bool)

/-- The inputs of `middle`, which come after `before`, begin at the start or at a mark, and there
is no other mark among them. -/
def Unbroken (before middle : List Input) : Prop :=
  (before = [] ∧ ∀ input ∈ middle, mark input = false) ∨
    ∃ first rest, middle = first :: rest ∧ mark first = true ∧ ∀ input ∈ rest, mark input = false

/-- The inputs of `middle` are an interval of `inputs`: the next one is a mark. -/
structure Interval (inputs before middle : List Input) : Prop where
  unbroken : Unbroken mark before middle
  next_mark : ∃ next after, inputs = before ++ middle ++ next :: after ∧ mark next = true

/-- The total at the last mark, and the largest amount of an interval; both are zero as long as
there is no mark. -/
structure IsPeak (total : List Input → ℕ) (inputs : List Input) (last most : ℕ) : Prop where
  current : ∃ before middle, inputs = before ++ middle ∧ Unbroken mark before middle ∧
    total before = last
  bound : ∀ before middle, Interval mark inputs before middle →
    total (before ++ middle) - total before ≤ most
  attained : most = 0 ∨ ∃ before middle, Interval mark inputs before middle ∧
    total (before ++ middle) - total before = most

variable {mark}

section Intervals

variable {inputs before middle other rest : List Input} {input : Input}

theorem Unbroken.snoc (h : Unbroken mark before middle) (hinput : mark input = false) :
    Unbroken mark before (middle ++ [input]) := by
  have hforall {list : List Input} (hlist : ∀ other ∈ list, mark other = false) :
      ∀ other ∈ list ++ [input], mark other = false := by
    rw [List.forall_mem_append, List.forall_mem_singleton]
    exact ⟨hlist, hinput⟩
  rcases h with ⟨hstart, hmiddle⟩ | ⟨first, tail, rfl, hfirst, htail⟩
  · exact .inl ⟨hstart, hforall hmiddle⟩
  · exact .inr ⟨first, tail ++ [input], rfl, hfirst, hforall htail⟩

theorem Unbroken.before_eq (h : Unbroken mark before middle) (hother : Unbroken mark other rest)
    (hsame : before ++ middle = other ++ rest) : before = other := by
  -- A mark inside the other stretch would have to be its first input.
  have hnone {front back list tail : List Input} {first : Input} (hfirst : mark first = true)
      (hlist : ∀ input ∈ list, mark input = false) (hsplit : list = front ++ first :: tail) :
      back = [] := by
    have hmem : first ∈ list := by rw [hsplit]; simp
    rw [hlist first hmem] at hfirst
    cases hfirst
  rcases h with ⟨rfl, hmiddle⟩ | ⟨first, tail, rfl, hfirst, htail⟩
  · rcases hother with ⟨rfl, -⟩ | ⟨head, back, rfl, hhead, -⟩
    · rfl
    · exact (hnone hhead hmiddle hsame).symm
  · rcases hother with ⟨rfl, hrest⟩ | ⟨head, back, rfl, hhead, hback⟩
    · exact hnone hfirst hrest hsame.symm
    · rcases List.append_eq_append_iff.mp hsame with ⟨gap, rfl, hgap⟩ | ⟨gap, rfl, hgap⟩
      · cases gap with
        | nil => rw [List.append_nil]
        | cons step gap =>
            obtain ⟨rfl, htailEq⟩ := List.cons.inj hgap
            have hempty : first :: gap = [] := hnone hhead htail htailEq
            cases hempty
      · cases gap with
        | nil => rw [List.append_nil]
        | cons step gap =>
            obtain ⟨rfl, hbackEq⟩ := List.cons.inj hgap
            have hempty : head :: gap = [] := hnone hfirst hback hbackEq
            cases hempty

/-- One more input: the intervals stay, and if it is a mark it closes the current stretch. -/
theorem interval_snoc_iff :
    Interval mark (inputs ++ [input]) before middle ↔
      Interval mark inputs before middle ∨
        (mark input = true ∧ inputs = before ++ middle ∧ Unbroken mark before middle) := by
  constructor
  · rintro ⟨hunbroken, next, after, hsplit, hnext⟩
    rcases List.eq_nil_or_concat after with rfl | ⟨after, final, rfl⟩
    · obtain ⟨rfl, hlast⟩ := List.append_inj' hsplit rfl
      obtain rfl := List.singleton_inj.mp hlast
      exact .inr ⟨hnext, rfl, hunbroken⟩
    · rw [List.concat_eq_append, ← List.cons_append, ← List.append_assoc] at hsplit
      exact .inl ⟨hunbroken, next, after, (List.append_inj' hsplit rfl).1, hnext⟩
  · rintro (⟨hunbroken, next, after, rfl, hnext⟩ | ⟨hinput, rfl, hunbroken⟩)
    · exact ⟨hunbroken, next, after ++ [input], by simp, hnext⟩
    · exact ⟨hunbroken, input, [], rfl, hinput⟩

/-- A group is an interval if there is another one behind it. -/
theorem exists_interval_of_group {group : List Input} {number : ℕ}
    (hgroup : (cutAt mark inputs).2[number]? = some group)
    (hnext : number + 1 < (cutAt mark inputs).2.length) :
    ∃ first rest before, group = first :: rest ∧ mark first = true ∧
      Interval mark inputs before group := by
  obtain ⟨first, rest, before, rfl, hfirst, hrest, hsplit⟩ := exists_of_group hgroup
  obtain ⟨next, more, -, hcons, hmark, -, -⟩ := exists_of_group (List.getElem?_eq_getElem hnext)
  have hunbroken : Unbroken mark before (first :: rest) := by
    refine .inr ⟨first, rest, rfl, hfirst, fun item hmem ↦ ?_⟩
    exact Bool.eq_false_iff.mpr (hrest item hmem)
  rw [List.drop_eq_getElem_cons hnext, List.flatten_cons, hcons] at hsplit
  exact ⟨first, rest, before, rfl, hfirst, hunbroken, next, _, hsplit, hmark⟩

end Intervals

section Peak

variable {total : List Input → ℕ} {inputs : List Input} {input : Input} {last most : ℕ}

theorem isPeak_nil (htotal : total [] = 0) : IsPeak mark total [] 0 0 where
  current := ⟨[], [], rfl, .inl ⟨rfl, by simp⟩, htotal⟩
  bound before middle h := by
    obtain ⟨next, after, hsplit, -⟩ := h.next_mark
    simp at hsplit
  attained := .inl rfl

theorem IsPeak.congr {other : List Input → ℕ} (h : IsPeak mark total inputs last most)
    (hsame : ∀ before after, inputs = before ++ after → other before = total before) :
    IsPeak mark other inputs last most := by
  have hinterval {before middle : List Input} (hinterval : Interval mark inputs before middle) :
      other (before ++ middle) - other before = total (before ++ middle) - total before := by
    obtain ⟨next, after, hsplit, -⟩ := hinterval.next_mark
    rw [hsame (before ++ middle) _ hsplit, hsame before _ (hsplit.trans (List.append_assoc _ _ _))]
  obtain ⟨before, middle, hinputs, hunbroken, hlast⟩ := h.current
  refine ⟨⟨before, middle, hinputs, hunbroken, (hsame before middle hinputs).trans hlast⟩, ?_, ?_⟩
  · intro first second hfirst
    rw [hinterval hfirst]
    exact h.bound first second hfirst
  · refine h.attained.imp_right ?_
    rintro ⟨first, second, hfirst, hmost⟩
    exact ⟨first, second, hfirst, (hinterval hfirst).trans hmost⟩

theorem IsPeak.last_le (h : IsPeak mark total inputs last most)
    (hmono : ∀ before after, total before ≤ total (before ++ after)) : last ≤ total inputs := by
  obtain ⟨before, middle, rfl, -, rfl⟩ := h.current
  exact hmono before middle

theorem IsPeak.most_le {bound : ℕ} (h : IsPeak mark total inputs last most)
    (hbound : ∀ before next after, inputs = before ++ next :: after → mark next = true →
      total before ≤ bound) : most ≤ bound := by
  rcases h.attained with hzero | ⟨before, middle, hinterval, hmost⟩
  · exact hzero.trans_le (Nat.zero_le _)
  · obtain ⟨next, after, hsplit, hnext⟩ := hinterval.next_mark
    calc
      most = total (before ++ middle) - total before := hmost.symm
      _ ≤ total (before ++ middle) := Nat.sub_le _ _
      _ ≤ bound := hbound _ next after hsplit hnext

theorem IsPeak.snoc_other (h : IsPeak mark total inputs last most) (hinput : mark input = false) :
    IsPeak mark total (inputs ++ [input]) last most := by
  have hsame (before middle : List Input) :
      Interval mark (inputs ++ [input]) before middle ↔ Interval mark inputs before middle := by
    rw [interval_snoc_iff, hinput]
    simp
  obtain ⟨before, middle, rfl, hunbroken, hlast⟩ := h.current
  refine ⟨⟨before, middle ++ [input], by simp, hunbroken.snoc hinput, hlast⟩, ?_, ?_⟩
  · intro first second hinterval
    exact h.bound first second ((hsame first second).mp hinterval)
  · refine h.attained.imp_right ?_
    rintro ⟨first, second, hinterval, hmost⟩
    exact ⟨first, second, (hsame first second).mpr hinterval, hmost⟩

/-- A mark closes the current stretch, whose amount is compared with the largest so far. -/
theorem IsPeak.snoc_mark (h : IsPeak mark total inputs last most) (hinput : mark input = true) :
    IsPeak mark total (inputs ++ [input]) (total inputs) (max most (total inputs - last)) := by
  obtain ⟨before, middle, hinputs, hunbroken, hlast⟩ := h.current
  have hclosed : Interval mark (inputs ++ [input]) before middle :=
    interval_snoc_iff.mpr (.inr ⟨hinput, hinputs, hunbroken⟩)
  have hamount : total (before ++ middle) - total before = total inputs - last := by
    rw [← hinputs, hlast]
  refine ⟨⟨inputs, [input], rfl, .inr ⟨input, [], rfl, hinput, by simp⟩, rfl⟩, ?_, ?_⟩
  · intro first second hinterval
    rcases interval_snoc_iff.mp hinterval with hold | ⟨-, hsplit, hother⟩
    · exact (h.bound first second hold).trans (Nat.le_max_left _ _)
    · obtain rfl := hunbroken.before_eq hother (hinputs.symm.trans hsplit)
      rw [← hsplit, hlast]
      exact Nat.le_max_right _ _
  · rcases Nat.le_total most (total inputs - last) with hle | hle
    · exact .inr ⟨before, middle, hclosed, by rw [hamount, Nat.max_eq_right hle]⟩
    · rw [Nat.max_eq_left hle]
      refine h.attained.imp_right ?_
      rintro ⟨first, second, hinterval, hmost⟩
      exact ⟨first, second, interval_snoc_iff.mpr (.inl hinterval), hmost⟩

end Peak

end SpTsMuxer.Schedule
