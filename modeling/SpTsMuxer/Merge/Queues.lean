import Mathlib.Algebra.Order.Ring.Nat
import Mathlib.Tactic.Common

/-!
# Merging Queues by the Least Head

A choice function looks at the heads of finitely many queues and names one of them.  Taking the
chosen head again and again merges the queues.  Whatever is chosen, every element comes out at most
once and in the order of its queue.  If the choice is always a least head, everything comes out in
the end, and queues that are sorted give a sorted result.
-/

namespace SpTsMuxer.Merge

variable {α β : Type}

/-! ## Heads -/

/-- The first element of a queue, if there is one. -/
def headAt (queues : List (List α)) (index : ℕ) : Option α := queues[index]?.bind List.head?

/-- Take the first element of a queue. -/
def pop (queues : List (List α)) (index : ℕ) : Option (α × List (List α)) :=
  match queues[index]? with
  | some (element :: tail) => some (element, queues.set index tail)
  | _ => none

/-- A least head, and the first of all least heads. -/
structure IsLeastHead [LinearOrder β] (key : α → β) (queues : List (List α)) (index : ℕ)
    (element : α) : Prop where
  head : headAt queues index = some element
  least : ∀ other another, headAt queues other = some another → key element ≤ key another
  first : ∀ other another, headAt queues other = some another → other < index →
    key element < key another

theorem headAt_append (before queues : List (List α)) (index : ℕ) :
    headAt (before ++ queues) (before.length + index) = headAt queues index := by
  rw [headAt, headAt, List.getElem?_append_right (Nat.le_add_right _ _), Nat.add_sub_cancel_left]

theorem headAt_of_empty {queues : List (List α)} (hempty : ∀ queue ∈ queues, queue = [])
    (index : ℕ) : headAt queues index = none := by
  rw [headAt, Option.bind_eq_none_iff]
  intro queue hqueue
  rw [hempty queue (List.mem_of_getElem? hqueue)]
  rfl

theorem headAt_concat (queues : List (List α)) (queue : List α) (index : ℕ) :
    headAt (queues ++ [queue]) index =
      if index < queues.length then headAt queues index
      else if index = queues.length then queue.head? else none := by
  unfold headAt
  split_ifs with hlt hlast
  · rw [List.getElem?_append_left hlt]
  · rw [hlast, List.getElem?_concat_length]
    rfl
  · rw [List.getElem?_eq_none (by rw [List.length_append, List.length_singleton]; omega)]
    rfl

theorem headAt_lt {queues : List (List α)} {index : ℕ} {element : α}
    (h : headAt queues index = some element) : index < queues.length := by
  obtain ⟨queue, hqueue, -⟩ := Option.bind_eq_some_iff.mp h
  exact (List.getElem?_eq_some_iff.mp hqueue).1

theorem headAt_concat_cases {queues : List (List α)} {queue : List α} {index : ℕ} {element : α}
    (h : headAt (queues ++ [queue]) index = some element) :
    headAt queues index = some element ∨ (index = queues.length ∧ queue.head? = some element) := by
  rw [headAt_concat] at h
  split_ifs at h with hlt hlast
  · exact .inl h
  · exact .inr ⟨hlast, h⟩

/-- The least head stays the least, unless the head of one more queue is smaller. -/
theorem IsLeastHead.concat [LinearOrder β] {key : α → β} {queues : List (List α)} {index : ℕ}
    {element : α} (h : IsLeastHead key queues index element) {queue : List α}
    (hqueue : ∀ another, queue.head? = some another → key element ≤ key another) :
    IsLeastHead key (queues ++ [queue]) index element where
  head := by
    rw [headAt_concat, if_pos (headAt_lt h.head)]
    exact h.head
  least := by
    intro other another hother
    rcases headAt_concat_cases hother with hold | ⟨-, hnew⟩
    · exact h.least other another hold
    · exact hqueue another hnew
  first := by
    intro other another hother hlt
    rcases headAt_concat_cases hother with hold | ⟨rfl, -⟩
    · exact h.first other another hold hlt
    · exact absurd (headAt_lt h.head) (Nat.not_lt.mpr (Nat.le_of_lt hlt))

theorem isLeastHead_last [LinearOrder β] {key : α → β} {queues : List (List α)} {queue : List α}
    {element : α} (hhead : queue.head? = some element)
    (hless : ∀ other another, headAt queues other = some another → key element < key another) :
    IsLeastHead key (queues ++ [queue]) queues.length element where
  head := by
    rw [headAt_concat, if_neg (Nat.lt_irrefl _), if_pos rfl]
    exact hhead
  least := by
    intro other another hother
    rcases headAt_concat_cases hother with hold | ⟨-, hnew⟩
    · exact le_of_lt (hless other another hold)
    · obtain rfl : element = another := Option.some.inj (hhead.symm.trans hnew)
      exact le_refl _
  first := by
    intro other another hother hlt
    rcases headAt_concat_cases hother with hold | ⟨rfl, -⟩
    · exact hless other another hold
    · exact absurd hlt (Nat.lt_irrefl _)

/-- Only one index has the first of the least heads. -/
theorem IsLeastHead.index_unique [LinearOrder β] {key : α → β} {queues : List (List α)}
    {index other : ℕ} {element another : α} (h : IsLeastHead key queues index element)
    (hother : IsLeastHead key queues other another) : index = other := by
  rcases Nat.lt_trichotomy index other with hlt | heq | hgt
  · have hless := hother.first index element h.head hlt
    exact absurd hless (not_lt.mpr (h.least other another hother.head))
  · exact heq
  · have hless := h.first other another hother.head hgt
    exact absurd hless (not_lt.mpr (hother.least index element h.head))

theorem pop_eq_some {queues rest : List (List α)} {index : ℕ} {element : α}
    (h : pop queues index = some (element, rest)) :
    ∃ tail, queues[index]? = some (element :: tail) ∧ rest = queues.set index tail := by
  unfold pop at h
  split at h
  · next found tail hqueue =>
      obtain ⟨rfl, rfl⟩ := Prod.mk.inj (Option.some.inj h)
      exact ⟨tail, hqueue, rfl⟩
  · cases h

theorem exists_pop {queues : List (List α)} {index : ℕ} {element : α}
    (h : headAt queues index = some element) :
    ∃ tail, queues[index]? = some (element :: tail) ∧
      pop queues index = some (element, queues.set index tail) := by
  obtain ⟨queue, hqueue, hhead⟩ := Option.bind_eq_some_iff.mp h
  cases queue with
  | nil => cases hhead
  | cons other tail =>
      obtain rfl : other = element := Option.some.inj hhead
      refine ⟨tail, hqueue, ?_⟩
      rw [pop, hqueue]

theorem suffix_of_pop {queues rest : List (List α)} {index : ℕ} {element : α}
    (h : pop queues index = some (element, rest)) :
    ∀ queue ∈ rest, ∃ origin ∈ queues, queue <:+ origin := by
  obtain ⟨tail, hqueue, rfl⟩ := pop_eq_some h
  intro queue hmem
  rcases List.mem_or_eq_of_mem_set hmem with hold | rfl
  · exact ⟨queue, hold, List.suffix_refl queue⟩
  · exact ⟨element :: queue, List.mem_of_getElem? hqueue, List.suffix_cons element queue⟩

theorem forall_of_pop {P : List α → Prop} {queues rest : List (List α)} {index : ℕ} {element : α}
    (h : pop queues index = some (element, rest))
    (hsuffix : ∀ queue origin, queue <:+ origin → P origin → P queue)
    (hqueues : ∀ queue ∈ queues, P queue) : ∀ queue ∈ rest, P queue := by
  intro queue hmem
  obtain ⟨origin, horigin, hend⟩ := suffix_of_pop h queue hmem
  exact hsuffix queue origin hend (hqueues origin horigin)

theorem length_flatten_set {queues : List (List α)} {index : ℕ} {element : α} {tail : List α}
    (h : queues[index]? = some (element :: tail)) :
    (queues.set index tail).flatten.length + 1 = queues.flatten.length := by
  induction queues generalizing index with
  | nil => simp at h
  | cons queue rest ih =>
      cases index with
      | zero =>
          obtain rfl : queue = element :: tail := by simpa using h
          simp only [List.set_cons_zero, List.flatten_cons, List.length_append, List.length_cons]
          omega
      | succ index =>
          have hrest := ih (by simpa using h)
          simp only [List.set_cons_succ, List.flatten_cons, List.length_append]
          omega

/-! ## Merging -/

/-- Up to `count` chosen heads with their indices, and what remains of the queues. -/
def merge (choose : List (List α) → Option ℕ) :
    ℕ → List (List α) → List (ℕ × α) × List (List α)
  | 0, queues => ([], queues)
  | count + 1, queues =>
      match choose queues with
      | none => ([], queues)
      | some index =>
          match pop queues index with
          | none => ([], queues)
          | some (element, rest) =>
              ((index, element) :: (merge choose count rest).1, (merge choose count rest).2)

section Any

variable (choose : List (List α) → Option ℕ)

theorem merge_succ {queues rest : List (List α)} {index : ℕ} {element : α} (count : ℕ)
    (hchoose : choose queues = some index) (hpop : pop queues index = some (element, rest)) :
    merge choose (count + 1) queues =
      ((index, element) :: (merge choose count rest).1, (merge choose count rest).2) := by
  rw [merge, hchoose]
  dsimp only
  rw [hpop]

theorem merge_of_none {queues : List (List α)} (count : ℕ) (hchoose : choose queues = none) :
    merge choose count queues = ([], queues) := by
  cases count with
  | zero => rfl
  | succ count => rw [merge, hchoose]

theorem merge_succ_cases (count : ℕ) (queues : List (List α)) :
    merge choose (count + 1) queues = ([], queues) ∨
      ∃ index element rest, choose queues = some index ∧
        pop queues index = some (element, rest) := by
  rw [merge]
  cases choose queues with
  | none => exact .inl rfl
  | some index =>
      dsimp only
      cases hpop : pop queues index with
      | none => exact .inl rfl
      | some popped => exact .inr ⟨index, popped.1, popped.2, rfl, hpop⟩

theorem merge_succ_of_end {count : ℕ} {queues : List (List α)}
    (hend : choose (merge choose count queues).2 = none) :
    merge choose (count + 1) queues = merge choose count queues := by
  induction count generalizing queues with
  | zero => exact merge_of_none choose 1 hend
  | succ count ih =>
      rcases merge_succ_cases choose count queues with hnil | ⟨index, element, rest, hchoose, hpop⟩
      · rw [hnil] at hend ⊢
        exact merge_of_none choose (count + 2) hend
      · rw [merge_succ choose count hchoose hpop] at hend
        rw [merge_succ choose (count + 1) hchoose hpop, merge_succ choose count hchoose hpop,
          ih hend]

/-- Exactly once and in order: a queue is what came out of it, followed by what remains. -/
theorem merge_conserves (count : ℕ) {queues : List (List α)} {index : ℕ} {queue : List α}
    (hqueue : queues[index]? = some queue) :
    ∃ rest, (merge choose count queues).2[index]? = some rest ∧
      queue = (((merge choose count queues).1.filter fun entry ↦ entry.1 = index).map Prod.snd) ++
        rest := by
  induction count generalizing queues queue with
  | zero => exact ⟨queue, hqueue, rfl⟩
  | succ count ih =>
      rcases merge_succ_cases choose count queues with
        hstop | ⟨chosen, element, next, hchoose, hpop⟩
      · rw [hstop]
        exact ⟨queue, hqueue, rfl⟩
      · rw [merge_succ choose count hchoose hpop]
        obtain ⟨tail, hchosen, rfl⟩ := pop_eq_some hpop
        by_cases hindex : chosen = index
        · subst hindex
          obtain rfl : element :: tail = queue := Option.some.inj (hchosen.symm.trans hqueue)
          obtain ⟨hlt, -⟩ := List.getElem?_eq_some_iff.mp hchosen
          obtain ⟨rest, hrest, htail⟩ := ih (List.getElem?_set_self hlt)
          refine ⟨rest, hrest, ?_⟩
          rw [List.filter_cons_of_pos (by simp), List.map_cons, List.cons_append, ← htail]
        · obtain ⟨rest, hrest, htail⟩ := ih ((List.getElem?_set_ne hindex).trans hqueue)
          refine ⟨rest, hrest, ?_⟩
          rw [List.filter_cons_of_neg (by simpa using hindex), ← htail]

theorem exists_queue_of_mem_merge (count : ℕ) {queues : List (List α)} {entry : ℕ × α}
    (hmem : entry ∈ (merge choose count queues).1) :
    ∃ queue, queues[entry.1]? = some queue ∧ entry.2 ∈ queue := by
  induction count generalizing queues with
  | zero => exact absurd hmem List.not_mem_nil
  | succ count ih =>
      rcases merge_succ_cases choose count queues with
        hstop | ⟨chosen, element, next, hchoose, hpop⟩
      · rw [hstop] at hmem
        exact absurd hmem List.not_mem_nil
      · rw [merge_succ choose count hchoose hpop] at hmem
        obtain ⟨tail, hchosen, rfl⟩ := pop_eq_some hpop
        rcases List.mem_cons.mp hmem with rfl | htail
        · exact ⟨_, hchosen, List.mem_cons_self⟩
        · obtain ⟨queue, hqueue, hentry⟩ := ih htail
          by_cases hindex : chosen = entry.1
          · obtain ⟨hlt, -⟩ := List.getElem?_eq_some_iff.mp hchosen
            rw [← hindex, List.getElem?_set_self hlt] at hqueue
            obtain rfl := Option.some.inj hqueue
            exact ⟨_, hindex ▸ hchosen, List.mem_cons_of_mem _ hentry⟩
          · rw [List.getElem?_set_ne hindex] at hqueue
            exact ⟨queue, hqueue, hentry⟩

theorem mem_of_mem_merge (count : ℕ) {queues : List (List α)} {entry : ℕ × α}
    (hmem : entry ∈ (merge choose count queues).1) : ∃ queue ∈ queues, entry.2 ∈ queue := by
  obtain ⟨queue, hqueue, hentry⟩ := exists_queue_of_mem_merge choose count hmem
  exact ⟨queue, List.mem_of_getElem? hqueue, hentry⟩

theorem suffix_of_merge (count : ℕ) {queues : List (List α)} :
    ∀ queue ∈ (merge choose count queues).2, ∃ origin ∈ queues, queue <:+ origin := by
  induction count generalizing queues with
  | zero => exact fun queue hmem ↦ ⟨queue, hmem, List.suffix_refl queue⟩
  | succ count ih =>
      rcases merge_succ_cases choose count queues with
        hstop | ⟨chosen, element, next, hchoose, hpop⟩
      · rw [hstop]
        exact fun queue hmem ↦ ⟨queue, hmem, List.suffix_refl queue⟩
      · rw [merge_succ choose count hchoose hpop]
        intro queue hmem
        obtain ⟨middle, hmiddle, hend⟩ := ih queue hmem
        obtain ⟨origin, horigin, hbefore⟩ := suffix_of_pop hpop middle hmiddle
        exact ⟨origin, horigin, hend.trans hbefore⟩

/-- What comes out has been chosen among the queues as they are then. -/
theorem choose_of_merge {count : ℕ} {queues : List (List α)} {before after : List (ℕ × α)}
    {entry : ℕ × α} (hsplit : (merge choose count queues).1 = before ++ entry :: after) :
    choose (merge choose before.length queues).2 = some entry.1 ∧
      headAt (merge choose before.length queues).2 entry.1 = some entry.2 := by
  induction before generalizing count queues with
  | nil =>
      cases count with
      | zero => simp [merge] at hsplit
      | succ count =>
          rcases merge_succ_cases choose count queues with
            hstop | ⟨chosen, element, next, hchoose, hpop⟩
          · rw [hstop] at hsplit
            simp at hsplit
          · rw [merge_succ choose count hchoose hpop] at hsplit
            obtain ⟨rfl, -⟩ := List.cons.inj hsplit
            obtain ⟨tail, hchosen, rfl⟩ := pop_eq_some hpop
            refine ⟨hchoose, ?_⟩
            change headAt queues chosen = some element
            rw [headAt, hchosen]
            rfl
  | cons head before ih =>
      cases count with
      | zero => simp [merge] at hsplit
      | succ count =>
          rcases merge_succ_cases choose count queues with
            hstop | ⟨chosen, element, next, hchoose, hpop⟩
          · rw [hstop] at hsplit
            simp at hsplit
          · rw [merge_succ choose count hchoose hpop] at hsplit
            obtain ⟨-, htail⟩ := List.cons.inj hsplit
            rw [List.length_cons, merge_succ choose before.length hchoose hpop]
            exact ih htail

end Any

/-- A choice that names no queue but those that have a head. -/
def ChoosesHead (choose : List (List α) → Option ℕ) : Prop :=
  ∀ queues index, choose queues = some index → ∃ element, headAt queues index = some element

theorem ChoosesHead.exists_pop {choose : List (List α) → Option ℕ} (h : ChoosesHead choose)
    {queues : List (List α)} {index : ℕ} (hchoose : choose queues = some index) :
    ∃ element rest, pop queues index = some (element, rest) := by
  obtain ⟨element, hhead⟩ := h queues index hchoose
  obtain ⟨tail, -, hpop⟩ := Merge.exists_pop hhead
  exact ⟨element, _, hpop⟩

/-- A choice of heads that is only missing when all queues are empty empties them in the end. -/
theorem ChoosesHead.merge_exhausts {choose : List (List α) → Option ℕ} (h : ChoosesHead choose)
    (hends : ∀ queues, choose queues = none → ∀ queue ∈ queues, queue = []) {count : ℕ}
    {queues : List (List α)} (hcount : queues.flatten.length ≤ count) :
    ∀ queue ∈ (merge choose count queues).2, queue = [] := by
  induction count generalizing queues with
  | zero =>
      intro queue hmem
      exact List.flatten_eq_nil_iff.mp (List.length_eq_zero_iff.mp (Nat.le_zero.mp hcount)) queue
        hmem
  | succ count ih =>
      cases hchoose : choose queues with
      | none =>
          rw [merge_of_none choose (count + 1) hchoose]
          exact hends queues hchoose
      | some index =>
          obtain ⟨element, rest, hpop⟩ := h.exists_pop hchoose
          rw [merge_succ choose count hchoose hpop]
          obtain ⟨tail, hchosen, rfl⟩ := pop_eq_some hpop
          have hset := length_flatten_set hchosen
          exact ih (by omega)

/-! ## Least heads -/

/-- A choice that names a least head as long as there is one, on queues of valid elements. -/
structure Chooses [LinearOrder β] (key : α → β) (Valid : α → Prop)
    (choose : List (List α) → Option ℕ) : Prop where
  none : ∀ queues, (∀ queue ∈ queues, ∀ element ∈ queue, Valid element) →
    choose queues = none → ∀ queue ∈ queues, queue = []
  some : ∀ queues index, (∀ queue ∈ queues, ∀ element ∈ queue, Valid element) →
    choose queues = some index → ∃ element, IsLeastHead key queues index element

section Least

variable [LinearOrder β] {key : α → β} {Valid : α → Prop} {choose : List (List α) → Option ℕ}
  (h : Chooses key Valid choose)
include h

theorem Chooses.step_cases {queues : List (List α)}
    (hvalid : ∀ queue ∈ queues, ∀ element ∈ queue, Valid element) :
    (choose queues = Option.none ∧ ∀ queue ∈ queues, queue = []) ∨
      ∃ index element rest, choose queues = Option.some index ∧
        pop queues index = Option.some (element, rest) ∧ IsLeastHead key queues index element ∧
        ∀ queue ∈ rest, ∀ other ∈ queue, Valid other := by
  cases hchoose : choose queues with
  | none => exact .inl ⟨rfl, h.none queues hvalid hchoose⟩
  | some index =>
      obtain ⟨element, hleast⟩ := h.some queues index hvalid hchoose
      obtain ⟨tail, -, hpop⟩ := exists_pop hleast.head
      refine .inr ⟨index, element, _, rfl, hpop, hleast, ?_⟩
      exact forall_of_pop (P := fun queue ↦ ∀ other ∈ queue, Valid other) hpop
        (fun queue origin hend horigin other hmem ↦ horigin other (hend.subset hmem)) hvalid

/-- Every element that comes out is the first of the least heads of the queues as they are then. -/
theorem Chooses.merge_least {count : ℕ} {queues : List (List α)}
    (hvalid : ∀ queue ∈ queues, ∀ element ∈ queue, Valid element) {before after : List (ℕ × α)}
    {entry : ℕ × α} (hsplit : (merge choose count queues).1 = before ++ entry :: after) :
    IsLeastHead key (merge choose before.length queues).2 entry.1 entry.2 := by
  obtain ⟨hchoose, hhead⟩ := choose_of_merge choose hsplit
  have hrest : ∀ queue ∈ (merge choose before.length queues).2, ∀ element ∈ queue,
      Valid element := by
    intro queue hmem element helement
    obtain ⟨origin, horigin, hend⟩ := suffix_of_merge choose before.length queue hmem
    exact hvalid origin horigin element (hend.subset helement)
  obtain ⟨element, hleast⟩ := h.some _ _ hrest hchoose
  obtain rfl : element = entry.2 := Option.some.inj (hleast.head.symm.trans hhead)
  exact hleast

/-- Sorted queues give a sorted result. -/
theorem Chooses.merge_sorted (count : ℕ) {queues : List (List α)}
    (hvalid : ∀ queue ∈ queues, ∀ element ∈ queue, Valid element)
    (hsorted : ∀ queue ∈ queues, queue.Pairwise fun left right ↦ key left ≤ key right) :
    (merge choose count queues).1.Pairwise fun left right ↦ key left.2 ≤ key right.2 := by
  induction count generalizing queues with
  | zero => exact List.Pairwise.nil
  | succ count ih =>
      rcases h.step_cases hvalid with
        ⟨hchoose, -⟩ | ⟨index, element, rest, hchoose, hpop, hleast, hrest⟩
      · rw [merge, hchoose]
        exact List.Pairwise.nil
      · rw [merge_succ choose count hchoose hpop]
        have hsortedRest := forall_of_pop hpop
          (fun queue origin hend horigin ↦ horigin.sublist hend.sublist) hsorted
        refine List.Pairwise.cons ?_ (ih hrest hsortedRest)
        intro entry hmem
        obtain ⟨queue, hqueue, hentry⟩ := mem_of_mem_merge choose count hmem
        obtain ⟨origin, horigin, hend⟩ := suffix_of_pop hpop queue hqueue
        have hsortedOrigin := hsorted origin horigin
        have hentryOrigin : entry.2 ∈ origin := hend.subset hentry
        obtain ⟨other, hother⟩ := List.getElem?_of_mem horigin
        cases origin with
        | nil => exact absurd hentryOrigin List.not_mem_nil
        | cons first tail =>
            have hfirst : key element ≤ key first :=
              hleast.least other first (by rw [headAt, hother]; rfl)
            rcases List.mem_cons.mp hentryOrigin with hsame | htail
            · rw [hsame]
              exact hfirst
            · exact le_trans hfirst (List.rel_of_pairwise_cons hsortedOrigin htail)

end Least

end SpTsMuxer.Merge
