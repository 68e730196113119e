import Mathlib.Algebra.Order.Ring.Nat
import Mathlib.Data.List.Basic
import Mathlib.Data.List.Forall2
import Mathlib.Tactic.Common

/-!
# Lists Cut at Marked Items

A list is cut in front of each marked item: into what precedes the first mark, and one group for
each mark, which begins with the marked item.  Nothing is lost at the cuts.  Leaving out a front
part of the list leaves out as many groups as it has marks.

Groups can be chosen by their numbers, in any order and more than once.
-/

namespace SpTsMuxer.Schedule

variable {α β : Type}

/-- What precedes the first marked item, and a group for each marked item. -/
def cutAt (mark : α → Bool) : List α → List α × List (List α)
  | [] => ([], [])
  | head :: tail =>
      let rest := cutAt mark tail
      if mark head then ([], (head :: rest.1) :: rest.2) else (head :: rest.1, rest.2)

section CutAt

variable {mark : α → Bool}

theorem cutAt_cons_marked {head : α} (hmark : mark head = true) (tail : List α) :
    cutAt mark (head :: tail) = ([], (head :: (cutAt mark tail).1) :: (cutAt mark tail).2) :=
  if_pos hmark

theorem cutAt_cons_unmarked {head : α} (hmark : ¬mark head = true) (tail : List α) :
    cutAt mark (head :: tail) = (head :: (cutAt mark tail).1, (cutAt mark tail).2) :=
  if_neg hmark

theorem cutAt_append_unmarked {front : List α} (hfront : ∀ item ∈ front, ¬mark item = true)
    (rest : List α) :
    cutAt mark (front ++ rest) = (front ++ (cutAt mark rest).1, (cutAt mark rest).2) := by
  induction front with
  | nil => rfl
  | cons head tail ih =>
      have htail := ih fun item hmem ↦ hfront item (List.mem_cons_of_mem _ hmem)
      rw [List.cons_append, cutAt_cons_unmarked (hfront head List.mem_cons_self), htail]
      rfl

/-- Nothing is lost at the cuts. -/
theorem append_flatten_cutAt (mark : α → Bool) (list : List α) :
    (cutAt mark list).1 ++ (cutAt mark list).2.flatten = list := by
  induction list with
  | nil => rfl
  | cons head tail ih =>
      by_cases hmark : mark head = true
      · rw [cutAt_cons_marked hmark, List.nil_append, List.flatten_cons, List.cons_append, ih]
      · rw [cutAt_cons_unmarked hmark, List.cons_append, ih]

theorem length_cutAt (mark : α → Bool) (list : List α) :
    (cutAt mark list).2.length = (list.filter mark).length := by
  induction list with
  | nil => rfl
  | cons head tail ih =>
      by_cases hmark : mark head = true
      · rw [cutAt_cons_marked hmark, List.filter_cons_of_pos hmark, List.length_cons,
          List.length_cons, ih]
      · rw [cutAt_cons_unmarked hmark, List.filter_cons_of_neg hmark, ih]

theorem not_mark_of_mem_lead {list : List α} {item : α} (hmem : item ∈ (cutAt mark list).1) :
    ¬mark item = true := by
  induction list with
  | nil => exact absurd hmem List.not_mem_nil
  | cons head tail ih =>
      by_cases hmark : mark head = true
      · rw [cutAt_cons_marked hmark] at hmem
        exact absurd hmem List.not_mem_nil
      · rw [cutAt_cons_unmarked hmark] at hmem
        rcases List.mem_cons.mp hmem with rfl | htail
        · exact hmark
        · exact ih htail

/-- A later start leaves out the groups whose marks it leaves out, and no others. -/
theorem groups_drop (mark : α → Bool) (list : List α) (count : ℕ) :
    (cutAt mark (list.drop count)).2 =
      (cutAt mark list).2.drop ((list.take count).filter mark).length := by
  induction list generalizing count with
  | nil => simp [cutAt]
  | cons head tail ih =>
      cases count with
      | zero => rfl
      | succ count =>
          rw [List.drop_succ_cons, List.take_succ_cons, ih]
          by_cases hmark : mark head = true
          · rw [cutAt_cons_marked hmark, List.filter_cons_of_pos hmark, List.length_cons,
              List.drop_succ_cons]
          · rw [cutAt_cons_unmarked hmark, List.filter_cons_of_neg hmark]

theorem cutAt_map (mark : β → Bool) (translate : α → β) (list : List α) :
    cutAt mark (list.map translate) =
      ((cutAt (fun item ↦ mark (translate item)) list).1.map translate,
        (cutAt (fun item ↦ mark (translate item)) list).2.map (List.map translate)) := by
  let before : α → Bool := fun item ↦ mark (translate item)
  change _ = ((cutAt before list).1.map translate, (cutAt before list).2.map (List.map translate))
  induction list with
  | nil => rfl
  | cons head tail ih =>
      by_cases hmark : before head = true
      · have htranslated : mark (translate head) = true := hmark
        rw [List.map_cons, cutAt_cons_marked htranslated, cutAt_cons_marked hmark, ih]
        rfl
      · have htranslated : ¬mark (translate head) = true := hmark
        rw [List.map_cons, cutAt_cons_unmarked htranslated, cutAt_cons_unmarked hmark, ih]
        rfl

/-- Lists that correspond item by item, marks included, are cut at the same places. -/
theorem forall₂_cutAt {mark' : β → Bool} {relation : α → β → Prop}
    (hmark : ∀ item other, relation item other → mark item = mark' other) {first : List α}
    {second : List β} (h : List.Forall₂ relation first second) :
    List.Forall₂ relation (cutAt mark first).1 (cutAt mark' second).1 ∧
      List.Forall₂ (List.Forall₂ relation) (cutAt mark first).2 (cutAt mark' second).2 := by
  induction h with
  | nil => exact ⟨.nil, .nil⟩
  | @cons head other tail others hhead _ ih =>
      obtain ⟨hlead, hgroups⟩ := ih
      have hsame := hmark head other hhead
      by_cases hmarked : mark head = true
      · rw [cutAt_cons_marked hmarked, cutAt_cons_marked (hsame.symm.trans hmarked)]
        exact ⟨.nil, .cons (.cons hhead hlead) hgroups⟩
      · rw [cutAt_cons_unmarked hmarked, cutAt_cons_unmarked fun hother ↦
          hmarked (hsame.trans hother)]
        exact ⟨.cons hhead hlead, hgroups⟩

end CutAt

theorem exists_of_group {mark : α → Bool} {list group : List α} {number : ℕ}
    (hgroup : (cutAt mark list).2[number]? = some group) :
    ∃ first rest before, group = first :: rest ∧ mark first = true ∧
      (∀ item ∈ rest, ¬mark item = true) ∧
      list = before ++ group ++ ((cutAt mark list).2.drop (number + 1)).flatten := by
  induction list generalizing number with
  | nil => simp [cutAt] at hgroup
  | cons head tail ih =>
      by_cases hmark : mark head = true
      · rw [cutAt_cons_marked hmark] at hgroup ⊢
        cases number with
        | zero =>
            obtain rfl := Option.some.inj hgroup
            refine ⟨head, (cutAt mark tail).1, [], rfl, hmark,
              fun item hmem ↦ not_mark_of_mem_lead hmem, ?_⟩
            rw [List.nil_append, List.drop_succ_cons, List.drop_zero, List.cons_append,
              append_flatten_cutAt]
        | succ number =>
            obtain ⟨first, rest, before, hsplit, hfirst, hrest, htail⟩ := ih hgroup
            refine ⟨first, rest, head :: before, hsplit, hfirst, hrest, ?_⟩
            rw [List.drop_succ_cons, List.cons_append, List.cons_append, ← htail]
      · rw [cutAt_cons_unmarked hmark] at hgroup ⊢
        obtain ⟨first, rest, before, hsplit, hfirst, hrest, htail⟩ := ih hgroup
        refine ⟨first, rest, head :: before, hsplit, hfirst, hrest, ?_⟩
        rw [List.cons_append, List.cons_append, ← htail]

/-! ## Where a group begins -/

/-- How many items precede the group with a number. -/
def position (mark : α → Bool) (list : List α) (number : ℕ) : ℕ :=
  ((cutAt mark list).1 ++ ((cutAt mark list).2.take number).flatten).length

section Position

variable {mark : α → Bool} {list : List α} {number : ℕ}

theorem position_cons_marked_zero {head : α} (hmark : mark head = true) (tail : List α) :
    position mark (head :: tail) 0 = 0 := by
  rw [position, cutAt_cons_marked hmark]
  rfl

theorem position_cons_marked_succ {head : α} (hmark : mark head = true) (tail : List α)
    (number : ℕ) : position mark (head :: tail) (number + 1) = position mark tail number + 1 := by
  rw [position, cutAt_cons_marked hmark, List.take_succ_cons]
  simp [position, Nat.add_right_comm]

theorem position_cons_unmarked {head : α} (hmark : ¬mark head = true) (tail : List α)
    (number : ℕ) : position mark (head :: tail) number = position mark tail number + 1 := by
  rw [position, cutAt_cons_unmarked hmark]
  rfl

/-- The position of a group is the position of its mark. -/
theorem position_eq {index : ℕ} {item : α} (hitem : list[index]? = some item)
    (hmark : mark item = true) (hcount : ((list.take index).filter mark).length = number) :
    position mark list number = index := by
  induction list generalizing index number with
  | nil => simp at hitem
  | cons head tail ih =>
      cases index with
      | zero =>
          obtain rfl := Option.some.inj hitem
          obtain rfl : 0 = number := hcount
          exact position_cons_marked_zero hmark tail
      | succ index =>
          rw [List.take_succ_cons] at hcount
          by_cases hhead : mark head = true
          · rw [List.filter_cons_of_pos hhead, List.length_cons] at hcount
            obtain rfl := hcount
            rw [position_cons_marked_succ hhead, ih hitem rfl]
          · rw [List.filter_cons_of_neg hhead] at hcount
            rw [position_cons_unmarked hhead, ih hitem hcount]

end Position

/-! ## Choosing groups -/

/-- The groups with the given numbers, one after the other; numbers without a group add nothing. -/
def choose (groups : List (List α)) (order : List ℕ) : List α :=
  order.flatMap fun number ↦ (groups[number]?).getD []

theorem choose_cons (groups : List (List α)) (number : ℕ) (rest : List ℕ) :
    choose groups (number :: rest) = (groups[number]?).getD [] ++ choose groups rest :=
  List.flatMap_cons

theorem choose_range' (groups : List (List α)) (first : ℕ) :
    choose groups (List.range' first (groups.length - first)) = (groups.drop first).flatten := by
  induction hcount : groups.length - first generalizing first with
  | zero =>
      rw [List.drop_eq_nil_of_le (by omega)]
      rfl
  | succ count ih =>
      have hfirst : first < groups.length := by omega
      have htail := ih (first + 1) (by omega)
      rw [List.range'_succ, List.drop_eq_getElem_cons hfirst, List.flatten_cons, ← htail,
        choose_cons, List.getElem?_eq_getElem hfirst]
      rfl

theorem choose_map (translate : α → β) (groups : List (List α)) (order : List ℕ) :
    choose (groups.map (List.map translate)) order = (choose groups order).map translate := by
  induction order with
  | nil => rfl
  | cons number rest ih =>
      rw [choose_cons, choose_cons, List.getElem?_map, ih, List.map_append]
      cases groups[number]? <;> rfl

theorem mem_of_mem_choose {mark : α → Bool} {list : List α} {order : List ℕ} {item : α}
    (hmem : item ∈ choose (cutAt mark list).2 order) : item ∈ list := by
  obtain ⟨number, -, hgroup⟩ := List.mem_flatMap.mp hmem
  cases hnumber : (cutAt mark list).2[number]? with
  | none =>
      rw [hnumber] at hgroup
      exact absurd hgroup List.not_mem_nil
  | some group =>
      rw [hnumber] at hgroup
      have hflat := List.mem_flatten_of_mem (List.mem_of_getElem? hnumber) hgroup
      rw [← append_flatten_cutAt mark list]
      exact List.mem_append_right _ hflat

theorem choose_of_forall₂ {R : List α → List β → Prop} (hnil : R [] [])
    (happend : ∀ first second first' second', R first first' → R second second' →
      R (first ++ second) (first' ++ second'))
    {groups : List (List α)} {groups' : List (List β)} (h : List.Forall₂ R groups groups')
    (order : List ℕ) : R (choose groups order) (choose groups' order) := by
  induction order with
  | nil => exact hnil
  | cons number rest ih =>
      have hone : R ((groups[number]?).getD []) ((groups'[number]?).getD []) := by
        by_cases hnumber : number < groups.length
        · have hnumber' : number < groups'.length := h.length_eq ▸ hnumber
          rw [List.getElem?_eq_getElem hnumber, List.getElem?_eq_getElem hnumber']
          exact h.get hnumber hnumber'
        · have hnumber' : ¬number < groups'.length := h.length_eq ▸ hnumber
          rw [List.getElem?_eq_none (Nat.le_of_not_lt hnumber),
            List.getElem?_eq_none (Nat.le_of_not_lt hnumber')]
          exact hnil
      exact happend _ _ _ _ hone ih

end SpTsMuxer.Schedule
