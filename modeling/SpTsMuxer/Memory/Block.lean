import Mathlib.Algebra.Order.Ring.Nat
import Mathlib.Tactic.Common

/-!
# Fixed-Size Memory Blocks with Checked Accesses

A `Block α size` is an object of exactly `size` cells, so that a block of another length cannot be
built.  Stores and loads are checked: an access outside the object is the fault `outOfBounds`
instead of a silent change of a neighbouring object.  The same type of faults covers reading
through a null pointer and reading a variable that was never assigned.

The lemmas describe a store by a split of the old cells.  A sequence of adjacent stores is then
followed by growing the written prefix one store at a time.
-/

namespace SpTsMuxer.Memory

/-- The undefined behaviours that a checked execution reports. -/
inductive Fault where
  | outOfBounds
  | nullPointer
  | uninitialized
  deriving DecidableEq, Repr

/-- An object of `size` cells. -/
structure Block (α : Type) (size : ℕ) where
  cells : List α
  length_cells : cells.length = size
  deriving DecidableEq

theorem exists_of_bind_eq_ok {ε α β : Type} {first : Except ε α} {next : α → Except ε β}
    {result : β} (h : first >>= next = .ok result) :
    ∃ value, first = .ok value ∧ next value = .ok result := by
  cases first with
  | error fault => cases h
  | ok value => exact ⟨value, rfl, h⟩

theorem exists_of_map_eq_ok {ε α β : Type} {first : Except ε α} {f : α → β} {result : β}
    (h : first.map f = .ok result) : ∃ value, first = .ok value ∧ f value = result := by
  cases first with
  | error fault => cases h
  | ok value => exact ⟨value, rfl, Except.ok.inj h⟩

theorem foldlM_cons_of_ok {ε α σ : Type} {step : σ → α → Except ε σ} {state next : σ} {input : α}
    (h : step state input = .ok next) (rest : List α) :
    (input :: rest).foldlM step state = rest.foldlM step next := by
  rw [List.foldlM_cons, h]
  rfl

/-- Read through a pointer that may be null. -/
def deref {α : Type} : Option α → Except Fault α
  | none => .error .nullPointer
  | some value => .ok value

@[simp]
theorem deref_some {α : Type} (value : α) : deref (some value) = .ok value := rfl

@[simp]
theorem deref_none {α : Type} : deref (none : Option α) = .error .nullPointer := rfl

theorem eq_some_of_deref {α : Type} {pointer : Option α} {value : α}
    (h : deref pointer = .ok value) : pointer = some value := by
  cases pointer with
  | none => cases h
  | some other => rw [Except.ok.inj h]

/-- `count` cells of `source` from `offset` on. -/
def load {α : Type} (source : List α) (offset count : ℕ) : Except Fault (List α) :=
  if offset + count ≤ source.length then .ok ((source.drop offset).take count)
  else .error .outOfBounds

theorem load_of_le {α : Type} {source : List α} {offset count : ℕ}
    (h : offset + count ≤ source.length) :
    load source offset count = .ok ((source.drop offset).take count) :=
  if_pos h

theorem load_eq_ok {α : Type} {source values : List α} {offset count : ℕ}
    (h : load source offset count = .ok values) :
    offset + count ≤ source.length ∧ values.length = count := by
  rw [load] at h
  split_ifs at h with hle
  obtain rfl := Except.ok.inj h
  refine ⟨hle, ?_⟩
  rw [List.length_take, List.length_drop]
  omega

namespace Block

variable {α : Type} {size : ℕ}

@[ext]
theorem ext {left right : Block α size} (h : left.cells = right.cells) : left = right := by
  cases left
  cases right
  simp_all

attribute [simp] length_cells

/-- An object all of whose cells hold `value`. -/
def fill (size : ℕ) (value : α) : Block α size where
  cells := List.replicate size value
  length_cells := List.length_replicate

@[simp]
theorem fill_cells (size : ℕ) (value : α) :
    (fill size value).cells = List.replicate size value := rfl

/-- Read, change and write back the cell at a fixed position inside the object. -/
def update (block : Block α size) (position : Fin size) (f : α → α) : Block α size where
  cells := block.cells.modify position f
  length_cells := by rw [List.length_modify, block.length_cells]

@[simp]
theorem update_cells (block : Block α size) (position : Fin size) (f : α → α) :
    (block.update position f).cells = block.cells.modify position f := rfl

/-- Write `values` from `offset` on. -/
def store (block : Block α size) (offset : ℕ) (values : List α) :
    Except Fault (Block α size) :=
  if h : offset + values.length ≤ size then
    .ok {
      cells := block.cells.take offset ++ values ++ block.cells.drop (offset + values.length)
      length_cells := by
        simp only [List.length_append, List.length_take, List.length_drop, block.length_cells]
        omega }
  else .error .outOfBounds

theorem store_of_lt {block : Block α size} {offset : ℕ} {values : List α}
    (h : size < offset + values.length) :
    block.store offset values = .error .outOfBounds :=
  dif_neg (by omega)

theorem le_of_store {block next : Block α size} {offset : ℕ} {values : List α}
    (h : block.store offset values = .ok next) : offset + values.length ≤ size := by
  by_contra hlong
  rw [store_of_lt (Nat.lt_of_not_le hlong)] at h
  cases h

/-- A store inside the object succeeds and changes only the cells it names. -/
theorem exists_store {block : Block α size} {offset : ℕ} {values : List α}
    (h : offset + values.length ≤ size) :
    ∃ next, block.store offset values = .ok next ∧
      next.cells =
        block.cells.take offset ++ values ++ block.cells.drop (offset + values.length) :=
  ⟨_, dif_pos h, rfl⟩

/-- A store right after a known prefix extends that prefix. -/
theorem exists_store_append {block : Block α size} {before after values : List α} {offset : ℕ}
    (hcells : block.cells = before ++ after) (hoffset : offset = before.length)
    (hfit : values.length ≤ after.length) :
    ∃ next, block.store offset values = .ok next ∧
      next.cells = (before ++ values) ++ after.drop values.length := by
  subst hoffset
  have hsize : before.length + after.length = size := by
    rw [← List.length_append, ← hcells, block.length_cells]
  obtain ⟨next, hstore, hnext⟩ : ∃ next, block.store before.length values = .ok next ∧ _ :=
    exists_store (by omega)
  refine ⟨next, hstore, ?_⟩
  rw [hnext, hcells, List.take_left, List.drop_append]
  simp

/-- A store over known cells replaces exactly these. -/
theorem exists_store_replace {block : Block α size} {before old after values : List α}
    {offset : ℕ} (hcells : block.cells = before ++ old ++ after) (hoffset : offset = before.length)
    (hlength : values.length = old.length) :
    ∃ next, block.store offset values = .ok next ∧ next.cells = before ++ values ++ after := by
  rw [List.append_assoc] at hcells
  obtain ⟨next, hstore, hnext⟩ : ∃ next, block.store offset values = .ok next ∧
      next.cells = (before ++ values) ++ (old ++ after).drop values.length :=
    exists_store_append hcells hoffset (by rw [List.length_append]; omega)
  rw [hlength, List.drop_left] at hnext
  exact ⟨next, hstore, hnext⟩

end Block

theorem load_append {α : Type} {source before middle after : List α} {offset count : ℕ}
    (hsource : source = before ++ middle ++ after) (hoffset : offset = before.length)
    (hcount : count = middle.length) : load source offset count = .ok middle := by
  subst hsource hoffset hcount
  rw [load_of_le (by simp only [List.length_append]; omega), List.append_assoc, List.drop_left,
    List.take_left]

/-! ## Blocks in a row -/

section Cells

variable {α : Type} {size : ℕ}

theorem length_flatMap_cells (blocks : List (Block α size)) :
    (blocks.flatMap Block.cells).length = size * blocks.length := by
  induction blocks with
  | nil => rfl
  | cons block rest ih =>
      rw [List.flatMap_cons, List.length_append, block.length_cells, ih, List.length_cons,
        Nat.mul_succ, Nat.add_comm]

theorem drop_flatMap_cells (blocks : List (Block α size)) (count : ℕ) :
    (blocks.flatMap Block.cells).drop (size * count) =
      (blocks.drop count).flatMap Block.cells := by
  induction count generalizing blocks with
  | zero => rfl
  | succ count ih =>
      cases blocks with
      | nil => simp
      | cons block rest =>
          rw [Nat.mul_succ, Nat.add_comm, ← List.drop_drop, List.flatMap_cons,
            List.drop_left' block.length_cells, ih, List.drop_succ_cons]

/-- The cells of one block out of a row of blocks. -/
theorem slice_flatMap_cells {blocks : List (Block α size)} {index : ℕ}
    (hindex : index < blocks.length) :
    ((blocks.flatMap Block.cells).drop (size * index)).take size = blocks[index].cells := by
  rw [drop_flatMap_cells, List.drop_eq_getElem_cons hindex, List.flatMap_cons,
    List.take_left' (Block.length_cells _)]

end Cells

end SpTsMuxer.Memory
