import Mathlib.Algebra.Order.Ring.Nat
import Mathlib.Tactic.Common
import SpTsMuxer.Memory.Block

/-!
# Runs of Fallible Programs

A program that may fail on an input is a step into `Except`, and its run over a list of inputs is
the monadic fold.  The module collects the rules for such runs: a run splits at every position, an
invariant of the successful steps holds after every successful run, and steps that succeed from
the invariant give runs that succeed.

Conditions on a run often speak of the state that each input meets.  `AtEach` says that a condition
holds of every input of the run and the state before it, as far as the run succeeds.

What a program can end with is said by `Ends`: with values that a postcondition accepts and with
errors of certain kinds.  Its rules follow a program along its sequences and its runs.  `errorOf` is
the error itself, if there is one.
-/

namespace SpTsMuxer.Machine

open Memory

variable {State Input Error : Type} {step : State → Input → Except Error State}

/-! ## Ends of a program -/

/-- The program ends with a value that `post` accepts or with an error that `fails` accepts. -/
def Ends {Value : Type} (fails : Error → Prop) (post : Value → Prop) : Except Error Value → Prop
  | .ok value => post value
  | .error error => fails error

section Ends

variable {Value Next : Type} {fails fails' : Error → Prop} {post post' : Value → Prop}
  {program : Except Error Value}

theorem Ends.of_ok {value : Value} (h : Ends fails post program) (hok : program = .ok value) :
    post value := by
  rw [hok] at h
  exact h

theorem Ends.of_error {error : Error} (h : Ends fails post program)
    (herror : program = .error error) : fails error := by
  rw [herror] at h
  exact h

theorem Ends.mono (h : Ends fails post program) (hfails : ∀ error, fails error → fails' error)
    (hpost : ∀ value, post value → post' value) : Ends fails' post' program := by
  cases program with
  | error error => exact hfails error h
  | ok value => exact hpost value h

theorem Ends.bind {middle : Value → Prop} {last : Next → Prop} {next : Value → Except Error Next}
    (h : Ends fails middle program) (hnext : ∀ value, middle value → Ends fails last (next value)) :
    Ends fails last (program >>= next) := by
  cases program with
  | error error => exact h
  | ok value => exact hnext value h

theorem Ends.map {post : Next → Prop} {f : Value → Next}
    (h : Ends fails (fun value ↦ post (f value)) program) : Ends fails post (program.map f) := by
  cases program with
  | error error => exact h
  | ok value => exact h

/-- The rule for runs: what every step keeps, the run keeps. -/
theorem Ends.foldlM {Inv : State → Prop} {inputs : List Input}
    (hstep : ∀ state, ∀ input ∈ inputs, Inv state → Ends fails Inv (step state input))
    {state : State} (hstate : Inv state) : Ends fails Inv (inputs.foldlM step state) := by
  induction inputs generalizing state with
  | nil => exact hstate
  | cons input rest ih =>
      have hrest := fun state other hmem ↦ hstep state other (List.mem_cons_of_mem input hmem)
      rw [List.foldlM_cons]
      exact (hstep state input List.mem_cons_self hstate).bind fun next hnext ↦ ih hrest hnext

theorem ends_store {size : ℕ} {Cell : Type} (block : Block Cell size) (offset : ℕ)
    (values : List Cell) :
    Ends (· = .outOfBounds) (fun _ ↦ True) (block.store offset values) := by
  rw [Block.store]
  split_ifs
  · trivial
  · rfl

theorem ends_load {Cell : Type} (source : List Cell) (offset count : ℕ) :
    Ends (· = .outOfBounds) (fun _ ↦ True) (load source offset count) := by
  rw [load]
  split_ifs
  · trivial
  · rfl

theorem map_eq_error {f : Value → Next} {error : Error} :
    f <$> program = .error error ↔ program = .error error := by
  cases program with
  | error other => exact ⟨fun h ↦ congrArg _ (Except.error.inj h), fun h ↦ congrArg _ h⟩
  | ok value => exact iff_of_false nofun nofun

end Ends

/-! ## The error of a program -/

/-- The error that the program ends with. -/
def errorOf {Value : Type} : Except Error Value → Option Error
  | .ok _ => none
  | .error error => some error

section ErrorOf

variable {Value Next : Type} {program : Except Error Value}

theorem exists_of_errorOf_eq_none (h : errorOf program = none) : ∃ value, program = .ok value := by
  cases program with
  | error error => cases h
  | ok value => exact ⟨value, rfl⟩

theorem errorOf_bind_of_ok {value : Value} (hok : program = .ok value)
    (next : Value → Except Error Next) : errorOf (program >>= next) = errorOf (next value) := by
  rw [hok]
  rfl

/-- What follows a program and cannot fail does not matter. -/
theorem errorOf_bind_of_pure {next : Value → Except Error Next}
    (hnext : ∀ value, errorOf (next value) = none) :
    errorOf (program >>= next) = errorOf program := by
  cases program with
  | error error => rfl
  | ok value => exact hnext value

theorem errorOf_map (f : Value → Next) : errorOf (program.map f) = errorOf program := by
  cases program <;> rfl

end ErrorOf

/-! ## Splitting a run -/

theorem foldlM_append_eq_ok {state final : State} {before after : List Input} :
    (before ++ after).foldlM step state = .ok final ↔
      ∃ middle, before.foldlM step state = .ok middle ∧ after.foldlM step middle = .ok final := by
  rw [List.foldlM_append]
  constructor
  · exact exists_of_bind_eq_ok
  · rintro ⟨middle, hbefore, hafter⟩
    rw [hbefore]
    exact hafter

theorem foldlM_cons_eq_ok {state final : State} {input : Input} {rest : List Input} :
    (input :: rest).foldlM step state = .ok final ↔
      ∃ next, step state input = .ok next ∧ rest.foldlM step next = .ok final := by
  rw [List.foldlM_cons]
  constructor
  · exact exists_of_bind_eq_ok
  · rintro ⟨next, hstep, hrest⟩
    rw [hstep]
    exact hrest

theorem foldlM_concat_eq_ok {state final : State} {before : List Input} {input : Input} :
    (before ++ [input]).foldlM step state = .ok final ↔
      ∃ middle, before.foldlM step state = .ok middle ∧ step middle input = .ok final := by
  rw [foldlM_append_eq_ok]
  refine exists_congr fun middle ↦ and_congr_right fun _ ↦ ?_
  rw [foldlM_cons_eq_ok]
  exact ⟨fun ⟨_, hstep, hnil⟩ ↦ Except.ok.inj hnil ▸ hstep, fun hstep ↦ ⟨final, hstep, rfl⟩⟩

theorem foldlM_cons_of_error {state : State} {input : Input} {error : Error}
    (h : step state input = .error error) (rest : List Input) :
    (input :: rest).foldlM step state = .error error := by
  rw [List.foldlM_cons, h]
  rfl

/-! ## Invariants -/

/-- What every successful step keeps, every successful run keeps. -/
theorem foldlM_invariant {Inv : State → Prop}
    (hstep : ∀ state input next, Inv state → step state input = .ok next → Inv next)
    {state final : State} (hstate : Inv state) {inputs : List Input}
    (hrun : inputs.foldlM step state = .ok final) : Inv final := by
  induction inputs generalizing state with
  | nil =>
      obtain rfl : state = final := Except.ok.inj hrun
      exact hstate
  | cons input rest ih =>
      obtain ⟨next, hnext, hrest⟩ := foldlM_cons_eq_ok.mp hrun
      exact ih (hstep state input next hstate hnext) hrest

/-! ## Conditions at each step -/

/-- The condition holds of every input of the run and the state that the input meets. -/
def AtEach (step : State → Input → Except Error State) (state : State) (inputs : List Input)
    (P : State → Input → Prop) : Prop :=
  ∀ before input after, inputs = before ++ input :: after →
    ∀ middle, before.foldlM step state = .ok middle → P middle input

theorem atEach_nil (state : State) (P : State → Input → Prop) : AtEach step state [] P := by
  intro before input after hsplit
  simp at hsplit

theorem atEach_cons {state : State} {input : Input} {rest : List Input}
    {P : State → Input → Prop} :
    AtEach step state (input :: rest) P ↔
      P state input ∧ ∀ next, step state input = .ok next → AtEach step next rest P := by
  constructor
  · intro h
    refine ⟨h [] input rest rfl state rfl, ?_⟩
    intro next hnext before other after hsplit middle hmiddle
    refine h (input :: before) other after (by rw [hsplit, List.cons_append]) middle ?_
    exact foldlM_cons_eq_ok.mpr ⟨next, hnext, hmiddle⟩
  · rintro ⟨hfirst, hrest⟩ before other after hsplit middle hmiddle
    cases before with
    | nil =>
        obtain ⟨rfl, rfl⟩ := List.cons.inj hsplit
        obtain rfl : state = middle := Except.ok.inj hmiddle
        exact hfirst
    | cons first between =>
        obtain ⟨rfl, htail⟩ := List.cons.inj hsplit
        obtain ⟨next, hnext, hbetween⟩ := foldlM_cons_eq_ok.mp hmiddle
        exact hrest next hnext between other after htail middle hbetween

theorem atEach_append {state : State} {before after : List Input} {P : State → Input → Prop} :
    AtEach step state (before ++ after) P ↔
      AtEach step state before P ∧
        ∀ middle, before.foldlM step state = .ok middle → AtEach step middle after P := by
  induction before generalizing state with
  | nil =>
      refine ⟨fun h ↦ ⟨atEach_nil state P, ?_⟩, fun h ↦ h.2 state rfl⟩
      intro middle hmiddle
      obtain rfl : state = middle := Except.ok.inj hmiddle
      exact h
  | cons input rest ih =>
      rw [List.cons_append, atEach_cons, atEach_cons]
      constructor
      · rintro ⟨hfirst, hrest⟩
        refine ⟨⟨hfirst, fun next hnext ↦ (ih.mp (hrest next hnext)).1⟩, ?_⟩
        intro middle hmiddle
        obtain ⟨next, hnext, hafter⟩ := foldlM_cons_eq_ok.mp hmiddle
        exact (ih.mp (hrest next hnext)).2 middle hafter
      · rintro ⟨⟨hfirst, hrest⟩, hafter⟩
        refine ⟨hfirst, fun next hnext ↦ ih.mpr ⟨hrest next hnext, ?_⟩⟩
        exact fun middle hmiddle ↦ hafter middle (foldlM_cons_eq_ok.mpr ⟨next, hnext, hmiddle⟩)

/-- In a run that succeeds every input is reached. -/
theorem atEach_iff_exists {state final : State} {inputs : List Input} {P : State → Input → Prop}
    (hrun : inputs.foldlM step state = .ok final) :
    AtEach step state inputs P ↔ ∀ before input after, inputs = before ++ input :: after →
      ∃ middle, before.foldlM step state = .ok middle ∧ P middle input := by
  constructor
  · rintro h before input after rfl
    obtain ⟨middle, hmiddle, -⟩ := foldlM_append_eq_ok.mp hrun
    exact ⟨middle, hmiddle, h before input after rfl middle hmiddle⟩
  · intro h before input after hsplit middle hmiddle
    obtain ⟨reached, hreached, hholds⟩ := h before input after hsplit
    obtain rfl : reached = middle := Except.ok.inj (hreached.symm.trans hmiddle)
    exact hholds

/-- If the condition at each step keeps the invariant, lets the step succeed and gives what is
wanted, the run succeeds, keeps the invariant, and has what is wanted at each step. -/
theorem AtEach.exists_run {Inv : State → Prop} {P Q : State → Input → Prop}
    (hstep : ∀ state input, Inv state → P state input →
      Q state input ∧ ∃ next, step state input = .ok next ∧ Inv next)
    {state : State} (hstate : Inv state) {inputs : List Input}
    (h : AtEach step state inputs P) :
    AtEach step state inputs Q ∧ ∃ final, inputs.foldlM step state = .ok final ∧ Inv final := by
  induction inputs generalizing state with
  | nil => exact ⟨atEach_nil state Q, state, rfl, hstate⟩
  | cons input rest ih =>
      obtain ⟨hfirst, hrest⟩ := atEach_cons.mp h
      obtain ⟨hwanted, next, hnext, hinv⟩ := hstep state input hstate hfirst
      obtain ⟨htail, final, hfinal, hinvFinal⟩ := ih hinv (hrest next hnext)
      refine ⟨atEach_cons.mpr ⟨hwanted, ?_⟩, final, ?_, hinvFinal⟩
      · intro other hother
        obtain rfl : next = other := Except.ok.inj (hnext.symm.trans hother)
        exact htail
      · exact foldlM_cons_eq_ok.mpr ⟨next, hnext, hfinal⟩

end SpTsMuxer.Machine
