import Mathlib.Algebra.Order.Ring.Nat
import Mathlib.Tactic.Common

/-!
# Machines that Answer Each Input with a List of Outputs

A `Mealy` machine reads its inputs from left to right and answers each of them with finitely many
outputs.  The module collects the four ways in which whole runs are reasoned about: an invariant
of one step is an invariant of every run, an observer who only keeps part of the outputs sees the
run of a smaller machine when each step can be seen that way (the unwinding argument), outputs
that each step numbers one after the other are so numbered over the run, and a fallible program
that simulates the machine step by step simulates it over runs.
-/

namespace SpTsMuxer.Machine

/-- A deterministic machine with any number of outputs for each input. -/
structure Mealy (State Input Output : Type) where
  step : State → Input → State × List Output

namespace Mealy

variable {State Input Output : Type} (machine : Mealy State Input Output)

/-- The state after all the inputs, and all the outputs in order. -/
def run : State → List Input → State × List Output
  | state, [] => (state, [])
  | state, input :: rest =>
      let next := machine.step state input
      let tail := run next.1 rest
      (tail.1, next.2 ++ tail.2)

@[simp]
theorem run_nil (state : State) : machine.run state [] = (state, []) := rfl

@[simp]
theorem run_cons_fst (state : State) (input : Input) (rest : List Input) :
    (machine.run state (input :: rest)).1 =
      (machine.run (machine.step state input).1 rest).1 := rfl

@[simp]
theorem run_cons_snd (state : State) (input : Input) (rest : List Input) :
    (machine.run state (input :: rest)).2 =
      (machine.step state input).2 ++ (machine.run (machine.step state input).1 rest).2 := rfl

theorem run_append (state : State) (first second : List Input) :
    machine.run state (first ++ second) =
      ((machine.run (machine.run state first).1 second).1,
        (machine.run state first).2 ++ (machine.run (machine.run state first).1 second).2) := by
  induction first generalizing state with
  | nil => rfl
  | cons input rest ih =>
      have htail := ih (machine.step state input).1
      apply Prod.ext
      · rw [List.cons_append, run_cons_fst, htail, run_cons_fst]
      · rw [List.cons_append, run_cons_snd, htail, run_cons_snd, run_cons_fst, List.append_assoc]

/-- The same machine with its inputs translated first. -/
def comap {Source : Type} (translate : Source → Input) : Mealy State Source Output where
  step state input := machine.step state (translate input)

theorem run_comap {Source : Type} (translate : Source → Input) (state : State)
    (inputs : List Source) :
    (machine.comap translate).run state inputs = machine.run state (inputs.map translate) := by
  induction inputs generalizing state with
  | nil => rfl
  | cons input rest ih =>
      have htail := ih (machine.step state (translate input)).1
      apply Prod.ext
      · change ((machine.comap translate).run (machine.step state (translate input)).1 rest).1 = _
        rw [htail, List.map_cons, run_cons_fst]
      · change _ ++ ((machine.comap translate).run (machine.step state (translate input)).1 rest).2
          = _
        rw [htail, List.map_cons, run_cons_snd]
        rfl

/-! ## Invariants -/

/-- What every step says of its outputs, from a state with the invariant, every run says. -/
theorem forall_mem_run {P : State → Prop} {Q : Output → Prop}
    (hstep : ∀ state input, P state → P (machine.step state input).1)
    (houtput : ∀ state input, P state → ∀ output ∈ (machine.step state input).2, Q output)
    {state : State} (inputs : List Input) (hstate : P state) :
    ∀ output ∈ (machine.run state inputs).2, Q output := by
  induction inputs generalizing state with
  | nil => simp
  | cons input rest ih =>
      intro output hmem
      rcases List.mem_append.mp hmem with hhead | htail
      · exact houtput state input hstate output hhead
      · exact ih (hstep state input hstate) output htail

theorem forall_mem_run_of_step {Q : Output → Prop}
    (houtput : ∀ state input, ∀ output ∈ (machine.step state input).2, Q output)
    (state : State) (inputs : List Input) : ∀ output ∈ (machine.run state inputs).2, Q output := by
  have htrue : ∀ state input, True → ∀ output ∈ (machine.step state input).2, Q output :=
    fun state input _ ↦ houtput state input
  exact machine.forall_mem_run (fun _ _ _ ↦ trivial) htrue inputs trivial

/-! ## Observing part of the outputs -/

/-- What an observer of the outputs in `keep` sees of `machine` is the machine `part`, which reads
only the inputs in `visible`; `view` is its share of the state and `Inv` the states in question. -/
structure Observes {View : Type} (part : Mealy View Input Output) (Inv : State → Prop)
    (view : State → View) (visible : Input → Bool) (keep : Output → Bool) : Prop where
  invariant : ∀ state input, Inv state → Inv (machine.step state input).1
  state_visible : ∀ state input, Inv state → visible input = true →
    view (machine.step state input).1 = (part.step (view state) input).1
  outputs_visible : ∀ state input, Inv state → visible input = true →
    (machine.step state input).2.filter keep = (part.step (view state) input).2
  state_hidden : ∀ state input, Inv state → visible input = false →
    view (machine.step state input).1 = view state
  outputs_hidden : ∀ state input, Inv state → visible input = false →
    (machine.step state input).2.filter keep = []

/-- The kept outputs of a run are the outputs of the smaller machine on the visible inputs alone. -/
theorem Observes.filter_run {machine : Mealy State Input Output} {View : Type}
    {part : Mealy View Input Output} {Inv : State → Prop} {view : State → View}
    {visible : Input → Bool} {keep : Output → Bool}
    (h : machine.Observes part Inv view visible keep) {state : State} (hstate : Inv state)
    (inputs : List Input) :
    (machine.run state inputs).2.filter keep =
      (part.run (view state) (inputs.filter visible)).2 := by
  induction inputs generalizing state with
  | nil => rfl
  | cons input rest ih =>
      have htail := ih (h.invariant state input hstate)
      rw [run_cons_snd, List.filter_append, htail]
      cases hvisible : visible input with
      | true =>
          rw [h.outputs_visible state input hstate hvisible,
            h.state_visible state input hstate hvisible, List.filter_cons_of_pos hvisible,
            run_cons_snd]
      | false =>
          rw [h.outputs_hidden state input hstate hvisible,
            h.state_hidden state input hstate hvisible,
            List.filter_cons_of_neg (by simp [hvisible]), List.nil_append]

/-! ## Numbered outputs -/

/-- Each step numbers its outputs one after the other, from the index of the state on, and the next
state has the next index. -/
structure Numbers (index : State → ℕ) (number : Output → ℕ) : Prop where
  outputs : ∀ state input, (machine.step state input).2.map number =
    List.range' (index state) (machine.step state input).2.length
  state : ∀ state input, index (machine.step state input).1 =
    index state + (machine.step state input).2.length

theorem Numbers.map_run {machine : Mealy State Input Output} {index : State → ℕ}
    {number : Output → ℕ} (h : machine.Numbers index number) (state : State)
    (inputs : List Input) :
    (machine.run state inputs).2.map number =
      List.range' (index state) (machine.run state inputs).2.length := by
  induction inputs generalizing state with
  | nil => rfl
  | cons input rest ih =>
      let next := machine.step state input
      calc
        _ = next.2.map number ++ (machine.run next.1 rest).2.map number := by
          rw [run_cons_snd, List.map_append]
        _ = List.range' (index state) next.2.length ++
            List.range' (index state + next.2.length) (machine.run next.1 rest).2.length := by
          rw [h.outputs, ih, h.state]
        _ = _ := by
          rw [List.range'_append_1, run_cons_snd, List.length_append]

theorem Numbers.number_of_getElem? {machine : Mealy State Input Output} {index : State → ℕ}
    {number : Output → ℕ} (h : machine.Numbers index number) {state : State}
    {inputs : List Input} {position : ℕ} {output : Output}
    (houtput : (machine.run state inputs).2[position]? = some output) :
    number output = index state + position := by
  have hmap := congrArg (fun numbers ↦ numbers[position]?) (h.map_run state inputs)
  simp only [List.getElem?_map, houtput, Option.map_some] at hmap
  obtain ⟨hlt, -⟩ := List.getElem?_eq_some_iff.mp houtput
  rw [List.getElem?_range' hlt, Nat.one_mul] at hmap
  exact Option.some.inj hmap

/-! ## Simulation by a fallible program -/

variable {Concrete Sink Error : Type}

/-- `program` simulates `machine`: whenever a step of the program succeeds, it leaves related
states and has given exactly the machine's outputs to its sink. -/
structure Simulates (program : Concrete → Input → Except Error Concrete)
    (related : Concrete → State → Prop) (sink : Concrete → Sink)
    (feed : Sink → Output → Sink) : Prop where
  related_step : ∀ concrete next state input, related concrete state →
    program concrete input = .ok next → related next (machine.step state input).1
  sink_step : ∀ concrete next state input, related concrete state →
    program concrete input = .ok next →
      sink next = (machine.step state input).2.foldl feed (sink concrete)

/-- A successful run of the program is a run of the machine. -/
theorem Simulates.run {machine : Mealy State Input Output}
    {program : Concrete → Input → Except Error Concrete} {related : Concrete → State → Prop}
    {sink : Concrete → Sink} {feed : Sink → Output → Sink}
    (h : machine.Simulates program related sink feed) {concrete final : Concrete} {state : State}
    (hrelated : related concrete state) {inputs : List Input}
    (hrun : inputs.foldlM program concrete = .ok final) :
    related final (machine.run state inputs).1 ∧
      sink final = (machine.run state inputs).2.foldl feed (sink concrete) := by
  induction inputs generalizing concrete state with
  | nil =>
      obtain rfl : concrete = final := Except.ok.inj hrun
      exact ⟨hrelated, rfl⟩
  | cons input rest ih =>
      rw [List.foldlM_cons] at hrun
      cases hstep : program concrete input with
      | error fault =>
          rw [hstep] at hrun
          cases hrun
      | ok next =>
          rw [hstep] at hrun
          have hnext := h.related_step concrete next state input hrelated hstep
          obtain ⟨hfinal, hsink⟩ := ih hnext hrun
          refine ⟨hfinal, ?_⟩
          rw [hsink, h.sink_step concrete next state input hrelated hstep, run_cons_snd,
            List.foldl_append]

/-- If the program succeeds on every good input from related states, it succeeds on every run of
good inputs. -/
theorem Simulates.exists_run {machine : Mealy State Input Output}
    {program : Concrete → Input → Except Error Concrete} {related : Concrete → State → Prop}
    {sink : Concrete → Sink} {feed : Sink → Output → Sink}
    (h : machine.Simulates program related sink feed) {Good : Input → Prop}
    (hgood : ∀ concrete state input, related concrete state → Good input →
      ∃ next, program concrete input = .ok next)
    {concrete : Concrete} {state : State} (hrelated : related concrete state)
    {inputs : List Input} (hinputs : ∀ input ∈ inputs, Good input) :
    ∃ final, inputs.foldlM program concrete = .ok final := by
  induction inputs generalizing concrete state with
  | nil => exact ⟨concrete, rfl⟩
  | cons input rest ih =>
      obtain ⟨next, hnext⟩ := hgood concrete state input hrelated (hinputs input (by simp))
      obtain ⟨final, hfinal⟩ := ih (h.related_step concrete next state input hrelated hnext)
        (fun other hmem ↦ hinputs other (by simp [hmem]))
      refine ⟨final, ?_⟩
      rw [List.foldlM_cons, hnext]
      exact hfinal

end Mealy

end SpTsMuxer.Machine
