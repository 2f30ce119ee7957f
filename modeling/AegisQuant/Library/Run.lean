import Mathlib.Data.List.Basic
import Mathlib.Order.Basic

/-! Runs of a deterministic step function over a finite list of inputs.
`run` keeps only the last state, `Along` states a property of every step
taken, and `Throughout` a property of every state reached. The invariant
rules turn one-step facts into facts about whole runs. -/
namespace Transition
universe u v w
variable {State : Type u} {Input : Type v} {Answer : Type w} (step : State → Input → State)
variable {I : State → Prop} {C : State → Input → Prop} {start : State} {inputs : List Input}
  {P : State → Prop}

def run : State → List Input → State
  | start, [] => start
  | start, input :: rest => run (step start input) rest

/-- Every step of the run, seen from the state it is taken in, has `C`. -/
def Along (C : State → Input → Prop) : State → List Input → Prop
  | _, [] => True
  | start, input :: rest => C start input ∧ Along C (step start input) rest

instance decidableAlong {C : State → Input → Prop} [∀ s i, Decidable (C s i)] :
    ∀ start inputs, Decidable (Along step C start inputs)
  | _, [] => inferInstanceAs (Decidable True)
  | start, input :: rest =>
    have := decidableAlong (C := C) (step start input) rest
    inferInstanceAs (Decidable (C start input ∧ Along step C (step start input) rest))

/-- Every state of the run has `P`, the first and the last included. -/
def Throughout (P : State → Prop) : State → List Input → Prop
  | start, [] => P start
  | start, input :: rest => P start ∧ Throughout P (step start input) rest

@[simp] theorem run_nil (start : State) : run step start [] = start := rfl

@[simp] theorem run_cons (start : State) (input : Input) (rest : List Input) :
    run step start (input :: rest) = run step (step start input) rest := rfl

variable {step}

theorem run_append (start : State) (first second : List Input) :
    run step start (first ++ second) = run step (run step start first) second := by
  induction first generalizing start with
  | nil => rfl
  | cons input rest ih => exact ih _

/-- A property kept by every step that meets `C` holds at the end of every
run whose steps all meet `C`. -/
theorem run_invariant_of_along (hStep : ∀ s i, I s → C s i → I (step s i)) (hStart : I start)
    (hAlong : Along step C start inputs) : I (run step start inputs) := by
  induction inputs generalizing start with
  | nil => exact hStart
  | cons input rest ih => exact ih (hStep _ _ hStart hAlong.1) hAlong.2

theorem run_invariant (hStep : ∀ s i, I s → I (step s i)) (inputs : List Input) (hStart : I start) :
    I (run step start inputs) := by
  induction inputs generalizing start with
  | nil => exact hStart
  | cons input rest ih => exact ih (hStep _ _ hStart)

theorem throughout_of_invariant (hStep : ∀ s i, I s → I (step s i)) (hState : ∀ s, I s → P s)
    (inputs : List Input) (hStart : I start) : Throughout step P start inputs := by
  induction inputs generalizing start with
  | nil => exact hState _ hStart
  | cons input rest ih => exact ⟨hState _ hStart, ih (hStep _ _ hStart)⟩

theorem run_of_throughout (hAll : Throughout step P start inputs) : P (run step start inputs) := by
  induction inputs generalizing start with
  | nil => exact hAll
  | cons input rest ih => exact ih hAll.2

theorem along_of_forall {P : Input → Prop} (hInputs : ∀ input ∈ inputs, P input) (start : State) :
    Along step (fun _ input => P input) start inputs := by
  induction inputs generalizing start with
  | nil => trivial
  | cons input rest ih =>
    rw [List.forall_mem_cons] at hInputs
    exact ⟨hInputs.1, ih hInputs.2 _⟩

theorem along_of_forall_step (start : State) (inputs : List Input) (hStep : ∀ s i, C s i) :
    Along step C start inputs := by
  induction inputs generalizing start with
  | nil => trivial
  | cons input rest ih => exact ⟨hStep _ _, ih _⟩

theorem throughout_of_along (hStep : ∀ s i, I s → C s i → I (step s i)) (hState : ∀ s, I s → P s)
    (hStart : I start) (hAlong : Along step C start inputs) : Throughout step P start inputs := by
  induction inputs generalizing start with
  | nil => exact hState _ hStart
  | cons input rest ih => exact ⟨hState _ hStart, ih (hStep _ _ hStart hAlong.1) hAlong.2⟩

/-- A property of the states reached is a property of the start and of the
result of every step. -/
theorem throughout_iff_along (P : State → Prop) (start : State) (inputs : List Input) :
    Throughout step P start inputs ↔
      P start ∧ Along step (fun s i => P (step s i)) start inputs := by
  induction inputs generalizing start with
  | nil => simp [Throughout, Along]
  | cons input rest ih => simp only [Throughout, Along, ih]

variable {D : State → Input → Prop}

theorem along_and (start : State) (inputs : List Input) :
    Along step (fun s i => C s i ∧ D s i) start inputs ↔
      Along step C start inputs ∧ Along step D start inputs := by
  induction inputs generalizing start with
  | nil => simp [Along]
  | cons input rest ih =>
    simp only [Along, ih]
    exact and_and_and_comm

/-- A fact that every step meeting `C` has on states with the invariant holds
of every step of a run whose steps all meet `C`. -/
theorem along_of_invariant (hFact : ∀ s i, I s → C s i → D s i)
    (hStep : ∀ s i, I s → C s i → I (step s i)) (hStart : I start)
    (hAlong : Along step C start inputs) : Along step D start inputs := by
  induction inputs generalizing start with
  | nil => trivial
  | cons input rest ih =>
    exact ⟨hFact _ _ hStart hAlong.1, ih (hStep _ _ hStart hAlong.1) hAlong.2⟩

/-- Exactness of a step condition. When `C` and `G` agree on every state that
has the invariant, and a step meeting `C` keeps the invariant, a run meets
`G` at every step precisely if it meets `C` at every step. -/
theorem along_iff_of_invariant {G : State → Input → Prop} (hAgree : ∀ s i, I s → (G s i ↔ C s i))
    (hStep : ∀ s i, I s → C s i → I (step s i)) (inputs : List Input) (hStart : I start) :
    Along step G start inputs ↔ Along step C start inputs := by
  induction inputs generalizing start with
  | nil => exact Iff.rfl
  | cons input rest ih =>
    constructor
    · rintro ⟨hHead, hTail⟩
      have hC := (hAgree _ _ hStart).mp hHead
      exact ⟨hC, (ih (hStep _ _ hStart hC)).mp hTail⟩
    · rintro ⟨hC, hTail⟩
      exact ⟨(hAgree _ _ hStart).mpr hC, (ih (hStep _ _ hStart hC)).mpr hTail⟩

section Potential
variable {Measure : Type*} [PartialOrder Measure] {potential : State → Measure} {I : State → Prop}

section
variable (hStep : ∀ s i, I s → I (step s i))
  (hMono : ∀ s i, I s → potential s ≤ potential (step s i)) {start : State} (inputs : List Input)
  (hStart : I start)
include hStep hMono hStart

theorem potential_le_run : potential start ≤ potential (run step start inputs) := by
  induction inputs generalizing start with
  | nil => exact le_rfl
  | cons input rest ih => exact (hMono _ _ hStart).trans (ih (hStep _ _ hStart))

theorem potential_run_eq_iff : potential (run step start inputs) = potential start ↔
      Along step (fun s i => potential (step s i) = potential s) start inputs := by
  induction inputs generalizing start with
  | nil => simp [Along]
  | cons input rest ih =>
    have hHead := hMono start input hStart
    have hTail := potential_le_run hStep hMono rest (hStep _ input hStart)
    rw [run_cons, Along, ← ih (hStep _ input hStart)]
    constructor
    · intro hSame
      have hFirst := le_antisymm (hTail.trans hSame.le) hHead
      exact ⟨hFirst, hSame.trans hFirst.symm⟩
    · rintro ⟨hFirst, hRest⟩
      exact hRest.trans hFirst

end

end Potential

section Unwinding
variable (step) (visible : Input → Bool)

/-! Runs with hidden inputs. A relation that is kept by the visible inputs on
both sides and by the hidden ones on the second side alone is kept by the whole
run, and answers that agree under it agree throughout. -/

/-- Two states go through one list of inputs, the first of them through the
visible inputs only. -/
def twinStep (states : State × State) (input : Input) : State × State :=
  (if visible input then step states.1 input else states.1, step states.2 input)

def visibleAnswers (answer : State → Input → Answer) : State → List Input → List Answer
  | _, [] => []
  | start, input :: rest =>
    if visible input then
      answer start input :: visibleAnswers answer (step start input) rest
    else visibleAnswers answer (step start input) rest

variable {step visible}

theorem unwinding (answer : State → Input → Answer) {R : State → State → Prop}
    {C : State × State → Input → Prop}
    (hVisible : ∀ first second input, R first second → visible input = true →
      C (first, second) input →
      R (step first input) (step second input) ∧ answer first input = answer second input)
    (hHidden : ∀ first second input, R first second → visible input = false →
      R first (step second input))
    {first second : State} {inputs : List Input} (hStart : R first second)
    (hAlong : Along (twinStep step visible) C (first, second) inputs) :
    R (run step first (inputs.filter visible)) (run step second inputs) ∧
      visibleAnswers step visible answer first (inputs.filter visible) =
        visibleAnswers step visible answer second inputs := by
  induction inputs generalizing first second with
  | nil => exact ⟨hStart, rfl⟩
  | cons input rest ih =>
    obtain ⟨hHead, hTail⟩ := hAlong
    cases hInput : visible input with
    | false =>
      simp only [twinStep, hInput, Bool.false_eq_true, if_false] at hTail
      rw [List.filter_cons_of_neg (by simp [hInput]), run_cons, visibleAnswers,
        if_neg (by simp [hInput])]
      exact ih (hHidden _ _ _ hStart hInput) hTail
    | true =>
      obtain ⟨hNext, hAnswer⟩ := hVisible _ _ _ hStart hInput hHead
      simp only [twinStep, hInput, if_true] at hTail
      obtain ⟨hEnd, hAnswers⟩ := ih hNext hTail
      rw [List.filter_cons_of_pos hInput, run_cons, run_cons, visibleAnswers, visibleAnswers,
        if_pos hInput, if_pos hInput, hAnswer, hAnswers]
      exact ⟨hEnd, rfl⟩

end Unwinding

end Transition
