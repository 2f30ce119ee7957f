import Mathlib.Data.List.Chain

/-! A log of transitions, each with the state it starts in and the state it ends
in, and a register that holds the present state. The log is a chain if every
transition starts where the one before it ends. -/
namespace TransitionLog
universe u v
variable {Entry : Type u} {State : Type v} (previous : Entry → Option State)
  (next : Entry → State)
variable {log : List Entry} {entry : Entry}

def Chained (log : List Entry) : Prop :=
  log.IsChain fun first second => previous second = some (next first)

/-- The register holds the state that the log ends in. -/
def EndsIn (log : List Entry) (state : State) : Prop := ∀ last ∈ log.getLast?, state = next last

variable {previous next}

theorem chained_concat : Chained previous next (log ++ [entry]) ↔
      Chained previous next log ∧ ∀ last ∈ log.getLast?, previous entry = some (next last) := by
  unfold Chained
  rw [List.isChain_append]
  simp

variable {state : State}

theorem endsIn_concat : EndsIn next (log ++ [entry]) state ↔ state = next entry := by
  simp [EndsIn]

theorem Chained.concat (hLog : Chained previous next log) (hState : EndsIn next log state)
    (hEntry : previous entry = some state) :
    Chained previous next (log ++ [entry]) := by
  refine chained_concat.mpr ⟨hLog, fun last hLast => ?_⟩
  rw [hEntry, hState last hLast]

/-- The only one that does, once there is a transition to continue. -/
theorem previous_eq_of_chained (hSome : log ≠ []) (hState : EndsIn next log state)
    (hLog : Chained previous next (log ++ [entry])) : previous entry = some state := by
  have hLast := List.getLast?_eq_some_getLast hSome
  rw [(chained_concat.mp hLog).2 _ hLast, hState _ hLast]

end TransitionLog
