import Mathlib.Data.List.FinRange
import Mathlib.Data.List.Induction

/-! Inversion and induction rules for computations in `Except`. A successful
sequence of steps has succeeded at every step, and a property kept by every
successful step of a fold holds of its result. -/
namespace Fallible
open List
universe u v w
variable {ε : Type u} {ε' : Type u} {α β σ : Type v}
variable {first : Except ε α} {next : α → Except ε β} {result : α} {Item : Type w}
  {step : σ → Item → Except ε σ} {start finish : σ} {items : List Item} {count : Nat}

theorem bind_eq_ok {result : β} :
    (first >>= next) = .ok result ↔ ∃ value, first = .ok value ∧ next value = .ok result := by
  cases first with
  | error fault => simp [bind, Except.bind]
  | ok value => simp [bind, Except.bind]

variable {fault : ε}

theorem bind_eq_error : (first >>= next) = .error fault ↔
      first = .error fault ∨ ∃ a, first = .ok a ∧ next a = .error fault := by
  cases first with
  | error other => simp [bind, Except.bind]
  | ok value => simp [bind, Except.bind]

theorem ok_bind (value : α) (next : α → Except ε β) : (Except.ok value >>= next) = next value := rfl

theorem pure_eq_ok {value : α} : (pure value : Except ε α) = .ok result ↔ value = result := by
  simp [pure, Except.pure]

theorem error_else_eq_ok {failed : Prop} [Decidable failed] {next : Except ε α} :
    (if failed then .error fault else next) = .ok result ↔ ¬failed ∧ next = .ok result := by
  by_cases hFailed : failed
  · simp [hFailed]
  · simp [hFailed]

theorem mapError_eq_ok {f : ε → ε'} : first.mapError f = .ok result ↔ first = .ok result := by
  cases first <;> simp [Except.mapError]

theorem map_eq_ok {f : α → β} {result : β} :
    first.map f = .ok result ↔ ∃ value, first = .ok value ∧ f value = result := by
  cases first <;> simp [Except.map]

theorem map_eq_error {f : α → β} : first.map f = .error fault ↔ first = .error fault := by
  cases first <;> simp [Except.map]

theorem toOption_eq_some : first.toOption = some result ↔ first = .ok result := by
  cases first <;> simp [Except.toOption]

theorem bind_congr_of_map {second : Except ε α} {observe : α → σ} {other : α → Except ε β}
    (hSame : first.map observe = second.map observe)
    (hNext : ∀ a b, observe a = observe b → next a = other b) :
    (first >>= next) = (second >>= other) := by
  cases first with
  | error fault =>
    cases second with
    | error _ => exact congrArg Except.error (Except.error.inj hSame)
    | ok _ => cases hSame
  | ok value =>
    cases second with
    | error _ => cases hSame
    | ok _ => exact hNext _ _ (Except.ok.inj hSame)

/-- A check that stops the computation unless it passes. -/
def require (passed : Bool) (error : ε) : Except ε Unit := if passed then .ok () else .error error

theorem require_eq_ok {passed : Bool} {error : ε} {result : Unit} :
    require passed error = .ok result ↔ passed = true := by
  cases passed <;> simp [require]

/-- The value that must be there. -/
def ofOption (value : Option α) (error : ε) : Except ε α :=
  match value with
  | some present => .ok present
  | none => .error error

theorem ofOption_eq_ok {value : Option α} {error : ε} :
    ofOption value error = .ok result ↔ value = some result := by
  cases value <;> simp [ofOption]

theorem foldlM_append_eq_ok {first second : List Item} :
    (first ++ second).foldlM step start = .ok finish ↔
      ∃ middle, first.foldlM step start = .ok middle ∧ second.foldlM step middle = .ok finish := by
  rw [foldlM_append, bind_eq_ok]

theorem mapM_eq_ok_map {ask : Item → Except ε α} {answer : Item → α}
    (hAnswers : ∀ item ∈ items, ask item = .ok (answer item)) :
    items.mapM ask = .ok (items.map answer) := by
  induction items with
  | nil => rfl
  | cons item rest ih =>
    obtain ⟨hItem, hRest⟩ := forall_mem_cons.mp hAnswers
    rw [mapM_cons, hItem, ok_bind, ih hRest]
    rfl

theorem foldlM_eq_ok_foldl {next : σ → Item → σ}
    (hSteps : ∀ state, ∀ item ∈ items, step state item = .ok (next state item)) (start : σ) :
    items.foldlM step start = .ok (items.foldl next start) := by
  induction items generalizing start with
  | nil => rfl
  | cons item rest ih =>
    rw [foldlM_cons, hSteps start item (mem_cons_self ..), ok_bind]
    exact ih (fun state other hOther => hSteps state other (mem_cons_of_mem _ hOther)) _

theorem exists_of_foldlM_eq_error (hFold : items.foldlM step start = .error fault) :
    ∃ state, ∃ item ∈ items, step state item = .error fault := by
  induction items generalizing start with
  | nil => cases hFold
  | cons item rest ih =>
    rw [foldlM_cons, bind_eq_error] at hFold
    rcases hFold with hHere | ⟨next, -, hRest⟩
    · exact ⟨start, item, mem_cons_self .., hHere⟩
    · obtain ⟨state, other, hOther, hFault⟩ := ih hRest
      exact ⟨state, other, mem_cons_of_mem _ hOther, hFault⟩

theorem foldlM_congr {other : σ → Item → Except ε σ}
    (hSame : ∀ state, ∀ item ∈ items, step state item = other state item) (start : σ) :
    items.foldlM step start = items.foldlM other start := by
  induction items generalizing start with
  | nil => rfl
  | cons item rest ih =>
    rw [foldlM_cons, foldlM_cons, hSame start item (mem_cons_self ..)]
    congr 1
    funext next
    exact ih (fun state other hOther => hSame state other (mem_cons_of_mem _ hOther)) next

variable (first : Except ε α)

theorem map_bind {γ : Type v} (next : α → Except ε β) (f : β → γ) :
    (first >>= next).map f = first >>= fun value => (next value).map f := by
  cases first <;> rfl

theorem map_map {γ : Type v} (f : α → β) (g : β → γ) :
    (first.map f).map g = first.map fun value => g (f value) := by
  cases first <;> rfl

theorem bind_ok_eq_map (f : α → β) : (first >>= fun value => .ok (f value)) = first.map f := by
  cases first <;> rfl

variable {τ : Type v}

theorem foldlM_map_state {f : σ → τ} {other : τ → Item → Except ε τ}
    (hStep : ∀ state item, other (f state) item = (step state item).map f) (items : List Item)
    (start : σ) : items.foldlM other (f start) = (items.foldlM step start).map f := by
  induction items generalizing start with
  | nil => rfl
  | cons item rest ih =>
    rw [foldlM_cons, foldlM_cons, hStep, map_bind]
    cases step start item with
    | error fault => rfl
    | ok next => exact ih next

/-- A fold over the positions of a list, followed by one over numbers. -/
theorem foldlM_finRange_map {f : σ → τ} {step : σ → Fin count → Except ε σ}
    {other : τ → Nat → Except ε τ}
    (hStep : ∀ state (index : Fin count), other (f state) index = (step state index).map f)
    (start : σ) : (range count).foldlM other (f start) =
      ((finRange count).foldlM step start).map f := by
  rw [← map_coe_finRange_eq_range, foldlM_map]
  exact foldlM_map_state hStep _ _

/-- A property kept by every successful step of the fold holds of the result
of a successful fold. -/
theorem foldlM_invariant {I : σ → Prop}
    (hStep : ∀ state item next, item ∈ items → I state → step state item = .ok next → I next)
    (hStart : I start) (hFold : items.foldlM step start = .ok finish) : I finish := by
  induction items generalizing start with
  | nil =>
    rw [foldlM_nil, pure_eq_ok] at hFold
    exact hFold ▸ hStart
  | cons item rest ih =>
    rw [foldlM_cons, bind_eq_ok] at hFold
    obtain ⟨middle, hHead, hRest⟩ := hFold
    have hMiddle := hStep start item middle (mem_cons_self ..) hStart hHead
    exact ih (fun state other next hm => hStep state other next (mem_cons_of_mem _ hm))
      hMiddle hRest

/-- The same for a property of what is folded so far and of the state. -/
theorem foldlM_invariant_of_done {I : List Item → σ → Prop}
    (hStep : ∀ done state item next, I done state → step state item = .ok next →
      I (done ++ [item]) next) (hStart : I [] start)
    (hFold : items.foldlM step start = .ok finish) : I items finish := by
  induction items using reverseRecOn generalizing finish with
  | nil =>
    rw [foldlM_nil, pure_eq_ok] at hFold
    exact hFold ▸ hStart
  | append_singleton items item ih =>
    obtain ⟨middle, hItems, hLast⟩ := foldlM_append_eq_ok.mp hFold
    rw [foldlM_cons, bind_eq_ok] at hLast
    obtain ⟨next, hItem, hNil⟩ := hLast
    rw [foldlM_nil, pure_eq_ok] at hNil
    exact hNil ▸ hStep items middle item next (ih hItems) hItem

variable {step : σ → Nat → Except ε σ}

/-- A fold over numbers that follows another one along maps of its states, of
which it has an invariant. -/
theorem foldlM_range_map {I : σ → Prop} {f : Nat → σ → τ} {other : τ → Nat → Except ε τ}
    (hStart : I start)
    (hKeep : ∀ index < count, ∀ state next, I state → step state index = .ok next → I next)
    (hStep : ∀ index < count, ∀ state, I state →
      other (f index state) index = (step state index).map (f (index + 1))) :
    (range count).foldlM other (f 0 start) = ((range count).foldlM step start).map (f count) := by
  induction count with
  | zero => rfl
  | succ count ih =>
    have hBefore := ih (fun index hIndex => hKeep index (by omega))
      (fun index hIndex => hStep index (by omega))
    rw [range_succ, foldlM_append, foldlM_append, hBefore]
    cases hReached : (range count).foldlM step start with
    | error fault => rfl
    | ok state =>
      have hState : I state := foldlM_invariant
        (fun state index next hIndex =>
          hKeep index ((mem_range.mp hIndex).trans (Nat.lt_succ_self count)) state next)
        hStart hReached
      change [count].foldlM other (f count state) = ([count].foldlM step state).map _
      rw [foldlM_cons, foldlM_cons, hStep count (by omega) state hState]
      cases step state count with
      | error fault => rfl
      | ok next => rfl

theorem foldlM_range'_related {R : Nat → σ → σ → Prop} {step other : σ → Nat → Except ε σ}
    (hStep : ∀ index first second next next', R index first second → step first index = .ok next →
      other second index = .ok next' → R (index + 1) next next') {index : Nat}
    {first second finish' : σ} (hStart : R index first second)
    (hFirst : (range' index count).foldlM step first = .ok finish)
    (hSecond : (range' index count).foldlM other second = .ok finish') :
    R (index + count) finish finish' := by
  induction count generalizing index first second with
  | zero =>
    rw [range'_zero, foldlM_nil, pure_eq_ok] at hFirst hSecond
    exact hFirst ▸ hSecond ▸ hStart
  | succ count ih =>
    rw [range'_succ, foldlM_cons, bind_eq_ok] at hFirst hSecond
    obtain ⟨middle, hHead, hRest⟩ := hFirst
    obtain ⟨middle', hHead', hRest'⟩ := hSecond
    have hReached := ih (hStep index first second middle middle' hStart hHead hHead') hRest hRest'
    rwa [Nat.add_assoc, Nat.add_comm 1 count] at hReached

/-- What a loop over a range of indices keeps, when it depends on the index. -/
theorem foldlM_range'_invariant {I : Nat → σ → Prop} {index : Nat} {state : σ}
    (hStep : ∀ here state next, index ≤ here → here < index + count → I here state →
      step state here = .ok next → I (here + 1) next) (hStart : I index state)
    (hRun : (range' index count).foldlM step state = .ok finish) :
    I (index + count) finish := by
  induction count generalizing index state with
  | zero =>
    rw [range'_zero, foldlM_nil, pure_eq_ok] at hRun
    exact hRun ▸ hStart
  | succ count ih =>
    rw [range'_succ, foldlM_cons, bind_eq_ok] at hRun
    obtain ⟨middle, hHead, hRest⟩ := hRun
    have hReached := ih
      (fun here state next hAfter hBefore => hStep here state next (by omega) (by omega))
      (hStep index state middle le_rfl (by omega) hStart hHead) hRest
    rwa [Nat.add_assoc, Nat.add_comm 1 count] at hReached

end Fallible
