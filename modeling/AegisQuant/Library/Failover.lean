import Mathlib.Data.List.Infix
import Mathlib.Data.List.Nodup

/-! Candidates tried one after another, in the order of a list without
repetitions, until one answers or fails in a way that no other candidate can
mend. The history of the attempts keeps every one of them with its outcome. -/
namespace Failover
open List
universe u v w
variable {α : Type u} {ε : Type v} {β : Type w}

section Distinct
variable [DecidableEq α]

/-- Appends an item that is not there yet. -/
def addNew (kept : List α) (item : α) : List α := if item ∈ kept then kept else kept ++ [item]

theorem nodup_eraseDups (items : List α) : items.eraseDups.Nodup := by
  match items with
  | [] => exact nodup_nil
  | item :: rest =>
    rw [eraseDups_cons, nodup_cons]
    constructor
    · intro hAgain
      have hFiltered := mem_filter.mp (mem_eraseDups.mp hAgain)
      simp at hFiltered
    · exact nodup_eraseDups _
termination_by items.length
decreasing_by exact Nat.lt_succ_of_le (length_filter_le _ _)

theorem eraseDups_of_nodup {items : List α} (hNodup : items.Nodup) : items.eraseDups = items := by
  induction items with
  | nil => rfl
  | cons item rest ih =>
    obtain ⟨hNew, hRest⟩ := nodup_cons.mp hNodup
    have hOthers : rest.filter (fun other => !other == item) = rest := by
      apply filter_eq_self.mpr
      intro other hOther
      have hNe : other ≠ item := fun hSame => hNew (hSame ▸ hOther)
      simpa using hNe
    rw [eraseDups_cons, hOthers, ih hRest]

theorem filter_not_mem_append (kept : List α) (item : α) (items : List α) :
    items.filter (· ∉ kept ++ [item]) =
      (items.filter (· ∉ kept)).filter (fun other => !other == item) := by
  rw [filter_filter]
  congr 1
  funext other
  by_cases hKept : other ∈ kept <;> by_cases hItem : other = item <;> simp [hKept, hItem]

theorem foldl_addNew (kept items : List α) :
    items.foldl addNew kept = kept ++ (items.filter (· ∉ kept)).eraseDups := by
  induction items generalizing kept with
  | nil => simp
  | cons item rest ih =>
    rw [foldl_cons, addNew]
    by_cases hKept : item ∈ kept
    · rw [if_pos hKept, ih, filter_cons_of_neg (by simpa using hKept)]
    · rw [if_neg hKept, ih, filter_cons_of_pos (by simpa using hKept), eraseDups_cons,
        filter_not_mem_append, append_assoc, singleton_append]

end Distinct

section History
variable (attempt : Nat → α → Except ε β) (retryable : ε → Bool)

/-- The candidates tried, with what became of each. The attempts are numbered,
since a candidate may answer differently at another time. -/
def history : Nat → List α → List (α × Except ε β)
  | _, [] => []
  | number, candidate :: rest =>
    match attempt number candidate with
    | .ok answer => [(candidate, .ok answer)]
    | .error fault =>
      (candidate, .error fault) ::
        if retryable fault then history (number + 1) rest else []

/-- Another candidate may still answer after this outcome. -/
def Retried (outcome : Except ε β) : Prop := ∃ fault, outcome = .error fault ∧ retryable fault = true

variable {attempt retryable} {number : Nat} {candidate : α} {candidates : List α}

theorem history_of_stopped (hStopped : ¬Retried retryable (attempt number candidate)) :
    history attempt retryable number (candidate :: candidates) =
      [(candidate, attempt number candidate)] := by
  rw [history]
  cases hOutcome : attempt number candidate with
  | ok answer => rfl
  | error fault =>
    have hFinal : ¬retryable fault = true := fun hRetry => hStopped ⟨fault, hOutcome, hRetry⟩
    exact congrArg (cons _) (if_neg hFinal)

theorem history_of_retried (hRetried : Retried retryable (attempt number candidate)) :
    history attempt retryable number (candidate :: candidates) =
      (candidate, attempt number candidate) ::
        history attempt retryable (number + 1) candidates := by
  obtain ⟨fault, hOutcome, hRetry⟩ := hRetried
  rw [history, hOutcome]
  exact congrArg (cons _) (if_pos hRetry)

theorem history_prefix :
    (history attempt retryable number candidates).map Prod.fst <+: candidates := by
  induction candidates generalizing number with
  | nil => exact prefix_rfl
  | cons candidate rest ih =>
    by_cases hRetried : Retried retryable (attempt number candidate)
    · rw [history_of_retried hRetried, map_cons]
      exact cons_prefix_cons.mpr ⟨rfl, ih⟩
    · rw [history_of_stopped hRetried]
      exact ⟨rest, rfl⟩

theorem history_outcome {index : Nat}
    (hIndex : index < (history attempt retryable number candidates).length) :
    ((history attempt retryable number candidates)[index]).2 =
      attempt (number + index) ((history attempt retryable number candidates)[index]).1 := by
  induction candidates generalizing number index with
  | nil => exact absurd hIndex (Nat.not_lt_zero _)
  | cons candidate rest ih =>
    by_cases hRetried : Retried retryable (attempt number candidate)
    · simp only [history_of_retried hRetried, length_cons] at hIndex ⊢
      cases index with
      | zero => rfl
      | succ index =>
        have hRest := @ih (number + 1) index (by omega)
        rwa [Nat.add_assoc, Nat.add_comm 1] at hRest
    · simp only [history_of_stopped hRetried, length_singleton, Nat.lt_one_iff] at hIndex ⊢
      subst hIndex
      rfl

variable {entry : α × Except ε β}

theorem outcome_of_mem (hEntry : entry ∈ history attempt retryable number candidates) :
    ∃ later, entry.2 = attempt later entry.1 := by
  obtain ⟨index, hIndex, rfl⟩ := mem_iff_getElem.mp hEntry
  exact ⟨number + index, history_outcome hIndex⟩

theorem outcome_of_eq_append {earlier : List (α × Except ε β)} {outcome : Except ε β}
    (hEntries : history attempt retryable number candidates = earlier ++ [(candidate, outcome)]) :
    attempt (number + earlier.length) candidate = outcome := by
  have hIndex : earlier.length < (history attempt retryable number candidates).length := by
    rw [hEntries, length_append]
    exact Nat.lt_add_one _
  have hOutcome := history_outcome hIndex
  simp only [hEntries, getElem_concat_length] at hOutcome
  exact hOutcome.symm

/-- Whatever was followed by another attempt has failed in a way that another
candidate may mend. -/
theorem retried_of_mem_dropLast
    (hEntry : entry ∈ (history attempt retryable number candidates).dropLast) :
    Retried retryable entry.2 := by
  induction candidates generalizing number with
  | nil => cases hEntry
  | cons candidate rest ih =>
    by_cases hRetried : Retried retryable (attempt number candidate)
    · rw [history_of_retried hRetried] at hEntry
      cases hRest : history attempt retryable (number + 1) rest with
      | nil =>
        rw [hRest] at hEntry
        cases hEntry
      | cons next others =>
        rw [hRest, dropLast_cons_cons, ← hRest] at hEntry
        rcases mem_cons.mp hEntry with rfl | hLater
        · exact hRetried
        · exact ih hLater
    · rw [history_of_stopped hRetried] at hEntry
      cases hEntry

/-- Either the last attempt settled the matter or every candidate was tried. -/
theorem exhausted_or_stopped :
    (history attempt retryable number candidates).map Prod.fst = candidates ∨
      ∃ entry, (history attempt retryable number candidates).getLast? = some entry ∧
        ¬Retried retryable entry.2 := by
  induction candidates generalizing number with
  | nil => exact Or.inl rfl
  | cons candidate rest ih =>
    by_cases hRetried : Retried retryable (attempt number candidate)
    · rw [history_of_retried hRetried, map_cons, getLast?_cons]
      rcases @ih (number + 1) with hAll | ⟨entry, hLast, hStopped⟩
      · exact Or.inl (congrArg (cons candidate) hAll)
      · exact Or.inr ⟨entry, by rw [hLast]; rfl, hStopped⟩
    · rw [history_of_stopped hRetried]
      exact Or.inr ⟨_, rfl, hRetried⟩

end History

section Result
variable {unasked : ε} {candidate : α} {entries : List (α × Except ε β)}

/-- What the last attempt came to. Without any attempt it is the given fault. -/
def result (unasked : ε) (entries : List (α × Except ε β)) : Except ε (α × β) :=
  match entries.getLast? with
  | some (candidate, outcome) => outcome.map fun answer => (candidate, answer)
  | none => .error unasked

theorem result_cons_error {fault : ε} :
    result unasked ((candidate, .error fault) :: entries) = result fault entries := by
  cases entries with
  | nil => rfl
  | cons entry rest =>
    rw [result, result, getLast?_cons_cons, getLast?_cons]

theorem eq_append_of_result_eq_ok {answered : α × β}
    (hResult : result unasked entries = .ok answered) :
    ∃ earlier, entries = earlier ++ [(answered.1, .ok answered.2)] := by
  induction entries using reverseRecOn with
  | nil => cases hResult
  | append_singleton earlier entry _ =>
    obtain ⟨candidate, outcome⟩ := entry
    rw [result, getLast?_concat] at hResult
    cases outcome with
    | error fault => cases hResult
    | ok answer =>
      cases hResult
      exact ⟨earlier, rfl⟩

theorem eq_append_of_result_eq_error {fault : ε} (hTried : entries ≠ [])
    (hResult : result unasked entries = .error fault) :
    ∃ earlier candidate, entries = earlier ++ [(candidate, .error fault)] := by
  induction entries using reverseRecOn with
  | nil => exact absurd rfl hTried
  | append_singleton earlier entry _ =>
    obtain ⟨candidate, outcome⟩ := entry
    rw [result, getLast?_concat] at hResult
    cases outcome with
    | ok answer => cases hResult
    | error other =>
      cases hResult
      exact ⟨earlier, candidate, rfl⟩

end Result
end Failover
