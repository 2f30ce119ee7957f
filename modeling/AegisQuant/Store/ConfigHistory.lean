import AegisQuant.Risk.StoredConfig
import AegisQuant.Strategy.ConfigHistory

/-! The history of stored configurations under calls that interleave. Both
kinds of call are kept in step by the unique version numbers. A call for a
strategy reads the log after the row, and what is committed in between escapes
its audit entry. -/
namespace AegisQuant.Store
open VersionedRegister Transition Strategy Risk List

/-- Calls store what their row gives back, and nothing is committed between the
two reads of a call. -/
def StrategyUndisturbed (strategyId : StrategyId)
    (system : System (CallOf strategyId) StrategyConfig (RowOf strategyId)) :
    Event (CallOf strategyId) → Prop
  | .start _ call => Storable call.1.config
  | .advance id => ∀ call existing, system.writers id = some ⟨call, .hasRead existing⟩ →
      existing = system.row
  | .abort _ => True

/-- Calls store what their row gives back. -/
def RiskStorable : Event PersistRiskConfigCall → Prop
  | .start _ call => StorableRisk call.config
  | _ => True

theorem consistent_of_undisturbed {strategyId : StrategyId}
    {system : System (CallOf strategyId) StrategyConfig (RowOf strategyId)}
    {event : Event (CallOf strategyId)} (hStep : StrategyUndisturbed strategyId system event) :
    Consistent (strategyRegister strategyId) system event := by
  cases event with
  | start id call => exact readsBack_of_storable hStep
  | advance id => exact fun call existing hWriter _ => hStep call existing hWriter
  | abort id => trivial

theorem consistent_of_riskStorable {system : System PersistRiskConfigCall RiskConfig RiskConfigRecord}
    {event : Event PersistRiskConfigCall} (hStep : RiskStorable event) :
    Consistent riskRegister system event := by
  cases event with
  | start id call => exact readsBack_of_storableRisk hStep
  | advance id => exact fun call existing _ hReads => absurd hReads Bool.false_ne_true
  | abort id => trivial

/-- Version numbers are never skipped or repeated, in any run. Row, log and
audit also tell the same history as long as every configuration is one that its
row gives back and, for a strategy, no call finds a version in the log that was
committed after it had read the row. -/
theorem config_history_chained (strategyId : StrategyId) (events : List (Event (CallOf strategyId)))
    (riskEvents : List (Event PersistRiskConfigCall)) :
    (Throughout (strategyRegister strategyId).step (fun system => Gapless system.versions ∧
        (strategyRegister strategyId).number system.row = system.versions.length)
        System.empty events ∧
      (Along (strategyRegister strategyId).step (StrategyUndisturbed strategyId) System.empty events →
        Throughout (strategyRegister strategyId).step (History (strategyRegister strategyId))
          System.empty events)) ∧
    Throughout riskRegister.step (fun system => Gapless system.versions ∧
        riskRegister.number system.row = system.versions.length) System.empty riskEvents ∧
      ((∀ event ∈ riskEvents, RiskStorable event) →
        Throughout riskRegister.step (History riskRegister) System.empty riskEvents) := by
  constructor
  · refine ⟨gapless_of_run events, fun hAlong => history_of_run ?_⟩
    exact along_of_invariant (I := fun _ => True)
      (fun _ _ _ hStep => consistent_of_undisturbed hStep) (fun _ _ _ _ => trivial) trivial hAlong
  · refine ⟨gapless_of_run riskEvents, fun hCalls => history_of_run ?_⟩
    exact along_of_invariant (I := fun _ => True)
      (fun _ _ _ hStep => consistent_of_riskStorable hStep) (fun _ _ _ _ => trivial) trivial
      (along_of_forall hCalls _)

section Sample

def sampleStoredCall (correlationId : BitVec 128) : CallOf .failedBreakdownReclaimV1 :=
  ⟨⟨sampleReclaimConfig 0, none, ⟨correlationId⟩, 0⟩, rfl⟩

theorem sampleStored_storable : Storable (sampleReclaimConfig 0) where
  valid := by decide +kernel
  fits := ⟨by decide +kernel, by decide +kernel, by decide +kernel⟩
  unconfirmed := withoutConfirmation_eq_self.mpr ⟨rfl, rfl, rfl⟩

def betweenReads {strategyId : StrategyId}
    (system : System (CallOf strategyId) StrategyConfig (RowOf strategyId)) (id : Nat) : Bool :=
  (system.writers id).any fun writer => match writer.phase with
    | .hasRead _ => true
    | _ => false

theorem undisturbed_of_not_betweenReads {strategyId : StrategyId} {id : Nat}
    {system : System (CallOf strategyId) StrategyConfig (RowOf strategyId)}
    (hRead : betweenReads system id = false) :
    StrategyUndisturbed strategyId system (.advance id) := by
  intro call existing hWriter
  rw [betweenReads, hWriter] at hRead
  cases hRead

theorem config_history_chained_sample : Throughout (strategyRegister .failedBreakdownReclaimV1).step
      (History (strategyRegister .failedBreakdownReclaimV1)) System.empty
      (uninterrupted (sampleStoredCall 1)) := by
  refine (config_history_chained _ _ []).1.2 ⟨sampleStored_storable, ?_, ?_, ?_, ?_, ?_, ?_, trivial⟩
  · exact undisturbed_of_not_betweenReads (by decide +kernel)
  · intro call existing hWriter
    cases hWriter
    rfl
  · exact undisturbed_of_not_betweenReads (by decide +kernel)
  · exact undisturbed_of_not_betweenReads (by decide +kernel)
  · exact undisturbed_of_not_betweenReads (by decide +kernel)
  · exact undisturbed_of_not_betweenReads (by decide +kernel)

/-- The first call reads no row, the second one is then made and committed, and
the first one finds its version in the log. -/
def overtakenCall : List (Event (CallOf .failedBreakdownReclaimV1)) :=
  [.start 0 (sampleStoredCall 1), .advance 0, .start 1 (sampleStoredCall 2)] ++
    replicate 6 (.advance 1) ++ replicate 5 (.advance 0)

/-- The call that was overtaken commits version 2 with an audit entry that
knows no version before it. -/
theorem config_history_misses_version : ¬∀ strategyId events,
      (∀ event ∈ events, ∀ id call, event = Event.start id call → Storable call.1.config) →
      Throughout (strategyRegister strategyId).step (History (strategyRegister strategyId))
        System.empty events := by
  intro hHistory
  have hCalls : ∀ event ∈ overtakenCall, ∀ id call, event = Event.start id call →
      Storable call.1.config := by
    intro event hEvent id call hStart
    subst hStart
    simp only [overtakenCall, replicate, cons_append, nil_append, mem_cons,
      Event.start.injEq, reduceCtorEq, not_mem_nil, or_false, false_or] at hEvent
    rcases hEvent with ⟨-, rfl⟩ | ⟨-, rfl⟩
    · exact sampleStored_storable
    · exact sampleStored_storable
  have hChained := (run_of_throughout (hHistory _ overtakenCall hCalls)).chained
  have hOlds : (run (strategyRegister .failedBreakdownReclaimV1).step System.empty
      overtakenCall).audit.map (·.old.isNone) = [true, true] := by
    decide +kernel
  obtain ⟨first, rest, hAudit, -, hRest⟩ := map_eq_cons_iff.mp hOlds
  obtain ⟨second, last, rfl, hNone, -⟩ := map_eq_cons_iff.mp hRest
  rw [hAudit, TransitionLog.Chained, isChain_cons_cons] at hChained
  rw [hChained.1] at hNone
  cases hNone

end Sample

end AegisQuant.Store
