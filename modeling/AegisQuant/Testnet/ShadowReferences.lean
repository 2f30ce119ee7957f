import AegisQuant.Strategy.StoredConfigs
import AegisQuant.Testnet.Approvals
import AegisQuant.Testnet.ShadowReadiness

/-! What the rows of shadow runs refer to. A run keeps the texts of its request,
and the signal it refers to those they are read as. -/
namespace AegisQuant.Testnet
open Paper Risk Pipeline Fallible Market Strategy Transition List Option

/-- The run refers to a signal of the strategy, symbol, timeframe and candle,
and its decision refers to the same signal. -/
def RefersTo (db : Database) (run : TestnetShadowRunRecord) (signalId : Uuid)
    (strategyId symbol timeframe : String) : Prop :=
  ∃ signal ∈ db.signals.rows, signal.id = signalId ∧ signal.strategyId = strategyId ∧
    signal.symbol = symbol ∧ signal.timeframe = timeframe ∧
    run.evaluatedCandleOpenTime = some signal.sourceCandleOpenTime ∧
    ∀ riskDecisionId, run.riskDecisionId = some riskDecisionId →
      ∃ decision ∈ db.riskDecisions.rows, decision.id = riskDecisionId ∧
        decision.signalId = some signalId

/-- The texts are those that the values they are read as are written with. -/
def CanonicalTexts (strategyId symbol timeframe : String) : Prop :=
  ∃ (strategy : StrategyId) (market : Symbol) (interval : CandleInterval),
    strategyId = strategy.asStr ∧ symbol = market.text ∧ timeframe = interval.asStr

/-- The texts of the run are read as a strategy, symbol and timeframe of whose
signal it is. -/
def RefersAsRead (db : Database) (run : TestnetShadowRunRecord) (signalId : Uuid) : Prop :=
  ∃ (strategy : StrategyId) (market : Symbol) (interval : CandleInterval),
    StrategyId.fromStr run.strategyId = .ok strategy ∧ Symbol.new run.symbol = .ok market ∧
    CandleInterval.fromStr run.timeframe = .ok interval ∧
    RefersTo db run signalId strategy.asStr market.text interval.asStr

structure References (desk : Desk) : Prop where
  signals : SignalsSound desk.db
  runs : ∀ run ∈ desk.shadowRuns.rows, ∀ signalId, run.signalId = some signalId →
    RefersAsRead desk.db run signalId

section Texts
variable {db next : Database} {run : TestnetShadowRunRecord} {signalId : Uuid}

theorem RefersTo.advance {strategyId symbol timeframe : String}
    (hRefers : RefersTo db run signalId strategyId symbol timeframe) (advances : Advances db next) :
    RefersTo next run signalId strategyId symbol timeframe := by
  obtain ⟨signal, hSignal, hId, hStrategy, hSymbol, hTimeframe, hCandle, hDecision⟩ := hRefers
  refine ⟨signal, advances.grows.signals signal hSignal, hId, hStrategy, hSymbol, hTimeframe, hCandle,
    fun riskDecisionId hRun => ?_⟩
  obtain ⟨decision, hRow, hSame⟩ := hDecision riskDecisionId hRun
  exact ⟨decision, advances.grows.riskDecisions decision hRow, hSame⟩

theorem RefersAsRead.advance (hRefers : RefersAsRead db run signalId) (advances : Advances db next) :
    RefersAsRead next run signalId := by
  obtain ⟨strategy, market, interval, hStrategy, hMarket, hInterval, hSignal⟩ := hRefers
  exact ⟨strategy, market, interval, hStrategy, hMarket, hInterval, hSignal.advance advances⟩

/-- Taken literally, the run is of the signal's strategy, symbol and timeframe
precisely if its texts are canonical. -/
theorem RefersAsRead.refersTo_iff (sound : SignalsSound db) (hRefers : RefersAsRead db run signalId) :
    RefersTo db run signalId run.strategyId run.symbol run.timeframe ↔
      CanonicalTexts run.strategyId run.symbol run.timeframe := by
  obtain ⟨strategy, market, interval, hStrategy, hMarket, hInterval, hSignal⟩ := hRefers
  constructor
  · rintro ⟨signal, hRow, hId, hSame⟩
    obtain ⟨other, hOther, hOtherId, hTexts⟩ := hSignal
    have hEq : signal = other :=
      inj_on_of_nodup_map sound.ids hRow hOther (hId.trans hOtherId.symm)
    subst hEq
    exact ⟨strategy, market, interval, hSame.1.symm.trans hTexts.1,
      hSame.2.1.symm.trans hTexts.2.1, hSame.2.2.1.symm.trans hTexts.2.2.1⟩
  · rintro ⟨otherStrategy, otherMarket, otherInterval, hStrategyText, hMarketText, hIntervalText⟩
    rw [hStrategyText, StrategyId.fromStr_asStr] at hStrategy
    rw [hMarketText, Symbol.new_text] at hMarket
    rw [hIntervalText, CandleInterval.fromStr_asStr] at hInterval
    cases hStrategy
    cases hMarket
    cases hInterval
    rw [hStrategyText, hMarketText, hIntervalText]
    exact hSignal

end Texts

section Stages
variable {db persisted decided : Database} {call : ShadowCall}

theorem evaluateShadowOutcome_signal {input : ShadowEvaluationInput} {plan : ShadowOutcomePlan}
    {signalId : Uuid} (hPlan : evaluateShadowOutcome input = .ok plan)
    (hSignal : plan.signalId = some signalId) :
    ∃ signal, input.signal = some signal ∧ signal.signalId = signalId ∧
      plan.riskDecisionId = input.riskDecisionId := by
  have hSkipped {decision status reasons} (hSkip : Except.ok (skippedPlan decision status reasons) =
      (.ok plan : Except Fault ShadowOutcomePlan)) : False := by
    cases hSkip
    cases hSignal
  unfold evaluateShadowOutcome at hPlan
  split at hPlan
  · exact (hSkipped hPlan).elim
  split at hPlan
  · exact (hSkipped hPlan).elim
  split at hPlan
  · exact (hSkipped hPlan).elim
  split at hPlan
  · exact (hSkipped hPlan).elim
  · exact (hSkipped hPlan).elim
  · exact (hSkipped hPlan).elim
  rename_i signal _ _ hInput
  split at hPlan
  · cases hPlan
    exact ⟨signal, hInput, some.inj hSignal, rfl⟩
  split at hPlan
  · cases hPlan
    exact ⟨signal, hInput, some.inj hSignal, rfl⟩
  unfold approvedShadowOutcome at hPlan
  split at hPlan
  · cases hPlan
  obtain ⟨quotient, -, hPlan⟩ := bind_eq_ok.mp hPlan
  simp only at hPlan
  split at hPlan
  · cases hPlan
    exact ⟨signal, hInput, some.inj hSignal, rfl⟩
  · cases hPlan
    exact ⟨signal, hInput, some.inj hSignal, rfl⟩

variable {generated : StrategySignal}

theorem generated_of_shadowEvidence {config : RiskConfig} {strategyId : StrategyId}
    {symbol : Symbol} {timeframe : CandleInterval}
    {requiredFeedBlock : Option TestnetShadowRejectionReason} {evidence : ShadowEvidence}
    (hEvidence : (shadowEvidence db call config strategyId symbol timeframe requiredFeedBlock).2 =
      .ok evidence) (hSignal : evidence.signal = some generated) :
    ∃ evaluation, AegisQuant.evaluate call.rules call.ids.signal {
        correlationId := call.correlationId
        strategyId := strategyId
        symbol := symbol
        config := call.config
        candles := call.readiness.candles
        evaluatedAt := call.now } = .ok evaluation ∧
      evaluation.signal = some generated ∧ call.config.timeframe = timeframe := by
  unfold shadowEvidence at hEvidence
  split at hEvidence
  · rename_i hOpen
    simp only [Bool.and_eq_true, decide_eq_true_eq] at hOpen
    unfold shadowSignalStage at hEvidence
    split at hEvidence
    · cases hEvidence
    rename_i evaluation hEvaluation
    split at hEvidence
    · cases hEvidence
      cases hSignal
    rename_i produced hProduced
    split at hEvidence
    · cases hEvidence
    unfold shadowRiskStage at hEvidence
    split at hEvidence
    · cases hEvidence
    simp only at hEvidence
    split at hEvidence
    · cases hEvidence
    cases hEvidence
    cases hSignal
    exact ⟨evaluation, hEvaluation, hProduced, hOpen.1.1.2⟩
  · cases hEvidence
    cases hSignal

theorem stabilized_of_insertSignalDeduped {now : DateTime} {outcome : InsertSignalOutcome}
    {stable : Option Uuid}
    (hInsert : insertSignalDeduped db (signalRecord generated now) = .ok (persisted, outcome))
    (hFresh : ∀ signal ∈ db.signals.rows, signal.id ≠ generated.signalId)
    (hSignals : decided.signals = persisted.signals) (hNow : now = call.now)
    (hStable : stabilizeShadowSignalId decided call (some generated.signalId) (some generated) =
      .ok stable) : stable = some outcome.signal.id := by
  simp only [stabilizeShadowSignalId, getSignalById, hSignals] at hStable
  rcases insertSignalDeduped_ok hInsert with ⟨rfl, hFound⟩ | ⟨signals, hRows, rfl, hNew, -⟩
  · have hUnknown : persisted.signals.rows.find? (fun signal => signal.id = generated.signalId) =
        none := by
      rw [find?_eq_none]
      exact fun signal hSignal => by simpa using hFresh signal hSignal
    rw [hUnknown, ← hNow, bind_some, hFound] at hStable
    cases hStable
    rfl
  · have hKnown : (signals.rows.find? fun signal => signal.id = generated.signalId).isSome := by
      rw [find?_isSome]
      refine ⟨signalRecord generated now, ?_, decide_eq_true rfl⟩
      rw [(Table.insert?_eq_some.mp hRows).2]
      exact mem_append_right _ (mem_singleton_self _)
    rw [if_pos hKnown] at hStable
    cases hStable
    rw [hNew]
    rfl

end Stages

section Runs
variable {display : Decimal → String} {service : Service} {desk : Desk} {call : ShadowCall}

theorem shadowSetup_ok {setup : ShadowSetup} (hSetup : shadowSetup service call = .ok setup) :
    StrategyId.fromStr call.request.strategyId = .ok setup.strategyId ∧
      Symbol.new call.request.symbol = .ok setup.symbol ∧
      CandleInterval.fromStr call.request.timeframe = .ok setup.timeframe := by
  simp only [shadowSetup, bind_eq_ok, pure_eq_ok] at hSetup
  obtain ⟨_, -, strategyId, hStrategy, symbol, hSymbol, timeframe, hTimeframe, _, -, rfl⟩ := hSetup
  exact ⟨mapError_eq_ok.mp hStrategy, mapError_eq_ok.mp hSymbol, mapError_eq_ok.mp hTimeframe⟩

theorem refersTo_of_stages {setup : ShadowSetup} {config : RiskConfig}
    {block feedWarning : Option TestnetShadowRejectionReason} {evidence : ShadowEvidence}
    {plan : ShadowOutcomePlan} {stable : Option Uuid} {signalId : Uuid}
    (hRules : call.rules = strategyRules)
    (hCandles : normalizeClosedCandles call.readiness.candles = call.readiness.candles)
    (hFresh : ∀ signal ∈ desk.db.signals.rows, signal.id ≠ call.ids.signal)
    (hEvidence : (shadowEvidence desk.db call config setup.strategyId setup.symbol setup.timeframe
      block).2 = .ok evidence)
    (hPlan : evaluateShadowOutcome (shadowOutcomeInput desk.db call setup block feedWarning
      evidence) = .ok plan)
    (hStable : stabilizeShadowSignalId (shadowEvidence desk.db call config setup.strategyId
      setup.symbol setup.timeframe block).1 call plan.signalId evidence.signal = .ok stable)
    (hSignalId : stable = some signalId) :
    RefersTo (shadowEvidence desk.db call config setup.strategyId setup.symbol setup.timeframe
        block).1 (shadowRunRecord call plan stable) signalId setup.strategyId.asStr setup.symbol.text
      setup.timeframe.asStr := by
  cases hPlanned : plan.signalId with
  | none =>
    rw [hPlanned] at hStable
    cases hStable
    cases hSignalId
  | some planned =>
    obtain ⟨generated, hInput, hGeneratedId, hDecision⟩ := evaluateShadowOutcome_signal hPlan hPlanned
    have hGenerated : evidence.signal = some generated := hInput
    obtain ⟨evaluation, hEvaluate, hProduced, hTimeframe⟩ :=
      generated_of_shadowEvidence hEvidence hGenerated
    have hBy := generated_of_evaluate hEvaluate hProduced
    rcases shadowEvidence_cases desk.db call config setup.strategyId setup.symbol setup.timeframe
      block with ⟨-, hNone⟩ | ⟨other, persisted, outcome, hInsert, ⟨-, fault, hFault⟩ |
        ⟨side, found, -, hDecided, hFound, hOther, hRiskDecision, -, -⟩⟩
    · rw [hNone evidence hEvidence] at hGenerated
      cases hGenerated
    · rw [hEvidence] at hFault
      cases hFault
    · rw [hEvidence] at hFound
      cases hFound
      rw [hGenerated] at hOther
      cases hOther
      obtain ⟨riskDecisions, hRow, hDecided⟩ := insertRiskDecision_eq_ok.mp hDecided
      rw [hDecided] at hStable ⊢
      rw [hPlanned, hGenerated, ← hGeneratedId] at hStable
      have hStored := stabilized_of_insertSignalDeduped hInsert
        (by rw [hBy.signalId_eq]; exact hFresh) rfl rfl hStable
      obtain ⟨-, -, -, hMember⟩ := grows_of_insertSignalDeduped hInsert
      rw [hStored, some.injEq] at hSignalId
      have hKey := key_of_insertSignalDeduped hInsert
      refine ⟨outcome.signal, hMember, hSignalId, ?_, ?_, ?_, ?_, ?_⟩
      · exact (congrArg SignalKey.strategyId hKey).trans (congrArg StrategyId.asStr hBy.strategyId_eq)
      · exact (congrArg SignalKey.symbol hKey).trans (congrArg Symbol.text hBy.symbol_eq)
      · exact (congrArg SignalKey.timeframe hKey).trans
          (congrArg CandleInterval.asStr (hBy.timeframe_eq.trans hTimeframe))
      · rw [hRules] at hEvaluate
        have hSource := sourceCandle_of_evaluate hEvaluate hProduced
        simp only [hCandles] at hSource
        exact hSource.trans (congrArg some (congrArg SignalKey.sourceCandleOpenTime hKey).symm)
      · intro riskDecisionId hRun
        have hRun : plan.riskDecisionId = some riskDecisionId := hRun
        rw [hDecision] at hRun
        have hRun := hRiskDecision.symm.trans hRun
        cases hRun
        refine ⟨riskDecisionRow (shadowRiskContext call setup.symbol outcome.signal side)
          (shadowRiskEvaluation persisted call config setup.symbol outcome.signal side) call.now,
          ?_, rfl, congrArg some hSignalId⟩
        rw [(Table.insert?_eq_some.mp hRow).2]
        exact mem_append_right _ (mem_singleton_self _)

theorem References.advance (references : References desk) {db : Database}
    (advances : Advances desk.db db) : References { desk with db := db } where
  signals := advances.sound references.signals
  runs run hRun signalId hSignalId := (references.runs run hRun signalId hSignalId).advance advances

theorem References.runTestnetShadowOnce (references : References desk)
    (hRules : call.rules = strategyRules)
    (hCandles : normalizeClosedCandles call.readiness.candles = call.readiness.candles)
    (hFresh : ∀ signal ∈ desk.db.signals.rows, signal.id ≠ call.ids.signal) :
    References (runTestnetShadowOnce service desk call).1 := by
  rcases runTestnetShadowOnce_cases service desk call with hSame |
    ⟨setup, block, warning, db, hSetup, rfl, hDesk |
      ⟨evidence, plan, stable, shadowRuns, hEvidence, hPlan, hStable, hInsert, hDesk⟩⟩
  · rw [hSame]
    exact references
  · rw [hDesk]
    exact references.advance (advances_shadowEvidence ..)
  have stages := references.advance
    (advances_shadowEvidence desk.db call setup.riskConfig setup.strategyId setup.symbol
      setup.timeframe block)
  rw [hDesk]
  refine ⟨stages.signals, ?_⟩
  rw [(Table.insert?_eq_some.mp hInsert).2]
  refine forall_mem_append.mpr ⟨stages.runs, forall_mem_singleton.mpr ?_⟩
  intro signalId hSignalId
  obtain ⟨hStrategy, hSymbol, hTimeframe⟩ := shadowSetup_ok hSetup
  exact ⟨setup.strategyId, setup.symbol, setup.timeframe, hStrategy, hSymbol, hTimeframe,
    refersTo_of_stages hRules hCandles hFresh hEvidence hPlan hStable hSignalId⟩

theorem References.runShadowOn (references : References desk) {candles : CandleTable}
    (hFresh : ∀ signal ∈ desk.db.signals.rows, signal.id ≠ call.ids.signal) :
    References (runShadowOn display service desk candles call).1 := by
  unfold Testnet.runShadowOn
  split
  · exact references
  split
  · exact references
  rename_i hReady
  exact References.runTestnetShadowOnce references rfl (candles_of_loadShadowCandleReadiness hReady) hFresh

end Runs

/-- A shadow run on the candles stored at the time, a call of the pipeline, or a
change between calls to what is neither a signal nor a decision. -/
inductive ShadowRunStep where
  | shadow (candles : CandleTable) (call : ShadowCall)
  | pipeline (step : PipelineStep)

section Sequences
variable (display : Decimal → String) (service : Service)

def handleShadowRunStep (desk : Desk) : ShadowRunStep → Desk
  | .shadow candles call => (runShadowOn display service desk candles call).1
  | .pipeline step => { desk with db := handlePipelineStep desk.db step }

def DrawsFreshSignal (desk : Desk) : ShadowRunStep → Prop
  | .shadow _ call => ∀ signal ∈ desk.db.signals.rows, signal.id ≠ call.ids.signal
  | .pipeline _ => True

def CanonicalRequest : ShadowRunStep → Prop
  | .shadow _ call => ∀ strategy market interval,
      StrategyId.fromStr call.request.strategyId = .ok strategy →
      Symbol.new call.request.symbol = .ok market →
      CandleInterval.fromStr call.request.timeframe = .ok interval →
      CanonicalTexts call.request.strategyId call.request.symbol call.request.timeframe
  | .pipeline _ => True

def ShadowRunsRefer (desk : Desk) : Prop :=
  ∀ run ∈ desk.shadowRuns.rows, ∀ signalId, run.signalId = some signalId →
    RefersTo desk.db run signalId run.strategyId run.symbol run.timeframe

def CanonicalRuns (desk : Desk) : Prop :=
  ∀ run ∈ desk.shadowRuns.rows, CanonicalTexts run.strategyId run.symbol run.timeframe

variable {display service} {desk : Desk}

theorem advances_handlePipelineStep (db : Database) (step : PipelineStep) :
    Advances db (handlePipelineStep db step) := by
  cases step with
  | call call => exact advances_runPaperPipeline db call
  | environment next => exact advances_of_same rfl rfl

theorem References.handleShadowRunStep (references : References desk) {step : ShadowRunStep}
    (hFresh : DrawsFreshSignal desk step) :
    References (handleShadowRunStep display service desk step) := by
  cases step with
  | shadow candles call => exact references.runShadowOn hFresh
  | pipeline step => exact references.advance (advances_handlePipelineStep desk.db step)

theorem canonicalRuns_runTestnetShadowOnce (hRuns : CanonicalRuns desk) {call : ShadowCall}
    (hRequest : CanonicalRequest (.shadow .empty call)) :
    CanonicalRuns (runTestnetShadowOnce service desk call).1 := by
  rcases runTestnetShadowOnce_cases service desk call with hSame |
    ⟨setup, block, warning, db, hSetup, rfl, hDesk |
      ⟨evidence, plan, stable, shadowRuns, -, -, -, hInsert, hDesk⟩⟩
  · rw [hSame]
    exact hRuns
  · rw [hDesk]
    exact hRuns
  · rw [hDesk, CanonicalRuns, (Table.insert?_eq_some.mp hInsert).2]
    obtain ⟨hStrategy, hSymbol, hTimeframe⟩ := shadowSetup_ok hSetup
    exact forall_mem_append.mpr ⟨hRuns, forall_mem_singleton.mpr
      (hRequest _ _ _ hStrategy hSymbol hTimeframe)⟩

theorem canonicalRuns_handleShadowRunStep (hRuns : CanonicalRuns desk) {step : ShadowRunStep}
    (hStep : CanonicalRequest step) :
    CanonicalRuns (handleShadowRunStep display service desk step) := by
  cases step with
  | shadow candles call =>
    simp only [handleShadowRunStep, runShadowOn]
    split
    · exact hRuns
    split
    · exact hRuns
    · exact canonicalRuns_runTestnetShadowOnce hRuns hStep
  | pipeline step => exact hRuns

/-- A stored run is of the strategy, symbol and timeframe of its signal
precisely if the texts of its request were canonical; candle and decision are
always those of the signal. So where all requests are canonical, every run
refers to what it was decided on. -/
theorem shadow_runs_refer_iff (display : Decimal → String) (service : Service) (desk : Desk)
    (steps : List ShadowRunStep) (hSignals : desk.db.signals.rows = [])
    (hRuns : desk.shadowRuns.rows = [])
    (hFresh : Along (handleShadowRunStep display service) DrawsFreshSignal desk steps) :
    Throughout (handleShadowRunStep display service) (fun reached =>
      ∀ run ∈ reached.shadowRuns.rows, ∀ signalId, run.signalId = some signalId →
        RefersAsRead reached.db run signalId ∧
        (RefersTo reached.db run signalId run.strategyId run.symbol run.timeframe ↔
          CanonicalTexts run.strategyId run.symbol run.timeframe)) desk steps ∧
    ((∀ step ∈ steps, CanonicalRequest step) →
      Throughout (handleShadowRunStep display service) ShadowRunsRefer desk steps) := by
  have hStart : References desk := ⟨⟨by simp [hSignals], by simp [hSignals]⟩, by simp [hRuns]⟩
  constructor
  · exact throughout_of_along (fun _ _ references hStep => references.handleShadowRunStep hStep)
      (fun _ references run hRun signalId hSignalId =>
        have hRead := references.runs run hRun signalId hSignalId
        ⟨hRead, hRead.refersTo_iff references.signals⟩) hStart hFresh
  · intro hCanonical
    refine throughout_of_along (I := fun reached => References reached ∧ CanonicalRuns reached)
      (C := fun reached step => DrawsFreshSignal reached step ∧ CanonicalRequest step) ?_ ?_
      ⟨hStart, by simp [CanonicalRuns, hRuns]⟩
      ((along_and _ _).mpr ⟨hFresh, along_of_forall hCanonical desk⟩)
    · exact fun _ _ hReached hStep => ⟨hReached.1.handleShadowRunStep hStep.1,
        canonicalRuns_handleShadowRunStep hReached.2 hStep.2⟩
    · intro reached hReached run hRun signalId hSignalId
      exact ((hReached.1.runs run hRun signalId hSignalId).refersTo_iff hReached.1.signals).mpr
        (hReached.2 run hRun)

end Sequences

section Sample

/-- A request for the symbol as it is typed, on the candles of `momentumCall`. -/
def observedCall (symbol : String) (firstId : Nat) : ShadowCall where
  request := {
    strategyId := "momentum_v1", symbol := symbol, timeframe := "1m", correlationId := none }
  ids := ⟨⟨BitVec.ofNat 128 firstId⟩, ⟨BitVec.ofNat 128 (firstId + 1)⟩,
    ⟨BitVec.ofNat 128 (firstId + 2)⟩, ⟨BitVec.ofNat 128 (firstId + 3)⟩⟩
  now := DateTime.seconds 180
  exchange := "binance"
  config := (momentumCall btcusdt 10).config
  rules := strategyRules
  persistedRiskConfig := none
  journalOrder := RowOrder.stable newestEntryFirst
  readiness := ⟨[], none⟩
  latestTick := none
  latestClosedCandle := none

def risingCandles : CandleTable where
  rows := [risingCandle btcusdt 0 100, risingCandle btcusdt 1 110, risingCandle btcusdt 2 125]
  unique := by decide +kernel

/-- The candle is observed after the pipeline has stored its signal. -/
def observedSteps (symbol : String) : List ShadowRunStep :=
  [.pipeline (.call (momentumCall btcusdt 10)), .shadow risingCandles (observedCall symbol 50)]

def afterObserving (symbol : String) : Desk :=
  run (handleShadowRunStep (fun _ => "") sampleService) (openDesk [btcusdt]) (observedSteps symbol)

theorem observedSteps_fresh (symbol : String) :
    Along (handleShadowRunStep (fun _ => "") sampleService) DrawsFreshSignal (openDesk [btcusdt])
      (observedSteps symbol) := by
  have hIds : ∀ signal ∈ (handlePipelineStep (openDesk [btcusdt]).db
      (.call (momentumCall btcusdt 10))).signals.rows, signal.id ≠ ⟨51⟩ := by decide +kernel
  exact ⟨trivial, hIds, trivial⟩

/-- A request for `btcusdt` is recorded under that text, while its signal is one
for `BTCUSDT`. -/
theorem shadow_run_of_other_symbol :
    ((afterObserving "btcusdt").shadowRuns.rows.map fun run => (run.symbol, run.signalId)) =
      [("btcusdt", some ⟨11⟩)] ∧
    ((afterObserving "btcusdt").db.signals.rows.map fun signal => (signal.symbol, signal.id)) =
      [("BTCUSDT", ⟨11⟩)] ∧
    ¬ShadowRunsRefer (afterObserving "btcusdt") := by
  have hRuns : ((afterObserving "btcusdt").shadowRuns.rows.map fun run => (run.symbol, run.signalId)) =
      [("btcusdt", some ⟨11⟩)] := by decide +kernel
  have hSignals : ((afterObserving "btcusdt").db.signals.rows.map fun signal =>
      (signal.symbol, signal.id)) = [("BTCUSDT", ⟨11⟩)] := by decide +kernel
  refine ⟨hRuns, hSignals, fun hRefers => ?_⟩
  have hRun : (("btcusdt", some ⟨11⟩) : String × Option Uuid) ∈
      (afterObserving "btcusdt").shadowRuns.rows.map fun run => (run.symbol, run.signalId) := by
    rw [hRuns]
    exact mem_singleton_self _
  obtain ⟨run, hMember, hSame⟩ := mem_map.mp hRun
  rw [Prod.mk.injEq] at hSame
  obtain ⟨signal, hSignal, -, -, hSymbol, -⟩ := hRefers run hMember ⟨11⟩ hSame.2
  have hStored := mem_map_of_mem (f := fun signal : SignalRecord => (signal.symbol, signal.id))
    hSignal
  rw [hSignals, mem_singleton, hSymbol, hSame.1, Prod.mk.injEq] at hStored
  exact absurd hStored.1 (by decide)

theorem shadow_runs_refer_sample :
    ((afterObserving "BTCUSDT").shadowRuns.rows.map fun run => (run.symbol, run.signalId)) =
      [("BTCUSDT", some ⟨11⟩)] ∧
    Throughout (handleShadowRunStep (fun _ => "") sampleService) ShadowRunsRefer
      (openDesk [btcusdt]) (observedSteps "BTCUSDT") := by
  refine ⟨by decide +kernel, (shadow_runs_refer_iff (fun _ => "") sampleService (openDesk [btcusdt])
    (observedSteps "BTCUSDT") rfl rfl (observedSteps_fresh "BTCUSDT")).2 ?_⟩
  intro step hStep
  simp only [observedSteps, mem_cons, not_mem_nil, or_false] at hStep
  rcases hStep with rfl | rfl
  · trivial
  · exact fun _ _ _ _ _ _ => ⟨.momentumV1, btcusdt, .oneMinute, rfl, rfl, rfl⟩

end Sample

end AegisQuant.Testnet
