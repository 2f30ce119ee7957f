import AegisQuant.Pipeline.SamePaper
import AegisQuant.Testnet.Approvals

/-! Paper trading beside shadow observation. A shadow run writes no paper
table, but it persists the signal it evaluates, and a pipeline call for the
same candle then reads that row back, with its age and its notional. The calls
of a run decide as they would without the shadow runs as long as that row
leads to the same verdict as the row they would have read otherwise. -/
namespace AegisQuant.Testnet
open Paper Risk Pipeline Transition DateTime

/-- A pipeline call, a shadow run, or a change of the market feeds and the
kill switch between them. -/
inductive ObservedStep where
  | pipeline (call : PipelineCall)
  | shadow (call : ShadowCall)
  | market (marketFeeds : List MarketFeedStatus) (systemState : SystemState)

def handleObservedStep (service : Service) (desk : Desk) : ObservedStep → Desk
  | .pipeline call => { desk with db := (runPaperPipeline desk.db call).1 }
  | .shadow call => (runTestnetShadowOnce service desk call).1
  | .market marketFeeds systemState =>
    { desk with db := { desk.db with marketFeeds := marketFeeds, systemState := systemState } }

def ObservedStep.isPaper : ObservedStep → Bool
  | .shadow _ => false
  | _ => true

def paperDecision (desk : Desk) : ObservedStep → Option PipelineDecision
  | .pipeline call => decisionOf (runPaperPipeline desk.db call).2
  | _ => none

def withoutShadow (steps : List ObservedStep) : List ObservedStep := steps.filter (·.isPaper)

def paperDecisions (service : Service) (desk : Desk) (steps : List ObservedStep) :
    List (Option PipelineDecision) :=
  visibleAnswers (handleObservedStep service) ObservedStep.isPaper paperDecision desk steps

/-- The desks reached without the shadow runs and with them. -/
abbrev observedTwins (service : Service) : Desk × Desk → ObservedStep → Desk × Desk :=
  twinStep (handleObservedStep service) ObservedStep.isPaper

/-- What a pipeline call draws is stored on neither desk. -/
def DrawsFreshIds (desks : Desk × Desk) : ObservedStep → Prop
  | .pipeline call => FreshIds desks.1.db call ∧ FreshIds desks.2.db call
  | _ => True

def UndisturbedStep (desks : Desk × Desk) : ObservedStep → Prop
  | .pipeline call => Undisturbed desks.1.db desks.2.db call
  | _ => True

/-- Orders refer to stored signals, whose ids are unique. -/
structure PaperKept (db : Database) : Prop where
  linked : Linked db
  sound : SignalsSound db

theorem PaperKept.wellKept {db : Database} (kept : PaperKept db) : WellKept db :=
  ⟨kept.linked, kept.sound.ids⟩

section Steps
variable {service : Service} {first second desk : Desk}

theorem runTestnetShadowOnce_writes (service : Service) (desk : Desk) (call : ShadowCall) :
    ∃ signals riskDecisions, (runTestnetShadowOnce service desk call).1.db =
      { desk.db with signals := signals, riskDecisions := riskDecisions } := by
  have hEvidence (setup : ShadowSetup) (block : Option TestnetShadowRejectionReason) :
      ∃ signals riskDecisions, (shadowEvidence desk.db call setup.riskConfig setup.strategyId
          setup.symbol setup.timeframe block).1 =
        { desk.db with signals := signals, riskDecisions := riskDecisions } := by
    rcases shadowEvidence_cases desk.db call setup.riskConfig setup.strategyId setup.symbol
        setup.timeframe block with ⟨hSame, -⟩ |
      ⟨generated, persisted, outcome, hInsert, hRest⟩
    · exact ⟨desk.db.signals, desk.db.riskDecisions, hSame⟩
    obtain ⟨signals, rfl⟩ : ∃ signals, persisted = { desk.db with signals := signals } := by
      rcases insertSignalDeduped_ok hInsert with ⟨rfl, -⟩ | ⟨signals, -, rfl, -⟩
      · exact ⟨desk.db.signals, rfl⟩
      · exact ⟨signals, rfl⟩
    rcases hRest with ⟨hPersisted, -⟩ | ⟨_, _, -, hDecided, -⟩
    · exact ⟨signals, desk.db.riskDecisions, hPersisted⟩
    · obtain ⟨riskDecisions, -, hStored⟩ := insertRiskDecision_eq_ok.mp hDecided
      exact ⟨signals, riskDecisions, hStored⟩
  rcases runTestnetShadowOnce_cases service desk call with hSame |
    ⟨setup, block, warning, db, -, rfl, hDesk | ⟨_, _, _, _, -, -, -, -, hDesk⟩⟩
  · exact ⟨desk.db.signals, desk.db.riskDecisions, by rw [hSame]⟩
  · rw [hDesk]
    exact hEvidence setup block
  · rw [hDesk]
    exact hEvidence setup block

theorem PaperKept.handleObservedStep (kept : PaperKept desk.db) (service : Service)
    (step : ObservedStep) : PaperKept (handleObservedStep service desk step).db := by
  cases step with
  | pipeline call =>
    simp only [Testnet.handleObservedStep]
    exact ⟨(kept.linked.runPaperPipeline call).1,
      (advances_runPaperPipeline desk.db call).sound kept.sound⟩
  | shadow call =>
    simp only [Testnet.handleObservedStep]
    have advances : Advances desk.db (runTestnetShadowOnce service desk call).1.db :=
      advances_runTestnetShadowOnce call
    obtain ⟨signals, riskDecisions, hDb⟩ := runTestnetShadowOnce_writes service desk call
    have hOrders : (runTestnetShadowOnce service desk call).1.db.orders = desk.db.orders := by
      rw [hDb]
    exact ⟨kept.linked.grow advances.grows hOrders, advances.sound kept.sound⟩
  | market marketFeeds systemState =>
    exact ⟨⟨kept.linked.key, kept.linked.signal⟩, ⟨kept.sound.ids, kept.sound.symbols⟩⟩

/-- Same paper state, both databases well kept. -/
structure Twins (first second : Database) : Prop where
  same : SamePaper first second
  first : PaperKept first
  second : PaperKept second

theorem Twins.paperStep (twins : Twins first.db second.db) {step : ObservedStep}
    (hFresh : DrawsFreshIds (first, second) step)
    (hUndisturbed : UndisturbedStep (first, second) step) (hPaper : step.isPaper = true) :
    Twins (Testnet.handleObservedStep service first step).db
        (Testnet.handleObservedStep service second step).db ∧
      paperDecision first step = paperDecision second step := by
  have hFirst := twins.first.handleObservedStep service step
  have hSecond := twins.second.handleObservedStep service step
  cases step with
  | pipeline call =>
    obtain ⟨same, hDecision⟩ := twins.same.runPaperPipeline twins.first.wellKept
      twins.second.wellKept hFresh.1 hFresh.2 hUndisturbed
    simp only [Testnet.handleObservedStep] at hFirst hSecond
    simp only [Testnet.handleObservedStep, paperDecision]
    exact ⟨⟨same, hFirst, hSecond⟩, hDecision⟩
  | shadow call => cases hPaper
  | market marketFeeds systemState =>
    have same : SamePaper
        { first.db with marketFeeds := marketFeeds, systemState := systemState }
        { second.db with marketFeeds := marketFeeds, systemState := systemState } :=
      { twins.same with
        marketFeeds := rfl
        systemState := rfl }
    exact ⟨⟨same, hFirst, hSecond⟩, rfl⟩

theorem Twins.shadowStep (twins : Twins first.db second.db) {step : ObservedStep}
    (hShadow : step.isPaper = false) :
    Twins first.db (Testnet.handleObservedStep service second step).db := by
  have hSecond := twins.second.handleObservedStep service step
  cases step with
  | pipeline call => cases hShadow
  | market marketFeeds systemState => cases hShadow
  | shadow call =>
    obtain ⟨signals, riskDecisions, hDb⟩ := runTestnetShadowOnce_writes service second call
    have same := twins.same.tables first.db.signals signals first.db.riskDecisions riskDecisions
    rw [← hDb] at same
    exact ⟨same, twins.first, hSecond⟩

end Steps

/-- In every run whose calls read back rows of the same verdict, the shadow
runs change neither the decision of a call nor the orders. -/
theorem shadow_leaves_paper_undisturbed (service : Service) (desk : Desk)
    (steps : List ObservedStep) (kept : PaperKept desk.db)
    (hFresh : Along (observedTwins service) DrawsFreshIds (desk, desk) steps)
    (hUndisturbed : Along (observedTwins service) UndisturbedStep (desk, desk) steps) :
    paperDecisions service desk (withoutShadow steps) = paperDecisions service desk steps ∧
      List.Forall₂ SameOrder
        (run (handleObservedStep service) desk (withoutShadow steps)).db.orders.rows
        (run (handleObservedStep service) desk steps).db.orders.rows := by
  have hSteps : Along (observedTwins service)
      (fun desks step => DrawsFreshIds desks step ∧ UndisturbedStep desks step) (desk, desk) steps :=
    (along_and (desk, desk) steps).mpr ⟨hFresh, hUndisturbed⟩
  obtain ⟨twins, hDecisions⟩ := unwinding paperDecision
    (R := fun first second => Twins first.db second.db)
    (fun _ _ _ twins hPaper hStep => twins.paperStep hStep.1 hStep.2 hPaper)
    (fun _ _ _ twins hShadow => twins.shadowStep hShadow)
    ⟨SamePaper.refl desk.db, kept, kept⟩ hSteps
  exact ⟨hDecisions, twins.same.orders⟩

/-- A shadow run on the candles of `momentumCall`, at their last close. -/
def momentumShadow (symbol : Symbol) : ShadowCall where
  request := {
    strategyId := "momentum_v1", symbol := symbol.text, timeframe := "1m", correlationId := none }
  ids := ⟨⟨50⟩, ⟨51⟩, ⟨52⟩, ⟨53⟩⟩
  now := seconds 180
  exchange := "binance"
  config := (momentumCall symbol 10).config
  rules := evaluateMomentum
  persistedRiskConfig := (momentumCall symbol 10).persistedRiskConfig
  journalOrder := RowOrder.stable newestEntryFirst
  readiness := ⟨(momentumCall symbol 10).candles, none⟩
  latestTick := none
  latestClosedCandle := none

def callAt (second : Nat) : PipelineCall :=
  { momentumCall btcusdt 10 with now := seconds second }

def shadowThenCall (second : Nat) : List ObservedStep :=
  [.shadow (momentumShadow btcusdt), .pipeline (callAt second)]

theorem paperKept_openDesk : PaperKept (openDesk [btcusdt]).db where
  linked := ⟨by simp [openDesk, connectedBooks, Database.empty],
    by simp [openDesk, connectedBooks, Database.empty]⟩
  sound := ⟨List.nodup_nil, by simp [openDesk, connectedBooks, Database.empty]⟩

def afterShadow : Desk :=
  (runTestnetShadowOnce sampleService (openDesk [btcusdt]) (momentumShadow btcusdt)).1

theorem shadowThenCall_fresh (second : Nat) :
    Along (observedTwins sampleService) DrawsFreshIds (openDesk [btcusdt], openDesk [btcusdt])
      (shadowThenCall second) := by
  refine ⟨trivial, ⟨⟨?_, rfl⟩, ?_, Table.find?_eq_none.mpr ?_⟩, trivial⟩
  · intro other hOther
    cases hOther
  · have hIds : ∀ other ∈ afterShadow.db.signals.rows, other.id ≠ ⟨11⟩ := by decide +kernel
    exact hIds
  · have hIds : ∀ decision ∈ afterShadow.db.riskDecisions.rows, decision.id ≠ ⟨12⟩ := by
      decide +kernel
    exact hIds

/-- The signal that the candles of `momentumCall` give at 183 seconds. -/
def signalAt183 : StrategySignal where
  signalId := ⟨11⟩
  strategyId := .momentumV1
  symbol := btcusdt
  side := .buy
  confidence := ⟨65 / 100, by decide +kernel, by decide +kernel⟩
  timeframe := .oneMinute
  reason := .momentumHigherCloses
  suggestedNotional := 1000
  stopLossPct := none
  takeProfitPct := none
  sourceCandleOpenTime := seconds 120
  correlationId := ⟨10⟩
  createdAt := seconds 183

/-- Three seconds after a shadow run the pipeline executes the stored signal
as it would have executed its own. -/
theorem shadow_leaves_paper_undisturbed_sample :
    paperDecisions sampleService (openDesk [btcusdt]) (withoutShadow (shadowThenCall 183)) =
      paperDecisions sampleService (openDesk [btcusdt]) (shadowThenCall 183) := by
  refine (shadow_leaves_paper_undisturbed sampleService (openDesk [btcusdt]) (shadowThenCall 183)
    paperKept_openDesk (shadowThenCall_fresh 183) ⟨trivial, ?_, trivial⟩).1
  intro symbol signal config hStage hConfig _
  have hEvaluated : (evaluateStage afterShadow.db (callAt 183)).toOption.bind (fun stage =>
      match stage with
      | .signalled _ generated => some generated
      | .stopped _ => none) = some signalAt183 := by decide +kernel
  have hSignal : signal = signalAt183 := by
    rw [show evaluateStage afterShadow.db (callAt 183) = _ from hStage] at hEvaluated
    exact Option.some.inj hEvaluated
  cases hConfig
  subst hSignal
  have hOwn : Actionable { RiskConfig.default with cooldownSeconds := 0 } (seconds 183)
      (storedSignal (openDesk [btcusdt]).db (signalRecord signalAt183 (seconds 183))) :=
    ⟨by decide +kernel, by decide +kernel⟩
  have hStored : Actionable { RiskConfig.default with cooldownSeconds := 0 } (seconds 183)
      (storedSignal afterShadow.db (signalRecord signalAt183 (seconds 183))) :=
    ⟨by decide +kernel, by decide +kernel⟩
  have hAmount : (storedSignal (openDesk [btcusdt]).db (signalRecord signalAt183
        (seconds 183))).suggestedNotional =
      (storedSignal afterShadow.db (signalRecord signalAt183
        (seconds 183))).suggestedNotional := by decide +kernel
  exact ⟨⟨fun _ => hStored, fun _ => hOwn⟩, fun _ => hAmount⟩

/-- Ten seconds after a shadow run the pipeline finds the signal too old,
where it would have created an order. -/
theorem shadow_run_stops_paper_order :
    ¬∀ (service : Service) (desk : Desk) (steps : List ObservedStep), PaperKept desk.db →
      Along (observedTwins service) DrawsFreshIds (desk, desk) steps →
      paperDecisions service desk (withoutShadow steps) = paperDecisions service desk steps ∧
        List.Forall₂ SameOrder
          (run (handleObservedStep service) desk (withoutShadow steps)).db.orders.rows
          (run (handleObservedStep service) desk steps).db.orders.rows := by
  intro hUndisturbed
  have hSame := (hUndisturbed sampleService (openDesk [btcusdt]) (shadowThenCall 190)
    paperKept_openDesk (shadowThenCall_fresh 190)).1
  have hAlone : paperDecisions sampleService (openDesk [btcusdt])
      (withoutShadow (shadowThenCall 190)) = [some .paperOrderCreated] := by decide +kernel
  have hObserved : paperDecisions sampleService (openDesk [btcusdt]) (shadowThenCall 190) =
      [some .riskRejected] := by decide +kernel
  rw [hAlone, hObserved] at hSame
  revert hSame
  decide

end AegisQuant.Testnet
