import AegisQuant.Experiment.Overrides

/-! The windows of a walk-forward run. Each is a span to train on and the span
after it to test on. The windows start one step after another, for as long as
their tests end in time. -/
namespace AegisQuant.Experiment
open Fallible List

def StrategyWalkForwardRequest.validate (request : StrategyWalkForwardRequest) :
    Except CoreError Unit :=
  if trim request.strategyId = "" then .error .emptyStrategyWalkForwardStrategyId
  else if trim request.symbol = "" then .error .emptyStrategyWalkForwardSymbol
  else if trim request.timeframe = "" then .error .emptyStrategyWalkForwardTimeframe
  else if request.endTime ≤ request.startTime then .error .invalidStrategyWalkForwardTimeRange
  else if request.windowTrainSizeHours < 0 then
    .error (.invalidStrategyWalkForwardWindowSize "window_train_size_hours")
  else if request.windowTestSizeHours ≤ 0 then
    .error (.invalidStrategyWalkForwardWindowSize "window_test_size_hours")
  else if request.stepSizeHours ≤ 0 then .error .invalidStrategyWalkForwardStepSize
  else if request.initialCapital ≤ 0 then .error .invalidStrategyWalkForwardInitialCapital
  else if request.feeBps < 0 then .error (.invalidBacktestBps "fee_bps")
  else if request.slippageBps < 0 then .error (.invalidBacktestBps "slippage_bps")
  else if request.candidateConfig.lookbackCandles = 0 ∧ request.config.isNone ∧
      request.experimentRunId.isNone then
    .error .emptyStrategyWalkForwardCandidateLookback
  else if request.candidateConfig.holdingCandles = some 0 then .error .invalidHoldingCandles
  else do
    checkMaxSignalAge request.candidateConfig.maxSignalAgeMs
    if request.minRequiredTestWindows = some 0 then
      .error .invalidStrategyWalkForwardMinRequiredWindows
    else
      let _ ← CandleInterval.fromStr request.timeframe
      .ok ()

structure StrategyWalkForwardWindow where
  windowIndex : Nat
  trainStart : DateTime
  trainEnd : DateTime
  testStart : DateTime
  testEnd : DateTime
  deriving DecidableEq

section Windows
variable (request : StrategyWalkForwardRequest)

def trainSize : Int := DateTime.seconds (3600 * request.windowTrainSizeHours)

def testSize : Int := DateTime.seconds (3600 * request.windowTestSizeHours)

def stepSize : Int := DateTime.seconds (3600 * request.stepSizeHours)

/-- The loop over the windows, none when it is given fewer passes than it
makes. -/
def walkForwardLoop : Nat → DateTime → Nat → List StrategyWalkForwardWindow →
    Option (List StrategyWalkForwardWindow)
  | 0, _, _, _ => none
  | passes + 1, trainStart, windowIndex, windows =>
    let trainEnd := trainStart + trainSize request
    let testStart := trainEnd
    let testEnd := testStart + testSize request
    if testEnd > request.endTime then some windows
    else
      walkForwardLoop passes (trainStart + stepSize request) (windowIndex + 1)
        (windows ++ [⟨windowIndex, trainStart, trainEnd, testStart, testEnd⟩])

def generateWalkForwardWindows (passes : Nat) : Option (List StrategyWalkForwardWindow) :=
  walkForwardLoop request passes request.startTime 0 []

end Windows

def candlesForRange (candles : List Candle) (startTime endTime : DateTime) : List Candle :=
  candles.filter fun candle => candle.openTime ≥ startTime && candle.openTime < endTime

section Loop
variable {request : StrategyWalkForwardRequest}

/-- The window that starts a number of steps after the first one. -/
def windowAt (request : StrategyWalkForwardRequest) (index : Nat) : StrategyWalkForwardWindow where
  windowIndex := index
  trainStart := request.startTime + index * stepSize request
  trainEnd := request.startTime + index * stepSize request + trainSize request
  testStart := request.startTime + index * stepSize request + trainSize request
  testEnd := request.startTime + index * stepSize request + trainSize request + testSize request

/-- The windows are the first ones, and the next one would end too late. -/
structure AllWindows (request : StrategyWalkForwardRequest)
    (windows : List StrategyWalkForwardWindow) : Prop where
  consecutive : windows = (range windows.length).map (windowAt request)
  inTime : ∀ window ∈ windows, window.testEnd ≤ request.endTime
  maximal : request.endTime < (windowAt request windows.length).testEnd

theorem walkForwardLoop_succ (passes index : Nat) :
    walkForwardLoop request (passes + 1) (request.startTime + index * stepSize request) index
        ((range index).map (windowAt request)) =
      if request.endTime < (windowAt request index).testEnd then
        some ((range index).map (windowAt request))
      else walkForwardLoop request passes (request.startTime + (index + 1 : Nat) * stepSize request)
        (index + 1) ((range (index + 1)).map (windowAt request)) := by
  have hNext : request.startTime + (index + 1 : Nat) * stepSize request =
      request.startTime + index * stepSize request + stepSize request := by
    rw [Nat.cast_succ, add_mul, one_mul, add_assoc]
  rw [hNext, range_succ, map_append]
  rfl

/-- More passes than the loop makes do not change what it finds. -/
theorem walkForwardLoop_mono {passes more : Nat} (hMore : passes ≤ more) {trainStart : DateTime}
    {index : Nat} {found windows : List StrategyWalkForwardWindow}
    (hLoop : walkForwardLoop request passes trainStart index found = some windows) :
    walkForwardLoop request more trainStart index found = some windows := by
  induction passes generalizing more trainStart index found with
  | zero => cases hLoop
  | succ passes ih =>
    obtain ⟨more, rfl⟩ := Nat.exists_eq_succ_of_ne_zero (Nat.ne_zero_of_lt hMore)
    rw [walkForwardLoop] at hLoop ⊢
    split
    · rename_i hLate
      rw [if_pos hLate] at hLoop
      exact hLoop
    · rename_i hInTime
      rw [if_neg hInTime] at hLoop
      exact ih (Nat.le_of_succ_le_succ hMore) hLoop

theorem allWindows_range {count : Nat}
    (hInTime : ∀ index < count, (windowAt request index).testEnd ≤ request.endTime)
    (hLate : request.endTime < (windowAt request count).testEnd) :
    AllWindows request ((range count).map (windowAt request)) := by
  have hLength : ((range count).map (windowAt request)).length = count := by simp
  refine ⟨by rw [hLength], ?_, by rwa [hLength]⟩
  intro window hWindow
  obtain ⟨index, hIndex, rfl⟩ := mem_map.mp hWindow
  exact hInTime index (mem_range.mp hIndex)

theorem walkForwardLoop_ends {passes index : Nat}
    (hInTime : ∀ earlier < index, (windowAt request earlier).testEnd ≤ request.endTime)
    (hPasses : request.endTime < (windowAt request (index + passes)).testEnd) :
    ∃ windows, walkForwardLoop request (passes + 1) (request.startTime + index * stepSize request)
        index ((range index).map (windowAt request)) = some windows ∧
      AllWindows request windows := by
  induction passes generalizing index with
  | zero =>
    rw [walkForwardLoop_succ, if_pos (show _ < (windowAt request index).testEnd from hPasses)]
    exact ⟨_, rfl, allWindows_range hInTime hPasses⟩
  | succ passes ih =>
    rw [walkForwardLoop_succ]
    split
    · rename_i hLate
      exact ⟨_, rfl, allWindows_range hInTime hLate⟩
    · rename_i hNext
      refine ih ?_ ?_
      · intro earlier hEarlier
        rcases Nat.lt_succ_iff_lt_or_eq.mp hEarlier with hBefore | rfl
        · exact hInTime earlier hBefore
        · exact not_lt.mp hNext
      · rwa [Nat.add_right_comm]

theorem le_add_toNat_mul (start finish : Int) {step : Int} (hStep : 0 < step) :
    finish ≤ start + (finish - start).toNat * step := by
  have hReach : finish - start ≤ (finish - start).toNat * 1 := by omega
  have hSteps : ((finish - start).toNat : Int) * 1 ≤ (finish - start).toNat * step :=
    Int.mul_le_mul_of_nonneg_left hStep (Int.natCast_nonneg _)
  omega

/-- The spans of an accepted request. -/
structure PassedWalkForwardChecks (request : StrategyWalkForwardRequest) : Prop where
  trainSize : 0 ≤ trainSize request
  testSize : 0 < testSize request
  stepSize : 0 < stepSize request
  minRequired : request.minRequiredTestWindows ≠ some 0

theorem passedWalkForwardChecks_of_validate (hValid : request.validate = .ok ()) :
    PassedWalkForwardChecks request := by
  unfold StrategyWalkForwardRequest.validate at hValid
  obtain ⟨-, hValid⟩ := error_else_eq_ok.mp hValid
  obtain ⟨-, hValid⟩ := error_else_eq_ok.mp hValid
  obtain ⟨-, hValid⟩ := error_else_eq_ok.mp hValid
  obtain ⟨-, hValid⟩ := error_else_eq_ok.mp hValid
  obtain ⟨hTrain, hValid⟩ := error_else_eq_ok.mp hValid
  obtain ⟨hTest, hValid⟩ := error_else_eq_ok.mp hValid
  obtain ⟨hStep, hValid⟩ := error_else_eq_ok.mp hValid
  obtain ⟨-, hValid⟩ := error_else_eq_ok.mp hValid
  obtain ⟨-, hValid⟩ := error_else_eq_ok.mp hValid
  obtain ⟨-, hValid⟩ := error_else_eq_ok.mp hValid
  obtain ⟨-, hValid⟩ := error_else_eq_ok.mp hValid
  obtain ⟨-, hValid⟩ := error_else_eq_ok.mp hValid
  obtain ⟨_, -, hValid⟩ := bind_eq_ok.mp hValid
  obtain ⟨hRequired, -⟩ := error_else_eq_ok.mp hValid
  refine ⟨?_, ?_, ?_, hRequired⟩
  · simp only [Experiment.trainSize, DateTime.seconds]
    omega
  · simp only [Experiment.testSize, DateTime.seconds]
    omega
  · simp only [Experiment.stepSize, DateTime.seconds]
    omega

end Loop

/-- What the windows of a request are. -/
structure WalksForward (request : StrategyWalkForwardRequest)
    (windows : List StrategyWalkForwardWindow) : Prop where
  indices : windows.map (·.windowIndex) = range windows.length
  trainStart : ∀ window ∈ windows,
    window.trainStart = request.startTime + window.windowIndex * stepSize request
  trainEnd : ∀ window ∈ windows, window.trainEnd = window.trainStart + trainSize request
  testStart : ∀ window ∈ windows, window.testStart = window.trainEnd
  testEnd : ∀ window ∈ windows,
    window.testEnd = window.testStart + testSize request ∧ window.testEnd ≤ request.endTime
  maximal : request.endTime < request.startTime + windows.length * stepSize request +
    trainSize request + testSize request
  noLeak : ∀ window ∈ windows, ∀ candles : List Candle,
    ∀ train ∈ candlesForRange candles window.trainStart window.trainEnd,
    ∀ test ∈ candlesForRange candles window.testStart window.testEnd, train.openTime < test.openTime
  disjoint : ∀ window ∈ windows, ∀ candles : List Candle,
    (candlesForRange candles window.trainStart window.trainEnd).Disjoint
      (candlesForRange candles window.testStart window.testEnd)

section WalkForward
variable {request : StrategyWalkForwardRequest}

theorem openTime_lt_of_ranges {candles : List Candle} {startTime middle endTime : DateTime}
    {train test : Candle} (hTrain : train ∈ candlesForRange candles startTime middle)
    (hTest : test ∈ candlesForRange candles middle endTime) : train.openTime < test.openTime := by
  simp only [candlesForRange, mem_filter, Bool.and_eq_true, decide_eq_true_eq] at hTrain hTest
  exact lt_of_lt_of_le hTrain.2.2 hTest.2.1

theorem walksForward_of_allWindows {windows : List StrategyWalkForwardWindow}
    (all : AllWindows request windows) : WalksForward request windows := by
  obtain ⟨hConsecutive, hInTime, hMaximal⟩ := all
  have hAt (window : StrategyWalkForwardWindow) (hWindow : window ∈ windows) :
      ∃ index, window = windowAt request index := by
    rw [hConsecutive] at hWindow
    obtain ⟨index, -, rfl⟩ := mem_map.mp hWindow
    exact ⟨index, rfl⟩
  have hMeet (window : StrategyWalkForwardWindow) (hWindow : window ∈ windows) :
      window.testStart = window.trainEnd := by
    obtain ⟨index, rfl⟩ := hAt window hWindow
    rfl
  have hBefore (window : StrategyWalkForwardWindow) (hWindow : window ∈ windows)
      (candles : List Candle) (train : Candle)
      (hTrain : train ∈ candlesForRange candles window.trainStart window.trainEnd) (test : Candle)
      (hTest : test ∈ candlesForRange candles window.testStart window.testEnd) :
      train.openTime < test.openTime := by
    rw [hMeet window hWindow] at hTest
    exact openTime_lt_of_ranges hTrain hTest
  constructor
  · calc windows.map (·.windowIndex)
        = ((range windows.length).map (windowAt request)).map (·.windowIndex) := by
          rw [← hConsecutive]
      _ = List.range windows.length := by
          rw [List.map_map]
          exact map_id _
  · intro window hWindow
    obtain ⟨index, rfl⟩ := hAt window hWindow
    rfl
  · intro window hWindow
    obtain ⟨index, rfl⟩ := hAt window hWindow
    rfl
  · exact hMeet
  · intro window hWindow
    refine ⟨?_, hInTime window hWindow⟩
    obtain ⟨index, rfl⟩ := hAt window hWindow
    rfl
  · exact hMaximal
  · exact hBefore
  · intro window hWindow candles candle hTrain hTest
    exact lt_irrefl _ (hBefore window hWindow candles candle hTrain candle hTest)

/-- The windows of an accepted request are found after finitely many passes, and
walk forward through its time without a look at what they are tested on. -/
theorem generateWalkForwardWindows_walksForward (hValid : request.validate = .ok ()) :
    ∃ windows, (∃ passes, ∀ more ≥ passes, generateWalkForwardWindows request more = some windows) ∧
      WalksForward request windows := by
  obtain ⟨hTrain, hTest, hStep, -⟩ := passedWalkForwardChecks_of_validate hValid
  have hReach := le_add_toNat_mul request.startTime request.endTime hStep
  have hPasses : request.endTime <
      (windowAt request (0 + (request.endTime - request.startTime).toNat)).testEnd := by
    rw [Nat.zero_add]
    change _ < request.startTime + _ * stepSize request + trainSize request + testSize request
    linarith
  have hNone : ∀ earlier < 0, (windowAt request earlier).testEnd ≤ request.endTime := by nofun
  obtain ⟨windows, hLoop, hWindows⟩ := walkForwardLoop_ends hNone hPasses
  refine ⟨windows, ⟨(request.endTime - request.startTime).toNat + 1, ?_⟩,
    walksForward_of_allWindows hWindows⟩
  intro more hMore
  have hStart : request.startTime + (0 : Nat) * stepSize request = request.startTime := by simp
  rw [hStart] at hLoop
  exact walkForwardLoop_mono hMore hLoop

end WalkForward

theorem generateWalkForwardWindows_sample : ∃ windows,
    (∃ passes, ∀ more ≥ passes, generateWalkForwardWindows sampleWalkForward more = some windows) ∧
      WalksForward sampleWalkForward windows :=
  generateWalkForwardWindows_walksForward (by decide +kernel)

example : (generateWalkForwardWindows sampleWalkForward 4).map length = some 3 := by
  decide +kernel

end AegisQuant.Experiment
