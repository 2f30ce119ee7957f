import AegisQuant.Library.RangeQuery
import AegisQuant.Market.Backfill
import Mathlib.Data.List.Destutter

/-! The history of derivatives that is fetched for a window. Funding rates are
fetched page by page. Open interest and positioning are fetched with one query,
which leaves out what does not fit into its answer. -/
namespace AegisQuant.Market
open Fallible SortByKey List Option DateTime RangeQuery

def millisToUtc (value : Int) : Except String DateTime :=
  ofOption (timestampMillisOpt value) ("invalid millisecond timestamp " ++ toString value)

section Rows
variable (fromStr : String → Option Decimal)

def parseDecimal (value field : String) : Except String Decimal :=
  ofOption (fromStr value) ("invalid decimal field " ++ field ++ ": " ++ value)

def parseOptionalDecimal (value : Option String) (field : String) :
    Except String (Option Decimal) :=
  match (value.map trim).filter (· ≠ "") with
  | none => .ok none
  | some raw => do return some (← parseDecimal fromStr raw field)

structure BinanceFundingRateRow where
  symbol : String
  fundingTime : Int
  fundingRate : String
  markPrice : Option String

structure DerivativesFundingRateInput where
  exchange : String
  symbol : String
  fundingTime : DateTime
  fundingRate : Decimal
  markPrice : Option Decimal
  fetchedAt : DateTime
  rawPayload : BinanceFundingRateRow

def BinanceFundingRateRow.intoInput (fetchedAt : DateTime) (row : BinanceFundingRateRow) :
    Except String DerivativesFundingRateInput := do
  return {
    exchange := "binance"
    symbol := normalizeSymbol row.symbol
    fundingTime := ← millisToUtc row.fundingTime
    fundingRate := ← parseDecimal fromStr row.fundingRate "fundingRate"
    markPrice := ← parseOptionalDecimal fromStr row.markPrice "markPrice"
    fetchedAt := fetchedAt
    rawPayload := row }

structure BinanceOpenInterestHistoryRow where
  symbol : String
  sumOpenInterest : String
  sumOpenInterestValue : Option String
  timestamp : Int

structure DerivativesOpenInterestInput where
  exchange : String
  symbol : String
  period : String
  timestamp : DateTime
  openInterest : Decimal
  openInterestValue : Option Decimal
  fetchedAt : DateTime
  rawPayload : BinanceOpenInterestHistoryRow

def BinanceOpenInterestHistoryRow.intoInput (period : String) (fetchedAt : DateTime)
    (row : BinanceOpenInterestHistoryRow) : Except String DerivativesOpenInterestInput := do
  return {
    exchange := "binance"
    symbol := normalizeSymbol row.symbol
    period := period
    timestamp := ← millisToUtc row.timestamp
    openInterest := ← parseDecimal fromStr row.sumOpenInterest "sumOpenInterest"
    openInterestValue :=
      ← parseOptionalDecimal fromStr row.sumOpenInterestValue "sumOpenInterestValue"
    fetchedAt := fetchedAt
    rawPayload := row }

structure BinanceLongShortRatioRow where
  symbol : String
  longShortRatio : String
  longAccount : String
  shortAccount : String
  timestamp : Int

structure BinanceTakerBuySellRow where
  buySellRatio : String
  buyVol : String
  sellVol : String
  timestamp : Int

structure DerivativesPositioningInput where
  exchange : String
  symbol : String
  metric : String
  period : String
  timestamp : DateTime
  longShortRatio : Option Decimal
  longAccount : Option Decimal
  shortAccount : Option Decimal
  buySellRatio : Option Decimal
  buyVol : Option Decimal
  sellVol : Option Decimal
  fetchedAt : DateTime
  rawPayload : BinanceLongShortRatioRow ⊕ BinanceTakerBuySellRow

def BinanceLongShortRatioRow.intoInput (period : String) (fetchedAt : DateTime)
    (row : BinanceLongShortRatioRow) : Except String DerivativesPositioningInput := do
  return {
    exchange := "binance"
    symbol := normalizeSymbol row.symbol
    metric := "global-long-short"
    period := period
    timestamp := ← millisToUtc row.timestamp
    longShortRatio := some (← parseDecimal fromStr row.longShortRatio "longShortRatio")
    longAccount := some (← parseDecimal fromStr row.longAccount "longAccount")
    shortAccount := some (← parseDecimal fromStr row.shortAccount "shortAccount")
    buySellRatio := none
    buyVol := none
    sellVol := none
    fetchedAt := fetchedAt
    rawPayload := .inl row }

def BinanceTakerBuySellRow.intoInput (symbol period : String) (fetchedAt : DateTime)
    (row : BinanceTakerBuySellRow) : Except String DerivativesPositioningInput := do
  return {
    exchange := "binance"
    symbol := normalizeSymbol symbol
    metric := "taker-buy-sell"
    period := period
    timestamp := ← millisToUtc row.timestamp
    longShortRatio := none
    longAccount := none
    shortAccount := none
    buySellRatio := some (← parseDecimal fromStr row.buySellRatio "buySellRatio")
    buyVol := some (← parseDecimal fromStr row.buyVol "buyVol")
    sellVol := some (← parseDecimal fromStr row.sellVol "sellVol")
    fetchedAt := fetchedAt
    rawPayload := .inr row }

end Rows

open BinanceFundingRateRow

open BinanceOpenInterestHistoryRow

/-- What the endpoints hold for a symbol, and a period. -/
structure FuturesHistory where
  fundingRate : String → RangeQuery.Source fundingTime
  openInterestHist : String → String → RangeQuery.Source timestamp
  globalLongShortAccountRatio :
    String → String → RangeQuery.Source BinanceLongShortRatioRow.timestamp
  takerlongshortRatio : String → String → RangeQuery.Source BinanceTakerBuySellRow.timestamp

def fundingLimit : Nat := 1000

def derivativesDataLimit : Nat := 500

section Fetch
variable (fromStr : String → Option Decimal) (history : FuturesHistory)
  (clock : DateTime → DateTime)

section Funding
variable (source : RangeQuery.Source fundingTime)
  (startTime endTime : DateTime)

/-- A row of a page, with the latest time so far. -/
def fundingItem (fetchedAt : DateTime) (page : DateTime × List DerivativesFundingRateInput)
    (item : BinanceFundingRateRow) :
    Except String (DateTime × List DerivativesFundingRateInput) := do
  let fundingTime ← millisToUtc item.fundingTime
  if fundingTime < startTime ∨ endTime < fundingTime then return page
  else return (max page.1 fundingTime, page.2 ++ [← item.intoInput fromStr fetchedAt])

/-- The pages from a cursor on; `clock` tells when the page of a cursor is
there. -/
def fundingPages (cursor : DateTime) (rows : List DerivativesFundingRateInput) :
    Except String (List DerivativesFundingRateInput) :=
  if cursor ≤ endTime then
    let page := source.answer cursor.timestampMillis endTime.timestampMillis fundingLimit
    if page.isEmpty then .ok rows
    else
      match page.foldlM (fundingItem fromStr startTime endTime (clock cursor)) (cursor, rows) with
      | .error error => .error error
      | .ok (maxTime, rows) =>
        let nextCursor := maxTime + milliseconds 1
        if nextCursor ≤ cursor then .ok rows else fundingPages nextCursor rows
  else .ok rows
termination_by (endTime + 1 - cursor).toNat
decreasing_by
  rename_i hRoom _ hNext
  simpa using And.intro (not_le.mp hNext) (Int.lt_add_one_of_le hRoom)

end Funding

def fetchFundingRateHistory (symbol : String) (startTime endTime : DateTime) :
    Except String (List DerivativesFundingRateInput) :=
  if endTime ≤ startTime then .error "end_time must be after start_time"
  else do
    let rows ← fundingPages fromStr clock (history.fundingRate (normalizeSymbol symbol)) startTime
      endTime startTime []
    return (sort (·.fundingTime) rows).destutter fun left right =>
      ¬(left.exchange = right.exchange ∧ left.symbol = right.symbol ∧
        left.fundingTime = right.fundingTime)

/-- What an endpoint answers to one query for a window. -/
def fetchOnce {Row Input : Type} {time : Row → Int} (source : RangeQuery.Source time)
    (convert : DateTime → Row → Except String Input) (startTime endTime : DateTime) :
    Except String (List Input) :=
  (source.answer startTime.timestampMillis endTime.timestampMillis derivativesDataLimit).mapM
    (convert (clock startTime))

def fetchOpenInterestHistory (symbol period : String) (startTime endTime : DateTime) :
    Except String (List DerivativesOpenInterestInput) :=
  fetchOnce clock (history.openInterestHist (normalizeSymbol symbol) period)
    (intoInput fromStr period) startTime endTime

/-- Each endpoint is asked for its own metric. -/
def fetchPositioning (symbol metric period : String) (startTime endTime : DateTime) :
    Except String (List DerivativesPositioningInput) :=
  match metric with
  | "global-long-short" =>
    fetchOnce clock (history.globalLongShortAccountRatio (normalizeSymbol symbol) period)
      (BinanceLongShortRatioRow.intoInput fromStr period) startTime endTime
  | "taker-buy-sell" =>
    fetchOnce clock (history.takerlongshortRatio (normalizeSymbol symbol) period)
      (BinanceTakerBuySellRow.intoInput fromStr (normalizeSymbol symbol) period) startTime endTime
  | other => .error ("unsupported positioning metric " ++ other)

/-- Every row can be converted: its values are numbers and its time lies in the
range that can be represented. -/
def Readable {Row Input : Type} {time : Row → Int} (source : RangeQuery.Source time)
    (convert : DateTime → Row → Except String Input) : Prop :=
  ∀ fetchedAt, ∀ row ∈ source.rows, ∃ input, convert fetchedAt row = .ok input

structure ReadableHistory : Prop where
  fundingRate : ∀ symbol, Readable (history.fundingRate symbol)
    (intoInput fromStr)
  openInterestHist : ∀ symbol period, Readable (history.openInterestHist symbol period)
    (intoInput fromStr period)
  globalLongShortAccountRatio : ∀ symbol period,
    Readable (history.globalLongShortAccountRatio symbol period)
      (BinanceLongShortRatioRow.intoInput fromStr period)
  takerlongshortRatio : ∀ symbol period, Readable (history.takerlongshortRatio symbol period)
    (BinanceTakerBuySellRow.intoInput fromStr symbol period)

end Fetch

section Returned
variable {Row Input : Type} {time : Row → Int} {source : RangeQuery.Source time}
  {startMs endMs : Int} {convert : DateTime → Row → Except String Input}
  {clock : DateTime → DateTime}

/-- The inputs are those of the rows, in their order. -/
def Converted (convert : DateTime → Row → Except String Input) (rows : List Row)
    (inputs : List Input) : Prop :=
  List.Forall₂ (fun row input => ∃ fetchedAt, convert fetchedAt row = .ok input) rows inputs

/-- A fetch ends and returns the rows of a window, each of them once. -/
def ReturnsAll (convert : DateTime → Row → Except String Input) (rows : List Row)
    (result : Except String (List Input)) : Prop :=
  ∃ inputs, result = .ok inputs ∧ Converted convert rows inputs

theorem exists_mapM {rows : List Row} {fetchedAt : DateTime}
    (hReadable : ∀ row ∈ rows, ∃ input, convert fetchedAt row = .ok input) :
    ∃ inputs, rows.mapM (convert fetchedAt) = .ok inputs ∧ Converted convert rows inputs := by
  induction rows with
  | nil => exact ⟨[], rfl, .nil⟩
  | cons row rest ih =>
    obtain ⟨⟨input, hInput⟩, hRest⟩ := forall_mem_cons.mp hReadable
    obtain ⟨inputs, hInputs, hAll⟩ := ih hRest
    refine ⟨input :: inputs, ?_, .cons ⟨fetchedAt, hInput⟩ hAll⟩
    rw [mapM_cons, hInput, ok_bind, hInputs]
    rfl

theorem timestampMillis_milliseconds (count : Int) : timestampMillis (milliseconds count) = count :=
  Int.mul_ediv_cancel _ (by decide)

theorem returnsAll_fetchOnce_iff (hReadable : Readable source convert) :
    ReturnsAll convert (source.window startMs endMs)
        (fetchOnce clock source convert (.milliseconds startMs) (.milliseconds endMs)) ↔
      (source.window startMs endMs).length ≤ derivativesDataLimit := by
  rw [fetchOnce, timestampMillis_milliseconds, timestampMillis_milliseconds, ← answer_eq_window_iff]
  have hAnswer : ∀ row ∈ source.answer startMs endMs derivativesDataLimit,
      ∃ input, convert (clock (.milliseconds startMs)) row = .ok input := fun row hRow =>
    hReadable _ row (mem_window.mp (mem_of_mem_answer hRow)).1
  obtain ⟨inputs, hInputs, hAll⟩ := exists_mapM hAnswer
  constructor
  · rintro ⟨others, hOthers, hOtherAll⟩
    cases hInputs.symm.trans hOthers
    apply (take_sublist _ _).eq_of_length
    exact hAll.length_eq.trans hOtherAll.length_eq.symm
  · intro hWhole
    rw [hWhole] at hAll
    exact ⟨inputs, hInputs, hAll⟩

end Returned

section Pages
variable {fromStr : String → Option Decimal} {clock : DateTime → DateTime}
  {source : RangeQuery.Source fundingTime} {startMs endMs : Int}

theorem milliseconds_lt_milliseconds {first second : Int} :
    milliseconds first < milliseconds second ↔ first < second :=
  Int.mul_lt_mul_right (by decide)

theorem intoInput_ok {row : BinanceFundingRateRow} {fetchedAt : DateTime}
    {input : DerivativesFundingRateInput} (hInput : row.intoInput fromStr fetchedAt = .ok input) :
    millisToUtc row.fundingTime = .ok (milliseconds row.fundingTime) ∧
      input.fundingTime = milliseconds row.fundingTime := by
  obtain ⟨fundingTime, hTime, hInput⟩ := bind_eq_ok.mp hInput
  obtain ⟨_, -, hInput⟩ := bind_eq_ok.mp hInput
  obtain ⟨_, -, hInput⟩ := bind_eq_ok.mp hInput
  have hSame : fundingTime = milliseconds row.fundingTime := by
    rw [millisToUtc, ofOption_eq_ok, timestampMillisOpt] at hTime
    split at hTime
    · exact (some.inj hTime).symm
    · cases hTime
  rw [← pure_eq_ok.mp hInput]
  exact ⟨hSame ▸ hTime, hSame⟩

/-- A page of rows within the window is taken over, and its latest time is that
of its last row. -/
theorem foldlM_fundingItem {fetchedAt : DateTime} {items : List BinanceFundingRateRow} {maxMs : Int}
    {rows : List DerivativesFundingRateInput}
    (hIncreasing : items.Pairwise fun earlier later => earlier.fundingTime < later.fundingTime)
    (hWithin : ∀ item ∈ items, startMs ≤ item.fundingTime ∧ item.fundingTime ≤ endMs ∧
      maxMs ≤ item.fundingTime)
    (hReadable : ∀ item ∈ items, ∃ input, item.intoInput fromStr fetchedAt = .ok input) :
    ∃ inputs, items.foldlM (fundingItem fromStr (.milliseconds startMs) (.milliseconds endMs)
        fetchedAt) (milliseconds maxMs, rows) =
          .ok (milliseconds ((items.getLast?.map (·.fundingTime)).getD maxMs), rows ++ inputs) ∧
      Converted (intoInput fromStr) items inputs := by
  induction items generalizing maxMs rows with
  | nil => exact ⟨[], by simp; rfl, .nil⟩
  | cons item rest ih =>
    obtain ⟨hLater, hRest⟩ := pairwise_cons.mp hIncreasing
    obtain ⟨⟨hAfter, hBefore, hMax⟩, hRestWithin⟩ := forall_mem_cons.mp hWithin
    obtain ⟨⟨input, hInput⟩, hRestReadable⟩ := forall_mem_cons.mp hReadable
    have hStep : fundingItem fromStr (.milliseconds startMs) (.milliseconds endMs) fetchedAt
        (milliseconds maxMs, rows) item = .ok (milliseconds item.fundingTime, rows ++ [input]) := by
      rw [fundingItem, (intoInput_ok hInput).1, ok_bind, if_neg, hInput, ok_bind,
        max_eq_right (not_lt.mp (mt milliseconds_lt_milliseconds.mp (not_lt.mpr hMax)))]
      · rfl
      · rw [milliseconds_lt_milliseconds, milliseconds_lt_milliseconds]
        omega
    have hRestLater : ∀ other ∈ rest, startMs ≤ other.fundingTime ∧ other.fundingTime ≤ endMs ∧
        item.fundingTime ≤ other.fundingTime := fun other hOther =>
      ⟨(hRestWithin other hOther).1, (hRestWithin other hOther).2.1, (hLater other hOther).le⟩
    obtain ⟨inputs, hInputs, hAll⟩ := @ih _ (rows ++ [input]) hRest hRestLater hRestReadable
    refine ⟨input :: inputs, ?_, .cons ⟨fetchedAt, hInput⟩ hAll⟩
    rw [foldlM_cons, hStep, ok_bind, hInputs, append_assoc, getLast?_cons]
    cases rest.getLast? <;> rfl

theorem fundingPages_of_lt {cursorMs : Int} {rows : List DerivativesFundingRateInput}
    (hEnd : endMs < cursorMs) :
    fundingPages fromStr clock source (.milliseconds startMs) (.milliseconds endMs)
      (.milliseconds cursorMs) rows = .ok rows := by
  rw [fundingPages, if_neg (not_le.mpr (milliseconds_lt_milliseconds.mpr hEnd))]

theorem exists_fundingPages (cursorMs : Int) (rows : List DerivativesFundingRateInput)
    (hReadable : Readable source (intoInput fromStr))
    (hStart : startMs ≤ cursorMs) :
    ∃ inputs, fundingPages fromStr clock source (.milliseconds startMs) (.milliseconds endMs)
        (.milliseconds cursorMs) rows = .ok (rows ++ inputs) ∧
      Converted (intoInput fromStr)
        (source.window cursorMs endMs) inputs := by
  obtain ⟨bound, hBound⟩ : ∃ bound : Nat, endMs + 1 - cursorMs ≤ bound := ⟨_, Int.self_le_toNat _⟩
  induction bound generalizing cursorMs rows with
  | zero =>
    rw [window_eq_nil (by omega), fundingPages_of_lt (by omega)]
    exact ⟨[], by rw [append_nil], .nil⟩
  | succ bound ih =>
    rcases lt_or_ge endMs cursorMs with hEnd | hRoom
    · rw [window_eq_nil hEnd, fundingPages_of_lt hEnd]
      exact ⟨[], by rw [append_nil], .nil⟩
    · have hCursor : milliseconds cursorMs ≤ milliseconds endMs :=
        not_lt.mp (mt milliseconds_lt_milliseconds.mp (not_lt.mpr hRoom))
      rw [fundingPages, if_pos hCursor, timestampMillis_milliseconds, timestampMillis_milliseconds]
      cases hPage : (source.answer cursorMs endMs fundingLimit).getLast? with
      | none =>
        have hNone : source.window cursorMs endMs = [] := by
          have hTaken := getLast?_eq_none_iff.mp hPage
          rw [RangeQuery.Source.answer, take_eq_nil_iff] at hTaken
          exact hTaken.resolve_left (by decide)
        rw [getLast?_eq_none_iff.mp hPage, hNone]
        exact ⟨[], by rw [append_nil]; rfl, .nil⟩
      | some row =>
        have hMem := mem_window.mp
          (mem_of_mem_answer (mem_of_getLast? hPage))
        have hWithin : ∀ item ∈ source.answer cursorMs endMs fundingLimit,
            startMs ≤ item.fundingTime ∧ item.fundingTime ≤ endMs ∧ cursorMs ≤ item.fundingTime := by
          intro item hItem
          have hInWindow := mem_window.mp (mem_of_mem_answer hItem)
          omega
        have hIncreasing : (source.answer cursorMs endMs fundingLimit).Pairwise
            fun earlier later => earlier.fundingTime < later.fundingTime :=
          (pairwise_window source cursorMs endMs).sublist (take_sublist _ _)
        obtain ⟨inputs, hInputs, hAll⟩ := @foldlM_fundingItem _ _ _ _ _ _ rows hIncreasing
          hWithin fun item hItem => hReadable (clock (.milliseconds cursorMs)) item
            (mem_window.mp (mem_of_mem_answer hItem)).1
        obtain ⟨later, hLater, hRest⟩ := ih (row.fundingTime + 1) (rows ++ inputs) (by omega)
          (by omega)
        have hNext : milliseconds row.fundingTime + milliseconds 1 =
            milliseconds (row.fundingTime + 1) := (Int.add_mul _ _ _).symm
        have hSome : (source.answer cursorMs endMs fundingLimit).isEmpty = false :=
          isEmpty_eq_false_iff.mpr fun hNone => by simp [hNone] at hPage
        refine ⟨inputs ++ later, ?_, ?_⟩
        · simp only [hSome, Bool.false_eq_true, if_false, hInputs, hPage, map_some,
            getD_some, hNext]
          rw [if_neg, hLater, append_assoc]
          exact not_le.mpr (milliseconds_lt_milliseconds.mpr (by omega))
        · rw [window_eq_append hPage]
          exact rel_append hAll hRest

/-- Rows in the order of their times are neither moved nor taken for one. -/
theorem dedup_of_converted {rows : List BinanceFundingRateRow}
    {inputs : List DerivativesFundingRateInput}
    (hAll : Converted (intoInput fromStr) rows inputs)
    (hIncreasing : rows.Pairwise fun earlier later => earlier.fundingTime < later.fundingTime) :
    (sort (·.fundingTime) inputs).destutter (fun left right =>
      ¬(left.exchange = right.exchange ∧ left.symbol = right.symbol ∧
        left.fundingTime = right.fundingTime)) = inputs := by
  have hTimes : inputs.map (·.fundingTime) = rows.map (milliseconds ·.fundingTime) := by
    induction hAll with
    | nil => rfl
    | cons hInput _ ih =>
      obtain ⟨_, hInput⟩ := hInput
      rw [map_cons, map_cons, (intoInput_ok hInput).2, ih (pairwise_cons.mp hIncreasing).2]
  have hMapped : (inputs.map (·.fundingTime)).Pairwise (· < ·) := by
    rw [hTimes, pairwise_map]
    exact hIncreasing.imp milliseconds_lt_milliseconds.mpr
  have hStrict := pairwise_map.mp hMapped
  rw [sort_of_pairwise (hStrict.imp le_of_lt)]
  apply destutter_of_isChain
  exact List.Pairwise.isChain (hStrict.imp fun hLater hSame => hLater.ne hSame.2.2)

theorem fetchFundingRateHistory_returnsAll {history : FuturesHistory} (symbol : String)
    (hReadable : ReadableHistory fromStr history) (hWindow : startMs < endMs) :
    ReturnsAll (intoInput fromStr)
      ((history.fundingRate (normalizeSymbol symbol)).window startMs endMs)
      (fetchFundingRateHistory fromStr history clock symbol (.milliseconds startMs)
        (.milliseconds endMs)) := by
  obtain ⟨inputs, hInputs, hAll⟩ := @exists_fundingPages fromStr clock
    (history.fundingRate (normalizeSymbol symbol)) startMs endMs startMs []
    (hReadable.fundingRate _) le_rfl
  refine ⟨inputs, ?_, hAll⟩
  rw [fetchFundingRateHistory, if_neg (not_le.mpr (milliseconds_lt_milliseconds.mpr hWindow)), hInputs,
    ok_bind, nil_append, dedup_of_converted hAll (pairwise_window _ _ _)]
  rfl

end Pages

section Complete
variable (fromStr : String → Option Decimal) (history : FuturesHistory)
  (clock : DateTime → DateTime) (symbol period : String) (startMs endMs : Int)

/-- The fetches of a window end and return every row of it once. -/
structure WindowCovered : Prop where
  fundingRate : ReturnsAll (intoInput fromStr)
    ((history.fundingRate (normalizeSymbol symbol)).window startMs endMs)
    (fetchFundingRateHistory fromStr history clock symbol (.milliseconds startMs)
      (.milliseconds endMs))
  openInterest : ReturnsAll (intoInput fromStr period)
    ((history.openInterestHist (normalizeSymbol symbol) period).window startMs endMs)
    (fetchOpenInterestHistory fromStr history clock symbol period (.milliseconds startMs)
      (.milliseconds endMs))
  globalLongShort : ReturnsAll (BinanceLongShortRatioRow.intoInput fromStr period)
    ((history.globalLongShortAccountRatio (normalizeSymbol symbol) period).window startMs endMs)
    (fetchPositioning fromStr history clock symbol "global-long-short" period
      (.milliseconds startMs) (.milliseconds endMs))
  takerBuySell : ReturnsAll (BinanceTakerBuySellRow.intoInput fromStr (normalizeSymbol symbol) period)
    ((history.takerlongshortRatio (normalizeSymbol symbol) period).window startMs endMs)
    (fetchPositioning fromStr history clock symbol "taker-buy-sell" period
      (.milliseconds startMs) (.milliseconds endMs))

/-- The open interest and the positioning of a window fit into one answer. -/
structure FitsOneAnswer : Prop where
  openInterest : ((history.openInterestHist (normalizeSymbol symbol) period).window startMs
    endMs).length ≤ derivativesDataLimit
  globalLongShort : ((history.globalLongShortAccountRatio (normalizeSymbol symbol) period).window
    startMs endMs).length ≤ derivativesDataLimit
  takerBuySell : ((history.takerlongshortRatio (normalizeSymbol symbol) period).window startMs
    endMs).length ≤ derivativesDataLimit

variable {fromStr history clock symbol period startMs endMs}

/-- The funding rates of a window are always all returned, open interest and
positioning if they fit into one answer. -/
theorem derivatives_window_covered_iff (hReadable : ReadableHistory fromStr history)
    (hWindow : startMs < endMs) :
    WindowCovered fromStr history clock symbol period startMs endMs ↔
      FitsOneAnswer history symbol period startMs endMs := by
  have hOpenInterest := hReadable.openInterestHist (normalizeSymbol symbol) period
  have hLongShort := hReadable.globalLongShortAccountRatio (normalizeSymbol symbol) period
  have hTaker := hReadable.takerlongshortRatio (normalizeSymbol symbol) period
  constructor
  · intro hCovered
    exact ⟨(returnsAll_fetchOnce_iff hOpenInterest).mp hCovered.openInterest,
      (returnsAll_fetchOnce_iff hLongShort).mp hCovered.globalLongShort,
      (returnsAll_fetchOnce_iff hTaker).mp hCovered.takerBuySell⟩
  · intro hFits
    exact ⟨fetchFundingRateHistory_returnsAll symbol hReadable hWindow,
      (returnsAll_fetchOnce_iff hOpenInterest).mpr hFits.openInterest,
      (returnsAll_fetchOnce_iff hLongShort).mpr hFits.globalLongShort,
      (returnsAll_fetchOnce_iff hTaker).mpr hFits.takerBuySell⟩

end Complete

def sampleHistory (count : Nat) : FuturesHistory where
  fundingRate _ := ⟨[], .nil⟩
  openInterestHist _ _ := ⟨(range count).map fun i : Nat => ⟨"BTCUSDT", "1", none, i⟩, by
    rw [pairwise_map]
    exact pairwise_lt_range.imp Int.ofNat_lt.mpr⟩
  globalLongShortAccountRatio _ _ := ⟨[], .nil⟩
  takerlongshortRatio _ _ := ⟨[], .nil⟩

theorem readable_sampleHistory {count : Nat} (hCount : count ≤ 501) :
    ReadableHistory (fun _ => some 1) (sampleHistory count) where
  fundingRate := by simp [Readable, sampleHistory]
  openInterestHist := by
    intro symbol period fetchedAt row hRow
    obtain ⟨i, hIndex, rfl⟩ := mem_map.mp hRow
    have hTime : timestampMillisOpt (i : Int) = some (.milliseconds i) := by
      rw [timestampMillisOpt, if_pos]
      rw [mem_range] at hIndex
      omega
    simp only [BinanceOpenInterestHistoryRow.intoInput, millisToUtc, hTime]
    exact ⟨_, rfl⟩
  globalLongShortAccountRatio := by simp [Readable, sampleHistory]
  takerlongshortRatio := by simp [Readable, sampleHistory]

theorem derivatives_window_covered_sample :
    WindowCovered (fun _ => some 1) (sampleHistory 2) id "BTCUSDT" "4h" 0 500 ↔
      FitsOneAnswer (sampleHistory 2) "BTCUSDT" "4h" 0 500 :=
  derivatives_window_covered_iff (readable_sampleHistory (by decide)) (by decide)

/-- Of 501 rows of open interest, one query returns 500. -/
theorem open_interest_cut_off : ReadableHistory (fun _ => some 1) (sampleHistory 501) ∧
      ¬WindowCovered (fun _ => some 1) (sampleHistory 501) id "BTCUSDT" "4h" 0 500 := by
  have hReadable : ReadableHistory (fun _ => some 1) (sampleHistory 501) :=
    readable_sampleHistory le_rfl
  refine ⟨hReadable, fun hCovered => ?_⟩
  have hFits := (returnsAll_fetchOnce_iff
    (hReadable.openInterestHist (normalizeSymbol "BTCUSDT") "4h")).mp hCovered.openInterest
  exact absurd hFits (by decide +kernel)

end AegisQuant.Market
