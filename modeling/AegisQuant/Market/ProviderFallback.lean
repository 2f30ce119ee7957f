import AegisQuant.Exchange.Reconciliation
import AegisQuant.Library.Failover
import AegisQuant.Market.Backfill
import AegisQuant.Market.BackfillPages

/-! The providers a backfill asks for its klines. Every page is asked of the
preferred base URL first and of the others in their configured order, and every
attempt is recorded. -/
namespace AegisQuant.Market
open Fallible List Failover
open Exchange (contains)

inductive MarketProviderErrorKind where
  | dnsError
  | connectError
  | timeout
  | http4xx
  | http5xx
  | rateLimited
  | parseError
  | emptyResponse
  | unknown
  deriving DecidableEq

structure MarketProviderDiagnostic where
  provider : String
  baseUrl : String
  endpoint : String
  symbol : Option String
  interval : Option String
  startTime : Option DateTime
  endTime : Option DateTime
  httpStatus : Option Nat
  errorKind : MarketProviderErrorKind
  retryable : Bool
  message : String
  recommendation : String
  deriving DecidableEq

structure MarketProviderAttempt where
  provider : String
  baseUrl : String
  endpoint : String
  success : Bool
  latencyMs : Option Nat
  httpStatus : Option Nat
  errorKind : Option MarketProviderErrorKind
  recommendation : Option String
  deriving DecidableEq

def recommendationFor : MarketProviderErrorKind → String
  | .dnsError | .connectError =>
    "Binance public REST is unreachable from this network. Try BINANCE_REST_BASE_URL=https://data-api.binance.vision or run through VPN."
  | .timeout =>
    "Binance public REST timed out from this network. Retry later, use a fallback base URL, or run through VPN."
  | .rateLimited => "Rate limited. Reduce request frequency or retry later."
  | .http5xx =>
    "Binance public REST returned a server error. Retry later or use a configured fallback base URL."
  | .http4xx =>
    "Check the requested symbol, interval, and time window for Binance public market data compatibility."
  | .parseError =>
    "Provider response could not be parsed. Do not trust this backfill until the endpoint and response format are verified."
  | .emptyResponse => "No candles returned for requested window."
  | .unknown =>
    "Provider failure was not classified. Inspect API logs and try a configured fallback base URL."

/-- What a fetch asks for. -/
structure KlineQuery where
  symbol : String
  interval : CandleInterval
  startTime : DateTime
  endTime : DateTime
  limit : Nat

def klinesEndpoint : String := "/api/v3/klines"

def KlineQuery.parameters (query : KlineQuery) : List (String × String) :=
  [("symbol", query.symbol), ("interval", query.interval.asStr),
    ("startTime", toString query.startTime.timestampMillis),
    ("endTime", toString query.endTime.timestampMillis), ("limit", toString query.limit)]

/-- A diagnostic of a fetch, whose symbol, interval and times are given. -/
def providerDiagnostic (baseUrl : String) (query : KlineQuery) (httpStatus : Option Nat)
    (errorKind : MarketProviderErrorKind) (retryable : Bool) (message : String) :
    MarketProviderDiagnostic where
  provider := "binance"
  baseUrl := baseUrl
  endpoint := klinesEndpoint
  symbol := some query.symbol
  interval := some query.interval.asStr
  startTime := some query.startTime
  endTime := some query.endTime
  httpStatus := httpStatus
  errorKind := errorKind
  retryable := retryable
  message := message
  recommendation := recommendationFor errorKind

structure StatusCode where
  code : Nat
  text : String

def StatusCode.isSuccess (status : StatusCode) : Bool := 200 ≤ status.code && status.code < 300

def StatusCode.isClientError (status : StatusCode) : Bool := 400 ≤ status.code && status.code < 500

def StatusCode.isServerError (status : StatusCode) : Bool := 500 ≤ status.code && status.code < 600

def StatusCode.tooManyRequests : Nat := 429

def httpErrorKind (status : StatusCode) : MarketProviderErrorKind :=
  if status.code = StatusCode.tooManyRequests then .rateLimited
  else if status.isClientError then .http4xx
  else if status.isServerError then .http5xx
  else .unknown

structure ReqwestError where
  isTimeout : Bool
  isDecode : Bool
  isConnect : Bool
  status : Option Nat
  text : String

def classifyReqwestErrorKind (err : ReqwestError) : MarketProviderErrorKind :=
  if err.isTimeout then .timeout
  else if err.isDecode then .parseError
  else if err.isConnect then
    let message := toAsciiLowercase err.text
    if contains message "dns" || contains message "name" then .dnsError else .connectError
  else .unknown

def providerDiagnosticFromReqwestError (baseUrl : String) (query : KlineQuery)
    (err : ReqwestError) : MarketProviderDiagnostic :=
  let kind := classifyReqwestErrorKind err
  let retryable := match kind with
    | .dnsError | .connectError | .timeout | .http5xx | .rateLimited | .unknown => true
    | .http4xx | .parseError | .emptyResponse => false
  providerDiagnostic baseUrl query err.status kind retryable err.text

/-- What becomes of a request: the base URL is no URL, no response comes, or
one comes whose body can be read as rows or not. -/
inductive KlineResponse where
  | invalidUrl (error : String)
  | unsent (error : ReqwestError)
  | answered (status : StatusCode) (body : Except String (List BinanceKlineRow)) (latencyMs : Nat)

/-- The outcomes of all requests, by how many attempts were recorded before. -/
abbrev KlineNetwork := Nat → String → List (String × String) → KlineResponse

def fetchKlines (network : KlineNetwork) (query : KlineQuery) (number : Nat) (baseUrl : String) :
    Except MarketProviderDiagnostic (List BinanceKlineRow × MarketProviderAttempt) :=
  match network number baseUrl query.parameters with
  | .invalidUrl error =>
    .error (providerDiagnostic baseUrl query none .connectError false
      ("invalid Binance REST base URL: " ++ error))
  | .unsent error => .error (providerDiagnosticFromReqwestError baseUrl query error)
  | .answered status body latencyMs =>
    if !status.isSuccess then
      .error (providerDiagnostic baseUrl query (some status.code) (httpErrorKind status)
        (status.isServerError || status.code == StatusCode.tooManyRequests)
        ("Binance public REST returned HTTP " ++ status.text))
    else match body with
      | .error error =>
        .error (providerDiagnostic baseUrl query (some status.code) .parseError false
          ("failed to parse Binance kline response: " ++ error))
      | .ok rows =>
        .ok (rows,
          { provider := "binance"
            baseUrl := baseUrl
            endpoint := klinesEndpoint
            success := true
            latencyMs := some latencyMs
            httpStatus := some status.code
            errorKind := none
            recommendation := none })

def attemptFromDiagnostic (diagnostic : MarketProviderDiagnostic) : MarketProviderAttempt where
  provider := diagnostic.provider
  baseUrl := diagnostic.baseUrl
  endpoint := diagnostic.endpoint
  success := false
  latencyMs := none
  httpStatus := diagnostic.httpStatus
  errorKind := some diagnostic.errorKind
  recommendation := some diagnostic.recommendation

def providerBaseUrls (primary : String) (fallbacks : List String) : List String :=
  (primary :: fallbacks).foldl addNew []

def noProvidersConfigured (query : KlineQuery) : MarketProviderDiagnostic :=
  providerDiagnostic "" query none .unknown false "No Binance REST providers were configured."

/-- The loop over the base URLs. A client can be made for every one of them, so
that only the fetch decides how the loop goes on. -/
def tryProviders (network : KlineNetwork) (query : KlineQuery) :
    Option MarketProviderDiagnostic → List MarketProviderAttempt → List String →
      Except MarketProviderDiagnostic (List BinanceKlineRow × String) × List MarketProviderAttempt
  | lastRetryable, attempts, [] =>
    (.error (lastRetryable.getD (noProvidersConfigured query)), attempts)
  | _, attempts, baseUrl :: rest =>
    match fetchKlines network query attempts.length baseUrl with
    | .ok (rows, attempt) => (.ok (rows, baseUrl), attempts ++ [attempt])
    | .error diagnostic =>
      if diagnostic.retryable then
        tryProviders network query (some diagnostic)
          (attempts ++ [attemptFromDiagnostic diagnostic]) rest
      else (.error diagnostic, attempts ++ [attemptFromDiagnostic diagnostic])

def fetchKlinesWithFallback (network : KlineNetwork) (baseUrls : List String)
    (preferredBaseUrl : Option String) (query : KlineQuery)
    (attempts : List MarketProviderAttempt) :
    Except MarketProviderDiagnostic (List BinanceKlineRow × String) × List MarketProviderAttempt :=
  let ordered := baseUrls.foldl addNew preferredBaseUrl.toList
  tryProviders network query none attempts ordered

structure HistoricalCandleBackfillService where
  primaryBaseUrl : String
  fallbackBaseUrls : List String

/-- The work of a page around its fetch, which may stop the run: the event for
a provider other than the primary one, and the storing of the rows. -/
structure BackfillEffects where
  diagnosticText : MarketProviderDiagnostic → String
  publishFallbackUsed : String → Except String Unit
  storePage : Nat → BackfillPageRequest → List BinanceKlineRow → Except String Unit

/-- What stays the same over the pages of a run. -/
structure BackfillRun where
  service : HistoricalCandleBackfillService
  effects : BackfillEffects
  network : KlineNetwork
  symbol : String
  interval : CandleInterval
  limit : Nat

/-- What a run keeps about the providers from page to page. -/
structure ProviderUse where
  attempts : List MarketProviderAttempt
  selectedProvider : Option String

def BackfillRun.pageQuery (run : BackfillRun) (page : BackfillPageRequest) : KlineQuery where
  symbol := run.symbol
  interval := run.interval
  startTime := page.startTime
  endTime := page.endTime
  limit := run.limit

def BackfillRun.selectProvider (run : BackfillRun) (selectedProvider : Option String)
    (baseUrl : String) : Except String (Option String) :=
  if selectedProvider ≠ some baseUrl then
    if baseUrl ≠ run.service.primaryBaseUrl then
      (run.effects.publishFallbackUsed baseUrl).map fun _ => some baseUrl
    else .ok (some baseUrl)
  else .ok selectedProvider

/-- The page after its fetch, with the provider selected in the end. -/
def BackfillRun.finishPage (run : BackfillRun) (index : Nat) (page : BackfillPageRequest)
    (selectedProvider : Option String) :
    Except MarketProviderDiagnostic (List BinanceKlineRow × String) →
      Except String Unit × Option String
  | .error diagnostic => (.error (run.effects.diagnosticText diagnostic), selectedProvider)
  | .ok (rows, baseUrl) =>
    match run.selectProvider selectedProvider baseUrl with
    | .error error => (.error error, selectedProvider)
    | .ok selectedProvider =>
      if rows.isEmpty then
        (.error (run.effects.diagnosticText
          (providerDiagnostic (selectedProvider.getD run.service.primaryBaseUrl)
            (run.pageQuery page) (some 200) .emptyResponse false
            "No candles returned for requested window.")), selectedProvider)
      else (run.effects.storePage index page rows, selectedProvider)

def BackfillRun.fetchPage (run : BackfillRun) (page : BackfillPageRequest) (use : ProviderUse) :
    Except MarketProviderDiagnostic (List BinanceKlineRow × String) × List MarketProviderAttempt :=
  fetchKlinesWithFallback run.network
    (providerBaseUrls run.service.primaryBaseUrl run.service.fallbackBaseUrls)
    use.selectedProvider (run.pageQuery page) use.attempts

def BackfillRun.runPage (run : BackfillRun) (index : Nat) (page : BackfillPageRequest)
    (use : ProviderUse) : Except String Unit × ProviderUse :=
  let fetched := run.fetchPage page use
  let done := run.finishPage index page use.selectedProvider fetched.1
  (done.1, ⟨fetched.2, done.2⟩)

def BackfillRun.runPages (run : BackfillRun) :
    Nat → List BackfillPageRequest → ProviderUse → Except String Unit × ProviderUse
  | _, [], use => (.ok (), use)
  | index, page :: rest, use =>
    let done := run.runPage index page use
    match done.1 with
    | .error error => (.error error, done.2)
    | .ok () => run.runPages (index + 1) rest done.2

/-- The preferred base URL, then the others as they are configured. -/
def providerOrder (preferred : Option String) (configured : List String) : List String :=
  preferred.toList ++ configured.filter (fun url => preferred ≠ some url)

def lastSuccessful (attempts : List MarketProviderAttempt) : Option String :=
  (attempts.filter (·.success)).getLast?.map (·.baseUrl)

def recordedAttempt : Except MarketProviderDiagnostic
    (List BinanceKlineRow × MarketProviderAttempt) → MarketProviderAttempt
  | .ok (_, attempt) => attempt
  | .error diagnostic => attemptFromDiagnostic diagnostic

/-- The attempts of one fetch are those of the first base URLs of an order, each
asked once. All but the last have failed so that another one may be asked, and
no base URL is left out without a reason. -/
structure FollowsFallbackOrder
    (fetch : Nat → String →
      Except MarketProviderDiagnostic (List BinanceKlineRow × MarketProviderAttempt))
    (ordered : List String) (before : Nat) (tried : List MarketProviderAttempt)
    (result : Except MarketProviderDiagnostic (List BinanceKlineRow × String)) : Prop where
  once : (tried.map (·.baseUrl)).Nodup
  inOrder : tried.map (·.baseUrl) <+: ordered
  recorded : ∀ index (hIndex : index < tried.length),
    tried[index] = recordedAttempt (fetch (before + index) tried[index].baseUrl)
  retried : ∀ index (hIndex : index + 1 < tried.length), ∃ diagnostic,
    fetch (before + index) tried[index].baseUrl = .error diagnostic ∧ diagnostic.retryable = true
  failedBefore : ∀ attempt ∈ tried.dropLast, attempt.success = false
  answered : ∀ rows baseUrl, result = .ok (rows, baseUrl) → ∃ earlier attempt,
    tried = earlier ++ [attempt] ∧ attempt.success = true ∧ attempt.baseUrl = baseUrl ∧
      fetch (before + earlier.length) baseUrl = .ok (rows, attempt)
  refused : ∀ diagnostic, result = .error diagnostic → ordered ≠ [] → ∃ earlier,
    tried = earlier ++ [attemptFromDiagnostic diagnostic] ∧
      fetch (before + earlier.length) diagnostic.baseUrl = .error diagnostic ∧
      (diagnostic.retryable = true → tried.map (·.baseUrl) = ordered)

section Order
variable {preferred : Option String} {configured : List String}

theorem providerBaseUrls_eq (primary : String) (fallbacks : List String) :
    providerBaseUrls primary fallbacks = (primary :: fallbacks).eraseDups := by
  rw [providerBaseUrls, foldl_addNew, nil_append]
  congr 1
  exact filter_eq_self.mpr fun _ _ => by simp

example : providerBaseUrls "https://api.binance.com"
    ["https://data-api.binance.vision", "https://api1.binance.com", "https://api.binance.com"] =
      ["https://api.binance.com", "https://data-api.binance.vision", "https://api1.binance.com"] := by
  decide +kernel

theorem foldl_addNew_preferred (hDistinct : configured.Nodup) :
    configured.foldl addNew preferred.toList = providerOrder preferred configured := by
  rw [foldl_addNew, eraseDups_of_nodup (hDistinct.filter _), providerOrder]
  congr 2
  funext url
  cases preferred with
  | none => simp
  | some first => simp [eq_comm]

theorem nodup_providerOrder (hDistinct : configured.Nodup) :
    (providerOrder preferred configured).Nodup := by
  apply nodup_append.mpr
  refine ⟨?_, hDistinct.filter _, ?_⟩
  · cases preferred <;> simp
  · intro first hFirst other hOther hSame
    have hPreferred : preferred = some first := Option.mem_toList.mp hFirst
    simp [hPreferred, hSame] at hOther

end Order

section Fetch
variable {network : KlineNetwork} {query : KlineQuery} {number : Nat} {baseUrl : String}
variable {ordered : List String} {earlier : List
  (String × Except MarketProviderDiagnostic (List BinanceKlineRow × MarketProviderAttempt))}

theorem recordedAttempt_baseUrl :
    (recordedAttempt (fetchKlines network query number baseUrl)).baseUrl = baseUrl := by
  unfold fetchKlines
  split
  · rfl
  · rfl
  · split
    · rfl
    · split <;> rfl

theorem success_of_fetched {fetched : List BinanceKlineRow × MarketProviderAttempt}
    (hFetched : fetchKlines network query number baseUrl = .ok fetched) :
    fetched.2.success = true := by
  unfold fetchKlines at hFetched
  split at hFetched
  · cases hFetched
  · cases hFetched
  · split at hFetched
    · cases hFetched
    · split at hFetched
      · cases hFetched
      · cases hFetched
        rfl

/-- What a fetch with fallback tries and what becomes of it. -/
abbrev triedProviders (network : KlineNetwork) (query : KlineQuery) (number : Nat)
    (ordered : List String) : List (String × Except MarketProviderDiagnostic
      (List BinanceKlineRow × MarketProviderAttempt)) :=
  history (fetchKlines network query) (·.retryable) number ordered

theorem tryProviders_eq (lastRetryable : Option MarketProviderDiagnostic)
    (attempts : List MarketProviderAttempt) (ordered : List String) :
    tryProviders network query lastRetryable attempts ordered =
      ((result (lastRetryable.getD (noProvidersConfigured query))
        (triedProviders network query attempts.length ordered)).map
          fun (baseUrl, fetched) => (fetched.1, baseUrl),
      attempts ++ (triedProviders network query attempts.length ordered).map
        fun entry => recordedAttempt entry.2) := by
  induction ordered generalizing lastRetryable attempts with
  | nil => simp [tryProviders, triedProviders, history, result, Except.map]
  | cons baseUrl rest ih =>
    rw [tryProviders, triedProviders, history]
    cases hFetch : fetchKlines network query attempts.length baseUrl with
    | ok fetched => rfl
    | error diagnostic =>
      simp only [result_cons_error]
      by_cases hRetry : diagnostic.retryable = true
      · rw [if_pos hRetry, if_pos hRetry, ih]
        simp [recordedAttempt]
      · rw [if_neg hRetry, if_neg hRetry]
        rfl

theorem triedProviders_baseUrls : ((triedProviders network query number ordered).map
        fun entry => recordedAttempt entry.2).map (·.baseUrl) =
      (triedProviders network query number ordered).map Prod.fst := by
  rw [List.map_map]
  apply map_congr_left
  intro entry hEntry
  obtain ⟨later, hOutcome⟩ := outcome_of_mem hEntry
  rw [Function.comp_apply, hOutcome]
  exact recordedAttempt_baseUrl

theorem triedProviders_ne_nil (hOrdered : ordered ≠ []) :
    triedProviders network query number ordered ≠ [] := by
  cases ordered with
  | nil => exact absurd rfl hOrdered
  | cons baseUrl rest =>
    rw [triedProviders, history]
    split <;> exact cons_ne_nil _ _

theorem recorded_of_triedProviders_eq
    {outcome : Except MarketProviderDiagnostic (List BinanceKlineRow × MarketProviderAttempt)}
    (hEntries : triedProviders network query number ordered = earlier ++ [(baseUrl, outcome)]) :
    (triedProviders network query number ordered).map (fun entry => recordedAttempt entry.2) =
        earlier.map (fun entry => recordedAttempt entry.2) ++ [recordedAttempt outcome] ∧
      (recordedAttempt outcome).baseUrl = baseUrl ∧
      fetchKlines network query
        (number + (earlier.map fun entry => recordedAttempt entry.2).length) baseUrl = outcome := by
  have hFetch := outcome_of_eq_append hEntries
  refine ⟨?_, ?_, ?_⟩
  · rw [hEntries, map_append, map_singleton]
  · rw [← hFetch]
    exact recordedAttempt_baseUrl
  · rw [length_map]
    exact hFetch

theorem all_tried_of_retryable {diagnostic : MarketProviderDiagnostic}
    (hRetry : diagnostic.retryable = true) (hEntries : triedProviders network query number ordered =
      earlier ++ [(baseUrl, .error diagnostic)]) :
    (triedProviders network query number ordered).map Prod.fst = ordered := by
  rcases exhausted_or_stopped with hAll | ⟨entry, hLast, hStopped⟩
  · exact hAll
  · have hSame : (earlier ++ [(baseUrl, Except.error diagnostic)]).getLast? = some entry := by
      rw [← hEntries]
      exact hLast
    rw [getLast?_concat] at hSame
    cases hSame
    exact absurd ⟨diagnostic, rfl, hRetry⟩ hStopped

theorem followsFallbackOrder_tryProviders (hDistinct : ordered.Nodup)
    (unasked : MarketProviderDiagnostic) :
    FollowsFallbackOrder (fetchKlines network query) ordered number
      ((triedProviders network query number ordered).map fun entry => recordedAttempt entry.2)
      ((result unasked (triedProviders network query number ordered)).map
        fun (baseUrl, fetched) => (fetched.1, baseUrl)) where
  once := by
    rw [triedProviders_baseUrls]
    exact hDistinct.sublist history_prefix.sublist
  inOrder := by
    rw [triedProviders_baseUrls]
    exact history_prefix
  recorded := by
    intro index hIndex
    rw [length_map] at hIndex
    have hOutcome := history_outcome hIndex
    simp only [getElem_map]
    rw [hOutcome, recordedAttempt_baseUrl]
  retried := by
    intro index hIndex
    rw [length_map] at hIndex
    have hLast : index < (triedProviders network query number ordered).dropLast.length := by
      rw [length_dropLast]
      omega
    have hRetried := retried_of_mem_dropLast (getElem_mem hLast)
    rw [getElem_dropLast, history_outcome] at hRetried
    obtain ⟨diagnostic, hFailed, hRetry⟩ := hRetried
    refine ⟨diagnostic, ?_, hRetry⟩
    simp only [getElem_map]
    rw [history_outcome, recordedAttempt_baseUrl]
    exact hFailed
  failedBefore := by
    intro attempt hAttempt
    rw [← map_dropLast] at hAttempt
    obtain ⟨entry, hEntry, rfl⟩ := mem_map.mp hAttempt
    obtain ⟨diagnostic, hFailed, _⟩ := retried_of_mem_dropLast hEntry
    rw [hFailed]
    rfl
  answered := by
    intro rows baseUrl hResult
    obtain ⟨⟨first, fetched⟩, hAnswer, hPair⟩ := map_eq_ok.mp hResult
    cases hPair
    obtain ⟨earlier, hEntries⟩ := eq_append_of_result_eq_ok hAnswer
    obtain ⟨hRecorded, hBaseUrl, hFetch⟩ := recorded_of_triedProviders_eq hEntries
    exact ⟨_, fetched.2, hRecorded, success_of_fetched hFetch, hBaseUrl, hFetch⟩
  refused := by
    intro diagnostic hResult hOrdered
    have hRefused := map_eq_error.mp hResult
    obtain ⟨earlier, baseUrl, hEntries⟩ :=
      eq_append_of_result_eq_error (triedProviders_ne_nil hOrdered) hRefused
    obtain ⟨hRecorded, hBaseUrl, hFetch⟩ := recorded_of_triedProviders_eq hEntries
    change diagnostic.baseUrl = baseUrl at hBaseUrl
    rw [← hBaseUrl] at hFetch
    refine ⟨_, hRecorded, hFetch, ?_⟩
    intro hRetry
    rw [triedProviders_baseUrls]
    exact all_tried_of_retryable hRetry hEntries

theorem fetchKlinesWithFallback_follows (network : KlineNetwork) (primary : String)
    (fallbacks : List String) (preferred : Option String) (query : KlineQuery)
    (attempts : List MarketProviderAttempt) :
    ∃ tried result,
      fetchKlinesWithFallback network (providerBaseUrls primary fallbacks) preferred query attempts =
        (result, attempts ++ tried) ∧
      FollowsFallbackOrder (fetchKlines network query)
        (providerOrder preferred (primary :: fallbacks).eraseDups) attempts.length tried result := by
  have hDistinct := nodup_eraseDups (primary :: fallbacks)
  refine ⟨_, _, ?_, followsFallbackOrder_tryProviders (nodup_providerOrder hDistinct)
    (noProvidersConfigured query)⟩
  rw [fetchKlinesWithFallback, providerBaseUrls_eq, foldl_addNew_preferred hDistinct]
  exact tryProviders_eq none attempts _

end Fetch

section Run
variable {run : BackfillRun} {page : BackfillPageRequest} {index : Nat}

theorem lastSuccessful_append (attempts : List MarketProviderAttempt)
    {attempt : MarketProviderAttempt} (hSuccess : attempt.success = true) :
    lastSuccessful (attempts ++ [attempt]) = some attempt.baseUrl := by
  rw [lastSuccessful, filter_append, filter_cons_of_pos hSuccess, filter_nil, getLast?_concat]
  rfl

theorem eq_of_selectProvider {selectedProvider next : Option String} {baseUrl : String}
    (hSelect : run.selectProvider selectedProvider baseUrl = .ok next) : next = some baseUrl := by
  unfold BackfillRun.selectProvider at hSelect
  split at hSelect
  · split at hSelect
    · obtain ⟨_, _, hNext⟩ := map_eq_ok.mp hSelect
      exact hNext.symm
    · exact (Except.ok.inj hSelect).symm
  · rename_i hSame
    exact (Except.ok.inj hSelect).symm.trans (not_not.mp hSame)

theorem selected_of_finishPage {selectedProvider : Option String}
    {fetched : Except MarketProviderDiagnostic (List BinanceKlineRow × String)}
    (hDone : (run.finishPage index page selectedProvider fetched).1 = .ok ()) :
    ∃ rows baseUrl, fetched = .ok (rows, baseUrl) ∧
      (run.finishPage index page selectedProvider fetched).2 = some baseUrl := by
  cases fetched with
  | error diagnostic => cases hDone
  | ok answer =>
    obtain ⟨rows, baseUrl⟩ := answer
    refine ⟨rows, baseUrl, rfl, ?_⟩
    rw [BackfillRun.finishPage] at hDone ⊢
    cases hSelect : run.selectProvider selectedProvider baseUrl with
    | error error =>
      rw [hSelect] at hDone
      cases hDone
    | ok next =>
      dsimp only
      split <;> exact eq_of_selectProvider hSelect

/-- The attempts of a page follow the order in which the provider of the last
successful attempt comes first. -/
def BackfillRun.FollowsForPage (run : BackfillRun) (page : BackfillPageRequest)
    (earlier tried : List MarketProviderAttempt) : Prop :=
  ∃ result, FollowsFallbackOrder (fetchKlines run.network (run.pageQuery page))
    (providerOrder (lastSuccessful earlier)
      (run.service.primaryBaseUrl :: run.service.fallbackBaseUrls).eraseDups)
    earlier.length tried result

theorem runPage_follows {use : ProviderUse}
    (hSelected : use.selectedProvider = lastSuccessful use.attempts) :
    ∃ tried, (run.runPage index page use).2.attempts = use.attempts ++ tried ∧
      run.FollowsForPage page use.attempts tried ∧
      ((run.runPage index page use).1 = .ok () → (run.runPage index page use).2.selectedProvider =
          lastSuccessful (use.attempts ++ tried)) := by
  obtain ⟨tried, result, hFetch, hFollows⟩ := fetchKlinesWithFallback_follows run.network
    run.service.primaryBaseUrl run.service.fallbackBaseUrls use.selectedProvider
    (run.pageQuery page) use.attempts
  have hPage : run.fetchPage page use = (result, use.attempts ++ tried) := hFetch
  refine ⟨tried, congrArg Prod.snd hPage, ⟨result, hSelected ▸ hFollows⟩, ?_⟩
  intro hDone
  obtain ⟨rows, baseUrl, hAnswer, hNext⟩ := selected_of_finishPage hDone
  have hResult : result = .ok (rows, baseUrl) := (congrArg Prod.fst hPage).symm.trans hAnswer
  obtain ⟨earlier, attempt, rfl, hSuccess, hBaseUrl, _⟩ := hFollows.answered rows baseUrl hResult
  rw [← append_assoc, lastSuccessful_append _ hSuccess, hBaseUrl]
  exact hNext

def BackfillRun.FollowsForPages (run : BackfillRun) (pages : List BackfillPageRequest)
    (earlier : List MarketProviderAttempt) (calls : List (List MarketProviderAttempt)) : Prop :=
  ∀ number (hNumber : number < calls.length), ∃ page, pages[number]? = some page ∧
    run.FollowsForPage page (earlier ++ (calls.take number).flatten) calls[number]

variable {pages : List BackfillPageRequest}

theorem FollowsForPages.cons {earlier tried : List MarketProviderAttempt}
    {calls : List (List MarketProviderAttempt)} (hPage : run.FollowsForPage page earlier tried)
    (hRest : run.FollowsForPages pages (earlier ++ tried) calls) :
    run.FollowsForPages (page :: pages) earlier (tried :: calls) := by
  intro number hNumber
  cases number with
  | zero => exact ⟨page, rfl, by simpa using hPage⟩
  | succ number =>
    obtain ⟨later, hLater, hFollows⟩ := hRest number (Nat.lt_of_succ_lt_succ hNumber)
    rw [append_assoc] at hFollows
    exact ⟨later, hLater, hFollows⟩

theorem runPages_follows {use : ProviderUse}
    (hSelected : use.selectedProvider = lastSuccessful use.attempts) :
    ∃ calls, (run.runPages index pages use).2.attempts = use.attempts ++ calls.flatten ∧
      run.FollowsForPages pages use.attempts calls := by
  induction pages generalizing index use with
  | nil => exact ⟨[], (append_nil _).symm, fun number hNumber => by cases hNumber⟩
  | cons page rest ih =>
    obtain ⟨tried, hAttempts, hPage, hNext⟩ :
      ∃ tried, (run.runPage index page use).2.attempts = use.attempts ++ tried ∧ _ :=
        runPage_follows hSelected
    rw [BackfillRun.runPages]
    cases hDone : (run.runPage index page use).1 with
    | error error =>
      refine ⟨[tried], by simpa using hAttempts, FollowsForPages.cons hPage ?_⟩
      intro number hNumber
      cases hNumber
    | ok done =>
      have hCarried := hNext hDone
      rw [← hAttempts] at hCarried
      obtain ⟨calls, hCalls, hFollows⟩ := @ih (index + 1) _ hCarried
      refine ⟨tried :: calls, ?_, FollowsForPages.cons hPage (hAttempts ▸ hFollows)⟩
      rw [hCalls, hAttempts, append_assoc]
      rfl

end Run

/-- Whatever the providers answer, a fetch with fallback tries every base URL at
most once, the preferred one first and the others as configured, until one
answers or fails for good, and records what it tried. Over the pages of a run
the preferred one is that of the last success. -/
theorem providers_tried_in_order (run : BackfillRun) : (∀ preferred page attempts, ∃ tried result,
      fetchKlinesWithFallback run.network
        (providerBaseUrls run.service.primaryBaseUrl run.service.fallbackBaseUrls) preferred
        (run.pageQuery page) attempts = (result, attempts ++ tried) ∧
      FollowsFallbackOrder (fetchKlines run.network (run.pageQuery page))
        (providerOrder preferred
          (run.service.primaryBaseUrl :: run.service.fallbackBaseUrls).eraseDups)
        attempts.length tried result) ∧
    ∀ pages, ∃ calls, (run.runPages 0 pages ⟨[], none⟩).2.attempts = calls.flatten ∧
      run.FollowsForPages pages [] calls := by
  constructor
  · intro preferred page attempts
    exact fetchKlinesWithFallback_follows run.network run.service.primaryBaseUrl
      run.service.fallbackBaseUrls preferred (run.pageQuery page) attempts
  · intro pages
    exact runPages_follows rfl

end AegisQuant.Market
