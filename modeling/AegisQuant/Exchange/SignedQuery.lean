import AegisQuant.Exchange.Orders
import AegisQuant.Library.KeyedText
import Mathlib.Data.Rat.Encodable
import Mathlib.Data.String.Basic

/-! The query that the exchange client signs. Its parameters are joined without
escaping, so it carries an order as long as the texts that others chose, the
symbol and the client order id, do not contain the separator. -/
namespace AegisQuant.Exchange
open KeyedText List

structure ExchangeCancelRequest where
  exchange : ExchangeName
  environment : ExchangeEnvironment
  symbol : Symbol
  clientOrderId : String
  recvWindowMs : Option Nat

abbrev Params := List (String × String)

section Parameters
variable (decimalText : Decimal → String)

/-- The parameters of `submit_order`. `decimalText` is the text of a normalized
decimal. -/
def submitOrderParams (order : ExchangeOrderRequest) : Params :=
  []
  |> insert "symbol" order.symbol.text
  |> insert "side" order.side.asStr
  |> insert "type" order.orderType.asStr
  |> insert "newClientOrderId" order.clientOrderId
  |> insertSome "quantity" (order.quantity.map decimalText)
  |> insertSome "quoteOrderQty" (order.quoteNotional.map decimalText)
  |> insertSome "price" (order.limitPrice.map decimalText)
  |> insertSome "timeInForce" (order.timeInForce.map (·.asStr))
  |> insertSome "recvWindow" (order.recvWindowMs.map toString)

end Parameters

def cancelOrderParams (request : ExchangeCancelRequest) : Params :=
  []
  |> insert "symbol" request.symbol.text
  |> insert "origClientOrderId" request.clientOrderId
  |> insertSome "recvWindow" (request.recvWindowMs.map toString)

/-- The parameters that `signed_request` sends with a configured window. -/
def signedParams (recvWindowMs : Option Nat) (timestamp : Int) (params : Params) : Params :=
  let params := insert "timestamp" (toString timestamp) params
  recvWindowMs.elim params fun recvWindow => insertAbsent "recvWindow" (toString recvWindow) params

def buildQueryString (params : Params) : String :=
  String.ofList (text '&' '=' (params.map fun entry => (entry.1.toList, entry.2.toList)))

/-- The query split at every `&`, and each part at its first `=`. -/
def splitQuery (query : String) : Params :=
  (parse '&' '=' query.toList).map fun entry => (String.ofList entry.1, String.ofList entry.2)

/-- The query gives the parameters back, with every key once. -/
def Carries (recvWindowMs : Option Nat) (timestamp : Int) (params : Params) : Prop :=
  let signed := signedParams recvWindowMs timestamp params
  splitQuery (buildQueryString signed) = signed ∧ (signed.map (·.1)).Nodup

def Separable (value : String) : Prop := '&' ∉ value.toList

instance (value : String) : Decidable (Separable value) := inferInstanceAs (Decidable (_ ∉ _))

structure SameTerms (first second : ExchangeOrderRequest) : Prop where
  symbol : first.symbol = second.symbol
  side : first.side = second.side
  orderType : first.orderType = second.orderType
  quantity : first.quantity = second.quantity
  quoteNotional : first.quoteNotional = second.quoteNotional
  limitPrice : first.limitPrice = second.limitPrice
  clientOrderId : first.clientOrderId = second.clientOrderId

section Texts

theorem separable_nat (count : Nat) : Separable (toString count) := by
  rw [Separable, Nat.toString_eq_ofList_toDigits, String.toList_ofList]
  intro hMem
  exact absurd (Nat.isDigit_of_mem_toDigits (by decide) (by decide) hMem) (by decide)

theorem separable_int (count : Int) : Separable (toString count) := by
  cases count with
  | ofNat count => exact separable_nat count
  | negSucc count =>
    have hDigits := separable_nat (count + 1)
    change '&' ∉ ("-" ++ Nat.repr (count + 1)).toList
    rw [String.toList_append, mem_append, not_or]
    exact ⟨by decide, hDigits⟩

theorem separable_side (side : ExchangeOrderSide) : Separable side.asStr := by
  cases side <;> decide

theorem separable_orderType (orderType : ExchangeOrderType) : Separable orderType.asStr := by
  cases orderType <;> decide

theorem separable_timeInForce (timeInForce : ExchangeOrderTimeInForce) :
    Separable timeInForce.asStr := by
  cases timeInForce <;> decide

end Texts

section Building
variable {params : Params} {key value : String} {option : Option String} {recvWindowMs : Option Nat}
  {timestamp : Int} {P : String → Prop}

/-- Parameters under plain keys, in order and with plain values where `P` asks
for it. -/
structure WellKeyed (P : String → Prop) (params : Params) : Prop where
  sorted : params.Pairwise (·.1 < ·.1)
  keys : ∀ entry ∈ params, '&' ∉ entry.1.toList ∧ '=' ∉ entry.1.toList
  values : ∀ entry ∈ params, P entry.2

theorem wellKeyed_nil (P : String → Prop) : WellKeyed P [] := ⟨.nil, by simp, by simp⟩

theorem WellKeyed.insert (key : String) (hParams : WellKeyed P params)
    (hKey : '&' ∉ key.toList ∧ '=' ∉ key.toList) (hValue : P value) :
    WellKeyed P (insert key value params) where
  sorted := sorted_insert hParams.sorted
  keys := by
    intro entry hEntry
    rcases mem_insert hEntry with rfl | hEntry
    · exact hKey
    · exact hParams.keys entry hEntry
  values := by
    intro entry hEntry
    rcases mem_insert hEntry with rfl | hEntry
    · exact hValue
    · exact hParams.values entry hEntry

theorem WellKeyed.insertSome (hParams : WellKeyed P params)
    (hKey : '&' ∉ key.toList ∧ '=' ∉ key.toList) (hValue : ∀ value ∈ option, P value) :
    WellKeyed P (insertSome key option params) := by
  cases option with
  | none => exact hParams
  | some value => exact hParams.insert key hKey (hValue value rfl)

theorem WellKeyed.signed (hParams : WellKeyed P params)
    (hOwn : ∀ value, Separable value → P value) :
    WellKeyed P (signedParams recvWindowMs timestamp params) := by
  have hStamped := hParams.insert "timestamp" (by decide) (hOwn _ (separable_int timestamp))
  cases recvWindowMs with
  | none => exact hStamped
  | some recvWindow =>
    simp only [signedParams, Option.elim_some, insertAbsent]
    split
    · exact hStamped
    · exact hStamped.insert _ (by decide) (hOwn _ (separable_nat recvWindow))

theorem lookup_signedParams (hKey : key ≠ "timestamp" ∧ key ≠ "recvWindow") :
    (signedParams recvWindowMs timestamp params).lookup key = params.lookup key := by
  cases recvWindowMs with
  | none => exact lookup_insert_of_ne hKey.1
  | some recvWindow =>
    exact (lookup_insertAbsent_of_ne hKey.2).trans (lookup_insert_of_ne hKey.1)

theorem splitQuery_buildQueryString (params : Params) :
    splitQuery (buildQueryString params) = params ↔
      parse '&' '=' (text '&' '=' (params.map fun entry => (entry.1.toList, entry.2.toList))) =
        params.map fun entry => (entry.1.toList, entry.2.toList) := by
  rw [splitQuery, buildQueryString, String.toList_ofList]
  constructor
  · intro hSplit
    conv_rhs => rw [← hSplit]
    simp [Function.comp_def]
  · intro hParse
    rw [hParse]
    simp [Function.comp_def]

/-- A request carries its parameters if and only if none of the values contains
the separator. -/
theorem carries_iff (hParams : WellKeyed (fun _ => True) params) :
    Carries recvWindowMs timestamp params ↔
      ∀ entry ∈ signedParams recvWindowMs timestamp params, Separable entry.2 := by
  have hSigned : WellKeyed (fun _ => True) (signedParams recvWindowMs timestamp params) :=
    hParams.signed fun _ _ => trivial
  have hSome : signedParams recvWindowMs timestamp params ≠ [] := by
    intro hNone
    have hStamp : (signedParams recvWindowMs timestamp params).lookup "timestamp" ≠ none := by
      cases recvWindowMs with
      | none => simp [signedParams]
      | some recvWindow =>
        rw [signedParams, Option.elim_some, lookup_insertAbsent_of_ne (by decide)]
        simp
    exact hStamp (by rw [hNone]; rfl)
  have hNodup : ((signedParams recvWindowMs timestamp params).map (·.1)).Nodup :=
    (pairwise_map.mpr hSigned.sorted).imp fun hLess => hLess.ne
  rw [Carries, splitQuery_buildQueryString, parse_text_iff (by simpa using hSome) (by decide)]
  · rw [and_iff_left hNodup, forall_mem_map]
    rfl
  · intro entry hEntry
    obtain ⟨param, hParam, rfl⟩ := mem_map.mp hEntry
    exact hSigned.keys param hParam

theorem separable_of_lookup (hKey : key ≠ "timestamp" ∧ key ≠ "recvWindow")
    (hValues : ∀ entry ∈ signedParams recvWindowMs timestamp params, Separable entry.2)
    (hFound : params.lookup key = some value) : Separable value := by
  have hSigned : (signedParams recvWindowMs timestamp params).lookup key = some value :=
    (lookup_signedParams hKey).trans hFound
  obtain ⟨earlier, later, hSplit, -⟩ := lookup_eq_some_iff.mp hSigned
  exact hValues (key, value) (by simp [hSplit])

/-- Parameters whose values were chosen by others under two keys. -/
theorem carries_iff_separable (key other : String) {otherValue : String}
    (hBuilt : ∀ P : String → Prop, (∀ value, Separable value → P value) → P value →
      P otherValue → WellKeyed P params)
    (hKey : key ≠ "timestamp" ∧ key ≠ "recvWindow")
    (hOther : other ≠ "timestamp" ∧ other ≠ "recvWindow")
    (hFound : params.lookup key = some value) (hFoundOther : params.lookup other = some otherValue) :
    Carries recvWindowMs timestamp params ↔ Separable value ∧ Separable otherValue := by
  rw [carries_iff (hBuilt _ (fun _ _ => trivial) trivial trivial)]
  constructor
  · intro hValues
    exact ⟨separable_of_lookup hKey hValues hFound, separable_of_lookup hOther hValues hFoundOther⟩
  · rintro ⟨hValue, hOtherValue⟩
    exact ((hBuilt Separable (fun _ h => h) hValue hOtherValue).signed fun _ h => h).values

end Building

section Requests
variable {decimalText : Decimal → String} {recvWindowMs : Option Nat} {timestamp later : Int}
  {first second order : ExchangeOrderRequest} {request : ExchangeCancelRequest}

theorem wellKeyed_submit (hDecimal : ∀ value, Separable (decimalText value)) (P : String → Prop)
    (hOwn : ∀ value, Separable value → P value) (hSymbol : P order.symbol.text)
    (hClient : P order.clientOrderId) : WellKeyed P (submitOrderParams decimalText order) := by
  have hSome {α : Type} {option : Option α} {f : α → String} (hText : ∀ value, Separable (f value)) :
      ∀ value ∈ option.map f, P value := by
    intro value hValue
    obtain ⟨original, -, rfl⟩ := Option.mem_map.mp hValue
    exact hOwn _ (hText original)
  have hTerms := ((((wellKeyed_nil P).insert "symbol" (by decide) hSymbol).insert "side"
    (by decide) (hOwn _ (separable_side order.side))).insert "type" (by decide)
    (hOwn _ (separable_orderType order.orderType))).insert "newClientOrderId" (by decide) hClient
  exact ((((hTerms.insertSome (by decide) (hSome hDecimal)).insertSome (by decide)
    (hSome hDecimal)).insertSome (by decide) (hSome hDecimal)).insertSome (by decide)
    (hSome separable_timeInForce)).insertSome (by decide) (hSome separable_nat)

theorem carries_submit_iff (order : ExchangeOrderRequest)
    (hDecimal : ∀ value, Separable (decimalText value)) :
    Carries recvWindowMs timestamp (submitOrderParams decimalText order) ↔
      Separable order.symbol.text ∧ Separable order.clientOrderId := by
  refine carries_iff_separable "symbol" "newClientOrderId" (wellKeyed_submit hDecimal)
    (by decide) (by decide) ?_ ?_
  all_goals simp (disch := decide) [submitOrderParams, lookup_insertSome_of_ne, lookup_insert_of_ne]

theorem carries_cancel_iff : Carries recvWindowMs timestamp (cancelOrderParams request) ↔
      Separable request.symbol.text ∧ Separable request.clientOrderId := by
  refine carries_iff_separable "symbol" "origClientOrderId" (fun P hOwn hSymbol hClient => ?_)
    (by decide) (by decide) ?_ ?_
  · refine (((wellKeyed_nil P).insert "symbol" (by decide) hSymbol).insert _ (by decide)
      hClient).insertSome (by decide) fun value hValue => ?_
    obtain ⟨recvWindow, -, rfl⟩ := Option.mem_map.mp hValue
    exact hOwn _ (separable_nat recvWindow)
  all_goals simp (disch := decide) [cancelOrderParams, lookup_insertSome_of_ne, lookup_insert_of_ne]

theorem sameTerms_of_signed (hInjective : Function.Injective decimalText)
    (hSame : signedParams recvWindowMs timestamp (submitOrderParams decimalText first) =
      signedParams recvWindowMs later (submitOrderParams decimalText second)) :
    SameTerms first second := by
  have hLookup (key : String) (hKey : key ≠ "timestamp" ∧ key ≠ "recvWindow") :
      (submitOrderParams decimalText first).lookup key =
        (submitOrderParams decimalText second).lookup key := by
    have hSigned := congrArg (·.lookup key) hSame
    simp only [lookup_signedParams hKey] at hSigned
    exact hSigned
  have hSymbol := hLookup "symbol" (by decide)
  have hSide := hLookup "side" (by decide)
  have hType := hLookup "type" (by decide)
  have hClient := hLookup "newClientOrderId" (by decide)
  have hQuantity := hLookup "quantity" (by decide)
  have hNotional := hLookup "quoteOrderQty" (by decide)
  have hPrice := hLookup "price" (by decide)
  simp (disch := decide) only [submitOrderParams, lookup_insertSome_of_ne, lookup_insert_of_ne,
    lookup_insertSome_self, lookup_insert_self, lookup_nil, Option.or_none, Option.some.injEq]
    at hSymbol hSide hType hClient hQuantity hNotional hPrice
  exact {
    symbol := by
      cases hFirst : first.symbol
      cases hSecond : second.symbol
      simpa [hFirst, hSecond] using hSymbol
    side := by
      revert hSide
      cases first.side <;> cases second.side <;> decide
    orderType := by
      revert hType
      cases first.orderType <;> cases second.orderType <;> decide
    quantity := Option.map_injective hInjective hQuantity
    quoteNotional := Option.map_injective hInjective hNotional
    limitPrice := Option.map_injective hInjective hPrice
    clientOrderId := hClient }

/-- Two orders and a cancellation are carried by their queries, and orders under
one query have the same terms, if and only if no symbol and no client order id
contains an ampersand. -/
theorem signed_query_carries_iff (decimalText : Decimal → String)
    (hDecimal : ∀ value, Separable (decimalText value))
    (hInjective : Function.Injective decimalText) (recvWindowMs : Option Nat)
    (timestamp later : Int) (first second : ExchangeOrderRequest)
    (request : ExchangeCancelRequest) :
    (Carries recvWindowMs timestamp (submitOrderParams decimalText first) ∧
        Carries recvWindowMs later (submitOrderParams decimalText second) ∧
        Carries recvWindowMs timestamp (cancelOrderParams request) ∧
        (buildQueryString
            (signedParams recvWindowMs timestamp (submitOrderParams decimalText first)) =
          buildQueryString
            (signedParams recvWindowMs later (submitOrderParams decimalText second)) →
          SameTerms first second)) ↔
      (Separable first.symbol.text ∧ Separable first.clientOrderId) ∧
        (Separable second.symbol.text ∧ Separable second.clientOrderId) ∧
        Separable request.symbol.text ∧ Separable request.clientOrderId := by
  rw [← carries_submit_iff first hDecimal, ← carries_submit_iff second hDecimal,
    ← carries_cancel_iff]
  constructor
  · rintro ⟨hFirst, hSecond, hCancel, -⟩
    exact ⟨hFirst, hSecond, hCancel⟩
  · rintro ⟨hFirst, hSecond, hCancel⟩
    refine ⟨hFirst, hSecond, hCancel, fun hQuery => ?_⟩
    have hSame := (hFirst.1.symm.trans (congrArg splitQuery hQuery)).trans hSecond.1
    exact sameTerms_of_signed hInjective hSame

end Requests

def sampleDecimalText (value : Decimal) : String :=
  if value = 100 then "100" else String.ofList (replicate (Encodable.encode value + 4) '9')

theorem sampleDecimalText_separable (value : Decimal) : Separable (sampleDecimalText value) := by
  unfold sampleDecimalText
  split
  · decide
  · simp [Separable]

theorem sampleDecimalText_injective : Function.Injective sampleDecimalText := by
  intro value other hText
  have hLength := congrArg (·.toList.length) hText
  unfold sampleDecimalText at hLength
  split_ifs at hLength with hValue hOther hOther
  · rw [hValue, hOther]
  all_goals simp at hLength
  exact hLength

def sampleRequestFor (symbol : Symbol) : ExchangeOrderRequest where
  exchange := .binance
  environment := .testnet
  symbol := symbol
  side := .buy
  orderType := .market
  timeInForce := none
  quantity := none
  quoteNotional := some 100
  limitPrice := none
  clientOrderId := "aegis-testnet-1"
  recvWindowMs := none
  riskDecisionId := none

theorem signed_query_carries_sample :
    Carries none 0 (submitOrderParams sampleDecimalText (sampleRequestFor .btcusdt)) :=
  ((signed_query_carries_iff sampleDecimalText sampleDecimalText_separable
    sampleDecimalText_injective none 0 0 (sampleRequestFor .btcusdt) (sampleRequestFor .btcusdt)
    ⟨.binance, .testnet, .btcusdt, "aegis-testnet-1", none⟩).mpr (by decide +kernel)).1

/-- A symbol with an ampersand adds a second side to an accepted order. -/
theorem symbol_adds_parameter : ∃ symbol, Symbol.new "btcusdt&side=SELL" = .ok symbol ∧
      (sampleRequestFor symbol).validate = .ok () ∧
      ¬Carries none 0 (submitOrderParams sampleDecimalText (sampleRequestFor symbol)) := by
  refine ⟨⟨"BTCUSDT&SIDE=SELL", by decide +kernel, by decide⟩, by decide +kernel, rfl, ?_⟩
  rw [carries_submit_iff _ sampleDecimalText_separable]
  decide +kernel

end AegisQuant.Exchange
