import AegisQuant.Library.Run
import AegisQuant.Paper.Books
import Mathlib.Algebra.Order.BigOperators.Group.List
import Mathlib.Tactic.Linarith

/-! Whole sequences of direct paper orders on one symbol, against the books
they leave. Every filled order is booked as a purchase, at the quantity when
it names no price, so the books follow the orders precisely as long as only
priced purchases are filled. -/
namespace AegisQuant.Paper
open Transition List

structure PaperOrderRequest where
  intent : OrderIntent
  ids : FillIds
  now : DateTime

abbrev SymbolRequest (symbol : Symbol) :=
  { request : PaperOrderRequest // request.intent.symbol = symbol }

def handlePaperOrder {symbol : Symbol} (db : Database) (request : SymbolRequest symbol) :
    Database :=
  (createOrder db request.1.ids request.1.now request.1.intent).1

def isFilledOn (side : Side) (row : OrderRow) : Bool :=
  row.status = "FILLED" && row.side = side.asStr

def filledQuantity (db : Database) (side : Side) : Decimal :=
  ((db.orders.rows.filter (isFilledOn side)).map (·.quantity)).sum

def longQuantity (db : Database) (symbol : String) : Decimal :=
  match db.paperAccount with
  | none => 0
  | some account =>
    match getOpenPaperPosition db account.id symbol .long with
    | none => 0
    | some record => record.quantity

def PricedByOrder (db : Database) (fill : PaperFill) : Prop :=
  ∃ order ∈ db.orders.rows, order.id = fill.orderId ∧
    (order.filledPrice = some fill.price ∨ order.limitPrice = some fill.price)

def BooksFollowOrders (symbol : Symbol) (db : Database) : Prop :=
  longQuantity db symbol.text ≤ filledQuantity db .buy - filledQuantity db .sell ∧
    ∀ fill ∈ db.paperFills.rows, PricedByOrder db fill

def SellDoesNotEnlarge {symbol : Symbol} (db : Database) (request : SymbolRequest symbol) : Prop :=
  request.1.intent.side = .sell →
    longQuantity (handlePaperOrder db request) symbol.text ≤ longQuantity db symbol.text

/-- The order of the request is stored and filled. -/
def Fills {symbol : Symbol} (db : Database) (request : SymbolRequest symbol) : Prop :=
  Acceptable db request.1.intent ∧ request.1.intent.expired request.1.now = false

def PricedPurchase (intent : OrderIntent) : Prop :=
  intent.side = .buy ∧ intent.limitPrice.isSome

/-- The only position is an open one of the symbol. -/
structure HoldsLong (symbol : Symbol) (db : Database) (account : PaperAccount)
    (position : PaperPosition) : Prop where
  stored : db.paperAccount = some account
  rows : db.paperPositions.rows = [position.toRecord]
  owner : position.accountId = account.id
  market : position.symbol = symbol.text
  status : position.status = .open
  positive : 0 < position.quantity

/-- The books hold a total quantity of the symbol and nothing else. -/
def Holding (symbol : Symbol) (db : Database) (total : Decimal) : Prop :=
  (db.paperPositions.rows = [] ∧ total = 0) ∨
    ∃ account position, HoldsLong symbol db account position ∧ position.quantity = total

/-- What the books hold whatever has been filled so far. -/
structure Booked (symbol : Symbol) (db : Database) : Prop where
  holding : Holding symbol db (filledQuantity db .buy + filledQuantity db .sell)
  fills : ∀ fill ∈ db.paperFills.rows, ∃ order ∈ db.orders.rows, order.id = fill.orderId
  positive : ∀ order ∈ db.orders.rows, 0 < order.quantity

section Holdings
variable {symbol : Symbol} {db : Database} {account : PaperAccount} {position : PaperPosition}
  {total : Decimal}

theorem HoldsLong.getOpenPaperPosition_eq (holds : HoldsLong symbol db account position) :
    getOpenPaperPosition db account.id symbol.text .long = some position.toRecord := by
  have hFound : isOpenPositionOf account.id symbol.text .long position.toRecord = true := by
    cases hSide : position.side
    simp [isOpenPositionOf, PaperPosition.toRecord, holds.owner, holds.market, holds.status, hSide,
      PositionStatus.asStr]
  simp only [getOpenPaperPosition, holds.rows, find?_cons, hFound]

theorem Holding.longQuantity_eq (holding : Holding symbol db total) :
    longQuantity db symbol.text = total := by
  rcases holding with ⟨hRows, rfl⟩ | ⟨account, position, holds, rfl⟩
  · unfold longQuantity
    cases db.paperAccount with
    | none => rfl
    | some account => simp [getOpenPaperPosition, hRows]
  · simp only [longQuantity, holds.stored, holds.getOpenPaperPosition_eq]
    rfl

theorem Holding.congr {other : Database} (holding : Holding symbol db total)
    (hAccount : other.paperAccount = db.paperAccount)
    (hPositions : other.paperPositions = db.paperPositions) : Holding symbol other total := by
  rcases holding with ⟨hRows, hTotal⟩ | ⟨account, position, holds, hTotal⟩
  · exact .inl ⟨hPositions ▸ hRows, hTotal⟩
  · exact .inr ⟨account, position, ⟨hAccount ▸ holds.stored, hPositions ▸ holds.rows, holds.owner,
      holds.market, holds.status, holds.positive⟩, hTotal⟩

theorem Holding.existing (holding : Holding symbol db total) (freshId : Uuid) (now : DateTime) :
    ∃ account existing, ensureDefaultPaperAccount db freshId now =
        ({ db with paperAccount := some account }, account) ∧
      openPaperPosition { db with paperAccount := some account } account.id symbol.text =
        .ok existing ∧
      (existing = none ∧ db.paperPositions.rows = [] ∧ total = 0 ∨
        ∃ position, existing = some position ∧ HoldsLong symbol db account position ∧
          position.quantity = total) := by
  rcases holding with ⟨hRows, hTotal⟩ | ⟨account, position, holds, hTotal⟩
  · refine ⟨createDefaultPaperAccountIfMissing db.paperAccount freshId now, none, rfl, ?_,
      .inl ⟨rfl, hRows, hTotal⟩⟩
    simp [openPaperPosition, getOpenPaperPosition, hRows]
  · refine ⟨account, some position, ?_, ?_, .inr ⟨position, rfl, holds, hTotal⟩⟩
    · simp [ensureDefaultPaperAccount, createDefaultPaperAccountIfMissing, holds.stored]
    · have hFound : getOpenPaperPosition { db with paperAccount := some account } account.id
          symbol.text .long = some position.toRecord := holds.getOpenPaperPosition_eq
      simp only [openPaperPosition, hFound, paperPositionFromRecord_toRecord]
      rfl

variable {positions : Table PaperPositionRecord.id}

theorem rows_upsert_opened (hRows : positions.rows = []) (opened : PaperPosition) :
    (upsertPaperPosition positions opened).rows = [opened.toRecord] := by
  have hFresh : positions.find? opened.toRecord.id = none :=
    Table.find?_eq_none.mpr (by simp [hRows])
  rw [upsertPaperPosition, Table.rows_upsert_of_fresh hFresh, hRows]
  rfl

theorem rows_upsert_averaged (hRows : positions.rows = [position.toRecord]) (fill : PaperFill) :
    (upsertPaperPosition positions (averagedPosition position fill)).rows =
      [(averagedPosition position fill).toRecord] := by
  have hPresent : positions.find? (averagedPosition position fill).toRecord.id ≠ none := by
    rw [Ne, Table.find?_eq_none, hRows]
    simp [averagedPosition, PaperPosition.toRecord]
  rw [upsertPaperPosition, Table.rows_upsert_of_present hPresent, hRows]
  simp [mergePosition, averagedPosition, PaperPosition.toRecord]

/-- A filled order of the symbol adds its quantity to the position, and its
fill at the fallback price to the fills. -/
theorem Holding.persist (holding : Holding symbol db total) (ids : FillIds) (now : DateTime)
    {order : OrderRecord} (hState : order.executionState = "PAPER_FILLED")
    (hSymbol : order.symbol = symbol.text) (hQuantity : 0 < order.filledQty) (hTotal : 0 ≤ total)
    (hUnbooked : db.paperFills.find? order.id = none) :
    Holding symbol (persistPaperFillAccounting db ids now order).1 (total + order.filledQty) ∧
      (persistPaperFillAccounting db ids now order).1.orders = db.orders ∧
      ∃ fill, (persistPaperFillAccounting db ids now order).1.paperFills.rows =
          db.paperFills.rows ++ [fill] ∧
        fill.orderId = order.id ∧ fill.price = fillPrice order := by
  obtain ⟨account, existing, hAccount, hExisting, hCases⟩ := holding.existing ids.account now
  have hApply : applyPaperOrderFill ids.position account existing
      (paperFillOf ids now account existing order) =
        .ok (buyApplication ids.position account existing
          (paperFillOf ids now account existing order)) := by
    rw [applyPaperOrderFill_eq, openPositionFromBuy_eq_ok]
    refine ⟨hQuantity, ?_, rfl⟩
    intro current hCurrent
    rcases hCases with ⟨rfl, _⟩ | ⟨position, rfl, holds, _⟩
    · cases hCurrent
    · rw [← Option.some.inj hCurrent]
      exact add_pos holds.positive hQuantity
  have hPersist : (persistPaperFillAccounting db ids now order).1 =
      recordFillApplication { db with paperAccount := some account }
        (buyApplication ids.position account existing
          (paperFillOf ids now account existing order)) := by
    simp only [persistPaperFillAccounting, hState, ne_eq, not_true_eq_false, if_false, hAccount,
      hSymbol, hExisting, hApply]
  rw [hPersist]
  refine ⟨.inr ?_, rfl, _, Table.rows_upsert_of_fresh hUnbooked, rfl, rfl⟩
  rcases hCases with ⟨rfl, hRows, rfl⟩ | ⟨position, rfl, holds, rfl⟩
  · refine ⟨_, openedPosition ids.position account (paperFillOf ids now account none order),
      ⟨rfl, rows_upsert_opened hRows _, rfl, hSymbol, rfl, hQuantity⟩, ?_⟩
    exact (zero_add _).symm
  · exact ⟨_, averagedPosition position (paperFillOf ids now account (some position) order),
      ⟨rfl, rows_upsert_averaged holds.rows _, holds.owner, holds.market, rfl,
        add_pos holds.positive hQuantity⟩, rfl⟩

end Holdings

section Orders
variable {symbol : Symbol} {db stored : Database} {now : DateTime} {intent : OrderIntent}
  {outcome : OrderCreateOutcome}

def bookedPrice (intent : OrderIntent) : Decimal := intent.limitPrice.getD intent.quantity

theorem fillPrice_mapOrder (hFilled : intent.expired now = false) :
    fillPrice (mapOrder db (intentRow intent now)) = bookedPrice intent := by
  cases hLimit : intent.limitPrice <;>
    simp [fillPrice, mapOrder, intentRow, hFilled, bookedPrice, hLimit]

theorem quantity_pos_of_valid (hValid : intent.validate = .ok ()) : 0 < intent.quantity := by
  unfold OrderIntent.validate at hValid
  split at hValid
  · cases hValid
  split at hValid
  · cases hValid
  · rename_i hQuantity
    exact not_le.mp hQuantity

theorem isFilledOn_intentRow (side : Side) : isFilledOn side (intentRow intent now) =
    (!intent.expired now && intent.side = side) := by
  cases hExpired : intent.expired now <;> cases hSide : intent.side <;> cases side <;>
    simp [isFilledOn, intentRow, hExpired, hSide, Side.asStr]

theorem filledQuantity_stored (hCreate : createPaperOrder db now intent = .ok (stored, outcome))
    (side : Side) :
    filledQuantity stored side = filledQuantity db side +
      if !intent.expired now && intent.side = side then intent.quantity else 0 := by
  obtain ⟨_, ⟨orders, hOrders, rfl⟩, _⟩ := createPaperOrder_ok hCreate
  have hRows := (Table.insert?_eq_some.mp hOrders).2
  simp only [filledQuantity, hRows, filter_append, map_append, sum_append, ← isFilledOn_intentRow]
  have hQuantity : (intentRow intent now).quantity = intent.quantity := rfl
  by_cases hFilled : isFilledOn side (intentRow intent now) <;> simp [hFilled, hQuantity]

theorem Booked.filledQuantity_nonneg (booked : Booked symbol db) (side : Side) :
    0 ≤ filledQuantity db side := by
  apply sum_nonneg
  intro quantity hQuantity
  obtain ⟨order, hOrder, rfl⟩ := mem_map.mp hQuantity
  exact (booked.positive order (mem_of_mem_filter hOrder)).le

theorem Booked.longQuantity_eq (booked : Booked symbol db) :
    longQuantity db symbol.text = filledQuantity db .buy + filledQuantity db .sell :=
  booked.holding.longQuantity_eq

theorem PricedByOrder.mono {other : Database} {fill : PaperFill}
    (hOrders : ∀ order ∈ db.orders.rows, order ∈ other.orders.rows)
    (hPriced : PricedByOrder db fill) : PricedByOrder other fill := by
  obtain ⟨order, hOrder, hId, hPrice⟩ := hPriced
  exact ⟨order, hOrders order hOrder, hId, hPrice⟩

end Orders

section Step
variable {symbol : Symbol} {db : Database} {request : SymbolRequest symbol}

/-- A request that is refused changes nothing; an expired order is stored and
not booked; a filled one is booked as a purchase at the booked price. -/
theorem handlePaperOrder_cases (booked : Booked symbol db) (request : SymbolRequest symbol) :
    (¬Acceptable db request.1.intent ∧ handlePaperOrder db request = db) ∨
    ∃ stored outcome, createPaperOrder db request.1.now request.1.intent = .ok (stored, outcome) ∧
      Acceptable db request.1.intent ∧
      (handlePaperOrder db request).orders = stored.orders ∧
      stored.orders.rows = db.orders.rows ++ [intentRow request.1.intent request.1.now] ∧
      (request.1.intent.expired request.1.now = true ∧ Holding symbol (handlePaperOrder db request)
            (filledQuantity db .buy + filledQuantity db .sell) ∧
          (handlePaperOrder db request).paperFills.rows = db.paperFills.rows ∨
        request.1.intent.expired request.1.now = false ∧
          Holding symbol (handlePaperOrder db request)
            (filledQuantity db .buy + filledQuantity db .sell + request.1.intent.quantity) ∧
          ∃ fill, (handlePaperOrder db request).paperFills.rows = db.paperFills.rows ++ [fill] ∧
            fill.orderId = request.1.intent.orderId ∧
            fill.price = bookedPrice request.1.intent) := by
  obtain ⟨⟨intent, ids, now⟩, hSymbol⟩ := request
  simp only at hSymbol
  subst hSymbol
  unfold handlePaperOrder createOrder
  cases hCreate : createPaperOrder db now intent with
  | error err =>
    refine .inl ⟨fun hAcceptable => ?_, rfl⟩
    obtain ⟨stored, outcome, hOk⟩ := createPaperOrder_of_acceptable now hAcceptable
    rw [hCreate] at hOk
    cases hOk
  | ok result =>
    obtain ⟨stored, outcome⟩ := result
    obtain ⟨hAcceptable, ⟨orders, hOrders, hStored⟩, hOrder⟩ := createPaperOrder_ok hCreate
    have hRows := (Table.insert?_eq_some.mp hOrders).2
    have hPositive := quantity_pos_of_valid hAcceptable.valid
    refine .inr ⟨stored, outcome, rfl, hAcceptable, ?_⟩
    have holding : Holding intent.symbol stored
        (filledQuantity db .buy + filledQuantity db .sell) := by
      rw [hStored]
      exact booked.holding.congr rfl rfl
    cases hExpired : intent.expired now with
    | true =>
      have hState : outcome.order.executionState ≠ "PAPER_FILLED" := by
        simp [hOrder, mapOrder, intentRow, hExpired]
      simp only [persistPaperFillAccounting, if_pos hState]
      refine ⟨trivial, ?_, .inl ⟨trivial, holding, ?_⟩⟩
      · rw [hStored, hRows]
      · rw [hStored]
    | false =>
      have hState : outcome.order.executionState = "PAPER_FILLED" := by
        simp [hOrder, mapOrder, intentRow, hExpired]
      have hFilledQty : outcome.order.filledQty = intent.quantity := by
        simp [hOrder, mapOrder, intentRow, hExpired]
      have hUnbooked : stored.paperFills.find? outcome.order.id = none := by
        rw [Table.find?_eq_none, hStored, hOrder]
        intro fill hFill hSame
        obtain ⟨order, hMember, hId⟩ := booked.fills fill hFill
        exact hAcceptable.idUnused order hMember (hId.trans hSame)
      obtain ⟨hHolding, hKept, fill, hFills, hFillOrder, hPrice⟩ := holding.persist ids now hState
        (by rw [hOrder]; rfl) (by rw [hFilledQty]; exact hPositive)
        (add_nonneg (booked.filledQuantity_nonneg .buy) (booked.filledQuantity_nonneg .sell))
        hUnbooked
      rw [hFilledQty] at hHolding
      refine ⟨hKept, ?_, .inr ⟨rfl, hHolding, fill, ?_, ?_, ?_⟩⟩
      · rw [hStored, hRows]
      · rw [hFills, hStored]
      · rw [hFillOrder, hOrder]
        rfl
      · rw [hPrice, hOrder, fillPrice_mapOrder hExpired]

variable (request)

theorem Booked.handlePaperOrder (booked : Booked symbol db) :
    Booked symbol (handlePaperOrder db request) := by
  rcases handlePaperOrder_cases booked request with ⟨_, hSame⟩ |
    ⟨stored, outcome, hCreate, hAcceptable, hOrders, hRows, hBooks⟩
  · rw [hSame]
    exact booked
  have hTotal (side : Side) : filledQuantity (Paper.handlePaperOrder db request) side =
      filledQuantity stored side := by
    rw [filledQuantity, hOrders, filledQuantity]
  have hNew : intentRow request.1.intent request.1.now ∈
      (Paper.handlePaperOrder db request).orders.rows := by
    rw [hOrders, hRows]
    simp
  have hOld : ∀ order ∈ db.orders.rows,
      order ∈ (Paper.handlePaperOrder db request).orders.rows := by
    rw [hOrders, hRows]
    exact fun order hOrder => mem_append_left _ hOrder
  constructor
  · rw [hTotal, hTotal, filledQuantity_stored hCreate, filledQuantity_stored hCreate]
    rcases hBooks with ⟨hExpired, hHolding, _⟩ | ⟨hFilled, hHolding, _⟩
    · simpa [hExpired] using hHolding
    · cases hSide : request.1.intent.side
      · simpa [hFilled, hSide, add_right_comm] using hHolding
      · simpa [hFilled, hSide, add_assoc] using hHolding
  · intro fill hFill
    rcases hBooks with ⟨_, _, hFills⟩ | ⟨_, _, new, hFills, hId, _⟩
    · rw [hFills] at hFill
      obtain ⟨order, hOrder, hSame⟩ := booked.fills fill hFill
      exact ⟨order, hOld order hOrder, hSame⟩
    · rw [hFills, mem_append, mem_singleton] at hFill
      rcases hFill with hFill | rfl
      · obtain ⟨order, hOrder, hSame⟩ := booked.fills fill hFill
        exact ⟨order, hOld order hOrder, hSame⟩
      · exact ⟨_, hNew, hId.symm⟩
  · intro order hOrder
    rw [hOrders, hRows, mem_append, mem_singleton] at hOrder
    rcases hOrder with hOrder | rfl
    · exact booked.positive order hOrder
    · exact quantity_pos_of_valid hAcceptable.valid

variable {request}

theorem booksFollowOrders_step_iff (booked : Booked symbol db)
    (hFollow : BooksFollowOrders symbol db) :
    BooksFollowOrders symbol (handlePaperOrder db request) ↔
      (Fills db request → PricedPurchase request.1.intent) := by
  have hNext := booked.handlePaperOrder request
  rw [BooksFollowOrders, hNext.longQuantity_eq]
  have hSell : filledQuantity db .sell = 0 := by
    have hBound := hFollow.1
    rw [booked.longQuantity_eq] at hBound
    linarith [booked.filledQuantity_nonneg .sell]
  rcases handlePaperOrder_cases booked request with ⟨hRefused, hSame⟩ |
    ⟨stored, outcome, hCreate, hAcceptable, hOrders, hRows, hBooks⟩
  · rw [hSame, ← booked.longQuantity_eq]
    exact ⟨fun _ hFills => absurd hFills.1 hRefused, fun _ => hFollow⟩
  have hTotal (side : Side) : filledQuantity (handlePaperOrder db request) side =
      filledQuantity stored side := by
    rw [filledQuantity, hOrders, filledQuantity]
  have hOld : ∀ order ∈ db.orders.rows, order ∈ (handlePaperOrder db request).orders.rows := by
    rw [hOrders, hRows]
    exact fun order hOrder => mem_append_left _ hOrder
  have hKept : ∀ fill ∈ db.paperFills.rows, PricedByOrder (handlePaperOrder db request) fill :=
    fun fill hFill => (hFollow.2 fill hFill).mono hOld
  rw [hTotal, hTotal, filledQuantity_stored hCreate, filledQuantity_stored hCreate, hSell]
  rcases hBooks with ⟨hExpired, _, hFills⟩ | ⟨hFilled, _, new, hFills, hId, hPrice⟩
  · simp only [hExpired, hFills, Bool.not_true, Bool.false_and, Bool.false_eq_true, if_false]
    exact ⟨fun _ hFilled => by simp [hFilled.2] at hExpired, fun _ => ⟨by linarith, hKept⟩⟩
  have hPositive := quantity_pos_of_valid hAcceptable.valid
  have hSide : (filledQuantity db .buy +
        (if !request.1.intent.expired request.1.now && request.1.intent.side = .buy then
          request.1.intent.quantity else 0) +
        (0 + if !request.1.intent.expired request.1.now && request.1.intent.side = .sell then
          request.1.intent.quantity else 0) ≤
      filledQuantity db .buy +
        (if !request.1.intent.expired request.1.now && request.1.intent.side = .buy then
          request.1.intent.quantity else 0) -
        (0 + if !request.1.intent.expired request.1.now && request.1.intent.side = .sell then
          request.1.intent.quantity else 0)) ↔ request.1.intent.side = .buy := by
    cases hSide : request.1.intent.side
    · simp [hFilled]
    · simp only [hFilled, Bool.not_false, Bool.true_and, reduceCtorEq, decide_false,
        Bool.false_eq_true, if_false, decide_true, if_true, iff_false, not_le]
      linarith
  have hPriced : PricedByOrder (handlePaperOrder db request) new ↔
      request.1.intent.limitPrice.isSome := by
    constructor
    · rintro ⟨order, hOrder, hSameId, hOrderPrice⟩
      rw [hOrders, hRows, mem_append, mem_singleton] at hOrder
      rcases hOrder with hOrder | rfl
      · exact absurd (hSameId.trans hId) (hAcceptable.idUnused order hOrder)
      · rcases hOrderPrice with hOrderPrice | hOrderPrice
        · simp only [intentRow, hFilled, Bool.false_eq_true, if_false] at hOrderPrice
          simp [hOrderPrice]
        · simp only [intentRow] at hOrderPrice
          simp [hOrderPrice]
    · intro hLimit
      obtain ⟨limit, hLimit⟩ := Option.isSome_iff_exists.mp hLimit
      refine ⟨intentRow request.1.intent request.1.now, ?_, hId.symm, .inr ?_⟩
      · rw [hOrders, hRows]
        simp
      · rw [hPrice, bookedPrice, hLimit]
        exact hLimit
  rw [hSide, hFills, forall_mem_append, forall_mem_singleton, hPriced]
  constructor
  · rintro ⟨hBuy, _, hLimit⟩ _
    exact ⟨hBuy, hLimit⟩
  · intro hPurchase
    obtain ⟨hBuy, hLimit⟩ := hPurchase ⟨hAcceptable, hFilled⟩
    exact ⟨hBuy, hKept, hLimit⟩

theorem sellDoesNotEnlarge_of_pricedPurchase (booked : Booked symbol db)
    (hPurchase : Fills db request → PricedPurchase request.1.intent) :
    SellDoesNotEnlarge db request := by
  intro hSell
  rcases handlePaperOrder_cases booked request with ⟨_, hSame⟩ |
    ⟨stored, outcome, hCreate, hAcceptable, _, _, hBooks⟩
  · rw [hSame]
  · rcases hBooks with ⟨_, hHolding, _⟩ | ⟨hFilled, _⟩
    · rw [hHolding.longQuantity_eq, booked.longQuantity_eq]
    · have hBuy := (hPurchase ⟨hAcceptable, hFilled⟩).1
      rw [hSell] at hBuy
      cases hBuy

end Step

/-- From books without orders, a sequence of direct orders on one symbol is
followed by the books throughout, and never enlarged by a sale, exactly if
every order it fills is a purchase with a limit price. -/
theorem books_follow_orders_iff (symbol : Symbol) (db : Database)
    (requests : List (SymbolRequest symbol)) (hOrders : db.orders.rows = [])
    (hPositions : db.paperPositions.rows = []) (hFills : db.paperFills.rows = []) :
    (Throughout handlePaperOrder (BooksFollowOrders symbol) db requests ∧
        Along handlePaperOrder SellDoesNotEnlarge db requests) ↔
      Along handlePaperOrder
        (fun reached request => Fills reached request → PricedPurchase request.1.intent)
        db requests := by
  have hStart : Booked symbol db ∧ BooksFollowOrders symbol db := by
    have hNone (side : Side) : filledQuantity db side = 0 := by simp [filledQuantity, hOrders]
    have booked : Booked symbol db := {
      holding := .inl ⟨hPositions, by simp [hNone]⟩
      fills := by simp [hFills]
      positive := by simp [hOrders] }
    refine ⟨booked, ?_, by simp [hFills]⟩
    rw [booked.longQuantity_eq, hNone, hNone]
    norm_num
  have hStep : ∀ reached (request : SymbolRequest symbol),
      Booked symbol reached ∧ BooksFollowOrders symbol reached →
      (Fills reached request → PricedPurchase request.1.intent) →
      Booked symbol (handlePaperOrder reached request) ∧
        BooksFollowOrders symbol (handlePaperOrder reached request) :=
    fun reached request hReached hPurchase =>
      ⟨hReached.1.handlePaperOrder request,
        (booksFollowOrders_step_iff hReached.1 hReached.2).mpr hPurchase⟩
  have hFollow := along_iff_of_invariant
    (G := fun reached request => BooksFollowOrders symbol (handlePaperOrder reached request))
    (fun reached request hReached => booksFollowOrders_step_iff hReached.1 hReached.2) hStep
    requests hStart
  rw [throughout_iff_along, and_iff_right hStart.2, hFollow, and_iff_left_iff_imp]
  exact along_of_invariant (fun reached request hReached hPurchase =>
    sellDoesNotEnlarge_of_pricedPurchase hReached.1 hPurchase) hStep hStart

def bitcoin : Symbol := .btcusdt

/-- No orders yet, and one approved risk decision. -/
def approvedBooks : Database :=
  { Database.empty with
    riskDecisions := ⟨[{
      id := ⟨7⟩
      correlationId := ⟨8⟩
      signalId := none
      decision := "APPROVED"
      rationale := .null
      decidedAt := 0 }], by simp⟩ }

def directIntent (side : Side) (limitPrice : Option Decimal) : OrderIntent where
  orderId := ⟨1⟩
  correlationId := ⟨8⟩
  riskDecisionId := ⟨7⟩
  idempotencyKey := "direct-1"
  symbol := bitcoin
  side := side
  quantity := 3
  limitPrice := limitPrice
  createdAt := 0
  expiresAt := none

def directOrder (side : Side) (limitPrice : Option Decimal) : SymbolRequest bitcoin :=
  ⟨{ intent := directIntent side limitPrice, ids := ⟨⟨9⟩, ⟨10⟩, ⟨11⟩⟩, now := 0 }, rfl⟩

/-- A priced purchase is followed by the books. -/
theorem books_follow_priced_purchase :
    Throughout handlePaperOrder (BooksFollowOrders bitcoin) approvedBooks
      [directOrder .buy (some 100)] :=
  ((books_follow_orders_iff bitcoin approvedBooks [directOrder .buy (some 100)] rfl rfl rfl).mpr
    ⟨fun _ => ⟨rfl, rfl⟩, trivial⟩).1

/-- A filled sale of 3 leaves a long position of 3 where the orders allow -3,
and a purchase of 3 without a limit price is booked at the price 3. -/
theorem books_diverge_on_sale_and_unpriced_purchase :
    (longQuantity (handlePaperOrder approvedBooks (directOrder .sell (some 100))) bitcoin.text = 3 ∧
      filledQuantity (handlePaperOrder approvedBooks (directOrder .sell (some 100))) .buy -
        filledQuantity (handlePaperOrder approvedBooks (directOrder .sell (some 100))) .sell = -3) ∧
    ((handlePaperOrder approvedBooks (directOrder .buy none)).paperFills.rows.map (·.price) = [3] ∧
      (handlePaperOrder approvedBooks (directOrder .buy none)).orders.rows.map
        (fun order => (order.filledPrice, order.limitPrice)) = [(none, none)]) ∧
    ¬BooksFollowOrders bitcoin (handlePaperOrder approvedBooks (directOrder .sell (some 100))) ∧
    ¬BooksFollowOrders bitcoin (handlePaperOrder approvedBooks (directOrder .buy none)) := by
  have hSale : longQuantity (handlePaperOrder approvedBooks (directOrder .sell (some 100)))
      bitcoin.text = 3 := by decide +kernel
  have hNet : filledQuantity (handlePaperOrder approvedBooks (directOrder .sell (some 100))) .buy -
      filledQuantity (handlePaperOrder approvedBooks (directOrder .sell (some 100))) .sell = -3 := by
    decide +kernel
  have hPrices : (handlePaperOrder approvedBooks (directOrder .buy none)).paperFills.rows.map
      (·.price) = [3] := by decide +kernel
  have hOrders : (handlePaperOrder approvedBooks (directOrder .buy none)).orders.rows.map
      (fun order => (order.filledPrice, order.limitPrice)) = [(none, none)] := by decide +kernel
  refine ⟨⟨hSale, hNet⟩, ⟨hPrices, hOrders⟩, ?_, ?_⟩
  · rintro ⟨hBound, _⟩
    rw [hSale, hNet] at hBound
    norm_num at hBound
  · rintro ⟨_, hPriced⟩
    obtain ⟨fill, hFill, -⟩ := exists_of_mem_map (by rw [hPrices]; exact mem_singleton_self _)
    obtain ⟨order, hOrder, -, hPrice⟩ := hPriced fill hFill
    have hNone := mem_map_of_mem (f := fun order : OrderRow =>
      (order.filledPrice, order.limitPrice)) hOrder
    rw [hOrders, mem_singleton, Prod.mk.injEq] at hNone
    rw [hNone.1, hNone.2] at hPrice
    simp at hPrice

end AegisQuant.Paper
