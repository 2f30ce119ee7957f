import AegisQuant.Paper.BookStatements
import AegisQuant.Paper.BooksFollowOrders
import Mathlib.Data.List.Find

/-! Books that hold at most one open position in each symbol. A filled order
adds its quantity to the position of its symbol, and the row of its fill is
the fourth statement of its accounting. -/
namespace AegisQuant.Paper
open List Option

/-- The positions are open ones of the account, one for each symbol held, and
hold `total`. -/
def Stocks (db : Database) (total : String → Decimal) : Prop :=
  ∃ positions : List PaperPosition,
    db.paperPositions.rows = positions.map (·.toRecord) ∧ (positions.map (·.symbol)).Nodup ∧
      (∀ position ∈ positions, position.status = .open ∧ 0 < position.quantity ∧
        db.paperAccount.map (·.id) = some position.accountId) ∧
      ∀ symbol, ((positions.find? (·.symbol = symbol)).map (·.quantity)).getD 0 = total symbol

/-- The tables that the quantities and the fills are read from are the same. -/
structure SameStock (db other : Database) : Prop where
  positions : other.paperPositions = db.paperPositions
  fills : other.paperFills = db.paperFills
  orders : other.orders = db.orders
  account : other.paperAccount.map (·.id) = db.paperAccount.map (·.id)

section Stocks
variable {db : Database} {total : String → Decimal} {account : PaperAccount}

theorem Stocks.congr {other : Database} (hStocks : Stocks db total)
    (hPositions : other.paperPositions = db.paperPositions)
    (hAccount : other.paperAccount.map (·.id) = db.paperAccount.map (·.id)) : Stocks other total := by
  obtain ⟨positions, hRows, hSymbols, hOpen, hTotal⟩ := hStocks
  exact ⟨positions, hPositions ▸ hRows, hSymbols, by rwa [hAccount], hTotal⟩

theorem stocks_of_no_positions (hRows : db.paperPositions.rows = []) : Stocks db fun _ => 0 :=
  ⟨[], hRows, nodup_nil, by simp, fun _ => rfl⟩

variable {positions : List PaperPosition}

theorem getOpenPaperPosition_of_rows (hRows : db.paperPositions.rows = positions.map (·.toRecord))
    (hOpen : ∀ position ∈ positions, position.status = .open ∧ position.accountId = account.id)
    (symbol : String) : getOpenPaperPosition db account.id symbol .long =
      (positions.find? (·.symbol = symbol)).map (·.toRecord) := by
  rw [getOpenPaperPosition, hRows, find?_map]
  congr 1
  apply find?_congr
  intro position hPosition
  obtain ⟨hStatus, hOwner⟩ := hOpen position hPosition
  cases hSide : position.side
  simp [isOpenPositionOf, PaperPosition.toRecord, hStatus, hOwner, hSide, PositionStatus.asStr]

theorem Stocks.longQuantity_eq (hStocks : Stocks db total) (symbol : String) :
    longQuantity db symbol = total symbol := by
  obtain ⟨positions, hRows, -, hOpen, hTotal⟩ := hStocks
  rw [← hTotal symbol]
  unfold longQuantity
  cases hAccount : db.paperAccount with
  | none =>
    have hNone : positions = [] := by
      rw [eq_nil_iff_forall_not_mem]
      intro position hPosition
      simpa [hAccount] using (hOpen position hPosition).2.2
    rw [hNone]
    rfl
  | some account =>
    rw [hAccount] at hOpen
    have hOwned (position : PaperPosition) (hPosition : position ∈ positions) :
        position.status = .open ∧ position.accountId = account.id :=
      ⟨(hOpen position hPosition).1, (some.inj (hOpen position hPosition).2.2).symm⟩
    have hHeld := getOpenPaperPosition_of_rows hRows hOwned symbol
    simp only [hHeld]
    cases positions.find? (·.symbol = symbol) with
    | none => rfl
    | some position => rfl

theorem Stocks.indexed (hStocks : Stocks db total) :
    Table.Indexed openKey db.paperPositions.rows := by
  obtain ⟨positions, hRows, hSymbols, hOpen, -⟩ := hStocks
  have hKeys : db.paperPositions.rows.filterMap openKey =
      positions.map fun position => (position.accountId, position.symbol, position.side.asStr) := by
    rw [hRows, filterMap_map, ← filterMap_eq_map]
    apply filterMap_congr
    intro position hPosition
    have hStored : position.toRecord.status = "open" :=
      PositionStatus.asStr_eq_open.mpr (hOpen position hPosition).1
    simp only [Function.comp_apply, openKey, if_pos hStored]
    rfl
  rw [Table.Indexed, hKeys]
  apply List.Nodup.of_map (fun key : Uuid × String × String => key.2.1)
  rw [List.map_map]
  exact hSymbols

/-- Opening a position in a symbol not held. -/
theorem stocks_opened {opened : PaperPosition}
    (hRows : db.paperPositions.rows = positions.map (·.toRecord))
    (hSymbols : (positions.map (·.symbol)).Nodup)
    (hOpen : ∀ position ∈ positions, position.status = .open ∧ 0 < position.quantity ∧
      db.paperAccount.map (·.id) = some position.accountId)
    (hUnheld : positions.find? (·.symbol = opened.symbol) = none)
    (hOpened : opened.status = .open ∧ 0 < opened.quantity ∧
      db.paperAccount.map (·.id) = some opened.accountId)
    (hNew : db.paperPositions.find? opened.id = none) :
    Stocks { db with paperPositions := upsertPaperPosition db.paperPositions opened } fun symbol =>
      ((positions.find? (·.symbol = symbol)).map (·.quantity)).getD 0 +
        if symbol = opened.symbol then opened.quantity else 0 := by
  have hFresh : ∀ position ∈ positions, position.symbol ≠ opened.symbol := by
    simpa [find?_eq_none] using hUnheld
  refine ⟨positions ++ [opened], ?_, ?_, ?_, fun symbol => ?_⟩
  · have hUnused : db.paperPositions.find? opened.toRecord.id = none := hNew
    simp only [upsertPaperPosition, Table.rows_upsert_of_fresh hUnused, hRows, map_append,
      map_cons, map_nil]
  · rw [map_append, nodup_append]
    refine ⟨hSymbols, by simp, ?_⟩
    intro first hFirst second hSecond
    obtain ⟨position, hPosition, rfl⟩ := mem_map.mp hFirst
    simp only [map_cons, map_nil, mem_singleton] at hSecond
    exact hSecond ▸ hFresh position hPosition
  · rw [forall_mem_append, forall_mem_singleton]
    exact ⟨hOpen, hOpened⟩
  · rw [find?_append]
    by_cases hSymbol : symbol = opened.symbol
    · subst hSymbol
      simp [hUnheld]
    · simp [hSymbol, Ne.symm hSymbol]

theorem stocks_averaged {current : PaperPosition} (fill : PaperFill)
    (hRows : db.paperPositions.rows = positions.map (·.toRecord))
    (hSymbols : (positions.map (·.symbol)).Nodup)
    (hOpen : ∀ position ∈ positions, position.status = .open ∧ 0 < position.quantity ∧
      db.paperAccount.map (·.id) = some position.accountId)
    (hHeld : positions.find? (·.symbol = fill.symbol) = some current)
    (hQuantity : 0 < fill.quantity) :
    Stocks { db with
      paperPositions := upsertPaperPosition db.paperPositions (averagedPosition current fill) }
      fun symbol => ((positions.find? (·.symbol = symbol)).map (·.quantity)).getD 0 +
        if symbol = fill.symbol then fill.quantity else 0 := by
  have hMember := mem_of_find?_eq_some hHeld
  have hSymbol : current.symbol = fill.symbol := by simpa using find?_some hHeld
  let updated (position : PaperPosition) : PaperPosition :=
    if position.id = current.id then averagedPosition current fill else position
  have hSame {position : PaperPosition} (hPosition : position ∈ positions)
      (hId : position.id = current.id) : position = current := by
    have hIds : (positions.map (·.id)).Nodup := by
      have hUnique := db.paperPositions.unique
      rw [hRows, List.map_map] at hUnique
      exact hUnique
    exact inj_on_of_nodup_map hIds hPosition hMember hId
  have hKept {position : PaperPosition} (hPosition : position ∈ positions) :
      (updated position).symbol = position.symbol := by
    by_cases hId : position.id = current.id
    · rw [hSame hPosition hId]
      simp only [updated, if_true]
      rfl
    · simp only [updated, if_neg hId]
  refine ⟨positions.map updated, ?_, ?_, ?_, fun symbol => ?_⟩
  · have hPresent : db.paperPositions.find? (averagedPosition current fill).toRecord.id ≠ none := by
      have hStored : current.toRecord ∈ db.paperPositions.rows := hRows ▸ mem_map_of_mem hMember
      exact fun hNone => Table.find?_eq_none.mp hNone _ hStored rfl
    simp only [upsertPaperPosition, Table.rows_upsert_of_present hPresent, hRows, List.map_map]
    apply List.map_congr_left
    intro position hPosition
    by_cases hId : position.id = current.id
    · rw [hSame hPosition hId]
      simp [updated, mergePosition, averagedPosition, PaperPosition.toRecord]
    · simp [updated, hId, averagedPosition, PaperPosition.toRecord]
  · have hMap : (positions.map updated).map (·.symbol) = positions.map (·.symbol) := by
      rw [List.map_map]
      exact map_congr_left fun position hPosition => hKept hPosition
    rw [hMap]
    exact hSymbols
  · intro position hPosition
    obtain ⟨old, hOld, rfl⟩ := mem_map.mp hPosition
    obtain ⟨hStatus, hPositive, hOwner⟩ := hOpen old hOld
    by_cases hId : old.id = current.id
    · rw [hSame hOld hId] at hPositive hOwner ⊢
      simp only [updated, if_true]
      exact ⟨rfl, add_pos hPositive hQuantity, hOwner⟩
    · simp only [updated, if_neg hId]
      exact ⟨hStatus, hPositive, hOwner⟩
  · have hFind : (positions.map updated).find? (·.symbol = symbol) =
        (positions.find? (·.symbol = symbol)).map updated := by
      rw [find?_map]
      congr 1
      exact find?_congr fun position hPosition => by
        simp only [Function.comp_apply, hKept hPosition]
    rw [hFind]
    by_cases hTraded : symbol = fill.symbol
    · subst hTraded
      simp only [hHeld, map_some, updated, if_true]
      rfl
    · cases hOther : positions.find? (·.symbol = symbol) with
      | none => simp [hTraded, hOther]
      | some other =>
        have hOtherSymbol : other.symbol = symbol := by simpa using find?_some hOther
        have hId : other.id ≠ current.id := by
          intro hId
          rw [hSame (mem_of_find?_eq_some hOther) hId] at hOtherSymbol
          exact hTraded (hOtherSymbol.symm.trans hSymbol)
        simp [updated, hId, hTraded, hOther]

/-- What a fill of `order` finds and adds. -/
theorem Stocks.buy (hStocks : Stocks db total) (hAccount : db.paperAccount = some account)
    (call : FillCall) (hQuantity : 0 < call.order.filledQty)
    (hNew : db.paperPositions.find? call.ids.position = none) :
    ∃ existing application, computeFill db account call = .ok (existing, application) ∧
      application.account.id = account.id ∧ application.fill.orderId = call.order.id ∧
      upsertPaperPosition? db.paperPositions application.position =
        some (upsertPaperPosition db.paperPositions application.position) ∧
      Stocks { db with paperPositions := upsertPaperPosition db.paperPositions application.position }
        fun symbol => total symbol + if symbol = call.order.symbol then call.order.filledQty else 0 := by
  obtain ⟨positions, hRows, hSymbols, hOpen, hTotal⟩ := hStocks
  have hOwner : db.paperAccount.map (·.id) = some account.id := by rw [hAccount, map_some]
  have hOwned (position : PaperPosition) (hPosition : position ∈ positions) :
      position.status = .open ∧ position.accountId = account.id :=
    ⟨(hOpen position hPosition).1, some.inj ((hOpen position hPosition).2.2.symm.trans hOwner)⟩
  have hHeld := getOpenPaperPosition_of_rows hRows hOwned call.order.symbol
  have hRead : openPaperPosition db account.id call.order.symbol =
      .ok (positions.find? (·.symbol = call.order.symbol)) := by
    rw [openPaperPosition, hHeld]
    cases positions.find? (·.symbol = call.order.symbol) with
    | none => rfl
    | some position =>
      simp only [map_some, paperPositionFromRecord_toRecord]
      rfl
  have hPositive (current : PaperPosition)
      (hCurrent : positions.find? (·.symbol = call.order.symbol) = some current) :
      0 < current.quantity + call.order.filledQty :=
    add_pos (hOpen current (mem_of_find?_eq_some hCurrent)).2.1 hQuantity
  have hCompute := computeFill_eq_ok.mpr ⟨hRead, hQuantity, hPositive, rfl⟩
  refine ⟨_, _, hCompute, rfl, rfl, ?_⟩
  have hStocks (existing : Option PaperPosition)
      (hExisting : positions.find? (·.symbol = call.order.symbol) = existing) :
      let bought := boughtPosition call.ids.position account existing
        (paperFillOf call.ids call.now account existing call.order)
      Stocks { db with paperPositions := upsertPaperPosition db.paperPositions bought }
        fun symbol => total symbol + if symbol = call.order.symbol then call.order.filledQty else 0 := by
    simp only [← hTotal]
    cases existing with
    | some current => exact stocks_averaged _ hRows hSymbols hOpen hExisting hQuantity
    | none => exact stocks_opened hRows hSymbols hOpen hExisting ⟨rfl, hQuantity, hOwner⟩ hNew
  exact ⟨if_pos (hStocks _ rfl).indexed, hStocks _ rfl⟩

/-- An account that is created finds no positions. -/
theorem Stocks.ensured (hStocks : Stocks db total) (freshId : Uuid) (now : DateTime) :
    Stocks (ensureDefaultPaperAccount db freshId now).1 total := by
  cases hAccount : db.paperAccount with
  | some account =>
    refine hStocks.congr rfl ?_
    simp only [ensureDefaultPaperAccount, createDefaultPaperAccountIfMissing, hAccount]
  | none =>
    obtain ⟨positions, hRows, hSymbols, hOpen, hTotal⟩ := hStocks
    have hNone : positions = [] := by
      rw [eq_nil_iff_forall_not_mem]
      intro position hPosition
      simpa [hAccount] using (hOpen position hPosition).2.2
    subst hNone
    exact ⟨[], hRows, hSymbols, by simp, hTotal⟩

end Stocks

section Statements
variable {db : Database}

theorem insertPaperAccount_default (freshId : Uuid) (now : DateTime) :
    insertPaperAccount db.paperAccount
        (createDefaultPaperAccountIfMissing db.paperAccount freshId now) =
      some (createDefaultPaperAccountIfMissing db.paperAccount freshId now) := by
  cases db.paperAccount with
  | none => rfl
  | some account => exact if_pos rfl

theorem insertPaperAccount_id {stored account : PaperAccount} {current : Option PaperAccount}
    {id : Uuid} (hCurrent : current.map (·.id) = some id)
    (hInsert : insertPaperAccount current account = some stored) : stored.id = id := by
  cases current with
  | none => cases hCurrent
  | some current =>
    simp only [insertPaperAccount] at hInsert
    split at hInsert
    · rename_i hSame
      rw [← some.inj hInsert]
      exact hSame.symm.trans (some.inj hCurrent)
    · cases hInsert

def CallPhase.FillWritten : CallPhase → Prop
  | .fillWritten .. | .accountWritten .. | .succeeded _ | .failed => True
  | _ => False

theorem nextStatement_of_fillWritten {phase : CallPhase} {id : Uuid} (hWritten : phase.FillWritten)
    (hAccount : db.paperAccount.map (·.id) = some id) :
    SameStock db (nextStatement db phase).1 ∧ (nextStatement db phase).2.FillWritten := by
  cases phase with
  | fillWritten call account application =>
    simp only [nextStatement]
    cases hInsert : insertPaperAccount db.paperAccount application.account with
    | none => exact ⟨⟨rfl, rfl, rfl, rfl⟩, trivial⟩
    | some stored =>
      refine ⟨⟨rfl, rfl, rfl, ?_⟩, trivial⟩
      rw [hAccount, map_some, insertPaperAccount_id hAccount hInsert]
  | accountWritten call application pending =>
    cases pending with
    | nil | cons entry rest => exact ⟨⟨rfl, rfl, rfl, rfl⟩, trivial⟩
  | succeeded call => exact ⟨⟨rfl, rfl, rfl, rfl⟩, trivial⟩
  | failed => exact ⟨⟨rfl, rfl, rfl, rfl⟩, trivial⟩
  | _ => exact hWritten.elim

/-- The accounting of a filled order on books that hold at most one position a
symbol. From its fourth statement on, and when it runs as a whole, the stock
is that with the order bought and the fill stored. -/
theorem stock_after_fill {total : String → Decimal} (hStocks : Stocks db total) (call : FillCall)
    (hFilled : call.order.executionState = "PAPER_FILLED") (hQuantity : 0 < call.order.filledQty)
    (hNew : db.paperPositions.find? call.ids.position = none) :
    ∃ booked fill, fill.orderId = call.order.id ∧
      booked.paperFills = insertPaperFill db.paperFills fill ∧ booked.orders = db.orders ∧
      Stocks booked (fun symbol =>
        total symbol + if symbol = call.order.symbol then call.order.filledQty else 0) ∧
      SameStock booked (persistPaperFillAccounting db call.ids call.now call.order).1 ∧
      ∀ count, SameStock booked (afterStatements db (.fill call) (count + 4)).1 := by
  let account := createDefaultPaperAccountIfMissing db.paperAccount call.ids.account call.now
  let ensured : Database := { db with paperAccount := some account }
  have hEnsured : Stocks ensured total := hStocks.ensured call.ids.account call.now
  obtain ⟨existing, application, hCompute, hId, hOrder, hUpsert, hBought⟩ :=
    hEnsured.buy rfl call hQuantity hNew
  let fill : PaperFill := { application.fill with positionId := some application.position.id }
  let booked : Database := { ensured with
    paperPositions := upsertPaperPosition db.paperPositions application.position
    paperFills := insertPaperFill db.paperFills fill }
  refine ⟨booked, fill, hOrder, rfl, rfl, hBought.congr rfl rfl, ?_, fun count => ?_⟩
  · have hPersist : persistPaperFillAccounting db call.ids call.now call.order =
        persistPaperFillAccounting ensured call.ids call.now call.order := by
      simp only [persistPaperFillAccounting, hFilled, ne_eq, not_true_eq_false, if_false]
      rfl
    rw [hPersist, persistPaperFillAccounting_of_computeFill hFilled rfl hCompute]
    exact ⟨rfl, rfl, rfl, congrArg some hId⟩
  · have hBegin : beginCall db (.fill call) = .accountRead (.fill call) account := by
      simp only [beginCall, hFilled, ne_eq, not_true_eq_false, if_false]
      rfl
    have hFirst : afterStatements db (.fill call) 1 =
        (ensured, .accountEnsured (.fill call) account) := by
      have hInsert : insertPaperAccount db.paperAccount account = some account :=
        insertPaperAccount_default call.ids.account call.now
      simp only [afterStatements, hBegin, nextStatement, hInsert, ensured]
    have hSecond : afterStatements db (.fill call) 2 =
        (ensured, .fillComputed call account existing application) := by
      rw [afterStatements, hFirst]
      simp only [nextStatement, hCompute]
    have hThird : afterStatements db (.fill call) 3 = ({ ensured with
          paperPositions := upsertPaperPosition db.paperPositions application.position },
          .positionWritten call account application) := by
      rw [afterStatements, hSecond]
      simp only [nextStatement, hUpsert, ensured]
    have hFourth : afterStatements db (.fill call) 4 =
        (booked, .fillWritten call account application) := by
      rw [afterStatements, hThird]
      rfl
    have hLater : SameStock booked (afterStatements db (.fill call) (count + 4)).1 ∧
        (afterStatements db (.fill call) (count + 4)).2.FillWritten := by
      induction count with
      | zero =>
        rw [hFourth]
        exact ⟨⟨rfl, rfl, rfl, rfl⟩, trivial⟩
      | succ count ih =>
        obtain ⟨hSame, hWritten⟩ := ih
        obtain ⟨hNext, hStill⟩ := nextStatement_of_fillWritten hWritten hSame.account
        exact ⟨⟨hNext.positions.trans hSame.positions, hNext.fills.trans hSame.fills,
          hNext.orders.trans hSame.orders, hNext.account.trans hSame.account⟩, hStill⟩
    exact hLater.1

end Statements

end AegisQuant.Paper
