import AutoTrade.Lib.Grouping
import AutoTrade.Order.Economics
import Mathlib.Data.List.Sort
import Mathlib.Data.String.Basic
import Mathlib.Logic.Relation

/-!
# The order book

The executable model of `order_projection.OrderBookProjection`: registration of
orders, the effective fills of all orders and the OCO breaches of their
histories.

An order object stays shared with its caller, so a step of the book is a
registration or any call on a registered order.
-/

namespace AutoTrade.Order

open Lib Numeric

structure OrderBookProjection where
  providerId : String
  accountId : String
  environment : Environment
  orders : Dict String OrderProjection
  registeredIdentities : Dict String RegistrationIdentity
  amendChildren : Dict String String
  deriving DecidableEq, Repr

namespace OrderBookProjection

/-- `OrderBookProjection.__init__`. -/
def create [CaseMap] (providerId accountId environmentName : String) :
    Except OrderError OrderBookProjection := do
  let provider ← text providerId "provider_id"
  let account ← text accountId "account_id"
  let environment ← Order.environment environmentName
  pure {
    providerId := upper provider
    accountId := account
    environment := environment
    orders := ∅
    registeredIdentities := ∅
    amendChildren := ∅ }

/-- `_assert_registered_identity`. -/
def assertRegisteredIdentity (book : OrderBookProjection) (registeredId : String)
    (order : OrderProjection) : Except OrderError Unit :=
  if book.registeredIdentities.get? registeredId ≠ some order.registrationIdentity then
    .error (.conflict "registered order identity changed")
  else .ok ()

/-- `_checked_orders`. -/
def checkedOrders (book : OrderBookProjection) :
    Except OrderError (List (String × OrderProjection)) := do
  book.orders.entries.forM fun entry => book.assertRegisteredIdentity entry.1 entry.2
  pure book.orders.entries

/-- `order`. -/
def order (book : OrderBookProjection) (clientOrderId : String) :
    Except OrderError OrderProjection := do
  let orderId ← text clientOrderId "client_order_id"
  match book.orders.get? orderId with
  | none => .error (.keyError s!"Unknown order: {orderId}")
  | some order => do
      book.assertRegisteredIdentity orderId order
      pure order

/-! ## Registration -/

/-- The checks of an order that amends another. -/
def assertAmendment (book : OrderBookProjection) (order : OrderProjection) :
    Option String → Except OrderError Unit
  | none => .ok ()
  | some parent =>
      if book.orders.get? parent = none then .error (.keyError parent)
      else do
        let parentOrder ← book.order parent
        if order.instrument ≠ parentOrder.instrument then
          .error (.conflict "amendment child instrument differs from parent")
        else if order.side ≠ parentOrder.side then
          .error (.conflict "amendment child side differs from parent")
        else if order.ocoGroupId ≠ parentOrder.ocoGroupId then
          .error (.conflict "amendment child OCO group differs from parent")
        else if book.amendChildren.get? parent ≠ none ∧
            book.amendChildren.get? parent ≠ some order.clientOrderId then
          .error (.conflict "parent intent already has another amendment child")
        else .ok ()

/-- The assignments of an accepted registration. -/
def insertOrder (book : OrderBookProjection) (order : OrderProjection) : OrderBookProjection :=
  { book with
    orders := book.orders.set order.clientOrderId order
    registeredIdentities :=
      book.registeredIdentities.set order.clientOrderId order.registrationIdentity
    amendChildren := match order.parentIntentId with
      | none => book.amendChildren
      | some parent => book.amendChildren.set parent order.clientOrderId }

/-- `register`.  `held` says whether the order object is one of the book's. -/
def register (book : OrderBookProjection) (order : OrderProjection) (held : Bool) :
    Except OrderError (OrderBookProjection × Bool) := do
  let _ ← book.checkedOrders
  if held then pure (book, false)
  else if order.providerId ≠ book.providerId ∨ order.accountId ≠ book.accountId ∨
      order.environment ≠ book.environment then
    .error (.conflict "order provider/account/environment scope differs from book")
  else if book.orders.get? order.clientOrderId ≠ none then
    .error (.conflict "client_order_id already registered")
  else do
    book.assertAmendment order order.parentIntentId
    pure (book.insertOrder order, true)

/-! ## Effective fills -/

/-- The executions of a history, claimed for its order. -/
def claimExecutions (registeredId : String) (owners : Dict String String)
    (history : List FillRecord) : Except OrderError (Dict String String) :=
  history.foldlM (fun owners observation =>
    if (owners.get? observation.providerExecutionId).any fun prior => prior ≠ registeredId then
      .error (.conflict "provider_execution_id appears in multiple orders")
    else .ok (owners.set observation.providerExecutionId registeredId)) owners

/-- One order of `effective_fills`. -/
def gatherFills (gathered : List FillRecord × Dict String String)
    (entry : String × OrderProjection) :
    Except OrderError (List FillRecord × Dict String String) := do
  let owners ← claimExecutions entry.1 gathered.2 entry.2.history
  pure (gathered.1 ++ entry.2.activeFills, owners)

/-- `effective_fills`. -/
def effectiveFills (book : OrderBookProjection) : Except OrderError (List FillRecord) := do
  let checked ← book.checkedOrders
  let gathered ← checked.foldlM gatherFills ([], ∅)
  pure gathered.1

/-! ## OCO breaches -/

/-- The OCO group of an order whose history contains an execution. -/
def executedGroup (entry : String × OrderProjection) : Option String :=
  if entry.2.historicalExecutionObserved then entry.2.ocoGroupId else none

/-- The groups in which more than one order was executed. -/
def breachedGroups (entries : List (String × OrderProjection)) : Dict String (List String) :=
  ((Dict.grouped executedGroup entries).filterValues fun orders => 1 < orders.length).mapValues
    fun orders => (orders.map Prod.fst).insertionSort (· ≤ ·)

/-- `oco_breaches`. -/
def ocoBreaches (book : OrderBookProjection) : Except OrderError (Dict String (List String)) := do
  let checked ← book.checkedOrders
  pure (breachedGroups checked)

/-! ## Steps -/

/-- A call on a registered order. -/
def call [CaseMap] (book : OrderBookProjection) (clientOrderId : String)
    (order : OrderProjection) (invocation : Call) : OrderBookProjection :=
  { book with orders := book.orders.set clientOrderId (order.step invocation) }

/-- What a book is subject to. -/
inductive Step [CaseMap] (book : OrderBookProjection) : OrderBookProjection → Prop where
  | register {order : OrderProjection} {held accepted : Bool} {next : OrderBookProjection}
      (reached : order.Reachable) (success : book.register order held = .ok (next, accepted)) :
      Step book next
  | call {clientOrderId : String} {order : OrderProjection}
      (registered : book.orders.get? clientOrderId = some order) (invocation : Call) :
      Step book (book.call clientOrderId order invocation)

/-- The run of a book to a later state. -/
abbrev Runs [CaseMap] : OrderBookProjection → OrderBookProjection → Prop :=
  Relation.ReflTransGen Step

/-- The states that a book reaches. -/
def Reachable [CaseMap] (book : OrderBookProjection) : Prop :=
  ∃ providerId accountId environmentName start,
    create providerId accountId environmentName = .ok start ∧ Runs start book

end OrderBookProjection

end AutoTrade.Order
