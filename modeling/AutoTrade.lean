import AutoTrade.Reservation.Conservation
import AutoTrade.Order.Redelivery
import AutoTrade.Order.Lifecycle
import AutoTrade.Order.Atomicity
import AutoTrade.Order.BookEconomics
import AutoTrade.Accounting.ReplayOrder
import AutoTrade.Settlement.DueSettlement
import AutoTrade.Settlement.SettledCash
import AutoTrade.Store.JournalIntegrity
import AutoTrade.Store.ExactlyOnce
import AutoTrade.Store.Acceptance
import AutoTrade.Budget.Overbooking
import AutoTrade.Futures.Conservation
import AutoTrade.Reconciliation.OrderIndependence
import AutoTrade.Dispatch.ZeroWire
import AutoTrade.Dispatch.Provenance
import AutoTrade.Instruments.Stability
import AutoTrade.Recovery.Freshness
import AutoTrade.Accounting.LotSales
import AutoTrade.Futures.Rounding
import AutoTrade.Accounting.FinancialPlan
import AutoTrade.CorporateActions.Splits
import AutoTrade.Risk.Monotone
import AutoTrade.Risk.Tampering
import AutoTrade.Fx.Monotone
import AutoTrade.Margin.Conservative
import AutoTrade.Perpetuals.RoundTrip
import AutoTrade.Specialists.Consensus
import AutoTrade.Execution.Fills
import AutoTrade.Settlement.BuyingPower
import AutoTrade.Research.Universe
import AutoTrade.Accounting.Decoding
