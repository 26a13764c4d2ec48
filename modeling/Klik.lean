import Klik.Agents.AgentService
import Klik.Agents.FeeSplit
import Klik.Agents.MSCAgreements
import Klik.Aliases.AliasService
import Klik.Aliases.AliasZones
import Klik.Aliases.Models
import Klik.Aliases.RegistryOwnership
import Klik.Aliases.RegistrySystem
import Klik.Aliases.UsableAccounts
import Klik.BankIO.AuthorizationBooks
import Klik.BankIO.Authorizations
import Klik.BankIO.ChequeHolds
import Klik.BankIO.ChequeRequests
import Klik.BankIO.Cheques
import Klik.BankIO.ChequesMatched
import Klik.BankIO.ChequesPaid
import Klik.BankIO.ChequesRefined
import Klik.BankIO.ConfirmSystem
import Klik.BankIO.HoldBooks
import Klik.BankIO.HoldsOnce
import Klik.BankIO.HoldsReturned
import Klik.BankIO.JointRuns
import Klik.BankIO.MandateBooks
import Klik.BankIO.Mandates
import Klik.BankIO.PaymentsDebited
import Klik.BankIO.PaymentsSettled
import Klik.BankIO.RecurringSystem
import Klik.BankIO.RunOutcomes
import Klik.BankIO.RunsExecuted
import Klik.Banks.BankClean
import Klik.Banks.Models
import Klik.Cheques.ActiveCodes
import Klik.Cheques.ChequeEvents
import Klik.Cheques.ChequeSafety
import Klik.Cheques.ChequeSystem
import Klik.Cheques.ChequeZones
import Klik.Cheques.Models
import Klik.Cheques.Notices
import Klik.Cheques.RedeemWhole
import Klik.Cheques.StatusView
import Klik.Cheques.Views
import Klik.Codes.CodeExpiry
import Klik.Codes.CodeLifecycle
import Klik.Codes.CodeService
import Klik.Codes.CodesPaid
import Klik.Codes.ConfirmBooks
import Klik.Codes.ConfirmOnce
import Klik.Codes.Models
import Klik.Codes.PaymentConfirm
import Klik.Codes.PaymentDeadline
import Klik.Codes.PaymentInitiate
import Klik.Codes.PaymentRow
import Klik.Codes.PaymentZones
import Klik.Codes.StatusView
import Klik.Codes.WebhookRetries
import Klik.Codes.WebhookTask
import Klik.Common.Account
import Klik.Common.AccountGrammar
import Klik.Common.Enums
import Klik.Common.Exceptions
import Klik.Common.Phone
import Klik.Common.PhoneGrammar
import Klik.Idempotency.Decorator
import Klik.Idempotency.DurableReplay
import Klik.Idempotency.EffectOnce
import Klik.Idempotency.KeyedCreation
import Klik.Idempotency.ReplayLaw
import Klik.Idempotency.ReplyOrigin
import Klik.Idempotency.RequestSystem
import Klik.Ledger.BankIdentifiers
import Klik.Ledger.Confirmations
import Klik.Ledger.EntryZones
import Klik.Ledger.LedgerSystem
import Klik.Ledger.LookupAccrual
import Klik.Ledger.LookupBilling
import Klik.Ledger.Models
import Klik.Ledger.NettedOnce
import Klik.Ledger.Netting
import Klik.Ledger.NettingBalance
import Klik.Ledger.NettingPositions
import Klik.Ledger.OneSession
import Klik.Ledger.OwnEntries
import Klik.Ledger.RecordableAnswers
import Klik.Ledger.Recording
import Klik.Ledger.Rtgs.Gateway
import Klik.Ledger.Rtgs.Gateways
import Klik.Ledger.Rtgs.MessageNames
import Klik.Ledger.Rtgs.Messages
import Klik.Ledger.SessionEnds
import Klik.Ledger.SessionEntries
import Klik.Ledger.SessionTotals
import Klik.Ledger.SessionZones
import Klik.Ledger.SettleContract
import Klik.Ledger.SettledMoney
import Klik.Ledger.Settlement
import Klik.Ledger.SettlementAlone
import Klik.Ledger.SettlementMarking
import Klik.Ledger.SettlementRuns
import Klik.Ledger.SettlementSteps
import Klik.Ledger.SettlementTasks
import Klik.Ledger.SourceOperations
import Klik.Ledger.TransferRows
import Klik.Ledger.UnsettledEntries
import Klik.Lib.AtomicBlock
import Klik.Lib.Calendar
import Klik.Lib.CalendarOrder
import Klik.Lib.ChangeHistory
import Klik.Lib.DictTotals
import Klik.Lib.Entities
import Klik.Lib.ExpiringStore
import Klik.Lib.HalfOpen
import Klik.Lib.InFlight
import Klik.Lib.InsertionDict
import Klik.Lib.JsonEscape
import Klik.Lib.JsonText
import Klik.Lib.KeyedJournal
import Klik.Lib.LongestPrefix
import Klik.Lib.Markup
import Klik.Lib.NorthWestCorner
import Klik.Lib.Paging
import Klik.Lib.Payments
import Klik.Lib.PlacedRows
import Klik.Lib.PyCall
import Klik.Lib.PyStrip
import Klik.Lib.PyText
import Klik.Lib.PyValue
import Klik.Lib.RecordedRuns
import Klik.Lib.Refinement
import Klik.Lib.RememberedReplies
import Klik.Lib.RowTable
import Klik.Lib.SelectedTotals
import Klik.Lib.TableDict
import Klik.Lib.TransitionSystem
import Klik.Recurring.AnswersShown
import Klik.Recurring.CreateView
import Klik.Recurring.DetailView
import Klik.Recurring.ExecutionsView
import Klik.Recurring.FinalizeOnce
import Klik.Recurring.HistoryPages
import Klik.Recurring.LookupsOnce
import Klik.Recurring.MandateStates
import Klik.Recurring.MandateSystem
import Klik.Recurring.Models
import Klik.Recurring.PlannedRuns
import Klik.Recurring.RetryRun
import Klik.Recurring.RevokedMandates
import Klik.Recurring.RunSteps
import Klik.Recurring.Schedule
import Klik.Recurring.SlotOrder
import Klik.Recurring.SlotsOnce
import Klik.Recurring.SnapshotZones
import Klik.Recurring.Tasks
import Klik.Recurring.Views
import Klik.RtgsMock.DispatchSystem
import Klik.RtgsMock.MockTold
import Klik.RtgsMock.RepeatedTransfers
import Klik.RtgsMock.SessionsExecuted
import Klik.RtgsMock.Settle
import Klik.RtgsMock.TransfersExecuted
import Klik.RtgsMock.TransfersTold
import Klik.System.KlikSystem
import Klik.System.ZonesApart
