import OnlineBanking.Beneficiaries
import OnlineBanking.Conservation
import OnlineBanking.ExactAmounts
import OnlineBanking.FailedKeys
import OnlineBanking.Currencies
import OnlineBanking.PaymentForms
import OnlineBanking.Postable
import OnlineBanking.KycGate
import OnlineBanking.NoticeFailures
import OnlineBanking.Notices
import OnlineBanking.Repetition
import OnlineBanking.SessionGate
import OnlineBanking.SettlementFunds
import OnlineBanking.StatementPeriods
import OnlineBanking.SystemMoney
import OnlineBanking.UniformRecords
import OnlineBanking.Library.Histories
import OnlineBanking.Duplicates
import OnlineBanking.StepUpDetour
import OnlineBanking.AuditTrail
import OnlineBanking.StatementReads
import OnlineBanking.CsvExport
import OnlineBanking.TransactionHistory
import OnlineBanking.AuditSearch
import OnlineBanking.NotificationToaster
import OnlineBanking.Api
import OnlineBanking.ApiThreads
import OnlineBanking.BankView
import OnlineBanking.Provenance
import OnlineBanking.ReadIsolation
import OnlineBanking.Inbox
import OnlineBanking.Reseed
import OnlineBanking.LegacyRuns
import OnlineBanking.Answers
import OnlineBanking.Browser
import OnlineBanking.RevealTimer
