import Exchange.Decimal
import Exchange.Table
import Exchange.Ledger
import Exchange.LedgerInvariants
import Exchange.TradingEngine
import Exchange.TradingTradeRecords
import Exchange.TradingLockSufficiency
import Exchange.Async
import Exchange.AsyncPool
import Exchange.TradingRepository
import Exchange.TradingService
import Exchange.TradingEffects
import Exchange.TradingServiceRules
import Exchange.TradingTerminalStates
import Exchange.TradingFillConservation
import Exchange.TradingMatchFailure
import Exchange.AsyncHistory
import Exchange.WithdrawalRepository
import Exchange.WithdrawalRules
import Exchange.WithdrawalEffects
import Exchange.WithdrawalProgress
import Exchange.WithdrawalSettlement
import Exchange.WithdrawalTerminalStates
import Exchange.WithdrawalRefunds
import Exchange.WithdrawalSchema
import Exchange.WithdrawalApprovals
import Exchange.WithdrawalFreeze
import Exchange.WithdrawalLimits
import Exchange.AsyncBooking
import Exchange.InrWithdrawalService
import Exchange.InrWithdrawalRules
import Exchange.InrWithdrawalEffects
import Exchange.InrWithdrawalSettlement
import Exchange.InrWithdrawalBacking
import Exchange.DepositService
import Exchange.DepositRules
import Exchange.DepositEffects
import Exchange.DepositAgreement
import Exchange.DepositManual
import Exchange.DepositDualControl
import Exchange.DepositOrders
import Exchange.DepositGateway
import Exchange.DepositWebhook
import Exchange.ScannerRepository
import Exchange.ScannerService
import Exchange.ScannerRules
import Exchange.ScannerEffects
import Exchange.ScannerCompleteness
import Exchange.ScannerProgress
import Exchange.ScannerReorgs
import Exchange.ScannerCrediting
import Exchange.MasterDepositVerifier
import Exchange.MasterDepositRepository
import Exchange.MasterDepositService
import Exchange.MasterDepositRules
import Exchange.MasterDepositEffects
import Exchange.MasterDepositCrediting
import Exchange.ConversionPlan
import Exchange.ConversionRepository
import Exchange.ConversionService
import Exchange.ConversionRules
import Exchange.ConversionEffects
import Exchange.ConversionRecords
import Exchange.ConversionExecution
import Exchange.ConversionLiquidity
import Exchange.IdempotencyMiddleware
import Exchange.IdempotencyRules
import Exchange.IdempotencyReplay
import Exchange.Text
import Exchange.AuthRepository
import Exchange.AuthService
import Exchange.AuthProviders
import Exchange.AuthRules
import Exchange.AuthProviderRules
import Exchange.AuthEffects
import Exchange.AuthSessions
import Exchange.AuthRefresh
import Exchange.AuthSecondFactor
import Exchange.AuthPasswords
import Exchange.AuthFederatedLink
import Exchange.AuthSingleSession
import Exchange.AuthOtp
import Exchange.AuthOtpAttempts
import Exchange.UserSecurity
import Exchange.UserSecurityAttempts
import Exchange.UserSecurityEnrolment
import Exchange.RbacRepository
import Exchange.RbacService
import Exchange.RbacRules
import Exchange.RbacEffects
import Exchange.RbacDeactivation
import Exchange.RbacEscalation
import Exchange.RbacLastSuperAdmin
import Exchange.RbacCache
import Exchange.KycRepository
import Exchange.KycService
import Exchange.KycCompliance
import Exchange.KycRules
import Exchange.KycEffects
import Exchange.KycScreening
import Exchange.KycApprovals
import Exchange.KycTransitions
import Exchange.KycWebhooks
import Exchange.ComplianceApprovals
import Exchange.AmlPolicies
import Exchange.ComplianceRisk
import Exchange.MonitoringRules
import Exchange.ComplianceRepository
import Exchange.ComplianceService
import Exchange.MonitoringService
import Exchange.ComplianceRules
import Exchange.ComplianceEffects
import Exchange.RiskOverrides
import Exchange.RiskMonotonicity
import Exchange.OwnProperties
import Exchange.WalletAddresses
import Exchange.TradeCandles
import Exchange.MarketDataCandles
import Exchange.CsvExports
import Exchange.Totp
import Exchange.EvidencePacks
import Exchange.TaxStatements
import Exchange.FeatureControls
import Exchange.MonitoringPasses
import Exchange.MonitoringEscalation
import Exchange.WalletRiskChecks
import Exchange.WalletRiskAlerts
import Exchange.MonitoringSweep
import Exchange.MonitoringCoverage
import Exchange.TradingFillPosting
import Exchange.TradingMatchSoundness
import Exchange.TradingMatchMaximality
import Exchange.TradingLockPostings
import Exchange.TradingLockSpending
import Exchange.TradingLockAccounting
import Exchange.TradingLockPass
import Exchange.TradingLockRuns
import Exchange.TradingBookLeft
import Exchange.TradingUncrossed
import Exchange.TradingUncrossedRuns
import Exchange.TravelRule
import Exchange.WorkspaceChecklists
import Exchange.Legal
import Exchange.LegalSuccession
import Exchange.Fiu
import Exchange.FiuExports
import Exchange.Realtime
import Exchange.RealtimePrivacy
import Exchange.AsyncServices
import Exchange.AsyncPairs
import Exchange.LedgerFees
import Exchange.Reports
import Exchange.TradingFees
import Exchange.WithdrawalFees
import Exchange.ConversionFees
import Exchange.FeeAgreement
import Exchange.LedgerBalanceCheck
import Exchange.ConversionArithmetic
import Exchange.ConversionRoundTrip
import Exchange.ConversionArithmetic
import Exchange.ConversionRoundTrip
import Exchange.Numerals
import Exchange.EvmVerifier
import Exchange.BaseUnits
import Exchange.BaseUnits
import Exchange.KeysetPaging
import Exchange.TransactionLists
import Exchange.IpAllowlist
import Exchange.Redaction
import Exchange.WithdrawalNonces
import Exchange.OwnProperties
import Exchange.WalletAddresses
import Exchange.TradeCandles
import Exchange.MarketDataCandles
import Exchange.CsvExports
import Exchange.Totp
import Exchange.BitGroups
import Exchange.Promises
import Exchange.MarketLock
import Exchange.MarketLockStages
import Exchange.MarketLockChains
import Exchange.MarketLockFairness
import Exchange.TradingTradeTerms
import Exchange.LedgerHoldings
import Exchange.TradingConservation
import Exchange.AuthLockout
