import VeriAgentPay.LabelledRuns
import VeriAgentPay.LedgerFrames
import VeriAgentPay.PaymentLinkInstructions
import VeriAgentPay.InstructionEffects
import VeriAgentPay.ProgramSteps
import VeriAgentPay.LedgerRuns
import VeriAgentPay.SessionSpending
import VeriAgentPay.LinkSettlement
import VeriAgentPay.EscrowSolvency
import VeriAgentPay.RootReplay
import VeriAgentPay.VaultIsolation
import VeriAgentPay.ChallengeBinding
import VeriAgentPay.ClientBytes
import VeriAgentPay.ClientChallenges
import VeriAgentPay.InterleavedPrograms
import VeriAgentPay.ScriptValues
import VeriAgentPay.InstructionBuilders
import VeriAgentPay.BackendStore
import VeriAgentPay.PaymentLinkServices
import VeriAgentPay.PasskeyExecution
import VeriAgentPay.LinkProtocol
import VeriAgentPay.LinkRequests
import VeriAgentPay.LinkOperations
import VeriAgentPay.LinkRecordAgreement
import VeriAgentPay.LinkFunding
import VeriAgentPay.IdentityStore
import VeriAgentPay.IdentityServices
import VeriAgentPay.IdentityOwnership
import VeriAgentPay.IdentityPersistence
import VeriAgentPay.PlaceholderVaults
import VeriAgentPay.ChatPayments
import VeriAgentPay.PublicRequests
import VeriAgentPay.KeyedTables
import VeriAgentPay.PoolServices
import VeriAgentPay.PoolVoting
import VeriAgentPay.LoanExtensions
import VeriAgentPay.PoolWriteOffs
import VeriAgentPay.PoolRepayments
import VeriAgentPay.AdminCodes
import VeriAgentPay.PasskeyRecovery
import VeriAgentPay.SessionEnding
import VeriAgentPay.PasskeyOwnership
import VeriAgentPay.CredentialVault
import VeriAgentPay.AccountLinking
import VeriAgentPay.CodeRedemption
import VeriAgentPay.LinkedIdentities
import VeriAgentPay.PublicEnvelopes
import VeriAgentPay.FiatRampWebhooks
import VeriAgentPay.Subscriptions
import VeriAgentPay.ReferralRewards
import VeriAgentPay.PaymentRequests
import VeriAgentPay.SplitPayments
import VeriAgentPay.RedEnvelopes
import VeriAgentPay.ClaimRetries
import VeriAgentPay.PoolClosing
import VeriAgentPay.HotStateSpending
import VeriAgentPay.DepositScanning
import VeriAgentPay.DerEncodings
import VeriAgentPay.SignatureParsers
import VeriAgentPay.PrecompileHandshake
import VeriAgentPay.CanonicalBase64
import VeriAgentPay.AccountDecoders
import VeriAgentPay.InstructionData
import VeriAgentPay.WalletCreation
import VeriAgentPay.GatedPrograms
import VeriAgentPay.PasskeySingleUse
import VeriAgentPay.EmbeddedPrograms
import VeriAgentPay.LoanInterest
import VeriAgentPay.SplitCreation
import VeriAgentPay.InterestAccrual
import VeriAgentPay.CanonicalRecords
import VeriAgentPay.SignedLinks
import VeriAgentPay.CallPolicies
import VeriAgentPay.UserTokens
import VeriAgentPay.IdempotencyKeys
import VeriAgentPay.WalletLogins
import VeriAgentPay.BridgedStreaks
import VeriAgentPay.InteractionStreaks
import VeriAgentPay.EnvelopeShares
import VeriAgentPay.CustomEnvelopes
import VeriAgentPay.JsonTexts
import VeriAgentPay.SessionKeyWrapping
import VeriAgentPay.SessionKeyOwnership
import VeriAgentPay.LamportMoves
import VeriAgentPay.NotificationRooms
import VeriAgentPay.AddressBooks
import VeriAgentPay.OneTimeTokens
import VeriAgentPay.ReputationAwards
import VeriAgentPay.AwardsGivenOnce
import VeriAgentPay.StagedApprovals
import VeriAgentPay.ApprovalRuns
import VeriAgentPay.SupplyConservation
import VeriAgentPay.RecordHistories
import VeriAgentPay.SettlementAvailability
import VeriAgentPay.OAuthSignIns
import VeriAgentPay.BotQueue
import VeriAgentPay.CommandIntents
import VeriAgentPay.LanguageModelAnswers
