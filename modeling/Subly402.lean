import Subly402.Enclave.Recovery
import Subly402.Enclave.CrashSafety
import Subly402.World.Withdrawals
import Subly402.World.Claims
import Subly402.World.Deposits
import Subly402.Enclave.Messages
import Subly402.Watchtower.Challenger
import Subly402.Watchtower.Store
import Subly402.Enclave.ProviderReceipts
import Subly402.Enclave.ChannelReceipts
import Subly402.Chain.Conservation
import Subly402.Chain.Lifecycle
import Subly402.Sdk.Budget
import Subly402.Sdk.Gate
import Subly402.Batch.Firing
import Subly402.Enclave.WithdrawErrors
import Subly402.Enclave.Movements
import Subly402.Enclave.VerifyCall
import Subly402.Batch.Selection
import Subly402.Batch.Payouts
import Subly402.Chain.Precompile
import Subly402.Sdk.ReceiptCache
import Subly402.Sdk.CertificateChain
import Subly402.Sdk.PolicyHash
import Subly402.Batch.AuditTrail
import Subly402.Parent.Egress
import Subly402.Parent.BlobMap
import Subly402.Chain.Claims
import Subly402.Enclave.Continuations
import Subly402.Batch.Floor
