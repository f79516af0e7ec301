import BlockTier.CommandLine
import BlockTier.Http.CacheApi
import BlockTier.Http.Client
import BlockTier.Http.ControllerApi
import BlockTier.Http.Frame
import BlockTier.Http.StorageApi
import BlockTier.Launch
import BlockTier.Main
import BlockTier.Proofs.Http.BlockSurface
import BlockTier.Proofs.Http.BlockUrls
import BlockTier.Proofs.L1.BestFit
import BlockTier.Proofs.L1.Contents
import BlockTier.Proofs.L1.Freeing
import BlockTier.Proofs.L1.LeastRecent
import BlockTier.Proofs.L1.Prefix
import BlockTier.Proofs.L1.Replacement
import BlockTier.Proofs.L1.Representation
import BlockTier.Proofs.L1.Room
import BlockTier.Proofs.L1.Words
import BlockTier.Proofs.L2.Accounting
import BlockTier.Proofs.L2.Framing
import BlockTier.Proofs.L2.Labels
import BlockTier.Proofs.L2.LastPut
import BlockTier.Proofs.L2.Lookup
import BlockTier.Proofs.L2.Remapping
import BlockTier.Proofs.L2.Shares
import BlockTier.Proofs.Membership.Health
import BlockTier.Proofs.Memory.Transfers
import BlockTier.Proofs.Sidecar.Batches
import BlockTier.Proofs.Sidecar.Durability
import BlockTier.Proofs.Sidecar.FetchAccount
import BlockTier.Proofs.Sidecar.FetchIntegrity
import BlockTier.Proofs.Sidecar.OffloadAccount
import BlockTier.Proofs.Sidecar.OffloadOutcome
import BlockTier.Proofs.Sidecar.Preflight
import BlockTier.Proofs.Sidecar.Promotion
import BlockTier.Proofs.Sidecar.Routing
import BlockTier.Proofs.Sidecar.SerialOrder
import BlockTier.Proofs.Wire.Survival
import BlockTier.Service
import BlockTier.Sidecar.Batch
