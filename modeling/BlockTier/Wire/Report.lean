import BlockTier.Sidecar.Deployment
import BlockTier.Wire.Basic
/-!
The JSON form of statistics, which are written and never read.
-/
namespace BlockTier

def TransferStats.toJson (s : TransferStats) : Json := .obj
  [("total_d2h_bytes", .nat s.toHostBytes), ("total_h2d_bytes", .nat s.toDeviceBytes),
    ("total_d2h_transfers", .nat s.toHostCopies), ("total_h2d_transfers", .nat s.toDeviceCopies),
    ("total_failures", .nat s.failures)]

def L1.Stats.toJson (s : L1.Stats) : Json := .obj
  [("capacity_bytes", .nat s.capacity), ("used_bytes", .nat s.used),
    ("resident_bytes", .nat s.residentBytes), ("resident_blocks", .nat s.residentBlocks),
    ("live_extents", .nat s.liveExtents), ("tracked_keys", .nat s.trackedKeys),
    ("tracked_bytes", .nat s.trackedBytes), ("largest_free_extent", .nat s.largestFree),
    ("utilization", .double s.utilization), ("hits", .nat s.counters.hits),
    ("misses", .nat s.counters.misses), ("insertions", .nat s.counters.insertions),
    ("evictions", .nat s.counters.evictions), ("rejections", .nat s.counters.rejections),
    ("policy", .str s.policy)]

def L2.ConnectorStats.toJson (s : L2.ConnectorStats) : Json := .obj
  [("ring_nodes", .nat s.ringNodes), ("virtual_nodes", .nat s.virtualNodes),
    ("puts", .nat s.counters.puts), ("gets", .nat s.counters.gets),
    ("hits", .nat s.counters.hits), ("misses", .nat s.counters.misses),
    ("unavailable", .nat s.counters.unavailable), ("refreshes", .nat s.counters.refreshes),
    ("refresh_failures", .nat s.counters.refreshFailures), ("compression", .bool s.compression)]

def Sidecar.Stats.toJson (s : Sidecar.Stats) : Json := .obj
  [("policy", Wire.toJson s.policy), ("offloads_l1", .nat s.tally.offloadsL1),
    ("offloads_l2", .nat s.tally.offloadsL2), ("offload_failures", .nat s.tally.offloadFailures),
    ("l1_hits", .nat s.tally.l1Hits), ("l2_hits", .nat s.tally.l2Hits),
    ("misses", .nat s.tally.misses), ("timeouts", .nat s.tally.timeouts), ("l1", s.l1.toJson),
    ("l2", s.l2.toJson), ("transfer", s.transfer.toJson)]

def L2.Store.members (s : L2.Store) : List (String × Json) :=
  [("blocks", .nat s.size), ("used_bytes", .nat s.used), ("max_bytes", .nat s.maxBytes)]

def L2.Store.report (s : L2.Store) : Json := .obj s.members

/-- A node with the time since its last sign of life. -/
def Node.report (n : Node) (silentFor : Nat) : Json := .obj
  [("node_id", .str n.id), ("host", .str n.host), ("port", .nat n.port),
    ("health", .str n.health.name), ("last_seen_ms_ago", .nat silentFor)]

end BlockTier
