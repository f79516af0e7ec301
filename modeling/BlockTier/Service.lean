import BlockTier.Http.CacheApi
import BlockTier.Http.ControllerApi
import BlockTier.Http.StorageApi
import BlockTier.Launch
import BlockTier.Sidecar.Batch
/-!
A role at work: its state, the passing of time and its answers to requests.
-/
namespace BlockTier

inductive Service
  | sidecar (w : Sidecar.World)
  | controller (c : Controller) (sweep : Sidecar.Ticker)
  | storageNode (id : String) (s : L2.Store)

namespace Service

open Sidecar

/-- A sidecar begins with a refresh. No controller is in reach. -/
def startSidecar (s : Settings) : World :=
  let deployment : Deployment :=
    { tier :=
        { cache := .new s.sidecar.l1Capacity
          copier := .new s.devices.count s.devices.memoryBytes s.sidecar.l1Capacity 0 }
      l2 :=
        { ring := .new s.ring.virtualNodes
          codec := { compress := s.sidecar.compressL2, level := s.sidecar.zstdLevel } }
      controller := { timeout := s.controller.heartbeatTimeout }
      topology := .failing .request
      policy := s.sidecar.tiering
      defaultTimeout := s.sidecar.timeout? }
  let w : World := { deployment := deployment.refresh.1 }
  (w.start .refresh s.connector.refreshInterval).runLoops 0

def start (p : Launch.Plan) : Service :=
  let s := p.settings
  match p.role with
  | .sidecar => sidecar (startSidecar s)
  | .controller =>
    controller (.withSeeds s.controller.heartbeatTimeout 0 s.controller.seedNodes)
      ⟨s.controller.healthCheckInterval, 0⟩
  | .storageNode => storageNode s.storageNode.nodeId (.new s.storageNode.maxBytes)

/-- Answers a request that comes in at a time; what is due by then has been done. -/
def handle (now : Nat) (r : Http.Request) : Service → Service × Http.Response
  | sidecar w =>
    let w := (w.runLoops now).setNow now
    match Http.CacheApi.handle w.deployment r with
    | .now response => (sidecar w, response)
    | .call c respond =>
      match w.run (.one (.call c : Job Unit)) with
      | (w, [.inl a]) => (sidecar w, respond a)
      | (w, _) => (sidecar w, { code := 500 })
  | controller c sweep =>
    let (c, sweep) :=
      if sweep.isDueBy now then ((c.sweep now).1, { sweep with due := now + sweep.period })
      else (c, sweep)
    let (c, response) := Http.ControllerApi.handle c now r
    (controller c sweep, response)
  | storageNode id s =>
    let (s, response) := Http.StorageApi.handle id s r
    (storageNode id s, response)

end Service

end BlockTier
