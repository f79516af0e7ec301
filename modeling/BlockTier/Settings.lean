import BlockTier.L2.Ring
import BlockTier.Wire.Message
/-!
The settings of all roles, from one JSON file. What the file leaves out has its default.
-/
namespace BlockTier

inductive Role
  | sidecar | controller | storageNode
  deriving DecidableEq

namespace Settings

structure Sidecar where
  listen : String := "0.0.0.0:50051"
  l1Capacity : Nat := 1024 * 1024 * 1024
  tiering : Sidecar.Tiering := .exclusive
  /-- The deadline of calls that bring none, in milliseconds; zero stands for none. -/
  opTimeout : Nat := 0
  compressL2 : Bool := false
  zstdLevel : Int := 3
  deriving DecidableEq

structure Devices where
  count : Nat := 1
  memoryBytes : Nat := 256 * 1024 * 1024
  deriving DecidableEq

structure Ring where
  virtualNodes : Nat := L2.Ring.defaultVirtualNodes
  deriving DecidableEq

structure Connector where
  controllerAddress : String := "127.0.0.1:50052"
  refreshInterval : Nat := 10000
  requestTimeout : Nat := 2000
  deriving DecidableEq

structure Controller where
  listen : String := "0.0.0.0:50052"
  healthCheckInterval : Nat := 5000
  heartbeatTimeout : Nat := 10000
  seedNodes : List Node := []
  deriving DecidableEq

structure StorageNode where
  nodeId : String := "storage-0"
  listen : String := "0.0.0.0:6380"
  advertiseHost : String := "127.0.0.1"
  advertisePort : Nat := 6380
  controllerAddress : String := "127.0.0.1:50052"
  heartbeatInterval : Nat := 3000
  maxBytes : Nat := 0
  deriving DecidableEq

def Sidecar.timeout? (s : Settings.Sidecar) : Option Nat :=
  if 0 < s.opTimeout then some s.opTimeout else none

def StorageNode.advertised (s : StorageNode) : Node :=
  { id := s.nodeId, host := s.advertiseHost, port := s.advertisePort }

end Settings

structure Settings where
  sidecar : Settings.Sidecar := {}
  devices : Settings.Devices := {}
  ring : Settings.Ring := {}
  connector : Settings.Connector := {}
  controller : Settings.Controller := {}
  storageNode : Settings.StorageNode := {}
  deriving DecidableEq

namespace Settings

open Json Json.Format

instance : Wire Settings.Sidecar where
  format :=
    let d : Settings.Sidecar := {}
    record
      [⟨"listen", text, some (.str d.listen)⟩,
        ⟨"l1_capacity_bytes", word 64, some (.nat d.l1Capacity)⟩,
        ⟨"tiering", Wire.format Sidecar.Tiering, some (Wire.toJson d.tiering)⟩,
        ⟨"op_timeout_ms", word 64, some (.nat d.opTimeout)⟩,
        ⟨"compress_l2", flag, some (.bool d.compressL2)⟩,
        ⟨"zstd_level", signed 32, some (.num d.zstdLevel)⟩]
  toJson s := .obj
    [("listen", .str s.listen), ("l1_capacity_bytes", .nat s.l1Capacity),
      ("tiering", Wire.toJson s.tiering), ("op_timeout_ms", .nat s.opTimeout),
      ("compress_l2", .bool s.compressL2), ("zstd_level", .num s.zstdLevel)]
  ofJson?
    | .obj [(_, .str listen), (_, .num l1Capacity), (_, tiering), (_, .num opTimeout),
        (_, .bool compressL2), (_, .num zstdLevel)] =>
      (Wire.ofJson? tiering).map fun tiering =>
        { listen, l1Capacity := l1Capacity.toNat, tiering, opTimeout := opTimeout.toNat,
          compressL2, zstdLevel }
    | _ => none

instance : Wire Devices where
  format :=
    let d : Devices := {}
    record
      [⟨"count", word 64, some (.nat d.count)⟩,
        ⟨"memory_bytes", word 64, some (.nat d.memoryBytes)⟩]
  toJson s := .obj [("count", .nat s.count), ("memory_bytes", .nat s.memoryBytes)]
  ofJson?
    | .obj [(_, .num count), (_, .num memoryBytes)] => some ⟨count.toNat, memoryBytes.toNat⟩
    | _ => none

instance : Wire Settings.Ring where
  format :=
    let d : Settings.Ring := {}
    record [⟨"virtual_nodes", word 64, some (.nat d.virtualNodes)⟩]
  toJson s := .obj [("virtual_nodes", .nat s.virtualNodes)]
  ofJson?
    | .obj [(_, .num virtualNodes)] => some ⟨virtualNodes.toNat⟩
    | _ => none

instance : Wire Connector where
  format :=
    let d : Connector := {}
    record
      [⟨"controller_addr", text, some (.str d.controllerAddress)⟩,
        ⟨"refresh_interval_ms", word 64, some (.nat d.refreshInterval)⟩,
        ⟨"request_timeout_ms", word 64, some (.nat d.requestTimeout)⟩]
  toJson s := .obj
    [("controller_addr", .str s.controllerAddress),
      ("refresh_interval_ms", .nat s.refreshInterval),
      ("request_timeout_ms", .nat s.requestTimeout)]
  ofJson?
    | .obj [(_, .str controllerAddress), (_, .num refresh), (_, .num request)] =>
      some ⟨controllerAddress, refresh.toNat, request.toNat⟩
    | _ => none

instance : Wire Settings.Controller where
  format :=
    let d : Settings.Controller := {}
    record
      [⟨"listen", text, some (.str d.listen)⟩,
        ⟨"health_check_interval_ms", word 64, some (.nat d.healthCheckInterval)⟩,
        ⟨"heartbeat_timeout_ms", word 64, some (.nat d.heartbeatTimeout)⟩,
        ⟨"seed_nodes", Wire.format (List Node), some (Wire.toJson d.seedNodes)⟩]
  toJson s := .obj
    [("listen", .str s.listen), ("health_check_interval_ms", .nat s.healthCheckInterval),
      ("heartbeat_timeout_ms", .nat s.heartbeatTimeout),
      ("seed_nodes", Wire.toJson s.seedNodes)]
  ofJson?
    | .obj [(_, .str listen), (_, .num interval), (_, .num timeout), (_, seeds)] =>
      (Wire.ofJson? seeds).map fun seedNodes =>
        { listen, healthCheckInterval := interval.toNat, heartbeatTimeout := timeout.toNat,
          seedNodes }
    | _ => none

instance : Wire StorageNode where
  format :=
    let d : StorageNode := {}
    record
      [⟨"node_id", text, some (.str d.nodeId)⟩, ⟨"listen", text, some (.str d.listen)⟩,
        ⟨"advertise_host", text, some (.str d.advertiseHost)⟩,
        ⟨"advertise_port", word 16, some (.nat d.advertisePort)⟩,
        ⟨"controller_addr", text, some (.str d.controllerAddress)⟩,
        ⟨"heartbeat_interval_ms", word 64, some (.nat d.heartbeatInterval)⟩,
        ⟨"max_bytes", word 64, some (.nat d.maxBytes)⟩]
  toJson s := .obj
    [("node_id", .str s.nodeId), ("listen", .str s.listen),
      ("advertise_host", .str s.advertiseHost), ("advertise_port", .nat s.advertisePort),
      ("controller_addr", .str s.controllerAddress),
      ("heartbeat_interval_ms", .nat s.heartbeatInterval), ("max_bytes", .nat s.maxBytes)]
  ofJson?
    | .obj [(_, .str nodeId), (_, .str listen), (_, .str advertiseHost), (_, .num port),
        (_, .str controllerAddress), (_, .num interval), (_, .num maxBytes)] =>
      some { nodeId, listen, advertiseHost, advertisePort := port.toNat, controllerAddress,
             heartbeatInterval := interval.toNat, maxBytes := maxBytes.toNat }
    | _ => none

/-- A section, which may be left out as a whole. -/
def sectionField (α : Type) [Wire α] (name : String) (ifAbsent : α) : Field :=
  ⟨name, Wire.format α, some (Wire.toJson ifAbsent)⟩

instance : Wire Settings where
  format := record
    [sectionField Settings.Sidecar "sidecar" {}, sectionField Devices "devices" {},
      sectionField Settings.Ring "ring" {}, sectionField Connector "connector" {},
      sectionField Settings.Controller "controller" {},
      sectionField StorageNode "storage_node" {}]
  toJson s := .obj
    [("sidecar", Wire.toJson s.sidecar), ("devices", Wire.toJson s.devices),
      ("ring", Wire.toJson s.ring), ("connector", Wire.toJson s.connector),
      ("controller", Wire.toJson s.controller), ("storage_node", Wire.toJson s.storageNode)]
  ofJson?
    | .obj [(_, sidecar), (_, devices), (_, ring), (_, connector), (_, controller),
        (_, storageNode)] => do
      return {
        sidecar := ← Wire.ofJson? sidecar
        devices := ← Wire.ofJson? devices
        ring := ← Wire.ofJson? ring
        connector := ← Wire.ofJson? connector
        controller := ← Wire.ofJson? controller
        storageNode := ← Wire.ofJson? storageNode }
    | _ => none

inductive Invalid
  | l1Capacity | virtualNodes | deviceCount | controllerIntervals | refreshInterval
  | heartbeatInterval
  deriving DecidableEq

def Invalid.message : Invalid → String
  | l1Capacity => "sidecar.l1_capacity_bytes must be > 0"
  | virtualNodes => "ring.virtual_nodes must be > 0"
  | deviceCount => "devices.count must be > 0"
  | controllerIntervals => "controller intervals must be > 0"
  | refreshInterval => "connector.refresh_interval_ms must be > 0"
  | heartbeatInterval => "storage_node.heartbeat_interval_ms must be > 0"

def invalid? (s : Settings) : Option Invalid :=
  if s.sidecar.l1Capacity = 0 then some .l1Capacity
  else if s.ring.virtualNodes = 0 then some .virtualNodes
  else if s.devices.count = 0 then some .deviceCount
  else if s.controller.heartbeatTimeout = 0 ∨ s.controller.healthCheckInterval = 0 then
    some .controllerIntervals
  else if s.connector.refreshInterval = 0 then some .refreshInterval
  else if s.storageNode.heartbeatInterval = 0 then some .heartbeatInterval
  else none

inductive LoadError
  | notText
  | unreadable
  | invalid (cause : Invalid)
  deriving DecidableEq

/-- The settings in a file; without a file all have their defaults. -/
def load (file : Option Bytes) : Except LoadError Settings :=
  match file with
  | none => .ok {}
  | some text =>
    if text.toString?.isNone then .error .notText
    else
      match Wire.parse (α := Settings) text with
      | .error _ => .error .unreadable
      | .ok s =>
        match s.invalid? with
        | some cause => .error (.invalid cause)
        | none => .ok s

/-- The address that a role listens on, unless another one is given. -/
def listenFor (s : Settings) (role : Role) (given : Option String) : String :=
  given.getD
    (match role with
      | .sidecar => s.sidecar.listen
      | .controller => s.controller.listen
      | .storageNode => s.storageNode.listen)

end Settings

end BlockTier
