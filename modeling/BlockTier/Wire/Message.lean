import BlockTier.Wire.Basic
/-!
The messages that sidecars, the controller and storage nodes exchange.
-/
namespace BlockTier

structure ClusterMap where
  nodes : List Node
  deriving DecidableEq

structure Heartbeat where
  nodeId : String
  /-- The sender's clock, in milliseconds. -/
  timestamp : Nat
  deriving DecidableEq

structure HeartbeatReply where
  status : String
  deriving DecidableEq

structure Registration where
  nodeId : String
  host : String
  port : Nat
  deriving DecidableEq

structure OffloadRequest where
  key : String
  block : BlockRef
  timeout : Option Nat := none
  deriving DecidableEq

structure FetchRequest where
  key : String
  dest : BlockRef
  timeout : Option Nat := none
  deriving DecidableEq

structure Query where
  key : String
  deriving DecidableEq

structure QueryReply where
  key : String
  available : Bool
  deriving DecidableEq

structure SpaceRequest where
  needed : Nat
  deriving DecidableEq

def Node.registration (n : Node) : Registration := ⟨n.id, n.host, n.port⟩

namespace Wire

open Json Json.Format

instance : Wire ClusterMap where
  format := record [{ name := "nodes", format := format (List Node) }]
  toJson m := .obj [("nodes", toJson m.nodes)]
  ofJson?
    | .obj [(_, nodes)] => (ofJson? nodes).map ClusterMap.mk
    | _ => none

instance : Wire Heartbeat where
  format := record
    [{ name := "node_id", format := text }, { name := "timestamp_ms", format := word 64 }]
  toJson h := .obj [("node_id", .str h.nodeId), ("timestamp_ms", .nat h.timestamp)]
  ofJson?
    | .obj [(_, .str nodeId), (_, .num timestamp)] => some ⟨nodeId, timestamp.toNat⟩
    | _ => none

instance : Wire HeartbeatReply where
  format := record [{ name := "status", format := text }]
  toJson r := .obj [("status", .str r.status)]
  ofJson?
    | .obj [(_, .str status)] => some ⟨status⟩
    | _ => none

instance : Wire Registration where
  format := record
    [{ name := "node_id", format := text }, { name := "host", format := text },
      { name := "port", format := word 16 }]
  toJson r := .obj [("node_id", .str r.nodeId), ("host", .str r.host), ("port", .nat r.port)]
  ofJson?
    | .obj [(_, .str nodeId), (_, .str host), (_, .num port)] => some ⟨nodeId, host, port.toNat⟩
    | _ => none

def timeoutJson : Option Nat → Json
  | some ms => .nat ms
  | none => .null

def timeoutOf? : Json → Option (Option Nat)
  | .num ms => some (some ms.toNat)
  | .null => some none
  | _ => none

def timeoutField : Field :=
  { name := "timeout_ms", format := optional (word 64), ifAbsent := some .null }

instance : Wire OffloadRequest where
  format := record
    [{ name := "key", format := text }, { name := "device_id", format := word 64 },
      { name := "memory_address", format := word 64 }, { name := "size_bytes", format := word 64 },
      timeoutField]
  toJson r := .obj
    [("key", .str r.key), ("device_id", .nat r.block.device),
      ("memory_address", .nat r.block.address), ("size_bytes", .nat r.block.size),
      ("timeout_ms", timeoutJson r.timeout)]
  ofJson?
    | .obj [(_, .str key), (_, .num device), (_, .num address), (_, .num size), (_, timeout)] =>
      (timeoutOf? timeout).map
        (fun t => ⟨key, ⟨device.toNat, address.toNat, size.toNat⟩, t⟩)
    | _ => none

instance : Wire FetchRequest where
  format := record
    [{ name := "key", format := text }, { name := "dest_device_id", format := word 64 },
      { name := "dest_memory_address", format := word 64 },
      { name := "dest_size_bytes", format := word 64 }, timeoutField]
  toJson r := .obj
    [("key", .str r.key), ("dest_device_id", .nat r.dest.device),
      ("dest_memory_address", .nat r.dest.address), ("dest_size_bytes", .nat r.dest.size),
      ("timeout_ms", timeoutJson r.timeout)]
  ofJson?
    | .obj [(_, .str key), (_, .num device), (_, .num address), (_, .num size), (_, timeout)] =>
      (timeoutOf? timeout).map
        (fun t => ⟨key, ⟨device.toNat, address.toNat, size.toNat⟩, t⟩)
    | _ => none

instance : Wire Query where
  format := record [{ name := "key", format := text }]
  toJson q := .obj [("key", .str q.key)]
  ofJson?
    | .obj [(_, .str key)] => some ⟨key⟩
    | _ => none

instance : Wire QueryReply where
  format := record [{ name := "key", format := text }, { name := "available", format := flag }]
  toJson r := .obj [("key", .str r.key), ("available", .bool r.available)]
  ofJson?
    | .obj [(_, .str key), (_, .bool available)] => some ⟨key, available⟩
    | _ => none

instance : Wire SpaceRequest where
  format := record [{ name := "needed_size_bytes", format := word 64 }]
  toJson r := .obj [("needed_size_bytes", .nat r.needed)]
  ofJson?
    | .obj [(_, .num needed)] => some ⟨needed.toNat⟩
    | _ => none

end Wire

end BlockTier
