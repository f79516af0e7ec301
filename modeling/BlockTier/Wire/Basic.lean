import BlockTier.Json.Format
import BlockTier.Memory.Block
import BlockTier.Node
import BlockTier.Sidecar.Deployment
import BlockTier.Status
/-!
Types with a JSON form: how a value is written, which texts are read and what a value that has
been read stands for.
-/
namespace BlockTier

class Wire (α : Type) where
  format : Json.Format
  toJson : α → Json
  /-- The value that a JSON value of the format stands for. -/
  ofJson? : Json → Option α

namespace Wire

variable {α : Type} [Wire α]

def encode (a : α) : Bytes := (toJson a).bytes

def parse (text : Bytes) : Except Json.Fault α :=
  match Json.Format.parse (format α) text with
  | .error e => .error e
  | .ok v =>
    match ofJson? v with
    | some a => .ok a
    | none => .error .shapeFault

open Json Json.Format

instance : Wire String where
  format := text
  toJson := .str
  ofJson?
    | .str s => some s
    | _ => none

instance : Wire BlockRef where
  format := record
    [{ name := "device_id", format := word 64 },
      { name := "device_memory_address", format := word 64 },
      { name := "size_bytes", format := word 64 }]
  toJson b := .obj
    [("device_id", .nat b.device), ("device_memory_address", .nat b.address),
      ("size_bytes", .nat b.size)]
  ofJson?
    | .obj [(_, .num device), (_, .num address), (_, .num size)] =>
      some ⟨device.toNat, address.toNat, size.toNat⟩
    | _ => none

instance : Wire Node where
  format := record
    [{ name := "node_id", format := text }, { name := "host", format := text },
      { name := "port", format := word 16 },
      { name := "health", format := choice (Health.all.map Health.name),
        ifAbsent := some (.str Health.up.name) }]
  toJson n := .obj
    [("node_id", .str n.id), ("host", .str n.host), ("port", .nat n.port),
      ("health", .str n.health.name)]
  ofJson?
    | .obj [(_, .str id), (_, .str host), (_, .num port), (_, .str health)] =>
      (Health.ofName? health).map (fun health => { id, host, port := port.toNat, health })
    | _ => none

instance : Wire Sidecar.Tiering where
  format := choice (Sidecar.Tiering.all.map Sidecar.Tiering.name)
  toJson p := .str p.name
  ofJson?
    | .str s => Sidecar.Tiering.ofName? s
    | _ => none

/-- The payload stays behind. -/
instance : Wire Status where
  format := record
    [{ name := "success", format := flag },
      { name := "code", format := choice (Code.all.map Code.name) },
      { name := "message", format := text }]
  toJson s := .obj
    [("success", .bool s.success), ("code", .str s.code.name), ("message", .str s.message)]
  ofJson?
    | .obj [(_, .bool success), (_, .str code), (_, .str message)] =>
      (Code.ofName? code).map (fun code => { success, code, message })
    | _ => none

instance (α : Type) [Wire α] : Wire (List α) where
  format := list (format α)
  toJson as := .arr (as.map toJson)
  ofJson?
    | .arr vs => vs.mapM ofJson?
    | _ => none

end Wire

end BlockTier
