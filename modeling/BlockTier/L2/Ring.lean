import BlockTier.Digest.Sha256
import BlockTier.Node
import BlockTier.Table
/-!
Consistent hashing. Every node that is up takes a number of positions on a circle of 64-bit
words, and a key belongs to the node at the first position at or past the key's hash.
-/
namespace BlockTier.L2

abbrev Hash := String → UInt64

/-- The first eight bytes of the digest of the text. -/
def stableHash : Hash := fun s =>
  UInt64.ofNat (Bytes.bigEndian ((Digest.Sha256.digest (Bytes.ofString s)).take 8))

structure Position where
  place : UInt64
  owner : Node
  deriving DecidableEq

structure Ring where
  virtualNodes : Nat
  /-- In increasing order, each value once. -/
  positions : List Position := []
  /-- In order of id, each id once. -/
  members : List Node := []

namespace Ring

def defaultVirtualNodes : Nat := 3

/-- A ring without nodes. Nodes will take at least one position each. -/
def new (virtualNodes : Nat) : Ring := { virtualNodes := max virtualNodes 1 }

/-- The nodes that are up, in order of id; of several entries for an id the last one counts. -/
def membersOf (nodes : List Node) : List Node :=
  (Table.ofList ((nodes.filter Node.isUp).map (fun n => (n.id, n)))).values

/-- The label whose hash is a position of the node. -/
def label (id : String) (replica : Nat) : String := s!"{id}-{replica}"

def positionsOf (hash : Hash) (virtualNodes : Nat) (n : Node) : List Position :=
  (List.range virtualNodes).map (fun i => ⟨hash (label n.id i), n⟩)

/-- Enters a position unless another node has it already. -/
def insertPosition (p : Position) : List Position → List Position
  | [] => [p]
  | q :: rest =>
    if p.place = q.place then q :: rest
    else if p.place < q.place then p :: q :: rest
    else q :: insertPosition p rest

/-- The positions of the members, entered in order of id. -/
def placeAll (hash : Hash) (virtualNodes : Nat) (members : List Node) : List Position :=
  (members.flatMap (positionsOf hash virtualNodes)).foldl (fun ps p => insertPosition p ps) []

def update (hash : Hash) (r : Ring) (nodes : List Node) : Ring :=
  let members := membersOf nodes
  { r with members, positions := placeAll hash r.virtualNodes members }

def withNodes (hash : Hash) (virtualNodes : Nat) (nodes : List Node) : Ring :=
  (new virtualNodes).update hash nodes

/-- The node at the first position at or past a hash, or at the first position of all. -/
def ownerAt? (r : Ring) (h : UInt64) : Option Node :=
  match r.positions.find? (fun p => h ≤ p.place) with
  | some p => some p.owner
  | none => r.positions.head?.map (·.owner)

def owner? (hash : Hash) (r : Ring) (key : String) : Option Node := r.ownerAt? (hash key)

def containsNode (r : Ring) (id : String) : Bool := r.members.any (·.id = id)

def size (r : Ring) : Nat := r.members.length

def isEmpty (r : Ring) : Bool := r.positions.isEmpty

/-- Each position's owner with the distance from the position before it. -/
def arcsFrom (before : UInt64) : List Position → List (String × UInt64)
  | [] => []
  | p :: rest => (p.owner.id, p.place - before) :: arcsFrom p.place rest

/-- The arcs of the circle, the first one from the last position round to the first. -/
def arcs (r : Ring) : List (String × UInt64) :=
  match r.positions.getLast? with
  | none => []
  | some last => arcsFrom last.place r.positions

def addShare (t : Table Float) (id : String) (share : Float) : Table Float :=
  t.insert id ((t.find? id).getD 0 + share)

/-- The share of the circle that each node owns. A single position owns all of it. -/
def shares (r : Ring) : Table Float :=
  match r.positions with
  | [p] => [(p.owner.id, 1)]
  | _ =>
    r.arcs.foldl (fun t a => addShare t a.1 (a.2.toFloat / 18446744073709551616)) []

end Ring

end BlockTier.L2
