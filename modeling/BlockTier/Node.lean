/-!
The members of the storage fleet.
-/
namespace BlockTier

inductive Health
  | up | down
  deriving DecidableEq

namespace Health

def all : List Health := [up, down]

def name : Health → String
  | up => "UP"
  | down => "DOWN"

def ofName? (s : String) : Option Health := all.find? (·.name = s)

theorem ofName?_name (h : Health) : ofName? h.name = some h := by cases h <;> decide

end Health

structure Node where
  id : String
  host : String
  port : Nat
  health : Health := .up
  deriving DecidableEq

namespace Node

def isUp (n : Node) : Bool := n.health = .up

def address (n : Node) : String := s!"{n.host}:{n.port}"

def display (n : Node) : String := s!"{n.id}@{n.address}"

end Node

end BlockTier
