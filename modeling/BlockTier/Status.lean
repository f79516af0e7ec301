import BlockTier.Bytes
/-!
The result that every tier operation returns. A miss is an ordinary negative result, told apart
from an unreachable tier by its code.
-/
namespace BlockTier

inductive Code
  | ok | notFound | unavailable | capacityExhausted | transferFailed | timeout | invalidArgument
  deriving DecidableEq

namespace Code

def all : List Code :=
  [ok, notFound, unavailable, capacityExhausted, transferFailed, timeout, invalidArgument]

def name : Code → String
  | ok => "ok"
  | notFound => "not_found"
  | unavailable => "unavailable"
  | capacityExhausted => "capacity_exhausted"
  | transferFailed => "transfer_failed"
  | timeout => "timeout"
  | invalidArgument => "invalid_argument"

def ofName? (s : String) : Option Code := all.find? (·.name = s)

/-- Whether the same call may succeed when it is made again. -/
def isRetryable : Code → Bool
  | unavailable | transferFailed | timeout => true
  | _ => false

theorem ofName?_name (c : Code) : ofName? c.name = some c := by cases c <;> decide

end Code

structure Status where
  success : Bool
  code : Code
  message : String
  payload : Option Bytes := none
  deriving DecidableEq

namespace Status

def ok (message : String) : Status := ⟨true, .ok, message, none⟩

def okWithPayload (message : String) (payload : Bytes) : Status :=
  ⟨true, .ok, message, some payload⟩

def failure (code : Code) (message : String) : Status := ⟨false, code, message, none⟩

def notFound (message : String) : Status := failure .notFound message

def unavailable (message : String) : Status := failure .unavailable message

def isMiss (s : Status) : Bool := !s.success && s.code = .notFound

/-- Puts a context in front of the message and keeps the rest. -/
def annotate (s : Status) (context : String) : Status :=
  { s with message := context ++ ": " ++ s.message }

end Status

end BlockTier
