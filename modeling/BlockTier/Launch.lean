import BlockTier.CommandLine
/-!
From a command line to a role that may listen: the settings are read, and the address to listen
on has a host and a port.
-/
namespace BlockTier.Launch

inductive AddressError
  | noPort
  | invalidPort
  deriving DecidableEq

def AddressError.message : AddressError → String
  | noPort => "invalid socket address"
  | invalidPort => "invalid port value"

/-- The port that digits stand for; a plus sign may stand in front of them. -/
def port? (digits : List Char) : Option Nat :=
  let digits :=
    match digits with
    | '+' :: rest => rest
    | digits => digits
  let value := digits.foldl (fun n c => 10 * n + (c.toNat - 48)) 0
  if digits.isEmpty || !digits.all Char.isDigit || 65535 < value then none else some value

structure Address where
  host : String
  port : Nat
  deriving DecidableEq

/-- The port stands behind the last colon. -/
def Address.ofText (text : String) : Except AddressError Address :=
  let back := text.toList.reverse
  let digits := (back.takeWhile (· ≠ ':')).reverse
  match back.dropWhile (· ≠ ':') with
  | [] => .error .noPort
  | _ :: host =>
    match port? digits with
    | some port => .ok ⟨String.ofList host.reverse, port⟩
    | none => .error .invalidPort

inductive Failure
  | settings (cause : Settings.LoadError)
  | address (cause : AddressError)
  deriving DecidableEq

def Failure.message : Failure → String
  | settings .notText => "stream did not contain valid UTF-8"
  | settings .unreadable => "the settings cannot be read"
  | settings (.invalid cause) => cause.message
  | address cause => cause.message

structure Plan where
  role : Role
  settings : Settings
  address : Address
  deriving DecidableEq

/-- Prepares a role, from the bytes of the settings file if there is one. -/
def prepare (i : CommandLine.Invocation) (file : Option Bytes) : Except Failure Plan := do
  let settings ← (Settings.load file).mapError .settings
  let address ← (Address.ofText (settings.listenFor i.role i.listen)).mapError .address
  return ⟨i.role, settings, address⟩

def programName : String := "kv-tier"

def versionLine : String := s!"{programName} 0.1.0"

def usageLine : String :=
  let roles := "|".intercalate (Role.all.map Role.command)
  s!"Usage: {programName} [OPTIONS] <{roles}>"

end BlockTier.Launch
