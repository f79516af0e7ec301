import BlockTier.Http.Frame
import BlockTier.Service
/-!
The program. It serves the requests that come in on its standard input, one after the other, and
ends when the input does.
-/
open BlockTier

/-- The lines up to the next empty one, without their ends. -/
partial def readHead (input : IO.FS.Stream) (lines : List String) : IO (List String) := do
  let line ← input.getLine
  let text := line.trimAsciiEnd.toString
  if text.isEmpty then return lines.reverse else readHead input (text :: lines)

partial def readBody (input : IO.FS.Stream) (length : Nat) (done : ByteArray) : IO Bytes := do
  if length ≤ done.size then return done.toList
  let more ← input.read (USize.ofNat (length - done.size))
  if more.isEmpty then return done.toList else readBody input length (done ++ more)

partial def serve (input output : IO.FS.Stream) (started : Nat) (service : Service) : IO Unit := do
  match Http.Head.ofLines? (← readHead input []) with
  | none => return
  | some head =>
    let body ← readBody input head.length .empty
    let now ← IO.monoMsNow
    let (service, response) := service.handle (now - started) (head.request body)
    output.write ⟨response.frame.toArray⟩
    output.flush
    serve input output started service

def readFile? (path : String) : IO (Option Bytes) := do
  try
    return some (← IO.FS.readBinFile path).toList
  catch
    | .noFileOrDirectory .. => return none
    | e => throw e

def run (invocation : CommandLine.Invocation) : IO UInt32 := do
  match Launch.prepare invocation (← readFile? invocation.config) with
  | .error failure =>
    IO.eprintln s!"Error: {failure.message}"
    return 1
  | .ok plan =>
    IO.eprintln s!"Listening on {plan.address.host}:{plan.address.port}"
    serve (← IO.getStdin) (← IO.getStdout) (← IO.monoMsNow) (Service.start plan)
    IO.eprintln "Shutdown complete"
    return 0

def main (arguments : List String) : IO UInt32 := do
  match CommandLine.read arguments (← IO.getEnv "KV_TIER_CONFIG") with
  | .error .version =>
    IO.println Launch.versionLine
    return CommandLine.Stop.exitCode .version
  | .error stop =>
    IO.eprintln Launch.usageLine
    return stop.exitCode
  | .ok invocation =>
    try run invocation
    catch e =>
      IO.eprintln s!"Error: {e}"
      return 1
