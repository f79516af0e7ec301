import BlockTier.L2.Zstd.Frame
/-!
Writes data as one frame, constant data as run-length blocks.
-/
namespace BlockTier.L2.Zstd

/-- A run of one byte as run-length blocks, the last of them marked. -/
def runBlocks (x : UInt8) (n : Nat) : Bytes :=
  if n ≤ maxBlock then Bytes.ofNatLE 3 (8 * n + 3) ++ [x]
  else Bytes.ofNatLE 3 (8 * maxBlock + 2) ++ x :: runBlocks x (n - maxBlock)
termination_by n
decreasing_by
  simp only [maxBlock] at *
  omega

/-- What follows the magic number: a window of two megabytes and no content size. -/
def descriptor : Bytes := [0x00, 0x58]

/-- Raw blocks, the last of them marked. -/
def rawBlocks (b : Bytes) : Bytes :=
  if b.length ≤ maxBlock then Bytes.ofNatLE 3 (8 * b.length + 1) ++ b
  else Bytes.ofNatLE 3 (8 * maxBlock) ++ b.take maxBlock ++ rawBlocks (b.drop maxBlock)
termination_by b.length
decreasing_by
  simp only [List.length_drop, maxBlock] at *
  omega

/-- Shorter runs of a byte are not worth their description. -/
def minRun : Nat := 18

/-- One frame that holds the data: run-length blocks for a run of one byte, else raw blocks. -/
def compress (b : Bytes) : Bytes :=
  magic ++ descriptor ++
    match b with
    | x :: _ =>
      if minRun ≤ b.length && b.all (· = x) then runBlocks x b.length else rawBlocks b
    | [] => rawBlocks []

end BlockTier.L2.Zstd
