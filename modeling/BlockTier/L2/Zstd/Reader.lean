import BlockTier.L2.Zstd.Frame
import BlockTier.L2.Zstd.Sink
/-!
Reads frames that hold raw and run-length blocks, alone, in sequence and between skippable frames.
A frame whose content is known to fit into the next portion of the sink is read in one go, and only
the content's length is looked at; any other is read block by block within the bounds of its window.
-/
namespace BlockTier.L2.Zstd

/-- A frame that is read block by block asks its reader to keep no more bytes. -/
def maxWindow : Nat := (1 <<< 27) + 1

/-- The data is at hand in pieces of this length. -/
def pieceLength : Nat := maxBlock + 3

/-- The contents of the blocks of a frame that is read in one go, and what follows the last one.
Together they are as long as the frame says. Each block takes at least three bytes, so `fuel` above
their number is never used up. -/
def directBlocks (size : Nat) :
    (fuel : Nat) → Bytes → List Bytes → Except Error (List Bytes × Bytes)
  | 0, _, _ => .error .incomplete
  | fuel + 1, b, done => do
    let (h, b) ← blockHeader b
    let (content, b) ← blockContent h b
    let done := content :: done
    if h.last then
      if (done.map List.length).sum = size then return (done.reverse, b) else throw .corrupted
    directBlocks size fuel b done

/-- The bytes that frames are read with: for a block as it is written, and for content. -/
structure Memory where
  block : Nat := 0
  content : Nat := 0

/-- The memory stays as it is if both of its parts are large enough. -/
def Memory.fit (m need : Memory) : Memory :=
  if m.block < need.block || m.content < need.content then need else m

/-- No block of the frame is longer. -/
def Header.blockLimit (h : Header) : Nat := min h.window maxBlock

/-- What a frame asks for: room for a block, and for its content or its window and two blocks. -/
def Header.memory (h : Header) : Memory :=
  let window := max h.window 1024
  let content := window + 2 * h.blockLimit + 64
  ⟨max h.blockLimit 4, (h.contentSize.map (min content)).getD content⟩

/-- Where the content of a frame's blocks is kept before it is put out. -/
structure Buffer where
  size : Nat
  used : Nat := 0

/-- Makes room for the next block, unless the whole content fits. -/
def Buffer.next (m : Buffer) (h : Header) : Buffer :=
  let holdsAll := h.contentSize.any (· ≤ m.size)
  if !holdsAll && m.size < m.used + h.blockLimit then { m with used := 0 } else m

/-- The contents of the blocks of a frame, each of which is put out before the next one is read, and
what follows the last one. A frame that ends in a block without bytes may be shorter or longer than
it says. Each block takes at least three bytes, so `fuel` above their number is never used up. -/
def blocks (h : Header) :
    (fuel : Nat) → Buffer → Bytes → List Bytes → Except Error (List Bytes × Bytes)
  | 0, _, _, _ => .error .incomplete
  | fuel + 1, m, b, done => do
    let (block, b) ← blockHeader b
    if block.size = 0 && block.kind ≠ .run then
      if block.last then return (done.reverse, b)
      blocks h fuel m b done
    else
      if h.blockLimit < block.size || h.blockLimit = 0 || m.size < m.used + block.size then
        throw .corrupted
      let (content, b) ← blockContent block b
      let done := content :: done
      if block.last then
        if h.contentSize.any (· ≠ (done.map List.length).sum) then throw .corrupted
        return (done.reverse, b)
      blocks h fuel (Buffer.next { m with used := m.used + block.size } h) b done

/-- The bytes that are left of the piece of the data in which the last `left` bytes of `total`
begin. -/
def inPiece (total left : Nat) : Nat := pieceLength - (total - left) % pieceLength

/-- Whether a frame of which `b` is left after its magic number lies in one piece of the data. -/
def liesInPiece (total : Nat) (b : Bytes) : Bool :=
  let rest (fuel : Nat) := do
    let (_, b) ← header b
    directEnd fuel b
  match rest (b.length + 1) with
  | .ok after => b.length + magic.length - after.length ≤ inPiece total (b.length + magic.length)
  | .error _ => false
where
  /-- What follows the last block. -/
  directEnd : (fuel : Nat) → Bytes → Except Error Bytes
    | 0, _ => .error .incomplete
    | fuel + 1, b => do
      let (h, b) ← blockHeader b
      let (_, b) ← cut (if h.kind = .run then 1 else h.size) b
      if h.last then return b
      directEnd fuel b

/-- What is left after a frame. -/
structure Progress where
  memory : Memory := {}
  sink : Sink := {}
  /-- The contents of the blocks so far, the latest frame first. -/
  done : List (List Bytes) := []

/-- Reads a frame whose magic number has been read. What follows it is left. -/
def frame (total : Nat) (p : Progress) (b : Bytes) : Except Error (Progress × Bytes) := do
  let (h, rest) ← header b
  let fuel := b.length + 1
  match h.contentSize with
  | some size =>
    if size ≤ p.sink.room && liesInPiece total b then
      let (contents, b) ← directBlocks size fuel rest []
      return ({ p with sink := p.sink.takeAll size, done := contents :: p.done }, b)
  | none => pure ()
  if maxWindow < h.window then throw .unsupported
  let memory := p.memory.fit h.memory
  let (contents, b) ← blocks h fuel { size := memory.content } rest []
  return (⟨memory, p.sink.takeBlocks (contents.map List.length), contents :: p.done⟩, b)

def skippable (b : Bytes) : Except Error Bytes := do
  let (n, b) ← cut 4 b
  let (_, b) ← cut (Bytes.littleEndian n) b
  return b

inductive Start
  | frame | skippable

/-- What a frame's first four bytes say. Fewer bytes are a frame cut short if they could go on as
a magic number. -/
def start (b : Bytes) : Except Error (Start × Bytes) :=
  let front := b.take 4
  let isFrame := magic.take front.length = front
  let isSkippable :=
    match front with
    | [] => true
    | x :: rest => x.toNat / 16 = 5 && skippableMagic.take rest.length = rest
  if isFrame && front.length = 4 then .ok (.frame, b.drop 4)
  else if isSkippable && front.length = 4 then .ok (.skippable, b.drop 4)
  else if isFrame || isSkippable then .error .incomplete
  else .error .unknownDescriptor

/-- Reads all frames. Each of them takes at least four bytes, so `fuel` above their number is never
used up. -/
def frames (total : Nat) : (fuel : Nat) → Progress → Bytes → Except Error Progress
  | 0, _, _ => .error .incomplete
  | fuel + 1, p, b => do
    let (kind, b) ← start b
    let (p, b) ←
      match kind with
      | .frame => frame total p b
      | .skippable => do pure (p, ← skippable b)
    if b.isEmpty then return p
    frames total fuel p b

def decompress (b : Bytes) : Except Error Bytes := do
  let p ← frames b.length (b.length + 1) {} b
  return p.done.reverse.flatten.flatten

end BlockTier.L2.Zstd
