import BlockTier.Url.Domain.Table
/-!
The direction of labels. Once a name holds a character that is written from right to left, each of
its labels has to keep to one direction.
-/
namespace BlockTier.Url.Domain

/-- What a character means for the direction of a text. -/
inductive Direction
  | left | right
  /-- A European digit. -/
  | digit
  /-- An Arabic digit. -/
  | arabicDigit
  | mark
  | neutral
  deriving DecidableEq

/-- Characters that are not written from left to right: `R` from right to left, `E` and `A` digits,
`M` marks, `N` neutral ones. -/
def directionTable : String :=
"a1.37.N 1f.1.N 1c1.2.N 7.e.N 2.1c.N 1.11.N 0.70.M 5.1.N 80.1.N 8c.7.M 100.6.N 1.2d.M 0.1.R 0.1.M
0.1.R 0.2.M 0.1.R 0.2.M 0.1.R 0.1.M 8.25.R 11.2.N 0.1.R 0.2.N 0.1.R 0.1.N 0.1.R 0.2.N 0.b.M
0.30.R 0.15.M 0.a.A 0.1.N 0.2.A 0.3.R 0.1.M 0.65.R 0.7.M 1.1.N 0.6.M 0.2.R 0.2.M 0.1.N 0.4.M
0.2.R 0.a.E 0.17.R 0.1.M 0.1e.R 0.1b.M 2.59.R 0.b.M 0.3a.R 0.9.M 0.2.R 0.4.N 0.1.R 2.1.M 0.18.R
0.4.M 0.1.R 0.9.M 0.1.R 0.3.M 0.1.R 0.5.M 2.29.R 0.3.M 2.32.R 7.9.M 0.2a.R 0.39.M 37.1.M 1.1.M
4.8.M 4.1.M 3.7.M a.2.M 1d.1.M 3a.1.M 4.4.M 8.1.M 14.2.M e.2.N 7.1.N 2.5.M 39.1.M 4.11.M 1e.2.M
3.1.M b.2.M 39.1.M 4.8.M 4.1.M 14.2.M d.1.N 8.8.M 3a.1.M 2.1.M 1.4.M 8.a.M b.2.M 1e.1.M 3d.1.M
c.1.M 25.8.N 5.1.M 3.1.M 37.1.M 1.3.M 5.11.M b.2.M 14.7.N 2.1.M 3a.1.M f.2.M 14.2.M 1c.2.M
39.2.M 4.4.M 8.1.M 14.2.M 1d.1.M 48.1.M 7.5.M 5a.1.M 2.7.M 4.1.N 7.8.M 62.1.M 2.9.M b.7.M 49.2.M
1b.1.M 1.1.M 1.1.M 0.4.N 33.e.M 1.5.M 1.2.M 5.30.M 9.1.M 66.4.M 1.6.M 1.2.M 2.2.M 19.2.M 4.3.M
10.4.M d.1.M 2.2.M 6.1.M f.1.M 2bf.3.M 30.a.N 66.1.N 29a.2.N 75.3.M 1d.2.M 1e.2.M 1e.2.M 43.7.M
8.1.M 2.b.M 7.1.N 1.1.M 12.1b.N 7a.2.M 22.1.M 76.3.M 4.2.M 9.1.M 6.3.M 4.6.N 98.22.N 17.2.M
2.1.M 3a.1.M 1.9.M 1.1.M 2.8.M 6.d.M 30.54.M 30.1.M 1.5.M 1.1.M 5.1.M b.2.N 1b.9.M b.1.N 0.2.M
20.4.M 2.2.M 1.3.M 38.1.M 1.2.M 3.1.M 1.3.M 3a.8.M 2.2.M 98.3.M 1.d.M 1.7.M 4.1.M 6.1.M 3.2.M
c6.40.M 20c.b6.N e.21.M 13.4a.N 3c.1ac.N 45.1a.N 1.316.N 1.153.N 100.300.N e5.6.N 4.3.M 7.7.N
7f.1.M 60.20.M 0.205.N 3.19.N 9.4.M 2.1.N 6.1.N 5.3.N 59.2.M 5.1.N 5a.1.N c4.26.N 1bda.40.N
5690.37.N 146.3.N 5f.4.M 0.1.N 0.a.M 0.2.N 1e.2.M 50.2.M e.22.N 66.1.N 79.1.M 3.1.M 4.1.M 19.2.M
1.4.N 0.1.M b.2.N 3a.4.N 4c.2.M 1a.12.M d.1.M 26.8.M 19.b.M 2e.3.M 30.1.M 2.4.M 2.2.M 27.1.M
43.6.M 2.2.M 2.2.M c.1.M 8.1.M 2f.1.M 33.1.M 1.3.M 2.2.M 5.2.M 1.1.M 2a.2.M 8.1.M 73.2.N 79.1.M
2.1.M 4.1.M 4f30.1.M 93.21.R 16b.12.N 40.3f.R 0.31.N 20.10.M 15.2.N 2c.1.R 28d.1.N 3e.4d.N
3.11.N 5c.1.M e2.1.M 0.1b.E 7a.5.M 485.11c.R 3.1.N 0.e1.R 0.f.M 0.26.R 2.8.M 0.a5.R 0.2.M 4.4b.R
3.7.N 0.1e4.R 0.4.M 8.1a.A 0.6.R 19.5.M 0.22.R d0.1f.A 1.2a.R 1.2.M 0.2c.R 21.6.M 0.46.R 0.b.M
0.31.R 0.4.M 0.71.R a.1.M 36.f.M b.14.N a.1.M 2.2.M a.3.M 31.4.M 2.2.M 7.1.M 3d.3.M 24.5.M 1.8.M
3e.1.M c.2.M 34.9.M a.4.M 2.1.M 5f.3.M 2.1.M 1.2.M 6.1.M 2.1.M 9d.1.M 3.8.M 15.2.M 39.2.M 3.1.M
25.f.M 46.6.M d.1.M 1.1.M 1.1.M 1.5.N 8.2.M 55.8.M 2.3.M 1.1.M 17.1.M 54.6.M 1.1.M 4.2.M 1.2.M
ee.4.M 6.2.M 1.2.M 1b.2.M 55.8.M 2.1.M 1.2.M 1f.d.N 3e.1.M 1.1.M 2.6.M 1.1.M 65.3.M 2.4.M 1.5.M
103.9.M 1.2.M 100.2.M 1.1.M 4.1.M 90.8.M 4.1.M 20.6.M 2.2.M 28.6.M 2.4.M 8.1.M 9.6.M 2.3.M
2e.d.M 1.2.M c6.1.M 1.3.M 1.1.M 7a.1.N 4e.e.M 54.16.M 2.7.M 1.2.M 1.2.M 7a.15.M 1.1.M 48.2.M
3.1.M 1.1.M 15b.2.M b.2.M 34.5.M 5.1.M 1.1.M 17.1.M 7a.1d.N 144e.1.M 6.f.M 2cc8.c.M 3.3.M
9c0.5.M 3b.7.M 236.3.N 1df.1.M 3f.4.M 4f.1.N 1.1.M 4cb8.2.M f61.2f1.N f.47.M 220.3.M 11.8.M
2.7.M 1e.4.M 3b.59.N 0.3.M 0.1.N ba.57.N 6a9.37.M 4.32.M 8.1.M e.1.M 16.15.M 550.90.M a0.7.M
177.1.M 3d.4.M f.1.N 1ec.4.M fe.2.M f.1.N e3.1.M 2.1.M 7.2.M 5.1.M 10a.d0.R 0.7.M 4b.22.R 0.7.M
0.3f3.R 1b2.240.N 3d.3.N 3d.1.N b2.99b.N"

def directionRuns : List Run := readRuns directionTable

def direction (code : Nat) : Direction :=
  if code < 128 then
    if (Char.ofNat code).isAlpha then .left
    else if (Char.ofNat code).isDigit then .digit
    else .neutral
  else
    match valueIn? directionRuns code with
    | some ['R'] => .right
    | some ['A'] => .arabicDigit
    | some ['E'] => .digit
    | some ['M'] => .mark
    | some _ => .neutral
    | none => .left

def turnsRight (d : Direction) : Bool := d = .right || d = .arabicDigit

/-- Whether a label keeps to one direction: it starts with a letter, ends in a letter or a digit,
marks aside, and holds none of the other direction. In a label from right to left the digits are of
one kind. -/
def keepsDirection (label : List Nat) : Bool :=
  match label.map direction with
  | [] => true
  | first :: rest =>
    let tail := (rest.reverse.dropWhile (· = .mark)).reverse
    let ends (allowed : List Direction) := (tail.getLast?.map allowed.contains).getD true
    match first with
    | .left => !tail.any turnsRight && ends [.left, .digit]
    | .right =>
      !tail.contains .left && ends [.right, .digit, .arabicDigit] &&
        !(tail.contains .digit && tail.contains .arabicDigit)
    | _ => false

/-- Whether the labels of a name are fit to stand together. -/
def directionsAgree (labels : List (List Nat)) : Bool :=
  !labels.any (·.any (turnsRight ∘ direction)) || labels.all keepsDirection

end BlockTier.Url.Domain
