import BlockTier.Url.Domain.Table
/-!
The composed form of texts: marks stand behind their letter in the order of their classes, and a
letter is one character with each mark that it can be one with.
-/
namespace BlockTier.Url.Domain

/-- Characters that are made of two others. -/
def pairTable : String :=
"e0=61.300/61.301/61.302/61.303/61.308/61.30a
1=63.327/65.300/65.301/65.302/65.308/69.300/69.301/69.302/69.308
1=6e.303/6f.300/6f.301/6f.302/6f.303/6f.308 2=75.300/75.301/75.302/75.308/79.301 1=79.308
1=61.304 1=61.306 1=61.328 1=63.301 1=63.302 1=63.307 1=63.30c 1=64.30c 3=65.304 1=65.306
1=65.307 1=65.328 1=65.30c 1=67.302 1=67.306 1=67.307 1=67.327 1=68.302 3=69.303 1=69.304
1=69.306 1=69.328 5=6a.302 1=6b.327 2=6c.301 1=6c.327 1=6c.30c 5=6e.301 1=6e.327 1=6e.30c
4=6f.304 1=6f.306 1=6f.30b 3=72.301 1=72.327 1=72.30c 1=73.301 1=73.302 1=73.327 1=73.30c
1=74.327 1=74.30c 3=75.303 1=75.304 1=75.306 1=75.30a 1=75.30b 1=75.328 1=77.302 1=79.302
2=7a.301 1=7a.307 1=7a.30c 22=6f.31b e=75.31b 1d=61.30c 1=69.30c 1=6f.30c 1=75.30c 1=fc.304
1=fc.301 1=fc.30c 1=fc.300 2=e4.304 1=227.304 1=e6.304 3=67.30c 1=6b.30c 1=6f.328 1=1eb.304
1=292.30c/6a.30c 4=67.301 3=6e.300 1=e5.301 1=e6.301 1=f8.301 1=61.30f 1=61.311 1=65.30f
1=65.311 1=69.30f 1=69.311 1=6f.30f 1=6f.311 1=72.30f 1=72.311 1=75.30f 1=75.311 1=73.326
1=74.326 3=68.30c 7=61.307 1=65.327 1=f6.304 1=f5.304 1=6f.307 1=22f.304 1=79.304 15c=3ca.301
1b=3b1.301/3b5.301/3b7.301/3b9.301/3cb.301 19=3b9.308/3c5.308/3bf.301/3c5.301/3c9.301 6a=438.306
16=435.300/435.308 1=433.301 3=456.308 4=43a.301/438.300/443.306 18=475.30f 4a=436.306 e=430.306
1=430.308 3=435.306 3=4d9.308 1=436.308 1=437.308 3=438.304 1=438.308 1=43e.308 3=4e9.308
1=44d.308 1=443.304 1=443.308 1=443.30b 1=447.308 3=44b.308
128=627.653/627.654/648.654/627.655/64a.654 99=6d5.654 1=6c1.654 10=6d2.654 255=928.93c
7=930.93c 2=933.93c 96=9c7.9be/9c7.9d7 17b=b47.b56 2=b47.b3e/b47.b57 47=b92.bd7
35=bc6.bbe/bc7.bbe/bc6.bd7 7b=c46.c56 77=cbf.cd5 6=cc6.cd5/cc6.cd6 1=cc6.cc2/cca.cd5
7e=d46.d3e/d47.d3e/d46.d57 8d=dd9.dca 1=dd9.dcf/ddc.dca/dd9.ddf 247=1025.102e adf=1b05.1b35
1=1b07.1b35 1=1b09.1b35 1=1b0b.1b35 1=1b0d.1b35 3=1b11.1b35 28=1b3a.1b35 1=1b3c.1b35
2=1b3e.1b35/1b3f.1b35 1=1b42.1b35 2bd=61.325 1=62.307 1=62.323 1=62.331 1=e7.301 1=64.307
1=64.323 1=64.331 1=64.327 1=64.32d 1=113.300 1=113.301 1=65.32d 1=65.330 1=229.306 1=66.307
1=67.304 1=68.307 1=68.323 1=68.308 1=68.327 1=68.32e 1=69.330 1=ef.301 1=6b.301 1=6b.323
1=6b.331 1=6c.323 1=1e37.304 1=6c.331 1=6c.32d 1=6d.301 1=6d.307 1=6d.323 1=6e.307 1=6e.323
1=6e.331 1=6e.32d 1=f5.301 1=f5.308 1=14d.300 1=14d.301 1=70.301 1=70.307 1=72.307 1=72.323
1=1e5b.304 1=72.331 1=73.307 1=73.323 1=15b.307 1=161.307 1=1e63.307 1=74.307 1=74.323 1=74.331
1=74.32d 1=75.324 1=75.330 1=75.32d 1=169.301 1=16b.308 1=76.303 1=76.323 1=77.300 1=77.301
1=77.308 1=77.307 1=77.323 1=78.307 1=78.308 1=79.307 1=7a.302 1=7a.323
1=7a.331/68.331/74.308/77.30a/79.30a 7=61.323 1=61.309 1=e2.301 1=e2.300 1=e2.309 1=e2.303
1=1ea1.302 1=103.301 1=103.300 1=103.309 1=103.303 1=1ea1.306 1=65.323 1=65.309 1=65.303
1=ea.301 1=ea.300 1=ea.309 1=ea.303 1=1eb9.302 1=69.309 1=69.323 1=6f.323 1=6f.309 1=f4.301
1=f4.300 1=f4.309 1=f4.303 1=1ecd.302 1=1a1.301 1=1a1.300 1=1a1.309 1=1a1.303 1=1a1.323 1=75.323
1=75.309 1=1b0.301 1=1b0.300 1=1b0.309 1=1b0.303 1=1b0.323 1=79.300 1=79.323 1=79.309 1=79.303
6=3b1.313/3b1.314/1f00.300/1f01.300/1f00.301/1f01.301/1f00.342/1f01.342
8=3b5.313/3b5.314/1f10.300/1f11.300/1f10.301/1f11.301
a=3b7.313/3b7.314/1f20.300/1f21.300/1f20.301/1f21.301/1f20.342/1f21.342
8=3b9.313/3b9.314/1f30.300/1f31.300/1f30.301/1f31.301/1f30.342/1f31.342
8=3bf.313/3bf.314/1f40.300/1f41.300/1f40.301/1f41.301
a=3c5.313/3c5.314/1f50.300/1f51.300/1f50.301/1f51.301/1f50.342/1f51.342
8=3c9.313/3c9.314/1f60.300/1f61.300/1f60.301/1f61.301/1f60.342/1f61.342 8=3b1.300 1=3b5.300
1=3b7.300 1=3b9.300 1=3bf.300 1=3c5.300 1=3c9.300 33=3b1.306/3b1.304 4=3b1.342 f=3b7.342
9=3b9.306/3b9.304/3ca.300 3=3b9.342/3ca.342 8=3c5.306/3c5.304/3cb.300
1=3c1.313/3c1.314/3c5.342/3cb.342 e=3c9.342 1a3=2190.338/2192.338 12=2194.338
1e=21d0.338/21d4.338/21d2.338 34=2203.338 4=2208.338 2=220b.338 17=2223.338 1=2225.338
1a=223c.338 2=2243.338 2=2245.338 1=2248.338 16=3d.338 1=2261.338
a=224d.338/3c.338/3e.338/2264.338/2265.338 2=2272.338/2273.338 2=2276.338/2277.338
6=227a.338/227b.338 2=2282.338/2283.338 2=2286.338/2287.338
22=22a2.338/22a8.338/22a9.338/22ab.338 30=227c.338/227d.338/2291.338/2292.338
6=22b2.338/22b3.338/22b4.338/22b5.338 d5e=304b.3099 1=304d.3099 1=304f.3099 1=3051.3099
1=3053.3099 1=3055.3099 1=3057.3099 1=3059.3099 1=305b.3099 1=305d.3099 1=305f.3099 1=3061.3099
2=3064.3099 1=3066.3099 1=3068.3099 6=306f.3099/306f.309a 1=3072.3099/3072.309a
1=3075.3099/3075.309a 1=3078.3099/3078.309a 1=307b.3099/307b.309a 16=3046.3099 9=309d.3099
d=30ab.3099 1=30ad.3099 1=30af.3099 1=30b1.3099 1=30b3.3099 1=30b5.3099 1=30b7.3099 1=30b9.3099
1=30bb.3099 1=30bd.3099 1=30bf.3099 1=30c1.3099 2=30c4.3099 1=30c6.3099 1=30c8.3099
6=30cf.3099/30cf.309a 1=30d2.3099/30d2.309a 1=30d5.3099/30d5.309a 1=30d8.3099/30d8.309a
1=30db.3099/30db.309a 16=30a6.3099 2=30ef.3099/30f0.3099/30f1.3099/30f2.3099 3=30fd.3099
d4ca=105d2.307 1a=105da.307 ab5=11099.110ba 1=1109b.110ba e=110a5.110ba
82=11131.11127/11132.11127 21b=11347.1133e/11347.11357 36=11382.113c9 1=11384.113bb
8=1138b.113c2 2=11390.113c9 33=113c2.113c2 1=113c2.113b8/113c2.113c9 f2=114b9.114ba/114b9.114b0
1=114b9.114bd fb=115b8.115af/115b9.115af 37c=11935.11930
47e8=1611e.1611e/1611e.16129/1611e.1611f/16129.1611f/1611e.16120/16121.1611f
0=16122.1611f/16121.16120 c3f=16d67.16d67/16d63.16d67/16d69.16d67"

def classTable : String :=
"300.15.230 0.1.232 0.4.220 0.1.232 0.1.216 0.5.220 0.2.202 0.4.220 0.2.202 0.b.220 0.5.1 0.4.220
0.a.230 0.3.220 0.3.230 0.2.220 1.3.230 0.4.220 0.1.230 0.1.232 0.2.220 0.1.230 0.1.233 0.2.234
0.1.233 0.2.234 0.1.233 0.d.230 113.5.230 109.1.220 0.4.230 0.1.220 0.3.230 0.1.222 0.1.220
0.6.230 0.6.220 0.2.230 0.1.220 0.2.230 0.1.222 0.1.228 0.1.230 0.1.10 0.1.11 0.1.12 0.1.13
0.1.14 0.1.15 0.1.16 0.1.17 0.1.18 0.2.19 0.1.20 0.1.21 0.1.22 1.1.23 1.1.24 0.1.25 1.1.230
0.1.220 1.1.18 48.8.230 0.1.30 0.1.31 0.1.32 30.1.27 0.1.28 0.1.29 0.1.30 0.1.31 0.1.32 0.1.33
0.1.34 0.2.230 0.2.220 0.5.230 0.1.220 0.2.230 0.1.220 10.1.35 65.7.230 2.4.230 0.1.220 0.1.230
2.2.230 1.1.220 0.2.230 0.1.220 23.1.36 1e.1.230 0.1.220 0.2.230 0.1.220 0.2.230 0.3.220 0.1.230
0.2.220 0.1.230 0.1.220 0.3.230 0.1.220 0.1.230 0.1.220 0.1.230 0.1.220 0.1.230 0.1.220 0.2.230
a0.7.230 0.1.220 0.1.230 9.1.220 18.4.230 1.9.230 1.3.230 1.5.230 2b.3.220 3b.2.230 0.3.220
0.4.230 2a.5.230 0.5.220 0.e.230 1.1.220 0.2.230 0.1.220 0.2.230 0.1.220 0.3.230 0.3.220 0.1.27
0.1.28 0.1.29 0.3.230 0.1.220 0.2.230 0.2.220 0.5.230 3c.1.7 10.1.9 3.1.230 0.1.220 0.2.230
67.1.7 10.1.9 30.1.230 3d.1.7 10.1.9 6e.1.7 10.1.9 6e.1.7 10.1.9 7f.1.9 6e.1.7 10.1.9 7.1.84
0.1.91 65.1.7 10.1.9 6d.2.9 10.1.9 7c.1.9 6d.2.103 0.1.9 d.4.107 6c.2.118 0.1.9 d.4.122 4c.2.220
1b.1.220 1.1.220 1.1.216 37.1.129 0.1.130 1.1.132 5.4.130 2.1.130 1.2.230 0.1.9 1.2.230 3e.1.220
70.1.7 1.2.9 52.1.220 2cf.3.230 3b4.2.9 1e.1.9 9d.1.9 a.1.230 cb.1.228 8f.1.222 0.1.230 0.1.220
db.1.230 0.1.220 47.1.9 14.8.230 2.1.220 30.5.230 0.6.220 0.2.230 0.1.220 1.2.220 0.2.230
0.2.220 0.5.230 0.1.220 0.12.230 0.1.220 2.6.230 0.1.220 0.4.230 0.1.234 48.1.7 f.1.9 26.1.230
0.1.220 0.7.230 36.2.9 3a.1.7 b.2.9 43.1.7 98.3.230 1.1.1 0.5.220 0.2.230 0.4.220 0.1.230 1.7.1
4.1.220 6.1.230 3.2.230 c6.2.230 0.1.220 0.7.230 0.1.220 0.2.230 0.1.234 0.1.214 0.1.220 0.1.202
0.25.230 0.1.232 0.2.228 0.1.220 0.1.218 0.1.230 0.1.233 0.1.220 0.1.230 0.1.220 2d0.2.230 0.2.1
0.4.230 0.3.1 0.2.230 4.1.230 3.2.1 0.1.230 0.1.220 0.1.230 0.2.1 0.4.220 0.1.230 bfe.3.230
8d.1.9 60.20.230 22a.1.218 0.1.228 0.1.232 0.1.222 0.2.224 69.2.8 75d4.1.230 4.a.230 20.2.230
50.2.230 114.1.9 25.1.9 97.1.9 1b.12.230 39.3.220 25.1.9 5f.1.7 c.1.9 ef.1.230 1.2.230 0.1.220
2.2.230 5.2.230 1.1.230 34.1.9 f6.1.9 4f30.1.26 301.7.230 0.7.220 0.2.230 3cd.1.220 e2.1.220
95.5.230 692.1.220 1.1.230 28.1.230 0.1.1 0.1.220 4.1.9 a5.1.230 0.1.220 23d.4.230 41.5.230
13d.2.230 4d.2.220 1.3.220 46.2.220 0.3.230 0.1.220 0.1.230 0.4.220 31.1.230 0.1.220 0.1.230
0.1.220 c0.1.9 29.1.9 e.1.9 39.1.9 0.1.7 45.3.230 30.2.9 3e.1.7 4c.1.9 9.1.7 6a.1.9 0.1.7 b2.1.7
0.1.9 50.2.7 10.1.9 18.f.230 59.3.9 71.1.9 3.1.7 17.1.230 63.1.9 0.1.7 fb.1.9 0.1.7 7e.1.9
76.1.9 0.1.7 73.1.9 10d.1.9 0.1.7 102.2.9 4.1.7 9c.1.9 53.1.9 12.1.9 51.1.9 1a5.1.9 102.1.7
1.2.9 51.1.9 1a9.2.9 41ec.1.9 9c0.5.1 3b.7.230 4b9.2.6 4cac.1.1 14c6.2.216 0.3.1 3.1.226 0.5.216
8.8.220 2.5.230 0.2.220 1e.4.230 94.3.230 dbb.90.230 a0.7.230 177.1.230 3d.4.230 1fc.2.232
0.1.220 0.1.230 fe.1.230 0.1.220 f3.1.230 2.1.230 7.2.230 5.1.230 1da.7.220 6d.6.230 0.1.7"

def pairEntries : List Entry := readEntries pairTable

def classRuns : List Run := readRuns classTable

/-- The class of a mark; other characters have class zero and keep their place. -/
def markClass (code : Nat) : Nat := ((valueIn? classRuns code).map (number 10)).getD 0

/-! Syllables of the Korean script are made of letters by their numbers. -/

def syllableBase : Nat := 0xac00
def leadBase : Nat := 0x1100
def vowelBase : Nat := 0x1161
def tailBase : Nat := 0x11a7
def leadCount : Nat := 19
def vowelCount : Nat := 21
def tailCount : Nat := 28

def parts? (code : Nat) : Option (Nat × Nat) :=
  let syllable := code - syllableBase
  if syllableBase ≤ code && syllable < leadCount * vowelCount * tailCount then
    if syllable % tailCount = 0 then
      some (leadBase + syllable / (vowelCount * tailCount),
        vowelBase + syllable / tailCount % vowelCount)
    else some (code - syllable % tailCount, tailBase + syllable % tailCount)
  else
    match imageIn? pairEntries code with
    | some [first, second] => some (first, second)
    | _ => none

/-- The pairs of the table with what they make. -/
def compositions : List ((Nat × Nat) × Nat) :=
  pairEntries.flatMap fun e =>
    (List.range (e.last + 1 - e.first)).filterMap fun i =>
      (parts? (e.first + i)).map (·, e.first + i)

def composite? (first second : Nat) : Option Nat :=
  let lead := first - leadBase
  let vowel := second - vowelBase
  let syllable := first - syllableBase
  if leadBase ≤ first && lead < leadCount && vowelBase ≤ second && vowel < vowelCount then
    some (syllableBase + (lead * vowelCount + vowel) * tailCount)
  else if syllableBase ≤ first && syllable < leadCount * vowelCount * tailCount &&
      syllable % tailCount = 0 && tailBase < second && second - tailBase < tailCount then
    some (first + (second - tailBase))
  else (compositions.find? (·.1 = (first, second))).map (·.2)

/-- No character is made of characters that are made of others more often. -/
def maxDepth : Nat := 4

/-- The characters that a character is made of in the end. -/
def decompose : (depth : Nat) → Nat → List Nat
  | 0, code => [code]
  | depth + 1, code =>
    match parts? code with
    | none => [code]
    | some (first, second) => decompose depth first ++ decompose depth second

/-- Puts a character in front of marks in order; it moves behind those of lower class. -/
def insertMark (code : Nat) : List Nat → List Nat
  | [] => [code]
  | next :: rest =>
    if 0 < markClass next && markClass next < markClass code then next :: insertMark code rest
    else code :: next :: rest

def sortMarks (codes : List Nat) : List Nat := codes.foldr insertMark []

structure Composer where
  /-- What is finished, latest first. -/
  finished : List Nat := []
  /-- The letter that marks may still become one with. -/
  letter : Option Nat := none
  /-- The marks behind the letter, latest first. -/
  marks : List Nat := []

def Composer.flush (s : Composer) : List Nat := s.marks ++ s.letter.toList ++ s.finished

/-- Takes the next character. A mark does not reach the letter past one of its class or above. -/
def Composer.feed (s : Composer) (code : Nat) : Composer :=
  let isFree := s.marks.head?.all (fun m => markClass m < markClass code)
  match (if isFree then s.letter.bind (composite? · code) else none) with
  | some whole => { s with letter := some whole }
  | none =>
    if markClass code = 0 then { finished := s.flush, letter := some code }
    else { s with marks := code :: s.marks }

def compose (codes : List Nat) : List Nat :=
  ((sortMarks (codes.flatMap (decompose maxDepth))).foldl Composer.feed {}).flush.reverse

end BlockTier.Url.Domain
