import BlockTier.Url.Domain.Composition
/-!
Where marks and joiners may stand. No label starts with a mark; a joiner follows a sign that mutes a
vowel, and a non-joiner may also stand between letters that would join.
-/
namespace BlockTier.Url.Domain

def markTable : String :=
"300.70 113.7 107.2d 1 1.2 1.2 1 48.b 30.15 10 65.7 2.6 2.2 1.4 23 1e.1b 5b.b 3a.9 9 18.4 1.9 1.3
1.5 2b.3 3b.9 2a.3a 36.3 1.12 1.7 a.2 1d.3 38 1.10 9 a.2 1a.6 38.16 1e.2 3 b.3 38 1.10 14.2 16.a
38 1.1a a.2 1e 3b.10 9 28.5 37 1.19 b.2 1d.3 38 1.19 b.2 f.11 37.2 1.10 9 a.2 1d.3 46.16 12.2 3d
2.7 c.8 62 2.9 b.7 49.2 1b 1 1 4.2 31.14 1.2 5.30 9 64.14 17.4 4.3 1.3 2.7 3.4 d.c 1 a.4 2bf.3
3b2.4 1c.3 1d.2 1e.2 42.1e 9 a7.2 22 76.1c db.5 39.2b 30.55 2f.11 26.9 c.3 1e.d 38.e 30.14 98.3
1.15 4 6 2.3 c6.40 2d0.21 bfe.3 8d 60.20 22a.6 69.2 75d4.4 1.a 20.2 50.2 110 3 4 17.5 4 53.2
32.12 1a.12 d 26.8 19.d 2c.4 2f.e 24 43.e c 8.2 2d.3 32 1.3 2.2 5.2 1 29.5 5.2 ec.8 1.2 4f30
301.10 3cd e2 95.5 686.f 28.8 a5.2 23d.4 41.5 13d.2 4d.6 46.b 31.4 7a.3 35.f 29 2.2 a.4 2d.b 7
3d.3 24.e 10.2 2c c.3 30.e 8.4 1.2 5c.c 6 2 9d.c 15.4 37.2 1.10 9 a.13 43.19 1 e.2 52.12 17
51.14 eb.12 1b.2 52.11 6a.d 65.f 100.f f5.f 1 1.2 8d.10 3 1c.a 28.7 1.4 8 9.b 2e.10 c6.8 c7.11
52.25 7a.15 1 42.e 15b.4 9.2 1 30.f 17 14e5 6.f 2cc8.12 9c0.5 3b.7 418 1.42 51.e 4cab.2 1261.47
21e.5 3.16 2.7 1e.4 94.3 7bb.37 4.32 8 e 16.15 550.90 a0.7 177 3d.4 1fc.4 fe.2 f3 2 7.2 5 1da.7
6d.7"

/-- How letters join: `D` on both sides, `L` and `R` on one, `T` not at all but without a break. -/
def joiningTable : String :=
"300.70.T 113.7.T 107.2d.T 1.1.T 1.2.T 1.2.T 1.1.T 48.b.T 5.1.D 1.4.R 0.1.D 0.1.R 0.1.D 0.1.R
0.5.D 0.4.R 0.d.D 1.7.D 0.1.R 0.2.D 0.15.T e.2.D 0.1.T 0.3.R 5.f.D 0.12.R 0.26.D 0.1.R 0.2.D
0.9.R 0.1.D 0.1.R 0.1.D 0.1.R 0.2.D 0.2.R 1.1.R 0.7.T 2.6.T 2.2.T 1.4.T 0.2.R a.3.D 2.1.D 10.1.R
0.1.T 0.3.D 0.5.R 0.4.D 0.1.R 0.9.D 0.1.R 0.1.D 0.1.R 0.1.D 0.1.R 0.2.D 0.1.R 0.1b.T 2.1.R 0.b.D
0.3.R 0.f.D 0.2.R 0.4.D 0.1.R 0.1.D 0.2.R 0.3.D 0.2.R 0.6.D 26.b.T 19.21.D 0.9.T 9.1.T 18.4.T
1.9.T 1.3.T 1.5.T 12.1.R 0.5.D 0.2.R 0.1.D 0.1.R 0.a.D 0.1.R 0.1.D 0.3.R 0.3.T 4.1.D 1.4.D 1.1.R
0.1.D 0.1a.R 3.1.D 2.5.D 0.1.R 0.1.D 7.9.T 0.a.D 0.3.R 1.1.R 0.2.D 0.2.R 0.6.D 0.1.R 0.f.D
1.39.T 37.1.T 1.1.T 4.8.T 4.1.T 3.7.T a.2.T 1d.1.T 3a.1.T 4.4.T 8.1.T 14.2.T 1a.5.T 39.1.T
4.11.T 1e.2.T 3.1.T b.2.T 39.1.T 4.8.T 4.1.T 14.2.T 16.8.T 3a.1.T 2.1.T 1.4.T 8.a.T b.2.T 1e.1.T
3d.1.T c.1.T 32.1.T 3.1.T 37.1.T 1.3.T 5.11.T b.2.T 1d.1.T 3a.1.T 2.1.T 6.1.T 5.2.T 14.2.T
1c.2.T 39.2.T 4.4.T 8.1.T 14.2.T 1d.1.T 48.1.T 7.5.T 5a.1.T 2.7.T c.8.T 62.1.T 2.9.T b.7.T
49.2.T 1b.1.T 1.1.T 1.1.T 37.e.T 1.5.T 1.2.T 5.30.T 9.1.T 66.4.T 1.6.T 1.2.T 2.2.T 19.2.T 4.3.T
10.4.T d.1.T 2.2.T 6.1.T f.1.T 2bf.3.T 3b2.3.T 1d.2.T 1e.2.T 1e.2.T 43.7.T 8.1.T 2.b.T 9.1.T
29.1.D 18.59.D c.2.T 0.22.D 0.1.T 0.1.D 75.3.T 4.2.T 9.1.T 6.3.T db.2.T 2.1.T 3a.1.T 1.9.T 1.1.T
2.8.T 6.d.T 30.54.T 30.1.T 1.5.T 1.1.T 5.1.T 28.9.T c.2.T 20.4.T 2.2.T 1.3.T 38.1.T 1.2.T 3.1.T
1.3.T 3a.8.T 2.2.T 98.3.T 1.d.T 1.7.T 4.1.T 6.1.T 3.2.T c6.40.T 2d0.21.T bfe.3.T 8d.1.T 60.20.T
22a.4.T 6b.2.T 75d4.4.T 1.a.T 20.2.T 50.2.T 110.1.T 3.1.T 4.1.T 19.2.T 5.1.T 13.32.D 0.1.L
51.2.T 1a.12.T d.1.T 26.8.T 19.b.T 2e.3.T 30.1.T 2.4.T 2.2.T 27.1.T 43.6.T 2.2.T 2.2.T c.1.T
8.1.T 2f.1.T 33.1.T 1.3.T 2.2.T 5.2.T 1.1.T 2a.2.T 8.1.T ee.1.T 2.1.T 4.1.T 4f30.1.T 301.10.T
3cd.1.T e2.1.T 95.5.T 686.f.T 28.8.T 80.5.D 0.1.R 1.1.R 1.2.R 2.1.L 0.5.R 0.4.D 0.1.L 0.5.D
0.1.R 0.3.D 0.1.R 2.1.R 0.2.T 4.4.D 0.1.R 90.1.D 0.1.R 0.1.D 0.3.R 0.3.D 0.1.R 0.2.D 0.1.R 0.1.D
0.2.R 0.1.D 0.1.R 17.4.R 0.2.D 151.1.L 0.21.D 0.1.R 0.1.D 0.4.T 41.5.T 13d.2.T 15.1.R 0.2.D
1.2.D 32.6.T 30.3.D 0.1.R 0.11.D 1.b.T 0.3.D 0.1.R 1b.4.D 0.2.R 0.c.D 0.4.T 2a.1.D 1.2.D 0.3.R
1.1.D 0.2.R 0.2.D 0.1.R 0.2.D 1.1.D 0.2.R 0.1.D 4.1.R 0.1.D 0.1.L 35.1.T 36.f.T 29.1.T 2.2.T
a.3.T 31.4.T 2.2.T 7.1.T 3d.3.T 24.5.T 1.8.T 3e.1.T c.2.T 34.9.T a.4.T 2.1.T 5f.3.T 2.1.T 1.2.T
6.1.T 2.1.T 9d.1.T 3.8.T 15.2.T 39.2.T 3.1.T 25.f.T 46.6.T d.1.T 1.1.T 1.1.T e.2.T 55.8.T 2.3.T
1.1.T 17.1.T 54.6.T 1.1.T 4.2.T 1.2.T ee.4.T 6.2.T 1.2.T 1b.2.T 55.8.T 2.1.T 1.2.T 6a.1.T 1.1.T
2.6.T 1.1.T 65.1.T 1.1.T 2.4.T 1.5.T 103.9.T 1.2.T 100.2.T 1.1.T 4.1.T 90.8.T 4.1.T 20.a.T
28.6.T 2.4.T 8.1.T 9.6.T 2.3.T 2e.d.T 1.2.T c6.1.T 1.3.T 1.1.T c9.e.T 1.1.T 52.16.T 2.7.T 1.2.T
1.2.T 7a.15.T 1.1.T 48.2.T 3.1.T 1.1.T 15b.2.T b.2.T 34.5.T 5.1.T 1.1.T 17.1.T 14e5.1.T 6.f.T
2cc8.c.T 3.3.T 9c0.5.T 3b.7.T 418.1.T 3f.4.T 51.1.T 4cb8.2.T 1261.47.T 220.3.T 11.8.T 2.7.T
1e.4.T 94.3.T 7bb.37.T 4.32.T 8.1.T e.1.T 16.15.T 550.90.T a0.7.T 177.1.T 3d.4.T 1fc.4.T fe.2.T
f3.1.T 2.1.T 7.2.T 5.1.T 1da.7.T 4b.22.D 0.8.T"

def markRuns : List Run := readRuns markTable

def joiningRuns : List Run := readRuns joiningTable

def isMark (code : Nat) : Bool := (valueIn? markRuns code).isSome

/-- Signs that mute a vowel have a class of their own. -/
def isVowelMuter (code : Nat) : Bool := markClass code = 9

def nonJoiner : Nat := 0x200c

def joiner : Nat := 0x200d

/-- Whether the next letter joins, by its kind. -/
def joins (kinds : List (List Char)) : List Nat → Bool
  | [] => false
  | code :: rest =>
    match valueIn? joiningRuns code with
    | none => false
    | some kind => kinds.contains kind || (kind = ['T'] && joins kinds rest)

/-- Whether each joiner of a label, of which `before` has been read, latest first, may stand where
it does. -/
def validJoiners (before : List Nat) : List Nat → Bool
  | [] => true
  | code :: rest =>
    let isValid :=
      (code ≠ joiner && code ≠ nonJoiner) ||
        (before.head?.map isVowelMuter).getD false ||
        (code = nonJoiner && joins [['L'], ['D']] before && joins [['R'], ['D']] rest)
    isValid && validJoiners (code :: before) rest

end BlockTier.Url.Domain
