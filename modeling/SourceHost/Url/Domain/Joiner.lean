import SourceHost.Text.Combining

/-!
# Joiners

Two characters of width zero decide whether the characters around them are joined.  They may stand
in a label only where that can be seen: behind a sign that takes a consonant its vowel, and the one
that keeps characters apart also between letters that would be joined without it.
-/

set_option autoImplicit false

namespace SourceHost.Domain

/-- To which side a character is joined. -/
inductive Joining where
  /-- To none. -/
  | none
  /-- To the one after it. -/
  | left
  /-- To the one before it. -/
  | right
  /-- To both. -/
  | both
  /-- To none, but those on both sides of it can be joined. -/
  | transparent
deriving DecidableEq, Repr

namespace Joining

/-- The value that a word stands for. -/
def read : List Char → Joining
  | ['L'] => left
  | ['R'] => right
  | ['D'] => both
  | ['T'] => transparent
  | _ => none

/-- The values, of the characters that can stand in a name. -/
def text : String :=
  "-:300 T:71 -:112 T:8 -:106 T:2d - T - T:2 - T:2 - T:9 -:40 T:b -:5 D - R:4 D R D R D:5 R:4 D:d -
  D:7 R D:2 T:15 -:e D:2 T R:3 -:5 D:f R:12 D:26 R D:2 R:9 D R D R D:2 R:2 - R T:8 - T:6 -:2 T:2 -
  T:4 R:2 -:a D:3 -:2 D -:10 R T D:3 R:5 D:4 R D:9 R D R D R D:2 R T:1d R D:b R:3 D:f R:2 D:4 R D
  R:2 D:3 R:2 D:6 -:26 T:b -:19 D:21 T:9 -:9 T -:18 T:4 - T:9 - T:3 - T:7 -:10 R D:5 R:2 D R D:a R
  D R:3 T:5 -:2 D - D:4 - R D R:1a -:3 D -:2 D:5 R D:8 T:9 D:a R:3 - R D:2 R:2 D:6 R D:f - T:39
  -:37 T - T -:4 T:8 -:4 T -:3 T:f -:2 T:2 -:1d T -:3a T -:4 T:6 -:6 T -:14 T:4 -:18 T:5 -:39 T:2
  -:3 T:1b -:14 T:2 -:3 T -:b T:2 -:39 T -:4 T:8 -:4 T:3 -:12 T:4 -:14 T:8 -:3a T -:2 T - T:6 -:6
  T:a -:b T:4 -:1c T -:3d T -:c T:3 -:30 T -:3 T -:37 T - T:3 -:5 T:12 -:a T:4 -:1b T -:3a T -:2 T
  -:6 T -:5 T:9 -:d T:4 -:1a T:2 -:39 T:2 -:4 T:5 -:7 T -:14 T:4 -:1b T -:48 T:5 -:3 T:6 -:59 T
  -:2 T:b -:8 T:8 -:62 T -:2 T:9 -:b T:8 -:48 T:2 -:1b T - T - T -:37 T:e - T:5 - T:2 -:5 T:31 -:8
  T -:66 T:4 - T:6 - T:2 -:2 T:2 -:19 T:2 -:4 T:3 -:10 T:4 -:d T -:2 T:2 -:6 T -:f T -:2bf T:3
  -:3b2 T:3 -:1d T:2 -:1e T:e -:12 T:e -:37 T:7 -:8 T -:2 T:b -:9 T:3 -:27 D -:18 D:60 -:5 T:2
  D:22 T D:6 -:70 T:3 -:4 T:2 -:9 T -:6 T:7 -:d7 T:2 -:2 T:3 -:38 T - T:9 - T -:2 T:8 -:6 T:d -:30
  T:54 -:30 T - T:5 - T -:5 T -:28 T:9 -:c T:2 -:20 T:4 -:2 T:2 - T:3 -:38 T - T:2 -:3 T - T:3
  -:3a T:8 -:2 T:5 -:95 T:3 - T:d - T:7 -:4 T -:6 T -:3 T:2 -:c6 T:41 -:2cf T:34 -:beb T:4 -:8c T
  -:60 T:20 -:22a T:4 -:6b T:4 -:75d2 T:4 - T:a -:20 T:2 -:50 T:2 -:110 T -:3 T -:4 T -:19 T:2 -:5
  T:4 -:10 D:32 L -:51 T:a -:12 T:12 -:d T -:26 T:8 -:19 T:b -:2e T:3 -:30 T -:2 T:4 -:2 T:2 -:27
  T -:43 T:6 -:2 T:2 -:2 T:b -:3 T -:8 T -:2f T -:33 T - T:3 -:2 T:2 -:5 T:2 - T -:2a T:2 -:8 T:b
  -:e4 T -:2 T -:4 T:3 -:4f2e T:94 -:26e T:25 -:3b8 T:83 -:60 T -:95 T:a -:681 T:f -:28 T:8 -:80
  D:5 R - R - R:2 -:2 L R:5 D:4 L D:5 R D:3 R -:2 R T:6 D:4 R -:90 D R D R:3 D:3 R D:2 R D R:2 D
  R:8 -:10 R:4 D:2 -:151 L D:21 R D T:c -:39 T:5 -:13d T:2 -:15 R D:2 - D:a -:9 D:21 T:6 -:30 D:3
  R D:11 - T:b D:3 R -:1b D:4 R:2 D:c T:4 -:2a D - D:2 R:3 - D R:2 D:2 R D:2 - D R:2 D -:4 R D
  L:15 -:21 T -:36 T:f -:29 T -:2 T:2 -:a T:3 -:31 T:4 -:2 T:2 -:7 T:e -:30 T:3 -:24 T:5 - T:9
  -:3d T -:c T:2 -:34 T:9 -:a T:4 -:2 T -:5f T:3 -:2 T - T:2 -:6 T -:2 T:3f -:5f T -:3 T:d -:10
  T:2 -:39 T:2 -:3 T -:25 T:1a -:3b T:7 -:c T - T - T -:e T:1f -:38 T:8 -:2 T:3 - T -:17 T -:54
  T:6 - T -:4 T:2 - T:2 -:ee T:6 -:4 T:2 - T:2 -:1b T:24 -:33 T:8 -:2 T - T:2 -:6a T - T -:2 T:6 -
  T -:65 T - T -:2 T:4 - T:9 -:ff T:9 - T:2 -:100 T:2 - T -:4 T -:90 T:8 -:4 T -:20 T:a -:28 T:6
  -:2 T:4 -:8 T:9 - T:6 -:2 T:3 -:2e T:d - T:2 -:c6 T - T:3 - T -:c9 T:e - T -:52 T:17 - T:7 - T:2
  - T:4b -:31 T:15 - T:9 -:40 T:3 -:2 T - T -:15b T:2 -:b T:2 -:34 T:8 -:2 T - T -:17 T:56 -:1490
  T -:6 T:19 -:2cbe T:c -:3 T:3 -:9c0 T:5 -:3b T:7 -:418 T -:3f T:4 -:51 T:c -:4cad T:2 -:1261
  T:50 -:217 T:3 -:11 T:8 -:2 T:7 -:1e T:4 -:94 T:3 -:7bb T:37 -:4 T:32 -:8 T -:e T -:16 T:465
  -:100 T:100 -:30 T:7 -:177 T:12 -:2c T:4 -:1fc T:4 -:fe T:2 -:f3 T -:2 T -:7 T:2 -:5 T:9 -:1d2
  T:52 D:22 T:c -:f16b0"

/-- The values of all characters. -/
def table : RunTable Joining := .read read text

/-- To which side a character is joined. -/
def of (c : Char) : Joining := table.get none c

end Joining

/-- The character of width zero that keeps characters apart. -/
def nonJoiner : Char := '\u200C'

/-- The character of width zero that joins characters. -/
def joiner : Char := '\u200D'

/-- The next character that is not transparent is joined to one of two sides. -/
def joins (sides : List Joining) (s : List Char) : Bool :=
  ((s.map Joining.of).find? (· ≠ .transparent)).any sides.contains

/-- A joiner may stand between characters, the ones before it in reverse. -/
def joinerFits (c : Char) (before after : List Char) : Bool :=
  match before with
  | [] => false
  | last :: _ =>
    combiningClass last = viramaClass
      || (c = nonJoiner && joins [.left, .both] before && joins [.right, .both] after)

/-- Every joiner has its place in a label, after characters in reverse. -/
def joinersFit : (before : List Char) → List Char → Bool
  | _, [] => true
  | before, c :: rest =>
    ((c ≠ nonJoiner && c ≠ joiner) || joinerFits c before rest) && joinersFit (c :: before) rest

end SourceHost.Domain
