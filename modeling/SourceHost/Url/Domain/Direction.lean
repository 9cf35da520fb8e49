import SourceHost.Text.Runs

/-!
# Direction

Where text runs from right to left, a label that mixes directions could look like another one.  If
a name has a character that runs from right to left, or a number of such a script, all its labels
have to keep to one direction each: they begin with a letter of it and end with a letter of it or a
number, apart from marks, and in between there is nothing that runs the other way.
-/

set_option autoImplicit false

namespace SourceHost.Domain

/-- The direction of a character. -/
inductive Direction where
  /-- A letter that runs from left to right. -/
  | left
  /-- A letter that runs from right to left. -/
  | right
  /-- A letter of Arabic or a script that is written like it. -/
  | arabicLetter
  /-- A digit. -/
  | digit
  /-- A digit of Arabic. -/
  | arabicDigit
  /-- A sign between digits. -/
  | separator
  /-- A sign before or after digits. -/
  | terminator
  /-- A mark. -/
  | mark
  /-- A sign without direction. -/
  | neutral
  /-- Space. -/
  | space
deriving DecidableEq, Repr

namespace Direction

/-- The direction that a word stands for. -/
def read (word : List Char) : Direction :=
  match String.ofList word with
  | "L" => left
  | "R" => right
  | "AL" => arabicLetter
  | "EN" => digit
  | "AN" => arabicDigit
  | "ES" => separator
  | "CS" => separator
  | "ET" => terminator
  | "NSM" => mark
  | "BN" => neutral
  | "ON" => neutral
  | _ => space

/-- The directions, of the characters that can stand in a name. -/
def text : String :=
  "BN:9 S:5 BN:e S:5 ON:2 ET:3 ON:5 ES CS ES CS:2 EN:a CS ON:26 L:1a ON:4 BN:22 ON ET:4 ON:a ET:6
  ON:29 L:18 ON L:1c1 ON:2 L:7 ON:e L:2 ON:1c L ON:11 NSM:71 L:4 ON:2 L:7f ON:2 L:8b NSM:8 L:ff
  ON:5 ET:2 NSM:2d R NSM R NSM:2 R NSM:2 R NSM:9 R:36 ON:2 AL ET:2 AL CS AL ON:2 NSM:b AL:30
  NSM:15 AN:a ET AN:2 AL:3 NSM AL:65 NSM:8 ON NSM:6 AL:2 NSM:2 ON NSM:4 AL:2 EN:a AL:17 NSM AL:1e
  NSM:1d AL:59 NSM:b AL:f R:2b NSM:9 R:2 ON:4 R:3 NSM R:18 NSM:4 R NSM:9 R NSM:3 R NSM:7 R:29
  NSM:5 R:2 AL:37 NSM:9 AL:2a NSM:39 L:37 NSM L NSM L:4 NSM:8 L:4 NSM L:3 NSM:f L:2 NSM:2 L:1d NSM
  L:3a NSM L:4 NSM:6 L:6 NSM L:14 NSM:4 L:c ET:2 L:7 ET L:2 NSM:5 L:39 NSM:2 L:3 NSM:1b L:14 NSM:2
  L:3 NSM L:b NSM:2 L:39 NSM L:4 NSM:8 L:4 NSM:3 L:12 NSM:4 L:b ET:8 L NSM:8 L:3a NSM L:2 NSM L
  NSM:6 L:6 NSM:a L:b NSM:4 L:1c NSM L:3d NSM L:c NSM:3 L:23 ON:6 ET ON:6 NSM L:3 NSM L:37 NSM L
  NSM:3 L:5 NSM:12 L:a NSM:4 L:12 ON:7 L:2 NSM L:3a NSM L:f NSM:9 L:d NSM:4 L:1a NSM:2 L:39 NSM:2
  L:4 NSM:5 L:7 NSM L:14 NSM:4 L:1b NSM L:48 NSM:5 L:3 NSM:6 L:59 NSM L:2 NSM:b ET L:7 NSM:8 L:62
  NSM L:2 NSM:9 L:b NSM:8 L:48 NSM:2 L:1b NSM L NSM L NSM ON:4 L:33 NSM:e L NSM:5 L NSM:2 L:5
  NSM:31 L:8 NSM L:66 NSM:4 L NSM:6 L NSM:2 L:2 NSM:2 L:19 NSM:2 L:4 NSM:3 L:10 NSM:4 L:d NSM L:2
  NSM:2 L:6 NSM L:f NSM L:2bf NSM:3 L:30 ON:10 L:60 ON L:29a ON:5 L:72 NSM:3 L:1d NSM:2 L:1e NSM:e
  L:12 NSM:e L:37 NSM:7 L:8 NSM L:2 NSM:b L:7 ET L NSM:3 L:10 ON:20 L:75 NSM:2 L:22 NSM L:76 NSM:3
  L:4 NSM:2 L:9 NSM L:6 NSM:7 ON:6 L:98 ON:22 L:17 NSM:2 L:2 NSM:3 L:38 NSM L NSM:9 L NSM L:2
  NSM:8 L:6 NSM:d L:30 NSM:54 L:30 NSM L NSM:5 L NSM L:5 NSM L:28 NSM:9 L:c NSM:2 L:20 NSM:4 L:2
  NSM:2 L NSM:3 L:38 NSM L NSM:2 L:3 NSM L NSM:3 L:3a NSM:8 L:2 NSM:5 L:95 NSM:3 L NSM:d L NSM:7
  L:4 NSM L:6 NSM L:3 NSM:2 L:c6 NSM:41 L:20b BN:4 ON:20 ET:5 ON:f CS ON:5b ET:30 NSM:34 ON:2a
  ET:c ON:14 L:3c ON:88 ES ET ON:122 L:45 ON:1a L ON:316 L ON:153 L:100 ON:330 L:b5 ON:7 L:3 NSM:4
  L:6 ON:7 L:7f NSM L:60 NSM:20 ON:205 L:3 ON:19 L:9 NSM:4 L:2 ON L:6 ON:4 L:2 ON:4 L:58 NSM:4 L:3
  ON L:5a ON L:c4 ON:30 L:1bd0 ON:40 L:5690 ON:40 L:13d ON:3 L:5f NSM:4 ON NSM:a ON:3 L:1d NSM:2
  L:50 NSM:2 L:e ON:23 L:65 ON L:79 NSM L:3 NSM L:4 NSM L:19 NSM:2 L ON:4 NSM:4 L:8 ET:8 L:34 ON:c
  L:44 NSM:a L:12 NSM:12 L:d NSM L:26 NSM:8 L:19 NSM:b L:2e NSM:3 L:30 NSM L:2 NSM:4 L:2 NSM:2
  L:27 NSM L:43 NSM:6 L:2 NSM:2 L:2 NSM:b L:3 NSM L:8 NSM L:2f NSM L:33 NSM L NSM:3 L:2 NSM:2 L:5
  NSM:2 L NSM L:2a NSM:2 L:8 NSM:b L:69 ON:56 L:25 NSM L:2 NSM L:4 NSM:3 L:4f2e NSM:94 AL:11
  ON:25d NSM:25 ON:2e AL:18d L:101 ON L:3e ON:4d L:3 ON:40 L:2d NSM:83 L:60 NSM EN:1f L:76 NSM:a
  L:480 R:11f ON R:e1 NSM:f R:28 NSM:8 R:a5 NSM:6 R:4e ON:7 R:1c0 AL:24 NSM:c AN:1a R:1f NSM:5 ON
  R:f1 AN:20 R:2b NSM:2 R:15 AL:e ON:9 AL:21 NSM:6 R:30 AL:16 NSM:b AL:1f R:12 NSM:4 R:7a L NSM
  L:36 NSM:f L:b ON:14 L:a NSM L:2 NSM:2 L:a NSM:3 L:31 NSM:4 L:2 NSM:2 L:7 NSM:e L:30 NSM:3 L:24
  NSM:5 L NSM:9 L:3d NSM L:c NSM:2 L:34 NSM:9 L:a NSM:4 L:2 NSM L:5f NSM:3 L:2 NSM L NSM:2 L:6 NSM
  L:2 NSM:3f L:5f NSM L:3 NSM:d L:10 NSM:2 L:39 NSM:2 L:3 NSM L:25 NSM:1a L:3b NSM:7 L:c NSM L NSM
  L NSM L:e NSM:1f L:38 NSM:8 L:2 NSM:3 L NSM L:17 NSM L:54 NSM:6 L NSM L:4 NSM:2 L NSM:2 L:ee
  NSM:6 L:4 NSM:2 L NSM:2 L:1b NSM:24 L:33 NSM:8 L:2 NSM L NSM:2 L:1f ON:20 L:2b NSM L NSM L:2
  NSM:6 L NSM L:65 NSM L NSM L:2 NSM:4 L NSM:9 L:ff NSM:9 L NSM:2 L:100 NSM:2 L NSM L:4 NSM L:90
  NSM:8 L:4 NSM L:20 NSM:6 L:2 NSM:2 L:28 NSM:6 L:2 NSM:4 L:8 NSM:9 L NSM:6 L:2 NSM:3 L:2e NSM:d L
  NSM:2 L:c6 NSM L NSM:3 L NSM L:c9 NSM:e L:54 NSM:17 L NSM:7 L NSM:2 L NSM:4b L:31 NSM:15 L NSM:9
  L:40 NSM:3 L:2 NSM L NSM L:15b NSM:2 L:b NSM:2 L:34 NSM:8 L:2 NSM L NSM L:17 NSM:56 L:25 ON:8
  ET:4 ON:1e L:1441 NSM L:6 NSM:19 L:2cbe NSM:c L:3 NSM:3 L:9c0 NSM:5 L:3b NSM:7 L:418 NSM L:3f
  NSM:4 L:4f ON L NSM:c L:21b0 ON:1e50 L:cad NSM:2 L:f61 ON:300 NSM:50 L:217 NSM:3 L:11 NSM:8 L:2
  NSM:7 L:1e NSM:4 L:3b ON:59 NSM:3 ON:7b L:40 ON:60 L:6a0 NSM:37 L:4 NSM:32 L:8 NSM L:e NSM L:16
  NSM:465 L:100 NSM:100 L:30 NSM:7 L:177 NSM:12 L:2c NSM:4 L:f ET:1d1 L:1c NSM:4 L:fe NSM:2 L:f3
  NSM L:2 NSM L:7 NSM:2 L:5 NSM:9 L:102 R:d0 NSM:52 R:22 NSM:7 R:326 AL:27f ON:260 L:1d ON:3 L:3d
  ON:39 L:7a ON:da0 L:f0000"

/-- The directions of all characters. -/
def table : RunTable Direction := .read read text

/-- The direction of a character. -/
def of (c : Char) : Direction := table.get left c

/-- It calls for order in a name. -/
def isFromRight : Direction → Bool
  | right | arabicLetter | arabicDigit => true
  | _ => false

/-- It has a place in every label. -/
def isWeak : Direction → Bool
  | digit | separator | terminator | mark | neutral => true
  | _ => false

/-- The directions of a label without the marks at its end. -/
def withoutMarks (ds : List Direction) : List Direction :=
  (ds.reverse.dropWhile (· = mark)).reverse

/-- A label keeps to one direction. -/
def fits : List Direction → Bool
  | [] => true
  | left :: rest =>
    let body := withoutMarks rest
    body.all (fun d ↦ d.isWeak || d = left)
      && body.getLast?.all fun d ↦ d = left || d = digit
  | first :: rest =>
    let body := withoutMarks rest
    (first = right || first = arabicLetter)
      && body.all (fun d ↦ d.isWeak || d.isFromRight)
      && body.getLast?.all (fun d ↦ d.isFromRight || d = digit)
      && !(body.contains digit && body.contains arabicDigit)

end Direction

/-- Every label of a name keeps to one direction, if one has to. -/
def directionsFit (labels : List (List Char)) : Bool :=
  let directions := labels.map (·.map Direction.of)
  !directions.any (·.any Direction.isFromRight) || directions.all Direction.fits

end SourceHost.Domain
