import SourceHost.Text.Runs

/-!
# Combining characters

Marks are written on the character before them.  Several marks on one character may come in any
order as long as they do not meet: each has a class, and only marks of the same class meet.  What
is no mark, and a mark that keeps its place, has class zero.
-/

set_option autoImplicit false

namespace SourceHost

/-- The classes, of the characters that can stand in a name. -/
def combiningClassText : String :=
  "0:300 e6:15 e8 dc:4 e8 d8 dc:5 ca:2 dc:4 ca:2 dc:b 1:5 dc:4 e6:a dc:3 e6:3 dc:3 e6:3 dc:4 e6 e8
  dc:2 e6 e9 ea:2 e9 ea:2 e9 e6:e 0:112 e6:5 0:109 dc e6:4 dc e6:3 de dc e6:6 dc:6 e6:2 dc e6:2 de
  e4 e6 a b c d e f 10 11 12 13:2 14 15 16 0 17 0 18 19 0 e6 dc 0 12:9 0:40 e6:8 1e 1f 20 0:30 1b
  1c 1d 1e 1f 20 21 22 e6:2 dc:2 e6:5 dc e6:2 dc 0:10 23 0:65 e6:8 0 e6:4 dc e6 0:2 e6:2 0 dc e6:2
  dc 0:23 24 0:1e e6 dc e6:2 dc e6:2 dc:3 e6 dc:2 e6 dc e6:3 dc e6 dc e6 dc e6 dc e6:4 0:9e e6:7
  dc e6 0:9 dc 0:18 e6:4 0 e6:9 0 e6:3 0 e6:7 0:29 dc:5 0:39 e6:2 dc:3 e6:4 0:2a e6:5 dc:5 e6:f dc
  e6:2 dc e6:2 dc e6:3 dc:3 1b 1c 1d e6:3 dc e6:2 dc:2 e6:5 0:3c 7 0:10 9 0:3 e6 dc e6:2 0:67 7
  0:10 9 0:30 e6:3 0:3b 7:2 0:f 9:4 0:6b 7 0:10 9:3 0:6c 7 0:10 9:8 0:78 9:3 0:6c 7 0:10 9:8 54
  5b:2 0:64 7 0:10 9:8 0:66 9:2 0:10 9 0:7c 9:5 0:69 67:2 9:5 0:9 6b:4 0:6c 76:2 9 0:d 7a:4 0:4c
  dc:2 0:1b dc 0 dc 0 d8 0:37 81 82:2 84:6 82:4 0:2 82:2 e6:2 9 0 e6:2 0:3e dc 0:70 7 0 9:2 0:52
  dc 0:2cf e6:3 0:3b4 9:b 0:15 9 0:9d 9 0:a e6:3 0:c9 e4 0:8f de e6 dc:5 0:d7 e6 dc 0:47 9 0:14
  e6:a dc 0:30 e6:5 dc:6 e6:2 dc 0 dc:2 e6:2 dc:2 e6:5 dc e6:12 dc:3 e6:6 dc e6:4 ea:15 0:34 7 0:f
  9 0:26 e6 dc e6:7 0:36 9:2 0:3a 7 0:b 9:a 0:3b 7:4 0:95 e6:3 0 1 dc:5 e6:2 dc:4 e6 0 1:7 0:4 dc
  0:6 e6 0:3 e6:2 0:c6 e6:2 dc e6:7 dc e6:2 ea d6 dc ca e6:25 e8 e4:2 dc da e6 e9 dc e6 dc:2 0:2cf
  e6:2 1:2 e6:4 1:3 e6:2 0:4 e6 0:3 1:2 e6 dc e6 1:2 dc:4 e6:14 0:beb e6:4 0:8c 9 0:60 e6:20 0:22a
  da e4 e8 de e0:2 0:69 8:4 0:75d2 e6 0:4 e6:a 0:20 e6:2 0:50 e6:2 0:114 9 0:25 9:4 0:94 9 0:1b
  e6:12 0:39 dc:3 0:25 9:c 0:54 7 0:c 9 0:ef e6 0 e6:2 dc 0:2 e6:2 0:5 e6:2 0 e6 0:34 9:b 0:ec 9:3
  0:4f2e 1a:94 0:26e e6:7 dc:7 e6:17 0:3b8 dc:83 0:60 dc 0:95 e6:a 0:68d dc 0 e6 0:28 e6 1 dc:5 9
  0:a5 e6 dc:5 0:239 e6:c 0:39 e6:5 0:13d e6:2 0:4d dc:2 0 dc:3 0:46 dc:2 e6:3 dc e6 dc:4 0:31 e6
  dc e6 dc 0:c0 9 0:29 9 0:e 9 0:39 9 7 0:45 e6:3 0:30 9:3 0:3d 7 0:4c 9 0:9 7 0:6a 9 7 0:b2 7 9:6
  0:4b 7:2 0:10 9:3 0:16 e6:1a 0:4e 9:3 0:71 9 0:3 7 0:17 e6 0:63 9 7 0:fb 9 7 0:7e 9 0:76 9 7
  0:73 9:5 0:109 9 7 0:102 9:2 0:4 7 0:9c 9 0:53 9 0:12 9:9 0:49 9 0:1a5 9 0:102 7 0 9:2 0:51 9
  0:1a9 9:2 0:41ec 9 0:9c0 1:5 0:3b e6:7 0:4b9 6:2 0:4cac 1 0:14c6 d8:2 1:3 0:3 e2 d8:d dc:8 0:2
  e6:5 dc:2 0:1e e6:4 0:94 e6:3 0:dbb e6:100 0:30 e6:7 0:177 e6:12 0:2c e6:4 0:1fc e8:2 dc e6 0:fe
  e6 dc 0:f3 e6 0:2 e6 0:7 e6:2 0:5 e6:9 0:1d2 dc:52 0:22 e6:6 7 0:f16b5"

/-- The classes of all characters. -/
def combiningClasses : RunTable Nat := .read Hex.number combiningClassText

/-- The class of a character. -/
def combiningClass (c : Char) : Nat := combiningClasses.get 0 c

/-- The class of the signs that take a consonant its vowel. -/
def viramaClass : Nat := 9

/-- The marks, of the characters that can stand in a name. -/
def markText : String :=
  "-:300 M:71 -:112 M:8 -:106 M:2d - M - M:2 - M:2 - M:9 -:40 M:b -:30 M:15 -:10 M -:65 M:8 - M:6
  -:2 M:2 - M:4 -:23 M -:1e M:1d -:59 M:b -:3a M:9 -:9 M -:18 M:4 - M:9 - M:3 - M:7 -:29 M:5 -:39
  M:9 -:2a M:3a -:36 M:3 - M:12 - M:f -:2 M:2 -:1d M:4 -:37 M - M:10 -:9 M:9 -:2 M:4 -:18 M:7 -:37
  M:20 -:14 M:2 -:3 M -:b M:4 -:37 M - M:12 -:12 M:4 -:14 M:b -:37 M - M:21 -:3 M:4 -:1c M -:3b
  M:12 -:7 M:f -:1a M:5 -:37 M - M:1a -:a M:4 -:1b M:3 -:38 M - M:1e -:6 M:4 -:d M:11 -:37 M:2 -
  M:10 -:9 M -:a M:4 -:1b M:4 -:45 M:1c -:c M:2 -:3d M -:2 M:b -:8 M:8 -:62 M -:2 M:9 -:b M:8 -:48
  M:2 -:1b M - M - M -:4 M:2 -:31 M:14 - M:2 -:5 M:31 -:8 M -:64 M:14 -:17 M:4 -:4 M:3 - M:3 -:2
  M:7 -:3 M:4 -:d M:c - M -:a M:4 -:2bf M:3 -:3b2 M:d -:13 M:3 -:1d M:e -:12 M:e -:36 M:1e -:9 M:3
  -:a5 M:2 -:22 M -:76 M:20 -:d7 M:7 -:37 M:2b -:30 M:55 -:2f M:11 -:26 M:9 -:c M:3 -:1e M:d -:38
  M:16 -:28 M:17 -:95 M:3 - M:15 -:4 M -:6 M -:2 M:3 -:c6 M:41 -:2cf M:34 -:beb M:4 -:8c M -:60
  M:20 -:22a M:6 -:69 M:4 -:75d2 M:4 - M:a -:20 M:2 -:50 M:2 -:110 M -:3 M -:4 M -:17 M:5 -:4 M:4
  -:50 M:2 -:32 M:1a -:12 M:12 -:d M -:26 M:8 -:19 M:18 -:21 M:4 -:2f M:e -:24 M -:43 M:17 -:3 M
  -:8 M:4 -:2b M:3 -:32 M - M:3 -:2 M:2 -:5 M:2 - M -:29 M:5 -:5 M:c -:e2 M:8 - M:4 -:4f2e M:94
  -:26e M:25 -:3b8 M:83 -:60 M -:95 M:a -:681 M:f -:28 M:8 -:a5 M:6 -:239 M:c -:39 M:5 -:13d M:2
  -:4d M:6 -:46 M:b -:31 M:4 -:7a M:3 -:35 M:f -:29 M -:2 M:2 -:a M:4 -:2d M:b -:7 M:e -:30 M:3
  -:24 M:f -:f M:2 -:2c M -:c M:3 -:30 M:e -:8 M:4 - M:2 -:5c M:c -:6 M -:2 M:3f -:5f M:11 -:10
  M:5 -:36 M:2 - M:12 -:7 M:6 -:5 M:1e -:38 M:19 - M -:e M:1f -:35 M:12 -:17 M -:51 M:14 -:eb M:12
  -:1b M:24 -:30 M:11 -:6a M:d -:65 M:13 -:fc M:f -:f5 M:f - M - M:2 -:8d M:10 -:3 M:1c - M:a -:28
  M:7 - M:4 -:8 M:9 - M:b -:2e M:10 -:c6 M:60 -:6f M:11 -:52 M:6e -:31 M:15 - M:9 -:3a M:e -:15b
  M:4 -:9 M:2 - M -:30 M:f -:17 M:56 -:1490 M -:6 M:19 -:2cbe M:12 -:9c0 M:5 -:3b M:7 -:418 M -
  M:42 -:51 M:e -:4cab M:2 -:1261 M:50 -:215 M:5 -:3 M:16 -:2 M:7 -:1e M:4 -:94 M:3 -:7bb M:37 -:4
  M:32 -:8 M -:e M -:16 M:465 -:100 M:100 -:30 M:7 -:177 M:12 -:2c M:4 -:1fc M:4 -:fe M:2 -:f3 M
  -:2 M -:7 M:2 -:5 M:9 -:1d2 M:52 -:22 M:7 -:f16b5"

/-- All marks. -/
def marks : RunTable Bool := .read (· = ['M']) markText

/-- A mark. -/
def isMark (c : Char) : Bool := marks.get false c

end SourceHost
