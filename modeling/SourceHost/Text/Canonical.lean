import SourceHost.Text.Combining

/-!
# Canonical composition

The same text can be spelled with a letter and a mark or with one character for both.  A text is
put into its composed form in three steps: everything that can be taken apart is taken apart, marks
that do not meet are put into the order of their classes, and then every character takes up what
can be joined to it.

The pairs below are those that can stand in a name.  Syllables of Korean are not among them, since
they can be computed.
-/

set_option autoImplicit false

namespace SourceHost.Canonical

/-- A character that is two characters in one. -/
structure Pair where
  /-- The first of the two. -/
  first : Char
  /-- The second of the two. -/
  second : Char
  /-- Both in one. -/
  whole : Char
deriving DecidableEq, Repr

/-- The pairs by their second characters.  A word with a colon is the second character of the words
that follow, which are the first character and the whole. -/
def pairText : String :=
  "300: 61=e0 65=e8 69=ec 6e=1f9 6f=f2 75=f9 77=1e81 79=1ef3 e2=1ea7 ea=1ec1 f4=1ed3 fc=1dc
  103=1eb1 113=1e15 14d=1e51 1a1=1edd 1b0=1eeb 3b1=1f70 3b5=1f72 3b7=1f74 3b9=1f76 3bf=1f78
  3c5=1f7a 3c9=1f7c 3ca=1fd2 3cb=1fe2 435=450 438=45d 1f00=1f02 1f01=1f03 1f10=1f12 1f11=1f13
  1f20=1f22 1f21=1f23 1f30=1f32 1f31=1f33 1f40=1f42 1f41=1f43 1f50=1f52 1f51=1f53 1f60=1f62
  1f61=1f63 301: 61=e1 63=107 65=e9 67=1f5 69=ed 6b=1e31 6c=13a 6d=1e3f 6e=144 6f=f3 70=1e55
  72=155 73=15b 75=fa 77=1e83 79=fd 7a=17a e2=1ea5 e5=1fb e6=1fd e7=1e09 ea=1ebf ef=1e2f f4=1ed1
  f5=1e4d f8=1ff fc=1d8 103=1eaf 113=1e17 14d=1e53 169=1e79 1a1=1edb 1b0=1ee9 3b1=3ac 3b5=3ad
  3b7=3ae 3b9=3af 3bf=3cc 3c5=3cd 3c9=3ce 3ca=390 3cb=3b0 433=453 43a=45c 1f00=1f04 1f01=1f05
  1f10=1f14 1f11=1f15 1f20=1f24 1f21=1f25 1f30=1f34 1f31=1f35 1f40=1f44 1f41=1f45 1f50=1f54
  1f51=1f55 1f60=1f64 1f61=1f65 302: 61=e2 63=109 65=ea 67=11d 68=125 69=ee 6a=135 6f=f4 73=15d
  75=fb 77=175 79=177 7a=1e91 1ea1=1ead 1eb9=1ec7 1ecd=1ed9 303: 61=e3 65=1ebd 69=129 6e=f1 6f=f5
  75=169 76=1e7d 79=1ef9 e2=1eab ea=1ec5 f4=1ed7 103=1eb5 1a1=1ee1 1b0=1eef 304: 61=101 65=113
  67=1e21 69=12b 6f=14d 75=16b 79=233 e4=1df e6=1e3 f5=22d f6=22b fc=1d6 1eb=1ed 227=1e1 22f=231
  3b1=1fb1 3b9=1fd1 3c5=1fe1 438=4e3 443=4ef 1e37=1e39 1e5b=1e5d 306: 61=103 65=115 67=11f 69=12d
  6f=14f 75=16d 229=1e1d 3b1=1fb0 3b9=1fd0 3c5=1fe0 430=4d1 435=4d7 436=4c2 438=439 443=45e
  1ea1=1eb7 307: 61=227 62=1e03 63=10b 64=1e0b 65=117 66=1e1f 67=121 68=1e23 6d=1e41 6e=1e45
  6f=22f 70=1e57 72=1e59 73=1e61 74=1e6b 77=1e87 78=1e8b 79=1e8f 7a=17c 15b=1e65 161=1e67
  1e63=1e69 105d2=105c9 105da=105e4 308: 61=e4 65=eb 68=1e27 69=ef 6f=f6 74=1e97 75=fc 77=1e85
  78=1e8d 79=ff f5=1e4f 16b=1e7b 3b9=3ca 3c5=3cb 430=4d3 435=451 436=4dd 437=4df 438=4e5 43e=4e7
  443=4f1 447=4f5 44b=4f9 44d=4ed 456=457 4d9=4db 4e9=4eb 309: 61=1ea3 65=1ebb 69=1ec9 6f=1ecf
  75=1ee7 79=1ef7 e2=1ea9 ea=1ec3 f4=1ed5 103=1eb3 1a1=1edf 1b0=1eed 30a: 61=e5 75=16f 77=1e98
  79=1e99 30b: 6f=151 75=171 443=4f3 30c: 61=1ce 63=10d 64=10f 65=11b 67=1e7 68=21f 69=1d0 6a=1f0
  6b=1e9 6c=13e 6e=148 6f=1d2 72=159 73=161 74=165 75=1d4 7a=17e fc=1da 292=1ef 30f: 61=201 65=205
  69=209 6f=20d 72=211 75=215 475=477 311: 61=203 65=207 69=20b 6f=20f 72=213 75=217 313: 3b1=1f00
  3b5=1f10 3b7=1f20 3b9=1f30 3bf=1f40 3c1=1fe4 3c5=1f50 3c9=1f60 314: 3b1=1f01 3b5=1f11 3b7=1f21
  3b9=1f31 3bf=1f41 3c1=1fe5 3c5=1f51 3c9=1f61 31b: 6f=1a1 75=1b0 323: 61=1ea1 62=1e05 64=1e0d
  65=1eb9 68=1e25 69=1ecb 6b=1e33 6c=1e37 6d=1e43 6e=1e47 6f=1ecd 72=1e5b 73=1e63 74=1e6d 75=1ee5
  76=1e7f 77=1e89 79=1ef5 7a=1e93 1a1=1ee3 1b0=1ef1 324: 75=1e73 325: 61=1e01 326: 73=219 74=21b
  327: 63=e7 64=1e11 65=229 67=123 68=1e29 6b=137 6c=13c 6e=146 72=157 73=15f 74=163 328: 61=105
  65=119 69=12f 6f=1eb 75=173 32d: 64=1e13 65=1e19 6c=1e3d 6e=1e4b 74=1e71 75=1e77 32e: 68=1e2b
  330: 65=1e1b 69=1e2d 75=1e75 331: 62=1e07 64=1e0f 68=1e96 6b=1e35 6c=1e3b 6e=1e49 72=1e5f
  74=1e6f 7a=1e95 338: 3c=226e 3d=2260 3e=226f 2190=219a 2192=219b 2194=21ae 21d0=21cd 21d2=21cf
  21d4=21ce 2203=2204 2208=2209 220b=220c 2223=2224 2225=2226 223c=2241 2243=2244 2245=2247
  2248=2249 224d=226d 2261=2262 2264=2270 2265=2271 2272=2274 2273=2275 2276=2278 2277=2279
  227a=2280 227b=2281 227c=22e0 227d=22e1 2282=2284 2283=2285 2286=2288 2287=2289 2291=22e2
  2292=22e3 22a2=22ac 22a8=22ad 22a9=22ae 22ab=22af 22b2=22ea 22b3=22eb 22b4=22ec 22b5=22ed 342:
  3b1=1fb6 3b7=1fc6 3b9=1fd6 3c5=1fe6 3c9=1ff6 3ca=1fd7 3cb=1fe7 1f00=1f06 1f01=1f07 1f20=1f26
  1f21=1f27 1f30=1f36 1f31=1f37 1f50=1f56 1f51=1f57 1f60=1f66 1f61=1f67 653: 627=622 654: 627=623
  648=624 64a=626 6c1=6c2 6d2=6d3 6d5=6c0 655: 627=625 93c: 928=929 930=931 933=934 9be: 9c7=9cb
  9d7: 9c7=9cc b3e: b47=b4b b56: b47=b48 b57: b47=b4c bbe: bc6=bca bc7=bcb bd7: b92=b94 bc6=bcc
  c56: c46=c48 cc2: cc6=cca cd5: cbf=cc0 cc6=cc7 cca=ccb cd6: cc6=cc8 d3e: d46=d4a d47=d4b d57:
  d46=d4c dca: dd9=dda ddc=ddd dcf: dd9=ddc ddf: dd9=dde 102e: 1025=1026 1b35: 1b05=1b06 1b07=1b08
  1b09=1b0a 1b0b=1b0c 1b0d=1b0e 1b11=1b12 1b3a=1b3b 1b3c=1b3d 1b3e=1b40 1b3f=1b41 1b42=1b43 3099:
  3046=3094 304b=304c 304d=304e 304f=3050 3051=3052 3053=3054 3055=3056 3057=3058 3059=305a
  305b=305c 305d=305e 305f=3060 3061=3062 3064=3065 3066=3067 3068=3069 306f=3070 3072=3073
  3075=3076 3078=3079 307b=307c 309d=309e 30a6=30f4 30ab=30ac 30ad=30ae 30af=30b0 30b1=30b2
  30b3=30b4 30b5=30b6 30b7=30b8 30b9=30ba 30bb=30bc 30bd=30be 30bf=30c0 30c1=30c2 30c4=30c5
  30c6=30c7 30c8=30c9 30cf=30d0 30d2=30d3 30d5=30d6 30d8=30d9 30db=30dc 30ef=30f7 30f0=30f8
  30f1=30f9 30f2=30fa 30fd=30fe 309a: 306f=3071 3072=3074 3075=3077 3078=307a 307b=307d 30cf=30d1
  30d2=30d4 30d5=30d7 30d8=30da 30db=30dd 110ba: 11099=1109a 1109b=1109c 110a5=110ab 11127:
  11131=1112e 11132=1112f 1133e: 11347=1134b 11357: 11347=1134c 113b8: 113c2=113c7 113bb:
  11384=11385 113c2: 1138b=1138e 113c2=113c5 113c9: 11382=11383 11390=11391 113c2=113c8 114b0:
  114b9=114bc 114ba: 114b9=114bb 114bd: 114b9=114be 115af: 115b8=115ba 115b9=115bb 11930:
  11935=11938 1611e: 1611e=16121 1611f: 1611e=16123 16121=16126 16122=16127 16129=16124 16120:
  1611e=16125 16121=16128 16129: 1611e=16122 16d67: 16d63=16d69 16d67=16d68 16d69=16d6a"

/-- All pairs. -/
def pairs : List Pair :=
  let char (digits : List Char) : Char := Char.ofNat (Hex.number digits)
  let found := (words pairText.toList).foldl (fun (second, found) word ↦
    match splitAt '=' word with
    | [first, whole] => (second, ⟨char first, second, char whole⟩ :: found)
    | _ => (char word.dropLast, found)) ('\x00', [])
  found.2.reverse

/-! ## Korean syllables

A syllable is a consonant and a vowel, and a second consonant perhaps. -/

/-- The first syllable. -/
def firstSyllable : Nat := 0xAC00

/-- The syllables that begin with the same consonant and vowel. -/
def closings : Nat := 28

/-- The syllables that begin with the same consonant. -/
def syllables : Nat := 21 * closings

/-- The consonant and vowel of an open syllable, or a closed syllable without its last consonant
and that consonant. -/
def splitSyllable? (c : Char) : Option (Char × Char) :=
  let n := c.toNat
  if firstSyllable ≤ n ∧ n < firstSyllable + 19 * syllables then
    let i := n - firstSyllable
    some <|
      if i % closings = 0 then
        (Char.ofNat (0x1100 + i / syllables), Char.ofNat (0x1161 + i % syllables / closings))
      else (Char.ofNat (n - i % closings), Char.ofNat (0x11A7 + i % closings))
  else none

/-- The open syllable of a consonant and a vowel, or the closed syllable of an open one and a
consonant. -/
def joinSyllable? (a b : Char) : Option Char :=
  let m := a.toNat
  let n := b.toNat
  if 0x1100 ≤ m ∧ m < 0x1113 ∧ 0x1161 ≤ n ∧ n < 0x1176 then
    some (Char.ofNat (firstSyllable + (m - 0x1100) * syllables + (n - 0x1161) * closings))
  else if firstSyllable ≤ m ∧ m < firstSyllable + 19 * syllables ∧ (m - firstSyllable) % closings = 0
      ∧ 0x11A7 < n ∧ n < 0x11C3 then
    some (Char.ofNat (m + (n - 0x11A7)))
  else none

/-! ## The three steps -/

/-- The two characters that a character is. -/
def split? (c : Char) : Option (Char × Char) :=
  if c.toNat < 128 then none
  else splitSyllable? c <|> (pairs.find? (·.whole = c)).map fun p ↦ (p.first, p.second)

/-- The character that two characters make. -/
def join? (a b : Char) : Option Char :=
  if b.toNat < 128 then none
  else joinSyllable? a b
    <|> (pairs.find? fun p ↦ p.second = b ∧ p.first = a).map Pair.whole

/-- A character taken apart, so many times over at most. -/
def takeApart : (depth : Nat) → Char → List Char
  | 0, c => [c]
  | depth + 1, c => match split? c with
    | some (a, b) => takeApart depth a ++ takeApart depth b
    | none => [c]

/-- How often a character can be taken apart. -/
def depth : Nat := 4

/-- A character put in front of characters in order: behind the marks of lower classes. -/
def insert (c : Char) : List Char → List Char
  | [] => [c]
  | d :: rest =>
    if 0 < combiningClass d ∧ combiningClass d < combiningClass c then d :: insert c rest
    else c :: d :: rest

/-- The characters with the marks in order. -/
def order (s : List Char) : List Char := s.foldr insert []

/-- The composed form of a character, some marks after it that could not be joined to it, in
reverse, and characters in order.  A mark can be joined if none of the marks before it keeps it
away from the character. -/
def composeFrom (base : Char) : (marks : List Char) → List Char → List Char
  | marks, [] => base :: marks.reverse
  | marks, c :: rest =>
    let near : Bool := match marks with
      | [] => true
      | mark :: _ => combiningClass mark < combiningClass c
    match if near then join? base c else none with
    | some whole => composeFrom whole marks rest
    | none =>
      if combiningClass c = 0 then base :: marks.reverse ++ composeFrom c [] rest
      else composeFrom base (c :: marks) rest

/-- The composed form of characters in order. -/
def compose : List Char → List Char
  | [] => []
  | c :: rest => if combiningClass c = 0 then composeFrom c [] rest else c :: compose rest

/-- The composed form of a text. -/
def normal (s : List Char) : List Char :=
  if s.all (·.toNat < 128) then s else compose (order (s.flatMap (takeApart depth)))

end SourceHost.Canonical
