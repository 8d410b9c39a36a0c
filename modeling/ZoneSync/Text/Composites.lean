import ZoneSync.Text.Classes
import ZoneSync.Text.Numeral

/-!
# Composed characters

A table of the characters that are composed of two others, in which they are taken apart and from
which they are put together again, and the classes of the marks that compose them (Unicode 17: the
primary composites and the property Canonical_Combining_Class).
-/

namespace ZoneSync.Text

/-! ### Classes of marks -/

/-- Marks of one class stand at the same place of a character. -/
def combiningClasses : List (Nat × Ranges) :=
  [(1,
      [(0x334, 0x338), (0x1cd4, 0x1cd4), (0x1ce2, 0x1ce8), (0x20d2, 0x20d3), (0x20d8, 0x20da),
        (0x20e5, 0x20e6), (0x20ea, 0x20eb), (0x10a39, 0x10a39), (0x16af0, 0x16af4),
        (0x1bc9e, 0x1bc9e), (0x1d167, 0x1d169)]),
    (6, [(0x16ff0, 0x16ff1)]),
    (7,
      [(0x93c, 0x93c), (0x9bc, 0x9bc), (0xa3c, 0xa3c), (0xabc, 0xabc), (0xb3c, 0xb3c),
        (0xc3c, 0xc3c), (0xcbc, 0xcbc), (0x1037, 0x1037), (0x1b34, 0x1b34), (0x1be6, 0x1be6),
        (0x1c37, 0x1c37), (0xa9b3, 0xa9b3), (0x110ba, 0x110ba), (0x11173, 0x11173),
        (0x111ca, 0x111ca), (0x11236, 0x11236), (0x112e9, 0x112e9), (0x1133b, 0x1133c),
        (0x11446, 0x11446), (0x114c3, 0x114c3), (0x115c0, 0x115c0), (0x116b7, 0x116b7),
        (0x1183a, 0x1183a), (0x11943, 0x11943), (0x11d42, 0x11d42), (0x11f5a, 0x11f5a),
        (0x1e94a, 0x1e94a)]),
    (8, [(0x3099, 0x309a)]),
    (9,
      [(0x94d, 0x94d), (0x9cd, 0x9cd), (0xa4d, 0xa4d), (0xacd, 0xacd), (0xb4d, 0xb4d),
        (0xbcd, 0xbcd), (0xc4d, 0xc4d), (0xccd, 0xccd), (0xd3b, 0xd3c), (0xd4d, 0xd4d),
        (0xdca, 0xdca), (0xe3a, 0xe3a), (0xeba, 0xeba), (0xf84, 0xf84), (0x1039, 0x103a),
        (0x1714, 0x1715), (0x1734, 0x1734), (0x17d2, 0x17d2), (0x1a60, 0x1a60), (0x1b44, 0x1b44),
        (0x1baa, 0x1bab), (0x1bf2, 0x1bf3), (0x2d7f, 0x2d7f), (0xa806, 0xa806), (0xa82c, 0xa82c),
        (0xa8c4, 0xa8c4), (0xa953, 0xa953), (0xa9c0, 0xa9c0), (0xaaf6, 0xaaf6), (0xabed, 0xabed),
        (0x10a3f, 0x10a3f), (0x11046, 0x11046), (0x11070, 0x11070), (0x1107f, 0x1107f),
        (0x110b9, 0x110b9), (0x11133, 0x11134), (0x111c0, 0x111c0), (0x11235, 0x11235),
        (0x112ea, 0x112ea), (0x1134d, 0x1134d), (0x113ce, 0x113d0), (0x11442, 0x11442),
        (0x114c2, 0x114c2), (0x115bf, 0x115bf), (0x1163f, 0x1163f), (0x116b6, 0x116b6),
        (0x1172b, 0x1172b), (0x11839, 0x11839), (0x1193d, 0x1193e), (0x119e0, 0x119e0),
        (0x11a34, 0x11a34), (0x11a47, 0x11a47), (0x11a99, 0x11a99), (0x11c3f, 0x11c3f),
        (0x11d44, 0x11d45), (0x11d97, 0x11d97), (0x11f41, 0x11f42), (0x1612f, 0x1612f)]),
    (10, [(0x5b0, 0x5b0)]),
    (11, [(0x5b1, 0x5b1)]),
    (12, [(0x5b2, 0x5b2)]),
    (13, [(0x5b3, 0x5b3)]),
    (14, [(0x5b4, 0x5b4)]),
    (15, [(0x5b5, 0x5b5)]),
    (16, [(0x5b6, 0x5b6)]),
    (17, [(0x5b7, 0x5b7)]),
    (18, [(0x5b8, 0x5b8), (0x5c7, 0x5c7)]),
    (19, [(0x5b9, 0x5ba)]),
    (20, [(0x5bb, 0x5bb)]),
    (21, [(0x5bc, 0x5bc)]),
    (22, [(0x5bd, 0x5bd)]),
    (23, [(0x5bf, 0x5bf)]),
    (24, [(0x5c1, 0x5c1)]),
    (25, [(0x5c2, 0x5c2)]),
    (26, [(0xfb1e, 0xfb1e)]),
    (27, [(0x64b, 0x64b), (0x8f0, 0x8f0)]),
    (28, [(0x64c, 0x64c), (0x8f1, 0x8f1)]),
    (29, [(0x64d, 0x64d), (0x8f2, 0x8f2)]),
    (30, [(0x618, 0x618), (0x64e, 0x64e)]),
    (31, [(0x619, 0x619), (0x64f, 0x64f)]),
    (32, [(0x61a, 0x61a), (0x650, 0x650)]),
    (33, [(0x651, 0x651)]),
    (34, [(0x652, 0x652)]),
    (35, [(0x670, 0x670)]),
    (36, [(0x711, 0x711)]),
    (84, [(0xc55, 0xc55)]),
    (91, [(0xc56, 0xc56)]),
    (103, [(0xe38, 0xe39)]),
    (107, [(0xe48, 0xe4b)]),
    (118, [(0xeb8, 0xeb9)]),
    (122, [(0xec8, 0xecb), (0xece, 0xece)]),
    (129, [(0xf71, 0xf71)]),
    (130, [(0xf72, 0xf72), (0xf7a, 0xf7d), (0xf80, 0xf80)]),
    (132, [(0xf74, 0xf74)]),
    (202, [(0x321, 0x322), (0x327, 0x328), (0x1dd0, 0x1dd0)]),
    (214, [(0x1dce, 0x1dce)]),
    (216, [(0x31b, 0x31b), (0xf39, 0xf39), (0x1d165, 0x1d166), (0x1d16e, 0x1d172)]),
    (218, [(0x1dfa, 0x1dfa), (0x302a, 0x302a)]),
    (220,
      [(0x316, 0x319), (0x31c, 0x320), (0x323, 0x326), (0x329, 0x333), (0x339, 0x33c),
        (0x347, 0x349), (0x34d, 0x34e), (0x353, 0x356), (0x359, 0x35a), (0x591, 0x591),
        (0x596, 0x596), (0x59b, 0x59b), (0x5a2, 0x5a7), (0x5aa, 0x5aa), (0x5c5, 0x5c5),
        (0x655, 0x656), (0x65c, 0x65c), (0x65f, 0x65f), (0x6e3, 0x6e3), (0x6ea, 0x6ea),
        (0x6ed, 0x6ed), (0x731, 0x731), (0x734, 0x734), (0x737, 0x739), (0x73b, 0x73c),
        (0x73e, 0x73e), (0x742, 0x742), (0x744, 0x744), (0x746, 0x746), (0x748, 0x748),
        (0x7f2, 0x7f2), (0x7fd, 0x7fd), (0x859, 0x85b), (0x899, 0x89b), (0x8cf, 0x8d3),
        (0x8e3, 0x8e3), (0x8e6, 0x8e6), (0x8e9, 0x8e9), (0x8ed, 0x8ef), (0x8f6, 0x8f6),
        (0x8f9, 0x8fa), (0x952, 0x952), (0xf18, 0xf19), (0xf35, 0xf35), (0xf37, 0xf37),
        (0xfc6, 0xfc6), (0x108d, 0x108d), (0x193b, 0x193b), (0x1a18, 0x1a18), (0x1a7f, 0x1a7f),
        (0x1ab5, 0x1aba), (0x1abd, 0x1abd), (0x1abf, 0x1ac0), (0x1ac3, 0x1ac4), (0x1aca, 0x1aca),
        (0x1b6c, 0x1b6c), (0x1cd5, 0x1cd9), (0x1cdc, 0x1cdf), (0x1ced, 0x1ced), (0x1dc2, 0x1dc2),
        (0x1dca, 0x1dca), (0x1dcf, 0x1dcf), (0x1df9, 0x1df9), (0x1dfd, 0x1dfd), (0x1dff, 0x1dff),
        (0x20e8, 0x20e8), (0x20ec, 0x20ef), (0xa92b, 0xa92d), (0xaab4, 0xaab4), (0xfe27, 0xfe2d),
        (0x101fd, 0x101fd), (0x102e0, 0x102e0), (0x10a0d, 0x10a0d), (0x10a3a, 0x10a3a),
        (0x10ae6, 0x10ae6), (0x10efa, 0x10efb), (0x10efd, 0x10eff), (0x10f46, 0x10f47),
        (0x10f4b, 0x10f4b), (0x10f4d, 0x10f50), (0x10f83, 0x10f83), (0x10f85, 0x10f85),
        (0x1d17b, 0x1d182), (0x1d18a, 0x1d18b), (0x1e4ee, 0x1e4ee), (0x1e5ef, 0x1e5ef),
        (0x1e8d0, 0x1e8d6)]),
    (222, [(0x59a, 0x59a), (0x5ad, 0x5ad), (0x1939, 0x1939), (0x302d, 0x302d)]),
    (224, [(0x302e, 0x302f)]),
    (226, [(0x1d16d, 0x1d16d)]),
    (228, [(0x5ae, 0x5ae), (0x18a9, 0x18a9), (0x1df7, 0x1df8), (0x302b, 0x302b)]),
    (230,
      [(0x300, 0x314), (0x33d, 0x344), (0x346, 0x346), (0x34a, 0x34c), (0x350, 0x352),
        (0x357, 0x357), (0x35b, 0x35b), (0x363, 0x36f), (0x483, 0x487), (0x592, 0x595),
        (0x597, 0x599), (0x59c, 0x5a1), (0x5a8, 0x5a9), (0x5ab, 0x5ac), (0x5af, 0x5af),
        (0x5c4, 0x5c4), (0x610, 0x617), (0x653, 0x654), (0x657, 0x65b), (0x65d, 0x65e),
        (0x6d6, 0x6dc), (0x6df, 0x6e2), (0x6e4, 0x6e4), (0x6e7, 0x6e8), (0x6eb, 0x6ec),
        (0x730, 0x730), (0x732, 0x733), (0x735, 0x736), (0x73a, 0x73a), (0x73d, 0x73d),
        (0x73f, 0x741), (0x743, 0x743), (0x745, 0x745), (0x747, 0x747), (0x749, 0x74a),
        (0x7eb, 0x7f1), (0x7f3, 0x7f3), (0x816, 0x819), (0x81b, 0x823), (0x825, 0x827),
        (0x829, 0x82d), (0x897, 0x898), (0x89c, 0x89f), (0x8ca, 0x8ce), (0x8d4, 0x8e1),
        (0x8e4, 0x8e5), (0x8e7, 0x8e8), (0x8ea, 0x8ec), (0x8f3, 0x8f5), (0x8f7, 0x8f8),
        (0x8fb, 0x8ff), (0x951, 0x951), (0x953, 0x954), (0x9fe, 0x9fe), (0xf82, 0xf83),
        (0xf86, 0xf87), (0x135d, 0x135f), (0x17dd, 0x17dd), (0x193a, 0x193a), (0x1a17, 0x1a17),
        (0x1a75, 0x1a7c), (0x1ab0, 0x1ab4), (0x1abb, 0x1abc), (0x1ac1, 0x1ac2), (0x1ac5, 0x1ac9),
        (0x1acb, 0x1add), (0x1ae0, 0x1aeb), (0x1b6b, 0x1b6b), (0x1b6d, 0x1b73), (0x1cd0, 0x1cd2),
        (0x1cda, 0x1cdb), (0x1ce0, 0x1ce0), (0x1cf4, 0x1cf4), (0x1cf8, 0x1cf9), (0x1dc0, 0x1dc1),
        (0x1dc3, 0x1dc9), (0x1dcb, 0x1dcc), (0x1dd1, 0x1df5), (0x1dfb, 0x1dfb), (0x1dfe, 0x1dfe),
        (0x20d0, 0x20d1), (0x20d4, 0x20d7), (0x20db, 0x20dc), (0x20e1, 0x20e1), (0x20e7, 0x20e7),
        (0x20e9, 0x20e9), (0x20f0, 0x20f0), (0x2cef, 0x2cf1), (0x2de0, 0x2dff), (0xa66f, 0xa66f),
        (0xa674, 0xa67d), (0xa69e, 0xa69f), (0xa6f0, 0xa6f1), (0xa8e0, 0xa8f1), (0xaab0, 0xaab0),
        (0xaab2, 0xaab3), (0xaab7, 0xaab8), (0xaabe, 0xaabf), (0xaac1, 0xaac1), (0xfe20, 0xfe26),
        (0xfe2e, 0xfe2f), (0x10376, 0x1037a), (0x10a0f, 0x10a0f), (0x10a38, 0x10a38),
        (0x10ae5, 0x10ae5), (0x10d24, 0x10d27), (0x10d69, 0x10d6d), (0x10eab, 0x10eac),
        (0x10f48, 0x10f4a), (0x10f4c, 0x10f4c), (0x10f82, 0x10f82), (0x10f84, 0x10f84),
        (0x11100, 0x11102), (0x11366, 0x1136c), (0x11370, 0x11374), (0x113e1, 0x113e2),
        (0x1145e, 0x1145e), (0x16b30, 0x16b36), (0x1d185, 0x1d189), (0x1d1aa, 0x1d1ad),
        (0x1d242, 0x1d244), (0x1e000, 0x1e006), (0x1e008, 0x1e018), (0x1e01b, 0x1e021),
        (0x1e023, 0x1e024), (0x1e026, 0x1e02a), (0x1e08f, 0x1e08f), (0x1e130, 0x1e136),
        (0x1e2ae, 0x1e2ae), (0x1e2ec, 0x1e2ef), (0x1e4ef, 0x1e4ef), (0x1e5ee, 0x1e5ee),
        (0x1e6e3, 0x1e6e3), (0x1e6e6, 0x1e6e6), (0x1e6ee, 0x1e6ef), (0x1e6f5, 0x1e6f5),
        (0x1e944, 0x1e949)]),
    (232,
      [(0x315, 0x315), (0x31a, 0x31a), (0x358, 0x358), (0x1df6, 0x1df6), (0x302c, 0x302c),
        (0x1e4ec, 0x1e4ed)]),
    (233, [(0x35c, 0x35c), (0x35f, 0x35f), (0x362, 0x362), (0x1dfc, 0x1dfc)]),
    (234, [(0x35d, 0x35e), (0x360, 0x361), (0x1dcd, 0x1dcd)]),
    (240, [(0x345, 0x345)])]

/-- The class of a mark; zero for what is no mark of a place. -/
def combiningClass (c : Char) : Nat :=
  if c.toNat < 0x300 then 0
  else ((combiningClasses.find? fun (_, ranges) => ranges.contains c).map Prod.fst).getD 0

/-! ### Composites -/

/-- A character that is composed of two. -/
structure Composite where
  first : Nat
  second : Nat
  whole : Nat
  deriving DecidableEq, Repr

/-- For each second part, the first parts and what they compose. -/
def compositeTable : String :=
  "300: 41=c0 45=c8 49=cc 4f=d2 55=d9 61=e0 65=e8 69=ec 6f=f2 75=f9 dc=1db fc=1dc 4e=1f8 6e=1f9
   415=400 418=40d 435=450 438=45d 112=1e14 113=1e15 14c=1e50 14d=1e51 57=1e80 77=1e81 c2=1ea6
   e2=1ea7 102=1eb0 103=1eb1 ca=1ec0 ea=1ec1 d4=1ed2 f4=1ed3 1a0=1edc 1a1=1edd 1af=1eea 1b0=1eeb
   59=1ef2 79=1ef3 1f00=1f02 1f01=1f03 1f08=1f0a 1f09=1f0b 1f10=1f12 1f11=1f13 1f18=1f1a
   1f19=1f1b 1f20=1f22 1f21=1f23 1f28=1f2a 1f29=1f2b 1f30=1f32 1f31=1f33 1f38=1f3a 1f39=1f3b
   1f40=1f42 1f41=1f43 1f48=1f4a 1f49=1f4b 1f50=1f52 1f51=1f53 1f59=1f5b 1f60=1f62 1f61=1f63
   1f68=1f6a 1f69=1f6b 3b1=1f70 3b5=1f72 3b7=1f74 3b9=1f76 3bf=1f78 3c5=1f7a 3c9=1f7c 391=1fba
   395=1fc8 397=1fca 1fbf=1fcd 3ca=1fd2 399=1fda 1ffe=1fdd 3cb=1fe2 3a5=1fea a8=1fed 39f=1ff8
   3a9=1ffa 301: 41=c1 45=c9 49=cd 4f=d3 55=da 59=dd 61=e1 65=e9 69=ed 6f=f3 75=fa 79=fd 43=106
   63=107 4c=139 6c=13a 4e=143 6e=144 52=154 72=155 53=15a 73=15b 5a=179 7a=17a dc=1d7 fc=1d8
   47=1f4 67=1f5 c5=1fa e5=1fb c6=1fc e6=1fd d8=1fe f8=1ff a8=385 391=386 395=388 397=389 399=38a
   39f=38c 3a5=38e 3a9=38f 3ca=390 3b1=3ac 3b5=3ad 3b7=3ae 3b9=3af 3cb=3b0 3bf=3cc 3c5=3cd
   3c9=3ce 3d2=3d3 413=403 41a=40c 433=453 43a=45c c7=1e08 e7=1e09 112=1e16 113=1e17 cf=1e2e
   ef=1e2f 4b=1e30 6b=1e31 4d=1e3e 6d=1e3f d5=1e4c f5=1e4d 14c=1e52 14d=1e53 50=1e54 70=1e55
   168=1e78 169=1e79 57=1e82 77=1e83 c2=1ea4 e2=1ea5 102=1eae 103=1eaf ca=1ebe ea=1ebf d4=1ed0
   f4=1ed1 1a0=1eda 1a1=1edb 1af=1ee8 1b0=1ee9 1f00=1f04 1f01=1f05 1f08=1f0c 1f09=1f0d 1f10=1f14
   1f11=1f15 1f18=1f1c 1f19=1f1d 1f20=1f24 1f21=1f25 1f28=1f2c 1f29=1f2d 1f30=1f34 1f31=1f35
   1f38=1f3c 1f39=1f3d 1f40=1f44 1f41=1f45 1f48=1f4c 1f49=1f4d 1f50=1f54 1f51=1f55 1f59=1f5d
   1f60=1f64 1f61=1f65 1f68=1f6c 1f69=1f6d 1fbf=1fce 1ffe=1fde 302: 41=c2 45=ca 49=ce 4f=d4 55=db
   61=e2 65=ea 69=ee 6f=f4 75=fb 43=108 63=109 47=11c 67=11d 48=124 68=125 4a=134 6a=135 53=15c
   73=15d 57=174 77=175 59=176 79=177 5a=1e90 7a=1e91 1ea0=1eac 1ea1=1ead 1eb8=1ec6 1eb9=1ec7
   1ecc=1ed8 1ecd=1ed9 303: 41=c3 4e=d1 4f=d5 61=e3 6e=f1 6f=f5 49=128 69=129 55=168 75=169
   56=1e7c 76=1e7d c2=1eaa e2=1eab 102=1eb4 103=1eb5 45=1ebc 65=1ebd ca=1ec4 ea=1ec5 d4=1ed6
   f4=1ed7 1a0=1ee0 1a1=1ee1 1af=1eee 1b0=1eef 59=1ef8 79=1ef9 304: 41=100 61=101 45=112 65=113
   49=12a 69=12b 4f=14c 6f=14d 55=16a 75=16b dc=1d5 fc=1d6 c4=1de e4=1df 226=1e0 227=1e1 c6=1e2
   e6=1e3 1ea=1ec 1eb=1ed d6=22a f6=22b d5=22c f5=22d 22e=230 22f=231 59=232 79=233 418=4e2
   438=4e3 423=4ee 443=4ef 47=1e20 67=1e21 1e36=1e38 1e37=1e39 1e5a=1e5c 1e5b=1e5d 3b1=1fb1
   391=1fb9 3b9=1fd1 399=1fd9 3c5=1fe1 3a5=1fe9 306: 41=102 61=103 45=114 65=115 47=11e 67=11f
   49=12c 69=12d 4f=14e 6f=14f 55=16c 75=16d 423=40e 418=419 438=439 443=45e 416=4c1 436=4c2
   410=4d0 430=4d1 415=4d6 435=4d7 228=1e1c 229=1e1d 1ea0=1eb6 1ea1=1eb7 3b1=1fb0 391=1fb8
   3b9=1fd0 399=1fd8 3c5=1fe0 3a5=1fe8 307: 43=10a 63=10b 45=116 65=117 47=120 67=121 49=130
   5a=17b 7a=17c 41=226 61=227 4f=22e 6f=22f 42=1e02 62=1e03 44=1e0a 64=1e0b 46=1e1e 66=1e1f
   48=1e22 68=1e23 4d=1e40 6d=1e41 4e=1e44 6e=1e45 50=1e56 70=1e57 52=1e58 72=1e59 53=1e60
   73=1e61 15a=1e64 15b=1e65 160=1e66 161=1e67 1e62=1e68 1e63=1e69 54=1e6a 74=1e6b 57=1e86
   77=1e87 58=1e8a 78=1e8b 59=1e8e 79=1e8f 17f=1e9b 105d2=105c9 105da=105e4 308: 41=c4 45=cb
   49=cf 4f=d6 55=dc 61=e4 65=eb 69=ef 6f=f6 75=fc 79=ff 59=178 399=3aa 3a5=3ab 3b9=3ca 3c5=3cb
   3d2=3d4 415=401 406=407 435=451 456=457 410=4d2 430=4d3 4d8=4da 4d9=4db 416=4dc 436=4dd
   417=4de 437=4df 418=4e4 438=4e5 41e=4e6 43e=4e7 4e8=4ea 4e9=4eb 42d=4ec 44d=4ed 423=4f0
   443=4f1 427=4f4 447=4f5 42b=4f8 44b=4f9 48=1e26 68=1e27 d5=1e4e f5=1e4f 16a=1e7a 16b=1e7b
   57=1e84 77=1e85 58=1e8c 78=1e8d 74=1e97 309: 41=1ea2 61=1ea3 c2=1ea8 e2=1ea9 102=1eb2 103=1eb3
   45=1eba 65=1ebb ca=1ec2 ea=1ec3 49=1ec8 69=1ec9 4f=1ece 6f=1ecf d4=1ed4 f4=1ed5 1a0=1ede
   1a1=1edf 55=1ee6 75=1ee7 1af=1eec 1b0=1eed 59=1ef6 79=1ef7 30a: 41=c5 61=e5 55=16e 75=16f
   77=1e98 79=1e99 30b: 4f=150 6f=151 55=170 75=171 423=4f2 443=4f3 30c: 43=10c 63=10d 44=10e
   64=10f 45=11a 65=11b 4c=13d 6c=13e 4e=147 6e=148 52=158 72=159 53=160 73=161 54=164 74=165
   5a=17d 7a=17e 41=1cd 61=1ce 49=1cf 69=1d0 4f=1d1 6f=1d2 55=1d3 75=1d4 dc=1d9 fc=1da 47=1e6
   67=1e7 4b=1e8 6b=1e9 1b7=1ee 292=1ef 6a=1f0 48=21e 68=21f 30f: 41=200 61=201 45=204 65=205
   49=208 69=209 4f=20c 6f=20d 52=210 72=211 55=214 75=215 474=476 475=477 311: 41=202 61=203
   45=206 65=207 49=20a 69=20b 4f=20e 6f=20f 52=212 72=213 55=216 75=217 313: 3b1=1f00 391=1f08
   3b5=1f10 395=1f18 3b7=1f20 397=1f28 3b9=1f30 399=1f38 3bf=1f40 39f=1f48 3c5=1f50 3c9=1f60
   3a9=1f68 3c1=1fe4 314: 3b1=1f01 391=1f09 3b5=1f11 395=1f19 3b7=1f21 397=1f29 3b9=1f31 399=1f39
   3bf=1f41 39f=1f49 3c5=1f51 3a5=1f59 3c9=1f61 3a9=1f69 3c1=1fe5 3a1=1fec 31b: 4f=1a0 6f=1a1
   55=1af 75=1b0 323: 42=1e04 62=1e05 44=1e0c 64=1e0d 48=1e24 68=1e25 4b=1e32 6b=1e33 4c=1e36
   6c=1e37 4d=1e42 6d=1e43 4e=1e46 6e=1e47 52=1e5a 72=1e5b 53=1e62 73=1e63 54=1e6c 74=1e6d
   56=1e7e 76=1e7f 57=1e88 77=1e89 5a=1e92 7a=1e93 41=1ea0 61=1ea1 45=1eb8 65=1eb9 49=1eca
   69=1ecb 4f=1ecc 6f=1ecd 1a0=1ee2 1a1=1ee3 55=1ee4 75=1ee5 1af=1ef0 1b0=1ef1 59=1ef4 79=1ef5
   324: 55=1e72 75=1e73 325: 41=1e00 61=1e01 326: 53=218 73=219 54=21a 74=21b 327: 43=c7 63=e7
   47=122 67=123 4b=136 6b=137 4c=13b 6c=13c 4e=145 6e=146 52=156 72=157 53=15e 73=15f 54=162
   74=163 45=228 65=229 44=1e10 64=1e11 48=1e28 68=1e29 328: 41=104 61=105 45=118 65=119 49=12e
   69=12f 55=172 75=173 4f=1ea 6f=1eb 32d: 44=1e12 64=1e13 45=1e18 65=1e19 4c=1e3c 6c=1e3d
   4e=1e4a 6e=1e4b 54=1e70 74=1e71 55=1e76 75=1e77 32e: 48=1e2a 68=1e2b 330: 45=1e1a 65=1e1b
   49=1e2c 69=1e2d 55=1e74 75=1e75 331: 42=1e06 62=1e07 44=1e0e 64=1e0f 4b=1e34 6b=1e35 4c=1e3a
   6c=1e3b 4e=1e48 6e=1e49 52=1e5e 72=1e5f 54=1e6e 74=1e6f 5a=1e94 7a=1e95 68=1e96 338: 2190=219a
   2192=219b 2194=21ae 21d0=21cd 21d4=21ce 21d2=21cf 2203=2204 2208=2209 220b=220c 2223=2224
   2225=2226 223c=2241 2243=2244 2245=2247 2248=2249 3d=2260 2261=2262 224d=226d 3c=226e 3e=226f
   2264=2270 2265=2271 2272=2274 2273=2275 2276=2278 2277=2279 227a=2280 227b=2281 2282=2284
   2283=2285 2286=2288 2287=2289 22a2=22ac 22a8=22ad 22a9=22ae 22ab=22af 227c=22e0 227d=22e1
   2291=22e2 2292=22e3 22b2=22ea 22b3=22eb 22b4=22ec 22b5=22ed 342: 1f00=1f06 1f01=1f07 1f08=1f0e
   1f09=1f0f 1f20=1f26 1f21=1f27 1f28=1f2e 1f29=1f2f 1f30=1f36 1f31=1f37 1f38=1f3e 1f39=1f3f
   1f50=1f56 1f51=1f57 1f59=1f5f 1f60=1f66 1f61=1f67 1f68=1f6e 1f69=1f6f 3b1=1fb6 a8=1fc1
   3b7=1fc6 1fbf=1fcf 3b9=1fd6 3ca=1fd7 1ffe=1fdf 3c5=1fe6 3cb=1fe7 3c9=1ff6 345: 1f00=1f80
   1f01=1f81 1f02=1f82 1f03=1f83 1f04=1f84 1f05=1f85 1f06=1f86 1f07=1f87 1f08=1f88 1f09=1f89
   1f0a=1f8a 1f0b=1f8b 1f0c=1f8c 1f0d=1f8d 1f0e=1f8e 1f0f=1f8f 1f20=1f90 1f21=1f91 1f22=1f92
   1f23=1f93 1f24=1f94 1f25=1f95 1f26=1f96 1f27=1f97 1f28=1f98 1f29=1f99 1f2a=1f9a 1f2b=1f9b
   1f2c=1f9c 1f2d=1f9d 1f2e=1f9e 1f2f=1f9f 1f60=1fa0 1f61=1fa1 1f62=1fa2 1f63=1fa3 1f64=1fa4
   1f65=1fa5 1f66=1fa6 1f67=1fa7 1f68=1fa8 1f69=1fa9 1f6a=1faa 1f6b=1fab 1f6c=1fac 1f6d=1fad
   1f6e=1fae 1f6f=1faf 1f70=1fb2 3b1=1fb3 3ac=1fb4 1fb6=1fb7 391=1fbc 1f74=1fc2 3b7=1fc3 3ae=1fc4
   1fc6=1fc7 397=1fcc 1f7c=1ff2 3c9=1ff3 3ce=1ff4 1ff6=1ff7 3a9=1ffc 653: 627=622 654: 627=623
   648=624 64a=626 6d5=6c0 6c1=6c2 6d2=6d3 655: 627=625 93c: 928=929 930=931 933=934 9be: 9c7=9cb
   9d7: 9c7=9cc b3e: b47=b4b b56: b47=b48 b57: b47=b4c bbe: bc6=bca bc7=bcb bd7: b92=b94 bc6=bcc
   c56: c46=c48 cc2: cc6=cca cd5: cbf=cc0 cc6=cc7 cca=ccb cd6: cc6=cc8 d3e: d46=d4a d47=d4b d57:
   d46=d4c dca: dd9=dda ddc=ddd dcf: dd9=ddc ddf: dd9=dde 102e: 1025=1026 1b35: 1b05=1b06
   1b07=1b08 1b09=1b0a 1b0b=1b0c 1b0d=1b0e 1b11=1b12 1b3a=1b3b 1b3c=1b3d 1b3e=1b40 1b3f=1b41
   1b42=1b43 3099: 304b=304c 304d=304e 304f=3050 3051=3052 3053=3054 3055=3056 3057=3058
   3059=305a 305b=305c 305d=305e 305f=3060 3061=3062 3064=3065 3066=3067 3068=3069 306f=3070
   3072=3073 3075=3076 3078=3079 307b=307c 3046=3094 309d=309e 30ab=30ac 30ad=30ae 30af=30b0
   30b1=30b2 30b3=30b4 30b5=30b6 30b7=30b8 30b9=30ba 30bb=30bc 30bd=30be 30bf=30c0 30c1=30c2
   30c4=30c5 30c6=30c7 30c8=30c9 30cf=30d0 30d2=30d3 30d5=30d6 30d8=30d9 30db=30dc 30a6=30f4
   30ef=30f7 30f0=30f8 30f1=30f9 30f2=30fa 30fd=30fe 309a: 306f=3071 3072=3074 3075=3077
   3078=307a 307b=307d 30cf=30d1 30d2=30d4 30d5=30d7 30d8=30da 30db=30dd 110ba: 11099=1109a
   1109b=1109c 110a5=110ab 11127: 11131=1112e 11132=1112f 1133e: 11347=1134b 11357: 11347=1134c
   113b8: 113c2=113c7 113bb: 11384=11385 113c2: 1138b=1138e 113c2=113c5 113c9: 11382=11383
   11390=11391 113c2=113c8 114b0: 114b9=114bc 114ba: 114b9=114bb 114bd: 114b9=114be 115af:
   115b8=115ba 115b9=115bb 11930: 11935=11938 1611e: 1611e=16121 1611f: 1611e=16123 16129=16124
   16121=16126 16122=16127 16120: 1611e=16125 16121=16128 16129: 1611e=16122 16d67: 16d67=16d68
   16d63=16d69 16d69=16d6a"

/-- The composites in words, the second parts of which were said before. -/
def readComposites (second : Nat) : List (List Char) → List Composite
  | [] => []
  | word :: rest =>
    match codes '=' word with
    | [first, whole] => ⟨first, second, whole⟩ :: readComposites second rest
    | _ => readComposites (codeValue word) rest

def composites : List Composite :=
  readComposites 0 (tableWords compositeTable)

end ZoneSync.Text
