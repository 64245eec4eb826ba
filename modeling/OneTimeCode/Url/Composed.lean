/-!
# Characters that are written as one

Some characters make a single one together with a mark or a part of a syllable after
them.  In an encoded label they have to be given as that one, so that a label has one
encoding.  The table is data of the Unicode character database, version 17.
-/

namespace OneTimeCode.Url

/-- The code points of marks, and the small letters and signs that they make another
character of. -/
def composingBases : List (Nat × String) :=
  [(0x300, "aeinouwy\u00e2\u00ea\u00f4\u00fc\u0103\u0113\u014d\u01a1\u01b0\u03b1"),
    (0x300, "\u03b5\u03b7\u03b9\u03bf\u03c5\u03c9\u03ca\u03cb\u0435\u0438\u1f00\u1f01"),
    (0x300, "\u1f10\u1f11\u1f20\u1f21\u1f30\u1f31\u1f40\u1f41\u1f50\u1f51\u1f60\u1f61"),
    (0x301, "acegiklmnoprsuwyz\u00e2\u00e5\u00e6\u00e7\u00ea\u00ef\u00f4\u00f5\u00f8"),
    (0x301, "\u00fc\u0103\u0113\u014d\u0169\u01a1\u01b0\u03b1\u03b5\u03b7\u03b9\u03bf"),
    (0x301, "\u03c5\u03c9\u03ca\u03cb\u0433\u043a\u1f00\u1f01\u1f10\u1f11\u1f20\u1f21"),
    (0x301, "\u1f30\u1f31\u1f40\u1f41\u1f50\u1f51\u1f60\u1f61"),
    (0x302, "aceghijosuwyz\u1ea1\u1eb9\u1ecd"),
    (0x303, "aeinouvy\u00e2\u00ea\u00f4\u0103\u01a1\u01b0"),
    (0x304, "aegiouy\u00e4\u00e6\u00f5\u00f6\u00fc\u01eb\u0227\u022f\u03b1\u03b9\u03c5"),
    (0x304, "\u0438\u0443\u1e37\u1e5b"),
    (0x306, "aegiou\u0229\u03b1\u03b9\u03c5\u0430\u0435\u0436\u0438\u0443\u1ea1"),
    (0x307, "abcdefghmnoprstwxyz\u015b\u0161\u1e63𐗒𐗚"),
    (0x308, "aehiotuwxy\u00f5\u016b\u03b9\u03c5\u0430\u0435\u0436\u0437\u0438\u043e"),
    (0x308, "\u0443\u0447\u044b\u044d\u0456\u04d9\u04e9"),
    (0x309, "aeiouy\u00e2\u00ea\u00f4\u0103\u01a1\u01b0"), (0x30a, "auwy"),
    (0x30b, "ou\u0443"), (0x30c, "acdeghijklnorstuz\u00fc\u0292"), (0x30f, "aeioru\u0475"),
    (0x311, "aeioru"), (0x313, "\u03b1\u03b5\u03b7\u03b9\u03bf\u03c1\u03c5\u03c9"),
    (0x314, "\u03b1\u03b5\u03b7\u03b9\u03bf\u03c1\u03c5\u03c9"), (0x31b, "ou"),
    (0x323, "abdehiklmnorstuvwyz\u01a1\u01b0"), (0x324, "u"), (0x325, "a"), (0x326, "st"),
    (0x327, "cdeghklnrst"), (0x328, "aeiou"), (0x32d, "delntu"), (0x32e, "h"),
    (0x330, "eiu"), (0x331, "bdhklnrtz"),
    (0x338, "=\u2190\u2192\u2194\u21d0\u21d2\u21d4\u2203\u2208\u220b\u2223\u2225\u223c"),
    (0x338, "\u2243\u2245\u2248\u224d\u2261\u2264\u2265\u2272\u2273\u2276\u2277\u227a"),
    (0x338, "\u227b\u227c\u227d\u2282\u2283\u2286\u2287\u2291\u2292\u22a2\u22a8\u22a9"),
    (0x338, "\u22ab\u22b2\u22b3\u22b4\u22b5"),
    (0x342, "\u03b1\u03b7\u03b9\u03c5\u03c9\u03ca\u03cb\u1f00\u1f01\u1f20\u1f21\u1f30"),
    (0x342, "\u1f31\u1f50\u1f51\u1f60\u1f61"), (0x653, "\u0627"),
    (0x654, "\u0627\u0648\u064a\u06c1\u06d2\u06d5"), (0x655, "\u0627"),
    (0x93c, "\u0928\u0930\u0933"), (0x9be, "\u09c7"), (0x9d7, "\u09c7"), (0xb3e, "\u0b47"),
    (0xb56, "\u0b47"), (0xb57, "\u0b47"), (0xbbe, "\u0bc6\u0bc7"), (0xbd7, "\u0b92\u0bc6"),
    (0xc56, "\u0c46"), (0xcc2, "\u0cc6"), (0xcd5, "\u0cbf\u0cc6\u0cca"), (0xcd6, "\u0cc6"),
    (0xd3e, "\u0d46\u0d47"), (0xd57, "\u0d46"), (0xdca, "\u0dd9\u0ddc"), (0xdcf, "\u0dd9"),
    (0xddf, "\u0dd9"), (0x102e, "\u1025"),
    (0x1b35, "\u1b05\u1b07\u1b09\u1b0b\u1b0d\u1b11\u1b3a\u1b3c\u1b3e\u1b3f\u1b42"),
    (0x3099, "\u3046\u304b\u304d\u304f\u3051\u3053\u3055\u3057\u3059\u305b\u305d\u305f"),
    (0x3099, "\u3061\u3064\u3066\u3068\u306f\u3072\u3075\u3078\u307b\u309d\u30a6\u30ab"),
    (0x3099, "\u30ad\u30af\u30b1\u30b3\u30b5\u30b7\u30b9\u30bb\u30bd\u30bf\u30c1\u30c4"),
    (0x3099, "\u30c6\u30c8\u30cf\u30d2\u30d5\u30d8\u30db\u30ef\u30f0\u30f1\u30f2\u30fd"),
    (0x309a, "\u306f\u3072\u3075\u3078\u307b\u30cf\u30d2\u30d5\u30d8\u30db"),
    (0x110ba, "𑂙𑂛𑂥"), (0x11127, "𑄱𑄲"), (0x1133e, "𑍇"), (0x11357, "𑍇"), (0x113b8, "𑏂"),
    (0x113bb, "𑎄"), (0x113c2, "𑎎"), (0x113c9, "𑎂𑎐𑏂"), (0x114b0, "𑒹"), (0x114ba, "𑒹"),
    (0x114bd, "𑒹"), (0x115af, "𑖸𑖹"), (0x11930, "𑤵"), (0x1611e, "𖄞"), (0x1611f, "𖄡𖄡𖄩𖄩"),
    (0x16120, "𖄡𖄞"), (0x16129, "𖄞"), (0x16d67, "𖵩𖵩")]

/-- The consonants and vowels that make a syllable, and the syllables without a last
consonant with those that can be one. -/
def makesSyllable (base mark : Nat) : Bool :=
  (0x1100 ≤ base && base ≤ 0x1112 && 0x1161 ≤ mark && mark ≤ 0x1175) ||
    (0xac00 ≤ base && base ≤ 0xd7a3 && (base - 0xac00) % 28 == 0 &&
      0x11a8 ≤ mark && mark ≤ 0x11c2)

def composes (base mark : Char) : Bool :=
  makesSyllable base.toNat mark.toNat ||
    composingBases.any fun (code, bases) =>
      code == mark.toNat && bases.toList.contains base

/-- Whether no character makes one with the next. -/
def isComposed : List Char → Bool
  | base :: mark :: rest => !composes base mark && isComposed (mark :: rest)
  | _ => true

end OneTimeCode.Url
