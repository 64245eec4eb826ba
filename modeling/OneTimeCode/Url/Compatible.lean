/-!
# Characters that stand for others

A domain can be written with characters that are ASCII ones in another shape, such
as wide letters or digits in circles.  The tables are data of Unicode's IDNA
compatibility processing, version 17.
-/

namespace OneTimeCode.Url

/-- Alphabets and rows of digits one after the other: the first and last code points,
the first character that they stand for, and the number of characters in a row. -/
def alphabets : List (Nat × Nat × Char × Nat) :=
  [(0x2074, 0x2079, '4', 6), (0x2080, 0x2089, '0', 10), (0x2460, 0x2468, '1', 9),
    (0x24b6, 0x24e9, 'a', 26), (0xff10, 0xff19, '0', 10), (0xff21, 0xff3a, 'a', 26),
    (0xff41, 0xff5a, 'a', 26), (0x1ccd6, 0x1ccef, 'a', 26), (0x1ccf0, 0x1ccf9, '0', 10),
    (0x1d400, 0x1d6a3, 'a', 26), (0x1d7ce, 0x1d7ff, '0', 10), (0x1f130, 0x1f149, 'a', 26),
    (0x1fbf0, 0x1fbf9, '0', 10)]

/-- The texts that characters from a code point on stand for, with blanks between
them.  Some marks and vowel signs are here as well, since what they stand for
combines with the character before or does not. -/
def compatibleTexts : List (Nat × String) :=
  [(0xaa, "a"), (0xb2, "2 3"), (0xb9, "1 o"), (0x132, "ij ij"), (0x17f, "s"),
    (0x1c7, "lj lj lj nj nj nj"), (0x1f1, "dz dz dz"), (0x2b0, "h"), (0x2b2, "j r"),
    (0x2b7, "w y"), (0x2e1, "l s x"), (0x345, "\u03b9"), (0x37e, ";"),
    (0xe33, "\u0e4d\u0e32"), (0xeb3, "\u0ecd\u0eb2"), (0x1d2c, "a"), (0x1d2e, "b"),
    (0x1d30, "d e"), (0x1d33, "g h i j k l m n"), (0x1d3c, "o"), (0x1d3e, "p r t u w a"),
    (0x1d47, "b d e"), (0x1d4d, "g"), (0x1d4f, "k m"), (0x1d52, "o"), (0x1d56, "p t u"),
    (0x1d5b, "v"), (0x1d62, "i r u v"), (0x1d9c, "c"), (0x1da0, "f"), (0x1dbb, "z"),
    (0x1fef, "`"), (0x203c, "!!"), (0x2070, "0 i"), (0x207a, "+"), (0x207c, "= ( ) n"),
    (0x208a, "+"), (0x208c, "= ( )"), (0x2090, "a e o x"), (0x2095, "h k l m n p s t"),
    (0x20a8, "rs"), (0x2102, "c"), (0x210a, "g h h h h"), (0x2110, "i i l l"),
    (0x2115, "n no"), (0x2119, "p q r r r"), (0x2120, "sm tel tm"), (0x2124, "z"),
    (0x2128, "z"), (0x212a, "k"), (0x212c, "b c"), (0x212f, "e e f"), (0x2133, "m o"),
    (0x2139, "i"), (0x213b, "fax"), (0x2145, "d d e i j"),
    (0x2160, "i ii iii iv v vi vii viii ix x xi xii l c d m i ii iii iv v vi vii"),
    (0x2177, "viii ix x xi xii l c d m"),
    (0x2469, "10 11 12 13 14 15 16 17 18 19 20 (1) (2) (3) (4) (5) (6) (7) (8) (9)"),
    (0x247d, "(10) (11) (12) (13) (14) (15) (16) (17) (18) (19) (20)"),
    (0x249c, "(a) (b) (c) (d) (e) (f) (g) (h) (i) (j) (k) (l) (m) (n) (o) (p) (q)"),
    (0x24ad, "(r) (s) (t) (u) (v) (w) (x) (y) (z)"), (0x24ea, "0"), (0x2a75, "== ==="),
    (0x2c7c, "j v"), (0x3002, "."),
    (0x3250, "pte 21 22 23 24 25 26 27 28 29 30 31 32 33 34 35"),
    (0x32b1, "36 37 38 39 40 41 42 43 44 45 46 47 48 49 50"), (0x32cc, "hg erg ev ltd"),
    (0x3371, "hpa da au bar ov pc dm dm2 dm3 iu"), (0x3380, "pa na"),
    (0x3383, "ma ka kb mb gb cal kcal pf nf"), (0x338e, "mg kg hz khz mhz ghz thz"),
    (0x3396, "ml dl kl fm nm"), (0x339c, "mm cm km mm2 cm2 m2 km2 mm3 cm3 m3 km3"),
    (0x33a9, "pa kpa mpa gpa rad"), (0x33b0, "ps ns"), (0x33b3, "ms pv nv"),
    (0x33b7, "mv kv mv pw nw"), (0x33bd, "mw kw mw"), (0x33c3, "bq cc cd"),
    (0x33c8, "db gy ha hp in kk km kt lm ln log lx mb mil mol ph"),
    (0x33d9, "ppm pr sr sv wb"), (0x33ff, "gal"), (0xa7f1, "s c f q"),
    (0xfb00, "ff fi fl ffi ffl st st"), (0xfb29, "+"), (0xfe10, ","), (0xfe14, "; !"),
    (0xfe33, "_ _ ( ) \x7b \x7d"), (0xfe4d, "_ _ _ ,"), (0xfe54, ";"), (0xfe57, "!"),
    (0xfe59, "( ) \x7b \x7d"), (0xfe60, "& * + -"), (0xfe66, "="), (0xfe69, "$"),
    (0xff01, "! \x22"), (0xff04, "$"), (0xff06, "& ' ( ) * + , - ."), (0xff1b, ";"),
    (0xff1d, "="), (0xff3f, "_ `"), (0xff5b, "\x7b"), (0xff5d, "\x7d ~"), (0xff61, "."),
    (0xff9e, "\u3099 \u309a"), (0x107a5, "q"), (0x1f101, "0, 1, 2, 3, 4, 5, 6, 7, 8, 9,"),
    (0x1f110, "(a) (b) (c) (d) (e) (f) (g) (h) (i) (j) (k) (l) (m) (n) (o) (p) (q)"),
    (0x1f121, "(r) (s) (t) (u) (v) (w) (x) (y) (z)"), (0x1f12b, "c r cd wz"),
    (0x1f14a, "hv mv sd ss ppv wc"), (0x1f16a, "mc md mr"), (0x1f190, "dj")]

/-- A character's place among the characters of an alphabet. -/
def alphabetCharacter? (code : Nat) : Option Char :=
  alphabets.findSome? fun (first, last, start, size) =>
    if first ≤ code ∧ code ≤ last then
      some (Char.ofNat (start.toNat + (code - first) % size))
    else
      none

/-- The text that an entry of the table has for a code point. -/
def textAt? (code : Nat) (entry : Nat × String) : Option (List Char) :=
  if entry.1 ≤ code then (entry.2.toList.splitOn ' ')[code - entry.1]? else none

/-- The characters that a character stands for, when they are not itself. -/
def compatible? (c : Char) : Option (List Char) :=
  ((alphabetCharacter? c.toNat).map fun letter => [letter]).or
    (compatibleTexts.findSome? (textAt? c.toNat))

end OneTimeCode.Url
