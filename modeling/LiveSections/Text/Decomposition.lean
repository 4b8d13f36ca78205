import LiveSections.Text.CodePoints

/-!
# Decompositions of characters

What characters are made of, as tables (Unicode 14.0). A table gives consecutive code points what
they are made of: `00E0:` says where it goes on, `0061+0300` is what one code point is made of, and
`0041-0043` is one code point for each of three. Syllables of Hangul are not in the tables, as they
are made of their letters by a rule.

- `compatibleParts c`: the characters that `c` stands for, each of them without parts.
- `composite? a b`: the character that is made of two.
- `combiningClass c`: the order of marks on one letter; 0 for what is no such mark.
-/

namespace LiveSections.Text

/-! ## Tables -/

/-- The code points from one to another. -/
def codePointsFrom (first last : Nat) : List Nat := (List.range (last + 1 - first)).map (first + ·)

/-- What the code points that a word of a table is about are made of. -/
def partsOfWord (w : Text) : List Text :=
  match splitOn '-' w with
  | [a, b] =>
    (codePointsFrom (CodePoints.hexValue a) (CodePoints.hexValue b)).map fun n => [Char.ofNat n]
  | _ => [(splitOn '+' w).map fun p => Char.ofNat (CodePoints.hexValue p)]

/-- The entries of a table's words, from a code point on. -/
def partsFrom : Nat → List Text → List (Nat × Text)
  | _, [] => []
  | next, w :: ws =>
    if w.getLast? = some ':' then partsFrom (CodePoints.hexValue w.dropLast) ws
    else
      let parts := partsOfWord w
      let behind := next + parts.length
      (codePointsFrom next (behind - 1)).zip parts ++ partsFrom behind ws

/-- Reads a table of parts. -/
def partsTable (table : String) : List (Nat × Text) := partsFrom 0 (CodePoints.words table)

/-- Reads a table of numbers for ranges of code points. -/
def classesTable (table : String) : List ((Nat × Nat) × Nat) :=
  (CodePoints.words table).filterMap fun w =>
    match splitOn '=' w with
    | [range, n] => some (CodePoints.rangeOfWord range, CodePoints.hexValue n)
    | _ => none

/-- The characters that are made of others, canonically or for compatibility, with what they are
made of in the end. -/
def decompositions : List (Nat × Text) := partsTable
  "00A0: 0020 00A8: 0020+0308 00AA: 0061 00AF: 0020+0304 00B2: 0032-0033 0020+0301 03BC 00B8:
  0020+0327 0031 006F 00BC: 0031+2044+0034 0031+2044+0032 0033+2044+0034 00C0: 0041+0300 0041+0301
  0041+0302 0041+0303 0041+0308 0041+030A 00C7: 0043+0327 0045+0300 0045+0301 0045+0302 0045+0308
  0049+0300 0049+0301 0049+0302 0049+0308 00D1: 004E+0303 004F+0300 004F+0301 004F+0302 004F+0303
  004F+0308 00D9: 0055+0300 0055+0301 0055+0302 0055+0308 0059+0301 00E0: 0061+0300 0061+0301
  0061+0302 0061+0303 0061+0308 0061+030A 00E7: 0063+0327 0065+0300 0065+0301 0065+0302 0065+0308
  0069+0300 0069+0301 0069+0302 0069+0308 00F1: 006E+0303 006F+0300 006F+0301 006F+0302 006F+0303
  006F+0308 00F9: 0075+0300 0075+0301 0075+0302 0075+0308 0079+0301 00FF: 0079+0308 0041+0304
  0061+0304 0041+0306 0061+0306 0041+0328 0061+0328 0043+0301 0063+0301 0043+0302 0063+0302
  0043+0307 0063+0307 0043+030C 0063+030C 0044+030C 0064+030C 0112: 0045+0304 0065+0304 0045+0306
  0065+0306 0045+0307 0065+0307 0045+0328 0065+0328 0045+030C 0065+030C 0047+0302 0067+0302
  0047+0306 0067+0306 0047+0307 0067+0307 0047+0327 0067+0327 0048+0302 0068+0302 0128: 0049+0303
  0069+0303 0049+0304 0069+0304 0049+0306 0069+0306 0049+0328 0069+0328 0049+0307 0132: 0049+004A
  0069+006A 004A+0302 006A+0302 004B+0327 006B+0327 0139: 004C+0301 006C+0301 004C+0327 006C+0327
  004C+030C 006C+030C 004C+00B7 006C+00B7 0143: 004E+0301 006E+0301 004E+0327 006E+0327 004E+030C
  006E+030C 02BC+006E 014C: 004F+0304 006F+0304 004F+0306 006F+0306 004F+030B 006F+030B 0154:
  0052+0301 0072+0301 0052+0327 0072+0327 0052+030C 0072+030C 0053+0301 0073+0301 0053+0302
  0073+0302 0053+0327 0073+0327 0053+030C 0073+030C 0054+0327 0074+0327 0054+030C 0074+030C 0168:
  0055+0303 0075+0303 0055+0304 0075+0304 0055+0306 0075+0306 0055+030A 0075+030A 0055+030B
  0075+030B 0055+0328 0075+0328 0057+0302 0077+0302 0059+0302 0079+0302 0059+0308 005A+0301
  007A+0301 005A+0307 007A+0307 005A+030C 007A+030C 0073 01A0: 004F+031B 006F+031B 01AF: 0055+031B
  0075+031B 01C4: 0044+005A+030C 0044+007A+030C 0064+007A+030C 004C+004A 004C+006A 006C+006A
  004E+004A 004E+006A 006E+006A 0041+030C 0061+030C 0049+030C 0069+030C 004F+030C 006F+030C
  0055+030C 0075+030C 0055+0308+0304 0075+0308+0304 0055+0308+0301 0075+0308+0301 0055+0308+030C
  0075+0308+030C 0055+0308+0300 0075+0308+0300 01DE: 0041+0308+0304 0061+0308+0304 0041+0307+0304
  0061+0307+0304 00C6+0304 00E6+0304 01E6: 0047+030C 0067+030C 004B+030C 006B+030C 004F+0328
  006F+0328 004F+0328+0304 006F+0328+0304 01B7+030C 0292+030C 006A+030C 0044+005A 0044+007A
  0064+007A 0047+0301 0067+0301 01F8: 004E+0300 006E+0300 0041+030A+0301 0061+030A+0301 00C6+0301
  00E6+0301 00D8+0301 00F8+0301 0041+030F 0061+030F 0041+0311 0061+0311 0045+030F 0065+030F
  0045+0311 0065+0311 0049+030F 0069+030F 0049+0311 0069+0311 004F+030F 006F+030F 004F+0311
  006F+0311 0052+030F 0072+030F 0052+0311 0072+0311 0055+030F 0075+030F 0055+0311 0075+0311
  0053+0326 0073+0326 0054+0326 0074+0326 021E: 0048+030C 0068+030C 0226: 0041+0307 0061+0307
  0045+0327 0065+0327 004F+0308+0304 006F+0308+0304 004F+0303+0304 006F+0303+0304 004F+0307
  006F+0307 004F+0307+0304 006F+0307+0304 0059+0304 0079+0304 02B0: 0068 0266 006A 0072 0279 027B
  0281 0077 0079 02D8: 0020+0306 0020+0307 0020+030A 0020+0328 0020+0303 0020+030B 02E0: 0263 006C
  0073 0078 0295 0340: 0300-0301 0343: 0313 0308+0301 0374: 02B9 037A: 0020+0345 037E: 003B 0384:
  0020+0301 0020+0308+0301 0391+0301 00B7 0395+0301 0397+0301 0399+0301 038C: 039F+0301 038E:
  03A5+0301 03A9+0301 03B9+0308+0301 03AA: 0399+0308 03A5+0308 03B1+0301 03B5+0301 03B7+0301
  03B9+0301 03C5+0308+0301 03CA: 03B9+0308 03C5+0308 03BF+0301 03C5+0301 03C9+0301 03D0: 03B2 03B8
  03A5 03A5+0301 03A5+0308 03C6 03C0 03F0: 03BA 03C1-03C2 03F4: 0398 03B5 03F9: 03A3 0400:
  0415+0300 0415+0308 0403: 0413+0301 0407: 0406+0308 040C: 041A+0301 0418+0300 0423+0306 0419:
  0418+0306 0439: 0438+0306 0450: 0435+0300 0435+0308 0453: 0433+0301 0457: 0456+0308 045C:
  043A+0301 0438+0300 0443+0306 0476: 0474+030F 0475+030F 04C1: 0416+0306 0436+0306 04D0:
  0410+0306 0430+0306 0410+0308 0430+0308 04D6: 0415+0306 0435+0306 04DA: 04D8+0308 04D9+0308
  0416+0308 0436+0308 0417+0308 0437+0308 04E2: 0418+0304 0438+0304 0418+0308 0438+0308 041E+0308
  043E+0308 04EA: 04E8+0308 04E9+0308 042D+0308 044D+0308 0423+0304 0443+0304 0423+0308 0443+0308
  0423+030B 0443+030B 0427+0308 0447+0308 04F8: 042B+0308 044B+0308 0587: 0565+0582 0622:
  0627+0653 0627+0654 0648+0654 0627+0655 064A+0654 0675: 0627+0674 0648+0674 06C7+0674 064A+0674
  06C0: 06D5+0654 06C2: 06C1+0654 06D3: 06D2+0654 0929: 0928+093C 0931: 0930+093C 0934: 0933+093C
  0958: 0915+093C 0916+093C 0917+093C 091C+093C 0921+093C 0922+093C 092B+093C 092F+093C 09CB:
  09C7+09BE 09C7+09D7 09DC: 09A1+09BC 09A2+09BC 09DF: 09AF+09BC 0A33: 0A32+0A3C 0A36: 0A38+0A3C
  0A59: 0A16+0A3C 0A17+0A3C 0A1C+0A3C 0A5E: 0A2B+0A3C 0B48: 0B47+0B56 0B4B: 0B47+0B3E 0B47+0B57
  0B5C: 0B21+0B3C 0B22+0B3C 0B94: 0B92+0BD7 0BCA: 0BC6+0BBE 0BC7+0BBE 0BC6+0BD7 0C48: 0C46+0C56
  0CC0: 0CBF+0CD5 0CC7: 0CC6+0CD5 0CC6+0CD6 0CCA: 0CC6+0CC2 0CC6+0CC2+0CD5 0D4A: 0D46+0D3E
  0D47+0D3E 0D46+0D57 0DDA: 0DD9+0DCA 0DDC: 0DD9+0DCF 0DD9+0DCF+0DCA 0DD9+0DDF 0E33: 0E4D+0E32
  0EB3: 0ECD+0EB2 0EDC: 0EAB+0E99 0EAB+0EA1 0F0C: 0F0B 0F43: 0F42+0FB7 0F4D: 0F4C+0FB7 0F52:
  0F51+0FB7 0F57: 0F56+0FB7 0F5C: 0F5B+0FB7 0F69: 0F40+0FB5 0F73: 0F71+0F72 0F75: 0F71+0F74
  0FB2+0F80 0FB2+0F71+0F80 0FB3+0F80 0FB3+0F71+0F80 0F81: 0F71+0F80 0F93: 0F92+0FB7 0F9D:
  0F9C+0FB7 0FA2: 0FA1+0FB7 0FA7: 0FA6+0FB7 0FAC: 0FAB+0FB7 0FB9: 0F90+0FB5 1026: 1025+102E 10FC:
  10DC 1B06: 1B05+1B35 1B08: 1B07+1B35 1B0A: 1B09+1B35 1B0C: 1B0B+1B35 1B0E: 1B0D+1B35 1B12:
  1B11+1B35 1B3B: 1B3A+1B35 1B3D: 1B3C+1B35 1B40: 1B3E+1B35 1B3F+1B35 1B43: 1B42+1B35 1D2C: 0041
  00C6 0042 1D30: 0044-0045 018E 0047-004E 1D3C: 004F 0222 0050 0052 0054-0055 0057 0061 0250-0251
  1D02 0062 0064-0065 0259 025B-025C 0067 1D4F: 006B 006D 014B 006F 0254 1D16-1D17 0070 0074-0075
  1D1D 026F 0076 1D25 03B2-03B4 03C6-03C7 0069 0072 0075-0076 03B2-03B3 03C1 03C6-03C7 1D78: 043D
  1D9B: 0252 0063 0255 00F0 025C 0066 025F 0261 0265 0268-026A 1D7B 029D 026D 1D85 029F 0271 0270
  0272-0275 0278 0282-0283 01AB 0289-028A 1D1C 028B-028C 007A 0290-0292 03B8 1E00: 0041+0325
  0061+0325 0042+0307 0062+0307 0042+0323 0062+0323 0042+0331 0062+0331 0043+0327+0301
  0063+0327+0301 0044+0307 0064+0307 0044+0323 0064+0323 0044+0331 0064+0331 0044+0327 0064+0327
  0044+032D 0064+032D 0045+0304+0300 0065+0304+0300 0045+0304+0301 0065+0304+0301 0045+032D
  0065+032D 0045+0330 0065+0330 0045+0327+0306 0065+0327+0306 0046+0307 0066+0307 0047+0304
  0067+0304 0048+0307 0068+0307 0048+0323 0068+0323 0048+0308 0068+0308 0048+0327 0068+0327
  0048+032E 0068+032E 0049+0330 0069+0330 0049+0308+0301 0069+0308+0301 004B+0301 006B+0301
  004B+0323 006B+0323 004B+0331 006B+0331 004C+0323 006C+0323 004C+0323+0304 006C+0323+0304
  004C+0331 006C+0331 004C+032D 006C+032D 004D+0301 006D+0301 004D+0307 006D+0307 004D+0323
  006D+0323 004E+0307 006E+0307 004E+0323 006E+0323 004E+0331 006E+0331 004E+032D 006E+032D
  004F+0303+0301 006F+0303+0301 004F+0303+0308 006F+0303+0308 004F+0304+0300 006F+0304+0300
  004F+0304+0301 006F+0304+0301 0050+0301 0070+0301 0050+0307 0070+0307 0052+0307 0072+0307
  0052+0323 0072+0323 0052+0323+0304 0072+0323+0304 0052+0331 0072+0331 0053+0307 0073+0307
  0053+0323 0073+0323 0053+0301+0307 0073+0301+0307 0053+030C+0307 0073+030C+0307 0053+0323+0307
  0073+0323+0307 0054+0307 0074+0307 0054+0323 0074+0323 0054+0331 0074+0331 0054+032D 0074+032D
  0055+0324 0075+0324 0055+0330 0075+0330 0055+032D 0075+032D 0055+0303+0301 0075+0303+0301
  0055+0304+0308 0075+0304+0308 0056+0303 0076+0303 0056+0323 0076+0323 0057+0300 0077+0300
  0057+0301 0077+0301 0057+0308 0077+0308 0057+0307 0077+0307 0057+0323 0077+0323 0058+0307
  0078+0307 0058+0308 0078+0308 0059+0307 0079+0307 005A+0302 007A+0302 005A+0323 007A+0323
  005A+0331 007A+0331 0068+0331 0074+0308 0077+030A 0079+030A 0061+02BE 0073+0307 1EA0: 0041+0323
  0061+0323 0041+0309 0061+0309 0041+0302+0301 0061+0302+0301 0041+0302+0300 0061+0302+0300
  0041+0302+0309 0061+0302+0309 0041+0302+0303 0061+0302+0303 0041+0323+0302 0061+0323+0302
  0041+0306+0301 0061+0306+0301 0041+0306+0300 0061+0306+0300 0041+0306+0309 0061+0306+0309
  0041+0306+0303 0061+0306+0303 0041+0323+0306 0061+0323+0306 0045+0323 0065+0323 0045+0309
  0065+0309 0045+0303 0065+0303 0045+0302+0301 0065+0302+0301 0045+0302+0300 0065+0302+0300
  0045+0302+0309 0065+0302+0309 0045+0302+0303 0065+0302+0303 0045+0323+0302 0065+0323+0302
  0049+0309 0069+0309 0049+0323 0069+0323 004F+0323 006F+0323 004F+0309 006F+0309 004F+0302+0301
  006F+0302+0301 004F+0302+0300 006F+0302+0300 004F+0302+0309 006F+0302+0309 004F+0302+0303
  006F+0302+0303 004F+0323+0302 006F+0323+0302 004F+031B+0301 006F+031B+0301 004F+031B+0300
  006F+031B+0300 004F+031B+0309 006F+031B+0309 004F+031B+0303 006F+031B+0303 004F+031B+0323
  006F+031B+0323 0055+0323 0075+0323 0055+0309 0075+0309 0055+031B+0301 0075+031B+0301
  0055+031B+0300 0075+031B+0300 0055+031B+0309 0075+031B+0309 0055+031B+0303 0075+031B+0303
  0055+031B+0323 0075+031B+0323 0059+0300 0079+0300 0059+0323 0079+0323 0059+0309 0079+0309
  0059+0303 0079+0303 1F00: 03B1+0313 03B1+0314 03B1+0313+0300 03B1+0314+0300 03B1+0313+0301
  03B1+0314+0301 03B1+0313+0342 03B1+0314+0342 0391+0313 0391+0314 0391+0313+0300 0391+0314+0300
  0391+0313+0301 0391+0314+0301 0391+0313+0342 0391+0314+0342 03B5+0313 03B5+0314 03B5+0313+0300
  03B5+0314+0300 03B5+0313+0301 03B5+0314+0301 1F18: 0395+0313 0395+0314 0395+0313+0300
  0395+0314+0300 0395+0313+0301 0395+0314+0301 1F20: 03B7+0313 03B7+0314 03B7+0313+0300
  03B7+0314+0300 03B7+0313+0301 03B7+0314+0301 03B7+0313+0342 03B7+0314+0342 0397+0313 0397+0314
  0397+0313+0300 0397+0314+0300 0397+0313+0301 0397+0314+0301 0397+0313+0342 0397+0314+0342
  03B9+0313 03B9+0314 03B9+0313+0300 03B9+0314+0300 03B9+0313+0301 03B9+0314+0301 03B9+0313+0342
  03B9+0314+0342 0399+0313 0399+0314 0399+0313+0300 0399+0314+0300 0399+0313+0301 0399+0314+0301
  0399+0313+0342 0399+0314+0342 03BF+0313 03BF+0314 03BF+0313+0300 03BF+0314+0300 03BF+0313+0301
  03BF+0314+0301 1F48: 039F+0313 039F+0314 039F+0313+0300 039F+0314+0300 039F+0313+0301
  039F+0314+0301 1F50: 03C5+0313 03C5+0314 03C5+0313+0300 03C5+0314+0300 03C5+0313+0301
  03C5+0314+0301 03C5+0313+0342 03C5+0314+0342 1F59: 03A5+0314 1F5B: 03A5+0314+0300 1F5D:
  03A5+0314+0301 1F5F: 03A5+0314+0342 03C9+0313 03C9+0314 03C9+0313+0300 03C9+0314+0300
  03C9+0313+0301 03C9+0314+0301 03C9+0313+0342 03C9+0314+0342 03A9+0313 03A9+0314 03A9+0313+0300
  03A9+0314+0300 03A9+0313+0301 03A9+0314+0301 03A9+0313+0342 03A9+0314+0342 03B1+0300 03B1+0301
  03B5+0300 03B5+0301 03B7+0300 03B7+0301 03B9+0300 03B9+0301 03BF+0300 03BF+0301 03C5+0300
  03C5+0301 03C9+0300 03C9+0301 1F80: 03B1+0313+0345 03B1+0314+0345 03B1+0313+0300+0345
  03B1+0314+0300+0345 03B1+0313+0301+0345 03B1+0314+0301+0345 03B1+0313+0342+0345
  03B1+0314+0342+0345 0391+0313+0345 0391+0314+0345 0391+0313+0300+0345 0391+0314+0300+0345
  0391+0313+0301+0345 0391+0314+0301+0345 0391+0313+0342+0345 0391+0314+0342+0345 03B7+0313+0345
  03B7+0314+0345 03B7+0313+0300+0345 03B7+0314+0300+0345 03B7+0313+0301+0345 03B7+0314+0301+0345
  03B7+0313+0342+0345 03B7+0314+0342+0345 0397+0313+0345 0397+0314+0345 0397+0313+0300+0345
  0397+0314+0300+0345 0397+0313+0301+0345 0397+0314+0301+0345 0397+0313+0342+0345
  0397+0314+0342+0345 03C9+0313+0345 03C9+0314+0345 03C9+0313+0300+0345 03C9+0314+0300+0345
  03C9+0313+0301+0345 03C9+0314+0301+0345 03C9+0313+0342+0345 03C9+0314+0342+0345 03A9+0313+0345
  03A9+0314+0345 03A9+0313+0300+0345 03A9+0314+0300+0345 03A9+0313+0301+0345 03A9+0314+0301+0345
  03A9+0313+0342+0345 03A9+0314+0342+0345 03B1+0306 03B1+0304 03B1+0300+0345 03B1+0345
  03B1+0301+0345 1FB6: 03B1+0342 03B1+0342+0345 0391+0306 0391+0304 0391+0300 0391+0301 0391+0345
  0020+0313 03B9 0020+0313 0020+0342 0020+0308+0342 03B7+0300+0345 03B7+0345 03B7+0301+0345 1FC6:
  03B7+0342 03B7+0342+0345 0395+0300 0395+0301 0397+0300 0397+0301 0397+0345 0020+0313+0300
  0020+0313+0301 0020+0313+0342 03B9+0306 03B9+0304 03B9+0308+0300 03B9+0308+0301 1FD6: 03B9+0342
  03B9+0308+0342 0399+0306 0399+0304 0399+0300 0399+0301 1FDD: 0020+0314+0300 0020+0314+0301
  0020+0314+0342 03C5+0306 03C5+0304 03C5+0308+0300 03C5+0308+0301 03C1+0313 03C1+0314 03C5+0342
  03C5+0308+0342 03A5+0306 03A5+0304 03A5+0300 03A5+0301 03A1+0314 0020+0308+0300 0020+0308+0301
  0060 1FF2: 03C9+0300+0345 03C9+0345 03C9+0301+0345 1FF6: 03C9+0342 03C9+0342+0345 039F+0300
  039F+0301 03A9+0300 03A9+0301 03A9+0345 0020+0301 0020+0314 2000: 0020 0020 0020 0020 0020 0020
  0020 0020 0020 0020 0020 2011: 2010 2017: 0020+0333 2024: 002E 002E+002E 002E+002E+002E 202F:
  0020 2033: 2032+2032 2032+2032+2032 2036: 2035+2035 2035+2035+2035 203C: 0021+0021 203E:
  0020+0305 2047: 003F+003F 003F+0021 0021+003F 2057: 2032+2032+2032+2032 205F: 0020 2070: 0030
  0069 2074: 0034-0039 002B 2212 003D 0028-0029 006E 0030-0039 002B 2212 003D 0028-0029 2090: 0061
  0065 006F 0078 0259 0068 006B-006E 0070 0073-0074 20A8: 0052+0073 2100: 0061+002F+0063
  0061+002F+0073 0043 00B0+0043 2105: 0063+002F+006F 0063+002F+0075 0190 2109: 00B0+0046 0067 0048
  0048 0048 0068 0127 0049 0049 004C 006C 2115: 004E 004E+006F 2119: 0050-0052 0052 0052 2120:
  0053+004D 0054+0045+004C 0054+004D 2124: 005A 2126: 03A9 2128: 005A 212A: 004B 0041+030A
  0042-0043 212F: 0065 0045-0046 2133: 004D 006F 05D0-05D3 0069 213B: 0046+0041+0058 03C0 03B3
  0393 03A0 2211 2145: 0044 0064-0065 0069-006A 2150: 0031+2044+0037 0031+2044+0039
  0031+2044+0031+0030 0031+2044+0033 0032+2044+0033 0031+2044+0035 0032+2044+0035 0033+2044+0035
  0034+2044+0035 0031+2044+0036 0035+2044+0036 0031+2044+0038 0033+2044+0038 0035+2044+0038
  0037+2044+0038 0031+2044 0049 0049+0049 0049+0049+0049 0049+0056 0056 0056+0049 0056+0049+0049
  0056+0049+0049+0049 0049+0058 0058 0058+0049 0058+0049+0049 004C 0043-0044 004D 0069 0069+0069
  0069+0069+0069 0069+0076 0076 0076+0069 0076+0069+0069 0076+0069+0069+0069 0069+0078 0078
  0078+0069 0078+0069+0069 006C 0063-0064 006D 2189: 0030+2044+0033 219A: 2190+0338 2192+0338
  21AE: 2194+0338 21CD: 21D0+0338 21D4+0338 21D2+0338 2204: 2203+0338 2209: 2208+0338 220C:
  220B+0338 2224: 2223+0338 2226: 2225+0338 222C: 222B+222B 222B+222B+222B 222F: 222E+222E
  222E+222E+222E 2241: 223C+0338 2244: 2243+0338 2247: 2245+0338 2249: 2248+0338 2260: 003D+0338
  2262: 2261+0338 226D: 224D+0338 003C+0338 003E+0338 2264+0338 2265+0338 2274: 2272+0338
  2273+0338 2278: 2276+0338 2277+0338 2280: 227A+0338 227B+0338 2284: 2282+0338 2283+0338 2288:
  2286+0338 2287+0338 22AC: 22A2+0338 22A8+0338 22A9+0338 22AB+0338 22E0: 227C+0338 227D+0338
  2291+0338 2292+0338 22EA: 22B2+0338 22B3+0338 22B4+0338 22B5+0338 2329: 3008-3009 2460:
  0031-0039 0031+0030 0031+0031 0031+0032 0031+0033 0031+0034 0031+0035 0031+0036 0031+0037
  0031+0038 0031+0039 0032+0030 0028+0031+0029 0028+0032+0029 0028+0033+0029 0028+0034+0029
  0028+0035+0029 0028+0036+0029 0028+0037+0029 0028+0038+0029 0028+0039+0029 0028+0031+0030+0029
  0028+0031+0031+0029 0028+0031+0032+0029 0028+0031+0033+0029 0028+0031+0034+0029
  0028+0031+0035+0029 0028+0031+0036+0029 0028+0031+0037+0029 0028+0031+0038+0029
  0028+0031+0039+0029 0028+0032+0030+0029 0031+002E 0032+002E 0033+002E 0034+002E 0035+002E
  0036+002E 0037+002E 0038+002E 0039+002E 0031+0030+002E 0031+0031+002E 0031+0032+002E
  0031+0033+002E 0031+0034+002E 0031+0035+002E 0031+0036+002E 0031+0037+002E 0031+0038+002E
  0031+0039+002E 0032+0030+002E 0028+0061+0029 0028+0062+0029 0028+0063+0029 0028+0064+0029
  0028+0065+0029 0028+0066+0029 0028+0067+0029 0028+0068+0029 0028+0069+0029 0028+006A+0029
  0028+006B+0029 0028+006C+0029 0028+006D+0029 0028+006E+0029 0028+006F+0029 0028+0070+0029
  0028+0071+0029 0028+0072+0029 0028+0073+0029 0028+0074+0029 0028+0075+0029 0028+0076+0029
  0028+0077+0029 0028+0078+0029 0028+0079+0029 0028+007A+0029 0041-005A 0061-007A 0030 2A0C:
  222B+222B+222B+222B 2A74: 003A+003A+003D 003D+003D 003D+003D+003D 2ADC: 2ADD+0338 2C7C: 006A
  0056 2D6F: 2D61 2E9F: 6BCD 2EF3: 9F9F 2F00: 4E00 4E28 4E36 4E3F 4E59 4E85 4E8C 4EA0 4EBA 513F
  5165 516B 5182 5196 51AB 51E0 51F5 5200 529B 52F9 5315 531A 5338 5341 535C 5369 5382 53B6 53C8
  53E3 56D7 571F 58EB 5902 590A 5915 5927 5973 5B50 5B80 5BF8 5C0F 5C22 5C38 5C6E 5C71 5DDB 5DE5
  5DF1 5DFE 5E72 5E7A 5E7F 5EF4 5EFE 5F0B 5F13 5F50 5F61 5F73 5FC3 6208 6236 624B 652F 6534 6587
  6597 65A4 65B9 65E0 65E5 66F0 6708 6728 6B20 6B62 6B79 6BB3 6BCB 6BD4 6BDB 6C0F 6C14 6C34 706B
  722A 7236 723B 723F 7247 7259 725B 72AC 7384 7389 74DC 74E6 7518 751F 7528 7530 758B 7592 7676
  767D 76AE 76BF 76EE 77DB 77E2 77F3 793A 79B8 79BE 7A74 7ACB 7AF9 7C73 7CF8 7F36 7F51 7F8A 7FBD
  8001 800C 8012 8033 807F 8089 81E3 81EA 81F3 81FC 820C 821B 821F 826E 8272 8278 864D 866B 8840
  884C 8863 897E 898B 89D2 8A00 8C37 8C46 8C55 8C78 8C9D 8D64 8D70 8DB3 8EAB 8ECA 8F9B 8FB0 8FB5
  9091 9149 91C6 91CC 91D1 9577 9580 961C 96B6 96B9 96E8 9751 975E 9762 9769 97CB 97ED 97F3 9801
  98A8 98DB 98DF 9996 9999 99AC 9AA8 9AD8 9ADF 9B25 9B2F 9B32 9B3C 9B5A 9CE5 9E75 9E7F 9EA5 9EBB
  9EC3 9ECD 9ED1 9EF9 9EFD 9F0E 9F13 9F20 9F3B 9F4A 9F52 9F8D 9F9C 9FA0 3000: 0020 3036: 3012
  3038: 5341 5344-5345 304C: 304B+3099 304E: 304D+3099 3050: 304F+3099 3052: 3051+3099 3054:
  3053+3099 3056: 3055+3099 3058: 3057+3099 305A: 3059+3099 305C: 305B+3099 305E: 305D+3099 3060:
  305F+3099 3062: 3061+3099 3065: 3064+3099 3067: 3066+3099 3069: 3068+3099 3070: 306F+3099
  306F+309A 3073: 3072+3099 3072+309A 3076: 3075+3099 3075+309A 3079: 3078+3099 3078+309A 307C:
  307B+3099 307B+309A 3094: 3046+3099 309B: 0020+3099 0020+309A 309E: 309D+3099 3088+308A 30AC:
  30AB+3099 30AE: 30AD+3099 30B0: 30AF+3099 30B2: 30B1+3099 30B4: 30B3+3099 30B6: 30B5+3099 30B8:
  30B7+3099 30BA: 30B9+3099 30BC: 30BB+3099 30BE: 30BD+3099 30C0: 30BF+3099 30C2: 30C1+3099 30C5:
  30C4+3099 30C7: 30C6+3099 30C9: 30C8+3099 30D0: 30CF+3099 30CF+309A 30D3: 30D2+3099 30D2+309A
  30D6: 30D5+3099 30D5+309A 30D9: 30D8+3099 30D8+309A 30DC: 30DB+3099 30DB+309A 30F4: 30A6+3099
  30F7: 30EF+3099 30F0+3099 30F1+3099 30F2+3099 30FE: 30FD+3099 30B3+30C8 3131: 1100-1101 11AA
  1102 11AC-11AD 1103-1105 11B0-11B5 111A 1106-1108 1121 1109-1112 1161-1175 1160 1114-1115
  11C7-11C8 11CC 11CE 11D3 11D7 11D9 111C 11DD 11DF 111D-111E 1120 1122-1123 1127 1129 112B-112F
  1132 1136 1140 1147 114C 11F1-11F2 1157-1159 1184-1185 1188 1191-1192 1194 119E 11A1 3192: 4E00
  4E8C 4E09 56DB 4E0A 4E2D 4E0B 7532 4E59 4E19 4E01 5929 5730 4EBA 3200: 0028+1100+0029
  0028+1102+0029 0028+1103+0029 0028+1105+0029 0028+1106+0029 0028+1107+0029 0028+1109+0029
  0028+110B+0029 0028+110C+0029 0028+110E+0029 0028+110F+0029 0028+1110+0029 0028+1111+0029
  0028+1112+0029 0028+1100+1161+0029 0028+1102+1161+0029 0028+1103+1161+0029 0028+1105+1161+0029
  0028+1106+1161+0029 0028+1107+1161+0029 0028+1109+1161+0029 0028+110B+1161+0029
  0028+110C+1161+0029 0028+110E+1161+0029 0028+110F+1161+0029 0028+1110+1161+0029
  0028+1111+1161+0029 0028+1112+1161+0029 0028+110C+116E+0029 0028+110B+1169+110C+1165+11AB+0029
  0028+110B+1169+1112+116E+0029 3220: 0028+4E00+0029 0028+4E8C+0029 0028+4E09+0029 0028+56DB+0029
  0028+4E94+0029 0028+516D+0029 0028+4E03+0029 0028+516B+0029 0028+4E5D+0029 0028+5341+0029
  0028+6708+0029 0028+706B+0029 0028+6C34+0029 0028+6728+0029 0028+91D1+0029 0028+571F+0029
  0028+65E5+0029 0028+682A+0029 0028+6709+0029 0028+793E+0029 0028+540D+0029 0028+7279+0029
  0028+8CA1+0029 0028+795D+0029 0028+52B4+0029 0028+4EE3+0029 0028+547C+0029 0028+5B66+0029
  0028+76E3+0029 0028+4F01+0029 0028+8CC7+0029 0028+5354+0029 0028+796D+0029 0028+4F11+0029
  0028+81EA+0029 0028+81F3+0029 554F 5E7C 6587 7B8F 3250: 0050+0054+0045 0032+0031 0032+0032
  0032+0033 0032+0034 0032+0035 0032+0036 0032+0037 0032+0038 0032+0039 0033+0030 0033+0031
  0033+0032 0033+0033 0033+0034 0033+0035 1100 1102-1103 1105-1107 1109 110B-110C 110E-1112
  1100+1161 1102+1161 1103+1161 1105+1161 1106+1161 1107+1161 1109+1161 110B+1161 110C+1161
  110E+1161 110F+1161 1110+1161 1111+1161 1112+1161 110E+1161+11B7+1100+1169 110C+116E+110B+1174
  110B+116E 3280: 4E00 4E8C 4E09 56DB 4E94 516D 4E03 516B 4E5D 5341 6708 706B 6C34 6728 91D1 571F
  65E5 682A 6709 793E 540D 7279 8CA1 795D 52B4 79D8 7537 5973 9069 512A 5370 6CE8 9805 4F11 5199
  6B63 4E0A 4E2D 4E0B 5DE6 53F3 533B 5B97 5B66 76E3 4F01 8CC7 5354 591C 0033+0036 0033+0037
  0033+0038 0033+0039 0034+0030 0034+0031 0034+0032 0034+0033 0034+0034 0034+0035 0034+0036
  0034+0037 0034+0038 0034+0039 0035+0030 0031+6708 0032+6708 0033+6708 0034+6708 0035+6708
  0036+6708 0037+6708 0038+6708 0039+6708 0031+0030+6708 0031+0031+6708 0031+0032+6708 0048+0067
  0065+0072+0067 0065+0056 004C+0054+0044 30A2 30A4 30A6 30A8 30AA-30AB 30AD 30AF 30B1 30B3 30B5
  30B7 30B9 30BB 30BD 30BF 30C1 30C4 30C6 30C8 30CA-30CF 30D2 30D5 30D8 30DB 30DE-30E2 30E4 30E6
  30E8-30ED 30EF-30F2 4EE4+548C 30A2+30CF+309A+30FC+30C8 30A2+30EB+30D5+30A1
  30A2+30F3+30D8+309A+30A2 30A2+30FC+30EB 30A4+30CB+30F3+30AF+3099 30A4+30F3+30C1 30A6+30A9+30F3
  30A8+30B9+30AF+30FC+30C8+3099 30A8+30FC+30AB+30FC 30AA+30F3+30B9 30AA+30FC+30E0 30AB+30A4+30EA
  30AB+30E9+30C3+30C8 30AB+30ED+30EA+30FC 30AB+3099+30ED+30F3 30AB+3099+30F3+30DE
  30AD+3099+30AB+3099 30AD+3099+30CB+30FC 30AD+30E5+30EA+30FC 30AD+3099+30EB+30BF+3099+30FC
  30AD+30ED 30AD+30ED+30AF+3099+30E9+30E0 30AD+30ED+30E1+30FC+30C8+30EB 30AD+30ED+30EF+30C3+30C8
  30AF+3099+30E9+30E0 30AF+3099+30E9+30E0+30C8+30F3 30AF+30EB+30BB+3099+30A4+30ED
  30AF+30ED+30FC+30CD 30B1+30FC+30B9 30B3+30EB+30CA 30B3+30FC+30DB+309A 30B5+30A4+30AF+30EB
  30B5+30F3+30C1+30FC+30E0 30B7+30EA+30F3+30AF+3099 30BB+30F3+30C1 30BB+30F3+30C8
  30BF+3099+30FC+30B9 30C6+3099+30B7 30C8+3099+30EB 30C8+30F3 30CA+30CE 30CE+30C3+30C8
  30CF+30A4+30C4 30CF+309A+30FC+30BB+30F3+30C8 30CF+309A+30FC+30C4 30CF+3099+30FC+30EC+30EB
  30D2+309A+30A2+30B9+30C8+30EB 30D2+309A+30AF+30EB 30D2+309A+30B3 30D2+3099+30EB
  30D5+30A1+30E9+30C3+30C8+3099 30D5+30A3+30FC+30C8 30D5+3099+30C3+30B7+30A7+30EB 30D5+30E9+30F3
  30D8+30AF+30BF+30FC+30EB 30D8+309A+30BD 30D8+309A+30CB+30D2 30D8+30EB+30C4 30D8+309A+30F3+30B9
  30D8+309A+30FC+30B7+3099 30D8+3099+30FC+30BF 30DB+309A+30A4+30F3+30C8 30DB+3099+30EB+30C8
  30DB+30F3 30DB+309A+30F3+30C8+3099 30DB+30FC+30EB 30DB+30FC+30F3 30DE+30A4+30AF+30ED
  30DE+30A4+30EB 30DE+30C3+30CF 30DE+30EB+30AF 30DE+30F3+30B7+30E7+30F3 30DF+30AF+30ED+30F3
  30DF+30EA 30DF+30EA+30CF+3099+30FC+30EB 30E1+30AB+3099 30E1+30AB+3099+30C8+30F3
  30E1+30FC+30C8+30EB 30E4+30FC+30C8+3099 30E4+30FC+30EB 30E6+30A2+30F3 30EA+30C3+30C8+30EB
  30EA+30E9 30EB+30D2+309A+30FC 30EB+30FC+30D5+3099+30EB 30EC+30E0 30EC+30F3+30C8+30B1+3099+30F3
  30EF+30C3+30C8 0030+70B9 0031+70B9 0032+70B9 0033+70B9 0034+70B9 0035+70B9 0036+70B9 0037+70B9
  0038+70B9 0039+70B9 0031+0030+70B9 0031+0031+70B9 0031+0032+70B9 0031+0033+70B9 0031+0034+70B9
  0031+0035+70B9 0031+0036+70B9 0031+0037+70B9 0031+0038+70B9 0031+0039+70B9 0032+0030+70B9
  0032+0031+70B9 0032+0032+70B9 0032+0033+70B9 0032+0034+70B9 0068+0050+0061 0064+0061 0041+0055
  0062+0061+0072 006F+0056 0070+0063 0064+006D 0064+006D+0032 0064+006D+0033 0049+0055 5E73+6210
  662D+548C 5927+6B63 660E+6CBB 682A+5F0F+4F1A+793E 0070+0041 006E+0041 03BC+0041 006D+0041
  006B+0041 004B+0042 004D+0042 0047+0042 0063+0061+006C 006B+0063+0061+006C 0070+0046 006E+0046
  03BC+0046 03BC+0067 006D+0067 006B+0067 0048+007A 006B+0048+007A 004D+0048+007A 0047+0048+007A
  0054+0048+007A 03BC+006C 006D+006C 0064+006C 006B+006C 0066+006D 006E+006D 03BC+006D 006D+006D
  0063+006D 006B+006D 006D+006D+0032 0063+006D+0032 006D+0032 006B+006D+0032 006D+006D+0033
  0063+006D+0033 006D+0033 006B+006D+0033 006D+2215+0073 006D+2215+0073+0032 0050+0061
  006B+0050+0061 004D+0050+0061 0047+0050+0061 0072+0061+0064 0072+0061+0064+2215+0073
  0072+0061+0064+2215+0073+0032 0070+0073 006E+0073 03BC+0073 006D+0073 0070+0056 006E+0056
  03BC+0056 006D+0056 006B+0056 004D+0056 0070+0057 006E+0057 03BC+0057 006D+0057 006B+0057
  004D+0057 006B+03A9 004D+03A9 0061+002E+006D+002E 0042+0071 0063+0063 0063+0064
  0043+2215+006B+0067 0043+006F+002E 0064+0042 0047+0079 0068+0061 0048+0050 0069+006E 004B+004B
  004B+004D 006B+0074 006C+006D 006C+006E 006C+006F+0067 006C+0078 006D+0062 006D+0069+006C
  006D+006F+006C 0050+0048 0070+002E+006D+002E 0050+0050+004D 0050+0052 0073+0072 0053+0076
  0057+0062 0056+2215+006D 0041+2215+006D 0031+65E5 0032+65E5 0033+65E5 0034+65E5 0035+65E5
  0036+65E5 0037+65E5 0038+65E5 0039+65E5 0031+0030+65E5 0031+0031+65E5 0031+0032+65E5
  0031+0033+65E5 0031+0034+65E5 0031+0035+65E5 0031+0036+65E5 0031+0037+65E5 0031+0038+65E5
  0031+0039+65E5 0032+0030+65E5 0032+0031+65E5 0032+0032+65E5 0032+0033+65E5 0032+0034+65E5
  0032+0035+65E5 0032+0036+65E5 0032+0037+65E5 0032+0038+65E5 0032+0039+65E5 0033+0030+65E5
  0033+0031+65E5 0067+0061+006C A69C: 044A 044C A770: A76F A7F2: 0043 0046 0051 A7F8: 0126 0153
  AB5C: A727 AB37 026B AB52 AB69: 028D F900: 8C48 66F4 8ECA 8CC8 6ED1 4E32 53E5 9F9C 9F9C 5951
  91D1 5587 5948 61F6 7669 7F85 863F 87BA 88F8 908F 6A02 6D1B 70D9 73DE 843D 916A 99F1 4E82 5375
  6B04 721B 862D 9E1E 5D50 6FEB 85CD 8964 62C9 81D8 881F 5ECA 6717 6D6A 72FC 90CE 4F86 51B7 52DE
  64C4 6AD3 7210 76E7 8001 8606 865C 8DEF 9732 9B6F 9DFA 788C 797F 7DA0 83C9 9304 9E7F 8AD6 58DF
  5F04 7C60 807E 7262 78CA 8CC2 96F7 58D8 5C62 6A13 6DDA 6F0F 7D2F 7E37 964B 52D2 808B 51DC 51CC
  7A1C 7DBE 83F1 9675 8B80 62CF 6A02 8AFE 4E39 5BE7 6012 7387 7570 5317 78FB 4FBF 5FA9 4E0D 6CCC
  6578 7D22 53C3 585E 7701 8449 8AAA 6BBA 8FB0 6C88 62FE 82E5 63A0 7565 4EAE 5169 51C9 6881 7CE7
  826F 8AD2 91CF 52F5 5442 5973 5EEC 65C5 6FFE 792A 95AD 9A6A 9E97 9ECE 529B 66C6 6B77 8F62 5E74
  6190 6200 649A 6F23 7149 7489 79CA 7DF4 806F 8F26 84EE 9023 934A 5217 52A3 54BD 70C8 88C2 8AAA
  5EC9 5FF5 637B 6BAE 7C3E 7375 4EE4 56F9 5BE7 5DBA 601C 73B2 7469 7F9A 8046 9234 96F6 9748 9818
  4F8B 79AE 91B4 96B8 60E1 4E86 50DA 5BEE 5C3F 6599 6A02 71CE 7642 84FC 907C 9F8D 6688 962E 5289
  677B 67F3 6D41 6E9C 7409 7559 786B 7D10 985E 516D 622E 9678 502B 5D19 6DEA 8F2A 5F8B 6144 6817
  7387 9686 5229 540F 5C65 6613 674E 68A8 6CE5 7406 75E2 7F79 88CF 88E1 91CC 96E2 533F 6EBA 541D
  71D0 7498 85FA 96A3 9C57 9E9F 6797 6DCB 81E8 7ACB 7B20 7C92 72C0 7099 8B58 4EC0 8336 523A 5207
  5EA6 62D3 7CD6 5B85 6D1E 66B4 8F3B 884C 964D 898B 5ED3 5140 55C0 FA10: 585A FA12: 6674 FA15:
  51DE 732A 76CA 793C 795E 7965 798F 9756 7CBE 7FBD FA20: 8612 FA22: 8AF8 FA25: 9038 90FD FA2A:
  98EF 98FC 9928 9DB4 90DE 96B7 4FAE 50E7 514D 52C9 52E4 5351 559D 5606 5668 5840 58A8 5C64 5C6E
  6094 6168 618E 61F2 654F 65E2 6691 6885 6D77 6E1A 6F22 716E 722B 7422 7891 793E 7949 7948 7950
  7956 795D 798D-798E 7A40 7A81 7BC0 7DF4 7E09 7E41 7F72 8005 81ED 8279 8279 8457 8910 8996 8B01
  8B39 8CD3 8D08 8FB6 9038 96E3 97FF 983B 6075 242EE 8218 FA70: 4E26 51B5 5168 4F80 5145 5180 52C7
  52FA 559D 5555 5599 55E2 585A 58B3 5944 5954 5A62 5B28 5ED2 5ED9 5F69 5FAD 60D8 614E 6108 618E
  6160 61F2 6234 63C4 641C 6452 6556 6674 6717 671B 6756 6B79 6BBA 6D41 6EDB 6ECB 6F22 701E 716E
  77A7 7235 72AF 732A 7471 7506 753B 761D 761F 76CA 76DB 76F4 774A 7740 78CC 7AB1 7BC0 7C7B 7D5B
  7DF4 7F3E 8005 8352 83EF 8779 8941 8986 8996 8ABF 8AF8 8ACB 8B01 8AFE 8AED 8B39 8B8A 8D08 8F38
  9072 9199 9276 967C 96E3 9756 97DB 97FF 980B 983B 9B12 9F9C 2284A 22844 233D5 3B9D 4018 4039
  25249 25CD0 27ED3 9F43 9F8E FB00: 0066+0066 0066+0069 0066+006C 0066+0066+0069 0066+0066+006C
  0073+0074 0073+0074 FB13: 0574+0576 0574+0565 0574+056B 057E+0576 0574+056D FB1D: 05D9+05B4
  FB1F: 05F2+05B7 05E2 05D0 05D3-05D4 05DB-05DD 05E8 05EA 002B 05E9+05C1 05E9+05C2 05E9+05BC+05C1
  05E9+05BC+05C2 05D0+05B7 05D0+05B8 05D0+05BC 05D1+05BC 05D2+05BC 05D3+05BC 05D4+05BC 05D5+05BC
  05D6+05BC FB38: 05D8+05BC 05D9+05BC 05DA+05BC 05DB+05BC 05DC+05BC FB3E: 05DE+05BC FB40:
  05E0+05BC 05E1+05BC FB43: 05E3+05BC 05E4+05BC FB46: 05E6+05BC 05E7+05BC 05E8+05BC 05E9+05BC
  05EA+05BC 05D5+05B9 05D1+05BF 05DB+05BF 05E4+05BF 05D0+05DC 0671 0671 067B 067B 067B 067B 067E
  067E 067E 067E 0680 0680 0680 0680 067A 067A 067A 067A 067F 067F 067F 067F 0679 0679 0679 0679
  06A4 06A4 06A4 06A4 06A6 06A6 06A6 06A6 0684 0684 0684 0684 0683 0683 0683 0683 0686 0686 0686
  0686-0687 0687 0687 0687 068D 068D 068C 068C 068E 068E 0688 0688 0698 0698 0691 0691 06A9 06A9
  06A9 06A9 06AF 06AF 06AF 06AF 06B3 06B3 06B3 06B3 06B1 06B1 06B1 06B1 06BA 06BA-06BB 06BB 06BB
  06BB 06D5+0654 06D5+0654 06C1 06C1 06C1 06C1 06BE 06BE 06BE 06BE 06D2 06D2 06D2+0654 06D2+0654
  FBD3: 06AD 06AD 06AD 06AD 06C7 06C7 06C6 06C6 06C8 06C8 06C7+0674 06CB 06CB 06C5 06C5 06C9 06C9
  06D0 06D0 06D0 06D0 0649 0649 064A+0654+0627 064A+0654+0627 064A+0654+06D5 064A+0654+06D5
  064A+0654+0648 064A+0654+0648 064A+0654+06C7 064A+0654+06C7 064A+0654+06C6 064A+0654+06C6
  064A+0654+06C8 064A+0654+06C8 064A+0654+06D0 064A+0654+06D0 064A+0654+06D0 064A+0654+0649
  064A+0654+0649 064A+0654+0649 06CC 06CC 06CC 06CC 064A+0654+062C 064A+0654+062D 064A+0654+0645
  064A+0654+0649 064A+0654+064A 0628+062C 0628+062D 0628+062E 0628+0645 0628+0649 0628+064A
  062A+062C 062A+062D 062A+062E 062A+0645 062A+0649 062A+064A 062B+062C 062B+0645 062B+0649
  062B+064A 062C+062D 062C+0645 062D+062C 062D+0645 062E+062C 062E+062D 062E+0645 0633+062C
  0633+062D 0633+062E 0633+0645 0635+062D 0635+0645 0636+062C 0636+062D 0636+062E 0636+0645
  0637+062D 0637+0645 0638+0645 0639+062C 0639+0645 063A+062C 063A+0645 0641+062C 0641+062D
  0641+062E 0641+0645 0641+0649 0641+064A 0642+062D 0642+0645 0642+0649 0642+064A 0643+0627
  0643+062C 0643+062D 0643+062E 0643+0644 0643+0645 0643+0649 0643+064A 0644+062C 0644+062D
  0644+062E 0644+0645 0644+0649 0644+064A 0645+062C 0645+062D 0645+062E 0645+0645 0645+0649
  0645+064A 0646+062C 0646+062D 0646+062E 0646+0645 0646+0649 0646+064A 0647+062C 0647+0645
  0647+0649 0647+064A 064A+062C 064A+062D 064A+062E 064A+0645 064A+0649 064A+064A 0630+0670
  0631+0670 0649+0670 0020+064C+0651 0020+064D+0651 0020+064E+0651 0020+064F+0651 0020+0650+0651
  0020+0651+0670 064A+0654+0631 064A+0654+0632 064A+0654+0645 064A+0654+0646 064A+0654+0649
  064A+0654+064A 0628+0631 0628+0632 0628+0645 0628+0646 0628+0649 0628+064A 062A+0631 062A+0632
  062A+0645 062A+0646 062A+0649 062A+064A 062B+0631 062B+0632 062B+0645 062B+0646 062B+0649
  062B+064A 0641+0649 0641+064A 0642+0649 0642+064A 0643+0627 0643+0644 0643+0645 0643+0649
  0643+064A 0644+0645 0644+0649 0644+064A 0645+0627 0645+0645 0646+0631 0646+0632 0646+0645
  0646+0646 0646+0649 0646+064A 0649+0670 064A+0631 064A+0632 064A+0645 064A+0646 064A+0649
  064A+064A 064A+0654+062C 064A+0654+062D 064A+0654+062E 064A+0654+0645 064A+0654+0647 0628+062C
  0628+062D 0628+062E 0628+0645 0628+0647 062A+062C 062A+062D 062A+062E 062A+0645 062A+0647
  062B+0645 062C+062D 062C+0645 062D+062C 062D+0645 062E+062C 062E+0645 0633+062C 0633+062D
  0633+062E 0633+0645 0635+062D 0635+062E 0635+0645 0636+062C 0636+062D 0636+062E 0636+0645
  0637+062D 0638+0645 0639+062C 0639+0645 063A+062C 063A+0645 0641+062C 0641+062D 0641+062E
  0641+0645 0642+062D 0642+0645 0643+062C 0643+062D 0643+062E 0643+0644 0643+0645 0644+062C
  0644+062D 0644+062E 0644+0645 0644+0647 0645+062C 0645+062D 0645+062E 0645+0645 0646+062C
  0646+062D 0646+062E 0646+0645 0646+0647 0647+062C 0647+0645 0647+0670 064A+062C 064A+062D
  064A+062E 064A+0645 064A+0647 064A+0654+0645 064A+0654+0647 0628+0645 0628+0647 062A+0645
  062A+0647 062B+0645 062B+0647 0633+0645 0633+0647 0634+0645 0634+0647 0643+0644 0643+0645
  0644+0645 0646+0645 0646+0647 064A+0645 064A+0647 0640+064E+0651 0640+064F+0651 0640+0650+0651
  0637+0649 0637+064A 0639+0649 0639+064A 063A+0649 063A+064A 0633+0649 0633+064A 0634+0649
  0634+064A 062D+0649 062D+064A 062C+0649 062C+064A 062E+0649 062E+064A 0635+0649 0635+064A
  0636+0649 0636+064A 0634+062C 0634+062D 0634+062E 0634+0645 0634+0631 0633+0631 0635+0631
  0636+0631 0637+0649 0637+064A 0639+0649 0639+064A 063A+0649 063A+064A 0633+0649 0633+064A
  0634+0649 0634+064A 062D+0649 062D+064A 062C+0649 062C+064A 062E+0649 062E+064A 0635+0649
  0635+064A 0636+0649 0636+064A 0634+062C 0634+062D 0634+062E 0634+0645 0634+0631 0633+0631
  0635+0631 0636+0631 0634+062C 0634+062D 0634+062E 0634+0645 0633+0647 0634+0647 0637+0645
  0633+062C 0633+062D 0633+062E 0634+062C 0634+062D 0634+062E 0637+0645 0638+0645 0627+064B
  0627+064B FD50: 062A+062C+0645 062A+062D+062C 062A+062D+062C 062A+062D+0645 062A+062E+0645
  062A+0645+062C 062A+0645+062D 062A+0645+062E 062C+0645+062D 062C+0645+062D 062D+0645+064A
  062D+0645+0649 0633+062D+062C 0633+062C+062D 0633+062C+0649 0633+0645+062D 0633+0645+062D
  0633+0645+062C 0633+0645+0645 0633+0645+0645 0635+062D+062D 0635+062D+062D 0635+0645+0645
  0634+062D+0645 0634+062D+0645 0634+062C+064A 0634+0645+062E 0634+0645+062E 0634+0645+0645
  0634+0645+0645 0636+062D+0649 0636+062E+0645 0636+062E+0645 0637+0645+062D 0637+0645+062D
  0637+0645+0645 0637+0645+064A 0639+062C+0645 0639+0645+0645 0639+0645+0645 0639+0645+0649
  063A+0645+0645 063A+0645+064A 063A+0645+0649 0641+062E+0645 0641+062E+0645 0642+0645+062D
  0642+0645+0645 0644+062D+0645 0644+062D+064A 0644+062D+0649 0644+062C+062C 0644+062C+062C
  0644+062E+0645 0644+062E+0645 0644+0645+062D 0644+0645+062D 0645+062D+062C 0645+062D+0645
  0645+062D+064A 0645+062C+062D 0645+062C+0645 0645+062E+062C 0645+062E+0645 FD92: 0645+062C+062E
  0647+0645+062C 0647+0645+0645 0646+062D+0645 0646+062D+0649 0646+062C+0645 0646+062C+0645
  0646+062C+0649 0646+0645+064A 0646+0645+0649 064A+0645+0645 064A+0645+0645 0628+062E+064A
  062A+062C+064A 062A+062C+0649 062A+062E+064A 062A+062E+0649 062A+0645+064A 062A+0645+0649
  062C+0645+064A 062C+062D+0649 062C+0645+0649 0633+062E+0649 0635+062D+064A 0634+062D+064A
  0636+062D+064A 0644+062C+064A 0644+0645+064A 064A+062D+064A 064A+062C+064A 064A+0645+064A
  0645+0645+064A 0642+0645+064A 0646+062D+064A 0642+0645+062D 0644+062D+0645 0639+0645+064A
  0643+0645+064A 0646+062C+062D 0645+062E+064A 0644+062C+0645 0643+0645+0645 0644+062C+0645
  0646+062C+062D 062C+062D+064A 062D+062C+064A 0645+062C+064A 0641+0645+064A 0628+062D+064A
  0643+0645+0645 0639+062C+0645 0635+0645+0645 0633+062E+064A 0646+062C+064A FDF0: 0635+0644+06D2
  0642+0644+06D2 0627+0644+0644+0647 0627+0643+0628+0631 0645+062D+0645+062F 0635+0644+0639+0645
  0631+0633+0648+0644 0639+0644+064A+0647 0648+0633+0644+0645 0635+0644+0649
  0635+0644+0649+0020+0627+0644+0644+0647+0020+0639+0644+064A+0647+0020+0648+0633+0644+0645
  062C+0644+0020+062C+0644+0627+0644+0647 0631+06CC+0627+0644 FE10: 002C 3001-3002 003A-003B 0021
  003F 3016-3017 002E+002E+002E FE30: 002E+002E 2014 2013 005F 005F 0028-0029 007B 007D 3014-3015
  3010-3011 300A-300B 3008-3009 300C-300F FE47: 005B 005D 0020+0305 0020+0305 0020+0305 0020+0305
  005F 005F 005F 002C 3001 002E FE54: 003B 003A 003F 0021 2014 0028-0029 007B 007D 3014-3015 0023
  0026 002A-002B 002D 003C 003E 003D FE68: 005C 0024-0025 0040 FE70: 0020+064B 0640+064B 0020+064C
  FE74: 0020+064D FE76: 0020+064E 0640+064E 0020+064F 0640+064F 0020+0650 0640+0650 0020+0651
  0640+0651 0020+0652 0640+0652 0621 0627+0653 0627+0653 0627+0654 0627+0654 0648+0654 0648+0654
  0627+0655 0627+0655 064A+0654 064A+0654 064A+0654 064A+0654 0627 0627-0628 0628 0628 0628-0629
  0629-062A 062A 062A 062A-062B 062B 062B 062B-062C 062C 062C 062C-062D 062D 062D 062D-062E 062E
  062E 062E-062F 062F-0630 0630-0631 0631-0632 0632-0633 0633 0633 0633-0634 0634 0634 0634-0635
  0635 0635 0635-0636 0636 0636 0636-0637 0637 0637 0637-0638 0638 0638 0638-0639 0639 0639
  0639-063A 063A 063A 063A 0641 0641 0641 0641-0642 0642 0642 0642-0643 0643 0643 0643-0644 0644
  0644 0644-0645 0645 0645 0645-0646 0646 0646 0646-0647 0647 0647 0647-0648 0648-0649 0649-064A
  064A 064A 064A 0644+0627+0653 0644+0627+0653 0644+0627+0654 0644+0627+0654 0644+0627+0655
  0644+0627+0655 0644+0627 0644+0627 FF01: 0021-007E 2985-2986 3002 300C-300D 3001 30FB 30F2 30A1
  30A3 30A5 30A7 30A9 30E3 30E5 30E7 30C3 30FC 30A2 30A4 30A6 30A8 30AA-30AB 30AD 30AF 30B1 30B3
  30B5 30B7 30B9 30BB 30BD 30BF 30C1 30C4 30C6 30C8 30CA-30CF 30D2 30D5 30D8 30DB 30DE-30E2 30E4
  30E6 30E8-30ED 30EF 30F3 3099-309A 1160 1100-1101 11AA 1102 11AC-11AD 1103-1105 11B0-11B5 111A
  1106-1108 1121 1109-1112 FFC2: 1161-1166 FFCA: 1167-116C FFD2: 116D-1172 FFDA: 1173-1175 FFE0:
  00A2-00A3 00AC 0020+0304 00A6 00A5 20A9 FFE8: 2502 2190-2193 25A0 25CB 10781: 02D0-02D1 00E6
  0299 0253 10787: 02A3 AB66 02A5 02A4 0256-0257 1D91 0258 025E 02A9 0264 0262 0260 029B 0127 029C
  0267 0284 02AA-02AB 026C 1DF04 A78E 026E 1DF05 028E 1DF06 00F8 0276-0277 0071 027A 1DF08
  027D-027E 0280 02A8 02A6 AB67 02A7 0288 2C71 107B2: 028F 02A1-02A2 0298 01C0-01C2 1DF0A 1DF1E
  1109A: 11099+110BA 1109C: 1109B+110BA 110AB: 110A5+110BA 1112E: 11131+11127 11132+11127 1134B:
  11347+1133E 11347+11357 114BB: 114B9+114BA 114B9+114B0 114BE: 114B9+114BD 115BA: 115B8+115AF
  115B9+115AF 11938: 11935+11930 1D15E: 1D157+1D165 1D158+1D165 1D158+1D165+1D16E
  1D158+1D165+1D16F 1D158+1D165+1D170 1D158+1D165+1D171 1D158+1D165+1D172 1D1BB: 1D1B9+1D165
  1D1BA+1D165 1D1B9+1D165+1D16E 1D1BA+1D165+1D16E 1D1B9+1D165+1D16F 1D1BA+1D165+1D16F 1D400:
  0041-005A 0061-007A 0041-005A 0061-0067 1D456: 0069-007A 0041-005A 0061-007A 0041 1D49E:
  0043-0044 1D4A2: 0047 1D4A5: 004A-004B 1D4A9: 004E-0051 1D4AE: 0053-005A 0061-0064 1D4BB: 0066
  1D4BD: 0068-006E 1D4C5: 0070-007A 0041-005A 0061-007A 0041-0042 1D507: 0044-0047 1D50D:
  004A-0051 1D516: 0053-0059 1D51E: 0061-007A 0041-0042 1D53B: 0044-0047 1D540: 0049-004D 1D546:
  004F 1D54A: 0053-0059 1D552: 0061-007A 0041-005A 0061-007A 0041-005A 0061-007A 0041-005A
  0061-007A 0041-005A 0061-007A 0041-005A 0061-007A 0041-005A 0061-007A 0131 0237 1D6A8: 0391-03A1
  0398 03A3-03A9 2207 03B1-03C9 2202 03B5 03B8 03BA 03C6 03C1 03C0 0391-03A1 0398 03A3-03A9 2207
  03B1-03C9 2202 03B5 03B8 03BA 03C6 03C1 03C0 0391-03A1 0398 03A3-03A9 2207 03B1-03C9 2202 03B5
  03B8 03BA 03C6 03C1 03C0 0391-03A1 0398 03A3-03A9 2207 03B1-03C9 2202 03B5 03B8 03BA 03C6 03C1
  03C0 0391-03A1 0398 03A3-03A9 2207 03B1-03C9 2202 03B5 03B8 03BA 03C6 03C1 03C0 03DC-03DD 1D7CE:
  0030-0039 0030-0039 0030-0039 0030-0039 0030-0039 1EE00: 0627-0628 062C 062F 1EE05: 0648 0632
  062D 0637 064A 0643-0646 0633 0639 0641 0635 0642 0631 0634 062A-062B 062E 0630 0636 0638 063A
  066E 06BA 06A1 066F 1EE21: 0628 062C 1EE24: 0647 1EE27: 062D 1EE29: 064A 0643-0646 0633 0639
  0641 0635 0642 1EE34: 0634 062A-062B 062E 1EE39: 0636 1EE3B: 063A 1EE42: 062C 1EE47: 062D 1EE49:
  064A 1EE4B: 0644 1EE4D: 0646 0633 0639 1EE51: 0635 0642 1EE54: 0634 1EE57: 062E 1EE59: 0636
  1EE5B: 063A 1EE5D: 06BA 1EE5F: 066F 1EE61: 0628 062C 1EE64: 0647 1EE67: 062D 0637 064A 0643
  1EE6C: 0645-0646 0633 0639 0641 0635 0642 1EE74: 0634 062A-062B 062E 1EE79: 0636 0638 063A 066E
  1EE7E: 06A1 1EE80: 0627-0628 062C 062F 0647-0648 0632 062D 0637 064A 1EE8B: 0644-0646 0633 0639
  0641 0635 0642 0631 0634 062A-062B 062E 0630 0636 0638 063A 1EEA1: 0628 062C 062F 1EEA5: 0648
  0632 062D 0637 064A 1EEAB: 0644-0646 0633 0639 0641 0635 0642 0631 0634 062A-062B 062E 0630 0636
  0638 063A 1F100: 0030+002E 0030+002C 0031+002C 0032+002C 0033+002C 0034+002C 0035+002C 0036+002C
  0037+002C 0038+002C 0039+002C 1F110: 0028+0041+0029 0028+0042+0029 0028+0043+0029 0028+0044+0029
  0028+0045+0029 0028+0046+0029 0028+0047+0029 0028+0048+0029 0028+0049+0029 0028+004A+0029
  0028+004B+0029 0028+004C+0029 0028+004D+0029 0028+004E+0029 0028+004F+0029 0028+0050+0029
  0028+0051+0029 0028+0052+0029 0028+0053+0029 0028+0054+0029 0028+0055+0029 0028+0056+0029
  0028+0057+0029 0028+0058+0029 0028+0059+0029 0028+005A+0029 3014+0053+3015 0043 0052 0043+0044
  0057+005A 1F130: 0041-005A 0048+0056 004D+0056 0053+0044 0053+0053 0050+0050+0056 0057+0043
  1F16A: 004D+0043 004D+0044 004D+0052 1F190: 0044+004A 1F200: 307B+304B 30B3+30B3 30B5 1F210:
  624B 5B57 53CC 30C6+3099 4E8C 591A 89E3 5929 4EA4 6620 7121 6599 524D 5F8C 518D 65B0 521D 7D42
  751F 8CA9 58F0 5439 6F14 6295 6355 4E00 4E09 904A 5DE6 4E2D 53F3 6307 8D70 6253 7981 7A7A 5408
  6E80 6709 6708 7533 5272 55B6 914D 1F240: 3014+672C+3015 3014+4E09+3015 3014+4E8C+3015
  3014+5B89+3015 3014+70B9+3015 3014+6253+3015 3014+76D7+3015 3014+52DD+3015 3014+6557+3015 1F250:
  5F97 53EF 1FBF0: 0030-0039 2F800: 4E3D 4E38 4E41 20122 4F60 4FAE 4FBB 5002 507A 5099 50E7 50CF
  349E 2063A 514D 5154 5164 5177 2051C 34B9 5167 518D 2054B 5197 51A4 4ECC 51AC 51B5 291DF 51F5
  5203 34DF 523B 5246 5272 5277 3515 52C7 52C9 52E4 52FA 5305-5306 5317 5349 5351 535A 5373 537D
  537F 537F 537F 20A2C 7070 53CA 53DF 20B63 53EB 53F1 5406 549E 5438 5448 5468 54A2 54F6 5510 5553
  5563 5584 5584 5599 55AB 55B3 55C2 5716 5606 5717 5651 5674 5207 58EE 57CE 57F4 580D 578B 5832
  5831 58AC 214E4 58F2 58F7 5906 591A 5922 5962 216A8 216EA 59EC 5A1B 5A27 59D8 5A66 36EE 36FC
  5B08 5B3E 5B3E 219C8 5BC3 5BD8 5BE7 5BF3 21B18 5BFF 5C06 5F53 5C22 3781 5C60 5C6E 5CC0 5C8D
  21DE4 5D43 21DE6 5D6E 5D6B 5D7C 5DE1-5DE2 382F 5DFD 5E28 5E3D 5E69 3862 22183 387C 5EB0 5EB3
  5EB6 5ECA 2A392 5EFE 22331 22331 8201 5F22 5F22 38C7 232B8 261DA 5F62 5F6B 38E3 5F9A 5FCD 5FD7
  5FF9 6081 393A 391C 6094 226D4 60C7 6148 614C 614E 614C 617A 618E 61B2 61A4 61AF 61DE 61F2 61F6
  6210 621B 625D 62B1 62D4 6350 22B0C 633D 62FC 6368 6383 63E4 22BF1 6422 63C5 63A9 3A2E 6469 647E
  649D 6477 3A6C 654F 656C 2300A 65E3 66F8 6649 3B19 6691 3B08 3AE4 5192 5195 6700 669C 80AD 43D9
  6717 671B 6721 675E 6753 233C3 3B49 67FA 6785 6852 6885 2346D 688E 681F 6914 3B9D 6942 69A3 69EA
  6AA8 236A3 6ADB 3C18 6B21 238A7 6B54 3C4E 6B72 6B9F 6BBA-6BBB 23A8D 21D0B 23AFA 6C4E 23CBC 6CBF
  6CCD 6C67 6D16 6D3E 6D77 6D41 6D69 6D78 6D85 23D1E 6D34 6E2F 6E6E 3D33 6ECB 6EC7 23ED1 6DF9 6F6E
  23F5E 23F8E 6FC6 7039 701E 701B 3D96 704A 707D 7077 70AD 20525 7145 24263 719C 243AB 7228 7235
  7250 24608 7280 7295 24735 24814 737A 738B 3EAC 73A5 3EB8 3EB8 7447 745C 7471 7485 74CA 3F1B
  7524 24C36 753E 24C92 7570 2219F 7610 24FA1 24FB8 25044 3FFC 4008 76F4 250F3 250F2 25119 25133
  771E-771F 771F 774A 4039 778B 4046 4096 2541D 784E 788C 78CC 40E3 25626 7956 2569A 256C5 798F
  79EB 412F 7A40 7A4A 7A4F 2597C 25AA7 25AA7 7AEE 4202 25BAB 7BC6 7BC9 4227 25C80 7CD2 42A0 7CE8
  7CE3 7D00 25F86 7D63 4301 7DC7 7E02 7E45 4334 26228 26247 4359 262D9 7F7A 2633E 7F95 7FFA 8005
  264DA 26523 8060 265A8 8070 2335F 43D5 80B2 8103 440B 813E 5AB5 267A7 267B5 23393 2339C 8201
  8204 8F9E 446B 8291 828B 829D 52B3 82B1 82B3 82BD 82E6 26B3C 82E5 831D 8363 83AD 8323 83BD 83E7
  8457 8353 83CA 83CC 83DC 26C36 26D6B 26CD5 452B 84F1 84F3 8516 273CA 8564 26F2C 455D 4561 26FB1
  270D2 456B 8650 865C 8667 8669 86A9 8688 870E 86E2 8779 8728 876B 8786 45D7 87E1 8801 45F9 8860
  8863 27667 88D7 88DE 4635 88FA 34BB 278AE 27966 46BE 46C7 8AA0 8AED 8B8A 8C55 27CA8 8CAB 8CC1
  8D1B 8D77 27F2F 20804 8DCB 8DBC 8DF0 208DE 8ED4 8F38 285D2 285ED 9094 90F1 9111 2872E 911B 9238
  92D7-92D8 927C 93F9 9415 28BFA 958B 4995 95B7 28D77 49E6 96C3 5DB2 9723 29145 2921A 4A6E 4A76
  97E0 2940A 4AB2 29496 980B 980B 9829 295B6 98E2 4B33 9929 99A7 99C2 99FE 4BCE 29B30 9B12 9C40
  9CFD 4CCE 4CED 9D67 2A0CE 4CF8 2A105 2A20E 2A291 9EBB 4D56 9EF9 9EFE 9F05 9F0F 9F16 9F3B 2A600"

/-- The characters that two others are put together to. -/
def compositions : List (Nat × Text) := partsTable
  "00C0: 0041+0300 0041+0301 0041+0302 0041+0303 0041+0308 0041+030A 00C7: 0043+0327 0045+0300
  0045+0301 0045+0302 0045+0308 0049+0300 0049+0301 0049+0302 0049+0308 00D1: 004E+0303 004F+0300
  004F+0301 004F+0302 004F+0303 004F+0308 00D9: 0055+0300 0055+0301 0055+0302 0055+0308 0059+0301
  00E0: 0061+0300 0061+0301 0061+0302 0061+0303 0061+0308 0061+030A 00E7: 0063+0327 0065+0300
  0065+0301 0065+0302 0065+0308 0069+0300 0069+0301 0069+0302 0069+0308 00F1: 006E+0303 006F+0300
  006F+0301 006F+0302 006F+0303 006F+0308 00F9: 0075+0300 0075+0301 0075+0302 0075+0308 0079+0301
  00FF: 0079+0308 0041+0304 0061+0304 0041+0306 0061+0306 0041+0328 0061+0328 0043+0301 0063+0301
  0043+0302 0063+0302 0043+0307 0063+0307 0043+030C 0063+030C 0044+030C 0064+030C 0112: 0045+0304
  0065+0304 0045+0306 0065+0306 0045+0307 0065+0307 0045+0328 0065+0328 0045+030C 0065+030C
  0047+0302 0067+0302 0047+0306 0067+0306 0047+0307 0067+0307 0047+0327 0067+0327 0048+0302
  0068+0302 0128: 0049+0303 0069+0303 0049+0304 0069+0304 0049+0306 0069+0306 0049+0328 0069+0328
  0049+0307 0134: 004A+0302 006A+0302 004B+0327 006B+0327 0139: 004C+0301 006C+0301 004C+0327
  006C+0327 004C+030C 006C+030C 0143: 004E+0301 006E+0301 004E+0327 006E+0327 004E+030C 006E+030C
  014C: 004F+0304 006F+0304 004F+0306 006F+0306 004F+030B 006F+030B 0154: 0052+0301 0072+0301
  0052+0327 0072+0327 0052+030C 0072+030C 0053+0301 0073+0301 0053+0302 0073+0302 0053+0327
  0073+0327 0053+030C 0073+030C 0054+0327 0074+0327 0054+030C 0074+030C 0168: 0055+0303 0075+0303
  0055+0304 0075+0304 0055+0306 0075+0306 0055+030A 0075+030A 0055+030B 0075+030B 0055+0328
  0075+0328 0057+0302 0077+0302 0059+0302 0079+0302 0059+0308 005A+0301 007A+0301 005A+0307
  007A+0307 005A+030C 007A+030C 01A0: 004F+031B 006F+031B 01AF: 0055+031B 0075+031B 01CD:
  0041+030C 0061+030C 0049+030C 0069+030C 004F+030C 006F+030C 0055+030C 0075+030C 00DC+0304
  00FC+0304 00DC+0301 00FC+0301 00DC+030C 00FC+030C 00DC+0300 00FC+0300 01DE: 00C4+0304 00E4+0304
  0226+0304 0227+0304 00C6+0304 00E6+0304 01E6: 0047+030C 0067+030C 004B+030C 006B+030C 004F+0328
  006F+0328 01EA+0304 01EB+0304 01B7+030C 0292+030C 006A+030C 01F4: 0047+0301 0067+0301 01F8:
  004E+0300 006E+0300 00C5+0301 00E5+0301 00C6+0301 00E6+0301 00D8+0301 00F8+0301 0041+030F
  0061+030F 0041+0311 0061+0311 0045+030F 0065+030F 0045+0311 0065+0311 0049+030F 0069+030F
  0049+0311 0069+0311 004F+030F 006F+030F 004F+0311 006F+0311 0052+030F 0072+030F 0052+0311
  0072+0311 0055+030F 0075+030F 0055+0311 0075+0311 0053+0326 0073+0326 0054+0326 0074+0326 021E:
  0048+030C 0068+030C 0226: 0041+0307 0061+0307 0045+0327 0065+0327 00D6+0304 00F6+0304 00D5+0304
  00F5+0304 004F+0307 006F+0307 022E+0304 022F+0304 0059+0304 0079+0304 0385: 00A8+0301 0391+0301
  0388: 0395+0301 0397+0301 0399+0301 038C: 039F+0301 038E: 03A5+0301 03A9+0301 03CA+0301 03AA:
  0399+0308 03A5+0308 03B1+0301 03B5+0301 03B7+0301 03B9+0301 03CB+0301 03CA: 03B9+0308 03C5+0308
  03BF+0301 03C5+0301 03C9+0301 03D3: 03D2+0301 03D2+0308 0400: 0415+0300 0415+0308 0403:
  0413+0301 0407: 0406+0308 040C: 041A+0301 0418+0300 0423+0306 0419: 0418+0306 0439: 0438+0306
  0450: 0435+0300 0435+0308 0453: 0433+0301 0457: 0456+0308 045C: 043A+0301 0438+0300 0443+0306
  0476: 0474+030F 0475+030F 04C1: 0416+0306 0436+0306 04D0: 0410+0306 0430+0306 0410+0308
  0430+0308 04D6: 0415+0306 0435+0306 04DA: 04D8+0308 04D9+0308 0416+0308 0436+0308 0417+0308
  0437+0308 04E2: 0418+0304 0438+0304 0418+0308 0438+0308 041E+0308 043E+0308 04EA: 04E8+0308
  04E9+0308 042D+0308 044D+0308 0423+0304 0443+0304 0423+0308 0443+0308 0423+030B 0443+030B
  0427+0308 0447+0308 04F8: 042B+0308 044B+0308 0622: 0627+0653 0627+0654 0648+0654 0627+0655
  064A+0654 06C0: 06D5+0654 06C2: 06C1+0654 06D3: 06D2+0654 0929: 0928+093C 0931: 0930+093C 0934:
  0933+093C 09CB: 09C7+09BE 09C7+09D7 0B48: 0B47+0B56 0B4B: 0B47+0B3E 0B47+0B57 0B94: 0B92+0BD7
  0BCA: 0BC6+0BBE 0BC7+0BBE 0BC6+0BD7 0C48: 0C46+0C56 0CC0: 0CBF+0CD5 0CC7: 0CC6+0CD5 0CC6+0CD6
  0CCA: 0CC6+0CC2 0CCA+0CD5 0D4A: 0D46+0D3E 0D47+0D3E 0D46+0D57 0DDA: 0DD9+0DCA 0DDC: 0DD9+0DCF
  0DDC+0DCA 0DD9+0DDF 1026: 1025+102E 1B06: 1B05+1B35 1B08: 1B07+1B35 1B0A: 1B09+1B35 1B0C:
  1B0B+1B35 1B0E: 1B0D+1B35 1B12: 1B11+1B35 1B3B: 1B3A+1B35 1B3D: 1B3C+1B35 1B40: 1B3E+1B35
  1B3F+1B35 1B43: 1B42+1B35 1E00: 0041+0325 0061+0325 0042+0307 0062+0307 0042+0323 0062+0323
  0042+0331 0062+0331 00C7+0301 00E7+0301 0044+0307 0064+0307 0044+0323 0064+0323 0044+0331
  0064+0331 0044+0327 0064+0327 0044+032D 0064+032D 0112+0300 0113+0300 0112+0301 0113+0301
  0045+032D 0065+032D 0045+0330 0065+0330 0228+0306 0229+0306 0046+0307 0066+0307 0047+0304
  0067+0304 0048+0307 0068+0307 0048+0323 0068+0323 0048+0308 0068+0308 0048+0327 0068+0327
  0048+032E 0068+032E 0049+0330 0069+0330 00CF+0301 00EF+0301 004B+0301 006B+0301 004B+0323
  006B+0323 004B+0331 006B+0331 004C+0323 006C+0323 1E36+0304 1E37+0304 004C+0331 006C+0331
  004C+032D 006C+032D 004D+0301 006D+0301 004D+0307 006D+0307 004D+0323 006D+0323 004E+0307
  006E+0307 004E+0323 006E+0323 004E+0331 006E+0331 004E+032D 006E+032D 00D5+0301 00F5+0301
  00D5+0308 00F5+0308 014C+0300 014D+0300 014C+0301 014D+0301 0050+0301 0070+0301 0050+0307
  0070+0307 0052+0307 0072+0307 0052+0323 0072+0323 1E5A+0304 1E5B+0304 0052+0331 0072+0331
  0053+0307 0073+0307 0053+0323 0073+0323 015A+0307 015B+0307 0160+0307 0161+0307 1E62+0307
  1E63+0307 0054+0307 0074+0307 0054+0323 0074+0323 0054+0331 0074+0331 0054+032D 0074+032D
  0055+0324 0075+0324 0055+0330 0075+0330 0055+032D 0075+032D 0168+0301 0169+0301 016A+0308
  016B+0308 0056+0303 0076+0303 0056+0323 0076+0323 0057+0300 0077+0300 0057+0301 0077+0301
  0057+0308 0077+0308 0057+0307 0077+0307 0057+0323 0077+0323 0058+0307 0078+0307 0058+0308
  0078+0308 0059+0307 0079+0307 005A+0302 007A+0302 005A+0323 007A+0323 005A+0331 007A+0331
  0068+0331 0074+0308 0077+030A 0079+030A 1E9B: 017F+0307 1EA0: 0041+0323 0061+0323 0041+0309
  0061+0309 00C2+0301 00E2+0301 00C2+0300 00E2+0300 00C2+0309 00E2+0309 00C2+0303 00E2+0303
  1EA0+0302 1EA1+0302 0102+0301 0103+0301 0102+0300 0103+0300 0102+0309 0103+0309 0102+0303
  0103+0303 1EA0+0306 1EA1+0306 0045+0323 0065+0323 0045+0309 0065+0309 0045+0303 0065+0303
  00CA+0301 00EA+0301 00CA+0300 00EA+0300 00CA+0309 00EA+0309 00CA+0303 00EA+0303 1EB8+0302
  1EB9+0302 0049+0309 0069+0309 0049+0323 0069+0323 004F+0323 006F+0323 004F+0309 006F+0309
  00D4+0301 00F4+0301 00D4+0300 00F4+0300 00D4+0309 00F4+0309 00D4+0303 00F4+0303 1ECC+0302
  1ECD+0302 01A0+0301 01A1+0301 01A0+0300 01A1+0300 01A0+0309 01A1+0309 01A0+0303 01A1+0303
  01A0+0323 01A1+0323 0055+0323 0075+0323 0055+0309 0075+0309 01AF+0301 01B0+0301 01AF+0300
  01B0+0300 01AF+0309 01B0+0309 01AF+0303 01B0+0303 01AF+0323 01B0+0323 0059+0300 0079+0300
  0059+0323 0079+0323 0059+0309 0079+0309 0059+0303 0079+0303 1F00: 03B1+0313 03B1+0314 1F00+0300
  1F01+0300 1F00+0301 1F01+0301 1F00+0342 1F01+0342 0391+0313 0391+0314 1F08+0300 1F09+0300
  1F08+0301 1F09+0301 1F08+0342 1F09+0342 03B5+0313 03B5+0314 1F10+0300 1F11+0300 1F10+0301
  1F11+0301 1F18: 0395+0313 0395+0314 1F18+0300 1F19+0300 1F18+0301 1F19+0301 1F20: 03B7+0313
  03B7+0314 1F20+0300 1F21+0300 1F20+0301 1F21+0301 1F20+0342 1F21+0342 0397+0313 0397+0314
  1F28+0300 1F29+0300 1F28+0301 1F29+0301 1F28+0342 1F29+0342 03B9+0313 03B9+0314 1F30+0300
  1F31+0300 1F30+0301 1F31+0301 1F30+0342 1F31+0342 0399+0313 0399+0314 1F38+0300 1F39+0300
  1F38+0301 1F39+0301 1F38+0342 1F39+0342 03BF+0313 03BF+0314 1F40+0300 1F41+0300 1F40+0301
  1F41+0301 1F48: 039F+0313 039F+0314 1F48+0300 1F49+0300 1F48+0301 1F49+0301 1F50: 03C5+0313
  03C5+0314 1F50+0300 1F51+0300 1F50+0301 1F51+0301 1F50+0342 1F51+0342 1F59: 03A5+0314 1F5B:
  1F59+0300 1F5D: 1F59+0301 1F5F: 1F59+0342 03C9+0313 03C9+0314 1F60+0300 1F61+0300 1F60+0301
  1F61+0301 1F60+0342 1F61+0342 03A9+0313 03A9+0314 1F68+0300 1F69+0300 1F68+0301 1F69+0301
  1F68+0342 1F69+0342 03B1+0300 1F72: 03B5+0300 1F74: 03B7+0300 1F76: 03B9+0300 1F78: 03BF+0300
  1F7A: 03C5+0300 1F7C: 03C9+0300 1F80: 1F00+0345 1F01+0345 1F02+0345 1F03+0345 1F04+0345
  1F05+0345 1F06+0345 1F07+0345 1F08+0345 1F09+0345 1F0A+0345 1F0B+0345 1F0C+0345 1F0D+0345
  1F0E+0345 1F0F+0345 1F20+0345 1F21+0345 1F22+0345 1F23+0345 1F24+0345 1F25+0345 1F26+0345
  1F27+0345 1F28+0345 1F29+0345 1F2A+0345 1F2B+0345 1F2C+0345 1F2D+0345 1F2E+0345 1F2F+0345
  1F60+0345 1F61+0345 1F62+0345 1F63+0345 1F64+0345 1F65+0345 1F66+0345 1F67+0345 1F68+0345
  1F69+0345 1F6A+0345 1F6B+0345 1F6C+0345 1F6D+0345 1F6E+0345 1F6F+0345 03B1+0306 03B1+0304
  1F70+0345 03B1+0345 03AC+0345 1FB6: 03B1+0342 1FB6+0345 0391+0306 0391+0304 0391+0300 1FBC:
  0391+0345 1FC1: 00A8+0342 1F74+0345 03B7+0345 03AE+0345 1FC6: 03B7+0342 1FC6+0345 0395+0300
  1FCA: 0397+0300 1FCC: 0397+0345 1FBF+0300 1FBF+0301 1FBF+0342 03B9+0306 03B9+0304 03CA+0300
  1FD6: 03B9+0342 03CA+0342 0399+0306 0399+0304 0399+0300 1FDD: 1FFE+0300 1FFE+0301 1FFE+0342
  03C5+0306 03C5+0304 03CB+0300 1FE4: 03C1+0313 03C1+0314 03C5+0342 03CB+0342 03A5+0306 03A5+0304
  03A5+0300 1FEC: 03A1+0314 00A8+0300 1FF2: 1F7C+0345 03C9+0345 03CE+0345 1FF6: 03C9+0342
  1FF6+0345 039F+0300 1FFA: 03A9+0300 1FFC: 03A9+0345 219A: 2190+0338 2192+0338 21AE: 2194+0338
  21CD: 21D0+0338 21D4+0338 21D2+0338 2204: 2203+0338 2209: 2208+0338 220C: 220B+0338 2224:
  2223+0338 2226: 2225+0338 2241: 223C+0338 2244: 2243+0338 2247: 2245+0338 2249: 2248+0338 2260:
  003D+0338 2262: 2261+0338 226D: 224D+0338 003C+0338 003E+0338 2264+0338 2265+0338 2274:
  2272+0338 2273+0338 2278: 2276+0338 2277+0338 2280: 227A+0338 227B+0338 2284: 2282+0338
  2283+0338 2288: 2286+0338 2287+0338 22AC: 22A2+0338 22A8+0338 22A9+0338 22AB+0338 22E0:
  227C+0338 227D+0338 2291+0338 2292+0338 22EA: 22B2+0338 22B3+0338 22B4+0338 22B5+0338 304C:
  304B+3099 304E: 304D+3099 3050: 304F+3099 3052: 3051+3099 3054: 3053+3099 3056: 3055+3099 3058:
  3057+3099 305A: 3059+3099 305C: 305B+3099 305E: 305D+3099 3060: 305F+3099 3062: 3061+3099 3065:
  3064+3099 3067: 3066+3099 3069: 3068+3099 3070: 306F+3099 306F+309A 3073: 3072+3099 3072+309A
  3076: 3075+3099 3075+309A 3079: 3078+3099 3078+309A 307C: 307B+3099 307B+309A 3094: 3046+3099
  309E: 309D+3099 30AC: 30AB+3099 30AE: 30AD+3099 30B0: 30AF+3099 30B2: 30B1+3099 30B4: 30B3+3099
  30B6: 30B5+3099 30B8: 30B7+3099 30BA: 30B9+3099 30BC: 30BB+3099 30BE: 30BD+3099 30C0: 30BF+3099
  30C2: 30C1+3099 30C5: 30C4+3099 30C7: 30C6+3099 30C9: 30C8+3099 30D0: 30CF+3099 30CF+309A 30D3:
  30D2+3099 30D2+309A 30D6: 30D5+3099 30D5+309A 30D9: 30D8+3099 30D8+309A 30DC: 30DB+3099
  30DB+309A 30F4: 30A6+3099 30F7: 30EF+3099 30F0+3099 30F1+3099 30F2+3099 30FE: 30FD+3099 1109A:
  11099+110BA 1109C: 1109B+110BA 110AB: 110A5+110BA 1112E: 11131+11127 11132+11127 1134B:
  11347+1133E 11347+11357 114BB: 114B9+114BA 114B9+114B0 114BE: 114B9+114BD 115BA: 115B8+115AF
  115B9+115AF 11938: 11935+11930"

/-- The classes of combining marks. -/
def combiningClasses : List ((Nat × Nat) × Nat) := classesTable
  "0300-0314=E6 0315=E8 0316-0319=DC 031A=E8 031B=D8 031C-0320=DC 0321-0322=CA 0323-0326=DC
  0327-0328=CA 0329-0333=DC 0334-0338=1 0339-033C=DC 033D-0344=E6 0345=F0 0346=E6 0347-0349=DC
  034A-034C=E6 034D-034E=DC 0350-0352=E6 0353-0356=DC 0357=E6 0358=E8 0359-035A=DC 035B=E6 035C=E9
  035D-035E=EA 035F=E9 0360-0361=EA 0362=E9 0363-036F=E6 0483-0487=E6 0591=DC 0592-0595=E6 0596=DC
  0597-0599=E6 059A=DE 059B=DC 059C-05A1=E6 05A2-05A7=DC 05A8-05A9=E6 05AA=DC 05AB-05AC=E6 05AD=DE
  05AE=E4 05AF=E6 05B0=A 05B1=B 05B2=C 05B3=D 05B4=E 05B5=F 05B6=10 05B7=11 05B8=12 05B9-05BA=13
  05BB=14 05BC=15 05BD=16 05BF=17 05C1=18 05C2=19 05C4=E6 05C5=DC 05C7=12 0610-0617=E6 0618=1E
  0619=1F 061A=20 064B=1B 064C=1C 064D=1D 064E=1E 064F=1F 0650=20 0651=21 0652=22 0653-0654=E6
  0655-0656=DC 0657-065B=E6 065C=DC 065D-065E=E6 065F=DC 0670=23 06D6-06DC=E6 06DF-06E2=E6 06E3=DC
  06E4=E6 06E7-06E8=E6 06EA=DC 06EB-06EC=E6 06ED=DC 0711=24 0730=E6 0731=DC 0732-0733=E6 0734=DC
  0735-0736=E6 0737-0739=DC 073A=E6 073B-073C=DC 073D=E6 073E=DC 073F-0741=E6 0742=DC 0743=E6
  0744=DC 0745=E6 0746=DC 0747=E6 0748=DC 0749-074A=E6 07EB-07F1=E6 07F2=DC 07F3=E6 07FD=DC
  0816-0819=E6 081B-0823=E6 0825-0827=E6 0829-082D=E6 0859-085B=DC 0898=E6 0899-089B=DC
  089C-089F=E6 08CA-08CE=E6 08CF-08D3=DC 08D4-08E1=E6 08E3=DC 08E4-08E5=E6 08E6=DC 08E7-08E8=E6
  08E9=DC 08EA-08EC=E6 08ED-08EF=DC 08F0=1B 08F1=1C 08F2=1D 08F3-08F5=E6 08F6=DC 08F7-08F8=E6
  08F9-08FA=DC 08FB-08FF=E6 093C=7 094D=9 0951=E6 0952=DC 0953-0954=E6 09BC=7 09CD=9 09FE=E6
  0A3C=7 0A4D=9 0ABC=7 0ACD=9 0B3C=7 0B4D=9 0BCD=9 0C3C=7 0C4D=9 0C55=54 0C56=5B 0CBC=7 0CCD=9
  0D3B-0D3C=9 0D4D=9 0DCA=9 0E38-0E39=67 0E3A=9 0E48-0E4B=6B 0EB8-0EB9=76 0EBA=9 0EC8-0ECB=7A
  0F18-0F19=DC 0F35=DC 0F37=DC 0F39=D8 0F71=81 0F72=82 0F74=84 0F7A-0F7D=82 0F80=82 0F82-0F83=E6
  0F84=9 0F86-0F87=E6 0FC6=DC 1037=7 1039-103A=9 108D=DC 135D-135F=E6 1714-1715=9 1734=9 17D2=9
  17DD=E6 18A9=E4 1939=DE 193A=E6 193B=DC 1A17=E6 1A18=DC 1A60=9 1A75-1A7C=E6 1A7F=DC 1AB0-1AB4=E6
  1AB5-1ABA=DC 1ABB-1ABC=E6 1ABD=DC 1ABF-1AC0=DC 1AC1-1AC2=E6 1AC3-1AC4=DC 1AC5-1AC9=E6 1ACA=DC
  1ACB-1ACE=E6 1B34=7 1B44=9 1B6B=E6 1B6C=DC 1B6D-1B73=E6 1BAA-1BAB=9 1BE6=7 1BF2-1BF3=9 1C37=7
  1CD0-1CD2=E6 1CD4=1 1CD5-1CD9=DC 1CDA-1CDB=E6 1CDC-1CDF=DC 1CE0=E6 1CE2-1CE8=1 1CED=DC 1CF4=E6
  1CF8-1CF9=E6 1DC0-1DC1=E6 1DC2=DC 1DC3-1DC9=E6 1DCA=DC 1DCB-1DCC=E6 1DCD=EA 1DCE=D6 1DCF=DC
  1DD0=CA 1DD1-1DF5=E6 1DF6=E8 1DF7-1DF8=E4 1DF9=DC 1DFA=DA 1DFB=E6 1DFC=E9 1DFD=DC 1DFE=E6
  1DFF=DC 20D0-20D1=E6 20D2-20D3=1 20D4-20D7=E6 20D8-20DA=1 20DB-20DC=E6 20E1=E6 20E5-20E6=1
  20E7=E6 20E8=DC 20E9=E6 20EA-20EB=1 20EC-20EF=DC 20F0=E6 2CEF-2CF1=E6 2D7F=9 2DE0-2DFF=E6
  302A=DA 302B=E4 302C=E8 302D=DE 302E-302F=E0 3099-309A=8 A66F=E6 A674-A67D=E6 A69E-A69F=E6
  A6F0-A6F1=E6 A806=9 A82C=9 A8C4=9 A8E0-A8F1=E6 A92B-A92D=DC A953=9 A9B3=7 A9C0=9 AAB0=E6
  AAB2-AAB3=E6 AAB4=DC AAB7-AAB8=E6 AABE-AABF=E6 AAC1=E6 AAF6=9 ABED=9 FB1E=1A FE20-FE26=E6
  FE27-FE2D=DC FE2E-FE2F=E6 101FD=DC 102E0=DC 10376-1037A=E6 10A0D=DC 10A0F=E6 10A38=E6 10A39=1
  10A3A=DC 10A3F=9 10AE5=E6 10AE6=DC 10D24-10D27=E6 10EAB-10EAC=E6 10F46-10F47=DC 10F48-10F4A=E6
  10F4B=DC 10F4C=E6 10F4D-10F50=DC 10F82=E6 10F83=DC 10F84=E6 10F85=DC 11046=9 11070=9 1107F=9
  110B9=9 110BA=7 11100-11102=E6 11133-11134=9 11173=7 111C0=9 111CA=7 11235=9 11236=7 112E9=7
  112EA=9 1133B-1133C=7 1134D=9 11366-1136C=E6 11370-11374=E6 11442=9 11446=7 1145E=E6 114C2=9
  114C3=7 115BF=9 115C0=7 1163F=9 116B6=9 116B7=7 1172B=9 11839=9 1183A=7 1193D-1193E=9 11943=7
  119E0=9 11A34=9 11A47=9 11A99=9 11C3F=9 11D42=7 11D44-11D45=9 11D97=9 16AF0-16AF4=1
  16B30-16B36=E6 16FF0-16FF1=6 1BC9E=1 1D165-1D166=D8 1D167-1D169=1 1D16D=E2 1D16E-1D172=D8
  1D17B-1D182=DC 1D185-1D189=E6 1D18A-1D18B=DC 1D1AA-1D1AD=E6 1D242-1D244=E6 1E000-1E006=E6
  1E008-1E018=E6 1E01B-1E021=E6 1E023-1E024=E6 1E026-1E02A=E6 1E130-1E136=E6 1E2AE=E6
  1E2EC-1E2EF=E6 1E8D0-1E8D6=DC 1E944-1E949=E6 1E94A=7"

/-- The class of a combining mark; 0 for what is none. -/
def combiningClass (c : Char) : Nat :=
  ((combiningClasses.find? fun e => e.1.1 ≤ c.toNat && c.toNat ≤ e.1.2).map Prod.snd).getD 0

/-! ## Hangul -/

/-- The first leading consonant, vowel, final consonant (none counts as one) and syllable, and how
many there are of the first three. -/
structure HangulBlock where
  lead : Nat
  vowel : Nat
  final : Nat
  syllable : Nat
  leads : Nat
  vowels : Nat
  finals : Nat

/-- The letters and syllables of Hangul. -/
def hangul : HangulBlock := ⟨0x1100, 0x1161, 0x11A7, 0xAC00, 19, 21, 28⟩

/-- The letters of a syllable. -/
def syllableParts? (c : Char) : Option Text :=
  let h := hangul
  let i := c.toNat - h.syllable
  if c.toNat < h.syllable ∨ h.leads * h.vowels * h.finals ≤ i then none
  else
    let final := i % h.finals
    some ([h.lead + i / (h.vowels * h.finals), h.vowel + i / h.finals % h.vowels].map Char.ofNat
      ++ if final = 0 then [] else [Char.ofNat (h.final + final)])

/-- The syllable of a leading consonant and a vowel, or of such a syllable and a final one. -/
def syllable? (a b : Char) : Option Char :=
  let h := hangul
  let (m, n) := (a.toNat, b.toNat)
  if h.lead ≤ m ∧ m < h.lead + h.leads ∧ h.vowel ≤ n ∧ n < h.vowel + h.vowels then
    some (Char.ofNat (h.syllable + ((m - h.lead) * h.vowels + (n - h.vowel)) * h.finals))
  else if h.syllable ≤ m ∧ m < h.syllable + h.leads * h.vowels * h.finals
      ∧ (m - h.syllable) % h.finals = 0 ∧ h.final < n ∧ n < h.final + h.finals then
    some (Char.ofNat (m + (n - h.final)))
  else none

/-! ## Parts of characters -/

/-- The characters that a character stands for. -/
def compatibleParts (c : Char) : Text :=
  if c.toNat < 128 then [c]
  else match syllableParts? c with
    | some parts => parts
    | none => ((decompositions.find? fun e => e.1 == c.toNat).map Prod.snd).getD [c]

/-- The character that is made of two. -/
def composite? (a b : Char) : Option Char :=
  (syllable? a b).orElse fun _ =>
    (compositions.find? fun e => e.2 == [a, b]).map fun e => Char.ofNat e.1

end LiveSections.Text
