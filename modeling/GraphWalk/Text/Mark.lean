import Std.Data.HashMap
import GraphWalk.Text.Ranges

/-!
# Marks and what they join

Characters are taken apart into base letters and marks, and what can be put together
again is. Each mark has a combining class, the order in which marks stand behind their
letter. `leadingMarks` and `trailingMarks` count the marks at the two ends of a
character; a character that begins with a mark belongs to what stands in front of it.
-/

namespace GraphWalk.Text

/-- Combining classes of marks; all other characters have class 0. -/
def markRows : String :=
  "300 314 E6 315 315 E8 316 319 DC 31A 31A E8 31B 31B D8 31C 320 DC 321 322 CA 323 326 DC
   327 328 CA 329 333 DC 334 338 1 339 33C DC 33D 344 E6 345 345 F0 346 346 E6 347 349 DC
   34A 34C E6 34D 34E DC 350 352 E6 353 356 DC 357 357 E6 358 358 E8 359 35A DC 35B 35B E6
   35C 35C E9 35D 35E EA 35F 35F E9 360 361 EA 362 362 E9 363 36F E6 483 487 E6 591 591 DC
   592 595 E6 596 596 DC 597 599 E6 59A 59A DE 59B 59B DC 59C 5A1 E6 5A2 5A7 DC 5A8 5A9 E6
   5AA 5AA DC 5AB 5AC E6 5AD 5AD DE 5AE 5AE E4 5AF 5AF E6 5B0 5B0 A 5B1 5B1 B 5B2 5B2 C
   5B3 5B3 D 5B4 5B4 E 5B5 5B5 F 5B6 5B6 10 5B7 5B7 11 5B8 5B8 12 5B9 5BA 13 5BB 5BB 14
   5BC 5BC 15 5BD 5BD 16 5BF 5BF 17 5C1 5C1 18 5C2 5C2 19 5C4 5C4 E6 5C5 5C5 DC 5C7 5C7 12
   610 617 E6 618 618 1E 619 619 1F 61A 61A 20 64B 64B 1B 64C 64C 1C 64D 64D 1D 64E 64E 1E
   64F 64F 1F 650 650 20 651 651 21 652 652 22 653 654 E6 655 656 DC 657 65B E6 65C 65C DC
   65D 65E E6 65F 65F DC 670 670 23 6D6 6DC E6 6DF 6E2 E6 6E3 6E3 DC 6E4 6E4 E6 6E7 6E8 E6
   6EA 6EA DC 6EB 6EC E6 6ED 6ED DC 711 711 24 730 730 E6 731 731 DC 732 733 E6 734 734 DC
   735 736 E6 737 739 DC 73A 73A E6 73B 73C DC 73D 73D E6 73E 73E DC 73F 741 E6 742 742 DC
   743 743 E6 744 744 DC 745 745 E6 746 746 DC 747 747 E6 748 748 DC 749 74A E6 7EB 7F1 E6
   7F2 7F2 DC 7F3 7F3 E6 7FD 7FD DC 816 819 E6 81B 823 E6 825 827 E6 829 82D E6 859 85B DC
   898 898 E6 899 89B DC 89C 89F E6 8CA 8CE E6 8CF 8D3 DC 8D4 8E1 E6 8E3 8E3 DC 8E4 8E5 E6
   8E6 8E6 DC 8E7 8E8 E6 8E9 8E9 DC 8EA 8EC E6 8ED 8EF DC 8F0 8F0 1B 8F1 8F1 1C 8F2 8F2 1D
   8F3 8F5 E6 8F6 8F6 DC 8F7 8F8 E6 8F9 8FA DC 8FB 8FF E6 93C 93C 7 94D 94D 9 951 951 E6
   952 952 DC 953 954 E6 9BC 9BC 7 9CD 9CD 9 9FE 9FE E6 A3C A3C 7 A4D A4D 9 ABC ABC 7 ACD ACD 9
   B3C B3C 7 B4D B4D 9 BCD BCD 9 C3C C3C 7 C4D C4D 9 C55 C55 54 C56 C56 5B CBC CBC 7 CCD CCD 9
   D3B D3C 9 D4D D4D 9 DCA DCA 9 E38 E39 67 E3A E3A 9 E48 E4B 6B EB8 EB9 76 EBA EBA 9
   EC8 ECB 7A F18 F19 DC F35 F35 DC F37 F37 DC F39 F39 D8 F71 F71 81 F72 F72 82 F74 F74 84
   F7A F7D 82 F80 F80 82 F82 F83 E6 F84 F84 9 F86 F87 E6 FC6 FC6 DC 1037 1037 7 1039 103A 9
   108D 108D DC 135D 135F E6 1714 1715 9 1734 1734 9 17D2 17D2 9 17DD 17DD E6 18A9 18A9 E4
   1939 1939 DE 193A 193A E6 193B 193B DC 1A17 1A17 E6 1A18 1A18 DC 1A60 1A60 9 1A75 1A7C E6
   1A7F 1A7F DC 1AB0 1AB4 E6 1AB5 1ABA DC 1ABB 1ABC E6 1ABD 1ABD DC 1ABF 1AC0 DC 1AC1 1AC2 E6
   1AC3 1AC4 DC 1AC5 1AC9 E6 1ACA 1ACA DC 1ACB 1ACE E6 1B34 1B34 7 1B44 1B44 9 1B6B 1B6B E6
   1B6C 1B6C DC 1B6D 1B73 E6 1BAA 1BAB 9 1BE6 1BE6 7 1BF2 1BF3 9 1C37 1C37 7 1CD0 1CD2 E6
   1CD4 1CD4 1 1CD5 1CD9 DC 1CDA 1CDB E6 1CDC 1CDF DC 1CE0 1CE0 E6 1CE2 1CE8 1 1CED 1CED DC
   1CF4 1CF4 E6 1CF8 1CF9 E6 1DC0 1DC1 E6 1DC2 1DC2 DC 1DC3 1DC9 E6 1DCA 1DCA DC 1DCB 1DCC E6
   1DCD 1DCD EA 1DCE 1DCE D6 1DCF 1DCF DC 1DD0 1DD0 CA 1DD1 1DF5 E6 1DF6 1DF6 E8 1DF7 1DF8 E4
   1DF9 1DF9 DC 1DFA 1DFA DA 1DFB 1DFB E6 1DFC 1DFC E9 1DFD 1DFD DC 1DFE 1DFE E6 1DFF 1DFF DC
   20D0 20D1 E6 20D2 20D3 1 20D4 20D7 E6 20D8 20DA 1 20DB 20DC E6 20E1 20E1 E6 20E5 20E6 1
   20E7 20E7 E6 20E8 20E8 DC 20E9 20E9 E6 20EA 20EB 1 20EC 20EF DC 20F0 20F0 E6 2CEF 2CF1 E6
   2D7F 2D7F 9 2DE0 2DFF E6 302A 302A DA 302B 302B E4 302C 302C E8 302D 302D DE 302E 302F E0
   3099 309A 8 A66F A66F E6 A674 A67D E6 A69E A69F E6 A6F0 A6F1 E6 A806 A806 9 A82C A82C 9
   A8C4 A8C4 9 A8E0 A8F1 E6 A92B A92D DC A953 A953 9 A9B3 A9B3 7 A9C0 A9C0 9 AAB0 AAB0 E6
   AAB2 AAB3 E6 AAB4 AAB4 DC AAB7 AAB8 E6 AABE AABF E6 AAC1 AAC1 E6 AAF6 AAF6 9 ABED ABED 9
   FB1E FB1E 1A FE20 FE26 E6 FE27 FE2D DC FE2E FE2F E6 101FD 101FD DC 102E0 102E0 DC
   10376 1037A E6 10A0D 10A0D DC 10A0F 10A0F E6 10A38 10A38 E6 10A39 10A39 1 10A3A 10A3A DC
   10A3F 10A3F 9 10AE5 10AE5 E6 10AE6 10AE6 DC 10D24 10D27 E6 10EAB 10EAC E6 10EFD 10EFF DC
   10F46 10F47 DC 10F48 10F4A E6 10F4B 10F4B DC 10F4C 10F4C E6 10F4D 10F50 DC 10F82 10F82 E6
   10F83 10F83 DC 10F84 10F84 E6 10F85 10F85 DC 11046 11046 9 11070 11070 9 1107F 1107F 9
   110B9 110B9 9 110BA 110BA 7 11100 11102 E6 11133 11134 9 11173 11173 7 111C0 111C0 9
   111CA 111CA 7 11235 11235 9 11236 11236 7 112E9 112E9 7 112EA 112EA 9 1133B 1133C 7
   1134D 1134D 9 11366 1136C E6 11370 11374 E6 11442 11442 9 11446 11446 7 1145E 1145E E6
   114C2 114C2 9 114C3 114C3 7 115BF 115BF 9 115C0 115C0 7 1163F 1163F 9 116B6 116B6 9
   116B7 116B7 7 1172B 1172B 9 11839 11839 9 1183A 1183A 7 1193D 1193E 9 11943 11943 7
   119E0 119E0 9 11A34 11A34 9 11A47 11A47 9 11A99 11A99 9 11C3F 11C3F 9 11D42 11D42 7
   11D44 11D45 9 11D97 11D97 9 11F41 11F42 9 16AF0 16AF4 1 16B30 16B36 E6 16FF0 16FF1 6
   1BC9E 1BC9E 1 1D165 1D166 D8 1D167 1D169 1 1D16D 1D16D E2 1D16E 1D172 D8 1D17B 1D182 DC
   1D185 1D189 E6 1D18A 1D18B DC 1D1AA 1D1AD E6 1D242 1D244 E6 1E000 1E006 E6 1E008 1E018 E6
   1E01B 1E021 E6 1E023 1E024 E6 1E026 1E02A E6 1E08F 1E08F E6 1E130 1E136 E6 1E2AE 1E2AE E6
   1E2EC 1E2EF E6 1E4EC 1E4ED E8 1E4EE 1E4EE DC 1E4EF 1E4EF E6 1E8D0 1E8D6 DC 1E944 1E949 E6
   1E94A 1E94A 7"

def markTable : RangeTable := .ofTriples (hexNumbers markRows)

/-- Characters and what they are taken apart into: one character (and `0`) or
two. Signs for units are not among them. -/
def decomposeRows : String :=
  "C0 0041 0300 C1 0041 0301 C2 0041 0302 C3 0041 0303 C4 0041 0308 C5 0041 030A C7 0043 0327
   C8 0045 0300 C9 0045 0301 CA 0045 0302 CB 0045 0308 CC 0049 0300 CD 0049 0301 CE 0049 0302
   CF 0049 0308 D1 004E 0303 D2 004F 0300 D3 004F 0301 D4 004F 0302 D5 004F 0303 D6 004F 0308
   D9 0055 0300 DA 0055 0301 DB 0055 0302 DC 0055 0308 DD 0059 0301 E0 0061 0300 E1 0061 0301
   E2 0061 0302 E3 0061 0303 E4 0061 0308 E5 0061 030A E7 0063 0327 E8 0065 0300 E9 0065 0301
   EA 0065 0302 EB 0065 0308 EC 0069 0300 ED 0069 0301 EE 0069 0302 EF 0069 0308 F1 006E 0303
   F2 006F 0300 F3 006F 0301 F4 006F 0302 F5 006F 0303 F6 006F 0308 F9 0075 0300 FA 0075 0301
   FB 0075 0302 FC 0075 0308 FD 0079 0301 FF 0079 0308 100 0041 0304 101 0061 0304
   102 0041 0306 103 0061 0306 104 0041 0328 105 0061 0328 106 0043 0301 107 0063 0301
   108 0043 0302 109 0063 0302 10A 0043 0307 10B 0063 0307 10C 0043 030C 10D 0063 030C
   10E 0044 030C 10F 0064 030C 112 0045 0304 113 0065 0304 114 0045 0306 115 0065 0306
   116 0045 0307 117 0065 0307 118 0045 0328 119 0065 0328 11A 0045 030C 11B 0065 030C
   11C 0047 0302 11D 0067 0302 11E 0047 0306 11F 0067 0306 120 0047 0307 121 0067 0307
   122 0047 0327 123 0067 0327 124 0048 0302 125 0068 0302 128 0049 0303 129 0069 0303
   12A 0049 0304 12B 0069 0304 12C 0049 0306 12D 0069 0306 12E 0049 0328 12F 0069 0328
   130 0049 0307 134 004A 0302 135 006A 0302 136 004B 0327 137 006B 0327 139 004C 0301
   13A 006C 0301 13B 004C 0327 13C 006C 0327 13D 004C 030C 13E 006C 030C 143 004E 0301
   144 006E 0301 145 004E 0327 146 006E 0327 147 004E 030C 148 006E 030C 14C 004F 0304
   14D 006F 0304 14E 004F 0306 14F 006F 0306 150 004F 030B 151 006F 030B 154 0052 0301
   155 0072 0301 156 0052 0327 157 0072 0327 158 0052 030C 159 0072 030C 15A 0053 0301
   15B 0073 0301 15C 0053 0302 15D 0073 0302 15E 0053 0327 15F 0073 0327 160 0053 030C
   161 0073 030C 162 0054 0327 163 0074 0327 164 0054 030C 165 0074 030C 168 0055 0303
   169 0075 0303 16A 0055 0304 16B 0075 0304 16C 0055 0306 16D 0075 0306 16E 0055 030A
   16F 0075 030A 170 0055 030B 171 0075 030B 172 0055 0328 173 0075 0328 174 0057 0302
   175 0077 0302 176 0059 0302 177 0079 0302 178 0059 0308 179 005A 0301 17A 007A 0301
   17B 005A 0307 17C 007A 0307 17D 005A 030C 17E 007A 030C 1A0 004F 031B 1A1 006F 031B
   1AF 0055 031B 1B0 0075 031B 1CD 0041 030C 1CE 0061 030C 1CF 0049 030C 1D0 0069 030C
   1D1 004F 030C 1D2 006F 030C 1D3 0055 030C 1D4 0075 030C 1D5 00DC 0304 1D6 00FC 0304
   1D7 00DC 0301 1D8 00FC 0301 1D9 00DC 030C 1DA 00FC 030C 1DB 00DC 0300 1DC 00FC 0300
   1DE 00C4 0304 1DF 00E4 0304 1E0 0226 0304 1E1 0227 0304 1E2 00C6 0304 1E3 00E6 0304
   1E6 0047 030C 1E7 0067 030C 1E8 004B 030C 1E9 006B 030C 1EA 004F 0328 1EB 006F 0328
   1EC 01EA 0304 1ED 01EB 0304 1EE 01B7 030C 1EF 0292 030C 1F0 006A 030C 1F4 0047 0301
   1F5 0067 0301 1F8 004E 0300 1F9 006E 0300 1FA 00C5 0301 1FB 00E5 0301 1FC 00C6 0301
   1FD 00E6 0301 1FE 00D8 0301 1FF 00F8 0301 200 0041 030F 201 0061 030F 202 0041 0311
   203 0061 0311 204 0045 030F 205 0065 030F 206 0045 0311 207 0065 0311 208 0049 030F
   209 0069 030F 20A 0049 0311 20B 0069 0311 20C 004F 030F 20D 006F 030F 20E 004F 0311
   20F 006F 0311 210 0052 030F 211 0072 030F 212 0052 0311 213 0072 0311 214 0055 030F
   215 0075 030F 216 0055 0311 217 0075 0311 218 0053 0326 219 0073 0326 21A 0054 0326
   21B 0074 0326 21E 0048 030C 21F 0068 030C 226 0041 0307 227 0061 0307 228 0045 0327
   229 0065 0327 22A 00D6 0304 22B 00F6 0304 22C 00D5 0304 22D 00F5 0304 22E 004F 0307
   22F 006F 0307 230 022E 0304 231 022F 0304 232 0059 0304 233 0079 0304 340 0300 0 341 0301 0
   343 0313 0 344 0308 0301 374 02B9 0 37E 003B 0 385 00A8 0301 386 0391 0301 387 00B7 0
   388 0395 0301 389 0397 0301 38A 0399 0301 38C 039F 0301 38E 03A5 0301 38F 03A9 0301
   390 03CA 0301 3AA 0399 0308 3AB 03A5 0308 3AC 03B1 0301 3AD 03B5 0301 3AE 03B7 0301
   3AF 03B9 0301 3B0 03CB 0301 3CA 03B9 0308 3CB 03C5 0308 3CC 03BF 0301 3CD 03C5 0301
   3CE 03C9 0301 3D3 03D2 0301 3D4 03D2 0308 400 0415 0300 401 0415 0308 403 0413 0301
   407 0406 0308 40C 041A 0301 40D 0418 0300 40E 0423 0306 419 0418 0306 439 0438 0306
   450 0435 0300 451 0435 0308 453 0433 0301 457 0456 0308 45C 043A 0301 45D 0438 0300
   45E 0443 0306 476 0474 030F 477 0475 030F 4C1 0416 0306 4C2 0436 0306 4D0 0410 0306
   4D1 0430 0306 4D2 0410 0308 4D3 0430 0308 4D6 0415 0306 4D7 0435 0306 4DA 04D8 0308
   4DB 04D9 0308 4DC 0416 0308 4DD 0436 0308 4DE 0417 0308 4DF 0437 0308 4E2 0418 0304
   4E3 0438 0304 4E4 0418 0308 4E5 0438 0308 4E6 041E 0308 4E7 043E 0308 4EA 04E8 0308
   4EB 04E9 0308 4EC 042D 0308 4ED 044D 0308 4EE 0423 0304 4EF 0443 0304 4F0 0423 0308
   4F1 0443 0308 4F2 0423 030B 4F3 0443 030B 4F4 0427 0308 4F5 0447 0308 4F8 042B 0308
   4F9 044B 0308 622 0627 0653 623 0627 0654 624 0648 0654 625 0627 0655 626 064A 0654
   6C0 06D5 0654 6C2 06C1 0654 6D3 06D2 0654 929 0928 093C 931 0930 093C 934 0933 093C
   958 0915 093C 959 0916 093C 95A 0917 093C 95B 091C 093C 95C 0921 093C 95D 0922 093C
   95E 092B 093C 95F 092F 093C 9CB 09C7 09BE 9CC 09C7 09D7 9DC 09A1 09BC 9DD 09A2 09BC
   9DF 09AF 09BC A33 0A32 0A3C A36 0A38 0A3C A59 0A16 0A3C A5A 0A17 0A3C A5B 0A1C 0A3C
   A5E 0A2B 0A3C B48 0B47 0B56 B4B 0B47 0B3E B4C 0B47 0B57 B5C 0B21 0B3C B5D 0B22 0B3C
   B94 0B92 0BD7 BCA 0BC6 0BBE BCB 0BC7 0BBE BCC 0BC6 0BD7 C48 0C46 0C56 CC0 0CBF 0CD5
   CC7 0CC6 0CD5 CC8 0CC6 0CD6 CCA 0CC6 0CC2 CCB 0CCA 0CD5 D4A 0D46 0D3E D4B 0D47 0D3E
   D4C 0D46 0D57 DDA 0DD9 0DCA DDC 0DD9 0DCF DDD 0DDC 0DCA DDE 0DD9 0DDF F43 0F42 0FB7
   F4D 0F4C 0FB7 F52 0F51 0FB7 F57 0F56 0FB7 F5C 0F5B 0FB7 F69 0F40 0FB5 F73 0F71 0F72
   F75 0F71 0F74 F76 0FB2 0F80 F78 0FB3 0F80 F81 0F71 0F80 F93 0F92 0FB7 F9D 0F9C 0FB7
   FA2 0FA1 0FB7 FA7 0FA6 0FB7 FAC 0FAB 0FB7 FB9 0F90 0FB5 1026 1025 102E 1B06 1B05 1B35
   1B08 1B07 1B35 1B0A 1B09 1B35 1B0C 1B0B 1B35 1B0E 1B0D 1B35 1B12 1B11 1B35 1B3B 1B3A 1B35
   1B3D 1B3C 1B35 1B40 1B3E 1B35 1B41 1B3F 1B35 1B43 1B42 1B35 1E00 0041 0325 1E01 0061 0325
   1E02 0042 0307 1E03 0062 0307 1E04 0042 0323 1E05 0062 0323 1E06 0042 0331 1E07 0062 0331
   1E08 00C7 0301 1E09 00E7 0301 1E0A 0044 0307 1E0B 0064 0307 1E0C 0044 0323 1E0D 0064 0323
   1E0E 0044 0331 1E0F 0064 0331 1E10 0044 0327 1E11 0064 0327 1E12 0044 032D 1E13 0064 032D
   1E14 0112 0300 1E15 0113 0300 1E16 0112 0301 1E17 0113 0301 1E18 0045 032D 1E19 0065 032D
   1E1A 0045 0330 1E1B 0065 0330 1E1C 0228 0306 1E1D 0229 0306 1E1E 0046 0307 1E1F 0066 0307
   1E20 0047 0304 1E21 0067 0304 1E22 0048 0307 1E23 0068 0307 1E24 0048 0323 1E25 0068 0323
   1E26 0048 0308 1E27 0068 0308 1E28 0048 0327 1E29 0068 0327 1E2A 0048 032E 1E2B 0068 032E
   1E2C 0049 0330 1E2D 0069 0330 1E2E 00CF 0301 1E2F 00EF 0301 1E30 004B 0301 1E31 006B 0301
   1E32 004B 0323 1E33 006B 0323 1E34 004B 0331 1E35 006B 0331 1E36 004C 0323 1E37 006C 0323
   1E38 1E36 0304 1E39 1E37 0304 1E3A 004C 0331 1E3B 006C 0331 1E3C 004C 032D 1E3D 006C 032D
   1E3E 004D 0301 1E3F 006D 0301 1E40 004D 0307 1E41 006D 0307 1E42 004D 0323 1E43 006D 0323
   1E44 004E 0307 1E45 006E 0307 1E46 004E 0323 1E47 006E 0323 1E48 004E 0331 1E49 006E 0331
   1E4A 004E 032D 1E4B 006E 032D 1E4C 00D5 0301 1E4D 00F5 0301 1E4E 00D5 0308 1E4F 00F5 0308
   1E50 014C 0300 1E51 014D 0300 1E52 014C 0301 1E53 014D 0301 1E54 0050 0301 1E55 0070 0301
   1E56 0050 0307 1E57 0070 0307 1E58 0052 0307 1E59 0072 0307 1E5A 0052 0323 1E5B 0072 0323
   1E5C 1E5A 0304 1E5D 1E5B 0304 1E5E 0052 0331 1E5F 0072 0331 1E60 0053 0307 1E61 0073 0307
   1E62 0053 0323 1E63 0073 0323 1E64 015A 0307 1E65 015B 0307 1E66 0160 0307 1E67 0161 0307
   1E68 1E62 0307 1E69 1E63 0307 1E6A 0054 0307 1E6B 0074 0307 1E6C 0054 0323 1E6D 0074 0323
   1E6E 0054 0331 1E6F 0074 0331 1E70 0054 032D 1E71 0074 032D 1E72 0055 0324 1E73 0075 0324
   1E74 0055 0330 1E75 0075 0330 1E76 0055 032D 1E77 0075 032D 1E78 0168 0301 1E79 0169 0301
   1E7A 016A 0308 1E7B 016B 0308 1E7C 0056 0303 1E7D 0076 0303 1E7E 0056 0323 1E7F 0076 0323
   1E80 0057 0300 1E81 0077 0300 1E82 0057 0301 1E83 0077 0301 1E84 0057 0308 1E85 0077 0308
   1E86 0057 0307 1E87 0077 0307 1E88 0057 0323 1E89 0077 0323 1E8A 0058 0307 1E8B 0078 0307
   1E8C 0058 0308 1E8D 0078 0308 1E8E 0059 0307 1E8F 0079 0307 1E90 005A 0302 1E91 007A 0302
   1E92 005A 0323 1E93 007A 0323 1E94 005A 0331 1E95 007A 0331 1E96 0068 0331 1E97 0074 0308
   1E98 0077 030A 1E99 0079 030A 1E9B 017F 0307 1EA0 0041 0323 1EA1 0061 0323 1EA2 0041 0309
   1EA3 0061 0309 1EA4 00C2 0301 1EA5 00E2 0301 1EA6 00C2 0300 1EA7 00E2 0300 1EA8 00C2 0309
   1EA9 00E2 0309 1EAA 00C2 0303 1EAB 00E2 0303 1EAC 1EA0 0302 1EAD 1EA1 0302 1EAE 0102 0301
   1EAF 0103 0301 1EB0 0102 0300 1EB1 0103 0300 1EB2 0102 0309 1EB3 0103 0309 1EB4 0102 0303
   1EB5 0103 0303 1EB6 1EA0 0306 1EB7 1EA1 0306 1EB8 0045 0323 1EB9 0065 0323 1EBA 0045 0309
   1EBB 0065 0309 1EBC 0045 0303 1EBD 0065 0303 1EBE 00CA 0301 1EBF 00EA 0301 1EC0 00CA 0300
   1EC1 00EA 0300 1EC2 00CA 0309 1EC3 00EA 0309 1EC4 00CA 0303 1EC5 00EA 0303 1EC6 1EB8 0302
   1EC7 1EB9 0302 1EC8 0049 0309 1EC9 0069 0309 1ECA 0049 0323 1ECB 0069 0323 1ECC 004F 0323
   1ECD 006F 0323 1ECE 004F 0309 1ECF 006F 0309 1ED0 00D4 0301 1ED1 00F4 0301 1ED2 00D4 0300
   1ED3 00F4 0300 1ED4 00D4 0309 1ED5 00F4 0309 1ED6 00D4 0303 1ED7 00F4 0303 1ED8 1ECC 0302
   1ED9 1ECD 0302 1EDA 01A0 0301 1EDB 01A1 0301 1EDC 01A0 0300 1EDD 01A1 0300 1EDE 01A0 0309
   1EDF 01A1 0309 1EE0 01A0 0303 1EE1 01A1 0303 1EE2 01A0 0323 1EE3 01A1 0323 1EE4 0055 0323
   1EE5 0075 0323 1EE6 0055 0309 1EE7 0075 0309 1EE8 01AF 0301 1EE9 01B0 0301 1EEA 01AF 0300
   1EEB 01B0 0300 1EEC 01AF 0309 1EED 01B0 0309 1EEE 01AF 0303 1EEF 01B0 0303 1EF0 01AF 0323
   1EF1 01B0 0323 1EF2 0059 0300 1EF3 0079 0300 1EF4 0059 0323 1EF5 0079 0323 1EF6 0059 0309
   1EF7 0079 0309 1EF8 0059 0303 1EF9 0079 0303 1F00 03B1 0313 1F01 03B1 0314 1F02 1F00 0300
   1F03 1F01 0300 1F04 1F00 0301 1F05 1F01 0301 1F06 1F00 0342 1F07 1F01 0342 1F08 0391 0313
   1F09 0391 0314 1F0A 1F08 0300 1F0B 1F09 0300 1F0C 1F08 0301 1F0D 1F09 0301 1F0E 1F08 0342
   1F0F 1F09 0342 1F10 03B5 0313 1F11 03B5 0314 1F12 1F10 0300 1F13 1F11 0300 1F14 1F10 0301
   1F15 1F11 0301 1F18 0395 0313 1F19 0395 0314 1F1A 1F18 0300 1F1B 1F19 0300 1F1C 1F18 0301
   1F1D 1F19 0301 1F20 03B7 0313 1F21 03B7 0314 1F22 1F20 0300 1F23 1F21 0300 1F24 1F20 0301
   1F25 1F21 0301 1F26 1F20 0342 1F27 1F21 0342 1F28 0397 0313 1F29 0397 0314 1F2A 1F28 0300
   1F2B 1F29 0300 1F2C 1F28 0301 1F2D 1F29 0301 1F2E 1F28 0342 1F2F 1F29 0342 1F30 03B9 0313
   1F31 03B9 0314 1F32 1F30 0300 1F33 1F31 0300 1F34 1F30 0301 1F35 1F31 0301 1F36 1F30 0342
   1F37 1F31 0342 1F38 0399 0313 1F39 0399 0314 1F3A 1F38 0300 1F3B 1F39 0300 1F3C 1F38 0301
   1F3D 1F39 0301 1F3E 1F38 0342 1F3F 1F39 0342 1F40 03BF 0313 1F41 03BF 0314 1F42 1F40 0300
   1F43 1F41 0300 1F44 1F40 0301 1F45 1F41 0301 1F48 039F 0313 1F49 039F 0314 1F4A 1F48 0300
   1F4B 1F49 0300 1F4C 1F48 0301 1F4D 1F49 0301 1F50 03C5 0313 1F51 03C5 0314 1F52 1F50 0300
   1F53 1F51 0300 1F54 1F50 0301 1F55 1F51 0301 1F56 1F50 0342 1F57 1F51 0342 1F59 03A5 0314
   1F5B 1F59 0300 1F5D 1F59 0301 1F5F 1F59 0342 1F60 03C9 0313 1F61 03C9 0314 1F62 1F60 0300
   1F63 1F61 0300 1F64 1F60 0301 1F65 1F61 0301 1F66 1F60 0342 1F67 1F61 0342 1F68 03A9 0313
   1F69 03A9 0314 1F6A 1F68 0300 1F6B 1F69 0300 1F6C 1F68 0301 1F6D 1F69 0301 1F6E 1F68 0342
   1F6F 1F69 0342 1F70 03B1 0300 1F71 03AC 0 1F72 03B5 0300 1F73 03AD 0 1F74 03B7 0300
   1F75 03AE 0 1F76 03B9 0300 1F77 03AF 0 1F78 03BF 0300 1F79 03CC 0 1F7A 03C5 0300 1F7B 03CD 0
   1F7C 03C9 0300 1F7D 03CE 0 1F80 1F00 0345 1F81 1F01 0345 1F82 1F02 0345 1F83 1F03 0345
   1F84 1F04 0345 1F85 1F05 0345 1F86 1F06 0345 1F87 1F07 0345 1F88 1F08 0345 1F89 1F09 0345
   1F8A 1F0A 0345 1F8B 1F0B 0345 1F8C 1F0C 0345 1F8D 1F0D 0345 1F8E 1F0E 0345 1F8F 1F0F 0345
   1F90 1F20 0345 1F91 1F21 0345 1F92 1F22 0345 1F93 1F23 0345 1F94 1F24 0345 1F95 1F25 0345
   1F96 1F26 0345 1F97 1F27 0345 1F98 1F28 0345 1F99 1F29 0345 1F9A 1F2A 0345 1F9B 1F2B 0345
   1F9C 1F2C 0345 1F9D 1F2D 0345 1F9E 1F2E 0345 1F9F 1F2F 0345 1FA0 1F60 0345 1FA1 1F61 0345
   1FA2 1F62 0345 1FA3 1F63 0345 1FA4 1F64 0345 1FA5 1F65 0345 1FA6 1F66 0345 1FA7 1F67 0345
   1FA8 1F68 0345 1FA9 1F69 0345 1FAA 1F6A 0345 1FAB 1F6B 0345 1FAC 1F6C 0345 1FAD 1F6D 0345
   1FAE 1F6E 0345 1FAF 1F6F 0345 1FB0 03B1 0306 1FB1 03B1 0304 1FB2 1F70 0345 1FB3 03B1 0345
   1FB4 03AC 0345 1FB6 03B1 0342 1FB7 1FB6 0345 1FB8 0391 0306 1FB9 0391 0304 1FBA 0391 0300
   1FBB 0386 0 1FBC 0391 0345 1FBE 03B9 0 1FC1 00A8 0342 1FC2 1F74 0345 1FC3 03B7 0345
   1FC4 03AE 0345 1FC6 03B7 0342 1FC7 1FC6 0345 1FC8 0395 0300 1FC9 0388 0 1FCA 0397 0300
   1FCB 0389 0 1FCC 0397 0345 1FCD 1FBF 0300 1FCE 1FBF 0301 1FCF 1FBF 0342 1FD0 03B9 0306
   1FD1 03B9 0304 1FD2 03CA 0300 1FD3 0390 0 1FD6 03B9 0342 1FD7 03CA 0342 1FD8 0399 0306
   1FD9 0399 0304 1FDA 0399 0300 1FDB 038A 0 1FDD 1FFE 0300 1FDE 1FFE 0301 1FDF 1FFE 0342
   1FE0 03C5 0306 1FE1 03C5 0304 1FE2 03CB 0300 1FE3 03B0 0 1FE4 03C1 0313 1FE5 03C1 0314
   1FE6 03C5 0342 1FE7 03CB 0342 1FE8 03A5 0306 1FE9 03A5 0304 1FEA 03A5 0300 1FEB 038E 0
   1FEC 03A1 0314 1FED 00A8 0300 1FEE 0385 0 1FEF 0060 0 1FF2 1F7C 0345 1FF3 03C9 0345
   1FF4 03CE 0345 1FF6 03C9 0342 1FF7 1FF6 0345 1FF8 039F 0300 1FF9 038C 0 1FFA 03A9 0300
   1FFB 038F 0 1FFC 03A9 0345 1FFD 00B4 0 2000 2002 0 2001 2003 0
   219A 2190 0338 219B 2192 0338 21AE 2194 0338 21CD 21D0 0338 21CE 21D4 0338
   21CF 21D2 0338 2204 2203 0338 2209 2208 0338 220C 220B 0338 2224 2223 0338 2226 2225 0338
   2241 223C 0338 2244 2243 0338 2247 2245 0338 2249 2248 0338 2260 003D 0338 2262 2261 0338
   226D 224D 0338 226E 003C 0338 226F 003E 0338 2270 2264 0338 2271 2265 0338 2274 2272 0338
   2275 2273 0338 2278 2276 0338 2279 2277 0338 2280 227A 0338 2281 227B 0338 2284 2282 0338
   2285 2283 0338 2288 2286 0338 2289 2287 0338 22AC 22A2 0338 22AD 22A8 0338 22AE 22A9 0338
   22AF 22AB 0338 22E0 227C 0338 22E1 227D 0338 22E2 2291 0338 22E3 2292 0338 22EA 22B2 0338
   22EB 22B3 0338 22EC 22B4 0338 22ED 22B5 0338 2329 3008 0 232A 3009 0 2ADC 2ADD 0338
   304C 304B 3099 304E 304D 3099 3050 304F 3099 3052 3051 3099 3054 3053 3099 3056 3055 3099
   3058 3057 3099 305A 3059 3099 305C 305B 3099 305E 305D 3099 3060 305F 3099 3062 3061 3099
   3065 3064 3099 3067 3066 3099 3069 3068 3099 3070 306F 3099 3071 306F 309A 3073 3072 3099
   3074 3072 309A 3076 3075 3099 3077 3075 309A 3079 3078 3099 307A 3078 309A 307C 307B 3099
   307D 307B 309A 3094 3046 3099 309E 309D 3099 30AC 30AB 3099 30AE 30AD 3099 30B0 30AF 3099
   30B2 30B1 3099 30B4 30B3 3099 30B6 30B5 3099 30B8 30B7 3099 30BA 30B9 3099 30BC 30BB 3099
   30BE 30BD 3099 30C0 30BF 3099 30C2 30C1 3099 30C5 30C4 3099 30C7 30C6 3099 30C9 30C8 3099
   30D0 30CF 3099 30D1 30CF 309A 30D3 30D2 3099 30D4 30D2 309A 30D6 30D5 3099 30D7 30D5 309A
   30D9 30D8 3099 30DA 30D8 309A 30DC 30DB 3099 30DD 30DB 309A 30F4 30A6 3099 30F7 30EF 3099
   30F8 30F0 3099 30F9 30F1 3099 30FA 30F2 3099 30FE 30FD 3099 F900 8C48 0 F901 66F4 0
   F902 8ECA 0 F903 8CC8 0 F904 6ED1 0 F905 4E32 0 F906 53E5 0 F907 9F9C 0 F908 9F9C 0
   F909 5951 0 F90A 91D1 0 F90B 5587 0 F90C 5948 0 F90D 61F6 0 F90E 7669 0 F90F 7F85 0
   F910 863F 0 F911 87BA 0 F912 88F8 0 F913 908F 0 F914 6A02 0 F915 6D1B 0 F916 70D9 0
   F917 73DE 0 F918 843D 0 F919 916A 0 F91A 99F1 0 F91B 4E82 0 F91C 5375 0 F91D 6B04 0
   F91E 721B 0 F91F 862D 0 F920 9E1E 0 F921 5D50 0 F922 6FEB 0 F923 85CD 0 F924 8964 0
   F925 62C9 0 F926 81D8 0 F927 881F 0 F928 5ECA 0 F929 6717 0 F92A 6D6A 0 F92B 72FC 0
   F92C 90CE 0 F92D 4F86 0 F92E 51B7 0 F92F 52DE 0 F930 64C4 0 F931 6AD3 0 F932 7210 0
   F933 76E7 0 F934 8001 0 F935 8606 0 F936 865C 0 F937 8DEF 0 F938 9732 0 F939 9B6F 0
   F93A 9DFA 0 F93B 788C 0 F93C 797F 0 F93D 7DA0 0 F93E 83C9 0 F93F 9304 0 F940 9E7F 0
   F941 8AD6 0 F942 58DF 0 F943 5F04 0 F944 7C60 0 F945 807E 0 F946 7262 0 F947 78CA 0
   F948 8CC2 0 F949 96F7 0 F94A 58D8 0 F94B 5C62 0 F94C 6A13 0 F94D 6DDA 0 F94E 6F0F 0
   F94F 7D2F 0 F950 7E37 0 F951 964B 0 F952 52D2 0 F953 808B 0 F954 51DC 0 F955 51CC 0
   F956 7A1C 0 F957 7DBE 0 F958 83F1 0 F959 9675 0 F95A 8B80 0 F95B 62CF 0 F95C 6A02 0
   F95D 8AFE 0 F95E 4E39 0 F95F 5BE7 0 F960 6012 0 F961 7387 0 F962 7570 0 F963 5317 0
   F964 78FB 0 F965 4FBF 0 F966 5FA9 0 F967 4E0D 0 F968 6CCC 0 F969 6578 0 F96A 7D22 0
   F96B 53C3 0 F96C 585E 0 F96D 7701 0 F96E 8449 0 F96F 8AAA 0 F970 6BBA 0 F971 8FB0 0
   F972 6C88 0 F973 62FE 0 F974 82E5 0 F975 63A0 0 F976 7565 0 F977 4EAE 0 F978 5169 0
   F979 51C9 0 F97A 6881 0 F97B 7CE7 0 F97C 826F 0 F97D 8AD2 0 F97E 91CF 0 F97F 52F5 0
   F980 5442 0 F981 5973 0 F982 5EEC 0 F983 65C5 0 F984 6FFE 0 F985 792A 0 F986 95AD 0
   F987 9A6A 0 F988 9E97 0 F989 9ECE 0 F98A 529B 0 F98B 66C6 0 F98C 6B77 0 F98D 8F62 0
   F98E 5E74 0 F98F 6190 0 F990 6200 0 F991 649A 0 F992 6F23 0 F993 7149 0 F994 7489 0
   F995 79CA 0 F996 7DF4 0 F997 806F 0 F998 8F26 0 F999 84EE 0 F99A 9023 0 F99B 934A 0
   F99C 5217 0 F99D 52A3 0 F99E 54BD 0 F99F 70C8 0 F9A0 88C2 0 F9A1 8AAA 0 F9A2 5EC9 0
   F9A3 5FF5 0 F9A4 637B 0 F9A5 6BAE 0 F9A6 7C3E 0 F9A7 7375 0 F9A8 4EE4 0 F9A9 56F9 0
   F9AA 5BE7 0 F9AB 5DBA 0 F9AC 601C 0 F9AD 73B2 0 F9AE 7469 0 F9AF 7F9A 0 F9B0 8046 0
   F9B1 9234 0 F9B2 96F6 0 F9B3 9748 0 F9B4 9818 0 F9B5 4F8B 0 F9B6 79AE 0 F9B7 91B4 0
   F9B8 96B8 0 F9B9 60E1 0 F9BA 4E86 0 F9BB 50DA 0 F9BC 5BEE 0 F9BD 5C3F 0 F9BE 6599 0
   F9BF 6A02 0 F9C0 71CE 0 F9C1 7642 0 F9C2 84FC 0 F9C3 907C 0 F9C4 9F8D 0 F9C5 6688 0
   F9C6 962E 0 F9C7 5289 0 F9C8 677B 0 F9C9 67F3 0 F9CA 6D41 0 F9CB 6E9C 0 F9CC 7409 0
   F9CD 7559 0 F9CE 786B 0 F9CF 7D10 0 F9D0 985E 0 F9D1 516D 0 F9D2 622E 0 F9D3 9678 0
   F9D4 502B 0 F9D5 5D19 0 F9D6 6DEA 0 F9D7 8F2A 0 F9D8 5F8B 0 F9D9 6144 0 F9DA 6817 0
   F9DB 7387 0 F9DC 9686 0 F9DD 5229 0 F9DE 540F 0 F9DF 5C65 0 F9E0 6613 0 F9E1 674E 0
   F9E2 68A8 0 F9E3 6CE5 0 F9E4 7406 0 F9E5 75E2 0 F9E6 7F79 0 F9E7 88CF 0 F9E8 88E1 0
   F9E9 91CC 0 F9EA 96E2 0 F9EB 533F 0 F9EC 6EBA 0 F9ED 541D 0 F9EE 71D0 0 F9EF 7498 0
   F9F0 85FA 0 F9F1 96A3 0 F9F2 9C57 0 F9F3 9E9F 0 F9F4 6797 0 F9F5 6DCB 0 F9F6 81E8 0
   F9F7 7ACB 0 F9F8 7B20 0 F9F9 7C92 0 F9FA 72C0 0 F9FB 7099 0 F9FC 8B58 0 F9FD 4EC0 0
   F9FE 8336 0 F9FF 523A 0 FA00 5207 0 FA01 5EA6 0 FA02 62D3 0 FA03 7CD6 0 FA04 5B85 0
   FA05 6D1E 0 FA06 66B4 0 FA07 8F3B 0 FA08 884C 0 FA09 964D 0 FA0A 898B 0 FA0B 5ED3 0
   FA0C 5140 0 FA0D 55C0 0 FA10 585A 0 FA12 6674 0 FA15 51DE 0 FA16 732A 0 FA17 76CA 0
   FA18 793C 0 FA19 795E 0 FA1A 7965 0 FA1B 798F 0 FA1C 9756 0 FA1D 7CBE 0 FA1E 7FBD 0
   FA20 8612 0 FA22 8AF8 0 FA25 9038 0 FA26 90FD 0 FA2A 98EF 0 FA2B 98FC 0 FA2C 9928 0
   FA2D 9DB4 0 FA2E 90DE 0 FA2F 96B7 0 FA30 4FAE 0 FA31 50E7 0 FA32 514D 0 FA33 52C9 0
   FA34 52E4 0 FA35 5351 0 FA36 559D 0 FA37 5606 0 FA38 5668 0 FA39 5840 0 FA3A 58A8 0
   FA3B 5C64 0 FA3C 5C6E 0 FA3D 6094 0 FA3E 6168 0 FA3F 618E 0 FA40 61F2 0 FA41 654F 0
   FA42 65E2 0 FA43 6691 0 FA44 6885 0 FA45 6D77 0 FA46 6E1A 0 FA47 6F22 0 FA48 716E 0
   FA49 722B 0 FA4A 7422 0 FA4B 7891 0 FA4C 793E 0 FA4D 7949 0 FA4E 7948 0 FA4F 7950 0
   FA50 7956 0 FA51 795D 0 FA52 798D 0 FA53 798E 0 FA54 7A40 0 FA55 7A81 0 FA56 7BC0 0
   FA57 7DF4 0 FA58 7E09 0 FA59 7E41 0 FA5A 7F72 0 FA5B 8005 0 FA5C 81ED 0 FA5D 8279 0
   FA5E 8279 0 FA5F 8457 0 FA60 8910 0 FA61 8996 0 FA62 8B01 0 FA63 8B39 0 FA64 8CD3 0
   FA65 8D08 0 FA66 8FB6 0 FA67 9038 0 FA68 96E3 0 FA69 97FF 0 FA6A 983B 0 FA6B 6075 0
   FA6C 242EE 0 FA6D 8218 0 FA70 4E26 0 FA71 51B5 0 FA72 5168 0 FA73 4F80 0 FA74 5145 0
   FA75 5180 0 FA76 52C7 0 FA77 52FA 0 FA78 559D 0 FA79 5555 0 FA7A 5599 0 FA7B 55E2 0
   FA7C 585A 0 FA7D 58B3 0 FA7E 5944 0 FA7F 5954 0 FA80 5A62 0 FA81 5B28 0 FA82 5ED2 0
   FA83 5ED9 0 FA84 5F69 0 FA85 5FAD 0 FA86 60D8 0 FA87 614E 0 FA88 6108 0 FA89 618E 0
   FA8A 6160 0 FA8B 61F2 0 FA8C 6234 0 FA8D 63C4 0 FA8E 641C 0 FA8F 6452 0 FA90 6556 0
   FA91 6674 0 FA92 6717 0 FA93 671B 0 FA94 6756 0 FA95 6B79 0 FA96 6BBA 0 FA97 6D41 0
   FA98 6EDB 0 FA99 6ECB 0 FA9A 6F22 0 FA9B 701E 0 FA9C 716E 0 FA9D 77A7 0 FA9E 7235 0
   FA9F 72AF 0 FAA0 732A 0 FAA1 7471 0 FAA2 7506 0 FAA3 753B 0 FAA4 761D 0 FAA5 761F 0
   FAA6 76CA 0 FAA7 76DB 0 FAA8 76F4 0 FAA9 774A 0 FAAA 7740 0 FAAB 78CC 0 FAAC 7AB1 0
   FAAD 7BC0 0 FAAE 7C7B 0 FAAF 7D5B 0 FAB0 7DF4 0 FAB1 7F3E 0 FAB2 8005 0 FAB3 8352 0
   FAB4 83EF 0 FAB5 8779 0 FAB6 8941 0 FAB7 8986 0 FAB8 8996 0 FAB9 8ABF 0 FABA 8AF8 0
   FABB 8ACB 0 FABC 8B01 0 FABD 8AFE 0 FABE 8AED 0 FABF 8B39 0 FAC0 8B8A 0 FAC1 8D08 0
   FAC2 8F38 0 FAC3 9072 0 FAC4 9199 0 FAC5 9276 0 FAC6 967C 0 FAC7 96E3 0 FAC8 9756 0
   FAC9 97DB 0 FACA 97FF 0 FACB 980B 0 FACC 983B 0 FACD 9B12 0 FACE 9F9C 0 FACF 2284A 0
   FAD0 22844 0 FAD1 233D5 0 FAD2 3B9D 0 FAD3 4018 0 FAD4 4039 0 FAD5 25249 0 FAD6 25CD0 0
   FAD7 27ED3 0 FAD8 9F43 0 FAD9 9F8E 0 FB1D 05D9 05B4 FB1F 05F2 05B7 FB2A 05E9 05C1
   FB2B 05E9 05C2 FB2C FB49 05C1 FB2D FB49 05C2 FB2E 05D0 05B7 FB2F 05D0 05B8 FB30 05D0 05BC
   FB31 05D1 05BC FB32 05D2 05BC FB33 05D3 05BC FB34 05D4 05BC FB35 05D5 05BC FB36 05D6 05BC
   FB38 05D8 05BC FB39 05D9 05BC FB3A 05DA 05BC FB3B 05DB 05BC FB3C 05DC 05BC FB3E 05DE 05BC
   FB40 05E0 05BC FB41 05E1 05BC FB43 05E3 05BC FB44 05E4 05BC FB46 05E6 05BC FB47 05E7 05BC
   FB48 05E8 05BC FB49 05E9 05BC FB4A 05EA 05BC FB4B 05D5 05B9 FB4C 05D1 05BF FB4D 05DB 05BF
   FB4E 05E4 05BF 1109A 11099 110BA 1109C 1109B 110BA 110AB 110A5 110BA 1112E 11131 11127
   1112F 11132 11127 1134B 11347 1133E 1134C 11347 11357 114BB 114B9 114BA 114BC 114B9 114B0
   114BE 114B9 114BD 115BA 115B8 115AF 115BB 115B9 115AF 11938 11935 11930 1D15E 1D157 1D165
   1D15F 1D158 1D165 1D160 1D15F 1D16E 1D161 1D15F 1D16F 1D162 1D15F 1D170 1D163 1D15F 1D171
   1D164 1D15F 1D172 1D1BB 1D1B9 1D165 1D1BC 1D1BA 1D165 1D1BD 1D1BB 1D16E 1D1BE 1D1BC 1D16E
   1D1BF 1D1BB 1D16F 1D1C0 1D1BC 1D16F 2F800 4E3D 0 2F801 4E38 0 2F802 4E41 0 2F803 20122 0
   2F804 4F60 0 2F805 4FAE 0 2F806 4FBB 0 2F807 5002 0 2F808 507A 0 2F809 5099 0 2F80A 50E7 0
   2F80B 50CF 0 2F80C 349E 0 2F80D 2063A 0 2F80E 514D 0 2F80F 5154 0 2F810 5164 0 2F811 5177 0
   2F812 2051C 0 2F813 34B9 0 2F814 5167 0 2F815 518D 0 2F816 2054B 0 2F817 5197 0 2F818 51A4 0
   2F819 4ECC 0 2F81A 51AC 0 2F81B 51B5 0 2F81C 291DF 0 2F81D 51F5 0 2F81E 5203 0 2F81F 34DF 0
   2F820 523B 0 2F821 5246 0 2F822 5272 0 2F823 5277 0 2F824 3515 0 2F825 52C7 0 2F826 52C9 0
   2F827 52E4 0 2F828 52FA 0 2F829 5305 0 2F82A 5306 0 2F82B 5317 0 2F82C 5349 0 2F82D 5351 0
   2F82E 535A 0 2F82F 5373 0 2F830 537D 0 2F831 537F 0 2F832 537F 0 2F833 537F 0 2F834 20A2C 0
   2F835 7070 0 2F836 53CA 0 2F837 53DF 0 2F838 20B63 0 2F839 53EB 0 2F83A 53F1 0 2F83B 5406 0
   2F83C 549E 0 2F83D 5438 0 2F83E 5448 0 2F83F 5468 0 2F840 54A2 0 2F841 54F6 0 2F842 5510 0
   2F843 5553 0 2F844 5563 0 2F845 5584 0 2F846 5584 0 2F847 5599 0 2F848 55AB 0 2F849 55B3 0
   2F84A 55C2 0 2F84B 5716 0 2F84C 5606 0 2F84D 5717 0 2F84E 5651 0 2F84F 5674 0 2F850 5207 0
   2F851 58EE 0 2F852 57CE 0 2F853 57F4 0 2F854 580D 0 2F855 578B 0 2F856 5832 0 2F857 5831 0
   2F858 58AC 0 2F859 214E4 0 2F85A 58F2 0 2F85B 58F7 0 2F85C 5906 0 2F85D 591A 0 2F85E 5922 0
   2F85F 5962 0 2F860 216A8 0 2F861 216EA 0 2F862 59EC 0 2F863 5A1B 0 2F864 5A27 0 2F865 59D8 0
   2F866 5A66 0 2F867 36EE 0 2F868 36FC 0 2F869 5B08 0 2F86A 5B3E 0 2F86B 5B3E 0 2F86C 219C8 0
   2F86D 5BC3 0 2F86E 5BD8 0 2F86F 5BE7 0 2F870 5BF3 0 2F871 21B18 0 2F872 5BFF 0 2F873 5C06 0
   2F874 5F53 0 2F875 5C22 0 2F876 3781 0 2F877 5C60 0 2F878 5C6E 0 2F879 5CC0 0 2F87A 5C8D 0
   2F87B 21DE4 0 2F87C 5D43 0 2F87D 21DE6 0 2F87E 5D6E 0 2F87F 5D6B 0 2F880 5D7C 0 2F881 5DE1 0
   2F882 5DE2 0 2F883 382F 0 2F884 5DFD 0 2F885 5E28 0 2F886 5E3D 0 2F887 5E69 0 2F888 3862 0
   2F889 22183 0 2F88A 387C 0 2F88B 5EB0 0 2F88C 5EB3 0 2F88D 5EB6 0 2F88E 5ECA 0 2F88F 2A392 0
   2F890 5EFE 0 2F891 22331 0 2F892 22331 0 2F893 8201 0 2F894 5F22 0 2F895 5F22 0 2F896 38C7 0
   2F897 232B8 0 2F898 261DA 0 2F899 5F62 0 2F89A 5F6B 0 2F89B 38E3 0 2F89C 5F9A 0 2F89D 5FCD 0
   2F89E 5FD7 0 2F89F 5FF9 0 2F8A0 6081 0 2F8A1 393A 0 2F8A2 391C 0 2F8A3 6094 0 2F8A4 226D4 0
   2F8A5 60C7 0 2F8A6 6148 0 2F8A7 614C 0 2F8A8 614E 0 2F8A9 614C 0 2F8AA 617A 0 2F8AB 618E 0
   2F8AC 61B2 0 2F8AD 61A4 0 2F8AE 61AF 0 2F8AF 61DE 0 2F8B0 61F2 0 2F8B1 61F6 0 2F8B2 6210 0
   2F8B3 621B 0 2F8B4 625D 0 2F8B5 62B1 0 2F8B6 62D4 0 2F8B7 6350 0 2F8B8 22B0C 0 2F8B9 633D 0
   2F8BA 62FC 0 2F8BB 6368 0 2F8BC 6383 0 2F8BD 63E4 0 2F8BE 22BF1 0 2F8BF 6422 0 2F8C0 63C5 0
   2F8C1 63A9 0 2F8C2 3A2E 0 2F8C3 6469 0 2F8C4 647E 0 2F8C5 649D 0 2F8C6 6477 0 2F8C7 3A6C 0
   2F8C8 654F 0 2F8C9 656C 0 2F8CA 2300A 0 2F8CB 65E3 0 2F8CC 66F8 0 2F8CD 6649 0 2F8CE 3B19 0
   2F8CF 6691 0 2F8D0 3B08 0 2F8D1 3AE4 0 2F8D2 5192 0 2F8D3 5195 0 2F8D4 6700 0 2F8D5 669C 0
   2F8D6 80AD 0 2F8D7 43D9 0 2F8D8 6717 0 2F8D9 671B 0 2F8DA 6721 0 2F8DB 675E 0 2F8DC 6753 0
   2F8DD 233C3 0 2F8DE 3B49 0 2F8DF 67FA 0 2F8E0 6785 0 2F8E1 6852 0 2F8E2 6885 0 2F8E3 2346D 0
   2F8E4 688E 0 2F8E5 681F 0 2F8E6 6914 0 2F8E7 3B9D 0 2F8E8 6942 0 2F8E9 69A3 0 2F8EA 69EA 0
   2F8EB 6AA8 0 2F8EC 236A3 0 2F8ED 6ADB 0 2F8EE 3C18 0 2F8EF 6B21 0 2F8F0 238A7 0 2F8F1 6B54 0
   2F8F2 3C4E 0 2F8F3 6B72 0 2F8F4 6B9F 0 2F8F5 6BBA 0 2F8F6 6BBB 0 2F8F7 23A8D 0 2F8F8 21D0B 0
   2F8F9 23AFA 0 2F8FA 6C4E 0 2F8FB 23CBC 0 2F8FC 6CBF 0 2F8FD 6CCD 0 2F8FE 6C67 0 2F8FF 6D16 0
   2F900 6D3E 0 2F901 6D77 0 2F902 6D41 0 2F903 6D69 0 2F904 6D78 0 2F905 6D85 0 2F906 23D1E 0
   2F907 6D34 0 2F908 6E2F 0 2F909 6E6E 0 2F90A 3D33 0 2F90B 6ECB 0 2F90C 6EC7 0 2F90D 23ED1 0
   2F90E 6DF9 0 2F90F 6F6E 0 2F910 23F5E 0 2F911 23F8E 0 2F912 6FC6 0 2F913 7039 0 2F914 701E 0
   2F915 701B 0 2F916 3D96 0 2F917 704A 0 2F918 707D 0 2F919 7077 0 2F91A 70AD 0 2F91B 20525 0
   2F91C 7145 0 2F91D 24263 0 2F91E 719C 0 2F91F 243AB 0 2F920 7228 0 2F921 7235 0 2F922 7250 0
   2F923 24608 0 2F924 7280 0 2F925 7295 0 2F926 24735 0 2F927 24814 0 2F928 737A 0
   2F929 738B 0 2F92A 3EAC 0 2F92B 73A5 0 2F92C 3EB8 0 2F92D 3EB8 0 2F92E 7447 0 2F92F 745C 0
   2F930 7471 0 2F931 7485 0 2F932 74CA 0 2F933 3F1B 0 2F934 7524 0 2F935 24C36 0 2F936 753E 0
   2F937 24C92 0 2F938 7570 0 2F939 2219F 0 2F93A 7610 0 2F93B 24FA1 0 2F93C 24FB8 0
   2F93D 25044 0 2F93E 3FFC 0 2F93F 4008 0 2F940 76F4 0 2F941 250F3 0 2F942 250F2 0
   2F943 25119 0 2F944 25133 0 2F945 771E 0 2F946 771F 0 2F947 771F 0 2F948 774A 0 2F949 4039 0
   2F94A 778B 0 2F94B 4046 0 2F94C 4096 0 2F94D 2541D 0 2F94E 784E 0 2F94F 788C 0 2F950 78CC 0
   2F951 40E3 0 2F952 25626 0 2F953 7956 0 2F954 2569A 0 2F955 256C5 0 2F956 798F 0
   2F957 79EB 0 2F958 412F 0 2F959 7A40 0 2F95A 7A4A 0 2F95B 7A4F 0 2F95C 2597C 0 2F95D 25AA7 0
   2F95E 25AA7 0 2F95F 7AEE 0 2F960 4202 0 2F961 25BAB 0 2F962 7BC6 0 2F963 7BC9 0 2F964 4227 0
   2F965 25C80 0 2F966 7CD2 0 2F967 42A0 0 2F968 7CE8 0 2F969 7CE3 0 2F96A 7D00 0 2F96B 25F86 0
   2F96C 7D63 0 2F96D 4301 0 2F96E 7DC7 0 2F96F 7E02 0 2F970 7E45 0 2F971 4334 0 2F972 26228 0
   2F973 26247 0 2F974 4359 0 2F975 262D9 0 2F976 7F7A 0 2F977 2633E 0 2F978 7F95 0
   2F979 7FFA 0 2F97A 8005 0 2F97B 264DA 0 2F97C 26523 0 2F97D 8060 0 2F97E 265A8 0
   2F97F 8070 0 2F980 2335F 0 2F981 43D5 0 2F982 80B2 0 2F983 8103 0 2F984 440B 0 2F985 813E 0
   2F986 5AB5 0 2F987 267A7 0 2F988 267B5 0 2F989 23393 0 2F98A 2339C 0 2F98B 8201 0
   2F98C 8204 0 2F98D 8F9E 0 2F98E 446B 0 2F98F 8291 0 2F990 828B 0 2F991 829D 0 2F992 52B3 0
   2F993 82B1 0 2F994 82B3 0 2F995 82BD 0 2F996 82E6 0 2F997 26B3C 0 2F998 82E5 0 2F999 831D 0
   2F99A 8363 0 2F99B 83AD 0 2F99C 8323 0 2F99D 83BD 0 2F99E 83E7 0 2F99F 8457 0 2F9A0 8353 0
   2F9A1 83CA 0 2F9A2 83CC 0 2F9A3 83DC 0 2F9A4 26C36 0 2F9A5 26D6B 0 2F9A6 26CD5 0
   2F9A7 452B 0 2F9A8 84F1 0 2F9A9 84F3 0 2F9AA 8516 0 2F9AB 273CA 0 2F9AC 8564 0 2F9AD 26F2C 0
   2F9AE 455D 0 2F9AF 4561 0 2F9B0 26FB1 0 2F9B1 270D2 0 2F9B2 456B 0 2F9B3 8650 0 2F9B4 865C 0
   2F9B5 8667 0 2F9B6 8669 0 2F9B7 86A9 0 2F9B8 8688 0 2F9B9 870E 0 2F9BA 86E2 0 2F9BB 8779 0
   2F9BC 8728 0 2F9BD 876B 0 2F9BE 8786 0 2F9BF 45D7 0 2F9C0 87E1 0 2F9C1 8801 0 2F9C2 45F9 0
   2F9C3 8860 0 2F9C4 8863 0 2F9C5 27667 0 2F9C6 88D7 0 2F9C7 88DE 0 2F9C8 4635 0 2F9C9 88FA 0
   2F9CA 34BB 0 2F9CB 278AE 0 2F9CC 27966 0 2F9CD 46BE 0 2F9CE 46C7 0 2F9CF 8AA0 0 2F9D0 8AED 0
   2F9D1 8B8A 0 2F9D2 8C55 0 2F9D3 27CA8 0 2F9D4 8CAB 0 2F9D5 8CC1 0 2F9D6 8D1B 0 2F9D7 8D77 0
   2F9D8 27F2F 0 2F9D9 20804 0 2F9DA 8DCB 0 2F9DB 8DBC 0 2F9DC 8DF0 0 2F9DD 208DE 0
   2F9DE 8ED4 0 2F9DF 8F38 0 2F9E0 285D2 0 2F9E1 285ED 0 2F9E2 9094 0 2F9E3 90F1 0 2F9E4 9111 0
   2F9E5 2872E 0 2F9E6 911B 0 2F9E7 9238 0 2F9E8 92D7 0 2F9E9 92D8 0 2F9EA 927C 0 2F9EB 93F9 0
   2F9EC 9415 0 2F9ED 28BFA 0 2F9EE 958B 0 2F9EF 4995 0 2F9F0 95B7 0 2F9F1 28D77 0 2F9F2 49E6 0
   2F9F3 96C3 0 2F9F4 5DB2 0 2F9F5 9723 0 2F9F6 29145 0 2F9F7 2921A 0 2F9F8 4A6E 0 2F9F9 4A76 0
   2F9FA 97E0 0 2F9FB 2940A 0 2F9FC 4AB2 0 2F9FD 29496 0 2F9FE 980B 0 2F9FF 980B 0 2FA00 9829 0
   2FA01 295B6 0 2FA02 98E2 0 2FA03 4B33 0 2FA04 9929 0 2FA05 99A7 0 2FA06 99C2 0 2FA07 99FE 0
   2FA08 4BCE 0 2FA09 29B30 0 2FA0A 9B12 0 2FA0B 9C40 0 2FA0C 9CFD 0 2FA0D 4CCE 0 2FA0E 4CED 0
   2FA0F 9D67 0 2FA10 2A0CE 0 2FA11 4CF8 0 2FA12 2A105 0 2FA13 2A20E 0 2FA14 2A291 0
   2FA15 9EBB 0 2FA16 4D56 0 2FA17 9EF9 0 2FA18 9EFE 0 2FA19 9F05 0 2FA1A 9F0F 0 2FA1B 9F16 0
   2FA1C 9F3B 0 2FA1D 2A600 0"

/-- Characters that are taken apart and never put together again. -/
def unpairedRows : String :=
  "344 344 958 958 959 959 95A 95A 95B 95B 95C 95C 95D 95D 95E 95E 95F 95F 9DC 9DC 9DD 9DD
   9DF 9DF A33 A33 A36 A36 A59 A59 A5A A5A A5B A5B A5E A5E B5C B5C B5D B5D F43 F43 F4D F4D
   F52 F52 F57 F57 F5C F5C F69 F69 F73 F73 F75 F75 F76 F76 F78 F78 F81 F81 F93 F93 F9D F9D
   FA2 FA2 FA7 FA7 FAC FAC FB9 FB9 2ADC 2ADC FB1D FB1D FB1F FB1F FB2A FB2A FB2B FB2B FB2C FB2C
   FB2D FB2D FB2E FB2E FB2F FB2F FB30 FB30 FB31 FB31 FB32 FB32 FB33 FB33 FB34 FB34 FB35 FB35
   FB36 FB36 FB38 FB38 FB39 FB39 FB3A FB3A FB3B FB3B FB3C FB3C FB3E FB3E FB40 FB40 FB41 FB41
   FB43 FB43 FB44 FB44 FB46 FB46 FB47 FB47 FB48 FB48 FB49 FB49 FB4A FB4A FB4B FB4B FB4C FB4C
   FB4D FB4D FB4E FB4E 1D15E 1D15E 1D15F 1D15F 1D160 1D160 1D161 1D161 1D162 1D162 1D163 1D163
   1D164 1D164 1D1BB 1D1BB 1D1BC 1D1BC 1D1BD 1D1BD 1D1BE 1D1BE 1D1BF 1D1BF 1D1C0 1D1C0"

def unpairedTable : RangeTable := .ofPairs 1 (hexNumbers unpairedRows)

/-- The combining class of a character. -/
def combiningClass (c : Char) : Nat :=
  if c.toNat < 0x300 then 0 else markTable.classOf c

def decomposeMap : Std.HashMap Nat (Nat × Nat) :=
  (RangeTable.ofTriples (hexNumbers decomposeRows)).rows.foldl
    (fun m row => m.insert row.first (row.last, row.value)) ∅

/-- The letter that the sign for ohm, kelvin or angstrom is. -/
def unitLetter? : Nat → Option Nat
  | 0x2126 => some 0x3A9
  | 0x212A => some 0x4B
  | 0x212B => some 0xC5
  | _ => none

/-- One step of taking apart. -/
def takenApart? (n : Nat) : Option (Nat × Nat) :=
  if n < 0xC0 then none
  else match unitLetter? n with
    | some letter => some (letter, 0)
    | none => decomposeMap[n]?

/-- The pairs that are put together, and what they become. -/
def pairRows : List (Nat × Nat × Nat) :=
  (RangeTable.ofTriples (hexNumbers decomposeRows)).rows.toList.filterMap fun row =>
    if row.value = 0 || unpairedTable.contains (Char.ofNat row.first) then none
    else some (row.last, row.value, row.first)

/-- One step of putting together. The low sixteen bits of the first character
count, next to the whole second one. -/
def composeMap : Std.HashMap (Nat × Nat) Nat :=
  pairRows.foldl (fun m (a, b, c) => m.insert (a % 65536, b) c) ∅

/-- The characters that start a pair. -/
def pairStarts : Std.HashMap Nat Unit :=
  pairRows.foldl (fun m (a, _, _) => m.insert a ()) ∅

/-- Takes a character apart as far as possible. No chain of steps is longer than
four, so `depth` never runs out when it starts at five. -/
def decomposeChar (depth : Nat) (n : Nat) : List Nat :=
  if 0xAC00 ≤ n ∧ n ≤ 0xD7A3 then
    let s := n - 0xAC00
    let lead := 0x1100 + s / 588
    let vowel := 0x1161 + s % 588 / 28
    if s % 28 = 0 then [lead, vowel] else [lead, vowel, 0x11A7 + s % 28]
  else
    match depth with
    | 0 => [n]
    | depth + 1 =>
      match takenApart? n with
      | none => [n]
      | some (a, b) => decomposeChar depth a ++ (if b = 0 then [] else decomposeChar depth b)

/-- The combining class of a code point. -/
def markClass (n : Nat) : Nat := combiningClass (Char.ofNat n)

/-- The characters that end a pair. -/
def pairEnds : Std.HashMap Nat Unit :=
  pairRows.foldl (fun m (_, b, _) => m.insert b ()) ∅

/-- Vowels and final consonants of Hangul syllables. -/
def isHangulTail (n : Nat) : Bool :=
  (0x1161 ≤ n && n < 0x1176) || (0x11A7 ≤ n && n < 0x11C3)

/-- Whether a character joins what stands in front of it: a mark, or a letter that
ends a pair. -/
def joinsBehind (n : Nat) : Bool :=
  markClass n ≠ 0 || isHangulTail n || pairEnds.contains n

/-- Characters that stand for others with marks, though they are not taken apart: the
number of marks at their end, and four more if they begin with one. -/
def markedRows : String :=
  "A8 A8 1 AF AF 1 B4 B4 1 B8 B8 1 1C4 1C6 1 2D8 2DD 1 37A 37A 1 384 384 1 385 385 2 F77 F77 2
   F79 F79 2 1FBD 1FBD 1 1FBF 1FC0 1 1FC1 1FC1 2 1FCD 1FCF 2 1FDD 1FDF 2 1FED 1FEE 2 1FFD 1FFE 1
   2017 2017 1 203E 203E 1 309B 309C 1 3133 3133 5 3135 3136 5 313A 313F 5 314F 3163 5
   326E 327E 1 3304 3304 1 3307 3307 1 3310 3310 1 331E 331E 1 3321 3321 1 3332 3332 1
   333B 333B 1 3340 3340 1 334B 334B 1 334E 334E 1 FBA4 FBA5 1 FBB0 FBB1 1 FC5B FC5D 1
   FC5E FC63 2 FC90 FC90 1 FCD9 FCD9 1 FCF2 FCF4 2 FD3C FD3D 1 FE49 FE4C 1 FE70 FE72 1
   FE74 FE74 1 FE76 FE7F 1 FE81 FE8C 1 FEF5 FEFA 1 FF9E FF9F 5 FFA3 FFA3 5 FFA5 FFA6 5
   FFAA FFAF 5 FFC2 FFC7 5 FFCA FFCF 5 FFD2 FFD7 5 FFDA FFDC 5 FFE3 FFE3 1 1F213 1F213 1"

def markedTable : RangeTable := .ofTriples (hexNumbers markedRows)

/-- How many marks a character begins with. -/
def leadingMarks (n : Nat) : Nat :=
  match markedTable.classOf (Char.ofNat n) with
  | 0 => ((decomposeChar 5 n).takeWhile joinsBehind).length
  | v => v / 4

/-- How many marks a character ends with. -/
def trailingMarks (n : Nat) : Nat :=
  match markedTable.classOf (Char.ofNat n) with
  | 0 => ((decomposeChar 5 n).reverse.takeWhile joinsBehind).length
  | v => v % 4

/-- The single code point that stands for `a` followed by `b`, if there is one. -/
def pair? (a b : Nat) : Option Nat :=
  if 0x1100 ≤ a ∧ a < 0x1113 ∧ 0x1161 ≤ b ∧ b < 0x1176 then
    some (0xAC00 + ((a - 0x1100) * 21 + (b - 0x1161)) * 28)
  else if 0xAC00 ≤ a ∧ a ≤ 0xD7A3 ∧ (a - 0xAC00) % 28 = 0 ∧ 0x11A7 < b ∧ b < 0x11C3 then
    some (a + (b - 0x11A7))
  else composeMap[(a % 65536, b)]?

/-- Whether nothing that follows a character can change it, and it is no mark
itself: it is not put together from others and starts no pair. -/
def isInert (c : Char) : Bool :=
  let n := c.toNat
  let isHangul := (0xAC00 ≤ n && n ≤ 0xD7A3) || (0x1100 ≤ n && n < 0x1113)
  !joinsBehind n && trailingMarks n = 0 && !isHangul && (takenApart? n).isNone
    && !pairStarts.contains n

end GraphWalk.Text
