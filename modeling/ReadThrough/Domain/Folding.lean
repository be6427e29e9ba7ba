import ReadThrough.Text.Stretch

/-!
# Characters of domain names

A domain name may be written with characters that count as others: capital letters count as small
ones, wide and other compatibility forms as the plain ones, and some characters as nothing at all.
Other characters may not be written in a domain name. The tables are of Unicode 17.

## Main definitions

* `fold? c`: what a character counts as, if it may be written
-/

namespace ReadThrough.Domain

open Text (Stretch)

/-- The characters that may be written in a domain name, from U+0080 on. -/
def allowed : Array Stretch := Stretch.table "
A0 377; 37A 37F; 384 38A; 38C 38C; 38E 3A1; 3A3 52F; 531 556; 559 58A; 58D 58F; 591 5C7; 5D0 5EA;
5EF 5F4; 606 61B; 61D 6DC; 6DE 70D; 710 74A; 74D 7B1; 7C0 7FA; 7FD 82D; 830 83E; 840 85B; 85E 85E;
860 86A; 870 88F; 897 8E1; 8E3 983; 985 98C; 98F 990; 993 9A8; 9AA 9B0; 9B2 9B2; 9B6 9B9; 9BC 9C4;
9C7 9C8; 9CB 9CE; 9D7 9D7; 9DC 9DD; 9DF 9E3; 9E6 9FE; A01 A03; A05 A0A; A0F A10; A13 A28; A2A A30;
A32 A33; A35 A36; A38 A39; A3C A3C; A3E A42; A47 A48; A4B A4D; A51 A51; A59 A5C; A5E A5E; A66 A76;
A81 A83; A85 A8D; A8F A91; A93 AA8; AAA AB0; AB2 AB3; AB5 AB9; ABC AC5; AC7 AC9; ACB ACD; AD0 AD0;
AE0 AE3; AE6 AF1; AF9 AFF; B01 B03; B05 B0C; B0F B10; B13 B28; B2A B30; B32 B33; B35 B39; B3C B44;
B47 B48; B4B B4D; B55 B57; B5C B5D; B5F B63; B66 B77; B82 B83; B85 B8A; B8E B90; B92 B95; B99 B9A;
B9C B9C; B9E B9F; BA3 BA4; BA8 BAA; BAE BB9; BBE BC2; BC6 BC8; BCA BCD; BD0 BD0; BD7 BD7; BE6 BFA;
C00 C0C; C0E C10; C12 C28; C2A C39; C3C C44; C46 C48; C4A C4D; C55 C56; C58 C5A; C5C C5D; C60 C63;
C66 C6F; C77 C8C; C8E C90; C92 CA8; CAA CB3; CB5 CB9; CBC CC4; CC6 CC8; CCA CCD; CD5 CD6; CDC CDE;
CE0 CE3; CE6 CEF; CF1 CF3; D00 D0C; D0E D10; D12 D44; D46 D48; D4A D4F; D54 D63; D66 D7F; D81 D83;
D85 D96; D9A DB1; DB3 DBB; DBD DBD; DC0 DC6; DCA DCA; DCF DD4; DD6 DD6; DD8 DDF; DE6 DEF; DF2 DF4;
E01 E3A; E3F E5B; E81 E82; E84 E84; E86 E8A; E8C EA3; EA5 EA5; EA7 EBD; EC0 EC4; EC6 EC6; EC8 ECE;
ED0 ED9; EDC EDF; F00 F47; F49 F6C; F71 F97; F99 FBC; FBE FCC; FCE FDA; 1000 10C5; 10C7 10C7;
10CD 10CD; 10D0 1248; 124A 124D; 1250 1256; 1258 1258; 125A 125D; 1260 1288; 128A 128D; 1290 12B0;
12B2 12B5; 12B8 12BE; 12C0 12C0; 12C2 12C5; 12C8 12D6; 12D8 1310; 1312 1315; 1318 135A; 135D 137C;
1380 1399; 13A0 13F5; 13F8 13FD; 1400 167F; 1681 169C; 16A0 16F8; 1700 1715; 171F 1736; 1740 1753;
1760 176C; 176E 1770; 1772 1773; 1780 17DD; 17E0 17E9; 17F0 17F9; 1800 1819; 1820 1878; 1880 18AA;
18B0 18F5; 1900 191E; 1920 192B; 1930 193B; 1940 1940; 1944 196D; 1970 1974; 1980 19AB; 19B0 19C9;
19D0 19DA; 19DE 1A1B; 1A1E 1A5E; 1A60 1A7C; 1A7F 1A89; 1A90 1A99; 1AA0 1AAD; 1AB0 1ADD; 1AE0 1AEB;
1B00 1B4C; 1B4E 1BF3; 1BFC 1C37; 1C3B 1C49; 1C4D 1C8A; 1C90 1CBA; 1CBD 1CC7; 1CD0 1CFA; 1D00 1F15;
1F18 1F1D; 1F20 1F45; 1F48 1F4D; 1F50 1F57; 1F59 1F59; 1F5B 1F5B; 1F5D 1F5D; 1F5F 1F7D; 1F80 1FB4;
1FB6 1FC4; 1FC6 1FD3; 1FD6 1FDB; 1FDD 1FEF; 1FF2 1FF4; 1FF6 1FFE; 2000 200D; 2010 2023; 2027 2027;
202F 2064; 206A 2071; 2074 208E; 2090 209C; 20A0 20C1; 20D0 20F0; 2100 218B; 2190 2429; 2440 244A;
2460 2487; 249C 2B73; 2B76 2CF3; 2CF9 2D25; 2D27 2D27; 2D2D 2D2D; 2D30 2D67; 2D6F 2D70; 2D7F 2D96;
2DA0 2DA6; 2DA8 2DAE; 2DB0 2DB6; 2DB8 2DBE; 2DC0 2DC6; 2DC8 2DCE; 2DD0 2DD6; 2DD8 2DDE; 2DE0 2E5D;
2E80 2E99; 2E9B 2EF3; 2F00 2FD5; 3000 303F; 3041 3096; 3099 30FF; 3105 312F; 3131 318E; 3190 31E5;
31F0 321E; 3220 33C1; 33C3 33C6; 33C8 33D7; 33D9 A48C; A490 A4C6; A4D0 A62B; A640 A6F7; A700 A7DC;
A7F1 A82C; A830 A839; A840 A877; A880 A8C5; A8CE A8D9; A8E0 A953; A95F A97C; A980 A9CD; A9CF A9D9;
A9DE A9FE; AA00 AA36; AA40 AA4D; AA50 AA59; AA5C AAC2; AADB AAF6; AB01 AB06; AB09 AB0E; AB11 AB16;
AB20 AB26; AB28 AB2E; AB30 AB6B; AB70 ABED; ABF0 ABF9; AC00 D7A3; D7B0 D7C6; D7CB D7FB; F900 FA6D;
FA70 FAD9; FB00 FB06; FB13 FB17; FB1D FB36; FB38 FB3C; FB3E FB3E; FB40 FB41; FB43 FB44; FB46 FDCF;
FDF0 FE11; FE13 FE18; FE20 FE2F; FE31 FE51; FE54 FE66; FE68 FE6B; FE70 FE74; FE76 FEFC; FEFF FEFF;
FF01 FFBE; FFC2 FFC7; FFCA FFCF; FFD2 FFD7; FFDA FFDC; FFE0 FFE6; FFE8 FFEE; 10000 1000B;
1000D 10026; 10028 1003A; 1003C 1003D; 1003F 1004D; 10050 1005D; 10080 100FA; 10100 10102;
10107 10133; 10137 1018E; 10190 1019C; 101A0 101A0; 101D0 101FD; 10280 1029C; 102A0 102D0;
102E0 102FB; 10300 10323; 1032D 1034A; 10350 1037A; 10380 1039D; 1039F 103C3; 103C8 103D5;
10400 1049D; 104A0 104A9; 104B0 104D3; 104D8 104FB; 10500 10527; 10530 10563; 1056F 1057A;
1057C 1058A; 1058C 10592; 10594 10595; 10597 105A1; 105A3 105B1; 105B3 105B9; 105BB 105BC;
105C0 105F3; 10600 10736; 10740 10755; 10760 10767; 10780 10785; 10787 107B0; 107B2 107BA;
10800 10805; 10808 10808; 1080A 10835; 10837 10838; 1083C 1083C; 1083F 10855; 10857 1089E;
108A7 108AF; 108E0 108F2; 108F4 108F5; 108FB 1091B; 1091F 10939; 1093F 10959; 10980 109B7;
109BC 109CF; 109D2 10A03; 10A05 10A06; 10A0C 10A13; 10A15 10A17; 10A19 10A35; 10A38 10A3A;
10A3F 10A48; 10A50 10A58; 10A60 10A9F; 10AC0 10AE6; 10AEB 10AF6; 10B00 10B35; 10B39 10B55;
10B58 10B72; 10B78 10B91; 10B99 10B9C; 10BA9 10BAF; 10C00 10C48; 10C80 10CB2; 10CC0 10CF2;
10CFA 10D27; 10D30 10D39; 10D40 10D65; 10D69 10D85; 10D8E 10D8F; 10E60 10E7E; 10E80 10EA9;
10EAB 10EAD; 10EB0 10EB1; 10EC2 10EC7; 10ED0 10ED8; 10EFA 10F27; 10F30 10F59; 10F70 10F89;
10FB0 10FCB; 10FE0 10FF6; 11000 1104D; 11052 11075; 1107F 110BC; 110BE 110C2; 110D0 110E8;
110F0 110F9; 11100 11134; 11136 11147; 11150 11176; 11180 111DF; 111E1 111F4; 11200 11211;
11213 11241; 11280 11286; 11288 11288; 1128A 1128D; 1128F 1129D; 1129F 112A9; 112B0 112EA;
112F0 112F9; 11300 11303; 11305 1130C; 1130F 11310; 11313 11328; 1132A 11330; 11332 11333;
11335 11339; 1133B 11344; 11347 11348; 1134B 1134D; 11350 11350; 11357 11357; 1135D 11363;
11366 1136C; 11370 11374; 11380 11389; 1138B 1138B; 1138E 1138E; 11390 113B5; 113B7 113C0;
113C2 113C2; 113C5 113C5; 113C7 113CA; 113CC 113D5; 113D7 113D8; 113E1 113E2; 11400 1145B;
1145D 11461; 11480 114C7; 114D0 114D9; 11580 115B5; 115B8 115DD; 11600 11644; 11650 11659;
11660 1166C; 11680 116B9; 116C0 116C9; 116D0 116E3; 11700 1171A; 1171D 1172B; 11730 11746;
11800 1183B; 118A0 118F2; 118FF 11906; 11909 11909; 1190C 11913; 11915 11916; 11918 11935;
11937 11938; 1193B 11946; 11950 11959; 119A0 119A7; 119AA 119D7; 119DA 119E4; 11A00 11A47;
11A50 11AA2; 11AB0 11AF8; 11B00 11B09; 11B60 11B67; 11BC0 11BE1; 11BF0 11BF9; 11C00 11C08;
11C0A 11C36; 11C38 11C45; 11C50 11C6C; 11C70 11C8F; 11C92 11CA7; 11CA9 11CB6; 11D00 11D06;
11D08 11D09; 11D0B 11D36; 11D3A 11D3A; 11D3C 11D3D; 11D3F 11D47; 11D50 11D59; 11D60 11D65;
11D67 11D68; 11D6A 11D8E; 11D90 11D91; 11D93 11D98; 11DA0 11DA9; 11DB0 11DDB; 11DE0 11DE9;
11EE0 11EF8; 11F00 11F10; 11F12 11F3A; 11F3E 11F5A; 11FB0 11FB0; 11FC0 11FF1; 11FFF 12399;
12400 1246E; 12470 12474; 12480 12543; 12F90 12FF2; 13000 1342F; 13440 13455; 13460 143FA;
14400 14646; 16100 16139; 16800 16A38; 16A40 16A5E; 16A60 16A69; 16A6E 16ABE; 16AC0 16AC9;
16AD0 16AED; 16AF0 16AF5; 16B00 16B45; 16B50 16B59; 16B5B 16B61; 16B63 16B77; 16B7D 16B8F;
16D40 16D79; 16E40 16E9A; 16EA0 16EB8; 16EBB 16ED3; 16F00 16F4A; 16F4F 16F87; 16F8F 16F9F;
16FE0 16FE4; 16FF0 16FF6; 17000 18CD5; 18CFF 18D1E; 18D80 18DF2; 1AFF0 1AFF3; 1AFF5 1AFFB;
1AFFD 1AFFE; 1B000 1B122; 1B132 1B132; 1B150 1B152; 1B155 1B155; 1B164 1B167; 1B170 1B2FB;
1BC00 1BC6A; 1BC70 1BC7C; 1BC80 1BC88; 1BC90 1BC99; 1BC9C 1BCA3; 1CC00 1CCFC; 1CD00 1CEB3;
1CEBA 1CED0; 1CEE0 1CEF0; 1CF00 1CF2D; 1CF30 1CF46; 1CF50 1CFC3; 1D000 1D0F5; 1D100 1D126;
1D129 1D1EA; 1D200 1D245; 1D2C0 1D2D3; 1D2E0 1D2F3; 1D300 1D356; 1D360 1D378; 1D400 1D454;
1D456 1D49C; 1D49E 1D49F; 1D4A2 1D4A2; 1D4A5 1D4A6; 1D4A9 1D4AC; 1D4AE 1D4B9; 1D4BB 1D4BB;
1D4BD 1D4C3; 1D4C5 1D505; 1D507 1D50A; 1D50D 1D514; 1D516 1D51C; 1D51E 1D539; 1D53B 1D53E;
1D540 1D544; 1D546 1D546; 1D54A 1D550; 1D552 1D6A5; 1D6A8 1D7CB; 1D7CE 1DA8B; 1DA9B 1DA9F;
1DAA1 1DAAF; 1DF00 1DF1E; 1DF25 1DF2A; 1E000 1E006; 1E008 1E018; 1E01B 1E021; 1E023 1E024;
1E026 1E02A; 1E030 1E06D; 1E08F 1E08F; 1E100 1E12C; 1E130 1E13D; 1E140 1E149; 1E14E 1E14F;
1E290 1E2AE; 1E2C0 1E2F9; 1E2FF 1E2FF; 1E4D0 1E4F9; 1E5D0 1E5FA; 1E5FF 1E5FF; 1E6C0 1E6DE;
1E6E0 1E6F5; 1E6FE 1E6FF; 1E7E0 1E7E6; 1E7E8 1E7EB; 1E7ED 1E7EE; 1E7F0 1E7FE; 1E800 1E8C4;
1E8C7 1E8D6; 1E900 1E94B; 1E950 1E959; 1E95E 1E95F; 1EC71 1ECB4; 1ED01 1ED3D; 1EE00 1EE03;
1EE05 1EE1F; 1EE21 1EE22; 1EE24 1EE24; 1EE27 1EE27; 1EE29 1EE32; 1EE34 1EE37; 1EE39 1EE39;
1EE3B 1EE3B; 1EE42 1EE42; 1EE47 1EE47; 1EE49 1EE49; 1EE4B 1EE4B; 1EE4D 1EE4F; 1EE51 1EE52;
1EE54 1EE54; 1EE57 1EE57; 1EE59 1EE59; 1EE5B 1EE5B; 1EE5D 1EE5D; 1EE5F 1EE5F; 1EE61 1EE62;
1EE64 1EE64; 1EE67 1EE6A; 1EE6C 1EE72; 1EE74 1EE77; 1EE79 1EE7C; 1EE7E 1EE7E; 1EE80 1EE89;
1EE8B 1EE9B; 1EEA1 1EEA3; 1EEA5 1EEA9; 1EEAB 1EEBB; 1EEF0 1EEF1; 1F000 1F02B; 1F030 1F093;
1F0A0 1F0AE; 1F0B1 1F0BF; 1F0C1 1F0CF; 1F0D1 1F0F5; 1F101 1F1AD; 1F1E6 1F202; 1F210 1F23B;
1F240 1F248; 1F250 1F251; 1F260 1F265; 1F300 1F6D8; 1F6DC 1F6EC; 1F6F0 1F6FC; 1F700 1F7D9;
1F7E0 1F7EB; 1F7F0 1F7F0; 1F800 1F80B; 1F810 1F847; 1F850 1F859; 1F860 1F887; 1F890 1F8AD;
1F8B0 1F8BB; 1F8C0 1F8C1; 1F8D0 1F8D8; 1F900 1FA57; 1FA60 1FA6D; 1FA70 1FA7C; 1FA80 1FA8A;
1FA8E 1FAC6; 1FAC8 1FAC8; 1FACD 1FADC; 1FADF 1FAEA; 1FAEF 1FAF8; 1FB00 1FB92; 1FB94 1FBFA;
20000 2A6DF; 2A700 2B81D; 2B820 2CEAD; 2CEB0 2EBE0; 2EBF0 2EE5D; 2F800 2FA1D; 30000 3134A;
31350 33479; E0100 E01EF;"

/-- The characters that count as others, from U+0080 on. Said of a stretch are a step and a target.
If the step is 0, every character counts as the whole target. Else the characters of the stretch at
multiples of the step count as characters at the same distances from the target. -/
def foldings : Array Stretch := Stretch.table "
A0 A0 0 20; A8 A8 0 20 308; AA AA 0 61; AD AD 0; AF AF 0 20 304; B2 B3 1 32; B4 B4 0 20 301;
B5 B5 0 3BC; B8 B8 0 20 327; B9 B9 0 31; BA BA 0 6F; BC BC 0 31 2044 34; BD BD 0 31 2044 32;
BE BE 0 33 2044 34; C0 D6 1 E0; D8 DE 1 F8; 100 12E 2 101; 130 130 0 69 307; 132 133 0 69 6A;
134 136 2 135; 139 13D 2 13A; 13F 140 0 6C B7; 141 147 2 142; 149 149 0 2BC 6E; 14A 176 2 14B;
178 178 0 FF; 179 17D 2 17A; 17F 17F 0 73; 181 181 0 253; 182 184 2 183; 186 186 0 254;
187 187 0 188; 189 18A 1 256; 18B 18B 0 18C; 18E 18E 0 1DD; 18F 18F 0 259; 190 190 0 25B;
191 191 0 192; 193 193 0 260; 194 194 0 263; 196 196 0 269; 197 197 0 268; 198 198 0 199;
19C 19C 0 26F; 19D 19D 0 272; 19F 19F 0 275; 1A0 1A4 2 1A1; 1A6 1A6 0 280; 1A7 1A7 0 1A8;
1A9 1A9 0 283; 1AC 1AC 0 1AD; 1AE 1AE 0 288; 1AF 1AF 0 1B0; 1B1 1B2 1 28A; 1B3 1B5 2 1B4;
1B7 1B7 0 292; 1B8 1B8 0 1B9; 1BC 1BC 0 1BD; 1C4 1C6 0 64 17E; 1C7 1C9 0 6C 6A; 1CA 1CC 0 6E 6A;
1CD 1DB 2 1CE; 1DE 1EE 2 1DF; 1F1 1F3 0 64 7A; 1F4 1F4 0 1F5; 1F6 1F6 0 195; 1F7 1F7 0 1BF;
1F8 21E 2 1F9; 220 220 0 19E; 222 232 2 223; 23A 23A 0 2C65; 23B 23B 0 23C; 23D 23D 0 19A;
23E 23E 0 2C66; 241 241 0 242; 243 243 0 180; 244 244 0 289; 245 245 0 28C; 246 24E 2 247;
2B0 2B0 0 68; 2B1 2B1 0 266; 2B2 2B2 0 6A; 2B3 2B3 0 72; 2B4 2B4 0 279; 2B5 2B5 0 27B;
2B6 2B6 0 281; 2B7 2B7 0 77; 2B8 2B8 0 79; 2D8 2D8 0 20 306; 2D9 2D9 0 20 307; 2DA 2DA 0 20 30A;
2DB 2DB 0 20 328; 2DC 2DC 0 20 303; 2DD 2DD 0 20 30B; 2E0 2E0 0 263; 2E1 2E1 0 6C; 2E2 2E2 0 73;
2E3 2E3 0 78; 2E4 2E4 0 295; 345 345 0 3B9; 34F 34F 0; 370 372 2 371; 376 376 0 377;
37A 37A 0 20 3B9; 37F 37F 0 3F3; 384 384 0 20 301; 385 385 0 20 308 301; 386 386 0 3AC;
388 38A 1 3AD; 38C 38C 0 3CC; 38E 38F 1 3CD; 391 3A1 1 3B1; 3A3 3AB 1 3C3; 3CF 3CF 0 3D7;
3D0 3D0 0 3B2; 3D1 3D1 0 3B8; 3D2 3D2 0 3C5; 3D3 3D3 0 3CD; 3D4 3D4 0 3CB; 3D5 3D5 0 3C6;
3D6 3D6 0 3C0; 3D8 3EE 2 3D9; 3F0 3F0 0 3BA; 3F1 3F1 0 3C1; 3F2 3F2 0 3C3; 3F4 3F4 0 3B8;
3F5 3F5 0 3B5; 3F7 3F7 0 3F8; 3F9 3F9 0 3C3; 3FA 3FA 0 3FB; 3FD 3FF 1 37B; 400 40F 1 450;
410 42F 1 430; 460 480 2 461; 48A 4BE 2 48B; 4C0 4C0 0 4CF; 4C1 4CD 2 4C2; 4D0 52E 2 4D1;
531 556 1 561; 587 587 0 565 582; 675 675 0 627 674; 676 676 0 648 674; 677 677 0 6C7 674;
678 678 0 64A 674; E33 E33 0 E4D E32; EB3 EB3 0 ECD EB2; EDC EDC 0 EAB E99; EDD EDD 0 EAB EA1;
F0C F0C 0 F0B; F77 F77 0 FB2 F71 F80; F79 F79 0 FB3 F71 F80; 10A0 10C5 1 2D00; 10C7 10C7 0 2D27;
10CD 10CD 0 2D2D; 10FC 10FC 0 10DC; 115F 1160 0; 13F8 13FD 1 13F0; 17B4 17B5 0; 180B 180F 0;
1C80 1C80 0 432; 1C81 1C81 0 434; 1C82 1C82 0 43E; 1C83 1C84 1 441; 1C85 1C85 0 442;
1C86 1C86 0 44A; 1C87 1C87 0 463; 1C88 1C88 0 A64B; 1C89 1C89 0 1C8A; 1C90 1CBA 1 10D0;
1CBD 1CBF 1 10FD; 1D2C 1D2C 0 61; 1D2D 1D2D 0 E6; 1D2E 1D30 2 62; 1D31 1D31 0 65; 1D32 1D32 0 1DD;
1D33 1D3A 1 67; 1D3C 1D3C 0 6F; 1D3D 1D3D 0 223; 1D3E 1D3E 0 70; 1D3F 1D3F 0 72; 1D40 1D41 1 74;
1D42 1D42 0 77; 1D43 1D43 0 61; 1D44 1D45 1 250; 1D46 1D46 0 1D02; 1D47 1D47 0 62; 1D48 1D49 1 64;
1D4A 1D4A 0 259; 1D4B 1D4C 1 25B; 1D4D 1D4D 0 67; 1D4F 1D4F 0 6B; 1D50 1D50 0 6D; 1D51 1D51 0 14B;
1D52 1D52 0 6F; 1D53 1D53 0 254; 1D54 1D55 1 1D16; 1D56 1D56 0 70; 1D57 1D58 1 74; 1D59 1D59 0 1D1D;
1D5A 1D5A 0 26F; 1D5B 1D5B 0 76; 1D5C 1D5C 0 1D25; 1D5D 1D5F 1 3B2; 1D60 1D61 1 3C6; 1D62 1D62 0 69;
1D63 1D63 0 72; 1D64 1D65 1 75; 1D66 1D67 1 3B2; 1D68 1D68 0 3C1; 1D69 1D6A 1 3C6; 1D78 1D78 0 43D;
1D9B 1D9B 0 252; 1D9C 1D9C 0 63; 1D9D 1D9D 0 255; 1D9E 1D9E 0 F0; 1D9F 1D9F 0 25C; 1DA0 1DA0 0 66;
1DA1 1DA1 0 25F; 1DA2 1DA2 0 261; 1DA3 1DA3 0 265; 1DA4 1DA6 1 268; 1DA7 1DA7 0 1D7B;
1DA8 1DA8 0 29D; 1DA9 1DA9 0 26D; 1DAA 1DAA 0 1D85; 1DAB 1DAB 0 29F; 1DAC 1DAC 0 271;
1DAD 1DAD 0 270; 1DAE 1DB1 1 272; 1DB2 1DB2 0 278; 1DB3 1DB4 1 282; 1DB5 1DB5 0 1AB;
1DB6 1DB7 1 289; 1DB8 1DB8 0 1D1C; 1DB9 1DBA 1 28B; 1DBB 1DBB 0 7A; 1DBC 1DBE 1 290;
1DBF 1DBF 0 3B8; 1E00 1E94 2 1E01; 1E9A 1E9A 0 61 2BE; 1E9B 1E9B 0 1E61; 1E9E 1E9E 0 DF;
1EA0 1EFE 2 1EA1; 1F08 1F0F 1 1F00; 1F18 1F1D 1 1F10; 1F28 1F2F 1 1F20; 1F38 1F3F 1 1F30;
1F48 1F4D 1 1F40; 1F59 1F5F 2 1F51; 1F68 1F6F 1 1F60; 1F80 1F80 0 1F00 3B9; 1F81 1F81 0 1F01 3B9;
1F82 1F82 0 1F02 3B9; 1F83 1F83 0 1F03 3B9; 1F84 1F84 0 1F04 3B9; 1F85 1F85 0 1F05 3B9;
1F86 1F86 0 1F06 3B9; 1F87 1F87 0 1F07 3B9; 1F88 1F88 0 1F00 3B9; 1F89 1F89 0 1F01 3B9;
1F8A 1F8A 0 1F02 3B9; 1F8B 1F8B 0 1F03 3B9; 1F8C 1F8C 0 1F04 3B9; 1F8D 1F8D 0 1F05 3B9;
1F8E 1F8E 0 1F06 3B9; 1F8F 1F8F 0 1F07 3B9; 1F90 1F90 0 1F20 3B9; 1F91 1F91 0 1F21 3B9;
1F92 1F92 0 1F22 3B9; 1F93 1F93 0 1F23 3B9; 1F94 1F94 0 1F24 3B9; 1F95 1F95 0 1F25 3B9;
1F96 1F96 0 1F26 3B9; 1F97 1F97 0 1F27 3B9; 1F98 1F98 0 1F20 3B9; 1F99 1F99 0 1F21 3B9;
1F9A 1F9A 0 1F22 3B9; 1F9B 1F9B 0 1F23 3B9; 1F9C 1F9C 0 1F24 3B9; 1F9D 1F9D 0 1F25 3B9;
1F9E 1F9E 0 1F26 3B9; 1F9F 1F9F 0 1F27 3B9; 1FA0 1FA0 0 1F60 3B9; 1FA1 1FA1 0 1F61 3B9;
1FA2 1FA2 0 1F62 3B9; 1FA3 1FA3 0 1F63 3B9; 1FA4 1FA4 0 1F64 3B9; 1FA5 1FA5 0 1F65 3B9;
1FA6 1FA6 0 1F66 3B9; 1FA7 1FA7 0 1F67 3B9; 1FA8 1FA8 0 1F60 3B9; 1FA9 1FA9 0 1F61 3B9;
1FAA 1FAA 0 1F62 3B9; 1FAB 1FAB 0 1F63 3B9; 1FAC 1FAC 0 1F64 3B9; 1FAD 1FAD 0 1F65 3B9;
1FAE 1FAE 0 1F66 3B9; 1FAF 1FAF 0 1F67 3B9; 1FB2 1FB2 0 1F70 3B9; 1FB3 1FB3 0 3B1 3B9;
1FB4 1FB4 0 3AC 3B9; 1FB7 1FB7 0 1FB6 3B9; 1FB8 1FB9 1 1FB0; 1FBA 1FBA 0 1F70; 1FBB 1FBB 0 3AC;
1FBC 1FBC 0 3B1 3B9; 1FBD 1FBD 0 20 313; 1FBF 1FBF 0 20 313; 1FC0 1FC0 0 20 342;
1FC1 1FC1 0 20 308 342; 1FC2 1FC2 0 1F74 3B9; 1FC3 1FC3 0 3B7 3B9; 1FC4 1FC4 0 3AE 3B9;
1FC7 1FC7 0 1FC6 3B9; 1FC8 1FC8 0 1F72; 1FC9 1FC9 0 3AD; 1FCA 1FCA 0 1F74; 1FCB 1FCB 0 3AE;
1FCC 1FCC 0 3B7 3B9; 1FCD 1FCD 0 20 313 300; 1FCE 1FCE 0 20 313 301; 1FCF 1FCF 0 20 313 342;
1FD8 1FD9 1 1FD0; 1FDA 1FDA 0 1F76; 1FDB 1FDB 0 3AF; 1FDD 1FDD 0 20 314 300; 1FDE 1FDE 0 20 314 301;
1FDF 1FDF 0 20 314 342; 1FE8 1FE9 1 1FE0; 1FEA 1FEA 0 1F7A; 1FEB 1FEB 0 3CD; 1FEC 1FEC 0 1FE5;
1FED 1FED 0 20 308 300; 1FEE 1FEE 0 20 308 301; 1FF2 1FF2 0 1F7C 3B9; 1FF3 1FF3 0 3C9 3B9;
1FF4 1FF4 0 3CE 3B9; 1FF7 1FF7 0 1FF6 3B9; 1FF8 1FF8 0 1F78; 1FF9 1FF9 0 3CC; 1FFA 1FFA 0 1F7C;
1FFB 1FFB 0 3CE; 1FFC 1FFC 0 3C9 3B9; 1FFD 1FFD 0 20 301; 1FFE 1FFE 0 20 314; 2000 200A 0 20;
200B 200B 0; 2011 2011 0 2010; 2017 2017 0 20 333; 202F 202F 0 20; 2033 2033 0 2032 2032;
2034 2034 0 2032 2032 2032; 2036 2036 0 2035 2035; 2037 2037 0 2035 2035 2035; 203C 203C 0 21 21;
203E 203E 0 20 305; 2047 2047 0 3F 3F; 2048 2048 0 3F 21; 2049 2049 0 21 3F;
2057 2057 0 2032 2032 2032 2032; 205F 205F 0 20; 2060 2064 0; 206A 206F 0; 2070 2070 0 30;
2071 2071 0 69; 2074 2079 1 34; 207A 207A 0 2B; 207B 207B 0 2212; 207C 207C 0 3D; 207D 207E 1 28;
207F 207F 0 6E; 2080 2089 1 30; 208A 208A 0 2B; 208B 208B 0 2212; 208C 208C 0 3D; 208D 208E 1 28;
2090 2090 0 61; 2091 2091 0 65; 2092 2092 0 6F; 2093 2093 0 78; 2094 2094 0 259; 2095 2095 0 68;
2096 2099 1 6B; 209A 209A 0 70; 209B 209C 1 73; 20A8 20A8 0 72 73; 2100 2100 0 61 2F 63;
2101 2101 0 61 2F 73; 2102 2102 0 63; 2103 2103 0 B0 63; 2105 2105 0 63 2F 6F; 2106 2106 0 63 2F 75;
2107 2107 0 25B; 2109 2109 0 B0 66; 210A 210B 1 67; 210C 210E 0 68; 210F 210F 0 127; 2110 2111 0 69;
2112 2113 0 6C; 2115 2115 0 6E; 2116 2116 0 6E 6F; 2119 211B 1 70; 211C 211D 0 72;
2120 2120 0 73 6D; 2121 2121 0 74 65 6C; 2122 2122 0 74 6D; 2124 2124 0 7A; 2126 2126 0 3C9;
2128 2128 0 7A; 212A 212A 0 6B; 212B 212B 0 E5; 212C 212D 1 62; 212F 2130 0 65; 2131 2131 0 66;
2132 2132 0 214E; 2133 2133 0 6D; 2134 2134 0 6F; 2135 2138 1 5D0; 2139 2139 0 69;
213B 213B 0 66 61 78; 213C 213C 0 3C0; 213D 213E 0 3B3; 213F 213F 0 3C0; 2140 2140 0 2211;
2145 2146 0 64; 2147 2147 0 65; 2148 2149 1 69; 2150 2150 0 31 2044 37; 2151 2151 0 31 2044 39;
2152 2152 0 31 2044 31 30; 2153 2153 0 31 2044 33; 2154 2154 0 32 2044 33; 2155 2155 0 31 2044 35;
2156 2156 0 32 2044 35; 2157 2157 0 33 2044 35; 2158 2158 0 34 2044 35; 2159 2159 0 31 2044 36;
215A 215A 0 35 2044 36; 215B 215B 0 31 2044 38; 215C 215C 0 33 2044 38; 215D 215D 0 35 2044 38;
215E 215E 0 37 2044 38; 215F 215F 0 31 2044; 2160 2160 0 69; 2161 2161 0 69 69;
2162 2162 0 69 69 69; 2163 2163 0 69 76; 2164 2164 0 76; 2165 2165 0 76 69; 2166 2166 0 76 69 69;
2167 2167 0 76 69 69 69; 2168 2168 0 69 78; 2169 2169 0 78; 216A 216A 0 78 69; 216B 216B 0 78 69 69;
216C 216C 0 6C; 216D 216E 1 63; 216F 216F 0 6D; 2170 2170 0 69; 2171 2171 0 69 69;
2172 2172 0 69 69 69; 2173 2173 0 69 76; 2174 2174 0 76; 2175 2175 0 76 69; 2176 2176 0 76 69 69;
2177 2177 0 76 69 69 69; 2178 2178 0 69 78; 2179 2179 0 78; 217A 217A 0 78 69; 217B 217B 0 78 69 69;
217C 217C 0 6C; 217D 217E 1 63; 217F 217F 0 6D; 2183 2183 0 2184; 2189 2189 0 30 2044 33;
222C 222C 0 222B 222B; 222D 222D 0 222B 222B 222B; 222F 222F 0 222E 222E;
2230 2230 0 222E 222E 222E; 2460 2468 1 31; 2469 2469 0 31 30; 246A 246A 0 31 31; 246B 246B 0 31 32;
246C 246C 0 31 33; 246D 246D 0 31 34; 246E 246E 0 31 35; 246F 246F 0 31 36; 2470 2470 0 31 37;
2471 2471 0 31 38; 2472 2472 0 31 39; 2473 2473 0 32 30; 2474 2474 0 28 31 29; 2475 2475 0 28 32 29;
2476 2476 0 28 33 29; 2477 2477 0 28 34 29; 2478 2478 0 28 35 29; 2479 2479 0 28 36 29;
247A 247A 0 28 37 29; 247B 247B 0 28 38 29; 247C 247C 0 28 39 29; 247D 247D 0 28 31 30 29;
247E 247E 0 28 31 31 29; 247F 247F 0 28 31 32 29; 2480 2480 0 28 31 33 29; 2481 2481 0 28 31 34 29;
2482 2482 0 28 31 35 29; 2483 2483 0 28 31 36 29; 2484 2484 0 28 31 37 29; 2485 2485 0 28 31 38 29;
2486 2486 0 28 31 39 29; 2487 2487 0 28 32 30 29; 249C 249C 0 28 61 29; 249D 249D 0 28 62 29;
249E 249E 0 28 63 29; 249F 249F 0 28 64 29; 24A0 24A0 0 28 65 29; 24A1 24A1 0 28 66 29;
24A2 24A2 0 28 67 29; 24A3 24A3 0 28 68 29; 24A4 24A4 0 28 69 29; 24A5 24A5 0 28 6A 29;
24A6 24A6 0 28 6B 29; 24A7 24A7 0 28 6C 29; 24A8 24A8 0 28 6D 29; 24A9 24A9 0 28 6E 29;
24AA 24AA 0 28 6F 29; 24AB 24AB 0 28 70 29; 24AC 24AC 0 28 71 29; 24AD 24AD 0 28 72 29;
24AE 24AE 0 28 73 29; 24AF 24AF 0 28 74 29; 24B0 24B0 0 28 75 29; 24B1 24B1 0 28 76 29;
24B2 24B2 0 28 77 29; 24B3 24B3 0 28 78 29; 24B4 24B4 0 28 79 29; 24B5 24B5 0 28 7A 29;
24B6 24CF 1 61; 24D0 24E9 1 61; 24EA 24EA 0 30; 2A0C 2A0C 0 222B 222B 222B 222B;
2A74 2A74 0 3A 3A 3D; 2A75 2A75 0 3D 3D; 2A76 2A76 0 3D 3D 3D; 2C00 2C2F 1 2C30; 2C60 2C60 0 2C61;
2C62 2C62 0 26B; 2C63 2C63 0 1D7D; 2C64 2C64 0 27D; 2C67 2C6B 2 2C68; 2C6D 2C6D 0 251;
2C6E 2C6E 0 271; 2C6F 2C6F 0 250; 2C70 2C70 0 252; 2C72 2C72 0 2C73; 2C75 2C75 0 2C76;
2C7C 2C7C 0 6A; 2C7D 2C7D 0 76; 2C7E 2C7F 1 23F; 2C80 2CE2 2 2C81; 2CEB 2CED 2 2CEC;
2CF2 2CF2 0 2CF3; 2D6F 2D6F 0 2D61; 2E9F 2E9F 0 6BCD; 2EF3 2EF3 0 9F9F; 2F00 2F00 0 4E00;
2F01 2F01 0 4E28; 2F02 2F02 0 4E36; 2F03 2F03 0 4E3F; 2F04 2F04 0 4E59; 2F05 2F05 0 4E85;
2F06 2F06 0 4E8C; 2F07 2F07 0 4EA0; 2F08 2F08 0 4EBA; 2F09 2F09 0 513F; 2F0A 2F0A 0 5165;
2F0B 2F0B 0 516B; 2F0C 2F0C 0 5182; 2F0D 2F0D 0 5196; 2F0E 2F0E 0 51AB; 2F0F 2F0F 0 51E0;
2F10 2F10 0 51F5; 2F11 2F11 0 5200; 2F12 2F12 0 529B; 2F13 2F13 0 52F9; 2F14 2F14 0 5315;
2F15 2F15 0 531A; 2F16 2F16 0 5338; 2F17 2F17 0 5341; 2F18 2F18 0 535C; 2F19 2F19 0 5369;
2F1A 2F1A 0 5382; 2F1B 2F1B 0 53B6; 2F1C 2F1C 0 53C8; 2F1D 2F1D 0 53E3; 2F1E 2F1E 0 56D7;
2F1F 2F1F 0 571F; 2F20 2F20 0 58EB; 2F21 2F21 0 5902; 2F22 2F22 0 590A; 2F23 2F23 0 5915;
2F24 2F24 0 5927; 2F25 2F25 0 5973; 2F26 2F26 0 5B50; 2F27 2F27 0 5B80; 2F28 2F28 0 5BF8;
2F29 2F29 0 5C0F; 2F2A 2F2A 0 5C22; 2F2B 2F2B 0 5C38; 2F2C 2F2C 0 5C6E; 2F2D 2F2D 0 5C71;
2F2E 2F2E 0 5DDB; 2F2F 2F2F 0 5DE5; 2F30 2F30 0 5DF1; 2F31 2F31 0 5DFE; 2F32 2F32 0 5E72;
2F33 2F33 0 5E7A; 2F34 2F34 0 5E7F; 2F35 2F35 0 5EF4; 2F36 2F36 0 5EFE; 2F37 2F37 0 5F0B;
2F38 2F38 0 5F13; 2F39 2F39 0 5F50; 2F3A 2F3A 0 5F61; 2F3B 2F3B 0 5F73; 2F3C 2F3C 0 5FC3;
2F3D 2F3D 0 6208; 2F3E 2F3E 0 6236; 2F3F 2F3F 0 624B; 2F40 2F40 0 652F; 2F41 2F41 0 6534;
2F42 2F42 0 6587; 2F43 2F43 0 6597; 2F44 2F44 0 65A4; 2F45 2F45 0 65B9; 2F46 2F46 0 65E0;
2F47 2F47 0 65E5; 2F48 2F48 0 66F0; 2F49 2F49 0 6708; 2F4A 2F4A 0 6728; 2F4B 2F4B 0 6B20;
2F4C 2F4C 0 6B62; 2F4D 2F4D 0 6B79; 2F4E 2F4E 0 6BB3; 2F4F 2F4F 0 6BCB; 2F50 2F50 0 6BD4;
2F51 2F51 0 6BDB; 2F52 2F52 0 6C0F; 2F53 2F53 0 6C14; 2F54 2F54 0 6C34; 2F55 2F55 0 706B;
2F56 2F56 0 722A; 2F57 2F57 0 7236; 2F58 2F58 0 723B; 2F59 2F59 0 723F; 2F5A 2F5A 0 7247;
2F5B 2F5B 0 7259; 2F5C 2F5C 0 725B; 2F5D 2F5D 0 72AC; 2F5E 2F5E 0 7384; 2F5F 2F5F 0 7389;
2F60 2F60 0 74DC; 2F61 2F61 0 74E6; 2F62 2F62 0 7518; 2F63 2F63 0 751F; 2F64 2F64 0 7528;
2F65 2F65 0 7530; 2F66 2F66 0 758B; 2F67 2F67 0 7592; 2F68 2F68 0 7676; 2F69 2F69 0 767D;
2F6A 2F6A 0 76AE; 2F6B 2F6B 0 76BF; 2F6C 2F6C 0 76EE; 2F6D 2F6D 0 77DB; 2F6E 2F6E 0 77E2;
2F6F 2F6F 0 77F3; 2F70 2F70 0 793A; 2F71 2F71 0 79B8; 2F72 2F72 0 79BE; 2F73 2F73 0 7A74;
2F74 2F74 0 7ACB; 2F75 2F75 0 7AF9; 2F76 2F76 0 7C73; 2F77 2F77 0 7CF8; 2F78 2F78 0 7F36;
2F79 2F79 0 7F51; 2F7A 2F7A 0 7F8A; 2F7B 2F7B 0 7FBD; 2F7C 2F7C 0 8001; 2F7D 2F7D 0 800C;
2F7E 2F7E 0 8012; 2F7F 2F7F 0 8033; 2F80 2F80 0 807F; 2F81 2F81 0 8089; 2F82 2F82 0 81E3;
2F83 2F83 0 81EA; 2F84 2F84 0 81F3; 2F85 2F85 0 81FC; 2F86 2F86 0 820C; 2F87 2F87 0 821B;
2F88 2F88 0 821F; 2F89 2F89 0 826E; 2F8A 2F8A 0 8272; 2F8B 2F8B 0 8278; 2F8C 2F8C 0 864D;
2F8D 2F8D 0 866B; 2F8E 2F8E 0 8840; 2F8F 2F8F 0 884C; 2F90 2F90 0 8863; 2F91 2F91 0 897E;
2F92 2F92 0 898B; 2F93 2F93 0 89D2; 2F94 2F94 0 8A00; 2F95 2F95 0 8C37; 2F96 2F96 0 8C46;
2F97 2F97 0 8C55; 2F98 2F98 0 8C78; 2F99 2F99 0 8C9D; 2F9A 2F9A 0 8D64; 2F9B 2F9B 0 8D70;
2F9C 2F9C 0 8DB3; 2F9D 2F9D 0 8EAB; 2F9E 2F9E 0 8ECA; 2F9F 2F9F 0 8F9B; 2FA0 2FA0 0 8FB0;
2FA1 2FA1 0 8FB5; 2FA2 2FA2 0 9091; 2FA3 2FA3 0 9149; 2FA4 2FA4 0 91C6; 2FA5 2FA5 0 91CC;
2FA6 2FA6 0 91D1; 2FA7 2FA7 0 9577; 2FA8 2FA8 0 9580; 2FA9 2FA9 0 961C; 2FAA 2FAA 0 96B6;
2FAB 2FAB 0 96B9; 2FAC 2FAC 0 96E8; 2FAD 2FAD 0 9751; 2FAE 2FAE 0 975E; 2FAF 2FAF 0 9762;
2FB0 2FB0 0 9769; 2FB1 2FB1 0 97CB; 2FB2 2FB2 0 97ED; 2FB3 2FB3 0 97F3; 2FB4 2FB4 0 9801;
2FB5 2FB5 0 98A8; 2FB6 2FB6 0 98DB; 2FB7 2FB7 0 98DF; 2FB8 2FB8 0 9996; 2FB9 2FB9 0 9999;
2FBA 2FBA 0 99AC; 2FBB 2FBB 0 9AA8; 2FBC 2FBC 0 9AD8; 2FBD 2FBD 0 9ADF; 2FBE 2FBE 0 9B25;
2FBF 2FBF 0 9B2F; 2FC0 2FC0 0 9B32; 2FC1 2FC1 0 9B3C; 2FC2 2FC2 0 9B5A; 2FC3 2FC3 0 9CE5;
2FC4 2FC4 0 9E75; 2FC5 2FC5 0 9E7F; 2FC6 2FC6 0 9EA5; 2FC7 2FC7 0 9EBB; 2FC8 2FC8 0 9EC3;
2FC9 2FC9 0 9ECD; 2FCA 2FCA 0 9ED1; 2FCB 2FCB 0 9EF9; 2FCC 2FCC 0 9EFD; 2FCD 2FCD 0 9F0E;
2FCE 2FCE 0 9F13; 2FCF 2FCF 0 9F20; 2FD0 2FD0 0 9F3B; 2FD1 2FD1 0 9F4A; 2FD2 2FD2 0 9F52;
2FD3 2FD3 0 9F8D; 2FD4 2FD4 0 9F9C; 2FD5 2FD5 0 9FA0; 3000 3000 0 20; 3002 3002 0 2E;
3036 3036 0 3012; 3038 3038 0 5341; 3039 303A 1 5344; 309B 309B 0 20 3099; 309C 309C 0 20 309A;
309F 309F 0 3088 308A; 30FF 30FF 0 30B3 30C8; 3131 3132 1 1100; 3133 3133 0 11AA; 3134 3134 0 1102;
3135 3136 1 11AC; 3137 3139 1 1103; 313A 313F 1 11B0; 3140 3140 0 111A; 3141 3143 1 1106;
3144 3144 0 1121; 3145 314E 1 1109; 314F 3163 1 1161; 3164 3164 0; 3165 3166 1 1114;
3167 3168 1 11C7; 3169 3169 0 11CC; 316A 316A 0 11CE; 316B 316B 0 11D3; 316C 316C 0 11D7;
316D 316D 0 11D9; 316E 316E 0 111C; 316F 316F 0 11DD; 3170 3170 0 11DF; 3171 3172 1 111D;
3173 3173 0 1120; 3174 3175 1 1122; 3176 3176 0 1127; 3177 3177 0 1129; 3178 317C 1 112B;
317D 317D 0 1132; 317E 317E 0 1136; 317F 317F 0 1140; 3180 3180 0 1147; 3181 3181 0 114C;
3182 3183 1 11F1; 3184 3186 1 1157; 3187 3188 1 1184; 3189 3189 0 1188; 318A 318B 1 1191;
318C 318C 0 1194; 318D 318D 0 119E; 318E 318E 0 11A1; 3192 3192 0 4E00; 3193 3193 0 4E8C;
3194 3194 0 4E09; 3195 3195 0 56DB; 3196 3196 0 4E0A; 3197 3197 0 4E2D; 3198 3198 0 4E0B;
3199 3199 0 7532; 319A 319A 0 4E59; 319B 319B 0 4E19; 319C 319C 0 4E01; 319D 319D 0 5929;
319E 319E 0 5730; 319F 319F 0 4EBA; 3200 3200 0 28 1100 29; 3201 3201 0 28 1102 29;
3202 3202 0 28 1103 29; 3203 3203 0 28 1105 29; 3204 3204 0 28 1106 29; 3205 3205 0 28 1107 29;
3206 3206 0 28 1109 29; 3207 3207 0 28 110B 29; 3208 3208 0 28 110C 29; 3209 3209 0 28 110E 29;
320A 320A 0 28 110F 29; 320B 320B 0 28 1110 29; 320C 320C 0 28 1111 29; 320D 320D 0 28 1112 29;
320E 320E 0 28 AC00 29; 320F 320F 0 28 B098 29; 3210 3210 0 28 B2E4 29; 3211 3211 0 28 B77C 29;
3212 3212 0 28 B9C8 29; 3213 3213 0 28 BC14 29; 3214 3214 0 28 C0AC 29; 3215 3215 0 28 C544 29;
3216 3216 0 28 C790 29; 3217 3217 0 28 CC28 29; 3218 3218 0 28 CE74 29; 3219 3219 0 28 D0C0 29;
321A 321A 0 28 D30C 29; 321B 321B 0 28 D558 29; 321C 321C 0 28 C8FC 29; 321D 321D 0 28 C624 C804 29;
321E 321E 0 28 C624 D6C4 29; 3220 3220 0 28 4E00 29; 3221 3221 0 28 4E8C 29; 3222 3222 0 28 4E09 29;
3223 3223 0 28 56DB 29; 3224 3224 0 28 4E94 29; 3225 3225 0 28 516D 29; 3226 3226 0 28 4E03 29;
3227 3227 0 28 516B 29; 3228 3228 0 28 4E5D 29; 3229 3229 0 28 5341 29; 322A 322A 0 28 6708 29;
322B 322B 0 28 706B 29; 322C 322C 0 28 6C34 29; 322D 322D 0 28 6728 29; 322E 322E 0 28 91D1 29;
322F 322F 0 28 571F 29; 3230 3230 0 28 65E5 29; 3231 3231 0 28 682A 29; 3232 3232 0 28 6709 29;
3233 3233 0 28 793E 29; 3234 3234 0 28 540D 29; 3235 3235 0 28 7279 29; 3236 3236 0 28 8CA1 29;
3237 3237 0 28 795D 29; 3238 3238 0 28 52B4 29; 3239 3239 0 28 4EE3 29; 323A 323A 0 28 547C 29;
323B 323B 0 28 5B66 29; 323C 323C 0 28 76E3 29; 323D 323D 0 28 4F01 29; 323E 323E 0 28 8CC7 29;
323F 323F 0 28 5354 29; 3240 3240 0 28 796D 29; 3241 3241 0 28 4F11 29; 3242 3242 0 28 81EA 29;
3243 3243 0 28 81F3 29; 3244 3244 0 554F; 3245 3245 0 5E7C; 3246 3246 0 6587; 3247 3247 0 7B8F;
3250 3250 0 70 74 65; 3251 3251 0 32 31; 3252 3252 0 32 32; 3253 3253 0 32 33; 3254 3254 0 32 34;
3255 3255 0 32 35; 3256 3256 0 32 36; 3257 3257 0 32 37; 3258 3258 0 32 38; 3259 3259 0 32 39;
325A 325A 0 33 30; 325B 325B 0 33 31; 325C 325C 0 33 32; 325D 325D 0 33 33; 325E 325E 0 33 34;
325F 325F 0 33 35; 3260 3260 0 1100; 3261 3262 1 1102; 3263 3265 1 1105; 3266 3266 0 1109;
3267 3268 1 110B; 3269 326D 1 110E; 326E 326E 0 AC00; 326F 326F 0 B098; 3270 3270 0 B2E4;
3271 3271 0 B77C; 3272 3272 0 B9C8; 3273 3273 0 BC14; 3274 3274 0 C0AC; 3275 3275 0 C544;
3276 3276 0 C790; 3277 3277 0 CC28; 3278 3278 0 CE74; 3279 3279 0 D0C0; 327A 327A 0 D30C;
327B 327B 0 D558; 327C 327C 0 CC38 ACE0; 327D 327D 0 C8FC C758; 327E 327E 0 C6B0; 3280 3280 0 4E00;
3281 3281 0 4E8C; 3282 3282 0 4E09; 3283 3283 0 56DB; 3284 3284 0 4E94; 3285 3285 0 516D;
3286 3286 0 4E03; 3287 3287 0 516B; 3288 3288 0 4E5D; 3289 3289 0 5341; 328A 328A 0 6708;
328B 328B 0 706B; 328C 328C 0 6C34; 328D 328D 0 6728; 328E 328E 0 91D1; 328F 328F 0 571F;
3290 3290 0 65E5; 3291 3291 0 682A; 3292 3292 0 6709; 3293 3293 0 793E; 3294 3294 0 540D;
3295 3295 0 7279; 3296 3296 0 8CA1; 3297 3297 0 795D; 3298 3298 0 52B4; 3299 3299 0 79D8;
329A 329A 0 7537; 329B 329B 0 5973; 329C 329C 0 9069; 329D 329D 0 512A; 329E 329E 0 5370;
329F 329F 0 6CE8; 32A0 32A0 0 9805; 32A1 32A1 0 4F11; 32A2 32A2 0 5199; 32A3 32A3 0 6B63;
32A4 32A4 0 4E0A; 32A5 32A5 0 4E2D; 32A6 32A6 0 4E0B; 32A7 32A7 0 5DE6; 32A8 32A8 0 53F3;
32A9 32A9 0 533B; 32AA 32AA 0 5B97; 32AB 32AB 0 5B66; 32AC 32AC 0 76E3; 32AD 32AD 0 4F01;
32AE 32AE 0 8CC7; 32AF 32AF 0 5354; 32B0 32B0 0 591C; 32B1 32B1 0 33 36; 32B2 32B2 0 33 37;
32B3 32B3 0 33 38; 32B4 32B4 0 33 39; 32B5 32B5 0 34 30; 32B6 32B6 0 34 31; 32B7 32B7 0 34 32;
32B8 32B8 0 34 33; 32B9 32B9 0 34 34; 32BA 32BA 0 34 35; 32BB 32BB 0 34 36; 32BC 32BC 0 34 37;
32BD 32BD 0 34 38; 32BE 32BE 0 34 39; 32BF 32BF 0 35 30; 32C0 32C0 0 31 6708; 32C1 32C1 0 32 6708;
32C2 32C2 0 33 6708; 32C3 32C3 0 34 6708; 32C4 32C4 0 35 6708; 32C5 32C5 0 36 6708;
32C6 32C6 0 37 6708; 32C7 32C7 0 38 6708; 32C8 32C8 0 39 6708; 32C9 32C9 0 31 30 6708;
32CA 32CA 0 31 31 6708; 32CB 32CB 0 31 32 6708; 32CC 32CC 0 68 67; 32CD 32CD 0 65 72 67;
32CE 32CE 0 65 76; 32CF 32CF 0 6C 74 64; 32D0 32D0 0 30A2; 32D1 32D1 0 30A4; 32D2 32D2 0 30A6;
32D3 32D3 0 30A8; 32D4 32D5 1 30AA; 32D6 32D6 0 30AD; 32D7 32D7 0 30AF; 32D8 32D8 0 30B1;
32D9 32D9 0 30B3; 32DA 32DA 0 30B5; 32DB 32DB 0 30B7; 32DC 32DC 0 30B9; 32DD 32DD 0 30BB;
32DE 32DE 0 30BD; 32DF 32DF 0 30BF; 32E0 32E0 0 30C1; 32E1 32E1 0 30C4; 32E2 32E2 0 30C6;
32E3 32E3 0 30C8; 32E4 32E9 1 30CA; 32EA 32EA 0 30D2; 32EB 32EB 0 30D5; 32EC 32EC 0 30D8;
32ED 32ED 0 30DB; 32EE 32F2 1 30DE; 32F3 32F3 0 30E4; 32F4 32F4 0 30E6; 32F5 32FA 1 30E8;
32FB 32FE 1 30EF; 32FF 32FF 0 4EE4 548C; 3300 3300 0 30A2 30D1 30FC 30C8;
3301 3301 0 30A2 30EB 30D5 30A1; 3302 3302 0 30A2 30F3 30DA 30A2; 3303 3303 0 30A2 30FC 30EB;
3304 3304 0 30A4 30CB 30F3 30B0; 3305 3305 0 30A4 30F3 30C1; 3306 3306 0 30A6 30A9 30F3;
3307 3307 0 30A8 30B9 30AF 30FC 30C9; 3308 3308 0 30A8 30FC 30AB 30FC; 3309 3309 0 30AA 30F3 30B9;
330A 330A 0 30AA 30FC 30E0; 330B 330B 0 30AB 30A4 30EA; 330C 330C 0 30AB 30E9 30C3 30C8;
330D 330D 0 30AB 30ED 30EA 30FC; 330E 330E 0 30AC 30ED 30F3; 330F 330F 0 30AC 30F3 30DE;
3310 3310 0 30AE 30AC; 3311 3311 0 30AE 30CB 30FC; 3312 3312 0 30AD 30E5 30EA 30FC;
3313 3313 0 30AE 30EB 30C0 30FC; 3314 3314 0 30AD 30ED; 3315 3315 0 30AD 30ED 30B0 30E9 30E0;
3316 3316 0 30AD 30ED 30E1 30FC 30C8 30EB; 3317 3317 0 30AD 30ED 30EF 30C3 30C8;
3318 3318 0 30B0 30E9 30E0; 3319 3319 0 30B0 30E9 30E0 30C8 30F3;
331A 331A 0 30AF 30EB 30BC 30A4 30ED; 331B 331B 0 30AF 30ED 30FC 30CD; 331C 331C 0 30B1 30FC 30B9;
331D 331D 0 30B3 30EB 30CA; 331E 331E 0 30B3 30FC 30DD; 331F 331F 0 30B5 30A4 30AF 30EB;
3320 3320 0 30B5 30F3 30C1 30FC 30E0; 3321 3321 0 30B7 30EA 30F3 30B0; 3322 3322 0 30BB 30F3 30C1;
3323 3323 0 30BB 30F3 30C8; 3324 3324 0 30C0 30FC 30B9; 3325 3325 0 30C7 30B7;
3326 3326 0 30C9 30EB; 3327 3327 0 30C8 30F3; 3328 3328 0 30CA 30CE; 3329 3329 0 30CE 30C3 30C8;
332A 332A 0 30CF 30A4 30C4; 332B 332B 0 30D1 30FC 30BB 30F3 30C8; 332C 332C 0 30D1 30FC 30C4;
332D 332D 0 30D0 30FC 30EC 30EB; 332E 332E 0 30D4 30A2 30B9 30C8 30EB; 332F 332F 0 30D4 30AF 30EB;
3330 3330 0 30D4 30B3; 3331 3331 0 30D3 30EB; 3332 3332 0 30D5 30A1 30E9 30C3 30C9;
3333 3333 0 30D5 30A3 30FC 30C8; 3334 3334 0 30D6 30C3 30B7 30A7 30EB; 3335 3335 0 30D5 30E9 30F3;
3336 3336 0 30D8 30AF 30BF 30FC 30EB; 3337 3337 0 30DA 30BD; 3338 3338 0 30DA 30CB 30D2;
3339 3339 0 30D8 30EB 30C4; 333A 333A 0 30DA 30F3 30B9; 333B 333B 0 30DA 30FC 30B8;
333C 333C 0 30D9 30FC 30BF; 333D 333D 0 30DD 30A4 30F3 30C8; 333E 333E 0 30DC 30EB 30C8;
333F 333F 0 30DB 30F3; 3340 3340 0 30DD 30F3 30C9; 3341 3341 0 30DB 30FC 30EB;
3342 3342 0 30DB 30FC 30F3; 3343 3343 0 30DE 30A4 30AF 30ED; 3344 3344 0 30DE 30A4 30EB;
3345 3345 0 30DE 30C3 30CF; 3346 3346 0 30DE 30EB 30AF; 3347 3347 0 30DE 30F3 30B7 30E7 30F3;
3348 3348 0 30DF 30AF 30ED 30F3; 3349 3349 0 30DF 30EA; 334A 334A 0 30DF 30EA 30D0 30FC 30EB;
334B 334B 0 30E1 30AC; 334C 334C 0 30E1 30AC 30C8 30F3; 334D 334D 0 30E1 30FC 30C8 30EB;
334E 334E 0 30E4 30FC 30C9; 334F 334F 0 30E4 30FC 30EB; 3350 3350 0 30E6 30A2 30F3;
3351 3351 0 30EA 30C3 30C8 30EB; 3352 3352 0 30EA 30E9; 3353 3353 0 30EB 30D4 30FC;
3354 3354 0 30EB 30FC 30D6 30EB; 3355 3355 0 30EC 30E0; 3356 3356 0 30EC 30F3 30C8 30B2 30F3;
3357 3357 0 30EF 30C3 30C8; 3358 3358 0 30 70B9; 3359 3359 0 31 70B9; 335A 335A 0 32 70B9;
335B 335B 0 33 70B9; 335C 335C 0 34 70B9; 335D 335D 0 35 70B9; 335E 335E 0 36 70B9;
335F 335F 0 37 70B9; 3360 3360 0 38 70B9; 3361 3361 0 39 70B9; 3362 3362 0 31 30 70B9;
3363 3363 0 31 31 70B9; 3364 3364 0 31 32 70B9; 3365 3365 0 31 33 70B9; 3366 3366 0 31 34 70B9;
3367 3367 0 31 35 70B9; 3368 3368 0 31 36 70B9; 3369 3369 0 31 37 70B9; 336A 336A 0 31 38 70B9;
336B 336B 0 31 39 70B9; 336C 336C 0 32 30 70B9; 336D 336D 0 32 31 70B9; 336E 336E 0 32 32 70B9;
336F 336F 0 32 33 70B9; 3370 3370 0 32 34 70B9; 3371 3371 0 68 70 61; 3372 3372 0 64 61;
3373 3373 0 61 75; 3374 3374 0 62 61 72; 3375 3375 0 6F 76; 3376 3376 0 70 63; 3377 3377 0 64 6D;
3378 3378 0 64 6D 32; 3379 3379 0 64 6D 33; 337A 337A 0 69 75; 337B 337B 0 5E73 6210;
337C 337C 0 662D 548C; 337D 337D 0 5927 6B63; 337E 337E 0 660E 6CBB;
337F 337F 0 682A 5F0F 4F1A 793E; 3380 3380 0 70 61; 3381 3381 0 6E 61; 3382 3382 0 3BC 61;
3383 3383 0 6D 61; 3384 3384 0 6B 61; 3385 3385 0 6B 62; 3386 3386 0 6D 62; 3387 3387 0 67 62;
3388 3388 0 63 61 6C; 3389 3389 0 6B 63 61 6C; 338A 338A 0 70 66; 338B 338B 0 6E 66;
338C 338C 0 3BC 66; 338D 338D 0 3BC 67; 338E 338E 0 6D 67; 338F 338F 0 6B 67; 3390 3390 0 68 7A;
3391 3391 0 6B 68 7A; 3392 3392 0 6D 68 7A; 3393 3393 0 67 68 7A; 3394 3394 0 74 68 7A;
3395 3395 0 3BC 6C; 3396 3396 0 6D 6C; 3397 3397 0 64 6C; 3398 3398 0 6B 6C; 3399 3399 0 66 6D;
339A 339A 0 6E 6D; 339B 339B 0 3BC 6D; 339C 339C 0 6D 6D; 339D 339D 0 63 6D; 339E 339E 0 6B 6D;
339F 339F 0 6D 6D 32; 33A0 33A0 0 63 6D 32; 33A1 33A1 0 6D 32; 33A2 33A2 0 6B 6D 32;
33A3 33A3 0 6D 6D 33; 33A4 33A4 0 63 6D 33; 33A5 33A5 0 6D 33; 33A6 33A6 0 6B 6D 33;
33A7 33A7 0 6D 2215 73; 33A8 33A8 0 6D 2215 73 32; 33A9 33A9 0 70 61; 33AA 33AA 0 6B 70 61;
33AB 33AB 0 6D 70 61; 33AC 33AC 0 67 70 61; 33AD 33AD 0 72 61 64; 33AE 33AE 0 72 61 64 2215 73;
33AF 33AF 0 72 61 64 2215 73 32; 33B0 33B0 0 70 73; 33B1 33B1 0 6E 73; 33B2 33B2 0 3BC 73;
33B3 33B3 0 6D 73; 33B4 33B4 0 70 76; 33B5 33B5 0 6E 76; 33B6 33B6 0 3BC 76; 33B7 33B7 0 6D 76;
33B8 33B8 0 6B 76; 33B9 33B9 0 6D 76; 33BA 33BA 0 70 77; 33BB 33BB 0 6E 77; 33BC 33BC 0 3BC 77;
33BD 33BD 0 6D 77; 33BE 33BE 0 6B 77; 33BF 33BF 0 6D 77; 33C0 33C0 0 6B 3C9; 33C1 33C1 0 6D 3C9;
33C3 33C3 0 62 71; 33C4 33C4 0 63 63; 33C5 33C5 0 63 64; 33C6 33C6 0 63 2215 6B 67;
33C8 33C8 0 64 62; 33C9 33C9 0 67 79; 33CA 33CA 0 68 61; 33CB 33CB 0 68 70; 33CC 33CC 0 69 6E;
33CD 33CD 0 6B 6B; 33CE 33CE 0 6B 6D; 33CF 33CF 0 6B 74; 33D0 33D0 0 6C 6D; 33D1 33D1 0 6C 6E;
33D2 33D2 0 6C 6F 67; 33D3 33D3 0 6C 78; 33D4 33D4 0 6D 62; 33D5 33D5 0 6D 69 6C;
33D6 33D6 0 6D 6F 6C; 33D7 33D7 0 70 68; 33D9 33D9 0 70 70 6D; 33DA 33DA 0 70 72; 33DB 33DB 0 73 72;
33DC 33DC 0 73 76; 33DD 33DD 0 77 62; 33DE 33DE 0 76 2215 6D; 33DF 33DF 0 61 2215 6D;
33E0 33E0 0 31 65E5; 33E1 33E1 0 32 65E5; 33E2 33E2 0 33 65E5; 33E3 33E3 0 34 65E5;
33E4 33E4 0 35 65E5; 33E5 33E5 0 36 65E5; 33E6 33E6 0 37 65E5; 33E7 33E7 0 38 65E5;
33E8 33E8 0 39 65E5; 33E9 33E9 0 31 30 65E5; 33EA 33EA 0 31 31 65E5; 33EB 33EB 0 31 32 65E5;
33EC 33EC 0 31 33 65E5; 33ED 33ED 0 31 34 65E5; 33EE 33EE 0 31 35 65E5; 33EF 33EF 0 31 36 65E5;
33F0 33F0 0 31 37 65E5; 33F1 33F1 0 31 38 65E5; 33F2 33F2 0 31 39 65E5; 33F3 33F3 0 32 30 65E5;
33F4 33F4 0 32 31 65E5; 33F5 33F5 0 32 32 65E5; 33F6 33F6 0 32 33 65E5; 33F7 33F7 0 32 34 65E5;
33F8 33F8 0 32 35 65E5; 33F9 33F9 0 32 36 65E5; 33FA 33FA 0 32 37 65E5; 33FB 33FB 0 32 38 65E5;
33FC 33FC 0 32 39 65E5; 33FD 33FD 0 33 30 65E5; 33FE 33FE 0 33 31 65E5; 33FF 33FF 0 67 61 6C;
A640 A66C 2 A641; A680 A69A 2 A681; A69C A69C 0 44A; A69D A69D 0 44C; A722 A72E 2 A723;
A732 A76E 2 A733; A770 A770 0 A76F; A779 A77B 2 A77A; A77D A77D 0 1D79; A77E A786 2 A77F;
A78B A78B 0 A78C; A78D A78D 0 265; A790 A792 2 A791; A796 A7A8 2 A797; A7AA A7AA 0 266;
A7AB A7AB 0 25C; A7AC A7AC 0 261; A7AD A7AD 0 26C; A7AE A7AE 0 26A; A7B0 A7B0 0 29E;
A7B1 A7B1 0 287; A7B2 A7B2 0 29D; A7B3 A7B3 0 AB53; A7B4 A7C2 2 A7B5; A7C4 A7C4 0 A794;
A7C5 A7C5 0 282; A7C6 A7C6 0 1D8E; A7C7 A7C9 2 A7C8; A7CB A7CB 0 264; A7CC A7DA 2 A7CD;
A7DC A7DC 0 19B; A7F1 A7F1 0 73; A7F2 A7F2 0 63; A7F3 A7F3 0 66; A7F4 A7F4 0 71; A7F5 A7F5 0 A7F6;
A7F8 A7F8 0 127; A7F9 A7F9 0 153; AB5C AB5C 0 A727; AB5D AB5D 0 AB37; AB5E AB5E 0 26B;
AB5F AB5F 0 AB52; AB69 AB69 0 28D; AB70 ABBF 1 13A0; FB00 FB00 0 66 66; FB01 FB01 0 66 69;
FB02 FB02 0 66 6C; FB03 FB03 0 66 66 69; FB04 FB04 0 66 66 6C; FB05 FB06 0 73 74;
FB13 FB13 0 574 576; FB14 FB14 0 574 565; FB15 FB15 0 574 56B; FB16 FB16 0 57E 576;
FB17 FB17 0 574 56D; FB20 FB20 0 5E2; FB21 FB21 0 5D0; FB22 FB23 1 5D3; FB24 FB26 1 5DB;
FB27 FB27 0 5E8; FB28 FB28 0 5EA; FB29 FB29 0 2B; FB4F FB4F 0 5D0 5DC; FB50 FB51 0 671;
FB52 FB55 0 67B; FB56 FB59 0 67E; FB5A FB5D 0 680; FB5E FB61 0 67A; FB62 FB65 0 67F;
FB66 FB69 0 679; FB6A FB6D 0 6A4; FB6E FB71 0 6A6; FB72 FB75 0 684; FB76 FB79 0 683;
FB7A FB7D 0 686; FB7E FB81 0 687; FB82 FB83 0 68D; FB84 FB85 0 68C; FB86 FB87 0 68E;
FB88 FB89 0 688; FB8A FB8B 0 698; FB8C FB8D 0 691; FB8E FB91 0 6A9; FB92 FB95 0 6AF;
FB96 FB99 0 6B3; FB9A FB9D 0 6B1; FB9E FB9F 0 6BA; FBA0 FBA3 0 6BB; FBA4 FBA5 0 6C0;
FBA6 FBA9 0 6C1; FBAA FBAD 0 6BE; FBAE FBAF 0 6D2; FBB0 FBB1 0 6D3; FBD3 FBD6 0 6AD;
FBD7 FBD8 0 6C7; FBD9 FBDA 0 6C6; FBDB FBDC 0 6C8; FBDD FBDD 0 6C7 674; FBDE FBDF 0 6CB;
FBE0 FBE1 0 6C5; FBE2 FBE3 0 6C9; FBE4 FBE7 0 6D0; FBE8 FBE9 0 649; FBEA FBEB 0 626 627;
FBEC FBED 0 626 6D5; FBEE FBEF 0 626 648; FBF0 FBF1 0 626 6C7; FBF2 FBF3 0 626 6C6;
FBF4 FBF5 0 626 6C8; FBF6 FBF8 0 626 6D0; FBF9 FBFB 0 626 649; FBFC FBFF 0 6CC; FC00 FC00 0 626 62C;
FC01 FC01 0 626 62D; FC02 FC02 0 626 645; FC03 FC03 0 626 649; FC04 FC04 0 626 64A;
FC05 FC05 0 628 62C; FC06 FC06 0 628 62D; FC07 FC07 0 628 62E; FC08 FC08 0 628 645;
FC09 FC09 0 628 649; FC0A FC0A 0 628 64A; FC0B FC0B 0 62A 62C; FC0C FC0C 0 62A 62D;
FC0D FC0D 0 62A 62E; FC0E FC0E 0 62A 645; FC0F FC0F 0 62A 649; FC10 FC10 0 62A 64A;
FC11 FC11 0 62B 62C; FC12 FC12 0 62B 645; FC13 FC13 0 62B 649; FC14 FC14 0 62B 64A;
FC15 FC15 0 62C 62D; FC16 FC16 0 62C 645; FC17 FC17 0 62D 62C; FC18 FC18 0 62D 645;
FC19 FC19 0 62E 62C; FC1A FC1A 0 62E 62D; FC1B FC1B 0 62E 645; FC1C FC1C 0 633 62C;
FC1D FC1D 0 633 62D; FC1E FC1E 0 633 62E; FC1F FC1F 0 633 645; FC20 FC20 0 635 62D;
FC21 FC21 0 635 645; FC22 FC22 0 636 62C; FC23 FC23 0 636 62D; FC24 FC24 0 636 62E;
FC25 FC25 0 636 645; FC26 FC26 0 637 62D; FC27 FC27 0 637 645; FC28 FC28 0 638 645;
FC29 FC29 0 639 62C; FC2A FC2A 0 639 645; FC2B FC2B 0 63A 62C; FC2C FC2C 0 63A 645;
FC2D FC2D 0 641 62C; FC2E FC2E 0 641 62D; FC2F FC2F 0 641 62E; FC30 FC30 0 641 645;
FC31 FC31 0 641 649; FC32 FC32 0 641 64A; FC33 FC33 0 642 62D; FC34 FC34 0 642 645;
FC35 FC35 0 642 649; FC36 FC36 0 642 64A; FC37 FC37 0 643 627; FC38 FC38 0 643 62C;
FC39 FC39 0 643 62D; FC3A FC3A 0 643 62E; FC3B FC3B 0 643 644; FC3C FC3C 0 643 645;
FC3D FC3D 0 643 649; FC3E FC3E 0 643 64A; FC3F FC3F 0 644 62C; FC40 FC40 0 644 62D;
FC41 FC41 0 644 62E; FC42 FC42 0 644 645; FC43 FC43 0 644 649; FC44 FC44 0 644 64A;
FC45 FC45 0 645 62C; FC46 FC46 0 645 62D; FC47 FC47 0 645 62E; FC48 FC48 0 645 645;
FC49 FC49 0 645 649; FC4A FC4A 0 645 64A; FC4B FC4B 0 646 62C; FC4C FC4C 0 646 62D;
FC4D FC4D 0 646 62E; FC4E FC4E 0 646 645; FC4F FC4F 0 646 649; FC50 FC50 0 646 64A;
FC51 FC51 0 647 62C; FC52 FC52 0 647 645; FC53 FC53 0 647 649; FC54 FC54 0 647 64A;
FC55 FC55 0 64A 62C; FC56 FC56 0 64A 62D; FC57 FC57 0 64A 62E; FC58 FC58 0 64A 645;
FC59 FC59 0 64A 649; FC5A FC5A 0 64A 64A; FC5B FC5B 0 630 670; FC5C FC5C 0 631 670;
FC5D FC5D 0 649 670; FC5E FC5E 0 20 64C 651; FC5F FC5F 0 20 64D 651; FC60 FC60 0 20 64E 651;
FC61 FC61 0 20 64F 651; FC62 FC62 0 20 650 651; FC63 FC63 0 20 651 670; FC64 FC64 0 626 631;
FC65 FC65 0 626 632; FC66 FC66 0 626 645; FC67 FC67 0 626 646; FC68 FC68 0 626 649;
FC69 FC69 0 626 64A; FC6A FC6A 0 628 631; FC6B FC6B 0 628 632; FC6C FC6C 0 628 645;
FC6D FC6D 0 628 646; FC6E FC6E 0 628 649; FC6F FC6F 0 628 64A; FC70 FC70 0 62A 631;
FC71 FC71 0 62A 632; FC72 FC72 0 62A 645; FC73 FC73 0 62A 646; FC74 FC74 0 62A 649;
FC75 FC75 0 62A 64A; FC76 FC76 0 62B 631; FC77 FC77 0 62B 632; FC78 FC78 0 62B 645;
FC79 FC79 0 62B 646; FC7A FC7A 0 62B 649; FC7B FC7B 0 62B 64A; FC7C FC7C 0 641 649;
FC7D FC7D 0 641 64A; FC7E FC7E 0 642 649; FC7F FC7F 0 642 64A; FC80 FC80 0 643 627;
FC81 FC81 0 643 644; FC82 FC82 0 643 645; FC83 FC83 0 643 649; FC84 FC84 0 643 64A;
FC85 FC85 0 644 645; FC86 FC86 0 644 649; FC87 FC87 0 644 64A; FC88 FC88 0 645 627;
FC89 FC89 0 645 645; FC8A FC8A 0 646 631; FC8B FC8B 0 646 632; FC8C FC8C 0 646 645;
FC8D FC8D 0 646 646; FC8E FC8E 0 646 649; FC8F FC8F 0 646 64A; FC90 FC90 0 649 670;
FC91 FC91 0 64A 631; FC92 FC92 0 64A 632; FC93 FC93 0 64A 645; FC94 FC94 0 64A 646;
FC95 FC95 0 64A 649; FC96 FC96 0 64A 64A; FC97 FC97 0 626 62C; FC98 FC98 0 626 62D;
FC99 FC99 0 626 62E; FC9A FC9A 0 626 645; FC9B FC9B 0 626 647; FC9C FC9C 0 628 62C;
FC9D FC9D 0 628 62D; FC9E FC9E 0 628 62E; FC9F FC9F 0 628 645; FCA0 FCA0 0 628 647;
FCA1 FCA1 0 62A 62C; FCA2 FCA2 0 62A 62D; FCA3 FCA3 0 62A 62E; FCA4 FCA4 0 62A 645;
FCA5 FCA5 0 62A 647; FCA6 FCA6 0 62B 645; FCA7 FCA7 0 62C 62D; FCA8 FCA8 0 62C 645;
FCA9 FCA9 0 62D 62C; FCAA FCAA 0 62D 645; FCAB FCAB 0 62E 62C; FCAC FCAC 0 62E 645;
FCAD FCAD 0 633 62C; FCAE FCAE 0 633 62D; FCAF FCAF 0 633 62E; FCB0 FCB0 0 633 645;
FCB1 FCB1 0 635 62D; FCB2 FCB2 0 635 62E; FCB3 FCB3 0 635 645; FCB4 FCB4 0 636 62C;
FCB5 FCB5 0 636 62D; FCB6 FCB6 0 636 62E; FCB7 FCB7 0 636 645; FCB8 FCB8 0 637 62D;
FCB9 FCB9 0 638 645; FCBA FCBA 0 639 62C; FCBB FCBB 0 639 645; FCBC FCBC 0 63A 62C;
FCBD FCBD 0 63A 645; FCBE FCBE 0 641 62C; FCBF FCBF 0 641 62D; FCC0 FCC0 0 641 62E;
FCC1 FCC1 0 641 645; FCC2 FCC2 0 642 62D; FCC3 FCC3 0 642 645; FCC4 FCC4 0 643 62C;
FCC5 FCC5 0 643 62D; FCC6 FCC6 0 643 62E; FCC7 FCC7 0 643 644; FCC8 FCC8 0 643 645;
FCC9 FCC9 0 644 62C; FCCA FCCA 0 644 62D; FCCB FCCB 0 644 62E; FCCC FCCC 0 644 645;
FCCD FCCD 0 644 647; FCCE FCCE 0 645 62C; FCCF FCCF 0 645 62D; FCD0 FCD0 0 645 62E;
FCD1 FCD1 0 645 645; FCD2 FCD2 0 646 62C; FCD3 FCD3 0 646 62D; FCD4 FCD4 0 646 62E;
FCD5 FCD5 0 646 645; FCD6 FCD6 0 646 647; FCD7 FCD7 0 647 62C; FCD8 FCD8 0 647 645;
FCD9 FCD9 0 647 670; FCDA FCDA 0 64A 62C; FCDB FCDB 0 64A 62D; FCDC FCDC 0 64A 62E;
FCDD FCDD 0 64A 645; FCDE FCDE 0 64A 647; FCDF FCDF 0 626 645; FCE0 FCE0 0 626 647;
FCE1 FCE1 0 628 645; FCE2 FCE2 0 628 647; FCE3 FCE3 0 62A 645; FCE4 FCE4 0 62A 647;
FCE5 FCE5 0 62B 645; FCE6 FCE6 0 62B 647; FCE7 FCE7 0 633 645; FCE8 FCE8 0 633 647;
FCE9 FCE9 0 634 645; FCEA FCEA 0 634 647; FCEB FCEB 0 643 644; FCEC FCEC 0 643 645;
FCED FCED 0 644 645; FCEE FCEE 0 646 645; FCEF FCEF 0 646 647; FCF0 FCF0 0 64A 645;
FCF1 FCF1 0 64A 647; FCF2 FCF2 0 640 64E 651; FCF3 FCF3 0 640 64F 651; FCF4 FCF4 0 640 650 651;
FCF5 FCF5 0 637 649; FCF6 FCF6 0 637 64A; FCF7 FCF7 0 639 649; FCF8 FCF8 0 639 64A;
FCF9 FCF9 0 63A 649; FCFA FCFA 0 63A 64A; FCFB FCFB 0 633 649; FCFC FCFC 0 633 64A;
FCFD FCFD 0 634 649; FCFE FCFE 0 634 64A; FCFF FCFF 0 62D 649; FD00 FD00 0 62D 64A;
FD01 FD01 0 62C 649; FD02 FD02 0 62C 64A; FD03 FD03 0 62E 649; FD04 FD04 0 62E 64A;
FD05 FD05 0 635 649; FD06 FD06 0 635 64A; FD07 FD07 0 636 649; FD08 FD08 0 636 64A;
FD09 FD09 0 634 62C; FD0A FD0A 0 634 62D; FD0B FD0B 0 634 62E; FD0C FD0C 0 634 645;
FD0D FD0D 0 634 631; FD0E FD0E 0 633 631; FD0F FD0F 0 635 631; FD10 FD10 0 636 631;
FD11 FD11 0 637 649; FD12 FD12 0 637 64A; FD13 FD13 0 639 649; FD14 FD14 0 639 64A;
FD15 FD15 0 63A 649; FD16 FD16 0 63A 64A; FD17 FD17 0 633 649; FD18 FD18 0 633 64A;
FD19 FD19 0 634 649; FD1A FD1A 0 634 64A; FD1B FD1B 0 62D 649; FD1C FD1C 0 62D 64A;
FD1D FD1D 0 62C 649; FD1E FD1E 0 62C 64A; FD1F FD1F 0 62E 649; FD20 FD20 0 62E 64A;
FD21 FD21 0 635 649; FD22 FD22 0 635 64A; FD23 FD23 0 636 649; FD24 FD24 0 636 64A;
FD25 FD25 0 634 62C; FD26 FD26 0 634 62D; FD27 FD27 0 634 62E; FD28 FD28 0 634 645;
FD29 FD29 0 634 631; FD2A FD2A 0 633 631; FD2B FD2B 0 635 631; FD2C FD2C 0 636 631;
FD2D FD2D 0 634 62C; FD2E FD2E 0 634 62D; FD2F FD2F 0 634 62E; FD30 FD30 0 634 645;
FD31 FD31 0 633 647; FD32 FD32 0 634 647; FD33 FD33 0 637 645; FD34 FD34 0 633 62C;
FD35 FD35 0 633 62D; FD36 FD36 0 633 62E; FD37 FD37 0 634 62C; FD38 FD38 0 634 62D;
FD39 FD39 0 634 62E; FD3A FD3A 0 637 645; FD3B FD3B 0 638 645; FD3C FD3D 0 627 64B;
FD50 FD50 0 62A 62C 645; FD51 FD52 0 62A 62D 62C; FD53 FD53 0 62A 62D 645; FD54 FD54 0 62A 62E 645;
FD55 FD55 0 62A 645 62C; FD56 FD56 0 62A 645 62D; FD57 FD57 0 62A 645 62E; FD58 FD59 0 62C 645 62D;
FD5A FD5A 0 62D 645 64A; FD5B FD5B 0 62D 645 649; FD5C FD5C 0 633 62D 62C; FD5D FD5D 0 633 62C 62D;
FD5E FD5E 0 633 62C 649; FD5F FD60 0 633 645 62D; FD61 FD61 0 633 645 62C; FD62 FD63 0 633 645 645;
FD64 FD65 0 635 62D 62D; FD66 FD66 0 635 645 645; FD67 FD68 0 634 62D 645; FD69 FD69 0 634 62C 64A;
FD6A FD6B 0 634 645 62E; FD6C FD6D 0 634 645 645; FD6E FD6E 0 636 62D 649; FD6F FD70 0 636 62E 645;
FD71 FD72 0 637 645 62D; FD73 FD73 0 637 645 645; FD74 FD74 0 637 645 64A; FD75 FD75 0 639 62C 645;
FD76 FD77 0 639 645 645; FD78 FD78 0 639 645 649; FD79 FD79 0 63A 645 645; FD7A FD7A 0 63A 645 64A;
FD7B FD7B 0 63A 645 649; FD7C FD7D 0 641 62E 645; FD7E FD7E 0 642 645 62D; FD7F FD7F 0 642 645 645;
FD80 FD80 0 644 62D 645; FD81 FD81 0 644 62D 64A; FD82 FD82 0 644 62D 649; FD83 FD84 0 644 62C 62C;
FD85 FD86 0 644 62E 645; FD87 FD88 0 644 645 62D; FD89 FD89 0 645 62D 62C; FD8A FD8A 0 645 62D 645;
FD8B FD8B 0 645 62D 64A; FD8C FD8C 0 645 62C 62D; FD8D FD8D 0 645 62C 645; FD8E FD8E 0 645 62E 62C;
FD8F FD8F 0 645 62E 645; FD92 FD92 0 645 62C 62E; FD93 FD93 0 647 645 62C; FD94 FD94 0 647 645 645;
FD95 FD95 0 646 62D 645; FD96 FD96 0 646 62D 649; FD97 FD98 0 646 62C 645; FD99 FD99 0 646 62C 649;
FD9A FD9A 0 646 645 64A; FD9B FD9B 0 646 645 649; FD9C FD9D 0 64A 645 645; FD9E FD9E 0 628 62E 64A;
FD9F FD9F 0 62A 62C 64A; FDA0 FDA0 0 62A 62C 649; FDA1 FDA1 0 62A 62E 64A; FDA2 FDA2 0 62A 62E 649;
FDA3 FDA3 0 62A 645 64A; FDA4 FDA4 0 62A 645 649; FDA5 FDA5 0 62C 645 64A; FDA6 FDA6 0 62C 62D 649;
FDA7 FDA7 0 62C 645 649; FDA8 FDA8 0 633 62E 649; FDA9 FDA9 0 635 62D 64A; FDAA FDAA 0 634 62D 64A;
FDAB FDAB 0 636 62D 64A; FDAC FDAC 0 644 62C 64A; FDAD FDAD 0 644 645 64A; FDAE FDAE 0 64A 62D 64A;
FDAF FDAF 0 64A 62C 64A; FDB0 FDB0 0 64A 645 64A; FDB1 FDB1 0 645 645 64A; FDB2 FDB2 0 642 645 64A;
FDB3 FDB3 0 646 62D 64A; FDB4 FDB4 0 642 645 62D; FDB5 FDB5 0 644 62D 645; FDB6 FDB6 0 639 645 64A;
FDB7 FDB7 0 643 645 64A; FDB8 FDB8 0 646 62C 62D; FDB9 FDB9 0 645 62E 64A; FDBA FDBA 0 644 62C 645;
FDBB FDBB 0 643 645 645; FDBC FDBC 0 644 62C 645; FDBD FDBD 0 646 62C 62D; FDBE FDBE 0 62C 62D 64A;
FDBF FDBF 0 62D 62C 64A; FDC0 FDC0 0 645 62C 64A; FDC1 FDC1 0 641 645 64A; FDC2 FDC2 0 628 62D 64A;
FDC3 FDC3 0 643 645 645; FDC4 FDC4 0 639 62C 645; FDC5 FDC5 0 635 645 645; FDC6 FDC6 0 633 62E 64A;
FDC7 FDC7 0 646 62C 64A; FDF0 FDF0 0 635 644 6D2; FDF1 FDF1 0 642 644 6D2;
FDF2 FDF2 0 627 644 644 647; FDF3 FDF3 0 627 643 628 631; FDF4 FDF4 0 645 62D 645 62F;
FDF5 FDF5 0 635 644 639 645; FDF6 FDF6 0 631 633 648 644; FDF7 FDF7 0 639 644 64A 647;
FDF8 FDF8 0 648 633 644 645; FDF9 FDF9 0 635 644 649;
FDFA FDFA 0 635 644 649 20 627 644 644 647 20 639 644 64A 647 20 648 633 644 645;
FDFB FDFB 0 62C 644 20 62C 644 627 644 647; FDFC FDFC 0 631 6CC 627 644; FE00 FE0F 0;
FE10 FE10 0 2C; FE11 FE11 0 3001; FE13 FE14 1 3A; FE15 FE15 0 21; FE16 FE16 0 3F; FE17 FE18 1 3016;
FE31 FE31 0 2014; FE32 FE32 0 2013; FE33 FE34 0 5F; FE35 FE36 1 28; FE37 FE37 0 7B; FE38 FE38 0 7D;
FE39 FE3A 1 3014; FE3B FE3C 1 3010; FE3D FE3E 1 300A; FE3F FE40 1 3008; FE41 FE44 1 300C;
FE47 FE47 0 5B; FE48 FE48 0 5D; FE49 FE4C 0 20 305; FE4D FE4F 0 5F; FE50 FE50 0 2C;
FE51 FE51 0 3001; FE54 FE54 0 3B; FE55 FE55 0 3A; FE56 FE56 0 3F; FE57 FE57 0 21; FE58 FE58 0 2014;
FE59 FE5A 1 28; FE5B FE5B 0 7B; FE5C FE5C 0 7D; FE5D FE5E 1 3014; FE5F FE5F 0 23; FE60 FE60 0 26;
FE61 FE62 1 2A; FE63 FE63 0 2D; FE64 FE64 0 3C; FE65 FE65 0 3E; FE66 FE66 0 3D; FE68 FE68 0 5C;
FE69 FE6A 1 24; FE6B FE6B 0 40; FE70 FE70 0 20 64B; FE71 FE71 0 640 64B; FE72 FE72 0 20 64C;
FE74 FE74 0 20 64D; FE76 FE76 0 20 64E; FE77 FE77 0 640 64E; FE78 FE78 0 20 64F;
FE79 FE79 0 640 64F; FE7A FE7A 0 20 650; FE7B FE7B 0 640 650; FE7C FE7C 0 20 651;
FE7D FE7D 0 640 651; FE7E FE7E 0 20 652; FE7F FE7F 0 640 652; FE80 FE81 1 621; FE82 FE83 1 622;
FE84 FE85 1 623; FE86 FE87 1 624; FE88 FE89 1 625; FE8A FE8C 0 626; FE8D FE8E 0 627;
FE8F FE92 0 628; FE93 FE94 0 629; FE95 FE98 0 62A; FE99 FE9C 0 62B; FE9D FEA0 0 62C;
FEA1 FEA4 0 62D; FEA5 FEA8 0 62E; FEA9 FEAA 0 62F; FEAB FEAC 0 630; FEAD FEAE 0 631;
FEAF FEB0 0 632; FEB1 FEB4 0 633; FEB5 FEB8 0 634; FEB9 FEBC 0 635; FEBD FEC0 0 636;
FEC1 FEC4 0 637; FEC5 FEC8 0 638; FEC9 FECC 0 639; FECD FED0 0 63A; FED1 FED4 0 641;
FED5 FED8 0 642; FED9 FEDC 0 643; FEDD FEE0 0 644; FEE1 FEE4 0 645; FEE5 FEE8 0 646;
FEE9 FEEC 0 647; FEED FEEE 0 648; FEEF FEF0 0 649; FEF1 FEF4 0 64A; FEF5 FEF6 0 644 622;
FEF7 FEF8 0 644 623; FEF9 FEFA 0 644 625; FEFB FEFC 0 644 627; FEFF FEFF 0; FF01 FF20 1 21;
FF21 FF3A 1 61; FF3B FF5E 1 5B; FF5F FF60 1 2985; FF61 FF61 0 2E; FF62 FF63 1 300C;
FF64 FF64 0 3001; FF65 FF65 0 30FB; FF66 FF66 0 30F2; FF67 FF67 0 30A1; FF68 FF68 0 30A3;
FF69 FF69 0 30A5; FF6A FF6A 0 30A7; FF6B FF6B 0 30A9; FF6C FF6C 0 30E3; FF6D FF6D 0 30E5;
FF6E FF6E 0 30E7; FF6F FF6F 0 30C3; FF70 FF70 0 30FC; FF71 FF71 0 30A2; FF72 FF72 0 30A4;
FF73 FF73 0 30A6; FF74 FF74 0 30A8; FF75 FF76 1 30AA; FF77 FF77 0 30AD; FF78 FF78 0 30AF;
FF79 FF79 0 30B1; FF7A FF7A 0 30B3; FF7B FF7B 0 30B5; FF7C FF7C 0 30B7; FF7D FF7D 0 30B9;
FF7E FF7E 0 30BB; FF7F FF7F 0 30BD; FF80 FF80 0 30BF; FF81 FF81 0 30C1; FF82 FF82 0 30C4;
FF83 FF83 0 30C6; FF84 FF84 0 30C8; FF85 FF8A 1 30CA; FF8B FF8B 0 30D2; FF8C FF8C 0 30D5;
FF8D FF8D 0 30D8; FF8E FF8E 0 30DB; FF8F FF93 1 30DE; FF94 FF94 0 30E4; FF95 FF95 0 30E6;
FF96 FF9B 1 30E8; FF9C FF9C 0 30EF; FF9D FF9D 0 30F3; FF9E FF9F 1 3099; FFA0 FFA0 0;
FFA1 FFA2 1 1100; FFA3 FFA3 0 11AA; FFA4 FFA4 0 1102; FFA5 FFA6 1 11AC; FFA7 FFA9 1 1103;
FFAA FFAF 1 11B0; FFB0 FFB0 0 111A; FFB1 FFB3 1 1106; FFB4 FFB4 0 1121; FFB5 FFBE 1 1109;
FFC2 FFC7 1 1161; FFCA FFCF 1 1167; FFD2 FFD7 1 116D; FFDA FFDC 1 1173; FFE0 FFE1 1 A2;
FFE2 FFE2 0 AC; FFE3 FFE3 0 20 304; FFE4 FFE4 0 A6; FFE5 FFE5 0 A5; FFE6 FFE6 0 20A9;
FFE8 FFE8 0 2502; FFE9 FFEC 1 2190; FFED FFED 0 25A0; FFEE FFEE 0 25CB; 10400 10427 1 10428;
104B0 104D3 1 104D8; 10570 1057A 1 10597; 1057C 1058A 1 105A3; 1058C 10592 1 105B3;
10594 10595 1 105BB; 10781 10782 1 2D0; 10783 10783 0 E6; 10784 10784 0 299; 10785 10785 0 253;
10787 10787 0 2A3; 10788 10788 0 AB66; 10789 10789 0 2A5; 1078A 1078A 0 2A4; 1078B 1078C 1 256;
1078D 1078D 0 1D91; 1078E 1078E 0 258; 1078F 1078F 0 25E; 10790 10790 0 2A9; 10791 10791 0 264;
10792 10792 0 262; 10793 10793 0 260; 10794 10794 0 29B; 10795 10795 0 127; 10796 10796 0 29C;
10797 10797 0 267; 10798 10798 0 284; 10799 1079A 1 2AA; 1079B 1079B 0 26C; 1079C 1079C 0 1DF04;
1079D 1079D 0 A78E; 1079E 1079E 0 26E; 1079F 1079F 0 1DF05; 107A0 107A0 0 28E; 107A1 107A1 0 1DF06;
107A2 107A2 0 F8; 107A3 107A4 1 276; 107A5 107A5 0 71; 107A6 107A6 0 27A; 107A7 107A7 0 1DF08;
107A8 107A9 1 27D; 107AA 107AA 0 280; 107AB 107AB 0 2A8; 107AC 107AC 0 2A6; 107AD 107AD 0 AB67;
107AE 107AE 0 2A7; 107AF 107AF 0 288; 107B0 107B0 0 2C71; 107B2 107B2 0 28F; 107B3 107B4 1 2A1;
107B5 107B5 0 298; 107B6 107B8 1 1C0; 107B9 107B9 0 1DF0A; 107BA 107BA 0 1DF1E; 10C80 10CB2 1 10CC0;
10D50 10D65 1 10D70; 118A0 118BF 1 118C0; 16E40 16E5F 1 16E60; 16EA0 16EB8 1 16EBB; 1BCA0 1BCA3 0;
1CCD6 1CCEF 1 61; 1CCF0 1CCF9 1 30; 1D173 1D17A 0; 1D400 1D419 1 61; 1D41A 1D433 1 61;
1D434 1D44D 1 61; 1D44E 1D454 1 61; 1D456 1D467 1 69; 1D468 1D481 1 61; 1D482 1D49B 1 61;
1D49C 1D49E 2 61; 1D49F 1D49F 0 64; 1D4A2 1D4A2 0 67; 1D4A5 1D4A6 1 6A; 1D4A9 1D4AC 1 6E;
1D4AE 1D4B5 1 73; 1D4B6 1D4B9 1 61; 1D4BB 1D4BD 2 66; 1D4BE 1D4C3 1 69; 1D4C5 1D4CF 1 70;
1D4D0 1D4E9 1 61; 1D4EA 1D503 1 61; 1D504 1D505 1 61; 1D507 1D50A 1 64; 1D50D 1D514 1 6A;
1D516 1D51C 1 73; 1D51E 1D537 1 61; 1D538 1D539 1 61; 1D53B 1D53E 1 64; 1D540 1D544 1 69;
1D546 1D546 0 6F; 1D54A 1D550 1 73; 1D552 1D56B 1 61; 1D56C 1D585 1 61; 1D586 1D59F 1 61;
1D5A0 1D5B9 1 61; 1D5BA 1D5D3 1 61; 1D5D4 1D5ED 1 61; 1D5EE 1D607 1 61; 1D608 1D621 1 61;
1D622 1D63B 1 61; 1D63C 1D655 1 61; 1D656 1D66F 1 61; 1D670 1D689 1 61; 1D68A 1D6A3 1 61;
1D6A4 1D6A4 0 131; 1D6A5 1D6A5 0 237; 1D6A8 1D6B8 1 3B1; 1D6B9 1D6B9 0 3B8; 1D6BA 1D6C0 1 3C3;
1D6C1 1D6C1 0 2207; 1D6C2 1D6D2 1 3B1; 1D6D3 1D6D4 0 3C3; 1D6D5 1D6DA 1 3C4; 1D6DB 1D6DB 0 2202;
1D6DC 1D6DC 0 3B5; 1D6DD 1D6DD 0 3B8; 1D6DE 1D6DE 0 3BA; 1D6DF 1D6DF 0 3C6; 1D6E0 1D6E0 0 3C1;
1D6E1 1D6E1 0 3C0; 1D6E2 1D6F2 1 3B1; 1D6F3 1D6F3 0 3B8; 1D6F4 1D6FA 1 3C3; 1D6FB 1D6FB 0 2207;
1D6FC 1D70C 1 3B1; 1D70D 1D70E 0 3C3; 1D70F 1D714 1 3C4; 1D715 1D715 0 2202; 1D716 1D716 0 3B5;
1D717 1D717 0 3B8; 1D718 1D718 0 3BA; 1D719 1D719 0 3C6; 1D71A 1D71A 0 3C1; 1D71B 1D71B 0 3C0;
1D71C 1D72C 1 3B1; 1D72D 1D72D 0 3B8; 1D72E 1D734 1 3C3; 1D735 1D735 0 2207; 1D736 1D746 1 3B1;
1D747 1D748 0 3C3; 1D749 1D74E 1 3C4; 1D74F 1D74F 0 2202; 1D750 1D750 0 3B5; 1D751 1D751 0 3B8;
1D752 1D752 0 3BA; 1D753 1D753 0 3C6; 1D754 1D754 0 3C1; 1D755 1D755 0 3C0; 1D756 1D766 1 3B1;
1D767 1D767 0 3B8; 1D768 1D76E 1 3C3; 1D76F 1D76F 0 2207; 1D770 1D780 1 3B1; 1D781 1D782 0 3C3;
1D783 1D788 1 3C4; 1D789 1D789 0 2202; 1D78A 1D78A 0 3B5; 1D78B 1D78B 0 3B8; 1D78C 1D78C 0 3BA;
1D78D 1D78D 0 3C6; 1D78E 1D78E 0 3C1; 1D78F 1D78F 0 3C0; 1D790 1D7A0 1 3B1; 1D7A1 1D7A1 0 3B8;
1D7A2 1D7A8 1 3C3; 1D7A9 1D7A9 0 2207; 1D7AA 1D7BA 1 3B1; 1D7BB 1D7BC 0 3C3; 1D7BD 1D7C2 1 3C4;
1D7C3 1D7C3 0 2202; 1D7C4 1D7C4 0 3B5; 1D7C5 1D7C5 0 3B8; 1D7C6 1D7C6 0 3BA; 1D7C7 1D7C7 0 3C6;
1D7C8 1D7C8 0 3C1; 1D7C9 1D7C9 0 3C0; 1D7CA 1D7CB 0 3DD; 1D7CE 1D7D7 1 30; 1D7D8 1D7E1 1 30;
1D7E2 1D7EB 1 30; 1D7EC 1D7F5 1 30; 1D7F6 1D7FF 1 30; 1E030 1E038 1 430; 1E039 1E03B 1 43A;
1E03C 1E046 1 43E; 1E047 1E047 0 44B; 1E048 1E049 1 44D; 1E04A 1E04A 0 A689; 1E04B 1E04B 0 4D9;
1E04C 1E04C 0 456; 1E04D 1E04D 0 458; 1E04E 1E04E 0 4E9; 1E04F 1E04F 0 4AF; 1E050 1E050 0 4CF;
1E051 1E059 1 430; 1E05A 1E05B 1 43A; 1E05C 1E05D 1 43E; 1E05E 1E05E 0 441; 1E05F 1E064 1 443;
1E065 1E066 1 44A; 1E067 1E067 0 491; 1E068 1E068 0 456; 1E069 1E069 0 455; 1E06A 1E06A 0 45F;
1E06B 1E06B 0 4AB; 1E06C 1E06C 0 A651; 1E06D 1E06D 0 4B1; 1E900 1E921 1 1E922; 1EE00 1EE01 1 627;
1EE02 1EE02 0 62C; 1EE03 1EE03 0 62F; 1EE05 1EE05 0 648; 1EE06 1EE06 0 632; 1EE07 1EE07 0 62D;
1EE08 1EE08 0 637; 1EE09 1EE09 0 64A; 1EE0A 1EE0D 1 643; 1EE0E 1EE0E 0 633; 1EE0F 1EE0F 0 639;
1EE10 1EE10 0 641; 1EE11 1EE11 0 635; 1EE12 1EE12 0 642; 1EE13 1EE13 0 631; 1EE14 1EE14 0 634;
1EE15 1EE16 1 62A; 1EE17 1EE17 0 62E; 1EE18 1EE18 0 630; 1EE19 1EE19 0 636; 1EE1A 1EE1A 0 638;
1EE1B 1EE1B 0 63A; 1EE1C 1EE1C 0 66E; 1EE1D 1EE1D 0 6BA; 1EE1E 1EE1E 0 6A1; 1EE1F 1EE1F 0 66F;
1EE21 1EE21 0 628; 1EE22 1EE22 0 62C; 1EE24 1EE24 0 647; 1EE27 1EE27 0 62D; 1EE29 1EE29 0 64A;
1EE2A 1EE2D 1 643; 1EE2E 1EE2E 0 633; 1EE2F 1EE2F 0 639; 1EE30 1EE30 0 641; 1EE31 1EE31 0 635;
1EE32 1EE32 0 642; 1EE34 1EE34 0 634; 1EE35 1EE36 1 62A; 1EE37 1EE37 0 62E; 1EE39 1EE39 0 636;
1EE3B 1EE3B 0 63A; 1EE42 1EE42 0 62C; 1EE47 1EE47 0 62D; 1EE49 1EE49 0 64A; 1EE4B 1EE4D 2 644;
1EE4E 1EE4E 0 633; 1EE4F 1EE4F 0 639; 1EE51 1EE51 0 635; 1EE52 1EE52 0 642; 1EE54 1EE54 0 634;
1EE57 1EE57 0 62E; 1EE59 1EE59 0 636; 1EE5B 1EE5B 0 63A; 1EE5D 1EE5D 0 6BA; 1EE5F 1EE5F 0 66F;
1EE61 1EE61 0 628; 1EE62 1EE62 0 62C; 1EE64 1EE64 0 647; 1EE67 1EE67 0 62D; 1EE68 1EE68 0 637;
1EE69 1EE69 0 64A; 1EE6A 1EE6C 2 643; 1EE6D 1EE6D 0 646; 1EE6E 1EE6E 0 633; 1EE6F 1EE6F 0 639;
1EE70 1EE70 0 641; 1EE71 1EE71 0 635; 1EE72 1EE72 0 642; 1EE74 1EE74 0 634; 1EE75 1EE76 1 62A;
1EE77 1EE77 0 62E; 1EE79 1EE79 0 636; 1EE7A 1EE7A 0 638; 1EE7B 1EE7B 0 63A; 1EE7C 1EE7C 0 66E;
1EE7E 1EE7E 0 6A1; 1EE80 1EE81 1 627; 1EE82 1EE82 0 62C; 1EE83 1EE83 0 62F; 1EE84 1EE85 1 647;
1EE86 1EE86 0 632; 1EE87 1EE87 0 62D; 1EE88 1EE88 0 637; 1EE89 1EE89 0 64A; 1EE8B 1EE8D 1 644;
1EE8E 1EE8E 0 633; 1EE8F 1EE8F 0 639; 1EE90 1EE90 0 641; 1EE91 1EE91 0 635; 1EE92 1EE92 0 642;
1EE93 1EE93 0 631; 1EE94 1EE94 0 634; 1EE95 1EE96 1 62A; 1EE97 1EE97 0 62E; 1EE98 1EE98 0 630;
1EE99 1EE99 0 636; 1EE9A 1EE9A 0 638; 1EE9B 1EE9B 0 63A; 1EEA1 1EEA1 0 628; 1EEA2 1EEA2 0 62C;
1EEA3 1EEA3 0 62F; 1EEA5 1EEA5 0 648; 1EEA6 1EEA6 0 632; 1EEA7 1EEA7 0 62D; 1EEA8 1EEA8 0 637;
1EEA9 1EEA9 0 64A; 1EEAB 1EEAD 1 644; 1EEAE 1EEAE 0 633; 1EEAF 1EEAF 0 639; 1EEB0 1EEB0 0 641;
1EEB1 1EEB1 0 635; 1EEB2 1EEB2 0 642; 1EEB3 1EEB3 0 631; 1EEB4 1EEB4 0 634; 1EEB5 1EEB6 1 62A;
1EEB7 1EEB7 0 62E; 1EEB8 1EEB8 0 630; 1EEB9 1EEB9 0 636; 1EEBA 1EEBA 0 638; 1EEBB 1EEBB 0 63A;
1F101 1F101 0 30 2C; 1F102 1F102 0 31 2C; 1F103 1F103 0 32 2C; 1F104 1F104 0 33 2C;
1F105 1F105 0 34 2C; 1F106 1F106 0 35 2C; 1F107 1F107 0 36 2C; 1F108 1F108 0 37 2C;
1F109 1F109 0 38 2C; 1F10A 1F10A 0 39 2C; 1F110 1F110 0 28 61 29; 1F111 1F111 0 28 62 29;
1F112 1F112 0 28 63 29; 1F113 1F113 0 28 64 29; 1F114 1F114 0 28 65 29; 1F115 1F115 0 28 66 29;
1F116 1F116 0 28 67 29; 1F117 1F117 0 28 68 29; 1F118 1F118 0 28 69 29; 1F119 1F119 0 28 6A 29;
1F11A 1F11A 0 28 6B 29; 1F11B 1F11B 0 28 6C 29; 1F11C 1F11C 0 28 6D 29; 1F11D 1F11D 0 28 6E 29;
1F11E 1F11E 0 28 6F 29; 1F11F 1F11F 0 28 70 29; 1F120 1F120 0 28 71 29; 1F121 1F121 0 28 72 29;
1F122 1F122 0 28 73 29; 1F123 1F123 0 28 74 29; 1F124 1F124 0 28 75 29; 1F125 1F125 0 28 76 29;
1F126 1F126 0 28 77 29; 1F127 1F127 0 28 78 29; 1F128 1F128 0 28 79 29; 1F129 1F129 0 28 7A 29;
1F12A 1F12A 0 3014 73 3015; 1F12B 1F12B 0 63; 1F12C 1F12C 0 72; 1F12D 1F12D 0 63 64;
1F12E 1F12E 0 77 7A; 1F130 1F149 1 61; 1F14A 1F14A 0 68 76; 1F14B 1F14B 0 6D 76;
1F14C 1F14C 0 73 64; 1F14D 1F14D 0 73 73; 1F14E 1F14E 0 70 70 76; 1F14F 1F14F 0 77 63;
1F16A 1F16A 0 6D 63; 1F16B 1F16B 0 6D 64; 1F16C 1F16C 0 6D 72; 1F190 1F190 0 64 6A;
1F200 1F200 0 307B 304B; 1F201 1F201 0 30B3 30B3; 1F202 1F202 0 30B5; 1F210 1F210 0 624B;
1F211 1F211 0 5B57; 1F212 1F212 0 53CC; 1F213 1F213 0 30C7; 1F214 1F214 0 4E8C; 1F215 1F215 0 591A;
1F216 1F216 0 89E3; 1F217 1F217 0 5929; 1F218 1F218 0 4EA4; 1F219 1F219 0 6620; 1F21A 1F21A 0 7121;
1F21B 1F21B 0 6599; 1F21C 1F21C 0 524D; 1F21D 1F21D 0 5F8C; 1F21E 1F21E 0 518D; 1F21F 1F21F 0 65B0;
1F220 1F220 0 521D; 1F221 1F221 0 7D42; 1F222 1F222 0 751F; 1F223 1F223 0 8CA9; 1F224 1F224 0 58F0;
1F225 1F225 0 5439; 1F226 1F226 0 6F14; 1F227 1F227 0 6295; 1F228 1F228 0 6355; 1F229 1F229 0 4E00;
1F22A 1F22A 0 4E09; 1F22B 1F22B 0 904A; 1F22C 1F22C 0 5DE6; 1F22D 1F22D 0 4E2D; 1F22E 1F22E 0 53F3;
1F22F 1F22F 0 6307; 1F230 1F230 0 8D70; 1F231 1F231 0 6253; 1F232 1F232 0 7981; 1F233 1F233 0 7A7A;
1F234 1F234 0 5408; 1F235 1F235 0 6E80; 1F236 1F236 0 6709; 1F237 1F237 0 6708; 1F238 1F238 0 7533;
1F239 1F239 0 5272; 1F23A 1F23A 0 55B6; 1F23B 1F23B 0 914D; 1F240 1F240 0 3014 672C 3015;
1F241 1F241 0 3014 4E09 3015; 1F242 1F242 0 3014 4E8C 3015; 1F243 1F243 0 3014 5B89 3015;
1F244 1F244 0 3014 70B9 3015; 1F245 1F245 0 3014 6253 3015; 1F246 1F246 0 3014 76D7 3015;
1F247 1F247 0 3014 52DD 3015; 1F248 1F248 0 3014 6557 3015; 1F250 1F250 0 5F97; 1F251 1F251 0 53EF;
1FBF0 1FBF9 1 30; E0100 E01EF 0;"

/-- What a character counts as that counts as others in a stretch. -/
def foldIn (s : Stretch) (c : Char) : List Char :=
  let distance := c.toNat - s.first
  match s.note with
  | 0 :: target => target.map Char.ofNat
  | [step, target] => if distance % step = 0 then [Char.ofNat (target + distance)] else [c]
  | _ => [c]

/-- What a character counts as; none if it may not be written in a domain name. -/
def fold? (c : Char) : Option (List Char) :=
  if c.toNat < 0x80 then some [c.toLower]
  else if (Stretch.find? allowed c.toNat).isSome then
    some ((Stretch.find? foldings c.toNat).elim [c] fun s => foldIn s c)
  else none

end ReadThrough.Domain
