import LanguageDetection.Unicode.Intervals

namespace LanguageDetection.Unicode.Table

def scriptExtensions : List Row := [
  ⟨["adlm", "adlam"],
    "1567 0 33 0 6671 0 3570 0 113343 75 5 9 5 1"⟩,
  ⟨["aghb", "caucasianalbanian"],
    "772 0 45 0 45 0 66002 51 12 0"⟩,
  ⟨["arab", "arabic"],
    "1536 4 2 214 2 33 81 47 241 30 2 1 6 74 2 28 5968 0 3570 0 52495 114 17 444 3 53 8 0 33 15 113
4 2 134 996 27 2917 30 68 2 56 3 57089 3 2 26 2 1 2 0 3 0 2 9 2 3 2 0 2 0 7 0 5 0 2 0 2 0 2 2 2 1 2
0 3 0 2 0 2 0 2 0 2 0 2 1 2 0 3 3 2 6 2 3 2 3 2 0 2 9 2 16 6 2 2 4 2 16 53 1"⟩,
  ⟨["armn", "armenian"],
    "776 0 553 37 3 49 3 2 62852 4"⟩,
  ⟨["avst", "avestan"],
    "183 0 11641 1 56527 53 4 6"⟩,
  ⟨["beng", "bengali"],
    "700 0 1685 1 18 1 27 3 2 7 3 1 3 21 2 6 2 0 4 3 3 8 3 1 3 3 9 0 5 1 2 4 3 24 4818 0 2 0 3 1 2
0 9 0 9 0 3 0 5 0 3 2 35834 0"⟩,
  ⟨["bopo", "bopomofo"],
    "711 0 2 2 14 0 17 1 11542 2 5 9 2 12 11 3 3 0 7 0 196 0 10 42 113 31 52358 1 283 4"⟩,
  ⟨["bugi", "buginese"],
    "6656 27 3 1 36784 0"⟩,
  ⟨["buhd", "buhid"],
    "5941 1 10 19"⟩,
  ⟨["cakm", "chakma"],
    "2534 9 1617 9 65719 52 2 17"⟩,
  ⟨["cari", "carian"],
    "183 0 8099 0 3 0 3540 0 54383 48"⟩,
  ⟨["cher", "cherokee"],
    "768 2 2 0 7 1 23 1 12 1 4207 85 3 5 38771 79"⟩,
  ⟨["copt", "qaac", "coptic"],
    "183 0 585 0 4 1 2 0 109 1 109 13 10385 115 6 6 280 0 54473 27"⟩,
  ⟨["cpmn", "cyprominoan"],
    "65792 1 11919 98"⟩,
  ⟨["cprt", "cypriot"],
    "65792 2 5 44 4 8 1729 5 3 0 2 43 2 1 4 0 3 0"⟩,
  ⟨["cyrl", "cyrillic"],
    "700 0 68 2 2 0 2 0 2 0 3 0 6 0 239 303 5969 10 161 0 77 0 128 0 4072 31 68 0 30717 95 22415 1
57857 61 34 0"⟩,
  ⟨["deva", "devanagari"],
    "700 0 1604 82 3 42 4945 38 2 1 1015 0 34624 9 167 31 29185 9"⟩,
  ⟨["dogr", "dogra"],
    "2404 11 40641 9 28615 59"⟩,
  ⟨["dupl", "duployan"],
    "183 0 592 1 2 0 25 1 11032 0 101828 106 6 12 4 8 8 9 3 7"⟩,
  ⟨["elba", "elbasan"],
    "183 0 590 0 66043 39"⟩,
  ⟨["ethi", "ethiopic"],
    "782 0 3826 72 2 3 3 6 2 0 2 3 3 40 2 3 3 32 2 3 3 6 2 0 2 3 3 14 2 56 2 3 3 66 3 31 4 25 6631
22 10 6 2 6 2 6 2 6 2 6 2 6 2 6 2 6 32035 5 3 5 3 5 10 6 2 6 81074 6 2 3 2 1 2 14"⟩,
  ⟨["gara", "garay"],
    "1548 0 15 0 4 0 67361 37 4 28 9 1"⟩,
  ⟨["geor", "georgian"],
    "183 0 1234 0 2839 37 2 0 6 0 3 47 2961 42 3 2 923 0 3238 37 2 0 6 0 260 0"⟩,
  ⟨["glag", "glagolitic"],
    "183 0 588 0 2 0 383 0 3 0 258 0 2930 0 3935 0 2982 95 484 0 30764 0 80273 6 2 16 3 6 2 1 2
4"⟩,
  ⟨["gong", "gunjalagondi"],
    "183 0 2221 1 70651 5 2 1 2 36 2 1 2 5 8 9"⟩,
  ⟨["gonm", "masaramgondi"],
    "2404 1 70555 6 2 1 2 43 4 0 2 1 2 8 9 9"⟩,
  ⟨["goth", "gothic"],
    "183 0 589 1 3 0 41 0 65535 26"⟩,
  ⟨["gran", "grantha"],
    "2385 1 18 1 641 13 4317 0 2 1 31 2 4 1 1015 0 61968 3 2 7 3 1 3 21 2 6 2 1 2 4 2 9 3 1 3 2 3 0
7 0 6 6 3 6 4 4 3164 1 2 0"⟩,
  ⟨["grek", "greek"],
    "183 0 585 1 3 0 2 0 2 0 11 0 47 0 3 0 43 7 3 3 2 0 5 0 2 0 2 2 2 0 2 19 2 62 15 15 6439 4 51 4
5 4 85 2 319 21 3 5 3 37 3 5 3 7 2 0 2 0 2 0 2 30 3 52 2 14 2 13 3 5 2 18 3 2 2 8 95 0 201 0 35391
0 21979 78 18 0 53344 69"⟩,
  ⟨["gujr", "gujarati"],
    "2385 1 18 1 284 2 2 8 2 2 2 21 2 6 2 1 2 4 3 9 2 2 2 2 3 0 16 3 3 11 8 6 40241 9"⟩,
  ⟨["gukh", "gurungkhema"],
    "2405 0 87963 57"⟩,
  ⟨["guru", "gurmukhi"],
    "2385 1 18 1 156 2 2 5 5 1 3 21 2 6 2 1 2 1 2 1 3 0 2 4 5 1 3 2 4 0 8 3 2 0 8 16 40378 9"⟩,
  ⟨["han", "hani"],
    "183 0 11721 25 2 88 13 213 27 15 2 2 2 12 2 12 2 12 3 0 7 8 188 0 149 15 33 37 10 0 49 39 57
48 16 11 52 0 89 24 11 4 97 30 2 6591 65 20991 1793 7 20985 365 3 105 876 1 283 4 28797 1 13 1
25455 17 7903 1 3503 42719 33 4153 7 221 3 5761 15 7472 16 621 2467 541 1507 4938 6 4191"⟩,
  ⟨["hang", "hangul"],
    "4352 255 7682 2 5 9 2 12 15 2 7 0 196 0 54 93 114 30 66 30 30434 28 644 11171 13 22 5 48 9802
1 283 4 59 30 4 5 3 5 3 5 3 2"⟩,
  ⟨["hano", "hanunoo"],
    "5920 22"⟩,
  ⟨["hebr", "hebrew"],
    "775 1 649 54 9 26 5 5 62761 25 2 4 2 0 2 1 2 1 2 9"⟩,
  ⟨["hira", "hiragana"],
    "12289 2 5 9 2 12 17 5 2 0 5 1 4 85 3 7 91 1 52553 1 283 4 11 0 46 1 45154 286 19 0 30 2 16558
0"⟩,
  ⟨["hung", "oldhungarian"],
    "8282 0 3 0 3540 0 16 0 56895 50 14 50 8 5"⟩,
  ⟨["java", "javanese"],
    "43392 77 2 10 5 1"⟩,
  ⟨["kali", "kayahli"],
    "43264 47"⟩,
  ⟨["kana", "katakana"],
    "773 0 30 0 11486 2 5 9 2 12 17 5 2 0 5 1 92 3 4 95 241 15 209 46 2 87 51950 1 283 62 45137 3 2
6 2 1 2 0 288 2 51 0 15 3"⟩,
  ⟨["khoj", "khojki"],
    "2790 9 40257 9 27079 17 2 46"⟩,
  ⟨["knda", "kannada"],
    "2385 1 18 1 795 12 2 2 2 22 2 9 2 4 3 8 2 2 2 3 8 1 7 1 2 3 3 9 2 2 4061 0 2 1 7 0 24 0 2 0
35644 5"⟩,
  ⟨["kthi", "kaithi"],
    "2406 9 9410 0 31231 9 26695 66 11 0"⟩,
  ⟨["latn", "latin"],
    "65 25 7 25 48 0 13 0 3 0 6 22 2 30 2 448 4 0 11 0 2 2 2 0 10 0 2 0 7 4 28 14 2 1 2 0 13 0 3 2
8 1 2 1 39 0 6 0 5 12 278 1 1227 1 1961 0 3077 37 7 48 6 3 6 12 2 69 58 0 8 255 304 0 66 0 14 0 17
12 84 0 58 1 7 0 28 0 18 40 2776 31 408 0 30953 7 27 101 4 66 3 1 2 0 2 7 22 13 303 0 514 42 2 8 2
3 20375 6 1051 25 7 25 2086 5 2 41 2 8 55110 30 7 5"⟩,
  ⟨["limb", "limbu"],
    "2405 0 3995 30 2 11 5 11 5 0 4 11"⟩,
  ⟨["lina", "lineara"],
    "65799 44 1229 310 10 21 11 7"⟩,
  ⟨["linb", "linearb"],
    "65536 11 2 25 2 18 2 1 2 14 3 13 35 122 6 2 5 44 4 8"⟩,
  ⟨["lisu"],
    "700 0 17 0 11581 1 29893 47 31409 0"⟩,
  ⟨["lyci", "lycian"],
    "8282 0 57894 28"⟩,
  ⟨["lydi", "lydian"],
    "183 0 11642 0 56047 25 6 0"⟩,
  ⟨["mahj", "mahajani"],
    "183 0 2221 11 40641 9 26903 38"⟩,
  ⟨["mand", "mandaic"],
    "1600 0 512 27 3 0"⟩,
  ⟨["mani", "manichaean"],
    "1600 0 66688 38 5 11"⟩,
  ⟨["mero", "meroitichieroglyphs"],
    "8285 0 59683 31"⟩,
  ⟨["mlym", "malayalam"],
    "2385 1 18 1 923 12 2 2 2 50 2 2 2 5 5 15 3 25 3931 0 24 0 35646 2"⟩,
  ⟨["modi"],
    "43056 9 28103 68 12 9"⟩,
  ⟨["mong", "mongolian"],
    "6144 25 7 88 8 42 1925 0 4050 1 6 3 58965 12"⟩,
  ⟨["mult", "multani"],
    "2662 9 67601 6 2 0 2 3 2 14 2 10"⟩,
  ⟨["mymr", "myanmar"],
    "4096 159 39055 0 178 30 98 31 27729 19"⟩,
  ⟨["nand", "nandinagari"],
    "2404 1 897 9 4090 0 9 0 8 0 35638 5 29035 7 3 45 3 10"⟩,
  ⟨["nko", "nkoo"],
    "1548 0 15 0 4 0 417 58 3 2 62783 1"⟩,
  ⟨["onao", "olonal"],
    "2404 1 121963 42 5 0"⟩,
  ⟨["orkh", "oldturkic"],
    "8282 0 3542 0 56784 72"⟩,
  ⟨["orya", "oriya"],
    "2385 1 18 1 412 2 2 7 3 1 3 21 2 6 2 1 2 4 3 8 3 1 3 2 8 2 5 1 2 4 3 17 4451 0 24 0"⟩,
  ⟨["osge", "osage"],
    "769 0 3 0 7 0 77 0 65880 35 5 35"⟩,
  ⟨["ougr", "olduyghur"],
    "1600 0 66738 0 1150 25"⟩,
  ⟨["perm", "oldpermic"],
    "183 0 585 0 6 2 11 0 368 0 65229 42"⟩,
  ⟨["phag", "phagspa"],
    "6146 1 2 0 2090 0 4051 0 30782 55"⟩,
  ⟨["phlp", "psalterpahlavi"],
    "1600 0 66880 17 8 3 13 6"⟩,
  ⟨["qaai", "zinh", "inherited"],
    "783 0 3 0 2 11 2 1 4 6 3 0 3 15 2 1 2 17 2 4 2 3 1521 1 4444 30 756 53 2 0 2 4 525 1 195 31
56593 15 17 13 976 0 52483 45 3 22 545 2 18 7 3 6 31 3 798547 239"⟩,
  ⟨["rohg", "hanifirohingya"],
    "1548 0 15 0 4 0 33 0 148 0 67116 39 9 9"⟩,
  ⟨["runr", "runic"],
    "5792 88"⟩,
  ⟨["samr", "samaritan"],
    "2048 45 3 14 9715 0"⟩,
  ⟨["shaw", "shavian"],
    "183 0 66457 47"⟩,
  ⟨["shrd", "sharada"],
    "2385 0 4998 0 2 0 3 1 3 0 35664 5 3 0 26952 95"⟩,
  ⟨["sind", "khudawadi"],
    "2404 1 40651 9 27255 58 6 9"⟩,
  ⟨["sinh", "sinhala"],
    "2404 1 1052 2 2 17 4 23 2 8 2 0 3 6 4 0 5 5 2 0 2 7 7 9 3 2 3838 0 62703 19"⟩,
  ⟨["sogd", "sogdian"],
    "1600 0 67824 41"⟩,
  ⟨["sunu", "sunuwar"],
    "768 1 2 0 10 0 3 0 29 0 4 0 71823 33 15 9"⟩,
  ⟨["sylo", "sylotinagri"],
    "2404 1 129 9 40465 44"⟩,
  ⟨["syrc", "syriac"],
    "771 1 3 1 2 0 22 0 3 2 8 1 2 0 732 0 15 1 3 0 33 0 11 10 27 0 144 13 2 59 3 2 273 10 5518 0 2
0"⟩,
  ⟨["tagb", "tagbanwa"],
    "5941 1 42 12 2 2 2 1"⟩,
  ⟨["takr", "takri"],
    "2404 1 40651 9 28231 57 7 9"⟩,
  ⟨["tale", "taile"],
    "768 1 6 1 4 0 3380 9 2311 29 3 4"⟩,
  ⟨["taml", "tamil"],
    "2385 1 18 1 541 1 2 5 4 2 2 3 4 1 2 0 2 1 4 1 4 2 4 11 5 4 4 2 2 3 3 0 7 0 15 20 4320 0 35865
0 27150 0 2 0 56 1 3204 49 14 0"⟩,
  ⟨["tang", "tangut"],
    "12272 15 496 0 81393 0 32 6135 9 767 513 8"⟩,
  ⟨["telu", "telugu"],
    "2385 1 18 1 667 12 2 2 2 22 2 15 3 8 2 2 2 3 8 1 2 2 3 0 3 3 3 9 8 8 4187 0 24 0"⟩,
  ⟨["tfng", "tifinagh"],
    "770 0 2 0 3 0 2 0 10791 55 8 1 15 0"⟩,
  ⟨["tglg", "tagalog"],
    "5888 21 10 0 22 1"⟩,
  ⟨["thaa", "thaana"],
    "1548 0 15 1 3 0 65 9 279 49 63041 0 11 0"⟩,
  ⟨["thai"],
    "700 0 27 0 44 0 46 0 2768 57 6 27"⟩,
  ⟨["tibt", "tibetan"],
    "3840 71 2 35 5 38 2 35 2 14 2 6 5 1 8238 3"⟩,
  ⟨["tirh", "tirhuta"],
    "2385 1 18 1 5005 0 35646 9 27719 71 9 9"⟩,
  ⟨["todr", "todhri"],
    "769 0 3 0 3 0 10 0 2 0 75 0 66146 51"⟩,
  ⟨["toto"],
    "700 0 122836 30"⟩,
  ⟨["tutg", "tulutigalari"],
    "3302 9 4099 0 2 0 35644 5 188 0 27279 9 2 0 3 0 2 37 2 9 2 0 3 0 2 3 2 9 2 1 9 1"⟩,
  ⟨["yezi", "yezidi"],
    "1548 0 15 0 4 0 65 9 67607 41 2 2 3 1"⟩,
  ⟨["yi", "yiii"],
    "12289 1 6 9 3 7 224 0 28421 1164 4 54 23195 4"⟩,
  ⟨["zyyy", "common"],
    "0 64 27 5 27 46 2 11 2 1 2 4 24 0 32 0 450 2 2 9 2 0 4 0 2 8 2 0 2 5 6 4 3 19 127 0 7 0 2 0
638 0 216 0 517 0 1373 0 406 3 4136 11 3 32 2 30 2 9 2 1 2 6 2 10 4 10 2 14 18 32 64 37 2 2 3 5 2
26 2 16 42 2 5 665 23 10 22 927 257 627 3 31 2 104 513 22 2 23 3 9 2 3 2 0 2 25 419 0 4 0 14 0 14 0
22 0 530 23 32 0 50 14 13 3 162 9 6 95 32 0 6593 63 22793 25 103 2 977 0 15 1 21157 9 23 20 3 11 2
18 2 3 148 0 2 31 27 5 27 5 128 6 2 6 11 4 403 12 52 44 51716 249 7 435 157 115 61 245 11 38 3 61 4
16 9 1 8 29 5 60 214 19 13 19 13 86 28 6 136 84 2 70 2 1 3 0 3 1 3 3 2 11 2 0 2 6 2 64 2 3 3 7 2 6
2 27 2 3 2 4 2 0 4 6 2 339 3 291 3 49 5234 67 77 60 707 43 5 99 13 14 3 14 2 14 2 36 11 173 57 25 2
1 14 43 5 8 24 5 155 983 5 16 4 12 4 118 5 94 7 11 5 0 16 11 5 55 9 9 7 39 9 29 3 11 5 1 63 339 13
13 3 12 4 9 6 55 8 14 3 10 7 8 8 146 2 101 787464 0 31 95"⟩]

end LanguageDetection.Unicode.Table
