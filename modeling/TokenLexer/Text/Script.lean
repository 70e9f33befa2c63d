import TokenLexer.Text.Table

/-!
# Scripts

The code points of each script, under the script's name with `_` for a blank.
-/

namespace TokenLexer

namespace Script

private def encoded : List (String × List String) :=
  [ ("Adlam",
      ["1e900 4b 4 9 4 1"]),
    ("Ahom",
      ["11700 1a 2 e 4 16"]),
    ("Anatolian_Hieroglyphs",
      ["14400 246"]),
    ("Arabic",
      [ "600 4 1 5 1 d 1 2 1 1f 1 9 b 19 1 6b 1 21 50 2f f0 1e 1 1 6 49 1 1c f250 72 10 16a 2",
        "4f 2 35 7 0 20 f 70 4 1 86 f63 1e 7e 2 df00 3 1 1a 1 1 1 0 2 0 1 9 1 3 1 0 1 0 6 0 4 0",
        "1 0 1 0 1 2 1 1 1 0 2 0 1 0 1 0 1 0 1 0 1 1 1 0 2 3 1 6 1 3 1 3 1 0 1 9 1 10 5 2 1 4 1",
        "10 34 1" ]),
    ("Armenian",
      ["531 25 2 31 2 2 f583 4"]),
    ("Avestan",
      ["10b00 35 3 6"]),
    ("Balinese",
      ["1b00 4c 3 2e"]),
    ("Bamum",
      ["a6a0 57 c108 238"]),
    ("Bassa_Vah",
      ["16ad0 1d 2 5"]),
    ("Batak",
      ["1bc0 33 8 3"]),
    ("Bengali",
      ["980 3 1 7 2 1 2 15 1 6 1 0 3 3 2 8 2 1 2 3 8 0 4 1 1 4 2 18"]),
    ("Bhaiksuki",
      ["11c00 8 1 2c 1 d a 1c"]),
    ("Bopomofo",
      ["2ea 1 2e19 2a 70 1f"]),
    ("Brahmi",
      ["11000 4d 4 23 9 0"]),
    ("Braille",
      ["2800 ff"]),
    ("Buginese",
      ["1a00 1b 2 1"]),
    ("Buhid",
      ["1740 13"]),
    ("Canadian_Aboriginal",
      ["1400 27f 230 45 101ba f"]),
    ("Carian",
      ["102a0 30"]),
    ("Caucasian_Albanian",
      ["10530 33 b 0"]),
    ("Chakma",
      ["11100 34 1 11"]),
    ("Cham",
      ["aa00 36 9 d 2 9 2 3"]),
    ("Cherokee",
      ["13a0 55 2 5 9772 4f"]),
    ("Chorasmian",
      ["10fb0 1b"]),
    ("Common",
      [ "0 40 1a 5 1a 2e 1 e 1 4 17 0 1f 0 1c1 26 5 4 2 13 74 0 9 0 6 0 1 0 27d 0 6 0 e 0 3 0",
        "20 0 9c 0 204 0 81 1 4d9 0 195 3 122 0 5ef 2 47 1 cb 1 1 0 4cd 0 d 0 7 3 1 5 1 2 2 0",
        "305 b 2 56 1 a 3 a 1 e 11 20 3f 25 1 2 2 5 1 1a 1 10 29 2 4 296 19 a 15 39f 100 273 2",
        "1f 1 68 200 5d 192 b 4 4 1 0 1 18 f 7 4 3 5b 1 3 0 5a 1 93 f 20 23 3c 3f 1f 50 2f 0 58",
        "a7 19c0 3f 5900 21 66 2 a5 9 f4 0 a0 0 18b 0 e 1 51d2 1 d0 9 16 22 1 12 1 3 93 0 1 1f",
        "1a 5 1a a a 0 2d 1 40 6 1 6 a 4 102 2 4 2c 3 8 50 c 33 2c e4 1a b9a4 3 12ac 73 3c f5 a",
        "26 2 3d 3 10 8 1 7 1d 4 3c d5 13 c 13 c 56 9 18 87 54 1 46 1 1 2 0 2 1 2 3 1 b 1 0 1 6",
        "1 40 1 3 2 7 1 6 1 1b 1 3 1 4 1 0 3 6 1 153 2 123 2 31 1471 43 4c 3c 2c2 2b 4 63 c e 2",
        "e 1 e 1 24 a ad 38 19 1 1 d 2b 4 8 7 1 e 5 9a 3d7 4 10 3 c 3 76 4 5e 6 b 4 0 f b 4 37",
        "8 9 6 27 8 1d 2 1 4e 153 c d 2 c 3 8 7 2d 1 6 8 d 4 8 7 8 7 92 1 36 25 9 c0407 0 1e 5f" ]),
    ("Coptic",
      ["3e2 d 2890 73 5 6"]),
    ("Cuneiform",
      ["12000 399 66 6e 1 4 b c3"]),
    ("Cypriot",
      ["10800 5 2 0 1 2b 1 1 3 0 2 0"]),
    ("Cypro_Minoan",
      ["12f90 62"]),
    ("Cyrillic",
      ["400 84 2 a8 1750 8 a2 0 4c 0 1067 1f 7840 5f 578e 1 e200 3d 21 0"]),
    ("Deseret",
      ["10400 4f"]),
    ("Devanagari",
      ["900 50 4 e 2 19 9f60 1f 7200 9"]),
    ("Dives_Akuru",
      ["11900 6 2 0 2 7 1 1 1 1d 1 1 2 b 9 9"]),
    ("Dogra",
      ["11800 3b"]),
    ("Duployan",
      ["1bc00 6a 5 c 3 8 7 9 2 3"]),
    ("Egyptian_Hieroglyphs",
      ["13000 455"]),
    ("Elbasan",
      ["10500 27"]),
    ("Elymaic",
      ["10fe0 16"]),
    ("Ethiopic",
      [ "1200 48 1 3 2 6 1 0 1 3 2 28 1 3 2 20 1 3 2 6 1 0 1 3 2 e 1 38 1 3 2 42 2 1f 3 19 19e6",
        "16 9 6 1 6 1 6 1 6 1 6 1 6 1 6 1 6 7d22 5 2 5 2 5 9 6 1 6 13cb1 6 1 3 1 1 1 e" ]),
    ("Georgian",
      ["10a0 25 1 0 5 0 2 2a 1 3 b90 2a 2 2 1040 25 1 0 5 0"]),
    ("Glagolitic",
      ["2c00 5f 1b3a0 6 1 10 2 6 1 1 1 4"]),
    ("Gothic",
      ["10330 1a"]),
    ("Grantha",
      ["11300 3 1 7 2 1 2 15 1 6 1 1 1 4 2 8 2 1 2 2 2 0 6 0 5 6 2 6 3 4"]),
    ("Greek",
      [ "370 3 1 2 2 3 1 0 4 0 1 0 1 2 1 0 1 13 1 3e e f 1926 4 32 4 4 4 54 0 140 15 2 5 2 25 2",
        "5 2 7 1 0 1 0 1 0 1 1e 2 34 1 e 1 d 2 5 1 12 2 2 1 8 127 0 8a3e 0 55da 4e 11 0 d05f 45" ]),
    ("Gujarati",
      ["a81 2 1 8 1 2 1 15 1 6 1 1 1 4 2 9 1 2 1 2 2 0 f 3 2 b 7 6"]),
    ("Gunjala_Gondi",
      ["11d60 5 1 1 1 24 1 1 1 5 7 9"]),
    ("Gurmukhi",
      ["a01 2 1 5 4 1 2 15 1 6 1 1 1 1 1 1 2 0 1 4 4 1 2 2 3 0 7 3 1 0 7 10"]),
    ("Han",
      [ "2e80 19 1 58 c d5 2f 0 1 0 19 8 e 3 3c4 19bf 40 51ff 5900 16d 2 69 7508 1 c 1 900e",
        "a6df 20 1039 6 dd 2 1681 e 1d30 c1f 21d 5e2 134a 5 105f" ]),
    ("Hangul",
      ["1100 ff 1e2e 1 101 5d 71 1e 41 1e 76e1 1c 283 2ba3 c 16 4 30 27a4 1e 3 5 2 5 2 5 2 2"]),
    ("Hanifi_Rohingya",
      ["10d00 27 8 9"]),
    ("Hanunoo",
      ["1720 14"]),
    ("Hatran",
      ["108e0 12 1 1 5 4"]),
    ("Hebrew",
      ["591 36 8 1a 4 5 f528 19 1 4 1 0 1 1 1 1 1 9"]),
    ("Hiragana",
      ["3041 55 6 2 17f61 11e 12 0 1d 2 40ad 0"]),
    ("Imperial_Aramaic",
      ["10840 15 1 8"]),
    ("Inherited",
      [ "300 6f 115 1 1c4 a 1a 0 2e0 3 115b 1e 201 2 1 c 1 6 4 0 6 0 3 1 c6 3f 20c 1 c2 20 f39",
        "3 6b 1 cd65 f 10 d 3cf 0 e2 0 105a 0 bbc4 2d 2 16 220 2 11 7 2 6 1e 3 c2f52 ef" ]),
    ("Inscriptional_Pahlavi",
      ["10b60 12 5 7"]),
    ("Inscriptional_Parthian",
      ["10b40 15 2 7"]),
    ("Javanese",
      ["a980 4d 2 9 4 1"]),
    ("Kaithi",
      ["11080 42 a 0"]),
    ("Kannada",
      ["c80 c 1 2 1 16 1 9 1 4 2 8 1 2 1 3 7 1 6 1 1 3 2 9 1 2"]),
    ("Katakana",
      ["30a1 59 2 2 f0 f d0 2e 1 57 cc0e 9 1 2c b052 3 1 6 1 1 1 0 11f 2 32 0 e 3"]),
    ("Kawi",
      ["11f00 10 1 28 3 1b"]),
    ("Kayah_Li",
      ["a900 2d 1 0"]),
    ("Kharoshthi",
      ["10a00 3 1 1 5 7 1 2 1 1c 2 2 4 9 7 8"]),
    ("Khitan_Small_Script",
      ["16fe4 0 1b1b 1d5"]),
    ("Khmer",
      ["1780 5d 2 9 6 9 1e6 1f"]),
    ("Khojki",
      ["11200 11 1 2e"]),
    ("Khudawadi",
      ["112b0 3a 5 9"]),
    ("Lao",
      ["e81 1 1 0 1 4 1 17 1 0 1 16 2 4 1 0 1 6 1 9 2 3"]),
    ("Latin",
      [ "41 19 6 19 2f 0 f 0 5 16 1 1e 1 1c0 27 4 1a1b 25 6 30 5 3 5 c 1 45 41 ff 171 0 d 0 10",
        "c 8d 1 6 0 1b 0 11 28 ad7 1f 7aa2 65 3 3f 5 1 1 0 1 4 18 d 330 2a 1 8 1 3 4f96 6 41a",
        "19 6 19 825 5 1 29 1 8 d745 1e 6 5" ]),
    ("Lepcha",
      ["1c00 37 3 e 3 2"]),
    ("Limbu",
      ["1900 1e 1 b 4 b 4 0 3 b"]),
    ("Linear_A",
      ["10600 136 9 15 a 7"]),
    ("Linear_B",
      ["10000 b 1 19 1 12 1 1 1 e 2 d 22 7a"]),
    ("Lisu",
      ["a4d0 2f 7ab0 0"]),
    ("Lycian",
      ["10280 1c"]),
    ("Lydian",
      ["10920 19 5 0"]),
    ("Mahajani",
      ["11150 26"]),
    ("Makasar",
      ["11ee0 18"]),
    ("Malayalam",
      ["d00 c 1 2 1 32 1 2 1 5 4 f 2 19"]),
    ("Mandaic",
      ["840 1b 2 0"]),
    ("Manichaean",
      ["10ac0 26 4 b"]),
    ("Marchen",
      ["11c70 1f 2 15 1 d"]),
    ("Masaram_Gondi",
      ["11d00 6 1 1 1 2b 3 0 1 1 1 8 8 9"]),
    ("Medefaidrin",
      ["16e40 5a"]),
    ("Meetei_Mayek",
      ["aae0 16 c9 2d 2 9"]),
    ("Mende_Kikakui",
      ["1e800 c4 2 f"]),
    ("Meroitic_Cursive",
      ["109a0 17 4 13 2 2d"]),
    ("Meroitic_Hieroglyphs",
      ["10980 1f"]),
    ("Miao",
      ["16f00 4a 4 38 7 10"]),
    ("Modi",
      ["11600 44 b 9"]),
    ("Mongolian",
      ["1800 1 2 0 1 13 6 58 7 2a fdb5 c"]),
    ("Mro",
      ["16a40 1e 1 9 4 1"]),
    ("Multani",
      ["11280 6 1 0 1 3 1 e 1 a"]),
    ("Myanmar",
      ["1000 9f 9940 1e 61 1f"]),
    ("Nabataean",
      ["10880 1e 8 8"]),
    ("Nag_Mundari",
      ["1e4d0 29"]),
    ("Nandinagari",
      ["119a0 7 2 2d 2 a"]),
    ("New_Tai_Lue",
      ["1980 2b 4 19 6 a 3 1"]),
    ("Newa",
      ["11400 5b 1 4"]),
    ("Nko",
      ["7c0 3a 2 2"]),
    ("Nushu",
      ["16fe1 0 418e 18b"]),
    ("Nyiakeng_Puachue_Hmong",
      ["1e100 2c 3 d 2 9 4 1"]),
    ("Ogham",
      ["1680 1c"]),
    ("Ol_Chiki",
      ["1c50 2f"]),
    ("Old_Hungarian",
      ["10c80 32 d 32 7 5"]),
    ("Old_Italic",
      ["10300 23 9 2"]),
    ("Old_North_Arabian",
      ["10a80 1f"]),
    ("Old_Permic",
      ["10350 2a"]),
    ("Old_Persian",
      ["103a0 23 4 d"]),
    ("Old_Sogdian",
      ["10f00 27"]),
    ("Old_South_Arabian",
      ["10a60 1f"]),
    ("Old_Turkic",
      ["10c00 48"]),
    ("Old_Uyghur",
      ["10f70 19"]),
    ("Oriya",
      ["b01 2 1 7 2 1 2 15 1 6 1 1 1 4 2 8 2 1 2 2 7 2 4 1 1 4 2 11"]),
    ("Osage",
      ["104b0 23 4 23"]),
    ("Osmanya",
      ["10480 1d 2 9"]),
    ("Pahawh_Hmong",
      ["16b00 45 a 9 1 6 1 14 5 12"]),
    ("Palmyrene",
      ["10860 1f"]),
    ("Pau_Cin_Hau",
      ["11ac0 38"]),
    ("Phags_Pa",
      ["a840 37"]),
    ("Phoenician",
      ["10900 1b 3 0"]),
    ("Psalter_Pahlavi",
      ["10b80 11 7 3 c 6"]),
    ("Rejang",
      ["a930 23 b 0"]),
    ("Runic",
      ["16a0 4a 3 a"]),
    ("Samaritan",
      ["800 2d 2 e"]),
    ("Saurashtra",
      ["a880 45 8 b"]),
    ("Sharada",
      ["11180 5f"]),
    ("Shavian",
      ["10450 2f"]),
    ("Siddham",
      ["11580 35 2 25"]),
    ("SignWriting",
      ["1d800 28b f 4 1 e"]),
    ("Sinhala",
      ["d81 2 1 11 3 17 1 8 1 0 2 6 3 0 4 5 1 0 1 7 6 9 2 2 103ec 13"]),
    ("Sogdian",
      ["10f30 29"]),
    ("Sora_Sompeng",
      ["110d0 18 7 9"]),
    ("Soyombo",
      ["11a50 52"]),
    ("Sundanese",
      ["1b80 3f 100 7"]),
    ("Syloti_Nagri",
      ["a800 2c"]),
    ("Syriac",
      ["700 d 1 3b 2 2 110 a"]),
    ("Tagalog",
      ["1700 15 9 0"]),
    ("Tagbanwa",
      ["1760 c 1 2 1 1"]),
    ("Tai_Le",
      ["1950 1d 2 4"]),
    ("Tai_Tham",
      ["1a20 3e 1 1c 2 a 6 9 6 d"]),
    ("Tai_Viet",
      ["aa80 42 18 4"]),
    ("Takri",
      ["11680 39 6 9"]),
    ("Tamil",
      ["b82 1 1 5 3 2 1 3 3 1 1 0 1 1 3 1 3 2 3 b 4 4 3 2 1 3 2 0 6 0 e 14 113c5 31 d 0"]),
    ("Tangsa",
      ["16a70 4e 1 9"]),
    ("Tangut",
      ["16fe0 0 1f 17f7 8 2ff 200 8"]),
    ("Telugu",
      ["c00 c 1 2 1 16 1 f 2 8 1 2 1 3 7 1 1 2 2 0 2 3 2 9 7 8"]),
    ("Thaana",
      ["780 31"]),
    ("Thai",
      ["e01 39 5 1b"]),
    ("Tibetan",
      ["f00 47 1 23 4 26 1 23 1 e 1 6 4 1"]),
    ("Tifinagh",
      ["2d30 37 7 1 e 0"]),
    ("Tirhuta",
      ["11480 47 8 9"]),
    ("Toto",
      ["1e290 1e"]),
    ("Ugaritic",
      ["10380 1d 1 0"]),
    ("Vai",
      ["a500 12b"]),
    ("Vithkuqi",
      ["10570 a 1 e 1 6 1 1 1 a 1 e 1 6 1 1"]),
    ("Wancho",
      ["1e2c0 39 5 0"]),
    ("Warang_Citi",
      ["118a0 52 c 0"]),
    ("Yezidi",
      ["10e80 29 1 2 2 1"]),
    ("Yi",
      ["a000 48c 3 36"]),
    ("Zanabazar_Square",
      ["11a00 47"]) ]

/-- The code points of the script called `name`. -/
def find? (name : String) : Option CodeRanges :=
  (encoded.find? (·.1 == name)).map fun entry => CodeRanges.decode entry.2

end Script

end TokenLexer
