import LineShell.Unicode.CharSet

/-!
# Scripts

The characters of each script, and those that are used with it: the latter
are given by what they add to the former and what they leave out.  Names are
in lower case and without separators.
-/

namespace LineShell.Unicode

/-- The names of a script, its characters, the characters it is used with
beyond them, and its characters that are used with other scripts only. -/
structure Script where
  names : List String
  own : String
  more : String
  less : String

/-- All scripts. -/
def scripts : List Script := [
  ⟨["adlm", "adlam"],
    "1e900.4b 4.9 4.1",
    "61f 20 1a0e df1",
    ""⟩,
  ⟨["ahom"],
    "11700.1a 2.e 4.16",
    "",
    ""⟩,
  ⟨["hluw", "anatolianhieroglyphs"],
    "14400.246",
    "",
    ""⟩,
  ⟨["arab", "arabic"],
    "600.4 1.5 1.d 1.2 1.1f 1.9 b.19 1.6b 1.21 50.2f f0.1e 1.1 5.4a 1.1c f250.72 10.16a
    2.4f 2.35 7 20.f 70.4 1.86 f63.1e 43.2 37.3 df00.3 1.1a 1.1 1 2 1.9 1.3 1 1 6 4 1 1
    1.2 1.1 1 2 1 1 1 1 1.1 1 2.3 1.6 1.3 1.3 1 1.9 1.10 5.2 1.4 1.10 34.1",
    "60c e 3 20 a.a 1a 19de df1 cefc.1 5a0.1b",
    ""⟩,
  ⟨["armn", "armenian"],
    "531.25 2.31 2.2 f583.4",
    "308",
    ""⟩,
  ⟨["avst", "avestan"],
    "10b00.35 3.6",
    "b7 2d78.1",
    ""⟩,
  ⟨["bali", "balinese"],
    "1b00.4c 1.31",
    "",
    ""⟩,
  ⟨["bamu", "bamum"],
    "a6a0.57 c108.238",
    "",
    ""⟩,
  ⟨["bass", "bassavah"],
    "16ad0.1d 2.5",
    "",
    ""⟩,
  ⟨["batk", "batak"],
    "1bc0.33 8.3",
    "",
    ""⟩,
  ⟨["beng", "bengali"],
    "980.3 1.7 2.1 2.15 1.6 1 3.3 2.8 2.1 2.3 8 4.1 1.4 2.18",
    "2bc 694.1 11.1 136a 1 2.1 1 8 8 2 4 2.2 8bf9",
    ""⟩,
  ⟨["bhks", "bhaiksuki"],
    "11c00.8 1.2c 1.d a.1c",
    "",
    ""⟩,
  ⟨["bopo", "bopomofo"],
    "2ea.1 2e19.2a 70.1f",
    "2c7 1.2 d 2d27.2 4.9 1.c a.3 2 6 c3 cd49.1 11a.4",
    ""⟩,
  ⟨["brah", "brahmi"],
    "11000.4d 4.23 9",
    "",
    ""⟩,
  ⟨["brai", "braille"],
    "2800.ff",
    "",
    ""⟩,
  ⟨["bugi", "buginese"],
    "1a00.1b 2.1",
    "a9cf",
    ""⟩,
  ⟨["buhd", "buhid"],
    "1740.13",
    "1735.1",
    ""⟩,
  ⟨["cans", "canadianaboriginal"],
    "1400.27f 230.45 101ba.f",
    "",
    ""⟩,
  ⟨["cari", "carian"],
    "102a0.30",
    "b7 1fa2 2 dd3",
    ""⟩,
  ⟨["aghb", "caucasianalbanian"],
    "10530.33 b",
    "304 2c 2c",
    ""⟩,
  ⟨["cakm", "chakma"],
    "11100.34 1.11",
    "9e6.9 650.9",
    ""⟩,
  ⟨["cham"],
    "aa00.36 9.d 2.9 2.3",
    "",
    ""⟩,
  ⟨["cher", "cherokee"],
    "13a0.55 2.5 9772.4f",
    "300.2 1 6.1 16.1 b.1",
    ""⟩,
  ⟨["chrs", "chorasmian"],
    "10fb0.1b",
    "",
    ""⟩,
  ⟨["zyyy", "common"],
    "0.40 1a.5 1a.2e 1.e 1.4 17 1f 1c1.26 5.4 2.13 74 9 6 1 27d 6 e 3 20 9c 204 81.1 4d9
    195.3 122 5ef.2 47.1 cb.1 1 4cd d 7.3 1.5 1.2 2 305.b 2.56 1.a 3.a 1.e 11.20 3f.25
    1.2 2.5 1.1a 1.10 29.2 4.299 16.a 15.39f 100.273 2.1f 1.68 200.5d 192.14 1 1.18 f.7
    4.3 5b.1 3 5a.1 93.f 20.25 9 30.3f 1f.50 2f 58.a7 19c0.3f 5900.21 66.2 a5.9 f4 a0
    18b e.1 51d2.1 d0.9 16.22 1.12 1.3 93 1.1f 1a.5 1a.a a 2d.1 40.6 1.6 a.4 102.2 4.2c
    3.8 50.c 33.2c e4.1a b9a4.3 f5c.f9 6.1b3 9c.73 3c.f5 a.26 2.3d 3.10 8.1 7.1d 4.3c
    d5.13 c.13 c.56 9.18 87.54 1.46 1.1 2 2.1 2.3 1.b 1 1.6 1.40 1.3 2.7 1.6 1.1b 1.3
    1.4 1 3.6 1.153 2.123 2.31 1471.43 4c.3c 2c2.2b 4.63 c.e 2.e 1.e 1.24 a.ad 38.19 1.1
    d.2b 4.8 7.1 e.5 9a.3d7 4.10 3.c 3.76 4.5e 6.b 4 f.b 4.37 8.9 6.27 8.1d 2.b 4.1
    3e.153 c.d 2.c 3.9 5.37 7.e 2.a 6.8 7.92 1.65 c0407 1e.5f",
    "",
    "b7 204 a 1.2 1 9 1 9a 297 e 3 20 323.1 795 5ef.2 47.1 cb.1 1 4cd d 7.3 1.5 1.2 2 334
    1f a 2 db9 18.1 a 4 1 1ac.f 1.2 2 1.9 1.c 10.5 1 4.3 5b.1 3 5a.1 93.f 20.25 9 30.27
    38.30 f.b 33 58.18 a.4 60.1e 7301.7 128.9 f4 a0 536e.1 105.1 11a.4 a 2d.1 160.2 4.2c
    3.8 1a1.1a b9a4.3 16bc.11 1ede.1"⟩,
  ⟨["copt", "coptic", "qaac"],
    "3e2.d 2890.73 5.6",
    "b7 248 3.1 1 6c.1 2aa1 d4c8.1b",
    ""⟩,
  ⟨["xsux", "cuneiform"],
    "12000.399 66.6e 1.4 b.c3",
    "",
    ""⟩,
  ⟨["cprt", "cypriot"],
    "10800.5 2 1.2b 1.1 3 2",
    "10100.2 4.2c 3.8",
    ""⟩,
  ⟨["cpmn", "cyprominoan"],
    "12f90.62",
    "10100.1",
    ""⟩,
  ⟨["cyrl", "cyrillic"],
    "400.84 2.a8 1750.a a0 4c 1067.1f 7840.5f 578e.1 e200.3d 21",
    "2bc 43.2 1 1 1 2 5 173.1 1971 104a",
    ""⟩,
  ⟨["dsrt", "deseret"],
    "10400.4f",
    "",
    ""⟩,
  ⟨["deva", "devanagari"],
    "900.50 4.e 2.19 9f60.1f 7200.9",
    "2bc 694.1 11.1 136a.26 1.1 3f6 873f.9",
    ""⟩,
  ⟨["diak", "divesakuru"],
    "11900.6 2 2.7 1.1 1.1d 1.1 2.b 9.9",
    "",
    ""⟩,
  ⟨["dogr", "dogra"],
    "11800.3b",
    "964.b 9ec0.9",
    ""⟩,
  ⟨["dupl", "duployan"],
    "1bc00.6a 5.c 3.8 7.9 2.3",
    "b7 24f.1 1 18.1 2b17 18e63.3",
    ""⟩,
  ⟨["egyp", "egyptianhieroglyphs"],
    "13000.455 a.f9a",
    "",
    ""⟩,
  ⟨["elba", "elbasan"],
    "10500.27",
    "b7 24d",
    ""⟩,
  ⟨["elym", "elymaic"],
    "10fe0.16",
    "",
    ""⟩,
  ⟨["ethi", "ethiopic"],
    "1200.48 1.3 2.6 1 1.3 2.28 1.3 2.20 1.3 2.6 1 1.3 2.e 1.38 1.3 2.42 2.1f 3.19
    19e6.16 9.6 1.6 1.6 1.6 1.6 1.6 1.6 1.6 7d22.5 2.5 2.5 9.6 1.6 13cb1.6 1.3 1.1 1.e",
    "30e",
    ""⟩,
  ⟨["gara", "garay"],
    "10d40.25 3.1c 8.1",
    "60c e 3",
    ""⟩,
  ⟨["geor", "georgian"],
    "10a0.25 1 5 2.2a 1.3 b90.2a 2.2 1040.25 1 5",
    "b7 4d1 b71 f5e dd6",
    ""⟩,
  ⟨["glag", "glagolitic"],
    "2c00.5f 1b3a0.6 1.10 2.6 1.1 1.4",
    "b7 24b 1 17e 2 101 b71 f5e de8 782b",
    ""⟩,
  ⟨["goth", "gothic"],
    "10330.1a",
    "b7 24c.1 2 28",
    ""⟩,
  ⟨["gran", "grantha"],
    "11300.3 1.7 2.1 2.15 1.6 1.1 1.4 2.8 2.1 2.2 2 6 5.6 2.6 3.4",
    "951.1 11.1 280.d 10dc 1.1 1e.2 3.1 3f6 f24a c94.1 1",
    ""⟩,
  ⟨["grek", "greek"],
    "370.3 1.2 2.3 1 4 1 1.2 1 1.13 1.3e e.f 1926.4 32.4 4.4 54 140.15 2.5 2.25 2.5 2.7 1
    1 1 1.1e 2.34 1.e 1.d 2.5 1.12 2.2 1.8 127 8a3e 55da.4e 11 d05f.45",
    "b7 248.1 2 1 1 a 2e 2 2e 1a4b.1 29b",
    ""⟩,
  ⟨["gujr", "gujarati"],
    "a81.2 1.8 1.2 1.15 1.6 1.1 1.4 2.9 1.2 1.2 2 f.3 2.b 7.6",
    "951.1 11.1 9eca.9",
    ""⟩,
  ⟨["gong", "gunjalagondi"],
    "11d60.5 1.1 1.24 1.1 1.5 7.9",
    "b7 8ac.1",
    ""⟩,
  ⟨["guru", "gurmukhi"],
    "a01.2 1.5 4.1 2.15 1.6 1.1 1.1 1.1 2 1.4 4.1 2.2 3 7.3 1 7.10",
    "951.1 11.1 9eca.9",
    ""⟩,
  ⟨["gukh", "gurungkhema"],
    "16100.39",
    "965",
    ""⟩,
  ⟨["hani", "han"],
    "2e80.19 1.58 c.d5 2f 1 19.8 e.3 3c4.19bf 40.51ff 5900.16d 2.69 7508.1 c.1 900e.a6df
    20.1039 6.dd 2.1681 e.1d30 f.26d 9a2.21d 5e2.134a 5.105f",
    "b7 2f38.f 1.2 2 1.9 1.c a.3 2 6 4.3 bb 94.f 20.25 9 30.27 38.30 f.b 33 58.18 a.4
    60.1e 7301.7 573d.1 11a.4 d3fa.11 1ede.1",
    ""⟩,
  ⟨["hang", "hangul"],
    "1100.ff 1e2e.1 101.5d 71.1e 41.1e 76e1.1c 283.2ba3 c.16 4.30 27a4.1e 3.5 2.5 2.5 2.2",
    "3001.2 4.9 1.c 10 6 c3 cd49.1 11a.4",
    ""⟩,
  ⟨["rohg", "hanifirohingya"],
    "10d00.27 8.9",
    "60c e 3 20 93",
    ""⟩,
  ⟨["hano", "hanunoo"],
    "1720.14",
    "1735.1",
    ""⟩,
  ⟨["hatr", "hatran"],
    "108e0.12 1.1 5.4",
    "",
    ""⟩,
  ⟨["hebr", "hebrew"],
    "591.36 8.1a 4.5 f528.19 1.4 1 1.1 1.1 1.9",
    "307.1",
    ""⟩,
  ⟨["hira", "hiragana"],
    "3041.55 6.2 17f61.11e 12 1d.2 40ad",
    "3001.2 4.9 1.c 10.5 1 4.1 5b.3 3 5a.1 cd48.1 11a.4 a 2d.1",
    ""⟩,
  ⟨["armi", "imperialaramaic"],
    "10840.15 1.8",
    "",
    ""⟩,
  ⟨["zinh", "inherited", "qaai"],
    "300.6f 115.1 1c4.a 1a 2e0.3 115b.1e 201.2 1.c 1.6 4 6 3.1 c6.3f 20c.1 c2.20 f39.3
    6b.1 cd65.f 10.d 3cf e2 105a bbc4.2d 2.16 220.2 11.7 2.6 1e.3 c2f52.ef",
    "",
    "300.e 1.1 1 c 2.2 7.1 1.1 10 2 12 5 4.c 115.1 1c4.a 1a 2e0.1 137d.2 1.c 1.6 4 6 3.1
    c6.1 36 1 2f5 f39.3 6b.1 d245 105a"⟩,
  ⟨["phli", "inscriptionalpahlavi"],
    "10b60.12 5.7",
    "",
    ""⟩,
  ⟨["prti", "inscriptionalparthian"],
    "10b40.15 2.7",
    "",
    ""⟩,
  ⟨["java", "javanese"],
    "a980.4d 2.9 4.1",
    "a9cf",
    ""⟩,
  ⟨["kthi", "kaithi"],
    "11080.42 a",
    "966.9 24c1 79fe.9",
    ""⟩,
  ⟨["knda", "kannada"],
    "c80.c 1.2 1.16 1.9 1.4 2.8 1.2 1.3 7.1 6.1 1.3 2.9 1.2",
    "951.1 11.1 136a 1.1 6 17 1 8b3b.5",
    ""⟩,
  ⟨["kana", "katakana"],
    "30a1.59 2.2 f0.f d0.2e 1.57 cc0e.9 1.2c b052.3 1.6 1.1 1 11f.2 32 e.3",
    "305 1d 2cdd.2 4.9 1.c 10.5 1 4.1 5b.3 3 5a.1 cd48.1 11a.4 a 2d.1",
    ""⟩,
  ⟨["kawi"],
    "11f00.10 1.28 3.1c",
    "",
    ""⟩,
  ⟨["kali", "kayahli"],
    "a900.2d 1",
    "a92e",
    ""⟩,
  ⟨["khar", "kharoshthi"],
    "10a00.3 1.1 5.7 1.2 1.1c 2.2 4.9 7.8",
    "",
    ""⟩,
  ⟨["kits", "khitansmallscript"],
    "16fe4 1b1b.1d5 29",
    "",
    ""⟩,
  ⟨["khmr", "khmer"],
    "1780.5d 2.9 6.9 1e6.1f",
    "",
    ""⟩,
  ⟨["khoj", "khojki"],
    "11200.11 1.2e",
    "ae6.9 9d40.9",
    ""⟩,
  ⟨["sind", "khudawadi"],
    "112b0.3a 5.9",
    "964.1 9eca.9",
    ""⟩,
  ⟨["krai", "kiratrai"],
    "16d40.39",
    "",
    ""⟩,
  ⟨["laoo", "lao"],
    "e81.1 1 1.4 1.17 1 1.16 2.4 1 1.6 1.9 2.3",
    "",
    ""⟩,
  ⟨["latn", "latin"],
    "41.19 6.19 2f f 5.16 1.1e 1.1c0 27.4 1a1b.25 6.30 5.3 5.c 1.45 41.ff 171 d 10.c 8d.1
    6 1b 11.28 ad7.1f 7aa2.65 3.42 2.1 1 1.7 15.d 330.2a 1.8 1.3 4f96.6 41a.19 6.19
    825.5 1.29 1.8 d745.1e 6.5",
    "b7 204 a 1.2 1 9 1 26.e 1.1 1 c 2.2 7.1 1.1 26 5 4.c 115.1 4ca.1 7a8 cfc 236 c0 d26
    78e8.7 226",
    ""⟩,
  ⟨["lepc", "lepcha"],
    "1c00.37 3.e 3.2",
    "",
    ""⟩,
  ⟨["limb", "limbu"],
    "1900.1e 1.b 4.b 4 3.b",
    "965",
    ""⟩,
  ⟨["lina", "lineara"],
    "10600.136 9.15 a.7",
    "10107.2c",
    ""⟩,
  ⟨["linb", "linearb"],
    "10000.b 1.19 1.12 1.1 1.e 2.d 22.7a",
    "10100.2 4.2c 3.8",
    ""⟩,
  ⟨["lisu"],
    "a4d0.2f 7ab0",
    "2bc 10 2d3c.1",
    ""⟩,
  ⟨["lyci", "lycian"],
    "10280.1c",
    "205a",
    ""⟩,
  ⟨["lydi", "lydian"],
    "10920.19 5",
    "b7 2d79",
    ""⟩,
  ⟨["mahj", "mahajani"],
    "11150.26",
    "b7 8ac.b 9ec0.9",
    ""⟩,
  ⟨["maka", "makasar"],
    "11ee0.18",
    "",
    ""⟩,
  ⟨["mlym", "malayalam"],
    "d00.c 1.2 1.32 1.2 1.5 4.f 2.19",
    "951.1 11.1 1374 17 8b3d.2",
    ""⟩,
  ⟨["mand", "mandaic"],
    "840.1b 2",
    "640",
    ""⟩,
  ⟨["mani", "manichaean"],
    "10ac0.26 4.b",
    "640",
    ""⟩,
  ⟨["marc", "marchen"],
    "11c70.1f 2.15 1.d",
    "",
    ""⟩,
  ⟨["gonm", "masaramgondi"],
    "11d00.6 1.1 1.2b 3 1.1 1.8 8.9",
    "964.1",
    ""⟩,
  ⟨["medf", "medefaidrin"],
    "16e40.5a",
    "",
    ""⟩,
  ⟨["mtei", "meeteimayek"],
    "aae0.16 c9.2d 2.9",
    "",
    ""⟩,
  ⟨["mend", "mendekikakui"],
    "1e800.c4 2.f",
    "",
    ""⟩,
  ⟨["merc", "meroiticcursive"],
    "109a0.17 4.13 2.2d",
    "",
    ""⟩,
  ⟨["mero", "meroitichieroglyphs"],
    "10980.1f",
    "205d",
    ""⟩,
  ⟨["plrd", "miao"],
    "16f00.4a 4.38 7.10",
    "",
    ""⟩,
  ⟨["modi"],
    "11600.44 b.9",
    "a830.9",
    ""⟩,
  ⟨["mong", "mongolian"],
    "1800.1 2 1.13 6.58 7.2a fdb5.c",
    "1802.1 1 829 fd1.1 5.3",
    ""⟩,
  ⟨["mroo", "mro"],
    "16a40.1e 1.9 4.1",
    "",
    ""⟩,
  ⟨["mult", "multani"],
    "11280.6 1 1.3 1.e 1.a",
    "a66.9",
    ""⟩,
  ⟨["mymr", "myanmar"],
    "1000.9f 9940.1e 61.1f 6c50.13",
    "a92e",
    ""⟩,
  ⟨["nbat", "nabataean"],
    "10880.1e 8.8",
    "",
    ""⟩,
  ⟨["nagm", "nagmundari"],
    "1e4d0.29",
    "",
    ""⟩,
  ⟨["nand", "nandinagari"],
    "119a0.7 2.2d 2.a",
    "951 12.1 380.9 ff9 8 7 8b35.5",
    ""⟩,
  ⟨["talu", "newtailue"],
    "1980.2b 4.19 6.a 3.1",
    "",
    ""⟩,
  ⟨["newa"],
    "11400.5b 1.4",
    "",
    ""⟩,
  ⟨["nkoo", "nko"],
    "7c0.3a 2.2",
    "60c e 3 f71e.1",
    ""⟩,
  ⟨["nshu", "nushu"],
    "16fe1 418e.18b",
    "",
    ""⟩,
  ⟨["hmnp", "nyiakengpuachuehmong"],
    "1e100.2c 3.d 2.9 4.1",
    "",
    ""⟩,
  ⟨["ogam", "ogham"],
    "1680.1c",
    "",
    ""⟩,
  ⟨["olck", "olchiki"],
    "1c50.2f",
    "",
    ""⟩,
  ⟨["onao", "olonal"],
    "1e5d0.2a 4",
    "964.1",
    ""⟩,
  ⟨["hung", "oldhungarian"],
    "10c80.32 d.32 7.5",
    "205a 2 dd3 f",
    ""⟩,
  ⟨["ital", "olditalic"],
    "10300.23 9.2",
    "",
    ""⟩,
  ⟨["narb", "oldnortharabian"],
    "10a80.1f",
    "",
    ""⟩,
  ⟨["perm", "oldpermic"],
    "10350.2a",
    "b7 248 5.2 a 16f",
    ""⟩,
  ⟨["xpeo", "oldpersian"],
    "103a0.23 4.d",
    "",
    ""⟩,
  ⟨["sogo", "oldsogdian"],
    "10f00.27",
    "",
    ""⟩,
  ⟨["sarb", "oldsoutharabian"],
    "10a60.1f",
    "",
    ""⟩,
  ⟨["orkh", "oldturkic"],
    "10c00.48",
    "205a dd5",
    ""⟩,
  ⟨["ougr", "olduyghur"],
    "10f70.19",
    "640 104b1",
    ""⟩,
  ⟨["orya", "oriya"],
    "b01.2 1.7 2.1 2.15 1.6 1.1 1.4 2.8 2.1 2.2 7.2 4.1 1.4 2.11",
    "951.1 11.1 1374 17",
    ""⟩,
  ⟨["osge", "osage"],
    "104b0.23 4.23",
    "301 2 6 4c",
    ""⟩,
  ⟨["osma", "osmanya"],
    "10480.1d 2.9",
    "",
    ""⟩,
  ⟨["hmng", "pahawhhmong"],
    "16b00.45 a.9 1.6 1.14 5.12",
    "",
    ""⟩,
  ⟨["palm", "palmyrene"],
    "10860.1f",
    "",
    ""⟩,
  ⟨["pauc", "paucinhau"],
    "11ac0.38",
    "",
    ""⟩,
  ⟨["phag", "phagspa"],
    "a840.37",
    "1802.1 1 829 fd2",
    ""⟩,
  ⟨["phnx", "phoenician"],
    "10900.1b 3",
    "",
    ""⟩,
  ⟨["phlp", "psalterpahlavi"],
    "10b80.11 7.3 c.6",
    "640",
    ""⟩,
  ⟨["rjng", "rejang"],
    "a930.23 b",
    "",
    ""⟩,
  ⟨["runr", "runic"],
    "16a0.4a 3.a",
    "16eb.2",
    ""⟩,
  ⟨["samr", "samaritan"],
    "800.2d 2.e",
    "2e31",
    ""⟩,
  ⟨["saur", "saurashtra"],
    "a880.45 8.b",
    "",
    ""⟩,
  ⟨["shrd", "sharada"],
    "11180.5f",
    "951 1385 1 2.1 2 8b4f.5 2",
    ""⟩,
  ⟨["shaw", "shavian"],
    "10450.2f",
    "b7",
    ""⟩,
  ⟨["sidd", "siddham"],
    "11580.35 2.25",
    "",
    ""⟩,
  ⟨["sgnw", "signwriting"],
    "1d800.28b f.4 1.e",
    "",
    ""⟩,
  ⟨["sinh", "sinhala"],
    "d81.2 1.11 3.17 1.8 1 2.6 3 4.5 1 1.7 6.9 2.2 103ec.13",
    "964.1 138c",
    ""⟩,
  ⟨["sogd", "sogdian"],
    "10f30.29",
    "640",
    ""⟩,
  ⟨["sora", "sorasompeng"],
    "110d0.18 7.9",
    "",
    ""⟩,
  ⟨["soyo", "soyombo"],
    "11a50.52",
    "",
    ""⟩,
  ⟨["sund", "sundanese"],
    "1b80.3f 100.7",
    "",
    ""⟩,
  ⟨["sunu", "sunuwar"],
    "11bc0.21 e.9",
    "300.1 1 9 2 1c 3",
    ""⟩,
  ⟨["sylo", "sylotinagri"],
    "a800.2c",
    "964.1 80.9",
    ""⟩,
  ⟨["syrc", "syriac"],
    "700.d 1.3b 2.2 110.a",
    "303.1 2.1 1 15 2.2 7.1 1 2db e.1 2 20 a.a 1a 1787 1",
    ""⟩,
  ⟨["tglg", "tagalog"],
    "1700.15 9",
    "1735.1",
    ""⟩,
  ⟨["tagb", "tagbanwa"],
    "1760.c 1.2 1.1",
    "1735.1",
    ""⟩,
  ⟨["tale", "taile"],
    "1950.1d 2.4",
    "300.1 5.1 3 d33.9",
    ""⟩,
  ⟨["lana", "taitham"],
    "1a20.3e 1.1c 2.a 6.9 6.d",
    "",
    ""⟩,
  ⟨["tavt", "taiviet"],
    "aa80.42 18.4",
    "",
    ""⟩,
  ⟨["takr", "takri"],
    "11680.39 6.9",
    "964.1 9eca.9",
    ""⟩,
  ⟨["taml", "tamil"],
    "b82.1 1.5 3.2 1.3 3.1 1 1.1 3.1 3.2 3.b 4.4 3.2 1.3 2 6 e.14 113c5.31 d",
    "951.1 11.1 1374 8c18 6a0d 1 37.1",
    ""⟩,
  ⟨["tnsa", "tangsa"],
    "16a70.4e 1.9",
    "",
    ""⟩,
  ⟨["tang", "tangut"],
    "16fe0 1f.17f7 8.2ff 200.8",
    "2ff0.f 1ef",
    ""⟩,
  ⟨["telu", "telugu"],
    "c00.c 1.2 1.16 1.f 2.8 1.2 1.3 7.1 1.2 2 2.3 2.9 7.8",
    "951.1 11.1 1374 17",
    ""⟩,
  ⟨["thaa", "thaana"],
    "780.31",
    "60c e.1 2 40.9 f788 a",
    ""⟩,
  ⟨["thai"],
    "e01.39 5.1b",
    "2bc 1a 2b 2d",
    ""⟩,
  ⟨["tibt", "tibetan"],
    "f00.47 1.23 4.26 1.23 1.e 1.6 4.1",
    "3008.3",
    ""⟩,
  ⟨["tfng", "tifinagh"],
    "2d30.37 7.1 e",
    "302 1 2 1",
    ""⟩,
  ⟨["tirh", "tirhuta"],
    "11480.47 8.9",
    "951.1 11.1 138c 8b3d.9",
    ""⟩,
  ⟨["todr", "todhri"],
    "105c0.33",
    "301 2 2 9 1 4a",
    ""⟩,
  ⟨["toto"],
    "1e290.1e",
    "2bc",
    ""⟩,
  ⟨["tutg", "tulutigalari"],
    "11380.9 1 2 1.25 1.9 1 2 1.3 1.9 1.1 8.1",
    "ce6.9 1002 1 8b3b.5 bb",
    ""⟩,
  ⟨["ugar", "ugaritic"],
    "10380.1d 1",
    "",
    ""⟩,
  ⟨["vaii", "vai"],
    "a500.12b",
    "",
    ""⟩,
  ⟨["vith", "vithkuqi"],
    "10570.a 1.e 1.6 1.1 1.a 1.e 1.6 1.1",
    "",
    ""⟩,
  ⟨["wcho", "wancho"],
    "1e2c0.39 5",
    "",
    ""⟩,
  ⟨["wara", "warangciti"],
    "118a0.52 c",
    "",
    ""⟩,
  ⟨["yezi", "yezidi"],
    "10e80.29 1.2 2.1",
    "60c e 3 40.9",
    ""⟩,
  ⟨["yiii", "yi"],
    "a000.48c 3.36",
    "3001.1 5.9 2.7 df ce65.4",
    ""⟩,
  ⟨["zanb", "zanabazarsquare"],
    "11a00.47",
    "",
    ""⟩
]

/-- The characters of a script. -/
def script? (name : String) : Option CharSet :=
  (scripts.find? fun s => s.names.contains name).map fun s => CharSet.decode s.own

/-- The characters that are used with a script. -/
def scriptExtensions? (name : String) : Option CharSet :=
  (scripts.find? fun s => s.names.contains name).map fun s =>
    CharSet.difference
      (CharSet.union (CharSet.decode s.own) (CharSet.decode s.more))
      (CharSet.decode s.less)

end LineShell.Unicode
