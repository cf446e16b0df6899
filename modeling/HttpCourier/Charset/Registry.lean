import HttpCourier.Text.Ranges

/-!
# Names of charsets

A charset has one name and many labels. A label is compared by its letters and digits alone: small
and capital letters are the same, and every run of other characters counts as one underscore.
-/

namespace HttpCourier.Charset

open Text

/-- A label in the form that the registry holds: letters, digits and points, with one underscore for
every run of other characters between them. -/
def plainLabel (label : List Char) : List Char :=
  let isKept (c : Char) := decide (c.toNat < 128) && (c.isAlphanum || c == '.')
  let add (acc : List Char × Bool) (c : Char) : List Char × Bool :=
    if isKept c then
      ((if acc.2 && !acc.1.isEmpty then [c.toLower, '_'] else [c.toLower]) ++ acc.1, false)
    else (acc.1, true)
  (label.foldl add ([], false)).1.reverse

/-- A line of the registry: the name, a colon, the labels, a bar, and the labels that do not admit a
point in the place of an underscore. -/
def registry : List String :=
  [
    ("ascii: 646 ansi_x3.4_1968 ansi_x3.4_1986 ansi_x3_4_1968 cp367 csascii ibm367 iso646_us " ++
      "iso_646.irv_1991 iso_ir_6 us us_ascii | ascii"),
    "base64: base64 base_64 | base64_codec",
    "big5: big5_tw csbig5 x_mac_trad_chinese | big5",
    "big5hkscs: big5_hkscs hkscs | big5hkscs",
    "bz2: bz2 | bz2_codec",
    "charmap: | charmap",
    ("cp037: 037 csibm037 ebcdic_cp_ca ebcdic_cp_nl ebcdic_cp_us ebcdic_cp_wt ibm037 ibm039 | " ++
      "cp037"),
    "cp1006: | cp1006",
    "cp1026: 1026 csibm1026 ibm1026 | cp1026",
    "cp1125: 1125 cp866u ibm1125 ruscii | cp1125",
    "cp1140: 1140 ibm1140 | cp1140",
    "cp1250: 1250 windows_1250 | cp1250",
    "cp1251: 1251 windows_1251 | cp1251",
    "cp1252: 1252 windows_1252 | cp1252",
    "cp1253: 1253 windows_1253 | cp1253",
    "cp1254: 1254 windows_1254 | cp1254",
    "cp1255: 1255 windows_1255 | cp1255",
    "cp1256: 1256 windows_1256 | cp1256",
    "cp1257: 1257 windows_1257 | cp1257",
    "cp1258: 1258 windows_1258 | cp1258",
    "cp273: 273 csibm273 ibm273 | cp273",
    "cp424: 424 csibm424 ebcdic_cp_he ibm424 | cp424",
    "cp437: 437 cspc8codepage437 ibm437 | cp437",
    "cp500: 500 csibm500 ebcdic_cp_be ebcdic_cp_ch ibm500 | cp500",
    "cp720: | cp720",
    "cp737: | cp737",
    "cp775: 775 cspc775baltic ibm775 | cp775",
    "cp850: 850 cspc850multilingual ibm850 | cp850",
    "cp852: 852 cspcp852 ibm852 | cp852",
    "cp855: 855 csibm855 ibm855 | cp855",
    "cp856: | cp856",
    "cp857: 857 csibm857 ibm857 | cp857",
    "cp858: 858 csibm858 ibm858 | cp858",
    "cp860: 860 csibm860 ibm860 | cp860",
    "cp861: 861 cp_is csibm861 ibm861 | cp861",
    "cp862: 862 cspc862latinhebrew ibm862 | cp862",
    "cp863: 863 csibm863 ibm863 | cp863",
    "cp864: 864 csibm864 ibm864 | cp864",
    "cp865: 865 csibm865 ibm865 | cp865",
    "cp866: 866 csibm866 ibm866 | cp866",
    "cp869: 869 cp_gr csibm869 ibm869 | cp869",
    "cp874: | cp874",
    "cp875: | cp875",
    "cp932: 932 ms932 ms_kanji mskanji | cp932",
    "cp949: 949 ms949 uhc | cp949",
    "cp950: 950 ms950 | cp950",
    "euc_jis_2004: euc_jis2004 eucjis2004 jisx0213 | euc_jis_2004",
    "euc_jisx0213: eucjisx0213 | euc_jisx0213",
    "euc_jp: eucjp u_jis ujis | euc_jp",
    ("euc_kr: euckr korean ks_c_5601 ks_c_5601_1987 ks_x_1001 ksc5601 ksx1001 x_mac_korean | " ++
      "euc_kr"),
    "gb18030: gb18030_2000 | gb18030",
    ("gb2312: chinese csiso58gb231280 euc_cn euccn eucgb2312_cn gb2312_1980 gb2312_80 iso_ir_58 " ++
      "x_mac_simp_chinese | gb2312"),
    "gbk: 936 cp936 ms936 | gbk",
    "hex: hex | hex_codec",
    "hp-roman8: cp1051 ibm1051 r8 roman8 | hp_roman8",
    "hz: hz_gb hz_gb_2312 hzgb | hz",
    "idna: | idna",
    "iso2022_jp: csiso2022jp iso2022jp iso_2022_jp | iso2022_jp",
    "iso2022_jp_1: iso2022jp_1 iso_2022_jp_1 | iso2022_jp_1",
    "iso2022_jp_2: iso2022jp_2 iso_2022_jp_2 | iso2022_jp_2",
    "iso2022_jp_2004: iso2022jp_2004 iso_2022_jp_2004 | iso2022_jp_2004",
    "iso2022_jp_3: iso2022jp_3 iso_2022_jp_3 | iso2022_jp_3",
    "iso2022_jp_ext: iso2022jp_ext iso_2022_jp_ext | iso2022_jp_ext",
    "iso2022_kr: csiso2022kr iso2022kr iso_2022_kr | iso2022_kr",
    ("iso8859-1: 8859 cp819 csisolatin1 ibm819 iso8859 iso8859_1 iso_8859_1 iso_8859_1_1987 " ++
      "iso_ir_100 l1 latin latin1 | latin_1"),
    "iso8859-10: csisolatin6 iso_8859_10 iso_8859_10_1992 iso_ir_157 l6 latin6 | iso8859_10",
    "iso8859-11: iso_8859_11 iso_8859_11_2001 thai | iso8859_11",
    "iso8859-13: iso_8859_13 l7 latin7 | iso8859_13",
    "iso8859-14: iso_8859_14 iso_8859_14_1998 iso_celtic iso_ir_199 l8 latin8 | iso8859_14",
    "iso8859-15: iso_8859_15 l9 latin9 | iso8859_15",
    "iso8859-16: iso_8859_16 iso_8859_16_2001 iso_ir_226 l10 latin10 | iso8859_16",
    "iso8859-2: csisolatin2 iso_8859_2 iso_8859_2_1987 iso_ir_101 l2 latin2 | iso8859_2",
    "iso8859-3: csisolatin3 iso_8859_3 iso_8859_3_1988 iso_ir_109 l3 latin3 | iso8859_3",
    "iso8859-4: csisolatin4 iso_8859_4 iso_8859_4_1988 iso_ir_110 l4 latin4 | iso8859_4",
    "iso8859-5: csisolatincyrillic cyrillic iso_8859_5 iso_8859_5_1988 iso_ir_144 | iso8859_5",
    ("iso8859-6: arabic asmo_708 csisolatinarabic ecma_114 iso_8859_6 iso_8859_6_1987 iso_ir_127 " ++
      "| iso8859_6"),
    ("iso8859-7: csisolatingreek ecma_118 elot_928 greek greek8 iso_8859_7 iso_8859_7_1987 " ++
      "iso_ir_126 | iso8859_7"),
    "iso8859-8: csisolatinhebrew hebrew iso_8859_8 iso_8859_8_1988 iso_ir_138 | iso8859_8",
    "iso8859-9: csisolatin5 iso_8859_9 iso_8859_9_1989 iso_ir_148 l5 latin5 | iso8859_9",
    "johab: cp1361 ms1361 | johab",
    "koi8-r: cskoi8r | koi8_r",
    "koi8-t: | koi8_t",
    "koi8-u: | koi8_u",
    "kz1048: kz_1048 rk1048 strk1048_2002 | kz1048",
    "mac-arabic: | mac_arabic",
    "mac-croatian: | mac_croatian",
    "mac-cyrillic: maccyrillic | mac_cyrillic",
    "mac-farsi: | mac_farsi",
    "mac-greek: macgreek | mac_greek",
    "mac-iceland: maciceland | mac_iceland",
    "mac-latin2: mac_centeuro maccentraleurope maclatin2 | mac_latin2",
    "mac-roman: macintosh macroman | mac_roman",
    "mac-romanian: | mac_romanian",
    "mac-turkish: macturkish | mac_turkish",
    "palmos: | palmos",
    "ptcp154: cp154 csptcp154 cyrillic_asian pt154 | ptcp154",
    "punycode: | punycode",
    "quopri: quopri quoted_printable quotedprintable | quopri_codec",
    "raw-unicode-escape: | raw_unicode_escape",
    "rot-13: rot13 | rot_13",
    "shift_jis: csshiftjis s_jis shiftjis sjis x_mac_japanese | shift_jis",
    "shift_jis_2004: s_jis_2004 shiftjis2004 sjis_2004 | shift_jis_2004",
    "shift_jisx0213: s_jisx0213 shiftjisx0213 sjisx0213 | shift_jisx0213",
    "tis-620: iso_ir_166 tis620 tis_620_0 tis_620_2529_0 tis_620_2529_1 | tis_620",
    "undefined: | undefined",
    "unicode-escape: | unicode_escape",
    "utf-16: u16 utf16 | utf_16",
    "utf-16-be: unicodebigunmarked utf_16be | utf_16_be",
    "utf-16-le: unicodelittleunmarked utf_16le | utf_16_le",
    "utf-32: u32 utf32 | utf_32",
    "utf-32-be: utf_32be | utf_32_be",
    "utf-32-le: utf_32le | utf_32_le",
    "utf-7: u7 unicode_1_1_utf_7 utf7 | utf_7",
    "utf-8: cp65001 u8 utf utf8 utf8_ucs2 utf8_ucs4 | utf_8",
    "utf-8-sig: | utf_8_sig",
    "uu: uu | uu_codec",
    "zlib: zip zlib | zlib_codec"]

/-- A charset of the registry. -/
structure Entry where
  name : List Char
  labels : List (List Char)
  strictLabels : List (List Char)

/-- An entry from the characters of its line. -/
def Entry.ofChars (line : List Char) : Entry :=
  let words := (splitOn ' ' line).filter fun w => !w.isEmpty
  let name := (words.headD []).dropLast
  let rest := words.tail
  { name, labels := rest.takeWhile (· != ['|']), strictLabels := (rest.dropWhile (· != ['|'])).tail }

/-- Reads a line of the registry. -/
def Entry.ofLine (line : String) : Entry := .ofChars line.toList

/-- The name of the charset that a label stands for. -/
def nameOf? (label : String) : Option String :=
  let plain := plainLabel label.toList
  let loose := plain.map fun c => if c = '.' then '_' else c
  let entries := registry.map Entry.ofLine
  let found := (entries.find? fun e => e.labels.contains plain || e.labels.contains loose).or
    (entries.find? fun e => e.strictLabels.contains plain)
  found.map fun e => String.ofList e.name

end HttpCourier.Charset
