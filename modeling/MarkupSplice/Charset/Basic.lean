import MarkupSplice.Charset.SingleByteTable
import MarkupSplice.Text.Blank

/-!
# Character encodings

The encodings that a document may be stored in, with their names and the labels
they go by. A label counts without regard to ASCII case and to white space
around it, and no label at all means UTF-8.
-/
namespace MarkupSplice

/-- An encoding of the ASCII characters and at most 128 others, one byte for each. -/
inductive SingleByte
  | ibm866
  | iso88592
  | iso88593
  | iso88594
  | iso88595
  | iso88596
  | iso88597
  | iso88598
  | iso88598i
  | iso885910
  | iso885913
  | iso885914
  | iso885915
  | iso885916
  | koi8r
  | koi8u
  | macintosh
  | windows874
  | windows1250
  | windows1251
  | windows1252
  | windows1253
  | windows1254
  | windows1255
  | windows1256
  | windows1257
  | windows1258
  | macCyrillic
deriving DecidableEq, Repr

inductive Charset
  | utf8
  | utf16le
  | utf16be
  | singleByte (table : SingleByte)
  | gbk
  | gb18030
  | big5
  | eucJp
  | iso2022Jp
  | shiftJis
  | eucKr
  | userDefined
deriving DecidableEq, Repr

namespace SingleByte

def name : SingleByte → String
  | .ibm866 => "IBM866"
  | .iso88592 => "ISO-8859-2"
  | .iso88593 => "ISO-8859-3"
  | .iso88594 => "ISO-8859-4"
  | .iso88595 => "ISO-8859-5"
  | .iso88596 => "ISO-8859-6"
  | .iso88597 => "ISO-8859-7"
  | .iso88598 => "ISO-8859-8"
  | .iso88598i => "ISO-8859-8-I"
  | .iso885910 => "ISO-8859-10"
  | .iso885913 => "ISO-8859-13"
  | .iso885914 => "ISO-8859-14"
  | .iso885915 => "ISO-8859-15"
  | .iso885916 => "ISO-8859-16"
  | .koi8r => "KOI8-R"
  | .koi8u => "KOI8-U"
  | .macintosh => "macintosh"
  | .windows874 => "windows-874"
  | .windows1250 => "windows-1250"
  | .windows1251 => "windows-1251"
  | .windows1252 => "windows-1252"
  | .windows1253 => "windows-1253"
  | .windows1254 => "windows-1254"
  | .windows1255 => "windows-1255"
  | .windows1256 => "windows-1256"
  | .windows1257 => "windows-1257"
  | .windows1258 => "windows-1258"
  | .macCyrillic => "x-mac-cyrillic"

def controls : List Char := (List.range 32).map fun n => Char.ofNat (0x80 + n)

def upper : SingleByte → List Char
  | .ibm866 => Charset.Table.ibm866.toList
  | .iso88592 => controls ++ Charset.Table.iso88592.toList
  | .iso88593 => controls ++ Charset.Table.iso88593.toList
  | .iso88594 => controls ++ Charset.Table.iso88594.toList
  | .iso88595 => controls ++ Charset.Table.iso88595.toList
  | .iso88596 => controls ++ Charset.Table.iso88596.toList
  | .iso88597 => controls ++ Charset.Table.iso88597.toList
  | .iso88598 => controls ++ Charset.Table.iso88598.toList
  | .iso88598i => controls ++ Charset.Table.iso88598.toList
  | .iso885910 => controls ++ Charset.Table.iso885910.toList
  | .iso885913 => controls ++ Charset.Table.iso885913.toList
  | .iso885914 => controls ++ Charset.Table.iso885914.toList
  | .iso885915 => controls ++ Charset.Table.iso885915.toList
  | .iso885916 => controls ++ Charset.Table.iso885916.toList
  | .koi8r => Charset.Table.koi8r.toList
  | .koi8u => Charset.Table.koi8u.toList
  | .macintosh => Charset.Table.macintosh.toList
  | .windows874 => Charset.Table.windows874.toList
  | .windows1250 => Charset.Table.windows1250.toList
  | .windows1251 => Charset.Table.windows1251.toList
  | .windows1252 => Charset.Table.windows1252.toList
  | .windows1253 => Charset.Table.windows1253.toList
  | .windows1254 => Charset.Table.windows1254.toList
  | .windows1255 => Charset.Table.windows1255.toList
  | .windows1256 => Charset.Table.windows1256.toList
  | .windows1257 => Charset.Table.windows1257.toList
  | .windows1258 => Charset.Table.windows1258.toList
  | .macCyrillic => Charset.Table.macCyrillic.toList

end SingleByte

namespace Charset

def name : Charset → String
  | .utf8 => "UTF-8"
  | .utf16le => "UTF-16LE"
  | .utf16be => "UTF-16BE"
  | .singleByte t => t.name
  | .gbk => "GBK"
  | .gb18030 => "gb18030"
  | .big5 => "Big5"
  | .eucJp => "EUC-JP"
  | .iso2022Jp => "ISO-2022-JP"
  | .shiftJis => "Shift_JIS"
  | .eucKr => "EUC-KR"
  | .userDefined => "x-user-defined"

def labels : List (Charset × List String) :=
  [(.utf8, ["unicode-1-1-utf-8", "unicode11utf8", "unicode20utf8", "utf-8", "utf8",
      "x-unicode20utf8"]),
   (.utf16be, ["unicodefffe", "utf-16be"]),
   (.utf16le, ["csunicode", "iso-10646-ucs-2", "ucs-2", "unicode", "unicodefeff", "utf-16",
      "utf-16le"]),
   (.singleByte .ibm866, ["866", "cp866", "csibm866", "ibm866"]),
   (.singleByte .iso88592, ["csisolatin2", "iso-8859-2", "iso-ir-101", "iso8859-2", "iso88592",
      "iso_8859-2", "iso_8859-2:1987", "l2", "latin2"]),
   (.singleByte .iso88593, ["csisolatin3", "iso-8859-3", "iso-ir-109", "iso8859-3", "iso88593",
      "iso_8859-3", "iso_8859-3:1988", "l3", "latin3"]),
   (.singleByte .iso88594, ["csisolatin4", "iso-8859-4", "iso-ir-110", "iso8859-4", "iso88594",
      "iso_8859-4", "iso_8859-4:1988", "l4", "latin4"]),
   (.singleByte .iso88595, ["csisolatincyrillic", "cyrillic", "iso-8859-5", "iso-ir-144",
      "iso8859-5", "iso88595", "iso_8859-5", "iso_8859-5:1988"]),
   (.singleByte .iso88596, ["arabic", "asmo-708", "csiso88596e", "csiso88596i",
      "csisolatinarabic", "ecma-114", "iso-8859-6", "iso-8859-6-e", "iso-8859-6-i", "iso-ir-127",
      "iso8859-6", "iso88596", "iso_8859-6", "iso_8859-6:1987"]),
   (.singleByte .iso88597, ["csisolatingreek", "ecma-118", "elot_928", "greek", "greek8",
      "iso-8859-7", "iso-ir-126", "iso8859-7", "iso88597", "iso_8859-7", "iso_8859-7:1987",
      "sun_eu_greek"]),
   (.singleByte .iso88598, ["csiso88598e", "csisolatinhebrew", "hebrew", "iso-8859-8",
      "iso-8859-8-e", "iso-ir-138", "iso8859-8", "iso88598", "iso_8859-8", "iso_8859-8:1988",
      "visual"]),
   (.singleByte .iso88598i, ["csiso88598i", "iso-8859-8-i", "logical"]),
   (.singleByte .iso885910, ["csisolatin6", "iso-8859-10", "iso-ir-157", "iso8859-10",
      "iso885910", "l6", "latin6"]),
   (.singleByte .iso885913, ["iso-8859-13", "iso8859-13", "iso885913"]),
   (.singleByte .iso885914, ["iso-8859-14", "iso8859-14", "iso885914"]),
   (.singleByte .iso885915, ["csisolatin9", "iso-8859-15", "iso8859-15", "iso885915",
      "iso_8859-15", "l9"]),
   (.singleByte .iso885916, ["iso-8859-16"]),
   (.singleByte .koi8r, ["cskoi8r", "koi", "koi8", "koi8-r", "koi8_r"]),
   (.singleByte .koi8u, ["koi8-ru", "koi8-u"]),
   (.singleByte .macintosh, ["csmacintosh", "mac", "macintosh", "x-mac-roman"]),
   (.singleByte .windows874, ["dos-874", "iso-8859-11", "iso8859-11", "iso885911", "tis-620",
      "windows-874"]),
   (.singleByte .windows1250, ["cp1250", "windows-1250", "x-cp1250"]),
   (.singleByte .windows1251, ["cp1251", "windows-1251", "x-cp1251"]),
   (.singleByte .windows1252, ["ansi_x3.4-1968", "ascii", "cp1252", "cp819", "csisolatin1",
      "ibm819", "iso-8859-1", "iso-ir-100", "iso8859-1", "iso88591", "iso_8859-1",
      "iso_8859-1:1987", "l1", "latin1", "us-ascii", "windows-1252", "x-cp1252"]),
   (.singleByte .windows1253, ["cp1253", "windows-1253", "x-cp1253"]),
   (.singleByte .windows1254, ["cp1254", "csisolatin5", "iso-8859-9", "iso-ir-148", "iso8859-9",
      "iso88599", "iso_8859-9", "iso_8859-9:1989", "l5", "latin5", "windows-1254", "x-cp1254"]),
   (.singleByte .windows1255, ["cp1255", "windows-1255", "x-cp1255"]),
   (.singleByte .windows1256, ["cp1256", "windows-1256", "x-cp1256"]),
   (.singleByte .windows1257, ["cp1257", "windows-1257", "x-cp1257"]),
   (.singleByte .windows1258, ["cp1258", "windows-1258", "x-cp1258"]),
   (.singleByte .macCyrillic, ["x-mac-cyrillic", "x-mac-ukrainian"]),
   (.gbk, ["chinese", "csgb2312", "csiso58gb231280", "gb2312", "gb_2312", "gb_2312-80", "gbk",
      "iso-ir-58", "x-gbk"]),
   (.gb18030, ["gb18030"]),
   (.big5, ["big5", "big5-hkscs", "cn-big5", "csbig5", "x-x-big5"]),
   (.eucJp, ["cseucpkdfmtjapanese", "euc-jp", "x-euc-jp"]),
   (.iso2022Jp, ["csiso2022jp", "iso-2022-jp"]),
   (.shiftJis, ["csshiftjis", "ms932", "ms_kanji", "shift-jis", "shift_jis", "sjis",
      "windows-31j", "x-sjis"]),
   (.eucKr, ["cseuckr", "csksc56011987", "euc-kr", "iso-ir-149", "korean", "ks_c_5601-1987",
      "ks_c_5601-1989", "ksc5601", "ksc_5601", "windows-949"]),
   (.userDefined, ["x-user-defined"])]

def ofLabel? (label : String) : Option Charset :=
  let key := (String.ofList (Text.trim label.toList)).map Char.toLower
  if key.isEmpty then some .utf8
  else (labels.find? fun (_, keys) => keys.contains key).map Prod.fst

end Charset
end MarkupSplice
