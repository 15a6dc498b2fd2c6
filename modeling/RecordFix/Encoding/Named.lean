import RecordFix.Encoding.Big5
import RecordFix.Encoding.EucJp
import RecordFix.Encoding.EucKr
import RecordFix.Encoding.Gb18030
import RecordFix.Encoding.Iso2022Jp
import RecordFix.Encoding.ShiftJis
import RecordFix.Encoding.SingleByte
import RecordFix.Encoding.Utf16
import RecordFix.Encoding.Utf8
import RecordFix.Text.Search

/-!
# Encodings by name

The encodings of text on the Web with the labels that name them, as the Encoding Standard lists
them. A byte order mark at the start of the bytes tells UTF-8 and UTF-16 whatever a label says, and
is not part of the text.
-/

namespace RecordFix

/-- An encoding of text. -/
structure Encoding where
  name : String
  labels : List String
  decode : List UInt8 → Encoding.Decoded

namespace Encoding

/-- UTF-8. -/
def utf8 : Encoding where
  name := "UTF-8"
  labels := ["unicode-1-1-utf-8", "unicode11utf8", "unicode20utf8", "utf-8", "utf8",
    "x-unicode20utf8"]
  decode := Utf8.decode

/-- UTF-16 with the low byte of a unit first. -/
def utf16le : Encoding where
  name := "UTF-16LE"
  labels := ["csunicode", "iso-10646-ucs-2", "ucs-2", "unicode", "unicodefeff", "utf-16",
    "utf-16le"]
  decode := Utf16.decode false

/-- UTF-16 with the high byte of a unit first. -/
def utf16be : Encoding where
  name := "UTF-16BE"
  labels := ["unicodefffe", "utf-16be"]
  decode := Utf16.decode true

/-- Western European text, which stands for ASCII and ISO-8859-1 as well. -/
def western : Encoding where
  name := "windows-1252"
  labels := ["ansi_x3.4-1968", "ascii", "cp1252", "cp819", "csisolatin1", "ibm819", "iso-8859-1",
    "iso-ir-100", "iso8859-1", "iso88591", "iso_8859-1", "iso_8859-1:1987", "l1", "latin1",
    "us-ascii", "windows-1252", "x-cp1252"]
  decode := decodeBytes windows1252

/-- The other encodings with one byte to a character. -/
def singleByte : List Encoding :=
  [⟨"IBM866", ["866", "cp866", "csibm866", "ibm866"], decodeBytes ibm866⟩,
   ⟨"ISO-8859-2", ["csisolatin2", "iso-8859-2", "iso-ir-101", "iso8859-2", "iso88592",
      "iso_8859-2", "iso_8859-2:1987", "l2", "latin2"], decodeBytes latin2⟩,
   ⟨"ISO-8859-3", ["csisolatin3", "iso-8859-3", "iso-ir-109", "iso8859-3", "iso88593",
      "iso_8859-3", "iso_8859-3:1988", "l3", "latin3"], decodeBytes latin3⟩,
   ⟨"ISO-8859-4", ["csisolatin4", "iso-8859-4", "iso-ir-110", "iso8859-4", "iso88594",
      "iso_8859-4", "iso_8859-4:1988", "l4", "latin4"], decodeBytes latin4⟩,
   ⟨"ISO-8859-5", ["csisolatincyrillic", "cyrillic", "iso-8859-5", "iso-ir-144", "iso8859-5",
      "iso88595", "iso_8859-5", "iso_8859-5:1988"], decodeBytes isoCyrillic⟩,
   ⟨"ISO-8859-6", ["arabic", "asmo-708", "csiso88596e", "csiso88596i", "csisolatinarabic",
      "ecma-114", "iso-8859-6", "iso-8859-6-e", "iso-8859-6-i", "iso-ir-127", "iso8859-6",
      "iso88596", "iso_8859-6", "iso_8859-6:1987"], decodeBytes isoArabic⟩,
   ⟨"ISO-8859-7", ["csisolatingreek", "ecma-118", "elot_928", "greek", "greek8", "iso-8859-7",
      "iso-ir-126", "iso8859-7", "iso88597", "iso_8859-7", "iso_8859-7:1987", "sun_eu_greek"],
    decodeBytes isoGreek⟩,
   ⟨"ISO-8859-8", ["csiso88598e", "csisolatinhebrew", "hebrew", "iso-8859-8", "iso-8859-8-e",
      "iso-ir-138", "iso8859-8", "iso88598", "iso_8859-8", "iso_8859-8:1988", "visual"],
    decodeBytes isoHebrew⟩,
   ⟨"ISO-8859-8-I", ["csiso88598i", "iso-8859-8-i", "logical"], decodeBytes isoHebrew⟩,
   ⟨"ISO-8859-10", ["csisolatin6", "iso-8859-10", "iso-ir-157", "iso8859-10", "iso885910", "l6",
      "latin6"], decodeBytes latin6⟩,
   ⟨"ISO-8859-13", ["iso-8859-13", "iso8859-13", "iso885913"], decodeBytes latin7⟩,
   ⟨"ISO-8859-14", ["iso-8859-14", "iso8859-14", "iso885914"], decodeBytes latin8⟩,
   ⟨"ISO-8859-15", ["csisolatin9", "iso-8859-15", "iso8859-15", "iso885915", "iso_8859-15",
      "l9"], decodeBytes latin9⟩,
   ⟨"ISO-8859-16", ["iso-8859-16"], decodeBytes latin10⟩,
   ⟨"KOI8-R", ["cskoi8r", "koi", "koi8", "koi8-r", "koi8_r"], decodeBytes koi8R⟩,
   ⟨"KOI8-U", ["koi8-ru", "koi8-u"], decodeBytes koi8U⟩,
   ⟨"macintosh", ["csmacintosh", "mac", "macintosh", "x-mac-roman"], decodeBytes macRoman⟩,
   ⟨"windows-874", ["dos-874", "iso-8859-11", "iso8859-11", "iso885911", "tis-620",
      "windows-874"], decodeBytes windows874⟩,
   ⟨"windows-1250", ["cp1250", "windows-1250", "x-cp1250"], decodeBytes windows1250⟩,
   ⟨"windows-1251", ["cp1251", "windows-1251", "x-cp1251"], decodeBytes windows1251⟩,
   ⟨"windows-1253", ["cp1253", "windows-1253", "x-cp1253"], decodeBytes windows1253⟩,
   ⟨"windows-1254", ["cp1254", "csisolatin5", "iso-8859-9", "iso-ir-148", "iso8859-9",
      "iso88599", "iso_8859-9", "iso_8859-9:1989", "l5", "latin5", "windows-1254", "x-cp1254"],
    decodeBytes windows1254⟩,
   ⟨"windows-1255", ["cp1255", "windows-1255", "x-cp1255"], decodeBytes windows1255⟩,
   ⟨"windows-1256", ["cp1256", "windows-1256", "x-cp1256"], decodeBytes windows1256⟩,
   ⟨"windows-1257", ["cp1257", "windows-1257", "x-cp1257"], decodeBytes windows1257⟩,
   ⟨"windows-1258", ["cp1258", "windows-1258", "x-cp1258"], decodeBytes windows1258⟩,
   ⟨"x-mac-cyrillic", ["x-mac-cyrillic", "x-mac-ukrainian"], decodeBytes macCyrillic⟩,
   ⟨"x-user-defined", ["x-user-defined"], decodePrivate⟩]

/-- The encodings of Chinese, Japanese and Korean text. -/
def eastAsian : List Encoding :=
  [⟨"GBK", ["chinese", "csgb2312", "csiso58gb231280", "gb2312", "gb_2312", "gb_2312-80", "gbk",
      "iso-ir-58", "x-gbk"], Gb18030.decode⟩,
   ⟨"gb18030", ["gb18030"], Gb18030.decode⟩,
   ⟨"Big5", ["big5", "big5-hkscs", "cn-big5", "csbig5", "x-x-big5"], big5.decode⟩,
   ⟨"EUC-JP", ["cseucpkdfmtjapanese", "euc-jp", "x-euc-jp"], EucJp.decode⟩,
   ⟨"ISO-2022-JP", ["csiso2022jp", "iso-2022-jp"], Iso2022Jp.decode⟩,
   ⟨"Shift_JIS", ["csshiftjis", "ms932", "ms_kanji", "shift-jis", "shift_jis", "sjis",
      "windows-31j", "x-sjis"], shiftJis.decode⟩,
   ⟨"EUC-KR", ["cseuckr", "csksc56011987", "euc-kr", "iso-ir-149", "korean", "ks_c_5601-1987",
      "ks_c_5601-1989", "ksc5601", "ksc_5601", "windows-949"], eucKr.decode⟩]

/-- Encodings that are not decoded: whatever is there counts as malformed as a whole. -/
def refused : Encoding where
  name := "replacement"
  labels := ["csiso2022kr", "hz-gb-2312", "iso-2022-cn", "iso-2022-cn-ext", "iso-2022-kr",
    "replacement"]
  decode := fun bytes => if bytes.isEmpty then [] else [none]

/-- All encodings. -/
def all : List Encoding := [utf8, utf16le, utf16be, western, refused] ++ eastAsian ++ singleByte

/-- The encoding that a label names, in any case and with blanks around it. -/
def named? (label : String) : Option Encoding :=
  let wanted := .ofList ((Text.trim label.toList).map Char.toLower)
  all.find? fun encoding => encoding.labels.contains wanted

/-- The encoding that a byte order mark at the start tells, and the bytes after the mark. -/
def marked? (bytes : List UInt8) : Option (Encoding × List UInt8) :=
  match bytes with
  | 0xef :: 0xbb :: 0xbf :: rest => some (utf8, rest)
  | 0xff :: 0xfe :: rest => some (utf16le, rest)
  | 0xfe :: 0xff :: rest => some (utf16be, rest)
  | _ => none

/-- The encoding to take where there is no mark: that of the label, or UTF-8 if the label names
none. Without a label it is UTF-8 if the bytes are well-formed, and otherwise what they are guessed
to be in, or Western European text if the guess names no encoding. -/
def expected (label : Option String) (bytes : List UInt8) (guess : String) : Encoding :=
  match label with
  | some l => (named? l).getD utf8
  | none => if (Utf8.text? bytes).isSome then utf8 else (named? guess).getD western

/-- The text of bytes, and the encoding they are in. -/
def textOf (label : Option String) (bytes : List UInt8) (guess : String := "") :
    List Char × Encoding :=
  let (encoding, body) := (marked? bytes).getD (expected label bytes guess, bytes)
  (shown (encoding.decode body), encoding)

end Encoding

end RecordFix
