import RecordFix.Encoding.Decoder

/-!
# Encodings with one byte to a character

The bytes below 0x80 are ASCII. A table lists the characters of the others; where it has the
replacement character the byte has no meaning.
-/

namespace RecordFix.Encoding

/-- Decodes one byte by a table of the characters from 0x80 on. -/
def decodeByte (table : List Char) (byte : UInt8) : Option Char :=
  let b := byte.toNat
  if b < 0x80 then charOf b
  else (table[b - 0x80]?).filter (· != replacementChar)

/-- Decodes bytes by a table of the characters from 0x80 on. -/
def decodeBytes (table : String) (bytes : List UInt8) : Decoded :=
  bytes.map (decodeByte table.toList)

/-- IBM866: Cyrillic of DOS. -/
def ibm866 : String :=
  "АБВГДЕЖЗИЙКЛМНОП" ++
  "РСТУФХЦЧШЩЪЫЬЭЮЯ" ++
  "абвгдежзийклмноп" ++
  "░▒▓│┤╡╢╖╕╣║╗╝╜╛┐" ++
  "└┴┬├─┼╞╟╚╔╩╦╠═╬╧" ++
  "╨╤╥╙╘╒╓╫╪┘┌█▄▌▐▀" ++
  "рстуфхцчшщъыьэюя" ++
  "ЁёЄєЇїЎў°∙·√№¤■\u00a0"

/-- ISO-8859-2: Central European languages. -/
def latin2 : String :=
  "\x80\x81\x82\x83\x84\x85\x86\x87\x88\x89\x8a\x8b\x8c\x8d\x8e\x8f" ++
  "\x90\x91\x92\x93\x94\x95\x96\x97\x98\x99\x9a\x9b\x9c\x9d\x9e\x9f" ++
  "\u00a0Ą˘Ł¤ĽŚ§¨ŠŞŤŹ\u00adŽŻ" ++
  "°ą˛ł´ľśˇ¸šşťź˝žż" ++
  "ŔÁÂĂÄĹĆÇČÉĘËĚÍÎĎ" ++
  "ĐŃŇÓÔŐÖ×ŘŮÚŰÜÝŢß" ++
  "ŕáâăäĺćçčéęëěíîď" ++
  "đńňóôőö÷řůúűüýţ˙"

/-- ISO-8859-3: South European languages. -/
def latin3 : String :=
  "\x80\x81\x82\x83\x84\x85\x86\x87\x88\x89\x8a\x8b\x8c\x8d\x8e\x8f" ++
  "\x90\x91\x92\x93\x94\x95\x96\x97\x98\x99\x9a\x9b\x9c\x9d\x9e\x9f" ++
  "\u00a0Ħ˘£¤\ufffdĤ§¨İŞĞĴ\u00ad\ufffdŻ" ++
  "°ħ²³´µĥ·¸ışğĵ½\ufffdż" ++
  "ÀÁÂ\ufffdÄĊĈÇÈÉÊËÌÍÎÏ" ++
  "\ufffdÑÒÓÔĠÖ×ĜÙÚÛÜŬŜß" ++
  "àáâ\ufffdäċĉçèéêëìíîï" ++
  "\ufffdñòóôġö÷ĝùúûüŭŝ˙"

/-- ISO-8859-4: North European languages. -/
def latin4 : String :=
  "\x80\x81\x82\x83\x84\x85\x86\x87\x88\x89\x8a\x8b\x8c\x8d\x8e\x8f" ++
  "\x90\x91\x92\x93\x94\x95\x96\x97\x98\x99\x9a\x9b\x9c\x9d\x9e\x9f" ++
  "\u00a0ĄĸŖ¤ĨĻ§¨ŠĒĢŦ\u00adŽ¯" ++
  "°ą˛ŗ´ĩļˇ¸šēģŧŊžŋ" ++
  "ĀÁÂÃÄÅÆĮČÉĘËĖÍÎĪ" ++
  "ĐŅŌĶÔÕÖ×ØŲÚÛÜŨŪß" ++
  "āáâãäåæįčéęëėíîī" ++
  "đņōķôõö÷øųúûüũū˙"

/-- ISO-8859-5: Cyrillic. -/
def isoCyrillic : String :=
  "\x80\x81\x82\x83\x84\x85\x86\x87\x88\x89\x8a\x8b\x8c\x8d\x8e\x8f" ++
  "\x90\x91\x92\x93\x94\x95\x96\x97\x98\x99\x9a\x9b\x9c\x9d\x9e\x9f" ++
  "\u00a0ЁЂЃЄЅІЇЈЉЊЋЌ\u00adЎЏ" ++
  "АБВГДЕЖЗИЙКЛМНОП" ++
  "РСТУФХЦЧШЩЪЫЬЭЮЯ" ++
  "абвгдежзийклмноп" ++
  "рстуфхцчшщъыьэюя" ++
  "№ёђѓєѕіїјљњћќ§ўџ"

/-- ISO-8859-6: Arabic. -/
def isoArabic : String :=
  "\x80\x81\x82\x83\x84\x85\x86\x87\x88\x89\x8a\x8b\x8c\x8d\x8e\x8f" ++
  "\x90\x91\x92\x93\x94\x95\x96\x97\x98\x99\x9a\x9b\x9c\x9d\x9e\x9f" ++
  "\u00a0\ufffd\ufffd\ufffd¤\ufffd\ufffd\ufffd\ufffd\ufffd\ufffd\ufffd،\u00ad\ufffd\ufffd" ++
  "\ufffd\ufffd\ufffd\ufffd\ufffd\ufffd\ufffd\ufffd" ++
  "\ufffd\ufffd\ufffd\u061b\ufffd\ufffd\ufffd\u061f" ++
  "\ufffd\u0621\u0622\u0623\u0624\u0625\u0626\u0627" ++
  "\u0628\u0629\u062a\u062b\u062c\u062d\u062e\u062f" ++
  "\u0630\u0631\u0632\u0633\u0634\u0635\u0636\u0637" ++
  "\u0638\u0639\u063a\ufffd\ufffd\ufffd\ufffd\ufffd" ++
  "\u0640\u0641\u0642\u0643\u0644\u0645\u0646\u0647" ++
  "\u0648\u0649\u064a\u064b\u064c\u064d\u064e\u064f" ++
  "\u0650\u0651\u0652\ufffd\ufffd\ufffd\ufffd\ufffd\ufffd\ufffd\ufffd\ufffd\ufffd\ufffd\ufffd\ufffd"

/-- ISO-8859-7: Greek. -/
def isoGreek : String :=
  "\x80\x81\x82\x83\x84\x85\x86\x87\x88\x89\x8a\x8b\x8c\x8d\x8e\x8f" ++
  "\x90\x91\x92\x93\x94\x95\x96\x97\x98\x99\x9a\x9b\x9c\x9d\x9e\x9f" ++
  "\u00a0‘’£€₯¦§¨©ͺ«¬\u00ad\ufffd―" ++
  "°±²³΄΅Ά·ΈΉΊ»Ό½ΎΏ" ++
  "ΐΑΒΓΔΕΖΗΘΙΚΛΜΝΞΟ" ++
  "ΠΡ\ufffdΣΤΥΦΧΨΩΪΫάέήί" ++
  "ΰαβγδεζηθικλμνξο" ++
  "πρςστυφχψωϊϋόύώ\ufffd"

/-- ISO-8859-8: Hebrew. -/
def isoHebrew : String :=
  "\x80\x81\x82\x83\x84\x85\x86\x87\x88\x89\x8a\x8b\x8c\x8d\x8e\x8f" ++
  "\x90\x91\x92\x93\x94\x95\x96\x97\x98\x99\x9a\x9b\x9c\x9d\x9e\x9f" ++
  "\u00a0\ufffd¢£¤¥¦§¨©×«¬\u00ad®¯" ++
  "°±²³´µ¶·¸¹÷»¼½¾\ufffd" ++
  "\ufffd\ufffd\ufffd\ufffd\ufffd\ufffd\ufffd\ufffd" ++
  "\ufffd\ufffd\ufffd\ufffd\ufffd\ufffd\ufffd\ufffd" ++
  "\ufffd\ufffd\ufffd\ufffd\ufffd\ufffd\ufffd\ufffd\ufffd\ufffd\ufffd\ufffd\ufffd\ufffd\ufffd‗" ++
  "\u05d0\u05d1\u05d2\u05d3\u05d4\u05d5\u05d6\u05d7" ++
  "\u05d8\u05d9\u05da\u05db\u05dc\u05dd\u05de\u05df" ++
  "\u05e0\u05e1\u05e2\u05e3\u05e4\u05e5\u05e6\u05e7\u05e8\u05e9\u05ea\ufffd\ufffd\u200e\u200f\ufffd"

/-- ISO-8859-10: Nordic languages. -/
def latin6 : String :=
  "\x80\x81\x82\x83\x84\x85\x86\x87\x88\x89\x8a\x8b\x8c\x8d\x8e\x8f" ++
  "\x90\x91\x92\x93\x94\x95\x96\x97\x98\x99\x9a\x9b\x9c\x9d\x9e\x9f" ++
  "\u00a0ĄĒĢĪĨĶ§ĻĐŠŦŽ\u00adŪŊ" ++
  "°ąēģīĩķ·ļđšŧž―ūŋ" ++
  "ĀÁÂÃÄÅÆĮČÉĘËĖÍÎÏ" ++
  "ÐŅŌÓÔÕÖŨØŲÚÛÜÝÞß" ++
  "āáâãäåæįčéęëėíîï" ++
  "ðņōóôõöũøųúûüýþĸ"

/-- ISO-8859-13: Baltic languages. -/
def latin7 : String :=
  "\x80\x81\x82\x83\x84\x85\x86\x87\x88\x89\x8a\x8b\x8c\x8d\x8e\x8f" ++
  "\x90\x91\x92\x93\x94\x95\x96\x97\x98\x99\x9a\x9b\x9c\x9d\x9e\x9f" ++
  "\u00a0”¢£¤„¦§Ø©Ŗ«¬\u00ad®Æ" ++
  "°±²³“µ¶·ø¹ŗ»¼½¾æ" ++
  "ĄĮĀĆÄÅĘĒČÉŹĖĢĶĪĻ" ++
  "ŠŃŅÓŌÕÖ×ŲŁŚŪÜŻŽß" ++
  "ąįāćäåęēčéźėģķīļ" ++
  "šńņóōõö÷ųłśūüżž’"

/-- ISO-8859-14: Celtic languages. -/
def latin8 : String :=
  "\x80\x81\x82\x83\x84\x85\x86\x87\x88\x89\x8a\x8b\x8c\x8d\x8e\x8f" ++
  "\x90\x91\x92\x93\x94\x95\x96\x97\x98\x99\x9a\x9b\x9c\x9d\x9e\x9f" ++
  "\u00a0Ḃḃ£ĊċḊ§Ẁ©ẂḋỲ\u00ad®Ÿ" ++
  "ḞḟĠġṀṁ¶ṖẁṗẃṠỳẄẅṡ" ++
  "ÀÁÂÃÄÅÆÇÈÉÊËÌÍÎÏ" ++
  "ŴÑÒÓÔÕÖṪØÙÚÛÜÝŶß" ++
  "àáâãäåæçèéêëìíîï" ++
  "ŵñòóôõöṫøùúûüýŷÿ"

/-- ISO-8859-15: Western European languages with the euro. -/
def latin9 : String :=
  "\x80\x81\x82\x83\x84\x85\x86\x87\x88\x89\x8a\x8b\x8c\x8d\x8e\x8f" ++
  "\x90\x91\x92\x93\x94\x95\x96\x97\x98\x99\x9a\x9b\x9c\x9d\x9e\x9f" ++
  "\u00a0¡¢£€¥Š§š©ª«¬\u00ad®¯" ++
  "°±²³Žµ¶·ž¹º»ŒœŸ¿" ++
  "ÀÁÂÃÄÅÆÇÈÉÊËÌÍÎÏ" ++
  "ÐÑÒÓÔÕÖ×ØÙÚÛÜÝÞß" ++
  "àáâãäåæçèéêëìíîï" ++
  "ðñòóôõö÷øùúûüýþÿ"

/-- ISO-8859-16: South-Eastern European languages. -/
def latin10 : String :=
  "\x80\x81\x82\x83\x84\x85\x86\x87\x88\x89\x8a\x8b\x8c\x8d\x8e\x8f" ++
  "\x90\x91\x92\x93\x94\x95\x96\x97\x98\x99\x9a\x9b\x9c\x9d\x9e\x9f" ++
  "\u00a0ĄąŁ€„Š§š©Ș«Ź\u00adźŻ" ++
  "°±ČłŽ”¶·žčș»ŒœŸż" ++
  "ÀÁÂĂÄĆÆÇÈÉÊËÌÍÎÏ" ++
  "ĐŃÒÓÔŐÖŚŰÙÚÛÜĘȚß" ++
  "àáâăäćæçèéêëìíîï" ++
  "đńòóôőöśűùúûüęțÿ"

/-- KOI8-R: Russian. -/
def koi8R : String :=
  "─│┌┐└┘├┤┬┴┼▀▄█▌▐" ++
  "░▒▓⌠■∙√≈≤≥\u00a0⌡°²·÷" ++
  "═║╒ё╓╔╕╖╗╘╙╚╛╜╝╞" ++
  "╟╠╡Ё╢╣╤╥╦╧╨╩╪╫╬©" ++
  "юабцдефгхийклмно" ++
  "пярстужвьызшэщчъ" ++
  "ЮАБЦДЕФГХИЙКЛМНО" ++
  "ПЯРСТУЖВЬЫЗШЭЩЧЪ"

/-- KOI8-U: Ukrainian. -/
def koi8U : String :=
  "─│┌┐└┘├┤┬┴┼▀▄█▌▐" ++
  "░▒▓⌠■∙√≈≤≥\u00a0⌡°²·÷" ++
  "═║╒ёє╔ії╗╘╙╚╛ґў╞" ++
  "╟╠╡ЁЄ╣ІЇ╦╧╨╩╪ҐЎ©" ++
  "юабцдефгхийклмно" ++
  "пярстужвьызшэщчъ" ++
  "ЮАБЦДЕФГХИЙКЛМНО" ++
  "ПЯРСТУЖВЬЫЗШЭЩЧЪ"

/-- macintosh: Western European languages on the Macintosh. -/
def macRoman : String :=
  "ÄÅÇÉÑÖÜáàâäãåçéè" ++
  "êëíìîïñóòôöõúùûü" ++
  "†°¢£§•¶ß®©™´¨≠ÆØ" ++
  "∞±≤≥¥µ∂∑∏π∫ªºΩæø" ++
  "¿¡¬√ƒ≈∆«»…\u00a0ÀÃÕŒœ" ++
  "–—“”‘’÷◊ÿŸ⁄€‹›ﬁﬂ" ++
  "‡·‚„‰ÂÊÁËÈÍÎÏÌÓÔ" ++
  "\uf8ffÒÚÛÙıˆ˜¯˘˙˚¸˝˛ˇ"

/-- windows-874: Thai. -/
def windows874 : String :=
  "€\x81\x82\x83\x84…\x86\x87\x88\x89\x8a\x8b\x8c\x8d\x8e\x8f" ++
  "\x90‘’“”•–—\x98\x99\x9a\x9b\x9c\x9d\x9e\x9f" ++
  "\u00a0กขฃคฅฆงจฉชซฌญฎฏ" ++
  "ฐฑฒณดตถทธนบปผฝพฟ" ++
  "ภมยรฤลฦวศษสหฬอฮฯ" ++
  "ะ\u0e31าำ\u0e34\u0e35\u0e36\u0e37\u0e38\u0e39\u0e3a\ufffd\ufffd\ufffd\ufffd฿" ++
  "เแโใไๅๆ\u0e47\u0e48\u0e49\u0e4a\u0e4b\u0e4c\u0e4d\u0e4e๏" ++
  "๐๑๒๓๔๕๖๗๘๙๚๛\ufffd\ufffd\ufffd\ufffd"

/-- windows-1250: Central European languages. -/
def windows1250 : String :=
  "€\x81‚\x83„…†‡\x88‰Š‹ŚŤŽŹ" ++
  "\x90‘’“”•–—\x98™š›śťžź" ++
  "\u00a0ˇ˘Ł¤Ą¦§¨©Ş«¬\u00ad®Ż" ++
  "°±˛ł´µ¶·¸ąş»Ľ˝ľż" ++
  "ŔÁÂĂÄĹĆÇČÉĘËĚÍÎĎ" ++
  "ĐŃŇÓÔŐÖ×ŘŮÚŰÜÝŢß" ++
  "ŕáâăäĺćçčéęëěíîď" ++
  "đńňóôőö÷řůúűüýţ˙"

/-- windows-1251: Cyrillic. -/
def windows1251 : String :=
  "ЂЃ‚ѓ„…†‡€‰Љ‹ЊЌЋЏ" ++
  "ђ‘’“”•–—\x98™љ›њќћџ" ++
  "\u00a0ЎўЈ¤Ґ¦§Ё©Є«¬\u00ad®Ї" ++
  "°±Ііґµ¶·ё№є»јЅѕї" ++
  "АБВГДЕЖЗИЙКЛМНОП" ++
  "РСТУФХЦЧШЩЪЫЬЭЮЯ" ++
  "абвгдежзийклмноп" ++
  "рстуфхцчшщъыьэюя"

/-- windows-1252: Western European languages. -/
def windows1252 : String :=
  "€\x81‚ƒ„…†‡ˆ‰Š‹Œ\x8dŽ\x8f" ++
  "\x90‘’“”•–—˜™š›œ\x9džŸ" ++
  "\u00a0¡¢£¤¥¦§¨©ª«¬\u00ad®¯" ++
  "°±²³´µ¶·¸¹º»¼½¾¿" ++
  "ÀÁÂÃÄÅÆÇÈÉÊËÌÍÎÏ" ++
  "ÐÑÒÓÔÕÖ×ØÙÚÛÜÝÞß" ++
  "àáâãäåæçèéêëìíîï" ++
  "ðñòóôõö÷øùúûüýþÿ"

/-- windows-1253: Greek. -/
def windows1253 : String :=
  "€\x81‚ƒ„…†‡\x88‰\x8a‹\x8c\x8d\x8e\x8f" ++
  "\x90‘’“”•–—\x98™\x9a›\x9c\x9d\x9e\x9f" ++
  "\u00a0΅Ά£¤¥¦§¨©\ufffd«¬\u00ad®―" ++
  "°±²³΄µ¶·ΈΉΊ»Ό½ΎΏ" ++
  "ΐΑΒΓΔΕΖΗΘΙΚΛΜΝΞΟ" ++
  "ΠΡ\ufffdΣΤΥΦΧΨΩΪΫάέήί" ++
  "ΰαβγδεζηθικλμνξο" ++
  "πρςστυφχψωϊϋόύώ\ufffd"

/-- windows-1254: Turkish. -/
def windows1254 : String :=
  "€\x81‚ƒ„…†‡ˆ‰Š‹Œ\x8d\x8e\x8f" ++
  "\x90‘’“”•–—˜™š›œ\x9d\x9eŸ" ++
  "\u00a0¡¢£¤¥¦§¨©ª«¬\u00ad®¯" ++
  "°±²³´µ¶·¸¹º»¼½¾¿" ++
  "ÀÁÂÃÄÅÆÇÈÉÊËÌÍÎÏ" ++
  "ĞÑÒÓÔÕÖ×ØÙÚÛÜİŞß" ++
  "àáâãäåæçèéêëìíîï" ++
  "ğñòóôõö÷øùúûüışÿ"

/-- windows-1255: Hebrew. -/
def windows1255 : String :=
  "€\x81‚ƒ„…†‡ˆ‰\x8a‹\x8c\x8d\x8e\x8f" ++
  "\x90‘’“”•–—˜™\x9a›\x9c\x9d\x9e\x9f" ++
  "\u00a0¡¢£₪¥¦§¨©×«¬\u00ad®¯" ++
  "°±²³´µ¶·¸¹÷»¼½¾¿" ++
  "\u05b0\u05b1\u05b2\u05b3\u05b4\u05b5\u05b6\u05b7" ++
  "\u05b8\u05b9\u05ba\u05bb\u05bc\u05bd\u05be\u05bf" ++
  "\u05c0\u05c1\u05c2\u05c3\u05f0\u05f1\u05f2\u05f3" ++
  "\u05f4\ufffd\ufffd\ufffd\ufffd\ufffd\ufffd\ufffd" ++
  "\u05d0\u05d1\u05d2\u05d3\u05d4\u05d5\u05d6\u05d7" ++
  "\u05d8\u05d9\u05da\u05db\u05dc\u05dd\u05de\u05df" ++
  "\u05e0\u05e1\u05e2\u05e3\u05e4\u05e5\u05e6\u05e7\u05e8\u05e9\u05ea\ufffd\ufffd\u200e\u200f\ufffd"

/-- windows-1256: Arabic. -/
def windows1256 : String :=
  "€\u067e‚ƒ„…†‡ˆ‰\u0679‹Œ\u0686\u0698\u0688" ++
  "\u06af‘’“”•–—\u06a9™\u0691›œ\u200c\u200d\u06ba" ++
  "\u00a0،¢£¤¥¦§¨©\u06be«¬\u00ad®¯" ++
  "°±²³´µ¶·¸¹\u061b»¼½¾\u061f" ++
  "\u06c1\u0621\u0622\u0623\u0624\u0625\u0626\u0627" ++
  "\u0628\u0629\u062a\u062b\u062c\u062d\u062e\u062f" ++
  "\u0630\u0631\u0632\u0633\u0634\u0635\u0636×\u0637\u0638\u0639\u063a\u0640\u0641\u0642\u0643" ++
  "à\u0644â\u0645\u0646\u0647\u0648çèéêë\u0649\u064aîï" ++
  "\u064b\u064c\u064d\u064eô\u064f\u0650÷\u0651ù\u0652ûü\u200e\u200f\u06d2"

/-- windows-1257: Baltic languages. -/
def windows1257 : String :=
  "€\x81‚\x83„…†‡\x88‰\x8a‹\x8c¨ˇ¸" ++
  "\x90‘’“”•–—\x98™\x9a›\x9c¯˛\x9f" ++
  "\u00a0\ufffd¢£¤\ufffd¦§Ø©Ŗ«¬\u00ad®Æ" ++
  "°±²³´µ¶·ø¹ŗ»¼½¾æ" ++
  "ĄĮĀĆÄÅĘĒČÉŹĖĢĶĪĻ" ++
  "ŠŃŅÓŌÕÖ×ŲŁŚŪÜŻŽß" ++
  "ąįāćäåęēčéźėģķīļ" ++
  "šńņóōõö÷ųłśūüżž˙"

/-- windows-1258: Vietnamese. -/
def windows1258 : String :=
  "€\x81‚ƒ„…†‡ˆ‰\x8a‹Œ\x8d\x8e\x8f" ++
  "\x90‘’“”•–—˜™\x9a›œ\x9d\x9eŸ" ++
  "\u00a0¡¢£¤¥¦§¨©ª«¬\u00ad®¯" ++
  "°±²³´µ¶·¸¹º»¼½¾¿" ++
  "ÀÁÂĂÄÅÆÇÈÉÊË\u0300ÍÎÏ" ++
  "ĐÑ\u0309ÓÔƠÖ×ØÙÚÛÜƯ\u0303ß" ++
  "àáâăäåæçèéêë\u0301íîï" ++
  "đñ\u0323óôơö÷øùúûüư₫ÿ"

/-- x-mac-cyrillic: Cyrillic on the Macintosh. -/
def macCyrillic : String :=
  "АБВГДЕЖЗИЙКЛМНОП" ++
  "РСТУФХЦЧШЩЪЫЬЭЮЯ" ++
  "†°Ґ£§•¶І®©™Ђђ≠Ѓѓ" ++
  "∞±≤≥іµґЈЄєЇїЉљЊњ" ++
  "јЅ¬√ƒ≈∆«»…\u00a0ЋћЌќѕ" ++
  "–—“”‘’÷„ЎўЏџ№Ёёя" ++
  "абвгдежзийклмноп" ++
  "рстуфхцчшщъыьэю€"

/-- The bytes from 0x80 on as a block of private characters. -/
def decodePrivate (bytes : List UInt8) : Decoded :=
  bytes.map fun byte =>
    charOf (if byte.toNat < 0x80 then byte.toNat else 0xf700 + byte.toNat)

end RecordFix.Encoding
