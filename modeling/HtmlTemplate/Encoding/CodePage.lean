/-!
# Single-byte encodings

A `CodePage` gives a character to each byte from `0x80` on; the bytes below are ASCII. The pages are
those that web pages may declare, with the character U+FFFD at the bytes that stand for nothing.
-/

namespace HtmlTemplate.Encoding

/-- A single-byte encoding: its name, and the characters of the bytes `0x80` to `0xFF` in order. -/
structure CodePage where
  name : String
  upperHalf : String
  deriving DecidableEq

namespace CodePage

/-- Cyrillic for personal computers. -/
def ibm866 : CodePage where
  name := "IBM866"
  upperHalf :=
      "АБВГДЕЖЗИЙКЛМНОП" ++
      "РСТУФХЦЧШЩЪЫЬЭЮЯ" ++
      "абвгдежзийклмноп" ++
      "░▒▓│┤╡╢╖╕╣║╗╝╜╛┐" ++
      "└┴┬├─┼╞╟╚╔╩╦╠═╬╧" ++
      "╨╤╥╙╘╒╓╫╪┘┌█▄▌▐▀" ++
      "рстуфхцчшщъыьэюя" ++
      "ЁёЄєЇїЎў°∙·√№¤■\xa0"

/-- Central European (part 2). -/
def iso8859x2 : CodePage where
  name := "ISO-8859-2"
  upperHalf :=
      "\x80\x81\x82\x83\x84\x85\x86\x87\x88\x89\x8a\x8b\x8c\x8d\x8e\x8f" ++
      "\x90\x91\x92\x93\x94\x95\x96\x97\x98\x99\x9a\x9b\x9c\x9d\x9e\x9f" ++
      "\xa0Ą˘Ł¤ĽŚ§¨ŠŞŤŹ\xadŽŻ" ++
      "°ą˛ł´ľśˇ¸šşťź˝žż" ++
      "ŔÁÂĂÄĹĆÇČÉĘËĚÍÎĎ" ++
      "ĐŃŇÓÔŐÖ×ŘŮÚŰÜÝŢß" ++
      "ŕáâăäĺćçčéęëěíîď" ++
      "đńňóôőö÷řůúűüýţ˙"

/-- South European (part 3). -/
def iso8859x3 : CodePage where
  name := "ISO-8859-3"
  upperHalf :=
      "\x80\x81\x82\x83\x84\x85\x86\x87\x88\x89\x8a\x8b\x8c\x8d\x8e\x8f" ++
      "\x90\x91\x92\x93\x94\x95\x96\x97\x98\x99\x9a\x9b\x9c\x9d\x9e\x9f" ++
      "\xa0Ħ˘£¤\ufffdĤ§¨İŞĞĴ\xad\ufffdŻ" ++
      "°ħ²³´µĥ·¸ışğĵ½\ufffdż" ++
      "ÀÁÂ\ufffdÄĊĈÇÈÉÊËÌÍÎÏ" ++
      "\ufffdÑÒÓÔĠÖ×ĜÙÚÛÜŬŜß" ++
      "àáâ\ufffdäċĉçèéêëìíîï" ++
      "\ufffdñòóôġö÷ĝùúûüŭŝ˙"

/-- North European (part 4). -/
def iso8859x4 : CodePage where
  name := "ISO-8859-4"
  upperHalf :=
      "\x80\x81\x82\x83\x84\x85\x86\x87\x88\x89\x8a\x8b\x8c\x8d\x8e\x8f" ++
      "\x90\x91\x92\x93\x94\x95\x96\x97\x98\x99\x9a\x9b\x9c\x9d\x9e\x9f" ++
      "\xa0ĄĸŖ¤ĨĻ§¨ŠĒĢŦ\xadŽ¯" ++
      "°ą˛ŗ´ĩļˇ¸šēģŧŊžŋ" ++
      "ĀÁÂÃÄÅÆĮČÉĘËĖÍÎĪ" ++
      "ĐŅŌĶÔÕÖ×ØŲÚÛÜŨŪß" ++
      "āáâãäåæįčéęëėíîī" ++
      "đņōķôõö÷øųúûüũū˙"

/-- Cyrillic (part 5). -/
def iso8859x5 : CodePage where
  name := "ISO-8859-5"
  upperHalf :=
      "\x80\x81\x82\x83\x84\x85\x86\x87\x88\x89\x8a\x8b\x8c\x8d\x8e\x8f" ++
      "\x90\x91\x92\x93\x94\x95\x96\x97\x98\x99\x9a\x9b\x9c\x9d\x9e\x9f" ++
      "\xa0ЁЂЃЄЅІЇЈЉЊЋЌ\xadЎЏ" ++
      "АБВГДЕЖЗИЙКЛМНОП" ++
      "РСТУФХЦЧШЩЪЫЬЭЮЯ" ++
      "абвгдежзийклмноп" ++
      "рстуфхцчшщъыьэюя" ++
      "№ёђѓєѕіїјљњћќ§ўџ"

/-- Arabic (part 6). -/
def iso8859x6 : CodePage where
  name := "ISO-8859-6"
  upperHalf :=
      "\x80\x81\x82\x83\x84\x85\x86\x87\x88\x89\x8a\x8b\x8c\x8d\x8e\x8f" ++
      "\x90\x91\x92\x93\x94\x95\x96\x97\x98\x99\x9a\x9b\x9c\x9d\x9e\x9f" ++
      "\xa0\ufffd\ufffd\ufffd¤\ufffd\ufffd\ufffd\ufffd\ufffd\ufffd\ufffd،\xad\ufffd\ufffd" ++
      "\ufffd\ufffd\ufffd\ufffd\ufffd\ufffd\ufffd\ufffd\ufffd\ufffd\ufffd؛\ufffd\ufffd\ufffd؟" ++
      "\ufffdءآأؤإئابةتثجحخد" ++
      "ذرزسشصضطظعغ\ufffd\ufffd\ufffd\ufffd\ufffd" ++
      "ـفقكلمنهوىيًٌٍَُ" ++
      "ِّْ\ufffd\ufffd\ufffd\ufffd\ufffd\ufffd\ufffd\ufffd\ufffd\ufffd\ufffd\ufffd\ufffd"

/-- Greek (part 7). -/
def iso8859x7 : CodePage where
  name := "ISO-8859-7"
  upperHalf :=
      "\x80\x81\x82\x83\x84\x85\x86\x87\x88\x89\x8a\x8b\x8c\x8d\x8e\x8f" ++
      "\x90\x91\x92\x93\x94\x95\x96\x97\x98\x99\x9a\x9b\x9c\x9d\x9e\x9f" ++
      "\xa0‘’£€₯¦§¨©ͺ«¬\xad\ufffd―" ++
      "°±²³΄΅Ά·ΈΉΊ»Ό½ΎΏ" ++
      "ΐΑΒΓΔΕΖΗΘΙΚΛΜΝΞΟ" ++
      "ΠΡ\ufffdΣΤΥΦΧΨΩΪΫάέήί" ++
      "ΰαβγδεζηθικλμνξο" ++
      "πρςστυφχψωϊϋόύώ\ufffd"

/-- Hebrew in visual order (part 8). -/
def iso8859x8 : CodePage where
  name := "ISO-8859-8"
  upperHalf :=
      "\x80\x81\x82\x83\x84\x85\x86\x87\x88\x89\x8a\x8b\x8c\x8d\x8e\x8f" ++
      "\x90\x91\x92\x93\x94\x95\x96\x97\x98\x99\x9a\x9b\x9c\x9d\x9e\x9f" ++
      "\xa0\ufffd¢£¤¥¦§¨©×«¬\xad®¯" ++
      "°±²³´µ¶·¸¹÷»¼½¾\ufffd" ++
      "\ufffd\ufffd\ufffd\ufffd\ufffd\ufffd\ufffd\ufffd" ++
      "\ufffd\ufffd\ufffd\ufffd\ufffd\ufffd\ufffd\ufffd" ++
      "\ufffd\ufffd\ufffd\ufffd\ufffd\ufffd\ufffd\ufffd" ++
      "\ufffd\ufffd\ufffd\ufffd\ufffd\ufffd\ufffd‗" ++
      "\u05d0\u05d1\u05d2\u05d3\u05d4\u05d5\u05d6\u05d7" ++
      "\u05d8\u05d9\u05da\u05db\u05dc\u05dd\u05de\u05df" ++
      "\u05e0\u05e1\u05e2\u05e3\u05e4\u05e5\u05e6\u05e7" ++
      "\u05e8\u05e9\u05ea\ufffd\ufffd\u200e\u200f\ufffd"

/-- Hebrew in logical order, with the characters of part 8. -/
def iso8859x8i : CodePage := { iso8859x8 with name := "ISO-8859-8-I" }

/-- Nordic (part 10). -/
def iso8859x10 : CodePage where
  name := "ISO-8859-10"
  upperHalf :=
      "\x80\x81\x82\x83\x84\x85\x86\x87\x88\x89\x8a\x8b\x8c\x8d\x8e\x8f" ++
      "\x90\x91\x92\x93\x94\x95\x96\x97\x98\x99\x9a\x9b\x9c\x9d\x9e\x9f" ++
      "\xa0ĄĒĢĪĨĶ§ĻĐŠŦŽ\xadŪŊ" ++
      "°ąēģīĩķ·ļđšŧž―ūŋ" ++
      "ĀÁÂÃÄÅÆĮČÉĘËĖÍÎÏ" ++
      "ÐŅŌÓÔÕÖŨØŲÚÛÜÝÞß" ++
      "āáâãäåæįčéęëėíîï" ++
      "ðņōóôõöũøųúûüýþĸ"

/-- Baltic (part 13). -/
def iso8859x13 : CodePage where
  name := "ISO-8859-13"
  upperHalf :=
      "\x80\x81\x82\x83\x84\x85\x86\x87\x88\x89\x8a\x8b\x8c\x8d\x8e\x8f" ++
      "\x90\x91\x92\x93\x94\x95\x96\x97\x98\x99\x9a\x9b\x9c\x9d\x9e\x9f" ++
      "\xa0”¢£¤„¦§Ø©Ŗ«¬\xad®Æ" ++
      "°±²³“µ¶·ø¹ŗ»¼½¾æ" ++
      "ĄĮĀĆÄÅĘĒČÉŹĖĢĶĪĻ" ++
      "ŠŃŅÓŌÕÖ×ŲŁŚŪÜŻŽß" ++
      "ąįāćäåęēčéźėģķīļ" ++
      "šńņóōõö÷ųłśūüżž’"

/-- Celtic (part 14). -/
def iso8859x14 : CodePage where
  name := "ISO-8859-14"
  upperHalf :=
      "\x80\x81\x82\x83\x84\x85\x86\x87\x88\x89\x8a\x8b\x8c\x8d\x8e\x8f" ++
      "\x90\x91\x92\x93\x94\x95\x96\x97\x98\x99\x9a\x9b\x9c\x9d\x9e\x9f" ++
      "\xa0Ḃḃ£ĊċḊ§Ẁ©ẂḋỲ\xad®Ÿ" ++
      "ḞḟĠġṀṁ¶ṖẁṗẃṠỳẄẅṡ" ++
      "ÀÁÂÃÄÅÆÇÈÉÊËÌÍÎÏ" ++
      "ŴÑÒÓÔÕÖṪØÙÚÛÜÝŶß" ++
      "àáâãäåæçèéêëìíîï" ++
      "ŵñòóôõöṫøùúûüýŷÿ"

/-- Western European with the euro sign (part 15). -/
def iso8859x15 : CodePage where
  name := "ISO-8859-15"
  upperHalf :=
      "\x80\x81\x82\x83\x84\x85\x86\x87\x88\x89\x8a\x8b\x8c\x8d\x8e\x8f" ++
      "\x90\x91\x92\x93\x94\x95\x96\x97\x98\x99\x9a\x9b\x9c\x9d\x9e\x9f" ++
      "\xa0¡¢£€¥Š§š©ª«¬\xad®¯" ++
      "°±²³Žµ¶·ž¹º»ŒœŸ¿" ++
      "ÀÁÂÃÄÅÆÇÈÉÊËÌÍÎÏ" ++
      "ÐÑÒÓÔÕÖ×ØÙÚÛÜÝÞß" ++
      "àáâãäåæçèéêëìíîï" ++
      "ðñòóôõö÷øùúûüýþÿ"

/-- South-Eastern European (part 16). -/
def iso8859x16 : CodePage where
  name := "ISO-8859-16"
  upperHalf :=
      "\x80\x81\x82\x83\x84\x85\x86\x87\x88\x89\x8a\x8b\x8c\x8d\x8e\x8f" ++
      "\x90\x91\x92\x93\x94\x95\x96\x97\x98\x99\x9a\x9b\x9c\x9d\x9e\x9f" ++
      "\xa0ĄąŁ€„Š§š©Ș«Ź\xadźŻ" ++
      "°±ČłŽ”¶·žčș»ŒœŸż" ++
      "ÀÁÂĂÄĆÆÇÈÉÊËÌÍÎÏ" ++
      "ĐŃÒÓÔŐÖŚŰÙÚÛÜĘȚß" ++
      "àáâăäćæçèéêëìíîï" ++
      "đńòóôőöśűùúûüęțÿ"

/-- Russian in the order of Latin letters. -/
def koi8r : CodePage where
  name := "KOI8-R"
  upperHalf :=
      "─│┌┐└┘├┤┬┴┼▀▄█▌▐" ++
      "░▒▓⌠■∙√≈≤≥\xa0⌡°²·÷" ++
      "═║╒ё╓╔╕╖╗╘╙╚╛╜╝╞" ++
      "╟╠╡Ё╢╣╤╥╦╧╨╩╪╫╬©" ++
      "юабцдефгхийклмно" ++
      "пярстужвьызшэщчъ" ++
      "ЮАБЦДЕФГХИЙКЛМНО" ++
      "ПЯРСТУЖВЬЫЗШЭЩЧЪ"

/-- Ukrainian in the order of Latin letters. -/
def koi8u : CodePage where
  name := "KOI8-U"
  upperHalf :=
      "─│┌┐└┘├┤┬┴┼▀▄█▌▐" ++
      "░▒▓⌠■∙√≈≤≥\xa0⌡°²·÷" ++
      "═║╒ёє╔ії╗╘╙╚╛ґў╞" ++
      "╟╠╡ЁЄ╣ІЇ╦╧╨╩╪ҐЎ©" ++
      "юабцдефгхийклмно" ++
      "пярстужвьызшэщчъ" ++
      "ЮАБЦДЕФГХИЙКЛМНО" ++
      "ПЯРСТУЖВЬЫЗШЭЩЧЪ"

/-- Western European for the Macintosh. -/
def macintosh : CodePage where
  name := "macintosh"
  upperHalf :=
      "ÄÅÇÉÑÖÜáàâäãåçéè" ++
      "êëíìîïñóòôöõúùûü" ++
      "†°¢£§•¶ß®©™´¨≠ÆØ" ++
      "∞±≤≥¥µ∂∑∏π∫ªºΩæø" ++
      "¿¡¬√ƒ≈∆«»…\xa0ÀÃÕŒœ" ++
      "–—“”‘’÷◊ÿŸ⁄€‹›ﬁﬂ" ++
      "‡·‚„‰ÂÊÁËÈÍÎÏÌÓÔ" ++
      "\uf8ffÒÚÛÙıˆ˜¯˘˙˚¸˝˛ˇ"

/-- Thai. -/
def windows874 : CodePage where
  name := "windows-874"
  upperHalf :=
      "€\x81\x82\x83\x84…\x86\x87\x88\x89\x8a\x8b\x8c\x8d\x8e\x8f" ++
      "\x90‘’“”•–—\x98\x99\x9a\x9b\x9c\x9d\x9e\x9f" ++
      "\xa0กขฃคฅฆงจฉชซฌญฎฏ" ++
      "ฐฑฒณดตถทธนบปผฝพฟ" ++
      "ภมยรฤลฦวศษสหฬอฮฯ" ++
      "ะ\u0e31\u0e32\u0e33\u0e34\u0e35\u0e36\u0e37\u0e38\u0e39\u0e3a\ufffd\ufffd\ufffd\ufffd฿" ++
      "เแโใไๅๆ\u0e47\u0e48\u0e49\u0e4a\u0e4b\u0e4c\u0e4d\u0e4e๏" ++
      "๐๑๒๓๔๕๖๗๘๙๚๛\ufffd\ufffd\ufffd\ufffd"

/-- Central European. -/
def windows1250 : CodePage where
  name := "windows-1250"
  upperHalf :=
      "€\x81‚\x83„…†‡\x88‰Š‹ŚŤŽŹ" ++
      "\x90‘’“”•–—\x98™š›śťžź" ++
      "\xa0ˇ˘Ł¤Ą¦§¨©Ş«¬\xad®Ż" ++
      "°±˛ł´µ¶·¸ąş»Ľ˝ľż" ++
      "ŔÁÂĂÄĹĆÇČÉĘËĚÍÎĎ" ++
      "ĐŃŇÓÔŐÖ×ŘŮÚŰÜÝŢß" ++
      "ŕáâăäĺćçčéęëěíîď" ++
      "đńňóôőö÷řůúűüýţ˙"

/-- Cyrillic. -/
def windows1251 : CodePage where
  name := "windows-1251"
  upperHalf :=
      "ЂЃ‚ѓ„…†‡€‰Љ‹ЊЌЋЏ" ++
      "ђ‘’“”•–—\x98™љ›њќћџ" ++
      "\xa0ЎўЈ¤Ґ¦§Ё©Є«¬\xad®Ї" ++
      "°±Ііґµ¶·ё№є»јЅѕї" ++
      "АБВГДЕЖЗИЙКЛМНОП" ++
      "РСТУФХЦЧШЩЪЫЬЭЮЯ" ++
      "абвгдежзийклмноп" ++
      "рстуфхцчшщъыьэюя"

/-- Western European, the default of the web. -/
def windows1252 : CodePage where
  name := "windows-1252"
  upperHalf :=
      "€\x81‚ƒ„…†‡ˆ‰Š‹Œ\x8dŽ\x8f" ++
      "\x90‘’“”•–—˜™š›œ\x9džŸ" ++
      "\xa0¡¢£¤¥¦§¨©ª«¬\xad®¯" ++
      "°±²³´µ¶·¸¹º»¼½¾¿" ++
      "ÀÁÂÃÄÅÆÇÈÉÊËÌÍÎÏ" ++
      "ÐÑÒÓÔÕÖ×ØÙÚÛÜÝÞß" ++
      "àáâãäåæçèéêëìíîï" ++
      "ðñòóôõö÷øùúûüýþÿ"

/-- Greek. -/
def windows1253 : CodePage where
  name := "windows-1253"
  upperHalf :=
      "€\x81‚ƒ„…†‡\x88‰\x8a‹\x8c\x8d\x8e\x8f" ++
      "\x90‘’“”•–—\x98™\x9a›\x9c\x9d\x9e\x9f" ++
      "\xa0΅Ά£¤¥¦§¨©\ufffd«¬\xad®―" ++
      "°±²³΄µ¶·ΈΉΊ»Ό½ΎΏ" ++
      "ΐΑΒΓΔΕΖΗΘΙΚΛΜΝΞΟ" ++
      "ΠΡ\ufffdΣΤΥΦΧΨΩΪΫάέήί" ++
      "ΰαβγδεζηθικλμνξο" ++
      "πρςστυφχψωϊϋόύώ\ufffd"

/-- Turkish. -/
def windows1254 : CodePage where
  name := "windows-1254"
  upperHalf :=
      "€\x81‚ƒ„…†‡ˆ‰Š‹Œ\x8d\x8e\x8f" ++
      "\x90‘’“”•–—˜™š›œ\x9d\x9eŸ" ++
      "\xa0¡¢£¤¥¦§¨©ª«¬\xad®¯" ++
      "°±²³´µ¶·¸¹º»¼½¾¿" ++
      "ÀÁÂÃÄÅÆÇÈÉÊËÌÍÎÏ" ++
      "ĞÑÒÓÔÕÖ×ØÙÚÛÜİŞß" ++
      "àáâãäåæçèéêëìíîï" ++
      "ğñòóôõö÷øùúûüışÿ"

/-- Hebrew. -/
def windows1255 : CodePage where
  name := "windows-1255"
  upperHalf :=
      "€\x81‚ƒ„…†‡ˆ‰\x8a‹\x8c\x8d\x8e\x8f" ++
      "\x90‘’“”•–—˜™\x9a›\x9c\x9d\x9e\x9f" ++
      "\xa0¡¢£₪¥¦§¨©×«¬\xad®¯" ++
      "°±²³´µ¶·¸¹÷»¼½¾¿" ++
      "\u05b0\u05b1\u05b2\u05b3\u05b4\u05b5\u05b6\u05b7" ++
      "\u05b8\u05b9\u05ba\u05bb\u05bc\u05bd\u05be\u05bf" ++
      "\u05c0\u05c1\u05c2\u05c3\u05f0\u05f1\u05f2\u05f3" ++
      "\u05f4\ufffd\ufffd\ufffd\ufffd\ufffd\ufffd\ufffd" ++
      "\u05d0\u05d1\u05d2\u05d3\u05d4\u05d5\u05d6\u05d7" ++
      "\u05d8\u05d9\u05da\u05db\u05dc\u05dd\u05de\u05df" ++
      "\u05e0\u05e1\u05e2\u05e3\u05e4\u05e5\u05e6\u05e7" ++
      "\u05e8\u05e9\u05ea\ufffd\ufffd\u200e\u200f\ufffd"

/-- Arabic. -/
def windows1256 : CodePage where
  name := "windows-1256"
  upperHalf :=
      "€پ‚ƒ„…†‡ˆ‰ٹ‹Œچژڈ" ++
      "گ‘’“”•–—ک™ڑ›œ\u200c\u200dں" ++
      "\xa0،¢£¤¥¦§¨©ھ«¬\xad®¯" ++
      "°±²³´µ¶·¸¹؛»¼½¾؟" ++
      "ہءآأؤإئابةتثجحخد" ++
      "ذرزسشصض×طظعغـفقك" ++
      "àلâمنهوçèéêëىيîï" ++
      "ًٌٍَôُِ÷ّùْûü\u200e\u200fے"

/-- Baltic. -/
def windows1257 : CodePage where
  name := "windows-1257"
  upperHalf :=
      "€\x81‚\x83„…†‡\x88‰\x8a‹\x8c¨ˇ¸" ++
      "\x90‘’“”•–—\x98™\x9a›\x9c¯˛\x9f" ++
      "\xa0\ufffd¢£¤\ufffd¦§Ø©Ŗ«¬\xad®Æ" ++
      "°±²³´µ¶·ø¹ŗ»¼½¾æ" ++
      "ĄĮĀĆÄÅĘĒČÉŹĖĢĶĪĻ" ++
      "ŠŃŅÓŌÕÖ×ŲŁŚŪÜŻŽß" ++
      "ąįāćäåęēčéźėģķīļ" ++
      "šńņóōõö÷ųłśūüżž˙"

/-- Vietnamese. -/
def windows1258 : CodePage where
  name := "windows-1258"
  upperHalf :=
      "€\x81‚ƒ„…†‡ˆ‰\x8a‹Œ\x8d\x8e\x8f" ++
      "\x90‘’“”•–—˜™\x9a›œ\x9d\x9eŸ" ++
      "\xa0¡¢£¤¥¦§¨©ª«¬\xad®¯" ++
      "°±²³´µ¶·¸¹º»¼½¾¿" ++
      "ÀÁÂĂÄÅÆÇÈÉÊË\u0300ÍÎÏ" ++
      "ĐÑ\u0309ÓÔƠÖ×ØÙÚÛÜƯ\u0303ß" ++
      "àáâăäåæçèéêë\u0301íîï" ++
      "đñ\u0323óôơö÷øùúûüư₫ÿ"

/-- Cyrillic for the Macintosh. -/
def macCyrillic : CodePage where
  name := "x-mac-cyrillic"
  upperHalf :=
      "АБВГДЕЖЗИЙКЛМНОП" ++
      "РСТУФХЦЧШЩЪЫЬЭЮЯ" ++
      "†°Ґ£§•¶І®©™Ђђ≠Ѓѓ" ++
      "∞±≤≥іµґЈЄєЇїЉљЊњ" ++
      "јЅ¬√ƒ≈∆«»…\xa0ЋћЌќѕ" ++
      "–—“”‘’÷„ЎўЏџ№Ёёя" ++
      "абвгдежзийклмноп" ++
      "рстуфхцчшщъыьэю€"

/-- The character of a byte, unless the byte stands for nothing. -/
def decodeByte (upperHalf : Array Char) (byte : UInt8) : Option Char :=
  if byte < 0x80 then some (Char.ofNat byte.toNat)
  else upperHalf[byte.toNat - 0x80]?.filter (· != '\ufffd')

/-- The characters of a sequence of bytes. -/
def decode (page : CodePage) (bytes : List UInt8) : List (Option Char) :=
  bytes.map (decodeByte page.upperHalf.toList.toArray)

end CodePage

end HtmlTemplate.Encoding
