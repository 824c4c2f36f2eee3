import SourceDocs.Text.CharacterSet.Grid

/-!
# Code pages

Encodings with one byte for each character.  A code page lists the bytes that do not stand for the
character of their own number.
-/

namespace SourceDocs.CodePage

/-- The code pages by name. -/
def table : List (String × Grid) :=
  [("cp037", [(0x04, "\x9c\x09\x86\x7f\x97\x8d\x8e"),
     (0x14, "\x9d\x85\x08\x87\x18\x19\x92\x8f\x1c\x1d\x1e\x1f\x80\x81\x82\x83"),
     (0x24, "\x84\x0a\x17\x1b\x88\x89\x8a\x8b\x8c\x05\x06\x07\x90\x91\x16\x93"),
     (0x34, "\x94\x95\x96\x04\x98\x99\x9a\x9b\x14\x15\x9e\x1a\x20\xa0âäàáãåçñ¢."),
     (0x4C, "<(+|&éêëèíîïìß!$*);¬-/ÂÄÀÁÃÅÇÑ¦,%_>?øÉÊËÈÍÎÏÌ`:#@'=\"Øabcdefghi«»ð"),
     (0x8D, "ýþ±°jklmnopqrªºæ¸Æ¤µ~stuvwxyz¡¿ÐÝÞ®^£¥·©§¶¼½¾[]¯¨´×\x7bABCDEFGHI"),
     (0xCA, "\xadôöòóõ\x7dJKLMNOPQR¹ûüùúÿ\\÷STUVWXYZ²ÔÖÒÓÕ0123456789³ÛÜÙÚ\x9f")]),
   ("cp1006", [(0xA1, "۰۱۲۳۴۵۶۷۸۹،\u061B\xad\u061F\uFE81\uFE8D\uFE8E\uFE8E\uFE8F\uFE91"),
     (0xB5, "\uFB56\uFB58\uFE93\uFE95\uFE97\uFB66\uFB68\uFE99\uFE9B\uFE9D\uFE9F"),
     (0xC0, "\uFB7A\uFB7C\uFEA1\uFEA3\uFEA5\uFEA7\uFEA9\uFB84\uFEAB\uFEAD\uFB8C"),
     (0xCB, "\uFEAF\uFB8A\uFEB1\uFEB3\uFEB5\uFEB7\uFEB9\uFEBB\uFEBD\uFEBF\uFEC1"),
     (0xD6, "\uFEC5\uFEC9\uFECA\uFECB\uFECC\uFECD\uFECE\uFECF\uFED0\uFED1\uFED3"),
     (0xE1, "\uFED5\uFED7\uFED9\uFEDB\uFB92\uFB94\uFEDD\uFEDF\uFEE0\uFEE1\uFEE3"),
     (0xEC, "\uFB9E\uFEE5\uFEE7\uFE85\uFEED\uFBA6\uFBA8\uFBA9\uFBAA\uFE80\uFE89"),
     (0xF7, "\uFE8A\uFE8B\uFEF1\uFEF2\uFEF3\uFBB0\uFBAE\uFE7C\uFE7D")]),
   ("cp1026", [(0x04, "\x9c\x09\x86\x7f\x97\x8d\x8e"),
     (0x14, "\x9d\x85\x08\x87\x18\x19\x92\x8f\x1c\x1d\x1e\x1f\x80\x81\x82\x83"),
     (0x24, "\x84\x0a\x17\x1b\x88\x89\x8a\x8b\x8c\x05\x06\x07\x90\x91\x16\x93"),
     (0x34, "\x94\x95\x96\x04\x98\x99\x9a\x9b\x14\x15\x9e\x1a\x20\xa0âäàáãå\x7b"),
     (0x49, "ñÇ.<(+!&éêëèíîïìßĞİ*);^-/ÂÄÀÁÃÅ[Ñş,%_>?øÉÊËÈÍÎÏÌı:ÖŞ'=ÜØabcdefghi«"),
     (0x8B, "»\x7d`¦±°jklmnopqrªºæ¸Æ¤µöstuvwxyz¡¿]$@®¢£¥·©§¶¼½¾¬|¯¨´×çABCDEFGHI"),
     (0xCA, "\xadô~òóõğJKLMNOPQR¹û\\ùúÿü÷STUVWXYZ²Ô#ÒÓÕ0123456789³Û\"ÙÚ\x9f")]),
   ("cp1125", [(0x80, "АБВГДЕЖЗИЙКЛМНОПРСТУФХЦЧШЩЪЫЬЭЮЯабвгдежзийклмноп░▒▓│┤╡╢╖╕╣║╗╝╜╛┐└┴"),
     (0xC2, "┬├─┼╞╟╚╔╩╦╠═╬╧╨╤╥╙╘╒╓╫╪┘┌█▄▌▐▀рстуфхцчшщъыьэюяЁёҐґЄєІіЇї·√№¤■\xa0")]),
   ("cp1140", [(0x04, "\x9c\x09\x86\x7f\x97\x8d\x8e"),
     (0x14, "\x9d\x85\x08\x87\x18\x19\x92\x8f\x1c\x1d\x1e\x1f\x80\x81\x82\x83"),
     (0x24, "\x84\x0a\x17\x1b\x88\x89\x8a\x8b\x8c\x05\x06\x07\x90\x91\x16\x93"),
     (0x34, "\x94\x95\x96\x04\x98\x99\x9a\x9b\x14\x15\x9e\x1a\x20\xa0âäàáãåçñ¢."),
     (0x4C, "<(+|&éêëèíîïìß!$*);¬-/ÂÄÀÁÃÅÇÑ¦,%_>?øÉÊËÈÍÎÏÌ`:#@'=\"Øabcdefghi«»ð"),
     (0x8D, "ýþ±°jklmnopqrªºæ¸Æ€µ~stuvwxyz¡¿ÐÝÞ®^£¥·©§¶¼½¾[]¯¨´×\x7bABCDEFGHI"),
     (0xCA, "\xadôöòóõ\x7dJKLMNOPQR¹ûüùúÿ\\÷STUVWXYZ²ÔÖÒÓÕ0123456789³ÛÜÙÚ\x9f")]),
   ("cp1250", [(0x80, "€�‚�„…†‡�‰Š‹ŚŤŽŹ�‘’“”•–—�™š›śťžź\xa0ˇ˘Ł¤Ą¦§¨©Ş«¬\xad®Ż°±˛ł´µ¶·¸ąş»"),
     (0xBC, "Ľ˝ľżŔÁÂĂÄĹĆÇČÉĘËĚÍÎĎĐŃŇÓÔŐÖ×ŘŮÚŰÜÝŢßŕáâăäĺćçčéęëěíîďđńňóôőö÷řůúűüý"),
     (0xFE, "ţ˙")]),
   ("cp1251", [(0x80, "ЂЃ‚ѓ„…†‡€‰Љ‹ЊЌЋЏђ‘’“”•–—�™љ›њќћџ\xa0ЎўЈ¤Ґ¦§Ё©Є«¬\xad®Ї°±Ііґµ¶·ё№є»"),
     (0xBC, "јЅѕїАБВГДЕЖЗИЙКЛМНОПРСТУФХЦЧШЩЪЫЬЭЮЯабвгдежзийклмнопрстуфхцчшщъыьэ"),
     (0xFE, "юя")]),
   ("cp1252", [(0x80, "€�‚ƒ„…†‡ˆ‰Š‹Œ�Ž��‘’“”•–—˜™š›œ�žŸ")]),
   ("cp1253", [(0x80, "€�‚ƒ„…†‡�‰�‹�����‘’“”•–—�™�›����\xa0΅Ά"),
     (0xAA, "�«¬\xad®―°±²³΄µ¶·ΈΉΊ»Ό½ΎΏΐΑΒΓΔΕΖΗΘΙΚΛΜΝΞΟΠΡ�ΣΤΥΦΧΨΩΪΫάέήίΰαβγδεζηθ"),
     (0xE9, "ικλμνξοπρςστυφχψωϊϋόύώ�")]),
   ("cp1254", [(0x80, "€�‚ƒ„…†‡ˆ‰Š‹Œ����‘’“”•–—˜™š›œ��Ÿ"),
     (0xD0, "Ğ"),
     (0xDD, "İŞ"),
     (0xF0, "ğ"),
     (0xFD, "ış")]),
   ("cp1255", [(0x80, "€�‚ƒ„…†‡ˆ‰�‹�����‘’“”•–—˜™�›����\xa0¡¢£₪¥¦§¨©×"),
     (0xBA, "÷»¼½¾¿\u05B0\u05B1\u05B2\u05B3\u05B4\u05B5\u05B6\u05B7\u05B8\u05B9"),
     (0xCA, "�\u05BB\u05BC\u05BD\u05BE\u05BF\u05C0\u05C1\u05C2\u05C3\u05F0"),
     (0xD5, "\u05F1\u05F2\u05F3\u05F4�������\u05D0\u05D1\u05D2\u05D3\u05D4"),
     (0xE5, "\u05D5\u05D6\u05D7\u05D8\u05D9\u05DA\u05DB\u05DC\u05DD\u05DE\u05DF"),
     (0xF0, "\u05E0\u05E1\u05E2\u05E3\u05E4\u05E5\u05E6\u05E7\u05E8\u05E9\u05EA"),
     (0xFB, "��\u200E\u200F�")]),
   ("cp1256", [(0x80, "€\u067E‚ƒ„…†‡ˆ‰\u0679‹Œ\u0686\u0698\u0688\u06AF‘’“”•–—\u06A9™"),
     (0x9A, "\u0691›œ\u200C\u200D\u06BA\xa0،"),
     (0xAA, "\u06BE"),
     (0xBA, "\u061B»¼½¾\u061F\u06C1\u0621\u0622\u0623\u0624\u0625\u0626\u0627"),
     (0xC8, "\u0628\u0629\u062A\u062B\u062C\u062D\u062E\u062F\u0630\u0631\u0632"),
     (0xD3, "\u0633\u0634\u0635\u0636×\u0637\u0638\u0639\u063A\u0640\u0641"),
     (0xDE, "\u0642\u0643à\u0644â\u0645\u0646\u0647\u0648çèéêë\u0649\u064Aîï"),
     (0xF0, "\u064B\u064C\u064D\u064Eô\u064F\u0650÷\u0651ù\u0652ûü\u200E\u200F"),
     (0xFF, "\u06D2")]),
   ("cp1257", [(0x80, "€�‚�„…†‡�‰�‹�¨ˇ¸�‘’“”•–—�™�›�¯˛�\xa0�¢£¤�¦§Ø©Ŗ«¬\xad®Æ"),
     (0xB8, "ø¹ŗ»¼½¾æĄĮĀĆÄÅĘĒČÉŹĖĢĶĪĻŠŃŅÓŌÕÖ×ŲŁŚŪÜŻŽßąįāćäåęēčéźėģķīļšńņóōõö÷ųł"),
     (0xFA, "śūüżž˙")]),
   ("cp1258", [(0x80, "€�‚ƒ„…†‡ˆ‰�‹Œ����‘’“”•–—˜™�›œ��Ÿ"),
     (0xC3, "Ă"),
     (0xCC, "\u0300ÍÎÏĐÑ\u0309ÓÔƠ"),
     (0xDD, "Ư\u0303ßàáâă"),
     (0xEC, "\u0301íîïđñ\u0323óôơ"),
     (0xFD, "ư₫")]),
   ("cp273", [(0x04, "\x9c\x09\x86\x7f\x97\x8d\x8e"),
     (0x14, "\x9d\x85\x08\x87\x18\x19\x92\x8f\x1c\x1d\x1e\x1f\x80\x81\x82\x83"),
     (0x24, "\x84\x0a\x17\x1b\x88\x89\x8a\x8b\x8c\x05\x06\x07\x90\x91\x16\x93"),
     (0x34, "\x94\x95\x96\x04\x98\x99\x9a\x9b\x14\x15\x9e\x1a\x20\xa0â\x7bàáãåç"),
     (0x49, "ñÄ.<(+!&éêëèíîïì~Ü$*);^-/Â[ÀÁÃÅÇÑö,%_>?øÉÊËÈÍÎÏÌ`:#§'=\"Øabcdefghi"),
     (0x8A, "«»ðýþ±°jklmnopqrªºæ¸Æ¤µßstuvwxyz¡¿ÐÝÞ®¢£¥·©@¶¼½¾¬|‾¨´×äABCDEFGHI"),
     (0xCA, "\xadô¦òóõüJKLMNOPQR¹û\x7dùúÿÖ÷STUVWXYZ²Ô\\ÒÓÕ0123456789³Û]ÙÚ\x9f")]),
   ("cp424", [(0x04, "\x9c\x09\x86\x7f\x97\x8d\x8e"),
     (0x14, "\x9d\x85\x08\x87\x18\x19\x92\x8f\x1c\x1d\x1e\x1f\x80\x81\x82\x83"),
     (0x24, "\x84\x0a\x17\x1b\x88\x89\x8a\x8b\x8c\x05\x06\x07\x90\x91\x16\x93"),
     (0x34, "\x94\x95\x96\x04\x98\x99\x9a\x9b\x14\x15\x9e\x1a\x20\u05D0\u05D1"),
     (0x43, "\u05D2\u05D3\u05D4\u05D5\u05D6\u05D7\u05D8¢.<(+|&\u05D9\u05DA"),
     (0x53, "\u05DB\u05DC\u05DD\u05DE\u05DF\u05E0\u05E1!$*);¬-/\u05E2\u05E3"),
     (0x64, "\u05E4\u05E5\u05E6\u05E7\u05E8\u05E9¦,%_>?�\u05EA��\xa0���‗`:#@'="),
     (0x7F, "\"�abcdefghi«»���±°jklmnopqr���¸�¤µ~stuvwxyz�����®^£¥·©§¶¼½¾[]¯¨´×"),
     (0xC0, "\x7bABCDEFGHI\xad�����\x7dJKLMNOPQR¹�����\\÷STUVWXYZ²�����01234567"),
     (0xF8, "89³����\x9f")]),
   ("cp437", [(0x80, "ÇüéâäàåçêëèïîìÄÅÉæÆôöòûùÿÖÜ¢£¥₧ƒáíóúñÑªº¿⌐¬½¼¡«»░▒▓│┤╡╢╖╕╣║╗╝╜╛┐└┴"),
     (0xC2, "┬├─┼╞╟╚╔╩╦╠═╬╧╨╤╥╙╘╒╓╫╪┘┌█▄▌▐▀αßΓπΣσµτΦΘΩδ∞φε∩≡±≥≤⌠⌡÷≈°∙·√ⁿ²■\xa0")]),
   ("cp500", [(0x04, "\x9c\x09\x86\x7f\x97\x8d\x8e"),
     (0x14, "\x9d\x85\x08\x87\x18\x19\x92\x8f\x1c\x1d\x1e\x1f\x80\x81\x82\x83"),
     (0x24, "\x84\x0a\x17\x1b\x88\x89\x8a\x8b\x8c\x05\x06\x07\x90\x91\x16\x93"),
     (0x34, "\x94\x95\x96\x04\x98\x99\x9a\x9b\x14\x15\x9e\x1a\x20\xa0âäàáãåçñ[."),
     (0x4C, "<(+!&éêëèíîïìß]$*);^-/ÂÄÀÁÃÅÇÑ¦,%_>?øÉÊËÈÍÎÏÌ`:#@'=\"Øabcdefghi«»ð"),
     (0x8D, "ýþ±°jklmnopqrªºæ¸Æ¤µ~stuvwxyz¡¿ÐÝÞ®¢£¥·©§¶¼½¾¬|¯¨´×\x7bABCDEFGHI"),
     (0xCA, "\xadôöòóõ\x7dJKLMNOPQR¹ûüùúÿ\\÷STUVWXYZ²ÔÖÒÓÕ0123456789³ÛÜÙÚ\x9f")]),
   ("cp720", [(0x82, "éâ\x84à\x86çêëèïî\x8d\x8e\x8f\x90\u0651\u0652ô¤\u0640ûù\u0621"),
     (0x99, "\u0622\u0623\u0624£\u0625\u0626\u0627\u0628\u0629\u062A\u062B"),
     (0xA4, "\u062C\u062D\u062E\u062F\u0630\u0631\u0632\u0633\u0634\u0635«»░▒▓│"),
     (0xB4, "┤╡╢╖╕╣║╗╝╜╛┐└┴┬├─┼╞╟╚╔╩╦╠═╬╧╨╤╥╙╘╒╓╫╪┘┌█▄▌▐▀\u0636\u0637\u0638"),
     (0xE3, "\u0639\u063A\u0641µ\u0642\u0643\u0644\u0645\u0646\u0647\u0648"),
     (0xEE, "\u0649\u064A≡\u064B\u064C\u064D\u064E\u064F\u0650≈°∙·√ⁿ²■\xa0")]),
   ("cp737", [(0x80, "ΑΒΓΔΕΖΗΘΙΚΛΜΝΞΟΠΡΣΤΥΦΧΨΩαβγδεζηθικλμνξοπρσςτυφχψ░▒▓│┤╡╢╖╕╣║╗╝╜╛┐└┴"),
     (0xC2, "┬├─┼╞╟╚╔╩╦╠═╬╧╨╤╥╙╘╒╓╫╪┘┌█▄▌▐▀ωάέήϊίόύϋώΆΈΉΊΌΎΏ±≥≤ΪΫ÷≈°∙·√ⁿ²■\xa0")]),
   ("cp775", [(0x80, "ĆüéāäģåćłēŖŗīŹÄÅÉæÆōöĢ¢ŚśÖÜø£Ø×¤ĀĪóŻżź”¦©®¬½¼Ł«»░▒▓│┤ĄČĘĖ╣║╗╝ĮŠ┐└┴"),
     (0xC2, "┬├─┼ŲŪ╚╔╩╦╠═╬Žąčęėįšųūž┘┌█▄▌▐▀ÓßŌŃõÕµńĶķĻļņĒŅ’\xad±“¾¶§÷„°∙·¹³²■"),
     (0xFF, "\xa0")]),
   ("cp850", [(0x80, "ÇüéâäàåçêëèïîìÄÅÉæÆôöòûùÿÖÜø£Ø×ƒáíóúñÑªº¿®¬½¼¡«»░▒▓│┤ÁÂÀ©╣║╗╝¢¥┐└┴"),
     (0xC2, "┬├─┼ãÃ╚╔╩╦╠═╬¤ðÐÊËÈıÍÎÏ┘┌█▄¦Ì▀ÓßÔÒõÕµþÞÚÛÙýÝ¯´\xad±‗¾¶§÷¸°¨·¹³²■"),
     (0xFF, "\xa0")]),
   ("cp852", [(0x80, "ÇüéâäůćçłëŐőîŹÄĆÉĹĺôöĽľŚśÖÜŤťŁ×čáíóúĄąŽžĘę¬źČş«»░▒▓│┤ÁÂĚŞ╣║╗╝Żż┐└┴"),
     (0xC2, "┬├─┼Ăă╚╔╩╦╠═╬¤đĐĎËďŇÍÎě┘┌█▄ŢŮ▀ÓßÔŃńňŠšŔÚŕŰýÝţ´\xad˝˛ˇ˘§÷¸°¨˙űŘř■"),
     (0xFF, "\xa0")]),
   ("cp855", [(0x80, "ђЂѓЃёЁєЄѕЅіІїЇјЈљЉњЊћЋќЌўЎџЏюЮъЪаАбБцЦдДеЕфФгГ«»░▒▓│┤хХиИ╣║╗╝йЙ┐└┴"),
     (0xC2, "┬├─┼кК╚╔╩╦╠═╬¤лЛмМнНоОп┘┌█▄Пя▀ЯрРсСтТуУжЖвВьЬ№\xadыЫзЗшШэЭщЩчЧ§■"),
     (0xFF, "\xa0")]),
   ("cp856", [(0x80, "\u05D0\u05D1\u05D2\u05D3\u05D4\u05D5\u05D6\u05D7\u05D8\u05D9\u05DA"),
     (0x8B, "\u05DB\u05DC\u05DD\u05DE\u05DF\u05E0\u05E1\u05E2\u05E3\u05E4\u05E5"),
     (0x96, "\u05E6\u05E7\u05E8\u05E9\u05EA�£�×����������®¬½¼�«»░▒▓│┤���©╣║╗╝¢¥"),
     (0xBF, "┐└┴┬├─┼��╚╔╩╦╠═╬¤���������┘┌█▄¦�▀������µ�������¯´\xad±‗¾¶§÷¸°¨·¹³²"),
     (0xFE, "■\xa0")]),
   ("cp857", [(0x80, "ÇüéâäàåçêëèïîıÄÅÉæÆôöòûùİÖÜø£ØŞşáíóúñÑĞğ¿®¬½¼¡«»░▒▓│┤ÁÂÀ©╣║╗╝¢¥┐└┴"),
     (0xC2, "┬├─┼ãÃ╚╔╩╦╠═╬¤ºªÊËÈ�ÍÎÏ┘┌█▄¦Ì▀ÓßÔÒõÕµ�×ÚÛÙìÿ¯´\xad±�¾¶§÷¸°¨·¹³²■"),
     (0xFF, "\xa0")]),
   ("cp858", [(0x80, "ÇüéâäàåçêëèïîìÄÅÉæÆôöòûùÿÖÜø£Ø×ƒáíóúñÑªº¿®¬½¼¡«»░▒▓│┤ÁÂÀ©╣║╗╝¢¥┐└┴"),
     (0xC2, "┬├─┼ãÃ╚╔╩╦╠═╬¤ðÐÊËÈ€ÍÎÏ┘┌█▄¦Ì▀ÓßÔÒõÕµþÞÚÛÙýÝ¯´\xad±‗¾¶§÷¸°¨·¹³²■"),
     (0xFF, "\xa0")]),
   ("cp860", [(0x80, "ÇüéâãàÁçêÊèÍÔìÃÂÉÀÈôõòÚùÌÕÜ¢£Ù₧ÓáíóúñÑªº¿Ò¬½¼¡«»░▒▓│┤╡╢╖╕╣║╗╝╜╛┐└┴"),
     (0xC2, "┬├─┼╞╟╚╔╩╦╠═╬╧╨╤╥╙╘╒╓╫╪┘┌█▄▌▐▀αßΓπΣσµτΦΘΩδ∞φε∩≡±≥≤⌠⌡÷≈°∙·√ⁿ²■\xa0")]),
   ("cp861", [(0x80, "ÇüéâäàåçêëèÐðÞÄÅÉæÆôöþûÝýÖÜø£Ø₧ƒáíóúÁÍÓÚ¿⌐¬½¼¡«»░▒▓│┤╡╢╖╕╣║╗╝╜╛┐└┴"),
     (0xC2, "┬├─┼╞╟╚╔╩╦╠═╬╧╨╤╥╙╘╒╓╫╪┘┌█▄▌▐▀αßΓπΣσµτΦΘΩδ∞φε∩≡±≥≤⌠⌡÷≈°∙·√ⁿ²■\xa0")]),
   ("cp862", [(0x80, "\u05D0\u05D1\u05D2\u05D3\u05D4\u05D5\u05D6\u05D7\u05D8\u05D9\u05DA"),
     (0x8B, "\u05DB\u05DC\u05DD\u05DE\u05DF\u05E0\u05E1\u05E2\u05E3\u05E4\u05E5"),
     (0x96, "\u05E6\u05E7\u05E8\u05E9\u05EA¢£¥₧ƒáíóúñÑªº¿⌐¬½¼¡«»░▒▓│┤╡╢╖╕╣║╗╝╜╛"),
     (0xBF, "┐└┴┬├─┼╞╟╚╔╩╦╠═╬╧╨╤╥╙╘╒╓╫╪┘┌█▄▌▐▀αßΓπΣσµτΦΘΩδ∞φε∩≡±≥≤⌠⌡÷≈°∙·√ⁿ²■"),
     (0xFF, "\xa0")]),
   ("cp863", [(0x80, "ÇüéâÂà¶çêëèïî‗À§ÉÈÊôËÏûù¤ÔÜ¢£ÙÛƒ¦´óú¨¸³¯Î⌐¬½¼¾«»░▒▓│┤╡╢╖╕╣║╗╝╜╛┐└┴"),
     (0xC2, "┬├─┼╞╟╚╔╩╦╠═╬╧╨╤╥╙╘╒╓╫╪┘┌█▄▌▐▀αßΓπΣσµτΦΘΩδ∞φε∩≡±≥≤⌠⌡÷≈°∙·√ⁿ²■\xa0")]),
   ("cp864", [(0x25, "٪"),
     (0x80, "°·∙√▒─│┼┤┬├┴┐┌└┘β∞φ±½¼≈«»\uFEF7\uFEF8��\uFEFB\uFEFC�\xa0\xad\uFE82"),
     (0xA3, "£¤\uFE84��\uFE8E\uFE8F\uFE95\uFE99،\uFE9D\uFEA1\uFEA5\u0660\u0661"),
     (0xB2, "\u0662\u0663\u0664\u0665\u0666\u0667\u0668\u0669\uFED1\u061B\uFEB1"),
     (0xBD, "\uFEB5\uFEB9\u061F¢\uFE80\uFE81\uFE83\uFE85\uFECA\uFE8B\uFE8D"),
     (0xC8, "\uFE91\uFE93\uFE97\uFE9B\uFE9F\uFEA3\uFEA7\uFEA9\uFEAB\uFEAD\uFEAF"),
     (0xD3, "\uFEB3\uFEB7\uFEBB\uFEBF\uFEC1\uFEC5\uFECB\uFECF¦¬÷×\uFEC9\u0640"),
     (0xE1, "\uFED3\uFED7\uFEDB\uFEDF\uFEE3\uFEE7\uFEEB\uFEED\uFEEF\uFEF3\uFEBD"),
     (0xEC, "\uFECC\uFECE\uFECD\uFEE1\uFE7D\u0651\uFEE5\uFEE9\uFEEC\uFEF0\uFEF2"),
     (0xF7, "\uFED0\uFED5\uFEF5\uFEF6\uFEDD\uFED9\uFEF1■�")]),
   ("cp865", [(0x80, "ÇüéâäàåçêëèïîìÄÅÉæÆôöòûùÿÖÜø£Ø₧ƒáíóúñÑªº¿⌐¬½¼¡«¤░▒▓│┤╡╢╖╕╣║╗╝╜╛┐└┴"),
     (0xC2, "┬├─┼╞╟╚╔╩╦╠═╬╧╨╤╥╙╘╒╓╫╪┘┌█▄▌▐▀αßΓπΣσµτΦΘΩδ∞φε∩≡±≥≤⌠⌡÷≈°∙·√ⁿ²■\xa0")]),
   ("cp866", [(0x80, "АБВГДЕЖЗИЙКЛМНОПРСТУФХЦЧШЩЪЫЬЭЮЯабвгдежзийклмноп░▒▓│┤╡╢╖╕╣║╗╝╜╛┐└┴"),
     (0xC2, "┬├─┼╞╟╚╔╩╦╠═╬╧╨╤╥╙╘╒╓╫╪┘┌█▄▌▐▀рстуфхцчшщъыьэюяЁёЄєЇїЎў°∙·√№¤■\xa0")]),
   ("cp869", [(0x80, "������Ά�·¬¦‘’Έ―ΉΊΪΌ��ΎΫ©Ώ²³ά£έήίϊΐόύΑΒΓΔΕΖΗ½ΘΙ«»░▒▓│┤ΚΛΜΝ╣║╗╝ΞΟ┐└┴"),
     (0xC2, "┬├─┼ΠΡ╚╔╩╦╠═╬ΣΤΥΦΧΨΩαβγ┘┌█▄δε▀ζηθικλμνξοπρσςτ΄\xad±υφχ§ψ΅°¨ωϋΰώ■"),
     (0xFF, "\xa0")]),
   ("cp874", [(0x80, "€����…�����������‘’“”•–—��������\xa0กขฃคฅฆงจฉชซฌญฎฏฐฑฒณดตถทธนบปผฝพ"),
     (0xBF, "ฟภมยรฤลฦวศษสหฬอฮฯะ\u0E31าำ\u0E34\u0E35\u0E36\u0E37\u0E38\u0E39"),
     (0xDA, "\u0E3A����฿เแโใไๅๆ\u0E47\u0E48\u0E49\u0E4A\u0E4B\u0E4C\u0E4D\u0E4E"),
     (0xEF, "๏๐๑๒๓๔๕๖๗๘๙๚๛����")]),
   ("cp875", [(0x04, "\x9c\x09\x86\x7f\x97\x8d\x8e"),
     (0x14, "\x9d\x85\x08\x87\x18\x19\x92\x8f\x1c\x1d\x1e\x1f\x80\x81\x82\x83"),
     (0x24, "\x84\x0a\x17\x1b\x88\x89\x8a\x8b\x8c\x05\x06\x07\x90\x91\x16\x93"),
     (0x34, "\x94\x95\x96\x04\x98\x99\x9a\x9b\x14\x15\x9e\x1a\x20ΑΒΓΔΕΖΗΘΙ[.<(+"),
     (0x4F, "!&ΚΛΜΝΞΟΠΡΣ]$*);^-/ΤΥΦΧΨΩΪΫ|,%_>?¨ΆΈΉ\xa0ΊΌΎΏ`:#@'=\"΅abcdefghiαβγ"),
     (0x8D, "δεζ°jklmnopqrηθικλμ´~stuvwxyzνξοπρσ£άέήϊίόύϋώςτυφχψ\x7bABCDEFGHI"),
     (0xCA, "\xadωΐΰ‘―\x7dJKLMNOPQR±½\x1a·’¦\\\x1aSTUVWXYZ²§\x1a\x1a«¬012345678"),
     (0xF9, "9³©\x1a\x1a»\x9f")]),
   ("hp_roman8", [(0xA1, "ÀÂÈÊËÎÏ´ˋˆ¨˜ÙÛ₤¯Ýý°ÇçÑñ¡¿¤£¥§ƒ¢âêôûáéóúàèòùäëöüÅîØÆåíøæÄìÖÜÉïßÔÁÃã"),
     (0xE3, "ÐðÍÌÓÒÕõŠšÚŸÿÞþ·µ¶¾—¼½ªº«■»±�")]),
   ("iso8859_10", [(0xA1, "ĄĒĢĪĨĶ§ĻĐŠŦŽ\xadŪŊ°ąēģīĩķ·ļđšŧž―ūŋĀ"),
     (0xC7, "ĮČÉĘËĖÍÎÏÐŅŌÓÔÕÖŨØŲ"),
     (0xE0, "ā"),
     (0xE7, "įčéęëėíîïðņōóôõöũøųúûüýþĸ")]),
   ("iso8859_11", [(0xA1, "กขฃคฅฆงจฉชซฌญฎฏฐฑฒณดตถทธนบปผฝพฟภมยรฤลฦวศษสหฬอฮฯะ\u0E31าำ\u0E34"),
     (0xD5, "\u0E35\u0E36\u0E37\u0E38\u0E39\u0E3A����฿เแโใไๅๆ\u0E47\u0E48\u0E49"),
     (0xEA, "\u0E4A\u0E4B\u0E4C\u0E4D\u0E4E๏๐๑๒๓๔๕๖๗๘๙๚๛����")]),
   ("iso8859_13", [(0xA1, "”¢£¤„¦§Ø©Ŗ«¬\xad®Æ°±²³“µ¶·ø¹ŗ»¼½¾æĄĮĀĆÄÅĘĒČÉŹĖĢĶĪĻŠŃŅÓŌÕÖ×ŲŁŚŪÜŻŽß"),
     (0xE0, "ąįāćäåęēčéźėģķīļšńņóōõö÷ųłśūüżž’")]),
   ("iso8859_14", [(0xA1, "Ḃḃ£ĊċḊ§Ẁ©ẂḋỲ\xad®ŸḞḟĠġṀṁ¶ṖẁṗẃṠỳẄẅṡ"),
     (0xD0, "Ŵ"),
     (0xD7, "Ṫ"),
     (0xDE, "Ŷ"),
     (0xF0, "ŵ"),
     (0xF7, "ṫ"),
     (0xFE, "ŷ")]),
   ("iso8859_15", [(0xA4, "€¥Š§š"),
     (0xB4, "Žµ¶·ž¹º»ŒœŸ")]),
   ("iso8859_16", [(0xA1, "ĄąŁ€„Š§š©Ș«Ź\xadźŻ°±ČłŽ”¶·žčș»ŒœŸżÀÁÂĂÄĆ"),
     (0xD0, "ĐŃÒÓÔŐÖŚŰÙÚÛÜĘȚßàáâăäć"),
     (0xF0, "đńòóôőöśűùúûüęț")]),
   ("iso8859_2", [(0xA1, "Ą˘Ł¤ĽŚ§¨ŠŞŤŹ\xadŽŻ°ą˛ł´ľśˇ¸šşťź˝žżŔÁÂĂÄĹĆÇČÉĘËĚÍÎĎĐŃŇÓÔŐÖ×ŘŮÚŰÜÝŢß"),
     (0xE0, "ŕáâăäĺćçčéęëěíîďđńňóôőö÷řůúűüýţ˙")]),
   ("iso8859_3", [(0xA1, "Ħ˘£¤�Ĥ§¨İŞĞĴ\xad�Ż°ħ²³´µĥ·¸ışğĵ½�żÀÁÂ�ÄĊĈ"),
     (0xD0, "�ÑÒÓÔĠÖ×ĜÙÚÛÜŬŜßàáâ�äċĉ"),
     (0xF0, "�ñòóôġö÷ĝùúûüŭŝ˙")]),
   ("iso8859_4", [(0xA1, "ĄĸŖ¤ĨĻ§¨ŠĒĢŦ\xadŽ¯°ą˛ŗ´ĩļˇ¸šēģŧŊžŋĀ"),
     (0xC7, "ĮČÉĘËĖÍÎĪĐŅŌĶÔÕÖ×ØŲÚÛÜŨŪßā"),
     (0xE7, "įčéęëėíîīđņōķôõö÷øųúûüũū˙")]),
   ("iso8859_5", [(0xA1, "ЁЂЃЄЅІЇЈЉЊЋЌ\xadЎЏАБВГДЕЖЗИЙКЛМНОПРСТУФХЦЧШЩЪЫЬЭЮЯабвгдежзийклмноп"),
     (0xE0, "рстуфхцчшщъыьэюя№ёђѓєѕіїјљњћќ§ўџ")]),
   ("iso8859_6", [(0xA1, "���¤�������،\xad�������������\u061B���\u061F�\u0621\u0622\u0623"),
     (0xC4, "\u0624\u0625\u0626\u0627\u0628\u0629\u062A\u062B\u062C\u062D\u062E"),
     (0xCF, "\u062F\u0630\u0631\u0632\u0633\u0634\u0635\u0636\u0637\u0638\u0639"),
     (0xDA, "\u063A�����\u0640\u0641\u0642\u0643\u0644\u0645\u0646\u0647\u0648"),
     (0xE9, "\u0649\u064A\u064B\u064C\u064D\u064E\u064F\u0650\u0651\u0652������"),
     (0xF9, "�������")]),
   ("iso8859_7", [(0xA1, "‘’£€₯¦§¨©ͺ«¬\xad�―°±²³΄΅Ά·ΈΉΊ»Ό½ΎΏΐΑΒΓΔΕΖΗΘΙΚΛΜΝΞΟΠΡ�ΣΤΥΦΧΨΩΪΫάέήί"),
     (0xE0, "ΰαβγδεζηθικλμνξοπρςστυφχψωϊϋόύώ�")]),
   ("iso8859_8", [(0xA1, "�"),
     (0xAA, "×"),
     (0xBA, "÷»¼½¾��������������������������������‗\u05D0\u05D1\u05D2\u05D3"),
     (0xE4, "\u05D4\u05D5\u05D6\u05D7\u05D8\u05D9\u05DA\u05DB\u05DC\u05DD\u05DE"),
     (0xEF, "\u05DF\u05E0\u05E1\u05E2\u05E3\u05E4\u05E5\u05E6\u05E7\u05E8\u05E9"),
     (0xFA, "\u05EA��\u200E\u200F�")]),
   ("iso8859_9", [(0xD0, "Ğ"),
     (0xDD, "İŞ"),
     (0xF0, "ğ"),
     (0xFD, "ış")]),
   ("koi8_r", [(0x80, "─│┌┐└┘├┤┬┴┼▀▄█▌▐░▒▓⌠■∙√≈≤≥\xa0⌡°²·÷═║╒ё╓╔╕╖╗╘╙╚╛╜╝╞╟╠╡Ё╢╣╤╥╦╧╨╩╪╫╬"),
     (0xBF, "©юабцдефгхийклмнопярстужвьызшэщчъЮАБЦДЕФГХИЙКЛМНОПЯРСТУЖВЬЫЗШЭЩЧЪ")]),
   ("koi8_t", [(0x80, "қғ‚Ғ„…†‡�‰ҳ‹ҲҷҶ�Қ‘’“”•–—�™�›�����ӯӮё¤ӣ¦§���«¬\xad®�°±²Ё�Ӣ¶·�№�»���"),
     (0xBF, "©юабцдефгхийклмнопярстужвьызшэщчъЮАБЦДЕФГХИЙКЛМНОПЯРСТУЖВЬЫЗШЭЩЧЪ")]),
   ("koi8_u", [(0x80, "─│┌┐└┘├┤┬┴┼▀▄█▌▐░▒▓⌠■∙√≈≤≥\xa0⌡°²·÷═║╒ёє╔ії╗╘╙╚╛ґ╝╞╟╠╡ЁЄ╣ІЇ╦╧╨╩╪Ґ╬"),
     (0xBF, "©юабцдефгхийклмнопярстужвьызшэщчъЮАБЦДЕФГХИЙКЛМНОПЯРСТУЖВЬЫЗШЭЩЧЪ")]),
   ("kz1048", [(0x80, "ЂЃ‚ѓ„…†‡€‰Љ‹ЊҚҺЏђ‘’“”•–—�™љ›њқһџ\xa0ҰұӘ¤Ө¦§Ё©Ғ«¬\xad®Ү°±Ііөµ¶·ё№ғ»"),
     (0xBC, "әҢңүАБВГДЕЖЗИЙКЛМНОПРСТУФХЦЧШЩЪЫЬЭЮЯабвгдежзийклмнопрстуфхцчшщъыьэ"),
     (0xFE, "юя")]),
   ("mac_arabic", [(0x80, "Ä\xa0ÇÉÑÖÜáàâä\u06BA«çéèêëí…îïñó»ôö÷úùûü\x20!\"#$٪&'()*+،-./\u0660"),
     (0xB1, "\u0661\u0662\u0663\u0664\u0665\u0666\u0667\u0668\u0669:\u061B<=>"),
     (0xBF, "\u061F❊\u0621\u0622\u0623\u0624\u0625\u0626\u0627\u0628\u0629"),
     (0xCA, "\u062A\u062B\u062C\u062D\u062E\u062F\u0630\u0631\u0632\u0633\u0634"),
     (0xD5, "\u0635\u0636\u0637\u0638\u0639\u063A[\\]^_\u0640\u0641\u0642\u0643"),
     (0xE4, "\u0644\u0645\u0646\u0647\u0648\u0649\u064A\u064B\u064C\u064D\u064E"),
     (0xEF, "\u064F\u0650\u0651\u0652\u067E\u0679\u0686\u06D5\u06A4\u06AF\u0688"),
     (0xFA, "\u0691\x7b|\x7d\u0698\u06D2")]),
   ("mac_croatian", [(0x80, "ÄÅÇÉÑÖÜáàâäãåçéèêëíìîïñóòôöõúùûü†°¢£§•¶ß®Š™´¨≠ŽØ∞±≤≥∆µ∂∑∏š∫ªºΩžø¿¡"),
     (0xC2, "¬√ƒ≈Ć«Č…\xa0ÀÃÕŒœĐ—“”‘’÷◊\uF8FF©⁄€‹›Æ»–·‚„‰ÂćÁčÈÍÎÏÌÓÔđÒÚÛÙıˆ˜¯πË˚"),
     (0xFC, "¸Êæˇ")]),
   ("mac_cyrillic", [(0x80, "АБВГДЕЖЗИЙКЛМНОПРСТУФХЦЧШЩЪЫЬЭЮЯ†°Ґ£§•¶І®©™Ђђ≠Ѓѓ∞±≤≥іµґЈЄєЇїЉљЊњјЅ"),
     (0xC2, "¬√ƒ≈∆«»…\xa0ЋћЌќѕ–—“”‘’÷„ЎўЏџ№Ёёяабвгдежзийклмнопрстуфхцчшщъыьэю€")]),
   ("mac_farsi", [(0x80, "Ä\xa0ÇÉÑÖÜáàâä\u06BA«çéèêëí…îïñó»ôö÷úùûü\x20!\"#$٪&'()*+،-./۰۱۲۳۴۵"),
     (0xB6, "۶۷۸۹:\u061B<=>\u061F❊\u0621\u0622\u0623\u0624\u0625\u0626\u0627"),
     (0xC8, "\u0628\u0629\u062A\u062B\u062C\u062D\u062E\u062F\u0630\u0631\u0632"),
     (0xD3, "\u0633\u0634\u0635\u0636\u0637\u0638\u0639\u063A[\\]^_\u0640\u0641"),
     (0xE2, "\u0642\u0643\u0644\u0645\u0646\u0647\u0648\u0649\u064A\u064B\u064C"),
     (0xED, "\u064D\u064E\u064F\u0650\u0651\u0652\u067E\u0679\u0686\u06D5\u06A4"),
     (0xF8, "\u06AF\u0688\u0691\x7b|\x7d\u0698\u06D2")]),
   ("mac_greek", [(0x80, "Ä¹²É³ÖÜ΅àâä΄¨çéèêë£™îï•½‰ôö¦€ùûü†ΓΔΘΛΞΠß®©ΣΪ§≠°·Α±≤≥¥ΒΕΖΗΙΚΜΦΫΨΩάΝ"),
     (0xC2, "¬ΟΡ≈Τ«»…\xa0ΥΧΆΈœ–―“”‘’÷ΉΊΌΎέήίόΏύαβψδεφγηιξκλμνοπώρστθωςχυζϊϋΐΰ"),
     (0xFF, "\xad")]),
   ("mac_iceland", [(0x80, "ÄÅÇÉÑÖÜáàâäãåçéèêëíìîïñóòôöõúùûüÝ°¢£§•¶ß®©™´¨≠ÆØ∞±≤≥¥µ∂∑∏π∫ªºΩæø¿¡"),
     (0xC2, "¬√ƒ≈∆«»…\xa0ÀÃÕŒœ–—“”‘’÷◊ÿŸ⁄€ÐðÞþý·‚„‰ÂÊÁËÈÍÎÏÌÓÔ\uF8FFÒÚÛÙıˆ˜¯˘˙˚"),
     (0xFC, "¸˝˛ˇ")]),
   ("mac_latin2", [(0x80, "ÄĀāÉĄÖÜáąČäčĆćéŹźĎíďĒēĖóėôöõúĚěü†°Ę£§•¶ß®©™ę¨≠ģĮįĪ≤≥īĶ∂∑łĻļĽľĹĺŅņŃ"),
     (0xC2, "¬√ńŇ∆«»…\xa0ňŐÕőŌ–—“”‘’÷◊ōŔŕŘ‹›řŖŗŠ‚„šŚśÁŤťÍŽžŪÓÔūŮÚůŰűŲųÝýķŻŁżĢˇ")]),
   ("mac_roman", [(0x80, "ÄÅÇÉÑÖÜáàâäãåçéèêëíìîïñóòôöõúùûü†°¢£§•¶ß®©™´¨≠ÆØ∞±≤≥¥µ∂∑∏π∫ªºΩæø¿¡"),
     (0xC2, "¬√ƒ≈∆«»…\xa0ÀÃÕŒœ–—“”‘’÷◊ÿŸ⁄€‹›ﬁﬂ‡·‚„‰ÂÊÁËÈÍÎÏÌÓÔ\uF8FFÒÚÛÙıˆ˜¯˘˙˚"),
     (0xFC, "¸˝˛ˇ")]),
   ("mac_romanian", [(0x80, "ÄÅÇÉÑÖÜáàâäãåçéèêëíìîïñóòôöõúùûü†°¢£§•¶ß®©™´¨≠ĂȘ∞±≤≥¥µ∂∑∏π∫ªºΩăș¿¡"),
     (0xC2, "¬√ƒ≈∆«»…\xa0ÀÃÕŒœ–—“”‘’÷◊ÿŸ⁄€‹›Țț‡·‚„‰ÂÊÁËÈÍÎÏÌÓÔ\uF8FFÒÚÛÙıˆ˜¯˘˙˚"),
     (0xFC, "¸˝˛ˇ")]),
   ("mac_turkish", [(0x80, "ÄÅÇÉÑÖÜáàâäãåçéèêëíìîïñóòôöõúùûü†°¢£§•¶ß®©™´¨≠ÆØ∞±≤≥¥µ∂∑∏π∫ªºΩæø¿¡"),
     (0xC2, "¬√ƒ≈∆«»…\xa0ÀÃÕŒœ–—“”‘’÷◊ÿŸĞğİıŞş‡·‚„‰ÂÊÁËÈÍÎÏÌÓÔ\uF8FFÒÚÛÙ\uF8A0ˆ"),
     (0xF7, "˜¯˘˙˚¸˝˛ˇ")]),
   ("palmos", [(0x80, "€\x81‚ƒ„…†‡ˆ‰Š‹Œ♦♣♥♠‘’“”•–—˜™š\x9bœ\x9d\x9eŸ")]),
   ("ptcp154", [(0x80, "ҖҒӮғ„…ҶҮҲүҠӢҢҚҺҸҗ‘’“”•–—ҳҷҡӣңқһҹ\xa0ЎўЈӨҘҰ§Ё©Ә«¬ӯ®Ҝ°ұІіҙө¶·ё№ә»јҪҫ"),
     (0xBF, "ҝАБВГДЕЖЗИЙКЛМНОПРСТУФХЦЧШЩЪЫЬЭЮЯабвгдежзийклмнопрстуфхцчшщъыьэюя")]),
   ("tis_620", [(0xA0, "�กขฃคฅฆงจฉชซฌญฎฏฐฑฒณดตถทธนบปผฝพฟภมยรฤลฦวศษสหฬอฮฯะ\u0E31าำ\u0E34"),
     (0xD5, "\u0E35\u0E36\u0E37\u0E38\u0E39\u0E3A����฿เแโใไๅๆ\u0E47\u0E48\u0E49"),
     (0xEA, "\u0E4A\u0E4B\u0E4C\u0E4D\u0E4E๏๐๑๒๓๔๕๖๗๘๙๚๛����")])]

/-- The code page with a name. -/
def ofName? (name : String) : Option Grid := table.lookup name

/-- The character of a byte. -/
def decodeByte (page : Grid) (b : UInt8) : Option CodePoint :=
  match page.at? b.toNat with
  | some _ => page.get? b.toNat
  | none => some (CodePoint.ofNat b.toNat)

/-- The byte of a character, the last one if there are several. -/
def encodePoint (page : Grid) (c : CodePoint) : Option UInt8 :=
  ((List.range 256).reverse.map UInt8.ofNat).find? fun b => decodeByte page b = some c

end SourceDocs.CodePage
