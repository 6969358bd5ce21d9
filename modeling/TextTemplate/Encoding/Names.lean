/-
Names of encodings: those registered for use on the Internet, in lower case. A registered name need
not have an encoding here.
-/
import TextTemplate.Encoding.Basic
import TextTemplate.Text.Blank
import TextTemplate.Text.Case

namespace TextTemplate.Encoding

/-- The encodings with their names. -/
def supported : List (Encoding × String) := [
  (.ascii,
    "us-ascii iso-ir-6 ansi_x3.4-1968 ansi_x3.4-1986 iso_646.irv:1991 iso646-us us " ++
    "ibm367 cp367 csascii"),
  (.latin1, "iso_8859-1:1987 iso-ir-100 iso_8859-1 iso-8859-1 latin1 l1 ibm819 cp819 csisolatin1"),
  (.upperPage CodePage.iso8859p2,
    "iso_8859-2:1987 iso-ir-101 iso_8859-2 iso-8859-2 latin2 l2 csisolatin2"),
  (.upperPage CodePage.iso8859p3,
    "iso_8859-3:1988 iso-ir-109 iso_8859-3 iso-8859-3 latin3 l3 csisolatin3"),
  (.upperPage CodePage.iso8859p4,
    "iso_8859-4:1988 iso-ir-110 iso_8859-4 iso-8859-4 latin4 l4 csisolatin4"),
  (.upperPage CodePage.iso8859p5,
    "iso_8859-5:1988 iso-ir-144 iso_8859-5 iso-8859-5 cyrillic csisolatincyrillic"),
  (.upperPage CodePage.iso8859p6,
    "iso_8859-6:1987 iso-ir-127 iso_8859-6 iso-8859-6 ecma-114 asmo-708 arabic " ++
    "csisolatinarabic"),
  (.upperPage CodePage.iso8859p7,
    "iso_8859-7:1987 iso-ir-126 iso_8859-7 iso-8859-7 elot_928 ecma-118 greek greek8 " ++
    "csisolatingreek"),
  (.upperPage CodePage.iso8859p8,
    "iso_8859-8:1988 iso-ir-138 iso_8859-8 iso-8859-8 hebrew csisolatinhebrew"),
  (.upperPage CodePage.iso8859p9,
    "iso_8859-9:1989 iso-ir-148 iso_8859-9 iso-8859-9 latin5 l5 csisolatin5"),
  (.upperPage CodePage.iso8859p10, "iso-8859-10 iso-ir-157 l6 iso_8859-10:1992 csisolatin6 latin6"),
  (.eastAsian .shiftJIS, "shift_jis ms_kanji csshiftjis"),
  (.eastAsian .eucJP, "extended_unix_code_packed_format_for_japanese cseucpkdfmtjapanese euc-jp"),
  (.eastAsian .eucKR, "euc-kr cseuckr"),
  (.eastAsian .iso2022JP, "iso-2022-jp csiso2022jp"),
  (.upperPage CodePage.iso8859p6, "iso_8859-6-e csiso88596e iso-8859-6-e"),
  (.upperPage CodePage.iso8859p6, "iso_8859-6-i csiso88596i iso-8859-6-i"),
  (.upperPage CodePage.iso8859p8, "iso_8859-8-e csiso88598e iso-8859-8-e"),
  (.upperPage CodePage.iso8859p8, "iso_8859-8-i csiso88598i iso-8859-8-i"),
  (.utf8, "utf-8 csutf8"),
  (.upperPage CodePage.iso8859p13, "iso-8859-13 csiso885913"),
  (.upperPage CodePage.iso8859p14,
    "iso-8859-14 iso-ir-199 iso_8859-14:1998 iso_8859-14 latin8 iso-celtic l8 " ++
    "csiso885914"),
  (.upperPage CodePage.iso8859p15, "iso-8859-15 iso_8859-15 latin-9 csiso885915"),
  (.upperPage CodePage.iso8859p16,
    "iso-8859-16 iso-ir-226 iso_8859-16:2001 iso_8859-16 latin10 l10 csiso885916"),
  (.eastAsian .gbk, "gbk cp936 ms936 windows-936 csgbk"),
  (.eastAsian .gb18030, "gb18030 csgb18030"),
  (.utf16 .big false, "utf-16be csutf16be"),
  (.utf16 .little false, "utf-16le csutf16le"),
  (.utf16 .big true, "utf-16 csutf16"),
  (.upperPage CodePage.ibm850, "ibm850 cp850 850 cspc850multilingual"),
  (.upperPage CodePage.ibm852, "ibm852 cp852 852 cspcp852"),
  (.upperPage CodePage.ibm437, "ibm437 cp437 437 cspc8codepage437"),
  (.upperPage CodePage.ibm862, "ibm862 cp862 862 cspc862latinhebrew"),
  (.eastAsian .big5, "big5 csbig5"),
  (.upperPage CodePage.macintosh, "macintosh mac csmacintosh"),
  (.fullPage CodePage.ibm037,
    "ibm037 cp037 ebcdic-cp-us ebcdic-cp-ca ebcdic-cp-wt ebcdic-cp-nl csibm037"),
  (.upperPage CodePage.ibm855, "ibm855 cp855 855 csibm855"),
  (.upperPage CodePage.ibm860, "ibm860 cp860 860 csibm860"),
  (.upperPage CodePage.ibm863, "ibm863 cp863 863 csibm863"),
  (.upperPage CodePage.ibm865, "ibm865 cp865 865 csibm865"),
  (.upperPage CodePage.koi8r, "koi8-r cskoi8r"),
  (.eastAsian .hzGB2312, "hz-gb-2312"),
  (.upperPage CodePage.ibm866, "ibm866 cp866 866 csibm866"),
  (.upperPage CodePage.koi8u, "koi8-u cskoi8u"),
  (.upperPage CodePage.ibm858, "ibm00858 ccsid00858 cp00858 pc-multilingual-850+euro csibm00858"),
  (.fullPage CodePage.ibm1140, "ibm01140 ccsid01140 cp01140 ebcdic-us-37+euro csibm01140"),
  (.fullPage CodePage.ibm1047, "ibm1047 ibm-1047 csibm1047"),
  (.upperPage CodePage.windows874, "windows-874 cswindows874"),
  (.upperPage CodePage.windows1250, "windows-1250 cswindows1250"),
  (.upperPage CodePage.windows1251, "windows-1251 cswindows1251"),
  (.upperPage CodePage.windows1252, "windows-1252 cswindows1252"),
  (.upperPage CodePage.windows1253, "windows-1253 cswindows1253"),
  (.upperPage CodePage.windows1254, "windows-1254 cswindows1254"),
  (.upperPage CodePage.windows1255, "windows-1255 cswindows1255"),
  (.upperPage CodePage.windows1256, "windows-1256 cswindows1256"),
  (.upperPage CodePage.windows1257, "windows-1257 cswindows1257"),
  (.upperPage CodePage.windows1258, "windows-1258 cswindows1258")]

/-- The registered names without an encoding. -/
def unsupported : String :=
  "iso_6937-2-add iso-ir-142 csisotextcomm jis_x0201 x0201 cshalfwidthkatakana jis_encoding " ++
  "csjisencoding extended_unix_code_fixed_width_for_japanese cseucfixwidjapanese bs_4730 " ++
  "iso-ir-4 iso646-gb gb uk csiso4unitedkingdom sen_850200_c iso-ir-11 iso646-se2 se2 " ++
  "csiso11swedishfornames it iso-ir-15 iso646-it csiso15italian es iso-ir-17 iso646-es " ++
  "csiso17spanish din_66003 iso-ir-21 de iso646-de csiso21german ns_4551-1 iso-ir-60 " ++
  "iso646-no no csiso60danishnorwegian csiso60norwegian1 nf_z_62-010 iso-ir-69 iso646-fr fr " ++
  "csiso69french iso-10646-utf-1 csiso10646utf1 iso_646.basic:1983 ref csiso646basic1983 " ++
  "invariant csinvariant iso_646.irv:1983 iso-ir-2 irv csiso2intlrefversion nats-sefi " ++
  "iso-ir-8-1 csnatssefi nats-sefi-add iso-ir-8-2 csnatssefiadd nats-dano iso-ir-9-1 " ++
  "csnatsdano nats-dano-add iso-ir-9-2 csnatsdanoadd sen_850200_b iso-ir-10 fi iso646-fi " ++
  "iso646-se se csiso10swedish ks_c_5601-1987 iso-ir-149 ks_c_5601-1989 ksc_5601 korean " ++
  "csksc56011987 iso-2022-kr csiso2022kr iso-2022-jp-2 csiso2022jp2 jis_c6220-1969-jp " ++
  "jis_c6220-1969 iso-ir-13 katakana x0201-7 csiso13jisc6220jp jis_c6220-1969-ro iso-ir-14 " ++
  "jp iso646-jp csiso14jisc6220ro pt iso-ir-16 iso646-pt csiso16portuguese greek7-old " ++
  "iso-ir-18 csiso18greek7old latin-greek iso-ir-19 csiso19latingreek nf_z_62-010_(1973) " ++
  "iso-ir-25 iso646-fr1 csiso25french latin-greek-1 iso-ir-27 csiso27latingreek1 iso_5427 " ++
  "iso-ir-37 csiso5427cyrillic jis_c6226-1978 iso-ir-42 csiso42jisc62261978 bs_viewdata " ++
  "iso-ir-47 csiso47bsviewdata inis iso-ir-49 csiso49inis inis-8 iso-ir-50 csiso50inis8 " ++
  "inis-cyrillic iso-ir-51 csiso51iniscyrillic iso_5427:1981 iso-ir-54 iso5427cyrillic1981 " ++
  "csiso54271981 iso_5428:1980 iso-ir-55 csiso5428greek gb_1988-80 iso-ir-57 cn iso646-cn " ++
  "csiso57gb1988 gb_2312-80 iso-ir-58 chinese csiso58gb231280 ns_4551-2 iso646-no2 " ++
  "iso-ir-61 no2 csiso61norwegian2 videotex-suppl iso-ir-70 csiso70videotexsupp1 pt2 " ++
  "iso-ir-84 iso646-pt2 csiso84portuguese2 es2 iso-ir-85 iso646-es2 csiso85spanish2 " ++
  "msz_7795.3 iso-ir-86 iso646-hu hu csiso86hungarian jis_c6226-1983 iso-ir-87 x0208 " ++
  "jis_x0208-1983 csiso87jisx0208 greek7 iso-ir-88 csiso88greek7 asmo_449 iso_9036 arabic7 " ++
  "iso-ir-89 csiso89asmo449 iso-ir-90 csiso90 jis_c6229-1984-a iso-ir-91 jp-ocr-a " ++
  "csiso91jisc62291984a jis_c6229-1984-b iso-ir-92 iso646-jp-ocr-b jp-ocr-b " ++
  "csiso92jisc62991984b jis_c6229-1984-b-add iso-ir-93 jp-ocr-b-add csiso93jis62291984badd " ++
  "jis_c6229-1984-hand iso-ir-94 jp-ocr-hand csiso94jis62291984hand jis_c6229-1984-hand-add " ++
  "iso-ir-95 jp-ocr-hand-add csiso95jis62291984handadd jis_c6229-1984-kana iso-ir-96 " ++
  "csiso96jisc62291984kana iso_2033-1983 iso-ir-98 e13b csiso2033 ansi_x3.110-1983 " ++
  "iso-ir-99 csa_t500-1983 naplps csiso99naplps t.61-7bit iso-ir-102 csiso102t617bit " ++
  "t.61-8bit t.61 iso-ir-103 csiso103t618bit ecma-cyrillic iso-ir-111 koi8-e " ++
  "csiso111ecmacyrillic csa_z243.4-1985-1 iso-ir-121 iso646-ca csa7-1 csa71 ca " ++
  "csiso121canadian1 csa_z243.4-1985-2 iso-ir-122 iso646-ca2 csa7-2 csa72 csiso122canadian2 " ++
  "csa_z243.4-1985-gr iso-ir-123 csiso123csaz24341985gr t.101-g2 iso-ir-128 csiso128t101g2 " ++
  "csn_369103 iso-ir-139 csiso139csn369103 jus_i.b1.002 iso-ir-141 iso646-yu js yu " ++
  "csiso141jusib1002 iec_p27-1 iso-ir-143 csiso143iecp271 jus_i.b1.003-serb iso-ir-146 " ++
  "serbian csiso146serbian jus_i.b1.003-mac macedonian iso-ir-147 csiso147macedonian " ++
  "greek-ccitt iso-ir-150 csiso150 csiso150greekccitt nc_nc00-10:81 cuba iso-ir-151 " ++
  "iso646-cu csiso151cuba iso_6937-2-25 iso-ir-152 csiso6937add gost_19768-74 st_sev_358-88 " ++
  "iso-ir-153 csiso153gost1976874 iso_8859-supp iso-ir-154 latin1-2-5 csiso8859supp " ++
  "iso_10367-box iso-ir-155 csiso10367box latin-lap lap iso-ir-158 csiso158lap " ++
  "jis_x0212-1990 x0212 iso-ir-159 csiso159jisx02121990 ds_2089 ds2089 iso646-dk dk " ++
  "csiso646danish us-dk csusdk dk-us csdkus ksc5636 iso646-kr csksc5636 unicode-1-1-utf-7 " ++
  "csunicode11utf7 iso-2022-cn csiso2022cn iso-2022-cn-ext csiso2022cnext " ++
  "osd_ebcdic_df04_15 csosdebcdicdf0415 osd_ebcdic_df03_irv csosdebcdicdf03irv " ++
  "osd_ebcdic_df04_1 csosdebcdicdf041 iso-11548-1 iso_11548-1 iso_tr_11548-1 csiso115481 " ++
  "kz-1048 strk1048-2002 rk1048 cskz1048 iso-10646-ucs-2 csunicode iso-10646-ucs-4 csucs4 " ++
  "iso-10646-ucs-basic csunicodeascii iso-10646-unicode-latin1 csunicodelatin1 iso-10646 " ++
  "iso-10646-j-1 csunicodejapanese iso-unicode-ibm-1261 csunicodeibm1261 " ++
  "iso-unicode-ibm-1268 csunicodeibm1268 iso-unicode-ibm-1276 csunicodeibm1276 " ++
  "iso-unicode-ibm-1264 csunicodeibm1264 iso-unicode-ibm-1265 csunicodeibm1265 unicode-1-1 " ++
  "csunicode11 scsu csscsu utf-7 csutf7 utf-7-imap csutf7imap cesu-8 cscesu8 cscesu-8 utf-32 csutf32 utf-32be " ++
  "csutf32be utf-32le csutf32le bocu-1 csbocu1 csbocu-1 iso-8859-1-windows-3.0-latin-1 " ++
  "cswindows30latin1 iso-8859-1-windows-3.1-latin-1 cswindows31latin1 " ++
  "iso-8859-2-windows-latin-2 cswindows31latin2 iso-8859-9-windows-latin-5 " ++
  "cswindows31latin5 hp-roman8 roman8 r8 cshproman8 adobe-standard-encoding " ++
  "csadobestandardencoding ventura-us csventuraus ventura-international " ++
  "csventurainternational dec-mcs dec csdecmcs pc8-danish-norwegian cspc8danishnorwegian " ++
  "pc8-turkish cspc8turkish ibm-symbols csibmsymbols ibm-thai csibmthai hp-legal cshplegal " ++
  "hp-pi-font cshppifont hp-math8 cshpmath8 adobe-symbol-encoding cshppsmath hp-desktop " ++
  "cshpdesktop ventura-math csventuramath microsoft-publishing csmicrosoftpublishing " ++
  "windows-31j cswindows31j gb2312 csgb2312 ibm038 ebcdic-int cp038 csibm038 ibm273 cp273 " ++
  "csibm273 ibm274 ebcdic-be cp274 csibm274 ibm275 ebcdic-br cp275 csibm275 ibm277 " ++
  "ebcdic-cp-dk ebcdic-cp-no csibm277 ibm278 cp278 ebcdic-cp-fi ebcdic-cp-se csibm278 " ++
  "ibm280 cp280 ebcdic-cp-it csibm280 ibm281 ebcdic-jp-e cp281 csibm281 ibm284 cp284 " ++
  "ebcdic-cp-es csibm284 ibm285 cp285 ebcdic-cp-gb csibm285 ibm290 cp290 ebcdic-jp-kana " ++
  "csibm290 ibm297 cp297 ebcdic-cp-fr csibm297 ibm420 cp420 ebcdic-cp-ar1 csibm420 ibm423 " ++
  "cp423 ebcdic-cp-gr csibm423 ibm424 cp424 ebcdic-cp-he csibm424 ibm500 cp500 ebcdic-cp-be " ++
  "ebcdic-cp-ch csibm500 ibm851 cp851 851 csibm851 ibm857 cp857 857 csibm857 ibm861 cp861 " ++
  "861 cp-is csibm861 ibm864 cp864 csibm864 ibm868 cp868 cp-ar csibm868 ibm869 cp869 869 " ++
  "cp-gr csibm869 ibm870 cp870 ebcdic-cp-roece ebcdic-cp-yu csibm870 ibm871 cp871 " ++
  "ebcdic-cp-is csibm871 ibm880 cp880 ebcdic-cyrillic csibm880 ibm891 cp891 csibm891 ibm903 " ++
  "cp903 csibm903 ibm904 cp904 904 csibbm904 ibm905 cp905 ebcdic-cp-tr csibm905 ibm918 " ++
  "cp918 ebcdic-cp-ar2 csibm918 ibm1026 cp1026 csibm1026 ebcdic-at-de csibmebcdicatde " ++
  "ebcdic-at-de-a csebcdicatdea ebcdic-ca-fr csebcdiccafr ebcdic-dk-no csebcdicdkno " ++
  "ebcdic-dk-no-a csebcdicdknoa ebcdic-fi-se csebcdicfise ebcdic-fi-se-a csebcdicfisea " ++
  "ebcdic-fr csebcdicfr ebcdic-it csebcdicit ebcdic-pt csebcdicpt ebcdic-es csebcdices " ++
  "ebcdic-es-a csebcdicesa ebcdic-es-s csebcdicess ebcdic-uk csebcdicuk ebcdic-us " ++
  "csebcdicus unknown-8bit csunknown8bit mnemonic csmnemonic mnem csmnem viscii csviscii " ++
  "viqr csviqr ibm775 cp775 cspc775baltic ibm00924 ccsid00924 cp00924 ebcdic-latin9--euro " ++
  "csibm00924 ibm01141 ccsid01141 cp01141 ebcdic-de-273+euro csibm01141 ibm01142 ccsid01142 " ++
  "cp01142 ebcdic-dk-277+euro ebcdic-no-277+euro csibm01142 ibm01143 ccsid01143 cp01143 " ++
  "ebcdic-fi-278+euro ebcdic-se-278+euro csibm01143 ibm01144 ccsid01144 cp01144 " ++
  "ebcdic-it-280+euro csibm01144 ibm01145 ccsid01145 cp01145 ebcdic-es-284+euro csibm01145 " ++
  "ibm01146 ccsid01146 cp01146 ebcdic-gb-285+euro csibm01146 ibm01147 ccsid01147 cp01147 " ++
  "ebcdic-fr-297+euro csibm01147 ibm01148 ccsid01148 cp01148 ebcdic-international-500+euro " ++
  "csibm01148 ibm01149 ccsid01149 cp01149 ebcdic-is-871+euro csibm01149 big5-hkscs " ++
  "csbig5hkscs ptcp154 csptcp154 pt154 cp154 cyrillic-asian amiga-1251 ami1251 amiga1251 " ++
  "ami-1251 csamiga1251 koi7-switched cskoi7switched brf csbrf tscii cstscii cp51932 " ++
  "cscp51932 tis-620 cstis620 iso-8859-11 cp50220 cscp50220"

/-- What is known of a name: nothing, that it is registered, or its encoding. -/
inductive Lookup where
  | unknown
  | registered
  | found (e : Encoding)

/-- Whether a name is among those of a list. -/
def isNamed (name : Text) (names : String) : Bool := (Text.pieces 0x20 (TextTemplate.utf8 names)).contains name

/-- Looks a name up, whatever its letter case and the blanks around it. -/
def lookup (name : Text) : Lookup :=
  let key := name.trim.lower
  match supported.find? fun (_, names) => isNamed key names with
  | some (e, _) => .found e
  | none => if isNamed key unsupported then .registered else .unknown

end TextTemplate.Encoding
