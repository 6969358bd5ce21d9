/-
Composite characters of Unicode 15: characters that stand for a base with a mark, or for another
character. A base and a mark make their composite, but for those that are only taken apart. The
syllables of Hangul are not written down, as they can be computed.
-/
import TextTemplate.Encoding.Chart

namespace TextTemplate.Composite

/-- A mark, and bases each followed by what it makes with the mark. -/
structure Row where
  mark : Nat
  chars : String

/-- The bases of a row and their composites. -/
def Row.entriesOf : List Char → List (Nat × Nat)
  | base :: composite :: cs => (base.toNat, composite.toNat) :: entriesOf cs
  | _ => []

def Row.entries (r : Row) : List (Nat × Nat) := entriesOf r.chars.toList

/-- The composites that are taken apart and put together. -/
def rows : List Row := [
  ⟨0x300, "AÀEÈIÌOÒUÙaàeèiìoòuùÜǛüǜNǸnǹЕЀИЍеѐиѝĒḔēḕŌṐōṑWẀwẁÂẦâầĂẰăằÊỀêềÔỒôồƠỜơờƯỪưừYỲyỳἀἂ"⟩,
  ⟨0x300, "ἁἃἈἊἉἋἐἒἑἓἘἚἙἛἠἢἡἣἨἪἩἫἰἲἱἳἸἺἹἻὀὂὁὃὈὊὉὋὐὒὑὓὙὛὠὢὡὣὨὪὩὫαὰεὲηὴιὶοὸυὺωὼΑᾺΕῈΗῊ᾿῍ϊῒΙῚ"⟩,
  ⟨0x300, "῾῝ϋῢΥῪ¨῭ΟῸΩῺ"⟩,
  ⟨0x301, "AÁEÉIÍOÓUÚYÝaáeéiíoóuúyýCĆcćLĹlĺNŃnńRŔrŕSŚsśZŹzźÜǗüǘGǴgǵÅǺåǻÆǼæǽØǾøǿ¨΅ΑΆΕΈΗΉΙΊ"⟩,
  ⟨0x301, "ΟΌΥΎΩΏϊΐαάεέηήιίϋΰοόυύωώϒϓГЃКЌгѓкќÇḈçḉĒḖēḗÏḮïḯKḰkḱMḾmḿÕṌõṍŌṒōṓPṔpṕŨṸũṹWẂwẃÂẤâấ"⟩,
  ⟨0x301, "ĂẮăắÊẾêếÔỐôốƠỚơớƯỨưứἀἄἁἅἈἌἉἍἐἔἑἕἘἜἙἝἠἤἡἥἨἬἩἭἰἴἱἵἸἼἹἽὀὄὁὅὈὌὉὍὐὔὑὕὙὝὠὤὡὥὨὬὩὭ᾿῎῾῞"⟩,
  ⟨0x302, "AÂEÊIÎOÔUÛaâeêiîoôuûCĈcĉGĜgĝHĤhĥJĴjĵSŜsŝWŴwŵYŶyŷZẐzẑẠẬạậẸỆẹệỌỘọộ"⟩,
  ⟨0x303, "AÃNÑOÕaãnñoõIĨiĩUŨuũVṼvṽÂẪâẫĂẴăẵEẼeẽÊỄêễÔỖôỗƠỠơỡƯỮưữYỸyỹ"⟩,
  ⟨0x304, "AĀaāEĒeēIĪiīOŌoōUŪuūÜǕüǖÄǞäǟȦǠȧǡÆǢæǣǪǬǫǭÖȪöȫÕȬõȭȮȰȯȱYȲyȳИӢиӣУӮуӯGḠgḡḶḸḷḹṚṜṛṝαᾱ"⟩,
  ⟨0x304, "ΑᾹιῑΙῙυῡΥῩ"⟩,
  ⟨0x306, "AĂaăEĔeĕGĞgğIĬiĭOŎoŏUŬuŭУЎИЙийуўЖӁжӂАӐаӑЕӖеӗȨḜȩḝẠẶạặαᾰΑᾸιῐΙῘυῠΥῨ"⟩,
  ⟨0x307, "CĊcċEĖeėGĠgġIİZŻzżAȦaȧOȮoȯBḂbḃDḊdḋFḞfḟHḢhḣMṀmṁNṄnṅPṖpṗRṘrṙSṠsṡŚṤśṥŠṦšṧṢṨṣṩTṪtṫ"⟩,
  ⟨0x307, "WẆwẇXẊxẋYẎyẏſẛ"⟩,
  ⟨0x308, "AÄEËIÏOÖUÜaäeëiïoöuüyÿYŸΙΪΥΫιϊυϋϒϔЕЁІЇеёіїАӒаӓӘӚәӛЖӜжӝЗӞзӟИӤиӥОӦоӧӨӪөӫЭӬэӭУӰуӱ"⟩,
  ⟨0x308, "ЧӴчӵЫӸыӹHḦhḧÕṎõṏŪṺūṻWẄwẅXẌxẍtẗ"⟩,
  ⟨0x309, "AẢaảÂẨâẩĂẲăẳEẺeẻÊỂêểIỈiỉOỎoỏÔỔôổƠỞơởUỦuủƯỬưửYỶyỷ"⟩,
  ⟨0x30A, "AÅaåUŮuůwẘyẙ"⟩,
  ⟨0x30B, "OŐoőUŰuűУӲуӳ"⟩,
  ⟨0x30C, "CČcčDĎdďEĚeěLĽlľNŇnňRŘrřSŠsšTŤtťZŽzžAǍaǎIǏiǐOǑoǒUǓuǔÜǙüǚGǦgǧKǨkǩƷǮʒǯjǰHȞhȟ"⟩,
  ⟨0x30F, "AȀaȁEȄeȅIȈiȉOȌoȍRȐrȑUȔuȕѴѶѵѷ"⟩,
  ⟨0x311, "AȂaȃEȆeȇIȊiȋOȎoȏRȒrȓUȖuȗ"⟩,
  ⟨0x313, "αἀΑἈεἐΕἘηἠΗἨιἰΙἸοὀΟὈυὐωὠΩὨρῤ"⟩,
  ⟨0x314, "αἁΑἉεἑΕἙηἡΗἩιἱΙἹοὁΟὉυὑΥὙωὡΩὩρῥΡῬ"⟩,
  ⟨0x31B, "OƠoơUƯuư"⟩,
  ⟨0x323, "BḄbḅDḌdḍHḤhḥKḲkḳLḶlḷMṂmṃNṆnṇRṚrṛSṢsṣTṬtṭVṾvṿWẈwẉZẒzẓAẠaạEẸeẹIỊiịOỌoọƠỢơợUỤuụƯỰ"⟩,
  ⟨0x323, "ưựYỴyỵ"⟩,
  ⟨0x324, "UṲuṳ"⟩,
  ⟨0x325, "AḀaḁ"⟩,
  ⟨0x326, "SȘsșTȚtț"⟩,
  ⟨0x327, "CÇcçGĢgģKĶkķLĻlļNŅnņRŖrŗSŞsşTŢtţEȨeȩDḐdḑHḨhḩ"⟩,
  ⟨0x328, "AĄaąEĘeęIĮiįUŲuųOǪoǫ"⟩,
  ⟨0x32D, "DḒdḓEḘeḙLḼlḽNṊnṋTṰtṱUṶuṷ"⟩,
  ⟨0x32E, "HḪhḫ"⟩,
  ⟨0x330, "EḚeḛIḬiḭUṴuṵ"⟩,
  ⟨0x331, "BḆbḇDḎdḏKḴkḵLḺlḻNṈnṉRṞrṟTṮtṯZẔzẕhẖ"⟩,
  ⟨0x338, "←↚→↛↔↮⇐⇍⇔⇎⇒⇏∃∄∈∉∋∌∣∤∥∦∼≁≃≄≅≇≈≉=≠≡≢≍≭<≮>≯≤≰≥≱≲≴≳≵≶≸≷≹≺⊀≻⊁⊂⊄⊃⊅⊆⊈⊇⊉⊢⊬⊨⊭⊩⊮⊫⊯≼⋠≽⋡⊑⋢"⟩,
  ⟨0x338, "⊒⋣⊲⋪⊳⋫⊴⋬⊵⋭"⟩,
  ⟨0x342, "ἀἆἁἇἈἎἉἏἠἦἡἧἨἮἩἯἰἶἱἷἸἾἹἿὐὖὑὗὙὟὠὦὡὧὨὮὩὯαᾶ¨῁ηῆ᾿῏ιῖϊῗ῾῟υῦϋῧωῶ"⟩,
  ⟨0x345, "ἀᾀἁᾁἂᾂἃᾃἄᾄἅᾅἆᾆἇᾇἈᾈἉᾉἊᾊἋᾋἌᾌἍᾍἎᾎἏᾏἠᾐἡᾑἢᾒἣᾓἤᾔἥᾕἦᾖἧᾗἨᾘἩᾙἪᾚἫᾛἬᾜἭᾝἮᾞἯᾟὠᾠὡᾡὢᾢὣᾣὤᾤὥᾥὦᾦ"⟩,
  ⟨0x345, "ὧᾧὨᾨὩᾩὪᾪὫᾫὬᾬὭᾭὮᾮὯᾯὰᾲαᾳάᾴᾶᾷΑᾼὴῂηῃήῄῆῇΗῌὼῲωῳώῴῶῷΩῼ"⟩,
  ⟨0x653, "\u0627\u0622"⟩,
  ⟨0x654, "\u0627\u0623\u0648\u0624\u064A\u0626\u06D5\u06C0\u06C1\u06C2\u06D2\u06D3"⟩,
  ⟨0x655, "\u0627\u0625"⟩,
  ⟨0x93C, "नऩरऱळऴ"⟩,
  ⟨0x9BE, "\u09C7\u09CB"⟩,
  ⟨0x9D7, "\u09C7\u09CC"⟩,
  ⟨0xB3E, "\u0B47\u0B4B"⟩,
  ⟨0xB56, "\u0B47\u0B48"⟩,
  ⟨0xB57, "\u0B47\u0B4C"⟩,
  ⟨0xBBE, "\u0BC6\u0BCA\u0BC7\u0BCB"⟩,
  ⟨0xBD7, "ஒஔ\u0BC6\u0BCC"⟩,
  ⟨0xC56, "\u0C46\u0C48"⟩,
  ⟨0xCC2, "\u0CC6\u0CCA"⟩,
  ⟨0xCD5, "\u0CBF\u0CC0\u0CC6\u0CC7\u0CCA\u0CCB"⟩,
  ⟨0xCD6, "\u0CC6\u0CC8"⟩,
  ⟨0xD3E, "\u0D46\u0D4A\u0D47\u0D4B"⟩,
  ⟨0xD57, "\u0D46\u0D4C"⟩,
  ⟨0xDCA, "\u0DD9\u0DDA\u0DDC\u0DDD"⟩,
  ⟨0xDCF, "\u0DD9\u0DDC"⟩,
  ⟨0xDDF, "\u0DD9\u0DDE"⟩,
  ⟨0x102E, "ဥဦ"⟩,
  ⟨0x1B35, "ᬅᬆᬇᬈᬉᬊᬋᬌᬍᬎᬑᬒ\u1B3A\u1B3B\u1B3C\u1B3D\u1B3E\u1B40\u1B3F\u1B41\u1B42\u1B43"⟩,
  ⟨0x3099, "かがきぎくぐけげこごさざしじすずせぜそぞただちぢつづてでとどはばひびふぶへべほぼうゔゝゞカガキギクグケゲコゴサザシジスズセゼソゾタダチヂツヅテデトドハバヒビ"⟩,
  ⟨0x3099, "フブヘベホボウヴワヷヰヸヱヹヲヺヽヾ"⟩,
  ⟨0x309A, "はぱひぴふぷへぺほぽハパヒピフプヘペホポ"⟩,
  ⟨0x110BA, "𑂙𑂚𑂛𑂜𑂥𑂫"⟩,
  ⟨0x11127, "𑄱𑄮𑄲𑄯"⟩,
  ⟨0x1133E, "𑍇𑍋"⟩,
  ⟨0x11357, "𑍇𑍌"⟩,
  ⟨0x114B0, "𑒹𑒼"⟩,
  ⟨0x114BA, "𑒹𑒻"⟩,
  ⟨0x114BD, "𑒹𑒾"⟩,
  ⟨0x115AF, "𑖸𑖺𑖹𑖻"⟩,
  ⟨0x11930, "𑤵𑤸"⟩]

/-- The composites that are only taken apart. -/
def partedRows : List Row := [
  ⟨0x301, "\u0308\u0344"⟩,
  ⟨0x338, "⫝⫝̸"⟩,
  ⟨0x5B4, "\u05D9יִ"⟩,
  ⟨0x5B7, "\u05F2ײַ\u05D0אַ"⟩,
  ⟨0x5B8, "\u05D0אָ"⟩,
  ⟨0x5B9, "\u05D5וֹ"⟩,
  ⟨0x5BC, "\u05D0אּ\u05D1בּ\u05D2גּ\u05D3דּ\u05D4הּ\u05D5וּ\u05D6זּ\u05D8טּ\u05D9יּ\u05DAךּ\u05DBכּ"⟩,
  ⟨0x5BC, "\u05DCלּ\u05DEמּ\u05E0נּ\u05E1סּ\u05E3ףּ\u05E4פּ\u05E6צּ\u05E7קּ\u05E8רּ\u05E9שּ\u05EAתּ"⟩,
  ⟨0x5BF, "\u05D1בֿ\u05DBכֿ\u05E4פֿ"⟩,
  ⟨0x5C1, "\u05E9שׁשּשּׁ"⟩,
  ⟨0x5C2, "\u05E9שׂשּשּׂ"⟩,
  ⟨0x93C, "कक़खख़गग़जज़डड़ढढ़फफ़यय़"⟩,
  ⟨0x9BC, "ডড়ঢঢ়যয়"⟩,
  ⟨0xA3C, "ਲਲ਼ਸਸ਼ਖਖ਼ਗਗ਼ਜਜ਼ਫਫ਼"⟩,
  ⟨0xB3C, "ଡଡ଼ଢଢ଼"⟩,
  ⟨0xF72, "\u0F71\u0F73"⟩,
  ⟨0xF74, "\u0F71\u0F75"⟩,
  ⟨0xF80, "\u0FB2\u0F76\u0FB3\u0F78\u0F71\u0F81"⟩,
  ⟨0xFB5, "ཀཀྵ\u0F90\u0FB9"⟩,
  ⟨0xFB7, "གགྷཌཌྷདདྷབབྷཛཛྷ\u0F92\u0F93\u0F9C\u0F9D\u0FA1\u0FA2\u0FA6\u0FA7\u0FAB\u0FAC"⟩,
  ⟨0x1D165, "𝅗𝅗𝅥𝅘𝅘𝅥𝆹𝆹𝅥𝆺𝆺𝅥"⟩,
  ⟨0x1D16E, "𝅘𝅥𝅘𝅥𝅮𝆹𝅥𝆹𝅥𝅮𝆺𝅥𝆺𝅥𝅮"⟩,
  ⟨0x1D16F, "𝅘𝅥𝅘𝅥𝅯𝆹𝅥𝆹𝅥𝅯𝆺𝅥𝆺𝅥𝅯"⟩,
  ⟨0x1D170, "𝅘𝅥𝅘𝅥𝅰"⟩,
  ⟨0x1D171, "𝅘𝅥𝅘𝅥𝅱"⟩,
  ⟨0x1D172, "𝅘𝅥𝅘𝅥𝅲"⟩]

/-- The characters that stand for another one, by runs of codes. -/
def singles : List Chart.Run := [
  ⟨0x340, "\u0300\u0301.\u0313"⟩,
  ⟨0x374, "ʹ"⟩,
  ⟨0x37E, ";"⟩,
  ⟨0x387, "·"⟩,
  ⟨0x1F71, "ά.έ.ή.ί.ό.ύ.ώ"⟩,
  ⟨0x1FBB, "Ά..ι"⟩,
  ⟨0x1FC9, "Έ.Ή"⟩,
  ⟨0x1FD3, "ΐ"⟩,
  ⟨0x1FDB, "Ί"⟩,
  ⟨0x1FE3, "ΰ"⟩,
  ⟨0x1FEB, "Ύ..΅`"⟩,
  ⟨0x1FF9, "Ό.Ώ.´..\u2002\u2003"⟩,
  ⟨0x2126, "Ω...KÅ"⟩,
  ⟨0x2329, "〈〉"⟩,
  ⟨0xF900, "豈更車賈滑串句龜龜契金喇奈懶癩羅蘿螺裸邏樂洛烙珞落酪駱亂卵欄爛蘭鸞嵐濫藍襤拉臘蠟廊朗浪狼郎來冷勞擄櫓爐盧老蘆虜路露魯鷺碌祿綠菉錄鹿論壟弄籠聾牢磊賂雷壘屢樓淚"⟩,
  ⟨0xF94E, "漏累縷陋勒肋凜凌稜綾菱陵讀拏樂諾丹寧怒率異北磻便復不泌數索參塞省葉說殺辰沈拾若掠略亮兩凉梁糧良諒量勵呂女廬旅濾礪閭驪麗黎力曆歷轢年憐戀撚漣煉璉秊練聯輦蓮連鍊"⟩,
  ⟨0xF99C, "列劣咽烈裂說廉念捻殮簾獵令囹寧嶺怜玲瑩羚聆鈴零靈領例禮醴隸惡了僚寮尿料樂燎療蓼遼龍暈阮劉杻柳流溜琉留硫紐類六戮陸倫崙淪輪律慄栗率隆利吏履易李梨泥理痢罹裏裡里"⟩,
  ⟨0xF9EA, "離匿溺吝燐璘藺隣鱗麟林淋臨立笠粒狀炙識什茶刺切度拓糖宅洞暴輻行降見廓兀嗀..塚.晴..凞猪益礼神祥福靖精羽.蘒.諸..逸都...飯飼館鶴郞隷侮僧免勉勤卑喝嘆"⟩,
  ⟨0xFA38, "器塀墨層屮悔慨憎懲敏既暑梅海渚漢煮爫琢碑社祉祈祐祖祝禍禎穀突節練縉繁署者臭艹艹著褐視謁謹賓贈辶逸難響頻恵𤋮舘..並况全侀充冀勇勺喝啕喙嗢塚墳奄奔婢嬨廒廙彩徭"⟩,
  ⟨0xFA86, "惘慎愈憎慠懲戴揄搜摒敖晴朗望杖歹殺流滛滋漢瀞煮瞧爵犯猪瑱甆画瘝瘟益盛直睊着磌窱節类絛練缾者荒華蝹襁覆視調諸請謁諾諭謹變贈輸遲醙鉶陼難靖韛響頋頻鬒龜𢡊𢡄𣏕㮝䀘"⟩,
  ⟨0xFAD4, "䀹𥉉𥳐𧻓齃龎"⟩,
  ⟨0x2F800, "丽丸乁𠄢你侮侻倂偺備僧像㒞𠘺免兔兤具𠔜㒹內再𠕋冗冤仌冬况𩇟凵刃㓟刻剆割剷㔕勇勉勤勺包匆北卉卑博即卽卿卿卿𠨬灰及叟𠭣叫叱吆咞吸呈周咢哶唐啓啣善善喙喫喳嗂圖嘆圗"⟩,
  ⟨0x2F84E, "噑噴切壮城埴堍型堲報墬𡓤売壷夆多夢奢𡚨𡛪姬娛娧姘婦㛮㛼嬈嬾嬾𡧈寃寘寧寳𡬘寿将当尢㞁屠屮峀岍𡷤嵃𡷦嵮嵫嵼巡巢㠯巽帨帽幩㡢𢆃㡼庰庳庶廊𪎒廾𢌱𢌱舁弢弢㣇𣊸𦇚形彫㣣"⟩,
  ⟨0x2F89C, "徚忍志忹悁㤺㤜悔𢛔惇慈慌慎慌慺憎憲憤憯懞懲懶成戛扝抱拔捐𢬌挽拼捨掃揤𢯱搢揅掩㨮摩摾撝摷㩬敏敬𣀊旣書晉㬙暑㬈㫤冒冕最暜肭䏙朗望朡杞杓𣏃㭉柺枅桒梅𣑭梎栟椔㮝楂榣"⟩,
  ⟨0x2F8EA, "槪檨𣚣櫛㰘次𣢧歔㱎歲殟殺殻𣪍𡴋𣫺汎𣲼沿泍汧洖派海流浩浸涅𣴞洴港湮㴳滋滇𣻑淹潮𣽞𣾎濆瀹瀞瀛㶖灊災灷炭𠔥煅𤉣熜𤎫爨爵牐𤘈犀犕𤜵𤠔獺王㺬玥㺸㺸瑇瑜瑱璅瓊㼛甤𤰶甾𤲒"⟩,
  ⟨0x2F938, "異𢆟瘐𤾡𤾸𥁄㿼䀈直𥃳𥃲𥄙𥄳眞真真睊䀹瞋䁆䂖𥐝硎碌磌䃣𥘦祖𥚚𥛅福秫䄯穀穊穏𥥼𥪧𥪧竮䈂𥮫篆築䈧𥲀糒䊠糨糣紀𥾆絣䌁緇縂繅䌴𦈨𦉇䍙𦋙罺𦌾羕翺者𦓚𦔣聠𦖨聰𣍟䏕育脃䐋脾"⟩,
  ⟨0x2F986, "媵𦞧𦞵𣎓𣎜舁舄辞䑫芑芋芝劳花芳芽苦𦬼若茝荣莭茣莽菧著荓菊菌菜𦰶𦵫𦳕䔫蓱蓳蔖𧏊蕤𦼬䕝䕡𦾱𧃒䕫虐虜虧虩蚩蚈蜎蛢蝹蜨蝫螆䗗蟡蠁䗹衠衣𧙧裗裞䘵裺㒻𧢮𧥦䚾䛇誠諭變豕𧲨"⟩,
  ⟨0x2F9D4, "貫賁贛起𧼯𠠄跋趼跰𠣞軔輸𨗒𨗭邔郱鄑𨜮鄛鈸鋗鋘鉼鏹鐕𨯺開䦕閷𨵷䧦雃嶲霣𩅅𩈚䩮䩶韠𩐊䪲𩒖頋頋頩𩖶飢䬳餩馧駂駾䯎𩬰鬒鱀鳽䳎䳭鵧𪃎䳸𪄅𪈎𪊑麻䵖黹黾鼅鼏鼖鼻𪘀"⟩]

/-- What a base and a mark make. -/
def made : Std.HashMap (Nat × Nat) Nat :=
  rows.foldl (fun m r => r.entries.foldl (fun m (base, c) => m.insert (base, r.mark) c) m) ∅

/-- What a composite is taken apart into, one step at a time. -/
def parts : Std.HashMap Nat (List Nat) :=
  let m := (rows ++ partedRows).foldl (fun m r =>
    r.entries.foldl (fun m (base, c) => m.insert c [base, r.mark]) m) ∅
  singles.foldl (fun m run => run.entries.foldl (fun m (c, code) => m.insert code [c]) m) m

/-- The characters that may join the one before them. -/
def joining : Std.HashMap Nat Unit :=
  rows.foldl (fun m r => m.insert r.mark ()) ∅

end TextTemplate.Composite
