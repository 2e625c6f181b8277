import Farcall.Text.Composition

/-!
# Compatible identifiers

Unicode counts identifiers as the same when their compatibility forms (NFKC) are: a ligature stands
for its letters, a wide or an ornate letter for the plain one, and a letter followed by marks for
the composed character. The tables hold the identifier characters of Unicode 14 that are not their
own form.
-/

namespace Farcall.Text

/-- The characters whose form is a single character: the first of a row, and the forms of the row. -/
def singleForms : List (Nat × String) := [
    (170, "a"), (181, "μ"), (186, "o"), (383, "s"), (688, "hɦjrɹɻʁwy"), (736, "ɣlsxʕ"),
    (832, "\u0300\u0301"), (835, "\u0313"), (884, "ʹ"), (903, "·"), (976, "βθΥΎΫφπ"),
    (1008, "κρς"), (1012, "Θε"), (1017, "Σ"), (4348, "ნ"), (7468, "AÆB"), (7472, "DEƎGHIJKLMN"),
    (7484, "OȢPRTUWaɐɑᴂbdeəɛɜg"), (7503, "kmŋoɔᴖᴗptuᴝɯvᴥβγδφχiruvβγρφχ"), (7544, "н"),
    (7579, "ɒcɕðɜfɟɡɥɨɩɪᵻʝɭᶅʟɱɰɲɳɴɵɸʂʃƫʉʊᴜʋʌzʐʑʒθ"), (7835, "ṡ"), (8049, "ά"), (8051, "έ"),
    (8053, "ή"), (8055, "ί"), (8057, "ό"), (8059, "ύ"), (8061, "ώ"), (8123, "Ά"), (8126, "ι"),
    (8137, "Έ"), (8139, "Ή"), (8147, "ΐ"), (8155, "Ί"), (8163, "ΰ"), (8171, "Ύ"), (8185, "Ό"),
    (8187, "Ώ"), (8305, "i"), (8319, "n"), (8336, "aeoxəhklmnpst"), (8450, "C"), (8455, "Ɛ"),
    (8458, "gHHHhħIILl"), (8469, "N"), (8473, "PQRRR"), (8484, "Z"), (8486, "Ω"), (8488, "Z"),
    (8490, "KÅBC"), (8495, "eEF"), (8499, "Mo\u05d0\u05d1\u05d2\u05d3i"), (8508, "πγΓΠ"),
    (8517, "Ddeij"), (8544, "I"), (8548, "V"), (8553, "X"), (8556, "LCDMi"), (8564, "v"),
    (8569, "x"), (8572, "lcdm"), (11388, "jV"), (11631, "ⵡ"), (12344, "十卄卅"),
    (12593, "ᄀᄁᆪᄂᆬᆭᄃᄄᄅᆰᆱᆲᆳᆴᆵᄚᄆᄇᄈᄡᄉᄊᄋᄌᄍᄎᄏᄐᄑ하ᅢᅣᅤᅥᅦᅧᅨᅩᅪᅫᅬᅭᅮᅯᅰᅱᅲᅳᅴᅵ"),
    (12644, "\u1160ᄔᄕᇇᇈᇌᇎᇓᇗᇙᄜᇝᇟᄝᄞᄠᄢᄣᄧᄩᄫᄬᄭᄮᄯᄲᄶᅀᅇᅌᇱᇲᅗᅘᅙᆄᆅᆈᆑᆒᆔᆞᆡ"),
    (42652, "ъь"), (42864, "ꝯ"), (42994, "CFQ"), (43000, "Ħœ"), (43868, "ꜧꬷɫꭒ"), (43881, "ʍ"),
    (63744, "豈更車賈滑串句龜龜契金喇奈懶癩羅蘿螺裸邏樂洛烙珞落酪駱亂卵欄爛蘭鸞嵐濫藍"),
    (63780, "襤拉臘蠟廊朗浪狼郎來冷勞擄櫓爐盧老蘆虜路露魯鷺碌祿綠菉錄鹿論壟弄籠聾牢磊"),
    (63816, "賂雷壘屢樓淚漏累縷陋勒肋凜凌稜綾菱陵讀拏樂諾丹寧怒率異北磻便復不泌數索參"),
    (63852, "塞省葉說殺辰沈拾若掠略亮兩凉梁糧良諒量勵呂女廬旅濾礪閭驪麗黎力曆歷轢年憐"),
    (63888, "戀撚漣煉璉秊練聯輦蓮連鍊列劣咽烈裂說廉念捻殮簾獵令囹寧嶺怜玲瑩羚聆鈴零靈"),
    (63924, "領例禮醴隸惡了僚寮尿料樂燎療蓼遼龍暈阮劉杻柳流溜琉留硫紐類六戮陸倫崙淪輪"),
    (63960, "律慄栗率隆利吏履易李梨泥理痢罹裏裡里離匿溺吝燐璘藺隣鱗麟林淋臨立笠粒狀炙"),
    (63996, "識什茶刺切度拓糖宅洞暴輻行降見廓兀嗀"), (64016, "塚"), (64018, "晴"),
    (64021, "凞猪益礼神祥福靖精羽"), (64032, "蘒"), (64034, "諸"), (64037, "逸都"),
    (64042, "飯飼館鶴郞隷侮僧免勉勤卑喝嘆器塀墨層屮悔慨憎懲敏既暑梅海渚漢煮爫琢碑社祉"),
    (64078, "祈祐祖祝禍禎穀突節練縉繁署者臭艹艹著褐視謁謹賓贈辶逸難響頻恵𤋮舘"),
    (64112, "並况全侀充冀勇勺喝啕喙嗢塚墳奄奔婢嬨廒廙彩徭惘慎愈憎慠懲戴揄搜摒敖晴朗望"),
    (64148, "杖歹殺流滛滋漢瀞煮瞧爵犯猪瑱甆画瘝瘟益盛直睊着磌窱節类絛練缾者荒華蝹襁覆"),
    (64184, "視調諸請謁諾諭謹變贈輸遲醙鉶陼難靖韛響頋頻鬒龜𢡊𢡄𣏕㮝䀘䀹𥉉𥳐𧻓齃龎"),
    (64288, "\u05e2\u05d0\u05d3\u05d4\u05db\u05dc\u05dd\u05e8\u05ea"),
    (64336, "\u0671\u0671\u067b\u067b\u067b\u067b\u067e\u067e\u067e\u067e\u0680\u0680"),
    (64348, "\u0680\u0680\u067a\u067a\u067a\u067a\u067f\u067f\u067f\u067f\u0679\u0679"),
    (64360, "\u0679\u0679\u06a4\u06a4\u06a4\u06a4\u06a6\u06a6\u06a6\u06a6\u0684\u0684"),
    (64372, "\u0684\u0684\u0683\u0683\u0683\u0683\u0686\u0686\u0686\u0686\u0687\u0687"),
    (64384, "\u0687\u0687\u068d\u068d\u068c\u068c\u068e\u068e\u0688\u0688\u0698\u0698"),
    (64396, "\u0691\u0691\u06a9\u06a9\u06a9\u06a9\u06af\u06af\u06af\u06af\u06b3\u06b3"),
    (64408, "\u06b3\u06b3\u06b1\u06b1\u06b1\u06b1\u06ba\u06ba\u06bb\u06bb\u06bb\u06bb"),
    (64420, "\u06c0\u06c0\u06c1\u06c1\u06c1\u06c1\u06be\u06be\u06be\u06be\u06d2\u06d2"),
    (64432, "\u06d3\u06d3"),
    (64467, "\u06ad\u06ad\u06ad\u06ad\u06c7\u06c7\u06c6\u06c6\u06c8\u06c8"),
    (64478, "\u06cb\u06cb\u06c5\u06c5\u06c9\u06c9\u06d0\u06d0\u06d0\u06d0\u0649\u0649"),
    (64508, "\u06cc\u06cc\u06cc\u06cc"), (65075, "__"), (65101, "___"),
    (65152, "\u0621\u0622\u0622\u0623\u0623\u0624\u0624\u0625\u0625\u0626\u0626\u0626"),
    (65164, "\u0626\u0627\u0627\u0628\u0628\u0628\u0628\u0629\u0629\u062a\u062a\u062a"),
    (65176, "\u062a\u062b\u062b\u062b\u062b\u062c\u062c\u062c\u062c\u062d\u062d\u062d"),
    (65188, "\u062d\u062e\u062e\u062e\u062e\u062f\u062f\u0630\u0630\u0631\u0631\u0632"),
    (65200, "\u0632\u0633\u0633\u0633\u0633\u0634\u0634\u0634\u0634\u0635\u0635\u0635"),
    (65212, "\u0635\u0636\u0636\u0636\u0636\u0637\u0637\u0637\u0637\u0638\u0638\u0638"),
    (65224, "\u0638\u0639\u0639\u0639\u0639\u063a\u063a\u063a\u063a\u0641\u0641\u0641"),
    (65236, "\u0641\u0642\u0642\u0642\u0642\u0643\u0643\u0643\u0643\u0644\u0644\u0644"),
    (65248, "\u0644\u0645\u0645\u0645\u0645\u0646\u0646\u0646\u0646\u0647\u0647\u0647"),
    (65260, "\u0647\u0648\u0648\u0649\u0649\u064a\u064a\u064a\u064a"), (65296, "0123456789"),
    (65313, "ABCDEFGHIJKLMNOPQRSTUVWXYZ"), (65343, "_"), (65345, "abcdefghijklmnopqrstuvwxyz"),
    (65382, "ヲァィゥェォャュョッーアイウエオカキクケコサシスセソタチツテトナニヌネノ"),
    (65418, "ハヒフヘホマミムメモヤユヨラリルレロワン\u3099\u309a\u1160ᄀᄁᆪᄂᆬᆭᄃᄄ"),
    (65449, "ᄅᆰᆱᆲᆳᆴᆵᄚᄆᄇᄈᄡᄉᄊᄋᄌᄍᄎᄏᄐᄑᄒ"), (65474, "ᅡᅢᅣᅤᅥᅦ"), (65482, "ᅧᅨᅩᅪᅫᅬ"),
    (65490, "ᅭᅮᅯᅰᅱᅲ"), (65498, "ᅳᅴᅵ"), (67457, "ːˑæʙɓ"),
    (67463, "ʣꭦʥʤɖɗᶑɘɞʩɤɢɠʛħʜɧʄʪʫɬ𝼄ꞎɮ𝼅ʎ𝼆øɶɷqɺ𝼈ɽɾʀʨʦꭧʧʈⱱ"), (67506, "ʏʡʢʘǀǁǂ𝼊𝼞"),
    (119808, "ABCDEFGHIJKLMNOPQRSTUVWXYZabcdefghijklmnopqrstuvwxyzABCDEFGHIJKLMNOPQRST"),
    (119880, "UVWXYZabcdefg"),
    (119894, "ijklmnopqrstuvwxyzABCDEFGHIJKLMNOPQRSTUVWXYZabcdefghijklmnopqrstuvwxyzA"),
    (119966, "CD"), (119970, "G"), (119973, "JK"), (119977, "NOPQ"), (119982, "STUVWXYZabcd"),
    (119995, "f"), (119997, "hijklmn"),
    (120005, "pqrstuvwxyzABCDEFGHIJKLMNOPQRSTUVWXYZabcdefghijklmnopqrstuvwxyzAB"),
    (120071, "DEFG"), (120077, "JKLMNOPQ"), (120086, "STUVWXY"),
    (120094, "abcdefghijklmnopqrstuvwxyzAB"), (120123, "DEFG"), (120128, "IJKLM"), (120134, "O"),
    (120138, "STUVWXY"),
    (120146, "abcdefghijklmnopqrstuvwxyzABCDEFGHIJKLMNOPQRSTUVWXYZabcdefghijklmnopqrst"),
    (120218, "uvwxyzABCDEFGHIJKLMNOPQRSTUVWXYZabcdefghijklmnopqrstuvwxyzABCDEFGHIJKLMN"),
    (120290, "OPQRSTUVWXYZabcdefghijklmnopqrstuvwxyzABCDEFGHIJKLMNOPQRSTUVWXYZabcdefgh"),
    (120362, "ijklmnopqrstuvwxyzABCDEFGHIJKLMNOPQRSTUVWXYZabcdefghijklmnopqrstuvwxyzAB"),
    (120434, "CDEFGHIJKLMNOPQRSTUVWXYZabcdefghijklmnopqrstuvwxyzıȷ"),
    (120488, "ΑΒΓΔΕΖΗΘΙΚΛΜΝΞΟΠΡΘΣΤΥΦΧΨΩ"), (120514, "αβγδεζηθικλμνξοπρςστυφχψω"),
    (120540, "εθκφρπΑΒΓΔΕΖΗΘΙΚΛΜΝΞΟΠΡΘΣΤΥΦΧΨΩ"), (120572, "αβγδεζηθικλμνξοπρςστυφχψω"),
    (120598, "εθκφρπΑΒΓΔΕΖΗΘΙΚΛΜΝΞΟΠΡΘΣΤΥΦΧΨΩ"), (120630, "αβγδεζηθικλμνξοπρςστυφχψω"),
    (120656, "εθκφρπΑΒΓΔΕΖΗΘΙΚΛΜΝΞΟΠΡΘΣΤΥΦΧΨΩ"), (120688, "αβγδεζηθικλμνξοπρςστυφχψω"),
    (120714, "εθκφρπΑΒΓΔΕΖΗΘΙΚΛΜΝΞΟΠΡΘΣΤΥΦΧΨΩ"), (120746, "αβγδεζηθικλμνξοπρςστυφχψω"),
    (120772, "εθκφρπϜϝ"), (120782, "01234567890123456789012345678901234567890123456789"),
    (126464, "\u0627\u0628\u062c\u062f"),
    (126469, "\u0648\u0632\u062d\u0637\u064a\u0643\u0644\u0645\u0646\u0633\u0639\u0641"),
    (126481, "\u0635\u0642\u0631\u0634\u062a\u062b\u062e\u0630\u0636\u0638\u063a\u066e"),
    (126493, "\u06ba\u06a1\u066f"), (126497, "\u0628\u062c"), (126500, "\u0647"),
    (126503, "\u062d"), (126505, "\u064a\u0643\u0644\u0645\u0646\u0633\u0639\u0641\u0635\u0642"),
    (126516, "\u0634\u062a\u062b\u062e"), (126521, "\u0636"), (126523, "\u063a"),
    (126530, "\u062c"), (126535, "\u062d"), (126537, "\u064a"), (126539, "\u0644"),
    (126541, "\u0646\u0633\u0639"), (126545, "\u0635\u0642"), (126548, "\u0634"),
    (126551, "\u062e"), (126553, "\u0636"), (126555, "\u063a"), (126557, "\u06ba"),
    (126559, "\u066f"), (126561, "\u0628\u062c"), (126564, "\u0647"),
    (126567, "\u062d\u0637\u064a\u0643"), (126572, "\u0645\u0646\u0633\u0639\u0641\u0635\u0642"),
    (126580, "\u0634\u062a\u062b\u062e"), (126585, "\u0636\u0638\u063a\u066e"),
    (126590, "\u06a1"), (126592, "\u0627\u0628\u062c\u062f\u0647\u0648\u0632\u062d\u0637\u064a"),
    (126603, "\u0644\u0645\u0646\u0633\u0639\u0641\u0635\u0642\u0631\u0634\u062a\u062b"),
    (126615, "\u062e\u0630\u0636\u0638\u063a"), (126625, "\u0628\u062c\u062f"),
    (126629, "\u0648\u0632\u062d\u0637\u064a"),
    (126635, "\u0644\u0645\u0646\u0633\u0639\u0641\u0635\u0642\u0631\u0634\u062a\u062b"),
    (126647, "\u062e\u0630\u0636\u0638\u063a"), (130032, "0123456789"),
    (194560, "丽丸乁𠄢你侮侻倂偺備僧像㒞𠘺免兔兤具𠔜㒹內再𠕋冗冤仌冬况𩇟凵刃㓟刻剆割剷"),
    (194596, "㔕勇勉勤勺包匆北卉卑博即卽卿卿卿𠨬灰及叟𠭣叫叱吆咞吸呈周咢哶唐啓啣善善喙"),
    (194632, "喫喳嗂圖嘆圗噑噴切壮城埴堍型堲報墬𡓤売壷夆多夢奢𡚨𡛪姬娛娧姘婦㛮㛼嬈嬾嬾"),
    (194668, "𡧈寃寘寧寳𡬘寿将当尢㞁屠屮峀岍𡷤嵃𡷦嵮嵫嵼巡巢㠯巽帨帽幩㡢𢆃㡼庰庳庶廊𪎒"),
    (194704, "廾𢌱𢌱舁弢弢㣇𣊸𦇚形彫㣣徚忍志忹悁㤺㤜悔𢛔惇慈慌慎慌慺憎憲憤憯懞懲懶成戛"),
    (194740, "扝抱拔捐𢬌挽拼捨掃揤𢯱搢揅掩㨮摩摾撝摷㩬敏敬𣀊旣書晉㬙暑㬈㫤冒冕最暜肭䏙"),
    (194776, "朗望朡杞杓𣏃㭉柺枅桒梅𣑭梎栟椔㮝楂榣槪檨𣚣櫛㰘次𣢧歔㱎歲殟殺殻𣪍𡴋𣫺汎𣲼"),
    (194812, "沿泍汧洖派海流浩浸涅𣴞洴港湮㴳滋滇𣻑淹潮𣽞𣾎濆瀹瀞瀛㶖灊災灷炭𠔥煅𤉣熜𤎫"),
    (194848, "爨爵牐𤘈犀犕𤜵𤠔獺王㺬玥㺸㺸瑇瑜瑱璅瓊㼛甤𤰶甾𤲒異𢆟瘐𤾡𤾸𥁄㿼䀈直𥃳𥃲𥄙"),
    (194884, "𥄳眞真真睊䀹瞋䁆䂖𥐝硎碌磌䃣𥘦祖𥚚𥛅福秫䄯穀穊穏𥥼𥪧𥪧竮䈂𥮫篆築䈧𥲀糒䊠"),
    (194920, "糨糣紀𥾆絣䌁緇縂繅䌴𦈨𦉇䍙𦋙罺𦌾羕翺者𦓚𦔣聠𦖨聰𣍟䏕育脃䐋脾媵𦞧𦞵𣎓𣎜舁"),
    (194956, "舄辞䑫芑芋芝劳花芳芽苦𦬼若茝荣莭茣莽菧著荓菊菌菜𦰶𦵫𦳕䔫蓱蓳蔖𧏊蕤𦼬䕝䕡"),
    (194992, "𦾱𧃒䕫虐虜虧虩蚩蚈蜎蛢蝹蜨蝫螆䗗蟡蠁䗹衠衣𧙧裗裞䘵裺㒻𧢮𧥦䚾䛇誠諭變豕𧲨"),
    (195028, "貫賁贛起𧼯𠠄跋趼跰𠣞軔輸𨗒𨗭邔郱鄑𨜮鄛鈸鋗鋘鉼鏹鐕𨯺開䦕閷𨵷䧦雃嶲霣𩅅𩈚"),
    (195064, "䩮䩶韠𩐊䪲𩒖頋頋頩𩖶飢䬳餩馧駂駾䯎𩬰鬒鱀鳽䳎䳭鵧𪃎䳸𪄅𪈎𪊑麻䵖黹黾鼅鼏鼖"),
    (195100, "鼻𪘀")]

/-- The characters whose form is longer: the first of a row, and the forms of the row. -/
def longForms : List (Nat × List String) := [
    (306, ["IJ", "ij"]), (319, ["L·", "l·"]), (329, ["ʼn"]),
    (452, ["DŽ", "Dž", "dž", "LJ", "Lj", "lj", "NJ", "Nj", "nj"]), (497, ["DZ", "Dz", "dz"]),
    (836, ["\u0308\u0301"]), (1415, ["եւ"]),
    (1653, ["\u0627\u0674", "\u0648\u0674", "\u06c7\u0674", "\u064a\u0674"]),
    (2392, ["क\u093c", "ख\u093c", "ग\u093c", "ज\u093c", "ड\u093c", "ढ\u093c"]),
    (2398, ["फ\u093c", "य\u093c"]), (2524, ["ড\u09bc", "ঢ\u09bc"]), (2527, ["য\u09bc"]),
    (2611, ["ਲ\u0a3c"]), (2614, ["ਸ\u0a3c"]), (2649, ["ਖ\u0a3c", "ਗ\u0a3c", "ਜ\u0a3c"]),
    (2654, ["ਫ\u0a3c"]), (2908, ["ଡ\u0b3c", "ଢ\u0b3c"]), (3635, ["\u0e4dา"]), (3763, ["\u0ecdາ"]),
    (3804, ["ຫນ", "ຫມ"]), (3907, ["ག\u0fb7"]), (3917, ["ཌ\u0fb7"]), (3922, ["ད\u0fb7"]),
    (3927, ["བ\u0fb7"]), (3932, ["ཛ\u0fb7"]), (3945, ["ཀ\u0fb5"]), (3955, ["\u0f71\u0f72"]),
    (3957, ["\u0f71\u0f74", "\u0fb2\u0f80", "\u0fb2\u0f71\u0f80", "\u0fb3\u0f80"]),
    (3961, ["\u0fb3\u0f71\u0f80"]), (3969, ["\u0f71\u0f80"]), (3987, ["\u0f92\u0fb7"]),
    (3997, ["\u0f9c\u0fb7"]), (4002, ["\u0fa1\u0fb7"]), (4007, ["\u0fa6\u0fb7"]),
    (4012, ["\u0fab\u0fb7"]), (4025, ["\u0f90\u0fb5"]), (7834, ["aʾ"]),
    (8545, ["II", "III", "IV"]), (8549, ["VI", "VII", "VIII", "IX"]), (8554, ["XI", "XII"]),
    (8561, ["ii", "iii", "iv"]), (8565, ["vi", "vii", "viii", "ix"]), (8570, ["xi", "xii"]),
    (12447, ["より"]), (12543, ["コト"]), (64256, ["ff", "fi", "fl", "ffi", "ffl", "st", "st"]),
    (64275, ["մն", "մե", "մի", "վն", "մխ"]), (64285, ["\u05d9\u05b4"]), (64287, ["\u05f2\u05b7"]),
    (64298, ["\u05e9\u05c1", "\u05e9\u05c2", "\u05e9\u05bc\u05c1"]),
    (64301, ["\u05e9\u05bc\u05c2", "\u05d0\u05b7", "\u05d0\u05b8", "\u05d0\u05bc"]),
    (64305, ["\u05d1\u05bc", "\u05d2\u05bc", "\u05d3\u05bc", "\u05d4\u05bc"]),
    (64309, ["\u05d5\u05bc", "\u05d6\u05bc"]),
    (64312, ["\u05d8\u05bc", "\u05d9\u05bc", "\u05da\u05bc", "\u05db\u05bc"]),
    (64316, ["\u05dc\u05bc"]), (64318, ["\u05de\u05bc"]),
    (64320, ["\u05e0\u05bc", "\u05e1\u05bc"]), (64323, ["\u05e3\u05bc", "\u05e4\u05bc"]),
    (64326, ["\u05e6\u05bc", "\u05e7\u05bc", "\u05e8\u05bc", "\u05e9\u05bc"]),
    (64330, ["\u05ea\u05bc", "\u05d5\u05b9", "\u05d1\u05bf", "\u05db\u05bf"]),
    (64334, ["\u05e4\u05bf", "\u05d0\u05dc"]), (64477, ["\u06c7\u0674"]),
    (64490, ["\u0626\u0627", "\u0626\u0627", "\u0626\u06d5", "\u0626\u06d5"]),
    (64494, ["\u0626\u0648", "\u0626\u0648", "\u0626\u06c7", "\u0626\u06c7"]),
    (64498, ["\u0626\u06c6", "\u0626\u06c6", "\u0626\u06c8", "\u0626\u06c8"]),
    (64502, ["\u0626\u06d0", "\u0626\u06d0", "\u0626\u06d0", "\u0626\u0649"]),
    (64506, ["\u0626\u0649", "\u0626\u0649"]),
    (64512, ["\u0626\u062c", "\u0626\u062d", "\u0626\u0645", "\u0626\u0649"]),
    (64516, ["\u0626\u064a", "\u0628\u062c", "\u0628\u062d", "\u0628\u062e"]),
    (64520, ["\u0628\u0645", "\u0628\u0649", "\u0628\u064a", "\u062a\u062c"]),
    (64524, ["\u062a\u062d", "\u062a\u062e", "\u062a\u0645", "\u062a\u0649"]),
    (64528, ["\u062a\u064a", "\u062b\u062c", "\u062b\u0645", "\u062b\u0649"]),
    (64532, ["\u062b\u064a", "\u062c\u062d", "\u062c\u0645", "\u062d\u062c"]),
    (64536, ["\u062d\u0645", "\u062e\u062c", "\u062e\u062d", "\u062e\u0645"]),
    (64540, ["\u0633\u062c", "\u0633\u062d", "\u0633\u062e", "\u0633\u0645"]),
    (64544, ["\u0635\u062d", "\u0635\u0645", "\u0636\u062c", "\u0636\u062d"]),
    (64548, ["\u0636\u062e", "\u0636\u0645", "\u0637\u062d", "\u0637\u0645"]),
    (64552, ["\u0638\u0645", "\u0639\u062c", "\u0639\u0645", "\u063a\u062c"]),
    (64556, ["\u063a\u0645", "\u0641\u062c", "\u0641\u062d", "\u0641\u062e"]),
    (64560, ["\u0641\u0645", "\u0641\u0649", "\u0641\u064a", "\u0642\u062d"]),
    (64564, ["\u0642\u0645", "\u0642\u0649", "\u0642\u064a", "\u0643\u0627"]),
    (64568, ["\u0643\u062c", "\u0643\u062d", "\u0643\u062e", "\u0643\u0644"]),
    (64572, ["\u0643\u0645", "\u0643\u0649", "\u0643\u064a", "\u0644\u062c"]),
    (64576, ["\u0644\u062d", "\u0644\u062e", "\u0644\u0645", "\u0644\u0649"]),
    (64580, ["\u0644\u064a", "\u0645\u062c", "\u0645\u062d", "\u0645\u062e"]),
    (64584, ["\u0645\u0645", "\u0645\u0649", "\u0645\u064a", "\u0646\u062c"]),
    (64588, ["\u0646\u062d", "\u0646\u062e", "\u0646\u0645", "\u0646\u0649"]),
    (64592, ["\u0646\u064a", "\u0647\u062c", "\u0647\u0645", "\u0647\u0649"]),
    (64596, ["\u0647\u064a", "\u064a\u062c", "\u064a\u062d", "\u064a\u062e"]),
    (64600, ["\u064a\u0645", "\u064a\u0649", "\u064a\u064a", "\u0630\u0670"]),
    (64604, ["\u0631\u0670", "\u0649\u0670"]),
    (64612, ["\u0626\u0631", "\u0626\u0632", "\u0626\u0645", "\u0626\u0646"]),
    (64616, ["\u0626\u0649", "\u0626\u064a", "\u0628\u0631", "\u0628\u0632"]),
    (64620, ["\u0628\u0645", "\u0628\u0646", "\u0628\u0649", "\u0628\u064a"]),
    (64624, ["\u062a\u0631", "\u062a\u0632", "\u062a\u0645", "\u062a\u0646"]),
    (64628, ["\u062a\u0649", "\u062a\u064a", "\u062b\u0631", "\u062b\u0632"]),
    (64632, ["\u062b\u0645", "\u062b\u0646", "\u062b\u0649", "\u062b\u064a"]),
    (64636, ["\u0641\u0649", "\u0641\u064a", "\u0642\u0649", "\u0642\u064a"]),
    (64640, ["\u0643\u0627", "\u0643\u0644", "\u0643\u0645", "\u0643\u0649"]),
    (64644, ["\u0643\u064a", "\u0644\u0645", "\u0644\u0649", "\u0644\u064a"]),
    (64648, ["\u0645\u0627", "\u0645\u0645", "\u0646\u0631", "\u0646\u0632"]),
    (64652, ["\u0646\u0645", "\u0646\u0646", "\u0646\u0649", "\u0646\u064a"]),
    (64656, ["\u0649\u0670", "\u064a\u0631", "\u064a\u0632", "\u064a\u0645"]),
    (64660, ["\u064a\u0646", "\u064a\u0649", "\u064a\u064a", "\u0626\u062c"]),
    (64664, ["\u0626\u062d", "\u0626\u062e", "\u0626\u0645", "\u0626\u0647"]),
    (64668, ["\u0628\u062c", "\u0628\u062d", "\u0628\u062e", "\u0628\u0645"]),
    (64672, ["\u0628\u0647", "\u062a\u062c", "\u062a\u062d", "\u062a\u062e"]),
    (64676, ["\u062a\u0645", "\u062a\u0647", "\u062b\u0645", "\u062c\u062d"]),
    (64680, ["\u062c\u0645", "\u062d\u062c", "\u062d\u0645", "\u062e\u062c"]),
    (64684, ["\u062e\u0645", "\u0633\u062c", "\u0633\u062d", "\u0633\u062e"]),
    (64688, ["\u0633\u0645", "\u0635\u062d", "\u0635\u062e", "\u0635\u0645"]),
    (64692, ["\u0636\u062c", "\u0636\u062d", "\u0636\u062e", "\u0636\u0645"]),
    (64696, ["\u0637\u062d", "\u0638\u0645", "\u0639\u062c", "\u0639\u0645"]),
    (64700, ["\u063a\u062c", "\u063a\u0645", "\u0641\u062c", "\u0641\u062d"]),
    (64704, ["\u0641\u062e", "\u0641\u0645", "\u0642\u062d", "\u0642\u0645"]),
    (64708, ["\u0643\u062c", "\u0643\u062d", "\u0643\u062e", "\u0643\u0644"]),
    (64712, ["\u0643\u0645", "\u0644\u062c", "\u0644\u062d", "\u0644\u062e"]),
    (64716, ["\u0644\u0645", "\u0644\u0647", "\u0645\u062c", "\u0645\u062d"]),
    (64720, ["\u0645\u062e", "\u0645\u0645", "\u0646\u062c", "\u0646\u062d"]),
    (64724, ["\u0646\u062e", "\u0646\u0645", "\u0646\u0647", "\u0647\u062c"]),
    (64728, ["\u0647\u0645", "\u0647\u0670", "\u064a\u062c", "\u064a\u062d"]),
    (64732, ["\u064a\u062e", "\u064a\u0645", "\u064a\u0647", "\u0626\u0645"]),
    (64736, ["\u0626\u0647", "\u0628\u0645", "\u0628\u0647", "\u062a\u0645"]),
    (64740, ["\u062a\u0647", "\u062b\u0645", "\u062b\u0647", "\u0633\u0645"]),
    (64744, ["\u0633\u0647", "\u0634\u0645", "\u0634\u0647", "\u0643\u0644"]),
    (64748, ["\u0643\u0645", "\u0644\u0645", "\u0646\u0645", "\u0646\u0647"]),
    (64752, ["\u064a\u0645", "\u064a\u0647", "\u0640\u064e\u0651"]),
    (64755, ["\u0640\u064f\u0651", "\u0640\u0650\u0651", "\u0637\u0649"]),
    (64758, ["\u0637\u064a", "\u0639\u0649", "\u0639\u064a", "\u063a\u0649"]),
    (64762, ["\u063a\u064a", "\u0633\u0649", "\u0633\u064a", "\u0634\u0649"]),
    (64766, ["\u0634\u064a", "\u062d\u0649", "\u062d\u064a", "\u062c\u0649"]),
    (64770, ["\u062c\u064a", "\u062e\u0649", "\u062e\u064a", "\u0635\u0649"]),
    (64774, ["\u0635\u064a", "\u0636\u0649", "\u0636\u064a", "\u0634\u062c"]),
    (64778, ["\u0634\u062d", "\u0634\u062e", "\u0634\u0645", "\u0634\u0631"]),
    (64782, ["\u0633\u0631", "\u0635\u0631", "\u0636\u0631", "\u0637\u0649"]),
    (64786, ["\u0637\u064a", "\u0639\u0649", "\u0639\u064a", "\u063a\u0649"]),
    (64790, ["\u063a\u064a", "\u0633\u0649", "\u0633\u064a", "\u0634\u0649"]),
    (64794, ["\u0634\u064a", "\u062d\u0649", "\u062d\u064a", "\u062c\u0649"]),
    (64798, ["\u062c\u064a", "\u062e\u0649", "\u062e\u064a", "\u0635\u0649"]),
    (64802, ["\u0635\u064a", "\u0636\u0649", "\u0636\u064a", "\u0634\u062c"]),
    (64806, ["\u0634\u062d", "\u0634\u062e", "\u0634\u0645", "\u0634\u0631"]),
    (64810, ["\u0633\u0631", "\u0635\u0631", "\u0636\u0631", "\u0634\u062c"]),
    (64814, ["\u0634\u062d", "\u0634\u062e", "\u0634\u0645", "\u0633\u0647"]),
    (64818, ["\u0634\u0647", "\u0637\u0645", "\u0633\u062c", "\u0633\u062d"]),
    (64822, ["\u0633\u062e", "\u0634\u062c", "\u0634\u062d", "\u0634\u062e"]),
    (64826, ["\u0637\u0645", "\u0638\u0645", "\u0627\u064b", "\u0627\u064b"]),
    (64848, ["\u062a\u062c\u0645", "\u062a\u062d\u062c", "\u062a\u062d\u062c"]),
    (64851, ["\u062a\u062d\u0645", "\u062a\u062e\u0645", "\u062a\u0645\u062c"]),
    (64854, ["\u062a\u0645\u062d", "\u062a\u0645\u062e", "\u062c\u0645\u062d"]),
    (64857, ["\u062c\u0645\u062d", "\u062d\u0645\u064a", "\u062d\u0645\u0649"]),
    (64860, ["\u0633\u062d\u062c", "\u0633\u062c\u062d", "\u0633\u062c\u0649"]),
    (64863, ["\u0633\u0645\u062d", "\u0633\u0645\u062d", "\u0633\u0645\u062c"]),
    (64866, ["\u0633\u0645\u0645", "\u0633\u0645\u0645", "\u0635\u062d\u062d"]),
    (64869, ["\u0635\u062d\u062d", "\u0635\u0645\u0645", "\u0634\u062d\u0645"]),
    (64872, ["\u0634\u062d\u0645", "\u0634\u062c\u064a", "\u0634\u0645\u062e"]),
    (64875, ["\u0634\u0645\u062e", "\u0634\u0645\u0645", "\u0634\u0645\u0645"]),
    (64878, ["\u0636\u062d\u0649", "\u0636\u062e\u0645", "\u0636\u062e\u0645"]),
    (64881, ["\u0637\u0645\u062d", "\u0637\u0645\u062d", "\u0637\u0645\u0645"]),
    (64884, ["\u0637\u0645\u064a", "\u0639\u062c\u0645", "\u0639\u0645\u0645"]),
    (64887, ["\u0639\u0645\u0645", "\u0639\u0645\u0649", "\u063a\u0645\u0645"]),
    (64890, ["\u063a\u0645\u064a", "\u063a\u0645\u0649", "\u0641\u062e\u0645"]),
    (64893, ["\u0641\u062e\u0645", "\u0642\u0645\u062d", "\u0642\u0645\u0645"]),
    (64896, ["\u0644\u062d\u0645", "\u0644\u062d\u064a", "\u0644\u062d\u0649"]),
    (64899, ["\u0644\u062c\u062c", "\u0644\u062c\u062c", "\u0644\u062e\u0645"]),
    (64902, ["\u0644\u062e\u0645", "\u0644\u0645\u062d", "\u0644\u0645\u062d"]),
    (64905, ["\u0645\u062d\u062c", "\u0645\u062d\u0645", "\u0645\u062d\u064a"]),
    (64908, ["\u0645\u062c\u062d", "\u0645\u062c\u0645", "\u0645\u062e\u062c"]),
    (64911, ["\u0645\u062e\u0645"]),
    (64914, ["\u0645\u062c\u062e", "\u0647\u0645\u062c", "\u0647\u0645\u0645"]),
    (64917, ["\u0646\u062d\u0645", "\u0646\u062d\u0649", "\u0646\u062c\u0645"]),
    (64920, ["\u0646\u062c\u0645", "\u0646\u062c\u0649", "\u0646\u0645\u064a"]),
    (64923, ["\u0646\u0645\u0649", "\u064a\u0645\u0645", "\u064a\u0645\u0645"]),
    (64926, ["\u0628\u062e\u064a", "\u062a\u062c\u064a", "\u062a\u062c\u0649"]),
    (64929, ["\u062a\u062e\u064a", "\u062a\u062e\u0649", "\u062a\u0645\u064a"]),
    (64932, ["\u062a\u0645\u0649", "\u062c\u0645\u064a", "\u062c\u062d\u0649"]),
    (64935, ["\u062c\u0645\u0649", "\u0633\u062e\u0649", "\u0635\u062d\u064a"]),
    (64938, ["\u0634\u062d\u064a", "\u0636\u062d\u064a", "\u0644\u062c\u064a"]),
    (64941, ["\u0644\u0645\u064a", "\u064a\u062d\u064a", "\u064a\u062c\u064a"]),
    (64944, ["\u064a\u0645\u064a", "\u0645\u0645\u064a", "\u0642\u0645\u064a"]),
    (64947, ["\u0646\u062d\u064a", "\u0642\u0645\u062d", "\u0644\u062d\u0645"]),
    (64950, ["\u0639\u0645\u064a", "\u0643\u0645\u064a", "\u0646\u062c\u062d"]),
    (64953, ["\u0645\u062e\u064a", "\u0644\u062c\u0645", "\u0643\u0645\u0645"]),
    (64956, ["\u0644\u062c\u0645", "\u0646\u062c\u062d", "\u062c\u062d\u064a"]),
    (64959, ["\u062d\u062c\u064a", "\u0645\u062c\u064a", "\u0641\u0645\u064a"]),
    (64962, ["\u0628\u062d\u064a", "\u0643\u0645\u0645", "\u0639\u062c\u0645"]),
    (64965, ["\u0635\u0645\u0645", "\u0633\u062e\u064a", "\u0646\u062c\u064a"]),
    (65008, ["\u0635\u0644\u06d2", "\u0642\u0644\u06d2"]),
    (65010, ["\u0627\u0644\u0644\u0647", "\u0627\u0643\u0628\u0631"]),
    (65012, ["\u0645\u062d\u0645\u062f", "\u0635\u0644\u0639\u0645"]),
    (65014, ["\u0631\u0633\u0648\u0644", "\u0639\u0644\u064a\u0647"]),
    (65016, ["\u0648\u0633\u0644\u0645", "\u0635\u0644\u0649"]), (65137, ["\u0640\u064b"]),
    (65143, ["\u0640\u064e"]), (65145, ["\u0640\u064f"]), (65147, ["\u0640\u0650"]),
    (65149, ["\u0640\u0651"]), (65151, ["\u0640\u0652"]),
    (65269, ["\u0644\u0622", "\u0644\u0622", "\u0644\u0623", "\u0644\u0623"]),
    (65273, ["\u0644\u0625", "\u0644\u0625", "\u0644\u0627", "\u0644\u0627"])]

def singleForm? (n : Nat) : Option Char :=
  singleForms.findSome? fun (first, forms) =>
    if first ≤ n then forms.toList[n - first]? else none

def longForm? (n : Nat) : Option String :=
  longForms.findSome? fun (first, forms) =>
    if first ≤ n then forms[n - first]? else none

def compatible (c : Char) : List Char :=
  match singleForm? c.toNat, longForm? c.toNat with
  | some d, _ => [d]
  | none, some s => s.toList
  | none, none => [c]

/-- The form in which identifiers are compared. ASCII is its own form. -/
def identifierForm (s : String) : String :=
  if s.toList.all (·.toNat < 128) then s
  else String.ofList (compose (arrange (decompose (s.toList.flatMap compatible))))

end Farcall.Text
