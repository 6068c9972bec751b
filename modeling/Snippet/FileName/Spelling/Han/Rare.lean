/-! Readings of rare ideographs, and of the doubles of common ones. -/

set_option autoImplicit false

namespace Snippet.Spelling

/-- Readings, each with the ideographs that have it. -/
def hanByReading : List (String × String) :=
  [ ("Ai", "㕌㗒㘷䅬䔽"), ("An", "䀂䅁䮗"), ("Ang", "㭿䒢"), ("Ao", "㑃㕭㘭㜜翶"), ("Ba", "㔜㭭䎬䰾"),
    ("Bai", "㓦㔥"), ("Ban", "䈲螁"), ("Bang", "㭋"), ("Bao", "㿺䈏䭋䴐佨藵"), ("Bei", "㔨㛝㤳㫲㸢㻗禙"),
    ("Beng", "㑟㔙䭰揼"), ("Bi", "㓖㘠㘩㠲㧙㪏㵥㻫䕗䠋萞"), ("Bian", "㭓炞"), ("Biao", "䮽飊"), ("Bie", "㔡㿜䌘䏟"),
    ("Bin", "㻞氞"), ("Bing", "㓈㨀"), ("Bo", "㩧㪍㬍㬧㶿㹀㼎䙏䭯萡"), ("Bu", "㘵㳍"), ("Cai", "㒲毝"),
    ("Can", "㛑䗝儏爘"), ("Cang", "䅮濸"), ("Ce", "㨲"), ("Ceng", "㬝䉕"), ("Cha", "䟕"), ("Chai", "㑪"),
    ("Chan", "㬄"), ("Chang", "䮖"), ("Chao", "䫿"), ("Che", "㒤㔭㤴㬚㿭䜠䞣"), ("Chen", "烥"),
    ("Cheng", "㐼㓌㛵䇸"), ("Chi", "㒆㓼㔑㥡㶴䊼䠠硳麶"), ("Chong", "㓽䆹"), ("Chou", "㐜"),
    ("Chu", "㔘㕏㕑㙇㡡榋橻璴蟵"), ("Chua", "㔍"), ("Chuo", "㲋䓎"), ("Ci", "㓨㘂㘹㤵㩞䛐䨏"), ("Cong", "茐"),
    ("Cu", "䥄"), ("Cui", "㜠"), ("Cuo", "㭫"), ("Da", "垯"), ("Dai", "㐲㯂㻖䈆鮘"), ("Dan", "㐤㗖䒟䨵泹蓞"),
    ("Dao", "㠀㨶䌦"), ("De", "㤫"), ("Deng", "㔁"), ("Di", "㓳㭽䊮䨀䨤"), ("Dian", "㓠䍄"),
    ("Diao", "㒛"), ("Die", "㑙㬪䏲"), ("Ding", "㫀萣蝊"), ("Dong", "㑈㓊㚵㨂徚"), ("Dou", "䕆䬦艔"),
    ("Du", "㓃㱩"), ("Duan", "襨"), ("Dui", "㨃㬣䇏"), ("Dun", "䔻獤碷"), ("Duo", "㻧䤪枤"),
    ("E", "㓵㔩㗁㮙䄉䑥䝈擜"), ("En", "䭓"), ("Er", "㒃㛅䋩趰"), ("Fa", "鍅"), ("Fan", "㠶㴀䀀䡊舤鐢"),
    ("Fang", "㑂堏"), ("Fei", "㔗㹃䈈䤵䰁"), ("Fen", "㬟哛豮"), ("Feng", "㐽㒥㛔㠦㦀㵯䒠溄琒蘕鎽霻"),
    ("Fu", "㓡㕊㤔㤱㪄㬼㭪㷆䋨䘀䭻禣覄酜"), ("Gai", "㕢"), ("Gan", "㓧㶥"), ("Gang", "㭎㽘"), ("Gao", "㵆韟"),
    ("Ge", "㠷㭘䈓䘁櫊"), ("Geng", "㹴㾘䌄䱍䱭掶椩焿"), ("Gong", "㓋㓚㔶㧬㭟㼦䱋䳍慐"), ("Gu", "㒴䀦䐻䶜傦篐"),
    ("Gua", "㒷䈑䒷"), ("Guai", "㧔"), ("Guan", "㮡㴦䙛"), ("Gui", "㔳㨳㪈䅅䈐䍯䐴䤥胿"), ("Gun", "㙥"),
    ("Guo", "㗻䆐"), ("Hai", "㧡"), ("Han", "㑵㒈㘚㤷㪋㮀㸁䈄丆兯爳"), ("Hang", "㰠䘕"), ("Hao", "㚪㝀㠙㬔㬶毜"),
    ("He", "㕡㪃㪉㬞㭱㵑㿥䞦穒靍"), ("Heng", "㔰涥"), ("Hong", "㬴䉺"), ("Hou", "㤧㬋"), ("Hu", "㕆㗅㧾㸦䓤䭌乥錿"),
    ("Hua", "㓰㕦㕲㕷㠏㦊㭉撶璍蒊"), ("Huai", "㜳㠢"), ("Huan", "㕕㬇㬊㹕䈠䦡䴉瞣"), ("Huang", "㠵㨪㬻䅿䐠"),
    ("Hui", "㑰㑹㥣㧑㨹㬩㷇䧥屷懳璤"), ("Hun", "㑮䮝"), ("Huo", "㓉㗲㨯䄀䱛"), ("Ji", "㑧㒫㔕㗊㗱㠱㥍㦸㭲㸄㻑䐀䞘䳭廭樭"),
    ("Jia", "㕅㮖㹢䕒"), ("Jian", "㓺㔋㔓㨴㨵㭴㰄㵎䌠橺"), ("Jiang", "䉃"), ("Jiao", "㩰㬭㭂㰾櫵燞"),
    ("Jie", "㑘㓗㔚㘶㛃㠹㨗㨩䀹䃈"), ("Jin", "㨷㬐㬜㯲琻砛"), ("Jing", "㘫㬌䜘䝼燝"), ("Jiong", "㓏㢠䢛"),
    ("Jiu", "㺩䆒欍汣"), ("Ju", "㘲㬬䈮䳔啹爠"), ("Juan", "㷷䖭"), ("Jue", "㔃㔢㟲㭈㭾䡈䣺"),
    ("Jun", "㑺㒞㕙㖥㚬㝦㽙䇹䕑"), ("Kai", "䁗䤤"), ("Kang", "䆲"), ("Ke", "㕉㕎㞹㪼㸯䌀䐦"), ("Keng", "䃘"),
    ("Kong", "㚚"), ("Kou", "㓂㰯䁱"), ("Ku", "㗄㠸"), ("Kua", "㐄舿"), ("Kuai", "㔞㧟㱮"),
    ("Kuan", "䕀鑧"), ("Kuang", "㑌䒰"), ("Kui", "㒑㕟㙺䖯䙆䤆䰎"), ("Kun", "㫻堒尡潉熴"), ("Kuo", "韕"),
    ("La", "㕇"), ("Lai", "㸊䋱"), ("Lan", "㑣㛦㩜䌫囕爦"), ("Lang", "㓪㙟㫰㮾㱢斏"), ("Lao", "㞠䇭朥珯硓耂躼"),
    ("Le", "㔹㦡"), ("Lei", "㑍㒍㒦㔣㵢㵽䉂䉪䢮"), ("Leng", "䉄"), ("Li", "㑦㒧㒿㓯㔏㕸㤦㦒㬏㰀㴝㹈㻺䔉䔧娳"),
    ("Lian", "㜃㜻㯬㱨㶑䙺䥥"), ("Liang", "㒳㔝煷"), ("Liao", "㵳䄦曢爎藔"), ("Lie", "㤠㧜㬯㭞㭩烮"),
    ("Lin", "㐭㔂㨆冧"), ("Ling", "㬡䈊䉁䍅䔖䖅瀮蓤霗"), ("Liu", "㐬㧕桞"), ("Lo", "囖"), ("Long", "㑝㡣㰍㴳䮾"),
    ("Lou", "㔷"), ("Lu", "㓐㔧㔪㛎㠠㪐㭔㭚㯝䐂澛焒"), ("Lue", "㑼㔀㨼"), ("Lun", "㷍䈁"), ("Luo", "㑩㒩㓢㩡㰁洜磮罖"),
    ("Ma", "㐷㑻㜫㨸遤"), ("Mai", "㜥"), ("Man", "㒼㡢㬅䕕"), ("Mang", "㤶㬒㻊䈍"), ("Mao", "㒵㒻㚹"),
    ("Me", "嚒"), ("Mei", "㭑"), ("Meng", "㜴䀄䁅䑃䑅䓝"), ("Mi", "㜷㨠䕷"), ("Mian", "㒙㝃㻰"),
    ("Miao", "㑤"), ("Mie", "㒝"), ("Min", "㬆䪸垊"), ("Ming", "䫤"), ("Mo", "㱳䃺䩋怽"), ("Mou", "㭌踎"),
    ("Mu", "㜈朰"), ("Na", "䈫"), ("Nan", "㓓㬮䈒"), ("Nao", "㑎䜀"), ("Nei", "㐻"), ("Ni", "㞾䁥䘦䛏聣"),
    ("Nian", "哖焾"), ("Niao", "㒟㜵㭤"), ("Nie", "㜸䯀巕"), ("Nin", "䋻脌"), ("Ning", "澝"),
    ("Niu", "䋴"), ("Nu", "䚼"), ("Nuan", "㬉"), ("Nuo", "㐡㑚㔮"), ("Ou", "㒖䥲藲"), ("Pai", "㭛"),
    ("Pan", "㐴聁"), ("Pang", "䨦"), ("Pei", "㚰䊃"), ("Peng", "㛁㧸䴶"), ("Pi", "㓟䑄䰦"),
    ("Pian", "㓲鍂"), ("Piao", "㬓"), ("Pin", "㡦"), ("Ping", "㺸㻂䈂"), ("Po", "䪖"),
    ("Pu", "㒒㬥㺪䈻贌駇"), ("Qi", "㒅㓞㬤㱦䄎䓅䓫䗩䚍䥓䰇渏簯"), ("Qia", "㓣㓤拤"), ("Qian", "㐸㜞㟻㩷䥅茾鎆鏲"),
    ("Qiang", "嗴獇"), ("Qiao", "㚁㝯䀉䎗犞"), ("Qie", "㓶㤲㥦䦧倿媫"), ("Qin", "㓎㕋㘦㤈㩒㪁䈜"),
    ("Qing", "㯳㷫䨝櫦硘"), ("Qiong", "㑋㒌䅃"), ("Qiu", "㐀㚱㞗㤹㥢㭝㳋䊵䨂"), ("Qu", "㜹㭕㰦䈌衐"),
    ("Quan", "㒰㒽闎"), ("Que", "㕁"), ("Qun", "㪊"), ("Ran", "㒄㜣䔳"), ("Rang", "䉴"), ("Rao", "㑱"),
    ("Ren", "㠴㸾䇮䌾岃祍"), ("Reng", "㭁㺱"), ("Rong", "㣑㭜䇯䡆"), ("Rou", "䐓"), ("Ru", "㐵嶿"),
    ("Ruan", "㓴䓴"), ("Rui", "㓹㪫䄲䬐"), ("Sa", "㒎隡"), ("Sai", "䰄"), ("San", "䈀厁壭毶"),
    ("Sang", "槡"), ("Sao", "䕅"), ("Se", "㒊穯"), ("Seng", "䒏"), ("Sha", "㰼㸺䈉"), ("Shai", "㬠㴓"),
    ("Shan", "㣌㪎㰑䄠䥇䱉"), ("Shang", "仩贘"), ("Shao", "䈰䔠蕱"), ("She", "㓭䜓䬷"), ("Shen", "㑗㰂䰠堔"),
    ("Sheng", "㱡"), ("Shi", "㒾㔺㕜䈕䤭佦嵵煶籂"), ("Shou", "䛵"), ("Shu", "㑐㒔㻿䉀瀭蠴"), ("Shuang", "䉶䗮鏯"),
    ("Si", "㒋㭒㴲㺨䔮俬"), ("Song", "㨦"), ("Sou", "䈭"), ("Su", "㑉㑛㓘㔄㕖㬘"), ("Sui", "㒸䭉"),
    ("Sun", "㔼"), ("Suo", "㛖㪽䔋䖛"), ("Ta", "㒓㗳㛥㭼㿹䂿䈋闧"), ("Tai", "㑷㒗㬃㸀䈚䣭"), ("Tan", "㘱䏙䞡"),
    ("Tang", "㑽㒉㓥㜍㭻䉎䞶䠀"), ("Tao", "䄻䈱䤾"), ("Teng", "虅"), ("Ti", "㔸㬱䶑朑"), ("Tian", "㐁㖭㙉㬲䋬䡒"),
    ("Tiao", "㬸㸠䟭䠷螩"), ("Tie", "䴴"), ("Ting", "㓅䋼"), ("Tong", "㪌㼿䴀"), ("Tou", "㓱㪗"),
    ("Tu", "㭸㻌䣝"), ("Tuan", "䝎䵎"), ("Tui", "㿗䀃"), ("Tun", "㩔㬿"), ("Tuo", "䭾"), ("Wa", "㧚屲"),
    ("Wan", "㜶䥑䩊䯈塆壪邜"), ("Wang", "㓁䤑焹"), ("Wei", "㕒㙎㬙㭏㷉䇻䉠䲁墛屗嶶捤揻煀"), ("Wen", "㬈呚鈫鎾"),
    ("Weng", "㘢㜲䐥"), ("Wo", "䰀"), ("Wu", "㐅㐳㑄㒇㬳䨁"), ("Xi", "㑶㓾㔒㕃㛓㠄㤸㩗㬛㭡㱆㱤㸍㾷䁯䈪䮎礂"),
    ("Xia", "㔠㗇㙈溊虲鎼"), ("Xian", "㔾㧥㪇㬎㬗㭠㭹㯗㰊㵪䕔䘆䤼䥪䧟䵌僲鑦"), ("Xiang", "㐮稥"), ("Xiao", "㔅㗛㩋㬵䕧滧"),
    ("Xie", "㐖㒠㓔㔎㕐㖿㙦㩦㭨㱔㴽䉏夑"), ("Xin", "㐰㔤㜦㭄㭢"), ("Xing", "㐩㓑㓝㨘謃"), ("Xiong", "㐫焽"),
    ("Xiu", "㳜"), ("Xu", "㐨㑔㑯㕛䘏聓裇"), ("Xuan", "㓩㔯㔵㘣㧦䁢"), ("Xue", "㕰㗾㶅㻡辪"), ("Xun", "㜄㵌嚑"),
    ("Ya", "乛厑"), ("Yan", "㤿㬫㭺㷳㷼䅧䇾䞛䢭䨄䳡焑熖"), ("Yang", "㒕㔦㬕䑆奍"), ("Yao", "㑸㑾㔽㨱䂚䌁䔄䙅䬙"),
    ("Ye", "㖡䈎䊦亪"), ("Yi", "㐌㐹㑊㑜㑥㓷㔴㕈㘁㛄㦉㦤㰘㳑㳖㵩㺿䇼䌻䧧䫑䭲䱌乊匇嬄椬硛籎萟"), ("Yin", "㐆㐺㒚㕂㖗㡥㧢㶏䄄䕃䴦粌"),
    ("Ying", "㑞䊔䣐䬬愥攚溋灜绬鶑"), ("Yong", "㐯㴄砽"), ("You", "㒡㓜㕗㶭㽕䀁䍃䬀孧牗蒏"),
    ("Yu", "㑨㒁㒜㔱㚥㝢㣃㤢㥥㦛㬂㬰㽣䈅䋭䍂䐳䘻䰻䲣艈荢"), ("Yuan", "㭇㾓䡝䥉䲮茒"), ("Yue", "㜰㬦䆕䡇䤦"), ("Yun", "䤞䲰抣"),
    ("Zai", "䏁"), ("Zan", "㔆㜺㳫"), ("Zang", "㘸"), ("Zao", "栆"), ("Ze", "䕪伬"), ("Zha", "䕢"),
    ("Zhai", "㒀䔝"), ("Zhan", "㔊㜊㠭䁪"), ("Zhang", "幥鏱鐣"), ("Zhao", "㑿㕚䈃䈇䍮罀"), ("Zhe", "㭙㭯䇽䠦乽"),
    ("Zhen", "㐱㓄㖘㘰䊶䟴䪴鋴"), ("Zheng", "㬹䂻䈣䥭"), ("Zhi", "㕄㘉㜱㨁㯄䇛䉅䎺䐭䤠俧徔謢"), ("Zhong", "䇗"),
    ("Zhou", "㑇㑳㨄䓟炿"), ("Zhu", "㑏㔉"), ("Zhuan", "䡱磗"), ("Zhuang", "庒"), ("Zhuo", "㑁㒂㓸㧻㭬䅵䐁䮓窧"),
    ("Zi", "㧘㱴㺭崰"), ("Zong", "㷓䁓䈦潈"), ("Zou", "㔌㔿㵵"), ("Zu", "䔃"), ("Zui", "㭰"), ("Zun", "䔿"),
    ("Zuo", "㑅㘀㘴㤰㭮") ]

/-- Doubles of common ideographs, each with the reading that it was added for, by rows. -/
def hanDoubles : List (Nat × String) :=
  [ (0xF90, "Kay·Kayng·Ke·Ko·Kol·Koc·Kwi·Kwi·Kyun·Kul·Kum·Na·Na·Na·La·Na"),
    (0xF91, "Na·Na·Na·Na·Nak·Nak·Nak·Nak·Nak·Nak·Nak·Nan·Nan·Nan·Nan·Nan"),
    (0xF92, "Nan·Nam·Nam·Nam·Nam·Nap·Nap·Nap·Nang·Nang·Nang·Nang·Nang·Nay·Nayng·No"),
    (0xF93, "No·No·No·No·No·No·No·No·No·No·No·Nok·Nok·Nok·Nok·Nok"),
    (0xF94, "Nok·Non·Nong·Nong·Nong·Nong·Noy·Noy·Noy·Noy·Nwu·Nwu·Nwu·Nwu·Nwu·Nwu"),
    (0xF95, "Nwu·Nwu·Nuk·Nuk·Num·Nung·Nung·Nung·Nung·Nung·Twu·La·Lak·Lak·Lan·Lyeng"),
    (0xF96, "Lo·Lyul·Li·Pey·Pen·Pyen·Pwu·Pwul·Pi·Sak·Sayk·Sam·Sayk·Sayng·Sep·Sey"),
    (0xF97, "Sway·Sin·Sim·Sip·Ya·Yak·Yak·Yang·Yang·Yang·Yang·Yang·Yang·Yang·Yang·Ye"),
    (0xF98, "Ye·Ye·Ye·Ye·Ye·Ye·Ye·Ye·Ye·Ye·Yek·Yek·Yek·Yek·Yen·Yen"),
    (0xF99, "Yen·Yen·Yen·Yen·Yen·Yen·Yen·Yen·Yen·Yen·Yen·Yen·Yel·Yel·Yel·Yel"),
    (0xF9A, "Yel·Yel·Yem·Yem·Yem·Yem·Yem·Yep·Yeng·Yeng·Yeng·Yeng·Yeng·Yeng·Yeng·Yeng"),
    (0xF9B, "Yeng·Yeng·Yeng·Yeng·Yeng·Yey·Yey·Yey·Yey·O·Yo·Yo·Yo·Yo·Yo·Yo"),
    (0xF9C, "Yo·Yo·Yo·Yo·Yong·Wun·Wen·Yu·Yu·Yu·Yu·Yu·Yu·Yu·Yu·Yu"),
    (0xF9D, "Yu·Yuk·Yuk·Yuk·Yun·Yun·Yun·Yun·Yul·Yul·Yul·Yul·Yung·I·I·I"),
    (0xF9E, "I·I·I·I·I·I·I·I·I·I·I·Ik·Ik·In·In·In"),
    (0xF9F, "In·In·In·In·Im·Im·Im·Ip·Ip·Ip·Cang·Cek·Ci·Cip·Cha·Chek"),
    (0xFA0, "Chey·Thak·Thak·Thang·Thayk·Thong·Pho·Phok·Hang·Hang·Hyen·Hwak·Wu·Huo"),
    (0xFA1, "Zhong··Qing···Xi·Zhu·Yi·Li·Shen·Xiang·Fu·Jing·Jing·Yu"),
    (0xFA2, "Hagi··Zhu···Yi·Du····Fan·Si·Guan·He") ]

end Snippet.Spelling
