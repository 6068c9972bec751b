/-! Spellings of kana, Bopomofo, Hangul letters, Mongolian and Lisu, and of the signs and
units printed among ideographs. -/

set_option autoImplicit false

namespace Snippet.Spelling

def eastAsian : List (Nat × String) :=
  [ (0x110, "g·gg·n·d·dd·r·m·b·bb·s·ss··j·jj·c·k"),
    (0x111, "t·p·h·ng·nn·nd·nb·dg·rn·rr·rh·rN·mb·mN·bg·bn"),
    (0x112, "·bs·bsg·bst·bsb·bss·bsj·bj·bc·bt·bp·bN·bbN·sg·sn·sd"),
    (0x113, "sr·sm·sb·sbg·sss·s·sj·sc·sk·st·sp·sh"), (0x114, "Z·g·d·m·b·s·Z··j·c·t·p·N·j"),
    (0x115, "··ck·ch···pb·pN·hh·Q"), (0x116, "·a·ae·ya·yae·eo·e·yeo·ye·o·wa·wae·oe·yo·u·weo"),
    (0x117, "we·wi·yu·eu·yi·i·a-o·a-u·ya-o·ya-yo·eo-o·eo-u·eo-eu·yeo-o·yeo-u·o-eo"),
    (0x118, "o-e·o-ye·o-o·o-u·yo-ya·yo-yae·yo-yeo·yo-o·yo-i·u-a·u-ae·u-eo-eu·u-ye·u-u·yu-a·yu-eo"),
    (0x119, "yu-e·yu-yeo·yu-ye·yu-u·yu-i·eu-u·eu-eu·yi-u·i-a·i-ya·i-o·i-u·i-eu·i-U·U·U-eo"),
    (0x11A, "U-u·U-i·UU······g·gg·gs·n·nj·nh·d·l"),
    (0x11B, "lg·lm·lb·ls·lt·lp·lh·m·b·bs·s·ss·ng·j·c·k"),
    (0x11C, "t·p·h·gl·gsg·ng·nd·ns·nZ·nt·dg·tl·lgs·ln·ld·lth"),
    (0x11D, "ll·lmg·lms·lbs·lbh·rNp·lss·lZ·lk·lQ·mg·ml·mb·ms·mss·mZ"),
    (0x11E, "mc·mh·mN·bl·bp·ph·pN·sg·sd·sl·sb·Z·g·ss··kh"), (0x11F, "N·Ns·NZ·pb·pN·hn·hl·hm·hb·Q"),
    (0x180, " @ · ... ·,·. ·: · // ··-·, ·. "), (0x181, "0·1·2·3·4·5·6·7·8·9"),
    (0x182, "a·e·i·o·u·O·U·ee·n·ng·b·p·q·g·m·l"), (0x183, "s·sh·t·d·ch·j·y·r·w·f·k·kha·ts·z·h·zr"),
    (0x184, "lh·zh·ch·-·e·i·o·u·O·U·ng·b·p·q·g·m"),
    (0x185, "t·d·ch·j·ts·y·w·k·g·h·jy·ny·dz·e·i·iy"), (0x186, "U·u·ng·k·g·h·p·sh·t·d·j·f·g·h·ts·z"),
    (0x187, "r·ch·zh·i·k·r·f·zh"), (0x188, "H·X·W·M· 3 · 333 ·a·i·k·ng·c·tt·tth·dd·nn·t"),
    (0x189, "d·p·ph·ss·zh·z·a·t·zh·gh·ng·c·jh·tta·ddh·t"), (0x18A, "dh·ss·cy·zh·z·u·y·bh·'"),
    (0x2E9, "···············Mu"), (0x2EF, "···Gui"),
    (0x2F0, "Yi·Gun·Zhu·Pie·Yi·Jue·Er·Tou·Ren·Er·Ru·Ba·Jiong·Mi·Bing·Ji"),
    (0x2F1, "Qian·Dao·Li·Bao·Bi·Fang·Xi·Shi·Bu·Jie·Han·Si·You·Kou·Wei·Tu"),
    (0x2F2, "Shi·Zhi·Sui·Xi·Da·Nu·Zi·Mian·Cun·Xiao·Wang·Shi·Che·Shan·Chuan·Gong"),
    (0x2F3, "Ji·Jin·Gan·Yao·Yan·Yin·Gong·Yi·Gong·Ji·Shan·Chi·Xin·Ge·Hu·Shou"),
    (0x2F4, "Zhi·Pu·Wen·Dou·Jin·Fang·Wu·Ri·Yue·Yue·Mu·Qian·Zhi·Dai·Shu·Wu"),
    (0x2F5, "Bi·Mao·Shi·Qi·Shui·Huo·Zhua·Fu·Yao·Qiang·Pian·Ya·Niu·Quan·Xuan·Yu"),
    (0x2F6, "Gua·Wa·Gan·Sheng·Yong·Tian·Pi·Chuang·Bo·Bai·Pi·Min·Mu·Mao·Shi·Shi"),
    (0x2F7, "Shi·Rou·He·Xue·Li·Zhu·Mi·Mi·Fou·Wang·Yang·Yu·Lao·Er·Lei·Er"),
    (0x2F8, "Yu·Rou·Chen·Zi·Zhi·Jiu·She·Chuan·Zhou·Gen·Se·Cao·Hu·Chong·Xie·Xing"),
    (0x2F9, "Yi·Ya·Jian·Jiao·Yan·Gu·Dou·Shi·Zhi·Bei·Chi·Zou·Zu·Shen·Che·Xin"),
    (0x2FA, "Chen·Chuo·Yi·You·Bian·Li·Jin·Chang·Men·Fu·Li·Zhui·Yu·Qing·Fei·Mian"),
    (0x2FB, "Ge·Wei·Jiu·Yin·Ye·Feng·Fei·Shi·Shou·Xiang·Ma·Gu·Gao·Biao·Dou·Chang"),
    (0x2FC, "Li·Gui·Yu·Niao·Lu·Lu·Mai·Ma·Huang·Shu·Hei·Zhi·Min·Ding·Gu·Shu"),
    (0x2FD, "Bi·Qi·Chi·Long·Gui·Yue"),
    (0x300, " ·, ·. ·\"·[JIS]·\"·/·0·<·> ·<<·>> ·[·] ·\x7b·\x7d "),
    (0x301, "[(·)] ·@·X ·[·] ·[[·]] ·((·)) ·[[·]] ·~ ·\x60\x60·''·,,"),
    (0x302, "@·1·2·3·4·5·6·7·8·9"), (0x303, "~·+·+·+·+··@· // ·+10+·+20+·+30+"),
    (0x304, "·a·a·i·i·u·u·e·e·o·o·ka·ga·ki·gi·ku"),
    (0x305, "gu·ke·ge·ko·go·sa·za·shi·zi·su·zu·se·ze·so·zo·ta"),
    (0x306, "da·chi·di·tsu·tsu·du·te·de·to·do·na·ni·nu·ne·no·ha"),
    (0x307, "ba·pa·hi·bi·pi·hu·bu·pu·he·be·pe·ho·bo·po·ma·mi"),
    (0x308, "mu·me·mo·ya·ya·yu·yu·yo·yo·ra·ri·ru·re·ro·wa·wa"),
    (0x309, "wi·we·wo·n·vu·ka·ke·······\"·\"·yori"),
    (0x30A, "=·a·a·i·i·u·u·e·e·o·o·ka·ga·ki·gi·ku"),
    (0x30B, "gu·ke·ge·ko·go·sa·za·shi·zi·su·zu·se·ze·so·zo·ta"),
    (0x30C, "da·chi·di·tsu·tsu·du·te·de·to·do·na·ni·nu·ne·no·ha"),
    (0x30D, "ba·pa·hi·bi·pi·hu·bu·pu·he·be·pe·ho·bo·po·ma·mi"),
    (0x30E, "mu·me·mo·ya·ya·yu·yu·yo·yo·ra·ri·ru·re·ro·wa·wa"),
    (0x30F, "wi·we·wo·n·vu·ka·ke·va·vi·ve·vo···\"·\"·koto"), (0x310, "·····B·P·M·F·D·T·N·L·G·K·H"),
    (0x311, "J·Q·X·ZH·CH·SH·R·Z·C·S·A·O·E·EH·AI·EI"),
    (0x312, "AU·OU·AN·EN·ANG·ENG·ER·I·U·IU·V·NG·GN·IH·O·NN"),
    (0x313, "·g·gg·gs·n·nj·nh·d·dd·r·lg·lm·lb·ls·lt·lp"),
    (0x314, "rh·m·b·bb·bs·s·ss··j·jj·c·k·t·p·h·a"),
    (0x315, "ae·ya·yae·eo·e·yeo·ye·o·wa·wae·oe·yo·u·weo·we·wi"),
    (0x316, "yu·eu·yi·i··nn·nd·ns·nZ·lgs·ld·lbs·lZ·lQ·mb·ms"),
    (0x317, "mZ·mN·bg··bsg·bst·bj·bt·bN·bbN·sg·sn·sd·sb·sj·Z"),
    (0x318, "·N·Ns·NZ·pN·hh·Q·yo-ya·yo-yae·yo-i·yu-yeo·yu-ye·yu-i·U·U-i"),
    (0x319, "··Yi·Er·San·Si·Shang·Zhong·Xia·Jia·Yi·Bing·Ding·Tian·Di·Ren"),
    (0x31A, "BU·ZI·JI·GU·EE·ENN·OO·ONN·IR·ANN·INN·UNN·IM·NGG·AINN·AUNN"),
    (0x31B, "AM·OM·ONG·INNN·P·T·K·H"), (0x31F, "ku·shi·su·to·nu·ha·hi·hu·he·ho·mu·ra·ri·ru·re·ro"),
    (0x320, "(g)·(n)·(d)·(r)·(m)·(b)·(s)·()·(j)·(c)·(k)·(t)·(p)·(h)·(ga)·(na)"),
    (0x321, "(da)·(ra)·(ma)·(ba)·(sa)·(a)·(ja)·(ca)·(ka)·(ta)·(pa)·(ha)·(ju)·(ojeon)·(ohu)"),
    (0x322, "(1) ·(2) ·(3) ·(4) ·(5) ·(6) ·(7) ·(8) ·(9) ·(10) ·(Yue) ·(Huo) ·(Shui) ·(Mu) ·(Jin) ·(Tu) "),
    (0x323, "(Ri) ·(Zhu) ·(You) ·(She) ·(Ming) ·(Te) ·(Cai) ·(Zhu) ·(Lao) ·(Dai) ·(Hu) ·(Xue) ·(Jian) ·(Qi) ·(Zi) ·(Xie) "),
    (0x324, "(Ji) ·(Xiu) ·<<·>>·Wen·You·Wen·Zheng"),
    (0x325, "PTE·21·22·23·24·25·26·27·28·29·30·31·32·33·34·35"),
    (0x326, "(g)·(n)·(d)·(r)·(m)·(b)·(s)·()·(j)·(c)·(k)·(t)·(p)·(h)·(ga)·(na)"),
    (0x327, "(da)·(ra)·(ma)·(ba)·(sa)·(a)·(ja)·(ca)·(ka)·(ta)·(pa)·(ha)·camgo·juyi·u·KIS "),
    (0x328, "(1) ·(2) ·(3) ·(4) ·(5) ·(6) ·(7) ·(8) ·(9) ·(10) ·(Yue) ·(Huo) ·(Shui) ·(Mu) ·(Jin) ·(Tu) "),
    (0x329, "(Ri) ·(Zhu) ·(You) ·(She) ·(Ming) ·(Te) ·(Cai) ·(Zhu) ·(Lao) ·(Mi) ·(Nan) ·(Nu) ·(Shi) ·(You) ·(Yin) ·(Zhu) "),
    (0x32A, "(Xiang) ·(Xiu) ·(Xie) ·(Zheng) ·(Shang) ·(Zhong) ·(Xia) ·(Zuo) ·(You) ·(Yi) ·(Zong) ·(Xue) ·(Jian) ·(Qi) ·(Zi) ·(Xie) "),
    (0x32B, "(Ye) ·36·37·38·39·40·41·42·43·44·45·46·47·48·49·50"),
    (0x32C, "1M·2M·3M·4M·5M·6M·7M·8M·9M·10M·11M·12M·Hg·erg·eV·LTD"),
    (0x32D, "a·i·u·e·o·ka·ki·ku·ke·ko·sa·si·su·se·so·ta"),
    (0x32E, "ti·tu·te·to·na·ni·nu·ne·no·ha·hi·hu·he·ho·ma·mi"),
    (0x32F, "mu·me·mo·ya·yu·yo·ra·ri·ru·re·ro·wa·wi·we·wo·Reiwa"),
    (0x330, "apartment·alpha·ampere·are·inning·inch·won·escudo·acre·ounce·ohm·kai-ri·carat·calorie·gallon·gamma"),
    (0x331, "giga·guinea·curie·guilder·kilo·kilogram·kilometer·kilowatt·gram·gram ton·cruzeiro·krone·case·koruna·co-op·cycle"),
    (0x332, "centime·shilling·centi·cent·dozen·desi·dollar·ton·nano·knot·heights·percent·parts·barrel·piaster·picul"),
    (0x333, "pico·building·farad·feet·bushel·franc·hectare·peso·pfennig·hertz·pence·page·beta·point·volt·hon"),
    (0x334, "pound·hall·horn·micro·mile·mach·mark·mansion·micron·milli·millibar·mega·megaton·meter·yard·yard"),
    (0x335, "yuan·liter·lira·rupee·ruble·rem·roentgen·watt·0h·1h·2h·3h·4h·5h·6h·7h"),
    (0x336, "8h·9h·10h·11h·12h·13h·14h·15h·16h·17h·18h·19h·20h·21h·22h·23h"),
    (0x337, "24h·HPA·da·AU·bar·oV·pc·dm·dm^2·dm^3·IU·Heisei·Syouwa·Taisyou·Meiji·Inc."),
    (0x338, "pA·nA·microamp·mA·kA·kB·MB·GB·cal·kcal·pF·nF·microFarad·microgram·mg·kg"),
    (0x339, "Hz·kHz·MHz·GHz·THz·microliter·ml·dl·kl·fm·nm·micrometer·mm·cm·km·mm^2"),
    (0x33A, "cm^2·m^2·km^2·mm^4·cm^3·m^3·km^3·m/s·m/s^2·Pa·kPa·MPa·GPa·rad·rad/s·rad/s^2"),
    (0x33B, "ps·ns·microsecond·ms·pV·nV·microvolt·mV·kV·MV·pW·nW·microwatt·mW·kW·MW"),
    (0x33C, "kOhm·MOhm·a.m.·Bq·cc·cd·C/kg·Co.·dB·Gy·ha·HP·in·K.K.·KM·kt"),
    (0x33D, "lm·ln·log·lx·mb·mil·mol·pH·p.m.·PPM·PR·sr·Sv·Wb·-·-"),
    (0x33E, "1d·2d·3d·4d·5d·6d·7d·8d·9d·10d·11d·12d·13d·14d·15d·16d"),
    (0x33F, "17d·18d·19d·20d·21d·22d·23d·24d·25d·26d·27d·28d·29d·30d·31d·gal"),
    (0xA4D, "B·P·Ph·D·T·Th·G·K·Kh·J·C·Ch·Dz·Ts·Tsh·M"),
    (0xA4E, "N·L·S·Zh·Z·Ng·H·X·Hh·F·W·Sh·Y·Gh·A·Ae"), (0xA4F, "E·Eu·I·O·U·Ue·Uh·Oe"),
    (0xFA2, "··············Lang·Li"),
    (0xFA3, "Wu·Seng·Mian·Mian·Qin·Bei·He·Tan·Qi·Pyeng·Mo·Ceng·Che·Hui·Kai·Zeng"),
    (0xFA4, "Cheng·Min·Ji·Shu·Mei·Hai·Zhu·Han·Zhu·Tsumekanmuri·Zhuo·Bei·She·Zhi·Qi·You"),
    (0xFA5, "Zu·Zhu·Huo·Zhen·Gu·Tu·Jie·Lian·Jin·Fan·Shu·Zhe·Chou·Cao·Cao·Zhu"),
    (0xFA6, "He·Shi·Ye·Jin·Bin·Zeng·Chuo·Yi·Nan·Xiang·Pin·Hui··Guan"),
    (0xFA7, "Bing·Kuang·Quan·Xing·Chong·Ji·Yong·Shao·He·Tao·Hui·Wa·Zhong·Fen·Yan·Ben"),
    (0xFA8, "Bi·Ci·Ao·Yi·Cai·Yao·Wang·Shen·Yu·Zeng·Ao·Cheng·Dai·Yu·Sou·Bing"),
    (0xFA9, "Ao·Qing·Lang·Wang·Zhang·Dai·Sha·Liu·Yin·Zi·Han·Jing·Zhu·Qiao·Jue·Fan"),
    (0xFAA, "Zhu·Zhen·Ci·Hua·Guan·Wen·Yi·Sheng·Zhi·Juan·Zhao·Zhen·Tiao·Jie·Lei·Tao"),
    (0xFAB, "Lian·Ping·Zhe·Huang·Hua·Yun·Jiang·Fu·Shi·Diao·Zhu·Qing·Ye·Nuo·Yu·Jin"),
    (0xFAC, "Bian·Zeng·Shu·Chi·Sou·Xing·Zhu·Nan·Jing·Bei·Xiang·Gu·Pin·Zhen·Gui"),
    (0xFAD, "····Jie····Ge·Pang"), (0xFE3, "..·--·-·_·_·(·) ·\x7b·\x7d ·[·] ·[(·)] ·<<·>> ·<"),
    (0xFE4, "> ·[·] ·\x7b·\x7d ·[·] ·······_·_·_"), (0xFF5, "···············(("),
    (0xFF6, "))·.·[·]·,·*·wo·a·i·u·e·o·ya·yu·yo·tu"),
    (0xFF7, "+·a·i·u·e·o·ka·ki·ku·ke·ko·sa·si·su·se·so"),
    (0xFF8, "ta·ti·tu·te·to·na·ni·nu·ne·no·ha·hi·hu·he·ho·ma"),
    (0xFF9, "mi·mu·me·mo·ya·yu·yo·ra·ri·ru·re·ro·wa·n·:·;"),
    (0xFFA, "·g·gg·gs·n·nj·nh·d·dd·r·lg·lm·lb·ls·lt·lp"),
    (0xFFB, "rh·m·b·bb·bs·s·ss··j·jj·c·k·t·p·h"),
    (0xFFC, "··a·ae·ya·yae·eo·e···yeo·ye·o·wa·wae·oe"), (0xFFD, "··yo·u·weo·we·wi·yu···eu·yi·i"),
    (0xFFE, "/C·PS·!·-·|·Y=·W··|·-·|·-·|·#·O"), (0x1F20, "hoka"),
    (0x1F21, "Shou·Zi·Shuang·te·Er·Duo·Jie·Tian·Jiao·Ying··Liao·Qian·Hou·Zai·Xin"),
    (0x1F22, "Chu·Zhong·Sheng·Fan·Sheng·Chui·Yan·Tou·Bu·Yi·San·You·Zuo·Zhong·You"),
    (0x1F23, "Zou·Da··········Pei"),
    (0x1F24, "[Ben] ·[San] ·[Er] ·[An] ·[Dian] ·[Da] ·[Dao] ·[Sheng] ·[Bai] ") ]

end Snippet.Spelling
