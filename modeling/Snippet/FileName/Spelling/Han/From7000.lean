/-! Readings of the ideographs from U+7000 to U+7FFF. -/

set_option autoImplicit false

namespace Snippet.Spelling

def hanFrom7000 : List (Nat × String) :=
  [ (0x700, "You·Yang·Lu·Si·Jie·Ying·Du·Wang·Hui·Xie·Pan·Shen·Biao·Chan·Mo·Liu"),
    (0x701, "Jian·Pu·Se·Cheng·Gu·Bin·Huo·Xian·Lu·Qin·Han·Ying·Rong·Li·Jing·Xiao"),
    (0x702, "Ying·Sui·Wei·Xie·Huai·Hao·Zhu·Long·Lai·Dui·Fan·Hu·Lai···Ying"),
    (0x703, "Mi·Ji·Lian·Jian·Ying·Fen·Lin·Yi·Jian·Yue·Chan·Dai·Rang·Jian·Lan·Fan"),
    (0x704, "Shuang·Yuan·Zhuo·Feng·She·Lei·Lan·Cong·Qu·Yong·Qian·Fa·Guan·Que·Yan·Hao"),
    (0x705, "Hyeng·Sa·Zan·Luan·Yan·Li·Mi·Shan·Tan·Dang·Jiao·Chan··Hao·Ba·Zhu"),
    (0x706, "Lan·Lan·Nang·Wan·Luan·Xun·Xian·Yan·Gan·Yan·Yu·Huo·Si·Mie·Guang·Deng"),
    (0x707, "Hui·Xiao·Xiao·Hu·Hong·Ling·Zao·Zhuan·Jiu·Zha·Xie·Chi·Zhuo·Zai·Zai·Can"),
    (0x708, "Yang·Qi·Zhong·Fen·Niu·Jiong·Wen·Po·Yi·Lu·Chui·Pi·Kai·Pan·Yan·Kai"),
    (0x709, "Pang·Mu·Chao·Liao·Gui·Kang·Tun·Guang·Xin·Zhi·Guang·Guang·Wei·Qiang··Da"),
    (0x70A, "Xia·Zheng·Zhu·Ke·Zhao·Fu·Ba·Duo·Duo·Ling·Zhuo·Xuan·Ju·Tan·Pao·Jiong"),
    (0x70B, "Pao·Tai·Tai·Bing·Yang·Tong·Han·Zhu·Zha·Dian·Wei·Shi·Lian·Chi·Huang"),
    (0x70C, "Hu·Shuo·Lan·Jing·Jiao·Xu·Xing·Quan·Lie·Huan·Yang·Xiao·Xiu·Xian·Yin·Wu"),
    (0x70D, "Zhou·Yao·Shi·Wei·Tong·Xue·Zai·Kai·Hong·Luo·Xia·Zhu·Xuan·Zheng·Po·Yan"),
    (0x70E, "Hui·Guang·Zhe·Hui·Kao··Fan·Shao·Ye·Hui··Tang·Jin·Re··Xi"),
    (0x70F, "Fu·Jiong·Che·Pu·Jing·Zhuo·Ting·Wan·Hai·Peng·Lang·Shan·Hu·Feng·Chi·Rong"),
    (0x710, "Hu·Xi·Shu·He·Xun·Ku·Jue·Xiao·Xi·Yan·Han·Zhuang·Jun·Di·Xie·Ji"),
    (0x711, "Wu···Han·Yan·Huan·Men·Ju·Chou·Bei·Fen·Lin·Kun·Hun·Tun·Xi"),
    (0x712, "Cui·Wu·Hong·Ju·Fu·Wo·Jiao·Cong·Feng·Ping·Qiong·Ruo·Xi·Qiong·Xin·Zhuo"),
    (0x713, "Yan·Yan·Yi·Jue·Yu·Gang·Ran·Pi·Gu··Sheng·Chang·Shao"),
    (0x714, "·Chen·He·Kui·Zhong·Duan·Xia·Hui·Feng·Lian·Xuan·Xing·Huang·Jiao·Jian·Bi"),
    (0x715, "Ying·Zhu·Wei·Tuan·Tian·Xi·Nuan·Nuan·Chan·Yan·Jiong·Jiong·Yu·Mei·Sha·Wei"),
    (0x716, "Ye·Xin·Qiong·Rou·Mei·Huan·Xu·Zhao·Wei·Fan·Qiu·Sui·Yang·Lie·Zhu·Jie"),
    (0x717, "Gao·Gua·Bao·Hu·Yun·Xia···Bian·Gou·Tui·Tang·Chao·Shan·N·Bo"),
    (0x718, "Huang·Xie·Xi·Wu·Xi·Yun·He·He·Xi·Yun·Xiong·Nai·Shan·Qiong·Yao·Xun"),
    (0x719, "Mi·Lian·Ying·Wen·Rong·Oozutsu··Qiang·Liu·Xi·Bi·Biao·Zong·Lu·Jian·Shou"),
    (0x71A, "Yi·Lou·Feng·Sui·Yi·Tong·Jue·Zong·Yun·Hu·Yi·Zhi·Ao·Wei·Liao·Han"),
    (0x71B, "Ou·Re·Jiong·Man··Shang·Cuan·Zeng·Jian·Xi·Xi·Xi·Yi·Xiao·Chi·Huang"),
    (0x71C, "Chan·Ye·Qian·Ran·Yan·Xian·Qiao·Zun·Deng·Dun·Shen·Jiao·Fen·Si·Liao·Yu"),
    (0x71D, "Lin·Tong·Shao·Fen·Fan·Yan·Xun·Lan·Mei·Tang·Yi·Jing·Men···Ying"),
    (0x71E, "Yu·Yi·Xue·Lan·Tai·Zao·Can·Sui·Xi·Que·Cong·Lian·Hui·Zhu·Xie·Ling"),
    (0x71F, "Wei·Yi·Xie·Zhao·Hui·Tatsu·Nung·Lan·Ru·Xian·Kao·Xun·Jin·Chou·Chou·Yao"),
    (0x720, "He·Lan·Biao·Rong·Li·Mo·Bao·Ruo·Lu·La·Ao·Xun·Kuang·Shuo··Li"),
    (0x721, "Lu·Jue·Liao·Yan·Xi·Xie·Long·Ye··Rang·Yue·Lan·Cong·Jue·Tong·Guan"),
    (0x722, "·Che·Mi·Tang·Lan·Zhu··Ling·Cuan·Yu·Zhua·Tsumekanmuri·Pa·Zheng·Pao·Cheng"),
    (0x723, "Yuan·Ai·Wei··Jue·Jue·Fu·Ye·Ba·Die·Ye·Yao·Zu·Shuang·Er·Qiang"),
    (0x724, "Chuang·Ge·Zang·Die·Qiang·Yong·Qiang·Pian·Ban·Pan·Shao·Jian·Pai·Du·Chuang·Tou"),
    (0x725, "Zha·Bian·Die·Bang·Bo·Chuang·You··Du·Ya·Cheng·Niu·Ushihen·Pin·Jiu·Mou"),
    (0x726, "Tuo·Mu·Lao·Ren·Mang·Fang·Mao·Mu·Gang·Wu·Yan·Ge·Bei·Si·Jian·Gu"),
    (0x727, "You·Ge·Sheng·Mu·Di·Qian·Quan·Quan·Zi·Te·Xi·Mang·Keng·Qian·Wu·Gu"),
    (0x728, "Xi·Li·Li·Pou·Ji·Gang·Zhi·Ben·Quan·Run·Du·Ju·Jia·Jian·Feng·Pian"),
    (0x729, "Ke·Ju·Kao·Chu·Xi·Bei·Luo·Jie·Ma·San·Wei·Li·Dun·Tong··Jiang"),
    (0x72A, "Ikenie·Li·Du·Lie·Pi·Piao·Bao·Xi·Chou·Wei·Kui·Chou·Quan·Fan·Ba·Fan"),
    (0x72B, "Qiu·Ji·Cai·Chuo·An·Jie·Zhuang·Guang·Ma·You·Kang·Bo·Hou·Ya·Yin·Huan"),
    (0x72C, "Zhuang·Yun·Kuang·Niu·Di·Qing·Zhong·Mu·Bei·Pi·Ju·Ni·Sheng·Pao·Xia·Tuo"),
    (0x72D, "Hu·Ling·Fei·Pi·Ni·Ao·You·Gou·Yue·Ju·Dan·Po·Gu·Xian·Ning·Huan"),
    (0x72E, "Hen·Jiao·He·Zhao·Ji·Xun·Shan·Ta·Rong·Shou·Tong·Lao·Du·Xia·Shi·Hua"),
    (0x72F, "Zheng·Yu·Sun·Yu·Bi·Mang·Xi·Juan·Li·Xia·Yin·Suan·Lang·Bei·Zhi·Yan"),
    (0x730, "Sha·Li·Han·Xian·Jing·Pai·Fei·Yao·Ba·Qi·Ni·Biao·Yin·Lai·Xi·Jian"),
    (0x731, "Qiang·Kun·Yan·Guo·Zong·Mi·Chang·Yi·Zhi·Zheng·Ya·Meng·Cai·Cu·She·Kari"),
    (0x732, "Cen·Luo·Hu·Zong·Ji·Wei·Feng·Wo·Yuan·Xing·Zhu·Mao·Wei·Yuan·Xian·Tuan"),
    (0x733, "Ya·Nao·Xie·Jia·Hou·Bian·You·You·Mei·Zha·Yao·Sun·Bo·Ming·Hua·Yuan"),
    (0x734, "Sou·Ma·Yuan·Dai·Yu·Shi·Hao··Yi·Zhen·Chuang·Hao·Man·Jing·Jiang·Mu"),
    (0x735, "Zhang·Chan·Ao·Ao·Hao·Cui·Fen·Jue·Bi·Bi·Huang·Pu·Lin·Yu·Tong·Yao"),
    (0x736, "Liao·Shuo·Xiao·Swu··Xi·Ge·Juan·Du·Hui·Kuai·Xian·Xie·Ta·Xian·Xun"),
    (0x737, "Ning·Pin·Huo·Nou·Meng·Lie·Nao·Guang·Shou·Lu·Ta·Xian·Mi·Rang·Huan·Nao"),
    (0x738, "Luo·Xian·Qi·Jue·Xuan·Miao·Zi·Lu·Lu·Yu·Su·Wang·Qiu·Ga·Ding·Le"),
    (0x739, "Ba·Ji·Hong·Di·Quan·Gan·Jiu·Yu·Ji·Yu·Yang·Ma·Gong·Wu·Fu·Wen"),
    (0x73A, "Jie·Ya·Fen·Bian·Beng·Yue·Jue·Yun·Jue·Wan·Jian·Mei·Dan·Pi·Wei·Huan"),
    (0x73B, "Xian·Qiang·Ling·Dai·Yi·An·Ping·Dian·Fu·Xuan·Xi·Bo·Ci·Gou·Jia·Shao"),
    (0x73C, "Po·Ci·Ke·Ran·Sheng·Shen·Yi·Zu·Jia·Min·Shan·Liu·Bi·Zhen·Zhen·Jue"),
    (0x73D, "Fa·Long·Jin·Jiao·Jian·Li·Guang·Xian·Zhou·Gong·Yan·Xiu·Yang·Xu·Luo·Su"),
    (0x73E, "Zhu·Qin·Ken·Xun·Bao·Er·Xiang·Yao·Xia·Heng·Gui·Chong·Xu·Ban·Pei"),
    (0x73F, "Dang·Ei·Hun·Wen·E·Cheng·Ti·Wu·Wu·Cheng·Jun·Mei·Bei·Ting·Xian·Chuo"),
    (0x740, "Han·Xuan·Yan·Qiu·Quan·Lang·Li·Xiu·Fu·Liu·Ye·Xi·Ling·Li·Jin·Lian"),
    (0x741, "Suo·Chiisai··Wan·Dian·Pin·Zhan·Cui·Min·Yu·Ju·Chen·Lai·Wen·Sheng·Wei"),
    (0x742, "Dian·Chu·Zhuo·Pei·Cheng·Hu·Qi·E·Kun·Chang·Qi·Beng·Wan·Lu·Cong·Guan"),
    (0x743, "Yan·Diao·Bei·Lin·Qin·Pi·Pa·Que·Zhuo·Qin·Fa··Qiong·Du·Jie·Hun"),
    (0x744, "Yu·Mao·Mei·Chun·Xuan·Ti·Xing·Dai·Rou·Min·Zhen·Wei·Ruan·Huan·Xie·Chuan"),
    (0x745, "Jian·Zhuan·Yang·Lian·Quan·Xia·Duan·Yuan·Ye·Nao·Hu·Ying·Yu·Huang·Rui·Se"),
    (0x746, "Liu·Shi·Rong·Suo·Yao·Wen·Wu·Jin·Jin·Ying·Ma·Tao·Liu·Tang·Li·Lang"),
    (0x747, "Gui·Zhen·Qiang·Cuo·Jue·Zhao·Yao·Ai·Bin·Tu·Chang·Kun·Zhuan·Cong·Jin·Yi"),
    (0x748, "Cui·Cong·Qi·Li·Ying·Suo·Qiu·Xuan·Ao·Lian·Man·Zhang·Yin··Ying·Zhi"),
    (0x749, "Lu·Wu·Deng·Xiou·Zeng·Xun·Qu·Dang·Lin·Liao·Qiong·Su·Huang·Gui·Pu·Jing"),
    (0x74A, "Fan·Jin·Liu·Ji··Jing·Ai·Bi·Can·Qu·Zao·Dang·Jiao·Gun·Tan·Hui"),
    (0x74B, "Huan·Se·Sui·Tian··Yu·Jin·Lu·Bin·Shou·Wen·Zui·Lan·Xi·Ji·Xuan"),
    (0x74C, "Ruan·Huo·Gai·Lei·Du·Li·Zhi·Rou·Li·Zan·Qiong·Zhe·Gui·Sui·La·Long"),
    (0x74D, "Lu·Li·Zan·Lan·Ying·Mi·Xiang·Xi·Guan·Dao·Zan·Huan·Gua·Bo·Die·Bao"),
    (0x74E, "Hu·Zhi·Piao·Ban·Rang·Li·Wa·Deka·Jiang·Qian·Fan·Pen·Fang·Dan·Weng·Ou"),
    (0x74F, "Deshiguramu·Miriguramu·Thon·Hu·Ling·Yi·Ping·Ci·Hekutogura·Juan·Chang·Chi·Sarake·Dang·Meng·Pou"),
    (0x750, "Zhui·Ping·Bian·Zhou·Zhen·Senchigura·Ci·Ying·Qi·Xian·Lou·Di·Ou·Meng·Zhuan·Peng"),
    (0x751, "Lin·Zeng·Wu·Pi·Dan·Weng·Ying·Yan·Gan·Dai·Shen·Tian·Tian·Han·Chang·Sheng"),
    (0x752, "Qing·Sheng·Chan·Chan·Rui·Sheng·Su·Sen·Yong·Shuai·Lu·Fu·Yong·Beng·Feng·Ning"),
    (0x753, "Tian·You·Jia·Shen·Zha·Dian·Fu·Nan·Dian·Ping·Ding·Hua·Ting·Quan·Zi·Meng"),
    (0x754, "Bi·Qi·Liu·Xun·Liu·Chang·Mu·Yun·Fan·Fu·Geng·Tian·Jie·Jie·Quan·Wei"),
    (0x755, "Fu·Tian·Mu·Tap·Pan·Jiang·Wa·Da·Nan·Liu·Ben·Zhen·Chu·Mu·Mu·Ce"),
    (0x756, "Cen·Gai·Bi·Da·Zhi·Lue·Qi·Lue·Pan·Kesa·Fan·Hua·Yu·Yu·Mu·Jun"),
    (0x757, "Yi·Liu·Yu·Die·Chou·Hua·Dang·Chuo·Ji·Wan·Jiang·Sheng·Chang·Tuan·Lei·Ji"),
    (0x758, "Cha·Liu·Tatamu·Tuan·Lin·Jiang·Jiang·Chou·Bo·Die·Die·Pi·Nie·Dan·Shu·Shu"),
    (0x759, "Zhi·Yi·Chuang·Nai·Ding·Bi·Jie·Liao·Gong·Ge·Jiu·Zhou·Xia·Shan·Xu·Nue"),
    (0x75A, "Li·Yang·Chen·You·Ba·Jie·Jue·Zhi·Xia·Cui·Bi·Yi·Li·Zong·Chuang·Feng"),
    (0x75B, "Zhu·Pao·Pi·Gan·Ke·Ci·Xie·Qi·Dan·Zhen·Fa·Zhi·Teng·Ju·Ji·Fei"),
    (0x75C, "Qu·Dian·Jia·Xian·Cha·Bing·Ni·Zheng·Yong·Jing·Quan·Chong·Tong·Yi·Kai·Wei"),
    (0x75D, "Hui·Duo·Yang·Chi·Zhi·Hen·Ya·Mei·Dou·Jing·Xiao·Tong·Tu·Mang·Pi·Xiao"),
    (0x75E, "Suan·Pu·Li·Zhi·Cuo·Duo·Wu·Sha·Lao·Shou·Huan·Xian·Yi·Peng·Zhang·Guan"),
    (0x75F, "Tan·Fei·Ma·Lin·Chi·Ji·Dian·An·Chi·Bi·Bei·Min·Gu·Dui·E·Wei"),
    (0x760, "Yu·Cui·Ya·Zhu·Cu·Dan·Shen·Zhung·Ji·Yu·Hou·Feng·La·Yang·Shen·Tu"),
    (0x761, "Yu·Gua·Wen·Huan·Ku·Jia·Yin·Yi·Lu·Sao·Jue·Chi·Xi·Guan·Yi·Wen"),
    (0x762, "Ji·Chuang·Ban·Lei·Liu·Chai·Shou·Nue·Dian·Da·Pie·Tan·Zhang·Biao·Shen·Cu"),
    (0x763, "Luo·Yi·Zong·Chou·Zhang·Zhai·Sou·Suo·Que·Diao·Lou·Lu·Mo·Jin·Yin·Ying"),
    (0x764, "Huang·Fu·Liao·Long·Qiao·Liu·Lao·Xian·Fei·Dan·Yin·He·Yan·Ban·Xian·Guan"),
    (0x765, "Guai·Nong·Yu·Wei·Yi·Yong·Pi·Lei·Li·Shu·Dan·Lin·Dian·Lin·Lai·Pie"),
    (0x766, "Ji·Chi·Yang·Xuan·Jie·Zheng·Meng·Li·Huo·Lai·Shan·Dian·Xuan·Ying·Yin·Qu"),
    (0x767, "Yong·Tan·Dian·Luo·Luan·Luan·Bo·Bo·Gui·Po·Fa·Deng·Fa·Bai·Bai·Qie"),
    (0x768, "Bi·Zao·Zao·Mao·De·Pa·Jie·Huang·Gui·Ci·Ling·Gao·Mo·Ji·Jiao·Peng"),
    (0x769, "Gao·Ai·E·Hao·Han·Bi·Wan·Chou·Qian·Xi·Ai·Jiong·Hao·Huang·Hao·Ze"),
    (0x76A, "Cui·Hao·Xiao·Ye·Po·Hao·Jiao·Ai·Xing·Huang·Li·Piao·He·Jiao·Pi·Gan"),
    (0x76B, "Pao·Zhou·Jun·Qiu·Cun·Que·Zha·Gu·Jun·Jun·Zhou·Zha·Gu·Zhan·Du·Min"),
    (0x76C, "Qi·Ying·Yu·Bei·Zhao·Zhong·Pen·He·Ying·He·Yi·Bo·Wan·He·Ang·Zhan"),
    (0x76D, "Yan·Jian·He·Yu·Kui·Fan·Gai·Dao·Pan·Fu·Qiu·Sheng·Dao·Lu·Zhan·Meng"),
    (0x76E, "Li·Jin·Xu·Jian·Pan·Guan·An·Lu·Shu·Zhou·Dang·An·Gu·Li·Mu·Cheng"),
    (0x76F, "Gan·Xu·Mang·Mang·Zhi·Qi·Ruan·Tian·Xiang·Dun·Xin·Xi·Pan·Feng·Dun·Min"),
    (0x770, "Ming·Sheng·Shi·Yun·Mian·Pan·Fang·Miao·Dan·Mei·Mao·Kan·Xian·Ou·Shi·Yang"),
    (0x771, "Zheng·Yao·Shen·Huo·Da·Zhen·Kuang·Ju·Shen·Chi·Sheng·Mei·Mo·Zhu·Zhen·Zhen"),
    (0x772, "Mian·Di·Yuan·Die·Yi·Zi·Zi·Chao·Zha·Xuan·Bing·Mi·Long·Sui·Dong·Mi"),
    (0x773, "Die·Yi·Er·Ming·Xuan·Chi·Kuang·Juan·Mou·Zhen·Tiao·Yang·Yan·Mo·Zhong·Mai"),
    (0x774, "Zhao·Zheng·Mei·Jun·Shao·Han·Huan·Di·Cheng·Cuo·Juan·E·Wan·Xian·Xi·Kun"),
    (0x775, "Lai·Jian·Shan·Tian·Hun·Wan·Ling·Shi·Qiong·Lie·Yai·Jing·Zheng·Li·Lai·Sui"),
    (0x776, "Juan·Shui·Sui·Du·Bi·Bi·Mu·Hun·Ni·Lu·Yi·Jie·Cai·Zhou·Yu·Hun"),
    (0x777, "Ma·Xia·Xing·Xi·Gun·Cai·Chun·Jian·Mei·Du·Hou·Xuan·Ti·Kui·Gao·Rui"),
    (0x778, "Mou·Xu·Fa·Wen·Miao·Chou·Kui·Mi·Weng·Kou·Dang·Chen·Ke·Sou·Xia·Qiong"),
    (0x779, "Mao·Ming·Man·Shui·Ze·Zhang·Yi·Diao·Ou·Mo·Shun·Cong·Lou·Chi·Man·Piao"),
    (0x77A, "Cheng·Ji·Meng··Run·Pie·Xi·Qiao·Pu·Zhu·Deng·Shen·Shun·Liao·Che·Xian"),
    (0x77B, "Kan·Ye·Xu·Tong·Mou·Lin·Kui·Xian·Ye·Ai·Hui·Zhan·Jian·Gu·Zhao·Qu"),
    (0x77C, "Wei·Chou·Sao·Ning·Xun·Yao·Huo·Meng·Mian·Bin·Mian·Li·Kuang·Jue·Xuan·Mian"),
    (0x77D, "Huo·Lu·Meng·Long·Guan·Man·Xi·Chu·Tang·Kan·Zhu·Mao·Jin·Lin·Yu·Shuo"),
    (0x77E, "Ce·Jue·Shi·Yi·Shen·Zhi·Hou·Shen·Ying·Ju·Zhou·Jiao·Cuo·Duan·Ai·Jiao"),
    (0x77F, "Zeng·Huo·Bai·Shi·Ding·Qi·Ji·Zi·Gan·Wu·Tuo·Ku·Qiang·Xi·Fan·Kuang"),
    (0x780, "Dang·Ma·Sha·Dan·Jue·Li·Fu·Min·Nuo·Huo·Kang·Zhi·Qi·Kan·Jie·Fen"),
    (0x781, "E·Ya·Pi·Zhe·Yan·Sui·Zhuan·Che·Dun·Pan·Yan··Feng·Fa·Mo·Zha"),
    (0x782, "Qu·Yu·Luo·Tuo·Tuo·Di·Zhai·Zhen·Ai·Fei·Mu·Zhu·Li·Bian·Nu·Ping"),
    (0x783, "Peng·Ling·Pao·Le·Po·Bo·Po·Shen·Za·Nuo·Li·Long·Tong··Li·Aragane"),
    (0x784, "Chu·Keng·Quan·Zhu·Kuang·Huo·E·Nao·Jia·Lu·Wei·Ai·Luo·Ken·Xing·Yan"),
    (0x785, "Tong·Peng·Xi··Hong·Shuo·Xia·Qiao··Wei·Qiao··Keng·Xiao·Que·Chan"),
    (0x786, "Lang·Hong·Yu·Xiao·Xia·Mang·Long·Iong·Che·Che·E·Liu·Ying·Mang·Que·Yan"),
    (0x787, "Sha·Kun·Yu··Kaki·Lu·Chen·Jian·Nue·Song·Zhuo·Keng·Peng·Yan·Zhui·Kong"),
    (0x788, "Ceng·Qi·Zong·Qing·Lin·Jun·Bo·Ding·Min·Diao·Jian·He·Lu·Ai·Sui·Que"),
    (0x789, "Ling·Bei·Yin·Dui·Wu·Qi·Lun·Wan·Dian·Gang·Pei·Qi·Chen·Ruan·Yan·Die"),
    (0x78A, "Ding·Du·Tuo·Jie·Ying·Bian·Ke·Bi·Wei·Shuo·Zhen·Duan·Xia·Dang·Ti·Nao"),
    (0x78B, "Peng·Jian·Di·Tan·Cha·Seki·Qi··Feng·Xuan·Que·Que·Ma·Gong·Nian·Su"),
    (0x78C, "E·Ci·Liu·Si·Tang·Bang·Hua·Pi·Wei·Sang·Lei·Cuo·Zhen·Xia·Qi·Lian"),
    (0x78D, "Pan·Wei·Yun·Dui·Zhe·Ke·La··Qing·Gun·Zhuan·Chan·Qi·Ao·Peng·Lu"),
    (0x78E, "Lu·Kan·Qiang·Chen·Yin·Lei·Biao·Qi·Mo·Qi·Cui·Zong·Qing·Chuo··Ji"),
    (0x78F, "Shan·Lao·Qu·Zeng·Deng·Jian·Xi·Lin·Ding·Dian·Huang·Pan·Za·Qiao·Di·Li"),
    (0x790, "Tani·Jiao··Zhang·Qiao·Dun·Xian·Yu·Zhui·He·Huo·Zhai·Lei·Ke·Chu·Ji"),
    (0x791, "Que·Dang·Yi·Jiang·Pi·Pi·Yu·Pin·Qi·Ai·Kai·Jian·Yu·Ruan·Meng·Pao"),
    (0x792, "Ci·Bo·Yang·Ma·Ca·Xian·Kuang·Lei·Lei·Zhi·Li·Li·Fan·Que·Pao·Ying"),
    (0x793, "Li·Long·Long·Mo·Bo·Shuang·Guan·Lan·Zan·Yan·Shi·Shi·Li·Reng·She·Yue"),
    (0x794, "Si·Qi·Ta·Ma·Xie·Yao·Xian·Zhi·Qi·Zhi·Beng·Dui·Zhong··Yi·Shi"),
    (0x795, "You·Zhi·Tiao·Fu·Fu·Mi·Zu·Zhi·Suan·Mei·Zuo·Qu·Hu·Zhu·Shen·Sui"),
    (0x796, "Ci·Chai·Mi·Lu·Yu·Xiang·Wu·Tiao·Piao·Zhu·Gui·Xia·Zhi·Ji·Gao·Zhen"),
    (0x797, "Gao·Shui·Jin·Chen·Gai·Kun·Di·Dao·Huo·Tao·Qi·Gu·Guan·Zui·Ling·Lu"),
    (0x798, "Bing·Jin·Dao·Zhi·Lu·Shan·Bei·Zhe·Hui·You·Xi·Yin·Zi·Huo·Zhen·Fu"),
    (0x799, "Yuan·Wu·Xian·Yang·Ti·Yi·Mei·Si·Di··Zhuo·Zhen·Yong·Ji·Gao·Tang"),
    (0x79A, "Si·Ma·Ta··Xuan·Qi·Yu·Xi·Ji·Si·Chan·Tan·Kuai·Sui·Li·Nong"),
    (0x79B, "Ni·Dao·Li·Rang·Yue·Ti·Zan·Lei·Rou·Yu·Yu·Chi·Xie·Qin·He·Tu"),
    (0x79C, "Xiu·Si·Ren·Tu·Zi·Cha·Gan·Yi·Xian·Bing·Nian·Qiu·Qiu·Chong·Fen·Hao"),
    (0x79D, "Yun·Ke·Miao·Zhi·Geng·Bi·Zhi·Yu·Mi·Ku·Ban·Pi·Ni·Li·You·Zu"),
    (0x79E, "Pi·Ba·Ling·Mo·Cheng·Nian·Qin·Yang·Zuo·Zhi·Zhi·Shu·Ju·Zi·Huo·Ji"),
    (0x79F, "Cheng·Tong·Zhi·Huo·He·Yin·Zi·Zhi·Jie·Ren·Du·Yi·Zhu·Hui·Nong·Fu"),
    (0x7A0, "Xi·Kao·Lang·Fu·Ze·Shui·Lu·Kun·Gan·Geng·Ti·Cheng·Tu·Shao·Shui·Ya"),
    (0x7A1, "Lun·Lu·Gu·Zuo·Ren·Zhun·Bang·Bai·Ji·Zhi·Zhi·Kun·Leng·Peng·Ke·Bing"),
    (0x7A2, "Chou·Zu·Yu·Su·Lue··Yi·Xi·Bian·Ji·Fu·Bi·Nuo·Jie·Zhong·Zong"),
    (0x7A3, "Xu·Cheng·Dao·Wen·Lian·Zi·Yu·Ji·Xu·Zhen·Zhi·Dao·Jia·Ji·Gao·Gao"),
    (0x7A4, "Gu·Rong·Sui·You·Ji·Kang·Mu·Shan·Men·Zhi·Ji·Lu·Su·Ji·Ying·Wen"),
    (0x7A5, "Qiu·Se··Yi·Huang·Qie·Ji·Sui·Xiao·Pu·Jiao·Zhuo·Tong·Sai·Lu·Sui"),
    (0x7A6, "Nong·Se·Hui·Rang·Nuo·Yu·Bin·Ji·Tui·Wen·Cheng·Huo·Gong·Lu·Biao"),
    (0x7A7, "Rang·Zhuo·Li·Zan·Xue·Wa·Jiu·Qiong·Xi·Qiong·Kong·Yu·Sen·Jing·Yao·Chuan"),
    (0x7A8, "Zhun·Tu·Lao·Qie·Zhai·Yao·Bian·Bao·Yao·Bing·Wa·Zhu·Jiao·Qiao·Diao·Wu"),
    (0x7A9, "Gui·Yao·Zhi·Chuang·Yao·Tiao·Jiao·Chuang·Jiong·Xiao·Cheng·Kou·Cuan·Wo·Dan·Ku"),
    (0x7AA, "Ke·Zhui·Xu·Su·Guan·Kui·Dou··Yin·Wo·Wa·Ya·Yu·Ju·Qiong·Yao"),
    (0x7AB, "Yao·Tiao·Chao·Yu·Tian·Diao·Ju·Liao·Xi·Wu·Kui·Chuang·Zhao·Kuan·Kuan·Long"),
    (0x7AC, "Cheng·Cui·Piao·Zao·Cuan·Qiao·Qiong·Dou·Zao·Long·Qie·Li·Chu·Shi·Fou·Qian"),
    (0x7AD, "Chu·Hong·Qi·Qian·Gong·Shi·Shu·Miao·Ju·Zhan·Zhu·Ling·Long·Bing·Jing·Jing"),
    (0x7AE, "Zhang·Yi·Si·Jun·Hong·Tong·Song·Jing·Diao·Yi·Shu·Jing·Qu·Jie·Ping·Duan"),
    (0x7AF, "Li·Zhuan·Ceng·Deng·Cun·Wai·Jing·Kan·Jing·Zhu·Zhu·Le·Peng·Yu·Chi·Gan"),
    (0x7B0, "Mang·Zhu·Utsubo·Du·Ji·Xiao·Ba·Suan·Ji·Zhen·Zhao·Sun·Ya·Zhui·Yuan·Hu"),
    (0x7B1, "Gang·Xiao·Cen·Pi·Bi·Jian·Yi·Dong·Shan·Sheng·Xia·Di·Zhu·Na·Chi·Gu"),
    (0x7B2, "Li·Qie·Min·Bao·Tiao·Si·Fu·Ce·Ben·Pei·Da·Zi·Di·Ling·Ze·Nu"),
    (0x7B3, "Fu·Gou·Fan·Jia·Ge·Fan·Shi·Mao·Po·Sey·Jian·Qiong·Long·Souke·Bian·Luo"),
    (0x7B4, "Gui·Qu·Chi·Yin·Yao·Xian·Bi·Qiong·Gua·Deng·Jiao·Jin·Quan·Sun·Ru·Fa"),
    (0x7B5, "Kuang·Zhu·Tong·Ji·Da·Xing·Ce·Zhong·Kou·Lai·Bi·Shai·Dang·Zheng·Ce·Fu"),
    (0x7B6, "Yun·Tu·Pa·Li·Lang·Ju·Guan·Jian·Han·Tong·Xia·Zhi·Cheng·Suan·Shi·Zhu"),
    (0x7B7, "Zuo·Xiao·Shao·Ting·Ce·Yan·Gao·Kuai·Gan·Chou·Kago·Gang·Yun·O·Qian·Xiao"),
    (0x7B8, "Jian·Pu·Lai·Zou·Bi·Bi·Bi·Ge·Chi·Guai·Yu·Jian·Zhao·Gu·Chi·Zheng"),
    (0x7B9, "Jing·Sha·Zhou·Lu·Bo·Ji·Lin·Suan·Jun·Fu·Zha·Gu·Kong·Qian·Quan·Jun"),
    (0x7BA, "Chui·Guan·Yuan·Ce·Ju·Bo·Ze·Qie·Tuo·Luo·Dan·Xiao·Ruo·Jian·Xuan·Bian"),
    (0x7BB, "Sun·Xiang·Xian·Ping·Zhen·Sheng·Hu·Shi·Zhu·Yue·Chun·Lu·Wu·Dong·Xiao·Ji"),
    (0x7BC, "Jie·Huang·Xing·Mei·Fan·Chuan·Zhuan·Pian·Feng·Zhu·Hong·Qie·Hou·Qiu·Miao·Qian"),
    (0x7BD, "·Kui·Sik·Lou·Yun·He·Tang·Yue·Chou·Gao·Fei·Ruo·Zheng·Gou·Nie·Qian"),
    (0x7BE, "Xiao·Cuan·Gong·Pang·Du·Li·Bi·Zhuo·Chu·Shai·Chi·Zhu·Qiang·Long·Lan·Jian"),
    (0x7BF, "Bu·Li·Hui·Bi·Di·Cong·Yan·Peng·Sen·Zhuan·Pai·Piao·Dou·Yu·Mie·Zhuan"),
    (0x7C0, "Ze·Xi·Guo·Yi·Hu·Chan·Kou·Cu·Ping·Chou·Ji·Gui·Su·Lou·Zha·Lu"),
    (0x7C1, "Nian·Suo·Cuan·Sasara·Suo·Le·Duan·Yana·Xiao·Bo·Mi·Si·Dang·Liao·Dan·Dian"),
    (0x7C2, "Fu·Jian·Min·Kui·Dai·Qiao·Deng·Huang·Sun·Lao·Zan·Xiao·Du·Shi·Zan"),
    (0x7C3, "Pai·Hata·Pai·Gan·Ju·Du·Lu·Yan·Bo·Dang·Sai·Ke·Long·Qian·Lian·Bo"),
    (0x7C4, "Zhou·Lai··Lan·Kui·Yu·Yue·Hao·Zhen·Tai·Ti·Mi·Chou·Ji··Hata"),
    (0x7C5, "Teng·Zhuan·Zhou·Fan·Sou·Zhou·Kuji·Zhuo·Teng·Lu·Lu·Jian·Tuo·Ying·Yu·Lai"),
    (0x7C6, "Long·Shinshi·Lian·Lan·Qian·Yue·Zhong·Qu·Lian·Bian·Duan·Zuan·Li·Si·Luo·Ying"),
    (0x7C7, "Yue·Zhuo·Xu·Mi·Di·Fan·Shen·Zhe·Shen·Nu·He·Lei·Xian·Zi·Ni·Cun"),
    (0x7C8, "Zhang·Qian·Zhai·Bi·Ban·Wu·Sha·Kang·Rou·Fen·Bi·Cui··Zhe·Mi·Ta"),
    (0x7C9, "Hu·Ba·Li·Gan·Ju·Po·Yu·Cu·Nian·Zhou·Chi·Su·Tiao·Li·Xi·Su"),
    (0x7CA, "Hong·Tong·Zi·Ce·Yue·Zhou·Lin·Zhuang·Bai·Lao·Fen·Er·Qu·He·Liang·Xian"),
    (0x7CB, "Fu·Liang·Can·Jing·Li·Yue·Lu·Ju·Qi·Cui·Bai·Chang·Lin·Zong·Jing·Guo"),
    (0x7CC, "Hua·San·Shen·Tang·Bian·Rou·Mian·Hou·Xu·Zong·Hu·Jian·Zan·Ci·Li·Xie"),
    (0x7CD, "Fu·Ni·Bei·Gu·Xiu·Gao·Tang·Qiu·Jia·Cao·Zhuang·Tang·Mi·San·Fen·Zao"),
    (0x7CE, "Kang·Jiang·Mo·San·San·Nuo·Xi·Liang·Jiang·Kuai·Bo·Huan·Shu·Zong·Xian·Nuo"),
    (0x7CF, "Tuan·Nie·Li·Zuo·Di·Nie·Tiao·Lan·Mi·Jiao·Jiu·Xi·Gong·Zheng·Jiu·You"),
    (0x7D0, "Ji·Cha·Zhou·Xun·Yue·Hong·Yu·He·Wan·Ren·Wen·Wen·Qiu·Na·Zi·Tou"),
    (0x7D1, "Niu·Fou·Jie·Shu·Chun·Pi·Yin·Sha·Hong·Zhi·Ji·Fen·Yun·Ren·Dan·Jin"),
    (0x7D2, "Su·Fang·Suo·Cui·Jiu·Zha·Ha·Jin·Fu·Zhi·Qi·Zi·Chou·Hong·Zha·Lei"),
    (0x7D3, "Xi·Fu·Xie·Shen·Bei·Zhu·Qu·Ling·Zhu·Shao·Gan·Yang·Fu·Tuo·Zhen·Dai"),
    (0x7D4, "Chu·Shi·Zhong·Xian·Zu·Jiong·Ban·Ju·Mo·Shu·Zui·Wata·Jing·Ren·Heng·Xie"),
    (0x7D5, "Jie·Zhu·Chou·Gua·Bai·Jue·Kuang·Hu·Ci·Geng·Geng·Tao·Xie·Ku·Jiao·Quan"),
    (0x7D6, "Gai·Luo·Xuan·Bing·Xian·Fu·Gei·Tong·Rong·Tiao·Yin·Lei·Xie·Quan·Xu·Lun"),
    (0x7D7, "Die·Tong·Si·Jiang·Xiang·Hui·Jue·Zhi·Jian·Juan·Chi·Mian·Zhen·Lu·Cheng·Qiu"),
    (0x7D8, "Shu·Bang·Tong·Xiao·Wan·Qin·Geng·Xiu·Ti·Xiu·Xie·Hong·Xi·Fu·Ting·Sui"),
    (0x7D9, "Dui·Kun·Fu·Jing·Hu·Zhi·Yan·Jiong·Feng·Ji·Sok·Kase·Zong·Lin·Duo·Li"),
    (0x7DA, "Lu·Liang·Chou·Quan·Shao·Qi·Qi·Zhun·Qi·Wan·Qian·Xian·Shou·Wei·Qi·Tao"),
    (0x7DB, "Wan·Gang·Wang·Beng·Zhui·Cai·Guo·Cui·Lun·Liu·Qi·Zhan·Bei·Chuo·Ling·Mian"),
    (0x7DC, "Qi·Qie·Tan·Zong·Gun·Zou·Yi·Zi·Xing·Liang·Jin·Fei·Rui·Min·Yu·Zong"),
    (0x7DD, "Fan·Lu·Xu·Yingl·Zhang·Kasuri·Xu·Xiang·Jian·Ke·Xian·Ruan·Mian·Qi·Duan·Zhong"),
    (0x7DE, "Di·Min·Miao·Yuan·Xie·Bao·Si·Qiu·Bian·Huan·Geng·Cong·Mian·Wei·Fu·Wei"),
    (0x7DF, "Yu·Gou·Miao·Jie·Lian·Zong·Bian·Yun·Yin·Ti·Gua·Zhi·Yun·Cheng·Chan·Dai"),
    (0x7E0, "Xia·Yuan·Zong·Xu·Nawa·Odoshi·Geng·Sen·Ying·Jin·Yi·Zhui·Ni·Bang·Gu·Pan"),
    (0x7E1, "Zhou·Jian·Cuo·Quan·Shuang·Yun·Xia·Shuai·Xi·Rong·Tao·Fu·Yun·Zhen·Gao·Ru"),
    (0x7E2, "Hu·Zai·Teng·Xian·Su·Zhen·Zong·Tao·Horo·Cai·Bi·Feng·Cu·Li·Suo·Yin"),
    (0x7E3, "Xi·Zong·Lei·Zhuan·Qian·Man·Zhi·Lu·Mo·Piao·Lian·Mi·Xuan·Zong·Ji·Shan"),
    (0x7E4, "Sui·Fan·Shuai·Beng·Yi·Sao·Mou·Zhou·Qiang·Hun·Sem·Xi·Jung·Xiu·Ran·Xuan"),
    (0x7E5, "Hui·Qiao·Zeng·Zuo·Zhi·Shan·San·Lin·Yu·Fan·Liao·Chuo·Zun·Jian·Rao·Chan"),
    (0x7E6, "Rui·Xiu·Hui·Hua·Zuan·Xi·Qiang·Un·Da·Sheng·Hui·Xi·Se·Jian·Jiang·Huan"),
    (0x7E7, "Zao·Cong·Jie·Jiao·Bo·Chan·Yi·Nao·Sui·Yi·Shai·Xu·Ji·Bin·Qian·Lan"),
    (0x7E8, "Pu·Xun·Zuan·Qi·Peng·Li·Mo·Lei·Xie·Zuan·Kuang·You·Xu·Lei·Xian·Chan"),
    (0x7E9, "Kou·Lu·Chan·Ying·Cai·Xiang·Xian·Zui·Zuan·Luo·Xi·Dao·Lan·Lei·Lian·Si"),
    (0x7EA, "Jiu·Yu·Hong·Zhou·Xian·He·Yue·Ji·Wan·Kuang·Ji·Ren·Wei·Yun·Hong·Chun"),
    (0x7EB, "Pi·Sha·Gang·Na·Ren·Zong·Lun·Fen·Zhi·Wen·Fang·Zhu·Zhen·Niu·Shu·Xian"),
    (0x7EC, "Gan·Xie·Fu·Lian·Zu·Shen·Xi·Zhi·Zhong·Zhou·Ban·Fu·Zhuo·Shao·Yi·Jing"),
    (0x7ED, "Dai·Bang·Rong·Jie·Ku·Rao·Die·Heng·Hui·Gei·Xuan·Jiang·Luo·Jue·Jiao·Tong"),
    (0x7EE, "Geng·Xiao·Juan·Xiu·Xi·Sui·Tao·Ji·Ti·Ji·Xu·Ling··Xu·Qi·Fei"),
    (0x7EF, "Chuo·Shang·Gun·Sheng·Wei·Mian·Shou·Beng·Chou·Tao·Liu·Quan·Zong·Zhan·Wan·Lu"),
    (0x7F0, "Zhui·Zi·Ke·Xiang·Jian·Mian·Lan·Ti·Miao·Qi·Yun·Hui·Si·Duo·Duan·Bian"),
    (0x7F1, "Xian·Gou·Zhui·Huan·Di·Lu·Bian·Min·Yuan·Jin·Fu·Ru·Zhen·Feng·Shuai·Gao"),
    (0x7F2, "Chan·Li·Yi·Jian·Bin·Piao·Man·Lei·Ying·Suo·Mou·Sao·Xie·Liao·Shan·Zeng"),
    (0x7F3, "Jiang·Qian·Zao·Huan·Jiao·Zuan·Fou·Xie·Gang·Fou·Que·Fou·Que·Bo·Ping·Hou"),
    (0x7F4, "·Gang·Ying·Ying·Qing·Xia·Guan·Zun·Tan·Chang·Qi·Weng·Ying·Lei·Tan·Lu"),
    (0x7F5, "Guan·Wang·Wang·Gang·Wang·Han··Luo·Fu·Mi·Fa·Gu·Zhu·Ju·Mao·Gu"),
    (0x7F6, "Min·Gang·Ba·Gua·Ti·Juan·Fu·Lin·Yan·Zhao·Zui·Gua·Zhuo·Yu·Zhi·An"),
    (0x7F7, "Fa·Nan·Shu·Si·Pi·Ma·Liu·Ba·Fa·Li·Chao·Wei·Bi·Ji·Zeng·Tong"),
    (0x7F8, "Liu·Ji·Juan·Mi·Zhao·Luo·Pi·Ji·Ji·Luan·Yang·Mie·Qiang·Ta·Mei·Yang"),
    (0x7F9, "You·You·Fen·Ba·Gao·Yang·Gu·Qiang·Zang·Gao·Ling·Yi·Zhu·Di·Xiu·Qian"),
    (0x7FA, "Yi·Xian·Rong·Qun·Qun·Qian·Huan·Zui·Xian·Yi·Yashinau·Qiang·Xian·Yu·Geng·Jie"),
    (0x7FB, "Tang·Yuan·Xi·Fan·Shan·Fen·Shan·Lian·Lei·Geng·Nou·Qiang·Chan·Yu·Gong·Yi"),
    (0x7FC, "Chong·Weng·Fen·Hong·Chi·Chi·Cui·Fu·Xia·Pen·Yi·La·Yi·Pi·Ling·Liu"),
    (0x7FD, "Zhi·Qu·Xi·Xie·Xiang·Xi·Xi·Qi·Qiao·Hui·Hui·Xiao·Se·Hong·Jiang·Di"),
    (0x7FE, "Cui·Fei·Tao·Sha·Chi·Zhu·Jian·Xuan·Shi·Pian·Zong·Wan·Hui·Hou·He·He"),
    (0x7FF, "Han·Ao·Piao·Yi·Lian·Qu··Lin·Pen·Qiao·Ao·Fan·Yi·Hui·Xuan·Dao") ]

end Snippet.Spelling
