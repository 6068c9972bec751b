/-! Readings of the ideographs from U+6000 to U+6FFF. -/

set_option autoImplicit false

namespace Snippet.Spelling

def hanFrom6000 : List (Nat × String) :=
  [ (0x600, "Huai·Tai·Song·Wu·Ou·Chang·Chuang·Ju·Yi·Bao·Chao·Min·Pei·Zuo·Zen·Yang"),
    (0x601, "Kou·Ban·Nu·Nao·Zheng·Pa·Bu·Tie·Gu·Hu·Ju·Da·Lian·Si·Chou·Di"),
    (0x602, "Dai·Yi·Tu·You·Fu·Ji·Peng·Xing·Yuan·Ni·Guai·Fu·Xi·Bi·You·Qie"),
    (0x603, "Xuan·Cong·Bing·Huang·Xu·Chu·Pi·Xi·Xi·Tan·Koraeru·Zong·Dui··Ki·Yi"),
    (0x604, "Chi·Ren·Xun·Shi·Xi·Lao·Heng·Kuang·Mu·Zhi·Xie·Lian·Tiao·Huang·Die·Hao"),
    (0x605, "Kong·Gui·Heng·Xi·Xiao·Shu·S·Kua·Qiu·Yang·Hui·Hui·Chi·Jia·Yi·Xiong"),
    (0x606, "Guai·Lin·Hui·Zi·Xu·Chi·Xiang·Nu·Hen·En·Ke·Tong·Tian·Gong·Quan·Xi"),
    (0x607, "Qia·Yue·Peng·Ken·De·Hui·E·Kyuu·Tong·Yan·Kai·Ce·Nao·Yun·Mang·Yong"),
    (0x608, "Yong·Yuan·Pi·Kun·Qiao·Yue·Yu·Yu·Jie·Xi·Zhe·Lin·Ti·Han·Hao·Qie"),
    (0x609, "Ti·Bu·Yi·Qian·Hui·Xi·Bei·Man·Yi·Heng·Song·Quan·Cheng·Hui·Wu·Wu"),
    (0x60A, "You·Li·Liang·Huan·Cong·Yi·Yue·Li·Nin·Nao·E·Que·Xuan·Qian·Wu·Min"),
    (0x60B, "Cong·Fei·Bei·Duo·Cui·Chang·Men·Li·Ji·Guan·Guan·Xing·Dao·Qi·Kong·Tian"),
    (0x60C, "Lun·Xi·Kan·Gun·Ni·Qing·Chou·Dun·Guo·Zhan·Jing·Wan·Yuan·Jin·Ji·Lan"),
    (0x60D, "Yu·Huo·He·Quan·Tan·Ti·Ti·Nie·Wang·Chuo·Bu·Hun·Xi·Tang·Xin·Wei"),
    (0x60E, "Hui·E·Rui·Zong·Jian·Yong·Dian·Ju·Can·Cheng·De·Bei·Qie·Can·Dan·Guan"),
    (0x60F, "Duo·Nao·Yun·Xiang·Zhui·Die·Huang·Chun·Qiong·Re·Xing·Ce·Bian·Hun·Zong·Ti"),
    (0x610, "Qiao·Chou·Bei·Xuan·Wei·Ge·Qian·Wei·Yu·Yu·Bi·Xuan·Huan·Min·Bi·Yi"),
    (0x611, "Mian·Yong·Kai·Dang·Yin·E·Chen·Mou·Ke·Ke·Yu·Ai·Qie·Yan·Nuo·Gan"),
    (0x612, "Yun·Zong·Sai·Leng·Fen··Kui·Kui·Que·Gong·Yun·Su·Su·Qi·Yao·Song"),
    (0x613, "Huang·Ji·Gu·Ju·Chuang·Ni·Xie·Kai·Zheng·Yong·Cao·Sun·Shen·Bo·Kai·Yuan"),
    (0x614, "Xie·Hun·Yong·Yang·Li·Sao·Tao·Yin·Ci·Xu·Qian·Tai·Huang·Yun·Shen·Ming"),
    (0x615, "·She·Cong·Piao·Mo·Mu·Guo·Chi·Can·Can·Can·Cui·Min·Te·Zhang·Tong"),
    (0x616, "Ao·Shuang·Man·Guan·Que·Zao·Jiu·Hui·Kai·Lian·Ou·Song·Jin·Yin·Lu·Shang"),
    (0x617, "Wei·Tuan·Man·Qian·She·Yong·Qing·Kang·Di·Zhi·Lou·Juan·Qi·Qi·Yu·Ping"),
    (0x618, "Liao·Cong·You·Chong·Zhi·Tong·Cheng·Qi·Qu·Peng·Bei·Bie·Chun·Jiao·Zeng·Chi"),
    (0x619, "Lian·Ping·Kui·Hui·Qiao·Cheng·Yin·Yin·Xi·Xi·Dan·Tan·Duo·Dui·Dui·Su"),
    (0x61A, "Jue·Ce·Xiao·Fan·Fen·Lao·Lao·Chong·Han·Qi·Xian·Min·Jing·Liao·Wu·Can"),
    (0x61B, "Jue·Cu·Xian·Tan·Sheng·Pi·Yi·Chu·Xian·Nao·Dan·Tan·Jing·Song·Han·Jiao"),
    (0x61C, "Wai·Huan·Dong·Qin·Qin·Qu·Cao·Ken·Xie·Ying·Ao·Mao·Yi·Lin·Se·Jun"),
    (0x61D, "Huai·Men·Lan·Ai·Lin·Yan·Gua·Xia·Chi·Yu·Yin·Dai·Meng·Ai·Meng·Dui"),
    (0x61E, "Qi·Mo·Lan·Men·Chou·Zhi·Nuo·Nuo·Yan·Yang·Bo·Zhi·Kuang·Kuang·You·Fu"),
    (0x61F, "Liu·Mie·Cheng··Chan·Meng·Lan·Huai·Xuan·Rang·Chan·Ji·Ju·Huan·She·Yi"),
    (0x620, "Lian·Nan·Mi·Tang·Jue·Gang·Gang·Gang·Ge·Yue·Wu·Jian·Xu·Shu·Rong·Xi"),
    (0x621, "Cheng·Wo·Jie·Ge·Jian·Qiang·Huo·Qiang·Zhan·Dong·Qi·Jia·Die·Zei·Jia·Ji"),
    (0x622, "Shi·Kan·Ji·Kui·Gai·Deng·Zhan·Chuang·Ge·Jian·Jie·Yu·Jian·Yan·Lu·Xi"),
    (0x623, "Zhan·Xi·Xi·Chuo·Dai·Qu·Hu·Hu·Hu·E·Shi·Li·Mao·Hu·Li·Fang"),
    (0x624, "Suo·Bian·Dian·Jiong·Shang·Yi·Yi·Shan·Hu·Fei·Yan·Shou·Shou·Cai·Zha·Qiu"),
    (0x625, "Le·Bu·Pa·Da·Reng·Fan·Ru·Zai·Tuo·Zhang·Diao·Kang·Yu·Ku·Han·Shen"),
    (0x626, "Cha·Yi·Gu·Kou·Wu·Tuo·Qian·Zhi·Ren·Kuo·Men·Sao·Yang·Niu·Ban·Che"),
    (0x627, "Rao·Xi·Qian·Ban·Jia·Yu·Fu·Ao·Xi·Pi·Zhi·Zi·E·Dun·Zhao·Cheng"),
    (0x628, "Ji·Yan·Kuang·Bian·Chao·Ju·Wen·Hu·Yue·Jue·Ba·Qin·Zhen·Zheng·Yun·Wan"),
    (0x629, "Nu·Yi·Shu·Zhua·Pou·Tou·Dou·Kang·Zhe·Pou·Fu·Pao·Ba·Ao·Ze·Tuan"),
    (0x62A, "Kou·Lun·Qiang··Hu·Bao·Bing·Zhi·Peng·Tan·Pu·Pi·Tai·Yao·Zhen·Zha"),
    (0x62B, "Yang·Bao·He·Ni·Yi·Di·Chi·Pi·Za·Mo·Mo·Shen·Ya·Chou·Qu·Min"),
    (0x62C, "Chu·Jia·Fu·Zhan·Zhu·Dan·Chai·Mu·Nian·La·Fu·Pao·Ban·Pai·Ling·Na"),
    (0x62D, "Guai·Qian·Ju·Tuo·Ba·Tuo·Tuo·Ao·Ju·Zhuo·Pan·Zhao·Bai·Bai·Di·Ni"),
    (0x62E, "Ju·Kuo·Long·Jian··Yong·Lan·Ning·Bo·Ze·Qian·Hen·Gua·Shi·Jie·Zheng"),
    (0x62F, "Nin·Gong·Gong·Quan·Shuan·Cun·Zan·Kao·Chi·Xie·Ce·Hui·Pin·Zhuai·Shi·Na"),
    (0x630, "Bo·Chi·Gua·Zhi·Kuo·Duo·Duo·Zhi·Qie·An·Nong·Zhen·Ge·Jiao·Ku·Dong"),
    (0x631, "Ru·Tiao·Lie·Zha·Lu·Die·Wa·Jue·Mushiru·Ju·Zhi·Luan·Ya·Zhua·Ta·Xie"),
    (0x632, "Nao·Dang·Jiao·Zheng·Ji·Hui·Xun·Ku·Ai·Tuo·Nuo·Cuo·Bo·Geng·Ti·Zhen"),
    (0x633, "Cheng·Suo·Suo·Keng·Mei·Long·Ju·Peng·Jian·Yi·Ting·Shan·Nuo·Wan·Xie·Cha"),
    (0x634, "Feng·Jiao·Wu·Jun·Jiu·Tong·Kun·Huo·Tu·Zhuo·Pou·Le·Ba·Han·Shao·Nie"),
    (0x635, "Juan·Ze·Song·Ye·Jue·Bu·Huan·Bu·Zun·Yi·Zhai·Lu·Sou·Tuo·Lao·Sun"),
    (0x636, "Bang·Jian·Huan·Dao··Wan·Qin·Peng·She·Lie·Min·Men·Fu·Bai·Ju·Dao"),
    (0x637, "Wo·Ai·Juan·Yue·Zong·Chen·Chui·Jie·Tu·Ben·Na·Nian·Nuo·Zu·Wo·Xi"),
    (0x638, "Xian·Cheng·Dian·Sao·Lun·Qing·Gang·Duo·Shou·Diao·Pou·Di·Zhang·Gun·Ji·Tao"),
    (0x639, "Qia·Qi·Pai·Shu·Qian·Ling·Yi·Ya·Jue·Zheng·Liang·Gua·Yi·Huo·Shan·Zheng"),
    (0x63A, "Lue·Cai·Tan·Che·Bing·Jie·Ti·Kong·Tui·Yan·Cuo·Zou·Ju·Tian·Qian·Ken"),
    (0x63B, "Bai·Shou·Jie·Lu·Guo·Haba··Zhi·Dan·Mang·Xian·Sao·Guan·Peng·Yuan·Nuo"),
    (0x63C, "Jian·Zhen·Jiu·Jian·Yu·Yan·Kui·Nan·Hong·Rou·Pi·Wei·Sai·Zou·Xuan·Miao"),
    (0x63D, "Ti·Nie·Cha·Shi·Zong·Zhen·Yi·Shun·Heng·Bian·Yang·Huan·Yan·Zuan·An·Xu"),
    (0x63E, "Ya·Wo·Ke·Chuai·Ji·Ti·La·La·Cheng·Kai·Jiu·Jiu·Tu·Jie·Hui·Geng"),
    (0x63F, "Chong·Shuo·She·Xie·Yuan·Qian·Ye·Cha·Zha·Bei·Yao···Lan·Wen·Qin"),
    (0x640, "Chan·Ge·Lou·Zong·Geng·Jiao·Gou·Qin·Yong·Que·Chou·Chi·Zhan·Sun·Sun·Bo"),
    (0x641, "Chu·Rong·Beng·Cuo·Sao·Ke·Yao·Dao·Zhi·Nu·Xie·Jian·Sou·Qiu·Gao·Xian"),
    (0x642, "Shuo·Sang·Jin·Mie·E·Chui·Nuo·Shan·Ta·Jie·Tang·Pan·Ban·Da·Li·Tao"),
    (0x643, "Hu·Zhi·Wa·Xia·Qian·Wen·Qiang·Tian·Zhen·E·Xi·Nuo·Quan·Cha·Zha·Ge"),
    (0x644, "Wu·En·She·Kang·She·Shu·Bai·Yao·Bin·Rong·Tan·Sa·Chan·Suo·Liao·Chong"),
    (0x645, "Chuang·Guo·Bing·Feng·Shuai·Di·Qi·Sou·Zhai·Lian·Tang·Chi·Guan·Lu·Luo·Lou"),
    (0x646, "Zong·Gai·Hu·Zha·Chuang·Tang·Hua·Cui·Nai·Mo·Jiang·Gui·Ying·Zhi·Ao·Zhi"),
    (0x647, "Nie·Man·Shan·Kou·Shu·Suo·Tuan·Jiao·Mo·Mo·Zhe·Xian·Keng·Piao·Jiang·Yin"),
    (0x648, "Gou·Qian·Lue·Ji·Ying·Jue·Pie·Pie·Lao·Dun·Xian·Ruan·Kui·Zan·Yi·Xun"),
    (0x649, "Cheng·Cheng·Sa·Nao·Heng·Si·Qian·Huang·Da·Zun·Nian·Lin·Zheng·Hui·Zhuang·Jiao"),
    (0x64A, "Ji·Cao·Dan·Dan·Che·Bo·Che·Jue·Xiao·Liao·Ben·Fu·Qiao·Bo·Cuo·Zhuo"),
    (0x64B, "Zhuan·Tuo·Pu·Qin·Dun·Nian··Xie·Lu·Jiao·Cuan·Ta·Han·Qiao·Zhua·Jian"),
    (0x64C, "Gan·Yong·Lei·Kuo·Lu·Shan·Zhuo·Ze·Pu·Chuo·Ji·Dang·Suo·Cao·Qing·Jing"),
    (0x64D, "Huan·Jie·Qin·Kuai·Dan·Xi·Ge·Pi·Bo·Ao·Ju·Ye··Mang·Sou·Mi"),
    (0x64E, "Ji·Tai·Zhuo·Dao·Xing·Lan·Ca·Ju·Ye·Ru·Ye·Ye·Ni·Hu·Ji·Bin"),
    (0x64F, "Ning·Ge·Zhi·Jie·Kuo·Mo·Jian·Xie·Lie·Tan·Bai·Sou·Lu·Lue·Rao·Zhi"),
    (0x650, "Pan·Yang·Lei·Sa·Shu·Zan·Nian·Xian·Jun·Huo·Li·La·Han·Ying·Lu·Long"),
    (0x651, "Qian·Qian·Zan·Qian·Lan·San·Ying·Mei·Rang·Chan··Cuan·Xi·She·Luo·Jun"),
    (0x652, "Mi·Li·Zan·Luan·Tan·Zuan·Li·Dian·Wa·Dang·Jiao·Jue·Lan·Li·Nang·Zhi"),
    (0x653, "Gui·Gui·Qi·Xin·Pu·Sui·Shou·Kao·You·Gai·Yi·Gong·Gan·Ban·Fang·Zheng"),
    (0x654, "Bo·Dian·Kou·Min·Wu·Gu·He·Ce·Xiao·Mi·Chu·Ge·Di·Xu·Jiao·Min"),
    (0x655, "Chen·Jiu·Zhen·Duo·Yu·Chi·Ao·Bai·Xu·Jiao·Duo·Lian·Nie·Bi·Chang·Dian"),
    (0x656, "Duo·Yi·Gan·San·Ke·Yan·Dun·Qi·Dou·Xiao·Duo·Jiao·Jing·Yang·Xia·Min"),
    (0x657, "Shu·Ai·Qiao·Ai·Zheng·Di·Zhen·Fu·Shu·Liao·Qu·Xiong·Xi·Jiao·Sen·Jiao"),
    (0x658, "Zhuo·Yi·Lian·Bi·Li·Xiao·Xiao·Wen·Xue·Qi·Qi·Zhai·Bin·Jue·Zhai"),
    (0x659, "Fei·Ban·Ban·Lan·Yu·Lan·Wei·Dou·Sheng·Liao·Jia·Hu·Xie·Jia·Yu·Zhen"),
    (0x65A, "Jiao·Wo·Tou·Chu·Jin·Chi·Yin·Fu·Qiang·Zhan·Qu·Zhuo·Zhan·Duan·Zhuo·Si"),
    (0x65B, "Xin·Zhuo·Zhuo·Qin·Lin·Zhuo·Chu·Duan·Zhu·Fang·Xie·Hang·Yu·Shi·Pei·You"),
    (0x65C, "Mye·Pang·Qi·Zhan·Mao·Lu·Pei·Pi·Liu·Fu·Fang·Xuan·Jing·Jing·Ni·Zu"),
    (0x65D, "Zhao·Yi·Liu·Shao·Jian·Es·Yi·Qi·Zhi·Fan·Piao·Fan·Zhan·Guai·Sui·Yu"),
    (0x65E, "Wu·Ji·Ji·Ji·Huo·Ri·Dan·Jiu·Zhi·Zao·Xie·Tiao·Xun·Xu·Xu·Xu"),
    (0x65F, "Gan·Han·Tai·Di·Xu·Chan·Shi·Kuang·Yang·Shi·Wang·Min·Min·Tun·Chun·Wu"),
    (0x660, "Yun·Bei·Ang·Ze·Ban·Jie·Kun·Sheng·Hu·Fang·Hao·Gui·Chang·Xuan·Ming·Hun"),
    (0x661, "Fen·Qin·Hu·Yi·Xi·Xin·Yan·Ze·Fang·Tan·Shen·Ju·Yang·Zan·Bing·Xing"),
    (0x662, "Ying·Xuan·Pei·Zhen·Ling·Chun·Hao·Mei·Zuo·Mo·Bian·Xu·Hun·Zhao·Zong·Shi"),
    (0x663, "Shi·Yu·Fei·Die·Mao·Ni·Chang·Wen·Dong·Ai·Bing·Ang·Zhou·Long·Xian·Kuang"),
    (0x664, "Tiao·Chao·Shi·Huang·Huang·Xuan·Kui·Xu·Jiao·Jin·Zhi·Jin·Shang·Tong·Hong·Yan"),
    (0x665, "Gai·Xiang·Shai·Xiao·Ye·Yun·Hui·Han·Han·Jun·Wan·Xian·Kun·Zhou·Xi·Cheng"),
    (0x666, "Sheng·Bu·Zhe·Zhe·Wu·Han·Hui·Hao·Chen·Wan·Tian·Zhuo·Zui·Zhou·Pu·Jing"),
    (0x667, "Xi·Shan·Yi·Xi·Qing·Qi·Jing·Gui·Zhen·Yi·Zhi·An·Wan·Lin·Liang·Chang"),
    (0x668, "Wang·Xiao·Zan·Hi·Xuan·Xuan·Yi·Xia·Yun·Hui·Fu·Min·Kui·He·Ying·Du"),
    (0x669, "Wei·Shu·Qing·Mao·Nan·Jian·Nuan·An·Yang·Chun·Yao·Suo·Jin·Ming·Jiao·Kai"),
    (0x66A, "Gao·Weng·Chang·Qi·Hao·Yan·Li·Ai·Ji·Gui·Men·Zan·Xie·Hao·Mu·Mo"),
    (0x66B, "Cong·Ni·Zhang·Hui·Bao·Han·Xuan·Chuan·Liao·Xian·Dan·Jing·Pie·Lin·Tun·Xi"),
    (0x66C, "Yi·Ji·Huang·Tai·Ye·Ye·Li·Tan·Tong·Xiao·Fei·Qin·Zhao·Hao·Yi·Xiang"),
    (0x66D, "Xing·Sen·Jiao·Bao·Jing·Yian·Ai·Ye·Ru·Shu·Meng·Xun·Yao·Pu·Li·Chen"),
    (0x66E, "Kuang·Die··Yan·Huo·Lu·Xi·Rong·Long·Nang·Luo·Luan·Shai·Tang·Yan·Chu"),
    (0x66F, "Yue·Yue·Qu·Yi·Geng·Ye·Hu·He·Shu·Cao·Cao·Noboru·Man·Ceng·Ceng·Ti"),
    (0x670, "Zui·Can·Xu·Hui·Yin·Qie·Fen·Pi·Yue·You·Ruan·Peng·Ban·Fu·Ling·Fei"),
    (0x671, "Qu··Nu·Tiao·Shuo·Zhen·Lang·Lang·Juan·Ming·Huang·Wang·Tun·Zhao·Ji·Qi"),
    (0x672, "Ying·Zong·Wang·Tong·Lang··Meng·Long·Mu·Deng·Wei·Mo·Ben·Zha·Zhu·Zhu"),
    (0x673, "·Zhu·Ren·Ba·Po·Duo·Duo·Dao·Li·Qiu·Ji·Jiu·Bi·Xiu·Ting·Ci"),
    (0x674, "Sha·Eburi·Za·Quan·Qian·Yu·Gan·Wu·Cha·Shan·Xun·Fan·Wu·Zi·Li·Xing"),
    (0x675, "Cai·Cun·Ren·Shao·Tuo·Di·Zhang·Mang·Chi·Yi·Gu·Gong·Du·Yi·Qi·Shu"),
    (0x676, "Gang·Tiao·Moku·Soma·Tochi·Lai·Sugi·Mang·Yang·Ma·Miao·Si·Yuan·Hang·Fei·Bei"),
    (0x677, "Jie·Dong·Gao·Yao·Xian·Chu·Qun·Pa·Shu·Hua·Xin·Chou·Zhu·Chou·Song·Ban"),
    (0x678, "Song·Ji·Yue·Jin·Gou·Ji·Mao·Pi·Bi·Wang·Ang·Fang·Fen·Yi·Fu·Nan"),
    (0x679, "Xi·Hu·Ya·Dou·Xun·Zhen·Yao·Lin·Rui·E·Mei·Zhao·Guo·Zhi·Cong·Yun"),
    (0x67A, "Waku·Dou·Shu·Zao··Li·Haze·Jian·Cheng·Matsu·Qiang·Feng·Nan·Xiao·Xian·Ku"),
    (0x67B, "Ping·Yi·Xi·Zhi·Guai·Xiao·Jia·Jia·Gou·Fu·Mo·Yi·Ye·Ye·Shi·Nie"),
    (0x67C, "Bi·Duo·Yi·Ling·Bing·Ni·La·He·Pan·Fan·Zhong·Dai·Ci·Yang·Fu·Bo"),
    (0x67D, "Mou·Gan·Qi·Ran·Rou·Mao·Zhao·Song·Zhe·Xia·You·Shen·Ju·Tuo·Zuo·Nan"),
    (0x67E, "Ning·Yong·Di·Zhi·Zha·Cha·Dan·Gu·Pu·Jiu·Ao·Fu·Jian·Bo·Duo·Ke"),
    (0x67F, "Nai·Zhu·Bi·Liu·Chai·Zha·Si·Zhu·Pei·Shi·Guai·Cha·Yao·Jue·Jiu·Shi"),
    (0x680, "Zhi·Liu·Mei·Hoy·Rong·Zha··Biao·Zhan·Jie·Long·Dong·Lu·Sayng·Li·Lan"),
    (0x681, "Yong·Shu·Xun·Shuan·Qi·Zhen·Qi·Li·Yi·Xiang·Zhen·Li·Su·Gua·Kan·Bing"),
    (0x682, "Ren·Xiao·Bo·Ren·Bing·Zi·Chou·Yi·Jie·Xu·Zhu·Jian·Zui·Er·Er·You"),
    (0x683, "Fa·Gong·Kao·Lao·Zhan·Li·Yin·Yang·He·Gen·Zhi·Chi·Ge·Zai·Luan·Fu"),
    (0x684, "Jie·Hang·Gui·Tao·Guang·Wei·Kuang·Ru·An·An·Juan·Yi·Zhuo·Ku·Zhi·Qiong"),
    (0x685, "Tong·Sang·Sang·Huan·Jie·Jiu·Xue·Duo·Zhui·Yu·Zan·Kasei·Ying·Masu··Zhan"),
    (0x686, "Ya·Nao·Zhen·Dang·Qi·Qiao·Hua·Kuai·Jiang·Zhuang·Xun·Suo·Sha·Zhen·Bei·Ting"),
    (0x687, "Gua·Jing·Bo·Ben·Fu·Rui·Tong·Jue·Xi·Lang·Liu·Feng·Qi·Wen·Jun·Gan"),
    (0x688, "Cu·Liang·Qiu·Ting·You·Mei·Bang·Long·Peng·Zhuang·Di·Xuan·Tu·Zao·Ao·Gu"),
    (0x689, "Bi·Di·Han·Zi·Zhi·Ren·Bei·Geng·Jian·Huan·Wan·Nuo·Jia·Tiao·Ji·Xiao"),
    (0x68A, "Lu·Huan·Shao·Cen·Fen·Song·Meng·Wu·Li·Li·Dou·Cen·Ying·Suo·Ju·Ti"),
    (0x68B, "Jie·Kun·Zhuo·Shu·Chan·Fan·Wei·Jing·Li·Bing·Fumoto·Shikimi·Tao·Zhi·Lai·Lian"),
    (0x68C, "Jian·Zhuo·Ling·Li·Qi·Bing·Zhun·Cong·Qian·Mian·Qi·Qi·Cai·Gun·Chan·Te"),
    (0x68D, "Fei·Pai·Bang·Pou·Hun·Zong·Cheng·Zao·Ji·Li·Peng·Yu·Yu·Gu·Hun·Dong"),
    (0x68E, "Tang·Gang·Wang·Di·Xi·Fan·Cheng·Zhan·Qi·Yuan·Yan·Yu·Quan·Yi·Sen·Ren"),
    (0x68F, "Chui·Leng·Qi·Zhuo·Fu·Ke·Lai·Zou·Zou·Zhuo·Guan·Fen·Fen·Chen·Qiong·Nie"),
    (0x690, "Wan·Guo·Lu·Hao·Jie·Yi·Chou·Ju·Ju·Cheng·Zuo·Liang·Qiang·Zhi·Zhui·Ya"),
    (0x691, "Ju·Bei·Jiao·Zhuo·Zi·Bin·Peng·Ding·Chu·Chang·Kunugi·Momiji·Jian·Gui·Xi·Du"),
    (0x692, "Qian·Kunugi·Soko·Shide·Luo·Zhi·Ken·Myeng·Tafu··Peng·Zhan··Tuo·Sen·Duo"),
    (0x693, "Ye·Fou·Wei·Wei·Duan·Jia·Zong·Jian·Yi·Shen·Xi·Yan·Yan·Chuan·Zhan·Chun"),
    (0x694, "Yu·He·Zha·Wo·Pian·Bi·Yao·Huo·Xu·Ruo·Yang·La·Yan·Ben·Hun·Kui"),
    (0x695, "Jie·Kui·Si·Feng·Xie·Tuo·Zhi·Jian·Mu·Mao·Chu·Hu·Hu·Lian·Leng·Ting"),
    (0x696, "Nan·Yu·You·Mei·Song·Xuan·Xuan·Ying·Zhen·Pian·Ye·Ji·Jie·Ye·Chu·Shun"),
    (0x697, "Yu·Cou·Wei·Mei·Di·Ji·Jie·Kai·Qiu·Ying·Rou·Heng·Lou·Le·Hazou·Katsura"),
    (0x698, "Pin·Muro·Gai·Tan·Lan·Yun·Yu·Chen·Lu·Ju·Sakaki··Pi·Xie·Jia·Yi"),
    (0x699, "Zhan·Fu·Nai·Mi·Lang·Rong·Gu·Jian·Ju·Ta·Yao·Zhen·Bang·Sha·Yuan·Zi"),
    (0x69A, "Ming·Su·Jia·Yao·Jie·Huang·Gan·Fei·Zha·Qian·Ma·Sun·Yuan·Xie·Rong·Shi"),
    (0x69B, "Zhi·Cui·Yun·Ting·Liu·Rong·Tang·Que·Zhai·Si·Sheng·Ta·Ke·Xi·Gu·Qi"),
    (0x69C, "Kao·Gao·Sun·Pan·Tao·Ge·Xun·Dian·Nou·Ji·Shuo·Gou·Chui·Qiang·Cha·Qian"),
    (0x69D, "Huai·Mei·Xu·Gang·Gao·Zhuo·Tuo·Hashi·Yang·Dian·Jia·Jian·Zui·Kashi·Ori·Bin"),
    (0x69E, "Zhu··Xi·Qi·Lian·Hui·Yong·Qian·Guo·Gai·Gai·Tuan·Hua·Cu·Sen·Cui"),
    (0x69F, "Beng·You·Hu·Jiang·Hu·Huan·Kui·Yi·Nie·Gao·Kang·Gui·Gui·Cao·Man·Jin"),
    (0x6A0, "Di·Zhuang·Le·Lang·Chen·Cong·Li·Xiu·Qing·Shuang·Fan·Tong·Guan·Ji·Suo·Lei"),
    (0x6A1, "Lu·Liang·Mi·Lou·Chao·Su·Ke·Shu·Tang·Biao·Lu·Jiu·Shu·Zha·Shu·Zhang"),
    (0x6A2, "Men·Mo·Niao·Yang·Tiao·Peng·Zhu·Sha·Xi·Quan·Heng·Jian·Cong··Hokuso·Qiang"),
    (0x6A3, "Tara·Ying·Er·Xin·Zhi·Qiao·Zui·Cong·Pu·Shu·Hua·Kui·Zhen·Zun·Yue·Zhan"),
    (0x6A4, "Xi·Xun·Dian·Fa·Gan·Mo·Wu·Qiao·Nao·Lin·Liu·Qiao·Xian·Run·Fan·Zhan"),
    (0x6A5, "Tuo·Lao·Yun·Shun·Tui·Cheng·Tang·Meng·Ju·Cheng·Su·Jue·Jue·Tan·Hui·Ji"),
    (0x6A6, "Nuo·Xiang·Tuo·Ning·Rui·Zhu·Chuang·Zeng·Fen·Qiong·Ran·Heng·Cen·Gu·Liu·Lao"),
    (0x6A7, "Gao·Chu·Zusa·Nude·Ca·San·Ji·Dou·Shou·Lu···Yuan·Ta·Shu·Jiang"),
    (0x6A8, "Tan·Lin·Nong·Yin·Xi·Sui·Shan·Zui·Xuan·Cheng·Gan·Ju·Zui·Yi·Qin·Pu"),
    (0x6A9, "Yan·Lei·Feng·Hui·Dang·Ji·Sui·Bo·Bi·Ding·Chu·Zhua·Kuai·Ji·Jie·Jia"),
    (0x6AA, "Qing·Zhe·Jian·Qiang·Dao·Yi·Biao·Song·She·Lin·Kunugi·Cha·Meng·Yin·Tao·Tai"),
    (0x6AB, "Mian·Qi·Toan·Bin·Huo·Ji·Qian·Mi·Ning·Yi·Gao·Jian·Yin·Er·Qing·Yan"),
    (0x6AC, "Qi·Mi·Zhao·Gui·Chun·Ji·Kui·Po·Deng·Chu··Mian·You·Zhi·Guang·Qian"),
    (0x6AD, "Lei·Lei·Sa·Lu·Li·Cuan·Lu·Mie·Hui·Ou·Lu·Jie·Gao·Du·Yuan·Li"),
    (0x6AE, "Fei·Zhuo·Sou·Lian·Tamo·Chu··Zhu·Lu·Yan·Li·Zhu·Chen·Jie·E·Su"),
    (0x6AF, "Huai·Nie·Yu·Long·Lai··Xian·Kwi·Ju·Xiao·Ling·Ying·Jian·Yin·You·Ying"),
    (0x6B0, "Xiang·Nong·Bo·Chan·Lan·Ju·Shuang·She·Wei·Cong·Quan·Qu·Cang··Yu·Luo"),
    (0x6B1, "Li·Zan·Luan·Dang·Jue·Em·Lan·Lan·Zhu·Lei·Li·Ba·Nang·Yu·Ling·Tsuki"),
    (0x6B2, "Qian·Ci·Huan·Xin·Yu·Yu·Qian·Ou·Xu·Chao·Chu·Chi·Kai·Yi·Jue·Xi"),
    (0x6B3, "Xu·Xia·Yu·Kuai·Lang·Kuan·Shuo·Xi·Ai·Yi·Qi·Hu·Chi·Qin·Kuan·Kan"),
    (0x6B4, "Kuan·Kan·Chuan·Sha·Gua·Yin·Xin·Xie·Yu·Qian·Xiao·Yi·Ge·Wu·Tan·Jin"),
    (0x6B5, "Ou·Hu·Ti·Huan·Xu·Pen·Xi·Xiao·Xu·Xi·Sen·Lian·Chu·Yi·Kan·Yu"),
    (0x6B6, "Chuo·Huan·Zhi·Zheng·Ci·Bu·Wu·Qi·Bu·Bu·Wai·Ju·Qian·Chi·Se·Chi"),
    (0x6B7, "Se·Zhong·Sui·Sui·Li·Cuo·Yu·Li·Gui·Dai·Dai·Si·Jian·Zhe·Mo·Mo"),
    (0x6B8, "Yao·Mo·Cu·Yang·Tian·Sheng·Dai·Shang·Xu·Xun·Shu·Can·Jue·Piao·Qia·Qiu"),
    (0x6B9, "Su·Qing·Yun·Lian·Yi·Fou·Zhi·Ye·Can·Hun·Dan·Ji·Ye·Zhen·Yun·Wen"),
    (0x6BA, "Chou·Bin·Ti·Jin·Shang·Yin·Diao·Cu·Hui·Cuan·Yi·Dan·Du·Jiang·Lian·Bin"),
    (0x6BB, "Du·Tsukusu·Jian·Shu·Ou·Duan·Zhu·Yin·Qing·Yi·Sha·Que·Ke·Yao·Jun·Dian"),
    (0x6BC, "Hui·Hui·Gu·Que·Ji·Yi·Ou·Hui·Duan·Yi·Xiao·Wu·Guan·Mu·Mei·Mei"),
    (0x6BD, "Ai·Zuo·Du·Yu·Bi·Bi·Bi·Pi·Pi·Bi·Chan·Mao···Pu·Mushiru"),
    (0x6BE, "Jia·Zhan·Sai·Mu·Tuo·Xun·Er·Rong·Xian·Ju·Mu·Hao·Qiu·Dou·Mushiru·Tan"),
    (0x6BF, "Pei·Ju·Duo·Cui·Bi·San··Mao·Sui·Yu·Yu·Tuo·He·Jian·Ta·San"),
    (0x6C0, "Lu·Mu·Li·Tong·Rong·Chang·Pu·Luo·Zhan·Sao·Zhan·Meng·Lu·Qu·Die·Shi"),
    (0x6C1, "Di·Min·Jue·Mang·Qi·Pie·Nai·Qi·Dao·Xian·Chuan·Fen·Ri·Nei··Fu"),
    (0x6C2, "Shen·Dong·Qing·Qi·Yin·Xi·Hai·Yang·An·Ya·Ke·Qing·Ya·Dong·Dan·Lu"),
    (0x6C3, "Qing·Yang·Yun·Yun·Shui·San·Zheng·Bing·Yong·Dang·Shitamizu·Le·Ni·Tun·Fan·Gui"),
    (0x6C4, "Ting·Zhi·Qiu·Bin·Ze·Mian·Cuan·Hui·Diao·Yi·Cha·Zhuo·Chuan·Wan·Fan·Dai"),
    (0x6C5, "Xi·Tuo·Mang·Qiu·Qi·Shan·Pai·Han·Qian·Wu·Wu·Xun·Si·Ru·Gong·Jiang"),
    (0x6C6, "Chi·Wu·Tsuchi··Tang·Zhi·Chi·Qian·Mi·Yu·Wang·Qing·Jing·Rui·Jun·Hong"),
    (0x6C7, "Tai·Quan·Ji·Bian·Bian·Gan·Wen·Zhong·Fang·Xiong·Jue·Hang·Niou·Qi·Fen·Xu"),
    (0x6C8, "Xu·Qin·Yi·Wo·Yun·Yuan·Hang·Yan·Chen·Chen·Dan·You·Dun·Hu·Huo·Qie"),
    (0x6C9, "Mu·Rou·Mei·Ta·Mian·Wu·Chong·Tian·Bi·Sha·Zhi·Pei·Pan·Zhui·Za·Gou"),
    (0x6CA, "Liu·Mei·Ze·Feng·Ou·Li·Lun·Cang·Feng·Wei·Hu·Mo·Mei·Shu·Ju·Zan"),
    (0x6CB, "Tuo·Tuo·Tuo·He·Li·Mi·Yi·Fa·Fei·You·Tian·Zhi·Zhao·Gu·Zhan·Yan"),
    (0x6CC, "Si·Kuang·Jiong·Ju·Xie·Qiu·Yi·Jia·Zhong·Quan·Bo·Hui·Mi·Ben·Zhuo·Chu"),
    (0x6CD, "Le·You·Gu·Hong·Gan·Fa·Mao·Si·Hu·Ping·Ci·Fan·Chi·Su·Ning·Cheng"),
    (0x6CE, "Ling·Pao·Bo·Qi·Si·Ni·Ju·Yue·Zhu·Sheng·Lei·Xuan·Xue·Fu·Pan·Min"),
    (0x6CF, "Tai·Yang·Ji·Yong·Guan·Beng·Xue·Long·Lu··Bo·Xie·Po·Ze·Jing·Yin"),
    (0x6D0, "Zhou·Ji·Yi·Hui·Hui·Zui·Cheng·Yin·Wei·Hou·Jian·Yang·Lie·Si·Ji·Er"),
    (0x6D1, "Xing·Fu·Sa·Suo·Zhi·Yin·Wu·Xi·Kao·Zhu·Jiang·Luo··An·Dong·Yi"),
    (0x6D2, "Mou·Lei·Yi·Mi·Quan·Jin·Mo·Wei·Xiao·Xie·Hong·Xu·Shuo·Kuang·Tao·Qie"),
    (0x6D3, "Ju·Er·Zhou·Ru·Ping·Xun·Xiong·Zhi·Guang·Huan·Ming·Huo·Wa·Qia·Pai·Wu"),
    (0x6D4, "Qu·Liu·Yi·Jia·Jing·Qian·Jiang·Jiao·Cheng·Shi·Zhuo·Ce·Pal·Kuai·Ji·Liu"),
    (0x6D5, "Chan·Hun·Hu·Nong·Xun·Jin·Lie·Qiu·Wei·Zhe·Jun·Han·Bang·Mang·Zhuo·You"),
    (0x6D6, "Xi·Bo·Dou·Wan·Hong·Yi·Pu·Ying·Lan·Hao·Lang·Han·Li·Geng·Fu·Wu"),
    (0x6D7, "Lian·Chun·Feng·Yi·Yu·Tong·Lao·Hai·Jin·Jia·Chong·Weng·Mei·Sui·Cheng·Pei"),
    (0x6D8, "Xian·Shen·Tu·Kun·Pin·Nie·Han·Jing·Xiao·She·Nian·Tu·Yong·Xiao·Xian·Ting"),
    (0x6D9, "E·Su·Tun·Juan·Cen·Ti·Li·Shui·Si·Lei·Shui·Tao·Du·Lao·Lai·Lian"),
    (0x6DA, "Wei·Wo·Yun·Huan·Di··Run·Jian·Zhang·Se·Fu·Guan·Xing·Shou·Shuan·Ya"),
    (0x6DB, "Chuo·Zhang·Ye·Kong·Wo·Han·Tuo·Dong·He·Wo·Ju·Gan·Liang·Hun·Ta·Zhuo"),
    (0x6DC, "Dian·Qie·De·Juan·Zi·Xi·Yao·Qi·Gu·Guo·Han·Lin·Tang·Zhou·Peng·Hao"),
    (0x6DD, "Chang·Shu·Qi·Fang·Chi·Lu·Nao·Ju·Tao·Cong·Lei·Zhi·Peng·Fei·Song·Tian"),
    (0x6DE, "Pi·Dan·Yu·Ni·Yu·Lu·Gan·Mi·Jing·Ling·Lun·Yin·Cui·Qu·Huai·Yu"),
    (0x6DF, "Nian·Shen·Piao·Chun·Wa·Yuan·Lai·Hun·Qing·Yan·Qian·Tian·Miao·Zhi·Yin·Mi"),
    (0x6E0, "Ben·Yuan·Wen·Re·Fei·Qing·Yuan·Ke·Ji·She·Yuan·Shibui·Lu·Zi·Du"),
    (0x6E1, "Jian·Min·Pi·Tani·Yu·Yuan·Shen·Shen·Rou·Huan·Zhu·Jian·Nuan·Yu·Qiu·Ting"),
    (0x6E2, "Qu·Du·Feng·Zha·Bo·Wo·Wo·Di·Wei·Wen·Ru·Xie·Ce·Wei·Ge·Gang"),
    (0x6E3, "Yan·Hong·Xuan·Mi·Ke·Mao·Ying·Yan·You·Hong·Miao·Xing·Mei·Zai·Hun·Nai"),
    (0x6E4, "Kui·Shi·E·Pai·Mei·Lian·Qi·Qi·Mei·Tian·Cou·Wei·Can·Tuan·Mian·Hui"),
    (0x6E5, "Mo·Xu·Ji·Pen·Jian·Jian·Hu·Feng·Xiang·Yi·Yin·Zhan·Shi·Jie·Cheng·Huang"),
    (0x6E6, "Tan·Yu·Bi·Min·Shi·Tu·Sheng·Yong·Qu·Zhong·Suei·Jiu·Jiao·Qiou·Yin·Tang"),
    (0x6E7, "Long·Huo·Yuan·Nan·Ban·You·Quan·Chui·Liang·Chan·Yan·Chun·Nie·Zi·Wan·Shi"),
    (0x6E8, "Man·Ying·La·Kui··Jian·Xu·Lu·Gui·Gai···Po·Jin·Gui·Tang"),
    (0x6E9, "Yuan·Suo·Yuan·Lian·Yao·Meng·Zhun·Sheng·Ke·Tai·Da·Wa·Liu·Gou·Sao·Ming"),
    (0x6EA, "Zha·Shi·Yi·Lun·Ma·Pu·Wei·Li·Cai·Wu·Xi·Wen·Qiang·Ce·Shi·Su"),
    (0x6EB, "Yi·Zhen·Sou·Yun·Xiu·Yin·Rong·Hun·Su·Su·Ni·Ta·Shi·Ru·Wei·Pan"),
    (0x6EC, "Chu·Chu·Pang·Weng·Cang·Mie·He·Dian·Hao·Huang·Xi·Zi·Di·Zhi·Ying·Fu"),
    (0x6ED, "Jie·Hua·Ge·Zi·Tao·Teng·Sui·Bi·Jiao·Hui·Gun·Yin·Gao·Long·Zhi·Yan"),
    (0x6EE, "She·Man·Ying·Chun·Lu·Lan·Luan··Bin·Tan·Yu·Sou·Hu·Bi·Biao·Zhi"),
    (0x6EF, "Jiang·Kou·Shen·Shang·Di·Mi·Ao·Lu·Hu·Hu·You·Chan·Fan·Yong·Gun·Man"),
    (0x6F0, "Qing·Yu·Piao·Ji·Ya·Jiao·Qi·Xi·Ji·Lu·Lu·Long·Jin·Guo·Cong·Lou"),
    (0x6F1, "Zhi·Gai·Qiang·Li·Yan·Cao·Jiao·Cong·Qun·Tuan·Ou·Teng·Ye·Xi·Mi·Tang"),
    (0x6F2, "Mo·Shang·Han·Lian·Lan·Wa·Li·Qian·Feng·Xuan·Yi·Man·Zi·Mang·Kang·Lei"),
    (0x6F3, "Peng·Shu·Zhang·Zhang·Chong·Xu·Huan·Kuo·Jian·Yan·Chuang·Liao·Cui·Ti·Yang·Jiang"),
    (0x6F4, "Cong·Ying·Hong·Xun·Shu·Guan·Ying·Xiao···Xu·Lian·Zhi·Wei·Pi·Jue"),
    (0x6F5, "Jiao·Po·Dang·Hui·Jie·Wu·Pa·Ji·Pan·Gui·Xiao·Qian·Qian·Xi·Lu·Xi"),
    (0x6F6, "Xuan·Dun·Huang·Min·Run·Su·Liao·Zhen·Zhong·Yi·Di·Wan·Dan·Tan·Chao·Xun"),
    (0x6F7, "Kui·Yie·Shao·Tu·Zhu·San·Hei·Bi·Shan·Chan·Chan·Shu·Tong·Pu·Lin·Wei"),
    (0x6F8, "Se·Se·Cheng·Jiong·Cheng·Hua·Jiao·Lao·Che·Gan·Cun·Heng·Si·Shu·Peng·Han"),
    (0x6F9, "Yun·Liu·Hong·Fu·Hao·He·Xian·Jian·Shan·Xi·Oki··Lan··Yu·Lin"),
    (0x6FA, "Min·Zao·Dang·Wan·Ze·Xie·Yu·Li·Shi·Xue·Ling·Man·Zi·Yong·Kuai·Can"),
    (0x6FB, "Lian·Dian·Ye·Ao·Huan·Zhen·Chan·Man·Dan·Dan·Yi·Sui·Pi·Ju·Ta·Qin"),
    (0x6FC, "Ji·Zhuo·Lian·Nong·Guo·Jin·Fen·Se·Ji·Sui·Hui·Chu·Ta·Song·Ding·Se"),
    (0x6FD, "Zhu·Lai·Bin·Lian·Mi·Shi·Shu·Mi·Ning·Ying·Ying·Meng·Jin·Qi·Pi·Ji"),
    (0x6FE, "Hao·Ru·Zui·Wo·Tao·Yin·Yin·Dui·Ci·Huo·Jing·Lan·Jun·Ai·Pu·Zhuo"),
    (0x6FF, "Wei·Bin·Gu·Qian·Xing·Hama·Kuo·Fei··Boku·Jian·Wei·Luo·Zan·Lu·Li") ]

end Snippet.Spelling
