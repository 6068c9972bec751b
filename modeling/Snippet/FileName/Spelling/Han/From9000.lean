/-! Readings of the ideographs from U+9000 to U+9FA5. -/

set_option autoImplicit false

namespace Snippet.Spelling

def hanFrom9000 : List (Nat × String) :=
  [ (0x900, "Tui·Song·Gua·Tao·Pang·Hou·Ni·Dun·Jiong·Xuan·Xun·Bu·You·Xiao·Qiu·Tou"),
    (0x901, "Zhu·Qiu·Di·Di·Tu·Jing·Ti·Dou·Yi·Zhe·Tong·Guang·Wu·Shi·Cheng·Su"),
    (0x902, "Zao·Qun·Feng·Lian·Suo·Hui·Li·Sako·Lai·Ben·Cuo·Jue·Beng·Huan·Dai·Lu"),
    (0x903, "You·Zhou·Jin·Yu·Chuo·Kui·Wei·Ti·Yi·Da·Yuan·Luo·Bi·Nuo·Yu·Dang"),
    (0x904, "Sui·Dun·Sui·Yan·Chuan·Chi·Ti·Yu·Shi·Zhen·You·Yun·E·Bian·Guo·E"),
    (0x905, "Xia·Huang·Qiu·Dao·Da·Wei·Appare·Yi·Gou·Yao·Chu·Liu·Xun·Ta·Di·Chi"),
    (0x906, "Yuan·Su·Ta·Qian··Yao·Guan·Zhang·Ao·Shi·Ce·Chi·Su·Zao·Zhe·Dun"),
    (0x907, "Di·Lou·Chi·Cuo·Lin·Zun·Rao·Qian·Xuan·Yu·Yi·Wu·Liao·Ju·Shi·Bi"),
    (0x908, "Yao·Mai·Xie·Sui·Huan·Zhan·Teng·Er·Miao·Bian·Bian·La·Li·Yuan·Yao·Luo"),
    (0x909, "Li·Yi·Ting·Deng·Qi·Yong·Shan·Han·Yu·Mang·Ru·Qiong··Kuang·Fu·Kang"),
    (0x90A, "Bin·Fang·Xing·Na·Xin·Shen·Bang·Yuan·Cun·Huo·Xie·Bang·Wu·Ju·You·Han"),
    (0x90B, "Tai·Qiu·Bi·Pei·Bing·Shao·Bei·Wa·Di·Zou·Ye·Lin·Kuang·Gui·Zhu·Shi"),
    (0x90C, "Ku·Yu·Gai·Ge·Xi·Zhi·Ji·Xun·Hou·Xing·Jiao·Xi·Gui·Nuo·Lang·Jia"),
    (0x90D, "Kuai·Zheng·Otoko·Yun·Yan·Cheng·Dou·Chi·Lu·Fu·Wu·Fu·Gao·Hao·Lang·Jia"),
    (0x90E, "Geng·Jun·Ying·Bo·Xi·Bei·Li·Yun·Bu·Xiao·Qi·Pi·Qing·Guo·Zhou·Tan"),
    (0x90F, "Zou·Ping·Lai·Ni·Chen·You·Bu·Xiang·Dan·Ju·Yong·Qiao·Yi·Du·Yan·Mei"),
    (0x910, "Ruo·Bei·E·Yu·Juan·Yu·Yun·Hou·Kui·Xiang·Xiang·Sou·Tang·Ming·Xi·Ru"),
    (0x911, "Chu·Zi·Zou·Ju·Wu·Xiang·Yun·Hao·Yong·Bi·Mo·Chao·Fu·Liao·Yin·Zhuan"),
    (0x912, "Hu·Qiao·Yan·Zhang·Fan·Qiao·Xu·Deng·Bi·Xin·Bi·Ceng·Wei·Zheng·Mao·Shan"),
    (0x913, "Lin·Po·Dan·Meng·Ye·Cao·Kuai·Feng·Meng·Zou·Kuang·Lian·Zan·Chan·You·Qi"),
    (0x914, "Yan·Chan·Zan·Ling·Huan·Xi·Feng·Zan·Li·You·Ding·Qiu·Zhuo·Pei·Zhou·Yi"),
    (0x915, "Hang·Yu·Jiu·Yan·Zui·Mao·Dan·Xu·Tou·Zhen·Fen·Sakenomoto··Yun·Tai·Tian"),
    (0x916, "Qia·Tuo·Zuo·Han·Gu·Su·Po·Chou·Zai·Ming·Luo·Chuo·Chou·You·Tong·Zhi"),
    (0x917, "Xian·Jiang·Cheng·Yin·Tu·Xiao·Mei·Ku·Suan·Lei·Pu·Zui·Hai·Yan·Xi·Niang"),
    (0x918, "Wei·Lu·Lan·Yan·Tao·Pei·Zhan·Chun·Tan·Zui·Chuo·Cu·Kun·Ti·Mian·Du"),
    (0x919, "Hu·Xu·Xing·Tan·Jiu·Chun·Yun·Po·Ke·Sou·Mi·Quan·Chou·Cuo·Yun·Yong"),
    (0x91A, "Ang·Zha·Hai·Tang·Jiang·Piao·Shan·Yu·Li·Zao·Lao·Yi·Jiang·Pu·Jiao·Xi"),
    (0x91B, "Tan·Po·Nong·Yi·Li·Ju·Jiao·Yi·Niang·Ru·Xun·Chou·Yan·Ling·Mi·Mi"),
    (0x91C, "Niang·Xin·Jiao·Xi·Mi·Yan·Bian·Cai·Shi·You·Shi·Shi·Li·Chong·Ye·Liang"),
    (0x91D, "Li·Jin·Jin·Qiu·Yi·Liao·Dao·Zhao·Ding·Po·Qiu·He·Fu·Zhen·Zhi·Ba"),
    (0x91E, "Luan·Fu·Nai·Diao·Shan·Qiao·Kou·Chuan·Zi·Fan·Yu·Hua·Han·Gong·Qi·Mang"),
    (0x91F, "Ri·Di·Si·Xi·Yi·Chai·Shi·Tu·Xi·Nu·Qian·Qiu·Jian·Pi·Ye·Yin"),
    (0x920, "Ba·Fang·Chen·Xing·Tou·Yue·Qian·Fu·Pi·Na·Xin·E·Jue·Dun·Gou·Yin"),
    (0x921, "Qian·Ban·Ji·Ren·Chao·Niu·Fen·Yun·Ji·Qin·Pi·Guo·Hong·Yin·Jun·Shi"),
    (0x922, "Yi·Zhong·Nie·Gai·Ri·Huo·Tai·Kang·Habaki·Irori·Ngaak··Duo·Zi·Ni·Tu"),
    (0x923, "Shi·Min·Gu·E·Ling·Bing·Yi·Gu·Ba·Pi·Yu·Si·Zuo·Bu·You·Dian"),
    (0x924, "Jia·Zhen·Shi·Shi·Tie·Ju·Zhan·Shi·She·Xuan·Zhao·Bao·He·Bi·Sheng·Chu"),
    (0x925, "Shi·Bo·Zhu·Chi·Za·Po·Tong·Qian·Fu·Zhai·Liu·Qian·Fu·Li·Yue·Pi"),
    (0x926, "Yang·Ban·Bo·Jie·Gou·Shu·Zheng·Mu·Ni·Nie·Di·Jia·Mu·Dan·Shen·Yi"),
    (0x927, "Si·Kuang·Ka·Bei·Jian·Tong·Xing·Hong·Jiao·Chi·Er·Ge·Bing·Shi·Mou·Jia"),
    (0x928, "Yin·Jun·Zhou·Chong·Shang·Tong·Mo·Lei·Ji·Yu·Xu·Ren·Zun·Zhi·Qiong·Shan"),
    (0x929, "Chi·Xian·Xing·Quan·Pi·Tie·Zhu·Hou·Ming·Kua·Yao·Xian·Xian·Xiu·Jun·Cha"),
    (0x92A, "Lao·Ji·Pi·Ru·Mi·Yi·Yin·Guang·An·Diou·You·Se·Kao·Qian·Luan·Kasugai"),
    (0x92B, "Ai·Diao·Han·Rui·Shi·Keng·Qiu·Xiao·Zhe·Xiu·Zang·Ti·Cuo·Gua·Gong·Zhong"),
    (0x92C, "Dou·Lu·Mei·Lang·Wan·Xin·Yun·Bei·Wu·Su·Yu·Chan·Ting·Bo·Han·Jia"),
    (0x92D, "Hong·Cuan·Feng·Chan·Wan·Zhi·Si·Xuan·Wu·Wu·Tiao·Gong·Zhuo·Lue·Xing·Qian"),
    (0x92E, "Shen·Han·Lue·Xie·Chu·Zheng·Ju·Xian·Tie·Mang·Pu·Li·Pan·Rui·Cheng·Gao"),
    (0x92F, "Li·Te·Pyeng·Zhu··Tu·Liu·Zui·Ju·Chang·Yuan·Jian·Gang·Diao·Tao·Chang"),
    (0x930, "Lun·Kua·Ling·Bei·Lu·Li·Qiang·Pou·Juan·Min·Zui·Peng·An·Pi·Xian·Ya"),
    (0x931, "Zhui·Lei·A·Kong·Ta·Kun·Du·Wei·Chui·Zi·Zheng·Ben·Nie·Cong·Qun·Tan"),
    (0x932, "Ding·Qi·Qian·Zhuo·Qi·Yu·Jin·Guan·Mao·Chang·Tian·Xi·Lian·Tao·Gu·Cuo"),
    (0x933, "Shu·Zhen·Lu·Meng·Lu·Hua·Biao·Ga·Lai·Ken·Kazari·Bu·Nai·Wan·Zan"),
    (0x934, "De·Xian··Huo·Liang··Men·Kai·Ying·Di·Lian·Guo·Xian·Du·Tu·Wei"),
    (0x935, "Cong·Fu·Rou·Ji·E·Rou·Chen·Ti·Zha·Hong·Yang·Duan·Xia·Yu·Keng·Xing"),
    (0x936, "Huang·Wei·Fu·Zhao·Cha·Qie·She·Hong·Kui·Tian·Mou·Qiao·Qiao·Hou·Tou·Cong"),
    (0x937, "Huan·Ye·Min·Jian·Duan·Jian·Song·Kui·Hu·Xuan·Duo·Jie·Zhen·Bian·Zhong·Zi"),
    (0x938, "Xiu·Ye·Mei·Pai·Ai·Jie··Mei·Chuo·Ta·Bang·Xia·Lian·Suo·Xi·Liu"),
    (0x939, "Zu·Ye·Nou·Weng·Rong·Tang·Suo·Qiang·Ge·Shuo·Chui·Bo·Pan·Sa·Bi·Sang"),
    (0x93A, "Gang·Zi·Wu·Ying·Huang·Tiao·Liu·Kai·Sun·Sha·Sou·Wan·Hao·Zhen·Zhen·Luo"),
    (0x93B, "Yi·Yuan·Tang·Nie·Xi·Jia·Ge·Ma·Juan·Kasugai·Habaki·Suo····Na"),
    (0x93C, "Lu·Suo·Ou·Zu·Tuan·Xiu·Guan·Xuan·Lian·Shou·Ao·Man·Mo·Luo·Bi·Wei"),
    (0x93D, "Liu·Di·Qiao·Cong·Yi·Lu·Ao·Keng·Qiang·Cui·Qi·Chang·Tang·Man·Yong·Chan"),
    (0x93E, "Feng·Jing·Biao·Shu·Lou·Xiu·Cong·Long·Zan·Jian·Cao·Li·Xia·Xi·Kang"),
    (0x93F, "Beng···Zheng·Lu·Hua·Ji·Pu·Hui·Qiang·Po·Lin·Suo·Xiu·San·Cheng"),
    (0x940, "Kui·Si·Liu·Nao·Heng·Pie·Sui·Fan·Qiao·Quan·Yang·Tang·Xiang·Jue·Jiao·Zun"),
    (0x941, "Liao·Jie·Lao·Dui·Tan·Zan·Ji·Jian·Zhong·Deng·Ya·Ying·Dui·Jue·Nou·Ti"),
    (0x942, "Pu·Tie···Ding·Shan·Kai·Jian·Fei·Sui·Lu·Juan·Hui·Yu·Lian·Zhuo"),
    (0x943, "Qiao·Qian·Zhuo·Lei·Bi·Tie·Huan·Ye·Duo·Guo·Dang·Ju·Fen·Da·Bei·Yi"),
    (0x944, "Ai·Zong·Xun·Diao·Zhu·Heng·Zhui·Ji·Nie·Ta·Huo·Qing·Bin·Ying·Kui·Ning"),
    (0x945, "Xu·Jian·Jian·Yari·Cha·Zhi·Mie·Li·Lei·Ji·Zuan·Kuang·Shang·Peng·La·Du"),
    (0x946, "Shuo·Chuo·Lu·Biao·Bao·Lu···Long·E·Lu·Xin·Jian·Lan·Bo·Jian"),
    (0x947, "Yao·Chan·Xiang·Jian·Xi·Guan·Cang·Nie·Lei·Cuan·Qu·Pan·Luo·Zuan·Luan·Zao"),
    (0x948, "Nie·Jue·Tang·Shu·Lan·Jin·Ga·Yi·Zhen·Ding·Zhao·Po·Liao·Tu·Qian·Chuan"),
    (0x949, "Shan·Ji·Fan·Diao·Men·Nu·Yang·Chai·Xing·Gai·Bu·Tai·Ju·Dun·Chao·Zhong"),
    (0x94A, "Na·Bei·Gang·Ban·Qian·Yao·Qin·Jun·Wu·Gou·Kang·Fang·Huo·Tou·Niu·Ba"),
    (0x94B, "Yu·Qian·Zheng·Qian·Gu·Bo·E·Po·Bu·Ba·Yue·Zuan·Mu·Dan·Jia·Dian"),
    (0x94C, "You·Tie·Bo·Ling·Shuo·Qian·Liu·Bao·Shi·Xuan·She·Bi·Ni·Pi·Duo·Xing"),
    (0x94D, "Kao·Lao·Er·Mang·Ya·You·Cheng·Jia·Ye·Nao·Zhi·Dang·Tong·Lu·Diao·Yin"),
    (0x94E, "Kai·Zha·Zhu·Xian·Ting·Diu·Xian·Hua·Quan·Sha·Jia·Yao·Ge·Ming·Zheng·Se"),
    (0x94F, "Jiao·Yi·Chan·Chong·Tang·An·Yin·Ru·Zhu·Lao·Pu·Wu·Lai·Te·Lian·Keng"),
    (0x950, "Xiao·Suo·Li·Zheng·Chu·Guo·Gao·Tie·Xiu·Cuo·Lue·Feng·Xin·Liu·Kai·Jian"),
    (0x951, "Rui·Ti·Lang·Qian·Ju·A·Qiang·Duo·Tian·Cuo·Mao·Ben·Qi·De·Kua·Kun"),
    (0x952, "Chang·Xi·Gu·Luo·Chui·Zhui·Jin·Zhi·Xian·Juan·Huo·Pou·Tan·Ding·Jian·Ju"),
    (0x953, "Meng·Zi·Qie·Ying·Kai·Qiang·Song·E·Cha·Qiao·Zhong·Duan·Sou·Huang·Huan·Ai"),
    (0x954, "Du·Mei·Lou·Zi·Fei·Mei·Mo·Zhen·Bo·Ge·Nie·Tang·Juan·Nie·Na·Liu"),
    (0x955, "Hao·Bang·Yi·Jia·Bin·Rong·Biao·Tang·Man·Luo·Beng·Yong·Jing·Di·Zu·Xuan"),
    (0x956, "Liu·Tan·Jue·Liao·Pu·Lu·Dui·Lan·Pu·Cuan·Qiang·Deng·Huo·Lei·Huan·Zhuo"),
    (0x957, "Lian·Yi·Cha·Biao·La·Chan·Xiang·Chang·Chang·Jiu·Ao·Die·Qu·Liao·Mi·Chang"),
    (0x958, "Men·Ma·Shuan·Shan·Huo·Men·Yan·Bi·Han·Bi·San·Kai·Kang·Beng·Hong·Run"),
    (0x959, "San·Xian·Xian·Jian·Min·Xia·Yuru·Dou·Zha·Nao·Jian·Peng·Xia·Ling·Bian·Bi"),
    (0x95A, "Run·He·Guan·Ge·Ge·Fa·Chu·Hong·Gui·Min·Se·Kun·Lang·Lu·Ting·Sha"),
    (0x95B, "Ju·Yue·Yue·Chan·Qu·Lin·Chang·Shai·Kun·Yan·Min·Yan·E·Hun·Yu·Wen"),
    (0x95C, "Xiang·Bao·Xiang·Qu·Yao·Wen·Ban·An·Wei·Yin·Kuo·Que·Lan·Du··Phwung"),
    (0x95D, "Tian·Nie·Ta·Kai·He·Que·Chuang·Guan·Dou·Qi·Kui·Tang·Guan·Piao·Kan·Xi"),
    (0x95E, "Hui·Chan·Pi·Dang·Huan·Ta·Wen··Men·Shuan·Shan·Yan·Han·Bi·Wen·Chuang"),
    (0x95F, "Run·Wei·Xian·Hong·Jian·Min·Kang·Men·Zha·Nao·Gui·Wen·Ta·Min·Lu·Kai"),
    (0x960, "Fa·Ge·He·Kun·Jiu·Yue·Lang·Du·Yu·Yan·Chang·Xi·Wen·Hun·Yan·Yan"),
    (0x961, "Chan·Lan·Qu·Hui·Kuo·Que·Ge·Tian·Ta·Que·Kan·Huan·Fu·Fu·Le·Dui"),
    (0x962, "Xin·Qian·Wu·Yi·Tuo·Yin·Yang·Dou·E·Sheng·Ban·Pei·Keng·Yun·Ruan·Zhi"),
    (0x963, "Pi·Jing·Fang·Yang·Yin·Zhen·Jie·Cheng·E·Qu·Di·Zu·Zuo·Dian·Ling·A"),
    (0x964, "Tuo·Tuo·Po·Bing·Fu·Ji·Lu·Long·Chen·Xing·Duo·Lou·Mo·Jiang·Shu·Duo"),
    (0x965, "Xian·Er·Gui·Yu·Gai·Shan·Xun·Qiao·Xing·Chun·Fu·Bi·Xia·Shan·Sheng·Zhi"),
    (0x966, "Pu·Dou·Yuan·Zhen·Chu·Xian·Tou·Nie·Yun·Xian·Pei·Pei·Zou·Yi·Dui·Lun"),
    (0x967, "Yin·Ju·Chui·Chen·Pi·Ling·Tao·Xian·Lu·Sheng·Xian·Yin·Zhu·Yang·Reng·Shan"),
    (0x968, "Chong·Yan·Yin·Yu·Ti·Yu·Long·Wei·Wei·Nie·Dui·Sui·An·Huang·Jie·Sui"),
    (0x969, "Yin·Gai·Yan·Hui·Ge·Yun·Wu·Wei·Ai·Xi·Tang·Ji·Zhang·Dao·Ao·Xi"),
    (0x96A, "Yin··Rao·Lin·Tui·Deng·Pi·Sui·Sui·Yu·Xian·Fen·Ni·Er·Ji·Dao"),
    (0x96B, "Xi·Yin·E·Hui·Long·Xi·Li·Li·Li·Zhui·He·Zhi·Zhun·Jun·Nan·Yi"),
    (0x96C, "Que·Yan·Qian·Ya·Xiong·Ya·Ji·Gu·Huan·Zhi·Gou·Jun·Ci·Yong·Ju·Chu"),
    (0x96D, "Hu·Za·Luo·Yu·Chou·Diao·Sui·Han·Huo·Shuang·Guan·Chu·Za·Yong·Ji·Xi"),
    (0x96E, "Chou·Liu·Li·Nan·Xue·Za·Ji·Ji·Yu·Yu·Xue·Na·Fou·Se·Mu·Wen"),
    (0x96F, "Fen·Pang·Yun·Li·Li·Ang·Ling·Lei·An·Bao·Meng·Dian·Dang·Xing·Wu·Zhao"),
    (0x970, "Xu·Ji·Mu·Chen·Xiao·Zha·Ting·Zhen·Pei·Mei·Ling·Qi·Chou·Huo·Sha·Fei"),
    (0x971, "Weng·Zhan·Yin·Ni·Chou·Tun·Lin··Dong·Ying·Wu·Ling·Shuang·Ling·Xia·Hong"),
    (0x972, "Yin·Mo·Mai·Yun·Liu·Meng·Bin·Wu·Wei·Huo·Yin·Xi·Yi·Ai·Dan·Deng"),
    (0x973, "Xian·Yu·Lu·Long·Dai·Ji·Pang·Yang·Ba·Pi·Wei··Xi·Ji·Mai·Meng"),
    (0x974, "Meng·Lei·Li·Huo·Ai·Fei·Dai·Long·Ling·Ai·Feng·Li·Bao··He·He"),
    (0x975, "Bing·Qing·Qing·Jing·Qi·Zhen·Jing·Cheng·Qing·Jing·Jing·Dian·Jing·Tian·Fei·Fei"),
    (0x976, "Kao·Mi·Mian·Mian·Pao·Ye·Tian·Hui·Ye·Ge·Ding·Ren·Jian·Ren·Di·Du"),
    (0x977, "Wu·Ren·Qin·Jin·Xue·Niu·Ba·Yin·Sa·Na·Mo·Zu·Da·Ban·Yi·Yao"),
    (0x978, "Tao·Tuo·Jia·Hong·Pao·Yang·Tomo·Yin·Jia·Tao·Ji·Xie·An·An·Hen·Gong"),
    (0x979, "Kohaze·Da·Qiao·Ting·Man·Ying·Sui·Tiao·Qiao·Xuan·Kong·Beng·Ta·Zhang·Bing·Kuo"),
    (0x97A, "Ju·La·Xie·Rou·Bang·Yi·Qiu·Qiu·He·Xiao·Mu·Ju·Jian·Bian·Di·Jian"),
    (0x97B, "On·Tao·Gou·Ta·Bei·Xie·Pan·Ge·Bi·Kuo·Tang·Lou·Gui·Qiao·Xue·Ji"),
    (0x97C, "Jian·Jiang·Chan·Da·Huo·Xian·Qian·Du·Wa·Jian·Lan·Wei·Ren·Fu·Mei·Juan"),
    (0x97D, "Ge·Wei·Qiao·Han·Chang··Rou·Xun·She·Wei·Ge·Bei·Tao·Gou·Yun"),
    (0x97E, "Bi·Wei·Hui·Du·Wa·Du·Wei·Ren·Fu·Han·Wei·Yun·Tao·Jiu·Jiu·Xian"),
    (0x97F, "Xie·Xian·Ji·Yin·Za·Yun·Shao·Le·Peng·Heng·Ying·Yun·Peng·Yin·Yin·Xiang"),
    (0x980, "Hu·Ye·Ding·Qing·Pan·Xiang·Shun·Han·Xu·Yi·Xu·Gu·Song·Kui·Qi·Hang"),
    (0x981, "Yu·Wan·Ban·Dun·Di·Dan·Pan·Po·Ling·Ce·Jing·Lei·He·Qiao·E·E"),
    (0x982, "Wei·Jie·Gua·Shen·Yi·Shen·Hai·Dui·Pian·Ping·Lei·Fu·Jia·Tou·Hui·Kui"),
    (0x983, "Jia·Le·Tian·Cheng·Ying·Jun·Hu·Han·Jing·Tui·Tui·Pin·Lai·Tui·Zi·Zi"),
    (0x984, "Chui·Ding·Lai·Yan·Han·Jian·Ke·Cui·Jiong·Qin·Yi·Sai·Ti·E·E·Yan"),
    (0x985, "Hun·Kan·Yong·Zhuan·Yan·Xian·Xin·Yi·Yuan·Sang·Dian·Dian·Jiang·Ku·Lei·Liao"),
    (0x986, "Piao·Yi·Man·Qi·Rao·Hao·Qiao·Gu·Xun·Qian·Hui·Zhan·Ru·Hong·Bin·Xian"),
    (0x987, "Pin·Lu·Lan·Nie·Quan·Ye·Ding·Qing·Han·Xiang·Shun·Xu·Xu·Wan·Gu·Dun"),
    (0x988, "Qi·Ban·Song·Hang·Yu·Lu·Ling·Po·Jing·Jie·Jia·Tian·Han·Ying·Jiong·Hai"),
    (0x989, "Yi·Pin·Hui·Tui·Han·Ying·Ying·Ke·Ti·Yong·E·Zhuan·Yan·E·Nie·Man"),
    (0x98A, "Dian·Sang·Hao·Lei·Zhan·Ru·Pin·Quan·Feng·Biao·Oroshi·Fu·Xia·Zhan·Biao·Sa"),
    (0x98B, "Ba·Tai·Lie·Gua·Xuan·Shao·Ju·Bi·Si·Wei·Yang·Yao·Sou·Kai·Sao·Fan"),
    (0x98C, "Liu·Xi·Liao·Piao·Piao·Liu·Biao·Biao·Biao·Liao··Se·Feng·Biao·Feng·Yang"),
    (0x98D, "Zhan·Biao·Sa·Ju·Si·Sou·Yao·Liu·Piao·Biao·Biao·Fei·Fan·Fei·Fei·Shi"),
    (0x98E, "Shi·Can·Ji·Ding·Si·Tuo·Zhan·Sun·Xiang·Tun·Ren·Yu·Yang·Chi·Yin·Fan"),
    (0x98F, "Fan·Sun·Yin·Zhu·Yi·Zuo·Bi·Jie·Tao·Liu·Ci·Tie·Si·Bao·Shi·Duo"),
    (0x990, "Hai·Ren·Tian·Jiao·Jia·Bing·Yao·Tong·Ci·Xiang·Yang·Yang·Er·Yan·Le·Yi"),
    (0x991, "Can·Bo·Nei·E·Bu·Jun·Dou·Su·Yu·Shi·Yao·Hun·Guo·Shi·Jian·Zhui"),
    (0x992, "Bing·Xian·Bu·Ye·Tan·Fei·Zhang·Wei·Guan·E·Nuan·Hun·Hu·Huang·Tie·Hui"),
    (0x993, "Jian·Hou·He·Xing·Fen·Wei·Gu·Cha·Song·Tang·Bo·Gao·Xi·Kui·Liu·Sou"),
    (0x994, "Tao·Ye·Yun·Mo·Tang·Man·Bi·Yu·Xiu·Jin·San·Kui·Zhuan·Shan·Chi·Dan"),
    (0x995, "Yi·Ji·Rao·Cheng·Yong·Tao·Hui·Xiang·Zhan·Fen·Hai·Meng·Yan·Mo·Chan·Xiang"),
    (0x996, "Luo·Zuan·Nang·Shi·Ding·Ji·Tuo·Xing·Tun·Xi·Ren·Yu·Chi·Fan·Yin·Jian"),
    (0x997, "Shi·Bao·Si·Duo·Yi·Er·Rao·Xiang·Jia·Le·Jiao·Yi·Bing·Bo·Dou·E"),
    (0x998, "Yu·Nei·Jun·Guo·Hun·Xian·Guan·Cha·Kui·Gu·Sou·Chan·Ye·Mo·Bo·Liu"),
    (0x999, "Xiu·Jin·Man·San·Zhuan·Nang·Shou·Kui·Guo·Xiang·Fen·Ba·Ni·Bi·Bo·Tu"),
    (0x99A, "Han·Fei·Jian·An·Ai·Fu·Xian·Wen·Xin·Fen·Bin·Xing·Ma·Yu·Feng·Han"),
    (0x99B, "Di·Tuo·Tuo·Chi·Xun·Zhu·Zhi·Pei·Xin·Ri·Sa·Yin·Wen·Zhi·Dan·Lu"),
    (0x99C, "You·Bo·Bao·Kuai·Tuo·Yi·Qu··Qu·Jiong·Bo·Zhao·Yuan·Peng·Zhou·Ju"),
    (0x99D, "Zhu·Nu·Ju·Pi·Zang·Jia·Ling·Zhen·Tai·Fu·Yang·Shi·Bi·Tuo·Tuo·Si"),
    (0x99E, "Liu·Ma·Pian·Tao·Zhi·Rong·Teng·Dong·Xun·Quan·Shen·Jiong·Er·Hai·Bo·Zhu"),
    (0x99F, "Yin·Luo·Shuu·Dan·Xie·Liu·Ju·Song·Qin·Mang·Liang·Han·Tu·Xuan·Tui·Jun"),
    (0x9A0, "E·Cheng·Xin·Ai·Lu·Zhui·Zhou·She·Pian·Kun·Tao·Lai·Zong·Ke·Qi·Qi"),
    (0x9A1, "Yan·Fei·Sao·Yan·Jie·Yao·Wu·Pian·Cong·Pian·Qian·Fei·Huang·Jian·Huo·Yu"),
    (0x9A2, "Ti·Quan·Xia·Zong·Kui·Rou·Si·Gua·Tuo·Kui·Sou·Qian·Cheng·Zhi·Liu·Pang"),
    (0x9A3, "Teng·Xi·Cao·Du·Yan·Yuan·Zou·Sao·Shan·Li·Zhi·Shuang·Lu·Xi·Luo·Zhang"),
    (0x9A4, "Mo·Ao·Can·Piao·Cong·Qu·Bi·Zhi·Yu·Xu·Hua·Bo·Su·Xiao·Lin·Chan"),
    (0x9A5, "Dun·Liu·Tuo·Zeng·Tan·Jiao·Tie·Yan·Luo·Zhan·Jing·Yi·Ye·Tuo·Bin·Zou"),
    (0x9A6, "Yan·Peng·Lu·Teng·Xiang·Ji·Shuang·Ju·Xi·Huan·Li·Biao·Ma·Yu·Tuo·Xun"),
    (0x9A7, "Chi·Qu·Ri·Bo·Lu·Zang·Shi·Si·Fu·Ju·Zou·Zhu·Tuo·Nu·Jia·Yi"),
    (0x9A8, "Tai·Xiao·Ma·Yin·Jiao·Hua·Luo·Hai·Pian·Biao·Li·Cheng·Yan·Xin·Qin·Jun"),
    (0x9A9, "Qi·Qi·Ke·Zhui·Zong·Su·Can·Pian·Zhi·Kui·Sao·Wu·Ao·Liu·Qian·Shan"),
    (0x9AA, "Piao·Luo·Cong·Chan·Zou·Ji·Shuang·Xiang·Gu·Wei·Wei·Wei·Yu·Gan·Yi·Ang"),
    (0x9AB, "Tou·Xie·Bao·Bi·Chi·Ti·Di·Ku·Hai·Qiao·Gou·Kua·Ge·Tui·Geng·Pian"),
    (0x9AC, "Bi·Ke·Ka·Yu·Sui·Lou·Bo·Xiao·Pang·Bo·Ci·Kuan·Bin·Mo·Liao·Lou"),
    (0x9AD, "Nao·Du·Zang·Sui·Ti·Bin·Kuan·Lu·Gao·Gao·Qiao·Kao·Qiao·Lao·Zao·Biao"),
    (0x9AE, "Kun·Kun·Ti·Fang·Xiu·Ran·Mao·Dan·Kun·Bin·Fa·Tiao·Peng·Zi·Fa·Ran"),
    (0x9AF, "Ti·Pao·Pi·Mao·Fu·Er·Rong·Qu·Gong·Xiu·Gua·Ji·Peng·Zhua·Shao·Sha"),
    (0x9B0, "Ti·Li·Bin·Zong·Ti·Peng·Song·Zheng·Quan·Zong·Shun·Jian·Duo·Hu·La·Jiu"),
    (0x9B1, "Qi·Lian·Zhen·Bin·Peng·Mo·San·Man·Man·Seng·Xu·Lie·Qian·Qian·Nong·Huan"),
    (0x9B2, "Kuai·Ning·Bin·Lie·Rang·Dou·Dou·Nao·Hong·Xi·Dou·Han·Dou·Dou·Jiu·Chang"),
    (0x9B3, "Yu·Yu·Li·Juan·Fu·Qian·Gui·Zong·Liu·Gui·Shang·Yu·Gui·Mei·Ji·Qi"),
    (0x9B4, "Jie·Kui·Hun·Ba·Po·Mei·Xu·Yan·Xiao·Liang·Yu·Tui·Qi·Wang·Liang·Wei"),
    (0x9B5, "Jian·Chi·Piao·Bi·Mo·Ji·Xu·Chou·Yan·Zhan·Yu·Dao·Ren·Ji·Eri·Gong"),
    (0x9B6, "Tuo·Diao·Ji·Xu·E·E·Sha·Hang·Tun·Mo·Jie·Shen·Fan·Yuan·Bi·Lu"),
    (0x9B7, "Wen·Hu·Lu·Za·Fang·Fen·Na·You·Namazu·Todo·He·Xia·Qu·Han·Pi·Ling"),
    (0x9B8, "Tuo·Bo·Qiu·Ping·Fu·Bi·Ji·Wei·Ju·Diao·Bo·You·Gun·Pi·Nian·Xing"),
    (0x9B9, "Tai·Bao·Fu·Zha·Ju·Gu·Kajika·Tong··Ta·Jie·Shu·Hou·Xiang·Er·An"),
    (0x9BA, "Wei·Tiao·Zhu·Yin·Lie·Luo·Tong·Yi·Qi·Bing·Wei·Jiao·Bu·Gui·Xian·Ge"),
    (0x9BB, "Hui·Bora·Mate·Kao·Gori·Duo·Jun·Ti·Man·Xiao·Za·Sha·Qin·Yu·Nei·Zhe"),
    (0x9BC, "Gun·Geng·Su·Wu·Qiu·Ting·Fu·Wan·You·Li·Sha·Sha·Gao·Meng·Ugui·Asari"),
    (0x9BD, "Subashiri·Kazunoko·Yong·Ni·Zi·Qi·Qing·Xiang·Nei·Chun·Ji·Diao·Qie·Gu·Zhou·Dong"),
    (0x9BE, "Lai·Fei·Ni·Yi·Kun·Lu·Jiu·Chang·Jing·Lun·Ling·Zou·Li·Meng·Zong·Zhi"),
    (0x9BF, "Nian·Shachi·Dojou·Sukesou·Shi·Shen·Hun·Shi·Hou·Xing·Zhu·La·Zong·Ji·Bian·Bian"),
    (0x9C0, "Huan·Quan·Ze·Wei·Wei·Yu·Qun·Rou·Die·Huang·Lian·Yan·Qiu·Qiu·Jian·Bi"),
    (0x9C1, "E·Yang·Fu·Sai·Jian·Xia·Tuo·Hu·Muroaji·Ruo·Haraka·Wen·Jian·Hao·Wu·Fang"),
    (0x9C2, "Sao·Liu·Ma·Shi·Shi·Yin·Z·Teng·Ta·Yao·Ge·Rong·Qian·Qi·Wen·Ruo"),
    (0x9C3, "Hatahata·Lian·Ao·Le·Hui·Min·Ji·Tiao·Qu·Jian·Sao·Man·Xi·Qiu·Biao·Ji"),
    (0x9C4, "Ji·Zhu·Jiang·Qiu·Zhuan·Yong·Zhang·Kang·Xue·Bie·Jue·Qu·Xiang·Bo·Jiao·Xun"),
    (0x9C5, "Su·Huang·Zun·Shan·Shan·Fan·Jue·Lin·Xun·Miao·Xi·Eso·Kyou·Fen·Guan·Hou"),
    (0x9C6, "Kuai·Zei·Sao·Zhan·Gan·Gui·Sheng·Li·Chang·Hatahata·Shiira·Mutsu·Ru·Ji·Xu·Huo"),
    (0x9C7, "Shiira·Li·Lie·Li·Mie·Zhen·Xiang·E·Lu·Guan·Li·Xian·Yu·Dao·Ji·You"),
    (0x9C8, "Tun·Lu·Fang·Ba·He·Bo·Ping·Nian·Lu·You·Zha·Fu·Bo·Bao·Hou·Pi"),
    (0x9C9, "Tai·Gui·Jie·Kao·Wei·Er·Tong·Ze·Hou·Kuai·Ji·Jiao·Xian·Za·Xiang·Xun"),
    (0x9CA, "Geng·Li·Lian·Jian·Li·Shi·Tiao·Gun·Sha·Wan·Jun·Ji·Yong·Qing·Ling·Qi"),
    (0x9CB, "Zou·Fei·Kun·Chang·Gu·Ni·Nian·Diao·Jing·Shen·Shi·Zi·Fen·Die·Bi·Chang"),
    (0x9CC, "Shi·Wen·Wei·Sai·E·Qiu·Fu·Huang·Quan·Jiang·Bian·Sao·Ao·Qi·Ta·Yin"),
    (0x9CD, "Yao·Fang·Jian·Le·Biao·Xue·Bie·Man·Min·Yong·Wei·Xi·Jue·Shan·Lin·Zun"),
    (0x9CE, "Huo·Gan·Li·Zhan·Guan·Niao·Yi·Fu·Li·Jiu·Bu·Yan·Fu·Diao·Ji·Feng"),
    (0x9CF, "Nio·Gan·Shi·Feng·Ming·Bao·Yuan·Zhi·Hu·Qin·Fu·Fen·Wen·Jian·Shi·Yu"),
    (0x9D0, "Fou·Yiao·Jue·Jue·Pi·Huan·Zhen·Bao·Yan·Ya·Zheng·Fang·Feng·Wen·Ou·Te"),
    (0x9D1, "Jia·Nu·Ling·Mie·Fu·Tuo·Wen·Li·Bian·Zhi·Ge·Yuan·Zi·Qu·Xiao·Zhi"),
    (0x9D2, "Dan·Ju·You·Gu·Zhong·Yu·Yang·Rong·Ya·Tie·Yu·Shigi·Ying·Zhui·Wu·Er"),
    (0x9D3, "Gua·Ai·Zhi·Yan·Heng·Jiao·Ji·Lie·Zhu·Ren·Yi·Hong·Luo·Ru·Mou·Ge"),
    (0x9D4, "Ren·Jiao·Xiu·Zhou·Zhi·Luo·Chidori·Toki·Ten·Luan·Jia·Ji·Yu·Huan·Tuo·Bu"),
    (0x9D5, "Wu·Juan·Yu·Bo·Xun·Xun·Bi·Xi·Jun·Ju·Tu·Jing·Ti·E·E·Kuang"),
    (0x9D6, "Hu·Wu·Shen·Lai·Ikaruga·Kakesu·Lu·Ping·Shu·Fu·An·Zhao·Peng·Qin·Qian·Bei"),
    (0x9D7, "Diao·Lu·Que·Jian·Ju·Tu·Ya·Yuan·Qi·Li·Ye·Zhui·Kong·Zhui·Kun·Sheng"),
    (0x9D8, "Qi·Jing·Yi·Yi·Jing·Zi·Lai·Dong·Qi·Chun·Geng·Ju·Qu·Isuka·Kikuitadaki·Ji"),
    (0x9D9, "Shu··Chi·Miao·Rou·An·Qiu·Ti·Hu·Ti·E·Jie·Mao·Fu·Chun·Tu"),
    (0x9DA, "Yan·He·Yuan·Pian·Yun·Mei·Hu·Ying·Dun·Mu·Ju·Tsugumi·Cang·Fang·Gu·Ying"),
    (0x9DB, "Yuan·Xuan·Weng·Shi·He·Chu·Tang·Xia·Ruo·Liu·Ji·Gu·Jian·Zhun·Han·Zi"),
    (0x9DC, "Zi·Ni·Yao·Yan·Ji·Li·Tian·Kou·Ti·Ti·Ni·Tu·Ma·Jiao·Gao·Tian"),
    (0x9DD, "Chen·Li·Zhuan·Zhe·Ao·Yao·Yi·Ou·Chi·Zhi·Liao·Rong·Lou·Bi·Shuang·Zhuo"),
    (0x9DE, "Yu·Wu·Jue·Yin·Quan·Si·Jiao·Yi·Hua·Bi·Ying·Su·Huang·Fan·Jiao·Liao"),
    (0x9DF, "Yan·Kao·Jiu·Xian·Xian·Tu·Mai·Zun·Yu·Ying·Lu·Tuan·Xian·Xue·Yi·Pi"),
    (0x9E0, "Shu·Luo·Qi·Yi·Ji·Zhe·Yu·Zhan·Ye·Yang·Pi·Ning·Huo·Mi·Ying·Meng"),
    (0x9E1, "Di·Yue·Yu·Lei·Bao·Lu·He·Long·Shuang·Yue·Ying·Guan·Qu·Li·Luan·Niao"),
    (0x9E2, "Jiu·Ji·Yuan·Ming·Shi·Ou·Ya·Cang·Bao·Zhen·Gu·Dong·Lu·Ya·Xiao·Yang"),
    (0x9E3, "Ling·Chi·Qu·Yuan·Xue·Tuo·Si·Zhi·Er·Gua·Xiu·Heng·Zhou·Ge·Luan·Hong"),
    (0x9E4, "Wu·Bo·Li·Juan·Hu·E·Yu·Xian·Ti·Wu·Que·Miao·An·Kun·Bei·Peng"),
    (0x9E5, "Qian·Chun·Geng·Yuan·Su·Hu·He·E·Gu·Qiu·Ci·Mei·Wu·Yi·Yao·Weng"),
    (0x9E6, "Liu·Ji·Yi·Jian·He·Yi·Ying·Zhe·Liu·Liao·Jiao·Jiu·Yu·Lu·Huan·Zhan"),
    (0x9E7, "Ying·Hu·Meng·Guan·Shuang·Lu·Jin·Ling·Jian·Xian·Cuo·Jian·Jian·Yan·Cuo·Lu"),
    (0x9E8, "You·Cu·Ji·Biao·Cu·Biao·Zhu·Jun·Zhu·Jian·Mi·Mi·Wu·Liu·Chen·Jun"),
    (0x9E9, "Lin·Ni·Qi·Lu·Jiu·Jun·Jing·Li·Xiang·Yan·Jia·Mi·Li·She·Zhang·Lin"),
    (0x9EA, "Jing·Ji·Ling·Yan·Cu·Mai·Mai·Ge·Chao·Fu·Mian·Mian·Fu·Pao·Qu·Qu"),
    (0x9EB, "Mou·Fu·Xian·Lai·Qu·Mian··Feng·Fu·Qu·Mian·Ma·Mo·Mo·Hui·Ma"),
    (0x9EC, "Zou·Nen·Fen·Huang·Huang·Jin·Guang·Tian·Tou·Heng·Xi·Kuang·Heng·Shu·Li·Nian"),
    (0x9ED, "Chi·Hei·Hei·Yi·Qian·Dan·Xi·Tuan·Mo·Mo·Qian·Dai·Chu·You·Dian·Yi"),
    (0x9EE, "Xia·Yan·Qu·Mei·Yan·Jing·Yu·Li·Dang·Du·Can·Yin·An·Yan·Tan·An"),
    (0x9EF, "Zhen·Dai·Can·Yi·Mei·Dan·Yan·Du·Lu·Zhi·Fen·Fu·Fu·Min·Min·Yuan"),
    (0x9F0, "Cu·Qu·Chao·Wa·Zhu·Zhi·Mang·Ao·Bie·Tuo·Bi·Yuan·Chao·Tuo·Ding·Mi"),
    (0x9F1, "Nai·Ding·Zi·Gu·Gu·Dong·Fen·Tao·Yuan·Pi·Chang·Gao·Qi·Yuan·Tang·Teng"),
    (0x9F2, "Shu·Shu·Fen·Fei·Wen·Ba·Diao·Tuo·Tong·Qu·Sheng·Shi·You·Shi·Ting·Wu"),
    (0x9F3, "Nian·Jing·Hun·Ju·Yan·Tu·Ti·Xi·Xian·Yan·Lei·Bi·Yao·Qiu·Han·Wu"),
    (0x9F4, "Wu·Hou·Xi·Ge·Zha·Xiu·Weng·Zha·Nong·Nang·Qi·Zhai·Ji·Zi·Ji·Ji"),
    (0x9F5, "Qi·Ji·Chi·Chen·Chen·He·Ya·Ken·Xie·Pao·Cuo·Shi·Zi·Chi·Nian·Ju"),
    (0x9F6, "Tiao·Ling·Ling·Chu·Quan·Xie·Ken·Nie·Jiu·Yao·Chuo·Kun·Yu·Chu·Yi·Ni"),
    (0x9F7, "Cuo·Zou·Qu·Nen·Xian·Ou·E·Wo·Yi·Chuo·Zou·Dian·Chu·Jin·Ya·Chi"),
    (0x9F8, "Chen·He·Ken·Ju·Ling·Pao·Tiao·Zi·Ken·Yu·Chuo·Qu·Wo·Long·Pang·Gong"),
    (0x9F9, "Pang·Yan·Long·Long·Gong·Kan·Ta·Ling·Ta·Long·Gong·Kan·Gui·Qiu·Bie·Gui"),
    (0x9FA, "Yue·Chui·He·Jue·Xie·Yu") ]

end Snippet.Spelling
