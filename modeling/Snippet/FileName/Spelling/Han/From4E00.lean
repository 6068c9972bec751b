/-! Readings of the ideographs from U+4E00 to U+5FFF. -/

set_option autoImplicit false

namespace Snippet.Spelling

def hanFrom4E00 : List (Nat × String) :=
  [ (0x4E0, "Yi·Ding·Kao·Qi·Shang·Xia··Mo·Zhang·San·Shang·Xia·Ji·Bu·Yu·Mian"),
    (0x4E1, "Gai·Chou·Chou·Zhuan·Qie·Pi·Shi·Shi·Qiu·Bing·Ye·Cong·Dong·Si·Cheng·Diu"),
    (0x4E2, "Qiu·Liang·Diu·You·Liang·Yan·Bing·Sang·Gun·Jiu·Ge·Ya·Qiang·Zhong·Ji·Jie"),
    (0x4E3, "Feng·Guan·Chuan·Chan·Lin·Zhuo·Zhu·Ha·Wan·Dan·Wei·Zhu·Jing·Li·Ju·Pie"),
    (0x4E4, "Fu·Yi·Yi·Nai·Shime·Jiu·Jiu·Zhe·Yao·Yi··Zhi·Wu·Zha·Hu·Fa"),
    (0x4E5, "Le·Zhong·Ping·Pang·Qiao·Hu·Guai·Cheng·Cheng·Yi·Yin··Mie·Jiu·Qi·Ye"),
    (0x4E6, "Xi·Xiang·Gai·Diu·Hal··Shu·Twul·Shi·Ji·Nang·Jia·Kel·Shi·Ol·Ol"),
    (0x4E7, "Mai·Luan·Kal·Ru·Xue·Yan·Fu·Sha·Na·Gan·Sol·El·Cwul··Gan·Chi"),
    (0x4E8, "Gui·Gan·Luan·Lin·Yi·Jue·Le·Ma·Yu·Zheng·Shi·Shi·Er·Chu·Yu·Yu"),
    (0x4E9, "Yu·Yun·Hu·Qi·Wu·Jing·Si·Sui·Gen·Gen·Ya·Xie·Ya·Qi·Ya·Ji"),
    (0x4EA, "Tou·Wang·Kang·Ta·Jiao·Hai·Yi·Chan·Heng·Mu··Xiang·Jing·Ting·Liang·Heng"),
    (0x4EB, "Jing·Ye·Qin·Bo·You·Xie·Dan·Lian·Duo·Wei·Ren·Ren·Ji·La·Wang·Yi"),
    (0x4EC, "Shi·Ren·Le·Ding·Ze·Jin·Pu·Chou·Ba·Zhang·Jin·Jie·Bing·Reng·Cong·Fo"),
    (0x4ED, "San·Lun·Sya·Cang·Zi·Shi·Ta·Zhang·Fu·Xian·Xian·Tuo·Hong·Tong·Ren·Qian"),
    (0x4EE, "Gan·Yi·Di·Dai·Ling·Yi·Chao·Chang·Sa··Yi·Mu·Men·Ren·Jia·Chao"),
    (0x4EF, "Yang·Qian·Zhong·Pi·Wan·Wu·Jian·Jie·Yao·Feng·Cang·Ren·Wang·Fen·Di·Fang"),
    (0x4F0, "Zhong·Qi·Pei·Yu·Diao·Dun·Wen·Yi·Xin·Kang·Yi·Ji·Ai·Wu·Ji·Fu"),
    (0x4F1, "Fa·Xiu·Jin·Bei·Dan·Fu·Tang·Zhong·You·Huo·Hui·Yu·Cui·Chuan·San·Wei"),
    (0x4F2, "Chuan·Che·Ya·Xian·Shang·Chang·Lun·Cang·Xun·Xin·Wei·Zhu··Xuan·Nu·Bo"),
    (0x4F3, "Gu·Ni·Ni·Xie·Ban·Xu·Ling·Zhou·Shen·Qu·Si·Beng·Si·Jia·Pi·Yi"),
    (0x4F4, "Si·Ai·Zheng·Dian·Han·Mai·Dan·Zhu·Bu·Qu·Bi·Shao·Ci·Wei·Di·Zhu"),
    (0x4F5, "Zuo·You·Yang·Ti·Zhan·He·Bi·Tuo·She·Yu·Yi·Fo·Zuo·Kou·Ning·Tong"),
    (0x4F6, "Ni·Xuan·Qu·Yong·Wa·Qian··Ka··Pei·Huai·He·Lao·Xiang·Ge·Yang"),
    (0x4F7, "Bai·Fa·Ming·Jia·Er·Bing·Ji·Hen·Huo·Gui·Quan·Tiao·Jiao·Ci·Yi·Shi"),
    (0x4F8, "Xing·Shen·Tuo·Kan·Zhi·Gai·Lai·Yi·Chi·Kua·Guang·Li·Yin·Shi·Mi·Zhu"),
    (0x4F9, "Xu·You·An·Lu·Mou·Er·Lun·Tong·Cha·Chi·Xun·Gong·Zhou·Yi·Ru·Jian"),
    (0x4FA, "Xia·Jia·Zai·Lu·Ko·Jiao·Zhen·Ce·Qiao·Kuai·Chai·Ning·Nong·Jin·Wu·Hou"),
    (0x4FB, "Jiong·Cheng·Zhen·Zuo·Chou·Qin·Lu·Ju·Shu·Ting·Shen·Tuo·Bo·Nan·Hao·Bian"),
    (0x4FC, "Tui·Yu·Xi·Cu·E·Qiu·Xu·Kuang·Ku·Wu·Jun·Yi·Fu·Lang·Zu·Qiao"),
    (0x4FD, "Li·Yong·Hun·Jing·Xian·San·Pai·Su·Fu·Xi·Li·Fu·Ping·Bao·Yu·Si"),
    (0x4FE, "Xia·Xin·Xiu·Yu·Ti·Che·Chou··Yan·Lia·Li·Lai··Jian·Xiu·Fu"),
    (0x4FF, "He·Ju·Xiao·Pai·Jian·Biao·Chu·Fei·Feng·Ya·An·Bei·Yu·Xin·Bi·Jian"),
    (0x500, "Chang·Chi·Bing·Zan·Yao·Cui·Lia·Wan·Lai·Cang·Zong·Ge·Guan·Bei·Tian·Shu"),
    (0x501, "Shu·Men·Dao·Tan·Jue·Chui·Xing·Peng·Tang·Hou·Yi·Qi·Ti·Gan·Jing·Jie"),
    (0x502, "Sui·Chang·Jie·Fang·Zhi·Kong·Juan·Zong·Ju·Qian·Ni·Lun·Zhuo·Wei·Luo·Song"),
    (0x503, "Leng·Hun·Dong·Zi·Ben·Wu·Ju·Nai·Cai·Jian·Zhai·Ye·Zhi·Sha·Qing"),
    (0x504, "Ying·Cheng·Jian·Yan·Nuan·Zhong·Chun·Jia·Jie·Wei·Yu·Bing·Ruo·Ti·Wei·Pian"),
    (0x505, "Yan·Feng·Tang·Wo·E·Xie·Che·Sheng·Kan·Di·Zuo·Cha·Ting·Bei·Ye·Huang"),
    (0x506, "Yao·Zhan·Chou·Yan·You·Jian·Xu·Zha·Ci·Fu·Bi·Zhi·Zong·Mian·Ji·Yi"),
    (0x507, "Xie·Xun·Si·Duan·Ce·Zhen·Ou·Tou·Tou·Bei·Za·Lou·Jie·Wei·Fen·Chang"),
    (0x508, "Gui·Sou·Zhi·Su·Xia·Fu·Yuan·Rong·Li·Ru·Yun·Gou·Ma·Bang·Dian·Tang"),
    (0x509, "Hao·Jie·Xi·Shan·Qian·Jue·Cang·Chu·San·Bei·Xiao·Yong·Yao·Tan·Suo·Yang"),
    (0x50A, "Fa·Bing·Jia·Dai·Zai·Tang··Bin·Chu·Nuo·Can·Lei·Cui·Yong·Zao·Zong"),
    (0x50B, "Peng·Song·Ao·Chuan·Yu·Zhai·Cou·Shang·Qiang·Jing·Chi·Sha·Han·Zhang·Qing·Yan"),
    (0x50C, "Di·Xi·Lu·Bei·Piao·Jin·Lian·Lu·Man·Qian·Xian·Tan·Ying·Dong·Zhuan·Xiang"),
    (0x50D, "Shan·Qiao·Jiong·Tui·Zun·Pu·Xi·Lao·Chang·Guang·Liao·Qi·Deng·Chan·Wei·Ji"),
    (0x50E, "Fan·Hui·Chuan·Jian·Dan·Jiao·Jiu·Seng·Fen·Xian·Jue·E·Jiao·Jian·Tong·Lin"),
    (0x50F, "Bo·Gu··Su·Xian·Jiang·Min·Ye·Jin·Jia·Qiao·Pi·Feng·Zhou·Ai·Sai"),
    (0x510, "Yi·Jun·Nong·Chan·Yi·Dang·Jing·Xuan·Kuai·Jian·Chu·Dan·Jiao·Sha·Zai"),
    (0x511, "Bin·An·Ru·Tai·Chou·Chai·Lan·Ni·Jin·Qian·Meng·Wu·Ning·Qiong·Ni·Chang"),
    (0x512, "Lie·Lei·Lu·Kuang·Bao·Du·Biao·Zan·Zhi·Si·You·Hao·Chen·Chen·Li·Teng"),
    (0x513, "Wei·Long·Chu·Chan·Rang·Shu·Hui·Li·Luo·Zan·Nuo·Tang·Yan·Lei·Nang·Er"),
    (0x514, "Wu·Yun·Zan·Yuan·Xiong·Chong·Zhao·Xiong·Xian·Guang·Dui·Ke·Dui·Mian·Tu·Chang"),
    (0x515, "Er·Dui·Er·Xin·Tu·Si·Yan·Yan·Shi·Shi·Dang·Qian·Dou·Fen·Mao·Shen"),
    (0x516, "Dou·Bai·Jing·Li·Huang·Ru·Wang·Nei·Quan·Liang·Yu·Ba·Gong·Liu·Xi"),
    (0x517, "Lan·Gong·Tian·Guan·Xing·Bing·Qi·Ju·Dian·Zi·Ppwun·Yang·Jian·Shou·Ji·Yi"),
    (0x518, "Ji·Chan·Jiong·Mao·Ran·Nei·Yuan·Mao·Gang·Ran·Ce·Jiong·Ce·Zai·Gua·Jiong"),
    (0x519, "Mao·Zhou·Mou·Gou·Xu·Mian·Mi·Rong·Yin·Xie·Kan·Jun·Nong·Yi·Mi·Shi"),
    (0x51A, "Guan·Meng·Zhong·Ju·Yuan·Ming·Kou··Fu·Xie·Mi·Bing·Dong·Tai·Gang·Feng"),
    (0x51B, "Bing·Hu·Chong·Jue·Hu·Kuang·Ye·Leng·Pan·Fu·Min·Dong·Xian·Lie·Xia·Jian"),
    (0x51C, "Jing·Shu·Mei·Tu·Qi·Gu·Zhun·Song·Jing·Liang·Qing·Diao·Ling·Dong·Gan·Jian"),
    (0x51D, "Yin·Cou·Yi·Li·Cang·Ming·Zhun·Cui·Si·Duo·Jin·Lin·Lin·Ning·Xi·Du"),
    (0x51E, "Ji·Fan·Fan·Fan·Feng·Ju·Chu·Tasu·Feng·Mok·Ci·Fu·Feng·Ping·Feng·Kai"),
    (0x51F, "Huang·Kai·Gan·Deng·Ping·Qian·Xiong·Kuai·Tu·Ao·Chu·Ji·Dang·Han·Han·Zao"),
    (0x520, "Dao·Diao·Dao·Ren·Ren·Chuang·Fen·Qie·Yi·Ji·Kan·Qian·Cun·Chu·Wen·Ji"),
    (0x521, "Dan·Xing·Hua·Wan·Jue·Li·Yue·Lie·Liu·Ze·Gang·Chuang·Fu·Chu·Qu·Ju"),
    (0x522, "Shan·Min·Ling·Zhong·Pan·Bie·Jie·Jie·Bao·Li·Shan·Bie·Chan·Jing·Gua·Gen"),
    (0x523, "Dao·Chuang·Kui·Ku·Duo·Er·Zhi·Shua·Quan·Cha·Ci·Ke·Jie·Gui·Ci·Gui"),
    (0x524, "Kai·Duo·Ji·Ti·Jing·Lou·Gen·Ze·Yuan·Cuo·Xue·Ke·La·Qian·Cha·Chuang"),
    (0x525, "Gua·Jian·Cuo·Li·Ti·Fei·Pou·Chan·Qi·Chuang·Zi·Gang·Wan·Bo·Ji·Duo"),
    (0x526, "Qing·Yan·Zhuo·Jian·Ji·Bo·Yan·Ju·Huo·Sheng·Jian·Duo·Duan·Wu·Gua·Fu"),
    (0x527, "Sheng·Jian·Ge·Zha·Kai·Chuang·Juan·Chan·Tuan·Lu·Li·Fou·Shan·Piao·Kou·Jiao"),
    (0x528, "Gua·Qiao·Jue·Hua·Zha·Zhuo·Lian·Ju·Pi·Liu·Gui·Jiao·Gui·Jian·Jian·Tang"),
    (0x529, "Huo·Ji·Jian·Yi·Jian·Zhi·Chan·Cuan·Mo·Li·Zhu·Li·Ya·Quan·Ban·Gong"),
    (0x52A, "Jia·Wu·Mai·Lie·Jin·Keng·Xie·Zhi·Dong·Zhu·Nu·Jie·Qu·Shao·Yi·Zhu"),
    (0x52B, "Miao·Li·Jing·Lao·Lao·Juan·Kou·Yang·Wa·Xiao·Mou·Kuang·Jie·Lie·He·Shi"),
    (0x52C, "Ke·Jing·Hao·Bo·Min·Chi·Lang·Yong·Yong·Mian·Ke·Xun·Juan·Qing·Lu·Pou"),
    (0x52D, "Meng·Lai·Le·Kai·Mian·Dong·Xu·Xu·Kan·Wu·Yi·Xun·Weng·Sheng·Lao·Mu"),
    (0x52E, "Lu·Piao·Shi·Ji·Qin·Qiang·Jiao·Quan·Yang·Yi·Jue·Fan·Juan·Tong·Ju·Dan"),
    (0x52F, "Xie·Mai·Xun·Xun·Lu·Li·Che·Rang·Quan·Bao·Shao·Yun·Jiu·Bao·Gou·Wu"),
    (0x530, "Yun·Mang·Nai·Gai·Gai·Bao·Cong··Xiong·Peng·Ju·Tao·Ge·Pu·An·Pao"),
    (0x531, "Fu·Gong·Da·Jiu·Qiong·Bi·Hua·Bei·Nao·Chi·Fang·Jiu·Yi·Za·Jiang·Kang"),
    (0x532, "Jiang·Kuang·Hu·Xia·Qu·Bian·Gui·Qie·Zang·Kuang·Fei·Hu·Tou·Gui·Gui·Hui"),
    (0x533, "Dan·Gui·Lian·Lian·Suan·Du·Jiu·Qu·Xi·Pi·Qu·Yi·Qia·Yan·Bian·Ni"),
    (0x534, "Qu·Shi·Xin·Qian·Nian·Sa·Zu·Sheng·Wu·Hui·Ban·Shi·Xi·Wan·Hua·Xie"),
    (0x535, "Wan·Bei·Zu·Zhuo·Xie·Dan·Mai·Nan·Dan·Ji·Bo·Shuai·Bu·Kuang·Bian·Bu"),
    (0x536, "Zhan·Qia·Lu·You·Lu·Xi·Gua·Wo·Xie·Jie·Jie·Wei·Ang·Qiong·Zhi·Mao"),
    (0x537, "Yin·Wei·Shao·Ji·Que·Luan·Shi·Juan·Xie·Xu·Jin·Que·Wu·Ji·E·Qing"),
    (0x538, "Xi··Han·Zhan·E·Ting·Li·Zhe·Han·Li·Ya·Ya·Yan·She·Zhi·Zha"),
    (0x539, "Pang··He·Ya·Zhi·Ce·Pang·Ti·Li·She·Hou·Ting·Zui·Cuo·Fei·Yuan"),
    (0x53A, "Ce·Yuan·Xiang·Yan·Li·Jue·Sha·Dian·Chu·Jiu·Qin·Ao·Gui·Yan·Si·Li"),
    (0x53B, "Chang·Lan·Li·Yan·Yan·Yuan·Si·Si·Lin·Qiu·Qu·Qu·Uk·Lei·Du·Xian"),
    (0x53C, "Zhuan·San·Can·Can·San·Can·Ai·Dai·You·Cha·Ji·You·Shuang·Fan·Shou·Guai"),
    (0x53D, "Ba·Fa·Ruo·Shi·Shu·Zhuo·Qu·Shou·Bian·Xu·Jia·Pan·Sou·Gao·Wei·Sou"),
    (0x53E, "Die·Rui·Cong·Kou·Gu·Ju·Ling·Gua·Tao·Kou·Zhi·Jiao·Zhao·Ba·Ding·Ke"),
    (0x53F, "Tai·Chi·Shi·You·Qiu·Po·Ye·Hao·Si·Tan·Chi·Le·Diao·Ji·Liao·Hong"),
    (0x540, "Mie·Xu·Xu·Chi·Ge·Xuan·Yao·Zi·He·Ji·Diao·Cun·Tong·Ming·Hou·Li"),
    (0x541, "Tu·Xiang·Zha·Xia·Ye·Lu·A·Ma·Ou·Xue·Yi·Jun·Chou·Lin·Tun·Yin"),
    (0x542, "Fei·Bi·Qin·Qin·Jie·Bu·Fou·Ba·Dun·Fen·E·Han·Ting·Hang·Shun·Qi"),
    (0x543, "Hong·Zhi·Shen·Wu·Wu·Chao·Ne·Xue·Xi·Chui·Dou·Wen·Hou·Ou·Wu·Gao"),
    (0x544, "Ya·Jun·Lu·E·Ge·Mei·Ai·Qi·Cheng·Wu·Gao·Fu·Jiao·Hong·Chi·Sheng"),
    (0x545, "Ne·Tun·Fu·Yi·Dai·Ou·Li·Bai·Yuan·Guai··Qiang·Wu·E·Shi·Quan"),
    (0x546, "Pen·Wen·Ni·M·Ling·Ran·You·Di·Zhou·Shi·Zhou·Tie·Xi·Yi·Qi·Ping"),
    (0x547, "Zi·Gu·Zi·Wei·Xu·He·Nao·Xia·Pei·Yi·Xiao·Shen·Hu·Ming·Da·Qu"),
    (0x548, "Ju·Gem·Za·Tuo·Duo·Pou·Pao·Bi·Fu·Yang·He·Zha·He·Hai·Jiu·Yong"),
    (0x549, "Fu·Que·Zhou·Wa·Ka·Gu·Ka·Zuo·Bu·Long·Dong·Ning·Tha·Si·Xian·Huo"),
    (0x54A, "Qi·Er·E·Guang·Zha·Xi·Yi·Lie·Zi·Mie·Mi·Zhi·Yao·Ji·Zhou·Ge"),
    (0x54B, "Shuai·Zan·Xiao·Ke·Hui·Kua·Huai·Tao·Xian·E·Xuan·Xiu·Wai·Yan·Lao·Yi"),
    (0x54C, "Ai·Pin·Shen·Tong·Hong·Xiong·Chi·Wa·Ha·Zai·Yu·Di·Pai·Xiang·Ai·Hen"),
    (0x54D, "Kuang·Ya·Da·Xiao·Bi·Yue··Hua·Sasou·Kuai·Duo··Ji·Nong·Mou·Yo"),
    (0x54E, "Hao·Yuan·Long·Pou·Mang·Ge·E·Chi·Shao·Li·Na·Zu·He·Ku·Xiao·Xian"),
    (0x54F, "Lao·Bo·Zhe·Zha·Liang·Ba·Mie·Le·Sui·Fou·Bu·Han·Heng·Geng·Shuo·Ge"),
    (0x550, "You·Yan·Gu·Gu·Bai·Han·Suo·Chun·Yi·Ai·Jia·Tu·Xian·Huan·Li·Xi"),
    (0x551, "Tang·Zuo·Qiu·Che·Wu·Zao·Ya·Dou·Qi·Di·Qin·Ma·Mal·Hong·Dou·Kes"),
    (0x552, "Lao·Liang·Suo·Zao·Huan·Lang·Sha·Ji·Zuo·Wo·Feng·Yin·Hu·Qi·Shou·Wei"),
    (0x553, "Shua·Chang·Er·Li·Qiang·An·Jie·Yo·Nian·Yu·Tian·Lai·Sha·Xi·Tuo·Hu"),
    (0x554, "Ai·Zhou·Nou·Ken·Zhuo·Zhuo·Shang·Di·Heng·Lan·A·Xiao·Xiang·Tun·Wu·Wen"),
    (0x555, "Cui·Sha·Hu·Qi·Qi·Tao·Dan·Dan·Ye·Zi·Bi·Cui·Chuo·He·Ya·Qi"),
    (0x556, "Zhe·Pei·Liang·Xian·Pi·Sha·La·Ze·Qing·Gua·Pa·Zhe·Se·Zhuan·Nie·Guo"),
    (0x557, "Luo·Yan·Di·Quan·Tan·Bo·Ding·Lang·Xiao··Tang·Chi·Ti·An·Jiu·Dan"),
    (0x558, "Ke·Yong·Wei·Nan·Shan·Yu·Zhe·La·Jie·Hou·Han·Die·Zhou·Chai·Wai·Re"),
    (0x559, "Yu·Yin·Zan·Yao·Wo·Mian·Hu·Yun·Chuan·Hui·Huan·Huan·Xi·He·Ji·Kui"),
    (0x55A, "Zhong·Wei·Sha·Xu·Huang·Du·Nie·Xuan·Liang·Yu·Sang·Chi·Qiao·Yan·Dan·Pen"),
    (0x55B, "Can·Li·Yo·Zha·Wei·Miao·Ying·Pen·Phos·Kui·Xi·Yu·Jie·Lou·Ku·Sao"),
    (0x55C, "Huo·Ti·Yao·He·A·Xiu·Qiang·Se·Yong·Su·Hong·Xie·Yi·Suo·Ma·Cha"),
    (0x55D, "Hai·Ke·Ta·Sang·Tian·Ru·Sou·Wa·Ji·Pang·Wu·Xian·Shi·Ge·Zi·Jie"),
    (0x55E, "Luo·Weng·Wa·Si·Chi·Hao·Suo·Jia·Hai·Suo·Qin·Nie·He·Cis·Sai·Ng"),
    (0x55F, "Ge·Na·Dia·Ai··Tong·Bi·Ao·Ao·Lian·Cui·Zhe·Mo·Sou·Sou·Tan"),
    (0x560, "Di·Qi·Jiao·Chong·Jiao·Kai·Tan·San·Cao·Jia·Ai·Xiao·Piao·Lou·Ga·Gu"),
    (0x561, "Xiao·Hu·Hui·Guo·Ou·Xian·Ze·Chang·Xu·Po·De·Ma·Ma·Hu·Lei·Du"),
    (0x562, "Ga·Tang·Ye·Beng·Ying·Saai·Jiao·Mi·Xiao·Hua·Mai·Ran·Zuo·Peng·Lao·Xiao"),
    (0x563, "Ji·Zhu·Chao·Kui·Zui·Xiao·Si·Hao·Fu·Liao·Qiao·Xi·Xiu·Tan·Tan·Mo"),
    (0x564, "Xun·E·Zun·Fan·Chi·Hui·Zan·Chuang·Cu·Dan·Yu·Tun·Cheng·Jiao·Ye·Xi"),
    (0x565, "Qi·Hao·Lian·Xu·Deng·Hui·Yin·Pu·Jue·Qin·Xun·Nie·Lu·Si·Yan·Ying"),
    (0x566, "Da·Dan·Yu·Zhou·Jin·Nong·Yue·Hui·Qi·E·Zao·Yi·Shi·Jiao·Yuan·Ai"),
    (0x567, "Yong·Jue·Kuai·Yu·Pen·Dao·Ge·Xin·Dun·Dang·Sin·Sai·Pi·Pi·Yin·Zui"),
    (0x568, "Ning·Di·Lan·Ta·Huo·Ru·Hao·Xia·Ya·Duo·Xi·Chou·Ji·Jin·Hao·Ti"),
    (0x569, "Chang···Ca·Ti·Lu·Hui·Bo·You·Nie·Yin·Hu·Mo·Huang·Zhe·Li"),
    (0x56A, "Liu·Haai·Nang·Xiao·Mo·Yan·Li·Lu·Long·Fu·Dan·Chen·Pin·Pi·Xiang·Huo"),
    (0x56B, "Mo·Xi·Duo·Ku·Yan·Chan·Ying·Rang·Dian·La·Ta·Xiao·Jiao·Chuo·Huan·Huo"),
    (0x56C, "Zhuan·Nie·Xiao·Ca·Li·Chan·Chai·Li·Yi·Luo·Nang·Zan·Su·Xi·So·Jian"),
    (0x56D, "Za·Zhu·Lan·Nie·Nang···Wei·Hui·Yin·Qiu·Si·Nin·Jian·Hui·Xin"),
    (0x56E, "Yin·Nan·Tuan·Tuan·Dun·Kang·Yuan·Jiong·Pian·Yun·Cong·Hu·Hui·Yuan·You·Guo"),
    (0x56F, "Kun·Cong·Wei·Tu·Wei·Lun·Guo·Qun·Ri·Ling·Gu·Guo·Tai·Guo·Tu·You"),
    (0x570, "Guo·Yin·Hun·Pu·Yu·Han·Yuan·Lun·Quan·Yu·Qing·Guo·Chuan·Wei·Yuan·Quan"),
    (0x571, "Ku·Fu·Yuan·Yuan·E·Tu·Tu·Tu·Tuan·Lue·Hui·Yi·Yuan·Luan·Luan·Tu"),
    (0x572, "Ya·Tu·Ting·Sheng·Pu·Lu·Iri·Ya·Zai·Wei·Ge·Yu·Wu·Gui·Pi·Yi"),
    (0x573, "Di·Qian·Qian·Zhen·Zhuo·Dang·Qia·Akutsu·Yama·Kuang·Chang·Qi·Nie·Mo·Ji·Jia"),
    (0x574, "Zhi·Zhi·Ban·Xun·Tou·Qin·Fen·Jun·Keng·Tun·Fang·Fen·Ben·Tan·Kan·Pi"),
    (0x575, "Zuo·Keng·Bi·Xing·Di·Jing·Ji·Kuai·Di·Jing·Jian·Tan·Li·Ba·Wu·Fen"),
    (0x576, "Zhui·Po·Pan·Tang·Kun·Qu·Tan·Zhi·Tuo·Gan·Ping·Dian·Gua·Ni·Tai·Pi"),
    (0x577, "Jiong·Yang·Fo·Ao·Liu·Qiu·Mu·Ke·Gou·Xue·Ba·Chi·Che·Ling·Zhu·Fu"),
    (0x578, "Hu·Zhi·Chui·La·Long·Long·Lu·Ao·Tay·Pao··Xing·Dong·Ji·Ke·Lu"),
    (0x579, "Ci·Chi·Lei·Gai·Yin·Hou·Dui·Zhao·Fu·Guang·Yao·Duo·Duo·Gui·Cha·Yang"),
    (0x57A, "Yin·Fa·Gou·Yuan·Die·Xie·Ken·Jiong·Shou·E·Ha·Dian·Hong·Wu·Kua"),
    (0x57B, "Tao·Dang·Kai·Gake·Nao·An·Xing·Xian·Huan·Bang·Pei·Ba·Yi·Yin·Han·Xu"),
    (0x57C, "Chui·Cen·Geng·Ai·Peng·Fang·Que·Yong·Xun·Jia·Di·Mai·Lang·Xuan·Cheng·Yan"),
    (0x57D, "Jin·Zhe·Lei·Lie·Bu·Cheng·Gomi·Bu·Shi·Xun·Guo·Jiong·Ye·Nian·Di·Yu"),
    (0x57E, "Bu·Ya·Juan·Sui·Pi·Cheng·Wan·Ju·Lun·Zheng·Kong·Chong·Dong·Dai·Tan·An"),
    (0x57F, "Cai·Shu·Beng·Kan·Zhi·Duo·Yi·Zhi·Yi·Pei·Ji·Zhun·Qi·Sao·Ju·Ni"),
    (0x580, "Ku·Ke·Tang·Kun·Ni·Jian·Dui·Jin·Gang·Yu·E·Peng·Gu·Tu·Leng"),
    (0x581, "Ya·Qian··An··Duo·Nao·Tu·Cheng·Yin·Hun·Bi·Lian·Guo·Die·Zhuan"),
    (0x582, "Hou·Bao·Bao·Yu·Di·Mao·Jie·Ruan·E·Geng·Kan·Zong·Yu·Huang·E·Yao"),
    (0x583, "Yan·Bao·Ji·Mei·Chang·Du·Tuo·Yin·Feng·Zhong·Jie·Zhen·Feng·Gang·Chuan·Jian"),
    (0x584, "Pyeng·Toride·Xiang·Huang·Leng·Duan··Xuan·Ji·Ji·Kuai·Ying·Ta·Cheng·Yong·Kai"),
    (0x585, "Su·Su·Shi·Mi·Ta·Weng·Cheng·Tu·Tang·Que·Zhong·Li·Peng·Bang·Sai·Zang"),
    (0x586, "Dui·Tian·Wu·Cheng·Xun·Ge·Zhen·Ai·Gong·Yan·Kan·Tian·Yuan·Wen·Xie·Liu"),
    (0x587, "Ama·Lang·Chang·Peng·Beng·Chen·Cu·Lu·Ou·Qian·Mei·Mo·Zhuan·Shuang·Shu·Lou"),
    (0x588, "Chi·Man·Biao·Jing·Qi·Shu·Di·Zhang·Kan·Yong·Dian·Chen·Zhi·Xi·Guo·Qiang"),
    (0x589, "Jin·Di·Shang·Mu·Cui·Yan·Ta·Zeng·Qi·Qiang·Liang··Zhui·Qiao·Zeng·Xu"),
    (0x58A, "Shan·Shan·Ba·Pu·Kuai·Dong·Fan·Que·Mo·Dun·Dun·Dun·Di·Sheng·Duo·Duo"),
    (0x58B, "Tan·Deng·Wu·Fen·Huang·Tan·Da·Ye·Sho·Mama·Yu·Qiang·Ji·Qiao·Ken·Yi"),
    (0x58C, "Pi·Bi·Dian·Jiang·Ye·Yong·Bo·Tan·Lan·Ju·Huai·Dang·Rang·Qian·Xun·Lan"),
    (0x58D, "Xi·He·Ai·Ya·Dao·Hao·Ruan·Jin·Lei·Kuang·Lu·Yan·Tan·Wei·Huai·Long"),
    (0x58E, "Long·Rui·Li·Lin·Rang·Ten·Xun·Yan·Lei·Ba··Shi·Ren··Zhuang·Zhuang"),
    (0x58F, "Sheng·Yi·Mai·Ke·Zhu·Zhuang·Hu·Hu·Kun·Yi·Hu·Xu·Kun·Shou·Mang·Zun"),
    (0x590, "Shou·Yi·Zhi·Gu·Chu·Jiang·Feng·Bei·Cay·Bian·Sui·Qun·Ling·Fu·Zuo·Xia"),
    (0x591, "Xiong··Nao·Xia·Kui·Xi·Wai·Yuan·Mao·Su·Duo·Duo·Ye·Qing·Uys·Gou"),
    (0x592, "Gou·Qi·Meng·Meng·Yin·Huo·Chen·Da·Ze·Tian·Tai·Fu·Guai·Yao·Yang·Hang"),
    (0x593, "Gao·Shi·Ben·Tai·Tou·Yan·Bi·Yi·Kua·Jia·Duo·Kwu·Kuang·Yun·Jia·Pa"),
    (0x594, "En·Lian·Huan·Di·Yan·Pao·Quan·Qi·Nai·Feng·Xie·Fen·Dian··Kui·Zou"),
    (0x595, "Huan·Qi·Kai·Zha·Ben·Yi·Jiang·Tao·Zang·Ben·Xi·Xiang·Fei·Diao·Xun·Keng"),
    (0x596, "Dian·Ao·She·Weng·Pan·Ao·Wu·Ao·Jiang·Lian·Duo·Yun·Jiang·Shi·Fen·Huo"),
    (0x597, "Bi·Lian·Duo·Nu·Nu·Ding·Nai·Qian·Jian·Ta·Jiu·Nan·Cha·Hao·Xian·Fan"),
    (0x598, "Ji·Shuo·Ru·Fei·Wang·Hong·Zhuang·Fu·Ma·Dan·Ren·Fu·Jing·Yan·Xie·Wen"),
    (0x599, "Zhong·Pa·Du·Ji·Keng·Zhong·Yao·Jin·Yun·Miao·Pei·Shi·Yue·Zhuang·Niu·Yan"),
    (0x59A, "Na·Xin·Fen·Bi·Yu·Tuo·Feng·Yuan·Fang·Wu·Yu·Gui·Du·Ba·Ni·Zhou"),
    (0x59B, "Zhuo·Zhao·Da·Nai·Yuan·Tou·Xuan·Zhi·E·Mei·Mo·Qi·Bi·Shen·Qie·E"),
    (0x59C, "He·Xu·Fa·Zheng·Min·Ban·Mu·Fu·Ling·Zi·Zi·Shi·Ran·Shan·Yang·Man"),
    (0x59D, "Jie·Gu·Si·Xing·Wei·Zi·Ju·Shan·Pin·Ren·Yao·Tong·Jiang·Shu·Ji·Gai"),
    (0x59E, "Shang·Kuo·Juan·Jiao·Gou·Lao·Jian·Jian·Yi·Nian·Zhi·Ji·Ji·Xian·Heng·Guang"),
    (0x59F, "Jun·Kua·Yan·Ming·Lie·Pei·Yan·You·Yan·Cha·Xian·Yin·Chi·Gui·Quan·Zi"),
    (0x5A0, "Song·Wei·Hong·Wa·Lou·Ya·Rao·Jiao·Luan·Ping·Xian·Shao·Li·Cheng·Xiao·Mang"),
    (0x5A1, "Fu·Suo·Wu·Wei·Ke·Lai·Chuo·Ding·Niang·Xing·Nan·Yu·Nuo·Pei·Nei·Juan"),
    (0x5A2, "Shen·Zhi·Han·Di·Zhuang·E·Pin·Tui·Han·Mian·Wu·Yan·Wu·Xi·Yan·Yu"),
    (0x5A3, "Si·Yu·Wa··Xian·Ju·Qu·Shui·Qi·Xian·Zhui·Dong·Chang·Lu·Ai·E"),
    (0x5A4, "E·Lou·Mian·Cong·Pou·Ju·Po·Cai·Ding·Wan·Biao·Xiao·Shu·Qi·Hui·Fu"),
    (0x5A5, "E·Wo·Tan·Fei·Wei·Jie·Tian·Ni·Quan·Jing·Hun·Jing·Qian·Dian·Xing·Hu"),
    (0x5A6, "Wa·Lai·Bi·Yin·Chou·Chuo·Fu·Jing·Lun·Yan·Lan·Kun·Yin·Ya·Ju·Li"),
    (0x5A7, "Dian·Xian·Hwa·Hua·Ying·Chan·Shen·Ting·Dang·Yao·Wu·Nan·Ruo·Jia·Tou·Xu"),
    (0x5A8, "Yu·Wei·Ti·Rou·Mei·Dan·Ruan·Qin·Hui·Wu·Qian·Chun·Mao·Fu·Jie·Duan"),
    (0x5A9, "Xi·Zhong·Mei·Huang·Mian·An·Ying·Xuan·Jie·Wei·Mei·Yuan·Zhen·Qiu·Ti·Xie"),
    (0x5AA, "Tuo·Lian·Mao·Ran·Si·Pian·Wei·Wa·Jiu·Hu·Ao··Bou·Xu·Tou·Gui"),
    (0x5AB, "Zou·Yao·Pi·Xi·Yuan·Ying·Rong·Ru·Chi·Liu·Mei·Pan·Ao·Ma·Gou·Kui"),
    (0x5AC, "Qin·Jia·Sao·Zhen·Yuan·Cha·Yong·Ming·Ying·Ji·Su·Niao·Xian·Tao·Pang·Lang"),
    (0x5AD, "Nao·Bao·Ai·Pi·Pin·Yi·Piao·Yu·Lei·Xuan·Man·Yi·Zhang·Kang·Yong·Ni"),
    (0x5AE, "Li·Di·Gui·Yan·Jin·Zhuan·Chang·Ce·Han·Nen·Lao·Mo·Zhe·Hu·Hu·Ao"),
    (0x5AF, "Nen·Qiang·Ma·Pie·Gu·Wu·Jiao·Tuo·Zhan·Mao·Xian·Xian·Mo·Liao·Lian·Hua"),
    (0x5B0, "Gui·Deng·Zhi·Xu··Hua·Xi·Hui·Rao·Xi·Yan·Chan·Jiao·Mei·Fan·Fan"),
    (0x5B1, "Xian·Yi·Wei·Jiao·Fu·Shi·Bi·Shan·Sui·Qiang·Lian·Huan·Xin·Niao·Dong·Yi"),
    (0x5B2, "Can·Ai·Niang·Neng·Ma·Tiao·Chou·Jin·Ci·Yu·Pin·Yong·Xu·Nai·Yan·Tai"),
    (0x5B3, "Ying·Can·Niao·Wo·Ying·Mian·Kaka·Ma·Shen·Xing·Ni·Du·Liu·Yuan·Lan·Yan"),
    (0x5B4, "Shuang·Ling·Jiao·Niang·Lan·Xian·Ying·Shuang·Shuai·Quan·Mi·Li·Luan·Yan·Zhu·Lan"),
    (0x5B5, "Zi·Jie·Jue·Jue·Kong·Yun·Zi·Zi·Cun·Sun·Fu·Bei·Zi·Xiao·Xin·Meng"),
    (0x5B6, "Si·Tai·Bao·Ji·Gu·Nu·Xue··Zhuan·Hai·Luan·Sun·Huai·Mie·Cong·Qian"),
    (0x5B7, "Shu·Chan·Ya·Zi·Ni·Fu·Zi·Li·Xue·Bo·Ru·Lai·Nie·Nie·Ying·Luan"),
    (0x5B8, "Mian·Zhu·Rong·Ta·Gui·Zhai·Qiong·Yu·Shou·An·Tu·Song·Wan·Rou·Yao·Hong"),
    (0x5B9, "Yi·Jing·Zhun·Mi·Zhu·Dang·Hong·Zong·Guan·Zhou·Ding·Wan·Yi·Bao·Shi·Shi"),
    (0x5BA, "Chong·Shen·Ke·Xuan·Shi·You·Huan·Yi·Tiao·Shi·Xian·Gong·Cheng·Qun·Gong·Xiao"),
    (0x5BB, "Zai·Zha·Bao·Hai·Yan·Xiao·Jia·Shen·Chen·Rong·Huang·Mi·Kou·Kuan·Bin·Su"),
    (0x5BC, "Cai·Zan·Ji·Yuan·Ji·Yin·Mi·Kou·Qing·Que·Zhen·Jian·Fu·Ning·Bing·Huan"),
    (0x5BD, "Mei·Qin·Han·Yu·Shi·Ning·Qin·Ning·Zhi·Yu·Bao·Kuan·Ning·Qin·Mo·Cha"),
    (0x5BE, "Ju·Gua·Qin·Hu·Wu·Liao·Shi·Zhu·Zhai·Shen·Wei·Xie·Kuan·Hui·Liao·Jun"),
    (0x5BF, "Huan·Yi·Yi·Bao·Qin·Chong·Bao·Feng·Cun·Dui·Si·Xun·Dao·Lu·Dui·Shou"),
    (0x5C0, "Po·Feng·Zhuan·Fu·She·Ke·Jiang·Jiang·Zhuan·Wei·Zun·Xun·Shu·Dui·Dao·Xiao"),
    (0x5C1, "Ji·Shao·Er·Er·Er·Ga·Jian·Shu·Chen·Shang·Shang·Mo·Ga·Chang·Liao·Xian"),
    (0x5C2, "Xian··Wang·Wang·You·Liao·Liao·Yao·Mang·Wang·Wang·Wang·Ga·Yao·Duo·Kui"),
    (0x5C3, "Zhong·Jiu·Gan·Gu·Gan·Tui·Gan·Gan·Shi·Yin·Chi·Kao·Ni·Jin·Wei·Niao"),
    (0x5C4, "Ju·Pi·Ceng·Xi·Bi·Ju·Jie·Tian·Qu·Ti·Jie·Wu·Diao·Shi·Shi·Ping"),
    (0x5C5, "Ji·Xie·Chen·Xi·Ni·Zhan·Xi··Man·E·Lou·Ping·Ti·Fei·Shu·Xie"),
    (0x5C6, "Tu·Lu·Lu·Xi·Ceng·Lu·Ju·Xie·Ju·Jue·Liao·Jue·Shu·Xi·Che·Tun"),
    (0x5C7, "Ni·Shan··Xian·Li·Xue·Nata··Long·Yi·Qi·Ren·Wu·Han·Shen·Yu"),
    (0x5C8, "Chu·Sui·Qi··Yue·Ban·Yao·Ang·Ya·Wu·Jie·E·Ji·Qian·Fen·Yuan"),
    (0x5C9, "Qi·Cen·Qian·Qi·Cha·Jie·Qu·Gang·Xian·Ao·Lan·Dao·Ba·Zuo·Zuo·Yang"),
    (0x5CA, "Ju·Gang·Ke·Gou·Xue·Bei·Li·Tiao·Ju·Yan·Fu·Xiu·Jia·Ling·Tuo·Pei"),
    (0x5CB, "You·Dai·Kuang·Yue·Qu·Hu·Po·Min·An·Tiao·Ling·Chi·Yuri·Dong·Cem·Kui"),
    (0x5CC, "Xiu·Mao·Tong·Xue·Yi·Kura·He·Ke·Luo·E·Fu·Xun·Die·Lu·An·Er"),
    (0x5CD, "Gai·Quan·Tong·Yi·Mu·Shi·An·Wei·Hu·Zhi·Mi·Li·Ji·Tong·Wei·You"),
    (0x5CE, "Sang·Xia·Li·Yao·Jiao·Zheng·Luan·Jiao·E·E·Yu·Ye·Bu·Qiao·Qun·Feng"),
    (0x5CF, "Feng·Nao·Li·You·Xian·Hong·Dao·Shen·Cheng·Tu·Geng·Jun·Hao·Xia·Yin·Yu"),
    (0x5D0, "Lang·Kan·Lao·Lai·Xian·Que·Kong·Chong·Chong·Ta·Lin·Hua·Ju·Lai·Qi·Min"),
    (0x5D1, "Kun·Kun·Zu·Gu·Cui·Ya·Ya·Gang·Lun·Lun·Leng·Jue·Duo·Zheng·Guo·Yin"),
    (0x5D2, "Dong·Han·Zheng·Wei·Yao·Pi·Yan·Song·Jie·Beng·Zu·Jue·Dong·Zhan·Gu·Yin"),
    (0x5D3, "·Ze·Huang·Yu·Wei·Yang·Feng·Qiu·Dun·Ti·Yi·Zhi·Shi·Zai·Yao·E"),
    (0x5D4, "Zhu·Kan·Lu·Yan·Mei·Gan·Ji·Ji·Huan·Ting·Sheng·Mei·Qian·Wu·Yu·Zong"),
    (0x5D5, "Lan·Jue·Yan·Yan·Wei·Zong·Cha·Sui·Rong·Yamashina·Qin·Yu·Kewashii·Lou·Tu·Dui"),
    (0x5D6, "Xi·Weng·Cang·Dang·Hong·Jie·Ai·Liu·Wu·Song·Qiao·Zi·Wei·Beng·Dian·Cuo"),
    (0x5D7, "Qian·Yong·Nie·Cuo·Ji··Tao·Song·Zong·Jiang·Liao·Kang·Chan·Die·Cen·Ding"),
    (0x5D8, "Tu·Lou·Zhang·Zhan·Zhan·Ao·Cao·Qu·Qiang·Zui·Zui·Dao·Dao·Xi·Yu·Bo"),
    (0x5D9, "Long·Xiang·Ceng·Bo·Qin·Jiao·Yan·Lao·Zhan·Lin·Liao·Liao·Jin·Deng·Duo·Zun"),
    (0x5DA, "Jiao·Gui·Yao·Qiao·Yao·Jue·Zhan·Yi·Xue·Nao·Ye·Ye·Yi·E·Xian·Ji"),
    (0x5DB, "Xie·Ke·Xi·Di·Ao·Zui··Ni·Rong·Dao·Ling·Za·Yu·Yue·Yin"),
    (0x5DC, "Jie·Li·Sui·Long·Long·Dian·Ying·Xi·Ju·Chan·Ying·Kui·Yan·Wei·Nao·Quan"),
    (0x5DD, "Chao·Cuan·Luan·Dian·Dian··Yan·Yan·Yan·Nao·Yan·Chuan·Gui·Chuan·Zhou·Huang"),
    (0x5DE, "Jing·Xun·Chao·Chao·Lie·Gong·Zuo·Qiao·Ju·Gong·Kek·Wu·Pwu·Pwu·Chai·Qiu"),
    (0x5DF, "Qiu·Ji·Yi·Si·Ba·Zhi·Zhao·Xiang·Yi·Jin·Xun·Juan·Phas·Xun·Jin·Fu"),
    (0x5E0, "Za·Bi·Shi·Bu·Ding·Shuai·Fan·Nie·Shi·Fen·Pa·Zhi·Xi·Hu·Dan·Wei"),
    (0x5E1, "Zhang·Tang·Dai·Ma·Pei·Pa·Tie·Fu·Lian·Zhi·Zhou·Bo·Zhi·Di·Mo·Yi"),
    (0x5E2, "Yi·Ping·Qia·Juan·Ru·Shuai·Dai·Zheng·Shui·Qiao·Zhen·Shi·Qun·Xi·Bang·Dai"),
    (0x5E3, "Gui·Chou·Ping·Zhang·Sha·Wan·Dai·Wei·Chang·Sha·Qi·Ze·Guo·Mao·Du·Hou"),
    (0x5E4, "Zheng·Xu·Mi·Wei·Wo·Fu·Yi·Bang·Ping·Tazuna·Gong·Pan·Huang·Dao·Mi·Jia"),
    (0x5E5, "Teng·Hui·Zhong·Shan·Man·Mu·Biao·Guo·Ze·Mu·Bang·Zhang·Jiong·Chan·Fu·Zhi"),
    (0x5E6, "Hu·Fan·Chuang·Bi·Hei··Mi·Qiao·Chan·Fen·Meng·Bang·Chou·Mie·Chu·Jie"),
    (0x5E7, "Xian·Lan·Gan·Ping·Nian·Qian·Bing·Bing·Xing·Gan·Yao·Huan·You·You·Ji·Yan"),
    (0x5E8, "Pi·Ting·Ze·Guang·Zhuang·Mo·Qing·Bi·Qin·Dun·Chuang·Gui·Ya·Bai·Jie·Xu"),
    (0x5E9, "Lu·Wu··Ku·Ying·Di·Pao·Dian·Ya·Miao·Geng·Ci·Fu·Tong·Pang·Fei"),
    (0x5EA, "Xiang·Yi·Zhi·Tiao·Zhi·Xiu·Du·Zuo·Xiao·Tu·Gui·Ku·Pang·Ting·You·Bu"),
    (0x5EB, "Ding·Cheng·Lai·Bei·Ji·An·Shu·Kang·Yong·Tuo·Song·Shu·Qing·Yu·Yu·Miao"),
    (0x5EC, "Sou·Ce·Xiang·Fei·Jiu·He·Hui·Liu·Sha·Lian·Lang·Sou·Jian·Pou·Qing·Jiu"),
    (0x5ED, "Jiu·Qin·Ao·Kuo·Lou·Yin·Liao·Dai·Lu·Yi·Chu·Chan·Tu·Si·Xin·Miao"),
    (0x5EE, "Chang·Wu·Fei·Guang·Koc·Kuai·Bi·Qiang·Xie·Lin·Lin·Liao·Lu··Ying·Xian"),
    (0x5EF, "Ting·Yong·Li·Ting·Yin·Xun·Yan·Ting·Di·Po·Jian·Hui·Nai·Hui·Gong·Nian"),
    (0x5F0, "Kai·Bian·Yi·Qi·Nong·Fen·Ju·Yan·Yi·Zang·Bi·Yi·Yi·Er·San·Shi"),
    (0x5F1, "Er·Shi·Shi·Gong·Diao·Yin·Hu·Fu·Hong·Wu·Di·Chi·Jiang·Ba·Shen·Di"),
    (0x5F2, "Zhang·Jue·Tao·Fu·Di·Mi·Xian·Hu·Chao·Nu·Jing·Zhen·Yi·Mi·Quan·Wan"),
    (0x5F3, "Shao·Ruo·Xuan·Jing·Dun·Zhang·Jiang·Qiang·Peng·Dan·Qiang·Bi·Bi·She·Dan·Jian"),
    (0x5F4, "Gou·Sei·Fa·Bi·Kou·Nagi·Bie·Xiao·Dan·Kuo·Qiang·Hong·Mi·Kuo·Wan·Jue"),
    (0x5F5, "Ji·Ji·Gui·Dang·Lu·Lu·Tuan·Hui·Zhi·Hui·Hui·Yi·Yi·Yi·Yi·Huo"),
    (0x5F6, "Huo·Shan·Xing·Wen·Tong·Yan·Yan·Yu·Chi·Cai·Biao·Diao·Bin·Peng·Yong·Piao"),
    (0x5F7, "Zhang·Ying·Chi·Chi·Zhuo·Tuo·Ji·Pang·Zhong·Yi·Wang·Che·Bi·Chi·Ling·Fu"),
    (0x5F8, "Wang·Zheng·Cu·Wang·Jing·Dai·Xi·Xun·Hen·Yang·Huai·Lu·Hou·Wa·Cheng·Zhi"),
    (0x5F9, "Xu·Jing·Tu·Cong··Lai·Cong·De·Pai·Xi··Qi·Chang·Zhi·Cong·Zhou"),
    (0x5FA, "Lai·Yu·Xie·Jie·Jian·Chi·Jia·Bian·Huang·Fu·Xun·Wei·Pang·Yao·Wei·Xi"),
    (0x5FB, "Zheng·Piao·Chi·De·Zheng·Zheng·Bie·De·Chong·Che·Jiao·Wei·Jiao·Hui·Mei·Long"),
    (0x5FC, "Xiang·Bao·Qu·Xin·Shu·Bi·Yi·Le·Ren·Dao·Ding·Gai·Ji·Ren·Ren·Chan"),
    (0x5FD, "Tan·Te·Te·Gan·Qi·Shi·Cun·Zhi·Wang·Mang·Xi·Fan·Ying·Tian·Min·Min"),
    (0x5FE, "Zhong·Chong·Wu·Ji·Wu·Xi·Ye·You·Wan·Zong·Zhong·Kuai·Yu·Bian·Zhi·Qi"),
    (0x5FF, "Cui·Chen·Tai·Tun·Qian·Nian·Hun·Xiong·Niu·Wang·Xian·Xin·Kang·Hu·Kai·Fen") ]

end Snippet.Spelling
