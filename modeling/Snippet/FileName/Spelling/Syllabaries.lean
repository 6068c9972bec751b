/-! Spellings of the Ethiopic, Cherokee, Canadian, Yi and Vai syllables. -/

set_option autoImplicit false

namespace Snippet.Spelling

def syllabaries : List (Nat × String) :=
  [ (0x120, "ha·hu·hi·haa·hee·he·ho·hoa·la·lu·li·laa·lee·le·lo·lwa"),
    (0x121, "hha·hhu·hhi·hhaa·hhee·hhe·hho·hhwa·ma·mu·mi·maa·mee·me·mo·mwa"),
    (0x122, "sza·szu·szi·szaa·szee·sze·szo·szwa·ra·ru·ri·raa·ree·re·ro·rwa"),
    (0x123, "sa·su·si·saa·see·se·so·swa·sha·shu·shi·shaa·shee·she·sho·shwa"),
    (0x124, "qa·qu·qi·qaa·qee·qe·qo·qoa·qwa··qwi·qwaa·qwee·qwe"),
    (0x125, "qha·qhu·qhi·qhaa·qhee·qhe·qho··qhwa··qhwi·qhwaa·qhwee·qhwe"),
    (0x126, "ba·bu·bi·baa·bee·be·bo·bwa·va·vu·vi·vaa·vee·ve·vo·vwa"),
    (0x127, "ta·tu·ti·taa·tee·te·to·twa·ca·cu·ci·caa·cee·ce·co·cwa"),
    (0x128, "xa·xu·xi·xaa·xee·xe·xo·xoa·xwa··xwi·xwaa·xwee·xwe"),
    (0x129, "na·nu·ni·naa·nee·ne·no·nwa·nya·nyu·nyi·nyaa·nyee·nye·nyo·nywa"),
    (0x12A, "'a·'u·'i·'aa·'ee·'e·'o·'wa·ka·ku·ki·kaa·kee·ke·ko·koa"),
    (0x12B, "kwa··kwi·kwaa·kwee·kwe···kxa·kxu·kxi·kxaa·kxee·kxe·kxo"),
    (0x12C, "kxwa··kxwi·kxwaa·kxwee·kxwe···wa·wu·wi·waa·wee·we·wo·woa"),
    (0x12D, "\x60a·\x60u·\x60i·\x60aa·\x60ee·\x60e·\x60o··za·zu·zi·zaa·zee·ze·zo·zwa"),
    (0x12E, "zha·zhu·zhi·zhaa·zhee·zhe·zho·zhwa·ya·yu·yi·yaa·yee·ye·yo·yoa"),
    (0x12F, "da·du·di·daa·dee·de·do·dwa·dda·ddu·ddi·ddaa·ddee·dde·ddo·ddwa"),
    (0x130, "ja·ju·ji·jaa·jee·je·jo·jwa·ga·gu·gi·gaa·gee·ge·go·goa"),
    (0x131, "gwa··gwi·gwaa·gwee·gwe···gga·ggu·ggi·ggaa·ggee·gge·ggo·ggwaa"),
    (0x132, "tha·thu·thi·thaa·thee·the·tho·thwa·cha·chu·chi·chaa·chee·che·cho·chwa"),
    (0x133, "pha·phu·phi·phaa·phee·phe·pho·phwa·tsa·tsu·tsi·tsaa·tsee·tse·tso·tswa"),
    (0x134, "tza·tzu·tzi·tzaa·tzee·tze·tzo·tzoa·fa·fu·fi·faa·fee·fe·fo·fwa"),
    (0x135, "pa·pu·pi·paa·pee·pe·po·pwa·rya·mya·fya"), (0x136, "· ·.·,·;·:·:: ·?·//·1·2·3·4·5·6·7"),
    (0x137, "8·9·10+·20+·30+·40+·50+·60+·70+·80+·90+·100+·10,000+"),
    (0x138, "mwa·mwi·mwee·mwe·bwa·bwi·bwee·bwe·fwa·fwi·fwee·fwe·pwa·pwi·pwee·pwe"),
    (0x13A, "a·e·i·o·u·v·ga·ka·ge·gi·go·gu·gv·ha·he·hi"),
    (0x13B, "ho·hu·hv·la·le·li·lo·lu·lv·ma·me·mi·mo·mu·na·hna"),
    (0x13C, "nah·ne·ni·no·nu·nv·qua·que·qui·quo·quu·quv·sa·s·se·si"),
    (0x13D, "so·su·sv·da·ta·de·te·di·ti·do·du·dv·dla·tla·tle·tli"),
    (0x13E, "tlo·tlu·tlv·tsa·tse·tsi·tso·tsu·tsv·wa·we·wi·wo·wu·wv·ya"),
    (0x13F, "ye·yi·yo·yu·yv·mv···ye·yi·yo·yu·yv·mv"),
    (0x140, "-·e·aai·i·ii·o·oo·oo·ee·i·a·aa·we·we·wi·wi"),
    (0x141, "wii·wii·wo·wo·woo·woo·woo·wa·wa·waa·waa·waa·ai·w·'·t"),
    (0x142, "k·sh·s·n·w·n··w·c·?·l·en·in·on·an·pe"),
    (0x143, "paai·pi·pii·po·poo·poo·hee·hi·pa·paa·pwe·pwe·pwi·pwi·pwii·pwii"),
    (0x144, "pwo·pwo·pwoo·pwoo·pwa·pwa·pwaa·pwaa·pwaa·p·p·h·te·taai·ti·tii"),
    (0x145, "to·too·too·dee·di·ta·taa·twe·twe·twi·twi·twii·twii·two·two·twoo"),
    (0x146, "twoo·twa·twa·twaa·twaa·twaa·t·tte·tti·tto·tta·ke·kaai·ki·kii·ko"),
    (0x147, "koo·koo·ka·kaa·kwe·kwe·kwi·kwi·kwii·kwii·kwo·kwo·kwoo·kwoo·kwa·kwa"),
    (0x148, "kwaa·kwaa·kwaa·k·kw·keh·kih·koh·kah·ce·caai·ci·cii·co·coo·coo"),
    (0x149, "ca·caa·cwe·cwe·cwi·cwi·cwii·cwii·cwo·cwo·cwoo·cwoo·cwa·cwa·cwaa·cwaa"),
    (0x14A, "cwaa·c·th·me·maai·mi·mii·mo·moo·moo·ma·maa·mwe·mwe·mwi·mwi"),
    (0x14B, "mwii·mwii·mwo·mwo·mwoo·mwoo·mwa·mwa·mwaa·mwaa·mwaa·m·m·mh·m·m"),
    (0x14C, "ne·naai·ni·nii·no·noo·noo·na·naa·nwe·nwe·nwa·nwa·nwaa·nwaa·nwaa"),
    (0x14D, "n·ng·nh·le·laai·li·lii·lo·loo·loo·la·laa·lwe·lwe·lwi·lwi"),
    (0x14E, "lwii·lwii·lwo·lwo·lwoo·lwoo·lwa·lwa·lwaa·lwaa·l·l·l·se·saai·si"),
    (0x14F, "sii·so·soo·soo·sa·saa·swe·swe·swi·swi·swii·swii·swo·swo·swoo·swoo"),
    (0x150, "swa·swa·swaa·swaa·swaa·s·s·sw·s·sk·skw·s-w·spwa·stwa·skwa·scwa"),
    (0x151, "she·shi·shii·sho·shoo·sha·shaa·shwe·shwe·shwi·shwi·shwii·shwii·shwo·shwo·shwoo"),
    (0x152, "shwoo·shwa·shwa·shwaa·shwaa·sh·ye·yaai·yi·yii·yo·yoo·yoo·ya·yaa·ywe"),
    (0x153, "ywe·ywi·ywi·ywii·ywii·ywo·ywo·ywoo·ywoo·ywa·ywa·ywaa·ywaa·ywaa·y·y"),
    (0x154, "y·yi·re·re·le·raai·ri·rii·ro·roo·lo·ra·raa·la·rwaa·rwaa"),
    (0x155, "r·r·r·fe·faai·fi·fii·fo·foo·fa·faa·fwaa·fwaa·f·the·the"),
    (0x156, "thi·thi·thii·thii·tho·thoo·tha·thaa·thwaa·thwaa·th·tthe·tthi·ttho·ttha·tth"),
    (0x157, "tye·tyi·tyo·tya·he·hi·hii·ho·hoo·ha·haa·h·h·hk·qaai·qi"),
    (0x158, "qii·qo·qoo·qa·qaa·q·tlhe·tlhi·tlho·tlha·re·ri·ro·ra·ngaai·ngi"),
    (0x159, "ngii·ngo·ngoo·nga·ngaa·ng·nng·she·shi·sho·sha·the·thi·tho·tha·th"),
    (0x15A, "lhi·lhii·lho·lhoo·lha·lhaa·lh·the·thi·thii·tho·thoo·tha·thaa·th·b"),
    (0x15B, "e·i·o·a·we·wi·wo·wa·ne·ni·no·na·ke·ki·ko·ka"),
    (0x15C, "he·hi·ho·ha·ghu·gho·ghe·ghee·ghi·gha·ru·ro·re·ree·ri·ra"),
    (0x15D, "wu·wo·we·wee·wi·wa·hwu·hwo·hwe·hwee·hwi·hwa·thu·tho·the·thee"),
    (0x15E, "thi·tha·ttu·tto·tte·ttee·tti·tta·pu·po·pe·pee·pi·pa·p·gu"),
    (0x15F, "go·ge·gee·gi·ga·khu·kho·khe·khee·khi·kha·kku·kko·kke·kkee·kki"),
    (0x160, "kka·kk·nu·no·ne·nee·ni·na·mu·mo·me·mee·mi·ma·yu·yo"),
    (0x161, "ye·yee·yi·ya·ju·ju·jo·je·jee·ji·ji·ja·jju·jjo·jje·jjee"),
    (0x162, "jji·jja·lu·lo·le·lee·li·la·dlu·dlo·dle·dlee·dli·dla·lhu·lho"),
    (0x163, "lhe·lhee·lhi·lha·tlhu·tlho·tlhe·tlhee·tlhi·tlha·tlu·tlo·tle·tlee·tli·tla"),
    (0x164, "zu·zo·ze·zee·zi·za·z·z·dzu·dzo·dze·dzee·dzi·dza·su·so"),
    (0x165, "se·see·si·sa·shu·sho·she·shee·shi·sha·sh·tsu·tso·tse·tsee·tsi"),
    (0x166, "tsa·chu·cho·che·chee·chi·cha·ttsu·ttso·ttse·ttsee·ttsi·ttsa·X·.·qai"),
    (0x167, "ngai·nngi·nngii·nngo·nngoo·nnga·nngaa·thwee·thwi·thwii·thwo·thwoo·thwa·thwaa·th·w"),
    (0x18B, "oy·ay·aay·way·poy·pay·pwoy·tay·kay·kway·may·noy·nay·lay·soy·say"),
    (0x18C, "shoy·shay·shwoy·yoy·yay·ray·nwi·nwi·nwii·nwii·nwo·nwo·nwoo·nwoo·rwee·rwi"),
    (0x18D, "rwii·rwo·rwoo·rwa·p·t·k·c·m·n·s·sh·w·w·ring·dot"),
    (0x18E, "rwe·loo·laa·thwe·thwa·tthwe·tthoo·tthaa·tlhwe·tlhoo·shwe·shoo·hoo·gwu·gee·gaa"),
    (0x18F, "gwa·juu·jwa·l·r·s"),
    (0x2D8, "loa·moa·roa·soa·shoa·boa·toa·coa·noa·nyoa·'oa·zoa·doa·ddoa·joa·thoa"),
    (0x2D9, "choa·phoa·poa·ggwa·ggwi·ggwee·ggwe"),
    (0x2DA, "ssa·ssu·ssi·ssaa·ssee·sse·sso··cca·ccu·cci·ccaa·ccee·cce·cco"),
    (0x2DB, "zza·zzu·zzi·zzaa·zzee·zze·zzo··ccha·cchu·cchi·cchaa·cchee·cche·ccho"),
    (0x2DC, "qya·qyu·qyi·qyaa·qyee·qye·qyo··kya·kyu·kyi·kyaa·kyee·kye·kyo"),
    (0x2DD, "xya·xyu·xyi·xyaa·xyee·xye·xyo··gya·gyu·gyi·gyaa·gyee·gye·gyo"),
    (0xA00, "it·ix·i·ip·iet·iex·ie·iep·at·ax·a·ap·uox·uo·uop·ot"),
    (0xA01, "ox·o·op·ex·e·w·bit·bix·bi·bip·biet·biex·bie·biep·bat·bax"),
    (0xA02, "ba·bap·buox·buo·buop·bot·box·bo·bop·bex·be·bep·but·bux·bu·bup"),
    (0xA03, "burx·bur·byt·byx·by·byp·byrx·byr·pit·pix·pi·pip·piex·pie·piep·pat"),
    (0xA04, "pax·pa·pap·puox·puo·puop·pot·pox·po·pop·put·pux·pu·pup·purx·pur"),
    (0xA05, "pyt·pyx·py·pyp·pyrx·pyr·bbit·bbix·bbi·bbip·bbiet·bbiex·bbie·bbiep·bbat·bbax"),
    (0xA06, "bba·bbap·bbuox·bbuo·bbuop·bbot·bbox·bbo·bbop·bbex·bbe·bbep·bbut·bbux·bbu·bbup"),
    (0xA07, "bburx·bbur·bbyt·bbyx·bby·bbyp·nbit·nbix·nbi·nbip·nbiex·nbie·nbiep·nbat·nbax·nba"),
    (0xA08, "nbap·nbot·nbox·nbo·nbop·nbut·nbux·nbu·nbup·nburx·nbur·nbyt·nbyx·nby·nbyp·nbyrx"),
    (0xA09, "nbyr·hmit·hmix·hmi·hmip·hmiex·hmie·hmiep·hmat·hmax·hma·hmap·hmuox·hmuo·hmuop·hmot"),
    (0xA0A, "hmox·hmo·hmop·hmut·hmux·hmu·hmup·hmurx·hmur·hmyx·hmy·hmyp·hmyrx·hmyr·mit·mix"),
    (0xA0B, "mi·mip·miex·mie·miep·mat·max·ma·map·muot·muox·muo·muop·mot·mox·mo"),
    (0xA0C, "mop·mex·me·mut·mux·mu·mup·murx·mur·myt·myx·my·myp·fit·fix·fi"),
    (0xA0D, "fip·fat·fax·fa·fap·fox·fo·fop·fut·fux·fu·fup·furx·fur·fyt·fyx"),
    (0xA0E, "fy·fyp·vit·vix·vi·vip·viet·viex·vie·viep·vat·vax·va·vap·vot·vox"),
    (0xA0F, "vo·vop·vex·vep·vut·vux·vu·vup·vurx·vur·vyt·vyx·vy·vyp·vyrx·vyr"),
    (0xA10, "dit·dix·di·dip·diex·die·diep·dat·dax·da·dap·duox·duo·dot·dox·do"),
    (0xA11, "dop·dex·de·dep·dut·dux·du·dup·durx·dur·tit·tix·ti·tip·tiex·tie"),
    (0xA12, "tiep·tat·tax·ta·tap·tuot·tuox·tuo·tuop·tot·tox·to·top·tex·te·tep"),
    (0xA13, "tut·tux·tu·tup·turx·tur·ddit·ddix·ddi·ddip·ddiex·ddie·ddiep·ddat·ddax·dda"),
    (0xA14, "ddap·dduox·dduo·dduop·ddot·ddox·ddo·ddop·ddex·dde·ddep·ddut·ddux·ddu·ddup·ddurx"),
    (0xA15, "ddur·ndit·ndix·ndi·ndip·ndiex·ndie·ndat·ndax·nda·ndap·ndot·ndox·ndo·ndop·ndex"),
    (0xA16, "nde·ndep·ndut·ndux·ndu·ndup·ndurx·ndur·hnit·hnix·hni·hnip·hniet·hniex·hnie·hniep"),
    (0xA17, "hnat·hnax·hna·hnap·hnuox·hnuo·hnot·hnox·hnop·hnex·hne·hnep·hnut·nit·nix·ni"),
    (0xA18, "nip·niex·nie·niep·nax·na·nap·nuox·nuo·nuop·not·nox·no·nop·nex·ne"),
    (0xA19, "nep·nut·nux·nu·nup·nurx·nur·hlit·hlix·hli·hlip·hliex·hlie·hliep·hlat·hlax"),
    (0xA1A, "hla·hlap·hluox·hluo·hluop·hlox·hlo·hlop·hlex·hle·hlep·hlut·hlux·hlu·hlup·hlurx"),
    (0xA1B, "hlur·hlyt·hlyx·hly·hlyp·hlyrx·hlyr·lit·lix·li·lip·liet·liex·lie·liep·lat"),
    (0xA1C, "lax·la·lap·luot·luox·luo·luop·lot·lox·lo·lop·lex·le·lep·lut·lux"),
    (0xA1D, "lu·lup·lurx·lur·lyt·lyx·ly·lyp·lyrx·lyr·git·gix·gi·gip·giet·giex"),
    (0xA1E, "gie·giep·gat·gax·ga·gap·guot·guox·guo·guop·got·gox·go·gop·get·gex"),
    (0xA1F, "ge·gep·gut·gux·gu·gup·gurx·gur·kit·kix·ki·kip·kiex·kie·kiep·kat"),
    (0xA20, "kax·ka·kap·kuox·kuo·kuop·kot·kox·ko·kop·ket·kex·ke·kep·kut·kux"),
    (0xA21, "ku·kup·kurx·kur·ggit·ggix·ggi·ggiex·ggie·ggiep·ggat·ggax·gga·ggap·gguot·gguox"),
    (0xA22, "gguo·gguop·ggot·ggox·ggo·ggop·gget·ggex·gge·ggep·ggut·ggux·ggu·ggup·ggurx·ggur"),
    (0xA23, "mgiex·mgie·mgat·mgax·mga·mgap·mguox·mguo·mguop·mgot·mgox·mgo·mgop·mgex·mge·mgep"),
    (0xA24, "mgut·mgux·mgu·mgup·mgurx·mgur·hxit·hxix·hxi·hxip·hxiet·hxiex·hxie·hxiep·hxat·hxax"),
    (0xA25, "hxa·hxap·hxuot·hxuox·hxuo·hxuop·hxot·hxox·hxo·hxop·hxex·hxe·hxep·ngiex·ngie·ngiep"),
    (0xA26, "ngat·ngax·nga·ngap·nguot·nguox·nguo·ngot·ngox·ngo·ngop·ngex·nge·ngep·hit·hiex"),
    (0xA27, "hie·hat·hax·ha·hap·huot·huox·huo·huop·hot·hox·ho·hop·hex·he·hep"),
    (0xA28, "wat·wax·wa·wap·wuox·wuo·wuop·wox·wo·wop·wex·we·wep·zit·zix·zi"),
    (0xA29, "zip·ziex·zie·ziep·zat·zax·za·zap·zuox·zuo·zuop·zot·zox·zo·zop·zex"),
    (0xA2A, "ze·zep·zut·zux·zu·zup·zurx·zur·zyt·zyx·zy·zyp·zyrx·zyr·cit·cix"),
    (0xA2B, "ci·cip·ciet·ciex·cie·ciep·cat·cax·ca·cap·cuox·cuo·cuop·cot·cox·co"),
    (0xA2C, "cop·cex·ce·cep·cut·cux·cu·cup·curx·cur·cyt·cyx·cy·cyp·cyrx·cyr"),
    (0xA2D, "zzit·zzix·zzi·zzip·zziet·zziex·zzie·zziep·zzat·zzax·zza·zzap·zzox·zzo·zzop·zzex"),
    (0xA2E, "zze·zzep·zzux·zzu·zzup·zzurx·zzur·zzyt·zzyx·zzy·zzyp·zzyrx·zzyr·nzit·nzix·nzi"),
    (0xA2F, "nzip·nziex·nzie·nziep·nzat·nzax·nza·nzap·nzuox·nzuo·nzox·nzop·nzex·nze·nzux·nzu"),
    (0xA30, "nzup·nzurx·nzur·nzyt·nzyx·nzy·nzyp·nzyrx·nzyr·sit·six·si·sip·siex·sie·siep"),
    (0xA31, "sat·sax·sa·sap·suox·suo·suop·sot·sox·so·sop·sex·se·sep·sut·sux"),
    (0xA32, "su·sup·surx·sur·syt·syx·sy·syp·syrx·syr·ssit·ssix·ssi·ssip·ssiex·ssie"),
    (0xA33, "ssiep·ssat·ssax·ssa·ssap·ssot·ssox·sso·ssop·ssex·sse·ssep·ssut·ssux·ssu·ssup"),
    (0xA34, "ssyt·ssyx·ssy·ssyp·ssyrx·ssyr·zhat·zhax·zha·zhap·zhuox·zhuo·zhuop·zhot·zhox·zho"),
    (0xA35, "zhop·zhet·zhex·zhe·zhep·zhut·zhux·zhu·zhup·zhurx·zhur·zhyt·zhyx·zhy·zhyp·zhyrx"),
    (0xA36, "zhyr·chat·chax·cha·chap·chuot·chuox·chuo·chuop·chot·chox·cho·chop·chet·chex·che"),
    (0xA37, "chep·chux·chu·chup·churx·chur·chyt·chyx·chy·chyp·chyrx·chyr·rrax·rra·rruox·rruo"),
    (0xA38, "rrot·rrox·rro·rrop·rret·rrex·rre·rrep·rrut·rrux·rru·rrup·rrurx·rrur·rryt·rryx"),
    (0xA39, "rry·rryp·rryrx·rryr·nrat·nrax·nra·nrap·nrox·nro·nrop·nret·nrex·nre·nrep·nrut"),
    (0xA3A, "nrux·nru·nrup·nrurx·nrur·nryt·nryx·nry·nryp·nryrx·nryr·shat·shax·sha·shap·shuox"),
    (0xA3B, "shuo·shuop·shot·shox·sho·shop·shet·shex·she·shep·shut·shux·shu·shup·shurx·shur"),
    (0xA3C, "shyt·shyx·shy·shyp·shyrx·shyr·rat·rax·ra·rap·ruox·ruo·ruop·rot·rox·ro"),
    (0xA3D, "rop·rex·re·rep·rut·rux·ru·rup·rurx·rur·ryt·ryx·ry·ryp·ryrx·ryr"),
    (0xA3E, "jit·jix·ji·jip·jiet·jiex·jie·jiep·juot·juox·juo·juop·jot·jox·jo·jop"),
    (0xA3F, "jut·jux·ju·jup·jurx·jur·jyt·jyx·jy·jyp·jyrx·jyr·qit·qix·qi·qip"),
    (0xA40, "qiet·qiex·qie·qiep·quot·quox·quo·quop·qot·qox·qo·qop·qut·qux·qu·qup"),
    (0xA41, "qurx·qur·qyt·qyx·qy·qyp·qyrx·qyr·jjit·jjix·jji·jjip·jjiet·jjiex·jjie·jjiep"),
    (0xA42, "jjuox·jjuo·jjuop·jjot·jjox·jjo·jjop·jjut·jjux·jju·jjup·jjurx·jjur·jjyt·jjyx·jjy"),
    (0xA43, "jjyp·njit·njix·nji·njip·njiet·njiex·njie·njiep·njuox·njuo·njot·njox·njo·njop·njux"),
    (0xA44, "nju·njup·njurx·njur·njyt·njyx·njy·njyp·njyrx·njyr·nyit·nyix·nyi·nyip·nyiet·nyiex"),
    (0xA45, "nyie·nyiep·nyuox·nyuo·nyuop·nyot·nyox·nyo·nyop·nyut·nyux·nyu·nyup·xit·xix·xi"),
    (0xA46, "xip·xiet·xiex·xie·xiep·xuox·xuo·xot·xox·xo·xop·xyt·xyx·xy·xyp·xyrx"),
    (0xA47, "xyr·yit·yix·yi·yip·yiet·yiex·yie·yiep·yuot·yuox·yuo·yuop·yot·yox·yo"),
    (0xA48, "yop·yut·yux·yu·yup·yurx·yur·yyt·yyx·yy·yyp·yyrx·yyr"),
    (0xA49, "Qot·Li·Kit·Nyip·Cyp·Ssi·Ggop·Gep·Mi·Hxit·Lyr·Bbut·Mop·Yo·Put·Hxuo"),
    (0xA4A, "Tat·Ga·Zup·Cyt·Ddur·Bur·Gguo·Nyop·Tu·Op·Jjut·Zot·Pyt·Hmo·Yit·Vur"),
    (0xA4B, "Shy·Vep·Za·Jo·Nzup·Jjy·Got·Jjie·Wo·Du·Shur·Lie·Cy·Cuop·Cip·Hxop"),
    (0xA4C, "Shat·Zur·Shop·Che·Zziet·Nbie·Ke"),
    (0xA50, "ee·een·hee·wee·ween·pee·bhee·bee·mbee·kpee·mgbee·gbee·fee·vee·tee·thee"),
    (0xA51, "dhee·dhhee·lee·ree·dee·ndee·see·shee·zee·zhee·cee·jee·njee·yee·kee·nggee"),
    (0xA52, "gee·mee·nee·nyee·i·in·hi·hin·wi·win·pi·bhi·bi·mbi·kpi·mgbi"),
    (0xA53, "gbi·fi·vi·ti·thi·dhi·dhhi·li·ri·di·ndi·si·shi·zi·zhi·ci"),
    (0xA54, "ji·nji·yi·ki·nggi·gi·mi·ni·nyi·a·an·ngan·ha·han·wa·wan"),
    (0xA55, "pa·bha·ba·mba·kpa·kpan·mgba·gba·fa·va·ta·tha·dha·dhha·la·ra"),
    (0xA56, "da·nda·sa·sha·za·zha·ca·ja·nja·ya·ka·kan·ngga·ga·ma·na"),
    (0xA57, "nya·oo·oon·hoo·woo·woon·poo·bhoo·boo·mboo·kpoo·mgboo·gboo·foo·voo·too"),
    (0xA58, "thoo·dhoo·dhhoo·loo·roo·doo·ndoo·soo·shoo·zoo·zhoo·coo·joo·njoo·yoo·koo"),
    (0xA59, "nggoo·goo·moo·noo·nyoo·u·un·hu·hun·wu·wun·pu·bhu·bu·mbu·kpu"),
    (0xA5A, "mgbu·gbu·fu·vu·tu·thu·dhu·dhhu·lu·ru·du·ndu·su·shu·zu·zhu"),
    (0xA5B, "cu·ju·nju·yu·ku·nggu·gu·mu·nu·nyu·o·on·ngon·ho·hon·wo"),
    (0xA5C, "won·po·bho·bo·mbo·kpo·mgbo·gbo·gbon·fo·vo·to·tho·dho·dhho·lo"),
    (0xA5D, "ro·do·ndo·so·sho·zo·zho·co·jo·njo·yo·ko·nggo·go·mo·no"),
    (0xA5E, "nyo·e·en·ngen·he·hen·we·wen·pe·bhe·be·mbe·kpe·kpen·mgbe·gbe"),
    (0xA5F, "gben·fe·ve·te·the·dhe·dhhe·le·re·de·nde·se·she·ze·zhe·ce"),
    (0xA60, "je·nje·ye·ke·ngge·nggen·ge·gen·me·ne·nye·ng·lengthener"), (0xA61, "fa·ka·soo"),
    (0xA62, "0·1·2·3·4·5·6·7·8·9·ma·do"),
    (0xAB0, "·tthu·tthi·tthaa·tthee·tthe·ttho···ddhu·ddhi·ddhaa·ddhee·ddhe·ddho"),
    (0xAB1, "·dzu·dzi·dzaa·dzee·dze·dzo"),
    (0xAB2, "cchha·cchhu·cchhi·cchhaa·cchhee·cchhe·cchho··bba·bbu·bbi·bbaa·bbee·bbe·bbo"),
    (0xAB7, "a·e·i·o·u·v·ga·ka·ge·gi·go·gu·gv·ha·he·hi"),
    (0xAB8, "ho·hu·hv·la·le·li·lo·lu·lv·ma·me·mi·mo·mu·na·hna"),
    (0xAB9, "nah·ne·ni·no·nu·nv·qua·que·qui·quo·quu·quv·sa·s·se·si"),
    (0xABA, "so·su·sv·da·ta·de·te·di·ti·do·du·dv·dla·tla·tle·tli"),
    (0xABB, "tlo·tlu·tlv·tsa·tse·tsi·tso·tsu·tsv·wa·we·wi·wo·wu·wv·ya") ]

end Snippet.Spelling
