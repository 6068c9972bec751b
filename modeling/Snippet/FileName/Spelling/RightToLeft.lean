/-! Spellings of Hebrew, Arabic, Syriac, Thaana and NKo, and of Armenian ligatures, which
share a row with Hebrew ones. -/

set_option autoImplicit false

namespace Snippet.Spelling

def rightToLeft : List (Nat × String) :=
  [ (0x5B, "@·e·a·o·i·e·e·a·a·o·o·u·'··-"), (0x5C, "|·h··:····o"),
    (0x5D, "·b·g·d·h·v·z·kh·t·y·k·k·l·m·m·n"), (0x5E, "n·s·\x60·p·p·ts·ts·k·r·sh·t·····yyy"),
    (0x5F, "V·oy·i·'·\""), (0x60, "············,"), (0x61, "···········;····?"),
    (0x62, "··a·'·w'··y'··b·@·t·th·j·H·kh·d"), (0x63, "dh·r·z·s·sh·S·D·T·Z·\x60·G"),
    (0x64, "·f·q·k·l·m·n·h·w·~·y·an·un·in·a·u"), (0x65, "i·W···'·'"),
    (0x66, "0·1·2·3·4·5·6·7·8·9·%·.·,·*·b·q"), (0x67, "·'·'·'··'·'w·'u·'y·tt·tth·b·t·T·p·th"),
    (0x68, "bh·'h·H·ny·dy·H·ch·cch·dd·D·D·Dt·dh·ddh·d·D"),
    (0x69, "D·rr·R·R·R·R·R·R·j·R·S·S·S·S·S·T"), (0x6A, "GH·F·F·F·v·f·ph·Q·Q·kh·k·K·K·ng·K·g"),
    (0x6B, "G·N·G·G·G·L·L·L·L·N·N·N·N·N·h·Ch"), (0x6C, "hy·h·H·@·W·oe·oe·u·yu·yu·W·v·y·Y·Y·W"),
    (0x6D, "··y·y'·.·ae········@·#"), (0x6E, "·········^·····d·r"),
    (0x6F, "0·1·2·3·4·5·6·7·8·9·Sh·D·Gh·&·+m·h"), (0x70, "//·/·,·!·!·-·,·,·;·?·~·\x7b·\x7d·*"),
    (0x71, "'··b·g·g·d·d·h·w·z·H·t·t·y·yh·k"), (0x72, "l·m·n·s·s·\x60·p·p·S·q·r·sh·t"),
    (0x73, "a·a·a·A·A·A·e·e·e·E·i·i·u·u·u·o"), (0x74, "·\x60·'···X·Q·@·@·|·+···zh·kh·f"),
    (0x75, "b·b·b·b·b·b·b·h·h·d·d·r·s·'·'·'"), (0x76, "f·f·k·k·k·m·m·n·n·n·l·r·r·s·h·h"),
    (0x77, "s·r·h·a·a·y·y·y·w·w·y·y·h·s·s·k"), (0x78, "h·sh·n·r·b·L·k·'·v·m·f·dh·th·l·g·ny"),
    (0x79, "s·d·z·t·y·p·j·ch·tt·hh·kh·th·z·sh·s·d"),
    (0x7A, "t·z·\x60·gh·q·w·a·aa·i·ee·u·oo·e·ey·o·oa"), (0x7B, "·n"),
    (0x7C, "0·1·2·3·4·5·6·7·8·9·a·e·i·e·u·o"), (0x7D, "o·n·n·b·p·t·j·ch·d·r·r·s·gb·f·k·l"),
    (0x7E, "n·m·ny·n·h·w·y·ny·j·ch·r"), (0xFB1, "···mn·me·mi·vn·mkh······yi··ay"),
    (0xFB2, "\x60··d·h·k·l·m·r·t·+·sh·s·sh·s·a·a"), (0xFB3, "·b·g·d·h·v·z··t·y·k·k·l··m"),
    (0xFB4, "n·s··p·p··ts·k·r·sh·t·vo·b·k·p·l"), (0xFB5, "'·'·b·b·b·b·p·p·p·p·bh·bh·bh·bh·tth·tth"),
    (0xFB6, "tth·tth·th·th·th·th·tt·tt·tt·tt·v·v·v·v·ph·ph"),
    (0xFB7, "ph·ph·dy·dy·dy·dy·ny·ny·ny·ny·ch·ch·ch·ch·cch·cch"),
    (0xFB8, "cch·cch·ddh·ddh·dh·dh·d·d·dd·dd·j·j·rr·rr·kh·kh"),
    (0xFB9, "kh·kh·g·g·g·g·G·G·G·G·N·N·N·N·N·N"), (0xFBA, "N·N·N·N·ae'·ae'·h·h·h·h·h·h·h·h·y·y"),
    (0xFBB, "y'·y'"), (0xFBD, "···ng·ng·ng·ng·u·u·oe·oe·yu·yu·u·v·v"),
    (0xFBE, "oe·oe·yu·yu·····~·~·y'·y'·y'ae·y'ae·y'w·y'w"),
    (0xFBF, "y'u·y'u·y'oe·y'oe·y'yu·y'yu·y'·y'·y'·y'~·y'~·y'~·y·y·y·y"),
    (0xFC0, "y'j·y'H·y'm·y'~·y'y·bj·bH·bkh·bm·b~·by·tj·tH·tkh·tm·t~"),
    (0xFC1, "ty·thj·thm·th~·thy·jH·jm·Hj·Hm·khj·khH·khm·sj·sH·skh·sm"),
    (0xFC2, "SH·Sm·Dj·DH·Dkh·Dm·TH·Tm·Zm·\x60j·\x60m·Gj·Gm·fj·fH·fkh"),
    (0xFC3, "fm·f~·fy·qH·qm·q~·qy·k·kj·kH·kkh·kl·km·k~·ky·lj"),
    (0xFC4, "lH·lkh·lm·l~·ly·mj·mH·mkh·mm·m~·my·nj·nH·nkh·nm·n~"),
    (0xFC5, "ny·hj·hm·h~·hy·yj·yH·ykh·ym·y~·yy·dh·r·~· unW· inW"),
    (0xFC6, " aW· uW· iW· W·y'r·y'z·y'm·y'n·y'~·y'y·br·bz·bm·bn·b~·by"),
    (0xFC7, "tr·tz·tm·tn·t~·ty·thr·thz·thm·thn·th~·thy·f~·fy·q~·qy"),
    (0xFC8, "k·kl·km·k~·ky·lm·l~·ly·m·mm·nr·nz·nm·nn·n~·ny"),
    (0xFC9, "~·yr·yz·ym·yn·y~·yy·y'j·y'H·y'kh·y'm·y'h·bj·bH·bkh·bm"),
    (0xFCA, "bh·tj·tH·tkh·tm·th·thm·jH·jm·Hj·Hm·khj·khm·sj·sH·skh"),
    (0xFCB, "sm·SH·Skh·Sm·Dj·DH·Dkh·Dm·TH·Zm·\x60j·\x60m·Gj·Gm·fj·fH"),
    (0xFCC, "fkh·fm·qH·qm·kj·kH·kkh·kl·km·lj·lH·lkh·lm·lh·mj·mH"),
    (0xFCD, "mkh·mm·nj·nH·nkh·nm·nh·hj·hm·h·yj·yH·ykh·ym·yh·y'm"),
    (0xFCE, "y'h·bm·bh·tm·th·thm·thh·sm·sh·shm·shh·kl·km·lm·nm·nh"),
    (0xFCF, "ym·yh·aW·uW·iW·T~·Ty·\x60~·\x60y·G~·Gy·s~·sy·sh~·shy·H~"),
    (0xFD0, "Hy·j~·jy·kh~·khy·S~·Sy·D~·Dy·shj·shH·shkh·shm·shr·sr·Sr"),
    (0xFD1, "Dr·T~·Ty·\x60~·\x60y·G~·Gy·s~·sy·sh~·shy·H~·Hy·j~·jy·kh~"),
    (0xFD2, "khy·S~·Sy·D~·Dy·shj·shH·shkh·shm·shr·sr·Sr·Dr·shj·shH·shkh"),
    (0xFD3, "shm·sh·shh·Tm·sj·sH·skh·shj·shH·shkh·Tm·Zm·an·an"),
    (0xFD5, "tjm·tHj·tHj·tHm·tkhm·tmj·tmH·tmkh·jmH·jmH·Hmy·Hm~·sHj·sjH·sj~·smH"),
    (0xFD6, "smH·smj·smm·smm·SHH·SHH·Smm·shHm·shHm·shjy·shmkh·shmkh·shmm·shmm·DH~·Dkhm"),
    (0xFD7, "Dkhm·TmH·TmH·Tmm·Tmy·\x60jm·\x60mm·\x60mm·\x60m~·Gmm·Gmy·Gm~·fkhm·fkhm·qmH·qmm"),
    (0xFD8, "lHm·lHy·lH~·ljj·ljj·lkhm·lkhm·lmH·lmH·mHj·mHm·mHy·mjH·mjm·mkhj·mkhm"),
    (0xFD9, "··mjkh·hmj·hmm·nHm·nH~·njm·njm·nj~·nmy·nm~·ymm·ymm·bkhy·tjy"),
    (0xFDA, "tj~·tkhy·tkh~·tmy·tm~·jmy·jH~·jm~·skh~·SHy·shHy·DHy·ljy·lmy·yHy·yjy"),
    (0xFDB, "ymy·mmy·qmy·nHy·qmH·lHm·\x60my·kmy·njH·mkhy·ljm·kmm·ljm·njH·jHy·Hjy"),
    (0xFDC, "mjy·fmy·bHy·kmm·\x60jm·Smm·skhy·njy"),
    (0xFDF, "Sly·qly·llh·kbr·mHmd·Sl\x60m·rswl·\x60lyh·wslm·Sl~·Sl~ llh \x60lyh wslm·jl jllh·ryl"),
    (0xFE7, " an·an· un·· in·· a·a· u·u· i·i· W·W· "), (0xFE8, "···'·'·w'·w'·'·'·y'·y'·y'·y'···b"),
    (0xFE9, "b·b·b·@·@·t·t·t·t·th·th·th·th·j·j·j"),
    (0xFEA, "j·H·H·H·H·kh·kh·kh·kh·d·d·dh·dh·r·r·z"),
    (0xFEB, "z·s·s·s·s·sh·sh·sh·sh·S·S·S·S·D·D·D"),
    (0xFEC, "D·T·T·T·T·Z·Z·Z·Z·\x60·\x60·\x60·\x60·G·G·G"),
    (0xFED, "G·f·f·f·f·q·q·q·q·k·k·k·k·l·l·l"), (0xFEE, "l·m·m·m·m·n·n·n·n·h·h·h·h·w·w·~"),
    (0xFEF, "~·y·y·y·y·l·l·l'·l'·l'·l'·l·l") ]

end Snippet.Spelling
