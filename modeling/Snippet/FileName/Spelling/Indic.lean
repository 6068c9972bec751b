/-! Spellings of the scripts of India, Sri Lanka, Nepal and Tibet. -/

set_option autoImplicit false

namespace Snippet.Spelling

def indic : List (Nat × String) :=
  [ (0x90, "N·N·N·H·a·a·aa·i·ii·u·uu·R·L·eN·e·e"),
    (0x91, "ai·oN·o·o·au·k·kh·g·gh·ng·c·ch·j·jh·ny·tt"),
    (0x92, "tth·dd·ddh·nn·t·th·d·dh·n·nnn·p·ph·b·bh·m·y"),
    (0x93, "r·rr·l·l·lll·v·sh·ss·s·h·o·oo·'·'·aa·i"),
    (0x94, "ii·u·uu·R·RR·eN·e·e·ai·oN·o·o·au··e·aw"),
    (0x95, "AUM·'·'·\x60·'·e·ue·uue·q·khh·ghh·z·dddh·rh·f·yy"),
    (0x96, "RR·LL·L·LL· / · // ·0·1·2·3·4·5·6·7·8·9"),
    (0x97, ".··a·o·oo·aw·ue·uue·dd·zh·y·gg·jj·?·ddd·bb"), (0x98, "·N·N·H··a·aa·i·ii·u·uu·R·RR···e"),
    (0x99, "ai···o·au·k·kh·g·gh·ng·c·ch·j·jh·ny·tt"),
    (0x9A, "tth·dd·ddh·nn·t·th·d·dh·n··p·ph·b·bh·m·y"), (0x9B, "r··l····sh·ss·s·h···'·'·aa·i"),
    (0x9C, "ii·u·uu·R·RR···e·ai···o·au··t"), (0x9D, "·······+·····rr·rh··yy"),
    (0x9E, "RR·LL·L·LL···0·1·2·3·4·5·6·7·8·9"), (0x9F, "r'·r\x60·Rs·Rs·1/·2/·3/·4/· 1 - 1/·/16"),
    (0xA0, "·N·N·H··a·aa·i·ii·u·uu·····ee"), (0xA1, "ai···oo·au·k·kh·g·gh·ng·c·ch·j·jh·ny·tt"),
    (0xA2, "tth·dd·ddh·nn·t·th·d·dh·n··p·ph·b·bb·m·y"), (0xA3, "r··l·ll··v·sh··s·h···'··aa·i"),
    (0xA4, "ii·u·uu·····ee·ai···oo·au"), (0xA5, "·········khh·ghh·z·rr··f"),
    (0xA6, "······0·1·2·3·4·5·6·7·8·9"), (0xA7, "N·H···G.E.O.·y"),
    (0xA8, "·N·N·H··a·aa·i·ii·u·uu·R·L·eN··e"), (0xA9, "ai·oN··o·au·k·kh·g·gh·ng·c·ch·j·jh·ny·tt"),
    (0xAA, "tth·dd·ddh·nn·t·th·d·dh·n··p·ph·b·bh·m·ya"), (0xAB, "r··l·ll··v·sh·ss·s·h···'·'·aa·i"),
    (0xAC, "ii·u·uu·R·RR·eN··e·ai·oN··o·au"), (0xAD, "AUM"),
    (0xAE, "RR·LL·L·LL···0·1·2·3·4·5·6·7·8·9"), (0xAF, ".·Rs········zh"),
    (0xB0, "·N·N·H··a·aa·i·ii·u·uu·R·L···e"), (0xB1, "ai···o·au·k·kh·g·gh·ng·c·ch·j·jh·ny·tt"),
    (0xB2, "tth·dd·ddh·nn·t·th·d·dh·n··p·ph·b·bh·m·y"), (0xB3, "r··l·ll··v·sh·ss·s·h···'·'·aa·i"),
    (0xB4, "ii·u·uu·R·RR···e·ai···o·au"), (0xB5, "······+·+·····rr·rh··yy"),
    (0xB6, "RR·LL·L·LL···0·1·2·3·4·5·6·7·8·9"), (0xB7, "·w"),
    (0xB8, "··N·H··a·aa·i·ii·u·uu····e·ee"), (0xB9, "ai··o·oo·au·k····ng·c··j··ny·tt"),
    (0xBA, "···nn·t····n·nnn·p····m·y"), (0xBB, "r·rr·l·ll·lll·v·sh·ss·s·h·····aa·i"),
    (0xBC, "ii·u·uu····e·ee·ai··o·oo·au"), (0xBD, "AUM·······+"),
    (0xBE, "······0·1·2·3·4·5·6·7·8·9"), (0xBF, "+10+·+100+·+1000+·······Rs"),
    (0xC0, "N·N·N·H·N·a·aa·i·ii·u·uu·R·L··e·ee"),
    (0xC1, "ai··o·oo·au·k·kh·g·gh·ng·c·ch·j·jh·ny·tt"),
    (0xC2, "tth·dd·ddh·nn·t·th·d·dh·n··p·ph·b·bh·m·y"),
    (0xC3, "r·rr·l·ll·lll·v·sh·ss·s·h·····aa·i"), (0xC4, "ii·u·uu·R·RR··e·ee·ai··o·oo·au"),
    (0xC5, "·····+·+··ts·dz·rrr"), (0xC6, "RR·LL·L·LL···0·1·2·3·4·5·6·7·8·9"),
    (0xC8, "N·N·N·H··a·aa·i·ii·u·uu·R·L··e·ee"), (0xC9, "ai··o·oo·au·k·kh·g·gh·ng·c·ch·j·jh·ny·tt"),
    (0xCA, "tth·dd·ddh·nn·t·th·d·dh·n··p·ph·b·bh·m·y"), (0xCB, "r·rr·l·ll··v·sh·ss·s·h·····aa·i"),
    (0xCC, "ii·u·uu·R·RR··e·ee·ai··o·oo·au"), (0xCD, "·····+·+········lll"),
    (0xCE, "RR·LL·L·LL···0·1·2·3·4·5·6·7·8·9"), (0xD0, "N·N·N·H··a·aa·i·ii·u·uu·R·L··e·ee"),
    (0xD1, "ai··o·oo·au·k·kh·g·gh·ng·c·ch·j·jh·ny·tt"),
    (0xD2, "tth·dd·ddh·nn·t·th·d·dh·n·nnn·p·ph·b·bh·m·y"),
    (0xD3, "r·rr·l·ll·lll·v·sh·ss·s·h·ttt····aa·i"), (0xD4, "ii·u·uu·R·RR··e·ee·ai··o·oo·au··r"),
    (0xD5, "····m·y·lll·+"), (0xD6, "RR·LL·L·LL···0·1·2·3·4·5·6·7·8·9"),
    (0xD7, "10·100·1000········nn·n·rr·l·ll·k"), (0xD8, "··N·H··a·aa·ae·aae·i·ii·u·uu·R·RR·L"),
    (0xD9, "LL·e·ee·ai·o·oo·au····k·kh·g·gh·ng·nng"),
    (0xDA, "c·ch·j·jh·ny·jny·nyj·tt·tth·dd·ddh·nn·nndd·t·th·d"),
    (0xDB, "dh·n··nd·p·ph·b·bh·m·mb·y·r··l"), (0xDC, "v·sh·ss·s·h·ll·f·········aa"),
    (0xDD, "ae·aae·i·ii·u··uu··R·e·ee·ai·o·oo·au·L"), (0xDE, "······0·1·2·3·4·5·6·7·8·9"),
    (0xDF, "··RR·LL· . "), (0xF0, "AUM········ // · * ··-· / · / · // · -/ "),
    (0xF1, " +/ · X/ · /XX/ · /X/ ·, "), (0xF2, "0·1·2·3·4·5·6·7·8·9·.5·1.5·2.5·3.5·4.5·5.5"),
    (0xF3, "6.5·7.5·8.5·-.5·+·*·^·_··~··]·[[·]]"),
    (0xF4, "k·kh·g·gh·ng·c·ch·j··ny·tt·tth·dd·ddh·nn·t"),
    (0xF5, "th·d·dh·n·p·ph·b·bh·m·ts·tsh·dz·dzh·w·zh·z"),
    (0xF6, "'·y·r·l·sh·ssh·s·h·a·kss·r·kk·rr"), (0xF7, "·aa·i·ii·u·uu·R·RR·L·LL·e·ee·o·oo·M·H"),
    (0xF8, "i·ii"), (0xF9, "k·kh·g·gh·ng·c·ch·j··ny·tt·tth·dd·ddh·nn·t"),
    (0xFA, "th·d·dh·n·p·ph·b·bh·m·ts·tsh·dz·dzh·w·zh·z"),
    (0xFB, "'·y·r·l·sh·ss·s·h·a·kss·w·y·r··X· :X: "), (0xFC, " /O/ · /o/ · \\o\\ · (O) "),
    (0x190, "·k·kh·g·gh·ng·c·ch·j·jh··t·th·d·dh·n"), (0x191, "p·ph·b·bh·m·y·r·l·w·sh·ss·s·h··tr"),
    (0x192, "a·i·u·ee·ai·oo·au·e·o·y·r·w"), (0x193, "k·ng··t·n·p·m·r·l"),
    (0x194, "······0·1·2·3·4·5·6·7·8·9"), (0x1C0, "k·kl·kh·g·gl·ng·c·ch·j·ny·t·th·d·n·p·pl"),
    (0x1C1, "ph·f·fl·b·bl·m·ml·ts·tsh·dz·y·r·l·h·hl·v"), (0x1C2, "s·sh·w·a·y·r·aa·i·o·oo·u·uu·e"),
    (0x1C4, "0·1·2·3·4·5·6·7·8·9····tt·tth·dd"), (0x1C5, "0·1·2·3·4·5·6·7·8·9·a·t·g·ng·l·aa"),
    (0x1C6, "k·j·m·w·i·s·h·ny·r·u·c·d·nn·y·e·p"), (0x1C7, "dd·n·rr·o·tt·b·w·h"),
    (0xA84, "k·kh·g·ng·c·ch·j·ny·t·th·d·n·p·ph·b·m"),
    (0xA85, "ts·tsh·dz·w·zh·z·a·y·r·l·sh·s·h·a·i·u"),
    (0xA86, "e·o·q·x·f·gg·ee·w·y·tt·tth·dd·nn·y·sh·h"), (0xA87, "f·r·r"),
    (0xA88, "··a·aa·i·ii·u·uu·r··l··e·ee·ai·o"),
    (0xA89, "oo·au·k·kh·g·gh·ng·c·ch·j·jh·ny·tt·tth·dd·ddh"),
    (0xA8A, "nn·t·th·d·dh·n·p·ph·b·bh·m·y·r·l·v·sh"), (0xA8B, "ss·s·h·ll··aa·i·ii·u·uu·····e·ee"),
    (0xA8C, "ai·o·oo·au"), (0xA8D, "0·1·2·3·4·5·6·7·8·9"),
    (0xABC, "k·s·l·m·p·n·c·t·kh·ng·th·w·y·h·u·i"), (0xABD, "ph·a·g·jh·r·b·j·d·gh·dh·bh·k·l·m·p·n"),
    (0xABE, "t·ng·i·o·i·aa·e·ou·u·ei·ng"), (0xABF, "0·1·2·3·4·5·6·7·8·9") ]

end Snippet.Spelling
