/-! Spellings of Thai, Lao, Burmese, Khmer and the scripts of the islands. -/

set_option autoImplicit false

namespace Snippet.Spelling

def southeastAsian : List (Nat × String) :=
  [ (0xE0, "·k·kh·kh·kh·kh·kh·ng·cch·ch·ch·ch·ch·y·d·t"),
    (0xE1, "th·th·th·n·d·t·th·th·th·n·b·p·ph·f·ph·f"),
    (0xE2, "ph·m·y·r·R·l·L·w·s·s·s·h·l·\x60·h·~"), (0xE3, "a·a·aa·am·i·ii·ue·uue·u·uu·'·····Bh."),
    (0xE4, "e·ae·o·ai·ai·ao·+·······M·· * "), (0xE5, "0·1·2·3·4·5·6·7·8·9· // · /// "),
    (0xE8, "·k·kh··kh··gh·ng·ch·ch·s··jh·ny·ny·tt"),
    (0xE9, "tth·dd·ddh·nn·d·h·th·th·dh·n·b·p·ph·f·ph·f"),
    (0xEA, "·m·y·r··l··w·sh·ss·s·h·l·\x60··~"), (0xEB, "a··aa·am·i·ii·y·yy·u·uu··o·l·ny"),
    (0xEC, "e·ei·o·ay·ai··+·······M"), (0xED, "0·1·2·3·4·5·6·7·8·9···hn·hm·k·ny"),
    (0x100, "k·kh·g·gh·ng·c·ch·j·jh·ny·nny·tt·tth·dd·ddh·nn"),
    (0x101, "tt·th·d·dh·n·p·ph·b·bh·m·y·r·l·w·s·h"),
    (0x102, "ll·a··i·ii·u·uu·e··o·au·aa·aa·i·ii·u"), (0x103, "uu·e·ai····N·'·:···y·r·w·h·s"),
    (0x104, "0·1·2·3·4·5·6·7·8·9· / · // ·n*·r*·l*·e*"), (0x105, "sh·ss·R·RR·L·LL·R·RR·L·LL"),
    (0x170, "a·i·u·k·g·ng·t·d·n·p·b·m·y·r·l·w"), (0x171, "s·h·i·u············r"),
    (0x172, "a·i·u·k·g·ng·t·d·n·p·b·m·y·r·l·w"), (0x173, "s·h·i·u"),
    (0x174, "a·i·u·k·g·ng·t·d·n·p·b·m·y·r·l·w"), (0x175, "s·h·i·u"),
    (0x176, "a·i·u·k·g·ng·t·d·n·p·b·m·y··l·w"), (0x177, "s··i·u"),
    (0x178, "k·kh·g·gh·ng·c·ch·j·jh·ny·t·tth·d·ddh·nn·t"),
    (0x179, "th·d·dh·n·p·ph·b·bh·m·y·r·l·v·sh·ss·s"),
    (0x17A, "h·l·q·a·aa·i·ii·u·uk·uu·uuv·ry·ryy·ly·lyy·e"),
    (0x17B, "ai·oo·oo·au·a·aa·aa·i·ii·y·yy·u·uu·ua·oe·ya"),
    (0x17C, "ie·e·ae·ai·oo·au·M·H·a\x60····r··!"), (0x17D, "····.· // ·:·+·++· * · /// ·KR·'"),
    (0x17E, "0·1·2·3·4·5·6·7·8·9"), (0x195, "k·x·ng·ts·s·y·t·th·l·p·ph·m·f·v·h·q"),
    (0x196, "kh·tsh·n·a·i·ee··u·oo·o·ue·e··ai"), (0x198, "q·q·k·x·ng·k·x·ng·ts·s·y·ts·s·y·t·th"),
    (0x199, "n·t·th·n·p·ph·m·p·ph·m·f·v·l·f·v·l"), (0x19A, "h·d·b·h·d·b·kv·xv·kv·xv·sua·sua"),
    (0x19B, "·aa·ii·u·uu·e·ae·o·oa·ue"), (0x19C, "·v··n·m·k·d·b"), (0x19D, "0·1·2·3·4·5·6·7·8·9"),
    (0x1A0, "k·g·ng·ngk·p·b·m·mp·t·d·n·nr·c·j·ny·nyc"), (0x1A1, "y·r·l·v·s·a·h·i·u·e·o·ae"),
    (0x1A2, "k·kh·kx·k·kx·kh·ng·c·ch·c·s·ch·ny···d"), (0x1A3, "··t·th·t·th·n·b·p·ph·f·p·f·ph·m·y"),
    (0x1A4, "y·r·rue·l·lue·w·sh·ss·s·h·ll·a·h·i·ii·u"), (0x1A5, "uu·ee·oo·lae·s"),
    (0x1A6, "·a··aa·aa·i·ii·ue··u·uu·o···e·ae"), (0x1A7, "oo·ai·ai"),
    (0x1A8, "0·1·2·3·4·5·6·7·8·9"), (0x1A9, "0·1·2·3·4·5·6·7·8·9"), (0x1B1, "···k··g··ng·c··j··ny"),
    (0x1B2, "··t··d··n·p··b··m·y·r·l·w"), (0x1B3, "··s·h"), (0x1B4, "············jny"),
    (0x1B5, "0·1·2·3·4·5·6·7·8·9"), (0x1B8, "···a·i·u·ae·o·e·eu·k·q·g·ng·c·j"),
    (0x1B9, "z·ny·t·d·n·p·f·v·b·m·y·r·l·w·s·x"), (0x1BA, "h··············kh·sy"),
    (0x1BB, "0·1·2·3·4·5·6·7·8·9··reu·leu·bh·k·m"), (0x1BC, "a·a·h·h·h·b·b·p·p·n·n·w·w·w·g·g"),
    (0x1BD, "j·d·r·r·m·m·t·t·s·s·s·y·y·ng·l·l"), (0x1BE, "ny·c·nd·mb·i·u··e·e·ee·i·i·o·o·u"),
    (0xA90, "0·1·2·3·4·5·6·7·8·9·k·kh·g·ng·s·sh"), (0xA91, "z·ny·t·ht·n·p·ph·m·d·b·r·y·l·w·th·h"),
    (0xA92, "v·c·a·oe·i·oo·ue·e·u·ee·o"), (0xA93, "k·g·ng·t·d·n·p·b·m·c·j·ny·s·r·l·y"),
    (0xA94, "w·h·mb·ngg·nd·nyj·a·i·u·e·ai·o·au·eu·ea"), (0xA98, "····a··i·ii·u····e·ai·o·k"),
    (0xA99, "··g··ng·c··j···ny·tt··dd"), (0xA9A, "t··d··n·p··b··m·y·r··l·w"), (0xA9B, "·s·h"),
    (0xA9D, "0·1·2·3·4·5·6·7·8·9"), (0xAA0, "a·i·u·e·ai·o·k·kh·g·gh·ngue·ng·ch·chh·j·jh"),
    (0xAA1, "nhue·nh·nhj·t·th·d·dh·nue·n·dd·p·pp·ph·b·bh·mue"),
    (0xAA2, "m·bb·y·r·l·v·ss·s·h·aa·i·ii·ei·u·oe·o"), (0xAA3, "ai·au·ue"),
    (0xAA4, "k·g····t·n·p·y·r·l"), (0xAA5, "0·1·2·3·4·5·6·7·8·9"),
    (0xAA8, "ko·ko·kho·kho·khho·khho·go·go·ngo·ngo·co·co·cho·cho·so·so"),
    (0xAA9, "nyo·nyo·do·do·to·to·tho·tho·no·no·bo·bo·po·po·pho·pho"),
    (0xAAA, "fo·fo·mo·mo·yo·yo·ro·ro·lo·lo·vo·vo·ho·ho·o·o"), (0xAAB, "·aa·i·ue·u·e·o··ia··ua") ]

end Snippet.Spelling
