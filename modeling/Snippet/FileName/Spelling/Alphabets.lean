/-! Spellings of the Greek, Cyrillic, Armenian, Georgian, Coptic, Glagolitic, Gothic and
Tifinagh alphabets, of runes and of Ogham. -/

set_option autoImplicit false

namespace Snippet.Spelling

def alphabets : List (Nat × String) :=
  [ (0x37, "H·h·S·s·'·,·W·w····s·s·s·?·J"), (0x38, "······A·;·E·E·I··O··U·O"),
    (0x39, "I·A·B·G·D·E·Z·E·Th·I·K·L·M·N·Ks·O"), (0x3A, "P·R··S·T·U·Ph·Kh·Ps·O·I·U·a·e·e·i"),
    (0x3B, "u·a·b·g·d·e·z·e·th·i·k·l·m·n·x·o"), (0x3C, "p·r·s·s·t·u·ph·kh·ps·o·i·u·o·u·o"),
    (0x3D, "b·th·U·U·U·ph·p·&·Q·q·St·st·W·w·Q·q"),
    (0x3E, "Sp·sp·Sh·sh·F·f·Kh·kh·H·h·G·g·CH·ch·Ti·ti"),
    (0x3F, "k·r·c·j·Th·e·e·Sh·sh·S·S·s·r·S·S·S"),
    (0x40, "Ie·Io·Dj·Gj·Ie·Dz·I·Yi·J·Lj·Nj·Tsh·Kj·I·U·Dzh"),
    (0x41, "A·B·V·G·D·E·Zh·Z·I·I·K·L·M·N·O·P"), (0x42, "R·S·T·U·F·Kh·Ts·Ch·Sh·Shch·'·Y·'·E·Iu·Ia"),
    (0x43, "a·b·v·g·d·e·zh·z·i·i·k·l·m·n·o·p"), (0x44, "r·s·t·u·f·kh·ts·ch·sh·shch·'·y·'·e·iu·ia"),
    (0x45, "ie·io·dj·gj·ie·dz·i·yi·j·lj·nj·tsh·kj·i·u·dzh"),
    (0x46, "O·o·E·e·Ie·ie·E·e·Ie·ie·O·o·Io·io·Ks·ks"),
    (0x47, "Ps·ps·F·f·Y·y·Y·y·u·u·O·o·O·o·Ot·ot"),
    (0x48, "Q·q·*1000*·.····.·*100.000*·*1.000.000*·I·i·\"·\"·R'·r'"),
    (0x49, "G'·g'·G'·g'·G'·g'·Zh'·zh'·Z'·z'·K'·k'·K'·k'·K'·k'"),
    (0x4A, "K'·k'·N'·n'·Ng·ng·P'·p'·Kh·kh·S'·s'·T'·t'·U·u"),
    (0x4B, "U'·u'·Kh'·kh'·Tts·tts·Ch'·ch'·Ch'·ch'·H·h·Ch·ch·Ch'·ch'"),
    (0x4C, "\x60·Zh·zh·K'·k'·L·l·N'·n'·N'·n'·Ch·ch·M·m·\x60"),
    (0x4D, "a·a·A·a·Ae·ae·Ie·ie·@·@·@·@·Zh·zh·Z·z"), (0x4E, "Dz·dz·I·i·I·i·O·o·O·o·O·o·E·e·U·u"),
    (0x4F, "U·u·U·u·Ch·ch·G·g·Y·y·G·g·Kh·kh·Kh·kh"),
    (0x50, "D·d·Dj·dj·Zj·zj·Dz·dz·Lj·lj·Nj·nj·Sj·sj·Tj·tj"),
    (0x51, "Z·z·L·l·Lh·lh·Rh·rh·Ya·ya·Q·q·W·w·K·k"), (0x52, "L·l·N·n·P·p·H·h·N·n·Dz·dz·Ch·ch·L·l"),
    (0x53, "·A·B·G·D·E·Z·E·E·T\x60·Zh·I·L·Kh·Ts·K"),
    (0x54, "H·Dz·Gh·Ch·M·Y·N·Sh·O·Ch\x60·P·J·Rh·S·V·T"),
    (0x55, "R·Ts\x60·W·P\x60·K\x60·O·F···<·'·/·!·,·?·."),
    (0x56, "e·a·b·g·d·e·z·e·e·t\x60·zh·i·l·kh·ts·k"),
    (0x57, "h·dz·gh·ch·m·y·n·sh·o·ch\x60·p·j·rh·s·v·t"),
    (0x58, "r·ts\x60·w·p\x60·k\x60·o·f·ew·y·.·-"), (0x10A, "A·B·G·D·E·V·Z·T\x60·I·K·L·M·N·O·P·Zh"),
    (0x10B, "R·S·T·U·P\x60·K\x60·G'·Q·Sh·Ch\x60·C\x60·Z'·C·Ch·X·J"), (0x10C, "H·E·Y·W·Xh·OE"),
    (0x10D, "a·b·g·d·e·v·z·t\x60·i·k·l·m·n·o·p·zh"),
    (0x10E, "r·s·t·u·p\x60·k\x60·g'·q·sh·ch\x60·c\x60·z'·c·ch·x·j"),
    (0x10F, "h·e·y·w·xh·oe·f······n"), (0x168, " ·b·l·f·s·n·h·d·t·c·q·m·g·ng·z·r"),
    (0x169, "a·o·u·e·i·ch·th·ph·p·x·p·<·>"), (0x16A, "f·v·u·yr·y·w·th·th·a·o·ac·ae·o·o·o·oe"),
    (0x16B, "on·r·k·c·k·g·ng·g·g·w·h·h·h·h·n·n"), (0x16C, "n·i·e·j·g·ae·a·eo·p·z·s·s·s·c·z·t"),
    (0x16D, "t·d·b·b·p·p·e·m·m·m·l·l·ng·ng·d·o"),
    (0x16E, "ear·ior·qu·qu·qu·s·yr·yr·yr·q·x·.·:·+·17·18"), (0x16F, "19"),
    (0x1C9, "A·B·G·D·E·V·Z·T·I·K·L·M·N·O·P·Zh"), (0x1CA, "R·S·T·U·P·K·Gh·Q·Sh·Ch·Ts·Dz·Ts·Ch·Kh·J"),
    (0x1CB, "H·E·Y·W·Kh·O·F·E·G"), (0x1F0, "a·a·a·a·a·a·a·a·A·A·A·A·A·A·A·A"),
    (0x1F1, "e·e·e·e·e·e···E·E·E·E·E·E"), (0x1F2, "e·e·e·e·e·e·e·e·E·E·E·E·E·E·E·E"),
    (0x1F3, "i·i·i·i·i·i·i·i·I·I·I·I·I·I·I·I"), (0x1F4, "o·o·o·o·o·o···O·O·O·O·O·O"),
    (0x1F5, "u·u·u·u·u·u·u·u··U··U··U··U"), (0x1F6, "o·o·o·o·o·o·o·o·O·O·O·O·O·O·O·O"),
    (0x1F7, "a·a·e·e·e·e·i·i·o·o·u·u·o·o"), (0x1F8, "a·a·a·a·a·a·a·a·A·A·A·A·A·A·A·A"),
    (0x1F9, "e·e·e·e·e·e·e·e·E·E·E·E·E·E·E·E"), (0x1FA, "o·o·o·o·o·o·o·o·O·O·O·O·O·O·O·O"),
    (0x1FB, "a·a·a·a·a··a·a·A·A·A·A·A·'·i·'"), (0x1FC, "~·\"~·e·e·e··e·e·E·E·E·E·E·'\x60·''·'~"),
    (0x1FD, "i·i·i·i···i·i·I·I·I·I··\x60'·''·'~"),
    (0x1FE, "u·u·u·u·r·r·u·u·U·U·U·U·R·\"\x60·\"'·\x60"), (0x1FF, "··o·o·o··o·o·O·O·O·O·O·'·'"),
    (0x2C0, "A·B·V·G·D·E·Zh·Dz·Z·I·I·I·Dj·K·L·M"), (0x2C1, "N·O·P·R·S·T·U·F·Kh·O·P·Sht·Ts·Ch·Sh·U"),
    (0x2C2, "'·Ya·Kh·Yu·E·E·Yo·Ye·O·Yo·F·I·'·A·M"), (0x2C3, "a·b·v·g·d·e·zh·dz·z·i·i·i·dj·k·l·m"),
    (0x2C4, "n·o·p·r·s·t·u·f·kh·o·p·sht·ts·ch·sh·u"),
    (0x2C5, "'·ya·kh·yu·e·e·yo·ye·o·yo·f·i·'·a·m"), (0x2C8, "A·a·B·b·G·g·D·d·E·e·6·6·Z·z·E·e"),
    (0x2C9, "Th·th·I·i·K·k·L·l·M·m·N·n·Ks·ks·O·o"),
    (0x2CA, "P·p·R·r·S·s·T·t·U·u·Ph·ph·Kh·kh·Ps·ps"), (0x2CB, "O·o·A·a·'·'·E·e·K·k·N·n·N·n·O·o"),
    (0x2CC, "S·s·Sh·sh·Sh·sh·Sh·sh·Kh·kh·H·h·H·h·H·h"),
    (0x2CD, "H·h·H·h·H·h·J·j·J·j·Sh·sh·Sh·sh·Ng·ng"), (0x2CE, "Ny·ny·W·w"),
    (0x2D0, "a·b·g·d·e·v·z·t·i·k·l·m·n·o·p·zh"), (0x2D1, "r·s·t·u·p·k·gh·q·sh·ch·ts·dz·ts·ch·kh·j"),
    (0x2D2, "h·e·y·w·kh·o"), (0x2D3, "a·b·b·g·gh·j·j·d·d·d·d·e·f·k·k·kh"),
    (0x2D4, "h·h·h·h·'·kh·kh·q·q·i·j·j·j·l·m·n"), (0x2D5, "ny·ng·p·u·r·r·gh·gh·j·s·s·sh·t·t·ch·t"),
    (0x2D6, "v·w·y·z·z·z·e·o········w"), (0xA64, "Z·z·Dz·dz·Dz·dz·I·i·Dj·dj·U·u·O·o·'·'"),
    (0xA65, "Y·y·Ie·ie·Iu·iu·Ia·ia·E·e·O·o·Ie·ie·Y·y"), (0xA66, "Ts·ts·D·d·L·l·M·m·O·o·O·o·O·o"),
    (0xA68, "Dw·dw·Dz·dz·Zh·zh·Ch·ch·Dz·dz·T·t·T·t·Ts·ts"),
    (0xA69, "Ts·ts·Ch·ch·H·h·Sh·sh·O·o·O·o·'·'"), (0x1033, "a·b·g·d·e·q·z·h·th·i·k·l·m·n·j·u"),
    (0x1034, "p·90·r·s·t·w·f·x·hw·o·900"), (0x1E03, "a·b·v·g·d·e·zh·z·i·k·l·m·o·p·r·s"),
    (0x1E04, "t·u·f·kh·ts·ch·sh·y·e·iu·dz·@·i·j·o·u"),
    (0x1E05, "\x60·a·b·v·g·d·e·zh·z·i·k·l·o·p·s·u"),
    (0x1E06, "f·kh·ts·ch·sh·'·y·g'·i·dz·dzh·s'·y·u'") ]

end Snippet.Spelling
