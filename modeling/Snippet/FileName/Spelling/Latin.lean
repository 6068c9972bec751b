/-! Spellings of Latin letters with marks, of phonetic letters and of ligatures. -/

set_option autoImplicit false

namespace Snippet.Spelling

def latin : List (Nat × String) :=
  [ (0xA, " ·!·C/·PS·$?·Y=··SS·\"·(c)·a·<<·!··(r)·-"),
    (0xB, "deg·+-·2·3·'·u·P·*·,·1·o·>>·1/4·1/2·3/4·?"), (0xC, "A·A·A·A·A·A·AE·C·E·E·E·E·I·I·I·I"),
    (0xD, "D·N·O·O·O·O·O·x·O·U·U·U·U·Y·Th·ss"), (0xE, "a·a·a·a·a·a·ae·c·e·e·e·e·i·i·i·i"),
    (0xF, "d·n·o·o·o·o·o·/·o·u·u·u·u·y·th·y"), (0x10, "A·a·A·a·A·a·C·c·C·c·C·c·C·c·D·d"),
    (0x11, "D·d·E·e·E·e·E·e·E·e·E·e·G·g·G·g"), (0x12, "G·g·G·g·H·h·H·h·I·i·I·i·I·i·I·i"),
    (0x13, "I·i·IJ·ij·J·j·K·k·k·L·l·L·l·L·l·L"), (0x14, "l·L·l·N·n·N·n·N·n·'n·NG·ng·O·o·O·o"),
    (0x15, "O·o·OE·oe·R·r·R·r·R·r·S·s·S·s·S·s"), (0x16, "S·s·T·t·T·t·T·t·U·u·U·u·U·u·U·u"),
    (0x17, "U·u·U·u·W·w·Y·y·Y·Z·z·Z·z·Z·z·s"), (0x18, "b·B·B·b·6·6·O·C·c·D·D·D·d·d·3·@"),
    (0x19, "E·F·f·G·G·hv·I·I·K·k·l·l·W·N·n·O"), (0x1A, "O·o·OI·oi·P·p·YR·2·2·SH·sh·t·T·t·T·U"),
    (0x1B, "u·Y·V·Y·y·Z·z·ZH·ZH·zh·zh·2·5·5·ts·w"),
    (0x1C, "|·||·|=·!·DZ·Dz·dz·LJ·Lj·lj·NJ·Nj·nj·A·a·I"), (0x1D, "i·O·o·U·u·U·u·U·u·U·u·U·u·@·A·a"),
    (0x1E, "A·a·AE·ae·G·g·G·g·K·k·O·o·O·o·ZH·zh"), (0x1F, "j·DZ·Dz·dz·G·g·HV·W·N·n·A·a·AE·ae·O·o"),
    (0x20, "A·a·A·a·E·e·E·e·I·i·I·i·O·o·O·o"), (0x21, "R·r·R·r·U·u·U·u·S·s·T·t·Y·y·H·h"),
    (0x22, "N·d·OU·ou·Z·z·A·a·E·e·O·o·O·o·O·o"), (0x23, "O·o·Y·y·l·n·t·j·db·qp·A·C·c·L·T·s"),
    (0x24, "z·?·?·B·U·V·E·e·J·j·q·q·R·r·Y·y"), (0x25, "a·a·a·b·o·c·d·d·e·@·@·e·e·e·e·j"),
    (0x26, "g·g·g·g·u·Y·h·h·i·i·I·l·l·l·lZ·W"), (0x27, "W·m·n·n·n·o·OE·O·F·r·r·r·r·r·r·r"),
    (0x28, "R·R·s·S·j·S·S·t·t·U·U·v·^·W·Y·Y"), (0x29, "z·z·Z·Z·?·?·?·C·@·B·E·G·H·j·k·L"),
    (0x2A, "q·?·?·dz·dZ·dz·ts·tS·tC·fN·ls·lz·WW·]]·h·h"),
    (0x2B, "k·h·j·r·r·r·r·w·y·'·\"·\x60·'·\x60·\x60·'"),
    (0x2C, "?·?·<·>·^·V·^·V·'·-·/·\\·,·_·\\·/"), (0x2D, ":·.·\x60·'·^·V·+·-·V·.·@·,·~·\"·R·X"),
    (0x2E, "G·l·s·x·?········V·=·\""), (0x36, "···a·e·i·o·u·c·d·h·m·r·t·v·x"),
    (0x1D0, "A·AE·ae·B·C·D·D·E·e·i·J·K·L·M·N·O"), (0x1D1, "O·o·o·o·oe·ou·o·o·P·R·R·T·U·u·u·m"),
    (0x1D2, "V·W·Z·Zh··L·G·L·P·R·Ps·L·A·AE·B·B"), (0x1D3, "D·E·E·G·H·I·J·K·L·M·N·N·O·Ou·P·R"),
    (0x1D4, "T·U·W·a·a·a·ae·b·d·e·@·e·e·g·i·k"), (0x1D5, "m·ng·o·o·o·o·p·t·u·u·m·v·l·b·g·d"),
    (0x1D6, "ph·kh·i·r·u·v·b·g·r·ph·kh·ue·b·d·f·m"), (0x1D7, "n·p·r·r·s·t·z·g·H·g·th·I·i·p·U·u"),
    (0x1D8, "b·d·f·g·k·l·m·n·p·r·s·S·v·x·z·a"), (0x1D9, "a·d·e·e·e·@·i·o·s·u·zh·a·c·c·d·e"),
    (0x1DA, "f·j·g·Y·i·i·I·I·j·l·l·L·m·W·n·n"), (0x1DB, "N·o·F·s·S·t·U·U·U·v·^·z·z·z·Z·th"),
    (0x1E0, "A·a·B·b·B·b·B·b·C·c·D·d·D·d·D·d"), (0x1E1, "D·d·D·d·E·e·E·e·E·e·E·e·E·e·F·f"),
    (0x1E2, "G·g·H·h·H·h·H·h·H·h·H·h·I·i·I·i"), (0x1E3, "K·k·K·k·K·k·L·l·L·l·L·l·L·l·M·m"),
    (0x1E4, "M·m·M·m·N·n·N·n·N·n·N·n·O·o·O·o"), (0x1E5, "O·o·O·o·P·p·P·p·R·r·R·r·R·r·R·r"),
    (0x1E6, "S·s·S·s·S·s·S·s·S·s·T·t·T·t·T·t"), (0x1E7, "T·t·U·u·U·u·U·u·U·u·U·u·V·v·V·v"),
    (0x1E8, "W·w·W·w·W·w·W·w·W·w·X·x·X·x·Y·y"), (0x1E9, "Z·z·Z·z·Z·z·h·t·w·y·a·S···Ss·d"),
    (0x1EA, "A·a·A·a·A·a·A·a·A·a·A·a·A·a·A·a"), (0x1EB, "A·a·A·a·A·a·A·a·E·e·E·e·E·e·E·e"),
    (0x1EC, "E·e·E·e·E·e·E·e·I·i·I·i·O·o·O·o"), (0x1ED, "O·o·O·o·O·o·O·o·O·o·O·o·O·o·O·o"),
    (0x1EE, "O·o·O·o·U·u·U·u·U·u·U·u·U·u·U·u"), (0x1EF, "U·u·Y·y·Y·y·Y·y·Y·y·LL·ll·V·v·Y·y"),
    (0x2C6, "L·l·L·P·R·a·t·H·h·K·k·Z·z·A·M·A"), (0x2C7, "A·v·W·w·v·H·h·f·e·r·o·E·j·V·S·Z"),
    (0xA72, "··A·a·'·'·H·h·TZ·tz"), (0xA73, "F·S·AA·aa·AO·ao·AU·au·AV·av·AV·av·AY·ay·C·c"),
    (0xA74, "K·k·K·k·K·k·L·l·L·l·O·o·O·o·OO·oo"), (0xA75, "P·p·P·p·P·p·Q·q·Q·q·····V·v"),
    (0xA76, "VY·vy·········ET·et·IS·is"), (0xA77, "········um·D·d·F·f·G"),
    (0xA78, "L·l·R·r·S·s·T·t······H·l"), (0xA79, "N·n·C·c·c·h·B·b·F·f·AE·ae·OE·oe·UE·ue"),
    (0xA7A, "G·g·K·k·N·n·R·r·S·s·H··G·L··Q"), (0xA7B, "K·T·J······U·u"),
    (0xA7C, "··W·w·C·S·Z·D·d·S·s"), (0xA7F, "··C·F·Q····H·oe"),
    (0xAB3, "··e··e··g·l·l·l·m·n··o·o·o"), (0xAB4, "oe·oe·oe···r·R···r··r·r··u"),
    (0xAB5, "ui·ui·u····x·x·x·x·y··h·l·l·u"), (0xAB6, "··oe·uo·····r·W"),
    (0xFB0, "ff·fi·fl·ffi·ffl·st·st"), (0x1078, "·:·.·ae·B·b··dz··dz·dZ·d·d·d·e·e"),
    (0x1079, "fN·u·g·g·G·h·H·h·j·ls·lz·l··l·lZ"), (0x107A, "Y··o·OE·O·q·r··r·r·R·tC·ts··tS·t"),
    (0x107B, "v··Y·?·?·@·|·||·|=") ]

end Snippet.Spelling
