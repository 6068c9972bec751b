/-! Spellings of punctuation, currencies, numbers, arrows, frames and mathematical letters. -/

set_option autoImplicit false

namespace Snippet.Spelling

def symbols : List (Nat × String) :=
  [ (0x200, " · · · · · · · · · · · "), (0x201, "-·-·-·-·--·--·||·_·'·'·,·'·\"·\"·,,·\""),
    (0x202, "+·++·*·*>·.·..·...·.·\n·\n\n······ "),
    (0x203, "%0·%00·'·''·'''·\x60·\x60\x60·\x60\x60\x60·^·<·>·*·!!·!?·-·_"),
    (0x204, "-·^·***·--·/·-[·]-·??·?!·!?·7·PP·(]·[)·*·;"), (0x205, "^·**·%·~·_·*··''''········ "),
    (0x207, "0·i···4·5·6·7·8·9·+·-·=·(·)·n"), (0x208, "0·1·2·3·4·5·6·7·8·9·+·-·=·(·)"),
    (0x209, "a·e·o·x·@·h·k·l·m·n·p·s·t"), (0x20A, "ECU·CL·Cr·FF·L·mil·N·Pts·Rs·W·NS·D·EUR·K·T·Dr"),
    (0x20B, "Pf·P·G·A·UAH·C|·L·T·T·Rs·TL·M·m·R·l·BTC"),
    (0x210, "a/c·a/s·C·degC·C·c/o·c/u·E··degF·g·H·H·H·h·h"),
    (0x211, "I·I·L·l·lb·N·No·(p)·P·P·Q·R·R·R·Rx·R"),
    (0x212, "sm·TEL·tm·V·Z··ohm·mho·Z·i·K·A·B·C·e·e"), (0x213, "E·F·F·M·o·X·B·G·D·i·Q·FAX·p·g·G·P"),
    (0x214, "S·G·L·L·Y·D·d·e·i·j"),
    (0x215, " 1/7 · 1/9 · 1/10 · 1/3 · 2/3 · 1/5 · 2/5 · 3/5 · 4/5 · 1/6 · 5/6 · 1/8 · 3/8 · 5/8 · 7/8 · 1/"),
    (0x216, "I·II·III·IV·V·VI·VII·VIII·IX·X·XI·XII·L·C·D·M"),
    (0x217, "i·ii·iii·iv·v·vi·vii·viii·ix·x·xi·xii·l·c·d·m"), (0x218, "(D·D)·((|))·)·c·····0/3"),
    (0x219, "-·|·-·|·-·|·\\·/·\\·/·-·-·~·~·-·|"), (0x21A, "-·|·-·-·-·|·-·|·|·-·-·-·-·-·-·|"),
    (0x21B, "|·|·|·|·|·|·^·V·\\·=·V·^·-·-·|·|"), (0x21C, "-·-·|·|·=·|·=·=·|·=·|·=·=·=·=·="),
    (0x21D, "=·|·=·|·=·|·\\·/·\\·/·=·=·~·~·|·|"), (0x21E, "-·|·-·|·-·-·-·|·-·|·|·|·|·|·|·|"),
    (0x21F, "-·\\·\\·|"), (0x221, "··-·-+·+·/·\\·*··.·····inf"), (0x222, "···|·|"),
    (0x223, "······:······~"), (0x224, "·~"), (0x226, "!=····<=·>=·<=·>=·······<·>"),
    (0x227, "<=·>="), (0x230, "···^"), (0x232, "·········<·> "),
    (0x246, "1·2·3·4·5·6·7·8·9·10·11·12·13·14·15·16"),
    (0x247, "17·18·19·20·(1)·(2)·(3)·(4)·(5)·(6)·(7)·(8)·(9)·(10)·(11)·(12)"),
    (0x248, "(13)·(14)·(15)·(16)·(17)·(18)·(19)·(20)·1.·2.·3.·4.·5.·6.·7.·8."),
    (0x249, "9.·10.·11.·12.·13.·14.·15.·16.·17.·18.·19.·20.·(a)·(b)·(c)·(d)"),
    (0x24A, "(e)·(f)·(g)·(h)·(i)·(j)·(k)·(l)·(m)·(n)·(o)·(p)·(q)·(r)·(s)·(t)"),
    (0x24B, "(u)·(v)·(w)·(x)·(y)·(z)·A·B·C·D·E·F·G·H·I·J"),
    (0x24C, "K·L·M·N·O·P·Q·R·S·T·U·V·W·X·Y·Z"), (0x24D, "a·b·c·d·e·f·g·h·i·j·k·l·m·n·o·p"),
    (0x24E, "q·r·s·t·u·v·w·x·y·z·0·11·12·13·14·15"),
    (0x24F, "16·17·18·19·20·1·2·3·4·5·6·7·8·9·10·0"), (0x250, "-·-·|·|·-·-·|·|·-·-·|·|·+·+·+·+"),
    (0x251, "+·+·+·+·+·+·+·+·+·+·+·+·+·+·+·+"), (0x252, "+·+·+·+·+·+·+·+·+·+·+·+·+·+·+·+"),
    (0x253, "+·+·+·+·+·+·+·+·+·+·+·+·+·+·+·+"), (0x254, "+·+·+·+·+·+·+·+·+·+·+·+·-·-·|·|"),
    (0x255, "-·|·+·+·+·+·+·+·+·+·+·+·+·+·+·+"), (0x256, "+·+·+·+·+·+·+·+·+·+·+·+·+·+·+·+"),
    (0x257, "+·/·\\·X·-·|·-·|·-·|·-·|·-·|·-·|"), (0x258, "#·#·#·#·#·#·#·#·#·#·#·#·#·#·#·#"),
    (0x259, "#·#·#·#·-·|"), (0x25A, "#·#·#·#·#·#·#·#·#·#·#·#·#·#·#·#"),
    (0x25B, "#·#·^·^·^·^·>·>·>·>·>·>·V·V·V·V"), (0x25C, "<·<·<·<·<·<·*·*·*·*·*·*·*·*·*·*"),
    (0x25D, "*·*·*·*·*·*·*·*·*·*·*·*·*·*·*·*"), (0x25E, "*·*·*·*·*·*·*·#·#·#·#·#·^·^·^·O"),
    (0x25F, "#·#·#·#·#·#·#·#"), (0x260, "·····*·*"), (0x277, "······1·2·3·4·5·6·7·8·9·10"),
    (0x278, "1·2·3·4·5·6·7·8·9·10·1·2·3·4·5·6"), (0x279, "7·8·9·10"),
    (0x27F, "·····<-·->·<->·<=·=>·<=>·<-·->·<=·=>·~>"), (0x280, " ·a·1·b·'·k·2·l·@·c·i·f·/·m·s·p"),
    (0x281, "\"·e·3·h·9·o·6·r·^·d·j·g·>·n·t·q"), (0x282, ",·*·5·<·-·u·8·v·.·%·[·$·+·x·!·&"),
    (0x283, ";·:·4·\\·0·z·7·(·_·?·w·]·#·y·)·="),
    (0x284, "[d7]·[d17]·[d27]·[d127]·[d37]·[d137]·[d237]·[d1237]·[d47]·[d147]·[d247]·[d1247]·[d347]·[d1347]·[d2347]·[d12347]"),
    (0x285, "[d57]·[d157]·[d257]·[d1257]·[d357]·[d1357]·[d2357]·[d12357]·[d457]·[d1457]·[d2457]·[d12457]·[d3457]·[d13457]·[d23457]·[d123457]"),
    (0x286, "[d67]·[d167]·[d267]·[d1267]·[d367]·[d1367]·[d2367]·[d12367]·[d467]·[d1467]·[d2467]·[d12467]·[d3467]·[d13467]·[d23467]·[d123467]"),
    (0x287, "[d567]·[d1567]·[d2567]·[d12567]·[d3567]·[d13567]·[d23567]·[d123567]·[d4567]·[d14567]·[d24567]·[d124567]·[d34567]·[d134567]·[d234567]·[d1234567]"),
    (0x288, "[d8]·[d18]·[d28]·[d128]·[d38]·[d138]·[d238]·[d1238]·[d48]·[d148]·[d248]·[d1248]·[d348]·[d1348]·[d2348]·[d12348]"),
    (0x289, "[d58]·[d158]·[d258]·[d1258]·[d358]·[d1358]·[d2358]·[d12358]·[d458]·[d1458]·[d2458]·[d12458]·[d3458]·[d13458]·[d23458]·[d123458]"),
    (0x28A, "[d68]·[d168]·[d268]·[d1268]·[d368]·[d1368]·[d2368]·[d12368]·[d468]·[d1468]·[d2468]·[d12468]·[d3468]·[d13468]·[d23468]·[d123468]"),
    (0x28B, "[d568]·[d1568]·[d2568]·[d12568]·[d3568]·[d13568]·[d23568]·[d123568]·[d4568]·[d14568]·[d24568]·[d124568]·[d34568]·[d134568]·[d234568]·[d1234568]"),
    (0x28C, "[d78]·[d178]·[d278]·[d1278]·[d378]·[d1378]·[d2378]·[d12378]·[d478]·[d1478]·[d2478]·[d12478]·[d3478]·[d13478]·[d23478]·[d123478]"),
    (0x28D, "[d578]·[d1578]·[d2578]·[d12578]·[d3578]·[d13578]·[d23578]·[d123578]·[d4578]·[d14578]·[d24578]·[d124578]·[d34578]·[d134578]·[d234578]·[d1234578]"),
    (0x28E, "[d678]·[d1678]·[d2678]·[d12678]·[d3678]·[d13678]·[d23678]·[d123678]·[d4678]·[d14678]·[d24678]·[d124678]·[d34678]·[d134678]·[d234678]·[d1234678]"),
    (0x28F, "[d5678]·[d15678]·[d25678]·[d125678]·[d35678]·[d135678]·[d235678]·[d1235678]·[d45678]·[d145678]·[d245678]·[d1245678]·[d345678]·[d1345678]·[d2345678]·[d12345678]"),
    (0x2A7, "····::=·==·==="), (0x2E1, "·······-···-"), (0x2E2, "··············?"),
    (0x2E3, "··········--·---"), (0xFE1, ",·, ·. ·:·;·!·?·[[·]] ·..."), (0xFE2, "··~·~"),
    (0xFE5, ",·,·.··;·:·?·!·-·(·)·\x7b·\x7d·\x7b·\x7d·#"), (0xFE6, "&·*·+·-·<·>·=··\\·$·%·@"),
    (0xFFF, "·········\x7b·|·\x7d"), (0x1D40, "A·B·C·D·E·F·G·H·I·J·K·L·M·N·O·P"),
    (0x1D41, "Q·R·S·T·U·V·W·X·Y·Z·a·b·c·d·e·f"), (0x1D42, "g·h·i·j·k·l·m·n·o·p·q·r·s·t·u·v"),
    (0x1D43, "w·x·y·z·A·B·C·D·E·F·G·H·I·J·K·L"), (0x1D44, "M·N·O·P·Q·R·S·T·U·V·W·X·Y·Z·a·b"),
    (0x1D45, "c·d·e·f·g··i·j·k·l·m·n·o·p·q·r"), (0x1D46, "s·t·u·v·w·x·y·z·A·B·C·D·E·F·G·H"),
    (0x1D47, "I·J·K·L·M·N·O·P·Q·R·S·T·U·V·W·X"), (0x1D48, "Y·Z·a·b·c·d·e·f·g·h·i·j·k·l·m·n"),
    (0x1D49, "o·p·q·r·s·t·u·v·w·x·y·z·A··C·D"), (0x1D4A, "··G···J·K···N·O·P·Q··S·T"),
    (0x1D4B, "U·V·W·X·Y·Z·a·b·c·d··f··h·i·j"), (0x1D4C, "k·l·m·n··p·q·r·s·t·u·v·w·x·y·z"),
    (0x1D4D, "A·B·C·D·E·F·G·H·I·J·K·L·M·N·O·P"), (0x1D4E, "Q·R·S·T·U·V·W·X·Y·Z·a·b·c·d·e·f"),
    (0x1D4F, "g·h·i·j·k·l·m·n·o·p·q·r·s·t·u·v"), (0x1D50, "w·x·y·z·A·B··D·E·F·G···J·K·L"),
    (0x1D51, "M·N·O·P·Q··S·T·U·V·W·X·Y··a·b"), (0x1D52, "c·d·e·f·g·h·i·j·k·l·m·n·o·p·q·r"),
    (0x1D53, "s·t·u·v·w·x·y·z·A·B··D·E·F·G"), (0x1D54, "I·J·K·L·M··O····S·T·U·V·W·X"),
    (0x1D55, "Y··a·b·c·d·e·f·g·h·i·j·k·l·m·n"), (0x1D56, "o·p·q·r·s·t·u·v·w·x·y·z·A·B·C·D"),
    (0x1D57, "E·F·G·H·I·J·K·L·M·N·O·P·Q·R·S·T"), (0x1D58, "U·V·W·X·Y·Z·a·b·c·d·e·f·g·h·i·j"),
    (0x1D59, "k·l·m·n·o·p·q·r·s·t·u·v·w·x·y·z"), (0x1D5A, "A·B·C·D·E·F·G·H·I·J·K·L·M·N·O·P"),
    (0x1D5B, "Q·R·S·T·U·V·W·X·Y·Z·a·b·c·d·e·f"), (0x1D5C, "g·h·i·j·k·l·m·n·o·p·q·r·s·t·u·v"),
    (0x1D5D, "w·x·y·z·A·B·C·D·E·F·G·H·I·J·K·L"), (0x1D5E, "M·N·O·P·Q·R·S·T·U·V·W·X·Y·Z·a·b"),
    (0x1D5F, "c·d·e·f·g·h·i·j·k·l·m·n·o·p·q·r"), (0x1D60, "s·t·u·v·w·x·y·z·A·B·C·D·E·F·G·H"),
    (0x1D61, "I·J·K·L·M·N·O·P·Q·R·S·T·U·V·W·X"), (0x1D62, "Y·Z·a·b·c·d·e·f·g·h·i·j·k·l·m·n"),
    (0x1D63, "o·p·q·r·s·t·u·v·w·x·y·z·A·B·C·D"), (0x1D64, "E·F·G·H·I·J·K·L·M·N·O·P·Q·R·S·T"),
    (0x1D65, "U·V·W·X·Y·Z·a·b·c·d·e·f·g·h·i·j"), (0x1D66, "k·l·m·n·o·p·q·r·s·t·u·v·w·x·y·z"),
    (0x1D67, "A·B·C·D·E·F·G·H·I·J·K·L·M·N·O·P"), (0x1D68, "Q·R·S·T·U·V·W·X·Y·Z·a·b·c·d·e·f"),
    (0x1D69, "g·h·i·j·k·l·m·n·o·p·q·r·s·t·u·v"), (0x1D6A, "w·x·y·z·i·j···A·B·G·D·E·Z·E·Th"),
    (0x1D6B, "I·K·L·M·N·Ks·O·P·R·Th·S·T·U·Ph·Kh·Ps"), (0x1D6C, "O··a·b·g·d·e·z·e·th·i·k·l·m·n·x"),
    (0x1D6D, "o·p·r·s·s·t·u·ph·kh·ps·o··e·th·k·ph"), (0x1D6E, "r·p·A·B·G·D·E·Z·E·Th·I·K·L·M·N·Ks"),
    (0x1D6F, "O·P·R·Th·S·T·U·Ph·Kh·Ps·O··a·b·g·d"), (0x1D70, "e·z·e·th·i·k·l·m·n·x·o·p·r·s·s·t"),
    (0x1D71, "u·ph·kh·ps·o··e·th·k·ph·r·p·A·B·G·D"), (0x1D72, "E·Z·E·Th·I·K·L·M·N·Ks·O·P·R·Th·S·T"),
    (0x1D73, "U·Ph·Kh·Ps·O··a·b·g·d·e·z·e·th·i·k"), (0x1D74, "l·m·n·x·o·p·r·s·s·t·u·ph·kh·ps·o"),
    (0x1D75, "e·th·k·ph·r·p·A·B·G·D·E·Z·E·Th·I·K"), (0x1D76, "L·M·N·Ks·O·P·R·Th·S·T·U·Ph·Kh·Ps·O"),
    (0x1D77, "a·b·g·d·e·z·e·th·i·k·l·m·n·x·o·p"), (0x1D78, "r·s·s·t·u·ph·kh·ps·o··e·th·k·ph·r·p"),
    (0x1D79, "A·B·G·D·E·Z·E·Th·I·K·L·M·N·Ks·O·P"), (0x1D7A, "R·Th·S·T·U·Ph·Kh·Ps·O··a·b·g·d·e·z"),
    (0x1D7B, "e·th·i·k·l·m·n·x·o·p·r·s·s·t·u·ph"), (0x1D7C, "kh·ps·o··e·th·k·ph·r·p·W·w···0·1"),
    (0x1D7D, "2·3·4·5·6·7·8·9·0·1·2·3·4·5·6·7"), (0x1D7E, "8·9·0·1·2·3·4·5·6·7·8·9·0·1·2·3"),
    (0x1D7F, "4·5·6·7·8·9·0·1·2·3·4·5·6·7·8·9"), (0x1EE0, "·b·j·d··w·z·H·T·y·k·l·m·n·s·\x60"),
    (0x1EE1, "f·S·q·r·sh·t·th·kh·dh·D·Z·G·b·N·F·q"), (0x1EE2, "·b·j··h···H··y·k·l·m·n·s·\x60"),
    (0x1EE3, "f·S·q··sh·t·th·kh··D··G"), (0x1EE4, "··j·····H··y··l··n·s·\x60"),
    (0x1EE5, "·S·q··sh···kh··D··G··N··q"), (0x1EE6, "·b·j··h···H·T·y·k··m·n·s·\x60"),
    (0x1EE7, "f·S·q··sh·t·th·kh··D·Z·G·b··F"), (0x1EE8, "·b·j·d·h·w·z·H·T·y··l·m·n·s·\x60"),
    (0x1EE9, "f·S·q·r·sh·t·th·kh·dh·D·Z·G"), (0x1EEA, "·b·j·d··w·z·H·T·y··l·m·n·s·\x60"),
    (0x1EEB, "f·S·q·r·sh·t·th·kh·dh·D·Z·G"), (0x1F10, "0.·0,·1,·2,·3,·4,·5,·6,·7,·8,·9,"),
    (0x1F11, "(A)·(B)·(C)·(D)·(E)·(F)·(G)·(H)·(I)·(J)·(K)·(L)·(M)·(N)·(O)·(P)"),
    (0x1F12, "(Q)·(R)·(S)·(T)·(U)·(V)·(W)·(X)·(Y)·(Z)·[S] ·C·R·CD·WZ"),
    (0x1F13, "A·B·C·D·E·F·G·H·I·J·K·L·M·N·O·P"), (0x1F14, "Q·R·S·T·U·V·W·X·Y·Z·HV·MV·SD·SS·PPV·WC"),
    (0x1F15, "A·B·C·D·E·F·G·H·I·J·K·L·M·N·O·P"), (0x1F16, "Q·R·S·T·U·V·W·X·Y·Z·MC·MD·MR"),
    (0x1F17, "··C·D·E·F·G·H·I·J·K·L·M·N"), (0x1F18, "Q·R·S·T·U·V·W·X·Y·Z"), (0x1F19, "DJ"),
    (0x1F1E, "······A·B·C·D·E·F·G·H·I·J"), (0x1F1F, "K·L·M·N·O·P·Q·R·S·T·U·V·W·X·Y·Z"),
    (0x1FBF, "0·1·2·3·4·5·6·7·8·9") ]

end Snippet.Spelling
