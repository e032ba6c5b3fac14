namespace TraceView.Text

/-!
# ASCII skeletons

The compatibility decomposition of Unicode 14 takes a character apart into simpler ones.  The
skeleton of a text is what is left of it in ASCII.  The table holds every character beyond ASCII
that leaves something.
-/

/-- Rows of the first character, the number of characters in a row, and what is left of the first
one.  In a row of several characters a single character is left of each, and these ascend too. -/
def skeletonRows : List (Nat × Nat × String) :=
  [(0xA0, 1, " "), (0xA8, 1, " "), (0xAA, 1, "a"), (0xAF, 1, " "), (0xB2, 2, "2"), (0xB4, 1, " "),
    (0xB8, 1, " "), (0xB9, 1, "1"), (0xBA, 1, "o"), (0xBC, 1, "14"), (0xBD, 1, "12"),
    (0xBE, 1, "34"), (0xC0, 1, "A"), (0xC1, 1, "A"), (0xC2, 1, "A"), (0xC3, 1, "A"),
    (0xC4, 1, "A"), (0xC5, 1, "A"), (0xC7, 1, "C"), (0xC8, 1, "E"), (0xC9, 1, "E"),
    (0xCA, 1, "E"), (0xCB, 1, "E"), (0xCC, 1, "I"), (0xCD, 1, "I"), (0xCE, 1, "I"),
    (0xCF, 1, "I"), (0xD1, 2, "N"), (0xD3, 1, "O"), (0xD4, 1, "O"), (0xD5, 1, "O"),
    (0xD6, 1, "O"), (0xD9, 1, "U"), (0xDA, 1, "U"), (0xDB, 1, "U"), (0xDC, 1, "U"),
    (0xDD, 1, "Y"), (0xE0, 1, "a"), (0xE1, 1, "a"), (0xE2, 1, "a"), (0xE3, 1, "a"),
    (0xE4, 1, "a"), (0xE5, 1, "a"), (0xE7, 1, "c"), (0xE8, 1, "e"), (0xE9, 1, "e"),
    (0xEA, 1, "e"), (0xEB, 1, "e"), (0xEC, 1, "i"), (0xED, 1, "i"), (0xEE, 1, "i"),
    (0xEF, 1, "i"), (0xF1, 2, "n"), (0xF3, 1, "o"), (0xF4, 1, "o"), (0xF5, 1, "o"),
    (0xF6, 1, "o"), (0xF9, 1, "u"), (0xFA, 1, "u"), (0xFB, 1, "u"), (0xFC, 1, "u"),
    (0xFD, 1, "y"), (0xFF, 1, "y"), (0x100, 1, "A"), (0x101, 1, "a"), (0x102, 1, "A"),
    (0x103, 1, "a"), (0x104, 1, "A"), (0x105, 1, "a"), (0x106, 1, "C"), (0x107, 1, "c"),
    (0x108, 1, "C"), (0x109, 1, "c"), (0x10A, 1, "C"), (0x10B, 1, "c"), (0x10C, 1, "C"),
    (0x10D, 1, "c"), (0x10E, 1, "D"), (0x10F, 1, "d"), (0x112, 1, "E"), (0x113, 1, "e"),
    (0x114, 1, "E"), (0x115, 1, "e"), (0x116, 1, "E"), (0x117, 1, "e"), (0x118, 1, "E"),
    (0x119, 1, "e"), (0x11A, 1, "E"), (0x11B, 1, "e"), (0x11C, 1, "G"), (0x11D, 1, "g"),
    (0x11E, 1, "G"), (0x11F, 1, "g"), (0x120, 1, "G"), (0x121, 1, "g"), (0x122, 1, "G"),
    (0x123, 1, "g"), (0x124, 1, "H"), (0x125, 1, "h"), (0x128, 1, "I"), (0x129, 1, "i"),
    (0x12A, 1, "I"), (0x12B, 1, "i"), (0x12C, 1, "I"), (0x12D, 1, "i"), (0x12E, 1, "I"),
    (0x12F, 1, "i"), (0x130, 1, "I"), (0x132, 1, "IJ"), (0x133, 1, "ij"), (0x134, 1, "J"),
    (0x135, 1, "j"), (0x136, 1, "K"), (0x137, 1, "k"), (0x139, 1, "L"), (0x13A, 1, "l"),
    (0x13B, 1, "L"), (0x13C, 1, "l"), (0x13D, 1, "L"), (0x13E, 1, "l"), (0x13F, 1, "L"),
    (0x140, 1, "l"), (0x143, 1, "N"), (0x144, 1, "n"), (0x145, 1, "N"), (0x146, 1, "n"),
    (0x147, 1, "N"), (0x148, 1, "n"), (0x149, 1, "n"), (0x14C, 1, "O"), (0x14D, 1, "o"),
    (0x14E, 1, "O"), (0x14F, 1, "o"), (0x150, 1, "O"), (0x151, 1, "o"), (0x154, 1, "R"),
    (0x155, 1, "r"), (0x156, 1, "R"), (0x157, 1, "r"), (0x158, 1, "R"), (0x159, 1, "r"),
    (0x15A, 1, "S"), (0x15B, 1, "s"), (0x15C, 1, "S"), (0x15D, 1, "s"), (0x15E, 1, "S"),
    (0x15F, 1, "s"), (0x160, 1, "S"), (0x161, 1, "s"), (0x162, 1, "T"), (0x163, 1, "t"),
    (0x164, 1, "T"), (0x165, 1, "t"), (0x168, 1, "U"), (0x169, 1, "u"), (0x16A, 1, "U"),
    (0x16B, 1, "u"), (0x16C, 1, "U"), (0x16D, 1, "u"), (0x16E, 1, "U"), (0x16F, 1, "u"),
    (0x170, 1, "U"), (0x171, 1, "u"), (0x172, 1, "U"), (0x173, 1, "u"), (0x174, 1, "W"),
    (0x175, 1, "w"), (0x176, 1, "Y"), (0x177, 1, "y"), (0x178, 2, "Y"), (0x17A, 1, "z"),
    (0x17B, 1, "Z"), (0x17C, 1, "z"), (0x17D, 1, "Z"), (0x17E, 1, "z"), (0x17F, 1, "s"),
    (0x1A0, 1, "O"), (0x1A1, 1, "o"), (0x1AF, 1, "U"), (0x1B0, 1, "u"), (0x1C4, 1, "DZ"),
    (0x1C5, 1, "Dz"), (0x1C6, 1, "dz"), (0x1C7, 1, "LJ"), (0x1C8, 1, "Lj"), (0x1C9, 1, "lj"),
    (0x1CA, 1, "NJ"), (0x1CB, 1, "Nj"), (0x1CC, 1, "nj"), (0x1CD, 1, "A"), (0x1CE, 1, "a"),
    (0x1CF, 1, "I"), (0x1D0, 1, "i"), (0x1D1, 1, "O"), (0x1D2, 1, "o"), (0x1D3, 1, "U"),
    (0x1D4, 1, "u"), (0x1D5, 1, "U"), (0x1D6, 1, "u"), (0x1D7, 1, "U"), (0x1D8, 1, "u"),
    (0x1D9, 1, "U"), (0x1DA, 1, "u"), (0x1DB, 1, "U"), (0x1DC, 1, "u"), (0x1DE, 1, "A"),
    (0x1DF, 1, "a"), (0x1E0, 1, "A"), (0x1E1, 1, "a"), (0x1E6, 1, "G"), (0x1E7, 1, "g"),
    (0x1E8, 1, "K"), (0x1E9, 1, "k"), (0x1EA, 1, "O"), (0x1EB, 1, "o"), (0x1EC, 1, "O"),
    (0x1ED, 1, "o"), (0x1F0, 1, "j"), (0x1F1, 1, "DZ"), (0x1F2, 1, "Dz"), (0x1F3, 1, "dz"),
    (0x1F4, 1, "G"), (0x1F5, 1, "g"), (0x1F8, 1, "N"), (0x1F9, 1, "n"), (0x1FA, 1, "A"),
    (0x1FB, 1, "a"), (0x200, 1, "A"), (0x201, 1, "a"), (0x202, 1, "A"), (0x203, 1, "a"),
    (0x204, 1, "E"), (0x205, 1, "e"), (0x206, 1, "E"), (0x207, 1, "e"), (0x208, 1, "I"),
    (0x209, 1, "i"), (0x20A, 1, "I"), (0x20B, 1, "i"), (0x20C, 1, "O"), (0x20D, 1, "o"),
    (0x20E, 1, "O"), (0x20F, 1, "o"), (0x210, 1, "R"), (0x211, 1, "r"), (0x212, 1, "R"),
    (0x213, 1, "r"), (0x214, 1, "U"), (0x215, 1, "u"), (0x216, 1, "U"), (0x217, 1, "u"),
    (0x218, 1, "S"), (0x219, 1, "s"), (0x21A, 1, "T"), (0x21B, 1, "t"), (0x21E, 1, "H"),
    (0x21F, 1, "h"), (0x226, 1, "A"), (0x227, 1, "a"), (0x228, 1, "E"), (0x229, 1, "e"),
    (0x22A, 1, "O"), (0x22B, 1, "o"), (0x22C, 1, "O"), (0x22D, 1, "o"), (0x22E, 1, "O"),
    (0x22F, 1, "o"), (0x230, 1, "O"), (0x231, 1, "o"), (0x232, 1, "Y"), (0x233, 1, "y"),
    (0x2B0, 1, "h"), (0x2B2, 1, "j"), (0x2B3, 1, "r"), (0x2B7, 1, "w"), (0x2B8, 1, "y"),
    (0x2D8, 1, " "), (0x2D9, 1, " "), (0x2DA, 1, " "), (0x2DB, 1, " "), (0x2DC, 1, " "),
    (0x2DD, 1, " "), (0x2E1, 1, "l"), (0x2E2, 1, "s"), (0x2E3, 1, "x"), (0x37A, 1, " "),
    (0x37E, 1, ";"), (0x384, 1, " "), (0x385, 1, " "), (0x1D2C, 1, "A"), (0x1D2E, 1, "B"),
    (0x1D30, 2, "D"), (0x1D33, 8, "G"), (0x1D3C, 1, "O"), (0x1D3E, 1, "P"), (0x1D3F, 1, "R"),
    (0x1D40, 2, "T"), (0x1D42, 1, "W"), (0x1D43, 1, "a"), (0x1D47, 1, "b"), (0x1D48, 2, "d"),
    (0x1D4D, 1, "g"), (0x1D4F, 1, "k"), (0x1D50, 1, "m"), (0x1D52, 1, "o"), (0x1D56, 1, "p"),
    (0x1D57, 2, "t"), (0x1D5B, 1, "v"), (0x1D62, 1, "i"), (0x1D63, 1, "r"), (0x1D64, 2, "u"),
    (0x1D9C, 1, "c"), (0x1DA0, 1, "f"), (0x1DBB, 1, "z"), (0x1E00, 1, "A"), (0x1E01, 1, "a"),
    (0x1E02, 1, "B"), (0x1E03, 1, "b"), (0x1E04, 1, "B"), (0x1E05, 1, "b"), (0x1E06, 1, "B"),
    (0x1E07, 1, "b"), (0x1E08, 1, "C"), (0x1E09, 1, "c"), (0x1E0A, 1, "D"), (0x1E0B, 1, "d"),
    (0x1E0C, 1, "D"), (0x1E0D, 1, "d"), (0x1E0E, 1, "D"), (0x1E0F, 1, "d"), (0x1E10, 1, "D"),
    (0x1E11, 1, "d"), (0x1E12, 1, "D"), (0x1E13, 1, "d"), (0x1E14, 1, "E"), (0x1E15, 1, "e"),
    (0x1E16, 1, "E"), (0x1E17, 1, "e"), (0x1E18, 1, "E"), (0x1E19, 1, "e"), (0x1E1A, 1, "E"),
    (0x1E1B, 1, "e"), (0x1E1C, 1, "E"), (0x1E1D, 1, "e"), (0x1E1E, 1, "F"), (0x1E1F, 1, "f"),
    (0x1E20, 1, "G"), (0x1E21, 1, "g"), (0x1E22, 1, "H"), (0x1E23, 1, "h"), (0x1E24, 1, "H"),
    (0x1E25, 1, "h"), (0x1E26, 1, "H"), (0x1E27, 1, "h"), (0x1E28, 1, "H"), (0x1E29, 1, "h"),
    (0x1E2A, 1, "H"), (0x1E2B, 1, "h"), (0x1E2C, 1, "I"), (0x1E2D, 1, "i"), (0x1E2E, 1, "I"),
    (0x1E2F, 1, "i"), (0x1E30, 1, "K"), (0x1E31, 1, "k"), (0x1E32, 1, "K"), (0x1E33, 1, "k"),
    (0x1E34, 1, "K"), (0x1E35, 1, "k"), (0x1E36, 1, "L"), (0x1E37, 1, "l"), (0x1E38, 1, "L"),
    (0x1E39, 1, "l"), (0x1E3A, 1, "L"), (0x1E3B, 1, "l"), (0x1E3C, 1, "L"), (0x1E3D, 1, "l"),
    (0x1E3E, 1, "M"), (0x1E3F, 1, "m"), (0x1E40, 1, "M"), (0x1E41, 1, "m"), (0x1E42, 1, "M"),
    (0x1E43, 1, "m"), (0x1E44, 1, "N"), (0x1E45, 1, "n"), (0x1E46, 1, "N"), (0x1E47, 1, "n"),
    (0x1E48, 1, "N"), (0x1E49, 1, "n"), (0x1E4A, 1, "N"), (0x1E4B, 1, "n"), (0x1E4C, 1, "O"),
    (0x1E4D, 1, "o"), (0x1E4E, 1, "O"), (0x1E4F, 1, "o"), (0x1E50, 1, "O"), (0x1E51, 1, "o"),
    (0x1E52, 1, "O"), (0x1E53, 1, "o"), (0x1E54, 1, "P"), (0x1E55, 1, "p"), (0x1E56, 1, "P"),
    (0x1E57, 1, "p"), (0x1E58, 1, "R"), (0x1E59, 1, "r"), (0x1E5A, 1, "R"), (0x1E5B, 1, "r"),
    (0x1E5C, 1, "R"), (0x1E5D, 1, "r"), (0x1E5E, 1, "R"), (0x1E5F, 1, "r"), (0x1E60, 1, "S"),
    (0x1E61, 1, "s"), (0x1E62, 1, "S"), (0x1E63, 1, "s"), (0x1E64, 1, "S"), (0x1E65, 1, "s"),
    (0x1E66, 1, "S"), (0x1E67, 1, "s"), (0x1E68, 1, "S"), (0x1E69, 1, "s"), (0x1E6A, 1, "T"),
    (0x1E6B, 1, "t"), (0x1E6C, 1, "T"), (0x1E6D, 1, "t"), (0x1E6E, 1, "T"), (0x1E6F, 1, "t"),
    (0x1E70, 1, "T"), (0x1E71, 1, "t"), (0x1E72, 1, "U"), (0x1E73, 1, "u"), (0x1E74, 1, "U"),
    (0x1E75, 1, "u"), (0x1E76, 1, "U"), (0x1E77, 1, "u"), (0x1E78, 1, "U"), (0x1E79, 1, "u"),
    (0x1E7A, 1, "U"), (0x1E7B, 1, "u"), (0x1E7C, 1, "V"), (0x1E7D, 1, "v"), (0x1E7E, 1, "V"),
    (0x1E7F, 1, "v"), (0x1E80, 1, "W"), (0x1E81, 1, "w"), (0x1E82, 1, "W"), (0x1E83, 1, "w"),
    (0x1E84, 1, "W"), (0x1E85, 1, "w"), (0x1E86, 1, "W"), (0x1E87, 1, "w"), (0x1E88, 1, "W"),
    (0x1E89, 1, "w"), (0x1E8A, 1, "X"), (0x1E8B, 1, "x"), (0x1E8C, 1, "X"), (0x1E8D, 1, "x"),
    (0x1E8E, 1, "Y"), (0x1E8F, 1, "y"), (0x1E90, 1, "Z"), (0x1E91, 1, "z"), (0x1E92, 1, "Z"),
    (0x1E93, 1, "z"), (0x1E94, 1, "Z"), (0x1E95, 1, "z"), (0x1E96, 1, "h"), (0x1E97, 1, "t"),
    (0x1E98, 1, "w"), (0x1E99, 1, "y"), (0x1E9A, 1, "a"), (0x1E9B, 1, "s"), (0x1EA0, 1, "A"),
    (0x1EA1, 1, "a"), (0x1EA2, 1, "A"), (0x1EA3, 1, "a"), (0x1EA4, 1, "A"), (0x1EA5, 1, "a"),
    (0x1EA6, 1, "A"), (0x1EA7, 1, "a"), (0x1EA8, 1, "A"), (0x1EA9, 1, "a"), (0x1EAA, 1, "A"),
    (0x1EAB, 1, "a"), (0x1EAC, 1, "A"), (0x1EAD, 1, "a"), (0x1EAE, 1, "A"), (0x1EAF, 1, "a"),
    (0x1EB0, 1, "A"), (0x1EB1, 1, "a"), (0x1EB2, 1, "A"), (0x1EB3, 1, "a"), (0x1EB4, 1, "A"),
    (0x1EB5, 1, "a"), (0x1EB6, 1, "A"), (0x1EB7, 1, "a"), (0x1EB8, 1, "E"), (0x1EB9, 1, "e"),
    (0x1EBA, 1, "E"), (0x1EBB, 1, "e"), (0x1EBC, 1, "E"), (0x1EBD, 1, "e"), (0x1EBE, 1, "E"),
    (0x1EBF, 1, "e"), (0x1EC0, 1, "E"), (0x1EC1, 1, "e"), (0x1EC2, 1, "E"), (0x1EC3, 1, "e"),
    (0x1EC4, 1, "E"), (0x1EC5, 1, "e"), (0x1EC6, 1, "E"), (0x1EC7, 1, "e"), (0x1EC8, 1, "I"),
    (0x1EC9, 1, "i"), (0x1ECA, 1, "I"), (0x1ECB, 1, "i"), (0x1ECC, 1, "O"), (0x1ECD, 1, "o"),
    (0x1ECE, 1, "O"), (0x1ECF, 1, "o"), (0x1ED0, 1, "O"), (0x1ED1, 1, "o"), (0x1ED2, 1, "O"),
    (0x1ED3, 1, "o"), (0x1ED4, 1, "O"), (0x1ED5, 1, "o"), (0x1ED6, 1, "O"), (0x1ED7, 1, "o"),
    (0x1ED8, 1, "O"), (0x1ED9, 1, "o"), (0x1EDA, 1, "O"), (0x1EDB, 1, "o"), (0x1EDC, 1, "O"),
    (0x1EDD, 1, "o"), (0x1EDE, 1, "O"), (0x1EDF, 1, "o"), (0x1EE0, 1, "O"), (0x1EE1, 1, "o"),
    (0x1EE2, 1, "O"), (0x1EE3, 1, "o"), (0x1EE4, 1, "U"), (0x1EE5, 1, "u"), (0x1EE6, 1, "U"),
    (0x1EE7, 1, "u"), (0x1EE8, 1, "U"), (0x1EE9, 1, "u"), (0x1EEA, 1, "U"), (0x1EEB, 1, "u"),
    (0x1EEC, 1, "U"), (0x1EED, 1, "u"), (0x1EEE, 1, "U"), (0x1EEF, 1, "u"), (0x1EF0, 1, "U"),
    (0x1EF1, 1, "u"), (0x1EF2, 1, "Y"), (0x1EF3, 1, "y"), (0x1EF4, 1, "Y"), (0x1EF5, 1, "y"),
    (0x1EF6, 1, "Y"), (0x1EF7, 1, "y"), (0x1EF8, 1, "Y"), (0x1EF9, 1, "y"), (0x1FBD, 1, " "),
    (0x1FBF, 1, " "), (0x1FC0, 1, " "), (0x1FC1, 1, " "), (0x1FCD, 1, " "), (0x1FCE, 1, " "),
    (0x1FCF, 1, " "), (0x1FDD, 1, " "), (0x1FDE, 1, " "), (0x1FDF, 1, " "), (0x1FED, 1, " "),
    (0x1FEE, 1, " "), (0x1FEF, 1, "`"), (0x1FFD, 1, " "), (0x1FFE, 1, " "), (0x2000, 1, " "),
    (0x2001, 1, " "), (0x2002, 1, " "), (0x2003, 1, " "), (0x2004, 1, " "), (0x2005, 1, " "),
    (0x2006, 1, " "), (0x2007, 1, " "), (0x2008, 1, " "), (0x2009, 1, " "), (0x200A, 1, " "),
    (0x2017, 1, " "), (0x2024, 1, "."), (0x2025, 1, ".."), (0x2026, 1, "..."), (0x202F, 1, " "),
    (0x203C, 1, "!!"), (0x203E, 1, " "), (0x2047, 1, "??"), (0x2048, 1, "?!"), (0x2049, 1, "!?"),
    (0x205F, 1, " "), (0x2070, 1, "0"), (0x2071, 1, "i"), (0x2074, 6, "4"), (0x207A, 1, "+"),
    (0x207C, 1, "="), (0x207D, 2, "("), (0x207F, 1, "n"), (0x2080, 10, "0"), (0x208A, 1, "+"),
    (0x208C, 1, "="), (0x208D, 2, "("), (0x2090, 1, "a"), (0x2091, 1, "e"), (0x2092, 1, "o"),
    (0x2093, 1, "x"), (0x2095, 1, "h"), (0x2096, 4, "k"), (0x209A, 1, "p"), (0x209B, 2, "s"),
    (0x20A8, 1, "Rs"), (0x2100, 1, "a/c"), (0x2101, 1, "a/s"), (0x2102, 1, "C"), (0x2103, 1, "C"),
    (0x2105, 1, "c/o"), (0x2106, 1, "c/u"), (0x2109, 1, "F"), (0x210A, 1, "g"), (0x210B, 1, "H"),
    (0x210C, 1, "H"), (0x210D, 1, "H"), (0x210E, 1, "h"), (0x2110, 1, "I"), (0x2111, 1, "I"),
    (0x2112, 1, "L"), (0x2113, 1, "l"), (0x2115, 1, "N"), (0x2116, 1, "No"), (0x2119, 3, "P"),
    (0x211C, 1, "R"), (0x211D, 1, "R"), (0x2120, 1, "SM"), (0x2121, 1, "TEL"), (0x2122, 1, "TM"),
    (0x2124, 1, "Z"), (0x2128, 1, "Z"), (0x212A, 1, "K"), (0x212B, 3, "A"), (0x212F, 1, "e"),
    (0x2130, 2, "E"), (0x2133, 1, "M"), (0x2134, 1, "o"), (0x2139, 1, "i"), (0x213B, 1, "FAX"),
    (0x2145, 1, "D"), (0x2146, 2, "d"), (0x2148, 2, "i"), (0x2150, 1, "17"), (0x2151, 1, "19"),
    (0x2152, 1, "110"), (0x2153, 1, "13"), (0x2154, 1, "23"), (0x2155, 1, "15"),
    (0x2156, 1, "25"), (0x2157, 1, "35"), (0x2158, 1, "45"), (0x2159, 1, "16"), (0x215A, 1, "56"),
    (0x215B, 1, "18"), (0x215C, 1, "38"), (0x215D, 1, "58"), (0x215E, 1, "78"), (0x215F, 1, "1"),
    (0x2160, 1, "I"), (0x2161, 1, "II"), (0x2162, 1, "III"), (0x2163, 1, "IV"), (0x2164, 1, "V"),
    (0x2165, 1, "VI"), (0x2166, 1, "VII"), (0x2167, 1, "VIII"), (0x2168, 1, "IX"),
    (0x2169, 1, "X"), (0x216A, 1, "XI"), (0x216B, 1, "XII"), (0x216C, 1, "L"), (0x216D, 2, "C"),
    (0x216F, 1, "M"), (0x2170, 1, "i"), (0x2171, 1, "ii"), (0x2172, 1, "iii"), (0x2173, 1, "iv"),
    (0x2174, 1, "v"), (0x2175, 1, "vi"), (0x2176, 1, "vii"), (0x2177, 1, "viii"),
    (0x2178, 1, "ix"), (0x2179, 1, "x"), (0x217A, 1, "xi"), (0x217B, 1, "xii"), (0x217C, 1, "l"),
    (0x217D, 2, "c"), (0x217F, 1, "m"), (0x2189, 1, "03"), (0x2260, 1, "="), (0x226E, 1, "<"),
    (0x226F, 1, ">"), (0x2460, 9, "1"), (0x2469, 1, "10"), (0x246A, 1, "11"), (0x246B, 1, "12"),
    (0x246C, 1, "13"), (0x246D, 1, "14"), (0x246E, 1, "15"), (0x246F, 1, "16"), (0x2470, 1, "17"),
    (0x2471, 1, "18"), (0x2472, 1, "19"), (0x2473, 1, "20"), (0x2474, 1, "(1)"),
    (0x2475, 1, "(2)"), (0x2476, 1, "(3)"), (0x2477, 1, "(4)"), (0x2478, 1, "(5)"),
    (0x2479, 1, "(6)"), (0x247A, 1, "(7)"), (0x247B, 1, "(8)"), (0x247C, 1, "(9)"),
    (0x247D, 1, "(10)"), (0x247E, 1, "(11)"), (0x247F, 1, "(12)"), (0x2480, 1, "(13)"),
    (0x2481, 1, "(14)"), (0x2482, 1, "(15)"), (0x2483, 1, "(16)"), (0x2484, 1, "(17)"),
    (0x2485, 1, "(18)"), (0x2486, 1, "(19)"), (0x2487, 1, "(20)"), (0x2488, 1, "1."),
    (0x2489, 1, "2."), (0x248A, 1, "3."), (0x248B, 1, "4."), (0x248C, 1, "5."), (0x248D, 1, "6."),
    (0x248E, 1, "7."), (0x248F, 1, "8."), (0x2490, 1, "9."), (0x2491, 1, "10."),
    (0x2492, 1, "11."), (0x2493, 1, "12."), (0x2494, 1, "13."), (0x2495, 1, "14."),
    (0x2496, 1, "15."), (0x2497, 1, "16."), (0x2498, 1, "17."), (0x2499, 1, "18."),
    (0x249A, 1, "19."), (0x249B, 1, "20."), (0x249C, 1, "(a)"), (0x249D, 1, "(b)"),
    (0x249E, 1, "(c)"), (0x249F, 1, "(d)"), (0x24A0, 1, "(e)"), (0x24A1, 1, "(f)"),
    (0x24A2, 1, "(g)"), (0x24A3, 1, "(h)"), (0x24A4, 1, "(i)"), (0x24A5, 1, "(j)"),
    (0x24A6, 1, "(k)"), (0x24A7, 1, "(l)"), (0x24A8, 1, "(m)"), (0x24A9, 1, "(n)"),
    (0x24AA, 1, "(o)"), (0x24AB, 1, "(p)"), (0x24AC, 1, "(q)"), (0x24AD, 1, "(r)"),
    (0x24AE, 1, "(s)"), (0x24AF, 1, "(t)"), (0x24B0, 1, "(u)"), (0x24B1, 1, "(v)"),
    (0x24B2, 1, "(w)"), (0x24B3, 1, "(x)"), (0x24B4, 1, "(y)"), (0x24B5, 1, "(z)"),
    (0x24B6, 26, "A"), (0x24D0, 26, "a"), (0x24EA, 1, "0"), (0x2A74, 1, "::="), (0x2A75, 1, "=="),
    (0x2A76, 1, "==="), (0x2C7C, 1, "j"), (0x2C7D, 1, "V"), (0x3000, 1, " "), (0x309B, 1, " "),
    (0x309C, 1, " "), (0x3200, 1, "()"), (0x3201, 1, "()"), (0x3202, 1, "()"), (0x3203, 1, "()"),
    (0x3204, 1, "()"), (0x3205, 1, "()"), (0x3206, 1, "()"), (0x3207, 1, "()"), (0x3208, 1, "()"),
    (0x3209, 1, "()"), (0x320A, 1, "()"), (0x320B, 1, "()"), (0x320C, 1, "()"), (0x320D, 1, "()"),
    (0x320E, 1, "()"), (0x320F, 1, "()"), (0x3210, 1, "()"), (0x3211, 1, "()"), (0x3212, 1, "()"),
    (0x3213, 1, "()"), (0x3214, 1, "()"), (0x3215, 1, "()"), (0x3216, 1, "()"), (0x3217, 1, "()"),
    (0x3218, 1, "()"), (0x3219, 1, "()"), (0x321A, 1, "()"), (0x321B, 1, "()"), (0x321C, 1, "()"),
    (0x321D, 1, "()"), (0x321E, 1, "()"), (0x3220, 1, "()"), (0x3221, 1, "()"), (0x3222, 1, "()"),
    (0x3223, 1, "()"), (0x3224, 1, "()"), (0x3225, 1, "()"), (0x3226, 1, "()"), (0x3227, 1, "()"),
    (0x3228, 1, "()"), (0x3229, 1, "()"), (0x322A, 1, "()"), (0x322B, 1, "()"), (0x322C, 1, "()"),
    (0x322D, 1, "()"), (0x322E, 1, "()"), (0x322F, 1, "()"), (0x3230, 1, "()"), (0x3231, 1, "()"),
    (0x3232, 1, "()"), (0x3233, 1, "()"), (0x3234, 1, "()"), (0x3235, 1, "()"), (0x3236, 1, "()"),
    (0x3237, 1, "()"), (0x3238, 1, "()"), (0x3239, 1, "()"), (0x323A, 1, "()"), (0x323B, 1, "()"),
    (0x323C, 1, "()"), (0x323D, 1, "()"), (0x323E, 1, "()"), (0x323F, 1, "()"), (0x3240, 1, "()"),
    (0x3241, 1, "()"), (0x3242, 1, "()"), (0x3243, 1, "()"), (0x3250, 1, "PTE"),
    (0x3251, 1, "21"), (0x3252, 1, "22"), (0x3253, 1, "23"), (0x3254, 1, "24"), (0x3255, 1, "25"),
    (0x3256, 1, "26"), (0x3257, 1, "27"), (0x3258, 1, "28"), (0x3259, 1, "29"), (0x325A, 1, "30"),
    (0x325B, 1, "31"), (0x325C, 1, "32"), (0x325D, 1, "33"), (0x325E, 1, "34"), (0x325F, 1, "35"),
    (0x32B1, 1, "36"), (0x32B2, 1, "37"), (0x32B3, 1, "38"), (0x32B4, 1, "39"), (0x32B5, 1, "40"),
    (0x32B6, 1, "41"), (0x32B7, 1, "42"), (0x32B8, 1, "43"), (0x32B9, 1, "44"), (0x32BA, 1, "45"),
    (0x32BB, 1, "46"), (0x32BC, 1, "47"), (0x32BD, 1, "48"), (0x32BE, 1, "49"), (0x32BF, 1, "50"),
    (0x32C0, 9, "1"), (0x32C9, 1, "10"), (0x32CA, 1, "11"), (0x32CB, 1, "12"), (0x32CC, 1, "Hg"),
    (0x32CD, 1, "erg"), (0x32CE, 1, "eV"), (0x32CF, 1, "LTD"), (0x3358, 10, "0"),
    (0x3362, 1, "10"), (0x3363, 1, "11"), (0x3364, 1, "12"), (0x3365, 1, "13"), (0x3366, 1, "14"),
    (0x3367, 1, "15"), (0x3368, 1, "16"), (0x3369, 1, "17"), (0x336A, 1, "18"), (0x336B, 1, "19"),
    (0x336C, 1, "20"), (0x336D, 1, "21"), (0x336E, 1, "22"), (0x336F, 1, "23"), (0x3370, 1, "24"),
    (0x3371, 1, "hPa"), (0x3372, 1, "da"), (0x3373, 1, "AU"), (0x3374, 1, "bar"),
    (0x3375, 1, "oV"), (0x3376, 1, "pc"), (0x3377, 1, "dm"), (0x3378, 1, "dm2"),
    (0x3379, 1, "dm3"), (0x337A, 1, "IU"), (0x3380, 1, "pA"), (0x3381, 1, "nA"), (0x3382, 1, "A"),
    (0x3383, 1, "mA"), (0x3384, 1, "kA"), (0x3385, 1, "KB"), (0x3386, 1, "MB"), (0x3387, 1, "GB"),
    (0x3388, 1, "cal"), (0x3389, 1, "kcal"), (0x338A, 1, "pF"), (0x338B, 1, "nF"),
    (0x338C, 1, "F"), (0x338D, 1, "g"), (0x338E, 1, "mg"), (0x338F, 1, "kg"), (0x3390, 1, "Hz"),
    (0x3391, 1, "kHz"), (0x3392, 1, "MHz"), (0x3393, 1, "GHz"), (0x3394, 1, "THz"),
    (0x3395, 1, "l"), (0x3396, 1, "ml"), (0x3397, 1, "dl"), (0x3398, 1, "kl"), (0x3399, 1, "fm"),
    (0x339A, 1, "nm"), (0x339B, 1, "m"), (0x339C, 1, "mm"), (0x339D, 1, "cm"), (0x339E, 1, "km"),
    (0x339F, 1, "mm2"), (0x33A0, 1, "cm2"), (0x33A1, 1, "m2"), (0x33A2, 1, "km2"),
    (0x33A3, 1, "mm3"), (0x33A4, 1, "cm3"), (0x33A5, 1, "m3"), (0x33A6, 1, "km3"),
    (0x33A7, 1, "ms"), (0x33A8, 1, "ms2"), (0x33A9, 1, "Pa"), (0x33AA, 1, "kPa"),
    (0x33AB, 1, "MPa"), (0x33AC, 1, "GPa"), (0x33AD, 1, "rad"), (0x33AE, 1, "rads"),
    (0x33AF, 1, "rads2"), (0x33B0, 1, "ps"), (0x33B1, 1, "ns"), (0x33B2, 1, "s"),
    (0x33B3, 1, "ms"), (0x33B4, 1, "pV"), (0x33B5, 1, "nV"), (0x33B6, 1, "V"), (0x33B7, 1, "mV"),
    (0x33B8, 1, "kV"), (0x33B9, 1, "MV"), (0x33BA, 1, "pW"), (0x33BB, 1, "nW"), (0x33BC, 1, "W"),
    (0x33BD, 1, "mW"), (0x33BE, 1, "kW"), (0x33BF, 1, "MW"), (0x33C0, 1, "k"), (0x33C1, 1, "M"),
    (0x33C2, 1, "a.m."), (0x33C3, 1, "Bq"), (0x33C4, 1, "cc"), (0x33C5, 1, "cd"),
    (0x33C6, 1, "Ckg"), (0x33C7, 1, "Co."), (0x33C8, 1, "dB"), (0x33C9, 1, "Gy"),
    (0x33CA, 1, "ha"), (0x33CB, 1, "HP"), (0x33CC, 1, "in"), (0x33CD, 1, "KK"), (0x33CE, 1, "KM"),
    (0x33CF, 1, "kt"), (0x33D0, 1, "lm"), (0x33D1, 1, "ln"), (0x33D2, 1, "log"),
    (0x33D3, 1, "lx"), (0x33D4, 1, "mb"), (0x33D5, 1, "mil"), (0x33D6, 1, "mol"),
    (0x33D7, 1, "PH"), (0x33D8, 1, "p.m."), (0x33D9, 1, "PPM"), (0x33DA, 1, "PR"),
    (0x33DB, 1, "sr"), (0x33DC, 1, "Sv"), (0x33DD, 1, "Wb"), (0x33DE, 1, "Vm"), (0x33DF, 1, "Am"),
    (0x33E0, 9, "1"), (0x33E9, 1, "10"), (0x33EA, 1, "11"), (0x33EB, 1, "12"), (0x33EC, 1, "13"),
    (0x33ED, 1, "14"), (0x33EE, 1, "15"), (0x33EF, 1, "16"), (0x33F0, 1, "17"), (0x33F1, 1, "18"),
    (0x33F2, 1, "19"), (0x33F3, 1, "20"), (0x33F4, 1, "21"), (0x33F5, 1, "22"), (0x33F6, 1, "23"),
    (0x33F7, 1, "24"), (0x33F8, 1, "25"), (0x33F9, 1, "26"), (0x33FA, 1, "27"), (0x33FB, 1, "28"),
    (0x33FC, 1, "29"), (0x33FD, 1, "30"), (0x33FE, 1, "31"), (0x33FF, 1, "gal"), (0xA7F2, 1, "C"),
    (0xA7F3, 1, "F"), (0xA7F4, 1, "Q"), (0xFB00, 1, "ff"), (0xFB01, 1, "fi"), (0xFB02, 1, "fl"),
    (0xFB03, 1, "ffi"), (0xFB04, 1, "ffl"), (0xFB05, 1, "st"), (0xFB06, 1, "st"),
    (0xFB29, 1, "+"), (0xFC5E, 1, " "), (0xFC5F, 1, " "), (0xFC60, 1, " "), (0xFC61, 1, " "),
    (0xFC62, 1, " "), (0xFC63, 1, " "), (0xFDFA, 1, "   "), (0xFDFB, 1, " "), (0xFE10, 1, ","),
    (0xFE13, 2, ":"), (0xFE15, 1, "!"), (0xFE16, 1, "?"), (0xFE19, 1, "..."), (0xFE30, 1, ".."),
    (0xFE33, 1, "_"), (0xFE34, 1, "_"), (0xFE35, 2, "("), (0xFE37, 1, "\x7b"),
    (0xFE38, 1, "\x7d"), (0xFE47, 1, "["), (0xFE48, 1, "]"), (0xFE49, 1, " "), (0xFE4A, 1, " "),
    (0xFE4B, 1, " "), (0xFE4C, 1, " "), (0xFE4D, 1, "_"), (0xFE4E, 1, "_"), (0xFE4F, 1, "_"),
    (0xFE50, 1, ","), (0xFE52, 1, "."), (0xFE54, 1, ";"), (0xFE55, 1, ":"), (0xFE56, 1, "?"),
    (0xFE57, 1, "!"), (0xFE59, 2, "("), (0xFE5B, 1, "\x7b"), (0xFE5C, 1, "\x7d"),
    (0xFE5F, 1, "#"), (0xFE60, 1, "&"), (0xFE61, 2, "*"), (0xFE63, 1, "-"), (0xFE64, 1, "<"),
    (0xFE65, 1, ">"), (0xFE66, 1, "="), (0xFE68, 1, "\\"), (0xFE69, 2, "$"), (0xFE6B, 1, "@"),
    (0xFE70, 1, " "), (0xFE72, 1, " "), (0xFE74, 1, " "), (0xFE76, 1, " "), (0xFE78, 1, " "),
    (0xFE7A, 1, " "), (0xFE7C, 1, " "), (0xFE7E, 1, " "), (0xFF01, 94, "!"), (0xFFE3, 1, " "),
    (0x107A5, 1, "q"), (0x1D400, 26, "A"), (0x1D41A, 26, "a"), (0x1D434, 26, "A"),
    (0x1D44E, 7, "a"), (0x1D456, 18, "i"), (0x1D468, 26, "A"), (0x1D482, 26, "a"),
    (0x1D49C, 1, "A"), (0x1D49E, 2, "C"), (0x1D4A2, 1, "G"), (0x1D4A5, 2, "J"), (0x1D4A9, 4, "N"),
    (0x1D4AE, 8, "S"), (0x1D4B6, 4, "a"), (0x1D4BB, 1, "f"), (0x1D4BD, 7, "h"),
    (0x1D4C5, 11, "p"), (0x1D4D0, 26, "A"), (0x1D4EA, 26, "a"), (0x1D504, 2, "A"),
    (0x1D507, 4, "D"), (0x1D50D, 8, "J"), (0x1D516, 7, "S"), (0x1D51E, 26, "a"),
    (0x1D538, 2, "A"), (0x1D53B, 4, "D"), (0x1D540, 5, "I"), (0x1D546, 1, "O"), (0x1D54A, 7, "S"),
    (0x1D552, 26, "a"), (0x1D56C, 26, "A"), (0x1D586, 26, "a"), (0x1D5A0, 26, "A"),
    (0x1D5BA, 26, "a"), (0x1D5D4, 26, "A"), (0x1D5EE, 26, "a"), (0x1D608, 26, "A"),
    (0x1D622, 26, "a"), (0x1D63C, 26, "A"), (0x1D656, 26, "a"), (0x1D670, 26, "A"),
    (0x1D68A, 26, "a"), (0x1D7CE, 10, "0"), (0x1D7D8, 10, "0"), (0x1D7E2, 10, "0"),
    (0x1D7EC, 10, "0"), (0x1D7F6, 10, "0"), (0x1F100, 1, "0."), (0x1F101, 1, "0,"),
    (0x1F102, 1, "1,"), (0x1F103, 1, "2,"), (0x1F104, 1, "3,"), (0x1F105, 1, "4,"),
    (0x1F106, 1, "5,"), (0x1F107, 1, "6,"), (0x1F108, 1, "7,"), (0x1F109, 1, "8,"),
    (0x1F10A, 1, "9,"), (0x1F110, 1, "(A)"), (0x1F111, 1, "(B)"), (0x1F112, 1, "(C)"),
    (0x1F113, 1, "(D)"), (0x1F114, 1, "(E)"), (0x1F115, 1, "(F)"), (0x1F116, 1, "(G)"),
    (0x1F117, 1, "(H)"), (0x1F118, 1, "(I)"), (0x1F119, 1, "(J)"), (0x1F11A, 1, "(K)"),
    (0x1F11B, 1, "(L)"), (0x1F11C, 1, "(M)"), (0x1F11D, 1, "(N)"), (0x1F11E, 1, "(O)"),
    (0x1F11F, 1, "(P)"), (0x1F120, 1, "(Q)"), (0x1F121, 1, "(R)"), (0x1F122, 1, "(S)"),
    (0x1F123, 1, "(T)"), (0x1F124, 1, "(U)"), (0x1F125, 1, "(V)"), (0x1F126, 1, "(W)"),
    (0x1F127, 1, "(X)"), (0x1F128, 1, "(Y)"), (0x1F129, 1, "(Z)"), (0x1F12A, 1, "S"),
    (0x1F12B, 1, "C"), (0x1F12C, 1, "R"), (0x1F12D, 1, "CD"), (0x1F12E, 1, "WZ"),
    (0x1F130, 26, "A"), (0x1F14A, 1, "HV"), (0x1F14B, 1, "MV"), (0x1F14C, 1, "SD"),
    (0x1F14D, 1, "SS"), (0x1F14E, 1, "PPV"), (0x1F14F, 1, "WC"), (0x1F16A, 1, "MC"),
    (0x1F16B, 1, "MD"), (0x1F16C, 1, "MR"), (0x1F190, 1, "DJ"), (0x1FBF0, 10, "0")]

def skeletonOf (c : Char) : List Char :=
  if c.toNat < 128 then [c]
  else
    match skeletonRows.find? fun row => row.1 ≤ c.toNat && c.toNat < row.1 + row.2.1 with
    | none => []
    | some (first, count, text) =>
      if count = 1 then text.toList
      else text.toList.map fun left => Char.ofNat (left.toNat + (c.toNat - first))

def skeleton (text : List Char) : List Char :=
  text.flatMap skeletonOf

end TraceView.Text
