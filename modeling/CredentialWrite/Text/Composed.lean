import CredentialWrite.Text.CombiningClass

/-!
# Composed text

Canonical composition, which is Normalization Form C. A letter with marks has one composed form: its
composites are taken apart, the marks are put into canonical order, and each is put back onto the
letter where a composite of the two exists and no mark in between stands in its way. Some characters
never occur in that form, because others stand for them. Text is a list of code points. The tables
follow version 14 of the Unicode character database.
-/

namespace CredentialWrite.Text

/-- Characters that others stand for. -/
def replacedRanges : List (Nat × Nat) := [
  (0x340, 0x341), (0x343, 0x344), (0x374, 0x374), (0x37E, 0x37E), (0x387, 0x387), (0x958, 0x95F),
  (0x9DC, 0x9DD), (0x9DF, 0x9DF), (0xA33, 0xA33), (0xA36, 0xA36), (0xA59, 0xA5B), (0xA5E, 0xA5E),
  (0xB5C, 0xB5D), (0xF43, 0xF43), (0xF4D, 0xF4D), (0xF52, 0xF52), (0xF57, 0xF57), (0xF5C, 0xF5C),
  (0xF69, 0xF69), (0xF73, 0xF73), (0xF75, 0xF76), (0xF78, 0xF78), (0xF81, 0xF81), (0xF93, 0xF93),
  (0xF9D, 0xF9D), (0xFA2, 0xFA2), (0xFA7, 0xFA7), (0xFAC, 0xFAC), (0xFB9, 0xFB9), (0x1F71, 0x1F71),
  (0x1F73, 0x1F73), (0x1F75, 0x1F75), (0x1F77, 0x1F77), (0x1F79, 0x1F79), (0x1F7B, 0x1F7B),
  (0x1F7D, 0x1F7D), (0x1FBB, 0x1FBB), (0x1FBE, 0x1FBE), (0x1FC9, 0x1FC9), (0x1FCB, 0x1FCB),
  (0x1FD3, 0x1FD3), (0x1FDB, 0x1FDB), (0x1FE3, 0x1FE3), (0x1FEB, 0x1FEB), (0x1FEE, 0x1FEF),
  (0x1FF9, 0x1FF9), (0x1FFB, 0x1FFB), (0x1FFD, 0x1FFD), (0x2000, 0x2001), (0x2126, 0x2126),
  (0x212A, 0x212B), (0x2329, 0x232A), (0x2ADC, 0x2ADC), (0xF900, 0xFA0D), (0xFA10, 0xFA10),
  (0xFA12, 0xFA12), (0xFA15, 0xFA1E), (0xFA20, 0xFA20), (0xFA22, 0xFA22), (0xFA25, 0xFA26),
  (0xFA2A, 0xFA6D), (0xFA70, 0xFAD9), (0xFB1D, 0xFB1D), (0xFB1F, 0xFB1F), (0xFB2A, 0xFB36),
  (0xFB38, 0xFB3C), (0xFB3E, 0xFB3E), (0xFB40, 0xFB41), (0xFB43, 0xFB44), (0xFB46, 0xFB4E),
  (0x1D15E, 0x1D164), (0x1D1BB, 0x1D1C0), (0x2F800, 0x2FA1D)]

/-- The composites by the mark that each ends with, after the rest of it. -/
def composites : List (Nat × List (Nat × Nat)) := [
  (0x300, [
    (0x41, 0xC0), (0x45, 0xC8), (0x49, 0xCC), (0x4F, 0xD2), (0x55, 0xD9), (0x61, 0xE0),
    (0x65, 0xE8), (0x69, 0xEC), (0x6F, 0xF2), (0x75, 0xF9), (0xDC, 0x1DB), (0xFC, 0x1DC),
    (0x4E, 0x1F8), (0x6E, 0x1F9), (0x415, 0x400), (0x418, 0x40D), (0x435, 0x450), (0x438, 0x45D),
    (0x112, 0x1E14), (0x113, 0x1E15), (0x14C, 0x1E50), (0x14D, 0x1E51), (0x57, 0x1E80),
    (0x77, 0x1E81), (0xC2, 0x1EA6), (0xE2, 0x1EA7), (0x102, 0x1EB0), (0x103, 0x1EB1),
    (0xCA, 0x1EC0), (0xEA, 0x1EC1), (0xD4, 0x1ED2), (0xF4, 0x1ED3), (0x1A0, 0x1EDC),
    (0x1A1, 0x1EDD), (0x1AF, 0x1EEA), (0x1B0, 0x1EEB), (0x59, 0x1EF2), (0x79, 0x1EF3),
    (0x1F00, 0x1F02), (0x1F01, 0x1F03), (0x1F08, 0x1F0A), (0x1F09, 0x1F0B), (0x1F10, 0x1F12),
    (0x1F11, 0x1F13), (0x1F18, 0x1F1A), (0x1F19, 0x1F1B), (0x1F20, 0x1F22), (0x1F21, 0x1F23),
    (0x1F28, 0x1F2A), (0x1F29, 0x1F2B), (0x1F30, 0x1F32), (0x1F31, 0x1F33), (0x1F38, 0x1F3A),
    (0x1F39, 0x1F3B), (0x1F40, 0x1F42), (0x1F41, 0x1F43), (0x1F48, 0x1F4A), (0x1F49, 0x1F4B),
    (0x1F50, 0x1F52), (0x1F51, 0x1F53), (0x1F59, 0x1F5B), (0x1F60, 0x1F62), (0x1F61, 0x1F63),
    (0x1F68, 0x1F6A), (0x1F69, 0x1F6B), (0x3B1, 0x1F70), (0x3B5, 0x1F72), (0x3B7, 0x1F74),
    (0x3B9, 0x1F76), (0x3BF, 0x1F78), (0x3C5, 0x1F7A), (0x3C9, 0x1F7C), (0x391, 0x1FBA),
    (0x395, 0x1FC8), (0x397, 0x1FCA), (0x1FBF, 0x1FCD), (0x3CA, 0x1FD2), (0x399, 0x1FDA),
    (0x1FFE, 0x1FDD), (0x3CB, 0x1FE2), (0x3A5, 0x1FEA), (0xA8, 0x1FED), (0x39F, 0x1FF8),
    (0x3A9, 0x1FFA)]),
  (0x301, [
    (0x41, 0xC1), (0x45, 0xC9), (0x49, 0xCD), (0x4F, 0xD3), (0x55, 0xDA), (0x59, 0xDD),
    (0x61, 0xE1), (0x65, 0xE9), (0x69, 0xED), (0x6F, 0xF3), (0x75, 0xFA), (0x79, 0xFD),
    (0x43, 0x106), (0x63, 0x107), (0x4C, 0x139), (0x6C, 0x13A), (0x4E, 0x143), (0x6E, 0x144),
    (0x52, 0x154), (0x72, 0x155), (0x53, 0x15A), (0x73, 0x15B), (0x5A, 0x179), (0x7A, 0x17A),
    (0xDC, 0x1D7), (0xFC, 0x1D8), (0x47, 0x1F4), (0x67, 0x1F5), (0xC5, 0x1FA), (0xE5, 0x1FB),
    (0xC6, 0x1FC), (0xE6, 0x1FD), (0xD8, 0x1FE), (0xF8, 0x1FF), (0xA8, 0x385), (0x391, 0x386),
    (0x395, 0x388), (0x397, 0x389), (0x399, 0x38A), (0x39F, 0x38C), (0x3A5, 0x38E), (0x3A9, 0x38F),
    (0x3CA, 0x390), (0x3B1, 0x3AC), (0x3B5, 0x3AD), (0x3B7, 0x3AE), (0x3B9, 0x3AF), (0x3CB, 0x3B0),
    (0x3BF, 0x3CC), (0x3C5, 0x3CD), (0x3C9, 0x3CE), (0x3D2, 0x3D3), (0x413, 0x403), (0x41A, 0x40C),
    (0x433, 0x453), (0x43A, 0x45C), (0xC7, 0x1E08), (0xE7, 0x1E09), (0x112, 0x1E16),
    (0x113, 0x1E17), (0xCF, 0x1E2E), (0xEF, 0x1E2F), (0x4B, 0x1E30), (0x6B, 0x1E31), (0x4D, 0x1E3E),
    (0x6D, 0x1E3F), (0xD5, 0x1E4C), (0xF5, 0x1E4D), (0x14C, 0x1E52), (0x14D, 0x1E53),
    (0x50, 0x1E54), (0x70, 0x1E55), (0x168, 0x1E78), (0x169, 0x1E79), (0x57, 0x1E82),
    (0x77, 0x1E83), (0xC2, 0x1EA4), (0xE2, 0x1EA5), (0x102, 0x1EAE), (0x103, 0x1EAF),
    (0xCA, 0x1EBE), (0xEA, 0x1EBF), (0xD4, 0x1ED0), (0xF4, 0x1ED1), (0x1A0, 0x1EDA),
    (0x1A1, 0x1EDB), (0x1AF, 0x1EE8), (0x1B0, 0x1EE9), (0x1F00, 0x1F04), (0x1F01, 0x1F05),
    (0x1F08, 0x1F0C), (0x1F09, 0x1F0D), (0x1F10, 0x1F14), (0x1F11, 0x1F15), (0x1F18, 0x1F1C),
    (0x1F19, 0x1F1D), (0x1F20, 0x1F24), (0x1F21, 0x1F25), (0x1F28, 0x1F2C), (0x1F29, 0x1F2D),
    (0x1F30, 0x1F34), (0x1F31, 0x1F35), (0x1F38, 0x1F3C), (0x1F39, 0x1F3D), (0x1F40, 0x1F44),
    (0x1F41, 0x1F45), (0x1F48, 0x1F4C), (0x1F49, 0x1F4D), (0x1F50, 0x1F54), (0x1F51, 0x1F55),
    (0x1F59, 0x1F5D), (0x1F60, 0x1F64), (0x1F61, 0x1F65), (0x1F68, 0x1F6C), (0x1F69, 0x1F6D),
    (0x1FBF, 0x1FCE), (0x1FFE, 0x1FDE)]),
  (0x302, [
    (0x41, 0xC2), (0x45, 0xCA), (0x49, 0xCE), (0x4F, 0xD4), (0x55, 0xDB), (0x61, 0xE2),
    (0x65, 0xEA), (0x69, 0xEE), (0x6F, 0xF4), (0x75, 0xFB), (0x43, 0x108), (0x63, 0x109),
    (0x47, 0x11C), (0x67, 0x11D), (0x48, 0x124), (0x68, 0x125), (0x4A, 0x134), (0x6A, 0x135),
    (0x53, 0x15C), (0x73, 0x15D), (0x57, 0x174), (0x77, 0x175), (0x59, 0x176), (0x79, 0x177),
    (0x5A, 0x1E90), (0x7A, 0x1E91), (0x1EA0, 0x1EAC), (0x1EA1, 0x1EAD), (0x1EB8, 0x1EC6),
    (0x1EB9, 0x1EC7), (0x1ECC, 0x1ED8), (0x1ECD, 0x1ED9)]),
  (0x303, [
    (0x41, 0xC3), (0x4E, 0xD1), (0x4F, 0xD5), (0x61, 0xE3), (0x6E, 0xF1), (0x6F, 0xF5),
    (0x49, 0x128), (0x69, 0x129), (0x55, 0x168), (0x75, 0x169), (0x56, 0x1E7C), (0x76, 0x1E7D),
    (0xC2, 0x1EAA), (0xE2, 0x1EAB), (0x102, 0x1EB4), (0x103, 0x1EB5), (0x45, 0x1EBC),
    (0x65, 0x1EBD), (0xCA, 0x1EC4), (0xEA, 0x1EC5), (0xD4, 0x1ED6), (0xF4, 0x1ED7), (0x1A0, 0x1EE0),
    (0x1A1, 0x1EE1), (0x1AF, 0x1EEE), (0x1B0, 0x1EEF), (0x59, 0x1EF8), (0x79, 0x1EF9)]),
  (0x304, [
    (0x41, 0x100), (0x61, 0x101), (0x45, 0x112), (0x65, 0x113), (0x49, 0x12A), (0x69, 0x12B),
    (0x4F, 0x14C), (0x6F, 0x14D), (0x55, 0x16A), (0x75, 0x16B), (0xDC, 0x1D5), (0xFC, 0x1D6),
    (0xC4, 0x1DE), (0xE4, 0x1DF), (0x226, 0x1E0), (0x227, 0x1E1), (0xC6, 0x1E2), (0xE6, 0x1E3),
    (0x1EA, 0x1EC), (0x1EB, 0x1ED), (0xD6, 0x22A), (0xF6, 0x22B), (0xD5, 0x22C), (0xF5, 0x22D),
    (0x22E, 0x230), (0x22F, 0x231), (0x59, 0x232), (0x79, 0x233), (0x418, 0x4E2), (0x438, 0x4E3),
    (0x423, 0x4EE), (0x443, 0x4EF), (0x47, 0x1E20), (0x67, 0x1E21), (0x1E36, 0x1E38),
    (0x1E37, 0x1E39), (0x1E5A, 0x1E5C), (0x1E5B, 0x1E5D), (0x3B1, 0x1FB1), (0x391, 0x1FB9),
    (0x3B9, 0x1FD1), (0x399, 0x1FD9), (0x3C5, 0x1FE1), (0x3A5, 0x1FE9)]),
  (0x306, [
    (0x41, 0x102), (0x61, 0x103), (0x45, 0x114), (0x65, 0x115), (0x47, 0x11E), (0x67, 0x11F),
    (0x49, 0x12C), (0x69, 0x12D), (0x4F, 0x14E), (0x6F, 0x14F), (0x55, 0x16C), (0x75, 0x16D),
    (0x423, 0x40E), (0x418, 0x419), (0x438, 0x439), (0x443, 0x45E), (0x416, 0x4C1), (0x436, 0x4C2),
    (0x410, 0x4D0), (0x430, 0x4D1), (0x415, 0x4D6), (0x435, 0x4D7), (0x228, 0x1E1C),
    (0x229, 0x1E1D), (0x1EA0, 0x1EB6), (0x1EA1, 0x1EB7), (0x3B1, 0x1FB0), (0x391, 0x1FB8),
    (0x3B9, 0x1FD0), (0x399, 0x1FD8), (0x3C5, 0x1FE0), (0x3A5, 0x1FE8)]),
  (0x307, [
    (0x43, 0x10A), (0x63, 0x10B), (0x45, 0x116), (0x65, 0x117), (0x47, 0x120), (0x67, 0x121),
    (0x49, 0x130), (0x5A, 0x17B), (0x7A, 0x17C), (0x41, 0x226), (0x61, 0x227), (0x4F, 0x22E),
    (0x6F, 0x22F), (0x42, 0x1E02), (0x62, 0x1E03), (0x44, 0x1E0A), (0x64, 0x1E0B), (0x46, 0x1E1E),
    (0x66, 0x1E1F), (0x48, 0x1E22), (0x68, 0x1E23), (0x4D, 0x1E40), (0x6D, 0x1E41), (0x4E, 0x1E44),
    (0x6E, 0x1E45), (0x50, 0x1E56), (0x70, 0x1E57), (0x52, 0x1E58), (0x72, 0x1E59), (0x53, 0x1E60),
    (0x73, 0x1E61), (0x15A, 0x1E64), (0x15B, 0x1E65), (0x160, 0x1E66), (0x161, 0x1E67),
    (0x1E62, 0x1E68), (0x1E63, 0x1E69), (0x54, 0x1E6A), (0x74, 0x1E6B), (0x57, 0x1E86),
    (0x77, 0x1E87), (0x58, 0x1E8A), (0x78, 0x1E8B), (0x59, 0x1E8E), (0x79, 0x1E8F),
    (0x17F, 0x1E9B)]),
  (0x308, [
    (0x41, 0xC4), (0x45, 0xCB), (0x49, 0xCF), (0x4F, 0xD6), (0x55, 0xDC), (0x61, 0xE4),
    (0x65, 0xEB), (0x69, 0xEF), (0x6F, 0xF6), (0x75, 0xFC), (0x79, 0xFF), (0x59, 0x178),
    (0x399, 0x3AA), (0x3A5, 0x3AB), (0x3B9, 0x3CA), (0x3C5, 0x3CB), (0x3D2, 0x3D4), (0x415, 0x401),
    (0x406, 0x407), (0x435, 0x451), (0x456, 0x457), (0x410, 0x4D2), (0x430, 0x4D3), (0x4D8, 0x4DA),
    (0x4D9, 0x4DB), (0x416, 0x4DC), (0x436, 0x4DD), (0x417, 0x4DE), (0x437, 0x4DF), (0x418, 0x4E4),
    (0x438, 0x4E5), (0x41E, 0x4E6), (0x43E, 0x4E7), (0x4E8, 0x4EA), (0x4E9, 0x4EB), (0x42D, 0x4EC),
    (0x44D, 0x4ED), (0x423, 0x4F0), (0x443, 0x4F1), (0x427, 0x4F4), (0x447, 0x4F5), (0x42B, 0x4F8),
    (0x44B, 0x4F9), (0x48, 0x1E26), (0x68, 0x1E27), (0xD5, 0x1E4E), (0xF5, 0x1E4F), (0x16A, 0x1E7A),
    (0x16B, 0x1E7B), (0x57, 0x1E84), (0x77, 0x1E85), (0x58, 0x1E8C), (0x78, 0x1E8D),
    (0x74, 0x1E97)]),
  (0x309, [
    (0x41, 0x1EA2), (0x61, 0x1EA3), (0xC2, 0x1EA8), (0xE2, 0x1EA9), (0x102, 0x1EB2),
    (0x103, 0x1EB3), (0x45, 0x1EBA), (0x65, 0x1EBB), (0xCA, 0x1EC2), (0xEA, 0x1EC3), (0x49, 0x1EC8),
    (0x69, 0x1EC9), (0x4F, 0x1ECE), (0x6F, 0x1ECF), (0xD4, 0x1ED4), (0xF4, 0x1ED5), (0x1A0, 0x1EDE),
    (0x1A1, 0x1EDF), (0x55, 0x1EE6), (0x75, 0x1EE7), (0x1AF, 0x1EEC), (0x1B0, 0x1EED),
    (0x59, 0x1EF6), (0x79, 0x1EF7)]),
  (0x30A, [
    (0x41, 0xC5), (0x61, 0xE5), (0x55, 0x16E), (0x75, 0x16F), (0x77, 0x1E98), (0x79, 0x1E99)]),
  (0x30B, [
    (0x4F, 0x150), (0x6F, 0x151), (0x55, 0x170), (0x75, 0x171), (0x423, 0x4F2), (0x443, 0x4F3)]),
  (0x30C, [
    (0x43, 0x10C), (0x63, 0x10D), (0x44, 0x10E), (0x64, 0x10F), (0x45, 0x11A), (0x65, 0x11B),
    (0x4C, 0x13D), (0x6C, 0x13E), (0x4E, 0x147), (0x6E, 0x148), (0x52, 0x158), (0x72, 0x159),
    (0x53, 0x160), (0x73, 0x161), (0x54, 0x164), (0x74, 0x165), (0x5A, 0x17D), (0x7A, 0x17E),
    (0x41, 0x1CD), (0x61, 0x1CE), (0x49, 0x1CF), (0x69, 0x1D0), (0x4F, 0x1D1), (0x6F, 0x1D2),
    (0x55, 0x1D3), (0x75, 0x1D4), (0xDC, 0x1D9), (0xFC, 0x1DA), (0x47, 0x1E6), (0x67, 0x1E7),
    (0x4B, 0x1E8), (0x6B, 0x1E9), (0x1B7, 0x1EE), (0x292, 0x1EF), (0x6A, 0x1F0), (0x48, 0x21E),
    (0x68, 0x21F)]),
  (0x30F, [
    (0x41, 0x200), (0x61, 0x201), (0x45, 0x204), (0x65, 0x205), (0x49, 0x208), (0x69, 0x209),
    (0x4F, 0x20C), (0x6F, 0x20D), (0x52, 0x210), (0x72, 0x211), (0x55, 0x214), (0x75, 0x215),
    (0x474, 0x476), (0x475, 0x477)]),
  (0x311, [
    (0x41, 0x202), (0x61, 0x203), (0x45, 0x206), (0x65, 0x207), (0x49, 0x20A), (0x69, 0x20B),
    (0x4F, 0x20E), (0x6F, 0x20F), (0x52, 0x212), (0x72, 0x213), (0x55, 0x216), (0x75, 0x217)]),
  (0x313, [
    (0x3B1, 0x1F00), (0x391, 0x1F08), (0x3B5, 0x1F10), (0x395, 0x1F18), (0x3B7, 0x1F20),
    (0x397, 0x1F28), (0x3B9, 0x1F30), (0x399, 0x1F38), (0x3BF, 0x1F40), (0x39F, 0x1F48),
    (0x3C5, 0x1F50), (0x3C9, 0x1F60), (0x3A9, 0x1F68), (0x3C1, 0x1FE4)]),
  (0x314, [
    (0x3B1, 0x1F01), (0x391, 0x1F09), (0x3B5, 0x1F11), (0x395, 0x1F19), (0x3B7, 0x1F21),
    (0x397, 0x1F29), (0x3B9, 0x1F31), (0x399, 0x1F39), (0x3BF, 0x1F41), (0x39F, 0x1F49),
    (0x3C5, 0x1F51), (0x3A5, 0x1F59), (0x3C9, 0x1F61), (0x3A9, 0x1F69), (0x3C1, 0x1FE5),
    (0x3A1, 0x1FEC)]),
  (0x31B, [(0x4F, 0x1A0), (0x6F, 0x1A1), (0x55, 0x1AF), (0x75, 0x1B0)]),
  (0x323, [
    (0x42, 0x1E04), (0x62, 0x1E05), (0x44, 0x1E0C), (0x64, 0x1E0D), (0x48, 0x1E24), (0x68, 0x1E25),
    (0x4B, 0x1E32), (0x6B, 0x1E33), (0x4C, 0x1E36), (0x6C, 0x1E37), (0x4D, 0x1E42), (0x6D, 0x1E43),
    (0x4E, 0x1E46), (0x6E, 0x1E47), (0x52, 0x1E5A), (0x72, 0x1E5B), (0x53, 0x1E62), (0x73, 0x1E63),
    (0x54, 0x1E6C), (0x74, 0x1E6D), (0x56, 0x1E7E), (0x76, 0x1E7F), (0x57, 0x1E88), (0x77, 0x1E89),
    (0x5A, 0x1E92), (0x7A, 0x1E93), (0x41, 0x1EA0), (0x61, 0x1EA1), (0x45, 0x1EB8), (0x65, 0x1EB9),
    (0x49, 0x1ECA), (0x69, 0x1ECB), (0x4F, 0x1ECC), (0x6F, 0x1ECD), (0x1A0, 0x1EE2),
    (0x1A1, 0x1EE3), (0x55, 0x1EE4), (0x75, 0x1EE5), (0x1AF, 0x1EF0), (0x1B0, 0x1EF1),
    (0x59, 0x1EF4), (0x79, 0x1EF5)]),
  (0x324, [(0x55, 0x1E72), (0x75, 0x1E73)]),
  (0x325, [(0x41, 0x1E00), (0x61, 0x1E01)]),
  (0x326, [(0x53, 0x218), (0x73, 0x219), (0x54, 0x21A), (0x74, 0x21B)]),
  (0x327, [
    (0x43, 0xC7), (0x63, 0xE7), (0x47, 0x122), (0x67, 0x123), (0x4B, 0x136), (0x6B, 0x137),
    (0x4C, 0x13B), (0x6C, 0x13C), (0x4E, 0x145), (0x6E, 0x146), (0x52, 0x156), (0x72, 0x157),
    (0x53, 0x15E), (0x73, 0x15F), (0x54, 0x162), (0x74, 0x163), (0x45, 0x228), (0x65, 0x229),
    (0x44, 0x1E10), (0x64, 0x1E11), (0x48, 0x1E28), (0x68, 0x1E29)]),
  (0x328, [
    (0x41, 0x104), (0x61, 0x105), (0x45, 0x118), (0x65, 0x119), (0x49, 0x12E), (0x69, 0x12F),
    (0x55, 0x172), (0x75, 0x173), (0x4F, 0x1EA), (0x6F, 0x1EB)]),
  (0x32D, [
    (0x44, 0x1E12), (0x64, 0x1E13), (0x45, 0x1E18), (0x65, 0x1E19), (0x4C, 0x1E3C), (0x6C, 0x1E3D),
    (0x4E, 0x1E4A), (0x6E, 0x1E4B), (0x54, 0x1E70), (0x74, 0x1E71), (0x55, 0x1E76),
    (0x75, 0x1E77)]),
  (0x32E, [(0x48, 0x1E2A), (0x68, 0x1E2B)]),
  (0x330, [
    (0x45, 0x1E1A), (0x65, 0x1E1B), (0x49, 0x1E2C), (0x69, 0x1E2D), (0x55, 0x1E74),
    (0x75, 0x1E75)]),
  (0x331, [
    (0x42, 0x1E06), (0x62, 0x1E07), (0x44, 0x1E0E), (0x64, 0x1E0F), (0x4B, 0x1E34), (0x6B, 0x1E35),
    (0x4C, 0x1E3A), (0x6C, 0x1E3B), (0x4E, 0x1E48), (0x6E, 0x1E49), (0x52, 0x1E5E), (0x72, 0x1E5F),
    (0x54, 0x1E6E), (0x74, 0x1E6F), (0x5A, 0x1E94), (0x7A, 0x1E95), (0x68, 0x1E96)]),
  (0x338, [
    (0x2190, 0x219A), (0x2192, 0x219B), (0x2194, 0x21AE), (0x21D0, 0x21CD), (0x21D4, 0x21CE),
    (0x21D2, 0x21CF), (0x2203, 0x2204), (0x2208, 0x2209), (0x220B, 0x220C), (0x2223, 0x2224),
    (0x2225, 0x2226), (0x223C, 0x2241), (0x2243, 0x2244), (0x2245, 0x2247), (0x2248, 0x2249),
    (0x3D, 0x2260), (0x2261, 0x2262), (0x224D, 0x226D), (0x3C, 0x226E), (0x3E, 0x226F),
    (0x2264, 0x2270), (0x2265, 0x2271), (0x2272, 0x2274), (0x2273, 0x2275), (0x2276, 0x2278),
    (0x2277, 0x2279), (0x227A, 0x2280), (0x227B, 0x2281), (0x2282, 0x2284), (0x2283, 0x2285),
    (0x2286, 0x2288), (0x2287, 0x2289), (0x22A2, 0x22AC), (0x22A8, 0x22AD), (0x22A9, 0x22AE),
    (0x22AB, 0x22AF), (0x227C, 0x22E0), (0x227D, 0x22E1), (0x2291, 0x22E2), (0x2292, 0x22E3),
    (0x22B2, 0x22EA), (0x22B3, 0x22EB), (0x22B4, 0x22EC), (0x22B5, 0x22ED)]),
  (0x342, [
    (0x1F00, 0x1F06), (0x1F01, 0x1F07), (0x1F08, 0x1F0E), (0x1F09, 0x1F0F), (0x1F20, 0x1F26),
    (0x1F21, 0x1F27), (0x1F28, 0x1F2E), (0x1F29, 0x1F2F), (0x1F30, 0x1F36), (0x1F31, 0x1F37),
    (0x1F38, 0x1F3E), (0x1F39, 0x1F3F), (0x1F50, 0x1F56), (0x1F51, 0x1F57), (0x1F59, 0x1F5F),
    (0x1F60, 0x1F66), (0x1F61, 0x1F67), (0x1F68, 0x1F6E), (0x1F69, 0x1F6F), (0x3B1, 0x1FB6),
    (0xA8, 0x1FC1), (0x3B7, 0x1FC6), (0x1FBF, 0x1FCF), (0x3B9, 0x1FD6), (0x3CA, 0x1FD7),
    (0x1FFE, 0x1FDF), (0x3C5, 0x1FE6), (0x3CB, 0x1FE7), (0x3C9, 0x1FF6)]),
  (0x345, [
    (0x1F00, 0x1F80), (0x1F01, 0x1F81), (0x1F02, 0x1F82), (0x1F03, 0x1F83), (0x1F04, 0x1F84),
    (0x1F05, 0x1F85), (0x1F06, 0x1F86), (0x1F07, 0x1F87), (0x1F08, 0x1F88), (0x1F09, 0x1F89),
    (0x1F0A, 0x1F8A), (0x1F0B, 0x1F8B), (0x1F0C, 0x1F8C), (0x1F0D, 0x1F8D), (0x1F0E, 0x1F8E),
    (0x1F0F, 0x1F8F), (0x1F20, 0x1F90), (0x1F21, 0x1F91), (0x1F22, 0x1F92), (0x1F23, 0x1F93),
    (0x1F24, 0x1F94), (0x1F25, 0x1F95), (0x1F26, 0x1F96), (0x1F27, 0x1F97), (0x1F28, 0x1F98),
    (0x1F29, 0x1F99), (0x1F2A, 0x1F9A), (0x1F2B, 0x1F9B), (0x1F2C, 0x1F9C), (0x1F2D, 0x1F9D),
    (0x1F2E, 0x1F9E), (0x1F2F, 0x1F9F), (0x1F60, 0x1FA0), (0x1F61, 0x1FA1), (0x1F62, 0x1FA2),
    (0x1F63, 0x1FA3), (0x1F64, 0x1FA4), (0x1F65, 0x1FA5), (0x1F66, 0x1FA6), (0x1F67, 0x1FA7),
    (0x1F68, 0x1FA8), (0x1F69, 0x1FA9), (0x1F6A, 0x1FAA), (0x1F6B, 0x1FAB), (0x1F6C, 0x1FAC),
    (0x1F6D, 0x1FAD), (0x1F6E, 0x1FAE), (0x1F6F, 0x1FAF), (0x1F70, 0x1FB2), (0x3B1, 0x1FB3),
    (0x3AC, 0x1FB4), (0x1FB6, 0x1FB7), (0x391, 0x1FBC), (0x1F74, 0x1FC2), (0x3B7, 0x1FC3),
    (0x3AE, 0x1FC4), (0x1FC6, 0x1FC7), (0x397, 0x1FCC), (0x1F7C, 0x1FF2), (0x3C9, 0x1FF3),
    (0x3CE, 0x1FF4), (0x1FF6, 0x1FF7), (0x3A9, 0x1FFC)]),
  (0x653, [(0x627, 0x622)]),
  (0x654, [
    (0x627, 0x623), (0x648, 0x624), (0x64A, 0x626), (0x6D5, 0x6C0), (0x6C1, 0x6C2),
    (0x6D2, 0x6D3)]),
  (0x655, [(0x627, 0x625)]),
  (0x93C, [(0x928, 0x929), (0x930, 0x931), (0x933, 0x934)]),
  (0x9BE, [(0x9C7, 0x9CB)]),
  (0x9D7, [(0x9C7, 0x9CC)]),
  (0xB3E, [(0xB47, 0xB4B)]),
  (0xB56, [(0xB47, 0xB48)]),
  (0xB57, [(0xB47, 0xB4C)]),
  (0xBBE, [(0xBC6, 0xBCA), (0xBC7, 0xBCB)]),
  (0xBD7, [(0xB92, 0xB94), (0xBC6, 0xBCC)]),
  (0xC56, [(0xC46, 0xC48)]),
  (0xCC2, [(0xCC6, 0xCCA)]),
  (0xCD5, [(0xCBF, 0xCC0), (0xCC6, 0xCC7), (0xCCA, 0xCCB)]),
  (0xCD6, [(0xCC6, 0xCC8)]),
  (0xD3E, [(0xD46, 0xD4A), (0xD47, 0xD4B)]),
  (0xD57, [(0xD46, 0xD4C)]),
  (0xDCA, [(0xDD9, 0xDDA), (0xDDC, 0xDDD)]),
  (0xDCF, [(0xDD9, 0xDDC)]),
  (0xDDF, [(0xDD9, 0xDDE)]),
  (0x102E, [(0x1025, 0x1026)]),
  (0x1B35, [
    (0x1B05, 0x1B06), (0x1B07, 0x1B08), (0x1B09, 0x1B0A), (0x1B0B, 0x1B0C), (0x1B0D, 0x1B0E),
    (0x1B11, 0x1B12), (0x1B3A, 0x1B3B), (0x1B3C, 0x1B3D), (0x1B3E, 0x1B40), (0x1B3F, 0x1B41),
    (0x1B42, 0x1B43)]),
  (0x3099, [
    (0x304B, 0x304C), (0x304D, 0x304E), (0x304F, 0x3050), (0x3051, 0x3052), (0x3053, 0x3054),
    (0x3055, 0x3056), (0x3057, 0x3058), (0x3059, 0x305A), (0x305B, 0x305C), (0x305D, 0x305E),
    (0x305F, 0x3060), (0x3061, 0x3062), (0x3064, 0x3065), (0x3066, 0x3067), (0x3068, 0x3069),
    (0x306F, 0x3070), (0x3072, 0x3073), (0x3075, 0x3076), (0x3078, 0x3079), (0x307B, 0x307C),
    (0x3046, 0x3094), (0x309D, 0x309E), (0x30AB, 0x30AC), (0x30AD, 0x30AE), (0x30AF, 0x30B0),
    (0x30B1, 0x30B2), (0x30B3, 0x30B4), (0x30B5, 0x30B6), (0x30B7, 0x30B8), (0x30B9, 0x30BA),
    (0x30BB, 0x30BC), (0x30BD, 0x30BE), (0x30BF, 0x30C0), (0x30C1, 0x30C2), (0x30C4, 0x30C5),
    (0x30C6, 0x30C7), (0x30C8, 0x30C9), (0x30CF, 0x30D0), (0x30D2, 0x30D3), (0x30D5, 0x30D6),
    (0x30D8, 0x30D9), (0x30DB, 0x30DC), (0x30A6, 0x30F4), (0x30EF, 0x30F7), (0x30F0, 0x30F8),
    (0x30F1, 0x30F9), (0x30F2, 0x30FA), (0x30FD, 0x30FE)]),
  (0x309A, [
    (0x306F, 0x3071), (0x3072, 0x3074), (0x3075, 0x3077), (0x3078, 0x307A), (0x307B, 0x307D),
    (0x30CF, 0x30D1), (0x30D2, 0x30D4), (0x30D5, 0x30D7), (0x30D8, 0x30DA), (0x30DB, 0x30DD)]),
  (0x110BA, [(0x11099, 0x1109A), (0x1109B, 0x1109C), (0x110A5, 0x110AB)]),
  (0x11127, [(0x11131, 0x1112E), (0x11132, 0x1112F)]),
  (0x1133E, [(0x11347, 0x1134B)]),
  (0x11357, [(0x11347, 0x1134C)]),
  (0x114B0, [(0x114B9, 0x114BC)]),
  (0x114BA, [(0x114B9, 0x114BB)]),
  (0x114BD, [(0x114B9, 0x114BE)]),
  (0x115AF, [(0x115B8, 0x115BA), (0x115B9, 0x115BB)]),
  (0x11930, [(0x11935, 0x11938)])]

/-- Korean syllables are made of a leading consonant, a vowel and maybe a trailing consonant. -/
structure Syllable where
  lead : Nat
  vowel : Nat
  trail : Nat

namespace Syllable

def firstCode : Nat := 0xAC00
def firstLead : Nat := 0x1100
def firstVowel : Nat := 0x1161

/-- The code point before the first trailing consonant. -/
def noTrail : Nat := 0x11A7

def leads : Nat := 19
def vowels : Nat := 21
def trails : Nat := 28

def ofCode? (n : Nat) : Option Syllable :=
  if firstCode ≤ n ∧ n < firstCode + leads * vowels * trails then
    let i := n - firstCode
    some ⟨i / (vowels * trails), i / trails % vowels, i % trails⟩
  else none

def code (s : Syllable) : Nat := firstCode + (s.lead * vowels + s.vowel) * trails + s.trail

/-- The consonants and the vowel on their own. -/
def parts (s : Syllable) : List Nat :=
  [firstLead + s.lead, firstVowel + s.vowel] ++
    if s.trail = 0 then [] else [noTrail + s.trail]

/-- The syllable of two neighbours: a consonant and a vowel, or a syllable without an end and a
consonant. -/
def ofPair? (a b : Nat) : Option Syllable :=
  if firstLead ≤ a ∧ a < firstLead + leads ∧ firstVowel ≤ b ∧ b < firstVowel + vowels then
    some ⟨a - firstLead, b - firstVowel, 0⟩
  else if noTrail < b ∧ b < noTrail + trails then
    (ofCode? a).bind fun s => if s.trail = 0 then some { s with trail := b - noTrail } else none
  else none

end Syllable

def compositeParts? (n : Nat) : Option (Nat × Nat) :=
  composites.findSome? fun (mark, pairs) =>
    (pairs.find? fun (_, composite) => composite = n).map fun (base, _) => (base, mark)

/-- Takes a composite apart. No composite holds more than three marks. -/
def decompose (n : Nat) : List Nat :=
  match Syllable.ofCode? n with
  | some s => s.parts
  | none => go 3 n
where
  go : Nat → Nat → List Nat
    | 0, n => [n]
    | fuel + 1, n => match compositeParts? n with
      | some (base, mark) => go fuel base ++ [mark]
      | none => [n]

/-- Puts a mark, with its class, before the first of a higher class. -/
def insertMark (class_ n : Nat) : List (Nat × Nat) → List (Nat × Nat)
  | [] => [(class_, n)]
  | (k, m) :: rest =>
    if class_ < k then (class_, n) :: (k, m) :: rest else (k, m) :: insertMark class_ n rest

/-- Puts the marks before each character of class 0 into the order of their classes. -/
def reorder (marks : List (Nat × Nat)) : List Nat → List (Nat × Nat)
  | [] => marks
  | n :: rest =>
    let k := combiningClass n
    if k = 0 then marks ++ (0, n) :: reorder [] rest else reorder (insertMark k n marks) rest

def composite? (a b : Nat) : Option Nat :=
  ((Syllable.ofPair? a b).map Syllable.code).orElse fun _ =>
    (composites.lookup b).bind fun pairs => pairs.lookup a

/-- What has been composed: the text up to the last character of class 0, that character, and the
marks that did not join it, the last first. -/
structure Composition where
  done : List Nat
  base : Option Nat
  kept : List (Nat × Nat)

namespace Composition

def text (s : Composition) : List Nat :=
  s.done ++ s.base.toList ++ s.kept.reverse.map Prod.snd

/-- Adds a character with its class. A kept one of the same class or of class 0 stands in its
way. -/
def add (s : Composition) (c : Nat × Nat) : Composition :=
  let isFree := match s.kept with
    | [] => true
    | (k, _) :: _ => k < c.1
  match (if isFree then s.base else none).bind (composite? · c.2) with
  | some n => { s with base := some n }
  | none => if c.1 = 0 then ⟨s.text, some c.2, []⟩ else { s with kept := c :: s.kept }

end Composition

def compose (marks : List (Nat × Nat)) : List Nat :=
  (marks.foldl Composition.add ⟨[], none, []⟩).text

/-- Whether a text is its own composed form. -/
def isComposed (text : List Nat) : Bool :=
  !text.any (inRanges · replacedRanges) && compose (reorder [] (text.flatMap decompose)) = text

example : isComposed [0xE9] = true ∧ isComposed [0x65, 0x301] = false ∧
    isComposed [0x1E61, 0x323] = false ∧ isComposed [0x71, 0x323] = true := by decide +kernel

end CredentialWrite.Text
