import DatasetForm.Text.Packed

/-!
Nonspacing marks: accents and other signs drawn on the letter before them (general category Mn of
Unicode 14).
-/

set_option autoImplicit false
set_option relaxedAutoImplicit false

namespace DatasetForm.Text

/-- The spans of nonspacing marks, in order. -/
def markSpans : List Span := spans (
  [
    0x300_00036F, 0x483_000487, 0x591_0005BD, 0x5BF_0005BF, 0x5C1_0005C2, 0x5C4_0005C5,
    0x5C7_0005C7, 0x610_00061A, 0x64B_00065F, 0x670_000670, 0x6D6_0006DC, 0x6DF_0006E4,
    0x6E7_0006E8, 0x6EA_0006ED, 0x711_000711, 0x730_00074A, 0x7A6_0007B0, 0x7EB_0007F3,
    0x7FD_0007FD, 0x816_000819, 0x81B_000823, 0x825_000827, 0x829_00082D, 0x859_00085B,
    0x898_00089F, 0x8CA_0008E1, 0x8E3_000902, 0x93A_00093A, 0x93C_00093C, 0x941_000948,
    0x94D_00094D, 0x951_000957, 0x962_000963, 0x981_000981, 0x9BC_0009BC, 0x9C1_0009C4,
    0x9CD_0009CD, 0x9E2_0009E3, 0x9FE_0009FE, 0xA01_000A02, 0xA3C_000A3C, 0xA41_000A42,
    0xA47_000A48, 0xA4B_000A4D, 0xA51_000A51, 0xA70_000A71, 0xA75_000A75, 0xA81_000A82,
    0xABC_000ABC, 0xAC1_000AC5, 0xAC7_000AC8, 0xACD_000ACD, 0xAE2_000AE3, 0xAFA_000AFF,
    0xB01_000B01, 0xB3C_000B3C, 0xB3F_000B3F, 0xB41_000B44, 0xB4D_000B4D, 0xB55_000B56,
    0xB62_000B63, 0xB82_000B82, 0xBC0_000BC0, 0xBCD_000BCD, 0xC00_000C00, 0xC04_000C04,
    0xC3C_000C3C, 0xC3E_000C40, 0xC46_000C48, 0xC4A_000C4D, 0xC55_000C56, 0xC62_000C63,
    0xC81_000C81, 0xCBC_000CBC, 0xCBF_000CBF, 0xCC6_000CC6, 0xCCC_000CCD, 0xCE2_000CE3,
    0xD00_000D01, 0xD3B_000D3C, 0xD41_000D44, 0xD4D_000D4D, 0xD62_000D63, 0xD81_000D81,
    0xDCA_000DCA, 0xDD2_000DD4, 0xDD6_000DD6, 0xE31_000E31, 0xE34_000E3A, 0xE47_000E4E,
    0xEB1_000EB1, 0xEB4_000EBC, 0xEC8_000ECD, 0xF18_000F19, 0xF35_000F35, 0xF37_000F37,
    0xF39_000F39, 0xF71_000F7E, 0xF80_000F84, 0xF86_000F87, 0xF8D_000F97, 0xF99_000FBC,
    0xFC6_000FC6, 0x102D_001030, 0x1032_001037, 0x1039_00103A, 0x103D_00103E, 0x1058_001059,
    0x105E_001060, 0x1071_001074, 0x1082_001082, 0x1085_001086, 0x108D_00108D, 0x109D_00109D,
    0x135D_00135F, 0x1712_001714, 0x1732_001733, 0x1752_001753, 0x1772_001773, 0x17B4_0017B5,
    0x17B7_0017BD, 0x17C6_0017C6, 0x17C9_0017D3, 0x17DD_0017DD, 0x180B_00180D, 0x180F_00180F,
    0x1885_001886, 0x18A9_0018A9, 0x1920_001922, 0x1927_001928, 0x1932_001932, 0x1939_00193B,
    0x1A17_001A18, 0x1A1B_001A1B, 0x1A56_001A56, 0x1A58_001A5E, 0x1A60_001A60, 0x1A62_001A62,
    0x1A65_001A6C, 0x1A73_001A7C, 0x1A7F_001A7F, 0x1AB0_001ABD, 0x1ABF_001ACE, 0x1B00_001B03,
    0x1B34_001B34, 0x1B36_001B3A, 0x1B3C_001B3C, 0x1B42_001B42, 0x1B6B_001B73, 0x1B80_001B81,
    0x1BA2_001BA5, 0x1BA8_001BA9, 0x1BAB_001BAD, 0x1BE6_001BE6, 0x1BE8_001BE9, 0x1BED_001BED,
    0x1BEF_001BF1, 0x1C2C_001C33, 0x1C36_001C37, 0x1CD0_001CD2, 0x1CD4_001CE0, 0x1CE2_001CE8,
    0x1CED_001CED, 0x1CF4_001CF4, 0x1CF8_001CF9, 0x1DC0_001DFF, 0x20D0_0020DC, 0x20E1_0020E1,
    0x20E5_0020F0, 0x2CEF_002CF1, 0x2D7F_002D7F, 0x2DE0_002DFF, 0x302A_00302D, 0x3099_00309A,
    0xA66F_00A66F, 0xA674_00A67D, 0xA69E_00A69F, 0xA6F0_00A6F1, 0xA802_00A802, 0xA806_00A806,
    0xA80B_00A80B, 0xA825_00A826, 0xA82C_00A82C, 0xA8C4_00A8C5, 0xA8E0_00A8F1, 0xA8FF_00A8FF,
    0xA926_00A92D, 0xA947_00A951, 0xA980_00A982, 0xA9B3_00A9B3, 0xA9B6_00A9B9, 0xA9BC_00A9BD,
    0xA9E5_00A9E5, 0xAA29_00AA2E, 0xAA31_00AA32, 0xAA35_00AA36, 0xAA43_00AA43, 0xAA4C_00AA4C,
    0xAA7C_00AA7C, 0xAAB0_00AAB0, 0xAAB2_00AAB4, 0xAAB7_00AAB8, 0xAABE_00AABF, 0xAAC1_00AAC1,
    0xAAEC_00AAED, 0xAAF6_00AAF6, 0xABE5_00ABE5, 0xABE8_00ABE8, 0xABED_00ABED, 0xFB1E_00FB1E,
    0xFE00_00FE0F, 0xFE20_00FE2F, 0x101FD_0101FD, 0x102E0_0102E0, 0x10376_01037A, 0x10A01_010A03,
    0x10A05_010A06, 0x10A0C_010A0F, 0x10A38_010A3A, 0x10A3F_010A3F, 0x10AE5_010AE6,
    0x10D24_010D27, 0x10EAB_010EAC, 0x10F46_010F50, 0x10F82_010F85, 0x11001_011001,
    0x11038_011046, 0x11070_011070, 0x11073_011074, 0x1107F_011081, 0x110B3_0110B6,
    0x110B9_0110BA, 0x110C2_0110C2, 0x11100_011102, 0x11127_01112B, 0x1112D_011134,
    0x11173_011173, 0x11180_011181, 0x111B6_0111BE, 0x111C9_0111CC] ++
  [
    0x111CF_0111CF, 0x1122F_011231, 0x11234_011234, 0x11236_011237, 0x1123E_01123E,
    0x112DF_0112DF, 0x112E3_0112EA, 0x11300_011301, 0x1133B_01133C, 0x11340_011340,
    0x11366_01136C, 0x11370_011374, 0x11438_01143F, 0x11442_011444, 0x11446_011446,
    0x1145E_01145E, 0x114B3_0114B8, 0x114BA_0114BA, 0x114BF_0114C0, 0x114C2_0114C3,
    0x115B2_0115B5, 0x115BC_0115BD, 0x115BF_0115C0, 0x115DC_0115DD, 0x11633_01163A,
    0x1163D_01163D, 0x1163F_011640, 0x116AB_0116AB, 0x116AD_0116AD, 0x116B0_0116B5,
    0x116B7_0116B7, 0x1171D_01171F, 0x11722_011725, 0x11727_01172B, 0x1182F_011837,
    0x11839_01183A, 0x1193B_01193C, 0x1193E_01193E, 0x11943_011943, 0x119D4_0119D7,
    0x119DA_0119DB, 0x119E0_0119E0, 0x11A01_011A0A, 0x11A33_011A38, 0x11A3B_011A3E,
    0x11A47_011A47, 0x11A51_011A56, 0x11A59_011A5B, 0x11A8A_011A96, 0x11A98_011A99,
    0x11C30_011C36, 0x11C38_011C3D, 0x11C3F_011C3F, 0x11C92_011CA7, 0x11CAA_011CB0,
    0x11CB2_011CB3, 0x11CB5_011CB6, 0x11D31_011D36, 0x11D3A_011D3A, 0x11D3C_011D3D,
    0x11D3F_011D45, 0x11D47_011D47, 0x11D90_011D91, 0x11D95_011D95, 0x11D97_011D97,
    0x11EF3_011EF4, 0x16AF0_016AF4, 0x16B30_016B36, 0x16F4F_016F4F, 0x16F8F_016F92,
    0x16FE4_016FE4, 0x1BC9D_01BC9E, 0x1CF00_01CF2D, 0x1CF30_01CF46, 0x1D167_01D169,
    0x1D17B_01D182, 0x1D185_01D18B, 0x1D1AA_01D1AD, 0x1D242_01D244, 0x1DA00_01DA36,
    0x1DA3B_01DA6C, 0x1DA75_01DA75, 0x1DA84_01DA84, 0x1DA9B_01DA9F, 0x1DAA1_01DAAF,
    0x1E000_01E006, 0x1E008_01E018, 0x1E01B_01E021, 0x1E023_01E024, 0x1E026_01E02A,
    0x1E130_01E136, 0x1E2AE_01E2AE, 0x1E2EC_01E2EF, 0x1E8D0_01E8D6, 0x1E944_01E94A, 0xE0100_0E01EF])

/-- Is the character a nonspacing mark? None stands before U+0300. -/
def isMark (c : Char) : Bool :=
  0x300 ≤ c.toNat && covers markSpans c.toNat

end DatasetForm.Text
