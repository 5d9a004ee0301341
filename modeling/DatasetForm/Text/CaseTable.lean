import DatasetForm.Text.Packed

/-!
Case of letters in Unicode 14: the runs of upper-case letters with their lower-case forms, the letters
that caseless comparison replaces by something other than their lower-case form, and the characters
that decide how a capital sigma is written.
-/

set_option autoImplicit false
set_option relaxedAutoImplicit false

namespace DatasetForm.Text

/-- A run of letters, each `step` after the one before, that change together: the first becomes
`image`, the next `image + step` and so on. -/
structure CaseRun where
  first : Nat
  last : Nat
  step : Nat
  image : Nat
  deriving DecidableEq, Repr

/-- The image of a code point under a run that holds it. -/
def CaseRun.imageOf? (run : CaseRun) (code : Nat) : Option Nat :=
  if run.first ≤ code && code ≤ run.last && (code - run.first) % run.step == 0 then
    some (run.image + (code - run.first))
  else none

/-- Read runs packed as first, last, step, image. -/
def caseRuns (packed : List Nat) : List CaseRun :=
  packed.filterMap fun n =>
    match unpack n with
    | [first, last, step, image] => some ⟨first, last, step, image⟩
    | _ => none

/-- Upper-case and title-case letters past ASCII that become one lower-case letter. -/
def lowerRuns : List CaseRun := caseRuns (
  [
    0xC0_0000D6_000001_0000E0, 0xD8_0000DE_000001_0000F8, 0x100_00012E_000002_000101,
    0x132_000136_000002_000133, 0x139_000147_000002_00013A, 0x14A_000176_000002_00014B,
    0x178_000178_000001_0000FF, 0x179_00017D_000002_00017A, 0x181_000181_000001_000253,
    0x182_000184_000002_000183, 0x186_000186_000001_000254, 0x187_000187_000001_000188,
    0x189_00018A_000001_000256, 0x18B_00018B_000001_00018C, 0x18E_00018E_000001_0001DD,
    0x18F_00018F_000001_000259, 0x190_000190_000001_00025B, 0x191_000191_000001_000192,
    0x193_000193_000001_000260, 0x194_000194_000001_000263, 0x196_000196_000001_000269,
    0x197_000197_000001_000268, 0x198_000198_000001_000199, 0x19C_00019C_000001_00026F,
    0x19D_00019D_000001_000272, 0x19F_00019F_000001_000275, 0x1A0_0001A4_000002_0001A1,
    0x1A6_0001A6_000001_000280, 0x1A7_0001A7_000001_0001A8, 0x1A9_0001A9_000001_000283,
    0x1AC_0001AC_000001_0001AD, 0x1AE_0001AE_000001_000288, 0x1AF_0001AF_000001_0001B0,
    0x1B1_0001B2_000001_00028A, 0x1B3_0001B5_000002_0001B4, 0x1B7_0001B7_000001_000292,
    0x1B8_0001B8_000001_0001B9, 0x1BC_0001BC_000001_0001BD, 0x1C4_0001C4_000001_0001C6,
    0x1C5_0001C5_000001_0001C6, 0x1C7_0001C7_000001_0001C9, 0x1C8_0001C8_000001_0001C9,
    0x1CA_0001CA_000001_0001CC, 0x1CB_0001DB_000002_0001CC, 0x1DE_0001EE_000002_0001DF,
    0x1F1_0001F1_000001_0001F3, 0x1F2_0001F4_000002_0001F3, 0x1F6_0001F6_000001_000195,
    0x1F7_0001F7_000001_0001BF, 0x1F8_00021E_000002_0001F9, 0x220_000220_000001_00019E,
    0x222_000232_000002_000223, 0x23A_00023A_000001_002C65, 0x23B_00023B_000001_00023C,
    0x23D_00023D_000001_00019A, 0x23E_00023E_000001_002C66, 0x241_000241_000001_000242,
    0x243_000243_000001_000180, 0x244_000244_000001_000289, 0x245_000245_000001_00028C,
    0x246_00024E_000002_000247, 0x370_000372_000002_000371, 0x376_000376_000001_000377,
    0x37F_00037F_000001_0003F3, 0x386_000386_000001_0003AC, 0x388_00038A_000001_0003AD,
    0x38C_00038C_000001_0003CC, 0x38E_00038F_000001_0003CD, 0x391_0003A1_000001_0003B1,
    0x3A3_0003AB_000001_0003C3, 0x3CF_0003CF_000001_0003D7, 0x3D8_0003EE_000002_0003D9,
    0x3F4_0003F4_000001_0003B8, 0x3F7_0003F7_000001_0003F8, 0x3F9_0003F9_000001_0003F2,
    0x3FA_0003FA_000001_0003FB, 0x3FD_0003FF_000001_00037B, 0x400_00040F_000001_000450,
    0x410_00042F_000001_000430, 0x460_000480_000002_000461, 0x48A_0004BE_000002_00048B,
    0x4C0_0004C0_000001_0004CF, 0x4C1_0004CD_000002_0004C2, 0x4D0_00052E_000002_0004D1,
    0x531_000556_000001_000561, 0x10A0_0010C5_000001_002D00, 0x10C7_0010C7_000001_002D27,
    0x10CD_0010CD_000001_002D2D, 0x13A0_0013EF_000001_00AB70, 0x13F0_0013F5_000001_0013F8,
    0x1C90_001CBA_000001_0010D0, 0x1CBD_001CBF_000001_0010FD, 0x1E00_001E94_000002_001E01,
    0x1E9E_001E9E_000001_0000DF, 0x1EA0_001EFE_000002_001EA1, 0x1F08_001F0F_000001_001F00,
    0x1F18_001F1D_000001_001F10, 0x1F28_001F2F_000001_001F20, 0x1F38_001F3F_000001_001F30,
    0x1F48_001F4D_000001_001F40, 0x1F59_001F5F_000002_001F51, 0x1F68_001F6F_000001_001F60,
    0x1F88_001F8F_000001_001F80, 0x1F98_001F9F_000001_001F90, 0x1FA8_001FAF_000001_001FA0,
    0x1FB8_001FB9_000001_001FB0, 0x1FBA_001FBB_000001_001F70, 0x1FBC_001FBC_000001_001FB3,
    0x1FC8_001FCB_000001_001F72, 0x1FCC_001FCC_000001_001FC3, 0x1FD8_001FD9_000001_001FD0,
    0x1FDA_001FDB_000001_001F76, 0x1FE8_001FE9_000001_001FE0, 0x1FEA_001FEB_000001_001F7A,
    0x1FEC_001FEC_000001_001FE5, 0x1FF8_001FF9_000001_001F78, 0x1FFA_001FFB_000001_001F7C,
    0x1FFC_001FFC_000001_001FF3, 0x2126_002126_000001_0003C9, 0x212A_00212A_000001_00006B,
    0x212B_00212B_000001_0000E5, 0x2132_002132_000001_00214E, 0x2160_00216F_000001_002170,
    0x2183_002183_000001_002184, 0x24B6_0024CF_000001_0024D0, 0x2C00_002C2F_000001_002C30,
    0x2C60_002C60_000001_002C61, 0x2C62_002C62_000001_00026B, 0x2C63_002C63_000001_001D7D,
    0x2C64_002C64_000001_00027D, 0x2C67_002C6B_000002_002C68, 0x2C6D_002C6D_000001_000251,
    0x2C6E_002C6E_000001_000271, 0x2C6F_002C6F_000001_000250, 0x2C70_002C70_000001_000252,
    0x2C72_002C72_000001_002C73, 0x2C75_002C75_000001_002C76, 0x2C7E_002C7F_000001_00023F,
    0x2C80_002CE2_000002_002C81, 0x2CEB_002CED_000002_002CEC, 0x2CF2_002CF2_000001_002CF3,
    0xA640_00A66C_000002_00A641, 0xA680_00A69A_000002_00A681, 0xA722_00A72E_000002_00A723,
    0xA732_00A76E_000002_00A733, 0xA779_00A77B_000002_00A77A, 0xA77D_00A77D_000001_001D79,
    0xA77E_00A786_000002_00A77F, 0xA78B_00A78B_000001_00A78C, 0xA78D_00A78D_000001_000265,
    0xA790_00A792_000002_00A791, 0xA796_00A7A8_000002_00A797, 0xA7AA_00A7AA_000001_000266,
    0xA7AB_00A7AB_000001_00025C, 0xA7AC_00A7AC_000001_000261, 0xA7AD_00A7AD_000001_00026C,
    0xA7AE_00A7AE_000001_00026A, 0xA7B0_00A7B0_000001_00029E, 0xA7B1_00A7B1_000001_000287,
    0xA7B2_00A7B2_000001_00029D, 0xA7B3_00A7B3_000001_00AB53, 0xA7B4_00A7C2_000002_00A7B5,
    0xA7C4_00A7C4_000001_00A794, 0xA7C5_00A7C5_000001_000282, 0xA7C6_00A7C6_000001_001D8E,
    0xA7C7_00A7C9_000002_00A7C8, 0xA7D0_00A7D0_000001_00A7D1, 0xA7D6_00A7D8_000002_00A7D7,
    0xA7F5_00A7F5_000001_00A7F6, 0xFF21_00FF3A_000001_00FF41, 0x10400_010427_000001_010428,
    0x104B0_0104D3_000001_0104D8, 0x10570_010594_000002_010597, 0x10571_010579_000002_010598,
    0x1057D_010589_000002_0105A4, 0x1058D_010591_000002_0105B4, 0x10595_010595_000001_0105BC,
    0x10C80_010CB2_000001_010CC0, 0x118A0_0118BF_000001_0118C0, 0x16E40_016E5F_000001_016E60,
    0x1E900_01E921_000001_01E922])

/-- Letters past ASCII whose caseless form is one letter other than their lower-case form. -/
def foldRuns : List CaseRun := caseRuns (
  [
    0xB5_0000B5_000001_0003BC, 0x17F_00017F_000001_000073, 0x345_000345_000001_0003B9,
    0x3C2_0003C2_000001_0003C3, 0x3D0_0003D0_000001_0003B2, 0x3D1_0003D1_000001_0003B8,
    0x3D5_0003D5_000001_0003C6, 0x3D6_0003D6_000001_0003C0, 0x3F0_0003F0_000001_0003BA,
    0x3F1_0003F1_000001_0003C1, 0x3F5_0003F5_000001_0003B5, 0x13A0_0013F5_000001_0013A0,
    0x13F8_0013FD_000001_0013F0, 0x1C80_001C80_000001_000432, 0x1C81_001C81_000001_000434,
    0x1C82_001C82_000001_00043E, 0x1C83_001C84_000001_000441, 0x1C85_001C85_000001_000442,
    0x1C86_001C86_000001_00044A, 0x1C87_001C87_000001_000463, 0x1C88_001C88_000001_00A64B,
    0x1E9B_001E9B_000001_001E61, 0x1FBE_001FBE_000001_0003B9, 0xAB70_00ABBF_000001_0013A0])

/-- Letters whose caseless form is more than one character: the letter, then its form. -/
def foldExpansions : List (Nat × List Nat) := expansions (
  [
    0xDF_000073_000073, 0x149_0002BC_00006E, 0x1F0_00006A_00030C, 0x390_0003B9_000308_000301,
    0x3B0_0003C5_000308_000301, 0x587_000565_000582, 0x1E96_000068_000331, 0x1E97_000074_000308,
    0x1E98_000077_00030A, 0x1E99_000079_00030A, 0x1E9A_000061_0002BE, 0x1E9E_000073_000073,
    0x1F50_0003C5_000313, 0x1F52_0003C5_000313_000300, 0x1F54_0003C5_000313_000301,
    0x1F56_0003C5_000313_000342, 0x1F80_001F00_0003B9, 0x1F81_001F01_0003B9, 0x1F82_001F02_0003B9,
    0x1F83_001F03_0003B9, 0x1F84_001F04_0003B9, 0x1F85_001F05_0003B9, 0x1F86_001F06_0003B9,
    0x1F87_001F07_0003B9, 0x1F88_001F00_0003B9, 0x1F89_001F01_0003B9, 0x1F8A_001F02_0003B9,
    0x1F8B_001F03_0003B9, 0x1F8C_001F04_0003B9, 0x1F8D_001F05_0003B9, 0x1F8E_001F06_0003B9,
    0x1F8F_001F07_0003B9, 0x1F90_001F20_0003B9, 0x1F91_001F21_0003B9, 0x1F92_001F22_0003B9,
    0x1F93_001F23_0003B9, 0x1F94_001F24_0003B9, 0x1F95_001F25_0003B9, 0x1F96_001F26_0003B9,
    0x1F97_001F27_0003B9, 0x1F98_001F20_0003B9, 0x1F99_001F21_0003B9, 0x1F9A_001F22_0003B9,
    0x1F9B_001F23_0003B9, 0x1F9C_001F24_0003B9, 0x1F9D_001F25_0003B9, 0x1F9E_001F26_0003B9,
    0x1F9F_001F27_0003B9, 0x1FA0_001F60_0003B9, 0x1FA1_001F61_0003B9, 0x1FA2_001F62_0003B9,
    0x1FA3_001F63_0003B9, 0x1FA4_001F64_0003B9, 0x1FA5_001F65_0003B9, 0x1FA6_001F66_0003B9,
    0x1FA7_001F67_0003B9, 0x1FA8_001F60_0003B9, 0x1FA9_001F61_0003B9, 0x1FAA_001F62_0003B9,
    0x1FAB_001F63_0003B9, 0x1FAC_001F64_0003B9, 0x1FAD_001F65_0003B9, 0x1FAE_001F66_0003B9,
    0x1FAF_001F67_0003B9, 0x1FB2_001F70_0003B9, 0x1FB3_0003B1_0003B9, 0x1FB4_0003AC_0003B9,
    0x1FB6_0003B1_000342, 0x1FB7_0003B1_000342_0003B9, 0x1FBC_0003B1_0003B9, 0x1FC2_001F74_0003B9,
    0x1FC3_0003B7_0003B9, 0x1FC4_0003AE_0003B9, 0x1FC6_0003B7_000342, 0x1FC7_0003B7_000342_0003B9,
    0x1FCC_0003B7_0003B9, 0x1FD2_0003B9_000308_000300, 0x1FD3_0003B9_000308_000301,
    0x1FD6_0003B9_000342, 0x1FD7_0003B9_000308_000342, 0x1FE2_0003C5_000308_000300,
    0x1FE3_0003C5_000308_000301, 0x1FE4_0003C1_000313, 0x1FE6_0003C5_000342,
    0x1FE7_0003C5_000308_000342, 0x1FF2_001F7C_0003B9, 0x1FF3_0003C9_0003B9, 0x1FF4_0003CE_0003B9,
    0x1FF6_0003C9_000342, 0x1FF7_0003C9_000342_0003B9, 0x1FFC_0003C9_0003B9, 0xFB00_000066_000066,
    0xFB01_000066_000069, 0xFB02_000066_00006C, 0xFB03_000066_000066_000069,
    0xFB04_000066_000066_00006C, 0xFB05_000073_000074, 0xFB06_000073_000074, 0xFB13_000574_000576,
    0xFB14_000574_000565, 0xFB15_000574_00056B, 0xFB16_00057E_000576, 0xFB17_000574_00056D])

/-- Cased letters other than those that `caseIgnorableSpans` holds. -/
def casedSpans : List Span := spans (
  [
    0x41_00005A, 0x61_00007A, 0xAA_0000AA, 0xB5_0000B5, 0xBA_0000BA, 0xC0_0000D6, 0xD8_0000F6,
    0xF8_0001BA, 0x1BC_0001BF, 0x1C4_000293, 0x295_0002AF, 0x370_000373, 0x376_000377,
    0x37B_00037D, 0x37F_00037F, 0x386_000386, 0x388_00038A, 0x38C_00038C, 0x38E_0003A1,
    0x3A3_0003F5, 0x3F7_000481, 0x48A_00052F, 0x531_000556, 0x560_000588, 0x10A0_0010C5,
    0x10C7_0010C7, 0x10CD_0010CD, 0x10D0_0010FA, 0x10FD_0010FF, 0x13A0_0013F5, 0x13F8_0013FD,
    0x1C80_001C88, 0x1C90_001CBA, 0x1CBD_001CBF, 0x1D00_001D2B, 0x1D6B_001D77, 0x1D79_001D9A,
    0x1E00_001F15, 0x1F18_001F1D, 0x1F20_001F45, 0x1F48_001F4D, 0x1F50_001F57, 0x1F59_001F59,
    0x1F5B_001F5B, 0x1F5D_001F5D, 0x1F5F_001F7D, 0x1F80_001FB4, 0x1FB6_001FBC, 0x1FBE_001FBE,
    0x1FC2_001FC4, 0x1FC6_001FCC, 0x1FD0_001FD3, 0x1FD6_001FDB, 0x1FE0_001FEC, 0x1FF2_001FF4,
    0x1FF6_001FFC, 0x2102_002102, 0x2107_002107, 0x210A_002113, 0x2115_002115, 0x2119_00211D,
    0x2124_002124, 0x2126_002126, 0x2128_002128, 0x212A_00212D, 0x212F_002134, 0x2139_002139,
    0x213C_00213F, 0x2145_002149, 0x214E_00214E, 0x2160_00217F, 0x2183_002184, 0x24B6_0024E9,
    0x2C00_002C7B, 0x2C7E_002CE4, 0x2CEB_002CEE, 0x2CF2_002CF3, 0x2D00_002D25, 0x2D27_002D27,
    0x2D2D_002D2D, 0xA640_00A66D, 0xA680_00A69B, 0xA722_00A76F, 0xA771_00A787, 0xA78B_00A78E,
    0xA790_00A7CA, 0xA7D0_00A7D1, 0xA7D3_00A7D3, 0xA7D5_00A7D9, 0xA7F5_00A7F6, 0xA7FA_00A7FA,
    0xAB30_00AB5A, 0xAB60_00AB68, 0xAB70_00ABBF, 0xFB00_00FB06, 0xFB13_00FB17, 0xFF21_00FF3A,
    0xFF41_00FF5A, 0x10400_01044F, 0x104B0_0104D3, 0x104D8_0104FB, 0x10570_01057A, 0x1057C_01058A,
    0x1058C_010592, 0x10594_010595, 0x10597_0105A1, 0x105A3_0105B1, 0x105B3_0105B9,
    0x105BB_0105BC, 0x10C80_010CB2, 0x10CC0_010CF2, 0x118A0_0118DF, 0x16E40_016E7F,
    0x1D400_01D454, 0x1D456_01D49C, 0x1D49E_01D49F, 0x1D4A2_01D4A2, 0x1D4A5_01D4A6,
    0x1D4A9_01D4AC, 0x1D4AE_01D4B9, 0x1D4BB_01D4BB, 0x1D4BD_01D4C3, 0x1D4C5_01D505,
    0x1D507_01D50A, 0x1D50D_01D514, 0x1D516_01D51C, 0x1D51E_01D539, 0x1D53B_01D53E,
    0x1D540_01D544, 0x1D546_01D546, 0x1D54A_01D550, 0x1D552_01D6A5, 0x1D6A8_01D6C0,
    0x1D6C2_01D6DA, 0x1D6DC_01D6FA, 0x1D6FC_01D714, 0x1D716_01D734, 0x1D736_01D74E,
    0x1D750_01D76E, 0x1D770_01D788, 0x1D78A_01D7A8, 0x1D7AA_01D7C2, 0x1D7C4_01D7CB,
    0x1DF00_01DF09, 0x1DF0B_01DF1E, 0x1E900_01E943, 0x1F130_01F149, 0x1F150_01F169, 0x1F170_01F189])

/-- Characters that are skipped when a capital sigma looks at its neighbours. -/
def caseIgnorableSpans : List Span := spans (
  [
    0x27_000027, 0x2E_00002E, 0x3A_00003A, 0x5E_00005E, 0x60_000060, 0xA8_0000A8, 0xAD_0000AD,
    0xAF_0000AF, 0xB4_0000B4, 0xB7_0000B8, 0x2B0_00036F, 0x374_000375, 0x37A_00037A, 0x384_000385,
    0x387_000387, 0x483_000489, 0x559_000559, 0x55F_00055F, 0x591_0005BD, 0x5BF_0005BF,
    0x5C1_0005C2, 0x5C4_0005C5, 0x5C7_0005C7, 0x5F4_0005F4, 0x600_000605, 0x610_00061A,
    0x61C_00061C, 0x640_000640, 0x64B_00065F, 0x670_000670, 0x6D6_0006DD, 0x6DF_0006E8,
    0x6EA_0006ED, 0x70F_00070F, 0x711_000711, 0x730_00074A, 0x7A6_0007B0, 0x7EB_0007F5,
    0x7FA_0007FA, 0x7FD_0007FD, 0x816_00082D, 0x859_00085B, 0x888_000888, 0x890_000891,
    0x898_00089F, 0x8C9_000902, 0x93A_00093A, 0x93C_00093C, 0x941_000948, 0x94D_00094D,
    0x951_000957, 0x962_000963, 0x971_000971, 0x981_000981, 0x9BC_0009BC, 0x9C1_0009C4,
    0x9CD_0009CD, 0x9E2_0009E3, 0x9FE_0009FE, 0xA01_000A02, 0xA3C_000A3C, 0xA41_000A42,
    0xA47_000A48, 0xA4B_000A4D, 0xA51_000A51, 0xA70_000A71, 0xA75_000A75, 0xA81_000A82,
    0xABC_000ABC, 0xAC1_000AC5, 0xAC7_000AC8, 0xACD_000ACD, 0xAE2_000AE3, 0xAFA_000AFF,
    0xB01_000B01, 0xB3C_000B3C, 0xB3F_000B3F, 0xB41_000B44, 0xB4D_000B4D, 0xB55_000B56,
    0xB62_000B63, 0xB82_000B82, 0xBC0_000BC0, 0xBCD_000BCD, 0xC00_000C00, 0xC04_000C04,
    0xC3C_000C3C, 0xC3E_000C40, 0xC46_000C48, 0xC4A_000C4D, 0xC55_000C56, 0xC62_000C63,
    0xC81_000C81, 0xCBC_000CBC, 0xCBF_000CBF, 0xCC6_000CC6, 0xCCC_000CCD, 0xCE2_000CE3,
    0xD00_000D01, 0xD3B_000D3C, 0xD41_000D44, 0xD4D_000D4D, 0xD62_000D63, 0xD81_000D81,
    0xDCA_000DCA, 0xDD2_000DD4, 0xDD6_000DD6, 0xE31_000E31, 0xE34_000E3A, 0xE46_000E4E,
    0xEB1_000EB1, 0xEB4_000EBC, 0xEC6_000EC6, 0xEC8_000ECD, 0xF18_000F19, 0xF35_000F35,
    0xF37_000F37, 0xF39_000F39, 0xF71_000F7E, 0xF80_000F84, 0xF86_000F87, 0xF8D_000F97,
    0xF99_000FBC, 0xFC6_000FC6, 0x102D_001030, 0x1032_001037, 0x1039_00103A, 0x103D_00103E,
    0x1058_001059, 0x105E_001060, 0x1071_001074, 0x1082_001082, 0x1085_001086, 0x108D_00108D,
    0x109D_00109D, 0x10FC_0010FC, 0x135D_00135F, 0x1712_001714, 0x1732_001733, 0x1752_001753,
    0x1772_001773, 0x17B4_0017B5, 0x17B7_0017BD, 0x17C6_0017C6, 0x17C9_0017D3, 0x17D7_0017D7,
    0x17DD_0017DD, 0x180B_00180F, 0x1843_001843, 0x1885_001886, 0x18A9_0018A9, 0x1920_001922,
    0x1927_001928, 0x1932_001932, 0x1939_00193B, 0x1A17_001A18, 0x1A1B_001A1B, 0x1A56_001A56,
    0x1A58_001A5E, 0x1A60_001A60, 0x1A62_001A62, 0x1A65_001A6C, 0x1A73_001A7C, 0x1A7F_001A7F,
    0x1AA7_001AA7, 0x1AB0_001ACE, 0x1B00_001B03, 0x1B34_001B34, 0x1B36_001B3A, 0x1B3C_001B3C,
    0x1B42_001B42, 0x1B6B_001B73, 0x1B80_001B81, 0x1BA2_001BA5, 0x1BA8_001BA9, 0x1BAB_001BAD,
    0x1BE6_001BE6, 0x1BE8_001BE9, 0x1BED_001BED, 0x1BEF_001BF1, 0x1C2C_001C33, 0x1C36_001C37,
    0x1C78_001C7D, 0x1CD0_001CD2, 0x1CD4_001CE0, 0x1CE2_001CE8, 0x1CED_001CED, 0x1CF4_001CF4,
    0x1CF8_001CF9, 0x1D2C_001D6A, 0x1D78_001D78, 0x1D9B_001DFF, 0x1FBD_001FBD, 0x1FBF_001FC1,
    0x1FCD_001FCF, 0x1FDD_001FDF, 0x1FED_001FEF, 0x1FFD_001FFE, 0x200B_00200F, 0x2018_002019,
    0x2024_002024, 0x2027_002027, 0x202A_00202E, 0x2060_002064, 0x2066_00206F, 0x2071_002071,
    0x207F_00207F, 0x2090_00209C, 0x20D0_0020F0, 0x2C7C_002C7D, 0x2CEF_002CF1, 0x2D6F_002D6F,
    0x2D7F_002D7F, 0x2DE0_002DFF, 0x2E2F_002E2F, 0x3005_003005, 0x302A_00302D, 0x3031_003035,
    0x303B_00303B, 0x3099_00309E, 0x30FC_0030FE, 0xA015_00A015, 0xA4F8_00A4FD, 0xA60C_00A60C,
    0xA66F_00A672, 0xA674_00A67D, 0xA67F_00A67F, 0xA69C_00A69F, 0xA6F0_00A6F1, 0xA700_00A721,
    0xA770_00A770, 0xA788_00A78A, 0xA7F2_00A7F4, 0xA7F8_00A7F9, 0xA802_00A802, 0xA806_00A806,
    0xA80B_00A80B, 0xA825_00A826, 0xA82C_00A82C, 0xA8C4_00A8C5] ++
  [
    0xA8E0_00A8F1, 0xA8FF_00A8FF, 0xA926_00A92D, 0xA947_00A951, 0xA980_00A982, 0xA9B3_00A9B3,
    0xA9B6_00A9B9, 0xA9BC_00A9BD, 0xA9CF_00A9CF, 0xA9E5_00A9E6, 0xAA29_00AA2E, 0xAA31_00AA32,
    0xAA35_00AA36, 0xAA43_00AA43, 0xAA4C_00AA4C, 0xAA70_00AA70, 0xAA7C_00AA7C, 0xAAB0_00AAB0,
    0xAAB2_00AAB4, 0xAAB7_00AAB8, 0xAABE_00AABF, 0xAAC1_00AAC1, 0xAADD_00AADD, 0xAAEC_00AAED,
    0xAAF3_00AAF4, 0xAAF6_00AAF6, 0xAB5B_00AB5F, 0xAB69_00AB6B, 0xABE5_00ABE5, 0xABE8_00ABE8,
    0xABED_00ABED, 0xFB1E_00FB1E, 0xFBB2_00FBC2, 0xFE00_00FE0F, 0xFE13_00FE13, 0xFE20_00FE2F,
    0xFE52_00FE52, 0xFE55_00FE55, 0xFEFF_00FEFF, 0xFF07_00FF07, 0xFF0E_00FF0E, 0xFF1A_00FF1A,
    0xFF3E_00FF3E, 0xFF40_00FF40, 0xFF70_00FF70, 0xFF9E_00FF9F, 0xFFE3_00FFE3, 0xFFF9_00FFFB,
    0x101FD_0101FD, 0x102E0_0102E0, 0x10376_01037A, 0x10780_010785, 0x10787_0107B0,
    0x107B2_0107BA, 0x10A01_010A03, 0x10A05_010A06, 0x10A0C_010A0F, 0x10A38_010A3A,
    0x10A3F_010A3F, 0x10AE5_010AE6, 0x10D24_010D27, 0x10EAB_010EAC, 0x10F46_010F50,
    0x10F82_010F85, 0x11001_011001, 0x11038_011046, 0x11070_011070, 0x11073_011074,
    0x1107F_011081, 0x110B3_0110B6, 0x110B9_0110BA, 0x110BD_0110BD, 0x110C2_0110C2,
    0x110CD_0110CD, 0x11100_011102, 0x11127_01112B, 0x1112D_011134, 0x11173_011173,
    0x11180_011181, 0x111B6_0111BE, 0x111C9_0111CC, 0x111CF_0111CF, 0x1122F_011231,
    0x11234_011234, 0x11236_011237, 0x1123E_01123E, 0x112DF_0112DF, 0x112E3_0112EA,
    0x11300_011301, 0x1133B_01133C, 0x11340_011340, 0x11366_01136C, 0x11370_011374,
    0x11438_01143F, 0x11442_011444, 0x11446_011446, 0x1145E_01145E, 0x114B3_0114B8,
    0x114BA_0114BA, 0x114BF_0114C0, 0x114C2_0114C3, 0x115B2_0115B5, 0x115BC_0115BD,
    0x115BF_0115C0, 0x115DC_0115DD, 0x11633_01163A, 0x1163D_01163D, 0x1163F_011640,
    0x116AB_0116AB, 0x116AD_0116AD, 0x116B0_0116B5, 0x116B7_0116B7, 0x1171D_01171F,
    0x11722_011725, 0x11727_01172B, 0x1182F_011837, 0x11839_01183A, 0x1193B_01193C,
    0x1193E_01193E, 0x11943_011943, 0x119D4_0119D7, 0x119DA_0119DB, 0x119E0_0119E0,
    0x11A01_011A0A, 0x11A33_011A38, 0x11A3B_011A3E, 0x11A47_011A47, 0x11A51_011A56,
    0x11A59_011A5B, 0x11A8A_011A96, 0x11A98_011A99, 0x11C30_011C36, 0x11C38_011C3D,
    0x11C3F_011C3F, 0x11C92_011CA7, 0x11CAA_011CB0, 0x11CB2_011CB3, 0x11CB5_011CB6,
    0x11D31_011D36, 0x11D3A_011D3A, 0x11D3C_011D3D, 0x11D3F_011D45, 0x11D47_011D47,
    0x11D90_011D91, 0x11D95_011D95, 0x11D97_011D97, 0x11EF3_011EF4, 0x13430_013438,
    0x16AF0_016AF4, 0x16B30_016B36, 0x16B40_016B43, 0x16F4F_016F4F, 0x16F8F_016F9F,
    0x16FE0_016FE1, 0x16FE3_016FE4, 0x1AFF0_01AFF3, 0x1AFF5_01AFFB, 0x1AFFD_01AFFE,
    0x1BC9D_01BC9E, 0x1BCA0_01BCA3, 0x1CF00_01CF2D, 0x1CF30_01CF46, 0x1D167_01D169,
    0x1D173_01D182, 0x1D185_01D18B, 0x1D1AA_01D1AD, 0x1D242_01D244, 0x1DA00_01DA36,
    0x1DA3B_01DA6C, 0x1DA75_01DA75, 0x1DA84_01DA84, 0x1DA9B_01DA9F, 0x1DAA1_01DAAF,
    0x1E000_01E006, 0x1E008_01E018, 0x1E01B_01E021, 0x1E023_01E024, 0x1E026_01E02A,
    0x1E130_01E13D, 0x1E2AE_01E2AE, 0x1E2EC_01E2EF, 0x1E8D0_01E8D6, 0x1E944_01E94B,
    0x1F3FB_01F3FF, 0xE0001_0E0001, 0xE0020_0E007F, 0xE0100_0E01EF])

end DatasetForm.Text
