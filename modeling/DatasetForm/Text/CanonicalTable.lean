import DatasetForm.Text.Packed

/-!
The canonical decompositions of Unicode 14, one step each, and the pairs that are never put together
again. Hangul syllables are decomposed by a rule and are not listed.
-/

set_option autoImplicit false
set_option relaxedAutoImplicit false

namespace DatasetForm.Text

/-- Canonical decompositions of page 0. -/
def canonical000 : List Nat :=
  [
    0xC0_000041_000300, 0xC1_000041_000301, 0xC2_000041_000302, 0xC3_000041_000303,
    0xC4_000041_000308, 0xC5_000041_00030A, 0xC7_000043_000327, 0xC8_000045_000300,
    0xC9_000045_000301, 0xCA_000045_000302, 0xCB_000045_000308, 0xCC_000049_000300,
    0xCD_000049_000301, 0xCE_000049_000302, 0xCF_000049_000308, 0xD1_00004E_000303,
    0xD2_00004F_000300, 0xD3_00004F_000301, 0xD4_00004F_000302, 0xD5_00004F_000303,
    0xD6_00004F_000308, 0xD9_000055_000300, 0xDA_000055_000301, 0xDB_000055_000302,
    0xDC_000055_000308, 0xDD_000059_000301, 0xE0_000061_000300, 0xE1_000061_000301,
    0xE2_000061_000302, 0xE3_000061_000303, 0xE4_000061_000308, 0xE5_000061_00030A,
    0xE7_000063_000327, 0xE8_000065_000300, 0xE9_000065_000301, 0xEA_000065_000302,
    0xEB_000065_000308, 0xEC_000069_000300, 0xED_000069_000301, 0xEE_000069_000302,
    0xEF_000069_000308, 0xF1_00006E_000303, 0xF2_00006F_000300, 0xF3_00006F_000301,
    0xF4_00006F_000302, 0xF5_00006F_000303, 0xF6_00006F_000308, 0xF9_000075_000300,
    0xFA_000075_000301, 0xFB_000075_000302, 0xFC_000075_000308, 0xFD_000079_000301,
    0xFF_000079_000308]

/-- Canonical decompositions of page 1. -/
def canonical001 : List Nat :=
  [
    0x100_000041_000304, 0x101_000061_000304, 0x102_000041_000306, 0x103_000061_000306,
    0x104_000041_000328, 0x105_000061_000328, 0x106_000043_000301, 0x107_000063_000301,
    0x108_000043_000302, 0x109_000063_000302, 0x10A_000043_000307, 0x10B_000063_000307,
    0x10C_000043_00030C, 0x10D_000063_00030C, 0x10E_000044_00030C, 0x10F_000064_00030C,
    0x112_000045_000304, 0x113_000065_000304, 0x114_000045_000306, 0x115_000065_000306,
    0x116_000045_000307, 0x117_000065_000307, 0x118_000045_000328, 0x119_000065_000328,
    0x11A_000045_00030C, 0x11B_000065_00030C, 0x11C_000047_000302, 0x11D_000067_000302,
    0x11E_000047_000306, 0x11F_000067_000306, 0x120_000047_000307, 0x121_000067_000307,
    0x122_000047_000327, 0x123_000067_000327, 0x124_000048_000302, 0x125_000068_000302,
    0x128_000049_000303, 0x129_000069_000303, 0x12A_000049_000304, 0x12B_000069_000304,
    0x12C_000049_000306, 0x12D_000069_000306, 0x12E_000049_000328, 0x12F_000069_000328,
    0x130_000049_000307, 0x134_00004A_000302, 0x135_00006A_000302, 0x136_00004B_000327,
    0x137_00006B_000327, 0x139_00004C_000301, 0x13A_00006C_000301, 0x13B_00004C_000327,
    0x13C_00006C_000327, 0x13D_00004C_00030C, 0x13E_00006C_00030C, 0x143_00004E_000301,
    0x144_00006E_000301, 0x145_00004E_000327, 0x146_00006E_000327, 0x147_00004E_00030C,
    0x148_00006E_00030C, 0x14C_00004F_000304, 0x14D_00006F_000304, 0x14E_00004F_000306,
    0x14F_00006F_000306, 0x150_00004F_00030B, 0x151_00006F_00030B, 0x154_000052_000301,
    0x155_000072_000301, 0x156_000052_000327, 0x157_000072_000327, 0x158_000052_00030C,
    0x159_000072_00030C, 0x15A_000053_000301, 0x15B_000073_000301, 0x15C_000053_000302,
    0x15D_000073_000302, 0x15E_000053_000327, 0x15F_000073_000327, 0x160_000053_00030C,
    0x161_000073_00030C, 0x162_000054_000327, 0x163_000074_000327, 0x164_000054_00030C,
    0x165_000074_00030C, 0x168_000055_000303, 0x169_000075_000303, 0x16A_000055_000304,
    0x16B_000075_000304, 0x16C_000055_000306, 0x16D_000075_000306, 0x16E_000055_00030A,
    0x16F_000075_00030A, 0x170_000055_00030B, 0x171_000075_00030B, 0x172_000055_000328,
    0x173_000075_000328, 0x174_000057_000302, 0x175_000077_000302, 0x176_000059_000302,
    0x177_000079_000302, 0x178_000059_000308, 0x179_00005A_000301, 0x17A_00007A_000301,
    0x17B_00005A_000307, 0x17C_00007A_000307, 0x17D_00005A_00030C, 0x17E_00007A_00030C,
    0x1A0_00004F_00031B, 0x1A1_00006F_00031B, 0x1AF_000055_00031B, 0x1B0_000075_00031B,
    0x1CD_000041_00030C, 0x1CE_000061_00030C, 0x1CF_000049_00030C, 0x1D0_000069_00030C,
    0x1D1_00004F_00030C, 0x1D2_00006F_00030C, 0x1D3_000055_00030C, 0x1D4_000075_00030C,
    0x1D5_0000DC_000304, 0x1D6_0000FC_000304, 0x1D7_0000DC_000301, 0x1D8_0000FC_000301,
    0x1D9_0000DC_00030C, 0x1DA_0000FC_00030C, 0x1DB_0000DC_000300, 0x1DC_0000FC_000300,
    0x1DE_0000C4_000304, 0x1DF_0000E4_000304, 0x1E0_000226_000304, 0x1E1_000227_000304,
    0x1E2_0000C6_000304, 0x1E3_0000E6_000304, 0x1E6_000047_00030C, 0x1E7_000067_00030C,
    0x1E8_00004B_00030C, 0x1E9_00006B_00030C, 0x1EA_00004F_000328, 0x1EB_00006F_000328,
    0x1EC_0001EA_000304, 0x1ED_0001EB_000304, 0x1EE_0001B7_00030C, 0x1EF_000292_00030C,
    0x1F0_00006A_00030C, 0x1F4_000047_000301, 0x1F5_000067_000301, 0x1F8_00004E_000300,
    0x1F9_00006E_000300, 0x1FA_0000C5_000301, 0x1FB_0000E5_000301, 0x1FC_0000C6_000301,
    0x1FD_0000E6_000301, 0x1FE_0000D8_000301, 0x1FF_0000F8_000301]

/-- Canonical decompositions of page 2. -/
def canonical002 : List Nat :=
  [
    0x200_000041_00030F, 0x201_000061_00030F, 0x202_000041_000311, 0x203_000061_000311,
    0x204_000045_00030F, 0x205_000065_00030F, 0x206_000045_000311, 0x207_000065_000311,
    0x208_000049_00030F, 0x209_000069_00030F, 0x20A_000049_000311, 0x20B_000069_000311,
    0x20C_00004F_00030F, 0x20D_00006F_00030F, 0x20E_00004F_000311, 0x20F_00006F_000311,
    0x210_000052_00030F, 0x211_000072_00030F, 0x212_000052_000311, 0x213_000072_000311,
    0x214_000055_00030F, 0x215_000075_00030F, 0x216_000055_000311, 0x217_000075_000311,
    0x218_000053_000326, 0x219_000073_000326, 0x21A_000054_000326, 0x21B_000074_000326,
    0x21E_000048_00030C, 0x21F_000068_00030C, 0x226_000041_000307, 0x227_000061_000307,
    0x228_000045_000327, 0x229_000065_000327, 0x22A_0000D6_000304, 0x22B_0000F6_000304,
    0x22C_0000D5_000304, 0x22D_0000F5_000304, 0x22E_00004F_000307, 0x22F_00006F_000307,
    0x230_00022E_000304, 0x231_00022F_000304, 0x232_000059_000304, 0x233_000079_000304]

/-- Canonical decompositions of page 3. -/
def canonical003 : List Nat :=
  [
    0x340_000300, 0x341_000301, 0x343_000313, 0x344_000308_000301, 0x374_0002B9, 0x37E_00003B,
    0x385_0000A8_000301, 0x386_000391_000301, 0x387_0000B7, 0x388_000395_000301,
    0x389_000397_000301, 0x38A_000399_000301, 0x38C_00039F_000301, 0x38E_0003A5_000301,
    0x38F_0003A9_000301, 0x390_0003CA_000301, 0x3AA_000399_000308, 0x3AB_0003A5_000308,
    0x3AC_0003B1_000301, 0x3AD_0003B5_000301, 0x3AE_0003B7_000301, 0x3AF_0003B9_000301,
    0x3B0_0003CB_000301, 0x3CA_0003B9_000308, 0x3CB_0003C5_000308, 0x3CC_0003BF_000301,
    0x3CD_0003C5_000301, 0x3CE_0003C9_000301, 0x3D3_0003D2_000301, 0x3D4_0003D2_000308]

/-- Canonical decompositions of page 4. -/
def canonical004 : List Nat :=
  [
    0x400_000415_000300, 0x401_000415_000308, 0x403_000413_000301, 0x407_000406_000308,
    0x40C_00041A_000301, 0x40D_000418_000300, 0x40E_000423_000306, 0x419_000418_000306,
    0x439_000438_000306, 0x450_000435_000300, 0x451_000435_000308, 0x453_000433_000301,
    0x457_000456_000308, 0x45C_00043A_000301, 0x45D_000438_000300, 0x45E_000443_000306,
    0x476_000474_00030F, 0x477_000475_00030F, 0x4C1_000416_000306, 0x4C2_000436_000306,
    0x4D0_000410_000306, 0x4D1_000430_000306, 0x4D2_000410_000308, 0x4D3_000430_000308,
    0x4D6_000415_000306, 0x4D7_000435_000306, 0x4DA_0004D8_000308, 0x4DB_0004D9_000308,
    0x4DC_000416_000308, 0x4DD_000436_000308, 0x4DE_000417_000308, 0x4DF_000437_000308,
    0x4E2_000418_000304, 0x4E3_000438_000304, 0x4E4_000418_000308, 0x4E5_000438_000308,
    0x4E6_00041E_000308, 0x4E7_00043E_000308, 0x4EA_0004E8_000308, 0x4EB_0004E9_000308,
    0x4EC_00042D_000308, 0x4ED_00044D_000308, 0x4EE_000423_000304, 0x4EF_000443_000304,
    0x4F0_000423_000308, 0x4F1_000443_000308, 0x4F2_000423_00030B, 0x4F3_000443_00030B,
    0x4F4_000427_000308, 0x4F5_000447_000308, 0x4F8_00042B_000308, 0x4F9_00044B_000308]

/-- Canonical decompositions of page 6. -/
def canonical006 : List Nat :=
  [
    0x622_000627_000653, 0x623_000627_000654, 0x624_000648_000654, 0x625_000627_000655,
    0x626_00064A_000654, 0x6C0_0006D5_000654, 0x6C2_0006C1_000654, 0x6D3_0006D2_000654]

/-- Canonical decompositions of page 9. -/
def canonical009 : List Nat :=
  [
    0x929_000928_00093C, 0x931_000930_00093C, 0x934_000933_00093C, 0x958_000915_00093C,
    0x959_000916_00093C, 0x95A_000917_00093C, 0x95B_00091C_00093C, 0x95C_000921_00093C,
    0x95D_000922_00093C, 0x95E_00092B_00093C, 0x95F_00092F_00093C, 0x9CB_0009C7_0009BE,
    0x9CC_0009C7_0009D7, 0x9DC_0009A1_0009BC, 0x9DD_0009A2_0009BC, 0x9DF_0009AF_0009BC]

/-- Canonical decompositions of page A. -/
def canonical00A : List Nat :=
  [
    0xA33_000A32_000A3C, 0xA36_000A38_000A3C, 0xA59_000A16_000A3C, 0xA5A_000A17_000A3C,
    0xA5B_000A1C_000A3C, 0xA5E_000A2B_000A3C]

/-- Canonical decompositions of page B. -/
def canonical00B : List Nat :=
  [
    0xB48_000B47_000B56, 0xB4B_000B47_000B3E, 0xB4C_000B47_000B57, 0xB5C_000B21_000B3C,
    0xB5D_000B22_000B3C, 0xB94_000B92_000BD7, 0xBCA_000BC6_000BBE, 0xBCB_000BC7_000BBE,
    0xBCC_000BC6_000BD7]

/-- Canonical decompositions of page C. -/
def canonical00C : List Nat :=
  [
    0xC48_000C46_000C56, 0xCC0_000CBF_000CD5, 0xCC7_000CC6_000CD5, 0xCC8_000CC6_000CD6,
    0xCCA_000CC6_000CC2, 0xCCB_000CCA_000CD5]

/-- Canonical decompositions of page D. -/
def canonical00D : List Nat :=
  [
    0xD4A_000D46_000D3E, 0xD4B_000D47_000D3E, 0xD4C_000D46_000D57, 0xDDA_000DD9_000DCA,
    0xDDC_000DD9_000DCF, 0xDDD_000DDC_000DCA, 0xDDE_000DD9_000DDF]

/-- Canonical decompositions of page F. -/
def canonical00F : List Nat :=
  [
    0xF43_000F42_000FB7, 0xF4D_000F4C_000FB7, 0xF52_000F51_000FB7, 0xF57_000F56_000FB7,
    0xF5C_000F5B_000FB7, 0xF69_000F40_000FB5, 0xF73_000F71_000F72, 0xF75_000F71_000F74,
    0xF76_000FB2_000F80, 0xF78_000FB3_000F80, 0xF81_000F71_000F80, 0xF93_000F92_000FB7,
    0xF9D_000F9C_000FB7, 0xFA2_000FA1_000FB7, 0xFA7_000FA6_000FB7, 0xFAC_000FAB_000FB7,
    0xFB9_000F90_000FB5]

/-- Canonical decompositions of page 10. -/
def canonical010 : List Nat :=
  [
    0x1026_001025_00102E]

/-- Canonical decompositions of page 1B. -/
def canonical01B : List Nat :=
  [
    0x1B06_001B05_001B35, 0x1B08_001B07_001B35, 0x1B0A_001B09_001B35, 0x1B0C_001B0B_001B35,
    0x1B0E_001B0D_001B35, 0x1B12_001B11_001B35, 0x1B3B_001B3A_001B35, 0x1B3D_001B3C_001B35,
    0x1B40_001B3E_001B35, 0x1B41_001B3F_001B35, 0x1B43_001B42_001B35]

/-- Canonical decompositions of page 1E. -/
def canonical01E : List Nat :=
  [
    0x1E00_000041_000325, 0x1E01_000061_000325, 0x1E02_000042_000307, 0x1E03_000062_000307,
    0x1E04_000042_000323, 0x1E05_000062_000323, 0x1E06_000042_000331, 0x1E07_000062_000331,
    0x1E08_0000C7_000301, 0x1E09_0000E7_000301, 0x1E0A_000044_000307, 0x1E0B_000064_000307,
    0x1E0C_000044_000323, 0x1E0D_000064_000323, 0x1E0E_000044_000331, 0x1E0F_000064_000331,
    0x1E10_000044_000327, 0x1E11_000064_000327, 0x1E12_000044_00032D, 0x1E13_000064_00032D,
    0x1E14_000112_000300, 0x1E15_000113_000300, 0x1E16_000112_000301, 0x1E17_000113_000301,
    0x1E18_000045_00032D, 0x1E19_000065_00032D, 0x1E1A_000045_000330, 0x1E1B_000065_000330,
    0x1E1C_000228_000306, 0x1E1D_000229_000306, 0x1E1E_000046_000307, 0x1E1F_000066_000307,
    0x1E20_000047_000304, 0x1E21_000067_000304, 0x1E22_000048_000307, 0x1E23_000068_000307,
    0x1E24_000048_000323, 0x1E25_000068_000323, 0x1E26_000048_000308, 0x1E27_000068_000308,
    0x1E28_000048_000327, 0x1E29_000068_000327, 0x1E2A_000048_00032E, 0x1E2B_000068_00032E,
    0x1E2C_000049_000330, 0x1E2D_000069_000330, 0x1E2E_0000CF_000301, 0x1E2F_0000EF_000301,
    0x1E30_00004B_000301, 0x1E31_00006B_000301, 0x1E32_00004B_000323, 0x1E33_00006B_000323,
    0x1E34_00004B_000331, 0x1E35_00006B_000331, 0x1E36_00004C_000323, 0x1E37_00006C_000323,
    0x1E38_001E36_000304, 0x1E39_001E37_000304, 0x1E3A_00004C_000331, 0x1E3B_00006C_000331,
    0x1E3C_00004C_00032D, 0x1E3D_00006C_00032D, 0x1E3E_00004D_000301, 0x1E3F_00006D_000301,
    0x1E40_00004D_000307, 0x1E41_00006D_000307, 0x1E42_00004D_000323, 0x1E43_00006D_000323,
    0x1E44_00004E_000307, 0x1E45_00006E_000307, 0x1E46_00004E_000323, 0x1E47_00006E_000323,
    0x1E48_00004E_000331, 0x1E49_00006E_000331, 0x1E4A_00004E_00032D, 0x1E4B_00006E_00032D,
    0x1E4C_0000D5_000301, 0x1E4D_0000F5_000301, 0x1E4E_0000D5_000308, 0x1E4F_0000F5_000308,
    0x1E50_00014C_000300, 0x1E51_00014D_000300, 0x1E52_00014C_000301, 0x1E53_00014D_000301,
    0x1E54_000050_000301, 0x1E55_000070_000301, 0x1E56_000050_000307, 0x1E57_000070_000307,
    0x1E58_000052_000307, 0x1E59_000072_000307, 0x1E5A_000052_000323, 0x1E5B_000072_000323,
    0x1E5C_001E5A_000304, 0x1E5D_001E5B_000304, 0x1E5E_000052_000331, 0x1E5F_000072_000331,
    0x1E60_000053_000307, 0x1E61_000073_000307, 0x1E62_000053_000323, 0x1E63_000073_000323,
    0x1E64_00015A_000307, 0x1E65_00015B_000307, 0x1E66_000160_000307, 0x1E67_000161_000307,
    0x1E68_001E62_000307, 0x1E69_001E63_000307, 0x1E6A_000054_000307, 0x1E6B_000074_000307,
    0x1E6C_000054_000323, 0x1E6D_000074_000323, 0x1E6E_000054_000331, 0x1E6F_000074_000331,
    0x1E70_000054_00032D, 0x1E71_000074_00032D, 0x1E72_000055_000324, 0x1E73_000075_000324,
    0x1E74_000055_000330, 0x1E75_000075_000330, 0x1E76_000055_00032D, 0x1E77_000075_00032D,
    0x1E78_000168_000301, 0x1E79_000169_000301, 0x1E7A_00016A_000308, 0x1E7B_00016B_000308,
    0x1E7C_000056_000303, 0x1E7D_000076_000303, 0x1E7E_000056_000323, 0x1E7F_000076_000323,
    0x1E80_000057_000300, 0x1E81_000077_000300, 0x1E82_000057_000301, 0x1E83_000077_000301,
    0x1E84_000057_000308, 0x1E85_000077_000308, 0x1E86_000057_000307, 0x1E87_000077_000307,
    0x1E88_000057_000323, 0x1E89_000077_000323, 0x1E8A_000058_000307, 0x1E8B_000078_000307,
    0x1E8C_000058_000308, 0x1E8D_000078_000308, 0x1E8E_000059_000307, 0x1E8F_000079_000307,
    0x1E90_00005A_000302, 0x1E91_00007A_000302, 0x1E92_00005A_000323, 0x1E93_00007A_000323,
    0x1E94_00005A_000331, 0x1E95_00007A_000331, 0x1E96_000068_000331, 0x1E97_000074_000308,
    0x1E98_000077_00030A, 0x1E99_000079_00030A, 0x1E9B_00017F_000307, 0x1EA0_000041_000323,
    0x1EA1_000061_000323, 0x1EA2_000041_000309, 0x1EA3_000061_000309, 0x1EA4_0000C2_000301,
    0x1EA5_0000E2_000301, 0x1EA6_0000C2_000300, 0x1EA7_0000E2_000300, 0x1EA8_0000C2_000309,
    0x1EA9_0000E2_000309, 0x1EAA_0000C2_000303, 0x1EAB_0000E2_000303, 0x1EAC_001EA0_000302,
    0x1EAD_001EA1_000302, 0x1EAE_000102_000301, 0x1EAF_000103_000301, 0x1EB0_000102_000300,
    0x1EB1_000103_000300, 0x1EB2_000102_000309, 0x1EB3_000103_000309, 0x1EB4_000102_000303,
    0x1EB5_000103_000303, 0x1EB6_001EA0_000306, 0x1EB7_001EA1_000306, 0x1EB8_000045_000323,
    0x1EB9_000065_000323, 0x1EBA_000045_000309, 0x1EBB_000065_000309, 0x1EBC_000045_000303,
    0x1EBD_000065_000303, 0x1EBE_0000CA_000301, 0x1EBF_0000EA_000301, 0x1EC0_0000CA_000300,
    0x1EC1_0000EA_000300, 0x1EC2_0000CA_000309, 0x1EC3_0000EA_000309, 0x1EC4_0000CA_000303,
    0x1EC5_0000EA_000303, 0x1EC6_001EB8_000302, 0x1EC7_001EB9_000302, 0x1EC8_000049_000309,
    0x1EC9_000069_000309, 0x1ECA_000049_000323, 0x1ECB_000069_000323, 0x1ECC_00004F_000323,
    0x1ECD_00006F_000323, 0x1ECE_00004F_000309, 0x1ECF_00006F_000309, 0x1ED0_0000D4_000301,
    0x1ED1_0000F4_000301, 0x1ED2_0000D4_000300, 0x1ED3_0000F4_000300, 0x1ED4_0000D4_000309,
    0x1ED5_0000F4_000309, 0x1ED6_0000D4_000303, 0x1ED7_0000F4_000303, 0x1ED8_001ECC_000302,
    0x1ED9_001ECD_000302, 0x1EDA_0001A0_000301, 0x1EDB_0001A1_000301, 0x1EDC_0001A0_000300,
    0x1EDD_0001A1_000300, 0x1EDE_0001A0_000309, 0x1EDF_0001A1_000309, 0x1EE0_0001A0_000303,
    0x1EE1_0001A1_000303, 0x1EE2_0001A0_000323, 0x1EE3_0001A1_000323, 0x1EE4_000055_000323,
    0x1EE5_000075_000323, 0x1EE6_000055_000309, 0x1EE7_000075_000309, 0x1EE8_0001AF_000301,
    0x1EE9_0001B0_000301, 0x1EEA_0001AF_000300, 0x1EEB_0001B0_000300, 0x1EEC_0001AF_000309,
    0x1EED_0001B0_000309, 0x1EEE_0001AF_000303, 0x1EEF_0001B0_000303, 0x1EF0_0001AF_000323,
    0x1EF1_0001B0_000323, 0x1EF2_000059_000300, 0x1EF3_000079_000300, 0x1EF4_000059_000323] ++
  [
    0x1EF5_000079_000323, 0x1EF6_000059_000309, 0x1EF7_000079_000309, 0x1EF8_000059_000303,
    0x1EF9_000079_000303]

/-- Canonical decompositions of page 1F. -/
def canonical01F : List Nat :=
  [
    0x1F00_0003B1_000313, 0x1F01_0003B1_000314, 0x1F02_001F00_000300, 0x1F03_001F01_000300,
    0x1F04_001F00_000301, 0x1F05_001F01_000301, 0x1F06_001F00_000342, 0x1F07_001F01_000342,
    0x1F08_000391_000313, 0x1F09_000391_000314, 0x1F0A_001F08_000300, 0x1F0B_001F09_000300,
    0x1F0C_001F08_000301, 0x1F0D_001F09_000301, 0x1F0E_001F08_000342, 0x1F0F_001F09_000342,
    0x1F10_0003B5_000313, 0x1F11_0003B5_000314, 0x1F12_001F10_000300, 0x1F13_001F11_000300,
    0x1F14_001F10_000301, 0x1F15_001F11_000301, 0x1F18_000395_000313, 0x1F19_000395_000314,
    0x1F1A_001F18_000300, 0x1F1B_001F19_000300, 0x1F1C_001F18_000301, 0x1F1D_001F19_000301,
    0x1F20_0003B7_000313, 0x1F21_0003B7_000314, 0x1F22_001F20_000300, 0x1F23_001F21_000300,
    0x1F24_001F20_000301, 0x1F25_001F21_000301, 0x1F26_001F20_000342, 0x1F27_001F21_000342,
    0x1F28_000397_000313, 0x1F29_000397_000314, 0x1F2A_001F28_000300, 0x1F2B_001F29_000300,
    0x1F2C_001F28_000301, 0x1F2D_001F29_000301, 0x1F2E_001F28_000342, 0x1F2F_001F29_000342,
    0x1F30_0003B9_000313, 0x1F31_0003B9_000314, 0x1F32_001F30_000300, 0x1F33_001F31_000300,
    0x1F34_001F30_000301, 0x1F35_001F31_000301, 0x1F36_001F30_000342, 0x1F37_001F31_000342,
    0x1F38_000399_000313, 0x1F39_000399_000314, 0x1F3A_001F38_000300, 0x1F3B_001F39_000300,
    0x1F3C_001F38_000301, 0x1F3D_001F39_000301, 0x1F3E_001F38_000342, 0x1F3F_001F39_000342,
    0x1F40_0003BF_000313, 0x1F41_0003BF_000314, 0x1F42_001F40_000300, 0x1F43_001F41_000300,
    0x1F44_001F40_000301, 0x1F45_001F41_000301, 0x1F48_00039F_000313, 0x1F49_00039F_000314,
    0x1F4A_001F48_000300, 0x1F4B_001F49_000300, 0x1F4C_001F48_000301, 0x1F4D_001F49_000301,
    0x1F50_0003C5_000313, 0x1F51_0003C5_000314, 0x1F52_001F50_000300, 0x1F53_001F51_000300,
    0x1F54_001F50_000301, 0x1F55_001F51_000301, 0x1F56_001F50_000342, 0x1F57_001F51_000342,
    0x1F59_0003A5_000314, 0x1F5B_001F59_000300, 0x1F5D_001F59_000301, 0x1F5F_001F59_000342,
    0x1F60_0003C9_000313, 0x1F61_0003C9_000314, 0x1F62_001F60_000300, 0x1F63_001F61_000300,
    0x1F64_001F60_000301, 0x1F65_001F61_000301, 0x1F66_001F60_000342, 0x1F67_001F61_000342,
    0x1F68_0003A9_000313, 0x1F69_0003A9_000314, 0x1F6A_001F68_000300, 0x1F6B_001F69_000300,
    0x1F6C_001F68_000301, 0x1F6D_001F69_000301, 0x1F6E_001F68_000342, 0x1F6F_001F69_000342,
    0x1F70_0003B1_000300, 0x1F71_0003AC, 0x1F72_0003B5_000300, 0x1F73_0003AD,
    0x1F74_0003B7_000300, 0x1F75_0003AE, 0x1F76_0003B9_000300, 0x1F77_0003AF,
    0x1F78_0003BF_000300, 0x1F79_0003CC, 0x1F7A_0003C5_000300, 0x1F7B_0003CD,
    0x1F7C_0003C9_000300, 0x1F7D_0003CE, 0x1F80_001F00_000345, 0x1F81_001F01_000345,
    0x1F82_001F02_000345, 0x1F83_001F03_000345, 0x1F84_001F04_000345, 0x1F85_001F05_000345,
    0x1F86_001F06_000345, 0x1F87_001F07_000345, 0x1F88_001F08_000345, 0x1F89_001F09_000345,
    0x1F8A_001F0A_000345, 0x1F8B_001F0B_000345, 0x1F8C_001F0C_000345, 0x1F8D_001F0D_000345,
    0x1F8E_001F0E_000345, 0x1F8F_001F0F_000345, 0x1F90_001F20_000345, 0x1F91_001F21_000345,
    0x1F92_001F22_000345, 0x1F93_001F23_000345, 0x1F94_001F24_000345, 0x1F95_001F25_000345,
    0x1F96_001F26_000345, 0x1F97_001F27_000345, 0x1F98_001F28_000345, 0x1F99_001F29_000345,
    0x1F9A_001F2A_000345, 0x1F9B_001F2B_000345, 0x1F9C_001F2C_000345, 0x1F9D_001F2D_000345,
    0x1F9E_001F2E_000345, 0x1F9F_001F2F_000345, 0x1FA0_001F60_000345, 0x1FA1_001F61_000345,
    0x1FA2_001F62_000345, 0x1FA3_001F63_000345, 0x1FA4_001F64_000345, 0x1FA5_001F65_000345,
    0x1FA6_001F66_000345, 0x1FA7_001F67_000345, 0x1FA8_001F68_000345, 0x1FA9_001F69_000345,
    0x1FAA_001F6A_000345, 0x1FAB_001F6B_000345, 0x1FAC_001F6C_000345, 0x1FAD_001F6D_000345,
    0x1FAE_001F6E_000345, 0x1FAF_001F6F_000345, 0x1FB0_0003B1_000306, 0x1FB1_0003B1_000304,
    0x1FB2_001F70_000345, 0x1FB3_0003B1_000345, 0x1FB4_0003AC_000345, 0x1FB6_0003B1_000342,
    0x1FB7_001FB6_000345, 0x1FB8_000391_000306, 0x1FB9_000391_000304, 0x1FBA_000391_000300,
    0x1FBB_000386, 0x1FBC_000391_000345, 0x1FBE_0003B9, 0x1FC1_0000A8_000342,
    0x1FC2_001F74_000345, 0x1FC3_0003B7_000345, 0x1FC4_0003AE_000345, 0x1FC6_0003B7_000342,
    0x1FC7_001FC6_000345, 0x1FC8_000395_000300, 0x1FC9_000388, 0x1FCA_000397_000300,
    0x1FCB_000389, 0x1FCC_000397_000345, 0x1FCD_001FBF_000300, 0x1FCE_001FBF_000301,
    0x1FCF_001FBF_000342, 0x1FD0_0003B9_000306, 0x1FD1_0003B9_000304, 0x1FD2_0003CA_000300,
    0x1FD3_000390, 0x1FD6_0003B9_000342, 0x1FD7_0003CA_000342, 0x1FD8_000399_000306,
    0x1FD9_000399_000304, 0x1FDA_000399_000300, 0x1FDB_00038A, 0x1FDD_001FFE_000300,
    0x1FDE_001FFE_000301, 0x1FDF_001FFE_000342, 0x1FE0_0003C5_000306, 0x1FE1_0003C5_000304,
    0x1FE2_0003CB_000300, 0x1FE3_0003B0, 0x1FE4_0003C1_000313, 0x1FE5_0003C1_000314,
    0x1FE6_0003C5_000342, 0x1FE7_0003CB_000342, 0x1FE8_0003A5_000306, 0x1FE9_0003A5_000304,
    0x1FEA_0003A5_000300, 0x1FEB_00038E, 0x1FEC_0003A1_000314, 0x1FED_0000A8_000300,
    0x1FEE_000385, 0x1FEF_000060, 0x1FF2_001F7C_000345, 0x1FF3_0003C9_000345,
    0x1FF4_0003CE_000345, 0x1FF6_0003C9_000342, 0x1FF7_001FF6_000345, 0x1FF8_00039F_000300,
    0x1FF9_00038C, 0x1FFA_0003A9_000300, 0x1FFB_00038F, 0x1FFC_0003A9_000345, 0x1FFD_0000B4]

/-- Canonical decompositions of page 20. -/
def canonical020 : List Nat :=
  [
    0x2000_002002, 0x2001_002003]

/-- Canonical decompositions of page 21. -/
def canonical021 : List Nat :=
  [
    0x2126_0003A9, 0x212A_00004B, 0x212B_0000C5, 0x219A_002190_000338, 0x219B_002192_000338,
    0x21AE_002194_000338, 0x21CD_0021D0_000338, 0x21CE_0021D4_000338, 0x21CF_0021D2_000338]

/-- Canonical decompositions of page 22. -/
def canonical022 : List Nat :=
  [
    0x2204_002203_000338, 0x2209_002208_000338, 0x220C_00220B_000338, 0x2224_002223_000338,
    0x2226_002225_000338, 0x2241_00223C_000338, 0x2244_002243_000338, 0x2247_002245_000338,
    0x2249_002248_000338, 0x2260_00003D_000338, 0x2262_002261_000338, 0x226D_00224D_000338,
    0x226E_00003C_000338, 0x226F_00003E_000338, 0x2270_002264_000338, 0x2271_002265_000338,
    0x2274_002272_000338, 0x2275_002273_000338, 0x2278_002276_000338, 0x2279_002277_000338,
    0x2280_00227A_000338, 0x2281_00227B_000338, 0x2284_002282_000338, 0x2285_002283_000338,
    0x2288_002286_000338, 0x2289_002287_000338, 0x22AC_0022A2_000338, 0x22AD_0022A8_000338,
    0x22AE_0022A9_000338, 0x22AF_0022AB_000338, 0x22E0_00227C_000338, 0x22E1_00227D_000338,
    0x22E2_002291_000338, 0x22E3_002292_000338, 0x22EA_0022B2_000338, 0x22EB_0022B3_000338,
    0x22EC_0022B4_000338, 0x22ED_0022B5_000338]

/-- Canonical decompositions of page 23. -/
def canonical023 : List Nat :=
  [
    0x2329_003008, 0x232A_003009]

/-- Canonical decompositions of page 2A. -/
def canonical02A : List Nat :=
  [
    0x2ADC_002ADD_000338]

/-- Canonical decompositions of page 30. -/
def canonical030 : List Nat :=
  [
    0x304C_00304B_003099, 0x304E_00304D_003099, 0x3050_00304F_003099, 0x3052_003051_003099,
    0x3054_003053_003099, 0x3056_003055_003099, 0x3058_003057_003099, 0x305A_003059_003099,
    0x305C_00305B_003099, 0x305E_00305D_003099, 0x3060_00305F_003099, 0x3062_003061_003099,
    0x3065_003064_003099, 0x3067_003066_003099, 0x3069_003068_003099, 0x3070_00306F_003099,
    0x3071_00306F_00309A, 0x3073_003072_003099, 0x3074_003072_00309A, 0x3076_003075_003099,
    0x3077_003075_00309A, 0x3079_003078_003099, 0x307A_003078_00309A, 0x307C_00307B_003099,
    0x307D_00307B_00309A, 0x3094_003046_003099, 0x309E_00309D_003099, 0x30AC_0030AB_003099,
    0x30AE_0030AD_003099, 0x30B0_0030AF_003099, 0x30B2_0030B1_003099, 0x30B4_0030B3_003099,
    0x30B6_0030B5_003099, 0x30B8_0030B7_003099, 0x30BA_0030B9_003099, 0x30BC_0030BB_003099,
    0x30BE_0030BD_003099, 0x30C0_0030BF_003099, 0x30C2_0030C1_003099, 0x30C5_0030C4_003099,
    0x30C7_0030C6_003099, 0x30C9_0030C8_003099, 0x30D0_0030CF_003099, 0x30D1_0030CF_00309A,
    0x30D3_0030D2_003099, 0x30D4_0030D2_00309A, 0x30D6_0030D5_003099, 0x30D7_0030D5_00309A,
    0x30D9_0030D8_003099, 0x30DA_0030D8_00309A, 0x30DC_0030DB_003099, 0x30DD_0030DB_00309A,
    0x30F4_0030A6_003099, 0x30F7_0030EF_003099, 0x30F8_0030F0_003099, 0x30F9_0030F1_003099,
    0x30FA_0030F2_003099, 0x30FE_0030FD_003099]

/-- Canonical decompositions of page F9. -/
def canonical0F9 : List Nat :=
  [
    0xF900_008C48, 0xF901_0066F4, 0xF902_008ECA, 0xF903_008CC8, 0xF904_006ED1, 0xF905_004E32,
    0xF906_0053E5, 0xF907_009F9C, 0xF908_009F9C, 0xF909_005951, 0xF90A_0091D1, 0xF90B_005587,
    0xF90C_005948, 0xF90D_0061F6, 0xF90E_007669, 0xF90F_007F85, 0xF910_00863F, 0xF911_0087BA,
    0xF912_0088F8, 0xF913_00908F, 0xF914_006A02, 0xF915_006D1B, 0xF916_0070D9, 0xF917_0073DE,
    0xF918_00843D, 0xF919_00916A, 0xF91A_0099F1, 0xF91B_004E82, 0xF91C_005375, 0xF91D_006B04,
    0xF91E_00721B, 0xF91F_00862D, 0xF920_009E1E, 0xF921_005D50, 0xF922_006FEB, 0xF923_0085CD,
    0xF924_008964, 0xF925_0062C9, 0xF926_0081D8, 0xF927_00881F, 0xF928_005ECA, 0xF929_006717,
    0xF92A_006D6A, 0xF92B_0072FC, 0xF92C_0090CE, 0xF92D_004F86, 0xF92E_0051B7, 0xF92F_0052DE,
    0xF930_0064C4, 0xF931_006AD3, 0xF932_007210, 0xF933_0076E7, 0xF934_008001, 0xF935_008606,
    0xF936_00865C, 0xF937_008DEF, 0xF938_009732, 0xF939_009B6F, 0xF93A_009DFA, 0xF93B_00788C,
    0xF93C_00797F, 0xF93D_007DA0, 0xF93E_0083C9, 0xF93F_009304, 0xF940_009E7F, 0xF941_008AD6,
    0xF942_0058DF, 0xF943_005F04, 0xF944_007C60, 0xF945_00807E, 0xF946_007262, 0xF947_0078CA,
    0xF948_008CC2, 0xF949_0096F7, 0xF94A_0058D8, 0xF94B_005C62, 0xF94C_006A13, 0xF94D_006DDA,
    0xF94E_006F0F, 0xF94F_007D2F, 0xF950_007E37, 0xF951_00964B, 0xF952_0052D2, 0xF953_00808B,
    0xF954_0051DC, 0xF955_0051CC, 0xF956_007A1C, 0xF957_007DBE, 0xF958_0083F1, 0xF959_009675,
    0xF95A_008B80, 0xF95B_0062CF, 0xF95C_006A02, 0xF95D_008AFE, 0xF95E_004E39, 0xF95F_005BE7,
    0xF960_006012, 0xF961_007387, 0xF962_007570, 0xF963_005317, 0xF964_0078FB, 0xF965_004FBF,
    0xF966_005FA9, 0xF967_004E0D, 0xF968_006CCC, 0xF969_006578, 0xF96A_007D22, 0xF96B_0053C3,
    0xF96C_00585E, 0xF96D_007701, 0xF96E_008449, 0xF96F_008AAA, 0xF970_006BBA, 0xF971_008FB0,
    0xF972_006C88, 0xF973_0062FE, 0xF974_0082E5, 0xF975_0063A0, 0xF976_007565, 0xF977_004EAE,
    0xF978_005169, 0xF979_0051C9, 0xF97A_006881, 0xF97B_007CE7, 0xF97C_00826F, 0xF97D_008AD2,
    0xF97E_0091CF, 0xF97F_0052F5, 0xF980_005442, 0xF981_005973, 0xF982_005EEC, 0xF983_0065C5,
    0xF984_006FFE, 0xF985_00792A, 0xF986_0095AD, 0xF987_009A6A, 0xF988_009E97, 0xF989_009ECE,
    0xF98A_00529B, 0xF98B_0066C6, 0xF98C_006B77, 0xF98D_008F62, 0xF98E_005E74, 0xF98F_006190,
    0xF990_006200, 0xF991_00649A, 0xF992_006F23, 0xF993_007149, 0xF994_007489, 0xF995_0079CA,
    0xF996_007DF4, 0xF997_00806F, 0xF998_008F26, 0xF999_0084EE, 0xF99A_009023, 0xF99B_00934A,
    0xF99C_005217, 0xF99D_0052A3, 0xF99E_0054BD, 0xF99F_0070C8, 0xF9A0_0088C2, 0xF9A1_008AAA,
    0xF9A2_005EC9, 0xF9A3_005FF5, 0xF9A4_00637B, 0xF9A5_006BAE, 0xF9A6_007C3E, 0xF9A7_007375,
    0xF9A8_004EE4, 0xF9A9_0056F9, 0xF9AA_005BE7, 0xF9AB_005DBA, 0xF9AC_00601C, 0xF9AD_0073B2,
    0xF9AE_007469, 0xF9AF_007F9A, 0xF9B0_008046, 0xF9B1_009234, 0xF9B2_0096F6, 0xF9B3_009748,
    0xF9B4_009818, 0xF9B5_004F8B, 0xF9B6_0079AE, 0xF9B7_0091B4, 0xF9B8_0096B8, 0xF9B9_0060E1,
    0xF9BA_004E86, 0xF9BB_0050DA, 0xF9BC_005BEE, 0xF9BD_005C3F, 0xF9BE_006599, 0xF9BF_006A02,
    0xF9C0_0071CE, 0xF9C1_007642, 0xF9C2_0084FC, 0xF9C3_00907C, 0xF9C4_009F8D, 0xF9C5_006688,
    0xF9C6_00962E, 0xF9C7_005289, 0xF9C8_00677B, 0xF9C9_0067F3, 0xF9CA_006D41, 0xF9CB_006E9C,
    0xF9CC_007409, 0xF9CD_007559, 0xF9CE_00786B, 0xF9CF_007D10, 0xF9D0_00985E, 0xF9D1_00516D,
    0xF9D2_00622E, 0xF9D3_009678, 0xF9D4_00502B, 0xF9D5_005D19, 0xF9D6_006DEA, 0xF9D7_008F2A,
    0xF9D8_005F8B, 0xF9D9_006144, 0xF9DA_006817, 0xF9DB_007387, 0xF9DC_009686, 0xF9DD_005229,
    0xF9DE_00540F, 0xF9DF_005C65, 0xF9E0_006613, 0xF9E1_00674E, 0xF9E2_0068A8, 0xF9E3_006CE5,
    0xF9E4_007406, 0xF9E5_0075E2, 0xF9E6_007F79, 0xF9E7_0088CF, 0xF9E8_0088E1, 0xF9E9_0091CC,
    0xF9EA_0096E2, 0xF9EB_00533F, 0xF9EC_006EBA, 0xF9ED_00541D, 0xF9EE_0071D0, 0xF9EF_007498] ++
  [
    0xF9F0_0085FA, 0xF9F1_0096A3, 0xF9F2_009C57, 0xF9F3_009E9F, 0xF9F4_006797, 0xF9F5_006DCB,
    0xF9F6_0081E8, 0xF9F7_007ACB, 0xF9F8_007B20, 0xF9F9_007C92, 0xF9FA_0072C0, 0xF9FB_007099,
    0xF9FC_008B58, 0xF9FD_004EC0, 0xF9FE_008336, 0xF9FF_00523A]

/-- Canonical decompositions of page FA. -/
def canonical0FA : List Nat :=
  [
    0xFA00_005207, 0xFA01_005EA6, 0xFA02_0062D3, 0xFA03_007CD6, 0xFA04_005B85, 0xFA05_006D1E,
    0xFA06_0066B4, 0xFA07_008F3B, 0xFA08_00884C, 0xFA09_00964D, 0xFA0A_00898B, 0xFA0B_005ED3,
    0xFA0C_005140, 0xFA0D_0055C0, 0xFA10_00585A, 0xFA12_006674, 0xFA15_0051DE, 0xFA16_00732A,
    0xFA17_0076CA, 0xFA18_00793C, 0xFA19_00795E, 0xFA1A_007965, 0xFA1B_00798F, 0xFA1C_009756,
    0xFA1D_007CBE, 0xFA1E_007FBD, 0xFA20_008612, 0xFA22_008AF8, 0xFA25_009038, 0xFA26_0090FD,
    0xFA2A_0098EF, 0xFA2B_0098FC, 0xFA2C_009928, 0xFA2D_009DB4, 0xFA2E_0090DE, 0xFA2F_0096B7,
    0xFA30_004FAE, 0xFA31_0050E7, 0xFA32_00514D, 0xFA33_0052C9, 0xFA34_0052E4, 0xFA35_005351,
    0xFA36_00559D, 0xFA37_005606, 0xFA38_005668, 0xFA39_005840, 0xFA3A_0058A8, 0xFA3B_005C64,
    0xFA3C_005C6E, 0xFA3D_006094, 0xFA3E_006168, 0xFA3F_00618E, 0xFA40_0061F2, 0xFA41_00654F,
    0xFA42_0065E2, 0xFA43_006691, 0xFA44_006885, 0xFA45_006D77, 0xFA46_006E1A, 0xFA47_006F22,
    0xFA48_00716E, 0xFA49_00722B, 0xFA4A_007422, 0xFA4B_007891, 0xFA4C_00793E, 0xFA4D_007949,
    0xFA4E_007948, 0xFA4F_007950, 0xFA50_007956, 0xFA51_00795D, 0xFA52_00798D, 0xFA53_00798E,
    0xFA54_007A40, 0xFA55_007A81, 0xFA56_007BC0, 0xFA57_007DF4, 0xFA58_007E09, 0xFA59_007E41,
    0xFA5A_007F72, 0xFA5B_008005, 0xFA5C_0081ED, 0xFA5D_008279, 0xFA5E_008279, 0xFA5F_008457,
    0xFA60_008910, 0xFA61_008996, 0xFA62_008B01, 0xFA63_008B39, 0xFA64_008CD3, 0xFA65_008D08,
    0xFA66_008FB6, 0xFA67_009038, 0xFA68_0096E3, 0xFA69_0097FF, 0xFA6A_00983B, 0xFA6B_006075,
    0xFA6C_0242EE, 0xFA6D_008218, 0xFA70_004E26, 0xFA71_0051B5, 0xFA72_005168, 0xFA73_004F80,
    0xFA74_005145, 0xFA75_005180, 0xFA76_0052C7, 0xFA77_0052FA, 0xFA78_00559D, 0xFA79_005555,
    0xFA7A_005599, 0xFA7B_0055E2, 0xFA7C_00585A, 0xFA7D_0058B3, 0xFA7E_005944, 0xFA7F_005954,
    0xFA80_005A62, 0xFA81_005B28, 0xFA82_005ED2, 0xFA83_005ED9, 0xFA84_005F69, 0xFA85_005FAD,
    0xFA86_0060D8, 0xFA87_00614E, 0xFA88_006108, 0xFA89_00618E, 0xFA8A_006160, 0xFA8B_0061F2,
    0xFA8C_006234, 0xFA8D_0063C4, 0xFA8E_00641C, 0xFA8F_006452, 0xFA90_006556, 0xFA91_006674,
    0xFA92_006717, 0xFA93_00671B, 0xFA94_006756, 0xFA95_006B79, 0xFA96_006BBA, 0xFA97_006D41,
    0xFA98_006EDB, 0xFA99_006ECB, 0xFA9A_006F22, 0xFA9B_00701E, 0xFA9C_00716E, 0xFA9D_0077A7,
    0xFA9E_007235, 0xFA9F_0072AF, 0xFAA0_00732A, 0xFAA1_007471, 0xFAA2_007506, 0xFAA3_00753B,
    0xFAA4_00761D, 0xFAA5_00761F, 0xFAA6_0076CA, 0xFAA7_0076DB, 0xFAA8_0076F4, 0xFAA9_00774A,
    0xFAAA_007740, 0xFAAB_0078CC, 0xFAAC_007AB1, 0xFAAD_007BC0, 0xFAAE_007C7B, 0xFAAF_007D5B,
    0xFAB0_007DF4, 0xFAB1_007F3E, 0xFAB2_008005, 0xFAB3_008352, 0xFAB4_0083EF, 0xFAB5_008779,
    0xFAB6_008941, 0xFAB7_008986, 0xFAB8_008996, 0xFAB9_008ABF, 0xFABA_008AF8, 0xFABB_008ACB,
    0xFABC_008B01, 0xFABD_008AFE, 0xFABE_008AED, 0xFABF_008B39, 0xFAC0_008B8A, 0xFAC1_008D08,
    0xFAC2_008F38, 0xFAC3_009072, 0xFAC4_009199, 0xFAC5_009276, 0xFAC6_00967C, 0xFAC7_0096E3,
    0xFAC8_009756, 0xFAC9_0097DB, 0xFACA_0097FF, 0xFACB_00980B, 0xFACC_00983B, 0xFACD_009B12,
    0xFACE_009F9C, 0xFACF_02284A, 0xFAD0_022844, 0xFAD1_0233D5, 0xFAD2_003B9D, 0xFAD3_004018,
    0xFAD4_004039, 0xFAD5_025249, 0xFAD6_025CD0, 0xFAD7_027ED3, 0xFAD8_009F43, 0xFAD9_009F8E]

/-- Canonical decompositions of page FB. -/
def canonical0FB : List Nat :=
  [
    0xFB1D_0005D9_0005B4, 0xFB1F_0005F2_0005B7, 0xFB2A_0005E9_0005C1, 0xFB2B_0005E9_0005C2,
    0xFB2C_00FB49_0005C1, 0xFB2D_00FB49_0005C2, 0xFB2E_0005D0_0005B7, 0xFB2F_0005D0_0005B8,
    0xFB30_0005D0_0005BC, 0xFB31_0005D1_0005BC, 0xFB32_0005D2_0005BC, 0xFB33_0005D3_0005BC,
    0xFB34_0005D4_0005BC, 0xFB35_0005D5_0005BC, 0xFB36_0005D6_0005BC, 0xFB38_0005D8_0005BC,
    0xFB39_0005D9_0005BC, 0xFB3A_0005DA_0005BC, 0xFB3B_0005DB_0005BC, 0xFB3C_0005DC_0005BC,
    0xFB3E_0005DE_0005BC, 0xFB40_0005E0_0005BC, 0xFB41_0005E1_0005BC, 0xFB43_0005E3_0005BC,
    0xFB44_0005E4_0005BC, 0xFB46_0005E6_0005BC, 0xFB47_0005E7_0005BC, 0xFB48_0005E8_0005BC,
    0xFB49_0005E9_0005BC, 0xFB4A_0005EA_0005BC, 0xFB4B_0005D5_0005B9, 0xFB4C_0005D1_0005BF,
    0xFB4D_0005DB_0005BF, 0xFB4E_0005E4_0005BF]

/-- Canonical decompositions of page 110. -/
def canonical110 : List Nat :=
  [
    0x1109A_011099_0110BA, 0x1109C_01109B_0110BA, 0x110AB_0110A5_0110BA]

/-- Canonical decompositions of page 111. -/
def canonical111 : List Nat :=
  [
    0x1112E_011131_011127, 0x1112F_011132_011127]

/-- Canonical decompositions of page 113. -/
def canonical113 : List Nat :=
  [
    0x1134B_011347_01133E, 0x1134C_011347_011357]

/-- Canonical decompositions of page 114. -/
def canonical114 : List Nat :=
  [
    0x114BB_0114B9_0114BA, 0x114BC_0114B9_0114B0, 0x114BE_0114B9_0114BD]

/-- Canonical decompositions of page 115. -/
def canonical115 : List Nat :=
  [
    0x115BA_0115B8_0115AF, 0x115BB_0115B9_0115AF]

/-- Canonical decompositions of page 119. -/
def canonical119 : List Nat :=
  [
    0x11938_011935_011930]

/-- Canonical decompositions of page 1D1. -/
def canonical1D1 : List Nat :=
  [
    0x1D15E_01D157_01D165, 0x1D15F_01D158_01D165, 0x1D160_01D15F_01D16E, 0x1D161_01D15F_01D16F,
    0x1D162_01D15F_01D170, 0x1D163_01D15F_01D171, 0x1D164_01D15F_01D172, 0x1D1BB_01D1B9_01D165,
    0x1D1BC_01D1BA_01D165, 0x1D1BD_01D1BB_01D16E, 0x1D1BE_01D1BC_01D16E, 0x1D1BF_01D1BB_01D16F,
    0x1D1C0_01D1BC_01D16F]

/-- Canonical decompositions of page 2F8. -/
def canonical2F8 : List Nat :=
  [
    0x2F800_004E3D, 0x2F801_004E38, 0x2F802_004E41, 0x2F803_020122, 0x2F804_004F60,
    0x2F805_004FAE, 0x2F806_004FBB, 0x2F807_005002, 0x2F808_00507A, 0x2F809_005099,
    0x2F80A_0050E7, 0x2F80B_0050CF, 0x2F80C_00349E, 0x2F80D_02063A, 0x2F80E_00514D,
    0x2F80F_005154, 0x2F810_005164, 0x2F811_005177, 0x2F812_02051C, 0x2F813_0034B9,
    0x2F814_005167, 0x2F815_00518D, 0x2F816_02054B, 0x2F817_005197, 0x2F818_0051A4,
    0x2F819_004ECC, 0x2F81A_0051AC, 0x2F81B_0051B5, 0x2F81C_0291DF, 0x2F81D_0051F5,
    0x2F81E_005203, 0x2F81F_0034DF, 0x2F820_00523B, 0x2F821_005246, 0x2F822_005272,
    0x2F823_005277, 0x2F824_003515, 0x2F825_0052C7, 0x2F826_0052C9, 0x2F827_0052E4,
    0x2F828_0052FA, 0x2F829_005305, 0x2F82A_005306, 0x2F82B_005317, 0x2F82C_005349,
    0x2F82D_005351, 0x2F82E_00535A, 0x2F82F_005373, 0x2F830_00537D, 0x2F831_00537F,
    0x2F832_00537F, 0x2F833_00537F, 0x2F834_020A2C, 0x2F835_007070, 0x2F836_0053CA,
    0x2F837_0053DF, 0x2F838_020B63, 0x2F839_0053EB, 0x2F83A_0053F1, 0x2F83B_005406,
    0x2F83C_00549E, 0x2F83D_005438, 0x2F83E_005448, 0x2F83F_005468, 0x2F840_0054A2,
    0x2F841_0054F6, 0x2F842_005510, 0x2F843_005553, 0x2F844_005563, 0x2F845_005584,
    0x2F846_005584, 0x2F847_005599, 0x2F848_0055AB, 0x2F849_0055B3, 0x2F84A_0055C2,
    0x2F84B_005716, 0x2F84C_005606, 0x2F84D_005717, 0x2F84E_005651, 0x2F84F_005674,
    0x2F850_005207, 0x2F851_0058EE, 0x2F852_0057CE, 0x2F853_0057F4, 0x2F854_00580D,
    0x2F855_00578B, 0x2F856_005832, 0x2F857_005831, 0x2F858_0058AC, 0x2F859_0214E4,
    0x2F85A_0058F2, 0x2F85B_0058F7, 0x2F85C_005906, 0x2F85D_00591A, 0x2F85E_005922,
    0x2F85F_005962, 0x2F860_0216A8, 0x2F861_0216EA, 0x2F862_0059EC, 0x2F863_005A1B,
    0x2F864_005A27, 0x2F865_0059D8, 0x2F866_005A66, 0x2F867_0036EE, 0x2F868_0036FC,
    0x2F869_005B08, 0x2F86A_005B3E, 0x2F86B_005B3E, 0x2F86C_0219C8, 0x2F86D_005BC3,
    0x2F86E_005BD8, 0x2F86F_005BE7, 0x2F870_005BF3, 0x2F871_021B18, 0x2F872_005BFF,
    0x2F873_005C06, 0x2F874_005F53, 0x2F875_005C22, 0x2F876_003781, 0x2F877_005C60,
    0x2F878_005C6E, 0x2F879_005CC0, 0x2F87A_005C8D, 0x2F87B_021DE4, 0x2F87C_005D43,
    0x2F87D_021DE6, 0x2F87E_005D6E, 0x2F87F_005D6B, 0x2F880_005D7C, 0x2F881_005DE1,
    0x2F882_005DE2, 0x2F883_00382F, 0x2F884_005DFD, 0x2F885_005E28, 0x2F886_005E3D,
    0x2F887_005E69, 0x2F888_003862, 0x2F889_022183, 0x2F88A_00387C, 0x2F88B_005EB0,
    0x2F88C_005EB3, 0x2F88D_005EB6, 0x2F88E_005ECA, 0x2F88F_02A392, 0x2F890_005EFE,
    0x2F891_022331, 0x2F892_022331, 0x2F893_008201, 0x2F894_005F22, 0x2F895_005F22,
    0x2F896_0038C7, 0x2F897_0232B8, 0x2F898_0261DA, 0x2F899_005F62, 0x2F89A_005F6B,
    0x2F89B_0038E3, 0x2F89C_005F9A, 0x2F89D_005FCD, 0x2F89E_005FD7, 0x2F89F_005FF9,
    0x2F8A0_006081, 0x2F8A1_00393A, 0x2F8A2_00391C, 0x2F8A3_006094, 0x2F8A4_0226D4,
    0x2F8A5_0060C7, 0x2F8A6_006148, 0x2F8A7_00614C, 0x2F8A8_00614E, 0x2F8A9_00614C,
    0x2F8AA_00617A, 0x2F8AB_00618E, 0x2F8AC_0061B2, 0x2F8AD_0061A4, 0x2F8AE_0061AF,
    0x2F8AF_0061DE, 0x2F8B0_0061F2, 0x2F8B1_0061F6, 0x2F8B2_006210, 0x2F8B3_00621B,
    0x2F8B4_00625D, 0x2F8B5_0062B1, 0x2F8B6_0062D4, 0x2F8B7_006350, 0x2F8B8_022B0C,
    0x2F8B9_00633D, 0x2F8BA_0062FC, 0x2F8BB_006368, 0x2F8BC_006383, 0x2F8BD_0063E4,
    0x2F8BE_022BF1, 0x2F8BF_006422, 0x2F8C0_0063C5, 0x2F8C1_0063A9, 0x2F8C2_003A2E,
    0x2F8C3_006469, 0x2F8C4_00647E, 0x2F8C5_00649D, 0x2F8C6_006477, 0x2F8C7_003A6C,
    0x2F8C8_00654F, 0x2F8C9_00656C, 0x2F8CA_02300A, 0x2F8CB_0065E3, 0x2F8CC_0066F8,
    0x2F8CD_006649, 0x2F8CE_003B19, 0x2F8CF_006691, 0x2F8D0_003B08, 0x2F8D1_003AE4,
    0x2F8D2_005192, 0x2F8D3_005195, 0x2F8D4_006700, 0x2F8D5_00669C, 0x2F8D6_0080AD,
    0x2F8D7_0043D9, 0x2F8D8_006717, 0x2F8D9_00671B, 0x2F8DA_006721, 0x2F8DB_00675E,
    0x2F8DC_006753, 0x2F8DD_0233C3, 0x2F8DE_003B49, 0x2F8DF_0067FA, 0x2F8E0_006785,
    0x2F8E1_006852, 0x2F8E2_006885, 0x2F8E3_02346D, 0x2F8E4_00688E, 0x2F8E5_00681F,
    0x2F8E6_006914, 0x2F8E7_003B9D, 0x2F8E8_006942, 0x2F8E9_0069A3, 0x2F8EA_0069EA,
    0x2F8EB_006AA8, 0x2F8EC_0236A3, 0x2F8ED_006ADB, 0x2F8EE_003C18, 0x2F8EF_006B21] ++
  [
    0x2F8F0_0238A7, 0x2F8F1_006B54, 0x2F8F2_003C4E, 0x2F8F3_006B72, 0x2F8F4_006B9F,
    0x2F8F5_006BBA, 0x2F8F6_006BBB, 0x2F8F7_023A8D, 0x2F8F8_021D0B, 0x2F8F9_023AFA,
    0x2F8FA_006C4E, 0x2F8FB_023CBC, 0x2F8FC_006CBF, 0x2F8FD_006CCD, 0x2F8FE_006C67, 0x2F8FF_006D16]

/-- Canonical decompositions of page 2F9. -/
def canonical2F9 : List Nat :=
  [
    0x2F900_006D3E, 0x2F901_006D77, 0x2F902_006D41, 0x2F903_006D69, 0x2F904_006D78,
    0x2F905_006D85, 0x2F906_023D1E, 0x2F907_006D34, 0x2F908_006E2F, 0x2F909_006E6E,
    0x2F90A_003D33, 0x2F90B_006ECB, 0x2F90C_006EC7, 0x2F90D_023ED1, 0x2F90E_006DF9,
    0x2F90F_006F6E, 0x2F910_023F5E, 0x2F911_023F8E, 0x2F912_006FC6, 0x2F913_007039,
    0x2F914_00701E, 0x2F915_00701B, 0x2F916_003D96, 0x2F917_00704A, 0x2F918_00707D,
    0x2F919_007077, 0x2F91A_0070AD, 0x2F91B_020525, 0x2F91C_007145, 0x2F91D_024263,
    0x2F91E_00719C, 0x2F91F_0243AB, 0x2F920_007228, 0x2F921_007235, 0x2F922_007250,
    0x2F923_024608, 0x2F924_007280, 0x2F925_007295, 0x2F926_024735, 0x2F927_024814,
    0x2F928_00737A, 0x2F929_00738B, 0x2F92A_003EAC, 0x2F92B_0073A5, 0x2F92C_003EB8,
    0x2F92D_003EB8, 0x2F92E_007447, 0x2F92F_00745C, 0x2F930_007471, 0x2F931_007485,
    0x2F932_0074CA, 0x2F933_003F1B, 0x2F934_007524, 0x2F935_024C36, 0x2F936_00753E,
    0x2F937_024C92, 0x2F938_007570, 0x2F939_02219F, 0x2F93A_007610, 0x2F93B_024FA1,
    0x2F93C_024FB8, 0x2F93D_025044, 0x2F93E_003FFC, 0x2F93F_004008, 0x2F940_0076F4,
    0x2F941_0250F3, 0x2F942_0250F2, 0x2F943_025119, 0x2F944_025133, 0x2F945_00771E,
    0x2F946_00771F, 0x2F947_00771F, 0x2F948_00774A, 0x2F949_004039, 0x2F94A_00778B,
    0x2F94B_004046, 0x2F94C_004096, 0x2F94D_02541D, 0x2F94E_00784E, 0x2F94F_00788C,
    0x2F950_0078CC, 0x2F951_0040E3, 0x2F952_025626, 0x2F953_007956, 0x2F954_02569A,
    0x2F955_0256C5, 0x2F956_00798F, 0x2F957_0079EB, 0x2F958_00412F, 0x2F959_007A40,
    0x2F95A_007A4A, 0x2F95B_007A4F, 0x2F95C_02597C, 0x2F95D_025AA7, 0x2F95E_025AA7,
    0x2F95F_007AEE, 0x2F960_004202, 0x2F961_025BAB, 0x2F962_007BC6, 0x2F963_007BC9,
    0x2F964_004227, 0x2F965_025C80, 0x2F966_007CD2, 0x2F967_0042A0, 0x2F968_007CE8,
    0x2F969_007CE3, 0x2F96A_007D00, 0x2F96B_025F86, 0x2F96C_007D63, 0x2F96D_004301,
    0x2F96E_007DC7, 0x2F96F_007E02, 0x2F970_007E45, 0x2F971_004334, 0x2F972_026228,
    0x2F973_026247, 0x2F974_004359, 0x2F975_0262D9, 0x2F976_007F7A, 0x2F977_02633E,
    0x2F978_007F95, 0x2F979_007FFA, 0x2F97A_008005, 0x2F97B_0264DA, 0x2F97C_026523,
    0x2F97D_008060, 0x2F97E_0265A8, 0x2F97F_008070, 0x2F980_02335F, 0x2F981_0043D5,
    0x2F982_0080B2, 0x2F983_008103, 0x2F984_00440B, 0x2F985_00813E, 0x2F986_005AB5,
    0x2F987_0267A7, 0x2F988_0267B5, 0x2F989_023393, 0x2F98A_02339C, 0x2F98B_008201,
    0x2F98C_008204, 0x2F98D_008F9E, 0x2F98E_00446B, 0x2F98F_008291, 0x2F990_00828B,
    0x2F991_00829D, 0x2F992_0052B3, 0x2F993_0082B1, 0x2F994_0082B3, 0x2F995_0082BD,
    0x2F996_0082E6, 0x2F997_026B3C, 0x2F998_0082E5, 0x2F999_00831D, 0x2F99A_008363,
    0x2F99B_0083AD, 0x2F99C_008323, 0x2F99D_0083BD, 0x2F99E_0083E7, 0x2F99F_008457,
    0x2F9A0_008353, 0x2F9A1_0083CA, 0x2F9A2_0083CC, 0x2F9A3_0083DC, 0x2F9A4_026C36,
    0x2F9A5_026D6B, 0x2F9A6_026CD5, 0x2F9A7_00452B, 0x2F9A8_0084F1, 0x2F9A9_0084F3,
    0x2F9AA_008516, 0x2F9AB_0273CA, 0x2F9AC_008564, 0x2F9AD_026F2C, 0x2F9AE_00455D,
    0x2F9AF_004561, 0x2F9B0_026FB1, 0x2F9B1_0270D2, 0x2F9B2_00456B, 0x2F9B3_008650,
    0x2F9B4_00865C, 0x2F9B5_008667, 0x2F9B6_008669, 0x2F9B7_0086A9, 0x2F9B8_008688,
    0x2F9B9_00870E, 0x2F9BA_0086E2, 0x2F9BB_008779, 0x2F9BC_008728, 0x2F9BD_00876B,
    0x2F9BE_008786, 0x2F9BF_0045D7, 0x2F9C0_0087E1, 0x2F9C1_008801, 0x2F9C2_0045F9,
    0x2F9C3_008860, 0x2F9C4_008863, 0x2F9C5_027667, 0x2F9C6_0088D7, 0x2F9C7_0088DE,
    0x2F9C8_004635, 0x2F9C9_0088FA, 0x2F9CA_0034BB, 0x2F9CB_0278AE, 0x2F9CC_027966,
    0x2F9CD_0046BE, 0x2F9CE_0046C7, 0x2F9CF_008AA0, 0x2F9D0_008AED, 0x2F9D1_008B8A,
    0x2F9D2_008C55, 0x2F9D3_027CA8, 0x2F9D4_008CAB, 0x2F9D5_008CC1, 0x2F9D6_008D1B,
    0x2F9D7_008D77, 0x2F9D8_027F2F, 0x2F9D9_020804, 0x2F9DA_008DCB, 0x2F9DB_008DBC,
    0x2F9DC_008DF0, 0x2F9DD_0208DE, 0x2F9DE_008ED4, 0x2F9DF_008F38, 0x2F9E0_0285D2,
    0x2F9E1_0285ED, 0x2F9E2_009094, 0x2F9E3_0090F1, 0x2F9E4_009111, 0x2F9E5_02872E,
    0x2F9E6_00911B, 0x2F9E7_009238, 0x2F9E8_0092D7, 0x2F9E9_0092D8, 0x2F9EA_00927C,
    0x2F9EB_0093F9, 0x2F9EC_009415, 0x2F9ED_028BFA, 0x2F9EE_00958B, 0x2F9EF_004995] ++
  [
    0x2F9F0_0095B7, 0x2F9F1_028D77, 0x2F9F2_0049E6, 0x2F9F3_0096C3, 0x2F9F4_005DB2,
    0x2F9F5_009723, 0x2F9F6_029145, 0x2F9F7_02921A, 0x2F9F8_004A6E, 0x2F9F9_004A76,
    0x2F9FA_0097E0, 0x2F9FB_02940A, 0x2F9FC_004AB2, 0x2F9FD_029496, 0x2F9FE_00980B, 0x2F9FF_00980B]

/-- Canonical decompositions of page 2FA. -/
def canonical2FA : List Nat :=
  [
    0x2FA00_009829, 0x2FA01_0295B6, 0x2FA02_0098E2, 0x2FA03_004B33, 0x2FA04_009929,
    0x2FA05_0099A7, 0x2FA06_0099C2, 0x2FA07_0099FE, 0x2FA08_004BCE, 0x2FA09_029B30,
    0x2FA0A_009B12, 0x2FA0B_009C40, 0x2FA0C_009CFD, 0x2FA0D_004CCE, 0x2FA0E_004CED,
    0x2FA0F_009D67, 0x2FA10_02A0CE, 0x2FA11_004CF8, 0x2FA12_02A105, 0x2FA13_02A20E,
    0x2FA14_02A291, 0x2FA15_009EBB, 0x2FA16_004D56, 0x2FA17_009EF9, 0x2FA18_009EFE,
    0x2FA19_009F05, 0x2FA1A_009F0F, 0x2FA1B_009F16, 0x2FA1C_009F3B, 0x2FA1D_02A600]

/-- Characters with a canonical decomposition, by page of 256: the character, then its one or two
parts. -/
def canonicalPages : List Page := pages [
  (0x0, canonical000), (0x1, canonical001), (0x2, canonical002), (0x3, canonical003),
  (0x4, canonical004), (0x6, canonical006), (0x9, canonical009), (0xA, canonical00A),
  (0xB, canonical00B), (0xC, canonical00C), (0xD, canonical00D), (0xF, canonical00F),
  (0x10, canonical010), (0x1B, canonical01B), (0x1E, canonical01E), (0x1F, canonical01F),
  (0x20, canonical020), (0x21, canonical021), (0x22, canonical022), (0x23, canonical023),
  (0x2A, canonical02A), (0x30, canonical030), (0xF9, canonical0F9), (0xFA, canonical0FA),
  (0xFB, canonical0FB), (0x110, canonical110), (0x111, canonical111), (0x113, canonical113),
  (0x114, canonical114), (0x115, canonical115), (0x119, canonical119), (0x1D1, canonical1D1),
  (0x2F8, canonical2F8), (0x2F9, canonical2F9), (0x2FA, canonical2FA)]

/-- Characters of two parts that no composition makes: script exclusions and those whose parts begin
with a mark. -/
def compositionExclusions : List Nat :=
  [
    0x344, 0x958, 0x959, 0x95A, 0x95B, 0x95C, 0x95D, 0x95E, 0x95F, 0x9DC, 0x9DD, 0x9DF, 0xA33,
    0xA36, 0xA59, 0xA5A, 0xA5B, 0xA5E, 0xB5C, 0xB5D, 0xF43, 0xF4D, 0xF52, 0xF57, 0xF5C, 0xF69,
    0xF73, 0xF75, 0xF76, 0xF78, 0xF81, 0xF93, 0xF9D, 0xFA2, 0xFA7, 0xFAC, 0xFB9, 0x2ADC, 0xFB1D,
    0xFB1F, 0xFB2A, 0xFB2B, 0xFB2C, 0xFB2D, 0xFB2E, 0xFB2F, 0xFB30, 0xFB31, 0xFB32, 0xFB33,
    0xFB34, 0xFB35, 0xFB36, 0xFB38, 0xFB39, 0xFB3A, 0xFB3B, 0xFB3C, 0xFB3E, 0xFB40, 0xFB41,
    0xFB43, 0xFB44, 0xFB46, 0xFB47, 0xFB48, 0xFB49, 0xFB4A, 0xFB4B, 0xFB4C, 0xFB4D, 0xFB4E,
    0x1D15E, 0x1D15F, 0x1D160, 0x1D161, 0x1D162, 0x1D163, 0x1D164, 0x1D1BB, 0x1D1BC, 0x1D1BD,
    0x1D1BE, 0x1D1BF, 0x1D1C0]

end DatasetForm.Text
