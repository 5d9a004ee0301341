import DatasetForm.Text.Packed

/-!
The compatibility decompositions of Unicode 14, one step each: ligatures, wide and narrow forms,
super- and subscripts, circled and styled letters, presentation forms.
-/

set_option autoImplicit false
set_option relaxedAutoImplicit false

namespace DatasetForm.Text

/-- Compatibility decompositions of page 0. -/
def compatibility000 : List Nat :=
  [
    0xA0_000020, 0xA8_000020_000308, 0xAA_000061, 0xAF_000020_000304, 0xB2_000032, 0xB3_000033,
    0xB4_000020_000301, 0xB5_0003BC, 0xB8_000020_000327, 0xB9_000031, 0xBA_00006F,
    0xBC_000031_002044_000034, 0xBD_000031_002044_000032, 0xBE_000033_002044_000034]

/-- Compatibility decompositions of page 1. -/
def compatibility001 : List Nat :=
  [
    0x132_000049_00004A, 0x133_000069_00006A, 0x13F_00004C_0000B7, 0x140_00006C_0000B7,
    0x149_0002BC_00006E, 0x17F_000073, 0x1C4_000044_00017D, 0x1C5_000044_00017E,
    0x1C6_000064_00017E, 0x1C7_00004C_00004A, 0x1C8_00004C_00006A, 0x1C9_00006C_00006A,
    0x1CA_00004E_00004A, 0x1CB_00004E_00006A, 0x1CC_00006E_00006A, 0x1F1_000044_00005A,
    0x1F2_000044_00007A, 0x1F3_000064_00007A]

/-- Compatibility decompositions of page 2. -/
def compatibility002 : List Nat :=
  [
    0x2B0_000068, 0x2B1_000266, 0x2B2_00006A, 0x2B3_000072, 0x2B4_000279, 0x2B5_00027B,
    0x2B6_000281, 0x2B7_000077, 0x2B8_000079, 0x2D8_000020_000306, 0x2D9_000020_000307,
    0x2DA_000020_00030A, 0x2DB_000020_000328, 0x2DC_000020_000303, 0x2DD_000020_00030B,
    0x2E0_000263, 0x2E1_00006C, 0x2E2_000073, 0x2E3_000078, 0x2E4_000295]

/-- Compatibility decompositions of page 3. -/
def compatibility003 : List Nat :=
  [
    0x37A_000020_000345, 0x384_000020_000301, 0x3D0_0003B2, 0x3D1_0003B8, 0x3D2_0003A5,
    0x3D5_0003C6, 0x3D6_0003C0, 0x3F0_0003BA, 0x3F1_0003C1, 0x3F2_0003C2, 0x3F4_000398,
    0x3F5_0003B5, 0x3F9_0003A3]

/-- Compatibility decompositions of page 5. -/
def compatibility005 : List Nat :=
  [
    0x587_000565_000582]

/-- Compatibility decompositions of page 6. -/
def compatibility006 : List Nat :=
  [
    0x675_000627_000674, 0x676_000648_000674, 0x677_0006C7_000674, 0x678_00064A_000674]

/-- Compatibility decompositions of page E. -/
def compatibility00E : List Nat :=
  [
    0xE33_000E4D_000E32, 0xEB3_000ECD_000EB2, 0xEDC_000EAB_000E99, 0xEDD_000EAB_000EA1]

/-- Compatibility decompositions of page F. -/
def compatibility00F : List Nat :=
  [
    0xF0C_000F0B, 0xF77_000FB2_000F81, 0xF79_000FB3_000F81]

/-- Compatibility decompositions of page 10. -/
def compatibility010 : List Nat :=
  [
    0x10FC_0010DC]

/-- Compatibility decompositions of page 1D. -/
def compatibility01D : List Nat :=
  [
    0x1D2C_000041, 0x1D2D_0000C6, 0x1D2E_000042, 0x1D30_000044, 0x1D31_000045, 0x1D32_00018E,
    0x1D33_000047, 0x1D34_000048, 0x1D35_000049, 0x1D36_00004A, 0x1D37_00004B, 0x1D38_00004C,
    0x1D39_00004D, 0x1D3A_00004E, 0x1D3C_00004F, 0x1D3D_000222, 0x1D3E_000050, 0x1D3F_000052,
    0x1D40_000054, 0x1D41_000055, 0x1D42_000057, 0x1D43_000061, 0x1D44_000250, 0x1D45_000251,
    0x1D46_001D02, 0x1D47_000062, 0x1D48_000064, 0x1D49_000065, 0x1D4A_000259, 0x1D4B_00025B,
    0x1D4C_00025C, 0x1D4D_000067, 0x1D4F_00006B, 0x1D50_00006D, 0x1D51_00014B, 0x1D52_00006F,
    0x1D53_000254, 0x1D54_001D16, 0x1D55_001D17, 0x1D56_000070, 0x1D57_000074, 0x1D58_000075,
    0x1D59_001D1D, 0x1D5A_00026F, 0x1D5B_000076, 0x1D5C_001D25, 0x1D5D_0003B2, 0x1D5E_0003B3,
    0x1D5F_0003B4, 0x1D60_0003C6, 0x1D61_0003C7, 0x1D62_000069, 0x1D63_000072, 0x1D64_000075,
    0x1D65_000076, 0x1D66_0003B2, 0x1D67_0003B3, 0x1D68_0003C1, 0x1D69_0003C6, 0x1D6A_0003C7,
    0x1D78_00043D, 0x1D9B_000252, 0x1D9C_000063, 0x1D9D_000255, 0x1D9E_0000F0, 0x1D9F_00025C,
    0x1DA0_000066, 0x1DA1_00025F, 0x1DA2_000261, 0x1DA3_000265, 0x1DA4_000268, 0x1DA5_000269,
    0x1DA6_00026A, 0x1DA7_001D7B, 0x1DA8_00029D, 0x1DA9_00026D, 0x1DAA_001D85, 0x1DAB_00029F,
    0x1DAC_000271, 0x1DAD_000270, 0x1DAE_000272, 0x1DAF_000273, 0x1DB0_000274, 0x1DB1_000275,
    0x1DB2_000278, 0x1DB3_000282, 0x1DB4_000283, 0x1DB5_0001AB, 0x1DB6_000289, 0x1DB7_00028A,
    0x1DB8_001D1C, 0x1DB9_00028B, 0x1DBA_00028C, 0x1DBB_00007A, 0x1DBC_000290, 0x1DBD_000291,
    0x1DBE_000292, 0x1DBF_0003B8]

/-- Compatibility decompositions of page 1E. -/
def compatibility01E : List Nat :=
  [
    0x1E9A_000061_0002BE]

/-- Compatibility decompositions of page 1F. -/
def compatibility01F : List Nat :=
  [
    0x1FBD_000020_000313, 0x1FBF_000020_000313, 0x1FC0_000020_000342, 0x1FFE_000020_000314]

/-- Compatibility decompositions of page 20. -/
def compatibility020 : List Nat :=
  [
    0x2002_000020, 0x2003_000020, 0x2004_000020, 0x2005_000020, 0x2006_000020, 0x2007_000020,
    0x2008_000020, 0x2009_000020, 0x200A_000020, 0x2011_002010, 0x2017_000020_000333,
    0x2024_00002E, 0x2025_00002E_00002E, 0x2026_00002E_00002E_00002E, 0x202F_000020,
    0x2033_002032_002032, 0x2034_002032_002032_002032, 0x2036_002035_002035,
    0x2037_002035_002035_002035, 0x203C_000021_000021, 0x203E_000020_000305, 0x2047_00003F_00003F,
    0x2048_00003F_000021, 0x2049_000021_00003F, 0x2057_002032_002032_002032_002032, 0x205F_000020,
    0x2070_000030, 0x2071_000069, 0x2074_000034, 0x2075_000035, 0x2076_000036, 0x2077_000037,
    0x2078_000038, 0x2079_000039, 0x207A_00002B, 0x207B_002212, 0x207C_00003D, 0x207D_000028,
    0x207E_000029, 0x207F_00006E, 0x2080_000030, 0x2081_000031, 0x2082_000032, 0x2083_000033,
    0x2084_000034, 0x2085_000035, 0x2086_000036, 0x2087_000037, 0x2088_000038, 0x2089_000039,
    0x208A_00002B, 0x208B_002212, 0x208C_00003D, 0x208D_000028, 0x208E_000029, 0x2090_000061,
    0x2091_000065, 0x2092_00006F, 0x2093_000078, 0x2094_000259, 0x2095_000068, 0x2096_00006B,
    0x2097_00006C, 0x2098_00006D, 0x2099_00006E, 0x209A_000070, 0x209B_000073, 0x209C_000074,
    0x20A8_000052_000073]

/-- Compatibility decompositions of page 21. -/
def compatibility021 : List Nat :=
  [
    0x2100_000061_00002F_000063, 0x2101_000061_00002F_000073, 0x2102_000043, 0x2103_0000B0_000043,
    0x2105_000063_00002F_00006F, 0x2106_000063_00002F_000075, 0x2107_000190, 0x2109_0000B0_000046,
    0x210A_000067, 0x210B_000048, 0x210C_000048, 0x210D_000048, 0x210E_000068, 0x210F_000127,
    0x2110_000049, 0x2111_000049, 0x2112_00004C, 0x2113_00006C, 0x2115_00004E,
    0x2116_00004E_00006F, 0x2119_000050, 0x211A_000051, 0x211B_000052, 0x211C_000052,
    0x211D_000052, 0x2120_000053_00004D, 0x2121_000054_000045_00004C, 0x2122_000054_00004D,
    0x2124_00005A, 0x2128_00005A, 0x212C_000042, 0x212D_000043, 0x212F_000065, 0x2130_000045,
    0x2131_000046, 0x2133_00004D, 0x2134_00006F, 0x2135_0005D0, 0x2136_0005D1, 0x2137_0005D2,
    0x2138_0005D3, 0x2139_000069, 0x213B_000046_000041_000058, 0x213C_0003C0, 0x213D_0003B3,
    0x213E_000393, 0x213F_0003A0, 0x2140_002211, 0x2145_000044, 0x2146_000064, 0x2147_000065,
    0x2148_000069, 0x2149_00006A, 0x2150_000031_002044_000037, 0x2151_000031_002044_000039,
    0x2152_000031_002044_000031_000030, 0x2153_000031_002044_000033, 0x2154_000032_002044_000033,
    0x2155_000031_002044_000035, 0x2156_000032_002044_000035, 0x2157_000033_002044_000035,
    0x2158_000034_002044_000035, 0x2159_000031_002044_000036, 0x215A_000035_002044_000036,
    0x215B_000031_002044_000038, 0x215C_000033_002044_000038, 0x215D_000035_002044_000038,
    0x215E_000037_002044_000038, 0x215F_000031_002044, 0x2160_000049, 0x2161_000049_000049,
    0x2162_000049_000049_000049, 0x2163_000049_000056, 0x2164_000056, 0x2165_000056_000049,
    0x2166_000056_000049_000049, 0x2167_000056_000049_000049_000049, 0x2168_000049_000058,
    0x2169_000058, 0x216A_000058_000049, 0x216B_000058_000049_000049, 0x216C_00004C,
    0x216D_000043, 0x216E_000044, 0x216F_00004D, 0x2170_000069, 0x2171_000069_000069,
    0x2172_000069_000069_000069, 0x2173_000069_000076, 0x2174_000076, 0x2175_000076_000069,
    0x2176_000076_000069_000069, 0x2177_000076_000069_000069_000069, 0x2178_000069_000078,
    0x2179_000078, 0x217A_000078_000069, 0x217B_000078_000069_000069, 0x217C_00006C,
    0x217D_000063, 0x217E_000064, 0x217F_00006D, 0x2189_000030_002044_000033]

/-- Compatibility decompositions of page 22. -/
def compatibility022 : List Nat :=
  [
    0x222C_00222B_00222B, 0x222D_00222B_00222B_00222B, 0x222F_00222E_00222E,
    0x2230_00222E_00222E_00222E]

/-- Compatibility decompositions of page 24. -/
def compatibility024 : List Nat :=
  [
    0x2460_000031, 0x2461_000032, 0x2462_000033, 0x2463_000034, 0x2464_000035, 0x2465_000036,
    0x2466_000037, 0x2467_000038, 0x2468_000039, 0x2469_000031_000030, 0x246A_000031_000031,
    0x246B_000031_000032, 0x246C_000031_000033, 0x246D_000031_000034, 0x246E_000031_000035,
    0x246F_000031_000036, 0x2470_000031_000037, 0x2471_000031_000038, 0x2472_000031_000039,
    0x2473_000032_000030, 0x2474_000028_000031_000029, 0x2475_000028_000032_000029,
    0x2476_000028_000033_000029, 0x2477_000028_000034_000029, 0x2478_000028_000035_000029,
    0x2479_000028_000036_000029, 0x247A_000028_000037_000029, 0x247B_000028_000038_000029,
    0x247C_000028_000039_000029, 0x247D_000028_000031_000030_000029,
    0x247E_000028_000031_000031_000029, 0x247F_000028_000031_000032_000029,
    0x2480_000028_000031_000033_000029, 0x2481_000028_000031_000034_000029,
    0x2482_000028_000031_000035_000029, 0x2483_000028_000031_000036_000029,
    0x2484_000028_000031_000037_000029, 0x2485_000028_000031_000038_000029,
    0x2486_000028_000031_000039_000029, 0x2487_000028_000032_000030_000029, 0x2488_000031_00002E,
    0x2489_000032_00002E, 0x248A_000033_00002E, 0x248B_000034_00002E, 0x248C_000035_00002E,
    0x248D_000036_00002E, 0x248E_000037_00002E, 0x248F_000038_00002E, 0x2490_000039_00002E,
    0x2491_000031_000030_00002E, 0x2492_000031_000031_00002E, 0x2493_000031_000032_00002E,
    0x2494_000031_000033_00002E, 0x2495_000031_000034_00002E, 0x2496_000031_000035_00002E,
    0x2497_000031_000036_00002E, 0x2498_000031_000037_00002E, 0x2499_000031_000038_00002E,
    0x249A_000031_000039_00002E, 0x249B_000032_000030_00002E, 0x249C_000028_000061_000029,
    0x249D_000028_000062_000029, 0x249E_000028_000063_000029, 0x249F_000028_000064_000029,
    0x24A0_000028_000065_000029, 0x24A1_000028_000066_000029, 0x24A2_000028_000067_000029,
    0x24A3_000028_000068_000029, 0x24A4_000028_000069_000029, 0x24A5_000028_00006A_000029,
    0x24A6_000028_00006B_000029, 0x24A7_000028_00006C_000029, 0x24A8_000028_00006D_000029,
    0x24A9_000028_00006E_000029, 0x24AA_000028_00006F_000029, 0x24AB_000028_000070_000029,
    0x24AC_000028_000071_000029, 0x24AD_000028_000072_000029, 0x24AE_000028_000073_000029,
    0x24AF_000028_000074_000029, 0x24B0_000028_000075_000029, 0x24B1_000028_000076_000029,
    0x24B2_000028_000077_000029, 0x24B3_000028_000078_000029, 0x24B4_000028_000079_000029,
    0x24B5_000028_00007A_000029, 0x24B6_000041, 0x24B7_000042, 0x24B8_000043, 0x24B9_000044,
    0x24BA_000045, 0x24BB_000046, 0x24BC_000047, 0x24BD_000048, 0x24BE_000049, 0x24BF_00004A,
    0x24C0_00004B, 0x24C1_00004C, 0x24C2_00004D, 0x24C3_00004E, 0x24C4_00004F, 0x24C5_000050,
    0x24C6_000051, 0x24C7_000052, 0x24C8_000053, 0x24C9_000054, 0x24CA_000055, 0x24CB_000056,
    0x24CC_000057, 0x24CD_000058, 0x24CE_000059, 0x24CF_00005A, 0x24D0_000061, 0x24D1_000062,
    0x24D2_000063, 0x24D3_000064, 0x24D4_000065, 0x24D5_000066, 0x24D6_000067, 0x24D7_000068,
    0x24D8_000069, 0x24D9_00006A, 0x24DA_00006B, 0x24DB_00006C, 0x24DC_00006D, 0x24DD_00006E,
    0x24DE_00006F, 0x24DF_000070, 0x24E0_000071, 0x24E1_000072, 0x24E2_000073, 0x24E3_000074,
    0x24E4_000075, 0x24E5_000076, 0x24E6_000077, 0x24E7_000078, 0x24E8_000079, 0x24E9_00007A,
    0x24EA_000030]

/-- Compatibility decompositions of page 2A. -/
def compatibility02A : List Nat :=
  [
    0x2A0C_00222B_00222B_00222B_00222B, 0x2A74_00003A_00003A_00003D, 0x2A75_00003D_00003D,
    0x2A76_00003D_00003D_00003D]

/-- Compatibility decompositions of page 2C. -/
def compatibility02C : List Nat :=
  [
    0x2C7C_00006A, 0x2C7D_000056]

/-- Compatibility decompositions of page 2D. -/
def compatibility02D : List Nat :=
  [
    0x2D6F_002D61]

/-- Compatibility decompositions of page 2E. -/
def compatibility02E : List Nat :=
  [
    0x2E9F_006BCD, 0x2EF3_009F9F]

/-- Compatibility decompositions of page 2F. -/
def compatibility02F : List Nat :=
  [
    0x2F00_004E00, 0x2F01_004E28, 0x2F02_004E36, 0x2F03_004E3F, 0x2F04_004E59, 0x2F05_004E85,
    0x2F06_004E8C, 0x2F07_004EA0, 0x2F08_004EBA, 0x2F09_00513F, 0x2F0A_005165, 0x2F0B_00516B,
    0x2F0C_005182, 0x2F0D_005196, 0x2F0E_0051AB, 0x2F0F_0051E0, 0x2F10_0051F5, 0x2F11_005200,
    0x2F12_00529B, 0x2F13_0052F9, 0x2F14_005315, 0x2F15_00531A, 0x2F16_005338, 0x2F17_005341,
    0x2F18_00535C, 0x2F19_005369, 0x2F1A_005382, 0x2F1B_0053B6, 0x2F1C_0053C8, 0x2F1D_0053E3,
    0x2F1E_0056D7, 0x2F1F_00571F, 0x2F20_0058EB, 0x2F21_005902, 0x2F22_00590A, 0x2F23_005915,
    0x2F24_005927, 0x2F25_005973, 0x2F26_005B50, 0x2F27_005B80, 0x2F28_005BF8, 0x2F29_005C0F,
    0x2F2A_005C22, 0x2F2B_005C38, 0x2F2C_005C6E, 0x2F2D_005C71, 0x2F2E_005DDB, 0x2F2F_005DE5,
    0x2F30_005DF1, 0x2F31_005DFE, 0x2F32_005E72, 0x2F33_005E7A, 0x2F34_005E7F, 0x2F35_005EF4,
    0x2F36_005EFE, 0x2F37_005F0B, 0x2F38_005F13, 0x2F39_005F50, 0x2F3A_005F61, 0x2F3B_005F73,
    0x2F3C_005FC3, 0x2F3D_006208, 0x2F3E_006236, 0x2F3F_00624B, 0x2F40_00652F, 0x2F41_006534,
    0x2F42_006587, 0x2F43_006597, 0x2F44_0065A4, 0x2F45_0065B9, 0x2F46_0065E0, 0x2F47_0065E5,
    0x2F48_0066F0, 0x2F49_006708, 0x2F4A_006728, 0x2F4B_006B20, 0x2F4C_006B62, 0x2F4D_006B79,
    0x2F4E_006BB3, 0x2F4F_006BCB, 0x2F50_006BD4, 0x2F51_006BDB, 0x2F52_006C0F, 0x2F53_006C14,
    0x2F54_006C34, 0x2F55_00706B, 0x2F56_00722A, 0x2F57_007236, 0x2F58_00723B, 0x2F59_00723F,
    0x2F5A_007247, 0x2F5B_007259, 0x2F5C_00725B, 0x2F5D_0072AC, 0x2F5E_007384, 0x2F5F_007389,
    0x2F60_0074DC, 0x2F61_0074E6, 0x2F62_007518, 0x2F63_00751F, 0x2F64_007528, 0x2F65_007530,
    0x2F66_00758B, 0x2F67_007592, 0x2F68_007676, 0x2F69_00767D, 0x2F6A_0076AE, 0x2F6B_0076BF,
    0x2F6C_0076EE, 0x2F6D_0077DB, 0x2F6E_0077E2, 0x2F6F_0077F3, 0x2F70_00793A, 0x2F71_0079B8,
    0x2F72_0079BE, 0x2F73_007A74, 0x2F74_007ACB, 0x2F75_007AF9, 0x2F76_007C73, 0x2F77_007CF8,
    0x2F78_007F36, 0x2F79_007F51, 0x2F7A_007F8A, 0x2F7B_007FBD, 0x2F7C_008001, 0x2F7D_00800C,
    0x2F7E_008012, 0x2F7F_008033, 0x2F80_00807F, 0x2F81_008089, 0x2F82_0081E3, 0x2F83_0081EA,
    0x2F84_0081F3, 0x2F85_0081FC, 0x2F86_00820C, 0x2F87_00821B, 0x2F88_00821F, 0x2F89_00826E,
    0x2F8A_008272, 0x2F8B_008278, 0x2F8C_00864D, 0x2F8D_00866B, 0x2F8E_008840, 0x2F8F_00884C,
    0x2F90_008863, 0x2F91_00897E, 0x2F92_00898B, 0x2F93_0089D2, 0x2F94_008A00, 0x2F95_008C37,
    0x2F96_008C46, 0x2F97_008C55, 0x2F98_008C78, 0x2F99_008C9D, 0x2F9A_008D64, 0x2F9B_008D70,
    0x2F9C_008DB3, 0x2F9D_008EAB, 0x2F9E_008ECA, 0x2F9F_008F9B, 0x2FA0_008FB0, 0x2FA1_008FB5,
    0x2FA2_009091, 0x2FA3_009149, 0x2FA4_0091C6, 0x2FA5_0091CC, 0x2FA6_0091D1, 0x2FA7_009577,
    0x2FA8_009580, 0x2FA9_00961C, 0x2FAA_0096B6, 0x2FAB_0096B9, 0x2FAC_0096E8, 0x2FAD_009751,
    0x2FAE_00975E, 0x2FAF_009762, 0x2FB0_009769, 0x2FB1_0097CB, 0x2FB2_0097ED, 0x2FB3_0097F3,
    0x2FB4_009801, 0x2FB5_0098A8, 0x2FB6_0098DB, 0x2FB7_0098DF, 0x2FB8_009996, 0x2FB9_009999,
    0x2FBA_0099AC, 0x2FBB_009AA8, 0x2FBC_009AD8, 0x2FBD_009ADF, 0x2FBE_009B25, 0x2FBF_009B2F,
    0x2FC0_009B32, 0x2FC1_009B3C, 0x2FC2_009B5A, 0x2FC3_009CE5, 0x2FC4_009E75, 0x2FC5_009E7F,
    0x2FC6_009EA5, 0x2FC7_009EBB, 0x2FC8_009EC3, 0x2FC9_009ECD, 0x2FCA_009ED1, 0x2FCB_009EF9,
    0x2FCC_009EFD, 0x2FCD_009F0E, 0x2FCE_009F13, 0x2FCF_009F20, 0x2FD0_009F3B, 0x2FD1_009F4A,
    0x2FD2_009F52, 0x2FD3_009F8D, 0x2FD4_009F9C, 0x2FD5_009FA0]

/-- Compatibility decompositions of page 30. -/
def compatibility030 : List Nat :=
  [
    0x3000_000020, 0x3036_003012, 0x3038_005341, 0x3039_005344, 0x303A_005345,
    0x309B_000020_003099, 0x309C_000020_00309A, 0x309F_003088_00308A, 0x30FF_0030B3_0030C8]

/-- Compatibility decompositions of page 31. -/
def compatibility031 : List Nat :=
  [
    0x3131_001100, 0x3132_001101, 0x3133_0011AA, 0x3134_001102, 0x3135_0011AC, 0x3136_0011AD,
    0x3137_001103, 0x3138_001104, 0x3139_001105, 0x313A_0011B0, 0x313B_0011B1, 0x313C_0011B2,
    0x313D_0011B3, 0x313E_0011B4, 0x313F_0011B5, 0x3140_00111A, 0x3141_001106, 0x3142_001107,
    0x3143_001108, 0x3144_001121, 0x3145_001109, 0x3146_00110A, 0x3147_00110B, 0x3148_00110C,
    0x3149_00110D, 0x314A_00110E, 0x314B_00110F, 0x314C_001110, 0x314D_001111, 0x314E_001112,
    0x314F_001161, 0x3150_001162, 0x3151_001163, 0x3152_001164, 0x3153_001165, 0x3154_001166,
    0x3155_001167, 0x3156_001168, 0x3157_001169, 0x3158_00116A, 0x3159_00116B, 0x315A_00116C,
    0x315B_00116D, 0x315C_00116E, 0x315D_00116F, 0x315E_001170, 0x315F_001171, 0x3160_001172,
    0x3161_001173, 0x3162_001174, 0x3163_001175, 0x3164_001160, 0x3165_001114, 0x3166_001115,
    0x3167_0011C7, 0x3168_0011C8, 0x3169_0011CC, 0x316A_0011CE, 0x316B_0011D3, 0x316C_0011D7,
    0x316D_0011D9, 0x316E_00111C, 0x316F_0011DD, 0x3170_0011DF, 0x3171_00111D, 0x3172_00111E,
    0x3173_001120, 0x3174_001122, 0x3175_001123, 0x3176_001127, 0x3177_001129, 0x3178_00112B,
    0x3179_00112C, 0x317A_00112D, 0x317B_00112E, 0x317C_00112F, 0x317D_001132, 0x317E_001136,
    0x317F_001140, 0x3180_001147, 0x3181_00114C, 0x3182_0011F1, 0x3183_0011F2, 0x3184_001157,
    0x3185_001158, 0x3186_001159, 0x3187_001184, 0x3188_001185, 0x3189_001188, 0x318A_001191,
    0x318B_001192, 0x318C_001194, 0x318D_00119E, 0x318E_0011A1, 0x3192_004E00, 0x3193_004E8C,
    0x3194_004E09, 0x3195_0056DB, 0x3196_004E0A, 0x3197_004E2D, 0x3198_004E0B, 0x3199_007532,
    0x319A_004E59, 0x319B_004E19, 0x319C_004E01, 0x319D_005929, 0x319E_005730, 0x319F_004EBA]

/-- Compatibility decompositions of page 32. -/
def compatibility032 : List Nat :=
  [
    0x3200_000028_001100_000029, 0x3201_000028_001102_000029, 0x3202_000028_001103_000029,
    0x3203_000028_001105_000029, 0x3204_000028_001106_000029, 0x3205_000028_001107_000029,
    0x3206_000028_001109_000029, 0x3207_000028_00110B_000029, 0x3208_000028_00110C_000029,
    0x3209_000028_00110E_000029, 0x320A_000028_00110F_000029, 0x320B_000028_001110_000029,
    0x320C_000028_001111_000029, 0x320D_000028_001112_000029, 0x320E_000028_001100_001161_000029,
    0x320F_000028_001102_001161_000029, 0x3210_000028_001103_001161_000029,
    0x3211_000028_001105_001161_000029, 0x3212_000028_001106_001161_000029,
    0x3213_000028_001107_001161_000029, 0x3214_000028_001109_001161_000029,
    0x3215_000028_00110B_001161_000029, 0x3216_000028_00110C_001161_000029,
    0x3217_000028_00110E_001161_000029, 0x3218_000028_00110F_001161_000029,
    0x3219_000028_001110_001161_000029, 0x321A_000028_001111_001161_000029,
    0x321B_000028_001112_001161_000029, 0x321C_000028_00110C_00116E_000029,
    0x321D_000028_00110B_001169_00110C_001165_0011AB_000029,
    0x321E_000028_00110B_001169_001112_00116E_000029, 0x3220_000028_004E00_000029,
    0x3221_000028_004E8C_000029, 0x3222_000028_004E09_000029, 0x3223_000028_0056DB_000029,
    0x3224_000028_004E94_000029, 0x3225_000028_00516D_000029, 0x3226_000028_004E03_000029,
    0x3227_000028_00516B_000029, 0x3228_000028_004E5D_000029, 0x3229_000028_005341_000029,
    0x322A_000028_006708_000029, 0x322B_000028_00706B_000029, 0x322C_000028_006C34_000029,
    0x322D_000028_006728_000029, 0x322E_000028_0091D1_000029, 0x322F_000028_00571F_000029,
    0x3230_000028_0065E5_000029, 0x3231_000028_00682A_000029, 0x3232_000028_006709_000029,
    0x3233_000028_00793E_000029, 0x3234_000028_00540D_000029, 0x3235_000028_007279_000029,
    0x3236_000028_008CA1_000029, 0x3237_000028_00795D_000029, 0x3238_000028_0052B4_000029,
    0x3239_000028_004EE3_000029, 0x323A_000028_00547C_000029, 0x323B_000028_005B66_000029,
    0x323C_000028_0076E3_000029, 0x323D_000028_004F01_000029, 0x323E_000028_008CC7_000029,
    0x323F_000028_005354_000029, 0x3240_000028_00796D_000029, 0x3241_000028_004F11_000029,
    0x3242_000028_0081EA_000029, 0x3243_000028_0081F3_000029, 0x3244_00554F, 0x3245_005E7C,
    0x3246_006587, 0x3247_007B8F, 0x3250_000050_000054_000045, 0x3251_000032_000031,
    0x3252_000032_000032, 0x3253_000032_000033, 0x3254_000032_000034, 0x3255_000032_000035,
    0x3256_000032_000036, 0x3257_000032_000037, 0x3258_000032_000038, 0x3259_000032_000039,
    0x325A_000033_000030, 0x325B_000033_000031, 0x325C_000033_000032, 0x325D_000033_000033,
    0x325E_000033_000034, 0x325F_000033_000035, 0x3260_001100, 0x3261_001102, 0x3262_001103,
    0x3263_001105, 0x3264_001106, 0x3265_001107, 0x3266_001109, 0x3267_00110B, 0x3268_00110C,
    0x3269_00110E, 0x326A_00110F, 0x326B_001110, 0x326C_001111, 0x326D_001112,
    0x326E_001100_001161, 0x326F_001102_001161, 0x3270_001103_001161, 0x3271_001105_001161,
    0x3272_001106_001161, 0x3273_001107_001161, 0x3274_001109_001161, 0x3275_00110B_001161,
    0x3276_00110C_001161, 0x3277_00110E_001161, 0x3278_00110F_001161, 0x3279_001110_001161,
    0x327A_001111_001161, 0x327B_001112_001161, 0x327C_00110E_001161_0011B7_001100_001169,
    0x327D_00110C_00116E_00110B_001174, 0x327E_00110B_00116E, 0x3280_004E00, 0x3281_004E8C,
    0x3282_004E09, 0x3283_0056DB, 0x3284_004E94, 0x3285_00516D, 0x3286_004E03, 0x3287_00516B,
    0x3288_004E5D, 0x3289_005341, 0x328A_006708, 0x328B_00706B, 0x328C_006C34, 0x328D_006728,
    0x328E_0091D1, 0x328F_00571F, 0x3290_0065E5, 0x3291_00682A, 0x3292_006709, 0x3293_00793E,
    0x3294_00540D, 0x3295_007279, 0x3296_008CA1, 0x3297_00795D, 0x3298_0052B4, 0x3299_0079D8,
    0x329A_007537, 0x329B_005973, 0x329C_009069, 0x329D_00512A, 0x329E_005370, 0x329F_006CE8,
    0x32A0_009805, 0x32A1_004F11, 0x32A2_005199, 0x32A3_006B63, 0x32A4_004E0A, 0x32A5_004E2D,
    0x32A6_004E0B, 0x32A7_005DE6, 0x32A8_0053F3, 0x32A9_00533B, 0x32AA_005B97, 0x32AB_005B66,
    0x32AC_0076E3, 0x32AD_004F01, 0x32AE_008CC7, 0x32AF_005354, 0x32B0_00591C,
    0x32B1_000033_000036, 0x32B2_000033_000037, 0x32B3_000033_000038, 0x32B4_000033_000039,
    0x32B5_000034_000030, 0x32B6_000034_000031, 0x32B7_000034_000032, 0x32B8_000034_000033,
    0x32B9_000034_000034, 0x32BA_000034_000035, 0x32BB_000034_000036, 0x32BC_000034_000037,
    0x32BD_000034_000038, 0x32BE_000034_000039, 0x32BF_000035_000030, 0x32C0_000031_006708,
    0x32C1_000032_006708, 0x32C2_000033_006708, 0x32C3_000034_006708, 0x32C4_000035_006708,
    0x32C5_000036_006708, 0x32C6_000037_006708, 0x32C7_000038_006708, 0x32C8_000039_006708,
    0x32C9_000031_000030_006708, 0x32CA_000031_000031_006708, 0x32CB_000031_000032_006708,
    0x32CC_000048_000067, 0x32CD_000065_000072_000067, 0x32CE_000065_000056,
    0x32CF_00004C_000054_000044, 0x32D0_0030A2, 0x32D1_0030A4, 0x32D2_0030A6, 0x32D3_0030A8,
    0x32D4_0030AA, 0x32D5_0030AB, 0x32D6_0030AD, 0x32D7_0030AF, 0x32D8_0030B1, 0x32D9_0030B3,
    0x32DA_0030B5, 0x32DB_0030B7, 0x32DC_0030B9, 0x32DD_0030BB, 0x32DE_0030BD, 0x32DF_0030BF,
    0x32E0_0030C1, 0x32E1_0030C4, 0x32E2_0030C6, 0x32E3_0030C8, 0x32E4_0030CA, 0x32E5_0030CB,
    0x32E6_0030CC, 0x32E7_0030CD, 0x32E8_0030CE, 0x32E9_0030CF, 0x32EA_0030D2, 0x32EB_0030D5,
    0x32EC_0030D8, 0x32ED_0030DB, 0x32EE_0030DE, 0x32EF_0030DF, 0x32F0_0030E0, 0x32F1_0030E1,
    0x32F2_0030E2, 0x32F3_0030E4, 0x32F4_0030E6, 0x32F5_0030E8, 0x32F6_0030E9, 0x32F7_0030EA,
    0x32F8_0030EB, 0x32F9_0030EC] ++
  [
    0x32FA_0030ED, 0x32FB_0030EF, 0x32FC_0030F0, 0x32FD_0030F1, 0x32FE_0030F2,
    0x32FF_004EE4_00548C]

/-- Compatibility decompositions of page 33. -/
def compatibility033 : List Nat :=
  [
    0x3300_0030A2_0030D1_0030FC_0030C8, 0x3301_0030A2_0030EB_0030D5_0030A1,
    0x3302_0030A2_0030F3_0030DA_0030A2, 0x3303_0030A2_0030FC_0030EB,
    0x3304_0030A4_0030CB_0030F3_0030B0, 0x3305_0030A4_0030F3_0030C1, 0x3306_0030A6_0030A9_0030F3,
    0x3307_0030A8_0030B9_0030AF_0030FC_0030C9, 0x3308_0030A8_0030FC_0030AB_0030FC,
    0x3309_0030AA_0030F3_0030B9, 0x330A_0030AA_0030FC_0030E0, 0x330B_0030AB_0030A4_0030EA,
    0x330C_0030AB_0030E9_0030C3_0030C8, 0x330D_0030AB_0030ED_0030EA_0030FC,
    0x330E_0030AC_0030ED_0030F3, 0x330F_0030AC_0030F3_0030DE, 0x3310_0030AE_0030AC,
    0x3311_0030AE_0030CB_0030FC, 0x3312_0030AD_0030E5_0030EA_0030FC,
    0x3313_0030AE_0030EB_0030C0_0030FC, 0x3314_0030AD_0030ED,
    0x3315_0030AD_0030ED_0030B0_0030E9_0030E0, 0x3316_0030AD_0030ED_0030E1_0030FC_0030C8_0030EB,
    0x3317_0030AD_0030ED_0030EF_0030C3_0030C8, 0x3318_0030B0_0030E9_0030E0,
    0x3319_0030B0_0030E9_0030E0_0030C8_0030F3, 0x331A_0030AF_0030EB_0030BC_0030A4_0030ED,
    0x331B_0030AF_0030ED_0030FC_0030CD, 0x331C_0030B1_0030FC_0030B9, 0x331D_0030B3_0030EB_0030CA,
    0x331E_0030B3_0030FC_0030DD, 0x331F_0030B5_0030A4_0030AF_0030EB,
    0x3320_0030B5_0030F3_0030C1_0030FC_0030E0, 0x3321_0030B7_0030EA_0030F3_0030B0,
    0x3322_0030BB_0030F3_0030C1, 0x3323_0030BB_0030F3_0030C8, 0x3324_0030C0_0030FC_0030B9,
    0x3325_0030C7_0030B7, 0x3326_0030C9_0030EB, 0x3327_0030C8_0030F3, 0x3328_0030CA_0030CE,
    0x3329_0030CE_0030C3_0030C8, 0x332A_0030CF_0030A4_0030C4,
    0x332B_0030D1_0030FC_0030BB_0030F3_0030C8, 0x332C_0030D1_0030FC_0030C4,
    0x332D_0030D0_0030FC_0030EC_0030EB, 0x332E_0030D4_0030A2_0030B9_0030C8_0030EB,
    0x332F_0030D4_0030AF_0030EB, 0x3330_0030D4_0030B3, 0x3331_0030D3_0030EB,
    0x3332_0030D5_0030A1_0030E9_0030C3_0030C9, 0x3333_0030D5_0030A3_0030FC_0030C8,
    0x3334_0030D6_0030C3_0030B7_0030A7_0030EB, 0x3335_0030D5_0030E9_0030F3,
    0x3336_0030D8_0030AF_0030BF_0030FC_0030EB, 0x3337_0030DA_0030BD, 0x3338_0030DA_0030CB_0030D2,
    0x3339_0030D8_0030EB_0030C4, 0x333A_0030DA_0030F3_0030B9, 0x333B_0030DA_0030FC_0030B8,
    0x333C_0030D9_0030FC_0030BF, 0x333D_0030DD_0030A4_0030F3_0030C8, 0x333E_0030DC_0030EB_0030C8,
    0x333F_0030DB_0030F3, 0x3340_0030DD_0030F3_0030C9, 0x3341_0030DB_0030FC_0030EB,
    0x3342_0030DB_0030FC_0030F3, 0x3343_0030DE_0030A4_0030AF_0030ED, 0x3344_0030DE_0030A4_0030EB,
    0x3345_0030DE_0030C3_0030CF, 0x3346_0030DE_0030EB_0030AF,
    0x3347_0030DE_0030F3_0030B7_0030E7_0030F3, 0x3348_0030DF_0030AF_0030ED_0030F3,
    0x3349_0030DF_0030EA, 0x334A_0030DF_0030EA_0030D0_0030FC_0030EB, 0x334B_0030E1_0030AC,
    0x334C_0030E1_0030AC_0030C8_0030F3, 0x334D_0030E1_0030FC_0030C8_0030EB,
    0x334E_0030E4_0030FC_0030C9, 0x334F_0030E4_0030FC_0030EB, 0x3350_0030E6_0030A2_0030F3,
    0x3351_0030EA_0030C3_0030C8_0030EB, 0x3352_0030EA_0030E9, 0x3353_0030EB_0030D4_0030FC,
    0x3354_0030EB_0030FC_0030D6_0030EB, 0x3355_0030EC_0030E0,
    0x3356_0030EC_0030F3_0030C8_0030B2_0030F3, 0x3357_0030EF_0030C3_0030C8, 0x3358_000030_0070B9,
    0x3359_000031_0070B9, 0x335A_000032_0070B9, 0x335B_000033_0070B9, 0x335C_000034_0070B9,
    0x335D_000035_0070B9, 0x335E_000036_0070B9, 0x335F_000037_0070B9, 0x3360_000038_0070B9,
    0x3361_000039_0070B9, 0x3362_000031_000030_0070B9, 0x3363_000031_000031_0070B9,
    0x3364_000031_000032_0070B9, 0x3365_000031_000033_0070B9, 0x3366_000031_000034_0070B9,
    0x3367_000031_000035_0070B9, 0x3368_000031_000036_0070B9, 0x3369_000031_000037_0070B9,
    0x336A_000031_000038_0070B9, 0x336B_000031_000039_0070B9, 0x336C_000032_000030_0070B9,
    0x336D_000032_000031_0070B9, 0x336E_000032_000032_0070B9, 0x336F_000032_000033_0070B9,
    0x3370_000032_000034_0070B9, 0x3371_000068_000050_000061, 0x3372_000064_000061,
    0x3373_000041_000055, 0x3374_000062_000061_000072, 0x3375_00006F_000056, 0x3376_000070_000063,
    0x3377_000064_00006D, 0x3378_000064_00006D_0000B2, 0x3379_000064_00006D_0000B3,
    0x337A_000049_000055, 0x337B_005E73_006210, 0x337C_00662D_00548C, 0x337D_005927_006B63,
    0x337E_00660E_006CBB, 0x337F_00682A_005F0F_004F1A_00793E, 0x3380_000070_000041,
    0x3381_00006E_000041, 0x3382_0003BC_000041, 0x3383_00006D_000041, 0x3384_00006B_000041,
    0x3385_00004B_000042, 0x3386_00004D_000042, 0x3387_000047_000042, 0x3388_000063_000061_00006C,
    0x3389_00006B_000063_000061_00006C, 0x338A_000070_000046, 0x338B_00006E_000046,
    0x338C_0003BC_000046, 0x338D_0003BC_000067, 0x338E_00006D_000067, 0x338F_00006B_000067,
    0x3390_000048_00007A, 0x3391_00006B_000048_00007A, 0x3392_00004D_000048_00007A,
    0x3393_000047_000048_00007A, 0x3394_000054_000048_00007A, 0x3395_0003BC_002113,
    0x3396_00006D_002113, 0x3397_000064_002113, 0x3398_00006B_002113, 0x3399_000066_00006D,
    0x339A_00006E_00006D, 0x339B_0003BC_00006D, 0x339C_00006D_00006D, 0x339D_000063_00006D,
    0x339E_00006B_00006D, 0x339F_00006D_00006D_0000B2, 0x33A0_000063_00006D_0000B2,
    0x33A1_00006D_0000B2, 0x33A2_00006B_00006D_0000B2, 0x33A3_00006D_00006D_0000B3,
    0x33A4_000063_00006D_0000B3, 0x33A5_00006D_0000B3, 0x33A6_00006B_00006D_0000B3,
    0x33A7_00006D_002215_000073, 0x33A8_00006D_002215_000073_0000B2, 0x33A9_000050_000061,
    0x33AA_00006B_000050_000061, 0x33AB_00004D_000050_000061, 0x33AC_000047_000050_000061,
    0x33AD_000072_000061_000064, 0x33AE_000072_000061_000064_002215_000073,
    0x33AF_000072_000061_000064_002215_000073_0000B2, 0x33B0_000070_000073, 0x33B1_00006E_000073,
    0x33B2_0003BC_000073, 0x33B3_00006D_000073, 0x33B4_000070_000056, 0x33B5_00006E_000056,
    0x33B6_0003BC_000056, 0x33B7_00006D_000056, 0x33B8_00006B_000056, 0x33B9_00004D_000056,
    0x33BA_000070_000057, 0x33BB_00006E_000057, 0x33BC_0003BC_000057, 0x33BD_00006D_000057,
    0x33BE_00006B_000057, 0x33BF_00004D_000057, 0x33C0_00006B_0003A9, 0x33C1_00004D_0003A9,
    0x33C2_000061_00002E_00006D_00002E, 0x33C3_000042_000071, 0x33C4_000063_000063,
    0x33C5_000063_000064, 0x33C6_000043_002215_00006B_000067, 0x33C7_000043_00006F_00002E,
    0x33C8_000064_000042, 0x33C9_000047_000079, 0x33CA_000068_000061, 0x33CB_000048_000050,
    0x33CC_000069_00006E, 0x33CD_00004B_00004B, 0x33CE_00004B_00004D, 0x33CF_00006B_000074,
    0x33D0_00006C_00006D, 0x33D1_00006C_00006E, 0x33D2_00006C_00006F_000067, 0x33D3_00006C_000078,
    0x33D4_00006D_000062, 0x33D5_00006D_000069_00006C, 0x33D6_00006D_00006F_00006C,
    0x33D7_000050_000048, 0x33D8_000070_00002E_00006D_00002E, 0x33D9_000050_000050_00004D,
    0x33DA_000050_000052, 0x33DB_000073_000072, 0x33DC_000053_000076, 0x33DD_000057_000062,
    0x33DE_000056_002215_00006D, 0x33DF_000041_002215_00006D, 0x33E0_000031_0065E5,
    0x33E1_000032_0065E5, 0x33E2_000033_0065E5, 0x33E3_000034_0065E5, 0x33E4_000035_0065E5,
    0x33E5_000036_0065E5, 0x33E6_000037_0065E5, 0x33E7_000038_0065E5, 0x33E8_000039_0065E5,
    0x33E9_000031_000030_0065E5, 0x33EA_000031_000031_0065E5, 0x33EB_000031_000032_0065E5,
    0x33EC_000031_000033_0065E5, 0x33ED_000031_000034_0065E5, 0x33EE_000031_000035_0065E5,
    0x33EF_000031_000036_0065E5] ++
  [
    0x33F0_000031_000037_0065E5, 0x33F1_000031_000038_0065E5, 0x33F2_000031_000039_0065E5,
    0x33F3_000032_000030_0065E5, 0x33F4_000032_000031_0065E5, 0x33F5_000032_000032_0065E5,
    0x33F6_000032_000033_0065E5, 0x33F7_000032_000034_0065E5, 0x33F8_000032_000035_0065E5,
    0x33F9_000032_000036_0065E5, 0x33FA_000032_000037_0065E5, 0x33FB_000032_000038_0065E5,
    0x33FC_000032_000039_0065E5, 0x33FD_000033_000030_0065E5, 0x33FE_000033_000031_0065E5,
    0x33FF_000067_000061_00006C]

/-- Compatibility decompositions of page A6. -/
def compatibility0A6 : List Nat :=
  [
    0xA69C_00044A, 0xA69D_00044C]

/-- Compatibility decompositions of page A7. -/
def compatibility0A7 : List Nat :=
  [
    0xA770_00A76F, 0xA7F2_000043, 0xA7F3_000046, 0xA7F4_000051, 0xA7F8_000126, 0xA7F9_000153]

/-- Compatibility decompositions of page AB. -/
def compatibility0AB : List Nat :=
  [
    0xAB5C_00A727, 0xAB5D_00AB37, 0xAB5E_00026B, 0xAB5F_00AB52, 0xAB69_00028D]

/-- Compatibility decompositions of page FB. -/
def compatibility0FB : List Nat :=
  [
    0xFB00_000066_000066, 0xFB01_000066_000069, 0xFB02_000066_00006C, 0xFB03_000066_000066_000069,
    0xFB04_000066_000066_00006C, 0xFB05_00017F_000074, 0xFB06_000073_000074, 0xFB13_000574_000576,
    0xFB14_000574_000565, 0xFB15_000574_00056B, 0xFB16_00057E_000576, 0xFB17_000574_00056D,
    0xFB20_0005E2, 0xFB21_0005D0, 0xFB22_0005D3, 0xFB23_0005D4, 0xFB24_0005DB, 0xFB25_0005DC,
    0xFB26_0005DD, 0xFB27_0005E8, 0xFB28_0005EA, 0xFB29_00002B, 0xFB4F_0005D0_0005DC,
    0xFB50_000671, 0xFB51_000671, 0xFB52_00067B, 0xFB53_00067B, 0xFB54_00067B, 0xFB55_00067B,
    0xFB56_00067E, 0xFB57_00067E, 0xFB58_00067E, 0xFB59_00067E, 0xFB5A_000680, 0xFB5B_000680,
    0xFB5C_000680, 0xFB5D_000680, 0xFB5E_00067A, 0xFB5F_00067A, 0xFB60_00067A, 0xFB61_00067A,
    0xFB62_00067F, 0xFB63_00067F, 0xFB64_00067F, 0xFB65_00067F, 0xFB66_000679, 0xFB67_000679,
    0xFB68_000679, 0xFB69_000679, 0xFB6A_0006A4, 0xFB6B_0006A4, 0xFB6C_0006A4, 0xFB6D_0006A4,
    0xFB6E_0006A6, 0xFB6F_0006A6, 0xFB70_0006A6, 0xFB71_0006A6, 0xFB72_000684, 0xFB73_000684,
    0xFB74_000684, 0xFB75_000684, 0xFB76_000683, 0xFB77_000683, 0xFB78_000683, 0xFB79_000683,
    0xFB7A_000686, 0xFB7B_000686, 0xFB7C_000686, 0xFB7D_000686, 0xFB7E_000687, 0xFB7F_000687,
    0xFB80_000687, 0xFB81_000687, 0xFB82_00068D, 0xFB83_00068D, 0xFB84_00068C, 0xFB85_00068C,
    0xFB86_00068E, 0xFB87_00068E, 0xFB88_000688, 0xFB89_000688, 0xFB8A_000698, 0xFB8B_000698,
    0xFB8C_000691, 0xFB8D_000691, 0xFB8E_0006A9, 0xFB8F_0006A9, 0xFB90_0006A9, 0xFB91_0006A9,
    0xFB92_0006AF, 0xFB93_0006AF, 0xFB94_0006AF, 0xFB95_0006AF, 0xFB96_0006B3, 0xFB97_0006B3,
    0xFB98_0006B3, 0xFB99_0006B3, 0xFB9A_0006B1, 0xFB9B_0006B1, 0xFB9C_0006B1, 0xFB9D_0006B1,
    0xFB9E_0006BA, 0xFB9F_0006BA, 0xFBA0_0006BB, 0xFBA1_0006BB, 0xFBA2_0006BB, 0xFBA3_0006BB,
    0xFBA4_0006C0, 0xFBA5_0006C0, 0xFBA6_0006C1, 0xFBA7_0006C1, 0xFBA8_0006C1, 0xFBA9_0006C1,
    0xFBAA_0006BE, 0xFBAB_0006BE, 0xFBAC_0006BE, 0xFBAD_0006BE, 0xFBAE_0006D2, 0xFBAF_0006D2,
    0xFBB0_0006D3, 0xFBB1_0006D3, 0xFBD3_0006AD, 0xFBD4_0006AD, 0xFBD5_0006AD, 0xFBD6_0006AD,
    0xFBD7_0006C7, 0xFBD8_0006C7, 0xFBD9_0006C6, 0xFBDA_0006C6, 0xFBDB_0006C8, 0xFBDC_0006C8,
    0xFBDD_000677, 0xFBDE_0006CB, 0xFBDF_0006CB, 0xFBE0_0006C5, 0xFBE1_0006C5, 0xFBE2_0006C9,
    0xFBE3_0006C9, 0xFBE4_0006D0, 0xFBE5_0006D0, 0xFBE6_0006D0, 0xFBE7_0006D0, 0xFBE8_000649,
    0xFBE9_000649, 0xFBEA_000626_000627, 0xFBEB_000626_000627, 0xFBEC_000626_0006D5,
    0xFBED_000626_0006D5, 0xFBEE_000626_000648, 0xFBEF_000626_000648, 0xFBF0_000626_0006C7,
    0xFBF1_000626_0006C7, 0xFBF2_000626_0006C6, 0xFBF3_000626_0006C6, 0xFBF4_000626_0006C8,
    0xFBF5_000626_0006C8, 0xFBF6_000626_0006D0, 0xFBF7_000626_0006D0, 0xFBF8_000626_0006D0,
    0xFBF9_000626_000649, 0xFBFA_000626_000649, 0xFBFB_000626_000649, 0xFBFC_0006CC,
    0xFBFD_0006CC, 0xFBFE_0006CC, 0xFBFF_0006CC]

/-- Compatibility decompositions of page FC. -/
def compatibility0FC : List Nat :=
  [
    0xFC00_000626_00062C, 0xFC01_000626_00062D, 0xFC02_000626_000645, 0xFC03_000626_000649,
    0xFC04_000626_00064A, 0xFC05_000628_00062C, 0xFC06_000628_00062D, 0xFC07_000628_00062E,
    0xFC08_000628_000645, 0xFC09_000628_000649, 0xFC0A_000628_00064A, 0xFC0B_00062A_00062C,
    0xFC0C_00062A_00062D, 0xFC0D_00062A_00062E, 0xFC0E_00062A_000645, 0xFC0F_00062A_000649,
    0xFC10_00062A_00064A, 0xFC11_00062B_00062C, 0xFC12_00062B_000645, 0xFC13_00062B_000649,
    0xFC14_00062B_00064A, 0xFC15_00062C_00062D, 0xFC16_00062C_000645, 0xFC17_00062D_00062C,
    0xFC18_00062D_000645, 0xFC19_00062E_00062C, 0xFC1A_00062E_00062D, 0xFC1B_00062E_000645,
    0xFC1C_000633_00062C, 0xFC1D_000633_00062D, 0xFC1E_000633_00062E, 0xFC1F_000633_000645,
    0xFC20_000635_00062D, 0xFC21_000635_000645, 0xFC22_000636_00062C, 0xFC23_000636_00062D,
    0xFC24_000636_00062E, 0xFC25_000636_000645, 0xFC26_000637_00062D, 0xFC27_000637_000645,
    0xFC28_000638_000645, 0xFC29_000639_00062C, 0xFC2A_000639_000645, 0xFC2B_00063A_00062C,
    0xFC2C_00063A_000645, 0xFC2D_000641_00062C, 0xFC2E_000641_00062D, 0xFC2F_000641_00062E,
    0xFC30_000641_000645, 0xFC31_000641_000649, 0xFC32_000641_00064A, 0xFC33_000642_00062D,
    0xFC34_000642_000645, 0xFC35_000642_000649, 0xFC36_000642_00064A, 0xFC37_000643_000627,
    0xFC38_000643_00062C, 0xFC39_000643_00062D, 0xFC3A_000643_00062E, 0xFC3B_000643_000644,
    0xFC3C_000643_000645, 0xFC3D_000643_000649, 0xFC3E_000643_00064A, 0xFC3F_000644_00062C,
    0xFC40_000644_00062D, 0xFC41_000644_00062E, 0xFC42_000644_000645, 0xFC43_000644_000649,
    0xFC44_000644_00064A, 0xFC45_000645_00062C, 0xFC46_000645_00062D, 0xFC47_000645_00062E,
    0xFC48_000645_000645, 0xFC49_000645_000649, 0xFC4A_000645_00064A, 0xFC4B_000646_00062C,
    0xFC4C_000646_00062D, 0xFC4D_000646_00062E, 0xFC4E_000646_000645, 0xFC4F_000646_000649,
    0xFC50_000646_00064A, 0xFC51_000647_00062C, 0xFC52_000647_000645, 0xFC53_000647_000649,
    0xFC54_000647_00064A, 0xFC55_00064A_00062C, 0xFC56_00064A_00062D, 0xFC57_00064A_00062E,
    0xFC58_00064A_000645, 0xFC59_00064A_000649, 0xFC5A_00064A_00064A, 0xFC5B_000630_000670,
    0xFC5C_000631_000670, 0xFC5D_000649_000670, 0xFC5E_000020_00064C_000651,
    0xFC5F_000020_00064D_000651, 0xFC60_000020_00064E_000651, 0xFC61_000020_00064F_000651,
    0xFC62_000020_000650_000651, 0xFC63_000020_000651_000670, 0xFC64_000626_000631,
    0xFC65_000626_000632, 0xFC66_000626_000645, 0xFC67_000626_000646, 0xFC68_000626_000649,
    0xFC69_000626_00064A, 0xFC6A_000628_000631, 0xFC6B_000628_000632, 0xFC6C_000628_000645,
    0xFC6D_000628_000646, 0xFC6E_000628_000649, 0xFC6F_000628_00064A, 0xFC70_00062A_000631,
    0xFC71_00062A_000632, 0xFC72_00062A_000645, 0xFC73_00062A_000646, 0xFC74_00062A_000649,
    0xFC75_00062A_00064A, 0xFC76_00062B_000631, 0xFC77_00062B_000632, 0xFC78_00062B_000645,
    0xFC79_00062B_000646, 0xFC7A_00062B_000649, 0xFC7B_00062B_00064A, 0xFC7C_000641_000649,
    0xFC7D_000641_00064A, 0xFC7E_000642_000649, 0xFC7F_000642_00064A, 0xFC80_000643_000627,
    0xFC81_000643_000644, 0xFC82_000643_000645, 0xFC83_000643_000649, 0xFC84_000643_00064A,
    0xFC85_000644_000645, 0xFC86_000644_000649, 0xFC87_000644_00064A, 0xFC88_000645_000627,
    0xFC89_000645_000645, 0xFC8A_000646_000631, 0xFC8B_000646_000632, 0xFC8C_000646_000645,
    0xFC8D_000646_000646, 0xFC8E_000646_000649, 0xFC8F_000646_00064A, 0xFC90_000649_000670,
    0xFC91_00064A_000631, 0xFC92_00064A_000632, 0xFC93_00064A_000645, 0xFC94_00064A_000646,
    0xFC95_00064A_000649, 0xFC96_00064A_00064A, 0xFC97_000626_00062C, 0xFC98_000626_00062D,
    0xFC99_000626_00062E, 0xFC9A_000626_000645, 0xFC9B_000626_000647, 0xFC9C_000628_00062C,
    0xFC9D_000628_00062D, 0xFC9E_000628_00062E, 0xFC9F_000628_000645, 0xFCA0_000628_000647,
    0xFCA1_00062A_00062C, 0xFCA2_00062A_00062D, 0xFCA3_00062A_00062E, 0xFCA4_00062A_000645,
    0xFCA5_00062A_000647, 0xFCA6_00062B_000645, 0xFCA7_00062C_00062D, 0xFCA8_00062C_000645,
    0xFCA9_00062D_00062C, 0xFCAA_00062D_000645, 0xFCAB_00062E_00062C, 0xFCAC_00062E_000645,
    0xFCAD_000633_00062C, 0xFCAE_000633_00062D, 0xFCAF_000633_00062E, 0xFCB0_000633_000645,
    0xFCB1_000635_00062D, 0xFCB2_000635_00062E, 0xFCB3_000635_000645, 0xFCB4_000636_00062C,
    0xFCB5_000636_00062D, 0xFCB6_000636_00062E, 0xFCB7_000636_000645, 0xFCB8_000637_00062D,
    0xFCB9_000638_000645, 0xFCBA_000639_00062C, 0xFCBB_000639_000645, 0xFCBC_00063A_00062C,
    0xFCBD_00063A_000645, 0xFCBE_000641_00062C, 0xFCBF_000641_00062D, 0xFCC0_000641_00062E,
    0xFCC1_000641_000645, 0xFCC2_000642_00062D, 0xFCC3_000642_000645, 0xFCC4_000643_00062C,
    0xFCC5_000643_00062D, 0xFCC6_000643_00062E, 0xFCC7_000643_000644, 0xFCC8_000643_000645,
    0xFCC9_000644_00062C, 0xFCCA_000644_00062D, 0xFCCB_000644_00062E, 0xFCCC_000644_000645,
    0xFCCD_000644_000647, 0xFCCE_000645_00062C, 0xFCCF_000645_00062D, 0xFCD0_000645_00062E,
    0xFCD1_000645_000645, 0xFCD2_000646_00062C, 0xFCD3_000646_00062D, 0xFCD4_000646_00062E,
    0xFCD5_000646_000645, 0xFCD6_000646_000647, 0xFCD7_000647_00062C, 0xFCD8_000647_000645,
    0xFCD9_000647_000670, 0xFCDA_00064A_00062C, 0xFCDB_00064A_00062D, 0xFCDC_00064A_00062E,
    0xFCDD_00064A_000645, 0xFCDE_00064A_000647, 0xFCDF_000626_000645, 0xFCE0_000626_000647,
    0xFCE1_000628_000645, 0xFCE2_000628_000647, 0xFCE3_00062A_000645, 0xFCE4_00062A_000647,
    0xFCE5_00062B_000645, 0xFCE6_00062B_000647, 0xFCE7_000633_000645, 0xFCE8_000633_000647,
    0xFCE9_000634_000645, 0xFCEA_000634_000647, 0xFCEB_000643_000644, 0xFCEC_000643_000645,
    0xFCED_000644_000645, 0xFCEE_000646_000645, 0xFCEF_000646_000647] ++
  [
    0xFCF0_00064A_000645, 0xFCF1_00064A_000647, 0xFCF2_000640_00064E_000651,
    0xFCF3_000640_00064F_000651, 0xFCF4_000640_000650_000651, 0xFCF5_000637_000649,
    0xFCF6_000637_00064A, 0xFCF7_000639_000649, 0xFCF8_000639_00064A, 0xFCF9_00063A_000649,
    0xFCFA_00063A_00064A, 0xFCFB_000633_000649, 0xFCFC_000633_00064A, 0xFCFD_000634_000649,
    0xFCFE_000634_00064A, 0xFCFF_00062D_000649]

/-- Compatibility decompositions of page FD. -/
def compatibility0FD : List Nat :=
  [
    0xFD00_00062D_00064A, 0xFD01_00062C_000649, 0xFD02_00062C_00064A, 0xFD03_00062E_000649,
    0xFD04_00062E_00064A, 0xFD05_000635_000649, 0xFD06_000635_00064A, 0xFD07_000636_000649,
    0xFD08_000636_00064A, 0xFD09_000634_00062C, 0xFD0A_000634_00062D, 0xFD0B_000634_00062E,
    0xFD0C_000634_000645, 0xFD0D_000634_000631, 0xFD0E_000633_000631, 0xFD0F_000635_000631,
    0xFD10_000636_000631, 0xFD11_000637_000649, 0xFD12_000637_00064A, 0xFD13_000639_000649,
    0xFD14_000639_00064A, 0xFD15_00063A_000649, 0xFD16_00063A_00064A, 0xFD17_000633_000649,
    0xFD18_000633_00064A, 0xFD19_000634_000649, 0xFD1A_000634_00064A, 0xFD1B_00062D_000649,
    0xFD1C_00062D_00064A, 0xFD1D_00062C_000649, 0xFD1E_00062C_00064A, 0xFD1F_00062E_000649,
    0xFD20_00062E_00064A, 0xFD21_000635_000649, 0xFD22_000635_00064A, 0xFD23_000636_000649,
    0xFD24_000636_00064A, 0xFD25_000634_00062C, 0xFD26_000634_00062D, 0xFD27_000634_00062E,
    0xFD28_000634_000645, 0xFD29_000634_000631, 0xFD2A_000633_000631, 0xFD2B_000635_000631,
    0xFD2C_000636_000631, 0xFD2D_000634_00062C, 0xFD2E_000634_00062D, 0xFD2F_000634_00062E,
    0xFD30_000634_000645, 0xFD31_000633_000647, 0xFD32_000634_000647, 0xFD33_000637_000645,
    0xFD34_000633_00062C, 0xFD35_000633_00062D, 0xFD36_000633_00062E, 0xFD37_000634_00062C,
    0xFD38_000634_00062D, 0xFD39_000634_00062E, 0xFD3A_000637_000645, 0xFD3B_000638_000645,
    0xFD3C_000627_00064B, 0xFD3D_000627_00064B, 0xFD50_00062A_00062C_000645,
    0xFD51_00062A_00062D_00062C, 0xFD52_00062A_00062D_00062C, 0xFD53_00062A_00062D_000645,
    0xFD54_00062A_00062E_000645, 0xFD55_00062A_000645_00062C, 0xFD56_00062A_000645_00062D,
    0xFD57_00062A_000645_00062E, 0xFD58_00062C_000645_00062D, 0xFD59_00062C_000645_00062D,
    0xFD5A_00062D_000645_00064A, 0xFD5B_00062D_000645_000649, 0xFD5C_000633_00062D_00062C,
    0xFD5D_000633_00062C_00062D, 0xFD5E_000633_00062C_000649, 0xFD5F_000633_000645_00062D,
    0xFD60_000633_000645_00062D, 0xFD61_000633_000645_00062C, 0xFD62_000633_000645_000645,
    0xFD63_000633_000645_000645, 0xFD64_000635_00062D_00062D, 0xFD65_000635_00062D_00062D,
    0xFD66_000635_000645_000645, 0xFD67_000634_00062D_000645, 0xFD68_000634_00062D_000645,
    0xFD69_000634_00062C_00064A, 0xFD6A_000634_000645_00062E, 0xFD6B_000634_000645_00062E,
    0xFD6C_000634_000645_000645, 0xFD6D_000634_000645_000645, 0xFD6E_000636_00062D_000649,
    0xFD6F_000636_00062E_000645, 0xFD70_000636_00062E_000645, 0xFD71_000637_000645_00062D,
    0xFD72_000637_000645_00062D, 0xFD73_000637_000645_000645, 0xFD74_000637_000645_00064A,
    0xFD75_000639_00062C_000645, 0xFD76_000639_000645_000645, 0xFD77_000639_000645_000645,
    0xFD78_000639_000645_000649, 0xFD79_00063A_000645_000645, 0xFD7A_00063A_000645_00064A,
    0xFD7B_00063A_000645_000649, 0xFD7C_000641_00062E_000645, 0xFD7D_000641_00062E_000645,
    0xFD7E_000642_000645_00062D, 0xFD7F_000642_000645_000645, 0xFD80_000644_00062D_000645,
    0xFD81_000644_00062D_00064A, 0xFD82_000644_00062D_000649, 0xFD83_000644_00062C_00062C,
    0xFD84_000644_00062C_00062C, 0xFD85_000644_00062E_000645, 0xFD86_000644_00062E_000645,
    0xFD87_000644_000645_00062D, 0xFD88_000644_000645_00062D, 0xFD89_000645_00062D_00062C,
    0xFD8A_000645_00062D_000645, 0xFD8B_000645_00062D_00064A, 0xFD8C_000645_00062C_00062D,
    0xFD8D_000645_00062C_000645, 0xFD8E_000645_00062E_00062C, 0xFD8F_000645_00062E_000645,
    0xFD92_000645_00062C_00062E, 0xFD93_000647_000645_00062C, 0xFD94_000647_000645_000645,
    0xFD95_000646_00062D_000645, 0xFD96_000646_00062D_000649, 0xFD97_000646_00062C_000645,
    0xFD98_000646_00062C_000645, 0xFD99_000646_00062C_000649, 0xFD9A_000646_000645_00064A,
    0xFD9B_000646_000645_000649, 0xFD9C_00064A_000645_000645, 0xFD9D_00064A_000645_000645,
    0xFD9E_000628_00062E_00064A, 0xFD9F_00062A_00062C_00064A, 0xFDA0_00062A_00062C_000649,
    0xFDA1_00062A_00062E_00064A, 0xFDA2_00062A_00062E_000649, 0xFDA3_00062A_000645_00064A,
    0xFDA4_00062A_000645_000649, 0xFDA5_00062C_000645_00064A, 0xFDA6_00062C_00062D_000649,
    0xFDA7_00062C_000645_000649, 0xFDA8_000633_00062E_000649, 0xFDA9_000635_00062D_00064A,
    0xFDAA_000634_00062D_00064A, 0xFDAB_000636_00062D_00064A, 0xFDAC_000644_00062C_00064A,
    0xFDAD_000644_000645_00064A, 0xFDAE_00064A_00062D_00064A, 0xFDAF_00064A_00062C_00064A,
    0xFDB0_00064A_000645_00064A, 0xFDB1_000645_000645_00064A, 0xFDB2_000642_000645_00064A,
    0xFDB3_000646_00062D_00064A, 0xFDB4_000642_000645_00062D, 0xFDB5_000644_00062D_000645,
    0xFDB6_000639_000645_00064A, 0xFDB7_000643_000645_00064A, 0xFDB8_000646_00062C_00062D,
    0xFDB9_000645_00062E_00064A, 0xFDBA_000644_00062C_000645, 0xFDBB_000643_000645_000645,
    0xFDBC_000644_00062C_000645, 0xFDBD_000646_00062C_00062D, 0xFDBE_00062C_00062D_00064A,
    0xFDBF_00062D_00062C_00064A, 0xFDC0_000645_00062C_00064A, 0xFDC1_000641_000645_00064A,
    0xFDC2_000628_00062D_00064A, 0xFDC3_000643_000645_000645, 0xFDC4_000639_00062C_000645,
    0xFDC5_000635_000645_000645, 0xFDC6_000633_00062E_00064A, 0xFDC7_000646_00062C_00064A,
    0xFDF0_000635_000644_0006D2, 0xFDF1_000642_000644_0006D2, 0xFDF2_000627_000644_000644_000647,
    0xFDF3_000627_000643_000628_000631, 0xFDF4_000645_00062D_000645_00062F,
    0xFDF5_000635_000644_000639_000645, 0xFDF6_000631_000633_000648_000644,
    0xFDF7_000639_000644_00064A_000647, 0xFDF8_000648_000633_000644_000645,
    0xFDF9_000635_000644_000649,
    0xFDFA_000635_000644_000649_000020_000627_000644_000644_000647_000020_000639_000644_00064A_000647_000020_000648_000633_000644_000645,
    0xFDFB_00062C_000644_000020_00062C_000644_000627_000644_000647,
    0xFDFC_000631_0006CC_000627_000644]

/-- Compatibility decompositions of page FE. -/
def compatibility0FE : List Nat :=
  [
    0xFE10_00002C, 0xFE11_003001, 0xFE12_003002, 0xFE13_00003A, 0xFE14_00003B, 0xFE15_000021,
    0xFE16_00003F, 0xFE17_003016, 0xFE18_003017, 0xFE19_002026, 0xFE30_002025, 0xFE31_002014,
    0xFE32_002013, 0xFE33_00005F, 0xFE34_00005F, 0xFE35_000028, 0xFE36_000029, 0xFE37_00007B,
    0xFE38_00007D, 0xFE39_003014, 0xFE3A_003015, 0xFE3B_003010, 0xFE3C_003011, 0xFE3D_00300A,
    0xFE3E_00300B, 0xFE3F_003008, 0xFE40_003009, 0xFE41_00300C, 0xFE42_00300D, 0xFE43_00300E,
    0xFE44_00300F, 0xFE47_00005B, 0xFE48_00005D, 0xFE49_00203E, 0xFE4A_00203E, 0xFE4B_00203E,
    0xFE4C_00203E, 0xFE4D_00005F, 0xFE4E_00005F, 0xFE4F_00005F, 0xFE50_00002C, 0xFE51_003001,
    0xFE52_00002E, 0xFE54_00003B, 0xFE55_00003A, 0xFE56_00003F, 0xFE57_000021, 0xFE58_002014,
    0xFE59_000028, 0xFE5A_000029, 0xFE5B_00007B, 0xFE5C_00007D, 0xFE5D_003014, 0xFE5E_003015,
    0xFE5F_000023, 0xFE60_000026, 0xFE61_00002A, 0xFE62_00002B, 0xFE63_00002D, 0xFE64_00003C,
    0xFE65_00003E, 0xFE66_00003D, 0xFE68_00005C, 0xFE69_000024, 0xFE6A_000025, 0xFE6B_000040,
    0xFE70_000020_00064B, 0xFE71_000640_00064B, 0xFE72_000020_00064C, 0xFE74_000020_00064D,
    0xFE76_000020_00064E, 0xFE77_000640_00064E, 0xFE78_000020_00064F, 0xFE79_000640_00064F,
    0xFE7A_000020_000650, 0xFE7B_000640_000650, 0xFE7C_000020_000651, 0xFE7D_000640_000651,
    0xFE7E_000020_000652, 0xFE7F_000640_000652, 0xFE80_000621, 0xFE81_000622, 0xFE82_000622,
    0xFE83_000623, 0xFE84_000623, 0xFE85_000624, 0xFE86_000624, 0xFE87_000625, 0xFE88_000625,
    0xFE89_000626, 0xFE8A_000626, 0xFE8B_000626, 0xFE8C_000626, 0xFE8D_000627, 0xFE8E_000627,
    0xFE8F_000628, 0xFE90_000628, 0xFE91_000628, 0xFE92_000628, 0xFE93_000629, 0xFE94_000629,
    0xFE95_00062A, 0xFE96_00062A, 0xFE97_00062A, 0xFE98_00062A, 0xFE99_00062B, 0xFE9A_00062B,
    0xFE9B_00062B, 0xFE9C_00062B, 0xFE9D_00062C, 0xFE9E_00062C, 0xFE9F_00062C, 0xFEA0_00062C,
    0xFEA1_00062D, 0xFEA2_00062D, 0xFEA3_00062D, 0xFEA4_00062D, 0xFEA5_00062E, 0xFEA6_00062E,
    0xFEA7_00062E, 0xFEA8_00062E, 0xFEA9_00062F, 0xFEAA_00062F, 0xFEAB_000630, 0xFEAC_000630,
    0xFEAD_000631, 0xFEAE_000631, 0xFEAF_000632, 0xFEB0_000632, 0xFEB1_000633, 0xFEB2_000633,
    0xFEB3_000633, 0xFEB4_000633, 0xFEB5_000634, 0xFEB6_000634, 0xFEB7_000634, 0xFEB8_000634,
    0xFEB9_000635, 0xFEBA_000635, 0xFEBB_000635, 0xFEBC_000635, 0xFEBD_000636, 0xFEBE_000636,
    0xFEBF_000636, 0xFEC0_000636, 0xFEC1_000637, 0xFEC2_000637, 0xFEC3_000637, 0xFEC4_000637,
    0xFEC5_000638, 0xFEC6_000638, 0xFEC7_000638, 0xFEC8_000638, 0xFEC9_000639, 0xFECA_000639,
    0xFECB_000639, 0xFECC_000639, 0xFECD_00063A, 0xFECE_00063A, 0xFECF_00063A, 0xFED0_00063A,
    0xFED1_000641, 0xFED2_000641, 0xFED3_000641, 0xFED4_000641, 0xFED5_000642, 0xFED6_000642,
    0xFED7_000642, 0xFED8_000642, 0xFED9_000643, 0xFEDA_000643, 0xFEDB_000643, 0xFEDC_000643,
    0xFEDD_000644, 0xFEDE_000644, 0xFEDF_000644, 0xFEE0_000644, 0xFEE1_000645, 0xFEE2_000645,
    0xFEE3_000645, 0xFEE4_000645, 0xFEE5_000646, 0xFEE6_000646, 0xFEE7_000646, 0xFEE8_000646,
    0xFEE9_000647, 0xFEEA_000647, 0xFEEB_000647, 0xFEEC_000647, 0xFEED_000648, 0xFEEE_000648,
    0xFEEF_000649, 0xFEF0_000649, 0xFEF1_00064A, 0xFEF2_00064A, 0xFEF3_00064A, 0xFEF4_00064A,
    0xFEF5_000644_000622, 0xFEF6_000644_000622, 0xFEF7_000644_000623, 0xFEF8_000644_000623,
    0xFEF9_000644_000625, 0xFEFA_000644_000625, 0xFEFB_000644_000627, 0xFEFC_000644_000627]

/-- Compatibility decompositions of page FF. -/
def compatibility0FF : List Nat :=
  [
    0xFF01_000021, 0xFF02_000022, 0xFF03_000023, 0xFF04_000024, 0xFF05_000025, 0xFF06_000026,
    0xFF07_000027, 0xFF08_000028, 0xFF09_000029, 0xFF0A_00002A, 0xFF0B_00002B, 0xFF0C_00002C,
    0xFF0D_00002D, 0xFF0E_00002E, 0xFF0F_00002F, 0xFF10_000030, 0xFF11_000031, 0xFF12_000032,
    0xFF13_000033, 0xFF14_000034, 0xFF15_000035, 0xFF16_000036, 0xFF17_000037, 0xFF18_000038,
    0xFF19_000039, 0xFF1A_00003A, 0xFF1B_00003B, 0xFF1C_00003C, 0xFF1D_00003D, 0xFF1E_00003E,
    0xFF1F_00003F, 0xFF20_000040, 0xFF21_000041, 0xFF22_000042, 0xFF23_000043, 0xFF24_000044,
    0xFF25_000045, 0xFF26_000046, 0xFF27_000047, 0xFF28_000048, 0xFF29_000049, 0xFF2A_00004A,
    0xFF2B_00004B, 0xFF2C_00004C, 0xFF2D_00004D, 0xFF2E_00004E, 0xFF2F_00004F, 0xFF30_000050,
    0xFF31_000051, 0xFF32_000052, 0xFF33_000053, 0xFF34_000054, 0xFF35_000055, 0xFF36_000056,
    0xFF37_000057, 0xFF38_000058, 0xFF39_000059, 0xFF3A_00005A, 0xFF3B_00005B, 0xFF3C_00005C,
    0xFF3D_00005D, 0xFF3E_00005E, 0xFF3F_00005F, 0xFF40_000060, 0xFF41_000061, 0xFF42_000062,
    0xFF43_000063, 0xFF44_000064, 0xFF45_000065, 0xFF46_000066, 0xFF47_000067, 0xFF48_000068,
    0xFF49_000069, 0xFF4A_00006A, 0xFF4B_00006B, 0xFF4C_00006C, 0xFF4D_00006D, 0xFF4E_00006E,
    0xFF4F_00006F, 0xFF50_000070, 0xFF51_000071, 0xFF52_000072, 0xFF53_000073, 0xFF54_000074,
    0xFF55_000075, 0xFF56_000076, 0xFF57_000077, 0xFF58_000078, 0xFF59_000079, 0xFF5A_00007A,
    0xFF5B_00007B, 0xFF5C_00007C, 0xFF5D_00007D, 0xFF5E_00007E, 0xFF5F_002985, 0xFF60_002986,
    0xFF61_003002, 0xFF62_00300C, 0xFF63_00300D, 0xFF64_003001, 0xFF65_0030FB, 0xFF66_0030F2,
    0xFF67_0030A1, 0xFF68_0030A3, 0xFF69_0030A5, 0xFF6A_0030A7, 0xFF6B_0030A9, 0xFF6C_0030E3,
    0xFF6D_0030E5, 0xFF6E_0030E7, 0xFF6F_0030C3, 0xFF70_0030FC, 0xFF71_0030A2, 0xFF72_0030A4,
    0xFF73_0030A6, 0xFF74_0030A8, 0xFF75_0030AA, 0xFF76_0030AB, 0xFF77_0030AD, 0xFF78_0030AF,
    0xFF79_0030B1, 0xFF7A_0030B3, 0xFF7B_0030B5, 0xFF7C_0030B7, 0xFF7D_0030B9, 0xFF7E_0030BB,
    0xFF7F_0030BD, 0xFF80_0030BF, 0xFF81_0030C1, 0xFF82_0030C4, 0xFF83_0030C6, 0xFF84_0030C8,
    0xFF85_0030CA, 0xFF86_0030CB, 0xFF87_0030CC, 0xFF88_0030CD, 0xFF89_0030CE, 0xFF8A_0030CF,
    0xFF8B_0030D2, 0xFF8C_0030D5, 0xFF8D_0030D8, 0xFF8E_0030DB, 0xFF8F_0030DE, 0xFF90_0030DF,
    0xFF91_0030E0, 0xFF92_0030E1, 0xFF93_0030E2, 0xFF94_0030E4, 0xFF95_0030E6, 0xFF96_0030E8,
    0xFF97_0030E9, 0xFF98_0030EA, 0xFF99_0030EB, 0xFF9A_0030EC, 0xFF9B_0030ED, 0xFF9C_0030EF,
    0xFF9D_0030F3, 0xFF9E_003099, 0xFF9F_00309A, 0xFFA0_003164, 0xFFA1_003131, 0xFFA2_003132,
    0xFFA3_003133, 0xFFA4_003134, 0xFFA5_003135, 0xFFA6_003136, 0xFFA7_003137, 0xFFA8_003138,
    0xFFA9_003139, 0xFFAA_00313A, 0xFFAB_00313B, 0xFFAC_00313C, 0xFFAD_00313D, 0xFFAE_00313E,
    0xFFAF_00313F, 0xFFB0_003140, 0xFFB1_003141, 0xFFB2_003142, 0xFFB3_003143, 0xFFB4_003144,
    0xFFB5_003145, 0xFFB6_003146, 0xFFB7_003147, 0xFFB8_003148, 0xFFB9_003149, 0xFFBA_00314A,
    0xFFBB_00314B, 0xFFBC_00314C, 0xFFBD_00314D, 0xFFBE_00314E, 0xFFC2_00314F, 0xFFC3_003150,
    0xFFC4_003151, 0xFFC5_003152, 0xFFC6_003153, 0xFFC7_003154, 0xFFCA_003155, 0xFFCB_003156,
    0xFFCC_003157, 0xFFCD_003158, 0xFFCE_003159, 0xFFCF_00315A, 0xFFD2_00315B, 0xFFD3_00315C,
    0xFFD4_00315D, 0xFFD5_00315E, 0xFFD6_00315F, 0xFFD7_003160, 0xFFDA_003161, 0xFFDB_003162,
    0xFFDC_003163, 0xFFE0_0000A2, 0xFFE1_0000A3, 0xFFE2_0000AC, 0xFFE3_0000AF, 0xFFE4_0000A6,
    0xFFE5_0000A5, 0xFFE6_0020A9, 0xFFE8_002502, 0xFFE9_002190, 0xFFEA_002191, 0xFFEB_002192,
    0xFFEC_002193, 0xFFED_0025A0, 0xFFEE_0025CB]

/-- Compatibility decompositions of page 107. -/
def compatibility107 : List Nat :=
  [
    0x10781_0002D0, 0x10782_0002D1, 0x10783_0000E6, 0x10784_000299, 0x10785_000253,
    0x10787_0002A3, 0x10788_00AB66, 0x10789_0002A5, 0x1078A_0002A4, 0x1078B_000256,
    0x1078C_000257, 0x1078D_001D91, 0x1078E_000258, 0x1078F_00025E, 0x10790_0002A9,
    0x10791_000264, 0x10792_000262, 0x10793_000260, 0x10794_00029B, 0x10795_000127,
    0x10796_00029C, 0x10797_000267, 0x10798_000284, 0x10799_0002AA, 0x1079A_0002AB,
    0x1079B_00026C, 0x1079C_01DF04, 0x1079D_00A78E, 0x1079E_00026E, 0x1079F_01DF05,
    0x107A0_00028E, 0x107A1_01DF06, 0x107A2_0000F8, 0x107A3_000276, 0x107A4_000277,
    0x107A5_000071, 0x107A6_00027A, 0x107A7_01DF08, 0x107A8_00027D, 0x107A9_00027E,
    0x107AA_000280, 0x107AB_0002A8, 0x107AC_0002A6, 0x107AD_00AB67, 0x107AE_0002A7,
    0x107AF_000288, 0x107B0_002C71, 0x107B2_00028F, 0x107B3_0002A1, 0x107B4_0002A2,
    0x107B5_000298, 0x107B6_0001C0, 0x107B7_0001C1, 0x107B8_0001C2, 0x107B9_01DF0A, 0x107BA_01DF1E]

/-- Compatibility decompositions of page 1D4. -/
def compatibility1D4 : List Nat :=
  [
    0x1D400_000041, 0x1D401_000042, 0x1D402_000043, 0x1D403_000044, 0x1D404_000045,
    0x1D405_000046, 0x1D406_000047, 0x1D407_000048, 0x1D408_000049, 0x1D409_00004A,
    0x1D40A_00004B, 0x1D40B_00004C, 0x1D40C_00004D, 0x1D40D_00004E, 0x1D40E_00004F,
    0x1D40F_000050, 0x1D410_000051, 0x1D411_000052, 0x1D412_000053, 0x1D413_000054,
    0x1D414_000055, 0x1D415_000056, 0x1D416_000057, 0x1D417_000058, 0x1D418_000059,
    0x1D419_00005A, 0x1D41A_000061, 0x1D41B_000062, 0x1D41C_000063, 0x1D41D_000064,
    0x1D41E_000065, 0x1D41F_000066, 0x1D420_000067, 0x1D421_000068, 0x1D422_000069,
    0x1D423_00006A, 0x1D424_00006B, 0x1D425_00006C, 0x1D426_00006D, 0x1D427_00006E,
    0x1D428_00006F, 0x1D429_000070, 0x1D42A_000071, 0x1D42B_000072, 0x1D42C_000073,
    0x1D42D_000074, 0x1D42E_000075, 0x1D42F_000076, 0x1D430_000077, 0x1D431_000078,
    0x1D432_000079, 0x1D433_00007A, 0x1D434_000041, 0x1D435_000042, 0x1D436_000043,
    0x1D437_000044, 0x1D438_000045, 0x1D439_000046, 0x1D43A_000047, 0x1D43B_000048,
    0x1D43C_000049, 0x1D43D_00004A, 0x1D43E_00004B, 0x1D43F_00004C, 0x1D440_00004D,
    0x1D441_00004E, 0x1D442_00004F, 0x1D443_000050, 0x1D444_000051, 0x1D445_000052,
    0x1D446_000053, 0x1D447_000054, 0x1D448_000055, 0x1D449_000056, 0x1D44A_000057,
    0x1D44B_000058, 0x1D44C_000059, 0x1D44D_00005A, 0x1D44E_000061, 0x1D44F_000062,
    0x1D450_000063, 0x1D451_000064, 0x1D452_000065, 0x1D453_000066, 0x1D454_000067,
    0x1D456_000069, 0x1D457_00006A, 0x1D458_00006B, 0x1D459_00006C, 0x1D45A_00006D,
    0x1D45B_00006E, 0x1D45C_00006F, 0x1D45D_000070, 0x1D45E_000071, 0x1D45F_000072,
    0x1D460_000073, 0x1D461_000074, 0x1D462_000075, 0x1D463_000076, 0x1D464_000077,
    0x1D465_000078, 0x1D466_000079, 0x1D467_00007A, 0x1D468_000041, 0x1D469_000042,
    0x1D46A_000043, 0x1D46B_000044, 0x1D46C_000045, 0x1D46D_000046, 0x1D46E_000047,
    0x1D46F_000048, 0x1D470_000049, 0x1D471_00004A, 0x1D472_00004B, 0x1D473_00004C,
    0x1D474_00004D, 0x1D475_00004E, 0x1D476_00004F, 0x1D477_000050, 0x1D478_000051,
    0x1D479_000052, 0x1D47A_000053, 0x1D47B_000054, 0x1D47C_000055, 0x1D47D_000056,
    0x1D47E_000057, 0x1D47F_000058, 0x1D480_000059, 0x1D481_00005A, 0x1D482_000061,
    0x1D483_000062, 0x1D484_000063, 0x1D485_000064, 0x1D486_000065, 0x1D487_000066,
    0x1D488_000067, 0x1D489_000068, 0x1D48A_000069, 0x1D48B_00006A, 0x1D48C_00006B,
    0x1D48D_00006C, 0x1D48E_00006D, 0x1D48F_00006E, 0x1D490_00006F, 0x1D491_000070,
    0x1D492_000071, 0x1D493_000072, 0x1D494_000073, 0x1D495_000074, 0x1D496_000075,
    0x1D497_000076, 0x1D498_000077, 0x1D499_000078, 0x1D49A_000079, 0x1D49B_00007A,
    0x1D49C_000041, 0x1D49E_000043, 0x1D49F_000044, 0x1D4A2_000047, 0x1D4A5_00004A,
    0x1D4A6_00004B, 0x1D4A9_00004E, 0x1D4AA_00004F, 0x1D4AB_000050, 0x1D4AC_000051,
    0x1D4AE_000053, 0x1D4AF_000054, 0x1D4B0_000055, 0x1D4B1_000056, 0x1D4B2_000057,
    0x1D4B3_000058, 0x1D4B4_000059, 0x1D4B5_00005A, 0x1D4B6_000061, 0x1D4B7_000062,
    0x1D4B8_000063, 0x1D4B9_000064, 0x1D4BB_000066, 0x1D4BD_000068, 0x1D4BE_000069,
    0x1D4BF_00006A, 0x1D4C0_00006B, 0x1D4C1_00006C, 0x1D4C2_00006D, 0x1D4C3_00006E,
    0x1D4C5_000070, 0x1D4C6_000071, 0x1D4C7_000072, 0x1D4C8_000073, 0x1D4C9_000074,
    0x1D4CA_000075, 0x1D4CB_000076, 0x1D4CC_000077, 0x1D4CD_000078, 0x1D4CE_000079,
    0x1D4CF_00007A, 0x1D4D0_000041, 0x1D4D1_000042, 0x1D4D2_000043, 0x1D4D3_000044,
    0x1D4D4_000045, 0x1D4D5_000046, 0x1D4D6_000047, 0x1D4D7_000048, 0x1D4D8_000049,
    0x1D4D9_00004A, 0x1D4DA_00004B, 0x1D4DB_00004C, 0x1D4DC_00004D, 0x1D4DD_00004E,
    0x1D4DE_00004F, 0x1D4DF_000050, 0x1D4E0_000051, 0x1D4E1_000052, 0x1D4E2_000053,
    0x1D4E3_000054, 0x1D4E4_000055, 0x1D4E5_000056, 0x1D4E6_000057, 0x1D4E7_000058,
    0x1D4E8_000059, 0x1D4E9_00005A, 0x1D4EA_000061, 0x1D4EB_000062, 0x1D4EC_000063,
    0x1D4ED_000064, 0x1D4EE_000065, 0x1D4EF_000066, 0x1D4F0_000067, 0x1D4F1_000068,
    0x1D4F2_000069, 0x1D4F3_00006A, 0x1D4F4_00006B, 0x1D4F5_00006C, 0x1D4F6_00006D,
    0x1D4F7_00006E, 0x1D4F8_00006F, 0x1D4F9_000070, 0x1D4FA_000071, 0x1D4FB_000072] ++
  [
    0x1D4FC_000073, 0x1D4FD_000074, 0x1D4FE_000075, 0x1D4FF_000076]

/-- Compatibility decompositions of page 1D5. -/
def compatibility1D5 : List Nat :=
  [
    0x1D500_000077, 0x1D501_000078, 0x1D502_000079, 0x1D503_00007A, 0x1D504_000041,
    0x1D505_000042, 0x1D507_000044, 0x1D508_000045, 0x1D509_000046, 0x1D50A_000047,
    0x1D50D_00004A, 0x1D50E_00004B, 0x1D50F_00004C, 0x1D510_00004D, 0x1D511_00004E,
    0x1D512_00004F, 0x1D513_000050, 0x1D514_000051, 0x1D516_000053, 0x1D517_000054,
    0x1D518_000055, 0x1D519_000056, 0x1D51A_000057, 0x1D51B_000058, 0x1D51C_000059,
    0x1D51E_000061, 0x1D51F_000062, 0x1D520_000063, 0x1D521_000064, 0x1D522_000065,
    0x1D523_000066, 0x1D524_000067, 0x1D525_000068, 0x1D526_000069, 0x1D527_00006A,
    0x1D528_00006B, 0x1D529_00006C, 0x1D52A_00006D, 0x1D52B_00006E, 0x1D52C_00006F,
    0x1D52D_000070, 0x1D52E_000071, 0x1D52F_000072, 0x1D530_000073, 0x1D531_000074,
    0x1D532_000075, 0x1D533_000076, 0x1D534_000077, 0x1D535_000078, 0x1D536_000079,
    0x1D537_00007A, 0x1D538_000041, 0x1D539_000042, 0x1D53B_000044, 0x1D53C_000045,
    0x1D53D_000046, 0x1D53E_000047, 0x1D540_000049, 0x1D541_00004A, 0x1D542_00004B,
    0x1D543_00004C, 0x1D544_00004D, 0x1D546_00004F, 0x1D54A_000053, 0x1D54B_000054,
    0x1D54C_000055, 0x1D54D_000056, 0x1D54E_000057, 0x1D54F_000058, 0x1D550_000059,
    0x1D552_000061, 0x1D553_000062, 0x1D554_000063, 0x1D555_000064, 0x1D556_000065,
    0x1D557_000066, 0x1D558_000067, 0x1D559_000068, 0x1D55A_000069, 0x1D55B_00006A,
    0x1D55C_00006B, 0x1D55D_00006C, 0x1D55E_00006D, 0x1D55F_00006E, 0x1D560_00006F,
    0x1D561_000070, 0x1D562_000071, 0x1D563_000072, 0x1D564_000073, 0x1D565_000074,
    0x1D566_000075, 0x1D567_000076, 0x1D568_000077, 0x1D569_000078, 0x1D56A_000079,
    0x1D56B_00007A, 0x1D56C_000041, 0x1D56D_000042, 0x1D56E_000043, 0x1D56F_000044,
    0x1D570_000045, 0x1D571_000046, 0x1D572_000047, 0x1D573_000048, 0x1D574_000049,
    0x1D575_00004A, 0x1D576_00004B, 0x1D577_00004C, 0x1D578_00004D, 0x1D579_00004E,
    0x1D57A_00004F, 0x1D57B_000050, 0x1D57C_000051, 0x1D57D_000052, 0x1D57E_000053,
    0x1D57F_000054, 0x1D580_000055, 0x1D581_000056, 0x1D582_000057, 0x1D583_000058,
    0x1D584_000059, 0x1D585_00005A, 0x1D586_000061, 0x1D587_000062, 0x1D588_000063,
    0x1D589_000064, 0x1D58A_000065, 0x1D58B_000066, 0x1D58C_000067, 0x1D58D_000068,
    0x1D58E_000069, 0x1D58F_00006A, 0x1D590_00006B, 0x1D591_00006C, 0x1D592_00006D,
    0x1D593_00006E, 0x1D594_00006F, 0x1D595_000070, 0x1D596_000071, 0x1D597_000072,
    0x1D598_000073, 0x1D599_000074, 0x1D59A_000075, 0x1D59B_000076, 0x1D59C_000077,
    0x1D59D_000078, 0x1D59E_000079, 0x1D59F_00007A, 0x1D5A0_000041, 0x1D5A1_000042,
    0x1D5A2_000043, 0x1D5A3_000044, 0x1D5A4_000045, 0x1D5A5_000046, 0x1D5A6_000047,
    0x1D5A7_000048, 0x1D5A8_000049, 0x1D5A9_00004A, 0x1D5AA_00004B, 0x1D5AB_00004C,
    0x1D5AC_00004D, 0x1D5AD_00004E, 0x1D5AE_00004F, 0x1D5AF_000050, 0x1D5B0_000051,
    0x1D5B1_000052, 0x1D5B2_000053, 0x1D5B3_000054, 0x1D5B4_000055, 0x1D5B5_000056,
    0x1D5B6_000057, 0x1D5B7_000058, 0x1D5B8_000059, 0x1D5B9_00005A, 0x1D5BA_000061,
    0x1D5BB_000062, 0x1D5BC_000063, 0x1D5BD_000064, 0x1D5BE_000065, 0x1D5BF_000066,
    0x1D5C0_000067, 0x1D5C1_000068, 0x1D5C2_000069, 0x1D5C3_00006A, 0x1D5C4_00006B,
    0x1D5C5_00006C, 0x1D5C6_00006D, 0x1D5C7_00006E, 0x1D5C8_00006F, 0x1D5C9_000070,
    0x1D5CA_000071, 0x1D5CB_000072, 0x1D5CC_000073, 0x1D5CD_000074, 0x1D5CE_000075,
    0x1D5CF_000076, 0x1D5D0_000077, 0x1D5D1_000078, 0x1D5D2_000079, 0x1D5D3_00007A,
    0x1D5D4_000041, 0x1D5D5_000042, 0x1D5D6_000043, 0x1D5D7_000044, 0x1D5D8_000045,
    0x1D5D9_000046, 0x1D5DA_000047, 0x1D5DB_000048, 0x1D5DC_000049, 0x1D5DD_00004A,
    0x1D5DE_00004B, 0x1D5DF_00004C, 0x1D5E0_00004D, 0x1D5E1_00004E, 0x1D5E2_00004F,
    0x1D5E3_000050, 0x1D5E4_000051, 0x1D5E5_000052, 0x1D5E6_000053, 0x1D5E7_000054,
    0x1D5E8_000055, 0x1D5E9_000056, 0x1D5EA_000057, 0x1D5EB_000058, 0x1D5EC_000059,
    0x1D5ED_00005A, 0x1D5EE_000061, 0x1D5EF_000062, 0x1D5F0_000063, 0x1D5F1_000064,
    0x1D5F2_000065, 0x1D5F3_000066, 0x1D5F4_000067, 0x1D5F5_000068, 0x1D5F6_000069,
    0x1D5F7_00006A, 0x1D5F8_00006B, 0x1D5F9_00006C, 0x1D5FA_00006D, 0x1D5FB_00006E] ++
  [
    0x1D5FC_00006F, 0x1D5FD_000070, 0x1D5FE_000071, 0x1D5FF_000072]

/-- Compatibility decompositions of page 1D6. -/
def compatibility1D6 : List Nat :=
  [
    0x1D600_000073, 0x1D601_000074, 0x1D602_000075, 0x1D603_000076, 0x1D604_000077,
    0x1D605_000078, 0x1D606_000079, 0x1D607_00007A, 0x1D608_000041, 0x1D609_000042,
    0x1D60A_000043, 0x1D60B_000044, 0x1D60C_000045, 0x1D60D_000046, 0x1D60E_000047,
    0x1D60F_000048, 0x1D610_000049, 0x1D611_00004A, 0x1D612_00004B, 0x1D613_00004C,
    0x1D614_00004D, 0x1D615_00004E, 0x1D616_00004F, 0x1D617_000050, 0x1D618_000051,
    0x1D619_000052, 0x1D61A_000053, 0x1D61B_000054, 0x1D61C_000055, 0x1D61D_000056,
    0x1D61E_000057, 0x1D61F_000058, 0x1D620_000059, 0x1D621_00005A, 0x1D622_000061,
    0x1D623_000062, 0x1D624_000063, 0x1D625_000064, 0x1D626_000065, 0x1D627_000066,
    0x1D628_000067, 0x1D629_000068, 0x1D62A_000069, 0x1D62B_00006A, 0x1D62C_00006B,
    0x1D62D_00006C, 0x1D62E_00006D, 0x1D62F_00006E, 0x1D630_00006F, 0x1D631_000070,
    0x1D632_000071, 0x1D633_000072, 0x1D634_000073, 0x1D635_000074, 0x1D636_000075,
    0x1D637_000076, 0x1D638_000077, 0x1D639_000078, 0x1D63A_000079, 0x1D63B_00007A,
    0x1D63C_000041, 0x1D63D_000042, 0x1D63E_000043, 0x1D63F_000044, 0x1D640_000045,
    0x1D641_000046, 0x1D642_000047, 0x1D643_000048, 0x1D644_000049, 0x1D645_00004A,
    0x1D646_00004B, 0x1D647_00004C, 0x1D648_00004D, 0x1D649_00004E, 0x1D64A_00004F,
    0x1D64B_000050, 0x1D64C_000051, 0x1D64D_000052, 0x1D64E_000053, 0x1D64F_000054,
    0x1D650_000055, 0x1D651_000056, 0x1D652_000057, 0x1D653_000058, 0x1D654_000059,
    0x1D655_00005A, 0x1D656_000061, 0x1D657_000062, 0x1D658_000063, 0x1D659_000064,
    0x1D65A_000065, 0x1D65B_000066, 0x1D65C_000067, 0x1D65D_000068, 0x1D65E_000069,
    0x1D65F_00006A, 0x1D660_00006B, 0x1D661_00006C, 0x1D662_00006D, 0x1D663_00006E,
    0x1D664_00006F, 0x1D665_000070, 0x1D666_000071, 0x1D667_000072, 0x1D668_000073,
    0x1D669_000074, 0x1D66A_000075, 0x1D66B_000076, 0x1D66C_000077, 0x1D66D_000078,
    0x1D66E_000079, 0x1D66F_00007A, 0x1D670_000041, 0x1D671_000042, 0x1D672_000043,
    0x1D673_000044, 0x1D674_000045, 0x1D675_000046, 0x1D676_000047, 0x1D677_000048,
    0x1D678_000049, 0x1D679_00004A, 0x1D67A_00004B, 0x1D67B_00004C, 0x1D67C_00004D,
    0x1D67D_00004E, 0x1D67E_00004F, 0x1D67F_000050, 0x1D680_000051, 0x1D681_000052,
    0x1D682_000053, 0x1D683_000054, 0x1D684_000055, 0x1D685_000056, 0x1D686_000057,
    0x1D687_000058, 0x1D688_000059, 0x1D689_00005A, 0x1D68A_000061, 0x1D68B_000062,
    0x1D68C_000063, 0x1D68D_000064, 0x1D68E_000065, 0x1D68F_000066, 0x1D690_000067,
    0x1D691_000068, 0x1D692_000069, 0x1D693_00006A, 0x1D694_00006B, 0x1D695_00006C,
    0x1D696_00006D, 0x1D697_00006E, 0x1D698_00006F, 0x1D699_000070, 0x1D69A_000071,
    0x1D69B_000072, 0x1D69C_000073, 0x1D69D_000074, 0x1D69E_000075, 0x1D69F_000076,
    0x1D6A0_000077, 0x1D6A1_000078, 0x1D6A2_000079, 0x1D6A3_00007A, 0x1D6A4_000131,
    0x1D6A5_000237, 0x1D6A8_000391, 0x1D6A9_000392, 0x1D6AA_000393, 0x1D6AB_000394,
    0x1D6AC_000395, 0x1D6AD_000396, 0x1D6AE_000397, 0x1D6AF_000398, 0x1D6B0_000399,
    0x1D6B1_00039A, 0x1D6B2_00039B, 0x1D6B3_00039C, 0x1D6B4_00039D, 0x1D6B5_00039E,
    0x1D6B6_00039F, 0x1D6B7_0003A0, 0x1D6B8_0003A1, 0x1D6B9_0003F4, 0x1D6BA_0003A3,
    0x1D6BB_0003A4, 0x1D6BC_0003A5, 0x1D6BD_0003A6, 0x1D6BE_0003A7, 0x1D6BF_0003A8,
    0x1D6C0_0003A9, 0x1D6C1_002207, 0x1D6C2_0003B1, 0x1D6C3_0003B2, 0x1D6C4_0003B3,
    0x1D6C5_0003B4, 0x1D6C6_0003B5, 0x1D6C7_0003B6, 0x1D6C8_0003B7, 0x1D6C9_0003B8,
    0x1D6CA_0003B9, 0x1D6CB_0003BA, 0x1D6CC_0003BB, 0x1D6CD_0003BC, 0x1D6CE_0003BD,
    0x1D6CF_0003BE, 0x1D6D0_0003BF, 0x1D6D1_0003C0, 0x1D6D2_0003C1, 0x1D6D3_0003C2,
    0x1D6D4_0003C3, 0x1D6D5_0003C4, 0x1D6D6_0003C5, 0x1D6D7_0003C6, 0x1D6D8_0003C7,
    0x1D6D9_0003C8, 0x1D6DA_0003C9, 0x1D6DB_002202, 0x1D6DC_0003F5, 0x1D6DD_0003D1,
    0x1D6DE_0003F0, 0x1D6DF_0003D5, 0x1D6E0_0003F1, 0x1D6E1_0003D6, 0x1D6E2_000391,
    0x1D6E3_000392, 0x1D6E4_000393, 0x1D6E5_000394, 0x1D6E6_000395, 0x1D6E7_000396,
    0x1D6E8_000397, 0x1D6E9_000398, 0x1D6EA_000399, 0x1D6EB_00039A, 0x1D6EC_00039B,
    0x1D6ED_00039C, 0x1D6EE_00039D, 0x1D6EF_00039E, 0x1D6F0_00039F, 0x1D6F1_0003A0] ++
  [
    0x1D6F2_0003A1, 0x1D6F3_0003F4, 0x1D6F4_0003A3, 0x1D6F5_0003A4, 0x1D6F6_0003A5,
    0x1D6F7_0003A6, 0x1D6F8_0003A7, 0x1D6F9_0003A8, 0x1D6FA_0003A9, 0x1D6FB_002207,
    0x1D6FC_0003B1, 0x1D6FD_0003B2, 0x1D6FE_0003B3, 0x1D6FF_0003B4]

/-- Compatibility decompositions of page 1D7. -/
def compatibility1D7 : List Nat :=
  [
    0x1D700_0003B5, 0x1D701_0003B6, 0x1D702_0003B7, 0x1D703_0003B8, 0x1D704_0003B9,
    0x1D705_0003BA, 0x1D706_0003BB, 0x1D707_0003BC, 0x1D708_0003BD, 0x1D709_0003BE,
    0x1D70A_0003BF, 0x1D70B_0003C0, 0x1D70C_0003C1, 0x1D70D_0003C2, 0x1D70E_0003C3,
    0x1D70F_0003C4, 0x1D710_0003C5, 0x1D711_0003C6, 0x1D712_0003C7, 0x1D713_0003C8,
    0x1D714_0003C9, 0x1D715_002202, 0x1D716_0003F5, 0x1D717_0003D1, 0x1D718_0003F0,
    0x1D719_0003D5, 0x1D71A_0003F1, 0x1D71B_0003D6, 0x1D71C_000391, 0x1D71D_000392,
    0x1D71E_000393, 0x1D71F_000394, 0x1D720_000395, 0x1D721_000396, 0x1D722_000397,
    0x1D723_000398, 0x1D724_000399, 0x1D725_00039A, 0x1D726_00039B, 0x1D727_00039C,
    0x1D728_00039D, 0x1D729_00039E, 0x1D72A_00039F, 0x1D72B_0003A0, 0x1D72C_0003A1,
    0x1D72D_0003F4, 0x1D72E_0003A3, 0x1D72F_0003A4, 0x1D730_0003A5, 0x1D731_0003A6,
    0x1D732_0003A7, 0x1D733_0003A8, 0x1D734_0003A9, 0x1D735_002207, 0x1D736_0003B1,
    0x1D737_0003B2, 0x1D738_0003B3, 0x1D739_0003B4, 0x1D73A_0003B5, 0x1D73B_0003B6,
    0x1D73C_0003B7, 0x1D73D_0003B8, 0x1D73E_0003B9, 0x1D73F_0003BA, 0x1D740_0003BB,
    0x1D741_0003BC, 0x1D742_0003BD, 0x1D743_0003BE, 0x1D744_0003BF, 0x1D745_0003C0,
    0x1D746_0003C1, 0x1D747_0003C2, 0x1D748_0003C3, 0x1D749_0003C4, 0x1D74A_0003C5,
    0x1D74B_0003C6, 0x1D74C_0003C7, 0x1D74D_0003C8, 0x1D74E_0003C9, 0x1D74F_002202,
    0x1D750_0003F5, 0x1D751_0003D1, 0x1D752_0003F0, 0x1D753_0003D5, 0x1D754_0003F1,
    0x1D755_0003D6, 0x1D756_000391, 0x1D757_000392, 0x1D758_000393, 0x1D759_000394,
    0x1D75A_000395, 0x1D75B_000396, 0x1D75C_000397, 0x1D75D_000398, 0x1D75E_000399,
    0x1D75F_00039A, 0x1D760_00039B, 0x1D761_00039C, 0x1D762_00039D, 0x1D763_00039E,
    0x1D764_00039F, 0x1D765_0003A0, 0x1D766_0003A1, 0x1D767_0003F4, 0x1D768_0003A3,
    0x1D769_0003A4, 0x1D76A_0003A5, 0x1D76B_0003A6, 0x1D76C_0003A7, 0x1D76D_0003A8,
    0x1D76E_0003A9, 0x1D76F_002207, 0x1D770_0003B1, 0x1D771_0003B2, 0x1D772_0003B3,
    0x1D773_0003B4, 0x1D774_0003B5, 0x1D775_0003B6, 0x1D776_0003B7, 0x1D777_0003B8,
    0x1D778_0003B9, 0x1D779_0003BA, 0x1D77A_0003BB, 0x1D77B_0003BC, 0x1D77C_0003BD,
    0x1D77D_0003BE, 0x1D77E_0003BF, 0x1D77F_0003C0, 0x1D780_0003C1, 0x1D781_0003C2,
    0x1D782_0003C3, 0x1D783_0003C4, 0x1D784_0003C5, 0x1D785_0003C6, 0x1D786_0003C7,
    0x1D787_0003C8, 0x1D788_0003C9, 0x1D789_002202, 0x1D78A_0003F5, 0x1D78B_0003D1,
    0x1D78C_0003F0, 0x1D78D_0003D5, 0x1D78E_0003F1, 0x1D78F_0003D6, 0x1D790_000391,
    0x1D791_000392, 0x1D792_000393, 0x1D793_000394, 0x1D794_000395, 0x1D795_000396,
    0x1D796_000397, 0x1D797_000398, 0x1D798_000399, 0x1D799_00039A, 0x1D79A_00039B,
    0x1D79B_00039C, 0x1D79C_00039D, 0x1D79D_00039E, 0x1D79E_00039F, 0x1D79F_0003A0,
    0x1D7A0_0003A1, 0x1D7A1_0003F4, 0x1D7A2_0003A3, 0x1D7A3_0003A4, 0x1D7A4_0003A5,
    0x1D7A5_0003A6, 0x1D7A6_0003A7, 0x1D7A7_0003A8, 0x1D7A8_0003A9, 0x1D7A9_002207,
    0x1D7AA_0003B1, 0x1D7AB_0003B2, 0x1D7AC_0003B3, 0x1D7AD_0003B4, 0x1D7AE_0003B5,
    0x1D7AF_0003B6, 0x1D7B0_0003B7, 0x1D7B1_0003B8, 0x1D7B2_0003B9, 0x1D7B3_0003BA,
    0x1D7B4_0003BB, 0x1D7B5_0003BC, 0x1D7B6_0003BD, 0x1D7B7_0003BE, 0x1D7B8_0003BF,
    0x1D7B9_0003C0, 0x1D7BA_0003C1, 0x1D7BB_0003C2, 0x1D7BC_0003C3, 0x1D7BD_0003C4,
    0x1D7BE_0003C5, 0x1D7BF_0003C6, 0x1D7C0_0003C7, 0x1D7C1_0003C8, 0x1D7C2_0003C9,
    0x1D7C3_002202, 0x1D7C4_0003F5, 0x1D7C5_0003D1, 0x1D7C6_0003F0, 0x1D7C7_0003D5,
    0x1D7C8_0003F1, 0x1D7C9_0003D6, 0x1D7CA_0003DC, 0x1D7CB_0003DD, 0x1D7CE_000030,
    0x1D7CF_000031, 0x1D7D0_000032, 0x1D7D1_000033, 0x1D7D2_000034, 0x1D7D3_000035,
    0x1D7D4_000036, 0x1D7D5_000037, 0x1D7D6_000038, 0x1D7D7_000039, 0x1D7D8_000030,
    0x1D7D9_000031, 0x1D7DA_000032, 0x1D7DB_000033, 0x1D7DC_000034, 0x1D7DD_000035,
    0x1D7DE_000036, 0x1D7DF_000037, 0x1D7E0_000038, 0x1D7E1_000039, 0x1D7E2_000030,
    0x1D7E3_000031, 0x1D7E4_000032, 0x1D7E5_000033, 0x1D7E6_000034, 0x1D7E7_000035,
    0x1D7E8_000036, 0x1D7E9_000037, 0x1D7EA_000038, 0x1D7EB_000039, 0x1D7EC_000030,
    0x1D7ED_000031, 0x1D7EE_000032, 0x1D7EF_000033, 0x1D7F0_000034, 0x1D7F1_000035] ++
  [
    0x1D7F2_000036, 0x1D7F3_000037, 0x1D7F4_000038, 0x1D7F5_000039, 0x1D7F6_000030,
    0x1D7F7_000031, 0x1D7F8_000032, 0x1D7F9_000033, 0x1D7FA_000034, 0x1D7FB_000035,
    0x1D7FC_000036, 0x1D7FD_000037, 0x1D7FE_000038, 0x1D7FF_000039]

/-- Compatibility decompositions of page 1EE. -/
def compatibility1EE : List Nat :=
  [
    0x1EE00_000627, 0x1EE01_000628, 0x1EE02_00062C, 0x1EE03_00062F, 0x1EE05_000648,
    0x1EE06_000632, 0x1EE07_00062D, 0x1EE08_000637, 0x1EE09_00064A, 0x1EE0A_000643,
    0x1EE0B_000644, 0x1EE0C_000645, 0x1EE0D_000646, 0x1EE0E_000633, 0x1EE0F_000639,
    0x1EE10_000641, 0x1EE11_000635, 0x1EE12_000642, 0x1EE13_000631, 0x1EE14_000634,
    0x1EE15_00062A, 0x1EE16_00062B, 0x1EE17_00062E, 0x1EE18_000630, 0x1EE19_000636,
    0x1EE1A_000638, 0x1EE1B_00063A, 0x1EE1C_00066E, 0x1EE1D_0006BA, 0x1EE1E_0006A1,
    0x1EE1F_00066F, 0x1EE21_000628, 0x1EE22_00062C, 0x1EE24_000647, 0x1EE27_00062D,
    0x1EE29_00064A, 0x1EE2A_000643, 0x1EE2B_000644, 0x1EE2C_000645, 0x1EE2D_000646,
    0x1EE2E_000633, 0x1EE2F_000639, 0x1EE30_000641, 0x1EE31_000635, 0x1EE32_000642,
    0x1EE34_000634, 0x1EE35_00062A, 0x1EE36_00062B, 0x1EE37_00062E, 0x1EE39_000636,
    0x1EE3B_00063A, 0x1EE42_00062C, 0x1EE47_00062D, 0x1EE49_00064A, 0x1EE4B_000644,
    0x1EE4D_000646, 0x1EE4E_000633, 0x1EE4F_000639, 0x1EE51_000635, 0x1EE52_000642,
    0x1EE54_000634, 0x1EE57_00062E, 0x1EE59_000636, 0x1EE5B_00063A, 0x1EE5D_0006BA,
    0x1EE5F_00066F, 0x1EE61_000628, 0x1EE62_00062C, 0x1EE64_000647, 0x1EE67_00062D,
    0x1EE68_000637, 0x1EE69_00064A, 0x1EE6A_000643, 0x1EE6C_000645, 0x1EE6D_000646,
    0x1EE6E_000633, 0x1EE6F_000639, 0x1EE70_000641, 0x1EE71_000635, 0x1EE72_000642,
    0x1EE74_000634, 0x1EE75_00062A, 0x1EE76_00062B, 0x1EE77_00062E, 0x1EE79_000636,
    0x1EE7A_000638, 0x1EE7B_00063A, 0x1EE7C_00066E, 0x1EE7E_0006A1, 0x1EE80_000627,
    0x1EE81_000628, 0x1EE82_00062C, 0x1EE83_00062F, 0x1EE84_000647, 0x1EE85_000648,
    0x1EE86_000632, 0x1EE87_00062D, 0x1EE88_000637, 0x1EE89_00064A, 0x1EE8B_000644,
    0x1EE8C_000645, 0x1EE8D_000646, 0x1EE8E_000633, 0x1EE8F_000639, 0x1EE90_000641,
    0x1EE91_000635, 0x1EE92_000642, 0x1EE93_000631, 0x1EE94_000634, 0x1EE95_00062A,
    0x1EE96_00062B, 0x1EE97_00062E, 0x1EE98_000630, 0x1EE99_000636, 0x1EE9A_000638,
    0x1EE9B_00063A, 0x1EEA1_000628, 0x1EEA2_00062C, 0x1EEA3_00062F, 0x1EEA5_000648,
    0x1EEA6_000632, 0x1EEA7_00062D, 0x1EEA8_000637, 0x1EEA9_00064A, 0x1EEAB_000644,
    0x1EEAC_000645, 0x1EEAD_000646, 0x1EEAE_000633, 0x1EEAF_000639, 0x1EEB0_000641,
    0x1EEB1_000635, 0x1EEB2_000642, 0x1EEB3_000631, 0x1EEB4_000634, 0x1EEB5_00062A,
    0x1EEB6_00062B, 0x1EEB7_00062E, 0x1EEB8_000630, 0x1EEB9_000636, 0x1EEBA_000638, 0x1EEBB_00063A]

/-- Compatibility decompositions of page 1F1. -/
def compatibility1F1 : List Nat :=
  [
    0x1F100_000030_00002E, 0x1F101_000030_00002C, 0x1F102_000031_00002C, 0x1F103_000032_00002C,
    0x1F104_000033_00002C, 0x1F105_000034_00002C, 0x1F106_000035_00002C, 0x1F107_000036_00002C,
    0x1F108_000037_00002C, 0x1F109_000038_00002C, 0x1F10A_000039_00002C,
    0x1F110_000028_000041_000029, 0x1F111_000028_000042_000029, 0x1F112_000028_000043_000029,
    0x1F113_000028_000044_000029, 0x1F114_000028_000045_000029, 0x1F115_000028_000046_000029,
    0x1F116_000028_000047_000029, 0x1F117_000028_000048_000029, 0x1F118_000028_000049_000029,
    0x1F119_000028_00004A_000029, 0x1F11A_000028_00004B_000029, 0x1F11B_000028_00004C_000029,
    0x1F11C_000028_00004D_000029, 0x1F11D_000028_00004E_000029, 0x1F11E_000028_00004F_000029,
    0x1F11F_000028_000050_000029, 0x1F120_000028_000051_000029, 0x1F121_000028_000052_000029,
    0x1F122_000028_000053_000029, 0x1F123_000028_000054_000029, 0x1F124_000028_000055_000029,
    0x1F125_000028_000056_000029, 0x1F126_000028_000057_000029, 0x1F127_000028_000058_000029,
    0x1F128_000028_000059_000029, 0x1F129_000028_00005A_000029, 0x1F12A_003014_000053_003015,
    0x1F12B_000043, 0x1F12C_000052, 0x1F12D_000043_000044, 0x1F12E_000057_00005A, 0x1F130_000041,
    0x1F131_000042, 0x1F132_000043, 0x1F133_000044, 0x1F134_000045, 0x1F135_000046,
    0x1F136_000047, 0x1F137_000048, 0x1F138_000049, 0x1F139_00004A, 0x1F13A_00004B,
    0x1F13B_00004C, 0x1F13C_00004D, 0x1F13D_00004E, 0x1F13E_00004F, 0x1F13F_000050,
    0x1F140_000051, 0x1F141_000052, 0x1F142_000053, 0x1F143_000054, 0x1F144_000055,
    0x1F145_000056, 0x1F146_000057, 0x1F147_000058, 0x1F148_000059, 0x1F149_00005A,
    0x1F14A_000048_000056, 0x1F14B_00004D_000056, 0x1F14C_000053_000044, 0x1F14D_000053_000053,
    0x1F14E_000050_000050_000056, 0x1F14F_000057_000043, 0x1F16A_00004D_000043,
    0x1F16B_00004D_000044, 0x1F16C_00004D_000052, 0x1F190_000044_00004A]

/-- Compatibility decompositions of page 1F2. -/
def compatibility1F2 : List Nat :=
  [
    0x1F200_00307B_00304B, 0x1F201_0030B3_0030B3, 0x1F202_0030B5, 0x1F210_00624B, 0x1F211_005B57,
    0x1F212_0053CC, 0x1F213_0030C7, 0x1F214_004E8C, 0x1F215_00591A, 0x1F216_0089E3,
    0x1F217_005929, 0x1F218_004EA4, 0x1F219_006620, 0x1F21A_007121, 0x1F21B_006599,
    0x1F21C_00524D, 0x1F21D_005F8C, 0x1F21E_00518D, 0x1F21F_0065B0, 0x1F220_00521D,
    0x1F221_007D42, 0x1F222_00751F, 0x1F223_008CA9, 0x1F224_0058F0, 0x1F225_005439,
    0x1F226_006F14, 0x1F227_006295, 0x1F228_006355, 0x1F229_004E00, 0x1F22A_004E09,
    0x1F22B_00904A, 0x1F22C_005DE6, 0x1F22D_004E2D, 0x1F22E_0053F3, 0x1F22F_006307,
    0x1F230_008D70, 0x1F231_006253, 0x1F232_007981, 0x1F233_007A7A, 0x1F234_005408,
    0x1F235_006E80, 0x1F236_006709, 0x1F237_006708, 0x1F238_007533, 0x1F239_005272,
    0x1F23A_0055B6, 0x1F23B_00914D, 0x1F240_003014_00672C_003015, 0x1F241_003014_004E09_003015,
    0x1F242_003014_004E8C_003015, 0x1F243_003014_005B89_003015, 0x1F244_003014_0070B9_003015,
    0x1F245_003014_006253_003015, 0x1F246_003014_0076D7_003015, 0x1F247_003014_0052DD_003015,
    0x1F248_003014_006557_003015, 0x1F250_005F97, 0x1F251_0053EF]

/-- Compatibility decompositions of page 1FB. -/
def compatibility1FB : List Nat :=
  [
    0x1FBF0_000030, 0x1FBF1_000031, 0x1FBF2_000032, 0x1FBF3_000033, 0x1FBF4_000034,
    0x1FBF5_000035, 0x1FBF6_000036, 0x1FBF7_000037, 0x1FBF8_000038, 0x1FBF9_000039]

/-- Characters with a compatibility decomposition, by page of 256: the character, then its parts. -/
def compatibilityPages : List Page := pages [
  (0x0, compatibility000), (0x1, compatibility001), (0x2, compatibility002),
  (0x3, compatibility003), (0x5, compatibility005), (0x6, compatibility006),
  (0xE, compatibility00E), (0xF, compatibility00F), (0x10, compatibility010),
  (0x1D, compatibility01D), (0x1E, compatibility01E), (0x1F, compatibility01F),
  (0x20, compatibility020), (0x21, compatibility021), (0x22, compatibility022),
  (0x24, compatibility024), (0x2A, compatibility02A), (0x2C, compatibility02C),
  (0x2D, compatibility02D), (0x2E, compatibility02E), (0x2F, compatibility02F),
  (0x30, compatibility030), (0x31, compatibility031), (0x32, compatibility032),
  (0x33, compatibility033), (0xA6, compatibility0A6), (0xA7, compatibility0A7),
  (0xAB, compatibility0AB), (0xFB, compatibility0FB), (0xFC, compatibility0FC),
  (0xFD, compatibility0FD), (0xFE, compatibility0FE), (0xFF, compatibility0FF),
  (0x107, compatibility107), (0x1D4, compatibility1D4), (0x1D5, compatibility1D5),
  (0x1D6, compatibility1D6), (0x1D7, compatibility1D7), (0x1EE, compatibility1EE),
  (0x1F1, compatibility1F1), (0x1F2, compatibility1F2), (0x1FB, compatibility1FB)]

end DatasetForm.Text
