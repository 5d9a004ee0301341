import DatasetForm.Text.Packed

/-!
Canonical combining classes of Unicode 14: the number by which marks on one letter are put in order.
Class zero is that of letters and of all that starts a new cluster.
-/

set_option autoImplicit false
set_option relaxedAutoImplicit false

namespace DatasetForm.Text

/-- Spans of one nonzero class each: first, last, class. -/
def combiningRuns : List (Span × Nat) := labelledSpans (
  [
    0x300_000314_0000E6, 0x315_000315_0000E8, 0x316_000319_0000DC, 0x31A_00031A_0000E8,
    0x31B_00031B_0000D8, 0x31C_000320_0000DC, 0x321_000322_0000CA, 0x323_000326_0000DC,
    0x327_000328_0000CA, 0x329_000333_0000DC, 0x334_000338_000001, 0x339_00033C_0000DC,
    0x33D_000344_0000E6, 0x345_000345_0000F0, 0x346_000346_0000E6, 0x347_000349_0000DC,
    0x34A_00034C_0000E6, 0x34D_00034E_0000DC, 0x350_000352_0000E6, 0x353_000356_0000DC,
    0x357_000357_0000E6, 0x358_000358_0000E8, 0x359_00035A_0000DC, 0x35B_00035B_0000E6,
    0x35C_00035C_0000E9, 0x35D_00035E_0000EA, 0x35F_00035F_0000E9, 0x360_000361_0000EA,
    0x362_000362_0000E9, 0x363_00036F_0000E6, 0x483_000487_0000E6, 0x591_000591_0000DC,
    0x592_000595_0000E6, 0x596_000596_0000DC, 0x597_000599_0000E6, 0x59A_00059A_0000DE,
    0x59B_00059B_0000DC, 0x59C_0005A1_0000E6, 0x5A2_0005A7_0000DC, 0x5A8_0005A9_0000E6,
    0x5AA_0005AA_0000DC, 0x5AB_0005AC_0000E6, 0x5AD_0005AD_0000DE, 0x5AE_0005AE_0000E4,
    0x5AF_0005AF_0000E6, 0x5B0_0005B0_00000A, 0x5B1_0005B1_00000B, 0x5B2_0005B2_00000C,
    0x5B3_0005B3_00000D, 0x5B4_0005B4_00000E, 0x5B5_0005B5_00000F, 0x5B6_0005B6_000010,
    0x5B7_0005B7_000011, 0x5B8_0005B8_000012, 0x5B9_0005BA_000013, 0x5BB_0005BB_000014,
    0x5BC_0005BC_000015, 0x5BD_0005BD_000016, 0x5BF_0005BF_000017, 0x5C1_0005C1_000018,
    0x5C2_0005C2_000019, 0x5C4_0005C4_0000E6, 0x5C5_0005C5_0000DC, 0x5C7_0005C7_000012,
    0x610_000617_0000E6, 0x618_000618_00001E, 0x619_000619_00001F, 0x61A_00061A_000020,
    0x64B_00064B_00001B, 0x64C_00064C_00001C, 0x64D_00064D_00001D, 0x64E_00064E_00001E,
    0x64F_00064F_00001F, 0x650_000650_000020, 0x651_000651_000021, 0x652_000652_000022,
    0x653_000654_0000E6, 0x655_000656_0000DC, 0x657_00065B_0000E6, 0x65C_00065C_0000DC,
    0x65D_00065E_0000E6, 0x65F_00065F_0000DC, 0x670_000670_000023, 0x6D6_0006DC_0000E6,
    0x6DF_0006E2_0000E6, 0x6E3_0006E3_0000DC, 0x6E4_0006E4_0000E6, 0x6E7_0006E8_0000E6,
    0x6EA_0006EA_0000DC, 0x6EB_0006EC_0000E6, 0x6ED_0006ED_0000DC, 0x711_000711_000024,
    0x730_000730_0000E6, 0x731_000731_0000DC, 0x732_000733_0000E6, 0x734_000734_0000DC,
    0x735_000736_0000E6, 0x737_000739_0000DC, 0x73A_00073A_0000E6, 0x73B_00073C_0000DC,
    0x73D_00073D_0000E6, 0x73E_00073E_0000DC, 0x73F_000741_0000E6, 0x742_000742_0000DC,
    0x743_000743_0000E6, 0x744_000744_0000DC, 0x745_000745_0000E6, 0x746_000746_0000DC,
    0x747_000747_0000E6, 0x748_000748_0000DC, 0x749_00074A_0000E6, 0x7EB_0007F1_0000E6,
    0x7F2_0007F2_0000DC, 0x7F3_0007F3_0000E6, 0x7FD_0007FD_0000DC, 0x816_000819_0000E6,
    0x81B_000823_0000E6, 0x825_000827_0000E6, 0x829_00082D_0000E6, 0x859_00085B_0000DC,
    0x898_000898_0000E6, 0x899_00089B_0000DC, 0x89C_00089F_0000E6, 0x8CA_0008CE_0000E6,
    0x8CF_0008D3_0000DC, 0x8D4_0008E1_0000E6, 0x8E3_0008E3_0000DC, 0x8E4_0008E5_0000E6,
    0x8E6_0008E6_0000DC, 0x8E7_0008E8_0000E6, 0x8E9_0008E9_0000DC, 0x8EA_0008EC_0000E6,
    0x8ED_0008EF_0000DC, 0x8F0_0008F0_00001B, 0x8F1_0008F1_00001C, 0x8F2_0008F2_00001D,
    0x8F3_0008F5_0000E6, 0x8F6_0008F6_0000DC, 0x8F7_0008F8_0000E6, 0x8F9_0008FA_0000DC,
    0x8FB_0008FF_0000E6, 0x93C_00093C_000007, 0x94D_00094D_000009, 0x951_000951_0000E6,
    0x952_000952_0000DC, 0x953_000954_0000E6, 0x9BC_0009BC_000007, 0x9CD_0009CD_000009,
    0x9FE_0009FE_0000E6, 0xA3C_000A3C_000007, 0xA4D_000A4D_000009, 0xABC_000ABC_000007,
    0xACD_000ACD_000009, 0xB3C_000B3C_000007, 0xB4D_000B4D_000009, 0xBCD_000BCD_000009,
    0xC3C_000C3C_000007, 0xC4D_000C4D_000009, 0xC55_000C55_000054, 0xC56_000C56_00005B,
    0xCBC_000CBC_000007, 0xCCD_000CCD_000009, 0xD3B_000D3C_000009, 0xD4D_000D4D_000009,
    0xDCA_000DCA_000009, 0xE38_000E39_000067, 0xE3A_000E3A_000009, 0xE48_000E4B_00006B,
    0xEB8_000EB9_000076, 0xEBA_000EBA_000009, 0xEC8_000ECB_00007A, 0xF18_000F19_0000DC,
    0xF35_000F35_0000DC, 0xF37_000F37_0000DC, 0xF39_000F39_0000D8, 0xF71_000F71_000081,
    0xF72_000F72_000082, 0xF74_000F74_000084, 0xF7A_000F7D_000082, 0xF80_000F80_000082,
    0xF82_000F83_0000E6, 0xF84_000F84_000009, 0xF86_000F87_0000E6, 0xFC6_000FC6_0000DC,
    0x1037_001037_000007, 0x1039_00103A_000009, 0x108D_00108D_0000DC, 0x135D_00135F_0000E6,
    0x1714_001715_000009, 0x1734_001734_000009, 0x17D2_0017D2_000009, 0x17DD_0017DD_0000E6,
    0x18A9_0018A9_0000E4, 0x1939_001939_0000DE, 0x193A_00193A_0000E6, 0x193B_00193B_0000DC,
    0x1A17_001A17_0000E6, 0x1A18_001A18_0000DC, 0x1A60_001A60_000009, 0x1A75_001A7C_0000E6,
    0x1A7F_001A7F_0000DC, 0x1AB0_001AB4_0000E6, 0x1AB5_001ABA_0000DC, 0x1ABB_001ABC_0000E6,
    0x1ABD_001ABD_0000DC, 0x1ABF_001AC0_0000DC, 0x1AC1_001AC2_0000E6, 0x1AC3_001AC4_0000DC,
    0x1AC5_001AC9_0000E6, 0x1ACA_001ACA_0000DC, 0x1ACB_001ACE_0000E6, 0x1B34_001B34_000007,
    0x1B44_001B44_000009, 0x1B6B_001B6B_0000E6, 0x1B6C_001B6C_0000DC, 0x1B6D_001B73_0000E6,
    0x1BAA_001BAB_000009, 0x1BE6_001BE6_000007, 0x1BF2_001BF3_000009, 0x1C37_001C37_000007,
    0x1CD0_001CD2_0000E6, 0x1CD4_001CD4_000001, 0x1CD5_001CD9_0000DC, 0x1CDA_001CDB_0000E6,
    0x1CDC_001CDF_0000DC, 0x1CE0_001CE0_0000E6, 0x1CE2_001CE8_000001, 0x1CED_001CED_0000DC,
    0x1CF4_001CF4_0000E6, 0x1CF8_001CF9_0000E6, 0x1DC0_001DC1_0000E6, 0x1DC2_001DC2_0000DC,
    0x1DC3_001DC9_0000E6, 0x1DCA_001DCA_0000DC, 0x1DCB_001DCC_0000E6, 0x1DCD_001DCD_0000EA,
    0x1DCE_001DCE_0000D6, 0x1DCF_001DCF_0000DC, 0x1DD0_001DD0_0000CA, 0x1DD1_001DF5_0000E6] ++
  [
    0x1DF6_001DF6_0000E8, 0x1DF7_001DF8_0000E4, 0x1DF9_001DF9_0000DC, 0x1DFA_001DFA_0000DA,
    0x1DFB_001DFB_0000E6, 0x1DFC_001DFC_0000E9, 0x1DFD_001DFD_0000DC, 0x1DFE_001DFE_0000E6,
    0x1DFF_001DFF_0000DC, 0x20D0_0020D1_0000E6, 0x20D2_0020D3_000001, 0x20D4_0020D7_0000E6,
    0x20D8_0020DA_000001, 0x20DB_0020DC_0000E6, 0x20E1_0020E1_0000E6, 0x20E5_0020E6_000001,
    0x20E7_0020E7_0000E6, 0x20E8_0020E8_0000DC, 0x20E9_0020E9_0000E6, 0x20EA_0020EB_000001,
    0x20EC_0020EF_0000DC, 0x20F0_0020F0_0000E6, 0x2CEF_002CF1_0000E6, 0x2D7F_002D7F_000009,
    0x2DE0_002DFF_0000E6, 0x302A_00302A_0000DA, 0x302B_00302B_0000E4, 0x302C_00302C_0000E8,
    0x302D_00302D_0000DE, 0x302E_00302F_0000E0, 0x3099_00309A_000008, 0xA66F_00A66F_0000E6,
    0xA674_00A67D_0000E6, 0xA69E_00A69F_0000E6, 0xA6F0_00A6F1_0000E6, 0xA806_00A806_000009,
    0xA82C_00A82C_000009, 0xA8C4_00A8C4_000009, 0xA8E0_00A8F1_0000E6, 0xA92B_00A92D_0000DC,
    0xA953_00A953_000009, 0xA9B3_00A9B3_000007, 0xA9C0_00A9C0_000009, 0xAAB0_00AAB0_0000E6,
    0xAAB2_00AAB3_0000E6, 0xAAB4_00AAB4_0000DC, 0xAAB7_00AAB8_0000E6, 0xAABE_00AABF_0000E6,
    0xAAC1_00AAC1_0000E6, 0xAAF6_00AAF6_000009, 0xABED_00ABED_000009, 0xFB1E_00FB1E_00001A,
    0xFE20_00FE26_0000E6, 0xFE27_00FE2D_0000DC, 0xFE2E_00FE2F_0000E6, 0x101FD_0101FD_0000DC,
    0x102E0_0102E0_0000DC, 0x10376_01037A_0000E6, 0x10A0D_010A0D_0000DC, 0x10A0F_010A0F_0000E6,
    0x10A38_010A38_0000E6, 0x10A39_010A39_000001, 0x10A3A_010A3A_0000DC, 0x10A3F_010A3F_000009,
    0x10AE5_010AE5_0000E6, 0x10AE6_010AE6_0000DC, 0x10D24_010D27_0000E6, 0x10EAB_010EAC_0000E6,
    0x10F46_010F47_0000DC, 0x10F48_010F4A_0000E6, 0x10F4B_010F4B_0000DC, 0x10F4C_010F4C_0000E6,
    0x10F4D_010F50_0000DC, 0x10F82_010F82_0000E6, 0x10F83_010F83_0000DC, 0x10F84_010F84_0000E6,
    0x10F85_010F85_0000DC, 0x11046_011046_000009, 0x11070_011070_000009, 0x1107F_01107F_000009,
    0x110B9_0110B9_000009, 0x110BA_0110BA_000007, 0x11100_011102_0000E6, 0x11133_011134_000009,
    0x11173_011173_000007, 0x111C0_0111C0_000009, 0x111CA_0111CA_000007, 0x11235_011235_000009,
    0x11236_011236_000007, 0x112E9_0112E9_000007, 0x112EA_0112EA_000009, 0x1133B_01133C_000007,
    0x1134D_01134D_000009, 0x11366_01136C_0000E6, 0x11370_011374_0000E6, 0x11442_011442_000009,
    0x11446_011446_000007, 0x1145E_01145E_0000E6, 0x114C2_0114C2_000009, 0x114C3_0114C3_000007,
    0x115BF_0115BF_000009, 0x115C0_0115C0_000007, 0x1163F_01163F_000009, 0x116B6_0116B6_000009,
    0x116B7_0116B7_000007, 0x1172B_01172B_000009, 0x11839_011839_000009, 0x1183A_01183A_000007,
    0x1193D_01193E_000009, 0x11943_011943_000007, 0x119E0_0119E0_000009, 0x11A34_011A34_000009,
    0x11A47_011A47_000009, 0x11A99_011A99_000009, 0x11C3F_011C3F_000009, 0x11D42_011D42_000007,
    0x11D44_011D45_000009, 0x11D97_011D97_000009, 0x16AF0_016AF4_000001, 0x16B30_016B36_0000E6,
    0x16FF0_016FF1_000006, 0x1BC9E_01BC9E_000001, 0x1D165_01D166_0000D8, 0x1D167_01D169_000001,
    0x1D16D_01D16D_0000E2, 0x1D16E_01D172_0000D8, 0x1D17B_01D182_0000DC, 0x1D185_01D189_0000E6,
    0x1D18A_01D18B_0000DC, 0x1D1AA_01D1AD_0000E6, 0x1D242_01D244_0000E6, 0x1E000_01E006_0000E6,
    0x1E008_01E018_0000E6, 0x1E01B_01E021_0000E6, 0x1E023_01E024_0000E6, 0x1E026_01E02A_0000E6,
    0x1E130_01E136_0000E6, 0x1E2AE_01E2AE_0000E6, 0x1E2EC_01E2EF_0000E6, 0x1E8D0_01E8D6_0000DC,
    0x1E944_01E949_0000E6, 0x1E94A_01E94A_000007])

/-- The canonical combining class of a character; no mark with a class stands before U+0300. -/
def combiningClass (c : Char) : Nat :=
  if c.toNat < 0x300 then 0 else (labelAt combiningRuns c.toNat).getD 0

end DatasetForm.Text
