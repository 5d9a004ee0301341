import DatasetForm.Text.Packed

/-!
Which characters a quoted text shows as they are. The others (controls, format characters, line and
paragraph separators, spaces other than U+0020, private and unassigned code points of Unicode 14)
are escaped.
-/

set_option autoImplicit false
set_option relaxedAutoImplicit false

namespace DatasetForm.Text

/-- The spans of characters that are not shown as they are, past ASCII. -/
def hiddenSpans : List Span := spans (
  [
    0x7F_0000A0, 0xAD_0000AD, 0x378_000379, 0x380_000383, 0x38B_00038B, 0x38D_00038D,
    0x3A2_0003A2, 0x530_000530, 0x557_000558, 0x58B_00058C, 0x590_000590, 0x5C8_0005CF,
    0x5EB_0005EE, 0x5F5_000605, 0x61C_00061C, 0x6DD_0006DD, 0x70E_00070F, 0x74B_00074C,
    0x7B2_0007BF, 0x7FB_0007FC, 0x82E_00082F, 0x83F_00083F, 0x85C_00085D, 0x85F_00085F,
    0x86B_00086F, 0x88F_000897, 0x8E2_0008E2, 0x984_000984, 0x98D_00098E, 0x991_000992,
    0x9A9_0009A9, 0x9B1_0009B1, 0x9B3_0009B5, 0x9BA_0009BB, 0x9C5_0009C6, 0x9C9_0009CA,
    0x9CF_0009D6, 0x9D8_0009DB, 0x9DE_0009DE, 0x9E4_0009E5, 0x9FF_000A00, 0xA04_000A04,
    0xA0B_000A0E, 0xA11_000A12, 0xA29_000A29, 0xA31_000A31, 0xA34_000A34, 0xA37_000A37,
    0xA3A_000A3B, 0xA3D_000A3D, 0xA43_000A46, 0xA49_000A4A, 0xA4E_000A50, 0xA52_000A58,
    0xA5D_000A5D, 0xA5F_000A65, 0xA77_000A80, 0xA84_000A84, 0xA8E_000A8E, 0xA92_000A92,
    0xAA9_000AA9, 0xAB1_000AB1, 0xAB4_000AB4, 0xABA_000ABB, 0xAC6_000AC6, 0xACA_000ACA,
    0xACE_000ACF, 0xAD1_000ADF, 0xAE4_000AE5, 0xAF2_000AF8, 0xB00_000B00, 0xB04_000B04,
    0xB0D_000B0E, 0xB11_000B12, 0xB29_000B29, 0xB31_000B31, 0xB34_000B34, 0xB3A_000B3B,
    0xB45_000B46, 0xB49_000B4A, 0xB4E_000B54, 0xB58_000B5B, 0xB5E_000B5E, 0xB64_000B65,
    0xB78_000B81, 0xB84_000B84, 0xB8B_000B8D, 0xB91_000B91, 0xB96_000B98, 0xB9B_000B9B,
    0xB9D_000B9D, 0xBA0_000BA2, 0xBA5_000BA7, 0xBAB_000BAD, 0xBBA_000BBD, 0xBC3_000BC5,
    0xBC9_000BC9, 0xBCE_000BCF, 0xBD1_000BD6, 0xBD8_000BE5, 0xBFB_000BFF, 0xC0D_000C0D,
    0xC11_000C11, 0xC29_000C29, 0xC3A_000C3B, 0xC45_000C45, 0xC49_000C49, 0xC4E_000C54,
    0xC57_000C57, 0xC5B_000C5C, 0xC5E_000C5F, 0xC64_000C65, 0xC70_000C76, 0xC8D_000C8D,
    0xC91_000C91, 0xCA9_000CA9, 0xCB4_000CB4, 0xCBA_000CBB, 0xCC5_000CC5, 0xCC9_000CC9,
    0xCCE_000CD4, 0xCD7_000CDC, 0xCDF_000CDF, 0xCE4_000CE5, 0xCF0_000CF0, 0xCF3_000CFF,
    0xD0D_000D0D, 0xD11_000D11, 0xD45_000D45, 0xD49_000D49, 0xD50_000D53, 0xD64_000D65,
    0xD80_000D80, 0xD84_000D84, 0xD97_000D99, 0xDB2_000DB2, 0xDBC_000DBC, 0xDBE_000DBF,
    0xDC7_000DC9, 0xDCB_000DCE, 0xDD5_000DD5, 0xDD7_000DD7, 0xDE0_000DE5, 0xDF0_000DF1,
    0xDF5_000E00, 0xE3B_000E3E, 0xE5C_000E80, 0xE83_000E83, 0xE85_000E85, 0xE8B_000E8B,
    0xEA4_000EA4, 0xEA6_000EA6, 0xEBE_000EBF, 0xEC5_000EC5, 0xEC7_000EC7, 0xECE_000ECF,
    0xEDA_000EDB, 0xEE0_000EFF, 0xF48_000F48, 0xF6D_000F70, 0xF98_000F98, 0xFBD_000FBD,
    0xFCD_000FCD, 0xFDB_000FFF, 0x10C6_0010C6, 0x10C8_0010CC, 0x10CE_0010CF, 0x1249_001249,
    0x124E_00124F, 0x1257_001257, 0x1259_001259, 0x125E_00125F, 0x1289_001289, 0x128E_00128F,
    0x12B1_0012B1, 0x12B6_0012B7, 0x12BF_0012BF, 0x12C1_0012C1, 0x12C6_0012C7, 0x12D7_0012D7,
    0x1311_001311, 0x1316_001317, 0x135B_00135C, 0x137D_00137F, 0x139A_00139F, 0x13F6_0013F7,
    0x13FE_0013FF, 0x1680_001680, 0x169D_00169F, 0x16F9_0016FF, 0x1716_00171E, 0x1737_00173F,
    0x1754_00175F, 0x176D_00176D, 0x1771_001771, 0x1774_00177F, 0x17DE_0017DF, 0x17EA_0017EF,
    0x17FA_0017FF, 0x180E_00180E, 0x181A_00181F, 0x1879_00187F, 0x18AB_0018AF, 0x18F6_0018FF,
    0x191F_00191F, 0x192C_00192F, 0x193C_00193F, 0x1941_001943, 0x196E_00196F, 0x1975_00197F,
    0x19AC_0019AF, 0x19CA_0019CF, 0x19DB_0019DD, 0x1A1C_001A1D, 0x1A5F_001A5F, 0x1A7D_001A7E,
    0x1A8A_001A8F, 0x1A9A_001A9F, 0x1AAE_001AAF, 0x1ACF_001AFF, 0x1B4D_001B4F, 0x1B7F_001B7F,
    0x1BF4_001BFB, 0x1C38_001C3A, 0x1C4A_001C4C, 0x1C89_001C8F, 0x1CBB_001CBC, 0x1CC8_001CCF,
    0x1CFB_001CFF, 0x1F16_001F17, 0x1F1E_001F1F, 0x1F46_001F47, 0x1F4E_001F4F, 0x1F58_001F58,
    0x1F5A_001F5A, 0x1F5C_001F5C, 0x1F5E_001F5E, 0x1F7E_001F7F, 0x1FB5_001FB5, 0x1FC5_001FC5] ++
  [
    0x1FD4_001FD5, 0x1FDC_001FDC, 0x1FF0_001FF1, 0x1FF5_001FF5, 0x1FFF_00200F, 0x2028_00202F,
    0x205F_00206F, 0x2072_002073, 0x208F_00208F, 0x209D_00209F, 0x20C1_0020CF, 0x20F1_0020FF,
    0x218C_00218F, 0x2427_00243F, 0x244B_00245F, 0x2B74_002B75, 0x2B96_002B96, 0x2CF4_002CF8,
    0x2D26_002D26, 0x2D28_002D2C, 0x2D2E_002D2F, 0x2D68_002D6E, 0x2D71_002D7E, 0x2D97_002D9F,
    0x2DA7_002DA7, 0x2DAF_002DAF, 0x2DB7_002DB7, 0x2DBF_002DBF, 0x2DC7_002DC7, 0x2DCF_002DCF,
    0x2DD7_002DD7, 0x2DDF_002DDF, 0x2E5E_002E7F, 0x2E9A_002E9A, 0x2EF4_002EFF, 0x2FD6_002FEF,
    0x2FFC_003000, 0x3040_003040, 0x3097_003098, 0x3100_003104, 0x3130_003130, 0x318F_00318F,
    0x31E4_0031EF, 0x321F_00321F, 0xA48D_00A48F, 0xA4C7_00A4CF, 0xA62C_00A63F, 0xA6F8_00A6FF,
    0xA7CB_00A7CF, 0xA7D2_00A7D2, 0xA7D4_00A7D4, 0xA7DA_00A7F1, 0xA82D_00A82F, 0xA83A_00A83F,
    0xA878_00A87F, 0xA8C6_00A8CD, 0xA8DA_00A8DF, 0xA954_00A95E, 0xA97D_00A97F, 0xA9CE_00A9CE,
    0xA9DA_00A9DD, 0xA9FF_00A9FF, 0xAA37_00AA3F, 0xAA4E_00AA4F, 0xAA5A_00AA5B, 0xAAC3_00AADA,
    0xAAF7_00AB00, 0xAB07_00AB08, 0xAB0F_00AB10, 0xAB17_00AB1F, 0xAB27_00AB27, 0xAB2F_00AB2F,
    0xAB6C_00AB6F, 0xABEE_00ABEF, 0xABFA_00ABFF, 0xD7A4_00D7AF, 0xD7C7_00D7CA, 0xD7FC_00D7FF,
    0xE000_00F8FF, 0xFA6E_00FA6F, 0xFADA_00FAFF, 0xFB07_00FB12, 0xFB18_00FB1C, 0xFB37_00FB37,
    0xFB3D_00FB3D, 0xFB3F_00FB3F, 0xFB42_00FB42, 0xFB45_00FB45, 0xFBC3_00FBD2, 0xFD90_00FD91,
    0xFDC8_00FDCE, 0xFDD0_00FDEF, 0xFE1A_00FE1F, 0xFE53_00FE53, 0xFE67_00FE67, 0xFE6C_00FE6F,
    0xFE75_00FE75, 0xFEFD_00FF00, 0xFFBF_00FFC1, 0xFFC8_00FFC9, 0xFFD0_00FFD1, 0xFFD8_00FFD9,
    0xFFDD_00FFDF, 0xFFE7_00FFE7, 0xFFEF_00FFFB, 0xFFFE_00FFFF, 0x1000C_01000C, 0x10027_010027,
    0x1003B_01003B, 0x1003E_01003E, 0x1004E_01004F, 0x1005E_01007F, 0x100FB_0100FF,
    0x10103_010106, 0x10134_010136, 0x1018F_01018F, 0x1019D_01019F, 0x101A1_0101CF,
    0x101FE_01027F, 0x1029D_01029F, 0x102D1_0102DF, 0x102FC_0102FF, 0x10324_01032C,
    0x1034B_01034F, 0x1037B_01037F, 0x1039E_01039E, 0x103C4_0103C7, 0x103D6_0103FF,
    0x1049E_01049F, 0x104AA_0104AF, 0x104D4_0104D7, 0x104FC_0104FF, 0x10528_01052F,
    0x10564_01056E, 0x1057B_01057B, 0x1058B_01058B, 0x10593_010593, 0x10596_010596,
    0x105A2_0105A2, 0x105B2_0105B2, 0x105BA_0105BA, 0x105BD_0105FF, 0x10737_01073F,
    0x10756_01075F, 0x10768_01077F, 0x10786_010786, 0x107B1_0107B1, 0x107BB_0107FF,
    0x10806_010807, 0x10809_010809, 0x10836_010836, 0x10839_01083B, 0x1083D_01083E,
    0x10856_010856, 0x1089F_0108A6, 0x108B0_0108DF, 0x108F3_0108F3, 0x108F6_0108FA,
    0x1091C_01091E, 0x1093A_01093E, 0x10940_01097F, 0x109B8_0109BB, 0x109D0_0109D1,
    0x10A04_010A04, 0x10A07_010A0B, 0x10A14_010A14, 0x10A18_010A18, 0x10A36_010A37,
    0x10A3B_010A3E, 0x10A49_010A4F, 0x10A59_010A5F, 0x10AA0_010ABF, 0x10AE7_010AEA,
    0x10AF7_010AFF, 0x10B36_010B38, 0x10B56_010B57, 0x10B73_010B77, 0x10B92_010B98,
    0x10B9D_010BA8, 0x10BB0_010BFF, 0x10C49_010C7F, 0x10CB3_010CBF, 0x10CF3_010CF9,
    0x10D28_010D2F, 0x10D3A_010E5F, 0x10E7F_010E7F, 0x10EAA_010EAA, 0x10EAE_010EAF,
    0x10EB2_010EFF, 0x10F28_010F2F, 0x10F5A_010F6F, 0x10F8A_010FAF, 0x10FCC_010FDF,
    0x10FF7_010FFF, 0x1104E_011051, 0x11076_01107E, 0x110BD_0110BD, 0x110C3_0110CF,
    0x110E9_0110EF, 0x110FA_0110FF, 0x11135_011135, 0x11148_01114F, 0x11177_01117F,
    0x111E0_0111E0, 0x111F5_0111FF, 0x11212_011212, 0x1123F_01127F, 0x11287_011287,
    0x11289_011289, 0x1128E_01128E, 0x1129E_01129E, 0x112AA_0112AF, 0x112EB_0112EF,
    0x112FA_0112FF, 0x11304_011304, 0x1130D_01130E, 0x11311_011312, 0x11329_011329,
    0x11331_011331, 0x11334_011334, 0x1133A_01133A, 0x11345_011346, 0x11349_01134A,
    0x1134E_01134F, 0x11351_011356, 0x11358_01135C, 0x11364_011365, 0x1136D_01136F,
    0x11375_0113FF, 0x1145C_01145C, 0x11462_01147F, 0x114C8_0114CF, 0x114DA_01157F,
    0x115B6_0115B7, 0x115DE_0115FF, 0x11645_01164F, 0x1165A_01165F, 0x1166D_01167F,
    0x116BA_0116BF, 0x116CA_0116FF] ++
  [
    0x1171B_01171C, 0x1172C_01172F, 0x11747_0117FF, 0x1183C_01189F, 0x118F3_0118FE,
    0x11907_011908, 0x1190A_01190B, 0x11914_011914, 0x11917_011917, 0x11936_011936,
    0x11939_01193A, 0x11947_01194F, 0x1195A_01199F, 0x119A8_0119A9, 0x119D8_0119D9,
    0x119E5_0119FF, 0x11A48_011A4F, 0x11AA3_011AAF, 0x11AF9_011BFF, 0x11C09_011C09,
    0x11C37_011C37, 0x11C46_011C4F, 0x11C6D_011C6F, 0x11C90_011C91, 0x11CA8_011CA8,
    0x11CB7_011CFF, 0x11D07_011D07, 0x11D0A_011D0A, 0x11D37_011D39, 0x11D3B_011D3B,
    0x11D3E_011D3E, 0x11D48_011D4F, 0x11D5A_011D5F, 0x11D66_011D66, 0x11D69_011D69,
    0x11D8F_011D8F, 0x11D92_011D92, 0x11D99_011D9F, 0x11DAA_011EDF, 0x11EF9_011FAF,
    0x11FB1_011FBF, 0x11FF2_011FFE, 0x1239A_0123FF, 0x1246F_01246F, 0x12475_01247F,
    0x12544_012F8F, 0x12FF3_012FFF, 0x1342F_0143FF, 0x14647_0167FF, 0x16A39_016A3F,
    0x16A5F_016A5F, 0x16A6A_016A6D, 0x16ABF_016ABF, 0x16ACA_016ACF, 0x16AEE_016AEF,
    0x16AF6_016AFF, 0x16B46_016B4F, 0x16B5A_016B5A, 0x16B62_016B62, 0x16B78_016B7C,
    0x16B90_016E3F, 0x16E9B_016EFF, 0x16F4B_016F4E, 0x16F88_016F8E, 0x16FA0_016FDF,
    0x16FE5_016FEF, 0x16FF2_016FFF, 0x187F8_0187FF, 0x18CD6_018CFF, 0x18D09_01AFEF,
    0x1AFF4_01AFF4, 0x1AFFC_01AFFC, 0x1AFFF_01AFFF, 0x1B123_01B14F, 0x1B153_01B163,
    0x1B168_01B16F, 0x1B2FC_01BBFF, 0x1BC6B_01BC6F, 0x1BC7D_01BC7F, 0x1BC89_01BC8F,
    0x1BC9A_01BC9B, 0x1BCA0_01CEFF, 0x1CF2E_01CF2F, 0x1CF47_01CF4F, 0x1CFC4_01CFFF,
    0x1D0F6_01D0FF, 0x1D127_01D128, 0x1D173_01D17A, 0x1D1EB_01D1FF, 0x1D246_01D2DF,
    0x1D2F4_01D2FF, 0x1D357_01D35F, 0x1D379_01D3FF, 0x1D455_01D455, 0x1D49D_01D49D,
    0x1D4A0_01D4A1, 0x1D4A3_01D4A4, 0x1D4A7_01D4A8, 0x1D4AD_01D4AD, 0x1D4BA_01D4BA,
    0x1D4BC_01D4BC, 0x1D4C4_01D4C4, 0x1D506_01D506, 0x1D50B_01D50C, 0x1D515_01D515,
    0x1D51D_01D51D, 0x1D53A_01D53A, 0x1D53F_01D53F, 0x1D545_01D545, 0x1D547_01D549,
    0x1D551_01D551, 0x1D6A6_01D6A7, 0x1D7CC_01D7CD, 0x1DA8C_01DA9A, 0x1DAA0_01DAA0,
    0x1DAB0_01DEFF, 0x1DF1F_01DFFF, 0x1E007_01E007, 0x1E019_01E01A, 0x1E022_01E022,
    0x1E025_01E025, 0x1E02B_01E0FF, 0x1E12D_01E12F, 0x1E13E_01E13F, 0x1E14A_01E14D,
    0x1E150_01E28F, 0x1E2AF_01E2BF, 0x1E2FA_01E2FE, 0x1E300_01E7DF, 0x1E7E7_01E7E7,
    0x1E7EC_01E7EC, 0x1E7EF_01E7EF, 0x1E7FF_01E7FF, 0x1E8C5_01E8C6, 0x1E8D7_01E8FF,
    0x1E94C_01E94F, 0x1E95A_01E95D, 0x1E960_01EC70, 0x1ECB5_01ED00, 0x1ED3E_01EDFF,
    0x1EE04_01EE04, 0x1EE20_01EE20, 0x1EE23_01EE23, 0x1EE25_01EE26, 0x1EE28_01EE28,
    0x1EE33_01EE33, 0x1EE38_01EE38, 0x1EE3A_01EE3A, 0x1EE3C_01EE41, 0x1EE43_01EE46,
    0x1EE48_01EE48, 0x1EE4A_01EE4A, 0x1EE4C_01EE4C, 0x1EE50_01EE50, 0x1EE53_01EE53,
    0x1EE55_01EE56, 0x1EE58_01EE58, 0x1EE5A_01EE5A, 0x1EE5C_01EE5C, 0x1EE5E_01EE5E,
    0x1EE60_01EE60, 0x1EE63_01EE63, 0x1EE65_01EE66, 0x1EE6B_01EE6B, 0x1EE73_01EE73,
    0x1EE78_01EE78, 0x1EE7D_01EE7D, 0x1EE7F_01EE7F, 0x1EE8A_01EE8A, 0x1EE9C_01EEA0,
    0x1EEA4_01EEA4, 0x1EEAA_01EEAA, 0x1EEBC_01EEEF, 0x1EEF2_01EFFF, 0x1F02C_01F02F,
    0x1F094_01F09F, 0x1F0AF_01F0B0, 0x1F0C0_01F0C0, 0x1F0D0_01F0D0, 0x1F0F6_01F0FF,
    0x1F1AE_01F1E5, 0x1F203_01F20F, 0x1F23C_01F23F, 0x1F249_01F24F, 0x1F252_01F25F,
    0x1F266_01F2FF, 0x1F6D8_01F6DC, 0x1F6ED_01F6EF, 0x1F6FD_01F6FF, 0x1F774_01F77F,
    0x1F7D9_01F7DF, 0x1F7EC_01F7EF, 0x1F7F1_01F7FF, 0x1F80C_01F80F, 0x1F848_01F84F,
    0x1F85A_01F85F, 0x1F888_01F88F, 0x1F8AE_01F8AF, 0x1F8B2_01F8FF, 0x1FA54_01FA5F,
    0x1FA6E_01FA6F, 0x1FA75_01FA77, 0x1FA7D_01FA7F, 0x1FA87_01FA8F, 0x1FAAD_01FAAF,
    0x1FABB_01FABF, 0x1FAC6_01FACF, 0x1FADA_01FADF, 0x1FAE8_01FAEF, 0x1FAF7_01FAFF,
    0x1FB93_01FB93, 0x1FBCB_01FBEF, 0x1FBFA_01FFFF, 0x2A6E0_02A6FF, 0x2B739_02B73F,
    0x2B81E_02B81F, 0x2CEA2_02CEAF, 0x2EBE1_02F7FF, 0x2FA1E_02FFFF, 0x3134B_0E00FF, 0xE01F0_10FFFF])

/-- Is the character shown as it is in a quoted text? -/
def isPrintable (c : Char) : Bool :=
  if c.toNat < 0x7F then 0x20 ≤ c.toNat else !covers hiddenSpans c.toNat

end DatasetForm.Text
