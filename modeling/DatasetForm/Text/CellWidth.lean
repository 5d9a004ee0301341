import DatasetForm.Text.Packed

/-!
How many columns of a terminal a text takes, by the widths of Unicode 17. Wide characters (East Asian width
W and F) take two columns; controls, marks, format characters, tones of skin, the vowels and finals of
conjoining Hangul and all that is ignored by default take none; the others take one. A joiner draws the
character after it into the one before it, and a sign for pictures makes some narrow characters wide.
-/

set_option autoImplicit false
set_option relaxedAutoImplicit false

namespace DatasetForm.Text

/-- The spans of wide characters. -/
def wideSpans : List Span := spans (
  [
    0x1100_00115F, 0x231A_00231B, 0x2329_00232A, 0x23E9_0023EC, 0x23F0_0023F0, 0x23F3_0023F3,
    0x25FD_0025FE, 0x2614_002615, 0x2630_002637, 0x2648_002653, 0x267F_00267F, 0x268A_00268F,
    0x2693_002693, 0x26A1_0026A1, 0x26AA_0026AB, 0x26BD_0026BE, 0x26C4_0026C5, 0x26CE_0026CE,
    0x26D4_0026D4, 0x26EA_0026EA, 0x26F2_0026F3, 0x26F5_0026F5, 0x26FA_0026FA, 0x26FD_0026FD,
    0x2705_002705, 0x270A_00270B, 0x2728_002728, 0x274C_00274C, 0x274E_00274E, 0x2753_002755,
    0x2757_002757, 0x2795_002797, 0x27B0_0027B0, 0x27BF_0027BF, 0x2B1B_002B1C, 0x2B50_002B50,
    0x2B55_002B55, 0x2E80_002E99, 0x2E9B_002EF3, 0x2F00_002FD5, 0x2FF0_003029, 0x3030_00303E,
    0x3041_003096, 0x309B_0030FF, 0x3105_00312F, 0x3131_003163, 0x3165_00318E, 0x3190_0031E5,
    0x31EF_00321E, 0x3220_003247, 0x3250_00A48C, 0xA490_00A4C6, 0xA960_00A97C, 0xAC00_00D7A3,
    0xF900_00FAFF, 0xFE10_00FE19, 0xFE30_00FE52, 0xFE54_00FE66, 0xFE68_00FE6B, 0xFF01_00FF60,
    0xFFE0_00FFE6, 0x16FE0_016FE3, 0x16FF2_016FF6, 0x17000_018CD5, 0x18CFF_018D1E, 0x18D80_018DF2,
    0x1AFF0_01AFF3, 0x1AFF5_01AFFB, 0x1AFFD_01AFFE, 0x1B000_01B122, 0x1B132_01B132,
    0x1B150_01B152, 0x1B155_01B155, 0x1B164_01B167, 0x1B170_01B2FB, 0x1D300_01D356,
    0x1D360_01D376, 0x1F004_01F004, 0x1F0CF_01F0CF, 0x1F18E_01F18E, 0x1F191_01F19A,
    0x1F200_01F202, 0x1F210_01F23B, 0x1F240_01F248, 0x1F250_01F251, 0x1F260_01F265,
    0x1F300_01F320, 0x1F32D_01F335, 0x1F337_01F37C, 0x1F37E_01F393, 0x1F3A0_01F3CA,
    0x1F3CF_01F3D3, 0x1F3E0_01F3F0, 0x1F3F4_01F3F4, 0x1F3F8_01F3FA, 0x1F400_01F43E,
    0x1F440_01F440, 0x1F442_01F4FC, 0x1F4FF_01F53D, 0x1F54B_01F54E, 0x1F550_01F567,
    0x1F57A_01F57A, 0x1F595_01F596, 0x1F5A4_01F5A4, 0x1F5FB_01F64F, 0x1F680_01F6C5,
    0x1F6CC_01F6CC, 0x1F6D0_01F6D2, 0x1F6D5_01F6D8, 0x1F6DC_01F6DF, 0x1F6EB_01F6EC,
    0x1F6F4_01F6FC, 0x1F7E0_01F7EB, 0x1F7F0_01F7F0, 0x1F90C_01F93A, 0x1F93C_01F945,
    0x1F947_01F9FF, 0x1FA70_01FA7C, 0x1FA80_01FA8A, 0x1FA8E_01FAC6, 0x1FAC8_01FAC8,
    0x1FACD_01FADC, 0x1FADF_01FAEA, 0x1FAEF_01FAF8, 0x20000_02FFFD, 0x30000_03FFFD])

/-- The spans of characters that take no column, from U+0300 on. -/
def zeroWidthSpans : List Span := spans (
  [
    0x300_00036F, 0x483_000489, 0x591_0005BD, 0x5BF_0005BF, 0x5C1_0005C2, 0x5C4_0005C5,
    0x5C7_0005C7, 0x610_00061A, 0x61C_00061C, 0x64B_00065F, 0x670_000670, 0x6D6_0006DC,
    0x6DF_0006E4, 0x6E7_0006E8, 0x6EA_0006ED, 0x711_000711, 0x730_00074A, 0x7A6_0007B0,
    0x7EB_0007F3, 0x7FD_0007FD, 0x816_000819, 0x81B_000823, 0x825_000827, 0x829_00082D,
    0x859_00085B, 0x897_00089F, 0x8CA_0008E1, 0x8E3_000903, 0x93A_00093C, 0x93E_00094F,
    0x951_000957, 0x962_000963, 0x981_000983, 0x9BC_0009BC, 0x9BE_0009C4, 0x9C7_0009C8,
    0x9CB_0009CD, 0x9D7_0009D7, 0x9E2_0009E3, 0x9FE_0009FE, 0xA01_000A03, 0xA3C_000A3C,
    0xA3E_000A42, 0xA47_000A48, 0xA4B_000A4D, 0xA51_000A51, 0xA70_000A71, 0xA75_000A75,
    0xA81_000A83, 0xABC_000ABC, 0xABE_000AC5, 0xAC7_000AC9, 0xACB_000ACD, 0xAE2_000AE3,
    0xAFA_000AFF, 0xB01_000B03, 0xB3C_000B3C, 0xB3E_000B44, 0xB47_000B48, 0xB4B_000B4D,
    0xB55_000B57, 0xB62_000B63, 0xB82_000B82, 0xBBE_000BC2, 0xBC6_000BC8, 0xBCA_000BCD,
    0xBD7_000BD7, 0xC00_000C04, 0xC3C_000C3C, 0xC3E_000C44, 0xC46_000C48, 0xC4A_000C4D,
    0xC55_000C56, 0xC62_000C63, 0xC81_000C83, 0xCBC_000CBC, 0xCBE_000CC4, 0xCC6_000CC8,
    0xCCA_000CCD, 0xCD5_000CD6, 0xCE2_000CE3, 0xCF3_000CF3, 0xD00_000D03, 0xD3B_000D3C,
    0xD3E_000D44, 0xD46_000D48, 0xD4A_000D4D, 0xD57_000D57, 0xD62_000D63, 0xD81_000D83,
    0xDCA_000DCA, 0xDCF_000DD4, 0xDD6_000DD6, 0xDD8_000DDF, 0xDF2_000DF3, 0xE31_000E31,
    0xE34_000E3A, 0xE47_000E4E, 0xEB1_000EB1, 0xEB4_000EBC, 0xEC8_000ECE, 0xF18_000F19,
    0xF35_000F35, 0xF37_000F37, 0xF39_000F39, 0xF3E_000F3F, 0xF71_000F84, 0xF86_000F87,
    0xF8D_000F97, 0xF99_000FBC, 0xFC6_000FC6, 0x102B_00103E, 0x1056_001059, 0x105E_001060,
    0x1062_001064, 0x1067_00106D, 0x1071_001074, 0x1082_00108D, 0x108F_00108F, 0x109A_00109D,
    0x1160_0011FF, 0x135D_00135F, 0x1712_001715, 0x1732_001734, 0x1752_001753, 0x1772_001773,
    0x17B4_0017D3, 0x17DD_0017DD, 0x180B_00180F, 0x1885_001886, 0x18A9_0018A9, 0x1920_00192B,
    0x1930_00193B, 0x1A17_001A1B, 0x1A55_001A5E, 0x1A60_001A7C, 0x1A7F_001A7F, 0x1AB0_001ADD,
    0x1AE0_001AEB, 0x1B00_001B04, 0x1B34_001B44, 0x1B6B_001B73, 0x1B80_001B82, 0x1BA1_001BAD,
    0x1BE6_001BF3, 0x1C24_001C37, 0x1CD0_001CD2, 0x1CD4_001CE8, 0x1CED_001CED, 0x1CF4_001CF4,
    0x1CF7_001CF9, 0x1DC0_001DFF, 0x200B_00200F, 0x2028_00202E, 0x2060_00206F, 0x20D0_0020F0,
    0x2CEF_002CF1, 0x2D7F_002D7F, 0x2DE0_002DFF, 0x302A_00302F, 0x3099_00309A, 0x3164_003164,
    0xA66F_00A672, 0xA674_00A67D, 0xA69E_00A69F, 0xA6F0_00A6F1, 0xA802_00A802, 0xA806_00A806,
    0xA80B_00A80B, 0xA823_00A827, 0xA82C_00A82C, 0xA880_00A881, 0xA8B4_00A8C5, 0xA8E0_00A8F1,
    0xA8FF_00A8FF, 0xA926_00A92D, 0xA947_00A953, 0xA980_00A983, 0xA9B3_00A9C0, 0xA9E5_00A9E5,
    0xAA29_00AA36, 0xAA43_00AA43, 0xAA4C_00AA4D, 0xAA7B_00AA7D, 0xAAB0_00AAB0, 0xAAB2_00AAB4,
    0xAAB7_00AAB8, 0xAABE_00AABF, 0xAAC1_00AAC1, 0xAAEB_00AAEF, 0xAAF5_00AAF6, 0xABE3_00ABEA,
    0xABEC_00ABED, 0xD7B0_00D7FF, 0xFB1E_00FB1E, 0xFE00_00FE0F, 0xFE20_00FE2F, 0xFEFF_00FEFF,
    0xFFA0_00FFA0, 0xFFF0_00FFFB, 0x101FD_0101FD, 0x102E0_0102E0, 0x10376_01037A, 0x10A01_010A03,
    0x10A05_010A06, 0x10A0C_010A0F, 0x10A38_010A3A, 0x10A3F_010A3F, 0x10AE5_010AE6,
    0x10D24_010D27, 0x10D69_010D6D, 0x10EAB_010EAC, 0x10EFA_010EFF, 0x10F46_010F50,
    0x10F82_010F85, 0x11000_011002, 0x11038_011046, 0x11070_011070, 0x11073_011074,
    0x1107F_011082, 0x110B0_0110BA, 0x110C2_0110C2, 0x11100_011102, 0x11127_011134,
    0x11145_011146, 0x11173_011173, 0x11180_011182, 0x111B3_0111C0, 0x111C9_0111CC,
    0x111CE_0111CF, 0x1122C_011237, 0x1123E_01123E, 0x11241_011241, 0x112DF_0112EA,
    0x11300_011303, 0x1133B_01133C, 0x1133E_011344, 0x11347_011348, 0x1134B_01134D, 0x11357_011357] ++
  [
    0x11362_011363, 0x11366_01136C, 0x11370_011374, 0x113B8_0113C0, 0x113C2_0113C2,
    0x113C5_0113C5, 0x113C7_0113CA, 0x113CC_0113D0, 0x113D2_0113D2, 0x113E1_0113E2,
    0x11435_011446, 0x1145E_01145E, 0x114B0_0114C3, 0x115AF_0115B5, 0x115B8_0115C0,
    0x115DC_0115DD, 0x11630_011640, 0x116AB_0116B7, 0x1171D_01172B, 0x1182C_01183A,
    0x11930_011935, 0x11937_011938, 0x1193B_01193E, 0x11940_011940, 0x11942_011943,
    0x119D1_0119D7, 0x119DA_0119E0, 0x119E4_0119E4, 0x11A01_011A0A, 0x11A33_011A39,
    0x11A3B_011A3E, 0x11A47_011A47, 0x11A51_011A5B, 0x11A8A_011A99, 0x11B60_011B67,
    0x11C2F_011C36, 0x11C38_011C3F, 0x11C92_011CA7, 0x11CA9_011CB6, 0x11D31_011D36,
    0x11D3A_011D3A, 0x11D3C_011D3D, 0x11D3F_011D45, 0x11D47_011D47, 0x11D8A_011D8E,
    0x11D90_011D91, 0x11D93_011D97, 0x11EF3_011EF6, 0x11F00_011F01, 0x11F03_011F03,
    0x11F34_011F3A, 0x11F3E_011F42, 0x11F5A_011F5A, 0x13430_013440, 0x13447_013455,
    0x1611E_01612F, 0x16AF0_016AF4, 0x16B30_016B36, 0x16F4F_016F4F, 0x16F51_016F87,
    0x16F8F_016F92, 0x16FE4_016FE4, 0x16FF0_016FF1, 0x1BC9D_01BC9E, 0x1BCA0_01BCA3,
    0x1CF00_01CF2D, 0x1CF30_01CF46, 0x1D165_01D169, 0x1D16D_01D182, 0x1D185_01D18B,
    0x1D1AA_01D1AD, 0x1D242_01D244, 0x1DA00_01DA36, 0x1DA3B_01DA6C, 0x1DA75_01DA75,
    0x1DA84_01DA84, 0x1DA9B_01DA9F, 0x1DAA1_01DAAF, 0x1E000_01E006, 0x1E008_01E018,
    0x1E01B_01E021, 0x1E023_01E024, 0x1E026_01E02A, 0x1E08F_01E08F, 0x1E130_01E136,
    0x1E2AE_01E2AE, 0x1E2EC_01E2EF, 0x1E4EC_01E4EF, 0x1E5EE_01E5EF, 0x1E6E3_01E6E3,
    0x1E6E6_01E6E6, 0x1E6EE_01E6EF, 0x1E6F5_01E6F5, 0x1E8D0_01E8D6, 0x1E944_01E94A,
    0x1F3FB_01F3FF, 0xE0000_0E0FFF])

/-- The spans of narrow characters that are wide when they are drawn as pictures. -/
def pictureSpans : List Span := spans (
  [
    0x23_000023, 0x2A_00002A, 0x30_000039, 0xA9_0000A9, 0xAE_0000AE, 0x203C_00203C, 0x2049_002049,
    0x2122_002122, 0x2139_002139, 0x2194_002199, 0x21A9_0021AA, 0x2328_002328, 0x23CF_0023CF,
    0x23ED_0023EF, 0x23F1_0023F2, 0x23F8_0023FA, 0x24C2_0024C2, 0x25AA_0025AB, 0x25B6_0025B6,
    0x25C0_0025C0, 0x25FB_0025FC, 0x2600_002604, 0x260E_00260E, 0x2611_002611, 0x2618_002618,
    0x261D_00261D, 0x2620_002620, 0x2622_002623, 0x2626_002626, 0x262A_00262A, 0x262E_00262F,
    0x2638_00263A, 0x2640_002640, 0x2642_002642, 0x265F_002660, 0x2663_002663, 0x2665_002666,
    0x2668_002668, 0x267B_00267B, 0x267E_00267E, 0x2692_002692, 0x2694_002697, 0x2699_002699,
    0x269B_00269C, 0x26A0_0026A0, 0x26A7_0026A7, 0x26B0_0026B1, 0x26C8_0026C8, 0x26CF_0026CF,
    0x26D1_0026D1, 0x26D3_0026D3, 0x26E9_0026E9, 0x26F0_0026F1, 0x26F4_0026F4, 0x26F7_0026F9,
    0x2702_002702, 0x2708_002709, 0x270C_00270D, 0x270F_00270F, 0x2712_002712, 0x2714_002714,
    0x2716_002716, 0x271D_00271D, 0x2721_002721, 0x2733_002734, 0x2744_002744, 0x2747_002747,
    0x2763_002764, 0x27A1_0027A1, 0x2934_002935, 0x2B05_002B07, 0x1F170_01F171, 0x1F17E_01F17F,
    0x1F321_01F321, 0x1F324_01F32C, 0x1F336_01F336, 0x1F37D_01F37D, 0x1F396_01F397,
    0x1F399_01F39B, 0x1F39E_01F39F, 0x1F3CB_01F3CE, 0x1F3D4_01F3DF, 0x1F3F3_01F3F3,
    0x1F3F5_01F3F5, 0x1F3F7_01F3F7, 0x1F43F_01F43F, 0x1F441_01F441, 0x1F4FD_01F4FD,
    0x1F549_01F54A, 0x1F56F_01F570, 0x1F573_01F579, 0x1F587_01F587, 0x1F58A_01F58D,
    0x1F590_01F590, 0x1F5A5_01F5A5, 0x1F5A8_01F5A8, 0x1F5B1_01F5B2, 0x1F5BC_01F5BC,
    0x1F5C2_01F5C4, 0x1F5D1_01F5D3, 0x1F5DC_01F5DE, 0x1F5E1_01F5E1, 0x1F5E3_01F5E3,
    0x1F5E8_01F5E8, 0x1F5EF_01F5EF, 0x1F5F3_01F5F3, 0x1F5FA_01F5FA, 0x1F6CB_01F6CB,
    0x1F6CD_01F6CF, 0x1F6E0_01F6E5, 0x1F6E9_01F6E9, 0x1F6F0_01F6F0, 0x1F6F3_01F6F3])

/-- The columns that a character takes by itself. -/
def cellWidth (c : Char) : Nat :=
  if c.toNat < 0x300 then (if c.toNat < 0x20 || (0x7F ≤ c.toNat && c.toNat < 0xA0) then 0 else 1)
  else if covers zeroWidthSpans c.toNat then 0
  else if covers wideSpans c.toNat then 2
  else 1

/-- Is the character wide when it is drawn as a picture? -/
def isPicture (c : Char) : Bool :=
  covers pictureSpans c.toNat

/-- The character that joins its neighbours into one. -/
def joiner : Char := '\u200D'

/-- The sign that the character before it is drawn as a picture. -/
def pictureSign : Char := '\uFE0F'

/-- The columns that the rest of a text takes after `last`, the last character with a width that no sign has
changed. -/
def columnsAfter : (last : Option Char) → List Char → Nat
  | _, [] => 0
  | last, c :: cs =>
    if c == joiner then
      match cs with
      | [] => 0
      | _ :: cs => columnsAfter last cs
    else if c == pictureSign then (if last.any isPicture then 1 else 0) + columnsAfter none cs
    else if cellWidth c == 0 then columnsAfter last cs
    else cellWidth c + columnsAfter (some c) cs

/-- The columns that a text takes. -/
def columns (cs : List Char) : Nat :=
  columnsAfter none cs

/-- Characters that are drawn in one place, last first, and the columns that they take. -/
structure Glyph where
  drawn : List Char
  width : Nat

/-- The text of glyphs, the last of which is first. -/
def textOfGlyphs (glyphs : List Glyph) : List Char :=
  (glyphs.flatMap Glyph.drawn).reverse

/-- Add characters to the last glyph, and columns to its width. -/
def extendGlyph (drawn : List Char) (more : Nat) : List Glyph → List Glyph
  | [] => [⟨drawn, more⟩]
  | glyph :: glyphs => ⟨drawn ++ glyph.drawn, glyph.width + more⟩ :: glyphs

/-- The glyphs of a text, last first; `done` are those before the text, and `last` is as above. -/
def glyphsAfter (done : List Glyph) (last : Option Char) : List Char → List Glyph
  | [] => done
  | c :: cs =>
    if c == joiner then
      match done, cs with
      | _, [] => extendGlyph [c] 0 done
      | [], d :: cs => glyphsAfter [⟨[c], 0⟩] last (d :: cs)
      | _, d :: cs => glyphsAfter (extendGlyph [d, c] 0 done) last cs
    else if c == pictureSign then
      if last.any isPicture then glyphsAfter (extendGlyph [c] 1 done) none cs
      else glyphsAfter (extendGlyph [c] 0 done) last cs
    else if cellWidth c == 0 then glyphsAfter (extendGlyph [c] 0 done) last cs
    else glyphsAfter (⟨[c], cellWidth c⟩ :: done) (some c) cs

def glyphs (cs : List Char) : List Glyph :=
  (glyphsAfter [] none cs).reverse

end DatasetForm.Text
