import HostLookup.Text.Packed

/-! Characters that count: the digits, letters and signs of the general categories of numbers. -/
namespace HostLookup.Text
open Packed

/-- Rows of twelve-digit intervals, in order. -/
def numericRows : List Nat :=
  [0x000030000039_0000B20000B3_0000B90000B9_0000BC0000BE_000660000669_0006F00006F9_0007C00007C9,
   0x00096600096F_0009E60009EF_0009F40009F9_000A66000A6F_000AE6000AEF_000B66000B6F_000B72000B77,
   0x000BE6000BF2_000C66000C6F_000C78000C7E_000CE6000CEF_000D58000D5E_000D66000D78_000DE6000DEF,
   0x000E50000E59_000ED0000ED9_000F20000F33_001040001049_001090001099_00136900137C_0016EE0016F0,
   0x0017E00017E9_0017F00017F9_001810001819_00194600194F_0019D00019DA_001A80001A89_001A90001A99,
   0x001B50001B59_001BB0001BB9_001C40001C49_001C50001C59_002070002070_002074002079_002080002089,
   0x002150002182_002185002189_00246000249B_0024EA0024FF_002776002793_002CFD002CFD_003007003007,
   0x003021003029_00303800303A_003192003195_003220003229_00324800324F_00325100325F_003280003289,
   0x0032B10032BF_00A62000A629_00A6E600A6EF_00A83000A835_00A8D000A8D9_00A90000A909_00A9D000A9D9,
   0x00A9F000A9F9_00AA5000AA59_00ABF000ABF9_00FF1000FF19_010107010133_010140010178_01018A01018B,
   0x0102E10102FB_010320010323_010341010341_01034A01034A_0103D10103D5_0104A00104A9_01085801085F,
   0x01087901087F_0108A70108AF_0108FB0108FF_01091601091B_0109BC0109BD_0109C00109CF_0109D20109FF,
   0x010A40010A48_010A7D010A7E_010A9D010A9F_010AEB010AEF_010B58010B5F_010B78010B7F_010BA9010BAF,
   0x010CFA010CFF_010D30010D39_010D40010D49_010E60010E7E_010F1D010F26_010F51010F54_010FC5010FCB,
   0x01105201106F_0110F00110F9_01113601113F_0111D00111D9_0111E10111F4_0112F00112F9_011450011459,
   0x0114D00114D9_011650011659_0116C00116C9_0116D00116E3_01173001173B_0118E00118F2_011950011959,
   0x011BF0011BF9_011C50011C6C_011D50011D59_011DA0011DA9_011DE0011DE9_011F50011F59_011FC0011FD4,
   0x01240001246E_016130016139_016A60016A69_016AC0016AC9_016B50016B59_016B5B016B61_016D70016D79,
   0x016E80016E96_016FF4016FF6_01CCF001CCF9_01D2C001D2D3_01D2E001D2F3_01D36001D378_01D7CE01D7FF,
   0x01E14001E149_01E2F001E2F9_01E4F001E4F9_01E5F101E5FA_01E8C701E8CF_01E95001E959_01EC7101ECAB,
   0x01ECAD01ECAF_01ECB101ECB4_01ED0101ED2D_01ED2F01ED3D_01F10001F10C_01FBF001FBF9]

def numerics : List Interval :=
  intervals numericRows

def isNumeric (c : Char) : Bool :=
  covers numerics c

end HostLookup.Text
