/-! Canonical decomposition and composition of Unicode 18.0, as packed rows. -/
namespace HostLookup.Idna

/-- Full canonical decompositions, as entries of seven-digit fields; Hangul syllables are computed. -/
def decompositionRows : List Nat :=
  [0x04000C0_0000041_0000300_04000C1_0000041_0000301_04000C2_0000041_0000302_04000C3_0000041_0000303,
   0x04000C4_0000041_0000308_04000C5_0000041_000030A_04000C7_0000043_0000327_04000C8_0000045_0000300,
   0x04000C9_0000045_0000301_04000CA_0000045_0000302_04000CB_0000045_0000308_04000CC_0000049_0000300,
   0x04000CD_0000049_0000301_04000CE_0000049_0000302_04000CF_0000049_0000308_04000D1_000004E_0000303,
   0x04000D2_000004F_0000300_04000D3_000004F_0000301_04000D4_000004F_0000302_04000D5_000004F_0000303,
   0x04000D6_000004F_0000308_04000D9_0000055_0000300_04000DA_0000055_0000301_04000DB_0000055_0000302,
   0x04000DC_0000055_0000308_04000DD_0000059_0000301_04000E0_0000061_0000300_04000E1_0000061_0000301,
   0x04000E2_0000061_0000302_04000E3_0000061_0000303_04000E4_0000061_0000308_04000E5_0000061_000030A,
   0x04000E7_0000063_0000327_04000E8_0000065_0000300_04000E9_0000065_0000301_04000EA_0000065_0000302,
   0x04000EB_0000065_0000308_04000EC_0000069_0000300_04000ED_0000069_0000301_04000EE_0000069_0000302,
   0x04000EF_0000069_0000308_04000F1_000006E_0000303_04000F2_000006F_0000300_04000F3_000006F_0000301,
   0x04000F4_000006F_0000302_04000F5_000006F_0000303_04000F6_000006F_0000308_04000F9_0000075_0000300,
   0x04000FA_0000075_0000301_04000FB_0000075_0000302_04000FC_0000075_0000308_04000FD_0000079_0000301,
   0x04000FF_0000079_0000308_0400100_0000041_0000304_0400101_0000061_0000304_0400102_0000041_0000306,
   0x0400103_0000061_0000306_0400104_0000041_0000328_0400105_0000061_0000328_0400106_0000043_0000301,
   0x0400107_0000063_0000301_0400108_0000043_0000302_0400109_0000063_0000302_040010A_0000043_0000307,
   0x040010B_0000063_0000307_040010C_0000043_000030C_040010D_0000063_000030C_040010E_0000044_000030C,
   0x040010F_0000064_000030C_0400112_0000045_0000304_0400113_0000065_0000304_0400114_0000045_0000306,
   0x0400115_0000065_0000306_0400116_0000045_0000307_0400117_0000065_0000307_0400118_0000045_0000328,
   0x0400119_0000065_0000328_040011A_0000045_000030C_040011B_0000065_000030C_040011C_0000047_0000302,
   0x040011D_0000067_0000302_040011E_0000047_0000306_040011F_0000067_0000306_0400120_0000047_0000307,
   0x0400121_0000067_0000307_0400122_0000047_0000327_0400123_0000067_0000327_0400124_0000048_0000302,
   0x0400125_0000068_0000302_0400128_0000049_0000303_0400129_0000069_0000303_040012A_0000049_0000304,
   0x040012B_0000069_0000304_040012C_0000049_0000306_040012D_0000069_0000306_040012E_0000049_0000328,
   0x040012F_0000069_0000328_0400130_0000049_0000307_0400134_000004A_0000302_0400135_000006A_0000302,
   0x0400136_000004B_0000327_0400137_000006B_0000327_0400139_000004C_0000301_040013A_000006C_0000301,
   0x040013B_000004C_0000327_040013C_000006C_0000327_040013D_000004C_000030C_040013E_000006C_000030C,
   0x0400143_000004E_0000301_0400144_000006E_0000301_0400145_000004E_0000327_0400146_000006E_0000327,
   0x0400147_000004E_000030C_0400148_000006E_000030C_040014C_000004F_0000304_040014D_000006F_0000304,
   0x040014E_000004F_0000306_040014F_000006F_0000306_0400150_000004F_000030B_0400151_000006F_000030B,
   0x0400154_0000052_0000301_0400155_0000072_0000301_0400156_0000052_0000327_0400157_0000072_0000327,
   0x0400158_0000052_000030C_0400159_0000072_000030C_040015A_0000053_0000301_040015B_0000073_0000301,
   0x040015C_0000053_0000302_040015D_0000073_0000302_040015E_0000053_0000327_040015F_0000073_0000327,
   0x0400160_0000053_000030C_0400161_0000073_000030C_0400162_0000054_0000327_0400163_0000074_0000327,
   0x0400164_0000054_000030C_0400165_0000074_000030C_0400168_0000055_0000303_0400169_0000075_0000303,
   0x040016A_0000055_0000304_040016B_0000075_0000304_040016C_0000055_0000306_040016D_0000075_0000306,
   0x040016E_0000055_000030A_040016F_0000075_000030A_0400170_0000055_000030B_0400171_0000075_000030B,
   0x0400172_0000055_0000328_0400173_0000075_0000328_0400174_0000057_0000302_0400175_0000077_0000302,
   0x0400176_0000059_0000302_0400177_0000079_0000302_0400178_0000059_0000308_0400179_000005A_0000301,
   0x040017A_000007A_0000301_040017B_000005A_0000307_040017C_000007A_0000307_040017D_000005A_000030C,
   0x040017E_000007A_000030C_04001A0_000004F_000031B_04001A1_000006F_000031B_04001AF_0000055_000031B,
   0x04001B0_0000075_000031B_04001CD_0000041_000030C_04001CE_0000061_000030C_04001CF_0000049_000030C,
   0x04001D0_0000069_000030C_04001D1_000004F_000030C_04001D2_000006F_000030C_04001D3_0000055_000030C,
   0x04001D4_0000075_000030C_06001D5_0000055_0000308_0000304_06001D6_0000075_0000308_0000304,
   0x06001D7_0000055_0000308_0000301_06001D8_0000075_0000308_0000301_06001D9_0000055_0000308_000030C,
   0x06001DA_0000075_0000308_000030C_06001DB_0000055_0000308_0000300_06001DC_0000075_0000308_0000300,
   0x06001DE_0000041_0000308_0000304_06001DF_0000061_0000308_0000304_06001E0_0000041_0000307_0000304,
   0x06001E1_0000061_0000307_0000304_04001E2_00000C6_0000304_04001E3_00000E6_0000304_04001E6_0000047_000030C,
   0x04001E7_0000067_000030C_04001E8_000004B_000030C_04001E9_000006B_000030C_04001EA_000004F_0000328,
   0x04001EB_000006F_0000328_06001EC_000004F_0000328_0000304_06001ED_000006F_0000328_0000304,
   0x04001EE_00001B7_000030C_04001EF_0000292_000030C_04001F0_000006A_000030C_04001F4_0000047_0000301,
   0x04001F5_0000067_0000301_04001F8_000004E_0000300_04001F9_000006E_0000300_06001FA_0000041_000030A_0000301,
   0x06001FB_0000061_000030A_0000301_04001FC_00000C6_0000301_04001FD_00000E6_0000301_04001FE_00000D8_0000301,
   0x04001FF_00000F8_0000301_0400200_0000041_000030F_0400201_0000061_000030F_0400202_0000041_0000311,
   0x0400203_0000061_0000311_0400204_0000045_000030F_0400205_0000065_000030F_0400206_0000045_0000311,
   0x0400207_0000065_0000311_0400208_0000049_000030F_0400209_0000069_000030F_040020A_0000049_0000311,
   0x040020B_0000069_0000311_040020C_000004F_000030F_040020D_000006F_000030F_040020E_000004F_0000311,
   0x040020F_000006F_0000311_0400210_0000052_000030F_0400211_0000072_000030F_0400212_0000052_0000311,
   0x0400213_0000072_0000311_0400214_0000055_000030F_0400215_0000075_000030F_0400216_0000055_0000311,
   0x0400217_0000075_0000311_0400218_0000053_0000326_0400219_0000073_0000326_040021A_0000054_0000326,
   0x040021B_0000074_0000326_040021E_0000048_000030C_040021F_0000068_000030C_0400226_0000041_0000307,
   0x0400227_0000061_0000307_0400228_0000045_0000327_0400229_0000065_0000327_060022A_000004F_0000308_0000304,
   0x060022B_000006F_0000308_0000304_060022C_000004F_0000303_0000304_060022D_000006F_0000303_0000304,
   0x040022E_000004F_0000307_040022F_000006F_0000307_0600230_000004F_0000307_0000304,
   0x0600231_000006F_0000307_0000304_0400232_0000059_0000304_0400233_0000079_0000304_0200340_0000300,
   0x0200341_0000301_0200343_0000313_0400344_0000308_0000301_0200374_00002B9_020037E_000003B,
   0x0400385_00000A8_0000301_0400386_0000391_0000301_0200387_00000B7_0400388_0000395_0000301,
   0x0400389_0000397_0000301_040038A_0000399_0000301_040038C_000039F_0000301_040038E_00003A5_0000301,
   0x040038F_00003A9_0000301_0600390_00003B9_0000308_0000301_04003AA_0000399_0000308_04003AB_00003A5_0000308,
   0x04003AC_00003B1_0000301_04003AD_00003B5_0000301_04003AE_00003B7_0000301_04003AF_00003B9_0000301,
   0x06003B0_00003C5_0000308_0000301_04003CA_00003B9_0000308_04003CB_00003C5_0000308_04003CC_00003BF_0000301,
   0x04003CD_00003C5_0000301_04003CE_00003C9_0000301_04003D3_00003D2_0000301_04003D4_00003D2_0000308,
   0x0400400_0000415_0000300_0400401_0000415_0000308_0400403_0000413_0000301_0400407_0000406_0000308,
   0x040040C_000041A_0000301_040040D_0000418_0000300_040040E_0000423_0000306_0400419_0000418_0000306,
   0x0400439_0000438_0000306_0400450_0000435_0000300_0400451_0000435_0000308_0400453_0000433_0000301,
   0x0400457_0000456_0000308_040045C_000043A_0000301_040045D_0000438_0000300_040045E_0000443_0000306,
   0x0400476_0000474_000030F_0400477_0000475_000030F_04004C1_0000416_0000306_04004C2_0000436_0000306,
   0x04004D0_0000410_0000306_04004D1_0000430_0000306_04004D2_0000410_0000308_04004D3_0000430_0000308,
   0x04004D6_0000415_0000306_04004D7_0000435_0000306_04004DA_00004D8_0000308_04004DB_00004D9_0000308,
   0x04004DC_0000416_0000308_04004DD_0000436_0000308_04004DE_0000417_0000308_04004DF_0000437_0000308,
   0x04004E2_0000418_0000304_04004E3_0000438_0000304_04004E4_0000418_0000308_04004E5_0000438_0000308,
   0x04004E6_000041E_0000308_04004E7_000043E_0000308_04004EA_00004E8_0000308_04004EB_00004E9_0000308,
   0x04004EC_000042D_0000308_04004ED_000044D_0000308_04004EE_0000423_0000304_04004EF_0000443_0000304,
   0x04004F0_0000423_0000308_04004F1_0000443_0000308_04004F2_0000423_000030B_04004F3_0000443_000030B,
   0x04004F4_0000427_0000308_04004F5_0000447_0000308_04004F8_000042B_0000308_04004F9_000044B_0000308,
   0x0400622_0000627_0000653_0400623_0000627_0000654_0400624_0000648_0000654_0400625_0000627_0000655,
   0x0400626_000064A_0000654_04006C0_00006D5_0000654_04006C2_00006C1_0000654_04006D3_00006D2_0000654,
   0x0400929_0000928_000093C_0400931_0000930_000093C_0400934_0000933_000093C_0400958_0000915_000093C,
   0x0400959_0000916_000093C_040095A_0000917_000093C_040095B_000091C_000093C_040095C_0000921_000093C,
   0x040095D_0000922_000093C_040095E_000092B_000093C_040095F_000092F_000093C_04009CB_00009C7_00009BE,
   0x04009CC_00009C7_00009D7_04009DC_00009A1_00009BC_04009DD_00009A2_00009BC_04009DF_00009AF_00009BC,
   0x0400A33_0000A32_0000A3C_0400A36_0000A38_0000A3C_0400A59_0000A16_0000A3C_0400A5A_0000A17_0000A3C,
   0x0400A5B_0000A1C_0000A3C_0400A5E_0000A2B_0000A3C_0400B48_0000B47_0000B56_0400B4B_0000B47_0000B3E,
   0x0400B4C_0000B47_0000B57_0400B5C_0000B21_0000B3C_0400B5D_0000B22_0000B3C_0400B94_0000B92_0000BD7,
   0x0400BCA_0000BC6_0000BBE_0400BCB_0000BC7_0000BBE_0400BCC_0000BC6_0000BD7_0400C48_0000C46_0000C56,
   0x0400CC0_0000CBF_0000CD5_0400CC7_0000CC6_0000CD5_0400CC8_0000CC6_0000CD6_0400CCA_0000CC6_0000CC2,
   0x0600CCB_0000CC6_0000CC2_0000CD5_0400D4A_0000D46_0000D3E_0400D4B_0000D47_0000D3E_0400D4C_0000D46_0000D57,
   0x0400DDA_0000DD9_0000DCA_0400DDC_0000DD9_0000DCF_0600DDD_0000DD9_0000DCF_0000DCA_0400DDE_0000DD9_0000DDF,
   0x0400F43_0000F42_0000FB7_0400F4D_0000F4C_0000FB7_0400F52_0000F51_0000FB7_0400F57_0000F56_0000FB7,
   0x0400F5C_0000F5B_0000FB7_0400F69_0000F40_0000FB5_0400F73_0000F71_0000F72_0400F75_0000F71_0000F74,
   0x0400F76_0000FB2_0000F80_0400F78_0000FB3_0000F80_0400F81_0000F71_0000F80_0400F93_0000F92_0000FB7,
   0x0400F9D_0000F9C_0000FB7_0400FA2_0000FA1_0000FB7_0400FA7_0000FA6_0000FB7_0400FAC_0000FAB_0000FB7,
   0x0400FB9_0000F90_0000FB5_0401026_0001025_000102E_0401B06_0001B05_0001B35_0401B08_0001B07_0001B35,
   0x0401B0A_0001B09_0001B35_0401B0C_0001B0B_0001B35_0401B0E_0001B0D_0001B35_0401B12_0001B11_0001B35,
   0x0401B3B_0001B3A_0001B35_0401B3D_0001B3C_0001B35_0401B40_0001B3E_0001B35_0401B41_0001B3F_0001B35,
   0x0401B43_0001B42_0001B35_0401E00_0000041_0000325_0401E01_0000061_0000325_0401E02_0000042_0000307,
   0x0401E03_0000062_0000307_0401E04_0000042_0000323_0401E05_0000062_0000323_0401E06_0000042_0000331,
   0x0401E07_0000062_0000331_0601E08_0000043_0000327_0000301_0601E09_0000063_0000327_0000301,
   0x0401E0A_0000044_0000307_0401E0B_0000064_0000307_0401E0C_0000044_0000323_0401E0D_0000064_0000323,
   0x0401E0E_0000044_0000331_0401E0F_0000064_0000331_0401E10_0000044_0000327_0401E11_0000064_0000327,
   0x0401E12_0000044_000032D_0401E13_0000064_000032D_0601E14_0000045_0000304_0000300,
   0x0601E15_0000065_0000304_0000300_0601E16_0000045_0000304_0000301_0601E17_0000065_0000304_0000301,
   0x0401E18_0000045_000032D_0401E19_0000065_000032D_0401E1A_0000045_0000330_0401E1B_0000065_0000330,
   0x0601E1C_0000045_0000327_0000306_0601E1D_0000065_0000327_0000306_0401E1E_0000046_0000307,
   0x0401E1F_0000066_0000307_0401E20_0000047_0000304_0401E21_0000067_0000304_0401E22_0000048_0000307,
   0x0401E23_0000068_0000307_0401E24_0000048_0000323_0401E25_0000068_0000323_0401E26_0000048_0000308,
   0x0401E27_0000068_0000308_0401E28_0000048_0000327_0401E29_0000068_0000327_0401E2A_0000048_000032E,
   0x0401E2B_0000068_000032E_0401E2C_0000049_0000330_0401E2D_0000069_0000330_0601E2E_0000049_0000308_0000301,
   0x0601E2F_0000069_0000308_0000301_0401E30_000004B_0000301_0401E31_000006B_0000301_0401E32_000004B_0000323,
   0x0401E33_000006B_0000323_0401E34_000004B_0000331_0401E35_000006B_0000331_0401E36_000004C_0000323,
   0x0401E37_000006C_0000323_0601E38_000004C_0000323_0000304_0601E39_000006C_0000323_0000304,
   0x0401E3A_000004C_0000331_0401E3B_000006C_0000331_0401E3C_000004C_000032D_0401E3D_000006C_000032D,
   0x0401E3E_000004D_0000301_0401E3F_000006D_0000301_0401E40_000004D_0000307_0401E41_000006D_0000307,
   0x0401E42_000004D_0000323_0401E43_000006D_0000323_0401E44_000004E_0000307_0401E45_000006E_0000307,
   0x0401E46_000004E_0000323_0401E47_000006E_0000323_0401E48_000004E_0000331_0401E49_000006E_0000331,
   0x0401E4A_000004E_000032D_0401E4B_000006E_000032D_0601E4C_000004F_0000303_0000301,
   0x0601E4D_000006F_0000303_0000301_0601E4E_000004F_0000303_0000308_0601E4F_000006F_0000303_0000308,
   0x0601E50_000004F_0000304_0000300_0601E51_000006F_0000304_0000300_0601E52_000004F_0000304_0000301,
   0x0601E53_000006F_0000304_0000301_0401E54_0000050_0000301_0401E55_0000070_0000301_0401E56_0000050_0000307,
   0x0401E57_0000070_0000307_0401E58_0000052_0000307_0401E59_0000072_0000307_0401E5A_0000052_0000323,
   0x0401E5B_0000072_0000323_0601E5C_0000052_0000323_0000304_0601E5D_0000072_0000323_0000304,
   0x0401E5E_0000052_0000331_0401E5F_0000072_0000331_0401E60_0000053_0000307_0401E61_0000073_0000307,
   0x0401E62_0000053_0000323_0401E63_0000073_0000323_0601E64_0000053_0000301_0000307,
   0x0601E65_0000073_0000301_0000307_0601E66_0000053_000030C_0000307_0601E67_0000073_000030C_0000307,
   0x0601E68_0000053_0000323_0000307_0601E69_0000073_0000323_0000307_0401E6A_0000054_0000307,
   0x0401E6B_0000074_0000307_0401E6C_0000054_0000323_0401E6D_0000074_0000323_0401E6E_0000054_0000331,
   0x0401E6F_0000074_0000331_0401E70_0000054_000032D_0401E71_0000074_000032D_0401E72_0000055_0000324,
   0x0401E73_0000075_0000324_0401E74_0000055_0000330_0401E75_0000075_0000330_0401E76_0000055_000032D,
   0x0401E77_0000075_000032D_0601E78_0000055_0000303_0000301_0601E79_0000075_0000303_0000301,
   0x0601E7A_0000055_0000304_0000308_0601E7B_0000075_0000304_0000308_0401E7C_0000056_0000303,
   0x0401E7D_0000076_0000303_0401E7E_0000056_0000323_0401E7F_0000076_0000323_0401E80_0000057_0000300,
   0x0401E81_0000077_0000300_0401E82_0000057_0000301_0401E83_0000077_0000301_0401E84_0000057_0000308,
   0x0401E85_0000077_0000308_0401E86_0000057_0000307_0401E87_0000077_0000307_0401E88_0000057_0000323,
   0x0401E89_0000077_0000323_0401E8A_0000058_0000307_0401E8B_0000078_0000307_0401E8C_0000058_0000308,
   0x0401E8D_0000078_0000308_0401E8E_0000059_0000307_0401E8F_0000079_0000307_0401E90_000005A_0000302,
   0x0401E91_000007A_0000302_0401E92_000005A_0000323_0401E93_000007A_0000323_0401E94_000005A_0000331,
   0x0401E95_000007A_0000331_0401E96_0000068_0000331_0401E97_0000074_0000308_0401E98_0000077_000030A,
   0x0401E99_0000079_000030A_0401E9B_000017F_0000307_0401EA0_0000041_0000323_0401EA1_0000061_0000323,
   0x0401EA2_0000041_0000309_0401EA3_0000061_0000309_0601EA4_0000041_0000302_0000301,
   0x0601EA5_0000061_0000302_0000301_0601EA6_0000041_0000302_0000300_0601EA7_0000061_0000302_0000300,
   0x0601EA8_0000041_0000302_0000309_0601EA9_0000061_0000302_0000309_0601EAA_0000041_0000302_0000303,
   0x0601EAB_0000061_0000302_0000303_0601EAC_0000041_0000323_0000302_0601EAD_0000061_0000323_0000302,
   0x0601EAE_0000041_0000306_0000301_0601EAF_0000061_0000306_0000301_0601EB0_0000041_0000306_0000300,
   0x0601EB1_0000061_0000306_0000300_0601EB2_0000041_0000306_0000309_0601EB3_0000061_0000306_0000309,
   0x0601EB4_0000041_0000306_0000303_0601EB5_0000061_0000306_0000303_0601EB6_0000041_0000323_0000306,
   0x0601EB7_0000061_0000323_0000306_0401EB8_0000045_0000323_0401EB9_0000065_0000323_0401EBA_0000045_0000309,
   0x0401EBB_0000065_0000309_0401EBC_0000045_0000303_0401EBD_0000065_0000303_0601EBE_0000045_0000302_0000301,
   0x0601EBF_0000065_0000302_0000301_0601EC0_0000045_0000302_0000300_0601EC1_0000065_0000302_0000300,
   0x0601EC2_0000045_0000302_0000309_0601EC3_0000065_0000302_0000309_0601EC4_0000045_0000302_0000303,
   0x0601EC5_0000065_0000302_0000303_0601EC6_0000045_0000323_0000302_0601EC7_0000065_0000323_0000302,
   0x0401EC8_0000049_0000309_0401EC9_0000069_0000309_0401ECA_0000049_0000323_0401ECB_0000069_0000323,
   0x0401ECC_000004F_0000323_0401ECD_000006F_0000323_0401ECE_000004F_0000309_0401ECF_000006F_0000309,
   0x0601ED0_000004F_0000302_0000301_0601ED1_000006F_0000302_0000301_0601ED2_000004F_0000302_0000300,
   0x0601ED3_000006F_0000302_0000300_0601ED4_000004F_0000302_0000309_0601ED5_000006F_0000302_0000309,
   0x0601ED6_000004F_0000302_0000303_0601ED7_000006F_0000302_0000303_0601ED8_000004F_0000323_0000302,
   0x0601ED9_000006F_0000323_0000302_0601EDA_000004F_000031B_0000301_0601EDB_000006F_000031B_0000301,
   0x0601EDC_000004F_000031B_0000300_0601EDD_000006F_000031B_0000300_0601EDE_000004F_000031B_0000309,
   0x0601EDF_000006F_000031B_0000309_0601EE0_000004F_000031B_0000303_0601EE1_000006F_000031B_0000303,
   0x0601EE2_000004F_000031B_0000323_0601EE3_000006F_000031B_0000323_0401EE4_0000055_0000323,
   0x0401EE5_0000075_0000323_0401EE6_0000055_0000309_0401EE7_0000075_0000309_0601EE8_0000055_000031B_0000301,
   0x0601EE9_0000075_000031B_0000301_0601EEA_0000055_000031B_0000300_0601EEB_0000075_000031B_0000300,
   0x0601EEC_0000055_000031B_0000309_0601EED_0000075_000031B_0000309_0601EEE_0000055_000031B_0000303,
   0x0601EEF_0000075_000031B_0000303_0601EF0_0000055_000031B_0000323_0601EF1_0000075_000031B_0000323,
   0x0401EF2_0000059_0000300_0401EF3_0000079_0000300_0401EF4_0000059_0000323_0401EF5_0000079_0000323,
   0x0401EF6_0000059_0000309_0401EF7_0000079_0000309_0401EF8_0000059_0000303_0401EF9_0000079_0000303,
   0x0401F00_00003B1_0000313_0401F01_00003B1_0000314_0601F02_00003B1_0000313_0000300,
   0x0601F03_00003B1_0000314_0000300_0601F04_00003B1_0000313_0000301_0601F05_00003B1_0000314_0000301,
   0x0601F06_00003B1_0000313_0000342_0601F07_00003B1_0000314_0000342_0401F08_0000391_0000313,
   0x0401F09_0000391_0000314_0601F0A_0000391_0000313_0000300_0601F0B_0000391_0000314_0000300,
   0x0601F0C_0000391_0000313_0000301_0601F0D_0000391_0000314_0000301_0601F0E_0000391_0000313_0000342,
   0x0601F0F_0000391_0000314_0000342_0401F10_00003B5_0000313_0401F11_00003B5_0000314,
   0x0601F12_00003B5_0000313_0000300_0601F13_00003B5_0000314_0000300_0601F14_00003B5_0000313_0000301,
   0x0601F15_00003B5_0000314_0000301_0401F18_0000395_0000313_0401F19_0000395_0000314,
   0x0601F1A_0000395_0000313_0000300_0601F1B_0000395_0000314_0000300_0601F1C_0000395_0000313_0000301,
   0x0601F1D_0000395_0000314_0000301_0401F20_00003B7_0000313_0401F21_00003B7_0000314,
   0x0601F22_00003B7_0000313_0000300_0601F23_00003B7_0000314_0000300_0601F24_00003B7_0000313_0000301,
   0x0601F25_00003B7_0000314_0000301_0601F26_00003B7_0000313_0000342_0601F27_00003B7_0000314_0000342,
   0x0401F28_0000397_0000313_0401F29_0000397_0000314_0601F2A_0000397_0000313_0000300,
   0x0601F2B_0000397_0000314_0000300_0601F2C_0000397_0000313_0000301_0601F2D_0000397_0000314_0000301,
   0x0601F2E_0000397_0000313_0000342_0601F2F_0000397_0000314_0000342_0401F30_00003B9_0000313,
   0x0401F31_00003B9_0000314_0601F32_00003B9_0000313_0000300_0601F33_00003B9_0000314_0000300,
   0x0601F34_00003B9_0000313_0000301_0601F35_00003B9_0000314_0000301_0601F36_00003B9_0000313_0000342,
   0x0601F37_00003B9_0000314_0000342_0401F38_0000399_0000313_0401F39_0000399_0000314,
   0x0601F3A_0000399_0000313_0000300_0601F3B_0000399_0000314_0000300_0601F3C_0000399_0000313_0000301,
   0x0601F3D_0000399_0000314_0000301_0601F3E_0000399_0000313_0000342_0601F3F_0000399_0000314_0000342,
   0x0401F40_00003BF_0000313_0401F41_00003BF_0000314_0601F42_00003BF_0000313_0000300,
   0x0601F43_00003BF_0000314_0000300_0601F44_00003BF_0000313_0000301_0601F45_00003BF_0000314_0000301,
   0x0401F48_000039F_0000313_0401F49_000039F_0000314_0601F4A_000039F_0000313_0000300,
   0x0601F4B_000039F_0000314_0000300_0601F4C_000039F_0000313_0000301_0601F4D_000039F_0000314_0000301,
   0x0401F50_00003C5_0000313_0401F51_00003C5_0000314_0601F52_00003C5_0000313_0000300,
   0x0601F53_00003C5_0000314_0000300_0601F54_00003C5_0000313_0000301_0601F55_00003C5_0000314_0000301,
   0x0601F56_00003C5_0000313_0000342_0601F57_00003C5_0000314_0000342_0401F59_00003A5_0000314,
   0x0601F5B_00003A5_0000314_0000300_0601F5D_00003A5_0000314_0000301_0601F5F_00003A5_0000314_0000342,
   0x0401F60_00003C9_0000313_0401F61_00003C9_0000314_0601F62_00003C9_0000313_0000300,
   0x0601F63_00003C9_0000314_0000300_0601F64_00003C9_0000313_0000301_0601F65_00003C9_0000314_0000301,
   0x0601F66_00003C9_0000313_0000342_0601F67_00003C9_0000314_0000342_0401F68_00003A9_0000313,
   0x0401F69_00003A9_0000314_0601F6A_00003A9_0000313_0000300_0601F6B_00003A9_0000314_0000300,
   0x0601F6C_00003A9_0000313_0000301_0601F6D_00003A9_0000314_0000301_0601F6E_00003A9_0000313_0000342,
   0x0601F6F_00003A9_0000314_0000342_0401F70_00003B1_0000300_0401F71_00003B1_0000301_0401F72_00003B5_0000300,
   0x0401F73_00003B5_0000301_0401F74_00003B7_0000300_0401F75_00003B7_0000301_0401F76_00003B9_0000300,
   0x0401F77_00003B9_0000301_0401F78_00003BF_0000300_0401F79_00003BF_0000301_0401F7A_00003C5_0000300,
   0x0401F7B_00003C5_0000301_0401F7C_00003C9_0000300_0401F7D_00003C9_0000301_0601F80_00003B1_0000313_0000345,
   0x0601F81_00003B1_0000314_0000345_0801F82_00003B1_0000313_0000300_0000345,
   0x0801F83_00003B1_0000314_0000300_0000345_0801F84_00003B1_0000313_0000301_0000345,
   0x0801F85_00003B1_0000314_0000301_0000345_0801F86_00003B1_0000313_0000342_0000345,
   0x0801F87_00003B1_0000314_0000342_0000345_0601F88_0000391_0000313_0000345_0601F89_0000391_0000314_0000345,
   0x0801F8A_0000391_0000313_0000300_0000345_0801F8B_0000391_0000314_0000300_0000345,
   0x0801F8C_0000391_0000313_0000301_0000345_0801F8D_0000391_0000314_0000301_0000345,
   0x0801F8E_0000391_0000313_0000342_0000345_0801F8F_0000391_0000314_0000342_0000345,
   0x0601F90_00003B7_0000313_0000345_0601F91_00003B7_0000314_0000345_0801F92_00003B7_0000313_0000300_0000345,
   0x0801F93_00003B7_0000314_0000300_0000345_0801F94_00003B7_0000313_0000301_0000345,
   0x0801F95_00003B7_0000314_0000301_0000345_0801F96_00003B7_0000313_0000342_0000345,
   0x0801F97_00003B7_0000314_0000342_0000345_0601F98_0000397_0000313_0000345_0601F99_0000397_0000314_0000345,
   0x0801F9A_0000397_0000313_0000300_0000345_0801F9B_0000397_0000314_0000300_0000345,
   0x0801F9C_0000397_0000313_0000301_0000345_0801F9D_0000397_0000314_0000301_0000345,
   0x0801F9E_0000397_0000313_0000342_0000345_0801F9F_0000397_0000314_0000342_0000345,
   0x0601FA0_00003C9_0000313_0000345_0601FA1_00003C9_0000314_0000345_0801FA2_00003C9_0000313_0000300_0000345,
   0x0801FA3_00003C9_0000314_0000300_0000345_0801FA4_00003C9_0000313_0000301_0000345,
   0x0801FA5_00003C9_0000314_0000301_0000345_0801FA6_00003C9_0000313_0000342_0000345,
   0x0801FA7_00003C9_0000314_0000342_0000345_0601FA8_00003A9_0000313_0000345_0601FA9_00003A9_0000314_0000345,
   0x0801FAA_00003A9_0000313_0000300_0000345_0801FAB_00003A9_0000314_0000300_0000345,
   0x0801FAC_00003A9_0000313_0000301_0000345_0801FAD_00003A9_0000314_0000301_0000345,
   0x0801FAE_00003A9_0000313_0000342_0000345_0801FAF_00003A9_0000314_0000342_0000345_0401FB0_00003B1_0000306,
   0x0401FB1_00003B1_0000304_0601FB2_00003B1_0000300_0000345_0401FB3_00003B1_0000345,
   0x0601FB4_00003B1_0000301_0000345_0401FB6_00003B1_0000342_0601FB7_00003B1_0000342_0000345,
   0x0401FB8_0000391_0000306_0401FB9_0000391_0000304_0401FBA_0000391_0000300_0401FBB_0000391_0000301,
   0x0401FBC_0000391_0000345_0201FBE_00003B9_0401FC1_00000A8_0000342_0601FC2_00003B7_0000300_0000345,
   0x0401FC3_00003B7_0000345_0601FC4_00003B7_0000301_0000345_0401FC6_00003B7_0000342,
   0x0601FC7_00003B7_0000342_0000345_0401FC8_0000395_0000300_0401FC9_0000395_0000301_0401FCA_0000397_0000300,
   0x0401FCB_0000397_0000301_0401FCC_0000397_0000345_0401FCD_0001FBF_0000300_0401FCE_0001FBF_0000301,
   0x0401FCF_0001FBF_0000342_0401FD0_00003B9_0000306_0401FD1_00003B9_0000304_0601FD2_00003B9_0000308_0000300,
   0x0601FD3_00003B9_0000308_0000301_0401FD6_00003B9_0000342_0601FD7_00003B9_0000308_0000342,
   0x0401FD8_0000399_0000306_0401FD9_0000399_0000304_0401FDA_0000399_0000300_0401FDB_0000399_0000301,
   0x0401FDD_0001FFE_0000300_0401FDE_0001FFE_0000301_0401FDF_0001FFE_0000342_0401FE0_00003C5_0000306,
   0x0401FE1_00003C5_0000304_0601FE2_00003C5_0000308_0000300_0601FE3_00003C5_0000308_0000301,
   0x0401FE4_00003C1_0000313_0401FE5_00003C1_0000314_0401FE6_00003C5_0000342_0601FE7_00003C5_0000308_0000342,
   0x0401FE8_00003A5_0000306_0401FE9_00003A5_0000304_0401FEA_00003A5_0000300_0401FEB_00003A5_0000301,
   0x0401FEC_00003A1_0000314_0401FED_00000A8_0000300_0401FEE_00000A8_0000301_0201FEF_0000060,
   0x0601FF2_00003C9_0000300_0000345_0401FF3_00003C9_0000345_0601FF4_00003C9_0000301_0000345,
   0x0401FF6_00003C9_0000342_0601FF7_00003C9_0000342_0000345_0401FF8_000039F_0000300_0401FF9_000039F_0000301,
   0x0401FFA_00003A9_0000300_0401FFB_00003A9_0000301_0401FFC_00003A9_0000345_0201FFD_00000B4_0202000_0002002,
   0x0202001_0002003_0202126_00003A9_020212A_000004B_040212B_0000041_000030A_040219A_0002190_0000338,
   0x040219B_0002192_0000338_04021AE_0002194_0000338_04021CD_00021D0_0000338_04021CE_00021D4_0000338,
   0x04021CF_00021D2_0000338_0402204_0002203_0000338_0402209_0002208_0000338_040220C_000220B_0000338,
   0x0402224_0002223_0000338_0402226_0002225_0000338_0402241_000223C_0000338_0402244_0002243_0000338,
   0x0402247_0002245_0000338_0402249_0002248_0000338_0402260_000003D_0000338_0402262_0002261_0000338,
   0x040226D_000224D_0000338_040226E_000003C_0000338_040226F_000003E_0000338_0402270_0002264_0000338,
   0x0402271_0002265_0000338_0402274_0002272_0000338_0402275_0002273_0000338_0402278_0002276_0000338,
   0x0402279_0002277_0000338_0402280_000227A_0000338_0402281_000227B_0000338_0402284_0002282_0000338,
   0x0402285_0002283_0000338_0402288_0002286_0000338_0402289_0002287_0000338_04022AC_00022A2_0000338,
   0x04022AD_00022A8_0000338_04022AE_00022A9_0000338_04022AF_00022AB_0000338_04022E0_000227C_0000338,
   0x04022E1_000227D_0000338_04022E2_0002291_0000338_04022E3_0002292_0000338_04022EA_00022B2_0000338,
   0x04022EB_00022B3_0000338_04022EC_00022B4_0000338_04022ED_00022B5_0000338_0202329_0003008_020232A_0003009,
   0x0402ADC_0002ADD_0000338_040304C_000304B_0003099_040304E_000304D_0003099_0403050_000304F_0003099,
   0x0403052_0003051_0003099_0403054_0003053_0003099_0403056_0003055_0003099_0403058_0003057_0003099,
   0x040305A_0003059_0003099_040305C_000305B_0003099_040305E_000305D_0003099_0403060_000305F_0003099,
   0x0403062_0003061_0003099_0403065_0003064_0003099_0403067_0003066_0003099_0403069_0003068_0003099,
   0x0403070_000306F_0003099_0403071_000306F_000309A_0403073_0003072_0003099_0403074_0003072_000309A,
   0x0403076_0003075_0003099_0403077_0003075_000309A_0403079_0003078_0003099_040307A_0003078_000309A,
   0x040307C_000307B_0003099_040307D_000307B_000309A_0403094_0003046_0003099_040309E_000309D_0003099,
   0x04030AC_00030AB_0003099_04030AE_00030AD_0003099_04030B0_00030AF_0003099_04030B2_00030B1_0003099,
   0x04030B4_00030B3_0003099_04030B6_00030B5_0003099_04030B8_00030B7_0003099_04030BA_00030B9_0003099,
   0x04030BC_00030BB_0003099_04030BE_00030BD_0003099_04030C0_00030BF_0003099_04030C2_00030C1_0003099,
   0x04030C5_00030C4_0003099_04030C7_00030C6_0003099_04030C9_00030C8_0003099_04030D0_00030CF_0003099,
   0x04030D1_00030CF_000309A_04030D3_00030D2_0003099_04030D4_00030D2_000309A_04030D6_00030D5_0003099,
   0x04030D7_00030D5_000309A_04030D9_00030D8_0003099_04030DA_00030D8_000309A_04030DC_00030DB_0003099,
   0x04030DD_00030DB_000309A_04030F4_00030A6_0003099_04030F7_00030EF_0003099_04030F8_00030F0_0003099,
   0x04030F9_00030F1_0003099_04030FA_00030F2_0003099_04030FE_00030FD_0003099_020F900_0008C48_020F901_00066F4,
   0x020F902_0008ECA_020F903_0008CC8_020F904_0006ED1_020F905_0004E32_020F906_00053E5_020F907_0009F9C,
   0x020F908_0009F9C_020F909_0005951_020F90A_00091D1_020F90B_0005587_020F90C_0005948_020F90D_00061F6,
   0x020F90E_0007669_020F90F_0007F85_020F910_000863F_020F911_00087BA_020F912_00088F8_020F913_000908F,
   0x020F914_0006A02_020F915_0006D1B_020F916_00070D9_020F917_00073DE_020F918_000843D_020F919_000916A,
   0x020F91A_00099F1_020F91B_0004E82_020F91C_0005375_020F91D_0006B04_020F91E_000721B_020F91F_000862D,
   0x020F920_0009E1E_020F921_0005D50_020F922_0006FEB_020F923_00085CD_020F924_0008964_020F925_00062C9,
   0x020F926_00081D8_020F927_000881F_020F928_0005ECA_020F929_0006717_020F92A_0006D6A_020F92B_00072FC,
   0x020F92C_00090CE_020F92D_0004F86_020F92E_00051B7_020F92F_00052DE_020F930_00064C4_020F931_0006AD3,
   0x020F932_0007210_020F933_00076E7_020F934_0008001_020F935_0008606_020F936_000865C_020F937_0008DEF,
   0x020F938_0009732_020F939_0009B6F_020F93A_0009DFA_020F93B_000788C_020F93C_000797F_020F93D_0007DA0,
   0x020F93E_00083C9_020F93F_0009304_020F940_0009E7F_020F941_0008AD6_020F942_00058DF_020F943_0005F04,
   0x020F944_0007C60_020F945_000807E_020F946_0007262_020F947_00078CA_020F948_0008CC2_020F949_00096F7,
   0x020F94A_00058D8_020F94B_0005C62_020F94C_0006A13_020F94D_0006DDA_020F94E_0006F0F_020F94F_0007D2F,
   0x020F950_0007E37_020F951_000964B_020F952_00052D2_020F953_000808B_020F954_00051DC_020F955_00051CC,
   0x020F956_0007A1C_020F957_0007DBE_020F958_00083F1_020F959_0009675_020F95A_0008B80_020F95B_00062CF,
   0x020F95C_0006A02_020F95D_0008AFE_020F95E_0004E39_020F95F_0005BE7_020F960_0006012_020F961_0007387,
   0x020F962_0007570_020F963_0005317_020F964_00078FB_020F965_0004FBF_020F966_0005FA9_020F967_0004E0D,
   0x020F968_0006CCC_020F969_0006578_020F96A_0007D22_020F96B_00053C3_020F96C_000585E_020F96D_0007701,
   0x020F96E_0008449_020F96F_0008AAA_020F970_0006BBA_020F971_0008FB0_020F972_0006C88_020F973_00062FE,
   0x020F974_00082E5_020F975_00063A0_020F976_0007565_020F977_0004EAE_020F978_0005169_020F979_00051C9,
   0x020F97A_0006881_020F97B_0007CE7_020F97C_000826F_020F97D_0008AD2_020F97E_00091CF_020F97F_00052F5,
   0x020F980_0005442_020F981_0005973_020F982_0005EEC_020F983_00065C5_020F984_0006FFE_020F985_000792A,
   0x020F986_00095AD_020F987_0009A6A_020F988_0009E97_020F989_0009ECE_020F98A_000529B_020F98B_00066C6,
   0x020F98C_0006B77_020F98D_0008F62_020F98E_0005E74_020F98F_0006190_020F990_0006200_020F991_000649A,
   0x020F992_0006F23_020F993_0007149_020F994_0007489_020F995_00079CA_020F996_0007DF4_020F997_000806F,
   0x020F998_0008F26_020F999_00084EE_020F99A_0009023_020F99B_000934A_020F99C_0005217_020F99D_00052A3,
   0x020F99E_00054BD_020F99F_00070C8_020F9A0_00088C2_020F9A1_0008AAA_020F9A2_0005EC9_020F9A3_0005FF5,
   0x020F9A4_000637B_020F9A5_0006BAE_020F9A6_0007C3E_020F9A7_0007375_020F9A8_0004EE4_020F9A9_00056F9,
   0x020F9AA_0005BE7_020F9AB_0005DBA_020F9AC_000601C_020F9AD_00073B2_020F9AE_0007469_020F9AF_0007F9A,
   0x020F9B0_0008046_020F9B1_0009234_020F9B2_00096F6_020F9B3_0009748_020F9B4_0009818_020F9B5_0004F8B,
   0x020F9B6_00079AE_020F9B7_00091B4_020F9B8_00096B8_020F9B9_00060E1_020F9BA_0004E86_020F9BB_00050DA,
   0x020F9BC_0005BEE_020F9BD_0005C3F_020F9BE_0006599_020F9BF_0006A02_020F9C0_00071CE_020F9C1_0007642,
   0x020F9C2_00084FC_020F9C3_000907C_020F9C4_0009F8D_020F9C5_0006688_020F9C6_000962E_020F9C7_0005289,
   0x020F9C8_000677B_020F9C9_00067F3_020F9CA_0006D41_020F9CB_0006E9C_020F9CC_0007409_020F9CD_0007559,
   0x020F9CE_000786B_020F9CF_0007D10_020F9D0_000985E_020F9D1_000516D_020F9D2_000622E_020F9D3_0009678,
   0x020F9D4_000502B_020F9D5_0005D19_020F9D6_0006DEA_020F9D7_0008F2A_020F9D8_0005F8B_020F9D9_0006144,
   0x020F9DA_0006817_020F9DB_0007387_020F9DC_0009686_020F9DD_0005229_020F9DE_000540F_020F9DF_0005C65,
   0x020F9E0_0006613_020F9E1_000674E_020F9E2_00068A8_020F9E3_0006CE5_020F9E4_0007406_020F9E5_00075E2,
   0x020F9E6_0007F79_020F9E7_00088CF_020F9E8_00088E1_020F9E9_00091CC_020F9EA_00096E2_020F9EB_000533F,
   0x020F9EC_0006EBA_020F9ED_000541D_020F9EE_00071D0_020F9EF_0007498_020F9F0_00085FA_020F9F1_00096A3,
   0x020F9F2_0009C57_020F9F3_0009E9F_020F9F4_0006797_020F9F5_0006DCB_020F9F6_00081E8_020F9F7_0007ACB,
   0x020F9F8_0007B20_020F9F9_0007C92_020F9FA_00072C0_020F9FB_0007099_020F9FC_0008B58_020F9FD_0004EC0,
   0x020F9FE_0008336_020F9FF_000523A_020FA00_0005207_020FA01_0005EA6_020FA02_00062D3_020FA03_0007CD6,
   0x020FA04_0005B85_020FA05_0006D1E_020FA06_00066B4_020FA07_0008F3B_020FA08_000884C_020FA09_000964D,
   0x020FA0A_000898B_020FA0B_0005ED3_020FA0C_0005140_020FA0D_00055C0_020FA10_000585A_020FA12_0006674,
   0x020FA15_00051DE_020FA16_000732A_020FA17_00076CA_020FA18_000793C_020FA19_000795E_020FA1A_0007965,
   0x020FA1B_000798F_020FA1C_0009756_020FA1D_0007CBE_020FA1E_0007FBD_020FA20_0008612_020FA22_0008AF8,
   0x020FA25_0009038_020FA26_00090FD_020FA2A_00098EF_020FA2B_00098FC_020FA2C_0009928_020FA2D_0009DB4,
   0x020FA2E_00090DE_020FA2F_00096B7_020FA30_0004FAE_020FA31_00050E7_020FA32_000514D_020FA33_00052C9,
   0x020FA34_00052E4_020FA35_0005351_020FA36_000559D_020FA37_0005606_020FA38_0005668_020FA39_0005840,
   0x020FA3A_00058A8_020FA3B_0005C64_020FA3C_0005C6E_020FA3D_0006094_020FA3E_0006168_020FA3F_000618E,
   0x020FA40_00061F2_020FA41_000654F_020FA42_00065E2_020FA43_0006691_020FA44_0006885_020FA45_0006D77,
   0x020FA46_0006E1A_020FA47_0006F22_020FA48_000716E_020FA49_000722B_020FA4A_0007422_020FA4B_0007891,
   0x020FA4C_000793E_020FA4D_0007949_020FA4E_0007948_020FA4F_0007950_020FA50_0007956_020FA51_000795D,
   0x020FA52_000798D_020FA53_000798E_020FA54_0007A40_020FA55_0007A81_020FA56_0007BC0_020FA57_0007DF4,
   0x020FA58_0007E09_020FA59_0007E41_020FA5A_0007F72_020FA5B_0008005_020FA5C_00081ED_020FA5D_0008279,
   0x020FA5E_0008279_020FA5F_0008457_020FA60_0008910_020FA61_0008996_020FA62_0008B01_020FA63_0008B39,
   0x020FA64_0008CD3_020FA65_0008D08_020FA66_0008FB6_020FA67_0009038_020FA68_00096E3_020FA69_00097FF,
   0x020FA6A_000983B_020FA6B_0006075_020FA6C_00242EE_020FA6D_0008218_020FA70_0004E26_020FA71_00051B5,
   0x020FA72_0005168_020FA73_0004F80_020FA74_0005145_020FA75_0005180_020FA76_00052C7_020FA77_00052FA,
   0x020FA78_000559D_020FA79_0005555_020FA7A_0005599_020FA7B_00055E2_020FA7C_000585A_020FA7D_00058B3,
   0x020FA7E_0005944_020FA7F_0005954_020FA80_0005A62_020FA81_0005B28_020FA82_0005ED2_020FA83_0005ED9,
   0x020FA84_0005F69_020FA85_0005FAD_020FA86_00060D8_020FA87_000614E_020FA88_0006108_020FA89_000618E,
   0x020FA8A_0006160_020FA8B_00061F2_020FA8C_0006234_020FA8D_00063C4_020FA8E_000641C_020FA8F_0006452,
   0x020FA90_0006556_020FA91_0006674_020FA92_0006717_020FA93_000671B_020FA94_0006756_020FA95_0006B79,
   0x020FA96_0006BBA_020FA97_0006D41_020FA98_0006EDB_020FA99_0006ECB_020FA9A_0006F22_020FA9B_000701E,
   0x020FA9C_000716E_020FA9D_00077A7_020FA9E_0007235_020FA9F_00072AF_020FAA0_000732A_020FAA1_0007471,
   0x020FAA2_0007506_020FAA3_000753B_020FAA4_000761D_020FAA5_000761F_020FAA6_00076CA_020FAA7_00076DB,
   0x020FAA8_00076F4_020FAA9_000774A_020FAAA_0007740_020FAAB_00078CC_020FAAC_0007AB1_020FAAD_0007BC0,
   0x020FAAE_0007C7B_020FAAF_0007D5B_020FAB0_0007DF4_020FAB1_0007F3E_020FAB2_0008005_020FAB3_0008352,
   0x020FAB4_00083EF_020FAB5_0008779_020FAB6_0008941_020FAB7_0008986_020FAB8_0008996_020FAB9_0008ABF,
   0x020FABA_0008AF8_020FABB_0008ACB_020FABC_0008B01_020FABD_0008AFE_020FABE_0008AED_020FABF_0008B39,
   0x020FAC0_0008B8A_020FAC1_0008D08_020FAC2_0008F38_020FAC3_0009072_020FAC4_0009199_020FAC5_0009276,
   0x020FAC6_000967C_020FAC7_00096E3_020FAC8_0009756_020FAC9_00097DB_020FACA_00097FF_020FACB_000980B,
   0x020FACC_000983B_020FACD_0009B12_020FACE_0009F9C_020FACF_002284A_020FAD0_0022844_020FAD1_00233D5,
   0x020FAD2_0003B9D_020FAD3_0004018_020FAD4_0004039_020FAD5_0025249_020FAD6_0025CD0_020FAD7_0027ED3,
   0x020FAD8_0009F43_020FAD9_0009F8E_040FB1D_00005D9_00005B4_040FB1F_00005F2_00005B7_040FB2A_00005E9_00005C1,
   0x040FB2B_00005E9_00005C2_060FB2C_00005E9_00005BC_00005C1_060FB2D_00005E9_00005BC_00005C2,
   0x040FB2E_00005D0_00005B7_040FB2F_00005D0_00005B8_040FB30_00005D0_00005BC_040FB31_00005D1_00005BC,
   0x040FB32_00005D2_00005BC_040FB33_00005D3_00005BC_040FB34_00005D4_00005BC_040FB35_00005D5_00005BC,
   0x040FB36_00005D6_00005BC_040FB38_00005D8_00005BC_040FB39_00005D9_00005BC_040FB3A_00005DA_00005BC,
   0x040FB3B_00005DB_00005BC_040FB3C_00005DC_00005BC_040FB3E_00005DE_00005BC_040FB40_00005E0_00005BC,
   0x040FB41_00005E1_00005BC_040FB43_00005E3_00005BC_040FB44_00005E4_00005BC_040FB46_00005E6_00005BC,
   0x040FB47_00005E7_00005BC_040FB48_00005E8_00005BC_040FB49_00005E9_00005BC_040FB4A_00005EA_00005BC,
   0x040FB4B_00005D5_00005B9_040FB4C_00005D1_00005BF_040FB4D_00005DB_00005BF_040FB4E_00005E4_00005BF,
   0x04105C9_00105D2_0000307_04105E4_00105DA_0000307_041109A_0011099_00110BA_041109C_001109B_00110BA,
   0x04110AB_00110A5_00110BA_041112E_0011131_0011127_041112F_0011132_0011127_041134B_0011347_001133E,
   0x041134C_0011347_0011357_0411383_0011382_00113C9_0411385_0011384_00113BB_041138E_001138B_00113C2,
   0x0411391_0011390_00113C9_04113C5_00113C2_00113C2_04113C7_00113C2_00113B8_04113C8_00113C2_00113C9,
   0x04114BB_00114B9_00114BA_04114BC_00114B9_00114B0_04114BE_00114B9_00114BD_04115BA_00115B8_00115AF,
   0x04115BB_00115B9_00115AF_0411938_0011935_0011930_0416121_001611E_001611E_0416122_001611E_0016129,
   0x0416123_001611E_001611F_0416124_0016129_001611F_0416125_001611E_0016120_0616126_001611E_001611E_001611F,
   0x0616127_001611E_0016129_001611F_0616128_001611E_001611E_0016120_0416D68_0016D67_0016D67,
   0x0416D69_0016D63_0016D67_0616D6A_0016D63_0016D67_0016D67_041D15E_001D157_001D165_041D15F_001D158_001D165,
   0x061D160_001D158_001D165_001D16E_061D161_001D158_001D165_001D16F_061D162_001D158_001D165_001D170,
   0x061D163_001D158_001D165_001D171_061D164_001D158_001D165_001D172_041D1BB_001D1B9_001D165,
   0x041D1BC_001D1BA_001D165_061D1BD_001D1B9_001D165_001D16E_061D1BE_001D1BA_001D165_001D16E,
   0x061D1BF_001D1B9_001D165_001D16F_061D1C0_001D1BA_001D165_001D16F_022F800_0004E3D_022F801_0004E38,
   0x022F802_0004E41_022F803_0020122_022F804_0004F60_022F805_0004FAE_022F806_0004FBB_022F807_0005002,
   0x022F808_000507A_022F809_0005099_022F80A_00050E7_022F80B_00050CF_022F80C_000349E_022F80D_002063A,
   0x022F80E_000514D_022F80F_0005154_022F810_0005164_022F811_0005177_022F812_002051C_022F813_00034B9,
   0x022F814_0005167_022F815_000518D_022F816_002054B_022F817_0005197_022F818_00051A4_022F819_0004ECC,
   0x022F81A_00051AC_022F81B_00051B5_022F81C_00291DF_022F81D_00051F5_022F81E_0005203_022F81F_00034DF,
   0x022F820_000523B_022F821_0005246_022F822_0005272_022F823_0005277_022F824_0003515_022F825_00052C7,
   0x022F826_00052C9_022F827_00052E4_022F828_00052FA_022F829_0005305_022F82A_0005306_022F82B_0005317,
   0x022F82C_0005349_022F82D_0005351_022F82E_000535A_022F82F_0005373_022F830_000537D_022F831_000537F,
   0x022F832_000537F_022F833_000537F_022F834_0020A2C_022F835_0007070_022F836_00053CA_022F837_00053DF,
   0x022F838_0020B63_022F839_00053EB_022F83A_00053F1_022F83B_0005406_022F83C_000549E_022F83D_0005438,
   0x022F83E_0005448_022F83F_0005468_022F840_00054A2_022F841_00054F6_022F842_0005510_022F843_0005553,
   0x022F844_0005563_022F845_0005584_022F846_0005584_022F847_0005599_022F848_00055AB_022F849_00055B3,
   0x022F84A_00055C2_022F84B_0005716_022F84C_0005606_022F84D_0005717_022F84E_0005651_022F84F_0005674,
   0x022F850_0005207_022F851_00058EE_022F852_00057CE_022F853_00057F4_022F854_000580D_022F855_000578B,
   0x022F856_0005832_022F857_0005831_022F858_00058AC_022F859_00214E4_022F85A_00058F2_022F85B_00058F7,
   0x022F85C_0005906_022F85D_000591A_022F85E_0005922_022F85F_0005962_022F860_00216A8_022F861_00216EA,
   0x022F862_00059EC_022F863_0005A1B_022F864_0005A27_022F865_00059D8_022F866_0005A66_022F867_00036EE,
   0x022F868_00036FC_022F869_0005B08_022F86A_0005B3E_022F86B_0005B3E_022F86C_00219C8_022F86D_0005BC3,
   0x022F86E_0005BD8_022F86F_0005BE7_022F870_0005BF3_022F871_0021B18_022F872_0005BFF_022F873_0005C06,
   0x022F874_0005F53_022F875_0005C22_022F876_0003781_022F877_0005C60_022F878_0005C6E_022F879_0005CC0,
   0x022F87A_0005C8D_022F87B_0021DE4_022F87C_0005D43_022F87D_0021DE6_022F87E_0005D6E_022F87F_0005D6B,
   0x022F880_0005D7C_022F881_0005DE1_022F882_0005DE2_022F883_000382F_022F884_0005DFD_022F885_0005E28,
   0x022F886_0005E3D_022F887_0005E69_022F888_0003862_022F889_0022183_022F88A_000387C_022F88B_0005EB0,
   0x022F88C_0005EB3_022F88D_0005EB6_022F88E_0005ECA_022F88F_002A392_022F890_0005EFE_022F891_0022331,
   0x022F892_0022331_022F893_0008201_022F894_0005F22_022F895_0005F22_022F896_00038C7_022F897_00232B8,
   0x022F898_00261DA_022F899_0005F62_022F89A_0005F6B_022F89B_00038E3_022F89C_0005F9A_022F89D_0005FCD,
   0x022F89E_0005FD7_022F89F_0005FF9_022F8A0_0006081_022F8A1_000393A_022F8A2_000391C_022F8A3_0006094,
   0x022F8A4_00226D4_022F8A5_00060C7_022F8A6_0006148_022F8A7_000614C_022F8A8_000614E_022F8A9_000614C,
   0x022F8AA_000617A_022F8AB_000618E_022F8AC_00061B2_022F8AD_00061A4_022F8AE_00061AF_022F8AF_00061DE,
   0x022F8B0_00061F2_022F8B1_00061F6_022F8B2_0006210_022F8B3_000621B_022F8B4_000625D_022F8B5_00062B1,
   0x022F8B6_00062D4_022F8B7_0006350_022F8B8_0022B0C_022F8B9_000633D_022F8BA_00062FC_022F8BB_0006368,
   0x022F8BC_0006383_022F8BD_00063E4_022F8BE_0022BF1_022F8BF_0006422_022F8C0_00063C5_022F8C1_00063A9,
   0x022F8C2_0003A2E_022F8C3_0006469_022F8C4_000647E_022F8C5_000649D_022F8C6_0006477_022F8C7_0003A6C,
   0x022F8C8_000654F_022F8C9_000656C_022F8CA_002300A_022F8CB_00065E3_022F8CC_00066F8_022F8CD_0006649,
   0x022F8CE_0003B19_022F8CF_0006691_022F8D0_0003B08_022F8D1_0003AE4_022F8D2_0005192_022F8D3_0005195,
   0x022F8D4_0006700_022F8D5_000669C_022F8D6_00080AD_022F8D7_00043D9_022F8D8_0006717_022F8D9_000671B,
   0x022F8DA_0006721_022F8DB_000675E_022F8DC_0006753_022F8DD_00233C3_022F8DE_0003B49_022F8DF_00067FA,
   0x022F8E0_0006785_022F8E1_0006852_022F8E2_0006885_022F8E3_002346D_022F8E4_000688E_022F8E5_000681F,
   0x022F8E6_0006914_022F8E7_0003B9D_022F8E8_0006942_022F8E9_00069A3_022F8EA_00069EA_022F8EB_0006AA8,
   0x022F8EC_00236A3_022F8ED_0006ADB_022F8EE_0003C18_022F8EF_0006B21_022F8F0_00238A7_022F8F1_0006B54,
   0x022F8F2_0003C4E_022F8F3_0006B72_022F8F4_0006B9F_022F8F5_0006BBA_022F8F6_0006BBB_022F8F7_0023A8D,
   0x022F8F8_0021D0B_022F8F9_0023AFA_022F8FA_0006C4E_022F8FB_0023CBC_022F8FC_0006CBF_022F8FD_0006CCD,
   0x022F8FE_0006C67_022F8FF_0006D16_022F900_0006D3E_022F901_0006D77_022F902_0006D41_022F903_0006D69,
   0x022F904_0006D78_022F905_0006D85_022F906_0023D1E_022F907_0006D34_022F908_0006E2F_022F909_0006E6E,
   0x022F90A_0003D33_022F90B_0006ECB_022F90C_0006EC7_022F90D_0023ED1_022F90E_0006DF9_022F90F_0006F6E,
   0x022F910_0023F5E_022F911_0023F8E_022F912_0006FC6_022F913_0007039_022F914_000701E_022F915_000701B,
   0x022F916_0003D96_022F917_000704A_022F918_000707D_022F919_0007077_022F91A_00070AD_022F91B_0020525,
   0x022F91C_0007145_022F91D_0024263_022F91E_000719C_022F91F_00243AB_022F920_0007228_022F921_0007235,
   0x022F922_0007250_022F923_0024608_022F924_0007280_022F925_0007295_022F926_0024735_022F927_0024814,
   0x022F928_000737A_022F929_000738B_022F92A_0003EAC_022F92B_00073A5_022F92C_0003EB8_022F92D_0003EB8,
   0x022F92E_0007447_022F92F_000745C_022F930_0007471_022F931_0007485_022F932_00074CA_022F933_0003F1B,
   0x022F934_0007524_022F935_0024C36_022F936_000753E_022F937_0024C92_022F938_0007570_022F939_002219F,
   0x022F93A_0007610_022F93B_0024FA1_022F93C_0024FB8_022F93D_0025044_022F93E_0003FFC_022F93F_0004008,
   0x022F940_00076F4_022F941_00250F3_022F942_00250F2_022F943_0025119_022F944_0025133_022F945_000771E,
   0x022F946_000771F_022F947_000771F_022F948_000774A_022F949_0004039_022F94A_000778B_022F94B_0004046,
   0x022F94C_0004096_022F94D_002541D_022F94E_000784E_022F94F_000788C_022F950_00078CC_022F951_00040E3,
   0x022F952_0025626_022F953_0007956_022F954_002569A_022F955_00256C5_022F956_000798F_022F957_00079EB,
   0x022F958_000412F_022F959_0007A40_022F95A_0007A4A_022F95B_0007A4F_022F95C_002597C_022F95D_0025AA7,
   0x022F95E_0025AA7_022F95F_0007AEE_022F960_0004202_022F961_0025BAB_022F962_0007BC6_022F963_0007BC9,
   0x022F964_0004227_022F965_0025C80_022F966_0007CD2_022F967_00042A0_022F968_0007CE8_022F969_0007CE3,
   0x022F96A_0007D00_022F96B_0025F86_022F96C_0007D63_022F96D_0004301_022F96E_0007DC7_022F96F_0007E02,
   0x022F970_0007E45_022F971_0004334_022F972_0026228_022F973_0026247_022F974_0004359_022F975_00262D9,
   0x022F976_0007F7A_022F977_002633E_022F978_0007F95_022F979_0007FFA_022F97A_0008005_022F97B_00264DA,
   0x022F97C_0026523_022F97D_0008060_022F97E_00265A8_022F97F_0008070_022F980_002335F_022F981_00043D5,
   0x022F982_00080B2_022F983_0008103_022F984_000440B_022F985_000813E_022F986_0005AB5_022F987_00267A7,
   0x022F988_00267B5_022F989_0023393_022F98A_002339C_022F98B_0008201_022F98C_0008204_022F98D_0008F9E,
   0x022F98E_000446B_022F98F_0008291_022F990_000828B_022F991_000829D_022F992_00052B3_022F993_00082B1,
   0x022F994_00082B3_022F995_00082BD_022F996_00082E6_022F997_0026B3C_022F998_00082E5_022F999_000831D,
   0x022F99A_0008363_022F99B_00083AD_022F99C_0008323_022F99D_00083BD_022F99E_00083E7_022F99F_0008457,
   0x022F9A0_0008353_022F9A1_00083CA_022F9A2_00083CC_022F9A3_00083DC_022F9A4_0026C36_022F9A5_0026D6B,
   0x022F9A6_0026CD5_022F9A7_000452B_022F9A8_00084F1_022F9A9_00084F3_022F9AA_0008516_022F9AB_00273CA,
   0x022F9AC_0008564_022F9AD_0026F2C_022F9AE_000455D_022F9AF_0004561_022F9B0_0026FB1_022F9B1_00270D2,
   0x022F9B2_000456B_022F9B3_0008650_022F9B4_000865C_022F9B5_0008667_022F9B6_0008669_022F9B7_00086A9,
   0x022F9B8_0008688_022F9B9_000870E_022F9BA_00086E2_022F9BB_0008779_022F9BC_0008728_022F9BD_000876B,
   0x022F9BE_0008786_022F9BF_00045D7_022F9C0_00087E1_022F9C1_0008801_022F9C2_00045F9_022F9C3_0008860,
   0x022F9C4_0008863_022F9C5_0027667_022F9C6_00088D7_022F9C7_00088DE_022F9C8_0004635_022F9C9_00088FA,
   0x022F9CA_00034BB_022F9CB_00278AE_022F9CC_0027966_022F9CD_00046BE_022F9CE_00046C7_022F9CF_0008AA0,
   0x022F9D0_0008AED_022F9D1_0008B8A_022F9D2_0008C55_022F9D3_0027CA8_022F9D4_0008CAB_022F9D5_0008CC1,
   0x022F9D6_0008D1B_022F9D7_0008D77_022F9D8_0027F2F_022F9D9_0020804_022F9DA_0008DCB_022F9DB_0008DBC,
   0x022F9DC_0008DF0_022F9DD_00208DE_022F9DE_0008ED4_022F9DF_0008F38_022F9E0_00285D2_022F9E1_00285ED,
   0x022F9E2_0009094_022F9E3_00090F1_022F9E4_0009111_022F9E5_002872E_022F9E6_000911B_022F9E7_0009238,
   0x022F9E8_00092D7_022F9E9_00092D8_022F9EA_000927C_022F9EB_00093F9_022F9EC_0009415_022F9ED_0028BFA,
   0x022F9EE_000958B_022F9EF_0004995_022F9F0_00095B7_022F9F1_0028D77_022F9F2_00049E6_022F9F3_00096C3,
   0x022F9F4_0005DB2_022F9F5_0009723_022F9F6_0029145_022F9F7_002921A_022F9F8_0004A6E_022F9F9_0004A76,
   0x022F9FA_00097E0_022F9FB_002940A_022F9FC_0004AB2_022F9FD_0029496_022F9FE_000980B_022F9FF_000980B,
   0x022FA00_0009829_022FA01_00295B6_022FA02_00098E2_022FA03_0004B33_022FA04_0009929_022FA05_00099A7,
   0x022FA06_00099C2_022FA07_00099FE_022FA08_0004BCE_022FA09_0029B30_022FA0A_0009B12_022FA0B_0009C40,
   0x022FA0C_0009CFD_022FA0D_0004CCE_022FA0E_0004CED_022FA0F_0009D67_022FA10_002A0CE_022FA11_0004CF8,
   0x022FA12_002A105_022FA13_002A20E_022FA14_002A291_022FA15_0009EBB_022FA16_0004D56_022FA17_0009EF9,
   0x022FA18_0009EFE_022FA19_0009F05_022FA1A_0009F0F_022FA1B_0009F16_022FA1C_0009F3B_022FA1D_002A600]

/-- Primary composites: first part, second part and whole, six digits each. -/
def compositionRows : List Nat :=
  [0x00003C00033800226E_00003D000338002260_00003E00033800226F_0000410003000000C0,
   0x0000410003010000C1_0000410003020000C2_0000410003030000C3_000041000304000100,
   0x000041000306000102_000041000307000226_0000410003080000C4_000041000309001EA2,
   0x00004100030A0000C5_00004100030C0001CD_00004100030F000200_000041000311000202,
   0x000041000323001EA0_000041000325001E00_000041000328000104_000042000307001E02,
   0x000042000323001E04_000042000331001E06_000043000301000106_000043000302000108,
   0x00004300030700010A_00004300030C00010C_0000430003270000C7_000044000307001E0A,
   0x00004400030C00010E_000044000323001E0C_000044000327001E10_00004400032D001E12,
   0x000044000331001E0E_0000450003000000C8_0000450003010000C9_0000450003020000CA,
   0x000045000303001EBC_000045000304000112_000045000306000114_000045000307000116,
   0x0000450003080000CB_000045000309001EBA_00004500030C00011A_00004500030F000204,
   0x000045000311000206_000045000323001EB8_000045000327000228_000045000328000118,
   0x00004500032D001E18_000045000330001E1A_000046000307001E1E_0000470003010001F4,
   0x00004700030200011C_000047000304001E20_00004700030600011E_000047000307000120,
   0x00004700030C0001E6_000047000327000122_000048000302000124_000048000307001E22,
   0x000048000308001E26_00004800030C00021E_000048000323001E24_000048000327001E28,
   0x00004800032E001E2A_0000490003000000CC_0000490003010000CD_0000490003020000CE,
   0x000049000303000128_00004900030400012A_00004900030600012C_000049000307000130,
   0x0000490003080000CF_000049000309001EC8_00004900030C0001CF_00004900030F000208,
   0x00004900031100020A_000049000323001ECA_00004900032800012E_000049000330001E2C,
   0x00004A000302000134_00004B000301001E30_00004B00030C0001E8_00004B000323001E32,
   0x00004B000327000136_00004B000331001E34_00004C000301000139_00004C00030C00013D,
   0x00004C000323001E36_00004C00032700013B_00004C00032D001E3C_00004C000331001E3A,
   0x00004D000301001E3E_00004D000307001E40_00004D000323001E42_00004E0003000001F8,
   0x00004E000301000143_00004E0003030000D1_00004E000307001E44_00004E00030C000147,
   0x00004E000323001E46_00004E000327000145_00004E00032D001E4A_00004E000331001E48,
   0x00004F0003000000D2_00004F0003010000D3_00004F0003020000D4_00004F0003030000D5,
   0x00004F00030400014C_00004F00030600014E_00004F00030700022E_00004F0003080000D6,
   0x00004F000309001ECE_00004F00030B000150_00004F00030C0001D1_00004F00030F00020C,
   0x00004F00031100020E_00004F00031B0001A0_00004F000323001ECC_00004F0003280001EA,
   0x000050000301001E54_000050000307001E56_000052000301000154_000052000307001E58,
   0x00005200030C000158_00005200030F000210_000052000311000212_000052000323001E5A,
   0x000052000327000156_000052000331001E5E_00005300030100015A_00005300030200015C,
   0x000053000307001E60_00005300030C000160_000053000323001E62_000053000326000218,
   0x00005300032700015E_000054000307001E6A_00005400030C000164_000054000323001E6C,
   0x00005400032600021A_000054000327000162_00005400032D001E70_000054000331001E6E,
   0x0000550003000000D9_0000550003010000DA_0000550003020000DB_000055000303000168,
   0x00005500030400016A_00005500030600016C_0000550003080000DC_000055000309001EE6,
   0x00005500030A00016E_00005500030B000170_00005500030C0001D3_00005500030F000214,
   0x000055000311000216_00005500031B0001AF_000055000323001EE4_000055000324001E72,
   0x000055000328000172_00005500032D001E76_000055000330001E74_000056000303001E7C,
   0x000056000323001E7E_000057000300001E80_000057000301001E82_000057000302000174,
   0x000057000307001E86_000057000308001E84_000057000323001E88_000058000307001E8A,
   0x000058000308001E8C_000059000300001EF2_0000590003010000DD_000059000302000176,
   0x000059000303001EF8_000059000304000232_000059000307001E8E_000059000308000178,
   0x000059000309001EF6_000059000323001EF4_00005A000301000179_00005A000302001E90,
   0x00005A00030700017B_00005A00030C00017D_00005A000323001E92_00005A000331001E94,
   0x0000610003000000E0_0000610003010000E1_0000610003020000E2_0000610003030000E3,
   0x000061000304000101_000061000306000103_000061000307000227_0000610003080000E4,
   0x000061000309001EA3_00006100030A0000E5_00006100030C0001CE_00006100030F000201,
   0x000061000311000203_000061000323001EA1_000061000325001E01_000061000328000105,
   0x000062000307001E03_000062000323001E05_000062000331001E07_000063000301000107,
   0x000063000302000109_00006300030700010B_00006300030C00010D_0000630003270000E7,
   0x000064000307001E0B_00006400030C00010F_000064000323001E0D_000064000327001E11,
   0x00006400032D001E13_000064000331001E0F_0000650003000000E8_0000650003010000E9,
   0x0000650003020000EA_000065000303001EBD_000065000304000113_000065000306000115,
   0x000065000307000117_0000650003080000EB_000065000309001EBB_00006500030C00011B,
   0x00006500030F000205_000065000311000207_000065000323001EB9_000065000327000229,
   0x000065000328000119_00006500032D001E19_000065000330001E1B_000066000307001E1F,
   0x0000670003010001F5_00006700030200011D_000067000304001E21_00006700030600011F,
   0x000067000307000121_00006700030C0001E7_000067000327000123_000068000302000125,
   0x000068000307001E23_000068000308001E27_00006800030C00021F_000068000323001E25,
   0x000068000327001E29_00006800032E001E2B_000068000331001E96_0000690003000000EC,
   0x0000690003010000ED_0000690003020000EE_000069000303000129_00006900030400012B,
   0x00006900030600012D_0000690003080000EF_000069000309001EC9_00006900030C0001D0,
   0x00006900030F000209_00006900031100020B_000069000323001ECB_00006900032800012F,
   0x000069000330001E2D_00006A000302000135_00006A00030C0001F0_00006B000301001E31,
   0x00006B00030C0001E9_00006B000323001E33_00006B000327000137_00006B000331001E35,
   0x00006C00030100013A_00006C00030C00013E_00006C000323001E37_00006C00032700013C,
   0x00006C00032D001E3D_00006C000331001E3B_00006D000301001E3F_00006D000307001E41,
   0x00006D000323001E43_00006E0003000001F9_00006E000301000144_00006E0003030000F1,
   0x00006E000307001E45_00006E00030C000148_00006E000323001E47_00006E000327000146,
   0x00006E00032D001E4B_00006E000331001E49_00006F0003000000F2_00006F0003010000F3,
   0x00006F0003020000F4_00006F0003030000F5_00006F00030400014D_00006F00030600014F,
   0x00006F00030700022F_00006F0003080000F6_00006F000309001ECF_00006F00030B000151,
   0x00006F00030C0001D2_00006F00030F00020D_00006F00031100020F_00006F00031B0001A1,
   0x00006F000323001ECD_00006F0003280001EB_000070000301001E55_000070000307001E57,
   0x000072000301000155_000072000307001E59_00007200030C000159_00007200030F000211,
   0x000072000311000213_000072000323001E5B_000072000327000157_000072000331001E5F,
   0x00007300030100015B_00007300030200015D_000073000307001E61_00007300030C000161,
   0x000073000323001E63_000073000326000219_00007300032700015F_000074000307001E6B,
   0x000074000308001E97_00007400030C000165_000074000323001E6D_00007400032600021B,
   0x000074000327000163_00007400032D001E71_000074000331001E6F_0000750003000000F9,
   0x0000750003010000FA_0000750003020000FB_000075000303000169_00007500030400016B,
   0x00007500030600016D_0000750003080000FC_000075000309001EE7_00007500030A00016F,
   0x00007500030B000171_00007500030C0001D4_00007500030F000215_000075000311000217,
   0x00007500031B0001B0_000075000323001EE5_000075000324001E73_000075000328000173,
   0x00007500032D001E77_000075000330001E75_000076000303001E7D_000076000323001E7F,
   0x000077000300001E81_000077000301001E83_000077000302000175_000077000307001E87,
   0x000077000308001E85_00007700030A001E98_000077000323001E89_000078000307001E8B,
   0x000078000308001E8D_000079000300001EF3_0000790003010000FD_000079000302000177,
   0x000079000303001EF9_000079000304000233_000079000307001E8F_0000790003080000FF,
   0x000079000309001EF7_00007900030A001E99_000079000323001EF5_00007A00030100017A,
   0x00007A000302001E91_00007A00030700017C_00007A00030C00017E_00007A000323001E93,
   0x00007A000331001E95_0000A8000300001FED_0000A8000301000385_0000A8000342001FC1,
   0x0000C2000300001EA6_0000C2000301001EA4_0000C2000303001EAA_0000C2000309001EA8,
   0x0000C40003040001DE_0000C50003010001FA_0000C60003010001FC_0000C60003040001E2,
   0x0000C7000301001E08_0000CA000300001EC0_0000CA000301001EBE_0000CA000303001EC4,
   0x0000CA000309001EC2_0000CF000301001E2E_0000D4000300001ED2_0000D4000301001ED0,
   0x0000D4000303001ED6_0000D4000309001ED4_0000D5000301001E4C_0000D500030400022C,
   0x0000D5000308001E4E_0000D600030400022A_0000D80003010001FE_0000DC0003000001DB,
   0x0000DC0003010001D7_0000DC0003040001D5_0000DC00030C0001D9_0000E2000300001EA7,
   0x0000E2000301001EA5_0000E2000303001EAB_0000E2000309001EA9_0000E40003040001DF,
   0x0000E50003010001FB_0000E60003010001FD_0000E60003040001E3_0000E7000301001E09,
   0x0000EA000300001EC1_0000EA000301001EBF_0000EA000303001EC5_0000EA000309001EC3,
   0x0000EF000301001E2F_0000F4000300001ED3_0000F4000301001ED1_0000F4000303001ED7,
   0x0000F4000309001ED5_0000F5000301001E4D_0000F500030400022D_0000F5000308001E4F,
   0x0000F600030400022B_0000F80003010001FF_0000FC0003000001DC_0000FC0003010001D8,
   0x0000FC0003040001D6_0000FC00030C0001DA_000102000300001EB0_000102000301001EAE,
   0x000102000303001EB4_000102000309001EB2_000103000300001EB1_000103000301001EAF,
   0x000103000303001EB5_000103000309001EB3_000112000300001E14_000112000301001E16,
   0x000113000300001E15_000113000301001E17_00014C000300001E50_00014C000301001E52,
   0x00014D000300001E51_00014D000301001E53_00015A000307001E64_00015B000307001E65,
   0x000160000307001E66_000161000307001E67_000168000301001E78_000169000301001E79,
   0x00016A000308001E7A_00016B000308001E7B_00017F000307001E9B_0001A0000300001EDC,
   0x0001A0000301001EDA_0001A0000303001EE0_0001A0000309001EDE_0001A0000323001EE2,
   0x0001A1000300001EDD_0001A1000301001EDB_0001A1000303001EE1_0001A1000309001EDF,
   0x0001A1000323001EE3_0001AF000300001EEA_0001AF000301001EE8_0001AF000303001EEE,
   0x0001AF000309001EEC_0001AF000323001EF0_0001B0000300001EEB_0001B0000301001EE9,
   0x0001B0000303001EEF_0001B0000309001EED_0001B0000323001EF1_0001B700030C0001EE,
   0x0001EA0003040001EC_0001EB0003040001ED_0002260003040001E0_0002270003040001E1,
   0x000228000306001E1C_000229000306001E1D_00022E000304000230_00022F000304000231,
   0x00029200030C0001EF_000391000300001FBA_000391000301000386_000391000304001FB9,
   0x000391000306001FB8_000391000313001F08_000391000314001F09_000391000345001FBC,
   0x000395000300001FC8_000395000301000388_000395000313001F18_000395000314001F19,
   0x000397000300001FCA_000397000301000389_000397000313001F28_000397000314001F29,
   0x000397000345001FCC_000399000300001FDA_00039900030100038A_000399000304001FD9,
   0x000399000306001FD8_0003990003080003AA_000399000313001F38_000399000314001F39,
   0x00039F000300001FF8_00039F00030100038C_00039F000313001F48_00039F000314001F49,
   0x0003A1000314001FEC_0003A5000300001FEA_0003A500030100038E_0003A5000304001FE9,
   0x0003A5000306001FE8_0003A50003080003AB_0003A5000314001F59_0003A9000300001FFA,
   0x0003A900030100038F_0003A9000313001F68_0003A9000314001F69_0003A9000345001FFC,
   0x0003AC000345001FB4_0003AE000345001FC4_0003B1000300001F70_0003B10003010003AC,
   0x0003B1000304001FB1_0003B1000306001FB0_0003B1000313001F00_0003B1000314001F01,
   0x0003B1000342001FB6_0003B1000345001FB3_0003B5000300001F72_0003B50003010003AD,
   0x0003B5000313001F10_0003B5000314001F11_0003B7000300001F74_0003B70003010003AE,
   0x0003B7000313001F20_0003B7000314001F21_0003B7000342001FC6_0003B7000345001FC3,
   0x0003B9000300001F76_0003B90003010003AF_0003B9000304001FD1_0003B9000306001FD0,
   0x0003B90003080003CA_0003B9000313001F30_0003B9000314001F31_0003B9000342001FD6,
   0x0003BF000300001F78_0003BF0003010003CC_0003BF000313001F40_0003BF000314001F41,
   0x0003C1000313001FE4_0003C1000314001FE5_0003C5000300001F7A_0003C50003010003CD,
   0x0003C5000304001FE1_0003C5000306001FE0_0003C50003080003CB_0003C5000313001F50,
   0x0003C5000314001F51_0003C5000342001FE6_0003C9000300001F7C_0003C90003010003CE,
   0x0003C9000313001F60_0003C9000314001F61_0003C9000342001FF6_0003C9000345001FF3,
   0x0003CA000300001FD2_0003CA000301000390_0003CA000342001FD7_0003CB000300001FE2,
   0x0003CB0003010003B0_0003CB000342001FE7_0003CE000345001FF4_0003D20003010003D3,
   0x0003D20003080003D4_000406000308000407_0004100003060004D0_0004100003080004D2,
   0x000413000301000403_000415000300000400_0004150003060004D6_000415000308000401,
   0x0004160003060004C1_0004160003080004DC_0004170003080004DE_00041800030000040D,
   0x0004180003040004E2_000418000306000419_0004180003080004E4_00041A00030100040C,
   0x00041E0003080004E6_0004230003040004EE_00042300030600040E_0004230003080004F0,
   0x00042300030B0004F2_0004270003080004F4_00042B0003080004F8_00042D0003080004EC,
   0x0004300003060004D1_0004300003080004D3_000433000301000453_000435000300000450,
   0x0004350003060004D7_000435000308000451_0004360003060004C2_0004360003080004DD,
   0x0004370003080004DF_00043800030000045D_0004380003040004E3_000438000306000439,
   0x0004380003080004E5_00043A00030100045C_00043E0003080004E7_0004430003040004EF,
   0x00044300030600045E_0004430003080004F1_00044300030B0004F3_0004470003080004F5,
   0x00044B0003080004F9_00044D0003080004ED_000456000308000457_00047400030F000476,
   0x00047500030F000477_0004D80003080004DA_0004D90003080004DB_0004E80003080004EA,
   0x0004E90003080004EB_000627000653000622_000627000654000623_000627000655000625,
   0x000648000654000624_00064A000654000626_0006C10006540006C2_0006D20006540006D3,
   0x0006D50006540006C0_00092800093C000929_00093000093C000931_00093300093C000934,
   0x0009C70009BE0009CB_0009C70009D70009CC_000B47000B3E000B4B_000B47000B56000B48,
   0x000B47000B57000B4C_000B92000BD7000B94_000BC6000BBE000BCA_000BC6000BD7000BCC,
   0x000BC7000BBE000BCB_000C46000C56000C48_000CBF000CD5000CC0_000CC6000CC2000CCA,
   0x000CC6000CD5000CC7_000CC6000CD6000CC8_000CCA000CD5000CCB_000D46000D3E000D4A,
   0x000D46000D57000D4C_000D47000D3E000D4B_000DD9000DCA000DDA_000DD9000DCF000DDC,
   0x000DD9000DDF000DDE_000DDC000DCA000DDD_00102500102E001026_001B05001B35001B06,
   0x001B07001B35001B08_001B09001B35001B0A_001B0B001B35001B0C_001B0D001B35001B0E,
   0x001B11001B35001B12_001B3A001B35001B3B_001B3C001B35001B3D_001B3E001B35001B40,
   0x001B3F001B35001B41_001B42001B35001B43_001E36000304001E38_001E37000304001E39,
   0x001E5A000304001E5C_001E5B000304001E5D_001E62000307001E68_001E63000307001E69,
   0x001EA0000302001EAC_001EA0000306001EB6_001EA1000302001EAD_001EA1000306001EB7,
   0x001EB8000302001EC6_001EB9000302001EC7_001ECC000302001ED8_001ECD000302001ED9,
   0x001F00000300001F02_001F00000301001F04_001F00000342001F06_001F00000345001F80,
   0x001F01000300001F03_001F01000301001F05_001F01000342001F07_001F01000345001F81,
   0x001F02000345001F82_001F03000345001F83_001F04000345001F84_001F05000345001F85,
   0x001F06000345001F86_001F07000345001F87_001F08000300001F0A_001F08000301001F0C,
   0x001F08000342001F0E_001F08000345001F88_001F09000300001F0B_001F09000301001F0D,
   0x001F09000342001F0F_001F09000345001F89_001F0A000345001F8A_001F0B000345001F8B,
   0x001F0C000345001F8C_001F0D000345001F8D_001F0E000345001F8E_001F0F000345001F8F,
   0x001F10000300001F12_001F10000301001F14_001F11000300001F13_001F11000301001F15,
   0x001F18000300001F1A_001F18000301001F1C_001F19000300001F1B_001F19000301001F1D,
   0x001F20000300001F22_001F20000301001F24_001F20000342001F26_001F20000345001F90,
   0x001F21000300001F23_001F21000301001F25_001F21000342001F27_001F21000345001F91,
   0x001F22000345001F92_001F23000345001F93_001F24000345001F94_001F25000345001F95,
   0x001F26000345001F96_001F27000345001F97_001F28000300001F2A_001F28000301001F2C,
   0x001F28000342001F2E_001F28000345001F98_001F29000300001F2B_001F29000301001F2D,
   0x001F29000342001F2F_001F29000345001F99_001F2A000345001F9A_001F2B000345001F9B,
   0x001F2C000345001F9C_001F2D000345001F9D_001F2E000345001F9E_001F2F000345001F9F,
   0x001F30000300001F32_001F30000301001F34_001F30000342001F36_001F31000300001F33,
   0x001F31000301001F35_001F31000342001F37_001F38000300001F3A_001F38000301001F3C,
   0x001F38000342001F3E_001F39000300001F3B_001F39000301001F3D_001F39000342001F3F,
   0x001F40000300001F42_001F40000301001F44_001F41000300001F43_001F41000301001F45,
   0x001F48000300001F4A_001F48000301001F4C_001F49000300001F4B_001F49000301001F4D,
   0x001F50000300001F52_001F50000301001F54_001F50000342001F56_001F51000300001F53,
   0x001F51000301001F55_001F51000342001F57_001F59000300001F5B_001F59000301001F5D,
   0x001F59000342001F5F_001F60000300001F62_001F60000301001F64_001F60000342001F66,
   0x001F60000345001FA0_001F61000300001F63_001F61000301001F65_001F61000342001F67,
   0x001F61000345001FA1_001F62000345001FA2_001F63000345001FA3_001F64000345001FA4,
   0x001F65000345001FA5_001F66000345001FA6_001F67000345001FA7_001F68000300001F6A,
   0x001F68000301001F6C_001F68000342001F6E_001F68000345001FA8_001F69000300001F6B,
   0x001F69000301001F6D_001F69000342001F6F_001F69000345001FA9_001F6A000345001FAA,
   0x001F6B000345001FAB_001F6C000345001FAC_001F6D000345001FAD_001F6E000345001FAE,
   0x001F6F000345001FAF_001F70000345001FB2_001F74000345001FC2_001F7C000345001FF2,
   0x001FB6000345001FB7_001FBF000300001FCD_001FBF000301001FCE_001FBF000342001FCF,
   0x001FC6000345001FC7_001FF6000345001FF7_001FFE000300001FDD_001FFE000301001FDE,
   0x001FFE000342001FDF_00219000033800219A_00219200033800219B_0021940003380021AE,
   0x0021D00003380021CD_0021D20003380021CF_0021D40003380021CE_002203000338002204,
   0x002208000338002209_00220B00033800220C_002223000338002224_002225000338002226,
   0x00223C000338002241_002243000338002244_002245000338002247_002248000338002249,
   0x00224D00033800226D_002261000338002262_002264000338002270_002265000338002271,
   0x002272000338002274_002273000338002275_002276000338002278_002277000338002279,
   0x00227A000338002280_00227B000338002281_00227C0003380022E0_00227D0003380022E1,
   0x002282000338002284_002283000338002285_002286000338002288_002287000338002289,
   0x0022910003380022E2_0022920003380022E3_0022A20003380022AC_0022A80003380022AD,
   0x0022A90003380022AE_0022AB0003380022AF_0022B20003380022EA_0022B30003380022EB,
   0x0022B40003380022EC_0022B50003380022ED_003046003099003094_00304B00309900304C,
   0x00304D00309900304E_00304F003099003050_003051003099003052_003053003099003054,
   0x003055003099003056_003057003099003058_00305900309900305A_00305B00309900305C,
   0x00305D00309900305E_00305F003099003060_003061003099003062_003064003099003065,
   0x003066003099003067_003068003099003069_00306F003099003070_00306F00309A003071,
   0x003072003099003073_00307200309A003074_003075003099003076_00307500309A003077,
   0x003078003099003079_00307800309A00307A_00307B00309900307C_00307B00309A00307D,
   0x00309D00309900309E_0030A60030990030F4_0030AB0030990030AC_0030AD0030990030AE,
   0x0030AF0030990030B0_0030B10030990030B2_0030B30030990030B4_0030B50030990030B6,
   0x0030B70030990030B8_0030B90030990030BA_0030BB0030990030BC_0030BD0030990030BE,
   0x0030BF0030990030C0_0030C10030990030C2_0030C40030990030C5_0030C60030990030C7,
   0x0030C80030990030C9_0030CF0030990030D0_0030CF00309A0030D1_0030D20030990030D3,
   0x0030D200309A0030D4_0030D50030990030D6_0030D500309A0030D7_0030D80030990030D9,
   0x0030D800309A0030DA_0030DB0030990030DC_0030DB00309A0030DD_0030EF0030990030F7,
   0x0030F00030990030F8_0030F10030990030F9_0030F20030990030FA_0030FD0030990030FE,
   0x0105D20003070105C9_0105DA0003070105E4_0110990110BA01109A_01109B0110BA01109C,
   0x0110A50110BA0110AB_01113101112701112E_01113201112701112F_01134701133E01134B,
   0x01134701135701134C_0113820113C9011383_0113840113BB011385_01138B0113C201138E,
   0x0113900113C9011391_0113C20113B80113C7_0113C20113C20113C5_0113C20113C90113C8,
   0x0114B90114B00114BC_0114B90114BA0114BB_0114B90114BD0114BE_0115B80115AF0115BA,
   0x0115B90115AF0115BB_011935011930011938_01611E01611E016121_01611E01611F016123,
   0x01611E016120016125_01611E016129016122_01612101611F016126_016121016120016128,
   0x01612201611F016127_01612901611F016124_016D63016D67016D69_016D67016D67016D68,
   0x016D69016D67016D6A]

/-- Canonical combining classes other than zero, as fourteen-digit fields. -/
def combiningRows : List Nat :=
  [0x000300000314E6_000315000315E8_000316000319DC_00031A00031AE8_00031B00031BD8_00031C000320DC,
   0x000321000322CA_000323000326DC_000327000328CA_000329000333DC_00033400033801_00033900033CDC,
   0x00033D000344E6_000345000345F0_000346000346E6_000347000349DC_00034A00034CE6_00034D00034EDC,
   0x000350000352E6_000353000356DC_000357000357E6_000358000358E8_00035900035ADC_00035B00035BE6,
   0x00035C00035CE9_00035D00035EEA_00035F00035FE9_000360000361EA_000362000362E9_00036300036FE6,
   0x000483000487E6_000591000591DC_000592000595E6_000596000596DC_000597000599E6_00059A00059ADE,
   0x00059B00059BDC_00059C0005A1E6_0005A20005A7DC_0005A80005A9E6_0005AA0005AADC_0005AB0005ACE6,
   0x0005AD0005ADDE_0005AE0005AEE4_0005AF0005AFE6_0005B00005B00A_0005B10005B10B_0005B20005B20C,
   0x0005B30005B30D_0005B40005B40E_0005B50005B50F_0005B60005B610_0005B70005B711_0005B80005B812,
   0x0005B90005BA13_0005BB0005BB14_0005BC0005BC15_0005BD0005BD16_0005BF0005BF17_0005C10005C118,
   0x0005C20005C219_0005C40005C4E6_0005C50005C5DC_0005C70005C712_0005C80005C9E6_000610000617E6,
   0x0006180006181E_0006190006191F_00061A00061A20_00064B00064B1B_00064C00064C1C_00064D00064D1D,
   0x00064E00064E1E_00064F00064F1F_00065000065020_00065100065121_00065200065222_000653000654E6,
   0x000655000656DC_00065700065BE6_00065C00065CDC_00065D00065EE6_00065F00065FDC_00067000067023,
   0x0006D60006DCE6_0006DF0006E2E6_0006E30006E3DC_0006E40006E4E6_0006E70006E8E6_0006EA0006EADC,
   0x0006EB0006ECE6_0006ED0006EDDC_00071100071124_000730000730E6_000731000731DC_000732000733E6,
   0x000734000734DC_000735000736E6_000737000739DC_00073A00073AE6_00073B00073CDC_00073D00073DE6,
   0x00073E00073EDC_00073F000741E6_000742000742DC_000743000743E6_000744000744DC_000745000745E6,
   0x000746000746DC_000747000747E6_000748000748DC_00074900074AE6_0007EB0007F1E6_0007F20007F2DC,
   0x0007F30007F3E6_0007FD0007FDDC_000816000819E6_00081B000823E6_000825000827E6_00082900082DE6,
   0x00085900085BDC_000897000898E6_00089900089BDC_00089C00089FE6_0008CA0008CEE6_0008CF0008D3DC,
   0x0008D40008E1E6_0008E30008E3DC_0008E40008E5E6_0008E60008E6DC_0008E70008E8E6_0008E90008E9DC,
   0x0008EA0008ECE6_0008ED0008EFDC_0008F00008F01B_0008F10008F11C_0008F20008F21D_0008F30008F5E6,
   0x0008F60008F6DC_0008F70008F8E6_0008F90008FADC_0008FB0008FFE6_00093C00093C07_00094D00094D09,
   0x000951000951E6_000952000952DC_000953000954E6_0009BC0009BC07_0009CD0009CD09_0009FE0009FEE6,
   0x000A3C000A3C07_000A4D000A4D09_000ABC000ABC07_000ACD000ACD09_000B3C000B3C07_000B4D000B4D09,
   0x000BCD000BCD09_000C3C000C3C07_000C4D000C4D09_000C55000C5554_000C56000C565B_000CBC000CBC07,
   0x000CCD000CCD09_000D3B000D3C09_000D4D000D4D09_000DCA000DCA09_000E38000E3967_000E3A000E3A09,
   0x000E48000E4B6B_000EB8000EB976_000EBA000EBA09_000EC8000ECB7A_000F18000F19DC_000F35000F35DC,
   0x000F37000F37DC_000F39000F39D8_000F71000F7181_000F72000F7282_000F74000F7484_000F7A000F7D82,
   0x000F80000F8082_000F82000F83E6_000F84000F8409_000F86000F87E6_000FC6000FC6DC_00103700103707,
   0x00103900103A09_00108D00108DDC_00135D00135FE6_00171400171509_00173400173409_0017D20017D209,
   0x0017DD0017DDE6_0018A90018A9E4_001939001939DE_00193A00193AE6_00193B00193BDC_001A17001A17E6,
   0x001A18001A18DC_001A60001A6009_001A75001A7CE6_001A7F001A7FDC_001AB0001AB4E6_001AB5001ABADC,
   0x001ABB001ABCE6_001ABD001ABDDC_001ABF001AC0DC_001AC1001AC2E6_001AC3001AC4DC_001AC5001AC9E6,
   0x001ACA001ACADC_001ACB001ADCE6_001ADD001ADDDC_001AE0001AE5E6_001AE6001AE6DC_001AE7001AEAE6,
   0x001AEB001AEBEA_001AF0001AF0E6_001B34001B3407_001B44001B4409_001B6B001B6BE6_001B6C001B6CDC,
   0x001B6D001B73E6_001BAA001BAB09_001BE6001BE607_001BF2001BF309_001C37001C3707_001CD0001CD2E6,
   0x001CD4001CD401_001CD5001CD9DC_001CDA001CDBE6_001CDC001CDFDC_001CE0001CE0E6_001CE2001CE801,
   0x001CED001CEDDC_001CF4001CF4E6_001CF8001CF9E6_001DC0001DC1E6_001DC2001DC2DC_001DC3001DC9E6,
   0x001DCA001DCADC_001DCB001DCCE6_001DCD001DCDEA_001DCE001DCED6_001DCF001DCFDC_001DD0001DD0CA,
   0x001DD1001DF5E6_001DF6001DF6E8_001DF7001DF8E4_001DF9001DF9DC_001DFA001DFADA_001DFB001DFBE6,
   0x001DFC001DFCE9_001DFD001DFDDC_001DFE001DFEE6_001DFF001DFFDC_0020D00020D1E6_0020D20020D301,
   0x0020D40020D7E6_0020D80020DA01_0020DB0020DCE6_0020E10020E1E6_0020E50020E601_0020E70020E7E6,
   0x0020E80020E8DC_0020E90020E9E6_0020EA0020EB01_0020EC0020EFDC_0020F00020F0E6_002CEF002CF1E6,
   0x002D7F002D7F09_002DE0002DFFE6_00302A00302ADA_00302B00302BE4_00302C00302CE8_00302D00302DDE,
   0x00302E00302FE0_00309900309A08_00A66F00A66FE6_00A67400A67DE6_00A69E00A69FE6_00A6F000A6F1E6,
   0x00A80600A80609_00A82C00A82C09_00A8C400A8C409_00A8E000A8F1E6_00A92B00A92DDC_00A95300A95309,
   0x00A9B300A9B307_00A9C000A9C009_00AAB000AAB0E6_00AAB200AAB3E6_00AAB400AAB4DC_00AAB700AAB8E6,
   0x00AABE00AABFE6_00AAC100AAC1E6_00AAF600AAF609_00ABED00ABED09_00FB1E00FB1E1A_00FE2000FE26E6,
   0x00FE2700FE2DDC_00FE2E00FE2FE6_0101FD0101FDDC_0102E00102E0DC_01037601037AE6_010A0D010A0DDC,
   0x010A0F010A0FE6_010A38010A38E6_010A39010A3901_010A3A010A3ADC_010A3F010A3F09_010AE5010AE5E6,
   0x010AE6010AE6DC_010D24010D27E6_010D69010D6DE6_010EAB010EACE6_010EFA010EFBDC_010EFD010EFFDC,
   0x010F46010F47DC_010F48010F4AE6_010F4B010F4BDC_010F4C010F4CE6_010F4D010F50DC_010F82010F82E6,
   0x010F83010F83DC_010F84010F84E6_010F85010F85DC_01104601104609_01107001107009_01107F01107F09,
   0x0110B90110B909_0110BA0110BA07_011100011102E6_01113301113409_01117301117307_0111C00111C009,
   0x0111CA0111CA07_01123501123509_01123601123607_0112E90112E907_0112EA0112EA09_01133B01133C07,
   0x01134D01134D09_01136601136CE6_011370011374E6_0113CE0113D009_01144201144209_01144601144607,
   0x01145E01145EE6_0114C20114C209_0114C30114C307_0115BF0115BF09_0115C00115C007_01163F01163F09,
   0x0116B60116B609_0116B70116B707_01172B01172B09_01183901183909_01183A01183A07_01193D01193E09,
   0x01194301194307_0119E00119E009_011A34011A3409_011A47011A4709_011A99011A9909_011C3F011C3F09,
   0x011D42011D4207_011D44011D4509_011D97011D9709_011F41011F4209_01612F01612F09_016AF0016AF401,
   0x016B30016B36E6_016FF0016FF106_01BC9E01BC9E01_01D16501D166D8_01D16701D16901_01D16D01D16DE2,
   0x01D16E01D172D8_01D17B01D182DC_01D18501D189E6_01D18A01D18BDC_01D1AA01D1ADE6_01D24201D244E6,
   0x01E00001E006E6_01E00801E018E6_01E01B01E021E6_01E02301E024E6_01E02601E02AE6_01E08F01E08FE6,
   0x01E13001E136E6_01E2AE01E2AEE6_01E2EC01E2EFE6_01E4EC01E4EDE8_01E4EE01E4EEDC_01E4EF01E4EFE6,
   0x01E5EE01E5EEE6_01E5EF01E5EFDC_01E6E301E6E3E6_01E6E601E6E6E6_01E6EE01E6EFE6_01E6F501E6F5E6,
   0x01E8D001E8D6DC_01E94401E949E6_01E94A01E94A07]

end HostLookup.Idna
