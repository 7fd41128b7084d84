/-! The mapping of characters in names of Unicode Technical Standard 46, version 18.0, as packed rows. -/
namespace HostLookup.Idna

/-- Code points that a name may hold before mapping, as twelve-digit intervals. -/
def allowedRows : List Nat :=
  [0x00000000007F_0000A0000377_00037A00037F_00038400038A_00038C00038C_00038E0003A1_0003A300052F,
   0x000531000556_00055800058F_0005910005C9_0005D00005EA_0005EF0005F4_00060600061B_00061D0006DC,
   0x0006DE00070D_00071000074A_00074D0007B1_0007C00007FA_0007FD00082D_00083000083E_00084000085B,
   0x00085E00085E_00086000086A_00087000088F_0008970008E1_0008E3000983_00098500098C_00098F000990,
   0x0009930009A8_0009AA0009B0_0009B20009B2_0009B60009B9_0009BC0009C4_0009C70009C8_0009CB0009CE,
   0x0009D70009D7_0009DC0009DD_0009DF0009E3_0009E60009FE_000A01000A03_000A05000A0A_000A0F000A10,
   0x000A13000A28_000A2A000A30_000A32000A33_000A35000A36_000A38000A39_000A3C000A3C_000A3E000A42,
   0x000A47000A48_000A4B000A4D_000A51000A51_000A59000A5C_000A5E000A5E_000A66000A76_000A81000A83,
   0x000A85000A8D_000A8F000A91_000A93000AA8_000AAA000AB0_000AB2000AB3_000AB5000AB9_000ABC000AC5,
   0x000AC7000AC9_000ACB000ACD_000AD0000AD0_000AE0000AE3_000AE6000AF1_000AF9000AFF_000B01000B03,
   0x000B05000B0C_000B0F000B10_000B13000B28_000B2A000B30_000B32000B33_000B35000B39_000B3C000B44,
   0x000B47000B48_000B4B000B4D_000B53000B57_000B5C000B5D_000B5F000B63_000B66000B77_000B82000B83,
   0x000B85000B8A_000B8E000B90_000B92000B95_000B99000B9A_000B9C000B9C_000B9E000B9F_000BA3000BA4,
   0x000BA8000BAA_000BAE000BB9_000BBE000BC2_000BC6000BC8_000BCA000BCD_000BD0000BD0_000BD7000BD7,
   0x000BE6000BFA_000C00000C0C_000C0E000C10_000C12000C28_000C2A000C39_000C3C000C44_000C46000C48,
   0x000C4A000C4D_000C55000C56_000C58000C5A_000C5C000C5D_000C60000C63_000C66000C6F_000C77000C8C,
   0x000C8E000C90_000C92000CA8_000CAA000CB3_000CB5000CB9_000CBC000CC4_000CC6000CC8_000CCA000CCD,
   0x000CD5000CD6_000CDC000CDE_000CE0000CE3_000CE6000CEF_000CF1000CF3_000D00000D0C_000D0E000D10,
   0x000D12000D44_000D46000D48_000D4A000D4F_000D54000D63_000D66000D7F_000D81000D83_000D85000D96,
   0x000D9A000DB1_000DB3000DBB_000DBD000DBD_000DC0000DC6_000DCA000DCA_000DCF000DD4_000DD6000DD6,
   0x000DD8000DDF_000DE6000DEF_000DF2000DF4_000E01000E3A_000E3F000E5B_000E81000E82_000E84000E84,
   0x000E86000E8A_000E8C000EA3_000EA5000EA5_000EA7000EBD_000EC0000EC4_000EC6000EC6_000EC8000ECE,
   0x000ED0000ED9_000EDC000EDF_000F00000F47_000F49000F6C_000F71000F97_000F99000FBC_000FBE000FCC,
   0x000FCE000FDA_0010000010C5_0010C70010C7_0010CD0010CD_0010D0001248_00124A00124D_001250001256,
   0x001258001258_00125A00125D_001260001288_00128A00128D_0012900012B0_0012B20012B5_0012B80012BE,
   0x0012C00012C0_0012C20012C5_0012C80012D6_0012D8001310_001312001315_00131800135A_00135D00137C,
   0x001380001399_0013A00013F5_0013F80013FD_00140000167F_00168100169C_0016A00016F8_001700001715,
   0x00171F001736_001740001753_00176000176C_00176E001770_001772001773_0017800017DD_0017E00017E9,
   0x0017F00017F9_001800001819_001820001878_0018800018AA_0018B00018F5_00190000191E_00192000192B,
   0x00193000193B_001940001940_00194400196D_001970001974_0019800019AB_0019B00019C9_0019D00019DA,
   0x0019DE001A1B_001A1E001A5E_001A60001A7C_001A7F001A89_001A90001A99_001AA0001AAD_001AB0001ADD,
   0x001AE0001AEB_001AF0001AF0_001B00001B4C_001B4E001BF3_001BFC001C37_001C3B001C49_001C4D001C8A,
   0x001C90001CBA_001CBD001CC7_001CD0001CFA_001D00001F15_001F18001F1D_001F20001F45_001F48001F4D,
   0x001F50001F57_001F59001F59_001F5B001F5B_001F5D001F5D_001F5F001F7D_001F80001FB4_001FB6001FC4,
   0x001FC6001FD3_001FD6001FDB_001FDD001FEF_001FF2001FF4_001FF6001FFE_00200000200D_002010002023,
   0x002027002027_00202F002064_00206A002071_0020740020C4_0020D00020F0_00210000218B_002190002429,
   0x00244000244A_002460002487_00249C002B73_002B76002CF3_002CF9002D25_002D27002D27_002D2D002D2D,
   0x002D30002D67_002D6F002D70_002D7F002D96_002DA0002DA6_002DA8002DAE_002DB0002DB6_002DB8002DBE,
   0x002DC0002DC6_002DC8002DCE_002DD0002DD6_002DD8002DDE_002DE0002E5D_002E60002E61_002E80002E99,
   0x002E9B002EF3_002F00002FD5_00300000303F_003041003096_0030990030FF_00310500312F_00313100318E,
   0x0031900031E5_0031F000321E_0032200033C1_0033C30033C6_0033C80033D7_0033D900A48C_00A49000A4C6,
   0x00A4D000A62B_00A64000A6F7_00A70000A7E2_00A7F100A82C_00A83000A839_00A84000A877_00A88000A8C5,
   0x00A8CE00A8D9_00A8E000A953_00A95F00A97C_00A98000A9CD_00A9CF00A9D9_00A9DE00A9FE_00AA0000AA36,
   0x00AA4000AA4D_00AA5000AA59_00AA5C00AAC2_00AADB00AAF6_00AB0100AB06_00AB0900AB0E_00AB1100AB16,
   0x00AB2000AB26_00AB2800AB2E_00AB3000AB6D_00AB7000ABED_00ABF000ABF9_00AC0000D7A3_00D7B000D7C6,
   0x00D7CB00D7FB_00F90000FA6D_00FA7000FAD9_00FB0000FB06_00FB1300FB17_00FB1D00FB36_00FB3800FB3C,
   0x00FB3E00FB3E_00FB4000FB41_00FB4300FB44_00FB4600FDCF_00FDF000FE11_00FE1300FE18_00FE2000FE2F,
   0x00FE3100FE51_00FE5400FE66_00FE6800FE6B_00FE7000FE74_00FE7600FEFC_00FEFF00FEFF_00FF0100FFBE,
   0x00FFC200FFC7_00FFCA00FFCF_00FFD200FFD7_00FFDA00FFDC_00FFE000FFE6_00FFE800FFEE_01000001000B,
   0x01000D010026_01002801003A_01003C01003D_01003F01004D_01005001005D_0100800100FA_010100010102,
   0x010107010133_01013701018E_01019001019C_0101A00101A0_0101D00101FD_01028001029C_0102A00102D0,
   0x0102E00102FB_010300010323_01032D01034A_01035001037A_01038001039D_01039F0103C3_0103C80103D5,
   0x01040001049D_0104A00104A9_0104B00104D3_0104D80104FB_010500010527_010530010563_01056F01057A,
   0x01057C01058A_01058C010592_010594010595_0105970105A1_0105A30105B1_0105B30105B9_0105BB0105BC,
   0x0105C00105F3_010600010736_010740010755_010760010767_010780010785_0107870107B0_0107B20107BF,
   0x010800010805_010808010808_01080A010835_010837010838_01083C01083C_01083F010855_01085701089E,
   0x0108A70108AF_0108E00108F2_0108F40108F5_0108FB01091B_01091F010939_01093F010959_0109800109B7,
   0x0109BC0109CF_0109D2010A03_010A05010A06_010A0C010A13_010A15010A17_010A19010A35_010A38010A3A,
   0x010A3F010A48_010A50010A58_010A60010A9F_010AC0010AE6_010AEB010AF6_010B00010B35_010B39010B55,
   0x010B58010B72_010B78010B91_010B99010B9C_010BA9010BAF_010C00010C48_010C80010CB2_010CC0010CF2,
   0x010CFA010D27_010D30010D39_010D40010D65_010D69010D85_010D8E010D8F_010E60010E7E_010E80010EA9,
   0x010EAB010EAD_010EB0010EB1_010EC2010EC7_010ED0010ED8_010EFA010F27_010F30010F59_010F70010F89,
   0x010FB0010FCB_010FE0010FF6_01100001104D_011052011075_01107F0110BC_0110BE0110C2_0110D00110E8,
   0x0110F00110F9_011100011134_011136011147_011150011176_0111800111DF_0111E10111F4_011200011211,
   0x011213011241_011280011286_011288011288_01128A01128D_01128F01129D_01129F0112A9_0112B00112EA,
   0x0112F00112F9_011300011303_01130501130C_01130F011310_011313011328_01132A011330_011332011333,
   0x011335011339_01133B011344_011347011348_01134B01134D_011350011350_011357011357_01135D011363,
   0x01136601136C_011370011374_011380011389_01138B01138B_01138E01138E_0113900113B5_0113B70113C0,
   0x0113C20113C2_0113C50113C5_0113C70113CA_0113CC0113D5_0113D70113D8_0113E10113E2_01140001145B,
   0x01145D011461_0114800114C7_0114D00114D9_0115800115B5_0115B80115DD_011600011644_011650011659,
   0x01166001166C_0116800116B9_0116C00116C9_0116D00116E3_01170001171A_01171D01172B_011730011746,
   0x01180001183B_0118A00118F2_0118FF011906_011909011909_01190C011913_011915011916_011918011935,
   0x011937011938_01193B011946_011950011959_0119A00119A7_0119AA0119D7_0119DA0119E4_011A00011A47,
   0x011A50011AA2_011AB0011AF8_011B00011B09_011B60011B67_011BC0011BE1_011BF0011BF9_011C00011C08,
   0x011C0A011C36_011C38011C45_011C50011C6C_011C70011C8F_011C92011CA7_011CA9011CB6_011D00011D06,
   0x011D08011D09_011D0B011D36_011D3A011D3A_011D3C011D3D_011D3F011D47_011D50011D59_011D60011D65,
   0x011D67011D68_011D6A011D8E_011D90011D91_011D93011D98_011DA0011DA9_011DB0011DDB_011DE0011DE9,
   0x011EE0011EF8_011F00011F10_011F12011F3A_011F3E011F5A_011FB0011FB0_011FC0011FF1_011FFF012399,
   0x01240001246E_012470012474_012480012543_012550012686_012F90012FF2_01300001342F_013440013455,
   0x0134600143FA_014400014646_016100016139_016800016A38_016A40016A5E_016A60016A69_016A6E016ABE,
   0x016AC0016AC9_016AD0016AED_016AF0016AF5_016B00016B45_016B50016B59_016B5B016B61_016B63016B77,
   0x016B7D016B8F_016D40016D79_016D80016D9D_016DA0016DA9_016E40016E9A_016EA0016EB8_016EBB016ED3,
   0x016F00016F4A_016F4F016F87_016F8F016F9F_016FE0016FE4_016FF0016FF6_017000018CD5_018CFF018D1E,
   0x018D80018DF2_018E00019191_0191A00191D2_01AFF001AFF3_01AFF501AFFB_01AFFD01AFFE_01B00001B122,
   0x01B13201B132_01B15001B152_01B15501B155_01B16401B167_01B17001B2FB_01BC0001BC6A_01BC7001BC7C,
   0x01BC8001BC88_01BC9001BC99_01BC9C01BCA3_01CC0001CCFC_01CD0001CEB3_01CEBA01CED0_01CEE001CEF0,
   0x01CF0001CF2D_01CF3001CF46_01CF5001CFC3_01D00001D0F5_01D10001D126_01D12901D1EA_01D20001D245,
   0x01D2C001D2D3_01D2E001D2F3_01D30001D356_01D36001D378_01D40001D454_01D45601D49C_01D49E01D49F,
   0x01D4A201D4A2_01D4A501D4A6_01D4A901D4AC_01D4AE01D4B9_01D4BB01D4BB_01D4BD01D4C3_01D4C501D505,
   0x01D50701D50A_01D50D01D514_01D51601D51C_01D51E01D539_01D53B01D53E_01D54001D544_01D54601D546,
   0x01D54A01D550_01D55201D6A5_01D6A801D7CB_01D7CE01DA8B_01DA9B01DA9F_01DAA101DAAF_01DF0001DF1E,
   0x01DF2501DF2A_01E00001E006_01E00801E018_01E01B01E021_01E02301E024_01E02601E02A_01E03001E06D,
   0x01E08F01E08F_01E10001E12C_01E13001E13D_01E14001E149_01E14E01E14F_01E29001E2AE_01E2C001E2F9,
   0x01E2FF01E2FF_01E4D001E4F9_01E5D001E5FA_01E5FF01E5FF_01E6C001E6DE_01E6E001E6F5_01E6FE01E6FF,
   0x01E7E001E7E6_01E7E801E7EB_01E7ED01E7EE_01E7F001E7FE_01E80001E8C4_01E8C701E8D6_01E90001E94B,
   0x01E95001E959_01E95E01E95F_01EC7101ECB4_01ED0101ED3D_01EE0001EE03_01EE0501EE1F_01EE2101EE22,
   0x01EE2401EE24_01EE2701EE27_01EE2901EE32_01EE3401EE37_01EE3901EE39_01EE3B01EE3B_01EE4201EE42,
   0x01EE4701EE47_01EE4901EE49_01EE4B01EE4B_01EE4D01EE4F_01EE5101EE52_01EE5401EE54_01EE5701EE57,
   0x01EE5901EE59_01EE5B01EE5B_01EE5D01EE5D_01EE5F01EE5F_01EE6101EE62_01EE6401EE64_01EE6701EE6A,
   0x01EE6C01EE72_01EE7401EE77_01EE7901EE7C_01EE7E01EE7E_01EE8001EE89_01EE8B01EE9B_01EEA101EEA3,
   0x01EEA501EEA9_01EEAB01EEBB_01EEF001EEF1_01F00001F02B_01F03001F093_01F0A001F0AE_01F0B101F0BF,
   0x01F0C101F0CF_01F0D101F0F5_01F10101F1AD_01F1E601F202_01F21001F23B_01F24001F248_01F25001F251,
   0x01F26001F265_01F30001F6D9_01F6DC01F6EC_01F6F001F6FC_01F70001F7D9_01F7E001F7EB_01F7F001F7F0,
   0x01F80001F80B_01F81001F847_01F85001F859_01F86001F887_01F89001F8AD_01F8B001F8BB_01F8C001F8C1,
   0x01F8D001F8D8_01F90001FA57_01FA6001FA6D_01FA7001FA7C_01FA8001FA8A_01FA8E01FAC6_01FAC801FAC8,
   0x01FACD01FADD_01FADF01FAEB_01FAEF01FAFA_01FB0001FB92_01FB9401FBFA_02000002A6DF_02A70002B81D,
   0x02B82002CEAD_02CEB002EBE0_02EBF002EE5D_02F80002FA1D_03000003134A_031350033479_03D00003FC3F,
   0x0E01000E01EF]

/-- Code points that vanish, as twelve-digit intervals. -/
def ignoredRows : List Nat :=
  [0x0000AD0000AD_00034F00034F_00115F001160_0017B40017B5_00180B00180F_00200B00200B_002060002064,
   0x00206A00206F_003164003164_00FE0000FE0F_00FEFF00FEFF_00FFA000FFA0_01BCA001BCA3_01D17301D17A,
   0x0E01000E01EF]

/-- Runs of code points mapped to one code point each: six digits for the first of the run, three for
its length, one for its pattern and six for what the first is mapped to. -/
def runRows : List Nat :=
  [0x00004101A0000061_0000A00010000020_0000AA0010000061_0000B20020000032_0000B500100003BC,
   0x0000B90010000031_0000BA001000006F_0000C001700000E0_0000D800700000F8_0001000181000101,
   0x0001340021000135_000139003100013A_0001410041000142_00014A017100014B_00017800100000FF,
   0x000179003100017A_00017F0010000073_0001810010000253_0001820021000183_0001860010000254,
   0x0001870010000188_0001890020000256_00018B001000018C_00018E00100001DD_00018F0010000259,
   0x000190001000025B_0001910010000192_0001930010000260_0001940010000263_0001960010000269,
   0x0001970010000268_0001980010000199_00019C001000026F_00019D0010000272_00019F0010000275,
   0x0001A000310001A1_0001A60010000280_0001A700100001A8_0001A90010000283_0001AC00100001AD,
   0x0001AE0010000288_0001AF00100001B0_0001B1002000028A_0001B300210001B4_0001B70010000292,
   0x0001B800100001B9_0001BC00100001BD_0001CD00810001CE_0001DE00910001DF_0001F400100001F5,
   0x0001F60010000195_0001F700100001BF_0001F801410001F9_000220001000019E_0002220091000223,
   0x00023A0010002C65_00023B001000023C_00023D001000019A_00023E0010002C66_0002410010000242,
   0x0002430010000180_0002440010000289_000245001000028C_0002460051000247_0002B00021000068,
   0x0002B10010000266_0002B30010000072_0002B40010000279_0002B5001000027B_0002B60010000281,
   0x0002B70010000077_0002B80010000079_0002E00010000263_0002E1001000006C_0002E20010000073,
   0x0002E30010000078_0002E40010000295_0003400020000300_0003430010000313_00034500100003B9,
   0x0003700021000371_00037400100002B9_0003760010000377_00037E001000003B_00037F00100003F3,
   0x00038600100003AC_00038700100000B7_00038800300003AD_00038C00100003CC_00038E00200003CD,
   0x00039101100003B1_0003A300900003C3_0003CF00100003D7_0003D000100003B2_0003D100100003B8,
   0x0003D200100003C5_0003D300100003CD_0003D400100003CB_0003D500100003C6_0003D600100003C0,
   0x0003D800C10003D9_0003F000100003BA_0003F100100003C1_0003F200100003C3_0003F400100003B8,
   0x0003F500100003B5_0003F700100003F8_0003F900100003C3_0003FA00100003FB_0003FD003000037B,
   0x0004000100000450_0004100200000430_0004600111000461_00048A01B100048B_0004C000100004CF,
   0x0004C100710004C2_0004D003010004D1_0005310260000561_0005580010000567_00058B001000056B,
   0x00058C0010000575_000F0C0010000F0B_0010A00260002D00_0010C70010002D27_0010CD0010002D2D,
   0x0010FC00100010DC_0013F800600013F0_001C800010000432_001C810010000434_001C82001000043E,
   0x001C830020000441_001C850010000442_001C86001000044A_001C870010000463_001C88001000A64B,
   0x001C890010001C8A_001C9002B00010D0_001CBD00300010FD_001D2C0010000061_001D2D00100000E6,
   0x001D2E0021000062_001D310051000065_001D3200100001DD_001D340041000068_001D3C001000006F,
   0x001D3D0010000223_001D3E0010000070_001D3F0010000072_001D400020000074_001D420010000077,
   0x001D430010000061_001D440020000250_001D460010001D02_001D470010000062_001D480020000064,
   0x001D4A0010000259_001D4B002000025B_001D4D0010000067_001D4F001000006B_001D50002100006D,
   0x001D51001000014B_001D530010000254_001D540020001D16_001D560010000070_001D570020000074,
   0x001D590010001D1D_001D5A001000026F_001D5B0010000076_001D5C0010001D25_001D5D00300003B2,
   0x001D6000200003C6_001D620010000069_001D630010000072_001D640020000075_001D6600200003B2,
   0x001D6800100003C1_001D6900200003C6_001D78001000043D_001D9B0010000252_001D9C0010000063,
   0x001D9D0010000255_001D9E00100000F0_001D9F001000025C_001DA00010000066_001DA1001000025F,
   0x001DA20010000261_001DA30010000265_001DA40030000268_001DA70010001D7B_001DA8001000029D,
   0x001DA9001000026D_001DAA0010001D85_001DAB001000029F_001DAC0010000271_001DAD0010000270,
   0x001DAE0040000272_001DB20010000278_001DB30020000282_001DB500100001AB_001DB60020000289,
   0x001DB80010001D1C_001DB9002000028B_001DBB001000007A_001DBC0030000290_001DBF00100003B8,
   0x001E0004B1001E01_001E9B0010001E61_001E9E00100000DF_001EA00301001EA1_001F080080001F00,
   0x001F180060001F10_001F280080001F20_001F380080001F30_001F480060001F40_001F590041001F51,
   0x001F680080001F60_001F7100100003AC_001F7300100003AD_001F7500100003AE_001F7700100003AF,
   0x001F7900100003CC_001F7B00100003CD_001F7D00100003CE_001FB80020001FB0_001FBA0010001F70,
   0x001FBB00100003AC_001FBE00100003B9_001FC80021001F72_001FC900100003AD_001FCB00100003AE,
   0x001FD30010000390_001FD80020001FD0_001FDA0010001F76_001FDB00100003AF_001FE300100003B0,
   0x001FE80020001FE0_001FEA0010001F7A_001FEB00100003CD_001FEC0010001FE5_001FEF0010000060,
   0x001FF80010001F78_001FF900210003CC_001FFA0010001F7C_00200000B2000020_0020110010002010,
   0x00202F0010000020_00205F0010000020_0020700010000030_0020710010000069_0020740060000034,
   0x00207A001000002B_00207B0010002212_00207C001000003D_00207D0020000028_00207F001000006E,
   0x00208000A0000030_00208A001000002B_00208B0010002212_00208C001000003D_00208D0020000028,
   0x0020900010000061_0020910010000065_002092001000006F_0020930010000078_0020940010000259,
   0x0020950010000068_002096004000006B_00209A0010000070_00209B0020000073_00209D0010000077,
   0x00209E0020000079_0021020010000063_002107001000025B_00210A0020000067_00210C0032000068,
   0x00210F0010000127_0021100022000069_002112002200006C_002115001000006E_0021190030000070,
   0x00211C0022000072_002124001000007A_00212600100003C9_002128001000007A_00212A001000006B,
   0x00212B00100000E5_00212C0020000062_00212F0022000065_0021310010000066_002132001000214E,
   0x002133001000006D_002134001000006F_00213500400005D0_0021390010000069_00213C00100003C0,
   0x00213D00220003B3_00213F00100003C0_0021400010002211_0021450022000064_0021470010000065,
   0x0021480020000069_0021600010000069_0021640010000076_0021690010000078_00216C001000006C,
   0x00216D0020000063_00216F001000006D_0021700010000069_0021740010000076_0021790010000078,
   0x00217C001000006C_00217D0020000063_00217F001000006D_0021830010002184_0023290020003008,
   0x0024600090000031_0024B601A0000061_0024D001A0000061_0024EA0010000030_002C000300002C30,
   0x002C600010002C61_002C62001000026B_002C630010001D7D_002C64001000027D_002C670031002C68,
   0x002C6D0010000251_002C6E0010000271_002C6F0010000250_002C700010000252_002C720010002C73,
   0x002C750010002C76_002C7C001000006A_002C7D0010000076_002C7E002000023F_002C800321002C81,
   0x002CEB0021002CEC_002CF20010002CF3_002D6F0010002D61_002E9F0010006BCD_002EF30010009F9F,
   0x002F000010004E00_002F010010004E28_002F020010004E36_002F030010004E3F_002F040010004E59,
   0x002F050010004E85_002F060010004E8C_002F070010004EA0_002F080010004EBA_002F09001000513F,
   0x002F0A0010005165_002F0B001000516B_002F0C0010005182_002F0D0010005196_002F0E00100051AB,
   0x002F0F00100051E0_002F1000100051F5_002F110010005200_002F12001000529B_002F1300100052F9,
   0x002F140010005315_002F15001000531A_002F160010005338_002F170010005341_002F18001000535C,
   0x002F190010005369_002F1A0010005382_002F1B00100053B6_002F1C00100053C8_002F1D00100053E3,
   0x002F1E00100056D7_002F1F001000571F_002F2000100058EB_002F210010005902_002F22001000590A,
   0x002F230010005915_002F240010005927_002F250010005973_002F260010005B50_002F270010005B80,
   0x002F280010005BF8_002F290010005C0F_002F2A0010005C22_002F2B0010005C38_002F2C0010005C6E,
   0x002F2D0010005C71_002F2E0010005DDB_002F2F0010005DE5_002F300010005DF1_002F310010005DFE,
   0x002F320010005E72_002F330010005E7A_002F340010005E7F_002F350010005EF4_002F360010005EFE,
   0x002F370010005F0B_002F380010005F13_002F390010005F50_002F3A0010005F61_002F3B0010005F73,
   0x002F3C0010005FC3_002F3D0010006208_002F3E0010006236_002F3F001000624B_002F40001000652F,
   0x002F410010006534_002F420010006587_002F430010006597_002F4400100065A4_002F4500100065B9,
   0x002F4600100065E0_002F4700100065E5_002F4800100066F0_002F490010006708_002F4A0010006728,
   0x002F4B0010006B20_002F4C0010006B62_002F4D0010006B79_002F4E0010006BB3_002F4F0010006BCB,
   0x002F500010006BD4_002F510010006BDB_002F520010006C0F_002F530010006C14_002F540010006C34,
   0x002F55001000706B_002F56001000722A_002F570010007236_002F58001000723B_002F59001000723F,
   0x002F5A0010007247_002F5B0010007259_002F5C001000725B_002F5D00100072AC_002F5E0010007384,
   0x002F5F0010007389_002F6000100074DC_002F6100100074E6_002F620010007518_002F63001000751F,
   0x002F640010007528_002F650010007530_002F66001000758B_002F670010007592_002F680010007676,
   0x002F69001000767D_002F6A00100076AE_002F6B00100076BF_002F6C00100076EE_002F6D00100077DB,
   0x002F6E00100077E2_002F6F00100077F3_002F70001000793A_002F7100100079B8_002F7200100079BE,
   0x002F730010007A74_002F740010007ACB_002F750010007AF9_002F760010007C73_002F770010007CF8,
   0x002F780010007F36_002F790010007F51_002F7A0010007F8A_002F7B0010007FBD_002F7C0010008001,
   0x002F7D001000800C_002F7E0010008012_002F7F0010008033_002F80001000807F_002F810010008089,
   0x002F8200100081E3_002F8300100081EA_002F8400100081F3_002F8500100081FC_002F86001000820C,
   0x002F87001000821B_002F88001000821F_002F89001000826E_002F8A0010008272_002F8B0010008278,
   0x002F8C001000864D_002F8D001000866B_002F8E0010008840_002F8F001000884C_002F900010008863,
   0x002F91001000897E_002F92001000898B_002F9300100089D2_002F940010008A00_002F950010008C37,
   0x002F960010008C46_002F970010008C55_002F980010008C78_002F990010008C9D_002F9A0010008D64,
   0x002F9B0010008D70_002F9C0010008DB3_002F9D0010008EAB_002F9E0010008ECA_002F9F0010008F9B,
   0x002FA00010008FB0_002FA10010008FB5_002FA20010009091_002FA30010009149_002FA400100091C6,
   0x002FA500100091CC_002FA600100091D1_002FA70010009577_002FA80010009580_002FA9001000961C,
   0x002FAA00100096B6_002FAB00100096B9_002FAC00100096E8_002FAD0010009751_002FAE001000975E,
   0x002FAF0010009762_002FB00010009769_002FB100100097CB_002FB200100097ED_002FB300100097F3,
   0x002FB40010009801_002FB500100098A8_002FB600100098DB_002FB700100098DF_002FB80010009996,
   0x002FB90010009999_002FBA00100099AC_002FBB0010009AA8_002FBC0010009AD8_002FBD0010009ADF,
   0x002FBE0010009B25_002FBF0010009B2F_002FC00010009B32_002FC10010009B3C_002FC20010009B5A,
   0x002FC30010009CE5_002FC40010009E75_002FC50010009E7F_002FC60010009EA5_002FC70010009EBB,
   0x002FC80010009EC3_002FC90010009ECD_002FCA0010009ED1_002FCB0010009EF9_002FCC0010009EFD,
   0x002FCD0010009F0E_002FCE0010009F13_002FCF0010009F20_002FD00010009F3B_002FD10010009F4A,
   0x002FD20010009F52_002FD30010009F8D_002FD40010009F9C_002FD50010009FA0_0030000010000020,
   0x003002001000002E_0030360010003012_0030380010005341_0030390020005344_0031310020001100,
   0x00313300210011AA_0031340010001102_00313600100011AD_0031370030001103_00313A00600011B0,
   0x003140001000111A_0031410030001106_0031440010001121_00314500A0001109_00314F0150001161,
   0x0031650020001114_00316700200011C7_00316900100011CC_00316A00100011CE_00316B00100011D3,
   0x00316C00100011D7_00316D00100011D9_00316E001000111C_00316F00100011DD_00317000100011DF,
   0x003171002000111D_0031730010001120_0031740020001122_0031760010001127_0031770010001129,
   0x003178005000112B_00317D0010001132_00317E0010001136_00317F0010001140_0031800010001147,
   0x003181001000114C_00318200200011F1_0031840030001157_0031870020001184_0031890010001188,
   0x00318A0020001191_00318C0010001194_00318D001000119E_00318E00100011A1_0031920010004E00,
   0x0031930010004E8C_0031940010004E09_00319500100056DB_0031960010004E0A_0031970010004E2D,
   0x0031980010004E0B_0031990010007532_00319A0010004E59_00319B0010004E19_00319C0010004E01,
   0x00319D0010005929_00319E0010005730_00319F0010004EBA_003244001000554F_0032450010005E7C,
   0x0032460010006587_0032470010007B8F_0032600010001100_0032610020001102_0032630030001105,
   0x0032660010001109_003267002000110B_003269005000110E_00326E001000AC00_00326F001000B098,
   0x003270001000B2E4_003271001000B77C_003272001000B9C8_003273001000BC14_003274001000C0AC,
   0x003275001000C544_003276001000C790_003277001000CC28_003278001000CE74_003279001000D0C0,
   0x00327A001000D30C_00327B001000D558_00327E001000C6B0_0032800010004E00_0032810010004E8C,
   0x0032820010004E09_00328300100056DB_0032840010004E94_003285001000516D_0032860010004E03,
   0x003287001000516B_0032880010004E5D_0032890010005341_00328A0010006708_00328B001000706B,
   0x00328C0010006C34_00328D0010006728_00328E00100091D1_00328F001000571F_00329000100065E5,
   0x003291001000682A_0032920010006709_003293001000793E_003294001000540D_0032950010007279,
   0x0032960010008CA1_003297001000795D_00329800100052B4_00329900100079D8_00329A0010007537,
   0x00329B0010005973_00329C0010009069_00329D001000512A_00329E0010005370_00329F0010006CE8,
   0x0032A00010009805_0032A10010004F11_0032A20010005199_0032A30010006B63_0032A40010004E0A,
   0x0032A50010004E2D_0032A60010004E0B_0032A70010005DE6_0032A800100053F3_0032A9001000533B,
   0x0032AA0010005B97_0032AB0010005B66_0032AC00100076E3_0032AD0010004F01_0032AE0010008CC7,
   0x0032AF0010005354_0032B0001000591C_0032D000100030A2_0032D100100030A4_0032D200100030A6,
   0x0032D300100030A8_0032D400200030AA_0032D600100030AD_0032D700100030AF_0032D800100030B1,
   0x0032D900100030B3_0032DA00100030B5_0032DB00100030B7_0032DC00100030B9_0032DD00100030BB,
   0x0032DE00100030BD_0032DF00100030BF_0032E000100030C1_0032E100100030C4_0032E200100030C6,
   0x0032E300100030C8_0032E400600030CA_0032EA00100030D2_0032EB00100030D5_0032EC00100030D8,
   0x0032ED00100030DB_0032EE00500030DE_0032F300100030E4_0032F400100030E6_0032F500600030E8,
   0x0032FB00400030EF_00A640017100A641_00A68000E100A681_00A69C001000044A_00A69D001000044C,
   0x00A722007100A723_00A73201F100A733_00A770001000A76F_00A779002100A77A_00A77D0010001D79,
   0x00A77E005100A77F_00A78B001000A78C_00A78D0010000265_00A790002100A791_00A79600A100A797,
   0x00A7AA0010000266_00A7AB001000025C_00A7AC0010000261_00A7AD001000026C_00A7AE001000026A,
   0x00A7B0001000029E_00A7B10010000287_00A7B2001000029D_00A7B3001000AB53_00A7B4008100A7B5,
   0x00A7C4001000A794_00A7C50010000282_00A7C60010001D8E_00A7C7002100A7C8_00A7CB0010000264,
   0x00A7CC008100A7CD_00A7DC001000019B_00A7DD0060000277_00A7F10010000073_00A7F20010000063,
   0x00A7F30010000066_00A7F40010000071_00A7F5001000A7F6_00A7F80010000127_00A7F90010000153,
   0x00AB5C001000A727_00AB5D001000AB37_00AB5E001000026B_00AB5F001000AB52_00AB69001000028D,
   0x00AB6C002000AB4B_00AB7005000013A0_00F9000010008C48_00F90100100066F4_00F9020010008ECA,
   0x00F9030010008CC8_00F9040010006ED1_00F9050010004E32_00F90600100053E5_00F9070022009F9C,
   0x00F9090010005951_00F90A00100091D1_00F90B0010005587_00F90C0010005948_00F90D00100061F6,
   0x00F90E0010007669_00F90F0010007F85_00F910001000863F_00F91100100087BA_00F91200100088F8,
   0x00F913001000908F_00F9140010006A02_00F9150010006D1B_00F91600100070D9_00F91700100073DE,
   0x00F918001000843D_00F919001000916A_00F91A00100099F1_00F91B0010004E82_00F91C0010005375,
   0x00F91D0010006B04_00F91E001000721B_00F91F001000862D_00F9200010009E1E_00F9210010005D50,
   0x00F9220010006FEB_00F92300100085CD_00F9240010008964_00F92500100062C9_00F92600100081D8,
   0x00F927001000881F_00F9280010005ECA_00F9290010006717_00F92A0010006D6A_00F92B00100072FC,
   0x00F92C00100090CE_00F92D0010004F86_00F92E00100051B7_00F92F00100052DE_00F93000100064C4,
   0x00F9310010006AD3_00F9320010007210_00F93300100076E7_00F9340010008001_00F9350010008606,
   0x00F936001000865C_00F9370010008DEF_00F9380010009732_00F9390010009B6F_00F93A0010009DFA,
   0x00F93B001000788C_00F93C001000797F_00F93D0010007DA0_00F93E00100083C9_00F93F0010009304,
   0x00F9400010009E7F_00F9410010008AD6_00F94200100058DF_00F9430010005F04_00F9440010007C60,
   0x00F945001000807E_00F9460010007262_00F94700100078CA_00F9480010008CC2_00F94900100096F7,
   0x00F94A00100058D8_00F94B0010005C62_00F94C0010006A13_00F94D0010006DDA_00F94E0010006F0F,
   0x00F94F0010007D2F_00F9500010007E37_00F951001000964B_00F95200100052D2_00F953001000808B,
   0x00F95400100051DC_00F95500100051CC_00F9560010007A1C_00F9570010007DBE_00F95800100083F1,
   0x00F9590010009675_00F95A0010008B80_00F95B00100062CF_00F95C0010006A02_00F95D0010008AFE,
   0x00F95E0010004E39_00F95F0010005BE7_00F9600010006012_00F9610010007387_00F9620010007570,
   0x00F9630010005317_00F96400100078FB_00F9650010004FBF_00F9660010005FA9_00F9670010004E0D,
   0x00F9680010006CCC_00F9690010006578_00F96A0010007D22_00F96B00100053C3_00F96C001000585E,
   0x00F96D0010007701_00F96E0010008449_00F96F0010008AAA_00F9700010006BBA_00F9710010008FB0,
   0x00F9720010006C88_00F97300100062FE_00F97400100082E5_00F97500100063A0_00F9760010007565,
   0x00F9770010004EAE_00F9780010005169_00F97900100051C9_00F97A0010006881_00F97B0010007CE7,
   0x00F97C001000826F_00F97D0010008AD2_00F97E00100091CF_00F97F00100052F5_00F9800010005442,
   0x00F9810010005973_00F9820010005EEC_00F98300100065C5_00F9840010006FFE_00F985001000792A,
   0x00F98600100095AD_00F9870010009A6A_00F9880010009E97_00F9890010009ECE_00F98A001000529B,
   0x00F98B00100066C6_00F98C0010006B77_00F98D0010008F62_00F98E0010005E74_00F98F0010006190,
   0x00F9900010006200_00F991001000649A_00F9920010006F23_00F9930010007149_00F9940010007489,
   0x00F99500100079CA_00F9960010007DF4_00F997001000806F_00F9980010008F26_00F99900100084EE,
   0x00F99A0010009023_00F99B001000934A_00F99C0010005217_00F99D00100052A3_00F99E00100054BD,
   0x00F99F00100070C8_00F9A000100088C2_00F9A10010008AAA_00F9A20010005EC9_00F9A30010005FF5,
   0x00F9A4001000637B_00F9A50010006BAE_00F9A60010007C3E_00F9A70010007375_00F9A80010004EE4,
   0x00F9A900100056F9_00F9AA0010005BE7_00F9AB0010005DBA_00F9AC001000601C_00F9AD00100073B2,
   0x00F9AE0010007469_00F9AF0010007F9A_00F9B00010008046_00F9B10010009234_00F9B200100096F6,
   0x00F9B30010009748_00F9B40010009818_00F9B50010004F8B_00F9B600100079AE_00F9B700100091B4,
   0x00F9B800100096B8_00F9B900100060E1_00F9BA0010004E86_00F9BB00100050DA_00F9BC0010005BEE,
   0x00F9BD0010005C3F_00F9BE0010006599_00F9BF0010006A02_00F9C000100071CE_00F9C10010007642,
   0x00F9C200100084FC_00F9C3001000907C_00F9C40010009F8D_00F9C50010006688_00F9C6001000962E,
   0x00F9C70010005289_00F9C8001000677B_00F9C900100067F3_00F9CA0010006D41_00F9CB0010006E9C,
   0x00F9CC0010007409_00F9CD0010007559_00F9CE001000786B_00F9CF0010007D10_00F9D0001000985E,
   0x00F9D1001000516D_00F9D2001000622E_00F9D30010009678_00F9D4001000502B_00F9D50010005D19,
   0x00F9D60010006DEA_00F9D70010008F2A_00F9D80010005F8B_00F9D90010006144_00F9DA0010006817,
   0x00F9DB0010007387_00F9DC0010009686_00F9DD0010005229_00F9DE001000540F_00F9DF0010005C65,
   0x00F9E00010006613_00F9E1001000674E_00F9E200100068A8_00F9E30010006CE5_00F9E40010007406,
   0x00F9E500100075E2_00F9E60010007F79_00F9E700100088CF_00F9E800100088E1_00F9E900100091CC,
   0x00F9EA00100096E2_00F9EB001000533F_00F9EC0010006EBA_00F9ED001000541D_00F9EE00100071D0,
   0x00F9EF0010007498_00F9F000100085FA_00F9F100100096A3_00F9F20010009C57_00F9F30010009E9F,
   0x00F9F40010006797_00F9F50010006DCB_00F9F600100081E8_00F9F70010007ACB_00F9F80010007B20,
   0x00F9F90010007C92_00F9FA00100072C0_00F9FB0010007099_00F9FC0010008B58_00F9FD0010004EC0,
   0x00F9FE0010008336_00F9FF001000523A_00FA000010005207_00FA010010005EA6_00FA0200100062D3,
   0x00FA030010007CD6_00FA040010005B85_00FA050010006D1E_00FA0600100066B4_00FA070010008F3B,
   0x00FA08001000884C_00FA09001000964D_00FA0A001000898B_00FA0B0010005ED3_00FA0C0010005140,
   0x00FA0D00100055C0_00FA10001000585A_00FA120010006674_00FA1500100051DE_00FA16001000732A,
   0x00FA1700100076CA_00FA18001000793C_00FA19001000795E_00FA1A0010007965_00FA1B001000798F,
   0x00FA1C0010009756_00FA1D0010007CBE_00FA1E0010007FBD_00FA200010008612_00FA220010008AF8,
   0x00FA250010009038_00FA2600100090FD_00FA2A00100098EF_00FA2B00100098FC_00FA2C0010009928,
   0x00FA2D0010009DB4_00FA2E00100090DE_00FA2F00100096B7_00FA300010004FAE_00FA3100100050E7,
   0x00FA32001000514D_00FA3300100052C9_00FA3400100052E4_00FA350010005351_00FA36001000559D,
   0x00FA370010005606_00FA380010005668_00FA390010005840_00FA3A00100058A8_00FA3B0010005C64,
   0x00FA3C0010005C6E_00FA3D0010006094_00FA3E0010006168_00FA3F001000618E_00FA4000100061F2,
   0x00FA41001000654F_00FA4200100065E2_00FA430010006691_00FA440010006885_00FA450010006D77,
   0x00FA460010006E1A_00FA470010006F22_00FA48001000716E_00FA49001000722B_00FA4A0010007422,
   0x00FA4B0010007891_00FA4C001000793E_00FA4D0010007949_00FA4E0010007948_00FA4F0010007950,
   0x00FA500010007956_00FA51001000795D_00FA52002000798D_00FA540010007A40_00FA550010007A81,
   0x00FA560010007BC0_00FA570010007DF4_00FA580010007E09_00FA590010007E41_00FA5A0010007F72,
   0x00FA5B0010008005_00FA5C00100081ED_00FA5D0022008279_00FA5F0010008457_00FA600010008910,
   0x00FA610010008996_00FA620010008B01_00FA630010008B39_00FA640010008CD3_00FA650010008D08,
   0x00FA660010008FB6_00FA670010009038_00FA6800100096E3_00FA6900100097FF_00FA6A001000983B,
   0x00FA6B0010006075_00FA6C00100242EE_00FA6D0010008218_00FA700010004E26_00FA7100100051B5,
   0x00FA720010005168_00FA730010004F80_00FA740010005145_00FA750010005180_00FA7600100052C7,
   0x00FA7700100052FA_00FA78001000559D_00FA790010005555_00FA7A0010005599_00FA7B00100055E2,
   0x00FA7C001000585A_00FA7D00100058B3_00FA7E0010005944_00FA7F0010005954_00FA800010005A62,
   0x00FA810010005B28_00FA820010005ED2_00FA830010005ED9_00FA840010005F69_00FA850010005FAD,
   0x00FA8600100060D8_00FA87001000614E_00FA880010006108_00FA89001000618E_00FA8A0010006160,
   0x00FA8B00100061F2_00FA8C0010006234_00FA8D00100063C4_00FA8E001000641C_00FA8F0010006452,
   0x00FA900010006556_00FA910010006674_00FA920010006717_00FA93001000671B_00FA940010006756,
   0x00FA950010006B79_00FA960010006BBA_00FA970010006D41_00FA980010006EDB_00FA990010006ECB,
   0x00FA9A0010006F22_00FA9B001000701E_00FA9C001000716E_00FA9D00100077A7_00FA9E0010007235,
   0x00FA9F00100072AF_00FAA0001000732A_00FAA10010007471_00FAA20010007506_00FAA3001000753B,
   0x00FAA4001000761D_00FAA5001000761F_00FAA600100076CA_00FAA700100076DB_00FAA800100076F4,
   0x00FAA9001000774A_00FAAA0010007740_00FAAB00100078CC_00FAAC0010007AB1_00FAAD0010007BC0,
   0x00FAAE0010007C7B_00FAAF0010007D5B_00FAB00010007DF4_00FAB10010007F3E_00FAB20010008005,
   0x00FAB30010008352_00FAB400100083EF_00FAB50010008779_00FAB60010008941_00FAB70010008986,
   0x00FAB80010008996_00FAB90010008ABF_00FABA0010008AF8_00FABB0010008ACB_00FABC0010008B01,
   0x00FABD0010008AFE_00FABE0010008AED_00FABF0010008B39_00FAC00010008B8A_00FAC10010008D08,
   0x00FAC20010008F38_00FAC30010009072_00FAC40010009199_00FAC50010009276_00FAC6001000967C,
   0x00FAC700100096E3_00FAC80010009756_00FAC900100097DB_00FACA00100097FF_00FACB001000980B,
   0x00FACC001000983B_00FACD0010009B12_00FACE0010009F9C_00FACF001002284A_00FAD00010022844,
   0x00FAD100100233D5_00FAD20010003B9D_00FAD30010004018_00FAD40010004039_00FAD50010025249,
   0x00FAD60010025CD0_00FAD70010027ED3_00FAD80010009F43_00FAD90010009F8E_00FB2000100005E2,
   0x00FB2100100005D0_00FB2200200005D3_00FB2400300005DB_00FB2700100005E8_00FB2800100005EA,
   0x00FB29001000002B_00FB500022000671_00FB52004200067B_00FB56004200067E_00FB5A0042000680,
   0x00FB5E004200067A_00FB62004200067F_00FB660042000679_00FB6A00420006A4_00FB6E00420006A6,
   0x00FB720042000684_00FB760042000683_00FB7A0042000686_00FB7E0042000687_00FB82002200068D,
   0x00FB84002100068C_00FB85002100068C_00FB880022000688_00FB8A0022000698_00FB8C0022000691,
   0x00FB8E00420006A9_00FB9200420006AF_00FB9600420006B3_00FB9A00420006B1_00FB9E00220006BA,
   0x00FBA000420006BB_00FBA400220006C0_00FBA600420006C1_00FBAA00420006BE_00FBAE00220006D2,
   0x00FBB000220006D3_00FBD300420006AD_00FBD700220006C7_00FBD900210006C6_00FBDA00210006C6,
   0x00FBDE00220006CB_00FBE000220006C5_00FBE200220006C9_00FBE400420006D0_00FBE80022000649,
   0x00FBFC00420006CC_00FE10001000002C_00FE110010003001_00FE13002000003A_00FE150010000021,
   0x00FE16001000003F_00FE170020003016_00FE310010002014_00FE320010002013_00FE33002200005F,
   0x00FE350020000028_00FE37001000007B_00FE38001000007D_00FE390020003014_00FE3B0020003010,
   0x00FE3D002000300A_00FE3F0020003008_00FE41004000300C_00FE47001000005B_00FE48001000005D,
   0x00FE4D003200005F_00FE50001000002C_00FE510010003001_00FE54001000003B_00FE55001000003A,
   0x00FE56001000003F_00FE570010000021_00FE580010002014_00FE590020000028_00FE5B001000007B,
   0x00FE5C001000007D_00FE5D0020003014_00FE5F0010000023_00FE600010000026_00FE61002000002A,
   0x00FE63001000002D_00FE64001000003C_00FE65001000003E_00FE66001000003D_00FE68001000005C,
   0x00FE690020000024_00FE6B0010000040_00FE800020000621_00FE820020000622_00FE840020000623,
   0x00FE860020000624_00FE880020000625_00FE8A0032000626_00FE8D0022000627_00FE8F0042000628,
   0x00FE930022000629_00FE95004200062A_00FE99004200062B_00FE9D004200062C_00FEA1004200062D,
   0x00FEA5004200062E_00FEA9002200062F_00FEAB0022000630_00FEAD0022000631_00FEAF0022000632,
   0x00FEB10042000633_00FEB50042000634_00FEB90042000635_00FEBD0042000636_00FEC10042000637,
   0x00FEC50042000638_00FEC90042000639_00FECD004200063A_00FED10042000641_00FED50042000642,
   0x00FED90042000643_00FEDD0042000644_00FEE10042000645_00FEE50042000646_00FEE90042000647,
   0x00FEED0022000648_00FEEF0022000649_00FEF1004200064A_00FF010200000021_00FF2101A0000061,
   0x00FF3B024000005B_00FF5F0020002985_00FF61001000002E_00FF62002000300C_00FF640010003001,
   0x00FF6500100030FB_00FF6600100030F2_00FF6700100030A1_00FF6800100030A3_00FF6900100030A5,
   0x00FF6A00100030A7_00FF6B00100030A9_00FF6C00100030E3_00FF6D00100030E5_00FF6E00100030E7,
   0x00FF6F00100030C3_00FF7000100030FC_00FF7100100030A2_00FF7200100030A4_00FF7300100030A6,
   0x00FF7400100030A8_00FF7500200030AA_00FF7700100030AD_00FF7800100030AF_00FF7900100030B1,
   0x00FF7A00100030B3_00FF7B00100030B5_00FF7C00100030B7_00FF7D00100030B9_00FF7E00100030BB,
   0x00FF7F00100030BD_00FF8000100030BF_00FF8100100030C1_00FF8200100030C4_00FF8300100030C6,
   0x00FF8400100030C8_00FF8500600030CA_00FF8B00100030D2_00FF8C00100030D5_00FF8D00100030D8,
   0x00FF8E00100030DB_00FF8F00500030DE_00FF9400100030E4_00FF9500100030E6_00FF9600600030E8,
   0x00FF9C00100030EF_00FF9D00100030F3_00FF9E0020003099_00FFA10020001100_00FFA300210011AA,
   0x00FFA40010001102_00FFA600100011AD_00FFA70030001103_00FFAA00600011B0_00FFB0001000111A,
   0x00FFB10030001106_00FFB40010001121_00FFB500A0001109_00FFC20060001161_00FFCA0060001167,
   0x00FFD2006000116D_00FFDA0030001173_00FFE000200000A2_00FFE200100000AC_00FFE400100000A6,
   0x00FFE500100000A5_00FFE600100020A9_00FFE80010002502_00FFE90040002190_00FFED00100025A0,
   0x00FFEE00100025CB_0104000280010428_0104B002400104D8_0105700131010597_0105710051010598,
   0x01057D00710105A4_01058D00310105B4_01059500100105BC_01078100200002D0_01078300100000E6,
   0x0107840010000299_0107850010000253_01078700210002A3_010788001000AB66_01078A00100002A4,
   0x01078B0020000256_01078D0010001D91_01078E0010000258_01078F001000025E_01079000100002A9,
   0x0107910010000264_0107920010000262_0107930010000260_010794001000029B_0107950010000127,
   0x010796001000029C_0107970010000267_0107980010000284_01079900200002AA_01079B001000026C,
   0x01079C001001DF04_01079D001000A78E_01079E001000026E_01079F001001DF05_0107A0001000028E,
   0x0107A1001001DF06_0107A200100000F8_0107A30020000276_0107A50010000071_0107A6001000027A,
   0x0107A7001001DF08_0107A8002000027D_0107AA0010000280_0107AB00100002A8_0107AC00100002A6,
   0x0107AD001000AB67_0107AE00100002A7_0107AF0010000288_0107B00010002C71_0107B2001000028F,
   0x0107B300200002A1_0107B50010000298_0107B600300001C0_0107B9001001DF0A_0107BA001001DF1E,
   0x0107BB0010000287_0107BC0020000296_0107BE001000029E_0107BF001001DF0B_010C800330010CC0,
   0x010D500160010D70_0118A002000118C0_016E400200016E60_016EA00190016EBB_01CCD601A0000061,
   0x01CCF000A0000030_01D40001A0000061_01D41A01A0000061_01D43401A0000061_01D44E00D1000061,
   0x01D44F0031000062_01D457009100006A_01D46801A0000061_01D48201A0000061_01D49C0021000061,
   0x01D49F0010000064_01D4A20010000067_01D4A5002000006A_01D4A9004000006E_01D4AE0080000073,
   0x01D4B60040000061_01D4BB00B1000066_01D4BE0031000069_01D4C60051000071_01D4D001A0000061,
   0x01D4EA01A0000061_01D5040020000061_01D5070040000064_01D50D008000006A_01D5160070000073,
   0x01D51E01A0000061_01D5380020000061_01D53B0040000064_01D5400050000069_01D546001000006F,
   0x01D54A0070000073_01D55201A0000061_01D56C01A0000061_01D58601A0000061_01D5A001A0000061,
   0x01D5BA01A0000061_01D5D401A0000061_01D5EE01A0000061_01D60801A0000061_01D62201A0000061,
   0x01D63C01A0000061_01D65601A0000061_01D67001A0000061_01D68A01A0000061_01D6A40010000131,
   0x01D6A50010000237_01D6A801100003B1_01D6B900100003B8_01D6BA00700003C3_01D6C10010002207,
   0x01D6C201100003B1_01D6D300220003C3_01D6D500600003C4_01D6DB0010002202_01D6DC00100003B5,
   0x01D6DD00100003B8_01D6DE00100003BA_01D6DF00100003C6_01D6E000100003C1_01D6E100100003C0,
   0x01D6E201100003B1_01D6F300100003B8_01D6F400700003C3_01D6FB0010002207_01D6FC01100003B1,
   0x01D70D00220003C3_01D70F00600003C4_01D7150010002202_01D71600100003B5_01D71700100003B8,
   0x01D71800100003BA_01D71900100003C6_01D71A00100003C1_01D71B00100003C0_01D71C01100003B1,
   0x01D72D00100003B8_01D72E00700003C3_01D7350010002207_01D73601100003B1_01D74700220003C3,
   0x01D74900600003C4_01D74F0010002202_01D75000100003B5_01D75100100003B8_01D75200100003BA,
   0x01D75300100003C6_01D75400100003C1_01D75500100003C0_01D75601100003B1_01D76700100003B8,
   0x01D76800700003C3_01D76F0010002207_01D77001100003B1_01D78100220003C3_01D78300600003C4,
   0x01D7890010002202_01D78A00100003B5_01D78B00100003B8_01D78C00100003BA_01D78D00100003C6,
   0x01D78E00100003C1_01D78F00100003C0_01D79001100003B1_01D7A100100003B8_01D7A200700003C3,
   0x01D7A90010002207_01D7AA01100003B1_01D7BB00220003C3_01D7BD00600003C4_01D7C30010002202,
   0x01D7C400100003B5_01D7C500100003B8_01D7C600100003BA_01D7C700100003C6_01D7C800100003C1,
   0x01D7C900100003C0_01D7CA00220003DD_01D7CE00A0000030_01D7D800A0000030_01D7E200A0000030,
   0x01D7EC00A0000030_01D7F600A0000030_01E0300090000430_01E039003000043A_01E03C00B000043E,
   0x01E047001000044B_01E048002000044D_01E04A001000A689_01E04B00100004D9_01E04C0010000456,
   0x01E04D0010000458_01E04E00100004E9_01E04F00100004AF_01E05000100004CF_01E0510090000430,
   0x01E05A002000043A_01E05C002000043E_01E05E0010000441_01E05F0060000443_01E065002000044A,
   0x01E0670010000491_01E0680010000456_01E0690010000455_01E06A001000045F_01E06B00100004AB,
   0x01E06C001000A651_01E06D00100004B1_01E900022001E922_01EE000020000627_01EE02001000062C,
   0x01EE03001000062F_01EE050010000648_01EE060010000632_01EE07001000062D_01EE080010000637,
   0x01EE09001000064A_01EE0A0040000643_01EE0E0010000633_01EE0F0010000639_01EE100010000641,
   0x01EE110010000635_01EE120010000642_01EE130010000631_01EE140010000634_01EE15002000062A,
   0x01EE17001000062E_01EE180010000630_01EE190010000636_01EE1A0010000638_01EE1B001000063A,
   0x01EE1C001000066E_01EE1D00100006BA_01EE1E00100006A1_01EE1F001000066F_01EE210010000628,
   0x01EE22001000062C_01EE240010000647_01EE27001000062D_01EE29001000064A_01EE2A0040000643,
   0x01EE2E0010000633_01EE2F0010000639_01EE300010000641_01EE310010000635_01EE320010000642,
   0x01EE340010000634_01EE35002000062A_01EE37001000062E_01EE390010000636_01EE3B001000063A,
   0x01EE42001000062C_01EE47001000062D_01EE49001000064A_01EE4B0021000644_01EE4E0010000633,
   0x01EE4F0010000639_01EE510010000635_01EE520010000642_01EE540010000634_01EE57001000062E,
   0x01EE590010000636_01EE5B001000063A_01EE5D00100006BA_01EE5F001000066F_01EE610010000628,
   0x01EE62001000062C_01EE640010000647_01EE67001000062D_01EE680010000637_01EE69001000064A,
   0x01EE6A0021000643_01EE6D0010000646_01EE6E0010000633_01EE6F0010000639_01EE700010000641,
   0x01EE710010000635_01EE720010000642_01EE740010000634_01EE75002000062A_01EE77001000062E,
   0x01EE790010000636_01EE7A0010000638_01EE7B001000063A_01EE7C001000066E_01EE7E00100006A1,
   0x01EE800020000627_01EE82001000062C_01EE83001000062F_01EE840020000647_01EE860010000632,
   0x01EE87001000062D_01EE880010000637_01EE89001000064A_01EE8B0030000644_01EE8E0010000633,
   0x01EE8F0010000639_01EE900010000641_01EE910010000635_01EE920010000642_01EE930010000631,
   0x01EE940010000634_01EE95002000062A_01EE97001000062E_01EE980010000630_01EE990010000636,
   0x01EE9A0010000638_01EE9B001000063A_01EEA10010000628_01EEA2001000062C_01EEA3001000062F,
   0x01EEA50010000648_01EEA60010000632_01EEA7001000062D_01EEA80010000637_01EEA9001000064A,
   0x01EEAB0030000644_01EEAE0010000633_01EEAF0010000639_01EEB00010000641_01EEB10010000635,
   0x01EEB20010000642_01EEB30010000631_01EEB40010000634_01EEB5002000062A_01EEB7001000062E,
   0x01EEB80010000630_01EEB90010000636_01EEBA0010000638_01EEBB001000063A_01F12B0010000063,
   0x01F12C0010000072_01F13001A0000061_01F20200100030B5_01F210001000624B_01F2110010005B57,
   0x01F21200100053CC_01F21300100030C7_01F2140010004E8C_01F215001000591A_01F21600100089E3,
   0x01F2170010005929_01F2180010004EA4_01F2190010006620_01F21A0010007121_01F21B0010006599,
   0x01F21C001000524D_01F21D0010005F8C_01F21E001000518D_01F21F00100065B0_01F220001000521D,
   0x01F2210010007D42_01F222001000751F_01F2230010008CA9_01F22400100058F0_01F2250010005439,
   0x01F2260010006F14_01F2270010006295_01F2280010006355_01F2290010004E00_01F22A0010004E09,
   0x01F22B001000904A_01F22C0010005DE6_01F22D0010004E2D_01F22E00100053F3_01F22F0010006307,
   0x01F2300010008D70_01F2310010006253_01F2320010007981_01F2330010007A7A_01F2340010005408,
   0x01F2350010006E80_01F2360010006709_01F2370010006708_01F2380010007533_01F2390010005272,
   0x01F23A00100055B6_01F23B001000914D_01F2500010005F97_01F25100100053EF_01FBF000A0000030,
   0x02F8000010004E3D_02F8010010004E38_02F8020010004E41_02F8030010020122_02F8040010004F60,
   0x02F8050010004FAE_02F8060010004FBB_02F8070010005002_02F808001000507A_02F8090010005099,
   0x02F80A00100050E7_02F80B00100050CF_02F80C001000349E_02F80D001002063A_02F80E001000514D,
   0x02F80F0010005154_02F8100010005164_02F8110010005177_02F812001002051C_02F81300100034B9,
   0x02F8140010005167_02F815001000518D_02F816001002054B_02F8170010005197_02F81800100051A4,
   0x02F8190010004ECC_02F81A00100051AC_02F81B00100051B5_02F81C00100291DF_02F81D00100051F5,
   0x02F81E0010005203_02F81F00100034DF_02F820001000523B_02F8210010005246_02F8220010005272,
   0x02F8230010005277_02F8240010003515_02F82500100052C7_02F82600100052C9_02F82700100052E4,
   0x02F82800100052FA_02F8290020005305_02F82B0010005317_02F82C0010005349_02F82D0010005351,
   0x02F82E001000535A_02F82F0010005373_02F830002100537D_02F831002300537F_02F8340010020A2C,
   0x02F8350010007070_02F83600100053CA_02F83700100053DF_02F8380010020B63_02F83900100053EB,
   0x02F83A00100053F1_02F83B0010005406_02F83C001000549E_02F83D0010005438_02F83E0010005448,
   0x02F83F0010005468_02F84000100054A2_02F84100100054F6_02F8420010005510_02F8430010005553,
   0x02F8440010005563_02F8450022005584_02F8470010005599_02F84800100055AB_02F84900100055B3,
   0x02F84A00100055C2_02F84B0010005716_02F84C0010005606_02F84D0010005717_02F84E0010005651,
   0x02F84F0010005674_02F8500010005207_02F85100100058EE_02F85200100057CE_02F85300100057F4,
   0x02F854001000580D_02F855001000578B_02F8560010005832_02F8570010005831_02F85800100058AC,
   0x02F85900100214E4_02F85A00100058F2_02F85B00100058F7_02F85C0010005906_02F85D001000591A,
   0x02F85E0010005922_02F85F0010005962_02F86000100216A8_02F86100100216EA_02F86200100059EC,
   0x02F8630010005A1B_02F8640010005A27_02F86500100059D8_02F8660010005A66_02F86700100036EE,
   0x02F86800100036FC_02F8690010005B08_02F86A0022005B3E_02F86C00100219C8_02F86D0010005BC3,
   0x02F86E0010005BD8_02F86F0010005BE7_02F8700010005BF3_02F8710010021B18_02F8720010005BFF,
   0x02F8730010005C06_02F8740010005F53_02F8750010005C22_02F8760010003781_02F8770010005C60,
   0x02F8780010005C6E_02F8790010005CC0_02F87A0010005C8D_02F87B0021021DE4_02F87C0010005D43,
   0x02F87E0010005D6E_02F87F0010005D6B_02F8800010005D7C_02F8810020005DE1_02F883001000382F,
   0x02F8840010005DFD_02F8850010005E28_02F8860010005E3D_02F8870010005E69_02F8880010003862,
   0x02F8890010022183_02F88A001000387C_02F88B0010005EB0_02F88C0010005EB3_02F88D0010005EB6,
   0x02F88E0010005ECA_02F88F001002A392_02F8900010005EFE_02F8910022022331_02F8930010008201,
   0x02F8940022005F22_02F89600100038C7_02F89700100232B8_02F89800100261DA_02F8990010005F62,
   0x02F89A0010005F6B_02F89B00100038E3_02F89C0010005F9A_02F89D0010005FCD_02F89E0010005FD7,
   0x02F89F0010005FF9_02F8A00010006081_02F8A1001000393A_02F8A2001000391C_02F8A30010006094,
   0x02F8A400100226D4_02F8A500100060C7_02F8A60010006148_02F8A7002300614C_02F8A8001000614E,
   0x02F8AA001000617A_02F8AB001000618E_02F8AC00100061B2_02F8AD00100061A4_02F8AE00100061AF,
   0x02F8AF00100061DE_02F8B000100061F2_02F8B100100061F6_02F8B20010006210_02F8B3001000621B,
   0x02F8B4001000625D_02F8B500100062B1_02F8B600100062D4_02F8B70010006350_02F8B80010022B0C,
   0x02F8B9001000633D_02F8BA00100062FC_02F8BB0010006368_02F8BC0010006383_02F8BD00100063E4,
   0x02F8BE0010022BF1_02F8BF0010006422_02F8C000100063C5_02F8C100100063A9_02F8C20010003A2E,
   0x02F8C30010006469_02F8C4001000647E_02F8C5001000649D_02F8C60010006477_02F8C70010003A6C,
   0x02F8C8001000654F_02F8C9001000656C_02F8CA001002300A_02F8CB00100065E3_02F8CC00100066F8,
   0x02F8CD0010006649_02F8CE0010003B19_02F8CF0010006691_02F8D00010003B08_02F8D10010003AE4,
   0x02F8D20010005192_02F8D30010005195_02F8D40010006700_02F8D5001000669C_02F8D600100080AD,
   0x02F8D700100043D9_02F8D80010006717_02F8D9001000671B_02F8DA0010006721_02F8DB001000675E,
   0x02F8DC0010006753_02F8DD00100233C3_02F8DE0010003B49_02F8DF00100067FA_02F8E00010006785,
   0x02F8E10010006852_02F8E20010006885_02F8E3001002346D_02F8E4001000688E_02F8E5001000681F,
   0x02F8E60010006914_02F8E70010003B9D_02F8E80010006942_02F8E900100069A3_02F8EA00100069EA,
   0x02F8EB0010006AA8_02F8EC00100236A3_02F8ED0010006ADB_02F8EE0010003C18_02F8EF0010006B21,
   0x02F8F000100238A7_02F8F10010006B54_02F8F20010003C4E_02F8F30010006B72_02F8F40010006B9F,
   0x02F8F50020006BBA_02F8F70010023A8D_02F8F80010021D0B_02F8F90010023AFA_02F8FA0010006C4E,
   0x02F8FB0010023CBC_02F8FC0010006CBF_02F8FD0010006CCD_02F8FE0010006C67_02F8FF0010006D16,
   0x02F9000010006D3E_02F9010010006D77_02F9020010006D41_02F9030010006D69_02F9040010006D78,
   0x02F9050010006D85_02F9060010023D1E_02F9070010006D34_02F9080010006E2F_02F9090010006E6E,
   0x02F90A0010003D33_02F90B0010006ECB_02F90C0010006EC7_02F90D0010023ED1_02F90E0010006DF9,
   0x02F90F0010006F6E_02F9100010023F5E_02F9110010023F8E_02F9120010006FC6_02F9130010007039,
   0x02F914001000701E_02F915001000701B_02F9160010003D96_02F917001000704A_02F918001000707D,
   0x02F9190010007077_02F91A00100070AD_02F91B0010020525_02F91C0010007145_02F91D0010024263,
   0x02F91E001000719C_02F91F00100243AB_02F9200010007228_02F9210010007235_02F9220010007250,
   0x02F9230010024608_02F9240010007280_02F9250010007295_02F9260010024735_02F9270010024814,
   0x02F928001000737A_02F929001000738B_02F92A0010003EAC_02F92B00100073A5_02F92C0022003EB8,
   0x02F92E0010007447_02F92F001000745C_02F9300010007471_02F9310010007485_02F93200100074CA,
   0x02F9330010003F1B_02F9340010007524_02F9350010024C36_02F936001000753E_02F9370010024C92,
   0x02F9380010007570_02F939001002219F_02F93A0010007610_02F93B0010024FA1_02F93C0010024FB8,
   0x02F93D0010025044_02F93E0010003FFC_02F93F0010004008_02F94000100076F4_02F94100100250F3,
   0x02F94200100250F2_02F9430010025119_02F9440010025133_02F945002000771E_02F947001000771F,
   0x02F948001000774A_02F9490010004039_02F94A001000778B_02F94B0010004046_02F94C0010004096,
   0x02F94D001002541D_02F94E001000784E_02F94F001000788C_02F95000100078CC_02F95100100040E3,
   0x02F9520010025626_02F9530010007956_02F954001002569A_02F95500100256C5_02F956001000798F,
   0x02F95700100079EB_02F958001000412F_02F9590010007A40_02F95A0010007A4A_02F95B0010007A4F,
   0x02F95C001002597C_02F95D0022025AA7_02F95F0010007AEE_02F9600010004202_02F9610010025BAB,
   0x02F9620010007BC6_02F9630010007BC9_02F9640010004227_02F9650010025C80_02F9660010007CD2,
   0x02F96700100042A0_02F9680010007CE8_02F9690010007CE3_02F96A0010007D00_02F96B0010025F86,
   0x02F96C0010007D63_02F96D0010004301_02F96E0010007DC7_02F96F0010007E02_02F9700010007E45,
   0x02F9710010004334_02F9720010026228_02F9730010026247_02F9740010004359_02F97500100262D9,
   0x02F9760010007F7A_02F977001002633E_02F9780010007F95_02F9790010007FFA_02F97A0010008005,
   0x02F97B00100264DA_02F97C0010026523_02F97D0010008060_02F97E00100265A8_02F97F0010008070,
   0x02F980001002335F_02F98100100043D5_02F98200100080B2_02F9830010008103_02F984001000440B,
   0x02F985001000813E_02F9860010005AB5_02F98700100267A7_02F98800100267B5_02F9890010023393,
   0x02F98A001002339C_02F98B0010008201_02F98C0010008204_02F98D0010008F9E_02F98E001000446B,
   0x02F98F0010008291_02F990001000828B_02F991001000829D_02F99200100052B3_02F99300100082B1,
   0x02F99400100082B3_02F99500100082BD_02F99600100082E6_02F9970010026B3C_02F99800100082E5,
   0x02F999001000831D_02F99A0010008363_02F99B00100083AD_02F99C0010008323_02F99D00100083BD,
   0x02F99E00100083E7_02F99F0010008457_02F9A00010008353_02F9A100100083CA_02F9A200100083CC,
   0x02F9A300100083DC_02F9A40010026C36_02F9A50010026D6B_02F9A60010026CD5_02F9A7001000452B,
   0x02F9A800100084F1_02F9A900100084F3_02F9AA0010008516_02F9AB00100273CA_02F9AC0010008564,
   0x02F9AD0010026F2C_02F9AE001000455D_02F9AF0010004561_02F9B00010026FB1_02F9B100100270D2,
   0x02F9B2001000456B_02F9B30010008650_02F9B4001000865C_02F9B50010008667_02F9B60010008669,
   0x02F9B700100086A9_02F9B80010008688_02F9B9001000870E_02F9BA00100086E2_02F9BB0010008779,
   0x02F9BC0010008728_02F9BD001000876B_02F9BE0010008786_02F9BF00100045D7_02F9C000100087E1,
   0x02F9C10010008801_02F9C200100045F9_02F9C30010008860_02F9C40010008863_02F9C50010027667,
   0x02F9C600100088D7_02F9C700100088DE_02F9C80010004635_02F9C900100088FA_02F9CA00100034BB,
   0x02F9CB00100278AE_02F9CC0010027966_02F9CD00100046BE_02F9CE00100046C7_02F9CF0010008AA0,
   0x02F9D00010008AED_02F9D10010008B8A_02F9D20010008C55_02F9D30010027CA8_02F9D40010008CAB,
   0x02F9D50010008CC1_02F9D60010008D1B_02F9D70010008D77_02F9D80010027F2F_02F9D90010020804,
   0x02F9DA0010008DCB_02F9DB0010008DBC_02F9DC0010008DF0_02F9DD00100208DE_02F9DE0010008ED4,
   0x02F9DF0010008F38_02F9E000100285D2_02F9E100100285ED_02F9E20010009094_02F9E300100090F1,
   0x02F9E40010009111_02F9E5001002872E_02F9E6001000911B_02F9E70010009238_02F9E800200092D7,
   0x02F9EA001000927C_02F9EB00100093F9_02F9EC0010009415_02F9ED0010028BFA_02F9EE001000958B,
   0x02F9EF0010004995_02F9F000100095B7_02F9F10010028D77_02F9F200100049E6_02F9F300100096C3,
   0x02F9F40010005DB2_02F9F50010009723_02F9F60010029145_02F9F7001002921A_02F9F80010004A6E,
   0x02F9F90010004A76_02F9FA00100097E0_02F9FB001002940A_02F9FC0010004AB2_02F9FD0010029496,
   0x02F9FE002200980B_02FA000010009829_02FA0100100295B6_02FA0200100098E2_02FA030010004B33,
   0x02FA040010009929_02FA0500100099A7_02FA0600100099C2_02FA0700100099FE_02FA080010004BCE,
   0x02FA090010029B30_02FA0A0010009B12_02FA0B0010009C40_02FA0C0010009CFD_02FA0D0010004CCE,
   0x02FA0E0010004CED_02FA0F0010009D67_02FA10001002A0CE_02FA110010004CF8_02FA12001002A105,
   0x02FA13001002A20E_02FA14001002A291_02FA150010009EBB_02FA160010004D56_02FA170010009EF9,
   0x02FA180010009EFE_02FA190010009F05_02FA1A0010009F0F_02FA1B0010009F16_02FA1C0010009F3B,
   0x02FA1D001002A600]

/-- Code points mapped to several, as entries of seven-digit fields. -/
def textRows : List Nat :=
  [0x04000A8_0000020_0000308_04000AF_0000020_0000304_04000B4_0000020_0000301_04000B8_0000020_0000327,
   0x06000BC_0000031_0002044_0000034_06000BD_0000031_0002044_0000032_06000BE_0000033_0002044_0000034,
   0x0400130_0000069_0000307_0400132_0000069_000006A_0400133_0000069_000006A_040013F_000006C_00000B7,
   0x0400140_000006C_00000B7_0400149_00002BC_000006E_04001C4_0000064_000017E_04001C5_0000064_000017E,
   0x04001C6_0000064_000017E_04001C7_000006C_000006A_04001C8_000006C_000006A_04001C9_000006C_000006A,
   0x04001CA_000006E_000006A_04001CB_000006E_000006A_04001CC_000006E_000006A_04001F1_0000064_000007A,
   0x04001F2_0000064_000007A_04001F3_0000064_000007A_04002D8_0000020_0000306_04002D9_0000020_0000307,
   0x04002DA_0000020_000030A_04002DB_0000020_0000328_04002DC_0000020_0000303_04002DD_0000020_000030B,
   0x0400344_0000308_0000301_040037A_0000020_00003B9_0400384_0000020_0000301_0600385_0000020_0000308_0000301,
   0x0400587_0000565_0000582_0400675_0000627_0000674_0400676_0000648_0000674_0400677_00006C7_0000674,
   0x0400678_000064A_0000674_0400958_0000915_000093C_0400959_0000916_000093C_040095A_0000917_000093C,
   0x040095B_000091C_000093C_040095C_0000921_000093C_040095D_0000922_000093C_040095E_000092B_000093C,
   0x040095F_000092F_000093C_04009DC_00009A1_00009BC_04009DD_00009A2_00009BC_04009DF_00009AF_00009BC,
   0x0400A33_0000A32_0000A3C_0400A36_0000A38_0000A3C_0400A59_0000A16_0000A3C_0400A5A_0000A17_0000A3C,
   0x0400A5B_0000A1C_0000A3C_0400A5E_0000A2B_0000A3C_0400B5C_0000B21_0000B3C_0400B5D_0000B22_0000B3C,
   0x0400E33_0000E4D_0000E32_0400EB3_0000ECD_0000EB2_0400EDC_0000EAB_0000E99_0400EDD_0000EAB_0000EA1,
   0x0400F43_0000F42_0000FB7_0400F4D_0000F4C_0000FB7_0400F52_0000F51_0000FB7_0400F57_0000F56_0000FB7,
   0x0400F5C_0000F5B_0000FB7_0400F69_0000F40_0000FB5_0400F73_0000F71_0000F72_0400F75_0000F71_0000F74,
   0x0400F76_0000FB2_0000F80_0600F77_0000FB2_0000F71_0000F80_0400F78_0000FB3_0000F80,
   0x0600F79_0000FB3_0000F71_0000F80_0400F81_0000F71_0000F80_0400F93_0000F92_0000FB7_0400F9D_0000F9C_0000FB7,
   0x0400FA2_0000FA1_0000FB7_0400FA7_0000FA6_0000FB7_0400FAC_0000FAB_0000FB7_0400FB9_0000F90_0000FB5,
   0x0401E9A_0000061_00002BE_0401F80_0001F00_00003B9_0401F81_0001F01_00003B9_0401F82_0001F02_00003B9,
   0x0401F83_0001F03_00003B9_0401F84_0001F04_00003B9_0401F85_0001F05_00003B9_0401F86_0001F06_00003B9,
   0x0401F87_0001F07_00003B9_0401F88_0001F00_00003B9_0401F89_0001F01_00003B9_0401F8A_0001F02_00003B9,
   0x0401F8B_0001F03_00003B9_0401F8C_0001F04_00003B9_0401F8D_0001F05_00003B9_0401F8E_0001F06_00003B9,
   0x0401F8F_0001F07_00003B9_0401F90_0001F20_00003B9_0401F91_0001F21_00003B9_0401F92_0001F22_00003B9,
   0x0401F93_0001F23_00003B9_0401F94_0001F24_00003B9_0401F95_0001F25_00003B9_0401F96_0001F26_00003B9,
   0x0401F97_0001F27_00003B9_0401F98_0001F20_00003B9_0401F99_0001F21_00003B9_0401F9A_0001F22_00003B9,
   0x0401F9B_0001F23_00003B9_0401F9C_0001F24_00003B9_0401F9D_0001F25_00003B9_0401F9E_0001F26_00003B9,
   0x0401F9F_0001F27_00003B9_0401FA0_0001F60_00003B9_0401FA1_0001F61_00003B9_0401FA2_0001F62_00003B9,
   0x0401FA3_0001F63_00003B9_0401FA4_0001F64_00003B9_0401FA5_0001F65_00003B9_0401FA6_0001F66_00003B9,
   0x0401FA7_0001F67_00003B9_0401FA8_0001F60_00003B9_0401FA9_0001F61_00003B9_0401FAA_0001F62_00003B9,
   0x0401FAB_0001F63_00003B9_0401FAC_0001F64_00003B9_0401FAD_0001F65_00003B9_0401FAE_0001F66_00003B9,
   0x0401FAF_0001F67_00003B9_0401FB2_0001F70_00003B9_0401FB3_00003B1_00003B9_0401FB4_00003AC_00003B9,
   0x0401FB7_0001FB6_00003B9_0401FBC_00003B1_00003B9_0401FBD_0000020_0000313_0401FBF_0000020_0000313,
   0x0401FC0_0000020_0000342_0601FC1_0000020_0000308_0000342_0401FC2_0001F74_00003B9_0401FC3_00003B7_00003B9,
   0x0401FC4_00003AE_00003B9_0401FC7_0001FC6_00003B9_0401FCC_00003B7_00003B9_0601FCD_0000020_0000313_0000300,
   0x0601FCE_0000020_0000313_0000301_0601FCF_0000020_0000313_0000342_0601FDD_0000020_0000314_0000300,
   0x0601FDE_0000020_0000314_0000301_0601FDF_0000020_0000314_0000342_0601FED_0000020_0000308_0000300,
   0x0601FEE_0000020_0000308_0000301_0401FF2_0001F7C_00003B9_0401FF3_00003C9_00003B9_0401FF4_00003CE_00003B9,
   0x0401FF7_0001FF6_00003B9_0401FFC_00003C9_00003B9_0401FFD_0000020_0000301_0401FFE_0000020_0000314,
   0x0402017_0000020_0000333_0402033_0002032_0002032_0602034_0002032_0002032_0002032_0402036_0002035_0002035,
   0x0602037_0002035_0002035_0002035_040203C_0000021_0000021_040203E_0000020_0000305_0402047_000003F_000003F,
   0x0402048_000003F_0000021_0402049_0000021_000003F_0802057_0002032_0002032_0002032_0002032,
   0x04020A8_0000072_0000073_0602100_0000061_000002F_0000063_0602101_0000061_000002F_0000073,
   0x0402103_00000B0_0000063_0602105_0000063_000002F_000006F_0602106_0000063_000002F_0000075,
   0x0402109_00000B0_0000066_0402116_000006E_000006F_0402120_0000073_000006D_0602121_0000074_0000065_000006C,
   0x0402122_0000074_000006D_060213B_0000066_0000061_0000078_0602150_0000031_0002044_0000037,
   0x0602151_0000031_0002044_0000039_0802152_0000031_0002044_0000031_0000030_0602153_0000031_0002044_0000033,
   0x0602154_0000032_0002044_0000033_0602155_0000031_0002044_0000035_0602156_0000032_0002044_0000035,
   0x0602157_0000033_0002044_0000035_0602158_0000034_0002044_0000035_0602159_0000031_0002044_0000036,
   0x060215A_0000035_0002044_0000036_060215B_0000031_0002044_0000038_060215C_0000033_0002044_0000038,
   0x060215D_0000035_0002044_0000038_060215E_0000037_0002044_0000038_040215F_0000031_0002044,
   0x0402161_0000069_0000069_0602162_0000069_0000069_0000069_0402163_0000069_0000076_0402165_0000076_0000069,
   0x0602166_0000076_0000069_0000069_0802167_0000076_0000069_0000069_0000069_0402168_0000069_0000078,
   0x040216A_0000078_0000069_060216B_0000078_0000069_0000069_0402171_0000069_0000069,
   0x0602172_0000069_0000069_0000069_0402173_0000069_0000076_0402175_0000076_0000069,
   0x0602176_0000076_0000069_0000069_0802177_0000076_0000069_0000069_0000069_0402178_0000069_0000078,
   0x040217A_0000078_0000069_060217B_0000078_0000069_0000069_0602189_0000030_0002044_0000033,
   0x040222C_000222B_000222B_060222D_000222B_000222B_000222B_040222F_000222E_000222E,
   0x0602230_000222E_000222E_000222E_0402469_0000031_0000030_040246A_0000031_0000031_040246B_0000031_0000032,
   0x040246C_0000031_0000033_040246D_0000031_0000034_040246E_0000031_0000035_040246F_0000031_0000036,
   0x0402470_0000031_0000037_0402471_0000031_0000038_0402472_0000031_0000039_0402473_0000032_0000030,
   0x0602474_0000028_0000031_0000029_0602475_0000028_0000032_0000029_0602476_0000028_0000033_0000029,
   0x0602477_0000028_0000034_0000029_0602478_0000028_0000035_0000029_0602479_0000028_0000036_0000029,
   0x060247A_0000028_0000037_0000029_060247B_0000028_0000038_0000029_060247C_0000028_0000039_0000029,
   0x080247D_0000028_0000031_0000030_0000029_080247E_0000028_0000031_0000031_0000029,
   0x080247F_0000028_0000031_0000032_0000029_0802480_0000028_0000031_0000033_0000029,
   0x0802481_0000028_0000031_0000034_0000029_0802482_0000028_0000031_0000035_0000029,
   0x0802483_0000028_0000031_0000036_0000029_0802484_0000028_0000031_0000037_0000029,
   0x0802485_0000028_0000031_0000038_0000029_0802486_0000028_0000031_0000039_0000029,
   0x0802487_0000028_0000032_0000030_0000029_060249C_0000028_0000061_0000029_060249D_0000028_0000062_0000029,
   0x060249E_0000028_0000063_0000029_060249F_0000028_0000064_0000029_06024A0_0000028_0000065_0000029,
   0x06024A1_0000028_0000066_0000029_06024A2_0000028_0000067_0000029_06024A3_0000028_0000068_0000029,
   0x06024A4_0000028_0000069_0000029_06024A5_0000028_000006A_0000029_06024A6_0000028_000006B_0000029,
   0x06024A7_0000028_000006C_0000029_06024A8_0000028_000006D_0000029_06024A9_0000028_000006E_0000029,
   0x06024AA_0000028_000006F_0000029_06024AB_0000028_0000070_0000029_06024AC_0000028_0000071_0000029,
   0x06024AD_0000028_0000072_0000029_06024AE_0000028_0000073_0000029_06024AF_0000028_0000074_0000029,
   0x06024B0_0000028_0000075_0000029_06024B1_0000028_0000076_0000029_06024B2_0000028_0000077_0000029,
   0x06024B3_0000028_0000078_0000029_06024B4_0000028_0000079_0000029_06024B5_0000028_000007A_0000029,
   0x0802A0C_000222B_000222B_000222B_000222B_0602A74_000003A_000003A_000003D_0402A75_000003D_000003D,
   0x0602A76_000003D_000003D_000003D_0402ADC_0002ADD_0000338_040309B_0000020_0003099_040309C_0000020_000309A,
   0x040309F_0003088_000308A_04030FF_00030B3_00030C8_0603200_0000028_0001100_0000029,
   0x0603201_0000028_0001102_0000029_0603202_0000028_0001103_0000029_0603203_0000028_0001105_0000029,
   0x0603204_0000028_0001106_0000029_0603205_0000028_0001107_0000029_0603206_0000028_0001109_0000029,
   0x0603207_0000028_000110B_0000029_0603208_0000028_000110C_0000029_0603209_0000028_000110E_0000029,
   0x060320A_0000028_000110F_0000029_060320B_0000028_0001110_0000029_060320C_0000028_0001111_0000029,
   0x060320D_0000028_0001112_0000029_060320E_0000028_000AC00_0000029_060320F_0000028_000B098_0000029,
   0x0603210_0000028_000B2E4_0000029_0603211_0000028_000B77C_0000029_0603212_0000028_000B9C8_0000029,
   0x0603213_0000028_000BC14_0000029_0603214_0000028_000C0AC_0000029_0603215_0000028_000C544_0000029,
   0x0603216_0000028_000C790_0000029_0603217_0000028_000CC28_0000029_0603218_0000028_000CE74_0000029,
   0x0603219_0000028_000D0C0_0000029_060321A_0000028_000D30C_0000029_060321B_0000028_000D558_0000029,
   0x060321C_0000028_000C8FC_0000029_080321D_0000028_000C624_000C804_0000029,
   0x080321E_0000028_000C624_000D6C4_0000029_0603220_0000028_0004E00_0000029_0603221_0000028_0004E8C_0000029,
   0x0603222_0000028_0004E09_0000029_0603223_0000028_00056DB_0000029_0603224_0000028_0004E94_0000029,
   0x0603225_0000028_000516D_0000029_0603226_0000028_0004E03_0000029_0603227_0000028_000516B_0000029,
   0x0603228_0000028_0004E5D_0000029_0603229_0000028_0005341_0000029_060322A_0000028_0006708_0000029,
   0x060322B_0000028_000706B_0000029_060322C_0000028_0006C34_0000029_060322D_0000028_0006728_0000029,
   0x060322E_0000028_00091D1_0000029_060322F_0000028_000571F_0000029_0603230_0000028_00065E5_0000029,
   0x0603231_0000028_000682A_0000029_0603232_0000028_0006709_0000029_0603233_0000028_000793E_0000029,
   0x0603234_0000028_000540D_0000029_0603235_0000028_0007279_0000029_0603236_0000028_0008CA1_0000029,
   0x0603237_0000028_000795D_0000029_0603238_0000028_00052B4_0000029_0603239_0000028_0004EE3_0000029,
   0x060323A_0000028_000547C_0000029_060323B_0000028_0005B66_0000029_060323C_0000028_00076E3_0000029,
   0x060323D_0000028_0004F01_0000029_060323E_0000028_0008CC7_0000029_060323F_0000028_0005354_0000029,
   0x0603240_0000028_000796D_0000029_0603241_0000028_0004F11_0000029_0603242_0000028_00081EA_0000029,
   0x0603243_0000028_00081F3_0000029_0603250_0000070_0000074_0000065_0403251_0000032_0000031,
   0x0403252_0000032_0000032_0403253_0000032_0000033_0403254_0000032_0000034_0403255_0000032_0000035,
   0x0403256_0000032_0000036_0403257_0000032_0000037_0403258_0000032_0000038_0403259_0000032_0000039,
   0x040325A_0000033_0000030_040325B_0000033_0000031_040325C_0000033_0000032_040325D_0000033_0000033,
   0x040325E_0000033_0000034_040325F_0000033_0000035_040327C_000CC38_000ACE0_040327D_000C8FC_000C758,
   0x04032B1_0000033_0000036_04032B2_0000033_0000037_04032B3_0000033_0000038_04032B4_0000033_0000039,
   0x04032B5_0000034_0000030_04032B6_0000034_0000031_04032B7_0000034_0000032_04032B8_0000034_0000033,
   0x04032B9_0000034_0000034_04032BA_0000034_0000035_04032BB_0000034_0000036_04032BC_0000034_0000037,
   0x04032BD_0000034_0000038_04032BE_0000034_0000039_04032BF_0000035_0000030_04032C0_0000031_0006708,
   0x04032C1_0000032_0006708_04032C2_0000033_0006708_04032C3_0000034_0006708_04032C4_0000035_0006708,
   0x04032C5_0000036_0006708_04032C6_0000037_0006708_04032C7_0000038_0006708_04032C8_0000039_0006708,
   0x06032C9_0000031_0000030_0006708_06032CA_0000031_0000031_0006708_06032CB_0000031_0000032_0006708,
   0x04032CC_0000068_0000067_06032CD_0000065_0000072_0000067_04032CE_0000065_0000076,
   0x06032CF_000006C_0000074_0000064_04032FF_0004EE4_000548C_0803300_00030A2_00030D1_00030FC_00030C8,
   0x0803301_00030A2_00030EB_00030D5_00030A1_0803302_00030A2_00030F3_00030DA_00030A2,
   0x0603303_00030A2_00030FC_00030EB_0803304_00030A4_00030CB_00030F3_00030B0_0603305_00030A4_00030F3_00030C1,
   0x0603306_00030A6_00030A9_00030F3_0A03307_00030A8_00030B9_00030AF_00030FC_00030C9,
   0x0803308_00030A8_00030FC_00030AB_00030FC_0603309_00030AA_00030F3_00030B9_060330A_00030AA_00030FC_00030E0,
   0x060330B_00030AB_00030A4_00030EA_080330C_00030AB_00030E9_00030C3_00030C8,
   0x080330D_00030AB_00030ED_00030EA_00030FC_060330E_00030AC_00030ED_00030F3_060330F_00030AC_00030F3_00030DE,
   0x0403310_00030AE_00030AC_0603311_00030AE_00030CB_00030FC_0803312_00030AD_00030E5_00030EA_00030FC,
   0x0803313_00030AE_00030EB_00030C0_00030FC_0403314_00030AD_00030ED,
   0x0A03315_00030AD_00030ED_00030B0_00030E9_00030E0_0C03316_00030AD_00030ED_00030E1_00030FC_00030C8_00030EB,
   0x0A03317_00030AD_00030ED_00030EF_00030C3_00030C8_0603318_00030B0_00030E9_00030E0,
   0x0A03319_00030B0_00030E9_00030E0_00030C8_00030F3_0A0331A_00030AF_00030EB_00030BC_00030A4_00030ED,
   0x080331B_00030AF_00030ED_00030FC_00030CD_060331C_00030B1_00030FC_00030B9_060331D_00030B3_00030EB_00030CA,
   0x060331E_00030B3_00030FC_00030DD_080331F_00030B5_00030A4_00030AF_00030EB,
   0x0A03320_00030B5_00030F3_00030C1_00030FC_00030E0_0803321_00030B7_00030EA_00030F3_00030B0,
   0x0603322_00030BB_00030F3_00030C1_0603323_00030BB_00030F3_00030C8_0603324_00030C0_00030FC_00030B9,
   0x0403325_00030C7_00030B7_0403326_00030C9_00030EB_0403327_00030C8_00030F3_0403328_00030CA_00030CE,
   0x0603329_00030CE_00030C3_00030C8_060332A_00030CF_00030A4_00030C4,
   0x0A0332B_00030D1_00030FC_00030BB_00030F3_00030C8_060332C_00030D1_00030FC_00030C4,
   0x080332D_00030D0_00030FC_00030EC_00030EB_0A0332E_00030D4_00030A2_00030B9_00030C8_00030EB,
   0x060332F_00030D4_00030AF_00030EB_0403330_00030D4_00030B3_0403331_00030D3_00030EB,
   0x0A03332_00030D5_00030A1_00030E9_00030C3_00030C9_0803333_00030D5_00030A3_00030FC_00030C8,
   0x0A03334_00030D6_00030C3_00030B7_00030A7_00030EB_0603335_00030D5_00030E9_00030F3,
   0x0A03336_00030D8_00030AF_00030BF_00030FC_00030EB_0403337_00030DA_00030BD_0603338_00030DA_00030CB_00030D2,
   0x0603339_00030D8_00030EB_00030C4_060333A_00030DA_00030F3_00030B9_060333B_00030DA_00030FC_00030B8,
   0x060333C_00030D9_00030FC_00030BF_080333D_00030DD_00030A4_00030F3_00030C8_060333E_00030DC_00030EB_00030C8,
   0x040333F_00030DB_00030F3_0603340_00030DD_00030F3_00030C9_0603341_00030DB_00030FC_00030EB,
   0x0603342_00030DB_00030FC_00030F3_0803343_00030DE_00030A4_00030AF_00030ED_0603344_00030DE_00030A4_00030EB,
   0x0603345_00030DE_00030C3_00030CF_0603346_00030DE_00030EB_00030AF,
   0x0A03347_00030DE_00030F3_00030B7_00030E7_00030F3_0803348_00030DF_00030AF_00030ED_00030F3,
   0x0403349_00030DF_00030EA_0A0334A_00030DF_00030EA_00030D0_00030FC_00030EB_040334B_00030E1_00030AC,
   0x080334C_00030E1_00030AC_00030C8_00030F3_080334D_00030E1_00030FC_00030C8_00030EB,
   0x060334E_00030E4_00030FC_00030C9_060334F_00030E4_00030FC_00030EB_0603350_00030E6_00030A2_00030F3,
   0x0803351_00030EA_00030C3_00030C8_00030EB_0403352_00030EA_00030E9_0603353_00030EB_00030D4_00030FC,
   0x0803354_00030EB_00030FC_00030D6_00030EB_0403355_00030EC_00030E0,
   0x0A03356_00030EC_00030F3_00030C8_00030B2_00030F3_0603357_00030EF_00030C3_00030C8_0403358_0000030_00070B9,
   0x0403359_0000031_00070B9_040335A_0000032_00070B9_040335B_0000033_00070B9_040335C_0000034_00070B9,
   0x040335D_0000035_00070B9_040335E_0000036_00070B9_040335F_0000037_00070B9_0403360_0000038_00070B9,
   0x0403361_0000039_00070B9_0603362_0000031_0000030_00070B9_0603363_0000031_0000031_00070B9,
   0x0603364_0000031_0000032_00070B9_0603365_0000031_0000033_00070B9_0603366_0000031_0000034_00070B9,
   0x0603367_0000031_0000035_00070B9_0603368_0000031_0000036_00070B9_0603369_0000031_0000037_00070B9,
   0x060336A_0000031_0000038_00070B9_060336B_0000031_0000039_00070B9_060336C_0000032_0000030_00070B9,
   0x060336D_0000032_0000031_00070B9_060336E_0000032_0000032_00070B9_060336F_0000032_0000033_00070B9,
   0x0603370_0000032_0000034_00070B9_0603371_0000068_0000070_0000061_0403372_0000064_0000061,
   0x0403373_0000061_0000075_0603374_0000062_0000061_0000072_0403375_000006F_0000076_0403376_0000070_0000063,
   0x0403377_0000064_000006D_0603378_0000064_000006D_0000032_0603379_0000064_000006D_0000033,
   0x040337A_0000069_0000075_040337B_0005E73_0006210_040337C_000662D_000548C_040337D_0005927_0006B63,
   0x040337E_000660E_0006CBB_080337F_000682A_0005F0F_0004F1A_000793E_0403380_0000070_0000061,
   0x0403381_000006E_0000061_0403382_00003BC_0000061_0403383_000006D_0000061_0403384_000006B_0000061,
   0x0403385_000006B_0000062_0403386_000006D_0000062_0403387_0000067_0000062_0603388_0000063_0000061_000006C,
   0x0803389_000006B_0000063_0000061_000006C_040338A_0000070_0000066_040338B_000006E_0000066,
   0x040338C_00003BC_0000066_040338D_00003BC_0000067_040338E_000006D_0000067_040338F_000006B_0000067,
   0x0403390_0000068_000007A_0603391_000006B_0000068_000007A_0603392_000006D_0000068_000007A,
   0x0603393_0000067_0000068_000007A_0603394_0000074_0000068_000007A_0403395_00003BC_000006C,
   0x0403396_000006D_000006C_0403397_0000064_000006C_0403398_000006B_000006C_0403399_0000066_000006D,
   0x040339A_000006E_000006D_040339B_00003BC_000006D_040339C_000006D_000006D_040339D_0000063_000006D,
   0x040339E_000006B_000006D_060339F_000006D_000006D_0000032_06033A0_0000063_000006D_0000032,
   0x04033A1_000006D_0000032_06033A2_000006B_000006D_0000032_06033A3_000006D_000006D_0000033,
   0x06033A4_0000063_000006D_0000033_04033A5_000006D_0000033_06033A6_000006B_000006D_0000033,
   0x06033A7_000006D_0002215_0000073_08033A8_000006D_0002215_0000073_0000032_04033A9_0000070_0000061,
   0x06033AA_000006B_0000070_0000061_06033AB_000006D_0000070_0000061_06033AC_0000067_0000070_0000061,
   0x06033AD_0000072_0000061_0000064_0A033AE_0000072_0000061_0000064_0002215_0000073,
   0x0C033AF_0000072_0000061_0000064_0002215_0000073_0000032_04033B0_0000070_0000073_04033B1_000006E_0000073,
   0x04033B2_00003BC_0000073_04033B3_000006D_0000073_04033B4_0000070_0000076_04033B5_000006E_0000076,
   0x04033B6_00003BC_0000076_04033B7_000006D_0000076_04033B8_000006B_0000076_04033B9_000006D_0000076,
   0x04033BA_0000070_0000077_04033BB_000006E_0000077_04033BC_00003BC_0000077_04033BD_000006D_0000077,
   0x04033BE_000006B_0000077_04033BF_000006D_0000077_04033C0_000006B_00003C9_04033C1_000006D_00003C9,
   0x04033C3_0000062_0000071_04033C4_0000063_0000063_04033C5_0000063_0000064,
   0x08033C6_0000063_0002215_000006B_0000067_04033C8_0000064_0000062_04033C9_0000067_0000079,
   0x04033CA_0000068_0000061_04033CB_0000068_0000070_04033CC_0000069_000006E_04033CD_000006B_000006B,
   0x04033CE_000006B_000006D_04033CF_000006B_0000074_04033D0_000006C_000006D_04033D1_000006C_000006E,
   0x06033D2_000006C_000006F_0000067_04033D3_000006C_0000078_04033D4_000006D_0000062,
   0x06033D5_000006D_0000069_000006C_06033D6_000006D_000006F_000006C_04033D7_0000070_0000068,
   0x06033D9_0000070_0000070_000006D_04033DA_0000070_0000072_04033DB_0000073_0000072_04033DC_0000073_0000076,
   0x04033DD_0000077_0000062_06033DE_0000076_0002215_000006D_06033DF_0000061_0002215_000006D,
   0x04033E0_0000031_00065E5_04033E1_0000032_00065E5_04033E2_0000033_00065E5_04033E3_0000034_00065E5,
   0x04033E4_0000035_00065E5_04033E5_0000036_00065E5_04033E6_0000037_00065E5_04033E7_0000038_00065E5,
   0x04033E8_0000039_00065E5_06033E9_0000031_0000030_00065E5_06033EA_0000031_0000031_00065E5,
   0x06033EB_0000031_0000032_00065E5_06033EC_0000031_0000033_00065E5_06033ED_0000031_0000034_00065E5,
   0x06033EE_0000031_0000035_00065E5_06033EF_0000031_0000036_00065E5_06033F0_0000031_0000037_00065E5,
   0x06033F1_0000031_0000038_00065E5_06033F2_0000031_0000039_00065E5_06033F3_0000032_0000030_00065E5,
   0x06033F4_0000032_0000031_00065E5_06033F5_0000032_0000032_00065E5_06033F6_0000032_0000033_00065E5,
   0x06033F7_0000032_0000034_00065E5_06033F8_0000032_0000035_00065E5_06033F9_0000032_0000036_00065E5,
   0x06033FA_0000032_0000037_00065E5_06033FB_0000032_0000038_00065E5_06033FC_0000032_0000039_00065E5,
   0x06033FD_0000033_0000030_00065E5_06033FE_0000033_0000031_00065E5_06033FF_0000067_0000061_000006C,
   0x040FB00_0000066_0000066_040FB01_0000066_0000069_040FB02_0000066_000006C_060FB03_0000066_0000066_0000069,
   0x060FB04_0000066_0000066_000006C_040FB05_0000073_0000074_040FB06_0000073_0000074_040FB13_0000574_0000576,
   0x040FB14_0000574_0000565_040FB15_0000574_000056B_040FB16_000057E_0000576_040FB17_0000574_000056D,
   0x040FB1D_00005D9_00005B4_040FB1F_00005F2_00005B7_040FB2A_00005E9_00005C1_040FB2B_00005E9_00005C2,
   0x060FB2C_00005E9_00005BC_00005C1_060FB2D_00005E9_00005BC_00005C2_040FB2E_00005D0_00005B7,
   0x040FB2F_00005D0_00005B8_040FB30_00005D0_00005BC_040FB31_00005D1_00005BC_040FB32_00005D2_00005BC,
   0x040FB33_00005D3_00005BC_040FB34_00005D4_00005BC_040FB35_00005D5_00005BC_040FB36_00005D6_00005BC,
   0x040FB38_00005D8_00005BC_040FB39_00005D9_00005BC_040FB3A_00005DA_00005BC_040FB3B_00005DB_00005BC,
   0x040FB3C_00005DC_00005BC_040FB3E_00005DE_00005BC_040FB40_00005E0_00005BC_040FB41_00005E1_00005BC,
   0x040FB43_00005E3_00005BC_040FB44_00005E4_00005BC_040FB46_00005E6_00005BC_040FB47_00005E7_00005BC,
   0x040FB48_00005E8_00005BC_040FB49_00005E9_00005BC_040FB4A_00005EA_00005BC_040FB4B_00005D5_00005B9,
   0x040FB4C_00005D1_00005BF_040FB4D_00005DB_00005BF_040FB4E_00005E4_00005BF_040FB4F_00005D0_00005DC,
   0x040FBDD_00006C7_0000674_040FBEA_0000626_0000627_040FBEB_0000626_0000627_040FBEC_0000626_00006D5,
   0x040FBED_0000626_00006D5_040FBEE_0000626_0000648_040FBEF_0000626_0000648_040FBF0_0000626_00006C7,
   0x040FBF1_0000626_00006C7_040FBF2_0000626_00006C6_040FBF3_0000626_00006C6_040FBF4_0000626_00006C8,
   0x040FBF5_0000626_00006C8_040FBF6_0000626_00006D0_040FBF7_0000626_00006D0_040FBF8_0000626_00006D0,
   0x040FBF9_0000626_0000649_040FBFA_0000626_0000649_040FBFB_0000626_0000649_040FC00_0000626_000062C,
   0x040FC01_0000626_000062D_040FC02_0000626_0000645_040FC03_0000626_0000649_040FC04_0000626_000064A,
   0x040FC05_0000628_000062C_040FC06_0000628_000062D_040FC07_0000628_000062E_040FC08_0000628_0000645,
   0x040FC09_0000628_0000649_040FC0A_0000628_000064A_040FC0B_000062A_000062C_040FC0C_000062A_000062D,
   0x040FC0D_000062A_000062E_040FC0E_000062A_0000645_040FC0F_000062A_0000649_040FC10_000062A_000064A,
   0x040FC11_000062B_000062C_040FC12_000062B_0000645_040FC13_000062B_0000649_040FC14_000062B_000064A,
   0x040FC15_000062C_000062D_040FC16_000062C_0000645_040FC17_000062D_000062C_040FC18_000062D_0000645,
   0x040FC19_000062E_000062C_040FC1A_000062E_000062D_040FC1B_000062E_0000645_040FC1C_0000633_000062C,
   0x040FC1D_0000633_000062D_040FC1E_0000633_000062E_040FC1F_0000633_0000645_040FC20_0000635_000062D,
   0x040FC21_0000635_0000645_040FC22_0000636_000062C_040FC23_0000636_000062D_040FC24_0000636_000062E,
   0x040FC25_0000636_0000645_040FC26_0000637_000062D_040FC27_0000637_0000645_040FC28_0000638_0000645,
   0x040FC29_0000639_000062C_040FC2A_0000639_0000645_040FC2B_000063A_000062C_040FC2C_000063A_0000645,
   0x040FC2D_0000641_000062C_040FC2E_0000641_000062D_040FC2F_0000641_000062E_040FC30_0000641_0000645,
   0x040FC31_0000641_0000649_040FC32_0000641_000064A_040FC33_0000642_000062D_040FC34_0000642_0000645,
   0x040FC35_0000642_0000649_040FC36_0000642_000064A_040FC37_0000643_0000627_040FC38_0000643_000062C,
   0x040FC39_0000643_000062D_040FC3A_0000643_000062E_040FC3B_0000643_0000644_040FC3C_0000643_0000645,
   0x040FC3D_0000643_0000649_040FC3E_0000643_000064A_040FC3F_0000644_000062C_040FC40_0000644_000062D,
   0x040FC41_0000644_000062E_040FC42_0000644_0000645_040FC43_0000644_0000649_040FC44_0000644_000064A,
   0x040FC45_0000645_000062C_040FC46_0000645_000062D_040FC47_0000645_000062E_040FC48_0000645_0000645,
   0x040FC49_0000645_0000649_040FC4A_0000645_000064A_040FC4B_0000646_000062C_040FC4C_0000646_000062D,
   0x040FC4D_0000646_000062E_040FC4E_0000646_0000645_040FC4F_0000646_0000649_040FC50_0000646_000064A,
   0x040FC51_0000647_000062C_040FC52_0000647_0000645_040FC53_0000647_0000649_040FC54_0000647_000064A,
   0x040FC55_000064A_000062C_040FC56_000064A_000062D_040FC57_000064A_000062E_040FC58_000064A_0000645,
   0x040FC59_000064A_0000649_040FC5A_000064A_000064A_040FC5B_0000630_0000670_040FC5C_0000631_0000670,
   0x040FC5D_0000649_0000670_060FC5E_0000020_000064C_0000651_060FC5F_0000020_000064D_0000651,
   0x060FC60_0000020_000064E_0000651_060FC61_0000020_000064F_0000651_060FC62_0000020_0000650_0000651,
   0x060FC63_0000020_0000651_0000670_040FC64_0000626_0000631_040FC65_0000626_0000632_040FC66_0000626_0000645,
   0x040FC67_0000626_0000646_040FC68_0000626_0000649_040FC69_0000626_000064A_040FC6A_0000628_0000631,
   0x040FC6B_0000628_0000632_040FC6C_0000628_0000645_040FC6D_0000628_0000646_040FC6E_0000628_0000649,
   0x040FC6F_0000628_000064A_040FC70_000062A_0000631_040FC71_000062A_0000632_040FC72_000062A_0000645,
   0x040FC73_000062A_0000646_040FC74_000062A_0000649_040FC75_000062A_000064A_040FC76_000062B_0000631,
   0x040FC77_000062B_0000632_040FC78_000062B_0000645_040FC79_000062B_0000646_040FC7A_000062B_0000649,
   0x040FC7B_000062B_000064A_040FC7C_0000641_0000649_040FC7D_0000641_000064A_040FC7E_0000642_0000649,
   0x040FC7F_0000642_000064A_040FC80_0000643_0000627_040FC81_0000643_0000644_040FC82_0000643_0000645,
   0x040FC83_0000643_0000649_040FC84_0000643_000064A_040FC85_0000644_0000645_040FC86_0000644_0000649,
   0x040FC87_0000644_000064A_040FC88_0000645_0000627_040FC89_0000645_0000645_040FC8A_0000646_0000631,
   0x040FC8B_0000646_0000632_040FC8C_0000646_0000645_040FC8D_0000646_0000646_040FC8E_0000646_0000649,
   0x040FC8F_0000646_000064A_040FC90_0000649_0000670_040FC91_000064A_0000631_040FC92_000064A_0000632,
   0x040FC93_000064A_0000645_040FC94_000064A_0000646_040FC95_000064A_0000649_040FC96_000064A_000064A,
   0x040FC97_0000626_000062C_040FC98_0000626_000062D_040FC99_0000626_000062E_040FC9A_0000626_0000645,
   0x040FC9B_0000626_0000647_040FC9C_0000628_000062C_040FC9D_0000628_000062D_040FC9E_0000628_000062E,
   0x040FC9F_0000628_0000645_040FCA0_0000628_0000647_040FCA1_000062A_000062C_040FCA2_000062A_000062D,
   0x040FCA3_000062A_000062E_040FCA4_000062A_0000645_040FCA5_000062A_0000647_040FCA6_000062B_0000645,
   0x040FCA7_000062C_000062D_040FCA8_000062C_0000645_040FCA9_000062D_000062C_040FCAA_000062D_0000645,
   0x040FCAB_000062E_000062C_040FCAC_000062E_0000645_040FCAD_0000633_000062C_040FCAE_0000633_000062D,
   0x040FCAF_0000633_000062E_040FCB0_0000633_0000645_040FCB1_0000635_000062D_040FCB2_0000635_000062E,
   0x040FCB3_0000635_0000645_040FCB4_0000636_000062C_040FCB5_0000636_000062D_040FCB6_0000636_000062E,
   0x040FCB7_0000636_0000645_040FCB8_0000637_000062D_040FCB9_0000638_0000645_040FCBA_0000639_000062C,
   0x040FCBB_0000639_0000645_040FCBC_000063A_000062C_040FCBD_000063A_0000645_040FCBE_0000641_000062C,
   0x040FCBF_0000641_000062D_040FCC0_0000641_000062E_040FCC1_0000641_0000645_040FCC2_0000642_000062D,
   0x040FCC3_0000642_0000645_040FCC4_0000643_000062C_040FCC5_0000643_000062D_040FCC6_0000643_000062E,
   0x040FCC7_0000643_0000644_040FCC8_0000643_0000645_040FCC9_0000644_000062C_040FCCA_0000644_000062D,
   0x040FCCB_0000644_000062E_040FCCC_0000644_0000645_040FCCD_0000644_0000647_040FCCE_0000645_000062C,
   0x040FCCF_0000645_000062D_040FCD0_0000645_000062E_040FCD1_0000645_0000645_040FCD2_0000646_000062C,
   0x040FCD3_0000646_000062D_040FCD4_0000646_000062E_040FCD5_0000646_0000645_040FCD6_0000646_0000647,
   0x040FCD7_0000647_000062C_040FCD8_0000647_0000645_040FCD9_0000647_0000670_040FCDA_000064A_000062C,
   0x040FCDB_000064A_000062D_040FCDC_000064A_000062E_040FCDD_000064A_0000645_040FCDE_000064A_0000647,
   0x040FCDF_0000626_0000645_040FCE0_0000626_0000647_040FCE1_0000628_0000645_040FCE2_0000628_0000647,
   0x040FCE3_000062A_0000645_040FCE4_000062A_0000647_040FCE5_000062B_0000645_040FCE6_000062B_0000647,
   0x040FCE7_0000633_0000645_040FCE8_0000633_0000647_040FCE9_0000634_0000645_040FCEA_0000634_0000647,
   0x040FCEB_0000643_0000644_040FCEC_0000643_0000645_040FCED_0000644_0000645_040FCEE_0000646_0000645,
   0x040FCEF_0000646_0000647_040FCF0_000064A_0000645_040FCF1_000064A_0000647_060FCF2_0000640_000064E_0000651,
   0x060FCF3_0000640_000064F_0000651_060FCF4_0000640_0000650_0000651_040FCF5_0000637_0000649,
   0x040FCF6_0000637_000064A_040FCF7_0000639_0000649_040FCF8_0000639_000064A_040FCF9_000063A_0000649,
   0x040FCFA_000063A_000064A_040FCFB_0000633_0000649_040FCFC_0000633_000064A_040FCFD_0000634_0000649,
   0x040FCFE_0000634_000064A_040FCFF_000062D_0000649_040FD00_000062D_000064A_040FD01_000062C_0000649,
   0x040FD02_000062C_000064A_040FD03_000062E_0000649_040FD04_000062E_000064A_040FD05_0000635_0000649,
   0x040FD06_0000635_000064A_040FD07_0000636_0000649_040FD08_0000636_000064A_040FD09_0000634_000062C,
   0x040FD0A_0000634_000062D_040FD0B_0000634_000062E_040FD0C_0000634_0000645_040FD0D_0000634_0000631,
   0x040FD0E_0000633_0000631_040FD0F_0000635_0000631_040FD10_0000636_0000631_040FD11_0000637_0000649,
   0x040FD12_0000637_000064A_040FD13_0000639_0000649_040FD14_0000639_000064A_040FD15_000063A_0000649,
   0x040FD16_000063A_000064A_040FD17_0000633_0000649_040FD18_0000633_000064A_040FD19_0000634_0000649,
   0x040FD1A_0000634_000064A_040FD1B_000062D_0000649_040FD1C_000062D_000064A_040FD1D_000062C_0000649,
   0x040FD1E_000062C_000064A_040FD1F_000062E_0000649_040FD20_000062E_000064A_040FD21_0000635_0000649,
   0x040FD22_0000635_000064A_040FD23_0000636_0000649_040FD24_0000636_000064A_040FD25_0000634_000062C,
   0x040FD26_0000634_000062D_040FD27_0000634_000062E_040FD28_0000634_0000645_040FD29_0000634_0000631,
   0x040FD2A_0000633_0000631_040FD2B_0000635_0000631_040FD2C_0000636_0000631_040FD2D_0000634_000062C,
   0x040FD2E_0000634_000062D_040FD2F_0000634_000062E_040FD30_0000634_0000645_040FD31_0000633_0000647,
   0x040FD32_0000634_0000647_040FD33_0000637_0000645_040FD34_0000633_000062C_040FD35_0000633_000062D,
   0x040FD36_0000633_000062E_040FD37_0000634_000062C_040FD38_0000634_000062D_040FD39_0000634_000062E,
   0x040FD3A_0000637_0000645_040FD3B_0000638_0000645_040FD3C_0000627_000064B_040FD3D_0000627_000064B,
   0x060FD50_000062A_000062C_0000645_060FD51_000062A_000062D_000062C_060FD52_000062A_000062D_000062C,
   0x060FD53_000062A_000062D_0000645_060FD54_000062A_000062E_0000645_060FD55_000062A_0000645_000062C,
   0x060FD56_000062A_0000645_000062D_060FD57_000062A_0000645_000062E_060FD58_000062C_0000645_000062D,
   0x060FD59_000062C_0000645_000062D_060FD5A_000062D_0000645_000064A_060FD5B_000062D_0000645_0000649,
   0x060FD5C_0000633_000062D_000062C_060FD5D_0000633_000062C_000062D_060FD5E_0000633_000062C_0000649,
   0x060FD5F_0000633_0000645_000062D_060FD60_0000633_0000645_000062D_060FD61_0000633_0000645_000062C,
   0x060FD62_0000633_0000645_0000645_060FD63_0000633_0000645_0000645_060FD64_0000635_000062D_000062D,
   0x060FD65_0000635_000062D_000062D_060FD66_0000635_0000645_0000645_060FD67_0000634_000062D_0000645,
   0x060FD68_0000634_000062D_0000645_060FD69_0000634_000062C_000064A_060FD6A_0000634_0000645_000062E,
   0x060FD6B_0000634_0000645_000062E_060FD6C_0000634_0000645_0000645_060FD6D_0000634_0000645_0000645,
   0x060FD6E_0000636_000062D_0000649_060FD6F_0000636_000062E_0000645_060FD70_0000636_000062E_0000645,
   0x060FD71_0000637_0000645_000062D_060FD72_0000637_0000645_000062D_060FD73_0000637_0000645_0000645,
   0x060FD74_0000637_0000645_000064A_060FD75_0000639_000062C_0000645_060FD76_0000639_0000645_0000645,
   0x060FD77_0000639_0000645_0000645_060FD78_0000639_0000645_0000649_060FD79_000063A_0000645_0000645,
   0x060FD7A_000063A_0000645_000064A_060FD7B_000063A_0000645_0000649_060FD7C_0000641_000062E_0000645,
   0x060FD7D_0000641_000062E_0000645_060FD7E_0000642_0000645_000062D_060FD7F_0000642_0000645_0000645,
   0x060FD80_0000644_000062D_0000645_060FD81_0000644_000062D_000064A_060FD82_0000644_000062D_0000649,
   0x060FD83_0000644_000062C_000062C_060FD84_0000644_000062C_000062C_060FD85_0000644_000062E_0000645,
   0x060FD86_0000644_000062E_0000645_060FD87_0000644_0000645_000062D_060FD88_0000644_0000645_000062D,
   0x060FD89_0000645_000062D_000062C_060FD8A_0000645_000062D_0000645_060FD8B_0000645_000062D_000064A,
   0x060FD8C_0000645_000062C_000062D_060FD8D_0000645_000062C_0000645_060FD8E_0000645_000062E_000062C,
   0x060FD8F_0000645_000062E_0000645_060FD92_0000645_000062C_000062E_060FD93_0000647_0000645_000062C,
   0x060FD94_0000647_0000645_0000645_060FD95_0000646_000062D_0000645_060FD96_0000646_000062D_0000649,
   0x060FD97_0000646_000062C_0000645_060FD98_0000646_000062C_0000645_060FD99_0000646_000062C_0000649,
   0x060FD9A_0000646_0000645_000064A_060FD9B_0000646_0000645_0000649_060FD9C_000064A_0000645_0000645,
   0x060FD9D_000064A_0000645_0000645_060FD9E_0000628_000062E_000064A_060FD9F_000062A_000062C_000064A,
   0x060FDA0_000062A_000062C_0000649_060FDA1_000062A_000062E_000064A_060FDA2_000062A_000062E_0000649,
   0x060FDA3_000062A_0000645_000064A_060FDA4_000062A_0000645_0000649_060FDA5_000062C_0000645_000064A,
   0x060FDA6_000062C_000062D_0000649_060FDA7_000062C_0000645_0000649_060FDA8_0000633_000062E_0000649,
   0x060FDA9_0000635_000062D_000064A_060FDAA_0000634_000062D_000064A_060FDAB_0000636_000062D_000064A,
   0x060FDAC_0000644_000062C_000064A_060FDAD_0000644_0000645_000064A_060FDAE_000064A_000062D_000064A,
   0x060FDAF_000064A_000062C_000064A_060FDB0_000064A_0000645_000064A_060FDB1_0000645_0000645_000064A,
   0x060FDB2_0000642_0000645_000064A_060FDB3_0000646_000062D_000064A_060FDB4_0000642_0000645_000062D,
   0x060FDB5_0000644_000062D_0000645_060FDB6_0000639_0000645_000064A_060FDB7_0000643_0000645_000064A,
   0x060FDB8_0000646_000062C_000062D_060FDB9_0000645_000062E_000064A_060FDBA_0000644_000062C_0000645,
   0x060FDBB_0000643_0000645_0000645_060FDBC_0000644_000062C_0000645_060FDBD_0000646_000062C_000062D,
   0x060FDBE_000062C_000062D_000064A_060FDBF_000062D_000062C_000064A_060FDC0_0000645_000062C_000064A,
   0x060FDC1_0000641_0000645_000064A_060FDC2_0000628_000062D_000064A_060FDC3_0000643_0000645_0000645,
   0x060FDC4_0000639_000062C_0000645_060FDC5_0000635_0000645_0000645_060FDC6_0000633_000062E_000064A,
   0x060FDC7_0000646_000062C_000064A_060FDF0_0000635_0000644_00006D2_060FDF1_0000642_0000644_00006D2,
   0x080FDF2_0000627_0000644_0000644_0000647_080FDF3_0000627_0000643_0000628_0000631,
   0x080FDF4_0000645_000062D_0000645_000062F_080FDF5_0000635_0000644_0000639_0000645,
   0x080FDF6_0000631_0000633_0000648_0000644_080FDF7_0000639_0000644_000064A_0000647,
   0x080FDF8_0000648_0000633_0000644_0000645_060FDF9_0000635_0000644_0000649,
   0x240FDFA_0000635_0000644_0000649_0000020_0000627_0000644_0000644_0000647_0000020_0000639_0000644_000064A_0000647_0000020_0000648_0000633_0000644_0000645,
   0x100FDFB_000062C_0000644_0000020_000062C_0000644_0000627_0000644_0000647,
   0x080FDFC_0000631_00006CC_0000627_0000644_040FE49_0000020_0000305_040FE4A_0000020_0000305,
   0x040FE4B_0000020_0000305_040FE4C_0000020_0000305_040FE70_0000020_000064B_040FE71_0000640_000064B,
   0x040FE72_0000020_000064C_040FE74_0000020_000064D_040FE76_0000020_000064E_040FE77_0000640_000064E,
   0x040FE78_0000020_000064F_040FE79_0000640_000064F_040FE7A_0000020_0000650_040FE7B_0000640_0000650,
   0x040FE7C_0000020_0000651_040FE7D_0000640_0000651_040FE7E_0000020_0000652_040FE7F_0000640_0000652,
   0x040FEF5_0000644_0000622_040FEF6_0000644_0000622_040FEF7_0000644_0000623_040FEF8_0000644_0000623,
   0x040FEF9_0000644_0000625_040FEFA_0000644_0000625_040FEFB_0000644_0000627_040FEFC_0000644_0000627,
   0x040FFE3_0000020_0000304_041D15E_001D157_001D165_041D15F_001D158_001D165_061D160_001D158_001D165_001D16E,
   0x061D161_001D158_001D165_001D16F_061D162_001D158_001D165_001D170_061D163_001D158_001D165_001D171,
   0x061D164_001D158_001D165_001D172_041D1BB_001D1B9_001D165_041D1BC_001D1BA_001D165,
   0x061D1BD_001D1B9_001D165_001D16E_061D1BE_001D1BA_001D165_001D16E_061D1BF_001D1B9_001D165_001D16F,
   0x061D1C0_001D1BA_001D165_001D16F_041F101_0000030_000002C_041F102_0000031_000002C_041F103_0000032_000002C,
   0x041F104_0000033_000002C_041F105_0000034_000002C_041F106_0000035_000002C_041F107_0000036_000002C,
   0x041F108_0000037_000002C_041F109_0000038_000002C_041F10A_0000039_000002C_061F110_0000028_0000061_0000029,
   0x061F111_0000028_0000062_0000029_061F112_0000028_0000063_0000029_061F113_0000028_0000064_0000029,
   0x061F114_0000028_0000065_0000029_061F115_0000028_0000066_0000029_061F116_0000028_0000067_0000029,
   0x061F117_0000028_0000068_0000029_061F118_0000028_0000069_0000029_061F119_0000028_000006A_0000029,
   0x061F11A_0000028_000006B_0000029_061F11B_0000028_000006C_0000029_061F11C_0000028_000006D_0000029,
   0x061F11D_0000028_000006E_0000029_061F11E_0000028_000006F_0000029_061F11F_0000028_0000070_0000029,
   0x061F120_0000028_0000071_0000029_061F121_0000028_0000072_0000029_061F122_0000028_0000073_0000029,
   0x061F123_0000028_0000074_0000029_061F124_0000028_0000075_0000029_061F125_0000028_0000076_0000029,
   0x061F126_0000028_0000077_0000029_061F127_0000028_0000078_0000029_061F128_0000028_0000079_0000029,
   0x061F129_0000028_000007A_0000029_061F12A_0003014_0000073_0003015_041F12D_0000063_0000064,
   0x041F12E_0000077_000007A_041F14A_0000068_0000076_041F14B_000006D_0000076_041F14C_0000073_0000064,
   0x041F14D_0000073_0000073_061F14E_0000070_0000070_0000076_041F14F_0000077_0000063_041F16A_000006D_0000063,
   0x041F16B_000006D_0000064_041F16C_000006D_0000072_041F190_0000064_000006A_041F200_000307B_000304B,
   0x041F201_00030B3_00030B3_061F240_0003014_000672C_0003015_061F241_0003014_0004E09_0003015,
   0x061F242_0003014_0004E8C_0003015_061F243_0003014_0005B89_0003015_061F244_0003014_00070B9_0003015,
   0x061F245_0003014_0006253_0003015_061F246_0003014_00076D7_0003015_061F247_0003014_00052DD_0003015,
   0x061F248_0003014_0006557_0003015]

end HostLookup.Idna
