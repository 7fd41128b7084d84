/-! Characters that a quotation spells out: controls, format characters, separators other than the
space, private, unassigned and surrogate code points, fillers, and marks that extend a character. -/
namespace HostLookup.Text

/-- Rows of twelve-digit intervals, in order. -/
def hiddenRows : List Nat :=
  [0x00000000001F_00007F0000A0_0000AD0000AD_00030000036F_000378000379_000380000383_00038B00038B,
   0x00038D00038D_0003A20003A2_000483000489_000530000530_000557000558_00058B00058C_0005900005BD,
   0x0005BF0005BF_0005C10005C2_0005C40005C5_0005C70005CF_0005EB0005EE_0005F5000605_00061000061A,
   0x00061C00061C_00064B00065F_000670000670_0006D60006DD_0006DF0006E4_0006E70006E8_0006EA0006ED,
   0x00070E00070F_000711000711_00073000074C_0007A60007B0_0007B20007BF_0007EB0007F3_0007FB0007FD,
   0x000816000819_00081B000823_000825000827_00082900082F_00083F00083F_00085900085D_00085F00085F,
   0x00086B00086F_00089000089F_0008CA000902_00093A00093A_00093C00093C_000941000948_00094D00094D,
   0x000951000957_000962000963_000981000981_000984000984_00098D00098E_000991000992_0009A90009A9,
   0x0009B10009B1_0009B30009B5_0009BA0009BC_0009BE0009BE_0009C10009C6_0009C90009CA_0009CD0009CD,
   0x0009CF0009DB_0009DE0009DE_0009E20009E5_0009FE000A02_000A04000A04_000A0B000A0E_000A11000A12,
   0x000A29000A29_000A31000A31_000A34000A34_000A37000A37_000A3A000A3D_000A41000A58_000A5D000A5D,
   0x000A5F000A65_000A70000A71_000A75000A75_000A77000A82_000A84000A84_000A8E000A8E_000A92000A92,
   0x000AA9000AA9_000AB1000AB1_000AB4000AB4_000ABA000ABC_000AC1000AC8_000ACA000ACA_000ACD000ACF,
   0x000AD1000ADF_000AE2000AE5_000AF2000AF8_000AFA000B01_000B04000B04_000B0D000B0E_000B11000B12,
   0x000B29000B29_000B31000B31_000B34000B34_000B3A000B3C_000B3E000B3F_000B41000B46_000B49000B4A,
   0x000B4D000B5B_000B5E000B5E_000B62000B65_000B78000B82_000B84000B84_000B8B000B8D_000B91000B91,
   0x000B96000B98_000B9B000B9B_000B9D000B9D_000BA0000BA2_000BA5000BA7_000BAB000BAD_000BBA000BBE,
   0x000BC0000BC0_000BC3000BC5_000BC9000BC9_000BCD000BCF_000BD1000BE5_000BFB000C00_000C04000C04,
   0x000C0D000C0D_000C11000C11_000C29000C29_000C3A000C3C_000C3E000C40_000C45000C57_000C5B000C5B,
   0x000C5E000C5F_000C62000C65_000C70000C76_000C81000C81_000C8D000C8D_000C91000C91_000CA9000CA9,
   0x000CB4000CB4_000CBA000CBC_000CBF000CC0_000CC2000CC2_000CC5000CDB_000CDF000CDF_000CE2000CE5,
   0x000CF0000CF0_000CF4000D01_000D0D000D0D_000D11000D11_000D3B000D3C_000D3E000D3E_000D41000D45,
   0x000D49000D49_000D4D000D4D_000D50000D53_000D57000D57_000D62000D65_000D80000D81_000D84000D84,
   0x000D97000D99_000DB2000DB2_000DBC000DBC_000DBE000DBF_000DC7000DCF_000DD2000DD7_000DDF000DE5,
   0x000DF0000DF1_000DF5000E00_000E31000E31_000E34000E3E_000E47000E4E_000E5C000E80_000E83000E83,
   0x000E85000E85_000E8B000E8B_000EA4000EA4_000EA6000EA6_000EB1000EB1_000EB4000EBC_000EBE000EBF,
   0x000EC5000EC5_000EC7000ECF_000EDA000EDB_000EE0000EFF_000F18000F19_000F35000F35_000F37000F37,
   0x000F39000F39_000F48000F48_000F6D000F7E_000F80000F84_000F86000F87_000F8D000FBD_000FC6000FC6,
   0x000FCD000FCD_000FDB000FFF_00102D001030_001032001037_00103900103A_00103D00103E_001058001059,
   0x00105E001060_001071001074_001082001082_001085001086_00108D00108D_00109D00109D_0010C60010C6,
   0x0010C80010CC_0010CE0010CF_00115F001160_001249001249_00124E00124F_001257001257_001259001259,
   0x00125E00125F_001289001289_00128E00128F_0012B10012B1_0012B60012B7_0012BF0012BF_0012C10012C1,
   0x0012C60012C7_0012D70012D7_001311001311_001316001317_00135B00135F_00137D00137F_00139A00139F,
   0x0013F60013F7_0013FE0013FF_001680001680_00169D00169F_0016F90016FF_00171200171E_001732001734,
   0x00173700173F_00175200175F_00176D00176D_00177100177F_0017B40017B5_0017B70017BD_0017C60017C6,
   0x0017C90017D3_0017DD0017DF_0017EA0017EF_0017FA0017FF_00180B00180F_00181A00181F_00187900187F,
   0x001885001886_0018A90018A9_0018AB0018AF_0018F60018FF_00191F001922_001927001928_00192C00192F,
   0x001932001932_00193900193F_001941001943_00196E00196F_00197500197F_0019AC0019AF_0019CA0019CF,
   0x0019DB0019DD_001A17001A18_001A1B001A1D_001A56001A56_001A58001A60_001A62001A62_001A65001A6C,
   0x001A73001A7F_001A8A001A8F_001A9A001A9F_001AAE001B03_001B34001B3D_001B42001B44_001B4D001B4D,
   0x001B6B001B73_001B80001B81_001BA2001BA5_001BA8001BAD_001BE6001BE6_001BE8001BE9_001BED001BED,
   0x001BEF001BFB_001C2C001C33_001C36001C3A_001C4A001C4C_001C8B001C8F_001CBB001CBC_001CC8001CD2,
   0x001CD4001CE0_001CE2001CE8_001CED001CED_001CF4001CF4_001CF8001CF9_001CFB001CFF_001DC0001DFF,
   0x001F16001F17_001F1E001F1F_001F46001F47_001F4E001F4F_001F58001F58_001F5A001F5A_001F5C001F5C,
   0x001F5E001F5E_001F7E001F7F_001FB5001FB5_001FC5001FC5_001FD4001FD5_001FDC001FDC_001FF0001FF1,
   0x001FF5001FF5_001FFF00200F_00202800202F_00205F00206F_002072002073_00208F00208F_00209D00209F,
   0x0020C20020FF_00218C00218F_00242A00243F_00244B00245F_002B74002B75_002CEF002CF1_002CF4002CF8,
   0x002D26002D26_002D28002D2C_002D2E002D2F_002D68002D6E_002D71002D7F_002D97002D9F_002DA7002DA7,
   0x002DAF002DAF_002DB7002DB7_002DBF002DBF_002DC7002DC7_002DCF002DCF_002DD7002DD7_002DDF002DFF,
   0x002E5E002E7F_002E9A002E9A_002EF4002EFF_002FD6002FEF_003000003000_00302A00302F_003040003040,
   0x00309700309A_003100003104_003130003130_003164003164_00318F00318F_0031E60031EE_00321F00321F,
   0x00A48D00A48F_00A4C700A4CF_00A62C00A63F_00A66F00A672_00A67400A67D_00A69E00A69F_00A6F000A6F1,
   0x00A6F800A6FF_00A7DD00A7F0_00A80200A802_00A80600A806_00A80B00A80B_00A82500A826_00A82C00A82F,
   0x00A83A00A83F_00A87800A87F_00A8C400A8CD_00A8DA00A8F1_00A8FF00A8FF_00A92600A92D_00A94700A951,
   0x00A95300A95E_00A97D00A982_00A9B300A9B3_00A9B600A9B9_00A9BC00A9BD_00A9C000A9C0_00A9CE00A9CE,
   0x00A9DA00A9DD_00A9E500A9E5_00A9FF00A9FF_00AA2900AA2E_00AA3100AA32_00AA3500AA3F_00AA4300AA43,
   0x00AA4C00AA4C_00AA4E00AA4F_00AA5A00AA5B_00AA7C00AA7C_00AAB000AAB0_00AAB200AAB4_00AAB700AAB8,
   0x00AABE00AABF_00AAC100AAC1_00AAC300AADA_00AAEC00AAED_00AAF600AB00_00AB0700AB08_00AB0F00AB10,
   0x00AB1700AB1F_00AB2700AB27_00AB2F00AB2F_00AB6C00AB6F_00ABE500ABE5_00ABE800ABE8_00ABED00ABEF,
   0x00ABFA00ABFF_00D7A400D7AF_00D7C700D7CA_00D7FC00F8FF_00FA6E00FA6F_00FADA00FAFF_00FB0700FB12,
   0x00FB1800FB1C_00FB1E00FB1E_00FB3700FB37_00FB3D00FB3D_00FB3F00FB3F_00FB4200FB42_00FB4500FB45,
   0x00FDD000FDEF_00FE0000FE0F_00FE1A00FE2F_00FE5300FE53_00FE6700FE67_00FE6C00FE6F_00FE7500FE75,
   0x00FEFD00FF00_00FFA000FFA0_00FFBF00FFC1_00FFC800FFC9_00FFD000FFD1_00FFD800FFD9_00FFDD00FFDF,
   0x00FFE700FFE7_00FFEF00FFFB_00FFFE00FFFF_01000C01000C_010027010027_01003B01003B_01003E01003E,
   0x01004E01004F_01005E01007F_0100FB0100FF_010103010106_010134010136_01018F01018F_01019D01019F,
   0x0101A10101CF_0101FD01027F_01029D01029F_0102D10102E0_0102FC0102FF_01032401032C_01034B01034F,
   0x01037601037F_01039E01039E_0103C40103C7_0103D60103FF_01049E01049F_0104AA0104AF_0104D40104D7,
   0x0104FC0104FF_01052801052F_01056401056E_01057B01057B_01058B01058B_010593010593_010596010596,
   0x0105A20105A2_0105B20105B2_0105BA0105BA_0105BD0105BF_0105F40105FF_01073701073F_01075601075F,
   0x01076801077F_010786010786_0107B10107B1_0107BB0107FF_010806010807_010809010809_010836010836,
   0x01083901083B_01083D01083E_010856010856_01089F0108A6_0108B00108DF_0108F30108F3_0108F60108FA,
   0x01091C01091E_01093A01093E_01095A01097F_0109B80109BB_0109D00109D1_010A01010A0F_010A14010A14,
   0x010A18010A18_010A36010A3F_010A49010A4F_010A59010A5F_010AA0010ABF_010AE5010AEA_010AF7010AFF,
   0x010B36010B38_010B56010B57_010B73010B77_010B92010B98_010B9D010BA8_010BB0010BFF_010C49010C7F,
   0x010CB3010CBF_010CF3010CF9_010D24010D2F_010D3A010D3F_010D66010D6D_010D86010D8D_010D90010E5F,
   0x010E7F010E7F_010EAA010EAC_010EAE010EAF_010EB2010EC1_010EC8010ECF_010ED9010EFF_010F28010F2F,
   0x010F46010F50_010F5A010F6F_010F82010F85_010F8A010FAF_010FCC010FDF_010FF7010FFF_011001011001,
   0x011038011046_01104E011051_011070011070_011073011074_011076011081_0110B30110B6_0110B90110BA,
   0x0110BD0110BD_0110C20110CF_0110E90110EF_0110FA011102_01112701112B_01112D011135_01114801114F,
   0x011173011173_011177011181_0111B60111BE_0111C00111C0_0111C90111CC_0111CF0111CF_0111E00111E0,
   0x0111F50111FF_011212011212_01122F011231_011234011237_01123E01123E_01124101127F_011287011287,
   0x011289011289_01128E01128E_01129E01129E_0112AA0112AF_0112DF0112DF_0112E30112EF_0112FA011301,
   0x011304011304_01130D01130E_011311011312_011329011329_011331011331_011334011334_01133A01133C,
   0x01133E01133E_011340011340_011345011346_01134901134A_01134D01134F_01135101135C_01136401137F,
   0x01138A01138A_01138C01138D_01138F01138F_0113B60113B6_0113B80113B8_0113BB0113C9_0113CB0113CB,
   0x0113CE0113D0_0113D20113D2_0113D60113D6_0113D90113FF_01143801143F_011442011444_011446011446,
   0x01145C01145C_01145E01145E_01146201147F_0114B00114B0_0114B30114B8_0114BA0114BA_0114BD0114BD,
   0x0114BF0114C0_0114C20114C3_0114C80114CF_0114DA01157F_0115AF0115AF_0115B20115B7_0115BC0115BD,
   0x0115BF0115C0_0115DC0115FF_01163301163A_01163D01163D_01163F011640_01164501164F_01165A01165F,
   0x01166D01167F_0116AB0116AB_0116AD0116AD_0116B00116B7_0116BA0116BF_0116CA0116CF_0116E40116FF,
   0x01171B01171D_01171F01171F_011722011725_01172701172F_0117470117FF_01182F011837_01183901183A,
   0x01183C01189F_0118F30118FE_011907011908_01190A01190B_011914011914_011917011917_011930011930,
   0x011936011936_01193901193E_011943011943_01194701194F_01195A01199F_0119A80119A9_0119D40119DB,
   0x0119E00119E0_0119E50119FF_011A01011A0A_011A33011A38_011A3B011A3E_011A47011A4F_011A51011A56,
   0x011A59011A5B_011A8A011A96_011A98011A99_011AA3011AAF_011AF9011AFF_011B0A011B60_011B62011B64,
   0x011B66011B66_011B68011BBF_011BE2011BEF_011BFA011BFF_011C09011C09_011C30011C3D_011C3F011C3F,
   0x011C46011C4F_011C6D011C6F_011C90011CA8_011CAA011CB0_011CB2011CB3_011CB5011CFF_011D07011D07,
   0x011D0A011D0A_011D31011D45_011D47011D4F_011D5A011D5F_011D66011D66_011D69011D69_011D8F011D92,
   0x011D95011D95_011D97011D97_011D99011D9F_011DAA011DAF_011DDC011DDF_011DEA011EDF_011EF3011EF4,
   0x011EF9011F01_011F11011F11_011F36011F3D_011F40011F42_011F5A011FAF_011FB1011FBF_011FF2011FFE,
   0x01239A0123FF_01246F01246F_01247501247F_012544012F8F_012FF3012FFF_013430013440_01344701345F,
   0x0143FB0143FF_0146470160FF_01611E016129_01612D01612F_01613A0167FF_016A39016A3F_016A5F016A5F,
   0x016A6A016A6D_016ABF016ABF_016ACA016ACF_016AEE016AF4_016AF6016AFF_016B30016B36_016B46016B4F,
   0x016B5A016B5A_016B62016B62_016B78016B7C_016B90016D3F_016D7A016E3F_016E9B016E9F_016EB9016EBA,
   0x016ED4016EFF_016F4B016F4F_016F88016F92_016FA0016FDF_016FE4016FF1_016FF7016FFF_018CD6018CFE,
   0x018D1F018D7F_018DF301AFEF_01AFF401AFF4_01AFFC01AFFC_01AFFF01AFFF_01B12301B131_01B13301B14F,
   0x01B15301B154_01B15601B163_01B16801B16F_01B2FC01BBFF_01BC6B01BC6F_01BC7D01BC7F_01BC8901BC8F,
   0x01BC9A01BC9B_01BC9D01BC9E_01BCA001CBFF_01CCFD01CCFF_01CEB401CEB9_01CED101CEDF_01CEF101CF4F,
   0x01CFC401CFFF_01D0F601D0FF_01D12701D128_01D16501D169_01D16D01D182_01D18501D18B_01D1AA01D1AD,
   0x01D1EB01D1FF_01D24201D244_01D24601D2BF_01D2D401D2DF_01D2F401D2FF_01D35701D35F_01D37901D3FF,
   0x01D45501D455_01D49D01D49D_01D4A001D4A1_01D4A301D4A4_01D4A701D4A8_01D4AD01D4AD_01D4BA01D4BA,
   0x01D4BC01D4BC_01D4C401D4C4_01D50601D506_01D50B01D50C_01D51501D515_01D51D01D51D_01D53A01D53A,
   0x01D53F01D53F_01D54501D545_01D54701D549_01D55101D551_01D6A601D6A7_01D7CC01D7CD_01DA0001DA36,
   0x01DA3B01DA6C_01DA7501DA75_01DA8401DA84_01DA8C01DEFF_01DF1F01DF24_01DF2B01E02F_01E06E01E0FF,
   0x01E12D01E136_01E13E01E13F_01E14A01E14D_01E15001E28F_01E2AE01E2BF_01E2EC01E2EF_01E2FA01E2FE,
   0x01E30001E4CF_01E4EC01E4EF_01E4FA01E5CF_01E5EE01E5EF_01E5FB01E5FE_01E60001E6BF_01E6DF01E6DF,
   0x01E6E301E6E3_01E6E601E6E6_01E6EE01E6EF_01E6F501E6FD_01E70001E7DF_01E7E701E7E7_01E7EC01E7EC,
   0x01E7EF01E7EF_01E7FF01E7FF_01E8C501E8C6_01E8D001E8FF_01E94401E94A_01E94C01E94F_01E95A01E95D,
   0x01E96001EC70_01ECB501ED00_01ED3E01EDFF_01EE0401EE04_01EE2001EE20_01EE2301EE23_01EE2501EE26,
   0x01EE2801EE28_01EE3301EE33_01EE3801EE38_01EE3A01EE3A_01EE3C01EE41_01EE4301EE46_01EE4801EE48,
   0x01EE4A01EE4A_01EE4C01EE4C_01EE5001EE50_01EE5301EE53_01EE5501EE56_01EE5801EE58_01EE5A01EE5A,
   0x01EE5C01EE5C_01EE5E01EE5E_01EE6001EE60_01EE6301EE63_01EE6501EE66_01EE6B01EE6B_01EE7301EE73,
   0x01EE7801EE78_01EE7D01EE7D_01EE7F01EE7F_01EE8A01EE8A_01EE9C01EEA0_01EEA401EEA4_01EEAA01EEAA,
   0x01EEBC01EEEF_01EEF201EFFF_01F02C01F02F_01F09401F09F_01F0AF01F0B0_01F0C001F0C0_01F0D001F0D0,
   0x01F0F601F0FF_01F1AE01F1E5_01F20301F20F_01F23C01F23F_01F24901F24F_01F25201F25F_01F26601F2FF,
   0x01F6D901F6DB_01F6ED01F6EF_01F6FD01F6FF_01F7DA01F7DF_01F7EC01F7EF_01F7F101F7FF_01F80C01F80F,
   0x01F84801F84F_01F85A01F85F_01F88801F88F_01F8AE01F8AF_01F8BC01F8BF_01F8C201F8CF_01F8D901F8FF,
   0x01FA5801FA5F_01FA6E01FA6F_01FA7D01FA7F_01FA8B01FA8D_01FAC701FAC7_01FAC901FACC_01FADD01FADE,
   0x01FAEB01FAEE_01FAF901FAFF_01FB9301FB93_01FBFB01FFFF_02A6E002A6FF_02B81E02B81F_02CEAE02CEAF,
   0x02EBE102EBEF_02EE5E02F7FF_02FA1E02FFFF_03134B03134F_03347A10FFFF]

end HostLookup.Text
