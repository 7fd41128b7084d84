/-! Marks, joining types and directions of Unicode 18.0, as packed rows. -/
namespace HostLookup.Idna

/-- Characters of the general categories of marks, as twelve-digit intervals. -/
def markRows : List Nat :=
  [0x00030000036F_000483000489_0005910005BD_0005BF0005BF_0005C10005C2_0005C40005C5_0005C70005C9,
   0x00061000061A_00064B00065F_000670000670_0006D60006DC_0006DF0006E4_0006E70006E8_0006EA0006ED,
   0x000711000711_00073000074A_0007A60007B0_0007EB0007F3_0007FD0007FD_000816000819_00081B000823,
   0x000825000827_00082900082D_00085900085B_00089700089F_0008CA0008E1_0008E3000903_00093A00093C,
   0x00093E00094F_000951000957_000962000963_000981000983_0009BC0009BC_0009BE0009C4_0009C70009C8,
   0x0009CB0009CD_0009D70009D7_0009E20009E3_0009FE0009FE_000A01000A03_000A3C000A3C_000A3E000A42,
   0x000A47000A48_000A4B000A4D_000A51000A51_000A70000A71_000A75000A75_000A81000A83_000ABC000ABC,
   0x000ABE000AC5_000AC7000AC9_000ACB000ACD_000AE2000AE3_000AFA000AFF_000B01000B03_000B3C000B3C,
   0x000B3E000B44_000B47000B48_000B4B000B4D_000B53000B57_000B62000B63_000B82000B82_000BBE000BC2,
   0x000BC6000BC8_000BCA000BCD_000BD7000BD7_000C00000C04_000C3C000C3C_000C3E000C44_000C46000C48,
   0x000C4A000C4D_000C55000C56_000C62000C63_000C81000C83_000CBC000CBC_000CBE000CC4_000CC6000CC8,
   0x000CCA000CCD_000CD5000CD6_000CE2000CE3_000CF3000CF3_000D00000D03_000D3B000D3C_000D3E000D44,
   0x000D46000D48_000D4A000D4D_000D57000D57_000D62000D63_000D81000D83_000DCA000DCA_000DCF000DD4,
   0x000DD6000DD6_000DD8000DDF_000DF2000DF3_000E31000E31_000E34000E3A_000E47000E4E_000EB1000EB1,
   0x000EB4000EBC_000EC8000ECE_000F18000F19_000F35000F35_000F37000F37_000F39000F39_000F3E000F3F,
   0x000F71000F84_000F86000F87_000F8D000F97_000F99000FBC_000FC6000FC6_00102B00103E_001056001059,
   0x00105E001060_001062001064_00106700106D_001071001074_00108200108D_00108F00108F_00109A00109D,
   0x00135D00135F_001712001715_001732001734_001752001753_001772001773_0017B40017D3_0017DD0017DD,
   0x00180B00180D_00180F00180F_001885001886_0018A90018A9_00192000192B_00193000193B_001A17001A1B,
   0x001A55001A5E_001A60001A7C_001A7F001A7F_001AB0001ADD_001AE0001AEB_001AF0001AF0_001B00001B04,
   0x001B34001B44_001B6B001B73_001B80001B82_001BA1001BAD_001BE6001BF3_001C24001C37_001CD0001CD2,
   0x001CD4001CE8_001CED001CED_001CF4001CF4_001CF7001CF9_001DC0001DFF_0020D00020F0_002CEF002CF1,
   0x002D7F002D7F_002DE0002DFF_00302A00302F_00309900309A_00A66F00A672_00A67400A67D_00A69E00A69F,
   0x00A6F000A6F1_00A80200A802_00A80600A806_00A80B00A80B_00A82300A827_00A82C00A82C_00A88000A881,
   0x00A8B400A8C5_00A8E000A8F1_00A8FF00A8FF_00A92600A92D_00A94700A953_00A98000A983_00A9B300A9C0,
   0x00A9E500A9E5_00AA2900AA36_00AA4300AA43_00AA4C00AA4D_00AA7B00AA7D_00AAB000AAB0_00AAB200AAB4,
   0x00AAB700AAB8_00AABE00AABF_00AAC100AAC1_00AAEB00AAEF_00AAF500AAF6_00ABE300ABEA_00ABEC00ABED,
   0x00FB1E00FB1E_00FE0000FE0F_00FE2000FE2F_0101FD0101FD_0102E00102E0_01037601037A_010A01010A03,
   0x010A05010A06_010A0C010A0F_010A38010A3A_010A3F010A3F_010AE5010AE6_010D24010D27_010D69010D6D,
   0x010EAB010EAC_010EFA010EFF_010F46010F50_010F82010F85_011000011002_011038011046_011070011070,
   0x011073011074_01107F011082_0110B00110BA_0110C20110C2_011100011102_011127011134_011145011146,
   0x011173011173_011180011182_0111B30111C0_0111C90111CC_0111CE0111CF_01122C011237_01123E01123E,
   0x011241011241_0112DF0112EA_011300011303_01133B01133C_01133E011344_011347011348_01134B01134D,
   0x011357011357_011362011363_01136601136C_011370011374_0113B80113C0_0113C20113C2_0113C50113C5,
   0x0113C70113CA_0113CC0113D0_0113D20113D2_0113E10113E2_011435011446_01145E01145E_0114B00114C3,
   0x0115AF0115B5_0115B80115C0_0115DC0115DD_011630011640_0116AB0116B7_01171D01172B_01182C01183A,
   0x011930011935_011937011938_01193B01193E_011940011940_011942011943_0119D10119D7_0119DA0119E0,
   0x0119E40119E4_011A01011A0A_011A33011A39_011A3B011A3E_011A47011A47_011A51011A5B_011A8A011A99,
   0x011B60011B67_011C2F011C36_011C38011C3F_011C92011CA7_011CA9011CB6_011D31011D36_011D3A011D3A,
   0x011D3C011D3D_011D3F011D45_011D47011D47_011D8A011D8E_011D90011D91_011D93011D97_011EF3011EF6,
   0x011F00011F01_011F03011F03_011F34011F3A_011F3E011F42_011F5A011F5A_013440013440_013447013455,
   0x01611E01612F_016AF0016AF4_016B30016B36_016F4F016F4F_016F51016F87_016F8F016F92_016FE4016FE4,
   0x016FF0016FF1_01BC9D01BC9E_01CF0001CF2D_01CF3001CF46_01D16501D169_01D16D01D172_01D17B01D182,
   0x01D18501D18B_01D1AA01D1AD_01D24201D244_01DA0001DA36_01DA3B01DA6C_01DA7501DA75_01DA8401DA84,
   0x01DA9B01DA9F_01DAA101DAAF_01E00001E006_01E00801E018_01E01B01E021_01E02301E024_01E02601E02A,
   0x01E08F01E08F_01E13001E136_01E2AE01E2AE_01E2EC01E2EF_01E4EC01E4EF_01E5EE01E5EF_01E6E301E6E3,
   0x01E6E601E6E6_01E6EE01E6EF_01E6F501E6F5_01E8D001E8D6_01E94401E94A_0E01000E01EF]

/-- Joining types other than non-joining, as fourteen-digit fields: 1 left, 2 right, 3 dual, 4 transparent,
5 causing. -/
def joiningRows : List Nat :=
  [0x0000AD0000AD04_00030000036F04_00048300048904_0005910005BD04_0005BF0005BF04_0005C10005C204,
   0x0005C40005C504_0005C70005C904_00061000061A04_00061C00061C04_00062000062003_00062200062502,
   0x00062600062603_00062700062702_00062800062803_00062900062902_00062A00062E03_00062F00063202,
   0x00063300063F03_00064000064005_00064100064703_00064800064802_00064900064A03_00064B00065F04,
   0x00066E00066F03_00067000067004_00067100067302_00067500067702_00067800068703_00068800069902,
   0x00069A0006BF03_0006C00006C002_0006C10006C203_0006C30006CB02_0006CC0006CC03_0006CD0006CD02,
   0x0006CE0006CE03_0006CF0006CF02_0006D00006D103_0006D20006D302_0006D50006D502_0006D60006DC04,
   0x0006DF0006E404_0006E70006E804_0006EA0006ED04_0006EE0006EF02_0006FA0006FC03_0006FF0006FF03,
   0x00070F00070F04_00071000071002_00071100071104_00071200071403_00071500071902_00071A00071D03,
   0x00071E00071E02_00071F00072703_00072800072802_00072900072903_00072A00072A02_00072B00072B03,
   0x00072C00072C02_00072D00072E03_00072F00072F02_00073000074A04_00074D00074D02_00074E00075803,
   0x00075900075B02_00075C00076A03_00076B00076C02_00076D00077003_00077100077102_00077200077203,
   0x00077300077402_00077500077703_00077800077902_00077A00077F03_0007A60007B004_0007CA0007EA03,
   0x0007EB0007F304_0007FA0007FA05_0007FD0007FD04_00081600081904_00081B00082304_00082500082704,
   0x00082900082D04_00084000084002_00084100084503_00084600084702_00084800084803_00084900084902,
   0x00084A00085303_00085400085402_00085500085503_00085600085802_00085900085B04_00086000086003,
   0x00086200086503_00086700086702_00086800086803_00086900086A02_00087000088202_00088300088505,
   0x00088600088603_00088900088D03_00088E00088E02_00088F00088F03_00089700089F04_0008A00008A903,
   0x0008AA0008AC02_0008AE0008AE02_0008AF0008B003_0008B10008B202_0008B30008B803_0008B90008B902,
   0x0008BA0008C803_0008CA0008E104_0008E300090204_00093A00093A04_00093C00093C04_00094100094804,
   0x00094D00094D04_00095100095704_00096200096304_00098100098104_0009BC0009BC04_0009C10009C404,
   0x0009CD0009CD04_0009E20009E304_0009FE0009FE04_000A01000A0204_000A3C000A3C04_000A41000A4204,
   0x000A47000A4804_000A4B000A4D04_000A51000A5104_000A70000A7104_000A75000A7504_000A81000A8204,
   0x000ABC000ABC04_000AC1000AC504_000AC7000AC804_000ACD000ACD04_000AE2000AE304_000AFA000AFF04,
   0x000B01000B0104_000B3C000B3C04_000B3F000B3F04_000B41000B4404_000B4D000B4D04_000B53000B5604,
   0x000B62000B6304_000B82000B8204_000BC0000BC004_000BCD000BCD04_000C00000C0004_000C04000C0404,
   0x000C3C000C3C04_000C3E000C4004_000C46000C4804_000C4A000C4D04_000C55000C5604_000C62000C6304,
   0x000C81000C8104_000CBC000CBC04_000CBF000CBF04_000CC6000CC604_000CCC000CCD04_000CE2000CE304,
   0x000D00000D0104_000D3B000D3C04_000D41000D4404_000D4D000D4D04_000D62000D6304_000D81000D8104,
   0x000DCA000DCA04_000DD2000DD404_000DD6000DD604_000E31000E3104_000E34000E3A04_000E47000E4E04,
   0x000EB1000EB104_000EB4000EBC04_000EC8000ECE04_000F18000F1904_000F35000F3504_000F37000F3704,
   0x000F39000F3904_000F71000F7E04_000F80000F8404_000F86000F8704_000F8D000F9704_000F99000FBC04,
   0x000FC6000FC604_00102D00103004_00103200103704_00103900103A04_00103D00103E04_00105800105904,
   0x00105E00106004_00107100107404_00108200108204_00108500108604_00108D00108D04_00109D00109D04,
   0x00135D00135F04_00171200171404_00173200173304_00175200175304_00177200177304_0017B40017B504,
   0x0017B70017BD04_0017C60017C604_0017C90017D304_0017DD0017DD04_00180700180703_00180A00180A05,
   0x00180B00180D04_00180F00180F04_00182000187803_00188500188604_0018870018A803_0018A90018A904,
   0x0018AA0018AA03_00192000192204_00192700192804_00193200193204_00193900193B04_001A17001A1804,
   0x001A1B001A1B04_001A56001A5604_001A58001A5E04_001A60001A6004_001A62001A6204_001A65001A6C04,
   0x001A73001A7C04_001A7F001A7F04_001AB0001ADD04_001AE0001AEB04_001AF0001AF004_001B00001B0304,
   0x001B34001B3404_001B36001B3904_001B6B001B7304_001B80001B8104_001BA2001BA504_001BA8001BA904,
   0x001BAB001BAD04_001BE6001BE604_001BE8001BE904_001BED001BED04_001BEF001BF104_001C2C001C3304,
   0x001C36001C3704_001CD0001CD204_001CD4001CE004_001CE2001CE804_001CED001CED04_001CF4001CF404,
   0x001CF8001CF904_001DC0001DFF04_00200B00200B04_00200D00200D05_00200E00200F04_00202A00202E04,
   0x00206000206404_00206A00206F04_0020D00020F004_002CEF002CF104_002D7F002D7F04_002DE0002DFF04,
   0x00302A00302D04_00309900309A04_00A66F00A67204_00A67400A67D04_00A69E00A69F04_00A6F000A6F104,
   0x00A80200A80204_00A80600A80604_00A80B00A80B04_00A82500A82604_00A82C00A82C04_00A84000A87103,
   0x00A87200A87201_00A8C400A8C504_00A8E000A8F104_00A8FF00A8FF04_00A92600A92D04_00A94700A95104,
   0x00A98000A98204_00A9B300A9B304_00A9B600A9B904_00A9BC00A9BD04_00A9E500A9E504_00AA2900AA2E04,
   0x00AA3100AA3204_00AA3500AA3604_00AA4300AA4304_00AA4C00AA4C04_00AA7C00AA7C04_00AAB000AAB004,
   0x00AAB200AAB404_00AAB700AAB804_00AABE00AABF04_00AAC100AAC104_00AAEC00AAED04_00AAF600AAF604,
   0x00ABE500ABE504_00ABE800ABE804_00ABED00ABED04_00FB1E00FB1E04_00FE0000FE0F04_00FE2000FE2F04,
   0x00FEFF00FEFF04_00FFF900FFFB04_0101FD0101FD04_0102E00102E004_01037601037A04_010A01010A0304,
   0x010A05010A0604_010A0C010A0F04_010A38010A3A04_010A3F010A3F04_010AC0010AC403_010AC5010AC502,
   0x010AC7010AC702_010AC9010ACA02_010ACD010ACD01_010ACE010AD202_010AD3010AD603_010AD7010AD701,
   0x010AD8010ADC03_010ADD010ADD02_010ADE010AE003_010AE1010AE102_010AE4010AE402_010AE5010AE604,
   0x010AEB010AEE03_010AEF010AEF02_010B80010B8003_010B81010B8102_010B82010B8203_010B83010B8502,
   0x010B86010B8803_010B89010B8902_010B8A010B8B03_010B8C010B8C02_010B8D010B8D03_010B8E010B8F02,
   0x010B90010B9003_010B91010B9102_010BA9010BAC02_010BAD010BAE03_010D00010D0001_010D01010D2103,
   0x010D22010D2202_010D23010D2303_010D24010D2704_010D69010D6D04_010EAB010EAC04_010EC2010EC202,
   0x010EC3010EC403_010EC6010EC703_010EFA010EFF04_010F30010F3203_010F33010F3302_010F34010F4403,
   0x010F46010F5004_010F51010F5303_010F54010F5402_010F70010F7303_010F74010F7502_010F76010F8103,
   0x010F82010F8504_010FB0010FB003_010FB2010FB303_010FB4010FB602_010FB8010FB803_010FB9010FBA02,
   0x010FBB010FBC03_010FBD010FBD02_010FBE010FBF03_010FC1010FC103_010FC2010FC302_010FC4010FC403,
   0x010FC9010FC902_010FCA010FCA03_010FCB010FCB01_01100101100104_01103801104604_01107001107004,
   0x01107301107404_01107F01108104_0110B30110B604_0110B90110BA04_0110C20110C204_01110001110204,
   0x01112701112B04_01112D01113404_01117301117304_01118001118104_0111B60111BE04_0111C90111CC04,
   0x0111CF0111CF04_01122F01123104_01123401123404_01123601123704_01123E01123E04_01124101124104,
   0x0112DF0112DF04_0112E30112EA04_01130001130104_01133B01133C04_01134001134004_01136601136C04,
   0x01137001137404_0113BB0113C004_0113CE0113CE04_0113D00113D004_0113D20113D204_0113E10113E204,
   0x01143801143F04_01144201144404_01144601144604_01145E01145E04_0114B30114B804_0114BA0114BA04,
   0x0114BF0114C004_0114C20114C304_0115B20115B504_0115BC0115BD04_0115BF0115C004_0115DC0115DD04,
   0x01163301163A04_01163D01163D04_01163F01164004_0116AB0116AB04_0116AD0116AD04_0116B00116B504,
   0x0116B70116B704_01171D01171D04_01171F01171F04_01172201172504_01172701172B04_01182F01183704,
   0x01183901183A04_01193B01193C04_01193E01193E04_01194301194304_0119D40119D704_0119DA0119DB04,
   0x0119E00119E004_011A01011A0A04_011A33011A3804_011A3B011A3E04_011A47011A4704_011A51011A5604,
   0x011A59011A5B04_011A8A011A9604_011A98011A9904_011B60011B6004_011B62011B6404_011B66011B6604,
   0x011C30011C3604_011C38011C3D04_011C3F011C3F04_011C92011CA704_011CAA011CB004_011CB2011CB304,
   0x011CB5011CB604_011D31011D3604_011D3A011D3A04_011D3C011D3D04_011D3F011D4504_011D47011D4704,
   0x011D90011D9104_011D95011D9504_011D97011D9704_011EF3011EF404_011F00011F0104_011F36011F3A04,
   0x011F40011F4004_011F42011F4204_011F5A011F5A04_01343001344004_01344701345504_01611E01612904,
   0x01612D01612F04_016AF0016AF404_016B30016B3604_016F4F016F4F04_016F8F016F9204_016FE4016FE404,
   0x01BC9D01BC9E04_01BCA001BCA304_01CF0001CF2D04_01CF3001CF4604_01D16701D16904_01D17301D18204,
   0x01D18501D18B04_01D1AA01D1AD04_01D24201D24404_01DA0001DA3604_01DA3B01DA6C04_01DA7501DA7504,
   0x01DA8401DA8404_01DA9B01DA9F04_01DAA101DAAF04_01E00001E00604_01E00801E01804_01E01B01E02104,
   0x01E02301E02404_01E02601E02A04_01E08F01E08F04_01E13001E13604_01E2AE01E2AE04_01E2EC01E2EF04,
   0x01E4EC01E4EF04_01E5EE01E5EF04_01E6E301E6E304_01E6E601E6E604_01E6EE01E6EF04_01E6F501E6F504,
   0x01E8D001E8D604_01E90001E94303_01E94401E94B04_0E00010E000104_0E00200E007F04_0E01000E01EF04]

/-- Directions other than left to right, as fourteen-digit fields: 1 right to left, 2 Arabic letter,
3 Arabic number, 4 European number, 5 European separator, 6 common separator, 7 European terminator,
8 neutral, 9 boundary neutral, 10 mark without spacing, 11 any other. Unassigned code points take the
direction of their neighbours: no name holds one. -/
def directionRows : List Nat :=
  [0x00000000000809_00000900000D0B_00000E00001B09_00001C0000200B_00002100002208_00002300002507,
   0x00002600002A08_00002B00002B05_00002C00002C06_00002D00002D05_00002E00002F06_00003000003904,
   0x00003A00003A06_00003B00004008_00005B00006008_00007B00007E08_00007F00008409_0000850000850B,
   0x00008600009F09_0000A00000A006_0000A10000A108_0000A20000A507_0000A60000A908_0000AB0000AC08,
   0x0000AD0000AD09_0000AE0000AF08_0000B00000B107_0000B20000B304_0000B40000B408_0000B60000B808,
   0x0000B90000B904_0000BB0000BF08_0000D70000D708_0000F70000F708_0002B90002BA08_0002C20002CF08,
   0x0002D20002DF08_0002E50002ED08_0002EF0002FF08_00030000036F0A_00037400037508_00037E00037E08,
   0x00038400038508_00038700038708_0003F60003F608_0004830004890A_00058A00058A08_00058D00058E08,
   0x00058F00058F07_0005910005BD0A_0005BE0005BE01_0005BF0005BF0A_0005C00005C001_0005C10005C20A,
   0x0005C30005C301_0005C40005C50A_0005C60005C601_0005C70005C90A_0005D00005F401_00060000060503,
   0x00060600060708_00060800060802_00060900060A07_00060B00060B02_00060C00060C06_00060D00060D02,
   0x00060E00060F08_00061000061A0A_00061B00064A02_00064B00065F0A_00066000066903_00066A00066A07,
   0x00066B00066C03_00066D00066F02_0006700006700A_0006710006D502_0006D60006DC0A_0006DD0006DD03,
   0x0006DE0006DE08_0006DF0006E40A_0006E50006E602_0006E70006E80A_0006E90006E908_0006EA0006ED0A,
   0x0006EE0006EF02_0006F00006F904_0006FA00071002_0007110007110A_00071200072F02_00073000074A0A,
   0x00074D0007A502_0007A60007B00A_0007B10007B102_0007C00007EA01_0007EB0007F30A_0007F40007F501,
   0x0007F60007F908_0007FA0007FA01_0007FD0007FD0A_0007FE00081501_0008160008190A_00081A00081A01,
   0x00081B0008230A_00082400082401_0008250008270A_00082800082801_00082900082D0A_00083000085801,
   0x00085900085B0A_00085E00085E01_00086000088F02_00089000089103_00089700089F0A_0008A00008C902,
   0x0008CA0008E10A_0008E20008E203_0008E30009020A_00093A00093A0A_00093C00093C0A_0009410009480A,
   0x00094D00094D0A_0009510009570A_0009620009630A_0009810009810A_0009BC0009BC0A_0009C10009C40A,
   0x0009CD0009CD0A_0009E20009E30A_0009F20009F307_0009FB0009FB07_0009FE000A020A_000A3C000A3C0A,
   0x000A41000A510A_000A70000A710A_000A75000A750A_000A81000A820A_000ABC000ABC0A_000AC1000AC80A,
   0x000ACD000ACD0A_000AE2000AE30A_000AF1000AF107_000AFA000B010A_000B3C000B3C0A_000B3F000B3F0A,
   0x000B41000B440A_000B4D000B560A_000B62000B630A_000B82000B820A_000BC0000BC00A_000BCD000BCD0A,
   0x000BF3000BF808_000BF9000BF907_000BFA000BFA08_000C00000C000A_000C04000C040A_000C3C000C3C0A,
   0x000C3E000C400A_000C46000C560A_000C62000C630A_000C78000C7E08_000C81000C810A_000CBC000CBC0A,
   0x000CCC000CCD0A_000CE2000CE30A_000D00000D010A_000D3B000D3C0A_000D41000D440A_000D4D000D4D0A,
   0x000D62000D630A_000D81000D810A_000DCA000DCA0A_000DD2000DD60A_000E31000E310A_000E34000E3A0A,
   0x000E3F000E3F07_000E47000E4E0A_000EB1000EB10A_000EB4000EBC0A_000EC8000ECE0A_000F18000F190A,
   0x000F35000F350A_000F37000F370A_000F39000F390A_000F3A000F3D08_000F71000F7E0A_000F80000F840A,
   0x000F86000F870A_000F8D000FBC0A_000FC6000FC60A_00102D0010300A_0010320010370A_00103900103A0A,
   0x00103D00103E0A_0010580010590A_00105E0010600A_0010710010740A_0010820010820A_0010850010860A,
   0x00108D00108D0A_00109D00109D0A_00135D00135F0A_00139000139908_00140000140008_0016800016800B,
   0x00169B00169C08_0017120017140A_0017320017330A_0017520017530A_0017720017730A_0017B40017B50A,
   0x0017B70017BD0A_0017C60017C60A_0017C90017D30A_0017DB0017DB07_0017DD0017DD0A_0017F000180A08,
   0x00180B00180D0A_00180E00180E09_00180F00180F0A_0018850018860A_0018A90018A90A_0019200019220A,
   0x0019270019280A_0019320019320A_00193900193B0A_00194000194508_0019DE0019FF08_001A17001A180A,
   0x001A1B001A1B0A_001A56001A560A_001A58001A600A_001A62001A620A_001A65001A6C0A_001A73001A7F0A,
   0x001AB0001B030A_001B34001B340A_001B36001B390A_001B6B001B730A_001B80001B810A_001BA2001BA50A,
   0x001BA8001BA90A_001BAB001BAD0A_001BE6001BE60A_001BE8001BE90A_001BED001BED0A_001BEF001BF10A,
   0x001C2C001C330A_001C36001C370A_001CD0001CD20A_001CD4001CE00A_001CE2001CE80A_001CED001CED0A,
   0x001CF4001CF40A_001CF8001CF90A_001DC0001DFF0A_001FBD001FBD08_001FBF001FC108_001FCD001FCF08,
   0x001FDD001FDF08_001FED001FEF08_001FFD001FFE08_00200000200A0B_00200B00200D09_00200F00200F01,
   0x00201000202708_00202800202E0B_00202F00202F06_00203000203407_00203500204308_00204400204406,
   0x00204500205E08_00205F00205F0B_00206000206409_0020660020690B_00206A00206F09_00207000207004,
   0x00207400207904_00207A00207B05_00207C00207E08_00208000208904_00208A00208B05_00208C00208F08,
   0x0020A00020C407_0020D00020F00A_00210000210108_00210300210608_00210800210908_00211400211408,
   0x00211600211808_00211E00212308_00212500212508_00212700212708_00212900212908_00212E00212E07,
   0x00213A00213B08_00214000214408_00214A00214D08_00215000215F08_00218900221108_00221200221205,
   0x00221300221307_00221400233508_00237B00239408_00239600248708_00248800249B04_0024EA0026AB08,
   0x0026AD0027FF08_002900002BFF08_002CE5002CEA08_002CEF002CF10A_002CF9002CFF08_002D7F002D7F0A,
   0x002DE0002DFF0A_002E00002FFF08_0030000030000B_00300100300408_00300800302008_00302A00302D0A,
   0x00303000303008_00303600303708_00303D00303F08_00309900309A0A_00309B00309C08_0030A00030A008,
   0x0030FB0030FB08_0031C00031EF08_00321D00321E08_00325000325F08_00327C00327E08_0032B10032BF08,
   0x0032CC0032CF08_00337700337A08_0033DE0033DF08_0033FF0033FF08_004DC0004DFF08_00A49000A4C608,
   0x00A60D00A60F08_00A66F00A6720A_00A67300A67308_00A67400A67D0A_00A67E00A67F08_00A69E00A69F0A,
   0x00A6F000A6F10A_00A70000A72108_00A78800A78808_00A80200A8020A_00A80600A8060A_00A80B00A80B0A,
   0x00A82500A8260A_00A82800A82B08_00A82C00A82C0A_00A83800A83907_00A87400A87708_00A8C400A8C50A,
   0x00A8E000A8F10A_00A8FF00A8FF0A_00A92600A92D0A_00A94700A9510A_00A98000A9820A_00A9B300A9B30A,
   0x00A9B600A9B90A_00A9BC00A9BD0A_00A9E500A9E50A_00AA2900AA2E0A_00AA3100AA320A_00AA3500AA360A,
   0x00AA4300AA430A_00AA4C00AA4C0A_00AA7C00AA7C0A_00AAB000AAB00A_00AAB200AAB40A_00AAB700AAB80A,
   0x00AABE00AABF0A_00AAC100AAC10A_00AAEC00AAED0A_00AAF600AAF60A_00AB6A00AB6B08_00ABE500ABE50A,
   0x00ABE800ABE80A_00ABED00ABED0A_00FB1D00FB1D01_00FB1E00FB1E0A_00FB1F00FB2801_00FB2900FB2905,
   0x00FB2A00FB4F01_00FB5000FBC202_00FBC300FBD208_00FBD300FD3D02_00FD3E00FD4F08_00FD5000FD8F02,
   0x00FD9000FD9108_00FD9200FDC702_00FDC800FDCF08_00FDF000FDFC02_00FDFD00FDFF08_00FE0000FE0F0A,
   0x00FE1000FE1908_00FE2000FE2F0A_00FE3000FE4F08_00FE5000FE5006_00FE5100FE5108_00FE5200FE5206,
   0x00FE5400FE5408_00FE5500FE5506_00FE5600FE5E08_00FE5F00FE5F07_00FE6000FE6108_00FE6200FE6305,
   0x00FE6400FE6808_00FE6900FE6A07_00FE6B00FE6B08_00FE7000FEFC02_00FEFF00FEFF09_00FF0100FF0208,
   0x00FF0300FF0507_00FF0600FF0A08_00FF0B00FF0B05_00FF0C00FF0C06_00FF0D00FF0D05_00FF0E00FF0F06,
   0x00FF1000FF1904_00FF1A00FF1A06_00FF1B00FF2008_00FF3B00FF4008_00FF5B00FF6508_00FFE000FFE107,
   0x00FFE200FFE408_00FFE500FFE607_00FFE800FFFD08_01010101010108_01014001018C08_0101900101A008,
   0x0101FD0101FD0A_0102E00102E00A_0102E10102FB04_01037601037A0A_01080001091B01_01091F01091F08,
   0x010920010A0001_010A01010A0F0A_010A10010A3501_010A38010A3F0A_010A40010AE401_010AE5010AE60A,
   0x010AEB010B3501_010B39010B3F08_010B40010CFF01_010D00010D2302_010D24010D270A_010D30010D4903,
   0x010D4A010D6501_010D69010D6D0A_010D6E010D6E08_010D6F010D8F01_010E60010E7E03_010E80010EA901,
   0x010EAB010EAC0A_010EAD010EB101_010EC2010EC702_010ED0010ED808_010EFA010EFF0A_010F00010F2701,
   0x010F30010F4502_010F46010F500A_010F51010F5902_010F70010F8101_010F82010F850A_010F86010FF601,
   0x0110010110010A_0110380110460A_01105201106508_0110700110700A_0110730110740A_01107F0110810A,
   0x0110B30110B60A_0110B90110BA0A_0110C20110C20A_0111000111020A_01112701112B0A_01112D0111340A,
   0x0111730111730A_0111800111810A_0111B60111BE0A_0111C90111CC0A_0111CF0111CF0A_01122F0112310A,
   0x0112340112340A_0112360112370A_01123E01123E0A_0112410112410A_0112DF0112DF0A_0112E30112EA0A,
   0x0113000113010A_01133B01133C0A_0113400113400A_0113660113740A_0113BB0113C00A_0113CE0113CE0A,
   0x0113D00113D00A_0113D20113D20A_0113E10113E20A_01143801143F0A_0114420114440A_0114460114460A,
   0x01145E01145E0A_0114B30114B80A_0114BA0114BA0A_0114BF0114C00A_0114C20114C30A_0115B20115B50A,
   0x0115BC0115BD0A_0115BF0115C00A_0115DC0115DD0A_01163301163A0A_01163D01163D0A_01163F0116400A,
   0x01166001166C08_0116AB0116AB0A_0116AD0116AD0A_0116B00116B50A_0116B70116B70A_01171D01171D0A,
   0x01171F01171F0A_0117220117250A_01172701172B0A_01182F0118370A_01183901183A0A_01193B01193C0A,
   0x01193E01193E0A_0119430119430A_0119D40119DB0A_0119E00119E00A_011A01011A060A_011A09011A0A0A,
   0x011A33011A380A_011A3B011A3E0A_011A47011A470A_011A51011A560A_011A59011A5B0A_011A8A011A960A,
   0x011A98011A990A_011B60011B600A_011B62011B640A_011B66011B660A_011C30011C3D0A_011C92011CA70A,
   0x011CAA011CB00A_011CB2011CB30A_011CB5011CB60A_011D31011D450A_011D47011D470A_011D90011D910A,
   0x011D95011D950A_011D97011D970A_011EF3011EF40A_011F00011F010A_011F36011F3A0A_011F40011F400A,
   0x011F42011F420A_011F5A011F5A0A_011FD5011FDC08_011FDD011FE007_011FE1011FF108_0134400134400A,
   0x0134470134550A_01611E0161290A_01612D01612F0A_016AF0016AF40A_016B30016B360A_016F4F016F4F0A,
   0x016F8F016F920A_016FE2016FE208_016FE4016FE40A_01BC9D01BC9E0A_01BCA001BCA309_01CC0001CCEF08,
   0x01CCFA01CEF008_01CF0001CF460A_01D16701D1690A_01D17301D17A09_01D17B01D1820A_01D18501D18B0A,
   0x01D1AA01D1AD0A_01D1E901D24108_01D24201D2440A_01D24501D24508_01D30001D35608_01D6DB01D6DB08,
   0x01D71501D71508_01D74F01D74F08_01D78901D78908_01D7C301D7C308_01D7CE01D7FF04_01DA0001DA360A,
   0x01DA3B01DA6C0A_01DA7501DA750A_01DA8401DA840A_01DA9B01DAAF0A_01E00001E02A0A_01E08F01E08F0A,
   0x01E13001E1360A_01E2AE01E2AE0A_01E2EC01E2EF0A_01E2FF01E2FF07_01E4EC01E4EF0A_01E5EE01E5EF0A,
   0x01E6E301E6E30A_01E6E601E6E60A_01E6EE01E6EF0A_01E6F501E6F50A_01E80001E8CF01_01E8D001E8D60A,
   0x01E90001E94301_01E94401E94A0A_01E94B01E95F01_01EC7101EEBB02_01EEF001F0F508_01F10001F10A04,
   0x01F10B01F10F08_01F12F01F12F08_01F16A01F16F08_01F1AD01F1AD08_01F26001FBEF08_01FBF001FBF904,
   0x01FBFA01FBFA08_0E00010E007F09_0E01000E01EF0A]

end HostLookup.Idna
