import DocStore.Unicode.Listing

/-! # Composed texts

The canonical composed form of a text: letters and the marks after them are put together into
single characters where these exist, and marks that do not interact stand in a fixed order.
-/

namespace DocStore.Unicode

/-- The combining classes other than 0, with the listings of the marks that have them. -/
def combiningClassListings : List (Nat × String) := [
  (1,
    "334-338 1CD4 1CE2-1CE8 20D2-20D3 20D8-20DA 20E5-20E6 20EA-20EB 10A39 16AF0-16AF4 1BC9E
      1D167-1D169"),
  (6, "16FF0-16FF1"),
  (7,
    "93C 9BC A3C ABC B3C C3C CBC 1037 1B34 1BE6 1C37 A9B3 110BA 11173 111CA 11236 112E9
      1133B-1133C 11446 114C3 115C0 116B7 1183A 11943 11D42 1E94A"),
  (8, "3099-309A"),
  (9,
    "94D 9CD A4D ACD B4D BCD C4D CCD D3B-D3C D4D DCA E3A EBA F84 1039-103A 1714-1715 1734
      17D2 1A60 1B44 1BAA-1BAB 1BF2-1BF3 2D7F A806 A82C A8C4 A953 A9C0 AAF6 ABED 10A3F 11046
      11070 1107F 110B9 11133-11134 111C0 11235 112EA 1134D 113CE-113D0 11442 114C2 115BF
      1163F 116B6 1172B 11839 1193D-1193E 119E0 11A34 11A47 11A99 11C3F 11D44-11D45 11D97
      11F41-11F42 1612F"),
  (10, "5B0"),
  (11, "5B1"),
  (12, "5B2"),
  (13, "5B3"),
  (14, "5B4"),
  (15, "5B5"),
  (16, "5B6"),
  (17, "5B7"),
  (18, "5B8 5C7"),
  (19, "5B9-5BA"),
  (20, "5BB"),
  (21, "5BC"),
  (22, "5BD"),
  (23, "5BF"),
  (24, "5C1"),
  (25, "5C2"),
  (26, "FB1E"),
  (27, "64B 8F0"),
  (28, "64C 8F1"),
  (29, "64D 8F2"),
  (30, "618 64E"),
  (31, "619 64F"),
  (32, "61A 650"),
  (33, "651"),
  (34, "652"),
  (35, "670"),
  (36, "711"),
  (84, "C55"),
  (91, "C56"),
  (103, "E38-E39"),
  (107, "E48-E4B"),
  (118, "EB8-EB9"),
  (122, "EC8-ECB"),
  (129, "F71"),
  (130, "F72 F7A-F7D F80"),
  (132, "F74"),
  (202, "321-322 327-328 1DD0"),
  (214, "1DCE"),
  (216, "31B F39 1D165-1D166 1D16E-1D172"),
  (218, "1DFA 302A"),
  (220,
    "316-319 31C-320 323-326 329-333 339-33C 347-349 34D-34E 353-356 359-35A 591 596 59B
      5A2-5A7 5AA 5C5 655-656 65C 65F 6E3 6EA 6ED 731 734 737-739 73B-73C 73E 742-748/2 7F2
      7FD 859-85B 899-89B 8CF-8D3 8E3 8E6 8E9 8ED-8EF 8F6 8F9-8FA 952 F18-F19 F35 F37 FC6 108D
      193B 1A18 1A7F 1AB5-1ABA 1ABD 1ABF-1AC0 1AC3-1AC4 1ACA 1B6C 1CD5-1CD9 1CDC-1CDF 1CED
      1DC2 1DCA 1DCF 1DF9 1DFD 1DFF 20E8 20EC-20EF A92B-A92D AAB4 FE27-FE2D 101FD 102E0 10A0D
      10A3A 10AE6 10EFD-10EFF 10F46-10F47 10F4B 10F4D-10F50 10F83 10F85 1D17B-1D182
      1D18A-1D18B 1E4EE 1E5EF 1E8D0-1E8D6"),
  (222, "59A 5AD 1939 302D"),
  (224, "302E-302F"),
  (226, "1D16D"),
  (228, "5AE 18A9 1DF7-1DF8 302B"),
  (230,
    "300-314 33D-344 346 34A-34C 350-352 357 35B 363-36F 483-487 592-595 597-599 59C-5A1
      5A8-5A9 5AB-5AC 5AF 5C4 610-617 653-654 657-65B 65D-65E 6D6-6DC 6DF-6E2 6E4 6E7-6E8
      6EB-6EC 730 732-733 735-736 73A 73D 73F-741 743 745 747 749-74A 7EB-7F1 7F3 816-819
      81B-823 825-827 829-82D 897-898 89C-89F 8CA-8CE 8D4-8E1 8E4-8E5 8E7-8E8 8EA-8EC 8F3-8F5
      8F7-8F8 8FB-8FF 951 953-954 9FE F82-F83 F86-F87 135D-135F 17DD 193A 1A17 1A75-1A7C
      1AB0-1AB4 1ABB-1ABC 1AC1-1AC2 1AC5-1AC9 1ACB-1ACE 1B6B 1B6D-1B73 1CD0-1CD2 1CDA-1CDB
      1CE0 1CF4 1CF8-1CF9 1DC0-1DC1 1DC3-1DC9 1DCB-1DCC 1DD1-1DF5 1DFB 1DFE 20D0-20D1
      20D4-20D7 20DB-20DC 20E1 20E7 20E9 20F0 2CEF-2CF1 2DE0-2DFF A66F A674-A67D A69E-A69F
      A6F0-A6F1 A8E0-A8F1 AAB0 AAB2-AAB3 AAB7-AAB8 AABE-AABF AAC1 FE20-FE26 FE2E-FE2F
      10376-1037A 10A0F 10A38 10AE5 10D24-10D27 10D69-10D6D 10EAB-10EAC 10F48-10F4A 10F4C
      10F82 10F84 11100-11102 11366-1136C 11370-11374 1145E 16B30-16B36 1D185-1D189
      1D1AA-1D1AD 1D242-1D244 1E000-1E006 1E008-1E018 1E01B-1E021 1E023-1E024 1E026-1E02A
      1E08F 1E130-1E136 1E2AE 1E2EC-1E2EF 1E4EF 1E5EE 1E944-1E949"),
  (232, "315 31A 358 1DF6 302C 1E4EC-1E4ED"),
  (233, "35C 35F 362 1DFC"),
  (234, "35D-35E 360-361 1DCD"),
  (240, "345")]

/-- The combining classes other than 0, with the marks that have them. -/
def combiningClasses : List (Nat × CharSet) :=
  combiningClassListings.map fun (number, listing) => (number, listed listing)

def combiningClass (code : Nat) : Nat :=
  if code < 0x300 then 0
  else
    match combiningClasses.find? fun entry => someHolds entry.2.ranges code with
    | some (number, _) => number
    | none => 0

/-- The composed characters, each with the two that it is made of. -/
def compositionListing : String :=
  "C0>41_300 C1>41_301 C2>41_302 C3>41_303 C4>41_308 C5>41_30A C7>43_327 C8>45_300 C9>45_301
    CA>45_302 CB>45_308 CC>49_300 CD>49_301 CE>49_302 CF>49_308 D1>4E_303 D2>4F_300 D3>4F_301
    D4>4F_302 D5>4F_303 D6>4F_308 D9>55_300 DA>55_301 DB>55_302 DC>55_308 DD>59_301 E0>61_300
    E1>61_301 E2>61_302 E3>61_303 E4>61_308 E5>61_30A E7>63_327 E8>65_300 E9>65_301 EA>65_302
    EB>65_308 EC>69_300 ED>69_301 EE>69_302 EF>69_308 F1>6E_303 F2>6F_300 F3>6F_301 F4>6F_302
    F5>6F_303 F6>6F_308 F9>75_300 FA>75_301 FB>75_302 FC>75_308 FD>79_301 FF>79_308 100>41_304
    101>61_304 102>41_306 103>61_306 104>41_328 105>61_328 106>43_301 107>63_301 108>43_302
    109>63_302 10A>43_307 10B>63_307 10C>43_30C 10D>63_30C 10E>44_30C 10F>64_30C 112>45_304
    113>65_304 114>45_306 115>65_306 116>45_307 117>65_307 118>45_328 119>65_328 11A>45_30C
    11B>65_30C 11C>47_302 11D>67_302 11E>47_306 11F>67_306 120>47_307 121>67_307 122>47_327
    123>67_327 124>48_302 125>68_302 128>49_303 129>69_303 12A>49_304 12B>69_304 12C>49_306
    12D>69_306 12E>49_328 12F>69_328 130>49_307 134>4A_302 135>6A_302 136>4B_327 137>6B_327
    139>4C_301 13A>6C_301 13B>4C_327 13C>6C_327 13D>4C_30C 13E>6C_30C 143>4E_301 144>6E_301
    145>4E_327 146>6E_327 147>4E_30C 148>6E_30C 14C>4F_304 14D>6F_304 14E>4F_306 14F>6F_306
    150>4F_30B 151>6F_30B 154>52_301 155>72_301 156>52_327 157>72_327 158>52_30C 159>72_30C
    15A>53_301 15B>73_301 15C>53_302 15D>73_302 15E>53_327 15F>73_327 160>53_30C 161>73_30C
    162>54_327 163>74_327 164>54_30C 165>74_30C 168>55_303 169>75_303 16A>55_304 16B>75_304
    16C>55_306 16D>75_306 16E>55_30A 16F>75_30A 170>55_30B 171>75_30B 172>55_328 173>75_328
    174>57_302 175>77_302 176>59_302 177>79_302 178>59_308 179>5A_301 17A>7A_301 17B>5A_307
    17C>7A_307 17D>5A_30C 17E>7A_30C 1A0>4F_31B 1A1>6F_31B 1AF>55_31B 1B0>75_31B 1CD>41_30C
    1CE>61_30C 1CF>49_30C 1D0>69_30C 1D1>4F_30C 1D2>6F_30C 1D3>55_30C 1D4>75_30C 1D5>DC_304
    1D6>FC_304 1D7>DC_301 1D8>FC_301 1D9>DC_30C 1DA>FC_30C 1DB>DC_300 1DC>FC_300 1DE>C4_304
    1DF>E4_304 1E0>226_304 1E1>227_304 1E2>C6_304 1E3>E6_304 1E6>47_30C 1E7>67_30C 1E8>4B_30C
    1E9>6B_30C 1EA>4F_328 1EB>6F_328 1EC>1EA_304 1ED>1EB_304 1EE>1B7_30C 1EF>292_30C
    1F0>6A_30C 1F4>47_301 1F5>67_301 1F8>4E_300 1F9>6E_300 1FA>C5_301 1FB>E5_301 1FC>C6_301
    1FD>E6_301 1FE>D8_301 1FF>F8_301 200>41_30F 201>61_30F 202>41_311 203>61_311 204>45_30F
    205>65_30F 206>45_311 207>65_311 208>49_30F 209>69_30F 20A>49_311 20B>69_311 20C>4F_30F
    20D>6F_30F 20E>4F_311 20F>6F_311 210>52_30F 211>72_30F 212>52_311 213>72_311 214>55_30F
    215>75_30F 216>55_311 217>75_311 218>53_326 219>73_326 21A>54_326 21B>74_326 21E>48_30C
    21F>68_30C 226>41_307 227>61_307 228>45_327 229>65_327 22A>D6_304 22B>F6_304 22C>D5_304
    22D>F5_304 22E>4F_307 22F>6F_307 230>22E_304 231>22F_304 232>59_304 233>79_304 385>A8_301
    386>391_301 388>395_301 389>397_301 38A>399_301 38C>39F_301 38E>3A5_301 38F>3A9_301
    390>3CA_301 3AA>399_308 3AB>3A5_308 3AC>3B1_301 3AD>3B5_301 3AE>3B7_301 3AF>3B9_301
    3B0>3CB_301 3CA>3B9_308 3CB>3C5_308 3CC>3BF_301 3CD>3C5_301 3CE>3C9_301 3D3>3D2_301
    3D4>3D2_308 400>415_300 401>415_308 403>413_301 407>406_308 40C>41A_301 40D>418_300
    40E>423_306 419>418_306 439>438_306 450>435_300 451>435_308 453>433_301 457>456_308
    45C>43A_301 45D>438_300 45E>443_306 476>474_30F 477>475_30F 4C1>416_306 4C2>436_306
    4D0>410_306 4D1>430_306 4D2>410_308 4D3>430_308 4D6>415_306 4D7>435_306 4DA>4D8_308
    4DB>4D9_308 4DC>416_308 4DD>436_308 4DE>417_308 4DF>437_308 4E2>418_304 4E3>438_304
    4E4>418_308 4E5>438_308 4E6>41E_308 4E7>43E_308 4EA>4E8_308 4EB>4E9_308 4EC>42D_308
    4ED>44D_308 4EE>423_304 4EF>443_304 4F0>423_308 4F1>443_308 4F2>423_30B 4F3>443_30B
    4F4>427_308 4F5>447_308 4F8>42B_308 4F9>44B_308 622>627_653 623>627_654 624>648_654
    625>627_655 626>64A_654 6C0>6D5_654 6C2>6C1_654 6D3>6D2_654 929>928_93C 931>930_93C
    934>933_93C 9CB>9C7_9BE 9CC>9C7_9D7 B48>B47_B56 B4B>B47_B3E B4C>B47_B57 B94>B92_BD7
    BCA>BC6_BBE BCB>BC7_BBE BCC>BC6_BD7 C48>C46_C56 CC0>CBF_CD5 CC7>CC6_CD5 CC8>CC6_CD6
    CCA>CC6_CC2 CCB>CCA_CD5 D4A>D46_D3E D4B>D47_D3E D4C>D46_D57 DDA>DD9_DCA DDC>DD9_DCF
    DDD>DDC_DCA DDE>DD9_DDF 1026>1025_102E 1B06>1B05_1B35 1B08>1B07_1B35 1B0A>1B09_1B35
    1B0C>1B0B_1B35 1B0E>1B0D_1B35 1B12>1B11_1B35 1B3B>1B3A_1B35 1B3D>1B3C_1B35 1B40>1B3E_1B35
    1B41>1B3F_1B35 1B43>1B42_1B35 1E00>41_325 1E01>61_325 1E02>42_307 1E03>62_307 1E04>42_323
    1E05>62_323 1E06>42_331 1E07>62_331 1E08>C7_301 1E09>E7_301 1E0A>44_307 1E0B>64_307
    1E0C>44_323 1E0D>64_323 1E0E>44_331 1E0F>64_331 1E10>44_327 1E11>64_327 1E12>44_32D
    1E13>64_32D 1E14>112_300 1E15>113_300 1E16>112_301 1E17>113_301 1E18>45_32D 1E19>65_32D
    1E1A>45_330 1E1B>65_330 1E1C>228_306 1E1D>229_306 1E1E>46_307 1E1F>66_307 1E20>47_304
    1E21>67_304 1E22>48_307 1E23>68_307 1E24>48_323 1E25>68_323 1E26>48_308 1E27>68_308
    1E28>48_327 1E29>68_327 1E2A>48_32E 1E2B>68_32E 1E2C>49_330 1E2D>69_330 1E2E>CF_301
    1E2F>EF_301 1E30>4B_301 1E31>6B_301 1E32>4B_323 1E33>6B_323 1E34>4B_331 1E35>6B_331
    1E36>4C_323 1E37>6C_323 1E38>1E36_304 1E39>1E37_304 1E3A>4C_331 1E3B>6C_331 1E3C>4C_32D
    1E3D>6C_32D 1E3E>4D_301 1E3F>6D_301 1E40>4D_307 1E41>6D_307 1E42>4D_323 1E43>6D_323
    1E44>4E_307 1E45>6E_307 1E46>4E_323 1E47>6E_323 1E48>4E_331 1E49>6E_331 1E4A>4E_32D
    1E4B>6E_32D 1E4C>D5_301 1E4D>F5_301 1E4E>D5_308 1E4F>F5_308 1E50>14C_300 1E51>14D_300
    1E52>14C_301 1E53>14D_301 1E54>50_301 1E55>70_301 1E56>50_307 1E57>70_307 1E58>52_307
    1E59>72_307 1E5A>52_323 1E5B>72_323 1E5C>1E5A_304 1E5D>1E5B_304 1E5E>52_331 1E5F>72_331
    1E60>53_307 1E61>73_307 1E62>53_323 1E63>73_323 1E64>15A_307 1E65>15B_307 1E66>160_307
    1E67>161_307 1E68>1E62_307 1E69>1E63_307 1E6A>54_307 1E6B>74_307 1E6C>54_323 1E6D>74_323
    1E6E>54_331 1E6F>74_331 1E70>54_32D 1E71>74_32D 1E72>55_324 1E73>75_324 1E74>55_330
    1E75>75_330 1E76>55_32D 1E77>75_32D 1E78>168_301 1E79>169_301 1E7A>16A_308 1E7B>16B_308
    1E7C>56_303 1E7D>76_303 1E7E>56_323 1E7F>76_323 1E80>57_300 1E81>77_300 1E82>57_301
    1E83>77_301 1E84>57_308 1E85>77_308 1E86>57_307 1E87>77_307 1E88>57_323 1E89>77_323
    1E8A>58_307 1E8B>78_307 1E8C>58_308 1E8D>78_308 1E8E>59_307 1E8F>79_307 1E90>5A_302
    1E91>7A_302 1E92>5A_323 1E93>7A_323 1E94>5A_331 1E95>7A_331 1E96>68_331 1E97>74_308
    1E98>77_30A 1E99>79_30A 1E9B>17F_307 1EA0>41_323 1EA1>61_323 1EA2>41_309 1EA3>61_309
    1EA4>C2_301 1EA5>E2_301 1EA6>C2_300 1EA7>E2_300 1EA8>C2_309 1EA9>E2_309 1EAA>C2_303
    1EAB>E2_303 1EAC>1EA0_302 1EAD>1EA1_302 1EAE>102_301 1EAF>103_301 1EB0>102_300
    1EB1>103_300 1EB2>102_309 1EB3>103_309 1EB4>102_303 1EB5>103_303 1EB6>1EA0_306
    1EB7>1EA1_306 1EB8>45_323 1EB9>65_323 1EBA>45_309 1EBB>65_309 1EBC>45_303 1EBD>65_303
    1EBE>CA_301 1EBF>EA_301 1EC0>CA_300 1EC1>EA_300 1EC2>CA_309 1EC3>EA_309 1EC4>CA_303
    1EC5>EA_303 1EC6>1EB8_302 1EC7>1EB9_302 1EC8>49_309 1EC9>69_309 1ECA>49_323 1ECB>69_323
    1ECC>4F_323 1ECD>6F_323 1ECE>4F_309 1ECF>6F_309 1ED0>D4_301 1ED1>F4_301 1ED2>D4_300
    1ED3>F4_300 1ED4>D4_309 1ED5>F4_309 1ED6>D4_303 1ED7>F4_303 1ED8>1ECC_302 1ED9>1ECD_302
    1EDA>1A0_301 1EDB>1A1_301 1EDC>1A0_300 1EDD>1A1_300 1EDE>1A0_309 1EDF>1A1_309 1EE0>1A0_303
    1EE1>1A1_303 1EE2>1A0_323 1EE3>1A1_323 1EE4>55_323 1EE5>75_323 1EE6>55_309 1EE7>75_309
    1EE8>1AF_301 1EE9>1B0_301 1EEA>1AF_300 1EEB>1B0_300 1EEC>1AF_309 1EED>1B0_309 1EEE>1AF_303
    1EEF>1B0_303 1EF0>1AF_323 1EF1>1B0_323 1EF2>59_300 1EF3>79_300 1EF4>59_323 1EF5>79_323
    1EF6>59_309 1EF7>79_309 1EF8>59_303 1EF9>79_303 1F00>3B1_313 1F01>3B1_314 1F02>1F00_300
    1F03>1F01_300 1F04>1F00_301 1F05>1F01_301 1F06>1F00_342 1F07>1F01_342 1F08>391_313
    1F09>391_314 1F0A>1F08_300 1F0B>1F09_300 1F0C>1F08_301 1F0D>1F09_301 1F0E>1F08_342
    1F0F>1F09_342 1F10>3B5_313 1F11>3B5_314 1F12>1F10_300 1F13>1F11_300 1F14>1F10_301
    1F15>1F11_301 1F18>395_313 1F19>395_314 1F1A>1F18_300 1F1B>1F19_300 1F1C>1F18_301
    1F1D>1F19_301 1F20>3B7_313 1F21>3B7_314 1F22>1F20_300 1F23>1F21_300 1F24>1F20_301
    1F25>1F21_301 1F26>1F20_342 1F27>1F21_342 1F28>397_313 1F29>397_314 1F2A>1F28_300
    1F2B>1F29_300 1F2C>1F28_301 1F2D>1F29_301 1F2E>1F28_342 1F2F>1F29_342 1F30>3B9_313
    1F31>3B9_314 1F32>1F30_300 1F33>1F31_300 1F34>1F30_301 1F35>1F31_301 1F36>1F30_342
    1F37>1F31_342 1F38>399_313 1F39>399_314 1F3A>1F38_300 1F3B>1F39_300 1F3C>1F38_301
    1F3D>1F39_301 1F3E>1F38_342 1F3F>1F39_342 1F40>3BF_313 1F41>3BF_314 1F42>1F40_300
    1F43>1F41_300 1F44>1F40_301 1F45>1F41_301 1F48>39F_313 1F49>39F_314 1F4A>1F48_300
    1F4B>1F49_300 1F4C>1F48_301 1F4D>1F49_301 1F50>3C5_313 1F51>3C5_314 1F52>1F50_300
    1F53>1F51_300 1F54>1F50_301 1F55>1F51_301 1F56>1F50_342 1F57>1F51_342 1F59>3A5_314
    1F5B>1F59_300 1F5D>1F59_301 1F5F>1F59_342 1F60>3C9_313 1F61>3C9_314 1F62>1F60_300
    1F63>1F61_300 1F64>1F60_301 1F65>1F61_301 1F66>1F60_342 1F67>1F61_342 1F68>3A9_313
    1F69>3A9_314 1F6A>1F68_300 1F6B>1F69_300 1F6C>1F68_301 1F6D>1F69_301 1F6E>1F68_342
    1F6F>1F69_342 1F70>3B1_300 1F72>3B5_300 1F74>3B7_300 1F76>3B9_300 1F78>3BF_300
    1F7A>3C5_300 1F7C>3C9_300 1F80>1F00_345 1F81>1F01_345 1F82>1F02_345 1F83>1F03_345
    1F84>1F04_345 1F85>1F05_345 1F86>1F06_345 1F87>1F07_345 1F88>1F08_345 1F89>1F09_345
    1F8A>1F0A_345 1F8B>1F0B_345 1F8C>1F0C_345 1F8D>1F0D_345 1F8E>1F0E_345 1F8F>1F0F_345
    1F90>1F20_345 1F91>1F21_345 1F92>1F22_345 1F93>1F23_345 1F94>1F24_345 1F95>1F25_345
    1F96>1F26_345 1F97>1F27_345 1F98>1F28_345 1F99>1F29_345 1F9A>1F2A_345 1F9B>1F2B_345
    1F9C>1F2C_345 1F9D>1F2D_345 1F9E>1F2E_345 1F9F>1F2F_345 1FA0>1F60_345 1FA1>1F61_345
    1FA2>1F62_345 1FA3>1F63_345 1FA4>1F64_345 1FA5>1F65_345 1FA6>1F66_345 1FA7>1F67_345
    1FA8>1F68_345 1FA9>1F69_345 1FAA>1F6A_345 1FAB>1F6B_345 1FAC>1F6C_345 1FAD>1F6D_345
    1FAE>1F6E_345 1FAF>1F6F_345 1FB0>3B1_306 1FB1>3B1_304 1FB2>1F70_345 1FB3>3B1_345
    1FB4>3AC_345 1FB6>3B1_342 1FB7>1FB6_345 1FB8>391_306 1FB9>391_304 1FBA>391_300
    1FBC>391_345 1FC1>A8_342 1FC2>1F74_345 1FC3>3B7_345 1FC4>3AE_345 1FC6>3B7_342
    1FC7>1FC6_345 1FC8>395_300 1FCA>397_300 1FCC>397_345 1FCD>1FBF_300 1FCE>1FBF_301
    1FCF>1FBF_342 1FD0>3B9_306 1FD1>3B9_304 1FD2>3CA_300 1FD6>3B9_342 1FD7>3CA_342
    1FD8>399_306 1FD9>399_304 1FDA>399_300 1FDD>1FFE_300 1FDE>1FFE_301 1FDF>1FFE_342
    1FE0>3C5_306 1FE1>3C5_304 1FE2>3CB_300 1FE4>3C1_313 1FE5>3C1_314 1FE6>3C5_342 1FE7>3CB_342
    1FE8>3A5_306 1FE9>3A5_304 1FEA>3A5_300 1FEC>3A1_314 1FED>A8_300 1FF2>1F7C_345 1FF3>3C9_345
    1FF4>3CE_345 1FF6>3C9_342 1FF7>1FF6_345 1FF8>39F_300 1FFA>3A9_300 1FFC>3A9_345
    219A>2190_338 219B>2192_338 21AE>2194_338 21CD>21D0_338 21CE>21D4_338 21CF>21D2_338
    2204>2203_338 2209>2208_338 220C>220B_338 2224>2223_338 2226>2225_338 2241>223C_338
    2244>2243_338 2247>2245_338 2249>2248_338 2260>3D_338 2262>2261_338 226D>224D_338
    226E>3C_338 226F>3E_338 2270>2264_338 2271>2265_338 2274>2272_338 2275>2273_338
    2278>2276_338 2279>2277_338 2280>227A_338 2281>227B_338 2284>2282_338 2285>2283_338
    2288>2286_338 2289>2287_338 22AC>22A2_338 22AD>22A8_338 22AE>22A9_338 22AF>22AB_338
    22E0>227C_338 22E1>227D_338 22E2>2291_338 22E3>2292_338 22EA>22B2_338 22EB>22B3_338
    22EC>22B4_338 22ED>22B5_338 304C>304B_3099 304E>304D_3099 3050>304F_3099 3052>3051_3099
    3054>3053_3099 3056>3055_3099 3058>3057_3099 305A>3059_3099 305C>305B_3099 305E>305D_3099
    3060>305F_3099 3062>3061_3099 3065>3064_3099 3067>3066_3099 3069>3068_3099 3070>306F_3099
    3071>306F_309A 3073>3072_3099 3074>3072_309A 3076>3075_3099 3077>3075_309A 3079>3078_3099
    307A>3078_309A 307C>307B_3099 307D>307B_309A 3094>3046_3099 309E>309D_3099 30AC>30AB_3099
    30AE>30AD_3099 30B0>30AF_3099 30B2>30B1_3099 30B4>30B3_3099 30B6>30B5_3099 30B8>30B7_3099
    30BA>30B9_3099 30BC>30BB_3099 30BE>30BD_3099 30C0>30BF_3099 30C2>30C1_3099 30C5>30C4_3099
    30C7>30C6_3099 30C9>30C8_3099 30D0>30CF_3099 30D1>30CF_309A 30D3>30D2_3099 30D4>30D2_309A
    30D6>30D5_3099 30D7>30D5_309A 30D9>30D8_3099 30DA>30D8_309A 30DC>30DB_3099 30DD>30DB_309A
    30F4>30A6_3099 30F7>30EF_3099 30F8>30F0_3099 30F9>30F1_3099 30FA>30F2_3099 30FE>30FD_3099
    105C9>105D2_307 105E4>105DA_307 1109A>11099_110BA 1109C>1109B_110BA 110AB>110A5_110BA
    1112E>11131_11127 1112F>11132_11127 1134B>11347_1133E 1134C>11347_11357 11383>11382_113C9
    11385>11384_113BB 1138E>1138B_113C2 11391>11390_113C9 113C5>113C2_113C2 113C7>113C2_113B8
    113C8>113C2_113C9 114BB>114B9_114BA 114BC>114B9_114B0 114BE>114B9_114BD 115BA>115B8_115AF
    115BB>115B9_115AF 11938>11935_11930 16121>1611E_1611E 16122>1611E_16129 16123>1611E_1611F
    16124>16129_1611F 16125>1611E_16120 16126>16121_1611F 16127>16122_1611F 16128>16121_16120
    16D68>16D67_16D67 16D69>16D63_16D67 16D6A>16D69_16D67"

def compositions : List (Nat × List Nat) := listedSequences compositionListing

/-- The composed character of two, if there is one. A Korean syllable is computed: from a
    leading consonant and a vowel, or from such a syllable and a trailing consonant. -/
def composedPair? (first second : Nat) : Option Nat :=
  if 0x1100 ≤ first ∧ first < 0x1113 ∧ 0x1161 ≤ second ∧ second < 0x1176 then
    some (0xAC00 + ((first - 0x1100) * 21 + (second - 0x1161)) * 28)
  else if 0xAC00 ≤ first ∧ first < 0xD7A4 ∧ (first - 0xAC00) % 28 = 0 ∧
      0x11A7 < second ∧ second < 0x11C3 then
    some (first + (second - 0x11A7))
  else (compositions.find? fun entry => entry.2 == [first, second]).map Prod.fst

/-- The parts of a character, themselves taken apart. The fuel bounds the number of times that a
    character can be taken apart, which is at most three. -/
def decomposed : (fuel : Nat) → Nat → List Nat
  | 0, code => [code]
  | fuel + 1, code =>
      if 0xAC00 ≤ code ∧ code < 0xD7A4 then
        let index := code - 0xAC00
        let trailing := index % 28
        [0x1100 + index / 588, 0x1161 + index / 28 % 21] ++
          (if trailing = 0 then [] else [0x11A7 + trailing])
      else
        match compositions.lookup code with
        | some parts => parts.flatMap (decomposed fuel)
        | none => [code]

/-- Put a code point before others that are in order, behind the marks of a lower class. -/
def insertMark (code : Nat) : List Nat → List Nat
  | [] => [code]
  | next :: rest =>
      if combiningClass next ≠ 0 ∧ combiningClass next < combiningClass code then
        next :: insertMark code rest
      else code :: next :: rest

/-- A text whose marks are in the order of their classes. -/
def orderedMarks (codes : List Nat) : List Nat :=
  codes.foldr insertMark []

/-- Compose the code points after a starter. The marks between the starter and the next code
    point, which did not compose, are given from the last one on. -/
def composeAfter (starter : Nat) (marks : List Nat) : List Nat → List Nat
  | [] => starter :: marks.reverse
  | code :: rest =>
      let level := combiningClass code
      let isBlocked :=
        match marks with
        | [] => false
        | mark :: _ => level ≤ combiningClass mark
      match if isBlocked then none else composedPair? starter code with
      | some whole => composeAfter whole marks rest
      | none =>
          if level = 0 then starter :: (marks.reverse ++ composeAfter code [] rest)
          else composeAfter starter (code :: marks) rest

/-- Compose a text that is taken apart and in order. Marks at its start stay as they are. -/
def composeOrdered : List Nat → List Nat
  | [] => []
  | code :: rest =>
      if combiningClass code = 0 then composeAfter code [] rest else code :: composeOrdered rest

/-- The canonical composed form of a text, for texts without characters that are always taken
    apart. -/
def composed (codes : List Nat) : List Nat :=
  composeOrdered (orderedMarks (codes.flatMap (decomposed 4)))

end DocStore.Unicode
