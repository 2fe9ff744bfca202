import Storyboard.Text.Table

/-!
# Composed characters

The same letter may be written as one character or as a plain letter with marks behind it, and the
marks in more than one order. `compose` brings a text into the form that the Unicode standard calls
NFC: all is taken apart, marks are brought into the order of their classes, and put together again.

A text with characters that are only other ways to write single characters is not made any better by
this: these have to be mapped beforehand.
-/

namespace Storyboard.Text

/-! ## Tables -/

/-- Reads an entry: a character and the two that it is put together of. -/
def composition? (word : List Char) : Option (Nat × Nat × Nat) :=
  match splitOn '=' word with
  | [whole, parts] =>
    match splitOn '.' parts with
    | [a, b] => some (hexNumber whole, hexNumber a, hexNumber b)
    | _ => none
  | _ => none

/-- The characters that are put together of two. -/
def compositions : List (Nat × Nat × Nat) := List.filterMap composition? <| words
  "C0=0041.0300 C1=0041.0301 C2=0041.0302 C3=0041.0303 C4=0041.0308 C5=0041.030A C7=0043.0327
    C8=0045.0300 C9=0045.0301 CA=0045.0302 CB=0045.0308 CC=0049.0300 CD=0049.0301 CE=0049.0302
    CF=0049.0308 D1=004E.0303 D2=004F.0300 D3=004F.0301 D4=004F.0302 D5=004F.0303 D6=004F.0308
    D9=0055.0300 DA=0055.0301 DB=0055.0302 DC=0055.0308 DD=0059.0301 E0=0061.0300 E1=0061.0301
    E2=0061.0302 E3=0061.0303 E4=0061.0308 E5=0061.030A E7=0063.0327 E8=0065.0300 E9=0065.0301
    EA=0065.0302 EB=0065.0308 EC=0069.0300 ED=0069.0301 EE=0069.0302 EF=0069.0308 F1=006E.0303
    F2=006F.0300 F3=006F.0301 F4=006F.0302 F5=006F.0303 F6=006F.0308 F9=0075.0300 FA=0075.0301
    FB=0075.0302 FC=0075.0308 FD=0079.0301 FF=0079.0308 100=0041.0304 101=0061.0304 102=0041.0306
    103=0061.0306 104=0041.0328 105=0061.0328 106=0043.0301 107=0063.0301 108=0043.0302
    109=0063.0302 10A=0043.0307 10B=0063.0307 10C=0043.030C 10D=0063.030C 10E=0044.030C
    10F=0064.030C 112=0045.0304 113=0065.0304 114=0045.0306 115=0065.0306 116=0045.0307
    117=0065.0307 118=0045.0328 119=0065.0328 11A=0045.030C 11B=0065.030C 11C=0047.0302
    11D=0067.0302 11E=0047.0306 11F=0067.0306 120=0047.0307 121=0067.0307 122=0047.0327
    123=0067.0327 124=0048.0302 125=0068.0302 128=0049.0303 129=0069.0303 12A=0049.0304
    12B=0069.0304 12C=0049.0306 12D=0069.0306 12E=0049.0328 12F=0069.0328 130=0049.0307
    134=004A.0302 135=006A.0302 136=004B.0327 137=006B.0327 139=004C.0301 13A=006C.0301
    13B=004C.0327 13C=006C.0327 13D=004C.030C 13E=006C.030C 143=004E.0301 144=006E.0301
    145=004E.0327 146=006E.0327 147=004E.030C 148=006E.030C 14C=004F.0304 14D=006F.0304
    14E=004F.0306 14F=006F.0306 150=004F.030B 151=006F.030B 154=0052.0301 155=0072.0301
    156=0052.0327 157=0072.0327 158=0052.030C 159=0072.030C 15A=0053.0301 15B=0073.0301
    15C=0053.0302 15D=0073.0302 15E=0053.0327 15F=0073.0327 160=0053.030C 161=0073.030C
    162=0054.0327 163=0074.0327 164=0054.030C 165=0074.030C 168=0055.0303 169=0075.0303
    16A=0055.0304 16B=0075.0304 16C=0055.0306 16D=0075.0306 16E=0055.030A 16F=0075.030A
    170=0055.030B 171=0075.030B 172=0055.0328 173=0075.0328 174=0057.0302 175=0077.0302
    176=0059.0302 177=0079.0302 178=0059.0308 179=005A.0301 17A=007A.0301 17B=005A.0307
    17C=007A.0307 17D=005A.030C 17E=007A.030C 1A0=004F.031B 1A1=006F.031B 1AF=0055.031B
    1B0=0075.031B 1CD=0041.030C 1CE=0061.030C 1CF=0049.030C 1D0=0069.030C 1D1=004F.030C
    1D2=006F.030C 1D3=0055.030C 1D4=0075.030C 1D5=00DC.0304 1D6=00FC.0304 1D7=00DC.0301
    1D8=00FC.0301 1D9=00DC.030C 1DA=00FC.030C 1DB=00DC.0300 1DC=00FC.0300 1DE=00C4.0304
    1DF=00E4.0304 1E0=0226.0304 1E1=0227.0304 1E2=00C6.0304 1E3=00E6.0304 1E6=0047.030C
    1E7=0067.030C 1E8=004B.030C 1E9=006B.030C 1EA=004F.0328 1EB=006F.0328 1EC=01EA.0304
    1ED=01EB.0304 1EE=01B7.030C 1EF=0292.030C 1F0=006A.030C 1F4=0047.0301 1F5=0067.0301
    1F8=004E.0300 1F9=006E.0300 1FA=00C5.0301 1FB=00E5.0301 1FC=00C6.0301 1FD=00E6.0301
    1FE=00D8.0301 1FF=00F8.0301 200=0041.030F 201=0061.030F 202=0041.0311 203=0061.0311
    204=0045.030F 205=0065.030F 206=0045.0311 207=0065.0311 208=0049.030F 209=0069.030F
    20A=0049.0311 20B=0069.0311 20C=004F.030F 20D=006F.030F 20E=004F.0311 20F=006F.0311
    210=0052.030F 211=0072.030F 212=0052.0311 213=0072.0311 214=0055.030F 215=0075.030F
    216=0055.0311 217=0075.0311 218=0053.0326 219=0073.0326 21A=0054.0326 21B=0074.0326
    21E=0048.030C 21F=0068.030C 226=0041.0307 227=0061.0307 228=0045.0327 229=0065.0327
    22A=00D6.0304 22B=00F6.0304 22C=00D5.0304 22D=00F5.0304 22E=004F.0307 22F=006F.0307
    230=022E.0304 231=022F.0304 232=0059.0304 233=0079.0304 385=00A8.0301 386=0391.0301
    388=0395.0301 389=0397.0301 38A=0399.0301 38C=039F.0301 38E=03A5.0301 38F=03A9.0301
    390=03CA.0301 3AA=0399.0308 3AB=03A5.0308 3AC=03B1.0301 3AD=03B5.0301 3AE=03B7.0301
    3AF=03B9.0301 3B0=03CB.0301 3CA=03B9.0308 3CB=03C5.0308 3CC=03BF.0301 3CD=03C5.0301
    3CE=03C9.0301 3D3=03D2.0301 3D4=03D2.0308 400=0415.0300 401=0415.0308 403=0413.0301
    407=0406.0308 40C=041A.0301 40D=0418.0300 40E=0423.0306 419=0418.0306 439=0438.0306
    450=0435.0300 451=0435.0308 453=0433.0301 457=0456.0308 45C=043A.0301 45D=0438.0300
    45E=0443.0306 476=0474.030F 477=0475.030F 4C1=0416.0306 4C2=0436.0306 4D0=0410.0306
    4D1=0430.0306 4D2=0410.0308 4D3=0430.0308 4D6=0415.0306 4D7=0435.0306 4DA=04D8.0308
    4DB=04D9.0308 4DC=0416.0308 4DD=0436.0308 4DE=0417.0308 4DF=0437.0308 4E2=0418.0304
    4E3=0438.0304 4E4=0418.0308 4E5=0438.0308 4E6=041E.0308 4E7=043E.0308 4EA=04E8.0308
    4EB=04E9.0308 4EC=042D.0308 4ED=044D.0308 4EE=0423.0304 4EF=0443.0304 4F0=0423.0308
    4F1=0443.0308 4F2=0423.030B 4F3=0443.030B 4F4=0427.0308 4F5=0447.0308 4F8=042B.0308
    4F9=044B.0308 622=0627.0653 623=0627.0654 624=0648.0654 625=0627.0655 626=064A.0654
    6C0=06D5.0654 6C2=06C1.0654 6D3=06D2.0654 929=0928.093C 931=0930.093C 934=0933.093C
    9CB=09C7.09BE 9CC=09C7.09D7 B48=0B47.0B56 B4B=0B47.0B3E B4C=0B47.0B57 B94=0B92.0BD7
    BCA=0BC6.0BBE BCB=0BC7.0BBE BCC=0BC6.0BD7 C48=0C46.0C56 CC0=0CBF.0CD5 CC7=0CC6.0CD5
    CC8=0CC6.0CD6 CCA=0CC6.0CC2 CCB=0CCA.0CD5 D4A=0D46.0D3E D4B=0D47.0D3E D4C=0D46.0D57
    DDA=0DD9.0DCA DDC=0DD9.0DCF DDD=0DDC.0DCA DDE=0DD9.0DDF 1026=1025.102E 1B06=1B05.1B35
    1B08=1B07.1B35 1B0A=1B09.1B35 1B0C=1B0B.1B35 1B0E=1B0D.1B35 1B12=1B11.1B35 1B3B=1B3A.1B35
    1B3D=1B3C.1B35 1B40=1B3E.1B35 1B41=1B3F.1B35 1B43=1B42.1B35 1E00=0041.0325 1E01=0061.0325
    1E02=0042.0307 1E03=0062.0307 1E04=0042.0323 1E05=0062.0323 1E06=0042.0331 1E07=0062.0331
    1E08=00C7.0301 1E09=00E7.0301 1E0A=0044.0307 1E0B=0064.0307 1E0C=0044.0323 1E0D=0064.0323
    1E0E=0044.0331 1E0F=0064.0331 1E10=0044.0327 1E11=0064.0327 1E12=0044.032D 1E13=0064.032D
    1E14=0112.0300 1E15=0113.0300 1E16=0112.0301 1E17=0113.0301 1E18=0045.032D 1E19=0065.032D
    1E1A=0045.0330 1E1B=0065.0330 1E1C=0228.0306 1E1D=0229.0306 1E1E=0046.0307 1E1F=0066.0307
    1E20=0047.0304 1E21=0067.0304 1E22=0048.0307 1E23=0068.0307 1E24=0048.0323 1E25=0068.0323
    1E26=0048.0308 1E27=0068.0308 1E28=0048.0327 1E29=0068.0327 1E2A=0048.032E 1E2B=0068.032E
    1E2C=0049.0330 1E2D=0069.0330 1E2E=00CF.0301 1E2F=00EF.0301 1E30=004B.0301 1E31=006B.0301
    1E32=004B.0323 1E33=006B.0323 1E34=004B.0331 1E35=006B.0331 1E36=004C.0323 1E37=006C.0323
    1E38=1E36.0304 1E39=1E37.0304 1E3A=004C.0331 1E3B=006C.0331 1E3C=004C.032D 1E3D=006C.032D
    1E3E=004D.0301 1E3F=006D.0301 1E40=004D.0307 1E41=006D.0307 1E42=004D.0323 1E43=006D.0323
    1E44=004E.0307 1E45=006E.0307 1E46=004E.0323 1E47=006E.0323 1E48=004E.0331 1E49=006E.0331
    1E4A=004E.032D 1E4B=006E.032D 1E4C=00D5.0301 1E4D=00F5.0301 1E4E=00D5.0308 1E4F=00F5.0308
    1E50=014C.0300 1E51=014D.0300 1E52=014C.0301 1E53=014D.0301 1E54=0050.0301 1E55=0070.0301
    1E56=0050.0307 1E57=0070.0307 1E58=0052.0307 1E59=0072.0307 1E5A=0052.0323 1E5B=0072.0323
    1E5C=1E5A.0304 1E5D=1E5B.0304 1E5E=0052.0331 1E5F=0072.0331 1E60=0053.0307 1E61=0073.0307
    1E62=0053.0323 1E63=0073.0323 1E64=015A.0307 1E65=015B.0307 1E66=0160.0307 1E67=0161.0307
    1E68=1E62.0307 1E69=1E63.0307 1E6A=0054.0307 1E6B=0074.0307 1E6C=0054.0323 1E6D=0074.0323
    1E6E=0054.0331 1E6F=0074.0331 1E70=0054.032D 1E71=0074.032D 1E72=0055.0324 1E73=0075.0324
    1E74=0055.0330 1E75=0075.0330 1E76=0055.032D 1E77=0075.032D 1E78=0168.0301 1E79=0169.0301
    1E7A=016A.0308 1E7B=016B.0308 1E7C=0056.0303 1E7D=0076.0303 1E7E=0056.0323 1E7F=0076.0323
    1E80=0057.0300 1E81=0077.0300 1E82=0057.0301 1E83=0077.0301 1E84=0057.0308 1E85=0077.0308
    1E86=0057.0307 1E87=0077.0307 1E88=0057.0323 1E89=0077.0323 1E8A=0058.0307 1E8B=0078.0307
    1E8C=0058.0308 1E8D=0078.0308 1E8E=0059.0307 1E8F=0079.0307 1E90=005A.0302 1E91=007A.0302
    1E92=005A.0323 1E93=007A.0323 1E94=005A.0331 1E95=007A.0331 1E96=0068.0331 1E97=0074.0308
    1E98=0077.030A 1E99=0079.030A 1E9B=017F.0307 1EA0=0041.0323 1EA1=0061.0323 1EA2=0041.0309
    1EA3=0061.0309 1EA4=00C2.0301 1EA5=00E2.0301 1EA6=00C2.0300 1EA7=00E2.0300 1EA8=00C2.0309
    1EA9=00E2.0309 1EAA=00C2.0303 1EAB=00E2.0303 1EAC=1EA0.0302 1EAD=1EA1.0302 1EAE=0102.0301
    1EAF=0103.0301 1EB0=0102.0300 1EB1=0103.0300 1EB2=0102.0309 1EB3=0103.0309 1EB4=0102.0303
    1EB5=0103.0303 1EB6=1EA0.0306 1EB7=1EA1.0306 1EB8=0045.0323 1EB9=0065.0323 1EBA=0045.0309
    1EBB=0065.0309 1EBC=0045.0303 1EBD=0065.0303 1EBE=00CA.0301 1EBF=00EA.0301 1EC0=00CA.0300
    1EC1=00EA.0300 1EC2=00CA.0309 1EC3=00EA.0309 1EC4=00CA.0303 1EC5=00EA.0303 1EC6=1EB8.0302
    1EC7=1EB9.0302 1EC8=0049.0309 1EC9=0069.0309 1ECA=0049.0323 1ECB=0069.0323 1ECC=004F.0323
    1ECD=006F.0323 1ECE=004F.0309 1ECF=006F.0309 1ED0=00D4.0301 1ED1=00F4.0301 1ED2=00D4.0300
    1ED3=00F4.0300 1ED4=00D4.0309 1ED5=00F4.0309 1ED6=00D4.0303 1ED7=00F4.0303 1ED8=1ECC.0302
    1ED9=1ECD.0302 1EDA=01A0.0301 1EDB=01A1.0301 1EDC=01A0.0300 1EDD=01A1.0300 1EDE=01A0.0309
    1EDF=01A1.0309 1EE0=01A0.0303 1EE1=01A1.0303 1EE2=01A0.0323 1EE3=01A1.0323 1EE4=0055.0323
    1EE5=0075.0323 1EE6=0055.0309 1EE7=0075.0309 1EE8=01AF.0301 1EE9=01B0.0301 1EEA=01AF.0300
    1EEB=01B0.0300 1EEC=01AF.0309 1EED=01B0.0309 1EEE=01AF.0303 1EEF=01B0.0303 1EF0=01AF.0323
    1EF1=01B0.0323 1EF2=0059.0300 1EF3=0079.0300 1EF4=0059.0323 1EF5=0079.0323 1EF6=0059.0309
    1EF7=0079.0309 1EF8=0059.0303 1EF9=0079.0303 1F00=03B1.0313 1F01=03B1.0314 1F02=1F00.0300
    1F03=1F01.0300 1F04=1F00.0301 1F05=1F01.0301 1F06=1F00.0342 1F07=1F01.0342 1F08=0391.0313
    1F09=0391.0314 1F0A=1F08.0300 1F0B=1F09.0300 1F0C=1F08.0301 1F0D=1F09.0301 1F0E=1F08.0342
    1F0F=1F09.0342 1F10=03B5.0313 1F11=03B5.0314 1F12=1F10.0300 1F13=1F11.0300 1F14=1F10.0301
    1F15=1F11.0301 1F18=0395.0313 1F19=0395.0314 1F1A=1F18.0300 1F1B=1F19.0300 1F1C=1F18.0301
    1F1D=1F19.0301 1F20=03B7.0313 1F21=03B7.0314 1F22=1F20.0300 1F23=1F21.0300 1F24=1F20.0301
    1F25=1F21.0301 1F26=1F20.0342 1F27=1F21.0342 1F28=0397.0313 1F29=0397.0314 1F2A=1F28.0300
    1F2B=1F29.0300 1F2C=1F28.0301 1F2D=1F29.0301 1F2E=1F28.0342 1F2F=1F29.0342 1F30=03B9.0313
    1F31=03B9.0314 1F32=1F30.0300 1F33=1F31.0300 1F34=1F30.0301 1F35=1F31.0301 1F36=1F30.0342
    1F37=1F31.0342 1F38=0399.0313 1F39=0399.0314 1F3A=1F38.0300 1F3B=1F39.0300 1F3C=1F38.0301
    1F3D=1F39.0301 1F3E=1F38.0342 1F3F=1F39.0342 1F40=03BF.0313 1F41=03BF.0314 1F42=1F40.0300
    1F43=1F41.0300 1F44=1F40.0301 1F45=1F41.0301 1F48=039F.0313 1F49=039F.0314 1F4A=1F48.0300
    1F4B=1F49.0300 1F4C=1F48.0301 1F4D=1F49.0301 1F50=03C5.0313 1F51=03C5.0314 1F52=1F50.0300
    1F53=1F51.0300 1F54=1F50.0301 1F55=1F51.0301 1F56=1F50.0342 1F57=1F51.0342 1F59=03A5.0314
    1F5B=1F59.0300 1F5D=1F59.0301 1F5F=1F59.0342 1F60=03C9.0313 1F61=03C9.0314 1F62=1F60.0300
    1F63=1F61.0300 1F64=1F60.0301 1F65=1F61.0301 1F66=1F60.0342 1F67=1F61.0342 1F68=03A9.0313
    1F69=03A9.0314 1F6A=1F68.0300 1F6B=1F69.0300 1F6C=1F68.0301 1F6D=1F69.0301 1F6E=1F68.0342
    1F6F=1F69.0342 1F70=03B1.0300 1F72=03B5.0300 1F74=03B7.0300 1F76=03B9.0300 1F78=03BF.0300
    1F7A=03C5.0300 1F7C=03C9.0300 1F80=1F00.0345 1F81=1F01.0345 1F82=1F02.0345 1F83=1F03.0345
    1F84=1F04.0345 1F85=1F05.0345 1F86=1F06.0345 1F87=1F07.0345 1F88=1F08.0345 1F89=1F09.0345
    1F8A=1F0A.0345 1F8B=1F0B.0345 1F8C=1F0C.0345 1F8D=1F0D.0345 1F8E=1F0E.0345 1F8F=1F0F.0345
    1F90=1F20.0345 1F91=1F21.0345 1F92=1F22.0345 1F93=1F23.0345 1F94=1F24.0345 1F95=1F25.0345
    1F96=1F26.0345 1F97=1F27.0345 1F98=1F28.0345 1F99=1F29.0345 1F9A=1F2A.0345 1F9B=1F2B.0345
    1F9C=1F2C.0345 1F9D=1F2D.0345 1F9E=1F2E.0345 1F9F=1F2F.0345 1FA0=1F60.0345 1FA1=1F61.0345
    1FA2=1F62.0345 1FA3=1F63.0345 1FA4=1F64.0345 1FA5=1F65.0345 1FA6=1F66.0345 1FA7=1F67.0345
    1FA8=1F68.0345 1FA9=1F69.0345 1FAA=1F6A.0345 1FAB=1F6B.0345 1FAC=1F6C.0345 1FAD=1F6D.0345
    1FAE=1F6E.0345 1FAF=1F6F.0345 1FB0=03B1.0306 1FB1=03B1.0304 1FB2=1F70.0345 1FB3=03B1.0345
    1FB4=03AC.0345 1FB6=03B1.0342 1FB7=1FB6.0345 1FB8=0391.0306 1FB9=0391.0304 1FBA=0391.0300
    1FBC=0391.0345 1FC1=00A8.0342 1FC2=1F74.0345 1FC3=03B7.0345 1FC4=03AE.0345 1FC6=03B7.0342
    1FC7=1FC6.0345 1FC8=0395.0300 1FCA=0397.0300 1FCC=0397.0345 1FCD=1FBF.0300 1FCE=1FBF.0301
    1FCF=1FBF.0342 1FD0=03B9.0306 1FD1=03B9.0304 1FD2=03CA.0300 1FD6=03B9.0342 1FD7=03CA.0342
    1FD8=0399.0306 1FD9=0399.0304 1FDA=0399.0300 1FDD=1FFE.0300 1FDE=1FFE.0301 1FDF=1FFE.0342
    1FE0=03C5.0306 1FE1=03C5.0304 1FE2=03CB.0300 1FE4=03C1.0313 1FE5=03C1.0314 1FE6=03C5.0342
    1FE7=03CB.0342 1FE8=03A5.0306 1FE9=03A5.0304 1FEA=03A5.0300 1FEC=03A1.0314 1FED=00A8.0300
    1FF2=1F7C.0345 1FF3=03C9.0345 1FF4=03CE.0345 1FF6=03C9.0342 1FF7=1FF6.0345 1FF8=039F.0300
    1FFA=03A9.0300 1FFC=03A9.0345 219A=2190.0338 219B=2192.0338 21AE=2194.0338 21CD=21D0.0338
    21CE=21D4.0338 21CF=21D2.0338 2204=2203.0338 2209=2208.0338 220C=220B.0338 2224=2223.0338
    2226=2225.0338 2241=223C.0338 2244=2243.0338 2247=2245.0338 2249=2248.0338 2260=003D.0338
    2262=2261.0338 226D=224D.0338 226E=003C.0338 226F=003E.0338 2270=2264.0338 2271=2265.0338
    2274=2272.0338 2275=2273.0338 2278=2276.0338 2279=2277.0338 2280=227A.0338 2281=227B.0338
    2284=2282.0338 2285=2283.0338 2288=2286.0338 2289=2287.0338 22AC=22A2.0338 22AD=22A8.0338
    22AE=22A9.0338 22AF=22AB.0338 22E0=227C.0338 22E1=227D.0338 22E2=2291.0338 22E3=2292.0338
    22EA=22B2.0338 22EB=22B3.0338 22EC=22B4.0338 22ED=22B5.0338 304C=304B.3099 304E=304D.3099
    3050=304F.3099 3052=3051.3099 3054=3053.3099 3056=3055.3099 3058=3057.3099 305A=3059.3099
    305C=305B.3099 305E=305D.3099 3060=305F.3099 3062=3061.3099 3065=3064.3099 3067=3066.3099
    3069=3068.3099 3070=306F.3099 3071=306F.309A 3073=3072.3099 3074=3072.309A 3076=3075.3099
    3077=3075.309A 3079=3078.3099 307A=3078.309A 307C=307B.3099 307D=307B.309A 3094=3046.3099
    309E=309D.3099 30AC=30AB.3099 30AE=30AD.3099 30B0=30AF.3099 30B2=30B1.3099 30B4=30B3.3099
    30B6=30B5.3099 30B8=30B7.3099 30BA=30B9.3099 30BC=30BB.3099 30BE=30BD.3099 30C0=30BF.3099
    30C2=30C1.3099 30C5=30C4.3099 30C7=30C6.3099 30C9=30C8.3099 30D0=30CF.3099 30D1=30CF.309A
    30D3=30D2.3099 30D4=30D2.309A 30D6=30D5.3099 30D7=30D5.309A 30D9=30D8.3099 30DA=30D8.309A
    30DC=30DB.3099 30DD=30DB.309A 30F4=30A6.3099 30F7=30EF.3099 30F8=30F0.3099 30F9=30F1.3099
    30FA=30F2.3099 30FE=30FD.3099 1109A=11099.110BA 1109C=1109B.110BA 110AB=110A5.110BA
    1112E=11131.11127 1112F=11132.11127 1134B=11347.1133E 1134C=11347.11357 114BB=114B9.114BA
    114BC=114B9.114B0 114BE=114B9.114BD 115BA=115B8.115AF 115BB=115B9.115AF 11938=11935.11930"

/-- Reads an entry: the first and the last of some marks, and their class. -/
def markRange? (word : List Char) : Option ((Nat × Nat) × Nat) :=
  match splitOn ':' word with
  | [marks, number] => some (range marks, decimalValue number)
  | _ => none

/-- The classes of marks. Marks of different classes may change places. -/
def markClasses : List ((Nat × Nat) × Nat) := List.filterMap markRange? <| words
  "300-314:230 315:232 316-319:220 31A:232 31B:216 31C-320:220 321-322:202 323-326:220
    327-328:202 329-333:220 334-338:1 339-33C:220 33D-344:230 345:240 346:230 347-349:220
    34A-34C:230 34D-34E:220 350-352:230 353-356:220 357:230 358:232 359-35A:220 35B:230 35C:233
    35D-35E:234 35F:233 360-361:234 362:233 363-36F:230 483-487:230 591:220 592-595:230 596:220
    597-599:230 59A:222 59B:220 59C-5A1:230 5A2-5A7:220 5A8-5A9:230 5AA:220 5AB-5AC:230 5AD:222
    5AE:228 5AF:230 5B0:10 5B1:11 5B2:12 5B3:13 5B4:14 5B5:15 5B6:16 5B7:17 5B8:18 5B9-5BA:19
    5BB:20 5BC:21 5BD:22 5BF:23 5C1:24 5C2:25 5C4:230 5C5:220 5C7:18 610-617:230 618:30 619:31
    61A:32 64B:27 64C:28 64D:29 64E:30 64F:31 650:32 651:33 652:34 653-654:230 655-656:220
    657-65B:230 65C:220 65D-65E:230 65F:220 670:35 6D6-6DC:230 6DF-6E2:230 6E3:220 6E4:230
    6E7-6E8:230 6EA:220 6EB-6EC:230 6ED:220 711:36 730:230 731:220 732-733:230 734:220 735-736:230
    737-739:220 73A:230 73B-73C:220 73D:230 73E:220 73F-741:230 742:220 743:230 744:220 745:230
    746:220 747:230 748:220 749-74A:230 7EB-7F1:230 7F2:220 7F3:230 7FD:220 816-819:230
    81B-823:230 825-827:230 829-82D:230 859-85B:220 898:230 899-89B:220 89C-89F:230 8CA-8CE:230
    8CF-8D3:220 8D4-8E1:230 8E3:220 8E4-8E5:230 8E6:220 8E7-8E8:230 8E9:220 8EA-8EC:230
    8ED-8EF:220 8F0:27 8F1:28 8F2:29 8F3-8F5:230 8F6:220 8F7-8F8:230 8F9-8FA:220 8FB-8FF:230 93C:7
    94D:9 951:230 952:220 953-954:230 9BC:7 9CD:9 9FE:230 A3C:7 A4D:9 ABC:7 ACD:9 B3C:7 B4D:9
    BCD:9 C3C:7 C4D:9 C55:84 C56:91 CBC:7 CCD:9 D3B-D3C:9 D4D:9 DCA:9 E38-E39:103 E3A:9
    E48-E4B:107 EB8-EB9:118 EBA:9 EC8-ECB:122 F18-F19:220 F35:220 F37:220 F39:216 F71:129 F72:130
    F74:132 F7A-F7D:130 F80:130 F82-F83:230 F84:9 F86-F87:230 FC6:220 1037:7 1039-103A:9 108D:220
    135D-135F:230 1714-1715:9 1734:9 17D2:9 17DD:230 18A9:228 1939:222 193A:230 193B:220 1A17:230
    1A18:220 1A60:9 1A75-1A7C:230 1A7F:220 1AB0-1AB4:230 1AB5-1ABA:220 1ABB-1ABC:230 1ABD:220
    1ABF-1AC0:220 1AC1-1AC2:230 1AC3-1AC4:220 1AC5-1AC9:230 1ACA:220 1ACB-1ACE:230 1B34:7 1B44:9
    1B6B:230 1B6C:220 1B6D-1B73:230 1BAA-1BAB:9 1BE6:7 1BF2-1BF3:9 1C37:7 1CD0-1CD2:230 1CD4:1
    1CD5-1CD9:220 1CDA-1CDB:230 1CDC-1CDF:220 1CE0:230 1CE2-1CE8:1 1CED:220 1CF4:230 1CF8-1CF9:230
    1DC0-1DC1:230 1DC2:220 1DC3-1DC9:230 1DCA:220 1DCB-1DCC:230 1DCD:234 1DCE:214 1DCF:220
    1DD0:202 1DD1-1DF5:230 1DF6:232 1DF7-1DF8:228 1DF9:220 1DFA:218 1DFB:230 1DFC:233 1DFD:220
    1DFE:230 1DFF:220 20D0-20D1:230 20D2-20D3:1 20D4-20D7:230 20D8-20DA:1 20DB-20DC:230 20E1:230
    20E5-20E6:1 20E7:230 20E8:220 20E9:230 20EA-20EB:1 20EC-20EF:220 20F0:230 2CEF-2CF1:230 2D7F:9
    2DE0-2DFF:230 302A:218 302B:228 302C:232 302D:222 302E-302F:224 3099-309A:8 A66F:230
    A674-A67D:230 A69E-A69F:230 A6F0-A6F1:230 A806:9 A82C:9 A8C4:9 A8E0-A8F1:230 A92B-A92D:220
    A953:9 A9B3:7 A9C0:9 AAB0:230 AAB2-AAB3:230 AAB4:220 AAB7-AAB8:230 AABE-AABF:230 AAC1:230
    AAF6:9 ABED:9 FB1E:26 FE20-FE26:230 FE27-FE2D:220 FE2E-FE2F:230 101FD:220 102E0:220
    10376-1037A:230 10A0D:220 10A0F:230 10A38:230 10A39:1 10A3A:220 10A3F:9 10AE5:230 10AE6:220
    10D24-10D27:230 10EAB-10EAC:230 10F46-10F47:220 10F48-10F4A:230 10F4B:220 10F4C:230
    10F4D-10F50:220 10F82:230 10F83:220 10F84:230 10F85:220 11046:9 11070:9 1107F:9 110B9:9
    110BA:7 11100-11102:230 11133-11134:9 11173:7 111C0:9 111CA:7 11235:9 11236:7 112E9:7 112EA:9
    1133B-1133C:7 1134D:9 11366-1136C:230 11370-11374:230 11442:9 11446:7 1145E:230 114C2:9
    114C3:7 115BF:9 115C0:7 1163F:9 116B6:9 116B7:7 1172B:9 11839:9 1183A:7 1193D-1193E:9 11943:7
    119E0:9 11A34:9 11A47:9 11A99:9 11C3F:9 11D42:7 11D44-11D45:9 11D97:9 16AF0-16AF4:1
    16B30-16B36:230 16FF0-16FF1:6 1BC9E:1 1D165-1D166:216 1D167-1D169:1 1D16D:226 1D16E-1D172:216
    1D17B-1D182:220 1D185-1D189:230 1D18A-1D18B:220 1D1AA-1D1AD:230 1D242-1D244:230
    1E000-1E006:230 1E008-1E018:230 1E01B-1E021:230 1E023-1E024:230 1E026-1E02A:230
    1E130-1E136:230 1E2AE:230 1E2EC-1E2EF:230 1E8D0-1E8D6:220 1E944-1E949:230 1E94A:7"

/-- The class of a character; zero for those that keep their place. -/
def markClass (n : Nat) : Nat :=
  ((markClasses.find? fun e => e.1.1 ≤ n && n ≤ e.1.2).map (·.2)).getD 0

/-! ## Syllables

The syllables of the Korean script are put together by rule: of a lead, a vowel, and perhaps a tail.
-/

/-- The first syllable. -/
def syllableBase : Nat := 0xAC00

/-- The number of syllables. -/
def syllableCount : Nat := 19 * 21 * 28

/-- The lead, the vowel and the tail of a syllable. -/
def syllableParts? (n : Nat) : Option (List Nat) :=
  if syllableBase ≤ n ∧ n < syllableBase + syllableCount then
    let k := n - syllableBase
    let front := [0x1100 + k / 588, 0x1161 + k % 588 / 28]
    some (if k % 28 = 0 then front else front ++ [0x11A7 + k % 28])
  else none

/-- The syllable of a lead and a vowel, or of a syllable without a tail and a tail. -/
def syllable? (a b : Nat) : Option Nat :=
  if 0x1100 ≤ a ∧ a < 0x1113 ∧ 0x1161 ≤ b ∧ b < 0x1176 then
    some (syllableBase + ((a - 0x1100) * 21 + (b - 0x1161)) * 28)
  else if syllableBase ≤ a ∧ a < syllableBase + syllableCount ∧ (a - syllableBase) % 28 = 0 ∧
      0x11A7 < b ∧ b < 0x11C3 then
    some (a + (b - 0x11A7))
  else none

/-! ## Taking apart -/

/-- Takes a character apart as far as `depth` allows. The characters below U+00C0 are simple. -/
def takeApart : (depth : Nat) → Nat → List Nat
  | 0, n => [n]
  | depth + 1, n =>
    if n < 0xC0 then [n]
    else
      match syllableParts? n with
      | some parts => parts
      | none =>
        match compositions.find? (·.1 = n) with
        | some (_, a, b) => takeApart depth a ++ [b]
        | none => [n]

/-- The deepest composition there is. -/
def deepestComposition : Nat := 4

/-- Puts a mark into its place among marks that are in order. -/
def insertMark (m : Nat) : List Nat → List Nat
  | [] => [m]
  | n :: rest => if markClass m < markClass n then m :: n :: rest else n :: insertMark m rest

/-- Brings marks into the order of their classes; `held` are the marks since the last character that
keeps its place. -/
def orderMarks (held : List Nat) : List Nat → List Nat
  | [] => held
  | n :: rest =>
    if markClass n = 0 then held ++ n :: orderMarks [] rest
    else orderMarks (insertMark n held) rest

/-! ## Putting together -/

/-- The character that is put together of two. The second one is never below U+0300. -/
def pair? (a b : Nat) : Option Nat :=
  if b < 0x300 then none
  else (syllable? a b).or ((compositions.find? (·.2 = (a, b))).map (·.1))

/-- Puts characters together. `base` is the last character that keeps its place, and `held` are the
marks behind it that could not be put together with it, newest first. -/
def putTogether (base : Nat) (held : List Nat) : List Nat → List Nat
  | [] => base :: held.reverse
  | n :: rest =>
    let isFree := match held with
      | [] => true
      | m :: _ => markClass m < markClass n
    match (if isFree then pair? base n else none) with
    | some whole => putTogether whole held rest
    | none =>
      if markClass n = 0 then base :: held.reverse ++ putTogether n [] rest
      else putTogether base (n :: held) rest

/-- Puts the characters of a text together; marks at its start stay alone. -/
def putAllTogether : List Nat → List Nat
  | [] => []
  | n :: rest => if markClass n = 0 then putTogether n [] rest else n :: putAllTogether rest

/-- A text with all characters put together. -/
def compose (cs : List Char) : List Char :=
  (putAllTogether (orderMarks []
    (cs.flatMap fun c => takeApart deepestComposition c.toNat))).map Char.ofNat

end Storyboard.Text
