import HeadAudit.Text.Mark

namespace HeadAudit

inductive Direction where
  | leftToRight
  | rightToLeft
  | arabicLetter
  | arabicNumber
  | europeanNumber
  | europeanSeparator
  | europeanTerminator
  | commonSeparator
  | nonspacing
  | boundaryNeutral
  | neutral
  | format
  deriving DecidableEq

namespace Direction

/-- The direction for its usual short name; white space and formatting characters have none here. -/
def ofCode (code : List Char) : Direction :=
  match String.ofList code with
  | "L" => .leftToRight
  | "R" => .rightToLeft
  | "AL" => .arabicLetter
  | "AN" => .arabicNumber
  | "EN" => .europeanNumber
  | "ES" => .europeanSeparator
  | "ET" => .europeanTerminator
  | "CS" => .commonSeparator
  | "NSM" => .nonspacing
  | "BN" => .boundaryNeutral
  | "ON" => .neutral
  | _ => .format

def table : List (CodeRange × Direction) :=
  CodeRange.labelled ofCode
    "0-8=BN 9-D=X E-1B=BN 1C-20=X 21-22=ON 23-25=ET 26-2A=ON 2B=ES 2C=CS 2D=ES 2E-2F=CS 30-39=EN
3A=CS 3B-40=ON 5B-60=ON 7B-7E=ON 7F-84=BN 85=X 86-9F=BN A0=CS A1=ON A2-A5=ET A6-A9=ON AB-AC=ON
AD=BN AE-AF=ON B0-B1=ET B2-B3=EN B4=ON B6-B8=ON B9=EN BB-BF=ON D7=ON F7=ON 2B9-2BA=ON 2C2-2CF=ON
2D2-2DF=ON 2E5-2ED=ON 2EF-2FF=ON 374-375=ON 37E=ON 384-385=ON 387=ON 3F6=ON 58A-58E=ON 58F=ET 5BE=R
5C0=R 5C3=R 5C6=R 5D0-5F4=R 600-605=AN 606-607=ON 608=AL 609-60A=ET 60B=AL 60C=CS 60D=AL 60E-60F=ON
61B-64A=AL 660-669=AN 66A=ET 66B-66C=AN 66D-66F=AL 671-6D5=AL 6DD=AN 6DE=ON 6E5-6E6=AL 6E9=ON
6EE-6EF=AL 6F0-6F9=EN 6FA-710=AL 712-72F=AL 74D-7A5=AL 7B1=AL 7C0-7EA=R 7F4-7F5=R 7F6-7F9=ON 7FA=R
7FE-815=R 81A=R 824=R 828=R 830-858=R 85E=R 860-88F=AL 890-891=AN 8A0-8C9=AL 8E2=AN 9F2-9F3=ET
9FB=ET AF1=ET BF3-BF8=ON BF9=ET BFA=ON C78-C7E=ON CBF=L CC6=L E3F=ET F3A-F3D=ON 1390-1399=ON
1400=ON 1680=X 169B-169C=ON 17DB=ET 17F0-180A=ON 180E=BN 1940-1945=ON 19DE-19FF=ON 1FBD=ON
1FBF-1FC1=ON 1FCD-1FCF=ON 1FDD-1FDF=ON 1FED-1FEF=ON 1FFD-1FFE=ON 2000-200A=X 200B-200D=BN 200F=R
2010-2027=ON 2028-202E=X 202F=CS 2030-2034=ET 2035-2043=ON 2044=CS 2045-205E=ON 205F=X 2060-2064=BN
2066-2069=X 206A-206F=BN 2070=EN 2074-2079=EN 207A-207B=ES 207C-207E=ON 2080-2089=EN 208A-208B=ES
208C-208E=ON 20A0-20C1=ET 2100-2101=ON 2103-2106=ON 2108-2109=ON 2114=ON 2116-2118=ON 211E-2123=ON
2125=ON 2127=ON 2129=ON 212E=ET 213A-213B=ON 2140-2144=ON 214A-214D=ON 2150-215F=ON 2189-2211=ON
2212=ES 2213=ET 2214-2335=ON 237B-2394=ON 2396-2487=ON 2488-249B=EN 24EA-26AB=ON 26AD-27FF=ON
2900-2BFF=ON 2CE5-2CEA=ON 2CF9-2CFF=ON 2E00-2FFF=ON 3000=X 3001-3004=ON 3008-3020=ON 3030=ON
3036-3037=ON 303D-303F=ON 309B-309C=ON 30A0=ON 30FB=ON 31C0-31EF=ON 321D-321E=ON 3250-325F=ON
327C-327E=ON 32B1-32BF=ON 32CC-32CF=ON 3377-337A=ON 33DE-33DF=ON 33FF=ON 4DC0-4DFF=ON A490-A4C6=ON
A60D-A60F=ON A673=ON A67E-A67F=ON A700-A721=ON A788=ON A828-A82B=ON A838-A839=ET A874-A877=ON
AB6A-AB6B=ON FB1D=R FB1F-FB28=R FB29=ES FB2A-FB4F=R FB50-FBC2=AL FBC3-FBD2=ON FBD3-FD3D=AL
FD3E-FD4F=ON FD50-FD8F=AL FD90-FD91=ON FD92-FDC7=AL FDC8-FDCF=ON FDF0-FDFC=AL FDFD-FDFF=ON
FE10-FE19=ON FE30-FE4F=ON FE50=CS FE51=ON FE52=CS FE54=ON FE55=CS FE56-FE5E=ON FE5F=ET FE60-FE61=ON
FE62-FE63=ES FE64-FE68=ON FE69-FE6A=ET FE6B=ON FE70-FEFC=AL FEFF=BN FF01-FF02=ON FF03-FF05=ET
FF06-FF0A=ON FF0B=ES FF0C=CS FF0D=ES FF0E-FF0F=CS FF10-FF19=EN FF1A=CS FF1B-FF20=ON FF3B-FF40=ON
FF5B-FF65=ON FFE0-FFE1=ET FFE2-FFE4=ON FFE5-FFE6=ET FFE8-FFFD=ON 10101=ON 10140-1018C=ON
10190-101A0=ON 102E1-102FB=EN 10800-1091B=R 1091F=ON 10920-10A00=R 10A10-10A35=R 10A40-10AE4=R
10AEB-10B35=R 10B39-10B3F=ON 10B40-10CFF=R 10D00-10D23=AL 10D30-10D49=AN 10D4A-10D65=R 10D6E=ON
10D6F-10D8F=R 10E60-10E7E=AN 10E80-10EA9=R 10EAD-10EB1=R 10EC2-10EC7=AL 10ED0-10ED8=ON
10F00-10F27=R 10F30-10F45=AL 10F51-10F59=AL 10F70-10F81=R 10F86-10FF6=R 11052-11065=ON
11660-1166C=ON 11C3F=L 11FD5-11FDC=ON 11FDD-11FE0=ET 11FE1-11FF1=ON 16FE2=ON 1BCA0-1BCA3=BN
1CC00-1CCEF=ON 1CCFA-1CEF0=ON 1D173-1D17A=BN 1D1E9-1D241=ON 1D245=ON 1D300-1D356=ON 1D6DB=ON
1D715=ON 1D74F=ON 1D789=ON 1D7C3=ON 1D7CE-1D7FF=EN 1E2FF=ET 1E800-1E8CF=R 1E900-1E943=R
1E94B-1E95F=R 1EC71-1EEBB=AL 1EEF0-1F0F5=ON 1F100-1F10A=EN 1F10B-1F10F=ON 1F12F=ON 1F16A-1F16F=ON
1F1AD=ON 1F260-1FBEF=ON 1FBF0-1FBF9=EN 1FBFA=ON E0001-E007F=BN"

/-- Characters out of the table go with their letter if they are marks without room of their own,
and otherwise run from left to right. -/
def ofChar (c : Char) : Direction :=
  match CodeRange.label? table c.toNat with
  | some d => d
  | none => if Mark.isNonspacing c then .nonspacing else .leftToRight

def turns (d : Direction) : Bool :=
  d == .rightToLeft || d == .arabicLetter || d == .arabicNumber

end Direction

end HeadAudit
