import LanguageClient.Text.Span

/-!
# Directions

In which direction characters are written, as far as names need to know it.
-/

namespace LanguageClient.Text

inductive Direction
  | left
  /-- From right to left. -/
  | right
  | arabicNumber
  | number
  /-- Signs between numbers and all that takes its direction from what is around it. -/
  | neutral
  /-- A mark, which goes with the character before it. -/
  | mark
  deriving DecidableEq, Repr

/-- The characters that are not written from left to right. -/
def directionSpans : Spans := Spans.ofText "
  0-2F:o 30-39:n 3A-60:o 7B-D7:o F7:o 2B9-2BA:o 2C2-2CF:o 2D2-2ED:o 2EF-2FF:o 300-36F:m 375:o
  3F6:o 483-489:m 58A-58F:o 591-5BD:m 5BE:r 5BF:m 5C0:r 5C1-5C2:m 5C3:r 5C4-5C5:m 5C6:r 5C7:m
  5D0-5F4:r 606-607:o 608:r 609-60A:o 60B:r 60C:o 60D:r 60E-60F:o 610-61A:m 61B-64A:r 64B-65F:m
  660-669:a 66A:o 66B-66C:a 66D-66F:r 670:m 671-6D5:r 6D6-6DC:m 6DE:o 6DF-6E4:m 6E5-6E6:r
  6E7-6E8:m 6E9:o 6EA-6ED:m 6EE-6EF:r 6F0-6F9:n 6FA-710:r 711:m 712-72F:r 730-74A:m 74D-7A5:r
  7A6-7B0:m 7B1-7EA:r 7EB-7F3:m 7F4-7F5:r 7F6-7F9:o 7FA:r 7FD:m 7FE-815:r 816-819:m 81A:r
  81B-823:m 824:r 825-827:m 828:r 829-82D:m 830-858:r 859-85B:m 85E-88F:r 897-89F:m 8A0-8C9:r
  8CA-902:m 93A:m 93C:m 941-948:m 94D:m 951-957:m 962-963:m 981:m 9BC:m 9C1-9C4:m 9CD:m 9E2-9E3:m
  9F2-9F3:o 9FB:o 9FE-A02:m A3C:m A41-A51:m A70-A71:m A75:m A81-A82:m ABC:m AC1-AC8:m ACD:m
  AE2-AE3:m AF1:o AFA-B01:m B3C:m B3F:m B41-B44:m B4D-B56:m B62-B63:m B82:m BC0:m BCD:m BF3-BFA:o
  C00:m C04:m C3C:m C3E-C40:m C46-C56:m C62-C63:m C78-C7E:o C81:m CBC:m CCC-CCD:m CE2-CE3:m
  D00-D01:m D3B-D3C:m D41-D44:m D4D:m D62-D63:m D81:m DCA:m DD2-DD6:m E31:m E34-E3A:m E3F:o
  E47-E4E:m EB1:m EB4-EBC:m EC8-ECE:m F18-F19:m F35:m F37:m F39:m F3A-F3D:o F71-F7E:m F80-F84:m
  F86-F87:m F8D-FBC:m FC6:m 102D-1030:m 1032-1037:m 1039-103A:m 103D-103E:m 1058-1059:m
  105E-1060:m 1071-1074:m 1082:m 1085-1086:m 108D:m 109D:m 135D-135F:m 1390-1399:o 1400:o
  169B-169C:o 1712-1714:m 1732-1733:m 1752-1753:m 1772-1773:m 17B7-17BD:m 17C6:m 17C9-17D3:m
  17DB:o 17DD:m 17F0-180A:o 1885-1886:m 18A9:m 1920-1922:m 1927-1928:m 1932:m 1939-193B:m
  1940-1945:o 19DE-19FF:o 1A17-1A18:m 1A1B:m 1A56:m 1A58-1A60:m 1A62:m 1A65-1A6C:m 1A73-1A7F:m
  1AB0-1B03:m 1B34:m 1B36-1B3A:m 1B3C:m 1B42:m 1B6B-1B73:m 1B80-1B81:m 1BA2-1BA5:m 1BA8-1BA9:m
  1BAB-1BAD:m 1BE6:m 1BE8-1BE9:m 1BED:m 1BEF-1BF1:m 1C2C-1C33:m 1C36-1C37:m 1CD0-1CD2:m
  1CD4-1CE0:m 1CE2-1CE8:m 1CED:m 1CF4:m 1CF8-1CF9:m 1DC0-1DFF:m 200C-20C1:o 20D0-20F0:m
  2104-214D:o 218A-2335:o 237B-2394:o 2396-26AB:o 26AD-27FF:o 2900-2BFF:o 2CE5-2CEA:o 2CEF-2CF1:m
  2CF9-2CFF:o 2D7F:m 2DE0-2DFF:m 2E00-3004:o 3008-3020:o 302A-302D:m 3030:o 3037:o 303D-303F:o
  3099-309A:m 30A0:o 30FB:o 31C0-31E5:o 4DC0-4DFF:o A490-A4C6:o A60D-A60F:o A66F-A672:m A673:o
  A674-A67D:m A67E-A67F:o A69E-A69F:m A6F0-A6F1:m A700-A721:o A788:o A802:m A806:m A80B:m
  A825-A826:m A828-A82B:o A82C:m A838-A839:o A874-A877:o A8C4-A8C5:m A8E0-A8F1:m A8FF:m
  A926-A92D:m A947-A951:m A980-A982:m A9B3:m A9B6-A9B9:m A9BC-A9BD:m A9E5:m AA29-AA2E:m
  AA31-AA32:m AA35-AA36:m AA43:m AA4C:m AA7C:m AAB0:m AAB2-AAB4:m AAB7-AAB8:m AABE-AABF:m AAC1:m
  AAEC-AAED:m AAF6:m AB6A-AB6B:o ABE5:m ABE8:m ABED:m FB1E:m FBB2-FBC2:r FBC3-FDFF:o FE20-FE2F:m
  FE45-FE46:o FE73:r 10101:o 10140-1018C:o 10190-101A0:o 101FD:m 102E0:m 102E1-102FB:n
  10376-1037A:m 10800-1091B:r 1091F:o 10920-10A00:r 10A01-10A0F:m 10A10-10A35:r 10A38-10A3F:m
  10A40-10AE4:r 10AE5-10AE6:m 10AEB-10B35:r 10B39-10B3F:o 10B40-10D23:r 10D24-10D27:m
  10D30-10D49:a 10D4A-10D4F:r 10D69-10D6D:m 10D6E:o 10D6F-10D8F:r 10E60-10E7E:a 10E80-10EA9:r
  10EAB-10EAC:m 10EAD-10EC7:r 10ED0-10ED8:o 10EFA-10EFF:m 10F00-10F45:r 10F46-10F50:m
  10F51-10F81:r 10F82-10F85:m 10F86-10FF6:r 11001:m 11038-11046:m 11052-11065:o 11070:m
  11073-11074:m 1107F-11081:m 110B3-110B6:m 110B9-110BA:m 110C2:m 11100-11102:m 11127-1112B:m
  1112D-11134:m 11173:m 11180-11181:m 111B6-111BE:m 111C9-111CC:m 111CF:m 1122F-11231:m 11234:m
  11236-11237:m 1123E:m 11241:m 112DF:m 112E3-112EA:m 11300-11301:m 1133B-1133C:m 11340:m
  11366-11374:m 113BB-113C0:m 113CE:m 113D0:m 113D2:m 113E1-113E2:m 11438-1143F:m 11442-11444:m
  11446:m 1145E:m 114B3-114B8:m 114BA:m 114BF-114C0:m 114C2-114C3:m 115B2-115B5:m 115BC-115BD:m
  115BF-115C0:m 115DC-115DD:m 11633-1163A:m 1163D:m 1163F-11640:m 11660-1166C:o 116AB:m 116AD:m
  116B0-116B5:m 116B7:m 1171D:m 1171F:m 11722-11725:m 11727-1172B:m 1182F-11837:m 11839-1183A:m
  1193B-1193C:m 1193E:m 11943:m 119D4-119DB:m 119E0:m 11A01-11A06:m 11A09-11A0A:m 11A33-11A38:m
  11A3B-11A3E:m 11A47:m 11A51-11A56:m 11A59-11A5B:m 11A8A-11A96:m 11A98-11A99:m 11B60:m
  11B62-11B64:m 11B66:m 11C30-11C3D:m 11C92-11CA7:m 11CAA-11CB0:m 11CB2-11CB3:m 11CB5-11CB6:m
  11D31-11D45:m 11D47:m 11D90-11D91:m 11D95:m 11D97:m 11EF3-11EF4:m 11F00-11F01:m 11F36-11F3A:m
  11F40:m 11F42:m 11F5A:m 11FD5-11FF1:o 13440:m 13447-13455:m 1611E-16129:m 1612D-1612F:m
  16AF0-16AF4:m 16B30-16B36:m 16F4F:m 16F8F-16F92:m 16FE2:o 16FE4:m 1BC9D-1BC9E:m 1CC00-1CEF0:o
  1CF00-1CF46:m 1D167-1D169:m 1D17B-1D182:m 1D185-1D18B:m 1D1AA-1D1AD:m 1D1E9-1D241:o
  1D242-1D244:m 1D245:o 1D300-1D356:o 1DA00-1DA36:m 1DA3B-1DA6C:m 1DA75:m 1DA84:m 1DA9B-1DAAF:m
  1E000-1E08F:m 1E130-1E136:m 1E2AE:m 1E2EC-1E2EF:m 1E2FF:o 1E4EC-1E4EF:m 1E5EE-1E5EF:m 1E6E3:m
  1E6E6:m 1E6EE-1E6EF:m 1E6F5:m 1E800-1E8CF:r 1E8D0-1E8D6:m 1E922-1E943:r 1E944-1E94A:m
  1E94B-1ED3D:r 1EEF0-1F12F:o 1F16D-1F16F:o 1F1AD:o 1F260-1FBFA:o"

/-- The direction of a character. -/
def direction (c : Char) : Direction :=
  match (directionSpans.find? c).map (·.note) with
  | some [':', 'r'] => .right
  | some [':', 'a'] => .arabicNumber
  | some [':', 'n'] => .number
  | some [':', 'o'] => .neutral
  | some [':', 'm'] => .mark
  | _ => .left

end LanguageClient.Text
