import LanguageClient.Text.Span

/-!
# Joining

How the letters of cursive scripts join their neighbours.
-/

namespace LanguageClient.Text

inductive Joining
  | none
  | dual
  /-- Only the letter to the left, which is the next one. -/
  | left
  /-- Only the letter to the right, which is the one before. -/
  | right
  /-- As if it were not there. -/
  | transparent
  deriving DecidableEq, Repr

/-- The characters that join or are joined across. -/
def joiningSpans : Spans := Spans.ofText "
  300-36F:t 483-489:t 591-5BD:t 5BF:t 5C1-5C2:t 5C4-5C5:t 5C7:t 610-61A:t 620:d 622-625:r 626:d
  627:r 628:d 629:r 62A-62E:d 62F-632:r 633-63F:d 641-647:d 648:r 649-64A:d 64B-65F:t 66E-66F:d
  670:t 671-673:r 679-687:d 688-699:r 69A-6BF:d 6C0:r 6C1-6C2:d 6C3-6CB:r 6CC:d 6CD:r 6CE:d 6CF:r
  6D0-6D1:d 6D2-6D3:r 6D5:r 6D6-6DC:t 6DF-6E4:t 6E7-6E8:t 6EA-6ED:t 6EE-6EF:r 6FA-6FC:d 6FF:d
  710:r 711:t 712-714:d 715-719:r 71A-71D:d 71E:r 71F-727:d 728:r 729:d 72A:r 72B:d 72C:r
  72D-72E:d 72F:r 730-74A:t 74D:r 74E-758:d 759-75B:r 75C-76A:d 76B-76C:r 76D-770:d 771:r 772:d
  773-774:r 775-777:d 778-779:r 77A-77F:d 7A6-7B0:t 7CA-7EA:d 7EB-7F3:t 7FD:t 816-819:t 81B-823:t
  825-827:t 829-82D:t 840:r 841-845:d 846-847:r 848:d 849:r 84A-853:d 854:r 855:d 856-858:r
  859-85B:t 860:d 862-865:d 867:r 868:d 869-882:r 886:d 889-88D:d 88E:r 88F:d 897-89F:t 8A0-8A9:d
  8AA-8AC:r 8AE:r 8AF-8B0:d 8B1-8B2:r 8B3-8B8:d 8B9:r 8BA-8C8:d 8CA-902:t 93A:t 93C:t 941-948:t
  94D:t 951-957:t 962-963:t 981:t 9BC:t 9C1-9C4:t 9CD:t 9E2-9E3:t 9FE-A02:t A3C:t A41-A51:t
  A70-A71:t A75:t A81-A82:t ABC:t AC1-AC8:t ACD:t AE2-AE3:t AFA-B01:t B3C:t B3F:t B41-B44:t
  B4D-B56:t B62-B63:t B82:t BC0:t BCD:t C00:t C04:t C3C:t C3E-C40:t C46-C56:t C62-C63:t C81:t
  CBC:t CBF:t CC6:t CCC-CCD:t CE2-CE3:t D00-D01:t D3B-D3C:t D41-D44:t D4D:t D62-D63:t D81:t DCA:t
  DD2-DD6:t E31:t E34-E3A:t E47-E4E:t EB1:t EB4-EBC:t EC8-ECE:t F18-F19:t F35:t F37:t F39:t
  F71-F7E:t F80-F84:t F86-F87:t F8D-FBC:t FC6:t 102D-1030:t 1032-1037:t 1039-103A:t 103D-103E:t
  1058-1059:t 105E-1060:t 1071-1074:t 1082:t 1085-1086:t 108D:t 109D:t 135D-135F:t 1712-1714:t
  1732-1733:t 1752-1753:t 1772-1773:t 17B7-17BD:t 17C6:t 17C9-17D3:t 17DD:t 1807:d 1820-1878:d
  1885-1886:t 1887-18A8:d 18A9:t 18AA:d 1920-1922:t 1927-1928:t 1932:t 1939-193B:t 1A17-1A18:t
  1A1B:t 1A56:t 1A58-1A60:t 1A62:t 1A65-1A6C:t 1A73-1A7F:t 1AB0-1B03:t 1B34:t 1B36-1B3A:t 1B3C:t
  1B42:t 1B6B-1B73:t 1B80-1B81:t 1BA2-1BA5:t 1BA8-1BA9:t 1BAB-1BAD:t 1BE6:t 1BE8-1BE9:t 1BED:t
  1BEF-1BF1:t 1C2C-1C33:t 1C36-1C37:t 1CD0-1CD2:t 1CD4-1CE0:t 1CE2-1CE8:t 1CED:t 1CF4:t
  1CF8-1CF9:t 1DC0-1DFF:t 20D0-20F0:t 2CEF-2CF1:t 2D7F:t 2DE0-2DFF:t 302A-302D:t 3099-309A:t
  A66F-A672:t A674-A67D:t A69E-A69F:t A6F0-A6F1:t A802:t A806:t A80B:t A825-A826:t A82C:t
  A840-A871:d A872:l A8C4-A8C5:t A8E0-A8F1:t A8FF:t A926-A92D:t A947-A951:t A980-A982:t A9B3:t
  A9B6-A9B9:t A9BC-A9BD:t A9E5:t AA29-AA2E:t AA31-AA32:t AA35-AA36:t AA43:t AA4C:t AA7C:t AAB0:t
  AAB2-AAB4:t AAB7-AAB8:t AABE-AABF:t AAC1:t AAEC-AAED:t AAF6:t ABE5:t ABE8:t ABED:t FB1E:t
  FE20-FE2F:t 101FD:t 102E0:t 10376-1037A:t 10A01-10A0F:t 10A38-10A3F:t 10AC0-10AC4:d 10AC5:r
  10AC7:r 10AC9-10ACA:r 10ACD:l 10ACE-10AD2:r 10AD3-10AD6:d 10AD7:l 10AD8-10ADC:d 10ADD:r
  10ADE-10AE0:d 10AE1:r 10AE4:r 10AE5-10AE6:t 10AEB-10AEE:d 10AEF:r 10B80:d 10B81:r 10B82:d
  10B83-10B85:r 10B86-10B88:d 10B89:r 10B8A-10B8B:d 10B8C:r 10B8D:d 10B8E-10B8F:r 10B90:d 10B91:r
  10BA9-10BAC:r 10BAD-10BAE:d 10D00:l 10D01-10D21:d 10D22:r 10D23:d 10D24-10D27:t 10D69-10D6D:t
  10EAB-10EAC:t 10EC2:r 10EC3-10EC4:d 10EC6-10EC7:d 10EFA-10EFF:t 10F30-10F32:d 10F33:r
  10F34-10F44:d 10F46-10F50:t 10F51-10F53:d 10F54:r 10F70-10F73:d 10F74-10F75:r 10F76-10F81:d
  10F82-10F85:t 10FB0:d 10FB2-10FB3:d 10FB4-10FB6:r 10FB8:d 10FB9-10FBA:r 10FBB-10FBC:d 10FBD:r
  10FBE-10FBF:d 10FC1:d 10FC2-10FC3:r 10FC4:d 10FC9:r 10FCA:d 10FCB:l 11001:t 11038-11046:t
  11070:t 11073-11074:t 1107F-11081:t 110B3-110B6:t 110B9-110BA:t 110C2:t 11100-11102:t
  11127-1112B:t 1112D-11134:t 11173:t 11180-11181:t 111B6-111BE:t 111C9-111CC:t 111CF:t
  1122F-11231:t 11234:t 11236-11237:t 1123E:t 11241:t 112DF:t 112E3-112EA:t 11300-11301:t
  1133B-1133C:t 11340:t 11366-11374:t 113BB-113C0:t 113CE:t 113D0:t 113D2:t 113E1-113E2:t
  11438-1143F:t 11442-11444:t 11446:t 1145E:t 114B3-114B8:t 114BA:t 114BF-114C0:t 114C2-114C3:t
  115B2-115B5:t 115BC-115BD:t 115BF-115C0:t 115DC-115DD:t 11633-1163A:t 1163D:t 1163F-11640:t
  116AB:t 116AD:t 116B0-116B5:t 116B7:t 1171D:t 1171F:t 11722-11725:t 11727-1172B:t 1182F-11837:t
  11839-1183A:t 1193B-1193C:t 1193E:t 11943:t 119D4-119DB:t 119E0:t 11A01-11A0A:t 11A33-11A38:t
  11A3B-11A3E:t 11A47:t 11A51-11A56:t 11A59-11A5B:t 11A8A-11A96:t 11A98-11A99:t 11B60:t
  11B62-11B64:t 11B66:t 11C30-11C3D:t 11C3F:t 11C92-11CA7:t 11CAA-11CB0:t 11CB2-11CB3:t
  11CB5-11CB6:t 11D31-11D45:t 11D47:t 11D90-11D91:t 11D95:t 11D97:t 11EF3-11EF4:t 11F00-11F01:t
  11F36-11F3A:t 11F40:t 11F42:t 11F5A:t 13440:t 13447-13455:t 1611E-16129:t 1612D-1612F:t
  16AF0-16AF4:t 16B30-16B36:t 16F4F:t 16F8F-16F92:t 16FE4:t 1BC9D-1BC9E:t 1CF00-1CF46:t
  1D167-1D169:t 1D17B-1D182:t 1D185-1D18B:t 1D1AA-1D1AD:t 1D242-1D244:t 1DA00-1DA36:t
  1DA3B-1DA6C:t 1DA75:t 1DA84:t 1DA9B-1DAAF:t 1E000-1E08F:t 1E130-1E136:t 1E2AE:t 1E2EC-1E2EF:t
  1E4EC-1E4EF:t 1E5EE-1E5EF:t 1E6E3:t 1E6E6:t 1E6EE-1E6EF:t 1E6F5:t 1E8D0-1E8D6:t 1E922-1E943:d
  1E944-1E94B:t"

/-- How a character joins its neighbours. -/
def joining (c : Char) : Joining :=
  match (joiningSpans.find? c).map (·.note) with
  | some [':', 'd'] => .dual
  | some [':', 'l'] => .left
  | some [':', 'r'] => .right
  | some [':', 't'] => .transparent
  | _ => .none

end LanguageClient.Text
