import Telemetry.Text.CodeTable

/-!
# Marks

A mark combines with the character in front of it. Most marks take up no space of their own. Marks
of different combining classes may stand in any order without a difference in meaning, unless one of
the classes is zero; a mark of the class of viramas joins two consonants.
-/

namespace Telemetry.Text

/-- What kind of mark a character is. -/
structure Mark where
  isSpacing : Bool := false
  /-- The combining class. -/
  combiningClass : Nat := 0
  deriving DecidableEq, Repr

namespace Mark

/-- Reads a kind: an `s` for one that takes up space, and the class in decimal digits. -/
def read (cs : List Char) : Mark :=
  let digits := cs.filter Char.isDigit
  { isSpacing := cs.contains 's'
    combiningClass := digits.foldl (fun n c ↦ n * 10 + (c.toNat - '0'.toNat)) 0 }

/-- The marks that a name of a host may hold. -/
def table : CodeTable Mark :=
  .ofText read
  "300-314:230 315:232 316-319:220 31a:232 31b:216 31c-320:220 321-322:202 323-326:220 327-328:202
  329-333:220 334-338:1 339-33c:220 33d-346:230 347-349:220 34a-34c:230 34d-34e:220 350-352:230
  353-356:220 357:230 358:232 359-35a:220 35b:230 35c:233 35d-35e:234 35f:233 360-361:234 362:233
  363-36f:230 483-487:230 488-489 591:220 592-595:230 596:220 597-599:230 59a:222 59b:220
  59c-5a1:230 5a2-5a7:220 5a8-5a9:230 5aa:220 5ab-5ac:230 5ad:222 5ae:228 5af:230 5b0:10 5b1:11
  5b2:12 5b3:13 5b4:14 5b5:15 5b6:16 5b7:17 5b8:18 5b9-5ba:19 5bb:20 5bc:21 5bd:22 5bf:23 5c1:24
  5c2:25 5c4:230 5c5:220 5c7:18 5c8 610-617:230 618:30 619:31 61a:32 64b:27 64c:28 64d:29 64e:30
  64f:31 650:32 651:33 652:34 653-654:230 655-656:220 657-65b:230 65c:220 65d-65e:230 65f:220
  670:35 6d6-6dc:230 6df-6e2:230 6e3:220 6e4:230 6e7-6e8:230 6ea:220 6eb-6ec:230 6ed:220 711:36
  730:230 731:220 732-733:230 734:220 735-736:230 737-739:220 73a:230 73b-73c:220 73d:230 73e:220
  73f-741:230 742:220 743:230 744:220 745:230 746:220 747:230 748:220 749-74a:230 7a6-7b0
  7eb-7f1:230 7f2:220 7f3:230 7fd:220 816-819:230 81b-823:230 825-827:230 829-82d:230 859-85b:220
  897-898:230 899-89b:220 89c-89f:230 8ca-8ce:230 8cf-8d3:220 8d4-8e1:230 8e3:220 8e4-8e5:230
  8e6:220 8e7-8e8:230 8e9:220 8ea-8ec:230 8ed-8ef:220 8f0:27 8f1:28 8f2:29 8f3-8f5:230 8f6:220
  8f7-8f8:230 8f9-8fa:220 8fb-8ff:230 900-902 903:s 93a 93b:s 93c:7 93e-940:s 941-948 949-94c:s
  94d:9 94e-94f:s 951:230 952:220 953-954:230 955-957 962-963 981 982-983:s 9bc:7 9be-9c0:s
  9c1-9c4 9c7-9cc:s 9cd:9 9d7:s 9e2-9e3 9fe:230 a01-a02 a03:s a3c:7 a3e-a40:s a41-a4c a4d:9 a51
  a70-a71 a75 a81-a82 a83:s abc:7 abe-ac0:s ac1-ac8 ac9-acc:s acd:9 ae2-ae3 afa-b01 b02-b03:s
  b3c:7 b3e:s b3f b40:s b41-b44 b47-b4c:s b4d:9 b55-b56 b57:s b62-b63 b82 bbe-bbf:s bc0 bc1-bcc:s
  bcd:9 bd7:s c00 c01-c03:s c04 c3c:7 c3e-c40 c41-c44:s c46-c4c c4d:9 c55:84 c56:91 c62-c63 c81
  c82-c83:s cbc:7 cbe:s cbf cc0-cc4:s cc6 cc7-ccb:s ccc ccd:9 cd5-cd6:s ce2-ce3 cf3:s d00-d01
  d02-d03:s d3b-d3c:9 d3e-d40:s d41-d44 d46-d4c:s d4d:9 d57:s d62-d63 d81 d82-d83:s dca:9
  dcf-dd1:s dd2-dd6 dd8-ddf:s df2-df3:s e31 e34-e37 e38-e39:103 e3a:9 e47 e48-e4b:107 e4c-e4e eb1
  eb4-eb7 eb8-eb9:118 eba:9 ebb-ebc ec8-ecb:122 ecc-ece f18-f19:220 f35:220 f37:220 f39:216
  f3e-f3f:s f71:129 f72:130 f74:132 f7a-f7d:130 f7e f7f:s f80:130 f82-f83:230 f84:9 f86-f87:230
  f8d-fbc fc6:220 102b-102c:s 102d-1030 1031:s 1032-1036 1037:7 1038:s 1039-103a:9 103b-103c:s
  103d-103e 1056-1057:s 1058-1059 105e-1060 1062-1064:s 1067-106d:s 1071-1074 1082 1083-1084:s
  1085-1086 1087-108c:s 108d:220 108f:s 109a-109c:s 109d 135d-135f:230 1712-1713 1714:9 1715:s9
  1732-1733 1734:s9 1752-1753 1772-1773 17b6:s 17b7-17bd 17be-17c5:s 17c6 17c7-17c8:s 17c9-17d1
  17d2:9 17d3 17dd:230 1885-1886 18a9:228 1920-1922 1923-1926:s 1927-1928 1929-1931:s 1932
  1933-1938:s 1939:222 193a:230 193b:220 1a17:230 1a18:220 1a19-1a1a:s 1a1b 1a55:s 1a56 1a57:s
  1a58-1a5e 1a60:9 1a61:s 1a62 1a63-1a64:s 1a65-1a6c 1a6d-1a72:s 1a73-1a74 1a75-1a7c:230 1a7f:220
  1ab0-1ab4:230 1ab5-1aba:220 1abb-1abc:230 1abd:220 1abe 1abf-1ac0:220 1ac1-1ac2:230
  1ac3-1ac4:220 1ac5-1ac9:230 1aca:220 1acb-1adc:230 1add:220 1ade-1ae5:230 1ae6:220 1ae7-1aea:230
  1aeb:234 1aec-1af0:230 1b00-1b03 1b04:s 1b34:7 1b35:s 1b36-1b39 1b3a-1b43:s 1b44:s9 1b6b:230
  1b6c:220 1b6d-1b73:230 1b80-1b81 1b82:s 1ba1:s 1ba2-1ba5 1ba6-1ba7:s 1ba8-1ba9 1baa:s9 1bab:9
  1bac-1bad 1be6:7 1be7:s 1be8-1be9 1bea-1bec:s 1bed 1bee:s 1bef-1bf1 1bf2-1bf3:s9 1c24-1c2b:s
  1c2c-1c33 1c34-1c35:s 1c36 1c37:7 1cd0-1cd2:230 1cd4:1 1cd5-1cd9:220 1cda-1cdb:230 1cdc-1cdf:220
  1ce0:230 1ce1:s 1ce2-1ce8:1 1ced:220 1cf4:230 1cf7:s 1cf8-1cf9:230 1dc0-1dc1:230 1dc2:220
  1dc3-1dc9:230 1dca:220 1dcb-1dcc:230 1dcd:234 1dce:214 1dcf:220 1dd0:202 1dd1-1df5:230 1df6:232
  1df7-1df8:228 1df9:220 1dfa:218 1dfb:230 1dfc:233 1dfd:220 1dfe:230 1dff:220 20d0-20d1:230
  20d2-20d3:1 20d4-20d7:230 20d8-20da:1 20db-20dc:230 20dd-20e0 20e1:230 20e2-20e4 20e5-20e6:1
  20e7:230 20e8:220 20e9:230 20ea-20eb:1 20ec-20ef:220 20f0:230 2cef-2cf1:230 2d7f:9 2de0-2dff:230
  302a:218 302b:228 302c:232 302d:222 302e-302f:s224 3099-309a:8 a66f:230 a670-a672 a674-a67d:230
  a69e-a69f:230 a6f0-a6f1:230 a802 a806:9 a80b a823-a824:s a825-a826 a827:s a82c:9 a880-a881:s
  a8b4-a8c3:s a8c4:9 a8c5 a8e0-a8f1:230 a8ff a926-a92a a92b-a92d:220 a947-a951 a952:s a953:s9
  a980-a982 a983:s a9b3:7 a9b4-a9b5:s a9b6-a9b9 a9ba-a9bb:s a9bc-a9bd a9be-a9bf:s a9c0:s9 a9e5
  aa29-aa2e aa2f-aa30:s aa31-aa32 aa33-aa34:s aa35-aa36 aa43 aa4c aa4d:s aa7b:s aa7c aa7d:s
  aab0:230 aab2-aab3:230 aab4:220 aab7-aab8:230 aabe-aabf:230 aac1:230 aaeb:s aaec-aaed
  aaee-aaef:s aaf5:s aaf6:9 abe3-abe4:s abe5 abe6-abe7:s abe8 abe9-abea:s abec:s abed:9 fb1e:26
  fe20-fe26:230 fe27-fe2d:220 fe2e-fe2f:230 101fd:220 102e0:220 10376-1037a:230 10a01-10a0c
  10a0d:220 10a0e 10a0f:230 10a38:230 10a39:1 10a3a:220 10a3f:9 10ae5:230 10ae6:220
  10d24-10d27:230 10d69-10d6d:230 10eab-10eac:230 10ef0-10ef9:230 10efa-10efb:220 10efc
  10efd-10eff:220 10f46-10f47:220 10f48-10f4a:230 10f4b:220 10f4c:230 10f4d-10f50:220 10f82:230
  10f83:220 10f84:230 10f85:220 11000:s 11001 11002:s 11038-11045 11046:9 11070:9 11073-11074
  1107f:9 11080-11081 11082:s 110b0-110b2:s 110b3-110b6 110b7-110b8:s 110b9:9 110ba:7 110c2
  11100-11102:230 11127-1112b 1112c:s 1112d-11132 11133-11134:9 11145-11146:s 11173:7 11180-11181
  11182:s 111b3-111b5:s 111b6-111be 111bf:s 111c0:s9 111c9 111ca:7 111cb-111cc 111ce:s 111cf
  1122c-1122e:s 1122f-11231 11232-11233:s 11234 11235:s9 11236:7 11237 1123e 11241 112df
  112e0-112e2:s 112e3-112e8 112e9:7 112ea:9 11300-11301 11302-11303:s 1133b-1133c:7 1133e-1133f:s
  11340 11341-1134c:s 1134d:s9 11357:s 11362-11363:s 11366-11374:230 113b8-113ba:s 113bb-113c0
  113c2-113cd:s 113ce:9 113cf:s9 113d0:9 113d2 113e1-113e2 11435-11437:s 11438-1143f 11440-11441:s
  11442:9 11443-11444 11445:s 11446:7 1145e:230 114b0-114b2:s 114b3-114b8 114b9:s 114ba
  114bb-114be:s 114bf-114c0 114c1:s 114c2:9 114c3:7 115af-115b1:s 115b2-115b5 115b8-115bb:s
  115bc-115bd 115be:s 115bf:9 115c0:7 115dc-115dd 11630-11632:s 11633-1163a 1163b-1163c:s 1163d
  1163e:s 1163f:9 11640 116ab 116ac:s 116ad 116ae-116af:s 116b0-116b5 116b6:s9 116b7:7 1171d
  1171e:s 1171f 11720-11721:s 11722-11725 11726:s 11727-1172a 1172b:9 1182c-1182e:s 1182f-11837
  11838:s 11839:9 1183a:7 11930-11938:s 1193b-1193c 1193d:s9 1193e:9 11940:s 11942:s 11943:7
  119d1-119d3:s 119d4-119db 119dc-119df:s 119e0:9 119e4:s 11a01-11a0a 11a33 11a34:9 11a35-11a38
  11a39:s 11a3b-11a3e 11a47:9 11a51-11a56 11a57-11a58:s 11a59-11a5b 11a8a-11a96 11a97:s 11a98
  11a99:9 11b60 11b61:s 11b62-11b64 11b65:s 11b66 11b67:s 11c2f:s 11c30-11c3d 11c3e:s 11c3f:9
  11c92-11ca7 11ca9:s 11caa-11cb0 11cb1:s 11cb2-11cb3 11cb4:s 11cb5-11cb6 11d31-11d41 11d42:7
  11d43 11d44-11d45:9 11d47 11d8a-11d8e:s 11d90-11d91 11d93-11d94:s 11d95 11d96:s 11d97:9
  11ef3-11ef4 11ef5-11ef6:s 11f00-11f01 11f03:s 11f34-11f35:s 11f36-11f3a 11f3e-11f3f:s 11f40
  11f41:s9 11f42:9 11f5a 13440 13447-13455 1611e-16129 1612a-1612c:s 1612d-1612e 1612f:9
  16af0-16af4:1 16b30-16b36:230 16f4f 16f51-16f87:s 16f8f-16f92 16fe4 16ff0-16ff1:s6 1bc9d 1bc9e:1
  1cf00-1cf46 1d165-1d166:s216 1d167-1d169:1 1d16d:s226 1d16e-1d172:s216 1d17b-1d182:220
  1d185-1d189:230 1d18a-1d18b:220 1d1aa-1d1ad:230 1d242-1d244:230 1d250:230 1da00-1da36
  1da3b-1da6c 1da75 1da84 1da9b-1daaf 1e000-1e08f:230 1e130-1e136:230 1e2ae:230 1e2ec-1e2ef:230
  1e4ec-1e4ed:232 1e4ee:220 1e4ef:230 1e5ee:230 1e5ef:220 1e6e3:230 1e6e6:230 1e6ee-1e6ef:230
  1e6f5:230 1e8d0-1e8d6:220 1e944-1e949:230 1e94a:7"

/-- The combining class of viramas. -/
def virama : Nat :=
  9

end Mark

/-- What kind of mark a character is, if it is one. -/
def mark? (c : Char) : Option Mark :=
  (Mark.table.find? c).map (·.value)

/-- The combining class of a character, zero for those that do not combine. -/
def combiningClass (c : Char) : Nat :=
  if c.toNat < 0x300 then 0 else (mark? c).elim 0 (·.combiningClass)

/-- Whether a character is a mark. -/
def isMark (c : Char) : Bool :=
  (mark? c).isSome

/-- Whether a character is a mark that takes up no space. -/
def isNonspacing (c : Char) : Bool :=
  (mark? c).any fun m ↦ !m.isSpacing

end Telemetry.Text
