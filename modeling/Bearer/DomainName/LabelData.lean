import Bearer.Text.Table

/-! Code points of internationalized domain names. -/

namespace Bearer.DomainName

open Text (Run)

/-- The characters that a label may hold anywhere. -/
def validRuns : List Run := Run.read [
  "2d 30-39 61-7a df-f6 f8-ff 101-131/2 135 137-138 13a-13e/2 142-148/2 14b-177/2 17a-180/2 183",
  "185 188 18c-18d 192 195 199-19b 19e 1a1-1a5/2 1a8 1aa-1ab 1ad 1b0 1b4 1b6 1b9-1bb 1bd-1c3",
  "1ce-1dc/2 1dd-1ef/2 1f0 1f5 1f9-233/2 234-239 23c 23f-240 242 247-24f/2 250-2af 2b9-2c1",
  "2c6-2d1 2ec 2ee 300-33f 342 346-34e 350-36f 371 373 377 37b-37d 390 3ac-3ce 3d7-3ef/2 3f3",
  "3f8 3fb-3fc 430-45f 461-483/2 484-487 48b-4bf/2 4c2-4ce/2 4cf-52f/2 559 560-586 588 591-5bd",
  "5bf 5c1-5c2 5c4-5c5 5c7 5d0-5ea 5ef-5f2 610-61a 620-63f 641-65f 66e-674 679-6d3 6d5-6dc",
  "6df-6e8 6ea-6ef 6fa-6ff 710-74a 74d-7b1 7c0-7f5 7fd 800-82d 840-85b 860-86a 870-887 889-88f",
  "897-8e1 8e3-957 960-963 966-96f 971-983 985-98c 98f-990 993-9a8 9aa-9b0 9b2 9b6-9b9 9bc-9c4",
  "9c7-9c8 9cb-9ce 9d7 9e0-9e3 9e6-9f1 9fc 9fe a01-a03 a05-a0a a0f-a10 a13-a28 a2a-a30 a32 a35",
  "a38-a39 a3c a3e-a42 a47-a48 a4b-a4d a51 a5c a66-a75 a81-a83 a85-a8d a8f-a91 a93-aa8 aaa-ab0",
  "ab2-ab3 ab5-ab9 abc-ac5 ac7-ac9 acb-acd ad0 ae0-ae3 ae6-aef af9-aff b01-b03 b05-b0c b0f-b10",
  "b13-b28 b2a-b30 b32-b33 b35-b39 b3c-b44 b47-b48 b4b-b4d b55-b57 b5f-b63 b66-b6f b71 b82-b83",
  "b85-b8a b8e-b90 b92-b95 b99-b9a b9c b9e-b9f ba3-ba4 ba8-baa bae-bb9 bbe-bc2 bc6-bc8 bca-bcd",
  "bd0 bd7 be6-bef c00-c0c c0e-c10 c12-c28 c2a-c39 c3c-c44 c46-c48 c4a-c4d c55-c56 c58-c5a",
  "c5c-c5d c60-c63 c66-c6f c80-c83 c85-c8c c8e-c90 c92-ca8 caa-cb3 cb5-cb9 cbc-cc4 cc6-cc8",
  "cca-ccd cd5-cd6 cdc-cde ce0-ce3 ce6-cef cf1-cf3 d00-d0c d0e-d10 d12-d44 d46-d48 d4a-d4e",
  "d54-d57 d5f-d63 d66-d6f d7a-d7f d81-d83 d85-d96 d9a-db1 db3-dbb dbd dc0-dc6 dca dcf-dd4 dd6",
  "dd8-ddf de6-def df2-df3 e01-e32 e34-e3a e40-e4e e50-e59 e81-e82 e84 e86-e8a e8c-ea3 ea5",
  "ea7-eb2 eb4-ebd ec0-ec4 ec6 ec8-ece ed0-ed9 ede-edf f00 f0b f18-f19 f20-f29 f35-f39/2",
  "f3e-f42 f44-f47 f49-f4c f4e-f51 f53-f56 f58-f5b f5d-f68 f6a-f6c f71-f72 f74 f7a-f80 f82-f84",
  "f86-f92 f94-f97 f99-f9c f9e-fa1 fa3-fa6 fa8-fab fad-fb8 fba-fbc fc6 1000-1049 1050-109d",
  "10d0-10fa 10fd-10ff 1200-1248 124a-124d 1250-1256 1258 125a-125d 1260-1288 128a-128d",
  "1290-12b0 12b2-12b5 12b8-12be 12c0 12c2-12c5 12c8-12d6 12d8-1310 1312-1315 1318-135a",
  "135d-135f 1380-138f 13a0-13f5 1401-166c 166f-167f 1681-169a 16a0-16ea 16f1-16f8 1700-1715",
  "171f-1734 1740-1753 1760-176c 176e-1770 1772-1773 1780-17b3 17b6-17d3 17d7 17dc-17dd",
  "17e0-17e9 1810-1819 1820-1878 1880-18aa 18b0-18f5 1900-191e 1920-192b 1930-193b 1946-196d",
  "1970-1974 1980-19ab 19b0-19c9 19d0-19d9 1a00-1a1b 1a20-1a5e 1a60-1a7c 1a7f-1a89 1a90-1a99",
  "1aa7 1ab0-1abd 1abf-1add 1ae0-1aeb 1b00-1b4c 1b50-1b59 1b6b-1b73 1b80-1bf3 1c00-1c37",
  "1c40-1c49 1c4d-1c7d 1c8a 1cd0-1cd2 1cd4-1cfa 1d00-1d2b 1d2f 1d3b 1d4e 1d6b-1d77 1d79-1d9a",
  "1dc0-1dff 1e01-1e95/2 1e96-1e99 1e9c-1e9d 1e9f-1eff/2 1f00-1f07 1f10-1f15 1f20-1f27",
  "1f30-1f37 1f40-1f45 1f50-1f57 1f60-1f67 1f70-1f7c/2 1fb0-1fb1 1fb6 1fc6 1fd0-1fd2 1fd6-1fd7",
  "1fe0-1fe2 1fe4-1fe7 1ff6 214e 2184 2c30-2c5f 2c61 2c65-2c66 2c68-2c6c/2 2c71 2c73-2c74",
  "2c76-2c7b 2c81-2ce3/2 2ce4 2cec 2cee-2cf1 2cf3 2d00-2d25 2d27 2d2d 2d30-2d67 2d7f-2d96",
  "2da0-2da6 2da8-2dae 2db0-2db6 2db8-2dbe 2dc0-2dc6 2dc8-2dce 2dd0-2dd6 2dd8-2dde 2de0-2dff",
  "2e2f 3005-3007 302a-302d 303c 3041-3096 3099-309a 309d-309e 30a1-30fa 30fc-30fe 3105-312f",
  "31a0-31bf 31f0-31ff 3400-4dbf 4e00-a48c a4d0-a4fd a500-a60c a610-a62b a641-a66d/2 a66e-a66f",
  "a674-a67d a67f-a69b/2 a69e-a6e5 a6f0-a6f1 a717-a71f a723-a72f/2 a730-a731 a733-a771/2",
  "a772-a778 a77a a77c a77f-a787/2 a788 a78c a78e-a78f a791 a793-a795 a797-a7a9/2 a7af",
  "a7b5-a7c3/2 a7c8 a7ca a7cd-a7db/2 a7f6-a7f7 a7fa-a827 a82c a840-a873 a880-a8c5 a8d0-a8d9",
  "a8e0-a8f7 a8fb a8fd-a92d a930-a953 a980-a9c0 a9cf-a9d9 a9e0-a9fe aa00-aa36 aa40-aa4d",
  "aa50-aa59 aa60-aa76 aa7a-aac2 aadb-aadd aae0-aaef aaf2-aaf6 ab01-ab06 ab09-ab0e ab11-ab16",
  "ab20-ab26 ab28-ab2e ab30-ab5a ab60-ab68 abc0-abea abec-abed abf0-abf9 ac00-d7a3 fa0e-fa0f",
  "fa11 fa13-fa14 fa1f-fa23/2 fa24 fa27-fa29 fb1e fe20-fe2f fe73 10000-1000b 1000d-10026",
  "10028-1003a 1003c-1003d 1003f-1004d 10050-1005d 10080-100fa 101fd 10280-1029c 102a0-102d0",
  "102e0 10300-1031f 1032d-10340 10342-10349 10350-1037a 10380-1039d 103a0-103c3 103c8-103cf",
  "10428-1049d 104a0-104a9 104d8-104fb 10500-10527 10530-10563 10597-105a1 105a3-105b1",
  "105b3-105b9 105bb-105bc 105c0-105f3 10600-10736 10740-10755 10760-10767 10780 10800-10805",
  "10808 1080a-10835 10837-10838 1083c 1083f-10855 10860-10876 10880-1089e 108e0-108f2",
  "108f4-108f5 10900-10915 10920-10939 10940-10959 10980-109b7 109be-109bf 10a00-10a03",
  "10a05-10a06 10a0c-10a13 10a15-10a17 10a19-10a35 10a38-10a3a 10a3f 10a60-10a7c 10a80-10a9c",
  "10ac0-10ac7 10ac9-10ae6 10b00-10b35 10b40-10b55 10b60-10b72 10b80-10b91 10c00-10c48",
  "10cc0-10cf2 10d00-10d27 10d30-10d39 10d40-10d4f 10d69-10d6d 10d6f-10d85 10e80-10ea9",
  "10eab-10eac 10eb0-10eb1 10ec2-10ec7 10efa-10f1c 10f27 10f30-10f50 10f70-10f85 10fb0-10fc4",
  "10fe0-10ff6 11000-11046 11066-11075 1107f-110ba 110c2 110d0-110e8 110f0-110f9 11100-11134",
  "11136-1113f 11144-11147 11150-11173 11176 11180-111c4 111c9-111cc 111ce-111da 111dc",
  "11200-11211 11213-11237 1123e-11241 11280-11286 11288 1128a-1128d 1128f-1129d 1129f-112a8",
  "112b0-112ea 112f0-112f9 11300-11303 11305-1130c 1130f-11310 11313-11328 1132a-11330",
  "11332-11333 11335-11339 1133b-11344 11347-11348 1134b-1134d 11350 11357 1135d-11363",
  "11366-1136c 11370-11374 11380-11389 1138b 1138e 11390-113b5 113b7-113c0 113c2 113c5",
  "113c7-113ca 113cc-113d3 113e1-113e2 11400-1144a 11450-11459 1145e-11461 11480-114c5 114c7",
  "114d0-114d9 11580-115b5 115b8-115c0 115d8-115dd 11600-11640 11644 11650-11659 11680-116b8",
  "116c0-116c9 116d0-116e3 11700-1171a 1171d-1172b 11730-11739 11740-11746 11800-1183a",
  "118c0-118e9 118ff-11906 11909 1190c-11913 11915-11916 11918-11935 11937-11938 1193b-11943",
  "11950-11959 119a0-119a7 119aa-119d7 119da-119e1 119e3-119e4 11a00-11a3e 11a47 11a50-11a99",
  "11a9d 11ab0-11af8 11b60-11b67 11bc0-11be0 11bf0-11bf9 11c00-11c08 11c0a-11c36 11c38-11c40",
  "11c50-11c59 11c72-11c8f 11c92-11ca7 11ca9-11cb6 11d00-11d06 11d08-11d09 11d0b-11d36 11d3a",
  "11d3c-11d3d 11d3f-11d47 11d50-11d59 11d60-11d65 11d67-11d68 11d6a-11d8e 11d90-11d91",
  "11d93-11d98 11da0-11da9 11db0-11ddb 11de0-11de9 11ee0-11ef6 11f00-11f10 11f12-11f3a",
  "11f3e-11f42 11f50-11f5a 11fb0 12000-12399 12480-12543 12f90-12ff0 13000-1342f 13440-13455",
  "13460-143fa 14400-14646 16100-16139 16800-16a38 16a40-16a5e 16a60-16a69 16a70-16abe",
  "16ac0-16ac9 16ad0-16aed 16af0-16af4 16b00-16b36 16b40-16b43 16b50-16b59 16b63-16b77",
  "16b7d-16b8f 16d40-16d6c 16d70-16d79 16e60-16e7f 16ebb-16ed3 16f00-16f4a 16f4f-16f87",
  "16f8f-16f9f 16fe0-16fe1 16fe3-16fe4 16ff0-16ff3 17000-18cd5 18cff-18d1e 18d80-18df2",
  "1aff0-1aff3 1aff5-1affb 1affd-1affe 1b000-1b122 1b132 1b150-1b152 1b155 1b164-1b167",
  "1b170-1b2fb 1bc00-1bc6a 1bc70-1bc7c 1bc80-1bc88 1bc90-1bc99 1bc9d-1bc9e 1cf00-1cf2d",
  "1cf30-1cf46 1da00-1da36 1da3b-1da6c 1da75 1da84 1da9b-1da9f 1daa1-1daaf 1df00-1df1e",
  "1df25-1df2a 1e000-1e006 1e008-1e018 1e01b-1e021 1e023-1e024 1e026-1e02a 1e08f 1e100-1e12c",
  "1e130-1e13d 1e140-1e149 1e14e 1e290-1e2ae 1e2c0-1e2f9 1e4d0-1e4f9 1e5d0-1e5fa 1e6c0-1e6de",
  "1e6e0-1e6f5 1e6fe-1e6ff 1e7e0-1e7e6 1e7e8-1e7eb 1e7ed-1e7ee 1e7f0-1e7fe 1e800-1e8c4",
  "1e8d0-1e8d6 1e922-1e94b 1e950-1e959 20000-2a6df 2a700-2b81d 2b820-2cead 2ceb0-2ebe0",
  "2ebf0-2ee5d 30000-3134a 31350-33479"]

def markRuns : List Run := Run.read [
  "300-36f 483-489 591-5bd 5bf 5c1-5c2 5c4-5c5 5c7 610-61a 64b-65f 670 6d6-6dc 6df-6e4 6e7-6e8",
  "6ea-6ed 711 730-74a 7a6-7b0 7eb-7f3 7fd 816-819 81b-823 825-827 829-82d 859-85b 898-89f",
  "8ca-8e1 8e3-903 93a-93c 93e-94f 951-957 962-963 981-983 9bc 9be-9c4 9c7-9c8 9cb-9cd 9d7",
  "9e2-9e3 9fe a01-a03 a3c a3e-a42 a47-a48 a4b-a4d a51 a70-a71 a75 a81-a83 abc abe-ac5 ac7-ac9",
  "acb-acd ae2-ae3 afa-aff b01-b03 b3c b3e-b44 b47-b48 b4b-b4d b55-b57 b62-b63 b82 bbe-bc2",
  "bc6-bc8 bca-bcd bd7 c00-c04 c3c c3e-c44 c46-c48 c4a-c4d c55-c56 c62-c63 c81-c83 cbc cbe-cc4",
  "cc6-cc8 cca-ccd cd5-cd6 ce2-ce3 d00-d03 d3b-d3c d3e-d44 d46-d48 d4a-d4d d57 d62-d63 d81-d83",
  "dca dcf-dd4 dd6 dd8-ddf df2-df3 e31 e34-e3a e47-e4e eb1 eb4-ebc ec8-ecd f18-f19 f35-f39/2",
  "f3e-f3f f71-f84 f86-f87 f8d-f97 f99-fbc fc6 102b-103e 1056-1059 105e-1060 1062-1064",
  "1067-106d 1071-1074 1082-108d 108f 109a-109d 135d-135f 1712-1715 1732-1734 1752-1753",
  "1772-1773 17b4-17d3 17dd 180b-180d 180f 1885-1886 18a9 1920-192b 1930-193b 1a17-1a1b",
  "1a55-1a5e 1a60-1a7c 1a7f 1ab0-1ace 1b00-1b04 1b34-1b44 1b6b-1b73 1b80-1b82 1ba1-1bad",
  "1be6-1bf3 1c24-1c37 1cd0-1cd2 1cd4-1ce8 1ced 1cf4 1cf7-1cf9 1dc0-1dff 20d0-20f0 2cef-2cf1",
  "2d7f 2de0-2dff 302a-302f 3099-309a a66f-a672 a674-a67d a69e-a69f a6f0-a6f1 a802 a806 a80b",
  "a823-a827 a82c a880-a881 a8b4-a8c5 a8e0-a8f1 a8ff a926-a92d a947-a953 a980-a983 a9b3-a9c0",
  "a9e5 aa29-aa36 aa43 aa4c-aa4d aa7b-aa7d aab0 aab2-aab4 aab7-aab8 aabe-aabf aac1 aaeb-aaef",
  "aaf5-aaf6 abe3-abea abec-abed fb1e fe00-fe0f fe20-fe2f 101fd 102e0 10376-1037a 10a01-10a03",
  "10a05-10a06 10a0c-10a0f 10a38-10a3a 10a3f 10ae5-10ae6 10d24-10d27 10eab-10eac 10f46-10f50",
  "10f82-10f85 11000-11002 11038-11046 11070 11073-11074 1107f-11082 110b0-110ba 110c2",
  "11100-11102 11127-11134 11145-11146 11173 11180-11182 111b3-111c0 111c9-111cc 111ce-111cf",
  "1122c-11237 1123e 112df-112ea 11300-11303 1133b-1133c 1133e-11344 11347-11348 1134b-1134d",
  "11357 11362-11363 11366-1136c 11370-11374 11435-11446 1145e 114b0-114c3 115af-115b5",
  "115b8-115c0 115dc-115dd 11630-11640 116ab-116b7 1171d-1172b 1182c-1183a 11930-11935",
  "11937-11938 1193b-1193e 11940 11942-11943 119d1-119d7 119da-119e0 119e4 11a01-11a0a",
  "11a33-11a39 11a3b-11a3e 11a47 11a51-11a5b 11a8a-11a99 11c2f-11c36 11c38-11c3f 11c92-11ca7",
  "11ca9-11cb6 11d31-11d36 11d3a 11d3c-11d3d 11d3f-11d45 11d47 11d8a-11d8e 11d90-11d91",
  "11d93-11d97 11ef3-11ef6 16af0-16af4 16b30-16b36 16f4f 16f51-16f87 16f8f-16f92 16fe4",
  "16ff0-16ff1 1bc9d-1bc9e 1cf00-1cf2d 1cf30-1cf46 1d165-1d169 1d16d-1d172 1d17b-1d182",
  "1d185-1d18b 1d1aa-1d1ad 1d242-1d244 1da00-1da36 1da3b-1da6c 1da75 1da84 1da9b-1da9f",
  "1daa1-1daaf 1e000-1e006 1e008-1e018 1e01b-1e021 1e023-1e024 1e026-1e02a 1e130-1e136 1e2ae",
  "1e2ec-1e2ef 1e8d0-1e8d6 1e944-1e94a e0100-e01ef"]

/-- The joining types: 1 for right, 2 for left, 3 for both, 4 for transparent, 5 for causing. -/
def joiningRuns : List Run := Run.read [
  "ad:4 300-36f:4 483-489:4 591-5bd:4 5bf:4 5c1-5c2:4 5c4-5c5:4 5c7:4 610-61a:4 61c:4 620:3",
  "622-625:1 626:3 627:1 628:3 629:1 62a-62e:3 62f-632:1 633-63f:3 640:5 641-647:3 648:1",
  "649-64a:3 64b-65f:4 66e-66f:3 670:4 671-673:1 675-677:1 678-687:3 688-699:1 69a-6bf:3 6c0:1",
  "6c1-6c2:3 6c3-6cb:1 6cc:3 6cd:1 6ce:3 6cf:1 6d0-6d1:3 6d2-6d3:1 6d5:1 6d6-6dc:4 6df-6e4:4",
  "6e7-6e8:4 6ea-6ed:4 6ee-6ef:1 6fa-6fc:3 6ff:3 70f:4 710:1 711:4 712-714:3 715-719:1",
  "71a-71d:3 71e:1 71f-727:3 728:1 729:3 72a:1 72b:3 72c:1 72d-72e:3 72f:1 730-74a:4 74d:1",
  "74e-758:3 759-75b:1 75c-76a:3 76b-76c:1 76d-770:3 771:1 772:3 773-774:1 775-777:3 778-779:1",
  "77a-77f:3 7a6-7b0:4 7ca-7ea:3 7eb-7f3:4 7fa:5 7fd:4 816-819:4 81b-823:4 825-827:4 829-82d:4",
  "840:1 841-845:3 846-847:1 848:3 849:1 84a-853:3 854:1 855:3 856-858:1 859-85b:4 860:3",
  "862-865:3 867:1 868:3 869-86a:1 870-882:1 883-885:5 886:3 889-88d:3 88e:1 88f:3 897-89f:4",
  "8a0-8a9:3 8aa-8ac:1 8ae:1 8af-8b0:3 8b1-8b2:1 8b3-8b8:3 8b9:1 8ba-8c8:3 8ca-8e1:4 8e3-902:4",
  "93a:4 93c:4 941-948:4 94d:4 951-957:4 962-963:4 981:4 9bc:4 9c1-9c4:4 9cd:4 9e2-9e3:4 9fe:4",
  "a01-a02:4 a3c:4 a41-a42:4 a47-a48:4 a4b-a4d:4 a51:4 a70-a71:4 a75:4 a81-a82:4 abc:4",
  "ac1-ac5:4 ac7-ac8:4 acd:4 ae2-ae3:4 afa-aff:4 b01:4 b3c:4 b3f:4 b41-b44:4 b4d:4 b55-b56:4",
  "b62-b63:4 b82:4 bc0:4 bcd:4 c00:4 c04:4 c3c:4 c3e-c40:4 c46-c48:4 c4a-c4d:4 c55-c56:4",
  "c62-c63:4 c81:4 cbc:4 cbf:4 cc6:4 ccc-ccd:4 ce2-ce3:4 d00-d01:4 d3b-d3c:4 d41-d44:4 d4d:4",
  "d62-d63:4 d81:4 dca:4 dd2-dd4:4 dd6:4 e31:4 e34-e3a:4 e47-e4e:4 eb1:4 eb4-ebc:4 ec8-ece:4",
  "f18-f19:4 f35-f39/2:4 f71-f7e:4 f80-f84:4 f86-f87:4 f8d-f97:4 f99-fbc:4 fc6:4 102d-1030:4",
  "1032-1037:4 1039-103a:4 103d-103e:4 1058-1059:4 105e-1060:4 1071-1074:4 1082:4 1085-1086:4",
  "108d:4 109d:4 135d-135f:4 1712-1714:4 1732-1733:4 1752-1753:4 1772-1773:4 17b4-17b5:4",
  "17b7-17bd:4 17c6:4 17c9-17d3:4 17dd:4 1807:3 180a:5 180b-180d:4 180f:4 1820-1878:3",
  "1885-1886:4 1887-18a8:3 18a9:4 18aa:3 1920-1922:4 1927-1928:4 1932:4 1939-193b:4 1a17-1a18:4",
  "1a1b:4 1a56:4 1a58-1a5e:4 1a60:4 1a62:4 1a65-1a6c:4 1a73-1a7c:4 1a7f:4 1ab0-1add:4",
  "1ae0-1aeb:4 1b00-1b03:4 1b34:4 1b36-1b3a:4 1b3c:4 1b42:4 1b6b-1b73:4 1b80-1b81:4 1ba2-1ba5:4",
  "1ba8-1ba9:4 1bab-1bad:4 1be6:4 1be8-1be9:4 1bed:4 1bef-1bf1:4 1c2c-1c33:4 1c36-1c37:4",
  "1cd0-1cd2:4 1cd4-1ce0:4 1ce2-1ce8:4 1ced:4 1cf4:4 1cf8-1cf9:4 1dc0-1dff:4 200b:4 200d:5",
  "200e-200f:4 202a-202e:4 2060-2064:4 206a-206f:4 20d0-20f0:4 2cef-2cf1:4 2d7f:4 2de0-2dff:4",
  "302a-302d:4 3099-309a:4 a66f-a672:4 a674-a67d:4 a69e-a69f:4 a6f0-a6f1:4 a802:4 a806:4 a80b:4",
  "a825-a826:4 a82c:4 a840-a871:3 a872:2 a8c4-a8c5:4 a8e0-a8f1:4 a8ff:4 a926-a92d:4 a947-a951:4",
  "a980-a982:4 a9b3:4 a9b6-a9b9:4 a9bc-a9bd:4 a9e5:4 aa29-aa2e:4 aa31-aa32:4 aa35-aa36:4 aa43:4",
  "aa4c:4 aa7c:4 aab0:4 aab2-aab4:4 aab7-aab8:4 aabe-aabf:4 aac1:4 aaec-aaed:4 aaf6:4 abe5:4",
  "abe8:4 abed:4 fb1e:4 fe00-fe0f:4 fe20-fe2f:4 feff:4 fff9-fffb:4 101fd:4 102e0:4",
  "10376-1037a:4 10a01-10a03:4 10a05-10a06:4 10a0c-10a0f:4 10a38-10a3a:4 10a3f:4 10ac0-10ac4:3",
  "10ac5-10ac9/2:1 10aca:1 10acd:2 10ace-10ad2:1 10ad3-10ad6:3 10ad7:2 10ad8-10adc:3 10add:1",
  "10ade-10ae0:3 10ae1:1 10ae4:1 10ae5-10ae6:4 10aeb-10aee:3 10aef:1 10b80:3 10b81:1 10b82:3",
  "10b83-10b85:1 10b86-10b88:3 10b89:1 10b8a-10b8b:3 10b8c:1 10b8d:3 10b8e-10b8f:1 10b90:3",
  "10b91:1 10ba9-10bac:1 10bad-10bae:3 10d00:2 10d01-10d21:3 10d22:1 10d23:3 10d24-10d27:4",
  "10d69-10d6d:4 10eab-10eac:4 10ec2:1 10ec3-10ec4:3 10ec6-10ec7:3 10efa-10eff:4 10f30-10f32:3",
  "10f33:1 10f34-10f44:3 10f46-10f50:4 10f51-10f53:3 10f54:1 10f70-10f73:3 10f74-10f75:1",
  "10f76-10f81:3 10f82-10f85:4 10fb0:3 10fb2-10fb3:3 10fb4-10fb6:1 10fb8:3 10fb9-10fba:1",
  "10fbb-10fbc:3 10fbd:1 10fbe-10fbf:3 10fc1:3 10fc2-10fc3:1 10fc4:3 10fc9:1 10fca:3 10fcb:2",
  "11001:4 11038-11046:4 11070:4 11073-11074:4 1107f-11081:4 110b3-110b6:4 110b9-110ba:4",
  "110c2:4 11100-11102:4 11127-1112b:4 1112d-11134:4 11173:4 11180-11181:4 111b6-111be:4",
  "111c9-111cc:4 111cf:4 1122f-11231:4 11234:4 11236-11237:4 1123e:4 11241:4 112df:4",
  "112e3-112ea:4 11300-11301:4 1133b-1133c:4 11340:4 11366-1136c:4 11370-11374:4 113bb-113c0:4",
  "113ce-113d2/2:4 113e1-113e2:4 11438-1143f:4 11442-11444:4 11446:4 1145e:4 114b3-114b8:4",
  "114ba:4 114bf-114c0:4 114c2-114c3:4 115b2-115b5:4 115bc-115bd:4 115bf-115c0:4 115dc-115dd:4",
  "11633-1163a:4 1163d:4 1163f-11640:4 116ab:4 116ad:4 116b0-116b5:4 116b7:4 1171d:4 1171f:4",
  "11722-11725:4 11727-1172b:4 1182f-11837:4 11839-1183a:4 1193b-1193c:4 1193e:4 11943:4",
  "119d4-119d7:4 119da-119db:4 119e0:4 11a01-11a0a:4 11a33-11a38:4 11a3b-11a3e:4 11a47:4",
  "11a51-11a56:4 11a59-11a5b:4 11a8a-11a96:4 11a98-11a99:4 11b60:4 11b62-11b64:4 11b66:4",
  "11c30-11c36:4 11c38-11c3d:4 11c3f:4 11c92-11ca7:4 11caa-11cb0:4 11cb2-11cb3:4 11cb5-11cb6:4",
  "11d31-11d36:4 11d3a:4 11d3c-11d3d:4 11d3f-11d45:4 11d47:4 11d90-11d91:4 11d95:4 11d97:4",
  "11ef3-11ef4:4 11f00-11f01:4 11f36-11f3a:4 11f40:4 11f42:4 11f5a:4 13430-13440:4",
  "13447-13455:4 1611e-16129:4 1612d-1612f:4 16af0-16af4:4 16b30-16b36:4 16f4f:4 16f8f-16f92:4",
  "16fe4:4 1bc9d-1bc9e:4 1bca0-1bca3:4 1cf00-1cf2d:4 1cf30-1cf46:4 1d167-1d169:4 1d173-1d182:4",
  "1d185-1d18b:4 1d1aa-1d1ad:4 1d242-1d244:4 1da00-1da36:4 1da3b-1da6c:4 1da75:4 1da84:4",
  "1da9b-1da9f:4 1daa1-1daaf:4 1e000-1e006:4 1e008-1e018:4 1e01b-1e021:4 1e023-1e024:4",
  "1e026-1e02a:4 1e08f:4 1e130-1e136:4 1e2ae:4 1e2ec-1e2ef:4 1e4ec-1e4ef:4 1e5ee-1e5ef:4",
  "1e6e3:4 1e6e6:4 1e6ee-1e6ef:4 1e6f5:4 1e8d0-1e8d6:4 1e900-1e943:3 1e944-1e94b:4 e0001:4",
  "e0020-e007f:4 e0100-e01ef:4"]

/-- Some scripts: 1 for Greek, 2 for Hebrew, 3 for Hiragana, 4 for Katakana, 5 for Han. -/
def scriptRuns : List Run := Run.read [
  "370-373:1 375-377:1 37a-37d:1 37f:1 384-388/2:1 389-38a:1 38c:1 38e-3a1:1 3a3-3e1:1",
  "3f0-3ff:1 591-5c7:2 5d0-5ea:2 5ef-5f4:2 1d26-1d2a:1 1d5d-1d61:1 1d66-1d6a:1 1dbf:1",
  "1f00-1f15:1 1f18-1f1d:1 1f20-1f45:1 1f48-1f4d:1 1f50-1f57:1 1f59-1f5f/2:1 1f60-1f7d:1",
  "1f80-1fb4:1 1fb6-1fc4:1 1fc6-1fd3:1 1fd6-1fdb:1 1fdd-1fef:1 1ff2-1ff4:1 1ff6-1ffe:1 2126:1",
  "2e80-2e99:5 2e9b-2ef3:5 2f00-2fd5:5 3005:5 3007:5 3021-3029:5 3038-303b:5 3041-3096:3",
  "309d-309f:3 30a1-30fa:4 30fd-30ff:4 31f0-31ff:4 32d0-32fe:4 3300-3357:4 3400-4dbf:5",
  "4e00-9fff:5 ab65:1 f900-fa6d:5 fa70-fad9:5 fb1d-fb36:2 fb38-fb3c:2 fb3e:2 fb40-fb41:2",
  "fb43-fb44:2 fb46-fb4f:2 ff66-ff6f:4 ff71-ff9d:4 10140-1018e:1 101a0:1 16fe2-16fe3:5",
  "16ff0-16ff6:5 1aff0-1aff3:4 1aff5-1affb:4 1affd-1affe:4 1b000:4 1b001-1b11f:3 1b120-1b122:4",
  "1b132:3 1b150-1b152:3 1b155:4 1b164-1b167:4 1d200-1d245:1 1f200:3 20000-2a6df:5",
  "2a700-2b81d:5 2b820-2cead:5 2ceb0-2ebe0:5 2ebf0-2ee5d:5 2f800-2fa1d:5 30000-3134a:5",
  "31350-33479:5"]

/-- The directions, of the characters in labels, that are not left to right: 1 for right to left, 2 for
Arabic letters, 3 for Arabic and 4 for European numbers, 5 for their separators, 6 for common
separators, 7 for terminators, 8 for neutrals, 9 for boundaries, 10 for marks, 11 for others. -/
def directionRuns : List Run := Run.read [
  "2d:5 30-39:4 b7:8 2b9-2ba:8 2c6-2cf:8 2ec:8 300-33f:a 342:a 346-34e:a 350-36f:a 375:8",
  "483-487:a 591-5bd:a 5bf:a 5c1-5c2:a 5c4-5c5:a 5c7:a 5d0-5ea:1 5ef-5f4:1 610-61a:a 620-63f:2",
  "641-64a:2 64b-65f:a 660-669:3 66e-66f:2 670:a 671-674:2 679-6d3:2 6d5:2 6d6-6dc:a 6df-6e4:a",
  "6e5-6e6:2 6e7-6e8:a 6ea-6ed:a 6ee-6ef:2 6f0-6f9:4 6fa-6ff:2 710:2 711:a 712-72f:2 730-74a:a",
  "74d-7a5:2 7a6-7b0:a 7b1:2 7c0-7ea:1 7eb-7f3:a 7f4-7f5:1 7fd:a 800-815:1 816-819:a 81a:1",
  "81b-823:a 824:1 825-827:a 828:1 829-82d:a 840-858:1 859-85b:a 860-86a:2 870-887:2 889-88e:2",
  "898-89f:a 8a0-8c9:2 8ca-8e1:a 8e3-902:a 93a:a 93c:a 941-948:a 94d:a 951-957:a 962-963:a",
  "981:a 9bc:a 9c1-9c4:a 9cd:a 9e2-9e3:a 9fe:a a01-a02:a a3c:a a41-a42:a a47-a48:a a4b-a4d:a",
  "a51:a a70-a71:a a75:a a81-a82:a abc:a ac1-ac5:a ac7-ac8:a acd:a ae2-ae3:a afa-aff:a b01:a",
  "b3c:a b3f:a b41-b44:a b4d:a b55-b56:a b62-b63:a b82:a bc0:a bcd:a c00:a c04:a c3c:a",
  "c3e-c40:a c46-c48:a c4a-c4d:a c55-c56:a c62-c63:a c81:a cbc:a ccc-ccd:a ce2-ce3:a d00-d01:a",
  "d3b-d3c:a d41-d44:a d4d:a d62-d63:a d81:a dca:a dd2-dd4:a dd6:a e31:a e34-e3a:a e47-e4e:a",
  "eb1:a eb4-ebc:a ec8-ecd:a f18-f19:a f35-f39/2:a f71-f72:a f74:a f7a-f7e:a f80:a f82-f84:a",
  "f86-f87:a f8d-f92:a f94-f97:a f99-f9c:a f9e-fa1:a fa3-fa6:a fa8-fab:a fad-fb8:a fba-fbc:a",
  "fc6:a 102d-1030:a 1032-1037:a 1039-103a:a 103d-103e:a 1058-1059:a 105e-1060:a 1071-1074:a",
  "1082:a 1085-1086:a 108d:a 109d:a 135d-135f:a 1712-1714:a 1732-1733:a 1752-1753:a 1772-1773:a",
  "17b7-17bd:a 17c6:a 17c9-17d3:a 17dd:a 1885-1886:a 18a9:a 1920-1922:a 1927-1928:a 1932:a",
  "1939-193b:a 1a17-1a18:a 1a1b:a 1a56:a 1a58-1a5e:a 1a60:a 1a62:a 1a65-1a6c:a 1a73-1a7c:a",
  "1a7f:a 1ab0-1abd:a 1abf-1ace:a 1b00-1b03:a 1b34:a 1b36-1b3a:a 1b3c:a 1b42:a 1b6b-1b73:a",
  "1b80-1b81:a 1ba2-1ba5:a 1ba8-1ba9:a 1bab-1bad:a 1be6:a 1be8-1be9:a 1bed:a 1bef-1bf1:a",
  "1c2c-1c33:a 1c36-1c37:a 1cd0-1cd2:a 1cd4-1ce0:a 1ce2-1ce8:a 1ced:a 1cf4:a 1cf8-1cf9:a",
  "1dc0-1dff:a 200c-200d:9 2cef-2cf1:a 2d7f:a 2de0-2dff:a 2e2f:8 302a-302d:a 3099-309a:a 30fb:8",
  "a66f:a a674-a67d:a a67f:8 a69e-a69f:a a6f0-a6f1:a a717-a71f:8 a788:8 a802:a a806:a a80b:a",
  "a825-a826:a a82c:a a8c4-a8c5:a a8e0-a8f1:a a8ff:a a926-a92d:a a947-a951:a a980-a982:a a9b3:a",
  "a9b6-a9b9:a a9bc-a9bd:a a9e5:a aa29-aa2e:a aa31-aa32:a aa35-aa36:a aa43:a aa4c:a aa7c:a",
  "aab0:a aab2-aab4:a aab7-aab8:a aabe-aabf:a aac1:a aaec-aaed:a aaf6:a abe5:a abe8:a abed:a",
  "fb1e:a fe20-fe2f:a fe73:2 101fd:a 102e0:a 10376-1037a:a 10800-10805:1 10808:1 1080a-10835:1",
  "10837-10838:1 1083c:1 1083f-10855:1 10860-10876:1 10880-1089e:1 108e0-108f2:1 108f4-108f5:1",
  "10900-10915:1 10920-10939:1 10980-109b7:1 109be-109bf:1 10a00:1 10a01-10a03:a 10a05-10a06:a",
  "10a0c-10a0f:a 10a10-10a13:1 10a15-10a17:1 10a19-10a35:1 10a38-10a3a:a 10a3f:a 10a60-10a7c:1",
  "10a80-10a9c:1 10ac0-10ac7:1 10ac9-10ae4:1 10ae5-10ae6:a 10b00-10b35:1 10b40-10b55:1",
  "10b60-10b72:1 10b80-10b91:1 10c00-10c48:1 10cc0-10cf2:1 10d00-10d23:2 10d24-10d27:a",
  "10d30-10d39:3 10e80-10ea9:1 10eab-10eac:a 10eb0-10eb1:1 10f00-10f1c:1 10f27:1 10f30-10f45:2",
  "10f46-10f50:a 10f70-10f81:1 10f82-10f85:a 10fb0-10fc4:1 10fe0-10ff6:1 11001:a 11038-11046:a",
  "11070:a 11073-11074:a 1107f-11081:a 110b3-110b6:a 110b9-110ba:a 110c2:a 11100-11102:a",
  "11127-1112b:a 1112d-11134:a 11173:a 11180-11181:a 111b6-111be:a 111c9-111cc:a 111cf:a",
  "1122f-11231:a 11234:a 11236-11237:a 1123e:a 112df:a 112e3-112ea:a 11300-11301:a",
  "1133b-1133c:a 11340:a 11366-1136c:a 11370-11374:a 11438-1143f:a 11442-11444:a 11446:a",
  "1145e:a 114b3-114b8:a 114ba:a 114bf-114c0:a 114c2-114c3:a 115b2-115b5:a 115bc-115bd:a",
  "115bf-115c0:a 115dc-115dd:a 11633-1163a:a 1163d:a 1163f-11640:a 116ab:a 116ad:a",
  "116b0-116b5:a 116b7:a 1171d-1171f:a 11722-11725:a 11727-1172b:a 1182f-11837:a 11839-1183a:a",
  "1193b-1193c:a 1193e:a 11943:a 119d4-119d7:a 119da-119db:a 119e0:a 11a01-11a06:a",
  "11a09-11a0a:a 11a33-11a38:a 11a3b-11a3e:a 11a47:a 11a51-11a56:a 11a59-11a5b:a 11a8a-11a96:a",
  "11a98-11a99:a 11c30-11c36:a 11c38-11c3d:a 11c92-11ca7:a 11caa-11cb0:a 11cb2-11cb3:a",
  "11cb5-11cb6:a 11d31-11d36:a 11d3a:a 11d3c-11d3d:a 11d3f-11d45:a 11d47:a 11d90-11d91:a",
  "11d95:a 11d97:a 11ef3-11ef4:a 16af0-16af4:a 16b30-16b36:a 16f4f:a 16f8f-16f92:a 16fe4:a",
  "1bc9d-1bc9e:a 1cf00-1cf2d:a 1cf30-1cf46:a 1da00-1da36:a 1da3b-1da6c:a 1da75:a 1da84:a",
  "1da9b-1da9f:a 1daa1-1daaf:a 1e000-1e006:a 1e008-1e018:a 1e01b-1e021:a 1e023-1e024:a",
  "1e026-1e02a:a 1e130-1e136:a 1e2ae:a 1e2ec-1e2ef:a 1e800-1e8c4:1 1e8d0-1e8d6:a 1e922-1e943:1",
  "1e944-1e94a:a 1e94b:1 1e950-1e959:1"]

end Bearer.DomainName
