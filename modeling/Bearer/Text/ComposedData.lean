import Bearer.Text.Table

/-! Code points of canonical composition. -/

namespace Bearer.Text

/-- The combining classes that are not zero. -/
def combiningClasses : List Run := Run.read [
  "300-314:e6 315:e8 316-319:dc 31a:e8 31b:d8 31c-320:dc 321-322:ca 323-326:dc 327-328:ca",
  "329-333:dc 334-338:1 339-33c:dc 33d-344:e6 345:f0 346:e6 347-349:dc 34a-34c:e6 34d-34e:dc",
  "350-352:e6 353-356:dc 357:e6 358:e8 359-35a:dc 35b:e6 35c:e9 35d-35e:ea 35f:e9 360-361:ea",
  "362:e9 363-36f:e6 483-487:e6 591:dc 592-595:e6 596:dc 597-599:e6 59a:de 59b:dc 59c-5a1:e6",
  "5a2-5a7:dc 5a8-5a9:e6 5aa:dc 5ab-5ac:e6 5ad:de 5ae:e4 5af:e6 5b0:a 5b1:b 5b2:c 5b3:d 5b4:e",
  "5b5:f 5b6:10 5b7:11 5b8:12 5b9-5ba:13 5bb:14 5bc:15 5bd:16 5bf:17 5c1:18 5c2:19 5c4:e6",
  "5c5:dc 5c7:12 610-617:e6 618:1e 619:1f 61a:20 64b:1b 64c:1c 64d:1d 64e:1e 64f:1f 650:20",
  "651:21 652:22 653-654:e6 655-656:dc 657-65b:e6 65c:dc 65d-65e:e6 65f:dc 670:23 6d6-6dc:e6",
  "6df-6e2:e6 6e3:dc 6e4:e6 6e7-6e8:e6 6ea:dc 6eb-6ec:e6 6ed:dc 711:24 730:e6 731:dc 732-733:e6",
  "734:dc 735-736:e6 737-739:dc 73a:e6 73b-73c:dc 73d:e6 73e:dc 73f-741:e6 742:dc 743:e6 744:dc",
  "745:e6 746:dc 747:e6 748:dc 749-74a:e6 7eb-7f1:e6 7f2:dc 7f3:e6 7fd:dc 816-819:e6 81b-823:e6",
  "825-827:e6 829-82d:e6 859-85b:dc 898:e6 899-89b:dc 89c-89f:e6 8ca-8ce:e6 8cf-8d3:dc",
  "8d4-8e1:e6 8e3:dc 8e4-8e5:e6 8e6:dc 8e7-8e8:e6 8e9:dc 8ea-8ec:e6 8ed-8ef:dc 8f0:1b 8f1:1c",
  "8f2:1d 8f3-8f5:e6 8f6:dc 8f7-8f8:e6 8f9-8fa:dc 8fb-8ff:e6 93c:7 94d:9 951:e6 952:dc",
  "953-954:e6 9bc:7 9cd:9 9fe:e6 a3c:7 a4d:9 abc:7 acd:9 b3c:7 b4d:9 bcd:9 c3c:7 c4d:9 c55:54",
  "c56:5b cbc:7 ccd:9 d3b-d3c:9 d4d:9 dca:9 e38-e39:67 e3a:9 e48-e4b:6b eb8-eb9:76 eba:9",
  "ec8-ecb:7a f18-f19:dc f35:dc f37:dc f39:d8 f71:81 f72:82 f74:84 f7a-f7d:82 f80:82 f82-f83:e6",
  "f84:9 f86-f87:e6 fc6:dc 1037:7 1039-103a:9 108d:dc 135d-135f:e6 1714-1715:9 1734:9 17d2:9",
  "17dd:e6 18a9:e4 1939:de 193a:e6 193b:dc 1a17:e6 1a18:dc 1a60:9 1a75-1a7c:e6 1a7f:dc",
  "1ab0-1ab4:e6 1ab5-1aba:dc 1abb-1abc:e6 1abd:dc 1abf-1ac0:dc 1ac1-1ac2:e6 1ac3-1ac4:dc",
  "1ac5-1ac9:e6 1aca:dc 1acb-1ace:e6 1b34:7 1b44:9 1b6b:e6 1b6c:dc 1b6d-1b73:e6 1baa-1bab:9",
  "1be6:7 1bf2-1bf3:9 1c37:7 1cd0-1cd2:e6 1cd4:1 1cd5-1cd9:dc 1cda-1cdb:e6 1cdc-1cdf:dc 1ce0:e6",
  "1ce2-1ce8:1 1ced:dc 1cf4:e6 1cf8-1cf9:e6 1dc0-1dc1:e6 1dc2:dc 1dc3-1dc9:e6 1dca:dc",
  "1dcb-1dcc:e6 1dcd:ea 1dce:d6 1dcf:dc 1dd0:ca 1dd1-1df5:e6 1df6:e8 1df7-1df8:e4 1df9:dc",
  "1dfa:da 1dfb:e6 1dfc:e9 1dfd:dc 1dfe:e6 1dff:dc 20d0-20d1:e6 20d2-20d3:1 20d4-20d7:e6",
  "20d8-20da:1 20db-20dc:e6 20e1:e6 20e5-20e6:1 20e7:e6 20e8:dc 20e9:e6 20ea-20eb:1",
  "20ec-20ef:dc 20f0:e6 2cef-2cf1:e6 2d7f:9 2de0-2dff:e6 302a:da 302b:e4 302c:e8 302d:de",
  "302e-302f:e0 3099-309a:8 a66f:e6 a674-a67d:e6 a69e-a69f:e6 a6f0-a6f1:e6 a806:9 a82c:9 a8c4:9",
  "a8e0-a8f1:e6 a92b-a92d:dc a953:9 a9b3:7 a9c0:9 aab0:e6 aab2-aab3:e6 aab4:dc aab7-aab8:e6",
  "aabe-aabf:e6 aac1:e6 aaf6:9 abed:9 fb1e:1a fe20-fe26:e6 fe27-fe2d:dc fe2e-fe2f:e6 101fd:dc",
  "102e0:dc 10376-1037a:e6 10a0d:dc 10a0f:e6 10a38:e6 10a39:1 10a3a:dc 10a3f:9 10ae5:e6",
  "10ae6:dc 10d24-10d27:e6 10eab-10eac:e6 10f46-10f47:dc 10f48-10f4a:e6 10f4b:dc 10f4c:e6",
  "10f4d-10f50:dc 10f82:e6 10f83:dc 10f84:e6 10f85:dc 11046:9 11070:9 1107f:9 110b9:9 110ba:7",
  "11100-11102:e6 11133-11134:9 11173:7 111c0:9 111ca:7 11235:9 11236:7 112e9:7 112ea:9",
  "1133b-1133c:7 1134d:9 11366-1136c:e6 11370-11374:e6 11442:9 11446:7 1145e:e6 114c2:9 114c3:7",
  "115bf:9 115c0:7 1163f:9 116b6:9 116b7:7 1172b:9 11839:9 1183a:7 1193d-1193e:9 11943:7",
  "119e0:9 11a34:9 11a47:9 11a99:9 11c3f:9 11d42:7 11d44-11d45:9 11d97:9 16af0-16af4:1",
  "16b30-16b36:e6 16ff0-16ff1:6 1bc9e:1 1d165-1d166:d8 1d167-1d169:1 1d16d:e2 1d16e-1d172:d8",
  "1d17b-1d182:dc 1d185-1d189:e6 1d18a-1d18b:dc 1d1aa-1d1ad:e6 1d242-1d244:e6 1e000-1e006:e6",
  "1e008-1e018:e6 1e01b-1e021:e6 1e023-1e024:e6 1e026-1e02a:e6 1e130-1e136:e6 1e2ae:e6",
  "1e2ec-1e2ef:e6 1e8d0-1e8d6:dc 1e944-1e949:e6 1e94a:7"]

/-- The characters that are composed of two, the first times `2 ^ 24` plus the second. -/
def composites : List Run := Run.read [
  "c0:41000300 c1:41000301 c2:41000302 c3:41000303 c4:41000308 c5:4100030a c7:43000327",
  "c8:45000300 c9:45000301 ca:45000302 cb:45000308 cc:49000300 cd:49000301 ce:49000302",
  "cf:49000308 d1:4e000303 d2:4f000300 d3:4f000301 d4:4f000302 d5:4f000303 d6:4f000308",
  "d9:55000300 da:55000301 db:55000302 dc:55000308 dd:59000301 e0:61000300 e1:61000301",
  "e2:61000302 e3:61000303 e4:61000308 e5:6100030a e7:63000327 e8:65000300 e9:65000301",
  "ea:65000302 eb:65000308 ec:69000300 ed:69000301 ee:69000302 ef:69000308 f1:6e000303",
  "f2:6f000300 f3:6f000301 f4:6f000302 f5:6f000303 f6:6f000308 f9:75000300 fa:75000301",
  "fb:75000302 fc:75000308 fd:79000301 ff:79000308 100:41000304 101:61000304 102:41000306",
  "103:61000306 104:41000328 105:61000328 106:43000301 107:63000301 108:43000302 109:63000302",
  "10a:43000307 10b:63000307 10c:4300030c 10d:6300030c 10e:4400030c 10f:6400030c 112:45000304",
  "113:65000304 114:45000306 115:65000306 116:45000307 117:65000307 118:45000328 119:65000328",
  "11a:4500030c 11b:6500030c 11c:47000302 11d:67000302 11e:47000306 11f:67000306 120:47000307",
  "121:67000307 122:47000327 123:67000327 124:48000302 125:68000302 128:49000303 129:69000303",
  "12a:49000304 12b:69000304 12c:49000306 12d:69000306 12e:49000328 12f:69000328 130:49000307",
  "134:4a000302 135:6a000302 136:4b000327 137:6b000327 139:4c000301 13a:6c000301 13b:4c000327",
  "13c:6c000327 13d:4c00030c 13e:6c00030c 143:4e000301 144:6e000301 145:4e000327 146:6e000327",
  "147:4e00030c 148:6e00030c 14c:4f000304 14d:6f000304 14e:4f000306 14f:6f000306 150:4f00030b",
  "151:6f00030b 154:52000301 155:72000301 156:52000327 157:72000327 158:5200030c 159:7200030c",
  "15a:53000301 15b:73000301 15c:53000302 15d:73000302 15e:53000327 15f:73000327 160:5300030c",
  "161:7300030c 162:54000327 163:74000327 164:5400030c 165:7400030c 168:55000303 169:75000303",
  "16a:55000304 16b:75000304 16c:55000306 16d:75000306 16e:5500030a 16f:7500030a 170:5500030b",
  "171:7500030b 172:55000328 173:75000328 174:57000302 175:77000302 176:59000302 177:79000302",
  "178:59000308 179:5a000301 17a:7a000301 17b:5a000307 17c:7a000307 17d:5a00030c 17e:7a00030c",
  "1a0:4f00031b 1a1:6f00031b 1af:5500031b 1b0:7500031b 1cd:4100030c 1ce:6100030c 1cf:4900030c",
  "1d0:6900030c 1d1:4f00030c 1d2:6f00030c 1d3:5500030c 1d4:7500030c 1d5:dc000304 1d6:fc000304",
  "1d7:dc000301 1d8:fc000301 1d9:dc00030c 1da:fc00030c 1db:dc000300 1dc:fc000300 1de:c4000304",
  "1df:e4000304 1e0:226000304 1e1:227000304 1e2:c6000304 1e3:e6000304 1e6:4700030c 1e7:6700030c",
  "1e8:4b00030c 1e9:6b00030c 1ea:4f000328 1eb:6f000328 1ec:1ea000304 1ed:1eb000304",
  "1ee:1b700030c 1ef:29200030c 1f0:6a00030c 1f4:47000301 1f5:67000301 1f8:4e000300 1f9:6e000300",
  "1fa:c5000301 1fb:e5000301 1fc:c6000301 1fd:e6000301 1fe:d8000301 1ff:f8000301 200:4100030f",
  "201:6100030f 202:41000311 203:61000311 204:4500030f 205:6500030f 206:45000311 207:65000311",
  "208:4900030f 209:6900030f 20a:49000311 20b:69000311 20c:4f00030f 20d:6f00030f 20e:4f000311",
  "20f:6f000311 210:5200030f 211:7200030f 212:52000311 213:72000311 214:5500030f 215:7500030f",
  "216:55000311 217:75000311 218:53000326 219:73000326 21a:54000326 21b:74000326 21e:4800030c",
  "21f:6800030c 226:41000307 227:61000307 228:45000327 229:65000327 22a:d6000304 22b:f6000304",
  "22c:d5000304 22d:f5000304 22e:4f000307 22f:6f000307 230:22e000304 231:22f000304 232:59000304",
  "233:79000304 385:a8000301 386:391000301 388:395000301 389:397000301 38a:399000301",
  "38c:39f000301 38e:3a5000301 38f:3a9000301 390:3ca000301 3aa:399000308 3ab:3a5000308",
  "3ac:3b1000301 3ad:3b5000301 3ae:3b7000301 3af:3b9000301 3b0:3cb000301 3ca:3b9000308",
  "3cb:3c5000308 3cc:3bf000301 3cd:3c5000301 3ce:3c9000301 3d3:3d2000301 3d4:3d2000308",
  "400:415000300 401:415000308 403:413000301 407:406000308 40c:41a000301 40d:418000300",
  "40e:423000306 419:418000306 439:438000306 450:435000300 451:435000308 453:433000301",
  "457:456000308 45c:43a000301 45d:438000300 45e:443000306 476:47400030f 477:47500030f",
  "4c1:416000306 4c2:436000306 4d0:410000306 4d1:430000306 4d2:410000308 4d3:430000308",
  "4d6:415000306 4d7:435000306 4da:4d8000308 4db:4d9000308 4dc:416000308 4dd:436000308",
  "4de:417000308 4df:437000308 4e2:418000304 4e3:438000304 4e4:418000308 4e5:438000308",
  "4e6:41e000308 4e7:43e000308 4ea:4e8000308 4eb:4e9000308 4ec:42d000308 4ed:44d000308",
  "4ee:423000304 4ef:443000304 4f0:423000308 4f1:443000308 4f2:42300030b 4f3:44300030b",
  "4f4:427000308 4f5:447000308 4f8:42b000308 4f9:44b000308 622:627000653 623:627000654",
  "624:648000654 625:627000655 626:64a000654 6c0:6d5000654 6c2:6c1000654 6d3:6d2000654",
  "929:92800093c 931:93000093c 934:93300093c 9cb:9c70009be 9cc:9c70009d7 b48:b47000b56",
  "b4b:b47000b3e b4c:b47000b57 b94:b92000bd7 bca:bc6000bbe bcb:bc7000bbe bcc:bc6000bd7",
  "c48:c46000c56 cc0:cbf000cd5 cc7:cc6000cd5 cc8:cc6000cd6 cca:cc6000cc2 ccb:cca000cd5",
  "d4a:d46000d3e d4b:d47000d3e d4c:d46000d57 dda:dd9000dca ddc:dd9000dcf ddd:ddc000dca",
  "dde:dd9000ddf 1026:102500102e 1b06:1b05001b35 1b08:1b07001b35 1b0a:1b09001b35",
  "1b0c:1b0b001b35 1b0e:1b0d001b35 1b12:1b11001b35 1b3b:1b3a001b35 1b3d:1b3c001b35",
  "1b40:1b3e001b35 1b41:1b3f001b35 1b43:1b42001b35 1e00:41000325 1e01:61000325 1e02:42000307",
  "1e03:62000307 1e04:42000323 1e05:62000323 1e06:42000331 1e07:62000331 1e08:c7000301",
  "1e09:e7000301 1e0a:44000307 1e0b:64000307 1e0c:44000323 1e0d:64000323 1e0e:44000331",
  "1e0f:64000331 1e10:44000327 1e11:64000327 1e12:4400032d 1e13:6400032d 1e14:112000300",
  "1e15:113000300 1e16:112000301 1e17:113000301 1e18:4500032d 1e19:6500032d 1e1a:45000330",
  "1e1b:65000330 1e1c:228000306 1e1d:229000306 1e1e:46000307 1e1f:66000307 1e20:47000304",
  "1e21:67000304 1e22:48000307 1e23:68000307 1e24:48000323 1e25:68000323 1e26:48000308",
  "1e27:68000308 1e28:48000327 1e29:68000327 1e2a:4800032e 1e2b:6800032e 1e2c:49000330",
  "1e2d:69000330 1e2e:cf000301 1e2f:ef000301 1e30:4b000301 1e31:6b000301 1e32:4b000323",
  "1e33:6b000323 1e34:4b000331 1e35:6b000331 1e36:4c000323 1e37:6c000323 1e38:1e36000304",
  "1e39:1e37000304 1e3a:4c000331 1e3b:6c000331 1e3c:4c00032d 1e3d:6c00032d 1e3e:4d000301",
  "1e3f:6d000301 1e40:4d000307 1e41:6d000307 1e42:4d000323 1e43:6d000323 1e44:4e000307",
  "1e45:6e000307 1e46:4e000323 1e47:6e000323 1e48:4e000331 1e49:6e000331 1e4a:4e00032d",
  "1e4b:6e00032d 1e4c:d5000301 1e4d:f5000301 1e4e:d5000308 1e4f:f5000308 1e50:14c000300",
  "1e51:14d000300 1e52:14c000301 1e53:14d000301 1e54:50000301 1e55:70000301 1e56:50000307",
  "1e57:70000307 1e58:52000307 1e59:72000307 1e5a:52000323 1e5b:72000323 1e5c:1e5a000304",
  "1e5d:1e5b000304 1e5e:52000331 1e5f:72000331 1e60:53000307 1e61:73000307 1e62:53000323",
  "1e63:73000323 1e64:15a000307 1e65:15b000307 1e66:160000307 1e67:161000307 1e68:1e62000307",
  "1e69:1e63000307 1e6a:54000307 1e6b:74000307 1e6c:54000323 1e6d:74000323 1e6e:54000331",
  "1e6f:74000331 1e70:5400032d 1e71:7400032d 1e72:55000324 1e73:75000324 1e74:55000330",
  "1e75:75000330 1e76:5500032d 1e77:7500032d 1e78:168000301 1e79:169000301 1e7a:16a000308",
  "1e7b:16b000308 1e7c:56000303 1e7d:76000303 1e7e:56000323 1e7f:76000323 1e80:57000300",
  "1e81:77000300 1e82:57000301 1e83:77000301 1e84:57000308 1e85:77000308 1e86:57000307",
  "1e87:77000307 1e88:57000323 1e89:77000323 1e8a:58000307 1e8b:78000307 1e8c:58000308",
  "1e8d:78000308 1e8e:59000307 1e8f:79000307 1e90:5a000302 1e91:7a000302 1e92:5a000323",
  "1e93:7a000323 1e94:5a000331 1e95:7a000331 1e96:68000331 1e97:74000308 1e98:7700030a",
  "1e99:7900030a 1e9b:17f000307 1ea0:41000323 1ea1:61000323 1ea2:41000309 1ea3:61000309",
  "1ea4:c2000301 1ea5:e2000301 1ea6:c2000300 1ea7:e2000300 1ea8:c2000309 1ea9:e2000309",
  "1eaa:c2000303 1eab:e2000303 1eac:1ea0000302 1ead:1ea1000302 1eae:102000301 1eaf:103000301",
  "1eb0:102000300 1eb1:103000300 1eb2:102000309 1eb3:103000309 1eb4:102000303 1eb5:103000303",
  "1eb6:1ea0000306 1eb7:1ea1000306 1eb8:45000323 1eb9:65000323 1eba:45000309 1ebb:65000309",
  "1ebc:45000303 1ebd:65000303 1ebe:ca000301 1ebf:ea000301 1ec0:ca000300 1ec1:ea000300",
  "1ec2:ca000309 1ec3:ea000309 1ec4:ca000303 1ec5:ea000303 1ec6:1eb8000302 1ec7:1eb9000302",
  "1ec8:49000309 1ec9:69000309 1eca:49000323 1ecb:69000323 1ecc:4f000323 1ecd:6f000323",
  "1ece:4f000309 1ecf:6f000309 1ed0:d4000301 1ed1:f4000301 1ed2:d4000300 1ed3:f4000300",
  "1ed4:d4000309 1ed5:f4000309 1ed6:d4000303 1ed7:f4000303 1ed8:1ecc000302 1ed9:1ecd000302",
  "1eda:1a0000301 1edb:1a1000301 1edc:1a0000300 1edd:1a1000300 1ede:1a0000309 1edf:1a1000309",
  "1ee0:1a0000303 1ee1:1a1000303 1ee2:1a0000323 1ee3:1a1000323 1ee4:55000323 1ee5:75000323",
  "1ee6:55000309 1ee7:75000309 1ee8:1af000301 1ee9:1b0000301 1eea:1af000300 1eeb:1b0000300",
  "1eec:1af000309 1eed:1b0000309 1eee:1af000303 1eef:1b0000303 1ef0:1af000323 1ef1:1b0000323",
  "1ef2:59000300 1ef3:79000300 1ef4:59000323 1ef5:79000323 1ef6:59000309 1ef7:79000309",
  "1ef8:59000303 1ef9:79000303 1f00:3b1000313 1f01:3b1000314 1f02:1f00000300 1f03:1f01000300",
  "1f04:1f00000301 1f05:1f01000301 1f06:1f00000342 1f07:1f01000342 1f08:391000313",
  "1f09:391000314 1f0a:1f08000300 1f0b:1f09000300 1f0c:1f08000301 1f0d:1f09000301",
  "1f0e:1f08000342 1f0f:1f09000342 1f10:3b5000313 1f11:3b5000314 1f12:1f10000300",
  "1f13:1f11000300 1f14:1f10000301 1f15:1f11000301 1f18:395000313 1f19:395000314",
  "1f1a:1f18000300 1f1b:1f19000300 1f1c:1f18000301 1f1d:1f19000301 1f20:3b7000313",
  "1f21:3b7000314 1f22:1f20000300 1f23:1f21000300 1f24:1f20000301 1f25:1f21000301",
  "1f26:1f20000342 1f27:1f21000342 1f28:397000313 1f29:397000314 1f2a:1f28000300",
  "1f2b:1f29000300 1f2c:1f28000301 1f2d:1f29000301 1f2e:1f28000342 1f2f:1f29000342",
  "1f30:3b9000313 1f31:3b9000314 1f32:1f30000300 1f33:1f31000300 1f34:1f30000301",
  "1f35:1f31000301 1f36:1f30000342 1f37:1f31000342 1f38:399000313 1f39:399000314",
  "1f3a:1f38000300 1f3b:1f39000300 1f3c:1f38000301 1f3d:1f39000301 1f3e:1f38000342",
  "1f3f:1f39000342 1f40:3bf000313 1f41:3bf000314 1f42:1f40000300 1f43:1f41000300",
  "1f44:1f40000301 1f45:1f41000301 1f48:39f000313 1f49:39f000314 1f4a:1f48000300",
  "1f4b:1f49000300 1f4c:1f48000301 1f4d:1f49000301 1f50:3c5000313 1f51:3c5000314",
  "1f52:1f50000300 1f53:1f51000300 1f54:1f50000301 1f55:1f51000301 1f56:1f50000342",
  "1f57:1f51000342 1f59:3a5000314 1f5b:1f59000300 1f5d:1f59000301 1f5f:1f59000342",
  "1f60:3c9000313 1f61:3c9000314 1f62:1f60000300 1f63:1f61000300 1f64:1f60000301",
  "1f65:1f61000301 1f66:1f60000342 1f67:1f61000342 1f68:3a9000313 1f69:3a9000314",
  "1f6a:1f68000300 1f6b:1f69000300 1f6c:1f68000301 1f6d:1f69000301 1f6e:1f68000342",
  "1f6f:1f69000342 1f70:3b1000300 1f72:3b5000300 1f74:3b7000300 1f76:3b9000300 1f78:3bf000300",
  "1f7a:3c5000300 1f7c:3c9000300 1f80:1f00000345 1f81:1f01000345 1f82:1f02000345",
  "1f83:1f03000345 1f84:1f04000345 1f85:1f05000345 1f86:1f06000345 1f87:1f07000345",
  "1f88:1f08000345 1f89:1f09000345 1f8a:1f0a000345 1f8b:1f0b000345 1f8c:1f0c000345",
  "1f8d:1f0d000345 1f8e:1f0e000345 1f8f:1f0f000345 1f90:1f20000345 1f91:1f21000345",
  "1f92:1f22000345 1f93:1f23000345 1f94:1f24000345 1f95:1f25000345 1f96:1f26000345",
  "1f97:1f27000345 1f98:1f28000345 1f99:1f29000345 1f9a:1f2a000345 1f9b:1f2b000345",
  "1f9c:1f2c000345 1f9d:1f2d000345 1f9e:1f2e000345 1f9f:1f2f000345 1fa0:1f60000345",
  "1fa1:1f61000345 1fa2:1f62000345 1fa3:1f63000345 1fa4:1f64000345 1fa5:1f65000345",
  "1fa6:1f66000345 1fa7:1f67000345 1fa8:1f68000345 1fa9:1f69000345 1faa:1f6a000345",
  "1fab:1f6b000345 1fac:1f6c000345 1fad:1f6d000345 1fae:1f6e000345 1faf:1f6f000345",
  "1fb0:3b1000306 1fb1:3b1000304 1fb2:1f70000345 1fb3:3b1000345 1fb4:3ac000345 1fb6:3b1000342",
  "1fb7:1fb6000345 1fb8:391000306 1fb9:391000304 1fba:391000300 1fbc:391000345 1fc1:a8000342",
  "1fc2:1f74000345 1fc3:3b7000345 1fc4:3ae000345 1fc6:3b7000342 1fc7:1fc6000345 1fc8:395000300",
  "1fca:397000300 1fcc:397000345 1fcd:1fbf000300 1fce:1fbf000301 1fcf:1fbf000342 1fd0:3b9000306",
  "1fd1:3b9000304 1fd2:3ca000300 1fd6:3b9000342 1fd7:3ca000342 1fd8:399000306 1fd9:399000304",
  "1fda:399000300 1fdd:1ffe000300 1fde:1ffe000301 1fdf:1ffe000342 1fe0:3c5000306 1fe1:3c5000304",
  "1fe2:3cb000300 1fe4:3c1000313 1fe5:3c1000314 1fe6:3c5000342 1fe7:3cb000342 1fe8:3a5000306",
  "1fe9:3a5000304 1fea:3a5000300 1fec:3a1000314 1fed:a8000300 1ff2:1f7c000345 1ff3:3c9000345",
  "1ff4:3ce000345 1ff6:3c9000342 1ff7:1ff6000345 1ff8:39f000300 1ffa:3a9000300 1ffc:3a9000345",
  "219a:2190000338 219b:2192000338 21ae:2194000338 21cd:21d0000338 21ce:21d4000338",
  "21cf:21d2000338 2204:2203000338 2209:2208000338 220c:220b000338 2224:2223000338",
  "2226:2225000338 2241:223c000338 2244:2243000338 2247:2245000338 2249:2248000338",
  "2260:3d000338 2262:2261000338 226d:224d000338 226e:3c000338 226f:3e000338 2270:2264000338",
  "2271:2265000338 2274:2272000338 2275:2273000338 2278:2276000338 2279:2277000338",
  "2280:227a000338 2281:227b000338 2284:2282000338 2285:2283000338 2288:2286000338",
  "2289:2287000338 22ac:22a2000338 22ad:22a8000338 22ae:22a9000338 22af:22ab000338",
  "22e0:227c000338 22e1:227d000338 22e2:2291000338 22e3:2292000338 22ea:22b2000338",
  "22eb:22b3000338 22ec:22b4000338 22ed:22b5000338 304c:304b003099 304e:304d003099",
  "3050:304f003099 3052:3051003099 3054:3053003099 3056:3055003099 3058:3057003099",
  "305a:3059003099 305c:305b003099 305e:305d003099 3060:305f003099 3062:3061003099",
  "3065:3064003099 3067:3066003099 3069:3068003099 3070:306f003099 3071:306f00309a",
  "3073:3072003099 3074:307200309a 3076:3075003099 3077:307500309a 3079:3078003099",
  "307a:307800309a 307c:307b003099 307d:307b00309a 3094:3046003099 309e:309d003099",
  "30ac:30ab003099 30ae:30ad003099 30b0:30af003099 30b2:30b1003099 30b4:30b3003099",
  "30b6:30b5003099 30b8:30b7003099 30ba:30b9003099 30bc:30bb003099 30be:30bd003099",
  "30c0:30bf003099 30c2:30c1003099 30c5:30c4003099 30c7:30c6003099 30c9:30c8003099",
  "30d0:30cf003099 30d1:30cf00309a 30d3:30d2003099 30d4:30d200309a 30d6:30d5003099",
  "30d7:30d500309a 30d9:30d8003099 30da:30d800309a 30dc:30db003099 30dd:30db00309a",
  "30f4:30a6003099 30f7:30ef003099 30f8:30f0003099 30f9:30f1003099 30fa:30f2003099",
  "30fe:30fd003099 1109a:110990110ba 1109c:1109b0110ba 110ab:110a50110ba 1112e:11131011127",
  "1112f:11132011127 1134b:1134701133e 1134c:11347011357 114bb:114b90114ba 114bc:114b90114b0",
  "114be:114b90114bd 115ba:115b80115af 115bb:115b90115af 11938:11935011930"]

/-- The characters that composition replaces wherever they stand. -/
def neverComposed : List Run := Run.read [
  "340-341 343-344 374 37e 387 958-95f 9dc-9dd 9df a33 a36 a59-a5b a5e b5c-b5d f43 f4d f52 f57",
  "f5c f69 f73 f75-f76 f78 f81 f93 f9d fa2 fa7 fac fb9 1f71-1f7d/2 1fbb 1fbe 1fc9 1fcb 1fd3",
  "1fdb 1fe3 1feb 1fee-1fef 1ff9-1ffd/2 2000-2001 2126 212a-212b 2329-232a 2adc f900-fa0d fa10",
  "fa12 fa15-fa1e fa20 fa22 fa25-fa26 fa2a-fa6d fa70-fad9 fb1d fb1f fb2a-fb36 fb38-fb3c fb3e",
  "fb40-fb41 fb43-fb44 fb46-fb4e 1d15e-1d164 1d1bb-1d1c0 2f800-2fa1d"]

end Bearer.Text
