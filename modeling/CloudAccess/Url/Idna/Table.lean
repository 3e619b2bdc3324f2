/-
# Internationalised names: data

Properties of single code points outside ASCII, as far as Unicode 14 assigns them: which may stand
in a name, which are marks, how they join, which way they run, and how they decompose.  Only code
points that may stand in a name have entries.
-/
import CloudAccess.Text.Ranges

namespace CloudAccess.Idna

/-- The code points that may stand anywhere in a name. -/
def validRanges : Ranges := Ranges.ofHex [
  "df-f6 f8-ff 101 103 105 107 109 10b 10d 10f 111 113 115 117 119 11b 11d 11f 121 123 125 127",
  "129 12b 12d 12f 131 135 137-138 13a 13c 13e 142 144 146 148 14b 14d 14f 151 153 155 157 159",
  "15b 15d 15f 161 163 165 167 169 16b 16d 16f 171 173 175 177 17a 17c 17e 180 183 185 188",
  "18c-18d 192 195 199-19b 19e 1a1 1a3 1a5 1a8 1aa-1ab 1ad 1b0 1b4 1b6 1b9-1bb 1bd-1c3 1ce 1d0",
  "1d2 1d4 1d6 1d8 1da 1dc-1dd 1df 1e1 1e3 1e5 1e7 1e9 1eb 1ed 1ef-1f0 1f5 1f9 1fb 1fd 1ff 201",
  "203 205 207 209 20b 20d 20f 211 213 215 217 219 21b 21d 21f 221 223 225 227 229 22b 22d 22f",
  "231 233-239 23c 23f-240 242 247 249 24b 24d 24f-2af 2b9-2c1 2c6-2d1 2ec 2ee 300-33f 342",
  "346-34e 350-36f 371 373 377 37b-37d 390 3ac-3ce 3d7 3d9 3db 3dd 3df 3e1 3e3 3e5 3e7 3e9 3eb",
  "3ed 3ef 3f3 3f8 3fb-3fc 430-45f 461 463 465 467 469 46b 46d 46f 471 473 475 477 479 47b 47d",
  "47f 481 483-487 48b 48d 48f 491 493 495 497 499 49b 49d 49f 4a1 4a3 4a5 4a7 4a9 4ab 4ad 4af",
  "4b1 4b3 4b5 4b7 4b9 4bb 4bd 4bf 4c2 4c4 4c6 4c8 4ca 4cc 4ce-4cf 4d1 4d3 4d5 4d7 4d9 4db 4dd",
  "4df 4e1 4e3 4e5 4e7 4e9 4eb 4ed 4ef 4f1 4f3 4f5 4f7 4f9 4fb 4fd 4ff 501 503 505 507 509 50b",
  "50d 50f 511 513 515 517 519 51b 51d 51f 521 523 525 527 529 52b 52d 52f 559 560-586 588",
  "591-5bd 5bf 5c1-5c2 5c4-5c5 5c7 5d0-5ea 5ef-5f2 610-61a 620-63f 641-65f 66e-674 679-6d3",
  "6d5-6dc 6df-6e8 6ea-6ef 6fa-6ff 710-74a 74d-7b1 7c0-7f5 7fd 800-82d 840-85b 860-86a 870-887",
  "889-88e 898-8e1 8e3-957 960-963 966-96f 971-983 985-98c 98f-990 993-9a8 9aa-9b0 9b2 9b6-9b9",
  "9bc-9c4 9c7-9c8 9cb-9ce 9d7 9e0-9e3 9e6-9f1 9fc 9fe a01-a03 a05-a0a a0f-a10 a13-a28 a2a-a30",
  "a32 a35 a38-a39 a3c a3e-a42 a47-a48 a4b-a4d a51 a5c a66-a75 a81-a83 a85-a8d a8f-a91 a93-aa8",
  "aaa-ab0 ab2-ab3 ab5-ab9 abc-ac5 ac7-ac9 acb-acd ad0 ae0-ae3 ae6-aef af9-aff b01-b03 b05-b0c",
  "b0f-b10 b13-b28 b2a-b30 b32-b33 b35-b39 b3c-b44 b47-b48 b4b-b4d b55-b57 b5f-b63 b66-b6f b71",
  "b82-b83 b85-b8a b8e-b90 b92-b95 b99-b9a b9c b9e-b9f ba3-ba4 ba8-baa bae-bb9 bbe-bc2 bc6-bc8",
  "bca-bcd bd0 bd7 be6-bef c00-c0c c0e-c10 c12-c28 c2a-c39 c3c-c44 c46-c48 c4a-c4d c55-c56",
  "c58-c5a c5d c60-c63 c66-c6f c80-c83 c85-c8c c8e-c90 c92-ca8 caa-cb3 cb5-cb9 cbc-cc4 cc6-cc8",
  "cca-ccd cd5-cd6 cdd-cde ce0-ce3 ce6-cef cf1-cf2 d00-d0c d0e-d10 d12-d44 d46-d48 d4a-d4e",
  "d54-d57 d5f-d63 d66-d6f d7a-d7f d81-d83 d85-d96 d9a-db1 db3-dbb dbd dc0-dc6 dca dcf-dd4 dd6",
  "dd8-ddf de6-def df2-df3 e01-e32 e34-e3a e40-e4e e50-e59 e81-e82 e84 e86-e8a e8c-ea3 ea5",
  "ea7-eb2 eb4-ebd ec0-ec4 ec6 ec8-ecd ed0-ed9 ede-edf f00 f0b f18-f19 f20-f29 f35 f37 f39",
  "f3e-f42 f44-f47 f49-f4c f4e-f51 f53-f56 f58-f5b f5d-f68 f6a-f6c f71-f72 f74 f7a-f80 f82-f84",
  "f86-f92 f94-f97 f99-f9c f9e-fa1 fa3-fa6 fa8-fab fad-fb8 fba-fbc fc6 1000-1049 1050-109d",
  "10d0-10fa 10fd-10ff 1200-1248 124a-124d 1250-1256 1258 125a-125d 1260-1288 128a-128d",
  "1290-12b0 12b2-12b5 12b8-12be 12c0 12c2-12c5 12c8-12d6 12d8-1310 1312-1315 1318-135a",
  "135d-135f 1380-138f 13a0-13f5 1401-166c 166f-167f 1681-169a 16a0-16ea 16f1-16f8 1700-1715",
  "171f-1734 1740-1753 1760-176c 176e-1770 1772-1773 1780-17b3 17b6-17d3 17d7 17dc-17dd",
  "17e0-17e9 1810-1819 1820-1878 1880-18aa 18b0-18f5 1900-191e 1920-192b 1930-193b 1946-196d",
  "1970-1974 1980-19ab 19b0-19c9 19d0-19d9 1a00-1a1b 1a20-1a5e 1a60-1a7c 1a7f-1a89 1a90-1a99",
  "1aa7 1ab0-1abd 1abf-1ace 1b00-1b4c 1b50-1b59 1b6b-1b73 1b80-1bf3 1c00-1c37 1c40-1c49",
  "1c4d-1c7d 1cd0-1cd2 1cd4-1cfa 1d00-1d2b 1d2f 1d3b 1d4e 1d6b-1d77 1d79-1d9a 1dc0-1dff 1e01",
  "1e03 1e05 1e07 1e09 1e0b 1e0d 1e0f 1e11 1e13 1e15 1e17 1e19 1e1b 1e1d 1e1f 1e21 1e23 1e25",
  "1e27 1e29 1e2b 1e2d 1e2f 1e31 1e33 1e35 1e37 1e39 1e3b 1e3d 1e3f 1e41 1e43 1e45 1e47 1e49",
  "1e4b 1e4d 1e4f 1e51 1e53 1e55 1e57 1e59 1e5b 1e5d 1e5f 1e61 1e63 1e65 1e67 1e69 1e6b 1e6d",
  "1e6f 1e71 1e73 1e75 1e77 1e79 1e7b 1e7d 1e7f 1e81 1e83 1e85 1e87 1e89 1e8b 1e8d 1e8f 1e91",
  "1e93 1e95-1e99 1e9c-1e9d 1e9f 1ea1 1ea3 1ea5 1ea7 1ea9 1eab 1ead 1eaf 1eb1 1eb3 1eb5 1eb7",
  "1eb9 1ebb 1ebd 1ebf 1ec1 1ec3 1ec5 1ec7 1ec9 1ecb 1ecd 1ecf 1ed1 1ed3 1ed5 1ed7 1ed9 1edb",
  "1edd 1edf 1ee1 1ee3 1ee5 1ee7 1ee9 1eeb 1eed 1eef 1ef1 1ef3 1ef5 1ef7 1ef9 1efb 1efd",
  "1eff-1f07 1f10-1f15 1f20-1f27 1f30-1f37 1f40-1f45 1f50-1f57 1f60-1f67 1f70 1f72 1f74 1f76",
  "1f78 1f7a 1f7c 1fb0-1fb1 1fb6 1fc6 1fd0-1fd2 1fd6-1fd7 1fe0-1fe2 1fe4-1fe7 1ff6 214e 2184",
  "2c30-2c5f 2c61 2c65-2c66 2c68 2c6a 2c6c 2c71 2c73-2c74 2c76-2c7b 2c81 2c83 2c85 2c87 2c89",
  "2c8b 2c8d 2c8f 2c91 2c93 2c95 2c97 2c99 2c9b 2c9d 2c9f 2ca1 2ca3 2ca5 2ca7 2ca9 2cab 2cad",
  "2caf 2cb1 2cb3 2cb5 2cb7 2cb9 2cbb 2cbd 2cbf 2cc1 2cc3 2cc5 2cc7 2cc9 2ccb 2ccd 2ccf 2cd1",
  "2cd3 2cd5 2cd7 2cd9 2cdb 2cdd 2cdf 2ce1 2ce3-2ce4 2cec 2cee-2cf1 2cf3 2d00-2d25 2d27 2d2d",
  "2d30-2d67 2d7f-2d96 2da0-2da6 2da8-2dae 2db0-2db6 2db8-2dbe 2dc0-2dc6 2dc8-2dce 2dd0-2dd6",
  "2dd8-2dde 2de0-2dff 2e2f 3005-3007 302a-302d 303c 3041-3096 3099-309a 309d-309e 30a1-30fa",
  "30fc-30fe 3105-312f 31a0-31bf 31f0-31ff 3400-4dbf 4e00-a48c a4d0-a4fd a500-a60c a610-a62b",
  "a641 a643 a645 a647 a649 a64b a64d a64f a651 a653 a655 a657 a659 a65b a65d a65f a661 a663",
  "a665 a667 a669 a66b a66d-a66f a674-a67d a67f a681 a683 a685 a687 a689 a68b a68d a68f a691",
  "a693 a695 a697 a699 a69b a69e-a6e5 a6f0-a6f1 a717-a71f a723 a725 a727 a729 a72b a72d",
  "a72f-a731 a733 a735 a737 a739 a73b a73d a73f a741 a743 a745 a747 a749 a74b a74d a74f a751",
  "a753 a755 a757 a759 a75b a75d a75f a761 a763 a765 a767 a769 a76b a76d a76f a771-a778 a77a",
  "a77c a77f a781 a783 a785 a787-a788 a78c a78e-a78f a791 a793-a795 a797 a799 a79b a79d a79f",
  "a7a1 a7a3 a7a5 a7a7 a7a9 a7af a7b5 a7b7 a7b9 a7bb a7bd a7bf a7c1 a7c3 a7c8 a7ca a7d1 a7d3",
  "a7d5 a7d7 a7d9 a7f6-a7f7 a7fa-a827 a82c a840-a873 a880-a8c5 a8d0-a8d9 a8e0-a8f7 a8fb",
  "a8fd-a92d a930-a953 a980-a9c0 a9cf-a9d9 a9e0-a9fe aa00-aa36 aa40-aa4d aa50-aa59 aa60-aa76",
  "aa7a-aac2 aadb-aadd aae0-aaef aaf2-aaf6 ab01-ab06 ab09-ab0e ab11-ab16 ab20-ab26 ab28-ab2e",
  "ab30-ab5a ab60-ab68 abc0-abea abec-abed abf0-abf9 ac00-d7a3 fa0e-fa0f fa11 fa13-fa14 fa1f",
  "fa21 fa23-fa24 fa27-fa29 fb1e fe20-fe2f fe73 10000-1000b 1000d-10026 10028-1003a 1003c-1003d",
  "1003f-1004d 10050-1005d 10080-100fa 101fd 10280-1029c 102a0-102d0 102e0 10300-1031f",
  "1032d-10340 10342-10349 10350-1037a 10380-1039d 103a0-103c3 103c8-103cf 10428-1049d",
  "104a0-104a9 104d8-104fb 10500-10527 10530-10563 10597-105a1 105a3-105b1 105b3-105b9",
  "105bb-105bc 10600-10736 10740-10755 10760-10767 10780 10800-10805 10808 1080a-10835",
  "10837-10838 1083c 1083f-10855 10860-10876 10880-1089e 108e0-108f2 108f4-108f5 10900-10915",
  "10920-10939 10980-109b7 109be-109bf 10a00-10a03 10a05-10a06 10a0c-10a13 10a15-10a17",
  "10a19-10a35 10a38-10a3a 10a3f 10a60-10a7c 10a80-10a9c 10ac0-10ac7 10ac9-10ae6 10b00-10b35",
  "10b40-10b55 10b60-10b72 10b80-10b91 10c00-10c48 10cc0-10cf2 10d00-10d27 10d30-10d39",
  "10e80-10ea9 10eab-10eac 10eb0-10eb1 10f00-10f1c 10f27 10f30-10f50 10f70-10f85 10fb0-10fc4",
  "10fe0-10ff6 11000-11046 11066-11075 1107f-110ba 110c2 110d0-110e8 110f0-110f9 11100-11134",
  "11136-1113f 11144-11147 11150-11173 11176 11180-111c4 111c9-111cc 111ce-111da 111dc",
  "11200-11211 11213-11237 1123e 11280-11286 11288 1128a-1128d 1128f-1129d 1129f-112a8",
  "112b0-112ea 112f0-112f9 11300-11303 11305-1130c 1130f-11310 11313-11328 1132a-11330",
  "11332-11333 11335-11339 1133b-11344 11347-11348 1134b-1134d 11350 11357 1135d-11363",
  "11366-1136c 11370-11374 11400-1144a 11450-11459 1145e-11461 11480-114c5 114c7 114d0-114d9",
  "11580-115b5 115b8-115c0 115d8-115dd 11600-11640 11644 11650-11659 11680-116b8 116c0-116c9",
  "11700-1171a 1171d-1172b 11730-11739 11740-11746 11800-1183a 118c0-118e9 118ff-11906 11909",
  "1190c-11913 11915-11916 11918-11935 11937-11938 1193b-11943 11950-11959 119a0-119a7",
  "119aa-119d7 119da-119e1 119e3-119e4 11a00-11a3e 11a47 11a50-11a99 11a9d 11ab0-11af8",
  "11c00-11c08 11c0a-11c36 11c38-11c40 11c50-11c59 11c72-11c8f 11c92-11ca7 11ca9-11cb6",
  "11d00-11d06 11d08-11d09 11d0b-11d36 11d3a 11d3c-11d3d 11d3f-11d47 11d50-11d59 11d60-11d65",
  "11d67-11d68 11d6a-11d8e 11d90-11d91 11d93-11d98 11da0-11da9 11ee0-11ef6 11fb0 12000-12399",
  "12480-12543 12f90-12ff0 13000-1342e 14400-14646 16800-16a38 16a40-16a5e 16a60-16a69",
  "16a70-16abe 16ac0-16ac9 16ad0-16aed 16af0-16af4 16b00-16b36 16b40-16b43 16b50-16b59",
  "16b63-16b77 16b7d-16b8f 16e60-16e7f 16f00-16f4a 16f4f-16f87 16f8f-16f9f 16fe0-16fe1",
  "16fe3-16fe4 16ff0-16ff1 17000-187f7 18800-18cd5 18d00-18d08 1aff0-1aff3 1aff5-1affb",
  "1affd-1affe 1b000-1b122 1b150-1b152 1b164-1b167 1b170-1b2fb 1bc00-1bc6a 1bc70-1bc7c",
  "1bc80-1bc88 1bc90-1bc99 1bc9d-1bc9e 1cf00-1cf2d 1cf30-1cf46 1da00-1da36 1da3b-1da6c 1da75",
  "1da84 1da9b-1da9f 1daa1-1daaf 1df00-1df1e 1e000-1e006 1e008-1e018 1e01b-1e021 1e023-1e024",
  "1e026-1e02a 1e100-1e12c 1e130-1e13d 1e140-1e149 1e14e 1e290-1e2ae 1e2c0-1e2f9 1e7e0-1e7e6",
  "1e7e8-1e7eb 1e7ed-1e7ee 1e7f0-1e7fe 1e800-1e8c4 1e8d0-1e8d6 1e922-1e94b 1e950-1e959",
  "20000-2a6df 2a700-2b738 2b740-2b81d 2b820-2cea1 2ceb0-2ebe0 30000-3134a"]

/-- The combining marks. -/
def markRanges : Ranges := Ranges.ofHex [
  "300-33f 342 346-34e 350-36f 483-487 591-5bd 5bf 5c1-5c2 5c4-5c5 5c7 610-61a 64b-65f 670",
  "6d6-6dc 6df-6e4 6e7-6e8 6ea-6ed 711 730-74a 7a6-7b0 7eb-7f3 7fd 816-819 81b-823 825-827",
  "829-82d 859-85b 898-89f 8ca-8e1 8e3-903 93a-93c 93e-94f 951-957 962-963 981-983 9bc 9be-9c4",
  "9c7-9c8 9cb-9cd 9d7 9e2-9e3 9fe a01-a03 a3c a3e-a42 a47-a48 a4b-a4d a51 a70-a71 a75 a81-a83",
  "abc abe-ac5 ac7-ac9 acb-acd ae2-ae3 afa-aff b01-b03 b3c b3e-b44 b47-b48 b4b-b4d b55-b57",
  "b62-b63 b82 bbe-bc2 bc6-bc8 bca-bcd bd7 c00-c04 c3c c3e-c44 c46-c48 c4a-c4d c55-c56 c62-c63",
  "c81-c83 cbc cbe-cc4 cc6-cc8 cca-ccd cd5-cd6 ce2-ce3 d00-d03 d3b-d3c d3e-d44 d46-d48 d4a-d4d",
  "d57 d62-d63 d81-d83 dca dcf-dd4 dd6 dd8-ddf df2-df3 e31 e34-e3a e47-e4e eb1 eb4-ebc ec8-ecd",
  "f18-f19 f35 f37 f39 f3e-f3f f71-f72 f74 f7a-f80 f82-f84 f86-f87 f8d-f92 f94-f97 f99-f9c",
  "f9e-fa1 fa3-fa6 fa8-fab fad-fb8 fba-fbc fc6 102b-103e 1056-1059 105e-1060 1062-1064",
  "1067-106d 1071-1074 1082-108d 108f 109a-109d 135d-135f 1712-1715 1732-1734 1752-1753",
  "1772-1773 17b6-17d3 17dd 1885-1886 18a9 1920-192b 1930-193b 1a17-1a1b 1a55-1a5e 1a60-1a7c",
  "1a7f 1ab0-1abd 1abf-1ace 1b00-1b04 1b34-1b44 1b6b-1b73 1b80-1b82 1ba1-1bad 1be6-1bf3",
  "1c24-1c37 1cd0-1cd2 1cd4-1ce8 1ced 1cf4 1cf7-1cf9 1dc0-1dff 2cef-2cf1 2d7f 2de0-2dff",
  "302a-302d 3099-309a a66f a674-a67d a69e-a69f a6f0-a6f1 a802 a806 a80b a823-a827 a82c",
  "a880-a881 a8b4-a8c5 a8e0-a8f1 a8ff a926-a92d a947-a953 a980-a983 a9b3-a9c0 a9e5 aa29-aa36",
  "aa43 aa4c-aa4d aa7b-aa7d aab0 aab2-aab4 aab7-aab8 aabe-aabf aac1 aaeb-aaef aaf5-aaf6",
  "abe3-abea abec-abed fb1e fe20-fe2f 101fd 102e0 10376-1037a 10a01-10a03 10a05-10a06",
  "10a0c-10a0f 10a38-10a3a 10a3f 10ae5-10ae6 10d24-10d27 10eab-10eac 10f46-10f50 10f82-10f85",
  "11000-11002 11038-11046 11070 11073-11074 1107f-11082 110b0-110ba 110c2 11100-11102",
  "11127-11134 11145-11146 11173 11180-11182 111b3-111c0 111c9-111cc 111ce-111cf 1122c-11237",
  "1123e 112df-112ea 11300-11303 1133b-1133c 1133e-11344 11347-11348 1134b-1134d 11357",
  "11362-11363 11366-1136c 11370-11374 11435-11446 1145e 114b0-114c3 115af-115b5 115b8-115c0",
  "115dc-115dd 11630-11640 116ab-116b7 1171d-1172b 1182c-1183a 11930-11935 11937-11938",
  "1193b-1193e 11940 11942-11943 119d1-119d7 119da-119e0 119e4 11a01-11a0a 11a33-11a39",
  "11a3b-11a3e 11a47 11a51-11a5b 11a8a-11a99 11c2f-11c36 11c38-11c3f 11c92-11ca7 11ca9-11cb6",
  "11d31-11d36 11d3a 11d3c-11d3d 11d3f-11d45 11d47 11d8a-11d8e 11d90-11d91 11d93-11d97",
  "11ef3-11ef6 16af0-16af4 16b30-16b36 16f4f 16f51-16f87 16f8f-16f92 16fe4 16ff0-16ff1",
  "1bc9d-1bc9e 1cf00-1cf2d 1cf30-1cf46 1da00-1da36 1da3b-1da6c 1da75 1da84 1da9b-1da9f",
  "1daa1-1daaf 1e000-1e006 1e008-1e018 1e01b-1e021 1e023-1e024 1e026-1e02a 1e130-1e136 1e2ae",
  "1e2ec-1e2ef 1e8d0-1e8d6 1e944-1e94a"]

/-- The directions of a code point, as far as names distinguish them. -/
inductive Direction where
  | leftToRight
  | rightToLeft
  | arabicLetter
  | arabicNumber
  | europeanNumber
  | europeanSeparator
  | otherNeutral
  | boundaryNeutral
  | nonspacingMark
deriving DecidableEq

/-- The code points that do not run from left to right. -/
def directionRanges : List (Direction × Ranges) := [
  (.rightToLeft, Ranges.ofHex [
    "5d0-5ea 5ef-5f4 7c0-7ea 7f4-7f5 800-815 81a 824 828 840-858 10800-10805 10808 1080a-10835",
  "10837-10838 1083c 1083f-10855 10860-10876 10880-1089e 108e0-108f2 108f4-108f5 10900-10915",
  "10920-10939 10980-109b7 109be-109bf 10a00 10a10-10a13 10a15-10a17 10a19-10a35 10a60-10a7c",
  "10a80-10a9c 10ac0-10ac7 10ac9-10ae4 10b00-10b35 10b40-10b55 10b60-10b72 10b80-10b91",
  "10c00-10c48 10cc0-10cf2 10e80-10ea9 10eb0-10eb1 10f00-10f1c 10f27 10f70-10f81 10fb0-10fc4",
  "10fe0-10ff6 1e800-1e8c4 1e922-1e943 1e94b 1e950-1e959"]),
  (.arabicLetter, Ranges.ofHex [
    "620-63f 641-64a 66e-66f 671-674 679-6d3 6d5 6e5-6e6 6ee-6ef 6fa-6ff 710 712-72f 74d-7a5 7b1",
  "860-86a 870-887 889-88e 8a0-8c9 fe73 10d00-10d23 10f30-10f45"]),
  (.arabicNumber, Ranges.ofHex ["660-669 10d30-10d39"]),
  (.europeanNumber, Ranges.ofHex ["6f0-6f9"]),
  (.otherNeutral, Ranges.ofHex ["b7 2b9-2ba 2c6-2cf 2ec 375 2e2f 30fb a67f a717-a71f a788"]),
  (.boundaryNeutral, Ranges.ofHex ["200c-200d"]),
  (.nonspacingMark, Ranges.ofHex [
    "300-33f 342 346-34e 350-36f 483-487 591-5bd 5bf 5c1-5c2 5c4-5c5 5c7 610-61a 64b-65f 670",
  "6d6-6dc 6df-6e4 6e7-6e8 6ea-6ed 711 730-74a 7a6-7b0 7eb-7f3 7fd 816-819 81b-823 825-827",
  "829-82d 859-85b 898-89f 8ca-8e1 8e3-902 93a 93c 941-948 94d 951-957 962-963 981 9bc 9c1-9c4",
  "9cd 9e2-9e3 9fe a01-a02 a3c a41-a42 a47-a48 a4b-a4d a51 a70-a71 a75 a81-a82 abc ac1-ac5",
  "ac7-ac8 acd ae2-ae3 afa-aff b01 b3c b3f b41-b44 b4d b55-b56 b62-b63 b82 bc0 bcd c00 c04 c3c",
  "c3e-c40 c46-c48 c4a-c4d c55-c56 c62-c63 c81 cbc ccc-ccd ce2-ce3 d00-d01 d3b-d3c d41-d44 d4d",
  "d62-d63 d81 dca dd2-dd4 dd6 e31 e34-e3a e47-e4e eb1 eb4-ebc ec8-ecd f18-f19 f35 f37 f39",
  "f71-f72 f74 f7a-f7e f80 f82-f84 f86-f87 f8d-f92 f94-f97 f99-f9c f9e-fa1 fa3-fa6 fa8-fab",
  "fad-fb8 fba-fbc fc6 102d-1030 1032-1037 1039-103a 103d-103e 1058-1059 105e-1060 1071-1074",
  "1082 1085-1086 108d 109d 135d-135f 1712-1714 1732-1733 1752-1753 1772-1773 17b7-17bd 17c6",
  "17c9-17d3 17dd 1885-1886 18a9 1920-1922 1927-1928 1932 1939-193b 1a17-1a18 1a1b 1a56",
  "1a58-1a5e 1a60 1a62 1a65-1a6c 1a73-1a7c 1a7f 1ab0-1abd 1abf-1ace 1b00-1b03 1b34 1b36-1b3a",
  "1b3c 1b42 1b6b-1b73 1b80-1b81 1ba2-1ba5 1ba8-1ba9 1bab-1bad 1be6 1be8-1be9 1bed 1bef-1bf1",
  "1c2c-1c33 1c36-1c37 1cd0-1cd2 1cd4-1ce0 1ce2-1ce8 1ced 1cf4 1cf8-1cf9 1dc0-1dff 2cef-2cf1",
  "2d7f 2de0-2dff 302a-302d 3099-309a a66f a674-a67d a69e-a69f a6f0-a6f1 a802 a806 a80b",
  "a825-a826 a82c a8c4-a8c5 a8e0-a8f1 a8ff a926-a92d a947-a951 a980-a982 a9b3 a9b6-a9b9",
  "a9bc-a9bd a9e5 aa29-aa2e aa31-aa32 aa35-aa36 aa43 aa4c aa7c aab0 aab2-aab4 aab7-aab8",
  "aabe-aabf aac1 aaec-aaed aaf6 abe5 abe8 abed fb1e fe20-fe2f 101fd 102e0 10376-1037a",
  "10a01-10a03 10a05-10a06 10a0c-10a0f 10a38-10a3a 10a3f 10ae5-10ae6 10d24-10d27 10eab-10eac",
  "10f46-10f50 10f82-10f85 11001 11038-11046 11070 11073-11074 1107f-11081 110b3-110b6",
  "110b9-110ba 110c2 11100-11102 11127-1112b 1112d-11134 11173 11180-11181 111b6-111be",
  "111c9-111cc 111cf 1122f-11231 11234 11236-11237 1123e 112df 112e3-112ea 11300-11301",
  "1133b-1133c 11340 11366-1136c 11370-11374 11438-1143f 11442-11444 11446 1145e 114b3-114b8",
  "114ba 114bf-114c0 114c2-114c3 115b2-115b5 115bc-115bd 115bf-115c0 115dc-115dd 11633-1163a",
  "1163d 1163f-11640 116ab 116ad 116b0-116b5 116b7 1171d-1171f 11722-11725 11727-1172b",
  "1182f-11837 11839-1183a 1193b-1193c 1193e 11943 119d4-119d7 119da-119db 119e0 11a01-11a06",
  "11a09-11a0a 11a33-11a38 11a3b-11a3e 11a47 11a51-11a56 11a59-11a5b 11a8a-11a96 11a98-11a99",
  "11c30-11c36 11c38-11c3d 11c92-11ca7 11caa-11cb0 11cb2-11cb3 11cb5-11cb6 11d31-11d36 11d3a",
  "11d3c-11d3d 11d3f-11d45 11d47 11d90-11d91 11d95 11d97 11ef3-11ef4 16af0-16af4 16b30-16b36",
  "16f4f 16f8f-16f92 16fe4 1bc9d-1bc9e 1cf00-1cf2d 1cf30-1cf46 1da00-1da36 1da3b-1da6c 1da75",
  "1da84 1da9b-1da9f 1daa1-1daaf 1e000-1e006 1e008-1e018 1e01b-1e021 1e023-1e024 1e026-1e02a",
  "1e130-1e136 1e2ae 1e2ec-1e2ef 1e8d0-1e8d6 1e944-1e94a"])]

/-- How a code point joins its neighbours in a cursive script. -/
inductive Joining where
  | transparent
  | dual
  | right
  | left
deriving DecidableEq

/-- The code points that join. -/
def joiningRanges : List (Joining × Ranges) := [
  (.transparent, Ranges.ofHex [
    "300-33f 342 346-34e 350-36f 483-487 591-5bd 5bf 5c1-5c2 5c4-5c5 5c7 610-61a 64b-65f 670",
  "6d6-6dc 6df-6e4 6e7-6e8 6ea-6ed 711 730-74a 7a6-7b0 7eb-7f3 7fd 816-819 81b-823 825-827",
  "829-82d 859-85b 898-89f 8ca-8e1 8e3-902 93a 93c 941-948 94d 951-957 962-963 981 9bc 9c1-9c4",
  "9cd 9e2-9e3 9fe a01-a02 a3c a41-a42 a47-a48 a4b-a4d a51 a70-a71 a75 a81-a82 abc ac1-ac5",
  "ac7-ac8 acd ae2-ae3 afa-aff b01 b3c b3f b41-b44 b4d b55-b56 b62-b63 b82 bc0 bcd c00 c04 c3c",
  "c3e-c40 c46-c48 c4a-c4d c55-c56 c62-c63 c81 cbc cbf cc6 ccc-ccd ce2-ce3 d00-d01 d3b-d3c",
  "d41-d44 d4d d62-d63 d81 dca dd2-dd4 dd6 e31 e34-e3a e47-e4e eb1 eb4-ebc ec8-ecd f18-f19 f35",
  "f37 f39 f71-f72 f74 f7a-f7e f80 f82-f84 f86-f87 f8d-f92 f94-f97 f99-f9c f9e-fa1 fa3-fa6",
  "fa8-fab fad-fb8 fba-fbc fc6 102d-1030 1032-1037 1039-103a 103d-103e 1058-1059 105e-1060",
  "1071-1074 1082 1085-1086 108d 109d 135d-135f 1712-1714 1732-1733 1752-1753 1772-1773",
  "17b7-17bd 17c6 17c9-17d3 17dd 1885-1886 18a9 1920-1922 1927-1928 1932 1939-193b 1a17-1a18",
  "1a1b 1a56 1a58-1a5e 1a60 1a62 1a65-1a6c 1a73-1a7c 1a7f 1ab0-1abd 1abf-1ace 1b00-1b03 1b34",
  "1b36-1b3a 1b3c 1b42 1b6b-1b73 1b80-1b81 1ba2-1ba5 1ba8-1ba9 1bab-1bad 1be6 1be8-1be9 1bed",
  "1bef-1bf1 1c2c-1c33 1c36-1c37 1cd0-1cd2 1cd4-1ce0 1ce2-1ce8 1ced 1cf4 1cf8-1cf9 1dc0-1dff",
  "2cef-2cf1 2d7f 2de0-2dff 302a-302d 3099-309a a66f a674-a67d a69e-a69f a6f0-a6f1 a802 a806",
  "a80b a825-a826 a82c a8c4-a8c5 a8e0-a8f1 a8ff a926-a92d a947-a951 a980-a982 a9b3 a9b6-a9b9",
  "a9bc-a9bd a9e5 aa29-aa2e aa31-aa32 aa35-aa36 aa43 aa4c aa7c aab0 aab2-aab4 aab7-aab8",
  "aabe-aabf aac1 aaec-aaed aaf6 abe5 abe8 abed fb1e fe20-fe2f 101fd 102e0 10376-1037a",
  "10a01-10a03 10a05-10a06 10a0c-10a0f 10a38-10a3a 10a3f 10ae5-10ae6 10d24-10d27 10eab-10eac",
  "10f46-10f50 10f82-10f85 11001 11038-11046 11070 11073-11074 1107f-11081 110b3-110b6",
  "110b9-110ba 110c2 11100-11102 11127-1112b 1112d-11134 11173 11180-11181 111b6-111be",
  "111c9-111cc 111cf 1122f-11231 11234 11236-11237 1123e 112df 112e3-112ea 11300-11301",
  "1133b-1133c 11340 11366-1136c 11370-11374 11438-1143f 11442-11444 11446 1145e 114b3-114b8",
  "114ba 114bf-114c0 114c2-114c3 115b2-115b5 115bc-115bd 115bf-115c0 115dc-115dd 11633-1163a",
  "1163d 1163f-11640 116ab 116ad 116b0-116b5 116b7 1171d 1171f 11722-11725 11727-1172b",
  "1182f-11837 11839-1183a 1193b-1193c 1193e 11943 119d4-119d7 119da-119db 119e0 11a01-11a0a",
  "11a33-11a38 11a3b-11a3e 11a47 11a51-11a56 11a59-11a5b 11a8a-11a96 11a98-11a99 11c30-11c36",
  "11c38-11c3d 11c3f 11c92-11ca7 11caa-11cb0 11cb2-11cb3 11cb5-11cb6 11d31-11d36 11d3a",
  "11d3c-11d3d 11d3f-11d45 11d47 11d90-11d91 11d95 11d97 11ef3-11ef4 16af0-16af4 16b30-16b36",
  "16f4f 16f8f-16f92 16fe4 1bc9d-1bc9e 1cf00-1cf2d 1cf30-1cf46 1da00-1da36 1da3b-1da6c 1da75",
  "1da84 1da9b-1da9f 1daa1-1daaf 1e000-1e006 1e008-1e018 1e01b-1e021 1e023-1e024 1e026-1e02a",
  "1e130-1e136 1e2ae 1e2ec-1e2ef 1e8d0-1e8d6 1e944-1e94b"]),
  (.dual, Ranges.ofHex [
    "620 626 628 62a-62e 633-63f 641-647 649-64a 66e-66f 679-687 69a-6bf 6c1-6c2 6cc 6ce 6d0-6d1",
  "6fa-6fc 6ff 712-714 71a-71d 71f-727 729 72b 72d-72e 74e-758 75c-76a 76d-770 772 775-777",
  "77a-77f 7ca-7ea 841-845 848 84a-853 855 860 862-865 868 886 889-88d 8a0-8a9 8af-8b0 8b3-8b8",
  "8ba-8c8 1820-1878 1887-18a8 18aa a840-a871 10ac0-10ac4 10ad3-10ad6 10ad8-10adc 10ade-10ae0",
  "10b80 10b82 10b86-10b88 10b8a-10b8b 10b8d 10b90 10d01-10d21 10d23 10f30-10f32 10f34-10f44",
  "10f70-10f73 10f76-10f81 10fb0 10fb2-10fb3 10fb8 10fbb-10fbc 10fbe-10fbf 10fc1 10fc4",
  "1e922-1e943"]),
  (.right, Ranges.ofHex [
    "622-625 627 629 62f-632 648 671-673 688-699 6c0 6c3-6cb 6cd 6cf 6d2-6d3 6d5 6ee-6ef 710",
  "715-719 71e 728 72a 72c 72f 74d 759-75b 76b-76c 771 773-774 778-779 840 846-847 849 854",
  "856-858 867 869-86a 870-882 88e 8aa-8ac 8ae 8b1-8b2 8b9 10ac5 10ac7 10ac9-10aca 10ace-10ad2",
  "10add 10ae1 10ae4 10b81 10b83-10b85 10b89 10b8c 10b8e-10b8f 10b91 10d22 10f33 10f74-10f75",
  "10fb4-10fb6 10fb9-10fba 10fbd 10fc2-10fc3"]),
  (.left, Ranges.ofHex ["a872 10acd 10ad7 10d00"])]

/-- The scripts that some rules ask for. -/
inductive Script where
  | greek
  | hebrew
  | hiragana
  | katakana
  | han
deriving DecidableEq

/-- The code points of a script. -/
def scriptRanges : Script → Ranges
  | .greek => Ranges.ofHex [
    "370-373 375-377 37a-37d 37f 384 386 388-38a 38c 38e-3a1 3a3-3e1 3f0-3ff 1d26-1d2a 1d5d-1d61",
  "1d66-1d6a 1dbf 1f00-1f15 1f18-1f1d 1f20-1f45 1f48-1f4d 1f50-1f57 1f59 1f5b 1f5d 1f5f-1f7d",
  "1f80-1fb4 1fb6-1fc4 1fc6-1fd3 1fd6-1fdb 1fdd-1fef 1ff2-1ff4 1ff6-1ffe 2126 ab65 10140-1018e",
  "101a0 1d200-1d245"]
  | .hebrew => Ranges.ofHex [
    "591-5c7 5d0-5ea 5ef-5f4 fb1d-fb36 fb38-fb3c fb3e fb40-fb41 fb43-fb44 fb46-fb4f"]
  | .hiragana => Ranges.ofHex ["3041-3096 309d-309f 1b001-1b11f 1b132 1b150-1b152 1f200"]
  | .katakana => Ranges.ofHex [
    "30a1-30fa 30fd-30ff 31f0-31ff 32d0-32fe 3300-3357 ff66-ff6f ff71-ff9d 1aff0-1aff3",
  "1aff5-1affb 1affd-1affe 1b000 1b120-1b122 1b155 1b164-1b167"]
  | .han => Ranges.ofHex [
    "2e80-2e99 2e9b-2ef3 2f00-2fd5 3005 3007 3021-3029 3038-303b 3400-4dbf 4e00-9fff f900-fa6d",
  "fa70-fad9 16fe2-16fe3 16ff0-16ff6 20000-2a6df 2a700-2b81d 2b820-2cead 2ceb0-2ebe0",
  "2ebf0-2ee5d 2f800-2fa1d 30000-3134a 31350-33479"]

/-- The combining classes other than zero. -/
def combiningRanges : List (Nat × Ranges) := [
  (1, Ranges.ofHex ["334-338 1cd4 1ce2-1ce8 10a39 16af0-16af4 1bc9e"]),
  (6, Ranges.ofHex ["16ff0-16ff1"]),
  (7, Ranges.ofHex [
    "93c 9bc a3c abc b3c c3c cbc 1037 1b34 1be6 1c37 a9b3 110ba 11173 111ca 11236 112e9",
  "1133b-1133c 11446 114c3 115c0 116b7 1183a 11943 11d42 1e94a"]),
  (8, Ranges.ofHex ["3099-309a"]),
  (9, Ranges.ofHex [
    "94d 9cd a4d acd b4d bcd c4d ccd d3b-d3c d4d dca e3a eba f84 1039-103a 1714-1715 1734 17d2",
  "1a60 1b44 1baa-1bab 1bf2-1bf3 2d7f a806 a82c a8c4 a953 a9c0 aaf6 abed 10a3f 11046 11070",
  "1107f 110b9 11133-11134 111c0 11235 112ea 1134d 11442 114c2 115bf 1163f 116b6 1172b 11839",
  "1193d-1193e 119e0 11a34 11a47 11a99 11c3f 11d44-11d45 11d97"]),
  (10, Ranges.ofHex ["5b0"]),
  (11, Ranges.ofHex ["5b1"]),
  (12, Ranges.ofHex ["5b2"]),
  (13, Ranges.ofHex ["5b3"]),
  (14, Ranges.ofHex ["5b4"]),
  (15, Ranges.ofHex ["5b5"]),
  (16, Ranges.ofHex ["5b6"]),
  (17, Ranges.ofHex ["5b7"]),
  (18, Ranges.ofHex ["5b8 5c7"]),
  (19, Ranges.ofHex ["5b9-5ba"]),
  (20, Ranges.ofHex ["5bb"]),
  (21, Ranges.ofHex ["5bc"]),
  (22, Ranges.ofHex ["5bd"]),
  (23, Ranges.ofHex ["5bf"]),
  (24, Ranges.ofHex ["5c1"]),
  (25, Ranges.ofHex ["5c2"]),
  (26, Ranges.ofHex ["fb1e"]),
  (27, Ranges.ofHex ["64b 8f0"]),
  (28, Ranges.ofHex ["64c 8f1"]),
  (29, Ranges.ofHex ["64d 8f2"]),
  (30, Ranges.ofHex ["618 64e"]),
  (31, Ranges.ofHex ["619 64f"]),
  (32, Ranges.ofHex ["61a 650"]),
  (33, Ranges.ofHex ["651"]),
  (34, Ranges.ofHex ["652"]),
  (35, Ranges.ofHex ["670"]),
  (36, Ranges.ofHex ["711"]),
  (84, Ranges.ofHex ["c55"]),
  (91, Ranges.ofHex ["c56"]),
  (103, Ranges.ofHex ["e38-e39"]),
  (107, Ranges.ofHex ["e48-e4b"]),
  (118, Ranges.ofHex ["eb8-eb9"]),
  (122, Ranges.ofHex ["ec8-ecb"]),
  (129, Ranges.ofHex ["f71"]),
  (130, Ranges.ofHex ["f72 f7a-f7d f80"]),
  (132, Ranges.ofHex ["f74"]),
  (202, Ranges.ofHex ["321-322 327-328 1dd0"]),
  (214, Ranges.ofHex ["1dce"]),
  (216, Ranges.ofHex ["31b f39"]),
  (218, Ranges.ofHex ["1dfa 302a"]),
  (220, Ranges.ofHex [
    "316-319 31c-320 323-326 329-333 339-33c 347-349 34d-34e 353-356 359-35a 591 596 59b 5a2-5a7",
  "5aa 5c5 655-656 65c 65f 6e3 6ea 6ed 731 734 737-739 73b-73c 73e 742 744 746 748 7f2 7fd",
  "859-85b 899-89b 8cf-8d3 8e3 8e6 8e9 8ed-8ef 8f6 8f9-8fa 952 f18-f19 f35 f37 fc6 108d 193b",
  "1a18 1a7f 1ab5-1aba 1abd 1abf-1ac0 1ac3-1ac4 1aca 1b6c 1cd5-1cd9 1cdc-1cdf 1ced 1dc2 1dca",
  "1dcf 1df9 1dfd 1dff a92b-a92d aab4 fe27-fe2d 101fd 102e0 10a0d 10a3a 10ae6 10f46-10f47 10f4b",
  "10f4d-10f50 10f83 10f85 1e8d0-1e8d6"]),
  (222, Ranges.ofHex ["59a 5ad 1939 302d"]),
  (228, Ranges.ofHex ["5ae 18a9 1df7-1df8 302b"]),
  (230, Ranges.ofHex [
    "300-314 33d-33f 342 346 34a-34c 350-352 357 35b 363-36f 483-487 592-595 597-599 59c-5a1",
  "5a8-5a9 5ab-5ac 5af 5c4 610-617 653-654 657-65b 65d-65e 6d6-6dc 6df-6e2 6e4 6e7-6e8 6eb-6ec",
  "730 732-733 735-736 73a 73d 73f-741 743 745 747 749-74a 7eb-7f1 7f3 816-819 81b-823 825-827",
  "829-82d 898 89c-89f 8ca-8ce 8d4-8e1 8e4-8e5 8e7-8e8 8ea-8ec 8f3-8f5 8f7-8f8 8fb-8ff 951",
  "953-954 9fe f82-f83 f86-f87 135d-135f 17dd 193a 1a17 1a75-1a7c 1ab0-1ab4 1abb-1abc 1ac1-1ac2",
  "1ac5-1ac9 1acb-1ace 1b6b 1b6d-1b73 1cd0-1cd2 1cda-1cdb 1ce0 1cf4 1cf8-1cf9 1dc0-1dc1",
  "1dc3-1dc9 1dcb-1dcc 1dd1-1df5 1dfb 1dfe 2cef-2cf1 2de0-2dff a66f a674-a67d a69e-a69f",
  "a6f0-a6f1 a8e0-a8f1 aab0 aab2-aab3 aab7-aab8 aabe-aabf aac1 fe20-fe26 fe2e-fe2f 10376-1037a",
  "10a0f 10a38 10ae5 10d24-10d27 10eab-10eac 10f48-10f4a 10f4c 10f82 10f84 11100-11102",
  "11366-1136c 11370-11374 1145e 16b30-16b36 1e000-1e006 1e008-1e018 1e01b-1e021 1e023-1e024",
  "1e026-1e02a 1e130-1e136 1e2ae 1e2ec-1e2ef 1e944-1e949"]),
  (232, Ranges.ofHex ["315 31a 358 1df6 302c"]),
  (233, Ranges.ofHex ["35c 35f 362 1dfc"]),
  (234, Ranges.ofHex ["35d-35e 360-361 1dcd"])]

/-- The canonical decompositions into two code points, each as three numbers: the composite,
then its two parts. -/
def decompositionText : List String := [
  "e0 61 300 e1 61 301 e2 61 302 e3 61 303 e4 61 308 e5 61 30a e7 63 327 e8 65 300 e9 65 301 ea",
  "65 302 eb 65 308 ec 69 300 ed 69 301 ee 69 302 ef 69 308 f1 6e 303 f2 6f 300 f3 6f 301 f4 6f",
  "302 f5 6f 303 f6 6f 308 f9 75 300 fa 75 301 fb 75 302 fc 75 308 fd 79 301 ff 79 308 101 61",
  "304 103 61 306 105 61 328 107 63 301 109 63 302 10b 63 307 10d 63 30c 10f 64 30c 113 65 304",
  "115 65 306 117 65 307 119 65 328 11b 65 30c 11d 67 302 11f 67 306 121 67 307 123 67 327 125",
  "68 302 129 69 303 12b 69 304 12d 69 306 12f 69 328 135 6a 302 137 6b 327 13a 6c 301 13c 6c",
  "327 13e 6c 30c 144 6e 301 146 6e 327 148 6e 30c 14d 6f 304 14f 6f 306 151 6f 30b 155 72 301",
  "157 72 327 159 72 30c 15b 73 301 15d 73 302 15f 73 327 161 73 30c 163 74 327 165 74 30c 169",
  "75 303 16b 75 304 16d 75 306 16f 75 30a 171 75 30b 173 75 328 175 77 302 177 79 302 17a 7a",
  "301 17c 7a 307 17e 7a 30c 1a1 6f 31b 1b0 75 31b 1ce 61 30c 1d0 69 30c 1d2 6f 30c 1d4 75 30c",
  "1d6 fc 304 1d8 fc 301 1da fc 30c 1dc fc 300 1df e4 304 1e1 227 304 1e3 e6 304 1e7 67 30c 1e9",
  "6b 30c 1eb 6f 328 1ed 1eb 304 1ef 292 30c 1f0 6a 30c 1f5 67 301 1f9 6e 300 1fb e5 301 1fd e6",
  "301 1ff f8 301 201 61 30f 203 61 311 205 65 30f 207 65 311 209 69 30f 20b 69 311 20d 6f 30f",
  "20f 6f 311 211 72 30f 213 72 311 215 75 30f 217 75 311 219 73 326 21b 74 326 21f 68 30c 227",
  "61 307 229 65 327 22b f6 304 22d f5 304 22f 6f 307 231 22f 304 233 79 304 390 3ca 301 3ac",
  "3b1 301 3ad 3b5 301 3ae 3b7 301 3af 3b9 301 3b0 3cb 301 3ca 3b9 308 3cb 3c5 308 3cc 3bf 301",
  "3cd 3c5 301 3ce 3c9 301 439 438 306 450 435 300 451 435 308 453 433 301 457 456 308 45c 43a",
  "301 45d 438 300 45e 443 306 477 475 30f 4c2 436 306 4d1 430 306 4d3 430 308 4d7 435 306 4db",
  "4d9 308 4dd 436 308 4df 437 308 4e3 438 304 4e5 438 308 4e7 43e 308 4eb 4e9 308 4ed 44d 308",
  "4ef 443 304 4f1 443 308 4f3 443 30b 4f5 447 308 4f9 44b 308 622 627 653 623 627 654 624 648",
  "654 625 627 655 626 64a 654 6c0 6d5 654 6c2 6c1 654 6d3 6d2 654 929 928 93c 931 930 93c 934",
  "933 93c 9cb 9c7 9be 9cc 9c7 9d7 b48 b47 b56 b4b b47 b3e b4c b47 b57 b94 b92 bd7 bca bc6 bbe",
  "bcb bc7 bbe bcc bc6 bd7 c48 c46 c56 cc0 cbf cd5 cc7 cc6 cd5 cc8 cc6 cd6 cca cc6 cc2 ccb cca",
  "cd5 d4a d46 d3e d4b d47 d3e d4c d46 d57 dda dd9 dca ddc dd9 dcf ddd ddc dca dde dd9 ddf 1026",
  "1025 102e 1b06 1b05 1b35 1b08 1b07 1b35 1b0a 1b09 1b35 1b0c 1b0b 1b35 1b0e 1b0d 1b35 1b12",
  "1b11 1b35 1b3b 1b3a 1b35 1b3d 1b3c 1b35 1b40 1b3e 1b35 1b41 1b3f 1b35 1b43 1b42 1b35 1e01 61",
  "325 1e03 62 307 1e05 62 323 1e07 62 331 1e09 e7 301 1e0b 64 307 1e0d 64 323 1e0f 64 331 1e11",
  "64 327 1e13 64 32d 1e15 113 300 1e17 113 301 1e19 65 32d 1e1b 65 330 1e1d 229 306 1e1f 66",
  "307 1e21 67 304 1e23 68 307 1e25 68 323 1e27 68 308 1e29 68 327 1e2b 68 32e 1e2d 69 330 1e2f",
  "ef 301 1e31 6b 301 1e33 6b 323 1e35 6b 331 1e37 6c 323 1e39 1e37 304 1e3b 6c 331 1e3d 6c 32d",
  "1e3f 6d 301 1e41 6d 307 1e43 6d 323 1e45 6e 307 1e47 6e 323 1e49 6e 331 1e4b 6e 32d 1e4d f5",
  "301 1e4f f5 308 1e51 14d 300 1e53 14d 301 1e55 70 301 1e57 70 307 1e59 72 307 1e5b 72 323",
  "1e5d 1e5b 304 1e5f 72 331 1e61 73 307 1e63 73 323 1e65 15b 307 1e67 161 307 1e69 1e63 307",
  "1e6b 74 307 1e6d 74 323 1e6f 74 331 1e71 74 32d 1e73 75 324 1e75 75 330 1e77 75 32d 1e79 169",
  "301 1e7b 16b 308 1e7d 76 303 1e7f 76 323 1e81 77 300 1e83 77 301 1e85 77 308 1e87 77 307",
  "1e89 77 323 1e8b 78 307 1e8d 78 308 1e8f 79 307 1e91 7a 302 1e93 7a 323 1e95 7a 331 1e96 68",
  "331 1e97 74 308 1e98 77 30a 1e99 79 30a 1ea1 61 323 1ea3 61 309 1ea5 e2 301 1ea7 e2 300 1ea9",
  "e2 309 1eab e2 303 1ead 1ea1 302 1eaf 103 301 1eb1 103 300 1eb3 103 309 1eb5 103 303 1eb7",
  "1ea1 306 1eb9 65 323 1ebb 65 309 1ebd 65 303 1ebf ea 301 1ec1 ea 300 1ec3 ea 309 1ec5 ea 303",
  "1ec7 1eb9 302 1ec9 69 309 1ecb 69 323 1ecd 6f 323 1ecf 6f 309 1ed1 f4 301 1ed3 f4 300 1ed5",
  "f4 309 1ed7 f4 303 1ed9 1ecd 302 1edb 1a1 301 1edd 1a1 300 1edf 1a1 309 1ee1 1a1 303 1ee3",
  "1a1 323 1ee5 75 323 1ee7 75 309 1ee9 1b0 301 1eeb 1b0 300 1eed 1b0 309 1eef 1b0 303 1ef1 1b0",
  "323 1ef3 79 300 1ef5 79 323 1ef7 79 309 1ef9 79 303 1f00 3b1 313 1f01 3b1 314 1f02 1f00 300",
  "1f03 1f01 300 1f04 1f00 301 1f05 1f01 301 1f06 1f00 342 1f07 1f01 342 1f10 3b5 313 1f11 3b5",
  "314 1f12 1f10 300 1f13 1f11 300 1f14 1f10 301 1f15 1f11 301 1f20 3b7 313 1f21 3b7 314 1f22",
  "1f20 300 1f23 1f21 300 1f24 1f20 301 1f25 1f21 301 1f26 1f20 342 1f27 1f21 342 1f30 3b9 313",
  "1f31 3b9 314 1f32 1f30 300 1f33 1f31 300 1f34 1f30 301 1f35 1f31 301 1f36 1f30 342 1f37 1f31",
  "342 1f40 3bf 313 1f41 3bf 314 1f42 1f40 300 1f43 1f41 300 1f44 1f40 301 1f45 1f41 301 1f50",
  "3c5 313 1f51 3c5 314 1f52 1f50 300 1f53 1f51 300 1f54 1f50 301 1f55 1f51 301 1f56 1f50 342",
  "1f57 1f51 342 1f60 3c9 313 1f61 3c9 314 1f62 1f60 300 1f63 1f61 300 1f64 1f60 301 1f65 1f61",
  "301 1f66 1f60 342 1f67 1f61 342 1f70 3b1 300 1f72 3b5 300 1f74 3b7 300 1f76 3b9 300 1f78 3bf",
  "300 1f7a 3c5 300 1f7c 3c9 300 1fb0 3b1 306 1fb1 3b1 304 1fb6 3b1 342 1fc6 3b7 342 1fd0 3b9",
  "306 1fd1 3b9 304 1fd2 3ca 300 1fd6 3b9 342 1fd7 3ca 342 1fe0 3c5 306 1fe1 3c5 304 1fe2 3cb",
  "300 1fe4 3c1 313 1fe5 3c1 314 1fe6 3c5 342 1fe7 3cb 342 1ff6 3c9 342 304c 304b 3099 304e",
  "304d 3099 3050 304f 3099 3052 3051 3099 3054 3053 3099 3056 3055 3099 3058 3057 3099 305a",
  "3059 3099 305c 305b 3099 305e 305d 3099 3060 305f 3099 3062 3061 3099 3065 3064 3099 3067",
  "3066 3099 3069 3068 3099 3070 306f 3099 3071 306f 309a 3073 3072 3099 3074 3072 309a 3076",
  "3075 3099 3077 3075 309a 3079 3078 3099 307a 3078 309a 307c 307b 3099 307d 307b 309a 3094",
  "3046 3099 309e 309d 3099 30ac 30ab 3099 30ae 30ad 3099 30b0 30af 3099 30b2 30b1 3099 30b4",
  "30b3 3099 30b6 30b5 3099 30b8 30b7 3099 30ba 30b9 3099 30bc 30bb 3099 30be 30bd 3099 30c0",
  "30bf 3099 30c2 30c1 3099 30c5 30c4 3099 30c7 30c6 3099 30c9 30c8 3099 30d0 30cf 3099 30d1",
  "30cf 309a 30d3 30d2 3099 30d4 30d2 309a 30d6 30d5 3099 30d7 30d5 309a 30d9 30d8 3099 30da",
  "30d8 309a 30dc 30db 3099 30dd 30db 309a 30f4 30a6 3099 30f7 30ef 3099 30f8 30f0 3099 30f9",
  "30f1 3099 30fa 30f2 3099 30fe 30fd 3099 1109a 11099 110ba 1109c 1109b 110ba 110ab 110a5",
  "110ba 1112e 11131 11127 1112f 11132 11127 1134b 11347 1133e 1134c 11347 11357 114bb 114b9",
  "114ba 114bc 114b9 114b0 114be 114b9 114bd 115ba 115b8 115af 115bb 115b9 115af 11938 11935",
  "11930"]

end CloudAccess.Idna
