/-!
# Classes of characters in domain names

Ranges of code points, first and last ones, in hexadecimal.
-/

namespace StageRelay.Domain

/-- The characters beyond ASCII that may stand in a domain name as they are. -/
def validRanges : String :=
"a1 a7 a9 a9 ab ac ae ae b0 b1 b6 b7 bb bb bf bf d7 d7 df ff 101 101 103 103 105 105 107 107
109 109 10b 10b 10d 10d 10f 10f 111 111 113 113 115 115 117 117 119 119 11b 11b 11d 11d 11f 11f
121 121 123 123 125 125 127 127 129 129 12b 12b 12d 12d 12f 12f 131 131 135 135 137 138 13a 13a
13c 13c 13e 13e 142 142 144 144 146 146 148 148 14b 14b 14d 14d 14f 14f 151 151 153 153 155 155
157 157 159 159 15b 15b 15d 15d 15f 15f 161 161 163 163 165 165 167 167 169 169 16b 16b 16d 16d
16f 16f 171 171 173 173 175 175 177 177 17a 17a 17c 17c 17e 17e 180 180 183 183 185 185 188 188
18c 18d 192 192 195 195 199 19b 19e 19e 1a1 1a1 1a3 1a3 1a5 1a5 1a8 1a8 1aa 1ab 1ad 1ad 1b0 1b0
1b4 1b4 1b6 1b6 1b9 1bb 1bd 1c3 1ce 1ce 1d0 1d0 1d2 1d2 1d4 1d4 1d6 1d6 1d8 1d8 1da 1da 1dc 1dd
1df 1df 1e1 1e1 1e3 1e3 1e5 1e5 1e7 1e7 1e9 1e9 1eb 1eb 1ed 1ed 1ef 1f0 1f5 1f5 1f9 1f9 1fb 1fb
1fd 1fd 1ff 1ff 201 201 203 203 205 205 207 207 209 209 20b 20b 20d 20d 20f 20f 211 211 213 213
215 215 217 217 219 219 21b 21b 21d 21d 21f 21f 221 221 223 223 225 225 227 227 229 229 22b 22b
22d 22d 22f 22f 231 231 233 239 23c 23c 23f 240 242 242 247 247 249 249 24b 24b 24d 24d 24f 2af
2b9 2d7 2de 2df 2e5 33f 342 342 346 34e 350 36f 371 371 373 373 375 375 377 377 37b 37d 390 390
3ac 3ce 3d7 3d7 3d9 3d9 3db 3db 3dd 3dd 3df 3df 3e1 3e1 3e3 3e3 3e5 3e5 3e7 3e7 3e9 3e9 3eb 3eb
3ed 3ed 3ef 3ef 3f3 3f3 3f6 3f6 3f8 3f8 3fb 3fc 430 45f 461 461 463 463 465 465 467 467 469 469
46b 46b 46d 46d 46f 46f 471 471 473 473 475 475 477 477 479 479 47b 47b 47d 47d 47f 47f 481 489
48b 48b 48d 48d 48f 48f 491 491 493 493 495 495 497 497 499 499 49b 49b 49d 49d 49f 49f 4a1 4a1
4a3 4a3 4a5 4a5 4a7 4a7 4a9 4a9 4ab 4ab 4ad 4ad 4af 4af 4b1 4b1 4b3 4b3 4b5 4b5 4b7 4b7 4b9 4b9
4bb 4bb 4bd 4bd 4bf 4bf 4c2 4c2 4c4 4c4 4c6 4c6 4c8 4c8 4ca 4ca 4cc 4cc 4ce 4cf 4d1 4d1 4d3 4d3
4d5 4d5 4d7 4d7 4d9 4d9 4db 4db 4dd 4dd 4df 4df 4e1 4e1 4e3 4e3 4e5 4e5 4e7 4e7 4e9 4e9 4eb 4eb
4ed 4ed 4ef 4ef 4f1 4f1 4f3 4f3 4f5 4f5 4f7 4f7 4f9 4f9 4fb 4fb 4fd 4fd 4ff 4ff 501 501 503 503
505 505 507 507 509 509 50b 50b 50d 50d 50f 50f 511 511 513 513 515 515 517 517 519 519 51b 51b
51d 51d 51f 51f 521 521 523 523 525 525 527 527 529 529 52b 52b 52d 52d 52f 52f 559 586 588 58a
58d 58f 591 5c7 5d0 5ea 5ef 5f4 606 61b 61d 674 679 6dc 6de 70d 710 74a 74d 7b1 7c0 7fa 7fd 82d
830 83e 840 85b 85e 85e 860 86a 870 88e 898 8e1 8e3 957 960 983 985 98c 98f 990 993 9a8 9aa 9b0
9b2 9b2 9b6 9b9 9bc 9c4 9c7 9c8 9cb 9ce 9d7 9d7 9e0 9e3 9e6 9fe a01 a03 a05 a0a a0f a10 a13 a28
a2a a30 a32 a32 a35 a35 a38 a39 a3c a3c a3e a42 a47 a48 a4b a4d a51 a51 a5c a5c a66 a76 a81 a83
a85 a8d a8f a91 a93 aa8 aaa ab0 ab2 ab3 ab5 ab9 abc ac5 ac7 ac9 acb acd ad0 ad0 ae0 ae3 ae6 af1
af9 aff b01 b03 b05 b0c b0f b10 b13 b28 b2a b30 b32 b33 b35 b39 b3c b44 b47 b48 b4b b4d b55 b57
b5f b63 b66 b77 b82 b83 b85 b8a b8e b90 b92 b95 b99 b9a b9c b9c b9e b9f ba3 ba4 ba8 baa bae bb9
bbe bc2 bc6 bc8 bca bcd bd0 bd0 bd7 bd7 be6 bfa c00 c0c c0e c10 c12 c28 c2a c39 c3c c44 c46 c48
c4a c4d c55 c56 c58 c5a c5d c5d c60 c63 c66 c6f c77 c8c c8e c90 c92 ca8 caa cb3 cb5 cb9 cbc cc4
cc6 cc8 cca ccd cd5 cd6 cdd cde ce0 ce3 ce6 cef cf1 cf2 d00 d0c d0e d10 d12 d44 d46 d48 d4a d4f
d54 d63 d66 d7f d81 d83 d85 d96 d9a db1 db3 dbb dbd dbd dc0 dc6 dca dca dcf dd4 dd6 dd6 dd8 ddf
de6 def df2 df4 e01 e32 e34 e3a e3f e5b e81 e82 e84 e84 e86 e8a e8c ea3 ea5 ea5 ea7 eb2 eb4 ebd
ec0 ec4 ec6 ec6 ec8 ecd ed0 ed9 ede edf f00 f0b f0d f42 f44 f47 f49 f4c f4e f51 f53 f56 f58 f5b
f5d f68 f6a f6c f71 f72 f74 f74 f7a f80 f82 f92 f94 f97 f99 f9c f9e fa1 fa3 fa6 fa8 fab fad fb8
fba fbc fbe fcc fce fda 1000 109f 10d0 10fb 10fd 115e 1161 1248 124a 124d 1250 1256 1258 1258
125a 125d 1260 1288 128a 128d 1290 12b0 12b2 12b5 12b8 12be 12c0 12c0 12c2 12c5 12c8 12d6
12d8 1310 1312 1315 1318 135a 135d 137c 1380 1399 13a0 13f5 1400 167f 1681 169c 16a0 16f8
1700 1715 171f 1736 1740 1753 1760 176c 176e 1770 1772 1773 1780 17b3 17b6 17dd 17e0 17e9
17f0 17f9 1800 180a 1810 1819 1820 1878 1880 18aa 18b0 18f5 1900 191e 1920 192b 1930 193b
1940 1940 1944 196d 1970 1974 1980 19ab 19b0 19c9 19d0 19da 19de 1a1b 1a1e 1a5e 1a60 1a7c
1a7f 1a89 1a90 1a99 1aa0 1aad 1ab0 1ace 1b00 1b4c 1b50 1b7e 1b80 1bf3 1bfc 1c37 1c3b 1c49
1c4d 1c7f 1cc0 1cc7 1cd0 1cfa 1d00 1d2b 1d2f 1d2f 1d3b 1d3b 1d4e 1d4e 1d6b 1d77 1d79 1d9a
1dc0 1dff 1e01 1e01 1e03 1e03 1e05 1e05 1e07 1e07 1e09 1e09 1e0b 1e0b 1e0d 1e0d 1e0f 1e0f
1e11 1e11 1e13 1e13 1e15 1e15 1e17 1e17 1e19 1e19 1e1b 1e1b 1e1d 1e1d 1e1f 1e1f 1e21 1e21
1e23 1e23 1e25 1e25 1e27 1e27 1e29 1e29 1e2b 1e2b 1e2d 1e2d 1e2f 1e2f 1e31 1e31 1e33 1e33
1e35 1e35 1e37 1e37 1e39 1e39 1e3b 1e3b 1e3d 1e3d 1e3f 1e3f 1e41 1e41 1e43 1e43 1e45 1e45
1e47 1e47 1e49 1e49 1e4b 1e4b 1e4d 1e4d 1e4f 1e4f 1e51 1e51 1e53 1e53 1e55 1e55 1e57 1e57
1e59 1e59 1e5b 1e5b 1e5d 1e5d 1e5f 1e5f 1e61 1e61 1e63 1e63 1e65 1e65 1e67 1e67 1e69 1e69
1e6b 1e6b 1e6d 1e6d 1e6f 1e6f 1e71 1e71 1e73 1e73 1e75 1e75 1e77 1e77 1e79 1e79 1e7b 1e7b
1e7d 1e7d 1e7f 1e7f 1e81 1e81 1e83 1e83 1e85 1e85 1e87 1e87 1e89 1e89 1e8b 1e8b 1e8d 1e8d
1e8f 1e8f 1e91 1e91 1e93 1e93 1e95 1e99 1e9c 1e9d 1e9f 1e9f 1ea1 1ea1 1ea3 1ea3 1ea5 1ea5
1ea7 1ea7 1ea9 1ea9 1eab 1eab 1ead 1ead 1eaf 1eaf 1eb1 1eb1 1eb3 1eb3 1eb5 1eb5 1eb7 1eb7
1eb9 1eb9 1ebb 1ebb 1ebd 1ebd 1ebf 1ebf 1ec1 1ec1 1ec3 1ec3 1ec5 1ec5 1ec7 1ec7 1ec9 1ec9
1ecb 1ecb 1ecd 1ecd 1ecf 1ecf 1ed1 1ed1 1ed3 1ed3 1ed5 1ed5 1ed7 1ed7 1ed9 1ed9 1edb 1edb
1edd 1edd 1edf 1edf 1ee1 1ee1 1ee3 1ee3 1ee5 1ee5 1ee7 1ee7 1ee9 1ee9 1eeb 1eeb 1eed 1eed
1eef 1eef 1ef1 1ef1 1ef3 1ef3 1ef5 1ef5 1ef7 1ef7 1ef9 1ef9 1efb 1efb 1efd 1efd 1eff 1f07
1f10 1f15 1f20 1f27 1f30 1f37 1f40 1f45 1f50 1f57 1f60 1f67 1f70 1f70 1f72 1f72 1f74 1f74
1f76 1f76 1f78 1f78 1f7a 1f7a 1f7c 1f7c 1fb0 1fb1 1fb6 1fb6 1fc6 1fc6 1fd0 1fd2 1fd6 1fd7
1fe0 1fe2 1fe4 1fe7 1ff6 1ff6 200c 200d 2010 2010 2012 2016 2018 2023 2027 2027 2030 2032
2035 2035 2038 203b 203d 203d 203f 2046 204a 2056 2058 205e 20a0 20a7 20a9 20c0 20d0 20f0
2104 2104 2108 2108 2114 2114 2117 2118 211e 211f 2123 2123 2125 2125 2127 2127 2129 2129
212e 212e 213a 213a 2141 2144 214a 214f 2180 2182 2184 2188 218a 218b 2190 222b 222e 222e
2231 2328 232b 2426 2440 244a 24eb 2a0b 2a0d 2a73 2a77 2adb 2add 2b73 2b76 2b95 2b97 2bff
2c30 2c5f 2c61 2c61 2c65 2c66 2c68 2c68 2c6a 2c6a 2c6c 2c6c 2c71 2c71 2c73 2c74 2c76 2c7b
2c81 2c81 2c83 2c83 2c85 2c85 2c87 2c87 2c89 2c89 2c8b 2c8b 2c8d 2c8d 2c8f 2c8f 2c91 2c91
2c93 2c93 2c95 2c95 2c97 2c97 2c99 2c99 2c9b 2c9b 2c9d 2c9d 2c9f 2c9f 2ca1 2ca1 2ca3 2ca3
2ca5 2ca5 2ca7 2ca7 2ca9 2ca9 2cab 2cab 2cad 2cad 2caf 2caf 2cb1 2cb1 2cb3 2cb3 2cb5 2cb5
2cb7 2cb7 2cb9 2cb9 2cbb 2cbb 2cbd 2cbd 2cbf 2cbf 2cc1 2cc1 2cc3 2cc3 2cc5 2cc5 2cc7 2cc7
2cc9 2cc9 2ccb 2ccb 2ccd 2ccd 2ccf 2ccf 2cd1 2cd1 2cd3 2cd3 2cd5 2cd5 2cd7 2cd7 2cd9 2cd9
2cdb 2cdb 2cdd 2cdd 2cdf 2cdf 2ce1 2ce1 2ce3 2cea 2cec 2cec 2cee 2cf1 2cf3 2cf3 2cf9 2d25
2d27 2d27 2d2d 2d2d 2d30 2d67 2d70 2d70 2d7f 2d96 2da0 2da6 2da8 2dae 2db0 2db6 2db8 2dbe
2dc0 2dc6 2dc8 2dce 2dd0 2dd6 2dd8 2dde 2de0 2e5d 2e80 2e99 2e9b 2e9e 2ea0 2ef2 3001 3001
3003 3035 3037 3037 303b 303f 3041 3096 3099 309a 309d 309e 30a0 30fe 3105 312f 3190 3191
31a0 31e3 31f0 31ff 3248 324f 327f 327f 3400 a48c a490 a4c6 a4d0 a62b a641 a641 a643 a643
a645 a645 a647 a647 a649 a649 a64b a64b a64d a64d a64f a64f a651 a651 a653 a653 a655 a655
a657 a657 a659 a659 a65b a65b a65d a65d a65f a65f a661 a661 a663 a663 a665 a665 a667 a667
a669 a669 a66b a66b a66d a67f a681 a681 a683 a683 a685 a685 a687 a687 a689 a689 a68b a68b
a68d a68d a68f a68f a691 a691 a693 a693 a695 a695 a697 a697 a699 a699 a69b a69b a69e a6f7
a700 a721 a723 a723 a725 a725 a727 a727 a729 a729 a72b a72b a72d a72d a72f a731 a733 a733
a735 a735 a737 a737 a739 a739 a73b a73b a73d a73d a73f a73f a741 a741 a743 a743 a745 a745
a747 a747 a749 a749 a74b a74b a74d a74d a74f a74f a751 a751 a753 a753 a755 a755 a757 a757
a759 a759 a75b a75b a75d a75d a75f a75f a761 a761 a763 a763 a765 a765 a767 a767 a769 a769
a76b a76b a76d a76d a76f a76f a771 a778 a77a a77a a77c a77c a77f a77f a781 a781 a783 a783
a785 a785 a787 a78a a78c a78c a78e a78f a791 a791 a793 a795 a797 a797 a799 a799 a79b a79b
a79d a79d a79f a79f a7a1 a7a1 a7a3 a7a3 a7a5 a7a5 a7a7 a7a7 a7a9 a7a9 a7af a7af a7b5 a7b5
a7b7 a7b7 a7b9 a7b9 a7bb a7bb a7bd a7bd a7bf a7bf a7c1 a7c1 a7c3 a7c3 a7c8 a7c8 a7ca a7ca
a7d1 a7d1 a7d3 a7d3 a7d5 a7d5 a7d7 a7d7 a7d9 a7d9 a7f6 a7f7 a7fa a82c a830 a839 a840 a877
a880 a8c5 a8ce a8d9 a8e0 a953 a95f a97c a980 a9cd a9cf a9d9 a9de a9fe aa00 aa36 aa40 aa4d
aa50 aa59 aa5c aac2 aadb aaf6 ab01 ab06 ab09 ab0e ab11 ab16 ab20 ab26 ab28 ab2e ab30 ab5b
ab60 ab68 ab6a ab6b abc0 abed abf0 abf9 ac00 d7a3 d7b0 d7c6 d7cb d7fb fa0e fa0f fa11 fa11
fa13 fa14 fa1f fa1f fa21 fa21 fa23 fa24 fa27 fa29 fb1e fb1e fbb2 fbc2 fd3e fd4f fdcf fdcf
fdfd fdff fe20 fe2f fe45 fe46 fe73 fe73 10000 1000b 1000d 10026 10028 1003a 1003c 1003d
1003f 1004d 10050 1005d 10080 100fa 10100 10102 10107 10133 10137 1018e 10190 1019c 101a0 101a0
101d0 101fd 10280 1029c 102a0 102d0 102e0 102fb 10300 10323 1032d 1034a 10350 1037a 10380 1039d
1039f 103c3 103c8 103d5 10428 1049d 104a0 104a9 104d8 104fb 10500 10527 10530 10563 1056f 1056f
10597 105a1 105a3 105b1 105b3 105b9 105bb 105bc 10600 10736 10740 10755 10760 10767 10780 10780
10800 10805 10808 10808 1080a 10835 10837 10838 1083c 1083c 1083f 10855 10857 1089e 108a7 108af
108e0 108f2 108f4 108f5 108fb 1091b 1091f 10939 1093f 1093f 10980 109b7 109bc 109cf 109d2 10a03
10a05 10a06 10a0c 10a13 10a15 10a17 10a19 10a35 10a38 10a3a 10a3f 10a48 10a50 10a58 10a60 10a9f
10ac0 10ae6 10aeb 10af6 10b00 10b35 10b39 10b55 10b58 10b72 10b78 10b91 10b99 10b9c 10ba9 10baf
10c00 10c48 10cc0 10cf2 10cfa 10d27 10d30 10d39 10e60 10e7e 10e80 10ea9 10eab 10ead 10eb0 10eb1
10f00 10f27 10f30 10f59 10f70 10f89 10fb0 10fcb 10fe0 10ff6 11000 1104d 11052 11075 1107f 110bc
110be 110c2 110d0 110e8 110f0 110f9 11100 11134 11136 11147 11150 11176 11180 111df 111e1 111f4
11200 11211 11213 1123e 11280 11286 11288 11288 1128a 1128d 1128f 1129d 1129f 112a9 112b0 112ea
112f0 112f9 11300 11303 11305 1130c 1130f 11310 11313 11328 1132a 11330 11332 11333 11335 11339
1133b 11344 11347 11348 1134b 1134d 11350 11350 11357 11357 1135d 11363 11366 1136c 11370 11374
11400 1145b 1145d 11461 11480 114c7 114d0 114d9 11580 115b5 115b8 115dd 11600 11644 11650 11659
11660 1166c 11680 116b9 116c0 116c9 11700 1171a 1171d 1172b 11730 11746 11800 1183b 118c0 118f2
118ff 11906 11909 11909 1190c 11913 11915 11916 11918 11935 11937 11938 1193b 11946 11950 11959
119a0 119a7 119aa 119d7 119da 119e4 11a00 11a47 11a50 11aa2 11ab0 11af8 11c00 11c08 11c0a 11c36
11c38 11c45 11c50 11c6c 11c70 11c8f 11c92 11ca7 11ca9 11cb6 11d00 11d06 11d08 11d09 11d0b 11d36
11d3a 11d3a 11d3c 11d3d 11d3f 11d47 11d50 11d59 11d60 11d65 11d67 11d68 11d6a 11d8e 11d90 11d91
11d93 11d98 11da0 11da9 11ee0 11ef8 11fb0 11fb0 11fc0 11ff1 11fff 12399 12400 1246e 12470 12474
12480 12543 12f90 12ff2 13000 1342e 14400 14646 16800 16a38 16a40 16a5e 16a60 16a69 16a6e 16abe
16ac0 16ac9 16ad0 16aed 16af0 16af5 16b00 16b45 16b50 16b59 16b5b 16b61 16b63 16b77 16b7d 16b8f
16e60 16e9a 16f00 16f4a 16f4f 16f87 16f8f 16f9f 16fe0 16fe4 16ff0 16ff1 17000 187f7 18800 18cd5
18d00 18d08 1aff0 1aff3 1aff5 1affb 1affd 1affe 1b000 1b122 1b150 1b152 1b164 1b167 1b170 1b2fb
1bc00 1bc6a 1bc70 1bc7c 1bc80 1bc88 1bc90 1bc99 1bc9c 1bc9f 1cf00 1cf2d 1cf30 1cf46 1cf50 1cfc3
1d000 1d0f5 1d100 1d126 1d129 1d15d 1d165 1d172 1d17b 1d1ba 1d1c1 1d1ea 1d200 1d245 1d2e0 1d2f3
1d300 1d356 1d360 1d378 1d800 1da8b 1da9b 1da9f 1daa1 1daaf 1df00 1df1e 1e000 1e006 1e008 1e018
1e01b 1e021 1e023 1e024 1e026 1e02a 1e100 1e12c 1e130 1e13d 1e140 1e149 1e14e 1e14f 1e290 1e2ae
1e2c0 1e2f9 1e2ff 1e2ff 1e7e0 1e7e6 1e7e8 1e7eb 1e7ed 1e7ee 1e7f0 1e7fe 1e800 1e8c4 1e8c7 1e8d6
1e922 1e94b 1e950 1e959 1e95e 1e95f 1ec71 1ecb4 1ed01 1ed3d 1eef0 1eef1 1f000 1f02b 1f030 1f093
1f0a0 1f0ae 1f0b1 1f0bf 1f0c1 1f0cf 1f0d1 1f0f5 1f10b 1f10f 1f12f 1f12f 1f150 1f169 1f16d 1f18f
1f191 1f1ad 1f1e6 1f1ff 1f260 1f265 1f300 1f6d7 1f6dd 1f6ec 1f6f0 1f6fc 1f700 1f773 1f780 1f7d8
1f7e0 1f7eb 1f7f0 1f7f0 1f800 1f80b 1f810 1f847 1f850 1f859 1f860 1f887 1f890 1f8ad 1f8b0 1f8b1
1f900 1fa53 1fa60 1fa6d 1fa70 1fa74 1fa78 1fa7c 1fa80 1fa86 1fa90 1faac 1fab0 1faba 1fac0 1fac5
1fad0 1fad9 1fae0 1fae7 1faf0 1faf6 1fb00 1fb92 1fb94 1fbca 20000 2a6df 2a700 2b738 2b740 2b81d
2b820 2cea1 2ceb0 2ebe0 30000 3134a"

/-- The characters that attach to the one before them. -/
def markRanges : String :=
"300 36f 483 489 591 5bd 5bf 5bf 5c1 5c2 5c4 5c5 5c7 5c7 610 61a 64b 65f 670 670 6d6 6dc 6df 6e4
6e7 6e8 6ea 6ed 711 711 730 74a 7a6 7b0 7eb 7f3 7fd 7fd 816 819 81b 823 825 827 829 82d 859 85b
898 89f 8ca 8e1 8e3 903 93a 93c 93e 94f 951 957 962 963 981 983 9bc 9bc 9be 9c4 9c7 9c8 9cb 9cd
9d7 9d7 9e2 9e3 9fe 9fe a01 a03 a3c a3c a3e a42 a47 a48 a4b a4d a51 a51 a70 a71 a75 a75 a81 a83
abc abc abe ac5 ac7 ac9 acb acd ae2 ae3 afa aff b01 b03 b3c b3c b3e b44 b47 b48 b4b b4d b55 b57
b62 b63 b82 b82 bbe bc2 bc6 bc8 bca bcd bd7 bd7 c00 c04 c3c c3c c3e c44 c46 c48 c4a c4d c55 c56
c62 c63 c81 c83 cbc cbc cbe cc4 cc6 cc8 cca ccd cd5 cd6 ce2 ce3 d00 d03 d3b d3c d3e d44 d46 d48
d4a d4d d57 d57 d62 d63 d81 d83 dca dca dcf dd4 dd6 dd6 dd8 ddf df2 df3 e31 e31 e34 e3a e47 e4e
eb1 eb1 eb4 ebc ec8 ecd f18 f19 f35 f35 f37 f37 f39 f39 f3e f3f f71 f84 f86 f87 f8d f97 f99 fbc
fc6 fc6 102b 103e 1056 1059 105e 1060 1062 1064 1067 106d 1071 1074 1082 108d 108f 108f 109a 109d
135d 135f 1712 1715 1732 1734 1752 1753 1772 1773 17b4 17d3 17dd 17dd 180b 180d 180f 180f
1885 1886 18a9 18a9 1920 192b 1930 193b 1a17 1a1b 1a55 1a5e 1a60 1a7c 1a7f 1a7f 1ab0 1ace
1b00 1b04 1b34 1b44 1b6b 1b73 1b80 1b82 1ba1 1bad 1be6 1bf3 1c24 1c37 1cd0 1cd2 1cd4 1ce8
1ced 1ced 1cf4 1cf4 1cf7 1cf9 1dc0 1dff 20d0 20f0 2cef 2cf1 2d7f 2d7f 2de0 2dff 302a 302f
3099 309a a66f a672 a674 a67d a69e a69f a6f0 a6f1 a802 a802 a806 a806 a80b a80b a823 a827
a82c a82c a880 a881 a8b4 a8c5 a8e0 a8f1 a8ff a8ff a926 a92d a947 a953 a980 a983 a9b3 a9c0
a9e5 a9e5 aa29 aa36 aa43 aa43 aa4c aa4d aa7b aa7d aab0 aab0 aab2 aab4 aab7 aab8 aabe aabf
aac1 aac1 aaeb aaef aaf5 aaf6 abe3 abea abec abed fb1e fb1e fe00 fe0f fe20 fe2f 101fd 101fd
102e0 102e0 10376 1037a 10a01 10a03 10a05 10a06 10a0c 10a0f 10a38 10a3a 10a3f 10a3f 10ae5 10ae6
10d24 10d27 10eab 10eac 10f46 10f50 10f82 10f85 11000 11002 11038 11046 11070 11070 11073 11074
1107f 11082 110b0 110ba 110c2 110c2 11100 11102 11127 11134 11145 11146 11173 11173 11180 11182
111b3 111c0 111c9 111cc 111ce 111cf 1122c 11237 1123e 1123e 112df 112ea 11300 11303 1133b 1133c
1133e 11344 11347 11348 1134b 1134d 11357 11357 11362 11363 11366 1136c 11370 11374 11435 11446
1145e 1145e 114b0 114c3 115af 115b5 115b8 115c0 115dc 115dd 11630 11640 116ab 116b7 1171d 1172b
1182c 1183a 11930 11935 11937 11938 1193b 1193e 11940 11940 11942 11943 119d1 119d7 119da 119e0
119e4 119e4 11a01 11a0a 11a33 11a39 11a3b 11a3e 11a47 11a47 11a51 11a5b 11a8a 11a99 11c2f 11c36
11c38 11c3f 11c92 11ca7 11ca9 11cb6 11d31 11d36 11d3a 11d3a 11d3c 11d3d 11d3f 11d45 11d47 11d47
11d8a 11d8e 11d90 11d91 11d93 11d97 11ef3 11ef6 16af0 16af4 16b30 16b36 16f4f 16f4f 16f51 16f87
16f8f 16f92 16fe4 16fe4 16ff0 16ff1 1bc9d 1bc9e 1cf00 1cf2d 1cf30 1cf46 1d165 1d169 1d16d 1d172
1d17b 1d182 1d185 1d18b 1d1aa 1d1ad 1d242 1d244 1da00 1da36 1da3b 1da6c 1da75 1da75 1da84 1da84
1da9b 1da9f 1daa1 1daaf 1e000 1e006 1e008 1e018 1e01b 1e021 1e023 1e024 1e026 1e02a 1e130 1e136
1e2ae 1e2ae 1e2ec 1e2ef 1e8d0 1e8d6 1e944 1e94a e0100 e01ef"

/-- The writing directions of characters that may stand in a domain name: a number for the direction
before each range; characters that are not listed run from left to right. -/
def directionRanges : String :=
"9 0 8 b 9 9 b a a b b b b c c b d d 9 e 1b b 1c 1e b 1f 1f b 20 20 8 21 22 7 23 25 8 26 2a 5 2b 2b
6 2c 2c 5 2d 2d 6 2e 2f 4 30 39 6 3a 3a 8 3b 60 8 7b 7e 9 7f 7f 8 a1 a1 7 a2 a5 8 a6 ae 7 b0 b1
8 b6 d7 8 f7 f7 8 2b9 2ba 8 2c2 2cf 8 2d2 2ed 8 2ef 2ff a 300 36f 8 375 375 8 3f6 3f6 a 483 489
8 58a 58e 7 58f 58f a 591 5bd 1 5be 5be a 5bf 5bf 1 5c0 5c0 a 5c1 5c2 1 5c3 5c3 a 5c4 5c5
1 5c6 5c6 a 5c7 5c7 1 5d0 5f4 8 606 607 2 608 608 7 609 60a 2 60b 60b 6 60c 60c 2 60d 60d
8 60e 60f a 610 61a 2 61b 64a a 64b 65f 3 660 669 7 66a 66a 3 66b 66c 2 66d 66f a 670 670
2 671 6d5 a 6d6 6dc 8 6de 6de a 6df 6e4 2 6e5 6e6 a 6e7 6e8 8 6e9 6e9 a 6ea 6ed 2 6ee 6ef
4 6f0 6f9 2 6fa 710 a 711 711 2 712 72f a 730 74a 2 74d 7a5 a 7a6 7b0 2 7b1 7b1 1 7c0 7ea
a 7eb 7f3 1 7f4 7f5 8 7f6 7f9 1 7fa 7fa a 7fd 7fd 1 7fe 815 a 816 819 1 81a 81a a 81b 823
1 824 824 a 825 827 1 828 828 a 829 82d 1 830 858 a 859 85b 1 85e 85e 2 860 88e a 898 89f
2 8a0 8c9 a 8ca 902 a 93a 93a a 93c 93c a 941 948 a 94d 94d a 951 957 a 962 963 a 981 981
a 9bc 9bc a 9c1 9c4 a 9cd 9cd a 9e2 9e3 7 9f2 9f3 7 9fb 9fb a 9fe a02 a a3c a3c a a41 a51
a a70 a71 a a75 a75 a a81 a82 a abc abc a ac1 ac8 a acd acd a ae2 ae3 7 af1 af1 a afa b01
a b3c b3c a b3f b3f a b41 b44 a b4d b56 a b62 b63 a b82 b82 a bc0 bc0 a bcd bcd 8 bf3 bf8
7 bf9 bf9 8 bfa bfa a c00 c00 a c04 c04 a c3c c3c a c3e c40 a c46 c56 a c62 c63 8 c78 c7e
a c81 c81 a cbc cbc a ccc ccd a ce2 ce3 a d00 d01 a d3b d3c a d41 d44 a d4d d4d a d62 d63
a d81 d81 a dca dca a dd2 dd6 a e31 e31 a e34 e3a 7 e3f e3f a e47 e4e a eb1 eb1 a eb4 ebc
a ec8 ecd a f18 f19 a f35 f35 a f37 f37 a f39 f39 8 f3a f3d a f71 f7e a f80 f84 a f86 f87
a f8d fbc a fc6 fc6 a 102d 1030 a 1032 1037 a 1039 103a a 103d 103e a 1058 1059 a 105e 1060
a 1071 1074 a 1082 1082 a 1085 1086 a 108d 108d a 109d 109d a 135d 135f 8 1390 1399 8 1400 1400
8 169b 169c a 1712 1714 a 1732 1733 a 1752 1753 a 1772 1773 a 17b7 17bd a 17c6 17c6 a 17c9 17d3
7 17db 17db a 17dd 17dd 8 17f0 180a a 1885 1886 a 18a9 18a9 a 1920 1922 a 1927 1928 a 1932 1932
a 1939 193b 8 1940 1945 8 19de 19ff a 1a17 1a18 a 1a1b 1a1b a 1a56 1a56 a 1a58 1a60 a 1a62 1a62
a 1a65 1a6c a 1a73 1a7f a 1ab0 1b03 a 1b34 1b34 a 1b36 1b3a a 1b3c 1b3c a 1b42 1b42 a 1b6b 1b73
a 1b80 1b81 a 1ba2 1ba5 a 1ba8 1ba9 a 1bab 1bad a 1be6 1be6 a 1be8 1be9 a 1bed 1bed a 1bef 1bf1
a 1c2c 1c33 a 1c36 1c37 a 1cd0 1cd2 a 1cd4 1ce0 a 1ce2 1ce8 a 1ced 1ced a 1cf4 1cf4 a 1cf8 1cf9
a 1dc0 1dff 9 200c 200d 8 2010 2027 7 2030 2032 8 2035 2043 6 2044 2044 8 2045 205e 7 20a0 20c0
a 20d0 20f0 8 2104 2129 7 212e 212e 8 213a 214d 8 218a 2211 5 2212 2212 7 2213 2213 8 2214 2335
8 237b 2394 8 2396 26ab 8 26ad 27ff 8 2900 2bff 8 2ce5 2cea a 2cef 2cf1 8 2cf9 2cff a 2d7f 2d7f
a 2de0 2dff 8 2e00 3004 8 3008 3020 a 302a 302d 8 3030 3030 8 3037 3037 8 303d 303f a 3099 309a
8 30a0 30a0 8 30fb 30fb 8 31c0 31e3 8 4dc0 4dff 8 a490 a4c6 8 a60d a60f a a66f a672 8 a673 a673
a a674 a67d 8 a67e a67f a a69e a69f a a6f0 a6f1 8 a700 a721 8 a788 a788 a a802 a802 a a806 a806
a a80b a80b a a825 a826 8 a828 a82b a a82c a82c 7 a838 a839 8 a874 a877 a a8c4 a8c5 a a8e0 a8f1
a a8ff a8ff a a926 a92d a a947 a951 a a980 a982 a a9b3 a9b3 a a9b6 a9b9 a a9bc a9bd a a9e5 a9e5
a aa29 aa2e a aa31 aa32 a aa35 aa36 a aa43 aa43 a aa4c aa4c a aa7c aa7c a aab0 aab0 a aab2 aab4
a aab7 aab8 a aabe aabf a aac1 aac1 a aaec aaed a aaf6 aaf6 8 ab6a ab6b a abe5 abe5 a abe8 abe8
a abed abed a fb1e fb1e 2 fbb2 fbc2 8 fd3e fdff a fe20 fe2f 8 fe45 fe46 2 fe73 fe73 8 10101 10101
8 10140 1018c 8 10190 101a0 a 101fd 101fd a 102e0 102e0 4 102e1 102fb a 10376 1037a 1 10800 1091b
8 1091f 1091f 1 10920 10a00 a 10a01 10a0f 1 10a10 10a35 a 10a38 10a3f 1 10a40 10ae4 a 10ae5 10ae6
1 10aeb 10b35 8 10b39 10b3f 1 10b40 10cff 2 10d00 10d23 a 10d24 10d27 3 10d30 10e7e 1 10e80 10ea9
a 10eab 10eac 1 10ead 10f27 2 10f30 10f45 a 10f46 10f50 2 10f51 10f59 1 10f70 10f81 a 10f82 10f85
1 10f86 10ff6 a 11001 11001 a 11038 11046 8 11052 11065 a 11070 11070 a 11073 11074 a 1107f 11081
a 110b3 110b6 a 110b9 110ba a 110c2 110c2 a 11100 11102 a 11127 1112b a 1112d 11134 a 11173 11173
a 11180 11181 a 111b6 111be a 111c9 111cc a 111cf 111cf a 1122f 11231 a 11234 11234 a 11236 11237
a 1123e 1123e a 112df 112df a 112e3 112ea a 11300 11301 a 1133b 1133c a 11340 11340 a 11366 11374
a 11438 1143f a 11442 11444 a 11446 11446 a 1145e 1145e a 114b3 114b8 a 114ba 114ba a 114bf 114c0
a 114c2 114c3 a 115b2 115b5 a 115bc 115bd a 115bf 115c0 a 115dc 115dd a 11633 1163a a 1163d 1163d
a 1163f 11640 8 11660 1166c a 116ab 116ab a 116ad 116ad a 116b0 116b5 a 116b7 116b7 a 1171d 1171f
a 11722 11725 a 11727 1172b a 1182f 11837 a 11839 1183a a 1193b 1193c a 1193e 1193e a 11943 11943
a 119d4 119db a 119e0 119e0 a 11a01 11a06 a 11a09 11a0a a 11a33 11a38 a 11a3b 11a3e a 11a47 11a47
a 11a51 11a56 a 11a59 11a5b a 11a8a 11a96 a 11a98 11a99 a 11c30 11c3d a 11c92 11ca7 a 11caa 11cb0
a 11cb2 11cb3 a 11cb5 11cb6 a 11d31 11d45 a 11d47 11d47 a 11d90 11d91 a 11d95 11d95 a 11d97 11d97
a 11ef3 11ef4 8 11fd5 11fdc 7 11fdd 11fe0 8 11fe1 11ff1 a 16af0 16af4 a 16b30 16b36 a 16f4f 16f4f
a 16f8f 16f92 8 16fe2 16fe2 a 16fe4 16fe4 a 1bc9d 1bc9e a 1cf00 1cf46 a 1d167 1d169 a 1d17b 1d182
a 1d185 1d18b a 1d1aa 1d1ad 8 1d1e9 1d241 a 1d242 1d244 8 1d245 1d245 8 1d300 1d356 a 1da00 1da36
a 1da3b 1da6c a 1da75 1da75 a 1da84 1da84 a 1da9b 1daaf a 1e000 1e02a a 1e130 1e136 a 1e2ae 1e2ae
a 1e2ec 1e2ef 7 1e2ff 1e2ff 1 1e800 1e8cf a 1e8d0 1e8d6 1 1e922 1e943 a 1e944 1e94a 1 1e94b 1e95f
2 1ec71 1ed3d 8 1eef0 1f12f 8 1f16d 1f16f 8 1f1ad 1f1ad 8 1f260 1fbca"

end StageRelay.Domain
