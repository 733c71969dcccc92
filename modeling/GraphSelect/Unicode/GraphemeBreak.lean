/-! # Grapheme cluster breaks

The classes of characters between which the boundaries of grapheme clusters are found. -/
namespace GraphSelect.Unicode

/-- The classes: their names in lower case without separators, and the characters. -/
def graphemeBreaks : List (String × String) := [
  ("cn control",
    "0..9 b..c e..1f 7f..9f ad 61c 180e 200b 200e..200f 2028..202e 2060..206f feff fff0..fffb
    13430..1343f 1bca0..1bca3 1d173..1d17a e0000..e001f e0080..e00ff e01f0..e0fff"),
  ("cr",
    "d"),
  ("ex extend",
    "300..36f 483..489 591..5bd 5bf 5c1..5c2 5c4..5c5 5c7 610..61a 64b..65f 670 6d6..6dc 6df..6e4
    6e7..6e8 6ea..6ed 711 730..74a 7a6..7b0 7eb..7f3 7fd 816..819 81b..823 825..827 829..82d
    859..85b 898..89f 8ca..8e1 8e3..902 93a 93c 941..948 94d 951..957 962..963 981 9bc 9be
    9c1..9c4 9cd 9d7 9e2..9e3 9fe a01..a02 a3c a41..a42 a47..a48 a4b..a4d a51 a70..a71 a75
    a81..a82 abc ac1..ac5 ac7..ac8 acd ae2..ae3 afa..aff b01 b3c b3e..b3f b41..b44 b4d b55..b57
    b62..b63 b82 bbe bc0 bcd bd7 c00 c04 c3c c3e..c40 c46..c48 c4a..c4d c55..c56 c62..c63 c81 cbc
    cbf cc2 cc6 ccc..ccd cd5..cd6 ce2..ce3 d00..d01 d3b..d3c d3e d41..d44 d4d d57 d62..d63 d81 dca
    dcf dd2..dd4 dd6 ddf e31 e34..e3a e47..e4e eb1 eb4..ebc ec8..ece f18..f19 f35 f37 f39 f71..f7e
    f80..f84 f86..f87 f8d..f97 f99..fbc fc6 102d..1030 1032..1037 1039..103a 103d..103e 1058..1059
    105e..1060 1071..1074 1082 1085..1086 108d 109d 135d..135f 1712..1714 1732..1733 1752..1753
    1772..1773 17b4..17b5 17b7..17bd 17c6 17c9..17d3 17dd 180b..180d 180f 1885..1886 18a9
    1920..1922 1927..1928 1932 1939..193b 1a17..1a18 1a1b 1a56 1a58..1a5e 1a60 1a62 1a65..1a6c
    1a73..1a7c 1a7f 1ab0..1ace 1b00..1b03 1b34..1b3a 1b3c 1b42 1b6b..1b73 1b80..1b81 1ba2..1ba5
    1ba8..1ba9 1bab..1bad 1be6 1be8..1be9 1bed 1bef..1bf1 1c2c..1c33 1c36..1c37 1cd0..1cd2
    1cd4..1ce0 1ce2..1ce8 1ced 1cf4 1cf8..1cf9 1dc0..1dff 200c 20d0..20f0 2cef..2cf1 2d7f
    2de0..2dff 302a..302f 3099..309a a66f..a672 a674..a67d a69e..a69f a6f0..a6f1 a802 a806 a80b
    a825..a826 a82c a8c4..a8c5 a8e0..a8f1 a8ff a926..a92d a947..a951 a980..a982 a9b3 a9b6..a9b9
    a9bc..a9bd a9e5 aa29..aa2e aa31..aa32 aa35..aa36 aa43 aa4c aa7c aab0 aab2..aab4 aab7..aab8
    aabe..aabf aac1 aaec..aaed aaf6 abe5 abe8 abed fb1e fe00..fe0f fe20..fe2f ff9e..ff9f 101fd
    102e0 10376..1037a 10a01..10a03 10a05..10a06 10a0c..10a0f 10a38..10a3a 10a3f 10ae5..10ae6
    10d24..10d27 10eab..10eac 10efd..10eff 10f46..10f50 10f82..10f85 11001 11038..11046 11070
    11073..11074 1107f..11081 110b3..110b6 110b9..110ba 110c2 11100..11102 11127..1112b
    1112d..11134 11173 11180..11181 111b6..111be 111c9..111cc 111cf 1122f..11231 11234
    11236..11237 1123e 11241 112df 112e3..112ea 11300..11301 1133b..1133c 1133e 11340 11357
    11366..1136c 11370..11374 11438..1143f 11442..11444 11446 1145e 114b0 114b3..114b8 114ba 114bd
    114bf..114c0 114c2..114c3 115af 115b2..115b5 115bc..115bd 115bf..115c0 115dc..115dd
    11633..1163a 1163d 1163f..11640 116ab 116ad 116b0..116b5 116b7 1171d..1171f 11722..11725
    11727..1172b 1182f..11837 11839..1183a 11930 1193b..1193c 1193e 11943 119d4..119d7
    119da..119db 119e0 11a01..11a0a 11a33..11a38 11a3b..11a3e 11a47 11a51..11a56 11a59..11a5b
    11a8a..11a96 11a98..11a99 11c30..11c36 11c38..11c3d 11c3f 11c92..11ca7 11caa..11cb0
    11cb2..11cb3 11cb5..11cb6 11d31..11d36 11d3a 11d3c..11d3d 11d3f..11d45 11d47 11d90..11d91
    11d95 11d97 11ef3..11ef4 11f00..11f01 11f36..11f3a 11f40 11f42 13440 13447..13455 16af0..16af4
    16b30..16b36 16f4f 16f8f..16f92 16fe4 1bc9d..1bc9e 1cf00..1cf2d 1cf30..1cf46 1d165
    1d167..1d169 1d16e..1d172 1d17b..1d182 1d185..1d18b 1d1aa..1d1ad 1d242..1d244 1da00..1da36
    1da3b..1da6c 1da75 1da84 1da9b..1da9f 1daa1..1daaf 1e000..1e006 1e008..1e018 1e01b..1e021
    1e023..1e024 1e026..1e02a 1e08f 1e130..1e136 1e2ae 1e2ec..1e2ef 1e4ec..1e4ef 1e8d0..1e8d6
    1e944..1e94a 1f3fb..1f3ff e0020..e007f e0100..e01ef"),
  ("l",
    "1100..115f a960..a97c"),
  ("lf",
    "a"),
  ("lv",
    "ac00 ac1c ac38 ac54 ac70 ac8c aca8 acc4 ace0 acfc ad18 ad34 ad50 ad6c ad88 ada4 adc0 addc adf8
    ae14 ae30 ae4c ae68 ae84 aea0 aebc aed8 aef4 af10 af2c af48 af64 af80 af9c afb8 afd4 aff0 b00c
    b028 b044 b060 b07c b098 b0b4 b0d0 b0ec b108 b124 b140 b15c b178 b194 b1b0 b1cc b1e8 b204 b220
    b23c b258 b274 b290 b2ac b2c8 b2e4 b300 b31c b338 b354 b370 b38c b3a8 b3c4 b3e0 b3fc b418 b434
    b450 b46c b488 b4a4 b4c0 b4dc b4f8 b514 b530 b54c b568 b584 b5a0 b5bc b5d8 b5f4 b610 b62c b648
    b664 b680 b69c b6b8 b6d4 b6f0 b70c b728 b744 b760 b77c b798 b7b4 b7d0 b7ec b808 b824 b840 b85c
    b878 b894 b8b0 b8cc b8e8 b904 b920 b93c b958 b974 b990 b9ac b9c8 b9e4 ba00 ba1c ba38 ba54 ba70
    ba8c baa8 bac4 bae0 bafc bb18 bb34 bb50 bb6c bb88 bba4 bbc0 bbdc bbf8 bc14 bc30 bc4c bc68 bc84
    bca0 bcbc bcd8 bcf4 bd10 bd2c bd48 bd64 bd80 bd9c bdb8 bdd4 bdf0 be0c be28 be44 be60 be7c be98
    beb4 bed0 beec bf08 bf24 bf40 bf5c bf78 bf94 bfb0 bfcc bfe8 c004 c020 c03c c058 c074 c090 c0ac
    c0c8 c0e4 c100 c11c c138 c154 c170 c18c c1a8 c1c4 c1e0 c1fc c218 c234 c250 c26c c288 c2a4 c2c0
    c2dc c2f8 c314 c330 c34c c368 c384 c3a0 c3bc c3d8 c3f4 c410 c42c c448 c464 c480 c49c c4b8 c4d4
    c4f0 c50c c528 c544 c560 c57c c598 c5b4 c5d0 c5ec c608 c624 c640 c65c c678 c694 c6b0 c6cc c6e8
    c704 c720 c73c c758 c774 c790 c7ac c7c8 c7e4 c800 c81c c838 c854 c870 c88c c8a8 c8c4 c8e0 c8fc
    c918 c934 c950 c96c c988 c9a4 c9c0 c9dc c9f8 ca14 ca30 ca4c ca68 ca84 caa0 cabc cad8 caf4 cb10
    cb2c cb48 cb64 cb80 cb9c cbb8 cbd4 cbf0 cc0c cc28 cc44 cc60 cc7c cc98 ccb4 ccd0 ccec cd08 cd24
    cd40 cd5c cd78 cd94 cdb0 cdcc cde8 ce04 ce20 ce3c ce58 ce74 ce90 ceac cec8 cee4 cf00 cf1c cf38
    cf54 cf70 cf8c cfa8 cfc4 cfe0 cffc d018 d034 d050 d06c d088 d0a4 d0c0 d0dc d0f8 d114 d130 d14c
    d168 d184 d1a0 d1bc d1d8 d1f4 d210 d22c d248 d264 d280 d29c d2b8 d2d4 d2f0 d30c d328 d344 d360
    d37c d398 d3b4 d3d0 d3ec d408 d424 d440 d45c d478 d494 d4b0 d4cc d4e8 d504 d520 d53c d558 d574
    d590 d5ac d5c8 d5e4 d600 d61c d638 d654 d670 d68c d6a8 d6c4 d6e0 d6fc d718 d734 d750 d76c d788"),
  ("lvt",
    "ac01..ac1b ac1d..ac37 ac39..ac53 ac55..ac6f ac71..ac8b ac8d..aca7 aca9..acc3 acc5..acdf
    ace1..acfb acfd..ad17 ad19..ad33 ad35..ad4f ad51..ad6b ad6d..ad87 ad89..ada3 ada5..adbf
    adc1..addb addd..adf7 adf9..ae13 ae15..ae2f ae31..ae4b ae4d..ae67 ae69..ae83 ae85..ae9f
    aea1..aebb aebd..aed7 aed9..aef3 aef5..af0f af11..af2b af2d..af47 af49..af63 af65..af7f
    af81..af9b af9d..afb7 afb9..afd3 afd5..afef aff1..b00b b00d..b027 b029..b043 b045..b05f
    b061..b07b b07d..b097 b099..b0b3 b0b5..b0cf b0d1..b0eb b0ed..b107 b109..b123 b125..b13f
    b141..b15b b15d..b177 b179..b193 b195..b1af b1b1..b1cb b1cd..b1e7 b1e9..b203 b205..b21f
    b221..b23b b23d..b257 b259..b273 b275..b28f b291..b2ab b2ad..b2c7 b2c9..b2e3 b2e5..b2ff
    b301..b31b b31d..b337 b339..b353 b355..b36f b371..b38b b38d..b3a7 b3a9..b3c3 b3c5..b3df
    b3e1..b3fb b3fd..b417 b419..b433 b435..b44f b451..b46b b46d..b487 b489..b4a3 b4a5..b4bf
    b4c1..b4db b4dd..b4f7 b4f9..b513 b515..b52f b531..b54b b54d..b567 b569..b583 b585..b59f
    b5a1..b5bb b5bd..b5d7 b5d9..b5f3 b5f5..b60f b611..b62b b62d..b647 b649..b663 b665..b67f
    b681..b69b b69d..b6b7 b6b9..b6d3 b6d5..b6ef b6f1..b70b b70d..b727 b729..b743 b745..b75f
    b761..b77b b77d..b797 b799..b7b3 b7b5..b7cf b7d1..b7eb b7ed..b807 b809..b823 b825..b83f
    b841..b85b b85d..b877 b879..b893 b895..b8af b8b1..b8cb b8cd..b8e7 b8e9..b903 b905..b91f
    b921..b93b b93d..b957 b959..b973 b975..b98f b991..b9ab b9ad..b9c7 b9c9..b9e3 b9e5..b9ff
    ba01..ba1b ba1d..ba37 ba39..ba53 ba55..ba6f ba71..ba8b ba8d..baa7 baa9..bac3 bac5..badf
    bae1..bafb bafd..bb17 bb19..bb33 bb35..bb4f bb51..bb6b bb6d..bb87 bb89..bba3 bba5..bbbf
    bbc1..bbdb bbdd..bbf7 bbf9..bc13 bc15..bc2f bc31..bc4b bc4d..bc67 bc69..bc83 bc85..bc9f
    bca1..bcbb bcbd..bcd7 bcd9..bcf3 bcf5..bd0f bd11..bd2b bd2d..bd47 bd49..bd63 bd65..bd7f
    bd81..bd9b bd9d..bdb7 bdb9..bdd3 bdd5..bdef bdf1..be0b be0d..be27 be29..be43 be45..be5f
    be61..be7b be7d..be97 be99..beb3 beb5..becf bed1..beeb beed..bf07 bf09..bf23 bf25..bf3f
    bf41..bf5b bf5d..bf77 bf79..bf93 bf95..bfaf bfb1..bfcb bfcd..bfe7 bfe9..c003 c005..c01f
    c021..c03b c03d..c057 c059..c073 c075..c08f c091..c0ab c0ad..c0c7 c0c9..c0e3 c0e5..c0ff
    c101..c11b c11d..c137 c139..c153 c155..c16f c171..c18b c18d..c1a7 c1a9..c1c3 c1c5..c1df
    c1e1..c1fb c1fd..c217 c219..c233 c235..c24f c251..c26b c26d..c287 c289..c2a3 c2a5..c2bf
    c2c1..c2db c2dd..c2f7 c2f9..c313 c315..c32f c331..c34b c34d..c367 c369..c383 c385..c39f
    c3a1..c3bb c3bd..c3d7 c3d9..c3f3 c3f5..c40f c411..c42b c42d..c447 c449..c463 c465..c47f
    c481..c49b c49d..c4b7 c4b9..c4d3 c4d5..c4ef c4f1..c50b c50d..c527 c529..c543 c545..c55f
    c561..c57b c57d..c597 c599..c5b3 c5b5..c5cf c5d1..c5eb c5ed..c607 c609..c623 c625..c63f
    c641..c65b c65d..c677 c679..c693 c695..c6af c6b1..c6cb c6cd..c6e7 c6e9..c703 c705..c71f
    c721..c73b c73d..c757 c759..c773 c775..c78f c791..c7ab c7ad..c7c7 c7c9..c7e3 c7e5..c7ff
    c801..c81b c81d..c837 c839..c853 c855..c86f c871..c88b c88d..c8a7 c8a9..c8c3 c8c5..c8df
    c8e1..c8fb c8fd..c917 c919..c933 c935..c94f c951..c96b c96d..c987 c989..c9a3 c9a5..c9bf
    c9c1..c9db c9dd..c9f7 c9f9..ca13 ca15..ca2f ca31..ca4b ca4d..ca67 ca69..ca83 ca85..ca9f
    caa1..cabb cabd..cad7 cad9..caf3 caf5..cb0f cb11..cb2b cb2d..cb47 cb49..cb63 cb65..cb7f
    cb81..cb9b cb9d..cbb7 cbb9..cbd3 cbd5..cbef cbf1..cc0b cc0d..cc27 cc29..cc43 cc45..cc5f
    cc61..cc7b cc7d..cc97 cc99..ccb3 ccb5..cccf ccd1..cceb cced..cd07 cd09..cd23 cd25..cd3f
    cd41..cd5b cd5d..cd77 cd79..cd93 cd95..cdaf cdb1..cdcb cdcd..cde7 cde9..ce03 ce05..ce1f
    ce21..ce3b ce3d..ce57 ce59..ce73 ce75..ce8f ce91..ceab cead..cec7 cec9..cee3 cee5..ceff
    cf01..cf1b cf1d..cf37 cf39..cf53 cf55..cf6f cf71..cf8b cf8d..cfa7 cfa9..cfc3 cfc5..cfdf
    cfe1..cffb cffd..d017 d019..d033 d035..d04f d051..d06b d06d..d087 d089..d0a3 d0a5..d0bf
    d0c1..d0db d0dd..d0f7 d0f9..d113 d115..d12f d131..d14b d14d..d167 d169..d183 d185..d19f
    d1a1..d1bb d1bd..d1d7 d1d9..d1f3 d1f5..d20f d211..d22b d22d..d247 d249..d263 d265..d27f
    d281..d29b d29d..d2b7 d2b9..d2d3 d2d5..d2ef d2f1..d30b d30d..d327 d329..d343 d345..d35f
    d361..d37b d37d..d397 d399..d3b3 d3b5..d3cf d3d1..d3eb d3ed..d407 d409..d423 d425..d43f
    d441..d45b d45d..d477 d479..d493 d495..d4af d4b1..d4cb d4cd..d4e7 d4e9..d503 d505..d51f
    d521..d53b d53d..d557 d559..d573 d575..d58f d591..d5ab d5ad..d5c7 d5c9..d5e3 d5e5..d5ff
    d601..d61b d61d..d637 d639..d653 d655..d66f d671..d68b d68d..d6a7 d6a9..d6c3 d6c5..d6df
    d6e1..d6fb d6fd..d717 d719..d733 d735..d74f d751..d76b d76d..d787 d789..d7a3"),
  ("pp prepend",
    "600..605 6dd 70f 890..891 8e2 d4e 110bd 110cd 111c2..111c3 1193f 11941 11a3a 11a84..11a89
    11d46 11f02"),
  ("ri regionalindicator",
    "1f1e6..1f1ff"),
  ("sm spacingmark",
    "903 93b 93e..940 949..94c 94e..94f 982..983 9bf..9c0 9c7..9c8 9cb..9cc a03 a3e..a40 a83
    abe..ac0 ac9 acb..acc b02..b03 b40 b47..b48 b4b..b4c bbf bc1..bc2 bc6..bc8 bca..bcc c01..c03
    c41..c44 c82..c83 cbe cc0..cc1 cc3..cc4 cc7..cc8 cca..ccb cf3 d02..d03 d3f..d40 d46..d48
    d4a..d4c d82..d83 dd0..dd1 dd8..dde df2..df3 e33 eb3 f3e..f3f f7f 1031 103b..103c 1056..1057
    1084 1715 1734 17b6 17be..17c5 17c7..17c8 1923..1926 1929..192b 1930..1931 1933..1938
    1a19..1a1a 1a55 1a57 1a6d..1a72 1b04 1b3b 1b3d..1b41 1b43..1b44 1b82 1ba1 1ba6..1ba7 1baa 1be7
    1bea..1bec 1bee 1bf2..1bf3 1c24..1c2b 1c34..1c35 1ce1 1cf7 a823..a824 a827 a880..a881
    a8b4..a8c3 a952..a953 a983 a9b4..a9b5 a9ba..a9bb a9be..a9c0 aa2f..aa30 aa33..aa34 aa4d aaeb
    aaee..aaef aaf5 abe3..abe4 abe6..abe7 abe9..abea abec 11000 11002 11082 110b0..110b2
    110b7..110b8 1112c 11145..11146 11182 111b3..111b5 111bf..111c0 111ce 1122c..1122e
    11232..11233 11235 112e0..112e2 11302..11303 1133f 11341..11344 11347..11348 1134b..1134d
    11362..11363 11435..11437 11440..11441 11445 114b1..114b2 114b9 114bb..114bc 114be 114c1
    115b0..115b1 115b8..115bb 115be 11630..11632 1163b..1163c 1163e 116ac 116ae..116af 116b6 11726
    1182c..1182e 11838 11931..11935 11937..11938 1193d 11940 11942 119d1..119d3 119dc..119df 119e4
    11a39 11a57..11a58 11a97 11c2f 11c3e 11ca9 11cb1 11cb4 11d8a..11d8e 11d93..11d94 11d96
    11ef5..11ef6 11f03 11f34..11f35 11f3e..11f3f 11f41 16f51..16f87 16ff0..16ff1 1d166 1d16d"),
  ("t",
    "11a8..11ff d7cb..d7fb"),
  ("v",
    "1160..11a7 d7b0..d7c6"),
  ("zwj",
    "200d")]

end GraphSelect.Unicode
