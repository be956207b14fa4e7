import Std.Data.HashMap
import ErpLens.Text.CharSet

/-!
# Compatible composed form

The form that names are compared in is the compatibility composition of Unicode 14: every character
is decomposed, the marks that follow a base are put in the order of their classes, and what can be
composed is composed again.
-/

namespace ErpLens.Text.Compose

/-- How characters are decomposed, `code:word`; the code is left out where it is the next one. A
word has the codes of a decomposition, with commas, or a pair `base+mark` that composes again and
whose parts stand before it. Where a place has several codes, `41/61` or `300-303`, the word stands
for as many characters in a row, and the first place changes first; `634*4` is four times the same.
Ideographs are written as they are, many in a word. -/
def spellingTable : String :=
  "aa:61 b5:3bc ba:6f c0:41+300-303 41+308/30a c7:43+327 45+300-302 45+308 49+300-302 49+308
  d1:4e+303 4f+300-303 4f+308 d9:55+300-302 55+308 59+301 e0:61+300-303 61+308/30a e7:63+327
  65+300-302 65+308 69+300-302 69+308 f1:6e+303 6f+300-303 6f+308 f9:75+300-302 75+308 79+301
  ff:79+308 41/61+304/306/328 43/63+301-302/307/30c 44/64+30c 112:45/65+304/306-307/328/30c
  47/67+302/306-307/327 48/68+302 128:49/69+303-304/306/328 49+307 132:49,4a 69,6a 4a/6a+302
  4b/6b+327 139:4c/6c+301/327/30c 4c/6c,b7 143:4e/6e+301/327/30c 2bc,6e 14c:4f/6f+304/306/30b
  154:52/72+301/327/30c 53/73+301-302/327/30c 54/74+327/30c 168:55/75+303-304/306/30a-30b/328
  57/77/59/79+302 59+308 5a/7a+301/307/30c 73 1a0:4f/6f+31b 1af:55/75+31b 1c4:44,5a,30c 44/64,7a,30c
  4c,4a/6a 6c,6a 4e,4a/6a 6e,6a 41/61/49/69/4f/6f/55/75+30c dc/fc+304/301/30c/300 1de:c4/e4+304
  226:41+307 1e0:226+304 227:61+307 1e1:227/c6/e6+304 1e6:47/67/4b/6b+30c 4f/6f+328 1ea-1eb+304
  1b7/292/6a+30c 44,5a/7a 64,7a 47/67+301 1f8:4e/6e+300 c5/e5/c6/e6/d8/f8+301 41/61+30f/311
  45/65+30f/311 49/69+30f/311 4f/6f+30f/311 52/72+30f/311 55/75+30f/311 53/73/54/74+326
  21e:48/68+30c 228:45/65+327 d6/f6/d5/f5+304 4f/6f+307 22e-22f/59/79+304 2b0:68 266 6a 72 279 27b
  281 77 79 2e0:263 6c 73 78 295 340:300-301 343:313 308,301 374:2b9 386:391+301 b7 395/397/399+301
  38c:39f+301 38e:3a5/3a9+301 3ca:3b9+308 390:3ca+301 3aa:399/3a5+308 3b1/3b5/3b7/3b9+301
  3cb:3c5+308 3b0:3cb+301 3cc:3bf/3c5/3c9+301 3d0:3b2 3b8 3a5 3d2+301/308 3c6 3c0 3f0:3ba 3c1-3c2
  3f4:398 3b5 3f9:3a3 400:415+300/308 403:413+301 407:406+308 40c:41a+301 418+300 423+306
  419:418+306 439:438+306 450:435+300/308 453:433+301 457:456+308 45c:43a+301 438+300 443+306
  476:474-475+30f 4c1:416/436+306 4d0:410/430+306/308 4d6:415/435+306
  4da:4d8-4d9/416/436/417/437+308 4e2:418/438+304/308 41e/43e+308 4ea:4e8-4e9/42d/44d+308
  423/443+304/308/30b 427/447+308 4f8:42b/44b+308 587:565,582 622:627+653-654 648+654 627+655
  64a+654 675:627/648/6c7/64a,674 6c0:6d5+654 6c2:6c1+654 6d3:6d2+654 929:928+93c 931:930+93c
  934:933+93c 958:915-917,93c 91c/921-922/92b/92f,93c 9cb:9c7+9be/9d7 9dc:9a1-9a2,9bc 9df:9af,9bc
  a33:a32,a3c a36:a38,a3c a59:a16-a17/a1c,a3c a5e:a2b,a3c b48:b47+b56 b4b:b47+b3e/b57
  b5c:b21-b22,b3c b94:b92+bd7 bca:bc6-bc7+bbe bc6+bd7 c48:c46+c56 cc0:cbf+cd5 cc7:cc6+cd5-cd6
  cca:cc6+cc2 cca+cd5 d4a:d46-d47+d3e d46+d57 dda:dd9+dca ddc:dd9+dcf ddc+dca dd9+ddf e33:e4d,e32
  eb3:ecd,eb2 edc:eab,e99/ea1 f43:f42,fb7 f4d:f4c,fb7 f52:f51,fb7 f57:f56,fb7 f5c:f5b,fb7
  f69:f40,fb5 f73:f71,f72 f75:f71,f74 fb2,f80 fb2,f71,f80 fb3,f80 fb3,f71,f80 f81:f71,f80
  f93:f92,fb7 f9d:f9c,fb7 fa2:fa1,fb7 fa7:fa6,fb7 fac:fab,fb7 fb9:f90,fb5 1026:1025+102e 10fc:10dc
  1b06:1b05+1b35 1b08:1b07+1b35 1b0a:1b09+1b35 1b0c:1b0b+1b35 1b0e:1b0d+1b35 1b12:1b11+1b35
  1b3b:1b3a+1b35 1b3d:1b3c+1b35 1b40:1b3e-1b3f+1b35 1b43:1b42+1b35 1d2c:41 c6 42 1d30:44-45 18e
  47-4e 1d3c:4f 222 50 52 54-55 57 61 250-251 1d02 62 64-65 259 25b-25c 67 1d4f:6b 6d 14b 6f 254
  1d16-1d17 70 74-75 1d1d 26f 76 1d25 3b2-3b4 3c6-3c7 69 72 75-76 3b2-3b3 3c1 3c6-3c7 1d78:43d
  1d9b:252 63 255 f0 25c 66 25f 261 265 268-26a 1d7b 29d 26d 1d85 29f 271 270 272-275 278 282-283
  1ab 289-28a 1d1c 28b-28c 7a 290-292 3b8 1e00:41/61+325 42/62+307/323/331 c7/e7+301
  44/64+307/323/331/327/32d 112-113+300-301 45/65+32d/330 228-229+306 46/66+307 47/67+304
  48/68+307/323/308/327/32e 49/69+330 cf/ef/4b/6b+301 4b/6b+323/331 4c/6c+323 1e36-1e37+304
  4c/6c+331/32d 4d/6d+301/307/323 4e/6e+307/323/331/32d d5/f5+301/308 14c-14d+300-301 50/70+301/307
  52/72+307/323 1e5a-1e5b+304 52/72+331 53/73+307/323 15a-15b/160-161/1e62-1e63/54/74+307
  54/74+323/331/32d 55/75+324/330/32d 168-169+301 16a-16b+308 56/76+303/323
  57/77+300-301/308/307/323 58/78+307-308 59/79+307 5a/7a+302/323/331 68+331 74+308 77/79+30a 61,2be
  17f+307 1ea0:41/61+323/309 c2/e2+301/300/309/303 1ea0-1ea1+302 102-103+301/300/309/303
  1ea0-1ea1+306 45/65+323/309/303 ca/ea+301/300/309/303 1eb8-1eb9+302 49/69+309/323 4f/6f+323/309
  d4/f4+301/300/309/303 1ecc-1ecd+302 1a0-1a1+301/300/309/303/323 55/75+323/309
  1af-1b0+301/300/309/303/323 59/79+300/323/309/303 1f00:3b1+313-314 1f00-1f01+300-301/342
  391+313-314 1f08-1f09+300-301/342 3b5+313-314 1f10-1f11+300-301 1f18:395+313-314 1f18-1f19+300-301
  1f20:3b7+313-314 1f20-1f21+300-301/342 397+313-314 1f28-1f29+300-301/342 3b9+313-314
  1f30-1f31+300-301/342 399+313-314 1f38-1f39+300-301/342 3bf+313-314 1f40-1f41+300-301
  1f48:39f+313-314 1f48-1f49+300-301 1f50:3c5+313-314 1f50-1f51+300-301/342 1f59:3a5+314
  1f5b:1f59+300 1f5d:1f59+301 1f5f:1f59+342 3c9+313-314 1f60-1f61+300-301/342 3a9+313-314
  1f68-1f69+300-301/342 3b1+300 3b1,301 3b5+300 3b5,301 3b7+300 3b7,301 3b9+300 3b9,301 3bf+300
  3bf,301 3c5+300 3c5,301 3c9+300 3c9,301 1f80:1f00-1f0f/1f20-1f2f+345 1f60-1f6f+345 3b1+306/304
  1f70/3b1/3ac+345 1fb6:3b1+342 1fb6+345 391+306/304/300 391,301 391+345 1fbe:3b9
  1fc2:1f74/3b7/3ae+345 1fc6:3b7+342 1fc6+345 395+300 395,301 397+300 397,301 397+345
  1fd0:3b9+306/304 3ca+300 3b9,308,301 1fd6:3b9/3ca+342 399+306/304/300 399,301 1fe0:3c5+306/304
  3cb+300 3c5,308,301 3c1+313-314 3c5/3cb+342 3a5+306/304/300 3a5,301 3a1+314 1ff2:1f7c/3c9/3ce+345
  1ff6:3c9+342 1ff6+345 39f+300 39f,301 3a9+300 3a9,301 3a9+345 2071:69 207f:6e 2090:61 65 6f 78 259
  68 6b-6e 70 73-74 2102:43 2107:190 210a:67 48*3 68 127 49*2 4c 6c 2115:4e 2119:50-52 52*2 2124:5a
  2126:3a9 2128:5a 212a:4b 41,30a 42-43 212f:65 45-46 2133:4d 6f 5d0-5d3 69 213c:3c0 3b3 393 3a0
  2145:44 64-65 69-6a 2160:49 49,49 49,49,49 49,56 56 56,49 56,49,49 56,49,49,49 49,58 58 58,49
  58,49,49 4c 43-44 4d 69 69,69 69,69,69 69,76 76 76,69 76,69,69 76,69,69,69 69,78 78 78,69 78,69,69
  6c 63-64 6d 2c7c:6a 56 2d6f:2d61 3038:十卄卅 304c:304b+3099 304e:304d+3099 3050:304f+3099
  3052:3051+3099 3054:3053+3099 3056:3055+3099 3058:3057+3099 305a:3059+3099 305c:305b+3099
  305e:305d+3099 3060:305f+3099 3062:3061+3099 3065:3064+3099 3067:3066+3099 3069:3068+3099
  3070:306f+3099-309a 3073:3072+3099-309a 3076:3075+3099-309a 3079:3078+3099-309a
  307c:307b+3099-309a 3094:3046+3099 309e:309d+3099 3088,308a 30ac:30ab+3099 30ae:30ad+3099
  30b0:30af+3099 30b2:30b1+3099 30b4:30b3+3099 30b6:30b5+3099 30b8:30b7+3099 30ba:30b9+3099
  30bc:30bb+3099 30be:30bd+3099 30c0:30bf+3099 30c2:30c1+3099 30c5:30c4+3099 30c7:30c6+3099
  30c9:30c8+3099 30d0:30cf+3099-309a 30d3:30d2+3099-309a 30d6:30d5+3099-309a 30d9:30d8+3099-309a
  30dc:30db+3099-309a 30f4:30a6+3099 30f7:30ef-30f2+3099 30fe:30fd+3099 30b3,30c8 3131:1100-1101
  11aa 1102 11ac-11ad 1103-1105 11b0-11b5 111a 1106-1108 1121 1109-1112 1161-1175 1160 1114-1115
  11c7-11c8 11cc 11ce 11d3 11d7 11d9 111c 11dd 11df 111d-111e 1120 1122-1123 1127 1129 112b-112f
  1132 1136 1140 1147 114c 11f1-11f2 1157-1159 1184-1185 1188 1191-1192 1194 119e 11a1 a69c:44a 44c
  a770:a76f a7f2:43 46 51 a7f8:126 153 ab5c:a727 ab37 26b ab52 ab69:28d
  f900:豈更車賈滑串句龜龜契金喇奈懶癩羅蘿螺裸邏樂洛烙珞落酪駱亂卵欄爛蘭鸞嵐濫藍襤拉臘蠟廊朗浪狼郎來冷勞擄櫓爐盧老蘆虜路露魯鷺碌祿綠菉錄鹿論壟弄籠聾牢磊賂雷壘屢樓淚漏累縷陋勒肋凜凌稜綾菱陵讀
  拏樂諾丹寧怒率異北磻便復不泌數索參塞省葉說殺辰沈拾若掠略亮兩凉梁糧良諒量勵呂女廬旅濾礪閭驪麗黎力曆歷轢年憐戀撚漣煉璉秊練聯輦蓮連鍊列劣咽烈裂說廉念捻殮簾獵令囹寧嶺怜玲瑩羚聆鈴零靈領例禮醴隸惡了
  僚寮尿料樂燎療蓼遼龍暈阮劉杻柳流溜琉留硫紐類六戮陸倫崙淪輪律慄栗率隆利吏履易李梨泥理痢罹裏裡里離匿溺吝燐璘藺隣鱗麟林淋臨立笠粒狀炙識什茶刺切度拓糖宅洞暴輻行降見廓兀嗀
  fa10:585a fa12:6674 fa15:凞猪益礼神祥福靖精羽 fa20:8612 fa22:8af8 fa25:逸都
  fa2a:飯飼館鶴郞隷侮僧免勉勤卑喝嘆器塀墨層屮悔慨憎懲敏既暑梅海渚漢煮爫琢碑社祉祈祐祖祝禍禎穀突節練縉繁署者臭艹艹著褐視謁謹賓贈辶逸難響頻恵𤋮舘
  fa70:並况全侀充冀勇勺喝啕喙嗢塚墳奄奔婢嬨廒廙彩徭惘慎愈憎慠懲戴揄搜摒敖晴朗望杖歹殺流滛滋漢瀞煮瞧爵犯猪瑱甆画瘝瘟益盛直睊着磌窱節类絛練缾者荒華蝹襁覆視調諸請謁諾諭謹變贈輸遲醙鉶陼難靖韛響
  頋頻鬒龜𢡊𢡄𣏕㮝䀘䀹𥉉𥳐𧻓齃龎
  fb00:66,66/69/6c 66,66,69/6c 73,74/74 fb13:574,576/565/56b 57e,576 574,56d fb1d:5d9,5b4
  fb1f:5f2,5b7 5e2 5d0 5d3-5d4 5db-5dd 5e8 5ea fb2a:5e9,5c1-5c2 5e9,5bc,5c1-5c2 5d0,5b7-5b8/5bc
  5d1-5d6,5bc fb38:5d8-5dc,5bc fb3e:5de,5bc fb40:5e0-5e1,5bc fb43:5e3-5e4,5bc fb46:5e6-5ea,5bc
  5d5,5b9 5d1/5db/5e4,5bf 5d0,5dc 671*2 67b*4 67e*4 680*4 67a*4 67f*4 679*4 6a4*4 6a6*4 684*4 683*4
  686-687*4 68d*2 68c*2 68e*2 688*2 698*2 691*2 6a9*4 6af*4 6b3*4 6b1*4 6ba-6bb*2 6bb*2 6d5,654/654
  6c1*4 6be*4 6d2*2 6d2,654/654 fbd3:6ad*4 6c7*2 6c6*2 6c8*2 6c7,674 6cb*2 6c5*2 6c9*2 6d0*4 649*2
  64a/64a,654,627/6d5/648/6c7/6c6/6c8/6d0 64a,654,6d0/649/649/649 6cc*4 64a,654,62c-62d/645/649-64a
  628,62c-62e 628,645/649-64a 62a,62c-62e 62a,645/649-64a 62b,62c/645/649-64a 62c,62d/645
  62d,62c/645 62e,62c-62d/645 633,62c-62e 633,645 635,62d/645 636,62c-62e 636,645 637,62d/645
  638,645 639,62c/645 63a,62c/645 641,62c-62e 641,645/649-64a 642,62d/645/649-64a 643,627/62c-62e
  643,644-645/649-64a 644,62c-62e 644,645/649-64a 645,62c-62e 645,645/649-64a 646,62c-62e
  646,645/649-64a 647,62c/645/649-64a 64a,62c-62e 64a,645/649-64a 630-631/649,670
  fc64:64a,654,631-632/645-646/649-64a 628,631-632/645-646/649-64a 62a,631-632/645-646/649-64a
  62b,631-632/645-646/649-64a 641,649-64a 642,649-64a 643,627/644-645/649-64a 644,645/649-64a
  645,627/645 646,631-632/645-646/649-64a 649,670 64a,631-632/645-646/649-64a
  64a,654,62c-62e/645/647 628,62c-62e 628,645/647 62a,62c-62e 62a,645/647 62b,645 62c,62d/645
  62d,62c/645 62e,62c/645 633,62c-62e 633,645 635,62d-62e/645 636,62c-62e 636,645 637,62d 638,645
  639,62c/645 63a,62c/645 641,62c-62e 641,645 642,62d/645 643,62c-62e 643,644-645 644,62c-62e
  644,645/647 645,62c-62e 645,645 646,62c-62e 646,645/647 647,62c/645/670 64a,62c-62e 64a,645/647
  64a,654,645/647 628,645/647 62a,645/647 62b,645/647 633,645/647 634,645/647 643,644-645
  644/646,645 646,647 64a,645/647 640,64e,651 640,64f,651 640,650,651 637,649-64a 639,649-64a
  63a,649-64a 633,649-64a 634,649-64a 62d,649-64a 62c,649-64a 62e,649-64a 635,649-64a 636,649-64a
  634,62c-62e 634,645/631 633/635-636,631 637,649-64a 639,649-64a 63a,649-64a 633,649-64a
  634,649-64a 62d,649-64a 62c,649-64a 62e,649-64a 635,649-64a 636,649-64a 634,62c-62e 634,645/631
  633/635-636,631 634,62c-62e 634,645 633-634,647 637,645 633,62c-62e 634,62c-62e 637-638,645
  627,64b/64b fd50:62a,62c,645 62a,62d,62c/62c/645 62a,62e,645 62a,645,62c-62e 62c,645,62d/62d
  62d,645,64a/649 633,62d,62c 633,62c,62d/649 633,645,62d/62d/62c/645/645 635,62d,62d/62d
  635,645,645 634,62d,645/645 634,62c,64a 634/634,645,62e/645 636,62d,649 636,62e,645/645
  637,645,62d/62d/645/64a 639,62c,645 639,645,645/645/649 63a,645,645/64a/649 641,62e,645/645
  642,645,62d/645 644,62d,645/64a/649 644,62c,62c/62c 644,62e,645/645 644,645,62d/62d
  645,62d,62c/645/64a 645,62c,62d/645 645,62e,62c/645 fd92:645,62c,62e 647,645,62c/645
  646,62d,645/649 646,62c,645/645/649 646,645,64a/649 64a,645,645/645 628,62e,64a 62a,62c,64a/649
  62a,62e,64a/649 62a,645,64a/649 62c,645,64a 62c,62d,649 62c,645,649 633,62e,649
  635/634/636,62d,64a 644,62c,64a 644,645,64a 64a,62d,64a 64a,62c,64a 64a/645/642,645,64a
  646,62d,64a 642,645,62d 644,62d,645 639/643,645,64a 646,62c,62d 645,62e,64a 644,62c,645
  643,645,645 644,62c,645 646,62c,62d 62c,62d,64a 62d/645,62c,64a 641,645,64a 628,62d,64a
  643,645,645 639,62c,645 635,645,645 633,62e,64a 646,62c,64a fdf0:635/642,644,6d2 627,644,644,647
  627,643,628,631 645,62d,645,62f 635,644,639,645 631,633,648,644 639,644,64a,647 648,633,644,645
  635,644,649 fe33:5f*2 fe4d:5f*3 fe71:640,64b fe77:640,64e fe79:640,64f fe7b:640,650 fe7d:640,651
  fe7f:640,652 621 627/627,653-654 648,654/654 627,655/655 64a/64a,654/654 627-628*2 628-62a*2
  62a-62b*2 62b-62c*2 62c-62d*2 62d-62e*2 62e-633*2 633-634*2 634-635*2 635-636*2 636-637*2
  637-638*2 638-639*2 639-63a*2 63a*2 641-647*4 648-64a*2 64a*2 644/644,627,653-655 644,627/627
  ff10:30-39 ff21:41-5a ff3f:5f ff41:61-7a ff66:30f2 30a1 30a3 30a5 30a7 30a9 30e3 30e5 30e7 30c3
  30fc 30a2 30a4 30a6 30a8 30aa-30ab 30ad 30af 30b1 30b3 30b5 30b7 30b9 30bb 30bd 30bf 30c1 30c4
  30c6 30c8 30ca-30cf 30d2 30d5 30d8 30db 30de-30e2 30e4 30e6 30e8-30ed 30ef 30f3 3099-309a 1160
  1100-1101 11aa 1102 11ac-11ad 1103-1105 11b0-11b5 111a 1106-1108 1121 1109-1112 ffc2:1161-1166
  ffca:1167-116c ffd2:116d-1172 ffda:1173-1175 10781:2d0-2d1 e6 299 253 10787:2a3 ab66 2a5 2a4
  256-257 1d91 258 25e 2a9 264 262 260 29b 127 29c 267 284 2aa-2ab 26c 1df04 a78e 26e 1df05 28e
  1df06 f8 276-277 71 27a 1df08 27d-27e 280 2a8 2a6 ab67 2a7 288 2c71 107b2:28f 2a1-2a2 298 1c0-1c2
  1df0a 1df1e 1109a:11099+110ba 1109c:1109b+110ba 110ab:110a5+110ba 1112e:11131-11132+11127
  1134b:11347+1133e/11357 114bb:114b9+114ba/114b0 114be:114b9+114bd 115ba:115b8-115b9+115af
  11938:11935+11930 1d400:41-5a 61-7a 41-5a 61-67 1d456:69-7a 41-5a 61-7a 41 1d49e:43-44 1d4a2:47
  1d4a5:4a-4b 1d4a9:4e-51 1d4ae:53-5a 61-64 1d4bb:66 1d4bd:68-6e 1d4c5:70-7a 41-5a 61-7a 41-42
  1d507:44-47 1d50d:4a-51 1d516:53-59 1d51e:61-7a 41-42 1d53b:44-47 1d540:49-4d 1d546:4f 1d54a:53-59
  1d552:61-7a 41-5a 61-7a 41-5a 61-7a 41-5a 61-7a 41-5a 61-7a 41-5a 61-7a 41-5a 61-7a 131 237
  1d6a8:391-3a1 398 3a3-3a9 1d6c2:3b1-3c9 1d6dc:3b5 3b8 3ba 3c6 3c1 3c0 391-3a1 398 3a3-3a9
  1d6fc:3b1-3c9 1d716:3b5 3b8 3ba 3c6 3c1 3c0 391-3a1 398 3a3-3a9 1d736:3b1-3c9 1d750:3b5 3b8 3ba
  3c6 3c1 3c0 391-3a1 398 3a3-3a9 1d770:3b1-3c9 1d78a:3b5 3b8 3ba 3c6 3c1 3c0 391-3a1 398 3a3-3a9
  1d7aa:3b1-3c9 1d7c4:3b5 3b8 3ba 3c6 3c1 3c0 3dc-3dd 1d7ce:30-39 30-39 30-39 30-39 30-39
  1ee00:627-628 62c 62f 1ee05:648 632 62d 637 64a 643-646 633 639 641 635 642 631 634 62a-62b 62e
  630 636 638 63a 66e 6ba 6a1 66f 1ee21:628 62c 1ee24:647 1ee27:62d 1ee29:64a 643-646 633 639 641
  635 642 1ee34:634 62a-62b 62e 1ee39:636 1ee3b:63a 1ee42:62c 1ee47:62d 1ee49:64a 1ee4b:644
  1ee4d:646 633 639 1ee51:635 642 1ee54:634 1ee57:62e 1ee59:636 1ee5b:63a 1ee5d:6ba 1ee5f:66f
  1ee61:628 62c 1ee64:647 1ee67:62d 637 64a 643 1ee6c:645-646 633 639 641 635 642 1ee74:634 62a-62b
  62e 1ee79:636 638 63a 66e 1ee7e:6a1 1ee80:627-628 62c 62f 647-648 632 62d 637 64a 1ee8b:644-646
  633 639 641 635 642 631 634 62a-62b 62e 630 636 638 63a 1eea1:628 62c 62f 1eea5:648 632 62d 637
  64a 1eeab:644-646 633 639 641 635 642 631 634 62a-62b 62e 630 636 638 63a 1fbf0:30-39
  2f800:丽丸乁𠄢你侮侻倂偺備僧像㒞𠘺免兔兤具𠔜㒹內再𠕋冗冤仌冬况𩇟凵刃㓟刻剆割剷㔕勇勉勤勺包匆北卉卑博即卽卿卿卿𠨬灰及叟𠭣叫叱吆咞吸呈周咢哶唐啓啣善善喙喫喳嗂圖嘆圗噑噴切壮城埴堍型堲報墬𡓤
  売壷夆多夢奢𡚨𡛪姬娛娧姘婦㛮㛼嬈嬾嬾𡧈寃寘寧寳𡬘寿将当尢㞁屠屮峀岍𡷤嵃𡷦嵮嵫嵼巡巢㠯巽帨帽幩㡢𢆃㡼庰庳庶廊𪎒廾𢌱𢌱舁弢弢㣇𣊸𦇚形彫㣣徚忍志忹悁㤺㤜悔𢛔惇慈慌慎慌慺憎憲憤憯懞懲懶成戛扝抱拔捐𢬌挽
  拼捨掃揤𢯱搢揅掩㨮摩摾撝摷㩬敏敬𣀊旣書晉㬙暑㬈㫤冒冕最暜肭䏙朗望朡杞杓𣏃㭉柺枅桒梅𣑭梎栟椔㮝楂榣槪檨𣚣櫛㰘次𣢧歔㱎歲殟殺殻𣪍𡴋𣫺汎𣲼沿泍汧洖派海流浩浸涅𣴞洴港湮㴳滋滇𣻑淹潮𣽞𣾎濆瀹瀞瀛㶖灊災灷
  炭𠔥煅𤉣熜𤎫爨爵牐𤘈犀犕𤜵𤠔獺王㺬玥㺸㺸瑇瑜瑱璅瓊㼛甤𤰶甾𤲒異𢆟瘐𤾡𤾸𥁄㿼䀈直𥃳𥃲𥄙𥄳眞真真睊䀹瞋䁆䂖𥐝硎碌磌䃣𥘦祖𥚚𥛅福秫䄯穀穊穏𥥼𥪧𥪧竮䈂𥮫篆築䈧𥲀糒䊠糨糣紀𥾆絣䌁緇縂繅䌴𦈨𦉇䍙𦋙罺𦌾羕翺
  者𦓚𦔣聠𦖨聰𣍟䏕育脃䐋脾媵𦞧𦞵𣎓𣎜舁舄辞䑫芑芋芝劳花芳芽苦𦬼若茝荣莭茣莽菧著荓菊菌菜𦰶𦵫𦳕䔫蓱蓳蔖𧏊蕤𦼬䕝䕡𦾱𧃒䕫虐虜虧虩蚩蚈蜎蛢蝹蜨蝫螆䗗蟡蠁䗹衠衣𧙧裗裞䘵裺㒻𧢮𧥦䚾䛇誠諭變豕𧲨貫賁贛起𧼯𠠄
  跋趼跰𠣞軔輸𨗒𨗭邔郱鄑𨜮鄛鈸鋗鋘鉼鏹鐕𨯺開䦕閷𨵷䧦雃嶲霣𩅅𩈚䩮䩶韠𩐊䪲𩒖頋頋頩𩖶飢䬳餩馧駂駾䯎𩬰鬒鱀鳽䳎䳭鵧𪃎䳸𪄅𪈎𪊑麻䵖黹黾鼅鼏鼖鼻𪘀"

/-- Pairs that compose to characters that stand in no identifier. -/
def otherPairTable : String :=
  "385:a8+301 1fc1:a8+342 1fcd:1fbf+300-301/342 1fdd:1ffe+300-301/342 1fed:a8+300 219a:2190/2192+338
  21ae:2194+338 21cd:21d0/21d4/21d2+338 2204:2203+338 2209:2208+338 220c:220b+338 2224:2223+338
  2226:2225+338 2241:223c+338 2244:2243+338 2247:2245+338 2249:2248+338 2260:3d+338 2262:2261+338
  226d:224d/3c/3e+338 2264-2265+338 2274:2272-2273+338 2278:2276-2277+338 2280:227a-227b+338
  2284:2282-2283+338 2288:2286-2287+338 22ac:22a2/22a8-22a9/22ab+338 22e0:227c-227d/2291-2292+338
  22ea:22b2-22b5+338"

/-- The characters whose combining class is not zero, after the class. -/
def classTable : String :=
  "1: 334-338 1cd4 1ce2-1ce8 20d2-20d3 20d8-20da 20e5-20e6 20ea-20eb 10a39 16af0-16af4 1bc9e
  1d167-1d169 6: 16ff0-16ff1 7: 93c 9bc a3c abc b3c c3c cbc 1037 1b34 1be6 1c37 a9b3 110ba 11173
  111ca 11236 112e9 1133b-1133c 11446 114c3 115c0 116b7 1183a 11943 11d42 1e94a 8: 3099-309a 9: 94d
  9cd a4d acd b4d bcd c4d ccd d3b-d3c d4d dca e3a eba f84 1039-103a 1714-1715 1734 17d2 1a60 1b44
  1baa-1bab 1bf2-1bf3 2d7f a806 a82c a8c4 a953 a9c0 aaf6 abed 10a3f 11046 11070 1107f 110b9
  11133-11134 111c0 11235 112ea 1134d 11442 114c2 115bf 1163f 116b6 1172b 11839 1193d-1193e 119e0
  11a34 11a47 11a99 11c3f 11d44-11d45 11d97 a: 5b0 b: 5b1 c: 5b2 d: 5b3 e: 5b4 f: 5b5 10: 5b6 11:
  5b7 12: 5b8 5c7 13: 5b9-5ba 14: 5bb 15: 5bc 16: 5bd 17: 5bf 18: 5c1 19: 5c2 1a: fb1e 1b: 64b 8f0
  1c: 64c 8f1 1d: 64d 8f2 1e: 618 64e 1f: 619 64f 20: 61a 650 21: 651 22: 652 23: 670 24: 711 54:
  c55 5b: c56 67: e38-e39 6b: e48-e4b 76: eb8-eb9 7a: ec8-ecb 81: f71 82: f72 f7a-f7d f80 84: f74
  ca: 321-322 327-328 1dd0 d6: 1dce d8: 31b f39 1d165-1d166 1d16e-1d172 da: 1dfa 302a dc: 316-319
  31c-320 323-326 329-333 339-33c 347-349 34d-34e 353-356 359-35a 591 596 59b 5a2-5a7 5aa 5c5
  655-656 65c 65f 6e3 6ea 6ed 731 734 737-739 73b-73c 73e 742 744 746 748 7f2 7fd 859-85b 899-89b
  8cf-8d3 8e3 8e6 8e9 8ed-8ef 8f6 8f9-8fa 952 f18-f19 f35 f37 fc6 108d 193b 1a18 1a7f 1ab5-1aba
  1abd 1abf-1ac0 1ac3-1ac4 1aca 1b6c 1cd5-1cd9 1cdc-1cdf 1ced 1dc2 1dca 1dcf 1df9 1dfd 1dff 20e8
  20ec-20ef a92b-a92d aab4 fe27-fe2d 101fd 102e0 10a0d 10a3a 10ae6 10f46-10f47 10f4b 10f4d-10f50
  10f83 10f85 1d17b-1d182 1d18a-1d18b 1e8d0-1e8d6 de: 59a 5ad 1939 302d e0: 302e-302f e2: 1d16d e4:
  5ae 18a9 1df7-1df8 302b e6: 300-314 33d-344 346 34a-34c 350-352 357 35b 363-36f 483-487 592-595
  597-599 59c-5a1 5a8-5a9 5ab-5ac 5af 5c4 610-617 653-654 657-65b 65d-65e 6d6-6dc 6df-6e2 6e4
  6e7-6e8 6eb-6ec 730 732-733 735-736 73a 73d 73f-741 743 745 747 749-74a 7eb-7f1 7f3 816-819
  81b-823 825-827 829-82d 898 89c-89f 8ca-8ce 8d4-8e1 8e4-8e5 8e7-8e8 8ea-8ec 8f3-8f5 8f7-8f8
  8fb-8ff 951 953-954 9fe f82-f83 f86-f87 135d-135f 17dd 193a 1a17 1a75-1a7c 1ab0-1ab4 1abb-1abc
  1ac1-1ac2 1ac5-1ac9 1acb-1ace 1b6b 1b6d-1b73 1cd0-1cd2 1cda-1cdb 1ce0 1cf4 1cf8-1cf9 1dc0-1dc1
  1dc3-1dc9 1dcb-1dcc 1dd1-1df5 1dfb 1dfe 20d0-20d1 20d4-20d7 20db-20dc 20e1 20e7 20e9 20f0
  2cef-2cf1 2de0-2dff a66f a674-a67d a69e-a69f a6f0-a6f1 a8e0-a8f1 aab0 aab2-aab3 aab7-aab8
  aabe-aabf aac1 fe20-fe26 fe2e-fe2f 10376-1037a 10a0f 10a38 10ae5 10d24-10d27 10eab-10eac
  10f48-10f4a 10f4c 10f82 10f84 11100-11102 11366-1136c 11370-11374 1145e 16b30-16b36 1d185-1d189
  1d1aa-1d1ad 1d242-1d244 1e000-1e006 1e008-1e018 1e01b-1e021 1e023-1e024 1e026-1e02a 1e130-1e136
  1e2ae 1e2ec-1e2ef 1e944-1e949 e8: 315 31a 358 1df6 302c e9: 35c 35f 362 1dfc ea: 35d-35e 360-361
  1dcd f0: 345"

def entrySides (entry : String) : List Char × List Char :=
  let chars := entry.toList
  (chars.takeWhile (· != ':'), (chars.dropWhile (· != ':')).drop 1)

inductive Spelling where
  | codes (codes : List Nat)
  | pair (base mark : Nat)

def readPlace (place : List Char) : List Nat :=
  (place.splitOnP (· == '/')).flatMap fun part =>
    let range := CodeRange.ofWord (part.takeWhile (· != '*'))
    let count := (part.dropWhile (· != '*')).drop 1
    (List.range' range.first (range.last + 1 - range.first)).flatMap
      (List.replicate (if count.isEmpty then 1 else readHex count))

def choices : List (List Nat) → List (List Nat)
  | [] => [[]]
  | place :: rest => (choices rest).flatMap fun later => place.map (· :: later)

def readSpellings (word : List Char) : List Spelling :=
  if word.any (127 < ·.toNat) then word.map fun c => .codes [c.toNat]
  else
    (choices ((word.splitOnP fun c => c == ',' || c == '+').map readPlace)).map fun codes =>
      match word.contains '+', codes with
      | true, [base, mark] => .pair base mark
      | _, _ => .codes codes

def spelledCodes (next : Nat) : List String → List (Spelling × Nat)
  | [] => []
  | entry :: rest =>
    let (first, word) :=
      if entry.contains ':' then
        let (code, word) := entrySides entry
        (readHex code, word)
      else (next, entry.toList)
    let spellings := readSpellings word
    spellings.zipIdx first ++ spelledCodes (first + spellings.length) rest

structure Tables where
  decompositions : Std.HashMap Nat (List Nat)
  compositions : Std.HashMap (Nat × Nat) Nat
  classes : Std.HashMap Nat Nat

def decompositions (letters : List (Spelling × Nat)) : Std.HashMap Nat (List Nat) :=
  letters.foldl (fun table (spelling, code) =>
    match spelling with
    | .codes codes => table.insert code codes
    | .pair base mark =>
      table.insert code (table.getD base [base] ++ table.getD mark [mark])) ∅

def compositions (letters : List (Spelling × Nat)) : Std.HashMap (Nat × Nat) Nat :=
  letters.foldl (fun table (spelling, code) =>
    match spelling with
    | .codes _ => table
    | .pair base mark => table.insert (base, mark) code) ∅

def readClasses (value : Nat) (table : Std.HashMap Nat Nat) : List String → Std.HashMap Nat Nat
  | [] => table
  | word :: rest =>
    if word.contains ':' then readClasses (readHex word.toList.dropLast) table rest
    else
      readClasses value ((readPlace word.toList).foldl (·.insert · value) table) rest

def tables : Thunk Tables := Thunk.mk fun _ =>
  let letters := spelledCodes 0 (tableEntries spellingTable)
  { decompositions := decompositions letters
    compositions := compositions (letters ++ spelledCodes 0 (tableEntries otherPairTable))
    classes := readClasses 0 ∅ (tableEntries classTable) }

def decomposeSyllable (code : Nat) : List Nat :=
  let index := code - 0xac00
  let letters := [0x1100 + index / 588, 0x1161 + index % 588 / 28]
  if index % 28 = 0 then letters else letters ++ [0x11a7 + index % 28]

def decompose (code : Nat) : List Nat :=
  if 0xac00 ≤ code ∧ code ≤ 0xd7a3 then decomposeSyllable code
  else tables.get.decompositions.getD code [code]

def combiningClass (code : Nat) : Nat :=
  tables.get.classes.getD code 0

/-- Puts the marks of each run (class not zero) in order of class, keeping the order of equal
classes. `run` is the current run. -/
def sortMarks : List Nat → List Nat → List Nat
  | run, [] => sorted run
  | run, code :: rest =>
    if combiningClass code = 0 then sorted run ++ code :: sortMarks [] rest
    else sortMarks (run ++ [code]) rest
where
  sorted (run : List Nat) : List Nat :=
    run.mergeSort fun a b => decide (combiningClass a ≤ combiningClass b)

def composePair (base code : Nat) : Option Nat :=
  if 0x1100 ≤ base ∧ base < 0x1113 ∧ 0x1161 ≤ code ∧ code < 0x1176 then
    some (0xac00 + ((base - 0x1100) * 21 + (code - 0x1161)) * 28)
  else if 0xac00 ≤ base ∧ base ≤ 0xd7a3 ∧ (base - 0xac00) % 28 = 0 ∧
      0x11a7 < code ∧ code < 0x11c3 then
    some (base + (code - 0x11a7))
  else tables.get.compositions.get? (base, code)

/-- Composes from left to right. `base` is the last base, `marks` the codes kept after it, and a
code reaches the base unless a kept code of its class or above stands between. -/
def composeFrom (base : Nat) (marks : List Nat) : List Nat → List Nat
  | [] => base :: marks
  | code :: rest =>
    let blocked := match marks.getLast? with
      | none => false
      | some last => combiningClass last = 0 || combiningClass code ≤ combiningClass last
    match if blocked then none else composePair base code with
    | some composite => composeFrom composite marks rest
    | none =>
      if combiningClass code = 0 then base :: marks ++ composeFrom code [] rest
      else composeFrom base (marks ++ [code]) rest

def compose : List Nat → List Nat
  | [] => []
  | code :: rest =>
    if combiningClass code = 0 then composeFrom code [] rest
    else code :: compose rest

def normalForm (name : List Char) : List Char :=
  if name.all (·.toNat < 128) then name
  else (compose (sortMarks [] (name.flatMap fun c => decompose c.toNat))).map Char.ofNat

end ErpLens.Text.Compose
