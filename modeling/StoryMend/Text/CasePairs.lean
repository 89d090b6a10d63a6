import StoryMend.Text.CaseMap

/-!
The case pairs of all scripts, in the packed form that `CaseMap.ofPacked` reads, and
the characters whose counterpart is more than one character.
-/

namespace StoryMend.Text.CaseMap

/-- From lower to upper case, one character to one. -/
def upper : CaseMap := .ofPacked
  ["d3T1.1~101tt1q1Q1.1261.1101y72R21201vG222137213Q213221101=L101kD3121301140116011301f64011101kB",
   "101fhz2301h83221301150113011412130114011201w36011101320111013201110132721101;42821301110132011",
   "4M2148219011311,gP20115421101,dP101<dP101:dP101gF101~D211>D201zD201@D101,+y2401>D101*+y2201;D1",
   "01t*y2101wyy2101m+y2201dF101jF101m+y2101t.N101f+y2301jF201^.N101nF301qF801t,N301zF201k+y2101zF",
   "401+yy2101zF101n4111xF101s4601@FC01pxy2101hxy2l501m5r11214011421h8v101q2121n22J1.1101;1181.110",
   "1.3111;3201~3101x3401;2101q3101H2C21101q5101.4101G101l7201.530113011@1b1.11H1.42J21BV213621101",
   "Y2v121y1j11.2p^2p11c:5321c:5>R51Hgh201~kD101>kD101lkD111gkD101jkD101=jD101nfD101h:h22011v701mc",
   "j2401rt7K01wgj2z3p221601@36v121171J951JC71J971J951JD32J971J911+4131r5111m6111c8111c7111:7z111J",
   "F01nfGL11JH11J401GnC01=1f1H1b5011rVT1z1l^1v11.22011401@fP101vfP222170113011Cx12191215011Fj11.j",
   "G201.jG601.jG+mZQ21NF21m46214Z21C121342150115121101c33921D72151213721W011;V01.>1Yv21.:q2f:NT1.",
   "1tk1l11v2n4g11v2:4B1s22G1s2261s2211s2h<1y11.3,3P1.1~>2b1.1drPb1.1:1S1@1vyZd11g2"]

/-- From upper to lower case, one character to one. -/
def lower : CaseMap := .ofPacked
  ["d2T1c2k3Q1c2261c2f1R22422237223Q22201x71222401hF1122201:D1012211^D1012301,4101+D101*D1012201^D",
   "101,D201kF101fF1012401kF101pF201rF1222201+F1012201+F3012201+F1012211yF1122201*F101240128014101",
   "22014101220141822382230141122201d6101v31M22201g82822801*fP1012201jB101wfP3012201jD101p4101t414",
   "22f91224012901m7701r2221p2201c4211,32J1c2281c2h101J9C22601=33012201F1012321g81H1c51b1c2x1J22BV",
   "22201Z16223v1223j11c3p^2j11ckG201ckG601ckGzQv21c;q2151J+h20127p11.~5321.~5dBp222B01;~G2v122B71",
   "H951HC71H971H951HD32H971HT71H971H971H911H111z4101KD31q5101KD11H111l6F11H111.6101FD11.7111~7101",
   "Kp901>@G401;qJ101qhJ701<1t1H1c1N012zTT1+1x>1v11c3x1012201s.N101qt7101s,N3222201=dP101>.N101;dP",
   "101~dP20123012911;gP1x12291225012tpZQ22NF22m46224Z22C122201lcj214225012201vyy231224922201l+y21",
   "01;+y2101@+y2101d+y2101l+y2201gxy2101zyy2101nxy2101c^11722201.2101j+y2101vgj21122201s*y2172220",
   "1dhz2T012r>PT1c2kk1l11w2n4g11w2;4B1t22G1t2261t2211t2q=1y11c4,4P1c2~>2b1c2drPb1c2d2S1*1myZd11h2"]

/-- Characters whose upper case is several characters, each followed by it. -/
def upperLong : List String :=
  ["\u00df\u0053\u0053", "\u0149\u02bc\u004e", "\u01f0\u004a\u030c", "\u0390\u0399\u0308\u0301",
   "\u03b0\u03a5\u0308\u0301", "\u0587\u0535\u0552", "\u1e96\u0048\u0331", "\u1e97\u0054\u0308",
   "\u1e98\u0057\u030a", "\u1e99\u0059\u030a", "\u1e9a\u0041\u02be", "\u1f50\u03a5\u0313",
   "\u1f52\u03a5\u0313\u0300", "\u1f54\u03a5\u0313\u0301", "\u1f56\u03a5\u0313\u0342",
   "\u1f80\u1f08\u0399", "\u1f81\u1f09\u0399", "\u1f82\u1f0a\u0399", "\u1f83\u1f0b\u0399",
   "\u1f84\u1f0c\u0399", "\u1f85\u1f0d\u0399", "\u1f86\u1f0e\u0399", "\u1f87\u1f0f\u0399",
   "\u1f88\u1f08\u0399", "\u1f89\u1f09\u0399", "\u1f8a\u1f0a\u0399", "\u1f8b\u1f0b\u0399",
   "\u1f8c\u1f0c\u0399", "\u1f8d\u1f0d\u0399", "\u1f8e\u1f0e\u0399", "\u1f8f\u1f0f\u0399",
   "\u1f90\u1f28\u0399", "\u1f91\u1f29\u0399", "\u1f92\u1f2a\u0399", "\u1f93\u1f2b\u0399",
   "\u1f94\u1f2c\u0399", "\u1f95\u1f2d\u0399", "\u1f96\u1f2e\u0399", "\u1f97\u1f2f\u0399",
   "\u1f98\u1f28\u0399", "\u1f99\u1f29\u0399", "\u1f9a\u1f2a\u0399", "\u1f9b\u1f2b\u0399",
   "\u1f9c\u1f2c\u0399", "\u1f9d\u1f2d\u0399", "\u1f9e\u1f2e\u0399", "\u1f9f\u1f2f\u0399",
   "\u1fa0\u1f68\u0399", "\u1fa1\u1f69\u0399", "\u1fa2\u1f6a\u0399", "\u1fa3\u1f6b\u0399",
   "\u1fa4\u1f6c\u0399", "\u1fa5\u1f6d\u0399", "\u1fa6\u1f6e\u0399", "\u1fa7\u1f6f\u0399",
   "\u1fa8\u1f68\u0399", "\u1fa9\u1f69\u0399", "\u1faa\u1f6a\u0399", "\u1fab\u1f6b\u0399",
   "\u1fac\u1f6c\u0399", "\u1fad\u1f6d\u0399", "\u1fae\u1f6e\u0399", "\u1faf\u1f6f\u0399",
   "\u1fb2\u1fba\u0399", "\u1fb3\u0391\u0399", "\u1fb4\u0386\u0399", "\u1fb6\u0391\u0342",
   "\u1fb7\u0391\u0342\u0399", "\u1fbc\u0391\u0399", "\u1fc2\u1fca\u0399", "\u1fc3\u0397\u0399",
   "\u1fc4\u0389\u0399", "\u1fc6\u0397\u0342", "\u1fc7\u0397\u0342\u0399", "\u1fcc\u0397\u0399",
   "\u1fd2\u0399\u0308\u0300", "\u1fd3\u0399\u0308\u0301", "\u1fd6\u0399\u0342",
   "\u1fd7\u0399\u0308\u0342", "\u1fe2\u03a5\u0308\u0300", "\u1fe3\u03a5\u0308\u0301",
   "\u1fe4\u03a1\u0313", "\u1fe6\u03a5\u0342", "\u1fe7\u03a5\u0308\u0342", "\u1ff2\u1ffa\u0399",
   "\u1ff3\u03a9\u0399", "\u1ff4\u038f\u0399", "\u1ff6\u03a9\u0342", "\u1ff7\u03a9\u0342\u0399",
   "\u1ffc\u03a9\u0399", "\ufb00\u0046\u0046", "\ufb01\u0046\u0049", "\ufb02\u0046\u004c",
   "\ufb03\u0046\u0046\u0049", "\ufb04\u0046\u0046\u004c", "\ufb05\u0053\u0054",
   "\ufb06\u0053\u0054", "\ufb13\u0544\u0546", "\ufb14\u0544\u0535", "\ufb15\u0544\u053b",
   "\ufb16\u054e\u0546", "\ufb17\u0544\u053d"]

/-- Groups of characters that differ by case only and are more, or other, than a pair
of the maps above. -/
def groups : List String :=
  ["\u004b\u006b\u212a", "\u0053\u0073\u017f", "\u00b5\u039c\u03bc", "\u00c5\u00e5\u212b",
   "\u00df\u1e9e", "\u01c4\u01c5\u01c6", "\u01c7\u01c8\u01c9", "\u01ca\u01cb\u01cc",
   "\u01f1\u01f2\u01f3", "\u0345\u0399\u03b9\u1fbe", "\u0390\u1fd3", "\u0392\u03b2\u03d0",
   "\u0395\u03b5\u03f5", "\u0398\u03b8\u03d1\u03f4", "\u039a\u03ba\u03f0", "\u03a0\u03c0\u03d6",
   "\u03a1\u03c1\u03f1", "\u03a3\u03c2\u03c3", "\u03a6\u03c6\u03d5", "\u03a9\u03c9\u2126",
   "\u03b0\u1fe3", "\u0412\u0432\u1c80", "\u0414\u0434\u1c81", "\u041e\u043e\u1c82",
   "\u0421\u0441\u1c83", "\u0422\u0442\u1c84\u1c85", "\u042a\u044a\u1c86", "\u0462\u0463\u1c87",
   "\u1c88\ua64a\ua64b", "\u1e60\u1e61\u1e9b", "\u1f80\u1f88", "\u1f81\u1f89", "\u1f82\u1f8a",
   "\u1f83\u1f8b", "\u1f84\u1f8c", "\u1f85\u1f8d", "\u1f86\u1f8e", "\u1f87\u1f8f", "\u1f90\u1f98",
   "\u1f91\u1f99", "\u1f92\u1f9a", "\u1f93\u1f9b", "\u1f94\u1f9c", "\u1f95\u1f9d", "\u1f96\u1f9e",
   "\u1f97\u1f9f", "\u1fa0\u1fa8", "\u1fa1\u1fa9", "\u1fa2\u1faa", "\u1fa3\u1fab", "\u1fa4\u1fac",
   "\u1fa5\u1fad", "\u1fa6\u1fae", "\u1fa7\u1faf", "\u1fb3\u1fbc", "\u1fc3\u1fcc", "\u1ff3\u1ffc",
   "\ufb05\ufb06"]

end StoryMend.Text.CaseMap
