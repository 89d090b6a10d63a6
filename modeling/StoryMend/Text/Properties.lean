import StoryMend.Text.CharSet

/-!
Character properties as sets, each in the packed form that `CharSet.ofPacked` reads.
-/

namespace StoryMend.Text.CharSet

/-- Characters that extend the character before them. -/
def graphemeExtend : CharSet := .ofPacked
  ["cSw3z87l8s111121211m2Cw1PJ1j37262214g11ZW~2C^1991S4191315q13~19p1S1c1=1111484137B2Y1^111124819",
   "1B2V122>1142422331Z231C2>11451241N2Q611^1112148173B2Z1~1111D191m1131=1113531472C2Y1^1122113314",
   "72C2X2>1211248191B2Y1m2141231181x2127D8f3129C7n22W11111=1G15125C1h191k34161222T243J4F12261H1.P",
   "3yY4X3Y2Z2c2217812C91s1311@32f11*33429163~6221^11171111286B21w1t12DN4w1B43k19D2c1426<11123115<",
   "1822<431F17416132k6c2rJ1g6d1,.23s41c3c1pK6n32+tY41Bc12w22w813141T251=42VLF1k18TC11r13w11242221",
   "h11g262222D181v11z1113225211p1281t712141w>M1dRJJJtC2;L1f71@45k+131254m1341j52;K4d25;92s26k2Cx1",
   "4~31*1Hn1122B3x142271;13h1518,11D2+19118421.23246121;4138P2>121111D191G735g21261121134311G2@28",
   "2311R1x212611211212q71246212W2@282112p311128j31112415g8912@71B441w442241c1Bm1624819623t1F12k61",
   "1311n671611y2Q271212^3631121711m223111~B2C2+1553R1jl516HmkCD33ct25~17<c11.14x21C2qjM2dz4t12R,J",
   "5368827Z4+43~;1=14y181G1Q51Hwp171K271215h31c57=C1;14:H4,72z71217251^G7s37@*jSc3c4w7"]

/-- Letters and numbers of all kinds. -/
def alphanumeric : CharSet := .ofPacked
  ["w1B7V6Vv11721132131R1b1pG4DG57111*21YL1224116113111N1z21q48k51k1216n1l1G111212118W44YC5<11K4k3",
   "18484J21Jw1Fj3Gq192415S2MMT7C5S17718p1BD376r21J134H2B1M18222Q171134382222118142152D26214316422",
   "Q171212124542224174117JC319131Q17121539131231H42B944318222Q1712153822229242152B17B216331432111",
   "232333D4533133161GFFF131R1J381313821312242B871418131R1B153813138253142B13DF131n1281313115J2M16",
   "131L3S1911278611186B22F^157612Bl1211151S111M132511612B24c11bND81h14M4J1h1g2=1112H6t22k111512q1",
   "1sB142711142n1142d1142711142H1>1142g2GN3JJ*2263rM2K1V5q23C7NCPDNDF1312D+12MG1413B6BQB6>27q15k2",
   "Bb1D49Fm125Cr14V6Cj1X4.12NCB6BF1R2C3x1+11H183Bk1p12^11CG=19B3x12C5q123n141612315c6Mf1C*8262k12",
   "6281111111b2@11711331734264F5317z32265C6Fj31412B1135611111141C2455411^1*Q:1Vp2*MZrg1j76432912k",
   "111512<171JR97171717171717171c1v11@G3T975254*2631^2145q11,234Bc1w1Jc1BZ81Hc1Bl1HcBct6c2s+Pg2t1",
   "2s83XNv1583x3l192l32y2NP1d186B+1Dh211BBS6311t15g1FY3z11DHC6b1=19G2B6R3j21111S32J24C6262697171q",
   "11G6~35B6h;BDR4x1hm8tC2p3k17D55D1F151112121r3d1qCLc22*1m1D+351l4MB7V6VC>236262623g1D1V1M121H2G",
   "f1~3Ds1D>1K2+7Y3x1JW4h19Z5q15Z2h14815p1,42B6h14h14m18+1DC1H17121C1H17123+1D=99QB8S61p119j26211",
   "r112312R2b2k189w1M125d14V6Vk1<14N2y11258131YB9Rb1c1c181X65J*1BQ2W5VR7w2n2=1z1Fz17t18B6k1315R^6",
   "b1p11232J6y133m18QC4WLt1XNR9k2DZ15B>191FT7B6z13B448g1319c2149F114NCL1f12164,1711141H1B7>17B641",
   "8222Q171215382222316157XB11211k11B112114123111r1f213145B53Zf222118Bk5*127T6f1.11131CBk1*1217B6",
   "NXW2G5D47>5>1l3z2D82128121Z122224FBk282t1261112Wz12BKm251Ln2l38<2d1HB691s11711HY5Z2Q1Gn27121r1",
   "31121311228B66121j11214117B6r14B*7R9K1n133HB*21HPq1^Xk3v3Kh6ry2d3Hwd1K6T~:35lL>@6v11Bk*1>K7b1B",
   "6v21B6ZLw1J4DB171P5MwFs13Bk6=29T2Tr1q24>17Kc2211D79*k7n1c1d3z3;v8417121g9H1Y321G48rDhm2q35F397",
   "B41xf4Bkt1NDNr3Tl4@21l2122122241D11171d21428171X141511371+B2T1T1b1T1b1T1b1T1b1T182y1c<1b66@671",
   "K2712155,1d11w3s1B72B41dBZLr14B*GX4B*6Z2Cj6b1Q82c7714121H1j629w1h231314B=S~11314r2s11Hf641W121",
   "1211B141111614111111312112111111111121124171414111B1K53151KhLFg1V6V6Vkz2Bkc1c=n1c1,m42t+52xn7H",
   "tMfs2,Jfv1q^45pn8"]

/-- Characters that words are made of: letters, marks, digits, connecting punctuation and
joiners. -/
def word : CharSet := .ofPacked
  ["w1B7V411Vv11B1415R1b1pG4DG57111K@31224116113111N1z21q41s51k1216n18s1111212118W44YC5p24k3182B1M",
   "21J~12j3G*141212t1LX4C5S177q21d42B1M18222Q1711342922248142152DB1112316422Q17121212211542233174",
   "117JC319131Q1712152B131321H42B971318222Q1712152922237342152B11J216331432111232333D4533142161GB",
   "JF131R1J291314721312242BJ418131R1B152913147253142B13DF131z1131554752BB6131L3S191127314611186B2",
   "2F^15H1Bl1211151S111R2511171B24c11R26BC111114B1h14N1L1h191>1p26t22k111512q11sB142711142n1142d1",
   "142711142H1>1142g223c1JJ*2263rM2K1V5q23C7Q9QCNDF1312D+231422Bd131C6>27q15k2Bb1D4DBm125Cr14V6Bk",
   "1X4.11Y2C6BF18t12DNs23BK9D+3D<18B3x12C5q123J31l15*J262k126281111111b2@11711331734264F5317H2x12",
   "M1X1F1JFz1d1K1412B1135611111141C245541Kn1sT+1*<1j769Dk111512<171HS97171717171717171c1v11@G3TH1",
   "5254*222231^2145q11,2Kc1w1JcJct6c2s+Pg2t12s83XNz11B1z3j192l32y2N=141M+1Dk2BB6S311x12h1DY3d2GC6",
   "b1=19G2B6R3n2S32J25B6262697171q11G6~3122B6h;BDR4x1hm8tC2p3k17D55D1F151112121r3d1qCLc22*1m1D4JJ",
   "J32S3c151l4MB7V411VC>236262623g1D1V1M121H2Gf1~3j2@1m41f4Y3x1H1bc1FZ5q15Z2h14815p1,42B6h14h14m1",
   "8+1DC1H17121C1H17123+1D=99QB8S61p119j26211r112312RBR9bd2M12BQBV6Vk1<162c241258131Y2341c1Y3Yg18",
   "1ZT*1BQBMFLt3n2=1z1Fz1Fm18B6k1351R^7p11232J6y1g1B18d1bQp1PWR9l2bJ9:171FT7B6@11B448h1219j2441F1",
   "1g1L1j164,1711141H1B7~15B6418222Q1712151B22232161572735CB11211k11B11211418F2Yq25B44Zk2118Bk5*1",
   "29R6f1d231CBk1>17B6NXW2H4B67>5~1j3p2P82128121Z1229DBk282t12812W.1818p231Ln2l38<2d1HB691s119HBS",
   "Z2Q1Gn27121r13112198B66121j112167B6r14B*7R9K1n135FC@21v2^Xk3v3Kh6ry2d3Hwd1JQB~:35lL>@6^1k*1>K7",
   "b1B6v21B6Z25C=194DB9P5MwFs13Bk6c2c1T2Tr1q24>17Kc2212C79*k7n1c1d3z3;v8417121g9H1Y321G48rDhm2q35",
   "F397B32xf4BkJt12R,J5368827Z4+43~F@21l2122122241D11171d21428171X141511371+B2T1T1b1T1b1T1b1T1b1T",
   "182y1cJ=14y181G1Q51Hwf1b66@671K2712155,1d11w3s13G2B41dBbK^1*Gp1*6q1j6b1Q82c7714121H1j6C7n1r24B",
   "kj141W1211211B141111614111111312112111111111121124171414111B1K53151K+MV6V6Vkz2Bkc1c=n1c1,m42t+",
   "52xn7HtMfs2,Jfv1q^45pn8khzPw7"]

/-- Decimal digits. -/
def digit : CharSet := .ofPacked
  ["w1Bkx1Bk4Bk6B:DB*3B*3B*3B*3B*3B*3B*3B*3B*3Bc3B*3Bk2B*8Bk2Bk^1Bk1Br9Bc4Bk5B6B*5B*2Bk4B6Bktf1BkP",
   "Bk1Bk6BQB*2B*DB*<NBkr1Bkh2B6B:SBc4B:1Bw4B*8B*BB*3B*CBk3B6Nr2BkFBk3B*NB*2B*7Bk2B*1BkCB*tJBkn2B*",
   "2Bk4B*JB*~RB+*2y1cp2BkFB*HB=7B@VB*+4B"]

/-- Characters that have or show a case. -/
def cased : CharSet := .ofPacked
  ["d2V6Vv11B1415R1b1g6144w62g172Z5c31p142224116113111N1z21q48k51k19n1=<2k111512q114cP*226fh2C5q12",
   "3c2c6c2*8262k126281111111b2@11711331734264F5317+31F1JFj31412B1135611111141641245541Kc132xT+1*<",
   "1j76432Dk11151ymZt1LZh4k3341s2N613@Tq11G6w2c^M7D5nc1V6Vjj1w2c3h14h1+3C1H17121C1H1712gG1231p119",
   "jk1z1Fz1;2QBQ^<2c2cqPc2c1T2TrnT@21l2122122241D11171d21428171X141511371+B2T1T1b1T1b1T1b1T1b1T18",
   "+>1B1N66j8,1yh2h2r.1V6V6V"]

/-- Characters that do not bear on whether a word has ended. -/
def caseIgnorable : CharSet := .ofPacked
  ["l1161C1g1111l2141114122=Hc642419211~77v6151x1s111121211r11C6BC11g11BPJ1j381B14d1111ZW~2C^1C412",
   "1SSq13r117259n1^1=1111484137B2F1H1^114481N2V122>1142422331Z231C2>11451241N2Q611^1121148172C2Z1",
   ";11D1y1131=1113531472C2Y1^11216152N2X2>124481N2Y1m217311^2127C9f31299117n22W11111=1G15125C1h19",
   "1k34161222T243J4F12261H1,21cM3yY3Y2Z2Z2c2217812C3151s15z11d22f11*33429163~6221^11171111286B21l",
   "118t12DN4w11151151m19D2c142213<11123113^1822c26y231F17416132y1.1F1f1j3;F113C3F3F3F2D582B12125x",
   "151B11F1JFz1d1q:22x33;31H1c3c1v11@G1h143551;26;23*<W1fl16t81f341B11X4w22Gf1t21R3k3432813141T25",
   "1=42VLF1k18TCt13w112422K1P2f262222D181g11C1z1113225211W1G25211h3593>312141w>M1z4K;KJ31DJf1121n",
   "517161C1g1111v11s12g21P3dJ1f71@45jc161p119kL31254m1341j52;K4k11V511~92S1+16k2Cx14~31*1Hn1122B3",
   "x14222141B1y13h1518,11D2+19B421.2321126121;4138P2>1231j1735k26F11111G2@282311R1+26114212t74621",
   "2W2@282112p31112611j31112415g8912c821141w442241c1Bm1624819623t1F12k611311n671611y2Q271212^3631",
   "121711m223111d21>82C2+155111R1@k5K6HmkCD33ct25~1794:H3m12fH1.1Kc2212F2:.H41712,h3214:y4t12RcK3",
   "9J27Z4+43~;1=14y181G1Q51Hwp171K2712155,1d11c5GwC1;14~H5,72z7121725191wG7s38v@25dcgS1Zc3c4w7"]

/-- Letters. -/
def letter : CharSet := .ofPacked
  ["d2V6Vv11B1415R1b1pG4DG57111d451224116113111N1z21q48k51k1216n1l2W44s1q1g121g311H272B321J11ZY>2C",
   "1Sd192415Q419131RT7C5S17Jp1^1*131L17BHJ48222Q17113431J1F213G2B186422Q17121212b411M3J9131Q17121",
   "531L1H2R1C8222Q17121531Z213H1K116331432111232333DQ1+18131R1J31V31222Z148131R1B1531Z312H2K9131n",
   "121J15383S65L3S191127^1w112D7^1211151S111B12912511P4c11.181h1W5z3q1N1J6443132734FD1Kk111512q11",
   "sB142711142n1142d1142711142H1>1142g2j1JJ*2263rM2K1V5q2687LFMGLGF13H+1g1141g2>2752f1115k2Bbx1Z2",
   "5Cr14V*1R9@1y21;2v1K8*1ZF2Br1Vh1n13Bh12C5q123n141612315c6c2*8262k126281111111b2@11711331734264",
   "F5317+31F1JFj31412B1135611111141C245541+12~z2j76432Dk111512<171JR9717171717171717w21@G2p15524*",
   "2631^2145q11,2Kc1w1JcJct6c2s+Pg2t12s83JB2Nv1Jb2k2x192l32y2NK13141RY+1Gy1,163112CXBRTY7v1X1J51B",
   "B51n1R318NR313y11132252111S32C73D6262697171q11G6z3Yh;BDR4x1hm8tC2p3k17D5511B1F151112121r3d1qCL",
   "c22*1m1D+351l4h1V6VC>236262623g1D1V1M121H2Gf1~3jDY3x1v1c1FN186k1BZ2h148w1,4Lh14h14m18+1DC1H171",
   "21C1H17123+1D=99QB8S61p119j26211r112312RBR9bd2M12BQBV6Vk1<162c21H4131Yp1Y3Yg181XW*1BQBMFLt3n2=",
   "1z1Fz1Fh1k1X9R^7p162J6<1YB18Qp1Lt1PWRD@1>1221Fs1c1TVh1Y1218g131Dw1G4P111g1L1TM2.1711141H1B7v1k",
   "18222Q17121531L1D5ZB11211k111T111r1@1L4N3Zw1N211<5v1n14h1w1N1~1q1F1l2Wj17>5r1+3c2b82128121SH11",
   "1,282l1J111X1Bm171P1Ct1M1Ln2l6d1b91j1K1x1Zw37121k1P1T6121c1G1Rr1h8MH11F1f1:31v2^Xk7h6ry2d3Hwd1",
   "K6T~:35lL>@6Zf=1>K7bKv2KZLw1J4bP5MwFs1z6c2c1T2Tr1q251f2Fc2211G2D*k7n1c1d3z3;v8417121g9H1Y321G4",
   "8rDhm2q35F397Bk~5@21l2122122241D11171d21428171X141511371+B2T1T1b1T1b1T1b1T1b1T18+>1b66j8,1y4s1",
   "B7J1dBZLr1hHXh7Z21v6b1312172592c7714121H1j6~1h271+j141W1211211B1411116141111113121121111111111",
   "21124171414111B1K53151Khp4c=n1c1,m42t+52xn7HtMfs2,Jfv1q^45pn8"]

/-- Upper-case letters. -/
def uppercaseLetter : CharSet := .ofPacked
  ["d2Vj3R17d1111111111111111111111111111111111111111111111111111111121111111111111112111111111111",
   "1111111111111111111111111111111111211113211121324121332121111121121121311123171212121111111111",
   "1111121111111111111111121211311111111111111111111111111111111111111111111111111111111117212211",
   "411111111d91113181611311121K19g11233111111111111111111111115121122z1w1111111111111111111111111",
   "1111111119111111111111111111111111111111111111111111111111111111211111111111121111111111111111",
   "11111111111111111111111111111111111111111111111111111111111111111111111111111112k1n^2k11151yQ*",
   "2zh216q123cB1111111111111111111111111111111111111111111111111111111111111111111111111111111111",
   "1111111111111111111111111111111111111111111111111111111111111111111911111111111111111111111111",
   "111111111111111111111111111111111111111111111111111111111111111111111119886B88886C111111188m24",
   "D4D4D5C4k8141332321356111111424B251;11:z2w1w11132111111411218311111111111111111111111111111111",
   "111111111111111111111111111111111111111111111111111111111111111111811141spZ1111111111111111111",
   "11111111111111111111111111M111111111111111111111111111l411111111111113111111111111111111111111",
   "1111111111111111111111111111111111111B11112111111114111211131111111111111111111151511111111111",
   "1111411121111111111111111S1q>PVjk1m1m4h1:4C1H1712p=1z1;4Q^>2c1crPc1c2TlpTVVVVVV11221222418VVV2",
   "142817W214151137WVVVVVVVVVVVZTd1Td1Td1Td1Td11@n4f1"]

/-- Lower-case letters. -/
def lowercaseLetter : CharSet := .ofPacked
  ["d3V^11n1S1811111111111111111111111111111111111111111111111111111112111111111111111211111111111",
   "1111111111111111111111111111111111121111321112132412133212111112112112131112223612121111111111",
   "1111112111111111111111112211131111111111111111111111111111111111111111111111111111111111721221",
   "1411111111j22Vd61113133L1Wg11233111111111111111111111115112122z1w11111111111111111111111111111",
   "1111119111111111111111111111111111111111111111111111111111112111111111111211111111111111111111",
   "1111111111111111111111111111111111111111111111111111111111111111111111111111w1n1l^2q123<R6fh29",
   "11@3r1.1F1f1k311111111111111111111111111111111111111111111111111111111111111111111111111111111",
   "1111111111111111111111111111111111111111111111111111111111111111111191111111111111111111111111",
   "111111111111111111111111111111111111111111111111111111111111111111111111986B88886B8888G2888888",
   "512613312842288B312y813231W14141228441@11q@2w1113211111141121651111111111111111111111111111111",
   "11111111111111111111111111111111111111111111111111111111111111111112711141Dk11151zmZ1111111111",
   "11111111111111111111111111111111111M111111111111111111111111111l411111111111131111111111111111",
   "1111111111111111111111111111111111111111111111181111211111111141112113111111111111111111115151",
   "1111111111111141112111111111111111V131@Tq1597w2c^M7D5nd1Vsk1m1m4h1~4C1H1712g<1z1;3Q^>2c1crPc1~",
   "1TkpTVV71LVVV411171CVVVVVVVVVVVVVVVVVXXT16VT16VT16VT16VT1611+>1B1N66=v2f1"]

/-- Title-case letters. -/
def titlecaseLetter : CharSet := .ofPacked
  ["jG12121k11@r788888D1H1v11"]

/-- Modifier letters. -/
def modifierLetter : CharSet := .ofPacked
  ["wPL4DG57111j4151,G1k71h52s8241b19131c51l51+k11.31@K1^*11q31gM1wG6t5.1F1f1j1xP1F1JF.,22x71.51@G",
   "1q1551d32;23*<W1fl16t81y31X2>39w21R1m3432@G1Q1n41r31P2l3491kcP1s12c.161p119zr11c11@B1z<31kqM4:",
   "H3m12kKFc2211G2:.H41712xdD,1n67sY1zJ1qL1"]

/-- Letters without case. -/
def otherLetter : CharSet := .ofPacked
  ["p51H1c8144w62^TW44s1c11Bg121g311S2B321J11ZY>2C1Sd1PQp1T7C5S17Jn1~1*131L17BJH48222Q17113431J1F2",
   "13G2B186422Q17121212b411M3J9131Q17121531L1H2R1C8222Q17121531Z213H1K116331432111232333DQ1+18131",
   "R1J31V31222Z148131R1B1531Z312H2K9131n121J15383S65L3S191127^1w112D6~1211151S111B129125R4c11.181",
   "h1W5z3q1N1J6443132734FD1x3nB142711142n1142d1142711142H1>1142g2j1Jx3rM2K1V5q2687LFMGLGF13H+1m11",
   "g2g11@1752f1115k2Bbx1Z25Cr14V*1R9@1w5v1K8*1ZF2Br1Vh1n13BZx34161231^d14=.2<1SR9717171717171717l",
   "K1@114*2811^2415q11,2Kc1w1JcJct6c2@wN1=g1g2m18r84JB2f21x1k2n51l313713141RY+1Gy1,163112CXBRTY7v",
   "1s1529B51n1R318NJ16313y11132252111S23C71G626269717x4g1Yh;BDR4x1hm8tC2p3g211B1F151112121r3d1qCL",
   "c22*1m1D+351l4n3B1s12b36262623g1D1V1M121H2Gf1~3jDY3x1v1c1FN186k1BZ2h148c4t2f3m18+1:2+1D=99QB8<",
   "46211r112312RBR9bd2M12BQBV6Vk1<162c21H4131Yp1Y3Yg181XW*1BQBMFLt3n2=5h1k1411w9p162J312<1YB18Qp1",
   "Lt1PWRD@1>1221Fs1c1TVh1Y1218g131Dw1G4P111g1L1TM2.1711141H1B7v1k18222Q17121531L1D5ZB11211k111T1",
   "11r1@1L4N3Zw1N211<5v1n14h1w1N1~1q1F1l2Wj17>5r1z682128121SH111,282l1J111X1Bm171P1Ct1M1Ln2l6d1b9",
   "1j1K1x1Zw37121k1P1T6121c1G1Rn112h8MH11F1f1:31v2^Xk7h6ry2d3Hwd1K6T~:35lL>@6Zf=1>K7bKv2KZLw1z1P5",
   "MzFm1@Dq251v5*k7n1c1d3z3sw8g9H1Y321G48rDhm2q35F397Bwz81@Hs1d11dBZLr1hHWj7Z21v6b1312172591d7714",
   "121H1j6~n141W1211211B141111614111111312112111111111121124171414111B1K53151Khp4c=n1c1,m42t+52xn",
   "7HtMfs2,Jfv1q^45pn8"]

/-- Combining marks. -/
def mark : CharSet := .ofPacked
  ["cSw3z87l8s111121211m2Cw1PJ1j37262214g11ZW~2C^1991S4191315q13~19p1S1d1*131L17B2Y3<1117222391B2V",
   "123<1115422331Z231C3<11181313N2Q613<1117222373B2Z1~15331491m15=1117131472C2Y3<1117131472C2H1D4",
   "=1217131491B2Y3k21461118L2;1127D8f3129C7n22W1111142x1N125C1h191h3NR443132734FD11B4.P3yY4X3Y2Z2",
   "c2c191s1311@32f11*3D4D~65>1B1Y21w1t12DN5v1Kk19D3ZF<1Gw1N<431P416123k6c2wQd1,.23s41c3c1pK6n32+t",
   "Y41Bc12w22w813141R541z22y1LVLF1k18TFr14v1Gh11g2GD182s13y1113225211n1552r7812w>M1dRJJJsZ1f71@45",
   "k+131254m1341j52;K4d25;92s26k2Cx14^33@1Hn1122B4s1C71;13h1GJ2r11D3w1G8412:2D6121;4DP4=121722239",
   "1B22735g291121141511G2y2LR1x2Nq7729W2y2Kp3Fj3Hc8H@7612241112s472731XBm1714819Ct1Jk68l6818y2Q1G",
   "^3631121711f251215~B49211w1735R1jl516HmkCLct25~17<c111=174x21C2qjM2dz4t12R,J5368827Z4+43~;1=14",
   "y181G1Q51Hwp171K271215h31c57=C1;14:H4,72z71217251^G7s37@;jSw7"]

/-- Marks that take no space. -/
def nonspacingMark : CharSet := .ofPacked
  ["cSw3z85n8s111121211m2Cw1PJ1j37262214g11ZW~2C^1991S4191315q13~19p1S1c1=1111484137B2Y1^114481N2V",
   "122>1142422331Z231C2>11451241N2Q611^1121148172C2Z1;11D1y1131=1113531472C2Y1^11216152N2X2>12448",
   "1N2Y1m217311^2127D8f3129C7n22W11111=1G15125C1h191k34161222T243J4F12261H1.P3yY3Y2Z2Z2c2217812C9",
   "1s1311@32f11*33429163~6221^11171111286B21w1G1b2DN4w11151151m19D2c142213<11123113^1822<431F1741",
   "6132k6c2wQF413D,.23s41c3c1pK4q32+tY14Bc12w22w813141T251=42VLF1k18TCt13w112422l11g262222D181v11",
   "z1113225211p1281t712141w>M1dRJJJsZ1f71@45k+131254m1341j52;K4d25;92s26k2Cx14~31*1Hn1122B3x14227",
   "1;13h1518,11D2+19B421.2321126121;4138P2>1231j1735k26F11111G2@282311R1+26114212t746212W2@282112",
   "p31112611j31112415g8912c821141w442241c1Bm1624819623t1F12k611311n671611y2Q271212^3631121711m223",
   "111~B2C2+155111R1jl516HmkCD33ct25~17<c11.14x21<jM2dz4t12RcK3K827Z4+43~;1=14y181G1Q51Hwp171K271",
   "215h31c57=C1;14:H4,72z71217251^G7s37@;jSw7"]

/-- Enclosing marks. -/
def enclosingMark : CharSet := .ofPacked
  ["mh12+x51,w1413qrd13"]

/-- Numbers of all kinds. -/
def number : CharSet := .ofPacked
  ["w1B<325123ds1Bk4Bk6B:DB*3B46r3B*3B*3B26t3Fz3B87l3Bm377Ms3Bc3B*3Bk2Nr8Bk2BvQNxW3v7B6BQBr9Bc4Cj5",
   "B6B*5B*2Bk4B6B*c11366Bk6z125*Q:1t2Q*MZnq11nS1T9G3=B4p4BZ81Hc1Bl1Hc~XB:5BcB6^4Bk1Bk6BQB*2B*DB*<",
   "NBsHs1D>1K2@BWh14Y181k45p6BtY8T7l19q25Q6c522J2t1c29+12Z3q25m38S8n17pB6w1B6B*8b,4Bp14w37k4Zc4B:",
   "1Bw4B7N~7B*BB*3B*CBk3B6Nr2DhFM;2B*NB*2Yg7Bk2B*1BkCBk3Pqd1v3dkHBkn2B*2Bk4B17tJBk8R;B3>lRBkt1NDN",
   "r3T@f1y1cp2BkFB*HB=7BrQ9c4B=S~11314r2s11HfZFg=2B"]

/-- Numbers written by letters. -/
def letterNumber : CharSet := .ofPacked
  ["t=53vz2g124,z31T9G3q@YBwyQ@1rG181k45pd8v3j:L3"]

/-- Numbers that are neither digits nor letters. -/
def otherNumber : CharSet := .ofPacked
  ["y525123@n26<C6<33j47>67K9xFB@d1Nzg1BcH1@+11366Bk6Jn11*Q:1t2Q*MZnq11+h14p4BZ81Hc1Bl1HwqY6xkQs1d",
   "24K2@BWh14+n18T7l19q25Q6c522J2t1c29+12Z3q25m38S8n17pB6cCb,4Bp14w37k4N~CNjp12tF9lWMzVPk:L7,SRnd",
   "TNDNr3Ttp59dY~11314r2s11HfZF"]

/-- Punctuation. -/
def punctuation : CharSet := .ofPacked
  ["d131614B232V311W111g115131B23131,P181yG6n12z11112121r12N212F113p24k31q1Gn73*1Hb1j82B1r41<31>31",
   "kD1D1vC1^21B2m5H11j14l21p2542v36q51hM9=41sM1r12t23l22;4313j1C>92<62c4716c52B7X3:34~15,12c28C1:",
   "TS8N1F1DZ2G2>M4Y2;d1Gv22bBzDQ.14c12~R412w31v4v11c12DgF34B2DJ1D1f31^21fcY2s83g31B1z36:C4*22m131",
   "1x12v11d3FJ2:34,32J2>71ypN2w6BQg11G114112@431614B232V311W11117^D3:N1w11,D1lR1l61b1w89k11w37f27",
   ">24xG1,91f11h45r14;57s3214,34w12v2441F113<26q31p9212y35B211m31^7Rn33XFr21f43:71m83~41:28z2315;",
   "2B=61.25p12jN2p2Fv51wg15:~22~zG2j41d2581mK3l94lB1:jM1lv75z~21,V2"]

/-- Connecting punctuation. -/
def connectorPunctuation : CharSet := .ofPacked
  [".21.,72M1,t=12S3v71"]

/-- Dashes. -/
def dashPunctuation : CharSet := .ofPacked
  ["s11:p11z11dy31jc11nc26dw3121b241X1,F1M1v31wrz12j11B1n51cz31,91"]

/-- Opening punctuation. -/
def openPunctuation : CharSet := .ofPacked
  ["m11y11b1,@3111,^11,q2131k11=11H1^M111Z1,d11111111111111w21c1111111111+D111111111111111111111c2",
   "111d11jd11111111T1L1111111rF1111111113111111121dnz11=61Y11111111111111131K11111p51y11b13121"]

/-- Closing punctuation. -/
def closePunctuation : CharSet := .ofPacked
  ["n11z11b1;@3111,^11ns21=11H1^M111Z1,d11111111111111w21c1111111111+D111111111111111111111c2111d1",
   "1jd11111111r11111111rF1111111113111111122,mz11>61Y11111111111111131K11111p51z11b12121"]

/-- Opening quotation marks. -/
def initialPunctuation : CharSet := .ofPacked
  ["q51r~712221T1mt31114121H131"]

/-- Closing quotation marks. -/
def finalPunctuation : CharSet := .ofPacked
  ["~51;^7131X1mt31114121H131"]

/-- Other punctuation. -/
def otherPunctuation : CharSet := .ofPacked
  ["d1313211112B232W1h2151G271,P181yG6n11*112121r12N212F113p24k31q1Gn73*1Hb1j82B1r41<31>31kD1D1vC1",
   "^21B2m5H11w31p2542v36q51hM9jS1:33l22;4313j1614>92<62c4716c52B7X3:34~15,12c28C1fV2888924233C111",
   "B^h3412w31v42432129121122B51B24111F23rF3>11;51fcY2s83g31B1z36:C4*22m1311x12v11d3FJ2:34,32J2>71",
   "hxN721Q1N2243314736112@4313211112B232W1h1122^D3:N1w11,D1lR1l61b1w89k11w37f27>24zT1h45r14;57s32",
   "14,34w12v2441F113<26q31p9212y35B211m31^7Rn33XFr21f43:71m83~41:28z2315;2B=61.25p12jN2p2Fv51wg15",
   ":~22~zG2j41d2581mK3l94lB1:jM1lv75z~21,V2"]

/-- Symbols. -/
def symbol : CharSet := .ofPacked
  ["h1161J3b111W111g151221142131Z1b1pG4DG57111K@31G2w31q41p83*332122t61B1M2=7172m41nC262@71,31f48h",
   "41v61n11j61d63H11326N11111j48161254j62wRBzQ1sC1hC1;4f1dCB99cf1113C3F3F3F2j21F1l13F3Mf1,121412B",
   "1135611111141C2455411^124<C4Y2.7QCx2t2QmMr1x12bBzDQ.14c12*C2p4j76jC2t1V1>2D*6VJ41F2D1P262~22z7",
   "24Bc1k191JbCZ81Hc1Bl1HcBct6c2w+P=1>KR92l32;44B4;K3d71G2;;M1m4d1sCJc22*18r14f311321^4161J3b111W",
   "111d4717F2>99>1K231F31v1s1^z12vL1jQ2dB8kg21@h2Yp^L451*pN1g~3w7B33+F6RHK.2+3:1*7Bl12:153Q27Z4;1",
   "Pf231^5=2pW1T1b1T1b1T1b1T1b1T1:1cJ=14y181G12m*11vF1rs2131;31dG2t8r14h3DH2H1H1j1Rd5<1YFr14972G6",
   "^4>Z3K3F3^66D41HD4<18B6m18Z2D42G9l1<B8G2F3C3>1114J2D4B7z41:2B1"]

/-- Currency symbols. -/
def currencySymbol : CharSet := .ofPacked
  ["h11;34nl11~31yH2yH271@71l81jL1~r21hk2f1*~d11gtP1r31^41~6232*.74,<w11ws21"]

/-- Mathematical symbols. -/
def mathSymbol : CharSet := .ofPacked
  ["q11J3;1111s1141j11b1,R1vJ3~x61F1l13F3q41l1561h255241212171b22111br8c12^21ZTm16@G191*18v31wB52b",
   "BJc8g4Q.14c12f8w1P26:,z11<T113h51J3;1111g4164ds32cqw11w,11T1b1T1b1T1b1T1b1T1r>52,t29"]

/-- Modifier symbols. -/
def modifierSymbol : CharSet := .ofPacked
  [",2111l21614131nJ4DG57111K@31G2fm11+>5113C3F3F3F2:h42gzYR92l32wZ1G2kfNK~W111f51=c;15"]

/-- Other symbols. -/
def otherSymbol : CharSet := .ofPacked
  ["k51214111xZ1p82.32t61B1M2=71gJ1@C1f4611h41v61n11lD3H11326N11111j48161254j62wRBzQ1yQ1;4f1dCB99g",
   "r121412B1126611111141C2G11211^1295241212171b22111br884N272x21ZTm16m2QCx2t2Q=5191*18v31<7r1r1c2",
   "c8cJw1P26l12p4j76jC2t1V1>2D*6VJ41F2D1P262wB24Bc1k191JbCZ81Hc1Bl1HcBct6c2w+P=1dW4B211;K3npNJsCJ",
   "c22*18s13hH13142F2>99>1K231F31v1s1^z12vL1mc18kg21@h284Kp^L451*pN1g~3w7B33+F6RHJc3+3:1*7Bl12:15",
   "3Q27Z4;1Pf231^5=2nj1cJ=14y181G12m*11:^21d41xQr14h3DH2H1H1j1Rd5<1YFr14972G6^4~75>Q3K3F3^66D41HD",
   "4<18B6m18Z2D42,1<B8G2F3C3>1114J2D4B7z41:2B1"]

/-- Separators. -/
def separator : CharSet := .ofPacked
  ["c11.31.t51.q2CY251v11c;31"]

/-- Format characters. -/
def format : CharSet := .ofPacked
  ["s51yp16Q1c61x11cD2w21q>31:.15V5x151Bv+=11>73dk41H1f~8Jcgf14vk58k+qS1Zc3"]

/-- Controls, formats, private and unassigned characters. -/
def other : CharSet := .ofPacked
  ["0c1.2d1F1pQ2647111N1sD1k12y1231=18W46KQ1c61w12~12j3G~12x12H1X211C5c17q21d518222Q17113429222481",
   "42152T2316422Q17121212211542233174117KB319131Q1712152B131321H42D771318222Q1712152922237342152L",
   "B216331432111232333D4533142161GP5F131R1J291314721312242B7Q131R1B152913147253142B13DF131z113164",
   "J2V131L3S191127314611186B23D^14Yj1211151S111R2511171B24c1m21h14l11h11H1Fj1k611512>C142711142n1",
   "142d1142711142H1>1142g22c13V6*2262;N3>27Q9S9NDF1312D,22B6B6G1C6>27q15k2Bb1D4D413p125Cr14V6C3,1",
   "2d21Y2C6B6G2t12DNs21k58:13H3,15q12C8q15*J262k126281111111b2@11H1G261M23191C5V5x1J22W1F3f1Gd1Hr",
   "44^NQCP+<12,C5s111512<172GS97171717171717171,3f1V1>2D*6Vw21*22l35q11,21*29w11szX3=19:BN<58;6N:",
   "13B6<18k28D6+3CZ3t21C4d11=19G2B2l3SXB6262697171:14,32B6h;BDR4x14cc2cm6tC2p3k17D55V151112121pNc",
   "1p16z11M14451l44,5362626233717F22D1V1M121H2Gf1~3534s13<21F31v1t1f4Y3x1HX4h19Z5q15Z1j14Gp1,42B6",
   "h14h14m18+1CD1H17121C1H17123+1D=99QB8S61p119j26211r112312R1m289w1M125d13W5Wk1<14N2y11258131Y23",
   "4B797c2c1l14D9*13Y2W5V74D7w2n2=1z1Fz17t18B6k13Y82w6b1p11322J689d1t18p1QVk1XNR9t24h19,115FT7B6@",
   "11L8l19c31NCL1v1,1711141H1C6~15B6418222Q1712151B22232161572735CB11211k11B1121141B1282Y:215Zm28",
   "Bk5*12k1f1j2CB6FM^16B6NXW2H4R>5:1h3z2D82128121Z122D9Bk282t12CWm28z2Fn27B*28<2f1GB691s11GBY3c12",
   "Q1Gn27121r13112198B66121j112167B6r14B*7T7K1n13Y@21Hy1F~Xk3v315Ch6ry2g3Fwd1JQB~:35lL>@6^1k*1>K7",
   "b1B4x21B6Z26Bk2BB171P5MwF^1k6~25T2Tr1q24>17Kc25C79*k7n1c1d3z3;v8417121g9H1Y321G48rDhm2q35F397B",
   "24c~3;73+F6RHKHt12R9+3:1*7Bl12p28w3Pk2^3NDND=29Tl4@21l2122122241D11171d21428171X141511371+B2h9",
   "2,PH51Hwf1b66@671K2712155,1d11w3s13G2B42cBbK^151wGp1*6q141c6b1Q82c7714121H1j62Jn1r24B42xSh2r2;",
   "1f641W1211211B141111614111111312112111111111121124171414111B1K53151K+12t8r14h3DH2H1H1j1Bt5<1YF",
   "r14972G6^4>Z3K3F3^66D41HD4<18B6m18Z2D42G9l1<B8G2F3C3>1114J2D4B7z41l3jc1c=n1c1,m42t+52xn7HtMfs2",
   ",Jfv1q^45pn8khzPw7ww.5"]

/-- Alphabetic characters. -/
def alphabetic : CharSet := .ofPacked
  ["d2V6Vv11B1415R1b1pG4DG57111*21YL1224116113111N1z21q48k51k1216n1l1G111212118W44YC5<117Gk3184843",
   "B321Jw1Fj3Sd192415S2MMT7C5S17718p1BD376r21J134HFM18222Q17113438222211814215D2B14316422Q1712121",
   "2454222417411K6C319131Q17121539131231H4P44318222Q171215382222924215F1J216331432111232333D45331",
   "33161m1F131R1J38131382131224X418131R1B15381313825314F3DF131n1281313115475Q6131L3S191127861118L",
   "2F^15761z1211151S111M13251161G4c11.181h14M4J1h1g2=11125Jc2B42k111512q11sB142711142n1142d114271",
   "1142H1>1142g2j1JJ*2263rM2K1V5q23C7NCPDNDF1312D+12MG141g2>27q15k2Bb1D49RZ25Cr14V*1X4.12Ny11R2C3",
   "x1+11H18z1p124Br11CG=1Q3Bh12C5q123n141612315c6Mf1C*8262k126281111111b2@11711331734264F5317+31F",
   "1JFj31412B1135611111141C245541Kn1sT+1*<1j76432Dk111512<171JR97171717171717171c1v11@G3T975254*2",
   "631^2145q11,2Kc1w1JcJct6c2s+Pg2t12s83JB2Nv1583x3l192l32y2NP1d1S+1Dh211r163113Bd15g1FY3z11DH1JJ",
   "B51=19GLR3j21111S32J24C6262697171q11G6~3Ph;BDR4x1hm8tC2p3k17D55D1F151112121r3d1qCLc22*1m1D+351",
   "l4h1V6VC>236262623g1D1V1M121H2Gf1~3j2@1q8Y3x1v1c1FZ5q15Z2h14815p1,4Lh14h14m18+1DC1H17121C1H171",
   "23+1D=99QB8S61p119j26211r112312RBR9bd2M12BQBV6Vk1<162c241258131Yp1Y3Yg181XW*1BQBMFLt3n2=1z1Fz1",
   "Fm1f1X315R^7p11232J6y133YB18Qp1Lt1PWR9k2q15B>191FTRz1K48g1319c21492B111g1L1f12164,1711141H1B7>",
   "1R418222Q171215382222316157XB11211k11B112114123111r1f21314N3Zf22211<5*127T6f1.11131~1*121l2W2G",
   "P7>5>1l3c2b82128121Z122224;282t1261112Wz12BKm251Ln2l38<2d1b91s11711x1Z2Q1Gn27121r13112131122S6",
   "121j1121411Rr1h8R9K1n133v31v2^Xk3v3Kh6ry2d3Hwd1K6T~:35lL>@6v1x*1>K7bKv2KZLw1J4bP5MwFs1z6c2c1T2",
   "Tr1q24>17Kc2211D79*k7n1c1d3z3;v8417121g9H1Y321G48rDhm2q35F397B41d~5@21l2122122241D11171d214281",
   "71X141511371+B2T1T1b1T1b1T1b1T1b1T18+>1b66@671K2712155,1d11w3s1B7J1dBZLr1hHXh7Z21v6b1Q82c77141",
   "21H1j6~1h23131+j141W1211211B141111614111111312112111111111121124171414111B1K53151K+MV6V6V*z3c=",
   "n1c1,m42t+52xn7HtMfs2,Jfv1q^45pn8"]

/-- Upper-case characters. -/
def uppercase : CharSet := .ofPacked
  ["d2Vj3R17d1111111111111111111111111111111111111111111111111111111121111111111111112111111111111",
   "1111111111111111111111111111111111211113211121324121332121111121121121311123171212121111111111",
   "1111121111111111111111121211311111111111111111111111111111111111111111111111111111111117212211",
   "411111111d91113181611311121K19g11233111111111111111111111115121122z1w1111111111111111111111111",
   "1111111119111111111111111111111111111111111111111111111111111111211111111111121111111111111111",
   "11111111111111111111111111111111111111111111111111111111111111111111111111111112k1n^2k11151yQ*",
   "2zh216q123cB1111111111111111111111111111111111111111111111111111111111111111111111111111111111",
   "1111111111111111111111111111111111111111111111111111111111111111111911111111111111111111111111",
   "111111111111111111111111111111111111111111111111111111111111111111111119886B88886C111111188m24",
   "D4D4D5C4k8141332321356111111424B251VJM1yTVw>1w1w1113211111141121831111111111111111111111111111",
   "1111111111111111111111111111111111111111111111111111111111111111111111811141spZ111111111111111",
   "111111111111111111111111111111M111111111111111111111111111l41111111111111311111111111111111111",
   "11111111111111111111111111111111111111111B1111211111111411121113111111111111111111115151111111",
   "11111111411121111111111111111S1q>PVjk1m1m4h1:4C1H1712p=1z1;4Q^>2c1crPc1c2TlpTVVVVVV11221222418",
   "VVV2142817W214151137WVVVVVVVVVVVZTd1Td1Td1Td1Td11@n4f1tc2V6V6V"]

/-- Lower-case characters. -/
def lowercase : CharSet := .ofPacked
  ["d3Vv11B141h1S181111111111111111111111111111111111111111111111111111111211111111111111121111111",
   "1111111111111111111111111111111111111112111132111213241213321211111211211213111222361212111111",
   "1111111111211111111111111111221113111111111111111111111111111111111111111111111111111111111172",
   "12211411111111j22g172Z5c31q11113124L1Wg11233111111111111111111111115112122z1w11111111111111111",
   "1111111111111111119111111111111111111111111111111111111111111111111111112111111111111211111111",
   "1111111111111111111111111111111111111111111111111111111111111111111111111111111111111111w1n1l^",
   "2q114<R6fh2911@3c6d211111111111111111111111111111111111111111111111111111111111111111111111111",
   "1111111111111111111111111111111111111111111111111111111111111111111111111191111111111111111111",
   "111111111111111111111111111111111111111111111111111111111111111111111111111111986B88886B8888G2",
   "888888512613312842288B312>31F1JFs313231W14141228441d1J41qVVk^1w1113211111141121831111111111111",
   "11111111111111111111111111111111111111111111111111111111111111111111111111111111111112711141Dk",
   "11151zmZ111111111111111111111111111111111111111111111M111111111111111111111111113j411111111111",
   "131111111111111111111111111111111111111111111111111111111111111B111121111111114111211311111111",
   "11111111111151511111111111111141112111111111111111P41113@Tq11G6w2c^M7D5nd1Vsk1m1m4h1~4C1H1712g",
   "G1231p119jm1z1;3Q^>2c1crPc1~1TkpTVV71LVVV411171CVVVVVVVVVVVVVVVVVXXT16VT16VT16VT16VT1611+>1B1N",
   "66j8,1+j2f1"]

/-- Characters of the Greek script. -/
def greek : CharSet := .ofPacked
  ["wW4132411411113111N1.1GJkn65y1545+21cBQ262k126281111111b2@11H1G261M2319l91,xf11^tPv2K1.f+1k2"]

/-- Characters of the Latin script. -/
def latin : CharSet := .ofPacked
  ["d2V6Vv11H15R1b1dGl15~w6k16x1545F1k2d2c8xC1F1JFs4261W1Kn1=*2c1f@Zk33y2NHwTq11914*:M7^c1V6Vjd261",
   "p119j^@1b66"]

/-- Characters of the Cyrillic script. -/
def cyrillic : CharSet := .ofPacked
  ["cc1j42n5w^5Cc51r21lg4c1cfZc3t:P2cw<1,1d11"]

/-- Characters of the Han script. -/
def han : CharSet := .ofPacked
  ["c+CV1>2D*6v1111T9G4hZct6c2cwNcmQtC2p3mmY2D7nch1c=n1c1,m42t+52xn7HtMfs2,Jfv1q^45pn8"]

end StoryMend.Text.CharSet
