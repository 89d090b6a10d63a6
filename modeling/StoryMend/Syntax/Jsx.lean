import StoryMend.Syntax.Packed

/-!
The automaton of untyped component modules: scripts with markup and no type
annotations.
-/

namespace StoryMend.Syntax.Jsx

/-- The tokens, then the phrases, in the order of their numbers. -/
def symbolNames : List String :=
  ["end", "identifier", "hash_bang_line", "export", "*", "default", "as", "\x7b", ",", "\x7d",
   "import", "from", "with", "var", "let", "const", "else", "if", "switch", "for", "(", ";", ")",
   "await", "in", "of", "while", "do", "try", "break", "continue", "debugger", "return", "throw",
   ":", "case", "catch", "finally", "yield", "=", "[", "]", "html_character_reference", "<", ">",
   "identifier", ".", "</", "/>", "\"", "'", "string_fragment", "string_fragment", "class",
   "extends", "async", "function", "=>", "optional_chain", "new", "using", "+=", "-=", "*=", "/=",
   "%=", "^=", "&=", "|=", ">>=", ">>>=", "<<=", "**=", "&&=", "||=", "??=", "...", "&&", "||",
   ">>", ">>>", "<<", "&", "^", "|", "+", "-", "/", "%", "**", "<=", "==", "===", "!=", "!==",
   ">=", "??", "instanceof", "!", "~", "typeof", "void", "delete", "++", "--", "string_fragment",
   "string_fragment", "escape_sequence", "comment", "`", "$\x7b", "/", "regex_pattern",
   "regex_flags", "number", "private_property_identifier", "target", "meta", "this", "super",
   "true", "false", "null", "undefined", "@", "static", "static get", "get", "set",
   "_automatic_semicolon", "string_fragment", "?", "html_comment", "jsx_text", "program",
   "export_statement", "namespace_export", "export_clause", "export_specifier",
   "_module_export_name", "declaration", "import", "import_statement", "import_clause",
   "_from_clause", "namespace_import", "named_imports", "import_specifier", "import_attribute",
   "statement", "expression_statement", "variable_declaration", "lexical_declaration",
   "variable_declarator", "statement_block", "else_clause", "if_statement", "switch_statement",
   "for_statement", "for_in_statement", "_for_header", "while_statement", "do_statement",
   "try_statement", "with_statement", "break_statement", "continue_statement",
   "debugger_statement", "return_statement", "throw_statement", "empty_statement",
   "labeled_statement", "switch_body", "switch_case", "switch_default", "catch_clause",
   "finally_clause", "parenthesized_expression", "expression", "primary_expression",
   "yield_expression", "object", "object_pattern", "assignment_pattern",
   "object_assignment_pattern", "array", "array_pattern", "jsx_element", "jsx_expression",
   "jsx_opening_element", "member_expression", "jsx_namespace_name", "jsx_closing_element",
   "jsx_self_closing_element", "jsx_attribute", "string", "class", "class_declaration",
   "class_heritage", "function_expression", "function_declaration", "generator_function",
   "generator_function_declaration", "arrow_function", "call_expression", "new_expression",
   "await_expression", "member_expression", "subscript_expression", "assignment_expression",
   "_augmented_assignment_lhs", "augmented_assignment_expression", "_initializer",
   "_destructuring_pattern", "spread_element", "ternary_expression", "binary_expression",
   "unary_expression", "update_expression", "sequence_expression", "string", "template_string",
   "template_substitution", "regex", "meta_property", "arguments", "decorator",
   "member_expression", "call_expression", "class_body", "field_definition", "formal_parameters",
   "class_static_block", "pattern", "rest_pattern", "method_definition", "pair", "pair_pattern",
   "_property_name", "computed_property_name", "program_repeat1", "export_statement_repeat1",
   "export_clause_repeat1", "named_imports_repeat1", "variable_declaration_repeat1",
   "switch_body_repeat1", "object_repeat1", "object_pattern_repeat1", "array_repeat1",
   "array_pattern_repeat1", "jsx_element_repeat1", "jsx_opening_element_repeat1",
   "_jsx_string_repeat1", "_jsx_string_repeat2", "sequence_expression_repeat1", "string_repeat1",
   "string_repeat2", "template_string_repeat1", "class_body_repeat1", "formal_parameters_repeat1"]

/-- Names under which some symbols appear in certain places. -/
def aliasNames : List String :=
  ["identifier", "property_identifier", "statement_identifier", "shorthand_property_identifier",
   "shorthand_property_identifier_pattern"]

/-- The names of the fields. -/
def fieldNames : List String :=
  ["decorator", "declaration", "name", "body", "constructor", "argument", "operator", "arguments",
   "function", "close_tag", "open_tag", "label", "left", "right", "parameter", "source", "object",
   "kind", "condition", "consequence", "value", "handler", "finalizer", "attribute", "member",
   "property", "parameters", "pattern", "optional_chain", "key", "alternative", "flags", "index",
   "alias", "initializer", "increment"]

private def jsxPart1 : List String :=
  ["k41033111111111111111111111111111111111111111311311111331111131111111111111111111111111111111111",
   "111111111111333311133331133333311111031333333300333033330333333333303333333333333333300333333333",
   "3333333333333333333330300333333333333333333303333030000000000000000000011111s3001100100011112001",
   "20013101410251600271800250610291B000011213232C0112D0F211232G020402050201001H10232J1012001K002L1M",
   "20232N101320232L10231P20231Q22031C1012101R001S001T002322101320232V102724101W102D0F20232G003D061F",
   "230022J0T202J0T230023J0X1T203J0X1T2037280X10292B00232V00001N2152D0F202Y0N2033220V101N103Z3L1M201",
   "330231L30331Q3P201210001T101T00000023321201233G10233V20233G10233V1033321V22012D1F302D1F302b3W102",
   "c12J00113023322013302d1220033321V201T101T20234V3033422V303Z4L0M203c13J0X101N3023422033422V301322",
   "013D162F303D162F30335L3f1201T2033523V4033523V40233N104K1D263F40436L3g14f120436L3L4f120336L4f1202",
   "34G2033624V504K1D264F50537L3L4g15f120437L4g15f120437L4L5f120538L4L5g16f128d4f4g4h4t2q3w3j4B0.58X",
   "Y9m4p1m1m2c3009112112310L11415161718191B1C1D1F1G1H1J1K1L1M1N1P6Q2R1S1T1V1W1X1Y1Z1b1Z2c11Z1d18f11",
   "d18g11d12h11j11k11l11m11n11p11q11r11s11t11v11w11x11y11z11+11@11*11=11<11>11z11^11~11:11;11,11.11",
   "c21d21z11f21g21h21j21k2d1l21k2.t5l21k2.q2l2Dk2Xm22k25l21k2v1l22k2.:3l21k2,=z1l21k2n20*802h151665",
   "111h2191FC1f2F1HH1h2K1CM1SP1DR1RT1VW1h1Y1k1b1Td11Wg11Kj115l11Bn11Xq11Gs11Jv11Lx118z11l1@119=11g2",
   ">114~11j2;11j1.11n1d217g21Mj23N11l21~1n2bZ111115211111111111111112111115q21Y100003s214v2d17R1111",
   "152111111111111111111111115x21j102h151665111h2191FC1f2F1HH1h2K1CM1SP1DR1RT1VW1h1Y1k1b1Td11Wg11Kj",
   "115l11Bn11Xq11Gs11Jz21Lx118z11l1@119=11g2>114~11j2.11n1d217g21Mj23N11l21~1n2bZ111115211111111111",
   "111112111115@21j1q21Y502=21V>21F800900B00P00Q00R00g100m102~21W;21Vn100p100r103.21Ld31Tg31Vs102j3",
   "1Wl31Vv102n31Kq34M111y100z100002s31Kv31X*202x31Vz31G=202@31V=31Jw300>201>31V+201~31Vz202;31V.319",
   "@202d41Vg41g2g301j41Vh300005l423Tn4f201121111111111111141111121111111111111111111111111111111212",
   "1111111q43M11s41c2v41;1t300203x41f2n2j17D11181111152111111111111111111111115@21j1z309z42g1Y@41Kj",
   "23N11=42c1G>41M~41m1;42bD.42f1Qd51=1z305@41Kj24M111g51m1=42c1Gd51=1203j51:1n2h17D111811111521111",
   "1111111111111211115@21j1202n2j17D11181111152111111111111111111111115@21j1;300301s2m2012111111111",
   "111111111111111111111111111111111111111111111111111111111111+302v2j17D11181111152111111111111111",
   "111111115x21j1001l51;1<203n51Vq51Ls51F001v51;1c200^201x51V^100:201z51Vw100y201@51V~200w202=51V>5",
   "1Wc300001~51Kz303=42c1Gq34M111;51m1~100d301.51V,100m300.100n300f200g200h200t201d61Vj200v201g61V,",
   "201j61Vr301n422k2r300r301l63M11001n6FM111811B11111002q6FM111811B11111s61f2v300001v6FM111811B1111",
   "1z302=42c1Gq34M111002x64M111z62G2z303>44M111~41m1d51=1001>44M111001@62M1001=63M11z300001j24M1112",
   "03>61p1n2h17D1118111115311111111111111111111115@21j1002~6FM111811B11111;61f2d200s301q5k201311111",
   "11111111111111111111111111111111111111111111111111111111111111002.61Fs5m201111111111112111111111",
   "1111111111111111111111111111111111111111111111111002d7FM111811B11111g71f2n200;200m200k200x201j71",
   "Vs200001q34M111r200p200q200.200r301n43M11001n4FM111811B11111001l7FM111811B11111001n7FM111811B111",
   "11z303v6FM111811B11111z41m1d51=1z302x64M111z61m1001x64M111z303@62M1;41m1d51=1z303=63M11.41m1d51=",
   "1203q71:1n2h17D1118111115211111111111111111211115@21j1001s7FM111811B11111001v7FM111811B11111003x",
   "71Ls5l201111111111112111211111111111111111111111111111111111111111111111111111.61F001z7FM111811B",
   "11111001@7FM111811B11111l200001=7FM111811B11111002>71h2n7FM111811B11111203~71y1n2h17D11181111152",
   "11111112111111111111115@21j1001;7FM111811B11111002v21h2v7FM111811B11111s300001.7FM111811B1111100",
   "2n21h2@7FM111811B11111001>7FM111811B11111r302n2j17D11181111152111111111111111111111115@21j1203d8",
   "1r1n2h17D1118111115212111111111111111111115@21j1001v2FM111811B11111001n2FM111811B11111203n2j17D1",
   "1181111152111111111111111111111115@21j1g83111002j81w1g83111001l81t1001n81:1002q812n8212.302q812n",
   "821202Y516r85111h21v81FC1f2F1HH1h2K1CM1SP1DR1Rx81VW1h1Y1k1z81T@81Wj115l11B=81K>81G~81J;81L.814~1",
   "1j2.11n1g21Mj23N11n2d17R1111152111111111111111111111115@21j1q21Y500m101~21Wr100s100002n31Kq34M11",
   "1*201z31G=201=31J<202q51Ls51Fg30000Tv81Fc95111h21C1f2F1HH1h2K1CM1SW1h1z81Tj115l11B=81K>81G~81J;8",
   "1L.814~11j2.11n1g21Mj23N11l21~1n2c17R111115211111111111111112111115@21j1g916q21Y002v2d17R1111152",
   "111111111111111111111115x21j102f1l91Fh95111h21C1f2F1HH1h2K1CM1SP1DR1Rn91VW1h1Y1k1q91Ts91Wv91Kj11",
   "5l11Bx91Xz919@91g2=91l1>81G~81J;81L>918>114~11j2.11n1g21Mj23N11n2d17R111115211111111111111111111",
   "1115@21j1g916q21Y501~91Fm101;21Vr102;91Tg31Vs102.91Wl31Vv101q34M111002s31KdB1Xz201gB19@201jB1g2+",
   "200>200^200y200w201lB1Wd300t200v200x20000QC1f2mB5111h21K1CR1RW1h1z81T@81Wv91Kj115l11B>81G~81J;81",
   "L.814~11j2.11n1g21Mj23N11n2d17R1111152111111111111111111111115@21j1g916q21Y00d191FpB5111h21C1f2F",
   "1HH1h2K1CM1SP1DR1RT1VW1h1Y1k1sB1Td11Wv91Kj115l11Bn11Xq11Gs11Jz21Lx118z11l1@119=11g2vB14.11n1g21M",
   "j23N11n2d17R1111152111111111111111111111115@21j1g916q21Yr102d31Tg31V001j41V00Xl91FyB5111h21C1f2F",
   "1HH1h2K1CM1SP1DR1RW1h1Y1k1q91Ts91W@B1Kx91Xz919@91g2=91l1>81G~81J;81L>918=B1VvB14.11n1>BSp1111111",
   "11111111111111111n297R111115Z@21j100Wl91FyB5111h21C1f2F1HH1h2K1CM1SP1DR1RW1h1Y1k1q91Ts91W@B1Kx91",
   "Xz919@91g2=91l1>81G~81J;81L>918=B1VvB14.11n1n2d17R1111152111111111111111111111115@21j1v100001;21",
   "Vy303>BSp111111111111111111111111n2F7D1118111115Z@21j100Lv81F^B5111h21C1f2K1CW1h1;B19.B1Tv91Kj11",
   "5l11BdC1Lg21Mj23N11l21~1n2c17R111115211111111111111112111115@21j1g916q21Y002gC16jCZZ111117111111",
   "11111111111111111r101.21L002q51Ls51F002lC2g1YnC4M111002qC1SsCZZ11111711111111111111111111111001v",
   "CFM111811B11111002qC1SxC4M111q100002qC1SzCZZ11111711111111111111111111111002qC1S@CFM111811B11111",
   "002qC1S=C4M111002qC1S>CZZ11111711111111111111111111111002qC1S~CFM111811B11111002qC1S;C4M111002qC",
   "1S.CZZ11111711111111111111111111111002qC1SdDFM111811B11111002qC1SgD4M111002qC1SjDZZ1111171111111",
   "1111111111111111002qC1SlDFM111811B11111001qC1S002qC1SnDZZ11111711111111111111111111111002qC1SgDF",
   "M111811B11111002qC1SqDZZ11111711111111111111111111111002qC1SsDZZ11111711111111111111111111111002",
   "qC1SvDZZ11111711111111111111111111111002qC1SxDZZ11111711111111111111111111111002qC1SzDZZ11111711",
   "111111111111111111111002qC1S@DZZ11111711111111111111111111111002qC1S=DZZ111117111111111111111111",
   "11111002qC1S>DZZ11111711111111111111111111111002qC1S~DZZ11111711111111111111111111111002qC1S;DZZ",
   "11111711111111111111111111111002qC1S.DZZ11111711111111111111111111111002qC1SdFZZ1111171111111111",
   "1111111111111002qC1SgFZZ11111711111111111111111111111002qC1SjFZZ11111711111111111111111111111002",
   "qC1SlFZZ11111711111111111111111111111002qC1SnFZZ11111711111111111111111111111002qC1SqFZZ11111711",
   "111111111111111111111002qC1SsFZZ11111711111111111111111111111002qC1SvFZZ111117111111111111111111",
   "11111002qC1SxFZZ11111711111111111111111111111002qC1SzFZZ11111711111111111111111111111002qC1S@FZZ",
   "11111711111111111111111111111002qC1SgDZZ1111171111111111111111111111100BC1f2*F5111h21R1R>F1V@81W",
   "~Fc17R111115211111111111111111111111@B1K;F1Ln21k2@21j1m100204.F1J~Fh17D1118111115211111111111111",
   "111111111n21k2@21j1003dG1Wq51Ls51Ft101.Fj17931118111115211111111111111111111111x100005jG1j1dC1Lk",
   "G5111h21.11n1nG17005l423Tn4f2011211111111111111411111211111111111111111111111111111112121111111q",
   "43M11s41c2qG1;1004dC1LkG5111h21.11n1nG17001x41f2002sGFM111811B11111vG1f2001s4FM111811B11111001xG",
   "FM111811B11111002n41h2xGFM111811B11111006j115@G31k21*G221>G1L~Gd20421111111111121111111111111111",
   "1211111111111111111111111111111111jG1j1p303@G31k21>G1L~Gd204211111111111211111111111111111211111",
   "111111111111111111111111111003j115*G5111h21dC1Lp303;G1L.G1F~Gg2013211111121112111111111111111112",
   "1111111111111111111111111111111111p301~Gj2013211111111111111111111111111111121111111111111111111",
   "111111111111111p302;Gh201321111111111111111111111111111112111111111111111111111111111111111~G1m2",
   "p302dH1F.Gh201321111112111111111111111111111121111111111111111111111111111111111p303~G1L.Gg20132",
   "111111211121111111111111111121111111111111111111111111111111111dH1F006l11BjH31k21kH221nH1LqHd204",
   "111112111111211111111111111111211111111111111111111111111111111jG1j1q303jH31k21nH1LqHd2041111121",
   "11111211111111111111111211111111111111111111111111111111003l11BkH5111h21dC1Lq303sH1LvH1FqHg20131",
   "111121211121111111111111111121111111111111111111111111111111111q301qHj20131111121111111111111111",
   "11111111121111111111111111111111111111111111q302sHh201311111211111111111111111111111112111111111",
   "111111111111111111111111qH1m2q302xH1FvHh20131111121211111111111111111111112111111111111111111111",
   "1111111111111q303qH1LvHg20131111121211121111111111111111121111111111111111111111111111111111xH1F",
   "005@H19=H5111h21j115>H1L~Hd204211211111112111111111111111111111111111111111111111111111111111003",
   "gC16jCZZ11111711111111111111111111111~Hp101111121111111111111111111111711111T111111+104@H19=H511",
   "1h21>H1L~Hd204211211111112111111111111111111111111111111111111111111111111111+104;H1L.H1F~Hj2011",
   "112112112111211111111111111111111111111111111111111111111111111111dJ19+102~Hl2011112112111111111",
   "11111111111111111111111111111111111111111111111111111dJ19+103;Hh20132112111111111111111111111111",
   "1111111111111111111111111111111111111~H321j2gJ19+103jJ1F.Hk2011112112112111111111111111111111111",
   "1111111111111111111111111111111111lJ19001~Hp101111121111111111111111111111711111T111111s303;Hl10",
   "13121111111111111111111111711111T11111~H321j2q5b6S11111711111111111111111111111+104~H1L.Hj201111",
   "2112112111211111111111111111111111111111111111111111111111111111jJ1FlJ19003jJ1F.Hn10111112111112",
   "111111111111111711111T111111s5b6S11111711111111111111111111111005qJ19sJ5111h21l11BvJ1LxJd2041111",
   "31111112111111111111111111111111111111111111111111111111111003gC16jCZZ11111711111111111111111111",
   "111xJp101111121111111111111111111111711111T111111@104qJ19sJ5111h21vJ1LxJd20411113111111211111111",
   "1111111111111111111111111111111111111111111@104zJ1L@J1FxJj20111111113121112111111111111111111111",
   "11111111111111111111111111111111=J19@102xJl20111111113111111111111111111111111111111111111111111",
   "1111111111111111111=J19@103zJh201311113111111111111111111111111111111111111111111111111111111111",
   "111xJ321j2>J19@103~J1F@Jk20111111113121111111111111111111111111111111111111111111111111111111111",
   ";J19001xJp101111121111111111111111111111711111T111111s303zJl1013121111111111111111111111711111T1",
   "1111xJ321j2q5b6S11111711111111111111111111111@104xJ1L@Jj2011111111312111211111111111111111111111",
   "111111111111111111111111111111~J1F;J19003~J1F@Jn10111112111112111111111111111711111T111111s5b6S1",
   "1111711111111111111111111111006dC1LdK412h21fK12jK1h1lK1j1nKd204111111111111121111111111111111311",
   "111111111111111111111111111111x306dC1LdK412h21fK12jK1h1lK1j1nKd204111111111111121111111111111111",
   "311111111111111111111111111111111002dC1LfK5111h21003nK1k1qK1j1jKk2012111111111111111111111111111",
   "1111113111111111111111111111111111111111001nKm20121111111111111111111111111111111111111111111111",
   "11111111111111111111111x303jK1h1lK1j1nKj20121111111111111121111111111111111311111111111111111111",
   "11111111111111001jKm20121111111111111111111111111111111111111111111111111111111111111111111110m6",
   "00N31t105111h2151s171p191y1C1v1F1.1H1,1K1@1M1r1P1~1R1<1T1:1W1q1Y1^1b1d2d11=1g11;1j11*1l11w1002n1",
   "1c2q11@1002s11t1v11<1002x11~1z11.1003@11*1=11v1>11=1005~11^1;11<1.11y1d21;1g21p1002j21y1l21x1002",
   "n21p1q21<1001s21t1003v21<1x21p1z21@1004@21.1=21;1>21:1~21t1001;21v1004.21^1d31x1g31d2j31p1001l31",
   "^1001n31t1001q31y1002s31t1v31;1002x31~1z31=1001@31t1001=31t1002>31>1~31:1001;31~1003.31v1d41q1g4",
   "1@1X00701j41d2001l41p1001n41>1L00T01q41~1001s41<1001v41^1001x41=1001z41=1001@41@1001=41:1001>41y",
   "1001~41^1001;41y1001.41:1001d51=1002g51~1j51:1001l51p1001n51y1001q51>1001s51p1001v51:1V00002x51d",
   "2z51;1002@51^1=51y1001>51>1001~51^1001;51t1001.51:1001d61t1001g61.1001j61@1001l61y1001n61s1001q6",
   "1:1001s61:1001v61<1001x61t1001z61t1001@61p1001=61;1001>61t1001~61=1001;61y1001.61<1001d71:1001g7",
   "1*1N00001j71p1001l71r1001n71~1001q71x1001s71@1G00001v71s1H00002x71~1z71:1001@71t1001=71r1001>71~",
   "1001~71:1001;71t1001.71:1d400Y00001d81t1001g81<1001j81~1001l81t1001n81w1001q81p1001s81;1001v81@1",
   ":100001x81@1001z81=1001@81t1001=81p1c400001>81^1001~81=1K00001;81;1001.81w1001d91:1001g91r1001j9",
   "1:1001l91^1001n91p1D00001q91@1001s91:1001v91t1F00001x91t1k300001z91:1001@91y1h100001=91x1001>91~",
   "1001~91r1001;91^1001.91y1>300001dB1.1=300001gB1<1001jB1t1001lB1+1001nB1^1001qB1s1~300001sB1w1001",
   "vB1v1*300001xB1:1001zB1s1001@B1@1001=B1w1001>B1t1<100S00001~B1:1001;B1=1001.B1@1001dC1y1^300W00J",
   "00001gC1=1j100*100001jC1x1<300001lC1r1f100001nC1v1001qC1:1Z00001sC1=1l100;100001vC1y1400001xC1~1",
   "001zC1:1001@C1t1l300C00001=C1r1001>C1d2001~C1<1001;C1;1M00,300j300@300d100001.C1=1=100600001dD1^",
   "1001gD1t1k100001jD1=1001lD1t1001nD1t1c100001qD1<1>100b00001sD1s1001vD1v1:300f300sz133<630p133z51",
   "0133z510023z510133^420023<630p133^430033@520033q630J33q630n133q630x133q640g233q640j233q640k223^4",
   "20033@530K33x630m133y510033x630H20zz123^430033>520033+510033^440023^440033+520033+530033z630p133",
   "x640m233x640n233=650@233^520033*530L33*520023z510033t710433h630g133h640f233l640l233h640s233l650+",
   "233n650+233h650<233n660.233x530033s620733~520C33d630b33.630l133c620033~530w133d640:133c630b33:62",
   "0033:630033,720023@520033n711023x530023~520C23d630b23c620023~530w123d640:123c630b33j720023j72003",
   "3j730c223j730c233j630g133j640f233m640l233j640s233m650+233p650+233j650<233p660.233@530033>530033d",
   "720033@540K33@540033d730033d740033v730033+620=13230<630=520t530t520z630z630y730n830h920s730s720n",
   "820h920vl130m423>520023@530K20>G33p720023+510053z51003n711023h630g123h640f223l640l223h640s223l65",
   "0+223n650+223h650<223n660.220,830,820.830.853z51013n711133n711123.630l123d720023d730023d740033<5",
   "30+133<720033>410533>720033g820023j630g123j640f223m640l223j640s223m650+223p650+223j650<223p660.2",
   "33:430S33v630q133v630r133v630s133v630t133w640q233w650*233t620033>620833^620853@52003*520053>5200",
   "3^520033h620633;620033r620933^620B53@530K3*530L33c730033h630h133l630j133s632k133;630033r630v133>",
   "540033l640h233n640h233.640p233h640t233n650z233t710033<530m133f810d133*530033^530033*540L33*54003",
   "3^540033~620033:520023:520033:530023:530030,M30fN33+720030dj130fj130gj130hj130*L30<L30kh130lh133",
   "*720033=720033y720033z720030=N30*K30j330hw130,430yp130wK30fm130gm130vm130zz130l630f720>630>633y6",
   "10120d730d320;630;630fr120<630c420g730g720,630.630,m120c730~630wN30:630h730p830mh120=m130.230,l1",
   "30.l120th120qk130pK20pK30^j120@@133y610030rg130lr130;230fk130gk120mN30pX30f620>530>520d630^630~7",
   "20;530;520z730z730ph120~320;y120z420=520^730v620r520>130r220s530v530mN20nN20p720<120h830+630>+13",
   "0:320g630g620*730*720,520y730.520:730:720c620=720@f120*f130^B30~530z830<730s930,y153z51010c330:5",
   "20q830q820>720j930j920td120vq120T20xq120sm120tm120yq120r320^320qh120hk130h630<520y830+720r930220",
   "sq120tq120rm120wq130t220t830t830@720m930m920f820~120~830t730m@120=b30;730:830c330+V20+830+820t93",
   "0t930q320v820n920;f130;f130y530v230g330+430w830p930>c130@G20>920yC20nB20*G30lG20mG30:V20hB20:L20",
   "^453t71040V20x820q920:k130r830k930@r130s830l930<h130~z120k620v720x730@830<930v930*930<c130+b30wX",
   "30z520w520jb30s453z51013t710430tX30zX20sp130=230+l130@l123*520030dN30<M30+K30^230<X30~V20zj120km",
   "130<G20=G20qB20qN30,253z51010l630s@120r@120=630@430=830;V30w230t630@f130*f130fz130gz130+q130l320",
   ".j130vX20@530gH20fH20vB20rQ20@630sh130.330+m130^G20cK30>243z51010>c130.+120,+130qz120pz143z51010",
   "l430t443n71100=643z51000m423y510023^520023*530L30hd120zY30zg120kY30pc120;Y30q62230s230,R30xm120w",
   "m130hf130V20yk130n120*530dy130p620rB20h520^@130;H20:H20wC20q520~@130z243n71110@620nm130~420l430j",
   "523s620730^530cR30qS30mT53*720K3=720L30+v130;x133*720K30js130^N30;d130<K30mj130tj130fn120fn130nn",
   "120<z130~h130n430,330xh130+X30<f130,k130.k130lQ30yL30rj130yj120~F20x520pB20^920,920.920^j130tH20",
   "qH20;820^120@B20=930j830:@120~R30fJ20dJ20+920:120yF20@930c930j*120^W30sB30<D30.D30cF30gF30jF30kF",
   "30lF30qF20d@130qr120pr173z51013t71040c320hb53z51003t710420m643n71100x720m853z51003p720020g920s62",
   "0m720c820>820y923>530030>z130yX30jd130f433s410030,G30.G30,F30.F30x730.m130@530=630<J20~j120pm120",
   "ph130c220^F30,V30x230xl130^q130+"]

private def jsxPart2 : List String :=
  ["s120sz120lN30430620zr143n71110v733p720M20qm130c*120.@120k853z51013p720M30m*120l*120d920r630dg120",
   "l720.720<820x923v630q123v630r123v630s123v630t123w640q223w650*230lp130;430l430k530+j130=L23t62002",
   "3>620823^620823h620623;620023r620923^620B23q630J23@530023c730023h630h123l630j123s632k130wL23;630",
   "023q630n123r630v123q630x123@540K23@540023>540023q640g223l640h223q640j223q640k223n640h223.640p223",
   "h640t223n650z223:620023:630030yh130jQ30^C30mD30nD30~G30>N30t330ll130kQ30cH30:h130z330dH30B30qG30",
   "rG30f130@330sG30j130k130yG30m130+G30=K30xL30cG30kj130dG30fG30mc130qC30x130+130@130=130=330>330w3",
   "30:n130vl130Q30^c120lb30sr120mb30<b20>b20^b20rc130ld120tc123f720033f720030+223f810d130ht130py130",
   "jz130jf130kz130zh130@j130<j130>j130hp130p+130+g130l+130k430~230+h130j433>420Q30p430q430g530;j130",
   "tr130f330xr130:f130*X30fh130^n130h+130J33s730@133v410030g42533k400030D30;130gN30kN20gG20q720yB20",
   "~920cB20dB20hG20g820zB20:920fB20gB33w720053w72001@G43w72001>923w720053w72001243w72001td143w72001",
   "sq143w72001@f143w72001yC43w72001*f143w72001tq143w72001vq143w72001rm153w72001;253w72001^B43w72001",
   "r543w72001wq143w72001T43w72001xq143w72001sm143w72001tm143w72001yq143w72001r343w72001^343w72001>1",
   "53w72001r253w72001ph153w72001fk153w72001gk143w72001qh143w72001nB43w72001hk143w72001~343w72001s54",
   "3w72001t543w72001;y153w72001t553w72001v553w72001rg153w72001mN53w72001,y143w72001mN43w72001nN53w7",
   "2001vm143w72001*G23t520033t520023t530^233t530^223s530=133s530=123s540d333s540d333k410033k420030l",
   "B30mB30d230f230.J30,J30fb30gb30sC30vC30nH20;930320<x120wF20>x120kq120^x120+B20pH20*620+520l820w7",
   "20f930g230;M30rK30=M30.Q30pS30lT20~B20xC30wg130+H20zH20>f120@F20^f120<B20gS53<71003>710030~H20^H",
   "30.V30y220mC20kT33>710030hP33<710030;t130cL30lc130^h130jj130>C30cJ20.H20<g120kG20>g120xF20cW30d1",
   "30g130h130l130w130y130z130*130mH20hH20wB30530pG20nG20jB30sH20rH20*B30hJ20gJ20zF30kJ20jJ20+F20:W3",
   "0yH20xH20=B20dS30kH20jH20xB20sQ30mJ20lJ20*F20dX30pJ20nJ20=F20hX30vJ20tJ20>F20mX30sJ20rJ20<F20kX3",
   "0@233g520623g520620vn130tB33g530X23g530X33p510023p510023:430S20c133f540^123f540^130,D33v520623v5",
   "20633v550k323v550k330rC30tC33@410023@410033r410023r410033l420323l420333j520023j520033k520023k520",
   "033l520023l520033m520023m520033*420023*420033l430F23l430F33q531G23q531G33l430023l430033t430N23t4",
   "30N33h530P23h530P33=430023=430033<430R23<430R33;430T23;430T33.430V23.430V33d530W23d530W33g530Y23",
   "g530Y33j530Z23j530Z33k530Z23k530Z33m530023m530033n530023n530033l440y123l440y133l440z123l440z133t",
   "440y123t440y133t440N23t440N33=440023=440033<440R23<440R33:440<123:440<133r520023r520033.440>123.",
   "440>133w520623w520633g540~123g540~133j640g123j640g133l440r223l440r233t450y123t450y133~420023~420",
   "033r530023r530033f550^123f550^133j650f223j650f233m650l223m650l233l450=223l450=233j650s223j650s23",
   "3,460;223,460;233m660+223m660+233p660+223p660+233j660<223j660<233,470g323,470g333,470h323,470h33",
   "3,470j323,470j333p670.223p670.233,480n323,480n333,480p323,480p333,480q323,480q333,490r323,490r35",
   "3z51010=233c550~223c550~233c550:223c550:233c560f323c560f333c570m323c570m330>L53z51003t710033*620",
   "053<530+13x630H53>53003v730053<530+13x630m153<530m13x630m133=530m143+620=10n843>52003^520043@530",
   "K3*530L43@52003*520030jS30tG30wG20~f130dK20>X20^X20jY30sD33r730@130fF30dF20kg130hN20~X20:X20lY20",
   "mg130>M20;X20,X20mY20ng130dR20.X20cY20nY20pg130rS20dY20fY20pY20qg130nT20gY20hY20qY33k620030x630f",
   "t143+620=10h930n730zl130d830^830z920@h153*71003=710020sY20tY20xY20;h130<t120vY20wY20<Y30*h120*h1",
   "30vg130,130xX20hl133*710020@Y20*Y20,Y30.143f820d21vl153f820d21hd133f820d253f820d21yX53f820d21=85",
   "3f820d21+l153f820d21@l143f820d21zY53f820d21zg153f820d21vm143f820d21kY53f820d21pc143f820d21;Y30*j",
   "120*j130wl130>K30@X30pL30nC30=X30pC30gl120gl133=710020>Y30;g120.Y20kb20+h130kd120^Y30,g120=Y30sc",
   "120cZ20dZ30nd120~Y30ch120fZ20gZ30md130gy120vc120wc130qd130vy120zc120+c130k320;z130jy130ky130wy13",
   "0xy123x720D33x720D53x720D1vm123q730*133q730*123g730q133g730q123q740w233q740w223q750>233q750>223q",
   "760c333q760c323q770l333q770l330wb30vb30~c120:b30:c130ms120;b20,b30;c120qb30ns120.b20cc153f810d11",
   "tb30.c130qt120gc120hc130cd130wt120jc120kc123m720633m720623f820d133f820d130rd130zy120@c120*c123x7",
   "10233x710230,c120rb30ps120dc120fc130qs130rs123h720933h720930lt130mt130rt130st130xt130yt130mv130n",
   "v130vv130wv120xb30*230pd120yb30hy120xc120yc130ry130sy130+y130@y130<y130>y130~y130:y130j630ls130k",
   "t130pt130vt130lv130tv130j730,730*830fy130qy130ty130yy130=y130^y130w930*q130xd130+d130=d130^d153^",
   "72001l353^72001;d143^72001.j133^720030wz130cn130*z130=z130^P30ck130nl130pl143~720;11;f153~720;11",
   "q333~720;153~720;11;f130nL30qj130xj130mp130x+130cg123f610433f610430mf130r753>41050>t153,72001^63",
   "0sg130tN30.N30d+120d+130+D23f610033f610030nf133k710f153d82001+g133d820053d82001,330;s120;s130;D3",
   "0ml130w+123.530033.530023,530q133,530q133k720,153@72001l+133@720053@72001k433k730y230nh130tK30,K",
   "20wd130~d130xk130*b30~k153n71100=633;521023;521020<n130xP30;r130dl130*g130kl133;531b23;531b23~71",
   "0c133~710c133;541:123;541:123f630433f630423f630033f630023g620033g620023g630033g630030~l120~p130f",
   "L30qw130yl130;l120gq130nj130+x120jq130vj130*x120zd130,d130^l153n71100x730:l120*d130cf120>d130ff1",
   "30qc130vk130wk130cr130;m130gr130;C30yz130,C30cD30dD30wr130sn130=h130<r130@n130vD30tD30xD30yD30xs",
   "130cp153<72001g333.720053.72001,k133c820053c82001.k153,72001^533=720L53+72001<f133,630030k730ql1",
   "30rl130sl130tl153:72001sl133:720053;72001tl133;720030<l130>l130jw130cm130dm130hm130jm130,x130nq1",
   "30=j130ly130pq130:x130qq130.x130rq130<230>q130~q130*C30:q130=C30:Y30tg130=f130*N30m330:+130^r133",
   "n420030xf130@g133p410530=P30,f130.f130<P53*72001wX53=72001<X33q410033z410530yf130ys130h330^g130>",
   "P30fg153>72001,230=s133w420N33n430030zf130y630+f130^t153g82001p330pQ33n440053y72001gg153z72001hg",
   "130>t133n450030dh130@K30kL30gh130hh130lL30mL30jh130@L30.v130cw130dw130nc130:230~x130v130my130*y1",
   "30cy130ny130;330<C30kr130xz130=k130xg130x333l720030kD30lD30L30:G30;G30rD30qD30ds130f+130sX30wD33",
   "l730030:420~g130~g130tb30R30~D30^D33+420030N33l740033k720.133p430v233z430v230r433l750033k730x233",
   "k740,230:F30;F20vz13430*530d430@k130jr130n630@z130yr130h430s630,N30fs130fl130w630g+133y420030j+1",
   "30n330:g130kZ33m430030,s133x430033y430030*t133v430030833y440030=v133y450030vG30xG30v430w430x430y",
   "430m730;K30*430=430<430>430c830,Q30^V20g@120w@120z@130m830.430c530d530f530>830l530m530n530p530y9",
   "30g9+91119p13252111111143111111123H2131T11F11J11111221L0162C1M361w114155192y31D4NM1g13211142Y711",
   "C1139615DM121251122111615Q1l11=1V81C14H6DM121251122111615N21Q14182Pr3171>11n11d41N1m12.311x11y11",
   "q11~353Cv3211P2811f11;347j113481FM781D1D7h2581D<2N58F4+2N37Wq22T+21S1@1312CR8D1M6DM1212511221116",
   "15Q1.31c41<11z31s11r1712Cn1k22147g15*21563Cn1k221131G1CJ0162C1M91x1415519r1325211111114311111112",
   "35B2131T11C211J11111221B4NN2d132724H8y1M12125112211g12JB1t12l311s31R1T1w168F31G^2H;1111111111111",
   "11P4NH41d1111111111111223812Cl12k221h1711C1139615D311111111111111H2212615Qd181C14H6D311111111111",
   "111H2212615N21^11+21~11k11:15@21G112f312p1~22n322p3184h191c2192B45DM91c21921>224z21<22@211v22w21",
   "3SM13^2522~222:221y21z21s21t21c31g41=21F1V1,3=1311521111111411111111112351272131M321114241211J11",
   "1112211v138Fr325Z6@21D2111g3M0162C1M361w114155195J16F1M361w11415519l13721112114311111115H2131T11",
   "F11J11111221C441DM91c2192781F21G2161:31B1y31H1DPNN6DM121251122111615QC4l11g132111422q3R10c101611",
   "C1M918M12125112211341551952W81C11D615DM121251122111615Q3CBr327y11w31v35*311112NG1K1M1r23;3212S13",
   "81c143^321M01611C1M361w11415519r1325211111114311111112111H2131T11F11J1111122128d1S7F5966DM121251",
   "122111615Q2p192p1B4Q21GN4NM1d11111111111112231L1W1X1Y1Z1b1c11d1FNN6Dc12212615Q43Cn1k233Cv34N1L^2",
   "1*1J8D1M6Dc12212615N2M4l11d11111111111112231t3H8FM6Dc12212615N2M81C11D615Dc12212615QK81C1M6Dc122",
   "12615N2K8D14H6Dc12212615N2GN5H6Dc12212615QH8D1M6Dc12212615Q1x338GM1g1b01611C1M918M12125112211341",
   "551971Jq132521111111431111111221H2131T11F11J11111221H7FG66Dc12212615QR711D1397h1121251122111DQN8",
   "1D4+1121251122111DN2W81C14966DM121251122111615N2R8FM6DM121251122111615N22q1159D1D7662129G5D81L^2",
   "1@31+32r3SP4NM1d11111111111112231Cm16Dc1221815QD8Fj1c1221815N22G1PSM12b11111111111122311r31h4MSM",
   "1d11111111111112237SM1k12728SM1g132722y22BSM1g13211524y2272G8FM6Dc1221815N2Q4N1L1d11111111111112",
   "231N4l11d111111111111122319SN2d132724Q4NM12b1111111111112231F8FTDc1221815N22Nk1BS1M2d132724K81D1",
   "D615Dc1221815Q1j1H81DM6Dc1221815N2FPM6Dc1221815N2G8D1TDc1221815N2F4NM1g132111424C81D1D7h11LFQM81",
   "D1D7h11212722111DQD81D1D7h115FFQ981D<11LFN2K81D<11212722111DN2B81D<115FFN2G4N1L1g13211142498F4+1",
   "1LFN2K8F4+11212722111DN2B8F4+115FFN277Wq11LFQH7Wq11212722111DQ87Wq115FFQ6T+11LFQGT+11212722111DQ",
   "7T+115FFQ28G~30111111111111111111111111111111111111111112121213111111111111111111111111111111111",
   "1111111111111111113211311111111111111111212209N81D1D7KM12125112211g1L81Dj1M12125112211d12K8Fj1M1",
   "2125112211d12Hf1SM12125112211g1G^1M12125112211g11h1F8FM6Dc1221815QM0162C11L361w11415519n13252111",
   "21143111111123H2131T11F11J11111221K0162CN361w11415519F7W66Dc1221815QF8D1TDc1221815QFN1TDc1221815",
   "N2P711C1139615Dc12212615QCNVDc1221815QL81C14H6Dc12212615N2S711D1397h112125112211161WW711D139615D",
   "M12125112211161WT711C11397h112125112211161WX711C1139615DM12125112211161WT711D1397h11212511221116",
   "15QW711C11D615DM12125112211715QP81D4+112125112211161T2S81D4H6DM12125112211161T2K81D1D7h115722111",
   "DQN81D1D7h112125222111DQB81D1D7j1LFQG81D1D7h115922FQ981D1D7=1FQQ81C14+112125112211161T2T81C14H6D",
   "M12125112211161T2Q81D4+1121251122111615N2681D1D7T81C14H6DM121251122111615QT81C1M6DM1212511221116",
   "15N2S81C1M6DM12125112211715N2H81D<115722111DN2L81D<112125222111DN2881D>1LFN2D81D<115922FN2781Dq2",
   "FN2R8D1M6DM12125112211715N2H8F4+115722111DN2L8F4+112125222111DN288F4@1LFN2D8F4+115922FN278F4l2FN",
   "2T8D14H6DM121251122111615N248F4m3F7Wq115722111DQJ7Wq112125222111DQ67Wr1LFQB7Wq115922FQ57W,1FQNNN",
   "6DM12125112211715QDT+115722111DQHT+112125222111DQ5T@1LFQ9T+115922FQ4Tl2FQQN5H6DM121251122111615Q",
   "21F74h191c21C912Cc172k22194JN91c2192945b91c21922r1428F57c151357j1112581FK22QM4q321N3D9r3gf2*2^5k",
   "6Ll6~1m6Mn6l2p6:1q6Pr6Qs6z3t60v6Mw6z2x6+2y6@2z6f2+6*2@6L*6=2=6<2<6~1>6>2=2^2^6M~6~2:6:2;6;2,6,2.",
   "6l2c7m2d7.2f7:1g7c3My1h7d3j7f3k7;1l7+3m7Ln7Pp7Qq7k1r7q1s7@3t7f4v7Rw7g3x7f2f1y4y7;1z74g1g4g1L+7L@",
   "7P*7Q=7f4<7D>7z2^7+2~7@2:7*2;7D,7z2.7=2c8<2d8+2f8@2g8Rh8n2j8g3k8n2l8>2<2^2m8*2n87p8,1q8p2r8Ms8q2",
   "t8:1v8@3w8Sx8,1y8p2z8q2+8:1@8r1*8H=8~2<8:2>8=2^8<2>2r2^2s2~2r2:2s2~8;2:8>2;2^2;8,2,8~2.8:2c9m2d9",
   ";2f9h3g9*3h9Vj9.2k9z2l9,2m9z2n9r13~5p9Lq9c3r9+2s9@2t9m2v9+2w9@2x9+3y9z4z9+4+9@4@9*4*9=4=9<4<9>4>",
   "9^4^9k1~9q1:9d3;9f3,9*2.9.2cB*2dBGfB=3gBh4hBj4jBj3kBMlB=2mB<2nBc3pB=2qB<2rB,1sBp2tBq2vB:1wBr1xBN",
   "2~4,2^2yBd3zBf3.2^2+BL@BGc3r2d3s23y4f3>2*B~2=B:2g3>2<B~2>B:2^BG~B;2:B;2;B0,Bs1.Bk4cCMdCDfCHf15gC",
   ",2hC,2M:4jCCkC0lCz1mC+1nC8pCl4qC0rCTsCGtC8vCSwCn2xCXyCm2zCm2M;4+Cq1@C.2*C.2=CX<Cc3>Cc3^Ct1~C~1:C",
   "7;C7,C7.Cd3cDf3dDd3fDf3gDChDk3jDDkDk4lD7mD8nDH1:5g1,4pDLqDGrDGsD+3tDM1~42<3vDPwDQxD7yD1zD1+D15m2",
   "@DM*DD=DG<Dk1>Dq1^D0~DT:D8;DS,DD1;5.DMcF0dFy1fF7gFHhFMjFGkFMlFk4mFh3nF,5pFk1qF8rFq1sFGtFRvFGwF.4",
   "xF0yFTzF8+FS@F7*F0=FH<F4h3l1>F0^FS~FD:FC3.5;F0,Fy1.F0cGy1dGj1fGHgG7hGj1j3.1jG5<15kG7lG7mGCnG8pG4",
   "qGYrGk3sGNtG7vGc6*2d6wGMxG@3yGr1zGC+GG3f6@GX*Gq1=GX<G7>1bk35l355g6555h65j65k65l6>G4^G7m3T~G8:Gn2",
   ";Gg3,G0.GTcH8dHn2fHg3gHx11c51m6hH7jHq13n6kHH3p6lH.1mHHn3bf1d5nH5pHDqH1rH1sH1tHWvH1wH4xHWyH4zHc2+",
   "Ht2@Hc2*Hc2=Hc2<H0>Hx1^H0~Hx1:Ht1;Hm4,Hf5.Ht1cJGdJDfJv2gJw2hJt1jJt1kJt1lJt1mJ0nJz1pJ+1qJ8rJYsJNp",
   "3q6tJRvJ0wJTxJ,1yJp2zJ8+Jq2@J:1*Jr1=JS<J0>JT^J,1~Jp2:J8;Jq2,J:1.Jr1cKSdKKfKKgKKhKKjKKkKKlKKmKKnK",
   "KpK~11g5qK0rK:4sKLtKN3r61s62g5vKLwK72h5q3b2j5xK72k5yK7zKn4>1Dq3J2l5+K7@K7*K7=K7<K7>K7G5r35s35t35",
   "v35w35x35y35z35^K5~K4:KV;KC,KH.Kt6cL0dLr1g1XfL0gLr1hL7jL@1kL.4lL7mL1nLk1pLq1qLRp3v6Nl3rLKm3p4sL+",
   "1tLGvLMwLJxLByLBzL~1+LS@LG*LG+3r2@3s2*3r2=3s21w6=Lx66q4Nr4<3b1y6>3b<L7>Lb^Lq1~L0:Ly1;L7,Ln41z6>3",
   "D<3JN21+6.L0cMy1dM7fM7gM0hM7jM7kM7lM7mMg2nMg2pMg2qMg2rMg2sMg2^1g2tM01h52c51j51k5vMH3d5wM.12m51l5",
   "xMHyMl246zMK+M5@M5*M5N56626=M5<M5>M5^M5~15~M5:M5;M5:15,M5.M5cN5^3@6dNn5fN5gN5~35hN5;15,15jN5kN5l",
   "N5mN5.15nN5pN5qN5rN5sN5tN5:35c25vN5wN5;35xN5yN5zNl20*60=60<67m129+Nn50>60^60~6^3:6P<3H<37<30;60,",
   "60.6@NF*NF=NFf1>3,31JF<NB>NJ^NV.3p5~N1:NB;NJ,N1.NVcPJdPXfPBgPBhPBjPVkPBlPBmPBnPBpPBqPBrPJsPBtPJv",
   "P1wPJ0c70d70f7xPByPBzPB+PB@PB*PB=PB<PV>PV^PV0g70h70j7~P4:P0h3;4;PG,PC.P8cQ4dQYfQk3gQn1hQp1jQNkQC",
   "lQNmQh2nQx2Nv16y2pQx1qQv1rQ4sQ4tQCvQGwQ~1xQm3yQm3zQm3+Qm3@Q1*Q1c4n3=Q^3<Qx1>Qq5^QM~Qk1:QM;Qn3,Qj",
   "1.Q.1cRMdRk1fR=3gRDhRBjRJkRGlRJ<2j1mR1nR1j3m4pRGd4s4qRWf4k7rR@1sRHtRl7vR~3wRm7xR1yR1zR1+R0@Rz1*R",
   "+1=R8<RY>RN^R0~Rz1:R+1;R8,RY.RNcSn7dS0fSz1gSp3hSGjS+3kS=3lSh3mS+1nS*3pSh4qSz4rSj4sSLtSVvS,1wSj3x",
   "S+4yS@4zS*4+S=4@S<4*S>4=S^4<Sp2>SM^SR~SP:SQ;Sk1,S8.Sq1cTn2dTq2fTr2gTg3hTs2jT:1kT;1lT@3mTr1nTf4pT",
   "SqTz3rTl4sTp3tT1vTp3wT1xTp3yT1zTp3+T1@T~3*T~3=T1<T1>T1^T1~T1:T1;T1,T1.T1cV1dV0fVz1gVGhV=3jV+1kVh",
   "4lVj4mVj3nV8pVl4qVCQp7~2q3:2r3rVCQq7>2q3^2r3sVCQr7+3q3@3r3tVCQs7c3q3d3r3vVCQt7*3q3=3r34*1G=1<1<1",
   "7>1d2:3f2l3g2:3h2l36:36r5wVK4r5Gl3R:3Sl3j2*1g4=1r3<1h1>1k2*1h4=1s3<1j1>1l2*1j4=1t3<1k1>1m2*1k4=1",
   "v3<1l1>1n2*1l4=1w3<1m1>1p2*1m4=1x3<1n1>1q2*1n4=1y3<1p1>1r2*1p4=1z3<1q1>1xVJyVJzVJ+VJ@VJ*VJ=V8<V8",
   ">VJ^V0~Vp4:Vh3;V+1,V*3.V8cWSdWs4fW0gWThWGjWMkW8lWSmWs4nWBpWp5qWBrWBsWBtW1vW1wWFxW0yWp4zWh3+W+1@W",
   "*3*W8=WS<WB>WB^WB~WB:WB;WB,WB.WBcX0dXTfX8gXGhX0jXTkX8lX0mXTnX8pX0qXTrX8sX0tXTvX8wXSxX0yXTzX8+XS@",
   "X0*XT=X8<XS>X0^XT~X8:XS;X0,XT.X8cYSdY0fYTgY8hYSjY0kYTlY8mYSnYx1pY3qY2rYv7sYK4q4Gr4Rq4Sr41w7tY3vY",
   "2wYx7xY2q43yYy7zYs5j23g42+Yz7@Y2*YF=Y3<Yt5k23h42l23j42m23k42n23l42p23m42q23n42r23p42>Y3^Yt5d2s3f",
   "22g2s3h22r1s3^126s343G2~YKRs3S263:YK1+7;Y3,Y2.Y3cZ2dZ3fZ2gZ3hZ2jZ3kZ2lZ3mZ2nZ3pZ2qZ3rZ2sZ3tZ2vZ3",
   "wZ2xZ3yZ2zZ3+Z2@Z3*Z2=Z3<Z2>Z3^Z2~Z3:Z2;Z3,Z2.Z3cb2db3fb2gb3hb2jb3kb2lb3mb2nb3pb2qb3rb2sb3tb2vb3",
   "wb2xb3yb2zb3+b2@b3*b2=b3<b2>b3^b2~b3:b2;b3,b2.b3cc12dc13fc12gc13hc12jc13kc12lc13mc12nc13pc12qc13",
   "rc12sc13tc12vc13wc12xc13yc12zc13+c12@c13*c12=c13<c12>c13^c12~c13:c12;c13,c12.c13cd12dd13fd12gd13",
   "hd12jd13kd12ld13md12nd13pd12qd13rd121@71*7r4j2s4j2t4j2v4j2w4j2x4j2r1j22=71<7sd1Mtd1t3vd1v3wd1t3x",
   "d1v3yd1t3zd1v3+d1t3@d1v3r1t3^1v3r1k2r4k2s4k2t4k2v4k2w4k2x4k22>71m51v52v5s1^7s1~7K:7K;7y4w5z4w5+4",
   ",7*d1K7t4@4bh16j16k16l16m16n16p16q16K6Pt4*4b=46<46>46^46t1686Ht4~4bs26:46t26v16f25d26;46,46.46w1",
   ".7c5696v26d56x16y16B6w26x26f56z16h25g26C6g56D6F6h56j56y26+16k56l56z26@16*16S5R6s1c8s1d82;3Tc1Lc1",
   "8c1Vc1Jc19c10f80g80h80j80k8Wc1Bc1Cc1Dc1Fc1Xc1Yc1Zc1P;3H;37;3Kl8Km8y4x5P9@1y5z4x5+4n8H9*1y54^179=",
   "1p84q82r8K9Td1=49<49>49^49t19Ld1898d1s29:49Vd1t29v19;49,49.49w1s8c59Jd1999d10t8v290v80w80x80y8d5",
   "9x19y19Wd1B9Bd1w29x29f59z19C9Cd1g59D9Dd1F9Fd1h59Xd1Yd1j59y29+19k59l59z29Zd1h1m1j2^1h19j1m1k2^1k1",
   "m1l2^1l1m1m2^1j19k19l19m1m1n2^1n1m1p2^1p1m1q2^1m19n19p19q1m1r2^1q19w1z8bbc1bd1bLf18f1Vf1Jf19f10+",
   "80@80*80=80<8Wf1Bf1Cf1Df1Ff1Xf1Yf1Zf12>8Tf12z5=d1Lm5X<d1b2m1>d1DLFt2z5^d1L+2X~d1D:d1Dn51;d1b@2^8",
   ",d1j1f3+5k3>3Pm1.d1j1b.1l3>3Hm1cf1j1c1.1<1>3df1j1d1.1ff1J=1n3@2n3gf1Bhf1BbD*4Jc1D~4Jd1D@4JLg18g1",
   "Vg1Jg19g10~80:80;80,80.8Wg1Bg1Cg1Dg1Fg1Xg1Yg1Zg1Tg1jf1l1kf11lf18mf1Ynf1Npf1Fqf1Wrf1Vsf1K,3Wn5Ww1",
   "c9tf1l1vf11wf18xf1Yyf1Nzf1l1+f11@f18*f1Y=f1N<f1l1>f11^f18~f1Y:f1N;f1l1,f11.f18cg1Ydg1Nfg1l1gg11h",
   "g18jg1Ykg1NLh18h1Vh1Jh19h10d90f90g90h90j9Wh1Bh1Ch1Dh1Fh1Xh1Yh1Zh12k9Th1lg1Gmg1Xng1Jpg1j1@2.1g3+5",
   "qg1Xrg1Jsg1Xtg1Xvg1Xwg1l1xg1Wyg18zg1Y+g1N@g1l1*g11=g18<g1Y>g1N^g10~g1y1:g11;g11,g1V.g1l1ch1Wdh18",
   "fh1Ygh1Nhh11jh1l1kh1Clh11mh1Vnh1Mph1Pqh1Qrh18sh14th1z3vh1Ywh1k3xh1Nyh10zh1y1+h11@h11*h1V=h11<h11",
   ">h1V^h11~h10:h1y1;h1W,h18.h14cj1NMl9dj1z1fj1k1Ml1gj1Chj18jj14kj1Ylj1k3mj1n1nj1p1pj1Cqj18rj14sj1n",
   "1tj1p1vj1Cwj14xj1n1yj1p1zj1C+j14@j1n1*j1p1=j1L<j1~1>j14^j14~j14:j14;j1h2,j1m9.j1z3ck1v1dk1w3fk1n",
   "9gk1p9hk1v1jk1w3kk1v1lk1w3mk1v1nk1w3pk1v1qk1w3rk1KGv14y2sk1Ktk1Cvk1Nwk1Cxk14yk1n1zk1p1+k1C@k18*k",
   "14=k1n1<k1p1p5y2p5q9>k1V^k1C~k14:k1n1;k1p1,k1C.k14cl1n1dl1p1fl1v1gl1y2hl1v1jl1y2Sv1Ry2kl1Cll14ml",
   "1n1nl1p1pl1h2ql1x2rl1Csl18tl14vl1n1wl1p1xl14yl14zl1h2+l1x2@l14*l14=l14<l14>l14^l14~l14:l14;l14,l",
   "14~3h2v2x2:3h2y2x2;3h2z2x2.l18cm1x1dm1Cfm18gm14hm1n1jm1p1km14lm14mm14nm14pm14qm14rm14sm14tm1f2vm",
   "14wm14xm14ym14zm14+m14@m1f2*m1f2=m1f2<m14>m14^m14~m14:m14;m14,m1f2.m10cn1t2dn1t2fn1t2gn1t2hn1Gjn",
   "1t2kn1Rln1m3mn1Dnn11pn1Dqn11rn1c2sn1Rtn1Pvn1Qwn10xn1Gyn1r9zn1s1+n1c2@n1c2*n1c2=n11<n11q5x3>n10r5",
   "x3^n10~n1Z:n17s5x3t5x3;n17c4s9,n"]

private def jsxPart3 : List String :=
  ["1Kv5x3w5@5.n1D=1@5cp1^3dp1;1fp1;1gp10hp1x1d1d2bd2jp11kp10lp1Zmp17np1Fpp1^3qp1;1rp1f5sp10tp1x1c1d",
   "2vp11wp10xp10yp10zp1t9+p10@p1v9*p1F=p1x1<p11>p1q5^p1Fq5d2r5d2s5d2t5d2v5d2@1*5*1*5~p1^3:p1;1;p1;1",
   ",p10.p1s1cq10dq1z1fq10gq17>1w9hq1w1jq1Rkq10lq1t1mq1s1nq10pq11qq10rq1w1sq1Rtq10vq1Zx5w1y5Rwq1w1xq",
   "1Rz5w1+5Ryq10zq1Z+q10@q1Z*q10=q1Z<q10>q1Z@1=5*1=5y50x5Z+50z5Zt1w1~1Rv1w1:1Rx1w1;1Ry1w1,1Rz1w1.1R",
   "+1w1c2R~10t1Z:10v1Z;10x1Z,10y1Z.10z1Zc20+1Z^q10~q10:q1t1;q1s1,q11.q10cr10dr1t1fr1s1gr10hr1t1jr1s",
   "1kr10lr1s1mr10nr17pr10qr10rr1s1sr10tr1s1vr1z1@5Pwr1v2@5Qxr1w2yr10zr1C+r1l2@r1F*r1k1=r1F<r1F>r1F^",
   "r10~r1C:r1k1*5P*5Q;r10,r1Cw5Fn3n4.r1Vcs1Kds1Ffs1Fgs10hs1Cjs1D.3x9ks1Pls1v2ms1Qns1w2ps1D=1Fqs1Wrs",
   "1D=5Fss1y9ts17vs1v4<5Pws1w4<5Qxs1v4>5Pys1w4>5Qzs1v4+s1P@s1w4*s1Qd1x4bx4c1x4+2,4^5P=s1v2^5Q<s1w2>",
   "s1l2~5P~5Q:5P^s1v2:5Q~s1w2;5P;5Q,5P:s1v2,5Q;s1w2.5P.5Q,s10.s1Cct1k1dt10ft1Cgt10ht1Cjt10kt1Clt1Lm",
   "t1,1nt10pt1Fqt10rt1Fst10tt1y3m5g4vt11wt11xt1Xyt1~1zt10+t1,3@t1D*t1y3=t1W<t11>t11^t11~t11:t1Dc61;",
   "t1Dd61,t1y3.t1Wcv1Ddv10fv1Dgv1Lhv1Jjv1Jkv1Dd4Jlv10mv1z9nv1,3pv1Dqv1Xrv1D=5n3sv10tv1Df4Bvv1Bwv1,3",
   "xv1Df61yv1Dg61zv1K+v1,3@v11*v11=v11<v11>v11^v11~v1J:v1J;v1B,v11.v11cw11dw1Bfw1Lgw1,1hw1s5q4j3jw1",
   "0kw10lw10mw10nw1Lpw1Fqw10rw1Csw1Dtw1Gvw1Lww1.3xw1Fyw1Fzw1G+w10@w1r1*w1V=w1K<w10>w1Cd6Wc6W^w1G~w1",
   "F:w1.3;w1L,w10.w1s1cx1Fdx1Gfx1Vgx1Khx1Fjx1Gkx1.3lx1Ff6Wmx1W+2g4nx1Wg6W7Fpx1m4qx1.3rx1FHFsx1Fs2Fw",
   "2Fx2Ftx10vx1r1wx1c4xx1~3yx17zx1H+x10@x1q1*x17=x1y3h6<5<x1j3>x1Hh6>5^x17~x1d4:x10;x10,x17.x10cy1@",
   "1dy1y3fy1Xgy10hy10jy1@1ky10ly1@1my1@1ny10py1@1qy1Xry1@1sy1Bty1@1vy1Bwy1B=2j1xy1Hj6<5yy1Hzy1H+y1H",
   "j6>5@y17*y1d4;2j1=y1H<y1H>y1H^y1H~y17:y1d4;y1d4,y1c4.y1c4cz1c4,2j1dz17fz1Hgz1Hhz1Hjz1Hkz17.2j1lz",
   "1Hmz1Hnz1Hpz1Hqz17rz17+m120~Pt108m14111D116111111C1C1159111111111161111q11111dJ1y108m141111C1161",
   "212C1C11G111111111161111f1l11=211l211111gBy108m141111C1161212C1C11G111111111161111f1l11=211l2111",
   "11hBy108m141111C1161212C1C11G111111111161111f1l11=211l211111jBy108m141111C1161212C1C11G111111111",
   "161111f1l11=211;4@711111y108m141111C1161212C1C11G111111111161111f1l11=211;4~711111t10sQ111111111",
   "11111111111111111111111111111111111t108m14111D116111111C1C1159111111111161111q11111.K1t108m14111",
   "D116111111C1C1159111111111161111q11111dL1t108m14111D116111111C1C1159111111111161111q11111gL1t108",
   "m14111D116111111C1C1159111111111161111q11111jL1s108m14111D116111111C1C1159111111111161111q11111l",
   "Ls108m14111D116111111C1C1159111111111161111q11111mLs108m14111D116111111C1C1159111111111161111q11",
   "111nLs108m14111D116111111C1C1159111111111161111q11111pLs108m14111D116111111C1C115911111111116111",
   "1q11111qLs108m14111D116111111C1C1159111111111161111q11111rLs108m14111D116111111C1C11591111111111",
   "61111q11111sLs108m14111D116111111C1C1159111111111161111q11111tLs108m14111D116111111C1C1159111111",
   "111161111q11111vLs108m14111D116111111C1C1159111111111161111q11111wLs108m14111D116111111C1C115911",
   "1111111161111q11111xLs108m14111D116111111C1C1159111111111161111q11111yLr108m14111D116111111C1C11",
   "5911111111sB1cB111111111r108m14111D116111111C1C1159111111111161111q11111Z08W111111112TD1111>2F11",
   "11:51~D111Z08m14111F16111111Zy3F11f1w11>1z2sB111Z08m14111Q3x4F11+21>111111111n21wB111Z08W1111111",
   "12c3611118f1y2z111+11lF111Z08W11111111f3Lp51z1B11111111d2<B11170l7n5:D11130wT130yT130xGgC40xGhC1",
   "40yGjC130>T160xDpF11160yDsF11160zDwF11160+DzF11160@D*F11160*D>F11160=D:F11160<D.F111Z08W11111111",
   "11TD111181t1LHg2111c1lLZ08W1111111111TD111181t1LHg2111c1mLZ08W1111111111TD111181t1LHg2111c1nLZ08",
   "W1111111111TD111181t1LHg2111c1pLZ08W1111111111TD111181t1LHg2111c1qLZ08W1111111111TD111181t1LHg21",
   "11c1rLZ08m14111D116111111C1C16L1.2Fh1d61sDZ08m14111D116111111C1C16y3Fh1~5151tDZ08W1111111111k311",
   "1191c1RY81C111=Lb08W1111111111TD111181CqC1tD111111Y08W1111111111TD111181t1LHg2111=MZ08W111111111",
   "1TD111181>3Yf7@D11111Z08W1111111111k3111191c1RY81C111q6Y08W1111111111TD111181t1L>1T111h7Y08W1111",
   "111111k3111191c1Rj11C111kMY08W1111111111k3111191c1Rj11C111r6Z08W1111111111TD111181w21D1111.1+MY0",
   "8W1111111111k3111191c1Rj11C111s6Y08W1111111111TD111181w2F1111.1@MY08W1111111111k3111191c1Rj11C11",
   "1nMZ08W1111111111TD111181w21D1111.1=MZ08W1111111111TD111181w21D1111.1<MY08W1111111111TD111181w2F",
   "1111.1>MX08W1111111111TD111181t1L>1T111X08W1111111111k3111191c1Rj11C111Y08W1111111111TD111181w2F",
   "1111.1^MX08m14111D116111111C1Ly3F11f1w11=KX08W1111111111TD111181Cj2F1111Z08W1111111111k3111191c1",
   "+81jF111111X08W1111111111TD111181w2F1111fQX08W1111111111TD111181w2F1111gQX08W1111111111TD111181w",
   "2F1111hQX08W1111111111TD111181w2F1111jQX08W1111111111TD111181w2F1111kQX08W1111111111TD111181w2F1",
   "111lQX08W1111111111TD111181w2F1111mQX08W1111111111TD111181w2F1111nQW08m14111D116111111C1Ly3F11f1",
   "w11X08h144111F183g2111191c2F11p71vF11W08m14111D116111111C1Ly3G1f1w11>4W08W1111111111TD111181w2F1",
   "111W08W1111111111TD111181w2F121sQX08W1111111111Ts2111191GH@2k4@H11W08W1111111111c36111191c1y2z11",
   "1@4X08W1111111111c361111811c1y2z111x2W08m14111DB3x4G1+21>111111111*221X08h144111Q3g2111191c2F11+",
   "21@41*F11W08W111111111d3:51;111111111t231X08W111111111d361111811y3*11v2~H11W08W1111111111c361111",
   "811c1*Q111L086n2q3DJBS1111r111Tv2W08W1111111111TD111181t1L:R111W08W1111111111k3111191c1:11dP111W",
   "08W1111111111c361111811c1y2z111W08W111111111d3Lp51;111111111x21L086n2q3DJCR1111r111Tv2W08m14111D",
   "B3x4F11+21>111111111<21L086n2q3DJDQ1111r111Tv2W08W1111111111c361111811c1fR111W08W1111111111c3611",
   "11811c1kR111W08W1111111111c361111811c1pR111W08W1111111111c361111811c1tR111J086n2f4l11111r1111S1L",
   "0617g1k1q3DVG1Z1Zl3111L0617g1k1q3DWF1Z1Zl3111L0617g1k1q3DXD1Z1Zl3111J086n2f4l11111r1113RlML06125",
   "g1k1d2p139D4BG1Z1H06125LKk1q3DJBG1m5L06125g1k1d2p139D4CF1Z1H06125LKk1q3DJCF1m5L06125g1k1d2p139D4",
   "DD1Z1H06125LKk1q3DJDD1m5B0Gf31@2Py1B1p6B0Gf31@29D:11p650gHxG1140hH1yG40wDmK1C0Gn2T1m3c21T1TD0Gn2",
   "Ty2DJ136k1y4C0Gf31@2P1~11*1<4B0Gn2T1m3c21@1<430hH130^Y1C0Gf31c2PQX1v71B0Gn2T1,2p21@1<4C0Gf31c2P9",
   "FX1x7D0Gn2Ty2DJ137j1y4D0Gn2Ty2DJ138h1y4C0Gn2T1m3c21WS,4B0Gg3:6211~411B0Gg3,2,3211~41C0Gf31@2P1x1",
   "B1=6D0Gg3@2Py1B13=11nM40gH^G130.Y1B0Gn2T1m3c21V:540dZ1140xDzK140kZ1130nZ140yD>K140zD^K140+D~K140",
   "@D:K140*D;K140=D,K140<D.K130>Z1D0Gf31@2P1~11*1g5130~Z130;Z130.Z130zHtH40fb1130jb140zH+H1B0Gf31c2",
   "P9n11wRB0Gn2T1m3c21x65B0Gn2Tn363r1j1d630pb130rb130tb130wb130yb130+b130*b130<b130^b130:b130,b130c",
   "c1130fc1130hc1130kc1130mc1130pc1130rc1130tc1130wc1130yc1130+c1130*c1130<c1130^c1130:c1130,c1130c",
   "d1130fd1130hd1130kd1130md1130pd1130rd1130td1130wd1130yd1130+d1130*d1130<d1130^d1130:d1130,d1130c",
   "f1130ff1130hf1130kf1130mf1130pf1130rf1130tf1130wf1130yf1130+f1130*f1130<f11B0Gn2Tn363r1l1.5D0Gg3",
   "c2P9FX1f1=11B0Gg3@2Q+34d511B0Gg3@29F+34d51B0Gf31c2PQX1.7C0Gs643q1G=11k5dMB0Gf31c2PQX1d8B0Gf31c2P",
   "QX1f8B0Gf31c2PQX1g8B0Gf31c2PQX1h890Gn2Tn363r1sV90t11z4k1l1y41130,H,L30.H,L30cJ,L30dJ,L30fJ,L30gJ",
   ",L30hJ,L90t11z4l1k1y41190t11z4m1j1y41150t11d5zXC0Gg5ZJ:1=11y5.L160t11q6f1m460G+4>1y1>760G+4s1Dq9",
   "60t11d5r2m430kg1130mg1130pg1130rg1150t11q6p530tg1170t11c7h13x670Gn2q2=1^2T70G+4>18q3<470t11p3g41",
   "m460Gn2q2=1v960t11c7l1w330hJrM30,HzM30.HzM30cJzM30dJzM30fJzM30gJzM70G+4Hy1j8170t11p3f3:1w360Gn2q",
   "2s1>970G+4HZNl870t11p3=1q1^250t11d5lY60t11d5.1=470t11c7k11x670Gn2q2=1:2R60G+4v5;4W60G+4s1f4<560t",
   "11d5<6f360t11>C1d350t11l8w360t11p3h4m470G+4>18p1f770t11p3d3f1t480Gs6y1Gw71rM80t1r6f121=1=560t11p",
   "3,4w360t11p3=1j450t11>C160t11p3d3w570t1r6h11=1=580G+4>18q3g5180t11p3g41t4160G+4HZpY60t11d5q1.W70",
   "t11p3h4t4180Gg5ZN<1w7180t1q3=1q1g11=160G+4y5g5R60t11,C1d360G+4s1j4^560t11d5;6f360G+4Hy1@860t11p3",
   "f3+560G+4Hy1=860t11p3f3@560G+4Hy1<860t11p3f3*570t1q3=1t21=160G+4Hy1>860t11p3f3=560G+4Hy1^860t11p",
   "3f3<550t11,C150t11p3*850t11p3=850t11p3<850t11p3>850t11p3^880111c1+9>5qM501f1+9jT50l7s6;217021c1;",
   "7w7sM40g1;7,V8011111tJrM8011111vJrM701111xJrM40+F;2140*J1qM40y5ZmB50l7^1fW130@FwQ30*FwQ30=FwQ30<",
   "FwQ30>FwQ30^FwQ30~FwQ30:FwQ30y5kC30c9sW50f9Q*V130>J=M30^J=M30~J=M30:J=M30;J=M30,J=M50g9Q;V130.J>",
   "M30cK>M30;F;Q30dK^M30:h1130fK:M30gK:M30hK:M40jK1~M30lK~M30mK~M30nK~M30pK~M30qK~M30rK~M30sK~M30tK",
   "~M30vK~M30wK~M30xK~M30sj1130yK;M30zK;M30+K;M30@K;M30*K;M30=K;M30<K;M30>K;M30^K;M30~K;M30:K;M30;K",
   ";M30*J130,K;M30:j1180J33Vl9m7.M50Jc1l9mW40y5m2kZS01111161122121211121221.h1S01111161122121211121",
   "221cj1S01111161122121211121221dj1S01111161122121211121221fj1S01111161122121211121221gj1S01111161",
   "122121211121221hj1G011111611221m9sX90111116w9sXN0111116112212121112hKP01111161122121211121rj1D01",
   "11116112s9j8L0111116112212121j9j8M01111161122121211y6=BN011111611221212111x6@BC011111611x9g8J011",
   "11161122121p9qXQ011111611221212111212rj1S01111161122121211121221pj1S01111161122121211121221qj1S0",
   "1111161122121211121221rj1S01111161122121211121221sj1S01111161122121211121221tj1S0111116112212121",
   "1121221vj1S01111161122121211121221wj1S01111161122121211121221xj140f9Q:X40g9Q:X40l7^1@Y70M3Vw7.8<",
   "N40w1w7<Y80J3353@HkQ40f9QfY30;K,N80J3353*HmQ70J335^HmQ40g9QjY30,KdP60l7^1v3z5;N40l7^1cZS01111161",
   "122121211121221ck150l7s6ZxS40y5Z+C30y5yD40y5h4tY30c9jZ50y5y1>1m4S0J3353W1113171J173357K1fg130>Jt",
   "Q30^JtQ30~JtQ30:JtQ30;JtQS0J3353W1113171J173357K1mg130,JvQS0J3353W1113171J173357K1pg130.JwQ30cKw",
   "QS0J3353W1113171J173357K1sg130;F@T30dKyQ30fKyQ30gKyQ30hKyQ40jKc1yP30lKxQS0J3353W1113171J173357K1",
   "@g130mKyQS0J3353W1113171J173357K1=g1G0J3353W11131^7fZ30nK+Q90J3353Wf8gZN0J3353W1113171J1733cHP0J",
   "3353W1113171J17335+h1D0J3353W111c8q8L0J3353W1113171J1h7q8M0J3353W1113171J17q4;BN0J3353W1113171J1",
   "73m4~BC0J3353W11g8n8J0J3353W1113171=7dZQ0J3353W1113171J173357vh130pK<Q30qK<Q30rK<QS0J3353W111317",
   "1J173357K1dh130sK>QS0J3353W1113171J173357K1gh130tK^Q30vK^Q30wK^Q30xK^Q30yK^QS0J3353W1113171J1733",
   "57K1nh130zK~Q30+K~QS0J3353W1113171J173357K1rh130@K:QS0J3353W1113171J173357K1th130*K;QS0J3353W111",
   "3171J173357K1wh1S0J3353W1113171J173357K1xh130=K.Q30<K.Q30>K.Q30^K.Q30~K.Q30:K.QS0J3353W1113171J1",
   "73357K1<h150y5y1z2w350y5ZNx350xDh1mW130@FpW50yDh1pW150zDh1qW150+Dh1rW130*FwW30=FwW30<FwW50@Dh1wW",
   "150*Dh1xW150=Dh1yW130>F*W30^F*W30~F*W50<Dh1*W130:F<W40jL4rR50f9Qy8rR50g9Qy8rR50l7^1q9rRS0J3353t2",
   "71K91C91159J4371lg1S0J3353t271K91C91159J4371mg1S0J3353t271K91C91159J4371ng1S0J3353t271K91C91159J",
   "4371pg1S0J3353t271K91C91159J4371qg1G0J3353t271K91q5hc190J3353t2v6hc1N0J3353t271K91C91159JpDP0J33",
   "53t271K91C91159J4>g1D0J3353t271K=5y8L0J3353t271K91C911<4y8M0J3353t271K91C9115d2hCN0J3353t271K91C",
   "91159<1fCC0J3353t271p6w8J0J3353t271K91C9:4fc1Q0J3353t271K91C91159J43<g1S0J3353t271K91C91159J4371",
   "xg1S0J3353t271K91C91159J4371yg1S0J3353t271K91C91159J4371zg1S0J3353t271K91C91159J4371+g1S0J3353t2",
   "71K91C91159J4371@g1S0J3353t271K91C91159J4371*g1S0J3353t271K91C91159J4371=g1S0J3353t271K91C91159J",
   "4371<g140y5=7fYS0J3353t271K91C91159J4371^g1T0J3353W1113171J173357K1+6<750y5~h111T0J3353W1113171J",
   "173357K1+6>7T0J3353W1113171J173357K1+6^750y5y1Qw5S01111161122121211121221tn160^7h11+9,RV0J3353W1",
   "113171J173357K1wG,R150;F=X11V0J3353W1113171J173357K1wG1fSV0J3353W1113171J173357K1xGgS1S011111611",
   "22121211121221<n1T0J3353t271K91CB159J4371nh11160f9:d111160g9.d111160l7:BgT11T0111116112212121112",
   "1221W>JT01111161122121211121221t4lFT01111161122121211121221t4>j1T01111161122121211121221W~JS0111",
   "1161122121211121221=KT01111161122121211121221W;JT01111161122121211121221t4qFS0J3353W1113171J1733",
   "57K1kl1T01111161122121211121221W.JT01111161122121211121221WcKS0J3353W1113171J173357K1ll1T0111116",
   "1122121211121221WdKT01111161122121211121221WfKT01111161122121211121221WgKT0111116112212121112122",
   "1WhKT01111161122121211121221WjKT01111161122121211121221WkKT01111161122121211121221WlKT0111116112",
   "2121211121221WmKT01111161122121211121221WnKT01111161122121211121221WpKT01111161122121211121221Wv",
   "n1T01111161122121211121221Wwn1T01111161122121211121221WqKT01111161122121211121221WrK60y5y1>1t416",
   "0f9Qy8hT160g9Qy8jT160l7^1q9kT1T01111161122121211121221WsKT01111161122121211121221t4~FT0111116112",
   "2121211121221t4:FT01111161122121211121221WwKT01111161122121211121221WxKT01111161122121211121221W",
   "yKS011111>1317K16121268KBC1<k1S011111>1317K16121268KBC1>k1S011111>1317K16121268KBC1^k1S011111>13",
   "17K16121268KBC1~k1S011111>1317K16121268KBC1:k1G011111>1317K1.6.d19011111>1;7.d1N011111>1317K1612",
   "1268~HP011111>1317K16121268K@l1D011111>1317z7@9L011111>1317K16121<6@9M011111>1317K161212h4lDN011",
   "111>1317K1612126,3jDC011111>131:7z9J011111>1317K161;6;d1Q011111>1317K16121268KBsl1S011111>1317K1",
   "6121268KBC1fl1S011111>1317K16121268KBC1gl1S011111>1317K16121268KBC1hl1S011111>1317K16121268KBC1j",
   "l1S011111>1317K16121268KBC1kl1S011111>1317K16121268KBC1ll1S011111>1317K16121268KBC1ml1S011111>13",
   "17K16121268KBC1nl1T01111161122121211121221W*KT01111161122121211121221t4hGT0111116112212121112122",
   "1W<KT01111161122121211121221W>KT01111161122121211121221W^KT01111161122121211121221W~KT0111116112",
   "2121211121221W:KS011111>1317K16121268KBC1pl1T01111161122121211121221W;KT01111161122121211121221W",
   ",KT01111161122121211121221W.KJ0611w1*3l11BDh1=g11111S0J3353W1113171J173357K1mm1S0111116112212121",
   "1121221qq1T0J3353W1113171J173357K1pm11S01111161122121211121221tq1S01111161122121211121221vq140kK",
   "g1nVJ0611w1*3l11BDh1gh11111J0611w1*3l11BDh1mh11111J0611w1*3l11BDh1sh11111J0611w1*3l11BDh1yh11111",
   "J0611w1*3l11BDh1=h1111160w6N^11+9S011111n381JB1C91139J4381<k1S011111n381JB1C91139J4381>k1S011111",
   "n381JB1C91139J4381^k1S011111n381JB1C91139J4381~k1S011111n381JB1C91139J4381:k1G011111n381JB1m5=g1",
   "9011111n3s6=g1N011111n381JB1C91139J>FP011111n381JB1C91139J4ql1D011111n381J@5fBL011111n381JB1C911",
   "@4fBM011111n381JB1C9113c2+DN011111n381JB1C91139=1yDC011111n381l6cBJ011111n381JB1C9>4@g1Q011111n3",
   "81JB1C91139J43pl1S011111n381JB1C91139J4381fl1S011111n381JB1C91139J4381gl1S011111n381JB1C91139J43",
   "81hl1S011111n381JB1C91139J4381jl1S011111n381JB1C91139J4381kl1S011111n381JB1C91139J4381ll1S011111",
   "n381JB1C91139J4381ml1S011111n381JB1C91139J4381nl140y5:7wc1S011111n381JB1C91139J4381ql140y5y1q6S0",
   "11111>1317K16121268KBC1hn1S011111>1317K16121268KBC1jn1S01111161122121211121221cs1T011111n381JB1C",
   "B139J4381vl11140y5y1r6S011111>1317K16121268KBC1pn1S01111161122121211121221js140y5y1s6S011111>131",
   "7K16121268KBC1rn140y5y1t6S011111>1317K16121268KBC1sn140y5y1v6S011111>1317K16121268KBC1tn1H0611k5",
   "l11BDh1~j11111R05C335g1317K16121268KBC1R011111>1317K16121268KBC1H06112q611m1dDwV1111C061x68D1x6=",
   "c111G08;61QPM11111vj11G06112q61n1dD^V1111G08;61QPM11111*4cd1G0cv1111111111111C061x68D1x6vd111G08",
   ";61QPM11111lk11G08;61QPM11111*4zd1G08;61QPM11111pk11G08;61QPM11111*4*d1B061x68Dy6<d111F06121l116",
   "Lt2Y1+1G06121l116Lt2ZHPJF06121l116Lt2Y1y1G06121l116Lt2ZHPGF06121l116Lt2Y1z1G06121l116Lt2ZHPHF061",
   "21l116Lt2Y1g5G06121l116Lt2ZHP.3F06121l116Lt2Y1h5G06121l116Lt2ZHPc4F06121l116Lt2Y1j5G06121l116Lt2",
   "ZHPd4C06121QK16Lc5D0;681Qh6d611*W11C06121QK16L,4C06121QK16L.4C06121QK16Lv8C06121QK16Lw8C06121QK1",
   "6Lx8H06112^M111111yW11D06121l11St2Y1k5F06121l11St2ZHPf4D06121l11k3Y1d1k4F06121l11k3ZHL3g4B06121Q",
   "K1Sy8F06112^M111111@WB06121q5m1d4f3q6F08;61QPvl1111111C06121l11k3Y1n5D06121l11k3ZHPj4D0;681QjD1j",
   "X1111B06121QK1j5k4B06121q5m1g3rB1C06121q5m1vn1111C06121q5m1zn111150tN1jX1806121Q;5d4906121QK1s98",
   "06121Q;5g3806121Q;5>n1806121Q;5^n1806121Q;5~n1806121Q;5:n140^w11130;w1130.w1130dx1130gx1130jx113",
   "0lx1140wN1<X40px111906121QMs9d3B06121n1f4q5sk11908q1s61111tDC06121n1f4^q1111D06121n1y4tq1111130z",
   "NjY40zNkY1C06121n1f4kr1111C06121n1f4pr111130gy1130jy1130wN130ly11B06121n1f4q4rB1C06121n1f4+r1111",
   "30sy11B06121l1l3ZHP30tN1808<71111tD806121QMs9C06121~5pr11111806121QMdx1806121QMfx130*y11806121QM",
   "dM806121QMjx1806121QMkx1806121QMlx1806121QMmx1806121QMnx1806121QMpx1806121QMqx1806121QMrx1806121",
   "QMsx1806121QMtx130fz1130hz1130kz11B06121~5>4f3q6;Z808<71111jq1806121QMs8C06121~5js11111806121QMf",
   "M806121QM:x1806121QM;x1806121QM,x1806121QM.x1806121QMcy1806121QMdy1806121QMfy1806121QMgy120=z170",
   "6121QK706121QcB706121Q<y1706121Q+M706121Q>y1706121Q^y1706121Q~y1706121Q:y1706121Q;y120,z120.z120",
   "c+1706121Q,9706121Qc9706121Qdz1706121Q@M706121Qfz1706121Qgz1706121Qhz1706121Qjz1706121Qkz120l+18",
   "0j71:6+611wb50j81zDwb80n531X31+450j81:2=950j81+Dwb80n531X31*450j81:2<950j81@Dwb80n531X31=450j81:",
   "2>950j81*Dwb80n531X31<450j81:2^970n531X3@470n531b1+450s+111170n531X3=470n531b1*470n531X3<470n531",
   "b1=470n531X3>470n531b1<47061.B1pn117061dC1pn1160n531b@460n531;5qn150n5sv11150>+111160n531b=460n5",
   "31;5zn160n531b<460n531;5+n160n531b>460n531;5@n16061.B1*96061dC1@96061.B1>n16061dC1<n140.63r120f@",
   "140.63dt140.63=850y16Lc520h@150n"]

private def jsxPart4 : List String :=
  ["6:t11120m@120n@140qC+9qc150dBp1cp1120s@15061.B15061dC130;1xz150y16L,430v@1150y16L.450y16Lv850y16",
   "Lw850y16Lx840rCjp1140rC+9zc15061s@1120*@120=@140dP1*c140>@11140,4g5~q140;@1115061>@1120f*140dP1d",
   "d140c7gGdd140.63g940c7gGfd130k*1130m*1140,4g5nr140q*11140,4g5sr120v*120w*120x*120y*120z*120+*120",
   "@*140rCpq1140rC+9<d140sCrq1140l81zt1408:N<d130dB,B40m8k3vq130=9ls120.*130c=1150JzF1d740f=11140l8",
   "1;t140y1Sy850p2g5<6dn140m8k3>q130m=1130p=1130r=1130t=1130w=1140y1j5k440kP1130y=1130+=1130*=1130<",
   "=1120^=120~=130:=1130,=1130c<1130f<1130h<1130k<1130m<1130p<1130r<1130t<1130w<1130y<1130+<1130*<1",
   "140l81ww1501jG1f740><11150p2g5<6=p140l81@w140,<11140d>11140sC=s1140l81,w130=9wv140l81cx130@Bz340",
   "sC:s1140sC,s11408fPgh130t>1130w>1140,4++1140J3d>130nGrq1308t>130qPrh130vCnt130vCpt140,4:+1140p9f",
   "D1308+>140@7@1hD30wCst130xCst130l8g640,4d@1130<Bnv1308:N30pGj730qG=q130*N140qP<h1130vC*t130vC=t1",
   "30tC:240,4n@1130n^1130q^1130s^1130v^1140p2~Crr130y1s930y^1120+^130qCpv14q91px114q91rx114q91tx114",
   "q91wx114q91yx114q91+x1120;620f~120g~120h~120j~130k~1130m~114011m~140@7@1kD30wC~v130xC~v130s~1130",
   "v~1130wCdw130xCdw130z~1130@~1130wClw130xClw140,4~*11308z~1308fP40,4,*1140,4c=1140,4f=1130f:1130h",
   ":1130k:1120m:130nGct130xP>k130s7,+130=6@@130,4v=130fGrt130rP130@7>F30w5lF30,4x=140gG1d730j7120w:",
   "130yP.k130y:1130=6;@130s7m@130s7n@130=6c*130<:1130^:1130::1130zPql120kP30qGn730,4d<130>Glt130@Pr",
   "l120>L30p9rD30w5y=130@7t@130h;1130,4m<130w5qF40n64j520l;120m;130;Nrm130,4r<130p9sD30,Nsm120r;130",
   ",4v<130p9tD30t;1130w5c<120x;130y;1130+;1130qCqy120=;130s7q*130=6f=130fG*630@7~F30w5~F40kG1f730=6",
   "g=130s7t*130s7v*130=6k=130w5t<130@7p*130w5:F40n64k530w5w<130=6p=130=6q=130=6r=130w5hG40n64l530w5",
   "+<140n64m530j,1130l,1130mGr730,4q>130,4r>130,4s>130,4t>120s,120@P20t,120wL30v,1120nG30>P<m120y,1",
   "20z,120+,120@,120*,120xL20yL20l820,420=,130<,1130gG130^,1130:,1120,,120.,130z1tD30z1lN20c.120d.1",
   "20f.120g.120*P30h.1120k.130n6n530s6j520vP20l.120=P30m.1120p.120tC20q.120r.120<P20s.120t.120v.120",
   "w.120x.120y.120z.120+.120@.120*.120=.130lP120<.120>.120^.120~.130:.1130kG120gN30n6p530s6k530n6q5",
   "30s6l530n6r530s6m520,.120xP20..120cc220dc220fc220gc220hc220jc220kc220>P20*L20lc220dG20^P20mc220n",
   "c220pc220qc220yP20rc220sc220z120tc220vc220zP20wc220xc220yc220<L20zc220^L20+c220:L20;L20yC20@c220",
   "*c220=c220<c220>c220^c220~c220,L20.L20:c220cM20dM20fM20gM20hM20;c220,c220jM20kM20lM20.c220cd220m",
   "M20nM20dd220mG20fd220gd220pM20hd220jd220kd220ld220md220nd220sM20tM20zC20vM20pd220qG20qd220zM20rd",
   "220sd220td220vd220wd220+C20@M20xd220@C20yd220*M20=M20<M20>M20zd220+d220@d220*d220=d220<d220>d220",
   "^d220~d220^M20~M20:d220;d220,d220.d220cf220df220:M20ff2@21f7B+576F3241111;51s4C@54C3221J1211x71z",
   "51s61l73x5Z11y63*54W5=41s132Nl452842111211111111111y51~61p71=71x52v611d73<5y133:6L11=51n71>71*72",
   ":561.54~515>11>41k71m71q7B@54C3221K213*6P11:62t711^41m41n41r42@4~21@41*61<71;62q4x21+61k43=41L2*",
   "651p51v51w51~41,71f81v42x411c61~71p41z44~51522,6g13s51l21,51k61j71.71c81w41+41+71g81:71;71c51g71",
   "h71y71z71r51@5@Tzb0qK1yd12*l13pK4sk15>J6^J7jk13^M6pN1vd12~M7mN4dz18vH9=c1Bcz1C~+18dd1BzG9n@1Clm1",
   "5fd1B+CDp@18zCF;RGzq1H^+1CjG9,@18k*18=H9;@1Cgd1BwJ9r*1Csd1Brh15dk15rXGwh1Jhn1KzGL@d12vh1CwHMjGLv",
   "KNym1P*m1K:j1C@HMlr1Q+z1C>m1Rtk1S:m1Tgn1Vzp1Vsh1CyY5>h1Wyg1X;d1Ylk15pk1Zzg1Q*r1bnbc1pbd1+Y5mNf1h",
   "z1Czm1g1,Rh1+m1j1rY5@m1V<m1Rrk1SzKk1.Kk1hLk1qLk1sLk1tLk1*J6=J7@q1l1kk1m1@Cn1:JG;JG~JGrz18+m1Q>z1",
   "QhZ5Hp1Kp1Mp1pp1g1qp1V:Cq1.Cq1gDq1hDq1@Dq1:Dq1hFq1mFq1nFq1pFq1rFq1sFq1tFq1vFq1^m1r1~m1s1~Cn1@VG+",
   "k15>Dn1=VGmm15>H9rn1CxSG+r1Rwn1r1xn1S.WG*VGks1R;n1SlH9qXG^L6~L7+Nk1dPk1+Pk1~Pk1,Pk1cQk1:MG.MGcNG",
   "fSGxKt1xNt1vNNyn1s1gp1s1=p1s1:p1s1hq1s1mr1Pnr1g1:n1Q.p1Vfn1v1<z1v1<d12nk1Z.t1w1tw18.y1x1Fp17p19p",
   "1Cp1Gp1Pp1Sp1nz1q1:Bq1lq1q1;LGrNG:RGwVG~WGtSGvSGqTGvp1r1wp1s1tp1R=l1Sxp1Ts3y1wSG^z1H,HMv3y1zVGq*",
   "1HsSGmz1HnVGq@1HzSG*n1r1=n1s1@s1Rdp1SrTG>p1r1^p1s1pVGdq1r1fq1s1*SG.z1z1tTGj@1z1.RG;q1Hy3+1<SGm+1",
   "H+3+1,SGv+1H*3+1xVGg*1H<3+1yVGh*1HqJ9mq1C;SGt+1HcTGz+1HdTG++1HjTG<+1HrVG*@1HsVG=@1HtVG<@1HvVG>@1",
   "HcSG,q1H@NGpTG;+1HySG:z1HfPG@SG,z1H@PG:PG.PGdQG>SGn+1H^SGq+1H~SGr+1H:SGs+1H.SGy+1HfTG@+1HgTG*+1H",
   "hTG=+1H.LGfMGwMGxMGyMGzMGxTG+TGfVGgVGhVGjVGgRGqVGy@1HkRGsTGh@1H+RG@RG*RG=RGvTGl@1HfWGjWGzWG+WG@W",
   "G*WGxJ9tz1CzNG*k1C<HM,j1C*HM<NG;WGcPGgPG,WGjPG+SGkPGlPGmPGnPGpPGqPGrPGsPGtPGvPGzPGhSGkSGlSG=SGmS",
   "GgQGhQG<VG>VGqQG,LGcMGdMGgMGhMGjNGjMGkMGlMGmMGnMGpMGqMGrMGsMGtMGvMGcXG+MG@MG*MGnSGwTGyTGzTG@TG*T",
   "G=TG<TG>TG^TG~TG:TG;TG,TG.TGcVGdVGkVGlVGmVGyJ9f@1CfRGhRGjRGlRGfXGmRGnRGpRGqRGrRGsRGtRGvRGwRGxRGy",
   "RGzRGgXG<RG>RG^RGzJ9v@1CjXGdWGgWGhWGkWGlWGmWGnWGpWGqWGrWGsWGtWGvWGwWGxWGyWG=WG<WG>WG@J9p*1CnXG+J",
   "9f*1ClXGc@18>B@1jD*1t@18d*18=D*1zD=1n*18dg1Clp1C:KN;NNzk1<1jg1<1;p1g1,p1Vnp1Prp1KxX>1yX>1@X>1=X>",
   "1sbk1;g1Qsr1Q;x1Q,g1Qch1Qdy1Qgy1Qvy1Q~bNjy1Qky1Qwy1Qxy1Qjs1QpDn1ms1Qns1Qqt1Qwt1Qzy1Qps1Qqs1Qrs1Q",
   "ht1Qlt1Qmt1Qrt1Qst1Qxt1Qyt1Qmv1Qnv1Qvv1Qwv1Qhy1Qpy1Qry1Qsy1Q+y1Q@y1Q<y1Q>y1Q~y1Q:y1Qls1Qkt1Qpt1Q",
   "vt1Qlv1Qtv1Qfy1Qqy1Qty1Qyy1Q=y1Q^y1Q=q1^1lz1~1mk1h1xd1YyN:1lf1;1yP:1+d1YyK:1rf1;1gL:1=d1Ylj1:1tf",
   "1;1pj1:1^d1Ysj1:1wf1;1wj1:1dn1,1pn1.1pf1;1.h1c2cj1c2:s1,1=t1.1.n1Zcg1C,h1w1qn1w1lg1<1sg1d2+g1d2d",
   "+1v1=g1f2*s1w1kw18;s1v1.g1f2ml1Cw+1Cvw18<v1w1>w18nh1d2:d1g2kf1X.q1h2sNj2fw1h2sKj2wPN,r1g2c+1X.r1",
   "h2*Pj2+p1Ksw1h2jLj2dLNrw1g2k@1X@x1g2x@1X=x1g2+@1X.d1g2qf1Xdf1g2sf1Xgf1g2vf1Xvk1k2wk1l2dr18hr1m2v",
   "r1n2>k1p2^k1p2gw18tn1q2zn1T,k1k2.k1l2=r1h2h2j2>r18cl1<1cs1h2;Bj2k+1~1ts1n2jl1p2ws1h2fKj2mw18;k1s",
   "1~s1h2l2j2dt1h2fCj2,t1h2jKj2@v1w1ql1r2rl1s2sl1r2tl1s2<l1k2>l1l2<p1Tlw1h2tQj2ww1h2vQj2@w1h2yQj2.w",
   "1h2@Qj2cm1k2dm1l2hm1k2jm1l2Yt2:Yv2@bw2jn1Kkn1Vrr18ln1Vmn1K+n1T~r18>n1h1~n1x2,n1y2nw18fp1q2.Bk1<s",
   "18jp1x2kp1y2yw18@p1K*p1Vcq1Vr1t2WLXL<q1LZLkBk1<k1m2fDz2bt2~Nj2:r18:Nk1gs18hs18jZk1ss18vs1+2zs18,",
   "BL*Dk1j2j2>s18;Pk1^s18fQk1k2k1mQj2cCj2.s18ct18dCk1lZk1gt18jt18nt18tt18zt18+t18@t18mZk1gKj2~t18:t",
   "18hKk1cv18nQk1m2k1n2k1p2j2dv18gCk1hCk1jCj2nZk1fv18pZk1gv18hv18jv18qZk1kv18pv18qv18rv18rZk1sv18xv",
   "18yv18zv18sZk1tZk1vZk1*v18kKk1lKk1mKj2q2k1kCk1wZk1xZk1yZk1zZk1+Zk1>v18^v18~v18@Zk1*Zk1=Zk1<Zk1:v",
   "18;v18,v18>Zk1^Zk1~Zk1nKk1lCk1:Zk1;Zk1,Zk1.Zk1cbk1dbk1^Kj2~Kk1wQj2rLk1vLk1xQk1zLj2zQj2+Qk1+Lk1*Q",
   "k1=Qk1<Qj2>Qk1^Qk1~Qj2:Qk1;Qk1p1Lq1Ls1Lt1t2pw18xw18zw18+w18*w18=w18<w18^w18~w18:w18;w18,w18cx18d",
   "x18fx18gx18hx18jx18kx18lx18mx18nx18px18qx18rx18sx18tx18vx18wx18xx18yx18zx18:N0L081111111117211Cf",
   "41R0811112118211Q1Q111111PR0811112118211Q1Q111111QR0811112118211Q1Q1211S11K081111111117211Ch4K08",
   "1111111117211Cj4K081111111117211Ck4K081111111117211Cl4K081111111117211C;1K081111111117211C,1K081",
   "111111117211C.1K081111111117211Cm4K081111111117211Cn4K081111111117211Dn4K081111111117211Cf2K0811",
   "11111117211Cg2K081111111117211Cq4K081111111117211Ch2K081111111117211Cj2K081111111117211Ck2K08111",
   "1111117211Cl2K081111111117211Cm2K081111111117211Cn2K081111111117211Cp2K081111111117211Cq2K081111",
   "111117211Cr2K081111111117211Cs2K081111111117211Ct2K081111111117211Cv2K081111111117211Dd2K0811111",
   "11117211Df2K081111111117211Dq4K081111111117211Dg2K081111111117211Dh2K081111111117211Dj2K08111111",
   "1117211Dk2K081111111117211Dl2K081111111117211Dm2K081111111117211Dn2K081111111117211Dp2K081111111",
   "117211Dq2K081111111117211Dr2K081111111117211Ds2K081111111117211Dt2F01111111C111.4F081111111115.4",
   "F081111199211z4F01111111J241>4F01111111T411y4N01111111C1R221911;11d2N01111111C1R221911;11f2N0111",
   "1111C1R221911d411H081111111117d311H081111111117g311H081111111117d314H081111111117h311L01111111J2",
   "J1641n411H01111111C1r31d211L01111111C1R221y2111L01111111C1R22B11q2.1L01111111J2J1641311H01111111",
   "C1r31j211L01111111C1R221d11=31K01111111J2J1641s22L01111111C1R221d11>31K01111111J2J1641W1H0111111",
   "1C111=511K01111111J2J1641^41G01111111C111r32H01111111C111:511H01111111C111.511G01111111C111f61K0",
   "1111111C1R221=211K01111111J2J1641y21G01111111C111h61G081111111115j61H01111111C111m611H01111111C1",
   "11q611H01111111C111t611H01111111C111x611F01111111J2Jc61G01111111C111*61G01111111C111<61G01111111",
   "C111^61G01111111C111:61G01111111C111,61G01111111C111c71G01111111C111f71G01111111C111h71G08111111",
   "1115j71F011651816r3111G081111111115=3w3G01111111C111n71G01111111C111q71G081111111115<3+3G0111111",
   "1C111t71G081111111115>3*3G081111111115^3*3G081111111115~3*3G081111111115:3*3G01111111C111+71G011",
   "11111C111*71G01111111C111<71G01111111C111^71G01111111C111:71G01111111C111,71G01111111C111c81G011",
   "11111C111f81G01111111C111;1l6G01111111C111,1l6G01111111C111.1l6G01111111C111c2l6G01111111C111d2l",
   "6G01111111C111f2l6F011111F561Cv11G01111111J241+1s6G01111111J241@1s6G01111111J241*1s6G01111111J24",
   "1=1s6G01111111J241<1s6G01111111J241>1s6F011111L241Cv11G081111199211p3<4G01111111C111x81G08111119",
   "9211q3^4G01111111C111+81G081111199211r3:4G081111199211s3:4G081111199211t3:4G081111199211v3:4G011",
   "11111C111^81F011659162p3111G01111111T411r1.6G01111111T411s1.6G01111111T411t1.6G01111111T411v1.6G",
   "01111111T411w1.6G01111111T411x1.6F011111L6129v11F081111111115;3F01111111J2Jt81F081111111115,3F08",
   "1111111115.3F081111111115g980SMJ7S11G01111111C1Tp3h51G01111111J2J7r81F081111111115m9F01111111J24",
   "1d9F081111111115p9F081111111115q9F01111111J241h9F081111111115s9F081111111115t9F081111111115v9F08",
   "1111111115w9F081111111115x9F081111111115y9F081111111115z9F081111111115+9F081111111115@9F08111111",
   "1115*9F081111111115=9F081111111115<9F081111111115>9F081111111115^9F01111111C111w3F081111111115~9",
   "F081111111115:9F081111111115;9F01111111C111.9F081111111115.9F081111111115cBF01111111C111d4F01111",
   "111C111fBF01111111C111gBF081111111115gBF01111111C111x3F01111111C111m2F01111111C111n2F01111111C11",
   "1jBF01111111C111kBF01111111C111lBF01111111C111mBF01111111C111nBF01111111C111pBF01111111C111qBF01",
   "111111C111rBF01111111C111sBF01111111C111tBF01111111C111vBF01111111C111wBF01111111C111xBF01111111",
   "C111yBF01111111C111zBF01111111C111+BF01111111C111@BF01111111T411jBF01111111C111=BF01111111C111<B",
   "F01111111C111>BF01111111C111p280SMK6S11F081111199211rBF01111111J241.1F01111111J241c2F01111111J24",
   "1yBF01111111J241zBF01111111J241+BF01111111J241@BF01111111J241*BF01111111J241=BF01111111J241<BF01",
   "111111J241>BF01111111J241^BF01111111J241~BF01111111J241:BF01111111J241;BF01111111J241,BF01111111",
   "J241.BF01111111J241cCF01111111J241dCF01111111J241fCF01111111J241gCF01111111J241hCF01111111J241d2",
   "F01111111J2J^B1F081111199211y3F081111199211fCF081111199211gCF081111199211hCF081111199211jCF01111",
   "111J241qCF081111199211lCF081111199211mCF081111199211nCF081111199211pCF081111199211qCF08111119921",
   "1rCF081111199211sCF081111199211tCF081111199211vCF081111199211wCF081111199211xCF081111199211yCF01",
   "111111C111dDF081111199211+CF081111199211@CF081111199211*CF01111111J2JxC1F01111111J241,CF08111119",
   "9211w3F081111199211x3F01111111T411=1F01111111T411<1F01111111T411=CF01111111T411<CF01111111T411>C",
   "F01111111T411^CF01111111T411~CF01111111T411:CF01111111T411;CF01111111T411,CF01111111T411.CF01111",
   "111T411cDF01111111T411dDF01111111T411fDF01111111T411gDF01111111T411hDF01111111T411jDF01111111T41",
   "1kDF01111111T411lDF01111111T411mDF01111111T411nDF01111111T411>1F01111111J2JlD1F01111111J241+DF01",
   "111111J2JpD1F01111111J241=D60Sp1S114q1C5j14q1C6h13q1C53q1C61*F2=F11c34q1J261>F4q1K161^F1~F1:F2;1",
   "61;F2g2~C2q1J2q1K1.F2=4n91=41x12<4n91<41>42>4n92x1yD2x1n32x1p32x1q32x1r32x1s380y1147g16180y1147F",
   "4L60=17g1,1150,1g3g914=1q1hC170h21111cD40,1f3170h21111dD4y114q170h21111fD70h21111gD3=1q1;12rG130",
   "g3qC1*12*1r31vG30g3sC1xG1yG1zG1+G1@G1*G1=G1<G1>G20g31^G40Sp1>D1:G1;G1,G1.G1cH1dH1fH1gH1hH1jH1kH1",
   "lH1mH1nH1pH1qH1rH1sH1tH1vH1wH1xH1yH1zH1+H1@H1*H1=H1<H1>H1^H1~H1:H1;H1,H1.H1cJ1dJ1fJ1gJ1hJ3jJ113s",
   "1~G13.11pG3s1NpG3s1.G13.11tG3s1NtG3s1gH13.11yG3s1NyG3s1lH13.11*G3s1N*G2s1N2g5@C2h5@C3.11^G2j5*C2",
   "j5=C2g5^C2h5^C2;1n32;1fH2k5^C1dK1fK1gK1hK1jK1kK1lK2mK11pK1qK1rK1sK2l512l5lD2vK11xK2yK12+K12*K11<",
   "K2>K12~K11;K2,K11f51cL2dL11q12gL12jL12lL12nL12qL11sL1tL1vL1wL1xL1yL1zL1+L1@L1*L1=L1<L2>L11~L1:L2",
   ";L11.L1cM1dM2fM11hM1jM2kM12mM12pM11rM1sM1tM1vM1wM1xM1yM1zM2+M12*M12<M12^M11:M1;M1,M1.M1cN2dN11gN",
   "1hN1jN1kN1lN1^41mN1nN1pN1qN1rN1sN1tN1vN1wN1~41xN1yN1zN1+N1@N1:41;41*N1,41=N1<N1>N1^N1~N1:N1;N1,N",
   "1.N1cP1dP1fP1gP1hP1jP1kP1lP1mP1nP1pP1qP1rP1sP1tP1vP1wP1xP1yP1zP1+P1@P1*P1=P1<P1>P1^P1~P1:P1;P1,P",
   "1.P1cQ1dQ1fQ1gQ1hQ1jQ1kQ1lQ1mQ1nQ1pQ1qQ1rQ1sQ1tQ1vQ1wQ1xQ1yQ1zQ1+Q1@Q1*Q1=Q1<Q1>Q1^Q1~Q1:Q1;Q1,Q",
   "1.Q1cR1dR1fR1gR1hR1jR1kR1lR1mR1nR1pR1qR1rR1sR1tR1vR1wR1xR1yR1zR1+R1@R1*R1=R1<R1>R1^R1~R1:R1;R1,R",
   "1.R1cS1dS1fS1gS1hS1jS1kS1lS1mS1nS1pS1qS1rS1sS1tS1vS1wS1xS1yS1zS1+S1@S1m51*S1=S1<S1>S1^S1~S1:S1;S",
   "1,S1.S1cT1dT1fT1gT1hT1jT1kT1lT1mT1nT1pT1qT1rT1sT1tT1vT1wT1xT1yT1zT1+Ts*10100k4211w4222w4232w4243",
   "w4254w4264k4275k4286k4295k42B7k42C5k42D8k42D5k42F5k42G5k42H9k42J5k42KBk42L5k42MCk42N5k42PDk42QFk",
   "42R5k42SGk42THk42TJk42TKk42TLk42TMk42TNk42TPk42TQk42TRk42TSk42TTk42TVk42TWk42TXk42TYk42SZk42Sbk4",
   "2Sc1k42Sd1k42Sf1k42Sg1k42Sh1k42Sj1k42Sk1k42Sl1k42Sm1k42Sn1k42Sp1k42Sq1k42Sr1y43Vs1y44Wt1y44Xv1y4",
   "3Yw1y43Zx1y44b0y44c10y44d10y44f10y44g10y44h10y44j10y44k10y44l10y44m10y44n10y44p10y44q10y44r10y44",
   "s10k42t1y1k42t1z1k42v1+1k42w1+1k42x1+1k42y1+1k42z1+1k42+1@1k42+1*1k42@1=1k42@1<1k42*1>1k42=1^1k4",
   "2<1~1k42>1:1k42^1;1k42=1,1k42~1.1k42:1c2k42~1d2k42;1f2k42,1g2k42.1h2k42c2j2k42d2h2k42f2k2k42g2l2",
   "k42h2m2k42j2n2k42k2p2k42k2h2k42l2q2k45m2r2k42n2s2k42n2t2k42n2v2k42n2w2k42p2x2k42q2y2k42r2z2k42s2",
   "+2k42t2@2k42v2*2k42w2=2k42x2<2k42y2>2k42z2^2h52+2~2k42@2:2k42*2;2k42*2,2k42@2.2k42*2c3k42@2d3k42",
   "@2f3k42@2g3k42@2h3k42*2j3k42*2k3k42*2l3k42*2m3k42*2n3k42*2p3k42*2q3k42*2r3k42=2s3k42=2t3k42=2v3k",
   "42=2w3k42=2x3k42=2y3h52<2z3k42>2+3k42>2@3k42>2*3k42>2=3k42>2<3k42>2>3h52^2^3k42~2~3k42*2:3k42~2;",
   "3k42*2,3k42~2.3k42~2c4k42~2d4k42~2f4k42*2g4h52:2h4k42;2j4k42;2k4k42;2l4k42;2m4k42;2n4k42;2p4h52,",
   "2q4k42z2r4k42.2s4k42z2t4k42z2v4k42z2w4j54c3x4k42d3y4k42f3z4k42z2+4k42g3@4k42z2*4k42z2=4k42g3<4k4",
   "2z2>4k42z2^4k42z2~4k42z2:4k42z2;4k42z2,4k42z2.4k42z2c5k42z2d5k42z2f5k42z2g5k42z2h5k42z2j5k42z2k5",
   "k42*2l5k42z2m5k42z2n5k42z2p5k42*2q5k42z2r5k42z2s5k42*2t5k42*2v5k42*2w5k42z2x5k42*2y5k42*2z5k42*2",
   "+5k42*2@5k42*2*5k42*2=5k42*2<5k42*2>5k42*2^5k42*2~5k42*2:5k42*2;5k42*2,5k42*2.5k42*2c6k42*2d6k42",
   "*2f6k42*2g6k42*2h6k42*2j6k42h3k6k42*2l6k42*2m6k42*2n6k42*2p6j54j3q6k42k3r6k42g3s6k42g3t6k42g3v6k",
   "42g3w6k42g3x6k42g3y6k42g3z6k42g3+6k42g3@6k42g3*6k42g3=6k42g3<6k42g3>6k42g3^6k42g3~6k42g3:6k42g3;",
   "6k42g3,6k42g3.6k42g3c7k42g3d7k42g3f7j54l3q6k42m3g7k42k3h7k42k3j7k42k3k7k42k3l7k42k3m7k42g3n7k42k",
   "3p7k42k3q7k42k3r7k42k3s7k42k3t7k42k3v7k42k3w7k42k3x7k42k3y7k42k3z7k42k3+7k42k3@7k42*2*7k42k3=7k4",
   "2k3<7k42k3>7k42n3^7k42g3~7k42k3:7k42k3;7k42h3,7k42h3.7k42h3c8k42h3d8k42h3f8k42h3g8k42h3h8k42h3j8",
   "k42h3k8k42h3l8k42h3m8k42h3n8k42h3p8k42h3q8k42h3r8k42h3s8k42h3t8k42h3v8k42h3w8k42h3x8k42h3y8k42h3",
   "z8k42p3+8k42g3@8k42q3*8k42g3=8j54r3<8j54s3>8j54t3^8j54v3^8j54w3<8j54x3~8j54y3~8j54z3:8j54+3:8j54",
   "@3:8j54*3:8j53=3;8j53<3;8k42>3,8k45^30k45~30j54:3.8j54;3c9j53,3;8j54.3.8k42c40k42d40j53f4d9j54g4",
   ".8j53h4d9j54j4f9j54k4f9j54l4.8j54m4g9j54n4g9j53p4;8j53q4;8k42r4h9k42s40j54t4.8k42v4j9k45w40k45x4",
   "0k42y40k45z40k45+40k45@40k45*40k45=40k45<40k45>40k42^40j53~4;8k45:40k45;40k45,40k45.40k45c50k45d",
   "50k45f50j53g5d9j54h5.8j54j5k9k42k50k42l50k42m50k42n50k42p50k42q50k42r50k42s50k42t50k42v50k42w50k",
   "42x50k42y50k42z50k42+50k42@50k42*50k42=50k42<50k42>50k42^50k42~50k42:50k42t50k42;50k42;50k42,50k",
   "42.50k42.50k42c60k42d60k42f60k42g60k42h60k42j60k42k60k42l60k42m60k42n60k42p60k42p60k42q60k42r60k",
   "42s60k42t60k42v60k42w60k42w60k42x60k42y60k42z60k42+60k42@60k42*60k42=60k42<60k42>60k42^60k42~60k",
   "42:60k42;60j54,6k9j53.6d9j53c7l9j53d7l9j53f7d9j53g7m9j53h7d9j53j7d9j53k7d9j53l7d9j54m7k9j54n7n9j",
   "53p70j53q70j53r70j53s70j53t70j53v70j53w70j54x7p9j54y7p9j53z70j53+7q9j53@70j53*70j53=70j53<70k42>",
   "70k42^70k42~70k42:70k42:70k42:70k42:70k42:70j53;70k42,70j54.70j54c80j53d80j53f80j54g80j54h80j54j",
   "80j54k80j54l80j54m80j54n80j54p80j54q80j53r80j53s80j54t80j53v80j53w80j54x80j54y80j54z80j54+80j54@",
   "80j54*80j54=80j54<80j54>80j53^80j53~80j53:80j53;80j53,80j53.80j53c90j54d90j53f90j53g90j53h90j53j",
   "90j53k90j53l90j53m90j53n90j53p90j53q90j53r90j53s90j53t90j53v90j53w90j53x90j53y90j53z90j53+90j53@",
   "90j53*90j53=90j53<90j53>90j53^90j53~90j53:90j53;90j53,90j53.90y43cBr9y43dBr9y44fB0y43gBs9y43hBs9",
   "y43jBt9y43kBt9y43lBt9y44mB0y44nB0y43pB0y43qB0y43rB0y43sB0y43tB0y43vB0y43wB0y43xB0y43yB0y43zB0y43",
   "+B0y43@B0y43*B0y43=B0y43<B0y43>B0y43^B0y43>B0y43~B0y43:B0y43;B0y43,B0y43.B0y43cC0y43dC0y43fC0y43",
   "gC0y43hC0y43jC0m53kC0y43lC0y43mC"]

private def jsxPart5 : List String :=
  ["0y43nC0y43pC0y43qC0y43rC0y43sC0y43gC0y43tC0y43vC0y43wC0y43xC0y43yC0y43zC0y43+C0y43@C0y43*C0y43=C",
   "0y43<C0y43>C0y43^C0y43~C0y43:C0y43;C0y43,C0y43.C0y43cD0y43dD0y44fDv9y44gDv9y43hD0y43jDt9y43kDt9y",
   "43lDt9y43mDt9y43nDt9y43pDt9y43qDt9y43rDt9y43sDt9y43tDt9y43vDt9y43wDt9y43xDt9y43yDt9y43zDt9y43rDt",
   "9y43+Dt9y43@Dt9y43*Dt9y43=Dt9y43<Dt9y43>Dt9y43^Dt9y43~Dt9y43:Dt9y43;Dt9y43,D0y43.D0y43cF0y44dFw9",
   "y44fFw9y44gFx9y44hF0y44jF0y44kFx9y44lFx9y44mF0y44nF0y44pF0y44qF0y43rFt9y44sF0y44tF0y44vF0y44wF0y",
   "44xF0y43yF0y44zFx9y44+F0y44@F0y44*F0y44=F0y44*F0y44<F0y44>Fx9y44^F0y44~Fx9y44:F0y44;F0y44,Fx9y44",
   ".F0y44cG0y44dG0y44fG0y44gG0m54hG0y44jG0y44kGx9y44lG0y44mGx9y44nGx9y44pG0y44qGx9y44rGx9y44sGx9y44",
   "tGx9y44vGx9y44wGx9y44xGx9y44yGx9y44qGx9y44zGx9y44+Gx9y44@G0y44*G0y44=G0y44<Gx9y44>G0y44^Gx9y44dG",
   "0y44~G0y44:G0y44;G0y44,G0y44.G0y44cHx9y44dH0y44fH0y44gHx9y44hH0y44jHx9y44kH0y44lHx9y44mHx9y44nH0",
   "y44pH0y44qH0y44rH0y44sH0y44tH0y44vHx9y43wH0y43xH0y44yH0y44zH0y44+H0y44@H0y44*H0y44=H0y44<H0y44>H",
   "0y44^H0y44~H0y44:H0y44;H0y44,H0y44.H0y44cJ0y44dJ0m54fJ0y43gJ0y43hJ0y43jJ0y44kJx9y44lJx9y44mJx9y4",
   "4nJx9y44pJx9y44qJx9y44rJx9y44sJx9y44tJx9y44vJx9y44wJx9y44xJx9y44yJx9y44zJx9y44rJx9y44+Jx9y44@Jx9",
   "y44*Jx9y44=Jx9y44<Jx9y44>Jx9y44^Jx9y44~Jx9y44:Jx9y44;Jx9y44,J0y44.Jx9y44cKy9y44dK0y44fKy9y44gKy9",
   "y43hK0y43jKt9y43kK0y44lKx9y44mK0y44nKx9y44pKx9y43qKt9y44rKx9y43sK0y43tK0y43vK0y43wKz9y43xK+9y43y",
   "K+9y43zKz9y43+Kt9y43@Kz9y43*K@9y44=Kx9y43<Kz9y43>Kz9y44^Kx9y43~Kz9y43:Kz9y43;Kz9y43,Kz9y43.Kz9y4",
   "3cLz9y43dLz9y43fLz9y43gLz9y43hLz9y43jLz9y43kLz9y43lLz9y43mLz9y43nL0y43pL0y43qL0y43rL0y43sLz9y43t",
   "L*9y43vL=9y43wLz9y43xLz9y43yLz9y43zLt9y43+Lt9y43@Lt9y43*Lt9y43=Lt9y43<Lt9y43>Lt9y43^Lt9y43~Lt9y4",
   "3:Lt9y43;Lt9y43,Lt9y43.Lt9y43cMt9y43>Lt9y43dMt9y43fMt9y43gMt9y43hMt9y43jMt9y43kMt9y43lMt9y43mMt9",
   "y43nMt9y43pMt9y43qMz9y43rM<9y43sMz9y43tMz9y43vMz9y43wMz9y43xMz9y43yMt9y43zMz9y43+Mz9y43@Mz9w42*M",
   ">9y44=Mx9y43<Mt9y44>Mx9y43^Mt9y43~Mt9m53:M0w42;M^9w42,M>9w42.M>9w42cN>9w42dN>9y43fN0y43gNt9y43hN",
   "t9y43jNt9y43kNt9y43lNt9y43mNt9y43nNt9y43pNt9y43qNt9y43rNt9y43sNt9y43tNt9y43vNt9y43wNt9y43nNt9y43",
   "xNt9y43yNt9y43zNt9y43+Nt9y43@Nt9y43*Nt9y43=Nt9y43<Nt9y43>Nt9y43^Nt9y43~N0y43:Nt9y43;N0y43,Nt9y43",
   ".Nt9y43cPt9y43dPt9y43fP0y43gPt9y43hPt9y43jP0y43kPt9y43lP0y43mPt9y43nP0y43pPt9w42qP~9y43rPx9y43sP",
   "t9w42tP:9k42vP;9w42wP,9w42xP.9w42yPcBw42zPcBk42+PdBw42@PfBw42*PcBw42=PgBw42<PcBk42>PhBk42^P:8k42",
   "~P:8k42:P~8k42;P~8k42,P:8k42.P:8k42cQ:8k42dQ:8k42fQ:8k42gQ:8k42hQ:8k42jQ:8k42kQ:8k45lQjBk42mQ~8k",
   "42nQ:8k42pQ:8k42qQ:8k42rQ:8w42sQkBk42tQlBk42vQlBk42wQmBk42xQmBk42yQlBw42zQkBk45+QnBw42@QpBk42*Ql",
   "Bk42=QlBk45<QqBk42>QmBk45^QrBk45~QsBk45:QtBs52;QvBk45,QnBk42.QlBk45cRrBk45dRwBk45fRxBk45gRyBk45h",
   "RzBw42jR+Bw42kR0s52lR0w42mR0w42mR0w42nR0w42nR0w42nR0w42nR0w42nR0w42nR0w42nR0w42pR0w42pR0w42pR0w4",
   "2pR0w42pR0w42pR0w42pR0w42pR0w42pR0w42pR0w42pR0w42pR0w42qR0w42qR0w42qR0w42qR0w42qR0w42qR0w45rR0w4",
   "5sR0k42tR@Bk42vR@Bk42wR*Bk42xR=Bk42yR<Bw42zR0w42+R0k42@R>Bk42*R^Bw42=R0w42<R0w42>R0w42^R0k42~RrB",
   "k42:R~Bw42;R0k42,RlBw42.R0k42cS*Bk42dS@Bk42fS:Bk42gS;Bk42hS,Bw42jS0k42kS.Bk42lScCk42mSdCk42nSfCk",
   "42pSgCk42qShCk42rSjCk42sSkCk42tSlCk42vSmCk42wSnCw42xS0w42yS0w42zS0k42+SnBk42@S*Bk42*SrBk42=SpCk4",
   "2<SqCk42>SrCk42^SsCk42~StCk42:SvCk42;SwCk42,SxCk42.SyCk42cTzCj52dT0k42fTlBk42gT@Bk42hT+Ck42jT.Bk",
   "42kT@Ck42lT*Ck42mT=Ck42nT<Ck42pT>Cj52qT0j52rT0j52sT0k42tTnBk42vTrBk42wT^Ck42xTqCk42yT~Ck42zT:Ck4",
   "2+T;Ck42@T,Ck42*T.Cj52=T0y42<TcDs56>TdD~62^TfDs56~TgDs56:ThD~62;TjDs56,TkDs56.TlD~62cVmDs56dVnDs",
   "56fVpD~62gVqDs56hVrD~62jVfD~62kVfDs56lVsD~62mVjD~62nVjD~62pVmD~62qVmD~62rVqD~62sVqDk42tVtDk42vVv",
   "D~62wVfD~62xVwDk42yVxDk42yVyD~62zVwD~62+VjD~62@VwD~62*VmD~62=VwD~62<VqD~62>VwDk42^VzDk42~V+Dk42:",
   "VzDk42;V+Dk42,V@Dk42,Vk9k42.V0k42,V*Dk42cW=Dk42dWm9k42fWp9k42gW0~62hW0k42jW0k42kW0k45lW<Dk45mW>D",
   "k42nW0k42pWzDk42qW+Dk42rW^Dk42sWn9k42tW^Dk42vWp9k42wWp9k42xWp9k42yWp9d77zW~Dd77+W:Dk42@W;Dk45*W0",
   "k45=W0k42<W,D~62>W0k45^W.Dd77~W:Dk42:WcFk45;W0k42,WdFk42.WfFk42cXq9k42dXgF~62fX0~62gX0k45hXhFk45",
   "hXjFk42jXdFk45kXkFk45lX0k45mX0k45nX0k45pX0k45qX0k42rX0k42sX0d77tXlFd77vX:D~62wXmFk42xXnFk42yX+Bk",
   "45zX>Dk42+XpFk42@X0k42*X0s56=X0k42<XqF~62>XrFk42^XsFk42~X0k42:XtFk42;XvFs56,X0~62.X0s56cY0s56dY0",
   "s56fY0k42gYwFk45hY0~62jY0~62kY0~62lY0~62mY0k45nY0k45pY0~62qY0~62rY0s56sY0s56tY0s56vY0s56wY0s56xY",
   "0s56yY0~62zY0~62+Y0~62@Y0~62*Y0~62=Y0~62<Y0k42>YnFk42^YxF~62~YyFk42:YzFk42;YsF~62,Y+F~62.Y@F~62c",
   "Z*Fk42dZnFk42fZ0k42gZsFk42hZ0~62jZ=F~62kZ<Fk42lZ+Bn78mZ>Fx78nZ^Fk42pZ~Fy42qZx9k45rZ:Fk42sZ+Bk45t",
   "Z;Fk45vZ,Fk45wZ.Fk42xZcGk42yZdGk42zZ+Bk42+ZfGn78@ZgGx78*ZhGk42=ZjGk42<ZkGk45>ZlGk42^Z+Bk42~ZmGk4",
   "2:Z0k42;ZnGk45,ZpGk45.ZqGk45cbqGk42dbrGk42fbsGk42gbtGn78hbgGx78jbhGk45kblGk42=ZvGk42~ZwGk42lb0k4",
   "2mb0k45nbqGk42dbxGd77pb0k42qbyG>72rbzGh82sb+G>72tb@Gh82vb*G>72wb@Gh82xb*Gk45yb0k42zb0k42+b0k42@b",
   "0k45*b0n78=b=Gx78<b<Gy42>bt9k42^b>Gn78~bgGx78:bhGk42=Z^Gk42=Z~Gk42=Z:Gk42=Z;Gn78;b,Gx78,b.Gn78.b",
   "gGx78cc1hGn78dc1cHx78fc1dHn78gc1gGx78hc1hGk42jc1~Fk42kc1+Bk42lc1+Bk42mc1kGk42nc1~Fk42pc1kGk42qc1",
   "fHk45rc10k45sc10k42tc1gHk42vc1:Fk42wc10k42xc1hHk42yc1jHk42zc1kHk42yc1lHk42xc1mHy42+c10k42@c1dGk4",
   "2*c1fGk42=c1nHk42=c1tGk42*c1pHk42<c1qHk42>c10k42^c1rHk45~c10k42:c1sHk42;c10k42,c1lHk42.c1mHk42cd",
   "1mHk42dd1lHk42fd1lHk42gd1mHk42hd10k42jd1tHk45kd10k42ld10k42md1vHk42nd1wHk42pd1xHk42qd10k42rd10k4",
   "2sd1tGk42td1pHk42vd1pHk42wd1yHk42xd1zHk42xd1tGh52yd10k45zd10k45+d10k42@d1+Hk42*d1kHk42=d10k42<d1",
   "@Hk45>d10k42^d1*Hk42~d10k42:d1wHk42;d1tGk45,d10k42.d1+Hk42cf1@Hk45df10k45ff10k42gf1=Hk42hf1<Hk42",
   "hf1lHk42gf1mHy42jf10k42kf1>Gk42lf1>Hk42lf1tGk42kf1pHk42mf10k42nf1lHk42pf1mHk42qf1mHk42rf1lHk42sf",
   "1tGk42tf1pHk42vf1^Hk42vf1tGh52wf10k42xf1tGk42yf1~Hk42yf1lHk42zf1lHk42+f1lHk42@f1:Hk42@f1tGh52*f1",
   "0k42=f1tGh52<f10k42>f1;Hk42^f1j9k42~f10k42:f1qHk42;f1yHk42,f1qHk42.f1yHk42cg1,Hk42cg1.Hk42cg1cJk",
   "42cg1dJk42dg1fJk45fg10k45gg10k42hg10k42jg1:Fk42kg10k42jg1gJk42lg1hJk42mg1jJk42ng10k45pg10k45qg10",
   "k45rg10k45sg10k42tg1kJk42vg1lJk42wg1mJk42xg10k42yg10k45zg10k42+g10k42vg1nJk42vg1pJk42@g10k42*g10",
   "k42=g10k42<g10k42dg1qJk42vg1rJk42>g1sJk45^g10k42vg1tJk42~g10k42:g1vJk42dg1wJk42;g10~62,g10k45.g1",
   "0k42tg1xJk42vg1yJk42wg1zJk42vg1+Jk42wg1@Jk42wg1*Jk42ch10h52dh10k42tg1=Jk42fh1<Jk42vg1>Jk42vg1^Jk",
   "42gh1~Jk42dg1:Jk42vg1;Jk42hh10k42vg1,Jk42vg1.Jk42vg1cKk42vg1dKk42vg1fKk42vg1gKk42dg1hKk45jh10k45",
   "kh10k42lh1jKk42vg1kKk42vg1lKk42mh1mKk42nh10k42ph10k45qh10k42vg1nKk42wg1pKk42wg1qKk42wg1rKk42tg1s",
   "Kk42rh10k42sh10k42vg1tKk42gh1vKk42gh1wKk42fh1xKk42th10k42dg1yKk42vg1zKk42dg1+Kk42vg1@Kk42vg1*Kk4",
   "2vg1=Kk42dg1<Kk42vg1>Kk42vg1^Kk42vg1~Kk42vg1:Kk42dg1;Kk42vg1,Kk42vg1.Kk42vg1cLk42vg1dLk42dg1fLk4",
   "2dg1gLk42dg1hLk42vh10k42wh10k45xh10k42yh10k42vg1jLk42mh1kLk42mh1lLk42zh10k42lh1mLk45+h10k42wg1nL",
   "k42gh1pLk42dg1qLk42dg1rLk42dg1sLk42dg1tLk42dg1vLk42vg1wLk42vg1xLk42vg1yLk42dg1zLk42dg1+Lk42dg1@L",
   "k42dg1*Lk42vg1=Lk42vg1<Lk42vg1>Lk42dg1^Lk42dg1~Lk42dg1:Lk45@h10k42*h10k42mh1;Lk42dg1,Lk45=h10k42",
   "dg1.Lk42dg1cMk42dg1dMk42dg1fMk42dg1gMk42dg1hMk45<h10k45>h10k45^h10k42lh1jMk42mh1kMk42~h10k42:h10",
   "k42;h1qJk42tg1lMk42mh1mMk42mh1nMk42wg1pMk42,h10h52.h10k42lh1qMk42;h1:Jk42;h1hKk42tg1rMk42wg1sMk4",
   "2mh1tMk42wg1vMk42wg1wMk42tg1xMk42;h1yKk42;h1+Kk42;h1<Kk42;h1;Kk42;h1fLk42;h1gLk42;h1hLk42wg1yMk4",
   "2wg1zMk42tg1+Mk42wg1@Mk42;h1qLk42;h1rLk42;h1sLk42;h1tLk42;h1vLk42;h1zLk42;h1+Lk42;h1@Lk42;h1*Lk4",
   "2;h1^Lk42;h1~Lk42;h1:Lk42wg1*Mk42;h1.Lk42;h1cMk42;h1dMk42;h1fMk42;h1gMk42;h1hMk42cj10h52dj10k42f",
   "j10h52gj10k42cg1=Mk42cg1<Mk42cg1>Mk42mg1^Mk42vg1~Mk42vg1:Mk42vg1;Mk42vg1,Mk42vg1.Mk42vg1cNk42vg1",
   "dNk42vg1fNk42vg1gNk42vg1hNk42vg1jNk42vg1kNk42vg1lNk42vg1mNk42vg1nNk42vg1pNk42vg1qNk42vg1rNk42vg1",
   "sNk42vg1tNk42vg1vNk42vg1wNk42vg1xNk42vg1yNk42vg1zNk42vg1+Nk42vg1@Nk42vg1*Nk42vg1=Nk42vg1<Nk42vg1",
   ">Nk42vg1^Nk42vg1~Nv89hj10k42jj10k42kj10k42lj10k42mj10k42nj10k42pj10k42qj10k42rj10k42sj10k42tj10k",
   "42vj10k42wj10k42xj10k42yj10k42zj10k42+j10k42@j1002*j10k42=j10k42<j10k42>j10k42^j10k42~j10k42:j10",
   "k42;j10k42,j10k42.j10k42ck10k42dk10k42fk10k42gk10k42hk10k42jk10k42kk10k42lk10k42mk10k42nk10k42pk",
   "10k42qk10k42rk10k42sk10k42tk10k42vk10k42wk10k42xk10k42yk10k42zk10k42+k10k42@k10k42*k10k42=k10k42",
   "<k10k42>k10k42^k10k42~k10k42:k10k42;k10k42,k10k42.k10k42cl10k42dl10k42fl10k42gl10k42hl10k42jl10k",
   "42kl10k42ll10k42ml10k42nl1002pl10k42ql10k42rl10k42sl10k42tl10k42vl10k42wl10k42xl10k42yl10k42zl10",
   "k42+l10k42@l10k42*l1002=l10k42<l10k42>l1002^l10k42~l10v89:l10k42;l10k42,l10k42.l10k42cm10v89dm10",
   "v89fm10k42gm10k42hm10k42jm10k42km10k42lm10k42mm10k42nm10k42pm10k42qm10k42rm10k42sm10k42tm10k42vm",
   "10k42wm10k42xm10k42ym10k42zm10"]

/-- The tables in their written form. -/
def packed : List String :=
  jsxPart1 ++
  jsxPart2 ++
  jsxPart3 ++
  jsxPart4 ++
  jsxPart5

/-- The automaton of the grammar. -/
def automaton : Automaton :=
  Packed.unpack symbolNames aliasNames fieldNames packed

end StoryMend.Syntax.Jsx
