import StoryMend.Syntax.Packed

/-!
The automaton of typed component modules: scripts with type annotations and
markup.
-/

namespace StoryMend.Syntax.Tsx

/-- The tokens, then the phrases, in the order of their numbers. -/
def symbolNames : List String :=
  ["end", "identifier", "hash_bang_line", "export", "*", "default", "type", "import", "=", "as",
   "namespace", "\x7b", ",", "\x7d", "typeof", "from", "with", "var", "let", "const", "!", "else",
   "if", "switch", "for", "(", ";", ")", "await", "in", "of", "while", "do", "try", "break",
   "continue", "debugger", "return", "throw", ":", "case", "catch", "finally", "yield", "[", "]",
   "html_character_reference", ">", "identifier", ".", "</", "/>", "\"", "'", "string_fragment",
   "string_fragment", "class", "async", "function", "=>", "?.", "new", "using", "+=", "-=", "*=",
   "/=", "%=", "^=", "&=", "|=", ">>=", ">>>=", "<<=", "**=", "&&=", "||=", "??=", "...", "&&",
   "||", ">>", ">>>", "<<", "&", "^", "|", "+", "-", "/", "%", "**", "<", "<=", "==", "===", "!=",
   "!==", ">=", "??", "instanceof", "~", "void", "delete", "++", "--", "string_fragment",
   "string_fragment", "escape_sequence", "comment", "`", "$\x7b", "/", "regex_pattern",
   "regex_flags", "number", "private_property_identifier", "target", "meta", "this", "super",
   "true", "false", "null", "undefined", "@", "static", "readonly", "get", "set", "?", "declare",
   "public", "private", "protected", "override", "module", "any", "number", "boolean", "string",
   "symbol", "object", "abstract", "accessor", "satisfies", "require", "extends", "implements",
   "global", "interface", "enum", "-?:", "+?:", "?:", "asserts", "infer", "is", "keyof",
   "unique symbol", "unknown", "never", "\x7b|", "|\x7d", "_automatic_semicolon",
   "string_fragment", "?", "html_comment", "jsx_text", "_function_signature_automatic_semicolon",
   "__error_recovery", "program", "export_statement", "namespace_export", "export_clause",
   "export_specifier", "_module_export_name", "declaration", "import", "import_statement",
   "import_clause", "_from_clause", "namespace_import", "named_imports", "import_specifier",
   "import_attribute", "statement", "expression_statement", "variable_declaration",
   "lexical_declaration", "variable_declarator", "statement_block", "else_clause", "if_statement",
   "switch_statement", "for_statement", "for_in_statement", "_for_header", "while_statement",
   "do_statement", "try_statement", "with_statement", "break_statement", "continue_statement",
   "debugger_statement", "return_statement", "throw_statement", "empty_statement",
   "labeled_statement", "switch_body", "switch_case", "switch_default", "catch_clause",
   "finally_clause", "parenthesized_expression", "expression", "primary_expression",
   "yield_expression", "object", "object_pattern", "assignment_pattern",
   "object_assignment_pattern", "array", "array_pattern", "jsx_element", "jsx_expression",
   "jsx_opening_element", "nested_identifier", "jsx_namespace_name", "jsx_closing_element",
   "jsx_self_closing_element", "jsx_attribute", "string", "class", "class_declaration",
   "class_heritage", "function_expression", "function_declaration", "generator_function",
   "generator_function_declaration", "arrow_function", "_call_signature", "_formal_parameter",
   "optional_chain", "call_expression", "new_expression", "await_expression", "member_expression",
   "subscript_expression", "assignment_expression", "_augmented_assignment_lhs",
   "augmented_assignment_expression", "_initializer", "_destructuring_pattern", "spread_element",
   "ternary_expression", "binary_expression", "unary_expression", "update_expression",
   "sequence_expression", "string", "template_string", "template_substitution", "regex",
   "meta_property", "arguments", "decorator", "member_expression", "call_expression",
   "class_body", "formal_parameters", "class_static_block", "pattern", "rest_pattern",
   "method_definition", "pair", "pair_pattern", "_property_name", "computed_property_name",
   "public_field_definition", "_import_identifier", "non_null_expression", "method_signature",
   "abstract_method_signature", "function_signature", "parenthesized_expression", "as_expression",
   "satisfies_expression", "instantiation_expression", "import_require_clause", "extends_clause",
   "_extends_clause_single", "implements_clause", "ambient_declaration",
   "abstract_class_declaration", "module", "internal_module", "_module", "import_alias",
   "nested_type_identifier", "interface_declaration", "extends_type_clause", "enum_declaration",
   "enum_body", "enum_assignment", "type_alias_declaration", "accessibility_modifier",
   "override_modifier", "required_parameter", "optional_parameter", "_parameter_name",
   "omitting_type_annotation", "adding_type_annotation", "opting_type_annotation",
   "type_annotation", "member_expression", "call_expression", "asserts", "asserts_annotation",
   "type", "required_parameter", "optional_parameter", "optional_type", "rest_type",
   "_tuple_type_member", "constructor_type", "primary_type", "template_type",
   "template_literal_type", "infer_type", "conditional_type", "generic_type", "type_predicate",
   "type_predicate_annotation", "member_expression", "subscript_expression", "call_expression",
   "instantiation_expression", "type_query", "index_type_query", "lookup_type",
   "mapped_type_clause", "literal_type", "unary_expression", "existential_type",
   "flow_maybe_type", "parenthesized_type", "predefined_type", "type_arguments", "object_type",
   "call_signature", "property_signature", "type_parameters", "type_parameter", "default_type",
   "constraint", "construct_signature", "index_signature", "array_type", "tuple_type",
   "readonly_type", "union_type", "intersection_type", "function_type", "program_repeat1",
   "export_statement_repeat1", "export_clause_repeat1", "named_imports_repeat1",
   "variable_declaration_repeat1", "switch_body_repeat1", "object_repeat1",
   "object_pattern_repeat1", "array_repeat1", "array_pattern_repeat1", "jsx_element_repeat1",
   "_jsx_string_repeat1", "_jsx_string_repeat2", "sequence_expression_repeat1", "string_repeat1",
   "string_repeat2", "template_string_repeat1", "class_body_repeat1", "formal_parameters_repeat1",
   "_jsx_start_opening_element_repeat1", "extends_clause_repeat1", "implements_clause_repeat1",
   "extends_type_clause_repeat1", "enum_body_repeat1", "template_literal_type_repeat1",
   "object_type_repeat1", "type_parameters_repeat1", "tuple_type_repeat1"]

/-- Names under which some symbols appear in certain places. -/
def aliasNames : List String :=
  ["identifier", "property_identifier", "type_identifier", "statement_identifier",
   "shorthand_property_identifier", "shorthand_property_identifier_pattern", "this_type",
   "member_expression", "interface_body", "unique symbol"]

/-- The names of the fields. -/
def fieldNames : List String :=
  ["decorator", "parameters", "declaration", "name", "argument", "operator", "pattern", "body",
   "constructor", "arguments", "function", "type_arguments", "close_tag", "open_tag",
   "return_type", "type_parameters", "left", "right", "label", "parameter", "source", "object",
   "type", "kind", "condition", "consequence", "value", "handler", "finalizer", "attribute",
   "constraint", "property", "optional_chain", "key", "alternative", "flags", "index", "alias",
   "module", "initializer", "increment", "index_type", "sign"]

private def tsxPart1 : List String :=
  ["q51033111111111111111111111111111111111111111111131311111331111111111111111111111111111111111111",
   "111111111111133331113333113333331111111111111111111111111111111111111110313300333330033303333033",
   "333333330333333333333333330033333333333333333333333300333333303003333333333333333330333303303333",
   "333333033333033333333333303333333303333030333333333333333333333333333333333333300000000000000000",
   "000000000001111111110jB001100100011001210130001200241500160000171018100131300291B002405101C102D1",
   "F00210G10211H0000122112J0K214272L011272M001N10271302050206020100272P101300230Q101R002S1T20272V10",
   "17201610001Q10272S10271W20271X22041L12032723101V00000130170000001720272H101720292810281C20161203",
   "131013101Y013230V1132Z13020813102J0K20272M003J051K230392723102723130022P0b202P0b230023P0c11b203P",
   "0c11b20392B0C10292B002D2F0017200000311G2H00001V201N238022P0b2162J0K202d10V202723001V10230Q20230Q",
   "102733203f13S1T2017301Q201620001Q201Q10271S30371X3W20131013000002032733120337331H202C1V000000000",
   "13230C1203020B00230C10291B00273H1201273M101730273M101730131027331039381C22012J1K302J1K302g136120",
   "3231V22032Z2310131000231C2133Z130V2208231C22081313003273322031Q101Q140309273314030937331H202h12P",
   "00393B0C2012330032733201730273H20002j1230203231V3112j1230027330016301Q2013201310231Q201300130203",
   "37431H200011102B0C102B0C10291B002B0C130032k10320210G230022P0b202P0b230022P0b202P0b20174013202743",
   "22033Z231V30231C2208231C2300327432300337432H32031Q101Q150300937431H203f14S0T203h13P0c1111230Q201",
   "V3300327432300337432H30274H2400032743302j1331203331H2V42012j133102743101722013J152K303J152K30375",
   "S3l120164013113230Q201Q301320232Q301310231Q30231Q201330230Q20211Q20212H101320231Q2011230022P0b20",
   "2P0b20211Q30311G3H0027533300337532H30001310000300337532H340003275334000337533H401N40275320273V10",
   "4R1J253K40476S3m14l120476S3S4l120376S4l120274M20132013301320232Q40232Q30231Q301330233Q401Q401340",
   "312Q3H10232Q30231Q301330212Q30213H202h12P002h12P002h12P00312Q4H10212Q44000204000337633H402763302",
   "763404R1J254K50577S3S4m15l120477S4m15l120477S4S5l120375M2Q32013n1331Q5133j1430Q203n1331Q502p10Q5",
   "013301340232Q401330233Q50233Q401340234Q501350232Q40233Q40313Q4H2013402h13P002h13P002h13P002h13P0",
   "0313Q5H20277340277350578S4S5m16l12013401350233Q530013n1432Q603n1432Q601340234Q60234Q501350235Q60",
   "1360233Q50234Q504f16T4J0K2027835027836400014n1533p10Q704n1533p10Q701350234Q601350235Q70235Q60136",
   "01360236Q70234Q60279360235Q7013601360236Q80236Q70236Q8Bh5j5k5l5w2r3x3m5n5p5D0.Y8XY9n8m4p1Bm1m2c3",
   "009112112310L11415161718191B1C1D1F1G1H1J1K1L1M1N1P6Q2R1S1T1V1W1X1Y1Z1b1Z2c11Z1d18f11d18g11d12h11",
   "j11k11l11m11n11p11q11r11s11t11v11w11x11y11z11+11@11*11=11<11>11^11~11:11;11,11.11c21d21f21g21h21",
   "j21k21l21m2d111m2.t511m2.q21Dm2Xn22m2511m2v112m2.:311m2,=z111m2p20j902g151664111k291FC1VF1h2H1HK",
   "1k2M14P1CR1ST1DW1RY1h1b1k1d11Wg11Kj11Tl115n11Bq11Xs11Gv11Jx11Lz118@11l1=119>11j2~11l2;11j1.11n1d",
   "217g21Mj23N11l2f1Z111115211111111111111111111111115n21Y100003q214s2g17R1111152111111111111111111",
   "11111115v21j102g151664111k291FC1VF1h2H1HK1k2M14P1CR1ST1DW1RY1h1b1k1d11Wg11Kj11Tl115n11Bq11Xs11Gv",
   "11Jx21Lz118@11l1=119>11j2~11l2.11n1d217g21Mj23N11l2f1Z111115211111111111111111111111115z21j1n21Y",
   "502@21V=21F902>21W~21VD01;21j2F00G00P01.21VV00W00X00m100s100t100w102d31Wg31Vy102j31Kl34M111;203n",
   "31Lq31Ts31V@100*100g402v31Kx31X<203z31V@31G=31X>203>31V~31J;31Xx300~201.31V*201d41V@202g41Vj419=",
   "203l41Vn41j2q41k2k300005s423Tv4g2011211111111111111411111211111111111111111111111111111111212111",
   "1111x43M11z41d2@41,1v300203=41h2l2l17D1118111115211111111111111111111111115z21j1+309>42g1Z~41Kj2",
   "3N11;42c1G.41Md51m1g52bDj52f1Ql51=1+305~41Kj24M111n51m1;42c1Gl51=1202l2l17D111811111521111111111",
   "1111111111111115z21j1,300301q2n20121111111111111111111111111111111111111111111111111111111111111",
   "111111111@302s2l17D1118111115211111111111111111111111115v21j1001q51,1^203s51Vv51Lx51F001z51,1f20",
   "0:201@51V:100.201=51Vg500d301>51Vy202~51V;51Wg300001.51K+303;42c1Gl34M111d61m1z100+201g61V,200;1",
   "00h301j61Vc200n300001l61Rd200p300001n61Rh200j200k200w201q61Vl200x201s61Vh500s301v422l2s300s301v6",
   "3M11001x6FM111811B11111002z6FM111811B11111@61h2w300001=6FM111811B11111+302;42c1Gl34M111002>64M11",
   "1~62G2+303.44M111d51m1l51=1001.44M111001;62M1001.63M11+300001j24M111002d7FM111811B11111g71h2g200",
   "t301v5l201311111111111111111111111111111111111111111111111111111111111111111111002j71Fx5n2011111",
   "1111111211111111111111111111111111111111111111111111111111111111111002l7FM111811B11111n71h2q200c",
   "300f300m200z201q71Vv200001l34M111p200t200^400>400r200s200s301v43M11001v4FM111811B11111001s7FM111",
   "811B11111001v7FM111811B11111+303=6FM111811B11111>41m1l51=1+302>64M111~61m1001>64M111+303;62M1g51",
   "m1l51=1+303.63M11j51m1l51=1001x7FM111811B11111001z7FM111811B11111003@71Lx5m201111111111112111211",
   "1111111111111111111111111111111111111111111111111111j71F001=7FM111811B11111001>7FM111811B11111n2",
   "00001~7FM111811B11111002;71k2v7FM111811B11111001.7FM111811B11111002s21k2z7FM111811B11111t300001d",
   "8FM111811B11111002l21k2>7FM111811B11111001;7FM111811B11111s302l2l17D1118111115211111111111111111",
   "111111115z21j1001s2FM111811B11111001l2FM111811B1111102c1516f84111k2j81Fl81Vn81h2H1HK1k2q814P1CR1",
   "ST1DW1RY1h1b1k1s81Wg11Kl115n11Bv819x81j2z81G@81J=81L>81T~11l2.11n1g21Mj23N11l2g17R11111521111111",
   "1111111111111111115z21j1n21Y~81X500901>21WD00P00w100@200=201q41k2<201@31G>201~31J^202v51Lx51F;20",
   "0g40000f191F:84111k2C1VF1h2H1HK1k2M14P1CR1ST1DW1RY1h1b1k1d11Wg11Kl115n11Bq11X.81Gd91Jx21Lz118@11",
   "l1=119>11j2g91T~11l2.11n1g21Mj23N11l2g17R111115211111111111111111111111115z21j1j916n21Y<202z31V@",
   "31G>202>31V~31J;202q31Ts31V002s2g17R111115211111111111111111111111115v21j100Wj81Fk94111k2F1h2H1H",
   "q814P1CT1DY1h1b1k1g11Kl115n11Bv819n91j2z81G@81J=81L>81T~11l2.11n1g21Mj23N11l2g17R111115211111111",
   "111111111111111115z21j1j916n21Y~81X=20000f191Fp94111k2C1Vn81h2H1HK1k2M14P1CR1ST1DW1RY1h1b1k1d11W",
   "g11Kl115n11Bq11X.81Gd91Jx21Lz118@11l1=119s91j2g91T~11l2.11n1g21Mj23N11l2g17R11111521111111111111",
   "1111111111115z21j1j916n21Y=202l41Vn41j202f1x91Ft94111k2z91Vn81h2H1HK1k2M14P1CR1ST1DW1RY1h1b1k1@9",
   "1W=91Kl115n11B>91X~919;91j2.91TdB1l1z81G@81J=81LgB18~11l2.11n1g21Mj23N11l2g17R111115211111111111",
   "111111111111115z21j1j916n21Y501jB1F901~21Vw102lB1Wg31Vy101l34M111g402v31KnB1X@201qB19=202sB1j2q4",
   "1k2;202vB1Ts31V*200~200:200y201xB1Wh300w200x200+200z20000Wj81FyB4111k2F1h2H1HK1k2P1CR1SY1h1b1k1s",
   "81Wl115n11B@B1Kv819x81j2=B1G>B1J>81T~B1L.11n1g21Mj23N11l2g17R111115211111111111111111111111115z2",
   "1j1j916n21Y~81X002j31Kl34M111<200>200002v51Lx51F00Qj81F:B4111k2F1h2P1CY1h1s81W.Bf17R111115211111",
   "11111111111111111111dC1Ll115n11Bv819n91j2=B1G>B1J>81T.11n1g21Mj23N11d61Kl21m2z21j1~81X204gC1J.Bk",
   "17D111811111521111111111111111111111111l21m2z21j1003jC1Wv51Lx51Fx101gCl1793111811111521111111111",
   "111111111111111+10000c1j81FkC4111k2l81Vn81h2H1HK1k2q814P1CR1ST1DW1RY1h1b1k1s81Wg11Kl115n11BnC1Xv",
   "819x81j2z81G@81J=81L>81T~11l2.11n1g21Mj23N11l2g17R111115211111111111111111111111115z21j1j916n21Y",
   "g401v31K00Qj81FpC4111k2n81h2H1HK1k2P1CR1SY1h1l115n11B@B1K=B1G>B1J>81T~B1Lg21Mj23N11l2g17R1111152",
   "11111111111111111111111115z21j1j916n21YsC1j2001q41k200Xx91FwC4111k2n81h2H1HK1k2M14P1CR1ST1DW1RY1",
   "h1b1k1@91WzC1K@C1X~919=C1j2.91TdB1l1z81G@81J=81LgB18>C1V.11n1~CVp11111111111111111111111111l297R",
   "111115c1z21j100Wx91FwC4111k2n81h2H1HK1k2M14P1CR1ST1DW1RY1h1b1k1@91WzC1K@C1X~919=C1j2.91TdB1l1z81",
   "G@81J=81LgB18>C1V.11n1l2g17R111115211111111111111111111111115z21j1y100002v31KnB1X=201sB1j2001~21",
   "Vz303~CVp11111111111111111111111111l2F7D1118111115c1z21j100M.C1V:C4111k2n81h2H1HP1CW1RY1h1s81W.B",
   "f17R11111521111111111111111111111111zC1KdC1Lv819n91j2>81Tl21m2z21j1dD1JgD1GjD1X900001;31X001=31X",
   "001lD1R~400008n81h2pD4111k2sD19vD1TxD1j1~B1L.11n1zD17007n81h2pD4111k2sD19vD1T~B1L.11n1zD17002@D1",
   "6=Dc1Z1111171111111111111111111111111;201n31L005s423Tv4g2011211111111111111411111211111111111111",
   "1111111111111111112121111111x43M11z41d2>D1,1001=41h2002~D2g1Z;D4M111002.D1SdFc1Z1111171111111111",
   "111111111111111002gFFM111811B11111jF1h2001lFFM111811B11111002.D1SnF4M111v100002.D1SqFc1Z11111711",
   "11111111111111111111111001z4FM111811B11111001sFFM111811B11111002.D1SvFFM111811B11111002.D1SxF4M1",
   "11002.D1SzFc1Z1111171111111111111111111111111002v41k2sFFM111811B11111002.D1S@FFM111811B11111002.",
   "D1S=F4M111002.D1S>Fc1Z1111171111111111111111111111111002.D1S~FFM111811B11111002.D1S;F4M111002.D1",
   "S.Fc1Z1111171111111111111111111111111002.D1SdGFM111811B11111001.D1S002.D1SgGc1Z11111711111111111",
   "11111111111111002.D1S;FFM111811B11111002.D1SjGc1Z1111171111111111111111111111111002.D1SlGc1Z1111",
   "171111111111111111111111111002.D1SnGc1Z1111171111111111111111111111111002.D1SqGc1Z11111711111111",
   "11111111111111111002.D1SsGc1Z1111171111111111111111111111111002.D1SvGc1Z111117111111111111111111",
   "1111111002.D1SxGc1Z1111171111111111111111111111111002.D1SzGc1Z1111171111111111111111111111111002",
   ".D1S@Gc1Z1111171111111111111111111111111002.D1S=Gc1Z1111171111111111111111111111111002.D1S>Gc1Z1",
   "111171111111111111111111111111002.D1S~Gc1Z1111171111111111111111111111111002.D1S;Gc1Z11111711111",
   "11111111111111111111002.D1S.Gc1Z1111171111111111111111111111111002.D1SdHc1Z111117111111111111111",
   "1111111111002.D1SgHc1Z1111171111111111111111111111111002.D1SjHc1Z1111171111111111111111111111111",
   "002.D1SlHc1Z1111171111111111111111111111111002.D1SnHc1Z1111171111111111111111111111111002.D1SqHc",
   "1Z1111171111111111111111111111111002.D1SsHc1Z1111171111111111111111111111111002.D1SvHc1Z11111711",
   "11111111111111111111111002.D1S;Fc1Z1111171111111111111111111111111006l115zH21m2+H221=H1L>Hg20421",
   "111111111121111111111111111121111111111111111111111111111111111xD1j1q303zH21m2=H1L>Hg20421111111",
   "111121111111111111111121111111111111111111111111111111111003l115+H4111k2~B1Lq303~H1L;H1F>Hh20132",
   "1111112111211111111111111111211111111111111111111111111111111111q301>Hk2013211111111111111111111",
   "1111111111211111111111111111111111111111111111q302~Hj2013211111111111111111111111111111121111111",
   "111111111111111111111111111>H1n2q302.H1F;Hj20132111111211111111111111111111112111111111111111111",
   "11111111111111111q303>H1L;Hh20132111111211121111111111111111121111111111111111111111111111111111",
   "1.H1F006n11BgJ21m2hJ221lJ1LnJg204111112111111211111111111111111211111111111111111111111111111111",
   "11xD1j1r303gJ21m2lJ1LnJg20411111211111121111111111111111121111111111111111111111111111111111003n",
   "11BhJ4111k2~B1Lr303qJ1LsJ1FnJh201311111212111211111111111111111211111111111111111111111111111111",
   "111r301nJk20131111121111111111111111111111111211111111111111111111111111111111111r302qJj20131111",
   "12111111111111111111111111121111111111111111111111111111111111nJ1n2r302vJ1FsJj201311111212111111",
   "1111111111111111211111111111111111111111111111111111r303nJ1LsJh201311111212111211111111111111111",
   "211111111111111111111111111111111111vJ1F005zJ19@J4111k2l115=J1L>Jg204211211111112111111111111111",
   "11111111111111111111111111111111111111003@D16=Dc1Z1111171111111111111111111111111>Jn101111121111",
   "111111111111111111711111W11111=104zJ19@J4111k2=J1L>Jg2042112111111121111111111111111111111111111",
   "1111111111111111111111111=104~J1L;J1F>Jk20111121121121112111111111111111111111111111111111111111",
   "111111111111111.J19=102>Jm2011112112111111111111111111111111111111111111111111111111111111111111",
   "111.J19=103~Jj2013211211111111111111111111111111111111111111111111111111111111111111>J321k2dK19=",
   "103gK1F;Jl201111211211211111111111111111111111111111111111111111111111111111111111jK19001>Jn1011",
   "11121111111111111111111111711111W11111t303~Jk1013121111111111111111111111711111W1111>J321k2v5d16",
   "S1111171111111111111111111111111=104>J1L;Jk20111121121121112111111111111111111111111111111111111",
   "111111111111111111gK1FjK19003gK1F;Jm10111112111112111111111111111711111W11111x5d16S1111171111111",
   "111111111111111111005nK19qK4111k2n11BsK1LvKg2041111311111121111111111111111111111111111111111111",
   "1111111111111111003@D16=Dc1Z1111171111111111111111111111111vKn1011111211111111111111111111117111",
   "11W11111<104nK19qK4111k2sK1LvKg20411113111111211111111111111111111111111111111111111111111111111",
   "111<104xK1LzK1FvKk20111111113121112111111111111111111111111111111111111111111111111111111@K19<10",
   "2vKm2011111111311111111111111111111111111111111111111111111111111111111111111@K19<103xKj20131111",
   "31111111111111111111111111111111111111111111111111111111111111vK321k2=K19<103>K1FzKl201111111131",
   "211111111111111111111111111111111111111111111111111111111111~K19001vKn10111112111111111111111111",
   "1111711111W11111t303xKk1013121111111111111111111111711111W1111vK321k2v5d16S111117111111111111111",
   "1111111111<104vK1LzKk20111111113121112111111111111111111111111111111111111111111111111111111>K1F",
   "~K19003>K1FzKm10111112111112111111111111111711111W11111x5d16S1111171111111111111111111111111006~",
   "B1L.K312k2cL12gL1h1jL1j1lLg20411111111111112111111111111111131111111111111111111111111111111111y",
   "306~B1L.K312k2cL12gL1h1jL1j1lLg20411111111111112111111111111111131111111111111111111111111111111",
   "111002~B1LcL4111k2003lL1k1nL1j1gLl20121111111111111111111111111111111113111111111111111111111111",
   "1111111111001lLn20121111111111111111111111111111111111111111111111111111111111111111111111y303gL",
   "1h1jL1j1lLk20121111111111111121111111111111111311111111111111111111111111111111111001gLn20121111",
   "1111111111111111111111111111111111111111111111111111111111111111110.B00Q31t104111k251s171;191y1C",
   "1p1F1=1H1v1K1c2M1.1P1@1R1r1T1:1W1<1Y1q1b1~1d11f2g11,1j11*1l11w1n11>1q11+1003s11d2v11@1x11=1002z1",
   "1t1@11<1004=11f2>11~1~11x1;11p1004.11*1d21v1g21=1j21:1005l21:1n21c2q21=1s21q1v21r1003x21p1z21t1@",
   "21,1005=21~1>21<1~21y1;21,1.21p1002d31y1g31x1002j31p1l31<1001n31t1003q31<1s31p1v31@1006x31c2z31,",
   "1@31;1=31t1>31f2~31p1003;31v1.31.1d41q1002g41~1j41<1001l41t1001n41y1002q41:1s41=1002v41t1x41<100",
   "2z41t1@41@1002=41,1>41~1001~41t1002;41>1.41;1001d51:1001g51,1004j51v1l51q1n51@1q51r1d100001s51>1",
   "002v51f2x51,1002z51~1@51y1001=51~1001>51>1R00Z03~51:1;51;1.51v1,400B02d61f2g61:1001j61p1001l61f2",
   "001n61:1001q61r1001s61*1002v61c2x61.1002z61@1@61*1001=61<1001>61~1001~61=1001;61=1001.61@1001d71",
   ";1001g71y1001j71~1001l71y1001n71;1001q71=1002s71:1v71;1001x71p1001z71y1001@71>1002=71p1>71~1001~",
   "71;1001;71*1001.71;1b00001d81t1001g81z1001j81t1001l81<1003n81;1q81p1s81^1001v81t1001x81y1003z81s",
   "1@81y1=81+1001>81;1001~81s1001;81;1001.81<1001d91q1002g91y1j91<1001l91f2001n91<1001q91t1001s91t1",
   "001v91*1001x91p1001z91,1001@91t1001=91@1001>91t1f100001~91t1001;91<1001.91:1001dB1w1002gB1<1jB1@",
   "1001lB1;1001nB1t1001qB1t1001sB1=1001vB1t1001xB1y1p400001zB1;1001@B1t1001=B1t1,100001>B1t1001~B1@",
   "1001;B1q1001.B1*1T00001dC1p1001gC1r1001jC1:1001lC1x1001nC1@1L00001qC1s1M00002sC1:1vC1;1001xC1t10",
   "01zC1r1001@C1:1001=C1;1001>C1t1001~C1;1001;C1y1f400001.C1q1001dD1y1001gD1~1001jD1t1001lD1p1001nD",
   "1@1001qD1,1001sD1s1001vD1,1001xD1@1001zD1=1001@D1t1001=D1^1001>D1=1001~D1p1001;D1,1d400001.D1q10",
   "01dF1@1001gF1.1001jF1;1001lF1<1001nF1~1001qF1=1Q00<400001sF1,1001vF1w1001xF1;1001zF1p1701@F1<1^3",
   "00001=F1c2<300001>F1t1001~F1~1001;F1t1001.F1p1001dG1~1001gG1~1001jG1r1001lG1~1001nG1;1001qG1~100",
   "1sG1:1001vG1:1001xG1~1:300001zG1t1J00001@G1@1001=G1;1001>G1t1K00001~G1t1l300001;G1;1001.G1y1n100",
   "001dH1x1001gH1:1001jH1r1001lH1~1001nH1y1001qH1=1001sH1<1001vH1:1001xH1~1001zH1r1001@H1+1001=H1t1",
   "001>H1~1001~H1<1001;H1y1001.H1s1001dJ1w1001gJ1v1001jJ1,1001lJ1<1=300001nJ1@1001qJ1p1001sJ1y1001v",
   "J1p1001xJ1t1001zJ1v1001@J1;1001=J1s1001>J1@1001~J1w1001;J1t1001.J1~1001dK1v1l100001gK1;1001jK1;1",
   "001lK1*1001nK1=1001qK1v1;400^100001sK1;1Y00001vK1p1001xK1:1001zK1>1f500001@K1~1001=K1@1001>K1y1~",
   "300c100N00001~K1=1p100>100001;K1x1>300001.K1r1001dL1w1001gL1@1001jL1v1001lL1y1001nL1;1g100001qL1",
   "p1001sL1=1001vL1=1001xL1~1r100.100001zL1y1001@L1t1001=L1c2001>L1t1001~L1@1001;L1r1001.L1;1001dM1",
   "r1.400400001gM1:1001jM1;1001lM1t1m300001nM1t1H00*300800001qM1t1001sM1r1001vM1p1001xM1:1001zM1r10",
   "01@M1<1001=M1p1q400001>M1f2001~M1<1001;M1,1S00.300s400t400001.M1y1001dN1s1v400001gN1=1k100001jN1",
   "@1001lN1t1001nN1=1c500001qN1=1n400*400j400001sN1t1001vN1;1+400600001xN1~1h400001zN1=1001@N1t1001",
   "=N1r1:400001>N1;1001~N1~1001;N1r1q100001.N1=1001dP1t1001gP1t1001jP1t1r400001lP1f2z400001nP1t1d50",
   "0k400001qP1t1j100001sP1;1001vP1<1001xP1t1w400x400001zP1t1~100h100001@P1:1m400c400001=P1s1001>P1s",
   "1001~P1:1001;P1v1=400C00y400;300"]

private def tsxPart2 : List String :=
  ["l400@400j300n+433c830g233<610133<610023<610133yB20t333kB10x133~B10020jf333^620033.910033kB10y133",
   "qC30l533qC40^633@810733*B10w133,620033w730T33>730R33w730f233w730s233w740*333w740<333w740>323<610",
   "033;B20033mB20033.530033>730d223c830g233lC20033~930k233~930l233kB10033.520033=B20833:920H33wB20H",
   "33=610033.910z133d820833*720033>620033f820833>630033~730g233>740;333>740,333.750=533n910533j8200",
   "33>610033=730k233=730l233;920033xB20f523yB20t333w811033g730k233g730+233+720H33~620033.620033.910",
   "+133h820033h830033.540033n820033n830033n840033:B30033:B40033:B50033nC20033mC20033nB20x333nC30033",
   "nB40x333pB70w933rB30>233rB30>520n+353<61003*B10w120jk123~B10053<61013w811123.520033^630X23=B2083",
   "3q930k533n740w433n750~533n750:533n760d733;B30033;B40033;B50033;B60033yB20t233qB20w333qB20z333~63",
   "0Y23^620053<61003kB10y123.530053j82003mB20023:B30023:B40023:B50023.540033m920633n920W33n730s133n",
   "740n333n740p333r740~333n750.433r750t533t750t533t760~633s820033s830m323n820023n830023n840033~B20y",
   "333<B10033yB20v233yB20v333pC20033>B20033zB20033:920+333wB20+333xB20g533wB20h533xB20j533^B30033lC",
   "30033mB30033~930m533~930n533~930p533~930q533pC30033kC30033tB30k233tB30l233tB30m533tB30n533tB30=6",
   "33tB30<633tB30p533tB30q533lC40033jB40>633+B40033vB40s433vB40:733vB40;733vB40,733lC50033jB50.733j",
   "B50c833vB50~833vB50:833vB50;833vB50,833jB60.833l830^120qJ23y910033w811120:j133x820023n910523,620",
   "023kB10x123kB10y123kB10023.910023q930k523h820023h830023*B10w123;B20023lC20023mB20023qB20w323:920",
   "H23qB20z323wB20H23~930k223~930l223qC30l523qC40^623g730k223g730+233p730s133p740n333p740p333s740~3",
   "33p740w433p750.433s750t533v750t533p750~533p750:533v760~633p760d733x510033*630033*640,233k721F33c",
   "720L33k731:133k731c233j720033c730r233k741f433k741h433k741k433k741l433j730:133j730c233k751w533k75",
   "1x533>C20033:720<220fy120..120+G20zD33z910023z910033y910053<61003kB10x153<61013~B10020rM20wL53^6",
   "2003;B20053,62003lC20023>610020jp120mN20<K20mM20hN53<61003w811023;920023j820023s820023s830m323*6",
   "30023*640,223yB20t223.910z123~B20y323<B10023.910+123yB20v223yB20v323pC20023nC20023nB20x323zB2002",
   "3:920+323;B30023xB20f523wB20+323xB20g523wB20h523xB20j523^B30023lC30023mB30023~930m523~930n523~93",
   "0p523~930q523pC30023nC30023kC30023;B40023tB30k223tB30l223tB30m523tB30n523tB30=623tB30<623tB30p52",
   "3tB30q523lC40023jB40>623+B40023;B50023vB40s423vB40:723vB40;723vB40,723lC50023jB50.723jB50c823;B6",
   "0023vB50~823vB50:823vB50;823vB50,823jB60.823k721F23c720L23k731:123k731c223j720023c730r223k741f42",
   "3k741h423k741k423k741l423j730:123j730c223k751w523k751x523m920623n920W23l830^133c920K33p820033<81",
   "0173<61003w81103kB10x123sC20P33^630033,630033n730@133^640X33^640033n740x433n740y433n750;553,6200",
   "3.620053^630X3~630Y53^62003~620073^62003~62003;B20073,62003.62003lC20033*910933*920k133*830030,x",
   "233^920t233^920v233^920033x710333x720N33t820033t830033t840033t850033x720M33,920033sB20033x730w23",
   "230dG20~<230+G30qJ30zD20pk120+q130;D30lK30fH30.K30^H30xJ30zM30=L20xJ20=L23~620043<61003*B10w133x",
   "820Z23.620030vr130pP30rM30wL43<61003kB10x143<61013~B10023=610043<61010qJ20~l123=730k223=730l243<",
   "61003kB10y130mN30<K30hN30mM20@m120tn120mp120xp120vp130>B23^630X43^62003;B20043,62003lC20030;*323",
   "~630Y33y510053<61013x820Z20jd323n730s143j82003mB20023n740n323n740p323r740~323n740w423n750.423r75",
   "0t523t750t523n750~523n750:523t760~623n760d733,510533;630@253+C1003@C10023p820033sC20P23,830033,8",
   "30023mC20023>B20023nB40x323pB70w923rB30>223rB30>523,630020k@220v@233+C20033dC10G30:s330ct330h+33",
   "3^820k333^830^333^830,433^840m633^840s533^850r733^850s733^860t833^860v833^870g933^870h933^880@93",
   "3^880^933^890cB33<810033@C20033d630g120.l123x510023p730s123p740n323p740p323s740~323p740w423p750.",
   "423s750t523v750t523p750~523p750:523v760~623p760d733r520433j920033l920633r530Q33r530033:530033;53",
   "0f133j930033r930h233t930j233r540x233r540y233:540033;540f133t940~233:840^333k940m433r940q433r940r",
   "433v920033r540v433r550z433x950@433p950033:850s533s750~333k950y533k950z533r950*533v930:133v930033",
   "r550^533k950,533x960c633s760t533v760t533k960:633v940,633v940c733k960f733k960g733v770~633j970d833",
   "v950,633v950c733k970f830yr130xf323>820033>820023=730m233=730m223=730n233=730n223<740s433<740s423",
   "<750<533<750<533q830k223q830k233r820H23r820H33r830p223r830p233sC10223sC10233;830023;830033;C20P3",
   "3@720D33@730>133.830033n720C33f820J33m830033n730*133r730=133@730<133j830033+730p233+730q233,6400",
   "33n740@333r740=333t740=333@740:333l840.333+740t433t750r533,720033;630d253<61003*910933@810033*93",
   "0.233*940<433*950l633y830=233y840~333y840=433y850f633y850t533y860j733y860~633y870g833y870h833y88",
   "0c933y880d933y890x933y890y933y8B0,933h730030st330qv333~630033.630033~640Y33~640033.640033g820033",
   "dD20033jD20033cC30033d720023d720033cC40033d730023d730033cC50030ss130ts133wC20030f:330x;330*<230=",
   "<230=730^730~s130:s130kP30lP30~q330:q330cp330fp333yC20033zC20033,C20033kD20033tC20033vC20033lD20",
   "033gD20.630tc230yy130:s430^<330,q430.q433^710130y830,h530nC30ry130<s430*q430=q420.p420mz320rj330",
   "n+330:p430;p430sF30dd130fd120nh120ry530^*330s630jf330fy130cr330s830kZ30wH30xF30hc530wB20rJ20@520",
   "sJ30dz530nc230=F33^710030*H20*p520k>230*n130qG30y620fG30fG20pG30qB20kG30kG20j520<t420dG20rG30rG2",
   "0lG30mG30zm430+m430vC20nG30hG30jG30sG30gH30j>230ns130c720<n220,l130,z330gZ30hZ20@G20s520;G30;F30",
   "ds530r630ms130.620*n130k330zR30q>330l>220l>230t620hn520cr320+p520@p520lq320m>230=630..130@s120=H",
   "30hq330p+320qZ20.x130yp530xZ53@81070c123@810753@81070@s130yZ30zZ30zp553<61010t643<61010<s430^D30",
   "j920vn420nZ30gG20ps330ps330cC20tF20zg120~P20tq520.>120+D20t520@D30*D30h<230mF20cc230lZ30mZ30pZ20",
   "ns520p320>=153<61013@810743<61013@810730wK30t820zy230yB20.D30.D30>D20zk120pR30=t120lF20mK30mK20^",
   "420gF30gF20f520vK20xr320gq330jn520kn520ln520mn520xg120>P30hk120;D20qK30qK20n530xR20<m420+h320*r3",
   "20nz320nF30nF30rH20lK20yf130ps130gr120<D20hF20xK30xK20k<220w.420b20y.420ls420ms420z.420y920pB30t",
   "f130vf130xf120;@520>@530ks130kk120l320^=130jF30d@220hH30hH20rK20zh320yr320kF20qH30sK30mL30gJ3042",
   "0t.420v.420ks420x.420>H30dF30~J30:M20lH30lH20k520tK30cM30dD20ly230fF20fH30nK20cL30cL20~H30~H30c.",
   "120vs130q@220.d220gf330+;220v^120cf220vn230pF30,D20zJ30zJ20+M30+M20sH30sH30pK20lL20<L30<L20fJ23w",
   "811130z820^J20~M20mH30yK30~K20gL30gL20p520.L20,H30,H20l530g320wg120<P30kC30fZ20*J30*J20m520=M30=",
   "M20q530nH20.K20~L30~L20r520^H33=850@730<l120>N20:k120=g120<g120;P20w320>l120jP20>g130^>130j@130^",
   "@130d720zM20pH20nL30nL20hJ30hJ30L20:J30:J20;M30;M30jH20hL20dM30dM20.H30fg530kw430y*220=J20<M30kH",
   "30jL20:L30cJ30~<230*p530;b20,F20.G20fs420wf130xr330+r330gq330sn530tn530*.430kn530ln530mn520cG30w",
   "C30<J30>M30tH30sN20kL30;L20dJ33=840w620>J20^M30dL20,L30:H30x630*f130^d143w81110=H30+J30@M30kn230",
   "fL30>L30;H30mf143w81110,F30gc330g530@J30*M30pL30zL30^L30jJ30yJ30~d130^f120j>230.d330@>130dC53<61",
   "000xq543<61000mf130;J30vN30,M30lN30fM30qM30;c530Y20lZ20mZ30hr330fj220fj220pZ30c@220,620x820:K20<",
   "s430d+330xz220my220m+230jz520hz530kr430lr430.723+720H20xl230:;220;p230vX20zp530,n530.n530x*230s7",
   "30<;220mf130d=333=860*820^n520w853<61010sF20m930g220^G20pp220sM20w520rN30tM30d+520xL20+520yL30qN",
   "30yz530;j120j320y*130@g130gd130vk420rc120tb20,b30*r120sB20dZ30dZ30>c130nd143<61010ry553<61010*H3",
   "0xj120cg120p430h520jj220g620rm130c130w130@C30m243<61010<B30~C30sD30lD20nj120g420sv220ph220f330n8",
   "30@F30fc530~*330kz330lz330rr330vy530+@530*m530;z230f+530sy530ty530jq330vB23w811030f@220>c230p:22",
   "0z@120,>120nn220+@120+z220g@230f830=f130wc230+f133=830^430v>330sB30vZ30g820.,130pp143<61010d@230",
   "rs420:D43w81100cG53@81070^>153@81070j@153@81070^@153@81070p<153@81070<p273@81073yC20X3zC20Y20sc1",
   "23d820823*720023f820820vb30zp430rs530ss530^c130<f130pd130>f153<61010s653<61010d743<61010cr353<61",
   "010^*330<k120wk120+g120:P20r320wz520<B43w81110:K30*Z20mz520<z530dp120^g120,P20*w230kR30+820,K30f",
   "D30:*330Q20qg230^B30pf130.820j+330d530dp430X30hs330xm120pm120:g120cQ20+320wQ20dh120nN20v520fQ20t",
   "N30,G30k@520qj120>K20y520yQ20^K30pN30pz520*j120,Q20@h120jN20x520lQ20kN30vM30^+520<j120nM20z520cR",
   "20pM30gK30^z520x320dp130f+330;r330c.430.530d.430q:420j+530@r320kf120=d130+k330>*230p<130tp230,s2",
   "53yC20X3zC20Y30@g533yC20X30@+330*830sf120;n530vG30,b30qn430rn420tJ20hK20wM20+L30:l120=320,m220q4",
   "20;r220l420xv220z420=w220x430d830N20rt130tt120ns430ps430qs420rn520ds330@z520+z520wJ20dH20kK20yM2",
   "0*L43<61000>B30:F20lz220vh220^n230rZ30xq520ft430ht430=830:r130:B30dp530,s430rc52220k830:630fc230",
   ":<330>p120wp120=j120.Q20y420pf320:b20;t530:m130+n130qp130^p130<p120:r330z<330j+230ls520ks530<n52",
   "0=n530l+520k+530<630tq430vq430xt143w81100>H30<r130j@230s@230<*230=@230^*230>k330j@330qp430g~330l",
   "s320xj320+z320@c230ys423x820Z30.Z20zF30nf330<b30>b30~b20s@520:t520wG20lJ20+K20rL20hM20xH20cN20.J",
   "30d230kr330w,120m,120w,120gr330s330pS30rl430qf320qf330730>530d~120cp120dr330q330nS30nb30pb30vs52",
   "0:=130yk430g~120g~130rb20sb20xs530cp130~t120fp120jr330t330qS30lc130mc130fw520;s130xl430;t120;t13",
   "0pc120qc120hw530fp130@d320~r120@d320p*120p;220l@120q*120j<120kk220lk230zr430kl530;;430*C30mC30:C",
   "30tD30mD43w81100,K23c920K30S43c830g20j520:d230t:220~n243c830g20f543c830g20m530cF20cg230+:220;n22",
   "0qh220=n220hg230>;220.n223*910930k*230z*243c830g20q530m@330z@330*@330;@320@h220:n230.@330g*330h*",
   "330m*330p<330v<330w<330x<343c830g20k530g=330p=330t=330v=343c830g20n530+@343c830g20p543c830g20r54",
   "3c830g20l530@830h@220+y230w@330vn530,.230wn530.d530qY33=820j320qp520df320kq330x>333=830j333=840^",
   "430dt420dt420m+330>h330k^330m^330n^330p^330k~330l~330.<330yn430rf130tB30yF30fk120;f120k930c220z3",
   "20<G20x^120dl130=h120wN20jh120lg120mg120zN20=220:N20.N20cP20*N20vP20wP20ng120<h130;220hq320cn120",
   "d>320>h130m;220@r420rf320^b30*Q30;T30+V30@V30^V30qg430fW30mW30pW30qW30xW30yW30<W30:W20y^130630z^",
   "120rF30kn420jn473<61013@81070t663<61013@81070<s420ky220=D30=z330p+530@@520*z320f~120vr420qb20t+5",
   "20ws530~t520:t120=r420nc120x@520gw530vm320gp120lr320wm330v330rS30pr430qr430+c130@c130lx520lj330z",
   "l430xm320xm330=c120<c120nx530gp120hp120tr330hd130jd130ld120md130hp130;=120h~130,s120,t130zd320^r",
   "120zd320h*120l;220s+120j*120f<120ck220dk220vF53<61003@810743<61003@810730>q323x820053<61003x8200",
   "20=Z30m.420+F20xG20mJ20@K20sL20jM20yH20dN20cK30@d130=Y30.b30m+130vp530vT20jg220~g230.;220fp220zl",
   "230f,220,p230>g430xY30:+330m<330q@330>@230s*230+*230n@320+n230jl320py230zB30r@220=y230^@330cd230",
   "~y130+Z30zd130xj430wb30.j433=850w633=860@730+Y30:d130yc530qd130.r130fs130hs130^Y30my530ny533z710",
   "030>H30yj330fp530cG30cV30,T30.T30>V30=V30<V30r+530,d530vf230w+130>j430lk420>^120:530^s130520*d22",
   "0l920>G30mr330<j220<j220p820q820n320*520~f130k130mq330g^120h^120g^120~g120.P20:f130*130fr330rz12",
   "0sz120rz120,f120gg120xP20^h120+Q30sv430v*330jy330rs130g720^s230qs130f720~230zH20lj220zp230830mj2",
   "30+p230+<330ry330:h530p@520n@530,+520;+520*c530sz520rz530;z520:z530g^230h;130qg330^w130wn320>r42",
   "0*c120z@520mx520~r420kd120<@520v+530c@330v@330+:130@t130f>230td330n:430tn330wd320ym330yd320>r120",
   "yd320=@120y:220dy120<@120z=120:j220;j230+d320,r120+d320r*120r;220w@120s*120y<120hk220jk230s<130^",
   ",153yC1003zC10030;h353sC20P1^<330,v430<B30<Z30rP30sP30@:130q;130pg330xg330qw130cx130vn330=n330=*",
   "330<*323@720D30ty330yl530nw530p@130*d123@730>123.830053g730k23q930k553g730+23q930k530.r323n720C2",
   "3f820J23w730T23m830023^630023n730@123n730*123r730=123@730<123j830023w730f223+730p223+730q223w730",
   "s223^640X23^640023,640023n740@323w740*323r740=323w740<323w740>323t740=323@740:323l840.323+740t42",
   "3n740x423n740y423t750r523n750;520;d230sk330kk530~@130^s530cm120rs220ss220t@230cc130^X30cj130lS30",
   "=S30kT30lT53;630@23>730R20dg220:g223*920k120;g230<c230=930mf230.n430x=130lm130w^330ts330.930nm13",
   "0D30yX30zX30n130dB20*g230^:220dp230+X30r130s130m*220kh230g,220hp220*l230h,220.p230>X30v130~*230v",
   "*230@*230zh430cj430dj430pj430@y130<s130th130kh430yh130vY30>,230ft230.g330,q330>130:130;130.130gB",
   "30jB30v230y230z230@230lB30nB30^930:920^v220qy220vy230<@220:y230,@330c*330l*330q*330w=330y<330w@2",
   "30gg530lw430hg530mw430pY53dC10G0v>320sZ30cf530fv530^l530y,430gt430@Z23h730030dl533.B10533.B20:13",
   "3.B30+633.B40>733.B50^830py533=820533=870*830fl530+d130=l530c>320kq520gv430=q530wk430ql430wl430<",
   "v430*G53,51050;f530xb30lY30<l533=870s930hY20n<230;d130j>330;p530f.430sZ30sx530rd130*h330x+330pq5",
   "30=B30wZ30km130:p530h823s920p433s920p430,+233,520c130;B30,B30;w423fD20p433fD20p430dh430.g430ch43",
   "0yh430wh430xh430q+530;j330xT30+B30~B30q^330wx330h:433q710030gm130hm130dv430lq530lv430tV33+830*23",
   "0^>230d=230f=230rh130sh130vh430j:130gg330q^230r^230:v130ln330~,230:,233+51002533q500030G30~630.^",
   "130k,130gj120xN20zh120pg120qg120+N20<220;N20dP20fP20=N20yP20zP20rg120hj130lj120yN20+h120sg120tg1",
   "20@N20>220,N20gP20hP20<N20@P20*P20vg120mj133rC20053rC2001<l143rC2001>N23rC20043rC2001:k143rC2001",
   "k<243rC2001=g153rC2001443rC2001zD43rC2001t.443rC2001xr343rC2001<g143rC2001gq353rC2001zD43rC2001v",
   ".443rC2001w.443rC2001ks453rC2001r653rC2001xR43rC2001+D43rC2001x.443rC2001b43rC2001y.443rC2001ls4",
   "43rC2001ms443rC2001z.443rC2001y943rC2001pB43rC2001t553rC2001=653rC2001zm453rC2001+m443rC2001zh34",
   "3rC2001;P43rC2001yr343rC2001w343rC2001@D43rC2001hn553rC2001hq353rC2001*D53rC2001,z353rC2001..153",
   "rC2001jn543rC2001..143rC2001cc253rC2001^<343rC2001>l143rC2001jP43rC2001>g143rC2001kn543rC2001ln5",
   "43rC2001mn523z620033z620023z630g633z630g623y630<233y630<223y640k733y640k733q510033q520030qQ30rQ3",
   "0:@130*730>730m*130,x130^t130qx230rx230yx230~Q30tx230;Q30ym120^N20wl120;g120cm520,g120dm520.,420",
   "fm520dQ20*320zm120mP20.g130+=130^m120~N20=l120hh120~m520gh120gn520q.420:m520hQ20^320~m120nP20ch1",
   "30st130q,130t<130*,130~,130.j230gk230^p230j830w<120=d230nk120.f130f220@320s~120t~120320nl120:f22",
   "0;f220.f220@g220w^120230=m120*m120fh120gQ20>330lp120kp120pj120xQ20j430rp120np120rj120zQ20m430zn1",
   "20vn120*h120mQ20r430~p120yp120>j120dR20+430zj120kg120p930h330l220f420:G20:730qr330:,120,,120:,12",
   "0r<120h620qk130vm120jg130k220kt220yp220pn130ck120f920y320*F20v820j^120=520cl130gl120+p120^j120fg",
   "120n930j220fR20s420~G30pr330lt220dt220lt220kg220m620mm130pl120hg120,320=h220c620qm130;h120h920yG",
   "20.@120yj130sl120dg120q930h220h420+H20<830nr330*p220xp220*p220@j220j620tm130ln120r920<420nJ20~s2",
   "20q620;n130tk120s920<320dK20>820d.120<520xl130*l120t920k420*K20^820>m220k620>m130;m120v920v420tL",
   "20~820~r220n620xn130@l120x920n420fN20;820<m220l620<m130,m120w920w420kM20:820:r220p620yn120.F20~D",
   "20vJ20cH20xM20jK20@L20;K20<H20,h120pQ20=P20sj120sn120ym420kz320jj120rr320@j320@Q20:z320+P20kj120",
   "f+520sy520ty520tf120vf120xf120nf320<b20>b20~t520~b20gc220^230.v430s*330gy330w*330ky330<>120rp520",
   "sp530>@130h@130n<130sp230;s230kn120jn120mh120kQ20;330<730;730gs330hn120gn120kh120js320lh120ks320",
   "jQ20:320mn230:n120~n120.h120vQ20d473+C1003@C1000^>273+C1003@C1000gg333@C10020<h320*c220:230;*133",
   "+C10030=s130tY30<,230ct230:g330;q330@>320<d220.230wj130vh130xg430sm130+j130rk130yl130fj120x,130v",
   "k130+m130@j130yk130zl130+l130>k130+S20,220>d220c320,f220d330*p120@p120~j120>+320dk120^+320gR20t4",
   "20@w230m130p130q130t130<130^130~130,130t230w230x230+230<n120=n120~h120sQ20.330^n120>n120:h120tQ2",
   "0c430;p120:p120,j120hR20@420<w230dn120~320jn230mk120lk120yg120^P20m320~=130y,130fq120dq120sk120m",
   "R20=420wx230zq120yq120xk120nR20>420zx230*q120@q120+k120qR20~420+x230<q120=q120@k120rR20:420@x230",
   "^q120>q120*k120sR20;420*x230cr120.q120^k120vR20.420<x230:q120~q120=k120tR20,420=x230fr120dr120~k",
   "120wR20c520>x230;530f633m620C23m620C20xt430=Q20;z330^Q30:Q33m630p123m630p120<t520>t533v610023v61",
   "0023d630g120l130vq530s>233l640g323l640g330zV33+620C23+620C33+650q723+650q733+660n823+660n830<s53",
   "0v~130cv530zf330lw530lv130qx530<m333^510023^510023r520433p620023p620033q620023q620033r620023r620",
   "033s620023s620023j920023l920633~520023~520023r530Q23r530033w631S23w631S33z530V23z530V33z530023z5",
   "30033n630b23n630b23:530023;530f133f630h123f630h133h630j123h630j133k630n123k630n133m630q123m630q1",
   "33p630r123p630r133q630r123q630r133s630023s630033t630023t630023j930023r930h223t930j223r540x223r54",
   "0y233z540z223z540z233z540023z540033z540x223z540x233z540V23z540V23:540023;540f123t940~233d640:223",
   "d640:233x620023x620033h640;223h640;233@620C23@620C33m640h323m640h333p740s123p740s123:840^323k940",
   "m423r940q423r940r423v920023r540v423r550z423x950@433z550z423z550z433z550z223z550z223p950033z550x2",
   "23z550x233c620023c620033x630023x630033l650g323l650g333p750n323p750n333p750p323p750p323:850s523s7",
   "50~323k950y523k950z523r950*523v9"]

private def tsxPart3 : List String :=
  ["30:123v930023r550^533p750w423p750w423k950,523x960c633z560z423z560z433g660k623g660k633p760.423p76",
   "0.430l^223s760t523v760t523k960:623v940,623v940c733p760~523p760~533p760:523p760:523k960f723k960g7",
   "33g670m723g670m733g670n723g670n733g670p723g670p723v770~623j970d823v950,623v950c733p770d723p770d7",
   "23k970f833g680k823g680k833g680l823g680l833g680m823g680m833g690f923g690f930*;130yg330qx130<n330m<",
   "220q:220r:233j650h623j650h633j650j623j650j633j660l723j660l733j670j823j670j830n*120g<120s;230s~22",
   "0pd320v;230+s120ft120w;230m,220dj320q;230+j320pz320x;230yh320vr320y;220x:230,>230>@330z:130p;130",
   "ng330*t130pw130g>230sn330vd330p:430*n320d^120mt130y=130qt130p,130@,130,j230fk230*d320ds120*d320t",
   "*120t;220x@120v*120+<120mk220nk230>p230*g130v<130cj320ws120cj320^^120mc320<=120~^120pg220<s220>s",
   "220pf120:p543kB10x10kg553<61000fv543<61000pf153<61010.753w81103kB10x143sC20P0tj373<61003kB10x13x",
   "820073<61013~B1003x820Z30cb30xr130n~130zr130gv130+r130*m330@r130@*330tP30>;130@g330tx130~n330>*3",
   "30y@130=r130*@153;C20P1jf343;C20P1jf353;C20P1f@253;C20P1<r153;C20P1yB53;C20P1:p453;C20P1;p443;C2",
   "0P1>c253;C20P1yp553;C20P1p:253;C20P1vk443;C20P1z@143;C20P1,>143;C20P1nn243;C20P1+@143;C20P1.>143",
   ";C20P1<n243;C20P1+z243;C20P1g@230*y130;r130~z130~730cs130,730<Q30gs130>Q30hX30js130jX30~j320~j33",
   "0:>120yc220;>120zc220ln220+v220@v230lm320lm330;@120rh220c~120sh220>n220nw220pw230qm320qm330k@120",
   ".h220l,120cj220lp220qw220rw230sm320sm330q<120yj220v,120zj220np220sw220tw230tm320tm330vp220*j220+",
   ",120=j220wp220vw220ww230dp320dp330.s220^j220>,120~j220@p220yw220zw230~F30zl530+l530cs320cs320,r2",
   "20hn220.r220zv220^x220~x230vl530.v530cw530jx530kx530wl530@l530vc130s@143d82080j543*72000j543f820",
   "80j530V20hs220js220l@230@k320ts220vs220y@220z@230c*130lk530mk543d82080f543*72000f543f82080f530fl",
   "320@s220*s220g*220h*230*j543d82080m543*72000m543f82080m530l>320l>330fs353;630@23>730d253;630d23>",
   "730d230*:220fg230=:220x@253*91093kB10y130;:220>g230,:220f*253kB10y13*920k130=j530nk573<61003*910",
   "93kB10y130zb43:720<20xJ53~62003;B20053.62003lC20030xk420xk430pg443d82080q543*72000q543f82080q553",
   "<61003@810043<61003@810023@810030xd230@n420@n433zC10020@y233g910t130<s320<s330+f520ls220xn220ms2",
   "20<v220.x220cy253,63003*830043,63003*830023*830023*930.233:630d220<y220rz220~y223*940<420;y230~:",
   "230c;220.y223*950l620dz220hh230d;220gp230f;230g;230j;220fz230@X30=X30t*220gz220:h230k;220cp220hz",
   "220nh230j,220jp220<l230k,220cq230w*220jz220sz220tz220vz273<61003*B10w13x820030:*220wz243d82080k5",
   "43*72000k543f82080k520mz220nz220pz230**220qz243d82080n543*72000n543f82080n530tT30*+320*+333yC100",
   "20*v220fs220=v220^w220ry220sy230=*220,d230w:220s^120t^120tn220@@120n@220p@233z830*230dW30cW43,62",
   "003.620043^630X3~630Y43^62003~620030<g430^h430>h443d82080p543*72000p543f82080p543d82080r543*7200",
   "0r543f82080r530>F30>s343n720C3n730@153n720C3n730@133g920q343n730s13n740w453n730s13n740w443n730@1",
   "3n740x453n730@13n740x443n730*13n740y453n730*13n740y420~@230~k320~v230:k320,@243n740n33n750~553n7",
   "40n33n750~543n740p33n750:553n740p33n750:543n740@33n750;553n740@33n750;530pl320dw230ql320p*230xl3",
   "20hw230yl320r*243n750.43n760d753n750.43n760d743:720<20=L30zG30lf343d82080l543*72000l543f82080l53",
   "0pJ30=K30vL30lM30@H30gN30fK30dl330kl330nl330vl330*l330=l330<l330>l330:l330;l330,l330dm330fm330gm",
   "330hm333;C10023;C10053;C1001,x233;C20l323;C20l353;C20l31fy230dy220+s523y830=223y840~323y840=423y",
   "850f623y850t523y860j723y860~623y870g823y870h823y880c923y880d923y890x923y890y923y8B0,930hy230gy23",
   "0sx230vx233v820C23v820C23;C20P33;C30l323;C30l320q^120r^120q=120*z230<:220*^120=^120@=120@@220*@2",
   "20xy230l*220cz230.k320zs220+s220.@220c*253sC20P1vk420:x230^530m@230v:220rn220sn230hV30r^330@:220",
   ",n220<^120:^130sW30vW30^W30~W30~530jh430^k430gj430jj430rj430sj430,530d620wy220>y230>:220gg220=g2",
   "30:@220,y230::220<g230.:220^g230h;220jh220lh220mh230*k320>v230=k330^k330;k320:v230,k330cl320;v23",
   "0gl320,v230hl320.v230ll320cw230ml330rl320fw230sl330tl320gw230wl330zl320jw230+l330@l320kw230^l320",
   "lw230~l330.l320mw230cm330.g520kr530ss420n:220..230jg530nw430ll530,;430ml530.;430qF30=r530<r530~r",
   "530,r530~l530z,430:l530+,430tG30rt530st530wt530zt530kJ30zv530+v530=v530^v530zK30^w530~w530,w530d",
   "x530qL30,x530.x530fy530jy530gM30vH30.M30,J23<810133=810530ys330fc330z:220z:230hc330jc330;s330kc3",
   "53kB10x13h730030pc330qc330dt330rc330ft330sc330nt330tc330pt330vc330yc330tt330zc330vt330+c330cv330",
   "@c330dv330*c330mv330=c330nv330<c330~c330rv330:c330dw330;c330fw330,c330xw330.c330.w330fd330hj320h",
   "j330l<120l<130sd320sd330ht120ht130*y320*y330sr320sr330lc330^Z30*430nc330wc330xc330>c330^c330cd33",
   "0dd330gd330hd330nl530c,430np530pp530dd223^920t253kB10x10kg533.B20533.B30:133.B40+633.B50>733.B60",
   "^830:y130yj430ck430cf330hp530.s420hv430cr530fc130;l530@,430sh330vh330xh330=j330:j330hk330mk330qk",
   "353*C2001.853*C2001>h333*C20043*C2001j+323^920v230tw430kp330tp330gp330rp330yp330<p330nf230pf230q",
   "f230rf223^920030np430pp430,*343.C20g41ps353.C20g41j933.C20g453.C20g41ps330mg230ng230gt330ht330jt",
   "330kt330lt330mt330wt330xt330yt330zt330+t330@t330*t330=t330<t330>t330^t330~t330:t330;t330,t330.t3",
   "30fv330gv330hv330jv330kv330lv330sv330tv330vv330wv330xv330yv330zv330+v330@v330*v330=v330<v330>v33",
   "0^v330~v330:v330;v330,v330.v330cw330gw330hw330jw330kw330lw330mw330nw330pw330qw330rw330sw330tw330",
   "vw330ww330yw330zw330+w330@w330*w330=w330<w330>w330^w330~w330:w330;w330,w330cx330dx330fx330gx330h",
   "x330jx330kx330lx330mx330nx330px330qx330rx330sx330:c130n+130p+130q+130r+130>+130^+130@j430*j430=j",
   "430<j430~j430:j430gk430hk430jk430kk430nk430pk420zn520g<230@h330kc230,*230+^130:Z30;Z30,Z33=92003",
   "3<920033>920020j<230sj330my130d*120p~130t+130<<220q,230nj230xs120hv130z,130t~220;g330>j230=p230m",
   "t230;,120wy530~d330,<330g+330c930k>330q+353w81100cG33+910B30s+330r>330v+330~>330=+330:h333dC20~1",
   "23l710730tk333l710730mf530^F23s920n433s920n433hC20d533hC30z633hC30*633hC40~733=880s953>C2001gG30",
   "^@530~j530hl530>l530,l530.l530<l430n<330;l430q<330xl530@l430@<353w81100>H30>l430*<330.d130km430<",
   "<330mm430><330lc230zz230s>330gd220z;230vj330vj430fq520fq530cv420cv430^>330:>330>T33@920B33h92003",
   "0h^323l710030vk333l710053:C2001x+333:C20053:C2001tB30rY30g@330rf520rf530+^330@^330yV30fp430cw430",
   "~^330,p130qP33hB10030mg533gC20030wg520wg530p~353xC2001pq533xC20053xC2001=B30t~330x~330~~330.p130",
   "j:330k:330p:330cq130q;353jD2001wr123fD20n433fD20n430y;330*;330>;330y.330=.330<.330+d430~d430=f43",
   "0.f430py130;y120;.230wj330;j430yY30:~130cl430gq130;~130hl430hq130ll430jq130ml430nl430pl430@Y30+t",
   "130kq130,f330lq130mq130<Y30d>230nq130+v130pq130qq130~Y30rd330rq130fn330sq130tq130;Y30m:430vq130*",
   "*330wq130xq130.Y30dn330,z230:l430,l430cm430dm430td130fm430gm430hm430jm430^l430.l430k+230nm430pm4",
   "30vj130~s430kp533f721F23f721F20,t430qd230fd530ws333,520d130w>230g^333f731:123f731:123.C10;133.C1",
   "0;133f731c223f731c253x71030wX30nV33=820d133,B10s330~>233f741f423f741f433fC20033f741h423f741h433f",
   "741k423f741k433f741l423f741l430>z230,V53x71030>Z53x720N0xX30hW33=830:433=830>233.B20d133gB20033h",
   "D20053hD2001vZ53hD2001g~323l730733l730723l730033l730033f751w523f751w533f751x523f751x553x720N0db3",
   "0hb33@B30n633jC40p633=840r633=840t633hC30y633.B30@633.B30>223m720033m720030>W33=850v733=850z733j",
   "C50+733hC40*733.B40=733.B40<733hC40^723m730033m730033jC60p833jC60r833jC60s833=860y833=860@833.B5",
   "0=833.B50<833hC50>833jC70k933jC70l933=870n933=870r933.B60t933.B60v933jC80z933jC80+933=880<933=88",
   "0:933.B70;933=890fB30:w230g.420g;430xz130pj530~g430z~130<k453x71030,X30th430k:130c+230=h453x7103",
   "0dc153x720N0.X30.h453x720N0gc130qj420<;430zj430;k530=f330tl430hg320j,430dk430rl530qv130yl430;v13",
   "0:m330+l430mn330*j330zy553x71030mY53x71030,d153x720N0nY53x720N0df130;m430,m430>S30~S30:S30=h330,",
   "S30.S30wT30zT30yT30@T30*T33+920m153+C2001t833^C20053^C2001qn433~C20053~C2001rn433f920v133dC20.13",
   "0+s353>C2001cF30qV30pV33zC20Y53wC2001hs333@930d333f930r330h+230>>233dC30d430m~333k830033:C10053:",
   "C1003hD10030=G33cD20c553cD20c51~B30gb53dD2001wZ30j^230wp430xp430<@323s930+533s930+523s930@533s93",
   "0@530rq330sq330=p430<p423fD20;653fD20;61qp433fD20;633gD20:130yq330zq330mb53=C2001=p433=C20053<C2",
   "001<p433<C20033@B50q830+q330@q330gq430hq430ng430hs530rg430sg430:g430;g430=d130h:130j:430l;130=b3",
   "0wq430xq430fg330tg330kc130<q430>q430kf130~v130;w130zc130cr430dr430kn330zn330cd130mr430nr430rr430",
   "sr430tj330yd130gf130jf130lf130nf130qf130zf130@f130c830~.430:.430xS30;.430yS30l+320.n530jZ30kt430",
   "^j330xc230v630vt430xn430y>330y+330*B33t520030~h330++333v510530jq533w510030ff320mq530wd230kk330lk",
   "330yd253yC2001kn253zC2001wc230w630~+330^d230rk353@C2001n830,n433@520V30h@333v520:133t530030,h330",
   "^v430xf530yf530hf333,530>233,530^253,C2001;633=820c130*V33h930053kD2001qw430^z230.V30*=130sY33t5",
   "40053tC2001<k330zg530+g553vC2001.h330;f530,g533=830~433~830^333=830;433=830^233cD20v130.>230j=23",
   "0c^230k=230n=230d^230p=230s=230f^230t=230nW30~z230tW30:z230wW33t550033=840q633=840s633=840v633~8",
   "40s533~840m633=840x653lD2001tX33lB30053gD20.61^+233d960h733=850t733=850w733=850x733=850y733~850r",
   "733~850s733=860w833=860x833=860z833=860+833~860t833~860v833=870j933=870m933=870p933=870q933~870g",
   "933=880*933=880=933=880>933=880~933=890.933=890dB33=890gB33=8B0hB23cC30023cC40023cC50020@@530vx3",
   "30zy130z630t*330mq430g:430tC30=z130yx330zx330<z130+630^z130+x330@j530qq430kX30tb30vb30d+230<h430",
   ">s130zY30lX30f+230hj430g+230kj430*h530@630hy330=h530<h530*630cl530mX30wY30*Y30=~230v^230<~230w^2",
   "30z^230>~230+^230=^230^~230<^230nX30tl530pX30rc130sc130^,230>Y30qX30*l530rX30ht230:Y30d:230.,230",
   "f:230c.230g.230g:230h.230l.230h:230m.230sX30nh330,Y30.q330cZ30l830hm530.*330=130<d130m830;m530s2",
   "53w81100,K30rB30zS30g>330jp530hn430r+330;930hT30jT30@z230dm130fm130sT30rT30*>330gq533<510530vd23",
   "0+T33+920l130lC20c@333dC20,130wf230lV30kV30mV30rV30sV33<520:130wV30vV33>520033@930c333+930f330v<",
   "230w<230y<230z<230+<230@<233dC30c433dC30j430hl130jl133v530+430kW30jW33<530*433<530+430.B33@940>4",
   "30g=230h=230l=230m=230q=230r=233cB20d133fB20033dC40v533w920c133v540.533<540d633<540.530=Z30kb33d",
   "B30>230.z230ph130qh130=g430*g430x+130nh430mh430ph430m:130n:130s:130t:130v:130w:130wh130xh130*:13",
   "0=:130<:130>:130::130;:130c;130d;130^j430x,230y,230+,230@,230*,230=,230ql130rl130s^230t^230x^230",
   "y^230@^230*^230mk430.v130cw130hw130jw130kw130lw130qn130rn130rw130sw130tw130vw130yw130zw130*w130=",
   "w130gh330hh330jh330kh330lh330mh330mn130nn130;,230,,230d.230f.230j.230k.230,n130.n130tl130vl130h;",
   "430=l430*@530~l430~@520:n530cp530,r330gc53430xB30:D30gp530>j330nc530mp530wF30zc530@c530@B30+F30.",
   "c230ns330fk330dq530nd530pd530=>330jk330tZ30hq533=520030jv430m730n730<F30g930jm130sq530v>230:n430",
   "=;230,<230yq530wX33q720030gk130+q530zk333s530030x^333*530030mq530~v433=530030;v433+530030B30nq33",
   "0;*230hp430>Z30t<230x<230xX30~Z33=540030qq330db30fb33=550030cx430nh530jb30xq330v=230w=230x=230y=",
   "230z=230+=230@=230*=230==230<=230lb30*X30<X30>=230^=230~=230:=230;=230,=230.=230c<230d<230f<230f",
   "C30gC30hC30jC30xG30c<130*q330=q330~X30y~130=~130d<130:X30yy230yb30l:130p:130;X30+b30@b30r;130s;1",
   "30t;130v;130w;130x;130y;130z;130+;130@;130*b30^;130~;130:;130;;130,;130.;130c,130d,130f,130g,130",
   "mp230jS30kS30dj130*f330~f330ld330,X30dc130w,230z,230.X30gc130hc130>^230^^230~^230:^230;^230,^230",
   ".^230c~230d~230f~230jc130g~230h~230j~230k~230l~230m~230n~230p~230q~230r~230+j230q@130r@130mS30pv",
   "130vv130dt130cY30tc130,v130dw130dY30wc130xc130dx130fx130gx130hx130jx130kx130lx130mx130nx130px130",
   "yc130vx130wx130xx130yx130zx130+x130@x130*x130=x130<x130xw230t@130v@130~m330.m330nj330fY30~c130sk",
   "430tk430gY30;c130,c130n.230p.230q.230r.230s.230t.230v.230w.230x.230y.230.c130z.230+.230@.230*.23",
   "0=.230<.230>.230^.230~.230:.230my330ny330ph330qh320qs530sy330;h530jp330gj530qp330tj530sp330~s530",
   "jY30xp330sd130kY30vd130wd130xd130xC30yC30zC30+C30mJ20=t530gv530;C30,C30.C30cD30@K20,v530pw530gD3",
   "0hD30jD30kD30sL20hx530tx530nD30pD30qD30rD30jM30qy530xy530pC30dH30yy530qC30rC30sC30yH30*y530lm530",
   ">d130xr430t<330mY30,d130nY30cf130df130ff130hf130vD30kK30wD30xD30yD30dN30yM30=C30wJ30<C30>C30^C30",
   "cK30*r430,K30<r430*L30^r430=m530sm430:r430~z330++530wm430gs4.Q111s1F4J9Lf132111322181f41F:132113",
   "42111211143111111123F1131T11F1J1111121112111111111111712z31L01B2751L81l193155195D1Fn411*21~11:21",
   "D1.31W3DGp41>11x11;1c19211D1139514CM121251222111415g13L1CX931D14G5CM121251222111415g1M2d19211D11",
   "39514CM121251222111415g121L1N142c41Y931D14G5CM121251222111415g12K21+31r11t31=31v12Vp41B1l12D11h5",
   "1z39C1GLm12;1K51:3B8311FLm1.1J11T1V1z1M33Dr31112111111111111v41z42=211,3G9211GD512DT2r1K2F*428^3",
   "S3348l14d2111211111111111111+11@11+24Cg14*3R9JM5CM121251222111415g1P1l44Ch1131G3h4111<16n4111111",
   "Y2Dd1131g4Q3348l14d211121111111111116151m43DHDT93F1L5CM121251222111415g1PF139FL81f11W19l1K9211D2",
   "D5122B1S26=1G8311D1L5CS8=1J1FC1F1L5CS26=1K51:11^11M4DGp4519C4J9Lf16113221;4HDw1M12125122211g2J01",
   "B2D1L81w1315519,132113421111111143111111123F1131T113B1J111112111211111111111171D45NL2c132824s17D",
   "1F1D6d25D1F+2*15DG4w2*12PB4C1f3k13V+2*13FVl22s1d22Zw22m31171X1LD33Dr3212111115D1GD6p231111214211",
   "1111114121111111234271131M32111322421J111112111211111111111125169g11l12;1H.1111111111111111f51w1",
   "2Dl42DW1q11,12Nx25Gn21G11k32+22D4J9Lf132111521Hc101B11D1L817M121251222112315519l124V>3J15C1Gp452",
   "Dg11~224@21^21x22y212YL3;2522,222.221@21v21w21g31k51j36G6g21G11l33v1j121w4Q44D9Lc111111111111112",
   "232p322q313Dd1k3g1931D14G5C311111111111111J2212415g1M2l19211D1139514C311111111111111J2212415g13L",
   "F3348q1k251111112DH3>3111Z1j5784G319;31>21:41,41K1=41bC648x351111112Dc1R44D9Lc11111111111111223b",
   "DC11GD512DT2;12DG2D*4W01B117511D512516T26931551951~4b93184141F5CM121251222111415g1L129C11GD512D8",
   "8311FL=316C1GL<354Dc11@239g111;31.49k3g111111L11t22t1^3D139FL81f11W19n1331344BHF1131T11F1J111112",
   "1112111111111111J1B951L81l19315519>13313421113114311111115F1131T11F1J1111121112111111111111712Fb",
   "J9211D2D5122BT2r1KD8311FL5CS.1J1D8311D1L5g1.1J1CC1GL5CS2;1K5CC1F1L5g12;1K56C11Fn412Cw14>31111*41",
   "J1v3G4J9Lf132111322f1c19211D113951HM121251222111415g121LX931D14GJM121251222111415g12K2813m181,11",
   "91y125g1,132111242111211143111111123F1131T11F1J11111211121111111111114317Dc11l12r1K9841G2196@22N",
   "t3584HD~21x31w31s41Q1SG,31113111211111B4J9+1611322Q9JSCM121251222111415g1PV94D14MCM1212512221114",
   "15g1M2S9J1RCM121251222111415g1M21n5b9211D11D514CM121251222111415g13LY922D11D64CM121251222111415g",
   "13LV94D5964CM121251222111415g1P4D1Fn4D4JWf1321113222r3>110P01B11751L81l19315519k11S9J5G5CM121251",
   "222111415g1P78311Fn417C11FF:316C1GF;353CXN3HCp45=31111713m181,112Y11r33D1c13+22;12W<3M01B11751L8",
   "1l19315519,1321134211121114311111112111F1131T11F1J111112111211111111111171b9211F13951HM121251222",
   "111415g121LW931F4GJM121251222111415g12K2R93FSCM121251222111415g1P1P;132113421112111431111111221F",
   "1131T11F1J111112111211111111111171V1B11752D5125161L6269315519s13311244BH671131T11F1J111112111111",
   "111111111114K1B952K81TG9315519J1B95M81TG9315519Z931D14G5CM121251222111415g12J123D1b3C1m43Dc11F13",
   "8c1171b2Y195V3348b84d2111211111111111113H9211GD5122B1S2;1H9211D2D512DT2r1K2+2.15C1HLGC8311D1Lm1.",
   "1J189g114CS2;15CGQ13583G^3158M2192Cn42t182t192z4H1x44TG@1k1P4J9Lc11111111111111223N3348l14d21411",
   "1111111114<3111H9JM5Cd12212415g1P1R1c11d11f11g11h11j11k12c51M3348q1d214111111111111<3K3348q1d251",
   "112111111L3348q1d2511111111111G33Dr321251111111g53Dc1l3D3348q1q21111111+41@4C4TLf13211152N4JWc11",
   "111111111111223J9JM14Cd12212415g1P61q181,11R31248l14d2111211111111111N4J9Lc1111111111111323K93GL",
   "5Cd12212415g1M2P931D11D514Cd12212415g1P4Dc11k3L93F1L5Cd12212415g1M2M931D1L5Cd12212415g1M2M93F14G",
   "5Cd12212415g1M2L921FM5Cd12212415g13LK9J1L5Cd12212415g1M2K94DG55Cd12212415g1PJ9J5G5Cd12212415g1P1",
   "y3C841751F@1k1d11G1BGM81TR315519p133134428HF1131T113B1J1111121112111111111117D1FLl3J14FGKl33+22r",
   "1K93F1L5Cd12212415g1PD4J9Lf151113223DHLS93FGBCM121251222111415g1PT9J1L5CM121251222111415g1M2S9JM",
   "14CM121251222111415g1PJ3348q1k211121111116D1GD6@21m1833Dr32125b01B11D1L817M121251222112315519n1L",
   "33<3111211111111111.1321112411111211143111111123F1131T11F1J1111121112111111111111431N01B11751L81",
   "l19315519k1;13211342111211143111111123671131T11F1J111112111211111111111171M01B2751L81l19315519l1",
   "k19211D11D514C311111111111111J2212415g13L6D1F>3J1d194D5955C311111111111111J2212415g1Pc1931DM5C31",
   "1111111111111J2212415g1Pc19J1L5C311111111111111J2212415g1M2c193FM14C311111111111111J2212415g1Pb9",
   "JM14C311111111111111J2212415g1Pf"]

private def tsxPart4 : List String :=
  ["1921184141855CM121251222111415g12J12f19211D1139514CM121251222111415g12199b9211F139514CM121251222",
   "111415g13Lc19211D113964CM121251222111415g121Lc1921184141F5CM121251222111415g1L12Z93184141F5CM121",
   "251222111415g1L3Z931D14G5CM121251222111415g12B724DHLk3W931F4G5CM121251222111415g1M2X931D14MCM121",
   "251222111415g12K2T93GL5CM121251222111415g1M23FGKC139b81f11W19F9211GD512DT2;1J83113451F5m18k1KJ1H",
   "9211GD512DT2r1KBH9211GD5122BT2r1KF9211GD62DT2r1KCC11GD512DW;1C8311FLm1.1B61C8311FL5g1.1J198311F^",
   "1.1J198311FLl3J1BC1GLm12;1B75BC1GL5g12;1K58C1G^12;1K58C1GLp1;1K521Z6Ch1112n18931b1l12;15FF1D67C1",
   "1FRy316Dc11n1r1K59g11n1;13t31*11y43JBp41*31@32s3^1S45C9Lc111111111111112231s17T1F@1k1d11R45C9Lc1",
   "1111111111113231s1984851F@1k1f1M45NLc11111111413231s16:1d1221h23Tg2k19D1D1F@1k1d1178486F~2f1Cr15",
   "Cd1221615<1DTM5Cd1221615<1DDGf1d1221615*12K4J9y111112211113232Nf2R9C9L2Z1111111111113231s1GDGL5C",
   "d1221615*12P3348l14d221211111111111N45NL2Z1111111413231s1L4J9Lc11111221111323M9C9L2Z111124113231",
   "s1HDF1L5Cd1221615*12L4J9y1111122111112237N9Lj12828N9Lf132823Nc22BN9Lf13211625Nc22829DGf1d1221f22",
   "3G<213Ng21GT1L5Cd1221615*128:1d122161;15Dc13j12F9Jg1d12212415g1PM4J9Lc111112211111223G9JSCd12212",
   "415g1PC9NL2c132824s1JDGL5Cd12212415g1M2KDF1L5Cd12212415g1M2Q45C9Lc111111111111112235VF~2d111s31l",
   "5FVL5Cd1221615*12C9+22212415g1PN3348l14d221211121111113Tg1c1N45N1Kc11111111413231s17s1Hd1221h2H3",
   "~31113111211111L33Dr321211111111111S45C91Kc11111111111113231s1Dr114Cd1221615<1T45C91Kc1111111111",
   "11112231s1R45CWc111111111111112231s1FTM14Cd1221615<1M3348l14g2121112111111268b01C1D1L817M1212512",
   "22112315519l12MN9Lc1111111111111323P45C9Lc1111111111111323NN9Lc11111111111111223S45C9L2Z11111111",
   "11113231s1JT1L5Cd12212415g1M2K01D751L81l19315519FDGRCd1221615*12GDF1RCd1221615*1231q1m2K9NL2Z111",
   "12513231s1DD1F1D6Hd1221h2BD1Ff1d1221f22L45k1c11111111413231s18Vf1d1221f228FVPd1221h2N45NLc111111",
   "11413231s137Dw1d1221h2D9N1K2c132824s1G:1M12125122211g2N9C91K2Z111124113231s1n2311112142111111114",
   "12111111123491131M32111322421J1111121112111111111111251K33Dr32121112111111KD1F1D514Cd1221615<1HD",
   "1FL5Cd1221615*12Q45CWc11111111111113231s1S45C9Lc11111111111113231s13FC1c15Cd1221615<11p1FFV55Cd1",
   "221615<1LD1D11D514Cd1221615<1JD1D1L5Cd1221615*12T45C9Lc111111111111112231s13GC1FM5Cd1221615<1GFD",
   "G55Cd1221615<1H1B95M81TG931551Z93184141FJM121251222111415g1L12Z931D113951HM121251222111415g13LF9",
   "31F1D6f11MCg1PP931F1D6f11212822111Bg1PG931F1D6f115GCg1PJ3348l14g2125111111C931F@11MCg1M2M931F@11",
   "212822111Bg1M2D931F@115GCg1M2J45C9Lf1321113224s1V94D5955CM121251222111415g1PC93G4x11MCg1M2M93G4x",
   "11212822111Bg1M2D93G4x115GCg1M2N9J*1121251222111415g1PT931DM5CM121251222111415g1PB921g21MCg13LL9",
   "21g21212822111Bg13LC921g215GCg13LK45C91Kf1321113224s199K@11MCg1M2K9K@11212822111Bg1M2B9K@115GCg1",
   "M2994Vm11MCg1PK94Vm11212822111Bg1PB94Vm115GCg1PQ9JM5CM12125122211141m1P89h1f11MCg1PJ9h1f11212822",
   "111Bg1P99h1f115GCg1P89Px11MCg1PJ9Px11212822111Bg1P99Px115GCg1PP9g15CM12125122211141m1P79k21MCg1P",
   "H9k21212822111Bg1P89k215GCg1PH3348q1l2112111111L3348l14d251112111111H9211GD512DT26k1KC8311FLm18=",
   "1J1BC1GLm126=1K52l1r33Dw2k22D3.40111111111111111111111111111111111111111111111221213111111111111",
   "111111111111111111111111111111111111132113111111111111111111111111111111111111112111111111112111",
   "220F8DGf1d1221h2ND1F1D6HM12125122211g2LD1Ff1M12125122211d22KDGf1M12125122211d22JVf1M12125122211d",
   "22D9NL2c132824s13JFVPM12125122211g2Hs1HM12125122211g2GD1F1D6Hd122161;1DD1Ff1d122161~12CDGf1d1221",
   "61~12BVf1d122161~12BFVPd122161;1N9C9L2Z111124113231s139Dw1d122161;19s1Hd122161;19D1GK12j12r1JDw1",
   "M12125122211d227D1FLm1v212*2;17DHK12j12FDGL5Cd1221615<11n1M01B27511K81l19315519~1321134211131143",
   "111111123F1131T11F1J111112111211111111111171K01B275M81l19315519GDF1L5Cd1221615<1FDF1RCd1221615<1",
   "J94F1D6w12212415g1PFT1RCd1221615*12L94D11D6Hd12212415g1PS9211D1139514Cd12212415g13LG1B9S81TR3155",
   "19G94Fg22212415g1M2M94D11D64Cd12212415g1PF93W*12212415g1PG9K4.12212415g1M2J94D1f1d12212415g1M2CT",
   "SCd1221615<1p1331344BH671131T11F1J1111121112111111111111J9J14Zd12212415g1M2F9Kg22212415g1M2F94V*",
   "12212415g1PF92y22212415g13Ll1331344BHG131T11F1J111112111211111111111K94D1RCd12212415g1M2H9J1f1d1",
   "2212415g1M2K9J14MCd12212415g1M2D9h1w12212415g1PD9P.12212415g1PH92Gg1d12212415g13LH94DGPd12212415",
   "g1P3WKl3J9J1RCd12212415g1M2G93Fg1d12212415g1PN931D14G5Cd12212415g1M2J92GSCd12212415g13LJ94DGBCd1",
   "2212415g1PG9JNHd12212415g1PG9J5Zd12212415g1PH93FSCd12212415g1PH9JN4Cd12212415g1PH9J5MCd12212415g",
   "1PW9211F1396f112125122211141m13LX9211D11396f112125122211141m13Lb9211D1139514CM12125122211141m13L",
   "X922D11396f1121251222111415g13LZ922D113964CM121251222111415g13Lb931D1139514CM121251222111415g13L",
   "b9211D113964CM121251222111415g13LR931F4x112125122211141m1M2R931F1D6f1121251222111Bg1PPD1F1D6f112",
   "1251222111B<1T931F1D6f1121251222111415g1PM931F1D6f115822111Bg1PQ931F1D6f112125322111Bg1PD931F1D6",
   "g1MCg1PND1F1D6f112125322111B<1J931F1D6f115B22Cg1PC931F1D6*1Cg1P6D1F1D6W94D11D64CM121251222111415",
   "g1PS931D14x112125122211141m1M2P931F@1121251222111Bg1M2MD1F@1121251222111B*12R931F@11212512221114",
   "15g1M2K931F@115822111Bg1M2N931F@112125322111Bg1M2B931F*1MCg1M2LD1F@112125322111B*12G931F@115B22C",
   "g1M29931Fn2Cg1M2Y931D11D514CM121251222111415g1PVD1D11D514CM12125122211515<1K93G4x115822111Bg1M2N",
   "93G4x112125322111Bg1M2B93G4y1MCg1M2LDG4x112125322111B*12G93G4x115B22Cg1M2993G4j2Cg1M2P93G4x11212",
   "51222111Bg1M2MDG4x1121251222111B*12R93G4x1121251222111415g1M2W931D14G5CM12125122211141m1M24D1GLT",
   "94D1RCM121251222111415g1M2S94D14x1121251222111415g1M2W931D14MCM121251222111415g1M2W931D14G5CM121",
   "251222111415g1P4DG4k4T9J14MCM121251222111415g1M2J921g215822111Bg13LM921g212125322111Bg13L9921h2M",
   "Cg13LKC1g212125322111Bk1LF921g215B22Cg13L8921=2Cg13LN921g2121251222111Bg13LLC1g2121251222111Bk1L",
   "Q921g2121251222111415g13LW931D1L5CM121251222111415g1M2SD1D1L5CM12125122211515*123D1GQ93FGm112125",
   "1222111415g1PRDF1L5CM12125122211515*12H9K@115822111Bg1M2L9K@112125322111Bg1M289K*1MCg1M2JV@11212",
   "5322111B*12D9K@115B22Cg1M279Kn2Cg1M2M9K@1121251222111Bg1M2KV@1121251222111B*12P9K@11212512221114",
   "15g1M2H94Vm115822111Bg1PL94Vm112125322111Bg1P894Vn1MCg1PJFVm112125322111B<1D94Vm115B22Cg1P794V:1",
   "Cg1PM94Vm1121251222111Bg1PKFVm1121251222111B<1P94Vm1121251222111415g1PS92GSCM121251222111415g13L",
   "S94DGBCM121251222111415g1PW93F14G5CM121251222111415g1M2T93F1L5CM12125122211141m1M2K45C9Lf1321113",
   "224s13QC1FM5CM12125122211515<1G9h1f115822111Bg1PK9h1f112125322111Bg1P79h1g1MCg1PHs1f112125322111",
   "B<1C9h1f115B22Cg1P69h1*1Cg1PL9h1f1121251222111Bg1PJs1f1121251222111B<1N9h1f1121251222111415g1PG9",
   "Px115822111Bg1PK9Px112125322111Bg1P79Py1MCg1PHZx112125322111B<1C9Px115B22Cg1P69Pj2Cg1PL9Px112125",
   "1222111Bg1PJZx1121251222111B<1N9Px1121251222111415g1PR9JN4CM121251222111415g1PR9J5MCM12125122211",
   "1415g1PV921FM5CM121251222111415g13LF9k215822111Bg1PJ9k212125322111Bg1P69l2MCg1PGv212125322111B<1",
   "B9k215B22Cg1P59^2Cg1PK9k2121251222111Bg1PHv2121251222111B<1M9k2121251222111415g1PT94DG55CM121251",
   "222111415g1PNTM5CM12125122211515<1B13PM81l1R19T3348b84d211121111111111111B9211GD62Dl2584c1m123Cj",
   "13CC11GD512DT26Dc11l12;1BD1GK12j12r1K7D1FF~2d118D1FLm1.1J198311FLm1v212v148C1GLm12t251<41>41^46D",
   "c13j12;17841GD6@27841DG@1k16Dc11l12r16841Dg2k1583h113384g13C1g159g11l124D1V6384d12WL4r321*12Ch13",
   "D123TSq1:w6mC~C<Mv2>Mv5^M*1~M=1:Mq3;Mp1,ML.MYcNg3dNDfN*1gN=1hNh3jNw2kN.1lN0mN*1nN=1pNYqNz2rNs8sN",
   "StN~4vNZwNp1xN0yNk1zNDh7m7+Np1@Ng1*NYw2j2=N3<NL>NY^Nj3~Nw3:Nx3;NX,Ng3.N3cPq3dPg3fPw5gPx2hPr3jP:3",
   "kPp1lP;3mP,3nPw1pPCqP.3rPc4sPDtPh3vPd4nCf4wPg4xPh4yP<1zPj4+P*1@P=1*PC=PB<Pk4>Pl4^Pm4~Pn4:PT;PP,P",
   "Y.P~1cQSdQZfQz2gQs8hQj3jQw3kQx3lQg3mQXpCx5qCy3Ft8nQp1rCp4pQPqQYRv8j7m7rQPsQp1tQYvQZwQk1xQc6yQp1z",
   "Q~4+QD@Qt1*Q:4=Q;1<Qb>QY^Qk1~QF:Q3;QD,Q7.Q;4n5q4cRm1k7z3dRw13:CF;C3,CfR<1gRg1hR4jRFF.CkRBlRv1rCy",
   "3mRw1nRp1pRDqRy5n5z3rRP3cDsRMtRGw2w8vRFwR0xRs31dDyRCzR3FfD+Rf1@RK*Rt13v8=R,1<Rj3>Rw3^Rx3~Rg3h7x8",
   ":R0;R:37j2sCy3,Rm1.R<1cSBdS4fSLtCs1gSMhSm1jSp1kSDlS:3l7z3mSFnSVpSYqS;3rS,3sSy5tSf1vSKwS0xSw1yS;3",
   "zS,3vCs1+SM2y8@S.3*Sc4=SD<Sw1>S,4^Sx2~SX:St1;Sd6,S.4.Sf1cTKdT0R2fTd4wCf4gT.3hTc4jTDkTq1lTh3mT.1n",
   "Tw2pTw2qTg4rTh4sT:3tTd4xCf4vT;4wTPxT0yT3zT<1+Tg4@Th4*Th3=Tz8<T+8>T@8^T*8~T=8:T<8;T>8,T^8.T<1cVBd",
   "V4fVt1gV:4hVPjV0kVMlVm1FgDmVj4nVTpV;3qV,3rV<1sV.1tVw2vVBwVw1xVj4yV:3zV:3+VP@Vf6*Vy6=Vz6<Vc5>V3XS",
   "^Vk4~V:3:V:3;V.3,Vc4.VDcWBdW:3pC~8fWCgWK7:8hWl4jWd4yCf4kWk4lW;3mW,3FhDnW;3pW,3qWPrWg2sWT7d5tWKvW",
   "MwW7xWx1yWGzWV+Wm4@Wn4*W;3=W,3<W;3>W,3^Wg4~Wh4:Wl4;Ww1,W;3.W,3cXw1h7;8dX4fXp1R+2gXw1hXw1jX<1kXm4",
   "lXn4mX.3nXc4pXDqXw1rX.3sXc4tXDvXp1wXf1xXKyXCzXD+X.3@Xc4*XD=X.3<Xc4>XD^Xj4~Xd4zCf4:X.3;Xc4,XD.Xd4",
   "+Cf4cYJdY0fYg2gYk2hYf1jYk3kYKlYMmY+6nYh2pYm2qY5rY5sY5tYY@Cf4vYd4*Cf4wYBxYg4yYh4=Cf4zYg4+Yh4@YPR@",
   "62^1<Cd4*Yg4=Yh4<Yg4>Yh4^Yk4~Y<1>Cd4:Yg4;Yh4,Y<11jD1kD.YLcZv2dZTfZ<1gZ<1hZl4jZj4kZ<1lZj4mZx5nZw5",
   "pZ<1qZ3rZ3sZMtZGvZ,4wZk3xZx2yZ.1zZK+Zw2@Zt1*Zd6=Z.4<Z3>ZC^Zj4~Zj4:Zm4;Zn4,ZB.Zj4cbBdbJ1lDRmD1y8X",
   "nD2*6fbBgbBhbk4jbBkbk4lbp1mbv1nb<1pb3qbk4rbk4sbFm7n7n7j2tbl4vbk4wbl4xbDyb3^C3zb0+by5@bl4p7n7*bl4",
   "=bm4<bn4>bl4^bm4~bn4:bB;bv1,bTk7r4.bP3pDw2:8cc1Pdc1Cfc1Lgc1Dhc1m4jc1n4kc1m4lc1n4p5j2mc1m4nc1n4pc",
   "1g1qc1Prc1<1sc1Btc1Zvc1k1wc1=4xc14yc1Tzc1+3+c1~1@c13*c1D=c1f1<c1h2>c1G^c1~1~c10:c1j21qD;c1*1,c1=",
   "1.c1Ycd12dd1Kfd17gd1Vx2Y7rDhd1g1jd1w1kd1k2ld1h3w2,8md1Tnd1Ypd17qd1D7,8~Cs4rd177.8sd1Jq5n2td1Ly2s",
   "13sDvd1,1:Cg1wd1YRtD;C3r5l3xd1;1yd1Yzd1w1+d1b@d1j3*d1w3=d1x3<d1g3>d1X^d1j3~d1w3:d1x3;d1g3,d1X3vD",
   ".d10cf1Mdf1m1y2c9ff1F,Cq1.Cd91wD4f9=1s4gf1g1q7Yr7Y7g9hf1v5jf1<1~C@3kf1<1lf1Bmf1Pnf1v1pf1h9qf1h9r",
   "f1<1sf1<1tf1~4vf1g3wf10xf1Pyf1Mzf1y5+f1m1@f1G*f1c2=f1g1<f1g1>f1C^f1g1~f1d2:f1C;f1C,f1C.f1f1cDy3d",
   "Dy3cg1Mdg1m1fg1bgg1Gr5s1hg1Fjg1y5kg1j9lg1f1mg1,4ng1k3pg1x2qg1.1rg1Ksg1w2tg1h2vg1t1wg1d6xg1.4yg10",
   "zg1C+g14@g1T*g1K=g17<g1x1>g1G^g1V~g1h2:g1t1;g1t4,g1Y.g1v1ch1Fdh1v1fh1Jgh1c1hh1v1jh1g6kh1Flh1m1mh",
   "10s7z3z2v1t7z3nh1Tph10fDs45v1qh13rh133xDgDs4sh15th15vh15wh15xh15yh1h1hD2zh1B+h1*3@h1k9*h1*3XyDX*",
   "3XzDX+DX@DXk9Gv1X*D=h1B<h17>h1L^h1L~h1B:h1v1;h1B,h1v11=Dn5<DjD>D.h1p1cj1Ydj1Dfj1Zgj10hj1s1jj1f1k",
   "j1Klj1Mmj1~4nj1<4pj13q5Fqj1g1+21rj1~4sj1~4tj1r3vj1f1wj1Kxj1m1yj101^Dzj1p1+j13@j1C*j1m2=j1P<j1G>j",
   "1Y^j1D~j1P:j1D;j1g6,j1>4.j1Pck1Fdk10fk1s1gk1f1hk1Kjk1Mkk1Klk1f1mk1j3nk1w3pk1Kqk1x3rk1g3sk1Xtk1f1",
   "vk1j3wk1w3xk1Kyk1x3zk1g3+k1X@k1f1*k1K=k1f1<k1j3>k1w3^k1K~k1x3:k1g3;k1X,k1f1.k1j3cl1w3dl1Kfl1x3gl",
   "1g3hl1XkDs1jl1M1~Dkl1P6:Dll1m2ml1m22;DfD@33,D1.DgD@3lDv4mDv4Rl9nl1Tpl1l2ql1k2rl1h3sl1z2tl17vl1Dw",
   "l1DBv1xl17v7Yw7YnD@3yl1Tzl15Gt3+l15@l15*l1h1=l15<l1h1>l17^l1p1~l1D:l1x2;l13,l1B.l1w4cm1x4dm13fm1",
   "3gm13hm13pDy3qDy3rDy3sDy3x7cFjm10tDs1km1Mlm1m1y7s1vDs1mm1Mnm1m1wDs1pm1Mqm1m1xDs1rm1Msm1m1yDs1tm1",
   "Mvm1Fwm1Pxm1bym1k1zm1T+m1k2@m1h3*m1z21dF1fF3gF=m1w2<m10>m1j2=1@36v1^m13~m13:m13;m13s5g1,m13.m1d2",
   "zD<4cn13Sv1Yv1t52x2f5+D2j32dn1Vj3+2@D@3v5+2*D@3k3Yfn1Kgn1Vhn13jn1Lkn1k2FhFln10mn1p1nn1Ppn1p7=Dq7",
   "qn1t1rn1=3sn1f6tn1jFmCkFvn1+3n5r4+2n2wn1Yxn1k1yn1Xzn10+n1s1@n1f1*n1K=n1M<n1x2>n1;4^n1w5~n10:n10;",
   "n10,n10.n10z7z3+7z3@7z3*7z3cp1w2dp1f1fp1h2gp10hp1j2jp10kp1j2lp10mp1j21lFnp10pp1*1qp1=1rp102mFsp1",
   "35t36t32m9tp1q1v52<D3vp1T8*6H*6wp1Txp1Typ1Tzp1T+p177nF@p17>DpF*p1F=p1>4<p10>p1.1^p1w2~p1b:p1H+2m",
   "3q5m3:Cm3;p143qF^Dr71rF,p1g1.p13cq1Tdq1<1fq1Bgq14hq1t1jq1:4kq13lq13mq13nq13pq13qq13rq13sq13tq1Yv",
   "q1Zwq1k1xq1byq1=4y7sFzq1;1+q1p1@q1Y~Dx5*q1Z=q1k1<q1c6y2tF>q1P^q1l23vF1wF~q1T:q1P;q1;1,q1p1.q1Ycr",
   "1<1dr1Bfr1w1gr1x5hr1Zjr1k1kr1c6lr14mr1;4nr1w5pr1r3qr1Trr1Psr1;1tr1p1vr1Ywr1<1xr1Byr1w1zr1x5+r1Z@",
   "r1k1*r1c6=r14<r1;4>r1w5^r1r3~r10:r1g2;r1d5,r1K.r1Mcs1x1ds1Gfs1Vgs1,1hs1~1js103xF3yF1zFq7f5ks1Lls",
   "1v2r7f5ms1Cns1Cps1Cqs1Crs1Css13<1F=711m9=1*3w5*3@22x52y52<72ts12j3@6@Ds4v5@6*Ds4vs1Pz52+52l32ws1",
   "DnDs4:D2>7@6;Ds4,D2.D2cF2dF2fF2gF2hF2jF2kF2lF2mF2xs1Kys17zs1V;C+1^C+1+s1D7+F@s1D*s1F=s1K<s17>s1V",
   "^s1K~s1V:s1K;s17,s1V.s1+1ct1Tdt1T>7+2;D@3ft1Dgt17ht17jt17kt17lt1Kmt1Vnt17pt17qt17rt17st17tt17vt1",
   "7wt17xt1Dyt17zt17+t17@t17*t1D=t17<t1D>t1D^t1D~t1p1l3@1:t1T;t1V,t17.t1Tcv1Pdv1L>1L^1Lfv1Lgv1Y9s7h",
   "v1Jjv1l2kv1k2lv1;1mv1c1nv1Jpv1Jqv10rv1l2sv1@Ftv1z5nFJvv1c1wv1c1xv1c1yv1c1zv1c1+v1c1@v1c1*v1v1=v1",
   "D<v1g6>v13^v10~v1P:v1;1;v1Y,v1M.v1w1cw1m1dw1c2fw10gw1g2hw1k2jw1f1kw1k3lw1Kmw1Mnw1x1pw1Gqw1Vrw1h2",
   "sw1,1tw1~1vw1m2ww1c2xw1p1j7;8yw1Dzw1k2+w1h3@w1k3*w10=w1M<w1b>w1Gw1*F^w1j1~w1j1:w1j1;w1j1,w1j1.w1",
   "1cx1j1dx1j1fx1j1gx1j1hx1j1jx1j1kx1j1lx1j1mx1bj7x8nx1Ppx1k1qx133=Frx10sx1w8tx1p1vx1Dwx1V3<Fxx133>",
   "F3^Fyx1m2p7n9p5p9m7n9n7p91~Fzx1k2+x1h3@x1w2w1:Ft56*x1x2=x1M<x1G>x1t1^x1:4~x1w1:x1x2;x1M,x1G.x1t1",
   "cy1:4dy1Tfy1Pgy1;1hy1x2jy1p1ky1Yly1*1my1=1ny1<1py1Bqy1w1ry1x5sy1Zty1k1vy1c6wy14xy1;4yy1w5zy1r3+y",
   "1P@y1;1*y1<1=y1B<y14>y1;4^y1r3~y10:y1b;y10,y1b.y10cz1g2dz1d5fz1Kgz1Mhz1x1jz1Gkz1Vlz1,1mz1~11;F1,",
   "FZv1bv1Rq9nz132r9pz1p1qz1D3q91r9rz10=7m32s9<1m3s5m3sz144t92v91v92w92x9tz1r7vz1d2wz102y92z92+92@9",
   "xz13yz13zz13+z13@z13*z13=z13<z13>z13^z1@2c1R~z1YTv1:z1@2c1W;z1*9*2^1,z17F=92=6pF5.z1d1c+1GGt7~1Q",
   "d+1Kf+17g+1Vh+1Kj+17k+1Vl+1d1m+1Ym3Yx1*6n+17p+17q+17r+1TGy4s+1Tt+1T2<6v+17w+1Gx+17V+5y+1Kz+1C++1",
   "T@+1V*+17w2.8=1+1=+1r1<+1r1y53>+1@24n1=1B^+1@24l1~+1r1:+1@2c1n1y5B;+1r1,+1J.+1Jz5Bc@1Yc1l1d@1@2f",
   "@1Sg@1@2h@1Pj@1Pk@1Pl@1Yw19m@1Ln@1Lp@1.Fq@13r@1.1s@10t@13Fg1v@1q1w@1j1x@1>6y@1q1z@1j1+@1>6@@10*@",
   "1L=@1c1<@1c1>@1c1^@1c1y2l33cGjDS~@1b:@1G;@15,@1P.@1bc*1;1d*1w1f*1Zg*1k1h*1=4j*1,1k*1~11dG1fG3gG^",
   "Df2+2h11hG1jG3kG1lG+2f2tCl3l*1Mm*1Gn*1Pp*1Yq*1Zr*1k1s*1bt*1=4v*1f1w*1Kx*1Py*1Yz*1Z+*1k1@*1b**1=4",
   "=*1P<*1Px7mGy1nG3pG>*1h2^*1m2~*1K:*1H;*1H,*1Ht5qG.*1Pc=1Yd=1m1l3n3f=1Pg=1YqFFp7<9p5>9m7<9n7>9y2r",
   "Gh=1Gj=1y5k=1bl=1bm=1Pn=1k1p=1k1q=1m2r=1m2s=1j91sG1tGt=10v=1j23vGw=10x=1j23wG1xGy=1yGVv7l3w7z=10",
   "+=1j21zG^76~76l36@=10*=1j2==11<=11>=11^=11~=11:=1M;=1G,=1t1.=1:4c<1Md<1Gf<1t1g<1:4h<1s3j<1c1k<1c",
   "1l<1c1m<1c1n<1c1p<1c1q<1c1r<10s<1bt<10v<1g2w<1d5x<1Ky<1Mz<1x1+<1G@<1V*<1,1=<1~1<<10><1g2^<1d5~<1",
   "K:<1M;<1x1,<1G.<1Vc>1,1d>1~1f>15g>151+Gh>1h11@Gj>10lDg5mDg53*G1=G:7v4;7v44^91<GrF@54~9sF>Gk>1v5l",
   ">10<1v3=7v31s9=1:96t7z1z4+1z41w96y41x93l9m>1<42;9n>1g1Zt3bt31y91z91+91@9p>1z1q>1z1r>1z1s>1z1t>1z",
   "1v>1z1w>1z1x>1z1y>1z1z>1z1+>1z1@>1z1*>1*3=>1v2@5h6*5h64x7<>1L,7*35j6>>1Ld1N^>1j1z22y5*3.72c82BR~",
   ">1@2@1R:>12tF2vFNc1v1tF+2;>1+2v7f5w7f5f1f9=2s4~1^6g1v1h1v1w1^Gn32p32q32w1~Gd82=52f82<52=12g82h82",
   ">52j82k8,9=22^52~52wF+2xF+2z5@39v1l82m82:52;52n82p82,52q82r82s82t82v82w82x82y82<2j6,>1L.52c62.>1",
   "Ld62d6+2z82+82@82*82=82<8,9>82^82~82:82;82,82.82c92d92f92g92h92yF+2j92f62f6+2k92l92m92n92p92q92r",
   "92s92t92v92w92x92y92z92zF+2+F+2@F+2VN2Nc^1v2d^12+92>72f^12@92g^12h^12j^12*F2^72k^12l^12m^12n^12*",
   "92=92p^12q^12r^120:G0;G0,G2~6k3f5s^12<92>92t^12v^12w^12x^12~72y^12z^12+^12@^12*^12=^12<^12>^12^9",
   "2~92:92;92m3f5^^12,92.92~^12:^12;^12cB2dB2,^12fB2gB2g62h62r32.^1G7.Gc~17=Ft4<D+14y7d~1Lf~1j15k6g",
   "~1Lh~1H0cH0dH0fHj~1x1k~1Gl~1t1<Ft4hBgHBWm~1@2~1hH@1WH^18^1St3Yt3n~1Hp~1Hq~1H0jH0kH0lHr~1d1s~1d1t",
   "~1d1vFQv~1FWd1w~1G<Ft1x~1Gy~1+1z~1GpFh18p2<2k62:6Bt32mH=2@3Tt3~1nH:1g1;1g12Q0pH0qH0rH+~11@~1q1>F",
   ".9*~1*9=~15<~1H>~11^~15~~17:~1q1;~11,~1g1.~1Hc:1Hd:1Hf:1q1g:1Kh:17j:1Vk:1Hl:1Hm:1Hn:1Tp:1Kq:17r:",
   "1Vs:1Kt:17v:1Vw:1Hx:1Hy:1Tz:1T+:1Tj69=54k69l69m6;6@:1j12cBn69p69q6;6*:1j1r6;6=:1j1s69t69v6;6<:1j",
   "1w69hBsH>:11^:1H~:110tH0vH0wH::15;:11,:1H.:1Hc;1Hd;1Hf;1Hg;1Hh;1Hj;1Hk;1H0xH0yH0zHl;1q1m;1q1n;1H",
   "p;1Hq;1Hr;1Hs;1q1t;1q1v;1q1w;1q1R,6j1+Hx69~1dBg1t3h1t32z70@H0*H0=H0<H0>H0^HjB~Hx;1G~1fB0:H0;H0,H",
   "kBl6rF@1d1+5@2@1r3@1y;1G7.Hz;1K+;1T@;1V*;17=;17<;17>;17^;17~;177cJ:;1T7gB4h5;;1L,;1v2.;1Lc,1v2^F",
   "Fd,1g1f,1c1g,1v1w53c1y1+53<2dJh,1Lx53z53<73d63f635n1j,1Lw5Bk,1Ll,1v2m,10n,1@2~FSp,10:FSq,1L.7Br,",
   "19s,19t,19v,19w,195l1x,1L<2fJ+5Bk1s7y,1Jz,1J+,1Lf8BBn1x5B@,1@2@1n1<7B*,1L4p3=,1m6<,1l2>,1k2lBh1^",
   ",15q8B<2gJ~,1m6:,1m6;,1m6,1s7,,15.,13nFj5c.1j1Bl1d.1@2@1l1f.1g1g.1Lh.1Jj.1g1k.1b;Fq7l.1@2m.14<1h",
   "Bn.1Lp.1Dq.1hJr.1L,F9.F9cG9dG9fG9gG9hG9jG9kG9lG9mG9nG9pG9qG9s.1@2t.1.1v.1.6w.1l2x.1jBy.1Fz.1H+.1",
   "L@.1Y*.1P=.1r3<.1HwCd2>.1J^.1d2~.1<4:.15;.1P,.1k5+5P<2jJ..1q1cc2j1dc2>6fc2q1gc2j1hc2>6jc2t1kc21l",
   "c2d1mc2Cnc2Fpc2c1qc21rc2c1w1c5rGkJsc2Ptc20vc2Xwc25xc25yc20zDp7sGf2zc2d1+c2h1@c21*c20=c2X<c20>c2X",
   "^c2d1~c21:c21;c20,c2X.c21cd21dd20fd2XtGc5gd2=3hd2lJjd2c7kd2mJld25md25nd25pd20qd2g2rd2k2sd2f1td2k",
   "3vd2Kwd2Mxd2x1yd2Gzd2V+d2h2@d2,1*d2~1=d2m2<d2c2>d20^d2g2~d2k2:d2f1;d2k3,d2K.d2Mcf2x1df2Gff2Vgf2h",
   "2hf2,1jf2~1kf2m2lf2c2mf2nJnf20pf2g2qf2n6rf2k2sf2h3tf2f1vf2Pwf2z3xf2f6yf2,4zf2k3+f2x2@f2y3*f2y6=f",
   "2z8<f2z6>f2p1^f2q1~f2j3:f2c5;f2+8,f2@8.f2*8cg2=8dg2<8fg2>8gg2^8hg2w3jg2Ykg2*1lg2=1mg2.1ng2Kpg2w2",
   "qg2Mrg2x3sg2~4tg2Dvg2g3wg2Zxg2k1"]

private def tsxPart5 : List String :=
  ["yg2Xzg2m7+g2m1@g2v5*g2+6=g2h2<g2m2>g2t1^g2d6~g2.4:g2n6;g25,g2n6.g25ch2n6dh25fh2n6gh25hh2c7jh2c7k",
   "h25lh25mh25nh25ph25qh25rh25sh25th25vh25wh25xh25yh25zh25+h20@h2g2*h2k2=h2f1<h2f6>h2k3^h2y6~h2z6:h",
   "2c5;h2K,h2M.h2+6cj2h2dj2m2fj21gj20hj2g2jj2k2kj2f1lj2f6mj2k3nj2y6pj2z6qj2c5rj2Ksj2Mtj2+6vj2h2wj2m",
   "2xj21yj21zj21+j21@j21*j21=j21<j21>j2F^j21~j2b:j20r5kB;j2P,j2Y.j2Mck2bdk2m1fk2Ggk2c2hk2bjk2bkk2bl",
   "k2by2kBmk2bnk2Gpk20qk2s1rk2f1sk2Ktk2M1pJvk20wk2s1xk2f1yk2Kzk2M+k20@k2s1*k2f1=k2K<k2M>k20^k2s1~k2",
   "f1:k2K;k2M,k20.k2s1cl2f1dl2Kfl2Mgl20hl2Pjl2;1kl2p1ll2Yml2Mnl2w1pl2+3ql2Zrl2k1sl2btl2=4vl2m1wl2Gx",
   "l2c2~D~8yl20zl2P+l2Y@l2b*l2m1=l2c2<l20kDl3>l2;1^l2M~l2w1:l2+3l7r4;l2m1,l2G.l2c2cm20dm2l3fm2f1gm2",
   "Phm2;1jm2Ykm2Klm2Mmm2w1nm2Zpm2k1qm2brm2=4sm2m1tm2Gvm2c2wm20vGl3xm2Pym2Mzm2m1+m2G@m2c2*m20=m2;1<m",
   "2w1>m2m1^m2c2~m20y7l3:m2P;m2;1,m2Y.m2Mcn2w1dn2+3s7r4fn2Zgn2k1hn2bjn2=4kn2m1ln2Gmn2c2nn20vCl3pn2;",
   "1qn2Mrn2w1sn2m1tn2Gvn2c2wn20tDl3xn2;1yn2Mzn2w1+n2+3z7r4@n2m1*n2G=n2c2<n20wDl3>n2;1^n2M~n2w1:n2+3",
   "+7r4;n2m1,n2G.n2c2cp20yDl3dp2;1fp2Mgp2w1hp2+3t7r4jp2m1kp2Glp2c2mp20vDl3np2;1pp2Mqp2w1rp2+3*7r4sp",
   "2m1tp2Gvp2c2wp20xDl3xp2;1yp2Mzp2w1+p2+3@7r4@p2m1*p2G=p2c2<p2Ty1qJk7q4qCp4>p2Ty1rJl7q4sCp4^p2Ty1s",
   "Jz7q4pDp4~p2Ts7q4y1tJcDp4:p2Tx7vJy1*2*7q4rDp4;p2Ty1wJ+7q4qDp4,p2T@7q4sDp4.p2Tt7q4y1xJdDp4cq2T1yJ",
   "1zJ1+Jdq2f1fq2Kgq2h2hq2m2jq2k2kq2h3lq2,4mq2k3nq2x2pq2.1qq2Krq2w2sq2h2tq2m2vq2t1wq2d6xq2.4yq2<1zq",
   "2B+q24@q2T*q2<1=q2B<q2w1>q241@J1*J3=J1<J1>Jr5c9^q2b~q2G:q2H;q2H,q2H.q2Hcr2Hdr21fr2Lgr2Lt5n3d1=2@",
   "2<2j3>28*26^Jhr21jr21kr21lr21mr21x6=2wG<2hD>2j1~Js3<3fBn3t3<3gBn3j6=2xG<2:D>2v3*2>1<3g6n3^1<3h6n",
   "3k6=2yG<2,D>2w3*2l6=2zG<2.D>2x3*2m6=2+G<2cF>2y3*2nr20pr2s1qr2f1rr2Ksr2Mn6=2@G<2dF>2>2*2p6=2*G<2f",
   "F>2z3*2q6=2=G<2gF>2+3*2r6=2<G<2hF>2@3*2s6=2>G<2jF>2^2*2t6=2^G<2kF>2~2*2v6=2~G<2lF>2*3*2w6=2:G<2m",
   "F>2:2*2d1lB@2n3tr2j1.1<3@5n3V<3VlBvr2j1c2<3*5n3=3<3^7n36:Jz2;Jd2<3r3n3<3<3~7n3wr21xr20yr2mBzr2f1",
   "+r2,4@r2k3*r2x2=r2K<r2M>r2m1qFf2^r20~r2s1:r2f1;r2K,r2M.r21cs216,Jds2f2fs2.1gs2bhs2Gjs2Hks2.9ls2H",
   "ms2Hns2Hps2Hqs2Hrs2Hss25ts2bvs2Gws20xs20ys25zs20+s20@s20*s20=s20<s2b>s20^s20~s20:s20;s20,s20.s20",
   "ct2d1dt2Gft2bgt2Ght2bjt2Gkt20lt2mBmt2f1nt2,4pt2k3qt2x2rt2Kst2Mtt2m1vt2Hwt2Hxt2Hyt2Hzt2H+t2H@t2H*",
   "t2H=t2H<t2H>t2H^t2H~t20:t2s1;t2f1,t2K.t2Mcv20dv2s1fv2f1gv2Khv2Mjv20kv2s1lv2f1mv2Knv2Mpv2m1qv20vG",
   "s1rv2Msv2m1tv20vv2s1wv2f1xv2Kyv2Mzv2m1+v2k1@v20*v2s1=v2f1<v2K>v2M^v2m1~v20:v2s1;v2f1,v2K.v2Mcw2m",
   "1dw20fw2s1gw2f1hw2Kjw2Mkw2m1lw20mw2s1nw2f1pw2Kqw2Mrw2m1sw20tw2s1vw2f1ww2Kxw2Myw2m1zw20+w2s1@w2f1",
   "*w2K=w2M<w2m1>w20^w2s1~w2f1:w2K;w2M,w2m1.w20cx2s1dx2f1fx2Kgx2Mhx2m1jx2l2kx2l2.1l5@5nBc2l5*5nBSl5",
   "<5p6;2l5p8p6,2l5^8p6.2l5k9p6c3l5t9p61.Jlx28mx26nx2cKpx2j1d1v7@2w7qx2w2d2v7r3w7=3d7<3d7Vd7d1pB@26",
   "rx2j1d2d7r36VpBsx2j1tx28vx26wx2Lxx2Lyx2dKzx26tG8+x2fK@x2+7*x2F=x21j68xG6<x2gK>x26^x2d1~x28:x2@7k",
   "68yG6l68zG6m68+G6n68@G6p68*G6q68=G6r68<G6s68>G6t68^G6v68~G6w68:G6;x28,x2@7.x28cy2@7>18g6qB^18h6q",
   "By6rB:76z6rB;76dy2Ffy21gy2Fhy21jy2Fky21ly2Fmy21ny28py26x68wG6;G8qy26ry28sy26ty28vy26wy28xy26yy28",
   "zy26,G8+y26.G8@y26*y28=y26cH8<y26dH8>y26^y28~y26:y28;y26,y28.y26cz28dz26fH8fz26gH8gz26hz28jz26kz",
   "28lz26mz28nz26pz28qz26rz28sz26tz28vz26wz28xz26yz28zz26hH8+z26jH8@z26kH8*z26lH8=z26mH8<z26>z28^z2",
   "6~z28:z26;z28,z26.z28c+26nH8d+26pH8f+26qH8g+26h+28j+26k+28l+26m+28n+26p+28q+26r+28s+26t+28v+26rH",
   "8w+26sH8x+26tH8y+26vH8z+26wH8++26xH8@+26yH8*+26zH8=+26<+28>+26^+28~+26+H8:+26;+28,+26.+28c@26d@2",
   "8f@26g@28h@26j@28k@26l@28m@26@H8n@26*H8p@26=H8q@26<H8r@26>H8s@26^H8t@26~H8v@26:H8w@26x@28y@26;H8",
   "z@26,H8+@26@@28*@26=@28<@26>@28^@26~@21.H8:@26cJ8;@26dJ8,@26fJ8.@26gJ8c*26d*28f*26g*28h*26hJ8j*2",
   "6jJ8k*26l*28m*26n*28p*26q*28r*26kJ8s*26lJ8t*26mJ8v*26nJ8w*26x*28y*26pJ8z*26+*28@*26**28=*26<*28>",
   "*26^*28~*26s38fB6t38gB6=38<38:*21;*21,*21.*21c=20d=2bf=2m5g=2*5h=2=5j=2*5k=2=5l=2*5m=2=5n=2*5p=2",
   "=5y6*5:7=5z6*5;7=5q=20r=2bs=2m5t=20v=2bw=2m5x=20y=2bz=2m5+=20@=2b*=2m5==20<=2b>=2m5^=20~=2b:=2m5",
   ";=20,=21.=2c1f2*7>3=7g2*7^3=7h2*7~3=7c<21d<2c1f<21g<2c1h<21j<2c1k<21l<2c1m<2c1n<2c1p<2x2q<2x2r<2",
   "5s<25t<25v<25w<25x<25y<20z<2g2+<2d5@<2K*<2M=<2x1<<2G><2V^<2,1~<2~1:<25;<2F,<25qJq1rJd9.<20c>2g2d",
   ">2d5f>2Kg>2Mh>2x1j>2Gk>2Vl>2,1m>2~11hK1jKsJg5tJ+4z1+4+1+4vJg5wJ+4xJg5yJ+4zJg5+J+42kKz1sB+1sB@Jg5",
   "*J+41lK2mKy6+4z6+4n>2D2nKkBpKp>2L2qKmBf2q>241rKmBh15>3r>2Ls>2D2sK2tKnB@52vK1wKt>2Yv>2H=J<7<JxKmB",
   "H6tB2yK2zK2+K2@KnB*Kw>2.1>J<7^J@51=Kq5v3~J<7:J@55y4+2v3x>2f2z1vBZy4+1vBby42<Kz1wBZ>3+1wBb>31>K2^",
   "K2~K2:K2;K;J>7,J@5kB>7sJv4tJz4y6z4vJv4wJz4xJv4yJz4z6z4.J>7cK@5zJv4+Jz4@Jv4*Jz4y>2f2z244,K1.K2cLq",
   "7<52dL1fL1gL2hL2jL1;9z1xB+1xB1kLr7<5z1yB.54+1yBc641lL1mL,Cj5.Cz1z>2g1z1zB+1zB+>2j5@>2z1qJj5rJz1*",
   ">2j5=>2z1<>2j5>>2z1^>2j5~>2z1:>2z1;>2z1,>2z1.>2z1c^2z1d^2z1f^25g^2q1h^25j^20k^2g9l^2TdK5m^2q1n^2",
   "Yp^2*1q^2=1r^2Ks^2w1t^27v^2v5w^2x1x^2Gy^2Vz^2h2+^2,1@^2~1*^2t1=^2t4<^25>^2q1^^25~^25:^2q1;^25,^2",
   "5.^2q1c~25d~25f~2q1g~25h~20j~2@4k~25l~2Km~2x1n~2Gp~2Vq~2,1r~2~1fKnLs~20t~2@4v~25w~2Kx~2x1y~2Gz~2",
   "V+~2,1@~2~1*~20=~2@4<~25>~2K^~2x1~~2G:~2V;~2,1,~2~1.~20c:2@4d:25f:2Kg:2x1h:2Gj:2Vk:2,1l:2~1m:20n",
   ":2@4p:25q:2Kr:2x1s:2Gt:2Vv:2,1w:2~1x:20y:2@4z:25+:2K@:2x1*:2G=:2V<:2,1>:2~1.1+Bc2+B^:23d3x7~:2L:",
   ":2L;:20,:2@4.:2Kc;2x1d;2Gf;2Vg;2,1h;2~1j1pL>3h6f2R^3h6g2R~3h6h2R.1Rc2R6@Bk1x7j;2L:3@Bj1qLjB*BgK*",
   "BhKN8~62rLH~62sL:54,54k;2Ll;2Lw1n5j2Rk2Rl2Rm;2Ln;2Lw1tL;3RGR,1j6p;2L9R9=BSR4j6,3j6q;2L.3RYRc4Rm2",
   "Rf1RTRf3Rn2Nd4vLp2Nr;2v1f4=Bg1Rg3Rg4R;2Rh1R*1Rh4Rj4Rk4Rl4Rm4Rn4Rp4RZRbRCRCNq4Rr4Rs4Rt4Rv4Rq2Rw4R",
   ",2Rx4Ry4Rz4R+4R@4R*4R=4R<4R>4R^4Rr2N~4RDRDN.2R:4R;4R,4R.4Rc5Rd5Rf5Rc3Rg5Rh5Rj5Rk5Rl5Rs2Nt2Nv2Ns;",
   "2j1fKwLj1Nl1xLt;2Dm1yLv;2Dn1^2jKN+6Np1zLw;2Dx1N~1NkKN@6NJNJ^2K^2lKNpBNq1^2qBN=3NrBNmKNnKNpKN*6N=",
   "6NqKNW^2LNL^20+LrKN0@L0*L0=L0<L0>LsKN<6N>6NMNM^2r1^2sBNtBNv3NtKN<3NvKNNNN^2wKNPNP^2QNQ^2xKNyKNs1",
   "^2t1^2zKN^6N~6N:6N;6Nx1~6+KN,6N.6NvBNwBNw3Nx3Ny3N>2N@KNc7Nd7Nv1^2xBNz3N+3N@3N^2N~2N*3N:2NH^6*2^6",
   "8^6s3Nt3N>1<B^1<Bd2N>1N^1N=3n5x;2Py;2x1z;2G+;2t1@;27*;2x1=;2G<;2t1>;2t4<3n5Hf7yBm3*2f7zBm3Vn5V>B",
   "^;2j18f7+Bm3f7^L2~Ld2n5d3y7~;2L:;2Ls3n5t3n5d1>Bj1:Ll1;L;;2Dm1,L,;2Dn1~2p1.L.;2DJ~2K~2q1~2W~2L~20",
   "cM>32f2^70dM0fM0gM0hM0jMM~2r1~2N~2P~2Q~2s1~2t1~2^32g2^78=6H=6c,27d,2x1f,2Gg,2t1h,2t4~32h2^7v1~22",
   "kM6^Bk1y7j,2Lm5lM:3^Bg1~Bh1~B;1m3h3m3:1m3GtB8:6H:6@Bh1S>3*Bh1Y>3J:2K:2q1:2W:2L:20mM0nM0pM0qM0rM0",
   "sMM:2r1:2N:2P:2Q:2s1:2t1:2v1:2l1tMk,2Dm1vMl,2Dn1:2p1wMm,2Dj1xMn,20p,2j2q,25HQjB:B*2Q*KyM8Q=Ft1p5",
   "@1gK:B2zMhKQKd1r,2Fs,2F=K5t,27v,2Gw,27x,2t1=Bv3y,2H2+Mx1=6z,27+,2G@,27*,2t1<Bv3=,2Hd1;2;3WGW,1k6",
   "<,2L9W9;BSW4k6,3k6>,2L.3W<Kv3^,2HYWc4Wm2Wf1WTWf3Wn2Qd4@Mp2Q~,2v1f4;Bg1Wg3Wg4Wj2W;2Wh1W*1Wh4Wj4Wk",
   "4Wl4Wm4Wn4Wp4WZWbWCWCQq4Wr4Ws4Wt4Wv4Wq2Ww4Wk2W,2Wx4Wy4Wz4W+4W@4W*4W=4W<4W>4W^4Wr2Q~4WDWDQl2W.2W:",
   "4W;4W,4W.4Wc5Wd5Wf5Wc3Wg5Wh5Wj5Wk5Wl5Ws2Qd1*Mg7=M:,2d2<Cc1:1v3;,2H;1v3,,2Ht2Qv2Qf1^9x1:6+Bv3@BHy",
   "Bv3*BHg1>3h1>3@Bf2<54*Bf2>54x2~7G>3m3~7T>3k3~7B>3.,20c.2j2d.252<MJ,2K,2q1,2W,2L,20>M0^M0~M0:M0;M",
   "0,MM,2r1,2N,2P,2Q,2s1,2t1,2v1,2l1.Mf.2Dm1cNg.2Dn1,2p1dNh.2D2fNj1QR*32,Bj.2p1>Kg1k.2Dl.24<Kn2jKQ+",
   "6Qx1QkKQ@6QKFJQlKQm.21n.20p.2j2q.2h1pBQ<Bn2qBQr.2Vs.2:7rBQmKQnKQpKQm5gN*6Q=6QqKQLQrKQf7JsKQ<6Q>6",
   "QMQt.20v.2@4w.25x.2Ky.2x1z.2G+.2V@.2,1*.2~1sBQ*F*3qB,B=.2p1>Bg1<.2D>.24tBQv3Qg7J^.2+1^Kn2tKQ~.2r",
   "7:.2V;.2V,.2VvKQNQwKQPQQQxKQyKQzKQ^6Q~6Q:6Q;6Q+KQ,6Q.6QvBQwBQw3Qx3Qy3Q>2Q..2+1~Kn2cc3Vdc37fc37gc",
   "3V@KQc7Qd7QxBQz3Q+3Q@3Q^2Q~2Qhc3+1:Kn2jc3Vkc3Klc37mc3Vnc37pc37qc37rc3V*3Q:2Qsc3Htc3Hvc3Twc3Vxc3K",
   "yc37zc3V+c3V@c3K*c37=c3V<c3K>c37^c3V~c3T:c3V=Bn2;c3Vv3p2j6;2,c3Vg7hNw3p2k6;2x3p2l6;2y3p2m6;2>2p2",
   "n6;2.c3Vz3p2p6;2cd3f2+3p2q6;2@3p2r6;2^2p2s6;2~2p2t6;2dd3Tfd3V*3p2v6;2:2p2w6;2v3^1x2;7w3^1x3^1y3^",
   "12jNf1~9m3;7Tt7^54>2^1z3^1+3^1@3^1^2^1~2^1*3^1:2^1m5kNx2.Bx1cBm3.B8<6H<6Sy4Yy4J.2K.2q1.2W.2L.20l",
   "N0mN0nN0pN0qN0rNM.2r1.2N.2P.2Q.2s1.2t1.2v1.2l1sNgd3Dm1tNhd3Dn1.2p1vNjd3Dkd3Vld3Vmd3Vnd3Tpd3VJc3K",
   "c3q1c3Wc3Lc30wN0xN0yN0zN0+N0@NMc3r1c3Nc3Pc3Qc3s1c3t1c3v1c3l1*Nqd3Dm1=Nrd3Dn1c3p1<Nsd3D2>N2^N2~Nt",
   "d3d1vd30wd3@4xd3h1yd3Kzd3x1+d3G@d3V*d3,1=d3~12p2<d3T>d3K^d37~d3x1:d3G;d3V,d3h2.d3t1cf3t4df3h1ff3",
   "q1gf3j1=Kh1j1:Nx6;2hB;Nm5,Nk3;7x54v5,6Hp2hf3d2;1<4+D,6*2p2jf3d2h3<4j3,6kf3d2:1<4x2<5f1t9=2:9x1<6",
   "zBf2h3g18z7v7<5Hz7w7<5lf3d1mf3q1nf3j1Jd3Kd3q1d3Wd3Ld30.N0cP0dP0fP0gP0hPMd3r1d3Nd3Pd3Qd3s1d3t1d3v",
   "1d3l1jPpf3Dm1kPqf3Dn1d3p1lPrf3DJf3Kf3q1f3Wf3Lf30mP0nP0pP0qP0rP0sPMf3r1f3Nf3Pf3Qf3s1f3t1f3v1f3l1t",
   "Psf3Dm1vPtf3Dn1f3p1wPvf3D2xP2yP2zPwf3g1xf31yf32zf3^1rBn2+f3:7@f32*f3^1>2n2=f32<f3^1vBn2>f32^f3^1",
   "wBn2~f3t1:f37;f3G,f37.f3t1cg32dg3^1^2n2fg32gg3^1~2n2hg32jg3^1xBn2kg37lg3Gmg37ng3t1pg37qg3Grg37sg",
   "3t1tg32vg3^1:2n2wg3d2g7<4>Cc1;1FyB1h3FzB1:1F+B1f2,7>3.7By4g2,7^3.7h2,7~3.7k3<5Ty4xg3g1yg31JZKZq1",
   "ZWZLZ0+P0@P0*P0=P0<P0>PMZr1ZNZPZQZs1Zt1Zv1Z*K5l1^Pzg3Dm1~P+g3Dn1Zp1:P@g3D*g3g1=g3g1<g3g1>g3g12dB",
   "^g3g1~g3g1:g3g12;P;g37,g37.g37ch37dh37fh37gh37hh37jh37kh37lh37mh37nh37ph37qh37m5,P2fB2f7rh3cCsh3",
   "@1th3q1^Bj1vh3cCwh3@1xh3q1yh3j1zh3L;Kq2+h3@1,Kq2@h3@1.Kq2*h3@1cLq2=h3@1dLq2<h3@1fLq2>h3@1gLq2^h3",
   "@1hLq2~h3@1jLq2:h3@1kLq2;h3@1lLq2,h3@1mLq2.h3@1nLq2cj3@1pLq2dj3@1fj3j1gj3j1Vq2hj3j1d2q2jj3j1kj3+",
   "5lj3@1dK+5mj3@1nj3+5pj3@1d2+5qj3x1rj3Gsj3h2tj3t1vj37wj3x1xj3Gyj3h2zj3t1+j3t4@j3K*j3T=j3V=J.P<JcQ",
   "<j37>j3x1^j3G~j3t1:j3t4sFn7nB@1;j3v5w2gB,j3x1.j3l2ck3Tdk37fk3Ggk3Vhk35jk37kk37lk3Vmk3x1nk3x1pk35",
   "qk35rk35sk35tk3l2vk35wk37xk35yk35zk35+k35@k3l2*k3l2=k3G<k3V>k37^k3G~k3G:k3T;k3V,k37.k3Gcl37dl3Gf",
   "l37gl3Ghl3Gjl3G;Jl6,J@1>Jl6^J@1.Jl6cK@1~Jl6:J@1kl37ll3Gml37nl37pl37ql3Grl37sl37tl3Gvl37wl3Gxl37y",
   "l3Gzl37+l3G@l37*l37=l3G<l37>l37^l3G~l37:l37;l3G,l37.l37cm3Gdm37fm3Ggm37hm37jm3Gkm37lm30mm3j2,7+1",
   "d3h5~8+1x4r2:8+1y4r2;8+1z4r2,8+1+4r2.8+1@4r2c9+1*4r2d9+1=4r2f9+1<4r2l9+1:4r2m9+1;4r2n9+1,4r2p9+1",
   ".4r2v9+1g5r2w9+1h5r2x9+1j5r2y9+1k5r25y1nm30pm3k2qm3;15h54dCg8+1,3dCrm3Lsm3v2,5+1h1c8r8+1h4c8t8+1",
   "k4c8.53Z>5c63b>5z83q4>5+83r4>5@83s4>5*83t4>5.1fC@5Bc2fC*5Bd3n1tm3Lvm3v2,7Bwm3Lxm3v2z236gC.73k1h5",
   "f83,1y1c83:3gC:53g1hCn83g4hCn33j2d8p33k2d8q33l2d8ym3q3d83;3y1=53Gy1By19y19jCh83.3y1>53Yy1j83c4y1",
   "=23f1y1^53Ty1~53f3y1xF3d4dQm83f4jC;53g3y1@1y1q83*1y1s83j4y1v83l4y1w83m4y1x83n4y1y83p4y1Cy1=83v4y",
   "1>83w4y1zm3k1+m3k1@m3k1*m3k1g93>4y1h93^4y1j93~4y1Dy1q93c5y1r93d5y1s93f5y1z93l5y1x4s2~8By4s2:8Bz4",
   "s2;8B+4s2,8B@4s2.8B*4s2c9B=4s2d9B<4s2f9B:4s2l9B;4s2m9B,4s2n9B.4s2p9Bg5s2v9Bh5s2w9Bj5s2x9Bk5s2y9B",
   "d3l1=m3L<m3v2>m3L^m3v2~m3q3:m3k1;m3k1,m3k1.m3k1cn3q3dn3k1fn3k1gn3k1hn3k1jn3q3kn3k1ln3k1mn3k1nn3k",
   "1pn3q3qn3k1rn3k1sn3k1tn3k1vn3q3wn3q3xn3q3yn3q3lBFzn3=3+n3J@n3S*n34Bh5=n30<n3bc1h5>n34^n34~n3S:n3",
   "45fQqLgQ;n3c1w5v1@1h5,n34.n34cp3Sdp34fp3Sgp34hp3Sjp34kp3Slp34rLSmp34np3Spp34qp3Srp34sp3Stp34vp3S",
   "wp34xp3Syp34zp3S+p34sLS@p34*p3S=p34<p3S>p34^p3S~p34:p3S;p34,p3S.p34k1n1cq30dq3bfq30gq3bhq30jq3bk",
   "q30lq3bmq30nq3bpq30qq3brq34k83m2kCwF3n2p5l83p2hQsq3v1tq3g1vq34wq34Cp5<83q2kCxq34+F3t2p5@F3v2p5yq",
   "34yF3r2p5Dp5zq34+q34@q34*q34=q34zF3s2p5~Bg7k1f8,3n1<q3L>q3v2g8Bh1^5,5Bh4^5r8Bk4^5t8BZ~5.5Bb~5c6B",
   "q4~5z8Br4~5+8Bs4~5@8Bt4~5*8Bf2^5>3Bg2^5^3Bh2^5~3Bx4t2y4t2z4t2+4t2@4t2*4t2=4t2<4t2:4t2;4t2,4t2.4t",
   "2g5t2h5t2j5t2k5t2^q3F~q35:q3r1;q33~Bg85jQ,q34.q39cr39dr39fr39gr396lCz2B,1n1:3lCc8Bg1mC:5Bg4mCn8B",
   "j2h8n3Bk2h8p3Bl2h8q3Bk1l1hr3r1*1kQjr3r1kr3r1d3p3lr3z5mr3Fnr35pr3z2FlQqr35:Bg7,1f8>B=9*1mQ;3n1d8B",
   "Gn1=5B9n19nC~B^3Sn1<5B.3n1h8BYn1>5Bc4n1j8Bm2pCk8Bf1n1=2BTn1^5Bf3n1~5Bn2q5d4g79f8p2nQl8Brr3v1f4nC",
   "m8Bg3n1;5B;2n1p8B*1n1j4n1s8Bl4n1v8Bm4n1w8Bn4n1x8Bp4n1y8BCn1d6BCq5v4n1=8Bq2pC<8Bw4n1>8B,2n1^8B>4n",
   "1g9B^4n1h9Br2q5~4n1j9BDn1f6BDq5.2n1k9Bc5n1q9Bd5n1r9Bf5n1s9Bc3n1t9Bl5n1z9Bs2q5t2q5v2q5f2:5,3l1sr3",
   "Ltr3v2g2:5h1:5h4:5k4:5Z;5b;5q4;5r4;5s4;5t4;5h2:5vr3z5wr3z5xr3z55q6yr30zr30+r30@r30*r30=r3P<r3z5>",
   "r3m6^r3D~r33:Bg8:r35;Bg7,B,5.B,56qC,1l1:3qCg1rCg4rC;r30,r30.r30cs30k1q65p3ds30fs30tLr6vLr6gs3r1h",
   "s3r1js3r1ks3r1ls33;Bg8wLr6xLr6yLr6~Fs6ms3*1ns3=1ps3Dqs30rs3Pss3pQts3s3vs3r1ws3r1:Fs6xs3Sys34zs3S",
   "+s34@s3S*s34rLs6=s3S<s34>s3S^s34~s3S:s34;s3S,s34.s3Sct34dt3Sft34gt3Sht34jt3Skt34lt3Smt34nt3Spt34",
   "qt3Srt34sLs6st3Stt34vt3Swt34xt3Syt34zt3S+t34@t3S*t34=t3S<t34>t3S^t34~t3S:t34;t3S,t34.t3Scv34dv3S",
   "fv34gv3Shv34jv3Skv34lv3Smv34nv3Spv34qv3Srv34sv3Stv34vv3s6wv3Sxv34yv3Szv34+v3S@v34*v3S=v34<v3S>v3",
   "4^v3S~v34:v3S;v34,v3S.v34cw3Sdw34fw3Sgw34hw3Sjw34kw3Slw34mw3Snw34,B^3.B^3t2r5v2r5:B^3;3l1Gl19l19",
   "sCSl1.3l1Yl1c4l1m2tCf1l1Tl1n2r5d4^3p2qQpw3v1f4sCj2l1;2l1*1l1j4l1l4l1m4l1n4l1p4l1Cl1Cr5v4l1q2tCw4",
   "l1k2l1,2l1>4l1^4l1r2r5~4l1Dl1Dr5l2l1.2l1c5l1d5l1f5l1c3l1l5l1s2r5f3l1g3l1.1l1c2l1qw3r1rw3r1sw3r1t",
   "w3r1vw3r1ww3r1xw3r1yw3r1zw3r1+w3r1@w3r1*w3r1=w3r1<w3r1>w3r1^w3r1~w3r1:w3r1k1p3;w3.4,w30.w3s3cx3r",
   "1dx30fx3Zgx3rQhx3sQjx3tQ*1vQkx39lx39mx39g6vC>1wCh6vC^1wC;B^3.1xCc2xCf2j8g2j8h2j8nx30px3s3qx3r1rx",
   "30sx3btx3Zvx30wx3bxx3Zyx30zx3b+x3Z@x30*x3b=x3Z<x3Z>x3Z^x3Z~x3.4@1q6:x30Bq6c1q6;x30,x3T.x3g1cy30d",
   "y3Tfy33<1wQgy3*4hy34jy30ky3Tly30my3T:1^4;1^4ny30^F~3py3~3qy30ry33sy3:1ty3Lvy3g1h3^4wy3Pxy3r3>BxQ",
   "yy39zy39+y39@y39*y3JzLyCtL^4vL^4=y3Ff7yCwL^4xL^4yL^4cCh7dCh7fCh7gCh7>1zC^1zC<y3L>y3L@1p3^y3L~y3L",
   ":y3L;y3L,y30.y3Tcz30dz3TBp3c1p3Cs5q2+Ct2s5v2s5r2s5Ds5s2s5fz3Lgz30hz3Tjz33kz30lz3Ts5hBm2+Cn2s5p2y",
   "Qmz3v1nz30pz3Tqz30rz3T;F.6sz3Z,B.5tz3g2vz30wz3Zxz30yz3s3zz3r1.B.5+z30@z3l2*z30=z3l2FzQ<z34>z30^z",
   "35~z3*4:z3P;z30,z30.z33c+3:1d+3.6f+3Zg+3g6h+3Fj+3c1k+30l+3l2m+34n+30p+35q+30r+30s+34,Fy2t+3Jv+3z",
   "1w+3f2x+34qL+Qy+3@Qn30j2k8z+30++3l2@+34*+3l2=+35<+3jB.Fy2>+34^+34cGy2~+34:+3J+L*Qp30k2k8;+34dGy2",
   "fGy2,+34.+34c@3Jd@34f@3J@Lz1g@3Ph@3k5q30l2k8j@34gGy2hGy2k@34l@34m@34n@34jGy2kGy2p@34q@34lGy2mGy2",
   "r@34s@34nGy2pGy2t@34qGy2cCj7dCj7fCj7gCj7hC,5jC,5kC,5lC,5Sp3;2p3,2p3.2p3c3p3=D.6v@3Zw@3Zx@30y@3s3",
   "z@3r1+@3F@@3c1*@34=@3J<@3z1>@34^@3JCt5q2@Ct2t5v2t5~@34:@3Jr2t5Dt5;@34,@34.@34s2t5c*3Fd*3c1f*3Jg*",
   "3z1h*3Jj*3Jk*3Fl*3c1m*3Jn*3z1p*3Jq*3Jr*3Fs*3c1t*3Jv*3z1w*3Jx*3Jy*3Fz*3c1+*3J@*3z1**3J=*3J<*3F>*3",
   "c1^*3g2~*34:*30;*34,*30m2@Cn2t5p2=Q.*3v1c=34d=34f=34g=34h=30j=30k=3g2l=30m=30n=30p=3p1q=3.1>Kt8=",
   "Bt6r=3>1s=3Dt=30v=3c1w=3s3s5<Qx=35y=3J<Bt6z=3Z+=3>4@=3>1*=3D==30<=3:1>=3>1^=3D*Ll8~=3C=L>1<LD:=3",
   "d1^Kt6;=3J,=39.=3Zc<3>1d<3Df<3~3g<3>1h<3Dj<3>1k<3Dl<3>1m<3D>Ll8n<3Fp<35<1>Qq<3Cr<3C^L>1~LDs<3d1~",
   "Kt6t<3Jv<3Jw<39x<3f2y<3Zz<3g6+<3>4@<30*<3:1=<30<<3:1><3>1^<3D~<3>1:<3D:Ll8;<3C:Kt6,<3z2.<31c>39d",
   ">3Jf>3Jg>39h>39@L9j>39k>30l>3:1m>3d1n>3Jp>3Jq>39r>39s>39t>39v>39w>30x>3:1y>39z>39+>39@>3J*>3J=>3",
   "9<>39>>39^>39~>39:>3J;>3J,>39.>39c^39d^39f^3Jg^3Jh^39j^3J;G9,G9.G9hC^3cH9dH9:1m8;1m8fH9gH9hH9jH9",
   "kH9<L0=L:1jC^3kC^3lC^3lH9mH9h3m8nH9pH9qH9rH9sH9tH9vH9wH9~L0^L:1xH9yH9zH9+H9@H9*H9=H9<H9>H9^H9~H9",
   ":H9;H9,H9.H9cJ9dJ9fJ9gJ9hJ9jJ9kJ9lJ9mJ9nJ9pJ9+6>1+9D@6>1@9D*6>1*9D=6>1=9D<6>1<9D>6>1>9D^6>1^9D~6",
   ">1~9D:6>1:9D;6>1;9D,6>1,9D.6>1.9Dc7>1cBDd7>1dBD+90+6:1@90@6:1*90*6:1=90=6:1<90<6:1>90>6:1^90^6:1",
   "~90~6:1:90:6:1;90;6:1,90,6:1.90.6:1cB0c7:1dB0d7:1s39t39k^30l^3p1m^30n^3c1p^3s3q^35r^3Zs^3>4t^3Cv",
   "^3d1w^3Zx^3Fy^35z^3C+^3C@^3d1*^3C=^3d1<^30>^3c1^^3s3~^3Z:^3>4;^3Z,^30.^3c1c~3s3d~3Zf~3>4g~3Zh~3Z",
   "j~3>4k~3Zl~3.1m~3.1n~3Cp~3Cq~3Cr~3C;L*1s~3w4;L=1t~3x4v~3d1w~3d1x~3d1y~3.1z~3d1+~3d1,L*1,L=1zLd1@",
   "~3d1*~3q1=~3j1<~3d1>~3d1^~3*4~~3F>F^Q:~3*1;~3w4,~3=1.~3x4^By2c:3n8d:3~3f:30g:3Ff7d1h:3q1j:3j1k:3",
   "h1l:3F.Ld1m:3*4n:3n8p:3g2q:3Hr:3~3s:3c1t:3~Qv:3q7w:3*Cx:33y:3n8z:3F+:34+L:Q@:3F*:31=:3p8cM*1<:3q",
   "8cM=1>:30^:3P~:3r3::3P;:3r3,:31.:31c;3p8dM*1d;3q8dM=1f;3Pg;3Fh;3r3j;3h1k;31l;31m;3g1n;3p8p;3*1q;",
   "3q8r;3=1s;31t;31v;31fM*1w;3w4fM=1x;3x4y;3d1z;3L+;3d1@;3d1gM*1gM=1*;3d1=;3d1<;3D>;3H^;3c1~;31:;3g",
   "1hM*1;;3w4hM=1,;3x4jM*1jM=1.;3Hc,31d,3g1kM*1f,3w4kM=1g,3x4lM*1lM=1h,3Dj,3Hk,31l,3g1mM*1m,3w4mM=1",
   "n,3x4nM*1nM=1p,3Hq,31r,3g1pM*1s,3w4pM=1t,3x4qM*1qM=1rM*1v,3w4rM=1w,3x4sM*1sM=1x,3.1y,3g1z,34+,3g",
   "1@,34*,34=,34<,34>,34^,3p1~,3j3:,30;,3d1,,30.,3d1c.3z2d.3h3f.33g.33h.35j.35cCk7k.3Fl.3Hm.3Fn.3c1",
   "p.30q.3Yr.3l7s.3Ft.3z2v.3h1lB;Qw.33x.3z2rGh1y.3Fz.3=C+.35@.35*.35=.35<.3FtM5>.3FvM5dCk7^.3F~.3p1",
   ":.31;.31,.3FsG1^BJ>D,Q..3Fcc4<Cdc4z2fc4h1gc4l7hc4Fjc4z2kc40lc40mc4Fnc4Jpc4J.LJfCk7qc4FwMHrc4Jsc4",
   "Ftc4Pvc4FxMc1wc4Fxc45yc4Hzc4F+c4l7@c4FyM5*c40=c40<c4FzM5>c4j1gCk7^c4H~c4J:c4J;c4J,c4J.c4:7cd4Ydd",
   "40fd4Ygd4Xhd40jd4Ykd4Xld40md4Ynd4Xpd4Fqd4Frd45sd4Ftd45vd4l7wd4Jxd4Jyd4Jzd4J+d4J@d4J*d4F+M1=d4*C<",
   "d4F@M5>d4<C^d4J~d4J:d4J;d4J,d4J.d4Jcf4Jdf4Jff4Jgf4Jhf4Jjf4Jkf4Jlf4Jmf4Jnf4Jpf4Jqf4Jrf4Jsf4Jtf4Jv",
   "f4Jwf4Jxf4Jyf4Jzf4P*Lr8+f4P>Lr8@f4P:Lr8~5Pf3k5;5Pg3k5n3Pj2k5p3Pk2k5q3Pl2k5*f4h3=f45<f45>f4F^f4H~",
   "f4F:f4c1;f4Y,f45.f45cg45dg45fg4Fgg41hg41jg4Lkg4Flg4Fmg4<1ng4Bpg4Fqg45rg4Hsg4Ftg4Fvg4Fwg45xg4Fyg4",
   "5zg45+g4F@g4H*g45=g45<g4F>g4L^g4F~g4H:g4F;g4Y,g40.g4Ych4Xdh40fh4Ygh4Xhh40jh4Ykh4Xlh4Fmh4Lnh4Fph4",
   "<1qh4Brh4Hsh4Fth4Fvh4Lwh4Fxh4Hyh4Fzh4Y+h40@h4Y*h4X=h40<h4Y>h4X^h40~h4Y:h4X;h4F,h4H.h4Fcj4Hdj4Ffj",
   "4p1gj4j3hj40jj4+7kj43lj4p1mj4j3n"]

private def tsxPart6 : List String :=
  ["j4+7pj43<1f2qj4p1rj4d1sj40tj4Tvj4Fwj4Pxj4p1yj4d1zj4d1+j4P@j40*j4XhC.5=j4q1<j4j1>j40^j4T~j4h1:j4P",
   ";j4d1vMh1tMh1,j4*4.j4p1ck40dk4~3fk4c1jC.5kC.5lC.5gk4q1hk4j1jk4d1kk4d1lk4d1mk4h1nk4q1pk4j1qk4d1;K",
   "h1wM*4rk4*4sk4*4tk40vk4Xwk40xk4Xyk40zk4X+k4~3@k4~3xM~3*k40=k4XyMh1<k4h1>k4q1^k4j1~k4h1:k4h1zMh18",
   "d1,Kh1.Kh1;k4p7,k4*4.k40cl4Xdl40fl4Xgl40hl4Xjl4f2kl4f2ll4~3ml4h1nl4h1pl4h1ql4h1*2d1cLh1dLh1rl4d2",
   "sl4g1tl4f2+Mf2@Mh1fLh1gLh1hLh1jLh1kLh1lLh1mLh1nLh1pLh1pBd1sBd1tBd1vl4Pwl40xl4Xyl4q1zl4j1+l4c1@l4",
   "q1*l4j1=l4d1<l40>l4X^l40~l4X:l40;l4X,l40.l4Xcm40dm4Xfm40gm4Xhm40jm4Xkm40lm4Xmm4c1nm40pm4Xqm40rm4",
   "Xsm40tm4Xvm40wm4Xxm40ym4Xzm40+m4X@m40*m4X=m4c1<m40>m4X^m40~m4X:m40;m4X,m40.m4Xcn40dn4Xfn40gn4Xhn",
   "40jn4Xkn40ln4Xmn40nn4Xpn40qn4Xrn40sn4Xtn40vn4Xwn40xn4Xyn40zn4X+n40@n4X*n40=n4X<n40>n4X^n40~n40:n",
   "4T;n40,n4T.n4v6cp4.1dp40fp40gp4c7hp4Cjp43kp4f1lp40mp4w2np4z2*M>Cpp43qp40rp4c5sp4C*M^Ctp43vp4w6wp",
   "40xp40yp4.1zp43+p40@p40*p40=p43<p40>p4=3^p4z2~p40:p40;p43,p4g1.p4Hcq4Gdq4k1fq4Mgq40hq4x6jq4Lkq4C",
   "lq4Pmq40nq40pq40qq4=3rq40sq4=3tq4=Cvq4z2wq4=3xq4p1yq4=3zq4g1+q41@q4Y*q4M=q4C<q40>q40^q4C~q4g1:q4",
   "=3;q41,q4C.q4Ccr4=3dr4Hfr4Hgr4g1hr41jr41kr41lr41mr41nr41pr41qr41rr41sr41tr41vr4Cwr4Hxr4Hyr41zr41",
   "+r41@r41*r41=r41<r41>r41^r41~r41nCd2:r4C=M>C;r4C,r4C.r4C=M^Ccs43ds4w6fs40gs40hs4Hjs4k1ks40ls4x6m",
   "s4Cns40ps4Cqs40rs40ss4Cts4Cvs4Cws41xs41ys41zs41+s41@s41*s41=s41<s41>s41^s4C~s41:s41;s41,s41.s41c",
   "t41dt41ft41gt41ht41jt4w6kt40lt40mt4Hnt4k1pt40qt4x6rt4Cst4Ctt40vt40wt4Cxt4Cyt4Czt41+t41@t41*t41=t",
   "41<t41>t41^t41~t41:t41;t4C,t41.t41cv41dv41fv41gv41hv41jv41kv41lv41mv4w6nv40pv40qv4Hrv4k1sv40tv4x",
   "6vv4Cwv4Cxv40yv40zv4C+v4C@v4C*v41=v41<v41>v41^v41~v41:v41;v41,v41.v41cw4Cdw41fw41gw41hw41jw41kw4",
   "1lw41mw41nw41pw41qw4w6rw40sw40tw4k1vw40ww4x6xw4Cyw4Czw40+w40@w4C*w4C=w4C<w41>w41^w41~w41:w41;w41",
   ",w41.w41cx41dx41fx4Cgx41hx41jx41kx41lx41mx41nx41px41qx41rx41sx40tx40vx40wx40xx4v6yx40zx40+x40@x4",
   "0*x40=x40<x40>x4L^x4C~x40:x4C;x4C,x4C.x4Ccy4C+Cd2dy4Cfy4Cgy4Chy4Cjy43ky4v6ly4LxCd2my4Cny4Cpy4Cqy",
   "4Cry43sy4v6ty4LzCd2vy4Cwy4Cxy4Cyy4Czy43+y4v6@y4L=Cd2*y4C=y4C<y4C>y4C^y43~y4LyCd2:y4.1;y4C,y43.y4",
   "f1cz4Cdz4Cfz4Cgz43hz4.1jz43kz43lz4Mmz40nz4Cpz4Cqz4Crz4g1sz4Ctz4Cvz4C*Cd2wz4Cxz43yz4Czz4C+z4C@z43",
   "*z43@Cd2=z4C<z43>z4C^z4C~z4C:z43;z4M,z43.z4Mc+43d+4Mf+4w2g+40h+4Mj+40k+40l+40m+4Mlh420wd2@102,11",
   "DC58613m111151CN11111BK11111111J161111z2111111111z*11*102361111Q111511MRF119MB=11l2h1Jq3SL11111h",
   "1y11n91+81111111=71111*102361111Q111511p1F119MB1*11l2h1J@3GL11111*21n911z81111111=71111:102,11DC",
   "5882m111151C6G1211BK11111111J161111^6fD11<811111111111111sY:102,11DC5882m111151C6G1211BK11111111",
   "J161111^6fD11<811111111111111tY:102,11DC5882m111151C6G1211BK11111111J161111^6fD11<81111111111111",
   "1vY:102,11DC5882m111151C6G1211BK11111111J161111^6fD11zJgQ11111111111111:102,11DC5882m111151C6G12",
   "11BK11111111J161111^6fD11zJyQ11111111111111@10+f211111111111111111111111111111111111111111111111",
   "1111@102,11DC58613m111151CN11111BK11111111J161111z2111111111p>11@102,11DC58613m111151CN11111BK11",
   "111111J161111z2111111111r>11@102,11DC58613m111151CN11111BK11111111J161111z2111111111t>11@102,11D",
   "C58613m111151CN11111BK11111111J161111z2111111111w>11+102,11DC58613m111151CN11111BK11111111J16111",
   "1z2111111111y>1+102,11DC58613m111151CN11111BK11111111J161111z2111111111z>1+102,11DC58613m111151C",
   "N11111BK11111111J161111z2111111111+>1+102,11DC58613m111151CN11111BK11111111J161111z2111111111@>1",
   "+102,11DC58613m111151CN11111BK11111111J161111z2111111111*>1+102,11DC58613m111151CN11111BK1111111",
   "1J161111z2111111111=>1+102,11DC58613m111151CN11111BK11111111J161111z2111111111<>1+102,11DC58613m",
   "111151CN11111BK11111111J161111z2111111111>>1+102,11DC58613m111151CN11111BK11111111J161111z211111",
   "1111^>1+102,11DC58613m111151CN11111BK11111111J161111z2111111111~>1+102,11DC58613m111151CN11111BK",
   "11111111J161111z2111111111:>1+102,11DC58613m111151CN11111BK11111111J161111z2111111111;>1+102,11D",
   "C58613m111151CN11111BK11111111J161111z2111111111,>1+102,11DC58613m111151CN11111BK11111111J161111",
   "z2111111111.>1+102,11DC58613m111151CN11111BK11111111J161111z2111111111c^1+102,11DC58613m111151CN",
   "11111BK11111111J161111z2111111111d^1z102,11DC58613m111151CN11111BK11111111vP1;GrT1111111111111z1",
   "02,11DC58613m111151CN11111BK11111111J161111z2111111111x1029111185K11T811112f4J1111d1h1J11f4M113q",
   "11111l1111111z1fy1z102,11DC58613m111151CN11111BK11111111vP1;G~T1111111111111x1029111185K11T81111",
   "2f4J1111d1h1J11f4M113q11111l1111111z1xy1x1029111185K11T811112f4J1111d1h1J11f4M113q11111l1111111z",
   "1yy1x1029111185K11T811112f4J1111d1h1J11f4M113q11111l1111111z1zy1x1029111185K11T811112f4J1111d1h1",
   "J11f4M113q11111l1111111z1+y1x1029111185K11T811112f4J1111d1h1J11f4M113q11111l1111111z1@y1x1029111",
   "185K11T811112f4J1111d1h1J11f4M113q11111l1111111z1*y1x1029111185K11T811112f4J1111d1h1J11f4M113q11",
   "111l1111111z1=y1x1029111185K11T811112f4J1111d1h1J11f4M113q11111l1111111z1<y1x1029111185K11T81111",
   "2f4J1111d1h1J11f4M113q11111l1111111r+11j1023c111149C1DC148151681D9.111Xy3d5s3m1m11111j1023c11114",
   "9C1DC148151681D9.111Xz3c5s3m1m11111j1023c111149C1DC148151681D9.111X+3.4s3m1m11111k102361111DB111",
   "x1q1B1Dp11MP11f2h4q21v11h311111f6~1k102361111DB111VRq1BFp11MP11f2^3z221v11h311111^Qk102361111DB1",
   "11VRq1BFp11MP11f2^3z221v11h311111rx1y1029111185K11T811112K19MY11p3h1J11f4S:F;G111111rV11111111k1",
   "02361111DB111VRq1BFp11MP11f2^3z221v11h311111*x1k102361111DB111VRq1BFp11MP11f2^3z221v11h311111=x1",
   "k102361111DB111VRq1BFp11MP11f2^3z221v11h311111<x1k102361111DB111VRq1BFp11MP11f2^3z221v11h311111>",
   "x1k102361111DB111VRq1BFp11MP11f2^3z221v11h311111;7h1023611118112281114Y1HFD1N71Pt4h4k71111^7y102",
   "911118591114111Tb19H4Y11f11l2h1J=4114j1<B1;1=61111111,f111h1023611118112281114QR11CD1N7QG151d1<2",
   "^3vHh1023611118112281114QR11C841N7QG151d1fQ1f1023611118112281114Y1HFD1N8Ph7+81111;Qf102361111811",
   "2281114s111C841N8PG151d1gj1g1023c111149C1DC1481516Pm211BLz8^1z1m1m11111f1023c111149C1DC1481516Pm",
   "211BLz8s3w21111;Ph1023611118112281114QR11CD1N7QG151d1<2^3z2f10236111181122811149h111C841Nq1151d1",
   "k9,Wh1023611118112281114Y1HFD1N71Pt4h4k71111;5g1023c111149C1DC1481516Pm211BLz8~1y1m1m11111f1023c",
   "11114N1DC149516;211Xz8:1x1m1Dr3x4^n11111f1023611118112281114s111C841.1151d1k9:1>2n8g1023c111149C",
   "1DC1481516Pm211BLz8;1w1m1m11111g1023611118112281114Y1HFD1N71Ph7+81111.7h1023611118112281114Y1HFD",
   "1XPh7*5,211112;Q,Vj1023611118112281114Y1HFD1N7Qp3@D111~51111h1023611118112281114Y1HFD1N71Ph7:3<4",
   "1111cRg1023611118112281114Y1HFD1NYp3x6k6:51111~1g1023611118112281114Y1HFD1NYp3x6fD1111~11h102361",
   "1118112281114Y1HFD1N7Qp3@D12~51111g1023611118112281114Y1HFD1N71Py8k71111dRf1023c11114N1DC1481516",
   "Pm211X=2j2=3s3@S:V1111f1023611118112281114s111C841Nq1151d1p3:5fXf1023611118112281114Y1HFD1NY~Dv6",
   "@McW1111f1023611118112281114s111C841NYG151d1jChVf102361111912281114Y1HFD1x1:Dl3m3@M1gW1111g10236",
   "11118112281114Y1HFD1N71Py8k71111kRf1023611118112281114s111C841x1G151d1kChV1g1023611118112281114Q",
   "R11C841N7QG151d1p9h1023611118112281114QR11C841WQG151d1hCh3;Qf1023611118112281114Y1HFD1NYp3x6fD11",
   "11~1f102361111912281114s111CD1WQ;Dl3m3t4vp11111f1023611118112281114s111C841NYG151d1+1yNf10236111",
   "18112281114s111C841WQG151d1lC;Bf1023611118112281114QR11CD1N7QG151d1mQv102C1185h11H11112t1s5K1f4g",
   "2d5;511~111111pp1111111111111111f1023611118112281114QR11CD1N7QG151d1vQf1023611118112281114QR11C8",
   "41N7QG151d1f1023611118112281114QR11CD1N7QG151d1wQf1023611118112281114QR11CD1N7QG151d1xQf10236111",
   "18112281114QR11CD1N7QG151d1yQf1023611118112281114QR11CD1N7QG151d1zQf1023611118112281114QR11CD1N7",
   "QG151d1+Qf1023611118112281114QR11CD1N7QG151d1@Qf1023611118112281114QR11CD1N7QG151d1*Qt1029111185",
   "K11T811112K19d11G11p3h1Jh4S>X1111F11>W11111t102q111K17Y2172k11115211ZG11:1;D1:G1f811111>W1111111",
   "11t102911118591114111Tb19Hd111p3h1J^J1*s1111111111111111t1029111185K11T811112K19w111p3h1Jh4M113r",
   "1111hX1xX111111t1029111185K11T811112K19d11G11p3h1Jh4SpY11911111yX1111t102q111K17Y2172w111r111:1c",
   "81111x11.3jG1kj1111111111111111t102911118591114111Tb19Hd111H1^2h1J^J1@21111gHkY1111111t102q111K1",
   "7b172w111r111:1+Df1111111m2*C1f811111=Y111111111t1029111185K11Tb19w111p3h1JnD111111f2.41111hH=Y1",
   "11111111t1029111185K11Tb19w111p3h1Jx61111t1s41.61111hHdZ111111111t10291111FK11Tb19w111p3h1JkCr11",
   "11111^1.M11111sZ111111111t10291111FK11Tb19w111p3h1JlCy1111111+1;41111gH*Z111111111b029111181122r",
   "1161111Lr11L11c1tLgz1111b02,11DC5861q11116d1G11X;F1*11z11zCzl1111b02,11DC5G1g311X+Ff1111111t211w",
   "2c9x8kb111b02,11DC5861g311Xc91111x131m1+2z25vC~l1111b02911119122r11XdLr1111111f211s2,w11111b0291",
   "11181122r11XhM111111j2911q2fx1111b02911119122;11CfLy1111111d211n2tK1*b11b029111181122r11XrF1111*",
   "4j11g2H1m2lx1111b02911118112281114s111CD1.1151d1~KkN;bd10311m111BX91111141117R16Fr7:1L145Lj1f:1d",
   "10311m11164X91111141117R1M.1n7L145Lj1g:1d10311m111BX91111141117R1Mm9L145Lp2x6vN.bj102,11DC58613w",
   "21211n1B1@81111y121m11lB+611x81,b1j102,11DC58613w21211n1c91111x1121m11l91b+611z8.b1f10311m111B9M",
   "91111141117R1Mw8SL145LFSr6j102,11DC58613,3c91111x1121m11lBpv1111111111111g10311m111BX91111141117",
   "R16Fr7:1L145LLMr6;Nj102,11DC58613w21211n1c91111x1121m11l91b+611x811f10311m111BX91111161j1F:1M1,4",
   "1q1GXLj1r6gPld111f105D1l1*2l9p1=1y4^11f411.11H111111w6111x7vd11111d10311m111BX91111141117R1Mm5j2",
   "~1L145Lj1,:1d10311m111BX91111141117R1Mm9L145Lj1m1v6m@1d10311m111BX91111141117R1Mm9L145Lt2v6m@11f",
   "10311m111B9M911111411143R1Mm9L145LLMr6d10311m111BX91111141117R1My3*5L1441Lj1f;1d10311m111BX91111",
   "141117R1Mm9L145Lv2f5s1rNd10311m111B9M911111411143R1Mm9L145Lj1r6f1029111181121+11111241TJRl51@611",
   ".CfH1,d111f102911118112191114+241Qp11MP11y3:3j1Sr11xBf102911118112191114+241Qp11MP11y3:3j1Sr11<V",
   "f102911118112191114+241Qp11MP11y3:3j1Sr11@~1f102911118112191114+241Qp11MP11y3:3j1Sr11*~1f1029111",
   "18112191114+241Qp11MP11y3:3j1Sr11=~1f102911118112191114+241Qp11MP11y3:3j1Sr11>Vf1029111181121911",
   "14+241Qp11MP11y3:3j1Sr11<~1f102911118112191114+241Qp11MP11y3:3j1Sr11^Vf102911118112191114+241Qp1",
   "1MP11y3:3j1Sr11>~1b0291111811211z11111241T;1x41@611v1;6:+150lTpCy8cd150lTpCy8dd140lTpC+n170=F~Q+",
   "n1111d102911118112191114+241Qp11MP11y3:3j1Sr11Y0291111811211r1711112ZZ1L11c1nF^^1b0291111811211z",
   "11111241T;1x41@611v1;6j@1b0291111811211z11111241T;1x41@611v1;6k@1b0291111811211z11111241T;1x41@6",
   "11v1;6l@1b0291111811211z11111241T;1x41@611v1;6m@1b0291111811211z11111241T;1x41@611v1;6n@150wt211",
   "130+t2130*t2160zh1jp111130:t2130,t2160+h1rp111160@h1vp111160*h1yp1111b0291111811211l3tD1111t16l1",
   "kKs811kf1111160<h1>p111160>h1:p111160^h1.p111160~h1fq111160:h1jq111160;h1mq111160,h1qq111160.h1t",
   "q111140xw21130+w2130ls1vg140ls1wg1130>w2130~w21Y0291111811211r1711112ZZ1L11c1*p2130.w2130dx21b02",
   "9111181121181114+241c21MP11y3.4n2>,1c10291111811211z111112Z^2^k11~g111111111Z0291111811211z11111",
   "241T;1x41@611v1h.1b0291111811211l3tD1111t16l1kKs811mh11111b0291111811211z11111241T;1x41@611v1dWn",
   "h1b029111181121181114+241c21MP11y3.4n2sLb0291111811211z11111241T;1x41@611v1dWph1Y029111181121181",
   "114t1TF5s1151d1*Dj,1Z029111181121181114+241c21MP11y3.4@d2B05n41g5h4r2~BtL1B05n41g5h4r2~BwL1d1029",
   "1119112191114+241Qp11MP11y3:3j1S:c211b0291111811211r11611112ZZ1L115WhDv.1Z0291111811211r11611112",
   "ZZ1L11c1hDw.1Y02,11DC5873m111151CQG11XgD^11*113x1B05;1r2h5^3z23nY1B05;1r2h5^3z23qY1b029111181121",
   "1r11611112ZZ1L115WhDx.1b0291111811211r11611112ZZ1L115WhDy.1b0291111811211r11611112ZZ1L115WhDz.1b",
   "0291111811211r11611112ZZ1L115WhD+.1b0291111811211r11611112ZZ1L115WhD@.1b0291111811211r11611112ZZ",
   "1L115WhD*.1Y02,11DC5873c311Xc91111x1121m111y2g1@1Y02,11DC5H3c311XgDx1f1111111Xr1611w25Y029111181",
   "1211r1lK^2111111Ps1D11q24Y0291111811211r1nG1111t1r11~1j11M.11m2Y029111191211;1*J<1y11111115v1F11",
   "n24Y029111191211r1lK=1r1111111Dt1811s27c102911118112191114+241Qp11MP11y3:3^F=J1Z0291111811211r11",
   "611112ZZ1L11c1pl1xh1Y0291111811211z11111241TJ,51@611v1c102911118112191114+241Qp11MP11y3:3xZ+h11Y",
   "02,11DCF613m111151CQG11X;F1*11,F1hs1Y029111181121181114+241c21MP11y3.4Y029111181121s11611112ZZ18",
   "B11dN,<1Z0291111811211r11611112ZZ1L11c1pl1*h1Y02911118112191114t11SF5QR151>l1*h1Y029111181121s11",
   "611112ZZ18B11qm1=h1Y029111181121s11611112ZZ18B11rm1=h1Y02911118112191114t11SF5QR151^l1<h1Y029111",
   "181121s11611112ZZ18B11js21Y02,11DCF613c311Xc91111x1121n1z2<2kD1ss1Y02911118112191114t11SF5QR151v",
   "Ml>1Y02,11DCM13c311X+Ff1111111m2611@2y91vs1Y029111181121s11x2vK111111f2D118l2f=1Y029111181121s11",
   "x2=C1111t1s1~1j11y213p>1Y02911119121,11c2sJy1111111+1F115m2g=1Y02911119121s11x2rJr1111111^1811Cn",
   "2g=1Y02,11DC58613m111151CQG11X;F1*11+1.>1b02911118112191114+241Qp11MP11y3*Kk1yHY0291111811211r11",
   "611112ZZ1L11c17b02911118112191114+241Qp11MP11y3:L=Fdl1b02911118112191114+241Qp11MP11y3:L>+11b029",
   "11118112191114+241Qp11MP11y3:L~+11b029111181121181114+25gn11yj111111111Y0291111811211r11611112ZZ",
   "1L11c1;r2Y0291111811211r11611112ZZ1L11c1,r2Y0291111811211r11611112ZZ1L11c1.r2Y0291111811211r1161",
   "1112ZZ1L11c1cs2Y0291111811211r11611112ZZ1L11c1ds2Y0291111811211r11611112ZZ1L11c1fs2Y029111181121",
   "1r11611112ZZ1L11c1gs2Y0291111811211r11611112ZZ1L11c1hs2Y0291111811211r11611112ZZ1L11c1js2Y029111",
   "1811211r11611112ZZ1L11c1ks2Y0291111811211r11611112ZZ1L11c1ls2Y0291111811211r11611112ZZ1L11c1ms2X",
   "02,11DC58613m111151CQG11X;F1*11+1X02,11DC58613m111151CQG11>G1*11+1rDX0291111811211r11611112ZZ1L1",
   "1c1X029111191211r11;Lr1111111^1811s27X0291111811211r11mG1111t1s1~1h,11111X0291111811211r11mG1111",
   "t1s1~1n,11111X0291111811211s1611112ZZ1L11c1<RX02,11DC58613c311:91111x1121m11z2<2mDX0291111811211",
   "81114v1SF5s1151d1^k1X02,11DC5G13c311wGf1111111m2611w25+9X0291111811211s1cN111111f2D11q24w2X02911",
   "11811211s1mG1111t1s1~1j11y21m2y2X029111191211,1sLy1111111+1F11n24hLX029111191211s1;Lr1111111^181",
   "1s27t2X029111181121181114t11j15@v211111X0291111811211z11111241T:m11vl1111X029111181121181114+25+",
   "2n4fn211111X0291111811211r11cN111111f2D11q24X0291111811211r11mG1111t1s1~1j11y21m2X02,11DC5864m11",
   "1151CQG11X;F1*11+1sDX02,11DC58613c311Xc91111x1121m11z2<2X029111181131r11611112ZZ1L11c1fMX02,11DC",
   "5G13c311X+Ff1111111m2611w25X029111191211;11sLy1111111+1F11n24X02911118113181114t11SF5s1151d1~k1X",
   "029111181131r11611112ZZ1L11c1tl1X029111181131r11611112ZZ1L11c1vl1X02911118113181114t11SF5s1151d1",
   ":k1X029111181131r11611112ZZ1L11c1gt2X029111181121181114t11j15kw211111X02,11DC5864c311Xc91111x112",
   "1m11z2<2nDX029111181121181114t11SF5s1151d1X02911118113181114t11SF5s1151d1vLX029111181121181114t1",
   "1j15rw211111X02,11DC5G4c311X+Ff1111111m2611w25@9X029111181131r11cN111111f2D119f24X02911118112118",
   "1114t11j15yw211111X029111181131r11mG1111t1s1~1j11y214h2X029111181121181114t11j15<w211111X0291111",
   "9131;11sLy1111111+1F116g24X029111181121181114t11j15,w211111X02911119131r11;Lr1111111^1811Dd27X02",
   "9111181121181114t11j15hx211111X029111181121181114t11j15px211111X029111181121181114t11j15wx211111",
   "Z023w1j21s11*5s111111111y1W1h8h21111y4h71Z023w1j21s11=5r111111111y1W1h8h21111y4h71Z023w1j21s11<5",
   "q111111111y1W1h8h21111y4h71N0311w1~1B1Pv6c2m1,1s3c8+91111N0311w1~1B1Pw6.1m1,1s3c8+91111N0311w1~1",
   "B1Px6,1m1,1s3c8+91111W023w1j21PS1*5s111111111s21K1<2~4l2;CW023w1j21PS1=5r111111111s21K1<2~4l2;CW",
   "023w1j21PS1<5q111111111s21K1<2~4l2;CV023w1=B11111111y1W1<2r5h21112x4r71V023w1=B11111111y1@3v7111",
   "2h21<91p8hm1V023w1=B11111111y1W1~2n5h21112;C1vw1Q0311Cj1~1B1PS14f3w2c2m1X1KJs3Q0311Cj1~1B1PS14f3",
   "x2.1m1X1KJs3Q0311Cj1~1B1PS14f3y2,1m1X1KJs3N0311Cj1~1B1PS14f3w2c2m11;1s3K0311CKN~1B1PS1*5c2k3nPN0",
   "311Cj1~1B1PS14f3x2.1m11;1s3K0311CKN~1B1PS1=5.1k3nPN0311Cj1~1B1PS14f3y2,1m11;1s3K0311CKN~1B1PS1<5",
   ",1k3nPR023w1k5x511111111s21K1k2L~4m2130;@2130.@21R023w1k5x511111111.21l2Kg71g21~9R023w1k5x511111",
   "111s21K1n2H~4m2130d*2130g*2130j*2130l*2130n*21F05w1j21PS1*5c2m1nR1F05w1j21PS1*5c2m1qR1Q023.9j231",
   "1111111s21K1<2~4n2hDF05w1j21PS1=5.1m1nR1F05w1j21PS1=5.1m1qR1Q023.9j2h61111111111>6hD11f81F05w1j2",
   "1PS1<5,1m1nR1F05w1j21PS1<5,1m1qR1Q023.9j2311111111.21<2h7g21~95F05z3B1Dg2c3m2:1.F1h1F05;1*1B1v2c",
   "3m2y1>11@FF05;1r1BB1v2m5q31*F1C05z3B1Dg2*5sH1hLC05n3BB1Dg2gP1hLD05w1g2B1<2r8z2<951C05w1g2B1<2*Lk",
   "21gLF05z3B1Dg2m5G:3xC1n1C05w1>1BB1tPk21gLD05w1g2B1<2r8+2:91.9C05;31hC@2x6h1w4~H1C05n3N1hC@2@7w4~",
   "H1D05w1g2B1<2r8*2^91.9F05;31Dg2*5*5h3z61mLsm1G05z3B1v2:1r3n9111r41C05;31v2tCv6wP111C05n3N1v2tC.W",
   "11150gt1nm111C05z3B1d6j2nH71140ht11pm140yh1,x11D05z3B1v2:1x6k6s41v4D05z3B1v2:1x6zB1t3d1F05z3B1v2",
   ":1r3n912r41C05z3B1d6j2mFm211C05n3BB1d6sHm211C05z3B1v2sCv6<P11C05n3BB1v2sClX11C05z3B1d6j2wH11:9C0",
   "5z3B1d6j2wH11=^130ht1130z*2130nt"]

private def tsxPart7 : List String :=
  ["1rm130pt1rm130qt1rm140<*21130~*2140qt1ym11C05z3B1v2:1x6zB1v4C05n3BB1v2:1hK1v4C05;31v2m5l6v6x5qJ1",
   "C05n3N1v2m5l6cDqJ1D05;1r1BB1v2m5q31ZF05;1r1N1v2m5q31<2h3:SC05;1*1B1v2m5q31:F40gt1:m1150rCrV1mx15",
   "0rCrV1nx1C05;1*1B1v2m5q31gGC05;1*1B1v2m5q31hGC05;1r1BB1v2m5q31C05;1*1B1v2m5q31jGC05;1*1B1v2m5q31",
   "kGC05;1*1B1v2m5q31lGC05;1*1B1v2m5q31mGC05;1*1B1v2m5q31nGC05;1*1B1v2m5q31pG30g=2140j=211b0316g111",
   "BHF91111161R=2J1111,41s11vn2140zh1=y1140r=21130v=2140+h1;y1140@h1,y1140*h1.y1140<h1.y1140>h1cz11",
   "40^h1dz1140~h1fz1140:h1gz1140;h1hz1140,h1jz1140.h1kz1130l<2130n<2140rCrV130q<2130s<2130v<2130x<2",
   "1b0316g111BHF91111161R=2J1111,41s11^p21b0316g111BHF91111161R=2J1111,41s11:p21b0316g111BHF9111116",
   "1R=2J1111,41s11,p21b0316g111BHF91111161R=2J1111,41s11cq2130~<2130;<2130.<2130d>2130g>2130j>2130l",
   ">2130n>2130q>2130s>2130v>2130x>2130z>2130@>2130=>2130>>2130~>2130;>2130.>2130d^2130g^2130j^2130l",
   "^2130n^2130q^2130s^2130v^2130x^2130z^2130@^2130=^2130>^2130~^2130;^2130.^2130d~2130g~2130j~2130l",
   "~2130n~2130q~2130s~2130v~2130x~2130z~2130@~2130=~2130>~2130~~2130;~2130.~2130d:2130g:2130j:2130l",
   ":2130n:2130q:2130s:2130v:2130x:2130z:21Z0316g111BHF91111161R=2J1111,41s11@c130@:2130=:2130>:2130",
   "~:2130;:2130.:2130d;2130g;2130j;2130l;2130n;2130q;2130s;2130v;21Z0316g111BHF91111161R=2J1111,41s",
   "11<v230y;2130+;2130*;2130<;2130^;2130:;2130,;2130c,2130f,2130h,2130k,2130m,2130p,2130r,2130t,213",
   "0w,2130y,2130+,2130*,2130<,2130^,2130:,2130,,2130c.2130nt1>w130pt1>w1Z0316g111BHF91111161R=2J111",
   "1,41s11*c1Z0316g111BHF91111161R=2J1111,41s11qx2Z0316g111BHF91111161R=2J1111,41s11=c1Z0316g111BHF",
   "91111161R=2J1111,41s11rx2Z0316g111BHF91111161R=2J1111,41s11<c1Z0316g111BHF91111161R=2J1111,41s11",
   "sx2Z0316g111BHF91111161R=2J1111,41s11>c1Z0316g111BHF91111161R=2J1111,41s11tx2Y0316g111BHF9111116",
   "1R=2J1111,41s11Y0316g111BHF9111114118J71S11j^21130q.2130s.2130v.2130x.2130z.2130@.21Y0Bv171fX111",
   "111111111111m71111>>111Y0B71l1wM~1f411~111111H111111x62v1~>111Y0B11s1^X111111111111111,61111>>11",
   "1Y0Bv1rh1111111111111111111:7111px111Y0Bg11CHFB1111ZlC1vR111111>7111nx111Y0316g111BHF9111116S=2J",
   "1111,41~z211Y0316g111BHF91111141117J71S11<n1tx1Y0316g111BHF91111141117J71M511l~2Y0316g111BHF9111",
   "1141117J71M511>n1Y0316g111BHF91111141117J71M511m~230rc3130tc3130wc31Y0316g111BHF91111141117J71M5",
   "11v~2Y0316g111BHF91111141117J71M511^n1Y0316g111BHF91111141117J71M511w~2Y0316g111BHF91111141117J7",
   "1M511x~2Y0316g111BHF91111141117J71M511~n1Y0316g111BHF91111141117J71M511y~2Y0316g111BHF9111114111",
   "7J71M511z~2Y0316g111BHF91111141117J71M511:n1Y0316g111BHF91111141117J71M511+~2Y0316g111BHF9111114",
   "1117J71M511@~2Y0316g111BHF91111141117J71M511;n1Y0316g111BHF91111141117J71M511*~2Y0316g111BHF9111",
   "1141117J71M511,n1Y0316g111BHF91111141117J71M511=~2Y0316g111BHF91111141117J71M511.n1Y0316g111BHF9",
   "1111141117J71M511<~2X0316g111BHF91111141117J71M511X0Bv171fX111111111111111n7111d11:>1X0Bv171fX11",
   "1111111111111m71111d11X0B71l1wM~1f411~111111H111111w6111v1X0316g111BHF91111161RW:1J1111,41X0Bg11",
   "CHFB11117RWrB1vR111111>7111X0Bv171k11c11^T111111111111111m7j11X0Bv1rh1111111111111111111:7111F1X",
   "0B71l1t11c11cK~1f411~1111K111111w62w1X0B11s1^X111111111111111,61111Y1X0B11s1t11c11pV111111111111",
   "111,6d11X0Bv1t11c11:d1111111111111111111r81X0B11s1^X111111111111111.6111Y1~>1X0Bg11CHFB1111412R7",
   "1MrB1vR111111X0316g111BHF9111114111R71M:1J11W02871bh2bYn3:611h111lZ111111111wx1W02871bh2bYn3:611",
   "h111jQ111111111z>1W02871bh2bYn3:611h111xZ111111111mx1W02871bh2bYn3:611h111jG111111111sJW02871bh2",
   "bYn3:611h111jG111111111@d2W02871bh2bYn3:611h111jG111111111tJW02871bh2bYn3:611h111lZ111111111+x1W",
   "02871bh2bYn3:611h111xZ111111111qx1W02871bh2bYn3:611h111jQ111111111s8W02871bh2bYn3:611h111:Zpx111",
   "1111111W02871bh2bYn3:611h111jQ111111111f^1W02871bh2bYn3:611qH111111111gf2111G05w1g221PS1*5m4@D11",
   "G05w1g221PS1*5p3d1t3@NG0311w1g221PS1*5m4k6G05w1g221PS1=5l4@D11G05w1g221PS1=5n3d1t3@NG0311w1g221P",
   "S1=5l4k6G05w1g221PS1<5k4@D11G05w1g221PS1<5m3d1t3@NG0311w1g221PS1<5k4k6C0561p3Tj1,3n2~1hHC0561*1+",
   "1,1,3n2x1vHC0561*1r18,1l6dK190561p3Tj1+6zg190561f38Tj1lp1S02871bh2bYn3:611hc1=x1111111111B05w1d2",
   "j3hBWfB11B05w1d2j3t7d1w2Z*NB0311w1d2j3hBWz3905w1C1@1j3hP,MC0561p3Tj1l6F:3~D90561n1>18,1np1B05w1C",
   "1@1j3hBXhBB05w1d2j3t7d1x2Y*NB0311w1d2j3hBXyFB0311w1d2j3hBZw3905~11,GYx6y3v390561f3k2qCYyFB05w1d2",
   "j3t7d1z2W*NB05w1C1@1j3hBZfBD05w1g221PS1*5m4r4C0561g4j1+6*5h3sBtf2C05p4>7d2d1+2h3sBvJcy1D0561p3,1",
   "^2s3m911130.d3130.v1fy130cw1fy130gf3130jf3130lf31D0q1m8n21SCp1v1l11mx240vl1w8qy140wl1w8qy130rf31",
   "D05w1g221PS1=5l4r4D05w1g221PS1<5k4r490561m5rDv6yR190561f3k2rDdZ1C0q1v21h7^7<N1111C05w1j21PS1*5=X",
   "1905x3t6j2c2d1t3*v290311x3t6j2h91B0561p3,1^2x6k6qBB0561p3,1^2x6fGv2C0q1pCCp111m51:C,f2905x3t6j2j",
   "9t611C0561p3,1^2s3m91230gw1sy130hw1sy1D0q1pC@1:1n5j4r2y31yJsy1C0q1v21j7>7<N1111C05w1j21PS1=5*X19",
   "05D1h3t6j2j9pLC0q1v21k7<7<N1111C05w1j21PS1<5@X1905~11@1t6j2j9x690561f38,1w4pC90561p3,1qDv6<R9056",
   "1f38,1qDlZ90311x3t6j2j9.950q1x1l5w^260z9Lfk1sy11D0q1m8n21g1>2l11<1Ycv2G0q1.D11^1X1y22x31tq21905p",
   "4>7w71:5.5jg2D0q1.D:1Y+2x31xq2111D0q1m8n21S@1v1Ft9+Q*y1D0q1m8n21g1>2l11@8.5pg290561p3,1^2x6xJ905",
   "61f38,1^2fR90561m5l6k6v6,690561f3k2l6k6sFB0561*1r18,1l6n4C0561*1r1k2l6g6h3sB805p46;4v3PhH80q1x1,",
   "2w8w4YfN90561*1+1,1l6lK40nw11*y1C0q1@Cq11s4W11~Cwg2C05;1r1~B@3h3sB:J=y11G0q1qC@11^1Y=1Wz31<4qN<y",
   "130jg3160q1x1>9@1wT805;1z2;4v3CvH80q1x1,2:6h6l9^C805;1r1l1r8~H180q1x1,2n2z4kW1G0q1.D11^1Y=1W2x31",
   "hT^y1605p46z7kh1905p4l9t3k611:q2D0q1m8n21S@1v1F^C,Cx890561*1+1,1l6tKC0q1@Cq11m51d6~54+g2D0q1m8n2",
   "1g1>2l11*8.5+g2605n3d16>q190561*1+1,1l6vKD0q1m8n21g1>2l11=8.5+g290561*1r18,1l690561*1+1,1l6wK905",
   "61*1+1,1l6xK90561*1+1,1l6yK90561*1+1,1l6zK60q1x1l5l6wTD0q1m8n21g1>2l11<8.5+g290561*1+1,1l6+K9056",
   "1*1+1,1l6@K805w1d2j3hBW>170q1x1,2cFYfN50nw11gz1130vg31905w1k5;D1:5.5;g2C05;1w7^3<3k611hTfz130zg3",
   "1D0q1<6z4@11^1Yj61x2~n240sRfJf940tRfJf950q1x1>9jW70q1x1,2cFl9^C70q1x1,2n2>b1C05p4g5h4t3k611hTkz1",
   "F0q1pC@111^1Yy2z31x2;n240sRqr2140tRrr21C0q1@Cq11=2x2g6q2+3kh240sRwr2140tRxr21805w1d2j3hBX<1905=K",
   ":11+4m1.5sh2D0q1<6w1n21Tg3Ft9r2,CD0q1m8n21g1>2l11v41xt2D0q1m8n21g1>2l11^8,5ph2C0q1@Cq11m51h6<57r",
   "h2C0q1@Cq11=2x2h6p2@3th2805w1d2j3hBZ*170q1x1,GbYnN705w1c3k2.BkQ30kh31605w1c3k2<n160q1x1;HYqN30lw",
   "1d+130nh31805p46z7Tg3~D30gw1m+130sRhT30tRhT30rh3130th3130hw1r+130xh3130zh31B05;1r1*Dc1k611mT30@h",
   "31605w1>1l1,q1C05p4>7:3c1k611n2fq2B05p4l9t3k611mTh+1D0q1<6w1n21Tg3Ft9r2>m2905.9j2~4+21p8=m2C0q1p",
   "C@111^1v3+3ys2150q1x1l5^:260q1x1l5*BmP70q1x1.GZYnN705w1c3k2cCjQD0q1<6w1n21TB>2l11.B605w4lFx6mS60",
   "5n3l1lF>Z60q1x1l5yRs8905~K<11*4k1.5pj2905.JW>11@4@3:m270q1x1dHXYnN705w1c3k2fCgQ60q1x1^Q.5s8C0q1@",
   "Cq11=2x2:11x6,m2C0q1@Cq11=2x2l6l2=3mj250q1x1^JqN705x3t6j2p7~170q1x1,2~6@1>T70q1x1,2~6jFnG805p4>7",
   "*5<Z1q+180q1pC@1j9s21~Q905w4>3z4f8111B0q1v4=H,1q811m8@8C0q1<6z4Bq11=2x2+3^440sRsTn+140tRsTn+1905",
   "p4>7fC2n2wq2150sRfJ<;1150tRfJ>;11705x3t6j2j9=L605w4qFv6sS605n3l1qF:Z50q1x1^QrG905n8x6j2+21p8mn29",
   "05.JY=11=4z3nn260q1x1l5@Rt860q1x1;Q.5t870q1pC^Bs21~QR028718RVp1b2Ss311111111p:21705w4>3x6k6<B80q",
   "1jN1,1@4cD@8705w4>3x6fG:280q1jN1,1@4cDq;1805w4>3z4f81280q1x1,2=HnB11905;1r1*F+21y3<440sRsT*+140t",
   "RsT*+1R028718RVp1b2Ss311111111v:21R028718RVp1b2Ss311111111x:21R028718RVp1b2Ss311111111z:21R02871",
   "8RVp1b2Ss311111111@:21R028718RVp1b2Ss311111111=:21605w4v5j2+h1605n3l1v5>k160q1x1l5zRx8605w4pFv6w",
   "S605n3l1pF.Z60q1x1~Q.5x860q1x1:Q.5x860q1x1l5+Rx850q1x1;QsG70q1x1,2cV11605w4>3x6,J605n3l1>3vR605w",
   "4rFv6vS605n3l1rF,Z50q1x1~QwG705;1r1l1r8g3805;1r1z9;4<Z180q1v4n2z4>Bs2150q1x1:QwG60q1x1+L1z660q1x",
   "1l5tFz660q1x1.Q,5w860q1x1l5*Rw8605;1z2r8dJ60q1x1,2:6+WQ028718RVp1b2Ss311111111;l1Q028718RVp1b2Ss",
   "311111111,l1Q028718RVp1b2Ss311111111>:2605;1z2r8mJ60q1x1,2:6@WQ028718RVp1b2Ss311111111.l1Q028718",
   "RVp1b2Ss311111111cm1Q028718RVp1b2Ss311111111^:2Q028718RVp1b2Ss311111111dm1Q028718RVp1b2Ss3111111",
   "11fm1Q028718RVp1b2Ss311111111~:2Q028718RVp1b2Ss311111111gm1Q028718RVp1b2Ss311111111hm1Q028718RVp",
   "1b2Ss311111111::2Q028718RVp1b2Ss311111111jm1Q028718RVp1b2Ss311111111km1Q028718RVp1b2Ss311111111;",
   ":2Q028718RVp1b2Ss311111111lm1Q028718RVp1b2Ss311111111mm1Q028718RVp1b2Ss311111111,:2605;1z2r8nJ60",
   "q1x1,2:6*W605;1r1l1r8605;1z2r8pJ60q1x1,2:6=W605;1z2r8qJ60q1x1,2:6<W605;1z2r8rJ60q1x1,2:6>W605;1z",
   "2r8sJ60q1x1,2:6^W60q1x1,2n2=K70q1v4n2rHs21605;1z2r8tJ60q1x1,2:6~W605;1z2r8vJ60q1x1,2:6:W60q1x1,2",
   "n2z450q1x1+L+650q1x1.QtG50q1x1,2wf150q1x1,2xf150q1x1,2yf150q1x1,2zf150q1x1,2+f150q1x1,2@f150q1x1",
   ",2*f150q1x1,2=f150q1x1,2<f1P028718RVp1b2Ss311111111P0K18x1p1d1S=C1@111111111.y21P0K18x1p1d1S=C1@",
   "111111111f9.n2P0jk31111111111111111111S02@35pBl41111111111g1<1,11111p2S02@35pBl41111111111h1=1,1",
   "1111p2S02@35pBl41111111111j1*1,11111p2P0K18x1p1d1S=C1@111111111*z21P0K18x1p1d1S=C1@111111111f9*p",
   "2S02@35pBl41111111111k1@1,11111p2P0K18x1p1d1S=C1@111111111>z21P0K18x1p1d1S=C1@111111111f9>p2S02@",
   "35pBl41111111111l1+1,11111p2P0K18x1p1d1S=C1@111111111:z21P0K18x1p1d1S=C1@111111111f9:p2P0K18x1p1",
   "d1S=C1@111111111.z21P0K18x1p1d1S=C1@111111111f9.p2L031n3h2n3f6m4x4wv21111111190611J,Q*T1d*1L031n",
   "3h2n3f6m4x4^v211111111L031n3h2n3f6m4x4gw211111111L031n3h2n3f6m4x4rw211111111L031n3h2n3f6m4x4@w21",
   "1111111L031n3h2n3f6m4x4,w21111111130tx1t=130vx1t=1Q02v7@6l41111111111~2,11111px2R02@3vBl41111111",
   "111m1z1,11111p2606wRm8yK1606wR:Ts=11606wRm8yKx=160*Rn8+8c91K031s5n3f6m4x4lSk>111111117071JmMsY;=",
   "130qn3130sn3130vn3150=FnL@K130tx1g<130vx1g<130=x1:=150*Rn8+K140*R,Jh9506zx1~=1130^x1:=140dc1y8m9",
   "40fc1y8m940gc1w8p940SmM=@2406,b+n2406<x1~=140.x11160lK,1X.Y260lK,1XfZ==170=FmDk61,K==170sCH1g51~",
   "<270lJ>9l61;K<=150sC>k11==150qH;f11*=150qH;f12*=150zPt4pS*=150zPt4pS==140zPt4fw230ry1<=130sy1<=1",
   "30ty1<=150dVm6kL<=150dVm6kL>=140dVm6cp240cc1@K130wy1^=130fc1y830xy1^=130dc1^K40yy1^=1130pc1hp240",
   "pc1q8^d230zy1;=140xx1g1;=140@y1;=1130*y1,=130=y1,=130<y1,=140lKyd1,=130^y1,=130~y1,=130:y1,=160l",
   "K,1X:Z,=160@m1nB11:=140dz1:=1140@m1sB;=130gz1;=130hz1;=130jz1;=130kz1;=130lz1;=130mz1;=130nz1;=1",
   "30pz1;=130qz1;=130rz1;=130sz1;=130tz1;=130vz1;=140qc1jM130yz1~=130zz1~=140qc1jM430@z1^=160lK,1X@",
   "b^=130=z1^=130<z1^=130>z1^=130^z1^=130~z1^=140lK@f1^=130;z1^=130,z1^=130.z1^=130c+1^=130d+1^=130",
   "f+1^=130g+1^=130h+1^=130j+1^=130k+1^=130l+1^=130m+1^=160lK,1Xmc1^=130p+1^=130q+1^=160lK,1Xqc1^=1",
   "30s+1^=130t+1^=130v+1^=130w+1^=130x+1^=130y+1^=130z+1^=130++1^=130@+1^=130*+1^=130=+1^=130<+1^=1",
   "30>+1^=130^+1^=160lK,1X^c1^=130gc1^K60lK,1X~c1^=160lK,1X:c1^=140rc1yN^=140m6~1:r190Z51n1pP@T+3>=",
   "1J0K186Bd1r15f8t311Dc4^130m6=t130cN^<29015111>M><21D015111C11sM^<21X015111C11V21121121111141111<",
   "p330d@1.=130f@1.=1801511:M,<2130g@1d<130qH^;230h@1f<130j@1f<130k@1f<1X015111C11V2112112111114111",
   "1fq3X015111C11V21121121111141111gq330l@1h<130m@1h<1X015111C11V21121121111141111kq330n@1j<130p@1j",
   "<130q@1j<130r@1j<130s@1j<130t@1j<130v@1j<130w@1j<130x@1j<1X015111C11V21121121111141111wq330y@1k<",
   "1X015111C11V21121121111141111yq3H015111l1211211sL@>230z@1m<1B015111l1*LlDvs2Q015111l121121121111",
   "14d6ws1R015111l121121121111141c6>j3F015111l1211zLkDmPM015111l12112112111qLtd1N015111l12112112111",
   "1hC+m1P015111l1211211211111gCym1D015111l121*LhDmPF015111C11V^LgDxs260sCt4w4=5@W60sCqD*8nP1K01511",
   "1l121121121xLz>2S015111l1211211211111411.5:j330>@1m<130^@1m<130~@1m<130:@1m<1X015111C11V21121121",
   "111141111,q3X015111C11V21121121111141111.q330;@1p<130,@1p<130vc1^s230.@1q<130c*1q<130d*1q<130f*1",
   "q<1X015111C11V21121121111141111lr330g*1r<130h*1r<1X015111C11V21121121111141111pr330j*1s<1X015111",
   "C11V21121121111141111rr330k*1t<130l*1t<1X015111C11V21121121111141111vr3X015111C11V21121121111141",
   "111wr330m*1w<130n*1w<130p*1w<130q*1w<130r*1w<1J0K186Bd1r15f8t311Dd4>160wc11j8=Fw<130t*1w<130v*1w",
   "<130w*1w<130x*1w<130y*1w<130yc1xt230zc1xt230+c1xt230@c1xt230z*1+<130+*1+<130@*1+<1X015111C11V211",
   "21121111141111gs330**1@<130*c1*t230=c1*t230<c1*t230>c1*t230^c1*t230~c1*t230:c1*t240lJ.Csz240gVh2",
   "sz240=FsDx@2J0K186Bd1r15f8t311Df4<130=*1.<130<*1.<130rc1yN30>*1.<130^*1.<130~*1.<130>*1f>130^*1f",
   ">1J0K186Bd1r15f8t311Dg4=1J0K186Bd1r15f8t311Dh4*130p@1z^1G0K186q1y1;CtD@411;Pf>1G0K186q1y1Tly111c",
   ">111G0K186q1y1Tly1j>1111130c*1l^1F031D3Rs25G+7,3,3q6G0K18Js25+4t3t311r4~150kX^4mv2150gV;Xp>1130r",
   "c1cw240rc1dw2150hV;6tv21X015111C11V21121121111141111pt370sCm1k3w4=5w*230~*1<>160Z>Ql8gR160Z>Q~Tf",
   ".1160Z>Ql8gR@>1F031D3Rs25G+7,3.3p6G0K18Js25+4t3t311s4^130=*1c^130<*1c^140cc1gR*>160=Rm8<8sG1F031",
   "D3Rs25G+7,3c4n6G0K18Js25+4t3t311t4>1F031D3Rs25G+7,3d4m6G0K18Js25+4t3t311v4<1F031D3Rs25G+7,3f4l6G",
   "0K18Js25+4t3t311w4=170g11n1zKcd1^~1901Y515>L>:2160m6k5r7YfNZ015111C11V21121121111141111h2=Dhk1D0",
   "1Y515g121+K^:21X01Y515g121t2L15611D1918Q7DDM1^l3801Y51cM::21X01Y515g121t2L15611D1918Q7DDM1;l3X01",
   "Y515g121t2L15611D1918Q7DDM1,l3X01Y515g121t2L15611D1918Q7DDM1.l3X01Y515g121t2L15611D1918Q7DDM1cm3",
   "X01Y515g121t2L15611D1918Q7DDM1dm3H01Y515+3L15611mGf;230mx31B01Y515+3nH:Dmw2Q01Y515+3L15611D1918Q",
   "7Cgv1R01Y515+3L15611D1918Q7C1kn3F01Y515+3L15yG~DkQM01Y515+3L15611D191+Fdg1N01Y515+3L15611D1918k6",
   "lp1P01Y515+3L15611D1918Qw5jp1D01Y515+3L1>G>DkQF01Y515g121t2sH<Dpw2K01Y515+3L15611D1fGd;2S01Y515+",
   "3L15611D1918Q7C1D;m3X01Y515g121t2L15611D1918Q7DDM1pm3X01Y515g121t2L15611D1918Q7DDM1qm3F0K186q1y1",
   ":Mp9lQ111X01Y515g121t2L15611D1918Q7DDM1rm3X01Y515g121t2L15611D1918Q7DDM1sm3X01Y515g121t2L15611D1",
   "918Q7DDM1tm3X01Y515g121t2L15611D1918Q7DDM1vm3X01Y515g121t2L15611D1918Q7DDM1wm330*x3170=FmDk61,K+",
   ".1C031D3G9s25cD,370lJ>9l61;K+.1F0K186q1y1kY=w2111130.x31X01Y515g121t2L15611D1918Q7DDM1:m3H0K186B",
   "d1r1l8t311Dj4@140m6s6sj360m6k5r7l9^C60m6~1q3tX130=x1rc250=Rm8jR140=RdKc950Z~w1qc2140>m1@G<^130^x",
   "1sc2C031D3G9s25cD.340dc1*8<G40fc1*8<GC031D3G9s25cDc440qHkm1=^140gc1+8~G40qHkm1<^150kX^4zQ=^150gV",
   "=GkGq~150hV;6zQ<^170+9v3r2>1v2*,270=FgBq81vR>^170lJ+7r81tR>^180=FgBr21f2l*2180lJ+7s21d2m*21Z0151",
   "11C11V21121121111141111h2=D@k1C031D3G9s25cDd4Z015111C11V21121121111141111h2=D*k1C031D3G9s25cDf4Z",
   "015111C11V21121121111141111h2=D=k1X01Y515g121=5c11GK11WD11GSF9FM1kh3X01Y515g121=5c11GK11WD11GSF9",
   "FM1lh3X01Y515g121=5c11GK11WD11GSF9FM1mh3X01Y515g121=5c11GK11WD11GSF9FM1nh3X01Y515g121=5c11GK11WD",
   "11GSF9FM1ph3H01Y515;6c11GK11;9+,2B01Y515;6cD,D*x2Q01Y515~62c11GK11WD11GSF*p1R01Y515~62c11GK11WD1",
   "1GSF9tj3F01Y515;6c11GyB;D=QM01Y515;6c11GK11WD11=8+g1N01Y515;6c11GK11WD11Gg1^p1P01Y515;6c11GK11WD",
   "11GSC<p1D01Y515;6c11fC~D=QF01Y515g121=5hD^D<x2K01Y515;6c11GK11WD;8x,2S01Y515~62c11GK11WD11GSF9Fh",
   "j3X01Y515g121=5c11GK11WD11GSF9FM1xh3X01Y515g121=5c11GK11WD11GSF9FM1yh3X01Y515g121=5c11GK11WD11GS",
   "F9FM1zh3X01Y515g121=5c11GK11WD11GSF9FM1+h3X01Y515g121=5c11GK11WD11GSF9FM1@h3X01Y515g121=5c11GK11",
   "WD11GSF9FM1*h3X01Y515g121=5c11GK11WD11GSF9FM1=h3X01Y515g121=5c11GK11WD11GSF9FM1<h3901Y515>Lj.21D",
   "01Y515g121+Kk.21X01Y515g121=5c11GK11WD11GSF9FM1;h3801Y51cMm.21Y01Y515g121t2L15611D1918Q7DDM1cS<Q",
   "40s2zKt.2C031c4*4pB2@P+p211Y01Y515g121t2L15611D1918Q7DDM1cS>QY01Y515g121t2L15611D1918Q7DDM1cS^Q4",
   "0lJ.Cr=240Zkbvz240gVh2s=2X015111C11V21121121111141111tx340=FsDy>2J031D3Rs1Q3;1k2Xw2h41KD0K18g3z4",
   "jFz6@411<y240~FdW:p240Zcx1~d240.x12.560nK,1k1@Y,560sCt4w4=5~G60sCqD*8v8~D70sCt4~3P=5<>260nK,1k1*",
   "Y<d2Z01Y515g121t2L15611D1918Q7DDM1>b1fHZ01Y515g121t2L15611D1918Q7DDM1>bgH~~1Z01Y515g121t2L15611D",
   "1918Q7DDM1>bhH~~1Z01Y515g121t2L15611D1918Q7DDM1;t1:~11F0K186q1y1;CxD~411~QD0K186;2z4~M~411:QF0K1",
   "86q1y1;CyD;41*y21D0K186;2z4:M;41<y21F0K186q1k5n8zD,411z790+9v3@B4t2h7*y2190+9v3r2>1y1l9cFq770sCH",
   "1g51jg350sCwYn9160wc11j8=F^;140qH=Tl9F0K186q1y1;Cg8t21:>21D0K186;2z4sHt21,>21F0K186q1k5n8@K+711c",
   "H90+9v3@B4t2:Yk:11D031D3Rs2M+7,3g4k6F0K18Js2>4t3t311x4*1F0K186q1k5n8*K*711.G40qH=Tm9Y01Y515g121t",
   "2L15611D1918Q7DDM1hc1.G60=FsDtB=Mj:1J031D3Rs1Q3;1k2Xy2f41K30wy1.d230fc1*830xy1.d230dc1tR40yy1.d2",
   "130pc1n+240pc1c9pq230zy1ff240+y1t4+;140@y1ff2130*y1gf290+9v3@B4t2h7rz2190+9v3r2>1y1YpPr730=y1jf2",
   "30<y1jf240nKwd1jf230^y1jf230~y1jf230:y1jf260nK,1k1wZjf260pn1+911gf240dz1gf2140pn1<9hf230gz1hf230",
   "hz1hf230jz1hf230ry1,f230kz1jf230lz1jf230mz1jf230nz1jf230pz1jf230qz1jf230rz1jf230sz1jf230tz1jf230",
   "vz1jf240qc1kM>430yz1gf230zz1gf240qc1nM*430@z1ff260nK,1k1nbff230=z1ff230<z1ff230>z1ff230^z1ff230~",
   "z1ff240nKzf1ff230;z1ff230sy1zg230,z1gf230.z1gf230c+1gf230d+1gf230f+1gf230g+1gf230h+1gf230j+1gf23",
   "0k+1gf230l+1gf230m+1gf260nK,1k1:bgf230p+1gf230q+1gf260nK,1k1.bgf230ty1fh230s+1hf230t+1hf230v+1hf",
   "230w+1hf230x+1hf230y+1hf230z+1hf230++1hf230@+1hf230*+1hf230=+1hf230<+1hf230>+1hf230^+1hf260nK,1k",
   "1tc1hf250=FnLgR;.1J031D3Rs1Q3;1k"]

private def tsxPart8 : List String :=
  ["2Xx2g41K60sC;Gh6;R1Y01Y515g121=5c11GK11WF1GSF9FM1zm31190^Rj271f2<4g*2190~Rj281d2*4k*2130gc1vR60n",
   "K,1k1vc1rf260nK,1k1wc1rf2J031D3Rs1Q3;1k2X+61Kn860sCf4Dh8rc170+9cJ,51yJm850+9v3qq1:,160wc11^8hH:,",
   "1J031D3Rs1Q3;1k2X+61Kq890^Rj271f2<4q*2190~Rj281d2*4t*2140qHjn1c.140qHjn1d.1J031D3Rs1Q3;1k2X+61Kr",
   "8B0=FgBj271f2mXd.11B0lJ+7j281d2mXf.1160+9v3j4tk3160xd11^7rt2160+9v3>B,.2140m6~1ww1C031c4*4pB2@Pd",
   "v21170sCt4w4q5D;;2X015111C11x7d11FM11T1F1FSF9GM1wn3X015111C11x7d11FM11T1F1FSF9GM1xn3X015111C11x7",
   "d11FM11T1F1FSF9GM1yn3X015111C11x7d11FM11T1F1FSF9GM1zn3X015111C11x7d11FM11T1F1FSF9GM1+n3H015111,7",
   "d11FM11^9ch3B015111,7.CsFz*2Q015111~73d11FM11T1F1FSFvq1R015111~73d11FM11T1F1FSF9>p3F015111,7d11F",
   "xBrFfRM015111,7d11FM11T1F1@8th1N015111,7d11FM11T1F1Ff1+q1P015111,7d11FM11T1F1FSByq1D015111,7d11c",
   "CpFfRF015111C11x7gDnF@*2K015111,7d11FM11T1l9;g3S015111~73d11FM11T1F1FSF9Gtp3X015111C11x7d11FM11T",
   "1F1FSF9GM1~n3X015111C11x7d11FM11T1F1FSF9GM1:n3X015111C11x7d11FM11T1F1FSF9GM1;n3X015111C11x7d11FM",
   "11T1F1FSF9GM1,n3X015111C11x7d11FM11T1F1FSF9GM1.n3X015111C11x7d11FM11T1F1FSF9GM1cp3X015111C11x7d1",
   "1FM11T1F1FSF9GM1dp3X015111C11x7d11FM11T1F1FSF9GM1fp39015111>Mxh31D015111C11sMyh31X015111C11x7d11",
   "FM11T1F1FSF9GM1lp3801511:M+h3130m6qy140m6tFhj330cN~h370:<31111150m6k5cQ+=2Y015111C11V21121121111",
   "141111j3qz130d@1fh230f@1fh230g@1fh230qH=T30h@1fh230j@1fh2Y01Y515g121t2L15611D1918Q7DDM1^bnw230k@",
   "1gh230l@1gh2Y015111C11V21121121111141111j3.z3B031c4*4pB=Pxw21130m@1lh2F031D3Rs1Q3Vg1k2r3G031D3Rs",
   "1Q3;1k2Xw2n3Y015111C11V21121121111141111h2s+150m6k5<r1pd2X015111C11V21121121111141111y*130n@1mh2",
   "B031D3p3F,RjFjw2X015111C11x7d11FM11T1F1FSF9GM1gq330q@1nh230r@1nh230s@1nh230t@1nh240t=1r1,c230v@1",
   "ph230w@1ph2Y015111C11V21121121111141111h2w+130x@1ph230y@1ph2Y015111C11V21121121111141111j3wz130z",
   "@1ph2X01Y515g121t2L15611D1918Q7DDM1>w3Y015111C11V21121121111141111h2y+130>@1kh2Y015111C11V211211",
   "21111141111h2z+130^@1kh230~@1kh230:@1kh2K031H:Ds1v3+k1hd21111111130;@1vh270s^31111130,@1@h230vc1",
   "j^2X01Y515g121t2L15611D1918Q7DDM1wx3Y015111C11V21121121111141111h2@+150m6k5mv3130.@1>h2X015111C1",
   "1V21121121111141111y<3B031D3p3FdSn5k>2C0K186;2z4~M~411B031D3p3FfSfFsx2B031D3=3l3:NfFsx2C0K18=6bj",
   "F<6,41130d*1:h230f*1:h230g*1:h230h*1:h230j*1:h230k*1:h230l*1:h230m*1:h230n*1:h230p*1:h230q*1:h23",
   "0r*1:h2Y015111C11V21121121111141111h2*+130t*1~h230v*1~h230w*1~h230x*1~h230y*1~h230yc1:^230zc1:^2",
   "30+c1:^230@c1:^2Y015111C11V21121121111141111h2=+1Y015111C11V21121121111141111h2<+1Y015111C11V211",
   "21121111141111h2>+1Y015111C11V21121121111141111h2^+1Y015111C11V21121121111141111h2~+150m6k5hw31B",
   "031D3p3FqY~7hy2C0K186;2z4cd1=H11C0K186;2z4sHt21nd3C0K186;2z4sHt21pd3B031D3=3l3,T7d^2C0K186x6b.S+",
   "71180g8x1v3r2>1y8=H30z*1jj230+*1jj230@*1jj2B031D3G9s2jDg4C0K186x6bcT*71130**1jj230*c1k~230=c1k~2",
   "30<c1k~230>c1k~230^c1k~2Y015111C11V21121121111141111h2.+1Y015111C11V21121121111141111h2c@1Y01511",
   "1C11V21121121111141111h2d@150m6k5zw31B031D3p3FsY*R*f2C0K186;2z4;w1=f211C0K186;2z4,Mp51t^2C0K186;",
   "2z4,Mp51v^2C0K186;2z4,Mp51w^2B031D3=3l3nV<7<y2C0K186x6bfd1:H11C0K186x6bgd1,H1130~c1w~230:c1w~2Y0",
   "15111C11V21121121111141111h2f<3Y015111C11V21121121111141111h2g<3Y015111C11V21121121111141111h2n@",
   "1Y015111C11V21121121111141111h2p@1B031D3p3FxY+^21C0K186;2z4kx1~f211B031D3=3l3qV~R;f2C0K186x6blx1",
   ",f211C0K186x6bmx1cg211B031D3=3l3rV,^2150m6k5cQv~2B031D3p3FzMdBc~2F031D3Rs1Q3Vg1k2t3G031D3Rs1Q3;1",
   "k2Xy2l350vc1h4r<21B031D3p3FhSx5f~2X015111C11V21121121111141111~^350yc1f4v<2150zc1f4w<2150+c1f4x<",
   "2150@c1g4x<21B031D3p3F*Y*R@g250*c1g4z<2190+9d3Gr2>1g3v5+g350=c1g4@<2150<c1g4*<2150>c1g4=<2150^c1",
   "g4<<21B031D3p3F=Y*~2150~c1g4~<2150:c1g4:<21F031D3Rs1Q3Vg1k2s3G031D3Rs1Q3;1k2Xx2m340vc1pThh270+9v",
   "3j4>R>Jhh240yc1nThh240zc1nThh280+9v3r2>1v2^PnJ50+c1nT1gh270+9m21=F+Q^s250+9^t1x1hh270xd11^7<+211",
   "40@c1qTlh240*c1qTlh250=c1qT1kh250<c1rT1jh240>c1sTjh240^c1sTjh250~c1sT1hh240:c1tThh2F031D3Rs1Q3Vg",
   "1k2qJG031D3Rs1Q3;1k2X>5*940^<1x1hh270sCf4Dh8<1;HF031D3Rs1Q3Vg1k2sJG031D3Rs1Q3;1k2X>5<960+9+7g3+j",
   "1xh260xd11h7~@21F031D3Rs1Q3Vg1k2tJG031D3Rs1Q3;1k2X>5>970p1s25.9Qn570p1s25+91n670=FgBq81vR,k270lJ",
   "+7r81tR,k270p1s25.9Qp570p1s25+91p680=FgBr21f2mXhk280lJ+7s21d2mXhk270p1s25.9Qr570p1s25+91r670p1s2",
   "5.9Qq570p1s25+91q670p1s25.9Qs570p1s25+91s6Y015111C11V21121121111141111j3c@1X01Y515g121k4b15G1181",
   "R1DPVGFS1;x3X01Y515g121k4b15G1181R1DPVGFS1,x3X01Y515g121k4b15G1181R1DPVGFS1.x3X01Y515g121k4b15G1",
   "181R1DPVGFS1cy3X01Y515g121k4b15G1181R1DPVGFS1dy3H01Y515r5b15G11~C=p3Y015111C11V21121121111141111",
   "j3d@1B01Y515r5xF:F~:2Y015111C11V21121121111141111h2g*1Q01Y515r5b15B41181R1DPVnv1R01Y515r5b15B411",
   "81R1DPVGpz3F01Y515r5b15sD~FtSM01Y515r5b15G1181R1;Bnk1N01Y515r5b15G1181R1Dq3vs1P01Y515r5b15G1181R",
   "1DP*2ss1D01Y515r5b1+D>FtSF01Y515g121k4@F<F;:2K01Y515r5b15G1181>C+p3S01Y515r5b15B41181R1DPVGFcz3Y",
   "015111C11V21121121111141111h2l*1X01Y515g121k4b15G1181R1DPVGFS1my3X01Y515g121k4b15G1181R1DPVGFS1n",
   "y3X01Y515g121k4b15G1181R1DPVGFS1py3X01Y515g121k4b15G1181R1DPVGFS1qy3X01Y515g121k4b15G1181R1DPVGF",
   "S1ry3X01Y515g121k4b15G1181R1DPVGFS1sy3X01Y515g121k4b15G1181R1DPVGFS1ty3Y015111C11V21121121111141",
   "111h2m*1X01Y515g121k4b15G1181R1DPVGFS1vy3Y015111C11V21121121111141111j3m@1Y015111C11V21121121111",
   "141111j3n@1Y015111C11V21121121111141111j3p@1Y015111C11V21121121111141111j3q@1Y015111C11V21121121",
   "111141111j3r@1901Y515>Lmq31D01Y515g121+Knq31X01Y515g121k4b15G1181R1DPVGFS1+y3801Y51cMqq31B031D3=",
   "3l3.TMt;2Y015111C11V21121121111141111h2t*1B031D3=3l3zVv7.@2Y015111C11V21121121111141111h2v*1Y015",
   "111C11V21121121111141111h2w*1B031D3=3l3+VzR~j2Y015111C11V21121121111141111h2x*1B031D3=3l3@Vt;21X",
   "015111C11+4D17F119161S5J9SD1;@3X015111C11+4D17F119161S5J9SD1,@3X015111C11+4D17F119161S5J9SD1.@3X",
   "015111C11+4D17F119161S5J9SD1c*3X015111C11+4D17F119161S5J9SD1d*3H015111d5D17F11<F*q3B015111d5:GdG",
   "@;2Q015111d5D17F119161S597yy1R015111d5D17F119161S5979n=3F015111d5D17nGcG=SM015111d5D17F119161pF=",
   "k1N015111d5D17F119161Sr5;s1P015111d5D17F119161S5l5~s1D015111d5D1yG,F=SF015111C11+4cH;F=;2K015111",
   "d5D17F1191@Fzq3S015111d5D17F119161S5979S+*3X015111C11+4D17F119161S5J9SD1m*3X015111C11+4D17F11916",
   "1S5J9SD1n*3X015111C11+4D17F119161S5J9SD1p*3X015111C11+4D17F119161S5J9SD1q*3X015111C11+4D17F11916",
   "1S5J9SD1r*3X015111C11+4D17F119161S5J9SD1s*3X015111C11+4D17F119161S5J9SD1t*3X015111C11+4D17F11916",
   "1S5J9SD1v*39015111>Mlr31D015111C11sMmr31X015111C11+4D17F119161S5J9SD1+*3801511:Mpr31Y015111C11V2",
   "1121121111141111h2@*1Y015111C11V21121121111141111h2**170sCt4w4t59tk370sCf4Dh8>1>k3Y015111C11V211",
   "21121111141111h2=*1Y015111C11V21121121111141111h2<*1Y015111C11V21121121111141111h2>*1Y015111C11V",
   "21121121111141111h2^*140m6tM:k3Y015111C11V21121121111141111h2~*1Y015111C11V21121121111141111h2:*",
   "1Y015111C11V21121121111141111h2;*1Y015111C11V21121121111141111h2,*1X01Y515g121k4b15G1181R1DPVGFS",
   "1>z3H031D3Rs1T;1k2X+61Ks850m6k5l1tWJ031HnGv3+k1@l211111111C031D3G9s1Q3v760@DlF1sd1zj28031D3G:2wj",
   "1L0K186q1q2vD1<v311111111X015111C11V21121121111141111c.380K186;2d1~L8031D3G:2<j18031D3G:2xj18031",
   "D3Gw6,d1Y01Y515g121k4b15G1181R1DPVGFS1t+31H031D3h2T;1k2Xc5+11Kt8X015111C11V21121121111141111d*1X",
   "015111C11V21121121111141111g.380K186;2d1xRX01Y515g121k4b15G1181R1DPVGFS1vX40cNqs318031D3G:2dZ40w",
   "F1qWC031D3G9s1Q3x78031D3G:2fZ8031D3G:2=Y8031D3G:2gZ8031D3G:2<Y8031D3G:2qZ8031D3Gw6jV8031D3G:2hZ8",
   "031D3G:2^Y8031D3Gw6nV8031D3G:2,Y8031D3Gw6qV8031D3Gw6rV40cNql11C031D3G9s1Q3w740>m1+<21C031D3G9s1Q",
   "3tN70+9v3@B4zn3140qHfr1140qHfr1260lJpx311160lXtj311160=Fyp1wn211C031D3G9s1Q3wN60sC;Gh6k9<G70+9d3",
   "z4g3jl1rk270+9m21dXx8,750+9v3^+31C031D3G9s1Q3xN60sCf4Dh8@K60wc11^8hHwn260gVh2zDk>2170=FmD71~l317",
   "0lJ>981~l31X01Y515g121k4b15G1181R1DPVGFS1r@3Y01Y515g121k4b15G1181R1DPVGFS1s@318031D3Gw6yV8031D3G",
   "w6zV8031D3Gw6+V8031D3Gw6@VX015111C11k7T1RF11K1T1FFTCDC1q+3X015111C11k7T1RF11K1T1FFTCDC1r+3X01511",
   "1C11k7T1RF11K1T1FFTCDC1s+3X015111C11k7T1RF11K1T1FFTCDC1t+3X015111C11k7T1RF11K1T1FFTCDC1v+3H01511",
   "1z7T1RF11nBnt3B015111z7pDgGkc3Q015111z78K1RF11K1T1FFT*t1R015111z78K1RF11K1T1FFTCp@3F015111z7T1R^",
   "BfGnTM015111z7T1RF11K1T1c9ql1N015111z7T1RF11K1T1Fs1xt1P015111z7T1RF11K1T1FFc1vt1D015111z7T1zCcGn",
   "TF015111C11k7tD.Fmc3K015111z7T1RF11K1,9kt3S015111z78K1RF11K1T1FFTCDd@3X015111C11k7T1RF11K1T1FFTC",
   "DC1*+3X015111C11k7T1RF11K1T1FFTCDC1=+3X015111C11k7T1RF11K1T1FFTCDC1<+3X015111C11k7T1RF11K1T1FFTC",
   "DC1>+3X015111C11k7T1RF11K1T1FFTCDC1^+3X015111C11k7T1RF11K1T1FFTCDC1~+3X015111C11k7T1RF11K1T1FFTC",
   "DC1:+3X015111C11k7T1RF11K1T1FFTCDC1;+39015111>M^t31D015111C11sM~t31X015111C11k7T1RF11K1T1FFTCDC1",
   "f@3801511:M;t31X015111C11*7f11GL11SF11CTCDDM1w+3X015111C11*7f11GL11SF11CTCDDM1x+3X015111C11*7f11",
   "GL11SF11CTCDDM1y+3X015111C11*7f11GL11SF11CTCDDM1z+3X015111C11*7f11GL11SF11CTCDDM1++3H015111g8f11",
   "GL11+9gv3B015111g8^ChG.c3Q015111~78f11GL11SF11CTCst1R015111~78f11GL11SF11CTCD=@3F015111g8f11GpBg",
   "GqTM015111g8f11GL11SF11w8tl1N015111g8f11GL11SF11Cb+t1P015111g8f11GL11SF11CT6yt1D015111g8f11^BdGq",
   "TF015111C11*7,CcGdd3K015111g8f11GL11SF*8cv3S015111~78f11GL11SF11CTCDDt@3X015111C11*7f11GL11SF11C",
   "TCDDM1~+3X015111C11*7f11GL11SF11CTCDDM1:+3X015111C11*7f11GL11SF11CTCDDM1;+3X015111C11*7f11GL11SF",
   "11CTCDDM1,+3X015111C11*7f11GL11SF11CTCDDM1.+3X015111C11*7f11GL11SF11CTCDDM1c@3X015111C11*7f11GL1",
   "1SF11CTCDDM1d@3X015111C11*7f11GL11SF11CTCDDM1f@39015111>M+v31D015111C11sM@v31X015111C11*7f11GL11",
   "SF11CTCDDM1l@3801511:M=v3170sCf4D@5v2,q370sCf4Dh8:1gp340m6xMkp3D031D3Rs1TVg1k2vJF031D3Rs1T;1k2X>",
   "5^9X015111C11+4D17F119161S5J9SD1l^3X015111C11k7T1RF11K1T1FFTCDC1g*3G031D3h2T;1k2X+61Kv840fh411B0",
   "K186q1r6fH=4kF90K186,3>3fHqc1506,bzWtm2D031D3h2TVg1k2:5+BF031D3h2T;1k2Xc5T~940kh41140nh41140rh41",
   "1B0K186q1r6<M1mb90K186,3>3<Mcm3B0K186q1r6>Mcm3190K186,3>3~~3140+h41140=h41140^h411B0K186q1r6>Msm",
   "3190K186,3>3m:31B0K186q1r6>Mxm3190K186,3>3r:3140jj41160p1s2hBQt560p1s2>91t660m6k5rN1170g8p3*1r2D",
   "h8Y015111C11*7f11GL11SG1CTCDDM1@*31160lJ.CsW<s2160gVh2zDz:2160=FsDwY~s2130xj4160+9v3>Bt2nq330+j4",
   "140qHgr1C30*j4140qHhr1B60+9hG4+g1mp260+9v3r2>1nS60xd11>71s:2X015111C11+4D17F119161S5J9SD1d:3X015",
   "111C11k7T1RF11K1T1FFTCDC1;=3X015111C11l7W1RG11L1R1GCTCDD1~=3X015111C11l7W1RG11L1R1GCTCDD1:=3X015",
   "111C11l7W1RG11L1R1GCTCDD1;=3X015111C11l7W1RG11L1R1GCTCDD1,=3X015111C11l7W1RG11L1R1GCTCDD1.=3H015",
   "111+7W1RG11jB:x3B015111+7nDjG=g3Q015111+77N1RG11L1R1GCT;t1R015111+77N1RG11L1R1GCTC~<3F015111+7W1",
   "R=BhGwTM015111+7W1RG11L1R1;8+l1N015111+7W1RG11L1R1Gn1^t1P015111+7W1RG11L1R1GCZ<t1D015111+7W1wCfG",
   "wTF015111C11l7sDdG>g3K015111+7W1RG11L1>9>x3S015111+77N1RG11L1R1GCTCDy<3X015111C11l7W1RG11L1R1GCT",
   "CDD1k<3X015111C11l7W1RG11L1R1GCTCDD1l<3X015111C11l7W1RG11L1R1GCTCDD1m<3X015111C11l7W1RG11L1R1GCT",
   "CDD1n<3X015111C11l7W1RG11L1R1GCTCDD1p<3X015111C11l7W1RG11L1R1GCTCDD1q<3X015111C11l7W1RG11L1R1GCT",
   "CDD1r<3X015111C11l7W1RG11L1R1GCTCDD1s<3X015111C11+4D17F119161S5J9SD1*:39015111>Mty31D015111C11sM",
   "vy31X015111C11l7W1RG11L1R1GCTCDD1z<3801511:Mxy31X015111C11+4D17F119161S5J9SD1,:3X015111C11+4D17F",
   "119161S5J9SD1.:3X015111C11+4D17F119161S5J9SD1c;3X015111C11+4D17F119161S5J9SD1d;340m6vMhs3X015111",
   "C11+4D17F119161S5J9SD1g;3X015111C11+4D17F119161S5J9SD1h;3X015111C11+4D17F119161S5J9SD1j;340m6wMl",
   "s3W018C1951m1x5W1RG11L1R1GCTCDD1B031D3G9s1TyN70p1s1Qy7:2Q70p1s1Qy7x21C031D3h2TVg1k2xJD031D3h2T;1",
   "k2X>5:9B031D3G*1T.9+B80K186,3>3n,380K186,3>3cd180K186,3>3p,380K186,3>3q,380K186,3>3r,380K186,3>3",
   "s,380K186,3>3t,380K186,3>3v,380K186,3>3w,380K186,3>3x,380K186,3>3y,380K186,3>3z,380K186,3>3+,380",
   "K186,3>3@,380K186,3>3*,380K186,3>3=,370p1s1Q+7^2Q70p1s1Q+7v2170p1s1Qz7~2Q70p1s1Qz7w2170p1s1QtBQs",
   "970p1s1QgB1sB70p1s1QtBQv970p1s1QgB1vB40>m1yKhs270p1s1QtBQw970p1s1QgB1wBW015111C11l7W1RG11L1R1GCT",
   "CDD160g8q3tG1sd140m6mHcy340m6zM*s340m6k5:X50yl41119031D3G*1T+N50*l411160jBlSxT1:q230~l4130;l4130",
   ".l4130dm4130gm4130jm4130lm4130nm4130qm4130sm4130vm4130xm4130zm4130@m4140sf1q7.,240.~11<r230sf1rk",
   "340.~11^r230d:1^r240m6k5;X40s2zKql140sf1q7h.240m6k5,X40m6k5.X40m6k5cY40m6k5dY40m6k5fY40m6k5gY40m",
   "6k5hY60p1s1hCQx960p1s1>B1xBF031D3,3zBKw8nB1p7nL30;m4130.m4160=2<BDQy960=2<B11yB30dn4130sf1q730d:",
   "1fs240ZkbzW9031D3Gw3+M@KB031D3=37+MnB1C031D3,3=9;9nB1p7J0K186q1;T@411cQh5ds2111B031D3=37cSpF1C03",
   "1D3,3=9nGpF1mL50=2hCQz950=2>B1zBJ0K186q1dV;41>Vjs211111B031D3=37.Y@T1C031D3,3=9mN@T1ms2B031D3=37",
   "rj1y.2130xn418031D3Gw3+M8031D3Gw3cS8031D3Gw3gYD0K186q1tPp9lQ1118031D3Gw3.Y8031D3Gw3hY8031D3Gw3=Y",
   "D0K186q1<Zwm311118031D3Gw3jY8031D3Gw3rj18031D3Gw3kY8031D3Gw3*=18031D3Gw3nY8031D3Gw3==18031D3Gw3p",
   "Y8031D3Gw3qY8031D3Gw3<=18031D3Gw3rY8031D3Gw3>=140<n4118031D3Gw3yY8031D3Gw3zY8031D3Gw3+Y8031D3Gw3",
   "@Y8031D3Gw3^=18031D3Gw3sY8031D3Gw3tY8031D3Gw3vY8031D3Gw3wY8031D3Gw3~=1K02pD11111111s21K1<2~4F031",
   "D3;2;1k2X+61=^31K02pD11111111s21K1y7=y3C0K186q1f^1xs21118031D3Gdn41C0K186q1ql1=L1*s21F0K186q1fV,",
   "411z7vM=s2F0K186q1z9t311k6~k1<s28031D3GsM^@38031D3GsM~@38031D3GsM:@38031D3GsM;@3K02qL1111111111,",
   "L1f81K02pD11111111.21.C1gL@:28031D3Grn418031D3GsMd*38031D3GsMf*38031D3GsMg*38031D3GsMh*3K02qL111",
   "1111111~2gJ1;h3K02pD11111111.21<2l91~9K02pD11111111s21K1y7tz3C031D3;2;1k2X+6~V40x4.81C031D3yRnB1",
   "p75hLC0K186;GqD@411;PC031D3,WpF12kLxt2C0K186;GtD~411~Q9031D3=3qj1>Lmt2C0K186;GvD;41sn31C0K186;Gw",
   "D,411z7C0K186,Bt311H=5C0K186;GzT=H11wx29031D3=3,Yym31C0K186;Gc8t21ww31C0K186;Gc8t21yw31C0K186;Gy",
   "K+711cHC0K186;GzK*711.GC0K186;GxDp51ln31C0K186;G@T:H11yx2C0K186;G*T,H11wx27031D3GsM30hq4130;~113",
   "0kq4130mq4130pq417031D3Gv27031D3GhR7031D3Grm170K186,3cy17031D3GwW7031D3Gzc170K186,3~L80K186wGn8;",
   "K7031D3G+m180K186wG:~3170K186,3wk47031D3Gtm17031D3Gvd17031D3G+c180K186wG.Dnb70K186,3xR7031D3Gld1",
   "70K186,3xk480K186wGc:3170K186,3+k480K186wGg:3180K186wGj:3170K186,3>k47031D3G@c17031D3G:m17031D3G",
   "*c180K186wGlVdf370K186,3>h17031D3Gk~180K186wGn:3170K186,3;k480K186wGr:3170K186,3cl480K186wGv:317",
   "0K186,3gl480K186wGy:3170K186,3kl480K186wG@:317031D3G>c17031D3Gl~17031D3G^c180K186wG=:3170K186,3q",
   "l480K186wG^:3170K186,3tl47031D3G~c17031D3Gm~17031D3G:c17031D3Gn~17031D3G~G7031D3Gfd17031D3Ggd170",
   "31D3Ghd17031D3Gjd17031D3Gp~17031D3Gsm17031D3G;c17031D3G,c17031D3G.c17031D3Gcd17031D3Gq~130sr4170",
   "z9n21<1pXxL70z9f4:t11;v2170z9f4pXxL3130xr4130zr4130@r4130=r4130>r4130~r4130;r4130.r4130ds4130gs4",
   "130js4130ls4130ns4130qs4130ss4130vs41D0k461<5pB,5zH@L11150@F>Dqf1<w2D0k461<5pB,5+H+L111B0K1cX.51",
   "1.p31140@FsX<L60@F>D@H*L:w250:C1fZ=g350=s411130~s4130;s4130.s4140+f1lV130dt4130gt4140@f1kV130jt4",
   "130lt4130nt4130qt4130st4130vt4170vP7:91xB170vP7~<311170vP7tN1wh3130=t4150z9gTgr3140;:1,x2130;t41",
   "30.t4130dv4130gv4130jv4130lv4120nv430pv4130fp1<L30rv4130,:1wy230.:1wy240=f1mVxy230xv4130zv4130@v",
   "4130=v4130>v4130~v4150=f11js3140=f1ms3130dw4130c;1gz230hw4130kw4130mw4130pw4130rw4130tw4130d;1vz",
   "230xw4130zw416031dD1vh46031dD1wh46031dD1xh46031dD1yh430>w4130~w4130;w4130f;1;z230cx4130fx4130hx4",
   "130kx4130mx4130px4130rx4130tx4130wx4130yx4130+x4130*x4130<x4130^x4130:x4130,x4130cy4130fy4130hy4",
   "130ky4160*PwN;L1160kS1cL.L160kS1d^31160kS1cLhm3120sy46031dD1mk46031dD1nk46031dD1pk46031dD1qk420y",
   "y46031dD1sk46031dD1tk46031dD1vk46031dD1wk420=y46031dD1yk46031dD1zk46031dD1+k46031dD1@k420:y46031",
   "dD1=k46031dD1<k46031dD1>k46031dD1^k420dz420fz420gz420hz490K1;Tf81*V;@2180BP3lD,j41140gp1~Lr*250s",
   "1m1*w4140fp1lMh*280BP3lDwPxVh*280BP3Hmd1xVj*280BP3f2@b=w3180@F>D;f1l*211170Bc17q2,H*640gp1;L**28",
   "0BP3lD.5hp1q*280BP3H=Khp1r*280BP3f2hJxc4180BP3f2hJzc4180BP3f2hJ@c4180BP3f2hJ=c4180BP3:CC<k4180BP",
   "3f2^9jl4180BP3f2^9ll4180BP3f2^9nl4180BP3f2^9ql4180BP3f2^9sl4180BP3f2^9vl4180BP3y9@2kl4180BP3f2w7",
   ";n4180BP3f2w7.n4180BP3f2w7dp4180BP3f2w7gp4180BP3f2^D~h4170Bc17q2.H@650*Psl11150vP,l11s=270Bc17q2",
   "cJ+650s1m1ly4170Bc17q2dJz650s1m1ny4170Bc17q2fJy650s1m1qy4150s1m1sy4150s1m1vy4150s1m1xy4190k461<5",
   "v4@4k1>P60BPL,~1>=240>3wx4160>351rx4140s@41160Bl1,~1d<2160BPL.~1f<260>351f>1y<240>3~x4160BPL.~1k",
   "<260>351<x4160>351^x4160BPLc:1p<260>351;x4160>351g>1:<260BPLc:1t<260BPLd:1t<260BPLd:1v<260BPLf:1",
   "v<260BPLf:1w<260>351jy4150lSfLqM160vP,l11<<2140*P+N150yb1xB150m*411130r*4130t*4130w*4140+f1fW130",
   "y*4130+*4140@f1dW130**4130<*4130^*4130:*4130,*4130c=4130f=4120h=420j=420k=420l=420m=420n=420p=42",
   "0q=420r=420s=420t=420v=420w=420x=420y=420z=490k461<5v4@4k1;P90mH1mCn811<+3170K1;Tf81*V80k461<5qB",
   "sG>+360z9gTfW.>2160BP3lDww160@Fs3r9q;3160BP3lD@P60BP3Hsd160BP3f2^b50BPLp*460Bc17tLx660BP3lD*P60B",
   "P3Htd160BP3f2~b50BPLq*460BP3lDhY60BP3f2nl150BPLr*460BP3lDjY60BP3f2pl150BPLs*460BP3f2*^150BPLt*43",
   "0c<4140~;11k^230g<4130j<4130l<41"]

private def tsxPart9 : List String :=
  ["40kp1=M140pp11+M30n<4140kp1^M130q<4130s<4140lSsj1140kS:j1s^250p1s25,H50p1s25.H50p1s25dJ50p1s25cJ",
   "50p1s25fJ80k461<5qBsGz@3306q<480k461<5qBsG@@380k461<5qBsG*@360:C1<1;Dxg160@F;D.d11f:260@F;Ddf11v",
   "150=P1rm1x^280mH1=M11+@3150=P1qFdW80mH1mC+g111x^280mH1mCn811rW40Bl1m=480mH1mCn811,@320:m150~;11.",
   "^2120;<4406g,1@^230.<4130pp1130d>4130;;1130vp1+t340vp11+t350kSyj1Bg~230k>4130m>4130p>4130r>4140l",
   "Dls4130w>4130y>4130+>4150lDg1c4rm450vp11lv3140>>41140wp1rv3130,>4130c^4130n,1>~230g^4130j^4130l^",
   "4130n^4130q^4130s^4150lDg1c4jn430w^4140lDqt4130+^4130*^4130<^4130^^4150lDg1c4yn430;^4130.^4150lD",
   "g1c4=n430f~4130h~4130k~4130m~4130p~4130r~4150lDg1c4hp430c,1150lDg1c4jp450lDg1c4kp430lSpL20x~440l",
   "p1.L140y~41120@~420*~420=~420<~420>~420^~420~~420:~420;~420,~420.~430+f1*W30@f1@W50=P1zm1@;250=P",
   "1qFmW50=P1+m1@;250=P1qFnW50=P1@m1@;250=P1qFpW50@F>DhJxx360BdK11=p460BdK11<p470k461lB@4=Q60BdK11>",
   "p460BdK11^p460BfK1k9@d450n:411150;:1x1.;2170mH1=M11sW60b@Tw8v7;M70b3yT.H,M170mH1=M11s>370mH1mCn8",
   "1140p1s2mJ30np1pN50lDg1c4kq430xp1gN30np1rN30*,1~;230*,1:;220z:430=,1;;220@:420*:420=:460BfK1k9jf",
   "470k461lB@4<Q60BfK1k9kf470k461lB@4.Q70k461lB@4gR60BdK11sq460BdK11tq440rf1Bk^350@F>DkJny360BdK11x",
   "q460BdK11yq450BhK:1qR60k461:G=Q50BhK:1rR20c;450p1s1Qy750BdK3:120d;460k461<Z;>360k461>Z;>360k461^",
   "Z;>360k461~Z;>350BhK:1sR60>351l>4120m;420n;450b@Tw8rW60b3yT;g1150BhK:1n720p;450b3=d1y^350k4k>411",
   "50v;411160k461:Zp^360k461;Zp^350b3kLsp460b3kLtp4160b3kLwp4160b3kLyp4160mH1=M1150b3:C,w460b3:C.w4",
   "160b3:Cdx4160b3:Cgx4160b3:Cjx4160b3:Clx4160b3:Cnx4160b3:Cqx4160b3:Csx4160b3:Cvx4160b3:Cxx4160b3:",
   "Czx4150b3y9.z460b3y9c+4160b3y9f+4160b3y9h+4160b3y9k+4160b3y9m+4160b3y9p+4160b3y9r+4160b3y9t+4160",
   "b3y9w+4160b3y9y+4160b3y9++4160b3y9*+4160b3y9<+4160b3y9^+4160b3y9:+4160b3y9,+4160b3y9c@4150b3:G<v",
   "460b3:G>v4160b3:G~v4160b3:G;v4160b3:G.v4160b3:Gdw4160b3:Ggw4160b3:Gjw4160b3:Glw4160b3:Gnw4160b3:",
   "Gqw4160b3:Gsw4160b3*;1@d3160b3*;1=d3130>,1<d330>,1>d350p1s1Q+720@,150vKf31dr450vKf31fr450p1s1Qz7",
   "40t,19,d350p1s1QxN50p1s1QzN20*c520xp120=c520z,120<c530<p1d*320^c520~c520:c520;c530vKvv420.c520cd",
   "550vKf31vr440<f1c8p*330gd5130<p1s*320kd520ld520md520nd520pd520qd520rd520sd520td550vKf31;r420wd53",
   "0vKfw420yd520zd520+d520@d520*d550vKf31js420<d520>d550vKf31ms420~d520:d520;d520,d520.d520cf520df5",
   "50vKf31ws420gf520hf520jf550p1s1Q+N20kf560k461:G<Q60k461<Zf.360k461>Zf.360k461^Zf.360k461~Zf.360k",
   "461:Zf.360k461;Zf.360k461:G.Q60k461<Zm.360k461>Zm.360k461^Zm.360k461~Zm.360k461:Zm.360k461;Zm.36",
   "0k461:GgR60k461<Zt.360k461>Zt.360k461^Zt.360k461~Zt.360k461:Zt.360k461;Zt.340yVh8gc450nGd1t3fw46",
   "0mSgCw.31150b3ff1v760mH1mC+g1140>1d;1hh350>P1dn1hh350bdf51130Zjf550lDg1c4^x450lDg1c4~x450lDg1c4:",
   "x430lg5130ng5150vKf31>t440~P,N140~P,N220rg520sg520tg520vg520wg560mSgCkc41140>1~d5150>P1~4dn440>1",
   ",d5150>P1~4hn440>1df5150>P1~4ln440>1hf5150>P1~4pn450>P1dn1jj350>P1~4rn450>P1~4sn450nGd1t3qx430yp",
   "1y>340>1d;1qj330yp1+>330:,1qj340nGd1t350B^2hd51501Y5f950B^2>~1sj350B^2ld5140b3ff130,,1vj320th550",
   "fKl7kr4140qK3:150B^2sd515031nPyn150v1v1tc1+W40Zl9=c140p1s1qP50B^2vd5120@h520*h540nGd1s@440nGd1+c",
   "140sV+h1=j340tK:1qR40sV+h1<j350+Gk*411501Yl9<^440tK:1rR50B^2>~1dk320.h540tK:1n740b3=:140tK:1sR60",
   "zX^6@W,j31501Y5yD40=2<B+B20fj540b3:d130bhh540b3;d130bjh530bkh540b3qn130blh540b3rn140b3<:140b3jh5",
   "30q4;c520nj520pj530qj5120sj520tj520vj530rC=z130rC<z130rC>z130rC^z130rC~z130rC:z130rC;z130rC,z130",
   "rC.z130rCc+130rCd+130rCf+130rCg+130rCh+120wj520xj520yj520zj530~P,N20+j520@j550151,950K1kl1,;350n",
   "P~1mD+W406.9=c15015.9y~450151tF30+p1h~35015.9+~4501Yl9@~45015.9*~45016R<N501Yl9=~450B^2>f5150B^2",
   "~f5130+p1s~330x.1xk350qFR1c<430qF><450qFR1f<450qFR1g<450qFR1h<450qFR1j<450qFR1k<45015.9j:450B^2l",
   "g5130,,1vl350B^2pg515031nbyb30;p1z~330qFk>450qFR1v<430zk5150B^2xg5150B^2zg5140tg1qg4130xHp=4502+",
   "V:h1pl34031nP40B^2>g540tg1jXql350qg1+g41130xHx=45031.k5150mH1:=4120ll540B^2hh540B^2jh540+.11@l34",
   "0fKl7fv460>351=~1*l340B^2nh540tl51140xl51150z9Ly@1160>351@g515031yl5140B^2+h530=2sP40B^2@h540+.1",
   "1jm340^8.*1fm340nGd1dd140^8.*1gm340B.D+^430@Gn>430.l5160qFR1,>4130q;1<p350>351jh550zX^6sX130jm51",
   "5031gm5140B^2jj540pm51130@G<>440B.Dj~440Bl1,k530@G~>440Bl1cl530cx1y=350>351+h530+m5140B^2yj530@G",
   "f^430@Gg^440B.Dw~440Bl1nl530dx1^=340Bl1ql530;m5150sg1@W;n3130dn5140B^2.j530@Gv^430@Gw^440B.D;~44",
   "0Bl1*l540Bl1=l540B^2jk530@G@^430@G*^440B.Dg:440Bl1:l530@G>^430@G^^440B.Dl:440Bl1cm530@G;^430@G,^",
   "440Bl1gm530@Gc~420*n520=n520<n520>n520^n520~n520:n520;n520,n520.n520cp520dp520fp540tg1@k4140K1kl",
   "140tg1jXyp350qg1~k41150z9Lz@1460>351pk5140Bl1^m530rp5140Bl1;m530fx1s>350wKg31:@430wKd>450wKg31,@",
   "450wKg31.@440Bl1gn530gx1y>350wKg31f*450wKg31g*440Bl1ln540Bl1mn540Bl1nn550wKg31l*460>351;k5130,p5",
   "130hx1:>330jx1:>360>351gl5130hq5130kx1c^330lx1c^360>351nl5130pq5130mx1h^330nx1h^360>351vl5130wq5",
   "130px1m^330qx1m^360>351@l51502+VmJ<c440B^2zm540B^2+m540B^2@m540B^2*m530wKq^450wKg31m=430;q5140B^",
   "2~m540B^2:m540B^2;m540B^2,m54031nb40B^2.m540B^2cn5502+VmJld440B^2fn540B^2gn530mr51402+V+x430;.1t",
   "r320rr530B.D30sr5140vr51140yXd6r8402+V:h130cq1yd430B^250p1:K~Ryd430f1yq520@r540qMq>4150lT~K1130<",
   "r5130^r5130:r5120,r540v1v1tc130xHt;430cs5150~PlP1150lDg1cC<+420gs530f1fr520js540qMn9yw450lT,K113",
   "0ls5150>351pn530ps5130rs5130ts5120ws540nSm@4130fKx:430xHg,430xHh,430*s5150~PpP1150lDg1cCt@440,.1",
   "1120>s530f1<r530f1>r520g.120:s550>351,n540=f11nY40,s51130dt5130gt5130jt5130lt5120nt530xH>,420qt5",
   "60wKg31<>4120tt530f1ss530f1ts530Bl120h.120xt520yt520zt520j.120+t530@t5150lDg1cCs*440sg1@X130f1*s",
   "530f1=s520^t520k.120l.120~t520:t520;t520,t530.t5120dv520fv520gv530f1ft530f1gt520m.120n.120kv520l",
   "v520mv520nv520pv530f1nt530f1pt520p.120q.120sv520tv520vv520wv530f1vt530f1wt520r.120s.120zv530f1yt",
   "520t.120v.120w.120r~120@v520*v520=v520<v520>v520^v520~v520:v520;v520,v520.v520cw520dw530fw5120hw",
   "520jw520kw520lw520mw520>>120nw520pw520qw520rw520sw520tw520vw520ww520xw530yw5120+w520@w520~>120:>",
   "120c^120*w520=w520<w520>w520^w520~w520:w520;w520,w520.w520cx520d^120k^120l^120dx520fx520gx520hx5",
   "20jx520kx520lx520mx520p^120nx520px520qx520rx520sx530tx5130wx5130yx5130+x5130*x5130<x5130^x5130:x",
   "5130,x5130cy5130fy5130hy5130ky5130my5130py5130ry5130ty5130wy5130yy5130+y5130*y5130<y5130^y5130:y",
   "5130,y5130cz5130fz5130hz5120kz520lz540+f1wY140@f1vY130mz5140pz51150p1:K~Rrm440qMgc5150zPvP1140nP",
   "~1mD30xH.g550~Pqp11150lDg1cCl~440qMn9,*450zPyP1140nSp~4130xHhh530xHjh550~Ptp11130;>1150lDg1cCs~4",
   "30xHlh530f^1130h^1150lDg1cCv~430m^1140^z51140qMyc5150zPzp11140qMn9q=450zP*p11140c+51140qM<c5140q",
   "Mn9x=440qM~c5140qMn9+=4402+VmJ402pc2;z3402pc2,z330xH^h530xH~h530xH:h530xH;h540yXd6@830v+5130x+51",
   "30=V:>430<V:>430<V;>430yXd6302++530:P~,430:P:,440pLjK,X30qSt:430rSt:430jd1*z430=VmG30<Vh^430<V*j",
   "140<Vj^4130xf1130x4nj130x4,~130:Pg.430:Ph.430nS<:430f@5130h@5130k@5120m@530wc2>+330sV;^440mSs4:g",
   "120q@530r@5140<V*^4140p1=n1vp430x@5130nSp;430wc2h@3302z@530z9f450>351=x530sVp~440mSs4g>420>@540z",
   "Xlg1130^@5130+Vm~430;@5130<f1nY50qFR1:l530c*5150>351gy54>V1n~414>V1q~4120l*540zX@>4140zX=>4150>3",
   "51sy550>351ty54>V1+~414>V1*~4140y*51130nSr,450>351=y550>351<y550>351>y54>V1.~414>V1d:4150>351,y5",
   "50>351.y550>351cz530c=5130f=5130=Vs:430yXz^430:Ppd530:Pqd540pLjKgY30qS;,430rS;,430=VyG30:Ptd530:",
   "Pvd540mSs4,g130Zt*550>351tz540mSs4>^450>351wz550>351xz530x=5130z=5130qSp.430rSp.430vP750>351<z55",
   "0>351>z550>351^z530^=5130:=5130qSz.430rSz.4306^=550>351f+550>351g+550>351h+530h<5130k<5130qS;.43",
   "0rS;.430kS150>351q+550>351r+550>351s+530s<5130v<5130qSkc530rSkc530z<5130@<5130qSrc530rSrc5302=<5",
   "30@F;D50>351~+540rCg9jr140rCh9hr150qFR1<p550>351;+550qFR1^p550qFR1~p550qFR1:p550qFR1;p550qFR1,p5",
   "30f>5130h>5130k>5130=Vx,430kGs530.p1pt430Bc>530@c2*<330kMkk530vF,q520t>530v>5130pLgt130r5qz130mS",
   "s430tKmv130x>5120z>520:p140=c21:<330K120@>530>c2;<330=>5120>>530@c2j>330~>5130^c2g>330~c2g>330vF",
   "wr530kM^k530kM~k530vFzr530g^5130j^5120,.130cq1:P20l^530cs1ms430rC;t520><130vg1tY30r5,+530pLdm530",
   "r^5120t^520v^530z9*d130xc2.>330v1v130r5wz140+G~5~Q20x^530y^5120+^530v,1k:330l,1v:330vVmc530vVnc5",
   "30m,1x:330^p1hQ30~p1gQ30vg1wY20^^520~^520:^520;^530,^5120c~530cd2d^340>35130*.1r~330g~5130j~5130",
   "r5~@530:t1rr420n~530p~5130vV;c530vV,c530t~51303130+V:c520x~530fKwp520z~520+~520@~520*~520=~540dd",
   "21*^340>~51140:~51140.~51130tt1+s430g:5130j:5120l:520m:520n:520p:520q:520r:520s:530t:5120w:530fc",
   "2130x:5120z:520+:520@:520*:520=:520<:520>:520^:520~:520::520;:520,:520.:520c;520d;520f;520g;520h",
   ";520j;520k;520l;520m;520n;520p;520q;520r;530s;5130v;5130x;5130z;5130@;5130=;5130>;5130~;5130mq1@",
   "y430kM<p530vFww530c,5130pLmt130r5c@130f,5140gd21c;330vF*w530kMcq530kMdq530vF>w530ds1mx430r5,<530",
   "pLdr530Zt;530zc2^;330nP~130r5d@140+G~5:Q30^p1qQ30~p1pQ30kd2m;340lMmq5130x,5130r5l>530;t1=v430vt1",
   "kw430*,5130<,5130vFqx530~,5130vFtx530vFvx530fs1;x430vPxn530r5m@140+G~5;Q30ld2^;340lDg1cC30r5*>53",
   "0,t1jw440md21~;340j.51140m.51140q.51130wt1,w4306n.530r5n@140+G~5,Q30pd2k,340jMrr5130r5l^530.t1@w",
   "430xt1hx430kSwl530r5p@130qd2r,340vKf3130r5r^530cv1>w440rd21s,340~.51140,.51140dc61130yt1yx430r5q",
   "@130r5>^530dv1jx430r5r@130r5~^530fv1kx430nc6130kG.T20qc630td2,,330rf1;840wKg3130yV=J30Bgc630;p1.",
   "P40qFR130tc6130td2f.330xc6120zc620rC20+c620;=120h330@c6120=V30vd2m.320<c620>c620^c620~c620,=120.",
   "=120qK20zP20:c630;c6130=c2120Z20.c630cd6130fd6120hd620jd620kd620tc220ld620md620b20nd620pd620;c22",
   "0@p130~t1wy420rd620z930+G*X30wN;r520td620vd620wd630xd6120~c220zd620*p120+d620@d620*d630=d6120>d6",
   "20.c220^d620~d620:d620;d620zV20fK30,d6130cf6130ff6120lT20hf620jf620kf620=p130lf6120nf620pf620~P3",
   "0qf6120sf620tf620vf620wf620xf620yf620zf620+f620x130dd2130@f6130=f6130>f6120~f620:f620;f620,f620.",
   "f620cg620dg620fg620gg620hg630..1130jg6120lg620mg620ng620pg620qg620rg620sg620tg620vg620wg620xg620",
   "yg620zg620+g620@g620nF20nc120*g630=g6130gd2120630>g6120@G20rf130+G=X30wNqv530:g6120,g630.g6130dh",
   "6130gh6130jh6130lh6130nh6130qh6130sh6130+G<X30wN.v530wh6130yh6130+h6130*h6130md2130<h6130^h6130:",
   "h6130+G>X30wNtw530.h6130dj6130gj6130jj6130lj6130nj6130qj6130sj6130vj6130xj6130zj6130@j6130rd2130",
   "=j6130>j6130~j6130;j6130.j6120dk630fk6130hk6120kk620;.120lk620mk620nk620pk620qk620rk620sk620tk62",
   "0vk620wk620xk620vd220yk620zk620k=120+k620*c220^n120vc220@k620*k620=k620<k620>k620zM20.p120^k620~",
   "k620:k620;k620>c220,k620.k620cl620dl620^c220fl620gl620hl620jl620kl620ll620<<120ml620nl620pl620ql",
   "620rl620sl620tl620vl620wl620~<120=.120xl620yl620;<120,<120pq120zl620+l620@l620*l620=l620<l620>l6",
   "20^l620~l620:l620c>120;l620,l620.l620cd220cm620dm620fm620gm620hm620d>120n;120jm620f>120g>120h>12",
   "0j>120k>120km620lm620mm620nm620pm620p>120q>120r>120qm620rm620sm620tm620vm620wm620xm620ym620zm620",
   "+m620@m620*m620=m620<m620>m620^m620+>120@>120~m620:m620;m620,m620.m620cn620dn620fn620gn620hn620j",
   "n620kn620;p120ln620==120mn620nn620pn620qn620rn620sn620tn620vn620wn620xn620yn620zn620+n620:.120@n",
   "620t^120y^120qq120kd220*n620=n620<n620>n620z^120+,120^n620~n620:n620;n620,n620.n620cp620dp620fp6",
   "20gp620hp620jp620kp620lp620mp620np620pp620qp620rp620sp620tp620vp620wp620<=120xp620yp620zp620+p62",
   "0@p620*p620=p620<p620rq120ld220>p620^p620~p620:p620w=120;p620,p620.p620cq620dq620fq620gq620hq620",
   "jq620kq620lq620mq620nq620pq620qq620rq620sq620tq620vq620wq620xq620yq620zq620>=120+q620@q620*q620=",
   "q620<q620>q620^q620~q620sq120pd220:q620;q620,q620.q620.;120cr620dr620fr620gr620hr620jr620kr620lr",
   "620mr620nr620pr620qr620rr620sr620tr620vr620wr620xr620yr620zr620+r620@r620*r620=r620<r620>r620^r6",
   "20~r620:r620;r620qd220,r620.r620cs620ds620:x120fs620gs620hs620js620ks620ls620ms620ns620ps620qs62",
   "0rs620ss620ts620vs620ws620xs620ys620zs620+s620@s620*s620=s620<s620>s620^s620~s620:s620;s620,s620",
   ".s620ct620dt620ft620gt620ht620jt620kt620lt620mt620nt620x.120>^120pt620qt620^^120~^120rt620:^120s",
   "t620tt620cq120vt620wt620xt620yt620zt620+t620@t620*t620=t620<t620>t620^t620~t620:t620;t620,t620.t",
   "620cv620dv620fv620gv620hv620jv620kv620lv620mv620nv620pv620qv620rv620sv620tv620vv620wv620xv620yv6",
   "20zv620+v620jm120@v620*v620=v620<v620>v620^v620c~120~v620:v620;v620:,120d~120,v620.v620cw620dw62",
   "0fw620gw620hw620jw620kw620lw620f~120g~120h~120j~120mw620nw620pw620qw620rw620sw620tw620vw620ww620",
   "k~120l~120xw620yw620zw620+w620@w620mq120*w620m~120=w620<w620>w620^w620n~120~w6x41t81cC1p8G>676J3",
   "24111X1181f71@71<61sCC^64C3224J1211y51:94jB4b31g71q91=BJmB2171122111291211kB1x74*6d11d11^73~64Z1",
   "h81~9F:51s132s19113223F>676J324111X11Nr552842111211111111111=61g81f91h91x81m91zC1*63=71d1B^64C32",
   "24K212d761h71z71n81yC1:B1w81y91z91*93h8K13y7f211wB1xB1tB1vB3;6+131:61.91@CHmB217112211391211.51y",
   "83=84p21^81>C4c715w43,7N11,51n91:72@811^51,75cB11111+C1s51t51x51~B2;9H6r5t3h21511j81fC1gC1rB1^91",
   "dC2lB;12k8*32^5y53jBg131nB1@B1.C2*511<82w5+21fD1q53:51L2,751v61g91+61@61c61;92v8t31w91+51d92h8=2",
   "1<51j71v51q71s83^94H4c71524=91111s91;B3y61,41dD1jD1q82r8K1gD1^C1~C1@51>51wC1cD1qB1=C1<C1j61p91,C",
   "1kD1r81tC1vC1lD1x61v91^6,z2.z30@.41^l12gy13rh34jt15*s16tr47fy18py39zr39..18w*16,d34+>15;<2Bn>2C=",
   "p5Dl<2Fq>2Gk>2Hp>2J>m47pn5Kfs5Kdc23.m1Lh>2Mx~2Mqn5Nl>2P*~2Mkl1Lgz5N:<2QtSRjj30~k51fz5Kdc2S>t49<p",
   "50>c51sSTz>1V+.4Wgs5N+w2V>s4X*n5Ytj1Lqz5K=p1L:+5N~~2Mg+5K>r3Zzz5Kzp1Lh+5Nk:2Mc:2M~+5Khr1Lw@5Nl@5",
   "K~z5K*n2bsp1Lj@5Nl:2Mh7bwn1Lm@5Nm:2Mjr1Ly@5Nj:2Mjm30>h51zj3Qmt4c1c+37nz5Dp,2Fvf3Gtj1d1j.49w+50,m",
   "51qf3Psf3Ctf3J@z3Nll1f1pf3H@;49,t50sm51n;2Qkd3Bfy1g1+>30cd51w>3h1w+3j1+y5Dg~1P,=1Fm~1Gxz5D;t1P.s",
   "1Ffv1Gc+5Dxm3P~g3F@m3Gf^3K>n47*:4k1,:49ys50.=1Qj~1Bk~1Cl~1Jjm51f,49jw50ct1Q.t1Bcv1Cdv1Jwm51f~1H:",
   "t1Hqy1l1kl1d1=<37q,49px50zm3C+m3Jzm51l.49@y50fq3Q<m51l<37lt4m1=:4m1xd3Qmj3Bwm3Hkt1n1<r3N;k1f1;<3",
   "p1,8q1z9r1^r3s1r87ls16+;2t1=z2q1v+2r1zs4v1p<2w1r>2x1tp5Nfj2P.*2y1c=2z1p+3t1ts4+1xs4c1+s4@1:m4p1.",
   "+3*1=s4=1t^30lf51th34.h5k1yz2q1l+2r1wm1Lyv2Vcy16xx25~+22wy39y=3*1fg4RwSb~<37k>2<1=r3Ndk5Kvk5K:y3",
   "9..1g1vy1>1.y1>1zz1>1;z1>1c+1>1f+1>1:d5ZhSPp:2t1>w2^1=t4~1sn4:1ny2q1p+2r1pn27:;2t1hg4bqm47<;2t1<",
   "z2q1w+2r1;s4k1tx3;1wj5Kwk5Kck5K+k5K>h3,1jc5k1cj5n1vs4.1ws4m1s:4.1t:4m1<j2Pxv4*1c=3*1.y39w,1Ppt2V",
   "n+2r1~m4c2lRD*Sd2vc5+1wc5.1mc2l1dw4f2vw4f2ww4f2dx4f2n>3p1yn5Nfc2P@r3g2^Sh2;Sh2dTh2fTh2^Th2zz39@s",
   "4j2rm40s^3Zwv4k2.m51*s4l2xVh2lWh2@Wh2*Wh2=Wh2,Wh2.Wh2cXh2dXh2pk2Vy:4j2z:4l2~n4*1z<1V*t5Wqn2Vyd5@",
   "1nv4p1n,2Qkf3Bfj3*1~>1Vhy1V@n1Ltt4N;y39sc2>1hd2>1sd2>1ff2>1hf2>1jf2>1=.4m2@m4n2vSp2>n5K@Sp2s:2q2",
   ":>2r2k^2r2pf3<1qd3q2wm3<1gj3q2t>2*1y>2Jz>2J;>2*1h^2*1m^2*1n^2*1p^2*1,+3s2>6D^6Pj7d2gm5m2,p4n2gg4",
   "p2@r3t1sy1t2pc2t2*+2r1t:2t1d=3t1vp5t1y;4m1,c5v2wn4w2@>2x2:^3y2,s30dg51v~3y2hx4f2ty4f2w~3y2l:3y2r",
   "y4f2h@4f2^s4z2g^3+2;*3@2kc5n1<d3n1sg5f2*;2*1K*2M*2R*2hc2V>;4k2z*1V+n5Wzq4*1fd2V^p5Wn>2=2f~3Jjp4<",
   "2qs39:*1Vg^1P<z3Nd~3*1h>3Nfn1f1dz1Vrz1Pwk2Vwt2V~<1V,l2Vkq2Vl.1Vgr2V<Sp2gn2Vf>37jVp2wn2V*l47kp2bl",
   "m47hr1d1s.4Ntp1f1rq5>2=c2V=c5@1yt4j2zt4p1ds2Vjv2Vx*1Vsl2Vv>1Vym2V^q2V=r2V~.1V@s39@y39><2y1^<2z1r",
   ",2w1yf3x1^c2Vdc3Q^h3Bgk3*1f~1<1h<1q2:t1<1gt1q2qz3q2wr3q2l;4*1^;4*1l,4*1v,4*1k.4*1p.4*1z=3s2r@3s2",
   "+=3s2+r4Dx>2n1^q3Dly3Plg5y2r+2r1sk3t1>>1n1+k3t1+:2t1>;2t1.;2t1f,2t1+t4l2*v4l2ts3t1::4l2p;4l2~;4l",
   "2m,4l2w,4l2>,4l2;,4l2kz27>k3t1@+3t1,j3^2lp3^2xn5~2>.4:2l@3Ky@3Kyw4K:@3Km:3y2f*3K<;3y2@k5K+p3^2c~",
   "3y2:~3K,~3y2*x3Kr;3Kt;3y2>x3Kz.3K@.3y2~x3K@d4K=d4y2;x3K:p3^2qp5;2qc5:2gw4f2;^3y2x@3Kd:3y2~@3Kjx4",
   "Kp;3Kv;3y2<x3Kd*3K=;3y2x.3K+.3y2^x3Kj*3K~.3y2zd4K*d4y2:x3K*k5K*f4K>f4y2,x3Kdt4;2m>3y2wh34k@4f2h+",
   "3@2tl4+2^m4c2k:4n1pq3n1y<4f2fXd2l:4n1sp4,2>z5Dnn5.2H*29*2C*2F*2J*2P*2T*2Z*2W*2@n5h2yRh2h.4h2r.4h",
   "2;>3p1,>3p1=^3p1<^3p1^^3p1q~3p1pq4*1~q4*1gr4*1~k40nm51tm40dn51jz39:,1P@k40km51;q1f1lt2Pdz39*p2Pg",
   "z39ky1V@*1Vx>1Vvl2V;.1V+m2V>r2V:q2Vlv2Vlh4p2:p2Vmg4p2~p2V^z3*1>f3*1=d5v1w:4v1x;4v1k7>1vc2Vx:4@1f",
   "q4p1+:4=1+9c3+c2Vwp5W>9c3dn2V=@5W~9c3fn2V:@5Wp>3p1d9q1*9r1,k17jd2V:t4j2;t4l2xk2Vd;4j2f;4l2ml2V*;",
   "4j2=;4l2nl2Vg,4j2h,4l2pl2Vr,4j2s,4l2ql2V=,4j2<,4l2rl2V~,4j2:,4l2@9r1pd2V.p5d3.>3p1<9r1,k2V*s5d3h",
   "z39cz39fz39*>1V,.4W,9f3@d2Vqq5Wc^3p1cBf3~f2V:q5W>^3p1fBf3*m2Vx+5WhBf3=m2V*+5WkBf3.m2Vt@5WmBf3cn2",
   "Vv@5W,q1Ln.4N^f2V~q5Wzg2Vgr5W+g2Vhr5Wgh2V*r5Wyl2V^y5W+l2V;y5W@l2V,y5W=l2Vcz5W^m2Vd@5W~m2Vf@5W:m2",
   "Vg@5W;m2Vh@5W=>1V..4W=*1Vx<1Vjs5Wtn4g3~*1Vmd2V,p5Wn=1Vr=1Vs=1Vt=1Vsf2V@q5W=f2V<q5W<f2V>q5W>f2V^q",
   "5W;q5>2jw4g3yg2Vfr5Wch2Vzr5Wdh2V+r5Wfh2V@r5Wwy1Vcz1V+z1V,z1Vd+1Vg+1Vqk2V@<1V;v5Wvk2Vzk2V@s5W.k2V",
   "dl2Vfl2Vgl2Vkl2V;s5Wqt2Vvt2V:t2V,t2V.t2Vcv2V*<1V^<1Vl>1Vn>1Vp>1Vq>1V>l2V;l2Vpm2Vrm2Vsm2Vtm2Vdq2V",
   "jq2Vyq2V+q2V@q2V*q2V,q2Vfr2Vvr2Vxr2Vyr2Vzr2Vf.1Vk.1Vz.1V@.1V*.1V=.1V+*1Vkr1L~n5N**1Vrc2V<*1Vml1f",
   "1>*1V^*1Vcs2V,*1Vld2V.*1Vc=1Vd=1"]

private def tsxPart10 : List String :=
  ["Vf=1Vg=1Vh=1Vj=1Vk=1Vl=1Vm=1Vp=1Vl^1Vm^1Vn^1Vp^1V+d2V~d2Vv=1Vw=1Vyn2Vzn2V==1V@n2V,^1Vny1Vxy1V+y1",
   "V,y1Vgz1V,@1Vhz1Vjz1Vkz1Vlz1Vmz1Vnz1Vpz1Vqz1Vtz1Vvz1V@z1Vwh2Vk+1Vl+1V~+1Vjy1Vn,1V:s2Vlr1Lps5Ny>1",
   "Vrk2Vsk2Vtk2Vnt2Vyk2V+k2V@k2V*k2V=k2V<k2V>k2V^k2V~k2V:k2V;k2Vcl2Vhl2Vjl2Vhv2Vll2Vmv2Vrt2Vst2Vtt2",
   "Vxt2Vyt2Vzt2V+t2V@t2V*t2V=t2V<t2V>t2V^t2V~t2V;t2Vdv2Vfv2Vgv2Vkv2Vmr1Llz5N=<1V<<1V><1Vnv2V:<1V;<1",
   "V,<1V.<1Vc>1Vd>1Vf>1Vg>1Vh>1Vj>1Vk>1Vm>1Vr>1Vs>1Vt>1V^r2V^l2V~l2V:l2V.l2Vcm2Vdm2Vfm2Vgm2Vhm2Vjm2",
   "Vkm2Vlm2Vmm2Vnm2Vqm2Vvm2Vwm2Vxm2Vzm2Vnr1Lvz5Npv2Vfq2Vgq2Vhq2Vlq2Vmq2Vnq2Vpq2Vqq2Vrq2Vsq2Vtq2Vvq2",
   "Vwq2Vxq2Vzq2V=q2V<q2V>q2V~q2Vpr1L=z5Nqv2V.q2Vcr2Vdr2Vhr2Vjr2Vkr2Vlr2Vmr2Vnr2Vpr2Vqr2Vrr2Vsr2Vtr2",
   "Vwr2V+r2V@r2V*r2V<r2Vqr1L.z5Nrv2Vtl2Vwl2V,.1Vg.1Vh.1Vj.1Vm.1Vn.1Vp.1Vq.1Vr.1Vs.1Vt.1Vv.1Vw.1Vx.1",
   "Vy.1V+.1V<.1V>.1V^.1V:.1Vsr1Lc@5Nvv2Vw>1V@m2V;q2Vrr1Ln+5Ntv2Vtr1Lr@5Nwv2Vjg4p2ms5Kkz5Kq@5K*z5K.+",
   "5KjRh3gTj3m+5Ktz5K,z5K:Tj3gX>1<Tk3k;4k2k,4k2t,4k2fh5k2hd5l3jd5x2^;2*1d,2*1q:1r2r:1*1m;1r2n;1*1jg",
   "3r2kg3*1vg3r2wg3*1fw1r2gw1*1,w1r2.w1*1nn3r2pn3*1+n3r2@n3*1wf3Qrm3Byg4l3<q3*1zg4x2k=3*1s=3*1y*3l3",
   "z*3x2rz3*1xz3*1d@3*1mp4*1t@3*1rq4*1+q4*1:q4*1hr4*1t+3*1z+3*1f^1*1k^1*1>>3*1@;2*1l^3*1z^3*1~;2*1k",
   "p4*1;;2*1,;2*1tp4*1r~3*1vp4*1c,2*1g:3*1tq3*1vq3*1wq3*1+p4*1@p4*1*p4*1>p4*1^p4*1~p4*1l,2*1w~1*1x~",
   "1*1@~1*1*~1J<~1Jx:1*1y:1*1nm3*1pm3*1j;1*1k;1*1=;1*1<;1*1h,1*1j,1*1+f3*1@f3*1^f3J:f3Jlg3*1mg3*1s,",
   "1*1t,1*1rg3*1sg3*1zg3*1+g3*1*g3*1=g3*1mv1*1nv1*1sv1*1tv1Jwv1Jmw1*1nw1*1~w1*1:w1*1rx1*1sx1*1>x1*1",
   "^x1*1>m3*1^m3*1;m3*1,m3Jcn3Jqn3*1rn3*1xn3*1yn3*1>n3*1^n3*1:n3*1;n3*1nt1*1pt1*1r<3*1s<3*1l=3*1m=3",
   "*1n=3*1r=3*1x=3*1>g3*1^g3*1:x1*1;x1*1=k4*1.k4*1sz3*1tz3*1vz3*1wz3*1jl4*1sq4*1yz3*1@q4*1==3*1;q4*",
   "1:=3*1jr4*1d<3*1k<3*1>z3*1yr4*1;r4*1,r4*1.r4*1cs4*1ds4*1hs4*1js4*1<t1D>t1Pm@1d2yt1Dzt1Pk*1d2pk3N",
   "q<2l1*>2n1s,2l1.f3n1dq4c2kg4d2.k1l1.c5n1<f3n1.j17,v4Nf=3s2<=3s2;=3s2f<3s2.~3s2h=3s2>=3s2,=3s2g<3",
   "s2=r1m3<r1m3;r1m3cs1m3gs1m3js1m3^y1l1lt1n1@v1l1*v1n1=v1l1<v1n1>v1l1^v1n1rv1n1yv1n1zv1l1fz1l1j+1l",
   "1l*1>1n@1>1,c2l1c^1n1;x2>1*y2q1l@2r1@k3t1^y2q1+@2r1,~1l1.~1n1c:1l1d:1n1f:1l1g:1n1+~1n1xp5y2t@2r1",
   "fl3t1j*2r1^~1n1~~1l1ts5y2^t5y2dw5y2.m4;1r:4+1v:4c1kd2l1lf2l1x+2r1*:2t1z+2r1=:2t1@+2r1;:2t1=+2r1,",
   ":2t1<+2r1>+2r1:+3t1ks2n1v;4.1w;4m1m@3t1m<3t1q@3t1z@3t1^:2t1~:2t1c;2t1*@3t1;@3t1d;2t1f;2t1g;2t1j;",
   "2t1.@3t1g,2t1h,2t1g*3t1k;2t1h*3t1j,2t1k,2t1m*3t1p<3t1v<3t1w<3t1x<3t1g=3t1p=3t1t=3t1v=3t1w:2t1~w2",
   "^1ty2q1t+2r1n@3t1+@3t1^@2r1~k3t1;@2r1:k3t1pl3t1n*2r1ql3t1xl3t1q*2r1yl3t1jy2n1dl3t1jl3t1kl3t1nl3t",
   "1vl3t1*l3t1=l3t1<l3t1>l3t1:l3t1;l3t1,l3t1dm3t1fm3t1gm3t1hm3t1;+2l1mj5n1q+2r1j@3t1<:2t1++2r1w@3t1",
   "^@3t1.k3t1d*2r1,@3t1c*3t1l*3t1q*3t1w=3t1y<3t1qTp2v:2t1s+2r1r^3t1@v4n3@:2t1y+2r1zp4t1gh5n3^k4t1n;",
   "4n3@g4p2>:2t1::2t1.:2t1h;2t1*k3t1=k3t1^k3t1;k3t1,k3t1cl3t1gl3t1hl3t1ll3t1ml3t1rl3t1sl3t1tl3t1wl3",
   "t1zl3t1+l3t1@l3t1^l3t1~l3t1.l3t1cm3t1lr5>2r<2l1=>2n1s<2l1<>2n1.j3n1mp3n1<.4p3*m4P=m4q3+>2n1t,2l1",
   "cg3n1v,2l1dg3n1c>2l1=r5r3>r5P^r5q2:r5P;r5q2.r5Pcs5q2ch3l1gn3n1dh3l1hn3n1fh3l1jn3n1rt5r3tt5Pvt5q2",
   "xt5Pyt5q2+t5P@t5q2zv5r3@v5P*v5q2<v5P>v5q2~v5P:v5q2^w5r3:w5P;w5q2.w5Pcx5q2fx5Pgx5q2,x5r3cy5Pdy5q2",
   "gy5Phy5q2ky5Ply5q2pc5p3dn4Pfn4q3;+3Kvv4f2d^3y2*q5q2fw4Kfj5K,^3y2@w4f2y~3y2*w4f2z~3y2^w4f2>~3y2~w",
   "4f2^~3y2lx4f2q:3y2qx4f2t:3y2,x4f2.:3y2.x4f2c;3y2ky4f2k;3y2ly4f2l;3y2*y4f2:;3y2c+4f2>,3y2h+4f2:,3",
   "y2^+4f2r.3y2h=4f2~c4y2nd3l1mm3x2,s5q2r,1x2jv5q2<g3x2rw5q2~x1x2wx5q2>y5q2@+5q2@p3n1.^3K@x3K,n3n1;",
   "f3n1;p3n1jt4s3ck3n1dk3^2p@3Kzw4Kxj5K<~3y2c:3K=x3Knx4f2s:3y2tx4f2x:3y2hy4f2j;3y2ny4f2n;3y2yy4f2~;",
   "3y2<y4f2,;3y2f+4f2~,3y2l+4f2.,3y2:+4f2t.3y2.+4f2w.3y2q@4f2,.3y2c=4f2^c4y2k=4f2;c4y2q<4f2yd4y2;>4",
   "f2pf4y2qj3l1np3n1pp3^2*p3n1=p3^2,p3n1.p3^2cf3,1qc2t3ct4v3rd2t3kq5;2td5:2zf5s3.n3n1sh3,1ty1t3yz1t",
   "3vh3,1wj4t3+j4t3xh3,1,j4t3fk4t3cc5w3jc2x3~r31ld5w3td2x3rs31^d5w3gs2x3xs31qf5v3*^3f2st4f2x*3y3+*3",
   "y3^h5w3ly1x3qy31rj5w3*z1x3xy31<c5w3l7x3ms31qd5w3+Rx3ss31@d5w3zd2x3vs31wk3^2xk3^2yk3^2kf5w3dVx3zs",
   "31nf5w3t7x3*s31vf5w3^Rx3=s31:f5w3*f2x3^s31.f5w3ns2x3~s31h~3z3j~3z3vg5w3gWx3.s31+~3y2=w4f2@~3y2<w",
   "4f2*~3y2rx4f2v:3y2wx4f2y:3y2xx4f2z:3y2yx4f2+:3y2zx4f2@:3y2<:3y2@x4f2>:3y2*x4f2^:3y2cy4f2d;3y2dy4",
   "f2f;3y2fy4f2g;3y2.y4f2d,3y2gz4f2h,3y2hz4f2j,3y2mz4f2m,3y2s,3y2wz4f2t,3y2xz4f2v,3y2yz4f2w,3y2+z4f",
   "2z,3y2@z4f2+,3y2j+4f2;,3y2n+4f2c.3y2p+4f2d.3y2q+4f2f.3y2r+4f2g.3y2w+4f2k.3y2x+4f2l.3y2:.3y2*@4f2",
   "dc4y2k*4f2mc4y2qc4y2m*4f2rc4y2r*4f2vc4y2+*4f2+c4y2s=4f2cd4y2x=4f2gd4y2y=4f2hd4y2*=4f2ld4y2.=4f2r",
   "d4y2j>4f2cf4y2m^4f2sf4y2lg4y3+g4y3hj5w3th2x3vy31vj5w3^g4x3yy31yj5w3>z1x3zy31vp3^2wp3^2^j5w3fh4x3",
   "+y31:j5w3+h2x3=y31.j5w3sh4x3<y31jk5w3=+1x3>y31sk5w3~h4x3^y31:k5w3dj2x3~y31>p3^2^p3^2jl5w3pj2x3,y",
   "31cq3^2dq3^2cc3D<j3j1^n49s~3+3n:3+3z;3+3+;3+3@;3+3>.3+3^.3+3<d4+3>d4+3rk4>1=d3Dhp3j1nq49f*1y1g*1",
   "z1q~1w1r~1x1yq49^q49ys1y1zs1z1jv1w1kv1x1fr49v~2y1w~2z1,g3w1=m3x1wr49:d3y1;d3z1dc5Kxc5K+c5f2nn4y2",
   "^c5w3:c2x3~c5K~t4@3nT*3z>31nd2l1dd5n1rv4c2nk3N~d5w3q7x3gf5v2;n4w2@^1l1pf5w3yf2x3sf5w3<Rx3>f5w3+f",
   "2x3cg5w3qs2x3rg5w3:Vx3rp4,2;^1l1tg5w3z7x3yg5w3.Rx3~g5w3xg2x3;g5w3xs2x3>w4f2=~3y2;~3y2hh5w3+Wx3mx",
   "4f2r:3y2sx4f2w:3y2+x4f2*:3y2=:3y2=x4f2~:3y2<x4f2::3y2^x4f2;:3y2~x4f2,:3y2gy4f2h;3y2my4f2m;3y2s;3",
   "y2w;3y2xy4f2^;3y2=y4f2;;3y2^y4f2.;3y2~y4f2c,3y2cz4f2f,3y2dz4f2g,3y2jz4f2k,3y2kz4f2l,3y2nz4f2n,3y",
   "2pz4f2p,3y2rz4f2q,3y2sz4f2r,3y2zz4f2x,3y2y,3y2*z4f2@,3y2=z4f2*,3y2>z4f2=,3y2^z4f2<,3y2d+4f2^,3y2",
   "k+4f2,,3y2s+4f2h.3y2t+4f2j.3y2y+4f2m.3y2z+4f2n.3y2@+4f2p.3y2*+4f2q.3y2~+4f2s.3y2,+4f2v.3y2*.3y2p",
   "@4f2;.3y2x@4f2..3y2y@4f2cc4y2=@4f2fc4y2<@4f2gc4y2^@4f2hc4y2~@4f2jc4y2.@4f2kc4y2c*4f2lc4y2l*4f2nc",
   "4y2pc4y2n*4f2sc4y2p*4f2tc4y2s*4f2wc4y2t*4f2xc4y2w*4f2yc4y2x*4f2zc4y2@*4f2@c4y2**4f2*c4y2<*4f2=c4",
   "y2>*4f2<c4y2.*4f2>c4y2j=4f2:c4y2m=4f2,c4y2n=4f2.c4y2t=4f2dd4y2v=4f2fd4y2z=4f2jd4y2+=4f2kd4y2==4f",
   "2md4y2<=4f2nd4y2^=4f2pd4y2~=4f2qd4y2c<4f2sd4y2d<4f2td4y2g<4f2vd4y2h<4f2wd4y2p<4f2xd4y2^d4y2<<4f2",
   ":d4y2><4f2;d4y2d>4f2,d4y2f>4f2.d4y2k>4f2df4y2ff4y2l>4f2gf4y2m>4f2hf4y2r>4f2jf4y2s>4f2kf4y2z>4f2l",
   "f4y2+>4f2mf4y2:>4f2nf4y2g^4f2qf4y2h^4f2rf4y2n^4f2tf4y2p^4f2vf4y2r^4f2wf4y2s^4f2xf4y2x^4f2yf4y2y^",
   "4f2zf4y2<^4f2+f4y2>^4f2@f4y2k~4f2^f4y2l~4f2~f4y2+~4f2:f4y2@~4f2;f4y2xx3;1+d5>1*f5>1<f5>1*g5>1<g5",
   ">1jh5>1lh5>1ph5>1rh5>1th5>1wh5>1yh5>1+h5>1@h5>1jj5w3<y1x3c;4@3vg4*3+k41wz1l1nj5n1+j5w3yh2x3vt1l1",
   ";j5w3z+1x3,j5w3rh4x3fk5w3@+1x3qk5w3@h4x3wt1l1rk5w3~h2x3tk5w3,h4x3yk5w3d@1x3zk5w3mj4x3.k5w3hj2x3k",
   "<1l1m<1l1ql5w3vj2x3rp2l1qp2l1jt2l1gt2l1<,1l1mf3n1=,1l1cq4c2~h5Kkj5Klc5y3:c5Kx+3@2>d3Dzp3j1kd5y3f",
   "q5;2cv4;2xd5K<+3=3<d5f2=n4y2yv4<3df5K=v4<3rf5;2=f5Kk@3=3fp4Ncw4N;w2>1s@3>3wg5;2>g5K,w2>1.w2>1@@3",
   ">3=@3>3mh5Kcx2>1dx2>1kx4Ksh5Kfx2>1gx2>1wy4Kxh5Khx2>1jx2>1k*3Kkx2>1lx2>1p*3K<f4Kmx2>1nx2>1cg4Kpx2",
   ">1qk4d2^d3D~p3j1q;4<3j=3>3q=3>3.x3Kdy3K:;4<3@=3>3*=3>3n,4<3^=3>3~=3>3x,4<3.=3>3c<3>3^,4<3h<3>3j<",
   "3>3,,4<3lj5K<j5K=k5K>k5Kvj1^3;l1~3t>3Kgd5Dcq5j1<>3Kzd5K*d5K<:4c1qv4f2j^3Kff5Kr7>1+v4@3gV*3y^3Ktf",
   "5K>R>1@f5K^f5K~f5Khw4f2g~3+2pg5Kw7>1rw4:3xg5K:R>1=g5K^g5Kxw4f2+w4f2kh5Kfx4f2gx4f2px4f2vx4f2>x4f2",
   ":x4f2;x4f2jy4f2py4f2qh5Kqy4f2sy4f2vy4Kzy4f2+y4f2@y4f2>y4f2:y4f2;y4f2,y4f2fz4f2lz4f2qz4f2tz4f2vz4",
   "f2<z4f2~z4f2:z4f2;z4f2,z4f2.z4f2g+4f2m+4f2v+4f2++4f2=+4f2<+4f2>+4f2;+4f2c@4f2d@4f2f@4f2vh5Kg@4f2",
   "j@4f2l@4Km@4f2n@4f2r@4f2s@4f2t@4f2v@4f2w@4f2z@4f2+@4f2@@4f2>@4f2:@4f2;@4f2,@4f2d*4f2f*4f2g*4f2h*",
   "4f2j*4f2q*4f2v*4f2y*4f2z*4f2=*4f2^*4f2~*4f2:*4f2;*4f2,*4f2d=4f2f=4f2g=4f2l=4f2p=4f2q=4f2r=4f2w=4",
   "f2@=4f2>=4f2:=4f2;=4f2,=4f2f<4f2j<4f2k<4f2l<4f2m<4f2n<4f2r<4f2s<4f2t<4f2v<4f2w<4f2zh5Kn*3Kx<4f2z",
   "<4f2+<4f2@<4f2*<4f2=<4f2^<4f2~<4f2:<4f2;<4f2,<4f2.<4f2c>4f2g>4f2h>4f2n>4f2p>4f2q>4f2t>4f2v>4f2w>",
   "4f2x>4f2y>4f2@>4f2*>4f2=>4f2<>4f2>>4f2^>4f2~>4f2,>4f2.>4f2c^4f2d^4f2f^4f2j^4f2k^4f2l^4f2q^4f2t^4",
   "f2v^4f2w^4f2z^4f2+^4f2@^4f2*^4f2=^4f2^^4f2~^4f2:^4f2;^4f2,^4f2.^4f2c~4f2d~4f2r*3Kf~4f2g~4f2h~4f2",
   "j~4f2m~4f2n~4f2p~4f2q~4f2r~4f2s~4f2t~4f2v~4f2w~4f2x~4f2y~4f2z~4f2*~4f2=~4f2<~4f2>~4f2^~4f2~~4f2:",
   "~4f2;~4f2,~4f2,f4K.~4f2c:4f2d:4f2f:4f2dg4K:w2^3:+2~3qj5D=s5j1<k4+2zh2>1m;4@3hh4*3,k4>1<h2>1s;4:3",
   "fl4>1cy3Kfy3K,k5D.t5j1kj2>1rj2>1sl5Dkw5j1yl4+2+l4+2zk4K*k4Kzj5K>k4K>j5K;k4Kgk5Khk5Kpk5Kxk5K<k5K^",
   "k5Ksl4Kvl4Kgl5Kpl5Kpm5Krm5K;m4;3,m4,3mc5.3sc5c4tc5c4ln4d4mn4d4@t4=1qn4;3rn4,3zn4;1md5.3rd5c4sd5c",
   "4vd5c4nq5~2*n4d4>d5f2pn4l2<n4f4wq50;d51hf5v2jf5z2f@3Fcp4g4wf5c4,f5f2gp4f4.q50ng51qg5v2:g5f2rt30c",
   "h51lp4<3wp4h4xp4j4h:3F,w4g4yp4,2=p4h4<p4j4gq4;3hq4,3dj5.3kq4d4lq4d4;:4=1sj5.3wq4;3xq4,3<q4;3>q4,",
   "3cr4;3dr4,3mr4;3nr4,3rr4;3sr4,3>s50mm51ct50qm51dv50tm51lv50vm51mw50xm51tw50ym51rx50+m51yx50@m51=",
   "y50>m51:y50^m51y+50cn51<+50fn51g1k4cn4n2>Sl4lp51nt4c1pt4m1qt4m1rt4c1wt4m4*t4=1>p5Y^t4n4y+3^3~p5p",
   "4.t4Pfv4q4kv4r4mv4Dtv4m4*R>1.<2l1zv4n4fV*3>v4q4xf5:2yf5:2:v4r4pw4s4;V*3sw4:3zg5:2+g5:2dr5Pjr5y2:",
   "w4s4.w4:3ng4l4>:4c1^:4m1~:4m4.:4n4>~1l1gh4*3r;4s4*h4*3t;4:3z;4m1+;4m4md3l1d,4s4xv1l1p,4s4pj3l1*,",
   "4s4z1k4jq4n2@:4z2.*3^3zs5p4s+51p2k4d1d1f1d1^.4d1h1d1nQ>1k+30gn4.3cTt4j1k4~c2x3;c2>1mT>1pTv4+n4.3",
   "wd5w4pv4y2=Tv4@Rd1~T>1p7x3zq50df2x3gf2>1kf2>1fl1l1v^30tf2l1xf2x3=Rx3zf2x3@f2>1ps2x3v7x3,q50lg2>1",
   "x7>1~Vx3n~30y7x3rg2x3~Rx3;R>1,Rx3sg2x3tg2>1vg2>1wg2x3ws2x3ys2x3qt30dh5y2yr50+7>1rWx3@7x3zWx3cS>1",
   "dSx3,g2>1.g2x3=s2x3fS>1pv30;Wx3gS>1km30=y1x3>y1>1tg4>1wg4v4,g4v4xh2x3:z1x3.z1>1h+1>1.+2l1v+1l1y+",
   "1x3qh4x3++1x3*+1>1*h2x3<+1>1>h2>1+h4x3^h2x3:+1x3:h4x3;h4x3;+1x3,+1>1.+1>1c@1x3;h2>1fj4x3,h2x3lj4",
   "x3nj4x3f@1>1g@1x3tj4x3kj30gj2x3qj2x3sj2>1tj2x3wj2>1xj2x3x1d1y1d1+1d1@1k4:s50:k40j;4D.s50dl40gl4>",
   "1qt50kl4>1hv50kv50yv50qw50sw50>w50vx50xx50;x50<y50~y50.y50n2d1q2d1r2k4z+50vm40=+50xm40>+50*2d1>.",
   "10P01181111931264411VC,F1X2111118111111B3499Z71711h2Z@1k3X011821193184411VC;2191Jb1P11h3X0118211",
   "93184411VC;2191Jb1P11j3X011821193184411VC;2191Jd11M11k3N01181111931264411VCcGN01181111931264411V",
   "CdGN01181111931264411VCfGN01181111931264411VCgGN01181111931264411VCz8N01181111931264411VChGN0118",
   "1111931264411VC+8N01181111931264411VC@8N01181111931264411VCjGN01181111931264411VCkGN011811119312",
   "64411VClGN01181111931264411Qy2jDN01181111931264411VCw5N01181111931264411VCx5N01181111931264411VC",
   "nGN01181111931264411VCy5N01181111931264411VCz5N01181111931264411VC+5d1211111811111134+1Pj1L1G611",
   "1z2111111~2N01181111931264411VC:5N01181111931264411VC;5N01181111931264411VC,5N01181111931264411V",
   "C.5N01181111931264411VCc6N01181111931264411VCd6N01181111931264411VCf6N01181111931264411VCg6N0118",
   "1111931264411VCh6N01181111931264411Qy2s3N01181111931264411Qy2t3N01181111931264411Qm2xDN011811119",
   "31264411Qy2v3N01181111931264411Qy2w3N01181111931264411Qy2x3d1211111811111134+1Pj1L1G6111z22111C1",
   "1N01181111931264411Qy2>3N01181111931264411Qy2^3N01181111931264411Qy2~3N01181111931264411Qy2:3N01",
   "181111931264411Qy2;3N01181111931264411Qy2,3N01181111931264411Qy2.3N01181111931264411Qy2c4N011811",
   "11931264411Qy2d4d1211111811111134+1Pj1L1G6111z2212C11w2N01181111931264411Qm2=3N01181111931264411",
   "Qm2<3N01181111931264411Qm2>3N01181111931264411Qm2^3N01181111931264411Qm2~3N01181111931264411Qm2g",
   "4N01181111931264411Qm2h4N01181111931264411Qm2j4N01181111931264411Qm2k4N01181111931264411Qm2l4N01",
   "181111931264411Qm2m4N01181111931264411Qm2n4N01181111931264411Qm2p4N01181111931264411Qm2q4N011811",
   "11931264411Qm2yDK0111161C18Hg1j2j1111K0111161C18Hg1k2h1111L0111111111Q799Z71c5L0111111111Q799Z71",
   "cGL0111111111Q799Z71dGd1211119111111346Qs111g1L1111115Ts1s1w21L0111111111Q799Z71fGL0111111111Q79",
   "9Z71gGL0111111111Q799Z71hGL0111111111Q799Z71jGd1211119111111346Qs111g1L1111115Ts1s111d1211119111",
   "111346Qs111g1L1111115Ts1t11w2H011111211H7H13x3c1211119111111B3499Z71711=1111154Zx2H011111211Q781",
   "3x3H2111211H7H13x3L1c1211119111111B3499Z71711=1111154Z~Bc1211119111111B3499Z71711=1111154Zg5c121",
   "1119111111B3499Z71711=1111154Z:Bc1211119111111B3499Z71711=1111154Z;BH0111161C18Hs4111H21161C18Hl",
   "415111H2111211Q7813x3L1H0111161C9HM^3111H21161C9HM+315111H011111211QH137p3H2111211H7H13x3hD1H011",
   "1161C9H9h4111H21161C9H9,315111H2111211QH131w3L1H011111211QH131w3H2111211QH13Dj3L1H2111211H7H13x3",
   "kD1H011111211QH13Dj3H2111211QH137p3L1H2111211QH13Jd3L1H011111211QH13Jd3Y211111K4XW116136j1L1c411",
   "111n8111W2111118211144411g211>2s11.31111T2B1111111111121125h21g3j1g411V2111118111111B349l1H11n4j",
   "41>51V2111118111111346g211g1d1Pg3z211T211111811111134411g211>21<51T2B111111111139P311p11g3j1r4*5",
   "1T2111118111111B3484z111^2v11q4T2B111111111139b711X1g3j1g429T2111118111111FK111v111^2v11s4T21111",
   "18111111FR421j111^2w1t4+5T2111118111111FX611b11>21>56T2111118111111Fc1911S11^2v11w4H0111111111H4",
   "41zJH01181111812112<JH0118111183m1711rHH0118111183Z311~HH0111111111@1611yHH0111111111p1111gJH011",
   "1111111>1911sHH0111111111w1421~HH0111111111Q784pJFH11111194611^9L01181111P4J311C~911L01181111P4J",
   "311C;911L01181111P4J3117fB11L01181111P4J3117.914L01181111TJ311k4k61+51L01181111TJ311k4k61*51FH11",
   "11119y1711mHFz211511311111,GR011111121H4Xy2L1111115g61R011111121H4Xy2L1111115+31Q011111121Q799Z7",
   "1c211115Q011111121Q799Z71c21111dFQ011111121Q799Z71c21111fFQ011111121Q799Z71c21111gFQ0111111111H4",
   "Xy2L1N12+25~21kLQ0111111111H4Xy2L1N12+25^9H0111111111H441g8Q0111111111H4Xy2L1N12g311P0111111111v",
   "114+312,1<4111N0111111111Q799Z71pH11K0111111111H4n81j911N0111111111H4Xy2L1x7111N0111111111v114+3",
   "12*6116N0111111111Q799Z71z212H0111111111Q784dCK0111111111H4n81m911K0111111111H4n81q911M011111111",
   "1Q799Z71x92N011111121Q799Z71*H111K0111111111H441=K11J0111111111H441sC2H01181111812112=CK01111111",
   "11H441^K11K0111111111H441;K11K0111111111H441cL11K0111111111H441gL11K0111111111H441kL11K011111111",
   "1H441nL11H0118111183Z311>BH0118111183m1711rBH0111111111p1111dCH0111111111w1421<BH0111111111>1911",
   "rBH0111111111@1611+BM0111111111Q799Z71c5vCJ0111111111H441sL1M0111111111H4Xy2L1c411M0111111111Q79",
   "9Z71yJ1M0119111812112q4131l77M0111111111Q799Z71c61M011111111J441l4131=3<3J0111111111H441xL1M0111",
   "11111R784*3131^3r3M011111111J441g8>3111+6M011911183Z311r3131m7c7M011911183m1711,2131n75M01111111",
   "1q1111y3131^3w3M011111111x1421m3131q7,6M011111111^1911~2131^3y3M011111111*1611f3131s72J011811118",
   "12112^L1K0111111111H441<L11L0111111111Q799Z71,JK0111111111H441:L11L0111111111Q799Z71fKK011111111",
   "1H441cM11K0111111111H441gM11K0111111111H441kM11K0111111111H441nM11H0111111111Q79,L1J0111111111H4",
   "41tM1J0111111111H441wM1J0111111111H441yM1J0111111111H441+M1J0111111111H441*M1J0111111111H441<M1J",
   "0111111111H441^M1J0111111111H441:M1J0111111111H441,M1J0111111111H441cN1J0111111111H441fN1J011111",
   "1111H441hN1J01181111812112pN1J01181111812112q8dDJ0111111111H441nN1J0111111111@1611~Bq8J011111111",
   "1H441rB1J01181111812112r8hDJ0111111111H441sN1J01181111812112s8kDJ0111111111w1421y5~4J01181111812",
   "112t8kDJ01181111812112v8kDJ01181111812112w8kDJ0111111111H441zN1J0111111111H441@N1J0111111111H441",
   "=N1J0111111111H441>N1J0111111111w1421y5pGJ0111111111@1611~B:8J0111111111H441;N1J0111111111H441.N",
   "1J0111111111H441dP1J0111111111H441gP1J0111111111H441p5~HJ0111111111H441q5~HJ0111111111H441r5~HJ0",
   "111111111H441s5~HJ0111111111H441t5~HJ0111111111H441v5~HJ0118111183Z311r7hFJ0111111111H441rP1J011",
   "8111183Z311s7kFJ0111111111H441vP1J0118111183Z311t7mFJ0118111183Z311v7mFJ0118111183Z311w7mFJ01181",
   "11183Z311x7mFJ0111111111H441@P1J0111111111Q784>4sJJ0111111111Q784^4sJJ0111111111Q784~4sJJ0111111",
   "111Q784:4sJJ0111111111Q784;4sJJ0111111111Q784,4sJJ0118111183m1711,6*FJ0118111183m1711.6*FJ011811",
   "1183m1711c7*FJ0118111183m1711d7*FJ0118111183m1711f7*FJ0118111183m1711g7*FJ0111111111p1111@4>JJ01",
   "11111111p1111*4>JJ0111111111p1111=4>JJ0111111111p1111<4>JJ0111111111p1111>4>JJ0111111111p1111^4>",
   "JJ0111111111w1421q4.JJ0111111111w1421r4.JJ0111111111w1421s4.JJ0111111111w1421t4.JJ0111111111w142",
   "1v4.JJ0111111111w1421w4.JJ0111111111>1911,3jKJ0111111111>1911.3jKJ0111111111>1911c4jKJ0111111111",
   ">1911d4jKJ0111111111>1911f4jKJ0111111111>1911g4jKJ0111111111@1611j4qKJ0111111111@1611k4qKJ011111",
   "1111@1611l4qKJ0111111111@1611m4qKJ0111111111@1611n4qKJ0111111111@1611p4qKH01181111812112.QH01111",
   "11111Q79tQ1H01181111812112fRH01181111812112gRH01181111812112hRJ0111111111H4t3>4+21J0111111111Q79",
   "l1.8sDH01181111812112kRH01181111812112lRH01181111812112*BH0111111111p1111vQH01181111812112nRH011",
   "81111812112pRH01181111812112qRH01181111812112rRH01181111812112sRH01181111812112tRH01181111812112",
   "vRH01181111812112wRH01181111812112xRH01181111812112yRH01181111812112zRH01181111812112+RH01181111",
   "812112@RH01181111812112*RH0111111111w1421yBH01181111812112=RH01181111812112<RH01181111812112>RH0",
   "1181111812112^RH0111111111H441=RH01181111812112:RH01181111812112;RH0111111111H441f8H0111111111H4",
   "41^RH0111111111H441~RH0118111181"]

private def tsxPart11 : List String :=
  ["2112cSH0111111111H441:7H0118111183Z311fRH01181111812112fSH0111111111H441.RH0111111111H441cSH0111",
   "111111H441dSH0111111111H441fSH0111111111H441<BH0111111111H441gSH0111111111H441hSH0111111111H441j",
   "SH0111111111H441kSH0111111111H441lSH0111111111H441mSH0111111111H441nSH0111111111H441pSH011111111",
   "1H441qSH0111111111H441rSH0111111111H441sSH0111111111H441tSH0111111111H441vSH0111111111H441wSH011",
   "1111111H441xSH0111111111H441ySH0111111111H441zSH0111111111H441+SH0118111183m1711rRH0111111111>19",
   "11pRH0111111111Q79nS1H0118111183m1711wRH0118111183Z311.RH0118111183Z311cSH0118111183Z311dSH01181",
   "11183Z311.9H0111111111p1111mSH0118111183Z311gSH0118111183Z311hSH0118111183Z311jSH0118111183Z311k",
   "SH0118111183Z311lSH0118111183Z311mSH0118111183Z311nSH0118111183Z311pSH0118111183Z311qSH011811118",
   "3Z311rSH0118111183Z311sSH0118111183Z311tSH0111111111w1421y5H0118111183Z311vSH0118111183Z311wSH01",
   "11111111p1111=SH0118111183Z311ySH0111111111Q784;SH0111111111Q784,SH0111111111Q784.SH0111111111Q7",
   "84cTH0111111111Q784pBH0111111111Q784dTH0111111111Q784fTH0111111111Q784gTH0111111111Q784hTH011111",
   "1111Q784jTH0111111111Q784kTH0111111111Q784lTH0111111111Q784mTH0111111111Q784nTH0111111111Q784pTH",
   "0111111111Q784qTH0111111111Q784rTH0111111111Q784sTH0111111111Q784tTH0111111111Q784vTH0111111111Q",
   "784wTH0111111111Q79+T1H0118111183m1711~SH0118111183m1711:SH0118111183m1711;SH0118111183m1711z9H0",
   "111111111p1111yTH0118111183m1711.SH0118111183m1711cTH0118111183m1711dTH0118111183m1711fTH0118111",
   "183m1711gTH0118111183m1711hTH0118111183m1711jTH0118111183m1711kTH0118111183m1711lTH0118111183m17",
   "11mTH0118111183m1711nTH0118111183m1711pTH0118111183m1711qTH0118111183m1711rTH0118111183m1711sTH0",
   "111111111>1911qTH0111111111p1111gVH0111111111p1111hVH0111111111p1111jVH0111111111p1111mBH0111111",
   "111p1111kVH0111111111p1111lVH0111111111p1111mVH0111111111p1111nVH0111111111p1111pVH0111111111p11",
   "11qVH0111111111p1111rVH0111111111p1111sVH0111111111p1111tVH0111111111p1111vVH0111111111p1111wVH0",
   "111111111p1111xVH0111111111p1111yVH0111111111p1111zVH0111111111p1111+VH0111111111p1111@VH0111111",
   "111Q79;V1H0111111111p1111<VH0111111111w1421vVH0111111111w1421wVH0111111111w1421xVH0111111111w142",
   "1.9H0111111111w1421yVH0111111111w1421zVH0111111111w1421+VH0111111111w1421@VH0111111111w1421*VH01",
   "11111111w1421=VH0111111111w1421<VH0111111111w1421>VH0111111111w1421^VH0111111111w1421~VH01111111",
   "11w1421:VH0111111111w1421;VH0111111111w1421,VH0111111111w1421.VH0111111111w1421cWH0111111111w142",
   "1dWH0111111111Q79zW1H0111111111p1111tWH0111111111>1911<VH0111111111>1911>VH0111111111>1911^VH011",
   "1111111>1911+9H0111111111>1911~VH0111111111>1911:VH0111111111>1911;VH0111111111>1911,VH011111111",
   "1>1911.VH0111111111>1911cWH0111111111>1911dWH0111111111>1911fWH0111111111>1911gWH0111111111>1911",
   "hWH0111111111>1911jWH0111111111>1911kWH0111111111>1911lWH0111111111>1911mWH0111111111>1911nWH011",
   "1111111>1911pWH0111111111Q79nX1H0111111111p1111hXH0118111183Z311.WH0118111183Z311cXH0111111111@1",
   "611=WH0111111111@1611<WH0111111111@1611>WH0111111111@1611^WH0111111111@1611^9H0111111111@1611~WH",
   "0111111111@1611:WH0111111111@1611;WH0111111111@1611,WH0111111111@1611.WH0111111111@1611cXH011111",
   "1111@1611dXH0111111111@1611fXH0111111111@1611gXH0111111111@1611hXH0111111111@1611jXH0111111111@1",
   "611kXH0111111111@1611lXH0111111111@1611mXH0111111111@1611nXH0111111111@1611pXH0111111111Q79fY1H0",
   "111111111p1111;XH0118111183m1711pXH0111111111p1111.XH0111111111w1421*XH0111111111Q79mY1H01111111",
   "11p1111gYH0111111111Q79qY1H0111111111p1111kY92d1t1j2s11p31192d1t1k2r11p311601w2j2Sg4601w2k2Rg472",
   "d1t1j2s11t372d1t1k2r11t372d1c51p3114x2j2Sj24x2k2Rj23x2j2S3x2k2R52d1c51t32x2j22x2k252c6T1dS301;Z3",
   "01,Z301w9301.Z301cb301db2gb1301hb301jb301kb1mb1nb1pbHH1111119y1711^2Z^1HH1111119y1711^2Z^SHH1111",
   "119y1711^2Z<4HH1111119y1711^2Z~SHH1111119y1711^2Z:SHH1111119y1711^2Z;SJJ11129B11~4t3v311qL1HH111",
   "1294611~4t31;PHH1111294611~4t32;PHp3111D111111k91sL1Hp3111D111111k91vL1Hz21151141111y61cQ1Hz2115",
   "1141111y61fQ1Ht3111H111111d91zL1Ht3111H111111d91@L1Hy3111R111181.41kQ1Hy3111R111181.41mQ1Jy3111R",
   "1111m51pQ1111HH111129z3111x1v3@3.LHH111129z3111x1w3+3cMJz211511411,511N1zQ1HH111129y1711r3v3*3fM",
   "HH111129y1711r3w3@3gMFH11111194611hbFH11111194611jbFH11111194611kbFH11111194611lbFH11111194611mb",
   "FH11111194611nbFH11111194611pbFH11111194611qbFH11111194611rbFp3111D1111118wXFp3111D1111118xXFz21",
   "1511311111@YFz2115113111,511FH11111194611w8FH11111194611wbFH11111B4611h6s2FH11111B4611h6t2FH1111",
   "1194611xbFz211511311111<YGH2111B4611h6d411FH11111194611z8FH11111194611zbFH1111119y1711jZFH111111",
   "94611@bFH11111194611*bFH11111194611=bFH1111119z3111tXFH11111194611>bFH11111194611+8FH11111194611",
   "^bFz211511311111dZFz211511311111fZFz211511311111gZFz211511311111hZFH11111194611.bFH11111194611cc",
   "1FH11111194611@8FH11111194611*8FH11111194611dc1FH11111194611fc1FH11111194611gc1FH11111194611hc1F",
   "H11111194611=8FH11111194611jc1Fp3111D1111118nYFp3111D1111118pYFp3111D1111118qYFH1L611c2111Vh9mNF",
   "H1L611c2111Vh9nNFp3111D1111118tYFp3111D1111118vYFy3111R1111811;XFy3111R1111811,XFp3111D1111118yY",
   "Fp3111D1111118zYFp3111D1111118+YFp3111D1111118@YFp3111D1111118*YFp3111D1111118=YFz211511311111~Z",
   "Fz211511311111:ZFH1L611n11155sB@NFH1L611n11155sB*NFz211511311111.ZFz211511311111cbFp3111D1111118",
   ",YFp3111D1111118.YFz211511311111gbFz211511311111hbFz211511311111jbFz211511311111kbFz211511311111",
   "lbFz211511311111mbFt3111H1111112jZFt3111H1111112kZFt3111H1111112lZFH1L611h2111Rj9gPFH1L611h2111R",
   "j9hPFt3111H1111112pZFt3111H1111112qZFt3111H1111112rZFt3111H1111112sZFt3111H1111112tZFt3111H11111",
   "12vZFt3111H1111112wZFt3111H1111112xZFy3111R1111811cZFy3111R1111811dZFy3111R1111811fZFH1L611m2111",
   "j1+8vPFH1L611m2111j1+8wPFy3111R1111811jZFy3111R1111811kZFy3111R1111811lZFy3111R1111811mZFy3111R1",
   "111811nZFy3111R1111811pZFy3111R1111811qZFy3111R1111811rZFt3111H1111112.ZFt3111H1111112cbFJ111119",
   "B11<C11FH1111119z3111k5FH1111119z3111@ZFH1111119z3111*ZFH11111B4611x8+3FH11111B4611y8z3FH1111119",
   "z3111n5FH1111119z3111=ZFH1111119z3111<ZFH1111119z3111>ZFH1111119z3111p5FH1111119z3111^ZFH1111119",
   "z3111q5FH1111119z3111r5FH1111119z3111s5FH1111119z3111~ZFz211511311111rc1Fz211511311111sc1Ft3111H",
   "1111112pbFt3111H1111112qbFH11111194611j6Fz211511311111wc1Fz211511311111xc1FH1111119y1711h7FH1111",
   "119y1711;c1FH1111119y1711,c1FH1111119y1711.c1FH1111119y1711j7FH1111119y1711cd1Fz211511311111*c1F",
   "H1111119y1711k7FH1111119y1711l7FH11111194611xf1FH1111119y1711m7FH1111119y1711gd1FH11111194611=4F",
   "H11111194611zf1FH11111194611+f1FH11111194611@f1FH11111194611*f1FH11111194611=f1FH11111194611<f1F",
   "H11111194611>f1FH1111119y1711d7FH1111119y1711qd1FH11111B4611x8@3FH11111B4611y8+3FH11111194611~f1",
   "FH1111119y1711sd1FH11111194611;f1FH1111119y1711vd1FH1111119y1711wd1FH1111119y1711xd1FH1111119y17",
   "11yd1FH1111119y1711zd1G2f11x21z151s111B1<2G2f11x21z151s111D1*2G2f11x21z151s111D1j65x2j2s5114x2j2",
   "w1t15x2j2:1g115x2k2r5114x2k2v1t15x2k2~1g113sh111D2f11x21z1z111S1^5D2f11x21z1z111S1~53gB112k6t13y",
   "6g113wh1113y6h1,52+7.X2+h111@F2*h112k6yZ3*F1fR2^h112@F31:h122~h11,h192f11x21s111:492f11x21s111>b",
   "92f11x21s111q892f11x21s111^b92f11x21s111~b92f11x21s111:b92f11x21s111;b92f11x21s111r892f11x21s111",
   ",b92f11x21s111s892f11x21s111.b92f11x21s111cc192f11x21s111dc19.5N111111vZ9.5N111111wZ92v2j2r1T1p3",
   "1192v2k2q1T1p3119.5N111111xZ9.5N111111yZ9.5N111111zZ9.5N111111+Z8p55191v11.24<3y6hW18p55191x11;2",
   "72c6T1p3112wj112yj112+j111*j16p5H1;11x22<3y61=j11<j11pB1>j11^j11~j11:j14c7q3yW14x2j2h2y33<3KL4x2",
   "k2g2y33sBr3kS3^FkS13fk1113x2j2<53x2j2h22jk112lk112nk113x2k2=53x2k2g21qk12c7q33c7Tf65<3KLk2qb2:Fx",
   "S2tk112^6y31wk11xk15<3KLk2xb5<3KLk2yb5<3KLk2zb4c7Tf6^S1qB4p5j5lX11<k11sB1>k12;F;S1;F2~k111;k12,F",
   "cT2.k111dl12.FgT1tB1^62cGgT4p551.44<3KLk93p5s2<24<3KLk21hl13<3K:f14<3KLl95>51n8gT11ml11nl11pl11,",
   "F1ql11rl11sl11tl11vl11.F1cG1wl11xl11yl11zl11+l11@l11*l11=l11<l11>l11^l11~l11:l11;l11,l11.l11cm11",
   "dm14<3KLn94<3KLp94<3KLq94<3KLr94<3KLs94<3KLt94<3KLv91fm11gm11hm11jm12t5j24>51,1q66.5r8~T1111:F1p",
   "m13t5j2;21rG1qm11t52t5f52rGcV2sm111vm12wm111ym12zm111@m13c7T;c11=m11<m11>m11^m11~m11:m11;m11,m11",
   ".m11cn11dn11fn11gn11hn11jn11kn12ln112sG:V1wB1sG2sBr31pn12qn111sn11tn12vn111xn11yn11zn11+n12.5r81",
   "@n11*n152d1c51zg12<n112^n112:n112,n112cp1152c6T1kg11gp11hp11jp11kp11^F1lp11mp11np11pp11qp11rp11s",
   "p11tp11vp11wp11xp11yp11zp11+p11@p11*p11=p11<p11>p11^p11~p11:p12;p112.p116m31m71:3zX6m31m71;3zX5w",
   "G1yX111kq12lq112nq111qq11rq12sq112vq112xq112zq112@q112=q111>q12^q112:q112,q111cr12dr112gr112jr11",
   "1lr12mr112pr112rr111tr12vr112xr112zr115wG1hZ115t21np1112zBmf15t21q5^2,35h11@6^2mf1501>7gj114x2j2",
   ".515t21r5:2:35h11*6:2;3501d7;j11501d7.j11501d7dk11501d7gk115t21n8;31501k6cl11501k6fl11501k6hl115",
   "01k6kl11501k6ml11501k6pl115t21p8,31501f7wk11501f7yk11501f7+k11501f7*k11501<Gfb14x2k2,511;s12,s11",
   "2ct112ft112ht112zBzg12zB+g14m31xCtb4h11*Ftb4h11*Fvb4h11=F14h11<F14h11^F14h11~F14h11;F14h11,F14h1",
   "1cG14h11dG11qt11rt14m31.Cjb3nH1hb4m31kq115t21:D1jb5t21s5,2z45h11=6,2<g1501~7=k114h11nGlb2@B14h11",
   "nGmb5t21t5,2+45h11<6,2@4501g7zl11501g7@l11501g7=l11501g7>l114h11rG14h11sG15t21s8<41501l6=m11501l",
   "6>m11501l6~m11501l6;m11501l6.m11501l6dn114h11xG14h11yG15t21t8:41501h7km11501h7mm11501h7pm11501h7",
   "rm114h11*G14h11=G1501;H@b14h11^G14h11~G11@v14m31sr114m31vr114m31xr113=5jp112fJ:b3=5v1>m12cw113nH",
   "1<c11gw13=5sp113=5v1cn13=5wp113=5v1gn13=5zp113=5v1kn15w11:t1113m31jC5w11.t1115w11fv1112=5v12fJ+c",
   "12gJ+c12gJ@c11>w11^w15w11pv1113m31kC5w11sv1113m31xC3m31.C5w11wv1115w11zv1115w11*v1113m31dt13m31f",
   "t13m31gt15w11:v1115w11.v1115w11fw1115w11jw1115w11mw1112^7^22hJ<d12hJ>d15w11sw1112~7:22~7kp12fy11",
   "2hy112<B,32ky112my112py112ry112ty112<B<l12xy112zy112@y112=y112>y112>B.32~y112;y112.y112dz112>Bpm",
   "12hz112kz112mz112pz112rz112tz112wz112yz112+z112*z112<z112^z112jJ=g12;z112.z112jJ:g12f+112h+112k+",
   "112m+112p+112r+112t+112w+112y+112++111*+11=+15w11lz1115w11pz1115w11sz1113m31<x13m31>x15w11yz1115",
   "w11@z1115w11<z1115w11~z1115w11,z1115w11d+1113m31ry13m31sy15w11k+1113m31xy13m31yy13,B,p115m5131xw",
   "12.Bl51.@11c*11d*11f*11g*11h*11j*11k*11l*11m*13,Bqq115q*111112.B15;D111wn15x*111115**111112cCl55",
   "m51yx1112k6fB301;*13l7Lm3301,*12c=114w11x@11301g=13j=1112m=112k6hx12mJgl12xB14w11~@112t=113l7^3v",
   "r14w11c*114w11f*114w11h*114w11k*112qH14w11m*112nJyl13l7g9yl14w11r*114w11t*114w11w*114w11y*112:7,",
   "22j<111l<14w11=*112;7,22p<112r<112t<112;7zw12x<112z<112@<112=<112><112~<111;<11,<12:B>42.<112d>1",
   "12g>112j>112l>112n>112q>112s>112v>112x>112z>112@>112=>112:B;t12^>112:>112,>112c^112f^112h^112k^1",
   "12m^112p^112r^112t^112w^112y^112+^111*^12;B;42=^112>^112~^112;^112.^112d~112g~112j~112l~112n~112",
   ";Btw12r~112t~112w~112y~112+~112*~112<~112^~112:~112,~112c:112f:112h:112k:112m:112p:112r:112t:112",
   "w:112y:112+:112*:112<:112^:112::112,:112c;112qJ=r12g;112j;112l;112n;112q;112qJfs12t;112w;112y;11",
   "2+;112*;112<;112^;112:;112,;112c,112f,112h,112k,112m,112p,112r,112t,112w,112y,112+,112*,111<,11>",
   ",11^,11~,11:,11;,11,,11.,11c.11d.11f.11g.11h.11j.11k.13n4v1w14w11*;113n.1112r.114w11;;113<5w1m<1",
   "4w11c,114w11f,114w11h,114w11k,113<5p5=+14w11n,114w11q,114w11s,114w11v,114w11x,113<5w1:<13<5p5g@1",
   "4w11@,113l7g9,v13l7^3m@13<5p5m@13<5w1g>13<5+^113<5w1k>12k6n^1301vc2301wc21kJ1yc23y6g1=8301yc21+c",
   "22@c211=c21<c21>c2301>c21~c22:c211,c2301,c21cd21dd2301dd21gd21hd21jd23t21gD1kd21ld22sJ11md2301md",
   "21pd23t21hD3h11vF1qd23h11=F1rd21sd2301sd21vd21wd23t21kD3h11rc23h11^F1nJ301xd21zd21+d23t21mD3h11w",
   "c23h11;F301@d21=d21<d23t21p.13h11cG1^d21~d23t21s.13h11<c21,d21.d23h11~c21df21cC3*F1q+12gf211jf23",
   "h11>F1kf23h11:F1lf23h11.F3h11fG3h11gd23h11hd21pf21qf21rf21sf21tf21vf21wf21xf21yf21zf21+f21@f21*f",
   "2301d7301*f2301k6301=f2301f7301<G301<f2301>f23y6f7<22~f213t21tc22,f213t21xc2301cg2301dg21gg21hg2",
   "1.B3t21*c2301jg21lg22mg213t21~c2301pg21rg2301rg2301sg2301tg21wg21xg2301xg21zg22gCx<11<F301+g21*g",
   "2301*g2301=g23t21,D1>g21^g2301^g23t21cF1:g21;g23h11qG1,g21.g21ch21dh21fh21gh21hh23h11rG1sJ301hh2",
   "3t21jF1kh21lh23h11gg21nh21ph21qh21rh21sh21th21vh21wh21xh21yh21zh21+h21@h21*h21=h21<h21>h21^h21~h",
   "21:h21;h21,h21.h21cj21dj21fj21gj21hj21jj23h11xG301jj23t21pF1lj21mj23h11hh21pj21qj21rj21sj21tj21v",
   "j21wj21xj21yj21zj21+j21@j21*j21=j21<j21>j21^j21~j21:j21;j21,j21.j21ck21dk21fk21gk21hk21jk21kk21l",
   "k21mk21nk21pk21qk21rk21sk21tk21vk21wk21xk21yk21zk21+k21@k21*k21=k21<k21>k21^k21~k21:k21;k21,k23h",
   "11*G301,k23t21xh21dl21fl21gl21hl21jl21kl21ll21ml21nl21pl21ql21rl21sl21tl21vl21wl21xl21yl21zl21+l",
   "21@l21*l21=l21<l21>l21^l21~l21:l21;l21,l21.l21cm21dm21fm21gm21hm21jm21km21lm21mm21nm21pm21qm21rm",
   "21sm21tm21vm21wm21xm21ym21zm21+m21@m21*m23h11^G1=m23t21nk21>m21^m21~m21:m21;m21,m21.m21cn21dn21f",
   "n21gn21hn21jn21kn21ln21mn21nn21pn21qn21rn21sn21tn21vn21wn21xn23h11sm21zn21+n21@n21*n23h11ym22<n2",
   "12^n211x21:n21;n22,n211cp21dp22gC.,11gp23h11tG3h11zG3h11<G3h11:G3h11.m23h11cn22kp211lJ1mp21np22p",
   "p211rp21sp23t21.l23t21cm2301vp23t21fm2301xp23t21hm2301g7301zp2301+p2301@p2301l6301*p2301h7301;H3",
   "01=p2301<p23t21qm23t21rm2301~p2301:p2301;p2301,p21cq21dq21fq21gq21hq21jq21kq21lq21mq21nq21pq21qq",
   "21rq21sq21tq21vq21wq21xq21yq21zq22+q211*q21=q23vJn~111^q21~q21:q22;q211.q21tJ1cr22dr211gr21hr21j",
   "r23vJ=~111mr21nr21pr21gC1qr21rr21sr21tr21vr21wr21xr21yr21zr21+r21@r21*r21=r21<r21>r21^r21~r22:r2",
   "12,r212cs212fs212hs212ks212ms212ps212rs212ts212ws212ys211+s21@s21*s21=s21<s21>s21^s21~s21:s21dG1",
   ";s21,B1,s21.s22ct211ft21gt21ht21jt21kt21lt21mt21nt21pt21fG1qt21rt21st21tt21vt21wt21xt21yt21zt21+",
   "t21@t21*t21=t21<t21>t21^t21~t21hG1:t21;t21,t21jG1.t21cv21dv21fv21gv21hv21kG1jv21kv21lG1lv21mv21m",
   "G1nv21nG1pG1pv21qv21rv22sv211vv21wv21xv21yv21zv21+v21@v21*v21=v21<v21>v21^v21~v21:v21;v21,v21.v2",
   "1cw21dw21fw21gw21hw21jw21kw21lw21mw21nw21pw21qw21rw21sw21tw21vw21ww21xw21yw21zw21+w21@w21*w21=w2",
   "1<w21>w21^w21~w21:w21;w21,w21.w21cx21dx21fx21gx21hx21jx21kx21lx21mx21nx21px21qx21rx21sx21tx21vx2",
   "1wx21xx21yx21zx21+x21@x21*x21=x21<x21>x21^x21~x21:x21;x21,x21.x21cy21dy21fy21gy21hy21jy21ky21ly2",
   "1my21ny21py21qy21ry21sy21ty21vy21wy21xy21yy21zy21+y21@y21*y21=y21<y21>y21^y21~y21:y21;y21,y21.y2",
   "1cz21dz21fz21gz21hz21jz21kz21lz21mz21nz21pz21qz21rz21sz21tz21vz21wz21xz21yz21zz21+z21@z21*z21=z2",
   "1<z21>z21^z21~z21:z21;z2,@50100d4211t4322t4332d4243d4253d4264d4275d4285d4296d42B7d42C6d42D8d42F6",
   "d42G9d42G6d42H6d42J6d42KBd42L6d42MCd42N6d42PDd42Q6d42RFd42S6d42TGd42V6d42WHd42XJd42Y6d42ZKd42bLd",
   "42bMd42bNd42bPd42bQd42bRz42c1Sd42bTd42bVd42bWd42bXd42bYd42bZd42bbd42bc1d42bd1d42Zf1d42Zg1d42d1h1",
   "d42Zj1d42Zk1d42Zl1z42f1m1d42Zn1d42Zp1d42Zq1d42Zr1d42Zs1d42Zt1d42Zv1d42Zw1d42Zx1z42g1m1z42h1m1z42",
   "j1m1z42k1m1z42l1Sz42m1m1z42n1m1z42p1y1d42d1z1d42d1+1d42d1@1d42d1*1d42d1=1d42d1<1d42d1>1d42d1^1d4",
   "2d1~1d42d1:1d42d1;1d42d1,1d42d1.1d42d1c2d42d1d2@44q1f2@44r1g2@44s1g2@43t1h2@43v1j2@43w1k2z42x1l2",
   "@43y1m2@43z1n2@43+1p2@43@1q2@43*1h2z42x1r2z42x1s2@43=1t2z42<1v2@43>1w2@43^1w2@43~1x2@43~1t2z42<1",
   "y2@43:1w2z42<1z2z42<1+2z42<1@2@44;1*2@44,1*2@44,1=2@43.1<2@44c2w2@43d2x2@44f2*2@44g2>2@44g2^2@44",
   "h2w2@44j2*2@43k2t2@43l2t2@43m2~2@43n2x2@43p2~2@43q2~2@43r2~2@43s2:2@44t2;2@44t2,2@44v2w2@43w2.2@",
   "43w2c3@43x2w2@43y2d3@43z2f3@43y2g3@43+2w2@43@2<2@43*2w2@43=2h3@43<2j3@43=2~2@43>2w2@43<2k3@43^2w",
   "2@43~2w2z42:2l3@43;2w2@43,2<2@43.2w2@43,2w2@43c3w2@43d3w2@43f3w2@43g3w2@43h3w2@43j3w2z42k3m3z42l",
   "3n3z42m3p3z42n3q3z42p3r3z42q3s3z42r3t3z42s3v3z42t3w3z42v3x3z42w3y3z42x3z3=43y3+3=44z3@3=44+3*3=4",
   "4@3=3=43*3<3=43=3>3=43<3^3=43>3~3=43^3:3t43~3;3t44:3;3t44;3;3d42,3,3d42,3.3d42.3c4t43c4;3d42.3d4",
   "d42d4f4d42d4g4t43f4;3d42g4c4d42g4d4t43h4h4t43j4j4t44k4;3t43l4;3t43m4;3t43n4;3t43p4;3t43q4;3t43r4",
   ";3d42s4k4d42s4l4d42t4m4d42v4n4d42w4n4d42x4p4d42y4q4d42z4n4d42+4n4d42@4n4d42*4n4d42=4r4=44<4s4=44",
   ">4s4=44^4s4=44~40d42=4t4d42:4n4d42;4v4d42,4w4d42.4w4d42c5w4d42d5w4d42f5w4=44g50=44h50=44j50=44k5",
   "0=44l50=44m50=44n50=44p50=44q50d42r5x4=44s50=44t50=44v50=44w50=44x50=44y50=44z50=44+50=44@50=44*",
   "50=44=50=44<50=44>50=44^50d45~5v4=44:50=44;50d42,5y4d42.5z4d42c6+4d42d6@4d42f6+4d42g6*4d42h6+4d4",
   "2j6=4d42.5<4d42.5>4d42k6^4@43l60@43m60d42n6~4d42p6:4d42q6;4d42r6,4@43s60@43t60d42v6.4d42w6c5d42x",
   "6d5d42y6f5d42z6g5d42+6h5d42@6j5d42*6k5d42=6l5d42<6m5d42>6n5d42^6p5d42~6q5d42:6r5d42;6s5d42,6t5d4",
   "2.6v5d42c7w5d42d7x5d42f7y5d42g7z5d42h7x5d42j7x5d42k7z5d42l7+5d42m7@5d42n7z5d42p7*5d42q7=5d42r7<5",
   "d42s7>5d42t7^5d45v7~5d42w7h2d42x7:5d42y7j2d42z7;5d42x7,5d42+7.5d42x7c6d42x7d6d42x7f6d42x7g6d42@7",
   "h6d42*7j6d42=7k6d42<7l6d42>7m6d4"]

private def tsxPart12 : List String :=
  ["2^7n6d42~7p6d42:7q6d42;7r6d42,7s6d42.7t6d42c8v6d42d8w6d42f8x6d42g8y6d42h8z6d42j8+6d42h8@6d42g8*6",
   "d42h8=6d42g8<6d42k8>6d42g8^6d42g8~6d42g8:6d42h8;6d42h8,6d42h8.6d42h8c7d42l8d7d42j8f7d42h8g7d42h8",
   "h7d42h8j7d42h8k7d42m8l7d42m8m7d42m8n7d42m8p7d42m8q7d42m8r7d42n8s7d42h8t7d42n8v7d42h8w7d42n8x7d42",
   "n8y7d42n8z7d42n8+7d42h8@7d42p8*7d42p8=7d42p8<7d42p8>7d42p8^7d42p8~7d42q8:7d42q8;7d42q8,7d42q8.7d",
   "42q8c8d42q8d8d42r8f8d42r8g8d42r8h8d42r8j8d42r8k8d42r8l8d42s8m8d42s8n8d42s8p8d42s8q8d42s8r8d42s8s",
   "8d42t8t8d42t8v8d42t8w8d42t8x8d42t8y8d42t8z8d42v8+8d42v8@8d42v8*8d42v8=8d42v8<8d42v8>8d42f8,4d42f",
   "8^8d42w8~8d42f8:8d42f8;8d42f8,8d42x8.8d42y8c9d42f8d9d42f8f9d42f8g9d42z8h9d42f8j9d42f8k9d42f8l9d4",
   "2f8m9d42f8n9d42f8p9d42f8q9d42f8r9d42f8s9d42f8t9d42f8v9d42f8w9d42f8x9d42f8y9d42+8z9d42f8+9d42f8@9",
   "d42f8*9d42f8=9d42h8<9d42f8>9d42f8^9d42h8~9d42@8,4d42h8:9d42h8;9d42f8,9d42h8.9d42*8cBd42f8dBd42h8",
   "fBd42h8gBd42h8hBd42h8jBd42h8kBd42h8lBd42h8mBd42h8nBd42h8pBd42h8qBd42h8rBd42h8sBd42h8tBd42h8vBd42",
   "h8wBd42h8xBd42h8yBd42h8zBd42h8+Bd42h8@Bd42h8*Bd42=8v4d42h8=Bd42h8v4d42h8<Bd42<8>Bd42>8^Bd42^8=4d",
   "42~8v4d42:8v4d42;8=4d42,8v4d42.8~Bd42<8:Bd42*8;Bd42*8,Bd42*8.Bd42*8cCd42z8dCd42*8fCd42*8gCd42*8h",
   "Cd42*8jCd42*8kCd42*8lCd42*8mCd42*8nCd42*8pCd42*8qCd42*8rCd42*8sCd42+8tCd42*8vCd42*8wCd42z8xCd42c",
   "9j5d42*8yCd42d9zCd42d9+Cd42d9@Cd42d9*Cd42d9=Cd42d9<Cd42d9>Cd42d9^Cd42d9~Cd42d9:Cd42d9;Cd42d9,Cd4",
   "2d9.Cd42d9cDd42d9dDd42d9fDd42d9gDd42d9hDd42d9jDd42f9=4d42d9kDd42d9=4d42d9lDd42g9mDd42<8nDd42<8pD",
   "d42<8qDd42<8rDd42z8sDd42<8tDd42<8vDd42<8wDd42<8xDd42<8yDd42<8zDd42<8+Dd42<8@Dd42<8*Dd42<8=Dd42<8",
   "<Dd42<8>Dd42<8^Dd42<8~Dd42h9k5d42<8:Dd42>8;Dd42z8,Dd42z8.Dd42z8cFd42z8dFd42z8fFd42z8gFd42z8hFd42",
   "z8jFd42z8kFd42z8lFd42z8mFd42z8nFd42z8pFd42z8qFd42z8rFd42z8sFd42z8tFd42z8vFd42j9l5d42z8wFd42z8l5d",
   "42z8xFd42k9yFd42z8zFd42+8+Fd42+8@Fd42+8*Fd42+8=Fd42+8<Fd42+8>Fd42+8^Fd42+8~Fd42+8:Fd42+8;Fd42+8,",
   "Fd42+8.Fd42+8cGd42+8dGd42+8fGd42+8gGd42+8hGd42+8jGd42l9m5d42+8kGd42+8m5d42+8lGd42m9mGd42z8nGd42>",
   "8pGd42>8qGd42>8rGd42>8sGd42>8tGd42>8vGd42>8wGd42>8xGd42>8yGd42>8zGd42>8+Gd42>8@Gd42>8*Gd42>8=Gd4",
   "2>8<Gd42>8>Gd42>8^Gd42>8~Gd42n9n5d42>8:Gd42>8n5d42>8;Gd42p9,Gd42z8.Gd42*8j5d42*8cHd42*8dHd42j8fH",
   "d42j8gHd42j8hHd42j8jHd42j8kHd42j8lHd42j8mHd42j8nHd42j8pHd42j8qHd42j8rHd42j8sHd42j8tHd42j8vHd42j8",
   "wHd42j8xHd42j8yHd42j8zHd42j8+Hd42q9p5d42j8@Hd42j8p5d42j8*Hd42r9=Hd42z8<Hd42<8k5d42<8>Hd42z8^Hd42",
   "+8~Hd42s9:Hd42z8;Hd42t9,Hd42z8.H@44v9cJ@44w9dJ@44x9dJt44y9fJt44z9gJt44+9gJt44@9hJt44*9jJt44=9jJ@",
   "44<9kJ@44>9kJ@44^9kJt44~9lJt44:9mJt44;9mJt44,9nJt44.9nJt44cBpJt44dBpJt44fBpJt44gBpJt44hBqJd42jB0",
   "d42kB0t44lBqJt44mBqJd42nB0d42pB0d42qB0d42rB0d42sB0t44tBrJt44vBrJt44wBqJt44xBsJt44yBsJt44zBtJt44+",
   "BsJt44@BsJt44*BqJt43=BvJt43<BwJt43>BwJt43^BvJt43~BvJt44:BxJt44;BxJt43,BvJt44.BxJt44cCxJt44dCyJt4",
   "4fCyJt44gCxJt43hCvJt43jCzJ@43kC+J@43lC+Jd42mC@Jt44nC*Jd45pC0d45qC0t43rCzJt43sCzJt43tCzJt44vC*Jt4",
   "4wC*Jt43xC=Jt43yC=Jt44zC*Jt44+C*Jd42@C0d42*C0d45=C0d45<C0d45>C0d45^C0d45~C0d45:C0t43;CzJt43,CzJt",
   "43.C<Jt43cD<Jt43dDwJt43fDwJt43gDwJd42hD>Jd42jD^Jd42kD^Jt43lDwJt43mDwJt43nDwJt43pDwJt43qDwJt43rDw",
   "Jt43sDwJt43tDwJt43vDwJd42wD0d42xD~Jn52yD:Jd45zD0d45+D0d42@D0d45*D0d45=D0d45<D0d45>D0d45^D0d45~D0",
   "d45:D0d45;D0d45,D0d45.D0d45cF0d42dF0d42fF0d42gF^Jd42hF0d42jF0d45kF0d45lF0n52mF;Jn52nF,Jn52pF.Jn5",
   "2qFcKd42rF0d42sF0d42tF0d42sF0d42vF0d42wF0d42xF0d42yF0d42zF0d42+F0d42@F0d42*F0d42=F0d42<F0d42>F0d",
   "42^F0d42~F0d42:F0d42;F0d42,F0d42.F0d42cG0d42dG0d42fG0d42gG0d42hG0d42jG0d42kG0d42lG0d42mG0d42*F0d",
   "42nG0d42nG0d42pG0d42nG0d42qG0d42rG0d42sG0d42sG0d42tG0d42vG0d42wG0d42xG0d42yG0d42zG0d42+G0d42@G0d",
   "42*G0d42=G0d42<G0d42<G0d42<G0d42>G0d42^G0d42~G0d42:G0d42;G0d42,G0d42,G0d42,G0d42.G0d42cH0d42cH0d",
   "42dH0d42cH0d42fH0d42gH0d42gH0d42hH0d42jH0d42kH0d42lH0d42mH0n52nHdKd42pH0d42pH0d42pH0d42qH0d42rH0",
   "d42sH0d42tH0d42vH0d42wH0d42xH0d42xH0d42yH0d42zH0d42+H0d42@H0d42@H0d42*H0d42=H0n52<HdKd42>H0d42^H",
   "0d42~H0d42:H0d42:H0d42;H0d42;H0d42,H0d42.H0d42cJ0d42dJ0d42fJ0d42gJ0d42hJ0d42jJ0d42kJ0d42lJ0d42mJ",
   "0d42nJ0d42pJ0d42qJ0d42rJ0d42sJ0d42tJ0d42vJ0d42wJ0d42xJ0d42yJ0n52zJdKn52+JdKn52@JdKn52*JdKn52=JdK",
   "n52<JdKn52>JdKn52^JdKn52~JdKn52:JfKn52:JgKn52:JhKd42;J0d42,J0d42.J0d42cK0d42cK0d42cK0d42cK0d42cK",
   "0d42dK0d42fK0n52gKjKn52gKkKn52hKlKn52hKmKn52jKnKn52jKpKn52kKqKn52kKrKn52kKsKn52lKtKn52lKvKn52hKw",
   "Kn52mKxKn52mKyKt52nKzKn52pK+Kn52qK@Kn52rK@Kz52sK0z52tK0z52vK0n52wK*Kn52xK@Kn52yK@Kn52zK=Kn52+K@K",
   "n52@K@Kn52*K<Kn52=K@Kn52<K@Kn52>K>Kn52^K@Kn52~K@Kn52:K@Kn52;K@Kn52,K@Kn52.K@Kn52cL^Kn52cL~Kn52dL",
   ":Kn52fL;Kn52gL,Kn52gL.Kn52cLcLn52cLdLn52cL;3n52cLfLn52cLgLn52cLhLn52cLzKn52gLjLn52cLkLn52cL@Kn52",
   "cLlLn52cLmLn52hLnLn52cLpLn52cLqLn52cLrLn52jLsLn52cLtLn52cLvLn52cLwLn52gLxLn52gLyLn52gLzLn52gL+Ln",
   "52cL@Ln52cL*Ln52cL=Ln52cL<Ln52cL>Ln52cL^Ln52cL~Ln52cL:Ln52cL;Ln52cL,Ln52fL.Ln52fLcMn52fLdMn52kLf",
   "Mn52kLgMn52fLhMn52fLjMn52lLkMn52lLlMn52fLmMn52fLnMn52fLpMn52fLqMn52fLrMn52fLsMn52gLtMn52gLvMn52g",
   "Lj4n52mLwMn52mLxMn52gLyMn52gLzMn52fL+Mn52fL@Mn52gL*Mn52gL=Mn52gL<Mn52gL>Mn52gL^Mn52gL~Mn52nL:Mn5",
   "2nL;Mn52nL,Mn52pL.Mn52pLcNn52nLdNn52nLfNn52nLgNn52nLhNn52nLjNn52nLkNn52nLlNn52nLmNn52lLnNn52lLpN",
   "n52lLqNn52qLrNn52qLsNn52lLtNn52lLvNn52lLwNn52lLxNn52lLyNn52lLzNn52lL+Nn52lL@Nn52rL*Nn52nL=Nn52cL",
   "<Nn52jL>Nn52jL^Nn52jL~Nn52sL:Nn52sL;Nn52jL,Nn52jL.Nn52jLcPn52jLdPn52jLfPn52jLgPn52jLhPn52jLjPn52",
   "jLkPn52jLlPn52gLmPn52gLnPn52nLpPn52nLqPn52cLrPn52gLsPn52gLtPn52hLvPn52hLwPn52hLxPn52hLyPn52hLzPn",
   "52hL+Pn52gL@Pn52hL*Pn52hL=Pn52cL<Pn52hL>Pn52hL^Pn52cL~Pn52cL:Pn52cL;Pn52cL,Pn52cL.Pn52cLcQn52cLd",
   "Qn52cLfQn52hLgQn52hLhQn52hLh4n52tLjQn52tLkQn52cLlQn52hLmQn52cLnQn52hLpQn52hLqQn52hLrQn52hLsQn52h",
   "LtQ@52vLvQ@52wLwQ@52xLwQ@52yLwQ@52zLwQ@52+LwQ@52@LvQ@52*LwQ@52=LwQ@52<LwQ@52>LwQ@52^LxQt44~LyQ@4",
   "4:LzQt44;L+Qt44,L@Q@44.L*Qt44cM=Qt44dM@Q@44fM*Qt44gM=Qt43hM<Qt43jM<Qt43kM<Qt43lM<Qt43mM<Q@52nM>Q",
   "@52nM^Qt44pM~Q@44qM:Qt44rM;Qt44sM,Qt43tM<Qt44vM<Qt44wM,Q@44xM:Qt44yM.Qt44zM;Qt44+M,Qt44@M<Q@44*M",
   ":Qt44=M,Qt44<MrJt43>M<Q@43^McRt43~M<Q@43:M0@43;M0@43,M0@43.M0@43cN0@43dN0t43fNdR@43gN0@43hN0@43j",
   "N0t44kNsJt44lNsJ@43mN<Q@43nN<Qt44pNrJt44qNrJ@44rN:Qt44sN;Qt43tN<Qt43vN<Qt43wNfRt44xN~Qt43yN<Q@43",
   "zN0@43+N0t44@NgRt44*NsJt44=NsJ@44rNhRt44<NjRt44>NsJt44^NsJt44~N,Qt44:N<Qt43;N<Qt43,N<Qt44.N.Q@43",
   "cP0d42dPkRt44fPdRt43gPlRt43hP0t44jPmRt43kPdRt44lPdRt43mP<Qt43nP<Qt43pP<Qt43qP<Qt43rP<Qt43sP<Qt43",
   "tP0t43vP0t43wP<Qd42xPnRt44yPfR@43zPpRt43+PfRd42@P0t43*P0t43=P0t43<P0t43>P0t43^P0t43~PfRt43:P0t44",
   ";P0t43,PdRt43.P<Qt44cQfRt44dQdRt43fQ0t43gQ<Qt43hQdRt43jQ<Qt43kQ<Qt43lQ<Qt43mQ<Qt43nQ<Qt43pQ0@43q",
   "QdRt43rQ<Qt43sQ<Qt44tQ0t43vQ0d42wQnRd42xQ0t44yQ0t43zQ0d42+Q0t43@QfRt44*Q0t44=Q0t43<Q0t43>Q0t43^Q",
   "0t43~Q0t43:QfRt43;Q0t43,Q0t44.QfRt44cR0t44dR0t44fR0t44gR0t43hRdRt43jRdRt43kRdR@43lRfRt43mRfRt44n",
   "R0t44pR0t44qR0d42rR0t44sR0t44tR0d42vR0t44wR0t43xR0t44yR0t44zR0t44+R0t44@R0t44*R0t44=R0d42<R0t44>",
   "R0t43^R0t44~R0t44:R0t43;R0t43,R0t43.RdRt44cS0t43dSfRt44fS0t44gS0t44hS0t44jS0t43kSdRt44lS0t44mS0t",
   "44nS0@43pS0t43qS0t44rS0t44sS0t44tS0t43vSfRt43wSfRt44xS0t44yS0t43zS0t43+S0t43@S0t43*S0t43=S0t43<S",
   "0t43>SfRt44^S0t44~S0t43:S0t43;S0t43,S0t44.S0@43cT0@43dT0t44fT0t43gT0t43hT0@43jT0@43kT0t43lT0n52m",
   "TqRt43nT0t43pT0t43qT0t43rT0t43sT0t43tT0t43vT0t43wT0t43xT0n52yTrRn52zTsRn52+TtRn52@TvRn52*TwRt44=",
   "T0t44<T0t44>T0t43^T0t43~T0t44:T0t43;T0t43,T0@43.T0t43cV0t43dV0t43fV0t43gV0t43hV0t44jV0t43kV0t43l",
   "V0t43mV0t43nV0t43pV0t43qV0t43rV0t43sV0t43tV0t43vV0n52wVxRn52xVxRn52yVxRt43zV0t43+V0n52@VxRn52*Vx",
   "Rn52=VxRn52<VxRn52>VxRn52^VxRn52~VxRn52:VxRn52;VxRn52,VxRn52.VxRn52cWxRn52dWxRn52fWxRn52gWxRt43h",
   "W0t43jW0t43kW0t43lW0t43mW0t43nW0t43pW0t43qW0t43rW0t43sW0t43tW0t43vW0t43wW0t43xW0t43yW0t43zW0t43+",
   "W0t43@W0t43*W0t43=W0t43<W0t43>W0t43^W0t43~W0t43:W0t43;W0t43,W0t43.W0t43cX0n52dXyRn52dXxRn52dXzRn",
   "52dX+Rn52dX@Rn52dX*Rn52dX=Rn52fX<Rn52gX>Rn52hX>Rd45jX^Rd45kX~Rd45lX~Rn52mX:Rn52nX>Rd45pX~Rn52qX;",
   "Rn52rX>Rd45sX~Rn52tX,Rn52vX>Rn52wX.Rn52xX>Rd42yXcS=43zXdSd42+XfSd42@XfSd42*XfSd42=XfSd42<XfS=44>",
   "X0=44^X0d45~XgSd45:XgS=43;XhS=43,XjS=43.XkS=43cYlSd42dYmS=43fYnS=43gY0=43hY0=43jY0=44kY0=43lY0=4",
   "3mY0=43nY0=43pYlS=43qYpS=43rYqS=43sY0=43tY0=43vY0=43wY0=43xYrS=43yYsS=43zYtS=43+Y0=43@Y0=43*Y0=4",
   "3=Y0=43<Y0=43>Y0=43^Y0=43~Y0=43:Y0=44;YvS=44,YvS=44.YvS=43cZ0=43dZ0=43fZ0=43gZwS=43hZwS=43jZwS=4",
   "4kZ0=43lZ0=43mZ0=43nZ0=43pZ0=43qZ0=43rZ0=43sZ0=43nZ0=43tZ0=43vZ0=43wZ0=43xZ0=43yZ0=43zZ0=43+Z0=4",
   "3@Z0=43*Z0=43=Z0=43<Z0=43>Z0=43^Z0=43~Z0=43:Z0=43;Z0=43,Z0=43.Z0=43cb0=43db0=43fb0=43gb0=43hb0=4",
   "3jb0=43kb0=43lb0=43mb0=43nb0=43pb0=43qb0=43rb0=43sb0=43tb0=43vb0=43wb0=43xb0=43yb0=43zb0=43+b0=4",
   "3@b0=43*b0=43=b0=43<b0=43>b0=43^b0=43>b0=43^b0=43~b0=43:b0=43~b0=43:b0=43;b0=43,b0=43;b0=43,b0=4",
   "3.b0=43cc10=43dc10=43fc10=43gc10=43hc10=43jc10=43kc10=43lc10=43lc10=43lc10=43mc10=43mc10=43mc10=",
   "43nc10=43nc10=43nc10=43pc10=43qc10=43rc10=43sc10=43tc10=43vc10=43vc10=43vc10=43wc10=43wc10=43wc1",
   "0=43xc10=43xc10=43xc10=43yc10=43zc10=43+c10=43@c10=43*c10=44=c10=43<c10=44>c1xSd45^c1yS=43~c10=4",
   "3:c10=43;c1zS=43,c1zS=43.c1zS=43cd10=43dd10=43fd1zS=43gd10=43hd10=43jd10=43hd10=43kd10=43ld10=43",
   "md1zS=43nd1zS=43pd10=43qd10=43rd1zS=43sd10=43td10=43vd10=43wd10=43xd10=43yd10=43zd10=43+d10=43@d",
   "10=43*d1zS=43=d10=43<d1zS=43>d1zS=43^d10=43~d1zS=43:d1zS=43;d1zS=43,d1zS=43.d1zS=43cf1zS=43df1zS",
   "=43ff1zS=43gf1zS=43hf10=43jf10=43kf1zS=43lf1zS=43mf10=43nf10=43pf10=43qf10=43rf1zS=43sf1zS=43vd1",
   "0=43tf10=43vf10=43wf10=43xf10=43yf10=43zf10=43+f10=43@f1zS=43*f10=43=f10=43<f1zS=43>f10=43^f1zS=",
   "43~f10=43:f10=43;f1zS=43,f1zS=43.f10=43cg10=43dg10=43fg10=43gg10d45hg1+S=43jg10=43kg10=43lg10=43",
   "mg10=43ng10=43pg10=43qg10=43rg10=43sg10=43tg10=43vg10=43wg10=43xg10=43yg1zS=43zg10=43+g10=43@g10",
   "=43*g10=43=g10=43<g10=43>g10=43^g10=43~g10=43:g10=43;g10d45,g1+S=43.g10=43ch10=43dh10=44fh10=44g",
   "h10=43hh10=43jh10=43kh10d45lh1+Sd45mh1+S=44nh10d45ph1@Sd45qh1*Sd45rh1=S=44sh10d45th1<Sd45vh1>S=4",
   "3wh10=43xh10=44yh10=44zh10=43+h10=43@h1zS=43*h10=44=h10=44<h1^S=44>h1~S=44^h1:Sd45~h1;Sd45:h1,S=",
   "44;h10=44,h10=44.h10=44cj1.Sd45dj1;Sd45fj1,Sd45gj1;Sd45hj1,Sd45jj1;Sd45kj1,S=44lj1cT=44mj1dT=43n",
   "j10=43pj1fT=44qj1dT=44rj1dT=44sj1dT=44tj1dT=44vj1dT=44wj1dT=44xj1dT=44yj1dT=44zj1dT=44+j10=44@j1",
   "dT=44*j1dT=44=j1dT=44<j1dT=44>j1dT=44^j1dT=44~j1dT=44:j1dT=44;j1dT=44,j1dT=44.j1dT=44ck1dT=44dk1",
   "dTd45fk1gT=44gk1dT=44hk1dT=44jk1dT=44kk1dT=44lk1dT=44mk10=44nk10d45pk1<S=44qk10d45rk1hT=44sk10=4",
   "4tk1dTd45vk1jT=43wk10=43xk10=43yk10=44zk10=44+k1.S=44@k1kT=44*k1lT=53=k10=44<k10d45>k1;S=44^k10=",
   "44~k10d45:k1;S=43;k10=44,k10=43.k10=43cl10=43dl10=43fl10=44gl10=43hl10=43jl10=44kl10=44ll10=43ml",
   "1mTd45nl1;S=43pl1nTd45ql1;S=43rl1pT=44sl1dT=44tl1dT=44vl1dT=44wl1dT=44xl1dT=44yl1dT=44zl1dT=44+l",
   "1dT=44@l1dT=44*l1dT=44=l1dT=44<l1dT=44>l1dT=44^l1dT=44~l1dT=44:l1dT=44;l1dT=44,l1dT=44.l1dT=44cm",
   "1dT=44dm1dT=44fm1dT=44gm1dT=44hm1dT=44jm1dT=44km1dT=44lm1dT=44mm1dT=44nm1dT=44pm1qT=44qm1rTd42rm",
   "1sT=44sm1qT=44tm1qT=44vm10=44wm1tT=44xm10=43ym1zS=44zm10d42+m1lJd45@m1vTd45*m10=44=m1wT=44<m10=4",
   "4>m10=44^m10=44~m10=44:m10=44;m10=44,m1dT=44.m1dT=44cn1dT=44dn1dTd45fn1xTd45gn1yTd45hn1zTd45jn1+",
   "Td45kn1@T=43ln10=43mn10=44nn10=44pn10=44qn10=44rn10d45sn1*Td45tn1=Td45vn1<T=43wn10d45xn1>Td45yn1",
   "^Td45zn1~T=44+n10=44@n1dT=44*n10d42=n1mJ=44<n10=44>n10=44^n10=44~n10=44:n10=44;n10=44,n10=44^n10",
   "=44.n10=44cp10=44dp10=44fp10=43gp10=43hp10=44jp10=44kp10=44lp10=44mp10=44np10=44pp10=44qp10=44rp",
   "10=44sp10=44tp10=44vp10=44wp10=44xp10=44yp10=44zp10=44+p10=44@p10=44*p10=44=p10=44<p10=44>p10=44",
   "^p10=44~p10=44:p10=44;p10=44,p10=44.p10=44cq10=44dq10=44fq10=44gq10=44hq10=44jq10=44kq10=44lq10=",
   "44mq10=44nq10=44pq10=44qq10=44rq10=44sq10=44tq10=44vq10=44tq10=44vq10=44wq10=44xq10=44wq10=44xq1",
   "0=44yq10=44zq10=44yq10=44zq10=44+q10=44@q10=44*q10=44=q10=44<q10=44>q10=44^q10=44~q10=44:q10=44;",
   "q10=44;q10=44;q10=44,q10=44,q10=44,q10=44.q10=44.q10=44.q10=44cr10=44dr10=44fr10=44gr10=44hr10=4",
   "4jr10=44jr10=44jr10=44kr10=44kr10=44kr10=44lr10=44lr10=44lr10=44mr10=44nr10=44pr10d42qr1mJ=43rr1",
   "0=44sr1dT=43tr10=43vr10=44wr10=44xr10=44yr10d42zr1mJ=43+r10=44@r10=44*r10=43=r10d42<r1mJ=43>r10=",
   "43^r10=44~r10=44:r10d42;r1mJ=43,r10=43.r10=44cs10=44ds10=44fs10=44gs10d42hs1:T=44js10=43ks1zS=43",
   "ls1zS=43ms1zS=43ns1zS=43ps1zS=43qs1zS=43rs1zS=43ss1zS=43ts1zS=43vs1zS=43ws1zS=43xs1zS=43ys1zS=43",
   "zs1zS=43+s1zS=43@s1zS=43*s1zS=43=s1zS=43<s1zS=43>s1zS=43^s1zS=43~s1zS=43:s1zS=43;s1zS=43,s1zS=43",
   ".s1zS=43ct1zS=43dt1zS=43ft1zS=44gt10=44ht10=44jt10=44kt10=43lt10=43mt1;T=44nt10=44pt10=44qt10=44",
   "rt10=44st10=44rt10=44tt10=44vt1dT=44wt10=44xt10=43yt1;Td42zt1,T=44+t10d42@t1nJd42*t1nJ=43=t1.T=4",
   "3<t10=43<t10=43>t1zS=44^t10d45~t1cV=43:t1dV=44;t10=44,t10=44.t10=44cv10=54dv10=44fv10=44gv10=43h",
   "v1.T=44jv10=44kv10=43lv1fV=44mv10=44nv1dT=43pv1.T=44qv10=43rv1.T=44sv10=44tv10=44vv10=44;t10d42w",
   "v1gV=44xv10=44yv10=44zv10=44+v10=44@v1dT=43*v1.T=43=v10=43=v10=43=v10=43=v10=44<v10=43>v1zSd45^v",
   "1hVd45~v1yTd45:v1jVd45;v1kVd45,v1lV=44.v10=44cw10=44dw10=44fw10=44gw10=44hw10=44jw10=44kw10=44lw",
   "10=44mw10=44nw10=44pw10=43qw1.T=44rw10=44sw10=44tw10=44vw10=44ww10=44xw10=44yw10=44zw10=44+w10=4",
   "3@w1.T=43*w1.T=43=w1.T=43<w1.T=43>w1.T=43^w10=43^w10=43^w10=43^w10d45~w1mVd45:w1nVd45;w1pVd45,w1",
   "qVd45.w1rVd45cx1sV=43dx10=44fx10=44gx10=44hx10d45jx1>Td45kx1tV=44lx10=44mx10=44nx10=44px10=44qx1",
   "0=44rx10=43sx1.T=43tx1.T=43vx1.T=43wx10d45xx1vVd45yx1wVd45zx1xVd45+x1yVd45@x1zVd45*x1+Vd45=x1@Vd",
   "45<x1*V=44>x10=44^x10=43~x1.T=43:x1.T=43;x1.T=43,x1.Td45.x1=Vd45cy1<Vd45dy1>Vd45fy1^Vd45gy1~Vd45",
   "hy1:V=43jy10d45ky1;Vd42ly1pJd42my1pJ=44ny10d45py1,V=43qy1zS=44ry10=44sy10=44ty10=44vy10d45wy1.V=",
   "44xy10=43yy10=44zy10=44+y10=44@y10=44*y10d45=y1cW=44<y10=44>y10d42^y1pJd42~y1pJ=44:y10=43;y10=44",
   ",y10=44.y10=43cz10=44dz10=43fz10=43gz10=43hz10=44jz10=44kz10=44lz10=44mz10=44nz10=44pz10=44qz10=",
   "44rz10d42sz1pJd42tz1pJ=54vz10=44wz10d42xz1pJd42yz1pJ=43zz10=43+z10d42@z1pJd42*z1pJd45=z1rJd45<z1",
   "rJ=44>z10=44^z10d45~z1sJd45:z1sJ=43;z10=43,z10d45.z1sJd45c+1sJd45d+1sJd45f+1sJd45g+1sJd45h+1sJ=4",
   "3j+1dW=44k+1dT=44l+1dT=44m+1dT=44n+1dT=44p+1dT=44q+1dT=43r+1fW=44s+1dT=43t+1.T=44v+1dT=44w+1dT=4",
   "4x+1dT=44y+1dT=44z+1dT=44++1dT=44@+1dT=44*+1dT=44=+1dT=44<+1dT=43>+1.T=44^+1dT=44~+1dT=44:+1dT=4",
   "4;+1dT=44,+1dT=44.+1dT=44c@1dT=43d@1.T=44f@1dT=43g@1gW=43h@1hW=43j@1jW=43k@1kW=43l@1lW=44m@1dT=4",
   "4n@1dT=44p@1dT=44q@1dTd45r@1mW=43s@1.Td45t@1nW=43v@1.T=43w@1.Td45x@1pW=43y@1.Td45z@1qW=43+@1zS=4",
   "3@@1zS=43*@1zS=43=@1zS=43<@1zS=43>@1zS=43^@1zS=43~@1zS=43:@1zS=43;@1zS=43,@1zS=43.@1zS=43c*1zS=4",
   "3d*1zS=43f*1zS=43g*1zS=43h*1zS=43j*1zS=43k*1zS=43l*1zS=43m*1zS=43n*1zS=43p*1zS=43q*1zS=43r*1zS=4",
   "3s*1zS=43t*1zS=43v*1zS=43w*1zS=43x*1.T=43y*1.T=43z*10=43+*10=43@*1.T=43**1.T=43=*1.T=43<*1.T=44>",
   "*10=43^*1.T=43~*1.T=43:*1.T=43;*1.T=44,*1dTd42.*1rW=43c=10d42d=1sWd42f=1nJ=43g=10d45h=1cVd42j=1t",
   "W=43k=1zSd45l=1vWd45m=1wWd45n=1jVd45p=1kV=44q=1dTd42r=1xW=43s=1zS=43t=1zSd45v=1yW=44w=1dT=44x=10",
   "d45y=1;Vd45z=10d42+=1pJd45@=1,Vd45*=1hVd45==1.Vd45<=1mVd45>=1zWd45^=1rVd45~=1cWd45:=1vVd45;=1+Vd",
   "45,=1=Vd45.=1>Vd45c<1:V=44d<10d42f<1pJ=53g<10d42h<1pJ=43j<10=44k<10=44l<10=43m<10=43n<10=43p<10d",
   "42q<1pJ=44r<10=43s<10=43t<10=43v<10d42w<1pJ=44x<10=44y<10=43z<10=43+<10=43@<10=44*<1dT=44=<1dTd4",
   "5<<1mWd45><1nWd45^<1pWd45~<1qW=43:<1zS=43;<1zS=43,<1zS=43.<1zS=43c>1zS=43d>1zS=43f>1zS=43g>1zS=4",
   "3h>1zS=43j>1zS=43k>1zS=43l>1zS=43m>1zS=43n>1zS=43p>1zS=43q>1zS=43r>1zS=43s>1zS=43t>1zS=43v>1zS=4",
   "3w>1zS=43x>1zS=43y>1zS=43z>1zS=43+>1zS=43@>1zS=43*>1zS=43=>1zS=43<>1zS=43>>1zS=43^>1zS=43~>1zS=4",
   "3:>1zS=43;>1zS=43,>1zS=43.>1zS=43c^1zS=43d^1zS=43f^1zS=43g^1zS=43h^1zS=43j^1zS=43k^1zS=43l^1zS=4",
   "3m^1zS=43n^1zS=43p^1zS=43q^1zS=43r^1zS=43s^1zS=43t^1zS=43v^1zS=43w^1zS=43x^1zS=43y^1zS=43z^1zS=4",
   "3+^1zS=43@^1zS=43*^10=43=^10=43<^10d42>^1+Wd42^^1+W=43~^1zS=43:^1zSd42;^1rW=43,^10d45.^1gTd45c~1",
   "vW=43d~1sSd42f~1@Wd42g~1@W=43h~10=43j~10=43k~10d45l~1*Wd45m~1yWd45n~1=Wd45p~1<W=43q~10=43r~10=43",
   "s~10d45t~1>Wd45v~1^Wd45w~1~Wd45x~1:W=43y~10d45z~10d45+~10=43@~10=43*~10=43=~1zS=43<~10=43>~10=43",
   "^~10d42~~10=43:~10d42;~10=43,~10d42.~10=43c:10=43d:10=43f:10=43g:10=43h:1zS=43j:1zS=43k:1zS=43l:",
   "1zS=43m:1zS=43n:1zS=43p:1zS=43q:1zS=43r:1zS=43s:1zS=43t:1zS=43v:1zS=43w:1zS=43x:1zS=43y:1zS=43z:",
   "1zS=43+:1zS=43@:1zS=43*:1zS=43=:1zS=43<:1zS=43>:1zS=43^:1zS=43~:1zS=43::1zS=43;:1zS=43,:1zS=43.:",
   "1zS=43c;1zS=43d;1zS=43f;1zS=43g;1zS=43h;1zS=43j;1zS=43k;1zS=43l;1zS=44m;10=43n;1zS=43p;1zS=43q;1",
   "zS=43r;10=43s;1;Wd42t;1+Wd42v;1r"]

private def tsxPart13 : List String :=
  ["Jd42w;1rJd42x;1+Wd42y;1+Wd42z;1@Wd45+;1,Wd45@;1.Wd45*;1cXd45=;1dXd45<;1fXd45>;1gXd45^;1hXd45~;1j",
   "Xd45:;1kXd45;;1lXd45,;1mXd45.;1nXd45c,1pXd45d,1qXd45f,1rXd45g,1sXd42h,1sJd42j,1sJd42k,1sJd42l,1s",
   "Jd42m,1sJd42n,1sJd42p,1sJd42q,1sJ=53r,10d42s,1sJd42t,1sJ=43v,1zS=43w,10=43x,10=43y,10=43z,10n55+",
   ",10d42@,1+Wn55*,10d42=,1tXn55<,10n55>,10n55^,10n55~,10n55:,10n55;,10n55,,10n55.,10n55c.10n55d.10",
   "n55f.10n55g.10n55h.10n55j.10n55k.10n55l.10n55m.10n55n.10n55p.10=43q.10=43r.1rTn55s.10=43t.10=43v",
   ".10=43w.10=43x.10=43y.10=43z.10=43+.10d42@.10d42*.10d42=.1vXn52<.10n52>.10d42^.1wXd42~.1wXn52:.1",
   "0n52:.10n52;.10n52,.10=43..1tTd42cc2xXd42dc2xXd42fc2xXd42gc2yXd42hc2zXd42jc2zXd42kc20d42lc20d42m",
   "c2+Xd42nc2@Xd42pc2@Xd42qc2*Xd42rc20d42sc2xXd42tc2zXd42vc2hVd42wc2gTd42xc2@Xd42yc2mVd42zc2zWd42+c",
   "2=Xd42@c2rVd42*c2*Xd42=c2vVd42<c2<Xd42>c2+Vd42^c2>Xd42~c2=Vd42:c2>Vd42;c2^Xd42,c2:Vd42.c2~Xd42cd",
   "2:Xd42dd2mWd42fd2nWd42gd2pWd42hd2qWd42jd2;Xd42kd2;Vd42ld2,Vd42md2.Vd42nd2cWd42pd2,Xd42qd2qJd42rd",
   "2rWd42sd2.Xd42td2cYd42vd2dYd42wd2fYd42xd2@Td42yd2jTd42zd2gYd42+d2gYd42@d2gYd42*d2gYd42=d2tJd42<d",
   "2.Xd42>d2hYd42^d2gYd42~d2gYd42:d2gYd42;d2gYd42,d2jYd42.d2qJd42cf2.Xd42df2+Wd42ff20d42gf2xXd42hf2",
   "vTd42jf2zXd42kf2yTd42lf2wWd42mf2kYd42nf2lVd42pf2^Td42qf2nVd42rf2zWd42sf2lYd42tf2mYd42vf2sVd42wf2",
   "tVd42xf2nYd42yf2@Vd42zf2*Vd42+f2gYd42@f20d42*f20d42=f20d42<f20d42>f20d42^f2+Wd42~f2xXd42:f2cVd42",
   ";f2pYd42,f2zXd42.f2hVd42cg2vWd42dg2vWd42fg2wWd42gg2qYd42hg2rYd42jg2kVd42kg2@Xd42lg2mVd42mg2yWd42",
   "ng2yWd42pg2zWd42qg2sYd42rg2tYd42sg2vYd42tg2wYd42vg2xYd42wg2yYd42xg2rVd42yg2*Xd42zg2vVd42+g2.Wd42",
   "@g2.Wd42*g2<Xd42=g2zYd42<g2+Yd42>g2@Yd42^g2*Yd42~g2=Yd42:g2<Yd42;g2>Yd42,g2^Yd42.g2~Yd42ch2+Vd42",
   "dh2>Xd42fh2=Vd42gh2:Yd42hh2;Yd42jh2,Yd42kh2.Yd42lh2>Vd42mh2^Xd42nh2:Vd42ph2~Xd42qh2>Td42rh2mWd42",
   "sh2nWd42th2pWd42vh2qWd42wh2;Xd42xh2jVd42yh2;Vd42zh2,Vd42+h2.Vd42@h2cWd42*h2,Xd42=h2cZz52<h2dRz52",
   ">h2dZz52^h2fZz52~h20z52:h20z52;h20z52,h20z52;h20z52,h20z52.h20z52cj20z52.h20z52cj20z52dj20z52fj2",
   "0z52dj20z52fj20z52gj20z52hj20z52hj20z52hj20z52jj20z52jj20z52jj20z52kj20z52kj20z52kj20z52lj20z52m",
   "j20z52mj20z52mj20z52nj20z52nj20z52nj20z52pj20z52pj20z52pj20,52qj2gZd42rj2fR,52sj2hZz52tj2jZd42vj",
   "2kZd42wj2fRz52xj20z52yj20z52zj20z52+j20z52@j20d42*j20d42=j20d42<j20d42>j20d42^j20d42~j20d42:j20d",
   "42;j20d45,j20d45.j20z55ck2gRz55dk2lZz55fk2mZd42gk20d42hk2nZd42jk20d42kk20d42lk20d42mk20d42nk20d4",
   "2pk20d42qk20t42rk20d42sk20d42tk20d42vk20d42wk20d42xk20d42yk20d42vk20d42zk20d42+k20d42@k20d42*k20",
   "d42=k20d42<k20d42>k20d42^k20d42~k20d42:k20d42;k20d42,k20d42.k20d42cl20d42dl20d42fl20d42gl20d42hl",
   "20d42jl20d42kl2pZd42ll2qZd42ml2rZd42nl2sZd42pl20d42ql20d42rl20d42sl20d42tl20d42vl20d42wl20d42xl2",
   "0z55yl20z55zl20z55+l20z55@l20z55+l20z55@l20z55*l20z55=l20z55*l20z55=l20z55<l20z55>l20z55<l20z55>",
   "l20z55^l20z55~l20z55~l20z55~l20z55:l20z55:l20z55:l20z55;l20z55;l20z55;l20z55,l20z55.l20z55.l20z5",
   "5.l20z55cm20z55cm20z55cm20z55dm20z55dm20z55dm20d45fm2mRz56gm2tZz56hm2vZz56jm2wZt42km20d42lm2xZd4",
   "2mm2yZd42nm2zZd42pm2+Zt42qm20d42rm2@Zd42sm2*Zd42tm2=Zd42vm2<Zt42wm20d42xm2>Zd42ym2^Zd42zm2~Zd42+",
   "m2:Zt42@m20d42*m2;Zd42=m2,Zd42<m2.Zd42>m2cbt42^m20t42~m20t42:m20t42;m20d42,m2dbd45.m2fbd42cn20d4",
   "2dn2gbd42fn20d45gn2hbd45hn2jbd45jn2kb,52kn2fRd45ln2lbd42mn20d45nn2mbd45pn2nbd45qn2pbd45rn2qbd45s",
   "n2rbd45tn2sbd45vn2tbd45wn2vbd45xn2wbd45yn2xbd45zn2ybd45+n2zbd45@n2+bd45*n2@bd45=n2*bd45<n2=bd45>",
   "n2<bd45^n2>bd45~n2^bd45:n2~bd45;n2mRd45,n2:bd45.n2~bd42cp2;bd45dp2~bd42fp2,bd45gp2~bd42hp2.bd42j",
   "p2cc1d42kp2dc1d42lp2fc1,52mp2gc1d45np2hc1d42pp20d42qp20d42rp20d45sp2jc1d45tp2kc1d42vp20d42wp20d4",
   "5xp2lc1d42yp20d42zp20d45+p2mc1d42@p20d42*p20d45=p2nc1d45<p2pc1d45>p2qc1d45^p2rc1d45~p2sc1d42:p20",
   "d46;p2tc1d45,p2:bd45.p2vc1z55cq20z55dq20z55fq20z55gq20z55hq20d45jq20d45kq20d45lq20d45mq20d45nq20",
   "d45pq20d45qq20d45rq20z55sq20z55tq20z55vq20z56wq20z56xq20z56yq20z56zq20z56yq20z56zq20z56+q20z56@q",
   "20z56+q20z56@q20z56*q20z56=q20z56*q20z56=q20z56<q20z56>q20z56>q20z56>q20z56^q20z56^q20z56^q20z56",
   "~q20z56~q20z56~q20z56:q20z56;q20z56;q20z56;q20z56,q20z56,q20z56,q20z56.q20z56.q20z56.q20,52cr2wc",
   "1d42dr2xc1d42fr2db,52gr2yc1d42hr2nZd45jr2zc1d42kr2lRd45lr2+c1d45mr2@c1d45nr2*c1d45pr2=c1d45qr2<c",
   "1d45pr2>c1d45rr2^c1d45sr2~c1d45tr2:c1d45tr2;c1d45tr2,c1d45tr2.c1d45vr2cd1d45vr2dd1d45wr2fd1d45xr",
   "2gd1d45xr2hd1d45xr2jd1d45xr2kd1d45xr2ld1d45xr2md1d45yr2nd1d45yr2pd1d45zr2qd1d45+r2rd1d45+r2sd1d4",
   "5+r2td1d45+r2vd1d45@r2wd1d45@r2xd1d45*r2yd1d45=r2zd1d45=r2+d1d45<r20d45>r20d45^r20d45~r20d45:r20",
   "d45;r20d45,r20d45.r20d45cs20d45ds20d45fs20d46gs2tc1d46hs2@d1d45js2rJd45ks2sJd45ls2sJd45ms2sJd45n",
   "s2sJ,52ps2*d1d42qs2sS,52rs2=d1,52ss2<d1z52ts2dRz52vs2dZz52ws2fZh67xs2>d1d42ys2^d1h67zs2~d1d42+s2",
   ":d1d42@s2;d1d45*s2<c1d42=s2;d1d45<s20d45>s20d45^s20d45~s2sSd45:s20d45;s20d45,s20d45.s20d45ct20d4",
   "5dt20d45,s20d46ft2@d1d45gt20d45ht20d45jt20d45kt20d45lt20d45mt20d45nt20d45pt20d45qt20d45rt20d45st",
   "20d45tt20d45vt20d45wt20d45xt20d45yt20d45zt20d45+t20d45@t20d45*t20d45=t20d45<t20d45>t20d45^t20d45",
   "~t20d45:t20d45;t20d45,t20d45.t20d45cv20d45dv20d45fv20d45gv20d45hv20d45jv20d45kv20d45lv20d45mv20d",
   "45nv20d45pv20d45qv20d45rv20d46sv2,d1z56tv20z56vv20z56wv20z56xv20z56yv20z56zv20z56+v20d46@v20d46*",
   "v20d46=v20d46<v20d46>v20d46^v20z56~v20d46:v20d46;v20h67,v2.d1h67.v2cf1h67cw2df1h67dw2ff1h67fw2gf",
   "1h67gw2hf1d42hw2fRd42jw2jf1d42kw2jf1,52lw2kf1d42mw2lf1d42nw2lf1d42pw2mf1h67qw2nf1d42rw20d42sw2pf",
   "1d45tw2qf1d45vw2rf1d42ww2pf1d42xw2;d1d45yw20d46zw20d45+w20d46@w20d46*w20d45=w2sf1d45<w2tf1d46>w2",
   "0d46^w20d46~w20d46:w20d46;w20d42,w2vf1,52.w2wf1d42cx2xf1,52dx2yf1,52fx2zf1d42gx2jf1d42hx2lf1d42j",
   "x2nZd42kx2fRd42lx2jf1d42mx2lf1d42nx2+f1,52px2kf1d42qx2@f1d42rx20d42sx2rJd42tx2*f1d42vx20,52wx2=f",
   "1,52xx2<f1,52yx2>f1,52zx2=f1d42+x2^f1d42@x20d42nx2~f1d42qx2:f1d42*x20d42=x20d42tx2;f1d45<x2qf1d4",
   "5>x2rf1d42^x2,f1d42~x20d45:x2.f1d42;x2cg1d42;x2dg1,52,x2=f1,52.x2=f1,52cy2=f1d42+x2fg1d45dy2gg1d",
   "45fy2hg1d45gy2jg1d45hy2kg1d42jy2pf1d45ky2lg1d45ly2mg1d45my2ng1d45ny2pg1d45py2qg1d45qy2rg1d45ry2s",
   "g1d45sy2tg1d45ty2vg1d45vy2wg1d45wy2xg1d45xy2yg1d45yy2zg1d45zy2+g1d45+y2@g1d45@y2*g1d45*y2=g1d45=",
   "y2<g1d45<y2>g1d45>y2^g1d45^y2~g1d45~y2:g1d45:y2;g1d45;y2,g1d45,y2.g1d45.y2ch1d45cz2dh1d45dz2fh1d",
   "45fz2gh1d45gz2hh1d45hz2jh1d45jz2kh1d45kz2lh1d45lz2mh1d45mz2nh1d45nz2ph1d45pz2qh1d45qz2rh1d45rz2s",
   "h1d45sz2th1d45tz2vh1d45vz2wh1d45wz2xh1d45xz2yh1d46yz2zh1d46zz2+h1d42+z2sJd46@z20d46*z20d46=z20d4",
   "2<z2sJd46>z20d42^z2sJd42~z2sJd46:z20d46;z20d46,z20d46.z20d46c+20d46d+20d46,z20d46f+20d46g+20d46h",
   "+20d46j+20d46k+20d46l+20d46m+20d46n+20d46p+20d46q+20d46r+20d46s+20d46t+20d46v+20d46w+20d46x+20d4",
   "6y+20d46z+20d46++20d46@+20d46*+20d46=+20d46<+20d46>+20d46^+20d46~+20d46:+20d46;+20d46,+20d46.+20",
   "d46c@20d46d@20d46f@20d46g@20d46h@20d46j@20d46k@20d46l@20d46m@20d46n@20d46p@20d46q@20d46r@20d42s@",
   "2sJd46t@20d42tx2@h1,52v@2wf1d42qx2*h1d42^x2=h1,52w@2=f1,52x@2<h1,52y@2>h1,52z@2=f1d42qx2^h1d42tx",
   "2~h1d42qx2:h1d42^x2;h1,52+@2=f1,52@@2=f1d42qx2,h1d42tx2.h1,52*@2yf1,52=@2=f1,52<@2cj1,52>@2dj1,5",
   "2^@2=f1d42tx2fj1,52~@2=f1,52:@2=f1,52;@2zf1,52,@2=f1,52.@2gj1,52c*2hj1,52d*2=f1,52f*2=f1,52g*2=f",
   "1d42h*2nZd42j*2:Qt52k*2jj1d45l*2rf1d42m*2:d1d42n*2kj1h68p*2lj1,52q*2mj1d42r*2tT,52q*2nj1,52q*2pj",
   "1,52q*2qj1d45s*20d45t*20d45v*20,52q*2rj1,52q*2sj1,52q*2tj1,52q*2vj1,52q*2wj1,52w*20,52x*20d46y*2",
   "0d45z*2xj1d45+*2xj1d42@*20d42**20z52=*20z52<*20z52>*20t52^*2yj1d42~*2zj1h68:*2+j1d42;*2@j1h68,*2",
   "+j1d42.*2*j1h68c=2+j1d42d=2=j1h68f=2+j1h68g=2lj1h68h=2+j1h68j=2<j1d42k=2hRd42l=20d42m=2>j1d42n=2",
   "0d42p=20d42q=2^j1d42r=2~j1z52s=2:j1d42q=2:Qd42t=2;j1d42v=2~j1d45w=2rf1d42x=20d42y=20d42z=2,j1d42",
   "+=2.j1d42@=2ck1d42*=2;Qz42==2dk1d42<=2fk1d42>=20d42^=2ck1d45~=20d45:=20d42q=2gk1d42;=2hk1d42,=2c",
   "Rd42.=2jk1d42c<2kk1d42d<2lk1,52f<20z52g<2mk1d42+=2nk1d42h<2pk1d42j<2;j1d42+=2qk1d45k<20d42l<2rk1",
   "d45m<2sk1d42n<2tk1z42p<2vk1z52q<2wk1d42c<2xk1d42h<2yk1d42r<2wXd42s<20d42+=2zk1d42l<2+k1d45t<2@k1",
   "d45t<2*k1d45v<2=k1d42n<2<k1d45w<2>k1d45w<2^k1d45w<2~k1d45w<2:k1d45w<2;k1d45w<2,k1d45w<2.k1d45w<2",
   "cl1d45w<2dl1d45w<2fl1d45w<2gl1d45x<2hl1d45y<2jl1d45z<2kl1d45z<2ll1d45z<2ml1d45z<2nl1d45z<2pl1d45",
   "z<2ql1d45z<2rl1d45z<2sl1d45z<2tl1d45z<2vl1d45z<2wl1d45z<2xl1d45z<2yl1d45z<2zl1d45z<2+l1d45z<2@l1",
   "d45z<2*l1d45z<2=l1d45z<2<l1d45z<2>l1d45z<2^l1d45z<2~l1d45z<2:l1d45z<2;l1d45z<2,l1d45z<2.l1d45z<2",
   "cm1d45z<2dm1d45z<2fm1d45+<2gm1d45@<2hm1d45@<2jm1d45@<2km1d45@<2lm1d45@<2mm1d45@<2nm1d45@<2pm1d45",
   "@<2qm1d45@<2rm1d45@<2sm1d45@<2tm1d45@<2vm1d45@<2wm1d45@<2xm1d45@<2ym1d45@<2zm1d45@<2+m1d45@<2@m1",
   "d45@<2*m1d45@<2=m1d45@<2<m1d45@<2>m1d45@<2^m1d45@<2~m1d45@<2:m1d45@<2;m1d45@<2,m1d45@<2.m1d45@<2",
   "cn1d45@<2dn1d45@<2fn1d45@<2gn1d45@<2hn1d45@<2jn1d45@<2kn1d45@<2ln1d45@<2mn1d45@<2nn1d45@<2pn1d45",
   "*<2qn1d45*<2rn1d45*<2sn1d45*<2tn1d45*<2vn1d45*<2wn1d45*<2xn1d45*<2yn1d45*<2zn1d45*<2+n1d45*<2@n1",
   "d45*<2*n1d45*<2=n1d45*<2<n1d45*<2>n1d45*<2^n1d45*<2~n1d45*<2:n1d45*<2;n1d45*<2,n1d45*<2.n1d45*<2",
   "cp1d45*<2dp1d45*<2fp1d45=<2gp1d45=<2hp1d45=<2jp1d45=<2kp1d42<<2lp1d45><20d45^<20d42~<2lp1d45:<20",
   "d45;<20d45,<20d45.<2mp1d45c>2np1d45d>2pp1d45f>2qp1d45g>2rp1d45h>2sp1d45j>2tp1d45k>2vp1d45l>2wp1d",
   "45m>2xp1d45n>2yp1d45p>2zp1d45q>2+p1d45r>2@p1d45s>20d45t>20d45v>20d45w>20d45x>2xj1d45y>20d45z>20z",
   "52+>2*p1d42l<2=p1d42@>2jRz42*>2<p1d42=>2>p1d42+=2^p1z52<>2~p1d42l<2:p1d42h<2;p1d42l<2,p1d42h<2.p",
   "1z52>>2cq1d42^>20d42+=2dq1d42h<2fq1d42l<2gq1d42h<2hq1d42+=2jq1z52<>2kq1z52>>2lq1d42+=2mq1z52~>2k",
   "q1z52q<2nq1z52:>2pq1z52>>2qq1z52;>2rq1z52,>2sq1z52.>2tq1d42q=2vq1d42q=2hRd42c^2wq1d42d^2xq1d42f^",
   "20d42g^20d42h^20d42j^20d42k^20d42l^20d42m^20d42n^20d42p^20z52q^2~p1d42r^2~j1d42s^20d42t^2ck1d42v",
   "^2.Qd42w^20d42x^20d42y^20d42z^20d42+^2~j1d42@^2ck1h68*^2yq1d42=^2zq1d42<^2nRd42>^2+q1d42>^2;Qd42",
   "^^2@q1h68~^2*q1t52:^2=q1d42;^2<q1d42,^2>q1d42.^2^q1d42c~20d42d~2~q1d42f~2@q1d42g~2:q1d42h~2;q1d4",
   "2j~2,q1d42k~2.q1,52l~20h68m~2*q1d42n~2kRd42p~2cr1d42q~2dr1d42r~2fr1d42s~20d42t~2.q1d42v~2gr1d42w",
   "~2hr1d42x~2pRd42y~2jr1d42z~2kr1d46+~2lr1d45@~2mr1d42*~20,52=~20d42<~20z42>~2nr1,52^~20d42~~2pr1d",
   "42:~2qr1d42;~2gr1d46,~2rr1d42.~2sr1d42c:2tr1d46d:2vr1d42f:2wr1d45g:2xr1d45g:2yr1d42h:20,52j:20d4",
   "2k:2zr1d46l:2+r1d46m:2@r1d42n:2*r1d42p:2=r1d45q:2yr1d42r:2<r1d45s:2yr1z42t:2>r1,52v:20d42w:2^r1d",
   "46x:2~r1d46y:2:r1d42z:2;r1d42+:2,r1d42@:2.r1d42*:2cs1d46=:2ds1d46<:2fs1d42>:2gs1d42^:2hs1d46~:2j",
   "s1d46::2ks1d42;:2ls1d42,:2ms1d46.:2ns1d46c;2ps1d42d;2qs1d46f;2rs1d46g;20d46h;20d46j;20d46k;20d45",
   "l;20d45m;20d45n;20d45p;20d42q;20d42r;20d42s;20d42t;20d42v;20h68w;2ss1d42x;2ts1d42x;2jRh68y;2*q1t",
   "52z;2vs1d42+;2kRd42@;2ws1d42*;2xs1d45=;2ys1d42<;2zs1d45>;2+s1d45>;2yr1d42^;20d42~;20d42:;20d42;;",
   "20d42,;2@s1d45.;2yr1d42c,20d42d,20d42f,2*s1d42g,2=s1d42h,2<s1d42j,20d42k,2>s1d45l,2^s1d45m,2~s1d",
   "45m,2yr1d45n,2yr1d42p,2:s1d45q,2;s1d45r,2,s1d45r,2yr1d45s,2yr1d42t,2.s1d45v,2ct1d45w,2dt1d45w,2y",
   "r1d45x,2yr1d42y,2ft1d45z,2gt1d45+,2ht1d45+,2yr1d45@,2yr1d42*,2jt1d42=,2nRd42<,2kt1d42>,2lt1d42^,",
   "2mt1d42~,2nt1d42:,20d42;,20d42,,20d42.,2pt1d42c.2qt1d42d.2rt1d42f.2st1d42g.2tt1d42g.2.Qd42h.2@q1",
   "d42j.2.q1d42k.2nRd42l.2@q1d42m.2.q1d42n.2vt1d42p.2nRd42q.20d42r.20d42s.2wt1h67t.20t52v.2xt1z52w.",
   "20d42x.2nRd42s.2yt1d42y.20d42z.2zt1d42z.2+t1d42+.2@t1d45@.2*t1d42*.20d42*.20h69=.2=t1d42s.2<t1d4",
   "2z.2>t1d46<.2^t1h67>.20,52^.20h67~.20d42:.20t42;.2~t1d42,.2zq1h67..20d42s.2:t1d42z.2;t1d46cc3,t1",
   "d45dc30d42z.2.t1d42z.2cv1d42z.2dv1d42fc30d42fc30d42fc30d42fc30d45gc3fv1d45hc30h69jc3gv1d42z.2hv1",
   "d46kc3jv1h67lc30d42mc30h67nc30h67pc30h67qc30d42rc30d42sc3kv1d42tc3lv1d42vc3zq1d42wc3<q1h67xc30d4",
   "2z.2mv1d46yc3nv1d45zc30d42z.2pv1d42z.2qv1d45+c30d42@c30d42@c30d42@c30d42@c30d42s.2rv1d45*c3sv1d4",
   "5=c3tv1d45*c3sv1d45<c30d45>c30d42^c30d42~c30h69:c3gv1,52;c30,52,c30h67.c30h67cd30d42dd30d42fd3<q",
   "1d42z.2vv1d42gd30d42hd30d45jd30d42s.2wv1d45kd3xv1d45ld3yv1d42md3zv1d45kd3+v1d45kd3@v1d45kd3xv1d4",
   "5kd3*v1d45kd3=v1d45ld3<v1d45ld3yv1d45kd3>v1d45kd3^v1d42md3~v1d45nd30d45pd30d45qd30d45rd30d45sd30",
   "d45td30,52vd30d45wd30z42xd3:v1d42z.2;v1d42s.2,v1d45yd3.v1d45zd3cw1d45+d30d42md3dw1d45zd3fw1d45yd",
   "3gw1d45yd3hw1d45zd3jw1d45zd3kw1d45yd3lw1d45yd3mw1d45zd3nw1d45zd3pw1d45zd3qw1d45zd3rw1d45yd3sw1d4",
   "5yd3.v1d45zd3cw1d45zd3tw1d45zd3vw1d45yd3ww1d45yd3xw1d45yd3yw1d45yd3zw1d45zd3+w1d45zd3@w1d45zd3*w",
   "1d45zd3=w1d45zd3<w1d45yd3>w1d45yd3^w1d45zd3~w1d45zd3:w1d45yd3;w1d45yd3,w1d45@d30d42md3.w1d45*d30",
   "d45=d30d45<d30d45>d30d45^d30,52~d30d42z.2cx1d45:d30d45;d30d45,d30d42s.2dx1d45.d3fx1d45cf3gx1d42m",
   "d3hx1d45.d3jx1d45.d3kx1d45cf3lx1d45.d3mx1d45.d3nx1d45.d3px1d45.d3qx1d45cf3rx1d45.d3sx1d45.d3tx1d",
   "45cf3vx1d45cf3wx1d45.d3xx1d45.d3yx1d45cf3zx1d45.d3+x1d45.d3@x1d45.d3*x1d45.d3=x1d45cf3gx1d45cf3<",
   "x1d45cf3>x1d45cf3^x1d45.d3~x1d45.d3fx1d45cf3:x1d45cf3;x1d45.d3,x1d45.d3.x1d45.d3cy1d45.d3dy1d45c",
   "f3fy1d45.d3gy1d45.d3hy1d45cf3jy1d45cf3ky1d45.d3ly1d45.d3my1d45cf3ny1d45cf3py1d45cf3qy1d45cf3ry1d",
   "45.d3sy1d45.d3ty1d45cf3vy1d45cf3wy1d45.d3xy1d45.d3yy1d45.d3zy1d45.d3+y1d45cf3@y1d45.d3*y1d45.d3=",
   "y1d45.d3<y1d45.d3>y1d45df30d42md3^y1d45ff30d45gf30d45hf30d45jf30d42z.2~y1d42s.2:y1d45kf30d45lf30",
   "d45mf3;y1d45nf3,y1d45mf3.y1d45mf3cz1d45mf3dz1d45mf3fz1d45nf3gz1d45mf3hz1d45mf3jz1d45mf3kz1d45mf3",
   "lz1d45mf3mz1d45mf3nz1d45nf3pz1d45mf3qz1d45mf3;y1d45nf3,y1d45nf3rz1d45mf3sz1d45mf3tz1d45nf3vz1d45",
   "mf3wz1d45mf3xz1d45mf3yz1d45mf3zz1d45nf3+z1d45mf3@z1d45mf3*z1d45mf3=z1d45mf3<z1d45mf3>z1d45mf3^z1",
   "d45nf3~z1d45mf3:z1d45mf3;z1d45mf3,z1d45mf3.z1d45nf3c+1d45mf3d+1d45mf3f+1d45nf3g+1d45nf3h+1d45mf3",
   "j+1d45mf3k+1d45nf3l+1d45mf3m+1d45mf3n+1d45mf3p+1d45mf3q+1d45nf3r+1d45mf3s+1d45mf3t+1d45mf3v+1d45",
   "mf3w+1d45mf3x+1d45mf3y+1d45pf30d42md3z+1d45qf30d45rf30d45sf30d45tf30d45vf30d45wf3++1d42s.2@+1d45",
   "wf3*+1d45wf3=+1d45wf3<+1d45wf3>+1d45xf3^+1d45wf3~+1d45wf3++1d45wf3:+1d45wf3;+1d45wf3,+1d45wf3.+1",
   "d45wf3c@1d45wf3d@1d45wf3f@1d45wf3g@1d45wf3h@1d45wf3j@1d45xf3k@1d45wf3l@1d45wf3m@1d45wf3n@1d45wf3",
   "p@1d45wf3q@1d45wf3r@1d45wf3s@1d45wf3t@1d45yf30d42md3v@1d45zf30d45+f30d45@f3w@1d45@f3x@1d45@f3y@1",
   "d45@f3z@1d45*f30d42md3+@1d45=f30d45<f30d45>f30d45^f30d45>f30d45~f30d45:f30d46;f30d45,f30d45.f30d",
   "42cg30d42dg30d45fg30d45gg30d45hg30d45jg30d45kg30,52lg30d46mg30d46ng30d46pg30d45,f30d45qg30d45qg3",
   "0d45rg30d45qg30d45sg30d42tg30d45vg30d45wg30d45xg30d45yg30d45yg30d45yg30d45zg30d45+g30d45@g30d45*",
   "g30,52=g30d45<g30d45>g30d45>g30d45>g30d45^g30d45~g30d45:g30d45;g30d45,g30d45.g30d45.g30d45.g30d4",
   "5ch30d45dh30d45fh30d45gh30d45hh30d45jh30d45kh30d45kh30d45lh30d45mh30d45nh30d45ph30d45qh30d45rh30",
   "d45sh30d45th30d45vh30d45vh30d45wh30d45wh30d45xh30d45yh30d45zh30d45+h30d45@h30d45*h30d45=h30d45<h",
   "30h67>h30h67^h30h67~h30h67:h30h67;h30h67,h30h67.h30h67cj30h67dj30h67fj30h67gj30h67hj30h67jj30h67",
   "kj30,52lj30,52mj30,52nj30,52pj30,52qj30,52rj30,52sj30,52tj30,52vj30,52wj30,52xj30,52yj30,52zj30,",
   "52+j30d45@j30d45*j30z42=j30z42<j30d42>j3@@1t52^j3*@1d42~j3=@1h69:j3<@1d46;j3>@1t42,j3^@1d42.j3zq",
   "1d46ck3~@1d45dk30h69fk3gv1d46gk3:@1d42hk3;@1d42jk3zq1d42kk3<q1d46lk3,@1d45mk30d45nk30d42md3.@1d4",
   "2pk3<q1d45qk30d45rk30d42md3c*1d45sk30d45tk30d42md3d*1d42md3f*1d42md3g*1d42md3h*1t52vk3j*1h69wk3k",
   "*1d46xk3l*1h69yk3gv1d46zk3m*1t52+k3n*1h69@k3p*1h69*k3gv1h69=k3q*1h69<k3gv1d42s.2r*1d42>k3nRd42s.",
   "2s*1d42z.2t*1d42s.2v*1d42z.2w*1d42s.2x*1d42z.2y*1d42z.2z*1d42z.2+*1d42z.2@*1d42z.2**1d42z.2=*1d4",
   "2z.2<*1d42z.2>*1d42z.2^*1d42z.2~*1d42s.2:*1d42^k3nRd42s.2;*1d42z.2,*1d42z.2.*1d42~k3nRd42:k3zq1d",
   "42z.2c=1d42;k3zq1d42,k3<q1d42z.2d=1d42.k3<q1z52cl30<7Bdl3f=1c8Bfl3g=1d45gl3h=1d45hl3j=1d45jl3k=1",
   "z52kl30d42ll3nRd45ml3l=1d45nl3m=1d42pl3n=1<7Bql3p=1c8Brl3q=1d45sl3r=1d45tl3s=1d45vl3t=1d45wl3v=1",
   "d45xl3w=1d42yl3x=1d42zl30d42+l30d45@l3y=1d45*l3y=1d42=l3z=1d42<l3+=1<7B>l3p=1c8B^l3q=1d46~l30d42",
   ":l3@=1d42z.2*=1d42;l3==1d42,l3<=1d42.l3>=1d45cm3r=1d45dm3^=1d42fm30d45gm3y=1d42hm3~=1d42jm3:=1d4",
   "2km3nRd42lm3dRd42mm30d42z.2;=1d42nm3,=1d42pm3<=1h68qm30t42rm3.=1h68sm30d42tm3c<1d42vm3:=1d42md3d",
   "<1d42wm30d42xm30d42ym3f<1d42zm30m82+m3g<1z82@m3h<1d42*m3j<1t42=m3k<1t42<m3k<1d42>m30d42^m30m82~m",
   "3l<1z82:m3m<1t42;m3k<1d42,m3n<1d42.m30d42cn30d42dn30m82fn3l<1z82gn3m<1d42hn30d42jn30d42kn30<7Bln",
   "3p<1c8Bmn3q<1d45nn3r<1z52pn30d45qn3s<1d45rn3t<1d42sn3v<1<7Btn3p=1c8Bvn3q=1d45wn3w<1d45xn3y=1d45y",
   "n3y=1d42zn3<=1d42+n3^Sd42@n30d42*n3<=1d42=n30d42<n30<7B>n3x<1c8B^n3y<1<7B~n3p=1c8B:n3q=1d42;n3gR",
   "d42,n30d42.n30d42cp30<7Bdp3z<1c8Bfp3+<1<7Bgp3p=1c8Bhp3q=1d42jp3hSd42kp30d42lp30d42mp30<7Bnp3@<1c",
   "8Bpp3*<1<7Bqp3p=1c8Brp3q=1d42sp3"]

private def tsxPart14 : List String :=
  ["tZd42tp30d42vp30d42wp30<7Bxp3=<1c8Byp3<<1<7Bzp3p=1c8B+p3q=1<7B@p3><1c8B*p3^<1<7B=p3p=1c8B<p3q=1d",
   "42>p3nRd42z.2~<1d42^p3dRd42z.2:<1d42~p30d42:p3^Jd42;p3^Jd42z.2;<1d42z.2,<1d42z.2.<1d42z.2c>1d42z",
   ".2d>1d42z.2f>1d42z.2g>1d42z.2h>1d42,p30d42.p30d42cq30d42dq30d42fq30d42z.2j>1d42z.2k>1d42gq30d42h",
   "q30d42jq3l>1d45kq30d45lq30d42mq3h=1d42nq3m>1d42pq3n>1d42qq3p>1d42rq30d42sq3q>1d42tq3r>1d42tq3s>1",
   "d42sq3t>1d42vq30d42wq3v>1d42xq3n=1d42yq3w>1d42yq3+=1d42xq3x>1d42zq3y>1d42+q3z>1d42@q3+>1d42*q3@>",
   "1d42=q30d42<q30d42>q3*>1d45^q30d42~q3=>1d42:q30d42;q30d42,q30d42.q30d42cr3<>1d42dr3>>1d42fr3s>1d",
   "42gr3t>1d42hr3t>1d42jr3s>1d42kr3s>1d42lr3t>1d45mr30d42nr30d42pr30d42qr3^>1d42rr3~>1d42sr30d42tr3",
   "0d42vr3+=1d42wr3x>1d42xr3x>1d45yr30d42zr30d42+r3:>1d42@r3;>1t42*r3,>1d42=r3.>1d42=r3+=1d42<r30d4",
   "5>r30d42^r30d45~r30d42:r3c^1d42;r30d42,r3d^1d42.r3f^1d42cs3g^1d45ds30d45fs30d42gs30d45hs30d45js3",
   "0d45ks30d42ls30d42ms3^>1d45ns30d42ps3h^1d42qs30d42rs3f<1d42ss3;>1t42*r3j^1d42ts3k^1d42vs3+=1d42w",
   "s3f<1d45xs30d42ys3c^1d42zs3l^1d42+s3m^1d42@s3g^1d42*s3n^1d45=s30d42<s30d42>s3p^1d45^s30d45~s30d4",
   "5:s30d45;s30d42,s30d42.s30d42ct30d42dt30d42ft30d42gt3q^1d42zq3<=1d42ht3r^1d42jt3r^1d45kt30d45lt3",
   "0d45mt30d45nt30d45pt30d45qt30d45rt30d45lt30d45lt30d45lt30d45lt30d45mt30d45lt30d45lt30d42st3q^1h6",
   "9tt30t42vt30d42wt3r^1d45xt30d45yt30d45zt30d45+t30d45@t30d45*t30d45=t30d45@t30d45yt30d45yt30d45zt",
   "30d45@t30d45@t30d45yt30d45yt30d45zt30d45@t30d45@t30d45@t30d45@t30d45yt30d45@t30d45@t30d45yt30d45",
   "yt30d45zt30d45yt30d45yt30d45zt30d45+t30d45@t30d45@t30d45@t30d45@t30d45@t30d45yt30d45yt30d45zt30d",
   "45@t30d45@t30d45yt30d45yt30d45zt30d45<t30d45>t30d45^t30d45~t30d45:t30d45;t30d45>t30d45>t30d45^t3",
   "0d45<t30d45<t30d45~t30d45>t30d45>t30d45^t30d45>t30d45>t30d45^t30d45<t30d45<t30d45~t30d45>t30d45>",
   "t30d45^t30d45~t30d45~t30d45>t30d45>t30d45^t30d45~t30d45>t30d45>t30d45^t30d45>t30d45>t30d45^t30d4",
   "5<t30d45~t30d45~t30d45~t30d45>t30d45~t30d45~t30d45>t30d45>t30d45^t30d45>t30d45>t30d45^t30d45<t30",
   "d45<t30d45<t30d45<t30d45~t30d45>t30d45>t30d45^t30d45~t30d45~t30d45>t30d45>t30d45^t30d45~t30d45~t",
   "30d45~t30d45~t30d45>t30d45>t30d45^t30d45~t30d45~t30d45>t30d45>t30d45^t30d45>t30d45>t30d45^t30d45",
   "<t30d45<t30d45~t30d45>t30d45>t30d45^t30d45>t30d45>t30d45^t30d45<t30d45<t30d45,t30d45.t30d45cv30d",
   "45dv30d45fv30d45,t30d45,t30d45.t30d45.t30d45cv30d45,t30d45,t30d45,t30d45,t30d45.t30d45.t30d45cv3",
   "0d45,t30d45,t30d45dv30d45.t30d45.t30d45cv30d45.t30d45.t30d45cv30d45,t30d45,t30d45.t30d45.t30d45c",
   "v30d45,t30d45,t30d45,t30d45,t30d45dv30d45.t30d45dv30d45.t30d45.t30d45cv30d45dv30d45.t30d45.t30d4",
   "5cv30d45.t30d45.t30d45cv30d45,t30d45dv30d45.t30d45.t30d45cv30d45.t30d45.t30d45cv30d45,t30d45,t30",
   "d45,t30d45,t30d45.t30d45.t30d45cv30d45,t30d45,t30d45dv30d45.t30d45.t30d45cv30d45.t30d45.t30d45cv",
   "30d45,t30d45,t30d45dv30d45.t30d45.t30d45cv30d45dv30d45dv30d45.t30d45.t30d45cv30d45dv30d45.t30d45",
   ".t30d45cv30d45.t30d45.t30d45cv30d45,t30d45,t30d45dv30d45.t30d45.t30d45cv30d45.t30d45.t30d45cv30d",
   "45,t30d45,t30d45,t30d45,t30d45.t30d45.t30d45cv30d45,t30d45,t30d45,t30d45,t30d45gv30d45hv30d45jv3",
   "0d45gv30d45gv30d45gv30d45gv30d45hv30d45hv30d45jv30d45gv30d45gv30d45gv30d45gv30d45gv30d45gv30d45h",
   "v30d45hv30d45jv30d45gv30d45kv30d45hv30d45hv30d45hv30d45jv30d45gv30d45gv30d45hv30d45hv30d45jv30d4",
   "5gv30d45gv30d45gv30d45gv30d45hv30d45hv30d45jv30d45gv30d45gv30d45gv30d45gv30d45gv30d45gv30d45hv30",
   "d45hv30d45jv30d45gv30d45gv30d45gv30d45gv30d45hv30d45hv30d45jv30d45gv30d45gv30d45kv30d45hv30d45hv",
   "30d45jv30d45hv30d45hv30d45jv30d45gv30d45gv30d45hv30d45hv30d45jv30d45gv30d45gv30d45gv30d45gv30d45",
   "hv30d45hv30d45jv30d45gv30d45gv30d45gv30d45gv30d45gv30d45gv30d45lv30d45lv30d45lv30d45lv30d45lv30d",
   "45mv30d45mv30d45nv30d45lv30d45lv30d45lv30d45lv30d45lv30d45lv30d45lv30d45lv30d45lv30d45lv30d45lv3",
   "0d45mv30d45mv30d45nv30d45lv30d45lv30d45lv30d45lv30d45lv30d45lv30d45lv30d45lv30d45pv30d45pv30d45p",
   "v30d45pv30t42qv30t42rv30t42sv30t42tv30t42vv30t42wv30t42xv30t42yv30d42zv3s^1d42+v3t^1d42@v3v^1d42",
   "@v3s>1d42+v3t>1d42*v3w^1d42=v3v<1d42<v3x^1d42<v3+=1d42=v3x>1d42>v3y^1d42^v30d42~v3s>1d42:v3t>1d4",
   "2;v3t>1d42,v3s>1d42.v3^>1d42cw3+=1d42dw3x>1d42fw3z^1d42gw3;>1t42hw3+^1d42jw3@^1d42jw3+=1d42kw30d",
   "45lw30d45mw30d42nw3*^1d42pw30t42hw3=^1d42qw3<^1d42rw3+=1d42sw3f<1d42tw3q^1d42vw3r^1d42ww3r^1d42x",
   "w3>^1d42xw3s>1d42yw3^^1d42zw3s>1d42+w3s>1d42@w3^>1d42*w3~^1d42=w3:^1d42=w3+=1d42<w30d42>w3;^1d42",
   "^w30d42~w3+=1d42:w3f<1d42;w30d42,w30d42.w30d42cx30d42dx3q^1d42fx3,^1d42gx3.^1d42gx3+=1d42hx30d42",
   "jx3c~1d42kx30d42lx3+=1d42mx3f<1d42nx3q^1d42px3d~1d42qx3f~1d42qx3+=1d42rx3g~1d42sx30d42tx3+=1d42v",
   "x3f<1d42wx30d42xx30d42yx30d42zx30d42+x3q^1d42@x3h~1d42@x3+=1d42*x3+=1d42=x3f<1d42<x3j~1d42<x3+=1",
   "d42>x3+=1d42^x3f<1d42~x3k~1d42mq3r<1d42:x3l~1d42zq3m~1d42;x3n~1d42,x3~Jd42.x3:>1d42cy30d42dy3:>1",
   "d42fy3p~1d42gy30d42hy30d42jy3q~1d42ky3~Jd42ly30d42my3r~1d42my3s~1d42my3t~1d42my3v~1d42ny3w~1d45p",
   "y30d45qy30d42ry3x~1d42sy30d42ty3h=1d42ty3y~1d42vy30d42wy3z~1d42xy3+~1d45yy30d45zy30d45+y30d45@y3",
   "0d42*y3@~1d42=y3*~1d42ny3=~1d42<y3<~1d42>y30d42^y30d42~y3tTd42:y30d45;y30d42,y30d42ty3>~1d42.y30",
   "d42cz3^~1d45dz30d45fz30d42gz30d42hz30d42ny3mp1d42jz3~~1d42<y3:~1d42kz30d42lz3;~1d42ny3,~1d42mz30",
   "d42nz3.~1d42ry3c:1d42*y3d:1d42=y3f:1d42=y3g:1t52pz30d42qz30d42rz3h:1d42ry3j:1d42~y3k:1d42sz30d42",
   "tz30d42vz30d42wz30d42xz30d42*y3l:1d45yz30d42zz3>>1d45+z30d42@z3m:1d45*z30d45=z30d42<z30d45>z30d4",
   "5^z30d42ny3np1d42~z30d42ny3pp1d42:z30d42*y3n:1d42=y3p:1d42;z30d42,z30d42.z30d42c+3q:1d42nz3r:1d4",
   "2d+3lv1d42ry3s:1d42f+30d42g+30d42h+30d42=y3t:1d42j+3v:1d42k+30d42l+30d42m+30d42n+3w:1d42ry3x:1d4",
   "2p+30d42nz3y:1d42*y3z:1d42q+30d42r+30d42@z3+:1d42s+3@:1d42@z3*:1d45t+30d42v+30d42w+30d42x+30d45y",
   "+30d42ny3qp1d42z+30d42ny3rp1d42++30d42*y3=:1d42=y3<:1d42=y3>:1d42*y3^:1d42@+30d42*+30d42c+3~:1d4",
   "2c+3::1d42=+3;:1d42<+30d42>+30d42^+30d42~+30d42d+3,:1d42:+30d42;+30d42ry3.:1d42j+3c;1d42,+30d42n",
   "+3d;1d42.+30d42nz3f;1d42n+3g;1d42c@30d42s+3h;1d42@z3j;1d42d@30d42f@30d45g@30d42h@30d42ny3sp1d42j",
   "@30d42ny3tp1d42=y3k;1d42*y3l;1d42k@30d42c+3m;1d42ny3n;1d42l@30d42=+3p;1d42m@30d42n@30d42p@30d42n",
   "+3q;1d42q@30d42ny3vp1d42r@30d42ny3wp1d42ny3r;1d42s@30d42ny3xp1d42t@30d42ny3yp1d42v@30d42ny3zp1d4",
   "2w@30d42ny3+p1d42x@30d42ny3@p1d42y@30d42z@30d45+@30d45@@30d45*@30d42=@3s;1d42c+3t;1d42<@3v;1d42s",
   "+3w;1d42>@3x;1d42^@30d42~@30d42:@3sSd45;@30d42,@3lr1d42>@3y;1d42*y3z;1d42c+3+;1d42<@3@;1d42<@3*;",
   "1d42.@3=;1d42:@3<;1d42c*30d42d*30d42c+3>;1d45f*30d45g*30d42@z3^;1d42,@3rr1d42,@3vr1d42c+3~;1d42<",
   "@3:;1d42*y3;;1d42h*30d42j*30d42k*30d42<@3,;1d42=y3.;1d42@z3c,1d42l*30d42*y3d,1d42c+3f,1d42@z3g,1",
   "d42@z3h,1d42,@3+r1d42,@3@r1d42c+3j,1d42<@3k,1d42<@3l,1d42c+3m,1d42m*30d42n*30d42p*30d42q*30d42=y",
   "3n,1d42@z3p,1d42*y3q,1d42@z3r,1d42@z3s,1d42,@3~r1d42,@3:r1d42<@3t,1d42c+3v,1d42@z3w,1d42,@3ds1d4",
   "2,@3fs1d42,@3js1d42,@3ks1d42,@3ns1d42,@3ps1d42,@3rs1d42=+3x,1d42*y3y,1d42r*30d42s*30d42*y3z,1d42",
   "t*30d42v*30d42w*30d42=y3+,1d42x*30d42*y3@,1d42y*30d42z*30d42+*30d42@*30d42=y3*,1d42*y3=,1d42**30",
   "d42=*30d42<*30d42>*30d42^*30d42~*30d42:*30d42;*30d42,*30d42.*30d42c=30d42d=30d42f=30d42g=30d42h=",
   "30d42j=30d42k=30d42l=30d42m=30d42n=30d42my3<,1d42my3>,1d42my3^,1d42ty3r<1d42xy3~,1d42ry3:,1d42ry",
   "3;,1d42p=3,,1d42ry3.,1d42ry3c.1d42s+3d.1d42ry3f.1d42s+3g.1d42ry3h.1d42ry3j.1d42ry3k.1d42ry3l.1d4",
   "2ry3m.1d42ry3n.1d42ry3p.1d42ry3q.1d42ry3r.1d42q=30d42r=30d42ry3s.1d42ry3t.1d42ry3v.1d42my3w.1d42",
   "my3x.1d42xy3y.1d42ry3z.1d42ry3+.1d42ry3@.1d42ry3*.1d42ry3=.1d42my3<.1,8Cs=30d42t=30d42v=30d42w=3",
   "0d42x=30d42y=30d42z=30d42+=30d42@=30d42*=30d42==30d42<=30d42>=30d42^=30d42~=30d42:=30d42;=30d42,",
   "=30d42.=30d42c<30d42d<30d42f<30d42g<30d42h<3002j<30d42k<30d42l<30d42m<30d42n<30d42p<30d42q<30d42",
   "r<30d42s<30d42t<30d42v<30d42w<30d42x<30d42y<30d42z<30d42+<30d42@<30d42*<30d42=<30d42<<30d42><30d",
   "42^<30d42~<30d42:<30d42;<30d42,<30d42.<30d42c>30d42d>30d42f>30d42g>30d42h>30d42j>30d42k>30d42l>3",
   "0d42m>30d42n>30d42p>30d42q>30d42r>30d42s>30d42t>30d42v>30d42w>30d42x>30d42y>30d42z>30d42+>30d42@",
   ">30d42*>30d42=>30d42<>30d42>>30d42^>30d42~>30d42:>30d42;>30d42,>30d42.>30d42c^30d42d^30d42f^30d4",
   "2g^30d42h^30d42j^30d42k^30d42l^30d42m^30d42n^30d42p^30d42q^30d42r^30d42s^30d42t^30d42v^30d42w^30",
   "d42x^30d42y^30d42z^30d42+^30d42@^30d42*^30d42=^30d42<^30d42>^30d42^^30d42~^30d42:^30d42;^30d42,^",
   "30d42.^30d42c~30d42d~30d42f~30d42g~30d42h~30d42j~30d42k~30d42l~30d42m~30d42n~30d42p~30d42q~30d42",
   "r~30d42s~30d42t~30d42v~30d42w~30d42x~30d42y~30d42z~3002+~30d42@~30d42*~30d42=~30d42<~30d42>~30d4",
   "2^~30d42~~30d42:~30d42;~30d42,~30d42.~30d42c:30d42d:30d42f:30d42g:30d42h:30d42j:30d42k:30d42l:30",
   "d42m:30d42n:30d42p:30d42q:30d42r:30d42s:30d42t:30d42v:30d42w:30d42x:30d42y:30d42z:30d42+:30d42@:",
   "30d42*:30d42=:30d42<:30d42>:30d42^:30d42~:30d42::30d42;:30d42,:30d42.:3002c;30d42d;30d42f;30d42g",
   ";30d42h;30d42j;30d42k;30d42l;30d42m;30d42n;30d42p;30d42q;30d42r;30d42s;30d42t;30d42v;30d42w;30d4",
   "2x;30d42y;30d42z;30d42+;30d42@;30d42*;30d42=;30d42<;30d42>;30d42^;30d42~;30d42:;30d42;;30d42,;30",
   "d42.;30d42c,30d42d,30d42f,30d42g,30d42h,30d42j,30d42k,3002l,30d42m,30d42n,30d42p,30d42q,30d42r,3",
   "0d42s,30d42t,30d42v,30d42w,30d42x,30d42y,30d42z,30d42+,30d42@,30d42*,30d42=,30d42<,30d42>,30d42^",
   ",30d42~,30d42:,30d42;,30d42,,30d42.,30d42c.30d42d.30d42f.30d42g.30d42h.30d42j.30d42k.30d42l.30d4",
   "2m.30d42n.30d42p.30d42q.30d42r.3002s.30d42t.30d42v.30d42w.30d42x.30d42y.30d42z.30d42+.30d42@.30d",
   "42*.30d42=.30d42<.30d42>.30d42^.30d42~.30d42:.30d42;.30d42,.30d42..30d42cc40d42dc40d42fc40d42gc4",
   "0d42hc40d42jc40d42kc40d42lc40d42mc40d42nc40d42pc40d42qc40d42rc40d42sc40d42tc40d42vc40d42wc40d42x",
   "c40d42yc40d42zc40d42+c40,8C@c40d42*c40d42=c40d42<c40d42>c40d42^c40d42~c40d42:c40d42;c40d42,c40d4",
   "2.c40d42cd40d42dd40d42fd40d42gd40d42hd40d42jd40d42kd40d42ld40d42md40d42nd40d42pd40d42qd40d42rd40",
   "d42sd40d42td40d42vd40d42wd40,8Cxd40d42yd40d42zd40d42+d40d42@d40d42*d40d42=d40d42<d40,8C>d40d42^d",
   "40d42~d40d42:d40d42;d40d42,d40d42.d40d42cf40,8Cdf40d42ff40d42gf40d42hf40d42jf40d42kf40d42lf40d42",
   "mf40d42nf40d42pf40d42qf40d42rf40d42sf40d42tf40d42vf40d42wf40d42xf40d42yf40d42zf40d42+f40d42@f40d",
   "42*f40d42=f40d42<f40d42>f40d42^f40d42~f40d42:f40d42;f40d42,f40d42.f40d42cg40d42dg40d42fg40d42gg4",
   "0d42hg40d42jg40d42kg40d42lg40d42mg40d42ng40d42pg40d42qg40d42rg40d42sg40d42tg40d42vg40d42wg40d42x",
   "g40d42yg40d42zg40d42+g40d42@g40d42*g40d42=g40d42<g40d42>g40d42^g40d42~g40d42:g40d42;g40d42,g40d4",
   "2.g40d42ch40d42dh40d42fh40d42gh40d42hh40d42jh40d42kh40"]

/-- The tables in their written form. -/
def packed : List String :=
  tsxPart1 ++
  tsxPart2 ++
  tsxPart3 ++
  tsxPart4 ++
  tsxPart5 ++
  tsxPart6 ++
  tsxPart7 ++
  tsxPart8 ++
  tsxPart9 ++
  tsxPart10 ++
  tsxPart11 ++
  tsxPart12 ++
  tsxPart13 ++
  tsxPart14

/-- The automaton of the grammar. -/
def automaton : Automaton :=
  Packed.unpack symbolNames aliasNames fieldNames packed

end StoryMend.Syntax.Tsx
