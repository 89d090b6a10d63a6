import StoryMend.Proofs.Repair.Passes

/-!
Comments and strings, and what follows them.  One that ends is the same whatever follows; one
that has no end takes in what follows until something ends it, and tags do not.  A new line
within a comment or a template starts as the comment or template did.
-/

namespace StoryMend.Repair

open Text

/-! ### Comments and strings without an end -/

/-- Whether a string ends, told what comes after its quote: at the same quote, or at the end
of the line unless it is a template. -/
def stringEnds (quote : Char) : List Char → Bool
  | [] => false
  | '\\' :: _ :: rest => stringEnds quote rest
  | c :: rest =>
    c != '\\' && (c == quote || (c == '\n' && quote != '\x60') || stringEnds quote rest)

/-- Whether a comment ends, told what comes after its opening mark. -/
def commentEnds : List Char → Bool
  | [] => false
  | '*' :: '/' :: _ => true
  | _ :: rest => commentEnds rest

/-- Whether a comment or a string starts here and has no end. -/
def isOpenLiteral (before : List Char) : List Char → Bool
  | '/' :: '/' :: rest => before.head? != some ':' && !rest.contains '\n'
  | '/' :: '*' :: rest => !commentEnds rest
  | c :: rest =>
    (c == '"' || c == '\'' || c == '\x60') && inExpression before && !stringEnds c rest
  | [] => false

section Literals

/-- What follows a comment that ends is no part of it. -/
theorem blockCommentLength_append {s : List Char} (h : commentEnds s = true) (w : List Char) :
    blockCommentLength (s ++ w) = blockCommentLength s ∧ blockCommentLength s ≤ s.length := by
  fun_induction commentEnds s with
  | case1 => cases h
  | case2 rest => exact ⟨by simp [blockCommentLength], by simp [blockCommentLength]⟩
  | case3 c rest hne ih =>
      obtain ⟨hsame, hle⟩ := ih h
      have hstart : ∀ more, c = '*' → rest ++ w = '/' :: more → False := by
        rintro more rfl hmore
        cases rest with
        | nil => cases h
        | cons d rest =>
            cases hmore
            exact hne rest rfl rfl
      constructor
      · rw [List.cons_append, blockCommentLength, blockCommentLength, hsame]
        · exact hne
        · exact hstart
      · rw [blockCommentLength, List.length_cons]
        · omega
        · exact hne

/-- A comment that has no end takes in whatever follows that cannot end it. -/
theorem le_blockCommentLength {s w : List Char} (h : commentEnds s = false) (hw : '*' ∉ w)
    (hstart : w.head? ≠ some '/') (x : List Char) :
    s.length + w.length ≤ blockCommentLength (s ++ (w ++ x)) := by
  fun_induction commentEnds s with
  | case1 =>
      clear h hstart
      rw [List.nil_append, List.length_nil, Nat.zero_add]
      induction w with
      | nil => exact Nat.zero_le _
      | cons c w ih =>
          rw [List.mem_cons, not_or] at hw
          rw [List.cons_append, blockCommentLength, List.length_cons]
          · have hle := ih hw.2
            omega
          · rintro more rfl
            exact absurd rfl hw.1
  | case2 rest => cases h
  | case3 c rest hne ih =>
      have hle := ih h
      cases hmark : rest ++ (w ++ x) with
      | nil =>
          rw [List.cons_append, hmark, blockCommentLength, List.length_cons]
          · rw [hmark] at hle
            omega
          · exact fun _ _ hmore => List.cons_ne_nil _ _ hmore.symm
      | cons d more =>
          by_cases hend : c = '*' ∧ d = '/'
          · obtain ⟨rfl, rfl⟩ := hend
            -- The mark can only be made of the last character and what follows.
            have hrest : rest = [] := by
              cases rest with
              | nil => rfl
              | cons d rest =>
                  cases hmark
                  exact absurd rfl (hne rest rfl)
            have hnone : w = [] := by
              subst hrest
              cases w with
              | nil => rfl
              | cons d w =>
                  cases hmark
                  exact absurd rfl hstart
            subst hrest hnone
            rw [List.cons_append, hmark, blockCommentLength]
            decide
          · rw [List.cons_append, hmark, blockCommentLength, List.length_cons, ← hmark]
            · omega
            · rintro more' hc hmore
              cases hmore
              exact hend ⟨hc, rfl⟩

theorem blockCommentLength_cons {c : Char} {rest : List Char}
    (hmark : ¬ (c = '*' ∧ rest.head? = some '/')) :
    blockCommentLength (c :: rest) = 1 + blockCommentLength rest := by
  rw [blockCommentLength]
  intro more hc hrest
  exact hmark ⟨hc, hrest ▸ rfl⟩

theorem blockCommentLength_le (s : List Char) : blockCommentLength s ≤ s.length := by
  induction s using blockCommentLength.induct with
  | case1 => exact Nat.le_refl 0
  | case2 rest =>
      rw [blockCommentLength, List.length_cons, List.length_cons]
      omega
  | case3 c rest hmark ih =>
      rw [blockCommentLength, List.length_cons]
      · omega
      · exact hmark

theorem stringLength_cons {quote c : Char} (hslash : c ≠ '\\') (rest : List Char) :
    stringLength quote (c :: rest) =
      if c == quote then 1
      else if c == '\n' && quote != '\x60' then 0
      else 1 + stringLength quote rest := by
  rw [stringLength]
  · simp only [beq_iff_eq, hslash, ↓reduceIte]
  · exact fun _ _ hc _ => hslash hc

theorem stringLength_le (quote : Char) (s : List Char) : stringLength quote s ≤ s.length := by
  induction s using stringLength.induct quote with
  | case1 => exact Nat.le_refl 0
  | case2 c rest ih =>
      rw [stringLength, List.length_cons, List.length_cons]
      omega
  | case3 c rest hescape hslash =>
      rw [stringLength, if_pos hslash, List.length_cons]
      · omega
      · exact hescape
  | case4 c rest hescape hslash hquote =>
      rw [stringLength, if_neg hslash, if_pos hquote, List.length_cons]
      · omega
      · exact hescape
  | case5 c rest hescape hslash hquote hline =>
      rw [stringLength, if_neg hslash, if_neg hquote, if_pos hline]
      · exact Nat.zero_le _
      · exact hescape
  | case6 c rest hescape hslash hquote hline ih =>
      rw [stringLength, if_neg hslash, if_neg hquote, if_neg hline, List.length_cons]
      · omega
      · exact hescape

/-- What follows a string that ends is no part of it. -/
theorem stringLength_append {quote : Char} {s : List Char} (h : stringEnds quote s = true)
    (w : List Char) :
    stringLength quote (s ++ w) = stringLength quote s ∧ stringLength quote s ≤ s.length := by
  fun_induction stringEnds quote s with
  | case1 => cases h
  | case2 c rest ih =>
      obtain ⟨hsame, hle⟩ := ih h
      simp only [List.cons_append, stringLength, hsame, List.length_cons, true_and]
      omega
  | case3 c rest hne ih =>
      rw [Bool.and_eq_true, bne_iff_ne] at h
      obtain ⟨hslash, hends⟩ := h
      rw [List.cons_append, stringLength_cons hslash, stringLength_cons hslash, List.length_cons]
      split
      · exact ⟨rfl, Nat.le_add_left 1 _⟩
      · next hquote =>
          split
          · exact ⟨rfl, Nat.zero_le _⟩
          · next hline =>
              have hmore : stringEnds quote rest = true := by
                simpa [hquote, hline] using hends
              obtain ⟨hsame, hle⟩ := ih hmore
              exact ⟨congrArg (1 + ·) hsame, by omega⟩

/-- Whether a character neither ends a string nor takes the next one along. -/
def isStringPlain (c : Char) : Bool :=
  c != '\\' && c != '"' && c != '\'' && c != '\x60' && c != '\n'

variable {quote : Char} (hquote : isStringPlain quote = false)

include hquote

theorem length_le_stringLength {w : List Char} (hw : ∀ c ∈ w, isStringPlain c = true)
    (x : List Char) : w.length ≤ stringLength quote (w ++ x) := by
  induction w with
  | nil => exact Nat.zero_le _
  | cons c w ih =>
      obtain ⟨hc, hw⟩ := List.forall_mem_cons.1 hw
      have hle := ih hw
      have hne : c ≠ quote := by
        rintro rfl
        rw [hquote] at hc
        cases hc
      simp only [isStringPlain, Bool.and_eq_true, bne_iff_ne] at hc
      obtain ⟨⟨⟨⟨hslash, -⟩, -⟩, -⟩, hline⟩ := hc
      rw [List.cons_append, stringLength_cons hslash]
      simp only [beq_iff_eq, hne, ↓reduceIte, Bool.false_and, Bool.false_eq_true,
        beq_eq_false_iff_ne.2 hline, List.length_cons]
      omega

/-- A string that has no end takes in whatever follows that cannot end it. -/
theorem le_stringLength {s w : List Char} (h : stringEnds quote s = false)
    (hw : ∀ c ∈ w, isStringPlain c = true) (x : List Char) :
    s.length + w.length ≤ stringLength quote (s ++ (w ++ x)) := by
  fun_induction stringEnds quote s with
  | case1 =>
      rw [List.length_nil, Nat.zero_add]
      exact length_le_stringLength hquote hw x
  | case2 c rest ih =>
      have hle := ih h
      simp only [List.cons_append, stringLength, List.length_cons]
      omega
  | case3 c rest hne ih =>
      by_cases hslash : c = '\\'
      · -- The backslash comes last and takes along what follows.
        have hrest : rest = [] := by
          cases rest with
          | nil => rfl
          | cons d rest => exact absurd rfl (hne d rest hslash)
        subst hrest hslash
        cases w with
        | nil =>
            cases x with
            | nil => exact Nat.le_refl 1
            | cons d x =>
                simp only [List.cons_append, List.nil_append, stringLength, List.length_cons,
                  List.length_nil]
                omega
        | cons d w =>
            have hle := length_le_stringLength hquote (List.forall_mem_cons.1 hw).2 x
            simp only [List.cons_append, List.nil_append, stringLength, List.length_cons,
              List.length_nil]
            omega
      · simp only [bne_iff_ne.2 hslash, Bool.true_and, Bool.or_eq_false_iff] at h
        obtain ⟨⟨hend, hline⟩, hmore⟩ := h
        have hle := ih hmore
        rw [List.cons_append, stringLength_cons hslash]
        simp only [hend, hline, Bool.false_eq_true, ↓reduceIte, List.length_cons]
        omega

omit hquote

/-- What follows a text makes no mark and no start of a tag with its last character. -/
def Meets (s w : List Char) : Prop :=
  s.getLast? = some '\n' ∨ ∀ c ∈ w.head?, c.isAlpha = false ∧ c ∉ ['/', '*', '>']

theorem takeWhile_append_of_contains {c : Char} {s : List Char} (h : s.contains c = true)
    (w : List Char) : (s ++ w).takeWhile (· != c) = s.takeWhile (· != c) := by
  induction s with
  | nil => cases h
  | cons d s ih =>
      by_cases hd : d = c
      · simp [hd]
      · have hmore : s.contains c = true := by
          simpa [Ne.symm hd] using h
        simp only [List.cons_append, List.takeWhile_cons, ih hmore]

theorem literalLength?_cons (before : List Char) {c : Char} {rest : List Char}
    (hline : ∀ more, c = '/' → rest = '/' :: more → False)
    (hblock : ∀ more, c = '/' → rest = '*' :: more → False) :
    literalLength? before (c :: rest) =
      if (c == '"' || c == '\'' || c == '\x60') && inExpression before then
        some (1 + stringLength c rest)
      else none := by
  rw [literalLength?]
  · exact hline
  · exact hblock

/-- A comment or a string lies within the text. -/
theorem literalLength?_le {before s : List Char} {n : Nat} (h : literalLength? before s = some n) :
    n ≤ s.length := by
  unfold literalLength? at h
  split at h
  · next rest =>
      have hle := (List.takeWhile_prefix (l := rest) (· != '\n')).length_le
      split at h
      · cases h
      · obtain rfl := Option.some.inj h
        rw [List.length_cons, List.length_cons]
        omega
  · next rest =>
      have hle := blockCommentLength_le rest
      obtain rfl := Option.some.inj h
      rw [List.length_cons, List.length_cons]
      omega
  · next c rest _ _ =>
      have hle := stringLength_le c rest
      split at h
      · obtain rfl := Option.some.inj h
        rw [List.length_cons]
        omega
      · cases h
  · cases h

/-- A comment or string that has an end is the same whatever follows, and where none starts
none does. -/
theorem literalLength?_append {before s w : List Char} (hs : s ≠ []) (hmeets : Meets s w)
    (hopen : isOpenLiteral before s = false) :
    literalLength? before (s ++ w) = literalLength? before s ∧
      ∀ n ∈ literalLength? before s, n ≤ s.length := by
  fun_cases isOpenLiteral before s with
  | case1 rest =>
      simp only [List.cons_append, literalLength?]
      by_cases hcolon : before.head? = some ':'
      · simp [hcolon]
      · have hends : rest.contains '\n' = true := by
          simpa [isOpenLiteral, hcolon] using hopen
        have hle := (List.takeWhile_prefix (· != '\n') (l := rest)).length_le
        simp only [takeWhile_append_of_contains hends, beq_iff_eq, hcolon, ↓reduceIte,
          Option.mem_some_iff, forall_eq', List.length_cons, true_and]
        omega
  | case2 rest =>
      have hends : commentEnds rest = true := by
        simpa [isOpenLiteral] using hopen
      obtain ⟨hsame, hle⟩ := blockCommentLength_append hends w
      simp only [List.cons_append, literalLength?, hsame, Option.mem_some_iff, forall_eq',
        List.length_cons, true_and]
      omega
  | case3 c rest hline hblock =>
      -- What follows makes no mark with the last character, so a mark is one of the text.
      have hmark : ∀ d more, d ∈ ['/', '*'] → c = '/' → rest ++ w = d :: more →
          rest = d :: more.take (rest.length - 1) := by
        rintro d more hd rfl hmore
        cases rest with
        | nil =>
            rcases hmeets with hlast | hstart
            · cases hlast
            · rw [List.nil_append] at hmore
              have hnot := (hstart d (by rw [hmore]; rfl)).2
              simp_all
        | cons e rest =>
            cases hmore
            simp
      have hline' : ∀ more, c = '/' → rest ++ w = '/' :: more → False :=
        fun more hc hmore => hline _ hc (hmark '/' more (by simp) hc hmore)
      have hblock' : ∀ more, c = '/' → rest ++ w = '*' :: more → False :=
        fun more hc hmore => hblock _ hc (hmark '*' more (by simp) hc hmore)
      rw [List.cons_append, literalLength?_cons before hline' hblock',
        literalLength?_cons before hline hblock]
      split
      · next hstring =>
          have hends : stringEnds c rest = true := by
            rw [isOpenLiteral, hstring] at hopen
            · simpa using hopen
            · exact hline
            · exact hblock
          obtain ⟨hsame, hle⟩ := stringLength_append hends w
          simp only [hsame, Option.mem_some_iff, forall_eq', List.length_cons, true_and]
          omega
      · simp
  | case4 => exact absurd rfl hs

/-- Whether a character ends neither a comment nor a string and starts no such end. -/
def isQuiet (c : Char) : Bool := isStringPlain c && c != '*'

/-- A comment or string that has no end takes in whatever follows that cannot end it. -/
theorem exists_literalLength?_of_isOpenLiteral {before s w : List Char}
    (hopen : isOpenLiteral before s = true) (hw : ∀ c ∈ w, isQuiet c = true)
    (hstart : w.head? ≠ some '/') (x : List Char) :
    ∃ n, literalLength? before (s ++ (w ++ x)) = some n ∧ s.length + w.length ≤ n := by
  have hplain : ∀ c ∈ w, isStringPlain c = true :=
    fun c hc => (Bool.and_eq_true_iff.1 (hw c hc)).1
  fun_cases isOpenLiteral before s with
  | case1 rest =>
      simp only [isOpenLiteral, Bool.and_eq_true, bne_iff_ne, Bool.not_eq_true'] at hopen
      obtain ⟨hcolon, hline⟩ := hopen
      have hall : ∀ c ∈ rest ++ w, (c != '\n') = true := by
        intro c hc
        rw [bne_iff_ne]
        rintro rfl
        rcases List.mem_append.1 hc with hc | hc
        · simp [hc] at hline
        · exact absurd (hplain _ hc) (by decide)
      refine ⟨2 + ((rest ++ (w ++ x)).takeWhile (· != '\n')).length, ?_, ?_⟩
      · simp only [List.cons_append, literalLength?, beq_iff_eq, hcolon, ↓reduceIte]
      · rw [← List.append_assoc, List.takeWhile_append_of_pos hall]
        simp only [List.length_append, List.length_cons]
        omega
  | case2 rest =>
      have hends : commentEnds rest = false := by
        simpa [isOpenLiteral] using hopen
      have hstar : '*' ∉ w := fun hmem => absurd (hw _ hmem) (by decide)
      have hle := le_blockCommentLength hends hstar hstart x
      refine ⟨2 + blockCommentLength (rest ++ (w ++ x)), ?_, ?_⟩
      · simp only [List.cons_append, literalLength?]
      · simp only [List.length_cons]
        omega
  | case3 c rest hline hblock =>
      rw [isOpenLiteral] at hopen
      · simp only [Bool.and_eq_true, Bool.not_eq_true'] at hopen
        obtain ⟨⟨hquote, hexpression⟩, hends⟩ := hopen
        have hslash : c ≠ '/' := by
          rintro rfl
          cases hquote
        have hnot : isStringPlain c = false := by
          simp only [Bool.or_eq_true, beq_iff_eq] at hquote
          rcases hquote with (rfl | rfl) | rfl <;> rfl
        have hle := le_stringLength hnot hends hplain x
        refine ⟨1 + stringLength c (rest ++ (w ++ x)), ?_, ?_⟩
        · rw [List.cons_append, literalLength?_cons before (fun _ hc _ => hslash hc)
            fun _ hc _ => hslash hc, hquote, hexpression]
          rfl
        · rw [List.length_cons]
          omega
      · exact hline
      · exact hblock
  | case4 => cases hopen

/-- The last character of a text is its first one or the last one of the rest. -/
theorem getLast?_cons_cases {c d : Char} {rest : List Char} (h : (c :: rest).getLast? = some d) :
    rest = [] ∧ c = d ∨ rest.getLast? = some d := by
  cases rest with
  | nil => exact Or.inl ⟨rfl, Option.some.inj h⟩
  | cons e rest => exact Or.inr (by rwa [List.getLast?_cons_cons] at h)

/-- Within a comment that has no end, a new line starts as the comment did. -/
theorem blockCommentLength_of_endsLine {s : List Char} (h : commentEnds s = false)
    (hlast : s.getLast? = some '\n') (w : List Char) :
    blockCommentLength (s ++ w) = s.length + blockCommentLength w := by
  fun_induction commentEnds s with
  | case1 => cases hlast
  | case2 rest => cases h
  | case3 c rest hne ih =>
      rcases getLast?_cons_cases hlast with ⟨rfl, rfl⟩ | hmore
      · rw [List.singleton_append, blockCommentLength]
        · rfl
        · exact fun _ hc => absurd hc (by decide)
      · rw [List.cons_append, blockCommentLength, ih h hmore, List.length_cons]
        · omega
        · rintro more rfl hmark
          cases rest with
          | nil => cases hmore
          | cons d rest =>
              cases hmark
              exact hne rest rfl rfl

theorem blockCommentLength_plain {w : List Char} (hw : '*' ∉ w) (x : List Char) :
    blockCommentLength (w ++ x) = w.length + blockCommentLength x := by
  induction w with
  | nil => exact (Nat.zero_add _).symm
  | cons c w ih =>
      rw [List.mem_cons, not_or] at hw
      rw [List.cons_append, blockCommentLength, ih hw.2, List.length_cons]
      · omega
      · rintro more rfl
        exact absurd rfl hw.1

/-- Within a string that has no end, a new line starts as the string did. -/
theorem stringLength_of_endsLine {quote : Char} {s : List Char} (h : stringEnds quote s = false)
    (hlast : s.getLast? = some '\n') (w : List Char) :
    stringLength quote (s ++ w) = s.length + stringLength quote w := by
  fun_induction stringEnds quote s with
  | case1 => cases hlast
  | case2 c rest ih =>
      rw [List.cons_append, List.cons_append, stringLength, List.length_cons, List.length_cons]
      rcases getLast?_cons_cases (by rwa [List.getLast?_cons_cons] at hlast) with
        ⟨rfl, -⟩ | hmore
      · rw [List.nil_append, List.length_nil]
      · rw [ih h hmore]
        omega
  | case3 c rest hne ih =>
      have hslash : c ≠ '\\' := by
        rintro rfl
        cases rest with
        | nil => cases hlast
        | cons d rest => exact hne d rest rfl rfl
      simp only [bne_iff_ne.2 hslash, Bool.true_and, Bool.or_eq_false_iff] at h
      obtain ⟨⟨hend, hline⟩, hopen⟩ := h
      rw [List.cons_append, stringLength_cons hslash, List.length_cons]
      simp only [hend, hline, Bool.false_eq_true, ↓reduceIte]
      rcases getLast?_cons_cases hlast with ⟨rfl, -⟩ | hmore
      · rw [List.nil_append, List.length_nil]
      · rw [ih hopen hmore]
        omega

/-- A template goes on over the end of a line. -/
theorem stringLength_plain {w : List Char} (hslash : '\\' ∉ w) (htemplate : '\x60' ∉ w)
    (x : List Char) : stringLength '\x60' (w ++ x) = w.length + stringLength '\x60' x := by
  induction w with
  | nil => exact (Nat.zero_add _).symm
  | cons c w ih =>
      rw [List.mem_cons, not_or] at hslash htemplate
      rw [List.cons_append, stringLength_cons (Ne.symm hslash.1), ih hslash.2 htemplate.2,
        List.length_cons]
      simp only [beq_eq_false_iff_ne.2 (Ne.symm htemplate.1), bne_self_eq_false, Bool.and_false,
        Bool.false_eq_true, ↓reduceIte]
      omega

/-- A string in quotes goes on in the next line only after a backslash. -/
theorem escaped_of_endsLine {quote : Char} (hquote : quote ≠ '\x60') {s : List Char}
    (h : stringEnds quote s = false) (hlast : s.getLast? = some '\n') : ['\\', '\n'] <:+ s := by
  fun_induction stringEnds quote s with
  | case1 => cases hlast
  | case2 c rest ih =>
      rcases getLast?_cons_cases (by rwa [List.getLast?_cons_cons] at hlast) with
        ⟨rfl, rfl⟩ | hmore
      · exact List.suffix_rfl
      · exact (ih h hmore).trans (List.suffix_append ['\\', c] rest)
  | case3 c rest hne ih =>
      rcases getLast?_cons_cases hlast with ⟨rfl, rfl⟩ | hmore
      · simp [hquote] at h
      · have hslash : c ≠ '\\' := by
          rintro rfl
          cases rest with
          | nil => cases hmore
          | cons d rest => exact hne d rest rfl rfl
        simp only [bne_iff_ne.2 hslash, Bool.true_and, Bool.or_eq_false_iff] at h
        exact (ih h.2 hmore).trans (List.suffix_cons _ _)

/-- Whether a character neither ends a comment or a template nor takes the next one along. -/
def isKept (c : Char) : Bool := c != '*' && c != '\\' && c != '\x60'

theorem not_mem_of_isKept {w : List Char} (hw : ∀ c ∈ w, isKept c = true) :
    '*' ∉ w ∧ '\\' ∉ w ∧ '\x60' ∉ w := by
  refine ⟨fun h => ?_, fun h => ?_, fun h => ?_⟩ <;> exact absurd (hw _ h) (by decide)

/-- A comment or string that a new line starts in ends where it did if more lines come before
that one, unless the line break is escaped. -/
theorem exists_literalLength?_of_endsLine {before s : List Char}
    (hopen : isOpenLiteral before s = true) (hlast : s.getLast? = some '\n')
    (hescape : ¬ ['\\', '\n'] <:+ s) :
    ∃ more : List Char → Nat,
      (∀ x, literalLength? before (s ++ x) = some (s.length + more x)) ∧
        ∀ w x, (∀ c ∈ w, isKept c = true) → more (w ++ x) = w.length + more x := by
  fun_cases isOpenLiteral before s with
  | case1 rest =>
      -- A comment like this ends with its line.
      simp only [isOpenLiteral, Bool.and_eq_true, Bool.not_eq_true'] at hopen
      have hmem : '\n' ∈ rest := by
        rcases getLast?_cons_cases (by rwa [List.getLast?_cons_cons] at hlast) with
          ⟨-, hslash⟩ | hmore
        · cases hslash
        · exact List.mem_of_getLast? hmore
      simp [hmem] at hopen
  | case2 rest =>
      have hends : commentEnds rest = false := by
        simpa [isOpenLiteral] using hopen
      have hmore : rest.getLast? = some '\n' := by
        rcases getLast?_cons_cases (by rwa [List.getLast?_cons_cons] at hlast) with
          ⟨-, hstar⟩ | hmore
        · cases hstar
        · exact hmore
      refine ⟨blockCommentLength, fun x => ?_, fun w x hw => ?_⟩
      · simp only [List.cons_append, literalLength?, blockCommentLength_of_endsLine hends hmore,
          List.length_cons, Option.some.injEq]
        omega
      · exact blockCommentLength_plain (not_mem_of_isKept hw).1 x
  | case3 c rest hline hblock =>
      rw [isOpenLiteral] at hopen
      · simp only [Bool.and_eq_true, Bool.not_eq_true'] at hopen
        obtain ⟨⟨hquote, hexpression⟩, hends⟩ := hopen
        have hslash : c ≠ '/' := by
          rintro rfl
          cases hquote
        have hmore : rest.getLast? = some '\n' := by
          rcases getLast?_cons_cases hlast with ⟨-, rfl⟩ | hmore
          · cases hquote
          · exact hmore
        obtain rfl : c = '\x60' := by
          by_contra htemplate
          exact hescape ((escaped_of_endsLine htemplate hends hmore).trans (List.suffix_cons _ _))
        refine ⟨stringLength '\x60', fun x => ?_, fun w x hw => ?_⟩
        · rw [List.cons_append, literalLength?_cons before (fun _ h => absurd h hslash)
            (fun _ h => absurd h hslash), hquote, hexpression,
            stringLength_of_endsLine hends hmore]
          simp only [Bool.and_self, ↓reduceIte, List.length_cons, Option.some.injEq]
          omega
        · exact stringLength_plain (not_mem_of_isKept hw).2.1 (not_mem_of_isKept hw).2.2 x
      · exact hline
      · exact hblock
  | case4 => cases hopen

end Literals

end StoryMend.Repair
