import StoryMend.Json.Form
import StoryMend.Proofs.Json.Text

/-!
What comes of values as they are written, shape by shape.  A value is held against a shape
where it is there already, and read by the reader of the shape where it is a text; both
give the same regular form.  There is one lemma for each kind of shape, so that the forms
of records are read field by field, with whatever fields are left out.
-/

namespace StoryMend.Json

/-- A reader takes a run of bytes for a value, whatever comes after them that can. -/
def Reads {α : Type} (read : Reader α) (bytes : List UInt8) (a : α) : Prop :=
  ∀ ⦃c : Cursor⦄ ⦃rest : List UInt8⦄, c.rest = bytes ++ rest → CanFollow rest →
    ∃ after, read c = .ok (a, after) ∧ after.rest = rest

/-- What a text starts with if it is that of a value: neither a blank nor the end of a
list. -/
def StartsValue (bytes : List UInt8) : Prop :=
  ∃ b more, bytes = b :: more ∧ Cursor.isBlank b = false ∧ b ≠ byte ']'

/-- A value has a regular form of a shape, whether it is held against the shape or read from
its text. -/
structure Shape.Takes (s : Shape) (j regular : Json) : Prop where
  check : s.check j = .ok regular
  reads : Reads s.reader (utf8 j.write) regular
  starts : StartsValue (utf8 j.write)

/-- A value of a shape is in its regular form. -/
abbrev Shape.Keeps (s : Shape) (j : Json) : Prop := s.Takes j j

/-- A value is written with something else than a word that starts as null does. -/
def IsWritten (j : Json) : Prop := (utf8 j.write).head? ≠ some (byte 'n')

section Readers

theorem Shape.reader_text (c : Cursor) :
    Shape.text.reader c =
      (Json.readText "a string" c).map fun found => (.string found.1, found.2) := rfl

theorem Shape.reader_flag : Shape.flag.reader = readFlag := rfl

theorem Shape.reader_natural (range : String) (bound : Nat) :
    (Shape.natural range bound).reader = readNatural range bound := rfl

theorem Shape.reader_optional (s : Shape) : s.optional.reader = readOptional s.reader := rfl

theorem Shape.reader_list (item : Shape) : (Shape.list item).reader = readList item.reader := rfl

theorem Shape.reader_choice (names : List String) :
    (Shape.choice names).reader = readChoice names := rfl

theorem Shape.reader_record (name : String) (fields : Fields) :
    (Shape.record name fields).reader = readRecord name fields.readers := rfl

end Readers

section Scalars

theorem onByte_of_rest {α : Type} {c : Cursor} {b : UInt8} {rest : List UInt8}
    (h : c.rest = b :: rest) (hb : Cursor.isBlank b = false)
    (read : Cursor → UInt8 → Except ReadError α) : onByte c read = read c b := by
  simp only [onByte, Cursor.skipBlanks_of_rest h hb, Cursor.peek?_of_rest h]

theorem utf8_write_string (s : String) : utf8 (Json.string s).write = utf8 (quote s) :=
  rfl

theorem startsValue_quote (s : String) : StartsValue (utf8 (quote s)) :=
  ⟨_, _, utf8_quote s, by decide, by decide⟩

theorem isWritten_string (s : String) : IsWritten (.string s) := by
  rw [IsWritten, utf8_write_string, utf8_quote, List.head?_cons]
  exact fun h => absurd (Option.some.inj h) (by decide)

/-- A string is read where its quote stands. -/
theorem readString_of_quote (s : String) {c : Cursor} {rest : List UInt8}
    (h : c.rest = utf8 (quote s) ++ rest) :
    ∃ more after, c.rest = byte '"' :: more ∧ readString c.advance = .ok (s, after) ∧
      after.rest = rest := by
  rw [utf8_quote, List.cons_append, List.append_assoc, List.singleton_append] at h
  have hnext : c.advance.rest = utf8 (s.toList.flatMap escape) ++ byte '"' :: rest := by
    rw [Cursor.rest_advance, h, List.tail_cons]
  obtain ⟨after, hread, hafter⟩ := readString_quote s hnext
  exact ⟨_, after, h, hread, hafter⟩

theorem Shape.keeps_text (s : String) : Shape.text.Keeps (.string s) where
  check := rfl
  reads := by
    rw [utf8_write_string]
    intro c rest h _
    obtain ⟨more, after, hquote, hread, hafter⟩ := readString_of_quote s h
    refine ⟨after, ?_, hafter⟩
    simp only [Shape.reader_text, Json.readText, onByte_of_rest hquote (by decide), ↓reduceIte,
      hread, Except.map]
  starts := utf8_write_string s ▸ startsValue_quote s

theorem Shape.keeps_choice {names : List String} {name : String} (h : name ∈ names) :
    (Shape.choice names).Keeps (.string name) where
  check := by
    show checkName names name = .ok (.string name)
    simp only [checkName, List.contains_iff_mem, h, ↓reduceIte]
  reads := by
    rw [utf8_write_string]
    intro c rest hc _
    obtain ⟨more, after, hquote, hread, hafter⟩ := readString_of_quote name hc
    refine ⟨after, ?_, hafter⟩
    simp only [Shape.reader_choice, readChoice, onByte_of_rest hquote (by decide), ↓reduceIte,
      hread, readName, checkName, List.contains_iff_mem, h]
  starts := utf8_write_string name ▸ startsValue_quote name

theorem Shape.keeps_flag (b : Bool) : Shape.flag.Keeps (.bool b) where
  check := rfl
  reads := by
    intro c rest h _
    cases b with
    | true =>
        have hbytes : utf8 (Json.bool true).write = byte 't' :: "rue".toList.map byte := rfl
        rw [hbytes, List.cons_append] at h
        obtain ⟨after, hread, hafter⟩ := readWord_of_rest "rue".toList (c := c.advance)
          (by rw [Cursor.rest_advance, h, List.tail_cons])
        refine ⟨after, ?_, hafter⟩
        simp only [Shape.reader_flag, readFlag, onByte_of_rest h (by decide), ↓reduceIte, hread,
          Except.map]
    | false =>
        have hbytes : utf8 (Json.bool false).write = byte 'f' :: "alse".toList.map byte := rfl
        have hne : byte 'f' ≠ byte 't' := by decide
        rw [hbytes, List.cons_append] at h
        obtain ⟨after, hread, hafter⟩ := readWord_of_rest "alse".toList (c := c.advance)
          (by rw [Cursor.rest_advance, h, List.tail_cons])
        refine ⟨after, ?_, hafter⟩
        simp only [Shape.reader_flag, readFlag, onByte_of_rest h (by decide), hne, ↓reduceIte,
          hread, Except.map]
  starts := by
    cases b with
    | true => exact ⟨byte 't', utf8 "rue".toList, rfl, by decide, by decide⟩
    | false => exact ⟨byte 'f', utf8 "alse".toList, rfl, by decide, by decide⟩

/-- A digit is neither a blank, a bracket, a sign nor a letter. -/
theorem of_isDigit {b : UInt8} (h : isDigit b = true) :
    Cursor.isBlank b = false ∧ b ≠ byte ']' ∧ b ≠ byte '-' ∧ b ≠ byte 'n' := by
  have hle : byte '0' ≤ b := by
    simp only [isDigit, Bool.and_eq_true, decide_eq_true_eq] at h
    exact h.1
  refine ⟨?_, ?_, ?_, ?_⟩
  · simp only [Cursor.isBlank, Bool.or_eq_false_iff, beq_eq_false_iff_ne]
    refine ⟨⟨⟨?_, ?_⟩, ?_⟩, ?_⟩ <;> · rintro rfl; exact absurd hle (by decide)
  all_goals
    rintro rfl
    exact absurd h (by decide)

theorem exists_digits_eq_cons (n : Nat) :
    ∃ b more, digits n = b :: more ∧ isDigit b = true := by
  obtain ⟨b, more, h⟩ := List.exists_cons_of_ne_nil (l := digits n)
    (by simp [digits, Nat.toDigits_ne_nil])
  exact ⟨b, more, h, isDigit_of_mem_digits (n := n) (by simp [h])⟩

theorem isWritten_nat (n : Nat) : IsWritten (.nat n) := by
  obtain ⟨b, more, h, hdigit⟩ := exists_digits_eq_cons n
  rw [IsWritten, utf8_write_nat, h, List.head?_cons]
  exact fun he => (of_isDigit hdigit).2.2.2 (Option.some.inj he)

theorem Shape.keeps_size {n : Nat} (hn : n < UInt64.size) : Shape.size.Keeps (.nat n) where
  check := by
    show checkNatural _ UInt64.size (.natural n) = .ok (.nat n)
    simp only [nat, checkNatural, hn, ↓reduceIte]
  reads := by
    rw [utf8_write_nat]
    intro c rest h hrest
    obtain ⟨b, more, hdigits, hdigit⟩ := exists_digits_eq_cons n
    obtain ⟨hblank, -, hsign, -⟩ := of_isDigit hdigit
    obtain ⟨after, hread, hafter⟩ := readNumber_digits hn h hrest
    refine ⟨after, ?_, hafter⟩
    have hfirst : c.rest = b :: (more ++ rest) := by rw [h, hdigits, List.cons_append]
    simp only [Shape.size, Shape.reader_natural, readNatural, onByte_of_rest hfirst hblank, hsign,
      hdigit, ↓reduceIte, hread, checkNatural, hn]
  starts := by
    obtain ⟨b, more, hdigits, hdigit⟩ := exists_digits_eq_cons n
    obtain ⟨hblank, hend, -, -⟩ := of_isDigit hdigit
    exact ⟨b, more, (utf8_write_nat n).trans hdigits, hblank, hend⟩

theorem Shape.keeps_null (s : Shape) : (Shape.optional s).Keeps .null where
  check := rfl
  reads := by
    have hbytes : utf8 Json.null.write = byte 'n' :: "ull".toList.map byte := rfl
    intro c rest h _
    rw [hbytes, List.cons_append] at h
    obtain ⟨after, hread, hafter⟩ := readWord_of_rest "ull".toList (c := c.advance)
      (by rw [Cursor.rest_advance, h, List.tail_cons])
    refine ⟨after, ?_, hafter⟩
    simp only [Shape.reader_optional, readOptional, Cursor.skipBlanks_of_rest h (by decide),
      Cursor.peek?_of_rest h, ↓reduceIte, hread, Except.map]
  starts := ⟨byte 'n', utf8 "ull".toList, rfl, by decide, by decide⟩

/-- A value that is there is taken as it is taken where it may not be missing. -/
theorem Shape.Takes.optional {s : Shape} {j regular : Json} (h : s.Takes j regular)
    (hwritten : IsWritten j) : (Shape.optional s).Takes j regular where
  check := by
    cases j with
    | null => exact absurd (rfl) hwritten
    | _ => exact h.check
  reads := by
    intro c rest hc hrest
    obtain ⟨b, more, hbytes, hblank, -⟩ := h.starts
    have hfirst : c.rest = b :: (more ++ rest) := by rw [hc, hbytes, List.cons_append]
    have hnull : some b ≠ some (byte 'n') := by
      rwa [IsWritten, hbytes, List.head?_cons] at hwritten
    obtain ⟨after, hread, hafter⟩ := h.reads hc hrest
    refine ⟨after, ?_, hafter⟩
    simp only [Shape.reader_optional, readOptional, Cursor.skipBlanks_of_rest hfirst hblank,
      Cursor.peek?_of_rest hfirst, hnull, ↓reduceIte, hread]
  starts := h.starts

end Scalars

section Lists

/-- What follows an item of a list can. -/
theorem canFollow_writeItems (items : List Json) (rest : List UInt8) :
    CanFollow (utf8 (writeItems items) ++ rest) := by
  cases items with
  | nil =>
      rw [writeItems]
      rintro b ⟨⟩
      exact Or.inr (Or.inl rfl)
  | cons item items =>
      rw [writeItems, List.cons_append, utf8_cons_of_lt (by decide)]
      rintro b ⟨⟩
      exact Or.inl rfl

theorem length_lt_utf8_writeItems (items : List Json) :
    items.length < (utf8 (writeItems items)).length := by
  induction items with
  | nil =>
      rw [writeItems]
      decide
  | cons item items ih =>
      rw [writeItems, List.cons_append, utf8_cons_of_lt (by decide), utf8_append]
      simp only [List.length_cons, List.length_append]
      omega

variable {read : Reader Json} {items : List Json}

/-- The items after the first one are read up to the end of the list. -/
theorem readItems_writeItems (hreads : ∀ j ∈ items, Reads read (utf8 j.write) j)
    (hstarts : ∀ j ∈ items, StartsValue (utf8 j.write)) (n : Nat) (before : List Json)
    {c : Cursor} {rest : List UInt8} (h : c.rest = utf8 (writeItems items) ++ rest) (fuel : Nat)
    (hfuel : items.length < fuel) :
    ∃ after, readItems read (n + 1) before c fuel = .ok (before.reverse ++ items, after) ∧
      after.rest = byte ']' :: rest := by
  obtain ⟨fuel, rfl⟩ : ∃ k, fuel = k + 1 := ⟨fuel - 1, by omega⟩
  induction items generalizing n before c fuel with
  | nil =>
      rw [writeItems] at h
      have hend : c.rest = byte ']' :: rest := h
      refine ⟨c, ?_, hend⟩
      simp only [readItems, nextItem, Cursor.skipBlanks_of_rest hend (by decide),
        Cursor.peek?_of_rest hend, ↓reduceIte, List.append_nil]
  | cons item items ih =>
      rw [writeItems, List.cons_append, utf8_cons_of_lt (by decide), utf8_append,
        List.cons_append, List.append_assoc] at h
      have hnext : c.advance.rest = utf8 item.write ++ (utf8 (writeItems items) ++ rest) := by
        rw [Cursor.rest_advance, h, List.tail_cons]
      obtain ⟨b, more, hbytes, hblank, hend⟩ := hstarts item (by simp)
      have hfirst : c.advance.rest = b :: (more ++ (utf8 (writeItems items) ++ rest)) := by
        rw [hnext, hbytes, List.cons_append]
      obtain ⟨between, hread, hbetween⟩ :=
        hreads item (by simp) hnext (canFollow_writeItems items rest)
      obtain ⟨fuel, rfl⟩ : ∃ k, fuel = k + 1 := ⟨fuel - 1, by simp at hfuel; omega⟩
      obtain ⟨after, hmore, hafter⟩ := ih (fun j hj => hreads j (by simp [hj]))
        (fun j hj => hstarts j (by simp [hj])) (n + 1) (item :: before) hbetween fuel
        (by simpa using hfuel)
      refine ⟨after, ?_, hafter⟩
      have hcomma : byte ',' ≠ byte ']' := by decide
      rw [readItems]
      simp only [nextItem, Cursor.skipBlanks_of_rest h (by decide), Cursor.peek?_of_rest h,
        hcomma, ↓reduceIte, Nat.add_one_ne_zero, beq_iff_eq, bne_self_eq_false,
        Bool.false_eq_true, Cursor.skipBlanks_of_rest hfirst hblank,
        Cursor.peek?_of_rest hfirst, hend, hread, hmore, List.reverse_cons, List.append_assoc,
        List.singleton_append]

/-- Items that are left as they are make a list that is. -/
theorem mapM_eq_ok {ε α : Type} {f : α → Except ε α} {l : List α} (h : ∀ a ∈ l, f a = .ok a) :
    l.mapM f = .ok l := by
  induction l with
  | nil => rfl
  | cons a l ih =>
      rw [List.mapM_cons, h a (by simp), ih fun b hb => h b (by simp [hb])]
      rfl

theorem Shape.keeps_list {item : Shape} (h : ∀ j ∈ items, item.Keeps j) :
    (Shape.list item).Keeps (.array items) where
  check := by simp only [Shape.check, mapM_eq_ok fun j hj => (h j hj).check]
  reads := by
    intro c rest hc _
    cases items with
    | nil =>
        have hbytes : utf8 (Json.array []).write = [byte '[', byte ']'] := rfl
        rw [hbytes, List.cons_append] at hc
        have hend : c.advance.rest = byte ']' :: rest := by rw [Cursor.rest_advance, hc]; rfl
        refine ⟨c.advance.advance, ?_, by rw [Cursor.rest_advance, hend, List.tail_cons]⟩
        simp only [Shape.reader_list, readList, onByte_of_rest hc (by decide), bne_self_eq_false,
          Bool.false_eq_true, ↓reduceIte, readItems, nextItem,
          Cursor.skipBlanks_of_rest hend (by decide), Cursor.peek?_of_rest hend,
          List.reverse_nil, endList, close]
    | cons first others =>
        rw [write, List.cons_append, utf8_cons_of_lt (by decide), utf8_append,
          List.cons_append, List.append_assoc] at hc
        have hnext : c.advance.rest = utf8 first.write ++ (utf8 (writeItems others) ++ rest) := by
          rw [Cursor.rest_advance, hc, List.tail_cons]
        obtain ⟨b, more, hbytes, hblank, hne⟩ := (h first (by simp)).starts
        have hfirst : c.advance.rest = b :: (more ++ (utf8 (writeItems others) ++ rest)) := by
          rw [hnext, hbytes, List.cons_append]
        obtain ⟨between, hread, hbetween⟩ :=
          (h first (by simp)).reads hnext (canFollow_writeItems others rest)
        have hlength := length_lt_utf8_writeItems others
        have hfuel : others.length < c.rest.length := by
          simp only [hc, List.length_cons, List.length_append]
          omega
        obtain ⟨after, hmore, hafter⟩ := readItems_writeItems
          (fun j hj => (h j (List.mem_cons_of_mem first hj)).reads)
          (fun j hj => (h j (List.mem_cons_of_mem first hj)).starts) 0 [first] hbetween _ hfuel
        refine ⟨after.advance, ?_, by rw [Cursor.rest_advance, hafter, List.tail_cons]⟩
        simp only [Shape.reader_list, readList, onByte_of_rest hc (by decide), bne_self_eq_false,
          Bool.false_eq_true, ↓reduceIte, readItems, nextItem,
          Cursor.skipBlanks_of_rest hfirst hblank, Cursor.peek?_of_rest hfirst, hne,
          beq_self_eq_true, hread, hmore, endList, Cursor.skipBlanks_of_rest hafter (by decide),
          Cursor.peek?_of_rest hafter, close, List.reverse_singleton, List.singleton_append]
  starts := by
    cases items with
    | nil => exact ⟨byte '[', [byte ']'], rfl, by decide, by decide⟩
    | cons first others =>
        exact ⟨byte '[', _, by rw [write, List.cons_append, utf8_cons_of_lt (by decide)],
          by decide, by decide⟩

end Lists

section Records

/-- The shape of the field of a record with a name. -/
def Fields.shape? : Fields → String → Option Shape
  | .done, _ => none
  | .field key shape _ rest, k => if k = key then some shape else rest.shape? k

/-- A record has a field of a name, and a value is in the regular form of that field. -/
def Fields.Keeps (fields : Fields) (field : String × Json) : Prop :=
  ∃ shape, fields.shape? field.1 = some shape ∧ shape.Keeps field.2

variable {fields : Fields}

theorem Fields.checkField_of_shape? {key : String} {shape : Shape}
    (h : fields.shape? key = some shape) (j : Json) :
    fields.checkField key j = shape.check j := by
  fun_induction Fields.shape? fields key with
  | case1 => cases h
  | case2 shape' default rest =>
      cases h
      simp only [Fields.checkField, ↓reduceIte]
  | case3 key' shape' default rest k hne ih => simp only [Fields.checkField, hne, ↓reduceIte, ih h]

theorem Fields.find?_readers {key : String} {shape : Shape}
    (h : fields.shape? key = some shape) :
    ∃ f, fields.readers.find? (·.key == key) = some f ∧ f.read = shape.reader := by
  fun_induction Fields.shape? fields key with
  | case1 => cases h
  | case2 shape' default rest =>
      cases h
      exact ⟨_, by rw [Fields.readers, List.find?_cons_of_pos (by simp)], rfl⟩
  | case3 key' shape' default rest k hne ih =>
      obtain ⟨f, hfind, hread⟩ := ih h
      exact ⟨f, (List.find?_cons_of_neg (by simpa using Ne.symm hne)).trans hfind, hread⟩

theorem Fields.map_key_readers (fields : Fields) :
    fields.readers.map (·.key) = fields.keys ∧
      fields.readers.map (·.default) = fields.defaults := by
  induction fields using Fields.keys.induct with
  | case1 => exact ⟨rfl, rfl⟩
  | case2 key shape default rest ih =>
      simp only [Fields.readers, Fields.keys, Fields.defaults, List.map_cons, ih, and_self]

/-- The text of a field of an object. -/
def writeField (field : String × Json) : List Char := quote field.1 ++ ':' :: write field.2

theorem writeFields_cons (field : String × Json) (more : List (String × Json)) :
    writeFields (field :: more) = ',' :: (writeField field ++ writeFields more) := by
  rw [writeFields, writeField]
  simp

theorem write_object_cons (field : String × Json) (more : List (String × Json)) :
    write (.object (field :: more)) = '{' :: (writeField field ++ writeFields more) := by
  rw [write, writeField]
  simp

/-- What follows a field of an object can. -/
theorem canFollow_writeFields (given : List (String × Json)) (rest : List UInt8) :
    CanFollow (utf8 (writeFields given) ++ rest) := by
  cases given with
  | nil =>
      rw [writeFields]
      rintro b ⟨⟩
      exact Or.inr (Or.inr rfl)
  | cons field given =>
      rw [writeFields_cons, utf8_cons_of_lt (by decide)]
      rintro b ⟨⟩
      exact Or.inl rfl

theorem length_lt_utf8_writeFields (given : List (String × Json)) :
    given.length < (utf8 (writeFields given)).length := by
  induction given with
  | nil =>
      rw [writeFields]
      decide
  | cons field given ih =>
      rw [writeFields_cons, utf8_cons_of_lt (by decide), utf8_append]
      simp only [List.length_cons, List.length_append]
      omega

theorem utf8_writeField (field : String × Json) :
    utf8 (writeField field) = utf8 (quote field.1) ++ byte ':' :: utf8 field.2.write := by
  rw [writeField, utf8_append, utf8_cons_of_lt (by decide)]

variable {c : Cursor} {rest : List UInt8}

/-- A field of an object is read where its key is. -/
theorem readFields_field {field : String × Json} (hkeeps : fields.Keeps field)
    (given : List (String × Json)) (hfresh : given.lookup field.1 = none) {first : Bool}
    {start : Cursor} (hnext : nextKey first start = .ok (true, c))
    (h : c.rest = utf8 (writeField field) ++ rest) (hrest : CanFollow rest) :
    ∃ after, (∀ fuel, readFields fields.readers given first start (fuel + 1) =
        readFields fields.readers (field :: given) false after fuel) ∧ after.rest = rest := by
  obtain ⟨key, j⟩ := field
  obtain ⟨shape, hshape, hj⟩ := hkeeps
  rw [utf8_writeField, List.append_assoc, List.cons_append] at h
  obtain ⟨-, colon, -, hkey, hcolon⟩ := readString_of_quote key h
  have hvalue : colon.advance.rest = utf8 j.write ++ rest := by
    rw [Cursor.rest_advance, hcolon, List.tail_cons]
  obtain ⟨after, hread, hafter⟩ := hj.reads hvalue hrest
  obtain ⟨f, hfind, hf⟩ := Fields.find?_readers hshape
  refine ⟨after, fun fuel => ?_, hafter⟩
  simp only [readFields, hnext, hkey, hfresh, Option.isSome_none, Bool.false_eq_true, ↓reduceIte,
    readField, readColon, Cursor.skipBlanks_of_rest hcolon (by decide),
    Cursor.peek?_of_rest hcolon, hfind, hf, hread, Except.map]

theorem lookup_eq_none {given : List (String × Json)} {key : String}
    (h : key ∉ given.map (·.1)) : given.lookup key = none := by
  rw [List.lookup_eq_none_iff]
  intro field hfield
  have hne : key ≠ field.1 := fun he => h (he ▸ List.mem_map_of_mem hfield)
  simpa using hne

theorem nextKey_first {more : List UInt8} (h : c.rest = byte '"' :: more) :
    nextKey true c = .ok (true, c) := by
  have hne : byte '"' ≠ byte '}' := by decide
  simp only [nextKey, Cursor.skipBlanks_of_rest h (by decide), Cursor.peek?_of_rest h, hne,
    ↓reduceIte]

theorem nextKey_next {more : List UInt8} (h : c.rest = byte ',' :: byte '"' :: more) :
    nextKey false c = .ok (true, c.advance) := by
  have hkey : c.advance.rest = byte '"' :: more := by rw [Cursor.rest_advance, h, List.tail_cons]
  have hcomma : byte ',' ≠ byte '}' := by decide
  have hne : byte '"' ≠ byte '}' := by decide
  simp only [nextKey, Cursor.skipBlanks_of_rest h (by decide), Cursor.peek?_of_rest h, hcomma,
    Bool.false_eq_true, ↓reduceIte, bne_self_eq_false,
    Cursor.skipBlanks_of_rest hkey (by decide), Cursor.peek?_of_rest hkey, hne]

theorem exists_utf8_writeField (field : String × Json) :
    ∃ more, utf8 (writeField field) = byte '"' :: more := by
  rw [utf8_writeField, utf8_quote]
  exact ⟨_, rfl⟩

/-- The fields after the first one are read up to the end of the object. -/
theorem readFields_writeFields {given : List (String × Json)}
    (hkeeps : ∀ field ∈ given, fields.Keeps field) (before : List (String × Json))
    (hnodup : ((given.reverse ++ before).map (·.1)).Nodup)
    (h : c.rest = utf8 (writeFields given) ++ rest) (fuel : Nat) (hfuel : given.length < fuel) :
    ∃ after, readFields fields.readers before false c fuel =
        .ok (.ok (given.reverse ++ before), after) ∧ after.rest = byte '}' :: rest := by
  obtain ⟨fuel, rfl⟩ : ∃ k, fuel = k + 1 := ⟨fuel - 1, by omega⟩
  induction given generalizing before c fuel with
  | nil =>
      rw [writeFields] at h
      have hend : c.rest = byte '}' :: rest := h
      refine ⟨c, ?_, hend⟩
      simp only [readFields, nextKey, Cursor.skipBlanks_of_rest hend (by decide),
        Cursor.peek?_of_rest hend, ↓reduceIte, List.reverse_nil, List.nil_append]
  | cons field given ih =>
      rw [writeFields_cons, utf8_cons_of_lt (by decide), utf8_append, List.cons_append,
        List.append_assoc] at h
      obtain ⟨more, hquote⟩ := exists_utf8_writeField field
      have hnext := nextKey_next (h.trans (by rw [hquote]; rfl))
      rw [List.reverse_cons, List.append_assoc, List.singleton_append] at hnodup
      have hfresh : before.lookup field.1 = none := by
        rw [List.map_append, List.map_cons] at hnodup
        exact lookup_eq_none (List.nodup_cons.1 (List.nodup_append.1 hnodup).2.1).1
      obtain ⟨between, hread, hbetween⟩ := readFields_field (hkeeps field (by simp)) before hfresh
        hnext
        (by rw [Cursor.rest_advance, h, List.tail_cons]) (canFollow_writeFields given rest)
      obtain ⟨fuel, rfl⟩ : ∃ k, fuel = k + 1 := ⟨fuel - 1, by simp at hfuel; omega⟩
      obtain ⟨after, hmore, hafter⟩ := ih (fun f hf => hkeeps f (by simp [hf])) _ hnodup hbetween
        fuel (by simpa using hfuel)
      refine ⟨after, ?_, hafter⟩
      rw [hread, hmore, List.reverse_cons, List.append_assoc, List.singleton_append]

/-- The order of fields with different names does not matter to a lookup. -/
theorem lookup_reverse {given : List (String × Json)} (hnodup : (given.map (·.1)).Nodup)
    (key : String) : given.reverse.lookup key = given.lookup key := by
  induction given with
  | nil => rfl
  | cons field given ih =>
      obtain ⟨k, j⟩ := field
      rw [List.map_cons, List.nodup_cons] at hnodup
      rw [List.reverse_cons, List.lookup_append, ih hnodup.2, List.lookup_cons, List.lookup_cons]
      by_cases hkey : key = k
      · subst hkey
        rw [lookup_eq_none hnodup.1, Option.none_or]
        rfl
      · have hne : (key == k) = false := by simpa using hkey
        rw [hne, List.lookup_nil, Option.or_none]

/-- What a record is filled with is told by lookups. -/
theorem fillFields_congr {given other : List (String × Json)}
    (h : ∀ key, given.lookup key = other.lookup key) (keys : List String)
    (defaults : List (Option Json)) :
    fillFields given keys defaults = fillFields other keys defaults := by
  induction keys generalizing defaults with
  | nil => simp only [fillFields]
  | cons key keys ih => cases defaults <;> simp only [fillFields, h, ih]

/-- A record is read from fields that are in their regular form; those that are not given
have their defaults. -/
theorem Shape.takes_record {name : String} {given filled : List (String × Json)}
    (hkeeps : ∀ field ∈ given, fields.Keeps field) (hnodup : (given.map (·.1)).Nodup)
    (hfill : fillFields given fields.keys fields.defaults = .ok filled) :
    (Shape.record name fields).Takes (.object given) (.object filled) where
  check := by
    rw [Shape.check, mapM_eq_ok (l := given)]
    · simp only [hfill, Except.map]
    · intro field hfield
      obtain ⟨shape, hshape, hj⟩ := hkeeps field hfield
      simp only [Fields.checkField_of_shape? hshape, hj.check, Except.map]
  reads := by
    intro c rest hc _
    have hclosed : ∀ after : Cursor, after.rest = byte '}' :: rest →
        close (endObject after) (.ok (.object filled)) = .ok (.object filled, after.advance) := by
      intro after hafter
      simp only [endObject, Cursor.skipBlanks_of_rest hafter (by decide),
        Cursor.peek?_of_rest hafter, ↓reduceIte, close]
    have hbracket : byte '{' ≠ byte '[' := by decide
    obtain ⟨hkeys, hdefaults⟩ := fields.map_key_readers
    cases given with
    | nil =>
        have hbytes : utf8 (Json.object []).write = [byte '{', byte '}'] := rfl
        rw [hbytes, List.cons_append] at hc
        have hend : c.advance.rest = byte '}' :: rest := by rw [Cursor.rest_advance, hc]; rfl
        refine ⟨c.advance.advance, ?_, by rw [Cursor.rest_advance, hend, List.tail_cons]⟩
        simp only [Shape.reader_record, readRecord, onByte_of_rest hc (by decide), hbracket,
          ↓reduceIte, readFields, nextKey, Cursor.skipBlanks_of_rest hend (by decide),
          Cursor.peek?_of_rest hend, Except.bind, hkeys, hdefaults, hfill, Except.map,
          hclosed _ hend]
    | cons field others =>
        rw [write_object_cons, utf8_cons_of_lt (by decide), utf8_append, List.cons_append,
          List.append_assoc] at hc
        have hstart : c.advance.rest =
            utf8 (writeField field) ++ (utf8 (writeFields others) ++ rest) := by
          rw [Cursor.rest_advance, hc, List.tail_cons]
        obtain ⟨more, hquote⟩ := exists_utf8_writeField field
        have hnext := nextKey_first (hstart.trans (by rw [hquote]; rfl))
        obtain ⟨between, hread, hbetween⟩ := readFields_field (hkeeps field (by simp)) [] rfl
          hnext hstart (canFollow_writeFields others rest)
        have hlength := length_lt_utf8_writeFields others
        have hdistinct : ((others.reverse ++ [field]).map (·.1)).Nodup := by
          rw [← List.reverse_cons, List.map_reverse]
          exact (List.reverse_perm _).nodup_iff.2 hnodup
        have hfuel : others.length < c.rest.length := by
          simp only [hc, List.length_cons, List.length_append]
          omega
        obtain ⟨after, hmore, hafter⟩ := readFields_writeFields
          (fun f hf => hkeeps f (List.mem_cons_of_mem field hf)) [field] hdistinct hbetween _ hfuel
        refine ⟨after.advance, ?_, by rw [Cursor.rest_advance, hafter, List.tail_cons]⟩
        rw [← List.reverse_cons] at hmore
        rw [← fillFields_congr (lookup_reverse hnodup)] at hfill
        simp only [Shape.reader_record, readRecord, onByte_of_rest hc (by decide), hbracket,
          ↓reduceIte, hread, hmore, Except.bind, hkeys, hdefaults, hfill, Except.map,
          hclosed _ hafter]
  starts := by
    cases given with
    | nil => exact ⟨byte '{', [byte '}'], rfl, by decide, by decide⟩
    | cons field others =>
        exact ⟨byte '{', _, by rw [write_object_cons, utf8_cons_of_lt (by decide)],
          by decide, by decide⟩

theorem isWritten_object (given : List (String × Json)) : IsWritten (.object given) := by
  have hne : some (byte '{') ≠ some (byte 'n') := by decide
  cases given with
  | nil => exact hne
  | cons field others =>
      rw [IsWritten, write_object_cons, utf8_cons_of_lt (by decide)]
      exact hne

end Records

end StoryMend.Json
