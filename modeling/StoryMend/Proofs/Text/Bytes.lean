import Mathlib
import StoryMend.Proofs.Json.Text
import StoryMend.Syntax.Source
import StoryMend.Text.Line

/-!
The bytes of a text.  A character of the first 128 is one byte, and any other one has bytes that
are none of the first 128, so a byte of the first 128 tells where a character stands
(`exists_parts_of_drop`), and what only such characters satisfy is found alike in a text and in its
bytes (`takeWhile_bytes`).
-/

namespace StoryMend.Text

open Syntax (slice?)

/-- The bytes of a text in UTF-8.  Each is given as the character with its code, so that the same
can be asked of bytes and of characters. -/
def bytes (s : List Char) : List Char := (Json.utf8 s).map Char.ofUInt8

/-- How many bytes a text has. -/
def byteLength (s : List Char) : Nat := (bytes s).length

/-- Whether something is true of some of the first 128 characters only. -/
def OnPlain (p : Char → Bool) : Prop := ∀ c, p c = true → c.toNat < 128

variable {p : Char → Bool} {c d : Char} {s front mid back rest : List Char}

/-! ### Bytes of characters -/

theorem bytes_append (s t : List Char) : bytes (s ++ t) = bytes s ++ bytes t := by
  rw [bytes, Json.utf8_append, List.map_append, bytes, bytes]

theorem bytes_cons (c : Char) (s : List Char) : bytes (c :: s) = bytes [c] ++ bytes s :=
  bytes_append [c] s

theorem ofUInt8_byte (hc : c.toNat < 128) : Char.ofUInt8 (Json.byte c) = c := by
  apply Char.ext
  apply UInt32.toNat_inj.1
  exact Json.toNat_byte hc

/-- One of the first 128 characters is its own byte. -/
theorem bytes_plain (hc : c.toNat < 128) (s : List Char) : bytes (c :: s) = c :: bytes s := by
  rw [bytes, Json.utf8_cons_of_lt hc, List.map_cons, ofUInt8_byte hc, bytes]

/-- The bytes of any other character are none of the first 128. -/
theorem wide_of_mem_bytes (hc : 128 ≤ c.toNat) {u : Char} (hu : u ∈ bytes [c]) :
    128 ≤ u.toNat := by
  obtain ⟨b, hb, rfl⟩ := List.mem_map.1 hu
  rw [Json.utf8_cons, Json.utf8_nil, List.append_nil] at hb
  exact Json.le_of_mem_utf8EncodeChar hc hb

theorem length_bytes_singleton (c : Char) : (bytes [c]).length = c.utf8Size := by
  rw [bytes, Json.utf8_cons, Json.utf8_nil, List.append_nil, List.length_map,
    String.length_utf8EncodeChar]

theorem utf8Size_plain (hc : c.toNat < 128) : c.utf8Size = 1 := by
  rw [← length_bytes_singleton, bytes_plain hc]
  rfl

theorem bytes_singleton_ne_nil (c : Char) : bytes [c] ≠ [] := by
  have hlength := length_bytes_singleton c
  have hpos := c.utf8Size_pos
  exact List.ne_nil_of_length_pos (by omega)

theorem bytes_eq_nil_iff : bytes s = [] ↔ s = [] := by
  cases s with
  | nil => exact iff_of_true rfl rfl
  | cons c s =>
      rw [bytes_cons]
      refine iff_of_false ?_ (List.cons_ne_nil c s)
      exact List.append_ne_nil_of_left_ne_nil (bytes_singleton_ne_nil c) _

theorem ne_of_wide (hc : 128 ≤ c.toNat) (hd : d.toNat < 128) : c ≠ d := by
  rintro rfl
  omega

theorem OnPlain.eq_false_of_wide (hp : OnPlain p) (hc : 128 ≤ c.toNat) : p c = false := by
  rw [← Bool.not_eq_true]
  intro h
  have := hp c h
  omega

/-- A byte of the first 128 is a character. -/
theorem exists_parts_of_drop {i : Nat} (h : (bytes s).drop i = d :: rest) (hd : d.toNat < 128) :
    ∃ front back, s = front ++ d :: back ∧ i = (bytes front).length ∧ rest = bytes back := by
  induction s generalizing i with
  | nil =>
      rw [bytes, Json.utf8_nil, List.map_nil, List.drop_nil] at h
      cases h
  | cons c s ih =>
      rw [bytes_cons] at h
      by_cases hi : i < (bytes [c]).length
      · rw [List.drop_append_of_le_length (Nat.le_of_lt hi), List.drop_eq_getElem_cons hi] at h
        obtain ⟨rfl, hrest⟩ := List.cons.inj h
        have hc : c.toNat < 128 := by
          by_contra hc
          have hwide := wide_of_mem_bytes (Nat.not_lt.1 hc) (List.getElem_mem hi)
          omega
        have hplain : bytes [c] = [c] := bytes_plain hc []
        rw [hplain, List.length_singleton] at hi
        obtain rfl : i = 0 := by omega
        refine ⟨[], s, ?_, rfl, ?_⟩
        · simp only [hplain, List.getElem_cons_zero, List.nil_append]
        · rw [← hrest, hplain]
          rfl
      · rw [List.drop_append, List.drop_eq_nil_of_le (Nat.not_lt.1 hi), List.nil_append] at h
        obtain ⟨front, back, rfl, hlength, hrest⟩ := ih h
        refine ⟨c :: front, back, rfl, ?_, hrest⟩
        rw [bytes_cons, List.length_append]
        omega

/-! ### Lengths -/

theorem byteLength_append (s t : List Char) :
    byteLength (s ++ t) = byteLength s + byteLength t := by
  rw [byteLength, bytes_append, List.length_append, byteLength, byteLength]

theorem byteLength_cons (c : Char) (s : List Char) :
    byteLength (c :: s) = c.utf8Size + byteLength s := by
  rw [byteLength, bytes_cons, List.length_append, length_bytes_singleton, byteLength]

theorem byteLength_plain (hs : ∀ c ∈ s, c.toNat < 128) : byteLength s = s.length := by
  induction s with
  | nil => rfl
  | cons c s ih =>
      obtain ⟨hc, hs⟩ := List.forall_mem_cons.1 hs
      rw [byteLength, bytes_plain hc, List.length_cons, List.length_cons, ← ih hs, byteLength]

theorem byteLength_take_succ (hc : c.toNat < 128) (s : List Char) (n : Nat) :
    byteLength ((c :: s).take (1 + n)) = 1 + byteLength (s.take n) := by
  rw [Nat.add_comm 1 n, List.take_succ_cons, byteLength_cons, utf8Size_plain hc]

theorem byteLength_take_add_two (hc : c.toNat < 128) (hd : d.toNat < 128) (s : List Char)
    (n : Nat) : byteLength ((c :: d :: s).take (2 + n)) = 2 + byteLength (s.take n) := by
  have htwo (m : Nat) : 2 + m = 1 + (1 + m) := by omega
  rw [htwo, htwo, byteLength_take_succ hc, byteLength_take_succ hd]

theorem byteLength_eq_zero_iff : byteLength s = 0 ↔ s = [] := by
  rw [byteLength, List.length_eq_zero_iff, bytes_eq_nil_iff]

theorem byteLength_take_mono {i j : Nat} (hle : i ≤ j) :
    byteLength (s.take i) ≤ byteLength (s.take j) := by
  have hsplit : s.take j = s.take i ++ (s.take j).drop i := by
    conv_lhs => rw [← List.take_append_drop i (s.take j), List.take_take, Nat.min_eq_left hle]
  rw [hsplit, byteLength_append]
  exact Nat.le_add_right _ _

/-- Characters and bytes count the places of a text alike. -/
theorem byteLength_take_le_iff {i j : Nat} (hi : i ≤ s.length) :
    byteLength (s.take i) ≤ byteLength (s.take j) ↔ i ≤ j := by
  refine ⟨fun hle => ?_, byteLength_take_mono⟩
  by_contra hlt
  have hsplit : s.take i = s.take j ++ (s.take i).drop j := by
    conv_lhs => rw [← List.take_append_drop j (s.take i), List.take_take,
      Nat.min_eq_left (Nat.le_of_lt (Nat.not_le.1 hlt))]
  rw [hsplit, byteLength_append] at hle
  have hnil := byteLength_eq_zero_iff.1 (show byteLength ((s.take i).drop j) = 0 by omega)
  have hlength := congrArg List.length hnil
  rw [List.length_drop, List.length_take, Nat.min_eq_left hi, List.length_nil] at hlength
  omega

/-! ### Parts of a text -/

/-- The part between two places where characters start. -/
theorem slice?_append (front mid back : List Char) :
    slice? (byteLength front) (byteLength front + byteLength mid) (front ++ (mid ++ back)) =
      some mid := by
  induction front with
  | nil =>
      rw [byteLength, bytes, Json.utf8_nil, List.map_nil, List.length_nil, Nat.zero_add,
        List.nil_append]
      induction mid with
      | nil => simp [byteLength, bytes, slice?]
      | cons c mid ih =>
          have hpos := c.utf8Size_pos
          rw [byteLength_cons, List.cons_append, slice?]
          · rw [if_pos rfl, if_pos (Nat.le_add_right _ _), Nat.add_sub_cancel_left, ih]
            rfl
          · omega
  | cons c front ih =>
      have hpos := c.utf8Size_pos
      rw [byteLength_cons, List.cons_append, slice?]
      · rw [if_neg (by omega), if_pos (by omega), Nat.add_sub_cancel_left, Nat.add_assoc,
          Nat.add_sub_cancel_left, ih]
      · omega

/-! ### What only the first 128 characters satisfy -/

theorem onPlain_isAlphanum : OnPlain Char.isAlphanum := by
  intro c hc
  simp only [Char.isAlphanum, Char.isAlpha, Char.isUpper, Char.isLower, Char.isDigit,
    Bool.or_eq_true, Bool.and_eq_true, decide_eq_true_eq, ge_iff_le, UInt32.le_iff_toNat_le] at hc
  have hcode : c.toNat = c.val.toNat := rfl
  have hcapital : 'Z'.val.toNat = 90 := rfl
  have hsmall : 'z'.val.toNat = 122 := rfl
  have hdigit : '9'.val.toNat = 57 := rfl
  omega

theorem onPlain_isAlpha : OnPlain Char.isAlpha := by
  intro c hc
  apply onPlain_isAlphanum c
  rw [Char.isAlphanum, hc, Bool.true_or]

theorem onPlain_beq (hd : d.toNat < 128) : OnPlain (· == d) := by
  intro c hc
  rw [beq_iff_eq.1 hc]
  exact hd

theorem OnPlain.or {q : Char → Bool} (hp : OnPlain p) (hq : OnPlain q) :
    OnPlain fun c => p c || q c := by
  intro c hc
  rcases Bool.or_eq_true_iff.1 hc with h | h
  · exact hp c h
  · exact hq c h

theorem onPlain_isPlainBlank : OnPlain isPlainBlank := by
  have hfeed : OnPlain fun c => c.toNat == 12 := by
    intro c hc
    have hcode := beq_iff_eq.1 hc
    omega
  exact ((((onPlain_beq (by decide)).or (onPlain_beq (by decide))).or
    (onPlain_beq (by decide))).or (onPlain_beq (by decide))).or hfeed

/-- Two characters are the same, or neither is one of the first 128. -/
def Alike (c d : Char) : Prop := c = d ∨ 128 ≤ c.toNat ∧ 128 ≤ d.toNat

theorem OnPlain.eq_of_alike (hp : OnPlain p) (h : Alike c d) : p c = p d := by
  rcases h with rfl | ⟨hc, hd⟩
  · rfl
  · rw [hp.eq_false_of_wide hc, hp.eq_false_of_wide hd]

theorem beq_of_alike (h : Alike c d) {e : Char} (he : e.toNat < 128) : (c == e) = (d == e) :=
  (onPlain_beq he).eq_of_alike h

theorem ne_of_alike (h : Alike c d) {e : Char} (hne : d ≠ e) (he : e.toNat < 128) : c ≠ e := by
  rw [← beq_eq_false_iff_ne, beq_of_alike h he]
  exact beq_eq_false_iff_ne.2 hne

theorem OnPlain.any_eq_of_alike (hp : OnPlain p) {x y : Option Char}
    (h : Option.Rel Alike x y) : x.any p = y.any p := by
  cases h with
  | none => rfl
  | some h => exact hp.eq_of_alike h

/-- What is one of the first 128 characters is so of both of two alike. -/
theorem eq_some_iff_of_alike {x y : Option Char} (h : Option.Rel Alike x y)
    (hd : d.toNat < 128) : x = some d ↔ y = some d := by
  cases h with
  | none => exact Iff.rfl
  | some h =>
      rw [Option.some.injEq, Option.some.injEq, ← beq_iff_eq, beq_of_alike h hd, beq_iff_eq]

/-- A way to spell characters that keeps the first 128 and spells any other one by some that are
none of the first 128. -/
structure IsSpelling (spell : Char → List Char) : Prop where
  plain : ∀ c, c.toNat < 128 → spell c = [c]
  wide : ∀ c, 128 ≤ c.toNat → spell c ≠ [] ∧ ∀ u ∈ spell c, 128 ≤ u.toNat

section Spelling

variable {spell : Char → List Char}

theorem bytes_eq_flatMap (s : List Char) : bytes s = s.flatMap fun c => bytes [c] := by
  induction s with
  | nil => rfl
  | cons c s ih => rw [bytes_cons, List.flatMap_cons, ih]

theorem isSpelling_bytes : IsSpelling fun c => bytes [c] where
  plain _ hc := bytes_plain hc []
  wide c hc := ⟨bytes_singleton_ne_nil c, fun _ hu => wide_of_mem_bytes hc hu⟩

/-- The bytes from the last one on. -/
theorem reverse_bytes (s : List Char) :
    (bytes s.reverse).reverse = s.flatMap fun c => (bytes [c]).reverse := by
  induction s with
  | nil => rfl
  | cons c s ih =>
      rw [List.reverse_cons, bytes_append, List.reverse_append, List.flatMap_cons, ih]

theorem isSpelling_reverse_bytes : IsSpelling fun c => (bytes [c]).reverse where
  plain _ hc := by
    rw [bytes_plain hc]
    rfl
  wide c hc := by
    refine ⟨fun h => bytes_singleton_ne_nil c (List.reverse_eq_nil_iff.1 h), fun u hu => ?_⟩
    exact wide_of_mem_bytes hc (List.mem_reverse.1 hu)

namespace IsSpelling

variable (h : IsSpelling spell)

include h

/-- A character is spelled by itself, or by some that are alike. -/
theorem exists_cons (c : Char) :
    ∃ u more, spell c = u :: more ∧ Alike u c ∧ ∀ v ∈ more, 128 ≤ v.toNat := by
  by_cases hc : c.toNat < 128
  · exact ⟨c, [], h.plain c hc, Or.inl rfl, List.forall_mem_nil _⟩
  · obtain ⟨hne, hwide⟩ := h.wide c (Nat.not_lt.1 hc)
    obtain ⟨u, more, hu⟩ := List.exists_cons_of_ne_nil hne
    rw [hu, List.forall_mem_cons] at hwide
    exact ⟨u, more, hu, Or.inr ⟨hwide.1, Nat.not_lt.1 hc⟩, hwide.2⟩

theorem alike_head? (s : List Char) : Option.Rel Alike (s.flatMap spell).head? s.head? := by
  cases s with
  | nil => exact .none
  | cons c s =>
      obtain ⟨u, more, hu, halike, -⟩ := h.exists_cons c
      rw [List.flatMap_cons, hu]
      exact .some halike

/-- What only the first 128 characters satisfy is found alike. -/
theorem takeWhile_dropWhile (hp : OnPlain p) (s : List Char) :
    (s.flatMap spell).takeWhile p = s.takeWhile p ∧
      (s.flatMap spell).dropWhile p = (s.dropWhile p).flatMap spell := by
  induction s with
  | nil => exact ⟨rfl, rfl⟩
  | cons c s ih =>
      rw [List.flatMap_cons]
      cases hpc : p c with
      | true =>
          rw [h.plain c (hp c hpc), List.singleton_append, List.takeWhile_cons_of_pos hpc,
            List.takeWhile_cons_of_pos hpc, List.dropWhile_cons_of_pos hpc,
            List.dropWhile_cons_of_pos hpc, ih.1, ih.2]
          exact ⟨rfl, rfl⟩
      | false =>
          obtain ⟨u, more, hu, halike, -⟩ := h.exists_cons c
          have hpu : p u = false := (hp.eq_of_alike halike).trans hpc
          rw [List.takeWhile_cons_of_neg (Bool.eq_false_iff.1 hpc),
            List.dropWhile_cons_of_neg (Bool.eq_false_iff.1 hpc), List.flatMap_cons, hu,
            List.cons_append, List.takeWhile_cons_of_neg (Bool.eq_false_iff.1 hpu),
            List.dropWhile_cons_of_neg (Bool.eq_false_iff.1 hpu)]
          exact ⟨rfl, rfl⟩

/-- A word of the first 128 characters stands at the start alike. -/
theorem after?_flatMap (word : List Char) (hword : ∀ c ∈ word, c.toNat < 128) (s : List Char) :
    after? word (s.flatMap spell) = (after? word s).map (·.flatMap spell) := by
  induction word generalizing s with
  | nil => rfl
  | cons d word ih =>
      obtain ⟨hd, hword⟩ := List.forall_mem_cons.1 hword
      cases s with
      | nil => rfl
      | cons c s =>
          rw [List.flatMap_cons, after?]
          by_cases hdc : d = c
          · rw [if_pos hdc, h.plain c (hdc ▸ hd), List.singleton_append, after?, if_pos hdc,
              ih hword]
          · obtain ⟨u, more, hu, halike, -⟩ := h.exists_cons c
            have hne : d ≠ u := (ne_of_alike halike (Ne.symm hdc) hd).symm
            rw [if_neg hdc, hu, List.cons_append, after?, if_neg hne]
            rfl

end IsSpelling

end Spelling

theorem takeWhile_bytes (hp : OnPlain p) (s : List Char) :
    (bytes s).takeWhile p = s.takeWhile p := by
  rw [bytes_eq_flatMap]
  exact (isSpelling_bytes.takeWhile_dropWhile hp s).1

theorem dropWhile_bytes (hp : OnPlain p) (s : List Char) :
    (bytes s).dropWhile p = bytes (s.dropWhile p) := by
  rw [bytes_eq_flatMap, bytes_eq_flatMap]
  exact (isSpelling_bytes.takeWhile_dropWhile hp s).2

theorem alike_head?_bytes (s : List Char) : Option.Rel Alike (bytes s).head? s.head? := by
  rw [bytes_eq_flatMap]
  exact isSpelling_bytes.alike_head? s

end StoryMend.Text
