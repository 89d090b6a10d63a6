import StoryMend.Proofs.Text.Lines
import StoryMend.Text.Letter

/-!
The tables of characters as lists.  The marks of a packed table spell numbers, the numbers add up
to the bounds of a set or to the runs of a map, and what is looked up in a map is looked up in
one of its runs (`exists_run_of_counterpart?`).
-/

namespace StoryMend.Text

/-! ### The numbers that marks spell -/

namespace Packed

/-- The values of all marks in one number, eight bits for each code. -/
def valueBits : Nat :=
  alphabet.toList.zipIdx.foldl (fun bits (c, i) => bits + i <<< (8 * c.toNat)) 0

/-- The value of the mark with a code. -/
def valueAt (code : Nat) : Nat := valueBits >>> (8 * code) % 256

-- The kernel reads the characters of a literal off at once, but not those of its bytes; so a
-- literal is seen as made of its characters before anything is evaluated.

theorem toList_values : values.toList = (List.range 128).map valueAt := by
  unfold valueAt
  rw [values, valueBits, alphabet, String.toList_ofList]
  decide +kernel

theorem shiftRight_valueBits : valueBits >>> (8 * 128) = 0 := by
  rw [valueBits, alphabet, String.toList_ofList]
  decide +kernel

theorem getD_values (code : Nat) : values.getD code 0 = valueAt code := by
  have hlist : values.getD code 0 = values.toList.getD code 0 := by simp
  rw [hlist, toList_values]
  by_cases hcode : code < 128
  · simp [List.getD, hcode]
  · have hbits : 8 * code = 8 * 128 + 8 * (code - 128) := by omega
    have hzero : valueAt code = 0 := by
      rw [valueAt, hbits, Nat.shiftRight_add, shiftRight_valueBits, Nat.zero_shiftRight]
    simp [List.getD, hcode, hzero]

/-- The numbers that marks spell, the first of which is begun. -/
def spelledFrom (value scale : Nat) : List Char → List Nat
  | [] => []
  | c :: rest =>
    if valueAt c.toNat < 32 then (value + valueAt c.toNat * scale) :: spelledFrom 0 1 rest
    else spelledFrom (value + (valueAt c.toNat - 32) * scale) (scale * 32) rest

/-- The numbers that the lines of a text spell. -/
def spelled (lines : List String) : List Nat := spelledFrom 0 1 (lines.flatMap String.toList)

theorem toList_done_foldl_mark (r : Reading) (s : List Char) :
    (s.foldl Reading.mark r).done.toList = r.done.toList ++ spelledFrom r.value r.scale s := by
  induction s generalizing r with
  | nil => simp [spelledFrom]
  | cons c s ih =>
      rw [List.foldl_cons, ih, Reading.mark, getD_values, spelledFrom]
      by_cases hends : valueAt c.toNat < 32
      · simp [hends]
      · simp [hends]

theorem toList_numbers (lines : List String) : (numbers lines).toList = spelled lines := by
  have hlines : lines.foldl (fun r line => String.foldl Reading.mark r line) {} =
      (lines.flatMap String.toList).foldl Reading.mark {} := by
    simp only [String.foldl_eq_foldl_toList, List.foldl_flatMap]
  rw [numbers, hlines, toList_done_foldl_mark]
  rfl

end Packed

/-! ### The bounds of sets -/

namespace CharSet

/-- The sums of gaps, after a first one. -/
def sumsFrom (last : Nat) : List Nat → List Nat
  | [] => []
  | gap :: rest => (last + gap) :: sumsFrom (last + gap) rest

theorem foldl_push_sum (bounds : Array Nat) (last : Nat) (gaps : List Nat) :
    (gaps.foldl (fun (bounds, last) gap => (bounds.push (last + gap), last + gap))
      (bounds, last)).1 = bounds ++ (sumsFrom last gaps).toArray := by
  induction gaps generalizing bounds last with
  | nil => simp [sumsFrom]
  | cons gap gaps ih => simp [sumsFrom, ih]

theorem bounds_ofPacked (lines : List String) :
    (ofPacked lines).bounds = (sumsFrom 0 (Packed.spelled lines)).toArray := by
  rw [← Packed.toList_numbers, ofPacked, ← Array.foldl_toList]
  simpa using foldl_push_sum #[] 0 (Packed.numbers lines).toList

end CharSet

/-- Of the elements that the search counts, if any, the last one is at most `n`. -/
theorem getD_le_of_countUpTo {sorted : Array Nat} {n lo hi k : Nat}
    (hlo : ∀ j, lo = j + 1 → sorted.getD j 0 ≤ n) (h : countUpTo sorted n lo hi = k + 1) :
    sorted.getD k 0 ≤ n := by
  fun_induction countUpTo sorted n lo hi with
  | case1 lo hi hlt mid hle ih =>
      apply ih _ h
      intro j hj
      rwa [← Nat.succ.inj hj]
  | case2 lo hi hlt mid hgt ih => exact ih hlo h
  | case3 lo hi hge => exact hlo k h

/-! ### The runs of maps -/

namespace CaseMap

/-- The run that four numbers spell, after one up to `last`. -/
def runOf (last gap strides stride sign : Nat) : CaseRun where
  first := last + gap
  last := last + gap + strides * stride
  stride := stride
  distance := if sign % 2 = 0 then Int.ofNat (sign / 2) else -(Int.ofNat ((sign + 1) / 2))

/-- The runs that numbers spell, after one up to `last`. -/
def runsFrom (last : Nat) : List Nat → List CaseRun
  | gap :: strides :: stride :: sign :: rest =>
    runOf last gap strides stride sign :: runsFrom (runOf last gap strides stride sign).last rest
  | _ => []

theorem runsFrom_of_length_lt (last : Nat) {codes : List Nat} (h : codes.length < 4) :
    runsFrom last codes = [] := by
  match codes, h with
  | [], _ | [_], _ | [_, _], _ | [_, _, _], _ => rfl

/-- Reads a run: the starts and the runs so far, and the last character of the last one. -/
def addRun (codes : Array Nat) (read : Array Nat × Array CaseRun × Nat) (i : Nat) :
    Array Nat × Array CaseRun × Nat :=
  let run := runOf read.2.2 (codes.getD (4 * i) 0) (codes.getD (4 * i + 1) 0)
    (codes.getD (4 * i + 2) 0) (codes.getD (4 * i + 3) 0)
  (read.1.push run.first, read.2.1.push run, run.last)

theorem ofPacked_eq_foldl (lines : List String) :
    ofPacked lines =
      let codes := Packed.numbers lines
      let read := (List.range' 0 (codes.size / 4)).foldl (addRun codes) (#[], #[], 0)
      { starts := read.1, runs := read.2.1 } := by
  unfold ofPacked
  simp only [Id.run, Std.Legacy.Range.forIn_eq_forIn_range', List.forIn_pure_yield_eq_foldl,
    Std.Legacy.Range.size, Nat.sub_zero, Nat.add_sub_cancel, Nat.div_one]
  rfl

theorem drop_toList_eq_cons (codes : Array Nat) {n : Nat} (hn : n < codes.size) :
    codes.toList.drop n = codes.getD n 0 :: codes.toList.drop (n + 1) := by
  rw [List.drop_eq_getElem_cons (by simpa using hn)]
  simp [Array.getD, hn]

/-- Reading from a place on adds the runs that the numbers from there on spell. -/
theorem foldl_addRun (codes : Array Nat) (read : Array Nat × Array CaseRun × Nat) {k m : Nat}
    (hm : codes.size / 4 = k + m) :
    let runs := runsFrom read.2.2 (codes.toList.drop (4 * k))
    let result := (List.range' k m).foldl (addRun codes) read
    result.1 = read.1 ++ (runs.map CaseRun.first).toArray ∧
      result.2.1 = read.2.1 ++ runs.toArray := by
  induction m generalizing k read with
  | zero =>
      rw [runsFrom_of_length_lt _ (by simp; omega)]
      simp
  | succ m ih =>
      have hdrop : codes.toList.drop (4 * k) = codes.getD (4 * k) 0 :: codes.getD (4 * k + 1) 0 ::
          codes.getD (4 * k + 2) 0 :: codes.getD (4 * k + 3) 0 ::
            codes.toList.drop (4 * (k + 1)) := by
        rw [drop_toList_eq_cons codes (by omega), drop_toList_eq_cons codes (by omega),
          drop_toList_eq_cons codes (by omega), drop_toList_eq_cons codes (by omega)]
        rfl
      have hrest := ih (addRun codes read k) (k := k + 1) (by omega)
      rw [hdrop, List.range'_succ, List.foldl_cons, runsFrom]
      simp only [addRun] at hrest ⊢
      rw [hrest.1, hrest.2]
      simp

theorem ofPacked_eq (lines : List String) :
    ofPacked lines =
      { starts := ((runsFrom 0 (Packed.spelled lines)).map CaseRun.first).toArray
        runs := (runsFrom 0 (Packed.spelled lines)).toArray } := by
  have hfold := foldl_addRun (Packed.numbers lines) (#[], #[], 0) (k := 0) (Nat.zero_add _).symm
  rw [ofPacked_eq_foldl]
  dsimp only at hfold ⊢
  rw [hfold.1, hfold.2, ← Packed.toList_numbers]
  simp

/-- A counterpart is the one in a run that the character lies in. -/
theorem exists_run_of_counterpart? {lines : List String} {c d : Char}
    (h : (ofPacked lines).counterpart? c = some d) :
    ∃ run ∈ (ofPacked lines).runs, run.first ≤ c.toNat ∧ c.toNat ≤ run.last ∧
      d = Char.ofNat (c.toNat + run.distance).toNat := by
  rw [ofPacked_eq, counterpart?] at h
  rw [ofPacked_eq]
  dsimp only at h ⊢
  split at h
  · cases h
  next n hcount =>
    have hfirst := getD_le_of_countUpTo (by omega) hcount
    split at h
    · cases h
    next run hrun =>
      rw [List.getElem?_toArray] at hrun
      split at h
      next hin =>
        rw [Bool.and_eq_true, decide_eq_true_eq] at hin
        have hmem := List.mem_toArray.2 (List.mem_of_getElem? hrun)
        refine ⟨run, hmem, ?_, hin.1, (Option.some.inj h).symm⟩
        simpa [Array.getD_eq_getD_getElem?, hrun] using hfirst
      · cases h

end CaseMap

end StoryMend.Text
