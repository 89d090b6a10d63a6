import Mathlib.Data.List.Induction
import Mathlib.Data.List.Nodup
import StoryMend.Inventory

/-!
Inventories and the lists of their components.  An inventory has one component of each
name, so it is told by its list up to the order in which the index was built, and the list
of an inventory that was made of components makes the same inventory again.  Of the components
that it is made of it keeps the first one of each name, and finds it under this name
(`ofList_represents`).
-/

namespace StoryMend.Inventory

variable (inv : Inventory)

/-- A component is added at the end, unless its name is there. -/
theorem toList_add (c : Component) :
    (inv.add c).toList = if c.name ∈ inv.names then inv.toList else inv.toList ++ [c] := by
  have hpresent : inv.positions[c.name]? = none ↔ c.name ∉ inv.names := by
    rw [← inv.contains_iff_mem_names, contains, Std.HashMap.contains_eq_isSome_getElem?]
    simp
  rw [add]
  split
  · next h => rw [if_neg (hpresent.1 h), toList, toList, Array.toList_push]
  · next h => rw [if_pos (by simpa using mt hpresent.2 h)]

theorem add_of_mem {c : Component} (h : c.name ∈ inv.names) : inv.add c = inv := by
  have hsome : inv.positions[c.name]? ≠ none := by
    rw [← inv.contains_iff_mem_names, contains, Std.HashMap.contains_eq_isSome_getElem?] at h
    exact fun hnone => by simp [hnone] at h
  rw [add, dif_neg hsome]

/-- An inventory has one component of each name. -/
theorem nodup_names : inv.names.Nodup := by
  rw [List.nodup_iff_getElem?_ne_getElem?]
  intro i j hij hj heq
  have hname : ∀ k : Nat, inv.names[k]? = (inv.entries[k]?).map Component.name := by
    intro k
    simp [names, toList]
  obtain ⟨name, hfound⟩ : ∃ name, inv.names[j]? = some name := ⟨_, List.getElem?_eq_getElem hj⟩
  have hi := (inv.filed name i).2 ((hname i).symm.trans (heq.trans hfound))
  have hj' := (inv.filed name j).2 ((hname j).symm.trans hfound)
  exact absurd (Option.some.inj (hi.symm.trans hj')) (Nat.ne_of_lt hij)

theorem ofList_append_singleton (l : List Component) (c : Component) :
    ofList (l ++ [c]) = (ofList l).add c := by
  rw [ofList, ofList, List.foldl_append]
  rfl

/-- The inventory of components with different names has exactly these. -/
theorem toList_ofList {l : List Component} (h : (l.map Component.name).Nodup) :
    (ofList l).toList = l := by
  induction l using List.reverseRecOn with
  | nil => rfl
  | append_singleton l c ih =>
      rw [List.map_append, List.nodup_append] at h
      have hlist := ih h.1
      have hnew : c.name ∉ (ofList l).names := by
        rw [names, hlist]
        intro hmem
        exact h.2.2 _ hmem _ (by simp) rfl
      rw [ofList_append_singleton, toList_add, if_neg hnew, hlist]

theorem names_ofList {l : List Component} (h : (l.map Component.name).Nodup) :
    (ofList l).names = l.map Component.name := by
  rw [names, toList_ofList h]

theorem names_ofNames (importPath : String) {names : List String} (h : names.Nodup) :
    (ofNames importPath names).names = names := by
  have hnames : (names.map fun name => ({ name, importPath } : Component)).map Component.name =
      names := by
    rw [List.map_map]
    exact List.map_id names
  rw [ofNames, names_ofList (by rwa [hnames]), hnames]

/-- The list of an inventory's components makes the same inventory. -/
theorem ofList_toList_ofList (l : List Component) : ofList (ofList l).toList = ofList l := by
  induction l using List.reverseRecOn with
  | nil => rfl
  | append_singleton l c ih =>
      rw [ofList_append_singleton, toList_add]
      split
      · next h => rw [ih, add_of_mem _ h]
      · rw [ofList_append_singleton, ih]

/-- Inventories with the same components file them at the same places. -/
theorem positions_congr {inv other : Inventory} (h : inv.toList = other.toList) :
    inv.positions.Equiv other.positions := by
  have hentries : inv.entries = other.entries := Array.toList_inj.1 h
  refine Std.HashMap.Equiv.of_forall_getElem?_eq fun name => Option.ext fun i => ?_
  rw [inv.filed, other.filed, hentries]

/-! ### What is kept and what is found -/

/-- What is added to an inventory: of each new name the first component. -/
theorem toList_foldl_add (components : List Component) (inv : Inventory) :
    (components.foldl add inv).toList =
      inv.toList ++ (components.filter (·.name ∉ inv.names)).eraseDupsBy
        (fun a b => a.name == b.name) := by
  induction components generalizing inv with
  | nil => simp
  | cons c rest ih =>
      rw [List.foldl_cons, ih]
      by_cases hc : c.name ∈ inv.names
      · rw [add_of_mem inv hc, List.filter_cons_of_neg (by simpa using hc)]
      · have hlist : (inv.add c).toList = inv.toList ++ [c] := by rw [toList_add, if_neg hc]
        have hnames : (inv.add c).names = inv.names ++ [c.name] := by
          rw [names, hlist, List.map_append]
          rfl
        -- What has a name that is new after `c` has one that was new before, and another one.
        have hlater : rest.filter (·.name ∉ (inv.add c).names) =
            (rest.filter (·.name ∉ inv.names)).filter
              (fun b => decide ((b.name == c.name) = false)) := by
          rw [List.filter_filter]
          refine List.filter_congr fun b _ => ?_
          simp [hnames, and_comm]
        rw [hlist, hlater, List.filter_cons_of_pos (by simpa using hc), List.eraseDupsBy_cons,
          List.append_assoc, List.singleton_append]

theorem find?_eq_none_iff (name : String) :
    inv.toList.find? (·.name == name) = none ↔ name ∉ inv.names := by
  simp [names, List.find?_eq_none]

/-- The place that the index has for a name is that of the only component of this name. -/
theorem get?_eq_find? (name : String) : inv.get? name = inv.toList.find? (·.name == name) := by
  cases hfound : inv.toList.find? (·.name == name) with
  | none =>
      have habsent := (inv.find?_eq_none_iff name).1 hfound
      have hposition : inv.positions[name]? = none := by
        rw [← inv.contains_iff_mem_names, contains,
          Std.HashMap.contains_eq_isSome_getElem?] at habsent
        simpa using habsent
      rw [get?, hposition]
  | some c =>
      have hname : c.name = name := by simpa using List.find?_some hfound
      obtain ⟨i, hi⟩ := List.mem_iff_getElem?.1 (List.mem_of_find?_eq_some hfound)
      rw [toList, Array.getElem?_toList] at hi
      have hposition : inv.positions[name]? = some i := by
        rw [inv.filed, hi, ← hname]
        rfl
      rw [get?, hposition]
      exact hi

/-- A component is found under its name unless there was one of its name. -/
theorem get?_add (c : Component) (name : String) :
    (inv.add c).get? name = (inv.get? name).or ([c].find? (·.name == name)) := by
  rw [get?_eq_find?, get?_eq_find?, toList_add]
  split
  · next hc =>
      obtain ⟨other, hother, hsame⟩ := List.mem_map.1 hc
      by_cases hname : c.name = name
      · have hsome : (inv.toList.find? (·.name == name)).isSome := by
          rw [List.find?_isSome]
          exact ⟨other, hother, by simpa using hsame.trans hname⟩
        obtain ⟨found, hfound⟩ := Option.isSome_iff_exists.1 hsome
        rw [hfound, Option.some_or]
      · rw [List.find?_singleton, if_neg (by simpa using hname), Option.or_none]
  · rw [List.find?_append]

theorem get?_foldl_add (components : List Component) (inv : Inventory) (name : String) :
    (components.foldl add inv).get? name =
      (inv.get? name).or (components.find? (·.name == name)) := by
  induction components generalizing inv with
  | nil => simp
  | cons c rest ih =>
      rw [List.foldl_cons, ih, get?_add, Option.or_assoc, ← List.find?_append,
        List.singleton_append]

/-- An inventory that is made of components has the first one of each name, in their order, and
finds under a name the first one of that name.  Its index has a place for a name exactly if the
component there has this name, so it never points outside, and the list of what it holds makes
the same inventory again. -/
theorem ofList_represents (components : List Component) :
    (ofList components).toList = components.eraseDupsBy (fun a b => a.name == b.name) ∧
    (ofList components).names.Nodup ∧
    (∀ name, (ofList components).get? name = components.find? (·.name == name)) ∧
    (∀ name, (ofList components).contains name = true ↔ name ∈ (ofList components).names) ∧
    (∀ name i, (ofList components).positions[name]? = some i ↔
      ∃ h : i < (ofList components).entries.size, (ofList components).entries[i].name = name) ∧
    ofList (ofList components).toList = ofList components := by
  refine ⟨?_, nodup_names _, fun name => ?_, contains_iff_mem_names _, fun name i => ?_,
    ofList_toList_ofList components⟩
  · have hnew : components.filter (·.name ∉ empty.names) = components :=
      List.filter_eq_self.2 fun c _ => rfl
    rw [ofList, toList_foldl_add, hnew]
    rfl
  · rw [ofList, get?_foldl_add]
    have hnone : empty.get? name = none := by rw [get?_eq_find?]; rfl
    rw [hnone, Option.none_or]
  · rw [(ofList components).filed, Option.map_eq_some_iff]
    simp only [Array.getElem?_eq_some_iff]
    constructor
    · rintro ⟨c, ⟨h, rfl⟩, hname⟩
      exact ⟨h, hname⟩
    · rintro ⟨h, hname⟩
      exact ⟨_, ⟨h, rfl⟩, hname⟩

end StoryMend.Inventory
