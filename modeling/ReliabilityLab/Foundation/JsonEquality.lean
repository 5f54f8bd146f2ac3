import ReliabilityLab.Foundation.Json
import Mathlib.Data.List.Perm.Basic
import Mathlib.Data.List.Perm.Subperm
import Mathlib.Data.List.Nodup

namespace ReliabilityLab

/-- Where keys are distinct, the value of a key is that of its only item. -/
theorem lookup_eq_some_of_nodup {κ β : Type} [BEq κ] [LawfulBEq κ] {items : List (κ × β)} {key : κ} {value : β}
    (distinct : (items.map Prod.fst).Nodup) : items.lookup key = some value ↔ (key, value) ∈ items := by
  induction items with
  | nil => simp
  | cons item rest ih =>
    obtain ⟨name, first⟩ := item
    simp only [List.map_cons, List.nodup_cons] at distinct
    rw [List.lookup_cons, List.mem_cons]
    by_cases same : key = name
    · subst same
      have absent : (key, value) ∉ rest := fun inside => distinct.1 (List.mem_map_of_mem inside)
      simp [absent, eq_comm]
    · simp [beq_false_of_ne same, ih distinct.2, same]

namespace Json

mutual
/-- Every object in the value has each of its keys once, as a Python dict has. -/
def wellFormed : Json → Bool
  | .arr items => wellFormedList items
  | .obj items => decide (items.map Prod.fst).Nodup && wellFormedItems items
  | _ => true

def wellFormedList : List Json → Bool
  | [] => true
  | x :: xs => wellFormed x && wellFormedList xs

def wellFormedItems : List (String × Json) → Bool
  | [] => true
  | (_, value) :: rest => wellFormed value && wellFormedItems rest
end

theorem wellFormed_lookup {items : Dict} {key : String} {value : Json} (clean : wellFormedItems items = true)
    (found : items.lookup key = some value) : value.wellFormed = true := by
  induction items with
  | nil => cases found
  | cons item rest ih =>
    obtain ⟨name, first⟩ := item
    simp only [wellFormedItems, Bool.and_eq_true] at clean
    rw [List.lookup_cons] at found
    split at found
    · cases found
      exact clean.1
    · exact ih clean.2 found

theorem insertByKey_perm (item : String × Json) (items : List (String × Json)) :
    (insertByKey item items).Perm (item :: items) := by
  induction items with
  | nil => exact .refl _
  | cons other rest ih =>
    rw [insertByKey]
    split
    · exact .refl _
    · exact (ih.cons other).trans (.swap item other rest)

theorem canonicalItems_perm (items : List (String × Json)) :
    (canonicalItems items).Perm (items.map fun item => (item.1, item.2.canonical)) := by
  induction items with
  | nil => exact .refl _
  | cons item rest ih => exact (insertByKey_perm _ _).trans (ih.cons _)

theorem canonicalItems_keys (items : List (String × Json)) :
    ((canonicalItems items).map Prod.fst).Perm (items.map Prod.fst) := by
  have perm := (canonicalItems_perm items).map Prod.fst
  rwa [List.map_map] at perm

theorem lookup_canonicalItems {items : Dict} (distinct : (items.map Prod.fst).Nodup) (key : String) :
    (canonicalItems items).lookup key = (items.lookup key).map canonical := by
  have sorted : ((canonicalItems items).map Prod.fst).Nodup := (canonicalItems_keys items).nodup_iff.mpr distinct
  refine Option.ext fun value => ?_
  rw [lookup_eq_some_of_nodup sorted, (canonicalItems_perm items).mem_iff, List.mem_map, Option.map_eq_some_iff]
  constructor
  · rintro ⟨⟨name, given⟩, inside, same⟩
    obtain ⟨rfl, rfl⟩ := Prod.mk.inj same
    exact ⟨given, (lookup_eq_some_of_nodup distinct).mpr inside, rfl⟩
  · rintro ⟨given, found, rfl⟩
    exact ⟨(key, given), (lookup_eq_some_of_nodup distinct).mp found, rfl⟩

/-- Objects with one canonical text have values with one canonical text under each key. -/
theorem lookup_canonical {items others : Dict} (distinct : (others.map Prod.fst).Nodup)
    (same : canonicalItems items = canonicalItems others) (key : String) :
    (items.lookup key).map canonical = (others.lookup key).map canonical := by
  have keys : (items.map Prod.fst).Perm (others.map Prod.fst) := by
    refine (canonicalItems_keys items).symm.trans ?_
    rw [same]
    exact canonicalItems_keys others
  rw [← lookup_canonicalItems distinct, ← lookup_canonicalItems (keys.nodup_iff.mpr distinct), same]

mutual
/-- Python's `==` does not tell values apart that canonical JSON renders alike. -/
theorem pyEq_canonical : ∀ (x : Json) {value other : Json}, other.wellFormed = true →
    value.canonical = other.canonical → pyEq x value = pyEq x other
  | .null, value, other, _, same => by
    cases value <;> cases other <;> simp_all [canonical, pyEq]
  | .bool flag, value, other, _, same => by
    cases value <;> cases other <;> simp_all [canonical, pyEq, numbersEqual, number?]
  | .int number, value, other, _, same => by
    cases value <;> cases other <;> simp_all [canonical, pyEq, numbersEqual, number?]
  | .float number, value, other, _, same => by
    cases value <;> cases other <;> simp_all [canonical, pyEq, numbersEqual, number?]
  | .str text, value, other, _, same => by
    cases value <;> cases other <;> simp_all [canonical, pyEq]
  | .arr items, value, other, clean, same => by
    cases value <;> cases other <;> simp only [canonical, Json.arr.injEq, reduceCtorEq] at same <;> try rfl
    simp only [pyEq]
    exact pyEqList_canonical items (by simpa [wellFormed] using clean) same
  | .obj items, value, other, clean, same => by
    cases value <;> cases other <;> simp only [canonical, Json.obj.injEq, reduceCtorEq] at same <;> try rfl
    rename_i given known
    simp only [wellFormed, Bool.and_eq_true, decide_eq_true_eq] at clean
    have length := congrArg List.length same
    rw [(canonicalItems_perm given).length_eq, (canonicalItems_perm known).length_eq, List.length_map, List.length_map]
      at length
    simp only [pyEq, length]
    rw [pyEqItems_canonical items clean.2 (lookup_canonical clean.1 same)]

theorem pyEqList_canonical : ∀ (xs : List Json) {values others : List Json}, wellFormedList others = true →
    canonicalList values = canonicalList others → pyEqList xs values = pyEqList xs others
  | [], values, others, _, same => by
    cases values <;> cases others <;> simp_all [canonicalList, pyEqList]
  | x :: xs, values, others, clean, same => by
    cases values <;> cases others <;> simp only [canonicalList, List.cons.injEq, reduceCtorEq] at same <;> try rfl
    simp only [wellFormedList, Bool.and_eq_true] at clean
    simp only [pyEqList]
    rw [pyEq_canonical x clean.1 same.1, pyEqList_canonical xs clean.2 same.2]

theorem pyEqItems_canonical : ∀ (xs : List (String × Json)) {values others : List (String × Json)},
    wellFormedItems others = true →
    (∀ key, (List.lookup key values).map canonical = (List.lookup key others).map canonical) →
    pyEqItems xs values = pyEqItems xs others
  | [], _, _, _, _ => by simp only [pyEqItems]
  | (key, x) :: xs, values, others, clean, same => by
    have rest := pyEqItems_canonical xs clean same
    have here := same key
    simp only [pyEqItems, rest]
    cases found : List.lookup key values with
    | none =>
      rw [found] at here
      rw [Option.map_eq_none_iff.mp here.symm]
    | some value =>
      rw [found] at here
      obtain ⟨other, known, equal⟩ := Option.map_eq_some_iff.mp here.symm
      rw [known]
      simp only
      rw [pyEq_canonical x (wellFormed_lookup clean known) equal.symm]
end

theorem pyEqItems_lookup {xs ys : Dict} (same : pyEqItems xs ys = true) :
    ∀ item ∈ xs, ∃ other, ys.lookup item.1 = some other ∧ pyEq item.2 other = true := by
  induction xs with
  | nil => simp
  | cons item rest ih =>
    obtain ⟨key, value⟩ := item
    simp only [pyEqItems, Bool.and_eq_true] at same
    rw [List.forall_mem_cons]
    refine ⟨?_, ih same.2⟩
    have here := same.1
    split at here
    · rename_i other found
      exact ⟨other, found, here⟩
    · cases here

theorem pyEq_lookup {xs ys : Dict} (same : pyEq (.obj xs) (.obj ys) = true) {key : String} {value : Json}
    (found : xs.lookup key = some value) : ∃ other, ys.lookup key = some other ∧ pyEq value other = true := by
  simp only [pyEq, Bool.and_eq_true] at same
  obtain ⟨before, after, split, -⟩ := List.lookup_eq_some_iff.mp found
  exact pyEqItems_lookup same.2 (key, value) (by simp [split])

theorem pyEq_str_right {value : Json} {text : String} : pyEq value (.str text) = true ↔ value = .str text := by
  cases value <;> simp [pyEq, numbersEqual, number?]

theorem pyEq_nil {items : Dict} : pyEq (.obj items) (.obj []) = true ↔ items = [] := by
  cases items <;> simp [pyEq, pyEqItems]

theorem nil_pyEq {items : Dict} : pyEq (.obj []) (.obj items) = true ↔ items = [] := by
  cases items <;> simp [pyEq, pyEqItems]

theorem pyEq_single {items : Dict} {key text : String} :
    pyEq (.obj items) (.obj [(key, .str text)]) = true ↔ items = [(key, .str text)] := by
  match items with
  | [] => simp [pyEq]
  | [(name, value)] =>
    by_cases same : name = key
    · simp [pyEq, pyEqItems, same, pyEq_str_right]
    · simp [pyEq, pyEqItems, List.lookup_cons, beq_false_of_ne same, same]
  | _ :: _ :: _ => simp [pyEq]

theorem single_pyEq {items : Dict} {key text : String} :
    pyEq (.obj [(key, .str text)]) (.obj items) = true ↔ items = [(key, .str text)] := by
  match items with
  | [] => simp [pyEq]
  | [(name, value)] =>
    by_cases same : name = key
    · subst same
      have equal : pyEq (.str text) value = true ↔ value = .str text := pyEq_str
      rw [pyEq, pyEqItems, List.lookup_cons_self]
      simp [pyEqItems, equal]
    · have other : key ≠ name := Ne.symm same
      simp [pyEq, pyEqItems, List.lookup_cons, beq_false_of_ne other, same]
  | _ :: _ :: _ => simp [pyEq]

/-- Equal dicts have equal values under the same keys. -/
theorem pyEq_obj_lookup {xs ys : Dict} (distinct : (xs.map Prod.fst).Nodup) (same : pyEq (.obj xs) (.obj ys) = true)
    {key : String} {value : Json} (found : ys.lookup key = some value) :
    ∃ other, xs.lookup key = some other ∧ pyEq other value = true := by
  simp only [pyEq, Bool.and_eq_true, decide_eq_true_eq] at same
  have inside := pyEqItems_lookup same.2
  have keys : xs.map Prod.fst ⊆ ys.map Prod.fst := by
    intro name member
    obtain ⟨item, there, rfl⟩ := List.mem_map.mp member
    obtain ⟨other, known, -⟩ := inside item there
    obtain ⟨before, after, rfl, -⟩ := List.lookup_eq_some_iff.mp known
    simp
  -- as many distinct keys as there are items leave none out
  have all : (xs.map Prod.fst).Perm (ys.map Prod.fst) :=
    (distinct.subperm keys).perm_of_length_le (by simp [same.1])
  obtain ⟨before, after, split, -⟩ := List.lookup_eq_some_iff.mp found
  have named : key ∈ xs.map Prod.fst := all.mem_iff.mpr (by simp [split])
  obtain ⟨⟨name, other⟩, there, rfl⟩ := List.mem_map.mp named
  obtain ⟨known, there', equal⟩ := inside _ there
  have same : known = value := Option.some.inj (there'.symm.trans found)
  exact ⟨other, (lookup_eq_some_of_nodup distinct).mpr there, same ▸ equal⟩

end Json

end ReliabilityLab
