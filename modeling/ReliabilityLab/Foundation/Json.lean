import Mathlib.Data.Rat.Defs
import Mathlib.Data.List.Basic

namespace ReliabilityLab

/-- A Python float: a finite value, or one that canonical JSON refuses. -/
inductive PyFloat where
  | finite (value : ℚ)
  | inf (negative : Bool)
  | nan
  deriving DecidableEq

/-- JSON values as Python holds them. An object lists its items in insertion
order; every operation below that compares or renders ignores that order. -/
inductive Json where
  | null
  | bool (value : Bool)
  | int (value : Int)
  | float (value : PyFloat)
  | str (value : String)
  | arr (items : List Json)
  | obj (items : List (String × Json))

instance : Inhabited Json := ⟨.null⟩

/-- A Python dict with string keys. -/
abbrev Dict := List (String × Json)

namespace Dict

/-- `d[key] = value`: replaced in place, or appended. -/
def set : Dict → String → Json → Dict
  | [], key, value => [(key, value)]
  | (k, v) :: rest, key, value => if k = key then (key, value) :: rest else (k, v) :: set rest key value

def erase (d : Dict) (key : String) : Dict := d.filter (·.1 ≠ key)

/-- `{**d, **e}`. -/
def merge (d e : Dict) : Dict := e.foldl (fun acc item => acc.set item.1 item.2) d

@[simp] theorem lookup_set_self (d : Dict) (key : String) (value : Json) :
    (d.set key value).lookup key = some value := by
  induction d with
  | nil => simp [set]
  | cons item rest ih =>
    obtain ⟨k, v⟩ := item
    simp only [set]
    split
    · simp
    · rename_i other
      rw [List.lookup_cons, beq_false_of_ne (Ne.symm other)]
      exact ih

theorem lookup_set_of_ne (d : Dict) {key other : String} (value : Json) (unequal : other ≠ key) :
    (d.set key value).lookup other = d.lookup other := by
  induction d with
  | nil => simp [set, List.lookup_cons, beq_false_of_ne unequal]
  | cons item rest ih =>
    obtain ⟨k, v⟩ := item
    simp only [set]
    split
    · rename_i same
      subst same
      simp [List.lookup_cons, beq_false_of_ne unequal]
    · rw [List.lookup_cons, List.lookup_cons, ih]

theorem lookup_erase_of_ne (d : Dict) {key other : String} (unequal : other ≠ key) :
    (d.erase key).lookup other = d.lookup other := by
  induction d with
  | nil => rfl
  | cons item rest ih =>
    obtain ⟨k, v⟩ := item
    simp only [erase, List.filter_cons] at ih ⊢
    by_cases same : k = key
    · subst same
      simpa [List.lookup_cons, beq_false_of_ne unequal] using ih
    · simp only [same, ne_eq, not_false_iff, decide_true, if_true]
      rw [List.lookup_cons, List.lookup_cons, ih]

end Dict

namespace Json

/-- The number behind a bool, an int or a float; `True == 1 == 1.0`. -/
def number? : Json → Option PyFloat
  | .bool value => some (.finite (if value then 1 else 0))
  | .int value => some (.finite value)
  | .float value => some value
  | _ => none

/-- `isinstance(value, int) and not isinstance(value, bool)`. -/
def int? : Json → Option Int
  | .int value => some value
  | _ => none

def str? : Json → Option String
  | .str value => some value
  | _ => none

def bool? : Json → Option Bool
  | .bool value => some value
  | _ => none

theorem bool?_some {value : Json} {flag : Bool} (read : value.bool? = some flag) : value = .bool flag := by
  cases value <;> simp_all [bool?]

def obj? : Json → Option Dict
  | .obj items => some items
  | _ => none

/-- Lists and dicts cannot be put in a set. -/
def hashable : Json → Bool
  | .arr _ => false
  | .obj _ => false
  | _ => true

def numbersEqual (a b : Json) : Bool :=
  match a.number?, b.number? with
  | some x, some y => x ≠ .nan && x = y
  | _, _ => false

mutual
/-- Python's `==` on JSON values. -/
def pyEq : Json → Json → Bool
  | .null, other => match other with
    | .null => true
    | _ => false
  | .str a, other => match other with
    | .str b => a = b
    | _ => false
  | .arr xs, other => match other with
    | .arr ys => pyEqList xs ys
    | _ => false
  | .obj xs, other => match other with
    | .obj ys => xs.length = ys.length && pyEqItems xs ys
    | _ => false
  | .bool a, other => numbersEqual (.bool a) other
  | .int a, other => numbersEqual (.int a) other
  | .float a, other => numbersEqual (.float a) other

def pyEqList : List Json → List Json → Bool
  | [], ys => ys.isEmpty
  | x :: xs, ys => match ys with
    | [] => false
    | y :: ys => pyEq x y && pyEqList xs ys

/-- Every item of the first dict is in the second. -/
def pyEqItems : List (String × Json) → List (String × Json) → Bool
  | [], _ => true
  | (key, value) :: rest, ys =>
    (match ys.lookup key with
      | some other => pyEq value other
      | none => false) && pyEqItems rest ys
end

instance : BEq Json := ⟨pyEq⟩

mutual
/-- `json.dumps` renders the value: no NaN and no infinity in it, and no integer is
longer than the 4300 digits that the interpreter converts. -/
def printable : Json → Bool
  | .int value => value.natAbs < Nat.pow 10 4300
  | .float (.finite _) => true
  | .float _ => false
  | .arr items => printableList items
  | .obj items => printableItems items
  | _ => true

def printableList : List Json → Bool
  | [] => true
  | x :: xs => printable x && printableList xs

def printableItems : List (String × Json) → Bool
  | [] => true
  | (_, value) :: rest => printable value && printableItems rest
end

def insertByKey (item : String × Json) : List (String × Json) → List (String × Json)
  | [] => [item]
  | other :: rest => if item.1 < other.1 then item :: other :: rest else other :: insertByKey item rest

mutual
/-- The value that canonical JSON text spells: all keys sorted. -/
def canonical : Json → Json
  | .arr items => .arr (canonicalList items)
  | .obj items => .obj (canonicalItems items)
  | .null => .null
  | .bool value => .bool value
  | .int value => .int value
  | .float value => .float value
  | .str value => .str value

def canonicalList : List Json → List Json
  | [] => []
  | x :: xs => canonical x :: canonicalList xs

def canonicalItems : List (String × Json) → List (String × Json)
  | [] => []
  | (key, value) :: rest => insertByKey (key, canonical value) (canonicalItems rest)
end

@[simp] theorem pyEq_str {text : String} {other : Json} : pyEq (.str text) other = true ↔ other = .str text := by
  cases other <;> simp [pyEq, eq_comm]

@[simp] theorem beq_str {text : String} {other : Json} : ((.str text : Json) == other) = true ↔ other = .str text :=
  pyEq_str

theorem numbersEqual_comm (a b : Json) : numbersEqual a b = numbersEqual b a := by
  unfold numbersEqual
  cases a.number? with
  | none => cases b.number? <;> rfl
  | some x => cases b.number? with
    | none => rfl
    | some y =>
      by_cases same : x = y
      · subst same; rfl
      · simp [same, Ne.symm same]

theorem printable_lookup {items : Dict} {key : String} {value : Json} (clean : printableItems items = true)
    (found : items.lookup key = some value) : value.printable = true := by
  induction items with
  | nil => cases found
  | cons item rest ih =>
    obtain ⟨name, first⟩ := item
    simp only [printableItems, Bool.and_eq_true] at clean
    rw [List.lookup_cons] at found
    split at found
    · cases found; exact clean.1
    · exact ih clean.2 found

theorem printable_erase {items : Dict} (clean : printableItems items = true) (key : String) :
    printableItems (items.erase key) = true := by
  induction items with
  | nil => rfl
  | cons item rest ih =>
    obtain ⟨name, first⟩ := item
    simp only [printableItems, Bool.and_eq_true] at clean
    simp only [Dict.erase, List.filter_cons]
    split
    · simp only [printableItems, Bool.and_eq_true]
      exact ⟨clean.1, ih clean.2⟩
    · exact ih clean.2

theorem printable_set {items : Dict} (clean : printableItems items = true) (key : String) {value : Json}
    (new : value.printable = true) : printableItems (items.set key value) = true := by
  induction items with
  | nil => simp [Dict.set, printableItems, new]
  | cons item rest ih =>
    obtain ⟨name, first⟩ := item
    simp only [printableItems, Bool.and_eq_true] at clean
    simp only [Dict.set]
    split
    · simp [printableItems, new, clean.2]
    · simp [printableItems, clean.1, ih clean.2]

theorem printableItems_iff {items : Dict} :
    printableItems items = true ↔ ∀ item ∈ items, item.2.printable = true := by
  induction items with
  | nil => simp [printableItems]
  | cons item rest ih =>
    obtain ⟨key, value⟩ := item
    simp [printableItems, ih]

theorem printableList_iff {items : List Json} : printableList items = true ↔ ∀ item ∈ items, item.printable = true := by
  induction items with
  | nil => simp [printableList]
  | cons item rest ih => simp [printableList, ih]

theorem printableList_map {α : Type} {f : α → Json} {values : List α} :
    printableList (values.map f) = true ↔ ∀ value ∈ values, (f value).printable = true := by
  simp [printableList_iff]

end Json

example : ((.obj [("a", .int 1), ("b", .str "x")] : Json) == .obj [("b", .str "x"), ("a", .bool true)]) = true := by
  decide

end ReliabilityLab
