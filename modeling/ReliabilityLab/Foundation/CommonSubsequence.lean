import Mathlib.Data.List.Forall2

namespace ReliabilityLab

section Subsequence
variable {α β : Type} (same : α → β → Bool)

/-- The sequences have subsequences of this length that agree entry by entry. -/
def HaveCommon (left : List α) (right : List β) (length : Nat) : Prop :=
  ∃ xs ys, xs.Sublist left ∧ ys.Sublist right ∧ List.Forall₂ (fun a b => same a b = true) xs ys ∧ xs.length = length

/-- Some common subsequence has this length, and none is longer. -/
def LongestCommon (left : List α) (right : List β) (length : Nat) : Prop :=
  HaveCommon same left right length ∧ ∀ other, HaveCommon same left right other → other ≤ length

/-- The length of a longest one, by recursion on both sequences. -/
def longestCommon : List α → List β → Nat
  | x :: xs, y :: ys =>
    if same x y then longestCommon xs ys + 1 else max (longestCommon xs (y :: ys)) (longestCommon (x :: xs) ys)
  | [], _ => 0
  | _ :: _, [] => 0

/-- One row of the table, from the row above it; `above` is the entry above the one
that was filled last, `left` that one itself. -/
def commonRow (item : α) : Nat → Nat → List β → List Nat → List Nat
  | above, left, other :: rest, next :: row =>
    let entry := if same item other then above + 1 else max next left
    entry :: commonRow item next entry rest row
  | _, _, _, _ => []

/-- The table is filled row by row, and only its last row is kept. -/
def commonLength (left : List α) (right : List β) : Nat :=
  (left.foldl (fun previous item => commonRow same item 0 0 right previous) (right.map fun _ => 0)).getLastD 0

variable {same}

variable (same) in
theorem haveCommon_longest (left : List α) (right : List β) :
    HaveCommon same left right (longestCommon same left right) := by
  induction left, right using longestCommon.induct same with
  | case1 x xs y ys matching ih =>
    obtain ⟨as, bs, inLeft, inRight, agree, length⟩ := ih
    rw [longestCommon, if_pos matching]
    exact ⟨x :: as, y :: bs, inLeft.cons_cons x, inRight.cons_cons y, .cons matching agree, by simp [length]⟩
  | case2 x xs y ys differ ih₁ ih₂ =>
    rw [longestCommon, if_neg differ]
    rcases Nat.le_total (longestCommon same xs (y :: ys)) (longestCommon same (x :: xs) ys) with less | less
    · obtain ⟨as, bs, inLeft, inRight, agree, length⟩ := ih₂
      rw [Nat.max_eq_right less]
      exact ⟨as, bs, inLeft, inRight.cons y, agree, length⟩
    · obtain ⟨as, bs, inLeft, inRight, agree, length⟩ := ih₁
      rw [Nat.max_eq_left less]
      exact ⟨as, bs, inLeft.cons x, inRight, agree, length⟩
  | case3 right =>
    rw [longestCommon]
    exact ⟨[], [], List.nil_sublist _, List.nil_sublist _, .nil, rfl⟩
  | case4 x xs =>
    rw [longestCommon]
    exact ⟨[], [], List.nil_sublist _, List.nil_sublist _, .nil, rfl⟩

theorem common_le_longest {left : List α} {right : List β} {length : Nat}
    (common : HaveCommon same left right length) : length ≤ longestCommon same left right := by
  induction left, right using longestCommon.induct same generalizing length with
  | case1 x xs y ys matching ih =>
    obtain ⟨as, bs, inLeft, inRight, agree, rfl⟩ := common
    rw [longestCommon, if_pos matching]
    cases agree with
    | nil => exact Nat.zero_le _
    | cons first rest =>
      have shorter := ih ⟨_, _, inLeft.tail, inRight.tail, rest, rfl⟩
      exact Nat.succ_le_succ shorter
  | case2 x xs y ys differ ih₁ ih₂ =>
    obtain ⟨as, bs, inLeft, inRight, agree, rfl⟩ := common
    rw [longestCommon, if_neg differ]
    rcases List.sublist_cons_iff.mp inLeft with within | ⟨as', rfl, -⟩
    · exact Nat.le_trans (ih₁ ⟨as, bs, within, inRight, agree, rfl⟩) (Nat.le_max_left _ _)
    · rcases List.sublist_cons_iff.mp inRight with within | ⟨bs', rfl, -⟩
      · exact Nat.le_trans (ih₂ ⟨_, bs, inLeft, within, agree, rfl⟩) (Nat.le_max_right _ _)
      · -- both heads are used, but they differ
        cases agree with
        | cons first rest => exact absurd first differ
  | case3 right =>
    obtain ⟨as, bs, inLeft, -, -, rfl⟩ := common
    rw [List.sublist_nil.mp inLeft]
    exact Nat.zero_le _
  | case4 x xs =>
    obtain ⟨as, bs, -, inRight, agree, rfl⟩ := common
    rw [List.sublist_nil.mp inRight] at agree
    cases agree
    exact Nat.zero_le _

/-- The entries of a row, for the growing prefixes of the right sequence; prefixes are kept in reverse. -/
def commonCells (same : α → β → Bool) (before : List α) : List β → List β → List Nat
  | _, [] => []
  | seen, other :: rest => longestCommon same before (other :: seen) :: commonCells same before (other :: seen) rest

theorem longestCommon_nil (left : List α) : longestCommon same left [] = 0 := by
  cases left <;> rw [longestCommon]

variable (same) in
/-- A row continues the table as the recursion does. -/
theorem commonRow_eq (item : α) (before : List α) (seen rest : List β) :
    commonRow same item (longestCommon same before seen) (longestCommon same (item :: before) seen) rest
      (commonCells same before seen rest) = commonCells same (item :: before) seen rest := by
  induction rest generalizing seen with
  | nil => simp [commonRow, commonCells]
  | cons other rest ih =>
    have entry : (if same item other then longestCommon same before seen + 1
        else max (longestCommon same before (other :: seen)) (longestCommon same (item :: before) seen)) =
        longestCommon same (item :: before) (other :: seen) := by
      rw [longestCommon]
    simp only [commonCells, commonRow, entry, ih]

variable (same) in
theorem commonCells_nil (seen rest : List β) : commonCells same ([] : List α) seen rest = rest.map fun _ => 0 := by
  induction rest generalizing seen with
  | nil => rfl
  | cons other rest ih => rw [commonCells, ih, longestCommon, List.map_cons]

theorem commonRows_eq (before left : List α) (right : List β) :
    left.foldl (fun previous item => commonRow same item 0 0 right previous) (commonCells same before [] right) =
      commonCells same (left.reverse ++ before) [] right := by
  induction left generalizing before with
  | nil => rfl
  | cons item rest ih =>
    have row := commonRow_eq same item before [] right
    rw [longestCommon_nil, longestCommon_nil] at row
    rw [List.foldl_cons, row, ih, List.reverse_cons, List.append_assoc, List.singleton_append]

variable (same) in
theorem commonCells_last (before : List α) (seen rest : List β) :
    (commonCells same before seen rest).getLastD (longestCommon same before seen) =
      longestCommon same before (rest.reverse ++ seen) := by
  induction rest generalizing seen with
  | nil => rfl
  | cons other rest ih => rw [commonCells, List.getLastD_cons, ih, List.reverse_cons, List.append_assoc, List.singleton_append]

/-- What the table computes is the recursion over the reversed sequences. -/
theorem commonLength_eq (left : List α) (right : List β) :
    commonLength same left right = longestCommon same left.reverse right.reverse := by
  have last := commonCells_last same left.reverse [] right
  rw [longestCommon_nil, List.append_nil] at last
  rw [commonLength, ← commonCells_nil same [], commonRows_eq, List.append_nil, last]

theorem haveCommon_reverse {left : List α} {right : List β} {length : Nat}
    (common : HaveCommon same left right length) : HaveCommon same left.reverse right.reverse length := by
  obtain ⟨as, bs, inLeft, inRight, agree, rfl⟩ := common
  exact ⟨as.reverse, bs.reverse, inLeft.reverse, inRight.reverse, List.forall₂_reverse_iff.mpr agree, List.length_reverse⟩

/-- The table is exact: some common subsequence has this length, and none is longer. -/
theorem commonLength_common (left : List α) (right : List β) :
    HaveCommon same left right (commonLength same left right) := by
  have longest := haveCommon_reverse (haveCommon_longest same left.reverse right.reverse)
  rwa [List.reverse_reverse, List.reverse_reverse, ← commonLength_eq] at longest

theorem common_le_commonLength {left : List α} {right : List β} {length : Nat}
    (common : HaveCommon same left right length) : length ≤ commonLength same left right := by
  rw [commonLength_eq]
  exact common_le_longest (haveCommon_reverse common)

theorem commonLength_longest (left : List α) (right : List β) :
    LongestCommon same left right (commonLength same left right) :=
  ⟨commonLength_common left right, fun _ common => common_le_commonLength common⟩

end Subsequence

end ReliabilityLab
