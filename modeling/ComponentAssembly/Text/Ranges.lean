/-! Sets of code points, given as closed ranges. -/

namespace ComponentAssembly.Text

/-- A set of code points, as closed ranges. -/
abbrev CodeRanges := List (Nat × Nat)

/-- Whether one of the ranges covers a code point. -/
def CodeRanges.covers (ranges : CodeRanges) (code : Nat) : Bool :=
  ranges.any fun range => range.1 ≤ code && code ≤ range.2

theorem CodeRanges.covers_iff {ranges : CodeRanges} {code : Nat} :
    ranges.covers code = true ↔ ∃ range ∈ ranges, range.1 ≤ code ∧ code ≤ range.2 := by
  simp [covers, List.any_eq_true]

end ComponentAssembly.Text
