/-!
# Ranges of characters

A property of characters is given by the ranges of code points that have it, each by its first and last
one.
-/

namespace SchemaTypings.Text

/-- Whether a code point lies in one of the ranges. -/
def inRanges (ranges : List (Nat × Nat)) (code : Nat) : Bool :=
  ranges.any fun (first, last) => first ≤ code && code ≤ last

theorem inRanges_of_mem {ranges : List (Nat × Nat)} {first last code : Nat}
    (hmem : (first, last) ∈ ranges) (hfirst : first ≤ code) (hlast : code ≤ last) :
    inRanges ranges code :=
  List.any_eq_true.2 ⟨(first, last), hmem, by simp [hfirst, hlast]⟩

end SchemaTypings.Text
