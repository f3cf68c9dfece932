/-!
# Tables over code points

A property of characters is an ascending list of closed ranges of code points. A map from
characters to characters is a list of runs, each moved as a whole.
-/

namespace ModelBench.Text

/-- Closed ranges of code points, first and last. -/
abbrev Ranges := List (Nat × Nat)

/-- Whether a character lies in one of the ranges. -/
def Ranges.contains (ranges : Ranges) (c : Char) : Bool :=
  ranges.any fun (first, last) => first ≤ c.toNat && c.toNat ≤ last

/-- Runs of code points: the first, the last, the distance between two of them, and the image of
the first. The others keep their distance from the first. -/
abbrev Shifts := List (Nat × Nat × Nat × Nat)

/-- Whether a code point lies in a run. -/
def Shifts.covers (first last step n : Nat) : Bool :=
  first ≤ n && n ≤ last && (n - first) % step == 0

/-- The image of a character; one outside the runs stays as it is. -/
def Shifts.apply (shifts : Shifts) (c : Char) : Char :=
  match shifts.find? fun (first, last, step, _) => Shifts.covers first last step c.toNat with
  | some (first, _, _, image) => Char.ofNat (image + (c.toNat - first))
  | none => c

end ModelBench.Text
