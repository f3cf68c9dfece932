/-!
# Skipping tests

A test is skipped when its name matches a pattern. A star in a pattern stands for any text, and a
pattern has one star that counts: the first.
-/

namespace ModelBench

/-- Whether a name starts with one text and ends with another one, and has at least as many bytes as
the two together. -/
def hasEnds (front back name : String) : Bool :=
  decide (front.utf8ByteSize + back.utf8ByteSize ≤ name.utf8ByteSize) &&
    front.toList.isPrefixOf name.toList && back.toList.isSuffixOf name.toList

/-- Whether a name matches a pattern in which a star may stand. -/
def matchesGlob (pattern name : String) : Bool :=
  pattern == "*" || pattern == "**" ||
    match pattern.toList.dropWhile (· ≠ '*') with
    | [] => pattern == name
    | _ :: back =>
      hasEnds (String.ofList (pattern.toList.takeWhile (· ≠ '*'))) (String.ofList back) name

/-- Whether a name matches a pattern. One without a star is the name itself. -/
def matchesPattern (pattern name : String) : Bool :=
  if pattern.toList.contains '*' then matchesGlob pattern name else pattern == name

/-- The patterns of the tests to skip. -/
structure Filter where
  skip : List String
  deriving DecidableEq, Repr

/-- The filter that skips nothing. -/
def Filter.none : Filter := ⟨[]⟩

/-- Whether a test is skipped. -/
def Filter.skips (f : Filter) (name : String) : Bool :=
  f.skip.any fun pattern => matchesPattern pattern name

end ModelBench
