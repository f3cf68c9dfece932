/-!
# Replacing in a text

Places of a text are found from left to right and do not overlap.
-/

namespace ModelBench.Text

/-- The text in which places are replaced from left to right. `found` gives for a place that is to
be replaced the new text and the number of characters it stands for; the next `skip` characters
belong to the last place. -/
def replaceFrom (found : List Char → Option (List Char × Nat)) :
    (skip : Nat) → List Char → List Char
  | _, [] => []
  | skip + 1, _ :: rest => replaceFrom found skip rest
  | 0, c :: rest =>
    match found (c :: rest) with
    | some (new, size) => new ++ replaceFrom found (size - 1) rest
    | none => c :: replaceFrom found 0 rest

/-- The text in which all places are replaced. -/
def replaceAll (found : List Char → Option (List Char × Nat)) (text : List Char) : List Char :=
  replaceFrom found 0 text

end ModelBench.Text
