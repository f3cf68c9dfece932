/-!
# Texts in ascending order

A collection of texts as the list of its members, each once, in ascending order.
-/

namespace ModelBench.Text

/-- The members of an ascending list together with one more text. -/
def insertAscending (text : String) : List String → List String
  | [] => [text]
  | other :: rest =>
    if text < other then text :: other :: rest
    else if text = other then other :: rest
    else other :: insertAscending text rest

/-- The members of a list in ascending order, each once. -/
def ascending (texts : List String) : List String := texts.foldr insertAscending []

end ModelBench.Text
