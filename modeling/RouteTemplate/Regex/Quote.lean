/-!
Quoting: the pattern that matches one text and nothing else. `quote_append` says that texts are
quoted character by character.
-/

namespace RouteTemplate.Regex

/-- The characters that a pattern gives a meaning to. -/
def isMeta (c : Char) : Bool :=
  c ∈ ['\\', '.', '+', '*', '?', '(', ')', '|', '[', ']', '\x7b', '\x7d', '^', '$',
    '#', '&', '-', '~']

def quoteChar (c : Char) : List Char := if isMeta c then ['\\', c] else [c]

def quote (text : String) : String := .ofList (text.toList.flatMap quoteChar)

@[simp] theorem toList_quote (text : String) :
    (quote text).toList = text.toList.flatMap quoteChar := by
  simp [quote]

theorem quote_append (a b : String) : quote (a ++ b) = quote a ++ quote b := by
  simp [quote]

end RouteTemplate.Regex
