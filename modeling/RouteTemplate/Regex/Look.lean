import RouteTemplate.Unicode.Character

/-!
Conditions on the place between two characters.
-/

namespace RouteTemplate.Regex

/-- The word conditions go by Unicode word characters if `unicode` is set and by ASCII ones
otherwise. -/
inductive Look
  | textStart
  | textEnd
  | lineStart
  | lineEnd
  | crlfStart
  | crlfEnd
  | wordBoundary (unicode : Bool)
  | notWordBoundary (unicode : Bool)
  | wordStart (unicode : Bool)
  | wordEnd (unicode : Bool)
  | wordStartHalf (unicode : Bool)
  | wordEndHalf (unicode : Bool)
  deriving DecidableEq, Repr

namespace Look

def wordAt (unicode : Bool) (c : Option Char) : Bool :=
  c.any (if unicode then Unicode.isWord else Unicode.isAsciiWord)

/-- Decides a condition from the characters on both sides; there is none beyond the ends of the
text. With carriage returns as line ends, the place inside a `\r\n` is no line end. -/
def holds (before after : Option Char) : Look → Bool
  | textStart => before.isNone
  | textEnd => after.isNone
  | lineStart => before.isNone || before == some '\n'
  | lineEnd => after.isNone || after == some '\n'
  | crlfStart =>
    before.isNone || before == some '\n' || (before == some '\r' && after != some '\n')
  | crlfEnd => after.isNone || after == some '\r' || (after == some '\n' && before != some '\r')
  | wordBoundary u => wordAt u before != wordAt u after
  | notWordBoundary u => wordAt u before == wordAt u after
  | wordStart u => !wordAt u before && wordAt u after
  | wordEnd u => wordAt u before && !wordAt u after
  | wordStartHalf u => !wordAt u before
  | wordEndHalf u => !wordAt u after

end Look

end RouteTemplate.Regex
