/-!
Why a text is no pattern. The only limit among these is the depth of nesting: that a program is too
large is no error here (see `Regex.compile`).
-/

namespace RouteTemplate.Regex

inductive Error
  | groupUnopened
  | groupUnclosed
  | groupNameInvalid
  | groupNameDuplicate
  | lookAround
  | flagUnknown
  | flagDuplicate
  | flagDangling
  | flagsEmpty
  | flagsUnclosed
  | nothingToRepeat
  | countInvalid
  | countUnclosed
  | escapeUnclosed
  | escapeUnknown
  | backReference
  | hexInvalid
  | propertyUnknown
  | wordBoundaryInvalid
  | classUnclosed
  | classMember
  | classRange
  | notText
  | needsUnicode
  | nestedTooDeep
  deriving DecidableEq, Repr

end RouteTemplate.Regex
