import RouteTemplate.Unicode.Age
import RouteTemplate.Unicode.Character
import RouteTemplate.Unicode.Script
import RouteTemplate.Unicode.ScriptExtension
import RouteTemplate.Unicode.Segmentation

/-!
Character properties by name. Names are compared loosely: case, spaces, hyphens, underscores and a
leading `is` do not count. A single name is a binary property, else a general category, else a
script; a property can also be given with its value.
-/

namespace RouteTemplate.Unicode

/-- Drops a leading `is`, in any case. -/
def dropIs : List Char → List Char
  | i :: s :: rest =>
    if (i = 'i' ∨ i = 'I') ∧ (s = 's' ∨ s = 'S') then rest else i :: s :: rest
  | cs => cs

/-- The loose form of a name: ASCII only, in lower case, without spaces, hyphens and underscores.
`isc` keeps its `is`, since `c` alone is another name. -/
def looseName (name : List Char) : String :=
  let bare := dropIs name
  let kept := bare.filter fun c => isAscii c && c != ' ' && c != '_' && c != '-'
  let folded := kept.map Char.toLower
  if folded = ['c'] ∧ bare.length < name.length then "isc" else String.ofList folded

/-- General categories that stand for several two-letter ones. -/
def categoryGroups : List (List String × List String) := [
  (["l", "letter"], ["ll", "lm", "lo", "lt", "lu"]),
  (["lc", "casedletter"], ["ll", "lt", "lu"]),
  (["m", "mark", "combiningmark"], ["mc", "me", "mn"]),
  (["n", "number"], ["nd", "nl", "no"]),
  (["p", "punctuation", "punct"], ["pc", "pd", "pe", "pf", "pi", "po", "ps"]),
  (["s", "symbol"], ["sc", "sk", "sm", "so"]),
  (["z", "separator"], ["zl", "zp", "zs"])]

/-- The code points that are no letters, marks, numbers, punctuation, symbols or separators. The
surrogates are among them. -/
def otherClass : CharClass :=
  .unions (.surrogates :: ["cc", "cf", "cn", "co"].map categoryClass)

def tableClass? (tables : List NamedTable) (name : String) : Option CharClass :=
  (NamedTable.find? tables name).map NamedTable.charClass

/-- The class of a general category; `Any`, `ASCII` and `Assigned` count among them. -/
def category? (name : String) : Option CharClass :=
  match name with
  | "any" => some .any
  | "ascii" => some (.range '\x00' '\x7f')
  | "assigned" => some (categoryClass "cn").compl
  | "c" | "other" => some otherClass
  | _ =>
    match categoryGroups.find? fun g => g.1.contains name with
    | some g => some (.unions (g.2.map categoryClass))
    | none => tableClass? categoryTables name

def script? (name : String) : Option CharClass := tableClass? scriptTables name

/-- A script without a table of its own is used with its own characters only. -/
def scriptExtension? (name : String) : Option CharClass :=
  (tableClass? scriptExtensionTables name).or (script? name)

/-- What the version and all older ones assigned. -/
def age? (name : String) : Option CharClass :=
  (NamedTable.find? ageTables name).map fun t =>
    .unions (((ageTables.takeWhile fun u => u.names != t.names) ++ [t]).map NamedTable.charClass)

/-- Looks up a property that is named without a value. `cf`, `lc` and `sc` are categories. -/
def property? (name : List Char) : Option CharClass :=
  let name := looseName name
  match tableClass? binaryTables name with
  | some s => some s
  | none => (category? name).or (script? name)

/-- Looks up a property that has values, with one of these. -/
def propertyValue? (name value : List Char) : Option CharClass :=
  let value := looseName value
  match looseName name with
  | "gc" | "generalcategory" => category? value
  | "sc" | "script" => script? value
  | "scx" | "scriptextensions" => scriptExtension? value
  | "age" => age? value
  | "gcb" | "graphemeclusterbreak" => tableClass? graphemeBreakTables value
  | "wb" | "wordbreak" => tableClass? wordBreakTables value
  | "sb" | "sentencebreak" => tableClass? sentenceBreakTables value
  | _ => none

end RouteTemplate.Unicode
