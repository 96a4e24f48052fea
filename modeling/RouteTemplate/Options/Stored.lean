import RouteTemplate.Json.Reader
import RouteTemplate.Options

/-!
Options as they are stored in JSON: an object whose members are named after the options, or an array
of their values in a fixed order. What is missing keeps its default. Stored options need not be
valid.
-/

namespace RouteTemplate.Options

def fieldNames : List String :=
  ["case_sensitive", "strict", "match_end", "delimiter", "ends_with", "delimiters"]

/-- Sets the option of a name; other names are passed over. Only the end markers may be `null`. -/
def setField (o : Options) (name : String) (v : Json) : Option Options :=
  match name with
  | "case_sensitive" => v.bool?.map fun b => { o with caseSensitive := b }
  | "strict" => v.bool?.map fun b => { o with strict := b }
  | "match_end" => v.bool?.map fun b => { o with matchEnd := b }
  | "delimiter" => v.string?.map fun s => { o with delimiter := s }
  | "ends_with" =>
    match v with
    | .null => some { o with endsWith := none }
    | _ => v.strings?.map fun l => { o with endsWith := some l }
  | "delimiters" => v.string?.map fun s => { o with delimiters := s }
  | _ => some o

/-- An object gives every option at most once. -/
def ofMembers? (ms : List (Option String × Json)) : Option Options := do
  let names ← ms.mapM Prod.fst
  if (names.filter fieldNames.contains).Nodup then
    (names.zip (ms.map Prod.snd)).foldlM (fun o m => o.setField m.1 m.2) {}
  else none

def ofItems? (vs : List Json) : Option Options :=
  if vs.length ≤ fieldNames.length then
    (fieldNames.zip vs).foldlM (fun o m => o.setField m.1 m.2) {}
  else none

def ofJson? : Json → Option Options
  | .object ms => ofMembers? ms
  | .array vs => ofItems? vs
  | _ => none

/-- Reads options from a JSON text. -/
def read? (text : String) : Option Options := (Json.read? text).bind ofJson?

end RouteTemplate.Options
