import RouteTemplate.Template.Span
import RouteTemplate.Template.Token

/-!
From spans to tokens. Plain and escaped characters collect until a parameter comes; a plain one that
is a delimiter and stands last goes to the parameter as its lead. `scan_append` says that a scan may
be stopped and gone on with.
-/

namespace RouteTemplate

/-- The tokens so far, the text behind them with its characters latest first, whether the last of
these was escaped, and how many unnamed parameters there were. -/
structure Scanner where
  tokens : List Token := []
  pending : List Char := []
  escapedLast : Bool := false
  nextIndex : Nat := 0
  deriving DecidableEq, Repr

namespace Scanner

def flush (tokens : List Token) (pending : List Char) : List Token :=
  if pending.isEmpty then tokens else tokens ++ [.literal (.ofList pending.reverse)]

/-- The character that a parameter right here takes as its lead. -/
def lead? (o : Options) (s : Scanner) : Option Char :=
  if s.escapedLast then none else s.pending.head?.filter o.isDelimiter

/-- A parameter with the given lead, before the character `after`. -/
def parameterOf (o : Options) (name : String) (lead : Option Char) (body : Option (List Char))
    (modifier : Option Char) (after : Option Char) : Parameter :=
  let joiner := match lead with
    | some c => String.singleton c
    | none => o.delimiter
  { name := name
    lead := .ofList lead.toList
    joiner := joiner
    quantifier := .ofModifier modifier
    leadStays := lead.isSome && after.any fun c => lead != some c
    pattern := match body with
      | some b => .ofList b
      | none => defaultPattern joiner }

def addParameter (o : Options) (s : Scanner) (name : String) (body : Option (List Char))
    (modifier : Option Char) (after : Option Char) : Scanner :=
  let lead := s.lead? o
  let pending := if lead.isSome then s.pending.tail else s.pending
  { s with
    tokens := flush s.tokens pending ++ [.parameter (parameterOf o name lead body modifier after)]
    pending := []
    escapedLast := false }

/-- Takes a span, of which `after` is the next character of the template. -/
def accept (o : Options) (s : Scanner) (after : Option Char) : Span → Scanner
  | .plain c => { s with pending := c :: s.pending, escapedLast := false }
  | .escaped c => { s with pending := c :: s.pending, escapedLast := true }
  | .named name body modifier => s.addParameter o (.ofList name) body modifier after
  | .unnamed body modifier =>
    { s.addParameter o (toString s.nextIndex) (some body) modifier after with
      nextIndex := s.nextIndex + 1 }

/-- The first character of the spans, or of what comes behind them. -/
def nextChar (spans : List Span) (after : Option Char) : Option Char :=
  match spans with
  | [] => after
  | s :: _ => s.text.head?

def scan (o : Options) (after : Option Char) : Scanner → List Span → Scanner
  | s, [] => s
  | s, span :: rest => scan o after (s.accept o (nextChar rest after) span) rest

def finish (s : Scanner) : List Token := flush s.tokens s.pending

theorem scan_append (o : Options) (after : Option Char) (s : Scanner) (xs ys : List Span) :
    scan o after s (xs ++ ys) = scan o after (scan o (nextChar ys after) s xs) ys := by
  induction xs generalizing s with
  | nil => rfl
  | cons x xs ih =>
    rw [List.cons_append, scan, scan, ih]
    cases xs <;> rfl

end Scanner

/-- The tokens of a template. -/
def Token.ofTemplate (o : Options) (template : String) : List Token :=
  (Scanner.scan o none {} (Span.cut template.toList)).finish

end RouteTemplate
