import RouteTemplate.Regex.Flags

/-!
Counted repetitions such as `2,5` in braces, read character by character behind the opening brace.
Blanks may surround the numbers.
-/

namespace RouteTemplate.Regex

/-- A counted repetition that has been read in part: the numbers so far, and whether a number is
still being read. -/
inductive CountText
  | before
  | least (n : Nat)
  | leastEnd (n : Nat)
  | comma (n : Nat)
  | mostBefore (n : Nat)
  | most (n m : Nat)
  | mostEnd (n m : Nat)
  deriving DecidableEq, Repr

namespace CountText

/-- The largest number that a count may be. -/
def limit : Nat := 4294967295

def bounded (n : Nat) (t : CountText) : Except Error (CountText ⊕ Times) :=
  if n ≤ limit then .ok (.inl t) else .error .countInvalid

def digit (d : Nat) : CountText → Except Error (CountText ⊕ Times)
  | before => bounded d (.least d)
  | least n => bounded (10 * n + d) (.least (10 * n + d))
  | comma n | mostBefore n => bounded d (.most n d)
  | most n m => bounded (10 * m + d) (.most n (10 * m + d))
  | leastEnd _ | mostEnd _ _ => .error .countUnclosed

def blank : CountText → CountText
  | least n => .leastEnd n
  | comma n => .mostBefore n
  | most n m => .mostEnd n m
  | t => t

def close : CountText → Except Error Times
  | least n | leastEnd n => .ok ⟨n, some n⟩
  | comma n => .ok ⟨n, none⟩
  | most n m | mostEnd n m => if n ≤ m then .ok ⟨n, some m⟩ else .error .countInvalid
  | before | mostBefore _ => .error .countInvalid

def step (c : Char) (t : CountText) : Except Error (CountText ⊕ Times) :=
  if Unicode.isAsciiDigit c then t.digit (c.toNat - 48)
  else if Unicode.isSpace c then .ok (.inl t.blank)
  else if c = '\x7d' then .inr <$> t.close
  else if c = ',' then
    match t with
    | least n | leastEnd n => .ok (.inl (.comma n))
    | _ => .error .countInvalid
  else .error .countUnclosed

end CountText

end RouteTemplate.Regex
