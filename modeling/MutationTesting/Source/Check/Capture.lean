import MutationTesting.Tree.Basic

/-!
# Names captured by a pattern

A pattern of a `match` statement binds names.  `Tree.captures?` collects them and rejects a pattern
that binds a name twice, whose alternatives bind different names, whose mapping keys repeat, or that
always matches in a place where something could follow it.
-/

namespace MutationTesting.Source

/-- The number a literal compares as: real and imaginary part.  Truth values count as 0 and 1. -/
inductive KeyValue where
  | integer (value : Int)
  | float (value : Binary64)
  | complex (real : Binary64) (imaginary : Binary64)
  | other (value : Literal)

namespace KeyValue

def ofLiteral : Literal → KeyValue
  | .bool b => .integer (if b then 1 else 0)
  | .int n => .integer n
  | .float x => .float x
  | .imaginary y => .complex (Binary64.zero) y
  | value => .other value

def negate : KeyValue → Option KeyValue
  | .integer n => some (.integer (-n))
  | .float x => some (.float x.neg)
  | .complex x y => some (.complex x.neg y.neg)
  | .other _ => none

/-- The number as a binary fraction, where it is real and in range. -/
def real? : KeyValue → Option Binary64
  | .integer n =>
    match Binary64.ofInt n with
    | .finite s m e => some (.finite s m e)
    | _ => none
  | .float x => some x
  | _ => none

/-- The sum or difference of a real and an imaginary number. -/
def combine (subtract : Bool) (a b : KeyValue) : Option KeyValue :=
  match a.real?, b with
  | some x, .complex x' y =>
    some (if subtract then .complex (x.sub x') y.neg else .complex (x.add x') y)
  | _, _ => none

/-- The exact value of a finite number as a fraction of a power of two. -/
def asFraction? : Binary64 → Option (Int × Nat)
  | .finite negative significand exponent =>
    let n : Int := if negative then -(significand : Int) else significand
    match exponent with
    | .ofNat e => some (n * Nat.pow 2 e, 1)
    | .negSucc e => some (n, Nat.pow 2 (e + 1))
  | _ => none

/-- Whether a whole number and a binary fraction are one number. -/
def integerSame (n : Int) (x : Binary64) : Bool :=
  match asFraction? x with
  | some (p, q) => decide (n * q = p)
  | none => false

def isZero (x : Binary64) : Bool := x.same (Binary64.zero)

/-- Whether two keys compare as equal. -/
def same : KeyValue → KeyValue → Bool
  | .integer a, .integer b => decide (a = b)
  | .integer a, .float y => integerSame a y
  | .float x, .integer b => integerSame b x
  | .float x, .float y => x.same y
  | .complex x y, .complex x' y' => x.same x' && y.same y'
  | .complex x y, .integer b => isZero y && integerSame b x
  | .integer a, .complex x y => isZero y && integerSame a x
  | .complex x y, .float x' => isZero y && x.same x'
  | .float x', .complex x y => isZero y && x.same x'
  | .other a, .other b => decide (a = b)
  | _, _ => false

end KeyValue

/-- The value of a literal, possibly with a sign or as a sum of two parts. -/
def keyValue? : Tree → Option KeyValue
  | .node .constant _ [.literal value, _] => some (.ofLiteral value)
  | .node .unaryOp _ [_, value] => (keyValue? value).bind (·.negate)
  | .node .binOp _ [left, .node (.binary op) _ _, right] => do
    KeyValue.combine (decide (op = .sub)) (← keyValue? left) (← keyValue? right)
  | _ => none
termination_by structural t => t

/-- Patterns compare with literals and with attributes. -/
def isComparable (t : Tree) : Bool := (keyValue? t).isSome || t.isKind .attribute

/-- Whether the keys of a mapping pattern are literals and attributes, and no literal repeats. -/
def keysAreDistinct (seen : List KeyValue) : List Tree → Bool
  | [] => true
  | key :: rest =>
    match keyValue? key with
    | some value => !seen.any value.same && keysAreDistinct (value :: seen) rest
    | none => key.isKind .attribute && keysAreDistinct seen rest

/-- Names bound so far, with one more. -/
def capture (names : List String) : Tree → Option (List String)
  | .text name => if name = "__debug__" || names.contains name then none else some (names ++ [name])
  | _ => some names

def sameNames (a b : List String) : Bool :=
  a.length == b.length && a.all b.contains

def isStarPattern (t : Tree) : Bool := t.isKind .matchStar

/-- A pattern with neither a sub-pattern nor a name matches everything. -/
def isWildcard : Tree → Bool
  | .node .matchAs _ [.absent, .absent] => true
  | _ => false

def isNamelessStar : Tree → Bool
  | .node .matchStar _ [.absent] => true
  | _ => false

/-- A sequence pattern has at most one star, and a star that binds a name has few patterns before
it. -/
def starsAreValid (patterns : List Tree) : Bool :=
  decide ((patterns.filter isStarPattern).length ≤ 1) &&
    (patterns.all (fun p => isWildcard p || isNamelessStar p) || patterns.any isNamelessStar ||
      !patterns.any isStarPattern || decide (patterns.findIdx isStarPattern < 256))

def namesAreDistinct : List Tree → Bool
  | [] => true
  | name :: rest => !rest.contains name && decide (name ≠ .text "__debug__") && namesAreDistinct rest

mutual

/-- The names bound by a pattern, after those already bound.  With `mayMatchAll`, the pattern may be
one that always matches. -/
def captures? (mayMatchAll : Bool) (names : List String) : Tree → Option (List String)
  | .node .matchValue _ [value] => if isComparable value then some names else none
  | .node .matchSequence _ [.list patterns] =>
    if starsAreValid patterns then capturesAll? names patterns else none
  | .node .matchMapping _ [.list keys, .list patterns, rest] => do
    if keysAreDistinct [] keys then
      capture (← capturesAll? names patterns) rest
    else none
  | .node .matchClass _ [_, .list positional, .list attributes, .list keyed] => do
    if namesAreDistinct attributes then
      capturesAll? (← capturesAll? names positional) keyed
    else none
  | .node .matchStar _ [name] => capture names name
  | .node .matchAs _ [.absent, name] => if mayMatchAll then capture names name else none
  | .node .matchAs _ [pattern, name] => do capture (← captures? mayMatchAll names pattern) name
  | .node .matchOr _ [.list alternatives] => do
    let bound ← alternatives? mayMatchAll none alternatives
    if bound.any names.contains then none else some (names ++ bound)
  | _ => some names
termination_by structural t => t

/-- The names bound by patterns that may always match. -/
def capturesAll? (names : List String) : List Tree → Option (List String)
  | [] => some names
  | t :: rest => do capturesAll? (← captures? true names t) rest
termination_by structural ts => ts

/-- The names that all alternatives bind.  Only the last alternative may always match. -/
def alternatives? (mayMatchAll : Bool) (first : Option (List String)) :
    List Tree → Option (List String)
  | [] => some (first.getD [])
  | t :: rest => do
    let bound ← captures? (mayMatchAll && rest.isEmpty) [] t
    match first with
    | none => alternatives? mayMatchAll (some bound) rest
    | some names =>
      if sameNames names bound then alternatives? mayMatchAll first rest else none
termination_by structural ts => ts

end

/-- Whether a pattern may stand in a case. -/
def patternIsValid (mayMatchAll : Bool) (pattern : Tree) : Bool :=
  (captures? mayMatchAll [] pattern).isSome

end MutationTesting.Source
