import MutationTesting.Source.Check.Placement
import MutationTesting.Source.Check.Scope
import MutationTesting.Source.Grammar.Statement

/-!
# Reading a source text

`parse?` ties the recursion of the grammar and reads a whole text as a module.  Between two uses of
a recursive rule at one place the grammar takes a token or descends through a fixed number of rules,
so a multiple of the length of the text bounds the depth.

Not every text that follows the grammar is a program.  `compiles` accepts a text when it parses, its
imports of language features are known ones, its scopes use names consistently, and every construct
stands where it may.
-/

namespace MutationTesting.Source

/-- The readers of the recursive rules, given readers for their recursive uses. -/
def production (rules : Rules) : Rules
  | .expression => expression rules
  | .disjunction => disjunction rules
  | .inversion => inversion rules
  | .bitOr => bitOr rules
  | .factor => factor rules
  | .primary => primary rules
  | .pattern => pattern rules
  | .block => block rules
  | .statement => statement rules

/-- Readers that go at most `depth` uses of recursive rules deep. -/
def rulesTo : Nat → Rules
  | 0, _ => Reader.fail
  | depth + 1, rule => production (rulesTo depth) rule

/-- The depth that suffices for a text. -/
def depthFor (cs : List Char) : Nat := 8 * (cs.length + 8)

/-- The module written by a list of characters. -/
def parseChars? (cs : List Char) : Option Tree :=
  if cs.contains '\x00' then none
  else do
    let tokens ← tokens? cs
    let (t, _) ← moduleText (rulesTo (depthFor cs)) tokens
    pure t

/-- The module written by a source text, if it is one. -/
def parse? (source : String) : Option Tree := parseChars? source.toList

/-- The first statement of a module. -/
def firstStatement (t : Tree) : Tree := (t.field 0).items.headD .absent

/-- The value of a statement that has one: that of an assignment, or an expression alone. -/
def valueOf (statement : Tree) : Tree :=
  match statement with
  | .node .assign _ _ => statement.field 1
  | .node .augmentedAssign _ _ => statement.field 2
  | .node .annotatedAssign _ _ => statement.field 2
  | _ => statement.field 0

/-! ## Programs that can be loaded -/

/-- The optional language features that a module may ask for. -/
def languageFeatures : List String :=
  ["nested_scopes", "generators", "division", "absolute_import", "with_statement",
    "print_function", "unicode_literals", "barry_as_FLUFL", "generator_stop", "annotations"]

def isLanguageFeature : Tree → Bool
  | .node .alias _ [.text name, _] => languageFeatures.contains name
  | _ => false

def isDocumentation : Tree → Bool
  | .node .expressionStatement _ [.node .constant _ [.literal (.text _), _]] => true
  | _ => false

def isFeatureImport : Tree → Bool
  | .node .importFrom _ (.text "__future__" :: _) => true
  | _ => false

/-- Whether one of the statements that follow on the same line asks for features. -/
def featuresFollow (line : Nat) : List Tree → Bool
  | [] => false
  | statement :: rest =>
    let start := statement.line?.getD 0
    decide (start ≤ line) && (isFeatureImport statement || featuresFollow start rest)

/-- The line of the last import of language features at the head of a module, after `last`.  None if
an unknown feature is asked for, or one is asked for too late on a line. -/
def featuresFrom (last : Option Nat) : List Tree → Option (Option Nat)
  | [] => some last
  | statement :: rest =>
    if isFeatureImport statement then
      if (statement.field 1).items.all isLanguageFeature then featuresFrom statement.line? rest
      else none
    else if featuresFollow (statement.line?.getD 0) rest then none
    else some last

/-- The imports of language features may only follow the documentation of the module. -/
def featureImports (body : List Tree) : Option (Option Nat) :=
  match body with
  | [] => some none
  | first :: rest => featuresFrom none (if isDocumentation first then rest else body)

/-- Whether a module can be loaded. -/
def isLoadable (module : Tree) : Bool :=
  match featureImports (module.field 0).items with
  | none => false
  | some lastFeatureLine =>
    scopesAreValid module && isPlaced ⟨.module, [], false, lastFeatureLine⟩ module

/-- Whether a source text is a program. -/
def compiles (source : String) : Bool := (parse? source).any isLoadable

end MutationTesting.Source
