import MutationTesting.Text.Quoted

/-!
# Options of the optimizer

A run may drop mutations that say little.  The options tell how many; three levels name the usual
choices.
-/

namespace MutationTesting.Optimizer

/-- The knobs of the optimizer.  It is off unless enabled. -/
structure Options where
  enabled : Bool := false
  /-- Mutations of less complex code are dropped. -/
  minComplexity : Int := 2
  /-- How many mutations a function keeps.  A negative number says how many it loses. -/
  maxPerFunction : Int := 20
  /-- Mutations of boundary comparisons are never dropped. -/
  keepsBoundary : Bool := true
deriving DecidableEq, Repr, Inhabited

/-- A named choice of options. -/
inductive Level where
  | conservative
  | balanced
  | aggressive
deriving DecidableEq, Repr

namespace Level

def name : Level → String
  | conservative => "conservative"
  | balanced => "balanced"
  | aggressive => "aggressive"

def all : List Level := [conservative, balanced, aggressive]

def ofName? (name : String) : Option Level := all.find? (·.name == name)

/-- The options a level stands for. -/
def options : Level → Options
  | conservative => ⟨true, 1, 50, true⟩
  | balanced => ⟨true, 2, 20, true⟩
  | aggressive => ⟨true, 3, 10, true⟩

end Level

/-- A level that does not exist. -/
structure UnknownLevel where
  name : String
deriving DecidableEq, Repr

def UnknownLevel.message (e : UnknownLevel) : String :=
  "unknown optimization level " ++ Text.quoted e.name ++
    "; use conservative, balanced or aggressive"

/-- Changes to some of the options. -/
structure Overrides where
  enabled : Option Bool := none
  minComplexity : Option Int := none
  maxPerFunction : Option Int := none
  keepsBoundary : Option Bool := none
deriving DecidableEq, Repr, Inhabited

def Options.override (o : Options) (changes : Overrides) : Options where
  enabled := changes.enabled.getD o.enabled
  minComplexity := changes.minComplexity.getD o.minComplexity
  maxPerFunction := changes.maxPerFunction.getD o.maxPerFunction
  keepsBoundary := changes.keepsBoundary.getD o.keepsBoundary

/-- The options of a named level with changes. -/
def Options.preset (levelName : String) (changes : Overrides) : Except UnknownLevel Options :=
  match Level.ofName? levelName with
  | none => .error ⟨levelName⟩
  | some level => .ok (level.options.override changes)

end MutationTesting.Optimizer
