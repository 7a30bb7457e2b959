import Mathlib.Logic.Function.Basic
import MutationTesting.Proofs.Dependencies.Imports

/-!
# What a name stands for after imports

After some imports a name stands for what the last of them bound it to.  An import binds the names
that it gives, and one without a name of its own binds the first part of the module's name to the
module of that name.  The survey of a test keeps the first kind of bindings always, but the second
kind only for names that are not bound yet, so the object of a method call is taken for another module
if its name was given away before and is bound again in the second way.
-/

namespace MutationTesting.Dependencies

/-- A name that an import binds. -/
inductive Binding where
  /-- A name that the import gives to a module. -/
  | given (name module : String)
  /-- The first part of a module's name, for the module of that name. -/
  | top (name : String)
deriving DecidableEq

/-- What names are bound to. -/
abbrev Scope := String → Option String

namespace Binding

def name : Binding → String
  | given name _ => name
  | top name => name

def module : Binding → String
  | given _ module => module
  | top name => name

/-- The scope after a binding. -/
def bind (scope : Scope) (b : Binding) : Scope := Function.update scope b.name (some b.module)

/-- What is kept of a binding when a test is surveyed. -/
def keep (scope : Scope) : Binding → Scope
  | given name module => Function.update scope name (some module)
  | top name => if (scope name).isSome then scope else Function.update scope name (some name)

/-- What a name stands for after some bindings; one that is not bound stands for itself. -/
def standsFor (bindings : List Binding) (name : String) : String :=
  (bindings.foldl bind (fun _ => none) name).getD name

/-- What a name is taken for after some bindings. -/
def takenFor (bindings : List Binding) (name : String) : String :=
  (bindings.foldl keep (fun _ => none) name).getD name

/-- Whether no binding gives a name away. -/
def OnlyTop (bindings : List Binding) (name : String) : Prop :=
  ∀ b ∈ bindings, b.name = name → b = .top name

/-- Whether a name is bound to the module of that name after it was last given to another one. -/
def IsReclaimed (bindings : List Binding) (name : String) : Prop :=
  ∃ before module after, bindings = before ++ .given name module :: after ∧ module ≠ name ∧
    .top name ∈ after ∧ OnlyTop after name

section Folds

variable {bindings : List Binding} {name : String}

theorem keep_of_ne {scope : Scope} {b : Binding} (hname : b.name ≠ name) :
    keep scope b name = scope name := by
  cases b with
  | given other module => exact Function.update_of_ne (Ne.symm hname) _ _
  | top other =>
      rw [keep]
      split
      · rfl
      · exact Function.update_of_ne (Ne.symm hname) _ _

theorem foldl_bind_of_onlyTop (htop : OnlyTop bindings name) (scope : Scope) :
    bindings.foldl bind scope name =
      if .top name ∈ bindings then some name else scope name := by
  induction bindings generalizing scope with
  | nil => simp
  | cons first rest ih =>
      have hrest : OnlyTop rest name := fun b hb => htop b (List.mem_cons_of_mem _ hb)
      rw [List.foldl_cons, ih hrest]
      by_cases hname : first.name = name
      · obtain rfl := htop first List.mem_cons_self hname
        simp [bind, Binding.name, Binding.module]
      · have hother : Binding.top name ≠ first := by
          rintro rfl
          exact hname rfl
        simp [bind, hother, Ne.symm hname]

theorem foldl_keep_of_onlyTop (htop : OnlyTop bindings name) (scope : Scope) :
    (bindings.foldl keep scope name).getD name = (scope name).getD name := by
  induction bindings generalizing scope with
  | nil => rfl
  | cons first rest ih =>
      have hrest : OnlyTop rest name := fun b hb => htop b (List.mem_cons_of_mem _ hb)
      rw [List.foldl_cons, ih hrest]
      by_cases hname : first.name = name
      · obtain rfl := htop first List.mem_cons_self hname
        cases hscope : scope name with
        | none => simp [keep, hscope]
        | some module => simp [keep, hscope]
      · rw [keep_of_ne hname]

/-- Either a name is never given away, or there is a last time. -/
theorem onlyTop_or_exists_last_given (bindings : List Binding) (name : String) :
    OnlyTop bindings name ∨
      ∃ before module after, bindings = before ++ .given name module :: after ∧
        OnlyTop after name := by
  induction bindings with
  | nil => exact Or.inl fun b hb => absurd hb List.not_mem_nil
  | cons first rest ih =>
      rcases ih with hrest | ⟨before, module, after, rfl, hafter⟩
      · by_cases hfirst : ∃ module, first = .given name module
        · obtain ⟨module, rfl⟩ := hfirst
          exact Or.inr ⟨[], module, rest, rfl, hrest⟩
        · refine Or.inl fun b hb hname => ?_
          rcases List.mem_cons.mp hb with rfl | hlater
          · cases b with
            | given other module => exact absurd ⟨module, congrArg (given · module) hname⟩ hfirst
            | top other => exact congrArg top hname
          · exact hrest b hlater hname
      · exact Or.inr ⟨first :: before, module, after, rfl, hafter⟩

theorem standsFor_of_last_given {before after : List Binding} {module : String}
    (hafter : OnlyTop after name) :
    standsFor (before ++ .given name module :: after) name =
      if .top name ∈ after then name else module := by
  rw [standsFor, List.foldl_append, List.foldl_cons, foldl_bind_of_onlyTop hafter]
  split
  · rfl
  · simp [bind, Binding.name, Binding.module]

theorem takenFor_of_last_given {before after : List Binding} {module : String}
    (hafter : OnlyTop after name) :
    takenFor (before ++ .given name module :: after) name = module := by
  rw [takenFor, List.foldl_append, List.foldl_cons, foldl_keep_of_onlyTop hafter]
  simp [keep]

end Folds

/-- A name is taken for what it stands for, unless it is reclaimed. -/
theorem takenFor_eq_standsFor_iff (bindings : List Binding) (name : String) :
    takenFor bindings name = standsFor bindings name ↔ ¬IsReclaimed bindings name := by
  constructor
  · rintro hsame ⟨before, module, after, rfl, hmodule, hbound, hafter⟩
    rw [takenFor_of_last_given hafter, standsFor_of_last_given hafter, if_pos hbound] at hsame
    exact hmodule hsame
  · intro hkept
    rcases onlyTop_or_exists_last_given bindings name with hnever | ⟨before, module, after, rfl, hafter⟩
    · rw [takenFor, foldl_keep_of_onlyTop hnever, standsFor, foldl_bind_of_onlyTop hnever]
      split <;> rfl
    · rw [takenFor_of_last_given hafter, standsFor_of_last_given hafter]
      by_cases hbound : .top name ∈ after
      · rw [if_pos hbound]
        by_contra hmodule
        exact hkept ⟨before, module, after, rfl, hmodule, hbound, hafter⟩
      · rw [if_neg hbound]

end Binding

/-- A name without points, as the parts of a module's name are. -/
structure Part where
  text : String
  nonempty : text ≠ "" := by decide
  no_point : '.' ∉ text.toList := by decide
  no_star : text ≠ "*" := by decide

/-- The name of a module. -/
structure DottedName where
  first : Part
  rest : List Part

namespace DottedName

def text (m : DottedName) : String := dotted (m.first.text :: m.rest.map Part.text)

/-- After the first part nothing follows but a point. -/
theorem exists_toList_text (m : DottedName) :
    ∃ others, m.text.toList = m.first.text.toList ++ others ∧
      others.takeWhile (· != '.') = [] := by
  rw [text, dotted]
  by_cases hrest : m.rest.map Part.text = []
  · exact ⟨[], by rw [hrest, String.intercalate_singleton, List.append_nil], rfl⟩
  · refine ⟨'.' :: (String.intercalate "." (m.rest.map Part.text)).toList, ?_, rfl⟩
    rw [String.intercalate_cons_of_ne_nil hrest, String.toList_append, String.toList_append,
      List.append_assoc]
    rfl

theorem text_ne_empty (m : DottedName) : m.text ≠ "" := by
  intro hempty
  obtain ⟨others, htext, -⟩ := m.exists_toList_text
  rw [hempty, String.toList_empty, eq_comm, List.append_eq_nil_iff] at htext
  exact m.first.nonempty (String.toList_eq_nil_iff.mp htext.1)

/-- The first part of a name is what stands before the first point. -/
theorem takeWhile_text (m : DottedName) :
    String.ofList (m.text.toList.takeWhile (· != '.')) = m.first.text := by
  have hfirst : ∀ c ∈ m.first.text.toList, (c != '.') = true := by
    intro c hc
    have hne : c ≠ '.' := fun heq => m.first.no_point (heq ▸ hc)
    simpa using hne
  obtain ⟨others, htext, hothers⟩ := m.exists_toList_text
  rw [htext, List.takeWhile_append_of_pos hfirst, hothers, List.append_nil, String.ofList_toList]

end DottedName

/-- What an import names, with the name that it gives to it, if any. -/
structure Alias (α : Type) where
  line : Nat
  name : α
  asName : Option Part

def Alias.toTree {α : Type} (text : α → String) (a : Alias α) : Tree :=
  .node .alias a.line [.text (text a.name), a.asName.elim .absent fun other => .text other.text]

/-- An import by absolute names: of whole modules, or of some names from a module. -/
inductive ImportLine where
  | modules (line : Nat) (aliases : List (Alias DottedName))
  | content (line : Nat) (package : DottedName) (aliases : List (Alias Part))

namespace ImportLine

def toTree : ImportLine → Tree
  | modules line aliases =>
    .node .importStatement line [.list (aliases.map (Alias.toTree DottedName.text))]
  | content line package aliases =>
    .node .importFrom line
      [.text package.text, .list (aliases.map (Alias.toTree Part.text)), .number 0]

def moduleBinding (a : Alias DottedName) : Binding :=
  a.asName.elim (.top a.name.first.text) fun other => .given other.text a.name.text

def contentBinding (package : DottedName) (a : Alias Part) : Binding :=
  .given (a.asName.getD a.name).text (package.text ++ "." ++ a.name.text)

/-- The names that an import binds, in turn. -/
def bindings : ImportLine → List Binding
  | modules _ aliases => aliases.map moduleBinding
  | content _ package aliases => aliases.map (contentBinding package)

/-- The modules that an import may load. -/
def loaded : ImportLine → List String
  | modules _ aliases => aliases.map fun a => a.name.text
  | content _ package aliases =>
    package.text :: aliases.map fun a => package.text ++ "." ++ a.name.text

end ImportLine

/-- A name, or a member of an object that is given like this. -/
inductive Chain where
  | name (line : Nat) (text : String)
  | member (line : Nat) (object : Chain) (last : String)

namespace Chain

def toTree : Chain → Tree
  | name line text => .node .name line [.text text, .node (.usage .load) 0 []]
  | member line object last =>
    .node .attribute line [object.toTree, .text last, .node (.usage .load) 0 []]

def head : Chain → String
  | name _ text => text
  | member _ object _ => object.head

/-- The members after the head. -/
def path : Chain → List String
  | name _ _ => []
  | member _ object last => object.path ++ [last]

theorem chain?_toTree (c : Chain) : chain? c.toTree = some (c.head :: c.path) := by
  induction c with
  | name line text => rfl
  | member line object last ih =>
      rw [toTree, chain?, ih]
      rfl

theorem survey_toTree (s : Sighting) (c : Chain) : survey s c.toTree = s := by
  induction c generalizing s with
  | name line text => rfl
  | member line object last ih => exact ih s

end Chain

namespace Sighting

/-- What names are bound to. -/
def scope (s : Sighting) : Scope := fun name => s.bindings.lookup name

theorem scope_bind (s : Sighting) (name module : String) :
    (s.bind name module).scope = Function.update s.scope name (some module) := by
  funext other
  by_cases hother : other = name
  · subst hother
    simp [scope, bind]
  · rw [Function.update_of_ne hother, scope, bind, List.lookup_cons, beq_false_of_ne hother]
    rfl

/-- What a chain stands for depends on the bindings of its head alone. -/
theorem resolve_cons (s : Sighting) (head : String) (path : List String) :
    s.resolve (head :: path) = dotted ((s.scope head).getD head :: path) := rfl

/-- What imports add to what has been seen: modules, and bindings that are kept. -/
structure Adds (loaded : List String) (bindings : List Binding) (s s' : Sighting) : Prop where
  modules : ∀ module, module ∈ s'.modules ↔ module ∈ s.modules ∨ module ∈ loaded
  labels : s'.labels = s.labels
  scope : s'.scope = bindings.foldl Binding.keep s.scope

namespace Adds

variable {loaded others : List String} {bindings later : List Binding} {s s' s'' : Sighting}

theorem refl (s : Sighting) : Adds [] [] s s where
  modules := by simp
  labels := rfl
  scope := rfl

theorem trans (hfirst : Adds loaded bindings s s') (hthen : Adds others later s' s'') :
    Adds (loaded ++ others) (bindings ++ later) s s'' where
  modules module := by rw [hthen.modules, hfirst.modules, List.mem_append, or_assoc]
  labels := hthen.labels.trans hfirst.labels
  scope := by rw [hthen.scope, hfirst.scope, List.foldl_append]

theorem foldl {α : Type} {step : Sighting → α → Sighting} {loaded : α → List String}
    {bindings : α → List Binding}
    (hstep : ∀ s item, Adds (loaded item) (bindings item) s (step s item)) (items : List α)
    (s : Sighting) :
    Adds (items.flatMap loaded) (items.flatMap bindings) s (items.foldl step s) := by
  induction items generalizing s with
  | nil => exact refl s
  | cons first rest ih => exact (hstep s first).trans (ih (step s first))

end Adds

theorem adds_refer (s : Sighting) (module : String) : Adds [module] [] s (s.refer module) where
  modules other := by simp [or_comm]
  labels := rfl
  scope := rfl

theorem Adds.bind {loaded : List String} {s s' : Sighting} (hadds : Adds loaded [] s s')
    (name module : String) : Adds loaded [.given name module] s (s'.bind name module) where
  modules := hadds.modules
  labels := hadds.labels
  scope := by
    rw [scope_bind, hadds.scope]
    rfl

theorem adds_importModule (s : Sighting) (a : Alias DottedName) :
    Adds [a.name.text] [ImportLine.moduleBinding a] s
      (s.importModule (a.toTree DottedName.text)) := by
  obtain ⟨line, name, asName⟩ := a
  have hrefer := s.adds_refer name.text
  cases asName with
  | some other => exact hrefer.bind other.text name.text
  | none =>
      dsimp only [Alias.toTree, Option.elim_none, importModule]
      rw [name.takeWhile_text]
      have hscope : [ImportLine.moduleBinding ⟨line, name, none⟩].foldl Binding.keep s.scope =
          if (s.scope name.first.text).isSome then s.scope
          else Function.update s.scope name.first.text (some name.first.text) := rfl
      split
      next hbound =>
          rw [if_pos (show (s.scope name.first.text).isSome = true from hbound)] at hscope
          exact ⟨hrefer.modules, rfl, hscope.symm⟩
      next hfree =>
          rw [if_neg (show ¬(s.scope name.first.text).isSome = true from hfree)] at hscope
          exact ⟨hrefer.modules, rfl, (scope_bind _ _ _).trans hscope.symm⟩

theorem adds_importName (package : DottedName) (s : Sighting) (a : Alias Part) :
    Adds [package.text ++ "." ++ a.name.text] [ImportLine.contentBinding package a] s
      (importName package.text s (a.toTree Part.text)) := by
  obtain ⟨line, name, asName⟩ := a
  have hrefer := s.adds_refer (package.text ++ "." ++ name.text)
  dsimp only [Alias.toTree, importName]
  rw [if_neg name.no_star]
  cases asName with
  | some other =>
      dsimp only [Option.elim_some]
      rw [if_neg other.nonempty]
      exact hrefer.bind other.text (package.text ++ "." ++ name.text)
  | none => exact hrefer.bind name.text (package.text ++ "." ++ name.text)

theorem adds_look (s : Sighting) (i : ImportLine) :
    Adds i.loaded i.bindings s (s.look i.toTree) := by
  cases i with
  | modules line aliases =>
      have hadds := Adds.foldl adds_importModule aliases s
      rw [← List.map_eq_flatMap, ← List.map_eq_flatMap] at hadds
      rw [ImportLine.toTree, look, List.foldl_map]
      exact hadds
  | content line package aliases =>
      have hadds := Adds.foldl (adds_importName package) aliases (s.refer package.text)
      rw [← List.map_eq_flatMap, ← List.map_eq_flatMap] at hadds
      rw [ImportLine.toTree, look, if_neg package.text_ne_empty, List.foldl_map]
      exact (s.adds_refer package.text).trans hadds

end Sighting

/-- Nothing is seen of an import below its line. -/
theorem surveyAll_aliases {α : Type} (text : α → String) (s : Sighting) (aliases : List (Alias α)) :
    surveyAll s (aliases.map (Alias.toTree text)) = s := by
  induction aliases with
  | nil => rfl
  | cons first rest ih =>
      obtain ⟨line, name, asName⟩ := first
      cases asName with
      | none => exact ih
      | some other => exact ih

theorem survey_importLine (s : Sighting) (i : ImportLine) : survey s i.toTree = s.look i.toTree := by
  cases i with
  | modules line aliases => exact surveyAll_aliases DottedName.text _ aliases
  | content line package aliases => exact surveyAll_aliases Part.text _ aliases

theorem adds_surveyAll_imports (imports : List ImportLine) (s : Sighting) :
    Sighting.Adds (imports.flatMap ImportLine.loaded) (imports.flatMap ImportLine.bindings) s
      (surveyAll s (imports.map ImportLine.toTree)) := by
  induction imports generalizing s with
  | nil => exact Sighting.Adds.refl s
  | cons first rest ih =>
      rw [List.map_cons, surveyAll, survey_importLine]
      exact (s.adds_look first).trans (ih _)

theorem surveyAll_append (s : Sighting) (first others : List Tree) :
    surveyAll s (first ++ others) = surveyAll (surveyAll s first) others := by
  induction first generalizing s with
  | nil => rfl
  | cons t rest ih => exact ih (survey s t)

theorem dotted_cons_inj {first other : String} {rest : List String} :
    dotted (first :: rest) = dotted (other :: rest) ↔ first = other := by
  rw [dotted, dotted]
  by_cases hrest : rest = []
  · rw [hrest, String.intercalate_singleton, String.intercalate_singleton]
  · rw [String.intercalate_cons_of_ne_nil hrest, String.intercalate_cons_of_ne_nil hrest,
      String.append_assoc, String.append_assoc, String.append_left_inj]

/-- A program that imports some modules and then calls a method. -/
structure MethodCall where
  imports : List ImportLine
  line : Nat
  object : Chain
  method : String
  arguments : List Tree
  keywords : List Tree

namespace MethodCall

/-- The call as an expression. -/
def expression (p : MethodCall) : Tree :=
  .node .call p.line
    [(Chain.member p.line p.object p.method).toTree, .list p.arguments, .list p.keywords]

def toTree (p : MethodCall) : Tree :=
  .node .module 0
    [.list (p.imports.map ImportLine.toTree ++ [.node .expressionStatement p.line [p.expression]])]

/-- The bindings that the object of the call is read with. -/
def bindings (p : MethodCall) : List Binding := p.imports.flatMap ImportLine.bindings

def loaded (p : MethodCall) : List String := p.imports.flatMap ImportLine.loaded

/-- What the object of the call is, by the last binding of its head. -/
def target (p : MethodCall) : String :=
  dotted (Binding.standsFor p.bindings p.object.head :: p.object.path)

/-- What the object of the call is taken for. -/
def found (p : MethodCall) : String :=
  dotted (Binding.takenFor p.bindings p.object.head :: p.object.path)

/-- What has been seen after the imports. -/
def imported (p : MethodCall) : Sighting := surveyAll {} (p.imports.map ImportLine.toTree)

theorem adds_imported (p : MethodCall) : Sighting.Adds p.loaded p.bindings {} p.imported :=
  adds_surveyAll_imports p.imports {}

/-- The object of a method call is referred to as what it is taken for. -/
theorem look_expression (p : MethodCall) :
    p.imported.look p.expression = p.imported.refer p.found := by
  have hscope : p.imported.scope p.object.head =
      p.bindings.foldl Binding.keep (fun _ => none) p.object.head :=
    congrFun p.adds_imported.scope p.object.head
  rw [expression, Chain.toTree, Sighting.look, Sighting.call, Chain.chain?_toTree]
  dsimp only
  rw [Sighting.resolve_cons, hscope]
  rfl

theorem survey_toTree (p : MethodCall) :
    survey {} p.toTree =
      surveyAll (surveyAll (p.imported.refer p.found) p.arguments) p.keywords := by
  calc survey {} p.toTree
      = surveyAll {} (p.imports.map ImportLine.toTree ++
          [.node .expressionStatement p.line [p.expression]]) := rfl
    _ = survey p.imported p.expression := surveyAll_append _ _ _
    _ = surveyAll (surveyAll (survey (p.imported.look p.expression)
          (Chain.member p.line p.object p.method).toTree) p.arguments) p.keywords := rfl
    _ = surveyAll (surveyAll (p.imported.refer p.found) p.arguments) p.keywords := by
          rw [Chain.survey_toTree, look_expression]

theorem found_mem_references (p : MethodCall) (known : Option (List String)) :
    p.found ∈ references known p.toTree := by
  rw [references, Text.mem_sortedSet, survey_toTree]
  refine List.mem_append_left _ (subset_surveyAll _ _ (subset_surveyAll _ _ ?_))
  exact List.mem_cons_self

/-- Without arguments nothing else is referred to but what is imported. -/
theorem mem_references_iff (p : MethodCall) (harguments : p.arguments = [])
    (hkeywords : p.keywords = []) (known : Option (List String)) {module : String} :
    module ∈ references known p.toTree ↔ module = p.found ∨ module ∈ p.loaded := by
  have hlabels : p.imported.labels = [] := p.adds_imported.labels
  rw [references, Text.mem_sortedSet, survey_toTree, harguments, hkeywords]
  simp [surveyAll, Sighting.refer, hlabels, p.adds_imported.modules]

theorem found_eq_target_iff (p : MethodCall) :
    p.found = p.target ↔ ¬Binding.IsReclaimed p.bindings p.object.head := by
  rw [← Binding.takenFor_eq_standsFor_iff, found, target, dotted_cons_inj]

end MethodCall

/-- A method call refers to its object: as what the last binding of its head makes it, unless the head
was given to another module before and then bound again as the first part of a module's name. -/
theorem method_call_refers_to_target_unless_reclaimed (p : MethodCall)
    (known : Option (List String)) :
    (¬Binding.IsReclaimed p.bindings p.object.head → p.target ∈ references known p.toTree) ∧
    (p.arguments = [] → p.keywords = [] →
      (p.target ∈ references known p.toTree ↔
        ¬Binding.IsReclaimed p.bindings p.object.head ∨ p.target ∈ p.loaded)) := by
  constructor
  · intro hkept
    rw [← p.found_eq_target_iff.mpr hkept]
    exact p.found_mem_references known
  · intro harguments hkeywords
    rw [p.mem_references_iff harguments hkeywords known, eq_comm, p.found_eq_target_iff]

/-- A name that is given away and then bound again: `import m as a`, `import a.b`, `a.f()`. -/
def reclaimedName : MethodCall where
  imports := [
    .modules 1 [⟨1, ⟨{ text := "m" }, []⟩, some { text := "a" }⟩],
    .modules 2 [⟨2, ⟨{ text := "a" }, [{ text := "b" }]⟩, none⟩]]
  line := 3
  object := .name 3 "a"
  method := "f"
  arguments := []
  keywords := []

/-- The object of this call is the module `a`, but that is not referred to. -/
theorem reclaimed_name_is_missed :
    Source.parse? "import m as a\nimport a.b\na.f()\n" = some reclaimedName.toTree ∧
      reclaimedName.target = "a" ∧
      reclaimedName.target ∉ references none reclaimedName.toTree := by
  refine ⟨by decide +kernel, by decide +kernel, ?_⟩
  rw [reclaimedName.mem_references_iff rfl rfl none]
  decide +kernel

/-- The same imports the other way round, and a call of `a.x.f()`. -/
def lastGiven : MethodCall where
  imports := reclaimedName.imports.reverse
  line := 3
  object := .member 3 (.name 3 "a") "x"
  method := "f"
  arguments := []
  keywords := []

/-- The name stands for the module that it was last given to. -/
theorem last_given_name_is_resolved :
    ¬Binding.IsReclaimed lastGiven.bindings lastGiven.object.head ∧
      lastGiven.target = "m.x" ∧ lastGiven.target ∈ references none lastGiven.toTree := by
  have hkept : ¬Binding.IsReclaimed lastGiven.bindings lastGiven.object.head :=
    (Binding.takenFor_eq_standsFor_iff _ _).mp (by decide +kernel)
  have hrefers := method_call_refers_to_target_unless_reclaimed lastGiven none
  exact ⟨hkept, by decide +kernel, (hrefers.2 rfl rfl).mpr (Or.inl hkept)⟩

end MutationTesting.Dependencies
