import EventForge.Script.Code.Basic
import EventForge.Script.Reading.Pattern

/-!
# Names of a script

Which names a piece of code binds, and where a name is looked for.
-/

namespace EventForge

/-!
## What scripts do with names

A part of a script binds names, declares where names belong, and may stop before its end.  Functions
and classes inside it keep their own names to themselves; a comprehension does so with the names of
its members, but not with those that its expressions bind.
-/

/-- What a part of a script does to the function around it. -/
inductive NameMark
  | binds (name : Text)
  | suspends (suspension : Suspension)
  /-- A name belongs to the whole script. -/
  | isGlobal (name : Text)
  /-- A name belongs to a function around. -/
  | isOuter (name : Text)
deriving DecidableEq, Repr

namespace NameMark

def bindAll (names : List Text) : List NameMark := names.map .binds

/-- What remains of the marks inside a comprehension. -/
def outsideComprehension (marks : List NameMark) : List NameMark :=
  marks.filter fun mark =>
    match mark with
    | .binds _ | .suspends .wait => true
    | _ => false

mutual

/-- The marks of an expression. -/
def ofExpression : ScriptExpression → List NameMark
  | .constant _ | .imaginary _ | .ellipsis | .name _ => []
  | .tuple items | .list items | .set items | .formatted items => ofExpressions items
  | .mapping entries => ofEntries entries
  | .starred value | .unary _ value | .attribute value _ => ofExpression value
  | .binary _ first second | .both first second | .either first second | .item first second =>
      ofExpression first ++ ofExpression second
  | .comparison first others => ofExpression first ++ ofComparisons others
  | .choice condition value other =>
      ofExpression condition ++ ofExpression value ++ ofExpression other
  | .call function arguments => ofExpression function ++ ofArguments arguments
  | .slice bounds => ofOptions bounds
  | .function parameters _ => ofParameters parameters
  | .comprehension _ element value sources =>
      outsideComprehension (ofExpression element ++ ofOption value ++ ofSources sources)
  | .binding name value => .binds name :: ofExpression value
  | .shown value _ format => ofExpression value ++ ofOption format
  | .suspended suspension value => .suspends suspension :: ofOption value
termination_by structural expression => expression

def ofExpressions : List ScriptExpression → List NameMark
  | [] => []
  | first :: others => ofExpression first ++ ofExpressions others
termination_by structural items => items

def ofOption : Option ScriptExpression → List NameMark
  | none => []
  | some value => ofExpression value
termination_by structural value => value

def ofOptions : List (Option ScriptExpression) → List NameMark
  | [] => []
  | first :: others => ofOption first ++ ofOptions others
termination_by structural values => values

def ofEntries : List (Option ScriptExpression × ScriptExpression) → List NameMark
  | [] => []
  | (key, value) :: others => ofOption key ++ ofExpression value ++ ofEntries others
termination_by structural entries => entries

def ofComparisons : List (Text × ScriptExpression) → List NameMark
  | [] => []
  | (_, value) :: others => ofExpression value ++ ofComparisons others
termination_by structural comparisons => comparisons

def ofArguments : List (ArgumentShape × ScriptExpression) → List NameMark
  | [] => []
  | (_, value) :: others => ofExpression value ++ ofArguments others
termination_by structural arguments => arguments

/-- The marks of parameters: those of their defaults and notes. -/
def ofParameters :
    List (ParameterShape × Text × Option ScriptExpression × Option ScriptExpression) →
    List NameMark
  | [] => []
  | (_, _, standard, note) :: others => ofOption standard ++ ofOption note ++ ofParameters others
termination_by structural parameters => parameters

/-- The marks of sources apart from the names of their members. -/
def ofSources : List (Bool × ScriptExpression × ScriptExpression × List ScriptExpression) →
    List NameMark
  | [] => []
  | (isAsync, _, source, conditions) :: others =>
      (if isAsync then [.suspends .wait] else []) ++ ofExpression source ++
        ofExpressions conditions ++ ofSources others
termination_by structural sources => sources

end

mutual

/-- The marks of what values are assigned to. -/
def ofTarget : ScriptExpression → List NameMark
  | .name name => [.binds name]
  | .tuple items | .list items => ofTargets items
  | .starred value => ofTarget value
  | other => ofExpression other
termination_by structural target => target

def ofTargets : List ScriptExpression → List NameMark
  | [] => []
  | first :: others => ofTarget first ++ ofTargets others
termination_by structural targets => targets

end

/-- The name that an import binds. -/
def importedName (name : ImportedName) : Text :=
  name.2.getD (name.1.takeWhile fun (point : CodePoint) => point ≠ '.')

/-- The marks of things that are entered. -/
def ofItems (items : List (ScriptExpression × Option ScriptExpression)) : List NameMark :=
  items.flatMap fun item => ofExpression item.1 ++ (item.2.map ofTarget).getD []

mutual

/-- The marks of a statement. -/
def ofStatement : ScriptStatement → List NameMark
  | .expression value => ofExpression value
  | .assignment targets value => ofExpression value ++ ofTargets targets
  | .update target _ value => ofExpression value ++ ofTarget target
  | .typed target kind value => ofOption value ++ ofTarget target ++ ofExpression kind
  | .removal targets => ofTargets targets
  | .pass | .breakLoop | .continueLoop => []
  | .giveBack value => ofOption value
  | .raising value cause => ofOption value ++ ofOption cause
  | .globalNames names => names.map .isGlobal
  | .outerNames names => names.map .isOuter
  | .importModules names => bindAll (names.map importedName)
  | .importNames _ _ names => bindAll ((names.getD []).map fun name => name.2.getD name.1)
  | .assertion condition message => ofExpression condition ++ ofOption message
  | .condition test body other | .whileLoop test body other =>
      ofExpression test ++ ofStatements body ++ ofStatements other
  | .forLoop isAsync target source body other =>
      (if isAsync then [.suspends .wait] else []) ++ ofExpression source ++ ofTarget target ++
        ofStatements body ++ ofStatements other
  | .attempt _ body handlers other final =>
      ofStatements body ++ ofHandlers handlers ++ ofStatements other ++ ofStatements final
  | .within isAsync items body =>
      (if isAsync then [.suspends .wait] else []) ++ ofItems items ++ ofStatements body
  | .choose subject cases => ofExpression subject ++ ofCases cases
  | .function _ name parameters note _ decorators =>
      .binds name :: ofExpressions decorators ++ ofParameters parameters ++ ofOption note
  | .classOf name arguments _ decorators =>
      .binds name :: ofExpressions decorators ++ ofArguments arguments
termination_by structural statement => statement

def ofStatements : List ScriptStatement → List NameMark
  | [] => []
  | first :: others => ofStatement first ++ ofStatements others
termination_by structural statements => statements

def ofHandlers : List (Option ScriptExpression × Option Text × List ScriptStatement) →
    List NameMark
  | [] => []
  | (kinds, name, body) :: others =>
      ofOption kinds ++ bindAll name.toList ++ ofStatements body ++ ofHandlers others
termination_by structural handlers => handlers

def ofCases : List (ScriptPattern × Option ScriptExpression × List ScriptStatement) →
    List NameMark
  | [] => []
  | (pattern, guard, body) :: others =>
      bindAll pattern.names ++ ofOption guard ++ ofStatements body ++ ofCases others
termination_by structural cases => cases

end

end NameMark

/-!
## Where names belong

A name that a function binds is its own, unless the function declares otherwise.  All other names
are looked for in the functions around, and then among those of the whole script.  The names of a
class are seen by the statements of the class, but not by the functions in it.
-/

inductive NameScopeKind
  | whole
  | function
  | comprehension
  | classBody
deriving DecidableEq, Repr, Inhabited

/-- What is known about the names of a function or class while its instructions are made. -/
structure NameScope where
  kind : NameScopeKind := .whole
  bound : List Text := []
  globals : List Text := []
  /-- What stands in front of the names of the functions and classes inside. -/
  lead : Text := []
  /-- The class around. -/
  className : Option Text := none
  /-- Whether notes on names are kept as they are written. -/
  keepsNotes : Bool := false
deriving Repr, Inhabited

/-- A function or class with those around it, the innermost first. -/
abbrev NameScopes := List NameScope

namespace NameScopes

def innermost (scopes : NameScopes) : NameScope := scopes.headD {}

/-- How many functions further out a name belongs, if it belongs to one of them. -/
def hops? (name : Text) (hops : Nat) : NameScopes → Option Nat
  | [] => none
  | scope :: outer =>
      match scope.kind with
      | .whole => none
      | .classBody =>
          if name = ("__class__" : Text) then some hops else hops? name (hops + 1) outer
      | .function | .comprehension =>
          if scope.bound.contains name then some hops
          else if scope.globals.contains name then none
          else hops? name (hops + 1) outer

/-- A name inside a class that is meant for the class alone: two marks lead it, but do not end
it. -/
def nameWithin (className : Option Text) (name : Text) : Text :=
  match className with
  | none => name
  | some className =>
      let bare : Text := className.dropWhile fun (point : CodePoint) => point = '_'
      if name.startsWith "__" && !name.endsWith "__" && !bare.isEmpty then
        ("_" : Text) ++ bare ++ name
      else name

def ownName (scopes : NameScopes) (name : Text) : Text :=
  nameWithin scopes.innermost.className name

/-- Where a name is looked for. -/
def use (scopes : NameScopes) (written : Text) : NameUse :=
  let name := scopes.ownName written
  let scope := scopes.innermost
  if scope.globals.contains name then .global name
  else
    match scope.kind with
    | .whole => .global name
    | .classBody =>
        if scope.bound.contains name then .ofClass name
        else
          match hops? name 1 (scopes.drop 1) with
          | some hops => .scoped hops name
          | none => .ofClass name
    | .function | .comprehension =>
        match hops? name 0 scopes with
        | some hops => .scoped hops name
        | none => .global name

/-- Where a name belongs that an expression binds: to the function around all comprehensions. -/
def bindingUse (scopes : NameScopes) (name : Text) : NameUse :=
  let inner := scopes.takeWhile fun scope => scope.kind = .comprehension
  match use (scopes.drop inner.length) name with
  | .scoped hops name => .scoped (hops + inner.length) name
  | other => other

/-- The names that marks bind in a function with some parameters. -/
def boundNames (parameters : List Text) (marks : List NameMark) : List Text :=
  let elsewhere := marks.filterMap fun mark =>
    match mark with
    | .isGlobal name | .isOuter name => some name
    | _ => none
  let binds := marks.filterMap fun mark =>
    match mark with
    | .binds name => some name
    | _ => none
  (parameters ++ binds.filter fun name => !elsewhere.contains name).eraseDups

def globalNames (marks : List NameMark) : List Text :=
  marks.filterMap fun mark =>
    match mark with
    | .isGlobal name => some name
    | _ => none

/-- The scope of a function inside others. -/
def inner (scopes : NameScopes) (kind : NameScopeKind) (name : Text) (parameters : List Text)
    (marks : List NameMark) : NameScope :=
  let own (names : List Text) : List Text := names.map scopes.ownName
  { kind, bound := own (boundNames parameters marks), globals := own (globalNames marks)
    lead := scopes.innermost.lead ++ name ++ ".<locals>."
    className := scopes.innermost.className, keepsNotes := scopes.innermost.keepsNotes }

/-- The scope of a class inside others. -/
def innerClass (scopes : NameScopes) (name : Text) (marks : List NameMark) : NameScope :=
  let own (names : List Text) : List Text := names.map (nameWithin (some name))
  { kind := .classBody, bound := own (boundNames [] marks), globals := own (globalNames marks)
    lead := scopes.innermost.lead ++ name ++ "."
    className := some name, keepsNotes := scopes.innermost.keepsNotes }

/-- Whether marks stop the function around for a reason. -/
def stopsFor (reasons : List Suspension) (marks : List NameMark) : Bool :=
  marks.any fun mark =>
    match mark with
    | .suspends suspension => reasons.contains suspension
    | _ => false

def flavour (isAsync : Bool) (marks : List NameMark) : FunctionFlavour :=
  match isAsync, stopsFor [.handOut, .handOutAll] marks with
  | false, false => .plain
  | false, true => .stream
  | true, false => .waiting
  | true, true => .waitingStream

end NameScopes

end EventForge
