import EventForge.Document.Basic

/-!
# Expressions and statements of scripts

A script is a list of statements.  Functions and classes hold statements of their own.
-/

namespace EventForge

/-- How an argument is given to a call. -/
inductive ArgumentShape
  | plain
  | named (name : Text)
  /-- The members of a collection, one by one. -/
  | members
  /-- The entries of a mapping, each under its name. -/
  | entries
deriving DecidableEq, Repr, Inhabited

/-- How a parameter takes arguments. -/
inductive ParameterShape
  | plain
  /-- By its place only. -/
  | placed
  /-- By its name only. -/
  | named
  /-- All further plain arguments. -/
  | others
  /-- All further named arguments. -/
  | otherNames
deriving DecidableEq, Repr, Inhabited

inductive UnaryMark
  | plus
  | minus
  | invert
  | negate
deriving DecidableEq, Repr, Inhabited

/-- What a comprehension makes. -/
inductive CollectionKind
  | list
  | set
  | mapping
  /-- The members one by one, when they are asked for. -/
  | stream
deriving DecidableEq, Repr, Inhabited

/-- The form in which a value stands inside a text. -/
inductive TextConversion
  | plain
  | display
  /-- The display form with escapes for all that is not ASCII. -/
  | ascii
deriving DecidableEq, Repr, Inhabited

/-- Why a function stops before its end. -/
inductive Suspension
  /-- It hands out a value. -/
  | handOut
  /-- It hands out all members of a collection. -/
  | handOutAll
  /-- It waits for a value. -/
  | wait
deriving DecidableEq, Repr, Inhabited

inductive ScriptExpression
  | constant (value : Document)
  | imaginary (value : Float)
  | ellipsis
  | name (name : Text)
  | tuple (items : List ScriptExpression)
  | list (items : List ScriptExpression)
  | set (items : List ScriptExpression)
  /-- A mapping; an entry without a key stands for the entries of a mapping. -/
  | mapping (entries : List (Option ScriptExpression × ScriptExpression))
  | starred (value : ScriptExpression)
  | unary (mark : UnaryMark) (value : ScriptExpression)
  | binary (mark : Text) (first second : ScriptExpression)
  | comparison (first : ScriptExpression) (others : List (Text × ScriptExpression))
  | both (first second : ScriptExpression)
  | either (first second : ScriptExpression)
  | choice (condition value other : ScriptExpression)
  | call (function : ScriptExpression) (arguments : List (ArgumentShape × ScriptExpression))
  | attribute (value : ScriptExpression) (name : Text)
  | item (value index : ScriptExpression)
  | slice (bounds : List (Option ScriptExpression))
  | function (parameters :
        List (ParameterShape × Text × Option ScriptExpression × Option ScriptExpression))
      (body : ScriptExpression)
  /-- What a comprehension makes of each member of its sources that its conditions let through.
  Each source comes with the target of its members, and with whether it is waited for. -/
  | comprehension (kind : CollectionKind) (element : ScriptExpression)
      (value : Option ScriptExpression)
      (sources : List (Bool × ScriptExpression × ScriptExpression × List ScriptExpression))
  | binding (name : Text) (value : ScriptExpression)
  /-- A text with values in it. -/
  | formatted (pieces : List ScriptExpression)
  /-- A value inside a text, with the format in which it stands there. -/
  | shown (value : ScriptExpression) (conversion : TextConversion)
      (format : Option ScriptExpression)
  /-- What only runs inside a function that can stop. -/
  | suspended (suspension : Suspension) (value : Option ScriptExpression)
deriving Repr, Inhabited

/-- A parameter with its default and the note on it. -/
abbrev ScriptParameter :=
  ParameterShape × Text × Option ScriptExpression × Option ScriptExpression

/-- Where a comprehension takes members from: whether it waits for them, what they are assigned to,
their source and the conditions on them. -/
abbrev MemberSource := Bool × ScriptExpression × ScriptExpression × List ScriptExpression

/-- A name to import and the name to bind it to. -/
abbrev ImportedName := Text × Option Text

/-- What a value is compared with as a whole or in its parts. -/
inductive ScriptPattern
  | wildcard
  | capture (name : Text)
  /-- A value that must be equal. -/
  | equal (value : ScriptExpression)
  /-- A value that must be the same. -/
  | same (value : Document)
  | sequence (items : List ScriptPattern)
  /-- The members of a sequence that no other pattern takes. -/
  | rest (name : Option Text)
  | mapping (entries : List (ScriptExpression × ScriptPattern)) (rest : Option Text)
  | instanceOf (kind : ScriptExpression) (items : List ScriptPattern)
      (fields : List (Text × ScriptPattern))
  | either (options : List ScriptPattern)
  | named (pattern : ScriptPattern) (name : Text)
deriving Repr, Inhabited

inductive ScriptStatement
  | expression (value : ScriptExpression)
  | assignment (targets : List ScriptExpression) (value : ScriptExpression)
  | update (target : ScriptExpression) (mark : Text) (value : ScriptExpression)
  | typed (target kind : ScriptExpression) (value : Option ScriptExpression)
  | removal (targets : List ScriptExpression)
  | pass
  | breakLoop
  | continueLoop
  | giveBack (value : Option ScriptExpression)
  | raising (value cause : Option ScriptExpression)
  /-- Names of the whole script. -/
  | globalNames (names : List Text)
  /-- Names of a function around. -/
  | outerNames (names : List Text)
  | importModules (names : List ImportedName)
  | importNames (dots : Nat) (module : Text) (names : Option (List ImportedName))
  | assertion (condition : ScriptExpression) (message : Option ScriptExpression)
  | condition (test : ScriptExpression) (body other : List ScriptStatement)
  | whileLoop (test : ScriptExpression) (body other : List ScriptStatement)
  | forLoop (isAsync : Bool) (target source : ScriptExpression)
      (body other : List ScriptStatement)
  /-- The handlers are for parts of groups of faults, or for whole faults. -/
  | attempt (isGrouped : Bool) (body : List ScriptStatement)
      (handlers : List (Option ScriptExpression × Option Text × List ScriptStatement))
      (other final : List ScriptStatement)
  | within (isAsync : Bool) (items : List (ScriptExpression × Option ScriptExpression))
      (body : List ScriptStatement)
  | choose (subject : ScriptExpression)
      (cases : List (ScriptPattern × Option ScriptExpression × List ScriptStatement))
  /-- A function, with the note on what it gives back. -/
  | function (isAsync : Bool) (name : Text) (parameters : List ScriptParameter)
      (note : Option ScriptExpression) (body : List ScriptStatement)
      (decorators : List ScriptExpression)
  | classOf (name : Text) (arguments : List (ArgumentShape × ScriptExpression))
      (body : List ScriptStatement) (decorators : List ScriptExpression)
deriving Repr, Inhabited

namespace ScriptExpression

/-- What an expression is called in a refusal. -/
def description : ScriptExpression → Text
  | .constant .null => "None"
  | .constant (.bool value) => if value then "True" else "False"
  | .constant _ | .imaginary _ => "literal"
  | .ellipsis => "ellipsis"
  | .name _ => "name"
  | .tuple _ => "tuple"
  | .list _ => "list"
  | .set _ => "set display"
  | .mapping _ => "dict literal"
  | .starred _ => "starred"
  | .unary _ _ | .binary _ _ _ | .both _ _ | .either _ _ => "expression"
  | .comparison _ _ => "comparison"
  | .choice _ _ _ => "conditional expression"
  | .call _ _ => "function call"
  | .attribute _ _ => "attribute"
  | .item _ _ => "subscript"
  | .slice _ => "slice"
  | .function _ _ => "lambda"
  | .comprehension .list _ _ _ => "list comprehension"
  | .comprehension .set _ _ _ => "set comprehension"
  | .comprehension .mapping _ _ _ => "dict comprehension"
  | .comprehension .stream _ _ _ => "generator expression"
  | .binding _ _ => "named expression"
  | .formatted _ | .shown _ _ _ => "f-string expression"
  | .suspended suspension _ =>
      if suspension = .wait then "await expression" else "yield expression"

mutual

/-- The part of an expression that nothing can be assigned to, if there is one.  Nothing that is
removed can be starred. -/
def unassignable? (removing : Bool) : ScriptExpression → Option ScriptExpression
  | .name _ | .attribute _ _ | .item _ _ => none
  | .tuple items | .list items => unassignableIn? removing items
  | .starred value => if removing then some (.starred value) else unassignable? removing value
  | other => some other

def unassignableIn? (removing : Bool) : List ScriptExpression → Option ScriptExpression
  | [] => none
  | first :: others =>
      match unassignable? removing first with
      | some found => some found
      | none => unassignableIn? removing others

end

end ScriptExpression

end EventForge
