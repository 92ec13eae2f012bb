import EventForge.Script.Syntax
import EventForge.Script.Value

/-!
# Instructions

A script is carried out by instructions that work on a stack of values.  Parts that are carried out
several times, or not at all, are lists of instructions inside an instruction.
-/

namespace EventForge

/-- Where a name is looked for. -/
inductive NameUse
  /-- Among the names of a function, some functions further out. -/
  | scoped (hops : Nat) (name : Text)
  /-- Among the names of the whole script, and then among those that every script knows. -/
  | global (name : Text)
  /-- Among the names of a class that is being made, and then as a global name. -/
  | ofClass (name : Text)
deriving DecidableEq, Repr, Inhabited

/-- What a function does when it is called. -/
inductive FunctionFlavour
  | plain
  /-- It gives a stream of what it hands out. -/
  | stream
  /-- It gives something to wait for. -/
  | waiting
  | waitingStream
deriving DecidableEq, Repr, Inhabited

structure CodeParameter where
  shape : ParameterShape
  name : Text
  hasDefault : Bool
deriving DecidableEq, Repr, Inhabited

/-- A function or class with what it carries out. -/
structure FunctionCode (Step : Type) where
  name : Text
  /-- The name with those of the functions and classes around. -/
  path : Text
  parameters : List CodeParameter := []
  flavour : FunctionFlavour := .plain
  /-- What the function says about itself. -/
  description : Option Text := none
  body : List Step
deriving Inhabited

/-- A value that a pattern compares with. -/
inductive PatternValue
  | constant (value : ScriptValue)
  | path (use : NameUse) (attributes : List Text)
deriving Inhabited

inductive CodePattern
  | wildcard
  | capture (use : NameUse)
  | equal (value : PatternValue)
  | same (value : ScriptValue)
  | sequence (items : List CodePattern)
  | rest (use : Option NameUse)
  | mapping (entries : List (PatternValue × CodePattern)) (further : Option NameUse)
  | instanceOf (kind : PatternValue) (items : List CodePattern)
      (fields : List (Text × CodePattern))
  | either (options : List CodePattern)
  | named (pattern : CodePattern) (use : NameUse)
deriving Inhabited

inductive Instruction
  | constant (value : ScriptValue)
  | read (use : NameUse)
  | write (use : NameUse)
  | forget (use : NameUse)
  /-- The attribute of a value. -/
  | attribute (name : Text)
  /-- Takes an owner and the value below it for an attribute. -/
  | setAttribute (name : Text)
  | forgetAttribute (name : Text)
  /-- Takes an index and the collection below it. -/
  | item
  /-- Takes an index, a collection and a value. -/
  | setItem
  | forgetItem
  /-- Takes three bounds. -/
  | slice
  | pop
  | duplicate
  | duplicatePair
  /-- Puts the value on top below some others. -/
  | sink (depth : Nat)
  | unary (mark : UnaryMark)
  | binary (mark : Text)
  | update (mark : Text)
  | compare (mark : Text)
  /-- Goes on with a part in place of a value that holds, or that does not. -/
  | shortcut (holds : Bool) (part : List Instruction)
  /-- Goes on with a part behind a comparison that holds; the second value stays. -/
  | chained (mark : Text) (part : List Instruction)
  | branch (yes no : List Instruction)
  | tuple (size : Nat)
  | list (size : Nat)
  | set (size : Nat)
  /-- Adds a value to the list below it. -/
  | addItem
  | addItems
  | tupleOfList
  | setOfList
  | mapping
  | addEntry
  | addEntries
  | call (shapes : List ArgumentShape)
  /-- Makes a function; the stack holds its defaults and the mapping of its notes. -/
  | function (code : FunctionCode Instruction)
  /-- Begins a class; the stack holds its arguments. -/
  | beginClass (code : FunctionCode Instruction) (shapes : List ArgumentShape)
  | endClass (name : Text)
  | whileLoop (body : List Instruction)
  | forLoop (isAsync : Bool) (body other : List Instruction)
  /-- The next member of the stream on top, or the end of the loop. -/
  | advance (isAsync : Bool) (other : List Instruction)
  | leaveUnless (other : List Instruction)
  | breakLoop
  | continueLoop
  | giveBack
  | attempt (body handlers other : List Instruction)
  | finally (body final : List Instruction)
  /-- Whether the fault that is handled is of some kinds. -/
  | matchesFault
  | handledFault
  /-- Puts the fault that is handled above a list for what its handlers raise. -/
  | beginGroup
  /-- Takes kinds, and what is left of a fault: puts the part of these kinds above the rest. -/
  | splitGroup
  /-- Notes the fault on top as one that is raised while the part below it is handled. -/
  | noteRaised
  /-- Raises what is left of a fault and what its handlers raised. -/
  | endGroup
  | raiseAgain
  | raising (hasCause : Bool)
  /-- Enters a value: puts how to leave it and what entering gives in its place. -/
  | enter (isAsync : Bool)
  /-- Carries out a part inside of what was entered. -/
  | within (isAsync : Bool) (body : List Instruction)
  /-- Leaves what was entered: the stack holds how to leave it, below a fault if there is one. -/
  | leave (hasFault : Bool)
  | iterate (isAsync : Bool)
  | unpack (size : Nat)
  | unpackRest (before behind : Nat)
  /-- Hands out the value on top. -/
  | handOut
  /-- Hands out all that the stream below a value has, to which it gives the value, and goes on with
  what it gives back. -/
  | delegate (isWaiting : Bool)
  /-- Puts what has to be waited for in place of a value. -/
  | awaited
  | importModule (name : Text) (isWhole : Bool)
  | importFrom (name : Text)
  | importAll
  | relativeImport
  | shown (conversion : TextConversion) (hasFormat : Bool)
  | join (size : Nat)
  /-- Adds what a comprehension makes to the collection below some values. -/
  | collect (kind : CollectionKind) (depth : Nat)
  | matching (pattern : CodePattern)
  /-- Notes the kind of a name of the whole script or a class. -/
  | annotate (name : Text)
deriving Inhabited

/-- What waits for the value on top. -/
def Instruction.waiting : List Instruction := [.awaited, .constant .nothing, .delegate true]

/-- A function with what it carries out. -/
abbrev ScriptCode := FunctionCode Instruction

end EventForge
