import EventForge.Script.Builtin

/-!
# Names in frames

A frame reads and binds the names of its function, of the functions around it, of the class that it
makes and of the whole script.  A name that means nothing where it is read is a fault.
-/

namespace EventForge

namespace ScriptRun

/-- The object with names some functions further out. -/
def scopeAt (place : ObjectPlace) : Nat → ScriptRun ObjectPlace
  | 0 => return place
  | hops + 1 => do
      match ← objectAt place with
      | .scope _ (some outer) => scopeAt outer hops
      | _ => return place

/-- The value of a name of a function. -/
def scopedValue? (place : ObjectPlace) (name : Text) : ScriptRun (Option ScriptValue) := do
  match ← objectAt place with
  | .scope names _ => return names.get? name
  | _ => return none

/-- Refuses a name that means nothing. -/
def refuseName {Value : Type} (kind : String) (message name : Text) : ScriptRun Value := do
  raise (← newFault (.kind kind) [.text message] [("name", .text name)])

/-- The value of a name of the whole script. -/
def globalValue (globals : ObjectPlace) (name : Text) : ScriptRun ScriptValue := do
  match ← field? globals name with
  | some value => return value
  | none =>
      match known? name with
      | some value => return value
      | none =>
          refuseName "NameError" (("name " : Text) ++ Quoted.ofText name ++ " is not defined") name

/-- Refuses a name of a function that is not bound. -/
def refuseUnbound {Value : Type} (hops : Nat) (name : Text) : ScriptRun Value :=
  if hops = 0 then
    refuseName "UnboundLocalError" (("cannot access local variable " : Text) ++
      Quoted.ofText name ++ " where it is not associated with a value") name
  else
    refuseName "NameError" (("cannot access free variable " : Text) ++ Quoted.ofText name ++
      " where it is not associated with a value in enclosing scope") name

/-- The value of a name. -/
def readName (frame : ScriptFrame) (use : NameUse) : ScriptRun ScriptValue := do
  match use with
  | .scoped hops name =>
      match ← scopedValue? (← scopeAt frame.scope hops) name with
      | some value => return value
      | none => refuseUnbound hops name
  | .global name => globalValue frame.globals name
  | .ofClass name =>
      match ← (frame.names.map (field? · name)).getD (pure none) with
      | some value => return value
      | none => globalValue frame.globals name

/-- Binds a name. -/
def writeName (frame : ScriptFrame) (use : NameUse) (value : ScriptValue) : ScriptRun Unit := do
  match use with
  | .scoped hops name =>
      changeObject (← scopeAt frame.scope hops) fun object =>
        match object with
        | .scope names outer => .scope (names.insert name value) outer
        | other => other
  | .global name => setField frame.globals name value
  | .ofClass name => setField (frame.names.getD frame.globals) name value

/-- Forgets a name. -/
def forgetName (frame : ScriptFrame) (use : NameUse) : ScriptRun Unit := do
  let forgetField (place : ObjectPlace) (name : Text) : ScriptRun Unit := do
    if !(← removeField place name) then
      refuseName "NameError" (("name " : Text) ++ Quoted.ofText name ++ " is not defined") name
  match use with
  | .scoped hops name =>
      let place ← scopeAt frame.scope hops
      if (← scopedValue? place name).isNone then refuseUnbound hops name
      changeObject place fun object =>
        match object with
        | .scope names outer => .scope (names.filter fun field => field.1 ≠ name) outer
        | other => other
  | .global name => forgetField frame.globals name
  | .ofClass name => forgetField (frame.names.getD frame.globals) name

/-- The names that are bound where a frame is. -/
def namesHere (frame : ScriptFrame) : ScriptRun ScriptValue := do
  match frame.names with
  | some names => return .object names
  | none =>
      match ← objectAt frame.scope with
      | .scope names (some _) =>
          let shown := names.filter fun field => !field.1.startsWith "."
          newMapping (shown.map fun field => (ScriptValue.text field.1, field.2))
      | _ => return .object frame.globals

/-- The class around a function, if it is made inside one.  The fuel bounds how many functions are
inside each other. -/
def classAround? (place : ObjectPlace) : Nat → ScriptRun (Option ScriptValue)
  | 0 => return none
  | fuel + 1 => do
      match ← objectAt place with
      | .scope names outer =>
          match names.get? "__class__", outer with
          | some found, _ => return some found
          | none, some outer => classAround? outer fuel
          | none, none => return none
      | _ => return none

/-- The instance of a function with the classes behind the one that the function is made in. -/
def instanceAbove (frame : ScriptFrame) : ScriptRun ScriptValue := do
  match ← objectAt frame.scope with
  | .scope (first :: _) (some outer) =>
      match ← classAround? outer maxNesting with
      | some kind => keepValue (.above kind first.2)
      | none => refuse "RuntimeError" "super(): __class__ cell not found"
  | _ => refuse "RuntimeError" "super(): no arguments"

/-- Notes the kind of a name of a class or of the whole script. -/
def annotate (frame : ScriptFrame) (name : Text) (note : ScriptValue) : ScriptRun Unit := do
  let place := frame.names.getD frame.globals
  match ← field? place "__annotations__" with
  | some (.object notes) => setField notes name note
  | _ => setField place "__annotations__" (.object (← newFields [(name, note)]))

end ScriptRun

end EventForge
