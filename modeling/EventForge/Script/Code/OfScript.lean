import EventForge.Script.Code.NameScope

/-!
# The instructions of scripts

An expression becomes instructions that leave its value on the stack, and a statement becomes
instructions that leave the stack as it was.  The parts of an expression are carried out from left
to right.
-/

namespace EventForge

namespace ScriptValue

mutual

/-- The value of a constant. -/
def ofConstant : Document → ScriptValue
  | .null => .nothing
  | .bool value => .bool value
  | .integer value => .integer value
  | .float value => .float value
  | .text value => .text value
  | .bytes value => .bytes value
  | .tuple items => .tuple (ofConstants items)
  | _ => .unknown
termination_by structural value => value

def ofConstants : List Document → List ScriptValue
  | [] => []
  | first :: others => ofConstant first :: ofConstants others
termination_by structural values => values

end

end ScriptValue

namespace ScriptExpression

def isStarred : ScriptExpression → Bool
  | .starred _ => true
  | _ => false

mutual

/-- The text of a note, as far as notes need one: names, attributes, subscripts and constants. -/
def noteText : ScriptExpression → Text
  | .name written => written
  | .constant (.text value) => Quoted.ofText value
  | .constant value => value.display
  | .ellipsis => "..."
  | .attribute value written => noteText value ++ "." ++ written
  | .item value place => noteText value ++ "[" ++ noteText place ++ "]"
  | .tuple items => Text.join ", " (noteTexts items)
  | .list items => Text.bracketed (noteTexts items)
  | .binary mark first second => noteText first ++ " " ++ mark ++ " " ++ noteText second
  | _ => []
termination_by structural note => note

def noteTexts : List ScriptExpression → List Text
  | [] => []
  | first :: others => noteText first :: noteTexts others
termination_by structural notes => notes

end

end ScriptExpression

namespace Instruction

/-- A text in front of the statements of a function or class, which describes it. -/
def description? : List ScriptStatement → Option Text
  | .expression (.constant (.text content)) :: _ => some content
  | _ => none

/-- The parameters of a function, with names as they are inside it. -/
def parametersOf (scopes : NameScopes) (parameters : List ScriptParameter) : List CodeParameter :=
  parameters.map fun (shape, name, standard, _) =>
    { shape, name := scopes.ownName name, hasDefault := standard.isSome }

/-- The name for the members of the first source inside a comprehension. -/
def sourceName : Text := ".0"

/-- What unpacks a value for some targets. -/
def unpacking (targets : List ScriptExpression) : Instruction :=
  match targets.findIdx? ScriptExpression.isStarred with
  | some place => .unpackRest place (targets.length - place - 1)
  | none => .unpack targets.length

/-- What makes the collection of a comprehension before it has members. -/
def emptyCollection : CollectionKind → List Instruction
  | .list => [.list 0]
  | .set => [.set 0]
  | .mapping => [.mapping]
  | .stream => []

/-- A comprehension as a function of its first source. -/
def comprehensionCode (scopes : NameScopes) (kind : CollectionKind) (isAsync : Bool)
    (loops : List Instruction) : ScriptCode :=
  let name : Text :=
    match kind with
    | .list => "<listcomp>"
    | .set => "<setcomp>"
    | .mapping => "<dictcomp>"
    | .stream => "<genexpr>"
  { name, path := scopes.innermost.lead ++ name
    parameters := [{ shape := .plain, name := sourceName, hasDefault := false }]
    flavour :=
      match kind, isAsync with
      | .stream, false => .stream
      | .stream, true => .waitingStream
      | _, false => .plain
      | _, true => .waiting
    body := emptyCollection kind ++ loops ++ (if kind = .stream then [] else [.giveBack]) }

mutual

/-- Instructions that leave the value of an expression on the stack. -/
def ofExpression (scopes : NameScopes) : ScriptExpression → List Instruction
  | .constant value => [.constant (.ofConstant value)]
  | .imaginary _ => [.constant .unknown]
  | .ellipsis => [.constant .ellipsis]
  | .name name => [.read (scopes.use name)]
  | .tuple items =>
      if items.any ScriptExpression.isStarred then
        .list 0 :: ofMembers scopes items ++ [.tupleOfList]
      else ofExpressions scopes items ++ [.tuple items.length]
  | .list items =>
      if items.any ScriptExpression.isStarred then .list 0 :: ofMembers scopes items
      else ofExpressions scopes items ++ [.list items.length]
  | .set items =>
      if items.any ScriptExpression.isStarred then
        .list 0 :: ofMembers scopes items ++ [.setOfList]
      else ofExpressions scopes items ++ [.set items.length]
  | .mapping entries => .mapping :: ofEntries scopes entries
  | .starred value => ofExpression scopes value
  | .unary mark value => ofExpression scopes value ++ [.unary mark]
  | .binary mark first second =>
      ofExpression scopes first ++ ofExpression scopes second ++ [.binary mark]
  | .comparison first others => ofExpression scopes first ++ ofComparisons scopes others
  | .both first second =>
      ofExpression scopes first ++ [.shortcut true (ofExpression scopes second)]
  | .either first second =>
      ofExpression scopes first ++ [.shortcut false (ofExpression scopes second)]
  | .choice condition value other =>
      ofExpression scopes condition ++
        [.branch (ofExpression scopes value) (ofExpression scopes other)]
  | .call callee arguments =>
      ofExpression scopes callee ++ ofArguments scopes arguments ++
        [.call (arguments.map fun argument => argument.1)]
  | .attribute value name => ofExpression scopes value ++ [.attribute (scopes.ownName name)]
  | .item value index => ofExpression scopes value ++ ofExpression scopes index ++ [.item]
  | .slice bounds => ofBounds scopes bounds ++ [.slice]
  | .function parameters body =>
      let marks := NameMark.ofExpression body
      let names := parameters.map fun parameter => parameter.2.1
      let inner := scopes.inner .function "<lambda>" names marks :: scopes
      ofDefaults scopes parameters ++ [.constant .nothing, .function
        { name := "<lambda>", path := scopes.innermost.lead ++ "<lambda>"
          parameters := parametersOf inner parameters
          flavour := NameScopes.flavour false marks
          body := ofExpression inner body ++ [.giveBack] }]
  | .comprehension kind element value sources =>
      let marks := NameMark.ofExpression element ++ NameMark.ofOption value ++
        NameMark.ofSources sources
      let targets := NameMark.ofTargets (sources.map fun source => source.2.1)
      let isAsync := NameScopes.stopsFor [.wait] marks
      let inner := scopes.inner .comprehension "<comprehension>" [sourceName] targets :: scopes
      let collecting :=
        ofExpression inner element ++ ofOption inner value ++
          (if kind = .stream then [.handOut, .pop] else [.collect kind sources.length])
      let firstAsync := (sources.head?.map fun source => source.1).getD false
      .constant .nothing ::
        .function (comprehensionCode scopes kind isAsync (ofSources inner true sources collecting))
        :: ofFirstSource scopes sources ++ [.iterate firstAsync, .call [.plain]] ++
          (if isAsync && kind ≠ .stream then waiting else [])
  | .binding name value =>
      ofExpression scopes value ++ [.duplicate, .write (scopes.bindingUse name)]
  | .formatted pieces => ofExpressions scopes pieces ++ [.join pieces.length]
  | .shown value conversion format =>
      ofExpression scopes value ++ ofOption scopes format ++ [.shown conversion format.isSome]
  | .suspended suspension value =>
      let given := if value.isSome then ofOption scopes value else [.constant .nothing]
      given ++
        match suspension with
        | .handOut => [.handOut]
        | .handOutAll => [.iterate false, .constant .nothing, .delegate false]
        | .wait => waiting
termination_by structural expression => expression

def ofExpressions (scopes : NameScopes) : List ScriptExpression → List Instruction
  | [] => []
  | first :: others => ofExpression scopes first ++ ofExpressions scopes others
termination_by structural items => items

/-- The value of an expression, if there is one. -/
def ofOption (scopes : NameScopes) : Option ScriptExpression → List Instruction
  | none => []
  | some value => ofExpression scopes value
termination_by structural value => value

/-- The bounds of a slice; one that is left out is nothing. -/
def ofBounds (scopes : NameScopes) : List (Option ScriptExpression) → List Instruction
  | [] => []
  | none :: others => .constant .nothing :: ofBounds scopes others
  | some value :: others => ofExpression scopes value ++ ofBounds scopes others
termination_by structural bounds => bounds

/-- Adds members to a list one after the other. -/
def ofMembers (scopes : NameScopes) : List ScriptExpression → List Instruction
  | [] => []
  | .starred value :: others =>
      ofExpression scopes value ++ .addItems :: ofMembers scopes others
  | first :: others => ofExpression scopes first ++ .addItem :: ofMembers scopes others
termination_by structural items => items

def ofEntries (scopes : NameScopes) :
    List (Option ScriptExpression × ScriptExpression) → List Instruction
  | [] => []
  | (none, value) :: others =>
      ofExpression scopes value ++ .addEntries :: ofEntries scopes others
  | (some key, value) :: others =>
      ofExpression scopes key ++ ofExpression scopes value ++ .addEntry :: ofEntries scopes others
termination_by structural entries => entries

/-- The comparisons of the value on top with those behind it. -/
def ofComparisons (scopes : NameScopes) : List (Text × ScriptExpression) → List Instruction
  | [] => []
  | [(mark, value)] => ofExpression scopes value ++ [.compare mark]
  | (mark, value) :: others =>
      ofExpression scopes value ++ [.chained mark (ofComparisons scopes others)]
termination_by structural comparisons => comparisons

def ofArguments (scopes : NameScopes) : List (ArgumentShape × ScriptExpression) → List Instruction
  | [] => []
  | (_, value) :: others => ofExpression scopes value ++ ofArguments scopes others
termination_by structural arguments => arguments

/-- The defaults of parameters: those of plain parameters in front of the others. -/
def ofDefaults (scopes : NameScopes) :
    List (ParameterShape × Text × Option ScriptExpression × Option ScriptExpression) →
    List Instruction
  | [] => []
  | (_, _, standard, _) :: others => ofOption scopes standard ++ ofDefaults scopes others
termination_by structural parameters => parameters

/-- The source of a comprehension that is looked at outside of it. -/
def ofFirstSource (scopes : NameScopes) :
    List (Bool × ScriptExpression × ScriptExpression × List ScriptExpression) → List Instruction
  | [] => []
  | (_, _, source, _) :: _ => ofExpression scopes source
termination_by structural sources => sources

/-- Loops over sources, one inside the other, around some instructions. -/
def ofSources (scopes : NameScopes) (isFirst : Bool) :
    List (Bool × ScriptExpression × ScriptExpression × List ScriptExpression) →
    List Instruction → List Instruction
  | [], inner => inner
  | (isAsync, target, source, conditions) :: others, inner =>
      let members :=
        if isFirst then [.read (scopes.use sourceName)] else ofExpression scopes source
      let body := ofTarget scopes target ++
        ofConditions scopes conditions (ofSources scopes false others inner)
      members ++ [.iterate isAsync, .forLoop isAsync body []]
termination_by structural sources => sources

/-- Instructions that are only carried out where some conditions hold. -/
def ofConditions (scopes : NameScopes) :
    List ScriptExpression → List Instruction → List Instruction
  | [], inner => inner
  | first :: others, inner =>
      ofExpression scopes first ++ [.branch (ofConditions scopes others inner) []]
termination_by structural conditions => conditions

/-- Assigns the value on top to a target. -/
def ofTarget (scopes : NameScopes) : ScriptExpression → List Instruction
  | .name name => [.write (scopes.use name)]
  | .attribute owner name =>
      ofExpression scopes owner ++ [.setAttribute (scopes.ownName name)]
  | .item owner index => ofExpression scopes owner ++ ofExpression scopes index ++ [.setItem]
  | .tuple items | .list items => unpacking items :: ofTargets scopes items
  | .starred value => ofTarget scopes value
  | _ => [.pop]
termination_by structural target => target

def ofTargets (scopes : NameScopes) : List ScriptExpression → List Instruction
  | [] => []
  | first :: others => ofTarget scopes first ++ ofTargets scopes others
termination_by structural targets => targets

end

/-- The notes on parameters and on what a function gives back, in a mapping. -/
def ofNotes (scopes : NameScopes) (parameters : List ScriptParameter)
    (note : Option ScriptExpression) : List Instruction :=
  let noted (name : Text) (note : ScriptExpression) : List Instruction :=
    .constant (.text name) ::
      (if scopes.innermost.keepsNotes then [.constant (.text note.noteText)]
        else ofExpression scopes note) ++ [.addEntry]
  .mapping ::
    (parameters.flatMap fun (_, name, _, note) => (note.map (noted name)).getD []) ++
    (note.map (noted "return")).getD []

mutual

/-- Removes what targets name. -/
def ofRemoval (scopes : NameScopes) : ScriptExpression → List Instruction
  | .name name => [.forget (scopes.use name)]
  | .attribute owner name =>
      ofExpression scopes owner ++ [.forgetAttribute (scopes.ownName name)]
  | .item owner index => ofExpression scopes owner ++ ofExpression scopes index ++ [.forgetItem]
  | .tuple items | .list items => ofRemovals scopes items
  | _ => []
termination_by structural target => target

def ofRemovals (scopes : NameScopes) : List ScriptExpression → List Instruction
  | [] => []
  | first :: others => ofRemoval scopes first ++ ofRemovals scopes others
termination_by structural targets => targets

end

/-- Updates a target with a value. -/
def ofUpdate (scopes : NameScopes) (target : ScriptExpression) (mark : Text)
    (value : List Instruction) : List Instruction :=
  match target with
  | .attribute owner name =>
      let name := scopes.ownName name
      ofExpression scopes owner ++ [.duplicate, .attribute name] ++ value ++
        [.update mark, .sink 1, .setAttribute name]
  | .item owner index =>
      ofExpression scopes owner ++ ofExpression scopes index ++ [.duplicatePair, .item] ++
        value ++ [.update mark, .sink 2, .setItem]
  | target => ofExpression scopes target ++ value ++ .update mark :: ofTarget scopes target

/-- The value that a pattern compares with: a constant or a dotted name. -/
def patternValue (scopes : NameScopes) : ScriptExpression → PatternValue
  | .name name => .path (scopes.use name) []
  | .attribute value name =>
      match patternValue scopes value with
      | .path use attributes => .path use (attributes ++ [name])
      | other => other
  | .constant value => .constant (.ofConstant value)
  | .unary .minus (.constant (.integer value)) => .constant (.integer (-value))
  | .unary .minus (.constant (.float value)) => .constant (.float (-value))
  | _ => .constant .unknown

mutual

def ofPattern (scopes : NameScopes) : ScriptPattern → CodePattern
  | .wildcard => .wildcard
  | .capture name => .capture (scopes.use name)
  | .equal value => .equal (patternValue scopes value)
  | .same value => .same (.ofConstant value)
  | .sequence items => .sequence (ofPatterns scopes items)
  | .rest name => .rest (name.map scopes.use)
  | .mapping entries further =>
      .mapping (ofEntryPatterns scopes entries) (further.map scopes.use)
  | .instanceOf kind items fields =>
      .instanceOf (patternValue scopes kind) (ofPatterns scopes items)
        (ofFieldPatterns scopes fields)
  | .either options => .either (ofPatterns scopes options)
  | .named pattern name => .named (ofPattern scopes pattern) (scopes.use name)
termination_by structural pattern => pattern

def ofPatterns (scopes : NameScopes) : List ScriptPattern → List CodePattern
  | [] => []
  | first :: others => ofPattern scopes first :: ofPatterns scopes others
termination_by structural patterns => patterns

def ofEntryPatterns (scopes : NameScopes) :
    List (ScriptExpression × ScriptPattern) → List (PatternValue × CodePattern)
  | [] => []
  | (key, pattern) :: others =>
      (patternValue scopes key, ofPattern scopes pattern) :: ofEntryPatterns scopes others
termination_by structural entries => entries

def ofFieldPatterns (scopes : NameScopes) :
    List (Text × ScriptPattern) → List (Text × CodePattern)
  | [] => []
  | (name, pattern) :: others =>
      (name, ofPattern scopes pattern) :: ofFieldPatterns scopes others
termination_by structural fields => fields

end

/-- Calls decorators, which stand on the stack below a value, with it. -/
def decorating (decorators : List ScriptExpression) : List Instruction :=
  List.replicate decorators.length (.call [.plain])

/-- Binds the module that an import finds. -/
def ofImport (scopes : NameScopes) (name : ImportedName) : List Instruction :=
  [.importModule name.1 name.2.isSome, .write (scopes.use (NameMark.importedName name))]

/-- Binds names of a module. -/
def ofImportFrom (scopes : NameScopes) (dots : Nat) (module : Text)
    (names : Option (List ImportedName)) : List Instruction :=
  if 0 < dots then [.relativeImport]
  else
    .importModule module true ::
      match names with
      | none => [.importAll]
      | some names =>
          (names.flatMap fun name =>
            [.duplicate, .importFrom name.1, .write (scopes.use (name.2.getD name.1))]) ++ [.pop]

/-- Notes the kind of a target. -/
def ofNote (scopes : NameScopes) (target note : ScriptExpression) : List Instruction :=
  let scope := scopes.innermost
  let isNoted := scope.kind = .whole || scope.kind = .classBody
  if !isNoted then []
  else
    let value :=
      if scope.keepsNotes then [.constant (.text note.noteText)] else ofExpression scopes note
    match target with
    | .name name => value ++ [.annotate (scopes.ownName name)]
    | _ => if scope.keepsNotes then [] else value ++ [.pop]

/-- Enters values one after the other around some instructions. -/
def ofItems (scopes : NameScopes) (isAsync : Bool) (inner : List Instruction) :
    List (ScriptExpression × Option ScriptExpression) → List Instruction
  | [] => inner
  | (value, target) :: others =>
      let bound :=
        match target with
        | some target => ofTarget scopes target
        | none => [.pop]
      ofExpression scopes value ++ .enter isAsync :: (if isAsync then waiting else []) ++
        [.within isAsync (bound ++ ofItems scopes isAsync inner others)]

mutual

/-- Instructions for a statement. -/
def ofStatement (scopes : NameScopes) : ScriptStatement → List Instruction
  | .expression value => ofExpression scopes value ++ [.pop]
  | .assignment targets value =>
      ofExpression scopes value ++
        (targets.dropLast.flatMap fun target => .duplicate :: ofTarget scopes target) ++
        ((targets.getLast?.map (ofTarget scopes)).getD [.pop])
  | .update target mark value => ofUpdate scopes target mark (ofExpression scopes value)
  | .typed target note value =>
      (match value with
        | some value => ofExpression scopes value ++ ofTarget scopes target
        | none => []) ++ ofNote scopes target note
  | .removal targets => ofRemovals scopes targets
  | .pass | .globalNames _ | .outerNames _ => []
  | .breakLoop => [.breakLoop]
  | .continueLoop => [.continueLoop]
  | .giveBack value => ofOption scopes (some (value.getD (.constant .null))) ++ [.giveBack]
  | .raising none _ => [.raiseAgain]
  | .raising (some value) cause =>
      ofExpression scopes value ++ ofOption scopes cause ++ [.raising cause.isSome]
  | .importModules names => names.flatMap (ofImport scopes)
  | .importNames dots module names => ofImportFrom scopes dots module names
  | .assertion condition message =>
      let told :=
        match message with
        | some message => ofExpression scopes message ++ [.call [.plain]]
        | none => []
      ofExpression scopes condition ++
        [.branch [] (.constant (.kind "AssertionError") :: told ++ [.raising false])]
  | .condition test body other =>
      ofExpression scopes test ++ [.branch (ofStatements scopes body) (ofStatements scopes other)]
  | .whileLoop test body other =>
      [.whileLoop (ofExpression scopes test ++ .leaveUnless (ofStatements scopes other) ::
        ofStatements scopes body)]
  | .forLoop isAsync target source body other =>
      ofExpression scopes source ++ [.iterate isAsync, .forLoop isAsync
        (ofTarget scopes target ++ ofStatements scopes body) (ofStatements scopes other)]
  | .attempt isGrouped body handlers other final =>
      let body := ofStatements scopes body
      let handling :=
        if isGrouped then .beginGroup :: ofGroupHandlers scopes handlers
        else ofHandlers scopes handlers
      let attempted :=
        if handlers.isEmpty then body else [.attempt body handling (ofStatements scopes other)]
      match ofStatements scopes final with
      | [] => attempted
      | final => [.finally attempted final]
  | .within isAsync items body => ofItems scopes isAsync (ofStatements scopes body) items
  | .choose subject cases => ofExpression scopes subject ++ ofCases scopes cases
  | .function isAsync name parameters note body decorators =>
      let marks := NameMark.ofStatements body
      let names := parameters.map fun parameter => parameter.2.1
      let own := scopes.ownName name
      let inner := scopes.inner .function own names marks :: scopes
      ofExpressions scopes decorators ++ ofDefaults scopes parameters ++
        ofNotes scopes parameters note ++ .function
          { name, path := scopes.innermost.lead ++ name
            parameters := parametersOf inner parameters
            flavour := NameScopes.flavour isAsync marks
            description := description? body
            body := ofStatements inner body } ::
        decorating decorators ++ [.write (scopes.use name)]
  | .classOf name arguments body decorators =>
      let inner := scopes.innerClass name (NameMark.ofStatements body) :: scopes
      let described :=
        ((description? body).map fun content =>
          [.constant (.text content), .write (.ofClass "__doc__")]).getD []
      ofExpressions scopes decorators ++ ofArguments scopes arguments ++
        [.beginClass
          { name, path := scopes.innermost.lead ++ name
            body := described ++ ofStatements inner body }
          (arguments.map fun argument => argument.1), .endClass name] ++
        decorating decorators ++ [.write (scopes.use name)]
termination_by structural statement => statement

def ofStatements (scopes : NameScopes) : List ScriptStatement → List Instruction
  | [] => []
  | first :: others => ofStatement scopes first ++ ofStatements scopes others
termination_by structural statements => statements

/-- The handlers of a fault, of which the first one for it takes it. -/
def ofHandlers (scopes : NameScopes) :
    List (Option ScriptExpression × Option Text × List ScriptStatement) → List Instruction
  | [] => [.raiseAgain]
  | (kinds, name, body) :: others =>
      let body := ofStatements scopes body
      let bound :=
        match name with
        | none => body
        | some name =>
            let use := scopes.use name
            [.handledFault, .write use,
              .finally body [.constant .nothing, .write use, .forget use]]
      match kinds with
      | none => bound
      | some kinds =>
          ofExpression scopes kinds ++ [.matchesFault, .branch bound (ofHandlers scopes others)]
termination_by structural handlers => handlers

/-- The handlers of parts of a group of faults, of which each takes its part. -/
def ofGroupHandlers (scopes : NameScopes) :
    List (Option ScriptExpression × Option Text × List ScriptStatement) → List Instruction
  | [] => [.endGroup]
  | (kinds, name, body) :: others =>
      let body := ofStatements scopes body
      let bound :=
        match name with
        | none => body
        | some name =>
            let use := scopes.use name
            [.handledFault, .write use,
              .finally body [.constant .nothing, .write use, .forget use]]
      let handled := [.attempt [.attempt [.duplicate, .raising false] bound []]
        [.handledFault, .noteRaised] [], .pop]
      let taken :=
        match kinds with
        | none => [.pop]
        | some kinds =>
            ofExpression scopes kinds ++ [.splitGroup, .duplicate, .constant .nothing,
              .compare "is not", .branch handled [.pop]]
      taken ++ ofGroupHandlers scopes others
termination_by structural handlers => handlers

/-- The cases for the value on top. -/
def ofCases (scopes : NameScopes) :
    List (ScriptPattern × Option ScriptExpression × List ScriptStatement) → List Instruction
  | [] => [.pop]
  | (pattern, guard, body) :: others =>
      let guarded :=
        match guard with
        | some guard => [.shortcut true (ofExpression scopes guard)]
        | none => []
      .matching (ofPattern scopes pattern) :: guarded ++
        [.branch (.pop :: ofStatements scopes body) (ofCases scopes others)]
termination_by structural cases => cases

end

end Instruction

namespace ScriptCode

/-- Whether a script keeps its notes as they are written. -/
def keepsNotes (statements : List ScriptStatement) : Bool :=
  statements.any fun statement =>
    match statement with
    | .importNames 0 module (some names) =>
        module = ("__future__" : Text) && names.any fun name => name.1 = ("annotations" : Text)
    | _ => false

/-- The instructions of a whole script. -/
def ofScript (statements : List ScriptStatement) : ScriptCode :=
  { name := "<module>", path := "<module>", description := Instruction.description? statements
    body := Instruction.ofStatements [{ keepsNotes := keepsNotes statements }] statements }

end ScriptCode

end EventForge
