import EventForge.Proofs.Module.RoundTrip
import EventForge.Proofs.Script.OutlineText
import EventForge.Script.Reading.Statement

/-!
# The outline of a module

The lines of a class whose names are plain lead the outline of a module from one class to the next.
A name with a line feed behind it makes a line of its own out of what follows the name.  In the remark
of a field this line is indented by one blank, and in a class it closes the block of the class early.
Both break the tokens of the module.
-/

namespace EventForge.ModuleText

open ScriptToken ScriptToken.Outline

/-- The text of lines, each with a line feed behind it. -/
def textOf (lines : List Text) : Text := lines.flatMap fun line => line ++ [CodePoint.ofChar '\n']

theorem textOf_append (first second : List Text) :
    textOf (first ++ second) = textOf first ++ textOf second :=
  List.flatMap_append

theorem write_eq (module : EventModule) : write module = textOf (lines module) := by
  have joined : ∀ pieces : List Text, pieces ≠ [] →
      Text.join "\n" pieces ++ ("\n" : Text) = textOf pieces := by
    intro pieces inhabited
    induction pieces with
    | nil => exact absurd rfl inhabited
    | cons piece pieces ih =>
        cases pieces with
        | nil => simp [textOf, Text.ofString]
        | cons next pieces =>
            rw [Text.join_cons_cons, List.append_assoc, List.append_assoc, ih (by simp)]
            simp [textOf, Text.ofString]
  exact joined _ (lines_ne_nil module)

/-- The outline at the beginning of a line. -/
def atLine (brackets : List CodePoint) (blocks : List Nat) : Outline :=
  { mode := .opening 0, brackets, blocks }

/-- The outline between two tokens. -/
def amid (brackets : List CodePoint) (blocks : List Nat) : Outline :=
  { mode := .inside, brackets, blocks }

/-- Whether lines lead an outline to another one. -/
def Leads (outline : Outline) (lines : List Text) (next : Outline) : Prop :=
  outline.run (textOf lines) = some next

theorem Leads.nil (outline : Outline) : Leads outline [] outline := rfl

theorem Leads.append {outline middle next : Outline} {first second : List Text}
    (front : Leads outline first middle) (back : Leads middle second next) :
    Leads outline (first ++ second) next := by
  rw [Leads, textOf_append, run_append_of_eq front]
  exact back

theorem Leads.cons {outline middle next : Outline} {line : Text} {lines : List Text}
    (front : outline.run (line ++ [CodePoint.ofChar '\n']) = some middle)
    (back : Leads middle lines next) : Leads outline (line :: lines) next := by
  have shape : textOf (line :: lines) = (line ++ [CodePoint.ofChar '\n']) ++ textOf lines :=
    List.flatMap_cons
  rw [Leads, shape, run_append_of_eq front]
  exact back

theorem Leads.line {outline next : Outline} {line : Text}
    (found : outline.run (line ++ [CodePoint.ofChar '\n']) = some next) :
    Leads outline [line] next :=
  Leads.cons found (Leads.nil next)

/-- A written line, and the lines behind it. -/
theorem Leads.string {outline next : Outline} {chars : List Char} {lines : List Text}
    (middle : Outline)
    (found : outline.run ((chars ++ ['\n']).map CodePoint.ofChar) = some middle)
    (back : Leads middle lines next) :
    Leads outline (Text.ofString (String.ofList chars) :: lines) next := by
  refine Leads.cons ?_ back
  rw [Text.ofString_ofList, ← found, List.map_append]
  rfl

/-- Whether the tokens of lines are broken. -/
def Breaks (outline : Outline) (lines : List Text) : Prop :=
  ∃ next : Outline, next.mode = .broken ∧ Leads outline lines next

theorem Breaks.append {outline : Outline} {first : List Text} (breaks : Breaks outline first)
    (second : List Text) : Breaks outline (first ++ second) := by
  obtain ⟨next, broken, found⟩ := breaks
  refine ⟨next, broken, found.append ?_⟩
  obtain ⟨mode, brackets, blocks⟩ := next
  obtain rfl : mode = .broken := broken
  exact run_broken { mode := .broken, brackets, blocks } _

theorem Leads.breaks {outline middle : Outline} {first second : List Text}
    (front : Leads outline first middle) (back : Breaks middle second) :
    Breaks outline (first ++ second) := by
  obtain ⟨next, broken, found⟩ := back
  exact ⟨next, broken, front.append found⟩

theorem run_string {outline next : Outline} {chars : List Char}
    (found : outline.run (chars.map CodePoint.ofChar) = some next) :
    outline.run (Text.ofString (String.ofList chars)) = some next := by
  rwa [Text.ofString_ofList]

section Lines

variable {brackets : List CodePoint} {blocks : List Nat} {outline : Outline}

/-- A line that ends with a literal. -/
theorem line_literal {lead : Text} (begins : outline.run lead = some (amid brackets blocks))
    (text : Text) :
    outline.run (lead ++ Literal.ofText text ++ [CodePoint.ofChar '\n']) =
      some (atLine brackets blocks) := by
  have closed : (amid brackets blocks).run (Literal.ofText text ++ [CodePoint.ofChar '\n']) =
      (amid brackets blocks).between '\n' := run_literal text '\n' rfl (by decide)
  rw [List.append_assoc, run_append_of_eq begins, closed]
  rfl

/-- A line that ends with a tuple. -/
theorem line_tuple {lead : Text} (begins : outline.run lead = some (amid brackets blocks))
    (items : List Text) (each : ∀ item ∈ items, IsItem item) :
    outline.run (lead ++ tuple items ++ [CodePoint.ofChar '\n']) =
      some (atLine brackets blocks) := by
  have closed : (amid brackets blocks).run (tuple items) = some (amid brackets blocks) :=
    run_tuple (amid brackets blocks) items each
  rw [List.append_assoc, run_append_of_eq begins, run_append_of_eq closed]
  rfl

/-- A line with a plain name between two parts. -/
theorem line_name {lead tail name : Text} {next last : Outline}
    (plain : Identifier.isPlain name = true)
    (begins : outline.run lead = some last)
    (goesOn : ∀ point, Identifier.isFirst point = true → last.step point = next.between point)
    (ends : (next.within .word).run tail = some (atLine brackets blocks)) :
    outline.run (lead ++ name ++ tail) = some (atLine brackets blocks) := by
  rw [List.append_assoc, run_append_of_eq begins, run_append_of_eq (run_name plain goesOn), ends]

end Lines

section Constants

variable (eventClass : EventClass)

/-- The constants of a class, whatever they are, stay in its block. -/
theorem leads_constants : Leads (atLine [] [4, 0]) (constantLines eventClass) (atLine [] [4, 0]) := by
  have literals : ∀ texts : List Text, ∀ item ∈ texts.map Literal.ofText, IsItem item := by
    intro texts item member
    obtain ⟨text, -, rfl⟩ := List.mem_map.mp member
    exact isItem_literal text
  have pairs : ∀ item ∈ eventClass.columnDefinitions.map pairText, IsItem item := by
    intro item member
    obtain ⟨pair, -, rfl⟩ := List.mem_map.mp member
    exact isItem_pair pair
  have numbers : ∀ item ∈ eventClass.widths.map Text.ofNat, IsItem item := by
    intro item member
    obtain ⟨number, -, rfl⟩ := List.mem_map.mp member
    exact isItem_ofNat number
  refine .cons (line_literal (run_string rfl) eventClass.table) <|
    .cons (line_literal (run_string rfl) eventClass.timeColumn) <|
    .cons (line_tuple (run_string rfl) _ (literals eventClass.columns)) <|
    .cons (line_tuple (run_string rfl) _ pairs) <|
    .cons (line_tuple (run_string rfl) _ numbers) <|
    .cons (line_literal (run_string rfl) eventClass.insertStatement) <|
    .cons (line_literal (run_string rfl) eventClass.selectStatement) <| .nil _

end Constants

section Attributes

/-- The remark and the declaration of each attribute, as lines of a class. -/
def attributePair (found : Attribute) : List Text :=
  [("    # " : Text) ++ found.comment, ("    " : Text) ++ found.name ++ ": int = 0"]

/-- A remark of one line is passed. -/
theorem line_remark (blocks : List Nat) (comment : Text) (whole : CodePoint.ofChar '\n' ∉ comment) :
    (atLine [] blocks).run (("    # " : Text) ++ comment ++ [CodePoint.ofChar '\n']) =
      some (atLine [] blocks) := by
  have begins : (atLine [] blocks).run ("    # " : Text) =
      some ((atLine [] blocks).within .remark) := run_string rfl
  have stays : ((atLine [] blocks).within .remark).run comment =
      some ((atLine [] blocks).within .remark) := by
    apply run_of_stays
    intro point member
    refine if_neg fun feed => whole ?_
    rwa [← show point = CodePoint.ofChar '\n' from Fin.ext feed]
  rw [List.append_assoc, run_append_of_eq begins, run_append_of_eq stays]
  rfl

/-- Behind four blanks in the block of a class a name is declared. -/
theorem goesOn_declaration (point : CodePoint) (first : Identifier.isFirst point = true) :
    ((atLine [] [4, 0]).within (.opening 4)).step point = (amid [] [4, 0]).between point := by
  rw [step_opening_of_isFirst _ _ point first]
  rfl

/-- Between brackets a name goes on behind blanks. -/
theorem goesOn_bracketed (columns : Nat) (opener : CodePoint) (brackets : List CodePoint)
    (blocks : List Nat) (point : CodePoint) (first : Identifier.isFirst point = true) :
    ((atLine (opener :: brackets) blocks).within (.opening columns)).step point =
      (amid (opener :: brackets) blocks).between point := by
  rw [step_opening_of_isFirst _ _ point first]
  rfl

theorem leads_attributes (attributes : List Attribute)
    (plain : ∀ found ∈ attributes, Identifier.isPlain found.name = true)
    (whole : ∀ found ∈ attributes, CodePoint.ofChar '\n' ∉ found.comment) :
    Leads (atLine [] [4, 0]) (attributes.flatMap attributePair) (atLine [] [4, 0]) := by
  induction attributes with
  | nil => exact .nil _
  | cons found attributes ih =>
      have others := ih (fun other member => plain other (by simp [member]))
        (fun other member => whole other (by simp [member]))
      have declared : (atLine [] [4, 0]).run
          (("    " : Text) ++ found.name ++ ": int = 0" ++ [CodePoint.ofChar '\n']) =
          some (atLine [] [4, 0]) := by
        rw [List.append_assoc]
        exact line_name (plain found (by simp)) (run_string rfl) goesOn_declaration
          (by rw [Text.ofString_ofList]; rfl)
      rw [List.flatMap_cons]
      exact .append (.cons (line_remark _ _ (whole found (by simp))) (.line declared)) others

/-- What follows a line feed in a remark breaks the tokens. -/
theorem breaks_remark (found : Attribute) (front back : Text)
    (whole : CodePoint.ofChar '\n' ∉ front)
    (broken : found.comment = front ++ CodePoint.ofChar '\n' :: (" w" : Text) ++ back) :
    Breaks (atLine [] [4, 0]) (attributePair found) := by
  have passed := line_remark [4, 0] front whole
  have shape : textOf (attributePair found) =
      (("    # " : Text) ++ front ++ [CodePoint.ofChar '\n']) ++ ((" w" : Text) ++
        (back ++ (CodePoint.ofChar '\n' ::
          (("    " : Text) ++ found.name ++ ": int = 0" ++ [CodePoint.ofChar '\n'])))) := by
    simp [textOf, attributePair, broken]
  have breaks : (atLine [] [4, 0]).run (" w" : Text) =
      some ((amid [] [4, 0]).within .broken) := run_string rfl
  refine ⟨(amid [] [4, 0]).within .broken, rfl, ?_⟩
  rw [Leads, shape, run_append_of_eq passed, run_append_of_eq breaks]
  exact run_broken _ _

end Attributes

section Class

variable (eventClass : EventClass)

/-- The description of a class stays in its line, whatever its label is. -/
theorem line_description (name rest : Text) (plain : Identifier.isPlain name = true)
    (table : eventClass.table = name ++ rest)
    (label : ∀ point ∈ eventClass.label,
      point ≠ CodePoint.ofChar '"' ∧ point ≠ CodePoint.ofChar '\\') :
    (atLine [] [0]).run (("    \"\"\"Event type " : Text) ++ Literal.ofText eventClass.table ++
      labelPart eventClass.label ++ ".\"\"\"" ++ [CodePoint.ofChar '\n']) =
        some (atLine [] [4, 0]) := by
  have begins : (atLine [] [0]).run ("    \"\"\"Event type " : Text) =
      some ((amid [] [4, 0]).within .long) := run_string rfl
  have described : ∀ point : CodePoint, point ≠ CodePoint.ofChar '"' →
      point ≠ CodePoint.ofChar '\\' →
      ((amid [] [4, 0]).within .long).run (Literal.ofText eventClass.table ++ [point]) =
        some ((amid [] [4, 0]).within .long) := by
    intro point noQuote noSlash
    rw [table]
    exact run_long_literal _ name rest point plain noQuote noSlash
  have ends : ((amid [] [4, 0]).within .long).run
      (("\"\"\"" : Text) ++ [CodePoint.ofChar '\n']) = some (atLine [] [4, 0]) := by
    rw [Text.ofString_ofList]
    rfl
  cases empty : eventClass.label.isEmpty with
  | true =>
      have shape : ("    \"\"\"Event type " : Text) ++ Literal.ofText eventClass.table ++
          labelPart eventClass.label ++ ".\"\"\"" ++ [CodePoint.ofChar '\n'] =
          ("    \"\"\"Event type " : Text) ++
            ((Literal.ofText eventClass.table ++ [CodePoint.ofChar '.']) ++
              (("\"\"\"" : Text) ++ [CodePoint.ofChar '\n'])) := by
        simp [labelPart, empty, Text.ofString]
      rw [shape, run_append_of_eq begins,
        run_append_of_eq (described '.' (by decide) (by decide)), ends]
  | false =>
      have shape : ("    \"\"\"Event type " : Text) ++ Literal.ofText eventClass.table ++
          labelPart eventClass.label ++ ".\"\"\"" ++ [CodePoint.ofChar '\n'] =
          ("    \"\"\"Event type " : Text) ++
            ((Literal.ofText eventClass.table ++ [CodePoint.ofChar ' ']) ++
              (("(" : Text) ++ eventClass.label ++ (")." : Text) ++
                (("\"\"\"" : Text) ++ [CodePoint.ofChar '\n']))) := by
        simp [labelPart, empty, Text.ofString]
      have bare : ((amid [] [4, 0]).within .long).run
          (("(" : Text) ++ eventClass.label ++ (")." : Text)) =
          some ((amid [] [4, 0]).within .long) := by
        apply run_long
        intro point member
        rw [List.mem_append, List.mem_append, Text.ofString_ofList, Text.ofString_ofList] at member
        rcases member with (opening | own) | closing
        · rw [List.mem_singleton.mp opening]
          decide
        · exact label point own
        · simp only [List.map_cons, List.map_nil, List.mem_cons, List.not_mem_nil, or_false]
            at closing
          rcases closing with rfl | rfl <;> decide
      rw [shape, run_append_of_eq begins,
        run_append_of_eq (described ' ' (by decide) (by decide)), run_append_of_eq bare, ends]

theorem leads_opening (name rest : Text) (plain : Identifier.isPlain name = true)
    (table : eventClass.table = name ++ rest)
    (label : ∀ point ∈ eventClass.label,
      point ≠ CodePoint.ofChar '"' ∧ point ≠ CodePoint.ofChar '\\')
    (named : (atLine [] [0]).run (("class " : Text) ++ eventClass.name ++ "(Event):" ++
      [CodePoint.ofChar '\n']) = some (atLine [] [0])) :
    Leads (atLine [] [0]) (openingOf eventClass) (atLine [] [4, 0]) :=
  .cons named (.cons (line_description eventClass name rest plain table label) (.line rfl))

theorem line_class (plain : Identifier.isPlain eventClass.name = true) :
    (atLine [] [0]).run (("class " : Text) ++ eventClass.name ++ "(Event):" ++
      [CodePoint.ofChar '\n']) = some (atLine [] [0]) := by
  have begins : (atLine [] [0]).run ("class " : Text) = some (amid [] [0]) := run_string rfl
  rw [List.append_assoc]
  exact line_name plain begins (fun _ _ => rfl) (by rw [Text.ofString_ofList]; rfl)

/-- What a class name is made of if its event has a name with a line feed behind it. -/
def IsBrokenName (name : Text) : Prop :=
  ∃ front, (front = [] ∨ Identifier.isPlain front = true) ∧
    name = front ++ CodePoint.ofChar '\n' :: ("Event" : Text)

/-- A broken class name ends its line. -/
theorem run_brokenName (front rest : Text) (plain : front = [] ∨ Identifier.isPlain front = true)
    (blocks : List Nat) :
    (amid [] blocks).run (front ++ CodePoint.ofChar '\n' :: rest) = (atLine [] blocks).run rest := by
  rcases plain with rfl | plain
  · rfl
  · have named : (amid [] blocks).run front = some ((amid [] blocks).within .word) :=
      run_name plain fun _ _ => rfl
    rw [run_append_of_eq named]
    rfl

theorem line_brokenClass (broken : IsBrokenName eventClass.name) :
    (atLine [] [0]).run (("class " : Text) ++ eventClass.name ++ "(Event):" ++
      [CodePoint.ofChar '\n']) = some (atLine [] [0]) := by
  obtain ⟨front, plain, named⟩ := broken
  have begins : (atLine [] [0]).run ("class " : Text) = some (amid [] [0]) := run_string rfl
  have shape : ("class " : Text) ++ eventClass.name ++ "(Event):" ++ [CodePoint.ofChar '\n'] =
      ("class " : Text) ++ (front ++ CodePoint.ofChar '\n' ::
        (("Event" : Text) ++ "(Event):" ++ [CodePoint.ofChar '\n'])) := by
    simp [named]
  rw [shape, run_append_of_eq begins, run_brokenName front _ plain, Text.ofString_ofList,
    Text.ofString_ofList]
  rfl

/-- The description of the method that makes an event stays in its line. -/
theorem line_making (blocks : List Nat) (kept : Outline.blocksAt 8 blocks = some (8 :: blocks))
    (name : Text)
    (bare : ∀ point ∈ name, point ≠ CodePoint.ofChar '"' ∧ point ≠ CodePoint.ofChar '\\') :
    (atLine [] blocks).run (("        \"\"\"Generate a new random " : Text) ++ name ++ ".\"\"\"" ++
      [CodePoint.ofChar '\n']) = some (atLine [] (8 :: blocks)) := by
  have begins : (atLine [] blocks).run ("        \"\"\"Generate a new random " : Text) =
      some ((amid [] (8 :: blocks)).within .long) := by
    have opened : (atLine [] blocks).run ("        \"" : Text) =
        some ((amid [] (8 :: blocks)).within .quote) := by
      have mark : ((atLine [] blocks).within (.opening 8)).step '"' =
          some ((amid [] (8 :: blocks)).within .quote) := by
        simp only [Outline.step, Outline.within, atLine, kept]
        rfl
      change ((((atLine [] blocks).within (.opening 8)).step '"').bind fun last => last.run []) = _
      rw [mark]
      rfl
    have shape : ("        \"\"\"Generate a new random " : Text) =
        ("        \"" : Text) ++ ("\"\"Generate a new random " : Text) := by
      repeat rw [Text.ofString_ofList]
      rfl
    rw [shape, run_append_of_eq opened]
    exact run_string rfl
  rw [List.append_assoc, List.append_assoc, run_append_of_eq begins,
    run_append_of_eq (run_long _ name bare), Text.ofString_ofList]
  rfl

theorem bare_of_isPlain (name : Text) (plain : Identifier.isPlain name = true) :
    ∀ point ∈ name, point ≠ CodePoint.ofChar '"' ∧ point ≠ CodePoint.ofChar '\\' := by
  intro point member
  have later := Identifier.isLater_of_isPlain name plain point member
  constructor <;>
  · rintro rfl
    exact absurd later (by decide)

theorem leads_making (plain : Identifier.isPlain eventClass.name = true) :
    Leads (atLine [] [4, 0]) (makingLines eventClass) (atLine [CodePoint.ofChar '('] [8, 4, 0]) := by
  have begins : (atLine [] [4, 0]).run
      ("    def new_random(cls, rng: random.Random) -> " : Text) = some (amid [] [4, 0]) :=
    run_string rfl
  have signature : (atLine [] [4, 0]).run
      (("    def new_random(cls, rng: random.Random) -> " : Text) ++ eventClass.name ++ ":" ++
        [CodePoint.ofChar '\n']) = some (atLine [] [4, 0]) := by
    rw [List.append_assoc]
    exact line_name plain begins (fun _ _ => rfl) (by rw [Text.ofString_ofList]; rfl)
  refine .cons rfl <| .cons ?_ <| .cons signature <|
    .cons (line_making [4, 0] rfl _ (bare_of_isPlain _ plain)) <| .line ?_
  · rw [Text.ofString_ofList]
    rfl
  · rw [Text.ofString_ofList]
    rfl

theorem leads_brokenMaking (broken : IsBrokenName eventClass.name) :
    Leads (atLine [] [4, 0]) (makingLines eventClass) (atLine [CodePoint.ofChar '('] [8, 0]) := by
  obtain ⟨front, plain, named⟩ := broken
  have begins : (atLine [] [4, 0]).run
      ("    def new_random(cls, rng: random.Random) -> " : Text) = some (amid [] [4, 0]) :=
    run_string rfl
  have signature : (atLine [] [4, 0]).run
      (("    def new_random(cls, rng: random.Random) -> " : Text) ++ eventClass.name ++ ":" ++
        [CodePoint.ofChar '\n']) = some (atLine [] [0]) := by
    have shape : ("    def new_random(cls, rng: random.Random) -> " : Text) ++ eventClass.name ++
        ":" ++ [CodePoint.ofChar '\n'] =
        ("    def new_random(cls, rng: random.Random) -> " : Text) ++
          (front ++ CodePoint.ofChar '\n' :: (("Event" : Text) ++ ":" ++ [CodePoint.ofChar '\n'])) := by
      simp [named]
    rw [shape, run_append_of_eq begins, run_brokenName front _ plain, Text.ofString_ofList,
      Text.ofString_ofList]
    rfl
  have bare : ∀ point ∈ eventClass.name,
      point ≠ CodePoint.ofChar '"' ∧ point ≠ CodePoint.ofChar '\\' := by
    have fixed : (CodePoint.ofChar '\n' :: ("Event" : Text)).all (fun point =>
        point ≠ CodePoint.ofChar '"' && point ≠ CodePoint.ofChar '\\') = true := by
      rw [Text.ofString_ofList]
      rfl
    intro point member
    rw [named, List.mem_append] at member
    rcases member with own | other
    · rcases plain with rfl | plain
      · simp at own
      · exact bare_of_isPlain front plain point own
    · simpa using List.all_eq_true.mp fixed point other
  refine .cons rfl <| .cons ?_ <| .cons signature <| .cons (line_making [0] rfl _ bare) <| .line ?_
  · rw [Text.ofString_ofList]
    rfl
  · rw [Text.ofString_ofList]
    rfl

/-- The values of the attributes stand between the brackets of a call. -/
theorem leads_generators (blocks : List Nat) (attributes : List Attribute)
    (plain : ∀ found ∈ attributes,
      Identifier.isPlain found.name = true ∧ Identifier.isPlain found.generator = true) :
    Leads (atLine [CodePoint.ofChar '('] blocks)
      (attributes.map fun found =>
        ("            " : Text) ++ found.name ++ "=" ++ found.generator ++ "(rng),")
      (atLine [CodePoint.ofChar '('] blocks) := by
  induction attributes with
  | nil => exact .nil _
  | cons found attributes ih =>
      obtain ⟨name, generator⟩ := plain found (by simp)
      have begins : (atLine [CodePoint.ofChar '('] blocks).run ("            " : Text) =
          some ((atLine [CodePoint.ofChar '('] blocks).within (.opening 12)) := run_string rfl
      have sign : ((amid [CodePoint.ofChar '('] blocks).within .word).run ("=" : Text) =
          some ((amid [CodePoint.ofChar '('] blocks).within .sign) := run_string rfl
      have made := run_name generator (step_sign_of_isFirst (amid [CodePoint.ofChar '('] blocks))
      have line : (atLine [CodePoint.ofChar '('] blocks).run
          (("            " : Text) ++ found.name ++ "=" ++ found.generator ++ "(rng)," ++
            [CodePoint.ofChar '\n']) = some (atLine [CodePoint.ofChar '('] blocks) := by
        rw [List.append_assoc, List.append_assoc, List.append_assoc]
        refine line_name name begins (goesOn_bracketed 12 _ [] blocks) ?_
        rw [run_append_of_eq sign, run_append_of_eq made, Text.ofString_ofList]
        rfl
      rw [List.map_cons]
      exact .cons line (ih fun other member => plain other (by simp [member]))

/-- Behind the values of a class whose block is closed already, the next method breaks the tokens. -/
theorem breaks_storing :
    Breaks (atLine [CodePoint.ofChar '('] [8, 0]) (storingLines eventClass) := by
  have closed : Leads (atLine [CodePoint.ofChar '('] [8, 0]) [("        )" : Text), []]
      (atLine [] [8, 0]) := by
    have blank : (atLine [] [8, 0]).run ([] ++ [CodePoint.ofChar '\n']) =
        some (atLine [] [8, 0]) := rfl
    refine .cons ?_ (.line blank)
    rw [Text.ofString_ofList]
    rfl
  let broken : Outline := (atLine [] [8, 0]).within .broken
  have breaks : (atLine [] [8, 0]).run ("    a" : Text) = some broken := run_string rfl
  have shape : storingLines eventClass = [("        )" : Text), []] ++
      (storingLines eventClass).drop 2 := rfl
  have split : ("    async def store(self, conn: sqlite3.Connection) -> None:" : Text) =
      ("    a" : Text) ++ ("sync def store(self, conn: sqlite3.Connection) -> None:" : Text) := by
    repeat rw [Text.ofString_ofList]
    rfl
  rw [shape]
  refine closed.breaks ⟨broken, rfl, ?_⟩
  have text : ∃ rest, textOf ((storingLines eventClass).drop 2) = ("    a" : Text) ++ rest := by
    rw [storingLines, List.drop_succ_cons, List.drop_succ_cons, List.drop_zero, split, textOf,
      List.flatMap_cons, List.append_assoc, List.append_assoc]
    exact ⟨_, rfl⟩
  obtain ⟨rest, text⟩ := text
  rw [Leads, text, run_append_of_eq breaks]
  exact run_broken _ _

theorem leads_storing (plain : Identifier.isPlain eventClass.table = true) :
    Leads (atLine [CodePoint.ofChar '('] [8, 4, 0]) (storingLines eventClass)
      (atLine [] [8, 4, 0]) := by
  have closed : (atLine [CodePoint.ofChar '('] [8, 4, 0]).run
      (("        )" : Text) ++ [CodePoint.ofChar '\n']) = some (atLine [] [8, 4, 0]) := by
    rw [Text.ofString_ofList]
    rfl
  have blank : (atLine [] [8, 4, 0]).run ([] ++ [CodePoint.ofChar '\n']) =
      some (atLine [] [8, 4, 0]) := rfl
  have signature : (atLine [] [8, 4, 0]).run
      (("    async def store(self, conn: sqlite3.Connection) -> None:" : Text) ++
        [CodePoint.ofChar '\n']) = some (atLine [] [4, 0]) := by
    rw [Text.ofString_ofList]
    rfl
  have begins : (atLine [] [4, 0]).run ("        \"\"\"Insert this event into the " : Text) =
      some ((amid [] [8, 4, 0]).within .long) := run_string rfl
  have described : (atLine [] [4, 0]).run
      (("        \"\"\"Insert this event into the " : Text) ++ eventClass.table ++
        " table.\"\"\"" ++ [CodePoint.ofChar '\n']) = some (atLine [] [8, 4, 0]) := by
    rw [List.append_assoc, List.append_assoc, run_append_of_eq begins,
      run_append_of_eq (run_long _ _ (bare_of_isPlain _ plain)), Text.ofString_ofList]
    rfl
  have tried : (atLine [] [8, 4, 0]).run (("        try:" : Text) ++ [CodePoint.ofChar '\n']) =
      some (atLine [] [8, 4, 0]) := by
    rw [Text.ofString_ofList]
    rfl
  exact .cons closed (.cons blank (.cons signature (.cons described (.line tried))))

theorem leads_call :
    Leads (atLine [] [8, 4, 0]) callLines (atLine [CodePoint.ofChar '('] [12, 8, 4, 0]) := by
  exact .string (atLine [CodePoint.ofChar '('] [12, 8, 4, 0]) rfl <|
    .string (atLine [CodePoint.ofChar '('] [12, 8, 4, 0]) rfl <| .nil _

/-- An attribute of the event itself is one item. -/
theorem isItem_self (name : Text) (plain : Identifier.isPlain name = true) :
    IsItem (("self." : Text) ++ name) := by
  intro outline point ends
  have begins : (outline.within .inside).run ("self." : Text) = some (outline.within .sign) :=
    run_string rfl
  have named : (outline.within .sign).run name = some (outline.within .word) :=
    run_name plain (step_sign_of_isFirst outline)
  rw [List.append_assoc, run_append_of_eq begins, run_append_of_eq named,
    run_word_end outline point ends]

theorem leads_binding (plain : ∀ name ∈ eventClass.stored, Identifier.isPlain name = true) :
    Leads (atLine [CodePoint.ofChar '('] [12, 8, 4, 0]) [bindingLine eventClass]
      (atLine [CodePoint.ofChar '('] [12, 8, 4, 0]) := by
  let opened := amid [CodePoint.ofChar '(', CodePoint.ofChar '('] [12, 8, 4, 0]
  let closed := amid [CodePoint.ofChar '('] [12, 8, 4, 0]
  have begins : (atLine [CodePoint.ofChar '('] [12, 8, 4, 0]).run
      ("                bind_positional(" : Text) = some opened := run_string rfl
  have items : ∀ item ∈ eventClass.stored.map fun name => ("self." : Text) ++ name,
      IsItem item := by
    intro item member
    obtain ⟨name, nameMember, rfl⟩ := List.mem_map.mp member
    exact isItem_self name (plain name nameMember)
  have listed : opened.run (Text.join ", " (eventClass.stored.map fun name =>
      ("self." : Text) ++ name) ++ [CodePoint.ofChar ')']) = some closed := by
    by_cases empty : eventClass.stored = []
    · rw [empty]
      rfl
    · exact run_join_items opened _ (by simpa using empty) items ')' (.inr (.inl rfl))
  have shape : bindingLine eventClass ++ [CodePoint.ofChar '\n'] =
      ("                bind_positional(" : Text) ++ ((Text.join ", " (eventClass.stored.map
        fun name => ("self." : Text) ++ name) ++ [CodePoint.ofChar ')']) ++
          [CodePoint.ofChar ',', CodePoint.ofChar '\n']) := by
    have tail : ("),": Text) = [CodePoint.ofChar ')', CodePoint.ofChar ','] := Text.ofString_ofList _
    simp only [bindingLine, tail, List.append_assoc, List.cons_append, List.nil_append]
  apply Leads.line
  rw [shape, run_append_of_eq begins, run_append_of_eq listed]
  rfl

theorem leads_stored :
    Leads (atLine [CodePoint.ofChar '('] [12, 8, 4, 0]) storedLines
      (atLine [CodePoint.ofChar '('] [4, 0]) := by
  have blank : (atLine [] [12, 8, 4, 0]).run ([] ++ [CodePoint.ofChar '\n']) =
      some (atLine [] [12, 8, 4, 0]) := rfl
  exact .string (atLine [] [12, 8, 4, 0]) rfl <| .string (atLine [] [8, 4, 0]) rfl <|
    .string (atLine [CodePoint.ofChar '('] [12, 8, 4, 0]) rfl <|
    .string (atLine [CodePoint.ofChar '('] [12, 8, 4, 0]) rfl <| .string (atLine [] [12, 8, 4, 0]) rfl <|
    .cons blank <| .string (atLine [] [4, 0]) rfl <| .string (atLine [CodePoint.ofChar '('] [4, 0]) rfl <|
    .string (atLine [CodePoint.ofChar '('] [4, 0]) rfl <| .nil _

theorem leads_query (name : Identifier.isPlain eventClass.name = true)
    (table : Identifier.isPlain eventClass.table = true)
    (time : Identifier.isPlain eventClass.timeColumn = true) :
    Leads (atLine [CodePoint.ofChar '('] [4, 0]) (queryLines eventClass)
      (atLine [] [8, 4, 0]) := by
  have opened : (atLine [CodePoint.ofChar '('] [4, 0]).run ("    ) -> list[" : Text) =
      some (amid [CodePoint.ofChar '['] [4, 0]) := run_string rfl
  have signature : (atLine [CodePoint.ofChar '('] [4, 0]).run
      (("    ) -> list[" : Text) ++ eventClass.name ++ "]:" ++ [CodePoint.ofChar '\n']) =
        some (atLine [] [4, 0]) := by
    rw [List.append_assoc]
    exact line_name name opened (fun _ _ => rfl) (by rw [Text.ofString_ofList]; rfl)
  have begins : (atLine [] [4, 0]).run ("        \"\"\"Query " : Text) =
      some ((amid [] [8, 4, 0]).within .long) := run_string rfl
  have middle : ((amid [] [8, 4, 0]).within .long).run (" events with " : Text) =
      some ((amid [] [8, 4, 0]).within .long) := run_string rfl
  have described : (atLine [] [4, 0]).run
      (("        \"\"\"Query " : Text) ++ eventClass.table ++ " events with " ++
        eventClass.timeColumn ++ " between start and end, inclusive.\"\"\"" ++
          [CodePoint.ofChar '\n']) = some (atLine [] [8, 4, 0]) := by
    rw [List.append_assoc, List.append_assoc, List.append_assoc, List.append_assoc,
      run_append_of_eq begins, run_append_of_eq (run_long _ _ (bare_of_isPlain _ table)),
      run_append_of_eq middle, run_append_of_eq (run_long _ _ (bare_of_isPlain _ time)),
      Text.ofString_ofList]
    rfl
  exact .cons signature (.line described)

/-- The brackets around the values that are read back. -/
def rowBrackets : List CodePoint := [CodePoint.ofChar '(', CodePoint.ofChar '[']

theorem leads_row :
    Leads (atLine [] [8, 4, 0]) rowLines (atLine rowBrackets [12, 8, 4, 0]) := by
  exact .string (atLine [] [8, 4, 0]) rfl <| .string (atLine [] [12, 8, 4, 0]) rfl <|
    .string (atLine [CodePoint.ofChar '['] [12, 8, 4, 0]) rfl <| .string (atLine rowBrackets [12, 8, 4, 0]) rfl <|
    .nil _

theorem leads_decodings (index : Nat) (decodings : List Decoding)
    (plain : ∀ decoding ∈ decodings, Identifier.isPlain decoding.name = true) :
    Leads (atLine rowBrackets [12, 8, 4, 0]) (decodingLines index decodings)
      (atLine rowBrackets [12, 8, 4, 0]) := by
  induction decodings generalizing index with
  | nil => exact .nil _
  | cons decoding decodings ih =>
      let place := amid rowBrackets [12, 8, 4, 0]
      let called := amid (CodePoint.ofChar '(' :: rowBrackets) [12, 8, 4, 0]
      let indexed := amid (CodePoint.ofChar '[' :: CodePoint.ofChar '(' :: rowBrackets) [12, 8, 4, 0]
      have begins : (atLine rowBrackets [12, 8, 4, 0]).run ("                    " : Text) =
          some ((atLine rowBrackets [12, 8, 4, 0]).within (.opening 20)) := run_string rfl
      have call : (place.within .word).run ("=coerce_nullable(row[" : Text) = some indexed :=
        run_string rfl
      have number : indexed.run (Text.ofNat index ++ [CodePoint.ofChar ']']) = some called := by
        have digits : indexed.run (Text.ofNat index) = some (indexed.within .number) :=
          run_number indexed index
        rw [run_append_of_eq digits]
        rfl
      have comma : called.run (", " : Text) = some called := run_string rfl
      have width : called.run (Text.ofNat decoding.width ++ [CodePoint.ofChar ')']) = some place :=
        isItem_ofNat decoding.width called ')' (.inr (.inl rfl))
      have shape : ("                    " : Text) ++ decoding.name ++ "=coerce_nullable(row[" ++
          Text.ofNat index ++ "], " ++ Text.ofNat decoding.width ++ ")," ++ [CodePoint.ofChar '\n'] =
          ("                    " : Text) ++ decoding.name ++ (("=coerce_nullable(row[" : Text) ++
            ((Text.ofNat index ++ [CodePoint.ofChar ']']) ++ ((", " : Text) ++
              ((Text.ofNat decoding.width ++ [CodePoint.ofChar ')']) ++
                [CodePoint.ofChar ',', CodePoint.ofChar '\n'])))) := by
        have between : ("], " : Text) = CodePoint.ofChar ']' :: (", " : Text) := by
          rw [Text.ofString_ofList, Text.ofString_ofList]
          rfl
        have tail : ("),": Text) = [CodePoint.ofChar ')', CodePoint.ofChar ','] :=
          Text.ofString_ofList _
        simp only [between, tail, List.append_assoc, List.cons_append, List.nil_append]
      have line : (atLine rowBrackets [12, 8, 4, 0]).run
          (("                    " : Text) ++ decoding.name ++ "=coerce_nullable(row[" ++
            Text.ofNat index ++ "], " ++ Text.ofNat decoding.width ++ ")," ++
              [CodePoint.ofChar '\n']) = some (atLine rowBrackets [12, 8, 4, 0]) := by
        have behind : (place.within .word).run (("=coerce_nullable(row[" : Text) ++
            ((Text.ofNat index ++ [CodePoint.ofChar ']']) ++ ((", " : Text) ++
              ((Text.ofNat decoding.width ++ [CodePoint.ofChar ')']) ++
                [CodePoint.ofChar ',', CodePoint.ofChar '\n'])))) =
            some (atLine rowBrackets [12, 8, 4, 0]) := by
          rw [run_append_of_eq call, run_append_of_eq number, run_append_of_eq comma,
            run_append_of_eq width]
          rfl
        rw [shape]
        exact line_name (plain decoding (by simp)) begins
          (goesOn_bracketed 20 _ [CodePoint.ofChar '['] _) behind
      exact .cons line (ih (index + 1) fun other member => plain other (by simp [member]))

theorem leads_retrieveEnd :
    Leads (atLine rowBrackets [12, 8, 4, 0]) retrieveEnd (atLine [] [12, 8, 4, 0]) := by
  exact .string (atLine [CodePoint.ofChar '['] [12, 8, 4, 0]) rfl <|
    .string (atLine [CodePoint.ofChar '['] [12, 8, 4, 0]) rfl <| .string (atLine [] [12, 8, 4, 0]) rfl <|
    .string (atLine [] [8, 4, 0]) rfl <| .string (atLine [CodePoint.ofChar '('] [12, 8, 4, 0]) rfl <|
    .string (atLine [CodePoint.ofChar '('] [12, 8, 4, 0]) rfl <|
    .string (atLine [CodePoint.ofChar '('] [12, 8, 4, 0]) rfl <|
    .string (atLine [CodePoint.ofChar '('] [12, 8, 4, 0]) rfl <|
    .string (atLine [CodePoint.ofChar '('] [12, 8, 4, 0]) rfl <| .string (atLine [] [12, 8, 4, 0]) rfl <| .nil _

/-- The blocks that are open between two classes: none, or those of the last method. -/
def IsBetween (blocks : List Nat) : Prop := blocks = [0] ∨ blocks = [12, 8, 4, 0]

theorem leads_mark (blocks : List Nat) (isBetween : IsBetween blocks) :
    Leads (atLine [] blocks) [[], [], ("@dataclass" : Text)] (atLine [] [0]) := by
  rcases isBetween with rfl | rfl <;>
  · rw [Text.ofString_ofList]
    rfl

/-- What stands in the description and the remarks of a class stays in its lines. -/
structure IsQuiet (eventClass : EventClass) : Prop where
  table : ∃ name rest, Identifier.isPlain name = true ∧ eventClass.table = name ++ rest
  label : ∀ point ∈ eventClass.label,
    point ≠ CodePoint.ofChar '"' ∧ point ≠ CodePoint.ofChar '\\'

theorem leads_front (quiet : IsQuiet eventClass)
    (named : Identifier.isPlain eventClass.name = true ∨ IsBrokenName eventClass.name) :
    Leads (atLine [] [0]) (frontLines eventClass) (atLine [] [4, 0]) := by
  have blank : (atLine [] [4, 0]).run ([] ++ [CodePoint.ofChar '\n']) =
      some (atLine [] [4, 0]) := rfl
  obtain ⟨name, rest, plain, table⟩ := quiet.table
  refine (leads_opening eventClass name rest plain table quiet.label ?_).append
    ((leads_constants eventClass).append (.line blank))
  rcases named with plain | broken
  · exact line_class eventClass plain
  · exact line_brokenClass eventClass broken

theorem classLines_shape : classLines eventClass =
    [[], [], ("@dataclass" : Text)] ++ (bodyLines eventClass ++ []) := by
  simp [classLines_eq]

/-- A class with plain names leads from one class to the next. -/
theorem leads_class (blocks : List Nat) (isBetween : IsBetween blocks)
    (plain : IsPlainClass eventClass) (quiet : IsQuiet eventClass)
    (whole : ∀ found ∈ eventClass.attributes, CodePoint.ofChar '\n' ∉ found.comment) :
    Leads (atLine [] blocks) (classLines eventClass) (atLine [] [12, 8, 4, 0]) := by
  have attributes : Leads (atLine [] [4, 0]) (attributeLines eventClass) (atLine [] [4, 0]) :=
    leads_attributes eventClass.attributes (fun found member => (plain.attributes found member).1)
      whole
  rw [classLines_shape, bodyLines_eq]
  exact (leads_mark blocks isBetween).append <|
    (leads_front eventClass quiet (.inl plain.name)).append <| attributes.append <|
    (leads_making eventClass plain.name).append <|
    (leads_generators _ eventClass.attributes plain.attributes).append <|
    (leads_storing eventClass plain.table).append <| leads_call.append <|
    (leads_binding eventClass plain.stored).append <| leads_stored.append <|
    (leads_query eventClass plain.name plain.table plain.timeColumn).append <|
    leads_row.append <| (leads_decodings 0 eventClass.retrieved plain.retrieved).append <|
    leads_retrieveEnd.append (.nil _)

/-- Whether the remark of an attribute goes on in a line of its own. -/
def IsBrokenRemark (found : Attribute) : Prop :=
  ∃ front back, CodePoint.ofChar '\n' ∉ front ∧
    found.comment = front ++ CodePoint.ofChar '\n' :: (" w" : Text) ++ back

/-- A class with a broken remark behind plain attributes breaks the tokens. -/
theorem breaks_class_of_remark (blocks : List Nat) (isBetween : IsBetween blocks)
    (quiet : IsQuiet eventClass)
    (named : Identifier.isPlain eventClass.name = true ∨ IsBrokenName eventClass.name)
    (before after : List Attribute) (found : Attribute)
    (split : eventClass.attributes = before ++ found :: after)
    (plain : ∀ other ∈ before, Identifier.isPlain other.name = true)
    (whole : ∀ other ∈ before, CodePoint.ofChar '\n' ∉ other.comment)
    (broken : IsBrokenRemark found) : Breaks (atLine [] blocks) (classLines eventClass) := by
  obtain ⟨front, back, noFeed, comment⟩ := broken
  have attributes : attributeLines eventClass =
      before.flatMap attributePair ++ (attributePair found ++ after.flatMap attributePair) := by
    change eventClass.attributes.flatMap attributePair = _
    rw [split, List.flatMap_append, List.flatMap_cons]
  have breaks : Breaks (atLine [] [4, 0]) (attributeLines eventClass) := by
    rw [attributes]
    exact (leads_attributes before plain whole).breaks
      ((breaks_remark found front back noFeed comment).append _)
  rw [classLines_shape, bodyLines_eq]
  exact (leads_mark blocks isBetween).breaks <| (leads_front eventClass quiet named).breaks <|
    breaks.append _

/-- A class with a broken name and plain attributes breaks the tokens. -/
theorem breaks_class_of_name (blocks : List Nat) (isBetween : IsBetween blocks)
    (quiet : IsQuiet eventClass) (named : IsBrokenName eventClass.name)
    (plain : ∀ found ∈ eventClass.attributes,
      Identifier.isPlain found.name = true ∧ Identifier.isPlain found.generator = true)
    (whole : ∀ found ∈ eventClass.attributes, CodePoint.ofChar '\n' ∉ found.comment) :
    Breaks (atLine [] blocks) (classLines eventClass) := by
  have attributes : Leads (atLine [] [4, 0]) (attributeLines eventClass) (atLine [] [4, 0]) :=
    leads_attributes eventClass.attributes (fun found member => (plain found member).1) whole
  rw [classLines_shape, bodyLines_eq]
  exact (leads_mark blocks isBetween).breaks <| (leads_front eventClass quiet (.inr named)).breaks <|
    attributes.breaks <| (leads_brokenMaking eventClass named).breaks <|
    (leads_generators _ eventClass.attributes plain).breaks <| (breaks_storing eventClass).append _

end Class

section Module

/-- Whether a class can be passed by the outline of a module. -/
structure IsPassed (eventClass : EventClass) : Prop where
  plain : IsPlainClass eventClass
  quiet : IsQuiet eventClass
  whole : ∀ found ∈ eventClass.attributes, CodePoint.ofChar '\n' ∉ found.comment

/-- Whether a class breaks the tokens, wherever it stands. -/
def IsBreaking (eventClass : EventClass) : Prop :=
  ∀ blocks, IsBetween blocks → Breaks (atLine [] blocks) (classLines eventClass)

/-- Classes break the tokens if one of them does and all others are passed or break them too. -/
theorem breaks_classes (classes : List EventClass) (blocks : List Nat) (isBetween : IsBetween blocks)
    (each : ∀ eventClass ∈ classes, IsPassed eventClass ∨ IsBreaking eventClass)
    (one : ∃ eventClass ∈ classes, IsBreaking eventClass) :
    Breaks (atLine [] blocks) (classes.flatMap classLines) := by
  induction classes generalizing blocks with
  | nil => simp at one
  | cons eventClass classes ih =>
      rw [List.flatMap_cons]
      rcases each eventClass (by simp) with passed | breaks
      · obtain ⟨other, member, breaks⟩ := one
        rcases List.mem_cons.mp member with rfl | later
        · exact (breaks blocks isBetween).append _
        · have behind :=
            leads_class eventClass blocks isBetween passed.plain passed.quiet passed.whole
          exact behind.breaks (ih _ (.inr rfl) (fun other member => each other (by simp [member]))
            ⟨other, later, breaks⟩)
      · exact (breaks blocks isBetween).append _

theorem leads_openingLines : Leads Outline.start openingLines (atLine [] [0]) := by
  let described : Outline := (atLine [] [0]).within .long
  exact .string described rfl <| .string described rfl <| .string described rfl <|
    .string described rfl <| .string described rfl <| .string described rfl <|
    .string (atLine [] [0]) rfl <| .string (atLine [] [0]) rfl <| .string (atLine [] [0]) rfl <|
    .string (atLine [] [0]) rfl <| .string (atLine [] [0]) rfl <| .string (atLine [] [0]) rfl <|
    .string (atLine [] [0]) rfl <| .string (atLine [] [0]) rfl <| .string (atLine [] [0]) rfl <|
    .string (atLine [] [0]) rfl <| .string (atLine [] [0]) rfl <| .nil _

variable (module : EventModule)

theorem leads_generatorImport
    (plain : ∀ generator ∈ module.generators, Identifier.isPlain generator = true) :
    Leads (atLine [] [0]) (generatorImport module) (atLine [] [0]) := by
  rw [generatorImport]
  by_cases empty : module.generators = []
  · rw [if_pos (by simp [empty])]
    exact .nil _
  · have begins : (atLine [] [0]).run generatorsLead = some (amid [] [0]) := run_string rfl
    have names : (amid [] [0]).run (Text.join ", " module.generators ++ [CodePoint.ofChar '\n']) =
        some (atLine [] [0]) :=
      run_join_items (amid [] [0]) _ empty
        (fun name member => isItem_name name (plain name member)) '\n' (.inr (.inr rfl))
    rw [if_neg (by simpa using empty)]
    apply Leads.line
    rw [List.append_assoc, run_append_of_eq begins, names]

theorem line_source :
    (atLine [] [0]).run (sourceLead ++ sourceText module ++ [CodePoint.ofChar '\n']) =
      some (atLine [] [0]) := by
  have begins : (atLine [] [0]).run sourceLead = some (amid [] [0]) := run_string rfl
  rw [sourceText]
  cases module.source with
  | some source => exact line_literal begins source
  | none =>
      rw [List.append_assoc, run_append_of_eq begins, Option.map_none, Option.getD_none,
        Text.ofString_ofList]
      rfl

theorem leads_header
    (plain : ∀ generator ∈ module.generators, Identifier.isPlain generator = true) :
    Leads Outline.start (header module) (atLine [] [0]) := by
  have blank : (atLine [] [0]).run ([] ++ [CodePoint.ofChar '\n']) = some (atLine [] [0]) := rfl
  have fingerprint : (atLine [] [0]).run (fingerprintLead ++ Literal.ofText module.fingerprint ++
      [CodePoint.ofChar '\n']) = some (atLine [] [0]) :=
    line_literal (run_string rfl) module.fingerprint
  rw [← List.append_nil (header module), header_eq]
  refine leads_openingLines.append <| (leads_generatorImport module plain).append <|
    .append (.string (atLine [] [0]) rfl <| .cons blank <| .string (atLine [] [0]) rfl <| .nil _) <|
    .cons (line_source module) <| .cons blank <| .line fingerprint

theorem leads_sectionLines :
    Leads (atLine [] [0]) (sectionLines "Event Types") (atLine [] [0]) := by
  have blank : (atLine [] [0]).run ([] ++ [CodePoint.ofChar '\n']) = some (atLine [] [0]) := rfl
  have rule : (atLine [] [0]).run (ruleLine ++ [CodePoint.ofChar '\n']) =
      some (atLine [] [0]) := by
    rw [ruleLine, Text.ofString_ofList]
    rfl
  have title : (atLine [] [0]).run (("# " : Text) ++ ("Event Types" : Text) ++
      [CodePoint.ofChar '\n']) = some (atLine [] [0]) := by
    rw [Text.ofString_ofList, Text.ofString_ofList]
    rfl
  exact .cons blank <| .cons blank <| .cons rule <| .cons title <| .line rule

/-- A text with a broken token is no script. -/
theorem ofText_of_isBroken (text : Text)
    (isBroken : (ScriptToken.ofText text).any ScriptToken.isBroken = true) :
    ∃ error, Script.ofText text = .error error := by
  rw [← brokenError?_isSome, Option.isSome_iff_exists] at isBroken
  obtain ⟨error, isError⟩ := isBroken
  rw [Script.ofText]
  split
  · exact ⟨_, rfl⟩
  · dsimp only
    split
    · exact ⟨_, rfl⟩
    · rw [isError]
      exact ⟨_, rfl⟩

/-- A module with a class that breaks the tokens is no script. -/
theorem ofText_of_breaks
    (plain : ∀ generator ∈ module.generators, Identifier.isPlain generator = true)
    (each : ∀ eventClass ∈ module.classes, IsPassed eventClass ∨ IsBreaking eventClass)
    (one : ∃ eventClass ∈ module.classes, IsBreaking eventClass) :
    ∃ error, Script.ofText (write module) = .error error := by
  have front : Leads Outline.start (header module ++ sectionLines "Event Types") (atLine [] [0]) :=
    (leads_header module plain).append leads_sectionLines
  have classes := breaks_classes module.classes [0] (.inl rfl) each one
  obtain ⟨next, broken, found⟩ := (front.breaks classes).append (registryLines module)
  have text : write module = textOf (header module ++ sectionLines "Event Types" ++
      module.classes.flatMap classLines ++ registryLines module) := write_eq module
  rw [Leads, ← text] at found
  exact ofText_of_isBroken _ (any_isBroken_ofText (write module) next found broken)

end Module

end EventForge.ModuleText
