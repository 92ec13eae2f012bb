import EventForge.Proofs.Sql.Expression
import EventForge.Proofs.Text.Pieces

/-!
# Reading listed texts

Elements with commas between them, and the first statement of a text.
-/

namespace EventForge

/-!
## Lists with commas

The columns and values of a statement stand in lists with commas between them.  A reader that reads
each item reads the whole list.
-/

namespace SqlToken

variable {Item : Type}

/-- A comma behind an item. -/
def comma : SqlToken := ofSymbol [] [CodePoint.ofChar ',']

def opening (before : Text) : SqlToken := ofSymbol before [CodePoint.ofChar '(']

def closing : SqlToken := ofSymbol [] [CodePoint.ofChar ')']

/-- Items behind others. -/
def listedBehind (tokens : Text → Item → List SqlToken) : List Item → List SqlToken
  | [] => []
  | item :: items => comma :: (tokens blank item ++ listedBehind tokens items)

/-- Items with commas between them; each item has a blank in front but the first. -/
def listed (tokens : Text → Item → List SqlToken) : List Item → List SqlToken
  | [] => []
  | item :: items => tokens [] item ++ listedBehind tokens items

theorem spell_listed (tokens : Text → Item → List SqlToken) (text : Item → Text)
    (spelled : ∀ before item, spell (tokens before item) = before ++ text item)
    (items : List Item) : spell (listed tokens items) = Text.join ", " (items.map text) := by
  cases items with
  | nil => rfl
  | cons item items =>
      simp only [listed, spell_append, spelled, List.nil_append]
      induction items generalizing item with
      | nil => simp [listedBehind]
      | cons next items ih =>
          rw [List.map_cons, List.map_cons, Text.join_cons_cons, ← List.map_cons, ← ih next]
          simp only [listedBehind, spell_cons, spell_append, spelled, List.append_assoc]
          rfl

/-- A list is spelled as it is scanned if its items are. -/
theorem spells_listedBehind (tokens : Text → Item → List SqlToken) (items : List Item)
    (rest : List SqlToken)
    (each : ∀ item ∈ items, ∀ before later, before = [] ∨ before = blank → Spells later →
      EndsVariable (spell later) → Spells (tokens before item ++ later))
    (spelled : Spells rest) (ends : EndsVariable (spell rest)) :
    Spells (listedBehind tokens items ++ rest) ∧
      EndsVariable (spell (listedBehind tokens items ++ rest)) := by
  induction items with
  | nil => exact ⟨spelled, ends⟩
  | cons item items ih =>
      obtain ⟨behind, behindEnds⟩ := ih fun other member => each other (by simp [member])
      have own := each item (by simp) blank _ (Or.inr rfl) behind behindEnds
      constructor
      · rw [listedBehind, List.cons_append, List.append_assoc]
        exact .symbol (Or.inl rfl) (Or.inl rfl) own
      · intro point first
        right
        left
        exact (Option.some.inj first).symm

theorem spells_listed (tokens : Text → Item → List SqlToken) (items : List Item)
    (rest : List SqlToken)
    (each : ∀ item ∈ items, ∀ before later, before = [] ∨ before = blank → Spells later →
      EndsVariable (spell later) → Spells (tokens before item ++ later))
    (spelled : Spells rest) (ends : EndsVariable (spell rest)) :
    Spells (listed tokens items ++ rest) := by
  cases items with
  | nil => exact spelled
  | cons item items =>
      obtain ⟨behind, behindEnds⟩ := spells_listedBehind tokens items rest
        (fun other member => each other (by simp [member])) spelled ends
      rw [listed, List.append_assoc]
      exact each item (by simp) [] _ (Or.inl rfl) behind behindEnds

end SqlToken

namespace SqlReader

open SqlToken

variable {Item Value : Type}

/-- A list is read item by item. -/
theorem separated_listed (reader : SqlReader Value) (tokens : Text → Item → List SqlToken)
    (value : Item → Value) (ends : List SqlToken → Prop) (rest : List SqlToken)
    (endsComma : ∀ later, ends (comma :: later)) (endsRest : ends rest)
    (noComma : symbol "," rest = .ok (false, rest)) (before : Text) (item : Item)
    (items : List Item)
    (each : ∀ item' ∈ item :: items, ∀ before later, ends later →
      reader (tokens before item' ++ later) = .ok (value item', later))
    (fuel : Nat) (enough : items.length < fuel) :
    separated reader fuel (tokens before item ++ (listedBehind tokens items ++ rest)) =
      .ok (value item :: items.map value, rest) := by
  induction items generalizing before item fuel with
  | nil =>
      obtain ⟨fuel, rfl⟩ : ∃ more, fuel = more + 1 := ⟨fuel - 1, by simp at enough; omega⟩
      have own := each item (by simp) before rest endsRest
      simp only [listedBehind, List.nil_append, separated, run_bind, own, Outcome.ok_bind, noComma,
        run_ite, Bool.false_eq_true, if_false, run_pure, List.map_nil]
  | cons next items ih =>
      obtain ⟨fuel, rfl⟩ : ∃ more, fuel = more + 1 := ⟨fuel - 1, by simp at enough; omega⟩
      have own := each item (by simp) before _ (endsComma (tokens blank next ++
        (listedBehind tokens items ++ rest)))
      have others := ih blank next (fun other member => each other (by simp [member])) fuel
        (by simpa using enough)
      have isComma : comma.isSymbol "," = true := by decide
      simp only [listedBehind, List.cons_append, List.append_assoc, separated, run_bind, own,
        Outcome.ok_bind, symbol_cons, isComma, if_true, run_ite, others, run_pure, List.map_cons]

theorem list_listed (reader : SqlReader Value) (tokens : Text → Item → List SqlToken)
    (value : Item → Value) (ends : List SqlToken → Prop) (rest : List SqlToken)
    (endsComma : ∀ later, ends (comma :: later)) (endsRest : ends rest)
    (noComma : symbol "," rest = .ok (false, rest)) (items : List Item) (inhabited : items ≠ [])
    (each : ∀ item ∈ items, ∀ before later, ends later →
      reader (tokens before item ++ later) = .ok (value item, later)) :
    list reader (listed tokens items ++ rest) = .ok (items.map value, rest) := by
  cases items with
  | nil => exact absurd rfl inhabited
  | cons item items =>
      have enough : items.length < (listed tokens (item :: items) ++ rest).length + 1 := by
        have behind : items.length ≤ (listedBehind tokens items).length := by
          clear each inhabited
          induction items with
          | nil => simp
          | cons next items ih =>
              simp [listedBehind]
              omega
        simp [listed]
        omega
      have read := separated_listed reader tokens value ends rest endsComma endsRest noComma []
        item items each _ enough
      simp only [list, run_bind, count, Outcome.ok_bind]
      rw [listed, List.append_assoc] at *
      exact read

end SqlReader

end EventForge

namespace EventForge

/-!
## The statement of a spelled text

A text that is spelled from tokens is read as the statement that the reader finds in them.  Its
parameters are the numbers of its variables in their order.
-/

namespace SqlToken

/-- The names of the variables among some tokens. -/
def variableNames (tokens : List SqlToken) : List Text :=
  (tokens.filter fun token => token.kind = .variable).map fun token => token.written.drop 1

@[simp] theorem variableNames_nil : variableNames [] = [] := rfl

@[simp] theorem variableNames_ofWord (before written : Text) (tokens : List SqlToken) :
    variableNames (ofWord before written :: tokens) = variableNames tokens := rfl

@[simp] theorem variableNames_ofSymbol (before written : Text) (tokens : List SqlToken) :
    variableNames (ofSymbol before written :: tokens) = variableNames tokens := rfl

@[simp] theorem variableNames_ofNumber (before : Text) (number : Nat) (tokens : List SqlToken) :
    variableNames (ofNumber before number :: tokens) =
      Text.ofNat number :: variableNames tokens := rfl

@[simp] theorem variableNames_append (first second : List SqlToken) :
    variableNames (first ++ second) = variableNames first ++ variableNames second := by
  simp [variableNames]

end SqlToken

namespace FirstStatement

open SqlToken

/-- The parameters of spelled tokens are their variables, if no variable stands twice. -/
theorem foldlM_addParameter (tokens : List SqlToken) (spelled : Spells tokens)
    (names : List (Option Text))
    (distinct : (names ++ (variableNames tokens).map some).Nodup) :
    tokens.foldlM addParameter names = .ok (names ++ (variableNames tokens).map some) := by
  induction spelled generalizing names with
  | nil => simp
  | word _ _ _ _ ih =>
      rw [List.foldlM_cons]
      exact ih names distinct
  | symbol _ _ _ ih =>
      rw [List.foldlM_cons]
      exact ih names distinct
  | @number before number tokens _ _ _ ih =>
      rw [variableNames_ofNumber, List.map_cons] at distinct ⊢
      have fresh : some (Text.ofNat number) ∉ names := by
        intro member
        exact (List.nodup_append.mp distinct).2.2 _ member _ (by simp) rfl
      have nonempty := Text.ofNat_ne_nil number
      have name : (("$" : Text) ++ Text.ofNat number).drop 1 = Text.ofNat number := rfl
      have mark : (("$" : Text) ++ Text.ofNat number).head? = some (CodePoint.ofChar '$') := rfl
      have other : CodePoint.ofChar '$' ≠ CodePoint.ofChar '?' := by decide
      have added : addParameter names (ofNumber before number) =
          .ok (names ++ [some (Text.ofNat number)]) := by
        simp [addParameter, ofNumber, name, mark, other, nonempty, fresh]
      rw [List.foldlM_cons, added, Outcome.ok_bind, ih]
      · simp
      · simpa using distinct

/-- A whole text is one statement. -/
theorem ofTokens_whole (tokens : List SqlToken) (statement : Statement) (spelled : Spells tokens)
    (inhabited : tokens ≠ []) (read : SqlReader.statement tokens = .ok (statement, []))
    (distinct : (variableNames tokens).Nodup) :
    ofTokens tokens =
      .ok { statement, tokens, parameters := (variableNames tokens).map some } := by
  have parameters := foldlM_addParameter tokens spelled [] (by
    simp only [List.nil_append]
    exact List.Pairwise.map some (fun _ _ apart same => apart (Option.some.inj same)) distinct)
  have kept : tokens.dropWhile (isSymbol ";") = tokens := by
    cases spelled with
    | nil => rfl
    | word => rfl
    | number => rfl
    | symbol _ known => rcases known with rfl | rfl | rfl <;> rfl
  rw [ofTokens, kept]
  cases tokens with
  | nil => exact absurd rfl inhabited
  | cons token tokens =>
      simp only [read, SqlReader.finish, Outcome.ok_bind, List.length_nil, Nat.sub_zero,
        List.take_length, parameters, Outcome.pure_eq_ok, List.nil_append]
      rfl

/-- What is read from a spelled text that adds no column. -/
theorem ofText_spell (tokens : List SqlToken) (statement : Statement) (spelled : Spells tokens)
    (inhabited : tokens ≠ []) (read : SqlReader.statement tokens = .ok (statement, []))
    (distinct : (variableNames tokens).Nodup)
    (noColumn : ∀ table elements broken isOpen,
      statement ≠ .addColumn table elements broken isOpen) :
    ofText (spell tokens) =
      .ok { statement, tokens, parameters := (variableNames tokens).map some } := by
  rw [ofText, SqlToken.ofText_spell tokens spelled,
    ofTokens_whole tokens statement spelled inhabited read distinct, Outcome.ok_bind]
  cases statement with
  | addColumn table elements broken isOpen => exact absurd rfl (noColumn _ _ _ _)
  | _ => rfl

/-- A spelled text behind whose last token a parenthesis is scanned ends within no remark. -/
theorem isOpen_spell (tokens : List SqlToken) (text : Text) (last : CodePoint)
    (spelled : Spells (tokens ++ [closing])) (ends : spell tokens = text ++ [last])
    (plain : Identifier.isLater last = true) : isOpen (spell tokens) = false := by
  have bounds := (Identifier.isLater_iff last).mp plain
  have notEnding : (last = CodePoint.ofChar ';' ∨ isLaterBlank last = true) = False := by
    rw [eq_iff_iff, iff_false]
    simp [isLaterBlank, CodePoint.eq_ofChar_iff]
    omega
  have trimmed : ((spell tokens).reverse.dropWhile fun point : CodePoint =>
      point = ';' || isLaterBlank point).reverse = spell tokens := by
    rw [ends, List.reverse_append, List.reverse_singleton, List.singleton_append,
      List.dropWhile_cons_of_neg (by simpa using notEnding)]
    simp
  have closed : spell tokens ++ (")" : Text) = spell (tokens ++ [closing]) := by
    simp [closing, ofSymbol]
    rfl
  have isClosing : closing.isSymbol ")" = true := by decide
  simp only [isOpen, trimmed, closed, SqlToken.ofText_spell _ spelled, List.getLast?_concat,
    Option.any_some, isClosing, Bool.not_true]

/-- What is read from a spelled text that adds a column. -/
theorem ofText_spell_addColumn (tokens : List SqlToken) (table : ObjectName)
    (elements : List TableElement) (spelled : Spells tokens) (inhabited : tokens ≠ [])
    (read : SqlReader.statement tokens = .ok (.addColumn table elements none false, []))
    (distinct : (variableNames tokens).Nodup) (ended : isOpen (spell tokens) = false) :
    ofText (spell tokens) =
      .ok { statement := .addColumn table elements none false, tokens
            parameters := (variableNames tokens).map some } := by
  rw [ofText, SqlToken.ofText_spell tokens spelled,
    ofTokens_whole tokens _ spelled inhabited read distinct, Outcome.ok_bind]
  simp only [ended, Bool.and_false]
  rfl

end FirstStatement

end EventForge
