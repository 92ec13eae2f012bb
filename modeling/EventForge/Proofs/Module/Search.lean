import EventForge.Module.Reader
import EventForge.Proofs.Module.Literal
import EventForge.Proofs.Text.Pieces
import EventForge.Proofs.Text.Ascii

/-!
# Searching the lines of a module

A search for a line with a leading part passes the lines that do not begin with it.  Lists of
literals, names and numbers read back as they were written.
-/

namespace EventForge.ModuleText

theorem between?_parts (lead inner tail : Text) :
    between? lead tail (lead ++ inner ++ tail) = some inner := by
  simp [between?, List.append_assoc]

theorem between?_eq_none (lead tail text : Text) (absent : Text.dropLead? text lead = none) :
    between? lead tail text = none := by
  simp [between?, absent]

theorem between?_eq_none_of_end (lead tail text : Text)
    (absent : Text.dropLead? text.reverse tail.reverse = none) : between? lead tail text = none := by
  cases dropped : Text.dropLead? text lead with
  | none => exact between?_eq_none lead tail text dropped
  | some rest =>
      have shape := (Text.dropLead?_eq_some_iff text lead rest).mp dropped
      have back : Text.dropLead? rest.reverse tail.reverse = none := by
        cases found : Text.dropLead? rest.reverse tail.reverse with
        | none => rfl
        | some back =>
            rw [shape, List.reverse_append,
              (Text.dropLead?_eq_some_iff rest.reverse tail.reverse back).mp found,
              List.append_assoc, Text.dropLead?_append] at absent
            cases absent
      simp [between?, dropped, back]

@[simp] theorem after?_self (lead rest : Text) (lines : List Text) :
    after? lead ((lead ++ rest) :: lines) = some rest := by
  simp [after?]

theorem after?_skip (lead line : Text) (lines : List Text)
    (absent : Text.dropLead? line lead = none) : after? lead (line :: lines) = after? lead lines := by
  simp [after?, absent]

theorem after?_append (lead : Text) (front lines : List Text)
    (absent : ∀ line ∈ front, Text.dropLead? line lead = none) :
    after? lead (front ++ lines) = after? lead lines := by
  induction front with
  | nil => rfl
  | cons line front ih =>
      rw [List.cons_append, after?_skip lead line _ (absent line (by simp)),
        ih fun other member => absent other (by simp [member])]

/-- The first line that begins with a leading part is found behind lines that do not. -/
theorem after?_found (lead : Text) (front : List Text) (rest : Text) (lines : List Text)
    (absent : (front.all fun line => (Text.dropLead? line lead).isNone) = true) :
    after? lead (front ++ (lead ++ rest) :: lines) = some rest := by
  rw [after?_append lead front, after?_self]
  simpa using absent

@[simp] theorem inside?_self (lead inner tail : Text) (lines : List Text) :
    inside? lead tail ((lead ++ inner ++ tail) :: lines) = some inner := by
  rw [inside?, List.findSome?_cons, between?_parts]

theorem inside?_skip (lead tail line : Text) (lines : List Text)
    (absent : Text.dropLead? line lead = none) :
    inside? lead tail (line :: lines) = inside? lead tail lines := by
  simp [inside?, between?_eq_none lead tail line absent]

theorem inside?_append (lead tail : Text) (front lines : List Text)
    (absent : ∀ line ∈ front, Text.dropLead? line lead = none) :
    inside? lead tail (front ++ lines) = inside? lead tail lines := by
  induction front with
  | nil => rfl
  | cons line front ih =>
      rw [List.cons_append, inside?_skip lead tail line _ (absent line (by simp)),
        ih fun other member => absent other (by simp [member])]

/-- The first line between two parts is found behind lines that do not begin with the leading one.
-/
theorem inside?_found (lead tail : Text) (front : List Text) (inner : Text) (lines : List Text)
    (absent : (front.all fun line => (Text.dropLead? line lead).isNone) = true) :
    inside? lead tail (front ++ (lead ++ inner ++ tail) :: lines) = some inner := by
  rw [inside?_append lead tail front, inside?_self]
  simpa using absent

/-- Literals with commas between them are read up to a closing parenthesis. -/
theorem literals?_join (fuel : Nat) (values : List Text) (inhabited : values ≠ [])
    (enough : values.length ≤ fuel) (rest : Text) (closed : Text.dropLead? rest ", " = none) :
    literals? fuel (Text.join ", " (values.map Literal.ofText) ++ rest) = some (values, rest) := by
  induction values generalizing fuel with
  | nil => exact absurd rfl inhabited
  | cons value values ih =>
      obtain ⟨fuel, rfl⟩ := Nat.exists_eq_succ_of_ne_zero (Nat.ne_of_gt (Nat.zero_lt_of_lt enough))
      cases values with
      | nil =>
          simp [literals?, Literal.read?_ofText, closed]
      | cons next values =>
          have read := ih fuel (by simp) (by simpa using enough)
          simp only [List.map_cons] at read ⊢
          rw [Text.join_cons_cons, List.append_assoc, List.append_assoc, literals?,
            Literal.read?_ofText]
          simp [read]

theorem tuple_cons_cons (first second : Text) (items : List Text) :
    tuple (first :: second :: items) =
      ("(" : Text) ++ (Text.join ", " (first :: second :: items) ++ (")" : Text)) := by
  simp [tuple]

theorem ofText_ne_nil (text : Text) : Literal.ofText text ≠ [] := by
  simp [Literal.ofText_eq]

theorem join_ofText_ne (values : List Text) (inhabited : values ≠ []) (rest : Text) :
    Text.join ", " (values.map Literal.ofText) ++ rest ≠ (")" : Text) := by
  have apart : CodePoint.ofChar '"' ≠ CodePoint.ofChar ')' := by decide
  match values with
  | [] => exact absurd rfl inhabited
  | [value] =>
      simp only [List.map_cons, List.map_nil, Text.join_singleton, Literal.ofText_eq]
      exact fun same => apart (List.cons.inj same).1
  | first :: second :: others =>
      simp only [List.map_cons, Text.join_cons_cons, Literal.ofText_eq, List.cons_append]
      exact fun same => apart (List.cons.inj same).1

theorem literals?_enough (values : List Text) (rest : Text) (fuel : Nat) (inhabited : values ≠ [])
    (enough : (Text.join ", " (values.map Literal.ofText)).length ≤ fuel)
    (closed : Text.dropLead? rest ", " = none) :
    literals? fuel (Text.join ", " (values.map Literal.ofText) ++ rest) = some (values, rest) := by
  refine literals?_join fuel values inhabited ?_ rest closed
  have long := Text.length_le_join ", " (values.map Literal.ofText) (by
    intro piece member
    obtain ⟨value, _, rfl⟩ := List.mem_map.mp member
    exact ofText_ne_nil value)
  rw [List.length_map] at long
  omega

/-- How a tuple closes. -/
def IsClosing (text : Text) : Prop := text = (")" : Text) ∨ text = (",)" : Text)

theorem IsClosing.dropLead? {closing : Text} (closes : IsClosing closing) :
    Text.dropLead? closing ", " = none := by
  rcases closes with rfl | rfl <;> decide

theorem IsClosing.isTrue {closing : Text} (closes : IsClosing closing) :
    (closing = (")" : Text) || closing = (",)" : Text)) = true := by
  simpa [IsClosing] using closes

theorem tupleValues?_closing (values : List Text) (inhabited : values ≠ []) (closing : Text)
    (closes : IsClosing closing) :
    tupleValues? (("(" : Text) ++ (Text.join ", " (values.map Literal.ofText) ++ closing)) =
      some values := by
  have read := literals?_enough values closing
    ((("(" : Text) ++ (Text.join ", " (values.map Literal.ofText) ++ closing)).length + 1) inhabited
    (by simp only [List.length_append]; omega) closes.dropLead?
  simp only [tupleValues?, Text.dropLead?_append, Option.bind_eq_bind, Option.bind_some,
    join_ofText_ne values inhabited closing, if_false, read, closes.isTrue, if_true]
  rfl

/-- A tuple of literals reads back. -/
theorem tupleValues?_tuple (values : List Text) :
    tupleValues? (tuple (values.map Literal.ofText)) = some values := by
  match values with
  | [] => decide
  | [value] =>
      have read := tupleValues?_closing [value] (by simp) ",)" (Or.inr rfl)
      simpa [tuple] using read
  | first :: second :: others =>
      have read := tupleValues?_closing (first :: second :: others) (by simp) ")" (Or.inl rfl)
      simpa [tuple] using read

/-- A pair of literals. -/
def pairText (pair : Text × Text) : Text :=
  ("(" : Text) ++ Literal.ofText pair.1 ++ ", " ++ Literal.ofText pair.2 ++ ")"

theorem pairs?_one (fuel : Nat) (pair : Text × Text) (rest : Text) :
    pairs? (fuel + 1) (pairText pair ++ rest) =
      match Text.dropLead? rest ", " with
      | some more => (pairs? fuel more).map fun others => pair :: others
      | none => if rest = (")" : Text) || rest = (",)" : Text) then some [pair] else none := by
  simp only [pairs?, pairText, List.append_assoc, Text.dropLead?_append, Option.bind_eq_bind,
    Option.bind_some, Literal.read?_ofText]
  cases Text.dropLead? rest ", " with
  | none => rfl
  | some more =>
      dsimp only
      cases pairs? fuel more <;> rfl

theorem pairs?_join (fuel : Nat) (pairs : List (Text × Text)) (inhabited : pairs ≠ [])
    (enough : pairs.length ≤ fuel) (closing : Text) (closes : IsClosing closing) :
    pairs? fuel (Text.join ", " (pairs.map pairText) ++ closing) = some pairs := by
  induction pairs generalizing fuel with
  | nil => exact absurd rfl inhabited
  | cons pair pairs ih =>
      obtain ⟨fuel, rfl⟩ := Nat.exists_eq_succ_of_ne_zero (Nat.ne_of_gt (Nat.zero_lt_of_lt enough))
      cases pairs with
      | nil =>
          rw [List.map_cons, List.map_nil, Text.join_singleton, pairs?_one, closes.dropLead?]
          simp only [closes.isTrue, if_true]
      | cons next pairs =>
          have read := ih fuel (by simp) (by simpa using enough)
          simp only [List.map_cons] at read ⊢
          rw [Text.join_cons_cons, List.append_assoc, List.append_assoc, pairs?_one,
            Text.dropLead?_append]
          simp only [read, Option.map_some]

theorem tuplePairs?_closing (pairs : List (Text × Text)) (inhabited : pairs ≠ []) (closing : Text)
    (closes : IsClosing closing) :
    tuplePairs? (("(" : Text) ++ (Text.join ", " (pairs.map pairText) ++ closing)) = some pairs := by
  have long := Text.length_le_join ", " (pairs.map pairText) (by
    intro piece member
    obtain ⟨pair, _, rfl⟩ := List.mem_map.mp member
    exact List.cons_ne_nil _ _)
  rw [List.length_map] at long
  have read := pairs?_join
    ((("(" : Text) ++ (Text.join ", " (pairs.map pairText) ++ closing)).length + 1) pairs inhabited
    (by simp only [List.length_append]; omega) closing closes
  have other : Text.join ", " (pairs.map pairText) ++ closing ≠ (")" : Text) := by
    have apart : CodePoint.ofChar '(' ≠ CodePoint.ofChar ')' := by decide
    match pairs with
    | [] => exact absurd rfl inhabited
    | [pair] => exact fun same => apart (List.cons.inj same).1
    | first :: second :: others => exact fun same => apart (List.cons.inj same).1
  simp only [tuplePairs?, Text.dropLead?_append, Option.bind_eq_bind, Option.bind_some, other,
    if_false, read]

/-- A tuple of pairs of literals reads back. -/
theorem tuplePairs?_tuple (pairs : List (Text × Text)) :
    tuplePairs? (tuple (pairs.map pairText)) = some pairs := by
  match pairs with
  | [] => decide
  | [pair] =>
      have read := tuplePairs?_closing [pair] (by simp) ",)" (Or.inr rfl)
      simpa [tuple] using read
  | first :: second :: others =>
      have read := tuplePairs?_closing (first :: second :: others) (by simp) ")" (Or.inl rfl)
      simpa [tuple] using read

/-- Texts that are neither empty nor hold a comma are listed as they were joined. -/
theorem listed_join (pieces : List Text)
    (plain : ∀ piece ∈ pieces, piece ≠ [] ∧ CodePoint.ofChar ',' ∉ piece) :
    listed (Text.join ", " pieces) = pieces := by
  by_cases inhabited : pieces = []
  · subst inhabited
    decide
  · have split := Text.splitPair_join ',' ' ' (by decide) pieces inhabited fun piece member =>
      Text.splitPair_of_not_mem _ _ piece (plain piece member).2
    change (Text.splitPair ',' ' ' (Text.join [CodePoint.ofChar ',', CodePoint.ofChar ' '] pieces)).filter _ = _
    rw [split, List.filter_eq_self]
    intro piece member
    simpa using (plain piece member).1

theorem natural?_ofNat (number : Nat) : natural? (Text.ofNat number) = some number := by
  have digits : (Text.ofNat number).all CodePoint.isAsciiDigit = true :=
    List.all_eq_true.mpr (Text.isAsciiDigit_of_mem_ofNat number)
  have inhabited : (Text.ofNat number).isEmpty = false := by
    simpa using Text.ofNat_ne_nil number
  simp [natural?, digits, inhabited, Text.digitsValue_ofNat]

theorem mapM_natural? (numbers : List Nat) :
    (numbers.map Text.ofNat).mapM natural? = some numbers := by
  induction numbers with
  | nil => rfl
  | cons number numbers ih => simp [natural?_ofNat, ih]

theorem listed_ofNat (numbers : List Nat) :
    (listed (Text.join ", " (numbers.map Text.ofNat))).mapM natural? = some numbers := by
  rw [listed_join, mapM_natural?]
  intro piece member
  obtain ⟨number, _, rfl⟩ := List.mem_map.mp member
  exact ⟨Text.ofNat_ne_nil number, Text.not_mem_ofNat number ',' (by decide)⟩

theorem getLast?_join_ofNat (numbers : List Nat) :
    (Text.join ", " (numbers.map Text.ofNat)).getLast? ≠ some (CodePoint.ofChar ',') := by
  have digit : ∀ number, (Text.ofNat number).getLast? ≠ some (CodePoint.ofChar ',') :=
    fun number last =>
      Text.not_mem_ofNat number ',' (by decide) (List.mem_of_getLast? last)
  induction numbers with
  | nil => simp
  | cons number numbers ih =>
      cases numbers with
      | nil => exact digit number
      | cons next numbers =>
          simp only [List.map_cons] at ih ⊢
          rw [Text.join_cons_cons, List.getLast?_append]
          cases last : (Text.join ", " (Text.ofNat next :: numbers.map Text.ofNat)).getLast? with
          | none =>
              have long := Text.length_le_join ", " ((next :: numbers).map Text.ofNat) (by
                intro piece member
                obtain ⟨number, _, rfl⟩ := List.mem_map.mp member
                exact Text.ofNat_ne_nil number)
              rw [List.map_cons, List.getLast?_eq_none_iff.mp last] at long
              simp at long
          | some point =>
              rw [last] at ih
              simpa using ih

/-- A tuple of numbers reads back. -/
theorem tupleNumbers?_tuple (numbers : List Nat) :
    tupleNumbers? (tuple (numbers.map Text.ofNat)) = some numbers := by
  match numbers with
  | [] => decide
  | [number] =>
      have inner : between? "(" ")" (tuple [Text.ofNat number]) =
          some (Text.ofNat number ++ [CodePoint.ofChar ',']) := by
        rw [← between?_parts "(" (Text.ofNat number ++ [CodePoint.ofChar ',']) ")"]
        simp [tuple]
        rfl
      have read := listed_ofNat [number]
      simp only [List.map_cons, List.map_nil, Text.join_singleton] at read ⊢
      simp [tupleNumbers?, inner, read]
  | first :: second :: others =>
      have inner : between? "(" ")" (tuple ((first :: second :: others).map Text.ofNat)) =
          some (Text.join ", " ((first :: second :: others).map Text.ofNat)) := by
        rw [← between?_parts "(" (Text.join ", " ((first :: second :: others).map Text.ofNat)) ")"]
        simp [tuple]
      have read := listed_ofNat (first :: second :: others)
      have last := getLast?_join_ofNat (first :: second :: others)
      simp only [tupleNumbers?, inner, Option.bind_eq_bind, Option.bind_some]
      generalize Text.join ", " ((first :: second :: others).map Text.ofNat) = text at last read ⊢
      cases ends : text.getLast? with
      | none => simpa using read
      | some point =>
          have apart : point ≠ CodePoint.ofChar ',' := fun same => last (by rw [ends, same])
          simpa [apart] using read

end EventForge.ModuleText
