import EventForge.Proofs.Json.Strings
import EventForge.Proofs.Text.Pieces

/-!
# Values from their text

A value is determined by its text on one line, whatever stands behind it, as long as no text in it
holds surrogates.  Its members in the order of their keys are the members that it has.
-/

namespace EventForge

namespace Text

instance (text : Text) : Decidable text.IsAscii :=
  decidable_of_iff (text.all fun point => point.val < 128) (by simp [IsAscii])

instance (text : Text) : Decidable text.IsScalar :=
  decidable_of_iff (text.all fun point => !point.isSurrogate) (by simp [IsScalar])

theorem IsAscii.isScalar {text : Text} (ascii : text.IsAscii) : text.IsScalar := by
  intro point member
  have small := ascii point member
  have below : ¬0xD800 ≤ point.val := by omega
  simp [CodePoint.isSurrogate, below]

theorem isAscii_ofNat (number : Nat) : (ofNat number).IsAscii := by
  intro point member
  have digit :=
    (CodePoint.isAsciiDigit_iff point).mp (isAsciiDigit_of_mem_ofNat number point member)
  omega

theorem isAscii_join (separator : Text) (pieces : List Text) (between : separator.IsAscii)
    (each : ∀ piece ∈ pieces, piece.IsAscii) : (join separator pieces).IsAscii := by
  intro point member
  rcases mem_join separator pieces point member with own | inside
  · exact between point own
  · obtain ⟨piece, listed, own⟩ := List.mem_flatten.mp inside
    exact each piece listed point own

end Text

namespace Json

/-- Whether the keys and the texts in a value hold no surrogates. -/
inductive IsScalar : Json → Prop
  | null : IsScalar .null
  | bool (value : Bool) : IsScalar (.bool value)
  | integer (value : Int) : IsScalar (.integer value)
  | text (value : Text) (scalar : value.IsScalar) : IsScalar (.text value)
  | list (items : List Json) (each : ∀ item ∈ items, IsScalar item) : IsScalar (.list items)
  | object (members : List (Text × Json)) (keys : ∀ entry ∈ members, entry.1.IsScalar)
      (each : ∀ entry ∈ members, IsScalar entry.2) : IsScalar (.object members)

theorem compactItems_eq (items : List Json) : compactItems items = items.map compact := by
  induction items with
  | nil => rfl
  | cons item items ih => rw [compactItems, ih, List.map_cons]

/-- A member on one line. -/
def compactMember (entry : Text × Json) : Text :=
  asciiString entry.1 ++ (":" : Text) ++ compact entry.2

theorem compactMembers_eq (members : List (Text × Json)) :
    compactMembers members = members.map compactMember := by
  induction members with
  | nil => rfl
  | cons entry members ih => rw [compactMembers, ih, List.map_cons]; rfl

/-!
## The text of a value is ASCII
-/

theorem isAscii_numbered (number : Nat) (small : number < 0x10000) : (numbered number).IsAscii := by
  have lead : Text.IsAscii "\\u" := by decide
  refine lead.append ?_
  rw [Text.ofHex_four number small]
  intro point member
  simp only [List.mem_cons, List.not_mem_nil, or_false] at member
  rcases member with rfl | rfl | rfl | rfl <;> exact Text.hexDigit_val_lt _ (by omega)

theorem isAscii_asciiPoint (point : CodePoint) : (asciiPoint point).IsAscii := by
  have letters : ∀ entry ∈ lettered, Text.IsAscii [CodePoint.ofChar '\\', entry.2] :=
    forall_lettered _ (by decide) (by decide) (by decide) (by decide) (by decide) (by decide)
      (by decide)
  rcases asciiPoint_cases point with ⟨letter, listed, written⟩ | ⟨written, bounds, _⟩ |
    ⟨written, basic⟩ | ⟨high, low, written, highs, lows, _⟩
  · rw [written]
    exact letters _ listed
  · rw [written]
    intro other member
    rw [List.mem_singleton.mp member]
    exact bounds.2
  · rw [written]
    exact isAscii_numbered point.val basic
  · rw [written]
    exact (isAscii_numbered high (by omega)).append (isAscii_numbered low (by omega))

theorem isAscii_asciiString (text : Text) : (asciiString text).IsAscii := by
  have quote : Text.IsAscii "\"" := by decide
  have body : Text.IsAscii (text.flatMap asciiPoint) := by
    intro point member
    obtain ⟨source, _, own⟩ := List.mem_flatMap.mp member
    exact isAscii_asciiPoint source point own
  exact (quote.append body).append quote

theorem isAscii_compact (value : Json) (scalar : value.IsScalar) : (compact value).IsAscii := by
  have comma : Text.IsAscii "," := by decide
  induction scalar with
  | null => exact (by decide : Text.IsAscii "null")
  | bool value => cases value <;> decide
  | integer value =>
      cases value with
      | ofNat number => exact Text.isAscii_ofNat number
      | negSucc number =>
          exact (by decide : Text.IsAscii "-").append (Text.isAscii_ofNat (number + 1))
  | text value _ => exact isAscii_asciiString value
  | list items _ ih =>
      rw [compact, compactItems_eq]
      refine ((by decide : Text.IsAscii "[").append ?_).append (by decide : Text.IsAscii "]")
      refine Text.isAscii_join _ _ comma fun piece member => ?_
      obtain ⟨item, listed, rfl⟩ := List.mem_map.mp member
      exact ih item listed
  | object members _ _ ih =>
      rw [compact, compactMembers_eq]
      refine ((by decide : Text.IsAscii "\x7b").append ?_).append (by decide : Text.IsAscii "\x7d")
      refine Text.isAscii_join _ _ comma fun piece member => ?_
      obtain ⟨entry, listed, rfl⟩ := List.mem_map.mp member
      exact ((isAscii_asciiString entry.1).append (by decide : Text.IsAscii ":")).append
        (ih entry listed)

/-!
## What stands behind a value

Behind a value on one line stands a comma, a closing bracket or nothing.
-/

/-- Whether a value can end in front of a text. -/
def Ends (rest : Text) : Prop :=
  ∀ point, rest.head? = some point →
    point = CodePoint.ofChar ',' ∨ point = CodePoint.ofChar ']' ∨ point = CodePoint.ofChar '\x7d'

theorem ends_nil : Ends [] := by simp [Ends]

theorem ends_cons (point : CodePoint) (rest : Text) (ending : point = CodePoint.ofChar ',' ∨
    point = CodePoint.ofChar ']' ∨ point = CodePoint.ofChar '\x7d') : Ends (point :: rest) := by
  intro first same
  rwa [← Option.some.inj same]

/-- The digits in front of a text that begins with none. -/
theorem digits_append_injective (first second rest others : Text)
    (firstDigits : ∀ point ∈ first, point.isAsciiDigit = true)
    (secondDigits : ∀ point ∈ second, point.isAsciiDigit = true) (ends : Ends rest)
    (otherEnds : Ends others) (same : first ++ rest = second ++ others) :
    first = second ∧ rest = others := by
  have stops : ∀ rest, Ends rest → rest.takeWhile CodePoint.isAsciiDigit = [] := by
    intro rest ends
    cases rest with
    | nil => rfl
    | cons point rest =>
        have other : point.isAsciiDigit = false := by
          rcases ends point rfl with rfl | rfl | rfl <;> decide
        rw [List.takeWhile_cons, other]
        rfl
  have digits : first = second := by
    have taken := congrArg (List.takeWhile CodePoint.isAsciiDigit) same
    rwa [List.takeWhile_append_of_pos firstDigits, List.takeWhile_append_of_pos secondDigits,
      stops rest ends, stops others otherEnds, List.append_nil, List.append_nil] at taken
  subst digits
  exact ⟨rfl, List.append_cancel_left same⟩

theorem ofInt_append_injective (first second : Int) (rest others : Text) (ends : Ends rest)
    (otherEnds : Ends others) (same : Text.ofInt first ++ rest = Text.ofInt second ++ others) :
    first = second ∧ rest = others := by
  have minus : CodePoint.isAsciiDigit 0x2D = false := by decide
  have digits := Text.isAsciiDigit_of_mem_ofNat
  -- A numeral begins with a digit and not with a sign.
  have unsigned (number : Nat) (rest later : Text) :
      Text.ofNat number ++ rest ≠ (0x2D : CodePoint) :: later := by
    intro same
    obtain ⟨point, behind, split⟩ := List.exists_cons_of_ne_nil (Text.ofNat_ne_nil number)
    rw [split, List.cons_append, List.cons.injEq] at same
    have digit := digits number point (by simp [split])
    rw [same.1, minus] at digit
    cases digit
  cases first with
  | ofNat number =>
      cases second with
      | ofNat other =>
          obtain ⟨numeral, rfl⟩ := digits_append_injective _ _ rest others (digits number)
            (digits other) ends otherEnds same
          rw [Text.ofNat_injective _ _ numeral]
          exact ⟨rfl, rfl⟩
      | negSucc other => exact absurd same (unsigned number rest _)
  | negSucc number =>
      cases second with
      | ofNat other => exact absurd same.symm (unsigned other others _)
      | negSucc other =>
          obtain ⟨numeral, rfl⟩ := digits_append_injective _ _ rest others (digits (number + 1))
            (digits (other + 1)) ends otherEnds (List.cons.inj same).2
          rw [Nat.succ.inj (Text.ofNat_injective _ _ numeral)]
          exact ⟨rfl, rfl⟩

/-!
## What a value begins with
-/

/-- The kind of value that a code point begins, by a number; the last one is no beginning. -/
def begun (point : CodePoint) : Nat :=
  if point = 'n' then 0
  else if point = 't' then 1
  else if point = 'f' then 2
  else if point = '"' then 3
  else if point = '[' then 4
  else if point = '\x7b' then 5
  else if point.isAsciiDigit || point = '-' then 6
  else 7

/-- The kind of a value. -/
def kind : Json → Nat
  | .null => 0
  | .bool value => if value then 1 else 2
  | .text _ => 3
  | .list _ => 4
  | .object _ => 5
  | .integer _ => 6

theorem begun_digit (point : CodePoint) (digit : point.isAsciiDigit = true) : begun point = 6 := by
  have apart : ∀ other : CodePoint, other.isAsciiDigit = false → point ≠ other := by
    rintro _ noDigit rfl
    rw [digit] at noDigit
    cases noDigit
  rw [begun, if_neg (apart _ (by decide)), if_neg (apart _ (by decide)),
    if_neg (apart _ (by decide)), if_neg (apart _ (by decide)), if_neg (apart _ (by decide)),
    if_neg (apart _ (by decide)), digit]
  rfl

/-- The text of a value begins as its kind does. -/
theorem begun_compact (value : Json) :
    ∃ point rest, compact value = point :: rest ∧ begun point = value.kind := by
  cases value with
  | bool value => cases value <;> exact ⟨_, _, rfl, rfl⟩
  | integer value =>
      cases value with
      | ofNat number =>
          obtain ⟨point, rest, split⟩ := List.exists_cons_of_ne_nil (Text.ofNat_ne_nil number)
          exact ⟨point, rest, by rw [compact, Text.ofInt, split],
            begun_digit point (Text.isAsciiDigit_of_mem_ofNat number point (by simp [split]))⟩
      | negSucc number => exact ⟨_, _, rfl, rfl⟩
  | _ => exact ⟨_, _, rfl, rfl⟩

theorem kind_eq_of_append (first second : Json) (rest others : Text)
    (same : compact first ++ rest = compact second ++ others) : first.kind = second.kind := by
  obtain ⟨point, behind, split, begins⟩ := begun_compact first
  obtain ⟨other, later, otherSplit, otherBegins⟩ := begun_compact second
  rw [split, otherSplit, List.cons_append, List.cons_append, List.cons.injEq] at same
  rw [← begins, same.1, otherBegins]

/-!
## Lists of pieces
-/

/-- What stands behind a piece: the closing bracket, or a comma and the other pieces. -/
def behindPiece {Item : Type} (write : Item → Text) (closing : CodePoint) (rest : Text) :
    List Item → Text
  | [] => closing :: rest
  | next :: items =>
      CodePoint.ofChar ',' :: (Text.join "," ((next :: items).map write) ++ closing :: rest)

theorem ends_behindPiece {Item : Type} (write : Item → Text) {closing : CodePoint}
    (closes : closing = CodePoint.ofChar ']' ∨ closing = CodePoint.ofChar '\x7d') (rest : Text)
    (items : List Item) : Ends (behindPiece write closing rest items) := by
  cases items with
  | nil => exact ends_cons closing rest (.inr closes)
  | cons next items => exact ends_cons _ _ (.inl rfl)

theorem join_cons_append {Item : Type} (write : Item → Text) (closing : CodePoint) (rest : Text)
    (item : Item) (items : List Item) :
    Text.join "," ((item :: items).map write) ++ closing :: rest =
      write item ++ behindPiece write closing rest items := by
  have comma : ("," : Text) = [CodePoint.ofChar ','] := rfl
  cases items with
  | nil => rfl
  | cons next items =>
      rw [List.map_cons, List.map_cons, Text.join_cons_cons, behindPiece, List.map_cons, comma]
      simp

/-- Pieces that are determined by their texts are so together, up to a closing bracket that none of
them begins with, by induction on the pieces. -/
theorem join_append_injective {Item : Type} (write : Item → Text) (closing : CodePoint)
    (closes : closing = CodePoint.ofChar ']' ∨ closing = CodePoint.ofChar '\x7d')
    (items seconds : List Item)
    (inhabited : ∀ item, ∃ point rest, write item = point :: rest ∧ point ≠ closing)
    (each : ∀ item ∈ items, ∀ second ∈ seconds, ∀ rest others, Ends rest → Ends others →
      write item ++ rest = write second ++ others → item = second ∧ rest = others)
    (rest others : Text)
    (same : Text.join "," (items.map write) ++ closing :: rest =
      Text.join "," (seconds.map write) ++ closing :: others) :
    items = seconds ∧ rest = others := by
  have differ : closing ≠ CodePoint.ofChar ',' := by
    rcases closes with rfl | rfl <;> decide
  induction items generalizing seconds rest others with
  | nil =>
      cases seconds with
      | nil => exact ⟨rfl, (List.cons.inj same).2⟩
      | cons second seconds =>
          obtain ⟨point, later, written, apart⟩ := inhabited second
          rw [join_cons_append, written] at same
          exact absurd (List.cons.inj same).1.symm apart
  | cons item items ih =>
      cases seconds with
      | nil =>
          obtain ⟨point, later, written, apart⟩ := inhabited item
          rw [join_cons_append, written] at same
          exact absurd (List.cons.inj same).1 apart
      | cons second seconds =>
          rw [join_cons_append, join_cons_append] at same
          obtain ⟨rfl, tails⟩ := each item (by simp) second (by simp) _ _
            (ends_behindPiece write closes rest items) (ends_behindPiece write closes others seconds)
            same
          have later := ih seconds (fun item member second secondMember =>
            each item (by simp [member]) second (by simp [secondMember])) rest others
          cases items with
          | nil =>
              cases seconds with
              | nil => exact ⟨rfl, (List.cons.inj tails).2⟩
              | cons next seconds => exact absurd (List.cons.inj tails).1 differ
          | cons next items =>
              cases seconds with
              | nil => exact absurd (List.cons.inj tails).1.symm differ
              | cons other seconds =>
                  obtain ⟨others, rests⟩ := later (List.cons.inj tails).2
                  rw [others]
                  exact ⟨rfl, rests⟩

/-- Values of one kind are the same or hold integers, texts, lists or members. -/
theorem cases_of_kind_eq (first second : Json) (same : first.kind = second.kind) :
    first = second ∨ (∃ value other, first = .integer value ∧ second = .integer other) ∨
      (∃ value other, first = .text value ∧ second = .text other) ∨
      (∃ items others, first = .list items ∧ second = .list others) ∨
      ∃ members others, first = .object members ∧ second = .object others := by
  cases first <;> cases second <;> grind [kind]

theorem list_append_eq (items : List Json) (rest : Text) : compact (.list items) ++ rest =
    CodePoint.ofChar '[' ::
      (Text.join "," (items.map compact) ++ CodePoint.ofChar ']' :: rest) := by
  rw [compact, compactItems_eq]
  simp
  rfl

theorem object_append_eq (members : List (Text × Json)) (rest : Text) :
    compact (.object members) ++ rest = CodePoint.ofChar '\x7b' ::
      (Text.join "," (members.map compactMember) ++ CodePoint.ofChar '\x7d' :: rest) := by
  rw [compact, compactMembers_eq]
  simp
  rfl

theorem compactMember_append_eq (entry : Text × Json) (rest : Text) :
    compactMember entry ++ rest =
      asciiString entry.1 ++ (CodePoint.ofChar ':' :: (compact entry.2 ++ rest)) := by
  simp [compactMember]
  rfl

theorem compact_starts (value : Json) :
    ∃ point rest, compact value = point :: rest ∧ point ≠ CodePoint.ofChar ']' := by
  obtain ⟨point, rest, written, begins⟩ := begun_compact value
  refine ⟨point, rest, written, ?_⟩
  rintro rfl
  have closing : begun (CodePoint.ofChar ']') = 7 := by decide
  rw [closing] at begins
  cases value with
  | bool value => cases value <;> cases begins
  | _ => cases begins

/-- A value is determined by its text on one line, whatever stands behind it. -/
theorem compact_append_injective (first second : Json) (scalar : first.IsScalar)
    (secondScalar : second.IsScalar) (rest others : Text) (ends : Ends rest)
    (otherEnds : Ends others) (same : compact first ++ rest = compact second ++ others) :
    first = second ∧ rest = others := by
  rcases cases_of_kind_eq first second (kind_eq_of_append first second rest others same) with
    rfl | ⟨value, other, firstIs, secondIs⟩ | ⟨value, other, firstIs, secondIs⟩ |
    ⟨items, seconds, firstIs, secondIs⟩ | ⟨members, seconds, firstIs, secondIs⟩
  · exact ⟨rfl, List.append_cancel_left same⟩
  · rw [firstIs, secondIs] at same ⊢
    obtain ⟨rfl, rests⟩ := ofInt_append_injective value other rest others ends otherEnds same
    exact ⟨rfl, rests⟩
  · rw [firstIs] at scalar same ⊢
    rw [secondIs] at secondScalar same ⊢
    cases scalar with
    | text _ scalar =>
        cases secondScalar with
        | text _ secondScalar =>
            obtain ⟨rfl, rests⟩ := asciiString_append_injective value other rest others scalar
              secondScalar same
            exact ⟨rfl, rests⟩
  · rw [firstIs] at scalar same
    rw [secondIs] at secondScalar same
    rw [list_append_eq, list_append_eq, List.cons.injEq] at same
    cases scalar with
    | list _ scalar =>
        cases secondScalar with
        | list _ secondScalar =>
            obtain ⟨equal, rests⟩ := join_append_injective compact _ (.inl rfl) items seconds
              compact_starts (fun item member second secondMember rest others ends otherEnds same =>
                compact_append_injective item second (scalar item member)
                  (secondScalar second secondMember) rest others ends otherEnds same)
              rest others same.2
            exact ⟨by rw [firstIs, secondIs, equal], rests⟩
  · rw [firstIs] at scalar same
    rw [secondIs] at secondScalar same
    rw [object_append_eq, object_append_eq, List.cons.injEq] at same
    cases scalar with
    | object _ keys scalar =>
        cases secondScalar with
        | object _ secondKeys secondScalar =>
            obtain ⟨equal, rests⟩ := join_append_injective compactMember _ (.inr rfl) members
              seconds (fun entry => ⟨_, _, rfl, by decide⟩)
              (fun entry member second secondMember rest others ends otherEnds same => by
                rw [compactMember_append_eq, compactMember_append_eq] at same
                obtain ⟨key, behind⟩ := asciiString_append_injective _ _ _ _ (keys entry member)
                  (secondKeys second secondMember) same
                obtain ⟨value, rests⟩ := compact_append_injective entry.2 second.2
                  (scalar entry member) (secondScalar second secondMember) rest others ends otherEnds
                  (List.cons.inj behind).2
                exact ⟨Prod.ext key value, rests⟩)
              rest others same.2
            exact ⟨by rw [firstIs, secondIs, equal], rests⟩
termination_by sizeOf first
decreasing_by
  · have smaller := List.sizeOf_lt_of_mem member
    rw [firstIs, Json.list.sizeOf_spec]
    omega
  · have smaller := List.sizeOf_lt_of_mem member
    obtain ⟨key, value⟩ := entry
    rw [firstIs, Json.object.sizeOf_spec]
    simp only [Prod.mk.sizeOf_spec] at smaller ⊢
    omega

/-- Values with the same text are the same. -/
theorem compact_injective (first second : Json) (scalar : first.IsScalar)
    (secondScalar : second.IsScalar) (same : compact first = compact second) : first = second :=
  (compact_append_injective first second scalar secondScalar [] [] ends_nil ends_nil
    (by rw [same])).1

/-!
## Sorted members
-/

theorem sortedItems_eq (items : List Json) : sortedItems items = items.map sorted := by
  induction items with
  | nil => rfl
  | cons item items ih => rw [sortedItems, ih, List.map_cons]

theorem sortedMembers_eq (members : List (Text × Json)) :
    sortedMembers members = members.map fun entry => (entry.1, entry.2.sorted) := by
  induction members with
  | nil => rfl
  | cons entry members ih => rw [sortedMembers, ih, List.map_cons]

theorem mem_sortMembers (members : List (Text × Json)) (entry : Text × Json) :
    entry ∈ sortMembers members ↔ entry ∈ members :=
  (List.mergeSort_perm members _).mem_iff

/-- Sorting the members of a value leaves its texts as they are. -/
theorem IsScalar.sorted {value : Json} (scalar : value.IsScalar) : value.sorted.IsScalar := by
  induction scalar with
  | null => exact .null
  | bool value => exact .bool value
  | integer value => exact .integer value
  | text value scalar => exact .text value scalar
  | list items _ ih =>
      refine .list _ fun item member => ?_
      rw [sortedItems_eq] at member
      obtain ⟨own, ownMember, rfl⟩ := List.mem_map.mp member
      exact ih own ownMember
  | object members keys _ ih =>
      have each : ∀ entry ∈ sortMembers (sortedMembers members), ∃ own ∈ members,
          (own.1, own.2.sorted) = entry := by
        intro entry member
        rw [mem_sortMembers, sortedMembers_eq] at member
        exact List.mem_map.mp member
      refine .object _ (fun entry member => ?_) fun entry member => ?_
      · obtain ⟨own, ownMember, rfl⟩ := each entry member
        exact keys own ownMember
      · obtain ⟨own, ownMember, rfl⟩ := each entry member
        exact ih own ownMember

/-- Objects that are sorted to the same value have the same members. -/
theorem mem_of_sorted_eq (members seconds : List (Text × Json))
    (same : (Json.object members).sorted = (Json.object seconds).sorted) (entry : Text × Json)
    (member : entry ∈ members) : ∃ other ∈ seconds,
      other.1 = entry.1 ∧ other.2.sorted = entry.2.sorted := by
  have alike : sortMembers (sortedMembers members) = sortMembers (sortedMembers seconds) :=
    Json.object.inj same
  have listed : (entry.1, entry.2.sorted) ∈ sortMembers (sortedMembers members) := by
    rw [mem_sortMembers, sortedMembers_eq]
    exact List.mem_map.mpr ⟨entry, member, rfl⟩
  rw [alike, mem_sortMembers, sortedMembers_eq] at listed
  obtain ⟨other, otherMember, found⟩ := List.mem_map.mp listed
  obtain ⟨key, value⟩ := Prod.mk.inj found
  exact ⟨other, otherMember, key, value⟩

end Json

end EventForge
