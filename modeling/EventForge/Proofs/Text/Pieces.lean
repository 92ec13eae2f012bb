import EventForge.Text.Basic

/-!
# Parts of texts

Leading parts, what trimming leaves, pieces between separators, and words between blanks.
-/

/-!
## Leading parts

What is left behind a leading part is the text that the part was put in front of.  A text that
differs from a leading part at one of its first places does not begin with it, whatever it goes on
with.
-/

namespace EventForge.Text

@[simp] theorem dropLead?_nil (text : Text) : dropLead? text [] = some text := by
  cases text <;> rfl

@[simp] theorem dropLead?_cons_self (point : CodePoint) (text lead : Text) :
    dropLead? (point :: text) (point :: lead) = dropLead? text lead := by
  simp [dropLead?]

@[simp] theorem dropLead?_append (lead rest : Text) : dropLead? (lead ++ rest) lead = some rest := by
  induction lead with
  | nil => simp
  | cons point lead ih => rw [List.cons_append, dropLead?_cons_self, ih]

@[simp] theorem dropLead?_append_append (first text lead : Text) :
    dropLead? (first ++ text) (first ++ lead) = dropLead? text lead := by
  induction first with
  | nil => rfl
  | cons point first ih => rw [List.cons_append, List.cons_append, dropLead?_cons_self, ih]

theorem dropLead?_eq_some_iff (text lead rest : Text) :
    dropLead? text lead = some rest ↔ text = lead ++ rest := by
  constructor
  · induction lead generalizing text with
    | nil => simp
    | cons point lead ih =>
        cases text with
        | nil => simp [dropLead?]
        | cons head text =>
            rw [dropLead?]
            split
            · rename_i same
              intro found
              rw [same, ih text found, List.cons_append]
            · simp
  · rintro rfl
    exact dropLead?_append lead rest

/-- A text without a leading part has no longer one that begins with it. -/
theorem dropLead?_append_eq_none (text lead more : Text) (absent : dropLead? text lead = none) :
    dropLead? text (lead ++ more) = none := by
  cases found : dropLead? text (lead ++ more) with
  | none => rfl
  | some rest =>
      rw [(dropLead?_eq_some_iff _ _ _).mp found, List.append_assoc, dropLead?_append] at absent
      cases absent

/-- Whether two texts differ at a place that both have. -/
def areApart : Text → Text → Bool
  | point :: text, leadPoint :: lead => point ≠ leadPoint || areApart text lead
  | _, _ => false

theorem dropLead?_of_areApart (text lead : Text) (apart : areApart text lead = true) (rest : Text) :
    dropLead? (text ++ rest) lead = none := by
  induction text generalizing lead with
  | nil => simp [areApart] at apart
  | cons point text ih =>
      cases lead with
      | nil => simp [areApart] at apart
      | cons leadPoint lead =>
          rw [List.cons_append, dropLead?]
          split
          · rename_i same
            rw [areApart, same] at apart
            exact ih lead (by simpa using apart)
          · rfl

theorem join_append_singleton (separator : Text) (pieces : List Text) (last : Text)
    (inhabited : pieces ≠ []) :
    join separator (pieces ++ [last]) = join separator pieces ++ separator ++ last := by
  induction pieces with
  | nil => exact absurd rfl inhabited
  | cons piece pieces ih =>
      cases pieces with
      | nil => rfl
      | cons next pieces =>
          have joined := ih (by simp)
          simp only [List.cons_append] at joined ⊢
          simp only [join, joined, List.append_assoc]

theorem length_le_join (separator : Text) (pieces : List Text)
    (inhabited : ∀ piece ∈ pieces, piece ≠ []) :
    pieces.length ≤ (join separator pieces).length := by
  induction pieces with
  | nil => simp [join]
  | cons piece pieces ih =>
      have positive := List.length_pos_iff.mpr (inhabited piece (by simp))
      cases pieces with
      | nil => exact positive
      | cons next pieces =>
          have others := ih fun other member => inhabited other (by simp [member])
          simp only [join, List.length_append, List.length_cons] at others ⊢
          omega

end EventForge.Text

/-!
## Trimming
-/

namespace EventForge.Text

section

variable (drop : CodePoint → Bool)

theorem dropWhile_append_kept (lead rest : Text) (dropped : ∀ point ∈ lead, drop point = true)
    (kept : ∀ point ∈ rest.head?, drop point = false) : (lead ++ rest).dropWhile drop = rest := by
  rw [List.dropWhile_append_of_pos dropped]
  cases rest with
  | nil => rfl
  | cons point rest => exact List.dropWhile_cons_of_neg (by simp [kept point rfl])

/-- Trimming takes away what is dropped on both sides of what is not. -/
theorem trim_append (lead text trail : Text) (leads : ∀ point ∈ lead, drop point = true)
    (trails : ∀ point ∈ trail, drop point = true) (kept : ∀ point ∈ text, drop point = false) :
    trim drop (lead ++ (text ++ trail)) = text := by
  cases text with
  | nil =>
      have all : ∀ point ∈ lead ++ trail, drop point = true := by
        simpa [or_imp, forall_and] using ⟨leads, trails⟩
      have none := dropWhile_append_kept drop (lead ++ trail) [] all (by simp)
      rw [List.append_nil] at none
      rw [List.nil_append, trim, none]
      rfl
  | cons point text =>
      have front := dropWhile_append_kept drop lead ((point :: text) ++ trail) leads
        (by simpa using kept point (by simp))
      have back := dropWhile_append_kept drop trail.reverse (point :: text).reverse (by simpa using trails)
        fun last head => kept last (List.mem_reverse.mp (List.mem_of_mem_head? head))
      rw [trim, front, List.reverse_append, back, List.reverse_reverse]

/-- Trimming takes away nothing but what is dropped. -/
theorem exists_trim (text : Text) :
    ∃ lead trail, text = lead ++ (trim drop text ++ trail) ∧ (∀ point ∈ lead, drop point = true) ∧
      ∀ point ∈ trail, drop point = true := by
  refine ⟨text.takeWhile drop, ((text.dropWhile drop).reverse.takeWhile drop).reverse, ?_, ?_, ?_⟩
  · rw [trim, ← List.reverse_append, List.takeWhile_append_dropWhile, List.reverse_reverse,
      List.takeWhile_append_dropWhile]
  · exact List.all_eq_true.mp List.all_takeWhile
  · intro point member
    exact List.all_eq_true.mp List.all_takeWhile point (List.mem_reverse.mp member)

end

end EventForge.Text

/-!
## Joining and splitting

Splitting at a separator undoes joining with it, as long as no piece holds the separator itself.
-/

namespace EventForge.Text

@[simp] theorem join_nil (separator : Text) : join separator [] = [] := rfl

@[simp] theorem join_singleton (separator piece : Text) : join separator [piece] = piece := rfl

theorem join_cons_cons (separator first second : Text) (pieces : List Text) :
    join separator (first :: second :: pieces) =
      first ++ separator ++ join separator (second :: pieces) := rfl

/-- Splitting leaves a text whole exactly if its first two code points do not separate and the rest
is left whole. -/
private theorem splitPair_eq_self_cons (first second point next : CodePoint) (rest : Text) :
    splitPair first second (point :: next :: rest) = [point :: next :: rest] ↔
      ¬(point = first ∧ next = second) ∧
        splitPair first second (next :: rest) = [next :: rest] := by
  rw [splitPair]
  split
  · simp_all
  · cases splitPair first second (next :: rest) with
    | nil => simp_all
    | cons piece pieces => simp_all

theorem splitPair_append (first second : CodePoint) (distinct : first ≠ second)
    (piece rest : Text) (whole : splitPair first second piece = [piece]) :
    splitPair first second (piece ++ first :: second :: rest) =
      piece :: splitPair first second rest := by
  induction piece with
  | nil => simp [splitPair]
  | cons point piece ih =>
      cases piece with
      | nil => simp [splitPair, distinct]
      | cons next piece =>
          obtain ⟨apart, wholeRest⟩ := (splitPair_eq_self_cons _ _ _ _ _).mp whole
          have split := ih wholeRest
          simp only [List.cons_append] at split ⊢
          rw [splitPair, if_neg apart, split]

theorem splitPair_join (first second : CodePoint) (distinct : first ≠ second)
    (pieces : List Text) (inhabited : pieces ≠ [])
    (whole : ∀ piece ∈ pieces, splitPair first second piece = [piece]) :
    splitPair first second (join [first, second] pieces) = pieces := by
  induction pieces with
  | nil => exact absurd rfl inhabited
  | cons piece pieces ih =>
      have wholePiece := whole piece (by simp)
      cases pieces with
      | nil => simpa using wholePiece
      | cons next pieces =>
          have splitRest := ih (by simp) fun other member => whole other (by simp [member])
          rw [join_cons_cons, List.append_assoc, List.cons_append, List.cons_append,
            List.nil_append, splitPair_append first second distinct _ _ wholePiece, splitRest]

/-- A text without the first of two separating code points is left whole. -/
theorem splitPair_of_not_mem (first second : CodePoint) (piece : Text) (absent : first ∉ piece) :
    splitPair first second piece = [piece] := by
  induction piece with
  | nil => rfl
  | cons point piece ih =>
      have wholeRest := ih fun member => absent (by simp [member])
      cases piece with
      | nil => rfl
      | cons next piece =>
          refine (splitPair_eq_self_cons _ _ _ _ _).mpr ⟨?_, wholeRest⟩
          rintro ⟨rfl, _⟩
          exact absent (by simp)

theorem splitPair_ne_nil (first second : CodePoint) (text : Text) :
    splitPair first second text ≠ [] := by
  fun_cases splitPair first second text <;> simp

theorem splitPair_eq_self_iff (first second : CodePoint) (text : Text) :
    splitPair first second text = [text] ↔ ¬[first, second] <:+: text := by
  induction text with
  | nil => simp [splitPair]
  | cons point text ih =>
      cases text with
      | nil => simp [splitPair, List.infix_cons_iff]
      | cons next text =>
          have leads : [first, second] <+: point :: next :: text ↔
              point = first ∧ next = second := by
            simp [List.cons_prefix_cons, eq_comm]
          rw [splitPair_eq_self_cons, ih, @List.infix_cons_iff _ _ point, leads, not_or]

/-- Joining with a separator undoes splitting at it. -/
theorem join_splitPair (first second : CodePoint) (text : Text) :
    join [first, second] (splitPair first second text) = text := by
  fun_induction splitPair first second text with
  | case1 => rfl
  | case2 point => rfl
  | case3 point next rest separates ih =>
      obtain ⟨rfl, rfl⟩ := separates
      cases pieces : splitPair point next rest with
      | nil => exact absurd pieces (splitPair_ne_nil _ _ _)
      | cons piece others =>
          rw [pieces] at ih
          rw [join_cons_cons, ih]
          rfl
  | case4 point next rest apart pieces ih => exact absurd pieces (splitPair_ne_nil _ _ _)
  | case5 point next rest apart piece others pieces ih =>
      rw [pieces] at ih
      cases others with
      | nil => rw [join_singleton, ← ih, join_singleton]
      | cons other others =>
          rw [join_cons_cons, ← ih, join_cons_cons]
          rfl

theorem splitAt_of_not_mem (separator : CodePoint) (piece : Text) (absent : separator ∉ piece) :
    splitAt separator piece = [piece] := by
  induction piece with
  | nil => rfl
  | cons point piece ih =>
      have apart : point ≠ separator := by
        rintro rfl
        exact absent (by simp)
      rw [splitAt, if_neg apart, ih fun member => absent (by simp [member])]

theorem splitAt_append (separator : CodePoint) (piece rest : Text) (absent : separator ∉ piece) :
    splitAt separator (piece ++ separator :: rest) = piece :: splitAt separator rest := by
  induction piece with
  | nil => simp [splitAt]
  | cons point piece ih =>
      have apart : point ≠ separator := by
        rintro rfl
        exact absent (by simp)
      rw [List.cons_append, splitAt, if_neg apart, ih fun member => absent (by simp [member])]

theorem splitAt_ne_nil (separator : CodePoint) (text : Text) : splitAt separator text ≠ [] := by
  cases text with
  | nil => exact List.cons_ne_nil _ _
  | cons point text =>
      rw [splitAt]
      split
      · exact List.cons_ne_nil _ _
      · split <;> exact List.cons_ne_nil _ _

theorem mem_splitAt (separator : CodePoint) (text : Text) :
    ∀ piece ∈ splitAt separator text, ∀ point ∈ piece, point ∈ text ∧ point ≠ separator := by
  induction text with
  | nil => simp [splitAt]
  | cons head text ih =>
      rw [splitAt]
      split
      · intro piece member point inside
        rcases List.mem_cons.mp member with rfl | member
        · simp at inside
        · exact ⟨List.mem_cons_of_mem _ (ih piece member point inside).1,
            (ih piece member point inside).2⟩
      · rename_i apart
        cases split : splitAt separator text with
        | nil => simp [apart]
        | cons first pieces =>
            rw [split] at ih
            intro piece member point inside
            rcases List.mem_cons.mp member with rfl | member
            · rcases List.mem_cons.mp inside with rfl | inside
              · exact ⟨by simp, apart⟩
              · have old := ih first (by simp) point inside
                exact ⟨List.mem_cons_of_mem _ old.1, old.2⟩
            · have old := ih piece (by simp [member]) point inside
              exact ⟨List.mem_cons_of_mem _ old.1, old.2⟩

/-- A point behind a text goes to its last piece. -/
theorem splitAt_concat (separator point : CodePoint) (text : Text) (apart : point ≠ separator) :
    ∃ front last, splitAt separator text = front ++ [last] ∧
      splitAt separator (text ++ [point]) = front ++ [last ++ [point]] := by
  induction text with
  | nil => exact ⟨[], [], rfl, by simp [splitAt, apart]⟩
  | cons head text ih =>
      obtain ⟨front, last, own, longer⟩ := ih
      rw [List.cons_append, splitAt, splitAt, own, longer]
      by_cases same : head = separator
      · exact ⟨[] :: front, last, by simp [same], by simp [same]⟩
      · cases front with
        | nil => exact ⟨[], head :: last, by simp [same], by simp [same]⟩
        | cons first front => exact ⟨(head :: first) :: front, last, by simp [same], by simp [same]⟩

/-- A piece begins with what stands behind a separator. -/
theorem exists_piece (separator : CodePoint) (front start back : Text) (absent : separator ∉ start) :
    ∃ piece ∈ splitAt separator (front ++ separator :: (start ++ back)),
      piece.startsWith start = true := by
  have begins : ∃ rest pieces, splitAt separator (start ++ back) = (start ++ rest) :: pieces := by
    induction start with
    | nil =>
        cases split : splitAt separator back with
        | nil => exact absurd split (splitAt_ne_nil separator back)
        | cons piece pieces => exact ⟨piece, pieces, split⟩
    | cons point start ih =>
        obtain ⟨rest, pieces, split⟩ := ih fun member => absent (by simp [member])
        have apart : point ≠ separator := by
          rintro rfl
          exact absent (by simp)
        exact ⟨rest, pieces, by rw [List.cons_append, splitAt, if_neg apart, split]; rfl⟩
  obtain ⟨rest, others, begins⟩ := begins
  have behind : ∃ first pieces, splitAt separator (front ++ separator :: (start ++ back)) =
      first :: pieces ∧ start ++ rest ∈ pieces := by
    induction front with
    | nil => exact ⟨[], _, by rw [List.nil_append, splitAt, if_pos rfl], by simp [begins]⟩
    | cons point front ih =>
        obtain ⟨first, pieces, split, member⟩ := ih
        rw [List.cons_append, splitAt, split]
        by_cases same : point = separator
        · exact ⟨[], first :: pieces, by rw [if_pos same], by simp [member]⟩
        · exact ⟨point :: first, pieces, by rw [if_neg same], member⟩
  obtain ⟨first, pieces, split, member⟩ := behind
  refine ⟨start ++ rest, by rw [split]; exact List.mem_cons_of_mem _ member, ?_⟩
  rw [startsWith, List.isPrefixOf_iff_prefix]
  exact List.prefix_append _ _

theorem splitAt_join (separator : CodePoint) (pieces : List Text) (inhabited : pieces ≠ [])
    (absent : ∀ piece ∈ pieces, separator ∉ piece) :
    splitAt separator (join [separator] pieces) = pieces := by
  induction pieces with
  | nil => exact absurd rfl inhabited
  | cons piece pieces ih =>
      have absentPiece := absent piece (by simp)
      cases pieces with
      | nil => exact splitAt_of_not_mem separator piece absentPiece
      | cons next pieces =>
          have splitRest := ih (by simp) fun other member => absent other (by simp [member])
          rw [join_cons_cons, List.append_assoc, List.cons_append, List.nil_append,
            splitAt_append separator _ _ absentPiece, splitRest]

end EventForge.Text

/-!
## Words

The words of a text hold no blanks and are never empty, and words that are joined by single blanks
are the words of what they make.
-/

namespace EventForge.Text

/-- Whether a text is a word: neither empty nor with a blank in it. -/
def IsWord (text : Text) : Prop := text ≠ [] ∧ ∀ point ∈ text, point.isBlank = false

theorem mem_wordsFrom (begun text : Text) (whole : ∀ point ∈ begun, point.isBlank = false) :
    ∀ word ∈ wordsFrom begun text, IsWord word := by
  have added : ∀ (begun : Text) (words : List Text), (∀ point ∈ begun, point.isBlank = false) →
      (∀ word ∈ words, IsWord word) → ∀ word ∈ addWord begun words, IsWord word := by
    intro begun words bare others word member
    unfold addWord at member
    split at member
    · exact others word member
    · rename_i inhabited
      rcases List.mem_cons.mp member with rfl | member
      · exact ⟨by simpa using inhabited, bare⟩
      · exact others word member
  induction text generalizing begun with
  | nil => exact added begun [] whole (by simp)
  | cons point text ih =>
      rw [wordsFrom]
      split
      · exact added begun _ whole (ih [] (by simp))
      · rename_i bare
        apply ih
        intro other member
        rcases List.mem_append.mp member with earlier | last
        · exact whole other earlier
        · rw [List.mem_singleton.mp last]
          simpa using bare

theorem isWord_of_mem_words (text : Text) : ∀ word ∈ words text, IsWord word :=
  mem_wordsFrom [] text (by simp)

/-- The code points of the words are those of the text that are no blanks. -/
theorem mem_flatten_wordsFrom (begun text : Text) (point : CodePoint) :
    point ∈ (wordsFrom begun text).flatten ↔
      point ∈ begun ∨ (point ∈ text ∧ point.isBlank = false) := by
  have added : ∀ (begun : Text) (words : List Text),
      point ∈ (addWord begun words).flatten ↔ point ∈ begun ∨ point ∈ words.flatten := by
    intro begun words
    unfold addWord
    split
    · rename_i empty
      simp [List.isEmpty_iff.mp empty]
    · simp
  induction text generalizing begun with
  | nil => simp [wordsFrom, added]
  | cons head text ih =>
      rw [wordsFrom]
      split
      · rename_i blank
        have rest := ih []
        rw [added]
        grind
      · rename_i bare
        have rest := ih (begun ++ [head])
        grind

theorem mem_flatten_words (text : Text) (point : CodePoint) :
    point ∈ (words text).flatten ↔ point ∈ text ∧ point.isBlank = false := by
  simpa [words] using mem_flatten_wordsFrom [] text point

theorem wordsFrom_append (begun word rest : Text) (bare : ∀ point ∈ word, point.isBlank = false) :
    wordsFrom begun (word ++ rest) = wordsFrom (begun ++ word) rest := by
  induction word generalizing begun with
  | nil => simp
  | cons point word ih =>
      rw [List.cons_append, wordsFrom, bare point (by simp)]
      simp only [Bool.false_eq_true, if_false]
      rw [ih _ fun other member => bare other (by simp [member]), List.append_assoc]
      rfl

/-- Words that single blanks join are the words of the text. -/
theorem words_join (pieces : List Text) (every : ∀ piece ∈ pieces, IsWord piece) :
    words (join " " pieces) = pieces := by
  induction pieces with
  | nil => rfl
  | cons piece pieces ih =>
      obtain ⟨inhabited, bare⟩ := every piece (by simp)
      have present : piece.isEmpty = false := by simpa using inhabited
      cases pieces with
      | nil =>
          rw [join_singleton, words, ← List.append_nil piece, wordsFrom_append _ _ _ bare,
            List.nil_append, wordsFrom, addWord, present]
          simp
      | cons next pieces =>
          have others := ih fun other member => every other (by simp [member])
          have blank : CodePoint.isBlank (CodePoint.ofChar ' ') = true := by decide
          have gap : ∀ rest : Text, (" " : Text) ++ rest = CodePoint.ofChar ' ' :: rest :=
            fun _ => rfl
          rw [words] at others
          rw [join_cons_cons, List.append_assoc, words, wordsFrom_append _ _ _ bare,
            List.nil_append, gap, wordsFrom, blank, if_pos rfl, others, addWord, present]
          rfl

theorem mem_join (separator : Text) (pieces : List Text) (point : CodePoint)
    (member : point ∈ join separator pieces) : point ∈ separator ∨ point ∈ pieces.flatten := by
  induction pieces with
  | nil => simp at member
  | cons piece pieces ih =>
      cases pieces with
      | nil => exact Or.inr (by simpa using member)
      | cons next pieces =>
          rw [join_cons_cons, List.mem_append, List.mem_append] at member
          rcases member with (own | between) | later
          · exact Or.inr (by simp [own])
          · exact Or.inl between
          · rcases ih later with between | inside
            · exact Or.inl between
            · exact Or.inr (by rw [List.flatten_cons, List.mem_append]; exact Or.inr inside)

theorem mem_join_of_mem_flatten (separator : Text) (pieces : List Text) (point : CodePoint)
    (member : point ∈ pieces.flatten) : point ∈ join separator pieces := by
  induction pieces with
  | nil => simp at member
  | cons piece pieces ih =>
      rw [List.flatten_cons, List.mem_append] at member
      cases pieces with
      | nil => simpa using member
      | cons next pieces =>
          rw [join_cons_cons, List.mem_append, List.mem_append]
          rcases member with own | later
          · exact Or.inl (Or.inl own)
          · exact Or.inr (ih later)

end EventForge.Text
