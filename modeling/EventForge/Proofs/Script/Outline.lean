import EventForge.Script.Token

/-!
# The outline of a script

An outline follows the code points of a script one by one and keeps the open brackets and blocks
only.  It gives up at what modules never write.  Where it finds an indentation that fits no open
block, the tokens of the script are broken.
-/

namespace EventForge

namespace ScriptToken

/-- What an outline is in the middle of. -/
inductive OutlineMode
  /-- At the beginning of a line, behind some blanks. -/
  | opening (columns : Nat)
  /-- In a comment that has a line for itself. -/
  | remark
  /-- Between two tokens. -/
  | inside
  | word
  | number
  | sign
  | comment
  /-- Behind the quote that opens a string. -/
  | quote
  | quotes
  | short
  | shortEscape
  | long
  | longEscape
  /-- Behind a quote in a long string. -/
  | longQuote
  | longQuotes
  | broken
deriving DecidableEq, Repr

structure Outline where
  mode : OutlineMode
  /-- The open brackets, the innermost first. -/
  brackets : List CodePoint
  /-- The columns of the open blocks, the innermost first. -/
  blocks : List Nat
deriving DecidableEq, Repr

/-- Signs that symbols other than brackets are made of. -/
def isSign (point : CodePoint) : Bool :=
  ("*./<>=!%&+-:@^|," : Text).contains point

namespace Outline

/-- The open blocks behind the beginning of a line, if it fits one of them. -/
def blocksAt (column : Nat) : List Nat → Option (List Nat)
  | [] => some [column]
  | top :: blocks =>
      if column = top then some (top :: blocks)
      else if top < column then some (column :: top :: blocks)
      else
        match (top :: blocks).dropWhile fun block => decide (column < block) with
        | [] => some [column]
        | block :: kept => if block = column then some (block :: kept) else none

/-- An outline in another mode. -/
def turned (outline : Outline) (mode : OutlineMode) : Option Outline := some { outline with mode }

/-- The outline behind a code point between two tokens. -/
def between (outline : Outline) (point : CodePoint) : Option Outline :=
  if point = ' ' then outline.turned .inside
  else if point.val = 0x0A then outline.turned (.opening 0)
  else if point = '#' then outline.turned .comment
  else if point = '"' then outline.turned .quote
  else if beginsWord point then outline.turned .word
  else if point.isAsciiDigit then outline.turned .number
  else if (closerOf? point).isSome then
    { outline with brackets := point :: outline.brackets }.turned .inside
  else if isCloser point then
    match outline.brackets with
    | [] => none
    | opener :: brackets =>
        if closerOf? opener = some point then { outline with brackets }.turned .inside else none
  else if isSign point then outline.turned .sign
  else none

/-- The outline behind a code point. -/
def step (outline : Outline) (point : CodePoint) : Option Outline :=
  match outline.mode with
  | .opening columns =>
      if point = ' ' then outline.turned (.opening (columns + 1))
      else if point.val = 0x09 || point.val = 0x0C || point = '\\' then none
      else if !outline.brackets.isEmpty then outline.between point
      else if point = '#' then outline.turned .remark
      else if point.val = 0x0A then outline.turned (.opening 0)
      else
        match blocksAt columns outline.blocks with
        | none => outline.turned .broken
        | some blocks => { outline with blocks }.between point
  | .remark => if point.val = 0x0A then outline.turned (.opening 0) else some outline
  | .inside => outline.between point
  | .word =>
      if isWordPoint point then some outline
      else if point = '\'' then none
      else outline.between point
  | .number =>
      if point.isAsciiDigit then some outline
      else if isWordPoint point || point = '.' then none
      else outline.between point
  | .sign =>
      if isSign point then some outline
      else if point.isAsciiDigit then none
      else outline.between point
  | .comment => if point.val = 0x0A then outline.turned (.opening 0) else some outline
  | .quote =>
      if point = '"' then outline.turned .quotes
      else if point = '\\' then outline.turned .shortEscape
      else if point.val = 0x0A then none
      else outline.turned .short
  | .quotes => if point = '"' then outline.turned .long else outline.between point
  | .short =>
      if point = '"' then outline.turned .inside
      else if point = '\\' then outline.turned .shortEscape
      else if point.val = 0x0A then none
      else some outline
  | .shortEscape => outline.turned .short
  | .long =>
      if point = '"' then outline.turned .longQuote
      else if point = '\\' then outline.turned .longEscape
      else some outline
  | .longEscape => outline.turned .long
  | .longQuote =>
      if point = '"' then outline.turned .longQuotes
      else if point = '\\' then none
      else outline.turned .long
  | .longQuotes =>
      if point = '"' then outline.turned .inside
      else if point = '\\' then none
      else outline.turned .long
  | .broken => some outline

/-- The outline behind a text. -/
def run (outline : Outline) : Text → Option Outline
  | [] => some outline
  | point :: text => (outline.step point).bind fun next => next.run text

@[simp] theorem run_nil (outline : Outline) : outline.run [] = some outline := rfl

theorem run_cons (outline : Outline) (point : CodePoint) (text : Text) :
    outline.run (point :: text) = (outline.step point).bind fun next => next.run text := rfl

theorem run_append (outline : Outline) (first second : Text) :
    outline.run (first ++ second) = (outline.run first).bind fun next => next.run second := by
  induction first generalizing outline with
  | nil => rfl
  | cons point first ih =>
      rw [List.cons_append, run_cons, run_cons]
      cases outline.step point with
      | none => rfl
      | some next => exact ih next

/-- The outline at the beginning of a script. -/
def start : Outline := { mode := .opening 0, brackets := [], blocks := [0] }

end Outline

def isBroken (token : ScriptToken) : Bool :=
  match token.kind with
  | .broken _ => true
  | _ => false

theorem brokenError?_isSome (tokens : List ScriptToken) :
    (brokenError? tokens).isSome = tokens.any isBroken := by
  induction tokens with
  | nil => rfl
  | cons token tokens ih =>
      rw [brokenError?] at ih ⊢
      rw [List.findSome?_cons, List.any_cons, ← ih, isBroken]
      cases token.kind <;> rfl

/-- Whether a place has the brackets and blocks of an outline. -/
structure Fits (place : Place) (outline : Outline) : Prop where
  brackets : place.brackets.map Prod.fst = outline.brackets
  blocks : place.blocks = outline.blocks.map fun column => (column, column)

/-- Whether tokens break on a text between two tokens. -/
def BreaksInside (outline : Outline) (text : Text) : Prop :=
  ∀ place, Fits place outline → ∀ fuel, 2 * text.length + 1 ≤ fuel →
    (scan fuel place .inside text).any isBroken = true

/-- Whether tokens break on a text at the beginning of a line. -/
def BreaksOpening (outline : Outline) (text : Text) : Prop :=
  ∀ place, Fits place outline → ∀ fuel, 2 * text.length + 2 ≤ fuel →
    (scan fuel place .first text).any isBroken = true

/-- Whether a part of a string is read on its own, whatever follows it. -/
def IsBody (long : Bool) (part : Text) : Prop :=
  ∀ rest, stringBody? '"' long (part ++ rest) =
    (stringBody? '"' long rest).map fun found => (part ++ found.1, found.2)

/-- Whether tokens break on a text behind what an outline is in the middle of. -/
def Breaks (outline : Outline) (text : Text) : Prop :=
  match outline.mode with
  | .opening columns =>
      BreaksOpening outline (List.replicate columns (CodePoint.ofChar ' ') ++ text)
  | .remark =>
      outline.brackets = [] → ∀ columns part, (∀ point ∈ part, point.val ≠ 0x0A) →
        BreaksOpening outline
          (List.replicate columns (CodePoint.ofChar ' ') ++ (CodePoint.ofChar '#' :: part ++ text))
  | .inside => BreaksInside outline text
  | .word => ∀ first part, beginsWord first = true → (∀ point ∈ part, isWordPoint point = true) →
      BreaksInside outline (first :: part ++ text)
  | .number => ∀ first part, first.isAsciiDigit = true →
      (∀ point ∈ part, point.isAsciiDigit = true) → BreaksInside outline (first :: part ++ text)
  | .sign => ∀ first part, isSign first = true → (∀ point ∈ part, isSign point = true) →
      BreaksInside outline (first :: part ++ text)
  | .comment => ∀ part, (∀ point ∈ part, point.val ≠ 0x0A) →
      BreaksInside outline (CodePoint.ofChar '#' :: part ++ text)
  | .quote => BreaksInside outline (CodePoint.ofChar '"' :: text)
  | .quotes => BreaksInside outline (CodePoint.ofChar '"' :: CodePoint.ofChar '"' :: text)
  | .short => ∀ first part, first ≠ CodePoint.ofChar '"' → IsBody false (first :: part) →
      BreaksInside outline (CodePoint.ofChar '"' :: (first :: part ++ text))
  | .shortEscape => ∀ part, part.head? ≠ some (CodePoint.ofChar '"') → IsBody false part →
      BreaksInside outline (CodePoint.ofChar '"' :: (part ++ CodePoint.ofChar '\\' :: text))
  | .long => ∀ part, IsBody true part → BreaksInside outline
      (CodePoint.ofChar '"' :: CodePoint.ofChar '"' :: CodePoint.ofChar '"' :: (part ++ text))
  | .longEscape => ∀ part, IsBody true part → BreaksInside outline
      (CodePoint.ofChar '"' :: CodePoint.ofChar '"' :: CodePoint.ofChar '"' ::
        (part ++ CodePoint.ofChar '\\' :: text))
  | .longQuote => ∀ part, IsBody true part → BreaksInside outline
      (CodePoint.ofChar '"' :: CodePoint.ofChar '"' :: CodePoint.ofChar '"' ::
        (part ++ CodePoint.ofChar '"' :: text))
  | .longQuotes => ∀ part, IsBody true part → BreaksInside outline
      (CodePoint.ofChar '"' :: CodePoint.ofChar '"' :: CodePoint.ofChar '"' ::
        (part ++ CodePoint.ofChar '"' :: CodePoint.ofChar '"' :: text))
  | .broken => True

theorem fits_line {place : Place} {outline : Outline} (fits : Fits place outline) (line : Nat) :
    Fits { place with line } outline :=
  ⟨fits.brackets, fits.blocks⟩

/-- A token that is not broken leaves breaking to the rest. -/
theorem any_cons_isBroken (token : ScriptToken) (tokens : List ScriptToken)
    (rest : tokens.any isBroken = true) : (token :: tokens).any isBroken = true := by
  rw [List.any_cons, rest, Bool.or_true]

theorem any_append_isBroken (first second : List ScriptToken)
    (rest : second.any isBroken = true) : (first ++ second).any isBroken = true := by
  rw [List.any_append, rest, Bool.or_true]

section Inside

variable {outline : Outline} {text : Text}

theorem breaks_blank (breaks : BreaksInside outline text) :
    BreaksInside outline (CodePoint.ofChar ' ' :: text) := by
  intro place fits fuel enough
  rw [List.length_cons] at enough
  obtain ⟨fuel, rfl⟩ : ∃ more, fuel = more + 1 := ⟨fuel - 1, by omega⟩
  exact breaks place fits fuel (by omega)

theorem breaks_feed (point : CodePoint) (feed : point.val = 0x0A)
    (breaks : BreaksOpening outline text) : BreaksInside outline (point :: text) := by
  intro place fits fuel enough
  rw [List.length_cons] at enough
  obtain ⟨fuel, rfl⟩ : ∃ more, fuel = more + 1 := ⟨fuel - 1, by omega⟩
  obtain rfl : point = 0x0A := Fin.ext feed
  have rest := breaks { place with line := place.line + 1 } (fits_line fits _) fuel (by omega)
  change (if place.brackets.isEmpty then
    mark place .lineEnd :: scan fuel { place with line := place.line + 1 } .first text
    else scan fuel { place with line := place.line + 1 } .first text).any isBroken = true
  split
  · exact any_cons_isBroken _ _ rest
  · exact rest

/-- A comment is passed up to the end of its line. -/
theorem breaks_comment (part : Text) (whole : ∀ point ∈ part, point.val ≠ 0x0A) (point : CodePoint)
    (feed : point.val = 0x0A) (breaks : BreaksOpening outline text) :
    BreaksInside outline (CodePoint.ofChar '#' :: part ++ point :: text) := by
  intro place fits fuel enough
  simp only [List.length_append, List.length_cons] at enough
  obtain ⟨fuel, rfl⟩ : ∃ more, fuel = more + 1 := ⟨fuel - 1, by omega⟩
  have passed : (part ++ point :: text).dropWhile (fun next => decide (next.val ≠ 0x0A)) =
      point :: text := by
    rw [List.dropWhile_append_of_pos, List.dropWhile_cons_of_neg]
    · simp [feed]
    · intro other member
      simpa using whole other member
  have rest := breaks_feed point feed breaks place fits fuel
    (by rw [List.length_cons]; omega)
  rw [← passed] at rest
  exact rest

/-- How a token that is cut from a text breaks, or leaves the rest to break. -/
theorem breaks_of_cut (point : CodePoint) (rest : Text)
    (plain : point ≠ ' ' ∧ point.val ≠ 0x09 ∧ point.val ≠ 0x0C ∧ point ≠ '#' ∧
      point.val ≠ 0x0A ∧ point ≠ '\\')
    (cuts : ∀ place, Fits place outline →
      (∃ token, cut place point rest = .error token ∧ isBroken token = true) ∨
        ∃ token next behind, cut place point rest = .ok (token, next, behind) ∧
          ∀ fuel, 2 * rest.length + 1 ≤ fuel → (scan fuel next .inside behind).any isBroken = true) :
    BreaksInside outline (point :: rest) := by
  intro place fits fuel enough
  rw [List.length_cons] at enough
  obtain ⟨fuel, rfl⟩ : ∃ more, fuel = more + 1 := ⟨fuel - 1, by omega⟩
  obtain ⟨noBlank, noTab, noPage, noComment, noFeed, noSlash⟩ := plain
  have noSpace : ¬(point = ' ' || point.val = 0x09 || point.val = 0x0C) = true := by
    simp [noBlank, noTab, noPage]
  rw [scan, if_neg noSpace, if_neg noComment, if_neg noFeed, if_neg noSlash]
  rcases cuts place fits with ⟨token, found, isBroken⟩ | ⟨token, next, behind, found, goesOn⟩
  · rw [found]
    simp [isBroken]
  · rw [found]
    exact any_cons_isBroken _ _ (goesOn fuel (by omega))

end Inside

end ScriptToken

end EventForge
