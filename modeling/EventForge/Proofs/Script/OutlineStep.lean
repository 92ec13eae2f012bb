import EventForge.Proofs.Script.Outline
import EventForge.Proofs.Text.Ascii

/-!
# Steps of an outline

Where the tokens of a text break behind a step of an outline, they break in front of it as well: the
code point of the step goes on with what the outline is in the middle of, or it ends that and begins
something new.
-/

namespace EventForge.ScriptToken

section Cutting

variable {outline : Outline}

/-- Code points that begin no token. -/
def IsCutting (point : CodePoint) : Prop :=
  point ≠ ' ' ∧ point.val ≠ 0x09 ∧ point.val ≠ 0x0C ∧ point ≠ '#' ∧ point.val ≠ 0x0A ∧ point ≠ '\\'

theorem isCutting_quote : IsCutting '"' := by
  unfold IsCutting
  decide

theorem isCutting_of_beginsWord (point : CodePoint) (begins : beginsWord point = true) :
    IsCutting point := by
  have word : ∀ other : CodePoint, beginsWord other = false → point ≠ other := by
    rintro other noWord rfl
    rw [begins] at noWord
    cases noWord
  exact ⟨word _ (by decide), fun same => word 0x09 (by decide) (Fin.ext same),
    fun same => word 0x0C (by decide) (Fin.ext same), word _ (by decide),
    fun same => word 0x0A (by decide) (Fin.ext same), word _ (by decide)⟩

theorem isCutting_of_isAsciiDigit (point : CodePoint) (digit : point.isAsciiDigit = true) :
    IsCutting point := by
  have number : ∀ other : CodePoint, other.isAsciiDigit = false → point ≠ other := by
    rintro other noDigit rfl
    rw [digit] at noDigit
    cases noDigit
  exact ⟨number _ (by decide), fun same => number 0x09 (by decide) (Fin.ext same),
    fun same => number 0x0C (by decide) (Fin.ext same), number _ (by decide),
    fun same => number 0x0A (by decide) (Fin.ext same), number _ (by decide)⟩

theorem scan_of_isCutting (fuel : Nat) (place : Place) (point : CodePoint) (rest : Text)
    (cutting : IsCutting point) :
    scan (fuel + 1) place .inside (point :: rest) =
      match cut place point rest with
      | .error token => [token]
      | .ok (token, next, behind) => token :: scan fuel next .inside behind := by
  obtain ⟨noBlank, noTab, noPage, noComment, noFeed, noSlash⟩ := cutting
  have noSpace : ¬(point = ' ' || point.val = 0x09 || point.val = 0x0C) = true := by
    simp [noBlank, noTab, noPage]
  rw [scan, if_neg noSpace, if_neg noComment, if_neg noFeed]
  exact if_neg noSlash

/-- The letters in front of a string change its token only. -/
theorem cutString_cases (place : Place) (quote : CodePoint) (rest : Text) :
    (∃ token, isBroken token = true ∧ ∀ marks, cutString place marks quote rest = .error token) ∨
      ∃ body next behind, ∀ marks,
        cutString place marks quote rest = .ok (mark place (.string marks body), next, behind) := by
  cases found : stringBody? quote (Text.startsWith rest [quote, quote])
      (if Text.startsWith rest [quote, quote] then rest.drop 2 else rest) with
  | none =>
      have same : ∀ marks other, cutString place marks quote rest =
          cutString place other quote rest := by
        intro marks other
        simp only [cutString, found]
      cases cuts : cutString place [] quote rest with
      | error token =>
          refine .inl ⟨token, ?_, fun marks => (same marks []).trans cuts⟩
          simp only [cutString, found] at cuts
          cases cuts
          rfl
      | ok token =>
          simp only [cutString, found] at cuts
          cases cuts
  | some body =>
      let lines := body.1.countP fun point => point.val = 0x0A
      refine .inr ⟨body.1, { place with line := place.line + lines }, body.2, fun marks => ?_⟩
      simp only [cutString, found]
      rfl

/-- A word is passed as a whole, with the string behind it if it marks one. -/
theorem breaks_word (first : CodePoint) (part : Text) (begins : beginsWord first = true)
    (whole : ∀ point ∈ part, isWordPoint point = true) (point : CodePoint) (rest : Text)
    (ends : isWordPoint point = false) (noQuote : point ≠ '\'')
    (breaks : BreaksInside outline (point :: rest)) :
    BreaksInside outline (first :: part ++ point :: rest) := by
  have taken : (first :: (part ++ point :: rest)).takeWhile isWordPoint = first :: part := by
    rw [← List.cons_append, List.takeWhile_append_of_pos]
    · rw [List.takeWhile_cons_of_neg (by simp [ends]), List.append_nil]
    · intro other member
      rcases List.mem_cons.mp member with rfl | member
      · simp [isWordPoint, begins]
      · exact whole other member
  have left : (first :: (part ++ point :: rest)).drop (first :: part).length = point :: rest := by
    rw [← List.cons_append, List.drop_left]
  rw [List.cons_append]
  apply breaks_of_cut first _ (isCutting_of_beginsWord first begins)
  intro place fits
  rw [cut, if_pos begins, cutWord]
  simp only [taken, left]
  split
  · rename_i marked
    have isQuote : point = '"' := by
      simp only [Bool.and_eq_true, Bool.or_eq_true, decide_eq_true_eq, noQuote, or_false] at marked
      exact marked.1
    subst isQuote
    rcases cutString_cases place '"' rest with ⟨token, broken, found⟩ | ⟨body, next, behind, found⟩
    · exact .inl ⟨token, found _, broken⟩
    · refine .inr ⟨_, next, behind, found _, fun fuel enough => ?_⟩
      have whole := breaks place fits (fuel + 1) (by
        simp only [List.length_append, List.length_cons] at enough ⊢
        omega)
      rw [scan_of_isCutting _ _ _ _ isCutting_quote] at whole
      have cutting : cut place '"' rest = cutString place [] '"' rest := rfl
      rw [cutting, found] at whole
      exact whole
  · cases wordReason? (first :: part) with
    | some reason => exact .inl ⟨_, rfl, rfl⟩
    | none =>
        refine .inr ⟨_, place, _, rfl, fun fuel enough => breaks place fits fuel ?_⟩
        simp only [List.length_append, List.length_cons] at enough ⊢
        omega

theorem toAsciiLower_of_isWordPoint (point : CodePoint) (ends : isWordPoint point = false) :
    point.toAsciiLower = point := by
  have noUpper : ¬point.isAsciiUpper = true := by
    intro upper
    simp [isWordPoint, beginsWord, CodePoint.isAsciiLetter, upper] at ends
  rw [CodePoint.toAsciiLower, if_neg noUpper]

theorem toAsciiLower_of_isAsciiDigit (point : CodePoint) (digit : point.isAsciiDigit = true) :
    point.toAsciiLower = point := by
  have noUpper : ¬point.isAsciiUpper = true := by
    rw [CodePoint.isAsciiDigit_iff] at digit
    simp [CodePoint.isAsciiUpper, CodePoint.within]
    omega
  rw [CodePoint.toAsciiLower, if_neg noUpper]

theorem numberEnd_cases (written rest kind : Text) :
    (∃ reason, numberEnd written rest kind = .error reason) ∨
      numberEnd written rest kind = .ok (written, rest) := by
  rw [numberEnd]
  split
  · exact .inr rfl
  · split
    · exact .inl ⟨_, rfl⟩
    · exact .inr rfl

theorem decimalGroups_digits (first : CodePoint) (part : Text) (digit : first.isAsciiDigit = true)
    (whole : ∀ point ∈ part, point.isAsciiDigit = true) (point : CodePoint) (rest : Text)
    (ends : isWordPoint point = false) :
    decimalGroups (first :: (part ++ point :: rest)) = .ok (first :: part, point :: rest) := by
  have noDigit : ¬point.isAsciiDigit = true := by
    intro found
    simp [isWordPoint, found] at ends
  have noLine : point ≠ '_' := by
    rintro rfl
    exact absurd ends (by decide)
  have taken : (first :: (part ++ point :: rest)).takeWhile CodePoint.isAsciiDigit =
      first :: part := by
    rw [← List.cons_append, List.takeWhile_append_of_pos]
    · rw [List.takeWhile_cons_of_neg noDigit, List.append_nil]
    · intro other member
      rcases List.mem_cons.mp member with rfl | member
      · exact digit
      · exact whole other member
  have left : (first :: (part ++ point :: rest)).drop (first :: part).length = point :: rest := by
    rw [← List.cons_append, List.drop_left]
  rw [decimalGroups, digitGroups]
  simp only [taken, left, List.isEmpty_cons, noLine, if_false, Bool.false_eq_true]

/-- Digits are a number of their own, unless they are refused. -/
theorem decimalNumber_cases (first : CodePoint) (part : Text) (digit : first.isAsciiDigit = true)
    (whole : ∀ point ∈ part, point.isAsciiDigit = true) (point : CodePoint) (rest : Text)
    (ends : isWordPoint point = false) (noDot : point ≠ '.') :
    (∃ reason, decimalNumber (first :: (part ++ point :: rest)) = .error reason) ∨
      ∃ written, decimalNumber (first :: (part ++ point :: rest)) =
        .ok (written, point :: rest) := by
  have noPoint : ¬(first :: (part ++ point :: rest)).head? = some '.' := by
    intro same
    obtain rfl : first = '.' := Option.some.inj same
    exact absurd digit (by decide)
  have same := toAsciiLower_of_isWordPoint point ends
  have noMark : ∀ mark : CodePoint, isWordPoint mark = true → point ≠ mark := by
    rintro mark word rfl
    rw [ends] at word
    cases word
  have tail : fractionTail (first :: part) (point :: rest) =
      numberEnd (first :: part) (point :: rest) "decimal" := by
    have noExponent : point ≠ 'e' := noMark _ (by decide)
    have noUnit : point ≠ 'j' := noMark _ (by decide)
    rw [fractionTail, if_pos noDot, exponentTail, if_pos (by rw [same]; exact noExponent),
      numberTail, if_neg (by rw [same]; exact noUnit)]
  rw [decimalNumber, if_neg noPoint, decimalGroups_digits first part digit whole point rest ends]
  simp only [bind, Except.bind]
  split
  · exact .inl ⟨_, rfl⟩
  · rw [tail]
    rcases numberEnd_cases (first :: part) (point :: rest) "decimal" with found | found
    · exact .inl found
    · exact .inr ⟨_, found⟩

theorem number_digits (first : CodePoint) (part : Text)
    (whole : ∀ point ∈ part, point.isAsciiDigit = true) (point : CodePoint) (rest : Text)
    (ends : isWordPoint point = false) :
    number (first :: (part ++ point :: rest)) =
      decimalNumber (first :: (part ++ point :: rest)) := by
  have second : ∀ (mark : CodePoint) (more : Text), mark.toAsciiLower = mark →
      (mark ≠ 'x' ∧ mark ≠ 'o' ∧ mark ≠ 'b') →
      number (first :: mark :: more) = decimalNumber (first :: mark :: more) := by
    rintro mark more same ⟨noHex, noOctal, noBinary⟩
    simp only [number, same]
    rw [if_neg noHex, if_neg noOctal, if_neg noBinary, ite_self]
  cases part with
  | nil =>
      refine second point rest (toAsciiLower_of_isWordPoint point ends) ⟨?_, ?_, ?_⟩ <;>
      · rintro rfl
        exact absurd ends (by decide)
  | cons mark part =>
      have digit := whole mark List.mem_cons_self
      refine second mark _ (toAsciiLower_of_isAsciiDigit mark digit) ⟨?_, ?_, ?_⟩ <;>
      · rintro rfl
        exact absurd digit (by decide)

theorem breaks_number (first : CodePoint) (part : Text) (digit : first.isAsciiDigit = true)
    (whole : ∀ point ∈ part, point.isAsciiDigit = true) (point : CodePoint) (rest : Text)
    (ends : isWordPoint point = false) (noDot : point ≠ '.')
    (breaks : BreaksInside outline (point :: rest)) :
    BreaksInside outline (first :: part ++ point :: rest) := by
  rw [List.cons_append]
  apply breaks_of_cut first _ (isCutting_of_isAsciiDigit first digit)
  intro place fits
  have noWord : ¬beginsWord first = true := by
    rw [CodePoint.isAsciiDigit_iff] at digit
    simp [beginsWord, CodePoint.eq_ofChar_iff]
    omega
  have noQuote : ¬(first = '"' || first = '\'') = true := by
    rw [CodePoint.isAsciiDigit_iff] at digit
    simp [CodePoint.eq_ofChar_iff]
    omega
  rw [cut, if_neg noWord, if_neg noQuote, if_pos (by simp [digit]),
    number_digits first part whole point rest ends]
  rcases decimalNumber_cases first part digit whole point rest ends noDot with
    ⟨reason, found⟩ | ⟨written, found⟩
  · rw [found]
    exact .inl ⟨_, rfl, rfl⟩
  · rw [found]
    refine .inr ⟨_, place, _, rfl, fun fuel enough => breaks place fits fuel ?_⟩
    simp only [List.length_append, List.length_cons] at enough ⊢
    omega

theorem isSign_of_mem_longSymbols :
    ∀ symbol ∈ longSymbols, symbol ≠ [] ∧ ∀ point ∈ symbol, isSign point = true := by
  have all : longSymbols.all (fun symbol => !symbol.isEmpty && symbol.all isSign) = true := by
    rfl
  intro symbol member
  have found := List.all_eq_true.mp all symbol member
  simpa using found

/-- A symbol goes on with signs only. -/
theorem symbolAt_cases (point : CodePoint) (rest : Text) :
    ∃ part behind, rest = part ++ behind ∧ (∀ sign ∈ part, isSign sign = true) ∧
      rest.drop ((symbolAt point rest).length - 1) = behind := by
  rw [symbolAt]
  cases found : longSymbols.find? fun symbol => Text.startsWith (point :: rest) symbol with
  | none => exact ⟨[], rest, rfl, by simp, rfl⟩
  | some symbol =>
      have member := List.mem_of_find?_eq_some found
      obtain ⟨filled, signs⟩ := isSign_of_mem_longSymbols symbol member
      have leads := List.find?_some found
      simp only [Text.startsWith, List.isPrefixOf_iff_prefix] at leads
      obtain ⟨behind, whole⟩ := leads
      cases symbol with
      | nil => exact absurd rfl filled
      | cons head part =>
          obtain ⟨-, rfl⟩ := List.cons.inj whole
          refine ⟨part, behind, rfl, fun sign inside => signs sign (List.mem_cons_of_mem _ inside), ?_⟩
          simp

/-- A sign begins no token of another kind. -/
theorem others_of_isSign (point : CodePoint) (sign : isSign point = true) :
    beginsWord point = false ∧ point.isAsciiDigit = false ∧ (point = '"' || point = '\'') = false ∧
      closerOf? point = none ∧ isCloser point = false := by
  have all : ("*./<>=!%&+-:@^|," : Text).all (fun first =>
      beginsWord first = false ∧ first.isAsciiDigit = false ∧
        (first = '"' || first = '\'') = false ∧ closerOf? first = none ∧ isCloser first = false) =
      true := by rfl
  have found := List.all_eq_true.mp all point (List.contains_iff_mem.mp sign)
  simpa using found

theorem isCutting_of_isSign (point : CodePoint) (sign : isSign point = true) : IsCutting point := by
  have apart : ∀ blank : CodePoint, isSign blank = false → point ≠ blank := by
    rintro blank noSign rfl
    rw [sign] at noSign
    cases noSign
  exact ⟨apart _ (by decide), fun same => apart 0x09 (by decide) (Fin.ext same),
    fun same => apart 0x0C (by decide) (Fin.ext same), apart _ (by decide),
    fun same => apart 0x0A (by decide) (Fin.ext same), apart _ (by decide)⟩

theorem cut_sign (place : Place) (point : CodePoint) (rest : Text) (sign : isSign point = true)
    (noDigit : rest.head?.any CodePoint.isAsciiDigit = false) :
    (∃ token, cut place point rest = .error token ∧ isBroken token = true) ∨
      ∃ token part behind, rest = part ++ behind ∧ (∀ other ∈ part, isSign other = true) ∧
        cut place point rest = .ok (token, place, behind) := by
  obtain ⟨part, behind, whole, signs, left⟩ := symbolAt_cases point rest
  obtain ⟨noWord, noNumber, noQuote, noOpener, noCloser⟩ := others_of_isSign point sign
  have brackets : bracketsBehind place point = .ok place.brackets := by
    simp [bracketsBehind, noOpener, noCloser]
  rw [cut, if_neg (by simp [noWord]), if_neg (by simp [noQuote]),
    if_neg (by simp [noNumber, noDigit]), brackets]
  simp only
  split
  · exact .inr ⟨_, part, behind, whole, signs, by rw [left]⟩
  · exact .inl ⟨_, rfl, rfl⟩

/-- A run of signs is passed symbol by symbol. -/
theorem breaks_signs (first : CodePoint) (part : Text) (sign : isSign first = true)
    (whole : ∀ point ∈ part, isSign point = true) (point : CodePoint) (rest : Text)
    (ends : isSign point = false) (noDigit : point.isAsciiDigit = false)
    (breaks : BreaksInside outline (point :: rest)) :
    BreaksInside outline (first :: part ++ point :: rest) := by
  induction size : part.length using Nat.strongRecOn generalizing first part with
  | _ size ih =>
    rw [List.cons_append]
    apply breaks_of_cut first _ (isCutting_of_isSign first sign)
    intro place fits
    have next : (part ++ point :: rest).head?.any CodePoint.isAsciiDigit = false := by
      cases part with
      | nil => simpa using noDigit
      | cons other part => simpa using (others_of_isSign other (whole other List.mem_cons_self)).2.1
    rcases cut_sign place first (part ++ point :: rest) sign next with
      failed | ⟨token, taken, behind, split, signs, found⟩
    · exact .inl failed
    · refine .inr ⟨token, place, behind, found, fun fuel enough => ?_⟩
      -- The symbol takes signs only, so that it ends in front of the first other code point.
      obtain ⟨left, rfl⟩ : ∃ left, part = taken ++ left := by
        rcases List.append_eq_append_iff.mp split with ⟨more, same, behindSame⟩ | ⟨left, same, -⟩
        · cases more with
          | nil => exact ⟨[], by rw [same, List.append_nil, List.append_nil]⟩
          | cons other more =>
              obtain ⟨rfl, -⟩ := List.cons.inj behindSame
              rw [signs point (by simp [same])] at ends
              cases ends
        · exact ⟨left, same⟩
      rw [List.append_assoc] at split
      obtain rfl := List.append_cancel_left split
      have room : (left ++ point :: rest).length ≤ (taken ++ left ++ point :: rest).length := by
        simp
      cases left with
      | nil => exact breaks place fits fuel (by simp only [List.nil_append] at room; omega)
      | cons second left =>
          refine ih left.length (by rw [← size]; simp; omega) second left ?_ ?_ rfl place fits fuel
            (by rw [List.cons_append] at room ⊢; omega)
          · exact whole second (by simp)
          · exact fun other member => whole other (by simp [member])

theorem symbolAt_bracket (point : CodePoint) (rest : Text)
    (bracket : (closerOf? point).isSome = true ∨ isCloser point = true) :
    symbolAt point rest = [point] := by
  have noSign : isSign point = false := by
    rw [Bool.eq_false_iff]
    intro sign
    have all : ("*./<>=!%&+-:@^|," : Text).all (fun sign =>
        !(closerOf? sign).isSome && !isCloser sign) = true := by rfl
    have found := List.all_eq_true.mp all point (List.contains_iff_mem.mp sign)
    rcases bracket with opens | closes
    · simp [opens] at found
    · simp [closes] at found
  rw [symbolAt]
  cases found : longSymbols.find? fun symbol => Text.startsWith (point :: rest) symbol with
  | none => rfl
  | some symbol =>
      obtain ⟨filled, signs⟩ := isSign_of_mem_longSymbols symbol (List.mem_of_find?_eq_some found)
      have leads := List.find?_some found
      cases symbol with
      | nil => exact absurd rfl filled
      | cons head part =>
          simp only [Text.startsWith, List.isPrefixOf_iff_prefix] at leads
          obtain ⟨behind, whole⟩ := leads
          obtain ⟨rfl, -⟩ := List.cons.inj whole
          rw [signs head List.mem_cons_self] at noSign
          cases noSign

theorem cut_bracket (place : Place) (point : CodePoint) (rest : Text)
    (bracket : (closerOf? point).isSome = true ∨ isCloser point = true) :
    cut place point rest =
      match bracketsBehind place point with
      | .error reason => .error (broken place (.grammar reason place.line) true)
      | .ok brackets =>
          let next := { place with brackets }
          .ok (mark next (.symbol [point]), next, rest) := by
  have isOne : point = '(' ∨ point = '[' ∨ point = '{' ∨ point = ')' ∨ point = ']' ∨
      point = '}' := by
    rcases bracket with opens | closes
    · revert opens
      rw [closerOf?]
      split
      · simp_all
      · split
        · simp_all
        · split <;> simp_all
    · simp only [isCloser, Bool.or_eq_true, decide_eq_true_eq] at closes
      rcases closes with (same | same) | same <;> simp [same]
  have other : beginsWord point = false ∧ (point = '"' || point = '\'') = false ∧
      point.isAsciiDigit = false ∧ point ≠ '.' ∧ point.isPrintable = true := by
    rcases isOne with rfl | rfl | rfl | rfl | rfl | rfl <;> decide
  obtain ⟨noWord, noQuote, noDigit, noDot, printable⟩ := other
  rw [cut, if_neg (by simp [noWord]), if_neg (by simp [noQuote]),
    if_neg (by simp [noDigit, noDot]), symbolAt_bracket point rest bracket]
  cases bracketsBehind place point with
  | error reason => rfl
  | ok brackets => simp [printable]

theorem isCutting_bracket (point : CodePoint)
    (bracket : (closerOf? point).isSome = true ∨ isCloser point = true) : IsCutting point := by
  have apart : ∀ other : CodePoint, closerOf? other = none → isCloser other = false →
      point ≠ other := by
    rintro other noOpener noCloser rfl
    simp [noOpener, noCloser] at bracket
  exact ⟨apart _ (by decide) (by decide),
    fun same => apart 0x09 (by decide) (by decide) (Fin.ext same),
    fun same => apart 0x0C (by decide) (by decide) (Fin.ext same), apart _ (by decide) (by decide),
    fun same => apart 0x0A (by decide) (by decide) (Fin.ext same), apart _ (by decide) (by decide)⟩

theorem breaks_opener (point : CodePoint) (rest : Text) (opens : (closerOf? point).isSome = true)
    (breaks : BreaksInside { outline with brackets := point :: outline.brackets } rest) :
    BreaksInside outline (point :: rest) := by
  apply breaks_of_cut point rest (isCutting_bracket point (.inl opens))
  intro place fits
  rw [cut_bracket place point rest (.inl opens), bracketsBehind, if_pos opens]
  by_cases room : place.brackets.length < maxBrackets
  · rw [if_pos room]
    let next := { place with brackets := (point, place.line) :: place.brackets }
    have nextFits : Fits next { outline with brackets := point :: outline.brackets } :=
      ⟨by rw [List.map_cons, fits.brackets], fits.blocks⟩
    exact .inr ⟨_, next, rest, rfl, fun fuel enough => breaks next nextFits fuel enough⟩
  · rw [if_neg room]
    exact .inl ⟨_, rfl, rfl⟩

theorem breaks_closer (point opener : CodePoint) (brackets : List CodePoint) (rest : Text)
    (noOpener : (closerOf? point).isSome = false) (closes : isCloser point = true)
    (isOpen : outline.brackets = opener :: brackets) (matching : closerOf? opener = some point)
    (breaks : BreaksInside { outline with brackets } rest) :
    BreaksInside outline (point :: rest) := by
  apply breaks_of_cut point rest (isCutting_bracket point (.inr closes))
  intro place fits
  rw [cut_bracket place point rest (.inr closes), bracketsBehind, if_neg (by simp [noOpener]),
    if_pos closes]
  have same := fits.brackets
  rw [isOpen] at same
  obtain ⟨⟨first, line⟩, others, found, rfl, left⟩ := List.map_eq_cons_iff.mp same
  rw [found]
  simp only [matching, if_true]
  let next := { place with brackets := others }
  have nextFits : Fits next { outline with brackets } := ⟨left, fits.blocks⟩
  exact .inr ⟨_, next, rest, rfl, fun fuel enough => breaks next nextFits fuel enough⟩

end Cutting

end EventForge.ScriptToken
