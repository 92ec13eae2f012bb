import EventForge.Text.Utf8
import Mathlib.Data.List.TakeWhile

/-!
# Encoding and decoding

A text can be encoded exactly if it holds no surrogate, and bytes are read as a text exactly if they
are its encoding.
-/

/-!
## From a text to its bytes

The bytes of a code point are read back as the code point, whatever follows them.  A byte below 0x80
stands for the code point with its number only.
-/

namespace EventForge.Utf8

theorem encode_eq_ok (text : Text) (plain : ∀ point ∈ text, point.isSurrogate = false) :
    encode text = .ok (encodeAll text) := by
  have passed : text.dropWhile (fun point => !point.isSurrogate) = [] := by
    rw [List.dropWhile_eq_nil_iff]
    simpa using plain
  rw [encode, passed]

/-- What can be encoded holds no surrogate. -/
theorem isSurrogate_eq_false_of_encode (text : Text) (bytes : Bytes)
    (encoded : encode text = .ok bytes) : ∀ point ∈ text, point.isSurrogate = false := by
  cases passed : text.dropWhile (fun point => !point.isSurrogate) with
  | nil =>
      rw [List.dropWhile_eq_nil_iff] at passed
      simpa using passed
  | cons point rest =>
      rw [encode, passed] at encoded
      cases encoded

private theorem toNat_small (number : Nat) (small : number < 256) :
    (UInt8.ofNat number).toNat = number :=
  UInt8.toNat_ofNat_of_lt' small

private theorem ofNat_val (point : CodePoint) (number : Nat) (same : number = point.val) :
    CodePoint.ofNat number = point := by
  subst same
  rw [CodePoint.ofNat, dif_pos point.isLt]

theorem isContinuation_iff (byte : UInt8) :
    isContinuation byte = true ↔ 0x80 ≤ byte.toNat ∧ byte.toNat < 0xC0 := by
  simp [isContinuation, UInt8.le_iff_toNat_le, UInt8.lt_iff_toNat_lt]

theorem decodeFirst_one (first : UInt8) (rest : Bytes) (low : first.toNat < 0x80) :
    decodeFirst first rest = .ok (.ofNat first.toNat, 1) := by
  have one : first < 0x80 := UInt8.lt_iff_toNat_lt.mpr low
  simp only [decodeFirst, if_pos one]

theorem decodeFirst_two (first second : UInt8) (rest : Bytes) (high : 0xC2 ≤ first.toNat)
    (low : first.toNat < 0xE0) (continued : isContinuation second = true) :
    decodeFirst first (second :: rest) =
      .ok (.ofNat ((first.toNat - 0xC0) * 0x40 + second.toNat % 0x40), 2) := by
  have noOne : ¬first < 0x80 := by simp [UInt8.lt_iff_toNat_lt]; omega
  have noFault : ¬first < 0xC2 := by simp [UInt8.lt_iff_toNat_lt]; omega
  have two : first < 0xE0 := UInt8.lt_iff_toNat_lt.mpr low
  simp only [decodeFirst, if_neg noOne, if_neg noFault, if_pos two, continued, if_true]

theorem decodeFirst_three (first second third : UInt8) (rest : Bytes) (high : 0xE0 ≤ first.toNat)
    (low : first.toNat < 0xF0) (continued : isContinuation second = true)
    (long : first.toNat = 0xE0 → 0xA0 ≤ second.toNat)
    (plain : first.toNat = 0xED → second.toNat < 0xA0) (ended : isContinuation third = true) :
    decodeFirst first (second :: third :: rest) =
      .ok (.ofNat ((first.toNat - 0xE0) * 0x1000 + second.toNat % 0x40 * 0x40 +
        third.toNat % 0x40), 3) := by
  have noOne : ¬first < 0x80 := by simp [UInt8.lt_iff_toNat_lt]; omega
  have noFault : ¬first < 0xC2 := by simp [UInt8.lt_iff_toNat_lt]; omega
  have noTwo : ¬first < 0xE0 := by simp [UInt8.lt_iff_toNat_lt]; omega
  have three : first < 0xF0 := UInt8.lt_iff_toNat_lt.mpr low
  have inRange : (if second < 0xA0 then first == 0xE0 else first == 0xED) = false := by
    split
    · rename_i below
      rw [beq_eq_false_iff_ne, ne_eq, ← UInt8.toNat_inj]
      intro same
      have above := long same
      have under : second.toNat < 0xA0 := UInt8.lt_iff_toNat_lt.mp below
      omega
    · rename_i above
      rw [beq_eq_false_iff_ne, ne_eq, ← UInt8.toNat_inj]
      intro same
      exact above (UInt8.lt_iff_toNat_lt.mpr (plain same))
  simp only [decodeFirst, if_neg noOne, if_neg noFault, if_neg noTwo, if_pos three, continued,
    inRange, Bool.not_true, Bool.or_self, Bool.false_eq_true, if_false, ended, if_true]

theorem decodeFirst_four (first second third fourth : UInt8) (rest : Bytes)
    (high : 0xF0 ≤ first.toNat) (low : first.toNat < 0xF5) (continued : isContinuation second = true)
    (long : first.toNat = 0xF0 → 0x90 ≤ second.toNat)
    (bounded : first.toNat = 0xF4 → second.toNat < 0x90) (goesOn : isContinuation third = true)
    (ended : isContinuation fourth = true) :
    decodeFirst first (second :: third :: fourth :: rest) =
      .ok (.ofNat ((first.toNat - 0xF0) * 0x40000 + second.toNat % 0x40 * 0x1000 +
        third.toNat % 0x40 * 0x40 + fourth.toNat % 0x40), 4) := by
  have noOne : ¬first < 0x80 := by simp [UInt8.lt_iff_toNat_lt]; omega
  have noFault : ¬first < 0xC2 := by simp [UInt8.lt_iff_toNat_lt]; omega
  have noTwo : ¬first < 0xE0 := by simp [UInt8.lt_iff_toNat_lt]; omega
  have noThree : ¬first < 0xF0 := by simp [UInt8.lt_iff_toNat_lt]; omega
  have four : first < 0xF5 := UInt8.lt_iff_toNat_lt.mpr low
  have inRange : (if second < 0x90 then first == 0xF0 else first == 0xF4) = false := by
    split
    · rename_i below
      rw [beq_eq_false_iff_ne, ne_eq, ← UInt8.toNat_inj]
      intro same
      have above := long same
      have under : second.toNat < 0x90 := UInt8.lt_iff_toNat_lt.mp below
      omega
    · rename_i above
      rw [beq_eq_false_iff_ne, ne_eq, ← UInt8.toNat_inj]
      intro same
      exact above (UInt8.lt_iff_toNat_lt.mpr (bounded same))
  simp only [decodeFirst, if_neg noOne, if_neg noFault, if_neg noTwo, if_neg noThree, if_pos four,
    continued, inRange, Bool.not_true, Bool.or_self, Bool.false_eq_true, if_false, goesOn, ended,
    if_true]

/-- The first byte of a code point, with the bytes behind it, is read as the code point. -/
theorem decodeFirst_encodePoint (point : CodePoint) (plain : point.isSurrogate = false)
    (rest : Bytes) :
    ∃ first others, encodePoint point = first :: others ∧
      decodeFirst first (others ++ rest) = .ok (point, others.length + 1) := by
  have bound := point.isLt
  have apart : ¬(0xD800 ≤ point.val ∧ point.val < 0xE000) := by
    simpa [CodePoint.isSurrogate] using plain
  have continued : ∀ number, number < 0x40 →
      isContinuation (UInt8.ofNat (0x80 + number)) = true := by
    intro number small
    rw [isContinuation_iff, toNat_small _ (by omega)]
    omega
  have low : ∀ number, number < 0x40 → (UInt8.ofNat (0x80 + number)).toNat % 0x40 = number := by
    intro number small
    rw [toNat_small _ (by omega)]
    omega
  unfold encodePoint
  by_cases one : point.val < 0x80
  · refine ⟨_, _, if_pos one, ?_⟩
    have read := toNat_small point.val (by omega)
    rw [decodeFirst_one _ _ (by omega), read, ofNat_val point _ rfl]
    rfl
  by_cases two : point.val < 0x800
  · refine ⟨_, _, (if_neg one).trans (if_pos two), ?_⟩
    have read := toNat_small (0xC0 + point.val / 0x40) (by omega)
    rw [List.cons_append, decodeFirst_two _ _ _ (by omega) (by omega) (continued _ (by omega)),
      read, low _ (by omega), ofNat_val point _ (by omega)]
    rfl
  by_cases three : point.val < 0x10000
  · refine ⟨_, _, (if_neg one).trans ((if_neg two).trans (if_pos three)), ?_⟩
    have read := toNat_small (0xE0 + point.val / 0x1000) (by omega)
    have readSecond := toNat_small (0x80 + point.val / 0x40 % 0x40) (by omega)
    rw [List.cons_append, List.cons_append, decodeFirst_three _ _ _ _ (by omega) (by omega)
      (continued _ (by omega)) (by omega) (by omega) (continued _ (by omega)), read,
      low _ (by omega), low _ (by omega), ofNat_val point _ (by omega)]
    rfl
  · refine ⟨_, _, (if_neg one).trans ((if_neg two).trans (if_neg three)), ?_⟩
    have read := toNat_small (0xF0 + point.val / 0x40000) (by omega)
    have readSecond := toNat_small (0x80 + point.val / 0x1000 % 0x40) (by omega)
    rw [List.cons_append, List.cons_append, List.cons_append,
      decodeFirst_four _ _ _ _ _ (by omega) (by omega) (continued _ (by omega)) (by omega)
      (by omega) (continued _ (by omega)) (continued _ (by omega)), read, low _ (by omega),
      low _ (by omega), low _ (by omega), ofNat_val point _ (by omega)]
    rfl

/-- A byte below 0x80 stands for the code point with its number, and in no other encoding. -/
theorem mem_encodePoint_of_low (byte : UInt8) (low : byte.toNat < 0x80) (point : CodePoint) :
    byte ∈ encodePoint point ↔ point.val = byte.toNat := by
  have bound := point.isLt
  have same : ∀ number, number < 256 → (byte = UInt8.ofNat number ↔ number = byte.toNat) := by
    intro number small
    rw [← UInt8.toNat_inj, toNat_small number small]
    exact eq_comm
  unfold encodePoint
  by_cases one : point.val < 0x80
  · rw [if_pos one, List.mem_singleton, same _ (by omega)]
  by_cases two : point.val < 0x800
  · rw [if_neg one, if_pos two, List.mem_cons, List.mem_singleton, same _ (by omega),
      same _ (by omega)]
    omega
  by_cases three : point.val < 0x10000
  · rw [if_neg one, if_neg two, if_pos three, List.mem_cons, List.mem_cons, List.mem_singleton,
      same _ (by omega), same _ (by omega), same _ (by omega)]
    omega
  · rw [if_neg one, if_neg two, if_neg three, List.mem_cons, List.mem_cons, List.mem_cons,
      List.mem_singleton, same _ (by omega), same _ (by omega), same _ (by omega),
      same _ (by omega)]
    omega

/-- Only U+0000 puts a zero among the bytes of a text. -/
theorem zero_mem_encodeAll (text : Text) : 0 ∈ encodeAll text ↔ 0 ∈ text := by
  have zero : ∀ point, 0 ∈ encodePoint point ↔ point = 0 := by
    intro point
    rw [mem_encodePoint_of_low 0 (by decide) point, Fin.ext_iff]
    rfl
  rw [encodeAll, List.mem_flatMap]
  constructor
  · rintro ⟨point, member, inside⟩
    rwa [← (zero point).mp inside]
  · intro member
    exact ⟨0, member, (zero 0).mpr rfl⟩

/-!
## From bytes to their text

What is read as a code point from some bytes is the code point that these bytes encode: overlong
forms, surrogates and numbers beyond the last code point are refused at the second byte.
-/

theorem val_ofNat (number : Nat) (bound : number < 0x110000) :
    (CodePoint.ofNat number).val = number := by
  rw [CodePoint.ofNat, dif_pos bound]

theorem isSurrogate_ofNat (number : Nat) (bound : number < 0x110000)
    (apart : number < 0xD800 ∨ 0xE000 ≤ number) : (CodePoint.ofNat number).isSurrogate = false := by
  rw [CodePoint.isSurrogate, val_ofNat number bound]
  simp only [Bool.and_eq_false_iff, decide_eq_false_iff_not]
  omega

/-- A byte is the one with its number. -/
theorem ofNat_of_eq (byte : UInt8) (number : Nat) (same : number = byte.toNat) :
    UInt8.ofNat number = byte := by
  subst same
  exact UInt8.ofNat_toNat

/-- Whether bytes are the encoding of a code point. -/
structure AreEncoding (bytes : Bytes) (point : CodePoint) : Prop where
  bytes : encodePoint point = bytes
  scalar : point.isSurrogate = false

theorem areEncoding_one (first : UInt8) (low : first.toNat < 0x80) :
    AreEncoding [first] (.ofNat first.toNat) := by
  refine ⟨?_, isSurrogate_ofNat _ (by omega) (by omega)⟩
  rw [encodePoint, val_ofNat _ (by omega), if_pos low, ofNat_of_eq first _ rfl]

theorem areEncoding_two (first second : UInt8) (high : 0xC2 ≤ first.toNat)
    (low : first.toNat < 0xE0) (continued : isContinuation second = true) :
    AreEncoding [first, second]
      (.ofNat ((first.toNat - 0xC0) * 0x40 + second.toNat % 0x40)) := by
  obtain ⟨least, most⟩ := (isContinuation_iff second).mp continued
  refine ⟨?_, isSurrogate_ofNat _ (by omega) (by omega)⟩
  rw [encodePoint, val_ofNat _ (by omega), if_neg (by omega), if_pos (by omega),
    ofNat_of_eq first _ (by omega), ofNat_of_eq second _ (by omega)]

theorem areEncoding_three (first second third : UInt8) (high : 0xE0 ≤ first.toNat)
    (low : first.toNat < 0xF0) (continued : isContinuation second = true)
    (long : first.toNat = 0xE0 → 0xA0 ≤ second.toNat)
    (plain : first.toNat = 0xED → second.toNat < 0xA0) (ended : isContinuation third = true) :
    AreEncoding [first, second, third]
      (.ofNat ((first.toNat - 0xE0) * 0x1000 + second.toNat % 0x40 * 0x40 +
        third.toNat % 0x40)) := by
  obtain ⟨least, most⟩ := (isContinuation_iff second).mp continued
  obtain ⟨thirdLeast, thirdMost⟩ := (isContinuation_iff third).mp ended
  refine ⟨?_, isSurrogate_ofNat _ (by omega) (by omega)⟩
  rw [encodePoint, val_ofNat _ (by omega), if_neg (by omega), if_neg (by omega),
    if_pos (by omega), ofNat_of_eq first _ (by omega), ofNat_of_eq second _ (by omega),
    ofNat_of_eq third _ (by omega)]

theorem areEncoding_four (first second third fourth : UInt8) (high : 0xF0 ≤ first.toNat)
    (low : first.toNat < 0xF5) (continued : isContinuation second = true)
    (long : first.toNat = 0xF0 → 0x90 ≤ second.toNat)
    (bounded : first.toNat = 0xF4 → second.toNat < 0x90) (goesOn : isContinuation third = true)
    (ended : isContinuation fourth = true) :
    AreEncoding [first, second, third, fourth]
      (.ofNat ((first.toNat - 0xF0) * 0x40000 + second.toNat % 0x40 * 0x1000 +
        third.toNat % 0x40 * 0x40 + fourth.toNat % 0x40)) := by
  obtain ⟨least, most⟩ := (isContinuation_iff second).mp continued
  obtain ⟨thirdLeast, thirdMost⟩ := (isContinuation_iff third).mp goesOn
  obtain ⟨fourthLeast, fourthMost⟩ := (isContinuation_iff fourth).mp ended
  refine ⟨?_, isSurrogate_ofNat _ (by omega) (by omega)⟩
  rw [encodePoint, val_ofNat _ (by omega), if_neg (by omega), if_neg (by omega),
    if_neg (by omega), ofNat_of_eq first _ (by omega), ofNat_of_eq second _ (by omega),
    ofNat_of_eq third _ (by omega), ofNat_of_eq fourth _ (by omega)]

/-- A second byte that is let through lies on the right side of the bound of its first byte. -/
theorem second_in_range (first second : UInt8) (bound lowFirst highFirst : UInt8)
    (inRange : (if second < bound then first == lowFirst else first == highFirst) = false) :
    (first.toNat = lowFirst.toNat → bound.toNat ≤ second.toNat) ∧
      (first.toNat = highFirst.toNat → second.toNat < bound.toNat) := by
  rw [UInt8.toNat_inj, UInt8.toNat_inj, ← UInt8.le_iff_toNat_le, ← UInt8.lt_iff_toNat_lt]
  split at inRange
  · rename_i below
    exact ⟨fun same => absurd same (by simpa using inRange), fun _ => below⟩
  · rename_i above
    exact ⟨fun _ => UInt8.not_lt.mp above, fun same => absurd same (by simpa using inRange)⟩

/-- Whether a first byte is completed to the encoding of a code point by the bytes behind it. -/
def IsCompleted (first : UInt8) (rest : Bytes) (point : CodePoint) (length : Nat) : Prop :=
  ∃ others behind, rest = others ++ behind ∧ length = others.length + 1 ∧
    AreEncoding (first :: others) point

section First

variable {first : UInt8} {rest : Bytes} {point : CodePoint} {length : Nat}
  (read : decodeFirst first rest = .ok (point, length)) (one : ¬first < 0x80) (low : ¬first < 0xC2)

include read one low

theorem isCompleted_two (two : first < 0xE0) : IsCompleted first rest point length := by
  unfold decodeFirst at read
  simp only at read
  rw [if_neg one, if_neg low, if_pos two] at read
  split at read
  · cases read
  split at read
  · rename_i second behind continued
    obtain ⟨rfl, rfl⟩ := Prod.mk.inj (Except.ok.inj read)
    exact ⟨[second], behind, rfl, rfl, areEncoding_two first second
      (UInt8.le_iff_toNat_le.mp (UInt8.not_lt.mp low)) (UInt8.lt_iff_toNat_lt.mp two) continued⟩
  · cases read

theorem isCompleted_three (two : ¬first < 0xE0) (three : first < 0xF0) :
    IsCompleted first rest point length := by
  unfold decodeFirst at read
  simp only at read
  rw [if_neg one, if_neg low, if_neg two, if_pos three] at read
  split at read
  · cases read
  rename_i second _
  generalize fits : (!isContinuation second ||
    (if second < 0xA0 then first == 0xE0 else first == 0xED)) = refused at read
  cases refused
  case true => cases read
  simp only [Bool.false_eq_true, if_false] at read
  rw [Bool.or_eq_false_iff, Bool.not_eq_false'] at fits
  obtain ⟨long, plain⟩ := second_in_range first second _ _ _ fits.2
  split at read
  · cases read
  split at read
  · rename_i third behind ended
    obtain ⟨rfl, rfl⟩ := Prod.mk.inj (Except.ok.inj read)
    exact ⟨[second, third], behind, rfl, rfl, areEncoding_three first second third
      (UInt8.le_iff_toNat_le.mp (UInt8.not_lt.mp two)) (UInt8.lt_iff_toNat_lt.mp three) fits.1 long
      plain ended⟩
  · cases read

theorem isCompleted_four (two : ¬first < 0xE0) (three : ¬first < 0xF0) (four : first < 0xF5) :
    IsCompleted first rest point length := by
  unfold decodeFirst at read
  simp only at read
  rw [if_neg one, if_neg low, if_neg two, if_neg three, if_pos four] at read
  split at read
  · cases read
  rename_i second _
  generalize fits : (!isContinuation second ||
    (if second < 0x90 then first == 0xF0 else first == 0xF4)) = refused at read
  cases refused
  case true => cases read
  simp only [Bool.false_eq_true, if_false] at read
  rw [Bool.or_eq_false_iff, Bool.not_eq_false'] at fits
  obtain ⟨long, bounded⟩ := second_in_range first second _ _ _ fits.2
  split at read
  · cases read
  split at read
  · cases read
  rename_i third _ goesOn
  rw [Bool.not_eq_true, Bool.not_eq_false'] at goesOn
  split at read
  · cases read
  split at read
  · rename_i fourth behind ended
    obtain ⟨rfl, rfl⟩ := Prod.mk.inj (Except.ok.inj read)
    exact ⟨[second, third, fourth], behind, rfl, rfl, areEncoding_four first second third fourth
      (UInt8.le_iff_toNat_le.mp (UInt8.not_lt.mp three)) (UInt8.lt_iff_toNat_lt.mp four) fits.1 long
      bounded goesOn ended⟩
  · cases read

end First

/-- What is read as a code point is its encoding. -/
theorem isCompleted_of_decodeFirst {first : UInt8} {rest : Bytes} {point : CodePoint} {length : Nat}
    (read : decodeFirst first rest = .ok (point, length)) : IsCompleted first rest point length := by
  by_cases one : first < 0x80
  · unfold decodeFirst at read
    simp only at read
    rw [if_pos one] at read
    obtain ⟨rfl, rfl⟩ := Prod.mk.inj (Except.ok.inj read)
    exact ⟨[], rest, rfl, rfl, areEncoding_one first (UInt8.lt_iff_toNat_lt.mp one)⟩
  by_cases low : first < 0xC2
  · unfold decodeFirst at read
    rw [if_neg one, if_pos low] at read
    cases read
  by_cases two : first < 0xE0
  · exact isCompleted_two read one low two
  by_cases three : first < 0xF0
  · exact isCompleted_three read one low two three
  by_cases four : first < 0xF5
  · exact isCompleted_four read one low two three four
  · unfold decodeFirst at read
    rw [if_neg one, if_neg low, if_neg two, if_neg three, if_neg four] at read
    cases read

/-- Bytes that belong to the code point read last are passed over. -/
theorem decodeFrom_append (position : Nat) (pending more : Bytes) :
    decodeFrom position pending.length (pending ++ more) =
      decodeFrom (position + pending.length) 0 more := by
  induction pending generalizing position with
  | nil => rfl
  | cons byte pending ih =>
      rw [List.cons_append, List.length_cons, decodeFrom, ih]
      congr 1
      omega

/-- A text without surrogates is read from its bytes. -/
theorem decodeFrom_encodeAll (text : Text) (plain : ∀ point ∈ text, point.isSurrogate = false)
    (position : Nat) : decodeFrom position 0 (encodeAll text) = .ok text := by
  induction text generalizing position with
  | nil => rfl
  | cons point text ih =>
      obtain ⟨first, others, encoded, decoded⟩ :=
        decodeFirst_encodePoint point (plain point (by simp)) (encodeAll text)
      have whole : encodeAll (point :: text) = first :: (others ++ encodeAll text) := by
        rw [encodeAll, List.flatMap_cons, encoded]
        rfl
      have read := ih (fun other member => plain other (by simp [member]))
        (position + 1 + others.length)
      rw [whole, decodeFrom, decoded]
      simp only [Nat.add_sub_cancel, decodeFrom_append, read]
      rfl

/-- What is read from bytes is a text without surrogates, and the bytes are its encoding. -/
theorem of_decodeFrom (bytes : Bytes) (position : Nat) (text : Text)
    (read : decodeFrom position 0 bytes = .ok text) :
    encodeAll text = bytes ∧ ∀ point ∈ text, point.isSurrogate = false := by
  induction length : bytes.length using Nat.strongRecOn generalizing bytes position text with
  | ind length ih =>
      subst length
      cases bytes with
      | nil =>
          obtain rfl := Except.ok.inj read
          exact ⟨rfl, by simp⟩
      | cons byte rest =>
          rw [decodeFrom] at read
          split at read
          · rename_i point length first
            obtain ⟨others, behind, rfl, rfl, encoding⟩ := isCompleted_of_decodeFirst first
            rw [Nat.add_sub_cancel, decodeFrom_append] at read
            cases found : decodeFrom (position + 1 + others.length) 0 behind with
            | error error =>
                rw [found] at read
                cases read
            | ok later =>
                rw [found] at read
                obtain rfl : point :: later = text := Except.ok.inj read
                have shorter : behind.length < (byte :: (others ++ behind)).length := by
                  rw [List.length_cons, List.length_append]
                  omega
                obtain ⟨bytes, scalar⟩ := ih behind.length shorter behind _ later found rfl
                refine ⟨?_, ?_⟩
                · rw [encodeAll, List.flatMap_cons, encoding.bytes]
                  rw [encodeAll] at bytes
                  rw [bytes]
                  rfl
                · intro other member
                  rcases List.mem_cons.mp member with rfl | member
                  · exact encoding.scalar
                  · exact scalar other member
          · cases read

/-- Bytes are read as a text exactly if they are its encoding. -/
theorem decode_eq_ok_iff (bytes : Bytes) (text : Text) :
    decode bytes = .ok text ↔ encode text = .ok bytes := by
  constructor
  · intro read
    obtain ⟨bytes, scalar⟩ := of_decodeFrom bytes 0 text read
    rw [encode_eq_ok text scalar, bytes]
  · intro encoded
    have scalar := isSurrogate_eq_false_of_encode text bytes encoded
    rw [encode_eq_ok text scalar] at encoded
    rw [← Except.ok.inj encoded]
    exact decodeFrom_encodeAll text scalar 0

/-- Texts without surrogates are determined by their bytes. -/
theorem eq_of_encodeAll (first second : Text) (plain : ∀ point ∈ first, point.isSurrogate = false)
    (otherPlain : ∀ point ∈ second, point.isSurrogate = false)
    (same : encodeAll first = encodeAll second) : first = second := by
  have read := decodeFrom_encodeAll first plain 0
  rw [same, decodeFrom_encodeAll second otherPlain 0] at read
  exact (Except.ok.inj read).symm

end EventForge.Utf8
