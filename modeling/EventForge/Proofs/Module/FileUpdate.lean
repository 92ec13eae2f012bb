import EventForge.Proofs.Files
import EventForge.Proofs.Module.Loading

/-!
# The file of a module

The file of a module is left as it is if it holds the text of the module already, whatever its line
ends are.  Otherwise it is emptied before it is written, so that a text without an encoding leaves an
empty file.
-/

namespace EventForge

open Outcome

namespace ModuleFile

/-!
## Line ends

Reading a text with every line end as a line feed is reading the text of bytes whose line ends have
become line feeds: a byte of a line end stands for itself only.
-/

/-- Bytes with every line end as a line feed: a carriage return, with or without a line feed behind
it, is one. -/
def unifyLineEnds : Bytes → Bytes
  | [] => []
  | byte :: rest =>
      if byte = 0x0D then
        if rest.head? = some 0x0A then unifyLineEnds rest else 0x0A :: unifyLineEnds rest
      else byte :: unifyLineEnds rest

theorem unifyLineEnds_append (bytes more : Bytes) (plain : 0x0D ∉ bytes) :
    unifyLineEnds (bytes ++ more) = bytes ++ unifyLineEnds more := by
  induction bytes with
  | nil => rfl
  | cons byte bytes ih =>
      obtain ⟨own, others⟩ : byte ≠ 0x0D ∧ 0x0D ∉ bytes := by
        simpa [eq_comm, not_or] using plain
      rw [List.cons_append, unifyLineEnds, if_neg own, ih others, List.cons_append]

theorem unifyLineEnds_eq_self (bytes : Bytes) (plain : 0x0D ∉ bytes) :
    unifyLineEnds bytes = bytes := by
  have whole := unifyLineEnds_append bytes [] plain
  rwa [unifyLineEnds, List.append_nil] at whole

theorem head?_encodeAll (text : Text) :
    (Utf8.encodeAll text).head? = some 0x0A ↔ text.head? = some CodePoint.lineFeed := by
  cases text with
  | nil => simp [Utf8.encodeAll]
  | cons point rest =>
      have inhabited : Utf8.encodePoint point ≠ [] := by
        unfold Utf8.encodePoint
        dsimp only
        split_ifs <;> simp
      have first : (Utf8.encodeAll (point :: rest)).head? = (Utf8.encodePoint point).head? := by
        rw [Utf8.encodeAll, List.flatMap_cons, List.head?_append_of_ne_nil _ inhabited]
      rw [first, List.head?_cons]
      constructor
      · intro feed
        have inside := List.mem_of_head? feed
        rw [Utf8.mem_encodePoint_of_low 0x0A (by decide)] at inside
        exact congrArg some (Fin.ext inside)
      · intro feed
        rw [Option.some.inj feed]
        rfl

theorem encodeAll_universalLines (text : Text) :
    Utf8.encodeAll (universalLines text) = unifyLineEnds (Utf8.encodeAll text) := by
  induction text with
  | nil => rfl
  | cons point rest ih =>
      have split (first : CodePoint) (others : Text) : Utf8.encodeAll (first :: others) =
          Utf8.encodePoint first ++ Utf8.encodeAll others := List.flatMap_cons
      have low := Utf8.mem_encodePoint_of_low 0x0D (by decide) point
      rw [universalLines, split]
      by_cases ends : point.val = 0x0D
      · obtain rfl : point = 0x0D := Fin.ext ends
        have one : Utf8.encodePoint 0x0D = [0x0D] := rfl
        rw [if_pos ends, one, List.singleton_append, unifyLineEnds, if_pos rfl]
        simp only [head?_encodeAll]
        split_ifs
        · exact ih
        · rw [split, ih]
          rfl
      · rw [if_neg ends, split, ih, unifyLineEnds_append _ _ fun inside => ends (low.mp inside)]

/-- Uniform line ends bring no surrogate into a text. -/
theorem isSurrogate_universalLines (text : Text)
    (plain : ∀ point ∈ text, point.isSurrogate = false) :
    ∀ point ∈ universalLines text, point.isSurrogate = false := by
  induction text with
  | nil => simp [universalLines]
  | cons first rest ih =>
      obtain ⟨own, others⟩ := List.forall_mem_cons.mp plain
      have further := ih others
      rw [universalLines]
      split_ifs
      · exact further
      · exact List.forall_mem_cons.mpr ⟨by decide, further⟩
      · exact List.forall_mem_cons.mpr ⟨own, further⟩

theorem unifyLineEnds_encodeAll (text : Text) (plain : ∀ point ∈ text, point.val ≠ 0x0D) :
    unifyLineEnds (Utf8.encodeAll text) = Utf8.encodeAll text := by
  rw [← encodeAll_universalLines, Script.universalLines_eq_self text plain]

/-!
## What a file holds
-/

variable {tree after : FileTree} {path code : Text}

/-- The text that is read from a file is encoded by the bytes of the file, up to line ends. -/
theorem of_readText {text : Text} (isRead : readText tree path = .ok text) :
    ∃ content, tree.read path = .ok content ∧ Utf8.encode text = .ok (unifyLineEnds content) := by
  rw [readText, bind_eq_ok_iff] at isRead
  obtain ⟨content, found, isRead⟩ := isRead
  obtain ⟨own, decoded, isRead⟩ := (bind_eq_ok_iff _ _ _).mp isRead
  obtain rfl := Except.ok.inj isRead
  obtain ⟨bytes, plain⟩ := Utf8.of_decodeFrom content 0 own ((mapError_eq_ok_iff _ _ _).mp decoded)
  refine ⟨content, (mapError_eq_ok_iff _ _ _).mp found, ?_⟩
  rw [Utf8.encode_eq_ok _ (isSurrogate_universalLines own plain), encodeAll_universalLines, bytes]

/-- A text without carriage returns is read from the file that its bytes make. -/
theorem readText_of_read (plain : ∀ point ∈ code, point.val ≠ 0x0D) {content : Bytes}
    (encoded : Utf8.encode code = .ok content) (isRead : tree.read path = .ok content) :
    readText tree path = .ok code := by
  simp [readText, isRead, (Utf8.decode_eq_ok_iff content code).mpr encoded,
    Script.universalLines_eq_self code plain]

theorem isThere_of_read {content : Bytes} (isRead : tree.read path = .ok content) :
    tree.isThere path = .ok true := by
  obtain ⟨place, walked, found⟩ := (FileTree.read_eq_ok_iff _ _ _).mp isRead
  have looked := (FileTree.look_eq_ok_iff _ _ _).mpr ⟨place, walked, found⟩
  rw [FileTree.isThere, looked]

theorem holds_of_readText {text : Text} (isRead : readText tree path = .ok text) :
    holds tree path code = .ok (text == code) := by
  obtain ⟨content, found, _⟩ := of_readText isRead
  rw [holds, isThere_of_read found]
  simp [isRead, Except.map]

/-- What is asked about a file tells whether the file is there, and which text it has. -/
theorem holds_cases (answer : Bool) (asked : holds tree path code = .ok answer) :
    (answer = false ∧ ∀ content, tree.read path ≠ .ok content) ∨
      ∃ text, readText tree path = .ok text ∧ answer = (text == code) := by
  cases there : tree.isThere path with
  | error fault => simp [holds, there] at asked
  | ok isThere =>
      cases isThere with
      | false =>
          obtain rfl : false = answer := by simpa [holds, there] using asked
          refine .inl ⟨rfl, fun content isRead => ?_⟩
          rw [isThere_of_read isRead] at there
          cases there
      | true =>
          cases isRead : readText tree path with
          | error fault => simp [holds, there, isRead, Except.map] at asked
          | ok text =>
              rw [holds_of_readText isRead] at asked
              exact .inr ⟨text, rfl, (Except.ok.inj asked).symm⟩

theorem holds_ne_encoding (error : Utf8EncodeError) :
    holds tree path code ≠ .error (.encoding error) := by
  have reads : readText tree path ≠ .error (.encoding error) := by
    rw [readText]
    cases tree.read path with
    | error fault => simp
    | ok content => cases decoded : Utf8.decode content <;> simp [decoded]
  rw [holds]
  split
  · simp
  · simp
  · intro asked
    cases found : readText tree path with
    | error fault =>
        rw [found] at asked reads
        exact reads (congrArg Except.error (Except.error.inj asked))
    | ok text =>
        rw [found] at asked
        cases asked

/-!
## Replacing what a file holds

A file is emptied, which makes its directories, before the new text is encoded.  Once it is emptied,
nothing but the encoding can fail.
-/

theorem replace_cases {answer : Except WriteFault Unit} (made : replace tree path code = (answer, after)) :
    (∃ fault, tree.put path [] = .error fault ∧ answer = .error (.file fault) ∧
      tree.Extends after) ∨
    (∃ error, tree.put path [] = .ok after ∧ Utf8.encode code = .error error ∧
      answer = .error (.encoding error)) ∨
    ∃ content, Utf8.encode code = .ok content ∧ tree.put path content = .ok after ∧
      answer = .ok () := by
  rw [replace] at made
  cases isPut : tree.put path [] with
  | error fault =>
      simp only [isPut] at made
      obtain ⟨rfl, rfl⟩ := Prod.mk.inj made
      exact .inl ⟨fault, rfl, rfl, FileTree.extends_makeDirectories _ _⟩
  | ok emptied =>
      simp only [isPut] at made
      cases encoded : Utf8.encode code with
      | error error =>
          simp only [encoded] at made
          obtain ⟨rfl, rfl⟩ := Prod.mk.inj made
          exact .inr (.inl ⟨error, rfl, rfl, rfl⟩)
      | ok content =>
          simp only [encoded] at made
          obtain ⟨final, again⟩ := FileTree.exists_put_of_put isPut content
          simp only [again] at made
          obtain ⟨rfl, rfl⟩ := Prod.mk.inj made
          exact .inr (.inr ⟨content, rfl, again, rfl⟩)

/-- A text with an encoding replaces what a file holds if the file can be emptied. -/
theorem replace_eq_ok {content : Bytes} (encoded : Utf8.encode code = .ok content) {emptied : FileTree}
    (isPut : tree.put path [] = .ok emptied) :
    ∃ final, replace tree path code = (.ok (), final) ∧ tree.put path content = .ok final := by
  rcases replace_cases (rfl : replace tree path code = (_, _)) with
    ⟨fault, refused, _⟩ | ⟨error, _, unencodable, _⟩ | ⟨own, ownEncoded, final, isOk⟩
  · rw [isPut] at refused
    cases refused
  · rw [encoded] at unencodable
    cases unencodable
  · rw [encoded] at ownEncoded
    obtain rfl := Except.ok.inj ownEncoded
    exact ⟨_, Prod.ext isOk rfl, final⟩

/-!
## Updating a file
-/

theorem update_cases {result : Except WriteFault Bool} (made : update tree path code = (result, after)) :
    (∃ fault, holds tree path code = .error fault ∧ result = .error fault ∧ after = tree) ∨
    (holds tree path code = .ok true ∧ result = .ok false ∧ after = tree) ∨
    (holds tree path code = .ok false ∧ ∃ answer, replace tree path code = (answer, after) ∧
      result = answer.map fun _ => true) := by
  rw [update] at made
  split at made
  · rename_i fault asked
    obtain ⟨rfl, rfl⟩ := Prod.mk.inj made
    exact .inl ⟨fault, asked, rfl, rfl⟩
  · rename_i asked
    obtain ⟨rfl, rfl⟩ := Prod.mk.inj made
    exact .inr (.inl ⟨asked, rfl, rfl⟩)
  · rename_i asked
    refine .inr (.inr ⟨asked, (replace tree path code).1, ?_⟩)
    split at made
    · rename_i fault final replaced
      obtain ⟨rfl, rfl⟩ := Prod.mk.inj made
      rw [replaced]
      exact ⟨rfl, rfl⟩
    · rename_i final replaced
      obtain ⟨rfl, rfl⟩ := Prod.mk.inj made
      rw [replaced]
      exact ⟨rfl, rfl⟩

/-- A file that holds a text is not written. -/
theorem update_of_readText (isRead : readText tree path = .ok code) :
    update tree path code = (.ok false, tree) := by
  have asked : holds tree path code = .ok true := by simp [holds_of_readText isRead]
  rw [update, asked]

/-- A text that a file does not hold is written if it has an encoding and the file can be emptied. -/
theorem update_of_encodable (asked : holds tree path code = .ok false) {content : Bytes}
    (encoded : Utf8.encode code = .ok content) {emptied : FileTree}
    (isPut : tree.put path [] = .ok emptied) :
    ∃ final, update tree path code = (.ok true, final) ∧ tree.put path content = .ok final := by
  obtain ⟨final, replaced, again⟩ := replace_eq_ok encoded isPut
  refine ⟨final, ?_, again⟩
  rw [update, asked]
  simp only [replaced]

/-- A text without an encoding leaves a file empty that did not hold it. -/
theorem update_of_unencodable (asked : holds tree path code = .ok false) {error : Utf8EncodeError}
    (failed : Utf8.encode code = .error error) {emptied : FileTree}
    (isPut : tree.put path [] = .ok emptied) :
    update tree path code = (.error (.encoding error), emptied) := by
  rw [update, asked]
  simp only [replace, isPut, failed]

/-- What an update that returns has done: the file held the text, or the text was put there. -/
theorem of_update {written : Bool} (updated : update tree path code = (.ok written, after)) :
    (written = false ∧ after = tree ∧ readText tree path = .ok code) ∨
    (written = true ∧ holds tree path code = .ok false ∧
      ∃ content, Utf8.encode code = .ok content ∧ tree.put path content = .ok after) := by
  rcases update_cases updated with ⟨fault, _, same, _⟩ | ⟨asked, same, rfl⟩ |
    ⟨asked, answer, replaced, same⟩
  · cases same
  · obtain rfl := Except.ok.inj same
    rcases holds_cases true asked with ⟨same, _⟩ | ⟨text, isRead, same⟩
    · cases same
    · rw [eq_comm, beq_iff_eq] at same
      exact .inl ⟨rfl, rfl, same ▸ isRead⟩
  · rcases replace_cases replaced with ⟨_, _, rfl, _⟩ | ⟨_, _, _, rfl⟩ | ⟨content, encoded, isPut, rfl⟩
    · cases same
    · cases same
    · exact .inr ⟨Except.ok.inj same, asked, content, encoded, isPut⟩

/-- After an update that returns, the text is read from the file, if it has no carriage return. -/
theorem readText_of_update (plain : ∀ point ∈ code, point.val ≠ 0x0D) {written : Bool}
    (updated : update tree path code = (.ok written, after)) : readText after path = .ok code := by
  rcases of_update updated with ⟨_, rfl, isRead⟩ | ⟨_, _, content, encoded, isPut⟩
  · exact isRead
  · exact readText_of_read plain encoded (FileTree.writes_put isPut).isRead

/-- An update fails at the encoding of the text only after it has emptied the file. -/
theorem of_update_encoding {error : Utf8EncodeError}
    (updated : update tree path code = (.error (.encoding error), after)) :
    Utf8.encode code = .error error ∧ tree.put path [] = .ok after := by
  rcases update_cases updated with ⟨fault, asked, same, _⟩ | ⟨_, same, _⟩ |
    ⟨_, answer, replaced, same⟩
  · rw [← Except.error.inj same] at asked
    exact absurd asked (holds_ne_encoding error)
  · cases same
  · rcases replace_cases replaced with ⟨_, _, rfl, _⟩ | ⟨own, isPut, encoded, rfl⟩ | ⟨_, _, _, rfl⟩
    · cases same
    · obtain rfl : error = own := WriteFault.encoding.inj (Except.error.inj same)
      exact ⟨encoded, isPut⟩
    · cases same

/-!
## Writing the module of an accepted schema

The text of the module has no carriage return, so that what is written is read back.  It may have
surrogates, in labels and in the path of the source.
-/

/-- A home directory with the file of a module. -/
def homeWith (content : Bytes) : FileTree :=
  { home := "/", entries := [(["events.py"], .file content)] }

theorem read_homeWith (content : Bytes) : (homeWith content).read "events.py" = .ok content := rfl

theorem put_homeWith (old content : Bytes) :
    (homeWith old).put "events.py" content = .ok (homeWith content) := rfl

/-- A file that is no module of a schema. -/
def strayText : Text := "pass\n"

/-- The file does not hold the text of a module: that begins with a quote. -/
theorem holds_strayText (module : EventModule) :
    holds (homeWith (Utf8.encodeAll strayText)) "events.py" (ModuleText.write module) =
      .ok false := by
  have plain : (strayText.all fun point => point.val ≠ 0x0D) = true := by decide
  have isRead : readText (homeWith (Utf8.encodeAll strayText)) "events.py" = .ok strayText :=
    readText_of_read (fun point member => of_decide_eq_true (List.all_eq_true.mp plain point member))
      rfl (read_homeWith _)
  have apart : strayText ≠ ModuleText.write module := by
    intro same
    have first := congrArg List.head? same
    cases first
  simp [holds_of_readText isRead, apart]

theorem compileRaw_labelledSchema (label : Text) :
    Compilation.compileRaw (Compilation.labelledSchema label) none =
      .ok (Compilation.schemaOf (Compilation.labelledSchema label) none) :=
  Compilation.compileRaw_eq _ none (Compilation.valid_labelledSchema label)

theorem encode_labelledSchema (label : Text) (scalar : label.any CodePoint.isSurrogate = false) :
    ∃ content, Utf8.encode (ModuleText.write (.ofCompiled
      (Compilation.schemaOf (Compilation.labelledSchema label) none))) = .ok content := by
  have accepted := (Validation.errors_eq_nil_iff _).mp (Compilation.valid_labelledSchema label)
  have labels : ∀ event ∈ (Compilation.labelledSchema label).events, ∀ point ∈ event.typeLabel,
      point.isSurrogate = false := by
    intro event member
    obtain rfl := List.mem_singleton.mp member
    simpa using List.any_eq_false.mp scalar
  exact ⟨_, Utf8.encode_eq_ok _ (Compilation.isSurrogate_write _ none accepted labels
    fun path given => by cases given)⟩

/-- The module of a schema is written over what is no module. -/
theorem write_over_strayText (label : Text) (scalar : label.any CodePoint.isSurrogate = false) :
    ∃ after, write (homeWith (Utf8.encodeAll strayText)) "events.py"
      (Compilation.schemaOf (Compilation.labelledSchema label) none) = (.ok true, after) := by
  obtain ⟨content, encoded⟩ := encode_labelledSchema label scalar
  obtain ⟨after, updated, _⟩ :=
    update_of_encodable (holds_strayText _) encoded (put_homeWith _ [])
  exact ⟨after, updated⟩

variable {raw : RawSchema} {sourcePath : Option Text} {schema : CompiledSchema}

theorem return_not_mem_text (compiled : Compilation.compileRaw raw sourcePath = .ok schema) :
    ∀ point ∈ ModuleText.write (.ofCompiled schema), point.val ≠ 0x0D := by
  obtain ⟨accepted, rfl⟩ := Compilation.of_compileRaw _ _ _ compiled
  exact Compilation.return_not_mem_write raw sourcePath accepted

/-- A file that is written holds the encoding of the module, and a file that is left holds it up to
line ends: the file is left exactly if its bytes were the encoding but for the line ends. -/
theorem write_is_exact (compiled : Compilation.compileRaw raw sourcePath = .ok schema)
    {written : Bool} (returns : write tree path schema = (.ok written, after)) :
    ∃ code content, Utf8.encode (ModuleText.write (.ofCompiled schema)) = .ok code ∧
      after.read (FilePath.normal path) = .ok content ∧ unifyLineEnds content = code ∧
      (written = true ∨ 0x0D ∉ content → content = code) ∧
      (written = true ↔ ∀ old, tree.read (FilePath.normal path) = .ok old →
        unifyLineEnds old ≠ code) := by
  have plain := return_not_mem_text compiled
  rcases of_update returns with ⟨rfl, rfl, isRead⟩ | ⟨rfl, asked, code, encoded, isPut⟩
  · obtain ⟨content, found, encoded⟩ := of_readText isRead
    refine ⟨_, content, encoded, found, rfl, ?_, ?_⟩
    · rintro (same | bare)
      · cases same
      · exact (unifyLineEnds_eq_self content bare).symm
    · simp only [Bool.false_eq_true, false_iff]
      exact fun every => every content found rfl
  · have own : Utf8.encodeAll (ModuleText.write (.ofCompiled schema)) = code := by
      have scalar := Utf8.isSurrogate_eq_false_of_encode _ _ encoded
      rw [Utf8.encode_eq_ok _ scalar] at encoded
      exact Except.ok.inj encoded
    refine ⟨code, code, encoded, (FileTree.writes_put isPut).isRead, ?_, fun _ => rfl, ?_⟩
    · rw [← own, unifyLineEnds_encodeAll _ plain]
    · simp only [true_iff]
      intro old found same
      rcases holds_cases false asked with ⟨_, absent⟩ | ⟨text, isRead, differs⟩
      · exact absent old found
      · obtain ⟨content, again, textEncoded⟩ := of_readText isRead
        obtain rfl := Except.ok.inj (found.symm.trans again)
        rw [same, ← Utf8.decode_eq_ok_iff] at textEncoded
        rw [← Utf8.decode_eq_ok_iff, textEncoded] at encoded
        simp [Except.ok.inj encoded] at differs

/-- A module is written over what is no module. -/
theorem labelledSchema_written_exactly : ∃ schema after code,
    Compilation.compileRaw (Compilation.labelledSchema "sign-in") none = .ok schema ∧
      write (homeWith (Utf8.encodeAll strayText)) "events.py" schema = (.ok true, after) ∧
      Utf8.encode (ModuleText.write (.ofCompiled schema)) = .ok code ∧
      after.read "events.py" = .ok code := by
  have compiled := compileRaw_labelledSchema "sign-in"
  obtain ⟨after, written⟩ := write_over_strayText "sign-in" (by decide)
  obtain ⟨code, _, encoded, isRead, _, exactly, _⟩ := write_is_exact compiled written
  rw [exactly (.inl rfl)] at isRead
  exact ⟨_, after, code, compiled, written, encoded, isRead⟩

/-- A text with a carriage return in front of every line feed. -/
def returnLines (text : Text) : Text :=
  text.flatMap fun point =>
    if point = CodePoint.lineFeed then [0x0D, CodePoint.lineFeed] else [point]

theorem universalLines_returnLines (text : Text) (plain : ∀ point ∈ text, point.val ≠ 0x0D) :
    universalLines (returnLines text) = text := by
  induction text with
  | nil => rfl
  | cons point rest ih =>
      obtain ⟨own, others⟩ := List.forall_mem_cons.mp plain
      have further := ih others
      rw [returnLines, List.flatMap_cons]
      rw [returnLines] at further
      split_ifs with feed
      · subst feed
        have ends : (0x0D : CodePoint).val = 0x0D := rfl
        rw [List.cons_append, List.singleton_append, universalLines, if_pos ends, List.head?_cons,
          if_pos rfl, universalLines, if_neg own, further]
      · rw [List.singleton_append, universalLines, if_neg own, further]

theorem return_mem_returnLines (text : Text) (feed : CodePoint.lineFeed ∈ text) :
    0x0D ∈ returnLines text :=
  List.mem_flatMap.mpr ⟨_, feed, by simp⟩

theorem isSurrogate_returnLines (text : Text) (plain : ∀ point ∈ text, point.isSurrogate = false) :
    ∀ point ∈ returnLines text, point.isSurrogate = false := by
  intro point member
  obtain ⟨own, ownMember, inside⟩ := List.mem_flatMap.mp member
  split_ifs at inside with feed
  · obtain rfl | rfl : point = 0x0D ∨ point = CodePoint.lineFeed := by simpa using inside
    · decide
    · decide
  · rw [List.mem_singleton.mp inside]
    exact plain own ownMember

theorem readText_returnLines (text : Text) (scalar : ∀ point ∈ text, point.isSurrogate = false)
    (plain : ∀ point ∈ text, point.val ≠ 0x0D) :
    readText (homeWith (Utf8.encodeAll (returnLines text))) "events.py" = .ok text := by
  have decoded : Utf8.decode (Utf8.encodeAll (returnLines text)) = .ok (returnLines text) :=
    (Utf8.decode_eq_ok_iff _ _).mpr (Utf8.encode_eq_ok _ (isSurrogate_returnLines text scalar))
  simp [readText, read_homeWith, decoded, universalLines_returnLines text plain]

/-- A file that holds the text of a module with other line ends is left as it is. -/
theorem labelledSchema_left_unequal : ∃ schema old,
    Compilation.compileRaw (Compilation.labelledSchema "sign-in") none = .ok schema ∧
      (homeWith old).read "events.py" = .ok old ∧
      write (homeWith old) "events.py" schema = (.ok false, homeWith old) ∧
      Utf8.encode (ModuleText.write (.ofCompiled schema)) ≠ .ok old := by
  have compiled := compileRaw_labelledSchema "sign-in"
  have plain := return_not_mem_text compiled
  obtain ⟨code, encoded⟩ := encode_labelledSchema "sign-in" (by decide)
  have scalar := Utf8.isSurrogate_eq_false_of_encode _ _ encoded
  have feed : CodePoint.lineFeed ∈ ModuleText.write (.ofCompiled
      (Compilation.schemaOf (Compilation.labelledSchema "sign-in") none)) :=
    List.mem_append_right _ (List.mem_singleton.mpr rfl)
  refine ⟨_, _, compiled, read_homeWith _, update_of_readText
    (readText_returnLines _ scalar plain), fun same => ?_⟩
  rw [Utf8.encode_eq_ok _ scalar] at same
  have texts := Utf8.eq_of_encodeAll _ _ scalar (isSurrogate_returnLines _ scalar)
    (Except.ok.inj same)
  rw [texts] at plain
  exact plain 0x0D (return_mem_returnLines _ feed) rfl

/-- Once a module is written, it is not written again, and any other module that can be encoded is
written exactly if its text is another one. -/
theorem write_again (compiled : Compilation.compileRaw raw sourcePath = .ok schema)
    {written : Bool} (returns : write tree path schema = (.ok written, after)) :
    write after path schema = (.ok false, after) ∧
      ∀ other content, Utf8.encode (ModuleText.write (.ofCompiled other)) = .ok content →
        ∃ changed final, write after path other = (.ok changed, final) ∧
          (changed = true ↔ ModuleText.write (.ofCompiled other) ≠
            ModuleText.write (.ofCompiled schema)) ∧
          (changed = true → final.read (FilePath.normal path) = .ok content) := by
  have isRead := readText_of_update (return_not_mem_text compiled) returns
  refine ⟨update_of_readText isRead, fun other content encoded => ?_⟩
  by_cases same : ModuleText.write (.ofCompiled schema) = ModuleText.write (.ofCompiled other)
  · exact ⟨false, after, update_of_readText (same ▸ isRead), by simp [same], by simp⟩
  · obtain ⟨old, found, _⟩ := of_readText isRead
    obtain ⟨emptied, isPut⟩ :=
      FileTree.exists_put_of_read (FilePath.normal_normal path) found []
    obtain ⟨final, updated, isPut⟩ :=
      update_of_encodable (by simp [holds_of_readText isRead, same]) encoded isPut
    exact ⟨true, final, updated, by simp [Ne.symm same],
      fun _ => (FileTree.writes_put isPut).isRead⟩

theorem isLoadable_labelledSchema (label : Text)
    (points : (label.any fun point => point == 0 || point.isSurrogate) = false) :
    (Compilation.labelledSchema label).IsLoadable none where
  plain := by
    refine ⟨fun event member => ?_, fun event member field fieldMember => ?_⟩ <;>
      obtain rfl := List.mem_singleton.mp member
    · exact (by decide : Identifier.isPlain "login" = true)
    · rw [List.mem_singleton.mp fieldMember]
      exact (by decide : Identifier.isPlain timeName = true)
  marked event member field fieldMember := by
    obtain rfl := List.mem_singleton.mp member
    rw [List.mem_singleton.mp fieldMember]
    change Identifier.attributeName timeName ≠ ModuleText.classMark
    rw [Validation.attributeName_timeName]
    decide
  labels event member point inside := by
    obtain rfl := List.mem_singleton.mp member
    simpa using List.any_eq_false.mp points point inside
  source path given := by cases given

/-- Another label makes another module, unless it is the same on one line without quotes. -/
theorem safeLabel_of_labelledSchema (first second : Text)
    (firstPoints : (first.any fun point => point == 0 || point.isSurrogate) = false)
    (secondPoints : (second.any fun point => point == 0 || point.isSurrogate) = false)
    (same : ModuleText.write (Compilation.moduleOf (Compilation.labelledSchema first) none) =
      ModuleText.write (Compilation.moduleOf (Compilation.labelledSchema second) none)) :
    EventClass.safeLabel first = EventClass.safeLabel second := by
  have isRead (label : Text)
      (points : (label.any fun point => point == 0 || point.isSurrogate) = false) :=
    Compilation.read_of_isLoadable (Compilation.labelledSchema label) none
      ((Validation.errors_eq_nil_iff _).mp (Compilation.valid_labelledSchema label))
      (List.cons_ne_nil _ _) (isLoadable_labelledSchema label points)
  have labels (label : Text) :
      (Compilation.moduleOf (Compilation.labelledSchema label) none).classes.map EventClass.label =
        [EventClass.safeLabel label] := by
    have events : Validation.sortEvents (Compilation.labelledSchema label).events =
        (Compilation.labelledSchema label).events := List.mergeSort_singleton _
    rw [Compilation.classes_moduleOf, events]
    rfl
  have modules : Compilation.moduleOf (Compilation.labelledSchema first) none =
      Compilation.moduleOf (Compilation.labelledSchema second) none := by
    have again := isRead second secondPoints
    rw [← same, isRead first firstPoints] at again
    exact Except.ok.inj again
  have found := labels first
  rw [modules, labels second] at found
  exact (List.singleton_inj.mp found).symm

/-- A module is written once, and gives way to the module of another label. -/
theorem labelledSchema_written_once : ∃ schema other after final code,
    Compilation.compileRaw (Compilation.labelledSchema "sign-in") none = .ok schema ∧
      Compilation.compileRaw (Compilation.labelledSchema "sign-out") none = .ok other ∧
      write (homeWith (Utf8.encodeAll strayText)) "events.py" schema = (.ok true, after) ∧
      write after "events.py" schema = (.ok false, after) ∧
      write after "events.py" other = (.ok true, final) ∧
      Utf8.encode (ModuleText.write (.ofCompiled other)) = .ok code ∧
      final.read "events.py" = .ok code := by
  have compiled := compileRaw_labelledSchema "sign-in"
  obtain ⟨after, written⟩ := write_over_strayText "sign-in" (by decide)
  obtain ⟨again, others⟩ := write_again compiled written
  obtain ⟨code, encoded⟩ := encode_labelledSchema "sign-out" (by decide)
  obtain ⟨changed, final, updated, differs, isRead⟩ := others _ code encoded
  have apart : ModuleText.write (Compilation.moduleOf (Compilation.labelledSchema "sign-out") none) ≠
      ModuleText.write (Compilation.moduleOf (Compilation.labelledSchema "sign-in") none) :=
    fun same => absurd (safeLabel_of_labelledSchema "sign-out" "sign-in" (by decide) (by decide) same)
      (by decide)
  obtain rfl := differs.mpr apart
  exact ⟨_, _, after, final, code, compiled, compileRaw_labelledSchema "sign-out", written, again,
    updated, encoded, isRead rfl⟩

/-- Whether a schema takes over a surrogate, in a label or in the path of its source. -/
def TakesSurrogate (raw : RawSchema) (sourcePath : Option Text) : Prop :=
  (∃ event ∈ raw.events, ∃ point ∈ event.typeLabel, point.isSurrogate = true) ∨
    ∃ source, (sourcePath <|> raw.path) = some source ∧ ∃ point ∈ source, point.isSurrogate = true

/-- The text of the module cannot be encoded exactly if the schema takes over a surrogate. -/
theorem encode_eq_error_iff (compiled : Compilation.compileRaw raw sourcePath = .ok schema) :
    (∃ error, Utf8.encode (ModuleText.write (.ofCompiled schema)) = .error error) ↔
      TakesSurrogate raw sourcePath := by
  obtain ⟨accepted, rfl⟩ := Compilation.of_compileRaw _ _ _ compiled
  clear compiled
  change (∃ error, Utf8.encode (ModuleText.write (Compilation.moduleOf raw sourcePath)) =
    .error error) ↔ _
  constructor
  · rintro ⟨error, failed⟩
    refine Classical.byContradiction fun takesNone => ?_
    simp only [TakesSurrogate, not_or, not_exists, not_and, Bool.not_eq_true] at takesNone
    rw [Utf8.encode_eq_ok _ (Compilation.isSurrogate_write raw sourcePath accepted takesNone.1
      takesNone.2)] at failed
    cases failed
  · intro takes
    cases encoded : Utf8.encode (ModuleText.write (Compilation.moduleOf raw sourcePath)) with
    | error error => exact ⟨error, rfl⟩
    | ok content =>
        obtain ⟨labels, source⟩ := Compilation.encodable_of_encode raw sourcePath content encoded
        rcases takes with ⟨event, member, point, own, surrogate⟩ | ⟨path, given, point, own, surrogate⟩
        · rw [labels event member point own] at surrogate
          cases surrogate
        · rw [source path given point own] at surrogate
          cases surrogate

/-- A write that fails at the encoding of the module leaves its file empty, whatever it held, and
changes nothing else but for the directories above the file. -/
theorem write_empties_file (compiled : Compilation.compileRaw raw sourcePath = .ok schema)
    {error : Utf8EncodeError}
    (failed : write tree path schema = (.error (.encoding error), after)) :
    TakesSurrogate raw sourcePath ∧ tree.Writes (FilePath.normal path) [] after ∧
      (after.read (FilePath.normal path) = tree.read (FilePath.normal path) ↔
        tree.read (FilePath.normal path) = .ok []) := by
  obtain ⟨encoded, isPut⟩ := of_update_encoding failed
  have emptied := FileTree.writes_put isPut
  refine ⟨(encode_eq_error_iff compiled).mp ⟨error, encoded⟩, emptied, ?_⟩
  rw [emptied.isRead, eq_comm]

/-- A label that is one surrogate. -/
def loneSurrogate : Text := [0xD800]

/-- The module of a schema with a surrogate for a label empties what is no module. -/
theorem write_loneSurrogate : ∃ error, write (homeWith (Utf8.encodeAll strayText)) "events.py"
    (Compilation.schemaOf (Compilation.labelledSchema loneSurrogate) none) =
      (.error (.encoding error), homeWith []) := by
  have takes : TakesSurrogate (Compilation.labelledSchema loneSurrogate) none :=
    .inl ⟨_, List.mem_singleton.mpr rfl, 0xD800, List.mem_singleton.mpr rfl, rfl⟩
  obtain ⟨error, failed⟩ :=
    (encode_eq_error_iff (compileRaw_labelledSchema loneSurrogate)).mpr takes
  exact ⟨error, update_of_unencodable (holds_strayText _) failed (put_homeWith _ [])⟩

theorem loneSurrogate_empties_file : ∃ schema error after,
    Compilation.compileRaw (Compilation.labelledSchema loneSurrogate) none = .ok schema ∧
      write (homeWith (Utf8.encodeAll strayText)) "events.py" schema =
        (.error (.encoding error), after) ∧ after.read "events.py" = .ok [] := by
  have compiled := compileRaw_labelledSchema loneSurrogate
  obtain ⟨error, failed⟩ := write_loneSurrogate
  exact ⟨_, error, _, compiled, failed, (write_empties_file compiled failed).2.1.isRead⟩

/-- A write that fails does not keep what the file held. -/
theorem loneSurrogate_loses_content : ∃ schema error after,
    Compilation.compileRaw (Compilation.labelledSchema loneSurrogate) none = .ok schema ∧
      write (homeWith (Utf8.encodeAll strayText)) "events.py" schema =
        (.error (.encoding error), after) ∧
      after.read "events.py" ≠ (homeWith (Utf8.encodeAll strayText)).read "events.py" := by
  obtain ⟨error, failed⟩ := write_loneSurrogate
  refine ⟨_, error, _, compileRaw_labelledSchema loneSurrogate, failed, ?_⟩
  rw [read_homeWith, read_homeWith]
  decide

end ModuleFile

end EventForge
