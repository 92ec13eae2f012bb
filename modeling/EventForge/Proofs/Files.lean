import EventForge.Files
import EventForge.Proofs.Outcome
import EventForge.Proofs.Text.Pieces

/-!
# Files that are written

What is written to a path is read from it, and everything else stays as it is: only directories that
were missing above the path appear.  Where a file can be read, it can be written as well.
-/

namespace EventForge

open Outcome

/-!
## Names of paths

A path without needless parts is made of its names, and its names are read off from it again.
-/

namespace FilePath

/-- Whether a text is a single name that leads somewhere. -/
structure IsName (name : Text) : Prop where
  inhabited : name ≠ []
  whole : CodePoint.ofChar '/' ∉ name
  moves : name ≠ "."

theorem isName_of_mem_names (path : Text) : ∀ name ∈ names path, IsName name := by
  intro name member
  obtain ⟨piece, kept⟩ := List.mem_filter.mp member
  simp only [Bool.and_eq_true, Bool.not_eq_true', List.isEmpty_eq_false_iff, decide_eq_true_eq] at kept
  exact ⟨kept.1, fun inside => (Text.mem_splitAt _ path name piece _ inside).2 rfl, kept.2⟩

theorem names_join (list : List Text) (each : ∀ name ∈ list, IsName name) :
    names (Text.join "/" list) = list := by
  cases list with
  | nil => rfl
  | cons name others =>
      have split := Text.splitAt_join '/' (name :: others) (List.cons_ne_nil _ _)
        fun other member => (each other member).whole
      have slash : ("/" : Text) = [CodePoint.ofChar '/'] := rfl
      rw [names, slash, split, List.filter_eq_self]
      intro other member
      obtain ⟨inhabited, _, moves⟩ := each other member
      simp [inhabited, moves]

theorem names_pathOf (absolute : Bool) (list : List Text) (each : ∀ name ∈ list, IsName name) :
    names (FileTree.pathOf absolute list) = list := by
  cases absolute with
  | true =>
      have begins : names (root ++ Text.join "/" list) = names (Text.join "/" list) := rfl
      rw [FileTree.pathOf, if_pos rfl, begins, names_join list each]
  | false =>
      cases list with
      | nil => rfl
      | cons name others =>
          have made : FileTree.pathOf false (name :: others) = Text.join "/" (name :: others) := rfl
          rw [made, names_join _ each]

theorem startsWith_pathOf (absolute : Bool) (list : List Text) (each : ∀ name ∈ list, IsName name) :
    (FileTree.pathOf absolute list).startsWith root = absolute := by
  cases absolute with
  | true => rfl
  | false =>
      cases list with
      | nil => rfl
      | cons name others =>
          obtain ⟨inhabited, whole, _⟩ := each name (by simp)
          cases name with
          | nil => exact absurd rfl inhabited
          | cons point name =>
              have apart : CodePoint.ofChar '/' ≠ point := by
                rintro rfl
                exact whole (by simp)
              have begins : ∃ rest, Text.join "/" ((point :: name) :: others) = point :: rest := by
                cases others <;> exact ⟨_, rfl⟩
              obtain ⟨rest, begins⟩ := begins
              have made : FileTree.pathOf false ((point :: name) :: others) =
                  Text.join "/" ((point :: name) :: others) := rfl
              rw [made, begins]
              simp [Text.startsWith, root, Text.ofString, List.isPrefixOf, apart]

theorem normal_eq (path : Text) :
    normal path = FileTree.pathOf (path.startsWith root) (names path) := by
  have empty : (Text.join "/" (names path)).isEmpty = (names path).isEmpty := by
    cases found : names path with
    | nil => rfl
    | cons name others =>
        have inhabited := (isName_of_mem_names path name (by simp [found])).inhabited
        cases name with
        | nil => exact absurd rfl inhabited
        | cons => cases others <;> rfl
  rw [normal, FileTree.pathOf]
  simp only [empty]
  rfl

/-- Nothing is needless in a path without needless parts. -/
theorem normal_normal (path : Text) : normal (normal path) = normal path := by
  have each := isName_of_mem_names path
  rw [normal_eq path, normal_eq, startsWith_pathOf _ _ each, names_pathOf _ _ each]

/-!
## Paths that can be walked at all

The beginning of a path can be walked if the whole path can: it holds no more.
-/

/-- Whether a path can be given to the file system: it is encodable, holds no NUL and is not too
long. -/
structure IsGivable (path : Text) : Prop where
  encodable : encodeError? 0 path = none
  clean : path.contains (0 : CodePoint) = false
  short : byteLength path ≤ longestPath

theorem encodeError?_of_append (text rest : Text) (position : Nat)
    (encodable : encodeError? position (text ++ rest) = none) : encodeError? position text = none := by
  induction text generalizing position with
  | nil => rfl
  | cons point text ih =>
      rw [List.cons_append, encodeError?] at encodable
      rw [encodeError?]
      split at encodable
      · cases encodable
      · rename_i encoded
        rw [if_neg encoded]
        exact ih _ encodable

theorem byteLength_le_append (text rest : Text) : byteLength text ≤ byteLength (text ++ rest) := by
  simp only [byteLength, Utf8.encodeAll, List.filter_append, List.flatMap_append, List.length_append]
  omega

theorem IsGivable.of_append (text rest : Text) (givable : IsGivable (text ++ rest)) :
    IsGivable text where
  encodable := encodeError?_of_append text rest 0 givable.encodable
  clean := by
    have clean := givable.clean
    rw [List.contains_eq_any_beq, List.any_append, Bool.or_eq_false_iff] at clean
    rw [List.contains_eq_any_beq]
    exact clean.1
  short := Nat.le_trans (byteLength_le_append text rest) givable.short

theorem isGivable_here : IsGivable "." := ⟨by decide, by decide, by decide⟩

/-- The path of the names but the last is the beginning of the path of all names, or it is the point
that names nothing. -/
theorem isGivable_dropLast (absolute : Bool) (list : List Text)
    (givable : IsGivable (FileTree.pathOf absolute list)) :
    IsGivable (FileTree.pathOf absolute list.dropLast) := by
  cases list.eq_nil_or_concat with
  | inl empty => rwa [empty] at givable ⊢
  | inr split =>
      obtain ⟨others, last, rfl⟩ := split
      rw [List.concat_eq_append] at givable ⊢
      rw [List.dropLast_concat]
      have further : ∃ rest, Text.join "/" (others ++ [last]) = Text.join "/" others ++ rest := by
        rcases List.eq_nil_or_concat others with rfl | ⟨_, _, rfl⟩
        · exact ⟨last, rfl⟩
        · exact ⟨_, (Text.join_append_singleton _ _ _ (by simp)).trans (List.append_assoc _ _ _)⟩
      obtain ⟨rest, further⟩ := further
      cases absolute with
      | true =>
          rw [FileTree.pathOf, if_pos rfl, further, ← List.append_assoc] at givable
          exact givable.of_append _ _
      | false =>
          cases others with
          | nil => exact isGivable_here
          | cons name others =>
              have made : FileTree.pathOf false ((name :: others) ++ [last]) =
                  Text.join "/" ((name :: others) ++ [last]) := rfl
              rw [made, further] at givable
              exact givable.of_append _ _

end FilePath

namespace FileTree

variable {tree after : FileTree} {path : Text}

/-!
## Walking

A walk passes directories only.  The directory that holds the last name of a path is where the path
without that name leads.
-/

/-- Whether some names lead from a place to another one: at each place that they pass there is a
directory, and no name is too long. -/
def Leads (tree : FileTree) : Place → List Text → Place → Prop
  | place, [], last => place = last
  | place, name :: names, last =>
      tree.entry? place = some .directory ∧ FilePath.byteLength name ≤ FilePath.longestName ∧
        tree.Leads (FilePath.follow place name) names last

theorem step_eq_ok_iff (tree : FileTree) (path : Text) (place : Place) (name : Text) (next : Place) :
    tree.step path place name = .ok next ↔
      tree.entry? place = some .directory ∧ FilePath.byteLength name ≤ FilePath.longestName ∧
        FilePath.follow place name = next := by
  rw [step]
  cases tree.entry? place with
  | none => simp
  | some entry =>
      cases entry with
      | file content => simp
      | directory =>
          dsimp only
          split
          · simp only [reduceCtorEq, false_iff]
            omega
          · simp only [Except.ok.injEq, true_and, iff_and_self]
            omega

theorem foldlM_step_eq_ok_iff (tree : FileTree) (path : Text) (place : Place) (names : List Text)
    (last : Place) :
    names.foldlM (tree.step path) place = .ok last ↔ tree.Leads place names last := by
  induction names generalizing place with
  | nil => exact iff_of_eq (Except.ok.injEq _ _)
  | cons name names ih =>
      rw [List.foldlM_cons, bind_eq_ok_iff, Leads]
      simp only [step_eq_ok_iff, ih]
      constructor
      · rintro ⟨next, ⟨passes, short, rfl⟩, leads⟩
        exact ⟨passes, short, leads⟩
      · rintro ⟨passes, short, leads⟩
        exact ⟨_, ⟨passes, short, rfl⟩, leads⟩

theorem walk_eq_ok_iff (tree : FileTree) (path : Text) (last : Place) :
    tree.walk path = .ok last ↔
      FilePath.IsGivable path ∧ tree.Leads (tree.start path).1 (tree.start path).2 last := by
  rw [walk, ← foldlM_step_eq_ok_iff tree path]
  constructor
  · intro walked
    cases refused : FilePath.encodeError? 0 path with
    | some error => simp [refused] at walked
    | none =>
        simp only [refused] at walked
        split at walked
        · cases walked
        · split at walked
          · cases walked
          · rename_i clean short
            exact ⟨⟨refused, by simpa using clean, by omega⟩, walked⟩
  · rintro ⟨⟨encodable, clean, short⟩, leads⟩
    simp only [encodable, clean, Bool.false_eq_true, if_false, if_neg (Nat.not_lt.mpr short)]
    exact leads

theorem look_eq_ok_iff (tree : FileTree) (path : Text) (entry : FileEntry) :
    tree.look path = .ok entry ↔
      ∃ place, tree.walk path = .ok place ∧ tree.entry? place = some entry := by
  rw [look, bind_eq_ok_iff]
  refine exists_congr fun place => and_congr_right fun _ => ?_
  cases tree.entry? place <;> simp

theorem read_eq_ok_iff (tree : FileTree) (path : Text) (content : Bytes) :
    tree.read path = .ok content ↔
      ∃ place, tree.walk path = .ok place ∧ tree.entry? place = some (.file content) := by
  rw [← look_eq_ok_iff, read, bind_eq_ok_iff]
  constructor
  · rintro ⟨entry, found, isFile⟩
    cases entry with
    | file own =>
        obtain rfl := Except.ok.inj isFile
        exact found
    | directory => cases isFile
  · intro found
    exact ⟨_, found, rfl⟩

/-- Names that lead somewhere lead, without the last one, to the directory that holds it. -/
theorem Leads.dropLast {place last : Place} {names : List Text} (inhabited : names ≠ [])
    (leads : tree.Leads place names last) :
    ∃ parent, tree.Leads place names.dropLast parent ∧ tree.entry? parent = some .directory := by
  induction names generalizing place with
  | nil => exact absurd rfl inhabited
  | cons name names ih =>
      obtain ⟨passes, short, leads⟩ := leads
      cases names with
      | nil => exact ⟨place, rfl, passes⟩
      | cons next names =>
          obtain ⟨parent, leads, holds⟩ := ih (List.cons_ne_nil _ _) leads
          exact ⟨parent, ⟨passes, short, leads⟩, holds⟩

theorem start_pathOf (tree : FileTree) (absolute : Bool) (names : List Text)
    (each : ∀ name ∈ names, FilePath.IsName name) :
    tree.start (pathOf absolute names) =
      if absolute == tree.home.startsWith FilePath.root &&
        (FilePath.names tree.home).isPrefixOf names
      then ([], names.drop (FilePath.names tree.home).length)
      else (if absolute then [FilePath.root] else [], names) := by
  rw [start]
  simp only [FilePath.startsWith_pathOf absolute names each, FilePath.names_pathOf absolute names each]

/-- A path without its last name starts where the path starts. -/
theorem start_dropLast (tree : FileTree) (absolute : Bool) (names : List Text)
    (each : ∀ name ∈ names, FilePath.IsName name)
    (inhabited : (tree.start (pathOf absolute names)).2 ≠ []) :
    tree.start (pathOf absolute names.dropLast) =
      ((tree.start (pathOf absolute names)).1, (tree.start (pathOf absolute names)).2.dropLast) := by
  have others : ∀ name ∈ names.dropLast, FilePath.IsName name :=
    fun name member => each name ((List.dropLast_sublist names).mem member)
  rw [start_pathOf tree absolute names each] at inhabited ⊢
  rw [start_pathOf tree absolute _ others]
  by_cases below : (FilePath.names tree.home).isPrefixOf names = true
  · obtain ⟨rest, rfl⟩ := List.isPrefixOf_iff_prefix.mp below
    split at inhabited
    · rename_i home
      have inner : rest ≠ [] := by simpa using inhabited
      have still : (FilePath.names tree.home).isPrefixOf
          (FilePath.names tree.home ++ rest).dropLast = true := by
        rw [List.dropLast_append_of_ne_nil inner]
        exact List.isPrefixOf_iff_prefix.mpr (List.prefix_append _ _)
      rw [below] at home
      rw [still, below, home, if_pos rfl, if_pos rfl, List.dropLast_append_of_ne_nil inner]
      simp
    · rename_i away
      simp only [below, Bool.and_true, Bool.not_eq_true] at away
      simp [away]
  · have still : ¬(FilePath.names tree.home).isPrefixOf names.dropLast = true := fun above =>
      below (List.isPrefixOf_iff_prefix.mpr
        ((List.isPrefixOf_iff_prefix.mp above).trans (List.dropLast_prefix names)))
    simp [below, still]

/-- Where there are no names behind the start of a path, there is a directory. -/
theorem entry?_start (tree : FileTree) (path : Text) :
    tree.entry? (tree.start path).1 = some .directory := by
  have home : tree.entry? [] = some .directory := rfl
  have root : tree.entry? [FilePath.root] = some .directory := by simp [ entry?]
  rw [start]
  split
  · exact home
  · split
    · exact root
    · exact home

/-- Above a file that can be read there is a directory. -/
theorem look_dropLast (absolute : Bool) (names : List Text)
    (each : ∀ name ∈ names, FilePath.IsName name) {content : Bytes}
    (isRead : tree.read (pathOf absolute names) = .ok content) :
    tree.look (pathOf absolute names.dropLast) = .ok .directory := by
  obtain ⟨place, walked, found⟩ := (read_eq_ok_iff _ _ _).mp isRead
  obtain ⟨givable, leads⟩ := (walk_eq_ok_iff _ _ _).mp walked
  have inhabited : (tree.start (pathOf absolute names)).2 ≠ [] := by
    intro empty
    rw [empty] at leads
    obtain rfl : (tree.start (pathOf absolute names)).1 = place := leads
    rw [ entry?_start] at found
    cases found
  obtain ⟨parent, leads, holds⟩ := leads.dropLast inhabited
  refine (look_eq_ok_iff _ _ _).mpr ⟨parent, (walk_eq_ok_iff _ _ _).mpr ⟨?_, ?_⟩, holds⟩
  · exact FilePath.isGivable_dropLast absolute names givable
  · rwa [start_dropLast tree absolute names each inhabited]

/-!
## Setting what is at a place

Places that are set keep what they are given, and no other place changes.
-/

theorem entry?_of_isAbove (tree : FileTree) (place : Place)
    (above : (place.all fun name => name = FilePath.above || name = FilePath.root) = true) :
    tree.entry? place = some .directory := by
  unfold entry?
  rw [if_pos above]

theorem entry?_set_of_ne (tree : FileTree) (place : Place) (entry : FileEntry) (other : Place)
    (apart : other ≠ place) : entry? (tree.set place entry) other = tree.entry? other := by
  have kept : (tree.set place entry).entries.find? (fun found => found.1 == other) =
      tree.entries.find? fun found => found.1 == other := by
    have fresh : (place == other) = false := by simpa using Ne.symm apart
    have both : (fun found : Place × FileEntry =>
        decide ((found.1 != place) = true ∧ (found.1 == other) = true)) =
          fun found => found.1 == other := by
      funext found
      by_cases same : found.1 = other
      · simp [same, apart]
      · simp [same]
    rw [set, List.find?_append, List.find?_filter, both]
    simp [fresh]
  unfold entry?
  rw [kept]

theorem entry?_set_self (tree : FileTree) (place : Place) (entry : FileEntry)
    (free : tree.entry? place ≠ some .directory) :
    entry? (tree.set place entry) place = some entry := by
  have below : ¬(place.all fun name => name = FilePath.above || name = FilePath.root) = true :=
    fun above => free (entry?_of_isAbove tree place above)
  have found : (tree.set place entry).entries.find? (fun found => found.1 == place) =
      some (place, entry) := by
    have gone : (tree.entries.filter fun found => found.1 != place).find?
        (fun found => found.1 == place) = none := by
      rw [List.find?_eq_none]
      intro found member
      simpa using (List.mem_filter.mp member).2
    rw [set, List.find?_append, gone]
    simp
  unfold entry?
  rw [if_neg below, found]

/-- Whether a file tree differs from another one in directories only, which it has besides. -/
structure Extends (tree after : FileTree) : Prop where
  home : after.home = tree.home
  entry : ∀ place, after.entry? place = tree.entry? place ∨
    tree.entry? place = none ∧ after.entry? place = some .directory

theorem Extends.refl (tree : FileTree) : tree.Extends tree := ⟨rfl, fun _ => .inl rfl⟩

theorem Extends.trans {between : FileTree} (first : tree.Extends between)
    (second : between.Extends after) : tree.Extends after where
  home := second.home.trans first.home
  entry := by
    intro place
    rcases second.entry place with kept | ⟨missing, made⟩
    · rw [kept]
      exact first.entry place
    · rcases first.entry place with kept | ⟨_, earlier⟩
      · exact .inr ⟨kept ▸ missing, made⟩
      · rw [earlier] at missing
        cases missing

theorem extends_set (tree : FileTree) (place : Place) (free : tree.entry? place = none) :
    tree.Extends (tree.set place .directory) where
  home := rfl
  entry := by
    intro other
    by_cases same : other = place
    · subst same
      exact .inr ⟨free, entry?_set_self tree other _ (by simp [free])⟩
    · exact .inl (entry?_set_of_ne tree place _ other same)

/-!
## Directories above a path
-/

theorem extends_makeDirectory (made : tree.makeDirectory path = .ok after) : tree.Extends after := by
  rw [makeDirectory, bind_eq_ok_iff] at made
  obtain ⟨place, _, made⟩ := made
  cases found : tree.entry? place with
  | some entry => simp [found] at made
  | none =>
      obtain rfl : tree.set place .directory = after := by simpa [found] using made
      exact extends_set tree place found

theorem extends_ensureDirectory (made : tree.ensureDirectory path = .ok after) :
    tree.Extends after := by
  rw [ensureDirectory] at made
  split at made
  · rename_i found own
    obtain rfl := Except.ok.inj made
    exact extends_makeDirectory own
  · split at made
    · obtain rfl := Except.ok.inj made
      exact .refl tree
    · cases made

theorem extends_settle_ensureDirectory (tree : FileTree) (path : Text) :
    tree.Extends (tree.settle (tree.ensureDirectory path)).2 := by
  cases made : tree.ensureDirectory path with
  | error fault => exact .refl tree
  | ok after => exact extends_ensureDirectory made

theorem extends_makeDirectories (absolute : Bool) (names : List Text) :
    tree.Extends (tree.makeDirectories absolute names).2 := by
  induction names with
  | nil => exact extends_settle_ensureDirectory tree _
  | cons name names ih =>
      rw [makeDirectories]
      split
      · split
        · rename_i above
          rw [above] at ih
          exact ih.trans (extends_settle_ensureDirectory _ _)
        · rename_i above
          rwa [above] at ih
      · exact extends_settle_ensureDirectory tree _

/-- A directory that is there already is not made. -/
theorem ensureDirectory_of_look (isThere : tree.look path = .ok .directory) :
    tree.makeDirectory path = .error (.exists path) ∧ tree.ensureDirectory path = .ok tree := by
  obtain ⟨place, walked, found⟩ := (look_eq_ok_iff _ _ _).mp isThere
  have refused : tree.makeDirectory path = .error (.exists path) := by
    simp [makeDirectory, walked, found]
  exact ⟨refused, by simp [ensureDirectory, refused, isThere]⟩

theorem makeDirectories_of_look (absolute : Bool) (names : List Text)
    (isThere : tree.look (pathOf absolute names.reverse) = .ok .directory) :
    tree.makeDirectories absolute names = (.ok (), tree) := by
  obtain ⟨refused, kept⟩ := ensureDirectory_of_look isThere
  cases names with
  | nil =>
      rw [List.reverse_nil] at kept
      rw [makeDirectories, kept, settle]
  | cons name names => simp only [makeDirectories, refused, kept, settle]

/-- Above a file that can be read no directory is made. -/
theorem makeParents_of_read (isNormal : FilePath.normal path = path) {content : Bytes}
    (isRead : tree.read path = .ok content) : tree.makeParents path = (.ok (), tree) := by
  have each := FilePath.isName_of_mem_names path
  rw [FilePath.normal_eq] at isNormal
  rw [makeParents]
  apply makeDirectories_of_look
  rw [List.reverse_reverse]
  exact look_dropLast _ _ each (isNormal ▸ isRead)

/-!
## Writing
-/

theorem write_eq_ok_iff (tree : FileTree) (path : Text) (content : Bytes) (after : FileTree) :
    tree.write path content = .ok after ↔
      ∃ place, tree.walk path = .ok place ∧ tree.entry? place ≠ some .directory ∧
        after = tree.set place (.file content) := by
  rw [write, bind_eq_ok_iff]
  refine exists_congr fun place => and_congr_right fun _ => ?_
  cases found : tree.entry? place with
  | none => simp [eq_comm]
  | some entry => cases entry <;> simp [eq_comm]

theorem Leads.mono (kept : ∀ place, tree.entry? place = some .directory →
    after.entry? place = some .directory) {place last : Place} {names : List Text}
    (leads : tree.Leads place names last) : after.Leads place names last := by
  induction names generalizing place with
  | nil => exact leads
  | cons name names ih =>
      obtain ⟨passes, short, leads⟩ := leads
      exact ⟨kept place passes, short, ih leads⟩

/-- Writing a file blocks no walk: no directory goes. -/
theorem walk_set {place : Place} (content : Bytes) (free : tree.entry? place ≠ some .directory)
    {last : Place} (walked : tree.walk path = .ok last) :
    (tree.set place (.file content)).walk path = .ok last := by
  obtain ⟨givable, leads⟩ := (walk_eq_ok_iff _ _ _).mp walked
  refine (walk_eq_ok_iff _ _ _).mpr ⟨givable, leads.mono ?_⟩
  intro other isDirectory
  have apart : other ≠ place := by
    rintro rfl
    exact free isDirectory
  rwa [ entry?_set_of_ne tree place _ other apart]

/-- Whether a file is written to a path: what was there is no directory, and afterwards the path
leads to the file, with everything else as before but for new directories. -/
structure Writes (tree : FileTree) (path : Text) (content : Bytes) (after : FileTree) : Prop where
  isRead : after.read path = .ok content
  others : ∃ place, after.walk path = .ok place ∧ tree.entry? place ≠ some .directory ∧
    ∀ other ≠ place, after.entry? other = tree.entry? other ∨
      tree.entry? other = none ∧ after.entry? other = some .directory

theorem put_eq_ok_iff (content : Bytes) :
    tree.put path content = .ok after ↔
      ∃ parents, tree.makeParents path = (.ok (), parents) ∧
        parents.write path content = .ok after := by
  rw [put]
  rcases tree.makeParents path with ⟨answer, parents⟩
  cases answer <;> simp

/-- Putting a file at a path writes it. -/
theorem writes_put {content : Bytes} (isPut : tree.put path content = .ok after) :
    tree.Writes path content after := by
  obtain ⟨parents, made, isWritten⟩ := (put_eq_ok_iff _).mp isPut
  obtain ⟨place, walked, free, rfl⟩ := (write_eq_ok_iff _ _ _ _).mp isWritten
  have found := walk_set content free walked
  have further : tree.Extends (tree.makeParents path).2 := extends_makeDirectories _ _
  rw [made] at further
  refine ⟨(read_eq_ok_iff _ _ _).mpr ⟨place, found, entry?_set_self parents place _ free⟩,
    place, found, ?_, ?_⟩
  · intro isDirectory
    rcases further.entry place with kept | ⟨missing, _⟩
    · exact free (kept.trans isDirectory)
    · rw [missing] at isDirectory
      cases isDirectory
  · intro other apart
    rw [ entry?_set_of_ne parents place _ other apart]
    exact further.entry other

/-- A file that can be read can be put anew. -/
theorem exists_put_of_read (isNormal : FilePath.normal path = path) {old : Bytes}
    (isRead : tree.read path = .ok old) (content : Bytes) :
    ∃ after, tree.put path content = .ok after := by
  obtain ⟨place, walked, found⟩ := (read_eq_ok_iff _ _ _).mp isRead
  refine ⟨tree.set place (.file content), (put_eq_ok_iff _).mpr
    ⟨tree, makeParents_of_read isNormal isRead, ?_⟩⟩
  exact (write_eq_ok_iff _ _ _ _).mpr ⟨place, walked, by simp [found], rfl⟩

/-- Where one content can be put, every content can. -/
theorem exists_put_of_put {first : Bytes} (isPut : tree.put path first = .ok after)
    (second : Bytes) : ∃ other, tree.put path second = .ok other := by
  obtain ⟨parents, made, isWritten⟩ := (put_eq_ok_iff _).mp isPut
  obtain ⟨place, walked, free, _⟩ := (write_eq_ok_iff _ _ _ _).mp isWritten
  refine ⟨parents.set place (.file second), (put_eq_ok_iff _).mpr ⟨parents, made, ?_⟩⟩
  exact (write_eq_ok_iff _ _ _ _).mpr ⟨place, walked, free, rfl⟩

end FileTree

end EventForge
