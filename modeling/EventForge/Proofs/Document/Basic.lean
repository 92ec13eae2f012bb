import EventForge.Document.Basic

/-!
# Fields and display of documents

What a name stands for among fields, and which documents can be shown.
-/

/-!
## Fields of a mapping

Adding a field changes the value under its key only, and it never makes a key stand twice.
-/

namespace EventForge.Fields

variable {Value : Type}

@[simp] theorem get?_nil (key : Text) : get? ([] : Fields Value) key = none := rfl

theorem get?_cons (field : Text × Value) (fields : Fields Value) (key : Text) :
    get? (field :: fields) key = if field.1 = key then some field.2 else get? fields key := by
  by_cases same : field.1 = key <;> simp [get?, same]

theorem get?_insert (key other : Text) (value : Value) (fields : Fields Value) :
    get? (insert key value fields) other = if key = other then some value else get? fields other := by
  induction fields with
  | nil => simp [insert, get?_cons]
  | cons field fields ih =>
      rw [insert]
      split
      · rename_i same
        simp only [get?_cons, same]
        split <;> rfl
      · rename_i apart
        simp only [get?_cons, ih]
        by_cases here : key = other
        · subst here
          simp [apart]
        · simp [here]

theorem get?_append (first second : Fields Value) (key : Text) :
    get? (first ++ second) key = (get? first key).or (get? second key) := by
  induction first with
  | nil => simp
  | cons field fields ih =>
      simp only [List.cons_append, get?_cons, ih]
      split <;> simp

theorem get?_isSome_iff (fields : Fields Value) (key : Text) :
    (get? fields key).isSome = true ↔ ∃ field ∈ fields, field.1 = key := by
  simp [get?]

theorem mem_insert (key : Text) (value : Value) (fields : Fields Value) (field : Text × Value) :
    field ∈ insert key value fields → field = (key, value) ∨ field ∈ fields := by
  induction fields with
  | nil => simp [insert]
  | cons head fields ih =>
      rw [insert]
      split
      · rename_i same
        intro member
        rcases List.mem_cons.mp member with rfl | member
        · exact Or.inl (by rw [same])
        · exact Or.inr (List.mem_cons_of_mem _ member)
      · intro member
        rcases List.mem_cons.mp member with rfl | member
        · exact Or.inr (by simp)
        · rcases ih member with added | member
          · exact Or.inl added
          · exact Or.inr (List.mem_cons_of_mem _ member)

/-- A field is found under its name if no other one has that name. -/
theorem get?_of_mem (fields : Fields Value) (distinct : (fields.map Prod.fst).Nodup)
    (field : Text × Value) (member : field ∈ fields) : get? fields field.1 = some field.2 := by
  induction fields with
  | nil => simp at member
  | cons head fields ih =>
      obtain ⟨fresh, others⟩ := List.nodup_cons.mp distinct
      rw [get?_cons]
      rcases List.mem_cons.mp member with rfl | later
      · rw [if_pos rfl]
      · have apart : head.1 ≠ field.1 := fun same => fresh (same ▸ List.mem_map_of_mem later)
        rw [if_neg apart, ih others later]

theorem insert_of_fresh (key : Text) (value : Value) (fields : Fields Value)
    (fresh : ∀ field ∈ fields, field.1 ≠ key) : insert key value fields = fields ++ [(key, value)] := by
  induction fields with
  | nil => rfl
  | cons field fields ih =>
      obtain ⟨apart, others⟩ := List.forall_mem_cons.mp fresh
      rw [insert, if_neg apart, ih others]
      rfl

theorem insert_names_nodup (key : Text) (value : Value) (fields : Fields Value)
    (distinct : (fields.map Prod.fst).Nodup) : ((insert key value fields).map Prod.fst).Nodup := by
  induction fields with
  | nil => simp [insert]
  | cons field fields ih =>
      obtain ⟨fresh, others⟩ := List.nodup_cons.mp distinct
      rw [insert]
      split
      · exact List.nodup_cons.mpr ⟨fresh, others⟩
      · rename_i apart
        refine List.nodup_cons.mpr ⟨?_, ih others⟩
        intro member
        obtain ⟨other, inserted, same⟩ := List.mem_map.mp member
        rcases mem_insert key value fields other inserted with rfl | old
        · exact apart same.symm
        · exact fresh (List.mem_map.mpr ⟨other, old, same⟩)

/-- Values under distinct names are read back in their order. -/
theorem map_get?_zip (names : List Text) (values : List Value) (distinct : names.Nodup)
    (count : values.length = names.length) (fallback : Value) :
    names.map (fun name => (get? (names.zip values) name).getD fallback) = values := by
  induction names generalizing values with
  | nil => rw [List.length_eq_zero_iff.mp count]; rfl
  | cons name names ih =>
      cases values with
      | nil => cases count
      | cons value values =>
          obtain ⟨fresh, others⟩ := List.nodup_cons.mp distinct
          have later := ih values others (by simpa using count)
          have own : (get? ((name, value) :: names.zip values) name).getD fallback = value := by
            rw [get?_cons, if_pos rfl, Option.getD_some]
          have skipped : names.map (fun other =>
              (get? ((name, value) :: names.zip values) other).getD fallback) = values := by
            refine Eq.trans (List.map_congr_left fun other member => ?_) later
            have apart : name ≠ other := fun same => fresh (same ▸ member)
            rw [get?_cons, if_neg apart]
          rw [List.zip_cons_cons, List.map_cons, own, skipped]

end EventForge.Fields

/-!
## What can be displayed

A document can be displayed if all its parts can, and a list or mapping that contains itself can be
displayed part by part exactly as the whole.
-/

namespace EventForge.Document

mutual

theorem anyInteger_bind (condition : Int → Bool) (label : Nat) (whole : Document)
    (wholeFree : anyInteger condition whole = false) :
    ∀ document : Document, anyInteger condition document = false →
      anyInteger condition (bind label whole document) = false
  | .again other isList, _ => by
      rw [bind]
      split
      · exact wholeFree
      · rfl
  | .knot other body, free => by
      rw [anyInteger] at free
      rw [bind, anyInteger]
      split
      · exact free
      · exact anyInteger_bind condition label whole wholeFree body free
  | .list items, free => by
      rw [anyInteger] at free
      rw [bind, anyInteger]
      exact anyIntegerIn_bind condition label whole wholeFree items free
  | .tuple items, free => by
      rw [anyInteger] at free
      rw [bind, anyInteger]
      exact anyIntegerIn_bind condition label whole wholeFree items free
  | .mapping entries, free => by
      rw [anyInteger] at free
      rw [bind, anyInteger]
      exact anyIntegerAmong_bind condition label whole wholeFree entries free
  | .null, free | .bool _, free | .integer _, free | .float _, free | .text _, free
  | .bytes _, free | .date _, free | .moment _, free | .set _, free => free

theorem anyIntegerIn_bind (condition : Int → Bool) (label : Nat) (whole : Document)
    (wholeFree : anyInteger condition whole = false) :
    ∀ items : List Document, anyIntegerIn condition items = false →
      anyIntegerIn condition (bindItems label whole items) = false
  | [], free => free
  | item :: items, free => by
      simp only [anyIntegerIn, Bool.or_eq_false_iff] at free
      simp only [bindItems, anyIntegerIn, Bool.or_eq_false_iff]
      exact ⟨anyInteger_bind condition label whole wholeFree item free.1,
        anyIntegerIn_bind condition label whole wholeFree items free.2⟩

theorem anyIntegerAmong_bind (condition : Int → Bool) (label : Nat) (whole : Document)
    (wholeFree : anyInteger condition whole = false) :
    ∀ entries : List (Document × Document), anyIntegerAmong condition entries = false →
      anyIntegerAmong condition (bindEntries label whole entries) = false
  | [], free => free
  | entry :: entries, free => by
      simp only [anyIntegerAmong, Bool.or_eq_false_iff] at free
      simp only [bindEntries, anyIntegerAmong, Bool.or_eq_false_iff]
      exact ⟨⟨anyInteger_bind condition label whole wholeFree entry.1 free.1.1,
          anyInteger_bind condition label whole wholeFree entry.2 free.1.2⟩,
        anyIntegerAmong_bind condition label whole wholeFree entries free.2⟩

end

theorem isDisplayable_opened (document : Document) (shown : document.isDisplayable = true) :
    document.opened.isDisplayable = true := by
  simp only [isDisplayable, Bool.not_eq_true'] at shown ⊢
  unfold opened
  split
  · rename_i label body
    have bodyFree := shown
    rw [anyInteger] at bodyFree
    exact anyInteger_bind _ label _ shown body bodyFree
  · exact shown

theorem anyIntegerAmong_eq_false_iff (condition : Int → Bool)
    (entries : List (Document × Document)) :
    anyIntegerAmong condition entries = false ↔
      ∀ entry ∈ entries, anyInteger condition entry.1 = false ∧
        anyInteger condition entry.2 = false := by
  induction entries with
  | nil => simp [anyIntegerAmong]
  | cons entry entries ih =>
      simp only [anyIntegerAmong, Bool.or_eq_false_iff, ih, List.forall_mem_cons]

theorem isDisplayable_mapping (entries : List (Document × Document)) :
    (Document.mapping entries).isDisplayable = true ↔
      ∀ entry ∈ entries, entry.1.isDisplayable = true ∧ entry.2.isDisplayable = true := by
  simp only [isDisplayable, Bool.not_eq_true', anyInteger]
  exact anyIntegerAmong_eq_false_iff _ entries

/-- The entries of a mapping, itself displayable, are displayable. -/
theorem isDisplayable_of_mem_opened (document : Document) (entries : List (Document × Document))
    (shown : document.isDisplayable = true) (opens : document.opened = .mapping entries) :
    ∀ entry ∈ entries, entry.1.isDisplayable = true ∧ entry.2.isDisplayable = true := by
  have openedShown := isDisplayable_opened document shown
  rw [opens] at openedShown
  exact (isDisplayable_mapping entries).mp openedShown

theorem plain?_of_isDisplayable (document : Document) (shown : document.isDisplayable = true) :
    document.plain? = .ok document.plain := by
  rw [plain?, if_pos shown]

theorem display?_of_isDisplayable (document : Document) (shown : document.isDisplayable = true) :
    document.display? = .ok document.display := by
  rw [display?, if_pos shown]

theorem lookup?_mem (key : Text) (entries : List (Document × Document)) (value : Document)
    (found : lookup? key entries = some value) : ∃ entry ∈ entries, entry.2 = value := by
  simp only [lookup?, Option.map_eq_some_iff] at found
  obtain ⟨entry, finds, rfl⟩ := found
  exact ⟨entry, List.mem_of_find?_eq_some finds, rfl⟩

end EventForge.Document
