import Stencil.Proofs.Dictionary
import Stencil.Settings.Path

/-!
# Merged entries

What stands at a place of a tree is what was said about it last.  A table that is merged into what
stands there replaces it, unless the table has no fields: then it says nothing and what was said
before stands.
-/

namespace Stencil
namespace Entry

/-! ## Placing one entry -/

@[simp]
theorem tableOrigin_put (target : Entry) (name : String) (value : Entry) :
    (target.put name value).tableOrigin = target.tableOrigin := rfl

theorem get?_put (target : Entry) (name other : String) (value : Entry) :
    (target.put name value).get? other = if other = name then some value else target.get? other :=
  Entries.get?_insert target.fields name other value

/-- What stands at a place after a value was merged into what stood there. -/
def overlay : Entry → Option Entry → Entry
  | table _ fields, old => mergeFields fields (old.getD emptyTable)
  | value, _ => value

theorem merge_eq_put (name : String) (value target : Entry) :
    merge name value target = target.put name (value.overlay (target.get? name)) := by
  cases value with
  | scalar origin value => rw [merge, overlay]; exact fun _ _ same => nomatch same
  | array origin items => rw [merge, overlay]; exact fun _ _ same => nomatch same
  | table origin fields => rw [merge, overlay]

theorem mergeFields_cons (name : String) (value : Entry) (fields : List (String × Entry))
    (target : Entry) :
    mergeFields ((name, value) :: fields) target =
      mergeFields fields
        (target.put (Text.lower name) (value.overlay (target.get? (Text.lower name)))) := by
  rw [mergeFields, merge_eq_put]

/-- An entry that is put at the end of a path is put somewhere under the first name. -/
theorem setAt_eq_put (value : Entry) (name : String) (path : Path) (target : Entry) :
    ∃ placed, setAt value (.name name :: path) target = target.put name placed := by
  cases path with
  | nil => exact ⟨_, merge_eq_put name value target⟩
  | cons step path =>
      refine ⟨setAt value (step :: path) ((target.get? name).getD null), ?_⟩
      rw [setAt]
      exact List.cons_ne_nil step path

/-! ## Tidy tables -/

/-- Whether an entry is a table that was merged from names in lower case. -/
structure Tidy (entry : Entry) : Prop where
  /-- It is a table that comes from no source. -/
  eq_table : entry = table none entry.fields
  /-- Its names are in order. -/
  sorted : Entries.Sorted entry.fields
  /-- Its names are in lower case. -/
  lower_eq : ∀ field ∈ entry.fields, Text.lower field.1 = field.1

theorem tidy_emptyTable : Tidy emptyTable where
  eq_table := rfl
  sorted := List.Pairwise.nil
  lower_eq := by simp [emptyTable, fields]

namespace Tidy

variable {target : Entry}

theorem put (tidy : target.Tidy) {name : String} (isLower : Text.lower name = name)
    (value : Entry) : (target.put name value).Tidy where
  eq_table := by
    rw [tidy.eq_table]
    rfl
  sorted := tidy.sorted.insert name value
  lower_eq := by
    intro field member
    rcases Entries.mem_insert member with rfl | inside
    · exact isLower
    · exact tidy.lower_eq field inside

theorem mergeFields (tidy : target.Tidy) {fields : List (String × Entry)}
    (isLower : ∀ field ∈ fields, Text.lower field.1 = field.1) :
    (Entry.mergeFields fields target).Tidy := by
  induction fields generalizing target with
  | nil => rwa [Entry.mergeFields]
  | cons field fields induction =>
      obtain ⟨name, value⟩ := field
      obtain ⟨first, rest⟩ := List.forall_mem_cons.1 isLower
      rw [mergeFields_cons, first]
      exact induction (tidy.put first _) rest

end Tidy

/-! ## What was said last -/

/-- Whether an entry is a table without fields. -/
def isBlank : Entry → Bool
  | table _ [] => true
  | _ => false

/-- What was said last after one more value. -/
def saidNext (said : Option Entry) (value : Entry) : Option Entry :=
  if value.isBlank then said else some value

/-- What was said last after some more values. -/
def saidLast (said : Option Entry) (values : List Entry) : Option Entry :=
  values.foldl saidNext said

@[simp]
theorem saidLast_append (said : Option Entry) (before after : List Entry) :
    saidLast said (before ++ after) = saidLast (saidLast said before) after :=
  List.foldl_append

theorem saidLast_eq (said : Option Entry) (values : List Entry) :
    saidLast said values = ((values.filter (!·.isBlank)).getLast?).or said := by
  induction values generalizing said with
  | nil => rfl
  | cons value values induction =>
      rw [saidLast, List.foldl_cons, ← saidLast, induction, saidNext]
      by_cases blank : value.isBlank = true
      · simp [blank]
      · simp [blank, List.getLast?_cons]

theorem saidLast_of_forall {said : Option Entry} {values : List Entry} {value : Entry}
    (nonblank : value.isBlank = false) (member : value ∈ values)
    (all : ∀ other ∈ values, other = value) : saidLast said values = some value := by
  have kept : value ∈ values.filter (!·.isBlank) := by
    simp [member, nonblank]
  have isLast := List.getLast?_eq_some_getLast (List.ne_nil_of_mem kept)
  have inside := List.mem_of_mem_filter (List.mem_of_getLast? isLast)
  rw [saidLast_eq, isLast, all _ inside, Option.some_or]

/-- Whether what stands in a tree is what was said last, if anything was.  A table is merged from
what several sources say, so that it comes from none of them. -/
inductive Shows : Option Entry → Option Entry → Prop where
  | nothing : Shows none none
  | blank : Shows (some emptyTable) none
  | scalar (origin : Option String) (value : Scalar) :
    Shows (some (scalar origin value)) (some (scalar origin value))
  | array (origin : Option String) (items : List Entry) :
    Shows (some (array origin items)) (some (array origin items))
  | table (origin : Option String) (fields : List (String × Entry)) {merged : List (String × Entry)}
    (nonempty : merged ≠ []) : Shows (some (table none merged)) (some (table origin fields))

theorem insert_ne_nil (name : String) (value : Entry) (fields : List (String × Entry)) :
    Entries.insert name value fields ≠ [] := by
  intro empty
  have found := Entries.get?_insert fields name name value
  simp [empty, Entries.get?] at found

/-- Fields make a table of what they are merged into. -/
theorem mergeFields_cons_eq (field : String × Entry) (fields : List (String × Entry))
    (target : Entry) :
    ∃ merged, merged ≠ [] ∧
      mergeFields (field :: fields) target = table target.tableOrigin merged := by
  induction fields generalizing field target with
  | nil =>
      obtain ⟨name, value⟩ := field
      have merged : mergeFields [(name, value)] target =
          target.put (Text.lower name) (value.overlay (target.get? (Text.lower name))) := by
        rw [mergeFields_cons, mergeFields]
      exact ⟨_, insert_ne_nil _ _ target.fields, merged⟩
  | cons next fields induction =>
      obtain ⟨name, value⟩ := field
      rw [mergeFields_cons]
      exact induction next (target.put (Text.lower name) _)

namespace Shows

variable {old said : Option Entry}

theorem tableOrigin_eq (shows : Shows old said) : (old.getD emptyTable).tableOrigin = none := by
  cases shows <;> rfl

theorem exists_eq_some {value : Entry} (shows : Shows old (some value)) :
    ∃ entry, old = some entry := by
  cases shows <;> exact ⟨_, rfl⟩

/-- Merging a value keeps what stands in the tree and what was said last together. -/
theorem overlay (shows : Shows old said) (value : Entry) :
    Shows (some (value.overlay old)) (saidNext said value) := by
  cases value with
  | scalar origin value => exact .scalar origin value
  | array origin items => exact .array origin items
  | table origin fields =>
      cases fields with
      | nil =>
          rw [Entry.overlay, mergeFields]
          cases shows with
          | nothing => exact .blank
          | blank => exact .blank
          | scalar origin value => exact .scalar origin value
          | array origin items => exact .array origin items
          | table origin fields nonempty => exact .table origin fields nonempty
      | cons field fields =>
          obtain ⟨merged, nonempty, same⟩ :=
            mergeFields_cons_eq field fields (old.getD emptyTable)
          rw [Entry.overlay, same, shows.tableOrigin_eq]
          exact .table origin (field :: fields) nonempty

/-- What shows an entry that shows another shows that other. -/
theorem trans {middle : Entry} (shows : Shows old (some middle)) (next : Shows (some middle) said)
    (nonblank : middle.isBlank = false) : Shows old said := by
  cases next with
  | blank => exact nomatch nonblank
  | scalar origin value => exact shows
  | array origin items => exact shows
  | table origin fields nonempty =>
      cases shows with
      | table _ _ others => exact .table origin fields others

theorem isBlank_iff {entry : Entry} (shows : Shows (some entry) said) :
    entry.isBlank = true ↔ said = none := by
  cases shows with
  | blank => simp [isBlank, emptyTable]
  | scalar origin value => simp [isBlank]
  | array origin items => simp [isBlank]
  | @table origin fields merged nonempty =>
      cases merged with
      | nil => exact absurd rfl nonempty
      | cons field merged => simp [isBlank]

/-- A tree that is merged into a value shows what was said in it, or else that value. -/
theorem of_saidLast {middle : Option Entry} {value : Entry}
    (shows : Shows old (saidLast (some value) middle.toList)) (next : Shows middle said) :
    Shows old (some (said.getD value)) := by
  cases middle with
  | none =>
      cases next with
      | nothing => exact shows
  | some entry =>
      rw [Option.toList_some, saidLast, List.foldl_cons, List.foldl_nil, saidNext] at shows
      by_cases blank : entry.isBlank = true
      · rw [if_pos blank] at shows
        rwa [next.isBlank_iff.1 blank, Option.getD_none]
      · rw [if_neg blank] at shows
        obtain ⟨value, rfl⟩ := Option.ne_none_iff_exists'.1 (mt next.isBlank_iff.2 blank)
        exact shows.trans next (Bool.not_eq_true _ ▸ blank)

end Shows

/-! ## Merging many fields -/

/-- The values under a name in fields. -/
def valuesUnder (name : String) (fields : List (String × Entry)) : List Entry :=
  fields.flatMap fun field => if field.1 = name then [field.2] else []

@[simp]
theorem valuesUnder_cons (name : String) (field : String × Entry)
    (fields : List (String × Entry)) :
    valuesUnder name (field :: fields) =
      if field.1 = name then field.2 :: valuesUnder name fields else valuesUnder name fields := by
  by_cases same : field.1 = name <;> simp [valuesUnder, same]

/-- Fields that are merged into a table are what its fields say then. -/
theorem Shows.mergeFields {fields : List (String × Entry)}
    (isLower : ∀ field ∈ fields, Text.lower field.1 = field.1) {target : Entry} {name : String}
    {said : Option Entry} (shows : Shows (target.get? name) said) :
    Shows ((Entry.mergeFields fields target).get? name)
      (saidLast said (valuesUnder name fields)) := by
  induction fields generalizing target said with
  | nil => rwa [Entry.mergeFields]
  | cons field fields induction =>
      obtain ⟨other, value⟩ := field
      obtain ⟨first, rest⟩ := List.forall_mem_cons.1 isLower
      rw [mergeFields_cons, first, valuesUnder_cons]
      by_cases same : other = name
      · subst same
        rw [if_pos rfl]
        have after : Shows ((target.put other (value.overlay (target.get? other))).get? other)
            (saidNext said value) := by
          rw [get?_put, if_pos rfl]
          exact shows.overlay value
        exact induction rest after
      · rw [if_neg same]
        have after : Shows ((target.put other (value.overlay (target.get? other))).get? name)
            said := by
          rwa [get?_put, if_neg (Ne.symm same)]
        exact induction rest after

end Entry
end Stencil
