import Mathlib.Data.List.Dedup
import Mathlib.Data.List.Induction
import Stencil.Dictionary

/-!
# Laws of dictionaries

A dictionary is known by the values it gives.  Giving a value to a name changes the value of that
name only, and giving a name the value it has changes nothing.  So a list of pairs gives each name
its last value.
-/

namespace Stencil

namespace Entries

variable {α β : Type} {entries others : List (String × α)} {name : String} {value : α}

theorem get?_cons (entry : String × α) (entries : List (String × α)) (name : String) :
    get? (entry :: entries) name = if name = entry.1 then some entry.2 else get? entries name := by
  obtain ⟨head, value⟩ := entry
  by_cases equal : name = head
  · simp [get?, equal]
  · have test : (name == head) = false := beq_eq_false_iff_ne.2 equal
    simp [get?, List.lookup_cons, test, equal]

theorem get?_insert (entries : List (String × α)) (name other : String) (value : α) :
    get? (insert name value entries) other =
      if other = name then some value else get? entries other := by
  induction entries with
  | nil => simp [insert, get?_cons]
  | cons head entries induction =>
      simp only [insert]
      split
      next => simp [get?_cons]
      next =>
        split
        next equal =>
          subst equal
          by_cases same : other = head.1 <;> simp [get?_cons, same]
        next different =>
          by_cases same : other = head.1
          · have other_ne : other ≠ name := fun equal => different (equal ▸ same)
            rw [get?_cons, get?_cons, if_pos same, if_pos same, if_neg other_ne]
          · rw [get?_cons, get?_cons, if_neg same, if_neg same, induction]

theorem get?_eq_none_iff : get? entries name = none ↔ name ∉ entries.map (·.1) := by
  induction entries with
  | nil => simp [get?]
  | cons head entries induction =>
      rw [get?_cons]
      split
      next equal => simp [equal]
      next different =>
        rw [induction, List.map_cons, List.mem_cons, not_or, and_iff_right different]

theorem mem_of_get? (found : get? entries name = some value) : (name, value) ∈ entries := by
  induction entries with
  | nil => simp [get?] at found
  | cons head entries induction =>
      rw [get?_cons] at found
      split at found
      next equal =>
        obtain rfl := Option.some.inj found
        simp [equal]
      next => exact List.mem_cons_of_mem _ (induction found)

theorem Sorted.insert_eq_self (sorted : Sorted entries) (found : get? entries name = some value) :
    Entries.insert name value entries = entries := by
  induction entries with
  | nil => simp [get?] at found
  | cons head entries induction =>
      obtain ⟨above, rest⟩ := List.pairwise_cons.1 sorted
      rw [get?_cons] at found
      split at found
      next equal =>
        obtain rfl := Option.some.inj found
        simp [Entries.insert, equal]
      next different =>
        have greater : head.1 < name := above (name, value) (mem_of_get? found)
        have notBefore : ¬ name < head.1 := fun before =>
          String.lt_irrefl name (String.lt_trans before greater)
        rw [Entries.insert, if_neg notBefore, if_neg different, induction rest found]

theorem Sorted.mem_iff_get? (sorted : Sorted entries) :
    (name, value) ∈ entries ↔ get? entries name = some value := by
  refine ⟨fun member => ?_, mem_of_get?⟩
  induction entries with
  | nil => simp at member
  | cons head entries induction =>
      obtain ⟨above, rest⟩ := List.pairwise_cons.1 sorted
      rw [get?_cons]
      rcases List.mem_cons.1 member with rfl | inside
      · simp
      · have different : name ≠ head.1 := fun equal =>
          String.lt_irrefl head.1 (equal ▸ above (name, value) inside)
        rw [if_neg different, induction rest inside]

theorem Sorted.nodup (sorted : Sorted entries) : entries.Nodup := by
  refine List.Pairwise.imp ?_ sorted
  rintro first second before rfl
  exact String.lt_irrefl first.1 before

/-- In sorted entries at most one is under a name. -/
theorem Sorted.flatMap_eq (sorted : Sorted entries) (name : String) (parts : α → List β) :
    (entries.flatMap fun entry => if entry.1 = name then parts entry.2 else []) =
      ((get? entries name).map parts).getD [] := by
  induction entries with
  | nil => rfl
  | cons head entries induction =>
      obtain ⟨above, rest⟩ := List.pairwise_cons.1 sorted
      rw [List.flatMap_cons, induction rest, get?_cons]
      by_cases same : head.1 = name
      · subst same
        have absent : get? entries head.1 = none := by
          apply get?_eq_none_iff.2
          intro member
          obtain ⟨later, inside, equal⟩ := List.mem_map.1 member
          exact String.lt_irrefl head.1 (equal ▸ above later inside)
        simp [absent]
      · simp [same, Ne.symm same]

/-- Sorted entries that give the same values are the same. -/
theorem Sorted.eq_of_get? (sorted : Sorted entries) (othersSorted : Sorted others)
    (same : ∀ name, get? entries name = get? others name) : entries = others := by
  have members : ∀ entry, entry ∈ entries ↔ entry ∈ others := by
    rintro ⟨name, value⟩
    rw [sorted.mem_iff_get?, othersSorted.mem_iff_get?, same]
  have permuted : entries.Perm others :=
    (List.perm_ext_iff_of_nodup sorted.nodup othersSorted.nodup).2 members
  refine permuted.eq_of_pairwise (fun first second _ _ before after => ?_) sorted othersSorted
  exact absurd (String.lt_trans before after) (String.lt_irrefl first.1)

/-- The last value of a name in a list of pairs, if there is one. -/
def last? (pairs : List (String × α)) (name : String) : Option α :=
  get? pairs.reverse name

theorem ofPairs_append_singleton (pairs : List (String × α)) (pair : String × α) :
    ofPairs (pairs ++ [pair]) = insert pair.1 pair.2 (ofPairs pairs) := by
  simp [ofPairs]

theorem get?_ofPairs (pairs : List (String × α)) (name : String) :
    get? (ofPairs pairs) name = last? pairs name := by
  induction pairs using List.reverseRecOn with
  | nil => rfl
  | append_singleton pairs pair induction =>
      rw [ofPairs_append_singleton, get?_insert, induction, last?, last?, List.reverse_append,
        List.reverse_singleton, List.singleton_append, get?_cons]

/-- A name that comes after all others is put at the end. -/
theorem insert_eq_append (after : ∀ entry ∈ entries, entry.1 < name) (value : α) :
    insert name value entries = entries ++ [(name, value)] := by
  induction entries with
  | nil => rfl
  | cons head entries induction =>
      obtain ⟨greater, others⟩ := List.forall_mem_cons.1 after
      have notBefore : ¬ name < head.1 := fun before =>
        String.lt_irrefl name (String.lt_trans before greater)
      have different : name ≠ head.1 := fun same => String.lt_irrefl name (same ▸ greater)
      rw [insert, if_neg notBefore, if_neg different, induction others, List.cons_append]

/-- Sorted entries are those of themselves. -/
theorem Sorted.ofPairs_eq_self (sorted : Sorted entries) : ofPairs entries = entries := by
  induction entries using List.reverseRecOn with
  | nil => rfl
  | append_singleton entries entry induction =>
      obtain ⟨front, -, below⟩ := List.pairwise_append.1 sorted
      have last : ∀ earlier ∈ entries, earlier.1 < entry.1 := fun earlier member =>
        below earlier member entry List.mem_cons_self
      rw [ofPairs_append_singleton, induction front, insert_eq_append last]

theorem get?_filter (entries : List (String × α)) (name : String) :
    get? (entries.filter fun entry => entry.1 = name) name = get? entries name := by
  induction entries with
  | nil => rfl
  | cons head entries induction =>
      by_cases same : head.1 = name
      · simp [get?_cons, same]
      · simp [get?_cons, same, Ne.symm same, induction]

theorem get?_filter_ne (entries : List (String × α)) {other : String} (different : name ≠ other) :
    get? (entries.filter fun entry => entry.1 ≠ other) name = get? entries name := by
  induction entries with
  | nil => rfl
  | cons head entries induction =>
      by_cases removed : head.1 = other
      · have unlike : name ≠ head.1 := fun same => different (same.trans removed)
        rw [List.filter_cons_of_neg (by simpa using removed), induction, get?_cons, if_neg unlike]
      · rw [List.filter_cons_of_pos (by simpa using removed), get?_cons, get?_cons, induction]

/-- The last value of a name is that among the pairs of this name. -/
theorem last?_filter (pairs : List (String × α)) (name : String) :
    last? (pairs.filter fun pair => pair.1 = name) name = last? pairs name := by
  rw [last?, ← List.filter_reverse, get?_filter, last?]

theorem get?_map (change : α → β) (entries : List (String × α)) (name : String) :
    get? (entries.map (Prod.map id change)) name = (get? entries name).map change := by
  induction entries with
  | nil => rfl
  | cons head entries induction =>
      rw [List.map_cons, get?_cons, get?_cons, induction, Prod.map_fst, Prod.map_snd, id]
      split <;> rfl

end Entries

namespace Dictionary

variable {α β : Type}

theorem get?_insert (dictionary : Dictionary α) (name other : String) (value : α) :
    (dictionary.insert name value).get? other =
      if other = name then some value else dictionary.get? other :=
  Entries.get?_insert dictionary.entries name other value

theorem get?_eq_none_iff {dictionary : Dictionary α} {name : String} :
    dictionary.get? name = none ↔ name ∉ dictionary.names :=
  Entries.get?_eq_none_iff

theorem insert_eq_self {dictionary : Dictionary α} {name : String} {value : α}
    (found : dictionary.get? name = some value) : dictionary.insert name value = dictionary := by
  cases dictionary with
  | mk entries sorted =>
      simp only [insert, mk.injEq]
      exact sorted.insert_eq_self found

/-- Dictionaries that give the same values are the same. -/
theorem eq_of_get? {first second : Dictionary α}
    (same : ∀ name, first.get? name = second.get? name) : first = second := by
  cases first with
  | mk entries sorted =>
      cases second with
      | mk others othersSorted =>
          simp only [mk.injEq]
          exact sorted.eq_of_get? othersSorted same

theorem get?_ofPairs (pairs : List (String × α)) (name : String) :
    (ofPairs pairs).get? name = Entries.last? pairs name :=
  Entries.get?_ofPairs pairs name

theorem nodup_names (dictionary : Dictionary α) : dictionary.names.Nodup := by
  refine List.pairwise_map.2 (List.Pairwise.imp ?_ dictionary.sorted)
  intro first second before same
  exact String.lt_irrefl first.1 (same ▸ before)

/-- A list of pairs gives values to the names in it, each of which counts once. -/
theorem size_ofPairs (pairs : List (String × α)) :
    (ofPairs pairs).size = (pairs.map Prod.fst).dedup.length := by
  have members : ∀ name, name ∈ (ofPairs pairs).names ↔ name ∈ (pairs.map Prod.fst).dedup := by
    intro name
    rw [← not_iff_not, ← get?_eq_none_iff, get?_ofPairs, Entries.last?, Entries.get?_eq_none_iff,
      List.map_reverse, List.mem_reverse, List.mem_dedup]
  have permuted : (ofPairs pairs).names.Perm (pairs.map Prod.fst).dedup :=
    (List.perm_ext_iff_of_nodup (nodup_names _) (List.nodup_dedup _)).2 members
  have sameLength := permuted.length_eq
  rwa [names, List.length_map] at sameLength

/-- Only one dictionary gives each name its last value in a list of pairs. -/
theorem eq_ofPairs_iff {dictionary : Dictionary α} {pairs : List (String × α)} :
    dictionary = ofPairs pairs ↔ ∀ name, dictionary.get? name = Entries.last? pairs name := by
  constructor
  · rintro rfl
    exact get?_ofPairs pairs
  · intro lasts
    exact eq_of_get? fun name => (lasts name).trans (get?_ofPairs pairs name).symm

/-- Pairs of different names may change places. -/
theorem ofPairs_congr {pairs others : List (String × α)}
    (same : ∀ name, others.filter (fun pair => pair.1 = name) =
      pairs.filter fun pair => pair.1 = name) : ofPairs others = ofPairs pairs := by
  apply eq_of_get?
  intro name
  rw [get?_ofPairs, get?_ofPairs, ← Entries.last?_filter others, same, Entries.last?_filter]

/-- The dictionary with all its values changed by a function. -/
def map (change : α → β) (dictionary : Dictionary α) : Dictionary β where
  entries := dictionary.entries.map (Prod.map id change)
  sorted := List.pairwise_map.2 dictionary.sorted

@[simp]
theorem get?_map (change : α → β) (dictionary : Dictionary α) (name : String) :
    (dictionary.map change).get? name = (dictionary.get? name).map change :=
  Entries.get?_map change dictionary.entries name

@[simp]
theorem map_insert (change : α → β) (dictionary : Dictionary α) (name : String) (value : α) :
    (dictionary.insert name value).map change =
      (dictionary.map change).insert name (change value) := by
  refine eq_of_get? fun other => ?_
  rw [get?_map, get?_insert, get?_insert, get?_map]
  split <;> rfl

end Dictionary
end Stencil
