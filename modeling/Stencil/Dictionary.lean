/-!
# Dictionaries

A dictionary gives values to names.  Its entries are listed in strictly increasing code point order
of the names, so two dictionaries that give the same values are equal.
-/

namespace Stencil

namespace Entries

variable {α : Type}

/-- Whether the names of the entries increase strictly. -/
def Sorted (entries : List (String × α)) : Prop :=
  entries.Pairwise fun earlier later => earlier.1 < later.1

/-- Gives a value to a name in sorted entries, in place of any value it had. -/
def insert (name : String) (value : α) : List (String × α) → List (String × α)
  | [] => [(name, value)]
  | entry :: entries =>
    if name < entry.1 then (name, value) :: entry :: entries
    else if name = entry.1 then (name, value) :: entries
    else entry :: insert name value entries

/-- The sorted entries in which each name has its last value in a list of pairs. -/
def ofPairs (pairs : List (String × α)) : List (String × α) :=
  pairs.foldl (fun entries pair => insert pair.1 pair.2 entries) []

/-- The value of a name, if it has one. -/
def get? (entries : List (String × α)) (name : String) : Option α :=
  entries.lookup name

theorem mem_insert {name : String} {value : α} {entries : List (String × α)}
    {entry : String × α} (member : entry ∈ insert name value entries) :
    entry = (name, value) ∨ entry ∈ entries := by
  induction entries with
  | nil => simpa [insert] using member
  | cons head entries induction =>
      simp only [insert] at member
      split at member
      · simpa using member
      · split at member
        · rcases List.mem_cons.1 member with equal | inside
          · exact .inl equal
          · exact .inr (List.mem_cons_of_mem _ inside)
        · rcases List.mem_cons.1 member with equal | inside
          · exact .inr (equal ▸ List.mem_cons_self)
          · exact (induction inside).imp id (List.mem_cons_of_mem _)

theorem Sorted.insert {entries : List (String × α)} (sorted : Sorted entries)
    (name : String) (value : α) : Sorted (insert name value entries) := by
  induction entries with
  | nil => simp [Entries.insert, Sorted]
  | cons head entries induction =>
      obtain ⟨above, rest⟩ := List.pairwise_cons.1 sorted
      simp only [Entries.insert]
      split
      next before =>
        refine List.pairwise_cons.2 ⟨fun entry member => ?_, sorted⟩
        rcases List.mem_cons.1 member with rfl | inside
        · exact before
        · exact String.lt_trans before (above entry inside)
      next notBefore =>
        split
        next equal =>
          exact List.pairwise_cons.2 ⟨fun entry inside => equal ▸ above entry inside, rest⟩
        next different =>
          refine List.pairwise_cons.2 ⟨fun entry member => ?_, induction rest⟩
          rcases mem_insert member with rfl | inside
          · have least : head.1 ≤ name := String.not_lt.1 notBefore
            exact String.not_le.1 fun greatest =>
              different (String.le_antisymm greatest least)
          · exact above entry inside

theorem Sorted.foldl_insert {entries : List (String × α)} (sorted : Sorted entries)
    (pairs : List (String × α)) :
    Sorted (pairs.foldl (fun entries pair => Entries.insert pair.1 pair.2 entries) entries) := by
  induction pairs generalizing entries with
  | nil => exact sorted
  | cons pair pairs induction => exact induction (sorted.insert pair.1 pair.2)

theorem sorted_ofPairs (pairs : List (String × α)) : Sorted (ofPairs pairs) :=
  Sorted.foldl_insert List.Pairwise.nil pairs

end Entries

/-- Values given to names, listed in increasing order of the names. -/
structure Dictionary (α : Type) where
  /-- The names with their values. -/
  entries : List (String × α)
  /-- Each name is listed once, and in order. -/
  sorted : Entries.Sorted entries

namespace Dictionary

variable {α : Type}

/-- The dictionary without a name. -/
def empty : Dictionary α where
  entries := []
  sorted := List.Pairwise.nil

instance : Inhabited (Dictionary α) := ⟨empty⟩

/-- Gives a value to a name, in place of any value it had. -/
def insert (dictionary : Dictionary α) (name : String) (value : α) : Dictionary α where
  entries := Entries.insert name value dictionary.entries
  sorted := dictionary.sorted.insert name value

/-- Gives each name its last value in a list of pairs. -/
def ofPairs (pairs : List (String × α)) : Dictionary α where
  entries := Entries.ofPairs pairs
  sorted := Entries.sorted_ofPairs pairs

/-- The value of a name, if it has one. -/
def get? (dictionary : Dictionary α) (name : String) : Option α :=
  Entries.get? dictionary.entries name

/-- The number of names. -/
def size (dictionary : Dictionary α) : Nat :=
  dictionary.entries.length

/-- The names, in order. -/
def names (dictionary : Dictionary α) : List String :=
  dictionary.entries.map (·.1)

end Dictionary
end Stencil
