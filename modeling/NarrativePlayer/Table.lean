/-!
Contract: finite tables from text to text.

Owns the canonical form (entries in strictly ascending key order), so that two tables with the same
entries are equal however they came about, and look-up, insertion and reading from a list of pairs.
Story variables and the event targets of a sequence are such tables.
-/

namespace NarrativePlayer

/-- Inserts or replaces one entry of a list in ascending key order. -/
def insertEntry (key value : String) : List (String × String) → List (String × String)
  | [] => [(key, value)]
  | (other, kept) :: rest =>
      if key < other then (key, value) :: (other, kept) :: rest
      else if key = other then (key, value) :: rest
      else (other, kept) :: insertEntry key value rest

theorem mem_insertEntry {key value : String} {entry : String × String}
    {entries : List (String × String)} (member : entry ∈ insertEntry key value entries) :
    entry = (key, value) ∨ entry ∈ entries := by
  induction entries with
  | nil => simpa [insertEntry] using member
  | cons head tail inductionHypothesis =>
      obtain ⟨other, kept⟩ := head
      rw [insertEntry] at member
      split at member
      · simpa using member
      · split at member
        · rcases List.mem_cons.mp member with isNew | inTail
          · exact .inl isNew
          · exact .inr (List.mem_cons_of_mem _ inTail)
        · rcases List.mem_cons.mp member with isHead | inTail
          · exact .inr (by simp [isHead])
          · rcases inductionHypothesis inTail with isNew | old
            · exact .inl isNew
            · exact .inr (List.mem_cons_of_mem _ old)

/-- Insertion keeps the keys in strictly ascending order. -/
theorem insertEntry_ascending {entries : List (String × String)} (key value : String)
    (ascending : entries.Pairwise (fun left right => left.1 < right.1)) :
    (insertEntry key value entries).Pairwise (fun left right => left.1 < right.1) := by
  induction entries with
  | nil => simp [insertEntry]
  | cons head tail inductionHypothesis =>
      obtain ⟨other, kept⟩ := head
      rw [List.pairwise_cons] at ascending
      obtain ⟨headLeast, tailAscending⟩ := ascending
      rw [insertEntry]
      split
      · rename_i before
        refine List.pairwise_cons.mpr ⟨?_, List.pairwise_cons.mpr ⟨headLeast, tailAscending⟩⟩
        intro entry member
        rcases List.mem_cons.mp member with isHead | inTail
        · simpa [isHead] using before
        · exact String.lt_trans before (headLeast entry inTail)
      · rename_i notBefore
        split
        · rename_i same
          subst same
          exact List.pairwise_cons.mpr ⟨headLeast, tailAscending⟩
        · rename_i different
          refine List.pairwise_cons.mpr ⟨?_, inductionHypothesis tailAscending⟩
          intro entry member
          rcases mem_insertEntry member with isNew | old
          · subst isNew
            rcases Std.Trichotomous.rel_or_eq_or_rel_swap (r := fun left right : String => left < right)
                (a := key) (b := other) with before | same | after
            · exact absurd before notBefore
            · exact absurd same different
            · exact after
          · exact headLeast entry old

/-- A finite table from text to text. -/
structure Table where
  /-- The entries, in strictly ascending key order. -/
  entries : List (String × String)
  ascending : entries.Pairwise (fun left right => left.1 < right.1)
deriving DecidableEq

namespace Table

def empty : Table := ⟨[], .nil⟩

instance : Inhabited Table := ⟨empty⟩

instance : Repr Table := ⟨fun table precedence => reprPrec table.entries precedence⟩

def find? (table : Table) (key : String) : Option String :=
  (table.entries.find? (fun entry => entry.1 = key)).map Prod.snd

def contains (table : Table) (key : String) : Bool :=
  table.entries.any (fun entry => entry.1 = key)

def insert (table : Table) (key value : String) : Table :=
  ⟨insertEntry key value table.entries, insertEntry_ascending key value table.ascending⟩

/-- The table of a list of pairs; of two pairs with one key the later counts. -/
def ofList (pairs : List (String × String)) : Table :=
  pairs.foldl (fun table pair => table.insert pair.1 pair.2) empty

/-- The keys, in ascending order. -/
def keys (table : Table) : List String :=
  table.entries.map Prod.fst

/-- The values, in the order of their keys. -/
def values (table : Table) : List String :=
  table.entries.map Prod.snd

end Table

end NarrativePlayer
