import NarrativePlayer.Table

/-!
Contract: tables and the lists of their entries.

A table keeps its entries in the order of their keys, so it is known once its entries are known in any
order. Owns what is found and which keys there are after an insertion, and that a table comes about from its
entries, however they are ordered.
-/

namespace NarrativePlayer

theorem perm_insertEntry {key value : String} {entries : List (String × String)}
    (new : key ∉ entries.map Prod.fst) :
    (insertEntry key value entries).Perm ((key, value) :: entries) := by
  induction entries with
  | nil => exact .refl _
  | cons entry rest inductionHypothesis =>
      obtain ⟨other, kept⟩ := entry
      rw [List.map_cons, List.mem_cons, not_or] at new
      rw [insertEntry]
      split
      · exact .refl _
      · rw [if_neg new.1]
        exact ((inductionHypothesis new.2).cons (other, kept)).trans (.swap (key, value) (other, kept) rest)

theorem mem_map_fst_insertEntry {key value other : String} {entries : List (String × String)} :
    other ∈ (insertEntry key value entries).map Prod.fst ↔ other = key ∨ other ∈ entries.map Prod.fst := by
  induction entries with
  | nil => simp [insertEntry]
  | cons entry rest inductionHypothesis =>
      obtain ⟨first, kept⟩ := entry
      rw [insertEntry]
      split
      · simp
      · split
        · rename_i same
          simp [same]
        · rw [List.map_cons, List.mem_cons, inductionHypothesis, List.map_cons, List.mem_cons]
          exact or_left_comm

theorem find?_insertEntry_self (key value : String) (entries : List (String × String)) :
    (insertEntry key value entries).find? (fun entry => entry.1 = key) = some (key, value) := by
  induction entries with
  | nil => simp [insertEntry]
  | cons entry rest inductionHypothesis =>
      obtain ⟨other, kept⟩ := entry
      rw [insertEntry]
      split
      · exact List.find?_cons_of_pos (decide_eq_true rfl)
      · split
        · exact List.find?_cons_of_pos (decide_eq_true rfl)
        · rename_i different
          rw [List.find?_cons_of_neg (by simpa using Ne.symm different), inductionHypothesis]

theorem find?_insertEntry_of_ne {key other : String} (different : key ≠ other) (value : String)
    (entries : List (String × String)) :
    (insertEntry key value entries).find? (fun entry => entry.1 = other) =
      entries.find? fun entry => entry.1 = other := by
  induction entries with
  | nil => simp [insertEntry, different]
  | cons entry rest inductionHypothesis =>
      obtain ⟨first, kept⟩ := entry
      rw [insertEntry]
      split
      · exact List.find?_cons_of_neg (by simpa using different)
      · split
        · rename_i same
          rw [List.find?_cons_of_neg (by simpa using different),
            List.find?_cons_of_neg (by simpa [← same] using different)]
        · rw [List.find?_cons, List.find?_cons, inductionHypothesis]

namespace Table

@[simp] theorem find?_insert_self (table : Table) (key value : String) :
    (table.insert key value).find? key = some value := by
  rw [find?, insert, find?_insertEntry_self, Option.map_some]

theorem find?_insert_of_ne {key other : String} (different : key ≠ other) (table : Table)
    (value : String) : (table.insert key value).find? other = table.find? other := by
  rw [find?, find?, insert, find?_insertEntry_of_ne different]

theorem mem_keys_insert {table : Table} {key value other : String} :
    other ∈ (table.insert key value).keys ↔ other = key ∨ other ∈ table.keys :=
  mem_map_fst_insertEntry

theorem find?_eq_none_iff {table : Table} {key : String} :
    table.find? key = none ↔ key ∉ table.keys := by
  simp only [find?, keys, Option.map_eq_none_iff, List.find?_eq_none, List.mem_map, decide_eq_true_eq,
    not_exists, not_and]

theorem eq_of_perm {first second : Table} (perm : first.entries.Perm second.entries) : first = second := by
  have same : first.entries = second.entries :=
    perm.eq_of_pairwise
      (fun left right _ _ before after => absurd (String.lt_trans before after) (String.lt_irrefl left.1))
      first.ascending second.ascending
  cases first
  cases second
  cases same
  rfl

theorem nodup_keys (table : Table) : (table.entries.map Prod.fst).Nodup := by
  refine List.pairwise_map.mpr (table.ascending.imp fun before same => ?_)
  rw [same] at before
  exact String.lt_irrefl _ before

/-- Entries with new keys of their own are all added. -/
theorem perm_foldl_insert (table : Table) {entries : List (String × String)}
    (distinct : (entries.map Prod.fst ++ table.entries.map Prod.fst).Nodup) :
    (entries.foldl (fun table entry => table.insert entry.1 entry.2) table).entries.Perm
      (entries ++ table.entries) := by
  induction entries generalizing table with
  | nil => exact .refl _
  | cons entry rest inductionHypothesis =>
      have new : entry.1 ∉ table.entries.map Prod.fst := by
        rw [List.map_cons, List.cons_append, List.nodup_cons, List.mem_append, not_or] at distinct
        exact distinct.1.2
      have inserted : (table.insert entry.1 entry.2).entries.Perm (entry :: table.entries) :=
        perm_insertEntry new
      have distinctRest : (rest.map Prod.fst ++ (table.insert entry.1 entry.2).entries.map Prod.fst).Nodup := by
        have keys : ((table.insert entry.1 entry.2).entries.map Prod.fst).Perm
            (entry.1 :: table.entries.map Prod.fst) := inserted.map Prod.fst
        exact ((keys.append_left _).trans List.perm_middle).nodup_iff.mpr distinct
      exact ((inductionHypothesis _ distinctRest).trans (inserted.append_left rest)).trans
        List.perm_middle

theorem perm_entries_ofList {entries : List (String × String)} (distinct : (entries.map Prod.fst).Nodup) :
    (ofList entries).entries.Perm entries := by
  have nothing : empty.entries = [] := rfl
  have allDistinct : (entries.map Prod.fst ++ empty.entries.map Prod.fst).Nodup := by
    rwa [nothing, List.map_nil, List.append_nil]
  have added := perm_foldl_insert empty allDistinct
  rwa [nothing, List.append_nil] at added

/-- Entries whose keys differ make the same table in any order. -/
theorem ofList_eq_of_perm {first second : List (String × String)} (distinct : (second.map Prod.fst).Nodup)
    (perm : first.Perm second) : ofList first = ofList second := by
  have distinctFirst : (first.map Prod.fst).Nodup := (perm.map Prod.fst).nodup_iff.mpr distinct
  exact eq_of_perm
    ((perm_entries_ofList distinctFirst).trans (perm.trans (perm_entries_ofList distinct).symm))

/-- A table comes about from its entries in any order. -/
theorem ofList_of_perm {table : Table} {entries : List (String × String)}
    (perm : entries.Perm table.entries) : ofList entries = table := by
  have distinct : (entries.map Prod.fst).Nodup := (perm.map Prod.fst).nodup_iff.mpr table.nodup_keys
  exact eq_of_perm ((perm_entries_ofList distinct).trans perm)

end Table

end NarrativePlayer
