/-! # Tables

A table holds values under names, in the order in which the names came first. Writing to a name that
is there replaces its value and keeps its place; writing to a new name puts it last. Both are said
by `get?_set` and `names_set`; in particular the names of a table that is made by writing differ.
-/

namespace FilterScript

/-- Names with their values, in order. -/
abbrev Table (α : Type) (κ : Type := String) := List (κ × α)

namespace Table

variable {α κ : Type} [DecidableEq κ]

/-- The value under a name. -/
def get? (table : Table α κ) (name : κ) : Option α := table.lookup name

/-- The table with a value written under a name. -/
def set : Table α κ → κ → α → Table α κ
  | [], name, value => [(name, value)]
  | (key, held) :: rest, name, value =>
    if key = name then (key, value) :: rest else (key, held) :: set rest name value

/-- The table that pairs make when they are written one after the other. -/
def ofPairs (pairs : List (κ × α)) : Table α κ :=
  pairs.foldl (fun table pair => table.set pair.1 pair.2) []

/-- The names in order. -/
def names (table : Table α κ) : List κ := table.map Prod.fst

/-- The first entry answers for its own name, and the others answer for the other names. -/
theorem get?_cons (key name : κ) (held : α) (rest : Table α κ) :
    get? ((key, held) :: rest) name = if name = key then some held else rest.get? name := by
  by_cases same : name = key
  · simp [get?, same]
  · simp [get?, List.lookup_cons, beq_eq_false_iff_ne.mpr same, same]

/-- What is written under a name is read under it, and what stands under other names stays. -/
theorem get?_set (table : Table α κ) (name other : κ) (value : α) :
    (table.set name value).get? other = if other = name then some value else table.get? other := by
  induction table with
  | nil => exact get?_cons name other value []
  | cons entry rest ih =>
    obtain ⟨key, held⟩ := entry
    by_cases here : key = name
    · subst here
      by_cases same : other = key <;> simp [set, get?_cons, same]
    · by_cases first : other = key
      · subst first
        simp [set, get?_cons, here]
      · simp [set, get?_cons, here, first, ih]

/-- A name that is there keeps its place, and a new name comes last. -/
theorem names_set (table : Table α κ) (name : κ) (value : α) :
    (table.set name value).names =
      if name ∈ table.names then table.names else table.names ++ [name] := by
  induction table with
  | nil => simp [set, names]
  | cons entry rest ih =>
    obtain ⟨key, held⟩ := entry
    simp only [names] at ih
    by_cases here : key = name
    · simp [set, names, here]
    · by_cases there : name ∈ rest.map Prod.fst
      · simp [set, names, here, ih, there]
      · have away : name ≠ key := fun same => here same.symm
        simp only [there, ↓reduceIte] at ih
        simp only [set, here, ↓reduceIte, names, List.map_cons, ih, List.mem_cons, away, there,
          or_self, List.cons_append]

/-- Writing keeps the names different from each other. -/
theorem nodup_names_set {table : Table α κ} (distinct : table.names.Nodup) (name : κ) (value : α) :
    (table.set name value).names.Nodup := by
  rw [names_set]
  by_cases there : name ∈ table.names
  · simpa only [there, ↓reduceIte] using distinct
  · simp only [there, ↓reduceIte]
    exact List.nodup_append.mpr ⟨distinct, by simp, by
      intro one member other single
      obtain rfl := List.mem_singleton.mp single
      exact fun same => there (same ▸ member)⟩

/-- The names of a table made of pairs differ from each other. -/
theorem nodup_names_ofPairs (pairs : List (κ × α)) : (ofPairs pairs).names.Nodup := by
  suffices grown : ∀ table : Table α κ, table.names.Nodup →
      (pairs.foldl (fun table pair => table.set pair.1 pair.2) table).names.Nodup from
    grown [] List.nodup_nil
  induction pairs with
  | nil => exact fun _ distinct => distinct
  | cons pair rest ih => exact fun table distinct => ih _ (nodup_names_set distinct _ _)

/-- A new name comes last with its value. -/
theorem set_of_not_mem {table : Table α κ} {name : κ} (absent : name ∉ table.names) (value : α) :
    table.set name value = table ++ [(name, value)] := by
  induction table with
  | nil => rfl
  | cons entry rest ih =>
    obtain ⟨key, held⟩ := entry
    obtain ⟨away, later⟩ := not_or.mp (mt List.mem_cons.mpr absent)
    rw [set, if_neg (Ne.symm away), ih later, List.cons_append]

/-- Pairs under new names come after a table as they are. -/
theorem foldl_set {table pairs : Table α κ} (distinct : (table ++ pairs).names.Nodup) :
    pairs.foldl (fun table pair => table.set pair.1 pair.2) table = table ++ pairs := by
  induction pairs generalizing table with
  | nil => exact (List.append_nil table).symm
  | cons pair rest ih =>
    have absent : pair.1 ∉ table.names := by
      rw [names, List.map_append] at distinct
      obtain ⟨_, _, apart⟩ := List.nodup_append.mp distinct
      exact fun member => apart _ member _ List.mem_cons_self rfl
    rw [List.append_cons] at distinct ⊢
    rw [List.foldl_cons, set_of_not_mem absent]
    exact ih distinct

/-- Pairs under different names are a table as they are. -/
theorem ofPairs_of_nodup {pairs : Table α κ} (distinct : pairs.names.Nodup) :
    ofPairs pairs = pairs :=
  foldl_set distinct

end Table

end FilterScript
