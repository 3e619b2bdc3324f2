/-
# Dictionaries that remember their order

Settings and properties are dictionaries from texts to values whose order shows: keys are listed
in the order in which they first came.  A `Dictionary` is a list of entries whose keys are
distinct, and every operation keeps them so.  Setting a key that is there changes its value and
not its place.

`put` and `find?` are the operations on bare lists of entries; the laws at the end describe each
operation by the keys and by the values that `get?` finds.
-/
import CloudAccess.Text.Basic

namespace CloudAccess

/-! ## 1. Lists of entries -/

namespace Entries

variable {α : Type}

/-- The value at a key. -/
def find? (key : Text) : List (Text × α) → Option α
  | [] => none
  | (k, v) :: rest => if k = key then some v else find? key rest

/-- Set the value at a key: a key that is there keeps its place, a new one comes last. -/
def put (key : Text) (value : α) : List (Text × α) → List (Text × α)
  | [] => [(key, value)]
  | (k, v) :: rest => if k = key then (key, value) :: rest else (k, v) :: put key value rest

/-- The keys of a list of entries. -/
def keys (entries : List (Text × α)) : List Text := entries.map (·.1)

theorem keys_put (key : Text) (value : α) (entries : List (Text × α)) :
    keys (put key value entries) =
      if key ∈ keys entries then keys entries else keys entries ++ [key] := by
  induction entries with
  | nil => simp [put, keys]
  | cons entry rest ih =>
    obtain ⟨k, v⟩ := entry
    unfold put
    by_cases h : k = key
    · subst h; simp [keys]
    · have hne : ¬ key = k := fun e => h e.symm
      simp only [h, ↓reduceIte]
      simp only [keys] at ih
      simp only [keys, List.map_cons, ih, List.mem_cons, hne, false_or]
      split <;> simp_all

theorem nodup_keys_put {key : Text} {value : α} {entries : List (Text × α)}
    (h : (keys entries).Nodup) : (keys (put key value entries)).Nodup := by
  rw [keys_put]
  split
  · exact h
  · rename_i hk
    rw [List.nodup_append]
    refine ⟨h, by simp, ?_⟩
    intro a ha b hb
    simp only [List.mem_singleton] at hb
    subst hb
    intro e
    exact hk (e ▸ ha)

theorem find?_put (key other : Text) (value : α) (entries : List (Text × α)) :
    find? other (put key value entries) =
      if key = other then some value else find? other entries := by
  induction entries with
  | nil => simp [put, find?]
  | cons entry rest ih =>
    obtain ⟨k, v⟩ := entry
    unfold put
    by_cases h : k = key
    · subst h
      by_cases ho : k = other <;> simp [find?, ho]
    · simp only [h, ↓reduceIte, find?, ih]
      by_cases ho : k = other
      · have hk : ¬ key = other := fun e => h (ho.trans e.symm)
        simp [ho, hk]
      · simp [ho]

theorem find?_isSome_iff {key : Text} {entries : List (Text × α)} :
    (find? key entries).isSome = true ↔ key ∈ keys entries := by
  induction entries with
  | nil => simp [find?, keys]
  | cons entry rest ih =>
    obtain ⟨k, v⟩ := entry
    unfold find?
    by_cases h : k = key
    · simp [h, keys]
    · have hne : ¬ key = k := fun e => h e.symm
      simp only [keys] at ih
      simp [h, hne, ih, keys]

end Entries

/-! ## 2. Dictionaries -/

/-- Entries with distinct keys, in the order in which the keys first came. -/
structure Dictionary (α : Type) where
  entries : List (Text × α) := []
  nodup : (Entries.keys entries).Nodup := by simp [Entries.keys]

namespace Dictionary

variable {α : Type}

instance [DecidableEq α] : DecidableEq (Dictionary α) := fun a b =>
  if h : a.entries = b.entries then isTrue (by cases a; cases b; cases h; rfl)
  else isFalse fun e => h (congrArg entries e)

/-- The dictionary without entries. -/
def empty : Dictionary α := {}

instance : Inhabited (Dictionary α) := ⟨empty⟩

/-- The keys, in order. -/
def keys (d : Dictionary α) : List Text := Entries.keys d.entries

/-- The number of keys. -/
def size (d : Dictionary α) : Nat := d.entries.length

/-- There are no entries. -/
def isEmpty (d : Dictionary α) : Bool := d.entries.isEmpty

/-- The value at a key. -/
def get? (d : Dictionary α) (key : Text) : Option α := Entries.find? key d.entries

/-- The key has a value. -/
def contains (d : Dictionary α) (key : Text) : Bool := (d.get? key).isSome

/-- Set the value at a key. -/
def insert (d : Dictionary α) (key : Text) (value : α) : Dictionary α :=
  ⟨Entries.put key value d.entries, Entries.nodup_keys_put d.nodup⟩

/-- Only the entries of a class of keys and values. -/
def filter (p : Text → α → Bool) (d : Dictionary α) : Dictionary α :=
  ⟨d.entries.filter fun (k, v) => p k v,
    (List.Sublist.map _ List.filter_sublist).nodup d.nodup⟩

/-- Remove a key. -/
def erase (d : Dictionary α) (key : Text) : Dictionary α := d.filter fun k _ => k ≠ key

/-- Set the values of a list of pairs, one after the other. -/
def insertAll (d : Dictionary α) (pairs : List (Text × α)) : Dictionary α :=
  pairs.foldl (fun d (k, v) => d.insert k v) d

/-- The dictionary of a list of pairs: of pairs with one key, the first gives the place and the
last the value. -/
def ofList (pairs : List (Text × α)) : Dictionary α := insertAll empty pairs

/-- Both dictionaries in one; the values of the second win. -/
def merge (lower upper : Dictionary α) : Dictionary α := lower.insertAll upper.entries

/-- Every value changed. -/
def map {β : Type} (f : α → β) (d : Dictionary α) : Dictionary β :=
  ⟨d.entries.map fun (k, v) => (k, f v), by
    have h := d.nodup
    simpa [Entries.keys, List.map_map, Function.comp_def] using h⟩

/-! ## 3. Laws of the operations -/

@[ext] theorem ext {a b : Dictionary α} (h : a.entries = b.entries) : a = b := by
  cases a; cases b; cases h; rfl

@[simp] theorem get?_empty (key : Text) : (empty : Dictionary α).get? key = none := rfl

@[simp] theorem keys_empty : (empty : Dictionary α).keys = [] := rfl

theorem get?_insert (d : Dictionary α) (key other : Text) (value : α) :
    (d.insert key value).get? other = if key = other then some value else d.get? other :=
  Entries.find?_put key other value d.entries

theorem keys_insert (d : Dictionary α) (key : Text) (value : α) :
    (d.insert key value).keys = if key ∈ d.keys then d.keys else d.keys ++ [key] :=
  Entries.keys_put key value d.entries

theorem contains_iff {d : Dictionary α} {key : Text} : d.contains key = true ↔ key ∈ d.keys :=
  Entries.find?_isSome_iff

@[simp] theorem length_keys (d : Dictionary α) : d.keys.length = d.size := by
  simp [keys, size, Entries.keys]

theorem get?_insertAll (d : Dictionary α) (pairs : List (Text × α)) (key : Text) :
    (d.insertAll pairs).get? key =
      ((pairs.reverse.find? fun p => p.1 = key).map (·.2)).or (d.get? key) := by
  induction pairs generalizing d with
  | nil => simp [insertAll]
  | cons p rest ih =>
    obtain ⟨k, v⟩ := p
    have step : d.insertAll ((k, v) :: rest) = (d.insert k v).insertAll rest := rfl
    rw [step, ih, get?_insert, List.reverse_cons, List.find?_append]
    cases List.find? (fun p => decide (p.1 = key)) rest.reverse with
    | some found => simp
    | none => by_cases h : k = key <;> simp [h]

end Dictionary

end CloudAccess
