/-!
# Maps with sorted text keys

A finite map from strings, kept as its entries in strictly increasing key order. Two maps are equal
exactly when their entry lists are.
-/

namespace RestFlow

/-- A finite map from strings, listed by increasing key. -/
structure SortedMap (α : Type) where
  /-- The entries, by increasing key. -/
  entries : List (String × α)
  increasing : entries.Pairwise fun a b => a.1 < b.1

namespace SortedMap

variable {α β : Type}

/-- The map without entries. -/
def empty : SortedMap α := ⟨[], .nil⟩

instance : Inhabited (SortedMap α) := ⟨empty⟩

instance [BEq α] : BEq (SortedMap α) := ⟨fun a b => a.entries == b.entries⟩

@[simp] theorem beq_def [BEq α] (a b : SortedMap α) : (a == b) = (a.entries == b.entries) := rfl

theorem ext_entries {a b : SortedMap α} (h : a.entries = b.entries) : a = b := by
  cases a
  cases b
  simp_all

instance [DecidableEq α] : DecidableEq (SortedMap α) := fun a b =>
  if h : a.entries = b.entries then .isTrue (ext_entries h)
  else .isFalse fun e => h (congrArg entries e)

/-- The value stored under a key. -/
def get? (m : SortedMap α) (key : String) : Option α :=
  m.entries.lookup key

@[simp] theorem get?_empty (key : String) : (empty : SortedMap α).get? key = none := rfl

/-- Whether a key has a value. -/
def contains (m : SortedMap α) (key : String) : Bool :=
  (m.get? key).isSome

/-- The keys, in increasing order. -/
def keys (m : SortedMap α) : List String :=
  m.entries.map Prod.fst

/-- The values, by increasing key. -/
def values (m : SortedMap α) : List α :=
  m.entries.map Prod.snd

/-- The number of entries. -/
def size (m : SortedMap α) : Nat :=
  m.entries.length

/-- The entries with `value` stored under `key`, in place of what was there. -/
def insertEntry (key : String) (value : α) : List (String × α) → List (String × α)
  | [] => [(key, value)]
  | e :: rest =>
    if key < e.1 then (key, value) :: e :: rest
    else if key = e.1 then (key, value) :: rest
    else e :: insertEntry key value rest

theorem mem_insertEntry {key : String} {value : α} {e : String × α} {l : List (String × α)}
    (h : e ∈ insertEntry key value l) : e = (key, value) ∨ e ∈ l := by
  induction l with
  | nil => simpa [insertEntry] using h
  | cons d rest ih =>
    by_cases hlt : key < d.1
    · simpa [insertEntry, hlt] using h
    · by_cases heq : key = d.1
      · rw [insertEntry, if_neg hlt, if_pos heq, List.mem_cons] at h
        exact h.imp id (List.mem_cons_of_mem _)
      · rw [insertEntry, if_neg hlt, if_neg heq, List.mem_cons] at h
        rcases h with h | h
        · exact .inr (h ▸ List.mem_cons_self)
        · exact (ih h).imp id (List.mem_cons_of_mem _)

theorem insertEntry_increasing (key : String) (value : α) {l : List (String × α)}
    (h : l.Pairwise fun a b => a.1 < b.1) :
    (insertEntry key value l).Pairwise fun a b => a.1 < b.1 := by
  induction l with
  | nil => simp [insertEntry]
  | cons e rest ih =>
    have h := List.pairwise_cons.mp h
    by_cases hlt : key < e.1
    · rw [insertEntry, if_pos hlt]
      refine List.pairwise_cons.mpr ⟨fun d hd => ?_, List.pairwise_cons.mpr h⟩
      rcases List.mem_cons.mp hd with rfl | hd
      · exact hlt
      · exact String.lt_trans hlt (h.1 d hd)
    · by_cases heq : key = e.1
      · rw [insertEntry, if_neg hlt, if_pos heq]
        exact List.pairwise_cons.mpr ⟨fun d hd => heq ▸ h.1 d hd, h.2⟩
      · rw [insertEntry, if_neg hlt, if_neg heq]
        refine List.pairwise_cons.mpr ⟨fun d hd => ?_, ih h.2⟩
        rcases mem_insertEntry hd with rfl | hd
        · exact Std.lt_of_le_of_ne (Std.not_lt.mp hlt) (Ne.symm heq)
        · exact h.1 d hd

/-- Store a value under a key, in place of what was there. -/
def insert (m : SortedMap α) (key : String) (value : α) : SortedMap α :=
  ⟨insertEntry key value m.entries, insertEntry_increasing key value m.increasing⟩

/-- The map of a list of entries; of several values for one key the last one stays. -/
def ofList (entries : List (String × α)) : SortedMap α :=
  entries.foldl (fun m e => m.insert e.1 e.2) empty

/-- Apply a function to every value. -/
def mapValues (f : α → β) (m : SortedMap α) : SortedMap β :=
  ⟨m.entries.map fun e => (e.1, f e.2), List.pairwise_map.mpr m.increasing⟩

/-- The entries whose key passes a test. -/
def filter (p : String → Bool) (m : SortedMap α) : SortedMap α :=
  ⟨m.entries.filter fun e => p e.1, m.increasing.filter _⟩

/-- Append a value to the list stored under a key. -/
def append (m : SortedMap (List α)) (key : String) (value : α) : SortedMap (List α) :=
  m.insert key ((m.get? key).getD [] ++ [value])

/-- Count one more occurrence of a key. -/
def count (m : SortedMap Nat) (key : String) : SortedMap Nat :=
  m.insert key ((m.get? key).getD 0 + 1)

end SortedMap

end RestFlow
