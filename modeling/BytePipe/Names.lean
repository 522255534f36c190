/-!
Things known by name, kept in the order of their names.
-/
namespace BytePipe

structure Names (α : Type) where
  entries : List (String × α)
  deriving Repr

namespace Names

variable {α : Type}

def empty : Names α :=
  ⟨[]⟩

def get? (n : Names α) (name : String) : Option α :=
  n.entries.lookup name

def insertEntry (name : String) (a : α) : List (String × α) → List (String × α)
  | [] => [(name, a)]
  | (other, b) :: rest =>
    if name = other then (name, a) :: rest
    else if name < other then (name, a) :: (other, b) :: rest
    else (other, b) :: insertEntry name a rest

/-- Names a thing; what had the name before loses it. -/
def insert (n : Names α) (name : String) (a : α) : Names α :=
  ⟨insertEntry name a n.entries⟩

def erase (n : Names α) (name : String) : Names α :=
  ⟨n.entries.filter (·.1 ≠ name)⟩

def map (n : Names α) (f : α → α) : Names α :=
  ⟨n.entries.map fun (name, a) => (name, f a)⟩

def contains (n : Names α) (name : String) : Bool :=
  (n.get? name).isSome

def any (n : Names α) (p : α → Bool) : Bool :=
  n.entries.any (p ·.2)

theorem lookup_cons_ite (name other : String) (a : α) (rest : List (String × α)) :
    List.lookup other ((name, a) :: rest) = if other = name then some a else rest.lookup other := by
  rw [List.lookup_cons]
  by_cases same : other = name
  · rw [if_pos same, same, beq_self_eq_true]
  · rw [if_neg same, beq_eq_false_iff_ne.mpr same]

theorem lookup_insertEntry (name other : String) (a : α) (entries : List (String × α)) :
    (insertEntry name a entries).lookup other =
      if other = name then some a else entries.lookup other := by
  induction entries with
  | nil => rw [insertEntry, lookup_cons_ite]
  | cons entry rest ih =>
    obtain ⟨first, b⟩ := entry
    rw [insertEntry, lookup_cons_ite first]
    by_cases found : name = first
    · rw [if_pos found, lookup_cons_ite, ← found]
      by_cases same : other = name
      · rw [if_pos same, if_pos same]
      · rw [if_neg same, if_neg same, if_neg same]
    · rw [if_neg found]
      split
      · rw [lookup_cons_ite, lookup_cons_ite]
      · rw [lookup_cons_ite, ih]
        by_cases same : other = name
        · rw [if_pos same, if_pos same, if_neg fun eq => found (same.symm.trans eq)]
        · rw [if_neg same, if_neg same]

/-- A name stands for what was named last. -/
theorem get?_insert (n : Names α) (name other : String) (a : α) :
    (n.insert name a).get? other = if other = name then some a else n.get? other :=
  lookup_insertEntry name other a n.entries

end Names

end BytePipe
