/-!
# Values by key

A list of keys with values, in the order in which the keys came. `alter` changes the value of one key
(`get?_alter_self`) and leaves the others alone (`get?_alter_of_ne`).
-/

namespace ApiGateway.Settings

/-- Values by key; no key is there twice. -/
abbrev Keyed (α : Type) := List (String × α)

namespace Keyed

variable {α : Type}

/-- The value of a key. -/
def get? (key : String) (t : Keyed α) : Option α :=
  t.lookup key

/-- Changes the value of a key in its place; a new key comes last. -/
def alter (key : String) (change : Option α → α) : Keyed α → Keyed α
  | [] => [(key, change none)]
  | (k, v) :: rest => if k = key then (k, change (some v)) :: rest else (k, v) :: alter key change rest

/-- Changes the value of a key, if it can be changed. -/
def alter? (key : String) (change : Option α → Option α) (t : Keyed α) : Option (Keyed α) :=
  (change (t.get? key)).map fun new => t.alter key fun _ => new

/-- Sets the value of a key. -/
def put (key : String) (value : α) (t : Keyed α) : Keyed α :=
  t.alter key fun _ => value

/-- A key has what its first entry holds. -/
theorem get?_cons (key : String) (e : String × α) (rest : Keyed α) :
    get? key (e :: rest) = if key = e.1 then some e.2 else get? key rest := by
  obtain ⟨k, v⟩ := e
  by_cases h : key = k
  · simp [get?, h]
  · have h' : (key == k) = false := by simpa using h
    simp [get?, List.lookup_cons, h, h']

/-- A changed key holds what the change makes of it. -/
theorem get?_alter_self (key : String) (change : Option α → α) (t : Keyed α) :
    (t.alter key change).get? key = some (change (t.get? key)) := by
  induction t with
  | nil => simp [alter, get?]
  | cons e rest ih =>
    by_cases h : e.1 = key
    · simp [alter, h, get?_cons]
    · have h' : key ≠ e.1 := fun eq => h eq.symm
      simp [alter, h, h', get?_cons, ih]

/-- Changing a key leaves the others. -/
theorem get?_alter_of_ne {key other : String} (h : other ≠ key) (change : Option α → α)
    (t : Keyed α) : (t.alter key change).get? other = t.get? other := by
  induction t with
  | nil => simp [alter, get?, h]
  | cons e rest ih =>
    by_cases hk : e.1 = key
    · simp [alter, hk, get?_cons, h]
    · simp [alter, hk, get?_cons, ih]

end Keyed

end ApiGateway.Settings
