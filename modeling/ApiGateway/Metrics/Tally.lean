/-!
# Tallies

A tally counts events by labels. A label set that was looked at or counted has an entry from then on; the
view of a tally is `count`, and adding to one label set leaves the counts of all others alone.
-/

namespace ApiGateway.Metrics

/-- The values of the labels of an event, in the order in which its family names them. -/
abbrev Labels := List String

/-- Counts by labels, each label set at most once. -/
structure Tally where
  entries : List (Labels × Nat)
  deriving DecidableEq, Repr, Inhabited

namespace Tally

/-- A tally without entries. -/
def empty : Tally := ⟨[]⟩

/-- Puts `n` more on the entry of the labels. -/
def addTo (labels : Labels) (n : Nat) : List (Labels × Nat) → List (Labels × Nat)
  | [] => [(labels, n)]
  | (l, m) :: rest => if l = labels then (l, m + n) :: rest else (l, m) :: addTo labels n rest

/-- Counts one event. -/
def add (t : Tally) (labels : Labels) : Tally :=
  ⟨addTo labels 1 t.entries⟩

/-- Makes sure that the labels have an entry. -/
def touch (t : Tally) (labels : Labels) : Tally :=
  ⟨addTo labels 0 t.entries⟩

/-- How many events with the labels were counted. -/
def count (t : Tally) (labels : Labels) : Nat :=
  (t.entries.lookup labels).getD 0

/-- The counts of all entries together. -/
def sum : List (Labels × Nat) → Nat
  | [] => 0
  | (_, m) :: rest => m + sum rest

/-- How many events were counted. -/
def total (t : Tally) : Nat :=
  sum t.entries

/-- Adding to labels raises their count. -/
theorem lookup_addTo_self (labels : Labels) (n : Nat) (entries : List (Labels × Nat)) :
    ((addTo labels n entries).lookup labels).getD 0 = (entries.lookup labels).getD 0 + n := by
  induction entries with
  | nil => simp [addTo]
  | cons e rest ih =>
    obtain ⟨l, m⟩ := e
    by_cases h : l = labels
    · simp [addTo, h]
    · have h' : (labels == l) = false := by simpa using Ne.symm h
      simp [addTo, h, List.lookup_cons, h', ih]

/-- Adding to labels leaves the counts of others. -/
theorem lookup_addTo_of_ne {labels other : Labels} (h : labels ≠ other) (n : Nat)
    (entries : List (Labels × Nat)) :
    ((addTo labels n entries).lookup other).getD 0 = (entries.lookup other).getD 0 := by
  induction entries with
  | nil =>
    have h' : (other == labels) = false := by simpa using Ne.symm h
    simp [addTo, List.lookup_cons, h']
  | cons e rest ih =>
    obtain ⟨l, m⟩ := e
    by_cases hl : l = labels
    · have h' : (other == labels) = false := by simpa using Ne.symm h
      simp [addTo, hl, List.lookup_cons, h']
    · by_cases ho : other = l
      · simp [addTo, hl, ho]
      · have h' : (other == l) = false := by simpa using ho
        simp [addTo, hl, List.lookup_cons, h', ih]

/-- An entry counts one for its labels. -/
theorem count_add_self (t : Tally) (labels : Labels) :
    (t.add labels).count labels = t.count labels + 1 :=
  lookup_addTo_self labels 1 t.entries

/-- An entry counts nothing for other labels. -/
theorem count_add_of_ne (t : Tally) {labels other : Labels} (h : labels ≠ other) :
    (t.add labels).count other = t.count other :=
  lookup_addTo_of_ne h 1 t.entries

/-- Adding to labels raises the sum of all counts. -/
theorem sum_addTo (labels : Labels) (n : Nat) (entries : List (Labels × Nat)) :
    sum (addTo labels n entries) = sum entries + n := by
  induction entries with
  | nil => simp [addTo, sum]
  | cons e rest ih =>
    obtain ⟨l, m⟩ := e
    by_cases h : l = labels
    · simp [addTo, h, sum]; omega
    · simp [addTo, h, sum, ih]; omega

/-- An entry counts one in all. -/
theorem total_add (t : Tally) (labels : Labels) : (t.add labels).total = t.total + 1 :=
  sum_addTo labels 1 t.entries

end Tally

end ApiGateway.Metrics
