import ApiGateway.Metrics.Histogram
import Mathlib.Data.Finset.Card
import Mathlib.Tactic.Lemma

/-!
# Label sets and totals over them

`Tally.labelSets` and `Histograms.labelSets` are the label sets that have an entry. What is counted gets an entry if it
has none, and no other entry comes or goes (`Tally.labelSets_add`, `Histograms.labelSets_observe`).

`Tally.totalWhere` adds up the counts of all label sets that have a property. One more event adds one to the totals of
the properties that its labels have (`totalWhere_add`). A histogram counts the durations of its own labels
(`count_observe_self`, `count_observe_of_ne`).
-/

namespace ApiGateway.Metrics

namespace Tally

/-- The label sets of a tally. -/
def labelSets (t : Tally) : Finset Labels :=
  (t.entries.map Prod.fst).toFinset

/-- An entry adds its label set, if that is new. -/
lemma labelSets_add (t : Tally) (labels : Labels) : (t.add labels).labelSets = insert labels t.labelSets := by
  obtain ⟨entries⟩ := t
  induction entries with
  | nil => rfl
  | cons e rest ih =>
    obtain ⟨l, n⟩ := e
    by_cases hl : l = labels
    · subst hl
      simp [add, addTo, labelSets]
    · have hrest : ((addTo labels 1 rest).map Prod.fst).toFinset = insert labels (rest.map Prod.fst).toFinset := ih
      simp only [add, addTo, if_neg hl, labelSets, List.map_cons, List.toFinset_cons, hrest]
      exact Finset.insert_comm l labels _

/-- How many events were counted whose labels have the property. -/
def totalWhere (t : Tally) (p : Labels → Bool) : Nat :=
  sum (t.entries.filter fun e => p e.1)

/-- Adding to labels raises the sum of the counts with a property exactly if the labels have it. -/
lemma sum_filter_addTo (p : Labels → Bool) (labels : Labels) (n : Nat) (entries : List (Labels × Nat)) :
    sum ((addTo labels n entries).filter fun e => p e.1) =
      sum (entries.filter fun e => p e.1) + if p labels then n else 0 := by
  induction entries with
  | nil =>
    rw [addTo, List.filter_cons]
    cases p labels with
    | true => simp [sum]
    | false => simp [sum]
  | cons e rest ih =>
    obtain ⟨l, m⟩ := e
    rw [addTo]
    by_cases hl : l = labels
    · subst hl
      rw [if_pos rfl, List.filter_cons, List.filter_cons]
      cases p l with
      | true => simp only [if_true, sum]; omega
      | false => simp
    · rw [if_neg hl, List.filter_cons, List.filter_cons]
      cases p l with
      | true => simp only [if_true, sum, ih]; omega
      | false => simpa using ih

/-- An entry counts one among those with a property exactly if its labels have it. -/
lemma totalWhere_add (t : Tally) (p : Labels → Bool) (labels : Labels) :
    (t.add labels).totalWhere p = t.totalWhere p + if p labels then 1 else 0 :=
  sum_filter_addTo p labels 1 t.entries

end Tally

namespace Histograms

/-- The label sets of histograms. -/
def labelSets (hs : Histograms) : Finset Labels :=
  (hs.entries.map Prod.fst).toFinset

/-- A duration adds its label set, if that is new. -/
lemma labelSets_observe (hs : Histograms) (labels : Labels) (seconds : Number.Binary64) :
    (hs.observe labels seconds).labelSets = insert labels hs.labelSets := by
  obtain ⟨entries⟩ := hs
  induction entries with
  | nil => rfl
  | cons e rest ih =>
    obtain ⟨l, h⟩ := e
    by_cases hl : l = labels
    · subst hl
      simp [observe, observeIn, labelSets]
    · have hrest : ((observeIn labels seconds rest).map Prod.fst).toFinset =
          insert labels (rest.map Prod.fst).toFinset := ih
      simp only [observe, observeIn, if_neg hl, labelSets, List.map_cons, List.toFinset_cons, hrest]
      exact Finset.insert_comm l labels _

/-- A duration counts one for its labels. -/
lemma lookup_observeIn_self (labels : Labels) (seconds : Number.Binary64) (entries : List (Labels × Histogram)) :
    (((observeIn labels seconds entries).lookup labels).map Histogram.count).getD 0 =
      ((entries.lookup labels).map Histogram.count).getD 0 + 1 := by
  induction entries with
  | nil => simp [observeIn, Histogram.observe, Histogram.empty]
  | cons e rest ih =>
    obtain ⟨l, h⟩ := e
    by_cases hl : l = labels
    · subst hl
      simp [observeIn, Histogram.observe]
    · have hne : (labels == l) = false := by simpa using Ne.symm hl
      simp only [observeIn, if_neg hl, List.lookup_cons, hne]
      exact ih

/-- A duration leaves the entries of other labels. -/
lemma lookup_observeIn_of_ne {labels other : Labels} (h : labels ≠ other) (seconds : Number.Binary64)
    (entries : List (Labels × Histogram)) :
    (observeIn labels seconds entries).lookup other = entries.lookup other := by
  have hne : (other == labels) = false := by simpa using Ne.symm h
  induction entries with
  | nil => simp [observeIn, List.lookup_cons, hne]
  | cons e rest ih =>
    obtain ⟨l, hist⟩ := e
    by_cases hl : l = labels
    · subst hl
      simp [observeIn, List.lookup_cons, hne]
    · rw [observeIn, if_neg hl, List.lookup_cons, List.lookup_cons, ih]

/-- A duration counts one for its labels, in all histograms. -/
lemma count_observe_self (hs : Histograms) (labels : Labels) (seconds : Number.Binary64) :
    (hs.observe labels seconds).count labels = hs.count labels + 1 :=
  lookup_observeIn_self labels seconds hs.entries

/-- A duration counts nothing for other labels. -/
lemma count_observe_of_ne (hs : Histograms) {labels other : Labels} (h : labels ≠ other)
    (seconds : Number.Binary64) : (hs.observe labels seconds).count other = hs.count other := by
  rw [count, observe, lookup_observeIn_of_ne h, count]

end Histograms

end ApiGateway.Metrics
