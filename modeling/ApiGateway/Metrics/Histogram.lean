import ApiGateway.Number.Binary64
import ApiGateway.Metrics.Tally

/-!
# Histograms

A histogram counts durations by buckets. A duration belongs to the first bucket whose bound it does not
exceed; the last bucket has no bound.
-/

namespace ApiGateway.Metrics

open Number (Binary64)

/-- The bounds of the buckets in seconds, in thousandths. -/
def boundThousandths : List Nat :=
  [5, 10, 25, 50, 100, 250, 500, 1000, 2500, 5000, 10000]

/-- The bounds of the buckets in seconds. -/
def bounds : List Binary64 :=
  boundThousandths.map fun n => .ofRatio false n 1000

/-- Counts of durations: how many do not exceed each bound, their sum, and how many there are. -/
structure Histogram where
  within : List Nat
  sum : Binary64
  count : Nat
  deriving DecidableEq, Repr, Inhabited

namespace Histogram

/-- A histogram of no duration. -/
def empty : Histogram :=
  { within := bounds.map fun _ => 0, sum := .zero false, count := 0 }

/-- With one more duration. -/
def observe (h : Histogram) (seconds : Binary64) : Histogram :=
  { within := List.zipWith (fun n bound => if seconds.le bound then n + 1 else n) h.within bounds
    sum := h.sum.add seconds
    count := h.count + 1 }

end Histogram

/-- Histograms by labels, each label set at most once. -/
structure Histograms where
  entries : List (Labels × Histogram)
  deriving DecidableEq, Repr, Inhabited

namespace Histograms

/-- No histogram. -/
def empty : Histograms := ⟨[]⟩

/-- Puts a duration into the histogram of the labels. -/
def observeIn (labels : Labels) (seconds : Binary64) :
    List (Labels × Histogram) → List (Labels × Histogram)
  | [] => [(labels, Histogram.empty.observe seconds)]
  | (l, h) :: rest =>
    if l = labels then (l, h.observe seconds) :: rest else (l, h) :: observeIn labels seconds rest

/-- With one more duration of the labels. -/
def observe (hs : Histograms) (labels : Labels) (seconds : Binary64) : Histograms :=
  ⟨observeIn labels seconds hs.entries⟩

/-- How many durations of the labels there are. -/
def count (hs : Histograms) (labels : Labels) : Nat :=
  ((hs.entries.lookup labels).map Histogram.count).getD 0

end Histograms

end ApiGateway.Metrics
