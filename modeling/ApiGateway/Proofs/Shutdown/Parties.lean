import ApiGateway.Shutdown
import Mathlib.Tactic.Lemma

/-!
# What the parties to a shutdown see

Whoever triggers a shutdown writes twice: the reason first, and then that it has begun. Others may do anything in
between, and those who wait or listen go on at a time of their own. A `Moment` is a shutdown together with the caller
who has written only once so far, and `Step` are the moves of single parties, in whatever order they come.

`Moment.Recorded` says what a moment is of the moves that led to it. Every move keeps it (`Recorded.step`), and so does
a path of any length (`Recorded.path`).
-/

namespace ApiGateway.Shutdown

/-- Who triggers a shutdown: someone in the program, or one who listens for signals and has got one. -/
inductive Caller where
  | outsider
  | listener (i : Nat)
  deriving DecidableEq, Repr

/-- What a party does without a break: someone triggers for a reason (`call`) or a listener gets a signal (`take`),
up to the first write; the caller who wrote the reason down lets the shutdown begin and is done (`announce`);
someone lets it begin without a reason (`cancel`), begins to wait (`watch`) or to listen for signals (`listen`);
one who waits sees that it has begun and learns the reason (`wake`), or a listener sees it (`leave`). -/
inductive Move where
  | call (reason : Reason)
  | take (i : Nat) (signal : Signal)
  | announce
  | cancel
  | watch
  | listen
  | wake (i : Nat)
  | leave (i : Nat)
  deriving DecidableEq, Repr

/-- The reason that a move would put down. -/
def Move.reason? : Move → Option Reason
  | .call reason => some reason
  | .take _ signal => some signal.reason
  | _ => none

/-- What a move is seen as from outside; the others the parties make on their own. -/
def Move.event? : Move → Option Event
  | .call reason => some (.trigger reason)
  | .take _ signal => some (.signal signal)
  | .cancel => some .cancel
  | .watch => some .watch
  | .listen => some .listen
  | _ => none

/-- The reason of the first trigger. -/
def firstReason? (moves : List Move) : Option Reason :=
  moves.findSome? Move.reason?

/-- A shutdown, and who has put the reason down without having let it begin yet. -/
structure Moment where
  shutdown : Shutdown := {}
  owing : Option Caller := none
  deriving DecidableEq, Repr

namespace Moment

variable {m m' m'' : Moment} {a : Move}

/-- Holds for those who listen and have got no signal. -/
def IsListening (m : Moment) (i : Nat) : Prop :=
  m.shutdown.listeners[i]? = some true ∧ m.owing ≠ some (.listener i)

/-- The caller is done. -/
def returned (m : Moment) : Caller → Moment
  | .outsider => m
  | .listener i => { m with shutdown := { m.shutdown with listeners := m.shutdown.listeners.set i false } }

/-- The caller triggers: only the first one puts its reason down and has to go on. -/
def called (m : Moment) (caller : Caller) (reason : Reason) : Moment :=
  match m.shutdown.reason with
  | some _ => m.returned caller
  | none => { shutdown := { m.shutdown with reason := some reason }, owing := some caller }

/-- The shutdown has begun. -/
def commenced (m : Moment) : Moment :=
  { m with shutdown := { m.shutdown with begun := true } }

/-- What a party can do next. -/
inductive Step : Moment → Move → Moment → Prop
  | call (m : Moment) (reason : Reason) : Step m (.call reason) (m.called .outsider reason)
  | take {m : Moment} {i : Nat} (h : m.IsListening i) (signal : Signal) :
    Step m (.take i signal) (m.called (.listener i) signal.reason)
  | announce {s : Shutdown} {caller : Caller} :
    Step ⟨s, some caller⟩ .announce ((Moment.mk s none).commenced.returned caller)
  | cancel (m : Moment) : Step m .cancel m.commenced
  | watch (m : Moment) :
    Step m .watch { m with shutdown := { m.shutdown with watchers := m.shutdown.watchers ++ [none] } }
  | listen (m : Moment) :
    Step m .listen { m with shutdown := { m.shutdown with listeners := m.shutdown.listeners ++ [true] } }
  | wake {m : Moment} {i : Nat} (hbegun : m.shutdown.begun = true) (h : m.shutdown.watchers[i]? = some none) :
    Step m (.wake i)
      { m with shutdown := { m.shutdown with watchers := m.shutdown.watchers.set i m.shutdown.waited? } }
  | leave {m : Moment} {i : Nat} (hbegun : m.shutdown.begun = true) (h : m.IsListening i) :
    Step m (.leave i) (m.returned (.listener i))

/-- The moves lead from one moment to another. -/
inductive Path : Moment → List Move → Moment → Prop
  | nil (m : Moment) : Path m [] m
  | cons {m m' m'' : Moment} {a : Move} {moves : List Move} (hs : Step m a m') (h : Path m' moves m'') :
    Path m (a :: moves) m''

/-- Moves after moves lead from the first moment to the last. -/
lemma Path.append {moves more : List Move} (h : Path m moves m') (h' : Path m' more m'') :
    Path m (moves ++ more) m'' := by
  induction h with
  | nil m => exact h'
  | cons hs _ ih => exact .cons hs (ih h')

/-! ### What a move leaves alone -/

/-- Returning from a call leaves the reason. -/
@[simp] lemma reason_returned (m : Moment) (c : Caller) : (m.returned c).shutdown.reason = m.shutdown.reason := by
  cases c <;> rfl

/-- Returning from a call leaves whether the shutdown has begun. -/
@[simp] lemma begun_returned (m : Moment) (c : Caller) : (m.returned c).shutdown.begun = m.shutdown.begun := by
  cases c <;> rfl

/-- Returning from a call leaves those who wait. -/
@[simp] lemma watchers_returned (m : Moment) (c : Caller) :
    (m.returned c).shutdown.watchers = m.shutdown.watchers := by
  cases c <;> rfl

/-- A listener that returns from its call is done. -/
@[simp] lemma listeners_returned (m : Moment) (i : Nat) :
    (m.returned (.listener i)).shutdown.listeners = m.shutdown.listeners.set i false := rfl

/-- Returning from a call leaves who has to go on. -/
@[simp] lemma owing_returned (m : Moment) (c : Caller) : (m.returned c).owing = m.owing := by
  cases c <;> rfl

/-! ### What a moment is of the moves before it -/

/-- A moment as the moves before it make it: the reason is that of the first trigger; it has begun if it was begun
without a reason or the first trigger is done; who waited and woke had seen that, and learned the reason of the first
trigger if there was one by then; and no listener is gone before the first trigger or the beginning. -/
structure Recorded (moves : List Move) (m : Moment) : Prop where
  reason : m.shutdown.reason = firstReason? moves
  begun : m.shutdown.begun = true ↔ .cancel ∈ moves ∨ ((firstReason? moves).isSome = true ∧ m.owing = none)
  owing : m.owing ≠ none → (firstReason? moves).isSome = true
  awake : ∀ (i : Nat) r, m.shutdown.watchers[i]? = some (some r) → m.shutdown.begun = true
  woken : ∀ (i : Nat) r, m.shutdown.watchers[i]? = some (some r) →
    ∃ before after, moves = before ++ .wake i :: after ∧ r = (firstReason? before).getD .requested ∧
      (.cancel ∈ before ∨ (firstReason? before).isSome = true)
  left : ∀ i : Nat, m.shutdown.listeners[i]? = some false → m.shutdown.begun = true ∨ m.owing ≠ none

/-- The first reason is there already, or that of the last move. -/
lemma firstReason?_snoc (moves : List Move) (a : Move) :
    firstReason? (moves ++ [a]) = (firstReason? moves).or a.reason? := by
  rw [firstReason?, List.findSome?_append, List.findSome?_singleton, firstReason?]

/-- A move without a reason leaves the first one. -/
lemma firstReason?_snoc_of_none (moves : List Move) (ha : a.reason? = none) :
    firstReason? (moves ++ [a]) = firstReason? moves := by
  rw [firstReason?_snoc, ha, Option.or_none]

namespace Recorded

variable {moves : List Move}

/-- Where nothing was done there is nothing to record. -/
lemma start : Recorded [] {} := by
  refine ⟨rfl, ?_, ?_, ?_, ?_, ?_⟩
  · simp [firstReason?]
  · exact fun h => absurd rfl h
  · exact fun i r h => by simp at h
  · exact fun i r h => by simp at h
  · exact fun i h => by simp at h

/-- A reason is put down without its trigger being done, or the shutdown has begun. -/
lemma begun_or_owing (h : Recorded moves m) (hreason : (firstReason? moves).isSome = true) :
    m.shutdown.begun = true ∨ m.owing ≠ none := by
  by_cases howing : m.owing = none
  · exact .inl (h.begun.mpr (.inr ⟨hreason, howing⟩))
  · exact .inr howing

/-- Who woke before one more move did so among the moves before it. -/
lemma woken_snoc (h : Recorded moves m) (a : Move) {i : Nat} {r : Reason}
    (hw : m.shutdown.watchers[i]? = some (some r)) :
    ∃ before after, moves ++ [a] = before ++ .wake i :: after ∧ r = (firstReason? before).getD .requested ∧
      (.cancel ∈ before ∨ (firstReason? before).isSome = true) := by
  obtain ⟨before, after, rfl, hr⟩ := h.woken i r hw
  exact ⟨before, after ++ [a], by rw [List.append_assoc, List.cons_append], hr⟩

/-- A trigger up to its first write. -/
lemma called (h : Recorded moves m) (c : Caller) {reason : Reason} (ha : a.reason? = some reason) :
    Recorded (moves ++ [a]) (m.called c reason) := by
  have hcancel : .cancel ∈ moves ++ [a] ↔ .cancel ∈ moves := by
    have hne : Move.cancel ≠ a := by
      rintro rfl
      cases ha
    simp [hne]
  unfold Moment.called
  cases hreason : m.shutdown.reason with
  | some first =>
    -- the reason is there already, and the call returns without a write
    have hfirst : firstReason? moves = some first := by rw [← h.reason, hreason]
    have hsnoc : firstReason? (moves ++ [a]) = firstReason? moves := by rw [firstReason?_snoc, hfirst, Option.some_or]
    refine ⟨?_, ?_, ?_, fun i r hw => ?_, fun i r hw => ?_, fun i _ => ?_⟩
    · rw [hsnoc, ← h.reason, reason_returned]
    · rw [hsnoc, hcancel, begun_returned, owing_returned, h.begun]
    · rw [hsnoc, owing_returned]
      exact h.owing
    · rw [watchers_returned] at hw
      rw [begun_returned]
      exact h.awake i r hw
    · rw [watchers_returned] at hw
      exact h.woken_snoc a hw
    · rw [begun_returned, owing_returned]
      exact h.begun_or_owing (by rw [hfirst, Option.isSome_some])
  | none =>
    -- the first call writes its reason down and goes on later
    have hfirst : firstReason? moves = none := by rw [← h.reason, hreason]
    have hsnoc : firstReason? (moves ++ [a]) = some reason := by rw [firstReason?_snoc, hfirst, ha, Option.none_or]
    refine ⟨hsnoc.symm, ?_, ?_, h.awake, fun i r hw => h.woken_snoc a hw, fun i _ => .inr (Option.some_ne_none c)⟩
    · rw [hcancel, h.begun, hfirst]
      simp
    · rw [hsnoc]
      exact fun _ => rfl

/-- The first caller lets the shutdown begin. -/
lemma announced {s : Shutdown} {c : Caller} (h : Recorded moves ⟨s, some c⟩) :
    Recorded (moves ++ [.announce]) ((Moment.mk s none).commenced.returned c) := by
  have hfirst := h.owing (Option.some_ne_none c)
  have hsnoc : firstReason? (moves ++ [.announce]) = firstReason? moves := firstReason?_snoc_of_none moves rfl
  refine ⟨?_, ?_, ?_, fun i r _ => ?_, fun i r hw => ?_, fun i _ => ?_⟩
  · rw [hsnoc, ← h.reason, reason_returned]
    rfl
  · rw [hsnoc, begun_returned, owing_returned, hfirst]
    simp [commenced]
  · rw [owing_returned]
    exact fun howing => absurd rfl howing
  · rw [begun_returned, commenced]
  · rw [watchers_returned] at hw
    exact h.woken_snoc .announce hw
  · rw [begun_returned]
    exact .inl rfl

/-- The shutdown begins without a reason. -/
lemma cancelled (h : Recorded moves m) : Recorded (moves ++ [.cancel]) m.commenced := by
  have hsnoc : firstReason? (moves ++ [.cancel]) = firstReason? moves := firstReason?_snoc_of_none moves rfl
  refine ⟨hsnoc ▸ h.reason, ?_, hsnoc ▸ h.owing, fun i r _ => rfl, fun i r hw => h.woken_snoc .cancel hw,
    fun i _ => .inl rfl⟩
  simp [commenced]

/-- A move that neither puts a reason down nor lets the shutdown begin keeps what it does not touch. -/
lemma others {watchers : List (Option Reason)} {listeners : List Bool} (h : Recorded moves m) (ha : a.reason? = none)
    (hcancel : a ≠ .cancel)
    (hwatchers : ∀ i r, watchers[i]? = some (some r) → m.shutdown.watchers[i]? = some (some r) ∨
      (a = .wake i ∧ r = (firstReason? moves).getD .requested ∧ m.shutdown.begun = true))
    (hlisteners : ∀ i : Nat, listeners[i]? = some false → m.shutdown.listeners[i]? = some false ∨
      m.shutdown.begun = true) :
    Recorded (moves ++ [a]) { m with shutdown := { m.shutdown with watchers, listeners } } := by
  have hsnoc := firstReason?_snoc_of_none moves ha
  refine ⟨hsnoc ▸ h.reason, ?_, hsnoc ▸ h.owing, fun i r hw => ?_, fun i r hw => ?_, fun i hl => ?_⟩
  · rw [hsnoc, h.begun]
    simp [hcancel.symm]
  · obtain hold | ⟨-, -, hbegun⟩ := hwatchers i r hw
    · exact h.awake i r hold
    · exact hbegun
  · obtain hold | ⟨rfl, hr, hbegun⟩ := hwatchers i r hw
    · exact h.woken_snoc a hold
    · exact ⟨moves, [], rfl, hr, (h.begun.mp hbegun).imp_right And.left⟩
  · obtain hold | hbegun := hlisteners i hl
    · exact h.left i hold
    · exact .inl hbegun

/-- Every move keeps the record. -/
lemma step (h : Recorded moves m) (hs : Step m a m') : Recorded (moves ++ [a]) m' := by
  cases hs with
  | call reason => exact h.called .outsider rfl
  | take hi signal => exact h.called _ rfl
  | announce => exact h.announced
  | cancel => exact h.cancelled
  | watch =>
    refine h.others rfl (by decide) (fun i r hw => ?_) fun i hl => .inl hl
    rw [List.getElem?_append] at hw
    split at hw
    · exact .inl hw
    · simp [List.getElem?_singleton] at hw
  | listen =>
    refine h.others rfl (by decide) (fun i r hw => .inl hw) fun i hl => ?_
    rw [List.getElem?_append] at hl
    split at hl
    · exact .inl hl
    · simp [List.getElem?_singleton] at hl
  | @wake m i hbegun _ =>
    refine h.others rfl (fun ha => Move.noConfusion ha) (fun j r hw => ?_) fun i hl => .inl hl
    rw [List.getElem?_set] at hw
    by_cases hij : i = j
    · subst hij
      rw [if_pos rfl, waited?, if_pos hbegun, h.reason] at hw
      split at hw
      · exact .inr ⟨rfl, by simpa using hw.symm, hbegun⟩
      · cases hw
    · rw [if_neg hij] at hw
      exact .inl hw
  | leave hbegun _ =>
    exact h.others rfl (fun ha => Move.noConfusion ha) (fun i r hw => .inl hw) fun i _ => .inr hbegun

/-- A path keeps the record. -/
lemma path {more : List Move} (h : Recorded moves m) (hp : Path m more m') : Recorded (moves ++ more) m' := by
  induction hp generalizing moves with
  | nil m => rwa [List.append_nil]
  | @cons m m' m'' a rest hs _ ih =>
    have hrest := ih (h.step hs)
    rwa [List.append_assoc, List.singleton_append] at hrest

end Recorded

/-- What has begun stays so. -/
lemma Step.begun (hs : Step m a m') (h : m.shutdown.begun = true) : m'.shutdown.begun = true := by
  cases hs with
  | call reason =>
    unfold called
    split
    · exact h
    · exact h
  | take hi signal =>
    unfold called
    split
    · rwa [begun_returned]
    · exact h
  | announce => rw [begun_returned, commenced]
  | cancel => rfl
  | watch => exact h
  | listen => exact h
  | wake hbegun hw => exact h
  | leave hbegun hi => rwa [begun_returned]

/-- What has begun stays so on every path. -/
lemma Path.begun {moves : List Move} (hp : Path m moves m') (h : m.shutdown.begun = true) :
    m'.shutdown.begun = true := by
  induction hp with
  | nil m => exact h
  | cons hs _ ih => exact ih (hs.begun h)

end Moment

end ApiGateway.Shutdown
