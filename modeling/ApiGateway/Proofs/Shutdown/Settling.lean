import ApiGateway.Proofs.Shutdown.Parties

/-!
# How a shutdown is seen

The moves that the parties make on their own come to an end (`Moment.Path.length_le`), and where none is left
(`Moment.Settled`) all have gone on exactly if the shutdown has begun. A run of the shutdown, in which all go on at once
after each event, is one of the paths of single moves (`Moment.exists_path_events`). So what `Moment.Recorded` says of
every moment on every path, it says of runs too: `Moment.Observed` puts together what can be seen, and
`Moment.observed_of_path` that it is seen however the moves come.
-/

namespace ApiGateway.Shutdown

namespace Moment

variable {m m' : Moment} {a : Move}

/-! ### Going on -/

/-- Holds if no party has anything left to do on its own. -/
def Settled (m : Moment) : Prop :=
  ∀ a m', a.event? = none → ¬ Step m a m'

/-- Where no party is left to move, no trigger is under way. -/
lemma Settled.owing_eq_none (h : Settled m) : m.owing = none := by
  obtain ⟨s, owing⟩ := m
  cases owing with
  | none => rfl
  | some c => exact absurd .announce (h .announce _ rfl)

/-- Where no party is left to move in a shutdown that has begun, all who waited are awake. -/
lemma Settled.isSome_of_begun (h : Settled m) (hbegun : m.shutdown.begun = true) {w : Option Reason}
    (hw : w ∈ m.shutdown.watchers) : w.isSome = true := by
  obtain ⟨i, hi⟩ := List.mem_iff_getElem?.mp hw
  cases w with
  | some r => rfl
  | none => exact absurd (.wake hbegun hi) (h (.wake i) _ rfl)

/-- Where no party is left to move in a shutdown that has begun, nobody listens for signals any more. -/
lemma Settled.eq_false_of_begun (h : Settled m) (hbegun : m.shutdown.begun = true) {l : Bool}
    (hl : l ∈ m.shutdown.listeners) : l = false := by
  obtain ⟨i, hi⟩ := List.mem_iff_getElem?.mp hl
  cases l with
  | false => rfl
  | true =>
    have hlistening : m.IsListening i := ⟨hi, by rw [h.owing_eq_none]; exact (Option.some_ne_none _).symm⟩
    exact absurd (.leave hbegun hlistening) (h (.leave i) _ rfl)

/-- How many parties wait, listen or have a shutdown to let begin. -/
def pending (m : Moment) : Nat :=
  m.shutdown.watchers.countP Option.isNone + m.shutdown.listeners.countP id + if m.owing.isSome then 1 else 0

/-- Putting in an item without the property does not raise the count of those that have it. -/
lemma countP_set_le {α : Type} {p : α → Bool} {x : α} (hx : p x = false) (l : List α) (i : Nat) :
    (l.set i x).countP p ≤ l.countP p := by
  by_cases hi : i < l.length
  · rw [List.countP_set hi, hx]
    simp
  · exact Nat.le_of_eq (congrArg (List.countP p) (List.set_eq_of_length_le (Nat.le_of_not_lt hi)))

/-- Putting an item without the property in the place of one that has it lowers the count. -/
lemma countP_set_lt {α : Type} {p : α → Bool} {l : List α} {i : Nat} {x y : α} (h : l[i]? = some x) (hx : p x = true)
    (hy : p y = false) : (l.set i y).countP p < l.countP p := by
  obtain ⟨hi, hget⟩ := List.getElem?_eq_some_iff.mp h
  have hpos : 0 < l.countP p := List.countP_pos_iff.mpr ⟨x, List.mem_of_getElem? h, hx⟩
  rw [List.countP_set hi, hget, hx, hy]
  simp only [if_true, Bool.false_eq_true, if_false]
  omega

/-- Whoever goes on is not pending any more. -/
lemma Step.pending_lt (hs : Step m a m') (ha : a.event? = none) : m'.pending < m.pending := by
  cases hs with
  | call reason => cases ha
  | take hi signal => cases ha
  | cancel => cases ha
  | watch => cases ha
  | listen => cases ha
  | @announce s caller =>
    cases caller with
    | outsider => simp [pending, returned, commenced]
    | listener i =>
      have hle := countP_set_le (p := id) (x := false) rfl s.listeners i
      simp only [pending, returned, commenced, Option.isSome_none, Option.isSome_some]
      simp only [if_true, Bool.false_eq_true, if_false]
      omega
  | @wake m i hbegun hw =>
    have hwaited : m.shutdown.waited?.isNone = false := by rw [waited?, if_pos hbegun]; rfl
    have hlt := countP_set_lt (p := Option.isNone) hw rfl hwaited
    simp only [pending]
    omega
  | @leave m i hbegun hi =>
    have hlt := countP_set_lt (p := id) (y := false) hi.1 rfl rfl
    simp only [pending, watchers_returned, listeners_returned, owing_returned]
    omega

/-- What the parties do on their own is bounded by how many are pending. -/
lemma Path.length_le {moves : List Move} (hp : Path m moves m') (h : ∀ a ∈ moves, a.event? = none) :
    moves.length + m'.pending ≤ m.pending := by
  induction hp with
  | nil m => simp
  | @cons m m' m'' a rest hs _ ih =>
    have hlt := hs.pending_lt (h a List.mem_cons_self)
    have hle := ih fun b hb => h b (List.mem_cons_of_mem a hb)
    rw [List.length_cons]
    omega

/-- Where each entry of a list can change by a move of its own, all of them can, one by one from the front. -/
lemma exists_path_each {α : Type} {f : α → α} (place : List α → Moment) (move : Nat → Move)
    (hown : ∀ i, (move i).event? = none)
    (hstep : ∀ done x rest, f x = x ∨ Step (place (done ++ x :: rest)) (move done.length) (place (done ++ f x :: rest)))
    (done rest : List α) :
    ∃ moves, (∀ a ∈ moves, a.event? = none) ∧ Path (place (done ++ rest)) moves (place (done ++ rest.map f)) := by
  induction rest generalizing done with
  | nil => exact ⟨[], fun _ ha => absurd ha List.not_mem_nil, .nil _⟩
  | cons x rest ih =>
    obtain ⟨moves, hmoves, hpath⟩ := ih (done ++ [f x])
    rw [List.append_assoc, List.singleton_append, List.append_assoc, List.singleton_append] at hpath
    obtain hsame | hmove := hstep done x rest
    · rw [List.map_cons]
      exact ⟨moves, hmoves, by rwa [hsame] at hpath ⊢⟩
    · exact ⟨move done.length :: moves, List.forall_mem_cons.mpr ⟨hown _, hmoves⟩, .cons hmove hpath⟩

/-- In a shutdown that has begun all who wait can wake. -/
lemma exists_path_watchers {s : Shutdown} (hbegun : s.begun = true) :
    ∃ moves, (∀ a ∈ moves, a.event? = none) ∧ Path ⟨s, none⟩ moves
      ⟨{ s with watchers := s.watchers.map fun w => w.orElse fun _ => s.waited? }, none⟩ := by
  refine exists_path_each (fun watchers => ⟨{ s with watchers }, none⟩) .wake (fun _ => rfl) (fun done w rest => ?_)
    [] s.watchers
  cases w with
  | some r => exact .inl rfl
  | none =>
    have hset : (done ++ none :: rest).set done.length s.waited? = done ++ s.waited? :: rest := by simp
    have hwake := Step.wake (m := ⟨{ s with watchers := done ++ none :: rest }, none⟩) (i := done.length) hbegun (by simp)
    exact .inr (hset ▸ hwake)

/-- In a shutdown that has begun all who listen can leave. -/
lemma exists_path_listeners {s : Shutdown} (hbegun : s.begun = true) :
    ∃ moves, (∀ a ∈ moves, a.event? = none) ∧ Path ⟨s, none⟩ moves
      ⟨{ s with listeners := s.listeners.map fun _ => false }, none⟩ := by
  refine exists_path_each (fun listeners => ⟨{ s with listeners }, none⟩) .leave (fun _ => rfl) (fun done l rest => ?_)
    [] s.listeners
  cases l with
  | false => exact .inl rfl
  | true =>
    have hset : (done ++ true :: rest).set done.length false = done ++ false :: rest := by simp
    have hleave := Step.leave (m := ⟨{ s with listeners := done ++ true :: rest }, none⟩) (i := done.length) hbegun
      ⟨by simp, (Option.some_ne_none _).symm⟩
    exact .inr (hset ▸ hleave)

/-- Once it has begun, all who wait wake with the same reason and nobody listens any more. -/
lemma wake_of_begun {s : Shutdown} (h : s.begun = true) :
    s.wake = { s with
      watchers := s.watchers.map fun w => w.orElse fun _ => s.waited?
      listeners := s.listeners.map fun _ => false } :=
  if_pos h

/-- Before it has begun nobody wakes. -/
lemma wake_of_not_begun {s : Shutdown} (h : s.begun = false) : s.wake = s :=
  if_neg (by rw [h]; exact Bool.false_ne_true)

/-- Once nobody has a shutdown to let begin, all go on if it has begun. -/
lemma exists_path_wake (s : Shutdown) :
    ∃ moves, (∀ a ∈ moves, a.event? = none) ∧ Path ⟨s, none⟩ moves ⟨s.wake, none⟩ := by
  cases hbegun : s.begun with
  | false =>
    rw [wake_of_not_begun hbegun]
    exact ⟨[], fun _ ha => absurd ha List.not_mem_nil, .nil _⟩
  | true =>
    obtain ⟨wakes, hwakes, hwoken⟩ := exists_path_watchers hbegun
    obtain ⟨leaves, hleaves, hleft⟩ := exists_path_listeners
      (s := { s with watchers := s.watchers.map fun w => w.orElse fun _ => s.waited? }) hbegun
    rw [wake_of_begun hbegun]
    refine ⟨wakes ++ leaves, ?_, hwoken.append hleft⟩
    intro a ha
    obtain ha | ha := List.mem_append.mp ha
    · exact hwakes a ha
    · exact hleaves a ha

/-- After all have woken no party is left to move. -/
lemma settled_wake (s : Shutdown) : Settled ⟨s.wake, none⟩ := by
  intro a m' ha hs
  cases hbegun : s.begun with
  | false =>
    rw [wake_of_not_begun hbegun] at hs
    cases hs with
    | wake h _ => exact Bool.false_ne_true (hbegun.symm.trans h)
    | leave h _ => exact Bool.false_ne_true (hbegun.symm.trans h)
    | _ => cases ha
  | true =>
    rw [wake_of_begun hbegun] at hs
    cases hs with
    | wake _ hw =>
      rw [List.getElem?_map] at hw
      obtain ⟨w, -, hw⟩ := Option.map_eq_some_iff.mp hw
      rw [waited?, if_pos hbegun] at hw
      cases w <;> cases hw
    | leave _ hi =>
      obtain ⟨hi, -⟩ := hi
      rw [List.getElem?_map] at hi
      obtain ⟨l, -, hl⟩ := Option.map_eq_some_iff.mp hi
      cases hl
    | _ => cases ha

/-- Who wrote the reason down can always go on. -/
lemma exists_step_announce (s : Shutdown) (c : Caller) : ∃ s', Step ⟨s, some c⟩ .announce ⟨s', none⟩ := by
  cases c with
  | outsider => exact ⟨_, .announce⟩
  | listener i => exact ⟨_, .announce⟩

/-- Whatever has happened, the parties can go on until all is settled. -/
lemma exists_settled (m : Moment) :
    ∃ moves m', (∀ a ∈ moves, a.event? = none) ∧ Path m moves m' ∧ Settled m' := by
  obtain ⟨s, owing⟩ := m
  cases owing with
  | none =>
    obtain ⟨moves, hown, hpath⟩ := exists_path_wake s
    exact ⟨moves, _, hown, hpath, settled_wake s⟩
  | some c =>
    obtain ⟨s', hannounce⟩ := exists_step_announce s c
    obtain ⟨moves, hown, hpath⟩ := exists_path_wake s'
    exact ⟨.announce :: moves, _, List.forall_mem_cons.mpr ⟨rfl, hown⟩, .cons hannounce hpath, settled_wake s'⟩

/-! ### Runs -/

/-- Holds for the events that someone takes notice of: a signal needs one who listens. -/
def hears (s : Shutdown) : Event → Bool
  | .signal _ => s.listeners.any id
  | _ => true

/-- The events of a run that someone takes notice of. -/
def heard (s : Shutdown) : List Event → List Event
  | [] => []
  | e :: rest => (if hears s e then [e] else []) ++ heard (s.step e) rest

/-- A trigger after the first one changes nothing. -/
lemma trigger_of_some {s : Shutdown} {first : Reason} (h : s.reason = some first) (reason : Reason) :
    s.trigger reason = s := by
  rw [trigger, h]

/-- The first trigger gives the reason and begins the shutdown. -/
lemma trigger_of_none {s : Shutdown} (h : s.reason = none) (reason : Reason) :
    s.trigger reason = { s with reason := some reason, begun := true } := by
  rw [trigger, h]

/-- A call after the first one returns without a write. -/
lemma called_of_some {first : Reason} (h : m.shutdown.reason = some first) (c : Caller) (reason : Reason) :
    m.called c reason = m.returned c := by
  rw [called, h]

/-- The first call writes its reason down and has yet to let the shutdown begin. -/
lemma called_of_none (h : m.shutdown.reason = none) (c : Caller) (reason : Reason) :
    m.called c reason = ⟨{ m.shutdown with reason := some reason }, some c⟩ := by
  rw [called, h]

/-- A trigger by someone in the program. -/
lemma exists_path_trigger (s : Shutdown) (reason : Reason) :
    ∃ moves, moves.filterMap Move.event? = [.trigger reason] ∧ Path ⟨s, none⟩ moves ⟨s.trigger reason, none⟩ := by
  have hcall := Step.call ⟨s, none⟩ reason
  cases hreason : s.reason with
  | some first =>
    rw [called_of_some hreason] at hcall
    rw [trigger_of_some hreason]
    exact ⟨[.call reason], rfl, .cons hcall (.nil _)⟩
  | none =>
    rw [called_of_none hreason] at hcall
    rw [trigger_of_none hreason]
    exact ⟨[.call reason, .announce], rfl, .cons hcall (.cons .announce (.nil _))⟩

/-- One who listens may leave before the others do. -/
lemma wake_set_listeners {s : Shutdown} (h : s.begun = true) (i : Nat) :
    Shutdown.wake { s with listeners := s.listeners.set i false } = s.wake := by
  have hmap : (s.listeners.set i false).map (fun _ => false) = s.listeners.map fun _ => false := by
    rw [List.map_const', List.map_const', List.length_set]
  rw [wake_of_begun h, wake_of_begun (s := { s with listeners := s.listeners.set i false }) h, hmap]
  rfl

/-- A trigger by one who listens. -/
lemma exists_path_signal {s : Shutdown} (h : s.reason.isSome = true → s.begun = true) {i : Nat}
    (hi : s.listeners[i]? = some true) (signal : Signal) :
    ∃ moves s', moves.filterMap Move.event? = [.signal signal] ∧ Path ⟨s, none⟩ moves ⟨s', none⟩ ∧
      s'.wake = (s.trigger signal.reason).wake := by
  have htake := Step.take (m := ⟨s, none⟩) ⟨hi, (Option.some_ne_none _).symm⟩ signal
  cases hreason : s.reason with
  | some first =>
    have hbegun : s.begun = true := h (by rw [hreason]; rfl)
    rw [called_of_some hreason] at htake
    rw [trigger_of_some hreason]
    exact ⟨[.take i signal], _, rfl, .cons htake (.nil _), wake_set_listeners hbegun i⟩
  | none =>
    rw [called_of_none hreason] at htake
    rw [trigger_of_none hreason]
    exact ⟨[.take i signal, .announce], _, rfl, .cons htake (.cons .announce (.nil _)),
      wake_set_listeners (s := { s with reason := some signal.reason, begun := true }) rfl i⟩

/-- What an event does before anyone goes on. -/
lemma exists_path_apply {s : Shutdown} (h : s.reason.isSome = true → s.begun = true) (e : Event) :
    ∃ moves s', moves.filterMap Move.event? = (if hears s e then [e] else []) ∧ Path ⟨s, none⟩ moves ⟨s', none⟩ ∧
      s'.wake = (s.apply e).wake := by
  cases e with
  | trigger reason =>
    obtain ⟨moves, hmoves, hpath⟩ := exists_path_trigger s reason
    exact ⟨moves, _, hmoves, hpath, rfl⟩
  | cancel => exact ⟨[.cancel], _, rfl, .cons (.cancel _) (.nil _), rfl⟩
  | watch => exact ⟨[.watch], _, rfl, .cons (.watch _) (.nil _), rfl⟩
  | listen => exact ⟨[.listen], _, rfl, .cons (.listen _) (.nil _), rfl⟩
  | signal signal =>
    rw [hears, apply]
    cases hany : s.listeners.any id with
    | false => exact ⟨[], s, rfl, .nil _, rfl⟩
    | true =>
      obtain ⟨l, hl, hlisten⟩ := List.any_eq_true.mp hany
      obtain ⟨i, hi⟩ := List.mem_iff_getElem?.mp hl
      obtain rfl : l = true := hlisten
      exact exists_path_signal h hi signal

/-- A run from a moment at which no trigger is under way is a path on which its events happen one after the other. -/
lemma exists_path_events {moves : List Move} {s : Shutdown} (hrecorded : Recorded moves ⟨s, none⟩)
    (events : List Event) :
    ∃ more, more.filterMap Move.event? = heard s events ∧ Path ⟨s, none⟩ more ⟨events.foldl step s, none⟩ := by
  induction events generalizing moves s with
  | nil => exact ⟨[], rfl, .nil _⟩
  | cons e rest ih =>
    have hreason : s.reason.isSome = true → s.begun = true := by
      intro h
      rw [hrecorded.reason] at h
      exact hrecorded.begun.mpr (.inr ⟨h, rfl⟩)
    obtain ⟨acts, s', hacts, happly, hsame⟩ := exists_path_apply hreason e
    obtain ⟨wakes, hown, hwake⟩ := exists_path_wake s'
    have hstep : Path ⟨s, none⟩ (acts ++ wakes) ⟨s.step e, none⟩ := by
      rw [Shutdown.step, ← hsame]
      exact happly.append hwake
    obtain ⟨more, hmore, hpath⟩ := ih (hrecorded.path hstep)
    refine ⟨acts ++ wakes ++ more, ?_, hstep.append hpath⟩
    have hwakes : wakes.filterMap Move.event? = [] := List.filterMap_eq_nil_iff.mpr hown
    rw [List.filterMap_append, List.filterMap_append, hacts, hwakes, hmore, List.append_nil, heard]

/-! ### What is seen -/

/-- The shutdown was begun without a reason, and triggered for the first time only after that. -/
def CancelledFirst (moves : List Move) : Prop :=
  ∃ before after, moves = before ++ .cancel :: after ∧ firstReason? before = none ∧
    (firstReason? after).isSome = true

/-- The first reason of moves and more is that of the moves, if there is one, and else that of the rest. -/
lemma firstReason?_append (moves more : List Move) :
    firstReason? (moves ++ more) = (firstReason? moves).or (firstReason? more) :=
  List.findSome?_append

/-- Who woke before the first trigger woke of a direct beginning. -/
lemma Recorded.eq_of_woken {moves : List Move} (h : Recorded moves m) (hfirst : ¬ CancelledFirst moves) {i : Nat}
    {r : Reason} (hw : m.shutdown.watchers[i]? = some (some r)) : r = (firstReason? moves).getD .requested := by
  obtain ⟨before, after, rfl, hr, hseen⟩ := h.woken i r hw
  rw [firstReason?_append]
  cases hbefore : firstReason? before with
  | some first => rw [hr, hbefore, Option.some_or]
  | none =>
    rw [hbefore] at hr hseen
    have hcancel : .cancel ∈ before := hseen.resolve_right Bool.false_ne_true
    obtain ⟨early, late, rfl⟩ := List.append_of_mem hcancel
    have hearly : firstReason? early = none := by
      rw [firstReason?_append, Option.or_eq_none_iff] at hbefore
      exact hbefore.1
    rw [Option.none_or]
    cases hafter : firstReason? (.wake i :: after) with
    | none => exact hr
    | some first =>
      refine absurd ⟨early, late ++ .wake i :: after, by rw [List.append_assoc, List.cons_append], hearly, ?_⟩ hfirst
      rw [firstReason?_append, hafter, Option.isSome_or, Option.isSome_some, Bool.or_true]

/-- What is seen of a shutdown, for the moves that led to it. There is no reason before the first trigger, and from
then on it is that of the first trigger. It has begun exactly if someone let it begin directly or a trigger is
done, and what has begun stays so. Nobody wakes before it has begun, and who wakes learns the reason of the first
trigger by then; so all who wake learn the same, unless it was begun directly before the first trigger. The parties
have only so many moves to make on their own and can go on until none is left; then no trigger is under way, and
all who waited or listened are done exactly if it has begun. -/
structure Observed (moves : List Move) (m : Moment) : Prop where
  reason : m.shutdown.reason = firstReason? moves
  begun : m.shutdown.begun = true ↔ .cancel ∈ moves ∨ ((firstReason? moves).isSome = true ∧ m.owing = none)
  stays : ∀ more m', Path m more m' → m.shutdown.begun = true → m'.shutdown.begun = true
  woken : ∀ (i : Nat) r, m.shutdown.watchers[i]? = some (some r) → m.shutdown.begun = true ∧
    ∃ before after, moves = before ++ .wake i :: after ∧ r = (firstReason? before).getD .requested
  alike : ¬ CancelledFirst moves → ∀ r, some r ∈ m.shutdown.watchers → r = (firstReason? moves).getD .requested
  ends : ∀ more m', (∀ a ∈ more, a.event? = none) → Path m more m' → more.length ≤ m.pending
  settles : ∃ more m', (∀ a ∈ more, a.event? = none) ∧ Path m more m' ∧ Settled m'
  settled : Settled m → m.owing = none ∧ (∀ w ∈ m.shutdown.watchers, w.isSome = true ↔ m.shutdown.begun = true) ∧
    ∀ l ∈ m.shutdown.listeners, l = false ↔ m.shutdown.begun = true

/-- What the moves have left in a shutdown shows as it should. -/
lemma Recorded.observed {moves : List Move} (h : Recorded moves m) : Observed moves m := by
  refine ⟨h.reason, h.begun, fun _ _ hp => hp.begun, fun i r hw => ?_, fun hfirst r hr => ?_, fun more m' hown hp => ?_,
    exists_settled m, fun hsettled => ⟨hsettled.owing_eq_none, fun w hw => ?_, fun l hl => ?_⟩⟩
  · obtain ⟨before, after, hmoves, hr, -⟩ := h.woken i r hw
    exact ⟨h.awake i r hw, before, after, hmoves, hr⟩
  · obtain ⟨i, hi⟩ := List.mem_iff_getElem?.mp hr
    exact h.eq_of_woken hfirst hi
  · have hle := hp.length_le hown
    omega
  · constructor
    · intro hsome
      obtain ⟨r, rfl⟩ := Option.isSome_iff_exists.mp hsome
      obtain ⟨i, hi⟩ := List.mem_iff_getElem?.mp hw
      exact h.awake i r hi
    · exact fun hbegun => hsettled.isSome_of_begun hbegun hw
  · constructor
    · rintro rfl
      obtain ⟨i, hi⟩ := List.mem_iff_getElem?.mp hl
      exact (h.left i hi).resolve_right (absurd hsettled.owing_eq_none)
    · exact fun hbegun => hsettled.eq_false_of_begun hbegun hl

/-- However triggers, direct beginnings, signals and those who wait and listen come together, each in its own time and
with others between the two writes of a trigger, a shutdown is seen as its moves say; and so is a run, in which all go
on at once, with the events that someone takes notice of as moves. -/
theorem observed_of_path :
    (∀ moves m, Path {} moves m → Observed moves m) ∧
      ∀ events, ∃ moves, moves.filterMap Move.event? = heard {} events ∧ Path {} moves ⟨run events, none⟩ ∧
        Settled ⟨run events, none⟩ := by
  constructor
  · intro moves m hpath
    exact (Recorded.start.path hpath).observed
  · intro events
    obtain ⟨moves, hmoves, hpath⟩ := exists_path_events .start events
    refine ⟨moves, hmoves, hpath, ?_⟩
    obtain rfl | ⟨before, e, rfl⟩ := List.eq_nil_or_concat events
    · exact settled_wake {}
    · rw [run, List.concat_eq_append, List.foldl_append]
      exact settled_wake _

/-- Someone lets the shutdown begin; one who waits wakes of it, one who listens gets a signal nevertheless, and another
begins to wait before that signal is dealt with. -/
def race : List Move :=
  [.listen, .watch, .cancel, .wake 0, .take 0 .interrupt, .watch, .announce, .wake 1]

/-- What is left of the race. -/
def afterRace : Moment :=
  { shutdown :=
      { reason := some .interrupt, begun := true, watchers := [some .requested, some .interrupt]
        listeners := [false] } }

/-- The two who waited learn different reasons, each the one of the time at which it woke. -/
theorem observed_race : Path {} race afterRace ∧ CancelledFirst race ∧ Observed race afterRace := by
  have hpath : Path {} race afterRace :=
    .cons (.listen _) (.cons (.watch _) (.cons (.cancel _) (.cons (.wake rfl rfl)
      (.cons (.take ⟨rfl, (Option.some_ne_none _).symm⟩ .interrupt) (.cons (.watch _) (.cons .announce
        (.cons (.wake rfl rfl) (.nil _))))))))
  exact ⟨hpath, ⟨[.listen, .watch], _, rfl, rfl, rfl⟩, observed_of_path.1 race afterRace hpath⟩

end Moment

end ApiGateway.Shutdown
