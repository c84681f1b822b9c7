import ApiGateway.Proofs.Discovery.Course

/-!
# The loop in the background

What a discovery does on its own and what it is told to do is a course of refreshes. `Tracks` relates the two: of
the refreshes that are on their way, one is the loop's if it has one in flight. Whatever the loop does before a
bound is steps (`exists_runBelow`), and so is what the discovery does on a command (`exists_obey`), so that it
follows a course through all of them (`exists_after`).

The main result `recorded_of_reaches` puts both halves together: what every course shows, whatever the resolver
answers and in whatever order refreshes begin and end, and that the commands of a discovery are such a course.
-/

namespace ApiGateway.Discovery

variable {limit : Nat} {resolver : Nat → Resolution} {d : Discovery} {bound : Nat}
  {asked waiting : Multiset Ticket} {done : List Ticket}

/-- The loop's refresh ends next if it has one in flight that ends before the bound. -/
lemma nextEvent_eq_landing {l : Loop} {f : Flight} (h : d.nextEvent bound = .landing l f) :
    d.loop = some l ∧ l.flight = some f ∧ f.finish < bound := by
  unfold nextEvent at h
  split at h
  · cases h
  · next hl =>
    split at h
    · next hf =>
      split at h
      · next hlt =>
        cases h
        exact ⟨hl, hf, hlt⟩
      · cases h
    · simp only at h
      split at h
      · cases h
      · cases h

/-- A tick comes next if the loop has no refresh in flight, at the later of the time and when it is due. -/
lemma nextEvent_eq_tick {l : Loop} {now : Nat} (h : d.nextEvent bound = .tick l now) :
    d.loop = some l ∧ l.flight = none ∧ d.now ≤ now ∧ now < bound := by
  unfold nextEvent at h
  split at h
  · cases h
  · next hl =>
    split at h
    · split at h
      · cases h
      · cases h
    · next hf =>
      simp only at h
      split at h
      · next hdue =>
        cases h
        simp only [Bool.and_eq_true, decide_eq_true_eq] at hdue
        exact ⟨hl, hf, Nat.le_max_right _ _, hdue.2⟩
      · cases h

/-- Where nothing comes next, the loop's refresh does not end before the bound. -/
lemma le_finish_of_nextEvent_eq_none (h : d.nextEvent bound = .none) {f : Flight}
    (hf : d.loop.bind Loop.flight = some f) : bound ≤ f.finish := by
  obtain ⟨l, hl, hf⟩ := Option.bind_eq_some_iff.mp hf
  simp only [nextEvent, hl, hf] at h
  split at h
  · cases h
  · next hle => exact Nat.le_of_not_lt hle

/-- A run goes on with the next event of the loop, if there is one before the bound. -/
lemma runBelow_eq (d : Discovery) (bound : Nat) :
    d.runBelow bound =
      match d.nextEvent bound with
      | .none => d
      | .landing l f => (d.land l f).runBelow bound
      | .tick l now => (d.depart l now).runBelow bound := by
  rw [runBelow]
  split
  · next heq => simp only [heq]
  · next heq => simp only [heq]
  · next heq => simp only [heq]

/-- Where there is no next event a run is over. -/
lemma runBelow_of_none (h : d.nextEvent bound = .none) : d.runBelow bound = d := by
  rw [runBelow_eq, h]

/-- Without a loop nothing happens by itself. -/
lemma runBelow_of_no_loop (h : d.loop = none) (bound : Nat) : d.runBelow bound = d := by
  have hnone : d.nextEvent bound = .none := by simp only [nextEvent, h]
  exact runBelow_of_none hnone

/-- When the loop's refresh ends, time passes until then, what came of it is recorded, and the loop has none in
flight. -/
lemma reaches_land (l : Loop) {t : Ticket} (hle : d.now ≤ t.flight.finish)
    (h : ∀ u ∈ waiting, t.flight.finish ≤ u.flight.finish) :
    Course.Reaches ⟨d, t ::ₘ waiting, done⟩ ⟨d.land l t.flight, waiting, done ++ [t]⟩ := by
  have hfirst : ∀ u ∈ t ::ₘ waiting, t.flight.finish ≤ u.flight.finish :=
    Multiset.forall_mem_cons.mpr ⟨le_refl _, h⟩
  have hwait : Course.Reaches ⟨d, t ::ₘ waiting, done⟩
      ⟨{ d with now := t.flight.finish }, t ::ₘ waiting, done⟩ :=
    .single (.wait d _ done _ hle hfirst)
  exact (hwait.tail (.answer _ t waiting done rfl)).tail (.plan _ waiting _ _)

/-- At a tick, time passes until then, the resolver is asked, and the loop has the refresh in flight. -/
lemma reaches_depart (l : Loop) {now : Nat} (hle : d.now ≤ now) (h : ∀ u ∈ waiting, now ≤ u.flight.finish) :
    Course.Reaches ⟨d, waiting, done⟩
      ⟨d.depart l now, ⟨d.calls, now, d.call now⟩ ::ₘ waiting, done⟩ := by
  have hwait : Course.Reaches ⟨d, waiting, done⟩ ⟨{ d with now }, waiting, done⟩ :=
    .single (.wait d _ done now hle h)
  exact (hwait.tail (.ask _ waiting done)).tail (.plan _ _ done _)

/-- The refreshes that are on their way are those that were asked for and the one of the loop, if it has one
in flight. -/
def Tracks (d : Discovery) (asked waiting : Multiset Ticket) : Prop :=
  match d.loop.bind Loop.flight with
  | none => waiting = asked
  | some f => ∃ t : Ticket, t.flight = f ∧ waiting = t ::ₘ asked

/-- The loop does what it does by steps: its refreshes begin and end among those that were asked for, as long
as none of these ends before the bound. After it none is on its way that does, and time has not come to it. -/
lemma exists_runBelow (bound : Nat) (h : Course.Recorded limit resolver ⟨d, waiting, done⟩)
    (ht : Tracks d asked waiting) (hasked : ∀ t ∈ asked, bound ≤ t.flight.finish) :
    ∃ waiting' done', Course.Reaches ⟨d, waiting, done⟩ ⟨d.runBelow bound, waiting', done'⟩ ∧
      Tracks (d.runBelow bound) asked waiting' ∧ (∀ t ∈ waiting', bound ≤ t.flight.finish) ∧
      ((d.runBelow bound).now ≤ d.now ∨ (d.runBelow bound).now < bound) := by
  fun_induction Discovery.runBelow d bound generalizing waiting done with
  | case1 d hnone =>
    refine ⟨waiting, done, .refl, ht, ?_, .inl (le_refl d.now)⟩
    unfold Tracks at ht
    cases hf : d.loop.bind Loop.flight with
    | none =>
      rw [hf] at ht
      cases ht
      exact hasked
    | some f =>
      rw [hf] at ht
      obtain ⟨t, rfl, rfl⟩ := ht
      exact Multiset.forall_mem_cons.mpr ⟨le_finish_of_nextEvent_eq_none hnone hf, hasked⟩
  | case2 d l f hland _ ih =>
    obtain ⟨hl, hf, hlt⟩ := nextEvent_eq_landing hland
    rw [Tracks, hl, Option.bind_some, hf] at ht
    obtain ⟨t, rfl, rfl⟩ := ht
    have hstep : Course.Reaches ⟨d, t ::ₘ asked, done⟩ ⟨d.land l t.flight, asked, done ++ [t]⟩ :=
      reaches_land l (h.pending t (Multiset.mem_cons_self t asked)) fun u hu => hlt.le.trans (hasked u hu)
    obtain ⟨waiting', done', hreach, htracks, hpending, hnow⟩ := ih (h.reaches hstep) rfl
    refine ⟨waiting', done', hstep.trans hreach, htracks, hpending, .inr ?_⟩
    obtain hnow | hnow := hnow
    · exact hnow.trans_lt hlt
    · exact hnow
  | case3 d l tick htick _ ih =>
    obtain ⟨hl, hf, hle, hlt⟩ := nextEvent_eq_tick htick
    rw [Tracks, hl, Option.bind_some, hf] at ht
    have ht : waiting = asked := ht
    rw [ht] at h ⊢
    have hstep : Course.Reaches ⟨d, asked, done⟩
        ⟨d.depart l tick, ⟨d.calls, tick, d.call tick⟩ ::ₘ asked, done⟩ :=
      reaches_depart l hle fun u hu => hlt.le.trans (hasked u hu)
    obtain ⟨waiting', done', hreach, htracks, hpending, hnow⟩ := ih (h.reaches hstep) ⟨_, rfl, rfl⟩
    refine ⟨waiting', done', hstep.trans hreach, htracks, hpending, .inr ?_⟩
    obtain hnow | hnow := hnow
    · exact hnow.trans_lt hlt
    · exact hnow

/-! ### Commands -/

/-- What a discovery can be told: to refresh and wait for the end of it, to let time pass, or to start or end the
loop. -/
inductive Command where
  | refresh
  | advance (time : Nat)
  | start
  | cancel
  deriving DecidableEq

/-- The discovery after a command. -/
def obey (d : Discovery) : Command → Discovery
  | .refresh => d.refresh.2
  | .advance time => d.advance time
  | .start => d.start
  | .cancel => d.cancel

/-- The discovery after commands. -/
def after (d : Discovery) (commands : List Command) : Discovery :=
  commands.foldl obey d

/-- Between commands only the loop can have a refresh on its way, and whatever was due has ended. -/
structure AtRest (d : Discovery) (waiting : Multiset Ticket) : Prop where
  tracks : Tracks d 0 waiting
  later : ∀ t ∈ waiting, d.now < t.flight.finish

namespace Tracks

/-- One more refresh can be asked for. -/
lemma cons (h : Tracks d asked waiting) (t : Ticket) : Tracks d (t ::ₘ asked) (t ::ₘ waiting) := by
  unfold Tracks at h ⊢
  cases hf : d.loop.bind Loop.flight with
  | none =>
    rw [hf] at h
    exact congrArg (Multiset.cons t) h
  | some f =>
    rw [hf] at h
    obtain ⟨u, hu, rfl⟩ := h
    exact ⟨u, hu, Multiset.cons_swap t u asked⟩

/-- A refresh that was asked for is on its way; the others are what they were. -/
lemma exists_eq_cons {t : Ticket} (h : Tracks d (t ::ₘ asked) waiting) :
    ∃ rest, waiting = t ::ₘ rest ∧ Tracks d asked rest := by
  unfold Tracks at h ⊢
  cases hf : d.loop.bind Loop.flight with
  | none =>
    rw [hf] at h
    exact ⟨asked, h, rfl⟩
  | some f =>
    rw [hf] at h
    obtain ⟨u, hu, rfl⟩ := h
    exact ⟨u ::ₘ asked, Multiset.cons_swap u t asked, u, hu, rfl⟩

end Tracks

/-- Up to a time the loop does what it does by steps, and leaves nothing that is due. -/
lemma exists_runTo {now : Nat} (h : Course.Recorded limit resolver ⟨d, waiting, done⟩) (ht : Tracks d 0 waiting)
    (hle : d.now ≤ now) :
    ∃ waiting' done', Course.Reaches ⟨d, waiting, done⟩ ⟨d.runTo now, waiting', done'⟩ ∧
      AtRest (d.runTo now) waiting' := by
  obtain ⟨waiting', done', hreach, htracks, hpending, hnow⟩ :=
    exists_runBelow (now + 1) h ht fun t ht => absurd ht (Multiset.notMem_zero t)
  refine ⟨waiting', done', hreach.tail (.wait _ waiting' done' now ?_ ?_), htracks, hpending⟩
  · obtain hnow | hnow := hnow
    · exact hnow.trans hle
    · exact Nat.le_of_lt_succ hnow
  · exact fun t ht => Nat.le_of_succ_le (hpending t ht)

/-- A refresh and what the loop does while it is waited for are steps. -/
lemma exists_refresh (h : Course.Recorded limit resolver ⟨d, waiting, done⟩) (hrest : AtRest d waiting) :
    ∃ waiting' done', Course.Reaches ⟨d, waiting, done⟩ ⟨d.refresh.2, waiting', done'⟩ ∧
      AtRest d.refresh.2 waiting' := by
  let t : Ticket := ⟨d.calls, d.now, d.call d.now⟩
  have hask : Course.Reaches ⟨d, waiting, done⟩ ⟨{ d with calls := d.calls + 1 }, t ::ₘ waiting, done⟩ :=
    .single (.ask d waiting done)
  have htracks : Tracks { d with calls := d.calls + 1 } {t} (t ::ₘ waiting) := hrest.tracks.cons t
  -- the loop goes on until the refresh ends
  obtain ⟨waiting₁, done₁, hreach₁, htracks₁, hpending₁, hnow₁⟩ :=
    exists_runBelow t.flight.finish (h.reaches hask) htracks
      fun u hu => (congrArg (·.flight.finish) (Multiset.mem_singleton.mp hu)).ge
  obtain ⟨rest, rfl, hrest₁⟩ := htracks₁.exists_eq_cons
  have hbefore : ({ d with calls := d.calls + 1 }.runBelow t.flight.finish).now ≤ t.flight.finish := by
    obtain hnow | hnow := hnow₁
    · exact hnow.trans (Nat.le_add_right _ _)
    · exact hnow.le
  -- it ends, and what came of it is recorded
  have hend := ((hask.trans hreach₁).tail
    (.wait _ _ done₁ t.flight.finish hbefore hpending₁)).tail
    (.answer _ t rest done₁ rfl)
  -- what else is due at that time ends after it
  obtain ⟨waiting₂, done₂, hreach₂, hrest₂⟩ := exists_runTo (h.reaches hend) hrest₁ (le_refl _)
  exact ⟨waiting₂, done₂, hend.trans hreach₂, hrest₂⟩

/-- What a discovery does on a command is a course, if it is not told to start a loop that it has. -/
lemma exists_obey {command : Command} (h : Course.Recorded limit resolver ⟨d, waiting, done⟩)
    (hrest : AtRest d waiting) (hstart : command = .start → d.loop = none) :
    ∃ waiting' done', Course.Reaches ⟨d, waiting, done⟩ ⟨d.obey command, waiting', done'⟩ ∧
      AtRest (d.obey command) waiting' := by
  cases command with
  | refresh => exact exists_refresh h hrest
  | advance time => exact exists_runTo h hrest.tracks (Nat.le_add_right _ _)
  | start =>
    have htracks := hrest.tracks
    rw [Tracks, hstart rfl] at htracks
    exact ⟨waiting, done, .single (.plan d waiting done _), htracks, hrest.later⟩
  | cancel =>
    refine ⟨waiting, done, .single (.plan d waiting done _), ?_, hrest.later⟩
    have hflight : d.cancel.loop.bind Loop.flight = d.loop.bind Loop.flight := by
      unfold cancel
      cases d.loop with
      | none => rfl
      | some l => rfl
    have htracks := hrest.tracks
    unfold Tracks at htracks ⊢
    rw [obey, hflight]
    exact htracks

/-- Letting time pass starts no loop. -/
lemma loop_runTo_of_none (h : d.loop = none) (now : Nat) : (d.runTo now).loop = none := by
  unfold runTo
  rw [runBelow_of_no_loop h]
  exact h

/-- A loop is there only if it was started. -/
lemma loop_obey_of_none {command : Command} (hne : command ≠ .start) (h : d.loop = none) :
    (d.obey command).loop = none := by
  cases command with
  | refresh =>
    apply loop_runTo_of_none
    have hasked : ({ d with calls := d.calls + 1 } : Discovery).loop = none := h
    rw [runBelow_of_no_loop hasked]
    exact h
  | advance time => exact loop_runTo_of_none h _
  | start => exact absurd rfl hne
  | cancel => exact congrArg (Option.map _) h

/-- A loop is there only if one of the commands was to start it. -/
lemma loop_after_of_none {commands : List Command} (hnot : .start ∉ commands) (h : d.loop = none) :
    (d.after commands).loop = none := by
  induction commands generalizing d with
  | nil => exact h
  | cons command rest ih =>
    obtain ⟨hne, hrest⟩ := List.ne_and_not_mem_of_not_mem_cons hnot
    exact ih hrest (loop_obey_of_none (Ne.symm hne) h)

/-- A discovery follows a course through its commands, if they start the loop no more than once. -/
lemma exists_after {commands : List Command} (h : Course.Recorded limit resolver ⟨d, waiting, done⟩)
    (hrest : AtRest d waiting) (honce : commands.count .start ≤ 1)
    (hstart : .start ∈ commands → d.loop = none) :
    ∃ waiting' done', Course.Reaches ⟨d, waiting, done⟩ ⟨d.after commands, waiting', done'⟩ ∧
      AtRest (d.after commands) waiting' := by
  induction commands generalizing d waiting done with
  | nil => exact ⟨waiting, done, .refl, hrest⟩
  | cons command rest ih =>
    obtain ⟨waiting₁, done₁, hreach₁, hrest₁⟩ := exists_obey h hrest fun heq =>
      hstart (heq ▸ List.mem_cons_self)
    have hstart₁ : .start ∈ rest → (d.obey command).loop = none := by
      intro hmem
      have hne : command ≠ .start := by
        rintro rfl
        rw [List.count_cons_self] at honce
        exact Nat.not_le_of_lt (List.count_pos_iff.mpr hmem) (Nat.le_of_succ_le_succ honce)
      exact loop_obey_of_none hne (hstart (List.mem_cons_of_mem _ hmem))
    obtain ⟨waiting₂, done₂, hreach₂, hrest₂⟩ :=
      ih (h.reaches hreach₁) hrest₁ ((List.sublist_cons_self _ _).count_le _ |>.trans honce) hstart₁
    exact ⟨waiting₂, done₂, hreach₁.trans hreach₂, hrest₂⟩

/-- What is known and counted of the backends is the history of the refreshes that have ended, whatever the
resolver answers and in whatever order refreshes begin and end. An answer that comes later than the limit is one
failure for that and never published, what has ended stays so, and once there is a snapshot there always is one;
so the readiness probe tells how the last refresh ended, and no path leads to a backend of which nothing is known
once one has succeeded. The commands of a discovery, with the loop in the background, follow such a course. -/
theorem recorded_of_reaches (interval limit : Nat) (resolver : Nat → Resolution) :
    (∀ c, Course.Reaches (.new interval limit resolver) c →
      c.Recorded limit resolver ∧
      (∀ t ∈ c.done, limit < (resolver t.number).delay →
        t.flight = ⟨t.begun + limit, .error (.timeout limit)⟩) ∧
      (∀ snapshot, c.discovery.topology.snapshot = some snapshot →
        ∃ t ∈ c.done, (resolver t.number).delay ≤ limit ∧ (resolver t.number).answer = .ok snapshot) ∧
      (∀ c', Course.Reaches c c' → c.done <+: c'.done ∧
        (c.discovery.topology.snapshot.isSome = true → c'.discovery.topology.snapshot.isSome = true)) ∧
      ∀ g : Gateway, g.topology = c.discovery.topology →
        (∀ around req, req.method = "GET" → req.uri.path = "/readyz".toList →
          ((g.handle around req).response.status = 200 ↔
            ∃ snapshot, c.outcomes.getLast? = some (.ok snapshot))) ∧
        ((∃ snapshot, .ok snapshot ∈ c.outcomes) → ∀ path backend, g.lookup path ≠ .notReady backend)) ∧
    ∀ earlier later : List Command, (earlier ++ later).count .start ≤ 1 →
      ∃ c c', Course.Reaches (.new interval limit resolver) c ∧ Course.Reaches c c' ∧
        c.discovery = ({ interval, limit, resolver } : Discovery).after earlier ∧
        c'.discovery = ({ interval, limit, resolver } : Discovery).after (earlier ++ later) ∧
        ∀ t ∈ c'.waiting, c'.discovery.now < t.flight.finish := by
  constructor
  · intro c hc
    have hrecorded : c.Recorded limit resolver := Course.Recorded.new.reaches hc
    refine ⟨hrecorded, fun t => hrecorded.flight_of_late, fun s => hrecorded.answered_of_snapshot, ?_, ?_⟩
    · intro c' hc'
      have hadded := hc'.prefix_done
      refine ⟨hadded, ?_⟩
      rw [hrecorded.reflects.isSome_snapshot_iff, (hrecorded.reaches hc').reflects.isSome_snapshot_iff]
      rintro ⟨snapshot, hs⟩
      exact ⟨snapshot, (hadded.map _).subset hs⟩
    · intro g hg
      refine ⟨?_, hrecorded.reflects.lookup_ne_notReady hg⟩
      intro around req hmethod hpath
      have hp : Probe.ofPath? req.uri.path = some .readiness := by
        rw [hpath]
        exact Probe.ofPath?_path .readiness
      exact hrecorded.reflects.status_readiness hg around hmethod hp
  · intro earlier later honce
    let d : Discovery := { interval, limit, resolver }
    rw [List.count_append] at honce
    have hnew : Course.Recorded limit resolver ⟨d, 0, []⟩ := Course.Recorded.new
    have hrest : AtRest d 0 := ⟨rfl, fun t ht => absurd ht (Multiset.notMem_zero t)⟩
    obtain ⟨waiting, done, hreach, hrest⟩ :=
      exists_after hnew hrest ((Nat.le_add_right _ _).trans honce) fun _ => rfl
    -- if the loop is started later it was not started earlier
    have hstart : .start ∈ later → (d.after earlier).loop = none := by
      intro hmem
      have hpos : 0 < later.count .start := List.count_pos_iff.mpr hmem
      exact loop_after_of_none (List.count_eq_zero.mp (by omega)) rfl
    obtain ⟨waiting', done', hreach', hrest'⟩ :=
      exists_after (hnew.reaches hreach) hrest ((Nat.le_add_left _ _).trans honce) hstart
    exact ⟨_, _, hreach, hreach', rfl, List.foldl_append.symm, hrest'.later⟩

/-- What the resolver of the next lemma finds at a time. -/
def found (now : Int) : Snapshot :=
  ⟨none, none, ⟨now, "noon"⟩⟩

/-- A resolver of which the first answer is slow, the second a failure and each later one too late. -/
def unsteady : Nat → Resolution
  | 0 => ⟨8, .ok (found 8)⟩
  | 1 => ⟨3, .error (.registry "closed")⟩
  | _ => ⟨25, .ok (found 25)⟩

/-- Two refreshes that begin together end in the other order, and a third one ends before its answer comes. -/
theorem recorded_overlapping :
    (∃ c, Course.Reaches (.new 20 10 unsteady) c ∧ c.Recorded 10 unsteady ∧
      c.outcomes = [.error (.registry "closed"), .ok (found 8), .error (.timeout 10)] ∧
      c.done.map Ticket.number = [1, 0, 2] ∧ c.discovery.topology.snapshot = some (found 8) ∧
      (∃ t ∈ c.done, 10 < (unsteady t.number).delay ∧ t.flight = ⟨t.begun + 10, .error (.timeout 10)⟩) ∧
      ∀ g : Gateway, g.topology = c.discovery.topology →
        (∀ around req, req.method = "GET" → req.uri.path = "/readyz".toList →
          (g.handle around req).response.status ≠ 200) ∧
        ∀ path backend, g.lookup path ≠ .notReady backend) ∧
    ([.start, .refresh] ++ [.advance 25, .cancel] : List Command).count .start ≤ 1 ∧
    ∃ c, Course.Reaches (.new 20 10 unsteady) c ∧
      c.discovery = ({ interval := 20, limit := 10, resolver := unsteady } : Discovery).after
        ([.start, .refresh] ++ [.advance 25, .cancel]) ∧
      ∀ t ∈ c.waiting, c.discovery.now < t.flight.finish := by
  have hthm := recorded_of_reaches 20 10 unsteady
  refine ⟨?_, by decide, ?_⟩
  · let first : Ticket := ⟨0, 0, ⟨8, .ok (found 8)⟩⟩
    let second : Ticket := ⟨1, 0, ⟨3, .error (.registry "closed")⟩⟩
    let third : Ticket := ⟨2, 8, ⟨18, .error (.timeout 10)⟩⟩
    have hbegun : Course.Reaches (.new 20 10 unsteady)
        ⟨{ interval := 20, limit := 10, resolver := unsteady, calls := 2 }, second ::ₘ first ::ₘ 0, []⟩ :=
      (Relation.ReflTransGen.single (.ask _ 0 [])).tail (.ask _ _ [])
    have hsecond := (hbegun.tail (.wait _ _ _ 3 (by decide) (by decide))).tail (.answer _ second _ _ rfl)
    have hfirst := (hsecond.tail (.wait _ _ _ 8 (by decide) (by decide))).tail (.answer _ first _ _ rfl)
    have hasked := hfirst.tail (.ask _ 0 _)
    have hthird := (hasked.tail (.wait _ _ _ 18 (by decide) (by decide))).tail (.answer _ third _ _ rfl)
    obtain ⟨hrecorded, hlate, _, _, hg⟩ := hthm.1 _ hthird
    have hlast : third ∈ [second, first, third] := by simp
    refine ⟨_, hthird, hrecorded, rfl, rfl, rfl, ⟨third, hlast, by decide, hlate third hlast (by decide)⟩, ?_⟩
    intro g htopology
    obtain ⟨hready, hlookup⟩ := hg g htopology
    refine ⟨?_, hlookup ⟨found 8, List.mem_cons_of_mem _ List.mem_cons_self⟩⟩
    intro around req hmethod hpath hok
    obtain ⟨snapshot, hs⟩ := (hready around req hmethod hpath).mp hok
    cases hs
  · obtain ⟨c, c', hreach, hreach', _, hafter, hlater⟩ :=
      hthm.2 [.start, .refresh] [.advance 25, .cancel] (by decide)
    exact ⟨c', hreach.trans hreach', hafter, hlater⟩

end ApiGateway.Discovery
