import ApiGateway.Proofs.Discovery.Background
import ApiGateway.Proofs.Gateway.Setup

/-!
# The timetable of the loop

A refresh takes no longer than the limit, and the limit is shorter than the interval. So whenever a tick is due the
refresh before it has ended, no tick is late, and the k-th refresh of a loop that was started at `s` begins at
`s + k * interval` exactly. `OnTime` is this invariant; what the loop does next keeps it (`OnTime.land`,
`OnTime.depart`), and so does a run of any length (`Punctual.after`).

A loop that was cancelled begins nothing any more. All that is left is the refresh in flight, and the loop runs until
it has ended (`Ending`). The main result `timetable` puts the two together; `timetable_of_validate` says that the
times of accepted settings are such an interval and such a limit.
-/

namespace ApiGateway.Discovery

variable {d : Discovery} {bound : Nat} {l : Loop}

/-! ### What the loop begins -/

/-- The refreshes that the loop begins before the time `bound`, in their order. -/
def departures (d : Discovery) (bound : Nat) : List Ticket :=
  match h : d.nextEvent bound with
  | .none => []
  | .landing l f =>
    have := pending_land h
    departures (d.land l f) bound
  | .tick l now =>
    have := pending_depart h
    ⟨d.calls, now, d.call now⟩ :: departures (d.depart l now) bound
termination_by d.pending bound

/-- Once the resolver was asked for a refresh. -/
def asked (d : Discovery) : Discovery :=
  { d with calls := d.calls + 1 }

/-- Once the refresh that was asked for has ended. -/
def answered (d : Discovery) : Discovery :=
  (d.asked.runBelow (d.call d.now).finish).complete (d.call d.now).finish (d.call d.now).outcome

/-- A refresh that is asked for ends with all that happens up to its end. -/
lemma refresh_eq (d : Discovery) : d.refresh.2 = d.answered.runTo (d.call d.now).finish := rfl

/-- The refreshes that the loop begins during a command. -/
def departuresOn (d : Discovery) : Command → List Ticket
  | .refresh => d.asked.departures (d.call d.now).finish ++ d.answered.departures ((d.call d.now).finish + 1)
  | .advance time => d.departures (d.now + time + 1)
  | .start => []
  | .cancel => []

/-- The refreshes that the loop begins during commands. -/
def background (d : Discovery) : List Command → List Ticket
  | [] => []
  | command :: rest => d.departuresOn command ++ (d.obey command).background rest

/-- What the loop begins, from its next event. -/
lemma departures_eq (d : Discovery) (bound : Nat) :
    d.departures bound =
      match d.nextEvent bound with
      | .none => []
      | .landing l f => (d.land l f).departures bound
      | .tick l now => ⟨d.calls, now, d.call now⟩ :: (d.depart l now).departures bound := by
  rw [departures]
  split
  · next heq => simp only [heq]
  · next heq => simp only [heq]
  · next heq => simp only [heq]

/-- A loop without a next event begins nothing. -/
lemma departures_of_none (h : d.nextEvent bound = .none) : d.departures bound = [] := by
  rw [departures_eq, h]

/-- The end of a refresh begins none. -/
lemma departures_of_landing {f : Flight} (h : d.nextEvent bound = .landing l f) :
    d.departures bound = (d.land l f).departures bound := by
  rw [departures_eq, h]

/-- A tick begins a refresh, and the later ones follow. -/
lemma departures_of_tick {now : Nat} (h : d.nextEvent bound = .tick l now) :
    d.departures bound = ⟨d.calls, now, d.call now⟩ :: (d.depart l now).departures bound := by
  rw [departures_eq, h]

/-- A run goes on after the end of a refresh. -/
lemma runBelow_of_landing {f : Flight} (h : d.nextEvent bound = .landing l f) :
    d.runBelow bound = (d.land l f).runBelow bound := by
  rw [runBelow_eq, h]

/-- A tick comes when it is due, or as soon as it can if that is over. -/
lemma now_of_nextEvent_eq_tick {now : Nat} (h : d.nextEvent bound = .tick l now) : now = max l.nextTick d.now := by
  unfold nextEvent at h
  split at h
  · cases h
  · split at h
    · split at h
      · cases h
      · cases h
    · simp only at h
      split at h
      · cases h
        rfl
      · cases h

/-- After a run up to a bound nothing is left to happen before it. -/
lemma nextEvent_runBelow (d : Discovery) (bound : Nat) : (d.runBelow bound).nextEvent bound = .none := by
  fun_induction Discovery.runBelow d bound with
  | case1 d hnone => exact hnone
  | case2 d l f hland _ ih => exact ih
  | case3 d l tick htick _ ih => exact ih

/-- After a run the time is what it was, or that of an event before the bound. -/
lemma now_runBelow (d : Discovery) (bound : Nat) :
    (d.runBelow bound).now = d.now ∨ (d.runBelow bound).now < bound := by
  fun_induction Discovery.runBelow d bound with
  | case1 d hnone => exact .inl rfl
  | case2 d l f hland _ ih =>
    obtain ⟨_, _, hlt⟩ := nextEvent_eq_landing hland
    right
    obtain ih | ih := ih
    · exact ih.trans_lt hlt
    · exact ih
  | case3 d l tick htick _ ih =>
    obtain ⟨_, _, _, hlt⟩ := nextEvent_eq_tick htick
    right
    obtain ih | ih := ih
    · exact ih.trans_lt hlt
    · exact ih

/-- During a run the resolver is called for what the loop begins. -/
lemma calls_runBelow (d : Discovery) (bound : Nat) :
    (d.runBelow bound).calls = d.calls + (d.departures bound).length := by
  fun_induction Discovery.runBelow d bound with
  | case1 d hnone =>
    rw [departures_of_none hnone]
    rfl
  | case2 d l f hland _ ih =>
    rw [departures_of_landing hland, ih, land, complete]
  | case3 d l tick htick _ ih =>
    rw [departures_of_tick htick, List.length_cons, ih, depart, Nat.add_assoc, Nat.add_comm 1]

/-- Up to a time the resolver is called for what the loop begins by then. -/
lemma calls_runTo (d : Discovery) (now : Nat) :
    (d.runTo now).calls = d.calls + (d.departures (now + 1)).length :=
  calls_runBelow d (now + 1)

/-- During a command the resolver is called for what the loop begins and, for a refresh, once more. -/
lemma calls_obey (d : Discovery) (command : Command) :
    (d.obey command).calls = d.calls + [command].count .refresh + (d.departuresOn command).length := by
  cases command with
  | refresh =>
    have hasked : d.asked.calls = d.calls + 1 := rfl
    have hanswered : d.answered.calls = (d.asked.runBelow (d.call d.now).finish).calls := rfl
    rw [obey, refresh_eq, calls_runTo, hanswered, calls_runBelow, hasked, departuresOn, List.length_append]
    exact Nat.add_assoc _ _ _
  | advance time => exact calls_runTo d (d.now + time)
  | start => rfl
  | cancel => rfl

/-- During commands the resolver is called for what the loop begins and for each refresh asked for. -/
lemma calls_after (d : Discovery) (commands : List Command) :
    (d.after commands).calls = d.calls + commands.count .refresh + (d.background commands).length := by
  induction commands generalizing d with
  | nil => rfl
  | cons command rest ih =>
    have hfirst := calls_obey d command
    have hrest : (d.after (command :: rest)).calls = _ := ih (d.obey command)
    have hcount : (command :: rest).count .refresh = [command].count .refresh + rest.count .refresh := by
      rw [← List.count_append, List.singleton_append]
    rw [hrest, hfirst, background, List.length_append, hcount]
    omega

/-! ### A loop on time -/

section OnTime

variable {interval limit s : Nat} {resolver : Nat → Resolution} {ts : List Ticket} {flight : Option Flight}

/-- A loop that was started at the time `s` and has begun the refreshes since, the k-th of them after k intervals,
with the last one still in flight or ended. -/
structure OnTime (interval limit : Nat) (resolver : Nat → Resolution) (s : Nat) (ts : List Ticket)
    (flight : Option Flight) (d : Discovery) : Prop where
  interval_eq : d.interval = interval
  limit_eq : d.limit = limit
  resolver_eq : d.resolver = resolver
  loop : d.loop = some { nextTick := s + (ts.length + 1) * interval, flight }
  begun : ts.map Ticket.begun = (List.range' 1 ts.length).map fun k => s + k * interval
  flights : ∀ t ∈ ts, t.flight = ⟨t.begun + (resolver t.number).duration limit, (resolver t.number).outcome limit⟩
  le_now : s + ts.length * interval ≤ d.now
  now_le : d.now ≤ s + (ts.length + 1) * interval
  aloft : ∀ f, flight = some f → ts.getLast?.map Ticket.flight = some f ∧ d.now ≤ f.finish
  landed : flight = none → ∀ t, ts.getLast? = some t → t.flight.finish ≤ d.now

namespace OnTime

/-- The last refresh began at the last tick. -/
lemma begun_last (h : OnTime interval limit resolver s ts flight d) {t : Ticket} (ht : ts.getLast? = some t) :
    t.begun = s + ts.length * interval := by
  obtain ⟨before, rfl⟩ := List.getLast?_eq_some_iff.mp ht
  have hbegun := h.begun
  rw [List.length_append, List.length_singleton, List.range'_1_concat, List.map_append, List.map_append] at hbegun
  have hlast := (List.append_inj' hbegun rfl).2
  rw [List.map_singleton, List.map_singleton, List.singleton_inj] at hlast
  rw [hlast, List.length_append, List.length_singleton, Nat.add_comm 1]

/-- A refresh in flight ends before the next tick is due. -/
lemma finish_lt (h : OnTime interval limit resolver s ts flight d) (hlimit : limit < interval) {f : Flight}
    (hf : flight = some f) : f.finish < s + (ts.length + 1) * interval := by
  obtain ⟨t, ht, rfl⟩ := Option.map_eq_some_iff.mp (h.aloft f hf).1
  have hbegun := h.begun_last ht
  have hduration := (resolver t.number).duration_le limit
  rw [h.flights t (List.mem_of_getLast? ht), Nat.add_one_mul]
  simp only
  omega

/-- A loop on time stays so when its refresh ends. -/
lemma land (h : OnTime interval limit resolver s ts flight d) (hlimit : limit < interval) {f : Flight}
    (hloop : d.loop = some l) (hf : l.flight = some f) : OnTime interval limit resolver s ts none (d.land l f) := by
  rw [h.loop] at hloop
  cases hloop
  obtain ⟨hlast, hnow⟩ := h.aloft f hf
  unfold Discovery.land complete
  refine ⟨h.interval_eq, h.limit_eq, h.resolver_eq, rfl, h.begun, h.flights, h.le_now.trans hnow,
    (h.finish_lt hlimit hf).le, ?_, ?_⟩
  · rintro _ ⟨⟩
  · intro _ t ht
    rw [ht, Option.map_some, Option.some_inj] at hlast
    rw [hlast]

/-- A tick comes when it is due, and leaves the loop on time. -/
lemma depart (h : OnTime interval limit resolver s ts flight d) {now : Nat}
    (htick : d.nextEvent bound = .tick l now) :
    OnTime interval limit resolver s (ts ++ [⟨d.calls, now, d.call now⟩]) (some (d.call now)) (d.depart l now) := by
  obtain ⟨hloop, hnone, _, _⟩ := nextEvent_eq_tick htick
  have hnow := now_of_nextEvent_eq_tick htick
  rw [h.loop] at hloop
  cases hloop
  -- the loop was told to wait for this tick and did nothing after it was due
  rw [max_eq_left h.now_le] at hnow
  have hnext : s + (ts.length + 1 + 1) * interval = now + interval := by
    rw [hnow, Nat.add_one_mul (ts.length + 1), Nat.add_assoc]
  have hcall : d.call now = ⟨now + (resolver d.calls).duration limit, (resolver d.calls).outcome limit⟩ := by
    rw [call, h.limit_eq, h.resolver_eq]
  have hlength (t : Ticket) : (ts ++ [t]).length = ts.length + 1 := List.length_append
  unfold Discovery.depart
  refine ⟨h.interval_eq, h.limit_eq, h.resolver_eq, ?_, ?_, ?_, ?_, ?_, ?_, ?_⟩
  · have hontime : tickAfter d.interval now now = now + interval := by
      rw [tickAfter, if_neg (by omega), h.interval_eq]
    simp only [hlength, hnext, ← hnow, hontime]
  · rw [hlength, List.range'_1_concat, List.map_append, List.map_append, h.begun, List.map_singleton,
      List.map_singleton, hnow, Nat.add_comm 1]
  · intro t ht
    obtain ht | ht := List.mem_append.mp ht
    · exact h.flights t ht
    · rw [List.mem_singleton.mp ht]
      exact hcall
  · rw [hlength]
    exact hnow.ge
  · rw [hlength, hnext]
    exact Nat.le_add_right now interval
  · rintro f ⟨⟩
    rw [List.getLast?_concat]
    exact ⟨rfl, Nat.le_add_right now _⟩
  · rintro ⟨⟩

/-- A loop on time stays so in a run of any length. -/
lemma runBelow (h : OnTime interval limit resolver s ts flight d) (hlimit : limit < interval) (bound : Nat) :
    ∃ flight', OnTime interval limit resolver s (ts ++ d.departures bound) flight' (d.runBelow bound) := by
  fun_induction Discovery.runBelow d bound generalizing ts flight with
  | case1 d hnone =>
    rw [departures_of_none hnone, List.append_nil]
    exact ⟨flight, h⟩
  | case2 d l f hland _ ih =>
    obtain ⟨hloop, hf, _⟩ := nextEvent_eq_landing hland
    rw [departures_of_landing hland]
    exact ih (h.land hlimit hloop hf)
  | case3 d l tick htick _ ih =>
    rw [departures_of_tick htick, List.append_cons]
    exact ih (h.depart htick)

/-- Where nothing comes next before a bound, neither the refresh in flight nor the next tick does. -/
lemma le_of_nextEvent_eq_none (h : OnTime interval limit resolver s ts flight d) (hpos : 0 < interval)
    (hlimit : limit < interval) (hnone : d.nextEvent bound = .none) :
    (∀ f, flight = some f → bound ≤ f.finish) ∧ bound ≤ s + (ts.length + 1) * interval := by
  cases flight with
  | some f =>
    have hf : d.loop.bind Loop.flight = some f := by
      rw [h.loop]
      rfl
    have hle := le_finish_of_nextEvent_eq_none hnone hf
    refine ⟨?_, hle.trans (h.finish_lt hlimit rfl).le⟩
    rintro _ ⟨⟩
    exact hle
  | none =>
    refine ⟨by rintro _ ⟨⟩, ?_⟩
    by_contra hlt
    rw [Nat.not_le] at hlt
    rw [nextEvent, h.loop] at hnone
    simp only [max_eq_left h.now_le, h.interval_eq] at hnone
    rw [if_pos (by simp [hpos, hlt])] at hnone
    cases hnone

/-- Time passes, and whatever else than the loop changes, if nothing is passed over. -/
lemma wait (h : OnTime interval limit resolver s ts flight d) {d' : Discovery} (hinterval : d'.interval = d.interval)
    (hlimit : d'.limit = d.limit) (hresolver : d'.resolver = d.resolver) (hloop : d'.loop = d.loop)
    (hle : d.now ≤ d'.now) (hflight : ∀ f, flight = some f → d'.now ≤ f.finish)
    (hnext : d'.now ≤ s + (ts.length + 1) * interval) : OnTime interval limit resolver s ts flight d' where
  interval_eq := hinterval.trans h.interval_eq
  limit_eq := hlimit.trans h.limit_eq
  resolver_eq := hresolver.trans h.resolver_eq
  loop := hloop.trans h.loop
  begun := h.begun
  flights := h.flights
  le_now := h.le_now.trans hle
  now_le := hnext
  aloft := fun f hf => ⟨(h.aloft f hf).1, hflight f hf⟩
  landed := fun hf t ht => (h.landed hf t ht).trans hle

end OnTime

/-- A refresh, if it does not end before the time `bound`. -/
def unended (flight : Option Flight) (bound : Nat) : Option Flight :=
  flight.filter fun f => bound ≤ f.finish

/-- A refresh that does not end before the bound is in flight then. -/
lemma unended_of_le {f : Flight} (h : bound ≤ f.finish) : unended (some f) bound = some f := by
  rw [unended, Option.filter_some, if_pos (decide_eq_true h)]

/-- A refresh that ends before the bound is not. -/
lemma unended_of_lt {f : Flight} (h : f.finish < bound) : unended (some f) bound = none := by
  rw [unended, Option.filter_some, if_neg (mt of_decide_eq_true (Nat.not_le.mpr h))]

/-- A loop on time that has done all that was due. -/
def Punctual (interval limit : Nat) (resolver : Nat → Resolution) (s : Nat) (ts : List Ticket) (d : Discovery) : Prop :=
  ∃ flight, OnTime interval limit resolver s ts flight d ∧ (∀ f, flight = some f → d.now < f.finish) ∧
    d.now < s + (ts.length + 1) * interval

/-- A loop on time is punctual at every later time. -/
lemma OnTime.runTo (h : OnTime interval limit resolver s ts flight d) (hpos : 0 < interval)
    (hlimit : limit < interval) {now : Nat} (hle : d.now ≤ now) :
    Punctual interval limit resolver s (ts ++ d.departures (now + 1)) (d.runTo now) := by
  obtain ⟨flight', hrun⟩ := h.runBelow hlimit (now + 1)
  obtain ⟨hflight, hnext⟩ := hrun.le_of_nextEvent_eq_none hpos hlimit (nextEvent_runBelow d (now + 1))
  have hbefore : (d.runBelow (now + 1)).now ≤ now := by
    obtain hnow | hnow := now_runBelow d (now + 1)
    · exact hnow.trans_le hle
    · exact Nat.le_of_lt_succ hnow
  exact ⟨flight', hrun.wait rfl rfl rfl rfl hbefore (fun f hf => Nat.le_of_succ_le (hflight f hf))
    (Nat.le_of_succ_le hnext), hflight, hnext⟩

namespace Punctual

/-- A loop that has just been started is punctual. -/
lemma start (hpos : 0 < d.interval) :
    Punctual d.interval d.limit d.resolver d.now [] d.start := by
  have hnext : d.now + (List.length ([] : List Ticket) + 1) * d.interval = d.now + d.interval := by
    rw [List.length_nil, Nat.zero_add, Nat.one_mul]
  have hloop : d.start.loop = some { nextTick := d.now + (List.length ([] : List Ticket) + 1) * d.interval } := by
    have hrunning : (d.interval == 0) = false := by simpa using Nat.ne_of_gt hpos
    rw [hnext, Discovery.start, hrunning]
  have hnow : d.start.now < d.now + (List.length ([] : List Ticket) + 1) * d.interval := by
    rw [hnext]
    exact Nat.lt_add_of_pos_right hpos
  refine ⟨none, ⟨rfl, rfl, rfl, hloop, rfl, ?_, ?_, hnow.le, ?_, ?_⟩, ?_, hnow⟩
  · exact fun t ht => absurd ht List.not_mem_nil
  · rw [List.length_nil, Nat.zero_mul]
    exact le_refl d.now
  · rintro _ ⟨⟩
  · rintro _ _ ⟨⟩
  · rintro _ ⟨⟩

/-- A punctual loop stays so while a refresh is asked for, however long that takes. -/
lemma refresh (h : Punctual interval limit resolver s ts d) (hpos : 0 < interval) (hlimit : limit < interval) :
    Punctual interval limit resolver s (ts ++ d.departuresOn .refresh) d.refresh.2 := by
  obtain ⟨flight, hontime, _, _⟩ := h
  have hasked : OnTime interval limit resolver s ts flight d.asked :=
    hontime.wait rfl rfl rfl rfl (le_refl _) (fun f hf => (hontime.aloft f hf).2) hontime.now_le
  obtain ⟨flight', hrun⟩ := hasked.runBelow hlimit (d.call d.now).finish
  obtain ⟨hflight, hnext⟩ := hrun.le_of_nextEvent_eq_none hpos hlimit (nextEvent_runBelow _ _)
  have hbefore : (d.asked.runBelow (d.call d.now).finish).now ≤ (d.call d.now).finish := by
    obtain hnow | hnow := now_runBelow d.asked (d.call d.now).finish
    · rw [hnow]
      exact Nat.le_add_right d.now _
    · exact hnow.le
  have hanswered : OnTime interval limit resolver s _ flight' d.answered :=
    hrun.wait rfl rfl rfl rfl hbefore hflight hnext
  rw [departuresOn, ← List.append_assoc]
  exact hanswered.runTo hpos hlimit (le_refl _)

/-- A punctual loop stays so during every command that neither starts nor cancels it. -/
lemma obey (h : Punctual interval limit resolver s ts d) (hpos : 0 < interval) (hlimit : limit < interval)
    {command : Command} (hstart : command ≠ .start) (hcancel : command ≠ .cancel) :
    Punctual interval limit resolver s (ts ++ d.departuresOn command) (d.obey command) := by
  cases command with
  | refresh => exact h.refresh hpos hlimit
  | advance time =>
    obtain ⟨flight, hontime, _, _⟩ := h
    exact hontime.runTo hpos hlimit (Nat.le_add_right _ _)
  | start => exact absurd rfl hstart
  | cancel => exact absurd rfl hcancel

/-- A punctual loop stays so during all commands that neither start nor cancel it. -/
lemma after (h : Punctual interval limit resolver s ts d) (hpos : 0 < interval) (hlimit : limit < interval)
    {commands : List Command} (hstart : .start ∉ commands) (hcancel : .cancel ∉ commands) :
    Punctual interval limit resolver s (ts ++ d.background commands) (d.after commands) := by
  induction commands generalizing d ts with
  | nil =>
    rw [background, List.append_nil]
    exact h
  | cons command rest ih =>
    obtain ⟨hnostart, hstart⟩ := List.ne_and_not_mem_of_not_mem_cons hstart
    obtain ⟨hnocancel, hcancel⟩ := List.ne_and_not_mem_of_not_mem_cons hcancel
    rw [background, ← List.append_assoc]
    exact ih (h.obey hpos hlimit (Ne.symm hnostart) (Ne.symm hnocancel)) hstart hcancel

/-- A punctual loop has begun as many refreshes as intervals have passed. -/
lemma length_eq (h : Punctual interval limit resolver s ts d) : ts.length = (d.now - s) / interval := by
  obtain ⟨flight, hontime, _, hnext⟩ := h
  have hle := hontime.le_now
  symm
  apply Nat.div_eq_of_lt_le
  · omega
  · omega

/-- The loop has the last refresh in flight until it has ended. -/
lemma loop_eq (h : Punctual interval limit resolver s ts d) :
    d.loop = some
      { nextTick := s + (ts.length + 1) * interval
        flight := unended (ts.getLast?.map Ticket.flight) (d.now + 1) } := by
  obtain ⟨flight, hontime, hflight, _⟩ := h
  rw [hontime.loop]
  cases flight with
  | some f =>
    rw [(hontime.aloft f rfl).1, unended_of_le (hflight f rfl)]
  | none =>
    cases ht : ts.getLast? with
    | none => rfl
    | some t =>
      rw [Option.map_some, unended_of_lt (Nat.lt_succ_of_le (hontime.landed rfl t ht))]

/-- The refreshes of a punctual loop do not overlap. -/
lemma pairwise (h : Punctual interval limit resolver s ts d) (hlimit : limit < interval) :
    ts.Pairwise fun t u => t.flight.finish < u.begun := by
  obtain ⟨flight, hontime, _, _⟩ := h
  have happart : (ts.map Ticket.begun).Pairwise fun a b => a + interval ≤ b := by
    rw [hontime.begun, List.pairwise_map]
    apply List.Pairwise.imp _ List.pairwise_lt_range'
    intro i j hlt
    have hle := Nat.mul_le_mul_right interval (Nat.succ_le_of_lt hlt)
    rw [Nat.succ_mul] at hle
    omega
  apply (List.pairwise_map.mp happart).imp_of_mem
  intro t u ht _ hle
  have hduration := (resolver t.number).duration_le limit
  rw [hontime.flights t ht]
  simp only
  omega

end Punctual

end OnTime

/-! ### A loop that was cancelled -/

section Ending

variable {flight : Option Flight}

/-- What is still in flight at two times is so at the later one. -/
lemma unended_unended (flight : Option Flight) (a b : Nat) :
    unended (unended flight a) b = unended flight (max a b) := by
  cases flight with
  | none => rfl
  | some f =>
    by_cases ha : a ≤ f.finish
    · rw [unended_of_le ha]
      by_cases hb : b ≤ f.finish
      · rw [unended_of_le hb, unended_of_le (max_le ha hb)]
      · rw [Nat.not_le] at hb
        rw [unended_of_lt hb, unended_of_lt (lt_max_of_lt_right hb)]
    · rw [Nat.not_le] at ha
      rw [unended_of_lt ha, unended_of_lt (lt_max_of_lt_left ha)]
      rfl

/-- A cancelled loop with nothing in flight has no next event. -/
lemma nextEvent_of_ended (hloop : d.loop = some l) (hcancelled : l.cancelled = true) (hf : l.flight = none)
    (bound : Nat) : d.nextEvent bound = .none := by
  rw [nextEvent, hloop]
  simp [hf, hcancelled]

/-- All that a cancelled loop does is to let the refresh in flight end. -/
lemma runBelow_of_cancelled (hloop : d.loop = some l) (hcancelled : l.cancelled = true) {f : Flight}
    (hf : l.flight = some f) (bound : Nat) :
    d.departures bound = [] ∧ d.runBelow bound = if f.finish < bound then d.land l f else d := by
  by_cases hlt : f.finish < bound
  · have hland : d.nextEvent bound = .landing l f := by
      rw [nextEvent, hloop]
      simp [hf, hlt]
    have hnone : (d.land l f).nextEvent bound = .none :=
      nextEvent_of_ended (l := { l with flight := none }) rfl hcancelled rfl bound
    rw [departures_of_landing hland, runBelow_of_landing hland, if_pos hlt]
    exact ⟨departures_of_none hnone, runBelow_of_none hnone⟩
  · have hnone : d.nextEvent bound = .none := by
      rw [nextEvent, hloop]
      simp [hf, hlt]
    rw [if_neg hlt]
    exact ⟨departures_of_none hnone, runBelow_of_none hnone⟩

/-- A loop that was cancelled and has nothing left but the refresh, as long as that does not end before the bound. -/
def Ending (flight : Option Flight) (bound : Nat) (d : Discovery) : Prop :=
  ∃ nextTick, d.loop = some { nextTick, flight := unended flight bound, cancelled := true }

namespace Ending

/-- A cancelled loop begins nothing in a run, and its refresh is in flight until it ends. -/
lemma runBelow {a : Nat} (h : Ending flight a d) (b : Nat) :
    d.departures b = [] ∧ Ending flight (max a b) (d.runBelow b) := by
  obtain ⟨nextTick, hloop⟩ := h
  unfold Ending
  rw [← unended_unended]
  cases hf : unended flight a with
  | none =>
    rw [hf] at hloop
    have hnone := nextEvent_of_ended hloop rfl rfl b
    rw [runBelow_of_none hnone]
    exact ⟨departures_of_none hnone, nextTick, hloop⟩
  | some f =>
    rw [hf] at hloop
    obtain ⟨hdepartures, hrun⟩ := runBelow_of_cancelled hloop rfl rfl b
    refine ⟨hdepartures, nextTick, ?_⟩
    by_cases hlt : f.finish < b
    · rw [hrun, if_pos hlt, unended_of_lt hlt]
      rfl
    · rw [hrun, if_neg hlt, unended_of_le (Nat.le_of_not_lt hlt)]
      exact hloop

/-- A cancelled loop begins nothing up to any time, and its refresh is in flight until it ends. -/
lemma runTo {a : Nat} (h : Ending flight a d) (now : Nat) :
    d.departures (now + 1) = [] ∧ Ending flight (max a (now + 1)) (d.runTo now) :=
  h.runBelow (now + 1)

/-- A command does not make a cancelled loop begin a refresh, unless it starts the loop again. -/
lemma obey (h : Ending flight (d.now + 1) d) {command : Command} (hstart : command ≠ .start) :
    d.departuresOn command = [] ∧ Ending flight ((d.obey command).now + 1) (d.obey command) := by
  cases command with
  | refresh =>
    have hle : d.now ≤ (d.call d.now).finish := Nat.le_add_right d.now _
    have hasked : Ending flight (d.now + 1) d.asked := h
    obtain ⟨hfirst, hrun⟩ := hasked.runBelow (d.call d.now).finish
    have hanswered : Ending flight (max (d.now + 1) (d.call d.now).finish) d.answered := hrun
    obtain ⟨hthen, hrest⟩ := hanswered.runTo (d.call d.now).finish
    rw [max_eq_right (by omega)] at hrest
    refine ⟨?_, hrest⟩
    rw [departuresOn, hfirst, hthen]
    rfl
  | advance time =>
    obtain ⟨hnone, hrun⟩ := h.runTo (d.now + time)
    rw [max_eq_right (by omega)] at hrun
    exact ⟨hnone, hrun⟩
  | start => exact absurd rfl hstart
  | cancel =>
    obtain ⟨nextTick, hloop⟩ := h
    refine ⟨rfl, nextTick, ?_⟩
    rw [Discovery.obey, cancel, hloop]
    rfl

/-- A cancelled loop begins nothing during commands that do not start it again. -/
lemma after (h : Ending flight (d.now + 1) d) {commands : List Command} (hstart : .start ∉ commands) :
    d.background commands = [] ∧ Ending flight ((d.after commands).now + 1) (d.after commands) := by
  induction commands generalizing d with
  | nil => exact ⟨rfl, h⟩
  | cons command rest ih =>
    obtain ⟨hne, hrest⟩ := List.ne_and_not_mem_of_not_mem_cons hstart
    obtain ⟨hfirst, hobey⟩ := h.obey (Ne.symm hne)
    obtain ⟨hthen, hafter⟩ := ih hobey hrest
    refine ⟨?_, hafter⟩
    rw [background, hfirst, hthen]
    rfl

end Ending

end Ending

/-! ### The timetable -/

/-- What the loop of a discovery begins from its start until the discovery has become another one. The k-th refresh
begins k intervals after the start; it ends when the resolver answers, and within the limit; the refreshes do not
overlap; and in flight is the last one, until it has ended. -/
structure Scheduled (d c : Discovery) (ts : List Ticket) : Prop where
  begun : ts.map Ticket.begun =
    (List.range' 1 ((c.now - d.now) / d.interval)).map fun k => d.now + k * d.interval
  bounded : ∀ t ∈ ts,
    t.flight = ⟨t.begun + (d.resolver t.number).duration d.limit, (d.resolver t.number).outcome d.limit⟩ ∧
      t.flight.finish ≤ t.begun + d.limit
  apart : ts.Pairwise fun t u => t.flight.finish < u.begun
  aloft : c.loop.bind Loop.flight = unended (ts.getLast?.map Ticket.flight) (c.now + 1)

/-- What becomes of the loop of a discovery when it is cancelled after the last refresh that it has begun. It
begins none any more and runs until that refresh has ended, and what comes of a refresh in flight is recorded when
it has. -/
structure Stopped (c : Discovery) (last : Option Ticket) : Prop where
  silent : ∀ later, .start ∉ later → c.cancel.background later = []
  runs : ∀ later, .start ∉ later →
    ((c.cancel.after later).loop.any Loop.isRunning = true ↔
      ∃ t, last = some t ∧ (c.cancel.after later).now < t.flight.finish)
  recorded : ∀ t, last = some t → c.now < t.flight.finish → ∀ time,
    let e := c.cancel.advance time
    if t.flight.finish ≤ c.now + time then
      e.topology = settle t.flight.outcome c.topology ∧ e.metrics = count t.flight.outcome c.metrics
    else e.topology = c.topology ∧ e.metrics = c.metrics

section Timetable

variable {interval limit s : Nat} {resolver : Nat → Resolution} {ts : List Ticket} {c : Discovery}

/-- What a punctual loop has begun keeps the timetable. -/
lemma Punctual.scheduled (h : Punctual d.interval d.limit d.resolver d.now ts c) (hlimit : d.limit < d.interval) :
    Scheduled d c ts := by
  refine ⟨?_, ?_, h.pairwise hlimit, ?_⟩
  · obtain ⟨flight, hontime, _⟩ := id h
    rw [hontime.begun, h.length_eq]
  · intro t ht
    obtain ⟨flight, hontime, _⟩ := h
    have hflight := hontime.flights t ht
    refine ⟨hflight, ?_⟩
    rw [hflight]
    exact Nat.add_le_add_left (Resolution.duration_le _ _) _
  · rw [h.loop_eq]
    rfl

/-- A punctual loop that is cancelled has nothing left but its last refresh. -/
lemma Punctual.ending (h : Punctual interval limit resolver s ts c) :
    Ending (ts.getLast?.map Ticket.flight) (c.cancel.now + 1) c.cancel := by
  refine ⟨s + (ts.length + 1) * interval, ?_⟩
  rw [cancel, h.loop_eq]
  rfl

/-- A punctual loop that is cancelled stops as it should. -/
lemma Punctual.stopped (h : Punctual interval limit resolver s ts c) : Stopped c ts.getLast? := by
  refine ⟨fun later hstart => (h.ending.after hstart).1, ?_, ?_⟩
  · intro later hstart
    obtain ⟨_, nextTick, hloop⟩ := h.ending.after hstart
    rw [hloop, Option.any_some, Loop.isRunning, Bool.not_true, Bool.false_or]
    cases ts.getLast? with
    | none =>
      constructor
      · intro hrunning
        exact absurd hrunning Bool.false_ne_true
      · rintro ⟨_, ⟨⟩, _⟩
    | some t =>
      rw [Option.map_some]
      by_cases hlt : (c.cancel.after later).now < t.flight.finish
      · rw [unended_of_le hlt]
        exact ⟨fun _ => ⟨t, rfl, hlt⟩, fun _ => rfl⟩
      · rw [unended_of_lt (Nat.lt_succ_of_le (Nat.le_of_not_lt hlt))]
        constructor
        · intro hrunning
          exact absurd hrunning Bool.false_ne_true
        · rintro ⟨_, ⟨⟩, hfinish⟩
          exact absurd hfinish hlt
  · intro t ht haloft time
    obtain ⟨nextTick, hloop⟩ := h.ending
    have hnow : c.cancel.now = c.now := rfl
    rw [ht, Option.map_some, hnow, unended_of_le haloft] at hloop
    obtain ⟨_, hrun⟩ := runBelow_of_cancelled hloop rfl rfl (c.now + time + 1)
    have hadvance : c.cancel.advance time =
        { c.cancel.runBelow (c.now + time + 1) with now := c.now + time } := rfl
    intro e
    unfold e
    rw [hadvance, hrun]
    by_cases hle : t.flight.finish ≤ c.now + time
    · rw [if_pos hle, if_pos (Nat.lt_succ_of_le hle)]
      exact ⟨rfl, rfl⟩
    · rw [if_neg hle, if_neg (mt Nat.le_of_lt_succ hle)]
      exact ⟨rfl, rfl⟩

/-- A loop that is started and neither started again nor cancelled is punctual. -/
lemma Punctual.started {d : Discovery} (hpos : 0 < d.interval) (hlimit : d.limit < d.interval)
    {during : List Command} (hstart : .start ∉ during) (hcancel : .cancel ∉ during) :
    Punctual d.interval d.limit d.resolver d.now (d.start.background during) (d.start.after during) :=
  (Punctual.start hpos).after hpos hlimit hstart hcancel

/-- A loop whose interval is longer than the limit keeps its timetable, whatever the resolver answers and whatever
else the discovery is asked for in the meantime: the k-th refresh begins k intervals after the start, ends within the
limit and thereby before the next one begins, and the resolver is called for nothing else than these refreshes and
those that were asked for. Once it is cancelled it begins no refresh any more, and it runs on exactly until the one in
flight has ended and what came of it is recorded. -/
theorem timetable {d : Discovery} (hpos : 0 < d.interval) (hlimit : d.limit < d.interval) {during : List Command}
    (hstart : .start ∉ during) (hcancel : .cancel ∉ during) :
    let ts := d.start.background during
    let c := d.start.after during
    Scheduled d c ts ∧ c.calls = d.calls + during.count .refresh + ts.length ∧ Stopped c ts.getLast? := by
  intro ts c
  have h : Punctual d.interval d.limit d.resolver d.now ts c := Punctual.started hpos hlimit hstart hcancel
  exact ⟨h.scheduled hlimit, calls_after d.start during, h.stopped⟩

end Timetable

/-- A discovery that is asked for a refresh at first and then left to its loop, with a slow resolver. -/
theorem timetable_unsteady :
    let d : Discovery := { interval := 20, limit := 10, resolver := unsteady }
    let during : List Command := [.refresh, .advance 40]
    let ts := d.start.background during
    let c := d.start.after during
    0 < d.interval ∧ d.limit < d.interval ∧ .start ∉ during ∧ .cancel ∉ during ∧ ts.map Ticket.begun = [20, 40] ∧
      Scheduled d c ts ∧ c.calls = 3 ∧ Stopped c ts.getLast? := by
  intro d during ts c
  have hstart : .start ∉ during := by decide
  have hcancel : .cancel ∉ during := by decide
  obtain ⟨hscheduled, hcalls, hstopped⟩ :=
    timetable (d := d) (by decide) (by decide) hstart hcancel
  have hbegun : ts.map Ticket.begun = [20, 40] := by
    have htimes : (List.range' 1 ((48 - 0) / 20)).map (fun k => 0 + k * 20) = [20, 40] := by decide
    rw [← htimes]
    exact hscheduled.begun
  have hlength : ts.length = 2 := by
    rw [← List.length_map Ticket.begun, hbegun]
    rfl
  refine ⟨by decide, by decide, hstart, hcancel, hbegun, hscheduled, ?_, hstopped⟩
  rw [hcalls, hlength]
  rfl

/-- Validation accepts no settings with which the loop could fall behind its timetable. -/
theorem timetable_of_validate {read : Log.FilterReader} {s : Settings} (h : s.validate read = .ok ())
    (resolver : Nat → Resolution) {during : List Command} (hstart : .start ∉ during) (hcancel : .cancel ∉ during) :
    let d := ofSettings s resolver
    let ts := d.start.background during
    let c := d.start.after during
    Scheduled d c ts ∧ c.calls = during.count .refresh + ts.length ∧ Stopped c ts.getLast? := by
  intro d ts c
  obtain ⟨hpos, hshorter⟩ := Settings.discovery_times_of_validate h
  have hsecond : 0 < Time.perSecond := by decide
  have hpos : 0 < d.interval := Nat.mul_pos hpos hsecond
  have hlimit : d.limit < d.interval := Nat.mul_lt_mul_of_pos_right hshorter hsecond
  have hpunctual : Punctual d.interval d.limit d.resolver d.now ts c := Punctual.started hpos hlimit hstart hcancel
  have hcalls : c.calls = d.calls + during.count .refresh + ts.length := calls_after d.start during
  have hfresh : d.calls = 0 := rfl
  rw [hfresh, Nat.zero_add] at hcalls
  exact ⟨hpunctual.scheduled hlimit, hcalls, hpunctual.stopped⟩

end ApiGateway.Discovery
