import ApiGateway.Proofs.Registry.Optional
import ApiGateway.Proofs.Text.Octets

/-!
# Which service is taken

The service that is taken is the first one by name, octet by octet (`pick_cases`). Where no two services have one name
there is one such service at most, in whatever order they are listed, and it stays the first one when services with
later names are added; so the URL of a backend is settled by the services alone (`select?_reproducible`).
-/

namespace ApiGateway.Registry

open Discovery

variable {services : List Service} {s : Service} {name : String}

/-- The service has a name, and no service has one that sorts before it. -/
structure IsFirst (services : List Service) (s : Service) (name : String) : Prop where
  mem : s ∈ services
  named : s.name = some name
  le : ∀ other ∈ services, ∀ n, other.name = some n → Text.octets name.toList ≤ Text.octets n.toList

/-- The lesser of two services is one of them, and its name is not after either name. -/
lemma lesser_cases {a b : Service} {n m : String} (ha : a.name = some n) (hb : b.name = some m) :
    ∃ k, (lesser a b).name = some k ∧ k ≤ n ∧ k ≤ m ∧ (lesser a b = a ∨ lesser a b = b) := by
  rw [lesser, ha, hb]
  by_cases hlt : m < n
  · exact ⟨m, by simp [hlt, hb], hlt.le, le_refl m, .inr (if_pos hlt)⟩
  · exact ⟨n, by simp [hlt, ha], le_refl n, not_lt.mp hlt, .inl (if_neg hlt)⟩

/-- What is left of named services is one of them whose name is not after any of theirs. -/
lemma exists_foldl_lesser {a : Service} {n : String} {rest : List Service} (ha : a.name = some n)
    (hrest : ∀ other ∈ rest, ∃ m, other.name = some m) :
    ∃ k, (rest.foldl lesser a).name = some k ∧ rest.foldl lesser a ∈ a :: rest ∧
      ∀ other ∈ a :: rest, ∀ m, other.name = some m → k ≤ m := by
  induction rest generalizing a n with
  | nil =>
    refine ⟨n, ha, List.mem_cons_self, ?_⟩
    intro other hother m hm
    rw [List.mem_singleton.mp hother, ha] at hm
    exact (Option.some.inj hm).le
  | cons b rest ih =>
    obtain ⟨m, hm⟩ := hrest b List.mem_cons_self
    -- the least of all is the least among the rest and the lesser of the first two
    obtain ⟨l, hl, hln, hlm, hwhich⟩ := lesser_cases ha hm
    obtain ⟨k, hk, hmem, hle⟩ := ih hl fun other hother => hrest other (List.mem_cons_of_mem b hother)
    have hkl : k ≤ l := hle _ List.mem_cons_self l hl
    refine ⟨k, hk, ?_, ?_⟩
    · obtain hmem | hmem := List.mem_cons.mp hmem
      · rw [List.foldl_cons, hmem]
        obtain h | h := hwhich
        · rw [h]
          exact List.mem_cons_self
        · rw [h]
          exact List.mem_cons_of_mem a List.mem_cons_self
      · exact List.mem_cons_of_mem a (List.mem_cons_of_mem b hmem)
    · intro other hother i hi
      obtain rfl | hother := List.mem_cons.mp hother
      · rw [ha] at hi
        exact Option.some.inj hi ▸ hkl.trans hln
      · obtain rfl | hother := List.mem_cons.mp hother
        · rw [hm] at hi
          exact Option.some.inj hi ▸ hkl.trans hlm
        · exact hle other (List.mem_cons_of_mem _ hother) i hi

/-- A service is taken if one has a name, and then it is the first one. -/
lemma pick_cases (services : List Service) :
    (pick services = none ∧ ∀ s ∈ services, s.name = none) ∨
      ∃ s name, pick services = some s ∧ IsFirst services s name := by
  have hmem : ∀ s, s ∈ services.filter (fun s => s.name.isSome) ↔ s ∈ services ∧ ∃ n, s.name = some n := by
    intro s
    rw [List.mem_filter, Option.isSome_iff_exists]
  unfold pick
  cases hnamed : services.filter fun s => s.name.isSome with
  | nil =>
    refine .inl ⟨rfl, ?_⟩
    intro s hs
    rw [Option.eq_none_iff_forall_ne_some]
    intro n hn
    have hnone := (hmem s).mpr ⟨hs, n, hn⟩
    rw [hnamed] at hnone
    cases hnone
  | cons a rest =>
    rw [hnamed] at hmem
    obtain ⟨n, hn⟩ := ((hmem a).mp List.mem_cons_self).2
    obtain ⟨k, hk, hfirst, hle⟩ :=
      exists_foldl_lesser hn fun other hother => ((hmem other).mp (List.mem_cons_of_mem a hother)).2
    refine .inr ⟨_, k, rfl, ?_, hk, ?_⟩
    · exact ((hmem _).mp hfirst).1
    · intro other hother m hm
      exact Text.le_iff_octets_le.mp (hle other ((hmem other).mpr ⟨hother, m, hm⟩) m hm)

/-- A first service that shares its name with no other one is the one that is taken. -/
lemma IsFirst.pick (h : IsFirst services s name)
    (halone : ∀ other ∈ services, other.name = some name → other = s) : pick services = some s := by
  obtain ⟨_, hnone⟩ | ⟨picked, name', hpick, hfirst⟩ := pick_cases services
  · have hnamed := h.named
    rw [hnone s h.mem] at hnamed
    cases hnamed
  · have hle := Text.le_iff_octets_le.mpr (h.le picked hfirst.mem name' hfirst.named)
    have hge := Text.le_iff_octets_le.mpr (hfirst.le s h.mem name h.named)
    have hsame : picked.name = some name := by rw [hfirst.named, le_antisymm hge hle]
    rw [hpick, halone picked hfirst.mem hsame]

/-! ### Services with names of their own -/

/-- Where no two services have one name, a name tells which service it is. -/
lemma eq_of_name_eq (hdistinct : (services.filterMap Service.name).Nodup) {other : Service} (hs : s ∈ services)
    (hother : other ∈ services) (hname : s.name = some name) (hsame : other.name = some name) : other = s := by
  induction services with
  | nil => cases hs
  | cons a services ih =>
    have hrest : (services.filterMap Service.name).Nodup :=
      List.Nodup.sublist ((List.sublist_cons_self a services).filterMap Service.name) hdistinct
    have hhead : ∀ b ∈ services, a.name = some name → b.name ≠ some name := by
      intro b hb ha hbname
      rw [List.filterMap_cons_some ha, List.nodup_cons] at hdistinct
      exact hdistinct.1 (List.mem_filterMap.mpr ⟨b, hb, hbname⟩)
    obtain rfl | hs' := List.mem_cons.mp hs
    · obtain rfl | hother' := List.mem_cons.mp hother
      · rfl
      · exact absurd hsame (hhead other hother' hname)
    · obtain rfl | hother' := List.mem_cons.mp hother
      · exact absurd hname (hhead s hs' hsame)
      · exact ih hrest hs' hother'

/-- With services added whose names come after that of the first one, it is still the one that is taken. -/
lemma IsFirst.pick_of_later (h : IsFirst services s name) (hdistinct : (services.filterMap Service.name).Nodup)
    {others more : List Service}
    (hlater : ∀ o ∈ others, ∃ n, o.name = some n ∧ Text.octets name.toList < Text.octets n.toList)
    (hmore : more.Perm (services ++ others)) : Registry.pick more = some s := by
  have hcases : ∀ other ∈ more, other ∈ services ∨ other ∈ others := fun other hother =>
    List.mem_append.mp (hmore.mem_iff.mp hother)
  have hfirst : IsFirst more s name := by
    refine ⟨hmore.mem_iff.mpr (List.mem_append_left others h.mem), h.named, ?_⟩
    intro other hother n hn
    obtain hother | hother := hcases other hother
    · exact h.le other hother n hn
    · obtain ⟨n', hn', hlt⟩ := hlater other hother
      cases hn.symm.trans hn'
      exact List.le_of_lt hlt
  apply hfirst.pick
  intro other hother hname
  obtain hother | hother := hcases other hother
  · exact eq_of_name_eq hdistinct h.mem hother h.named hname
  · obtain ⟨n, hn, hlt⟩ := hlater other hother
    cases hname.symm.trans hn
    exact absurd hlt (List.lt_irrefl _)

/-- Services with names of their own may be listed in any order. -/
lemma pick_perm (hdistinct : (services.filterMap Service.name).Nodup) {shuffled : List Service}
    (h : shuffled.Perm services) : pick shuffled = pick services := by
  obtain ⟨hpick, hnone⟩ | ⟨s, name, hpick, hfirst⟩ := pick_cases services
  · obtain ⟨hpick', _⟩ | ⟨s, name, _, hfirst⟩ := pick_cases shuffled
    · rw [hpick, hpick']
    · have hnamed := hfirst.named
      rw [hnone s (h.mem_iff.mp hfirst.mem)] at hnamed
      cases hnamed
  · rw [hpick]
    have hnone : ∀ o ∈ ([] : List Service), ∃ n, o.name = some n ∧ Text.octets name.toList < Text.octets n.toList :=
      nofun
    apply hfirst.pick_of_later hdistinct hnone
    rwa [List.append_nil]

/-! ### The URL of a backend -/

variable {backend : Backend} {selector home domain : String}

/-- Services of which the same one is picked are selected from alike. -/
lemma select?_congr {others : List Service} (h : pick others = pick services) (required : Bool) :
    select? others backend selector required home domain = select? services backend selector required home domain := by
  rw [select?, h, ← select?]

/-- Where no service is picked a required backend fails and an optional one is absent. -/
lemma select?_of_none (backend : Backend) (selector : String) (h : pick services = none) :
    select? services backend selector true home domain = .error (.noMatch backend selector) ∧
      select? services backend selector false home domain = .ok none := by
  rw [select?, select?, h]
  exact ⟨rfl, rfl⟩

/-- A backend that has to be there has the URL of the service or what is wrong with it, and any other one has the URL or
is absent. -/
lemma select?_of_pick (backend : Backend) (selector : String) (h : pick services = some s) :
    select? services backend selector true home domain = (serviceUrl? s home domain backend).map some ∧
      select? services backend selector false home domain = .ok (serviceUrl? s home domain backend).toOption := by
  rw [select?, select?, h]
  cases hurl : serviceUrl? s home domain backend with
  | error e => exact ⟨by simp [hurl, Except.map], by simp [hurl, Except.toOption]⟩
  | ok url => exact ⟨by simp [hurl, Except.map], by simp [hurl, Except.toOption]⟩

/-- Services of which no two have one name give the URL of a backend in whatever order they are listed, and those
without a name do not count. It is the URL of the first one by name, octet by octet, and adding services with later names
makes no difference. A backend that has to be there is never absent, and any other one is never an error; both have the same
URL, if they have one. -/
theorem select?_reproducible (hdistinct : (services.filterMap Service.name).Nodup) (backend : Backend)
    (selector home domain : String) :
    (∀ shuffled, shuffled.Perm services → ∀ required,
        select? shuffled backend selector required home domain =
          select? services backend selector required home domain) ∧
      (∀ s name, IsFirst services s name →
        select? services backend selector true home domain = (serviceUrl? s home domain backend).map some ∧
          select? services backend selector false home domain = .ok (serviceUrl? s home domain backend).toOption ∧
          ∀ others more, (∀ o ∈ others, ∃ n, o.name = some n ∧ Text.octets name.toList < Text.octets n.toList) →
            more.Perm (services ++ others) → ∀ required,
              select? more backend selector required home domain =
                select? services backend selector required home domain) ∧
      ((∃ s name, IsFirst services s name) ∨
        (∀ s ∈ services, s.name = none) ∧
          select? services backend selector true home domain = .error (.noMatch backend selector) ∧
          select? services backend selector false home domain = .ok none) ∧
      select? services backend selector true home domain ≠ .ok none ∧
      (∃ found, select? services backend selector false home domain = .ok found) ∧
      ∀ url, select? services backend selector true home domain = .ok (some url) ↔
        select? services backend selector false home domain = .ok (some url) := by
  refine ⟨?_, ?_, ?_, ?_⟩
  · intro shuffled hperm
    exact select?_congr (pick_perm hdistinct hperm)
  · intro s name hfirst
    -- no other service has that name, so it is the one that is picked
    have hpick : pick services = some s :=
      hfirst.pick fun other hother hname => eq_of_name_eq hdistinct hfirst.mem hother hfirst.named hname
    obtain ⟨hrequired, hoptional⟩ := select?_of_pick backend selector hpick
    refine ⟨hrequired, hoptional, ?_⟩
    intro others more hlater hmore
    apply select?_congr
    rw [hfirst.pick_of_later hdistinct hlater hmore, hpick]
  · obtain ⟨hpick, hnone⟩ | ⟨s, name, _, hfirst⟩ := pick_cases services
    · exact .inr ⟨hnone, select?_of_none backend selector hpick⟩
    · exact .inl ⟨s, name, hfirst⟩
  -- being required or not makes a difference only where no URL is found
  · cases hpick : pick services with
    | none =>
      obtain ⟨hrequired, hoptional⟩ := select?_of_none backend selector hpick
      rw [hrequired, hoptional]
      simp
    | some s =>
      obtain ⟨hrequired, hoptional⟩ := select?_of_pick backend selector hpick
      rw [hrequired, hoptional]
      cases serviceUrl? s home domain backend with
      | error e => simp [Except.map, Except.toOption]
      | ok url => simp [Except.map, Except.toOption]

/-- The service of the primary backend in a namespace of its own. -/
def primaryService : Service :=
  ⟨some "metrics-a", some "prod", [⟨some "grpc", 9000⟩, ⟨some "http", 8000⟩]⟩

/-- This service after one without a name and one with a later name. -/
def crowd : List Service :=
  [⟨none, none, [⟨none, 1⟩]⟩, ⟨some "metrics-b", none, []⟩, primaryService]

/-- A service with a later name than either. -/
def lateService : Service :=
  ⟨some "metrics-é", none, []⟩

/-- The other way round, and with one more service, they give the same URL. -/
theorem select?_reproducible_crowd :
    (crowd.filterMap Service.name).Nodup ∧ IsFirst crowd primaryService "metrics-a" ∧
      ∃ url, serviceUrl? primaryService "default" "cluster.local" .primary = .ok url ∧
        select? crowd .primary "app=metrics" true "default" "cluster.local" = .ok (some url) ∧
        select? crowd.reverse .primary "app=metrics" false "default" "cluster.local" = .ok (some url) ∧
        select? (lateService :: crowd) .primary "app=metrics" true "default" "cluster.local" = .ok (some url) := by
  have hdistinct : (crowd.filterMap Service.name).Nodup := by decide
  have hfirst : IsFirst crowd primaryService "metrics-a" := ⟨by decide, rfl, by decide +kernel⟩
  have hurl : (serviceUrl? primaryService "default" "cluster.local" .primary).isOk = true := by decide +kernel
  cases hservice : serviceUrl? primaryService "default" "cluster.local" .primary with
  | error e =>
    rw [hservice] at hurl
    cases hurl
  | ok url =>
    obtain ⟨hperm, hpicked, _, _, _, hsame⟩ :=
      select?_reproducible hdistinct .primary "app=metrics" "default" "cluster.local"
    obtain ⟨hrequired, _, hadded⟩ := hpicked _ _ hfirst
    rw [hservice] at hrequired
    refine ⟨hdistinct, hfirst, url, rfl, hrequired, ?_, ?_⟩
    · rw [hperm _ crowd.reverse_perm]
      exact (hsame url).mp hrequired
    · have hlater : ∀ o ∈ [lateService], ∃ n, o.name = some n ∧
          Text.octets "metrics-a".toList < Text.octets n.toList :=
        List.forall_mem_singleton.mpr ⟨"metrics-é", rfl, by decide +kernel⟩
      rw [hadded [lateService] (lateService :: crowd) hlater (by decide)]
      exact hrequired

end ApiGateway.Registry
