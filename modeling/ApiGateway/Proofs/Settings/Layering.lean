import ApiGateway.Proofs.Http.Uri
import ApiGateway.Proofs.Settings.Variables

/-!
# Variables win over the file, key by key

Settings are loaded from a file with variables over it. Each one is then what the variables alone make it if there is
a variable for it, and otherwise what the file alone makes it (`load_layered`).

The settings are listed as `slots`, each with its key and the way its entry is read. They are all there is to settings
(`eq_of_slots`), and loading reads each of them from its key alone (`get_of_ofLayers?`). What remains is what the layers
have under a key. The table of the variables is flat, so that is the value of its variable, whatever is below
(`IsFlat.get?_add_of_mem`), or else what is below (`IsFlat.get?_add_of_not_mem`).
-/

namespace ApiGateway.Settings

/-! ### The settings one by one -/

/-- One of the settings: what it holds, its key, what settings have in it, and what its entry is read as. -/
structure Slot where
  Content : Type
  key : String
  get : Settings → Content
  read : Entry → Except Fault Content

/-- All of the settings. -/
def slots : List Slot := [
  ⟨String, "listen_host", listenHost, Entry.text⟩,
  ⟨Port, "port", port, Entry.port⟩,
  ⟨String, "log_level", logLevel, Entry.text⟩,
  ⟨Log.Format, "log_format", logFormat, Entry.format⟩,
  ⟨Bool, "auth_enabled", authEnabled, Entry.bool⟩,
  ⟨Option String, "auth_token", authToken, Entry.optional Entry.text⟩,
  ⟨Bool, "discovery_enabled", discoveryEnabled, Entry.bool⟩,
  ⟨String, "discovery_namespace", discoveryNamespace, Entry.text⟩,
  ⟨String, "primary_selector", primarySelector, Entry.text⟩,
  ⟨String, "analyzer_selector", analyzerSelector, Entry.text⟩,
  ⟨Bool, "analyzer_required", analyzerRequired, Entry.bool⟩,
  ⟨Nat, "discovery_interval_secs", discoveryIntervalSecs, Entry.nat⟩,
  ⟨Nat, "discovery_timeout_secs", discoveryTimeoutSecs, Entry.nat⟩,
  ⟨String, "cluster_domain", clusterDomain, Entry.text⟩,
  ⟨String, "primary_url", primaryUrl, Entry.text⟩,
  ⟨Option String, "analyzer_url", analyzerUrl, Entry.optional Entry.text⟩,
  ⟨Nat, "upstream_timeout_secs", backendTimeoutSecs, Entry.nat⟩,
  ⟨Nat, "upstream_connect_timeout_secs", backendConnectTimeoutSecs, Entry.nat⟩,
  ⟨Bool, "rate_limit_enabled", rateLimitEnabled, Entry.bool⟩,
  ⟨Number.Binary64, "rate_limit_rps", rateLimitRps, Entry.float⟩,
  ⟨Nat, "rate_limit_burst", rateLimitBurst, Entry.word 32⟩,
  ⟨Option Number.Binary64, "rate_limit_client_rps", rateLimitClientRps, Entry.optional Entry.float⟩,
  ⟨Option Nat, "rate_limit_client_burst", rateLimitClientBurst, Entry.optional (Entry.word 32)⟩,
  ⟨Nat, "rate_limit_max_clients", rateLimitMaxClients, Entry.nat⟩,
  ⟨Nat, "rate_limit_client_idle_secs", rateLimitClientIdleSecs, Entry.nat⟩,
  ⟨Nat, "shutdown_timeout_secs", shutdownTimeoutSecs, Entry.nat⟩]

/-- What the layers give for the slot. -/
def Slot.ofLayers? (slot : Slot) (layers : Layers) : Except Mismatch slot.Content :=
  field layers slot.key slot.read (slot.get {})

/-- A slot is read from its key alone. -/
lemma Slot.ofLayers?_congr {slot : Slot} {layers other : Layers} (h : layers.get? slot.key = other.get? slot.key) :
    slot.ofLayers? layers = slot.ofLayers? other := by
  simp only [Slot.ofLayers?, field, h]

/-- Settings that agree in every slot are the same. -/
lemma eq_of_slots {s t : Settings} (h : ∀ slot ∈ slots, slot.get s = slot.get t) : s = t := by
  simp only [slots, List.forall_mem_cons] at h
  cases s
  cases t
  simp_all

/-- Settings have in each slot what the layers give for it. -/
lemma get_of_ofLayers? {layers : Layers} {s : Settings} (h : ofLayers? layers = .ok s) :
    ∀ slot ∈ slots, slot.ofLayers? layers = .ok (slot.get s) := by
  simp only [ofLayers?, bind_eq_ok_iff] at h
  -- one equation for each slot, and the last one says what the settings are
  repeat obtain ⟨_, _, h⟩ := h
  simp only [slots, List.forall_mem_cons, List.not_mem_nil, false_imp_iff, implies_true, and_true]
  and_intros
  all_goals assumption

/-- Settings have in a slot what the slot reads of the layers. -/
lemma get_eq_of_ofLayers? {layers : Layers} {s : Settings} (h : ofLayers? layers = .ok s) {slot : Slot}
    (hslot : slot ∈ slots) {a : slot.Content} (ha : slot.ofLayers? layers = .ok a) : slot.get s = a :=
  Except.ok.inj ((get_of_ofLayers? h slot hslot).symm.trans ha)

/-- The layers make settings if they give something for each slot. -/
lemma exists_of_slots {layers : Layers} (h : ∀ slot ∈ slots, ∃ a, slot.ofLayers? layers = .ok a) :
    ∃ s, ofLayers? layers = .ok s := by
  simp only [slots, List.forall_mem_cons, Slot.ofLayers?] at h
  repeat obtain ⟨⟨_, _⟩, h⟩ := h
  simp only [ofLayers?, *]
  exact ⟨_, rfl⟩

/-- Layers that have the same under every key make the same settings. -/
lemma ofLayers?_congr {layers other : Layers} (h : ∀ slot ∈ slots, layers.get? slot.key = other.get? slot.key)
    {s : Settings} (hs : ofLayers? layers = .ok s) : ofLayers? other = .ok s := by
  have hget : ∀ slot ∈ slots, slot.ofLayers? other = .ok (slot.get s) :=
    fun slot hslot => (Slot.ofLayers?_congr (h slot hslot)).symm.trans (get_of_ofLayers? hs slot hslot)
  obtain ⟨t, ht⟩ := exists_of_slots fun slot hslot => ⟨_, hget slot hslot⟩
  have heq : t = s := eq_of_slots fun slot hslot => get_eq_of_ofLayers? ht hslot (hget slot hslot)
  rw [ht, heq]

/-- The key of a slot leads to nothing but itself. -/
lemma ofKey_slot {slot : Slot} (h : slot ∈ slots) : KeyPath.ofKey slot.key = { root := slot.key } := by
  have hkeys : ∀ key ∈ slots.map Slot.key, KeyPath.ofKey key = { root := key } := by decide +kernel
  exact hkeys slot.key (List.mem_map_of_mem h)

/-! ### What the layers have under a key -/

/-- Holds for tables that set each of their keys once and nothing below it: the keys lead to nothing but
themselves, and the values are no tables. -/
structure IsFlat (table : Table) : Prop where
  nodup : (table.map Prod.fst).Nodup
  plain : ∀ e ∈ table, KeyPath.ofKey e.1 = { root := e.1 }
  leaf : ∀ e ∈ table, e.2.isTable = false

/-- The order of a table does not matter to its being flat. -/
lemma IsFlat.perm {table other : Table} (h : IsFlat table) (hperm : table.Perm other) : IsFlat other where
  nodup := (hperm.map Prod.fst).nodup_iff.mp h.nodup
  plain e he := h.plain e (hperm.mem_iff.mpr he)
  leaf e he := h.leaf e (hperm.mem_iff.mpr he)

/-- A flat table stays so without its first entry. -/
lemma IsFlat.tail {e : String × Value} {rest : Table} (h : IsFlat (e :: rest)) : IsFlat rest where
  nodup := (List.nodup_cons.mp h.nodup).2
  plain e' he' := h.plain e' (List.mem_cons_of_mem e he')
  leaf e' he' := h.leaf e' (List.mem_cons_of_mem e he')

section

variable {origin : Origin} {table other : Table} {key : String}

/-- A table leaves the keys alone that none of its paths begins with. -/
lemma get?_add_of_absent (h : ∀ e ∈ table, (KeyPath.ofKey e.1).root ≠ key) (below : Layers) :
    (below.add origin table).get? key = below.get? key := by
  induction table generalizing below with
  | nil => rfl
  | cons e rest ih =>
    have hrest := ih (fun e' he' => h e' (List.mem_cons_of_mem e he')) (below.set origin e)
    exact hrest.trans (Layers.get?_set_of_ne (h e List.mem_cons_self).symm origin e.2 below)

/-- A flat table leaves the keys alone that it does not have. -/
lemma IsFlat.get?_add_of_not_mem (h : IsFlat table) (hkey : ∀ e ∈ table, e.1 ≠ key) (below : Layers) :
    (below.add origin table).get? key = below.get? key := by
  refine get?_add_of_absent (fun e he => ?_) below
  rw [h.plain e he]
  exact hkey e he

/-- A flat table puts its value under each of its keys, whatever is below. -/
lemma IsFlat.get?_add_of_mem {value : Value} (h : IsFlat table) (hmem : (key, value) ∈ table) (below : Layers) :
    (below.add origin table).get? key = some ⟨value, some origin⟩ := by
  induction table generalizing below with
  | nil => cases hmem
  | cons e rest ih =>
    cases hmem with
    | head =>
      have hrest : ∀ e' ∈ rest, e'.1 ≠ key :=
        fun e' he' heq => (List.nodup_cons.mp h.nodup).1 (List.mem_map.mpr ⟨e', he', heq⟩)
      have hset := Layers.get?_set_self (h.plain _ List.mem_cons_self) (h.leaf _ List.mem_cons_self) origin below
      exact (h.tail.get?_add_of_not_mem hrest _).trans hset
    | tail _ hmem => exact ih h.tail hmem (below.set origin e)

/-- The order of a flat table does not matter. -/
lemma IsFlat.get?_add_perm (h : IsFlat table) (hperm : table.Perm other) (below : Layers) (key : String) :
    (below.add origin table).get? key = (below.add origin other).get? key := by
  by_cases hkey : ∃ value, (key, value) ∈ table
  · obtain ⟨value, hmem⟩ := hkey
    rw [h.get?_add_of_mem hmem, (h.perm hperm).get?_add_of_mem (hperm.mem_iff.mp hmem)]
  · have habsent : ∀ e ∈ table, e.1 ≠ key := by
      rintro ⟨_, value⟩ he rfl
      exact hkey ⟨value, he⟩
    rw [h.get?_add_of_not_mem habsent,
      (h.perm hperm).get?_add_of_not_mem fun e he => habsent e (hperm.mem_iff.mpr he)]

end

/-! ### What variables set -/

/-- Holds if there is a variable for the key. -/
def IsSet (environment : List (String × String)) (key : String) : Prop :=
  ∃ v ∈ environment, keyOfVariable? v.1 = some key

/-- No two of the variables have names that differ in case only. -/
def DistinctNames (environment : List (String × String)) : Prop :=
  (environment.map fun v => Text.lowerCase v.1.toList).Nodup

/-- The variables are for one of the settings each, or for something else than the gateway. -/
def ForSlots (environment : List (String × String)) : Prop :=
  ∀ v ∈ environment, ∀ key ∈ keyOfVariable? v.1, ∃ slot ∈ slots, slot.key = key

/-- The variables for the gateway. -/
def forGateway (environment : List (String × String)) : List (String × String) :=
  environment.filter fun v => (keyOfVariable? v.1).isSome

instance (environment : List (String × String)) (key : String) : Decidable (IsSet environment key) :=
  inferInstanceAs (Decidable (∃ v ∈ environment, keyOfVariable? v.1 = some key))

instance (environment : List (String × String)) : Decidable (DistinctNames environment) :=
  inferInstanceAs (Decidable (List.Nodup _))

instance (environment : List (String × String)) : Decidable (ForSlots environment) :=
  inferInstanceAs (Decidable (∀ v ∈ environment, ∀ key ∈ keyOfVariable? v.1, ∃ slot ∈ slots, slot.key = key))

section

variable {environment : List (String × String)}

/-- A variable sets a key exactly if its name is the key after the lead, in small letters. -/
lemma keyOfVariable?_eq_some_iff {name key : String} :
    keyOfVariable? name = some key ↔ Text.lowerCase name.toList = variableLead.toList ++ key.toList := by
  simp only [keyOfVariable?, Option.map_eq_some_iff, Text.after?_eq_some_iff]
  constructor
  · rintro ⟨rest, h, rfl⟩
    rw [h, String.toList_ofList]
  · intro h
    exact ⟨key.toList, h, String.ofList_toList⟩

/-- The entries of the environment are those of its variables that set a key. -/
lemma mem_tableOfVariables {e : String × Value} :
    e ∈ tableOfVariables environment ↔
      ∃ v ∈ environment, keyOfVariable? v.1 = some e.1 ∧ valueOfVariable v.2 = e.2 := by
  obtain ⟨key, value⟩ := e
  simp [tableOfVariables]

/-- The variables for the gateway are all that settings are made of. -/
lemma tableOfVariables_forGateway (environment : List (String × String)) :
    tableOfVariables (forGateway environment) = tableOfVariables environment := by
  rw [tableOfVariables, tableOfVariables, forGateway, List.filterMap_filter]
  refine List.filterMap_congr fun v _ => ?_
  cases h : keyOfVariable? v.1 with
  | none => simp [h]
  | some key => simp [h]

/-- Variables whose names differ in more than case are for different keys. -/
lemma DistinctNames.nodup (h : DistinctNames environment) : ((tableOfVariables environment).map Prod.fst).Nodup := by
  rw [DistinctNames, List.Nodup, List.pairwise_map] at h
  rw [List.Nodup, List.pairwise_map, tableOfVariables, List.pairwise_filterMap]
  refine h.imp fun {v w} hne e he e' he' heq => ?_
  obtain ⟨key, hkey, rfl⟩ := Option.map_eq_some_iff.mp he
  obtain ⟨key', hkey', rfl⟩ := Option.map_eq_some_iff.mp he'
  obtain rfl : key = key' := heq
  exact hne ((keyOfVariable?_eq_some_iff.mp hkey).trans (keyOfVariable?_eq_some_iff.mp hkey').symm)

/-- Variables with names of their own that set slots make up a flat table. -/
lemma isFlat_tableOfVariables (hdistinct : DistinctNames environment) (hslots : ForSlots environment) :
    IsFlat (tableOfVariables environment) where
  nodup := hdistinct.nodup
  plain e he := by
    obtain ⟨v, hv, hkey, _⟩ := mem_tableOfVariables.mp he
    obtain ⟨slot, hslot, heq⟩ := hslots v hv e.1 hkey
    rw [← heq]
    exact ofKey_slot hslot
  leaf e he := by
    obtain ⟨v, _, _, hvalue⟩ := mem_tableOfVariables.mp he
    rw [← hvalue]
    exact (exists_text_valueOfVariable v.2 none).1

end

/-! ### A file below the variables -/

/-- What a file and variables lay down. -/
def layersOf (file : Option Source) (environment : List (String × String)) : Layers :=
  Layers.add .environment (file.elim [] fun f => Layers.add f.origin [] f.table) (tableOfVariables environment)

/-- Settings are loaded exactly if the file is found and the layers are read as them. -/
lemma load_eq_ok_iff {d : Directory} {path : Option String} {environment : List (String × String)} {s : Settings} :
    load d path environment = .ok s ↔
      ∃ file, source? d path = .ok file ∧ ofLayers? (layersOf file environment) = .ok s := by
  have hsources : ∀ file, ofSources? file environment = ofLayers? (layersOf file environment) := by
    rintro (_ | f)
    · rfl
    · rfl
  simp only [load, bind_eq_ok_iff, hsources]
  refine exists_congr fun file => and_congr_right fun _ => ?_
  cases ofLayers? (layersOf file environment) with
  | error m => simp [Except.mapError]
  | ok t => simp [Except.mapError]

section

variable {environment : List (String × String)} {key : String}

/-- A key that has a variable has the same with a file and without. -/
lemma get?_layersOf_of_isSet (hflat : IsFlat (tableOfVariables environment)) (h : IsSet environment key)
    (file other : Option Source) : (layersOf file environment).get? key = (layersOf other environment).get? key := by
  obtain ⟨v, hv, hkey⟩ := h
  have hmem : (key, valueOfVariable v.2) ∈ tableOfVariables environment := mem_tableOfVariables.mpr ⟨v, hv, hkey, rfl⟩
  rw [layersOf, layersOf, hflat.get?_add_of_mem hmem, hflat.get?_add_of_mem hmem]

/-- A key that has no variable has the same with variables and without. -/
lemma get?_layersOf_of_not_isSet (hflat : IsFlat (tableOfVariables environment)) (h : ¬ IsSet environment key)
    (file : Option Source) : (layersOf file environment).get? key = (layersOf file []).get? key := by
  refine hflat.get?_add_of_not_mem (fun e he heq => ?_) _
  obtain ⟨v, hv, hkey, _⟩ := mem_tableOfVariables.mp he
  exact h ⟨v, hv, hkey.trans (congrArg some heq)⟩

/-- A slot has its default if neither a variable nor the file has its key. -/
lemma ofLayers?_of_absent {slot : Slot} {file : Option Source}
    (h : ∀ f ∈ file, ∀ e ∈ f.table, (KeyPath.ofKey e.1).root ≠ slot.key) :
    slot.ofLayers? (layersOf file []) = .ok (slot.get {}) := by
  refine field_of_unset ?_ slot.read (slot.get {})
  cases file with
  | none => rfl
  | some f => exact get?_add_of_absent (h f rfl) []

end

/-- Settings from a file with variables over it can be loaded if those from the file and those from the variables can.
Each of them is then what the variables alone make it if there is a variable for it, and what the file alone makes it
otherwise; it has its default if the file has nothing for it either. The order of the variables does not matter, nor do
those that are not for the gateway. -/
theorem load_layered {d : Directory} {path : Option String} {environment : List (String × String)}
    (hdistinct : DistinctNames environment) (hslots : ForSlots environment) {file overrides : Settings}
    (hfile : load d path [] = .ok file) (hover : load d none environment = .ok overrides) :
    ∃ both, load d path environment = .ok both ∧
      (∀ slot ∈ slots,
        (IsSet environment slot.key → slot.get both = slot.get overrides) ∧
        (¬ IsSet environment slot.key → slot.get both = slot.get file) ∧
        (¬ IsSet environment slot.key →
          (∀ f, source? d path = .ok (some f) → ∀ e ∈ f.table, (KeyPath.ofKey e.1).root ≠ slot.key) →
          slot.get both = slot.get {})) ∧
      ∀ environment', (forGateway environment).Perm (forGateway environment') →
        load d path environment' = .ok both := by
  obtain ⟨source, hsource, hfile⟩ := load_eq_ok_iff.mp hfile
  obtain ⟨nowhere, _, hover⟩ := load_eq_ok_iff.mp hover
  have hflat := isFlat_tableOfVariables hdistinct hslots
  have hset : ∀ slot ∈ slots, IsSet environment slot.key →
      slot.ofLayers? (layersOf source environment) = .ok (slot.get overrides) := by
    intro slot hslot h
    rw [Slot.ofLayers?_congr (get?_layersOf_of_isSet hflat h source nowhere)]
    exact get_of_ofLayers? hover slot hslot
  have hunset : ∀ slot ∈ slots, ¬ IsSet environment slot.key →
      slot.ofLayers? (layersOf source environment) = .ok (slot.get file) := by
    intro slot hslot h
    rw [Slot.ofLayers?_congr (get?_layersOf_of_not_isSet hflat h source)]
    exact get_of_ofLayers? hfile slot hslot
  -- each slot is read as one of the two read it, so all of them can be
  obtain ⟨both, hboth⟩ : ∃ both, ofLayers? (layersOf source environment) = .ok both := by
    refine exists_of_slots fun slot hslot => ?_
    by_cases h : IsSet environment slot.key
    · exact ⟨_, hset slot hslot h⟩
    · exact ⟨_, hunset slot hslot h⟩
  refine ⟨both, load_eq_ok_iff.mpr ⟨source, hsource, hboth⟩, fun slot hslot => ⟨?_, ?_, ?_⟩, ?_⟩
  · exact fun h => get_eq_of_ofLayers? hboth hslot (hset slot hslot h)
  · exact fun h => get_eq_of_ofLayers? hboth hslot (hunset slot hslot h)
  · intro h habsent
    apply get_eq_of_ofLayers? hboth hslot
    rw [Slot.ofLayers?_congr (get?_layersOf_of_not_isSet hflat h source)]
    exact ofLayers?_of_absent fun f hf => habsent f (hsource.trans (congrArg Except.ok hf))
  · intro environment' hperm
    have htable : (tableOfVariables environment).Perm (tableOfVariables environment') := by
      rw [← tableOfVariables_forGateway environment, ← tableOfVariables_forGateway environment']
      exact hperm.filterMap _
    exact load_eq_ok_iff.mpr
      ⟨source, hsource, ofLayers?_congr (fun slot _ => hflat.get?_add_perm htable _ slot.key) hboth⟩

/-- A file with a port and a token. -/
def tokenFile : Directory :=
  [("gateway.json", "\x7b\"port\": 9090, \"auth_token\": \"from-file\"\x7d".toUTF8.toList)]

/-- Variables for the port and for authentication, and one for something else. -/
def portVariables : List (String × String) :=
  [("MERIDIAN_PORT", "7070"), ("UNRELATED_PORT", "1"), ("MERIDIAN_AUTH_ENABLED", "true")]

/-- The port is that of the variable, the token that of the file. -/
theorem load_layered_token :
    DistinctNames portVariables ∧ ForSlots portVariables ∧
      load tokenFile (some "gateway.json") [] = .ok { port := 9090, authToken := some "from-file" } ∧
      load tokenFile none portVariables = .ok { port := 7070, authEnabled := true } ∧
      ∃ both, load tokenFile (some "gateway.json") portVariables = .ok both ∧
        both.port = 7070 ∧ both.authEnabled = true ∧ both.authToken = some "from-file" ∧ both.logLevel = "info" ∧
        load tokenFile (some "gateway.json") (forGateway portVariables) = .ok both := by
  have hdistinct : DistinctNames portVariables := by decide +kernel
  have hforSlots : ForSlots portVariables := by decide +kernel
  have hfile : load tokenFile (some "gateway.json") [] = .ok { port := 9090, authToken := some "from-file" } := by
    decide +kernel
  have hover : load tokenFile none portVariables = .ok { port := 7070, authEnabled := true } := by decide +kernel
  obtain ⟨both, hboth, hslots, hothers⟩ := load_layered hdistinct hforSlots hfile hover
  have hport := (hslots ⟨Port, "port", port, Entry.port⟩ (by simp [slots])).1 (by decide +kernel)
  have henabled := (hslots ⟨Bool, "auth_enabled", authEnabled, Entry.bool⟩ (by simp [slots])).1 (by decide +kernel)
  have htoken := (hslots ⟨Option String, "auth_token", authToken, Entry.optional Entry.text⟩ (by simp [slots])).2.1
    (by decide +kernel)
  have hlevel := (hslots ⟨String, "log_level", logLevel, Entry.text⟩ (by simp [slots])).2.1 (by decide +kernel)
  have hsame : (forGateway portVariables).Perm (forGateway (forGateway portVariables)) := by decide +kernel
  exact ⟨hdistinct, hforSlots, hfile, hover, both, hboth, hport, henabled, htoken, hlevel,
    hothers _ hsame⟩

end ApiGateway.Settings
