import ApiGateway.Limiter.Bucket

/-!
# The request limiter

A request draws first from a bucket that all requests share and then from the bucket of its client. The
buckets of clients stand in a table of bounded size. Idle clients are swept from it when it is full or
when no sweep was made for the idle time, and a new client at a full table takes the place of a client that
was seen least recently. Of several such clients the one goes that the table comes to first, and the order
in which it goes through its entries may be any (`Listing`).
-/

namespace ApiGateway.Limiter

/-- The key of a client. -/
abbrev Client := List Char

/-- How requests are to be limited: the rate of all requests and that of each client, how many clients the
table may hold, and the time in nanoseconds after which a client may be forgotten. -/
structure Settings where
  shared : Rate
  client : Rate
  maxClients : Nat
  idle : Nat
  deriving DecidableEq, Repr

/-- Which bucket refused a request, the one of all requests or the one of the client. -/
inductive Scope where
  | shared
  | client
  deriving DecidableEq, Repr

namespace Scope

/-- The name of the scope in metrics. -/
def name : Scope → String
  | .shared => "global"
  | .client => "client"

end Scope

/-- What is decided about a request: it may pass, or it is refused and may come again after the wait. -/
inductive Decision where
  | allowed
  | limited (scope : Scope) (wait : Nat)
  deriving DecidableEq, Repr

namespace Decision

/-- Holds if the request may pass. -/
def isAllowed : Decision → Bool
  | .allowed => true
  | .limited .. => false

/-- The decision for a wait at a bucket. -/
def ofWait (scope : Scope) (wait : Nat) : Decision :=
  if wait = 0 then .allowed else .limited scope wait

end Decision

/-- What the table holds of a client: its bucket, and when it was seen last. -/
structure Entry where
  client : Client
  bucket : Bucket
  lastSeen : Nat
  deriving DecidableEq, Repr

/-- The order in which a table goes through its entries at each of its evictions: any order, and another one
the next time. -/
structure Listing where
  list : Nat → List Entry → List Entry
  perm : ∀ n entries, (list n entries).Perm entries

namespace Listing

/-- The entries in the order in which they were made. -/
def made : Listing :=
  ⟨fun _ entries => entries, fun _ entries => .refl entries⟩

end Listing

/-- The table of clients, each at most once. The entries stand in the order in which they were made, on
which no decision depends. -/
structure Table where
  entries : List Entry
  lastSweep : Nat
  evictions : Nat
  deriving DecidableEq, Repr

namespace Table

/-- How many clients there are. -/
def size (t : Table) : Nat :=
  t.entries.length

/-- The entry of a client. -/
def find? (t : Table) (client : Client) : Option Entry :=
  t.entries.find? fun e => e.client = client

/-- Drops the clients that have been idle for longer than the idle time. -/
def sweep (idle now : Nat) (t : Table) : Table :=
  { t with
    entries := t.entries.filter fun e => now - e.lastSeen ≤ idle
    lastSweep := now }

/-- The first of the entries that were seen least recently. -/
def leastRecent? : List Entry → Option Entry
  | [] => none
  | e :: rest =>
    match leastRecent? rest with
    | none => some e
    | some other => if e.lastSeen ≤ other.lastSeen then some e else some other

/-- Drops the client that the table comes to first of those that were seen least recently. -/
def evict (listing : Listing) (t : Table) : Table :=
  match leastRecent? (listing.list t.evictions t.entries) with
  | none => t
  | some oldest =>
    { t with
      entries := t.entries.filter fun e => e.client ≠ oldest.client
      evictions := t.evictions + 1 }

/-- Sweeps if the table is full or the last sweep is long ago, and then, if the table is still full,
makes room for the client unless it is there. -/
def makeRoom (listing : Listing) (maxClients idle now : Nat) (client : Client) (t : Table) : Table :=
  let t := if maxClients ≤ t.size || idle ≤ now - t.lastSweep then t.sweep idle now else t
  if maxClients ≤ t.size && (t.find? client).isNone then t.evict listing else t

/-- With the given entry in the place of its client's, or at the end. -/
def put (e : Entry) (t : Table) : Table :=
  if (t.find? e.client).isSome then
    { t with entries := t.entries.map fun old => if old.client = e.client then e else old }
  else { t with entries := t.entries ++ [e] }

/-- The bucket of a client, a new one if it has none. -/
def bucket (now : Nat) (client : Client) (t : Table) : Bucket :=
  ((t.find? client).map Entry.bucket).getD (Bucket.new now)

end Table

end Limiter

/-- A request limiter: the quotas and bounds that its settings ask for, the bucket of all requests and the
clients. -/
structure Limiter where
  sharedQuota : Limiter.Quota
  clientQuota : Limiter.Quota
  maxClients : Nat
  idle : Nat
  listing : Limiter.Listing
  shared : Limiter.Bucket
  table : Limiter.Table

namespace Limiter

/-- A limiter that has seen no request. -/
def ofSettings? (s : Settings) (now : Nat) (listing : Listing) : Except SettingsError Limiter := do
  let sharedQuota ← s.shared.quota?
  let clientQuota ← s.client.quota?
  if s.maxClients = 0 then throw .zeroClients
  if !sharedQuota.isCountable then throw .periodTooLong
  return {
    sharedQuota, clientQuota
    maxClients := s.maxClients
    idle := s.idle
    listing
    shared := Bucket.new now
    table := ⟨[], now, 0⟩ }

/-- Decides about a request of a client and gives the limiter after it. The bucket of all requests is
asked first; if it refuses, nothing changes. -/
def check (now : Nat) (client : Client) (l : Limiter) : Decision × Limiter :=
  match l.shared.check l.sharedQuota now with
  | (0, shared) =>
    let table := l.table.makeRoom l.listing l.maxClients l.idle now client
    let (wait, bucket) := (table.bucket now client).check l.clientQuota now
    (.ofWait .client wait, { l with shared, table := table.put ⟨client, bucket, now⟩ })
  | (wait, _) => (.limited .shared wait, l)

/-- How many clients the limiter knows. -/
def tracked (l : Limiter) : Nat :=
  l.table.size

/-- Holds if a client has a bucket whose period the clock cannot count. -/
def isBroken (l : Limiter) : Bool :=
  !l.clientQuota.isCountable && l.tracked != 0

/-- Decides about a request of a client, unless the client would get a bucket whose period the clock cannot
count: there is no decision then. -/
def check? (now : Nat) (client : Client) (l : Limiter) : Option (Decision × Limiter) :=
  let checked := l.check now client
  if checked.2.isBroken then none else some checked

end Limiter

end ApiGateway
