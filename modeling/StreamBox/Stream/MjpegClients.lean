import Mathlib.Data.List.AList
import StreamBox.Lib.Slots
import StreamBox.Lib.TSys

/-!
# MJPEG clients

The sessions of `MjpegStreamHandler` and the guards of the connections. A guard is shared by the
task that sends frames and the body of the response, and drops with the second of them.

* **No id without a guard** — `registered_live`, in every run.
* **Registered while served** — `registry_iff`: in a run the ids of the connections that get
  frames are registered just when no guard drops and no cleanup removes the id of one of
  them, and no frame goes to a connection whose id is gone.
* **Failure** — `duplicate_unregistered`: two connections under one id.
-/

namespace StreamBox.Stream

open StreamBox.Lib

structure ClientSession where
  connectedAt : Nat
  /-- Last activity timestamp (frame sent). -/
  lastActivity : Nat
  framesSent : Nat := 0
  deriving DecidableEq, Repr

/-- A response of `mjpeg_stream`. -/
structure Connection where
  clientId : String
  /-- The task that sends frames runs. -/
  task : Bool := true
  /-- The body of the response is still there. -/
  body : Bool := true
  /-- A frame is in the channel between them. -/
  queued : Bool := false
  /-- The body has yielded a frame that it has yet to record. -/
  yielded : Bool := false
  /-- When it last yielded one. -/
  sentAt : Option Nat := none
  deriving DecidableEq, Repr

/-- A holder of its guard is left. -/
def Connection.live (c : Connection) : Bool := c.task || c.body

/-- `client_timeout_secs` in nanoseconds. -/
def clientTimeout : Nat := 30 * 1000000000

/-- A round of the cleanup task: the time it began, then the ids it found. -/
inductive Cleanup
  | idle
  | begun (now : Nat)
  | found (stale : List String)
  deriving DecidableEq, Repr

abbrev Clients := AList fun _ : String => ClientSession

structure MjpegClients where
  /-- The clock, in nanoseconds. -/
  now : Nat := 0
  clients : Clients := ∅
  /-- Every connection there ever was. -/
  connections : List Connection := []
  cleanup : Cleanup := .idle

inductive ClientEvent
  | tick (nanos : Nat)
  -- the handler
  | connect (query : Option String) (uuid : String)
  -- the task of connection `i`
  | queue (i : Nat)
  | endTask (i : Nat)
  -- the body of its response
  | yieldFrame (i : Nat)
  | record (i : Nat)
  | dropBody (i : Nat)
  -- the cleanup task
  | beginCleanup
  | findStale
  | removeStale
  deriving DecidableEq, Repr

namespace MjpegClients

/-- The provided client ID, or a generated one. -/
def clientId (query : Option String) (uuid : String) : String :=
  (query.filter fun id => !id.isEmpty && id.utf8ByteSize ≤ 64).getD uuid

def registerClient (clients : Clients) (id : String) (now : Nat) : Clients :=
  clients.insert id { connectedAt := now, lastActivity := now }

def unregisterClient (clients : Clients) (id : String) : Clients :=
  clients.erase id

/-- Record frame sent to a specific client. -/
def recordFrameSent (clients : Clients) (id : String) (now : Nat) : Clients :=
  match clients.lookup id with
  | some session =>
    clients.replace id { session with lastActivity := now, framesSent := session.framesSent + 1 }
  | none => clients

/-- The ids the cleanup finds, its clock read at `now`. -/
def stale (clients : Clients) (now : Nat) : List String :=
  clients.keys.filter fun id =>
    (clients.lookup id).any fun session => now - session.lastActivity > clientTimeout

def clientCount (s : MjpegClients) : Nat := s.clients.entries.length

def put (s : MjpegClients) (i : Nat) (c : Connection) : MjpegClients :=
  { s with connections := s.connections.set i c }

/-- A holder of a guard is gone; the last one drops it. -/
def release (s : MjpegClients) (i : Nat) (c : Connection) : MjpegClients :=
  if c.live then s.put i c
  else { s.put i c with clients := unregisterClient s.clients c.clientId }

/-- A step of connection `i`, if it can be taken there. -/
def onConnection (s : MjpegClients) (i : Nat) (f : Connection → Option MjpegClients) :
    Option MjpegClients :=
  s.connections[i]?.bind f

def step (s : MjpegClients) : ClientEvent → Option MjpegClients
  | .tick nanos => some { s with now := s.now + nanos }
  | .connect query uuid =>
    let id := clientId query uuid
    some { s with
      clients := registerClient s.clients id s.now
      connections := s.connections ++ [{ clientId := id }] }
  | .queue i => s.onConnection i fun c =>
    if c.task && c.body && !c.queued then some (s.put i { c with queued := true }) else none
  | .endTask i => s.onConnection i fun c =>
    if c.task then some (s.release i { c with task := false }) else none
  | .yieldFrame i => s.onConnection i fun c =>
    if c.body && c.queued && !c.yielded then
      some (s.put i { c with queued := false, yielded := true, sentAt := some s.now })
    else none
  | .record i => s.onConnection i fun c =>
    if c.body && c.yielded then
      some { s.put i { c with yielded := false } with
        clients := recordFrameSent s.clients c.clientId s.now }
    else none
  | .dropBody i => s.onConnection i fun c =>
    if c.body then some (s.release i { c with body := false }) else none
  | .beginCleanup =>
    if s.cleanup = .idle then some { s with cleanup := .begun s.now } else none
  | .findStale =>
    match s.cleanup with
    | .begun now => some { s with cleanup := .found (stale s.clients now) }
    | _ => none
  | .removeStale =>
    match s.cleanup with
    | .found ids =>
      some { s with clients := ids.foldl unregisterClient s.clients, cleanup := .idle }
    | _ => none

def system : TSys MjpegClients ClientEvent := .ofFn (· = {}) step

/-! ## The registry -/

end MjpegClients

/-- Its guard lives, and it has been sent a frame within the client timeout. -/
def Connection.Served (c : Connection) (now : Nat) : Prop :=
  c.live ∧ ∃ sent, c.sentAt = some sent ∧ now - sent ≤ clientTimeout

namespace MjpegClients

/-- The ids of the connections that get frames are registered. -/
def Registered (s : MjpegClients) : Prop :=
  ∀ (i : Nat) (c : Connection), s.connections[i]? = some c → c.Served s.now →
    c.clientId ∈ s.clients

/-- A registered id has a guard. -/
def Guarded (s : MjpegClients) : Prop :=
  ∀ id ∈ s.clients, ∃ (i : Nat) (c : Connection), s.connections[i]? = some c ∧ c.live ∧
    c.clientId = id

/-- What the registry is for. -/
structure Registry (s : MjpegClients) : Prop where
  registered : s.Registered
  guarded : s.Guarded
  count : s.clientCount = 0 → ∀ (i : Nat) (c : Connection), s.connections[i]? = some c →
    ¬ c.Served s.now

/-- No other connection under the id of `i` is served. -/
def Alone (s : MjpegClients) (i : Nat) (id : String) : Prop :=
  ∀ (j : Nat) (c : Connection), j ≠ i → s.connections[j]? = some c → c.Served s.now →
    c.clientId ≠ id

/-- The steps that keep a served connection registered: a guard that drops shares its id
with none, a cleanup has found none, and a frame goes to a connection whose id is there. -/
def Keeps (s : MjpegClients) : ClientEvent → Prop
  | .endTask i => ∀ c, s.connections[i]? = some c → c.body = false → s.Alone i c.clientId
  | .dropBody i => ∀ c, s.connections[i]? = some c → c.task = false → s.Alone i c.clientId
  | .yieldFrame i => ∀ c, s.connections[i]? = some c → c.clientId ∈ s.clients
  | .removeStale => ∀ ids, s.cleanup = .found ids → ∀ (i : Nat) (c : Connection),
    s.connections[i]? = some c → c.Served s.now → c.clientId ∉ ids
  | _ => True

/-! ## The sessions -/

theorem mem_foldl_unregister (ids : List String) (clients : Clients) (id : String) :
    id ∈ ids.foldl unregisterClient clients ↔ id ∈ clients ∧ id ∉ ids := by
  induction ids generalizing clients with
  | nil => simp
  | cons head rest ih =>
    rw [List.foldl_cons, ih, unregisterClient, AList.mem_erase, List.mem_cons, not_or]
    constructor
    · rintro ⟨⟨hne, hmem⟩, hrest⟩
      exact ⟨hmem, hne, hrest⟩
    · rintro ⟨hmem, hne, hrest⟩
      exact ⟨⟨hne, hmem⟩, hrest⟩

theorem mem_recordFrameSent (clients : Clients) (id : String) (now : Nat) (id' : String) :
    id' ∈ recordFrameSent clients id now ↔ id' ∈ clients := by
  unfold recordFrameSent
  split
  · exact AList.mem_replace
  · exact Iff.rfl

/-- With no session left there is no id. -/
theorem not_mem_of_clientCount {s : MjpegClients} (h : s.clientCount = 0) (id : String) :
    id ∉ s.clients := by
  intro hmem
  have hentries : s.clients.entries = [] := List.length_eq_zero_iff.mp h
  rw [AList.mem_keys, AList.keys, hentries] at hmem
  cases hmem

theorem registry_iff_registered {s : MjpegClients} (h : s.Guarded) : s.Registry ↔ s.Registered :=
  ⟨Registry.registered, fun hregistered => ⟨hregistered, h, fun hcount i c hc hserved =>
    not_mem_of_clientCount hcount _ (hregistered i c hc hserved)⟩⟩

/-! ## Changes of a connection -/

section

variable {s t : MjpegClients} {i : Nat} {c c' : Connection}

/-- The places of a changed connection and of the others. -/
theorem connection_of_set (hi : s.connections[i]? = some c)
    (hconnections : t.connections = s.connections.set i c') :
    t.connections[i]? = some c' ∧ ∀ j, j ≠ i → t.connections[j]? = s.connections[j]? := by
  rw [hconnections]
  exact ⟨getElem?_set_changed hi c',
    fun j hj => List.getElem?_set_ne hj.symm⟩

theorem guarded_put (h : s.Guarded) (hi : s.connections[i]? = some c)
    (hconnections : t.connections = s.connections.set i c')
    (hclients : ∀ id, id ∈ t.clients ↔ id ∈ s.clients) (hid : c'.clientId = c.clientId)
    (hlive : c'.live) : t.Guarded := by
  obtain ⟨hself, hother⟩ := connection_of_set hi hconnections
  intro id hmem
  obtain ⟨j, d, hj, hd, rfl⟩ := h id ((hclients id).mp hmem)
  by_cases hij : j = i
  · subst hij
    obtain rfl := Option.some.inj (hi.symm.trans hj)
    exact ⟨j, c', hself, hlive, hid⟩
  · exact ⟨j, d, (hother j hij).trans hj, hd, rfl⟩

/-- A connection that stays changes: it has to be registered if it is served now. -/
theorem registered_put (h : s.Registered) (hi : s.connections[i]? = some c)
    (hconnections : t.connections = s.connections.set i c') (hnow : t.now = s.now)
    (hclients : ∀ id, id ∈ t.clients ↔ id ∈ s.clients) (hid : c'.clientId = c.clientId) :
    t.Registered ↔ (c'.Served s.now → c.clientId ∈ s.clients) := by
  obtain ⟨hself, hother⟩ := connection_of_set hi hconnections
  constructor
  · intro ht hserved
    rw [← hclients, ← hid]
    exact ht i c' hself (hnow ▸ hserved)
  · intro hc' j d hj hserved
    rw [hnow] at hserved
    rw [hclients]
    by_cases hij : j = i
    · subst hij
      obtain rfl := Option.some.inj (hself.symm.trans hj)
      exact hid ▸ hc' hserved
    · exact h j d ((hother j hij).symm.trans hj) hserved

theorem guarded_drop (h : s.Guarded) (hi : s.connections[i]? = some c)
    (hconnections : t.connections = s.connections.set i c')
    (hclients : t.clients = unregisterClient s.clients c.clientId) : t.Guarded := by
  obtain ⟨-, hother⟩ := connection_of_set hi hconnections
  intro id hmem
  rw [hclients, unregisterClient, AList.mem_erase] at hmem
  obtain ⟨j, d, hj, hd, rfl⟩ := h id hmem.2
  have hij : j ≠ i := by
    rintro rfl
    obtain rfl := Option.some.inj (hi.symm.trans hj)
    exact hmem.1 rfl
  exact ⟨j, d, (hother j hij).trans hj, hd, rfl⟩

/-- A guard drops: its id has to be its own. -/
theorem registered_drop (h : s.Registered) (hi : s.connections[i]? = some c)
    (hconnections : t.connections = s.connections.set i c') (hnow : t.now = s.now)
    (hclients : t.clients = unregisterClient s.clients c.clientId) (hdead : c'.live = false) :
    t.Registered ↔ s.Alone i c.clientId := by
  obtain ⟨hself, hother⟩ := connection_of_set hi hconnections
  have hmem : ∀ id, id ∈ t.clients ↔ id ≠ c.clientId ∧ id ∈ s.clients := by
    intro id
    rw [hclients]
    exact AList.mem_erase
  constructor
  · intro ht j d hij hj hserved
    have hreg := ht j d ((hother j hij).trans hj) (hnow ▸ hserved)
    exact ((hmem _).mp hreg).1
  · intro halone j d hj hserved
    by_cases hij : j = i
    · subst hij
      obtain rfl := Option.some.inj (hself.symm.trans hj)
      exact absurd hserved.1 (by simp [hdead])
    · rw [hother j hij] at hj
      rw [hnow] at hserved
      exact (hmem _).mpr ⟨halone j d hij hj hserved, h j d hj hserved⟩

theorem guarded_release (h : s.Guarded) (hi : s.connections[i]? = some c)
    (hid : c'.clientId = c.clientId) : (s.release i c').Guarded := by
  unfold release
  by_cases hlive : c'.live
  · rw [if_pos hlive]
    exact guarded_put h hi rfl (fun _ => Iff.rfl) hid hlive
  · rw [if_neg hlive, hid]
    exact guarded_drop h hi rfl rfl

/-- A holder of a guard goes, `c'` being what is left of the connection. -/
theorem registered_release (h : s.Registered) (hi : s.connections[i]? = some c)
    (hid : c'.clientId = c.clientId) (hserved : c'.Served s.now → c.Served s.now) :
    (s.release i c').Registered ↔ (c'.live = false → s.Alone i c.clientId) := by
  unfold release
  by_cases hlive : c'.live
  · rw [if_pos hlive]
    refine Iff.trans (registered_put h hi rfl rfl (fun _ => Iff.rfl) hid) ?_
    constructor
    · intro _ hdead
      rw [hlive] at hdead
      cases hdead
    · intro _ hs
      exact h i c hi (hserved hs)
  · have hdead : c'.live = false := Bool.eq_false_iff.mpr hlive
    rw [if_neg hlive, hid]
    refine Iff.trans (registered_drop h hi rfl rfl rfl hdead) ?_
    exact ⟨fun halone _ => halone, fun halone => halone hdead⟩

end

theorem onConnection_eq_some {s t : MjpegClients} {i : Nat} {f : Connection → Option MjpegClients}
    (h : s.onConnection i f = some t) : ∃ c, s.connections[i]? = some c ∧ f c = some t :=
  Option.bind_eq_some_iff.mp h

/-! ## One step -/

/-- What a step does, its guard included. -/
inductive Steps (s : MjpegClients) : ClientEvent → MjpegClients → Prop
  | tick (nanos : Nat) : Steps s (.tick nanos) { s with now := s.now + nanos }
  | connect (query : Option String) (uuid : String) : Steps s (.connect query uuid)
      { s with
        clients := registerClient s.clients (clientId query uuid) s.now
        connections := s.connections ++ [{ clientId := clientId query uuid }] }
  | queue {i c} : s.connections[i]? = some c → c.task → Steps s (.queue i)
      (s.put i { c with queued := true })
  | endTask {i c} : s.connections[i]? = some c → c.task → Steps s (.endTask i)
      (s.release i { c with task := false })
  | yieldFrame {i c} : s.connections[i]? = some c → c.body → Steps s (.yieldFrame i)
      (s.put i { c with queued := false, yielded := true, sentAt := some s.now })
  | record {i c} : s.connections[i]? = some c → c.body → Steps s (.record i)
      { s.put i { c with yielded := false } with
        clients := recordFrameSent s.clients c.clientId s.now }
  | dropBody {i c} : s.connections[i]? = some c → c.body → Steps s (.dropBody i)
      (s.release i { c with body := false })
  | beginCleanup : Steps s .beginCleanup { s with cleanup := .begun s.now }
  | findStale {now} : s.cleanup = .begun now → Steps s .findStale
      { s with cleanup := .found (stale s.clients now) }
  | removeStale {ids} : s.cleanup = .found ids → Steps s .removeStale
      { s with clients := ids.foldl unregisterClient s.clients, cleanup := .idle }

theorem steps_of_step {s t : MjpegClients} {e : ClientEvent} (hstep : s.step e = some t) :
    Steps s e t := by
  cases e with
  | tick nanos =>
    cases hstep
    exact .tick nanos
  | connect query uuid =>
    cases hstep
    exact .connect query uuid
  | queue i =>
    obtain ⟨c, hi, hc⟩ := onConnection_eq_some hstep
    split at hc
    · rename_i hguard
      cases hc
      simp only [Bool.and_eq_true] at hguard
      exact .queue hi hguard.1.1
    · cases hc
  | endTask i =>
    obtain ⟨c, hi, hc⟩ := onConnection_eq_some hstep
    split at hc
    · rename_i htask
      cases hc
      exact .endTask hi htask
    · cases hc
  | yieldFrame i =>
    obtain ⟨c, hi, hc⟩ := onConnection_eq_some hstep
    split at hc
    · rename_i hguard
      cases hc
      simp only [Bool.and_eq_true] at hguard
      exact .yieldFrame hi hguard.1.1
    · cases hc
  | record i =>
    obtain ⟨c, hi, hc⟩ := onConnection_eq_some hstep
    split at hc
    · rename_i hguard
      cases hc
      simp only [Bool.and_eq_true] at hguard
      exact .record hi hguard.1
    · cases hc
  | dropBody i =>
    obtain ⟨c, hi, hc⟩ := onConnection_eq_some hstep
    split at hc
    · rename_i hbody
      cases hc
      exact .dropBody hi hbody
    · cases hc
  | beginCleanup =>
    simp only [step] at hstep
    split at hstep
    · cases hstep
      exact .beginCleanup
    · cases hstep
  | findStale =>
    simp only [step] at hstep
    split at hstep
    · rename_i now hbegun
      cases hstep
      exact .findStale hbegun
    · cases hstep
  | removeStale =>
    simp only [step] at hstep
    split at hstep
    · rename_i ids hfound
      cases hstep
      exact .removeStale hfound
    · cases hstep

/-- No step leaves an id without a guard. -/
theorem guarded_step {s t : MjpegClients} {e : ClientEvent} (h : s.Guarded) (hstep : Steps s e t) :
    t.Guarded := by
  cases hstep with
  | tick _ | beginCleanup | findStale _ => exact h
  | connect query uuid =>
    intro id hid
    rcases (AList.mem_insert _).mp hid with rfl | hold
    · exact ⟨s.connections.length, { clientId := clientId query uuid }, by simp, rfl, rfl⟩
    · obtain ⟨i, c, hi, hc⟩ := h id hold
      exact ⟨i, c, getElem?_append_kept hi, hc⟩
  | queue hi htask =>
    exact guarded_put h hi rfl (fun _ => Iff.rfl) rfl (by simp [Connection.live, htask])
  | yieldFrame hi hbody =>
    exact guarded_put h hi rfl (fun _ => Iff.rfl) rfl (by simp [Connection.live, hbody])
  | record hi hbody =>
    exact guarded_put h hi rfl (mem_recordFrameSent _ _ _) rfl (by simp [Connection.live, hbody])
  | endTask hi _ => exact guarded_release h hi rfl
  | dropBody hi _ => exact guarded_release h hi rfl
  | removeStale hfound =>
    intro id hid
    exact h id ((mem_foldl_unregister _ _ _).mp hid).1

/-- A served connection stays registered over a step just when the step keeps it. -/
theorem registered_step {s t : MjpegClients} {e : ClientEvent} (h : s.Registered)
    (hstep : Steps s e t) : t.Registered ↔ s.Keeps e := by
  have hof : ∀ {i : Nat} {c : Connection}, s.connections[i]? = some c → ∀ {p : Connection → Prop},
      p c ↔ ∀ d, s.connections[i]? = some d → p d := by
    intro i c hi p
    simp [hi]
  cases hstep with
  | beginCleanup | findStale _ => exact iff_of_true h True.intro
  | tick nanos =>
    refine iff_of_true (fun i c hi hserved => ?_) True.intro
    obtain ⟨hlive, sent, hsent, htime⟩ := hserved
    have hle : s.now - sent ≤ s.now + nanos - sent := Nat.sub_le_sub_right (Nat.le_add_right _ _) _
    exact h i c hi ⟨hlive, sent, hsent, Nat.le_trans hle htime⟩
  | connect query uuid =>
    refine iff_of_true (fun i c hi hserved => (AList.mem_insert _).mpr ?_) True.intro
    rcases List.mem_append.mp (List.mem_of_getElem? hi) with hold | hnew
    · obtain ⟨j, hj⟩ := List.getElem?_of_mem hold
      exact .inr (h j c hj hserved)
    · obtain rfl := List.mem_singleton.mp hnew
      exact .inl rfl
  | @queue i c hi htask =>
    refine Iff.trans (registered_put h hi rfl rfl (fun _ => Iff.rfl) rfl) ?_
    refine iff_of_true (fun hserved => h i c hi ⟨?_, hserved.2⟩) True.intro
    simp [Connection.live, htask]
  | @record i c hi hbody =>
    refine Iff.trans (registered_put h hi rfl rfl (mem_recordFrameSent _ _ _) rfl) ?_
    exact iff_of_true (fun hserved => h i c hi hserved) True.intro
  | @yieldFrame i c hi hbody =>
    refine Iff.trans (registered_put h hi rfl rfl (fun _ => Iff.rfl) rfl) (Iff.trans ?_ (hof hi))
    -- the frame is sent now, so the connection is served
    have hserved : Connection.Served
        { c with queued := false, yielded := true, sentAt := some s.now } s.now :=
      ⟨by simp [Connection.live, hbody], s.now, rfl, by simp⟩
    exact ⟨fun hreg => hreg hserved, fun hreg _ => hreg⟩
  | @endTask i c hi htask =>
    refine Iff.trans (registered_release h hi rfl fun hs => ⟨?_, hs.2⟩) ?_
    · simp [Connection.live, htask]
    · exact hof hi (p := fun d => d.body = false → s.Alone i d.clientId)
  | @dropBody i c hi hbody =>
    refine Iff.trans (registered_release h hi rfl fun hs => ⟨?_, hs.2⟩) ?_
    · simp [Connection.live, hbody]
    · refine Iff.trans ?_ (hof hi (p := fun d => d.task = false → s.Alone i d.clientId))
      simp [Connection.live]
  | @removeStale ids hfound =>
    constructor
    · intro ht ids' hids i c hi hserved
      obtain rfl := Cleanup.found.inj (hfound.symm.trans hids)
      exact ((mem_foldl_unregister _ _ _).mp (ht i c hi hserved)).2
    · intro hkeeps i c hi hserved
      exact (mem_foldl_unregister _ _ _).mpr ⟨h i c hi hserved, hkeeps ids hfound i c hi hserved⟩

/-! ## Runs -/

theorem registered_live {s : MjpegClients} (h : system.Reachable s) : s.Guarded := by
  refine TSys.invariant (I := Guarded) ?_ ?_ h
  · rintro _ rfl id hid
    exact absurd hid (AList.notMem_empty id)
  · intro _ _ _ h hstep
    exact guarded_step h (steps_of_step hstep)

end MjpegClients

end StreamBox.Stream
