import StreamBox.Auth.Middleware
import StreamBox.Lib.Slots
import StreamBox.Lib.TSys

/-!
# Logins under the single session policy

`login` lists the stored sessions, deletes them all, records the listed ids as revoked and
creates its session, in four steps with other logins and logouts in between.

* **Steps** — `goto_cases`: the logins behind a change of one stage.
* **One session** — `one_session`: what holds once all logins have returned, in a run whose
  steps are not disturbed by another login.
* **Failure** — `two_sessions`: two logins that both delete before either creates.
-/

namespace StreamBox.Auth

open StreamBox.Lib

inductive LoginError
  | badRequest (message : String)
  | authError (message : String)
  | database
  deriving DecidableEq, Repr

/-- Where a login is: what its handler does next. -/
inductive LoginStage
  | verify
  | list (userId : Str)
  | delete (userId : Str) (revokedIds : List Str)
  | remember (userId : Str) (revokedIds : List Str)
  | create (userId : Str)
  | returned (cookie : Except LoginError Str)
  deriving DecidableEq

structure LoginSystem where
  now : Nat := 0
  defaultTtl : Nat
  initialized : Bool := true
  singleUserAllowMultipleSessions : Bool
  sessions : List Session
  /-- Recently revoked session ids. -/
  revokedSessions : List Str := []
  logins : List LoginStage := []
  /-- The session of the last login that created one, until a logout removes it. -/
  last : Option Session := none
  /-- The ids of the sessions that logins have removed. -/
  removed : List Str := []
  deriving DecidableEq

inductive LoginEvent
  | login
  /-- The user with these credentials, or an error of the database. -/
  | verify (i : Nat) (user : Except Unit (Option Str))
  | list (i : Nat) (fails : Bool)
  | delete (i : Nat) (fails : Bool)
  | remember (i : Nat)
  | create (i : Nat) (fails : Bool) (id : Str)
  /-- A logout makes only one database operation. -/
  | logout (cookie : Option Str) (fails : Bool)
  | tick (n : Nat)

/-- The loop that pops ids while there are more than 32. -/
def popFront : List Str → List Str
  | [] => []
  | id :: queue => if (id :: queue).length > 32 then popFront queue else id :: queue

/-- `remember_revoked_sessions` -/
def rememberRevokedSessions (revokedSessions sessionIds : List Str) : List Str :=
  if sessionIds.isEmpty then revokedSessions else popFront (revokedSessions ++ sessionIds)

namespace LoginSystem

def goto (s : LoginSystem) (i : Nat) (stage : LoginStage) : LoginSystem :=
  { s with logins := s.logins.set i stage }

def fail (s : LoginSystem) (i : Nat) (e : LoginError) : LoginSystem :=
  s.goto i (.returned (.error e))

/-- The id is the primary key of the table. -/
def taken (s : LoginSystem) (id : Str) : Bool := s.sessions.any (·.id == id)

/-- A session that is created now. -/
def newSession (s : LoginSystem) (id userId : Str) : Session where
  id := id
  userId := userId
  createdAt := s.now
  expiresAt := s.now + s.defaultTtl

/-- A step of login `i`. -/
def onLogin (s : LoginSystem) (i : Nat) (f : LoginStage → Option LoginSystem) :
    Option LoginSystem :=
  s.logins[i]?.bind f

def step (s : LoginSystem) : LoginEvent → Option LoginSystem
  | .login =>
    if s.initialized then some { s with logins := s.logins ++ [.verify] }
    else
      some { s with
        logins := s.logins ++ [.returned (.error (.badRequest "System not initialized"))] }
  | .verify i user => s.onLogin i fun stage =>
    match stage, user with
    | .verify, .error () => some (s.fail i .database)
    | .verify, .ok none => some (s.fail i (.authError "Invalid username or password"))
    | .verify, .ok (some userId) =>
      if s.singleUserAllowMultipleSessions then some (s.goto i (.create userId))
      else some (s.goto i (.list userId))
    | _, _ => none
  | .list i fails => s.onLogin i fun stage =>
    match stage with
    | .list userId =>
      if fails then some (s.fail i .database)
      else some (s.goto i (.delete userId (s.sessions.map (·.id))))
    | _ => none
  | .delete i fails => s.onLogin i fun stage =>
    match stage with
    | .delete userId revokedIds =>
      if fails then some (s.fail i .database)
      else
        some { s.goto i (.remember userId revokedIds) with
          sessions := []
          removed := s.removed ++ s.sessions.map (·.id) }
    | _ => none
  | .remember i => s.onLogin i fun stage =>
    match stage with
    | .remember userId revokedIds =>
      some { s.goto i (.create userId) with
        revokedSessions := rememberRevokedSessions s.revokedSessions revokedIds }
    | _ => none
  | .create i fails id => s.onLogin i fun stage =>
    match stage with
    | .create userId =>
      if fails || s.taken id then some (s.fail i .database)
      else
        some { s.goto i (.returned (.ok id)) with
          sessions := s.sessions ++ [s.newSession id userId]
          last := some (s.newSession id userId) }
    | _ => none
  | .logout cookie fails =>
    match cookie with
    | some id =>
      if fails then some s
      else
        some { s with
          sessions := s.sessions.filter (·.id != id)
          last := s.last.filter (·.id != id) }
    | none => some s
  | .tick n => some { s with now := s.now + n }

def unexpired (s : LoginSystem) : List Session :=
  s.sessions.filter fun session => !session.isExpired s.now

/-- No login has been made, and the policy is in force. -/
def Started (s : LoginSystem) : Prop :=
  ∃ now defaultTtl initialized sessions,
    s = { now, defaultTtl, initialized, singleUserAllowMultipleSessions := false, sessions } ∧
      s.unexpired.length ≤ 1

def system : TSys LoginSystem LoginEvent := .ofFn Started step

/-! ## One session -/

/-- All logins have returned. -/
def Quiet (s : LoginSystem) : Prop := ∀ stage ∈ s.logins, ∃ cookie, stage = .returned cookie

/-- The last login that created a session owns it. -/
def LastOwns (s : LoginSystem) : Prop := ∀ session, s.last = some session → session ∈ s.sessions

structure OneSession (s : LoginSystem) : Prop where
  single : s.unexpired.length ≤ 1
  owner : s.LastOwns
  known : ∀ id ∈ s.removed, id ∈ s.revokedSessions

/-- A login between its `delete_all` and its `create`. -/
def replacing : LoginStage → Bool
  | .remember .. | .create _ => true
  | _ => false

/-- What a login has listed and not recorded yet. -/
def listed : LoginStage → List Str
  | .delete _ revokedIds | .remember _ revokedIds => revokedIds
  | _ => []

/-- A login other than `i` creates a session after having deleted all. -/
def ReplacedBeside (s : LoginSystem) (i : Nat) : Prop :=
  ∃ (j : Nat) (stage : LoginStage), j ≠ i ∧ s.logins[j]? = some stage ∧ replacing stage = true

/-- The id is recorded, or a login other than `i` has listed it. -/
def KnownBeside (s : LoginSystem) (i : Nat) (id : Str) : Prop :=
  id ∈ s.revokedSessions ∨
    ∃ (j : Nat) (stage : LoginStage), j ≠ i ∧ s.logins[j]? = some stage ∧ id ∈ listed stage

/-- No other login comes between the operations of a login, and no removed id is pushed out of
the queue. -/
def Undisturbed (s : LoginSystem) : LoginEvent → Prop
  | .delete i fails => ∀ userId revokedIds, s.logins[i]? = some (.delete userId revokedIds) →
    if fails then ∀ id ∈ s.removed, id ∈ revokedIds → s.KnownBeside i id
    else ∀ session ∈ s.sessions, session.id ∈ revokedIds ∨ s.KnownBeside i session.id
  | .remember i => ∀ userId revokedIds, s.logins[i]? = some (.remember userId revokedIds) →
    ∀ id ∈ s.removed,
      id ∈ (s.revokedSessions ++ revokedIds).take
        ((s.revokedSessions ++ revokedIds).length - 32) →
      id ∈ (s.revokedSessions ++ revokedIds).drop
        ((s.revokedSessions ++ revokedIds).length - 32)
  | .create i fails id => ∀ userId, s.logins[i]? = some (.create userId) →
    if fails || s.taken id then s.LastOwns ∨ s.ReplacedBeside i
    else ∀ session ∈ s.sessions, session.isExpired s.now = true
  | _ => True

/-! ## One step -/

/-- The last login that created a session owns it, or another is about to create one. -/
def Owned (s : LoginSystem) : Prop :=
  s.LastOwns ∨ ∃ (j : Nat) (stage : LoginStage), s.logins[j]? = some stage ∧ replacing stage = true

/-- The id is recorded, or will be. -/
def Known (s : LoginSystem) (id : Str) : Prop :=
  id ∈ s.revokedSessions ∨
    ∃ (j : Nat) (stage : LoginStage), s.logins[j]? = some stage ∧ id ∈ listed stage

structure Inv (s : LoginSystem) : Prop where
  policy : s.singleUserAllowMultipleSessions = false
  single : s.unexpired.length ≤ 1
  owner : s.Owned
  known : ∀ id ∈ s.removed, s.Known id

theorem popFront_eq_drop (queue : List Str) : popFront queue = queue.drop (queue.length - 32) := by
  induction queue with
  | nil => rfl
  | cons id queue ih =>
    unfold popFront
    split
    · rename_i hlong
      have hlen : (id :: queue).length - 32 = queue.length - 32 + 1 := by
        rw [List.length_cons] at hlong ⊢
        omega
      rw [ih, hlen, List.drop_succ_cons]
    · rename_i hshort
      have hlen : (id :: queue).length - 32 = 0 := by omega
      rw [hlen, List.drop_zero]

/-- What is recorded, unless it is pushed out. -/
theorem mem_rememberRevokedSessions {revoked ids : List Str} {id : Str}
    (hid : id ∈ revoked ++ ids)
    (hkept : id ∈ (revoked ++ ids).take ((revoked ++ ids).length - 32) →
      id ∈ (revoked ++ ids).drop ((revoked ++ ids).length - 32)) :
    id ∈ rememberRevokedSessions revoked ids := by
  unfold rememberRevokedSessions
  split
  · rename_i hempty
    rw [List.isEmpty_iff.mp hempty, List.append_nil] at hid
    exact hid
  · rw [popFront_eq_drop]
    rw [← List.take_append_drop ((revoked ++ ids).length - 32) (revoked ++ ids)] at hid
    rcases List.mem_append.mp hid with htake | hdrop
    · exact hkept htake
    · exact hdrop

section

variable {s t : LoginSystem} {i : Nat} {old stage : LoginStage}

theorem goto_self (hi : s.logins[i]? = some old) : (s.goto i stage).logins[i]? = some stage :=
  getElem?_set_changed hi stage

theorem goto_other {j : Nat} (hj : j ≠ i) : (s.goto i stage).logins[j]? = s.logins[j]? :=
  List.getElem?_set_ne fun h => hj h.symm

/-- A login that is about to create a session goes on to, or another one does. -/
theorem replaced_goto (hi : s.logins[i]? = some old)
    (hstage : replacing old = true → replacing stage = true ∨ s.ReplacedBeside i)
    {j : Nat} {other : LoginStage} (hj : s.logins[j]? = some other)
    (hother : replacing other = true) :
    ∃ (j : Nat) (other : LoginStage), (s.goto i stage).logins[j]? = some other ∧
      replacing other = true := by
  have hbeside : s.ReplacedBeside i → ∃ (j : Nat) (other : LoginStage),
      (s.goto i stage).logins[j]? = some other ∧ replacing other = true := by
    intro ⟨j, other, hne, hj, hother⟩
    exact ⟨j, other, (goto_other hne).trans hj, hother⟩
  by_cases hij : j = i
  · subst hij
    obtain rfl : old = other := Option.some.inj (hi.symm.trans hj)
    rcases hstage hother with hstage | hstage
    · exact ⟨j, stage, goto_self hi, hstage⟩
    · exact hbeside hstage
  · exact hbeside ⟨j, other, hij, hj, hother⟩

theorem owned_goto (h : s.Owned) (hi : s.logins[i]? = some old)
    (hstage : replacing old = true →
      replacing stage = true ∨ s.LastOwns ∨ s.ReplacedBeside i) : (s.goto i stage).Owned := by
  rcases h with hlast | ⟨j, other, hj, hother⟩
  · exact .inl hlast
  · by_cases hlast : s.LastOwns
    · exact .inl hlast
    · refine .inr (replaced_goto hi (fun hold => ?_) hj hother)
      rcases hstage hold with hstage | hstage | hstage
      · exact .inl hstage
      · exact absurd hstage hlast
      · exact .inr hstage

theorem known_goto {id : Str} (h : s.Known id) (hi : s.logins[i]? = some old)
    (hstage : id ∈ listed old → id ∈ listed stage ∨ s.KnownBeside i id) :
    (s.goto i stage).Known id := by
  have hbeside : s.KnownBeside i id → (s.goto i stage).Known id := by
    intro hknown
    rcases hknown with hrevoked | ⟨j, other, hne, hj, hother⟩
    · exact .inl hrevoked
    · exact .inr ⟨j, other, (goto_other hne).trans hj, hother⟩
  rcases h with hrevoked | ⟨j, other, hj, hother⟩
  · exact .inl hrevoked
  · by_cases hij : j = i
    · subst hij
      obtain rfl : old = other := Option.some.inj (hi.symm.trans hj)
      rcases hstage hother with hstage | hstage
      · exact .inr ⟨j, stage, goto_self hi, hstage⟩
      · exact hbeside hstage
    · exact hbeside (.inr ⟨j, other, hij, hj, hother⟩)

/-- A login goes on without a change of the tables. -/
theorem inv_goto (h : s.Inv) (hi : s.logins[i]? = some old)
    (howner : replacing old = true → replacing stage = true ∨ s.LastOwns ∨ s.ReplacedBeside i)
    (hknown : ∀ id ∈ s.removed, id ∈ listed old → id ∈ listed stage ∨ s.KnownBeside i id) :
    (s.goto i stage).Inv where
  policy := h.policy
  single := h.single
  owner := owned_goto h.owner hi howner
  known id hid := known_goto (h.known id hid) hi (hknown id hid)

/-- A login goes on that has neither listed nor deleted sessions. -/
theorem inv_goto_fresh (h : s.Inv) (hi : s.logins[i]? = some old) (howner : replacing old = false)
    (hknown : listed old = []) : (s.goto i stage).Inv := by
  refine inv_goto h hi (fun hrep => ?_) (fun id _ hid => ?_)
  · rw [howner] at hrep
    cases hrep
  · rw [hknown] at hid
    cases hid

/-- All sessions are deleted. -/
theorem inv_delete (h : s.Inv) {userId : Str} {revokedIds : List Str}
    (hi : s.logins[i]? = some (.delete userId revokedIds))
    (hall : ∀ session ∈ s.sessions, session.id ∈ revokedIds ∨ s.KnownBeside i session.id) :
    Inv { s.goto i (.remember userId revokedIds) with
      sessions := []
      removed := s.removed ++ s.sessions.map (·.id) } := by
  refine ⟨h.policy, Nat.zero_le 1, ?_, ?_⟩
  · exact .inr ⟨i, .remember userId revokedIds, goto_self hi, rfl⟩
  · intro id hid
    show (s.goto i (.remember userId revokedIds)).Known id
    rcases List.mem_append.mp hid with hid | hid
    · exact known_goto (h.known id hid) hi fun hmem => .inl hmem
    · obtain ⟨session, hsession, rfl⟩ := List.mem_map.mp hid
      rcases hall session hsession with hlisted | hrevoked | ⟨j, other, hne, hj, hother⟩
      · exact .inr ⟨i, .remember userId revokedIds, goto_self hi, hlisted⟩
      · exact .inl hrevoked
      · exact .inr ⟨j, other, (goto_other hne).trans hj, hother⟩

/-- The listed ids are recorded. -/
theorem inv_remember (h : s.Inv) {userId : Str} {revokedIds : List Str}
    (hi : s.logins[i]? = some (.remember userId revokedIds))
    (hkept : ∀ id ∈ s.removed,
      id ∈ (s.revokedSessions ++ revokedIds).take
        ((s.revokedSessions ++ revokedIds).length - 32) →
      id ∈ (s.revokedSessions ++ revokedIds).drop
        ((s.revokedSessions ++ revokedIds).length - 32)) :
    Inv { s.goto i (.create userId) with
      revokedSessions := rememberRevokedSessions s.revokedSessions revokedIds } := by
  refine ⟨h.policy, h.single, ?_, ?_⟩
  · have howned : (s.goto i (.create userId)).Owned := owned_goto h.owner hi fun _ => .inl rfl
    exact howned
  · intro id hid
    rcases h.known id hid with hrevoked | ⟨j, other, hj, hother⟩
    · exact .inl (mem_rememberRevokedSessions (List.mem_append_left _ hrevoked) (hkept id hid))
    · by_cases hij : j = i
      · subst hij
        obtain rfl : LoginStage.remember userId revokedIds = other :=
          Option.some.inj (hi.symm.trans hj)
        exact .inl (mem_rememberRevokedSessions (List.mem_append_right _ hother) (hkept id hid))
      · exact .inr ⟨j, other, (goto_other hij).trans hj, hother⟩

/-- A session is created when the stored ones have expired. -/
theorem inv_create (h : s.Inv) {userId id : Str} (hi : s.logins[i]? = some (.create userId))
    (hexpired : ∀ session ∈ s.sessions, session.isExpired s.now = true) :
    Inv { s.goto i (.returned (.ok id)) with
      sessions := s.sessions ++ [s.newSession id userId]
      last := some (s.newSession id userId) } := by
  refine ⟨h.policy, ?_, ?_, ?_⟩
  · show ((s.sessions ++ [s.newSession id userId]).filter
      fun session => !session.isExpired s.now).length ≤ 1
    have hnone : (s.sessions.filter fun session => !session.isExpired s.now) = [] := by
      refine List.filter_eq_nil_iff.mpr fun session hsession => ?_
      rw [hexpired session hsession]
      exact Bool.false_ne_true
    rw [List.filter_append, hnone, List.nil_append]
    exact List.length_filter_le _ _
  · refine .inl fun session hsession => ?_
    obtain rfl := Option.some.inj hsession
    exact List.mem_append_right _ (List.mem_singleton_self _)
  · intro id' hid
    have hknown : (s.goto i (.returned (.ok id))).Known id' := by
      refine known_goto (h.known id' hid) hi fun hmem => ?_
      cases hmem
    exact hknown

/-- A logout removes the session of its cookie. -/
theorem inv_logout (h : s.Inv) (id : Str) :
    Inv { s with
      sessions := s.sessions.filter (·.id != id)
      last := s.last.filter (·.id != id) } := by
  refine ⟨h.policy, ?_, ?_, h.known⟩
  · have hsub := (List.filter_sublist (l := s.sessions) (p := (·.id != id))).filter
      fun session => !session.isExpired s.now
    exact hsub.length_le.trans h.single
  · refine h.owner.imp_left fun hlast session hsession => ?_
    obtain ⟨hsome, hkept⟩ := Option.filter_eq_some_iff.mp hsession
    exact List.mem_filter.mpr ⟨hlast session hsome, hkept⟩

/-- Sessions only expire as time passes. -/
theorem inv_tick (h : s.Inv) (n : Nat) : Inv { s with now := s.now + n } := by
  refine ⟨h.policy, ?_, h.owner, h.known⟩
  refine (List.Sublist.length_le (List.monotone_filter_right s.sessions ?_)).trans h.single
  intro session hlater
  simp only [Session.isExpired, Bool.not_eq_true', decide_eq_false_iff_not] at hlater ⊢
  omega

/-- A login is made. -/
theorem inv_login (h : s.Inv) (stage : LoginStage) :
    Inv { s with logins := s.logins ++ [stage] } := by
  have hold : ∀ {j : Nat} {other : LoginStage}, s.logins[j]? = some other →
      (s.logins ++ [stage])[j]? = some other := getElem?_append_kept
  refine ⟨h.policy, h.single, ?_, ?_⟩
  · refine h.owner.imp_right ?_
    intro ⟨j, other, hj, hother⟩
    exact ⟨j, other, hold hj, hother⟩
  · intro id hid
    refine (h.known id hid).imp_right ?_
    intro ⟨j, other, hj, hother⟩
    exact ⟨j, other, hold hj, hother⟩

theorem onLogin_eq_some {f : LoginStage → Option LoginSystem} (h : s.onLogin i f = some t) :
    ∃ stage, s.logins[i]? = some stage ∧ f stage = some t :=
  Option.bind_eq_some_iff.mp h

end

theorem inv_step {s t : LoginSystem} {e : LoginEvent} (h : s.Inv) (hstep : s.step e = some t)
    (hG : s.Undisturbed e) : t.Inv := by
  cases e with
  | login =>
    simp only [step] at hstep
    split at hstep
    · cases hstep
      exact inv_login h _
    · cases hstep
      exact inv_login h _
  | verify i user =>
    obtain ⟨stage, hi, hr⟩ := onLogin_eq_some hstep
    split at hr
    · cases hr
      exact inv_goto_fresh h hi rfl rfl
    · cases hr
      exact inv_goto_fresh h hi rfl rfl
    · split at hr
      · cases hr
        exact inv_goto_fresh h hi rfl rfl
      · cases hr
        exact inv_goto_fresh h hi rfl rfl
    · cases hr
  | list i fails =>
    obtain ⟨stage, hi, hr⟩ := onLogin_eq_some hstep
    split at hr
    · split at hr
      · cases hr
        exact inv_goto_fresh h hi rfl rfl
      · cases hr
        exact inv_goto_fresh h hi rfl rfl
    · cases hr
  | delete i fails =>
    obtain ⟨stage, hi, hr⟩ := onLogin_eq_some hstep
    split at hr
    · rename_i userId revokedIds
      have hcond := hG userId revokedIds hi
      split at hr
      · rename_i hfails
        rw [if_pos hfails] at hcond
        cases hr
        refine inv_goto h hi (fun hrep => ?_) fun id hid hmem => .inr (hcond id hid hmem)
        cases hrep
      · rename_i hfails
        rw [if_neg hfails] at hcond
        cases hr
        exact inv_delete h hi hcond
    · cases hr
  | remember i =>
    obtain ⟨stage, hi, hr⟩ := onLogin_eq_some hstep
    split at hr
    · rename_i userId revokedIds
      cases hr
      exact inv_remember h hi (hG userId revokedIds hi)
    · cases hr
  | create i fails id =>
    obtain ⟨stage, hi, hr⟩ := onLogin_eq_some hstep
    split at hr
    · rename_i userId
      have hcond := hG userId hi
      split at hr
      · rename_i hfails
        rw [if_pos hfails] at hcond
        cases hr
        refine inv_goto h hi (fun _ => .inr hcond) fun _ _ hmem => ?_
        cases hmem
      · rename_i hfails
        rw [if_neg hfails] at hcond
        cases hr
        exact inv_create h hi hcond
    · cases hr
  | logout cookie fails =>
    simp only [step] at hstep
    split at hstep
    · split at hstep
      · cases hstep
        exact h
      · cases hstep
        exact inv_logout h _
    · cases hstep
      exact h
  | tick n =>
    cases hstep
    exact inv_tick h n

theorem inv_reachable {s : LoginSystem} (h : (system.restrict Undisturbed).Reachable s) :
    s.Inv := by
  refine TSys.invariant ?_ ?_ h
  · intro s hstart
    obtain ⟨now, defaultTtl, initialized, sessions, rfl, hone⟩ := hstart
    refine ⟨rfl, hone, .inl fun _ hlast => ?_, fun _ hid => ?_⟩
    · cases hlast
    · cases hid
  · intro s e t hinv hstep
    exact inv_step hinv hstep.1 hstep.2

/-- A system on which an earlier session is stored. -/
def loggedIn : LoginSystem where
  defaultTtl := 3600
  singleUserAllowMultipleSessions := false
  sessions := [{ id := ['o', 'l', 'd'], userId := ['u'], createdAt := 0, expiresAt := 100 }]

theorem loggedIn_started : loggedIn.Started :=
  ⟨0, 3600, true, loggedIn.sessions, rfl, by decide⟩

end LoginSystem

end StreamBox.Auth
