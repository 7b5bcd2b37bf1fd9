import StreamBox.RustDesk.Rendezvous

/-!
# Registration

* **Pacing** — the last answer is that of the log (`Answered`), so an expired registration is one
  without an answer for the registration interval (`Answered.expired_iff`).
* **Registration** — `registration_iff`: the status follows the confirmation of the key and the
  registrations are paced exactly in the runs whose steps meet `Meets`.
* **Failure** — `registered_unconfirmed`.
-/

namespace StreamBox.RustDesk.Rendezvous

open StreamBox.Lib

def Entry.answers : Entry → Bool
  | .received _ => true
  | .sent _ => false

/-- The entry is a `RegisterPeer`. -/
def Entry.registers : Entry → Bool
  | .sent (.registerPeer _ _) => true
  | _ => false

/-- No `RegisterPeer` is sent within the registration interval after an answer. -/
def Paced (log : List (Nat × Entry)) : Prop :=
  log.Pairwise fun a b =>
    a.2.answers = true → b.2.registers = true → a.1 + regIntervalMs * 1000000 ≤ b.1

/-- The status is `Registered` only with a confirmed key, and registrations are paced. -/
structure Sound (s : State) : Prop where
  confirmed : s.status = .registered → s.keyConfirmed = true
  paced : Paced s.log

/-- A request for the key leaves it unconfirmed. -/
def ClearsKey (e : Event) (t : State) : Prop :=
  ∀ io, e = .recv io (.message (.registerPeerResponse true)) → t.keyConfirmed = false

/-- An answer to `RegisterPeer` comes with a confirmed key and does not ask for it, but where the
loop fails for it; the key is not rejected while the status is `Registered`; and no heartbeat
is due before the registration has expired. -/
def Meets (s : State) : Event → Prop
  | .recv io (.message (.registerPeerResponse requestPk)) =>
    if requestPk then io.sends = false ∧ s.status ≠ .registered else s.keyConfirmed = true
  | .recv _ (.message (.registerPkResponse result _)) => result = 2 → s.status ≠ .registered
  | .tick io =>
    s.keyConfirmed = true → io.sends = true →
      ∀ l, s.registration = some l → l.timeout s.now → l.expired s.now
  | _ => True

/-! ## The log -/

theorem paced_append_quiet {log more : List (Nat × Entry)}
    (hmore : ∀ x ∈ more, x.2.registers = false) : Paced (log ++ more) ↔ Paced log := by
  unfold Paced
  rw [List.pairwise_append]
  constructor
  · intro h
    exact h.1
  · intro h
    refine ⟨h, ?_, ?_⟩
    · refine List.pairwise_of_forall_mem_list ?_
      intro a _ b hb _ hregisters
      rw [hmore b hb] at hregisters
      cases hregisters
    · intro a _ b hb _ hregisters
      rw [hmore b hb] at hregisters
      cases hregisters

theorem paced_append_registerPeer {log : List (Nat × Entry)} {now : Nat} {id : String}
    {serial : Int32} : Paced (log ++ [(now, .sent (.registerPeer id serial))]) ↔
      Paced log ∧ ∀ x ∈ log, x.2.answers = true → x.1 + regIntervalMs * 1000000 ≤ now := by
  unfold Paced
  rw [List.pairwise_append]
  constructor
  · intro h
    refine ⟨h.1, ?_⟩
    intro x hx hanswers
    exact h.2.2 x hx _ List.mem_cons_self hanswers rfl
  · intro h
    refine ⟨h.1, List.pairwise_singleton _ _, ?_⟩
    intro x hx b hb hanswers _
    rw [List.mem_singleton.mp hb]
    exact h.2 x hx hanswers

/-- The loop's last answer is the last one of the log. -/
structure Answered (s : State) (l : RegistrationLoop) : Prop where
  le : ∀ x ∈ s.log, x.2.answers = true → ∃ resp, l.lastRegisterResp = some resp ∧ x.1 ≤ resp
  mem : ∀ resp, l.lastRegisterResp = some resp → ∃ x ∈ s.log, x.2.answers = true ∧ x.1 = resp

theorem elapsed_iff (now instant : Nat) :
    regIntervalMs ≤ elapsedMs now instant ↔ instant + regIntervalMs * 1000000 ≤ now := by
  have hpos : 0 < regIntervalMs * 1000000 := by decide
  unfold elapsedMs
  rw [Nat.le_div_iff_mul_le (by decide)]
  omega

theorem Answered.expired_iff {s : State} {l : RegistrationLoop} (h : Answered s l) :
    l.expired s.now ↔
      ∀ x ∈ s.log, x.2.answers = true → x.1 + regIntervalMs * 1000000 ≤ s.now := by
  constructor
  · intro hexpired x hx hanswers
    obtain ⟨resp, hresp, hle⟩ := h.le x hx hanswers
    have hold := (elapsed_iff _ _).mp (hexpired resp hresp)
    exact Nat.le_trans (Nat.add_le_add_right hle _) hold
  · intro hold resp hresp
    obtain ⟨x, hx, hanswers, rfl⟩ := h.mem resp hresp
    exact (elapsed_iff _ _).mpr (hold x hx hanswers)

/-! ## Handling an answer -/

/-- More is sent, but no `RegisterPeer`, and the loop goes on as it was or has failed. -/
structure Extends (s t : State) : Prop where
  now : t.now = s.now
  log : ∃ more, t.log = s.log ++ more ∧
    ∀ x ∈ more, x.1 = s.now ∧ x.2.registers = false ∧ x.2.answers = false
  registration : t.registration = s.registration ∨ t.registration = none

theorem Extends.of_same {s t : State} (hnow : t.now = s.now) (hlog : t.log = s.log)
    (hregistration : t.registration = s.registration ∨ t.registration = none) : Extends s t := by
  refine ⟨hnow, ⟨[], ?_, ?_⟩, hregistration⟩
  · rw [hlog, List.append_nil]
  · intro x hx
    cases hx

theorem Extends.trans {s t u : State} (h : Extends s t) (h' : Extends t u) : Extends s u := by
  obtain ⟨hnow, ⟨more, hlog, hmore⟩, hregistration⟩ := h
  obtain ⟨hnow', ⟨more', hlog', hmore'⟩, hregistration'⟩ := h'
  rw [hnow] at hmore'
  refine ⟨hnow'.trans hnow, ⟨more ++ more', ?_, ?_⟩, ?_⟩
  · rw [hlog', hlog, List.append_assoc]
  · intro x hx
    rcases List.mem_append.mp hx with hx | hx
    · exact hmore x hx
    · exact hmore' x hx
  · rcases hregistration' with heq | hnone
    · rw [heq]
      exact hregistration
    · exact Or.inr hnone

theorem extends_emit {s : State} {output : Output}
    (hother : Entry.registers (.sent output) = false) : Extends s (s.emit output) := by
  refine ⟨rfl, ⟨[(s.now, .sent output)], rfl, ?_⟩, Or.inl rfl⟩
  intro x hx
  rw [List.mem_singleton.mp hx]
  exact ⟨rfl, hother, rfl⟩

/-- More is sent and nothing else has changed. -/
structure Quiet (s t : State) : Prop extends Extends s t where
  status : t.status = s.status
  keyConfirmed : t.keyConfirmed = s.keyConfirmed

theorem Quiet.refl (s : State) : Quiet s s := ⟨.of_same rfl rfl (Or.inl rfl), rfl, rfl⟩

theorem Quiet.trans {s t u : State} (h : Quiet s t) (h' : Quiet t u) : Quiet s u :=
  ⟨h.toExtends.trans h'.toExtends, h'.status.trans h.status, h'.keyConfirmed.trans h.keyConfirmed⟩

theorem quiet_emit {s : State} {output : Output}
    (hother : Entry.registers (.sent output) = false) : Quiet s (s.emit output) :=
  ⟨extends_emit hother, rfl, rfl⟩

theorem quiet_failed (s : State) : Quiet s s.failed := ⟨.of_same rfl rfl (Or.inr rfl), rfl, rfl⟩

theorem quiet_sendLocalAddr (s : State) (io : Io) (peer : Bytes) (relay : String) :
    Quiet s (s.sendLocalAddr io peer relay) := by
  unfold State.sendLocalAddr
  split
  · exact .refl s
  · split
    · exact quiet_emit rfl
    · exact .refl s

theorem quiet_onRequestRelay (s : State) (uuid : String) (socketAddr : Bytes) (relay : String) :
    Quiet s (s.onRequestRelay uuid socketAddr relay) := by
  unfold State.onRequestRelay
  split
  · exact quiet_emit rfl
  · exact .refl s

theorem quiet_onPunchHole {s t : State} {io : Io} {socketAddr : Bytes} {relay : String}
    {natType : Option NatType} (h : s.onPunchHole io socketAddr relay natType = some t) :
    Quiet s t := by
  unfold State.onPunchHole at h
  simp only at h
  split at h
  case h_1 => cases h
  case h_2 peerAddr _ =>
    have hsent : ∀ output, Entry.registers (.sent output) = false →
        Quiet s (if io.sends = true then s.emit output else s) := by
      intro output hother
      split
      · exact quiet_emit hother
      · exact .refl s
    split at h
    case h_1 =>
      cases h
      exact hsent _ rfl
    case h_2 relay' _ =>
      split at h
      · cases h
        exact (hsent _ rfl).trans (quiet_emit rfl)
      · split at h
        · cases h
          exact (hsent _ rfl).trans (quiet_emit rfl)
        · cases h
          exact hsent _ rfl

/-- An answer has been logged, and is the loop's last. -/
def answered (s : State) (l : RegistrationLoop) (msg : RendezvousMessage) : State :=
  { s.record (.received msg) with
    registration :=
      some { l with lastRegisterResp := some s.now, fails := 0, regTimeout := minRegTimeoutMs } }

theorem extends_onRegisterPkResponse (s : State) (result keepAlive : Int32) :
    Extends s (s.onRegisterPkResponse result keepAlive) := by
  unfold State.onRegisterPkResponse
  simp only
  split_ifs <;> exact .of_same rfl rfl (Or.inl rfl)

theorem sendRegisterPk_some {s t : State} {io : Io} (h : s.sendRegisterPk io = some t) :
    t = s.emit (.registerPk s.config.deviceId s.uuid s.signingKey "") ∧ io.sends = true := by
  unfold State.sendRegisterPk at h
  split at h
  case isTrue hsends =>
    cases h
    exact ⟨rfl, hsends⟩
  case isFalse => cases h

/-- The message answers a registration. -/
def RendezvousMessage.confirms : RendezvousMessage → Bool
  | .registerPeerResponse _ | .registerPkResponse _ _ => true
  | _ => false

/-- A message that answers no registration changes neither the status nor the confirmation. -/
theorem quiet_handleResponse {s : State} {io : Io} {l : RegistrationLoop}
    {msg : RendezvousMessage} (hmsg : msg.confirms = false) :
    Quiet (answered s l msg) (s.handleResponse io l msg) := by
  unfold State.handleResponse
  cases msg with
  | registerPeerResponse | registerPkResponse => cases hmsg
  | punchHole socketAddr relayServer natType =>
    show Quiet _ (((answered s l _).onPunchHole io socketAddr relayServer natType).getD _)
    cases hpunch : (answered s l _).onPunchHole io socketAddr relayServer natType with
    | none => exact quiet_failed _
    | some t => exact quiet_onPunchHole hpunch
  | requestRelay uuid socketAddr relayServer => exact quiet_onRequestRelay _ _ _ _
  | fetchLocalAddr socketAddr relayServer =>
    dsimp only
    split
    · exact quiet_failed _
    · exact quiet_sendLocalAddr _ _ _ _
  | configureUpdate serial => exact ⟨.of_same rfl rfl (Or.inl rfl), rfl, rfl⟩
  | other | empty => exact .refl _

theorem extends_handleResponse (s : State) (io : Io) (l : RegistrationLoop)
    (msg : RendezvousMessage) : Extends (answered s l msg) (s.handleResponse io l msg) := by
  cases msg with
  | registerPkResponse result keepAlive => exact extends_onRegisterPkResponse _ _ _
  | registerPeerResponse requestPk =>
    cases requestPk with
    | false => exact .of_same rfl rfl (Or.inl rfl)
    | true =>
      simp only [State.handleResponse, if_true]
      split
      case h_1 t hsent =>
        obtain ⟨rfl, -⟩ := sendRegisterPk_some hsent
        exact (extends_emit rfl).trans (.of_same rfl rfl (Or.inl rfl))
      case h_2 => exact .of_same rfl rfl (Or.inr rfl)
  | punchHole | requestRelay | fetchLocalAddr | configureUpdate | other | empty =>
    exact (quiet_handleResponse rfl).toExtends

/-- After an answer the log is paced as before. -/
theorem paced_handleResponse (s : State) (io : Io) (l : RegistrationLoop)
    (msg : RendezvousMessage) : Paced (s.handleResponse io l msg).log ↔ Paced s.log := by
  obtain ⟨-, ⟨more, hlog, hmore⟩, -⟩ := extends_handleResponse s io l msg
  rw [hlog]
  show Paced (s.log ++ [(s.now, .received msg)] ++ more) ↔ _
  rw [paced_append_quiet fun x hx => (hmore x hx).2.1]
  refine paced_append_quiet ?_
  intro x hx
  rw [List.mem_singleton.mp hx]
  rfl

/-- What is done for an answer keeps the status in line with the confirmation exactly if the answer
meets the condition. -/
theorem confirmed_handleResponse {s : State} {io : Io} {l : RegistrationLoop}
    {msg : RendezvousMessage} (h : s.status = .registered → s.keyConfirmed = true) :
    ((s.handleResponse io l msg).status = .registered →
        (s.handleResponse io l msg).keyConfirmed = true) ↔
      Meets s (.recv io (.message msg)) := by
  cases msg with
  | registerPeerResponse requestPk =>
    cases requestPk with
    | false => simp [State.handleResponse, Meets, State.record]
    | true =>
      cases hsends : io.sends with
      | true =>
        simp [State.handleResponse, Meets, State.record, State.sendRegisterPk, State.emit, hsends]
      | false =>
        simp [State.handleResponse, Meets, State.record, State.sendRegisterPk, State.failed, hsends]
  | registerPkResponse result keepAlive =>
    -- the keep-alive time concerns neither
    have hstatus : (s.handleResponse io l (.registerPkResponse result keepAlive)).status =
        if result = 0 then .registered
        else if result = 2 then s.status
        else if result = 3 then .error "Device ID already exists"
        else if result = 5 then .error "Invalid ID format"
        else s.status := by
      simp only [State.handleResponse, State.onRegisterPkResponse]
      split_ifs <;> rfl
    have hconfirmed : (s.handleResponse io l (.registerPkResponse result keepAlive)).keyConfirmed =
        if result = 0 then true else if result = 2 then false else s.keyConfirmed := by
      simp only [State.handleResponse, State.onRegisterPkResponse]
      split_ifs <;> rfl
    rw [hstatus, hconfirmed]
    simp only [Meets]
    by_cases h0 : result = 0
    · have h2 : result ≠ 2 := by
        rw [h0]
        decide
      simp [h0]
    · by_cases h2 : result = 2
      · simp [h2]
      · have hkept : (if result = 3 then RendezvousStatus.error "Device ID already exists"
            else if result = 5 then .error "Invalid ID format" else s.status) = .registered →
            s.status = .registered := by
          split_ifs <;> simp
        rw [if_neg h0, if_neg h2, if_neg h0, if_neg h2]
        exact iff_of_true (fun hregistered => h (hkept hregistered)) fun heq => absurd heq h2
  | punchHole | requestRelay | fetchLocalAddr | configureUpdate | other | empty =>
    rw [(quiet_handleResponse rfl).status, (quiet_handleResponse rfl).keyConfirmed]
    exact iff_of_true h trivial

/-! ## One tick -/

/-- A tick sends nothing while no heartbeat is due, or the key, or a `RegisterPeer`, or it
fails. -/
theorem tick_cases (s : State) (io : Io) (l : RegistrationLoop) :
    ((s.tick io l).log = s.log ∧ (io.sends = true → ¬ l.timeout s.now)) ∨
      (∃ id uuid pk, s.keyConfirmed = false ∧
        (s.tick io l).log = s.log ++ [(s.now, .sent (.registerPk id uuid pk ""))]) ∨
      ∃ id serial, s.keyConfirmed = true ∧ io.sends = true ∧
        (l.timeout s.now ∨ l.expired s.now) ∧
        (s.tick io l).log = s.log ++ [(s.now, .sent (.registerPeer id serial))] := by
  unfold State.tick
  dsimp only
  split
  case isTrue hdue =>
    have hdue' : l.timeout s.now ∨ l.expired s.now := hdue.imp_right And.right
    cases hkey : s.keyConfirmed with
    | false =>
      cases hsends : io.sends with
      | false =>
        refine Or.inl ⟨?_, fun h => nomatch h⟩
        simp [State.sendRegister, State.sendRegisterPk, State.failed, hkey, hsends]
      | true =>
        refine Or.inr (Or.inl ⟨s.config.deviceId, s.uuid, s.signingKey, rfl, ?_⟩)
        simp [State.sendRegister, State.sendRegisterPk, State.emit, State.record, hkey, hsends]
    | true =>
      cases hsends : io.sends with
      | false =>
        refine Or.inl ⟨?_, fun h => nomatch h⟩
        simp [State.sendRegister, State.sendRegisterPeer, State.failed, hkey, hsends]
      | true =>
        refine Or.inr (Or.inr ⟨s.config.deviceId, s.serial, rfl, rfl, hdue', ?_⟩)
        simp [State.sendRegister, State.sendRegisterPeer, State.emit, State.record, hkey, hsends]
  case isFalse hdue => exact Or.inl ⟨rfl, fun _ htimeout => hdue (Or.inl htimeout)⟩

/-- A tick changes neither the status nor the confirmation nor the loop's last answer. -/
theorem tick_frame (s : State) (io : Io) (l : RegistrationLoop) :
    (s.tick io l).status = s.status ∧ (s.tick io l).keyConfirmed = s.keyConfirmed ∧
      ∀ l', (s.tick io l).registration = some l' → l'.lastRegisterResp = l.lastRegisterResp := by
  have hnext : ∀ (c : Prop) [Decidable c],
      (if c then { l with regTimeout := l.regTimeout + minRegTimeoutMs, fails := l.fails + 1 }
        else l).lastRegisterResp = l.lastRegisterResp := by
    intro c _
    split <;> rfl
  unfold State.tick
  dsimp only
  split
  · split
    case h_1 t hsent =>
      have hkept : t.status = s.status ∧ t.keyConfirmed = s.keyConfirmed := by
        unfold State.sendRegister State.sendRegisterPk State.sendRegisterPeer at hsent
        split_ifs at hsent <;> cases hsent <;> exact ⟨rfl, rfl⟩
      refine ⟨hkept.1, hkept.2, ?_⟩
      rintro l' ⟨⟩
      exact hnext _
    case h_2 =>
      refine ⟨rfl, rfl, ?_⟩
      intro l' hl'
      cases hl'
  · refine ⟨rfl, rfl, ?_⟩
    rintro l' ⟨⟩
    exact hnext _

/-- A tick keeps the log paced exactly if no heartbeat is sent before its time. -/
theorem paced_tick {s : State} {io : Io} {l : RegistrationLoop} (hloop : s.registration = some l)
    (hanswered : Answered s l) (h : Paced s.log) :
    Paced (s.tick io l).log ↔ Meets s (.tick io) := by
  have hmeets : Meets s (.tick io) ↔ (s.keyConfirmed = true → io.sends = true →
      l.timeout s.now → l.expired s.now) := by
    simp only [Meets, hloop, Option.some.injEq, forall_eq']
  rw [hmeets]
  rcases tick_cases s io l with ⟨hlog, hnot⟩ | ⟨id, uuid, pk, hkey, hlog⟩ |
    ⟨id, serial, hkey, hsends, hdue, hlog⟩
  · rw [hlog]
    exact iff_of_true h fun _ hsends htimeout => absurd htimeout (hnot hsends)
  · rw [hlog, hkey]
    refine iff_of_true ((paced_append_quiet ?_).mpr h) fun hfalse => nomatch hfalse
    intro x hx
    rw [List.mem_singleton.mp hx]
    rfl
  · rw [hlog, paced_append_registerPeer, ← hanswered.expired_iff, and_iff_right h]
    constructor
    · intro hexpired _ _ _
      exact hexpired
    · intro hsound
      exact hdue.elim (hsound hkey hsends) fun hexpired => hexpired

/-! ## Runs -/

/-- The log is in the past, and the loop, while it runs, knows the last answer. -/
structure Inv (s : State) : Prop where
  past : ∀ x ∈ s.log, x.1 ≤ s.now
  answered : ∀ l, s.registration = some l → Answered s l

theorem Answered.append {s t : State} {l l' : RegistrationLoop} (h : Answered s l)
    (hresp : l'.lastRegisterResp = l.lastRegisterResp) {more : List (Nat × Entry)}
    (hlog : t.log = s.log ++ more) (hmore : ∀ x ∈ more, x.2.answers = false) : Answered t l' := by
  constructor
  · intro x hx hanswers
    rw [hlog] at hx
    rw [hresp]
    rcases List.mem_append.mp hx with hx | hx
    · exact h.le x hx hanswers
    · rw [hmore x hx] at hanswers
      cases hanswers
  · intro resp hl'
    rw [hresp] at hl'
    obtain ⟨x, hx, hanswers⟩ := h.mem resp hl'
    exact ⟨x, hlog ▸ List.mem_append_left _ hx, hanswers⟩

/-- The loop and the log stay, or the loop is left; time passes. -/
theorem inv_of_same {s t : State} (h : Inv s) (hnow : s.now ≤ t.now) (hlog : t.log = s.log)
    (hregistration : t.registration = s.registration ∨ t.registration = none) : Inv t := by
  constructor
  · intro x hx
    rw [hlog] at hx
    exact Nat.le_trans (h.past x hx) hnow
  · intro l hl
    rcases hregistration with heq | hnone
    · rw [heq] at hl
      have hanswered := h.answered l hl
      exact hanswered.append rfl (hlog.trans (List.append_nil _).symm) fun x hx => nomatch hx
    · rw [hnone] at hl
      cases hl

theorem inv_extends {s t : State} (h : Inv s) (hextends : Extends s t) : Inv t := by
  obtain ⟨hnow, ⟨more, hlog, hmore⟩, hregistration⟩ := hextends
  constructor
  · intro x hx
    rw [hlog] at hx
    rw [hnow]
    rcases List.mem_append.mp hx with hx | hx
    · exact h.past x hx
    · exact Nat.le_of_eq (hmore x hx).1
  · intro l hl
    rcases hregistration with heq | hnone
    · rw [heq] at hl
      exact (h.answered l hl).append rfl hlog fun x hx => (hmore x hx).2.2
    · rw [hnone] at hl
      cases hl

theorem inv_answered {s : State} (h : Inv s) (l : RegistrationLoop) (msg : RendezvousMessage) :
    Inv (answered s l msg) := by
  have hmem : ∀ x ∈ (answered s l msg).log, x.1 ≤ s.now := by
    intro x hx
    rcases List.mem_append.mp hx with hx | hx
    · exact h.past x hx
    · rw [List.mem_singleton.mp hx]
  refine ⟨hmem, ?_⟩
  rintro _ ⟨⟩
  constructor
  · intro x hx _
    exact ⟨s.now, rfl, hmem x hx⟩
  · rintro resp ⟨⟩
    exact ⟨_, List.mem_append_right _ List.mem_cons_self, rfl, rfl⟩

theorem inv_tick {s : State} (h : Inv s) {l : RegistrationLoop} (hloop : s.registration = some l)
    (io : Io) : Inv (s.tick io l) := by
  obtain ⟨-, -, hresp⟩ := tick_frame s io l
  have hnow : (s.tick io l).now = s.now := by
    unfold State.tick State.sendRegister State.sendRegisterPk State.sendRegisterPeer
    dsimp only
    split_ifs <;> rfl
  have hlog : ∃ more, (s.tick io l).log = s.log ++ more ∧
      ∀ x ∈ more, x.1 = s.now ∧ x.2.answers = false := by
    rcases tick_cases s io l with ⟨hlog, -⟩ | ⟨id, uuid, pk, -, hlog⟩ | ⟨id, serial, -, -, -, hlog⟩
    · exact ⟨[], hlog.trans (List.append_nil _).symm, fun x hx => nomatch hx⟩
    all_goals
      refine ⟨_, hlog, ?_⟩
      intro x hx
      rw [List.mem_singleton.mp hx]
      exact ⟨rfl, rfl⟩
  obtain ⟨more, hlog, hmore⟩ := hlog
  constructor
  · intro x hx
    rw [hlog] at hx
    rw [hnow]
    rcases List.mem_append.mp hx with hx | hx
    · exact h.past x hx
    · exact Nat.le_of_eq (hmore x hx).1
  · intro l' hl'
    exact (h.answered l hloop).append (hresp l' hl') hlog fun x hx => (hmore x hx).2

theorem inv_step {s t : State} {e : Event} (h : Inv s) (hstep : step s e = some t) : Inv t := by
  cases e with
  | recv io received =>
    obtain ⟨l, hloop, rfl⟩ := Option.map_eq_some_iff.mp hstep
    cases received with
    | message msg => exact inv_extends (inv_answered h l msg) (extends_handleResponse s io l msg)
    | undecodable => exact h
    | error reason => exact inv_of_same h (Nat.le_refl _) rfl (Or.inr rfl)
  | tick io =>
    obtain ⟨l, hloop, rfl⟩ := Option.map_eq_some_iff.mp hstep
    exact inv_tick h hloop io
  | shutdown =>
    obtain ⟨l, hloop, rfl⟩ := Option.map_eq_some_iff.mp hstep
    exact inv_of_same h (Nat.le_refl _) rfl (Or.inr rfl)
  | stop | updateConfig config =>
    cases hstep
    exact inv_of_same h (Nat.le_refl _) rfl (Or.inl rfl)
  | setListenPort port =>
    cases hstep
    split
    · exact h
    · exact inv_of_same h (Nat.le_refl _) rfl (Or.inl rfl)
  | pass nanos =>
    cases hstep
    exact inv_of_same h (Nat.le_add_right _ _) rfl (Or.inl rfl)

theorem inv_init {s : State} (h : system.init s) : Inv s := by
  obtain ⟨-, hloop, hlog⟩ := h
  have hempty : ∀ x, x ∉ s.log := by
    intro x hx
    rw [hlog] at hx
    cases hx
  refine ⟨fun x hx => absurd hx (hempty x), ?_⟩
  intro l hl
  rw [hloop] at hl
  cases hl
  refine ⟨fun x hx => absurd hx (hempty x), ?_⟩
  intro resp hresp
  cases hresp

/-- One step. -/
theorem sound_step {s t : State} {e : Event} (hinv : Inv s) (h : Sound s)
    (hstep : step s e = some t) : Sound t ↔ Meets s e := by
  have hkept : ∀ u : State, u.status = s.status → u.keyConfirmed = s.keyConfirmed →
      u.log = s.log → Sound u := by
    intro u hstatus hkey hlog
    refine ⟨?_, ?_⟩
    · rw [hstatus, hkey]
      exact h.confirmed
    · rw [hlog]
      exact h.paced
  have hleft : ∀ u : State, u.status = .disconnected → u.log = s.log → Sound u := by
    intro u hstatus hlog
    refine ⟨?_, ?_⟩
    · intro hregistered
      rw [hstatus] at hregistered
      cases hregistered
    · rw [hlog]
      exact h.paced
  cases e with
  | recv io received =>
    obtain ⟨l, hloop, rfl⟩ := Option.map_eq_some_iff.mp hstep
    cases received with
    | message msg =>
      have hpaced := (paced_handleResponse s io l msg).mpr h.paced
      rw [← confirmed_handleResponse h.confirmed]
      exact ⟨fun hsound => hsound.confirmed, fun hconfirmed => ⟨hconfirmed, hpaced⟩⟩
    | undecodable => exact iff_of_true h trivial
    | error reason => exact iff_of_true (hleft _ rfl rfl) trivial
  | tick io =>
    obtain ⟨l, hloop, rfl⟩ := Option.map_eq_some_iff.mp hstep
    obtain ⟨hstatus, hkey, -⟩ := tick_frame s io l
    rw [← paced_tick hloop (hinv.answered l hloop) h.paced]
    refine ⟨fun hsound => hsound.paced, fun hpaced => ⟨?_, hpaced⟩⟩
    rw [hstatus, hkey]
    exact h.confirmed
  | shutdown =>
    obtain ⟨l, hloop, rfl⟩ := Option.map_eq_some_iff.mp hstep
    exact iff_of_true (hleft _ rfl rfl) trivial
  | stop =>
    cases hstep
    exact iff_of_true (hleft _ rfl rfl) trivial
  | updateConfig config | pass nanos =>
    cases hstep
    exact iff_of_true (hkept _ rfl rfl rfl) trivial
  | setListenPort port =>
    cases hstep
    refine iff_of_true ?_ trivial
    split
    · exact h
    · exact hkept _ rfl rfl rfl

theorem clearsKey_step {s t : State} {e : Event} (hstep : step s e = some t) : ClearsKey e t := by
  rintro io rfl
  obtain ⟨l, -, rfl⟩ := Option.map_eq_some_iff.mp hstep
  simp only [State.handleResponse, if_true]
  split
  case h_1 t hsent =>
    obtain ⟨rfl, -⟩ := sendRegisterPk_some hsent
    rfl
  case h_2 => rfl

/-- **Registration.** Over every run, the status is `Registered` only with a confirmed key, requests
for the key clear the confirmation, and no `RegisterPeer` is sent within the registration interval
after an answer, if and only if every step meets the condition. -/
theorem registration_iff {trace : List (State × Event × State)} {s : State}
    (h : system.Trace trace s) :
    (∀ x ∈ trace, Sound x.2.2 ∧ ClearsKey x.2.1 x.2.2) ↔ ∀ x ∈ trace, Meets x.1 x.2.1 := by
  have hsound : (∀ x ∈ trace, Sound x.2.2) ↔ ∀ x ∈ trace, Meets x.1 x.2.1 := by
    refine TSys.Trace.forall_post_iff ?_ ?_ h
    · rintro s₀ ⟨hstatus, -, hlog⟩
      refine ⟨?_, ?_⟩
      · intro hregistered
        rw [hstatus] at hregistered
        cases hregistered
      · rw [hlog]
        exact List.Pairwise.nil
    · intro s₁ e t hreachable hsound hstep
      have hinv : Inv s₁ := TSys.invariant (fun _ => inv_init) (fun _ _ _ => inv_step) hreachable
      exact sound_step hinv hsound hstep
  rw [← hsound]
  refine forall₂_congr ?_
  intro x hx
  exact and_iff_left (clearsKey_step (h.step_of_mem hx).2)

/-- A loop that has just been entered. -/
def entered : State where
  config := { deviceId := "123456789", devicePassword := "", rendezvousServer := "hbbs" }
  signingKey := [1]
  uuid := [2]

/-- The server takes the key. -/
theorem registration_key_taken : ∃ trace s, system.Trace trace s ∧ s.status = .registered ∧
    ∀ x ∈ trace, Sound x.2.2 ∧ ClearsKey x.2.1 x.2.2 := by
  have htrace := TSys.Trace.step (TSys.Trace.init (T := system) (s := entered) ⟨rfl, rfl, rfl⟩)
    (show step entered (.recv {} (.message (.registerPkResponse 0 0))) = some _ from rfl)
  refine ⟨_, _, htrace, rfl, (registration_iff htrace).mpr ?_⟩
  intro x hx
  rw [List.mem_singleton.mp hx]
  intro hresult
  exact absurd hresult (by decide)

instance (log : List (Nat × Entry)) : Decidable (Paced log) :=
  inferInstanceAs (Decidable (List.Pairwise _ _))

/-- The server asks for the key, and the status is `Registered`; it takes the key 2.9 seconds
before the first heartbeat. -/
theorem registered_unconfirmed :
    (∃ s, system.Reachable s ∧ s.status = .registered ∧ s.keyConfirmed = false) ∧
    ∃ s, system.Reachable s ∧ ¬ Paced s.log := by
  have hstart : system.Reachable entered := .init ⟨rfl, rfl, rfl⟩
  constructor
  · exact ⟨_, hstart.step (show step entered (.recv {} (.message (.registerPeerResponse true)))
      = some _ from rfl), rfl, rfl⟩
  · obtain ⟨s, hrun, hlate⟩ : ∃ s,
        [.tick {}, .pass 100000000, .recv {} (.message (.registerPkResponse 0 0)), .pass 2900000000,
          .tick {}].foldlM step entered = some s ∧ ¬ Paced s.log := ⟨_, rfl, by decide⟩
    exact ⟨s, TSys.ofFn_reachable hstart hrun, hlate⟩

end StreamBox.RustDesk.Rendezvous
