import StreamBox.Lib.Slots
import StreamBox.Webrtc.Streamer

/-!
# Sessions and their pipeline

A session belongs to the pipeline that its `create_session` got from
`ensure_video_pipeline`, under the codec that the call read before that.
`stop_pipeline_if_idle` counts sessions and subscribers first and stops the pipeline later.

* **Idle stop** — `sessions_run`: as long as a call that is about to stop an idle pipeline
  finds no session and no creation, and no creation gets that pipeline before the stop, the
  pipelines of all sessions and creations run.
* **Quiescence** — `consistent_of_serial`: when also no call changes the codec or the
  configuration while another one creates a session or does the same, a session has the
  codec of its pipeline, which is the one in the slot and has the stored configuration.
* **Failures** — `idle_stop_strands`, `codec_changes_under_creation`.
-/

namespace StreamBox.Webrtc.Streamer

open StreamBox.Lib StreamBox.Video

namespace Call

inductive Kind
  | createSession | closeSession | cleanup | setVideoCodec | updateVideoConfig | release
  | returned
  deriving DecidableEq, Repr

def kind : Call → Kind
  | createSession _ => .createSession
  | closeSession _ _ => .closeSession
  | cleanup _ => .cleanup
  | setVideoCodec _ _ => .setVideoCodec
  | updateVideoConfig _ _ _ _ => .updateVideoConfig
  | release _ => .release
  | returned => .returned

/-- Such a call takes the pipeline away from its sessions. -/
def Kind.reconfigures : Kind → Bool
  | setVideoCodec | updateVideoConfig | release => true
  | createSession | closeSession | cleanup | returned => false

def reconfigures (call : Call) : Bool :=
  call.kind.reconfigures

/-- The pipeline that a `create_session` has from `ensure_video_pipeline`. -/
def holds : Call → Option Nat
  | createSession (.config _ p) | createSession (.new _ p) | createSession (.subscribe _ p)
  | createSession (.store _ p) => some p
  | _ => none

/-- Where the call is in `stop_pipeline_if_idle`. -/
def idlePc : Call → Option IdleStop
  | closeSession _ (.idle pc) | cleanup (.idle pc) | setVideoCodec _ (.idle pc)
  | updateVideoConfig _ _ _ (.idle pc) | release (.idle pc) => some pc
  | _ => none

end Call

/-- The pipeline that `stop_pipeline_if_idle` has read. -/
def IdleStop.pipeline : IdleStop → Option Nat
  | .test _ p | .stop p => some p
  | _ => none

/-- A session or a call that creates one has the pipeline. -/
def Uses (s : State) (p : Nat) : Prop :=
  (∃ session ∈ s.sessions, session.pipeline = p) ∨ ∃ call ∈ s.calls, call.holds = some p

instance (s : State) (p : Nat) : Decidable (Uses s p) :=
  inferInstanceAs (Decidable (_ ∨ _))

/-! ## The condition on the steps -/

/-- A call that decides to stop an idle pipeline finds no session and no creation that has
it. -/
def IdleStop.Timely (s : State) : IdleStop → Prop
  | .test sessionCount p => sessionCount = 0 → s.subscriberCount p = 0 →
      s.sessions = [] ∧ ∀ call ∈ s.calls, call.holds ≠ some p
  | _ => True

/-- Also, a creation gets no pipeline that is about to be stopped. -/
def CallTimely (s : State) (call : Call) : Prop :=
  (∀ pc ∈ call.idlePc, pc.Timely s) ∧
  (call.kind = .createSession → call.ensures →
    ∀ p ∈ s.running, ∀ other ∈ s.calls, other.idlePc ≠ some (.stop p))

/-- No thread ends on its own, and no one else stops a pipeline, while it is in use. -/
def Timely (s : State) : Event → Prop
  | .advance i _ => ∀ call ∈ s.calls[i]?, CallTimely s call
  | .opened p ok => ok = false → ¬Uses s p
  | .stop p | .giveUp p | .autoStop p => ¬Uses s p
  | _ => True

/-- A call that reconfigures begins while no other does so or creates a session; sessions
are created and others ensure the pipeline while none reconfigures. -/
def Serial (s : State) : Event → Prop
  | .call call =>
    (call.kind = .createSession ∨ call.reconfigures →
      ∀ other ∈ s.calls, other.reconfigures = false) ∧
    (call.reconfigures → ∀ other ∈ s.calls, other.kind ≠ .createSession) ∧
    call.kind ≠ .release
  | .ensure _ => ∀ other ∈ s.calls, other.reconfigures = false
  | _ => True

/-- The calls that a run makes. -/
def Begins (kinds : List Call.Kind) (_ : State) : Event → Prop
  | .call call => call.kind ∈ kinds
  | _ => True

/-- The calls that create and close sessions. -/
def sessionCalls : List Call.Kind :=
  [.createSession, .closeSession, .cleanup]

instance (s : State) : (pc : IdleStop) → Decidable (pc.Timely s)
  | .test _ _ => inferInstanceAs (Decidable (_ → _))
  | .count | .slot _ | .stop _ => inferInstanceAs (Decidable True)

instance (s : State) (call : Call) : Decidable (CallTimely s call) :=
  inferInstanceAs (Decidable (_ ∧ _))

instance (s : State) : (e : Event) → Decidable (Timely s e)
  | .advance i _ => inferInstanceAs (Decidable (∀ call ∈ s.calls[i]?, CallTimely s call))
  | .opened _ _ => inferInstanceAs (Decidable (_ → _))
  | .stop p | .giveUp p | .autoStop p => inferInstanceAs (Decidable ¬Uses s p)
  | .call _ | .ensure _ | .subscribe _ | .receiverEnds _ | .disconnect _ | .setCaptureDevice _
  | .leave _ | .dropStream _ | .monitor _ => inferInstanceAs (Decidable True)

instance (s : State) : (e : Event) → Decidable (Serial s e)
  | .call _ => inferInstanceAs (Decidable (_ ∧ _))
  | .ensure _ => inferInstanceAs (Decidable (∀ _ ∈ _, _))
  | .advance _ _ | .opened _ _ | .stop _ | .giveUp _ | .autoStop _ | .subscribe _
  | .receiverEnds _ | .disconnect _ | .setCaptureDevice _ | .leave _ | .dropStream _
  | .monitor _ => inferInstanceAs (Decidable True)

instance (kinds : List Call.Kind) (s : State) : (e : Event) → Decidable (Begins kinds s e)
  | .call _ => inferInstanceAs (Decidable (_ ∈ _))
  | .advance _ _ | .ensure _ | .opened _ _ | .stop _ | .giveUp _ | .autoStop _ | .subscribe _
  | .receiverEnds _ | .disconnect _ | .setCaptureDevice _ | .leave _ | .dropStream _
  | .monitor _ => inferInstanceAs (Decidable True)

/-! ## The invariant -/

/-- The codec is the streamer's, and the pipeline runs in its slot. -/
def Settled (s : State) (codec : VideoCodecType) (p : Nat) : Prop :=
  s.running = some p ∧ codec = s.videoCodec

def SessionsOk (s : State) : Prop :=
  ∀ session ∈ s.sessions, Settled s session.config.codec session.pipeline

def CreateOk (s : State) : Call → Prop
  | .createSession (.ensure codec) => codec = s.videoCodec
  | .createSession (.config codec p) => Settled s codec p
  | .createSession (.new config p) | .createSession (.subscribe config p)
  | .createSession (.store config p) => Settled s config.codec p
  | _ => True

/-- What a call that reconfigures knows while no one else creates. -/
def ReconfigureOk (s : State) : Call → Prop
  | .setVideoCodec _ .compare | .setVideoCodec _ .drain => SessionsOk s
  | .setVideoCodec _ (.idle _) | .setVideoCodec _ .stop | .setVideoCodec _ .clear =>
    s.sessions = []
  | .setVideoCodec _ .write | .setVideoCodec _ .ensure =>
    s.sessions = [] ∧ s.videoPipeline = none
  | .updateVideoConfig _ _ _ .compare => SessionsOk s
  | .updateVideoConfig _ _ _ .stop | .updateVideoConfig _ _ _ .clear => True
  | .updateVideoConfig _ _ _ .drain => s.videoPipeline = none
  | .updateVideoConfig _ _ _ (.idle _) | .updateVideoConfig _ _ _ .write =>
    s.sessions = [] ∧ s.videoPipeline = none
  | _ => False

/-- No call reconfigures, or one does and no other creates. -/
inductive Phase (s : State) : Prop
  | calm (sessions : SessionsOk s)
      (calls : ∀ call ∈ s.calls, call.reconfigures = false ∧ CreateOk s call)
  | busy (i : Nat) (call : Call) (at_i : s.calls[i]? = some call)
      (reconfigures : call.reconfigures) (ok : ReconfigureOk s call)
      (others : ∀ j other, j ≠ i → s.calls[j]? = some other →
        other.reconfigures = false ∧ other.kind ≠ .createSession)

structure Core (s : State) : Prop where
  flags : ∀ (p : Nat) (P : Pipeline), s.pipelines[p]? = some P → P.runningFlag = P.running
  slot : ∀ p, s.videoPipeline = some p → ∃ P : Pipeline, s.pipelines[p]? = some P ∧
    P.config = State.pipelineConfig s.config s.videoCodec

def IdleOk (s : State) (pc : IdleStop) : Prop :=
  (∀ p, pc.pipeline = some p → p < s.pipelines.length) ∧ ∀ p, pc = .stop p → ¬Uses s p

structure Consistency (s : State) : Prop where
  core : Core s
  idle : ∀ call ∈ s.calls, ∀ pc, call.idlePc = some pc → IdleOk s pc
  phase : Phase s

/-! ## Steps that leave the sessions their pipelines -/

/-- The configuration stays, and so does the running pipeline when it is in use. -/
structure Calm (s t : State) : Prop where
  core : Core s → Core t
  codec : t.videoCodec = s.videoCodec
  length : s.pipelines.length ≤ t.pipelines.length
  running : ∀ p, s.running = some p → Uses s p → t.running = some p

theorem running_iff {s : State} {p : Nat} : s.running = some p ↔
    s.videoPipeline = some p ∧ ∃ P : Pipeline, s.pipelines[p]? = some P ∧ P.running := by
  simp only [State.running, Option.filter_eq_some_iff, Option.any_eq_true]

theorem calm_of_same {s t : State} (hconfig : t.config = s.config)
    (hcodec : t.videoCodec = s.videoCodec) (hslot : t.videoPipeline = s.videoPipeline)
    (hpipelines : t.pipelines = s.pipelines) : Calm s t := by
  refine ⟨?_, hcodec, hpipelines ▸ Nat.le_refl _, ?_⟩
  · intro h
    refine ⟨hpipelines ▸ h.flags, ?_⟩
    rw [hslot, hpipelines, hconfig, hcodec]
    exact h.slot
  · intro p hrunning _
    rw [running_iff, hslot, hpipelines]
    exact running_iff.mp hrunning

theorem core_update {s : State} {p : Nat} {f : Pipeline → Pipeline} (h : Core s)
    (hconfig : ∀ P, (f P).config = P.config)
    (hflags : ∀ P, P.runningFlag = P.running → (f P).runningFlag = (f P).running) :
    Core (s.update p f) := by
  refine ⟨?_, ?_⟩
  · intro q Q hQ
    rw [update_get] at hQ
    split at hQ
    · obtain ⟨P, hP, rfl⟩ := Option.map_eq_some_iff.mp hQ
      exact hflags P (h.flags q P hP)
    · exact h.flags q Q hQ
  · intro q hslot
    obtain ⟨P, hP, hP'⟩ := h.slot q hslot
    rw [update_get]
    split
    · exact ⟨f P, by rw [hP, Option.map_some], (hconfig P).trans hP'⟩
    · exact ⟨P, hP, hP'⟩

/-- A pipeline changes, and goes on running if it is in use. -/
theorem calm_update {s : State} {p : Nat} {f : Pipeline → Pipeline}
    (hconfig : ∀ P, (f P).config = P.config)
    (hflags : ∀ P, P.runningFlag = P.running → (f P).runningFlag = (f P).running)
    (hkeep : ∀ P, s.pipelines[p]? = some P → P.running → Uses s p → (f P).running) :
    Calm s (s.update p f) := by
  refine ⟨fun h => core_update h hconfig hflags, rfl,
    Nat.le_of_eq (List.length_modify _ _ _).symm, ?_⟩
  intro q hrunning huses
  obtain ⟨hslot, P, hP, htrue⟩ := running_iff.mp hrunning
  refine running_iff.mpr ⟨hslot, ?_⟩
  rw [update_get]
  split
  · rename_i hpq
    subst hpq
    exact ⟨f P, by rw [hP, Option.map_some], hkeep P hP htrue huses⟩
  · exact ⟨P, hP, htrue⟩

theorem Pipeline.stop_config (P : Pipeline) : P.stop.config = P.config := by
  simp only [Pipeline.stop]
  split <;> rfl

theorem Pipeline.stop_flags {P : Pipeline} (h : P.runningFlag = P.running) :
    P.stop.runningFlag = P.stop.running := by
  simp only [Pipeline.stop]
  split
  · rfl
  · exact h

theorem calm_stop {s : State} {p : Nat} (hp : ¬Uses s p) : Calm s (s.stop p) :=
  calm_update Pipeline.stop_config (fun _ => Pipeline.stop_flags) fun _ _ _ huses =>
    absurd huses hp

theorem core_stopStored {s : State} (h : Core s) : Core s.stopStored := by
  simp only [State.stopStored]
  split
  · exact core_update h Pipeline.stop_config fun _ => Pipeline.stop_flags
  · exact h

theorem core_clear {s t : State} (h : Core s) (hpipelines : t.pipelines = s.pipelines)
    (hslot : t.videoPipeline = none) : Core t := by
  refine ⟨hpipelines ▸ h.flags, ?_⟩
  intro p hp
  rw [hslot] at hp
  cases hp

theorem calm_leave {s : State} {p : Nat} (thread : CaptureThread)
    (hp : ∀ P, s.pipelines[p]? = some P → P.running → ¬Uses s p) :
    Calm s (s.update p (·.leave thread)) :=
  calm_update (fun _ => rfl) (fun _ _ => rfl) fun P hP htrue huses =>
    absurd huses (hp P hP htrue)

theorem calm_start {s : State} (hrunning : s.running = none) : Calm s s.start := by
  refine ⟨?_, rfl, ?_, ?_⟩
  · intro h
    refine ⟨?_, ?_⟩
    · intro p P hP
      simp only [State.start, List.getElem?_append] at hP
      split at hP
      · exact h.flags p P hP
      · obtain ⟨-, rfl⟩ := List.getElem?_eq_some_iff.mp hP
        simp
    · rintro p ⟨⟩
      exact ⟨_, List.getElem?_concat_length, rfl⟩
  · simp [State.start]
  · intro p hp
    rw [hrunning] at hp
    cases hp

theorem calm_ensure (s : State) (fails : Bool) : Calm s (s.ensureVideoPipeline fails).1 := by
  simp only [State.ensureVideoPipeline]
  split
  · exact calm_of_same rfl rfl rfl rfl
  · rename_i hrunning
    split
    · exact calm_of_same rfl rfl rfl rfl
    · exact calm_start hrunning

/-- `ensure_video_pipeline` returns the pipeline that runs then. -/
theorem ensure_running {s : State} {fails : Bool} {p : Nat}
    (h : (s.ensureVideoPipeline fails).2 = some p) :
    (s.ensureVideoPipeline fails).1.running = some p := by
  simp only [State.ensureVideoPipeline] at h ⊢
  split at h
  · rename_i q hrunning
    cases h
    simp [hrunning]
  · rename_i hrunning
    split at h
    · cases h
    · cases h
      rename_i hfails
      simp only [hfails]
      refine running_iff.mpr ⟨rfl, _, List.getElem?_concat_length, rfl⟩

theorem calm_idleStop {s : State} {pc : IdleStop} (hpc : ∀ p, pc = .stop p → ¬Uses s p) :
    Calm s (s.idleStop pc).1 := by
  cases pc with
  | stop p => exact calm_stop (hpc p rfl)
  | count | slot | test => exact calm_of_same rfl rfl rfl rfl

/-! ## The steps of the calls -/

theorem afterIdle_kind {next : IdleStop → Call} {done : Call} {kind : Call.Kind}
    (hnext : ∀ pc, (next pc).kind = kind) (hdone : done.kind = kind ∨ done = .returned)
    (step : State × Option IdleStop) :
    (State.afterIdle next done step).2.kind = kind ∨
      (State.afterIdle next done step).2 = .returned := by
  rcases afterIdle_cases next done step with h | ⟨pc, -, h⟩
  · rwa [h]
  · exact .inl (h ▸ hnext pc)

/-- A call goes on or returns. -/
theorem kind_next (s : State) (choice : Bool) (call : Call) :
    (s.next choice call).2.kind = call.kind ∨ (s.next choice call).2 = .returned := by
  cases call with
  | returned => exact .inr rfl
  | createSession pc =>
    cases pc with
    | ensure codec =>
      simp only [State.next, State.createSession]
      cases (s.ensureVideoPipeline choice).2 with
      | none => exact .inr rfl
      | some p => exact .inl rfl
    | new config p =>
      cases choice with
      | true => exact .inr rfl
      | false => exact .inl rfl
    | codec | config | subscribe => exact .inl rfl
    | store => exact .inr rfl
  | closeSession id pc =>
    cases pc with
    | remove =>
      cases choice with
      | true => exact .inr rfl
      | false => exact .inl rfl
    | idle pc =>
      refine afterIdle_kind ?_ (.inr rfl) _
      exact fun _ => rfl
  | cleanup pc =>
    cases pc with
    | collect =>
      simp only [State.next, State.cleanup]
      split
      · exact .inr rfl
      · exact .inl rfl
    | remove => exact .inl rfl
    | idle pc =>
      refine afterIdle_kind ?_ (.inr rfl) _
      exact fun _ => rfl
  | setVideoCodec codec pc =>
    cases pc with
    | compare =>
      simp only [State.next, State.setVideoCodec]
      split
      · exact .inr rfl
      · exact .inl rfl
    | drain | stop | clear | write => exact .inl rfl
    | idle pc =>
      refine afterIdle_kind ?_ (.inl rfl) _
      exact fun _ => rfl
    | ensure => exact .inr rfl
  | updateVideoConfig resolution inputFormat fps pc =>
    cases pc with
    | compare =>
      simp only [State.next, State.updateVideoConfig]
      split
      · exact .inl rfl
      · exact .inr rfl
    | stop | clear | drain => exact .inl rfl
    | idle pc =>
      refine afterIdle_kind ?_ (.inl rfl) _
      exact fun _ => rfl
    | write => exact .inr rfl
  | release pc =>
    cases pc with
    | drain | sleep => exact .inl rfl
    | clear => exact .inr rfl
    | idle pc =>
      refine afterIdle_kind ?_ (.inl rfl) _
      exact fun _ => rfl
    | stop =>
      simp only [State.next, State.release]
      split <;> exact .inl rfl
    | poll p =>
      simp only [State.next, State.release, State.poll]
      split
      · split <;> exact .inl rfl
      · exact .inl rfl

theorem afterIdle_idlePc {next : IdleStop → Call} {done : Call}
    (hnext : ∀ pc, (next pc).idlePc = some pc) (hdone : done.idlePc = none)
    {step : State × Option IdleStop} {pc : IdleStop}
    (h : (State.afterIdle next done step).2.idlePc = some pc) : step.2 = some pc := by
  rcases afterIdle_cases next done step with heq | ⟨pc', hstep, heq⟩
  · rw [heq, hdone] at h
    cases h
  · rw [heq, hnext] at h
    cases h
    exact hstep

/-- A call comes into `stop_pipeline_if_idle` at its start, and there goes from step to
step. -/
theorem idlePc_next {s : State} {choice : Bool} {call : Call} {pc : IdleStop}
    (h : (s.next choice call).2.idlePc = some pc) :
    pc = .count ∨ ∃ before, call.idlePc = some before ∧ (s.idleStop before).2 = some pc := by
  cases call with
  | returned => cases h
  | createSession before =>
    cases before with
    | ensure codec =>
      simp only [State.next, State.createSession] at h
      cases hpipeline : (s.ensureVideoPipeline choice).2 with
      | none =>
        rw [hpipeline] at h
        cases h
      | some p =>
        rw [hpipeline] at h
        cases h
    | new config p =>
      simp only [State.next, State.createSession] at h
      split at h <;> cases h
    | codec | config | subscribe | store => cases h
  | closeSession id before =>
    cases before with
    | remove =>
      simp only [State.next, State.closeSession] at h
      split at h <;> cases h
      exact .inl rfl
    | idle before =>
      refine .inr ⟨before, rfl, afterIdle_idlePc ?_ rfl h⟩
      exact fun _ => rfl
  | cleanup before =>
    cases before with
    | collect =>
      simp only [State.next, State.cleanup] at h
      split at h <;> cases h
    | remove =>
      cases h
      exact .inl rfl
    | idle before =>
      refine .inr ⟨before, rfl, afterIdle_idlePc ?_ rfl h⟩
      exact fun _ => rfl
  | setVideoCodec codec before =>
    cases before with
    | compare =>
      simp only [State.next, State.setVideoCodec] at h
      split at h <;> cases h
    | drain =>
      cases h
      exact .inl rfl
    | idle before =>
      refine .inr ⟨before, rfl, afterIdle_idlePc ?_ rfl h⟩
      exact fun _ => rfl
    | stop | clear | write | ensure => cases h
  | updateVideoConfig resolution inputFormat fps before =>
    cases before with
    | compare =>
      simp only [State.next, State.updateVideoConfig] at h
      split at h <;> cases h
    | drain =>
      cases h
      exact .inl rfl
    | idle before =>
      refine .inr ⟨before, rfl, afterIdle_idlePc ?_ rfl h⟩
      exact fun _ => rfl
    | stop | clear | write => cases h
  | release before =>
    cases before with
    | drain =>
      cases h
      exact .inl rfl
    | idle before =>
      refine .inr ⟨before, rfl, afterIdle_idlePc ?_ rfl h⟩
      exact fun _ => rfl
    | stop =>
      simp only [State.next, State.release] at h
      split at h <;> cases h
    | poll p =>
      simp only [State.next, State.release, State.poll] at h
      split at h
      · split at h <;> cases h
      · cases h
    | sleep | clear => cases h

/-- The session has been there, open or closed. -/
def Stored (s : State) (session : Session) : Prop :=
  ∃ old ∈ s.sessions, old.pipeline = session.pipeline ∧ old.config = session.config

/-- What a step of a call that does not reconfigure leaves to the others. -/
structure Quietly (s t : State) (call' : Call) : Prop where
  calm : Calm s t
  ok : CreateOk t call'
  sessions : ∀ session ∈ t.sessions,
    Stored s session ∨ Settled t session.config.codec session.pipeline
  /-- It takes no pipeline that is about to be stopped. -/
  uses : ∀ p, (∃ session ∈ t.sessions, session.pipeline = p) ∨ call'.holds = some p →
    Uses s p ∨ ∀ call ∈ s.calls, call.idlePc ≠ some (.stop p)

theorem ensure_sessions (s : State) (fails : Bool) :
    (s.ensureVideoPipeline fails).1.sessions = s.sessions := by
  simp only [State.ensureVideoPipeline]
  split
  · rfl
  · split <;> rfl

theorem ensure_cases {s : State} {fails : Bool} {p : Nat}
    (h : (s.ensureVideoPipeline fails).2 = some p) :
    s.running = some p ∨ p = s.pipelines.length := by
  simp only [State.ensureVideoPipeline] at h
  split at h
  · rename_i q hrunning
    cases h
    exact .inl hrunning
  · split at h
    · cases h
    · cases h
      exact .inr rfl

/-- A creation gets no pipeline that is about to be stopped. -/
theorem ensure_fresh {s : State} (h : Consistency s) {codec : VideoCodecType}
    (htimely : CallTimely s (.createSession (.ensure codec))) {fails : Bool} {p : Nat}
    (hp : (s.ensureVideoPipeline fails).2 = some p) :
    ∀ call ∈ s.calls, call.idlePc ≠ some (.stop p) := by
  intro call hcall hpc
  rcases ensure_cases hp with hrunning | rfl
  · exact htimely.2 rfl rfl p hrunning call hcall hpc
  · have hlt := (h.idle call hcall _ hpc).1 _ rfl
    exact Nat.lt_irrefl _ hlt

theorem stored_of_mem {s : State} {session : Session} (h : session ∈ s.sessions) :
    Stored s session :=
  ⟨session, h, rfl, rfl⟩

theorem quietly_create {s : State} (h : Consistency s) {pc : CreateSession}
    (hcall : .createSession pc ∈ s.calls) (hok : CreateOk s (.createSession pc))
    (htimely : CallTimely s (.createSession pc)) (fails : Bool) :
    Quietly s (s.createSession fails pc).1 (s.createSession fails pc).2 := by
  have hsame : Calm s s := calm_of_same rfl rfl rfl rfl
  cases pc with
  | codec =>
    refine ⟨hsame, rfl, fun session hsession => .inl (stored_of_mem hsession), ?_⟩
    rintro p (hp | hp)
    · exact .inl (.inl hp)
    · cases hp
  | ensure codec =>
    have hcalm := calm_ensure s fails
    have hsessions := ensure_sessions s fails
    have hcodec : codec = s.videoCodec := hok
    simp only [State.createSession]
    cases hp : (s.ensureVideoPipeline fails).2 with
    | none =>
      refine ⟨hcalm, trivial,
        fun session hsession => .inl (stored_of_mem (hsessions ▸ hsession)), ?_⟩
      rintro q (hq | hq)
      · exact .inl (.inl (hsessions ▸ hq))
      · cases hq
    | some p =>
      refine ⟨hcalm, ⟨ensure_running hp, hcodec.trans hcalm.codec.symm⟩,
        fun session hsession => .inl (stored_of_mem (hsessions ▸ hsession)), ?_⟩
      rintro q (hq | hq)
      · exact .inl (.inl (hsessions ▸ hq))
      · cases hq
        exact .inr (ensure_fresh h htimely hp)
  | config codec p =>
    refine ⟨hsame, hok, fun session hsession => .inl (stored_of_mem hsession), ?_⟩
    rintro q (hq | hq)
    · exact .inl (.inl hq)
    · exact .inl (.inr ⟨_, hcall, hq⟩)
  | new config p =>
    cases fails with
    | true =>
      refine ⟨hsame, trivial, fun session hsession => .inl (stored_of_mem hsession), ?_⟩
      rintro q (hq | hq)
      · exact .inl (.inl hq)
      · cases hq
    | false =>
      refine ⟨hsame, hok, fun session hsession => .inl (stored_of_mem hsession), ?_⟩
      rintro q (hq | hq)
      · exact .inl (.inl hq)
      · exact .inl (.inr ⟨_, hcall, hq⟩)
  | subscribe config p =>
    refine ⟨calm_of_same rfl rfl rfl rfl, ?_,
      fun session hsession => .inl (stored_of_mem hsession), ?_⟩
    · exact hok
    rintro q (hq | hq)
    · exact .inl (.inl hq)
    · exact .inl (.inr ⟨_, hcall, hq⟩)
  | store config p =>
    refine ⟨calm_of_same rfl rfl rfl rfl, trivial, ?_, ?_⟩
    · intro session hsession
      rcases List.mem_append.mp hsession with hsession | hsession
      · exact .inl (stored_of_mem hsession)
      · rw [List.mem_singleton.mp hsession]
        exact .inr hok
    · rintro q (⟨session, hsession, rfl⟩ | hq)
      · rcases List.mem_append.mp hsession with hsession | hsession
        · exact .inl (.inl ⟨session, hsession, rfl⟩)
        · rw [List.mem_singleton.mp hsession]
          exact .inl (.inr ⟨_, hcall, rfl⟩)
      · cases hq

theorem idleStop_sessions (s : State) (pc : IdleStop) :
    (s.idleStop pc).1.sessions = s.sessions := by
  cases pc <;> rfl

theorem idleStop_slot (s : State) (pc : IdleStop) :
    (s.idleStop pc).1.videoPipeline = s.videoPipeline := by
  cases pc <;> rfl

/-- Sessions go and none comes, and an empty slot stays empty. -/
structure Closes (s t : State) : Prop where
  calm : Calm s t
  slot : s.videoPipeline = none → t.videoPipeline = none
  sessions : ∀ session ∈ t.sessions, Stored s session

theorem closes_idle {s : State} (h : Consistency s) {call : Call} (hcall : call ∈ s.calls)
    {pc : IdleStop} (hpc : call.idlePc = some pc) : Closes s (s.idleStop pc).1 := by
  refine ⟨calm_idleStop (h.idle call hcall pc hpc).2, (idleStop_slot s pc).trans, ?_⟩
  rw [idleStop_sessions]
  exact fun _ hsession => stored_of_mem hsession

theorem closes_next {s : State} (h : Consistency s) {call : Call} (hcall : call ∈ s.calls)
    (hkind : call.kind = .closeSession ∨ call.kind = .cleanup) (choice : Bool) :
    Closes s (s.next choice call).1 := by
  cases call with
  | closeSession id pc =>
    cases pc with
    | remove =>
      refine ⟨calm_of_same rfl rfl rfl rfl, fun hslot => hslot, ?_⟩
      exact fun _ hsession => stored_of_mem (List.mem_of_mem_filter hsession)
    | idle pc => exact closes_idle h hcall rfl
  | cleanup pc =>
    cases pc with
    | collect =>
      refine ⟨calm_of_same rfl rfl rfl rfl, id, ?_⟩
      exact fun _ hsession => stored_of_mem hsession
    | remove ids =>
      refine ⟨calm_of_same rfl rfl rfl rfl, id, ?_⟩
      exact fun _ hsession => stored_of_mem (List.mem_of_mem_filter hsession)
    | idle pc => exact closes_idle h hcall rfl
  | createSession | setVideoCodec | updateVideoConfig | release | returned =>
    rcases hkind with hkind | hkind <;> cases hkind

/-! ## One step of a call -/

theorem settled_calm {s t : State} {codec : VideoCodecType} {p : Nat} (h : Settled s codec p)
    (huses : Uses s p) (hcalm : Calm s t) : Settled t codec p :=
  ⟨hcalm.running p h.1 huses, h.2.trans hcalm.codec.symm⟩

theorem createOk_calm {s t : State} {call : Call} (h : CreateOk s call) (hcall : call ∈ s.calls)
    (hcalm : Calm s t) : CreateOk t call := by
  have huses {p : Nat} (hp : call.holds = some p) : Uses s p := .inr ⟨call, hcall, hp⟩
  cases call with
  | createSession pc =>
    cases pc with
    | codec => trivial
    | ensure codec => exact h.trans hcalm.codec.symm
    | config | new | subscribe | store => exact settled_calm h (huses rfl) hcalm
  | closeSession | cleanup | setVideoCodec | updateVideoConfig | release | returned => trivial

theorem sessionsOk_calm {s t : State} (h : SessionsOk s) (hcalm : Calm s t)
    (hsessions : ∀ session ∈ t.sessions,
      Stored s session ∨ Settled t session.config.codec session.pipeline) :
    SessionsOk t := by
  intro session hsession
  rcases hsessions session hsession with ⟨old, hold, hpipeline, hconfig⟩ | hnew
  · rw [← hpipeline, ← hconfig]
    exact settled_calm (h old hold) (.inl ⟨old, hold, rfl⟩) hcalm
  · exact hnew

theorem createOk_of_kind {s : State} {call : Call} (h : call.kind ≠ .createSession) :
    CreateOk s call := by
  cases call with
  | createSession => exact absurd rfl h
  | closeSession | cleanup | setVideoCodec | updateVideoConfig | release | returned => trivial

theorem holds_of_kind {call : Call} (h : call.kind ≠ .createSession) : call.holds = none := by
  cases call with
  | createSession => exact absurd rfl h
  | closeSession | cleanup | setVideoCodec | updateVideoConfig | release | returned => rfl

theorem closes_quietly {s t : State} {call' : Call} (h : Closes s t)
    (hkind : call'.kind ≠ .createSession) : Quietly s t call' := by
  refine ⟨h.calm, createOk_of_kind hkind, fun session hsession =>
    .inl (h.sessions session hsession), ?_⟩
  rintro p (⟨session, hsession, rfl⟩ | hp)
  · obtain ⟨old, hold, hpipeline, -⟩ := h.sessions session hsession
    exact .inl (.inl ⟨old, hold, hpipeline⟩)
  · rw [holds_of_kind hkind] at hp
    cases hp

theorem phase_quietly {s t : State} {i : Nat} {call' : Call} (hsessions : SessionsOk s)
    (hcalls : ∀ call ∈ s.calls, call.reconfigures = false ∧ CreateOk s call)
    (h : Quietly s t call') (hset : t.calls = s.calls.set i call')
    (hkind : call'.reconfigures = false) : Phase t := by
  refine .calm (sessionsOk_calm hsessions h.calm h.sessions) ?_
  intro call hcall
  rw [hset] at hcall
  rcases List.mem_or_eq_of_mem_set hcall with hcall | rfl
  · exact ⟨(hcalls call hcall).1, createOk_calm (hcalls call hcall).2 hcall h.calm⟩
  · exact ⟨hkind, h.ok⟩

theorem reconfigureOk_closes {s t : State} {call : Call} (h : ReconfigureOk s call)
    (hcloses : Closes s t) : ReconfigureOk t call := by
  have hempty (hnil : s.sessions = []) : t.sessions = [] := by
    refine List.eq_nil_iff_forall_not_mem.mpr ?_
    intro session hsession
    obtain ⟨old, hold, -⟩ := hcloses.sessions session hsession
    rw [hnil] at hold
    cases hold
  have hsessions (hok : SessionsOk s) : SessionsOk t :=
    sessionsOk_calm hok hcloses.calm
      fun session hsession => .inl (hcloses.sessions session hsession)
  cases call with
  | setVideoCodec codec pc =>
    cases pc with
    | compare | drain => exact hsessions h
    | idle | stop | clear => exact hempty h
    | write | ensure => exact ⟨hempty h.1, hcloses.slot h.2⟩
  | updateVideoConfig resolution inputFormat fps pc =>
    cases pc with
    | compare => exact hsessions h
    | stop | clear => trivial
    | drain => exact hcloses.slot h
    | idle | write => exact ⟨hempty h.1, hcloses.slot h.2⟩
  | createSession | closeSession | cleanup | release | returned => exact h.elim

/-- A call closes sessions while another one reconfigures. -/
theorem phase_other {s t : State} {i j : Nat} {call call' : Call} (hcall : s.calls[i]? = some call)
    (hreconfigures : call.reconfigures) (hok : ReconfigureOk s call)
    (hothers : ∀ j other, j ≠ i → s.calls[j]? = some other →
      other.reconfigures = false ∧ other.kind ≠ .createSession)
    (hcloses : Closes s t) (hset : t.calls = s.calls.set j call') (hj : j ≠ i)
    (hkind : call'.reconfigures = false ∧ call'.kind ≠ .createSession) : Phase t := by
  refine .busy i call ?_ hreconfigures (reconfigureOk_closes hok hcloses) ?_
  · rw [hset]
    exact getElem?_set_kept hcall (Ne.symm hj)
  · intro k other hk hother
    rw [hset] at hother
    rcases getElem?_set_cases hother with ⟨-, rfl⟩ | ⟨-, hold⟩
    · exact hkind
    · exact hothers k other hk hold

/-- A step of the call that reconfigures. -/
structure Reconfigures (s t : State) (call call' : Call) : Prop where
  core : Core t
  length : s.pipelines.length ≤ t.pipelines.length
  sessions : ∀ session ∈ t.sessions, Stored s session
  ok : call'.reconfigures ∧ ReconfigureOk t call' ∨ call' = .returned ∧ SessionsOk t

theorem length_stopStored (s : State) : s.stopStored.pipelines.length = s.pipelines.length := by
  simp only [State.stopStored]
  split
  · exact List.length_modify _ _ _
  · rfl

theorem stopStored_sessions (s : State) : s.stopStored.sessions = s.sessions := by
  simp only [State.stopStored]
  split <;> rfl

theorem sessionsOk_nil {s : State} (h : s.sessions = []) : SessionsOk s := by
  intro session hsession
  rw [h] at hsession
  cases hsession

theorem reconfigures_set {s : State} (h : Consistency s) {codec : VideoCodecType}
    {pc : SetVideoCodec} (hcall : .setVideoCodec codec pc ∈ s.calls)
    (hok : ReconfigureOk s (.setVideoCodec codec pc)) (fails : Bool) :
    Reconfigures s (s.setVideoCodec codec fails pc).1 (.setVideoCodec codec pc)
      (s.setVideoCodec codec fails pc).2 := by
  cases pc with
  | compare =>
    refine ⟨h.core, Nat.le_refl _, fun _ hsession => stored_of_mem hsession, ?_⟩
    simp only [State.setVideoCodec]
    split
    · exact .inr ⟨rfl, hok⟩
    · exact .inl ⟨rfl, hok⟩
  | drain =>
    refine ⟨⟨h.core.flags, h.core.slot⟩, Nat.le_refl _, (fun _ hsession => nomatch hsession), ?_⟩
    exact .inl ⟨rfl, rfl⟩
  | idle pc =>
    have hcloses := closes_idle h hcall rfl
    refine ⟨hcloses.calm.core h.core, hcloses.calm.length, hcloses.sessions, .inl ?_⟩
    have hnil : (s.idleStop pc).1.sessions = [] := (idleStop_sessions s pc).trans hok
    simp only [State.setVideoCodec]
    rcases afterIdle_cases (fun pc => .setVideoCodec codec (.idle pc)) (.setVideoCodec codec .stop)
      (s.idleStop pc) with hnext | ⟨pc', -, hnext⟩ <;> rw [hnext]
    · exact ⟨rfl, hnil⟩
    · exact ⟨rfl, hnil⟩
  | stop =>
    refine ⟨core_stopStored h.core, Nat.le_of_eq (length_stopStored s).symm, ?_, .inl ⟨rfl, ?_⟩⟩
    · simp only [State.setVideoCodec, stopStored_sessions]
      exact fun _ hsession => stored_of_mem hsession
    · exact (stopStored_sessions s).trans hok
  | clear =>
    refine ⟨core_clear h.core rfl rfl, Nat.le_refl _, fun _ hsession => stored_of_mem hsession, ?_⟩
    exact .inl ⟨rfl, hok, rfl⟩
  | write =>
    refine ⟨core_clear h.core rfl hok.2, Nat.le_refl _,
      fun _ hsession => stored_of_mem hsession, ?_⟩
    exact .inl ⟨rfl, hok⟩
  | ensure =>
    have hcalm := calm_ensure s fails
    simp only [State.setVideoCodec]
    split
    · refine ⟨hcalm.core h.core, hcalm.length, ?_, .inr ⟨rfl, sessionsOk_nil ?_⟩⟩
      · rw [ensure_sessions]
        exact fun _ hsession => stored_of_mem hsession
      · rw [ensure_sessions]
        exact hok.1
    · exact ⟨h.core, Nat.le_refl _, fun _ hsession => stored_of_mem hsession,
        .inr ⟨rfl, sessionsOk_nil hok.1⟩⟩

theorem reconfigures_update {s : State} (h : Consistency s) {resolution : Resolution}
    {inputFormat : PixelFormat} {fps : UInt32} {pc : UpdateVideoConfig}
    (hcall : .updateVideoConfig resolution inputFormat fps pc ∈ s.calls)
    (hok : ReconfigureOk s (.updateVideoConfig resolution inputFormat fps pc)) :
    Reconfigures s (s.updateVideoConfig resolution inputFormat fps pc).1
      (.updateVideoConfig resolution inputFormat fps pc)
      (s.updateVideoConfig resolution inputFormat fps pc).2 := by
  cases pc with
  | compare =>
    refine ⟨h.core, Nat.le_refl _, fun _ hsession => stored_of_mem hsession, ?_⟩
    simp only [State.updateVideoConfig]
    split
    · exact .inl ⟨rfl, trivial⟩
    · exact .inr ⟨rfl, hok⟩
  | stop =>
    refine ⟨core_stopStored h.core, Nat.le_of_eq (length_stopStored s).symm, ?_,
      .inl ⟨rfl, trivial⟩⟩
    simp only [State.updateVideoConfig, stopStored_sessions]
    exact fun _ hsession => stored_of_mem hsession
  | clear =>
    refine ⟨core_clear h.core rfl rfl, Nat.le_refl _, fun _ hsession => stored_of_mem hsession, ?_⟩
    exact .inl ⟨rfl, rfl⟩
  | drain =>
    refine ⟨core_clear h.core rfl hok, Nat.le_refl _, (fun _ hsession => nomatch hsession), ?_⟩
    exact .inl ⟨rfl, rfl, hok⟩
  | idle pc =>
    have hcloses := closes_idle h hcall rfl
    refine ⟨hcloses.calm.core h.core, hcloses.calm.length, hcloses.sessions, .inl ?_⟩
    have hnil : (s.idleStop pc).1.sessions = [] ∧ (s.idleStop pc).1.videoPipeline = none :=
      ⟨(idleStop_sessions s pc).trans hok.1, hcloses.slot hok.2⟩
    simp only [State.updateVideoConfig]
    rcases afterIdle_cases (fun pc => .updateVideoConfig resolution inputFormat fps (.idle pc))
      (.updateVideoConfig resolution inputFormat fps .write) (s.idleStop pc) with
      hnext | ⟨pc', -, hnext⟩ <;> rw [hnext]
    · exact ⟨rfl, hnil⟩
    · exact ⟨rfl, hnil⟩
  | write =>
    refine ⟨core_clear h.core rfl hok.2, Nat.le_refl _,
      fun _ hsession => stored_of_mem hsession, ?_⟩
    exact .inr ⟨rfl, sessionsOk_nil hok.1⟩

theorem reconfigures_next {s : State} (h : Consistency s) {call : Call} (hcall : call ∈ s.calls)
    (hok : ReconfigureOk s call) (choice : Bool) :
    Reconfigures s (s.next choice call).1 call (s.next choice call).2 := by
  cases call with
  | setVideoCodec codec pc => exact reconfigures_set h hcall hok choice
  | updateVideoConfig resolution inputFormat fps pc => exact reconfigures_update h hcall hok
  | createSession | closeSession | cleanup | release | returned => exact hok.elim

/-! ## The invariant over one step -/

/-- Where a call is in `stop_pipeline_if_idle` after its step: a pipeline that it decides to
stop has no session and no creation. -/
theorem idleOk_next {s t : State} (h : Consistency s) {call : Call} (hcall : call ∈ s.calls)
    (htimely : CallTimely s call) {choice : Bool}
    (hlength : s.pipelines.length ≤ t.pipelines.length)
    {pc : IdleStop} (hpc : (s.next choice call).2.idlePc = some pc)
    (huses : ∀ p, Uses t p → Uses s p) : IdleOk t pc := by
  rcases idlePc_next hpc with rfl | ⟨before, hbefore, hnext⟩
  · exact ⟨(fun p hp => nomatch hp), fun p hp => nomatch hp⟩
  have hok := h.idle call hcall before hbefore
  cases before with
  | count =>
    cases hnext
    exact ⟨(fun p hp => nomatch hp), fun p hp => nomatch hp⟩
  | slot sessionCount =>
    obtain ⟨p, hslot, rfl⟩ := Option.map_eq_some_iff.mp hnext
    refine ⟨?_, fun p hp => nomatch hp⟩
    rintro q ⟨⟩
    obtain ⟨P, hP, -⟩ := h.core.slot p hslot
    exact Nat.lt_of_lt_of_le (List.getElem?_eq_some_iff.mp hP).1 hlength
  | test sessionCount p =>
    simp only [State.idleStop] at hnext
    split at hnext <;> cases hnext
    rename_i hidle
    obtain ⟨rfl, hcount⟩ := hidle
    refine ⟨?_, ?_⟩
    · rintro q ⟨⟩
      exact Nat.lt_of_lt_of_le (hok.1 p rfl) hlength
    · rintro q ⟨⟩ huse
      obtain ⟨hnil, hholds⟩ := htimely.1 _ hbefore rfl hcount
      rcases huses p huse with ⟨session, hsession, -⟩ | ⟨other, hother, hp⟩
      · rw [hnil] at hsession
        cases hsession
      · exact hholds other hother hp
  | stop p => cases hnext

theorem idleOk_mono {s t : State} {pc : IdleStop} (h : IdleOk s pc)
    (hlength : s.pipelines.length ≤ t.pipelines.length)
    (huses : ∀ p, pc = .stop p → Uses t p → Uses s p) : IdleOk t pc := by
  refine ⟨fun p hp => Nat.lt_of_lt_of_le (h.1 p hp) hlength, ?_⟩
  intro p hp huse
  exact h.2 p hp (huses p hp huse)

/-- The state after the step of call `i`. -/
def after (s : State) (i : Nat) (choice : Bool) (call : Call) : State :=
  { (s.next choice call).1 with calls := s.calls.set i (s.next choice call).2 }

theorem uses_after {s : State} {i : Nat} {choice : Bool} {call : Call} {p : Nat}
    (h : Uses (after s i choice call) p) :
    ((∃ session ∈ (s.next choice call).1.sessions, session.pipeline = p) ∨
      (s.next choice call).2.holds = some p) ∨ Uses s p := by
  rcases h with h | ⟨other, hother, hp⟩
  · exact .inl (.inl h)
  · rcases List.mem_or_eq_of_mem_set hother with hother | rfl
    · exact .inr (.inr ⟨other, hother, hp⟩)
    · exact .inl (.inr hp)

theorem calm_after {s : State} {i : Nat} {choice : Bool} {call : Call}
    (h : Calm s (s.next choice call).1) : Calm s (after s i choice call) := by
  refine ⟨fun hcore => ?_, h.codec, h.length, h.running⟩
  exact ⟨(h.core hcore).flags, (h.core hcore).slot⟩

theorem createOk_after {s : State} {i : Nat} {choice : Bool} {call call' : Call}
    (h : CreateOk (s.next choice call).1 call') : CreateOk (after s i choice call) call' := by
  cases call' with
  | createSession pc => cases pc <;> exact h
  | closeSession | cleanup | setVideoCodec | updateVideoConfig | release | returned => trivial

theorem reconfigureOk_after {s : State} {i : Nat} {choice : Bool} {call call' : Call}
    (h : ReconfigureOk (s.next choice call).1 call') :
    ReconfigureOk (after s i choice call) call' := by
  cases call' with
  | setVideoCodec codec pc => cases pc <;> exact h
  | updateVideoConfig resolution inputFormat fps pc => cases pc <;> exact h
  | createSession | closeSession | cleanup | release | returned => exact h.elim

/-- Only sessions that were there before are there after a step of a call that creates none,
and what is in use was so. -/
theorem uses_of_subset {s : State} {i : Nat} {choice : Bool} {call : Call} {p : Nat}
    (hsessions : ∀ session ∈ (s.next choice call).1.sessions, Stored s session)
    (hkind : (s.next choice call).2.kind ≠ .createSession)
    (h : Uses (after s i choice call) p) : Uses s p := by
  rcases uses_after h with (⟨session, hsession, hp⟩ | hp) | h
  · obtain ⟨old, hold, hpipeline, -⟩ := hsessions session hsession
    exact .inl ⟨old, hold, hpipeline.trans hp⟩
  · rw [holds_of_kind hkind] at hp
    cases hp
  · exact h

theorem idle_after {s : State} (h : Consistency s) {i : Nat} {choice : Bool} {call : Call}
    (hlength : s.pipelines.length ≤ (s.next choice call).1.pipelines.length)
    (huses : ∀ other ∈ s.calls, ∀ p, other.idlePc = some (.stop p) →
      Uses (after s i choice call) p → Uses s p)
    (hnew : ∀ pc, (s.next choice call).2.idlePc = some pc → IdleOk (after s i choice call) pc) :
    ∀ other ∈ (after s i choice call).calls, ∀ pc, other.idlePc = some pc →
      IdleOk (after s i choice call) pc := by
  intro other hother pc hpc
  rcases List.mem_or_eq_of_mem_set hother with hother | rfl
  · refine idleOk_mono (h.idle other hother pc hpc) hlength ?_
    rintro p rfl huse
    exact huses other hother p hpc huse
  · exact hnew pc hpc

theorem kind_cases {call : Call} (hlive : call ≠ .returned) (h : call.reconfigures = false) :
    call.kind = .createSession ∨ call.kind = .closeSession ∨ call.kind = .cleanup := by
  cases call with
  | createSession => exact .inl rfl
  | closeSession => exact .inr (.inl rfl)
  | cleanup => exact .inr (.inr rfl)
  | setVideoCodec | updateVideoConfig | release => cases h
  | returned => exact absurd rfl hlive

/-- What holds of a call's kind and of `returned` holds after its step. -/
theorem kind_kept {s : State} {choice : Bool} {call : Call} {P : Call.Kind → Prop}
    (h : P call.kind) (hreturned : P .returned) : P (s.next choice call).2.kind := by
  rcases kind_next s choice call with hkind | hkind <;> rw [hkind]
  · exact h
  · exact hreturned

theorem consistency_closes {s : State} (h : Consistency s) {i : Nat} {choice : Bool} {call : Call}
    (hcall : s.calls[i]? = some call) (htimely : CallTimely s call)
    (hkind : call.kind = .closeSession ∨ call.kind = .cleanup)
    (hphase : Closes s (after s i choice call) → (s.next choice call).2.reconfigures = false →
      (s.next choice call).2.kind ≠ .createSession → Phase (after s i choice call)) :
    Consistency (after s i choice call) := by
  have hmem : call ∈ s.calls := List.mem_of_getElem? hcall
  have hcloses := closes_next h hmem hkind choice
  have hkind' : (s.next choice call).2.kind ≠ .createSession := by
    refine kind_kept (P := (· ≠ .createSession)) ?_ (by decide)
    rcases hkind with hkind | hkind <;> simp [hkind]
  have hreconfigures : (s.next choice call).2.reconfigures = false := by
    refine kind_kept (P := (·.reconfigures = false)) ?_ rfl
    rcases hkind with hkind | hkind <;> simp [hkind, Call.Kind.reconfigures]
  have huses : ∀ p, Uses (after s i choice call) p → Uses s p :=
    fun p => uses_of_subset hcloses.sessions hkind'
  refine ⟨(calm_after hcloses.calm).core h.core, ?_, ?_⟩
  · refine idle_after h hcloses.calm.length (fun _ _ p _ => huses p) ?_
    exact fun pc hpc => idleOk_next (t := after s i choice call) h hmem htimely
      hcloses.calm.length hpc huses
  · exact hphase ⟨calm_after hcloses.calm, hcloses.slot, hcloses.sessions⟩ hreconfigures hkind'

theorem consistency_create {s : State} (h : Consistency s) {i : Nat} {choice : Bool}
    {pc : CreateSession} (hcall : s.calls[i]? = some (.createSession pc))
    (htimely : CallTimely s (.createSession pc)) (hsessions : SessionsOk s)
    (hcalls : ∀ call ∈ s.calls, call.reconfigures = false ∧ CreateOk s call) :
    Consistency (after s i choice (.createSession pc)) := by
  have hmem : .createSession pc ∈ s.calls := List.mem_of_getElem? hcall
  have hquiet :
      Quietly s (s.next choice (.createSession pc)).1 (s.next choice (.createSession pc)).2 :=
    quietly_create h hmem (hcalls _ hmem).2 htimely choice
  refine ⟨(calm_after hquiet.calm).core h.core, ?_, ?_⟩
  · refine idle_after h hquiet.calm.length ?_ ?_
    · intro other hother p hpc huse
      rcases uses_after huse with huse | huse
      · rcases hquiet.uses p huse with huse | hfresh
        · exact huse
        · exact absurd hpc (hfresh other hother)
      · exact huse
    · intro pc hpc
      rcases idlePc_next hpc with rfl | ⟨before, hbefore, -⟩
      · exact ⟨(fun p hp => nomatch hp), fun p hp => nomatch hp⟩
      · cases hbefore
  · refine phase_quietly hsessions hcalls (t := after s i choice _) ?_ rfl ?_
    · exact ⟨calm_after hquiet.calm, createOk_after hquiet.ok, hquiet.sessions, hquiet.uses⟩
    · exact kind_kept (P := (·.reconfigures = false)) rfl rfl

/-- The call that reconfigures goes on, or returns and leaves the others settled. -/
theorem phase_reconfigures {s : State} {i : Nat} {choice : Bool} {call : Call}
    (hcall : s.calls[i]? = some call)
    (hnext : Reconfigures s (s.next choice call).1 call (s.next choice call).2)
    (hothers : ∀ j other, j ≠ i → s.calls[j]? = some other →
      other.reconfigures = false ∧ other.kind ≠ .createSession) :
    Phase (after s i choice call) := by
  rcases hnext.ok with ⟨hreconfigures, hok⟩ | ⟨hreturned, hsessions⟩
  · refine .busy i _ (getElem?_set_changed hcall _) hreconfigures (reconfigureOk_after hok) ?_
    intro j other hj hother
    rw [after, List.getElem?_set_ne (Ne.symm hj)] at hother
    exact hothers j other hj hother
  · refine .calm hsessions ?_
    intro other hother
    obtain ⟨j, hj⟩ := List.mem_iff_getElem?.mp hother
    rcases getElem?_set_cases hj with ⟨-, rfl⟩ | ⟨hji, hold⟩
    · rw [hreturned]
      exact ⟨rfl, trivial⟩
    · obtain ⟨hreconfigures, hkind⟩ := hothers j other hji hold
      exact ⟨hreconfigures, createOk_of_kind hkind⟩

theorem consistency_advance {s : State} (h : Consistency s) {i : Nat} {choice : Bool} {call : Call}
    (hcall : s.calls[i]? = some call) (hlive : call ≠ .returned) (htimely : CallTimely s call) :
    Consistency (after s i choice call) := by
  have hmem : call ∈ s.calls := List.mem_of_getElem? hcall
  rcases h.phase with ⟨hsessions, hcalls⟩ | ⟨j, busy, hj, hreconfigures, hok, hothers⟩
  · rcases kind_cases hlive (hcalls call hmem).1 with hkind | hkind
    · cases call with
      | createSession pc => exact consistency_create h hcall htimely hsessions hcalls
      | closeSession | cleanup | setVideoCodec | updateVideoConfig | release | returned =>
        cases hkind
    · refine consistency_closes h hcall htimely hkind ?_
      intro hcloses hreconfigures hkind'
      exact phase_quietly hsessions hcalls (closes_quietly hcloses hkind') rfl hreconfigures
  by_cases hij : i = j
  · subst hij
    rw [hcall] at hj
    cases hj
    have hnext := reconfigures_next h hmem hok choice
    have hkind : (s.next choice call).2.kind ≠ .createSession := by
      refine kind_kept (P := (· ≠ .createSession)) ?_ (by decide)
      intro hkind
      simp [Call.reconfigures, hkind, Call.Kind.reconfigures] at hreconfigures
    have huses : ∀ p, Uses (after s i choice call) p → Uses s p :=
      fun p => uses_of_subset hnext.sessions hkind
    refine ⟨⟨hnext.core.flags, hnext.core.slot⟩, ?_, ?_⟩
    · refine idle_after h hnext.length (fun _ _ p _ => huses p) ?_
      exact fun pc hpc => idleOk_next (t := after s i choice call) h hmem htimely hnext.length hpc
        huses
    · exact phase_reconfigures hcall hnext hothers
  · obtain ⟨hother, hcreate⟩ := hothers i call hij hcall
    rcases kind_cases hlive hother with hkind | hkind
    · exact absurd hkind hcreate
    refine consistency_closes h hcall htimely hkind ?_
    intro hcloses hreconfigures' hkind'
    exact phase_other hj hreconfigures hok hothers hcloses rfl hij ⟨hreconfigures', hkind'⟩

/-! ## Runs -/

theorem uses_closes {s t : State} {p : Nat} (hcloses : Closes s t) (hcalls : t.calls = s.calls)
    (h : Uses t p) : Uses s p := by
  rcases h with ⟨session, hsession, rfl⟩ | ⟨call, hcall, hp⟩
  · obtain ⟨old, hold, hpipeline, -⟩ := hcloses.sessions session hsession
    exact .inl ⟨old, hold, hpipeline⟩
  · exact .inr ⟨call, hcalls ▸ hcall, hp⟩

/-- A step of no call. -/
theorem consistency_calm {s t : State} (h : Consistency s) (hcloses : Closes s t)
    (hcalls : t.calls = s.calls) : Consistency t := by
  refine ⟨hcloses.calm.core h.core, ?_, ?_⟩
  · intro call hcall pc hpc
    rw [hcalls] at hcall
    exact idleOk_mono (h.idle call hcall pc hpc) hcloses.calm.length
      fun p _ => uses_closes hcloses hcalls
  rcases h.phase with ⟨hsessions, hok⟩ | ⟨i, call, hcall, hreconfigures, hok, hothers⟩
  · refine .calm (sessionsOk_calm hsessions hcloses.calm fun session hsession =>
      .inl (hcloses.sessions session hsession)) ?_
    intro call hcall
    rw [hcalls] at hcall
    exact ⟨(hok call hcall).1, createOk_calm (hok call hcall).2 hcall hcloses.calm⟩
  · rw [← hcalls] at hcall hothers
    exact .busy i call hcall hreconfigures (reconfigureOk_closes hok hcloses) hothers

theorem fresh_idlePc {call : Call} (h : call.Fresh) : call.idlePc = none := by
  cases call with
  | createSession | closeSession | cleanup | setVideoCodec | updateVideoConfig | release =>
    cases h
    rfl
  | returned => rfl

theorem fresh_holds {call : Call} (h : call.Fresh) : call.holds = none := by
  cases call with
  | createSession =>
    cases h
    rfl
  | closeSession | cleanup | setVideoCodec | updateVideoConfig | release | returned => rfl

theorem fresh_createOk {s : State} {call : Call} (h : call.Fresh) : CreateOk s call := by
  cases call with
  | createSession =>
    cases h
    trivial
  | closeSession | cleanup | setVideoCodec | updateVideoConfig | release | returned => trivial

theorem fresh_reconfigureOk {s : State} {call : Call} (h : call.Fresh) (hsessions : SessionsOk s)
    (hreconfigures : call.reconfigures) (hrelease : call.kind ≠ .release) :
    ReconfigureOk s call := by
  cases call with
  | setVideoCodec | updateVideoConfig =>
    cases h
    exact hsessions
  | release => exact absurd rfl hrelease
  | createSession | closeSession | cleanup | returned => cases hreconfigures

/-- A new call finds the phase that it needs. -/
theorem phase_call {s : State} {call : Call} (h : Phase s) (hfresh : call.Fresh)
    (hserial : Serial s (.call call)) : Phase { s with calls := s.calls ++ [call] } := by
  obtain ⟨hfree, hcreates, hrelease⟩ := hserial
  rcases h with ⟨hsessions, hcalls⟩ | ⟨i, busy, hbusy, hreconfigures, hok, hothers⟩
  · cases hcall : call.reconfigures with
    | true =>
      refine .busy s.calls.length call List.getElem?_concat_length hcall
        (fresh_reconfigureOk hfresh hsessions hcall hrelease) ?_
      intro j other hj hother
      rcases getElem?_concat_cases hother with ⟨hlast, -⟩ | hold
      · exact absurd hlast hj
      · have hmem := List.mem_of_getElem? hold
        exact ⟨hfree (.inr hcall) other hmem, hcreates hcall other hmem⟩
    | false =>
      refine .calm hsessions ?_
      intro other hother
      rcases List.mem_append.mp hother with hother | hother
      · refine ⟨(hcalls other hother).1, ?_⟩
        exact createOk_calm (hcalls other hother).2 hother (calm_of_same rfl rfl rfl rfl)
      · rw [List.mem_singleton.mp hother]
        exact ⟨hcall, fresh_createOk hfresh⟩
  · have hmem := List.mem_of_getElem? hbusy
    have hnot : ¬(call.kind = .createSession ∨ call.reconfigures) := by
      intro hcall
      rw [hfree hcall busy hmem] at hreconfigures
      cases hreconfigures
    refine .busy i busy (getElem?_append_kept hbusy) hreconfigures ?_ ?_
    · exact reconfigureOk_closes hok ⟨calm_of_same rfl rfl rfl rfl, id, fun _ => stored_of_mem⟩
    · intro j other hj hother
      rcases getElem?_concat_cases hother with ⟨-, rfl⟩ | hold
      · rw [not_or, Bool.not_eq_true] at hnot
        exact ⟨hnot.2, hnot.1⟩
      · exact hothers j other hj hold

theorem consistency_call {s : State} {call : Call} (h : Consistency s) (hfresh : call.Fresh)
    (hserial : Serial s (.call call)) : Consistency { s with calls := s.calls ++ [call] } := by
  refine ⟨⟨h.core.flags, h.core.slot⟩, ?_, phase_call h.phase hfresh hserial⟩
  intro other hother pc hpc
  rcases List.mem_append.mp hother with hother | hother
  · refine idleOk_mono (h.idle other hother pc hpc) (Nat.le_refl _) ?_
    rintro p - (hp | ⟨user, huser, hp⟩)
    · exact .inl hp
    · rcases List.mem_append.mp huser with huser | huser
      · exact .inr ⟨user, huser, hp⟩
      · rw [List.mem_singleton.mp huser, fresh_holds hfresh] at hp
        cases hp
  · rw [List.mem_singleton.mp hother, fresh_idlePc hfresh] at hpc
    cases hpc

/-- Someone else ensures the pipeline while no call reconfigures. -/
theorem consistency_ensure {s : State} (h : Consistency s)
    (hserial : ∀ call ∈ s.calls, call.reconfigures = false) (fails : Bool) :
    Consistency (s.ensureVideoPipeline fails).1 := by
  have hcalm := calm_ensure s fails
  have hcalls := ensure_calls s fails
  have hsessions := ensure_sessions s fails
  refine ⟨hcalm.core h.core, ?_, ?_⟩
  · intro call hcall pc hpc
    rw [hcalls] at hcall
    refine idleOk_mono (h.idle call hcall pc hpc) hcalm.length ?_
    intro p _ huse
    simpa only [Uses, hcalls, hsessions] using huse
  rcases h.phase with ⟨hok, hcreates⟩ | ⟨i, busy, hbusy, hreconfigures, -, -⟩
  · refine .calm (sessionsOk_calm hok hcalm ?_) ?_
    · rw [hsessions]
      exact fun _ hsession => .inl (stored_of_mem hsession)
    · intro call hcall
      rw [hcalls] at hcall
      exact ⟨(hcreates call hcall).1, createOk_calm (hcreates call hcall).2 hcall hcalm⟩
  · rw [hserial busy (List.mem_of_getElem? hbusy)] at hreconfigures
    cases hreconfigures

theorem consistency_step {s s' : State} {e : Event} (h : Consistency s) (htimely : Timely s e)
    (hserial : Serial s e) (hstep : step s e = some s') : Consistency s' := by
  cases e with
  | call call =>
    simp only [step] at hstep
    split at hstep <;> cases hstep
    rename_i hfresh
    exact consistency_call h hfresh hserial
  | advance i choice =>
    obtain ⟨call, hcall, hstep⟩ := Option.bind_eq_some_iff.mp hstep
    split at hstep <;> cases hstep
    rename_i hfree
    exact consistency_advance h hcall (fun hreturned => hfree (.inl hreturned)) (htimely call hcall)
  | ensure fails =>
    simp only [step] at hstep
    split at hstep <;> cases hstep
    exact consistency_ensure h hserial fails
  | stop p =>
    cases hstep
    exact consistency_calm h ⟨calm_stop htimely, id, fun _ => stored_of_mem⟩ rfl
  | subscribe | receiverEnds | setCaptureDevice =>
    cases hstep
    exact consistency_calm h ⟨calm_of_same rfl rfl rfl rfl, id, fun _ => stored_of_mem⟩ rfl
  | disconnect id =>
    cases hstep
    refine consistency_calm h ⟨calm_of_same rfl rfl rfl rfl, fun hslot => hslot, ?_⟩ rfl
    intro session hsession
    obtain ⟨old, hold, rfl⟩ := List.mem_map.mp hsession
    refine ⟨old, hold, ?_⟩
    split <;> exact ⟨rfl, rfl⟩
  | opened p ok =>
    simp only [step] at hstep
    split at hstep <;> cases hstep
    refine consistency_calm h ⟨?_, id, fun _ => stored_of_mem⟩ rfl
    cases ok with
    | true => exact calm_update (fun _ => rfl) (fun _ hflags => hflags) fun _ _ htrue _ => htrue
    | false => exact calm_leave .ended fun _ _ _ => htimely rfl
  | leave p =>
    simp only [step] at hstep
    split at hstep <;> cases hstep
    rename_i hflag
    refine consistency_calm h ⟨calm_leave .closing ?_, id, fun _ => stored_of_mem⟩ rfl
    intro P hP htrue
    simp [hP, h.core.flags p P hP, htrue] at hflag
  | giveUp p | autoStop p =>
    simp only [step] at hstep
    split at hstep <;> cases hstep
    exact consistency_calm h ⟨calm_leave .closing fun _ _ _ => htimely, id,
      fun _ => stored_of_mem⟩ rfl
  | dropStream p =>
    simp only [step] at hstep
    split at hstep <;> cases hstep
    refine consistency_calm h ⟨?_, id, fun _ => stored_of_mem⟩ rfl
    exact calm_update (fun _ => rfl) (fun _ hflags => hflags) fun _ _ htrue _ => htrue
  | monitor p =>
    simp only [step] at hstep
    split at hstep <;> cases hstep
    rename_i hstopped
    refine consistency_calm h ⟨⟨fun hcore => core_clear hcore rfl rfl, rfl, Nat.le_refl _, ?_⟩,
      fun _ => rfl, fun _ => stored_of_mem⟩ rfl
    intro q hrunning _
    obtain ⟨hslot, P, hP, htrue⟩ := running_iff.mp hrunning
    obtain ⟨hslot', hrunning', -⟩ := hstopped
    rw [hslot] at hslot'
    cases hslot'
    simp [hP, htrue] at hrunning'

/-! ## Quiescent states -/

/-- The pipeline runs. -/
def Runs (s : State) (p : Nat) : Prop :=
  ∃ P : Pipeline, s.pipelines[p]? = some P ∧ P.running

/-- Once all calls have returned the pipelines of all sessions run, and a pipeline that a
creation has got runs until then. -/
def NotStranded (s : State) : Prop :=
  ((∀ call ∈ s.calls, call = .returned) → ∀ session ∈ s.sessions, Runs s session.pipeline) ∧
  ∀ call ∈ s.calls, ∀ p, call.holds = some p → Runs s p

/-- Once all calls have returned, each session has the codec of its pipeline, the slot holds
that pipeline, and it is configured as the streamer is. -/
def Consistent (s : State) : Prop :=
  (∀ call ∈ s.calls, call = .returned) → ∀ session ∈ s.sessions,
    s.videoPipeline = some session.pipeline ∧ ∃ P : Pipeline,
      s.pipelines[session.pipeline]? = some P ∧ session.config.codec = P.config.outputCodec ∧
        P.config = State.pipelineConfig s.config s.videoCodec

theorem consistency_init {s : State} (h : Init s) : Consistency s := by
  obtain ⟨config, videoCodec, captureDevice, rfl⟩ := h
  refine ⟨⟨?_, ?_⟩, ?_, .calm (sessionsOk_nil rfl) ?_⟩
  all_goals simp

theorem consistent_of_consistency {s : State} (h : Consistency s) : Consistent s := by
  intro hreturned session hsession
  rcases h.phase with ⟨hsessions, -⟩ | ⟨i, busy, hbusy, hreconfigures, -, -⟩
  · obtain ⟨hrunning, hcodec⟩ := hsessions session hsession
    obtain ⟨hslot, -⟩ := running_iff.mp hrunning
    obtain ⟨P, hP, hconfig⟩ := h.core.slot _ hslot
    refine ⟨hslot, P, hP, ?_, hconfig⟩
    rw [hconfig, hcodec]
    rfl
  · rw [hreturned busy (List.mem_of_getElem? hbusy)] at hreconfigures
    cases hreconfigures

/-- Where calls that reconfigure have the streamer to themselves, and idle stops and threads
are timely, a quiescent streamer is consistent. -/
theorem consistent_of_serial {s : State}
    (h : (system.restrict fun s e => Timely s e ∧ Serial s e).Reachable s) : Consistent s := by
  refine consistent_of_consistency (TSys.invariant (fun s => consistency_init) ?_ h)
  intro s e t h hstep
  exact consistency_step h hstep.2.1 hstep.2.2 hstep.1

/-- A session is created, is closed, and its pipeline is about to be stopped. -/
def aboutToStop : List Event :=
  .call (.createSession .codec) :: List.replicate 6 (.advance 0 false) ++
    [.call (.closeSession 0 .remove), .advance 1 false, .receiverEnds 0, .advance 1 false,
      .advance 1 false, .advance 1 false]

/-- A codec change between two sessions. -/
theorem second_session_h265 :
    ∃ s, (system.restrict fun s e => Timely s e ∧ Serial s e).Reachable s ∧
      (∀ call ∈ s.calls, call = .returned) ∧ s.sessions.map (·.config.codec) = [.h265] ∧
      Consistent s := by
  let run : List Event :=
    aboutToStop ++ [.advance 1 false, .call (.setVideoCodec .h265 .compare)] ++
    List.replicate 10 (.advance 2 false) ++ .call (.createSession .codec) ::
    List.replicate 6 (.advance 3 false)
  have hrun : ∃ s, run.foldlM
      (fun s e => if Timely s e ∧ Serial s e then step s e else none)
      { config := .default } = some s ∧ s.calls = List.replicate 4 .returned ∧
      s.sessions.map (·.config.codec) = [.h265] :=
    ⟨_, rfl, rfl, rfl⟩
  obtain ⟨s, hrun, hreturned, hsessions⟩ := hrun
  have h : (system.restrict fun s e => Timely s e ∧ Serial s e).Reachable s :=
    TSys.ofFn_restrict_reachable (.init ⟨_, _, _, rfl⟩) hrun
  exact ⟨s, h, by simp [hreturned], hsessions, consistent_of_serial h⟩

/-- The codec changes after a creation has read it: the session is for H.264 on a pipeline
for H.265. -/
theorem codec_changes_under_creation :
    ¬∀ s, (system.restrict (Begins
      [.createSession, .closeSession, .setVideoCodec, .updateVideoConfig])).Reachable s →
        Consistent s := by
  intro h
  let kinds : List Call.Kind := [.createSession, .closeSession, .setVideoCodec, .updateVideoConfig]
  let run : List Event := [.call (.createSession .codec), .advance 0 false,
    .call (.setVideoCodec .h265 .compare)] ++ List.replicate 8 (.advance 1 false) ++
    List.replicate 5 (.advance 0 false)
  have hrun : ∃ s, run.foldlM (fun s e => if Begins kinds s e then step s e else none)
      { config := .default } = some s ∧ s.calls = [.returned, .returned] ∧
      s.sessions.map (fun session => (session.pipeline, session.config.codec)) = [(0, .h264)] ∧
      s.pipelines.map (·.config.outputCodec) = [.h265] :=
    ⟨_, rfl, rfl, rfl, rfl⟩
  obtain ⟨s, hrun, hreturned, hsessions, hpipelines⟩ := hrun
  have hreachable : (system.restrict (Begins kinds)).Reachable s :=
    TSys.ofFn_restrict_reachable (.init ⟨_, _, _, rfl⟩) hrun
  obtain ⟨session, hsession, hpair⟩ := List.mem_map.mp
    (hsessions ▸ List.mem_singleton_self ((0 : Nat), VideoCodecType.h264))
  obtain ⟨-, P, hP, hcodec, -⟩ := h s hreachable (by simp [hreturned]) session hsession
  have hcodec' : P.config.outputCodec ∈ [VideoCodecType.h265] :=
    hpipelines ▸ List.mem_map_of_mem (List.mem_of_getElem? hP)
  rw [← hcodec, (Prod.mk.inj hpair).2] at hcodec'
  cases List.mem_singleton.mp hcodec'

/-- The calls after a step: those before it, one that begins, one that goes on. -/
theorem calls_step {s s' : State} {e : Event} (hstep : step s e = some s') {call : Call}
    (hcall : call ∈ s'.calls) : call ∈ s.calls ∨ e = .call call ∨
      ∃ choice, ∃ before ∈ s.calls, call = (s.next choice before).2 := by
  cases e with
  | call new =>
    simp only [step] at hstep
    split at hstep <;> cases hstep
    rcases List.mem_append.mp hcall with hcall | hcall
    · exact .inl hcall
    · exact .inr (.inl (by rw [List.mem_singleton.mp hcall]))
  | advance i choice =>
    obtain ⟨before, hbefore, hstep⟩ := Option.bind_eq_some_iff.mp hstep
    split at hstep <;> cases hstep
    rcases List.mem_or_eq_of_mem_set hcall with hcall | rfl
    · exact .inl hcall
    · exact .inr (.inr ⟨choice, before, List.mem_of_getElem? hbefore, rfl⟩)
  | ensure fails =>
    simp only [step] at hstep
    split at hstep <;> cases hstep
    exact .inl (ensure_calls s fails ▸ hcall)
  | stop | subscribe | receiverEnds | disconnect | setCaptureDevice =>
    cases hstep
    exact .inl hcall
  | opened | leave | giveUp | autoStop | dropStream | monitor =>
    simp only [step] at hstep
    split at hstep <;> cases hstep
    exact .inl hcall

/-- Without calls that reconfigure the others need no condition on their order. -/
theorem idle_step {s s' : State} {e : Event} (h : Consistency s)
    (hcalls : ∀ call ∈ s.calls, call.reconfigures = false)
    (hbegins : Begins sessionCalls s e) (htimely : Timely s e)
    (hstep : step s e = some s') :
    Consistency s' ∧ ∀ call ∈ s'.calls, call.reconfigures = false := by
  have hkind {call : Call} (he : e = .call call) :
      call.reconfigures = false ∧ call.kind ≠ .release := by
    subst he
    have hmem : call.kind ∈ sessionCalls := hbegins
    simp only [sessionCalls, List.mem_cons, List.not_mem_nil, or_false] at hmem
    rcases hmem with hkind | hkind | hkind <;>
      simp [Call.reconfigures, hkind, Call.Kind.reconfigures]
  have hserial : Serial s e := by
    cases e with
    | call call =>
      obtain ⟨hreconfigures, hrelease⟩ := hkind rfl
      refine ⟨fun _ => hcalls, ?_, hrelease⟩
      intro hcall
      rw [hreconfigures] at hcall
      cases hcall
    | ensure fails => exact hcalls
    | advance | opened | stop | giveUp | autoStop | subscribe | receiverEnds | disconnect
    | setCaptureDevice | leave | dropStream | monitor => trivial
  refine ⟨consistency_step h htimely hserial hstep, ?_⟩
  intro call hcall
  rcases calls_step hstep hcall with hold | he | ⟨choice, before, hbefore, rfl⟩
  · exact hcalls call hold
  · exact (hkind he).1
  · exact kind_kept (P := (·.reconfigures = false)) (hcalls before hbefore) rfl

/-- Where idle stops and threads are timely, runs of creations, closes and cleanups strand
no session. -/
theorem sessions_run {s : State}
    (h : (system.restrict fun s e => Begins sessionCalls s e ∧ Timely s e).Reachable s) :
    NotStranded s := by
  have hinv : Consistency s ∧ ∀ call ∈ s.calls, call.reconfigures = false := by
    refine TSys.invariant
      (I := fun s => Consistency s ∧ ∀ call ∈ s.calls, call.reconfigures = false) ?_ ?_ h
    · rintro s ⟨config, videoCodec, captureDevice, rfl⟩
      exact ⟨consistency_init ⟨config, videoCodec, captureDevice, rfl⟩,
        fun _ hcall => nomatch hcall⟩
    · intro s e t h hstep
      exact idle_step h.1 h.2 hstep.2.1 hstep.2.2 hstep.1
  obtain ⟨hcon, hcalls⟩ := hinv
  rcases hcon.phase with ⟨hsessions, hcreates⟩ | ⟨i, busy, hbusy, hreconfigures, -, -⟩
  · refine ⟨?_, ?_⟩
    · intro _ session hsession
      exact (running_iff.mp (hsessions session hsession).1).2
    · intro call hcall p hp
      have hok := (hcreates call hcall).2
      unfold Call.holds at hp
      split at hp <;> cases hp
      all_goals exact (running_iff.mp hok.1).2
  · rw [hcalls busy (List.mem_of_getElem? hbusy)] at hreconfigures
    cases hreconfigures

/-- The next session comes after the stop and gets a new pipeline. -/
theorem second_session_runs :
    ∃ s, (system.restrict fun s e => Begins sessionCalls s e ∧ Timely s e).Reachable s ∧
      (∀ call ∈ s.calls, call = .returned) ∧ s.sessions.map (·.pipeline) = [1] ∧
      NotStranded s := by
  let run : List Event := aboutToStop ++ [.advance 1 false, .call (.createSession .codec)] ++
    List.replicate 6 (.advance 2 false)
  have hrun : ∃ s, run.foldlM
      (fun s e => if Begins sessionCalls s e ∧ Timely s e then step s e else none)
      { config := .default } = some s ∧ s.calls = [.returned, .returned, .returned] ∧
      s.sessions.map (·.pipeline) = [1] :=
    ⟨_, rfl, rfl, rfl⟩
  obtain ⟨s, hrun, hreturned, hsessions⟩ := hrun
  have h : (system.restrict fun s e => Begins sessionCalls s e ∧ Timely s e).Reachable s :=
    TSys.ofFn_restrict_reachable (.init ⟨_, _, _, rfl⟩) hrun
  exact ⟨s, h, by simp [hreturned], hsessions, sessions_run h⟩

/-- The next session gets the pipeline just before the stop. -/
theorem idle_stop_strands :
    ¬∀ s, (system.restrict (Begins sessionCalls)).Reachable s → NotStranded s := by
  intro h
  let run : List Event := aboutToStop ++ [.call (.createSession .codec), .advance 2 false,
    .advance 2 false, .advance 1 false] ++ List.replicate 4 (.advance 2 false)
  have hrun : ∃ s, run.foldlM (fun s e => if Begins sessionCalls s e then step s e else none)
      { config := .default } = some s ∧ s.calls = [.returned, .returned, .returned] ∧
      s.sessions.map (·.pipeline) = [0] ∧ s.pipelines.map (·.running) = [false] :=
    ⟨_, rfl, rfl, rfl, rfl⟩
  obtain ⟨s, hrun, hreturned, hsessions, hpipelines⟩ := hrun
  have hreachable : (system.restrict (Begins sessionCalls)).Reachable s :=
    TSys.ofFn_restrict_reachable (.init ⟨_, _, _, rfl⟩) hrun
  obtain ⟨session, hsession, hzero⟩ : ∃ session ∈ s.sessions, session.pipeline = 0 :=
    List.mem_map.mp (hsessions ▸ List.mem_singleton_self 0)
  obtain ⟨P, hP, htrue⟩ := (h s hreachable).1 (by simp [hreturned]) session hsession
  have hfalse : P.running ∈ [false] :=
    hpipelines ▸ List.mem_map_of_mem (List.mem_of_getElem? hP)
  rw [List.mem_singleton.mp hfalse] at htrue
  cases htrue

end StreamBox.Webrtc.Streamer
