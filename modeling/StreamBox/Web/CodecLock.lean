import StreamBox.Web.StreamHandlers

/-!
# The codec lock

* **Lock** — `locked_when_quiet`: as long as a mode or a codec is written only while the
  stored configuration allows it, a configuration is stored without enforcement only where
  it allows the current mode and codec, and an enforcement that has to leave MJPEG neither
  fails nor meets a switch that does not lead to WebRTC, the constraints hold whenever
  nothing is in progress.
* **Failure** — `unenforced_update`: the full update enables RTSP in MJPEG mode.

What restores the constraints is a debt of the handler that has changed them: whenever they
do not hold, some call is about to enforce them (`Call.Owes`).
-/

namespace StreamBox.Web.StreamHandlers

open StreamBox.Lib StreamBox.Config StreamBox.Video StreamBox.Video.Streamer
open StreamBox.Video.StreamManager

/-! ## The claim on the states -/

def allowsMode (config : AppConfig) (mode : StreamMode) : Bool :=
  mode ≠ .mjpeg || (StreamCodecConstraints.ofConfig config).isMjpegAllowed

def allowsCodec (config : AppConfig) (codec : VideoCodecType) : Bool :=
  (StreamCodecConstraints.ofConfig config).isWebrtcCodecAllowed codec

/-- No handler and no task of one is in progress. -/
def Quiet (s : State) : Prop :=
  ∀ call ∈ s.calls, call.done

/-- Whenever nothing is in progress, a configuration that enables RTSP or RustDesk allows
the mode and the codec. -/
def Locked (s : State) : Prop :=
  Quiet s → s.manager.config.rtsp.enabled ∨ s.manager.config.rustdesk.enabled →
    allowsMode s.manager.config s.manager.mode ∧
    allowsCodec s.manager.config s.manager.videoCodec

/-! ## The condition on the steps -/

/-- A switch to WebRTC has been accepted and has not written the mode yet. -/
def Enforce.heading : Enforce → Bool
  | switch (.identify _) | switch (.spawn _ _) => true
  | _ => false

def Call.heading : Call → Bool
  | startup (.enforce pc) | updateRtsp _ (.enforce _ pc) | updateRustdesk _ (.enforce pc)
  | updateStream _ (.enforce pc) => pc.heading
  | streamModeSet _ (.transaction ⟨.webrtc, _⟩ (.identify _))
  | streamModeSet _ (.transaction ⟨.webrtc, _⟩ (.spawn _ _)) => true
  | switch ⟨_, .webrtc, _, .stop⟩ | switch ⟨_, .webrtc, _, .write⟩ => true
  | _ => false

/-- The codec that an enforcement writes is still an allowed one; it is refused a switch
only where it needs none or another one leads to WebRTC. -/
def Enforce.lawful (s : State) : Enforce → Bool
  | leave c .write | correct c .write => allowsCodec s.manager.config c.preferredWebrtcCodec
  | switch (.compare _) =>
    !s.manager.switching || allowsMode s.manager.config s.manager.mode || s.calls.any Call.heading
  | _ => true

/-- The enforcement fails to set the codec with which it leaves MJPEG. -/
def Enforce.givesUp (fails : Bool) : Enforce → Bool
  | leave _ .ensure => fails
  | _ => false

/-- What the next step of a call writes is allowed by the stored configuration, or, where it
stores one without enforcing it, allowed by that one. -/
def Call.lawful (s : State) (fails : Bool) : Call → Bool
  | startup (.codec codec .write) | video codec .write => allowsCodec s.manager.config codec
  | streamModeSet _ (.set req _ .write) =>
    allowsCodec s.manager.config (req.videoCodec.getD .h264)
  | updateRtsp _ (.codec _ new .write) => allowsCodec s.manager.config (.ofRtsp new.codec)
  | startup (.enforce pc) | updateRustdesk _ (.enforce pc) | updateStream _ (.enforce pc) =>
    pc.lawful s && !pc.givesUp fails
  | updateRtsp _ (.enforce _ pc) => pc.lawful s
  | updateRtsp _ (.rollback old) =>
    let config := if fails then s.manager.config else { s.manager.config with rtsp := old }
    allowsMode config s.manager.mode && allowsCodec config s.manager.videoCodec
  | updateConfig _ (.set _ config) | updateConfig _ (.rollback config)
  | switch ⟨_, _, _, .set config⟩ =>
    fails || allowsMode config s.manager.mode && allowsCodec config s.manager.videoCodec
  | switch ⟨_, newMode, _, .write⟩ => allowsMode s.manager.config newMode
  | _ => true

def Lawful (s : State) : Event → Prop
  | .advance i fails => ∀ call ∈ s.calls[i]?, call.lawful s fails
  | _ => True

instance (s : State) : (e : Event) → Decidable (Lawful s e)
  | .advance i fails => inferInstanceAs (Decidable (∀ call ∈ s.calls[i]?, call.lawful s fails))
  | .streamModeSet _ | .updateRtsp _ | .updateRustdesk _ | .updateStream _ | .updateConfig _
  | .login _ | .option _ _ _ | .streamer _ => instDecidableTrue

/-! ## Debts -/

/-- The constraints hold. -/
structure Allowed (m : Manager) : Prop where
  mode : allowsMode m.config m.mode
  codec : allowsCodec m.config m.videoCodec

/-- The enforcement is going to restore the constraints: those that it has read are the
stored ones, and of mode and codec the one that it is past is allowed. -/
def Enforce.Owes (m : Manager) : Enforce → Prop
  | constraints => True
  | mode c => c = .ofConfig m.config
  | leave c pc => c = .ofConfig m.config ∧ (pc = .ensure → allowsCodec m.config m.videoCodec)
  | switch .read | switch (.compare _) | switch (.identify _) | switch (.spawn _ _) =>
    allowsCodec m.config m.videoCodec
  | switch _ => False
  | codec c => c = .ofConfig m.config ∧ allowsMode m.config m.mode
  | correct c pc => c = .ofConfig m.config ∧ allowsMode m.config m.mode ∧ pc ≠ .ensure

/-- The call is going to restore the constraints. -/
def Call.Owes (m : Manager) : Call → Prop
  | startup (.enforce pc) | updateRtsp _ (.enforce _ pc) | updateRustdesk _ (.enforce pc)
  | updateStream _ (.enforce pc) => pc.Owes m
  | startup _ => True
  | updateRtsp _ .old | updateRtsp _ (.update _) => False
  | updateRtsp _ _ => True
  | streamModeSet _ (.transaction ⟨.webrtc, _⟩ (.identify _))
  | streamModeSet _ (.transaction ⟨.webrtc, _⟩ (.spawn _ _))
  | switch ⟨_, .webrtc, _, .stop⟩ | switch ⟨_, .webrtc, _, .write⟩ =>
    allowsCodec m.config m.videoCodec
  | _ => False

/-- The constraints hold, or some call is going to restore them. -/
def Inv (s : State) : Prop :=
  Allowed s.manager ∨ ∃ call ∈ s.calls, call.Owes s.manager

/-- A step keeps what is allowed. -/
structure Kept (m m' : Manager) : Prop where
  config : m'.config = m.config
  mode : allowsMode m.config m.mode → allowsMode m.config m'.mode
  codec : allowsCodec m.config m.videoCodec → allowsCodec m.config m'.videoCodec

namespace Kept

variable {m m' : Manager}

theorem of_eq (hconfig : m'.config = m.config) (hmode : m'.mode = m.mode)
    (hcodec : m'.videoCodec = m.videoCodec) : Kept m m' :=
  ⟨hconfig, by rw [hmode]; exact id, by rw [hcodec]; exact id⟩

theorem rfl : Kept m m :=
  of_eq (Eq.refl _) (Eq.refl _) (Eq.refl _)

theorem allowed (h : Kept m m') (hallowed : Allowed m) : Allowed m' := by
  refine ⟨?_, ?_⟩
  · rw [h.config]
    exact h.mode hallowed.mode
  · rw [h.config]
    exact h.codec hallowed.codec

theorem allowsCodec (h : Kept m m') (hcodec : StreamHandlers.allowsCodec m.config m.videoCodec) :
    StreamHandlers.allowsCodec m'.config m'.videoCodec := by
  rw [h.config]
  exact h.codec hcodec

theorem enforce_owes {pc : Enforce} (h : Kept m m') (howes : pc.Owes m) : pc.Owes m' := by
  cases pc with
  | constraints => trivial
  | mode constraints =>
    show constraints = .ofConfig m'.config
    rw [h.config]
    exact howes
  | leave constraints pc =>
    refine ⟨?_, fun hpc => h.allowsCodec (howes.2 hpc)⟩
    rw [h.config]
    exact howes.1
  | switch pc =>
    cases pc with
    | read | compare | identify | spawn => exact h.allowsCodec howes
    | capture | init | refused => exact howes
  | codec constraints =>
    refine ⟨?_, ?_⟩
    · rw [h.config]
      exact howes.1
    · rw [h.config]
      exact h.mode howes.2
  | correct constraints pc =>
    refine ⟨?_, ?_, howes.2.2⟩
    · rw [h.config]
      exact howes.1
    · rw [h.config]
      exact h.mode howes.2.1

theorem owes {call : Call} (h : Kept m m') (howes : call.Owes m) : call.Owes m' := by
  unfold Call.Owes at howes ⊢
  split at howes
  all_goals
    first
    | exact h.enforce_owes howes
    | exact h.allowsCodec howes
    | trivial

end Kept

/-! ## One step of the shared parts -/

section Shared

variable {m m' : Manager} {fails : Bool}

theorem setVideoCodec_kept {codec : VideoCodecType} {pc : SetVideoCodec}
    {progress : Progress SetVideoCodec} (h : setVideoCodec m codec fails pc = (m', progress))
    (hwrite : pc = .write → allowsCodec m.config codec) : Kept m m' := by
  cases pc with
  | compare | ensure =>
    cases h
    exact .rfl
  | write =>
    cases h
    exact ⟨rfl, id, fun _ => hwrite rfl⟩

theorem transaction_kept {newMode : StreamMode} {pc : Transaction} {outcome : Outcome}
    (h : m.transaction newMode fails pc = (m', outcome)) : Kept m m' := by
  obtain ⟨hmode, hconfig, hcodec⟩ := Manager.transaction_keeps h
  exact .of_eq hconfig hmode hcodec

theorem enforce_kept {pc : Enforce} {progress : Progress Enforce}
    (h : enforce m fails pc = (m', progress))
    (hwrite : ∀ c, pc = .leave c .write ∨ pc = .correct c .write →
      allowsCodec m.config c.preferredWebrtcCodec) : Kept m m' := by
  cases pc with
  | constraints | codec =>
    cases h
    exact .rfl
  | mode c =>
    simp only [enforce] at h
    split at h <;> cases h <;> exact .rfl
  | leave c pc =>
    have hwrite (hpc : pc = .write) := hwrite c (.inl (by rw [hpc]))
    rcases hset : setVideoCodec m c.preferredWebrtcCodec fails pc with ⟨m₁, progress₁⟩
    have hkept := setVideoCodec_kept hset hwrite
    simp only [enforce, hset] at h
    cases progress₁ <;> cases h <;> exact hkept
  | correct c pc =>
    have hwrite (hpc : pc = .write) := hwrite c (.inr (by rw [hpc]))
    rcases hset : setVideoCodec m c.preferredWebrtcCodec fails pc with ⟨m₁, progress₁⟩
    have hkept := setVideoCodec_kept hset hwrite
    simp only [enforce, hset] at h
    cases progress₁ <;> cases h <;> exact hkept
  | switch pc =>
    rcases htx : m.transaction .webrtc fails pc with ⟨m₁, outcome⟩
    have hkept := transaction_kept htx
    simp only [enforce, htx] at h
    cases outcome <;> cases h <;> exact hkept

/-- The step of an enforcement leaves the debt to its next one or to a switch. -/
def Progress.Owes (m : Manager) : Progress Enforce → Prop
  | .goes pc => pc.Owes m
  | .spawns switch => (Call.switch switch).Owes m
  | .returns _ => False

theorem allowed_of_mjpeg (hmjpeg : (StreamCodecConstraints.ofConfig m.config).isMjpegAllowed) :
    Allowed m := by
  refine ⟨?_, ?_⟩
  · simp [allowsMode, hmjpeg]
  · rw [allowsCodec, StreamCodecConstraints.eq_unrestricted_of_mjpeg hmjpeg]
    exact StreamCodecConstraints.unrestricted_allowed _

theorem allowsMode_webrtc (config : AppConfig) : allowsMode config .webrtc := rfl

theorem preferred_allows (config : AppConfig) :
    allowsCodec config (StreamCodecConstraints.ofConfig config).preferredWebrtcCodec :=
  StreamCodecConstraints.preferred_allowed config

/-- The switch of an enforcement reads WebRTC, gets the flag, or is refused. -/
theorem transaction_owes {pc : Transaction} {progress : Progress Enforce}
    (howes : (Enforce.switch pc).Owes m) (h : enforce m fails (.switch pc) = (m', progress)) :
    Allowed m' ∨ progress.Owes m' ∨ ∃ currentMode, pc = .compare currentMode ∧ m.switching := by
  cases pc with
  | read =>
    simp only [enforce, Manager.transaction] at h
    by_cases hmode : m.mode = .webrtc
    · rw [if_pos hmode] at h
      cases h
      refine .inl ⟨?_, howes⟩
      rw [hmode]
      exact allowsMode_webrtc _
    · rw [if_neg hmode] at h
      cases h
      exact .inr (.inl howes)
  | compare currentMode =>
    cases hswitching : m.switching with
    | true => exact .inr (.inr ⟨currentMode, rfl, rfl⟩)
    | false =>
      simp only [enforce, Manager.transaction, hswitching] at h
      cases h
      exact .inr (.inl howes)
  | identify currentMode | spawn currentMode transitionId =>
    cases h
    exact .inr (.inl howes)
  | capture | init | refused => exact absurd howes id

theorem enforce_owes {pc : Enforce} {progress : Progress Enforce} (howes : pc.Owes m)
    (h : enforce m fails pc = (m', progress)) :
    Allowed m' ∨ progress.Owes m' ∨ pc.givesUp fails ∨
      ∃ currentMode, pc = .switch (.compare currentMode) ∧ m.switching := by
  cases pc with
  | constraints =>
    cases h
    exact .inr (.inl rfl)
  | mode c =>
    have hc : c = .ofConfig m.config := howes
    subst hc
    cases hmode : m.mode with
    | mjpeg =>
      simp only [enforce, hmode] at h
      cases h
      split
      · rename_i hmjpeg
        exact .inl (allowed_of_mjpeg hmjpeg)
      · exact .inr (.inl ⟨rfl, fun hpc => nomatch hpc⟩)
    | webrtc =>
      simp only [enforce, hmode] at h
      cases h
      refine .inr (.inl ⟨rfl, ?_⟩)
      rw [hmode]
      exact allowsMode_webrtc _
  | leave c pc =>
    obtain ⟨rfl, hensure⟩ := howes
    cases pc with
    | compare =>
      by_cases hsame :
          m.videoCodec = (StreamCodecConstraints.ofConfig m.config).preferredWebrtcCodec
      · simp only [enforce, setVideoCodec, if_pos hsame] at h
        cases h
        refine .inr (.inl ?_)
        show allowsCodec m.config m.videoCodec
        rw [hsame]
        exact preferred_allows _
      · simp only [enforce, setVideoCodec, if_neg hsame] at h
        cases h
        exact .inr (.inl ⟨rfl, fun hpc => nomatch hpc⟩)
    | write =>
      cases h
      exact .inr (.inl ⟨rfl, fun _ => preferred_allows _⟩)
    | ensure =>
      cases fails with
      | true => exact .inr (.inr (.inl rfl))
      | false =>
        cases h
        exact .inr (.inl (hensure rfl))
  | switch pc =>
    rcases transaction_owes howes h with hallowed | howes | ⟨currentMode, rfl, hswitching⟩
    · exact .inl hallowed
    · exact .inr (.inl howes)
    · exact .inr (.inr (.inr ⟨currentMode, rfl, hswitching⟩))
  | codec c =>
    obtain ⟨rfl, hmode⟩ := howes
    cases h
    split
    · rename_i hcodec
      exact .inl ⟨hmode, hcodec⟩
    · exact .inr (.inl ⟨rfl, hmode, by simp⟩)
  | correct c pc =>
    obtain ⟨rfl, hmode, hpc⟩ := howes
    cases pc with
    | compare =>
      by_cases hsame :
          m.videoCodec = (StreamCodecConstraints.ofConfig m.config).preferredWebrtcCodec
      · simp only [enforce, setVideoCodec, if_pos hsame] at h
        cases h
        refine .inl ⟨hmode, ?_⟩
        rw [hsame]
        exact preferred_allows _
      · simp only [enforce, setVideoCodec, if_neg hsame] at h
        cases h
        exact .inr (.inl ⟨rfl, hmode, by simp⟩)
    | write =>
      cases h
      exact .inl ⟨hmode, preferred_allows _⟩
    | ensure => exact absurd rfl hpc

end Shared

/-! ## One step of a call -/

/-- A step of call `i` keeps what is allowed or ends in a state where the constraints hold
or are owed; the latter if the call owes them; and it leaves the other calls alone, up to
the video task that a client aborts. -/
structure Serves (s t : State) (i : Nat) (call : Call) : Prop where
  kept : Kept s.manager t.manager ∨ Inv t
  owes : call.Owes s.manager → Inv t
  others : ∀ (j : Nat) (other : Call), j ≠ i → s.calls[j]? = some other →
    (∀ codec pc, other ≠ .video codec pc) → other ∈ t.calls

theorem not_video_of_owes {m : Manager} {call : Call} (h : call.Owes m) (codec : VideoCodecType)
    (pc : SetVideoCodec) : call ≠ .video codec pc := by
  rintro rfl
  exact h

theorem inv_of_serves {s t : State} {i : Nat} {call : Call} (h : Inv s)
    (hcall : s.calls[i]? = some call) (hserves : Serves s t i call) : Inv t := by
  rcases h with hallowed | ⟨other, hother, howes⟩
  · rcases hserves.kept with hkept | hinv
    · exact .inl (hkept.allowed hallowed)
    · exact hinv
  · obtain ⟨j, hget⟩ := List.mem_iff_getElem?.mp hother
    by_cases hj : j = i
    · subst hj
      rw [hcall] at hget
      cases hget
      exact hserves.owes howes
    · rcases hserves.kept with hkept | hinv
      · have hstays := hserves.others j other hj hget (not_video_of_owes howes)
        exact .inr ⟨other, hstays, hkept.owes howes⟩
      · exact hinv

section Moves

variable {s : State} {i : Nat} {call call' : Call} {m : Manager} {switch : Option Switch}
  {fails : Bool}

theorem moves_others {j : Nat} {other : Call} (hj : j ≠ i) (hother : s.calls[j]? = some other) :
    other ∈ (s.moves i m switch call').calls := by
  refine List.mem_append_left _ (List.mem_of_getElem? (i := j) ?_)
  rw [List.getElem?_set_ne (Ne.symm hj)]
  exact hother

theorem moves_self (hcall : s.calls[i]? = some call) :
    call' ∈ (s.moves i m switch call').calls := by
  have hlt : i < s.calls.length := (List.getElem?_eq_some_iff.mp hcall).1
  exact List.mem_append_left _ (List.mem_of_getElem? (List.getElem?_set_self hlt))

theorem inv_moves (hcall : s.calls[i]? = some call) (howes : call'.Owes m) :
    Inv (s.moves i m switch call') :=
  .inr ⟨call', moves_self hcall, howes⟩

theorem inv_spawned {switch : Switch} (howes : (Call.switch switch).Owes m) :
    Inv (s.moves i m (some switch) call') :=
  .inr ⟨_, List.mem_append_right _ (List.mem_singleton.mpr rfl), howes⟩

theorem serves_moves (hkept : Kept s.manager m)
    (howes : call.Owes s.manager → Inv (s.moves i m switch call')) :
    Serves s (s.moves i m switch call') i call :=
  ⟨.inl hkept, howes, fun _ _ hj hother _ => moves_others hj hother⟩

theorem heading_owes {call : Call} (hheading : call.heading)
    (hcodec : allowsCodec m.config m.videoCodec) : call.Owes m := by
  have henforce {pc : Enforce} (hpc : pc.heading) : pc.Owes m := by
    unfold Enforce.heading at hpc
    split at hpc
    · exact hcodec
    · exact hcodec
    · cases hpc
  unfold Call.heading at hheading
  split at hheading
  all_goals
    first
    | exact henforce hheading
    | exact hcodec
    | cases hheading

/-- An enforcement passes its debt on: to its next step, to a switch, to the rollback after
it, or to the switch on account of which it is refused. -/
theorem serves_enforces {pc : Enforce} {goes : Enforce → Call} {returns : Bool → Call}
    (hcall : s.calls[i]? = some call) (hheading : call.heading = pc.heading)
    (hlawful : pc.lawful s) (howes : call.Owes s.manager → pc.Owes s.manager)
    (hgoes : ∀ m pc, Enforce.Owes m pc → (goes pc).Owes m)
    (hgivesUp : pc.givesUp fails → ∀ m, (returns false).Owes m) :
    Serves s (s.enforces i fails pc goes returns) i call := by
  rcases henforce : enforce s.manager fails pc with ⟨m, progress⟩
  have hkept : Kept s.manager m := by
    refine enforce_kept henforce ?_
    rintro c (rfl | rfl)
    · exact hlawful
    · exact hlawful
  simp only [State.enforces, henforce]
  refine ⟨.inl ?_, fun hcallOwes => ?_, fun j other hj hother _ => ?_⟩
  · cases progress <;> exact hkept
  · have hpc := howes hcallOwes
    rcases enforce_owes hpc henforce with hallowed | hprogress | hfails | ⟨cur, rfl, hswitching⟩
    · cases progress <;> exact .inl hallowed
    · cases progress with
      | goes pc' => exact inv_moves hcall (hgoes m pc' hprogress)
      | spawns switch => exact inv_spawned hprogress
      | returns ok => exact absurd hprogress id
    · have hreturns : progress = .returns false := by
        unfold Enforce.givesUp at hfails
        split at hfails
        · subst hfails
          cases henforce
          rfl
        · cases hfails
      subst hreturns
      exact inv_moves hcall (hgivesUp hfails m)
    · simp only [enforce, Manager.transaction, hswitching, if_true] at henforce
      cases henforce
      have hcodec : allowsCodec s.manager.config s.manager.videoCodec := hpc
      have hcases : allowsMode s.manager.config s.manager.mode ∨
          s.calls.any Call.heading := by
        simpa [Enforce.lawful, hswitching] using hlawful
      rcases hcases with hmode | hany
      · exact .inl ⟨hmode, hcodec⟩
      · obtain ⟨other, hother, hotherHeading⟩ := List.any_eq_true.mp hany
        obtain ⟨j, hget⟩ := List.mem_iff_getElem?.mp hother
        have hj : j ≠ i := by
          rintro rfl
          rw [hcall] at hget
          cases hget
          rw [hheading] at hotherHeading
          cases hotherHeading
        exact .inr ⟨other, moves_others hj hget, heading_owes hotherHeading hcodec⟩
  · cases progress <;> exact moves_others hj hother

/-- The codec is set outside an enforcement; what the call owes, it owes after the step. -/
theorem serves_setsCodec {codec : VideoCodecType} {pc : SetVideoCodec}
    {goes : SetVideoCodec → Call} {returns : Bool → Call} (hcall : s.calls[i]? = some call)
    (hwrite : pc = .write → allowsCodec s.manager.config codec)
    (hgoes : ∀ m pc, call.Owes s.manager → (goes pc).Owes m)
    (hreturns : ∀ m ok, call.Owes s.manager → (returns ok).Owes m) :
    Serves s (s.setsCodec i codec fails pc goes returns) i call := by
  rcases hset : setVideoCodec s.manager codec fails pc with ⟨m, progress⟩
  have hkept := setVideoCodec_kept hset hwrite
  simp only [State.setsCodec, hset]
  cases progress with
  | goes pc' => exact serves_moves hkept fun howes => inv_moves hcall (hgoes m pc' howes)
  | spawns switch => exact serves_moves hkept fun howes => inv_moves hcall (hreturns m true howes)
  | returns ok => exact serves_moves hkept fun howes => inv_moves hcall (hreturns m ok howes)

/-- A configuration is stored, and its enforcement is owed. -/
theorem serves_stores {config : AppConfig} {stored failed : Call}
    (hcall : s.calls[i]? = some call) (howes : ¬call.Owes s.manager)
    (hstored : ∀ m, stored.Owes m) :
    Serves s (s.stores i config fails stored failed) i call := by
  cases fails with
  | true => exact serves_moves .rfl fun h => absurd h howes
  | false =>
    have hinv : Inv (s.moves i { s.manager with config } none stored) :=
      inv_moves hcall (hstored _)
    exact ⟨.inr hinv, fun _ => hinv, fun j other hj hother _ => moves_others hj hother⟩

/-- A configuration is stored that allows the mode and the codec. -/
theorem serves_stores_allowed {config : AppConfig} {stored failed : Call}
    (hallowed : fails = false → Allowed { s.manager with config })
    (howes : call.Owes s.manager → fails → Allowed s.manager) :
    Serves s (s.stores i config fails stored failed) i call := by
  cases fails with
  | true => exact serves_moves .rfl fun h => .inl (howes h rfl)
  | false =>
    have hinv : Inv (s.moves i { s.manager with config } none stored) := .inl (hallowed rfl)
    exact ⟨.inr hinv, fun _ => hinv, fun j other hj hother _ => moves_others hj hother⟩

end Moves

section Handlers

variable {s t : State} {i : Nat} {fails : Bool}

theorem startup_serves {pc : Startup} (hcall : s.calls[i]? = some (.startup pc))
    (hlawful : (Call.startup pc).lawful s fails) :
    Serves s (s.startup i fails pc) i (.startup pc) := by
  cases pc with
  | codec codec pc =>
    show Serves s (s.setsCodec i codec fails pc (fun pc => .startup (.codec codec pc))
      fun ok => .startup (if ok then .bind else .enforce .constraints)) i _
    refine serves_setsCodec hcall ?_ (fun m pc _ => trivial) ?_
    · rintro rfl
      exact hlawful
    · intro m ok _
      cases ok <;> trivial
  | bind => exact serves_moves .rfl fun _ => inv_moves hcall trivial
  | enforce pc =>
    obtain ⟨hpc, hgivesUp⟩ := (Bool.and_eq_true _ _).mp hlawful
    show Serves s (s.enforces i fails pc (fun pc => .startup (.enforce pc)) fun _ => .returned) i _
    refine serves_enforces hcall rfl hpc id (fun m pc howes => howes) fun hfails => ?_
    simp [hfails] at hgivesUp

theorem section_serves {config : AppConfig} {goes : UpdateSection → Call} {pc : UpdateSection}
    (hcall : s.calls[i]? = some (goes pc)) (hupdate : ∀ m, ¬(goes .update).Owes m)
    (hheading : ∀ pc, (goes (.enforce pc)).heading = pc.heading)
    (henforce : ∀ m pc, (goes (.enforce pc)).Owes m ↔ pc.Owes m)
    (hlawful : ∀ enforce, pc = .enforce enforce → enforce.lawful s && !enforce.givesUp fails) :
    Serves s (s.updateSection i config fails goes pc) i (goes pc) := by
  cases pc with
  | update => exact serves_stores hcall (hupdate _) fun m => (henforce m _).mpr trivial
  | enforce pc =>
    obtain ⟨hpc, hgivesUp⟩ := (Bool.and_eq_true _ _).mp (hlawful pc rfl)
    show Serves s (s.enforces i fails pc (fun pc => goes (.enforce pc)) fun _ => .returned) i _
    refine serves_enforces hcall (hheading pc) hpc (henforce _ pc).mp
      (fun m pc howes => (henforce m pc).mpr howes) fun hfails => ?_
    simp [hfails] at hgivesUp

theorem updateRtsp_serves {req : RtspConfigUpdate} {pc : UpdateRtsp}
    (hcall : s.calls[i]? = some (.updateRtsp req pc))
    (hlawful : (Call.updateRtsp req pc).lawful s fails)
    (hstep : s.updateRtsp i req fails pc = some t) : Serves s t i (.updateRtsp req pc) := by
  cases pc with
  | old =>
    cases hstep
    exact serves_moves .rfl fun howes => absurd howes id
  | update old =>
    cases hstep
    exact serves_stores hcall id fun m => trivial
  | new old =>
    cases hstep
    exact serves_moves .rfl fun _ => inv_moves hcall trivial
  | lock old new =>
    simp only [State.updateRtsp] at hstep
    split at hstep <;> cases hstep
    have hserves : Serves s (s.moves i s.manager none (.updateRtsp req (.service old new))) i
        (.updateRtsp req (.lock old new)) :=
      serves_moves .rfl fun _ => inv_moves hcall trivial
    exact ⟨hserves.kept, hserves.owes, hserves.others⟩
  | service old new =>
    simp only [State.updateRtsp] at hstep
    split at hstep <;> cases hstep
    · have hserves : Serves s (s.moves i s.manager none (.updateRtsp req (.codec old new .compare)))
          i (.updateRtsp req (.service old new)) :=
        serves_moves .rfl fun _ => inv_moves hcall trivial
      exact ⟨hserves.kept, hserves.owes, hserves.others⟩
    · have hserves : Serves s
          (s.moves i s.manager none (.updateRtsp req (.enforce old .constraints)))
          i (.updateRtsp req (.service old new)) :=
        serves_moves .rfl fun _ => inv_moves hcall trivial
      exact ⟨hserves.kept, hserves.owes, hserves.others⟩
  | codec old new pc =>
    have hserves : Serves s (s.setsCodec i (.ofRtsp new.codec) fails pc
        (fun pc => .updateRtsp req (.codec old new pc))
        fun ok => .updateRtsp req (if ok then .bind old new else .rollback old))
        i (.updateRtsp req (.codec old new pc)) := by
      refine serves_setsCodec hcall ?_ (fun m pc _ => trivial) ?_
      · rintro rfl
        exact hlawful
      · intro m ok _
        cases ok <;> trivial
    cases hstep
    split
    · exact ⟨hserves.kept, hserves.owes, hserves.others⟩
    · exact hserves
  | bind old new =>
    simp only [State.updateRtsp] at hstep
    split at hstep <;> cases hstep
    · have hserves : Serves s (s.moves i s.manager none (.updateRtsp req (.rollback old)))
          i (.updateRtsp req (.bind old new)) :=
        serves_moves .rfl fun _ => inv_moves hcall trivial
      exact ⟨hserves.kept, hserves.owes, hserves.others⟩
    · have hserves : Serves s
          (s.moves i s.manager none (.updateRtsp req (.enforce old .constraints)))
          i (.updateRtsp req (.bind old new)) :=
        serves_moves .rfl fun _ => inv_moves hcall trivial
      exact ⟨hserves.kept, hserves.owes, hserves.others⟩
  | enforce old pc =>
    cases hstep
    exact serves_enforces hcall rfl hlawful id (fun m pc howes => howes) fun _ m => trivial
  | rollback old =>
    cases hstep
    obtain ⟨hmode, hcodec⟩ := (Bool.and_eq_true _ _).mp hlawful
    refine serves_stores_allowed ?_ ?_
    · rintro rfl
      exact ⟨hmode, hcodec⟩
    · rintro - rfl
      exact ⟨hmode, hcodec⟩

theorem updateConfig_serves {req : UpdateConfigRequest} {pc : UpdateConfig}
    (hlawful : (Call.updateConfig req pc).lawful s fails) :
    Serves s (s.updateConfig i req fails pc) i (.updateConfig req pc) := by
  have hallowed {config : AppConfig} (h : fails || allowsMode config s.manager.mode &&
      allowsCodec config s.manager.videoCodec) (hfails : fails = false) :
      Allowed { s.manager with config } := by
    subst hfails
    obtain ⟨hmode, hcodec⟩ := (Bool.and_eq_true _ _).mp h
    exact ⟨hmode, hcodec⟩
  cases pc with
  | old | apply => exact serves_moves .rfl fun howes => absurd howes id
  | set old new => exact serves_stores_allowed (hallowed hlawful) fun howes => absurd howes id
  | rollback old => exact serves_stores_allowed (hallowed hlawful) fun howes => absurd howes id

theorem client_serves {client : Nat} {pc : ClientPc} :
    Serves s (s.client i client pc) i (.client client pc) := by
  cases pc with
  | negotiate | compare | constraints => exact serves_moves .rfl fun howes => absurd howes id
  | abort codec =>
    refine ⟨.inl .rfl, fun howes => absurd howes id, fun j other hj hother hvideo => ?_⟩
    have habort : other.abort = other := by
      cases other with
      | video codec pc => exact absurd rfl (hvideo codec pc)
      | _ => rfl
    refine List.mem_of_getElem? (i := j) ?_
    simp only [State.client]
    rw [List.getElem?_set_ne (Ne.symm hj)]
    split
    · rw [List.getElem?_modify, hother]
      split
      · exact congrArg some habort
      · rfl
    · exact hother
  | restart codec =>
    refine ⟨.inl .rfl, fun howes => absurd howes id, fun j other hj hother _ => ?_⟩
    refine List.mem_append_left _ (List.mem_of_getElem? (i := j) ?_)
    rw [List.getElem?_set_ne (Ne.symm hj)]
    exact hother

theorem streamModeSet_serves {mode : String} {pc : StreamModeSet} {m : Manager}
    {switch : Option Switch} {call : Call} (hcall : s.calls[i]? = some (.streamModeSet mode pc))
    (hlawful : (Call.streamModeSet mode pc).lawful s fails)
    (hstep : streamModeSet s.manager mode fails pc = (m, switch, call)) :
    Serves s (s.moves i m switch call) i (.streamModeSet mode pc) := by
  cases pc with
  | constraints =>
    simp only [streamModeSet] at hstep
    split at hstep <;> cases hstep <;> exact serves_moves .rfl fun howes => absurd howes id
  | mode | codec | activeCodec =>
    cases hstep
    exact serves_moves .rfl fun howes => absurd howes id
  | notify req =>
    cases hstep
    exact serves_moves (.of_eq rfl rfl rfl) fun howes => absurd howes id
  | active req tx =>
    simp only [streamModeSet] at hstep
    split at hstep <;> cases hstep <;> exact serves_moves .rfl fun howes => absurd howes id
  | set req codecOnly pc =>
    rcases hset : setVideoCodec s.manager (req.videoCodec.getD .h264) fails pc with ⟨m', progress⟩
    have hkept : Kept s.manager m' := by
      refine setVideoCodec_kept hset ?_
      rintro rfl
      exact hlawful
    simp only [streamModeSet, hset] at hstep
    cases progress <;> cases hstep <;> exact serves_moves hkept fun howes => absurd howes id
  | transaction req pc =>
    have hkept : Kept s.manager m := by
      rcases htx : s.manager.transaction req.newMode fails pc with ⟨m', outcome⟩
      have hkept := transaction_kept htx
      simp only [streamModeSet, htx] at hstep
      cases outcome with
      | goes | spawns =>
        cases hstep
        exact hkept
      | returns result => cases result <;> cases hstep <;> exact hkept
    refine serves_moves hkept fun howes => ?_
    obtain ⟨newMode, videoCodec⟩ := req
    cases newMode with
    | mjpeg => exact absurd howes id
    | webrtc =>
      cases pc with
      | identify currentMode =>
        cases hstep
        exact inv_moves hcall howes
      | spawn currentMode transitionId =>
        cases hstep
        exact inv_spawned howes
      | read | capture | init | compare | refused => exact absurd howes id

theorem switch_serves {switch : Switch} {m : Manager} {pc : Option DoSwitchMode}
    (hcall : s.calls[i]? = some (.switch switch)) (hlawful : (Call.switch switch).lawful s fails)
    (hstep : s.manager.doSwitchMode switch fails switch.pc = (m, pc)) :
    Serves s (s.moves i m none (pc.elim .returned fun pc => .switch { switch with pc })) i
      (.switch switch) := by
  obtain ⟨hmode, hconfig, hcodec⟩ := Manager.doSwitchMode_writes hstep
  obtain ⟨currentMode, newMode, transitionId, now⟩ := switch
  cases now with
  | stop =>
    refine serves_moves (.of_eq hconfig hmode hcodec) fun howes => inv_moves hcall ?_
    have hpc : pc = some .write := by
      cases currentMode <;> cases hstep <;> rfl
    subst hpc
    cases newMode with
    | mjpeg => exact absurd howes id
    | webrtc =>
      show allowsCodec m.config m.videoCodec
      rw [hconfig, hcodec]
      exact howes
  | write =>
    have hkept : Kept s.manager m := by
      refine ⟨hconfig, fun _ => ?_, by rw [hcodec]; exact id⟩
      rw [hmode]
      exact hlawful
    refine serves_moves hkept fun howes => ?_
    cases newMode with
    | mjpeg => exact absurd howes id
    | webrtc =>
      refine .inl ⟨?_, hkept.allowsCodec howes⟩
      show allowsMode m.config m.mode
      rw [hmode]
      exact allowsMode_webrtc _
  | set config =>
    cases fails with
    | true =>
      refine serves_moves (.of_eq hconfig hmode hcodec) fun howes => ?_
      cases newMode <;> exact absurd howes id
    | false =>
      obtain ⟨hallowsMode, hallowsCodec⟩ := (Bool.and_eq_true _ _).mp hlawful
      have hallowed : Allowed m := by
        refine ⟨?_, ?_⟩
        · rw [hconfig, hmode]
          exact hallowsMode
        · rw [hconfig, hcodec]
          exact hallowsCodec
      exact ⟨.inr (.inl hallowed), fun _ => .inl hallowed,
        fun j other hj hother _ => moves_others hj hother⟩
  | format | start | init | get | clear | release =>
    refine serves_moves (.of_eq hconfig hmode hcodec) fun howes => ?_
    cases newMode <;> exact absurd howes id

theorem next_serves {call : Call} (hcall : s.calls[i]? = some call)
    (hlawful : call.lawful s fails) (hstep : s.next i fails call = some t) :
    Serves s t i call := by
  cases call with
  | startup pc =>
    cases hstep
    exact startup_serves hcall hlawful
  | streamModeSet mode pc =>
    rcases hm : streamModeSet s.manager mode fails pc with ⟨m, switch, call⟩
    simp only [State.next, hm] at hstep
    cases hstep
    exact streamModeSet_serves hcall hlawful hm
  | updateRtsp req pc => exact updateRtsp_serves hcall hlawful hstep
  | updateRustdesk req pc =>
    cases hstep
    refine section_serves hcall (fun _ => id) (fun _ => rfl) (fun _ _ => Iff.rfl) ?_
    rintro pc rfl
    exact hlawful
  | updateStream req pc =>
    cases hstep
    refine section_serves hcall (fun _ => id) (fun _ => rfl) (fun _ _ => Iff.rfl) ?_
    rintro pc rfl
    exact hlawful
  | updateConfig req pc =>
    cases hstep
    exact updateConfig_serves hlawful
  | client client pc =>
    cases hstep
    exact client_serves
  | video codec pc =>
    cases hstep
    refine serves_setsCodec hcall ?_ (fun _ _ howes => absurd howes id)
      fun _ _ howes => absurd howes id
    rintro rfl
    exact hlawful
  | switch switch =>
    rcases hm : s.manager.doSwitchMode switch fails switch.pc with ⟨m, pc⟩
    simp only [State.next, hm] at hstep
    cases hstep
    exact switch_serves hcall hlawful hm
  | answered | returned => cases hstep

end Handlers

/-! ## Over whole runs -/

theorem inv_begin {s : State} {call : Call} (h : Inv s) : Inv (s.begin call) := by
  rcases h with hallowed | ⟨other, hother, howes⟩
  · exact .inl hallowed
  · exact .inr ⟨other, List.mem_append_left _ hother, howes⟩

theorem inv_step {s s' : State} {e : Event} (h : Inv s) (hlawful : Lawful s e)
    (hstep : step s e = some s') : Inv s' := by
  cases e with
  | streamModeSet | updateRtsp | updateRustdesk | updateStream | updateConfig =>
    cases hstep
    exact inv_begin h
  | login available =>
    cases hstep
    exact inv_begin h
  | option client codec available =>
    simp only [step] at hstep
    split at hstep <;> cases hstep
    exact inv_begin h
  | streamer state =>
    simp only [step] at hstep
    split at hstep <;> cases hstep
    have hkept : Kept s.manager { s.manager with streamer := state } := .of_eq rfl rfl rfl
    rcases h with hallowed | ⟨other, hother, howes⟩
    · exact .inl (hkept.allowed hallowed)
    · exact .inr ⟨other, hother, hkept.owes howes⟩
  | advance i fails =>
    obtain ⟨call, hcall, hnext⟩ := Option.bind_eq_some_iff.mp hstep
    exact inv_of_serves h hcall (next_serves hcall (hlawful call hcall) hnext)

/-- A call that has returned owes nothing. -/
theorem not_owes_of_done {m : Manager} {call : Call} (h : call.done) : ¬call.Owes m := by
  cases call with
  | answered | returned => exact id
  | _ => cases h

/-- The program has started in MJPEG mode, with RTSP and RustDesk disabled. -/
def started : State :=
  boot { rustdesk := { deviceId := "123456789", devicePassword := "secret" } } .ready

end StreamBox.Web.StreamHandlers
