import StreamBox.Config.Rollback

/-!
# Requests to single sections

The handlers of the HID, the stream, the RTSP and the RustDesk section store an update and then
apply the difference between what they have read before and after it. Their steps interleave,
and those of the switches of the mode that the codec constraints start.

* **Agreement** — `running_follows_stored`: where a request applies what is stored, and overlooks
  nothing that runs otherwise, the subsystems run with what is stored once all have answered.
* **Failure** — `relay_not_applied`: RustDesk keeps its relay server until it is restarted for
  another reason.
-/

namespace StreamBox.Patches

open StreamBox.Lib StreamBox.Config.Sections StreamBox.Subsystems
open StreamBox.Config (StreamMode RtspConfig RtspConfigUpdate RustDeskConfigUpdate orCleared)
open StreamBox.ConfigStore (modeEdit setRtsp)

/-! ## Requests -/

structure OtgDescriptorConfigUpdate where
  vendorId : Option UInt16 := none
  productId : Option UInt16 := none
  manufacturer : Option String := none
  product : Option String := none
  serialNumber : Option String := none

def OtgDescriptorConfigUpdate.applyTo (req : OtgDescriptorConfigUpdate)
    (config : OtgDescriptorConfig) : OtgDescriptorConfig where
  vendorId := req.vendorId.getD config.vendorId
  productId := req.productId.getD config.productId
  manufacturer := req.manufacturer.getD config.manufacturer
  product := req.product.getD config.product
  serialNumber := req.serialNumber.or config.serialNumber

structure OtgHidFunctionsUpdate where
  keyboard : Option Bool := none
  mouseRelative : Option Bool := none
  mouseAbsolute : Option Bool := none
  consumer : Option Bool := none

def OtgHidFunctionsUpdate.applyTo (req : OtgHidFunctionsUpdate) (config : OtgHidFunctions) :
    OtgHidFunctions where
  keyboard := req.keyboard.getD config.keyboard
  mouseRelative := req.mouseRelative.getD config.mouseRelative
  mouseAbsolute := req.mouseAbsolute.getD config.mouseAbsolute
  consumer := req.consumer.getD config.consumer

structure HidConfigUpdate where
  backend : Option HidBackend := none
  ch9329Port : Option String := none
  ch9329Baudrate : Option UInt32 := none
  otgUdc : Option String := none
  otgDescriptor : Option OtgDescriptorConfigUpdate := none
  otgProfile : Option OtgHidProfile := none
  otgEndpointBudget : Option OtgEndpointBudget := none
  otgFunctions : Option OtgHidFunctionsUpdate := none
  otgKeyboardLeds : Option Bool := none
  mouseAbsolute : Option Bool := none

def HidConfigUpdate.applyTo (req : HidConfigUpdate) (config : HidConfig) : HidConfig where
  backend := req.backend.getD config.backend
  ch9329Port := req.ch9329Port.getD config.ch9329Port
  ch9329Baudrate := req.ch9329Baudrate.getD config.ch9329Baudrate
  otgUdc := req.otgUdc.or config.otgUdc
  otgDescriptor :=
    match req.otgDescriptor with
    | some descriptor => descriptor.applyTo config.otgDescriptor
    | none => config.otgDescriptor
  otgProfile := req.otgProfile.getD config.otgProfile
  otgEndpointBudget := req.otgEndpointBudget.getD config.otgEndpointBudget
  otgFunctions :=
    match req.otgFunctions with
    | some functions => functions.applyTo config.otgFunctions
    | none => config.otgFunctions
  otgKeyboardLeds := req.otgKeyboardLeds.getD config.otgKeyboardLeds
  mouseAbsolute := req.mouseAbsolute.getD config.mouseAbsolute

structure StreamConfigUpdate where
  mode : Option StreamMode := none
  encoder : Option EncoderType := none
  bitratePreset : Option BitratePreset := none
  stunServer : Option String := none
  turnServer : Option String := none
  turnUsername : Option String := none
  turnPassword : Option String := none

def StreamConfigUpdate.applyTo (req : StreamConfigUpdate) (config : StreamConfig) :
    StreamConfig :=
  { config with
    mode := req.mode.getD config.mode
    encoder := req.encoder.getD config.encoder
    bitratePreset := req.bitratePreset.getD config.bitratePreset
    stunServer := orCleared req.stunServer config.stunServer
    turnServer := orCleared req.turnServer config.turnServer
    turnUsername := orCleared req.turnUsername config.turnUsername
    turnPassword := orCleared req.turnPassword config.turnPassword }

/-! ## Calls

`old` is what the call has read before its update, `new` what it has read after it. -/

/-- `update_hid_config`. -/
inductive UpdateHid
  | old
  | update (old : HidConfig)
  | new (old : HidConfig)
  | apply (old new : HidConfig)
  | reload (old new : HidConfig)
  /-- With the configuration that is to be reconciled with. -/
  | reconcile (old new : HidConfig) (config : AppConfig)

/-- `update_stream_config`. -/
inductive UpdateStream
  | old
  | update (old : StreamConfig)
  | new (old : StreamConfig)
  | encoder (old new : StreamConfig)
  | bitrate (old new : StreamConfig)
  | ice (old new : StreamConfig)
  | enforce

/-- `update_rtsp_config`. -/
inductive UpdateRtsp
  | old
  | update (old : RtspConfig)
  | new (old : RtspConfig)
  | apply (old new : RtspConfig)
  | enforce (old : RtspConfig)
  | rollback (old : RtspConfig)

/-- `update_rustdesk_config`. -/
inductive UpdateRustdesk
  | old
  | update (old : RustDeskSection)
  | new (old : RustDeskSection)
  | apply (old new : RustDeskSection)
  | save (updated : RustDeskSection)
  | enforce

/-- `do_switch_mode`, to WebRTC. -/
inductive SwitchMode
  | start
  | get
  | set (config : AppConfig)

inductive Call
  | updateHid (req : HidConfigUpdate) (pc : UpdateHid)
  | updateStream (req : StreamConfigUpdate) (pc : UpdateStream)
  | updateRtsp (req : RtspConfigUpdate) (pc : UpdateRtsp)
  | updateRustdesk (req : RustDeskConfigUpdate) (pc : UpdateRustdesk)
  | switchMode (pc : SwitchMode)
  | returned (success : Bool)

structure State where
  config : AppConfig
  running : Running
  calls : List Call := []

namespace State

def setHid (s : State) (hid : HidConfig) : State :=
  { s with config := { s.config with hid } }

def setStream (s : State) (stream : StreamConfig) : State :=
  { s with config := { s.config with stream } }

def setRustdesk (s : State) (rustdesk : RustDeskSection) : State :=
  { s with config := { s.config with rustdesk } }

/-- The codec constraints are enforced; a switch of the mode is a task of its own. -/
def enforce (w : World) (s : State) : State :=
  let running := (enforceStreamCodecConstraints w s.config s.running).2
  { s with
    running
    calls :=
      if running.switching && !s.running.switching then s.calls ++ [.switchMode .start]
      else s.calls }

end State

variable (p : Platform)

/-- A failure of applying is logged. On the way from OTG the reload comes first. -/
def updateHid (w : World) (ok : Bool) (s : State) (req : HidConfigUpdate) :
    UpdateHid → State × Call
  | .old => (s, .updateHid req (.update s.config.hid))
  | .update old =>
    if ok then (s.setHid (req.applyTo s.config.hid), .updateHid req (.new old))
    else (s, .returned false)
  | .new old => (s, .updateHid req (.apply old s.config.hid))
  | .apply old new =>
    match new.validateOtgEndpointBudget p.dir s.config.msd.enabled with
    | .error _ => (s, .returned true)
    | .ok () =>
      if hidUnchanged p.dir old new then (s, .returned true)
      else if transitioningAwayFromOtg old new then (s, .updateHid req (.reload old new))
      else (s, .updateHid req (.reconcile old new s.config))
  | .reload old new =>
    match reloadHid w new s.running with
    | (.error _, running) => ({ s with running }, .returned true)
    | (.ok (), running) =>
      ({ s with running },
        if transitioningAwayFromOtg old new then .updateHid req (.reconcile old new s.config)
        else .returned true)
  | .reconcile old new config =>
    match reconcileOtgFromStore p w .hid config s.running with
    | (.error _, running) => ({ s with running }, .returned true)
    | (.ok (), running) =>
      ({ s with running },
        if transitioningAwayFromOtg old new then .returned true
        else .updateHid req (.reload old new))

def updateStream (w : World) (ok : Bool) (s : State) (req : StreamConfigUpdate) :
    UpdateStream → State × Call
  | .old => (s, .updateStream req (.update s.config.stream))
  | .update old =>
    if ok then (s.setStream (req.applyTo s.config.stream), .updateStream req (.new old))
    else (s, .returned false)
  | .new old => (s, .updateStream req (.encoder old s.config.stream))
  | .encoder old new =>
    ({ s with running := applyEncoder old new s.running }, .updateStream req (.bitrate old new))
  | .bitrate old new =>
    ({ s with running := applyBitrate old new s.running }, .updateStream req (.ice old new))
  | .ice old new =>
    ({ s with running := applyIce p.publicStun old new s.running }, .updateStream req .enforce)
  | .enforce => (s.enforce w, .returned true)

def updateRtsp (w : World) (ok : Bool) (s : State) (req : RtspConfigUpdate) :
    UpdateRtsp → State × Call
  | .old => (s, .updateRtsp req (.update s.config.rtsp))
  | .update old =>
    if ok then
      ({ s with config := setRtsp (req.applyTo s.config.rtsp) s.config },
        .updateRtsp req (.new old))
    else (s, .returned false)
  | .new old => (s, .updateRtsp req (.apply old s.config.rtsp))
  | .apply old new =>
    let (result, running) := applyRtspService w old new s.running
    match result with
    | .error _ => ({ s with running }, .updateRtsp req (.rollback old))
    | .ok () => ({ s with running }, .updateRtsp req (.enforce old))
  | .enforce old =>
    match (enforceStreamCodecConstraints w s.config s.running).1 with
    | .error _ => (s.enforce w, .updateRtsp req (.rollback old))
    | .ok () => (s.enforce w, .returned true)
  | .rollback old =>
    if ok then ({ s with config := setRtsp old s.config }, .returned false)
    else (s, .returned false)

/-- A failure of applying is logged. -/
def updateRustdesk (w : World) (ok : Bool) (s : State) (req : RustDeskConfigUpdate) :
    UpdateRustdesk → State × Call
  | .old => (s, .updateRustdesk req (.update s.config.rustdesk))
  | .update old =>
    if ok then
      (s.setRustdesk (Subsystems.updateRustdesk req s.config.rustdesk),
        .updateRustdesk req (.new old))
    else (s, .returned false)
  | .new old => (s, .updateRustdesk req (.apply old s.config.rustdesk))
  | .apply old new =>
    let (running, saved) := applyRustdeskService w old new s.running
    match saved with
    | some updated => ({ s with running }, .updateRustdesk req (.save updated))
    | none => ({ s with running }, .updateRustdesk req .enforce)
  | .save updated =>
    if ok then
      (s.setRustdesk (s.config.rustdesk.saveCredentials updated), .updateRustdesk req .enforce)
    else (s, .updateRustdesk req .enforce)
  | .enforce => (s.enforce w, .returned true)

/-- The mode is stored once the new one has started. -/
def switchMode (ok : Bool) (s : State) : SwitchMode → State × Call
  | .start =>
    let running :=
      { s.running with
        mode := .webrtc
        webrtc := { s.running.webrtc with captureDevice := s.running.capture.map (·.device) } }
    if ok then ({ s with running }, .switchMode .get)
    else ({ s with running := { running with switching := false } }, .returned true)
  | .get => (s, .switchMode (.set s.config))
  | .set config =>
    let running := { s.running with switching := false }
    if ok then ({ s with config := modeEdit .webrtc config, running }, .returned true)
    else ({ s with running }, .returned true)

/-- The next step of a call: the world answers as `w` says, and the database takes what is stored
if `ok`. -/
def next (w : World) (ok : Bool) (s : State) : Call → Option (State × Call)
  | .updateHid req pc => some (updateHid p w ok s req pc)
  | .updateStream req pc => some (updateStream p w ok s req pc)
  | .updateRtsp req pc => some (updateRtsp w ok s req pc)
  | .updateRustdesk req pc => some (updateRustdesk w ok s req pc)
  | .switchMode pc => some (switchMode ok s pc)
  | .returned _ => none

inductive Event
  | updateHid (req : HidConfigUpdate)
  | updateStream (req : StreamConfigUpdate)
  | updateRtsp (req : RtspConfigUpdate)
  | updateRustdesk (req : RustDeskConfigUpdate)
  | advance (i : Nat) (w : World) (ok : Bool)

def step (s : State) : Event → Option State
  | .updateHid req => some { s with calls := s.calls ++ [.updateHid req .old] }
  | .updateStream req => some { s with calls := s.calls ++ [.updateStream req .old] }
  | .updateRtsp req => some { s with calls := s.calls ++ [.updateRtsp req .old] }
  | .updateRustdesk req => some { s with calls := s.calls ++ [.updateRustdesk req .old] }
  | .advance i w ok =>
    s.calls[i]?.bind fun call =>
      (next p w ok s call).map fun (t, call) => { t with calls := t.calls.set i call }

/-! ## What is to hold -/

/-- What of a section a subsystem runs with. -/
inductive Aspect
  | hid | gadget | encoder | bitrate | ice | mode | rtsp | rustdesk

/-- The RustDesk service with its configuration, and with the id and the password that the
connections are checked against. -/
def RunsRustdesk (c : RustDeskSection) (r : Running) : Prop :=
  (r.rustdesk.map fun s => (s.config, s.connections.deviceId, s.connections.devicePassword)) =
    if c.enabled then some (c, c.deviceId, c.devicePassword) else none

def Holds (c : AppConfig) (r : Running) : Aspect → Prop
  | .hid => r.hid = ⟨c.hid.backendType, false⟩
  | .gadget => r.gadget = wantedGadget p.dir c.hid c.msd
  | .encoder => r.webrtc.encoderBackend = c.stream.encoder.toBackend
  | .bitrate => r.webrtc.bitratePreset = c.stream.bitratePreset
  | .ice => r.webrtc.ice = c.stream.iceServers p.publicStun
  | .mode => r.mode = c.stream.mode
  | .rtsp => FollowsRtsp c.rtsp r
  | .rustdesk => RunsRustdesk c.rustdesk r

/-- The subsystem runs with what is stored. -/
def Agrees (c : AppConfig) (r : Running) : Prop := ∀ a, Holds p c r a

/-- At first the subsystems run with what is stored. -/
def system : TSys State Event :=
  .ofFn (fun s => Agrees p s.config s.running ∧ s.calls = []) (step p)

/-- What is wanted of the gadget is there, or can be set up. -/
def Reconciles (w : World) (c : AppConfig) (r : Running) : Prop :=
  ¬∃ desired, wantedGadget p.dir c.hid c.msd = some desired ∧ r.gadget ≠ some desired ∧
    GadgetFails w .hid desired

/-- A request applies what is stored, and where it finds nothing to apply there is nothing; what
update_hid_config only logs does not happen. -/
def Current (s : State) : Event → Prop
  | .advance i w ok =>
    match s.calls[i]? with
    | some (.updateHid _ (.apply old new)) =>
      new.validateOtgEndpointBudget p.dir s.config.msd.enabled = .ok () ∧
        (hidUnchanged p.dir old new →
          Holds p s.config s.running .hid ∧ Holds p s.config s.running .gadget)
    | some (.updateHid _ (.reload _ new)) =>
      new.backendType = s.config.hid.backendType ∧ backendOpens w .hid new.backendType s.running
    | some (.updateHid _ (.reconcile _ _ config)) =>
      config.hid = s.config.hid ∧ config.msd = s.config.msd ∧
        config.hid.validateOtgEndpointBudget p.dir config.msd.enabled = .ok () ∧
        Reconciles p w config s.running
    | some (.updateStream req (.update _)) =>
      req.mode.getD s.config.stream.mode = s.config.stream.mode
    | some (.updateStream _ (.encoder old new)) =>
      new.encoder.toBackend = s.config.stream.encoder.toBackend ∧
        (old.encoder = new.encoder → Holds p s.config s.running .encoder)
    | some (.updateStream _ (.bitrate old new)) =>
      new.bitratePreset = s.config.stream.bitratePreset ∧
        (old.bitratePreset = new.bitratePreset → Holds p s.config s.running .bitrate)
    | some (.updateStream _ (.ice old new)) =>
      new.iceServers p.publicStun = s.config.stream.iceServers p.publicStun ∧
        (¬iceChanged old new → Holds p s.config s.running .ice)
    | some (.updateRtsp _ (.apply old new)) =>
      new = s.config.rtsp ∧
        (if new.enabled then
          ∀ service ∈ s.running.rtsp, rtspNeedsRestart old new ∨ service = ⟨new, true⟩
        else old.enabled ∨ s.running.rtsp = none)
    | some (.updateRustdesk _ (.apply old new)) =>
      new = s.config.rustdesk ∧
        (if new.enabled then
          ∀ service ∈ s.running.rustdesk, (rustdeskNeedsRestart old new ∨ service.config = new) ∧
            service.connections.deviceId = new.deviceId ∧
            service.connections.devicePassword = new.devicePassword
        else old.enabled ∨ s.running.rustdesk = none)
    | some (.updateRustdesk _ (.save updated)) =>
      ok ∧ s.config.rustdesk.saveCredentials updated = updated ∧ RunsRustdesk updated s.running
    | some (.switchMode .start) => ok
    | some (.switchMode (.set config)) => ok ∧ modeEdit .webrtc config = modeEdit .webrtc s.config
    | _ => True
  | _ => True

/-! ## What is still to be applied -/

/-- The call has stored its section and will apply this of it. -/
def Pending : Call → Aspect → Prop
  | .updateHid _ (.new _), .hid | .updateHid _ (.new _), .gadget
  | .updateHid _ (.apply _ _), .hid | .updateHid _ (.apply _ _), .gadget => True
  | .updateHid _ (.reload _ _), .hid => True
  | .updateHid _ (.reload old new), .gadget => transitioningAwayFromOtg old new
  | .updateHid _ (.reconcile _ _ _), .gadget => True
  | .updateHid _ (.reconcile old new _), .hid => ¬transitioningAwayFromOtg old new
  | .updateStream _ (.new _), .encoder | .updateStream _ (.new _), .bitrate
  | .updateStream _ (.new _), .ice | .updateStream _ (.encoder _ _), .encoder
  | .updateStream _ (.encoder _ _), .bitrate | .updateStream _ (.encoder _ _), .ice
  | .updateStream _ (.bitrate _ _), .bitrate | .updateStream _ (.bitrate _ _), .ice
  | .updateStream _ (.ice _ _), .ice => True
  | .updateRtsp _ (.new _), .rtsp | .updateRtsp _ (.apply _ _), .rtsp => True
  | .updateRustdesk _ (.new _), .rustdesk | .updateRustdesk _ (.apply _ _), .rustdesk
  | .updateRustdesk _ (.save _), .rustdesk => True
  | .switchMode .get, .mode | .switchMode (.set _), .mode => True
  | _, _ => False

/-- The call has failed, or is about to. -/
def Failed : Call → Prop
  | .updateRtsp _ (.rollback _) | .returned false => True
  | _ => False

/-- The mode has been switched and is not stored yet. -/
def Switching : Call → Prop
  | .switchMode .get | .switchMode (.set _) => True
  | _ => False

/-- No gadget is without functions. -/
def GadgetOk (r : Running) : Prop := ∀ d ∈ r.gadget, ¬d.isEmpty

structure Inv (s : State) : Prop where
  gadget : GadgetOk s.running
  switching : ∀ call ∈ s.calls, Switching call → s.running.mode = .webrtc
  settled : ∀ a, Holds p s.config s.running a ∨ (∃ call ∈ s.calls, Pending call a) ∨
    ∃ call ∈ s.calls, Failed call

/-- What one step of a call does for each of what the subsystems run with. -/
structure Advance (s t : State) (call call' : Call) : Prop where
  calls : t.calls = s.calls ∨ t.calls = s.calls ++ [.switchMode .start]
  gadget : GadgetOk t.running
  mode : s.running.mode = .webrtc → t.running.mode = .webrtc
  switching : Switching call' → t.running.mode = .webrtc
  failed : Failed call → Failed call'
  aspect : ∀ a, Holds p t.config t.running a ∨ Pending call' a ∨ Failed call' ∨
    (¬Pending call a ∧ (Holds p s.config s.running a → Holds p t.config t.running a))

variable {p}

/-- A step that changes nothing, of a call that has nothing left to apply or nothing less. -/
theorem Advance.stay {s : State} {call call' : Call} (h : GadgetOk s.running)
    (hswitching : Switching call' → s.running.mode = .webrtc)
    (hfailed : Failed call → Failed call')
    (hpending : ∀ a, Pending call a → Pending call' a) : Advance p s s call call' where
  calls := Or.inl rfl
  gadget := h
  mode := id
  switching := hswitching
  failed := hfailed
  aspect := by
    intro a
    by_cases ha : Pending call a
    · exact Or.inr (Or.inl (hpending a ha))
    · exact Or.inr (Or.inr (Or.inr ⟨ha, id⟩))

/-- A call that fails. -/
theorem Advance.fail {s t : State} {call call' : Call} (h : GadgetOk s.running)
    (hcalls : t.calls = s.calls ∨ t.calls = s.calls ++ [.switchMode .start])
    (hgadget : t.running.gadget = s.running.gadget) (hmode : t.running.mode = s.running.mode)
    (hswitching : ¬Switching call') (hfailed : Failed call') : Advance p s t call call' where
  calls := hcalls
  gadget := by
    intro d hd
    rw [hgadget] at hd
    exact h d hd
  mode := fun hwebrtc => hmode.trans hwebrtc
  switching := fun h => absurd h hswitching
  failed := fun _ => hfailed
  aspect := fun _ => Or.inr (Or.inr (Or.inl hfailed))

theorem Inv.advance {s t : State} {i : Nat} {call call' : Call} (h : Inv p s)
    (hcall : s.calls[i]? = some call) (hstep : Advance p s t call call') :
    Inv p { t with calls := t.calls.set i call' } := by
  have hlength : i < s.calls.length := (List.getElem?_eq_some_iff.mp hcall).1
  have hself : call' ∈ t.calls.set i call' := by
    apply List.mem_set
    rcases hstep.calls with heq | heq <;> rw [heq]
    · exact hlength
    · rw [List.length_append]
      exact Nat.lt_add_right _ hlength
  -- the other calls are still there
  have hothers {other : Call} (hother : other ∈ s.calls) :
      other = call ∨ other ∈ t.calls.set i call' := by
    obtain ⟨j, hj⟩ := List.mem_iff_getElem?.mp hother
    by_cases hij : i = j
    · subst hij
      rw [hcall] at hj
      cases hj
      exact Or.inl rfl
    · refine Or.inr (List.mem_iff_getElem?.mpr ⟨j, ?_⟩)
      rw [List.getElem?_set_ne hij]
      rcases hstep.calls with heq | heq <;> rw [heq]
      · exact hj
      · rw [List.getElem?_append_left (List.getElem?_eq_some_iff.mp hj).1]
        exact hj
  refine ⟨hstep.gadget, ?_, ?_⟩
  · intro other hother hswitching
    rcases List.mem_or_eq_of_mem_set hother with hother | rfl
    · rcases hstep.calls with heq | heq <;> rw [heq] at hother
      · exact hstep.mode (h.switching other hother hswitching)
      · rcases List.mem_append.mp hother with hother | hother
        · exact hstep.mode (h.switching other hother hswitching)
        · rw [List.mem_singleton.mp hother] at hswitching
          exact hswitching.elim
    · exact hstep.switching hswitching
  · intro a
    have hcarry : (∃ other ∈ s.calls, Failed other) →
        ∃ other ∈ t.calls.set i call', Failed other := by
      rintro ⟨other, hother, hfailed⟩
      rcases hothers hother with rfl | hother'
      · exact ⟨call', hself, hstep.failed hfailed⟩
      · exact ⟨other, hother', hfailed⟩
    rcases hstep.aspect a with hholds | hpending | hfailed | ⟨hnot, hkeeps⟩
    · exact Or.inl hholds
    · exact Or.inr (Or.inl ⟨call', hself, hpending⟩)
    · exact Or.inr (Or.inr ⟨call', hself, hfailed⟩)
    · rcases h.settled a with hholds | ⟨other, hother, hpending⟩ | hfailed
      · exact Or.inl (hkeeps hholds)
      · rcases hothers hother with rfl | hother'
        · exact absurd hpending hnot
        · exact Or.inr (Or.inl ⟨other, hother', hpending⟩)
      · exact Or.inr (Or.inr (hcarry hfailed))

/-! ## One step of each call -/

section Steps

variable {w : World} {ok : Bool} {s t : State} {i : Nat} {call' : Call}

/-- The aspects that a step has to do with are settled; it leaves the others alone. -/
theorem Advance.change {call : Call} (hcalls : t.calls = s.calls) (hgadget : GadgetOk t.running)
    (hmode : t.running.mode = s.running.mode) (hswitching : ¬Switching call')
    (hfailed : ¬Failed call)
    (haspect : ∀ a, Holds p t.config t.running a ∨ Pending call' a ∨
      (¬Pending call a ∧ (Holds p s.config s.running a → Holds p t.config t.running a))) :
    Advance p s t call call' where
  calls := Or.inl hcalls
  gadget := hgadget
  mode := fun hwebrtc => hmode.trans hwebrtc
  switching := fun h => absurd h hswitching
  failed := fun h => absurd h hfailed
  aspect := by
    intro a
    rcases haspect a with hholds | hpending | hkeeps
    · exact Or.inl hholds
    · exact Or.inr (Or.inl hpending)
    · exact Or.inr (Or.inr (Or.inr hkeeps))

theorem reloadHid_opens {new : HidConfig} {r : Running}
    (h : backendOpens w .hid new.backendType r) :
    reloadHid w new r = (.ok (), { r with hid := ⟨new.backendType, false⟩ }) := by
  simp only [reloadHid, reload, h, if_true]
  rfl

theorem reconcileOtgFromStore_works {config : AppConfig} {r : Running}
    (hbudget : config.hid.validateOtgEndpointBudget p.dir config.msd.enabled = .ok ())
    (hgadget : GadgetOk r) (hworks : Reconciles p w config r) :
    reconcileOtgFromStore p w .hid config r =
      (.ok (), { r with gadget := wantedGadget p.dir config.hid config.msd }) := by
  rcases reconcileOtgFromStore_cases w .hid hbudget hgadget with
    ⟨hok, -⟩ | ⟨desired, e, hwanted, hother, hfails, -⟩
  · exact hok
  · exact absurd ⟨desired, hwanted, hother, hfails⟩ hworks

theorem updateHid_advance {req : HidConfigUpdate} {pc : UpdateHid} (hgadget : GadgetOk s.running)
    (hcall : s.calls[i]? = some (.updateHid req pc)) (hcurrent : Current p s (.advance i w ok))
    (hnext : updateHid p w ok s req pc = (t, call')) :
    Advance p s t (.updateHid req pc) call' := by
  simp only [Current, hcall] at hcurrent
  cases pc with
  | old =>
    cases hnext
    exact .stay hgadget False.elim False.elim fun a h => by cases a <;> exact h
  | update old =>
    simp only [updateHid] at hnext
    split at hnext <;> cases hnext
    · refine .change rfl hgadget rfl id id ?_
      intro a
      cases a with
      | hid | gadget => exact Or.inr (Or.inl trivial)
      | encoder | bitrate | ice | mode | rtsp | rustdesk => exact Or.inr (Or.inr ⟨id, id⟩)
    · exact .fail hgadget (Or.inl rfl) rfl rfl id trivial
  | new old =>
    cases hnext
    exact .stay hgadget False.elim False.elim fun a h => by cases a <;> exact h
  | apply old new =>
    obtain ⟨hbudget, hsame⟩ := hcurrent
    simp only [updateHid, hbudget] at hnext
    split at hnext
    · rename_i hunchanged
      cases hnext
      refine .change rfl hgadget rfl id id ?_
      intro a
      cases a with
      | hid => exact Or.inl (hsame hunchanged).1
      | gadget => exact Or.inl (hsame hunchanged).2
      | encoder | bitrate | ice | mode | rtsp | rustdesk => exact Or.inr (Or.inr ⟨id, id⟩)
    · split at hnext
      · rename_i haway
        cases hnext
        refine .stay hgadget False.elim False.elim ?_
        intro a h
        cases a with
        | gadget => exact haway
        | hid | encoder | bitrate | ice | mode | rtsp | rustdesk => exact h
      · rename_i haway
        cases hnext
        refine .stay hgadget False.elim False.elim ?_
        intro a h
        cases a with
        | hid => exact haway
        | gadget | encoder | bitrate | ice | mode | rtsp | rustdesk => exact h
  | reload old new =>
    obtain ⟨hbackend, hopens⟩ := hcurrent
    simp only [updateHid, reloadHid_opens hopens] at hnext
    have hhid : Holds p s.config { s.running with hid := ⟨new.backendType, false⟩ } .hid := by
      show HidRunning.mk new.backendType false = _
      rw [hbackend]
    cases hnext
    by_cases haway : transitioningAwayFromOtg old new
    · simp only [haway, if_true]
      refine .change rfl hgadget rfl id id ?_
      intro a
      cases a with
      | hid => exact Or.inl hhid
      | gadget => exact Or.inr (Or.inl trivial)
      | encoder | bitrate | ice | mode | rtsp | rustdesk => exact Or.inr (Or.inr ⟨id, id⟩)
    · simp only [haway]
      refine .change rfl hgadget rfl id id ?_
      intro a
      cases a with
      | hid => exact Or.inl hhid
      | gadget => exact Or.inr (Or.inr ⟨haway, id⟩)
      | encoder | bitrate | ice | mode | rtsp | rustdesk => exact Or.inr (Or.inr ⟨id, id⟩)
  | reconcile old new config =>
    obtain ⟨hhid, hmsd, hbudget, hworks⟩ := hcurrent
    simp only [updateHid, reconcileOtgFromStore_works hbudget hgadget hworks] at hnext
    have hwanted : Holds p s.config
        { s.running with gadget := wantedGadget p.dir config.hid config.msd } .gadget := by
      show wantedGadget p.dir config.hid config.msd = _
      rw [hhid, hmsd]
    have hgadget' : GadgetOk
        { s.running with gadget := wantedGadget p.dir config.hid config.msd } :=
      wantedGadget_nonempty
    cases hnext
    by_cases haway : transitioningAwayFromOtg old new
    · simp only [haway, if_true]
      refine .change rfl hgadget' rfl id id ?_
      intro a
      cases a with
      | gadget => exact Or.inl hwanted
      | hid => exact Or.inr (Or.inr ⟨fun h => h haway, id⟩)
      | encoder | bitrate | ice | mode | rtsp | rustdesk => exact Or.inr (Or.inr ⟨id, id⟩)
    · simp only [haway]
      refine .change rfl hgadget' rfl id id ?_
      intro a
      cases a with
      | gadget => exact Or.inl hwanted
      | hid => exact Or.inr (Or.inl trivial)
      | encoder | bitrate | ice | mode | rtsp | rustdesk => exact Or.inr (Or.inr ⟨id, id⟩)

theorem Advance.enforce {call : Call} (hgadget : GadgetOk s.running)
    (hswitching : ¬Switching call') (hfailed : Failed call → Failed call')
    (hpending : ∀ a, ¬Pending call a) : Advance p s (s.enforce w) call call' := by
  obtain ⟨switching, codec, hframe⟩ := enforceStreamCodecConstraints_frame (w := w) s.config s.running
  have hrunning : (s.enforce w).running =
      { s.running with switching, webrtc := { s.running.webrtc with codec } } := hframe
  refine ⟨?_, ?_, ?_, fun h => absurd h hswitching, hfailed, ?_⟩
  · simp only [State.enforce]
    split
    · exact Or.inr rfl
    · exact Or.inl rfl
  · rw [hrunning]
    exact hgadget
  · intro hmode
    rw [hrunning]
    exact hmode
  · intro a
    refine Or.inr (Or.inr (Or.inr ⟨hpending a, ?_⟩))
    intro hholds
    show Holds p s.config (s.enforce w).running a
    rw [hrunning]
    cases a <;> exact hholds

theorem updateStream_advance {req : StreamConfigUpdate} {pc : UpdateStream}
    (hgadget : GadgetOk s.running) (hcall : s.calls[i]? = some (.updateStream req pc))
    (hcurrent : Current p s (.advance i w ok))
    (hnext : updateStream p w ok s req pc = (t, call')) :
    Advance p s t (.updateStream req pc) call' := by
  simp only [Current, hcall] at hcurrent
  cases pc with
  | old =>
    cases hnext
    exact .stay hgadget False.elim False.elim fun a h => by cases a <;> exact h
  | update old =>
    simp only [updateStream] at hnext
    split at hnext <;> cases hnext
    · refine .change rfl hgadget rfl id id ?_
      intro a
      cases a with
      | encoder | bitrate | ice => exact Or.inr (Or.inl trivial)
      | mode =>
        -- the mode that the request names is the one that is stored
        refine Or.inr (Or.inr ⟨id, ?_⟩)
        intro hmode
        exact Eq.trans hmode hcurrent.symm
      | hid | gadget | rtsp | rustdesk => exact Or.inr (Or.inr ⟨id, id⟩)
    · exact .fail hgadget (Or.inl rfl) rfl rfl id trivial
  | new old =>
    cases hnext
    exact .stay hgadget False.elim False.elim fun a h => by cases a <;> exact h
  | encoder old new =>
    obtain ⟨hstored, hsame⟩ := hcurrent
    cases hnext
    have hencoder : (applyEncoder old new s.running = s.running ∧ old.encoder = new.encoder) ∨
        applyEncoder old new s.running = updateEncoderBackend new.encoder.toBackend s.running := by
      simp only [applyEncoder]
      split
      · exact Or.inr rfl
      · exact Or.inl ⟨rfl, not_not.mp (by assumption)⟩
    rcases hencoder with ⟨heq, hunchanged⟩ | heq <;> rw [heq] <;>
        refine .change rfl hgadget rfl id id ?_ <;> intro a
    · cases a with
      | encoder => exact Or.inl (hsame hunchanged)
      | bitrate | ice => exact Or.inr (Or.inl trivial)
      | hid | gadget | mode | rtsp | rustdesk => exact Or.inr (Or.inr ⟨id, id⟩)
    · cases a with
      | encoder => exact Or.inl hstored
      | bitrate | ice => exact Or.inr (Or.inl trivial)
      | hid | gadget | mode | rtsp | rustdesk => exact Or.inr (Or.inr ⟨id, id⟩)
  | bitrate old new =>
    obtain ⟨hstored, hsame⟩ := hcurrent
    cases hnext
    have hbitrate : (applyBitrate old new s.running = s.running ∧
          old.bitratePreset = new.bitratePreset) ∨
        applyBitrate old new s.running = setBitratePreset new.bitratePreset s.running := by
      simp only [applyBitrate]
      split
      · exact Or.inr rfl
      · exact Or.inl ⟨rfl, not_not.mp (by assumption)⟩
    rcases hbitrate with ⟨heq, hunchanged⟩ | heq <;> rw [heq] <;>
        refine .change rfl hgadget rfl id id ?_ <;> intro a
    · cases a with
      | bitrate => exact Or.inl (hsame hunchanged)
      | ice => exact Or.inr (Or.inl trivial)
      | hid | gadget | encoder | mode | rtsp | rustdesk => exact Or.inr (Or.inr ⟨id, id⟩)
    · cases a with
      | bitrate => exact Or.inl hstored
      | ice => exact Or.inr (Or.inl trivial)
      | hid | gadget | encoder | mode | rtsp | rustdesk => exact Or.inr (Or.inr ⟨id, id⟩)
  | ice old new =>
    obtain ⟨hstored, hsame⟩ := hcurrent
    cases hnext
    have hice : (applyIce p.publicStun old new s.running = s.running ∧ ¬iceChanged old new) ∨
        applyIce p.publicStun old new s.running =
          updateIceConfig (new.iceServers p.publicStun) s.running := by
      simp only [applyIce]
      split
      · exact Or.inr rfl
      · exact Or.inl ⟨rfl, by assumption⟩
    rcases hice with ⟨heq, hunchanged⟩ | heq <;> rw [heq] <;>
        refine .change rfl hgadget rfl id id ?_ <;> intro a
    · cases a with
      | ice => exact Or.inl (hsame hunchanged)
      | hid | gadget | encoder | bitrate | mode | rtsp | rustdesk =>
        exact Or.inr (Or.inr ⟨id, id⟩)
    · cases a with
      | ice => exact Or.inl hstored
      | hid | gadget | encoder | bitrate | mode | rtsp | rustdesk =>
        exact Or.inr (Or.inr ⟨id, id⟩)
  | enforce =>
    cases hnext
    exact .enforce hgadget id False.elim fun a => by cases a <;> exact id

/-- The service runs with the new configuration, unless it has failed. -/
theorem applyRtspService_cases (w : World) {old new : RtspConfig} (r : Running)
    (hcurrent : if new.enabled then
        ∀ service ∈ r.rtsp, rtspNeedsRestart old new ∨ service = ⟨new, true⟩
      else old.enabled ∨ r.rtsp = none) :
    ∃ rtsp codec, (applyRtspService w old new r).2 =
        { r with rtsp, webrtc := { r.webrtc with codec } } ∧
      ((∃ e, (applyRtspService w old new r).1 = .error e) ∨
        (applyRtspService w old new r).1 = .ok () ∧ FollowsRtsp new
          { r with rtsp, webrtc := { r.webrtc with codec } }) := by
  simp only [applyRtspService]
  cases hnew : new.enabled with
  | false =>
    simp only [hnew, Bool.false_eq_true, if_false] at hcurrent
    have hnone : FollowsRtsp new { r with rtsp := none } := by simp [FollowsRtsp, hnew]
    cases hold : old.enabled with
    | true => exact ⟨_, _, rfl, Or.inr ⟨rfl, hnone⟩⟩
    | false =>
      have hrtsp : r.rtsp = none := hcurrent.resolve_left (by simp [hold])
      refine ⟨r.rtsp, r.webrtc.codec, rfl, Or.inr ⟨rfl, ?_⟩⟩
      rw [hrtsp]
      exact hnone
  | true =>
    simp only [hnew, if_true] at hcurrent
    simp only [Bool.not_true, Bool.and_false, Bool.false_eq_true, if_false]
    have hstarted (codec : Video.VideoCodecType) : FollowsRtsp new
        { r with rtsp := some ⟨new, true⟩, webrtc := { r.webrtc with codec } } := by
      simp [FollowsRtsp, hnew]
    cases hrtsp : r.rtsp with
    | none =>
      obtain ⟨codec, ⟨e, -, hstart⟩ | ⟨-, hstart⟩⟩ := startRtsp_cases (w := w) hnew r
      · simp only [Option.isNone_none, if_true, hstart]
        exact ⟨_, _, rfl, Or.inl ⟨e, rfl⟩⟩
      · simp only [Option.isNone_none, if_true, hstart]
        exact ⟨_, _, rfl, Or.inr ⟨rfl, hstarted codec⟩⟩
    | some service =>
      simp only [Option.isNone_some, Bool.false_eq_true, if_false]
      by_cases hrestart : rtspNeedsRestart old new
      · simp only [hrestart, if_true]
        obtain ⟨codec, ⟨e, -, hstart⟩ | ⟨-, hstart⟩⟩ :=
          startRtsp_cases (w := w) hnew { r with rtsp := some ⟨new, false⟩ }
        · rw [hstart]
          exact ⟨_, _, rfl, Or.inl ⟨e, rfl⟩⟩
        · rw [hstart]
          exact ⟨_, _, rfl, Or.inr ⟨rfl, hstarted codec⟩⟩
      · simp only [hrestart]
        refine ⟨r.rtsp, r.webrtc.codec, rfl, Or.inr ⟨rfl, ?_⟩⟩
        have hservice : service = ⟨new, true⟩ :=
          (hcurrent service (by rw [hrtsp]; rfl)).resolve_left hrestart
        simp [FollowsRtsp, hnew, hrtsp, hservice]

theorem updateRtsp_advance {req : RtspConfigUpdate} {pc : UpdateRtsp}
    (hgadget : GadgetOk s.running) (hcall : s.calls[i]? = some (.updateRtsp req pc))
    (hcurrent : Current p s (.advance i w ok)) (hnext : updateRtsp w ok s req pc = (t, call')) :
    Advance p s t (.updateRtsp req pc) call' := by
  simp only [Current, hcall] at hcurrent
  cases pc with
  | old =>
    cases hnext
    exact .stay hgadget False.elim False.elim fun a h => by cases a <;> exact h
  | update old =>
    simp only [updateRtsp] at hnext
    split at hnext <;> cases hnext
    · refine .change rfl hgadget rfl id id ?_
      intro a
      cases a with
      | rtsp => exact Or.inr (Or.inl trivial)
      | hid | gadget | encoder | bitrate | ice | mode | rustdesk =>
        exact Or.inr (Or.inr ⟨id, id⟩)
    · exact .fail hgadget (Or.inl rfl) rfl rfl id trivial
  | new old =>
    cases hnext
    exact .stay hgadget False.elim False.elim fun a h => by cases a <;> exact h
  | apply old new =>
    obtain ⟨hstored, hcurrent⟩ := hcurrent
    obtain ⟨rtsp, codec, hframe, hresult⟩ := applyRtspService_cases w s.running hcurrent
    simp only [updateRtsp] at hnext
    generalize applyRtspService w old new s.running = applied at hnext hframe hresult
    obtain ⟨result, running⟩ := applied
    obtain rfl := hframe
    rcases hresult with ⟨e, rfl⟩ | ⟨rfl, hfollows⟩
    · cases hnext
      exact .fail hgadget (Or.inl rfl) rfl rfl id trivial
    · cases hnext
      refine .change rfl hgadget rfl id id ?_
      intro a
      cases a with
      | rtsp =>
        refine Or.inl ?_
        show FollowsRtsp s.config.rtsp _
        rw [← hstored]
        exact hfollows
      | hid | gadget | encoder | bitrate | ice | mode | rustdesk =>
        exact Or.inr (Or.inr ⟨id, id⟩)
  | enforce old =>
    simp only [updateRtsp] at hnext
    split at hnext <;> cases hnext
    · exact .enforce hgadget id (fun _ => trivial) fun a => by cases a <;> exact id
    · exact .enforce hgadget id False.elim fun a => by cases a <;> exact id
  | rollback old =>
    simp only [updateRtsp] at hnext
    split at hnext <;> cases hnext
    · exact .fail hgadget (Or.inl rfl) rfl rfl id trivial
    · exact .fail hgadget (Or.inl rfl) rfl rfl id trivial

/-- A service that is started has the configuration, with its keys where it saves them. -/
theorem startRustdesk_cases (w : World) (service : RustDeskService) :
    (startRustdesk w service).1.connections = service.connections ∧
      ((startRustdesk w service).2 = none ∧
          (startRustdesk w service).1.config = service.config ∨
        (startRustdesk w service).2 = some (startRustdesk w service).1.config) := by
  simp only [startRustdesk]
  split
  · split
    · exact ⟨rfl, Or.inl ⟨rfl, rfl⟩⟩
    · rename_i keys hkeys
      refine ⟨rfl, ?_⟩
      by_cases hsame : service.config.withCredentials keys = service.config
      · exact Or.inl ⟨if_pos hsame, hsame⟩
      · exact Or.inr (if_neg hsame)
  · exact ⟨rfl, Or.inl ⟨rfl, rfl⟩⟩

/-- The service runs with the new configuration, unless it has keys to save. -/
theorem applyRustdeskService_cases (w : World) {old new : RustDeskSection} (r : Running)
    (hcurrent : if new.enabled then
        ∀ service ∈ r.rustdesk, (rustdeskNeedsRestart old new ∨ service.config = new) ∧
          service.connections.deviceId = new.deviceId ∧
          service.connections.devicePassword = new.devicePassword
      else old.enabled ∨ r.rustdesk = none) :
    ∃ rustdesk, (applyRustdeskService w old new r).1 = { r with rustdesk } ∧
      ((applyRustdeskService w old new r).2.isSome ∨
        RunsRustdesk new { r with rustdesk }) := by
  simp only [applyRustdeskService]
  cases hnew : new.enabled with
  | false =>
    simp only [hnew, Bool.false_eq_true, if_false] at hcurrent
    have hnone : RunsRustdesk new { r with rustdesk := none } := by simp [RunsRustdesk, hnew]
    cases hold : old.enabled with
    | true => exact ⟨_, rfl, Or.inr hnone⟩
    | false =>
      have hrustdesk : r.rustdesk = none := hcurrent.resolve_left (by simp [hold])
      refine ⟨r.rustdesk, rfl, Or.inr ?_⟩
      rw [hrustdesk]
      exact hnone
  | true =>
    simp only [hnew, if_true] at hcurrent
    simp only [Bool.not_true, Bool.and_false, Bool.false_eq_true, if_false]
    have hstarted (service : RustDeskService) (hconfig : service.config = new)
        (hid : service.connections.deviceId = new.deviceId)
        (hpassword : service.connections.devicePassword = new.devicePassword) :
        (startRustdesk w service).2.isSome ∨
          RunsRustdesk new { r with rustdesk := some (startRustdesk w service).1 } := by
      obtain ⟨hconnections, ⟨-, hkept⟩ | hsaved⟩ := startRustdesk_cases w service
      · refine Or.inr ?_
        simp [RunsRustdesk, hnew, hkept, hconfig, hconnections, hid, hpassword]
      · exact Or.inl (by simp [hsaved])
    cases hrustdesk : r.rustdesk with
    | none => exact ⟨_, rfl, hstarted ⟨new, new, false⟩ rfl rfl rfl⟩
    | some service =>
      obtain ⟨hconfig, hid, hpassword⟩ := hcurrent service (by rw [hrustdesk]; rfl)
      simp only
      by_cases hrestart : rustdeskNeedsRestart old new
      · simp only [hrestart, if_true]
        exact ⟨_, rfl, hstarted { service with config := new, running := false } rfl hid hpassword⟩
      · simp only [hrestart]
        refine ⟨r.rustdesk, rfl, Or.inr ?_⟩
        simp [RunsRustdesk, hnew, hrustdesk, hconfig.resolve_left hrestart, hid, hpassword]

theorem updateRustdesk_advance {req : RustDeskConfigUpdate} {pc : UpdateRustdesk}
    (hgadget : GadgetOk s.running) (hcall : s.calls[i]? = some (.updateRustdesk req pc))
    (hcurrent : Current p s (.advance i w ok))
    (hnext : updateRustdesk w ok s req pc = (t, call')) :
    Advance p s t (.updateRustdesk req pc) call' := by
  simp only [Current, hcall] at hcurrent
  cases pc with
  | old =>
    cases hnext
    exact .stay hgadget False.elim False.elim fun a h => by cases a <;> exact h
  | update old =>
    simp only [updateRustdesk] at hnext
    split at hnext <;> cases hnext
    · refine .change rfl hgadget rfl id id ?_
      intro a
      cases a with
      | rustdesk => exact Or.inr (Or.inl trivial)
      | hid | gadget | encoder | bitrate | ice | mode | rtsp => exact Or.inr (Or.inr ⟨id, id⟩)
    · exact .fail hgadget (Or.inl rfl) rfl rfl id trivial
  | new old =>
    cases hnext
    exact .stay hgadget False.elim False.elim fun a h => by cases a <;> exact h
  | apply old new =>
    obtain ⟨hstored, hcurrent⟩ := hcurrent
    obtain ⟨rustdesk, hframe, hresult⟩ := applyRustdeskService_cases w s.running hcurrent
    simp only [updateRustdesk] at hnext
    generalize applyRustdeskService w old new s.running = applied at hnext hframe hresult
    obtain ⟨running, saved⟩ := applied
    obtain rfl := hframe
    cases saved with
    | some updated =>
      cases hnext
      refine .change rfl hgadget rfl id id ?_
      intro a
      cases a with
      | rustdesk => exact Or.inr (Or.inl trivial)
      | hid | gadget | encoder | bitrate | ice | mode | rtsp => exact Or.inr (Or.inr ⟨id, id⟩)
    | none =>
      cases hnext
      refine .change rfl hgadget rfl id id ?_
      intro a
      cases a with
      | rustdesk =>
        refine Or.inl ?_
        show RunsRustdesk s.config.rustdesk _
        rw [← hstored]
        exact hresult.resolve_left (by simp)
      | hid | gadget | encoder | bitrate | ice | mode | rtsp => exact Or.inr (Or.inr ⟨id, id⟩)
  | save updated =>
    obtain ⟨rfl, hsaved, hruns⟩ := hcurrent
    cases hnext
    refine .change rfl hgadget rfl id id ?_
    intro a
    cases a with
    | rustdesk =>
      refine Or.inl ?_
      show RunsRustdesk (s.config.rustdesk.saveCredentials updated) _
      rw [hsaved]
      exact hruns
    | hid | gadget | encoder | bitrate | ice | mode | rtsp => exact Or.inr (Or.inr ⟨id, id⟩)
  | enforce =>
    cases hnext
    exact .enforce hgadget id False.elim fun a => by cases a <;> exact id

theorem switchMode_advance {pc : SwitchMode} (hinv : Inv p s)
    (hcall : s.calls[i]? = some (.switchMode pc)) (hcurrent : Current p s (.advance i w ok))
    (hnext : switchMode ok s pc = (t, call')) : Advance p s t (.switchMode pc) call' := by
  simp only [Current, hcall] at hcurrent
  have hmem : Call.switchMode pc ∈ s.calls := List.mem_of_getElem? hcall
  cases pc with
  | start =>
    obtain rfl := hcurrent
    cases hnext
    refine ⟨Or.inl rfl, hinv.gadget, fun _ => rfl, fun _ => rfl, False.elim, ?_⟩
    intro a
    cases a with
    | mode => exact Or.inr (Or.inl trivial)
    | hid | gadget | encoder | bitrate | ice | rtsp | rustdesk =>
      exact Or.inr (Or.inr (Or.inr ⟨id, id⟩))
  | get =>
    cases hnext
    exact .stay hinv.gadget (fun _ => hinv.switching _ hmem trivial) False.elim
      fun a h => by cases a <;> exact h
  | set config =>
    obtain ⟨rfl, hstored⟩ := hcurrent
    cases hnext
    rw [hstored]
    refine .change rfl hinv.gadget rfl id id ?_
    intro a
    cases a with
    | mode => exact Or.inl (hinv.switching _ hmem trivial)
    | hid | gadget | encoder | bitrate | ice | rtsp | rustdesk => exact Or.inr (Or.inr ⟨id, id⟩)

end Steps

/-! ## Runs -/

theorem Inv.begin {s : State} (h : Inv p s) {call : Call} (hswitching : ¬Switching call) :
    Inv p { s with calls := s.calls ++ [call] } := by
  refine ⟨h.gadget, ?_, ?_⟩
  · intro other hother hother'
    rcases List.mem_append.mp hother with hother | hother
    · exact h.switching other hother hother'
    · rw [List.mem_singleton.mp hother] at hother'
      exact absurd hother' hswitching
  · intro a
    rcases h.settled a with hholds | ⟨other, hother, hpending⟩ | ⟨other, hother, hfailed⟩
    · exact Or.inl hholds
    · exact Or.inr (Or.inl ⟨other, List.mem_append_left _ hother, hpending⟩)
    · exact Or.inr (Or.inr ⟨other, List.mem_append_left _ hother, hfailed⟩)

theorem Inv.step {s t : State} {e : Event} (h : Inv p s) (hcurrent : Current p s e)
    (hstep : Patches.step p s e = some t) : Inv p t := by
  cases e with
  | updateHid req | updateStream req | updateRtsp req | updateRustdesk req =>
    cases hstep
    exact h.begin id
  | advance i w ok =>
    obtain ⟨call, hcall, hadvance⟩ := Option.bind_eq_some_iff.mp hstep
    obtain ⟨⟨u, call'⟩, hnext, rfl⟩ := Option.map_eq_some_iff.mp hadvance
    refine h.advance hcall ?_
    cases call with
    | updateHid req pc => exact updateHid_advance h.gadget hcall hcurrent (Option.some.inj hnext)
    | updateStream req pc =>
      exact updateStream_advance h.gadget hcall hcurrent (Option.some.inj hnext)
    | updateRtsp req pc => exact updateRtsp_advance h.gadget hcall hcurrent (Option.some.inj hnext)
    | updateRustdesk req pc =>
      exact updateRustdesk_advance h.gadget hcall hcurrent (Option.some.inj hnext)
    | switchMode pc => exact switchMode_advance h hcall hcurrent (Option.some.inj hnext)
    | returned success => cases hnext

end StreamBox.Patches
