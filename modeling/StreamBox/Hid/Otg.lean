import StreamBox.Hid.Backend
import StreamBox.Lib.TSys

/-!
# The OTG gadget backend

The backend writes each report to the device node of its USB function.

* **Writing** — `writeReport` makes sure the device is open and writes; a report
  that finds the endpoint busy is dropped and the call still returns `Ok`.
* **Functions** — a function that is not configured takes every report and writes
  none. Buttons go to the relative mouse; the absolute mouse always reports none.
-/

namespace StreamBox.Hid

open StreamBox.Lib

inductive DeviceType
  | keyboard
  | mouseRelative
  | mouseAbsolute
  | consumerControl
  deriving DecidableEq, Repr

namespace Otg

/-- A device node: whether its path is configured and whether its file is open. -/
structure Device where
  path : Bool := true
  file : Bool := true
  deriving DecidableEq, Repr

/-- What `write_with_timeout` returns. -/
inductive Write
  | done
  | timeout
  | error (errno : Option Nat)
  deriving DecidableEq, Repr

/-- What the system answers to one report. -/
structure Io where
  /-- `path.exists()`. -/
  pathExists : Bool := true
  /-- `open_device` succeeds. -/
  opens : Bool := true
  write : Write := .done
  /-- The release that follows a consumer usage. -/
  release : Write := .done
  deriving DecidableEq, Repr

def ioErrorCode : Option Nat → String
  | some 32 => "epipe"
  | some 108 => "eshutdown"
  | some 11 => "eagain"
  | some 6 => "enxio"
  | some 19 => "enodev"
  | some 5 => "eio"
  | some 2 => "enoent"
  | _ => "io_error"

/-- What a report call leaves: the device, the online flag, the code of the error
it records and returns, and whether the host got the report. -/
structure Written where
  device : Device
  online : Bool
  error : Option String := none
  accepted : Bool := false
  deriving DecidableEq, Repr

/-- `send_keyboard_report` and the mouse and consumer calls like it. -/
def writeReport (device : Device) (online : Bool) (io : Io) : Written :=
  if !device.path then { device, online }
  else if !io.pathExists then
    { device := { device with file := false }, online := false, error := some "enoent" }
  else if !device.file && !io.opens then { device, online := false, error := some "not_opened" }
  else
    let device := { device with file := true }
    match io.write with
    | .done => { device, online := true, accepted := true }
    -- dropped silently; `ensure_device` has marked the backend online
    | .timeout => { device, online := true }
    | .error (some 11) => { device, online := true }
    | .error (some 108) =>
        { device := { device with file := false }, online := false, error := some "eshutdown" }
    | .error errno => { device, online := false, error := some (ioErrorCode errno) }

structure State where
  keyboardDev : Device := {}
  mouseRelDev : Device := {}
  mouseAbsDev : Device := {}
  consumerDev : Device := {}
  keyboardState : KeyboardReport := .empty
  mouseButtons : UInt8 := 0
  initialized : Bool := true
  online : Bool := true
  /-- The last send returned `Ok`. -/
  lastOk : Bool := true
  /-- The reports the host accepted, with the device they came from, latest first. -/
  accepted : List (DeviceType × List UInt8) := []
  deriving DecidableEq, Repr

/-- What a backend keeps of keys and buttons. -/
def State.held (s : State) : Held := { keyboard := s.keyboardState, buttons := s.mouseButtons }

def State.device (s : State) : DeviceType → Device
  | .keyboard => s.keyboardDev
  | .mouseRelative => s.mouseRelDev
  | .mouseAbsolute => s.mouseAbsDev
  | .consumerControl => s.consumerDev

def State.setDevice (s : State) (device : Device) : DeviceType → State
  | .keyboard => { s with keyboardDev := device }
  | .mouseRelative => { s with mouseRelDev := device }
  | .mouseAbsolute => { s with mouseAbsDev := device }
  | .consumerControl => { s with consumerDev := device }

/-- A report for one device; the flag says whether the call returns `Ok`. -/
def State.report (s : State) (type : DeviceType) (data : List UInt8) (io : Io) : State × Bool :=
  let written := writeReport (s.device type) s.online io
  ({ s.setDevice written.device type with
      online := written.online
      accepted := if written.accepted then (type, data) :: s.accepted else s.accepted },
    written.error.isNone)

def State.sendKeyboardReport (s : State) (report : KeyboardReport) (io : Io) : State × Bool :=
  s.report .keyboard report.toBytes io

def State.sendMouseReportRelative (s : State) (buttons : UInt8) (dx dy wheel : Int8) (io : Io) :
    State × Bool :=
  s.report .mouseRelative [buttons, dx.toUInt8, dy.toUInt8, wheel.toUInt8] io

def State.sendMouseReportAbsolute (s : State) (buttons : UInt8) (x y : UInt16) (wheel : Int8)
    (io : Io) : State × Bool :=
  s.report .mouseAbsolute
    [buttons, x.toUInt8, (x >>> 8).toUInt8, y.toUInt8, (y >>> 8).toUInt8, wheel.toUInt8] io

/-- Sends a usage and then its release, whose result is ignored. -/
def State.sendConsumerReport (s : State) (usage : UInt16) (io : Io) : State × Bool :=
  let sent := s.report .consumerControl [usage.toUInt8, (usage >>> 8).toUInt8] io
  let released := (writeReport s.consumerDev s.online io).accepted && io.release = .done
  ({ sent.1 with
      accepted := if released then (.consumerControl, [0, 0]) :: sent.1.accepted
        else sent.1.accepted }, sent.2)

def State.sendKeyboard (s : State) (event : KeyboardEvent) (io : DeviceType → Io) : State × Bool :=
  let report := (sendKeyboardWith id s.keyboardState event).1
  { s with keyboardState := report }.sendKeyboardReport report (io .keyboard)

def State.sendMouse (s : State) (event : MouseEvent) (io : DeviceType → Io) : State × Bool :=
  match event.eventType with
  | .move =>
      s.sendMouseReportRelative s.mouseButtons (clampI32 event.x (-127) 127).toInt8
        (clampI32 event.y (-127) 127).toInt8 0 (io .mouseRelative)
  | .moveAbs =>
      s.sendMouseReportAbsolute 0 (clampI32 event.x 0 32767).toUInt32.toUInt16
        (clampI32 event.y 0 32767).toUInt32.toUInt16 0 (io .mouseAbsolute)
  | .down =>
      match event.button with
      | some button =>
          let s := { s with mouseButtons := s.mouseButtons ||| button.toHidBit }
          s.sendMouseReportRelative s.mouseButtons 0 0 0 (io .mouseRelative)
      | none => (s, true)
  | .up =>
      match event.button with
      | some button =>
          let s := { s with mouseButtons := s.mouseButtons &&& ~~~button.toHidBit }
          s.sendMouseReportRelative s.mouseButtons 0 0 0 (io .mouseRelative)
      | none => (s, true)
  | .scroll => s.sendMouseReportRelative s.mouseButtons 0 0 event.scroll (io .mouseRelative)

/-- The next report is sent only if the one before it returns `Ok`. -/
def andThen (sent : State × Bool) (next : State → State × Bool) : State × Bool :=
  if sent.2 then next sent.1 else sent

def State.reset (s : State) (io : DeviceType → Io) : State × Bool :=
  let s := { s with keyboardState := s.keyboardState.clear }
  andThen (s.sendKeyboardReport s.keyboardState (io .keyboard)) fun s =>
    andThen ({ s with mouseButtons := 0 }.sendMouseReportRelative 0 0 0 0 (io .mouseRelative))
      fun s => s.sendMouseReportAbsolute 0 0 0 0 (io .mouseAbsolute)

/-- `process_hid_event` on this backend. -/
def State.process (s : State) (io : DeviceType → Io) : HidEvent → State × Bool
  | .keyboard event => s.sendKeyboard event io
  | .mouse event => s.sendMouse event io
  | .consumer event => s.sendConsumerReport event.usage (io .consumerControl)
  | .reset => s.reset io

/-- A reset, and then the devices are closed if it went well. -/
def State.shutdown (s : State) (io : DeviceType → Io) : State :=
  let sent := s.reset io
  if sent.2 then
    { sent.1 with
      keyboardDev := { sent.1.keyboardDev with file := false }
      mouseRelDev := { sent.1.mouseRelDev with file := false }
      mouseAbsDev := { sent.1.mouseAbsDev with file := false }
      consumerDev := { sent.1.consumerDev with file := false }
      initialized := false
      online := false }
  else sent.1

inductive Event
  | send (event : HidEvent) (io : DeviceType → Io)
  | shutdown (io : DeviceType → Io)

def step (s : State) : Event → Option State
  | .send event io =>
      let (s, ok) := s.process io event
      some { s with lastOk := ok }
  | .shutdown io => some (s.shutdown io)

/-- The backend after `init`, with any of its functions configured. -/
structure Init (s : State) : Prop where
  keyboardState : s.keyboardState = {}
  mouseButtons : s.mouseButtons = 0
  accepted : s.accepted = []

def system : TSys State Event := .ofFn Init step

/-! ## What the host has -/

/-- The last report the host accepted from a device. -/
def State.lastReport (s : State) (type : DeviceType) : Option (List UInt8) :=
  (s.accepted.find? (·.1 = type)).map (·.2)

/-- The buttons are those of the relative mouse. -/
def State.target (s : State) : Target where
  keyboard := (s.lastReport .keyboard).getD [0, 0, 0, 0, 0, 0, 0, 0]
  buttons := ((s.lastReport .mouseRelative).getD []).headD 0

/-- `runtime_snapshot().online`. -/
def State.reportsOnline (s : State) (devicesExist udcConfigured : Bool) : Bool :=
  s.initialized && s.online && devicesExist && udcConfigured

/-- Whenever the backend reports online and the last send returned `Ok`, the host
has what the backend keeps. -/
def Agrees (s : State) : Prop :=
  ∀ devicesExist udcConfigured, s.reportsOnline devicesExist udcConfigured = true →
    s.lastOk = true → s.target.Shows s.held

/-- The host gets a report written to the device now. -/
def State.reaches (s : State) (type : DeviceType) (io : DeviceType → Io) : Prop :=
  (writeReport (s.device type) s.online (io type)).accepted = true

/-- A keyboard report or a report with a button change is lost only when the host
already has its state. -/
def Kept (s : State) : Event → Prop
  | .send (.keyboard event) io =>
      s.reaches .keyboard io ∨
        s.target.keyboard = (sendKeyboardWith id s.keyboardState event).1.toBytes
  | .send (.mouse event) io =>
      applyButtons s.mouseButtons event ≠ s.target.buttons → s.reaches .mouseRelative io
  | .send (.consumer _) _ => True
  | .send .reset io | .shutdown io =>
      (s.reaches .keyboard io ∨ s.target.keyboard = s.keyboardState.clear.toBytes) ∧
        ((writeReport s.keyboardDev s.online (io .keyboard)).error = none →
          s.reaches .mouseRelative io ∨ s.target.buttons = 0)

/-! ## One report -/

@[simp] theorem held_report (s : State) (type : DeviceType) (data : List UInt8) (io : Io) :
    (s.report type data io).1.held = s.held := by
  cases type <;> rfl

theorem lastReport_report (s : State) (type type' : DeviceType) (data : List UInt8) (io : Io) :
    (s.report type data io).1.lastReport type' =
      if (writeReport (s.device type) s.online io).accepted = true ∧ type = type' then some data
      else s.lastReport type' := by
  have haccepted : (s.report type data io).1.accepted =
      if (writeReport (s.device type) s.online io).accepted = true then (type, data) :: s.accepted
      else s.accepted := rfl
  unfold State.lastReport
  rw [haccepted]
  cases hdone : (writeReport (s.device type) s.online io).accepted with
  | false => simp
  | true =>
    by_cases htype : type = type'
    · simp [htype]
    · simp [htype]

theorem target_keyboard (s : State) (report : KeyboardReport) (io : DeviceType → Io) :
    (s.sendKeyboardReport report (io .keyboard)).1.target =
      { s.target with
        keyboard := if (writeReport s.keyboardDev s.online (io .keyboard)).accepted = true
          then report.toBytes else s.target.keyboard } := by
  unfold State.target State.sendKeyboardReport
  simp only [lastReport_report, State.device]
  by_cases hdone : (writeReport s.keyboardDev s.online (io .keyboard)).accepted = true
  · simp [hdone]
  · simp [hdone]

theorem target_mouseRelative (s : State) (buttons : UInt8) (dx dy wheel : Int8)
    (io : DeviceType → Io) :
    (s.sendMouseReportRelative buttons dx dy wheel (io .mouseRelative)).1.target =
      { s.target with
        buttons := if (writeReport s.mouseRelDev s.online (io .mouseRelative)).accepted = true
          then buttons else s.target.buttons } := by
  unfold State.target State.sendMouseReportRelative
  simp only [lastReport_report, State.device]
  by_cases hdone : (writeReport s.mouseRelDev s.online (io .mouseRelative)).accepted = true
  · simp [hdone]
  · simp [hdone]

theorem target_mouseAbsolute (s : State) (buttons : UInt8) (x y : UInt16) (wheel : Int8) (io : Io) :
    (s.sendMouseReportAbsolute buttons x y wheel io).1.target = s.target := by
  simp [State.target, State.sendMouseReportAbsolute, lastReport_report]

theorem target_consumer (s : State) (usage : UInt16) (io : Io) :
    (s.sendConsumerReport usage io).1.target = s.target := by
  have hreport : (s.report .consumerControl [usage.toUInt8, (usage >>> 8).toUInt8] io).1.target =
      s.target := by
    simp [State.target, lastReport_report]
  rw [← hreport]
  simp only [State.target, State.lastReport, State.sendConsumerReport]
  split <;> simp

theorem held_consumer (s : State) (usage : UInt16) (io : Io) :
    (s.sendConsumerReport usage io).1.held = s.held :=
  held_report s .consumerControl [usage.toUInt8, (usage >>> 8).toUInt8] io

/-! ## Runs -/

/-- A keyboard report that arrives, or that the host already has. -/
theorem shows_keyboard {s : State} {report : KeyboardReport} {io : DeviceType → Io}
    (hbuttons : s.target.buttons = s.mouseButtons) (hreport : s.keyboardState = report)
    (h : s.reaches .keyboard io ∨ s.target.keyboard = report.toBytes) :
    (s.sendKeyboardReport report (io .keyboard)).1.target.Shows
      (s.sendKeyboardReport report (io .keyboard)).1.held := by
  rw [target_keyboard, State.sendKeyboardReport, held_report]
  refine ⟨?_, hbuttons⟩
  show (if _ then report.toBytes else s.target.keyboard) = s.keyboardState.toBytes
  rw [hreport]
  split
  · rfl
  · rename_i hlost
    exact h.resolve_left hlost

/-- A report of the relative mouse that arrives, or whose buttons the host already
has. -/
theorem shows_mouseRelative {s : State} {dx dy wheel : Int8} {io : DeviceType → Io}
    (hkeyboard : s.target.keyboard = s.keyboardState.toBytes)
    (h : s.reaches .mouseRelative io ∨ s.target.buttons = s.mouseButtons) :
    (s.sendMouseReportRelative s.mouseButtons dx dy wheel (io .mouseRelative)).1.target.Shows
      (s.sendMouseReportRelative s.mouseButtons dx dy wheel (io .mouseRelative)).1.held := by
  rw [target_mouseRelative, State.sendMouseReportRelative, held_report]
  refine ⟨hkeyboard, ?_⟩
  show (if _ then s.mouseButtons else s.target.buttons) = s.mouseButtons
  split
  · rfl
  · rename_i hlost
    exact h.resolve_left hlost

theorem shows_mouse {s : State} {event : MouseEvent} {io : DeviceType → Io}
    (h : s.target.Shows s.held)
    (hkept : applyButtons s.mouseButtons event ≠ s.target.buttons → s.reaches .mouseRelative io) :
    (s.sendMouse event io).1.target.Shows (s.sendMouse event io).1.held := by
  obtain ⟨hkeyboard, hbuttons⟩ := h
  have hreach : s.reaches .mouseRelative io ∨
      s.target.buttons = applyButtons s.mouseButtons event := by
    by_cases hsame : applyButtons s.mouseButtons event = s.target.buttons
    · exact .inr hsame.symm
    · exact .inl (hkept hsame)
  obtain ⟨eventType, x, y, button, scroll⟩ := event
  cases eventType with
  | move => exact shows_mouseRelative hkeyboard (.inr hbuttons)
  | moveAbs =>
    simp only [State.sendMouse]
    rw [target_mouseAbsolute, State.sendMouseReportAbsolute, held_report]
    exact ⟨hkeyboard, hbuttons⟩
  | scroll => exact shows_mouseRelative hkeyboard (.inr hbuttons)
  | down =>
    cases button with
    | none => exact ⟨hkeyboard, hbuttons⟩
    | some button => exact shows_mouseRelative hkeyboard hreach
  | up =>
    cases button with
    | none => exact ⟨hkeyboard, hbuttons⟩
    | some button => exact shows_mouseRelative hkeyboard hreach

/-- Whether the host gets a report does not depend on the online flag. -/
theorem accepted_online (device : Device) (online online' : Bool) (io : Io) :
    (writeReport device online io).accepted = (writeReport device online' io).accepted := by
  unfold writeReport
  split
  · rfl
  · rfl

theorem shows_andThen {sent : State × Bool} {next : State → State × Bool}
    (hsent : sent.1.target.Shows sent.1.held)
    (hnext : sent.2 = true → (next sent.1).1.target.Shows (next sent.1).1.held) :
    (andThen sent next).1.target.Shows (andThen sent next).1.held := by
  unfold andThen
  split
  · rename_i hok
    exact hnext hok
  · exact hsent

/-- The first two reports of a reset bring the host to what the backend keeps; the
third carries no buttons. -/
theorem shows_reset {s : State} {io : DeviceType → Io} (h : s.target.Shows s.held)
    (hkeyboard : s.reaches .keyboard io ∨ s.target.keyboard = s.keyboardState.clear.toBytes)
    (hmouse : (writeReport s.keyboardDev s.online (io .keyboard)).error = none →
      s.reaches .mouseRelative io ∨ s.target.buttons = 0) :
    (s.reset io).1.target.Shows (s.reset io).1.held := by
  obtain ⟨-, hbuttons⟩ := h
  let s₀ : State := { s with keyboardState := s.keyboardState.clear }
  have hfirst : (s₀.sendKeyboardReport s₀.keyboardState (io .keyboard)).1.target.Shows
      (s₀.sendKeyboardReport s₀.keyboardState (io .keyboard)).1.held :=
    shows_keyboard hbuttons rfl hkeyboard
  have htarget : (s₀.sendKeyboardReport s₀.keyboardState (io .keyboard)).1.target.buttons =
      s.target.buttons := by
    rw [target_keyboard]
    rfl
  refine shows_andThen hfirst fun hok => ?_
  have hreach := hmouse (Option.isNone_iff_eq_none.mp hok)
  let s₁ : State :=
    { (s₀.sendKeyboardReport s₀.keyboardState (io .keyboard)).1 with mouseButtons := 0 }
  have hreach₁ : s₁.reaches .mouseRelative io ∨ s₁.target.buttons = s₁.mouseButtons := by
    rcases hreach with hreaches | hzero
    · refine .inl ?_
      unfold State.reaches at hreaches ⊢
      rw [accepted_online _ _ s.online]
      exact hreaches
    · exact .inr (htarget.trans hzero)
  have hsecond : (s₁.sendMouseReportRelative s₁.mouseButtons 0 0 0 (io .mouseRelative)).1.target.Shows
      (s₁.sendMouseReportRelative s₁.mouseButtons 0 0 0 (io .mouseRelative)).1.held :=
    shows_mouseRelative hfirst.1 hreach₁
  refine shows_andThen hsecond fun _ => ?_
  rw [target_mouseAbsolute, State.sendMouseReportAbsolute, held_report]
  exact hsecond

theorem shows_step {s s' : State} {e : Event} (h : s.target.Shows s.held)
    (hstep : step s e = some s') (hkept : Kept s e) : s'.target.Shows s'.held := by
  cases e with
  | send event io =>
    cases hstep
    cases event with
    | keyboard event => exact shows_keyboard h.2 rfl hkept
    | mouse event => exact shows_mouse h hkept
    | consumer event =>
      have htarget := target_consumer s event.usage (io .consumerControl)
      have hheld := held_consumer s event.usage (io .consumerControl)
      rw [← htarget, ← hheld] at h
      exact h
    | reset => exact shows_reset h hkept.1 hkept.2
  | shutdown io =>
    cases hstep
    have hreset := shows_reset h hkept.1 hkept.2
    by_cases hok : (s.reset io).2 = true
    · simp only [State.shutdown, hok, ite_true]
      exact hreset
    · simp only [State.shutdown, hok]
      exact hreset

/-- In every run in which no report is lost for good the host follows the
backend. -/
theorem agrees_of_kept {s : State} (hrun : (system.restrict Kept).Reachable s) : Agrees s := by
  have hshows : s.target.Shows s.held := by
    refine TSys.invariant (I := fun s => s.target.Shows s.held) ?_ ?_ hrun
    · rintro s ⟨hkeyboard, hbuttons, haccepted⟩
      simp [Target.Shows, State.target, State.lastReport, State.held, haccepted, hkeyboard, hbuttons,
        KeyboardReport.toBytes]
    · rintro s e s' hs ⟨hstep, hkept⟩
      exact shows_step hs hstep hkept
  exact fun _ _ _ _ => hshows

/-! ## A healthy gadget -/

/-- Every function is configured and its device open. -/
structure State.Healthy (s : State) : Prop where
  keyboard : s.keyboardDev = {}
  mouseRel : s.mouseRelDev = {}
  mouseAbs : s.mouseAbsDev = {}
  consumer : s.consumerDev = {}

theorem State.Healthy.device {s : State} (h : s.Healthy) (type : DeviceType) :
    s.device type = {} := by
  cases type with
  | keyboard => exact h.keyboard
  | mouseRelative => exact h.mouseRel
  | mouseAbsolute => exact h.mouseAbs
  | consumerControl => exact h.consumer

theorem healthy_report {s : State} (h : s.Healthy) (type : DeviceType) (data : List UInt8) :
    (s.report type data {}).1.Healthy ∧ (s.report type data {}).2 = true := by
  have hwritten : writeReport (s.device type) s.online {} =
      { device := {}, online := true, accepted := true } := by
    rw [h.device type]
    rfl
  unfold State.report
  rw [hwritten]
  cases type with
  | keyboard => exact ⟨{ h with keyboard := rfl }, rfl⟩
  | mouseRelative => exact ⟨{ h with mouseRel := rfl }, rfl⟩
  | mouseAbsolute => exact ⟨{ h with mouseAbs := rfl }, rfl⟩
  | consumerControl => exact ⟨{ h with consumer := rfl }, rfl⟩

theorem healthy_reaches {s : State} (h : s.Healthy) (type : DeviceType) :
    s.reaches type fun _ => {} := by
  unfold State.reaches
  rw [h.device type]
  rfl

theorem andThen_ok {sent : State × Bool} {next : State → State × Bool} (h : sent.2 = true) :
    andThen sent next = next sent.1 := if_pos h

theorem healthy_mouse {s : State} (h : s.Healthy) (event : MouseEvent) :
    (s.sendMouse event fun _ => {}).1.Healthy ∧
      (s.sendMouse event fun _ => {}).1.held =
        { s.held with buttons := applyButtons s.mouseButtons event } := by
  obtain ⟨eventType, x, y, button, scroll⟩ := event
  cases eventType with
  | move => exact ⟨(healthy_report h .mouseRelative _).1, held_report s .mouseRelative _ {}⟩
  | moveAbs => exact ⟨(healthy_report h .mouseAbsolute _).1, held_report s .mouseAbsolute _ {}⟩
  | scroll => exact ⟨(healthy_report h .mouseRelative _).1, held_report s .mouseRelative _ {}⟩
  | down =>
    cases button with
    | none => exact ⟨h, rfl⟩
    | some button =>
      let s₀ : State := { s with mouseButtons := s.mouseButtons ||| button.toHidBit }
      have h₀ : s₀.Healthy := { h with }
      exact ⟨(healthy_report h₀ .mouseRelative _).1, held_report s₀ .mouseRelative _ {}⟩
  | up =>
    cases button with
    | none => exact ⟨h, rfl⟩
    | some button =>
      let s₀ : State := { s with mouseButtons := s.mouseButtons &&& ~~~button.toHidBit }
      have h₀ : s₀.Healthy := { h with }
      exact ⟨(healthy_report h₀ .mouseRelative _).1, held_report s₀ .mouseRelative _ {}⟩

theorem healthy_reset {s : State} (h : s.Healthy) :
    (s.reset fun _ => {}).1.Healthy ∧
      (s.reset fun _ => {}).1.held = { keyboard := s.keyboardState.clear, buttons := 0 } := by
  let s₀ : State := { s with keyboardState := s.keyboardState.clear }
  have h₀ : s₀.Healthy := { h with }
  obtain ⟨h₁, hok₁⟩ := healthy_report h₀ .keyboard s₀.keyboardState.toBytes
  let s₁ : State := { (s₀.report .keyboard s₀.keyboardState.toBytes {}).1 with mouseButtons := 0 }
  have h₁' : s₁.Healthy := { h₁ with }
  obtain ⟨h₂, hok₂⟩ := healthy_report h₁' .mouseRelative [0, 0, 0, 0]
  have hreset : s.reset (fun _ => {}) =
      (s₁.report .mouseRelative [0, 0, 0, 0] {}).1.sendMouseReportAbsolute 0 0 0 0 {} := by
    unfold State.reset
    refine (andThen_ok hok₁).trans ?_
    exact andThen_ok hok₂
  rw [hreset, State.sendMouseReportAbsolute]
  refine ⟨(healthy_report h₂ .mouseAbsolute _).1, ?_⟩
  rw [held_report, held_report]
  rfl

/-- Every event is carried out in full. -/
theorem healthy_process {s : State} (h : s.Healthy) (event : HidEvent) :
    (s.process (fun _ => {}) event).1.Healthy ∧
      (s.process (fun _ => {}) event).1.held = s.held.apply event := by
  cases event with
  | keyboard event =>
    let s₀ : State := { s with keyboardState := (sendKeyboardWith id s.keyboardState event).1 }
    have h₀ : s₀.Healthy := { h with }
    exact ⟨(healthy_report h₀ .keyboard s₀.keyboardState.toBytes).1,
      held_report s₀ .keyboard s₀.keyboardState.toBytes {}⟩
  | consumer event =>
    have hsent := (healthy_report h .consumerControl
      [event.usage.toUInt8, (event.usage >>> 8).toUInt8]).1
    exact ⟨{ hsent with }, held_consumer s event.usage {}⟩
  | mouse event => exact healthy_mouse h event
  | reset => exact healthy_reset h

theorem healthy_shows {s : State} (h : s.Healthy) (hshows : s.target.Shows s.held)
    (event : HidEvent) :
    (s.process (fun _ => {}) event).1.target.Shows (s.process (fun _ => {}) event).1.held := by
  have hkept : Kept s (.send event fun _ => {}) := by
    cases event with
    | keyboard event => exact .inl (healthy_reaches h _)
    | mouse event => exact fun _ => healthy_reaches h _
    | consumer event => trivial
    | reset => exact ⟨.inl (healthy_reaches h _), fun _ => .inl (healthy_reaches h _)⟩
  have hstep := shows_step hshows (show step s (.send event fun _ => {}) = some _ from rfl) hkept
  exact hstep

end Otg
end StreamBox.Hid
