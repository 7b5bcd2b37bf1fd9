import StreamBox.Config.Otg
import Mathlib.Logic.Function.Basic

/-!
# The ATX key executor

One key, power or reset, on a GPIO line or a relay: what a pulse writes to its device, and the
line that this switches.
-/

namespace StreamBox.Atx

open StreamBox.Config.Sections (AtxKeyConfig AtxDriverType ActiveLevel AppError)

/-! ## Lines -/

/-- An output that a write switches. -/
inductive Line
  | gpio (device : String) (pin : UInt32)
  | usbRelay (device : String) (relay : UInt8)
  | serialRelay (device : String) (channel : UInt8)
  deriving DecidableEq, Repr

inductive Write
  | gpio (device : String) (pin : UInt32) (value : UInt8)
  | usbRelay (device : String) (cmd : List UInt8)
  | serialRelay (device : String) (cmd : List UInt8)
  deriving DecidableEq, Repr

/-- What a device does with a write: a GPIO chip sets the level, a relay takes its own command
format. -/
def Write.sets : Write → Option (Line × Bool)
  | .gpio device pin value => some (.gpio device pin, value != 0)
  | .usbRelay device [0x00, relay, state, 0x00, 0x00, 0x00, 0x00, 0x00] =>
    if state = 0xFF then some (.usbRelay device relay, true)
    else if state = 0xFD then some (.usbRelay device relay, false)
    else none
  | .usbRelay _ _ => none
  | .serialRelay device [0xA0, channel, state, checksum] =>
    if checksum = 0xA0 + channel + state then some (.serialRelay device channel, state != 0)
    else none
  | .serialRelay _ _ => none

def Write.apply (w : Write) (lines : Line → Bool) : Line → Bool :=
  match w.sets with
  | some (line, value) => Function.update lines line value
  | none => lines

/-! ## Commands -/

def isConfigured (config : AtxKeyConfig) : Bool :=
  config.driver != .none && !config.device.isEmpty

/-- Standard HID relay command format. -/
def usbRelayCommand (channel : UInt8) (on : Bool) : List UInt8 :=
  if on then [0x00, channel + 1, 0xFF, 0x00, 0x00, 0x00, 0x00, 0x00]
  else [0x00, channel + 1, 0xFD, 0x00, 0x00, 0x00, 0x00, 0x00]

/-- LCUS-Type protocol: stop byte, channel, state, checksum. -/
def serialRelayCommand (channel : UInt8) (on : Bool) : List UInt8 :=
  let state : UInt8 := if on then 1 else 0
  [0xA0, channel, state, 0xA0 + channel + state]

/-- The active and the inactive value of a GPIO line. -/
def gpioValues : ActiveLevel → UInt8 × UInt8
  | .high => (1, 0)
  | .low => (0, 1)

structure AtxKeyExecutor where
  config : AtxKeyConfig
  initialized : Bool := true
  deriving DecidableEq, Repr

namespace AtxKeyExecutor

/-- `u8::try_from(self.config.pin)` -/
def channel (e : AtxKeyExecutor) : Option UInt8 :=
  if e.config.pin.toNat ≤ 255 then some e.config.pin.toUInt8 else none

def usbRelayWrite (e : AtxKeyExecutor) (on : Bool) : Except AppError Write :=
  match e.channel with
  | some channel => .ok (.usbRelay e.config.device (usbRelayCommand channel on))
  | none => .error (.config ("USB relay channel " ++ toString e.config.pin ++ " exceeds max 255"))

def serialRelayWrite (e : AtxKeyExecutor) (on : Bool) : Except AppError Write :=
  match e.channel with
  | some channel =>
    if channel = 0 then .error (.config "Serial relay channel must be 1-based (>= 1)")
    else .ok (.serialRelay e.config.device (serialRelayCommand channel on))
  | none =>
    .error (.config ("Serial relay channel " ++ toString e.config.pin ++ " exceeds max 255"))

/-- What switches the key, if its driver does anything. -/
def send (e : AtxKeyExecutor) (on : Bool) : Except AppError (Option Write) :=
  match e.config.driver with
  | .gpio =>
    let (active, inactive) := gpioValues e.config.activeLevel
    .ok (some (.gpio e.config.device e.config.pin (if on then active else inactive)))
  | .usbRelay => (e.usbRelayWrite on).map some
  | .serial => (e.serialRelayWrite on).map some
  | .none => .ok none

/-- `pulse` up to the write that sets the key active. -/
def start (e : AtxKeyExecutor) : Except AppError (Option Write) :=
  if !isConfigured e.config then .error (.internal "ATX key not configured")
  else if !e.initialized then .error (.internal "ATX key not initialized")
  else e.send true

/-- The error of a write that failed. -/
def writeError (e : AtxKeyExecutor) (reason : String) : AppError :=
  match e.config.driver with
  | .gpio => .internal ("GPIO set failed: " ++ reason)
  | .usbRelay => .internal ("USB relay write failed: " ++ reason)
  | _ => .internal ("Serial relay write failed: " ++ reason)

/-- How a pulse ends after its sleep: a GPIO line that cannot be set is ignored. -/
def finish (e : AtxKeyExecutor) (fails : Option String) : Except AppError Unit :=
  match fails with
  | none => .ok ()
  | some reason => if e.config.driver = .gpio then .ok () else .error (e.writeError reason)

/-! ## What is switched -/

/-- The line of the key. -/
def line (e : AtxKeyExecutor) : Line :=
  match e.config.driver with
  | .usbRelay => .usbRelay e.config.device (e.config.pin.toUInt8 + 1)
  | .serial => .serialRelay e.config.device e.config.pin.toUInt8
  | _ => .gpio e.config.device e.config.pin

/-- What the line is set to. -/
def value (e : AtxKeyExecutor) (on : Bool) : Bool :=
  if e.config.driver = .gpio then on == (e.config.activeLevel == .high) else on

theorem value_false (e : AtxKeyExecutor) : e.value false = !e.value true := by
  unfold value
  split
  · cases e.config.activeLevel <;> rfl
  · rfl

theorem channel_eq_some {e : AtxKeyExecutor} {channel : UInt8} (h : e.channel = some channel) :
    channel = e.config.pin.toUInt8 := by
  unfold AtxKeyExecutor.channel at h
  split at h
  · exact (Option.some.inj h).symm
  · cases h

theorem sets_usbRelayCommand (device : String) (channel : UInt8) (on : Bool) :
    (Write.usbRelay device (usbRelayCommand channel on)).sets
      = some (.usbRelay device (channel + 1), on) := by
  cases on <;> rfl

theorem sets_serialRelayCommand (device : String) (channel : UInt8) (on : Bool) :
    (Write.serialRelay device (serialRelayCommand channel on)).sets
      = some (.serialRelay device channel, on) := by
  cases on <;> simp [serialRelayCommand, Write.sets]

/-- A command switches the line of the key. -/
theorem sets_send {e : AtxKeyExecutor} {on : Bool} {w : Write} (h : e.send on = .ok (some w)) :
    w.sets = some (e.line, e.value on) := by
  unfold send at h
  unfold line value
  split at h
  · rename_i hdriver
    cases h
    rw [hdriver, if_pos rfl]
    cases e.config.activeLevel <;> cases on <;> rfl
  · rename_i hdriver
    rw [hdriver, if_neg (by decide)]
    unfold usbRelayWrite at h
    split at h
    · rename_i channel hchannel
      cases h
      rw [sets_usbRelayCommand, channel_eq_some hchannel]
    · cases h
  · rename_i hdriver
    rw [hdriver, if_neg (by decide)]
    unfold serialRelayWrite at h
    split at h
    · rename_i channel hchannel
      split at h
      · cases h
      · cases h
        rw [sets_serialRelayCommand, channel_eq_some hchannel]
    · cases h
  · cases h

/-- A command takes effect on the line of the key only. -/
theorem apply_send {e : AtxKeyExecutor} {on : Bool} {w : Write} (h : e.send on = .ok (some w))
    (lines : Line → Bool) : w.apply lines = Function.update lines e.line (e.value on) := by
  unfold Write.apply
  rw [sets_send h]

/-- A key that can be set active can be set inactive. -/
theorem send_false {e : AtxKeyExecutor} {w : Write} (h : e.send true = .ok (some w)) :
    ∃ w', e.send false = .ok (some w') := by
  unfold send at h ⊢
  split at h
  · exact ⟨_, rfl⟩
  · unfold usbRelayWrite at h ⊢
    split at h
    · exact ⟨_, rfl⟩
    · cases h
  · unfold serialRelayWrite at h ⊢
    split at h
    · split at h
      · cases h
      · rename_i hzero
        rw [if_neg hzero]
        exact ⟨_, rfl⟩
    · cases h
  · cases h

/-- Two keys on one line have the same active value, unless it is a GPIO line. -/
theorem value_eq {e e' : AtxKeyExecutor} {w w' : Write} (h : e.send true = .ok (some w))
    (h' : e'.send true = .ok (some w')) (hline : e.line = e'.line)
    (hgpio : e.config.driver ≠ .gpio ∨ e'.config.driver ≠ .gpio) :
    e.value true = e'.value true := by
  have hnone : ∀ {e : AtxKeyExecutor} {w : Write}, e.send true = .ok (some w) →
      e.config.driver ≠ .none := by
    intro e w h hnone
    unfold send at h
    rw [hnone] at h
    cases h
  have he := hnone h
  have he' := hnone h'
  unfold line at hline
  unfold value
  cases hd : e.config.driver <;> cases hd' : e'.config.driver <;>
    simp [hd, hd'] at hline he he' hgpio ⊢

end AtxKeyExecutor

end StreamBox.Atx
