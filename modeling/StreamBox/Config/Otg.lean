import Mathlib.Data.List.Infix
import StreamBox.Config.Sections

/-!
# What the HID section asks of the gadget

The functions, the endpoints and the controller that a HID configuration resolves to, and the
check of the endpoint budget.
-/

namespace StreamBox.Config.Sections

/-! ## The controller -/

/-- What is under `/sys/class/udc`. -/
structure UdcDir where
  present : String → Bool
  find : Option String

/-- Resolve preferred UDC name if available, otherwise auto-detect. -/
def UdcDir.resolveUdcName (dir : UdcDir) (preferred : Option String) : Option String :=
  match preferred with
  | some name => if dir.present name then some name else dir.find
  | none => dir.find

/-- Check if UDC is known to have low endpoint resources. -/
def isLowEndpointUdc (name : String) : Bool :=
  let name := (name.map Char.toLower).toList
  decide ("musb".toList <:+: name) || decide ("musb-hdrc".toList <:+: name)

namespace OtgEndpointBudget

def defaultForUdcName (udc : Option String) : OtgEndpointBudget :=
  if udc.any isLowEndpointUdc then .five else .six

def resolved (budget : OtgEndpointBudget) (udc : Option String) : OtgEndpointBudget :=
  match budget with
  | .auto => defaultForUdcName udc
  | other => other

def endpointLimit (budget : OtgEndpointBudget) (udc : Option String) : Option Nat :=
  match budget.resolved udc with
  | .five => some 5
  | .six => some 6
  | .unlimited | .auto => none

end OtgEndpointBudget

/-! ## The functions -/

namespace OtgHidFunctions

def full : OtgHidFunctions := ⟨true, true, true, true⟩
def fullNoConsumer : OtgHidFunctions := ⟨true, true, true, false⟩
def legacyKeyboard : OtgHidFunctions := ⟨true, false, false, false⟩
def legacyMouseRelative : OtgHidFunctions := ⟨false, true, false, false⟩

def isEmpty (f : OtgHidFunctions) : Bool :=
  !f.keyboard && !f.mouseRelative && !f.mouseAbsolute && !f.consumer

def endpointCost (f : OtgHidFunctions) (keyboardLeds : Bool) : Nat :=
  (if f.keyboard then 1 + (if keyboardLeds then 1 else 0) else 0) +
    f.mouseRelative.toNat + f.mouseAbsolute.toNat + f.consumer.toNat

end OtgHidFunctions

def OtgHidProfile.resolveFunctions (profile : OtgHidProfile) (custom : OtgHidFunctions) :
    OtgHidFunctions :=
  match profile with
  | .full => .full
  | .fullNoConsumer => .fullNoConsumer
  | .legacyKeyboard => .legacyKeyboard
  | .legacyMouseRelative => .legacyMouseRelative
  | .custom => custom

/-! ## The HID section -/

inductive AppError
  | badRequest (message : String)
  | internal (message : String)
  | config (message : String)
  | videoError (message : String)
  | io (message : String)
  deriving DecidableEq, Repr

namespace HidConfig

def effectiveOtgFunctions (c : HidConfig) : OtgHidFunctions :=
  c.otgProfile.resolveFunctions c.otgFunctions

def constrainedOtgFunctions (c : HidConfig) : OtgHidFunctions := c.effectiveOtgFunctions

def resolvedOtgUdc (c : HidConfig) (dir : UdcDir) : Option String := dir.resolveUdcName c.otgUdc

def resolvedOtgEndpointLimit (c : HidConfig) (dir : UdcDir) : Option Nat :=
  c.otgEndpointBudget.endpointLimit (c.resolvedOtgUdc dir)

def effectiveOtgKeyboardLeds (c : HidConfig) : Bool :=
  c.otgKeyboardLeds && c.effectiveOtgFunctions.keyboard

def effectiveOtgRequiredEndpoints (c : HidConfig) (msdEnabled : Bool) : Nat :=
  c.effectiveOtgFunctions.endpointCost c.effectiveOtgKeyboardLeds + if msdEnabled then 2 else 0

def validateOtgEndpointBudget (c : HidConfig) (dir : UdcDir) (msdEnabled : Bool) :
    Except AppError Unit :=
  if c.backend ≠ .otg then .ok ()
  else if c.effectiveOtgFunctions.isEmpty then
    .error (.badRequest "OTG HID functions cannot be empty")
  else
    let required := c.effectiveOtgRequiredEndpoints msdEnabled
    match c.resolvedOtgEndpointLimit dir with
    | some limit =>
      if required > limit then
        .error (.badRequest ("OTG selection requires " ++ toString required ++
          " endpoints, but the configured limit is " ++ toString limit))
      else .ok ()
    | none => .ok ()

end HidConfig

end StreamBox.Config.Sections
