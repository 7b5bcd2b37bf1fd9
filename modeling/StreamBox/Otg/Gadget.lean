import StreamBox.Config.Settings
import Mathlib.Logic.Function.Basic

/-!
# The USB gadget

The directory of the gadget in ConfigFS, as far as its mass storage goes, and what the gadget
manager and the mass-storage function do to it. The answers of the kernel are arguments.

* **The LUN** — `configureLun` runs `configure_lun` from one file operation to the next,
  `disconnectLun` is `disconnect_lun`.
* **The manager** — `addFunction`, `cleanup`, `create` and `bind`.
* **Backing files** — `lunFile_cleanup`, `lunFile_create`, `lunFile_bind`: the manager gives the
  LUN no file, and only its cleanup takes one away.
-/

namespace StreamBox.Otg

open StreamBox.Config.Sections (AppError OtgDesiredState)

/-! ## The LUN -/

inductive LunAttribute
  | cdrom
  | ro
  | removable
  | nofua
  deriving DecidableEq, Repr

/-- MSD LUN configuration -/
structure MsdLunConfig where
  file : String
  cdrom : Bool := false
  ro : Bool := false
  removable : Bool := true
  nofua : Bool := true
  deriving DecidableEq, Repr

namespace MsdLunConfig

def forCdrom (file : String) : MsdLunConfig := { file, cdrom := true, ro := true }

def forDisk (file : String) (readOnly : Bool) : MsdLunConfig := { file, ro := readOnly }

def value (c : MsdLunConfig) : LunAttribute → Bool
  | .cdrom => c.cdrom
  | .ro => c.ro
  | .removable => c.removable
  | .nofua => c.nofua

end MsdLunConfig

structure Lun where
  attributes : LunAttribute → Bool := fun a => a == .removable
  /-- The backing file. -/
  file : Option String := none

/-- The gadget's directory. -/
structure Gadget where
  /-- What `UDC` holds, where the gadget is bound. -/
  udc : Option String := none
  /-- The mass-storage function is linked into the configuration. -/
  linked : Bool := false
  /-- `lun.0`, where there is a mass-storage function. -/
  lun : Option Lun := none

/-- How the kernel answers the file operations on the LUN. -/
structure LunAnswers where
  /-- What a failed operation says. -/
  reason : String := ""
  created : Bool := true
  hasForcedEject : Bool := true
  forced : Bool := true
  cleared : Bool := true
  accepts : LunAttribute → Bool := fun _ => true
  /-- The image file exists. -/
  present : Bool := true
  written : Bool := true

/-- The eject of `disconnect_lun` fails. -/
def LunAnswers.refuse (k : LunAnswers) : Bool := !(k.hasForcedEject && k.forced) && !k.cleared

inductive LunStage
  | eject
  /-- The attributes that were read before the eject. -/
  | attributes (current : LunAttribute → Bool)
  | checkFile
  | file (attempt : Nat)
  | returned (result : Except AppError Unit)

namespace Gadget

def isBound (g : Option Gadget) : Bool := g.any (·.udc.isSome)

/-- The host sees the LUN. -/
def exposed (g : Option Gadget) : Bool := g.any fun g => g.udc.isSome && g.linked

def lun? (g : Option Gadget) : Option Lun := g.bind (·.lun)

def lunFile (g : Option Gadget) : Option String := (lun? g).bind (·.file)

/-- `create_dir` of the LUN's path, with all that is missing above it. -/
def makeLun (g : Option Gadget) : Option Gadget :=
  let g := g.getD {}
  some { g with lun := some (g.lun.getD {}) }

def mapLun (f : Lun → Lun) (g : Option Gadget) : Option Gadget :=
  g.map fun g => { g with lun := g.lun.map f }

def eject (g : Option Gadget) : Option Gadget := mapLun (fun l => { l with file := none }) g

/-- `configure_lun` takes the old file off the LUN, and goes on if it cannot. -/
def ejectFirst (g : Option Gadget) (k : LunAnswers) : Option Gadget :=
  let ejected := if k.hasForcedEject then k.forced else k.cleared
  if ejected then eject g else g

/-- The attributes that `configure_lun` writes: those that differ from what it has read. -/
def changed (current : LunAttribute → Bool) (c : MsdLunConfig) : List LunAttribute :=
  [.cdrom, .ro, .removable, .nofua].filter fun a => current a != c.value a

def setAttribute (c : MsdLunConfig) (a : LunAttribute) (l : Lun) : Lun :=
  { l with attributes := Function.update l.attributes a (c.value a) }

/-- The writes of the attributes, up to the first that fails. -/
def writeAttributes (c : MsdLunConfig) (k : LunAnswers) :
    List LunAttribute → Option Gadget → Option Gadget × Bool
  | [], g => (g, true)
  | a :: as, g =>
    if (lun? g).isSome && k.accepts a then
      writeAttributes c k as (mapLun (setAttribute c a) g)
    else (g, false)

def setFile (file : String) (g : Option Gadget) : Option Gadget :=
  mapLun (fun l => { l with file := some file }) g

def disconnectLun (g : Option Gadget) (k : LunAnswers) : Except AppError (Option Gadget) :=
  match lun? g with
  | none => .ok g
  | some _ => if k.refuse then .error (.internal k.reason) else .ok (eject g)

/-- EBUSY, as `configure_lun` knows it. -/
def isBusy (reason : String) : Bool :=
  decide ("Device or resource busy".toList <:+: reason.toList) ||
    decide ("os error 16".toList <:+: reason.toList)

/-- The next file operation puts the file on the LUN. -/
def writes (g : Option Gadget) (k : LunAnswers) : LunStage → Bool
  | .file _ => (lun? g).isSome && k.written
  | _ => false

/-- `configure_lun` goes on by a file operation. -/
def configureLun (c : MsdLunConfig) (g : Option Gadget) (k : LunAnswers) :
    LunStage → Option Gadget × LunStage
  | .eject =>
    if (lun? g).isNone && !k.created then (g, .returned (.error (.internal k.reason)))
    else
      let g := makeLun g
      (ejectFirst g k, .attributes (((lun? g).map (·.attributes)).getD fun _ => false))
  | .attributes current =>
    let (g, written) := writeAttributes c k (changed current c) g
    (g, if written then .checkFile else .returned (.error (.internal k.reason)))
  -- a file that is not there is only worth a warning
  | .checkFile => (g, if k.present then .file 0 else .returned (.ok ()))
  | .file attempt =>
    if (lun? g).isSome && k.written then (setFile c.file g, .returned (.ok ()))
    else if isBusy k.reason && attempt < 4 then (g, .file (attempt + 1))
    else (g, .returned (.error (.internal k.reason)))
  | .returned result => (g, .returned result)

/-! ### Backing files -/

theorem lunFile_mapLun {f : Lun → Lun} (h : ∀ l, (f l).file = l.file) (g : Option Gadget) :
    lunFile (mapLun f g) = lunFile g := by
  cases g with
  | none => rfl
  | some g =>
    cases hl : g.lun with
    | none => simp [lunFile, lun?, mapLun, hl]
    | some l => simp [lunFile, lun?, mapLun, hl, h]

theorem exposed_mapLun (f : Lun → Lun) (g : Option Gadget) : exposed (mapLun f g) = exposed g := by
  cases g with
  | none => rfl
  | some g => rfl

theorem lunFile_makeLun (g : Option Gadget) : lunFile (makeLun g) = lunFile g := by
  cases g with
  | none => rfl
  | some g =>
    cases hl : g.lun with
    | none => simp [lunFile, lun?, makeLun, hl]
    | some l => simp [lunFile, lun?, makeLun, hl]

theorem lunFile_eject (g : Option Gadget) : lunFile (eject g) = none := by
  cases g with
  | none => rfl
  | some g =>
    cases hl : g.lun with
    | none => simp [lunFile, lun?, eject, mapLun, hl]
    | some l => simp [lunFile, lun?, eject, mapLun, hl]

theorem lunFile_ejectFirst {g : Option Gadget} (h : lunFile g = none) (k : LunAnswers) :
    lunFile (ejectFirst g k) = none := by
  dsimp only [ejectFirst]
  generalize (if k.hasForcedEject = true then k.forced else k.cleared) = ejected
  cases ejected with
  | true => exact lunFile_eject g
  | false => exact h

theorem lunFile_writeAttributes (c : MsdLunConfig) (k : LunAnswers) (as : List LunAttribute)
    (g : Option Gadget) : lunFile (writeAttributes c k as g).1 = lunFile g := by
  induction as generalizing g with
  | nil => rfl
  | cons a as ih =>
    unfold writeAttributes
    split
    · rw [ih]
      exact lunFile_mapLun (f := setAttribute c a) (fun _ => rfl) g
    · rfl

theorem lunFile_setFile {g : Option Gadget} (h : (lun? g).isSome) (file : String) :
    lunFile (setFile file g) = some file := by
  cases g with
  | none => cases h
  | some g =>
    obtain ⟨l, hl⟩ := Option.isSome_iff_exists.mp h
    have hlun : g.lun = some l := hl
    simp [lunFile, lun?, setFile, mapLun, hlun]

theorem configureLun_of_writes {c : MsdLunConfig} {g : Option Gadget} {k : LunAnswers}
    {stage : LunStage} (h : writes g k stage) :
    configureLun c g k stage = (setFile c.file g, .returned (.ok ())) := by
  cases stage with
  | file attempt => exact if_pos h
  | _ => cases h

theorem exposed_writeAttributes (c : MsdLunConfig) (k : LunAnswers) (as : List LunAttribute)
    (g : Option Gadget) : exposed (writeAttributes c k as g).1 = exposed g := by
  induction as generalizing g with
  | nil => rfl
  | cons a as ih =>
    unfold writeAttributes
    split
    · rw [ih]
      exact exposed_mapLun (setAttribute c a) g
    · rfl

/-- After its eject, `configure_lun` changes neither the file nor what the host sees before it
puts its own file on the LUN. -/
theorem configureLun_frame {c : MsdLunConfig} {g : Option Gadget} {k : LunAnswers}
    {stage : LunStage} (hstage : stage ≠ .eject) (hwrites : writes g k stage = false) :
    lunFile (configureLun c g k stage).1 = lunFile g ∧
      exposed (configureLun c g k stage).1 = exposed g := by
  cases stage with
  | eject => exact absurd rfl hstage
  | attributes current =>
    exact ⟨lunFile_writeAttributes c k _ g, exposed_writeAttributes c k _ g⟩
  | checkFile => exact ⟨rfl, rfl⟩
  | file attempt =>
    have hno : ((lun? g).isSome && k.written) = false := hwrites
    dsimp only [configureLun]
    rw [hno, if_neg Bool.false_ne_true]
    split
    · exact ⟨rfl, rfl⟩
    · exact ⟨rfl, rfl⟩
  | returned result => exact ⟨rfl, rfl⟩

/-- No other file operation of `configure_lun` gives the LUN a file. -/
theorem lunFile_configureLun {c : MsdLunConfig} {g : Option Gadget} {k : LunAnswers}
    {stage : LunStage} (h : lunFile g = none) (hwrites : writes g k stage = false) :
    lunFile (configureLun c g k stage).1 = none := by
  by_cases hstage : stage = .eject
  · subst hstage
    dsimp only [configureLun]
    split
    · exact h
    · exact lunFile_ejectFirst ((lunFile_makeLun g).trans h) k
  · rw [(configureLun_frame hstage hwrites).1, h]

/-- A step of `configure_lun` succeeds by writing the file, or because there is none to write. -/
theorem configureLun_ok {c : MsdLunConfig} {g : Option Gadget} {k : LunAnswers} {stage : LunStage}
    (h : (configureLun c g k stage).2 = .returned (.ok ())) :
    writes g k stage = true ∨ stage = .checkFile ∧ k.present = false ∨
      stage = .returned (.ok ()) := by
  cases stage with
  | eject =>
    dsimp only [configureLun] at h
    split at h
    · cases h
    · cases h
  | attributes current =>
    have h : (if (writeAttributes c k (changed current c) g).2 then LunStage.checkFile
      else .returned (.error (.internal k.reason))) = .returned (.ok ()) := h
    split at h
    · cases h
    · cases h
  | checkFile =>
    have h : (if k.present then LunStage.file 0 else .returned (.ok ())) = .returned (.ok ()) := h
    split at h
    · cases h
    · rename_i habsent
      exact .inr (.inl ⟨rfl, Bool.eq_false_iff.mpr habsent⟩)
  | file attempt =>
    dsimp only [configureLun] at h
    split at h
    · rename_i hwrites
      exact .inl hwrites
    · split at h
      · cases h
      · cases h
  | returned result =>
    have h : LunStage.returned result = .returned (.ok ()) := h
    exact .inr (.inr h)

theorem lunFile_disconnectLun {g g' : Option Gadget} {k : LunAnswers}
    (h : disconnectLun g k = .ok g') : lunFile g' = none := by
  unfold disconnectLun at h
  split at h
  · rename_i hlun
    cases h
    simp [lunFile, hlun]
  · split at h
    · cases h
    · cases h
      exact lunFile_eject g

end Gadget

/-! ## The manager -/

inductive GadgetFunction
  | keyboard
  | mouseRelative
  | mouseAbsolute
  | consumer
  | msd
  deriving DecidableEq, Repr

namespace GadgetFunction

def endpointsRequired : GadgetFunction → Nat
  | .msd => 2
  | _ => 1

/-- What the service calls it in its errors. -/
def label : GadgetFunction → String
  | .keyboard => "keyboard HID"
  | .mouseRelative => "relative mouse HID"
  | .mouseAbsolute => "absolute mouse HID"
  | .consumer => "consumer HID"
  | .msd => "MSD"

/-- The functions that a desired state asks for, in the order in which they are added. -/
def wanted (d : OtgDesiredState) : List GadgetFunction :=
  (match d.hidFunctions with
    | some f =>
      (if f.keyboard then [.keyboard] else []) ++
        (if f.mouseRelative then [.mouseRelative] else []) ++
        (if f.mouseAbsolute then [.mouseAbsolute] else []) ++
        (if f.consumer then [.consumer] else [])
    | none => []) ++
    if d.msdEnabled then [.msd] else []

end GadgetFunction

structure OtgGadgetManager where
  maxEndpoints : Nat
  functions : List GadgetFunction := []
  createdByUs : Bool := false
  deriving DecidableEq, Repr

/-- What of a cleanup succeeds. The cleanup goes on after every error. -/
structure CleanupAnswers where
  unbound : Bool := true
  unlinked : Bool := true
  ejected : Bool := true
  functionRemoved : Bool := true
  removed : Bool := true
  deriving DecidableEq, Repr

/-- Nothing of it does. -/
def CleanupAnswers.idle (k : CleanupAnswers) : Bool :=
  !k.unbound && !k.unlinked && !k.ejected && !k.functionRemoved && !k.removed

/-- How far the creation of the directories gets, and the error that stops it. The mass-storage
function comes last. -/
inductive Creation
  | nothing (error : AppError)
  | gadget (error : AppError)
  | function (error : AppError)
  | all
  deriving DecidableEq, Repr

structure BindAnswers where
  /-- The mass-storage function is linked after the links have been made anew. -/
  relinked : Bool := true
  /-- Why the write of `UDC` fails. -/
  fails : Option AppError := none
  /-- A gadget that was bound is still so after a failed write. -/
  stays : Bool := false
  deriving DecidableEq, Repr

namespace OtgGadgetManager

variable (m : OtgGadgetManager)

def used : Nat := (m.functions.map (·.endpointsRequired)).sum

def available : Nat := m.maxEndpoints - m.used

/-- The name that the next function of its kind gets. -/
def nextName : GadgetFunction → String
  | .msd => "mass_storage.usb" ++ toString (m.functions.count .msd)
  | _ => "hid.usb" ++ toString (m.functions.countP (· != .msd))

def addFunction (f : GadgetFunction) : Except AppError OtgGadgetManager :=
  if f.endpointsRequired ≤ m.available then .ok { m with functions := m.functions ++ [f] }
  else
    .error (.internal ("Not enough endpoints for function " ++ m.nextName f ++ ": need " ++
      toString f.endpointsRequired ++ ", available " ++ toString m.available))

def hasMsd : Bool := m.functions.contains .msd

/-- What the cleanup of the functions leaves of the LUN. -/
def cleanedLun (lun : Option Lun) (k : CleanupAnswers) : Option Lun :=
  if !m.hasMsd then lun
  else if k.functionRemoved then none
  else lun.map fun l => if k.ejected then { l with file := none } else l

/-- Cleanup all resources. -/
def cleanup (g : Option Gadget) (k : CleanupAnswers) : Option Gadget :=
  g.bind fun g =>
    let lun := m.cleanedLun g.lun k
    -- the directory goes only if no function is left in it
    if k.removed && lun.isNone then none
    else
      some {
        udc := if k.unbound then none else g.udc
        linked := g.linked && !(m.hasMsd && k.unlinked)
        lun }

/-- The manager is dropped. -/
def drop (g : Option Gadget) (k : CleanupAnswers) : Option Gadget :=
  if m.createdByUs then m.cleanup g k else g

/-- The mass-storage function is there, with the default attributes of its LUN. -/
def withFunction (g : Option Gadget) (linked : Bool) : Option Gadget :=
  (Gadget.makeLun g).map fun g =>
    { g with
      linked := g.linked || linked
      lun := g.lun.map fun l => { l with attributes := fun a => a == .removable || a == .nofua } }

/-- `setup` from the creation of the gadget's directory on. -/
def create (g : Option Gadget) : Creation → OtgGadgetManager × Option Gadget × Option AppError
  | .nothing e => (m, g, some e)
  | .gadget e => ({ m with createdByUs := true }, some (g.getD {}), some e)
  | .function e =>
    ({ m with createdByUs := true },
      if m.hasMsd then withFunction g false else some (g.getD {}), some e)
  | .all =>
    ({ m with createdByUs := true },
      if m.hasMsd then withFunction g true else some (g.getD {}), none)

/-- Bind gadget to a specific UDC, after its links have been made anew. -/
def bind (udc : String) (g : Gadget) (k : BindAnswers) : Gadget × Option AppError :=
  let g := { g with linked := g.lun.isSome && k.relinked }
  match k.fails with
  | none => ({ g with udc := some udc }, none)
  | some e => ({ g with udc := if k.stays then g.udc else none }, some e)

/-! ### Backing files -/

variable {m} {g : Option Gadget}

theorem file_cleanedLun {lun : Option Lun} (h : lun.bind (·.file) = none) (k : CleanupAnswers) :
    (m.cleanedLun lun k).bind (·.file) = none := by
  unfold cleanedLun
  split
  · exact h
  · split
    · rfl
    · cases lun with
      | none => rfl
      | some l =>
        have hfile : l.file = none := h
        cases hejected : k.ejected <;> simp [hfile]

theorem lunFile_cleanup (h : Gadget.lunFile g = none) (k : CleanupAnswers) :
    Gadget.lunFile (m.cleanup g k) = none := by
  cases g with
  | none => rfl
  | some g =>
    simp only [cleanup, Option.bind_some]
    split
    · rfl
    · exact file_cleanedLun h k

/-- A cleanup of which nothing succeeds leaves the gadget as it is. -/
theorem cleanup_idle {k : CleanupAnswers} (h : k.idle) : m.cleanup g k = g := by
  simp only [CleanupAnswers.idle, Bool.and_eq_true, Bool.not_eq_true'] at h
  obtain ⟨⟨⟨⟨hunbound, hunlinked⟩, hejected⟩, hfunction⟩, hremoved⟩ := h
  cases g with
  | none => rfl
  | some g => simp [cleanup, cleanedLun, hunbound, hunlinked, hejected, hfunction, hremoved]

theorem lunFile_drop (h : Gadget.lunFile g = none) (k : CleanupAnswers) :
    Gadget.lunFile (m.drop g k) = none := by
  unfold drop
  split
  · exact lunFile_cleanup h k
  · exact h

/-- A manager that did not create the gadget leaves it when it is dropped. -/
theorem drop_spared {k : CleanupAnswers} (h : (!m.createdByUs || k.idle) = true) :
    m.drop g k = g := by
  unfold drop
  split
  · rename_i hours
    rw [hours, Bool.not_true, Bool.false_or] at h
    exact cleanup_idle h
  · rfl

theorem lunFile_getD (g : Option Gadget) : Gadget.lunFile (some (g.getD {})) = Gadget.lunFile g := by
  cases g with
  | none => rfl
  | some g => rfl

theorem lunFile_withFunction (g : Option Gadget) (linked : Bool) :
    Gadget.lunFile (withFunction g linked) = Gadget.lunFile g := by
  rw [← Gadget.lunFile_makeLun g]
  cases g with
  | none => rfl
  | some g => rfl

theorem lunFile_create (c : Creation) : Gadget.lunFile (m.create g c).2.1 = Gadget.lunFile g := by
  cases c with
  | nothing e => rfl
  | gadget e => exact lunFile_getD g
  | function e =>
    show Gadget.lunFile (if m.hasMsd then withFunction g false else some (g.getD {})) = _
    split
    · exact lunFile_withFunction g false
    · exact lunFile_getD g
  | all =>
    show Gadget.lunFile (if m.hasMsd then withFunction g true else some (g.getD {})) = _
    split
    · exact lunFile_withFunction g true
    · exact lunFile_getD g

/-- A gadget that the host sees is not taken from it by `create`. -/
theorem exposed_create (h : Gadget.exposed g) (c : Creation) :
    Gadget.exposed (m.create g c).2.1 := by
  cases g with
  | none => cases h
  | some g =>
    have hboth : (g.udc.isSome && g.linked) = true := h
    obtain ⟨hudc, hlinked⟩ := (Bool.and_eq_true _ _).mp hboth
    have hwith : ∀ linked, Gadget.exposed (withFunction (some g) linked) = true := by
      intro linked
      simp [Gadget.exposed, withFunction, Gadget.makeLun, hudc, hlinked]
    cases c with
    | nothing e => exact h
    | gadget e => exact h
    | function e =>
      show Gadget.exposed (if m.hasMsd then withFunction (some g) false else some g) = true
      split
      · exact hwith false
      · exact h
    | all =>
      show Gadget.exposed (if m.hasMsd then withFunction (some g) true else some g) = true
      split
      · exact hwith true
      · exact h

theorem lun_bind (udc : String) (g : Gadget) (k : BindAnswers) : (bind udc g k).1.lun = g.lun := by
  unfold bind
  split
  · rfl
  · rfl

/-- A gadget with a LUN that is bound with its links is seen by the host. -/
theorem exposed_bind {udc : String} {g : Gadget} {k : BindAnswers} (hlun : g.lun.isSome)
    (hlinked : k.relinked) (hfails : k.fails = none) :
    Gadget.exposed (some (bind udc g k).1) := by
  simp [Gadget.exposed, bind, hlun, hlinked, hfails]

end OtgGadgetManager

end StreamBox.Otg
