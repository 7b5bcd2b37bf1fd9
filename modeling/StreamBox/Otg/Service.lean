import StreamBox.Otg.Gadget

/-!
# The OTG service

`reconcile_gadget`, from one await to the next: it tears the gadget down and builds the one that
is asked for. Nothing keeps two reconciles apart.

* **Backing files** — `next_unbacked`: no step of a reconcile gives the LUN a file.
* **Spared files** — `next_backed`: a step that `spares` the gadget leaves the LUN its file, and
  the host sees it, or will once the gadget under way is bound.
-/

namespace StreamBox.Otg

open StreamBox.Config.Sections (AppError OtgDesiredState OtgHidFunctions GadgetDescriptor)

structure OtgServiceState where
  gadgetActive : Bool := false
  hidEnabled : Bool := false
  msdEnabled : Bool := false
  configuredUdc : Option String := none
  hidFunctions : Option OtgHidFunctions := none
  keyboardLedsEnabled : Bool := false
  maxEndpoints : Nat := 0
  descriptor : Option GadgetDescriptor := none
  error : Option String := none
  deriving DecidableEq, Repr

namespace OtgServiceState

/-- The gadget already matches the desired state. -/
def alreadyMatches (s : OtgServiceState) (d : OtgDesiredState) : Bool :=
  s.gadgetActive && s.hidEnabled == d.hidFunctions.isSome && s.msdEnabled == d.msdEnabled &&
    s.configuredUdc == d.udc && s.hidFunctions == d.hidFunctions &&
    s.keyboardLedsEnabled == d.keyboardLeds && s.maxEndpoints == d.maxEndpoints &&
    s.descriptor == some d.descriptor

/-- The state once the old gadget is gone. -/
def cleared : OtgServiceState := { maxEndpoints := 16 }

def applied (d : OtgDesiredState) (udc : String) : OtgServiceState where
  gadgetActive := true
  hidEnabled := d.hidFunctions.isSome
  msdEnabled := d.msdEnabled
  configuredUdc := some udc
  hidFunctions := d.hidFunctions
  keyboardLedsEnabled := d.keyboardLeds
  maxEndpoints := d.maxEndpoints
  descriptor := some d.descriptor

/-- A gadget that has been set up for a desired state matches it. -/
theorem applied_alreadyMatches {d : OtgDesiredState} {udc : String} (h : d.udc = some udc) :
    (applied d udc).alreadyMatches d := by
  simp [alreadyMatches, applied, h]

end OtgServiceState

def defaultDesired : OtgDesiredState where
  udc := none
  descriptor := ⟨0x1d6b, 0x0104, "One-KVM", "One-KVM USB Device", "0123456789"⟩
  hidFunctions := none
  keyboardLeds := false
  msdEnabled := false
  maxEndpoints := 16

structure OtgService where
  manager : Option OtgGadgetManager := none
  state : OtgServiceState := {}
  /-- The handle of the mass-storage function is there. -/
  msdFunction : Bool := false
  desired : OtgDesiredState := defaultDesired
  deriving DecidableEq, Repr

/-- The service, and the directory that it manages. -/
structure OtgSystem where
  gadget : Option Gadget := none
  service : OtgService := {}

structure GadgetAnswers where
  /-- ConfigFS is mounted. -/
  configfs : Bool := true
  cleanup : CleanupAnswers := {}
  creation : Creation := .all
  bind : BindAnswers := {}
  deriving DecidableEq, Repr

inductive ReconcileStage
  | store (desired : OtgDesiredState)
  | read
  | compare (desired : OtgDesiredState)
  | takeManager (desired : OtgDesiredState)
  | clearFunction (desired : OtgDesiredState)
  | resetState (desired : OtgDesiredState)
  | prepare (desired : OtgDesiredState)
  | create (desired : OtgDesiredState) (m : OtgGadgetManager) (udc : String)
  /-- The setup has failed. -/
  | dropManager (m : OtgGadgetManager) (error : AppError)
  | bind (desired : OtgDesiredState) (m : OtgGadgetManager) (udc : String)
  /-- The bind has failed. -/
  | cleanUp (m : OtgGadgetManager) (error : AppError)
  | publishManager (desired : OtgDesiredState) (m : OtgGadgetManager) (udc : String)
  | publishFunction (desired : OtgDesiredState) (udc : String)
  | publishState (desired : OtgDesiredState) (udc : String)
  | returned (result : Except AppError Unit)
  | abandoned
  deriving DecidableEq

/-- The manager of the wanted functions, and the controller that it is to be bound to. -/
def prepare (d : OtgDesiredState) (configfs : Bool) :
    Except String (OtgGadgetManager × String) :=
  if !configfs then .error "OTG not available: ConfigFS not mounted"
  else
    match d.udc with
    | none => .error "OTG not available: no UDC found"
    | some udc => (addFunctions { maxEndpoints := d.maxEndpoints }).map (·, udc)
where
  addFunctions (m : OtgGadgetManager) : Except String OtgGadgetManager :=
    (GadgetFunction.wanted d).foldlM
      (fun m f => (m.addFunction f).mapError fun e =>
        "Failed to add " ++ f.label ++ " function: " ++ e.display) m

/-- What the write of `UDC` says where there is no gadget. -/
def gadgetGone : AppError :=
  .internal ("Failed to open /sys/kernel/config/usb_gadget/one-kvm/UDC: " ++
    "No such file or directory (os error 2)")

namespace OtgSystem

variable (o : OtgSystem)

def noteError (error : String) : OtgSystem :=
  { o with service := { o.service with state := { o.service.state with error := some error } } }

/-- The setup is over. -/
def setUp (d : OtgDesiredState) (udc : String) :
    OtgGadgetManager × Option Gadget × Option AppError → OtgSystem × ReconcileStage
  | (m, gadget, none) => ({ o with gadget }, .bind d m udc)
  | (m, gadget, some e) =>
    let error := "Failed to setup gadget: " ++ e.display
    (noteError { o with gadget } error, .dropManager m (.internal error))

/-- The write of `UDC` is over. -/
def bound (d : OtgDesiredState) (m : OtgGadgetManager) (udc : String) :
    Option Gadget × Option AppError → OtgSystem × ReconcileStage
  | (gadget, none) => ({ o with gadget }, .publishManager d m udc)
  | (gadget, some e) =>
    let error := "Failed to bind gadget to UDC " ++ udc ++ ": " ++ e.display
    (noteError { o with gadget } error, .cleanUp m (.internal error))

/-- A reconcile goes on to its next await. -/
def next (k : GadgetAnswers) : ReconcileStage → OtgSystem × ReconcileStage
  | .store d => ({ o with service := { o.service with desired := d } }, .read)
  | .read => (o, .compare o.service.desired)
  | .compare d =>
    if o.service.state.alreadyMatches d then (o, .returned (.ok ())) else (o, .takeManager d)
  | .takeManager d =>
    match o.service.manager with
    | none => (o, .clearFunction d)
    | some m =>
      ({ gadget := m.cleanup o.gadget k.cleanup, service := { o.service with manager := none } },
        .clearFunction d)
  | .clearFunction d =>
    ({ o with service := { o.service with msdFunction := false } }, .resetState d)
  | .resetState d =>
    ({ o with service := { o.service with state := .cleared } },
      if d.isEmpty then .returned (.ok ()) else .prepare d)
  | .prepare d =>
    match StreamBox.Otg.prepare d k.configfs with
    | .error e =>
      -- the missing controller is the one error that the state does not show
      (if k.configfs && d.udc.isNone then o else o.noteError e, .returned (.error (.internal e)))
    | .ok (m, udc) =>
      if Gadget.isBound o.gadget then (o, .bind d m udc)
      else ({ o with gadget := m.cleanup o.gadget k.cleanup }, .create d m udc)
  | .create d m udc => o.setUp d udc (m.create o.gadget k.creation)
  | .dropManager m e => ({ o with gadget := m.drop o.gadget k.cleanup }, .returned (.error e))
  | .bind d m udc =>
    o.bound d m udc
      (match o.gadget with
        | none => (none, some gadgetGone)
        | some g => Prod.map some id (OtgGadgetManager.bind udc g k.bind))
  | .cleanUp m e => ({ o with gadget := m.cleanup o.gadget k.cleanup }, .returned (.error e))
  | .publishManager d m udc =>
    -- a manager that another reconcile has published meanwhile is dropped
    ({ gadget := o.service.manager.elim o.gadget fun old => old.drop o.gadget k.cleanup
       service := { o.service with manager := some m } }, .publishFunction d udc)
  | .publishFunction d udc =>
    ({ o with service := { o.service with msdFunction := d.msdEnabled } }, .publishState d udc)
  | .publishState d udc =>
    ({ o with service := { o.service with state := .applied d udc } }, .returned (.ok ()))
  | .returned result => (o, .returned result)
  | .abandoned => (o, .abandoned)

/-- The client of a reconcile is gone and the call is dropped at an await, and with it the manager
that it holds. -/
def abandon (k : GadgetAnswers) : ReconcileStage → Option (OtgSystem × ReconcileStage)
  | .prepare _ | .create .. | .bind .. | .returned _ | .abandoned => none
  | .dropManager m _ | .cleanUp m _ | .publishManager _ m _ =>
    some ({ o with gadget := m.drop o.gadget k.cleanup }, .abandoned)
  | _ => some (o, .abandoned)

end OtgSystem

namespace ReconcileStage

def isOver : ReconcileStage → Bool
  | .returned _ | .abandoned => true
  | _ => false

/-- The gadget of this reconcile is still to be bound. -/
def isBinding : ReconcileStage → Bool
  | .create .. | .bind .. => true
  | _ => false

/-- The next step of the reconcile tears nothing down, and what it builds is bound with its
links. -/
def spares (o : OtgSystem) (k : GadgetAnswers) : ReconcileStage → Bool
  | .takeManager _ => o.service.manager.isNone || k.cleanup.idle
  | .prepare d =>
    !(StreamBox.Otg.prepare d k.configfs).isOk || Gadget.isBound o.gadget || k.cleanup.idle
  | .create .. => k.creation = .all
  | .dropManager m _ => !m.createdByUs || k.cleanup.idle
  | .bind .. => k.bind.relinked && k.bind.fails.isNone
  | .cleanUp .. => k.cleanup.idle
  | .publishManager .. => o.service.manager.all (fun old => !old.createdByUs) || k.cleanup.idle
  | _ => true

/-- The manager that the reconcile holds takes nothing with it when it is dropped. -/
def sparesDropped (k : GadgetAnswers) : ReconcileStage → Bool
  | .dropManager m _ | .cleanUp m _ | .publishManager _ m _ => !m.createdByUs || k.cleanup.idle
  | _ => true

theorem not_binding_of_over {r : ReconcileStage} (h : r.isOver) : r.isBinding = false := by
  cases r with
  | returned | abandoned => rfl
  | _ => cases h

end ReconcileStage

namespace OtgSystem

open OtgGadgetManager (lunFile_cleanup lunFile_drop lunFile_create cleanup_idle drop_spared
  exposed_create lun_bind exposed_bind)

variable {o : OtgSystem}

theorem setUp_gadget (d : OtgDesiredState) (udc : String)
    (result : OtgGadgetManager × Option Gadget × Option AppError) :
    (o.setUp d udc result).1.gadget = result.2.1 := by
  obtain ⟨m, gadget, failed⟩ := result
  cases failed with
  | none => rfl
  | some e => rfl

theorem bound_gadget (d : OtgDesiredState) (m : OtgGadgetManager) (udc : String)
    (result : Option Gadget × Option AppError) :
    (o.bound d m udc result).1.gadget = result.1 := by
  obtain ⟨gadget, failed⟩ := result
  cases failed with
  | none => rfl
  | some e => rfl

/-- No step of a reconcile gives the LUN a file. -/
theorem next_unbacked (h : Gadget.lunFile o.gadget = none) (k : GadgetAnswers)
    (r : ReconcileStage) : Gadget.lunFile (o.next k r).1.gadget = none := by
  cases r with
  | store | read | clearFunction | resetState | publishFunction | publishState | returned | abandoned =>
    exact h
  | compare d =>
    dsimp only [next]
    split
    · exact h
    · exact h
  | takeManager d =>
    dsimp only [next]
    split
    · exact h
    · exact lunFile_cleanup h k.cleanup
  | prepare d =>
    dsimp only [next]
    split
    · split
      · exact h
      · exact h
    · split
      · exact h
      · exact lunFile_cleanup h k.cleanup
  | create d m udc =>
    show Gadget.lunFile (o.setUp d udc _).1.gadget = none
    rw [setUp_gadget, lunFile_create, h]
  | dropManager m e => exact lunFile_drop h k.cleanup
  | bind d m udc =>
    show Gadget.lunFile (o.bound d m udc _).1.gadget = none
    rw [bound_gadget]
    split
    · rfl
    · rename_i g hg
      rw [hg] at h
      show (OtgGadgetManager.bind udc g k.bind).1.lun.bind (·.file) = none
      rw [lun_bind]
      exact h
  | cleanUp m e => exact lunFile_cleanup h k.cleanup
  | publishManager d m udc =>
    show Gadget.lunFile (o.service.manager.elim o.gadget _) = none
    cases o.service.manager with
    | none => exact h
    | some old => exact lunFile_drop h k.cleanup

/-- The LUN holds a file that the host sees, or will once the gadget under way is bound. -/
structure Backed (o o' : OtgSystem) (r r' : ReconcileStage) (path : String) : Prop where
  file : Gadget.lunFile o'.gadget = some path
  exposed : Gadget.exposed o.gadget → Gadget.exposed o'.gadget
  binding : r.isBinding → Gadget.exposed o'.gadget ∨ r'.isBinding

theorem Backed.of_same {o' : OtgSystem} {r r' : ReconcileStage} {path : String}
    (h : Gadget.lunFile o.gadget = some path) (hsame : o'.gadget = o.gadget)
    (hr : r.isBinding = false) : Backed o o' r r' path :=
  ⟨hsame ▸ h, fun hexposed => hsame ▸ hexposed, fun hbinding => by
    rw [hr] at hbinding
    cases hbinding⟩

/-- A step that spares the gadget leaves the LUN its file. -/
theorem next_backed {path : String} {k : GadgetAnswers} {r : ReconcileStage}
    (h : Gadget.lunFile o.gadget = some path) (hspares : r.spares o k) :
    Backed o (o.next k r).1 r (o.next k r).2 path := by
  have hidle : ∀ m : OtgGadgetManager, k.cleanup.idle → m.cleanup o.gadget k.cleanup = o.gadget :=
    fun m hidle => cleanup_idle hidle
  cases r with
  | store | read | clearFunction | resetState | publishFunction | publishState | returned | abandoned =>
    exact .of_same h rfl rfl
  | compare d =>
    refine .of_same h ?_ rfl
    dsimp only [next]
    split
    · rfl
    · rfl
  | takeManager d =>
    refine .of_same h ?_ rfl
    cases hm : o.service.manager with
    | none => simp only [next, hm]
    | some m =>
      have hk : k.cleanup.idle = true := by simpa [ReconcileStage.spares, hm] using hspares
      simp only [next, hm]
      exact hidle m hk
  | prepare d =>
    refine .of_same h ?_ rfl
    have hspares : (!(StreamBox.Otg.prepare d k.configfs).isOk || Gadget.isBound o.gadget ||
      k.cleanup.idle) = true := hspares
    dsimp only [next]
    split
    · split
      · rfl
      · rfl
    · rename_i m udc hprepare
      split
      · rfl
      · rename_i hbound
        rw [Bool.not_eq_true] at hbound
        rw [hprepare, hbound] at hspares
        exact hidle m hspares
  | create d m udc =>
    have hall : k.creation = .all := of_decide_eq_true hspares
    have hgadget : (o.next k (.create d m udc)).1.gadget = (m.create o.gadget .all).2.1 := by
      show (o.setUp d udc (m.create o.gadget k.creation)).1.gadget = _
      rw [setUp_gadget, hall]
    refine ⟨?_, fun hexposed => ?_, fun _ => .inr ?_⟩
    · rw [hgadget, lunFile_create, h]
    · rw [hgadget]
      exact exposed_create hexposed .all
    · show (o.setUp d udc (m.create o.gadget k.creation)).2.isBinding = true
      rw [hall]
      rfl
  | dropManager m e => exact .of_same h (drop_spared hspares) rfl
  | bind d m udc =>
    have hspares : (k.bind.relinked && k.bind.fails.isNone) = true := hspares
    obtain ⟨hlinked, hfails⟩ := (Bool.and_eq_true _ _).mp hspares
    cases hg : o.gadget with
    | none =>
      rw [hg] at h
      cases h
    | some g =>
      rw [hg] at h
      have hgadget : (o.next k (.bind d m udc)).1.gadget
          = some (OtgGadgetManager.bind udc g k.bind).1 := by
        show (o.bound d m udc _).1.gadget = _
        rw [bound_gadget, hg]
        rfl
      have hlun : g.lun.isSome := by
        cases hl : g.lun with
        | none => simp [Gadget.lunFile, Gadget.lun?, hl] at h
        | some l => rfl
      have hexposed : Gadget.exposed (some (OtgGadgetManager.bind udc g k.bind).1) :=
        exposed_bind hlun hlinked (Option.isNone_iff_eq_none.mp hfails)
      refine ⟨?_, fun _ => hgadget ▸ hexposed, fun _ => .inl (hgadget ▸ hexposed)⟩
      rw [hgadget]
      show (OtgGadgetManager.bind udc g k.bind).1.lun.bind (·.file) = some path
      rw [lun_bind]
      exact h
  | cleanUp m e => exact .of_same h (hidle m hspares) rfl
  | publishManager d m udc =>
    refine .of_same h ?_ rfl
    have hspares : (o.service.manager.all (fun old => !old.createdByUs) || k.cleanup.idle) = true :=
      hspares
    show o.service.manager.elim o.gadget _ = o.gadget
    cases hm : o.service.manager with
    | none => rfl
    | some old =>
      rw [hm] at hspares
      exact drop_spared hspares

theorem abandon_unbacked {o' : OtgSystem} {r r' : ReconcileStage} {k : GadgetAnswers}
    (h : Gadget.lunFile o.gadget = none) (hr : o.abandon k r = some (o', r')) :
    Gadget.lunFile o'.gadget = none := by
  cases r with
  | prepare | create | bind | returned | abandoned => cases hr
  | dropManager | cleanUp | publishManager =>
    cases hr
    exact lunFile_drop h k.cleanup
  | _ =>
    cases hr
    exact h

theorem abandon_backed {o' : OtgSystem} {r r' : ReconcileStage} {k : GadgetAnswers} {path : String}
    (h : Gadget.lunFile o.gadget = some path) (hspares : r.sparesDropped k)
    (hr : o.abandon k r = some (o', r')) : Backed o o' r r' path := by
  cases r with
  | prepare | create | bind | returned | abandoned => cases hr
  | dropManager | cleanUp | publishManager =>
    cases hr
    exact .of_same h (drop_spared hspares) rfl
  | _ =>
    cases hr
    exact .of_same h rfl rfl

end OtgSystem

end StreamBox.Otg
