import StreamBox.Msd.Controller

/-!
# The controller and the LUN

What the controller reports as connected against what the gadget shows to the host.

* **Agreement** — `agreed`: in a run whose steps are `safe`, whenever no call is in progress the
  bound gadget has the file that the controller reports, and none when it reports none.
* **Steps** — `inv_step`, from one lemma for each party: `inv_reconciled`, `inv_connect`,
  `inv_disconnect`, `inv_orphan`.
* **Failure** — `hid_change_ejects`: a change of the HID functions takes the LUN's file away from
  a connected image.
-/

namespace StreamBox.Msd

open StreamBox.Lib StreamBox.Otg
open StreamBox.Config.Sections (AppError OtgDesiredState)

/-- The file that the LUN is to have while a call holds the operation lock. A disconnect that has
not yet taken the file off the LUN expects nothing. -/
def Operation.expected (drivePath : String) : Operation → Option (Option String)
  | .connect request (.lun (.returned (.ok ()))) => some (some (request.config drivePath).file)
  | .connect _ _ => some none
  | .disconnect (.ejected (.ok ())) _ => some none
  | .disconnect _ _ => none

theorem Operation.expected_connect {drivePath : String} {request : Request} {stage : ConnectStage}
    (h : stage ≠ .lun (.returned (.ok ()))) :
    (Operation.connect request stage).expected drivePath = some none := by
  cases stage with
  | path | handle => rfl
  | lun stage =>
    cases stage with
    | returned result =>
      cases result with
      | ok => exact absurd rfl h
      | error e => rfl
    | _ => rfl

namespace MsdSystem

/-- No call is in progress. -/
def quiet (s : MsdSystem) : Bool :=
  s.operation.isNone && s.calls.all (·.isOver) && s.reconciles.all (·.isOver) &&
    s.orphans.all (·.isOver)

/-- The controller reports what the bound gadget shows to the host. -/
structure Agrees (s : MsdSystem) : Prop where
  connected : s.controller.state.connected = true → ∃ path, s.controller.backing = some path ∧
    Gadget.exposed s.otg.gadget = true ∧ Gadget.lunFile s.otg.gadget = some path
  disconnected : s.controller.state.connected = false → Gadget.isBound s.otg.gadget = true →
    Gadget.lunFile s.otg.gadget = none

/-! ## Safe steps -/

/-- The host sees the LUN, or will once a gadget under way is bound. -/
def ready (s : MsdSystem) : Bool :=
  Gadget.exposed s.otg.gadget || s.reconciles.any (·.isBinding)

/-- The LUN holds the file that the controller reports. -/
def kept (s : MsdSystem) : Bool :=
  s.controller.backing.isSome && s.controller.backing == Gadget.lunFile s.otg.gadget && s.ready

def unbacked (s : MsdSystem) : Bool := (Gadget.lunFile s.otg.gadget).isNone

/-- The file that the LUN is to have. -/
def expected (s : MsdSystem) : Option (Option String) :=
  match s.operation with
  | none => some s.controller.backing
  | some op => op.expected s.controller.drivePath

/-- A disconnect is about to take the file off the LUN. -/
def disconnecting (s : MsdSystem) : Bool := s.expected.isNone

/-- What the call that holds the operation lock needs for its next step. -/
def safeOperation (s : MsdSystem) (k : LunAnswers) : Operation → Bool
  | .connect _ (.lun .checkFile) => k.present
  | .connect _ (.lun stage) => !Gadget.writes s.otg.gadget k stage || s.ready
  | .disconnect .path _ => s.otg.service.manager.isSome || s.kept
  | .disconnect .handle _ => s.controller.msdFunction || s.unbacked
  | .disconnect (.ejected (.error _)) _ => s.kept
  | _ => true

/-- What it needs when it is dropped. -/
def safeDropped (s : MsdSystem) : Operation → Bool
  | .connect _ (.lun (.returned (.ok ()))) => false
  | .disconnect _ _ => s.kept
  | _ => true

def safeOrphan (s : MsdSystem) (k : LunAnswers) : Orphan → Bool
  | .configure _ .eject | .disconnect => s.unbacked || s.disconnecting
  | .configure _ stage => !Gadget.writes s.otg.gadget k stage || s.disconnecting
  | .finished => true

/-- A step that leaves a connected image on the LUN. Nothing tears the gadget down under it, and
what the LUN gets is recorded. -/
def safe (s : MsdSystem) : MsdEvent → Bool
  | .reconcile i k =>
    s.unbacked || s.disconnecting || s.reconciles[i]?.all (·.spares s.otg k)
  | .abandonReconcile i k =>
    s.unbacked || s.disconnecting || s.reconciles[i]?.all (·.sparesDropped k)
  | .operate k => s.operation.all (s.safeOperation k)
  | .abandon => s.operation.all s.safeDropped
  | .orphan i k => s.orphans[i]?.all (s.safeOrphan k)
  | _ => true

/-! ## The invariant -/

/-- The LUN has the file, and the host sees it or will. -/
structure Met (s : MsdSystem) (file : Option String) : Prop where
  found : Gadget.lunFile s.otg.gadget = file
  ready : file.isSome = true → s.ready = true

structure Inv (s : MsdSystem) : Prop where
  met : ∀ file, s.expected = some file → s.Met file
  reports : s.controller.state.connected = true → s.controller.backing.isSome = true
  connecting : ∀ request stage, s.operation = some (.connect request stage) →
    s.controller.state.connected = false

section

variable {s t : MsdSystem}

theorem met_none (h : Gadget.lunFile s.otg.gadget = none) : s.Met none :=
  ⟨h, fun hsome => by cases hsome⟩

theorem met_of_kept (h : s.kept = true) : s.Met s.controller.backing := by
  unfold kept at h
  rw [Bool.and_eq_true, Bool.and_eq_true, beq_iff_eq] at h
  exact ⟨h.1.2.symm, fun _ => h.2⟩

theorem unbacked_iff : s.unbacked = true ↔ Gadget.lunFile s.otg.gadget = none :=
  Option.isNone_iff_eq_none

theorem backing_of_not_connected (h : s.controller.state.connected = false) :
    s.controller.backing = none := by
  unfold MsdController.backing
  rw [h]
  rfl

/-- A step that keeps the lock and what the controller reports. -/
theorem Inv.of_frame (h : s.Inv) (hop : t.operation = s.operation)
    (hconnected : t.controller.state.connected = s.controller.state.connected)
    (hbacking : t.controller.backing = s.controller.backing)
    (hdrive : t.controller.drivePath = s.controller.drivePath)
    (hmet : s.disconnecting = false → ∀ file, s.Met file → t.Met file) : t.Inv := by
  have hexpected : t.expected = s.expected := by
    unfold expected
    rw [hop, hbacking, hdrive]
  refine ⟨fun file hfile => ?_, fun hyes => ?_, fun request stage hstage => ?_⟩
  · rw [hexpected] at hfile
    have hnot : s.disconnecting = false := by
      unfold disconnecting
      rw [hfile]
      rfl
    exact hmet hnot file (h.met file hfile)
  · rw [hbacking]
    exact h.reports (hconnected ▸ hyes)
  · rw [hconnected]
    exact h.connecting request stage (hop ▸ hstage)

/-! ### Reconciles -/

/-- A reconcile gives the LUN no file, and leaves it the one that it has if it is safe. -/
theorem inv_reconciled (h : s.Inv) {i : Nat} {r r' : ReconcileStage} {otg : OtgSystem}
    (hi : s.reconciles[i]? = some r)
    (hunbacked : Gadget.lunFile s.otg.gadget = none → Gadget.lunFile otg.gadget = none)
    (hbacked : s.unbacked = false → s.disconnecting = false →
      ∀ path, Gadget.lunFile s.otg.gadget = some path → OtgSystem.Backed s.otg otg r r' path) :
    (s.reconciled i (otg, r')).Inv := by
  refine h.of_frame rfl rfl rfl rfl fun hnot file hmet => ?_
  cases file with
  | none => exact met_none (hunbacked hmet.found)
  | some path =>
    have hnone : s.unbacked = false := by
      unfold unbacked
      rw [hmet.found]
      rfl
    obtain ⟨hfile, hexposed, hbinding⟩ := hbacked hnone hnot path hmet.found
    refine ⟨hfile, fun _ => ?_⟩
    show (Gadget.exposed otg.gadget || (s.reconciles.set i r').any (·.isBinding)) = true
    rw [Bool.or_eq_true]
    rcases (Bool.or_eq_true _ _).mp (hmet.ready rfl) with hseen | hany
    · exact .inl (hexposed hseen)
    · obtain ⟨q, hq, hqbinding⟩ := List.any_eq_true.mp hany
      obtain ⟨j, hj⟩ := List.mem_iff_getElem?.mp hq
      have hlength : i < s.reconciles.length := (List.getElem?_eq_some_iff.mp hi).1
      by_cases hsame : i = j
      · -- the gadget under way is that of this reconcile
        subst hsame
        obtain rfl : r = q := Option.some.inj (hi.symm.trans hj)
        refine (hbinding hqbinding).imp_right fun hr' => ?_
        exact List.any_eq_true.mpr ⟨r', List.mem_set hlength r', hr'⟩
      · refine .inr (List.any_eq_true.mpr ⟨q, ?_, hqbinding⟩)
        exact List.mem_of_getElem? ((List.getElem?_set_ne hsame).trans hj)

/-! ### The call that holds the lock -/

theorem expected_of_idle (hop : t.operation = none) : t.expected = some t.controller.backing := by
  unfold expected
  rw [hop]

theorem expected_of_running {op : Operation} (hop : t.operation = some op) :
    t.expected = op.expected t.controller.drivePath := by
  unfold expected
  rw [hop]

/-- No call holds the lock any more. -/
theorem Inv.of_idle (hop : t.operation = none) (hmet : t.Met t.controller.backing)
    (hreports : t.controller.state.connected = true → t.controller.backing.isSome = true) :
    t.Inv := by
  refine ⟨fun file hfile => ?_, hreports, fun request stage hstage => ?_⟩
  · obtain rfl : t.controller.backing = file :=
      Option.some.inj ((expected_of_idle hop).symm.trans hfile)
    exact hmet
  · rw [hop] at hstage
    cases hstage

/-- A call has ended without a file on the LUN, and none is reported. -/
theorem Inv.of_none (hop : t.operation = none) (hfile : Gadget.lunFile t.otg.gadget = none)
    (hconnected : t.controller.state.connected = false) : t.Inv := by
  refine .of_idle hop ?_ fun hyes => ?_
  · rw [backing_of_not_connected hconnected]
    exact met_none hfile
  · rw [hconnected] at hyes
    cases hyes

/-- A connect holds the lock. -/
theorem Inv.of_connecting {request : Request} {stage : ConnectStage}
    (hop : t.operation = some (.connect request stage))
    (hmet : ∀ file, (Operation.connect request stage).expected t.controller.drivePath = some file →
      t.Met file)
    (hconnected : t.controller.state.connected = false) : t.Inv := by
  refine ⟨fun file hfile => ?_, fun hyes => ?_, fun _ _ _ => hconnected⟩
  · rw [expected_of_running hop] at hfile
    exact hmet file hfile
  · rw [hconnected] at hyes
    cases hyes

/-- A connect holds the lock, and has put nothing on the LUN. -/
theorem Inv.of_preparing {request : Request} {stage : ConnectStage}
    (hop : t.operation = some (.connect request stage))
    (hfile : Gadget.lunFile t.otg.gadget = none) (hstage : stage ≠ .lun (.returned (.ok ())))
    (hconnected : t.controller.state.connected = false) : t.Inv := by
  refine .of_connecting hop (fun file hexpected => ?_) hconnected
  obtain rfl : none = file :=
    Option.some.inj ((Operation.expected_connect hstage).symm.trans hexpected)
  exact met_none hfile

/-- A disconnect holds the lock. -/
theorem Inv.of_disconnect {stage : DisconnectStage} {shutdown : Bool}
    (hop : t.operation = some (.disconnect stage shutdown))
    (hfile : stage = .ejected (.ok ()) → Gadget.lunFile t.otg.gadget = none)
    (hreports : t.controller.state.connected = true → t.controller.backing.isSome = true) :
    t.Inv := by
  refine ⟨fun file hexpected => ?_, hreports, fun request stage' hstage => ?_⟩
  · rw [expected_of_running hop] at hexpected
    cases stage with
    | ejected result =>
      cases result with
      | ok =>
        cases hexpected
        exact met_none (hfile rfl)
      | error e => cases hexpected
    | _ => cases hexpected
  · rw [hop] at hstage
    cases hstage

/-- Before its file is on the LUN, a connect finds none there. -/
theorem Inv.lunFile_connect (h : s.Inv) {request : Request} {stage : ConnectStage}
    (hop : s.operation = some (.connect request stage)) (hstage : stage ≠ .lun (.returned (.ok ()))) :
    Gadget.lunFile s.otg.gadget = none :=
  (h.met none ((expected_of_running hop).trans (Operation.expected_connect hstage))).found

theorem inv_answer (h : s.Inv) (result : Except AppError Unit) : (s.answer result).Inv :=
  h.of_frame rfl rfl rfl rfl fun _ _ hmet => ⟨hmet.found, hmet.ready⟩

theorem inv_connect (h : s.Inv) (hop : s.operation = none) (request : Request) (present : Bool) :
    (s.connect request present).Inv := by
  unfold connect
  split
  · exact inv_answer h _
  · split
    · exact inv_answer h _
    · rename_i hconnected
      rw [Bool.not_eq_true] at hconnected
      split
      · exact inv_answer h _
      · have hmet := h.met _ (expected_of_idle hop)
        rw [backing_of_not_connected hconnected] at hmet
        exact .of_preparing rfl hmet.found (by intro heq; cases heq) hconnected

/-- A file operation of a connect. -/
theorem inv_configured (h : s.Inv) {request : Request} {stage : LunStage} {k : LunAnswers}
    (hop : s.operation = some (.connect request (.lun stage)))
    (hstage : stage ≠ .returned (.ok ()))
    (hsafe : s.safeOperation k (.connect request (.lun stage)) = true) :
    (s.configured request
      (Gadget.configureLun (request.config s.controller.drivePath) s.otg.gadget k stage)).Inv := by
  have hconnected := h.connecting request _ hop
  have hfile := h.lunFile_connect hop fun heq => hstage (ConnectStage.lun.inj heq)
  cases hwrites : Gadget.writes s.otg.gadget k stage with
  | true =>
    rw [Gadget.configureLun_of_writes hwrites]
    refine .of_connecting rfl (fun file hexpected => ?_) hconnected
    cases hexpected
    cases stage with
    | file attempt =>
      have hboth : ((Gadget.lun? s.otg.gadget).isSome && k.written) = true := hwrites
      have hsafe : (!Gadget.writes s.otg.gadget k (.file attempt) || s.ready) = true := hsafe
      rw [hwrites, Bool.not_true, Bool.false_or] at hsafe
      refine ⟨Gadget.lunFile_setFile ((Bool.and_eq_true _ _).mp hboth).1 _, fun _ => ?_⟩
      show (Gadget.exposed (Gadget.setFile _ s.otg.gadget) || s.reconciles.any _) = true
      rw [show Gadget.exposed (Gadget.setFile _ s.otg.gadget) = _ from Gadget.exposed_mapLun _ _]
      exact hsafe
    | _ => cases hwrites
  | false =>
    refine .of_preparing rfl (Gadget.lunFile_configureLun hfile hwrites) (fun heq => ?_) hconnected
    rcases Gadget.configureLun_ok (ConnectStage.lun.inj heq) with hyes | ⟨rfl, habsent⟩ | hover
    · rw [hwrites] at hyes
      cases hyes
    · have hpresent : k.present = true := hsafe
      rw [habsent] at hpresent
      cases hpresent
    · exact hstage hover

/-- A connect records what it has put on the LUN. -/
theorem backing_record (request : Request) :
    MsdController.backing { s.controller with state := request.record s.controller.state }
      = some (request.config s.controller.drivePath).file := by
  cases request with
  | image info cdrom readOnly => cases cdrom <;> rfl
  | drive => rfl

theorem inv_operateConnect (h : s.Inv) {request : Request} {stage : ConnectStage} {k : LunAnswers}
    (hop : s.operation = some (.connect request stage))
    (hsafe : s.safeOperation k (.connect request stage) = true) :
    (s.operateConnect k request stage).Inv := by
  have hconnected := h.connecting request stage hop
  cases stage with
  | path =>
    have hfile := h.lunFile_connect hop (by intro heq; cases heq)
    dsimp only [operateConnect]
    split
    · exact .of_none rfl hfile hconnected
    · exact .of_preparing rfl hfile (by intro heq; cases heq) hconnected
  | handle =>
    have hfile := h.lunFile_connect hop (by intro heq; cases heq)
    dsimp only [operateConnect]
    split
    · exact .of_preparing rfl hfile (by intro heq; cases heq) hconnected
    · exact .of_none rfl hfile hconnected
  | lun stage =>
    by_cases hrecord : stage = .returned (.ok ())
    · subst hrecord
      have hmet := h.met _ (expected_of_running hop)
      have hbacking : (s.operateConnect k request (.lun (.returned (.ok ())))).controller.backing
          = some (request.config s.controller.drivePath).file := backing_record request
      refine .of_idle rfl ?_ fun _ => ?_
      · rw [hbacking]
        exact ⟨hmet.found, hmet.ready⟩
      · rw [hbacking]
        rfl
    · cases stage with
      | returned result =>
        cases result with
        | ok => exact absurd rfl hrecord
        | error e =>
          exact .of_none rfl (h.lunFile_connect hop (by intro heq; cases heq)) hconnected
      | _ => exact inv_configured h hop hrecord hsafe

theorem inv_disconnectOver (hmet : s.Met s.controller.backing)
    (hreports : s.controller.state.connected = true → s.controller.backing.isSome = true)
    (shutdown : Bool) (result : Except AppError Unit) : (s.disconnectOver shutdown result).Inv := by
  unfold disconnectOver
  split
  · exact .of_idle rfl ⟨hmet.found, hmet.ready⟩ hreports
  · exact .of_idle rfl ⟨hmet.found, hmet.ready⟩ hreports

theorem inv_disconnect (h : s.Inv) (hop : s.operation = none) (shutdown : Bool) :
    (s.disconnect shutdown).Inv := by
  unfold disconnect
  split
  · exact inv_disconnectOver (h.met _ (expected_of_idle hop)) h.reports shutdown _
  · exact .of_disconnect rfl (fun heq => by cases heq) h.reports

theorem inv_operateDisconnect (h : s.Inv) {stage : DisconnectStage} {shutdown : Bool}
    {k : LunAnswers} (hop : s.operation = some (.disconnect stage shutdown))
    (hsafe : s.safeOperation k (.disconnect stage shutdown) = true) :
    (s.operateDisconnect k shutdown stage).Inv := by
  cases stage with
  | path =>
    have hsafe : (s.otg.service.manager.isSome || s.kept) = true := hsafe
    dsimp only [operateDisconnect]
    split
    · rename_i hmanager
      rw [hmanager, Option.isSome_none, Bool.false_or] at hsafe
      exact inv_disconnectOver (met_of_kept hsafe) h.reports shutdown _
    · exact .of_disconnect rfl (fun heq => by cases heq) h.reports
  | handle =>
    have hsafe : (s.controller.msdFunction || s.unbacked) = true := hsafe
    refine .of_disconnect rfl (fun heq => ?_) h.reports
    split at heq
    · cases heq
    · rename_i hhandle
      rw [Bool.not_eq_true] at hhandle
      rw [hhandle, Bool.false_or] at hsafe
      exact unbacked_iff.mp hsafe
  | lun =>
    dsimp only [operateDisconnect]
    split
    · rename_i gadget hgadget
      exact .of_disconnect rfl (fun _ => Gadget.lunFile_disconnectLun hgadget) h.reports
    · exact .of_disconnect rfl (fun heq => by cases heq) h.reports
  | ejected result =>
    cases result with
    | ok =>
      have hmet := h.met _ (expected_of_running hop)
      exact inv_disconnectOver (s := s.record s.controller.state.disconnected)
        ⟨hmet.found, hmet.ready⟩ (fun hyes => by cases hyes) shutdown _
    | error e => exact inv_disconnectOver (met_of_kept hsafe) h.reports shutdown _

theorem inv_abandon (h : s.Inv) {op : Operation} (hop : s.operation = some op)
    (hsafe : s.safeDropped op = true) : (s.abandon op).Inv := by
  cases op with
  | connect request stage =>
    refine .of_none rfl (h.lunFile_connect hop fun heq => ?_) (h.connecting request stage hop)
    subst heq
    cases hsafe
  | disconnect stage shutdown =>
    have hmet := met_of_kept (s := s) hsafe
    exact .of_idle rfl ⟨hmet.found, hmet.ready⟩ h.reports

/-! ### What goes on of dropped calls -/

theorem inv_orphan (h : s.Inv) {i : Nat} {o : Orphan} {k : LunAnswers}
    (hsafe : s.safeOrphan k o = true) : (s.orphanNext i k o).Inv := by
  cases o with
  | configure c stage =>
    refine h.of_frame rfl rfl rfl rfl fun hnot file hmet => ?_
    by_cases heject : stage = .eject
    · subst heject
      have hsafe : (s.unbacked || s.disconnecting) = true := hsafe
      rw [hnot, Bool.or_false] at hsafe
      have hfile := unbacked_iff.mp hsafe
      obtain rfl : none = file := hfile.symm.trans hmet.found
      exact met_none (Gadget.lunFile_configureLun hfile rfl)
    · have hsafe : (!Gadget.writes s.otg.gadget k stage || s.disconnecting) = true := by
        cases stage with
        | eject => exact absurd rfl heject
        | _ => exact hsafe
      rw [hnot, Bool.or_false, Bool.not_eq_true'] at hsafe
      obtain ⟨hfile, hexposed⟩ := Gadget.configureLun_frame (c := c) heject hsafe
      refine ⟨hfile.trans hmet.found, fun hsome => ?_⟩
      show (Gadget.exposed (Gadget.configureLun c s.otg.gadget k stage).1 ||
        s.reconciles.any _) = true
      rw [hexposed]
      exact hmet.ready hsome
  | disconnect =>
    have hsafe : (s.unbacked || s.disconnecting) = true := hsafe
    dsimp only [orphanNext]
    split
    · rename_i gadget hgadget
      refine h.of_frame rfl rfl rfl rfl fun hnot file hmet => ?_
      rw [hnot, Bool.or_false] at hsafe
      obtain rfl : none = file := (unbacked_iff.mp hsafe).symm.trans hmet.found
      exact met_none (Gadget.lunFile_disconnectLun hgadget)
    · exact h.of_frame rfl rfl rfl rfl fun _ _ hmet => ⟨hmet.found, hmet.ready⟩
  | finished => exact h

/-! ### Runs -/

theorem inv_call (h : s.Inv) {i : Nat} {stage : CallStage} (hr : s.call i stage = some t) :
    t.Inv := by
  cases stage with
  | storeHandle | clearHandle | setAvailable | setUnavailable =>
    dsimp only [call] at hr
    split at hr
    · cases hr
    · cases hr
      exact h.of_frame rfl rfl rfl rfl fun _ _ hmet => ⟨hmet.found, hmet.ready⟩
  | returned | abandoned => cases hr

/-- The safety of a step of a reconcile is needed only where a file is at stake. -/
theorem safe_backed {p : Bool} (h : (s.unbacked || s.disconnecting || p) = true)
    (hbacked : s.unbacked = false) (hnot : s.disconnecting = false) : p = true := by
  rw [hbacked, hnot] at h
  exact h

theorem inv_step {e : MsdEvent} (h : s.Inv) (hsafe : s.safe e = true) (hstep : s.step e = some t) :
    t.Inv := by
  cases e with
  | apply desired =>
    cases hstep
    refine h.of_frame rfl rfl rfl rfl fun _ file hmet => ⟨hmet.found, fun hsome => ?_⟩
    show (Gadget.exposed s.otg.gadget || (s.reconciles ++ [ReconcileStage.store desired]).any _) = true
    rw [List.any_append, ← Bool.or_assoc, Bool.or_eq_true]
    exact .inl (hmet.ready hsome)
  | reconcile i k =>
    obtain ⟨r, hi, rfl⟩ := Option.map_eq_some_iff.mp hstep
    refine inv_reconciled h hi (fun hfile => OtgSystem.next_unbacked hfile k r) ?_
    intro hbacked hnot path hfile
    have hspares := safe_backed hsafe hbacked hnot
    rw [hi] at hspares
    exact OtgSystem.next_backed hfile hspares
  | abandonReconcile i k =>
    obtain ⟨r, hi, hr⟩ := Option.bind_eq_some_iff.mp hstep
    obtain ⟨⟨otg, r'⟩, hdrop, rfl⟩ := Option.map_eq_some_iff.mp hr
    refine inv_reconciled h hi (fun hfile => OtgSystem.abandon_unbacked hfile hdrop) ?_
    intro hbacked hnot path hfile
    have hspares := safe_backed hsafe hbacked hnot
    rw [hi] at hspares
    exact OtgSystem.abandon_backed hfile hspares hdrop
  | init =>
    cases hstep
    unfold init
    split
    · exact h.of_frame rfl rfl rfl rfl fun _ _ hmet => ⟨hmet.found, hmet.ready⟩
    · exact inv_answer h _
  | call i =>
    obtain ⟨stage, -, hr⟩ := Option.bind_eq_some_iff.mp hstep
    exact inv_call h hr
  | abandonCall i =>
    obtain ⟨stage, -, rfl⟩ := Option.map_eq_some_iff.mp hstep
    exact h.of_frame rfl rfl rfl rfl fun _ _ hmet => ⟨hmet.found, hmet.ready⟩
  | connect request present =>
    simp only [step] at hstep
    split at hstep
    · cases hstep
    · rename_i hidle
      cases hstep
      exact inv_connect h (Option.not_isSome_iff_eq_none.mp hidle) request present
  | disconnect shutdown =>
    simp only [step] at hstep
    split at hstep
    · cases hstep
    · rename_i hidle
      cases hstep
      exact inv_disconnect h (Option.not_isSome_iff_eq_none.mp hidle) shutdown
  | operate k =>
    obtain ⟨op, hop, rfl⟩ := Option.map_eq_some_iff.mp hstep
    have hsafe : s.operation.all (s.safeOperation k) = true := hsafe
    rw [hop] at hsafe
    cases op with
    | connect request stage => exact inv_operateConnect h hop hsafe
    | disconnect stage shutdown => exact inv_operateDisconnect h hop hsafe
  | abandon =>
    obtain ⟨op, hop, rfl⟩ := Option.map_eq_some_iff.mp hstep
    have hsafe : s.operation.all s.safeDropped = true := hsafe
    rw [hop] at hsafe
    exact inv_abandon h hop hsafe
  | orphan i k =>
    obtain ⟨o, hi, rfl⟩ := Option.map_eq_some_iff.mp hstep
    have hsafe : s.orphans[i]?.all (s.safeOrphan k) = true := hsafe
    rw [hi] at hsafe
    exact inv_orphan h hsafe

theorem inv_started (h : s.Started) : s.Inv := by
  obtain ⟨gadget, drivePath, rfl, hfile⟩ := h
  exact .of_none rfl hfile rfl

theorem inv_reachable
    (h : (system.restrict fun s e => s.safe e = true).Reachable s) : s.Inv := by
  refine TSys.invariant ?_ ?_ h
  · intro s hstart
    have hstart : s.Started := hstart
    exact inv_started hstart
  · intro s e t hinv hstep
    exact inv_step hinv hstep.2 hstep.1

/-- **Agreement.** In a run whose steps are all safe, whenever no call is in progress the gadget
that is bound has just what the controller reports as connected. -/
theorem agreed (h : (system.restrict fun s e => s.safe e = true).Reachable s) (hquiet : s.quiet) :
    s.Agrees := by
  have hinv := inv_reachable h
  simp only [quiet, Bool.and_eq_true] at hquiet
  obtain ⟨⟨⟨hop, -⟩, hreconciles⟩, -⟩ := hquiet
  have hmet := hinv.met _ (expected_of_idle (Option.isNone_iff_eq_none.mp hop))
  refine ⟨fun hconnected => ?_, fun hconnected _ => ?_⟩
  · have hsome := hinv.reports hconnected
    obtain ⟨path, hpath⟩ := Option.isSome_iff_exists.mp hsome
    refine ⟨path, hpath, ?_, hmet.found.trans hpath⟩
    -- no gadget is under way, so the host sees the LUN
    rcases (Bool.or_eq_true _ _).mp (hmet.ready hsome) with hseen | hany
    · exact hseen
    · obtain ⟨r, hr, hbinding⟩ := List.any_eq_true.mp hany
      have hover := ReconcileStage.not_binding_of_over (List.all_eq_true.mp hreconciles r hr)
      rw [hover] at hbinding
      cases hbinding
  · exact hmet.found.trans (backing_of_not_connected hconnected)

end

/-! ## Runs -/

/-- A keyboard, and mass storage. -/
def keyboardAndMsd : OtgDesiredState where
  udc := some "udc"
  descriptor := defaultDesired.descriptor
  hidFunctions := some .legacyKeyboard
  keyboardLeds := false
  msdEnabled := true
  maxEndpoints := 16

/-- The same with a mouse in place of the keyboard. -/
def mouseAndMsd : OtgDesiredState :=
  { keyboardAndMsd with hidFunctions := some .legacyMouseRelative }

/-- Reconcile `i`, from its call to its end. -/
def reconcileRun (i : Nat) (desired : OtgDesiredState) : List MsdEvent :=
  .apply desired :: List.replicate 12 (.reconcile i {})

def initRun : List MsdEvent := [.init, .call 0, .call 0]

def disk : ImageInfo := { id := "i", name := "i", path := "i", size := 1 }

def connectRun : List MsdEvent :=
  .connect (.image disk false false) true :: List.replicate 7 (.operate {})

def machine : MsdSystem := { controller := { drivePath := "d" } }

theorem machine_started : machine.Started := ⟨none, "d", rfl, rfl⟩

/-- With nothing connected the HID functions may change; an image is connected afterwards. -/
theorem connected_after_change : ∃ s : MsdSystem,
    (system.restrict fun s e => s.safe e = true).Reachable s ∧ s.quiet = true ∧
      s.controller.backing = some "i" ∧ s.Agrees := by
  have hrun : ((reconcileRun 0 keyboardAndMsd ++ initRun ++ reconcileRun 1 mouseAndMsd ++
      connectRun).foldlM (fun s e => if s.safe e = true then step s e else none) machine).any
      (fun s => s.quiet && s.controller.backing == some "i") := by
    decide +kernel
  obtain ⟨s, hs, hends⟩ := Option.any_eq_true _ _ |>.mp hrun
  rw [Bool.and_eq_true, beq_iff_eq] at hends
  have hstart : (system.restrict fun s e => s.safe e = true).Reachable machine :=
    .init machine_started
  have hreach := TSys.ofFn_restrict_reachable hstart hs
  exact ⟨s, hreach, hends.1, hends.2, agreed hreach hends.1⟩

/-- **A change of the HID functions ejects the image.** The gadget is built anew for them, and its
LUN has no file; the controller still reports the image. -/
theorem hid_change_ejects : ¬ ∀ s : MsdSystem, system.Reachable s → s.quiet = true → s.Agrees := by
  intro halways
  have hrun : ((reconcileRun 0 keyboardAndMsd ++ initRun ++ connectRun ++
      reconcileRun 1 mouseAndMsd).foldlM step machine).any
      (fun s => s.quiet && s.controller.state.connected && s.unbacked) := by
    decide +kernel
  obtain ⟨s, hs, hends⟩ := Option.any_eq_true _ _ |>.mp hrun
  rw [Bool.and_eq_true, Bool.and_eq_true] at hends
  have hagrees := halways s (TSys.ofFn_reachable (.init machine_started) hs) hends.1.1
  obtain ⟨path, -, -, hfile⟩ := hagrees.connected hends.1.2
  rw [unbacked_iff.mp hends.2] at hfile
  cases hfile

end MsdSystem

end StreamBox.Msd
