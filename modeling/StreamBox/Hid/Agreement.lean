import StreamBox.Hid.Ch9329
import StreamBox.Hid.Otg

/-!
# Target state agreement

Both backends change what they keep before the report is on its way, and neither
sends a report again that was lost.

* **Kept** — `target_agrees`: the target has what the backend keeps in every run
  in which a report is lost only where that changes nothing.
* **Lost** — `lost_release`: a release lost on the wire, or dropped because the
  endpoint is busy, leaves the key down on the target with the backend online.
-/

namespace StreamBox.Hid

open StreamBox.Lib

/-- **Target agreement.** With either backend, in every run in which a lost report
changes nothing the target has or will have, whenever the backend reports online,
has nothing queued and its last send returned `Ok`, the last keyboard report and
mouse buttons the target accepted are those the backend keeps. -/
theorem target_agrees (c : Ch9329.State) (o : Otg.State) :
    ((Ch9329.system.restrict Ch9329.Kept).Reachable c → Ch9329.Agrees c) ∧
      ((Otg.system.restrict Otg.Kept).Reachable o → Otg.Agrees o) :=
  ⟨Ch9329.agrees_of_kept, Otg.agrees_of_kept⟩

/-- The keyboard report with `A` down. -/
def keyAReport : List UInt8 := [0, 0, 0x04, 0, 0, 0, 0, 0]

def pressA : HidEvent := .keyboard { eventType := .down, key := .keyA }

def releaseA : HidEvent := .keyboard { eventType := .up, key := .keyA }

/-- A press that both targets accept. -/
theorem accepted_press_agrees :
    (∃ s : Ch9329.State, s.target.keyboard = keyAReport ∧ Ch9329.Agrees s) ∧
      ∃ s : Otg.State, s.target.keyboard = keyAReport ∧ Otg.Agrees s := by
  constructor
  · have hsent : (Ch9329.system.restrict Ch9329.Kept).Reachable _ :=
      .step (.init rfl) ⟨show Ch9329.step _ (.send pressA) = some _ from rfl, fun _ => trivial⟩
    have htaken : (Ch9329.system.restrict Ch9329.Kept).Reachable _ :=
      .step hsent ⟨show Ch9329.step _ .receive = some _ from rfl, fun _ => trivial⟩
    have hdone : (Ch9329.system.restrict Ch9329.Kept).Reachable _ :=
      .step htaken ⟨show Ch9329.step _ (.transfer true .success) = some _ from rfl, fun _ => rfl⟩
    exact ⟨_, rfl, (target_agrees _ {}).1 hdone⟩
  · have hsent : (Otg.system.restrict Otg.Kept).Reachable _ :=
      .step (.init ⟨rfl, rfl, rfl⟩)
        ⟨show Otg.step {} (.send pressA fun _ => {}) = some _ from rfl, .inl rfl⟩
    exact ⟨_, rfl, (target_agrees {} _).2 hsent⟩

/-- CH9329: the press is accepted, the transfer of the release fails and the worker
reconnects. -/
def failedReleaseRun : List Ch9329.Event :=
  [.send pressA, .receive, .transfer true .success, .send releaseA, .receive,
    .transfer false (.failed false), .idle, .reopen true]

/-- OTG: the press is accepted, the endpoint is busy at the release. -/
def busyReleaseRun : List Otg.Event :=
  [.send pressA fun _ => {}, .send releaseA fun _ => { write := .timeout }]

/-- **A lost release.** With either backend a lost release leaves the key down on
the target while the backend, with nothing queued, reports online. -/
theorem lost_release :
    ¬ (∀ s, Ch9329.system.Reachable s → Ch9329.Agrees s) ∧
      ¬ ∀ s, Otg.system.Reachable s → Otg.Agrees s := by
  constructor
  · intro halways
    have hrun : (failedReleaseRun.foldlM Ch9329.step {}).any (fun s =>
        s.reportsOnline true && s.queue.isEmpty && s.worker.inHand.isEmpty && s.lastOk &&
          s.target.keyboard != s.backend.keyboardState.toBytes) := by decide
    obtain ⟨s, hs, hstuck⟩ := Option.any_eq_true _ _ |>.mp hrun
    simp only [Bool.and_eq_true, List.isEmpty_iff, bne_iff_ne] at hstuck
    obtain ⟨⟨⟨⟨honline, hqueue⟩, hhand⟩, hok⟩, hne⟩ := hstuck
    exact hne (halways s (TSys.ofFn_reachable (.init rfl) hs) true honline hqueue hhand hok).1
  · intro halways
    have hrun : (busyReleaseRun.foldlM Otg.step {}).any (fun s =>
        s.reportsOnline true true && s.lastOk &&
          s.target.keyboard != s.keyboardState.toBytes) := by decide
    obtain ⟨s, hs, hstuck⟩ := Option.any_eq_true _ _ |>.mp hrun
    simp only [Bool.and_eq_true, bne_iff_ne] at hstuck
    obtain ⟨⟨honline, hok⟩, hne⟩ := hstuck
    exact hne (halways s (TSys.ofFn_reachable (.init ⟨rfl, rfl, rfl⟩) hs) true true honline hok).1

end StreamBox.Hid
