import StreamBox.Hid.Backend
import StreamBox.RustDesk.SessionAuth

/-!
# The RustDesk pointer

What the mouse messages of an active connection do to the pointer and the buttons of the target.

* **Calls** — the positions, scrolls and buttons that a list of calls gives the HID controller.
* **One message** — its calls by kind of event.
* **Runs** — `pointer_follows`, for every row of messages and every next one.
-/

namespace StreamBox.RustDesk

open Session

/-! ## Calls -/

/-- The mouse event of a call. -/
def Effect.mouseEvent : Effect → Option Hid.MouseEvent
  | mouse event => some event
  | _ => none

/-- The absolute position of a mouse event. -/
def absPosition (event : Hid.MouseEvent) : Option (Int32 × Int32) :=
  if event.eventType = .moveAbs then some (event.x, event.y) else none

/-- The scroll of a mouse event. -/
def scrollOf (event : Hid.MouseEvent) : Option Int8 :=
  if event.eventType = .scroll then some event.scroll else none

/-- The absolute positions given, in order. -/
def positions (effects : List Effect) : List (Int32 × Int32) :=
  (effects.filterMap Effect.mouseEvent).filterMap absPosition

/-- The scrolls given, in order. -/
def scrolls (effects : List Effect) : List Int8 :=
  (effects.filterMap Effect.mouseEvent).filterMap scrollOf

/-- The buttons held after the calls. -/
def buttonsAfter (effects : List Effect) (buttons : UInt8) : UInt8 :=
  (effects.filterMap Effect.mouseEvent).foldl Hid.applyButtons buttons

/-- The position an event reports, scaled to the screen. -/
def reported (c : Connection) (me : MouseEvent) : Int32 × Int32 :=
  (absCoord me.x c.screenWidth, absCoord me.y c.screenHeight)

/-- The mouse messages of a connection, one after another. -/
def handleMouseMessages (env : Env) : Connection → List (Io × MouseEvent) → Session
  | c, [] => ⟨c, []⟩
  | c, (io, me) :: messages =>
    let s := (dispatch env io ⟨c, []⟩ (.mouseEvent me)).2
    let rest := handleMouseMessages env s.conn messages
    ⟨rest.conn, s.effects ++ rest.effects⟩

@[simp] theorem positions_append (effects effects' : List Effect) :
    positions (effects ++ effects') = positions effects ++ positions effects' := by
  simp [positions]

@[simp] theorem scrolls_append (effects effects' : List Effect) :
    scrolls (effects ++ effects') = scrolls effects ++ scrolls effects' := by
  simp [scrolls]

@[simp] theorem buttonsAfter_append (effects effects' : List Effect) (buttons : UInt8) :
    buttonsAfter (effects ++ effects') buttons =
      buttonsAfter effects' (buttonsAfter effects buttons) := by
  simp [buttonsAfter]

@[simp] theorem mouseEvents_map (events : List Hid.MouseEvent) :
    (events.map Effect.mouse).filterMap Effect.mouseEvent = events := by
  rw [List.filterMap_map]
  exact List.filterMap_some

/-! ## Scaling -/

/-- A coordinate on the screen is scaled to the range of the absolute mouse. -/
theorem absCoord_onScreen {v : Int32} {size : UInt32} (h : v.toInt ≤ size.toNat) :
    (absCoord v size).toInt = max v.toInt 0 * 32767 / max size.toNat 1 ∧
      0 ≤ (absCoord v size).toInt ∧ (absCoord v size).toInt ≤ 32767 := by
  have hpos : (0 : Int) < (max size.toNat 1 : Nat) := by omega
  have hlow : 0 ≤ max v.toInt 0 * 32767 / (max size.toNat 1 : Nat) :=
    Int.ediv_nonneg (by omega) hpos.le
  have hhigh : max v.toInt 0 * 32767 / (max size.toNat 1 : Nat) ≤ 32767 :=
    Int.ediv_le_of_le_mul hpos (by omega)
  have hscaled : (absCoord v size).toInt = max v.toInt 0 * 32767 / (max size.toNat 1 : Nat) :=
    Int32.toInt_ofInt_of_le (Int.le_trans (by decide) hlow) (Int.lt_of_le_of_lt hhigh (by decide))
  rw [hscaled]
  exact ⟨rfl, hlow, hhigh⟩

/-! ## One message -/

section

variable {env : Env} {io : Io} {c : Connection} {me : MouseEvent}

/-- The calls of one mouse message. -/
def mouseCalls (io : Io) (c : Connection) (me : MouseEvent) : List Effect :=
  (handleMouseEvent io ⟨c, []⟩ me).effects

theorem dispatch_mouseEvent (h : c.state = .active) :
    (dispatch env io ⟨c, []⟩ (.mouseEvent me)).2 = handleMouseEvent io ⟨c, []⟩ me :=
  if_pos h

/-- A mouse event changes nothing of the connection but the mouse mode and the time. -/
theorem handleMouseEvent_conn (io : Io) (c : Connection) (me : MouseEvent) :
    (handleMouseEvent io ⟨c, []⟩ me).conn =
      { c with
        relativeMouseActive := nextRelative me c.relativeMouseActive
        lastMouseTime := (handleMouseEvent io ⟨c, []⟩ me).conn.lastMouseTime } := by
  rw [handleMouseEvent_eq]
  split <;> rfl

/-- A pure move that comes too soon makes no call. -/
theorem mouseCalls_throttled (hpure : isPureMove me = true)
    (hsoon : io.now < c.lastMouseTime + mouseInterval) : mouseCalls io c me = [] := by
  rw [mouseCalls, handleMouseEvent_eq, if_pos ⟨hpure, hsoon⟩]

/-- Any other event makes the calls it is converted to. -/
theorem mouseCalls_sent (hhid : c.hid = true)
    (hdue : isPureMove me = true → c.lastMouseTime + mouseInterval ≤ io.now) :
    mouseCalls io c me = (convertMouseEvent me c.screenWidth c.screenHeight
      (nextRelative me c.relativeMouseActive)).map .mouse := by
  have hnot : ¬ (isPureMove me = true ∧ io.now < c.lastMouseTime + mouseInterval) :=
    fun h => absurd (hdue h.1) (Int.not_le.2 h.2)
  rw [mouseCalls, handleMouseEvent_eq, if_neg hnot, if_pos hhid]

/-- The calls of a mouse message, if there are any. -/
theorem mouseCalls_subset (io : Io) (me : MouseEvent) (hhid : c.hid = true) :
    mouseCalls io c me = [] ∨ mouseCalls io c me = (convertMouseEvent me c.screenWidth
      c.screenHeight (nextRelative me c.relativeMouseActive)).map .mouse := by
  by_cases hsoon : isPureMove me = true ∧ io.now < c.lastMouseTime + mouseInterval
  · exact .inl (mouseCalls_throttled hsoon.1 hsoon.2)
  · exact .inr (mouseCalls_sent hhid fun hpure => Int.not_lt.1 fun h => hsoon ⟨hpure, h⟩)

theorem convertMouseEvent_move (h : me.eventType = MouseType.MOVE) (w v : UInt32) (rel : Bool) :
    convertMouseEvent me w v rel = [absMove me w v] :=
  if_pos h

theorem convertMouseEvent_down (h : me.eventType = MouseType.DOWN) (w v : UInt32) (rel : Bool) :
    convertMouseEvent me w v rel = (if rel then [] else [absMove me w v]) ++
      match buttonIdToButton me.buttonId with
      | some button => [{ eventType := .down, button := some button }]
      | none => [] := by
  rw [convertMouseEvent, h]
  rfl

theorem convertMouseEvent_up (h : me.eventType = MouseType.UP) (w v : UInt32) (rel : Bool) :
    convertMouseEvent me w v rel = (if rel then [] else [absMove me w v]) ++
      match buttonIdToButton me.buttonId with
      | some button => [{ eventType := .up, button := some button }]
      | none => [] := by
  rw [convertMouseEvent, h]
  rfl

theorem convertMouseEvent_wheel (h : me.eventType = MouseType.WHEEL) (w v : UInt32) (rel : Bool) :
    convertMouseEvent me w v rel = (if rel then [] else [absMove me w v]) ++
      [{ eventType := .scroll, scroll := if me.y > 0 then 1 else -1 }] := by
  rw [convertMouseEvent, h]
  rfl

theorem convertMouseEvent_other (hmove : me.eventType ≠ MouseType.MOVE)
    (hdown : me.eventType ≠ MouseType.DOWN) (hup : me.eventType ≠ MouseType.UP)
    (hwheel : me.eventType ≠ MouseType.WHEEL) (w v : UInt32) (rel : Bool) :
    convertMouseEvent me w v rel =
      if me.eventType = MouseType.MOVE_RELATIVE then
        [{ eventType := .move, x := me.x, y := me.y }]
      else if rel then [] else [absMove me w v] := by
  simp only [convertMouseEvent, hmove, hdown, hup, hwheel, if_false]

@[simp] theorem absPosition_absMove (w v : UInt32) :
    absPosition (absMove me w v) = some (absCoord me.x w, absCoord me.y v) := rfl

/-- A relative move gives no position, every other event at most its own. -/
theorem positions_convert (w v : UInt32) (rel : Bool) {p : Int32 × Int32}
    (h : p ∈ positions ((convertMouseEvent me w v rel).map .mouse)) :
    me.eventType ≠ MouseType.MOVE_RELATIVE ∧ p = (absCoord me.x w, absCoord me.y v) := by
  rw [positions, mouseEvents_map, List.mem_filterMap] at h
  obtain ⟨event, hevent, hposition⟩ := h
  have hmoves : ∀ events : List Hid.MouseEvent, (∀ e ∈ events, absPosition e = none) →
      event ∈ (if rel then [] else [absMove me w v]) ++ events →
      p = (absCoord me.x w, absCoord me.y v) := by
    intro events hnone hmem
    rcases List.mem_append.1 hmem with hmem | hmem
    · cases rel with
      | true => cases hmem
      | false =>
        obtain rfl := List.mem_singleton.1 hmem
        exact (Option.some.inj hposition).symm
    · rw [hnone event hmem] at hposition
      cases hposition
  by_cases hmove : me.eventType = MouseType.MOVE
  · rw [convertMouseEvent_move hmove, List.mem_singleton] at hevent
    subst hevent
    exact ⟨by rw [hmove]; decide, (Option.some.inj hposition).symm⟩
  by_cases hdown : me.eventType = MouseType.DOWN
  · rw [convertMouseEvent_down hdown] at hevent
    refine ⟨by rw [hdown]; decide, hmoves _ ?_ hevent⟩
    cases buttonIdToButton me.buttonId <;> simp [absPosition]
  by_cases hup : me.eventType = MouseType.UP
  · rw [convertMouseEvent_up hup] at hevent
    refine ⟨by rw [hup]; decide, hmoves _ ?_ hevent⟩
    cases buttonIdToButton me.buttonId <;> simp [absPosition]
  by_cases hwheel : me.eventType = MouseType.WHEEL
  · rw [convertMouseEvent_wheel hwheel] at hevent
    exact ⟨by rw [hwheel]; decide, hmoves _ (by simp [absPosition]) hevent⟩
  rw [convertMouseEvent_other hmove hdown hup hwheel] at hevent
  split_ifs at hevent with hrelative
  · obtain rfl := List.mem_singleton.1 hevent
    cases hposition
  · cases hevent
  · exact ⟨hrelative, by
      obtain rfl := List.mem_singleton.1 hevent
      exact (Option.some.inj hposition).symm⟩

/-- Only presses and releases change the buttons. -/
theorem buttonsAfter_convert (w v : UInt32) (rel : Bool) (buttons : UInt8)
    (hdown : me.eventType ≠ MouseType.DOWN) (hup : me.eventType ≠ MouseType.UP) :
    buttonsAfter ((convertMouseEvent me w v rel).map .mouse) buttons = buttons := by
  rw [buttonsAfter, mouseEvents_map]
  by_cases hmove : me.eventType = MouseType.MOVE
  · rw [convertMouseEvent_move hmove]
    rfl
  by_cases hwheel : me.eventType = MouseType.WHEEL
  · rw [convertMouseEvent_wheel hwheel]
    cases rel <;> rfl
  rw [convertMouseEvent_other hmove hdown hup hwheel]
  split_ifs <;> rfl

end

/-! ## Runs -/

section

variable (env : Env) {c : Connection}

/-- What a run of mouse messages leaves of the connection's settings. -/
theorem handleMouseMessages_conn (h : c.state = .active) (messages : List (Io × MouseEvent)) :
    (handleMouseMessages env c messages).conn.state = .active ∧
      (handleMouseMessages env c messages).conn.hid = c.hid ∧
      (handleMouseMessages env c messages).conn.screenWidth = c.screenWidth ∧
      (handleMouseMessages env c messages).conn.screenHeight = c.screenHeight := by
  induction messages generalizing c with
  | nil => exact ⟨h, rfl, rfl, rfl⟩
  | cons message messages ih =>
    have hconn := handleMouseEvent_conn message.1 c message.2
    rw [handleMouseMessages, dispatch_mouseEvent h]
    dsimp only
    rw [hconn]
    exact ih h

/-- The last message of a run makes its calls behind the others. -/
theorem handleMouseMessages_concat (h : c.state = .active) (messages : List (Io × MouseEvent))
    (io : Io) (me : MouseEvent) :
    (handleMouseMessages env c (messages ++ [(io, me)])).effects =
      (handleMouseMessages env c messages).effects ++
        mouseCalls io (handleMouseMessages env c messages).conn me := by
  induction messages generalizing c with
  | nil =>
    rw [List.nil_append, handleMouseMessages, handleMouseMessages, dispatch_mouseEvent h]
    exact List.append_nil _
  | cons message messages ih =>
    have hconn := handleMouseEvent_conn message.1 c message.2
    have hactive : (handleMouseEvent message.1 ⟨c, []⟩ message.2).conn.state = .active := by
      rw [hconn]
      exact h
    rw [List.cons_append, handleMouseMessages, handleMouseMessages, dispatch_mouseEvent h]
    dsimp only
    rw [ih hactive, List.append_assoc]

/-- Every position given is the scaled one of an event that is no relative move. -/
theorem positions_reported (h : c.state = .active) (hhid : c.hid = true)
    (messages : List (Io × MouseEvent)) {p : Int32 × Int32}
    (hp : p ∈ positions (handleMouseMessages env c messages).effects) :
    ∃ message ∈ messages, message.2.eventType ≠ MouseType.MOVE_RELATIVE ∧
      p = reported c message.2 := by
  induction messages using List.reverseRecOn with
  | nil => cases hp
  | append_singleton messages message ih =>
    obtain ⟨-, hhid', hwidth, hheight⟩ := handleMouseMessages_conn env h messages
    rw [handleMouseMessages_concat env h, positions_append, List.mem_append] at hp
    rcases hp with hp | hp
    · obtain ⟨earlier, hmem, hearlier⟩ := ih hp
      exact ⟨earlier, List.mem_append_left _ hmem, hearlier⟩
    · refine ⟨message, List.mem_append_right _ (List.mem_singleton_self _), ?_⟩
      rcases mouseCalls_subset message.1 message.2 (hhid'.trans hhid) with
        hcalls | hcalls
      · rw [hcalls] at hp
        cases hp
      · rw [hcalls, hwidth, hheight] at hp
        exact positions_convert _ _ _ hp

/-- What the last mouse message of a run adds. -/
structure Follows (io : Io) (me : MouseEvent) (before after : Session) : Prop where
  /-- A move that is not throttled, and a press or release in absolute mode, leave the pointer
  where they report it. -/
  position : (me.eventType = MouseType.MOVE ∧
        before.conn.lastMouseTime + mouseInterval ≤ io.now) ∨
      ((me.eventType = MouseType.DOWN ∨ me.eventType = MouseType.UP) ∧
        before.conn.relativeMouseActive = false) →
    (positions after.effects).getLast? = some (reported before.conn me)
  /-- A throttled move does nothing. -/
  throttled : isPureMove me = true → io.now < before.conn.lastMouseTime + mouseInterval →
    after.effects = before.effects
  wheel : me.eventType = MouseType.WHEEL → me.y ≠ 0 →
    scrolls after.effects = scrolls before.effects ++ [if me.y > 0 then 1 else -1]
  down : ∀ button, me.eventType = MouseType.DOWN → buttonIdToButton me.buttonId = some button →
    ∀ b, buttonsAfter after.effects b = buttonsAfter before.effects b ||| button.toHidBit
  up : ∀ button, me.eventType = MouseType.UP → buttonIdToButton me.buttonId = some button →
    ∀ b, buttonsAfter after.effects b = buttonsAfter before.effects b &&& ~~~button.toHidBit
  buttons : me.eventType ≠ MouseType.DOWN → me.eventType ≠ MouseType.UP →
    ∀ b, buttonsAfter after.effects b = buttonsAfter before.effects b

theorem follows_concat (h : c.state = .active) (hhid : c.hid = true)
    (messages : List (Io × MouseEvent)) (io : Io) (me : MouseEvent) :
    Follows io me (handleMouseMessages env c messages)
      (handleMouseMessages env c (messages ++ [(io, me)])) := by
  have hconcat := handleMouseMessages_concat env h messages io me
  obtain ⟨-, hhid', -, -⟩ := handleMouseMessages_conn env h messages
  generalize handleMouseMessages env c messages = before at hconcat hhid' ⊢
  generalize handleMouseMessages env c (messages ++ [(io, me)]) = after at hconcat ⊢
  have hon : before.conn.hid = true := hhid'.trans hhid
  -- an event that is no pure move is sent whatever the time
  have hsent : isPureMove me = false → mouseCalls io before.conn me =
      (convertMouseEvent me before.conn.screenWidth before.conn.screenHeight
        (nextRelative me before.conn.relativeMouseActive)).map .mouse := fun hpure =>
    mouseCalls_sent hon fun hp => absurd (hpure.symm.trans hp) (by decide)
  have hpure : ∀ t, me.eventType = t → t ≠ MouseType.MOVE → t ≠ MouseType.MOVE_RELATIVE →
      isPureMove me = false := by
    rintro t rfl hmove hrelative
    simp [isPureMove, hmove, hrelative]
  have hkept : ∀ t, me.eventType = t → t ≠ MouseType.MOVE → t ≠ MouseType.MOVE_RELATIVE →
      nextRelative me before.conn.relativeMouseActive = before.conn.relativeMouseActive := by
    rintro t rfl hmove hrelative
    simp [nextRelative, hmove, hrelative]
  constructor
  · rintro (⟨hmove, hdue⟩ | ⟨hbutton, habsolute⟩)
    · rw [hconcat, mouseCalls_sent hon fun _ => hdue, convertMouseEvent_move hmove,
        positions_append]
      exact List.getLast?_concat
    · have honly : positions (mouseCalls io before.conn me) = [reported before.conn me] := by
        rcases hbutton with hdown | hup
        · rw [hsent (hpure _ hdown (by decide) (by decide)),
            hkept _ hdown (by decide) (by decide), convertMouseEvent_down hdown, habsolute]
          cases buttonIdToButton me.buttonId <;> rfl
        · rw [hsent (hpure _ hup (by decide) (by decide)), hkept _ hup (by decide) (by decide),
            convertMouseEvent_up hup, habsolute]
          cases buttonIdToButton me.buttonId <;> rfl
      rw [hconcat, positions_append, honly]
      exact List.getLast?_concat
  · intro hmove hsoon
    rw [hconcat, mouseCalls_throttled hmove hsoon, List.append_nil]
  · intro hwheel _
    rw [hconcat, hsent (hpure _ hwheel (by decide) (by decide)), convertMouseEvent_wheel hwheel,
      scrolls_append]
    cases nextRelative me before.conn.relativeMouseActive <;> rfl
  · intro button hdown hid b
    rw [hconcat, hsent (hpure _ hdown (by decide) (by decide)), convertMouseEvent_down hdown, hid,
      buttonsAfter_append]
    cases nextRelative me before.conn.relativeMouseActive <;> rfl
  · intro button hup hid b
    rw [hconcat, hsent (hpure _ hup (by decide) (by decide)), convertMouseEvent_up hup, hid,
      buttonsAfter_append]
    cases nextRelative me before.conn.relativeMouseActive <;> rfl
  · intro hdown hup b
    rw [hconcat, buttonsAfter_append]
    rcases mouseCalls_subset io me hon with hcalls | hcalls
    · rw [hcalls]
      rfl
    · rw [hcalls, buttonsAfter_convert _ _ _ _ hdown hup]

end

/-- **The pointer.** Every position given to the HID controller is the scaled one of an event that
is no relative move, in the range of the absolute mouse where the event is on the screen; and the
last message of a run does to pointer, wheel and buttons what its kind says. -/
theorem pointer_follows (env : Env) (c : Connection) (hactive : c.state = .active)
    (hhid : c.hid = true) (messages : List (Io × MouseEvent)) :
    (∀ p ∈ positions (handleMouseMessages env c messages).effects,
      ∃ message ∈ messages, message.2.eventType ≠ MouseType.MOVE_RELATIVE ∧
        p = reported c message.2) ∧
      (∀ v : Int32, ∀ size : UInt32, v.toInt ≤ size.toNat →
        (absCoord v size).toInt = max v.toInt 0 * 32767 / max size.toNat 1 ∧
          0 ≤ (absCoord v size).toInt ∧ (absCoord v size).toInt ≤ 32767) ∧
      ∀ io me, Follows io me (handleMouseMessages env c messages)
        (handleMouseMessages env c (messages ++ [(io, me)])) :=
  ⟨fun _ hp => positions_reported env hactive hhid messages hp, fun _ _ h => absCoord_onScreen h,
    follows_concat env hactive hhid messages⟩

/-- A connection that has logged in, with the throttle interval over at time 0. -/
def activeConnection : Connection :=
  { Connection.new ⟨false, "", none, none, "123456789", "secret"⟩ true false false 0 with
    state := .active }

/-- A move to the middle of the screen. -/
def middleMove : MouseEvent := { mask := 0, x := 960, y := 540 }

theorem middle_of_screen :
    (positions (handleMouseMessages Loop.sampleEnv activeConnection
      ([] ++ [({ now := 0 }, middleMove)])).effects).getLast? = some (16383, 16383) := by
  have hfollows := (pointer_follows Loop.sampleEnv activeConnection rfl rfl []).2.2 { now := 0 }
    middleMove
  have hreported : reported activeConnection middleMove = (16383, 16383) := by decide
  rw [← hreported]
  exact hfollows.position (.inl ⟨by decide, by decide⟩)

/-- Another move, to the corner, within a millisecond of it. -/
def cornerMove : Io × MouseEvent := ({ now := 1000000 }, { mask := 0, x := 0, y := 0 })

/-- A wheel event without a delta. -/
def idleWheel : Io × MouseEvent := ({ now := 0 }, { mask := 3, x := 0, y := 0 })

/-- The last of two moves is dropped; a wheel event moves the pointer, and scrolls without a
delta. -/
theorem last_move_dropped :
    (positions (handleMouseMessages Loop.sampleEnv activeConnection
        [({ now := 0 }, middleMove), cornerMove]).effects).getLast? ≠
      some (reported activeConnection cornerMove.2) ∧
    positions (handleMouseMessages Loop.sampleEnv activeConnection [idleWheel]).effects ≠ [] ∧
    scrolls (handleMouseMessages Loop.sampleEnv activeConnection [idleWheel]).effects ≠ [] := by
  decide

end StreamBox.RustDesk
