import Mathlib.Data.List.Nodup
import StreamBox.Lib.LittleEndian
import StreamBox.RustDesk.SealedFrames

/-!
# The sequence of sealed frames

A peer that counts the frames it receives opens the k-th one under nonce k.

* **Wire** — a connection, the frames written to the socket since its first session
  key, and every seal of the run, written or not.
* **Sequence** — `sealed_in_sequence`: in every run that is `Steady`, the k-th frame
  written is sealed under the first key and number k, and no nonce is used twice.
* **Breaks** — `signedId_after_key_not_in_sequence`: a SignedId message after the key
  exchange is answered in plain.
-/

namespace StreamBox.RustDesk

open StreamBox.Lib

/-! ## Nonces -/

theorem getNonce_eq (n : Nat) : Session.getNonce n = leBytes 8 n ++ List.replicate 16 0 := by
  simp [Session.getNonce, leBytes, List.range_succ, Nat.div_div_eq_div_mul]

/-- The numbers from 1 to 2^64 have different nonces. -/
theorem getNonce_injective {m n : Nat} (hm : 1 ≤ m ∧ m ≤ 2 ^ 64) (hn : 1 ≤ n ∧ n ≤ 2 ^ 64)
    (h : Session.getNonce m = Session.getNonce n) : m = n := by
  rw [getNonce_eq, getNonce_eq] at h
  have hbytes : leBytes 8 m = leBytes 8 n :=
    (List.append_inj h (by simp [length_leBytes])).1
  have hmod : m % 256 ^ 8 = n % 256 ^ 8 := by
    rw [← ofLeBytes_leBytes, ← ofLeBytes_leBytes, hbytes]
  omega

/-! ## The wire -/

/-- A connection and what it has sent. -/
structure Wire where
  loop : Loop
  /-- The session key installed first. -/
  key : Option Bytes := none
  /-- The frames written to the socket since. -/
  written : List Frame := []
  /-- Every seal of the run. -/
  seals : List (Bytes × Nat) := []
  /-- A sealed frame did not reach the socket. -/
  lost : Bool := false

namespace Wire

/-- The wire after an event that leaves this loop and sends these frames. -/
def after (w : Wire) (l : Loop) (frames : List Frame) (delivered : Bool) : Wire where
  loop := l
  key := w.key <|> l.conn.sessionKey
  written :=
    if delivered ∧ (w.key <|> l.conn.sessionKey).isSome then w.written ++ frames else w.written
  seals := w.seals ++ frames.filterMap id
  lost := w.lost || (!delivered && frames.any Option.isSome)

def step (env : Env) (w : Wire) (e : LoopEvent) : Option Wire :=
  (Loop.step env w.loop e).map fun l => w.after l (Loop.frames env w.loop e) (Loop.delivered e)

/-- The runs of a connection, watched at its socket. -/
def system (env : Env) (config : RustDeskConfig) : TSys Wire LoopEvent :=
  .ofFn (fun w => ∃ l, (Loop.system env config).init l ∧ w = { loop := l }) (step env)

/-- The k-th frame written since the first key is sealed under it and number k. -/
def InSequence (w : Wire) : Prop :=
  ∀ key, w.key = some key →
    w.written = (List.range w.written.length).map fun k => some (key, k + 1)

/-- No two seals share a key and a nonce. -/
def NoReuse (w : Wire) : Prop :=
  (w.seals.map fun s => (s.1, Session.getNonce s.2)).Nodup

/-- A frame of the client leaves an installed key in use: it is no SignedId message,
which is answered in plain, and no PublicKey message with another key. -/
def KeepsKey (env : Env) (c : Connection) : LoopEvent → Prop
  | .frame data _ =>
      ∀ key, c.sessionKey = some key →
        match Session.received env c data with
        | some (.signedId _) => False
        | some (.publicKey pk) => ∀ offered, offeredKey env pk = some offered → offered = key
        | _ => True
  | .media _ | .testDelayTick _ | .shutdown | .closeAll => True

/-- A frame that reaches the socket keeps the key in use and follows no sealed frame
that did not, and the sequence number has not run through its 64 bits. -/
def Steady (env : Env) (w : Wire) (e : LoopEvent) : Prop :=
  (Loop.delivered e = true → KeepsKey env w.loop.conn e) ∧
    (Loop.Sends env w.loop.conn e →
      w.loop.conn.encSeqnum < 2 ^ 64 ∧ (Loop.delivered e = true → w.lost = false))

/-! ## The invariant -/

/-- The seals are numbered from 1 up to the connection's sequence number, and while
the loop runs the frames written since the first key are as many. -/
structure Sound (w : Wire) : Prop where
  numbers : w.seals.map Prod.snd = (List.range w.loop.conn.encSeqnum).map (· + 1)
  bounded : w.loop.conn.encSeqnum ≤ 2 ^ 64
  fresh : w.key = none → w.loop.conn.sessionKey = none ∧ w.loop.conn.encSeqnum = 0 ∧
    w.written = [] ∧ w.lost = false
  inSequence : InSequence w
  current : ∀ key, w.key = some key → w.loop.running = true →
    w.loop.conn.sessionKey = some key ∧ (w.lost = false → w.loop.conn.encSeqnum = w.written.length)

theorem Sound.start {l : Loop} (hkey : l.conn.sessionKey = none) (hseq : l.conn.encSeqnum = 0) :
    Sound { loop := l } where
  numbers := by simp [hseq]
  bounded := by simp [hseq]
  fresh _ := ⟨hkey, hseq, rfl, rfl⟩
  inSequence := by simp [InSequence]
  current := by simp

/-- An event that sends nothing. -/
theorem Sound.silent {w : Wire} (h : w.Sound) {l : Loop} {ok : Bool}
    (hkey : l.conn.sessionKey = w.loop.conn.sessionKey)
    (hseq : l.conn.encSeqnum = w.loop.conn.encSeqnum)
    (hrun : l.running = true → w.loop.running = true) : (w.after l [] ok).Sound where
  numbers := by simpa [after, hseq] using h.numbers
  bounded := by simpa [after, hseq] using h.bounded
  fresh hnone := by
    have hw : w.key = none := by
      cases hwkey : w.key with
      | none => rfl
      | some key => simp [after, hwkey] at hnone
    simpa [after, hkey, hseq] using h.fresh hw
  inSequence := by
    intro key hsome
    cases hwkey : w.key with
    | none =>
      have hfresh := h.fresh hwkey
      simp [after, hwkey, hkey, hfresh.1] at hsome
    | some key' =>
      simpa [after] using h.inSequence key (by simpa [after, hwkey] using hsome)
  current := by
    intro key hsome hrunning
    cases hwkey : w.key with
    | none =>
      have hfresh := h.fresh hwkey
      simp [after, hwkey, hkey, hfresh.1] at hsome
    | some key' =>
      have := h.current key (by simpa [after, hwkey] using hsome) (hrun hrunning)
      simpa [after, hkey, hseq] using this

/-- A frame in plain: before the first key, or one that is not written. -/
theorem Sound.plain {w : Wire} (h : w.Sound) {l : Loop} {ok : Bool}
    (hkey : l.conn.sessionKey = w.loop.conn.sessionKey)
    (hseq : l.conn.encSeqnum = w.loop.conn.encSeqnum) (hrun : w.loop.running = true)
    (hok : ok = true → w.loop.conn.sessionKey = none) : (w.after l [none] ok).Sound := by
  have hsilent : (w.after l [] ok).Sound := h.silent hkey hseq fun _ => hrun
  cases hwkey : w.key with
  | none =>
    have hnone := (h.fresh hwkey).1
    simpa [after, hwkey, hkey, hnone] using hsilent
  | some key =>
    have hcurrent := (h.current key hwkey hrun).1
    cases ok with
    | true => exact absurd (hcurrent.symm.trans (hok rfl)) (by simp)
    | false => simpa [after] using hsilent

/-- A sealed frame: under the key in use or the one just installed. -/
theorem Sound.sealed {w : Wire} (h : w.Sound) {l : Loop} {ok : Bool} {key : Bytes}
    (hkey : l.conn.sessionKey = some key)
    (hseq : l.conn.encSeqnum = w.loop.conn.encSeqnum + 1) (hrun : w.loop.running = true)
    (hkept : ok = true ∨ l.running = true → ∀ used, w.loop.conn.sessionKey = some used → used = key)
    (hbound : w.loop.conn.encSeqnum < 2 ^ 64) (hlost : ok = true → w.lost = false) :
    (w.after l [some (key, w.loop.conn.encSeqnum + 1)] ok).Sound := by
  have hnumbers : (w.seals ++ [(key, w.loop.conn.encSeqnum + 1)]).map Prod.snd =
      (List.range (w.loop.conn.encSeqnum + 1)).map (· + 1) := by
    rw [List.map_append, h.numbers, List.range_succ, List.map_append]
    rfl
  have hsome : (w.key <|> l.conn.sessionKey).isSome := by
    rw [hkey]
    cases w.key <;> rfl
  -- the first key is the one the frame is sealed under, unless the loop is left
  have hfirst : ∀ first, (w.key <|> l.conn.sessionKey) = some first →
      ok = true ∨ l.running = true → first = key := by
    intro first hf hgo
    cases hwkey : w.key with
    | none => simpa [hwkey, hkey] using hf.symm
    | some used =>
      obtain rfl : used = first := by simpa [hwkey] using hf
      exact hkept hgo used (h.current used hwkey hrun).1
  have hcount : w.lost = false → w.loop.conn.encSeqnum = w.written.length := by
    intro hw
    cases hwkey : w.key with
    | none =>
      obtain ⟨-, hzero, hnil, -⟩ := h.fresh hwkey
      simp [hzero, hnil]
    | some used => exact (h.current used hwkey hrun).2 hw
  have hwritten : ∀ first, (w.key <|> l.conn.sessionKey) = some first →
      w.written = (List.range w.written.length).map fun k => some (first, k + 1) := by
    intro first hf
    cases hwkey : w.key with
    | none => simp [(h.fresh hwkey).2.2.1]
    | some used =>
      obtain rfl : used = first := by simpa [hwkey] using hf
      exact h.inSequence used hwkey
  refine ⟨?_, ?_, ?_, ?_, ?_⟩
  · simpa [after, hseq] using hnumbers
  · show l.conn.encSeqnum ≤ 2 ^ 64
    omega
  · intro hnone
    exact absurd ((Option.isSome_iff_exists.mp hsome).choose_spec.symm.trans hnone) (by simp)
  · intro first hf
    cases ok with
    | true =>
      obtain rfl := hfirst first hf (.inl rfl)
      have hw := hwritten first hf
      simp only [after, true_and, hsome, ite_true, List.length_append, List.length_singleton,
        List.range_succ, List.map_append, List.map_singleton, ← hw, hcount (hlost rfl)]
    | false => simpa [after] using hwritten first hf
  · intro first hf hrunning
    refine ⟨(hfirst first hf (.inr hrunning)) ▸ hkey, fun hnotLost => ?_⟩
    cases ok with
    | true =>
      have hlength := hcount (hlost rfl)
      simp only [after, hseq, true_and, hsome, ite_true, List.length_append, List.length_singleton]
      omega
    | false => simp [after] at hnotLost

/-- What an event says on the line of the connection keeps the wire sound. -/
theorem Sound.said {w : Wire} (h : w.Sound) {l : Loop} {ok : Bool} {frames : List Frame}
    (offered : Option Bytes)
    (hline : (w.loop.line.install offered).say = ⟨l.conn.sessionKey, l.conn.encSeqnum, frames⟩)
    (hrun : w.loop.running = true)
    (hkept : ok = true ∨ l.running = true → ∀ key used, w.loop.conn.sessionKey = some used →
      offered = some key → key = used)
    (hbound : w.loop.conn.encSeqnum < 2 ^ 64) (hlost : ok = true → w.lost = false) :
    (w.after l frames ok).Sound := by
  cases hnext : (w.loop.line.install offered).key with
  | none =>
    have hnone : w.loop.conn.sessionKey = none := by
      cases offered with
      | none => exact hnext
      | some key => cases hnext
    simp only [Line.say, hnext, Line.mk.injEq] at hline
    obtain ⟨hkey, hseq, rfl⟩ := hline
    exact h.plain (hkey.symm.trans hnone.symm) hseq.symm hrun fun _ => hnone
  | some key =>
    simp only [Line.say, hnext, Line.mk.injEq] at hline
    obtain ⟨hkey, hseq, rfl⟩ := hline
    refine h.sealed hkey.symm hseq.symm hrun (fun hgo used hused => ?_) hbound hlost
    cases offered with
    | none => exact Option.some.inj (hused.symm.trans hnext)
    | some key' =>
      obtain rfl : key' = key := Option.some.inj hnext
      exact (hkept hgo key' used hused rfl).symm

/-- **One event.** A steady event keeps the wire sound. -/
theorem Sound.step {env : Env} {w : Wire} (h : w.Sound) {l : Loop} {e : LoopEvent}
    (hstep : Loop.step env w.loop e = some l) (hsteady : Steady env w e) :
    (w.after l (Loop.frames env w.loop e) (Loop.delivered e)).Sound := by
  obtain ⟨hkeeps, hsends⟩ := hsteady
  have hline := Loop.step_line hstep
  have hrunning := Loop.step_running hstep
  -- an event that leaves the line as it is sends nothing
  have hquiet (hl : e.talk env w.loop = w.loop.line) :
      (w.after l (Loop.frames env w.loop e) (Loop.delivered e)).Sound := by
    obtain ⟨hkey, hseq, hframes⟩ := Line.mk.inj (hl.symm.trans hline)
    rw [← hframes]
    exact h.silent hkey.symm hseq.symm fun hrun => (hrunning hrun).1
  cases e with
  | frame data io =>
    have hrun : w.loop.running = true := (Option.ite_none_right_eq_some.mp hstep).1
    cases hmsg : Session.received env w.loop.conn data with
    | none => exact hquiet (by simp only [LoopEvent.talk, hmsg])
    | some msg =>
      simp only [LoopEvent.talk, hmsg] at hline hquiet
      cases hanswered : Session.answered msg with
      | false => exact hquiet (Session.talk_of_not_answered hanswered _)
      | true =>
        obtain ⟨hbound, hlost⟩ := hsends ⟨msg, hmsg, hanswered⟩
        have hsent : io.sendOk = true ∨ l.running = true → io.sendOk = true := fun hgo =>
          hgo.elim id fun hl => (hrunning hl).2 data io rfl ⟨msg, hmsg, hanswered⟩
        cases msg with
        | publicKey pk =>
          refine h.said (offeredKey env pk) hline hrun ?_ hbound hlost
          intro hgo key used hused hoffered
          have hkept := hkeeps (hsent hgo) used hused
          simp only [hmsg] at hkept
          exact hkept key hoffered
        | signedId si =>
          obtain ⟨hkey, hseq, hframes⟩ := Line.mk.inj hline
          rw [← hframes]
          refine h.plain hkey.symm hseq.symm hrun fun hok => ?_
          by_contra hsome
          obtain ⟨key, hkey'⟩ := Option.ne_none_iff_exists'.mp hsome
          have hkept := hkeeps hok key hkey'
          simp only [hmsg] at hkept
        | loginRequest lr =>
          exact h.said none hline hrun (by simp) hbound hlost
        | testDelay td =>
          simp only [Message.talk, show td.fromClient = true from hanswered, ite_true] at hline
          exact h.said none hline hrun (by simp) hbound hlost
        | keyEvent | mouseEvent | clipboard | misc | other | empty => cases hanswered
  | media io =>
    obtain ⟨hbound, hlost⟩ := hsends trivial
    exact h.said none hline (Option.ite_none_right_eq_some.mp hstep).1 (by simp)
      hbound hlost
  | testDelayTick io =>
    by_cases hdue : w.loop.conn.state = .active ∧ w.loop.conn.lastTestDelaySent = none
    · obtain ⟨hbound, hlost⟩ := hsends hdue
      simp only [LoopEvent.talk, hdue, and_self, ite_true] at hline
      exact h.said none hline (Option.ite_none_right_eq_some.mp hstep).1 (by simp)
        hbound hlost
    · exact hquiet (if_neg hdue)
  | shutdown | closeAll => exact hquiet rfl

/-! ## The sequence -/

/-- Seals with the numbers from 1 on have different nonces. -/
theorem Sound.noReuse {w : Wire} (h : w.Sound) : NoReuse w := by
  refine List.Nodup.of_map Prod.snd ?_
  have hnonces : (w.seals.map fun s => (s.1, Session.getNonce s.2)).map Prod.snd =
      ((List.range w.loop.conn.encSeqnum).map (· + 1)).map Session.getNonce := by
    rw [← h.numbers, List.map_map, List.map_map]
    rfl
  rw [hnonces, List.map_map]
  refine List.Nodup.map_on (fun m hm n hn hmn => ?_) List.nodup_range
  have hbound := h.bounded
  rw [List.mem_range] at hm hn
  exact Nat.succ_injective (getNonce_injective (by omega) (by omega) hmn)

/-- **The sealed sequence.** In every run whose events are steady, the k-th frame
written since the first session key is sealed under it and number k, and no two
seals share a key and a nonce. -/
theorem sealed_in_sequence {env : Env} {config : RustDeskConfig} {w : Wire}
    (h : ((system env config).restrict (Steady env)).Reachable w) :
    InSequence w ∧ NoReuse w := by
  have hsound : w.Sound := by
    refine TSys.invariant (I := Sound) ?_ ?_ h
    · rintro w ⟨l, ⟨hid, audio, videoManager, now, rfl⟩, rfl⟩
      exact Sound.start rfl rfl
    · rintro w e w' hw ⟨hstep, hsteady⟩
      obtain ⟨l, hl, rfl⟩ := Option.map_eq_some_iff.mp hstep
      exact hw.step hl hsteady
  exact ⟨hsound.inSequence, hsound.noReuse⟩

/-! ## A key exchange, a video frame and a SignedId message -/

/-- The wire bytes of a SignedId message. -/
def signedIdMessage : Bytes := [0x1A, 0]

/-- The decoder knows the SignedId message too. -/
def sampleEnv : Env where
  __ := Loop.sampleEnv
  decodeMessage data :=
    if data = signedIdMessage then .ok (.signedId ⟨[]⟩) else Loop.sampleEnv.decodeMessage data

def sampleStart : Wire where
  loop := Loop.sampleStart

/-- A key exchange and a video frame. -/
theorem key_exchange_in_sequence : ∃ w : Wire, w.written.length = 2 ∧
    ((system sampleEnv Loop.sampleConfig).restrict (Steady sampleEnv)).Reachable w ∧
      InSequence w ∧ NoReuse w := by
  have hstart : ((system sampleEnv Loop.sampleConfig).restrict (Steady sampleEnv)).Reachable
      sampleStart := .init ⟨Loop.sampleStart, ⟨true, true, true, 0, rfl⟩, rfl⟩
  have hexchange : Steady sampleEnv sampleStart (.frame Loop.keyExchange { now := 1 }) :=
    ⟨fun _ key hkey => absurd hkey (by simp [sampleStart, Loop.sampleStart, Loop.start,
      Connection.new]), fun _ => ⟨by decide, fun _ => rfl⟩⟩
  have hkeyed := TSys.ofFn_restrict_step hstart _ rfl hexchange
  have hvideo := TSys.ofFn_restrict_step hkeyed (.media { now := 2 }) rfl
    ⟨fun _ => trivial, fun _ => ⟨by decide, fun _ => by decide⟩⟩
  exact ⟨_, by decide, hvideo, sealed_in_sequence hvideo⟩

/-- **The plain answer.** After the key exchange a SignedId message is answered in
plain. -/
theorem signedId_after_key_not_in_sequence :
    ¬ ∀ (env : Env) (config : RustDeskConfig) (w : Wire), (system env config).Reachable w →
      InSequence w ∧ NoReuse w := by
  intro halways
  have hstart : (system sampleEnv Loop.sampleConfig).Reachable sampleStart :=
    .init ⟨Loop.sampleStart, ⟨true, true, true, 0, rfl⟩, rfl⟩
  obtain ⟨w, hrun, hkey, hplain⟩ : ∃ w : Wire,
      [.frame Loop.keyExchange { now := 1 }, .frame signedIdMessage { now := 2 }].foldlM
        (step sampleEnv) sampleStart = some w ∧ w.key = some (List.replicate 32 2) ∧
        w.written = [some (List.replicate 32 2, 1), none] :=
    ⟨_, rfl, by decide, by decide⟩
  have hsequence := (halways _ _ w (TSys.ofFn_reachable hstart hrun)).1 _ hkey
  rw [hplain] at hsequence
  exact absurd hsequence (by decide)

end Wire

end StreamBox.RustDesk
