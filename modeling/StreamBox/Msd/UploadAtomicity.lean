import StreamBox.Msd.Images

/-!
# Uploads are atomic

An upload checks that there is no image of its name, and renames its temporary file much later.
Its errors return where they occur; only some of them remove the file.

* **Atomicity** — `uploads_atomic_iff`: no image is changed by anything but its deletion and
  no file of a failed upload is listed, just when every rename finds its name still free and every
  error of an upload leaves no file of it.
* **Failure** — `upload_overwritten`: two uploads of one name.
-/

namespace StreamBox.Msd.Images

open StreamBox.Lib StreamBox.Config

/-- The images are there after the step as they were, byte for byte, but for a deleted one. -/
def KeepsImages (s : State) (e : Event) (t : State) : Prop :=
  ∀ name file, s.images (.named name) = some file →
    t.images (.named name) = some file ∨ e = .delete (.named name)

/-- The directory has a file of the call `i`. -/
def Listed (images : Directory) (i : Nat) : Prop :=
  ∃ name file, images name = some file ∧ file.writer = some i

/-- No file of a failed upload is in the directory. -/
def FailedUnlisted (s : State) : Prop :=
  ∀ i, s.calls[i]? = some (.uploaded false) → ¬Listed s.images i

/-! ## The condition -/

/-- The name that the step of a call renames its temporary file to. -/
def Call.renames (images : Directory) (i : Nat) : Call → Io → Option String
  | .upload name .rename, .ok => if (images (.upload i)).isSome then some name else none
  | .download _ (.rename name), .ok => if (images (.download i)).isSome then some name else none
  | _, _ => none

/-- The step fails the upload, and leaves a file of it. -/
def Upload.leaves (images : Directory) (i : Nat) (name : String) (cleanup : Bool) :
    Upload → Io → Bool
  | .chunks _, .fails | .flush, .fails => (images (.upload i)).isSome
  | .chunks bytesWritten, .chunk bytes =>
    bytesWritten + bytes.length > maxImageSize && !cleanup && (images (.upload i)).isSome
  | .chunks bytesWritten, .short bytes _ =>
    !(bytesWritten + bytes.length > maxImageSize && cleanup) && (images (.upload i)).isSome
  | .rename, .fails => !cleanup && (images (.upload i)).isSome
  | .info, .fails => (images (.named name)).any (·.writer == some i)
  | _, _ => false

def Call.leaves (images : Directory) (i : Nat) (cleanup : Bool) : Call → Io → Bool
  | .upload name pc, io => pc.leaves images i name cleanup io
  | _, _ => false

/-- A rename finds no image of its name. -/
def RenameOk (s : State) : Event → Prop
  | .advance i io _ => ∀ call ∈ s.calls[i]?, ∀ name ∈ call.renames s.images i io,
    s.images (.named name) = none
  | _ => True

/-- An upload that fails leaves no file. -/
def FailureOk (s : State) : Event → Prop
  | .advance i io cleanup => ∀ call ∈ s.calls[i]?, call.leaves s.images i cleanup io = false
  | _ => True

def UploadOk (s : State) (e : Event) : Prop :=
  RenameOk s e ∧ FailureOk s e

instance (s : State) : (e : Event) → Decidable (RenameOk s e)
  | .advance _ _ _ => inferInstanceAs (Decidable (∀ _ ∈ _, _))
  | .upload _ | .download _ | .cancel _ | .delete _ => inferInstanceAs (Decidable True)

instance (s : State) : (e : Event) → Decidable (FailureOk s e)
  | .advance _ _ _ => inferInstanceAs (Decidable (∀ _ ∈ _, _))
  | .upload _ | .download _ | .cancel _ | .delete _ => inferInstanceAs (Decidable True)

instance (s : State) (e : Event) : Decidable (UploadOk s e) := inferInstanceAs (Decidable (_ ∧ _))

/-! ## Renames -/

theorem cleanedUp_ne_rename {bytes : List UInt8} {cleanup : Bool} {name : String} {call next : Call} :
    some (cleanedUp bytes cleanup, call) ≠ some (.rename name, next) := by
  cases cleanup <;> simp [cleanedUp]

section Renames

variable {images : Directory} {i : Nat} {io : Io} {cleanup : Bool} {next : Call} {name : String}

theorem upload_renames {final : String} {pc : Upload}
    (h : pc.next images i final cleanup io = some (.rename name, next)) :
    (Call.upload final pc).renames images i io = some name := by
  cases pc with
  | check => cases h
  | create | flush | info => cases io <;> cases h
  | chunks bytesWritten =>
    cases io with
    | chunk bytes | short bytes n =>
      simp only [Upload.next] at h
      split at h
      · exact absurd h cleanedUp_ne_rename
      · cases h
    | ok | fails | head | length => cases h
  | rename =>
    cases io with
    | ok =>
      simp only [Upload.next] at h
      split at h <;> rename_i hsome
      · cases h
        rw [Call.renames, if_pos hsome]
      · exact absurd h cleanedUp_ne_rename
    | fails => exact absurd h cleanedUp_ne_rename
    | head | length | chunk | short => cases h

theorem download_renames {filename : Option String} {pc : Download}
    (h : pc.next images i filename cleanup io = some (.rename name, next)) :
    (Call.download filename pc).renames images i io = some name := by
  cases pc with
  | spawn | unregister => cases h
  | head | get | create | flush | info => cases io <;> cases h
  | chunks final contentLength =>
    cases io with
    | short bytes n => exact absurd h cleanedUp_ne_rename
    | ok | fails | head | length | chunk => cases h
  | verify final contentLength =>
    cases io with
    | ok =>
      simp only [Download.next] at h
      split at h
      · cases h
      · split at h
        · exact absurd h cleanedUp_ne_rename
        · cases h
    | fails | head | length | chunk | short => cases h
  | rename final =>
    cases io with
    | ok =>
      simp only [Download.next] at h
      split at h <;> rename_i hsome
      · cases h
        rw [Call.renames, if_pos hsome]
      · exact absurd h cleanedUp_ne_rename
    | fails => exact absurd h cleanedUp_ne_rename
    | head | length | chunk | short => cases h

theorem next_renames {call : Call}
    (h : call.next images i io cleanup = some (.rename name, next)) :
    call.renames images i io = some name := by
  cases call with
  | upload final pc => exact upload_renames h
  | download filename pc => exact download_renames h
  | uploaded | ended => cases h

/-- A call that renames is at its rename and has its temporary file. -/
theorem renames_cases {call : Call} (h : call.renames images i io = some name) :
    io = .ok ∧ (images (call.temp i)).isSome ∧
      (call = .upload name .rename ∨ ∃ filename, call = .download filename (.rename name)) := by
  unfold Call.renames at h
  split at h
  · split at h <;> cases h
    exact ⟨rfl, ‹_›, .inl rfl⟩
  · split at h <;> cases h
    exact ⟨rfl, ‹_›, .inr ⟨_, rfl⟩⟩
  · cases h

theorem effect_of_renames {call : Call} {effect : Effect}
    (h : call.next images i io cleanup = some (effect, next))
    (hrenames : call.renames images i io = some name) : effect = .rename name := by
  obtain ⟨rfl, hsome, rfl | ⟨filename, rfl⟩⟩ := renames_cases hrenames
  · have hnext : Upload.next images i name cleanup .rename .ok =
        some (.rename name, .upload name .info) := if_pos hsome
    rw [Call.next, hnext] at h
    cases h
    rfl
  · have hnext : Download.next images i filename cleanup (.rename name) .ok =
        some (.rename name, .download filename (.info name)) := if_pos hsome
    rw [Call.next, hnext] at h
    cases h
    rfl

end Renames

theorem apply_rename {images : Directory} {i : Nat} {temp : FileName} {name : String} :
    (Effect.rename name).apply images i temp (.named name) = images temp :=
  Function.update_self _ _ _

theorem apply_named {images : Directory} {i : Nat} {call : Call} {effect : Effect} {name : String}
    (h : effect ≠ .rename name) :
    effect.apply images i (call.temp i) (.named name) = images (.named name) := by
  have htemp : FileName.named name ≠ call.temp i := by cases call <;> simp [Call.temp]
  cases effect with
  | none => rfl
  | create | append | remove => exact Function.update_of_ne htemp _ _
  | rename final =>
    have hfinal : FileName.named name ≠ .named final := by
      rintro ⟨⟩
      exact h rfl
    exact (Function.update_of_ne hfinal _ _).trans (Function.update_of_ne htemp _ _)

/-- Only a rename changes the images. -/
theorem keepsImages_iff {s t : State} {e : Event} (htagged : Tagged s) (hstep : step s e = some t) :
    KeepsImages s e t ↔ RenameOk s e := by
  cases e with
  | upload name | download name =>
    cases hstep
    exact ⟨fun _ => trivial, fun _ name file hfile => .inl hfile⟩
  | cancel i =>
    refine ⟨fun _ => trivial, fun _ name file hfile => .inl ?_⟩
    simp only [step] at hstep
    split at hstep <;> cases hstep <;> exact hfile
  | delete other =>
    cases hstep
    refine ⟨fun _ => trivial, fun _ name file hfile => ?_⟩
    by_cases hname : FileName.named name = other
    · exact .inr (by rw [hname])
    · exact .inl ((Function.update_of_ne hname _ _).trans hfile)
  | advance i io cleanup =>
    obtain ⟨call, effect, next, hcall, hnext, rfl⟩ := advance_cases hstep
    constructor
    · intro hkeeps call' hcall' name hrenames
      rw [hcall] at hcall'
      cases hcall'
      obtain rfl := effect_of_renames hnext hrenames
      obtain ⟨-, hsome, hcases⟩ := renames_cases hrenames
      obtain ⟨file, hfile⟩ := Option.isSome_iff_exists.mp hsome
      cases hold : s.images (.named name) with
      | none => rfl
      | some old =>
        rcases hkeeps name old hold with hsame | hdelete
        · -- the old file would be the temporary one
          have hplaced := (apply_rename (i := i)).symm.trans hsame
          rw [hfile] at hplaced
          cases hplaced
          obtain ⟨call', hcall', hholds⟩ := htagged.held _ _ i hold (htagged.writer_temp hfile)
          rw [hcall] at hcall'
          cases hcall'
          rcases hcases with rfl | ⟨filename, rfl⟩ <;> cases hholds
        · cases hdelete
    · intro hok name file hfile
      refine .inl ((apply_named fun hrename => ?_).trans hfile)
      rw [hok call hcall name (next_renames (hrename ▸ hnext))] at hfile
      cases hfile

/-! ## Failures -/

section Failures

variable {images : Directory} {i : Nat}

theorem not_listed (h : ∀ other file, images other = some file → file.writer ≠ some i) :
    ¬Listed images i := by
  rintro ⟨other, file, hfile, hwriter⟩
  exact h other file hfile hwriter

/-- A call whose files can only be at one name. -/
theorem listed_iff {name : FileName}
    (h : ∀ other file, images other = some file → file.writer = some i → other = name) :
    Listed images i ↔ (images name).any (·.writer == some i) = true := by
  rw [Option.any_eq_true]
  constructor
  · rintro ⟨other, file, hfile, hwriter⟩
    obtain rfl := h other file hfile hwriter
    exact ⟨file, hfile, beq_iff_eq.mpr hwriter⟩
  · rintro ⟨file, hfile, hwriter⟩
    exact ⟨name, file, hfile, beq_iff_eq.mp hwriter⟩

variable {temp : FileName}
  (honly : ∀ other file, images other = some file → file.writer = some i → other = temp)
  (htemp : ∀ file, images temp = some file → file.writer = some i)

include honly htemp

/-- A call that can only have its temporary file. -/
theorem listed_temp : Listed images i ↔ (images temp).isSome = true := by
  rw [listed_iff honly]
  cases hfile : images temp with
  | none => simp
  | some file => simp [htemp file hfile]

theorem listed_append {bytes : List UInt8} :
    Listed ((Effect.append bytes).apply images i temp) i ↔ (images temp).isSome = true := by
  have hself : (Effect.append bytes).apply images i temp temp =
      (images temp).map fun file => { file with bytes := file.bytes ++ bytes } :=
    Function.update_self _ _ _
  have honly' : ∀ other file, (Effect.append bytes).apply images i temp other = some file →
      file.writer = some i → other = temp := by
    intro other file hfile hwriter
    by_cases hother : other = temp
    · exact hother
    · exact honly other file ((Function.update_of_ne hother _ _).symm.trans hfile) hwriter
  rw [listed_temp honly', hself, Option.isSome_map]
  intro file hfile
  obtain ⟨old, hold, rfl⟩ := Option.map_eq_some_iff.mp (hself.symm.trans hfile)
  exact htemp old hold

theorem listed_cleanedUp {bytes : List UInt8} {cleanup : Bool} :
    Listed ((cleanedUp bytes cleanup).apply images i temp) i ↔
      (!cleanup && (images temp).isSome) = true := by
  cases cleanup with
  | false => exact listed_append honly htemp
  | true =>
    refine iff_of_false (not_listed fun other file hfile hwriter => ?_) Bool.false_ne_true
    obtain ⟨hold, hne⟩ := of_update_none hfile
    exact hne (honly other file hold hwriter)

end Failures

/-- An upload that a step fails leaves a file just as the condition says. -/
theorem upload_leaves {images : Directory} {i : Nat} {name : String} {cleanup : Bool} {pc : Upload}
    {io : Io} {effect : Effect}
    (hheld : ∀ other file, images other = some file → file.writer = some i →
      (Call.upload name pc).holds i other)
    (htemp : ∀ file, images (.upload i) = some file → file.writer = some i)
    (h : pc.next images i name cleanup io = some (effect, .uploaded false)) :
    Listed (effect.apply images i (.upload i)) i ↔ pc.leaves images i name cleanup io = true := by
  cases pc with
  | check =>
    obtain rfl := (Prod.mk.inj (Option.some.inj h)).1
    exact iff_of_false (not_listed hheld) Bool.false_ne_true
  | create =>
    cases io <;> cases h
    exact iff_of_false (not_listed hheld) Bool.false_ne_true
  | chunks bytesWritten =>
    cases io with
    | fails =>
      cases h
      exact listed_temp hheld htemp
    | chunk bytes =>
      simp only [Upload.next] at h
      split at h <;> rename_i hover
      · cases h
        rw [listed_cleanedUp hheld htemp]
        simp [Upload.leaves, hover]
      · cases h
    | short bytes n =>
      simp only [Upload.next] at h
      split at h <;> rename_i hover
      · cases h
        rw [listed_cleanedUp hheld htemp]
        simp [Upload.leaves, hover]
      · cases h
        rw [listed_append hheld htemp]
        simp [Upload.leaves, hover]
    | ok | head | length => cases h
  | flush =>
    cases io <;> cases h
    exact listed_temp hheld htemp
  | rename =>
    cases io with
    | ok =>
      simp only [Upload.next] at h
      split at h <;> rename_i hsome
      · cases h
      · cases h
        rw [listed_cleanedUp hheld htemp]
        simp [Upload.leaves, hsome]
    | fails =>
      cases h
      exact listed_cleanedUp hheld htemp
    | head | length | chunk | short => cases h
  | info =>
    cases io with
    | ok =>
      obtain ⟨rfl, hmissing⟩ := Prod.mk.inj (Option.some.inj h)
      have hnone : (images (.named name)).isSome = false := Call.uploaded.inj hmissing
      refine iff_of_false (not_listed fun other file hfile hwriter => ?_) Bool.false_ne_true
      obtain rfl : other = .named name := hheld other file hfile hwriter
      have hsome : (images (.named name)).isSome = true := Option.isSome_of_mem hfile
      rw [hnone] at hsome
      cases hsome
    | fails =>
      cases h
      exact listed_iff hheld
    | head | length | chunk | short => cases h

/-- A step that does not fail the upload leaves nothing. -/
theorem not_leaves {images : Directory} {i : Nat} {name : String} {cleanup : Bool} {pc : Upload}
    {io : Io} {effect : Effect} {next : Call}
    (h : pc.next images i name cleanup io = some (effect, next)) (hnext : next ≠ .uploaded false) :
    pc.leaves images i name cleanup io = false := by
  cases pc with
  | check | create => rfl
  | chunks bytesWritten =>
    cases io with
    | ok | head | length => rfl
    | fails =>
      cases h
      exact absurd rfl hnext
    | chunk bytes =>
      simp only [Upload.next] at h
      split at h <;> rename_i hover
      · cases h
        exact absurd rfl hnext
      · simp [Upload.leaves, hover]
    | short bytes n =>
      simp only [Upload.next] at h
      split at h <;> cases h <;> exact absurd rfl hnext
  | flush | rename | info =>
    cases io with
    | fails =>
      cases h
      exact absurd rfl hnext
    | ok | head | length | chunk | short => rfl

theorem failed_append {s : State} {call : Call} {downloads : List Nat} (htagged : Tagged s)
    (h : FailedUnlisted s) :
    FailedUnlisted { s with calls := s.calls ++ [call], downloads } := by
  rintro i hfailed ⟨name, file, hfile, hwriter⟩
  obtain ⟨held, hheld, -⟩ := htagged.held name file i hfile hwriter
  refine h i ?_ ⟨name, file, hfile, hwriter⟩
  rcases getElem?_concat_cases hfailed with ⟨rfl, -⟩ | hold
  · exact absurd (List.getElem?_eq_some_iff.mp hheld).1 (Nat.lt_irrefl _)
  · exact hold

/-- A step keeps the directory free of files of failed uploads just when it meets the condition. -/
theorem failedUnlisted_iff {s t : State} {e : Event} (htagged : Tagged s) (h : FailedUnlisted s)
    (hstep : step s e = some t) : FailedUnlisted t ↔ FailureOk s e := by
  cases e with
  | upload name | download name =>
    cases hstep
    exact ⟨fun _ => trivial, fun _ => failed_append htagged h⟩
  | cancel i =>
    refine ⟨fun _ => trivial, fun _ => ?_⟩
    simp only [step] at hstep
    split at hstep <;> cases hstep <;> exact h
  | delete name =>
    cases hstep
    refine ⟨fun _ => trivial, fun _ i hfailed => ?_⟩
    rintro ⟨other, file, hfile, hwriter⟩
    exact h i hfailed ⟨other, file, (of_update_none hfile).1, hwriter⟩
  | advance i io cleanup =>
    obtain ⟨call, effect, next, hcall, hnext, rfl⟩ := advance_cases hstep
    have hheld : ∀ other file, s.images other = some file → file.writer = some i →
        call.holds i other := by
      intro other file hfile hwriter
      obtain ⟨call', hcall', hholds⟩ := htagged.held other file i hfile hwriter
      rw [hcall] at hcall'
      cases hcall'
      exact hholds
    constructor
    · intro ht call' hcall'
      rw [hcall] at hcall'
      cases hcall'
      cases call with
      | upload name pc =>
        by_cases hfailed : next = .uploaded false
        · subst hfailed
          have hunlisted := ht i (getElem?_set_changed hcall _)
          exact eq_false_of_ne_true fun hleaves => hunlisted ((upload_leaves hheld
            (fun file hfile => htagged.temp _ file i hfile (.inl rfl)) hnext).mpr hleaves)
        · exact not_leaves hnext hfailed
      | download | uploaded | ended => rfl
    · intro hok j hfailed
      rcases getElem?_set_cases hfailed with ⟨rfl, rfl⟩ | ⟨hj, hold⟩
      · cases call with
        | upload name pc =>
          intro hlisted
          have hleaves := (upload_leaves hheld
            (fun file hfile => htagged.temp _ file j hfile (.inl rfl)) hnext).mp hlisted
          have hno : pc.leaves s.images j name cleanup io = false := hok _ hcall
          rw [hno] at hleaves
          cases hleaves
        | download filename pc =>
          rcases download_next hnext with ⟨pc, hgoes⟩ | ⟨placed, -, hover⟩ | ⟨_, _, -, -, hover, -⟩
          · cases hgoes
          · cases hover
          · cases hover
        | uploaded | ended => cases hnext
      · rintro ⟨name, file, hfile, hwriter⟩
        exact h j hold ⟨name, file, htagged.others_file hfile hwriter hj, hwriter⟩

/-- **Atomicity.** In every run of uploads, downloads, cancellations and deletions: no step but a
deletion changes an image, and no file of a failed upload is in the directory, just when every
rename finds its name free and every error of an upload leaves no file of it. -/
theorem uploads_atomic_iff {trace : List (State × Event × State)} {s : State}
    (htrace : system.Trace trace s) :
    (∀ x ∈ trace, KeepsImages x.1 x.2.1 x.2.2 ∧ FailedUnlisted x.2.2) ↔
      ∀ x ∈ trace, UploadOk x.1 x.2.1 := by
  have himages := htrace.forall_iff (P := fun x => KeepsImages x.1 x.2.1 x.2.2)
    (Q := fun x => RenameOk x.1 x.2.1) fun x hreachable hstep =>
      keepsImages_iff (tagged_reachable hreachable) hstep
  have hfailed := TSys.Trace.forall_post_iff (P := FailedUnlisted) (G := FailureOk)
    (fun s hinit i hfailed => by
      rw [hinit.2.1] at hfailed
      cases hfailed)
    (fun s e t hreachable h hstep => failedUnlisted_iff (tagged_reachable hreachable) h hstep)
    htrace
  exact ⟨fun h x hx => ⟨himages.mp (fun x hx => (h x hx).1) x hx,
      hfailed.mp (fun x hx => (h x hx).2) x hx⟩,
    fun h x hx => ⟨himages.mpr (fun x hx => (h x hx).1) x hx,
      hfailed.mpr (fun x hx => (h x hx).2) x hx⟩⟩

/-! ## Runs -/

/-- The steps of upload `i` of one chunk, from its check to its answer. -/
def uploadSteps (i : Nat) (bytes : List UInt8) : List Event :=
  [.ok, .ok, .chunk bytes, .ok, .ok, .ok, .ok].map (.advance i · true)

/-- An upload after another one of the same name, which its check finds. -/
theorem second_refused :
    ∃ trace s, system.Trace trace s ∧ s.calls = [.uploaded true, .uploaded false] ∧
      ∀ x ∈ trace, KeepsImages x.1 x.2.1 x.2.2 ∧ FailedUnlisted x.2.2 := by
  let events : List Event := .upload "a" :: uploadSteps 0 [1] ++ [.upload "a", .advance 1 .ok true]
  have hrun : (events.foldlM (fun s e => if UploadOk s e then step s e else none) empty).any
      (fun s => s.calls = [.uploaded true, .uploaded false]) := by decide +kernel
  obtain ⟨s, hs, hcalls⟩ := (Option.any_eq_true _ _).mp hrun
  obtain ⟨trace, hguarded, -⟩ := TSys.ofFn_trace init_empty hs
  obtain ⟨htrace, hok⟩ := TSys.ofFn_guarded_trace hguarded
  exact ⟨trace, s, htrace, of_decide_eq_true hcalls, (uploads_atomic_iff htrace).mpr hok⟩

/-- **One name.** Two uploads whose checks come before their renames are answered with success,
and the second image takes the place of the first. -/
theorem upload_overwritten :
    ∃ s t u, system.Reachable s ∧ step s (.advance 1 .ok true) = some t ∧
      step t (.advance 1 .ok true) = some u ∧ u.calls = [.uploaded true, .uploaded true] ∧
      s.images (.named "a") = some ⟨[1], some 0⟩ ∧ u.images (.named "a") = some ⟨[2], some 1⟩ ∧
      ¬KeepsImages s (.advance 1 .ok true) t := by
  let events : List Event := [.upload "a", .upload "a", .advance 1 .ok true] ++
    uploadSteps 0 [1] ++ [.ok, .chunk [2], .ok, .ok].map (.advance 1 · true)
  have hrun : (events.foldlM step empty).any (fun s =>
      s.images (.named "a") = some ⟨[1], some 0⟩ ∧
      (step s (.advance 1 .ok true)).any (fun t => t.images (.named "a") = some ⟨[2], some 1⟩ ∧
        (step t (.advance 1 .ok true)).any (fun u =>
          u.calls = [.uploaded true, .uploaded true] ∧
          u.images (.named "a") = some ⟨[2], some 1⟩))) := by
    decide +kernel
  obtain ⟨s, hs, hends⟩ := (Option.any_eq_true _ _).mp hrun
  obtain ⟨hfirst, hsecond⟩ := of_decide_eq_true hends
  obtain ⟨t, ht, hends⟩ := (Option.any_eq_true _ _).mp hsecond
  obtain ⟨hplaced, hlast⟩ := of_decide_eq_true hends
  obtain ⟨u, hu, hends⟩ := (Option.any_eq_true _ _).mp hlast
  obtain ⟨hcalls, hstays⟩ := of_decide_eq_true hends
  refine ⟨s, t, u, TSys.ofFn_reachable (.init init_empty) hs, ht, hu, hcalls, hfirst, hstays,
    fun hkeeps => ?_⟩
  rcases hkeeps "a" _ hfirst with hsame | hdelete
  · rw [hplaced] at hsame
    cases hsame
  · cases hdelete

end StreamBox.Msd.Images
