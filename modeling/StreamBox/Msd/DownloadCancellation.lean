import StreamBox.Msd.Images

/-!
# Cancelled downloads

`download_image` puts a token into the map of the active downloads, and `cancel_download` takes it
out and cancels it; the task is never given the token. It takes its id out of the map itself when
`download_from_url` has returned, whose errors remove the temporary file only in some places.

* **Cancellation** — `consistent_of_kept`: as long as a cancel finds its id only after the download
  has failed, and no error leaves the temporary file, nothing of a cancelled download is in the
  directory, the map has the ids of the tasks at work, and no temporary file outlives the tasks.
* **Failures** — `cancelled_placed`, `abandoned_temporary`.
-/

namespace StreamBox.Msd.Images

open StreamBox.Lib StreamBox.Config

/-- Call `i` is a download whose task is still at work. -/
def Alive (s : State) (i : Nat) : Prop :=
  ∃ filename pc, s.calls[i]? = some (.download filename pc)

/-- Call `i` is a download that has its result and only takes its id out of the map. -/
def Finished (s : State) (i : Nat) : Prop :=
  ∃ filename placed, s.calls[i]? = some (.download filename (.unregister placed))

structure Consistent (s : State) : Prop where
  /-- No image and no temporary file of a cancelled download is there. -/
  cancelled : ∀ i ∈ s.cancelled, ∀ name file, s.images name = some file → file.writer ≠ some i
  /-- The ids in the map are those of the tasks at work, but for the cancelled ones. -/
  active : ∀ i, i ∈ s.downloads ↔ Alive s i ∧ i ∉ s.cancelled
  /-- A cancelled download is not at work any more. -/
  stopped : ∀ i ∈ s.cancelled, Alive s i → Finished s i
  /-- Without tasks there are no temporary files. -/
  temporary : (∀ i, ¬Alive s i) → ∀ j, s.images (.download j) = none

/-! ## The condition -/

/-- The step fails the download and leaves its temporary file, or it panics. -/
def Download.abandons (images : Directory) (i : Nat) (filename : Option String) (cleanup : Bool) :
    Download → Io → Bool
  | .head, .head name totalSize =>
    !totalSize.any (· > maxImageSize) && (sanitizeFilename (filename.getD name)).isNone
  | .chunks _ _, .fails | .flush _ _, .fails | .verify _ _, .fails =>
    (images (.download i)).isSome
  | .chunks _ _, .short _ _ | .rename _, .fails => !cleanup && (images (.download i)).isSome
  | .verify _ contentLength, .ok =>
    !cleanup && (images (.download i)).any fun file => contentLength.any (· ≠ file.bytes.length)
  | _, _ => false

def Call.abandons (images : Directory) (i : Nat) (cleanup : Bool) : Call → Io → Bool
  | .download filename pc, io => pc.abandons images i filename cleanup io
  | _, _ => false

/-- The download has failed, and only takes its id out of the map. -/
def Call.failed : Call → Bool
  | .download _ (.unregister false) => true
  | _ => false

/-- A cancel that finds its id comes after the download has failed, and a task that fails leaves
nothing. -/
def DownloadKept (s : State) : Event → Prop
  | .cancel i => i ∈ s.downloads → ∀ call ∈ s.calls[i]?, call.failed
  | .advance i io cleanup => ∀ call ∈ s.calls[i]?, call.abandons s.images i cleanup io = false
  | _ => True

instance (s : State) : (e : Event) → Decidable (DownloadKept s e)
  | .cancel _ => inferInstanceAs (Decidable (_ → ∀ _ ∈ _, _))
  | .advance _ _ _ => inferInstanceAs (Decidable (∀ _ ∈ _, _))
  | .upload _ | .download _ | .delete _ => inferInstanceAs (Decidable True)

theorem failed_cases {call : Call} (h : call.failed) :
    ∃ filename, call = .download filename (.unregister false) := by
  unfold Call.failed at h
  split at h
  · exact ⟨_, rfl⟩
  · cases h

/-! ## Downloads without their temporary file -/

/-- The call has left its temporary file behind it, if there is none. -/
def Call.past : Call → Bool
  | .download _ (.unregister _) | .ended => true
  | _ => false

structure Inv (s : State) : Prop where
  tagged : Tagged s
  active : ∀ i, i ∈ s.downloads ↔ Alive s i ∧ i ∉ s.cancelled
  past : ∀ i call, s.calls[i]? = some call → call.past → s.images (.download i) = none
  /-- A cancelled download has failed. -/
  failed : ∀ i ∈ s.cancelled, ∃ call, s.calls[i]? = some call ∧
    ((∃ filename, call = .download filename (.unregister false)) ∨ call = .ended)
  unlisted : ∀ i ∈ s.cancelled, ∀ name file, s.images name = some file → file.writer ≠ some i

theorem cleanedUp_temp {images : Directory} {i : Nat} {temp : FileName} {bytes : List UInt8}
    {cleanup : Bool} (h : cleanup = false → images temp = none) :
    (cleanedUp bytes cleanup).apply images i temp temp = none := by
  cases cleanup with
  | true => exact Function.update_self _ _ _
  | false =>
    refine (Function.update_self _ _ _).trans ?_
    rw [h rfl]
    rfl

/-- A step to the end of a download leaves no temporary file, as long as it meets the condition. -/
theorem past_next {images : Directory} {i : Nat} {filename : Option String} {cleanup : Bool}
    {pc : Download} {io : Io} {effect : Effect} {next : Call}
    (hnone : (Call.download filename pc).past → images (.download i) = none)
    (hheld : ∀ file, images (.download i) = some file →
      (Call.download filename pc).holds i (.download i))
    (hkept : pc.abandons images i filename cleanup io = false)
    (h : pc.next images i filename cleanup io = some (effect, next)) (hpast : next.past) :
    effect.apply images i (.download i) (.download i) = none := by
  have hunmade : ¬(Call.download filename pc).holds i (.download i) →
      images (.download i) = none := fun hnot =>
    Option.eq_none_iff_forall_ne_some.mpr fun file hfile => hnot (hheld file hfile)
  cases pc with
  | spawn =>
    cases h
    cases hpast
  | head =>
    cases io <;> cases h
    · exact hunmade id
    · exact hunmade id
  | get name totalSize =>
    cases io <;> cases h
    · exact hunmade id
    · cases hpast
  | create name contentLength =>
    cases io <;> cases h
    · cases hpast
    · exact hunmade id
  | chunks name contentLength =>
    cases io with
    | ok | chunk =>
      cases h
      cases hpast
    | fails =>
      cases h
      exact Option.isNone_iff_eq_none.mp (Option.isSome_eq_false_iff.mp hkept)
    | short bytes n =>
      cases h
      refine cleanedUp_temp fun hcleanup => ?_
      subst hcleanup
      exact Option.isNone_iff_eq_none.mp (Option.isSome_eq_false_iff.mp hkept)
    | head | length => cases h
  | flush name contentLength =>
    cases io <;> cases h
    · cases hpast
    · exact Option.isNone_iff_eq_none.mp (Option.isSome_eq_false_iff.mp hkept)
  | verify name contentLength =>
    cases io with
    | ok =>
      simp only [Download.next] at h
      split at h <;> rename_i hfile
      · cases h
        exact hfile
      · split at h <;> rename_i hlength <;> cases h
        · refine cleanedUp_temp fun hcleanup => ?_
          subst hcleanup
          have hsame : (images (.download i)).any (fun file =>
              contentLength.any (· ≠ file.bytes.length)) = false := hkept
          rw [hfile, Option.any_some, hlength] at hsame
          cases hsame
        · cases hpast
    | fails =>
      cases h
      exact Option.isNone_iff_eq_none.mp (Option.isSome_eq_false_iff.mp hkept)
    | head | length | chunk | short => cases h
  | rename name =>
    cases io with
    | ok =>
      simp only [Download.next] at h
      split at h <;> rename_i hsome <;> cases h
      · cases hpast
      · exact cleanedUp_temp fun _ => Option.not_isSome_iff_eq_none.mp hsome
    | fails =>
      cases h
      refine cleanedUp_temp fun hcleanup => ?_
      subst hcleanup
      exact Option.isNone_iff_eq_none.mp (Option.isSome_eq_false_iff.mp hkept)
    | head | length | chunk | short => cases h
  | info name =>
    cases io <;> cases h
    all_goals exact hunmade fun hheld => by cases hheld
  | unregister placed =>
    cases h
    exact hnone rfl

/-! ## The invariant -/

/-- A temporary file is there while its download is neither over nor past it. -/
theorem temporary_of_past {s : State} (htagged : Tagged s)
    (hpast : ∀ i call, s.calls[i]? = some call → call.past → s.images (.download i) = none)
    (hnone : ∀ i, ¬Alive s i) (j : Nat) : s.images (.download j) = none := by
  refine Option.eq_none_iff_forall_ne_some.mpr fun file hfile => ?_
  obtain ⟨call, hcall, hholds⟩ := htagged.held _ file j hfile (htagged.temp _ file j hfile (.inr rfl))
  cases call with
  | upload name pc => cases pc <;> cases hholds
  | uploaded ok => exact hholds j rfl
  | download filename pc => exact hnone j ⟨filename, pc, hcall⟩
  | ended =>
    rw [hpast j _ hcall rfl] at hfile
    cases hfile

/-- Nothing is left of a download that has failed without its temporary file. -/
theorem unlisted_of_past {s : State} (htagged : Tagged s)
    (hpast : ∀ i call, s.calls[i]? = some call → call.past → s.images (.download i) = none)
    {i : Nat} {filename : Option String}
    (hcall : s.calls[i]? = some (.download filename (.unregister false))) (name : FileName)
    (file : File) (hfile : s.images name = some file) : file.writer ≠ some i := by
  intro hwriter
  obtain ⟨call, hcall', hholds⟩ := htagged.held name file i hfile hwriter
  rw [hcall] at hcall'
  cases hcall'
  obtain rfl : name = .download i := hholds
  rw [hpast i _ hcall rfl] at hfile
  cases hfile

theorem Inv.consistent {s : State} (h : Inv s) : Consistent s where
  cancelled := h.unlisted
  active := h.active
  stopped i hmem halive := by
    obtain ⟨call, hcall, ⟨filename, rfl⟩ | rfl⟩ := h.failed i hmem
    · exact ⟨filename, false, hcall⟩
    · obtain ⟨filename, pc, hcall'⟩ := halive
      rw [hcall] at hcall'
      cases hcall'
  temporary := temporary_of_past h.tagged h.past

theorem alive_append {s : State} {call : Call} {downloads : List Nat} {i : Nat} :
    Alive { s with calls := s.calls ++ [call], downloads } i ↔
      Alive s i ∨ i = s.calls.length ∧ ∃ filename pc, call = .download filename pc := by
  unfold Alive
  constructor
  · rintro ⟨filename, pc, hcall⟩
    rcases getElem?_concat_cases hcall with ⟨hlast, hnew⟩ | hold
    · exact .inr ⟨hlast, filename, pc, hnew.symm⟩
    · exact .inl ⟨filename, pc, hold⟩
  · rintro (⟨filename, pc, hcall⟩ | ⟨rfl, filename, pc, rfl⟩)
    · exact ⟨filename, pc, getElem?_append_kept hcall⟩
    · exact ⟨filename, pc, by simp⟩

theorem inv_append {s : State} {call : Call} {downloads : List Nat} (h : Inv s)
    (hpast : call.past = false)
    (hactive : ∀ i, i ∈ downloads ↔
      i ∈ s.downloads ∨ i = s.calls.length ∧ ∃ filename pc, call = .download filename pc) :
    Inv { s with calls := s.calls ++ [call], downloads } where
  tagged := tagged_append h.tagged call downloads
  active i := by
    rw [alive_append, hactive, h.active]
    constructor
    · rintro (⟨halive, hmem⟩ | hnew)
      · exact ⟨.inl halive, hmem⟩
      · refine ⟨.inr hnew, fun hmem => ?_⟩
        obtain ⟨call', hcall', -⟩ := h.failed i hmem
        have hi := (List.getElem?_eq_some_iff.mp hcall').1
        omega
    · rintro ⟨halive | hnew, hmem⟩
      · exact .inl ⟨halive, hmem⟩
      · exact .inr hnew
  past i call' hcall' hpast' := by
    rcases getElem?_concat_cases hcall' with ⟨-, rfl⟩ | hold
    · rw [hpast] at hpast'
      cases hpast'
    · exact h.past i call' hold hpast'
  failed i hmem := by
    obtain ⟨call', hcall', hfailed⟩ := h.failed i hmem
    exact ⟨call', getElem?_append_kept hcall', hfailed⟩
  unlisted := h.unlisted

theorem inv_cancel {s : State} {i : Nat} (h : Inv s) (hmem : i ∈ s.downloads)
    (hkept : DownloadKept s (.cancel i)) :
    Inv { s with downloads := s.downloads.filter (· ≠ i), cancelled := s.cancelled ++ [i] } := by
  obtain ⟨⟨filename, pc, hcall⟩, -⟩ := (h.active i).mp hmem
  obtain ⟨_, hfailed⟩ := failed_cases (hkept hmem _ hcall)
  cases hfailed
  exact {
    tagged := tagged_of_images h.tagged rfl fun _ _ hfile => hfile
    active := fun j => by
      have halive : Alive { s with
          downloads := s.downloads.filter (· ≠ i), cancelled := s.cancelled ++ [i] } j ↔
        Alive s j := Iff.rfl
      rw [halive]
      simp only [List.mem_filter, h.active, decide_eq_true_eq, List.mem_append,
        List.mem_singleton, not_or]
      exact and_assoc
    past := h.past
    failed := fun j hj => by
      rcases List.mem_append.mp hj with hj | hj
      · exact h.failed j hj
      · rw [List.mem_singleton.mp hj]
        exact ⟨_, hcall, .inl ⟨filename, rfl⟩⟩
    unlisted := fun j hj => by
      rcases List.mem_append.mp hj with hj | hj
      · exact h.unlisted j hj
      · rw [List.mem_singleton.mp hj]
        exact unlisted_of_past h.tagged h.past hcall }

theorem inv_delete {s : State} {name : FileName} (h : Inv s) :
    Inv { s with images := Function.update s.images name none } where
  tagged := tagged_of_images h.tagged rfl fun _ _ hfile => (of_update_none hfile).1
  active := h.active
  past i call hcall hpast := by
    refine Option.eq_none_iff_forall_ne_some.mpr fun file hfile => ?_
    have hold := (of_update_none hfile).1
    rw [h.past i call hcall hpast] at hold
    cases hold
  failed := h.failed
  unlisted i hmem other file hfile := h.unlisted i hmem other file (of_update_none hfile).1

/-- What a step of a call keeps of the other calls' files and of the invariant's other parts. -/
theorem inv_set {s : State} {i : Nat} {io : Io} {cleanup : Bool} {call next : Call}
    {effect : Effect} {downloads : List Nat} (h : Inv s) (hcall : s.calls[i]? = some call)
    (hnext : call.next s.images i io cleanup = some (effect, next))
    (hactive : ∀ j, j ∈ downloads ↔
      Alive { s with calls := s.calls.set i next } j ∧ j ∉ s.cancelled)
    (hpast : next.past → effect.apply s.images i (call.temp i) (.download i) = none)
    (hcancelled : i ∈ s.cancelled → effect = .none ∧ next = .ended) :
    Inv { s with
      images := effect.apply s.images i (call.temp i), calls := s.calls.set i next, downloads } where
  tagged := tagged_advance h.tagged hcall hnext
  active := hactive
  past j call' hcall' hpast' := by
    rcases getElem?_set_cases hcall' with ⟨rfl, rfl⟩ | ⟨hj, hold⟩
    · exact hpast hpast'
    · have htemp : FileName.download j ≠ call.temp i := fun hsame =>
        hj (temp_of_temp (.inr hsame.symm)).symm
      exact (Effect.apply_other htemp fun final hfinal => by cases hfinal).trans
        (h.past j call' hold hpast')
  failed j hmem := by
    by_cases hj : j = i
    · subst hj
      exact ⟨next, getElem?_set_changed hcall _, .inr (hcancelled hmem).2⟩
    · obtain ⟨call', hcall', hfailed⟩ := h.failed j hmem
      exact ⟨call', getElem?_set_kept hcall' hj, hfailed⟩
  unlisted j hmem name file hfile := by
    by_cases hj : j = i
    · subst hj
      obtain ⟨rfl, -⟩ := hcancelled hmem
      exact h.unlisted j hmem name file hfile
    · intro hwriter
      exact h.unlisted j hmem name file (h.tagged.others_file hfile hwriter hj) hwriter

theorem alive_set {s : State} {i j : Nat} {call next : Call} (hcall : s.calls[i]? = some call) :
    Alive { s with calls := s.calls.set i next } j ↔
      if j = i then ∃ filename pc, next = .download filename pc else Alive s j := by
  have hi : i < s.calls.length := (List.getElem?_eq_some_iff.mp hcall).1
  unfold Alive
  split <;> rename_i hj
  · subst hj
    simp only [List.getElem?_set_self hi, Option.some.injEq]
  · simp only [List.getElem?_set_ne (Ne.symm hj)]

/-- A download that has no result yet goes on, as long as it does not panic. -/
theorem alive_next {images : Directory} {i : Nat} {filename : Option String} {cleanup : Bool}
    {pc : Download} {io : Io} {effect : Effect} {next : Call}
    (hkept : pc.abandons images i filename cleanup io = false)
    (hpc : ∀ placed, pc ≠ .unregister placed)
    (h : pc.next images i filename cleanup io = some (effect, next)) :
    ∃ pc, next = .download filename pc := by
  rcases download_next h with hgoes | ⟨placed, hunregister, -⟩ |
    ⟨name, totalSize, rfl, rfl, -, hsize, hclean⟩
  · exact hgoes
  · exact absurd hunregister (hpc placed)
  · simp [Download.abandons, hsize, hclean] at hkept

theorem inv_upload {s : State} {i : Nat} {name : String} {pc : Upload} {io : Io} {cleanup : Bool}
    {next : Call} {effect : Effect} (h : Inv s) (hcall : s.calls[i]? = some (.upload name pc))
    (hnext : pc.next s.images i name cleanup io = some (effect, next)) :
    Inv { s with
      images := effect.apply s.images i (.upload i)
      calls := s.calls.set i next } := by
  have hnot : (¬∃ filename pc, next = .download filename pc) ∧ next.past = false := by
    rcases upload_next hnext with ⟨pc, rfl⟩ | ⟨ok, rfl⟩ <;> simp [Call.past]
  refine inv_set h hcall hnext (fun j => ?_) (fun hpast => ?_) fun hmem => ?_
  · rw [alive_set hcall, h.active]
    split <;> rename_i hj
    · subst hj
      refine iff_of_false (fun hold => ?_) fun hnew => hnot.1 hnew.1
      obtain ⟨⟨filename, pc, hdownload⟩, -⟩ := hold
      rw [hcall] at hdownload
      cases hdownload
    · rfl
  · rw [hnot.2] at hpast
    cases hpast
  · obtain ⟨call, hcall', ⟨filename, rfl⟩ | rfl⟩ := h.failed i hmem <;>
    · rw [hcall] at hcall'
      cases hcall'

theorem inv_unregister {s : State} {i : Nat} {filename : Option String} {placed : Bool} (h : Inv s)
    (hcall : s.calls[i]? = some (.download filename (.unregister placed))) (io : Io)
    (cleanup : Bool) :
    Inv { s with calls := s.calls.set i .ended, downloads := s.downloads.filter (· ≠ i) } := by
  have hnext : (Call.download filename (.unregister placed)).next s.images i io cleanup =
      some (.none, .ended) := rfl
  refine inv_set h hcall hnext (fun j => ?_) (fun _ => h.past i _ hcall rfl)
    fun _ => ⟨rfl, rfl⟩
  rw [alive_set hcall, List.mem_filter, h.active]
  split <;> rename_i hj
  · subst hj
    simp
  · simp [hj]

theorem inv_advance {s : State} {i : Nat} {io : Io} {cleanup : Bool} {call next : Call}
    {effect : Effect} (h : Inv s) (hcall : s.calls[i]? = some call)
    (hnext : call.next s.images i io cleanup = some (effect, next))
    (hkept : DownloadKept s (.advance i io cleanup)) :
    Inv { s with
      images := effect.apply s.images i (call.temp i)
      calls := s.calls.set i next
      downloads := if call.unregisters then s.downloads.filter (· ≠ i) else s.downloads } := by
  cases call with
  | uploaded | ended => cases hnext
  | upload name pc => exact inv_upload h hcall hnext
  | download filename pc =>
    by_cases hpc : ∃ placed, pc = .unregister placed
    · obtain ⟨placed, rfl⟩ := hpc
      cases hnext
      exact inv_unregister h hcall io cleanup
    · have hgoes := alive_next (hkept _ hcall) (fun placed hplaced => hpc ⟨placed, hplaced⟩)
        hnext
      have hregistered : (Call.download filename pc).unregisters = false := by
        cases pc with
        | unregister placed => exact absurd ⟨placed, rfl⟩ hpc
        | _ => rfl
      rw [hregistered]
      refine inv_set h hcall hnext (fun j => ?_) (fun hpast => ?_) fun hmem => ?_
      · rw [alive_set hcall, if_neg Bool.false_ne_true, h.active]
        split <;> rename_i hj
        · subst hj
          obtain ⟨pc', rfl⟩ := hgoes
          exact and_congr_left fun _ => iff_of_true ⟨filename, pc, hcall⟩ ⟨filename, pc', rfl⟩
        · rfl
      · refine past_next (h.past i _ hcall) (fun file hfile => ?_) (hkept _ hcall) hnext
          hpast
        obtain ⟨call', hcall', hholds⟩ :=
          h.tagged.held _ file i hfile (h.tagged.temp _ file i hfile (.inr rfl))
        rw [hcall] at hcall'
        cases hcall'
        exact hholds
      · obtain ⟨call, hcall', ⟨filename, rfl⟩ | rfl⟩ := h.failed i hmem
        · rw [hcall] at hcall'
          cases hcall'
          exact absurd ⟨_, rfl⟩ hpc
        · rw [hcall] at hcall'
          cases hcall'

theorem inv_step {s t : State} {e : Event} (h : Inv s) (hstep : step s e = some t)
    (hkept : DownloadKept s e) : Inv t := by
  cases e with
  | upload name =>
    cases hstep
    rcases begin_cases name with hcall | ⟨clean, hcall⟩
    · rw [hcall]
      exact inv_append h rfl fun i => by simp
    · rw [hcall]
      exact inv_append h rfl fun i => by simp
  | download filename =>
    cases hstep
    refine inv_append h rfl fun i => ?_
    rw [List.mem_append, List.mem_singleton]
    exact or_congr_right ⟨fun hi => ⟨hi, filename, .spawn, rfl⟩, fun hi => hi.1⟩
  | cancel i =>
    simp only [step] at hstep
    split at hstep <;> cases hstep
    · exact inv_cancel h ‹_› hkept
    · exact h
  | delete name =>
    cases hstep
    exact inv_delete h
  | advance i io cleanup =>
    obtain ⟨call, effect, next, hcall, hnext, rfl⟩ := advance_cases hstep
    exact inv_advance h hcall hnext hkept

theorem inv_init {s : State} (h : Init s) : Inv s where
  tagged := tagged_init h
  active i := by
    have halive : ¬Alive s i := by
      rintro ⟨filename, pc, hcall⟩
      rw [h.2.1] at hcall
      cases hcall
    simp [h.2.2.1, halive]
  past i call hcall := by
    rw [h.2.1] at hcall
    cases hcall
  failed := by simp [h.2.2.2]
  unlisted := by simp [h.2.2.2]

/-- **Cancellation.** In every run in which a cancel finds its id only after the download has
failed, and no error or panic of a task leaves something behind: nothing of a cancelled download
is in the directory, the active downloads are those whose tasks are at work, and no temporary file
is there when no task is. -/
theorem consistent_of_kept {s : State} (h : (system.restrict DownloadKept).Reachable s) :
    Consistent s := by
  refine Inv.consistent (TSys.invariant (I := Inv) ?_ ?_ h)
  · intro s hinit
    exact inv_init hinit
  · intro s e t hinv hstep
    exact inv_step hinv hstep.1 hstep.2

/-! ## Runs -/

/-- The steps of download `i` of one chunk that the server calls `name`. -/
def downloadSteps (i : Nat) (name : String) (bytes : List UInt8) : List Event :=
  [.ok, .head name none, .length none, .ok, .chunk bytes, .ok, .ok, .ok, .ok, .ok, .ok].map
    (.advance i · true)

/-- Two downloads; the first is cancelled when it has failed. -/
theorem cancelled_after_failure :
    ∃ s, (system.restrict DownloadKept).Reachable s ∧ Consistent s ∧ s.cancelled = [0] ∧
      s.calls = [.ended, .ended] ∧ s.images (.named "b") = some ⟨[2], some 1⟩ := by
  let events : List Event := [.download none, .download (some "b"), .advance 0 .ok true,
    .advance 0 .fails true, .cancel 0, .advance 0 .ok true] ++ downloadSteps 1 "a" [2]
  have hrun : (events.foldlM (fun s e => if DownloadKept s e then step s e else none) empty).any
      (fun s => s.cancelled = [0] ∧ s.calls = [.ended, .ended] ∧
        s.images (.named "b") = some ⟨[2], some 1⟩) := by
    decide +kernel
  obtain ⟨s, hs, hends⟩ := (Option.any_eq_true _ _).mp hrun
  have hreachable : (system.restrict DownloadKept).Reachable s :=
    TSys.ofFn_restrict_reachable (.init init_empty) hs
  exact ⟨s, hreachable, consistent_of_kept hreachable, of_decide_eq_true hends⟩

/-- **After a cancel.** The image of a cancelled download appears, and a stream error leaves the
temporary file for good. -/
theorem cancelled_placed :
    (∃ s, system.Reachable s ∧ s.cancelled = [0] ∧ s.images (.named "a") = some ⟨[1], some 0⟩ ∧
      ¬Consistent s) ∧
    ∃ s, system.Reachable s ∧ s.calls = [.ended] ∧ s.images (.download 0) = some ⟨[1], some 0⟩ ∧
      ¬Consistent s := by
  constructor
  · let events : List Event := .download none :: .cancel 0 :: downloadSteps 0 "a" [1]
    have hrun : (events.foldlM step empty).any (fun s =>
        s.cancelled = [0] ∧ s.images (.named "a") = some ⟨[1], some 0⟩) := by
      decide +kernel
    obtain ⟨s, hs, hends⟩ := (Option.any_eq_true _ _).mp hrun
    obtain ⟨hcancelled, hplaced⟩ := of_decide_eq_true hends
    refine ⟨s, TSys.ofFn_reachable (.init init_empty) hs, hcancelled, hplaced, fun h => ?_⟩
    exact h.cancelled 0 (by rw [hcancelled]; exact List.mem_cons_self) _ _ hplaced rfl
  · let events : List Event := .download none :: (downloadSteps 0 "a" [1]).take 5 ++
      [.advance 0 .fails true, .advance 0 .ok true]
    have hrun : (events.foldlM step empty).any (fun s =>
        s.calls = [.ended] ∧ s.images (.download 0) = some ⟨[1], some 0⟩) := by
      decide +kernel
    obtain ⟨s, hs, hends⟩ := (Option.any_eq_true _ _).mp hrun
    obtain ⟨hcalls, htemp⟩ := of_decide_eq_true hends
    refine ⟨s, TSys.ofFn_reachable (.init init_empty) hs, hcalls, htemp, fun h => ?_⟩
    have hnone := h.temporary (fun i => ?_) 0
    · rw [htemp] at hnone
      cases hnone
    · rintro ⟨filename, pc, hcall⟩
      have hmem := List.mem_of_getElem? hcall
      rw [hcalls] at hmem
      cases List.mem_singleton.mp hmem

end StreamBox.Msd.Images
