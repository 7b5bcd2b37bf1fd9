import Mathlib.Data.List.Nodup
import StreamBox.Lib.Totals

/-!
# Topics of the event bus

`EventBus` keeps a channel for every event name, one for every namespace and one for all events.
A WebSocket client names the topics it wants; `normalizeTopics` leaves out those that another
one contains.

* **Channels** — `channels_eq`: what an event is sent on.
* **Normal topics** — `planned_once`: of the receivers that a client gets for its topics, exactly
  one gets an event that matches them.
-/

namespace StreamBox.Events

open StreamBox.Lib

abbrev Topic := List Char

/-- Topics are sorted as strings are. -/
instance : LE Topic := List.instLE

/-- A `SystemEvent` without its fields. -/
inductive EventKind
  | streamModeSwitching
  | streamStateChanged
  | streamConfigChanging
  | streamConfigApplied
  | streamDeviceLost
  | streamReconnecting
  | streamRecovered
  | webRTCReady
  | streamStatsUpdate
  | streamModeChanged
  | streamModeReady
  | webRTCIceCandidate
  | webRTCIceComplete
  | msdUploadProgress
  | msdDownloadProgress
  | deviceInfo
  | error
  deriving DecidableEq, Repr

def eventName : EventKind → Topic
  | .streamModeSwitching => "stream.mode_switching".toList
  | .streamStateChanged => "stream.state_changed".toList
  | .streamConfigChanging => "stream.config_changing".toList
  | .streamConfigApplied => "stream.config_applied".toList
  | .streamDeviceLost => "stream.device_lost".toList
  | .streamReconnecting => "stream.reconnecting".toList
  | .streamRecovered => "stream.recovered".toList
  | .webRTCReady => "stream.webrtc_ready".toList
  | .streamStatsUpdate => "stream.stats_update".toList
  | .streamModeChanged => "stream.mode_changed".toList
  | .streamModeReady => "stream.mode_ready".toList
  | .webRTCIceCandidate => "webrtc.ice_candidate".toList
  | .webRTCIceComplete => "webrtc.ice_complete".toList
  | .msdUploadProgress => "msd.upload_progress".toList
  | .msdDownloadProgress => "msd.download_progress".toList
  | .deviceInfo => "system.device_info".toList
  | .error => "error".toList

def EXACT_TOPICS : List Topic :=
  ["stream.mode_switching".toList, "stream.state_changed".toList,
    "stream.config_changing".toList, "stream.config_applied".toList,
    "stream.device_lost".toList, "stream.reconnecting".toList, "stream.recovered".toList,
    "stream.webrtc_ready".toList, "stream.stats_update".toList, "stream.mode_changed".toList,
    "stream.mode_ready".toList, "webrtc.ice_candidate".toList, "webrtc.ice_complete".toList,
    "msd.upload_progress".toList, "msd.download_progress".toList,
    "system.device_info".toList, "error".toList]

def PREFIX_TOPICS : List Topic :=
  ["stream.*".toList, "webrtc.*".toList, "msd.*".toList, "system.*".toList]

/-- What is before the first dot, if there is one. -/
def splitOnce (topic : Topic) : Option Topic :=
  if '.' ∈ topic then some (topic.takeWhile (· ≠ '.')) else none

def topicPrefix (name : Topic) : Option Topic :=
  (splitOnce name).map fun namespaceName => namespaceName ++ ".*".toList

def endsWithWildcard (topic : Topic) : Bool := ".*".toList.isSuffixOf topic

/-! ## Channels -/

inductive Channel
  | exact (topic : Topic)
  | wildcard (topic : Topic)
  | all
  deriving DecidableEq, Repr

/-- The channels on which `publish` sends an event, in this order. -/
def channels (name : Topic) : List Channel :=
  (if EXACT_TOPICS.contains name then [.exact name] else []) ++
    (match topicPrefix name with
      | some topic => if PREFIX_TOPICS.contains topic then [.wildcard topic] else []
      | none => []) ++
    [.all]

def subscribeTopic (topic : Topic) : Option Channel :=
  if topic = "*".toList then some .all
  else if endsWithWildcard topic then
    if PREFIX_TOPICS.contains topic then some (.wildcard topic) else none
  else if EXACT_TOPICS.contains topic then some (.exact topic) else none

/-- An exact topic, a namespace or `*` that the event belongs to. -/
def Matches (topic : Topic) (kind : EventKind) : Prop :=
  topic = "*".toList ∨ topic = eventName kind ∨ topicPrefix (eventName kind) = some topic

instance (topic : Topic) (kind : EventKind) : Decidable (Matches topic kind) :=
  inferInstanceAs (Decidable (_ ∨ _ ∨ _))

/-! ## Topics of a client -/

/-- `Vec::dedup` drops repeated neighbours. -/
def dedup : List Topic → List Topic
  | [] => []
  | [topic] => [topic]
  | topic :: next :: rest =>
    if topic = next then dedup (next :: rest) else topic :: dedup (next :: rest)

def normalizeTopics (topics : List Topic) : List Topic :=
  let normalized := dedup (topics.mergeSort fun a b => decide (a ≤ b))
  if normalized.any (· == "*".toList) then ["*".toList]
  else
    normalized.filter fun topic =>
      if endsWithWildcard topic then true
      else
        match splitOnce topic with
        | none => true
        | some namespaceName => !topics.contains (namespaceName ++ ".*".toList)

def isDeviceInfoTopic (topic : Topic) : Bool :=
  topic == "*".toList || topic == "system.*".toList || topic == "system.device_info".toList

/-- Where a forwarding task takes its events from. -/
inductive Source
  | deviceInfo
  | bus (channel : Channel)
  deriving DecidableEq, Repr

/-- The receivers that `rebuild_event_tasks` makes for these topics. -/
def planFrom (deviceInfoTaskAdded : Bool) : List Topic → List (Topic × Source)
  | [] => []
  | topic :: rest =>
    (if isDeviceInfoTopic topic && !deviceInfoTaskAdded then [(topic, .deviceInfo)] else []) ++
      (if isDeviceInfoTopic topic && topic != "*".toList then []
        else
          match subscribeTopic topic with
          | some channel => [(topic, .bus channel)]
          | none => []) ++
      planFrom (isDeviceInfoTopic topic || deviceInfoTaskAdded) rest

def plan (topics : List Topic) : List (Topic × Source) := planFrom false (normalizeTopics topics)

/-- How often an event that is still to be sent on these channels comes to a receiver. -/
def Source.due (remaining : List Channel) : Source → Nat
  | .deviceInfo => 0
  | .bus channel => remaining.count channel

/-! ## What an event is sent on -/

theorem endsWithWildcard_eventName (kind : EventKind) :
    endsWithWildcard (eventName kind) = false := by
  cases kind <;> decide +kernel

theorem EXACT_TOPICS_eq : EXACT_TOPICS =
    [EventKind.streamModeSwitching, .streamStateChanged, .streamConfigChanging,
      .streamConfigApplied, .streamDeviceLost, .streamReconnecting, .streamRecovered,
      .webRTCReady, .streamStatsUpdate, .streamModeChanged, .streamModeReady,
      .webRTCIceCandidate, .webRTCIceComplete, .msdUploadProgress, .msdDownloadProgress,
      .deviceInfo, .error].map eventName := rfl

theorem eventName_mem (kind : EventKind) : EXACT_TOPICS.contains (eventName kind) = true := by
  refine List.contains_iff_mem.mpr ?_
  rw [EXACT_TOPICS_eq]
  refine List.mem_map_of_mem ?_
  cases kind <;> decide

theorem topicPrefix_mem {kind : EventKind} {topic : Topic}
    (h : topicPrefix (eventName kind) = some topic) : PREFIX_TOPICS.contains topic = true := by
  have hall : ∀ kind : EventKind,
      (topicPrefix (eventName kind)).all PREFIX_TOPICS.contains = true := by
    intro kind
    cases kind <;> decide +kernel
  have hthis := hall kind
  rw [h] at hthis
  exact hthis

theorem channels_eq (kind : EventKind) : channels (eventName kind) =
    .exact (eventName kind) :: ((topicPrefix (eventName kind)).toList.map .wildcard ++ [.all]) := by
  unfold channels
  rw [if_pos (eventName_mem kind)]
  cases hcategory : topicPrefix (eventName kind) with
  | none => rfl
  | some topic =>
    simp only [topicPrefix_mem hcategory]
    rfl

theorem endsWithWildcard_topicPrefix {name topic : Topic} (h : topicPrefix name = some topic) :
    endsWithWildcard topic = true := by
  obtain ⟨namespaceName, -, rfl⟩ := Option.map_eq_some_iff.mp h
  exact List.isSuffixOf_iff_suffix.mpr (List.suffix_append _ _)

/-- Only the device info belongs to the topics that skip the bus. -/
theorem not_matches_of_isDeviceInfoTopic {topic : Topic} {kind : EventKind}
    (hkind : kind ≠ .deviceInfo) (hstar : topic ≠ "*".toList)
    (h : isDeviceInfoTopic topic = true) : ¬ Matches topic kind := by
  have hall : ∀ kind : EventKind, kind ≠ .deviceInfo →
      ¬ Matches "system.*".toList kind ∧ ¬ Matches "system.device_info".toList kind := by
    intro kind hkind
    cases kind <;> first | decide +kernel | exact absurd rfl hkind
  obtain ⟨hsystem, hinfo⟩ := hall kind hkind
  simp only [isDeviceInfoTopic, Bool.or_eq_true, beq_iff_eq] at h
  rcases h with (h | h) | h
  · exact absurd h hstar
  · rw [h]
    exact hsystem
  · rw [h]
    exact hinfo

theorem count_wildcard (name : Topic) (topic : Topic) :
    ((topicPrefix name).toList.map Channel.wildcard).count (.wildcard topic)
      = if topicPrefix name = some topic then 1 else 0 := by
  cases topicPrefix name with
  | none => rfl
  | some wildcard =>
    by_cases heq : wildcard = topic
    · subst heq
      simp
    · simp [heq]

/-- The receiver for a topic gets an event once if the topic matches it. -/
theorem count_channels {kind : EventKind} {topic : Topic} {channel : Channel}
    (h : subscribeTopic topic = some channel) :
    (channels (eventName kind)).count channel = if Matches topic kind then 1 else 0 := by
  rw [channels_eq, List.count_cons, List.count_append]
  unfold subscribeTopic at h
  split at h
  · rename_i hstar
    obtain rfl := Option.some.inj h
    have hnone : ((topicPrefix (eventName kind)).toList.map Channel.wildcard).count .all = 0 := by
      refine List.count_eq_zero.mpr fun hmem => ?_
      obtain ⟨_, -, heq⟩ := List.mem_map.mp hmem
      cases heq
    have hmatches : Matches topic kind := .inl hstar
    rw [hnone, if_pos hmatches]
    rfl
  · rename_i hstar
    split at h
    · -- a namespace: no name ends in the wildcard
      rename_i hends
      have hname : topic ≠ eventName kind := by
        rintro rfl
        rw [endsWithWildcard_eventName] at hends
        cases hends
      have hmatches : Matches topic kind ↔ topicPrefix (eventName kind) = some topic := by
        simp only [Matches, hstar, hname, false_or]
      split at h
      · obtain rfl := Option.some.inj h
        rw [count_wildcard, if_congr hmatches rfl rfl]
        simp
      · cases h
    · -- an exact topic: every namespace ends in the wildcard
      rename_i hends
      have hcategory : topicPrefix (eventName kind) ≠ some topic := fun heq =>
        hends (endsWithWildcard_topicPrefix heq)
      have hmatches : Matches topic kind ↔ eventName kind = topic := by
        simp only [Matches, hstar, hcategory, false_or, or_false]
        exact eq_comm
      split at h
      · obtain rfl := Option.some.inj h
        have hnone : ((topicPrefix (eventName kind)).toList.map Channel.wildcard).count
            (.exact topic) = 0 := by
          refine List.count_eq_zero.mpr fun hmem => ?_
          obtain ⟨_, -, heq⟩ := List.mem_map.mp hmem
          cases heq
        rw [hnone, if_congr hmatches rfl rfl]
        simp
      · cases h

/-- A topic that matches an event is one the bus has a channel for. -/
theorem subscribeTopic_isSome {kind : EventKind} {topic : Topic} (h : Matches topic kind) :
    (subscribeTopic topic).isSome = true := by
  unfold subscribeTopic
  split
  · rfl
  · rename_i hstar
    rcases h with h | h | h
    · exact absurd h hstar
    · rw [h, if_neg (by rw [endsWithWildcard_eventName]; exact Bool.false_ne_true),
        if_pos (eventName_mem kind)]
      rfl
    · rw [if_pos (endsWithWildcard_topicPrefix h), if_pos (topicPrefix_mem h)]
      rfl

/-- How often an event comes to the receivers for one topic. -/
def topicDue (remaining : List Channel) (topic : Topic) : Nat :=
  if isDeviceInfoTopic topic && topic != "*".toList then 0
  else
    match subscribeTopic topic with
    | some channel => remaining.count channel
    | none => 0

theorem due_planFrom (remaining : List Channel) (added : Bool) (topics : List Topic) :
    total (fun p => p.2.due remaining) (planFrom added topics)
      = total (topicDue remaining) topics := by
  induction topics generalizing added with
  | nil => rfl
  | cons topic rest ih =>
    have hinfo : ∀ b : Bool, total (fun p => p.2.due remaining)
        (if b then [(topic, Source.deviceInfo)] else []) = 0 := by
      intro b
      cases b <;> rfl
    unfold planFrom
    rw [total_append, total_append, hinfo, ih, total_cons, Nat.zero_add]
    congr 1
    unfold topicDue
    split
    · rfl
    · split
      · simp [Source.due]
      · rfl

theorem topicDue_eq {kind : EventKind} (hkind : kind ≠ .deviceInfo) (topic : Topic) :
    topicDue (channels (eventName kind)) topic = if Matches topic kind then 1 else 0 := by
  unfold topicDue
  split
  · rename_i hinfo
    rw [Bool.and_eq_true, bne_iff_ne] at hinfo
    rw [if_neg (not_matches_of_isDeviceInfoTopic hkind hinfo.2 hinfo.1)]
  · split
    · rename_i channel hsub
      exact count_channels hsub
    · rename_i hsub
      rw [if_neg]
      intro hmatches
      have hsome := subscribeTopic_isSome hmatches
      rw [hsub] at hsome
      cases hsome

/-! ## Normal topics -/

theorem mem_dedup {topic : Topic} (topics : List Topic) : topic ∈ dedup topics ↔ topic ∈ topics := by
  induction topics using dedup.induct with
  | case1 => rfl
  | case2 => rfl
  | case3 next rest ih =>
    rw [dedup, if_pos rfl, ih]
    simp
  | case4 head next rest hne ih =>
    rw [dedup, if_neg hne, List.mem_cons, List.mem_cons, ih]

theorem nodup_dedup {topics : List Topic} (h : topics.Pairwise (· ≤ ·)) : (dedup topics).Nodup := by
  induction topics using dedup.induct with
  | case1 => exact List.nodup_nil
  | case2 topic => exact List.nodup_singleton topic
  | case3 next rest ih =>
    rw [dedup, if_pos rfl]
    exact ih (List.pairwise_cons.mp h).2
  | case4 head next rest hne ih =>
    obtain ⟨hhead, htail⟩ := List.pairwise_cons.mp h
    rw [dedup, if_neg hne]
    refine List.nodup_cons.mpr ⟨fun hmem => hne ?_, ih htail⟩
    -- everything from `next` on is at least `next`
    have hnext : head ≤ next := hhead next List.mem_cons_self
    rcases List.mem_cons.mp ((mem_dedup _).mp hmem) with heq | hrest
    · exact heq
    · exact List.le_antisymm hnext ((List.pairwise_cons.mp htail).1 head hrest)

theorem mem_sorted {topic : Topic} {topics : List Topic} :
    topic ∈ dedup (topics.mergeSort fun a b => decide (a ≤ b)) ↔ topic ∈ topics := by
  rw [mem_dedup, List.mem_mergeSort]

theorem nodup_sorted (topics : List Topic) :
    (dedup (topics.mergeSort fun a b => decide (a ≤ b))).Nodup := by
  refine nodup_dedup ?_
  have hsorted : (topics.mergeSort fun a b => decide (a ≤ b)).Pairwise
      fun a b => decide (a ≤ b) = true := by
    refine List.pairwise_mergeSort (fun a b c hab hbc => ?_) (fun a b => ?_) topics
    · exact decide_eq_true (List.le_trans (of_decide_eq_true hab) (of_decide_eq_true hbc))
    · rw [Bool.or_eq_true, decide_eq_true_eq, decide_eq_true_eq]
      exact List.le_total a b
  exact hsorted.imp of_decide_eq_true

/-- A topic that is not contained in another one. -/
theorem mem_normalizeTopics {topic : Topic} {topics : List Topic} (hstar : "*".toList ∉ topics) :
    topic ∈ normalizeTopics topics ↔ topic ∈ topics ∧
      (endsWithWildcard topic = true ∨ ∀ wildcard, topicPrefix topic = some wildcard →
        wildcard ∉ topics) := by
  have hany : (dedup (topics.mergeSort fun a b => decide (a ≤ b))).any (· == "*".toList)
      = false := by
    rw [List.any_eq_false]
    intro other hother heq
    rw [beq_iff_eq.mp heq] at hother
    exact hstar (mem_sorted.mp hother)
  unfold normalizeTopics
  dsimp only
  rw [hany, if_neg Bool.false_ne_true, List.mem_filter, mem_sorted]
  refine and_congr_right fun _ => ?_
  unfold topicPrefix
  split
  · rename_i hends
    simp [hends]
  · rename_i hends
    cases hsplit : splitOnce topic with
    | none => simp
    | some namespaceName => simp [hends]

theorem nodup_normalizeTopics (topics : List Topic) : (normalizeTopics topics).Nodup := by
  unfold normalizeTopics
  dsimp only
  split
  · exact List.nodup_singleton _
  · exact (nodup_sorted topics).filter _

/-- Exactly one of the normal topics matches an event that one of the topics matches. -/
theorem normalizeTopics_once {topics : List Topic} {kind : EventKind}
    (h : ∃ topic ∈ topics, Matches topic kind) :
    (normalizeTopics topics).countP (Matches · kind) = 1 := by
  by_cases hstar : "*".toList ∈ topics
  · have hany : (dedup (topics.mergeSort fun a b => decide (a ≤ b))).any (· == "*".toList)
        = true := List.any_eq_true.mpr ⟨_, mem_sorted.mpr hstar, beq_self_eq_true _⟩
    have hmatches : Matches "*".toList kind := .inl rfl
    unfold normalizeTopics
    dsimp only
    rw [if_pos hany, List.countP_singleton, if_pos (decide_eq_true hmatches)]
  · suffices hone : ∃ only ∈ normalizeTopics topics,
        ∀ topic ∈ normalizeTopics topics, Matches topic kind ↔ topic = only by
      obtain ⟨only, hmem, hiff⟩ := hone
      rw [← List.count_eq_one_of_mem (nodup_normalizeTopics topics) hmem]
      refine List.countP_congr fun topic htopic => ?_
      rw [decide_eq_true_eq, hiff topic htopic, beq_iff_eq]
    have hne : ∀ topic ∈ topics, topic ≠ "*".toList := by
      rintro topic hmem rfl
      exact hstar hmem
    by_cases hwild : ∃ wildcard ∈ topics, topicPrefix (eventName kind) = some wildcard
    · -- the namespace is there, and the name itself is dropped
      obtain ⟨wildcard, hmem, hcategory⟩ := hwild
      refine ⟨wildcard, (mem_normalizeTopics hstar).mpr
        ⟨hmem, .inl (endsWithWildcard_topicPrefix hcategory)⟩, fun topic htopic => ?_⟩
      obtain ⟨htopic, hkept⟩ := (mem_normalizeTopics hstar).mp htopic
      constructor
      · intro hmatches
        rcases hmatches with hmatches | hmatches | hmatches
        · exact absurd hmatches (hne topic htopic)
        · subst hmatches
          rcases hkept with hends | hkept
          · rw [endsWithWildcard_eventName] at hends
            cases hends
          · exact absurd hmem (hkept wildcard hcategory)
        · exact Option.some.inj (hmatches.symm.trans hcategory)
      · rintro rfl
        exact .inr (.inr hcategory)
    · -- only the name itself can match
      have hcategory : ∀ topic ∈ topics, Matches topic kind ↔ topic = eventName kind := by
        intro topic htopic
        refine ⟨fun hmatches => ?_, fun heq => .inr (.inl heq)⟩
        rcases hmatches with hmatches | hmatches | hmatches
        · exact absurd hmatches (hne topic htopic)
        · exact hmatches
        · exact absurd ⟨topic, htopic, hmatches⟩ hwild
      obtain ⟨topic, htopic, hmatches⟩ := h
      obtain rfl := (hcategory topic htopic).mp hmatches
      refine ⟨eventName kind, (mem_normalizeTopics hstar).mpr ⟨htopic, .inr ?_⟩, ?_⟩
      · intro wildcard hsome hmem
        exact hwild ⟨wildcard, hmem, hsome⟩
      · intro topic htopic
        exact hcategory topic ((mem_normalizeTopics hstar).mp htopic).1

/-- **One receiver.** Of the receivers for some topics exactly one gets an event that one of them
matches. -/
theorem planned_once {topics : List Topic} {kind : EventKind} (hkind : kind ≠ .deviceInfo)
    (h : ∃ topic ∈ topics, Matches topic kind) :
    total (fun p => p.2.due (channels (eventName kind))) (plan topics) = 1 := by
  have htotal : ∀ normalized : List Topic,
      total (topicDue (channels (eventName kind))) normalized
        = normalized.countP (Matches · kind) := by
    intro normalized
    induction normalized with
    | nil => rfl
    | cons topic rest ih =>
      rw [total_cons, ih, topicDue_eq hkind, List.countP_cons, Nat.add_comm]
      simp
  unfold plan
  rw [due_planFrom, htotal, normalizeTopics_once h]

end StreamBox.Events
