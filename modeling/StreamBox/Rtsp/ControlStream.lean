import StreamBox.Rtsp.Reaction

/-!
# What a client sends

A control stream is a list of requests and interleaved frames. The buffer functions find the
first of them, and find nothing in a proper beginning of one.
-/

namespace StreamBox.Rtsp

open StreamBox.RustDesk

/-! ## UTF-8 -/

theorem decodeChar_encode (c : Char) (rest : Bytes) :
    decodeChar (String.utf8EncodeChar c ++ rest) = some c := by
  unfold decodeChar
  have hlen : (String.utf8EncodeChar c).length ≤ 4 := by
    rw [String.length_utf8EncodeChar]
    exact Char.utf8Size_le_four c
  have henc : (String.utf8EncodeChar c).toByteArray = [c].utf8Encode := by
    simp [List.utf8Encode]
  rw [List.take_append, List.take_of_length_le hlen, List.toByteArray_append, henc]
  exact List.utf8DecodeChar?_utf8Encode_singleton_append

theorem lossyChars_encode (chars : List Char) :
    ∀ n, (encodeUtf8 chars).length ≤ n → lossyChars n (encodeUtf8 chars) = chars := by
  induction chars with
  | nil =>
    intro n _
    cases n <;> rfl
  | cons c chars ih =>
    intro n hn
    have hsplit : encodeUtf8 (c :: chars) = String.utf8EncodeChar c ++ encodeUtf8 chars := by
      simp [encodeUtf8]
    have hsize := String.length_utf8EncodeChar c
    have hpos := Char.utf8Size_pos c
    rw [hsplit, List.length_append, hsize] at hn
    cases n with
    | zero => omega
    | succ n =>
      cases hb : encodeUtf8 (c :: chars) with
      | nil =>
        rw [hsplit] at hb
        have := congrArg List.length hb
        simp at this
        omega
      | cons b bytes =>
        have hfirst : decodeChar (b :: bytes) = some c := by
          rw [← hb, hsplit, decodeChar_encode]
        have hrest : (b :: bytes).drop c.utf8Size = encodeUtf8 chars := by
          rw [← hb, hsplit, ← hsize, List.drop_left]
        simp only [lossyChars, hfirst, hrest, ih n (by omega)]

/-- Nothing is lost of what is UTF-8. -/
theorem fromUtf8Lossy_encode (chars : List Char) :
    fromUtf8Lossy (encodeUtf8 chars) = chars :=
  lossyChars_encode chars _ le_rfl

/-! ## Finding a delimiter -/

theorem findBytes_add_le {needle : Bytes} :
    ∀ {haystack : Bytes} {i}, findBytes haystack needle = some i →
      i + needle.length ≤ haystack.length := by
  intro haystack
  induction haystack with
  | nil =>
    intro i h
    unfold findBytes at h
    split at h
    · rename_i hn
      cases h
      simp [hn]
    · cases h
  | cons b rest ih =>
    intro i h
    unfold findBytes at h
    split at h
    · rename_i hp
      cases h
      have := (List.isPrefixOf_iff_prefix.mp hp).length_le
      omega
    · obtain ⟨j, hj, rfl⟩ := Option.map_eq_some_iff.mp h
      have := ih hj
      simp only [List.length_cons]
      omega

/-- What comes behind does not move the first find. -/
theorem findBytes_append {needle : Bytes} (hne : needle ≠ []) :
    ∀ {haystack : Bytes} {i} (rest : Bytes), findBytes haystack needle = some i →
      findBytes (haystack ++ rest) needle = some i := by
  intro haystack
  induction haystack with
  | nil =>
    intro i rest h
    simp [findBytes, hne] at h
  | cons b tail ih =>
    intro i rest h
    have hle := findBytes_add_le h
    unfold findBytes at h
    rw [List.cons_append]
    unfold findBytes
    by_cases hp : needle.isPrefixOf (b :: tail) = true
    · rw [if_pos hp] at h
      have hp' : needle.isPrefixOf (b :: (tail ++ rest)) = true := by
        rw [List.isPrefixOf_iff_prefix] at hp ⊢
        exact List.IsPrefix.trans hp (by simp)
      rw [if_pos hp', h]
    · rw [if_neg hp] at h
      obtain ⟨j, hj, rfl⟩ := Option.map_eq_some_iff.mp h
      have hj' := findBytes_add_le hj
      have hp' : ¬ needle.isPrefixOf (b :: (tail ++ rest)) = true := by
        rw [List.isPrefixOf_iff_prefix] at hp ⊢
        intro hpre
        apply hp
        have htail : b :: tail <+: b :: (tail ++ rest) := by simp
        apply List.prefix_of_prefix_length_le hpre htail
        simp only [List.length_cons] at hle ⊢
        omega
      rw [if_neg hp', ih rest hj]
      rfl

/-! ## Items -/

inductive Item
  /-- A request: what ends with the empty line, and the body it announces. -/
  | request (head body : Bytes)
  | frame (channel : UInt8) (payload : Bytes)
  deriving DecidableEq, Repr

namespace Item

def bytes : Item → Bytes
  | .request head body => head ++ body
  | .frame channel payload => interleavedHeader channel payload ++ payload

def IsFrame : Item → Prop
  | .request _ _ => False
  | .frame _ _ => True

instance (item : Item) : Decidable item.IsFrame := by
  unfold IsFrame
  split <;> infer_instance

/-- A whole request that the parser reads as one, or a frame whose length fits its header. -/
def WellFormed (parse : MessageParser) : Item → Prop
  | .request head body =>
    drainRequest head = some (head, []) ∧ (∃ chars, head = encodeUtf8 chars) ∧
      head.head? ≠ some dollar ∧
      ∃ req, parse (head ++ body) = some (.request req, (head ++ body).length)
  | .frame _ payload => payload.length < 65536

end Item

def streamBytes (items : List Item) : Bytes := items.flatMap Item.bytes

@[simp] theorem streamBytes_nil : streamBytes [] = [] := rfl

@[simp] theorem streamBytes_cons (item : Item) (items : List Item) :
    streamBytes (item :: items) = item.bytes ++ streamBytes items := rfl

@[simp] theorem streamBytes_append (xs ys : List Item) :
    streamBytes (xs ++ ys) = streamBytes xs ++ streamBytes ys := by
  simp [streamBytes]

/-- Where each request of the stream begins, and its bytes. -/
def located : Nat → List Item → List (Nat × Bytes)
  | _, [] => []
  | n, .request head body :: items =>
    (n, head ++ body) :: located (n + (head ++ body).length) items
  | n, item :: items => located (n + item.bytes.length) items

theorem located_append (xs ys : List Item) :
    ∀ n, located n (xs ++ ys) = located n xs ++ located (n + (streamBytes xs).length) ys := by
  induction xs with
  | nil =>
    intro n
    simp [located]
  | cons x xs ih =>
    intro n
    cases x with
    | request head body =>
      simp only [List.cons_append, located, ih, streamBytes_cons, List.length_append, Item.bytes]
      simp [Nat.add_assoc]
    | frame channel payload =>
      simp only [List.cons_append, located, ih, streamBytes_cons, List.length_append]
      simp [Nat.add_assoc]

theorem located_cons (n : Nat) (item : Item) (items : List Item) :
    located n (item :: items) = located n [item] ++ located (n + item.bytes.length) items := by
  have h := located_append [item] items n
  simpa using h

theorem located_frames {items : List Item} (h : ∀ item ∈ items, item.IsFrame) :
    ∀ n, located n items = [] := by
  induction items with
  | nil => exact fun _ => rfl
  | cons x xs ih =>
    intro n
    cases x with
    | request head body => exact absurd (h _ List.mem_cons_self) id
    | frame channel payload =>
      simp only [located]
      exact ih (fun item hi => h item (List.mem_cons_of_mem _ hi)) _

/-! ## The buffer functions on a stream -/

theorem drainRequest_lt {buffer req rest : Bytes} (h : drainRequest buffer = some (req, rest)) :
    rest.length < buffer.length := by
  obtain ⟨i, hi, he⟩ := Option.map_eq_some_iff.mp h
  have hle := findBytes_add_le hi
  cases he
  simp only [List.length_drop, delimiter, List.length_cons, List.length_nil] at hle ⊢
  omega

/-- The delimiter of a whole head is at its end. -/
theorem findBytes_head {head : Bytes} (h : drainRequest head = some (head, [])) :
    ∃ i, findBytes head delimiter = some i ∧ i + delimiter.length = head.length := by
  obtain ⟨i, hi, he⟩ := Option.map_eq_some_iff.mp h
  have hle := findBytes_add_le hi
  have hdrop := congrArg (fun x : Bytes × Bytes => x.2.length) he
  simp only [List.length_drop, List.length_nil] at hdrop
  exact ⟨i, hi, by omega⟩

theorem drainRequest_append {head : Bytes} (h : drainRequest head = some (head, []))
    (rest : Bytes) : drainRequest (head ++ rest) = some (head, rest) := by
  obtain ⟨i, hi, hlen⟩ := findBytes_head h
  unfold drainRequest
  rw [findBytes_append (by decide) rest hi, Option.map_some, hlen, List.take_left, List.drop_left]

theorem drainRequest_partial {head begun rest : Bytes}
    (h : drainRequest head = some (head, [])) (hsplit : head = begun ++ rest)
    (hrest : rest ≠ []) : drainRequest begun = none := by
  obtain ⟨i, hi, hlen⟩ := findBytes_head h
  unfold drainRequest
  cases hb : findBytes begun delimiter with
  | none => rfl
  | some j =>
    have hle := findBytes_add_le hb
    have happ := findBytes_append (by decide) rest hb
    rw [← hsplit, hi] at happ
    cases happ
    have := List.length_pos_iff.mpr hrest
    rw [hsplit, List.length_append] at hlen
    omega

theorem strip_of_head_ne {buffer : Bytes} (h : buffer.head? ≠ some dollar) :
    stripInterleavedFramesPrefix buffer = none := by
  unfold stripInterleavedFramesPrefix
  split
  · rw [if_pos]
    intro hb
    exact h (by rw [hb]; rfl)
  · rfl

theorem strip_lt {buffer rest : Bytes} (h : stripInterleavedFramesPrefix buffer = some rest) :
    rest.length < buffer.length := by
  unfold stripInterleavedFramesPrefix at h
  split at h
  · split at h
    · cases h
    · dsimp only at h
      split at h
      · cases h
      · cases h
        simp only [List.length_drop, List.length_cons]
        omega
  · cases h

theorem length_frame (channel : UInt8) (payload : Bytes) :
    (Item.frame channel payload).bytes.length = payload.length + 4 := by
  simp [Item.bytes, interleavedHeader]

/-- The two bytes of a frame's header that give its length. -/
theorem headerLen {n : Nat} (h : n < 65536) :
    (UInt8.ofNat (n % 65536 / 256)).toNat * 256 + (UInt8.ofNat (n % 65536 % 256)).toNat = n := by
  simp only [UInt8.toNat_ofNat']
  omega

theorem strip_frame {channel : UInt8} {payload : Bytes} (h : payload.length < 65536)
    (rest : Bytes) :
    stripInterleavedFramesPrefix ((Item.frame channel payload).bytes ++ rest) = some rest := by
  simp only [Item.bytes, interleavedHeader, List.cons_append, List.nil_append,
    stripInterleavedFramesPrefix]
  rw [if_neg (by simp), headerLen h, if_neg (by simp), List.drop_left]

theorem strip_partial_frame {channel : UInt8} {payload begun rest : Bytes}
    (h : payload.length < 65536)
    (hsplit : (Item.frame channel payload).bytes = begun ++ rest) (hrest : rest ≠ []) :
    stripInterleavedFramesPrefix begun = none := by
  have hpos := List.length_pos_iff.mpr hrest
  have hlen := congrArg List.length hsplit
  rw [length_frame, List.length_append] at hlen
  match begun, hsplit with
  | [], _ => rfl
  | [_], _ => rfl
  | [_, _], _ => rfl
  | [_, _, _], _ => rfl
  | _ :: _ :: _ :: _ :: begun, hsplit =>
    simp only [Item.bytes, interleavedHeader, List.cons_append, List.nil_append,
      List.cons.injEq] at hsplit
    obtain ⟨rfl, rfl, rfl, rfl, -⟩ := hsplit
    simp only [List.length_cons] at hlen
    simp only [stripInterleavedFramesPrefix]
    rw [if_neg (by simp), headerLen h, if_pos (by omega)]

end StreamBox.Rtsp
