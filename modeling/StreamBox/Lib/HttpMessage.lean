import Mathlib.Data.List.Basic
import Mathlib.Data.List.Infix
import StreamBox.Lib.Trimming

/-!
# HTTP/1.1 requests

The grammar of a request message without a transfer coding, and what its target denotes.

* **Grammar** — `IsMessage.unique`: no bytes are two messages.
* **Target** — `denotes_of_plain`, `plain_of_denotes`: a path that is written without percent
  encoding is denoted just when nothing in it ends it or is decoded.
-/

namespace StreamBox.Lib.Http

abbrev Bytes := List UInt8

/-! ## Messages -/

def crlf : Bytes := [0x0D, 0x0A]

/-- `HTTP/1.1` -/
def version : Bytes := [0x48, 0x54, 0x54, 0x50, 0x2F, 0x31, 0x2E, 0x31]

/-- Letters, digits, and `!#$%&'*+-.^_|~` with the grave accent. -/
def isTokenByte (b : UInt8) : Bool :=
  (0x30 ≤ b && b ≤ 0x39) || (0x41 ≤ b && b ≤ 0x5A) || (0x61 ≤ b && b ≤ 0x7A) ||
    [0x21, 0x23, 0x24, 0x25, 0x26, 0x27, 0x2A, 0x2B, 0x2D, 0x2E, 0x5E, 0x5F, 0x60, 0x7C,
      0x7E].contains b

/-- What a field value has: no control characters but the tab. -/
def isFieldByte (b : UInt8) : Bool := b == 0x09 || (0x20 ≤ b && b != 0x7F)

/-- What a target has: no spaces, control characters and fragments. -/
def isTargetByte (b : UInt8) : Bool := 0x20 < b && b != 0x23 && b != 0x7F

structure Field where
  name : Bytes
  value : Bytes
  deriving DecidableEq, Repr

namespace Field

def line (f : Field) : Bytes := f.name ++ 0x3A :: (f.value ++ crlf)

def lower (b : UInt8) : UInt8 := if 0x41 ≤ b ∧ b ≤ 0x5A then b + 0x20 else b

/-- Names are compared without regard to case; `name` is in lower case. -/
def isNamed (name : Bytes) (f : Field) : Bool := f.name.map lower == name

/-- `content-length` -/
def isContentLength (f : Field) : Bool :=
  f.isNamed [0x63, 0x6F, 0x6E, 0x74, 0x65, 0x6E, 0x74, 0x2D, 0x6C, 0x65, 0x6E, 0x67, 0x74, 0x68]

/-- `transfer-encoding` -/
def isTransferEncoding (f : Field) : Bool :=
  f.isNamed [0x74, 0x72, 0x61, 0x6E, 0x73, 0x66, 0x65, 0x72, 0x2D, 0x65, 0x6E, 0x63, 0x6F, 0x64,
    0x69, 0x6E, 0x67]

/-- The decimal number of the value, with spaces and tabs around it. -/
def number (f : Field) : Option Nat :=
  let digits := trimEnds (fun b => b == 0x20 || b == 0x09) f.value
  if digits = [] ∨ digits.any (fun b => b < 0x30 || 0x39 < b) then none
  else some (digits.foldl (fun n b => n * 10 + (b.toNat - 0x30)) 0)

structure WellFormed (f : Field) : Prop where
  name_ne : f.name ≠ []
  name : ∀ b ∈ f.name, isTokenByte b = true
  value : ∀ b ∈ f.value, isFieldByte b = true

end Field

structure Request where
  method : Bytes
  target : Bytes
  fields : List Field
  body : Bytes
  deriving DecidableEq, Repr

def Request.bytes (m : Request) : Bytes :=
  m.method ++ 0x20 :: (m.target ++ 0x20 :: (version ++ crlf ++
    (m.fields.flatMap Field.line ++ (crlf ++ m.body))))

/-- The bytes are this request and nothing more. -/
structure IsMessage (bytes : Bytes) (m : Request) : Prop where
  bytes : bytes = m.bytes
  method : m.method ≠ [] ∧ ∀ b ∈ m.method, isTokenByte b = true
  target : m.target ≠ [] ∧ ∀ b ∈ m.target, isTargetByte b = true
  fields : ∀ f ∈ m.fields, f.WellFormed
  coding : ∀ f ∈ m.fields, f.isTransferEncoding = false
  length : ∀ f ∈ m.fields, f.isContentLength = true → f.number = some m.body.length
  body : (∀ f ∈ m.fields, f.isContentLength = false) → m.body = []

/-- Two lists are cut alike at a byte that is in neither. -/
theorem cut_unique {p : UInt8 → Bool} {a a' x x' : Bytes} (s : UInt8)
    (ha : ∀ b ∈ a, p b = true) (ha' : ∀ b ∈ a', p b = true) (hs : p s = false)
    (h : a ++ s :: x = a' ++ s :: x') : a = a' ∧ x = x' := by
  induction a generalizing a' with
  | nil =>
    cases a' with
    | nil => exact ⟨rfl, (List.cons.inj h).2⟩
    | cons b' a' =>
      have hb' := ha' b' List.mem_cons_self
      rw [← (List.cons.inj h).1, hs] at hb'
      cases hb'
  | cons b a ih =>
    cases a' with
    | nil =>
      have hb := ha b List.mem_cons_self
      rw [(List.cons.inj h).1, hs] at hb
      cases hb
    | cons b' a' =>
      obtain ⟨rfl, htail⟩ := List.cons.inj h
      obtain ⟨rfl, hrest⟩ := ih (fun b hb => ha b (List.mem_cons_of_mem _ hb))
        (fun b hb => ha' b (List.mem_cons_of_mem _ hb)) htail
      exact ⟨rfl, hrest⟩

/-- What is before the first such byte begins what is before another one. -/
theorem prefix_of_cut {p : UInt8 → Bool} {a a' x x' : Bytes} (s : UInt8)
    (ha' : ∀ b ∈ a', p b = true) (hs : p s = false) (h : a ++ s :: x = a' ++ s :: x') :
    a' <+: a := by
  rcases List.append_eq_append_iff.mp h with ⟨more, rfl, hmore⟩ | ⟨more, rfl, -⟩
  · cases more with
    | nil => exact (List.append_nil a).symm ▸ List.prefix_refl a
    | cons b more =>
      have hb := ha' b (List.mem_append_right _ List.mem_cons_self)
      rw [← (List.cons.inj hmore).1, hs] at hb
      cases hb
  · exact List.prefix_append a' more

/-- The fields end where a line is empty. -/
theorem fields_unique {fs fs' : List Field} {body body' : Bytes} (h : ∀ f ∈ fs, f.WellFormed)
    (h' : ∀ f ∈ fs', f.WellFormed)
    (heq : fs.flatMap Field.line ++ (crlf ++ body) = fs'.flatMap Field.line ++ (crlf ++ body')) :
    fs = fs' ∧ body = body' := by
  have hend : ∀ {f : Field} {fs : List Field} {body body' : Bytes}, f.WellFormed →
      (f :: fs).flatMap Field.line ++ (crlf ++ body) ≠ crlf ++ body' := by
    intro f fs body body' hf heq
    cases hname : f.name with
    | nil => exact hf.name_ne hname
    | cons b name =>
      rw [List.flatMap_cons, Field.line, hname] at heq
      have hb : b = 0x0D := (List.cons.inj heq).1
      have htoken := hf.name b (hname ▸ List.mem_cons_self)
      rw [hb] at htoken
      exact absurd htoken (by decide)
  induction fs generalizing fs' with
  | nil =>
    cases fs' with
    | nil => exact ⟨rfl, List.append_cancel_left heq⟩
    | cons f' fs' => exact absurd heq.symm (hend (h' f' List.mem_cons_self))
  | cons f fs ih =>
    cases fs' with
    | nil => exact absurd heq (hend (h f List.mem_cons_self))
    | cons f' fs' =>
      have hf := h f List.mem_cons_self
      have hf' := h' f' List.mem_cons_self
      simp only [List.flatMap_cons, Field.line, crlf, List.append_assoc, List.cons_append,
        List.nil_append] at heq
      obtain ⟨hname, hvalue⟩ := cut_unique 0x3A hf.name hf'.name (by decide) heq
      obtain ⟨hvalue, hrest⟩ := cut_unique 0x0D hf.value hf'.value (by decide) hvalue
      obtain ⟨hfields, hbody⟩ := ih (fun f hmem => h f (List.mem_cons_of_mem _ hmem))
        (fun f hmem => h' f (List.mem_cons_of_mem _ hmem)) (List.cons.inj hrest).2
      cases f
      cases f'
      cases hname
      cases hvalue
      exact ⟨congrArg _ hfields, hbody⟩

theorem IsMessage.unique {bytes : Bytes} {m m' : Request} (h : IsMessage bytes m)
    (h' : IsMessage bytes m') : m = m' := by
  have heq := h.bytes.symm.trans h'.bytes
  obtain ⟨hmethod, htarget⟩ := cut_unique 0x20 h.method.2 h'.method.2 (by decide) heq
  obtain ⟨htarget, hrest⟩ := cut_unique 0x20 h.target.2 h'.target.2 (by decide) htarget
  obtain ⟨hfields, hbody⟩ := fields_unique h.fields h'.fields (List.append_cancel_left hrest)
  cases m
  cases m'
  cases hmethod
  cases htarget
  cases hfields
  cases hbody
  rfl

/-! ## Targets -/

/-- The value of a hexadecimal digit. -/
def hexValue (b : UInt8) : Option UInt8 :=
  if 0x30 ≤ b ∧ b ≤ 0x39 then some (b - 0x30)
  else if 0x41 ≤ b ∧ b ≤ 0x46 then some (b - 0x37)
  else if 0x61 ≤ b ∧ b ≤ 0x66 then some (b - 0x57)
  else none

/-- The byte of an escape, of whose digits these are the two. -/
def escaped (x y : UInt8) : Option UInt8 :=
  (hexValue x).bind fun high => (hexValue y).map fun low => high * 16 + low

def percentDecode : Bytes → Bytes
  | 0x25 :: x :: y :: rest =>
    match escaped x y with
    | some b => b :: percentDecode rest
    | none => 0x25 :: percentDecode (x :: y :: rest)
  | b :: rest => b :: percentDecode rest
  | [] => []

/-- What a target has after its path. -/
def queryPart (query : Option Bytes) : Bytes := query.elim [] (0x3F :: ·)

def pathOf (target : Bytes) : Bytes := target.takeWhile (· != 0x3F)

def queryOf (target : Bytes) : Option Bytes :=
  match target.dropWhile (· != 0x3F) with
  | [] => none
  | _ :: query => some query

/-- The target denotes the path, which is given decoded, and the query. -/
def Denotes (target path : Bytes) (query : Option Bytes) : Prop :=
  percentDecode (pathOf target) = path ∧ queryOf target = query

/-- Nothing in the path is an escape or ends it. -/
def Plain (path : Bytes) : Prop :=
  0x3F ∉ path ∧ ∀ x y, [0x25, x, y] <:+: path → escaped x y = none

theorem plain_append_iff {a : Bytes} (hquery : 0x3F ∉ a) (hescape : 0x25 ∉ a) (path : Bytes) :
    Plain (a ++ path) ↔ Plain path := by
  have hwithin : ∀ x y, [0x25, x, y] <:+: a ++ path ↔ [0x25, x, y] <:+: path := by
    intro x y
    induction a with
    | nil => rfl
    | cons b a ih =>
      rw [List.cons_append, List.infix_cons_iff,
        ih (fun h => hquery (List.mem_cons_of_mem _ h)) fun h => hescape (List.mem_cons_of_mem _ h)]
      constructor
      · rintro (⟨more, hmore⟩ | h)
        · exact absurd ((List.cons.inj hmore).1 ▸ List.mem_cons_self) hescape
        · exact h
      · exact .inr
  rw [Plain, Plain, List.mem_append]
  simp only [hwithin, hquery, false_or]

theorem length_percentDecode_le (l : Bytes) : (percentDecode l).length ≤ l.length := by
  induction l using percentDecode.induct with
  | case1 x y rest b hb ih =>
    rw [percentDecode, hb]
    simp only [List.length_cons]
    omega
  | case2 x y rest hb ih =>
    rw [percentDecode, hb]
    exact Nat.succ_le_succ ih
  | case3 b rest hnot ih =>
    rw [percentDecode]
    · exact Nat.succ_le_succ ih
    · exact hnot
  | case4 => exact Nat.le_refl 0

theorem percentDecode_of_plain {l : Bytes}
    (h : ∀ x y, [0x25, x, y] <:+: l → escaped x y = none) : percentDecode l = l := by
  induction l using percentDecode.induct with
  | case1 x y rest b hb ih =>
    have hnone := h x y (List.prefix_append [0x25, x, y] rest).isInfix
    rw [hb] at hnone
    cases hnone
  | case2 x y rest hb ih =>
    rw [percentDecode, hb]
    exact congrArg _ (ih fun x y hmem => h x y (List.infix_cons hmem))
  | case3 b rest hnot ih =>
    rw [percentDecode]
    · exact congrArg _ (ih fun x y hmem => h x y (List.infix_cons hmem))
    · exact hnot
  | case4 => rfl

/-- An escape makes the decoded path shorter. -/
theorem length_percentDecode_lt {l : Bytes} {x y b : UInt8} (h : [0x25, x, y] <:+: l)
    (hb : escaped x y = some b) : (percentDecode l).length < l.length := by
  induction l using percentDecode.induct with
  | case1 x' y' rest b' hb' ih =>
    have hle := length_percentDecode_le rest
    rw [percentDecode, hb']
    simp only [List.length_cons]
    omega
  | case2 x' y' rest hb' ih =>
    rw [percentDecode, hb']
    rcases List.infix_cons_iff.mp h with hstarts | hwithin
    · obtain ⟨more, hmore⟩ := hstarts
      cases hmore
      rw [hb] at hb'
      cases hb'
    · exact Nat.succ_lt_succ (ih hwithin)
  | case3 a rest hnot ih =>
    rw [percentDecode]
    · rcases List.infix_cons_iff.mp h with hstarts | hwithin
      · obtain ⟨more, hmore⟩ := hstarts
        cases hmore
        exact absurd rfl (hnot x y more rfl)
      · exact Nat.succ_lt_succ (ih hwithin)
    · exact hnot
  | case4 => exact absurd (List.infix_nil.mp h) (List.cons_ne_nil _ _)

theorem target_eq (target : Bytes) : target = pathOf target ++ queryPart (queryOf target) := by
  have hsplit := List.takeWhile_append_dropWhile (p := (· != 0x3F)) (l := target)
  have hhead := List.head?_dropWhile_not (· != 0x3F) target
  rw [queryOf, pathOf]
  cases hdrop : target.dropWhile (· != 0x3F) with
  | nil =>
    rw [hdrop] at hsplit
    exact hsplit.symm
  | cons b query =>
    rw [hdrop] at hsplit hhead
    have hb : b = 0x3F := by simpa using hhead
    rw [hb] at hsplit
    exact hsplit.symm

theorem denotes_of_plain {path : Bytes} (h : Plain path) (query : Option Bytes) :
    Denotes (path ++ queryPart query) path query := by
  have hall : ∀ b ∈ path, (b != 0x3F) = true := by
    intro b hb
    rw [bne_iff_ne]
    rintro rfl
    exact h.1 hb
  cases query with
  | none =>
    rw [queryPart, Option.elim_none, List.append_nil]
    refine ⟨?_, ?_⟩
    · rw [pathOf, List.takeWhile_eq_self_iff.mpr hall, percentDecode_of_plain h.2]
    · rw [queryOf, List.dropWhile_eq_nil_iff.mpr hall]
  | some query =>
    refine ⟨?_, ?_⟩
    · rw [pathOf, List.takeWhile_append_of_pos hall, queryPart, Option.elim_some,
        List.takeWhile_cons_of_neg (by decide), List.append_nil, percentDecode_of_plain h.2]
    · rw [queryOf, List.dropWhile_append_of_pos hall, queryPart, Option.elim_some,
        List.dropWhile_cons_of_neg (by decide)]

/-- A target that begins what is written for the path and the query denotes them only if it is all
of that, and the path is plain. -/
theorem plain_of_denotes {target path : Bytes} {query : Option Bytes}
    (hstarts : target <+: path ++ queryPart query) (h : Denotes target path query) :
    target = path ++ queryPart query ∧ Plain path := by
  obtain ⟨hpath, hquery⟩ := h
  have hdecoded := length_percentDecode_le (pathOf target)
  have hlength := congrArg List.length (target_eq target)
  rw [List.length_append, hquery] at hlength
  have hwhole : target = path ++ queryPart query := by
    refine hstarts.eq_of_length_le ?_
    rw [List.length_append]
    rw [hpath] at hdecoded
    omega
  have hsame : pathOf target = path := by
    have heq := (target_eq target).symm.trans hwhole
    rw [hquery] at heq
    exact List.append_cancel_right heq
  refine ⟨hwhole, ?_, ?_⟩
  · intro hmem
    rw [← hsame] at hmem
    have hnot := List.mem_takeWhile_imp hmem
    exact absurd hnot (by decide)
  · intro x y hwithin
    cases hb : escaped x y with
    | none => rfl
    | some b =>
      have hlt := length_percentDecode_lt hwithin hb
      rw [hsame] at hpath
      rw [hpath] at hlt
      omega

end StreamBox.Lib.Http
