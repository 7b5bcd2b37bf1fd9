import StreamBox.Lib.Decimal
import StreamBox.Lib.Overwriting

/-!
# Versions

`parse_version`, `parse_version_parts` and `compare_versions`: a version is three decimal numbers
with points between them (`parse_iff`), compared one after the other (`compareVersionParts_eq_gt`);
a number from `2 ^ 64` on is none.
-/

namespace StreamBox.Update

open StreamBox.Lib

abbrev Text := List Char

/-! ## Manifests -/

inductive UpdateChannel
  | stable
  | beta
  deriving DecidableEq, Repr

structure ChannelsManifest where
  stable : Text
  beta : Text
  deriving DecidableEq, Repr

structure ArtifactInfo where
  url : Text
  sha256 : Text
  size : Nat
  deriving DecidableEq, Repr

structure ReleaseInfo where
  version : Text
  /-- By the target triple. -/
  artifacts : List (String × ArtifactInfo) := []
  deriving DecidableEq, Repr

structure ReleasesManifest where
  releases : List ReleaseInfo
  deriving DecidableEq, Repr

def ChannelsManifest.versionOf (channels : ChannelsManifest) : UpdateChannel → Text
  | .stable => channels.stable
  | .beta => channels.beta

inductive AppError
  | notFound (message : String)
  | badRequest (message : String)
  | internal (message : String)
  | io (message : String)
  deriving DecidableEq, Repr

/-- `to_string()` -/
def AppError.display : AppError → String
  | notFound message => "Not found: " ++ message
  | badRequest message => "Bad request: " ++ message
  | internal message => "Internal error: " ++ message
  | io message => "IO error: " ++ message

def shown (text : Text) : String := String.ofList text

/-! ## Parsing -/

def parseVersion (input : Text) : Except AppError Text :=
  let parts := input.splitOn '.'
  if parts.length ≠ 3 then
    .error (.internal s!"Invalid version {shown input}, expected x.x.x")
  else if parts.any fun p => p.isEmpty || !p.all Char.isDigit then
    .error (.internal s!"Invalid version {shown input}, expected numeric x.x.x")
  else .ok input

/-- `[u64; 3]` -/
structure VersionParts where
  major : Nat
  minor : Nat
  patch : Nat
  deriving DecidableEq, Repr

def parsePart (name : String) (part : Text) : Except AppError Nat :=
  match parseU64 part with
  | .ok n => .ok n
  | .error e => .error (.internal s!"Invalid {name} version {shown part}: {e}")

def parseVersionParts (input : Text) : Except AppError VersionParts :=
  match input.splitOn '.' with
  | [first, second, third] => do
    let major ← parsePart "major" first
    let minor ← parsePart "minor" second
    let patch ← parsePart "patch" third
    .ok ⟨major, minor, patch⟩
  | _ => .error (.internal s!"Invalid version {shown input}, expected x.x.x")

def compareVersionParts (a b : VersionParts) : Ordering :=
  ((compare a.major b.major).then (compare a.minor b.minor)).then (compare a.patch b.patch)

def compareVersions (a b : Text) : Except AppError Ordering := do
  let pa ← parseVersionParts a
  let pb ← parseVersionParts b
  .ok (compareVersionParts pa pb)

/-! ## What a version is -/

/-- Three numbers with points between them. -/
structure IsVersion (text : Text) (v : VersionParts) : Prop where
  spelled : ∃ first second third, text = first ++ '.' :: (second ++ '.' :: third) ∧
    IsNumber first v.major ∧ IsNumber second v.minor ∧ IsNumber third v.patch

/-- `a` is the newer version. -/
def VersionParts.Newer (a b : VersionParts) : Prop :=
  b.major < a.major ∨ (b.major = a.major ∧
    (b.minor < a.minor ∨ (b.minor = a.minor ∧ b.patch < a.patch)))

instance (a b : VersionParts) : Decidable (a.Newer b) :=
  inferInstanceAs (Decidable (_ ∨ (_ ∧ (_ ∨ (_ ∧ _)))))

theorem compareVersionParts_eq_gt {a b : VersionParts} :
    compareVersionParts a b = .gt ↔ a.Newer b := by
  unfold compareVersionParts VersionParts.Newer
  rw [Ordering.then_eq_gt, Ordering.then_eq_gt, Ordering.then_eq_eq, Nat.compare_eq_gt,
    Nat.compare_eq_gt, Nat.compare_eq_gt, Nat.compare_eq_eq, Nat.compare_eq_eq]
  omega

/-- The parts between the points. -/
theorem splitOn_eq_three {text first second third : Text} (h : ∀ p ∈ [first, second, third],
    '.' ∉ p) : text.splitOn '.' = [first, second, third] ↔
      text = first ++ '.' :: (second ++ '.' :: third) := by
  constructor
  · intro hsplit
    have hjoined : ['.'].intercalate (text.splitOn '.') = text := List.intercalate_splitOn '.'
    rw [← hjoined, hsplit]
    simp [List.intercalate]
  · rintro rfl
    have hjoin : first ++ '.' :: (second ++ '.' :: third)
        = ['.'].intercalate [first, second, third] := by simp [List.intercalate]
    rw [hjoin]
    exact List.splitOn_intercalate '.' h (by simp)

theorem not_mem_point {digits : Text} {n : Nat} (h : IsNumber digits n) : '.' ∉ digits :=
  fun hmem => absurd (List.all_eq_true.mp h.numeric _ hmem) (by decide)

theorem parsePart_eq_ok {name : String} {part : Text} {n : Nat} :
    parsePart name part = .ok n ↔ parseU64 part = .ok n := by
  unfold parsePart
  cases parseU64 part with
  | ok m => exact ⟨fun h => congrArg _ (Except.ok.inj h), fun h => congrArg _ (Except.ok.inj h)⟩
  | error e => exact ⟨fun h => (nomatch h), fun h => nomatch h⟩

theorem then_ok_iff {ε α β : Type} {x : Except ε α} {f : α → Except ε β} {b : β} :
    (x >>= f) = .ok b ↔ ∃ a, x = .ok a ∧ f a = .ok b := bind_ok_iff

theorem parseVersionParts_of_three {text first second third : Text} {v : VersionParts}
    (hsplit : text.splitOn '.' = [first, second, third]) :
    parseVersionParts text = .ok v ↔ parseU64 first = .ok v.major ∧
      parseU64 second = .ok v.minor ∧ parseU64 third = .ok v.patch := by
  rw [parseVersionParts, hsplit]
  dsimp only
  simp only [then_ok_iff, parsePart_eq_ok, Except.ok.injEq]
  constructor
  · rintro ⟨major, h₁, minor, h₂, patch, h₃, rfl⟩
    exact ⟨h₁, h₂, h₃⟩
  · rintro ⟨h₁, h₂, h₃⟩
    exact ⟨_, h₁, _, h₂, _, h₃, rfl⟩

/-- A text is parsed to the three numbers that it spells. -/
theorem parse_iff {text version : Text} {v : VersionParts} :
    parseVersion text = .ok version ∧ parseVersionParts version = .ok v ↔
      version = text ∧ IsVersion text v := by
  constructor
  · rintro ⟨hparse, hparts⟩
    unfold parseVersion at hparse
    dsimp only at hparse
    split at hparse
    · cases hparse
    · split at hparse
      · cases hparse
      · rename_i hlen hnumeric
        cases hparse
        refine ⟨rfl, ?_⟩
        obtain ⟨first, second, third, hsplit⟩ := List.length_eq_three.mp (not_not.mp hlen)
        rw [hsplit] at hnumeric
        have hgood : ∀ p ∈ [first, second, third], p ≠ [] ∧ p.all Char.isDigit = true := by
          intro p hp
          have hgood : ¬(p.isEmpty || !p.all Char.isDigit) = true := fun hbad =>
            hnumeric (List.any_eq_true.mpr ⟨p, hp, hbad⟩)
          simpa using hgood
        have hpoint : ∀ p ∈ [first, second, third], '.' ∉ p := fun p hp hmem =>
          absurd (List.all_eq_true.mp (hgood p hp).2 _ hmem) (by decide)
        have hnumber : ∀ p ∈ [first, second, third], ∀ n, parseU64 p = .ok n → IsNumber p n :=
          fun p hp n => (parseU64_eq_ok (hgood p hp).1 (hgood p hp).2).mp
        obtain ⟨h₁, h₂, h₃⟩ := (parseVersionParts_of_three hsplit).mp hparts
        exact ⟨first, second, third, (splitOn_eq_three hpoint).mp hsplit,
          hnumber first (by simp) _ h₁, hnumber second (by simp) _ h₂,
          hnumber third (by simp) _ h₃⟩
  · rintro ⟨rfl, first, second, third, htext, h₁, h₂, h₃⟩
    have hsplit := (splitOn_eq_three (by
      rintro p hp
      simp only [List.mem_cons, List.not_mem_nil, or_false] at hp
      rcases hp with rfl | rfl | rfl
      · exact not_mem_point h₁
      · exact not_mem_point h₂
      · exact not_mem_point h₃)).mpr htext
    constructor
    · unfold parseVersion
      dsimp only
      rw [hsplit, if_neg (by simp), if_neg]
      simp [h₁.nonempty, h₂.nonempty, h₃.nonempty, h₁.numeric, h₂.numeric, h₃.numeric]
    · rw [parseVersionParts_of_three hsplit]
      exact ⟨h₁.parse, h₂.parse, h₃.parse⟩

end StreamBox.Update
