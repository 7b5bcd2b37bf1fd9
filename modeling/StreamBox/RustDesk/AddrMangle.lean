import Mathlib.Data.List.TakeWhile
import StreamBox.Lib.Checked
import StreamBox.Lib.LittleEndian

/-!
# Address mangling

`AddrMangle`: how socket addresses are written into rendezvous messages.

* **Encoding** — an IPv4 address is added to a mask taken from the clock and put with the
  port into one 128-bit number, whose high zero bytes are dropped; an IPv6 address is its
  octets and its port.
* **Decoding** — the length alone tells the two apart. Slices that do not fit panic.
* **Round trip** — `mangle_round_trip`, for every address and every reading of the clock.
-/

namespace StreamBox.RustDesk

/-! ## Addresses -/

structure Ipv4Addr where
  octets : List UInt8
  length_octets : octets.length = 4
  deriving DecidableEq

structure Ipv6Addr where
  octets : List UInt8
  length_octets : octets.length = 16
  deriving DecidableEq

inductive SocketAddr
  | v4 (ip : Ipv4Addr) (port : UInt16)
  | v6 (ip : Ipv6Addr) (port : UInt16) (flowinfo scopeId : UInt32)
  deriving DecidableEq

theorem Ipv4Addr.number_lt (ip : Ipv4Addr) : ofLeBytes ip.octets < 2 ^ 32 := by
  have h := ofLeBytes_lt ip.octets
  rw [ip.length_octets] at h
  exact h

namespace Ipv6Addr

/-- `::1`. -/
def isLoopback (ip : Ipv6Addr) : Bool := ip.octets = List.replicate 15 0 ++ [1]

/-- The IPv4 address of `::ffff:a.b.c.d`. -/
def toIpv4Mapped (ip : Ipv6Addr) : Option Ipv4Addr :=
  if ip.octets.take 12 = List.replicate 10 0 ++ [0xFF, 0xFF] then
    some ⟨ip.octets.drop 12, by rw [List.length_drop, ip.length_octets]⟩
  else none

end Ipv6Addr

/-- The address without flow label and scope. -/
def SocketAddr.plain : SocketAddr → SocketAddr
  | v4 ip port => v4 ip port
  | v6 ip port _ _ => v6 ip port 0 0

/-- Try to convert IPv6-mapped IPv4 address to plain IPv4. -/
def tryIntoV4 (addr : SocketAddr) : SocketAddr :=
  match addr with
  | .v4 _ _ => addr
  | .v6 ip port _ _ =>
    if !ip.isLoopback then
      match ip.toIpv4Mapped with
      | some ipv4 => .v4 ipv4 port
      | none => addr
    else addr

/-! ## Slices -/

/-- What stops a program that indexes a slice. -/
inductive Panic
  | sliceIndex | copyLength
  deriving DecidableEq, Repr

/-- `bytes[from..]`. -/
def sliceFrom (bytes : List UInt8) (start : Nat) : Except Panic (List UInt8) :=
  if start ≤ bytes.length then .ok (bytes.drop start) else .error .sliceIndex

/-- `bytes[..stop]`. -/
def sliceTo (bytes : List UInt8) (stop : Nat) : Except Panic (List UInt8) :=
  if stop ≤ bytes.length then .ok (bytes.take stop) else .error .sliceIndex

/-- `padded[..len].copy_from_slice(bytes)`. -/
def copyToFront (padded : List UInt8) (len : Nat) (bytes : List UInt8) :
    Except Panic (List UInt8) :=
  if len ≤ padded.length then
    if bytes.length = len then .ok (bytes ++ padded.drop len) else .error .copyLength
  else .error .sliceIndex

/-! ## AddrMangle -/

namespace AddrMangle

/-- `u128`: shifts drop the bits above. -/
def shl128 (x n : Nat) : Nat := (x <<< n) % 2 ^ 128

/-- The number an IPv4 address and a port are put into; `micros` is what the clock reads, in
microseconds since the epoch, or 0 before it. -/
def mangled (micros : Nat) (ip : Ipv4Addr) (port : UInt16) : Nat :=
  let tm := micros % 2 ^ 32
  let ip := ofLeBytes ip.octets
  shl128 (ip + tm) 49 ||| shl128 tm 17 ||| (port.toNat + (tm &&& 0xFFFF))

/-- How many zero bytes are at the end. -/
def countPadding (bytes : List UInt8) : Nat := (bytes.reverse.takeWhile (· = 0)).length

/-- Encode a SocketAddr to bytes using RustDesk's mangle algorithm. -/
def encode (micros : Nat) (addr : SocketAddr) : List UInt8 :=
  match tryIntoV4 addr with
  | .v4 ip port =>
    let bytes := leBytes 16 (mangled micros ip port)
    bytes.take (16 - countPadding bytes)
  | .v6 ip port _ _ => ip.octets ++ leBytes 2 port.toNat

/-- The address and the port in a mangled number. -/
def demangled (number : Nat) : SocketAddr :=
  let tm := (number >>> 17) &&& 0xFFFFFFFF
  let ip := leBytes 4 ((Checked.sub 128 (number >>> 49) tm).val % 2 ^ 32)
  let port := (Checked.sub 128 (number &&& 0xFFFFFF) (tm &&& 0xFFFF)).val % 2 ^ 16
  .v4 ⟨ip, length_leBytes _ _⟩ (UInt16.ofNat port)

/-- Decode bytes to SocketAddr using RustDesk's mangle algorithm. -/
def decode (bytes : List UInt8) : Except Panic (Option SocketAddr) := do
  if bytes.length > 16 then
    if bytes.length ≠ 18 then return none
    let port ← sliceFrom bytes 16
    if port.length ≠ 2 then return none
    let ip ← sliceTo bytes 16
    if h : ip.length = 16 then
      return some (.v6 ⟨ip, h⟩ (UInt16.ofNat (ofLeBytes port)) 0 0)
    else return none
  else
    let padded ← copyToFront (List.replicate 16 0) bytes.length bytes
    return some (demangled (ofLeBytes padded))

/-! ## The mangled number -/

/-- The fields of a mangled number do not overlap. -/
theorem mangled_eq (micros : Nat) (ip : Ipv4Addr) (port : UInt16) :
    mangled micros ip port = (ofLeBytes ip.octets + micros % 2 ^ 32) * 2 ^ 49 +
      (micros % 2 ^ 32) * 2 ^ 17 + (port.toNat + micros % 2 ^ 32 % 2 ^ 16) := by
  have hip := ip.number_lt
  have hport := port.toNat_lt
  have hmask : micros % 2 ^ 32 &&& 0xFFFF = micros % 2 ^ 32 % 2 ^ 16 :=
    Nat.and_two_pow_sub_one_eq_mod _ 16
  have htm := Nat.mod_lt micros (show 0 < 2 ^ 32 by decide)
  unfold mangled shl128
  dsimp only
  rw [hmask]
  generalize micros % 2 ^ 32 = tm at *
  generalize ofLeBytes ip.octets = x at *
  have hhigh : ((x + tm) <<< 49) % 2 ^ 128 = (x + tm) <<< 49 := by
    rw [Nat.shiftLeft_eq]
    omega
  have hmid : (tm <<< 17) % 2 ^ 128 = tm <<< 17 := by
    rw [Nat.shiftLeft_eq]
    omega
  have htm49 : tm <<< 17 < 2 ^ 49 := by
    rw [Nat.shiftLeft_eq]
    omega
  rw [hhigh, hmid, ← Nat.shiftLeft_add_eq_or_of_lt htm49]
  have hsum : (x + tm) <<< 49 + tm <<< 17 = ((x + tm) * 2 ^ 32 + tm) <<< 17 := by
    simp only [Nat.shiftLeft_eq]
    omega
  rw [hsum, ← Nat.shiftLeft_add_eq_or_of_lt (by omega)]
  simp only [Nat.shiftLeft_eq]
  omega

theorem mangled_lt (micros : Nat) (ip : Ipv4Addr) (port : UInt16) :
    mangled micros ip port < 256 ^ 16 := by
  have hip := ip.number_lt
  have hport := port.toNat_lt
  have htm := Nat.mod_lt micros (show 0 < 2 ^ 32 by decide)
  rw [mangled_eq]
  omega

/-- A mangled number gives the address and the port back. -/
theorem demangled_mangled (micros : Nat) (ip : Ipv4Addr) (port : UInt16) :
    demangled (mangled micros ip port) = .v4 ip port := by
  have hip := ip.number_lt
  have hport := port.toNat_lt
  have htm := Nat.mod_lt micros (show 0 < 2 ^ 32 by decide)
  have hnumber := mangled_eq micros ip port
  have hback : leBytes 4 (ofLeBytes ip.octets) = ip.octets := by
    rw [← ip.length_octets]
    exact leBytes_ofLeBytes _
  unfold demangled
  generalize mangled micros ip port = number at *
  generalize micros % 2 ^ 32 = tm at *
  generalize ofLeBytes ip.octets = x at *
  -- the fields, from the highest down
  have hhigh : number / 2 ^ 49 = x + tm :=
    Nat.div_eq_of_lt_le (by omega) (by omega)
  have hmid : number / 2 ^ 17 = (x + tm) * 2 ^ 32 + tm :=
    Nat.div_eq_of_lt_le (by omega) (by omega)
  have hmask : (number >>> 17) &&& 0xFFFFFFFF = tm := by
    rw [show 0xFFFFFFFF = 2 ^ 32 - 1 from rfl, Nat.and_two_pow_sub_one_eq_mod,
      Nat.shiftRight_eq_div_pow, hmid]
    omega
  have hlow : tm &&& 0xFFFF = tm % 2 ^ 16 := Nat.and_two_pow_sub_one_eq_mod _ 16
  have h24 : number &&& 0xFFFFFF = number % 2 ^ 24 := Nat.and_two_pow_sub_one_eq_mod _ 24
  have haddr : (Checked.sub 128 (number >>> 49) tm).val % 2 ^ 32 = x := by
    rw [Nat.shiftRight_eq_div_pow, hhigh, Checked.sub_eq_pure (by omega) (by omega),
      Checked.val_pure]
    omega
  have hport24 : tm % 2 ^ 16 ≤ number % 2 ^ 24 ∧
      (number % 2 ^ 24 - tm % 2 ^ 16) % 2 ^ 16 = port.toNat := by
    generalize hq : (x + tm) * 2 ^ 32 + tm = q at hmid
    have hsplit : number = 2 ^ 17 * q + (port.toNat + tm % 2 ^ 16) := by omega
    have hrest : number % 2 ^ 24 = 2 ^ 17 * (q % 2 ^ 7) + (port.toNat + tm % 2 ^ 16) := by omega
    omega
  have hportBack : (Checked.sub 128 (number % 2 ^ 24) (tm % 2 ^ 16)).val % 2 ^ 16 = port.toNat := by
    rw [Checked.sub_eq_pure (by omega) hport24.1, Checked.val_pure, hport24.2]
  simp only [hmask, hlow, h24, haddr, hportBack, hback]
  rw [UInt16.ofNat_toNat]

/-! ## Round trip -/

/-- What is dropped are zeros. -/
theorem take_countPadding (bytes : List UInt8) :
    bytes.take (bytes.length - countPadding bytes) ++ List.replicate (countPadding bytes) 0
      = bytes := by
  have hzeros : bytes.reverse.takeWhile (· = 0) = List.replicate (countPadding bytes) 0 := by
    rw [List.eq_replicate_iff]
    exact ⟨rfl, fun b hb => by simpa using List.mem_takeWhile_imp hb⟩
  have hsplit : bytes = (bytes.reverse.dropWhile (· = 0)).reverse
      ++ List.replicate (countPadding bytes) 0 := by
    rw [← List.reverse_inj, List.reverse_append, List.reverse_reverse, List.reverse_replicate,
      ← hzeros, List.takeWhile_append_dropWhile]
  generalize (bytes.reverse.dropWhile (· = 0)).reverse = front at hsplit
  generalize countPadding bytes = n at hsplit
  subst hsplit
  rw [List.length_append, List.length_replicate, Nat.add_sub_cancel, List.take_left]

/-- At most 16 bytes are padded to a number. -/
theorem decode_short {bytes : List UInt8} (h : bytes.length ≤ 16) :
    decode bytes = .ok (some (demangled (ofLeBytes bytes))) := by
  have hpadded : copyToFront (List.replicate 16 0) bytes.length bytes
      = .ok (bytes ++ List.replicate (16 - bytes.length) 0) := by
    rw [copyToFront, List.length_replicate, if_pos h, if_pos rfl, List.drop_replicate]
  rw [decode, if_neg (Nat.not_lt.mpr h), hpadded]
  show Except.ok (some (demangled (ofLeBytes (bytes ++ _)))) = _
  rw [ofLeBytes_append_zeros]

/-- 18 bytes are an IPv6 address and a port. -/
theorem decode_long (ip : Ipv6Addr) {port : List UInt8} (h : port.length = 2) :
    decode (ip.octets ++ port)
      = .ok (some (.v6 ip (UInt16.ofNat (ofLeBytes port)) 0 0)) := by
  have hip := ip.length_octets
  have hlen : (ip.octets ++ port).length = 18 := by
    rw [List.length_append, hip, h]
  have hfrom : sliceFrom (ip.octets ++ port) 16 = .ok port := by
    rw [sliceFrom, if_pos (by omega), ← hip, List.drop_left]
  have hto : sliceTo (ip.octets ++ port) 16 = .ok ip.octets := by
    rw [sliceTo, if_pos (by omega), ← hip, List.take_left]
  rw [decode, if_pos (by omega), if_neg (by omega), hfrom, hto]
  simp [bind, Except.bind, pure, Except.pure, h, hip]

/-- Decoding never panics. -/
theorem decode_total (bytes : List UInt8) : ∃ addr, decode bytes = .ok addr := by
  by_cases hshort : bytes.length ≤ 16
  · exact ⟨_, decode_short hshort⟩
  · by_cases hlong : bytes.length = 18
    · have htake : (bytes.take 16).length = 16 := by
        rw [List.length_take]
        omega
      have hdrop : (bytes.drop 16).length = 2 := by
        rw [List.length_drop]
        omega
      have h := decode_long ⟨bytes.take 16, htake⟩ hdrop
      rw [List.take_append_drop] at h
      exact ⟨_, h⟩
    · refine ⟨none, ?_⟩
      rw [decode, if_pos (by omega), if_pos hlong]
      rfl

/-- **Address mangling.** Every address is decoded to its IP and port, whatever the clock
read when it was encoded, and no bytes make decoding panic. -/
theorem mangle_round_trip :
    (∀ micros addr, decode (encode micros addr) = .ok (some (tryIntoV4 addr).plain)) ∧
      ∀ bytes, ∃ addr, decode bytes = .ok addr := by
  refine ⟨fun micros addr => ?_, decode_total⟩
  unfold encode
  cases tryIntoV4 addr with
  | v4 ip port =>
    dsimp only
    have hlen := length_leBytes 16 (mangled micros ip port)
    have hzeros := take_countPadding (leBytes 16 (mangled micros ip port))
    rw [hlen] at hzeros
    have hnumber : ofLeBytes ((leBytes 16 (mangled micros ip port)).take
        (16 - countPadding (leBytes 16 (mangled micros ip port)))) = mangled micros ip port := by
      rw [← ofLeBytes_append_zeros, hzeros]
      exact ofLeBytes_leBytes_of_lt (mangled_lt micros ip port)
    rw [decode_short (Nat.le_trans (List.length_take_le ..) (Nat.sub_le ..)), hnumber,
      demangled_mangled]
    rfl
  | v6 ip port flowinfo scopeId =>
    have hport : ofLeBytes (leBytes 2 port.toNat) = port.toNat :=
      ofLeBytes_leBytes_of_lt port.toNat_lt
    dsimp only
    rw [decode_long ip (length_leBytes _ _), hport, UInt16.ofNat_toNat]
    rfl

end AddrMangle

end StreamBox.RustDesk
