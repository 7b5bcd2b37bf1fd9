import StreamBox.RustDesk.BytesCodec

/-!
# H.264 access units

What `rtp.rs` reads off an Annex B access unit: the last SPS and PPS without their start codes,
whether both are there, whether there is an IDR slice, and the unit without delimiters and
filler data. Every pass of a scan consumes a byte, so the length of the data is enough fuel.
-/

namespace StreamBox.Webrtc

open StreamBox.RustDesk (Bytes)

/-- The start code at the head of the bytes. -/
def startCodeLen : Bytes → Option Nat
  | 0 :: 0 :: 0 :: 1 :: _ => some 4
  | 0 :: 0 :: 1 :: _ => some 3
  | _ => none

/-- The bytes before the next start code, and the rest from there. -/
def untilStartCode : Bytes → Bytes × Bytes
  | [] => ([], [])
  | b :: rest =>
    if (startCodeLen (b :: rest)).isSome then ([], b :: rest)
    else
      let (unit, next) := untilStartCode rest
      (b :: unit, next)

/-- The scan of `extract_sps_pps`. -/
def scanSpsPps : Nat → Bytes → Option Bytes × Option Bytes → Option Bytes × Option Bytes
  | 0, _, found => found
  | _ + 1, [], found => found
  | fuel + 1, b :: rest, (sps, pps) =>
    match startCodeLen (b :: rest) with
    | none => scanSpsPps fuel rest (sps, pps)
    | some len =>
      match (b :: rest).drop len with
      | [] => (sps, pps)
      | header :: body =>
        let (unit, next) := untilStartCode body
        match header &&& 0x1F with
        | 7 => scanSpsPps fuel next (some (header :: unit), pps)
        | 8 => scanSpsPps fuel next (sps, some (header :: unit))
        | _ => scanSpsPps fuel next (sps, pps)

def extractSpsPps (data : Bytes) : Option Bytes × Option Bytes :=
  scanSpsPps data.length data (none, none)

example : extractSpsPps [0, 0, 0, 1, 0x67, 1, 0, 0, 1, 0x68, 2, 0, 0, 1, 0x65, 3] =
    (some [0x67, 1], some [0x68, 2]) := by decide

/-- The scan of `has_sps_pps`, which goes on behind the header of a unit. -/
def scanHasSpsPps : Nat → Bytes → Bool → Bool → Bool
  | 0, _, hasSps, hasPps => hasSps && hasPps
  | _ + 1, [], hasSps, hasPps => hasSps && hasPps
  | fuel + 1, b :: rest, hasSps, hasPps =>
    match startCodeLen (b :: rest) with
    | none => scanHasSpsPps fuel rest hasSps hasPps
    | some len =>
      match (b :: rest).drop len with
      | [] => hasSps && hasPps
      | header :: body =>
        let hasSps := hasSps || header &&& 0x1F == 7
        let hasPps := hasPps || header &&& 0x1F == 8
        if hasSps && hasPps then true else scanHasSpsPps fuel body hasSps hasPps

/-- Check if H264 Annex B data contains SPS and PPS NAL units. -/
def hasSpsPps (data : Bytes) : Bool := scanHasSpsPps data.length data false false

/-- The scan of `is_h264_keyframe`, which goes on at the header of a unit. -/
def scanKeyframe : Nat → Bytes → Bool
  | fuel + 1, 0 :: 0 :: 1 :: header :: rest =>
    header &&& 0x1F == 5 || scanKeyframe fuel (header :: rest)
  | fuel + 1, 0 :: 0 :: 0 :: 1 :: header :: rest =>
    header &&& 0x1F == 5 || scanKeyframe fuel (header :: rest)
  | fuel + 1, _ :: rest => scanKeyframe fuel rest
  | _, _ => false

/-- Check if H264 data contains a keyframe (IDR NAL unit). -/
def isH264Keyframe (data : Bytes) : Bool := scanKeyframe data.length data

/-- The scan of `strip_aud_nal_units`. -/
def scanStripped : Nat → Bytes → Bytes → Bytes
  | 0, _, result => result
  | _ + 1, [], result => result
  | fuel + 1, b :: rest, result =>
    match startCodeLen (b :: rest) with
    | none => scanStripped fuel rest result
    | some len =>
      match (b :: rest).drop len with
      | [] => result
      | header :: body =>
        let (unit, next) := untilStartCode body
        if header &&& 0x1F ≠ 9 ∧ header &&& 0x1F ≠ 12 then
          scanStripped fuel next (result ++ ((b :: rest).take len ++ header :: unit))
        else scanStripped fuel next result

/-- Strip AUD (Access Unit Delimiter) NAL units from H264 Annex B data, and filler data; data
without another unit stays as it is. -/
def stripAudNalUnits (data : Bytes) : Bytes :=
  let result := scanStripped data.length data []
  if result = [] ∧ data ≠ [] then data else result

end StreamBox.Webrtc
