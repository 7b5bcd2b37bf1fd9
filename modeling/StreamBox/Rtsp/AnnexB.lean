import StreamBox.Webrtc.Rtp

/-!
# The NAL units of a frame

`split_annexb_nal_units`: what the RTSP service takes parameter sets from.
-/

namespace StreamBox.Rtsp

open StreamBox.RustDesk (Bytes)
open StreamBox.Webrtc (startCodeLen)

/-- The scan for a start code: the bytes from index `i` on. -/
def scanAnnexbStartCode : Nat → Bytes → Option (Nat × Nat)
  | _, [] => none
  | i, b :: rest =>
    match startCodeLen (b :: rest) with
    | some len => some (i, len)
    | none => scanAnnexbStartCode (i + 1) rest

/-- Where the next start code begins and how long it is. -/
def findAnnexbStartCode (data : Bytes) (start : Nat) : Option (Nat × Nat) :=
  scanAnnexbStartCode start (data.drop start)

/-- The bytes without the zeros at their end. -/
def trimZeros (nal : Bytes) : Bytes := (nal.reverse.dropWhile (· = 0)).reverse

/-- The loop of `split_annexb_nal_units`. Every pass goes past a start code, so the length of the
data is enough fuel. -/
def splitLoop (data : Bytes) : Nat → Nat → List Bytes
  | 0, _ => []
  | fuel + 1, cursor =>
    match findAnnexbStartCode data cursor with
    | none => []
    | some (start, startCodeLen) =>
      let nalStart := start + startCodeLen
      if nalStart ≥ data.length then []
      else
        let nextStart := ((findAnnexbStartCode data nalStart).map Prod.fst).getD data.length
        let nal := trimZeros ((data.take nextStart).drop nalStart)
        if nal ≠ [] then nal :: splitLoop data fuel nextStart else splitLoop data fuel nextStart

def splitAnnexbNalUnits (data : Bytes) : List Bytes := splitLoop data data.length 0

def h264NalType (nal : Bytes) : Option UInt8 := nal.head?.map (· &&& 0x1F)

end StreamBox.Rtsp
