import Mathlib.Data.List.Basic
import StreamBox.Config.Schema

/-!
# RTSP requests

The bytes of a control channel, the texts taken out of them, and what `handle_client` reads
off a text. The RTSP and base64 crates are parameters.
-/

namespace StreamBox.Rtsp

open StreamBox.RustDesk StreamBox.Config

/-! ## Text -/

/-- The UTF-8 bytes of a text. -/
def encodeUtf8 (chars : List Char) : Bytes := chars.flatMap String.utf8EncodeChar

def textBytes (text : String) : Bytes := encodeUtf8 text.toList

def decodeChar (bytes : Bytes) : Option Char := (bytes.take 4).toByteArray.utf8DecodeChar? 0

/-- How many bytes of an ill-formed sequence one replacement character stands for. -/
def invalidLen (bytes : Bytes) : Nat :=
  let b := (bytes.getD 0 0).toNat
  let second := (bytes.getD 1 0).toNat
  let third := (bytes.getD 2 0).toNat
  let within (lo hi : Nat) : Bool := lo ≤ second && second ≤ hi
  if b = 0xE0 && within 0xA0 0xBF || 0xE1 ≤ b && b ≤ 0xEC && within 0x80 0xBF ||
      b = 0xED && within 0x80 0x9F || 0xEE ≤ b && b ≤ 0xEF && within 0x80 0xBF then 2
  else if b = 0xF0 && within 0x90 0xBF || 0xF1 ≤ b && b ≤ 0xF3 && within 0x80 0xBF ||
      b = 0xF4 && within 0x80 0x8F then
    if 0x80 ≤ third && third ≤ 0xBF then 3 else 2
  else 1

/-- Decodes at most the given number of characters. -/
def lossyChars : Nat → Bytes → List Char
  | 0, _ => []
  | _, [] => []
  | n + 1, bytes =>
    match decodeChar bytes with
    | some c => c :: lossyChars n (bytes.drop c.utf8Size)
    | none => '\uFFFD' :: lossyChars n (bytes.drop (invalidLen bytes))

/-- `String::from_utf8_lossy`; no character has fewer bytes than one. -/
def fromUtf8Lossy (bytes : Bytes) : List Char := lossyChars bytes.length bytes

/-- `String::from_utf8`. -/
def fromUtf8 (bytes : Bytes) : Option (List Char) :=
  let chars := fromUtf8Lossy bytes
  if encodeUtf8 chars = bytes then some chars else none

def splitOnce (pat : List Char) : List Char → Option (List Char × List Char)
  | [] => if pat = [] then some ([], []) else none
  | c :: cs =>
    if pat.isPrefixOf (c :: cs) then some ([], (c :: cs).drop pat.length)
    else (splitOnce pat cs).map fun (head, tail) => (c :: head, tail)

def contains (pat text : List Char) : Bool := (splitOnce pat text).isSome

def trim (p : Char → Bool) (text : List Char) : List Char :=
  ((text.dropWhile p).reverse.dropWhile p).reverse

/-- The text up to the first `c`. -/
def upTo (c : Char) (text : List Char) : List Char := text.takeWhile (· != c)

def splitWhitespace (text : List Char) : List (List Char) :=
  (text.splitOnP isWhitespace).filter (· ≠ [])

def toAsciiLowercase (text : List Char) : List Char := text.map Char.toLower

/-- `str::parse::<u8>`. -/
def parseU8 (text : List Char) : Option UInt8 :=
  let digits := match text with | '+' :: rest => rest | _ => text
  if digits = [] || !digits.all Char.isDigit then none
  else
    let value := digits.foldl (fun n c => n * 10 + (c.toNat - '0'.toNat)) 0
    if value ≤ 255 then some (UInt8.ofNat value) else none

/-! ## Messages -/

inductive Method
  | announce | describe | getParameter | options | pause | play | playNotify | record
  | redirect | setup | setParameter | teardown
  | extension (name : String)
  deriving DecidableEq, Repr

inductive Version
  | v1_0 | v2_0
  deriving DecidableEq, Repr

/-- A request as the RTSP crate gives it. -/
structure RawRequest where
  method : Method
  requestUri : Option String
  version : Version
  headers : List (String × String)
  deriving DecidableEq, Repr

inductive Message
  | request (req : RawRequest)
  | response
  | data
  deriving DecidableEq, Repr

/-- `rtsp::Message::parse`: the first message of the bytes and its length. -/
abbrev MessageParser := Bytes → Option (Message × Nat)

structure RtspRequest where
  method : Method
  uri : List Char
  version : Version
  headers : List (List Char × List Char)
  deriving DecidableEq, Repr

def RtspRequest.header (req : RtspRequest) (name : String) : Option (List Char) :=
  req.headers.lookup name.toList

def parseRtspRequest (parse : MessageParser) (raw : List Char) : Option RtspRequest :=
  match parse (encodeUtf8 raw) with
  | none => none
  | some (message, consumed) =>
    if consumed ≠ (encodeUtf8 raw).length then none
    else
      match message with
      | .request request =>
        some
          { method := request.method
            uri := (request.requestUri.getD "").toList
            version := request.version
            -- a header set later replaces one of the same name
            headers := request.headers.foldl
              (fun map (name, value) => (toAsciiLowercase name.toList, value.toList) :: map) [] }
      | _ => none

/-! ## Buffers -/

def findBytes (haystack needle : Bytes) : Option Nat :=
  match haystack with
  | [] => if needle = [] then some 0 else none
  | b :: rest =>
    if needle.isPrefixOf (b :: rest) then some 0 else (findBytes rest needle).map (· + 1)

/-- `\r\n\r\n` -/
def delimiter : Bytes := [0x0D, 0x0A, 0x0D, 0x0A]

def dollar : UInt8 := 0x24

/-- The buffer without the interleaved frame in front, if a whole one is there. -/
def stripInterleavedFramesPrefix (buffer : Bytes) : Option Bytes :=
  match buffer with
  | b :: _ :: hi :: lo :: rest =>
    if b ≠ dollar then none
    else
      let payloadLen := hi.toNat * 256 + lo.toNat
      if rest.length < payloadLen then none else some (rest.drop payloadLen)
  | _ => none

/-- The bytes `take_rtsp_request_from_buffer` drains, and those it leaves. -/
def drainRequest (buffer : Bytes) : Option (Bytes × Bytes) :=
  (findBytes buffer delimiter).map fun pos =>
    (buffer.take (pos + delimiter.length), buffer.drop (pos + delimiter.length))

def takeRtspRequestFromBuffer (buffer : Bytes) : Option (List Char × Bytes) :=
  (drainRequest buffer).map fun (req, rest) => (fromUtf8Lossy req, rest)

/-! ## What a request says -/

/-- `extract_basic_auth`, with the base64 decoder. -/
def extractBasicAuth (decode : List Char → Option Bytes) (req : RtspRequest) :
    Option (List Char × List Char) := do
  let value ← req.header "authorization"
  let scheme :: b64 :: _ := splitWhitespace value | none
  if toAsciiLowercase scheme ≠ "basic".toList then none
  let raw ← fromUtf8 (← decode b64)
  splitOnce [':'] raw

def rtspAuthCredentials (config : RtspConfig) : Option (List Char × List Char) := do
  let username := trim isWhitespace (← config.username).toList
  if username = [] then none
  pure (username, (config.password.getD "").toList)

def parseInterleavedChannel (transport : List Char) : Option UInt8 := do
  let (_, v) ← splitOnce "interleaved=".toList (toAsciiLowercase transport)
  parseU8 (trim isWhitespace (upTo '-' (upTo ';' v)))

def isTcpTransportRequest (transport : List Char) : Bool :=
  (transport.splitOn ',').any fun item =>
    let item := toAsciiLowercase (trim isWhitespace item)
    contains "rtp/avp/tcp".toList item || contains "interleaved=".toList item

def extractRtspPath (uri : List Char) : List Char :=
  let rawPath :=
    match splitOnce "://".toList uri with
    | some (_, remainder) =>
      let path := remainder.dropWhile (· != '/')
      if path = [] then ['/'] else path
    | none => uri
  trim (· == '/') (upTo '#' (upTo '?' rawPath))

def isValidRtspPath (method : Method) (uri configuredPath : List Char) : Bool :=
  if method = .options && trim isWhitespace uri = ['*'] then true
  else
    let normalizedCfg := trim (· == '/') configuredPath
    if normalizedCfg = [] then false
    else
      let requestPath := extractRtspPath uri
      if requestPath = normalizedCfg then true
      else if method ≠ .setup && method ≠ .teardown then false
      else
        requestPath = "trackID=0".toList ||
          requestPath = normalizedCfg ++ "/trackID=0".toList

example : isValidRtspPath .describe "rtsp://127.0.0.1/live/?token=1".toList "/live/".toList := by
  decide +kernel

example : isTcpTransportRequest "RTP/AVP;unicast;interleaved=2-3".toList ∧
    ¬ isTcpTransportRequest "RTP/AVP;unicast;client_port=8000-8001".toList := by
  decide +kernel

end StreamBox.Rtsp
