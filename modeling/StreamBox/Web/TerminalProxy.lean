import StreamBox.Config.Schema
import StreamBox.Lib.HttpMessage
import StreamBox.Lib.Utf8

/-!
# The terminal proxy

`terminal_proxy` writes one request to the socket of ttyd, by string formatting, and reads the
response to its end. The builder of the response to the client is a parameter.

* **Request** — `framed_iff`: what is written is one request for the path and the query just when
  the decoded path needs no encoding, and no length of a body is forwarded.
* **Response** — `bodyForwarded_iff`: the body is what follows the first empty line just when the
  header lines are accepted and the replacements in the decoded copy are as long as what they
  replace, or nothing follows.
* **Failure** — `spaced_path_and_short_replacement`
-/

namespace StreamBox.Web.TerminalProxy

open StreamBox.Lib StreamBox.Lib.Utf8 StreamBox.Lib.Http
open StreamBox.Config (isWhitespace)

/-! ## The request of the client -/

def text (s : String) : Bytes := encode s.toList

/-- The routes are `get` routes, which take `HEAD` too. -/
inductive Method
  | get
  | head
  deriving DecidableEq, Repr

def Method.asStr : Method → String
  | get => "GET"
  | head => "HEAD"

structure HeaderName where
  bytes : Bytes
  ne_nil : bytes ≠ []
  token : ∀ b ∈ bytes, isTokenByte b = true

structure HeaderValue where
  bytes : Bytes
  field : ∀ b ∈ bytes, isFieldByte b = true

/-- The query of a URI, which has no spaces and ends before a fragment. -/
structure Query where
  bytes : Bytes
  visible : ∀ b ∈ bytes, 0x20 < b ∧ b ≠ 0x23

structure ProxyRequest where
  method : Method
  /-- The decoded value of the wildcard; the index pages have none. -/
  path : Option String
  query : Option Query
  headers : List (HeaderName × HeaderValue)

/-! ## The request to ttyd -/

namespace ProxyRequest

variable (r : ProxyRequest)

def pathStr : String := r.path.getD ""

def queryBytes : Option Bytes := r.query.map (·.bytes)

def uriPath : Bytes :=
  text "/api/terminal/" ++
    (if r.pathStr.isEmpty then [] else text r.pathStr) ++ queryPart r.queryBytes

end ProxyRequest

/-- `to_str` gives a text: visible characters of ASCII, and tabs. -/
def HeaderValue.isStr (v : HeaderValue) : Bool :=
  v.bytes.all fun b => b == 0x09 || (0x20 ≤ b && b < 0x7F)

/-- The header is forwarded. -/
def isForwarded (h : HeaderName × HeaderValue) : Bool :=
  h.2.isStr && !([text "connection", text "keep-alive", text "transfer-encoding",
    text "upgrade"].contains (h.1.bytes.map Field.lower))

namespace ProxyRequest

variable (r : ProxyRequest)

def headersStr : Bytes :=
  (r.headers.filter isForwarded).flatMap fun (name, value) =>
    name.bytes ++ text ": " ++ value.bytes ++ text "\r\n"

def httpRequest : Bytes :=
  text r.method.asStr ++ text " " ++ r.uriPath ++
    text " HTTP/1.1\r\nHost: localhost\r\nConnection: close\r\n" ++ r.headersStr ++ text "\r\n"

end ProxyRequest

/-! ## The response -/

inductive AppError
  | internal (message : String)
  deriving DecidableEq, Repr

structure ProxyResponse where
  status : Nat
  headers : List (List Char × List Char)
  body : Bytes
  deriving DecidableEq, Repr

/-- `str::lines`: a line feed ends a line, with the carriage return before it. -/
def lines (text : List Char) : List (List Char) :=
  let parts := text.splitOn '\n'
  parts.dropLast.map (fun line => if line.getLast? = some '\r' then line.dropLast else line) ++
    parts.getLast?.toList.filter (· ≠ [])

/-- `str::parse::<u16>` -/
def parseU16 (text : List Char) : Option Nat :=
  let digits := if text.head? = some '+' then text.tail else text
  if digits = [] ∨ !digits.all Char.isDigit then none
  else
    let value := digits.foldl (fun n c => n * 10 + (c.toNat - '0'.toNat)) 0
    if value ≤ 65535 then some value else none

/-- The status of the response; one that is missing or invalid becomes 200. -/
def statusOf (statusLine : List Char) : Nat :=
  let words := (statusLine.splitOnP isWhitespace).filter (· ≠ [])
  let code := (words[1]?.bind parseU16).getD 200
  if 100 ≤ code ∧ code ≤ 999 then code else 200

/-- `to_lowercase`, as far as its result is ASCII: of the other characters only the Kelvin sign
becomes an ASCII letter. -/
def toLowercase (name : List Char) : List Char :=
  name.map fun c => if c = '\u212A' then 'k' else c.toLower

/-- The header of a line, where there is one that is forwarded. -/
def headerOf (line : List Char) : Option (List Char × List Char) :=
  (cut [':'] line).bind fun (name, value) =>
    let name := trimEnds isWhitespace name
    let value := trimEnds isWhitespace value
    if ["connection".toList, "keep-alive".toList, "transfer-encoding".toList].contains
      (toLowercase name) then none
    else some (name, value)

/-- The headers that the builder is given. -/
def forwardedHeaders (headersPart : List Char) : List (List Char × List Char) :=
  (lines headersPart).tail.filterMap headerOf

/-- What the client gets; `build` gives the error of the builder for a list of headers. -/
def respond (build : List (List Char × List Char) → Option String) (responseBuf : Bytes) :
    Except AppError ProxyResponse :=
  (cut "\r\n\r\n".toList (fromUtf8Lossy responseBuf)).elim
    (.error (.internal "Invalid HTTP response")) fun (headersPart, _) =>
      let bodyStart := utf8Size headersPart + 4
      (lines headersPart).head?.elim (.error (.internal "Missing status line")) fun statusLine =>
        (build (forwardedHeaders headersPart)).elim
          (.ok {
            status := statusOf statusLine
            headers := forwardedHeaders headersPart
            body := if bodyStart < responseBuf.length then responseBuf.drop bodyStart else [] })
          fun e => .error (.internal ("Failed to build response: " ++ e))

/-! ## The properties and their conditions -/

/-- The bytes are one request, and no other, whose target denotes the path and the query. -/
def Framed (r : ProxyRequest) : Prop :=
  ∃ m, IsMessage r.httpRequest m ∧ (∀ m', IsMessage r.httpRequest m' → m' = m) ∧
    Denotes m.target (text "/api/terminal/" ++ text r.pathStr) r.queryBytes

/-- The header as a field of the request to ttyd. -/
def fieldOf (h : HeaderName × HeaderValue) : Field := ⟨h.1.bytes, 0x20 :: h.2.bytes⟩

/-- The decoded path has no spaces, control characters, `?`, `#` and escapes, the query no `DEL`,
and a forwarded length of a body is zero. -/
structure Sendable (r : ProxyRequest) : Prop where
  path : ∀ b ∈ text r.pathStr, isTargetByte b = true
  plain : Plain (text r.pathStr)
  query : ∀ q ∈ r.query, (0x7F : UInt8) ∉ q.bytes
  length : ∀ h ∈ r.headers, isForwarded h = true → (fieldOf h).isContentLength = true →
    (fieldOf h).number = some 0

/-- The body is forwarded that follows the first empty line of the response. -/
def BodyForwarded (build : List (List Char × List Char) → Option String) (raw : Bytes) : Prop :=
  ∀ head rest, IsFirst (text "\r\n\r\n") raw head rest →
    ∃ response, respond build raw = .ok response ∧ response.body = rest

/-- There is a status line or a header, the builder accepts the headers, and the ill-formed pieces
of the header are of three bytes, if a body follows. -/
def Readable (build : List (List Char × List Char) → Option String) (raw : Bytes) : Prop :=
  ∀ head rest, IsFirst (text "\r\n\r\n") raw head rest →
    head ≠ [] ∧ build (forwardedHeaders (fromUtf8Lossy head)) = none ∧
      (rest = [] ∨ ∀ ill, .invalid ill ∈ pieces head → ill.length = 3)

/-! ## What is written -/

/-- The path as the target has it, before the query. -/
def fullPath (r : ProxyRequest) : Bytes := text "/api/terminal/" ++ text r.pathStr

theorem uriPath_eq (r : ProxyRequest) : r.uriPath = fullPath r ++ queryPart r.queryBytes := by
  rw [ProxyRequest.uriPath, fullPath]
  split <;> rename_i hempty
  · rw [String.isEmpty_iff.mp hempty]
    rfl
  · rfl

def fields (r : ProxyRequest) : List Field :=
  ⟨text "Host", text " localhost"⟩ :: ⟨text "Connection", text " close"⟩ ::
    (r.headers.filter isForwarded).map fieldOf

/-- The request that is written. -/
def message (r : ProxyRequest) : Http.Request where
  method := text r.method.asStr
  target := r.uriPath
  fields := fields r
  body := []

theorem headersStr_eq (r : ProxyRequest) :
    r.headersStr = ((r.headers.filter isForwarded).map fieldOf).flatMap Field.line := by
  rw [ProxyRequest.headersStr, List.flatMap_map]
  congr 1
  funext h
  have hcolon : text ": " = [0x3A, 0x20] := by decide
  have hend : text "\r\n" = crlf := by decide
  rw [hcolon, hend, Field.line, fieldOf]
  simp only [List.append_assoc, List.cons_append, List.nil_append]

theorem httpRequest_eq (r : ProxyRequest) : r.httpRequest = (message r).bytes := by
  have hspace : text " " = [0x20] := by decide
  have hhead : text " HTTP/1.1\r\nHost: localhost\r\nConnection: close\r\n" =
      0x20 :: (version ++ crlf ++ (Field.line ⟨text "Host", text " localhost"⟩ ++
        Field.line ⟨text "Connection", text " close"⟩)) := by decide
  have hend : text "\r\n" = crlf := by decide
  rw [ProxyRequest.httpRequest, Http.Request.bytes, message, fields, hspace, hhead, hend,
    headersStr_eq]
  simp only [List.flatMap_cons, List.append_assoc, List.cons_append, List.nil_append,
    List.append_nil]

theorem wellFormed_of_mem {r : ProxyRequest} {f : Field} (h : f ∈ fields r) : f.WellFormed := by
  rcases List.mem_cons.mp h with rfl | h
  · exact ⟨by decide +kernel, by decide +kernel, by decide +kernel⟩
  rcases List.mem_cons.mp h with rfl | h
  · exact ⟨by decide +kernel, by decide +kernel, by decide +kernel⟩
  obtain ⟨header, -, rfl⟩ := List.mem_map.mp h
  refine ⟨header.1.ne_nil, header.1.token, fun b hb => ?_⟩
  rcases List.mem_cons.mp hb with rfl | hb
  · decide
  · exact header.2.field b hb

/-- Nothing that is written has a transfer coding. -/
theorem coding_of_mem {r : ProxyRequest} {f : Field} (h : f ∈ fields r) :
    f.isTransferEncoding = false := by
  rcases List.mem_cons.mp h with rfl | h
  · decide
  rcases List.mem_cons.mp h with rfl | h
  · decide
  obtain ⟨header, hmem, rfl⟩ := List.mem_map.mp h
  have hforwarded := (List.mem_filter.mp hmem).2
  rw [isForwarded, Bool.and_eq_true, Bool.not_eq_true'] at hforwarded
  refine eq_false_of_ne_true fun hcoding => ?_
  have hname : header.1.bytes.map Field.lower = text "transfer-encoding" := eq_of_beq hcoding
  rw [hname] at hforwarded
  exact absurd hforwarded.2 (by decide)

/-- The lengths of a body that are written are those that are forwarded. -/
theorem length_of_mem {r : ProxyRequest} {f : Field} (h : f ∈ fields r)
    (hlength : f.isContentLength = true) :
    ∃ header ∈ r.headers, isForwarded header = true ∧ f = fieldOf header := by
  rcases List.mem_cons.mp h with rfl | h
  · exact absurd hlength (by decide)
  rcases List.mem_cons.mp h with rfl | h
  · exact absurd hlength (by decide)
  obtain ⟨header, hmem, rfl⟩ := List.mem_map.mp h
  obtain ⟨hmem, hforwarded⟩ := List.mem_filter.mp hmem
  exact ⟨header, hmem, hforwarded, rfl⟩

theorem method_token (method : Method) :
    text method.asStr ≠ [] ∧ ∀ b ∈ text method.asStr, isTokenByte b = true := by
  cases method with
  | get => exact ⟨by decide +kernel, by decide +kernel⟩
  | head => exact ⟨by decide +kernel, by decide +kernel⟩

/-! ## When the request is one -/

/-- The constant front of the path is no part of an escape. -/
theorem plain_fullPath_iff (r : ProxyRequest) : Plain (fullPath r) ↔ Plain (text r.pathStr) :=
  plain_append_iff (by decide) (by decide) _

theorem target_iff (r : ProxyRequest) :
    (∀ b ∈ r.uriPath, isTargetByte b = true) ↔
      (∀ b ∈ text r.pathStr, isTargetByte b = true) ∧
        ∀ q ∈ r.query, (0x7F : UInt8) ∉ q.bytes := by
  have hfront : ∀ b ∈ text "/api/terminal/", isTargetByte b = true := by decide +kernel
  have hquery : (∀ b ∈ queryPart r.queryBytes, isTargetByte b = true) ↔
      ∀ q ∈ r.query, (0x7F : UInt8) ∉ q.bytes := by
    rw [ProxyRequest.queryBytes]
    cases r.query with
    | none => exact ⟨fun _ _ h => (by cases h), fun _ _ h => (by cases h)⟩
    | some q =>
      constructor
      · intro h q' hq' hmem
        cases hq'
        exact absurd (h _ (List.mem_cons_of_mem _ hmem)) (by decide)
      · intro h b hb
        rcases List.mem_cons.mp hb with rfl | hb
        · decide
        · obtain ⟨hspace, hfragment⟩ := q.visible b hb
          have hdel : b ≠ 0x7F := by
            rintro rfl
            exact h q rfl hb
          rw [isTargetByte, decide_eq_true hspace, bne_iff_ne.mpr hfragment, bne_iff_ne.mpr hdel]
          rfl
  rw [uriPath_eq, fullPath, List.forall_mem_append, List.forall_mem_append, hquery]
  exact ⟨fun h => ⟨h.1.2, h.2⟩, fun h => ⟨⟨hfront, h.1⟩, h.2⟩⟩

theorem isMessage_of_sendable {r : ProxyRequest} (h : Sendable r) :
    IsMessage r.httpRequest (message r) where
  bytes := httpRequest_eq r
  method := method_token r.method
  target := by
    refine ⟨?_, (target_iff r).mpr ⟨h.path, h.query⟩⟩
    intro hnil
    rw [message, uriPath_eq, List.append_eq_nil_iff, fullPath, List.append_eq_nil_iff] at hnil
    exact absurd hnil.1.1 (by decide)
  fields f hf := wellFormed_of_mem hf
  coding f hf := coding_of_mem hf
  length f hf hlength := by
    obtain ⟨header, hmem, hforwarded, rfl⟩ := length_of_mem hf hlength
    exact h.length header hmem hforwarded hlength
  body _ := rfl

theorem framed_of_sendable {r : ProxyRequest} (h : Sendable r) : Framed r := by
  have hmessage := isMessage_of_sendable h
  refine ⟨message r, hmessage, fun m' hm' => hm'.unique hmessage, ?_⟩
  rw [message, uriPath_eq]
  exact denotes_of_plain ((plain_fullPath_iff r).mpr h.plain) r.queryBytes

theorem sendable_of_framed {r : ProxyRequest} (h : Framed r) : Sendable r := by
  obtain ⟨m, hm, -, hdenotes⟩ := h
  have heq := (httpRequest_eq r).symm.trans hm.bytes
  obtain ⟨-, htail⟩ := cut_unique 0x20 (method_token r.method).2 hm.method.2 (by decide) heq
  -- the target ends at the first space, which may be one of the path
  have hstarts := prefix_of_cut 0x20 hm.target.2 (by decide) htail
  change m.target <+: r.uriPath at hstarts
  rw [uriPath_eq] at hstarts
  obtain ⟨htarget, hplain⟩ := plain_of_denotes hstarts hdenotes
  rw [← uriPath_eq] at htarget
  rw [htarget] at htail
  have hrest := (List.cons.inj (List.append_cancel_left htail)).2
  obtain ⟨hfields, hbody⟩ :=
    fields_unique (fun f hf => wellFormed_of_mem hf) hm.fields (List.append_cancel_left hrest)
  obtain ⟨hpath, hquery⟩ := (target_iff r).mp (htarget ▸ hm.target.2)
  refine ⟨hpath, (plain_fullPath_iff r).mp hplain, hquery, fun header hmem hforwarded hlength => ?_⟩
  have hfield : fieldOf header ∈ fields r :=
    List.mem_cons_of_mem _ (List.mem_cons_of_mem _
      (List.mem_map_of_mem (List.mem_filter.mpr ⟨hmem, hforwarded⟩)))
  have hnumber := hm.length _ (hfields ▸ hfield) hlength
  rw [← hbody] at hnumber
  exact hnumber

theorem framed_iff (r : ProxyRequest) : Framed r ↔ Sendable r :=
  ⟨sendable_of_framed, framed_of_sendable⟩

/-! ## When the body is forwarded -/

theorem lines_head?_eq_none_iff (text : List Char) : (lines text).head? = none ↔ text = [] := by
  rw [List.head?_eq_none_iff, lines, List.append_eq_nil_iff, List.map_eq_nil_iff]
  constructor
  · rintro ⟨hinit, hlast⟩
    have hne := List.splitOn_ne_nil '\n' text
    have hsplit := List.dropLast_append_getLast hne
    rw [hinit, List.nil_append] at hsplit
    rw [List.getLast?_eq_some_getLast hne, Option.toList_some, List.filter_singleton] at hlast
    have hempty : (text.splitOn '\n').getLast hne = [] := by
      by_contra hne'
      simp [hne'] at hlast
    have hjoin : ['\n'].intercalate (text.splitOn '\n') = text := List.intercalate_splitOn '\n'
    rw [← hjoin, ← hsplit, hempty]
    rfl
  · rintro rfl
    exact ⟨rfl, rfl⟩

/-- The answer to a response with an empty line, in terms of the text before it. -/
theorem respond_eq {build : List (List Char × List Char) → Option String} {raw head rest : Bytes}
    (h : IsFirst (text "\r\n\r\n") raw head rest) :
    respond build raw =
      (lines (fromUtf8Lossy head)).head?.elim (.error (.internal "Missing status line"))
        fun statusLine =>
          (build (forwardedHeaders (fromUtf8Lossy head))).elim
            (.ok ⟨statusOf statusLine, forwardedHeaders (fromUtf8Lossy head),
              raw.drop (utf8Size (fromUtf8Lossy head) + 4)⟩)
            fun e => .error (.internal ("Failed to build response: " ++ e)) := by
  have hcut : cut "\r\n\r\n".toList (fromUtf8Lossy raw) =
      some (fromUtf8Lossy head, fromUtf8Lossy rest) :=
    cut_of_isFirst (isFirst_fromUtf8Lossy (by decide +kernel) (by decide +kernel) h)
  have hdrop : ∀ n, (if n < raw.length then raw.drop n else []) = raw.drop n := by
    intro n
    split
    · rfl
    · exact (List.drop_eq_nil_of_le (by omega)).symm
  rw [respond, hcut, Option.elim_some]
  simp only [hdrop]

/-- What is forwarded is what follows, if nothing does or the text is as long as the bytes. -/
theorem drop_iff {raw head rest : Bytes} (h : raw = head ++ text "\r\n\r\n" ++ rest) :
    raw.drop (utf8Size (fromUtf8Lossy head) + 4) = rest ↔
      rest = [] ∨ ∀ ill, .invalid ill ∈ pieces head → ill.length = 3 := by
  obtain ⟨hle, hsame⟩ := utf8Size_fromUtf8Lossy_iff head
  obtain ⟨d, hd⟩ := Nat.exists_eq_add_of_le hle
  have hdrop : raw.drop (utf8Size (fromUtf8Lossy head) + 4) = rest.drop d := by
    have hlength : utf8Size (fromUtf8Lossy head) + 4 =
        (head ++ text "\r\n\r\n").length + d := by
      rw [List.length_append, show (text "\r\n\r\n").length = 4 from by decide, hd]
      omega
    rw [hlength, h, List.drop_length_add_append]
  rw [hdrop, ← hsame, hd, Nat.add_eq_left]
  constructor
  · intro heq
    have hlength := congrArg List.length heq
    rw [List.length_drop] at hlength
    cases rest with
    | nil => exact .inl rfl
    | cons b rest =>
      rw [List.length_cons] at hlength
      exact .inr (by omega)
  · rintro (rfl | rfl)
    · exact List.drop_nil
    · rfl

theorem bodyForwarded_iff (build : List (List Char × List Char) → Option String) (raw : Bytes) :
    BodyForwarded build raw ↔ Readable build raw := by
  refine forall_congr' fun head => forall_congr' fun rest => forall_congr' fun h => ?_
  have hempty : (lines (fromUtf8Lossy head)).head? = none ↔ head = [] := by
    rw [lines_head?_eq_none_iff, fromUtf8Lossy_eq_nil_iff]
  rw [respond_eq h, ← drop_iff h.eq]
  cases hline : (lines (fromUtf8Lossy head)).head? with
  | none =>
    constructor
    · rintro ⟨response, hresponse, -⟩
      cases hresponse
    · rintro ⟨hne, -⟩
      exact absurd (hempty.mp hline) hne
  | some statusLine =>
    have hne : head ≠ [] := by
      intro hnil
      rw [hempty.mpr hnil] at hline
      cases hline
    cases hbuild : build (forwardedHeaders (fromUtf8Lossy head)) with
    | none =>
      constructor
      · rintro ⟨response, hresponse, hbody⟩
        cases hresponse
        exact ⟨hne, rfl, hbody⟩
      · rintro ⟨-, -, hbody⟩
        exact ⟨_, rfl, hbody⟩
    | some e =>
      constructor
      · rintro ⟨response, hresponse, -⟩
        cases hresponse
      · rintro ⟨-, hnone, -⟩
        cases hnone

/-- When the proxy writes one request for the path and the query, and when it forwards the body of
a response. -/
theorem framing_iff (build : List (List Char × List Char) → Option String) :
    (∀ r, Framed r ↔ Sendable r) ∧ ∀ raw, BodyForwarded build raw ↔ Readable build raw :=
  ⟨framed_iff, bodyForwarded_iff build⟩

/-- The path `a b`, and a response with a byte that is no UTF-8 in its header. -/
theorem spaced_path_and_short_replacement :
    ¬ Framed ⟨.get, some "a b", none, []⟩ ∧
      ¬ BodyForwarded (fun _ => none) (text "A:" ++ 0xFF :: text "\r\n\r\nbody") := by
  constructor
  · intro h
    exact absurd (sendable_of_framed h).path (by decide)
  · intro h
    have hfirst : IsFirst (text "\r\n\r\n") (text "A:" ++ 0xFF :: text "\r\n\r\nbody")
        (text "A:" ++ [0xFF]) (text "body") := ⟨by decide, by decide⟩
    have hill : Piece.invalid [0xFF] ∈ pieces (text "A:" ++ [0xFF]) := by decide +kernel
    rcases ((bodyForwarded_iff _ _).mp h _ _ hfirst).2.2 with hnil | hthree
    · exact absurd hnil (by decide)
    · exact absurd (hthree _ hill) (by decide)

end StreamBox.Web.TerminalProxy
