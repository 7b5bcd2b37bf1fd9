import StreamBox.Lib.PathRouter

/-!
# The API route table

`create_router` nests the API routes under `/api`: the public routes, the
user routes, the stream routes and the upload routes. A request is routed by
its path first (`Lib.lookup`) and by its method among the routes of the matched
pattern. The static-file routes of the main router (`/` and `/{*path}`) sit
below every `/api` pattern in the search, so they are left out.
-/

namespace StreamBox.Web

open StreamBox.Lib

inductive Method
  | get | head | post | put | delete | patch | options | connect | trace
  | other (name : String)
  deriving DecidableEq, Repr

/-- The method router a route is registered with; `get` also serves `HEAD`. -/
inductive MethodFilter
  | get | post | patch | delete | any
  deriving DecidableEq, Repr

def MethodFilter.accepts : MethodFilter → Method → Bool
  | .any, _ => true
  | .get, .get => true
  | .get, .head => true
  | .post, .post => true
  | .patch, .patch => true
  | .delete, .delete => true
  | _, _ => false

inductive Handler
  | healthCheck | login | setupStatus | setupInit | systemInfo | logout | authCheck
  | changePassword | changeUsername | listDevices | wsHandler | streamState | streamStart
  | streamStop | streamModeGet | streamModeSet | streamSetBitrate | streamCodecsList
  | streamConstraintsGet | videoEncoderSelfCheck | webrtcCreateSession | webrtcOffer
  | webrtcIceCandidate | webrtcIceServers | webrtcStatus | webrtcCloseSession | hidStatus
  | hidOtgSelfCheck | hidReset | wsHidHandler | audioStatus | startAudioStreaming
  | stopAudioStreaming | setAudioQuality | selectAudioDevice | listAudioDevices
  | audioWsHandler | getAllConfig | updateConfig | getVideoConfig | updateVideoConfig
  | getStreamConfig | updateStreamConfig | getHidConfig | updateHidConfig | getMsdConfig
  | updateMsdConfig | getAtxConfig | updateAtxConfig | getAudioConfig | updateAudioConfig
  | getRustdeskConfig | updateRustdeskConfig | getRustdeskStatus | getDevicePassword
  | regenerateDeviceId | regenerateDevicePassword | getRtspConfig | updateRtspConfig
  | getRtspStatus | getWebConfig | updateWebConfig | getAuthConfig | updateAuthConfig
  | systemRestart | updateOverview | updateUpgrade | updateStatus | msdStatus | msdImagesList
  | msdImageDownload | msdImageDownloadCancel | msdImageGet | msdImageDelete | msdConnect
  | msdDisconnect | msdDriveInfo | msdDriveDelete | msdDriveInit | msdDriveFiles
  | msdDriveDownload | msdDriveFileDelete | msdDriveMkdir | atxStatus | atxPower | atxWol
  | atxWolHistory | listAtxDevices | listExtensions | getExtension | startExtension
  | stopExtension | getExtensionLogs | updateTtydConfig | updateGostcConfig
  | updateEasytierConfig | terminalIndex | terminalWs | terminalProxy | mjpegStream | snapshot
  | msdImageUpload | msdDriveUpload
  deriving DecidableEq, Repr

structure Route where
  pattern : Pattern
  filter : MethodFilter
  handler : Handler
  deriving DecidableEq, Repr

/-- Public routes (no auth required). -/
def publicRoutes : List Route := [
  ⟨[.lit "health"], .get, .healthCheck⟩,
  ⟨[.lit "auth", .lit "login"], .post, .login⟩,
  ⟨[.lit "setup"], .get, .setupStatus⟩,
  ⟨[.lit "setup", .lit "init"], .post, .setupInit⟩]

/-- Authenticated routes (all logged-in users). -/
def userRoutes : List Route := [
  ⟨[.lit "info"], .get, .systemInfo⟩,
  ⟨[.lit "auth", .lit "logout"], .post, .logout⟩,
  ⟨[.lit "auth", .lit "check"], .get, .authCheck⟩,
  ⟨[.lit "auth", .lit "password"], .post, .changePassword⟩,
  ⟨[.lit "auth", .lit "username"], .post, .changeUsername⟩,
  ⟨[.lit "devices"], .get, .listDevices⟩,
  ⟨[.lit "ws"], .any, .wsHandler⟩,
  ⟨[.lit "stream", .lit "status"], .get, .streamState⟩,
  ⟨[.lit "stream", .lit "start"], .post, .streamStart⟩,
  ⟨[.lit "stream", .lit "stop"], .post, .streamStop⟩,
  ⟨[.lit "stream", .lit "mode"], .get, .streamModeGet⟩,
  ⟨[.lit "stream", .lit "mode"], .post, .streamModeSet⟩,
  ⟨[.lit "stream", .lit "bitrate"], .post, .streamSetBitrate⟩,
  ⟨[.lit "stream", .lit "codecs"], .get, .streamCodecsList⟩,
  ⟨[.lit "stream", .lit "constraints"], .get, .streamConstraintsGet⟩,
  ⟨[.lit "video", .lit "encoder", .lit "self-check"], .get, .videoEncoderSelfCheck⟩,
  ⟨[.lit "webrtc", .lit "session"], .post, .webrtcCreateSession⟩,
  ⟨[.lit "webrtc", .lit "offer"], .post, .webrtcOffer⟩,
  ⟨[.lit "webrtc", .lit "ice"], .post, .webrtcIceCandidate⟩,
  ⟨[.lit "webrtc", .lit "ice-servers"], .get, .webrtcIceServers⟩,
  ⟨[.lit "webrtc", .lit "status"], .get, .webrtcStatus⟩,
  ⟨[.lit "webrtc", .lit "close"], .post, .webrtcCloseSession⟩,
  ⟨[.lit "hid", .lit "status"], .get, .hidStatus⟩,
  ⟨[.lit "hid", .lit "otg", .lit "self-check"], .get, .hidOtgSelfCheck⟩,
  ⟨[.lit "hid", .lit "reset"], .post, .hidReset⟩,
  ⟨[.lit "ws", .lit "hid"], .any, .wsHidHandler⟩,
  ⟨[.lit "audio", .lit "status"], .get, .audioStatus⟩,
  ⟨[.lit "audio", .lit "start"], .post, .startAudioStreaming⟩,
  ⟨[.lit "audio", .lit "stop"], .post, .stopAudioStreaming⟩,
  ⟨[.lit "audio", .lit "quality"], .post, .setAudioQuality⟩,
  ⟨[.lit "audio", .lit "device"], .post, .selectAudioDevice⟩,
  ⟨[.lit "audio", .lit "devices"], .get, .listAudioDevices⟩,
  ⟨[.lit "ws", .lit "audio"], .any, .audioWsHandler⟩,
  ⟨[.lit "config"], .get, .getAllConfig⟩,
  ⟨[.lit "config"], .post, .updateConfig⟩,
  ⟨[.lit "config", .lit "video"], .get, .getVideoConfig⟩,
  ⟨[.lit "config", .lit "video"], .patch, .updateVideoConfig⟩,
  ⟨[.lit "config", .lit "stream"], .get, .getStreamConfig⟩,
  ⟨[.lit "config", .lit "stream"], .patch, .updateStreamConfig⟩,
  ⟨[.lit "config", .lit "hid"], .get, .getHidConfig⟩,
  ⟨[.lit "config", .lit "hid"], .patch, .updateHidConfig⟩,
  ⟨[.lit "config", .lit "msd"], .get, .getMsdConfig⟩,
  ⟨[.lit "config", .lit "msd"], .patch, .updateMsdConfig⟩,
  ⟨[.lit "config", .lit "atx"], .get, .getAtxConfig⟩,
  ⟨[.lit "config", .lit "atx"], .patch, .updateAtxConfig⟩,
  ⟨[.lit "config", .lit "audio"], .get, .getAudioConfig⟩,
  ⟨[.lit "config", .lit "audio"], .patch, .updateAudioConfig⟩,
  ⟨[.lit "config", .lit "rustdesk"], .get, .getRustdeskConfig⟩,
  ⟨[.lit "config", .lit "rustdesk"], .patch, .updateRustdeskConfig⟩,
  ⟨[.lit "config", .lit "rustdesk", .lit "status"], .get, .getRustdeskStatus⟩,
  ⟨[.lit "config", .lit "rustdesk", .lit "password"], .get, .getDevicePassword⟩,
  ⟨[.lit "config", .lit "rustdesk", .lit "regenerate-id"], .post, .regenerateDeviceId⟩,
  ⟨[.lit "config", .lit "rustdesk", .lit "regenerate-password"], .post, .regenerateDevicePassword⟩,
  ⟨[.lit "config", .lit "rtsp"], .get, .getRtspConfig⟩,
  ⟨[.lit "config", .lit "rtsp"], .patch, .updateRtspConfig⟩,
  ⟨[.lit "config", .lit "rtsp", .lit "status"], .get, .getRtspStatus⟩,
  ⟨[.lit "config", .lit "web"], .get, .getWebConfig⟩,
  ⟨[.lit "config", .lit "web"], .patch, .updateWebConfig⟩,
  ⟨[.lit "config", .lit "auth"], .get, .getAuthConfig⟩,
  ⟨[.lit "config", .lit "auth"], .patch, .updateAuthConfig⟩,
  ⟨[.lit "system", .lit "restart"], .post, .systemRestart⟩,
  ⟨[.lit "update", .lit "overview"], .get, .updateOverview⟩,
  ⟨[.lit "update", .lit "upgrade"], .post, .updateUpgrade⟩,
  ⟨[.lit "update", .lit "status"], .get, .updateStatus⟩,
  ⟨[.lit "msd", .lit "status"], .get, .msdStatus⟩,
  ⟨[.lit "msd", .lit "images"], .get, .msdImagesList⟩,
  ⟨[.lit "msd", .lit "images", .lit "download"], .post, .msdImageDownload⟩,
  ⟨[.lit "msd", .lit "images", .lit "download", .lit "cancel"], .post, .msdImageDownloadCancel⟩,
  ⟨[.lit "msd", .lit "images", .param "id"], .get, .msdImageGet⟩,
  ⟨[.lit "msd", .lit "images", .param "id"], .delete, .msdImageDelete⟩,
  ⟨[.lit "msd", .lit "connect"], .post, .msdConnect⟩,
  ⟨[.lit "msd", .lit "disconnect"], .post, .msdDisconnect⟩,
  ⟨[.lit "msd", .lit "drive"], .get, .msdDriveInfo⟩,
  ⟨[.lit "msd", .lit "drive"], .delete, .msdDriveDelete⟩,
  ⟨[.lit "msd", .lit "drive", .lit "init"], .post, .msdDriveInit⟩,
  ⟨[.lit "msd", .lit "drive", .lit "files"], .get, .msdDriveFiles⟩,
  ⟨[.lit "msd", .lit "drive", .lit "files", .wild "path"], .get, .msdDriveDownload⟩,
  ⟨[.lit "msd", .lit "drive", .lit "files", .wild "path"], .delete, .msdDriveFileDelete⟩,
  ⟨[.lit "msd", .lit "drive", .lit "mkdir", .wild "path"], .post, .msdDriveMkdir⟩,
  ⟨[.lit "atx", .lit "status"], .get, .atxStatus⟩,
  ⟨[.lit "atx", .lit "power"], .post, .atxPower⟩,
  ⟨[.lit "atx", .lit "wol"], .post, .atxWol⟩,
  ⟨[.lit "atx", .lit "wol", .lit "history"], .get, .atxWolHistory⟩,
  ⟨[.lit "devices", .lit "atx"], .get, .listAtxDevices⟩,
  ⟨[.lit "extensions"], .get, .listExtensions⟩,
  ⟨[.lit "extensions", .param "id"], .get, .getExtension⟩,
  ⟨[.lit "extensions", .param "id", .lit "start"], .post, .startExtension⟩,
  ⟨[.lit "extensions", .param "id", .lit "stop"], .post, .stopExtension⟩,
  ⟨[.lit "extensions", .param "id", .lit "logs"], .get, .getExtensionLogs⟩,
  ⟨[.lit "extensions", .lit "ttyd", .lit "config"], .patch, .updateTtydConfig⟩,
  ⟨[.lit "extensions", .lit "gostc", .lit "config"], .patch, .updateGostcConfig⟩,
  ⟨[.lit "extensions", .lit "easytier", .lit "config"], .patch, .updateEasytierConfig⟩,
  ⟨[.lit "terminal"], .get, .terminalIndex⟩,
  ⟨[.lit "terminal", .lit ""], .get, .terminalIndex⟩,
  ⟨[.lit "terminal", .lit "ws"], .get, .terminalWs⟩,
  ⟨[.lit "terminal", .wild "path"], .get, .terminalProxy⟩]

/-- Protected routes (all authenticated users). -/
def protectedRoutes : List Route := userRoutes

/-- Stream endpoints. -/
def streamRoutes : List Route := [
  ⟨[.lit "stream"], .get, .mjpegStream⟩,
  ⟨[.lit "stream", .lit "mjpeg"], .get, .mjpegStream⟩,
  ⟨[.lit "snapshot"], .get, .snapshot⟩]

/-- Large file upload routes. -/
def uploadRoutes : List Route := [
  ⟨[.lit "msd", .lit "images"], .post, .msdImageUpload⟩,
  ⟨[.lit "msd", .lit "drive", .lit "files"], .post, .msdDriveUpload⟩]

/-- The routes of the API, all of them behind the authentication middleware. -/
def apiRoutes : List Route :=
  publicRoutes ++ protectedRoutes ++ streamRoutes ++ uploadRoutes

/-- The pattern as the main router sees it. -/
def nest (p : Pattern) : Pattern := .lit "api" :: p

/-- The API route that serves `m` on the absolute path, if any: no route when
no pattern matches or when the matched pattern does not serve the method. -/
def createRouter (m : Method) (path : List Char) : Option Route :=
  (pathSegs path).bind fun segs =>
    (lookup (apiRoutes.map fun r => (nest r.pattern, r.pattern)) segs).bind fun p =>
      apiRoutes.find? fun r => r.pattern == p && r.filter.accepts m

/-- The routes whose last segment is a parameter or a wildcard. -/
def dynamicRoutes : List Route := [
  ⟨[.lit "msd", .lit "images", .param "id"], .get, .msdImageGet⟩,
  ⟨[.lit "msd", .lit "images", .param "id"], .delete, .msdImageDelete⟩,
  ⟨[.lit "msd", .lit "drive", .lit "files", .wild "path"], .get, .msdDriveDownload⟩,
  ⟨[.lit "msd", .lit "drive", .lit "files", .wild "path"], .delete, .msdDriveFileDelete⟩,
  ⟨[.lit "msd", .lit "drive", .lit "mkdir", .wild "path"], .post, .msdDriveMkdir⟩,
  ⟨[.lit "extensions", .param "id"], .get, .getExtension⟩,
  ⟨[.lit "terminal", .wild "path"], .get, .terminalProxy⟩]

theorem mem_dynamicRoutes_iff : ∀ r ∈ apiRoutes,
    (r ∈ dynamicRoutes ↔ r.pattern.lastLit? = none) := by
  decide +kernel

theorem dynamicRoutes_not_public : ∀ r ∈ dynamicRoutes, r ∉ publicRoutes := by
  decide +kernel

theorem dynamicRoutes_sub : ∀ r ∈ dynamicRoutes, r ∈ apiRoutes := by
  decide +kernel

/-- Two dynamic patterns that match one path are the same pattern. -/
theorem dynamicRoutes_pattern_unique {r q : Route} {segs : List (List Char)}
    (hr : r ∈ dynamicRoutes) (hq : q ∈ dynamicRoutes)
    (hmr : (nest r.pattern).matches segs = true) (hmq : (nest q.pattern).matches segs = true) :
    r.pattern = q.pattern := by
  have hdec : ∀ r ∈ dynamicRoutes, ∀ q ∈ dynamicRoutes,
      (nest r.pattern).litPrefix.map String.toList <+:
        (nest q.pattern).litPrefix.map String.toList → r.pattern = q.pattern := by
    decide +kernel
  rcases List.prefix_or_prefix_of_prefix (Pattern.litPrefix_of_matches hmr)
    (Pattern.litPrefix_of_matches hmq) with h | h
  · exact hdec r hr q hq h
  · exact (hdec q hq r hr h).symm

/-- What a routed request says: the route is in the table, serves the method,
and its nested pattern matches the path. -/
theorem createRouter_sound {m : Method} {path : List Char} {r : Route}
    (h : createRouter m path = some r) :
    r ∈ apiRoutes ∧ r.filter.accepts m = true ∧
      ∃ segs, pathSegs path = some segs ∧ (nest r.pattern).matches segs = true := by
  simp only [createRouter, Option.bind_eq_some_iff] at h
  obtain ⟨segs, hsegs, p, hp, hfind⟩ := h
  obtain ⟨p', hmem, hm⟩ := lookup_sound hp
  obtain ⟨r', -, hr'⟩ := List.mem_map.mp hmem
  have hcond := List.find?_some hfind
  simp only [Bool.and_eq_true, beq_iff_eq] at hcond
  simp only [Prod.mk.injEq] at hr'
  refine ⟨List.mem_of_find?_eq_some hfind, hcond.2, segs, hsegs, ?_⟩
  rw [hcond.1, ← hr'.2, hr'.1]
  exact hm

end StreamBox.Web
